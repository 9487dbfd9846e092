/-
  The panels of a bookcase and where their boxes meet.

  A panel is one of twelve kinds at a place of the grid.  Two different panels are apart along
  some axis or share a groove, unless the back is mounted on the surface behind cabinets or the
  stock is so thin that two grooves of one panel meet (`KeepsClear`).
-/
import Custombuild.Domain.Grid

namespace Custombuild.Domain

open Custombuild.Lib

inductive Panel
  | leftSide | rightSide | bottom | top
  | divider (bay : Bay)
  | shelf (row : Nat × Int) (bay : Bay)
  | baseSide (cabinet : Bay)
  | baseBottom (cabinet : Bay)
  | cabinetFront (cabinet : Bay)
  | surfaceBack
  | insetBack (bay : Bay)
  | plinth

namespace Panel

def plan (p : BookcaseParameters) (capture : Int) : Panel → PartPlan
  | leftSide => leftSidePlan p
  | rightSide => rightSidePlan p
  | bottom => bottomPlan p
  | top => topPlan p
  | divider bay => dividerPlan p bay
  | shelf row bay => shelfPlan p row bay
  | baseSide cabinet => baseSidePlan p cabinet
  | baseBottom cabinet => baseBottomPlan p cabinet
  | cabinetFront cabinet => cabinetFrontPlan p cabinet
  | surfaceBack => surfaceBackPlan p
  | insetBack bay => insetBackPlan p capture bay
  | plinth => plinthPlan p

/-- Whether the bookcase has the panel. -/
def Present (p : BookcaseParameters) : Panel → Prop
  | leftSide | rightSide | bottom | top => True
  | divider bay => bay ∈ p.bays ∧ bay.index < p.verticalDividerCount
  | shelf row bay => row ∈ shelfRows p ∧ bay ∈ p.bays
  | baseSide cabinet => p.baseCabinetCount ≠ 0 ∧ cabinet ∈ p.cabinets ∧ 0 < cabinet.index
  | baseBottom cabinet | cabinetFront cabinet => p.baseCabinetCount ≠ 0 ∧ cabinet ∈ p.cabinets
  | surfaceBack => p.backPanel = .surfaceMounted
  | insetBack bay => p.backPanel = .insetGroove ∧ bay ∈ p.bays
  | plinth => p.plinthHeightUm ≠ 0

end Panel

/-! ## The panels are the plans -/

theorem mem_take_baysOf {t : Int} {widths : List Int} {n : Nat} {bay : Bay} :
    bay ∈ (baysOf t widths).take n ↔ bay ∈ baysOf t widths ∧ bay.index < n := by
  have hindex : ∀ (k : Nat) (h : k < (baysOf t widths).length), (baysOf t widths)[k].index = k := by
    intro k h
    have := congrArg (fun l : List Nat => l[k]?) (map_index_baysOf t widths)
    rw [length_baysOf] at h
    simpa [List.getElem?_eq_getElem, h, length_baysOf] using this
  constructor
  · intro h
    obtain ⟨k, hk, rfl⟩ := List.mem_take_iff_getElem.mp h
    have hlt : k < (baysOf t widths).length := by omega
    refine ⟨List.getElem_mem hlt, ?_⟩
    rw [hindex k hlt]
    omega
  · rintro ⟨hbay, hlt⟩
    obtain ⟨k, hk, rfl⟩ := List.mem_iff_getElem.mp hbay
    rw [hindex k hk] at hlt
    exact List.mem_take_iff_getElem.mpr ⟨k, by omega, rfl⟩

theorem mem_drop_one_baysOf {t : Int} {widths : List Int} {bay : Bay} :
    bay ∈ (baysOf t widths).drop 1 ↔ bay ∈ baysOf t widths ∧ 0 < bay.index := by
  rw [baysOf_eq]
  cases widths with
  | nil => simp [baysFrom]
  | cons width widths =>
    simp only [baysFrom, List.drop_succ_cons, List.drop_zero, List.mem_cons, Nat.zero_add]
    have hpos : ∀ bay ∈ baysFrom t 1 (t + width + t) widths, 0 < bay.index := by
      intro bay hbay
      have hmem : bay.index ∈ (baysFrom t 1 (t + width + t) widths).map Bay.index :=
        List.mem_map_of_mem hbay
      rw [map_index_baysFrom, List.mem_range'] at hmem
      omega
    constructor
    · intro hbay
      exact ⟨Or.inr hbay, hpos bay hbay⟩
    · rintro ⟨rfl | hbay, hlt⟩
      · exact absurd hlt (Nat.lt_irrefl _)
      · exact hbay

/-- A plan is made for exactly the panels of the bookcase. -/
theorem mem_partPlans {p : BookcaseParameters} {capture : Int} {plan : PartPlan} :
    plan ∈ partPlans p capture ↔ ∃ panel : Panel, panel.Present p ∧ panel.plan p capture = plan := by
  constructor
  · intro h
    simp only [partPlans, List.mem_append, or_assoc] at h
    rcases h with h | h | h | h | h | h
    · simp only [List.mem_cons, List.not_mem_nil, or_false] at h
      rcases h with rfl | rfl | rfl | rfl
      · exact ⟨.leftSide, trivial, rfl⟩
      · exact ⟨.rightSide, trivial, rfl⟩
      · exact ⟨.bottom, trivial, rfl⟩
      · exact ⟨.top, trivial, rfl⟩
    · obtain ⟨bay, hbay, rfl⟩ := List.mem_map.mp h
      exact ⟨.divider bay, mem_take_baysOf.mp hbay, rfl⟩
    · obtain ⟨row, hrow, h⟩ := List.mem_flatMap.mp h
      obtain ⟨bay, hbay, rfl⟩ := List.mem_map.mp h
      exact ⟨.shelf row bay, ⟨hrow, hbay⟩, rfl⟩
    · unfold basePlans at h
      split at h
      · next hbase =>
        rcases List.mem_append.mp h with h | h
        · obtain ⟨cabinet, hcabinet, rfl⟩ := List.mem_map.mp h
          have hmem := mem_drop_one_baysOf.mp hcabinet
          exact ⟨.baseSide cabinet, ⟨hbase, hmem.1, hmem.2⟩, rfl⟩
        · obtain ⟨cabinet, hcabinet, h⟩ := List.mem_flatMap.mp h
          rcases List.mem_cons.mp h with rfl | h
          · exact ⟨.baseBottom cabinet, ⟨hbase, hcabinet⟩, rfl⟩
          · exact ⟨.cabinetFront cabinet, ⟨hbase, hcabinet⟩, (List.mem_singleton.mp h).symm⟩
      · exact absurd h List.not_mem_nil
    · unfold backPlans at h
      split at h
      · next hback => exact ⟨.surfaceBack, hback, (List.mem_singleton.mp h).symm⟩
      · next hback =>
        obtain ⟨bay, hbay, rfl⟩ := List.mem_map.mp h
        exact ⟨.insetBack bay, ⟨hback, hbay⟩, rfl⟩
      · exact absurd h List.not_mem_nil
    · unfold plinthPlans at h
      split at h
      · next hplinth => exact ⟨.plinth, hplinth, (List.mem_singleton.mp h).symm⟩
      · exact absurd h List.not_mem_nil
  · rintro ⟨panel, hpresent, rfl⟩
    simp only [partPlans, List.mem_append, or_assoc]
    cases panel with
    | leftSide => exact Or.inl (by simp [Panel.plan])
    | rightSide => exact Or.inl (by simp [Panel.plan])
    | bottom => exact Or.inl (by simp [Panel.plan])
    | top => exact Or.inl (by simp [Panel.plan])
    | divider bay =>
      exact Or.inr (Or.inl (List.mem_map_of_mem (mem_take_baysOf.mpr hpresent)))
    | shelf row bay =>
      refine Or.inr (Or.inr (Or.inl ?_))
      exact List.mem_flatMap.mpr ⟨row, hpresent.1, List.mem_map_of_mem hpresent.2⟩
    | baseSide cabinet =>
      refine Or.inr (Or.inr (Or.inr (Or.inl ?_)))
      rw [basePlans, if_pos hpresent.1]
      exact List.mem_append_left _ (List.mem_map_of_mem (mem_drop_one_baysOf.mpr hpresent.2))
    | baseBottom cabinet =>
      refine Or.inr (Or.inr (Or.inr (Or.inl ?_)))
      rw [basePlans, if_pos hpresent.1]
      exact List.mem_append_right _
        (List.mem_flatMap.mpr ⟨cabinet, hpresent.2, List.mem_cons_self⟩)
    | cabinetFront cabinet =>
      refine Or.inr (Or.inr (Or.inr (Or.inl ?_)))
      rw [basePlans, if_pos hpresent.1]
      exact List.mem_append_right _ (List.mem_flatMap.mpr
        ⟨cabinet, hpresent.2, List.mem_cons_of_mem _ List.mem_cons_self⟩)
    | surfaceBack =>
      refine Or.inr (Or.inr (Or.inr (Or.inr (Or.inl ?_))))
      have hback : p.backPanel = .surfaceMounted := hpresent
      simp [backPlans, hback, Panel.plan]
    | insetBack bay =>
      refine Or.inr (Or.inr (Or.inr (Or.inr (Or.inl ?_))))
      have hback : p.backPanel = .insetGroove := hpresent.1
      simp only [backPlans, hback]
      exact List.mem_map_of_mem hpresent.2
    | plinth =>
      refine Or.inr (Or.inr (Or.inr (Or.inr (Or.inr ?_))))
      have hplinth : p.plinthHeightUm ≠ 0 := hpresent
      rw [plinthPlans, if_pos hplinth]
      exact List.mem_singleton.mpr rfl

/-! ## Boxes that are apart -/

/-- Two boxes have no volume in common. -/
def Apart (a b : PartPlan) : Prop :=
  (a.xUm + a.widthUm ≤ b.xUm ∨ b.xUm + b.widthUm ≤ a.xUm) ∨
  (a.yUm + a.depthUm ≤ b.yUm ∨ b.yUm + b.depthUm ≤ a.yUm) ∨
  (a.zUm + a.heightUm ≤ b.zUm ∨ b.zUm + b.heightUm ≤ a.zUm)

theorem Apart.symm {a b : PartPlan} (h : Apart a b) : Apart b a := by
  unfold Apart at h ⊢
  omega

theorem apart_x {a b : PartPlan} (h : a.xUm + a.widthUm ≤ b.xUm ∨ b.xUm + b.widthUm ≤ a.xUm) :
    Apart a b := Or.inl h

theorem apart_y {a b : PartPlan} (h : a.yUm + a.depthUm ≤ b.yUm ∨ b.yUm + b.depthUm ≤ a.yUm) :
    Apart a b := Or.inr (Or.inl h)

theorem apart_z {a b : PartPlan} (h : a.zUm + a.heightUm ≤ b.zUm ∨ b.zUm + b.heightUm ≤ a.zUm) :
    Apart a b := Or.inr (Or.inr h)

/-- The pairs of panels that share a groove; the first panel is the grooved one. -/
def Joined (p : BookcaseParameters) : Panel → Panel → Prop
  | .leftSide, .bottom | .rightSide, .bottom | .leftSide, .top | .rightSide, .top => True
  | .bottom, .divider _ | .top, .divider _ => True
  | .leftSide, .shelf _ bay => p.shelfMount = .fixed ∧ bay.index = 0
  | .rightSide, .shelf _ bay => p.shelfMount = .fixed ∧ bay.index = p.verticalDividerCount
  | .divider k, .shelf _ bay =>
    p.shelfMount = .fixed ∧ (k.index = bay.index ∨ k.index + 1 = bay.index)
  | .leftSide, .baseBottom cabinet => cabinet.index = 0
  | .rightSide, .baseBottom cabinet => cabinet.index + 1 = p.baseCabinetCount
  | .baseSide k, .baseBottom cabinet => k.index = cabinet.index ∨ k.index = cabinet.index + 1
  | .bottom, .baseSide _ => True
  | .leftSide, .insetBack bay => bay.index = 0
  | .rightSide, .insetBack bay => bay.index = p.verticalDividerCount
  | .divider k, .insetBack bay => k.index = bay.index ∨ k.index + 1 = bay.index
  | .top, .insetBack _ | .bottom, .insetBack _ => True
  | .bottom, .plinth => p.baseCabinetCount = 0
  | _, _ => False

/-- The bookcases whose panels keep clear of each other where no groove joins them. -/
structure KeepsClear (p : BookcaseParameters) : Prop where
  /-- A back on the surface stands behind open shelves only. -/
  back_of_cabinets : ¬(p.backPanel = .surfaceMounted ∧ p.baseCabinetCount ≠ 0)
  /-- The plinth and a divider enter the bottom from its two faces. -/
  plinth_and_divider : p.actualThicknessUm < 2000 →
    ¬(p.baseCabinetCount = 0 ∧ p.plinthHeightUm ≠ 0 ∧ p.verticalDividerCount ≠ 0)
  /-- Two shelves enter a divider from its two faces. -/
  shelves_in_divider : p.actualThicknessUm < 2000 →
    ¬(p.shelfMount = .fixed ∧ p.shelfCount ≠ 0 ∧ p.verticalDividerCount ≠ 0)
  /-- Two base bottoms enter a base side from its two faces. -/
  bottoms_in_baseSide : p.actualThicknessUm < 2000 → p.baseCabinetCount < 2
  /-- The plinth and the back enter the bottom from its two faces. -/
  plinth_and_back : p.actualThicknessUm < 2000 →
    ¬(p.baseCabinetCount = 0 ∧ p.plinthHeightUm ≠ 0 ∧ p.backPanel = .insetGroove ∧
      p.depthUm - 12000 - p.backThicknessUm < p.actualThicknessUm)

/-- What the making of the parts and joints has checked of the plans. -/
structure Made (p : BookcaseParameters) (capture : Int) : Prop where
  dado_le : dadoDepth p.actualThicknessUm ≤ p.actualThicknessUm
  front_fits : p.baseCabinetCount ≠ 0 → 2 * p.actualThicknessUm + 4000 < p.baseCabinetHeightUm
  plinth_fits : p.baseCabinetCount = 0 → p.plinthHeightUm ≠ 0 → p.actualThicknessUm ≤ p.caseDepth
  capture_le : p.backPanel = .insetGroove → p.verticalDividerCount ≠ 0 →
    2 * capture ≤ p.actualThicknessUm

end Custombuild.Domain
