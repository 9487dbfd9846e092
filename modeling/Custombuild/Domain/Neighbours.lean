/-
  Two panels of a bookcase are apart or share a groove.

  The panels of one zone follow its grid: they are parted by the bays, or they enter the panel
  between two bays from its two faces.
-/
import Custombuild.Domain.Clearance

namespace Custombuild.Domain

open Custombuild.Lib BookcaseParameters

section

variable {p : BookcaseParameters} {capture : Int}

/-! ## Panels of one zone -/

section Grid

variable (m : p.Measured) (made : Made p capture)

include m

theorem bays_cases {a b : Bay} (ha : a ∈ p.bays) (hb : b ∈ p.bays) :
    a = b ∨ a.Before p.actualThicknessUm b ∨ b.Before p.actualThicknessUm a :=
  bays_trichotomy m.thickness_pos.le m.bayWidths_nonneg ha hb

theorem cabinets_cases (hbase : p.baseCabinetCount ≠ 0) {a b : Bay} (ha : a ∈ p.cabinets)
    (hb : b ∈ p.cabinets) :
    a = b ∨ a.Before p.actualThicknessUm b ∨ b.Before p.actualThicknessUm a :=
  bays_trichotomy m.thickness_pos.le (m.baseOpenings_nonneg hbase) ha hb

theorem bay_width_nonneg {bay : Bay} (h : bay ∈ p.bays) : 0 ≤ bay.widthUm :=
  m.bayWidths_nonneg _ (m.bay_between h).width_mem

theorem cabinet_width_nonneg (hbase : p.baseCabinetCount ≠ 0) {cabinet : Bay}
    (h : cabinet ∈ p.cabinets) : 0 ≤ cabinet.widthUm :=
  m.baseOpenings_nonneg hbase _ (m.cabinet_between hbase h).width_mem

/-- A panel that enters its neighbours from a bay by less than their thickness meets only the
    dividers at the two ends of the bay. -/
theorem divider_apart_of_reach {k bay : Bay} {plan : PartPlan} (hk : k ∈ p.bays)
    (hbay : bay ∈ p.bays) (hleft : bay.startUm - p.actualThicknessUm ≤ plan.xUm)
    (hright : plan.xUm + plan.widthUm ≤ bay.endUm + p.actualThicknessUm)
    (hne : k.index ≠ bay.index) (hnext : k.index + 1 ≠ bay.index) :
    Apart (dividerPlan p k) plan := by
  have hwidth := bay_width_nonneg m hk
  rcases bays_cases m hk hbay with heq | hbefore | hafter
  · exact absurd (congrArg Bay.index heq) hne
  · have hindex := hbefore.index
    have hfar := hbefore.far (by omega)
    refine apart_x (Or.inl ?_)
    simp only [dividerPlan]
    omega
  · have hapart := hafter.apart
    refine apart_x (Or.inr ?_)
    simp only [dividerPlan, Bay.endUm] at hapart hright ⊢
    omega

theorem divider_met_divider {a b : Bay} (ha : (Panel.divider a).Present p)
    (hb : (Panel.divider b).Present p) (hne : a ≠ b) :
    Met p capture (.divider a) (.divider b) := by
  have hwa := bay_width_nonneg m ha.1
  have hwb := bay_width_nonneg m hb.1
  refine Or.inl (apart_x ?_)
  simp only [Panel.plan, dividerPlan]
  rcases bays_cases m ha.1 hb.1 with heq | hbefore | hafter
  · exact absurd heq hne
  · have hapart := hbefore.apart
    unfold Bay.endUm at hapart ⊢
    omega
  · have hapart := hafter.apart
    unfold Bay.endUm at hapart ⊢
    omega

/-- An adjustable shelf does not reach a divider. -/
theorem divider_apart_adjustable (hmount : p.shelfMount ≠ .fixed) {k bay : Bay} {row : Nat × Int}
    (hk : k ∈ p.bays) (hbay : bay ∈ p.bays) : Apart (dividerPlan p k) (shelfPlan p row bay) := by
  have hreach := adjustable_reach m hmount row bay
  have hwk := bay_width_nonneg m hk
  have hwb := bay_width_nonneg m hbay
  have hpos := m.thickness_pos
  refine apart_x ?_
  have hx : (dividerPlan p k).xUm = k.endUm := rfl
  have hw : (dividerPlan p k).widthUm = p.actualThicknessUm := rfl
  rw [hx, hw]
  rcases bays_cases m hk hbay with rfl | hbefore | hafter
  · omega
  · have hapart := hbefore.apart
    omega
  · have hapart := hafter.apart
    unfold Bay.endUm at *
    omega

include made

theorem divider_met_shelf {k bay : Bay} {row : Nat × Int} (hk : (Panel.divider k).Present p)
    (hb : (Panel.shelf row bay).Present p) : Met p capture (.divider k) (.shelf row bay) := by
  have hdado := made.dado_le
  have hreach := shelf_reach m row bay
  by_cases hfixed : p.shelfMount = .fixed
  · by_cases hnear : k.index = bay.index ∨ k.index + 1 = bay.index
    · exact Or.inr (Or.inl ⟨hfixed, hnear⟩)
    · refine Or.inl (divider_apart_of_reach m hk.1 hb.2 ?_ ?_ ?_ ?_)
      · simp only [Panel.plan]
        omega
      · simp only [Panel.plan]
        omega
      · exact fun h => hnear (Or.inl h)
      · exact fun h => hnear (Or.inr h)
  · exact Or.inl (divider_apart_adjustable m hfixed hk.1 hb.2)

theorem divider_met_insetBack {k bay : Bay} (hk : (Panel.divider k).Present p)
    (hb : (Panel.insetBack bay).Present p) : Met p capture (.divider k) (.insetBack bay) := by
  have hreach := back_reach m made hb.1 hb.2
  by_cases hnear : k.index = bay.index ∨ k.index + 1 = bay.index
  · exact Or.inr (Or.inl hnear)
  · refine Or.inl (divider_apart_of_reach m hk.1 hb.2 ?_ ?_ ?_ ?_)
    · simp only [Panel.plan, insetBackPlan]
      omega
    · simp only [Panel.plan, insetBackPlan, Bay.endUm]
      omega
    · exact fun h => hnear (Or.inl h)
    · exact fun h => hnear (Or.inr h)

omit made in
theorem shelf_met_shelf (clear : KeepsClear p) {row row' : Nat × Int} {a b : Bay}
    (ha : (Panel.shelf row a).Present p) (hb : (Panel.shelf row' b).Present p)
    (hne : Panel.shelf row a ≠ .shelf row' b) :
    Met p capture (.shelf row a) (.shelf row' b) := by
  rcases rows_apart m ha.1 hb.1 with rfl | hrows
  · have hreacha := shelf_reach m row a
    have hreachb := shelf_reach m row b
    have habs : a ≠ b := fun h => hne (by rw [h])
    by_cases hfixed : p.shelfMount = .fixed
    · -- Two shelves of one row are in different bays, so there is a divider between them.
      have hdividers : p.verticalDividerCount ≠ 0 := by
        intro hzero
        have hla := (m.bay_between ha.2).index_lt
        have hlb := (m.bay_between hb.2).index_lt
        rw [length_bayWidths] at hla hlb
        rcases bays_cases m ha.2 hb.2 with heq | hbefore | hafter
        · exact habs heq
        · have := hbefore.index
          omega
        · have := hafter.index
          omega
      have hcount : p.shelfCount ≠ 0 := by
        intro hzero
        have hmem := mem_shelfRows ha.1
        rw [shelfPositions, hzero] at hmem
        exact absurd hmem (by simp [allocateShelfPositionsUm])
      have hthick : 2000 ≤ p.actualThicknessUm := by
        by_contra hthin
        exact clear.shelves_in_divider (by omega) ⟨hfixed, hcount, hdividers⟩
      have hdado := two_dadoDepth_le hthick
      refine Or.inl (apart_x ?_)
      simp only [Panel.plan]
      rcases bays_cases m ha.2 hb.2 with heq | hbefore | hafter
      · exact absurd heq habs
      · have := hbefore.apart
        omega
      · have := hafter.apart
        omega
    · have hfreea := adjustable_reach m hfixed row a
      have hfreeb := adjustable_reach m hfixed row b
      have hpos := m.thickness_pos
      refine Or.inl (apart_x ?_)
      simp only [Panel.plan]
      rcases bays_cases m ha.2 hb.2 with heq | hbefore | hafter
      · exact absurd heq habs
      · have := hbefore.apart
        omega
      · have := hafter.apart
        omega
  · refine Or.inl (apart_z ?_)
    simpa only [Panel.plan, shelfPlan] using hrows

theorem insetBack_met_insetBack {a b : Bay} (ha : (Panel.insetBack a).Present p)
    (hb : (Panel.insetBack b).Present p) (hne : a ≠ b) :
    Met p capture (.insetBack a) (.insetBack b) := by
  refine Or.inl (apart_x ?_)
  simp only [Panel.plan, insetBackPlan]
  rcases bays_cases m ha.2 hb.2 with heq | hbefore | hafter
  · exact absurd heq hne
  · have hapart := hbefore.apart
    have hreach := backs_reach m made ha.1 hb.2 hbefore.index
    unfold Bay.endUm at hapart
    omega
  · have hapart := hafter.apart
    have hreach := backs_reach m made hb.1 ha.2 hafter.index
    unfold Bay.endUm at hapart
    omega

omit m made in
/-- A shelf ends before the inset back. -/
theorem shelf_met_insetBack {row : Nat × Int} {a b : Bay}
    (hb : (Panel.insetBack b).Present p) : Met p capture (.shelf row a) (.insetBack b) := by
  refine Or.inl (apart_y (Or.inl ?_))
  have hdepth : p.shelfDepth = p.depthUm - 12000 - p.backThicknessUm - dadoRearReliefClearanceUm := by
    unfold shelfDepth
    rw [hb.1]
  simp only [Panel.plan, shelfPlan, insetBackPlan, hdepth, dadoRearReliefClearanceUm]
  omega

theorem upper_met (clear : KeepsClear p) {a b : Panel} (ha : a.Present p) (hupper : a.IsUpper)
    (hb : b.Present p) (hupper' : b.IsUpper) (hne : a ≠ b) : Met p capture a b := by
  cases a with
  | divider a =>
    cases b with
    | divider b => exact divider_met_divider m ha hb fun h => hne (by rw [h])
    | shelf row b => exact divider_met_shelf m made ha hb
    | insetBack b => exact divider_met_insetBack m made ha hb
    | _ => exact absurd hupper' (by simp [Panel.IsUpper])
  | shelf row a =>
    cases b with
    | divider b => exact (divider_met_shelf m made hb ha).symm
    | shelf row' b => exact shelf_met_shelf m clear ha hb hne
    | insetBack b => exact shelf_met_insetBack hb
    | _ => exact absurd hupper' (by simp [Panel.IsUpper])
  | insetBack a =>
    cases b with
    | divider b => exact (divider_met_insetBack m made hb ha).symm
    | shelf row b => exact (shelf_met_insetBack ha).symm
    | insetBack b => exact insetBack_met_insetBack m made ha hb fun h => hne (by rw [h])
    | _ => exact absurd hupper' (by simp [Panel.IsUpper])
  | _ => exact absurd hupper (by simp [Panel.IsUpper])

/-! The cabinets stand in a grid of their own. -/

omit made in
theorem baseSide_met_baseSide {a b : Bay} (ha : (Panel.baseSide a).Present p)
    (hb : (Panel.baseSide b).Present p) (hne : a ≠ b) :
    Met p capture (.baseSide a) (.baseSide b) := by
  have hwa := cabinet_width_nonneg m ha.1 ha.2.1
  have hwb := cabinet_width_nonneg m hb.1 hb.2.1
  refine Or.inl (apart_x ?_)
  simp only [Panel.plan, baseSidePlan]
  rcases cabinets_cases m ha.1 ha.2.1 hb.2.1 with heq | hbefore | hafter
  · exact absurd heq hne
  · have hapart := hbefore.apart
    unfold Bay.endUm at hapart
    omega
  · have hapart := hafter.apart
    unfold Bay.endUm at hapart
    omega

theorem baseSide_met_baseBottom {k cabinet : Bay} (hk : (Panel.baseSide k).Present p)
    (hb : (Panel.baseBottom cabinet).Present p) :
    Met p capture (.baseSide k) (.baseBottom cabinet) := by
  have hdado := made.dado_le
  have hwk := cabinet_width_nonneg m hk.1 hk.2.1
  have hwc := cabinet_width_nonneg m hb.1 hb.2
  by_cases hnear : k.index = cabinet.index ∨ k.index = cabinet.index + 1
  · exact Or.inr (Or.inl hnear)
  · refine Or.inl (apart_x ?_)
    simp only [Panel.plan, baseSidePlan, baseBottomPlan]
    rcases cabinets_cases m hk.1 hk.2.1 hb.2 with heq | hbefore | hafter
    · exact absurd (Or.inl (congrArg Bay.index heq)) hnear
    · have hapart := hbefore.apart
      unfold Bay.endUm at hapart
      omega
    · have hindex := hafter.index
      have hfar := hafter.far (by omega)
      unfold Bay.endUm at hfar
      omega

omit made in
theorem baseSide_met_cabinetFront {k cabinet : Bay} (hk : (Panel.baseSide k).Present p)
    (hb : (Panel.cabinetFront cabinet).Present p) :
    Met p capture (.baseSide k) (.cabinetFront cabinet) := by
  have hwk := cabinet_width_nonneg m hk.1 hk.2.1
  have hpos := m.thickness_pos
  refine Or.inl (apart_x ?_)
  simp only [Panel.plan, baseSidePlan, cabinetFrontPlan, frontGapUm]
  rcases cabinets_cases m hk.1 hk.2.1 hb.2 with rfl | hbefore | hafter
  · omega
  · have hapart := hbefore.apart
    unfold Bay.endUm at hapart
    omega
  · have hapart := hafter.apart
    unfold Bay.endUm at hapart
    omega

omit made in
/-- Where two cabinets are side by side, the stock is thick enough for two grooves. -/
theorem baseBottom_met_baseBottom (clear : KeepsClear p) {a b : Bay}
    (ha : (Panel.baseBottom a).Present p) (hb : (Panel.baseBottom b).Present p) (hne : a ≠ b) :
    Met p capture (.baseBottom a) (.baseBottom b) := by
  have hla := (m.cabinet_between ha.1 ha.2).index_lt
  have hlb := (m.cabinet_between hb.1 hb.2).index_lt
  rw [length_baseOpenings ha.1] at hla hlb
  have hthick (htwo : 2 ≤ p.baseCabinetCount) : 2000 ≤ p.actualThicknessUm := by
    by_contra hthin
    have := clear.bottoms_in_baseSide (by omega)
    omega
  refine Or.inl (apart_x ?_)
  simp only [Panel.plan, baseBottomPlan]
  rcases cabinets_cases m ha.1 ha.2 hb.2 with heq | hbefore | hafter
  · exact absurd heq hne
  · have hindex := hbefore.index
    have hdado := two_dadoDepth_le (hthick (by omega))
    have hapart := hbefore.apart
    unfold Bay.endUm at hapart
    omega
  · have hindex := hafter.index
    have hdado := two_dadoDepth_le (hthick (by omega))
    have hapart := hafter.apart
    unfold Bay.endUm at hapart
    omega

omit made in
theorem cabinetFront_met_cabinetFront {a b : Bay} (ha : (Panel.cabinetFront a).Present p)
    (hb : (Panel.cabinetFront b).Present p) (hne : a ≠ b) :
    Met p capture (.cabinetFront a) (.cabinetFront b) := by
  have hpos := m.thickness_pos
  refine Or.inl (apart_x ?_)
  simp only [Panel.plan, cabinetFrontPlan, frontGapUm]
  rcases cabinets_cases m ha.1 ha.2 hb.2 with heq | hbefore | hafter
  · exact absurd heq hne
  · have hapart := hbefore.apart
    unfold Bay.endUm at hapart
    omega
  · have hapart := hafter.apart
    unfold Bay.endUm at hapart
    omega

omit m made in
/-- The front stands on the height of the base bottom. -/
theorem baseBottom_met_cabinetFront (a b : Bay) :
    Met p capture (.baseBottom a) (.cabinetFront b) := by
  refine Or.inl (apart_z (Or.inl ?_))
  simp only [Panel.plan, baseBottomPlan, cabinetFrontPlan, frontGapUm]
  omega

omit m made in
/-- The cabinets stand on the plinth. -/
theorem plinth_met_of_z (hbase : p.baseCabinetCount ≠ 0) {b : Panel}
    (h : p.plinthHeightUm ≤ (b.plan p capture).zUm) : Met p capture .plinth b := by
  have hheight : (plinthPlan p).heightUm = p.plinthHeightUm := if_pos hbase
  refine Or.inl (apart_z (Or.inl ?_))
  show 0 + (plinthPlan p).heightUm ≤ _
  omega

omit made in
theorem plinth_met_cabinets {b : Panel} (hb : b.Present p) (hlower : b.IsLower)
    (hne : b ≠ .plinth) : Met p capture .plinth b := by
  have hpos := m.thickness_pos
  cases b with
  | baseSide cabinet => exact plinth_met_of_z hb.1 (Int.le_refl _)
  | baseBottom cabinet => exact plinth_met_of_z hb.1 (Int.le_refl _)
  | cabinetFront cabinet =>
    refine plinth_met_of_z hb.1 ?_
    simp only [Panel.plan, cabinetFrontPlan, frontGapUm]
    omega
  | plinth => exact absurd rfl hne
  | _ => exact absurd hlower (by simp [Panel.IsLower])

theorem lower_met (clear : KeepsClear p) {a b : Panel} (ha : a.Present p) (hlower : a.IsLower)
    (hb : b.Present p) (hlower' : b.IsLower) (hne : a ≠ b) : Met p capture a b := by
  cases a with
  | plinth => exact plinth_met_cabinets m hb hlower' hne.symm
  | baseSide a =>
    cases b with
    | plinth => exact (plinth_met_cabinets m ha hlower hne).symm
    | baseSide b => exact baseSide_met_baseSide m ha hb fun h => hne (by rw [h])
    | baseBottom b => exact baseSide_met_baseBottom m made ha hb
    | cabinetFront b => exact baseSide_met_cabinetFront m ha hb
    | _ => exact absurd hlower' (by simp [Panel.IsLower])
  | baseBottom a =>
    cases b with
    | plinth => exact (plinth_met_cabinets m ha hlower hne).symm
    | baseSide b => exact (baseSide_met_baseBottom m made hb ha).symm
    | baseBottom b =>
      exact baseBottom_met_baseBottom m clear ha hb fun h => hne (by rw [h])
    | cabinetFront b => exact baseBottom_met_cabinetFront a b
    | _ => exact absurd hlower' (by simp [Panel.IsLower])
  | cabinetFront a =>
    cases b with
    | plinth => exact (plinth_met_cabinets m ha hlower hne).symm
    | baseSide b => exact (baseSide_met_cabinetFront m hb ha).symm
    | baseBottom b => exact (baseBottom_met_cabinetFront b a).symm
    | cabinetFront b =>
      exact cabinetFront_met_cabinetFront m ha hb fun h => hne (by rw [h])
    | _ => exact absurd hlower' (by simp [Panel.IsLower])
  | _ => exact absurd hlower (by simp [Panel.IsLower])

end Grid

/-! ## All pairs -/

section All

variable (m : p.Measured) (made : Made p capture) (clear : KeepsClear p)

include m made clear

/-- A back on the surface closes a case without cabinets. -/
theorem surfaceBack_met {b : Panel} (hback : p.backPanel = .surfaceMounted) (hb : b.Present p)
    (hne : b ≠ .surfaceBack) : Met p capture .surfaceBack b := by
  have hbase : p.baseCabinetCount = 0 := by
    by_contra hbase
    exact clear.back_of_cabinets ⟨hback, hbase⟩
  have hcase : p.caseDepth = p.depthUm - p.backThicknessUm := by
    rw [caseDepth, if_pos hback]
  have hthickness := m.backThickness_pos
  have hdepth : p.shelfDepth = p.caseDepth - p.backThicknessUm - dadoRearReliefClearanceUm := by
    unfold shelfDepth
    rw [hback]
  cases b with
  | leftSide => exact (leftSide_met m made (b := .surfaceBack) hback (by simp)).symm
  | rightSide => exact (rightSide_met m made (b := .surfaceBack) hback (by simp)).symm
  | bottom => exact (bottom_met m made (b := .surfaceBack) hback (by simp)).symm
  | top => exact (top_met m made (b := .surfaceBack) hback (by simp)).symm
  | divider bay =>
    refine Or.inl (apart_y (Or.inr ?_))
    simp only [Panel.plan, dividerPlan, surfaceBackPlan, dividerDepth, hback, reduceCtorEq,
      if_false, hdepth, hcase, dadoRearReliefClearanceUm]
    omega
  | shelf row bay =>
    refine Or.inl (apart_y (Or.inr ?_))
    simp only [Panel.plan, shelfPlan, surfaceBackPlan, hdepth, hcase, dadoRearReliefClearanceUm]
    omega
  | baseSide cabinet => exact absurd hbase hb.1
  | baseBottom cabinet => exact absurd hbase hb.1
  | cabinetFront cabinet => exact absurd hbase hb.1
  | surfaceBack => exact absurd rfl hne
  | insetBack bay =>
    have hinset := hb.1
    rw [hback] at hinset
    cases hinset
  | plinth =>
    have hfits := made.plinth_fits hbase hb
    refine Or.inl (apart_y (Or.inr ?_))
    simp only [Panel.plan, plinthPlan, surfaceBackPlan]
    omega

/-- Two panels of a bookcase that keeps clear are apart or share a groove. -/
theorem panels_met {a b : Panel} (ha : a.Present p) (hb : b.Present p) (hne : a ≠ b) :
    Met p capture a b := by
  rcases Panel.cases_zone a with rfl | rfl | rfl | rfl | rfl | hzone
  · exact leftSide_met m made hb hne.symm
  · exact rightSide_met m made hb hne.symm
  · exact bottom_met m made hb hne.symm
  · exact top_met m made hb hne.symm
  · exact surfaceBack_met m made clear ha hb hne.symm
  · rcases Panel.cases_zone b with rfl | rfl | rfl | rfl | rfl | hzone'
    · exact (leftSide_met m made ha hne).symm
    · exact (rightSide_met m made ha hne).symm
    · exact (bottom_met m made ha hne).symm
    · exact (top_met m made ha hne).symm
    · exact (surfaceBack_met m made clear hb ha hne).symm
    · rcases hzone with hupper | hlower <;> rcases hzone' with hupper' | hlower'
      · exact upper_met m made clear ha hupper hb hupper' hne
      · exact zones_met m made clear ha hupper hb hlower'
      · exact (zones_met m made clear hb hupper' ha hlower).symm
      · exact lower_met m made clear ha hlower hb hlower' hne

end All

end

end Custombuild.Domain
