/-
  The panels of the carcass against all others, and the shelves against the cabinets.

  The sides are met at their inner faces, and the bottom parts what is above it from what is
  below.  Each lemma puts one kind of panel against all kinds.
-/
import Custombuild.Domain.Panels

namespace Custombuild.Domain

open Custombuild.Lib BookcaseParameters

/-! ## Depth of grooves -/

theorem dadoDepth_pos (t : Int) : 1000 ≤ dadoDepth t := Int.le_max_left _ _

theorem two_dadoDepth_le {t : Int} (ht : 2000 ≤ t) : 2 * dadoDepth t ≤ t := by
  unfold dadoDepth
  omega

theorem dadoDepth_of_thin {t : Int} (ht : t < 3000) : dadoDepth t = 1000 := by
  unfold dadoDepth
  omega

section

variable {p : BookcaseParameters} {capture : Int}

/-! ## Zones -/

theorem shelfZoneBottom_of_base (h : p.baseCabinetCount ≠ 0) :
    p.shelfZoneBottom = p.plinthHeightUm + p.baseCabinetHeightUm := if_pos h

theorem shelfZoneBottom_of_open (h : p.baseCabinetCount = 0) :
    p.shelfZoneBottom = p.plinthHeightUm + p.actualThicknessUm := if_neg (not_not.mpr h)

/-- The bottom lies above the plinth. -/
theorem plinth_le_zone (made : Made p capture) :
    p.plinthHeightUm + p.actualThicknessUm ≤ p.shelfZoneBottom := by
  by_cases hbase : p.baseCabinetCount = 0
  · rw [shelfZoneBottom_of_open hbase]
  · have := made.front_fits hbase
    have := made.dado_le
    have := dadoDepth_pos p.actualThicknessUm
    rw [shelfZoneBottom_of_base hbase]
    omega

theorem mem_shelfRows {row : Nat × Int} (h : row ∈ shelfRows p) : row.2 ∈ p.shelfPositions := by
  obtain ⟨entry, hentry, rfl⟩ := List.mem_map.mp h
  exact (List.mem_zipIdx' hentry).2 ▸ List.getElem_mem _

/-- Two rows are one, or one is above the other. -/
theorem rows_apart (m : p.Measured) {row row' : Nat × Int} (h : row ∈ shelfRows p)
    (h' : row' ∈ shelfRows p) :
    row = row' ∨ row.2 + p.actualThicknessUm ≤ row'.2 ∨ row'.2 + p.actualThicknessUm ≤ row.2 := by
  have hpairs : (shelfRows p).Pairwise fun a b =>
      a.2 + p.actualThicknessUm ≤ b.2 ∨ b.2 + p.actualThicknessUm ≤ a.2 := by
    refine (rows_pairwise m.rows.2.2).imp fun hab => Or.inl ?_
    omega
  have : Std.Symm fun a b : Nat × Int =>
      a.2 + p.actualThicknessUm ≤ b.2 ∨ b.2 + p.actualThicknessUm ≤ a.2 := ⟨fun _ _ h => h.symm⟩
  by_cases heq : row = row'
  · exact Or.inl heq
  · exact Or.inr (hpairs.forall h h' heq)

/-! ## How far panels reach into their neighbours -/

/-- A shelf enters its supports by a groove at most. -/
theorem shelf_reach (m : p.Measured) (row : Nat × Int) (bay : Bay) :
    bay.startUm - dadoDepth p.actualThicknessUm ≤ (shelfPlan p row bay).xUm ∧
      (shelfPlan p row bay).xUm + (shelfPlan p row bay).widthUm ≤
        bay.endUm + dadoDepth p.actualThicknessUm := by
  have := dadoDepth_pos p.actualThicknessUm
  have := m.clearance_nonneg
  have hdado := m.dado
  simp only [shelfPlan, fixedShelfInset, Bay.endUm]
  split <;> split <;> omega

/-- An adjustable shelf stays in its bay. -/
theorem adjustable_reach (m : p.Measured) (h : p.shelfMount ≠ .fixed) (row : Nat × Int)
    (bay : Bay) :
    bay.startUm ≤ (shelfPlan p row bay).xUm ∧
      (shelfPlan p row bay).xUm + (shelfPlan p row bay).widthUm ≤ bay.endUm := by
  have := m.clearance_nonneg
  have hmount : p.shelfMount = .adjustable := by
    cases hmount : p.shelfMount with
    | fixed => exact absurd hmount h
    | adjustable => rfl
  simp only [shelfPlan, fixedShelfInset, Bay.endUm, hmount, if_true, reduceCtorEq, false_and,
    if_false]
  omega

theorem length_bays (p : BookcaseParameters) : p.bays.length = p.verticalDividerCount + 1 := by
  rw [bays, length_baysOf, length_bayWidths]

/-- A field of the back enters the panels beside it by less than their thickness. -/
theorem back_reach (m : p.Measured) (made : Made p capture) (hback : p.backPanel = .insetGroove)
    {bay : Bay} (h : bay ∈ p.bays) :
    leftCapture p capture bay ≤ p.actualThicknessUm ∧
      rightCapture p capture bay ≤ p.actualThicknessUm := by
  have hdado := made.dado_le
  have hpos := m.thickness_pos
  have hlt := (m.bay_between h).index_lt
  have hcapture := made.capture_le hback
  rw [length_bayWidths] at hlt
  constructor
  · unfold leftCapture
    split
    · exact hdado
    · have := hcapture (by omega)
      omega
  · unfold rightCapture
    rw [length_bays]
    split
    · exact hdado
    · have := hcapture (by omega)
      omega

/-- Two fields that meet in a divider leave wood between them. -/
theorem backs_reach (m : p.Measured) (made : Made p capture) (hback : p.backPanel = .insetGroove)
    {bay bay' : Bay} (h' : bay' ∈ p.bays) (hlt : bay.index < bay'.index) :
    rightCapture p capture bay + leftCapture p capture bay' ≤ p.actualThicknessUm := by
  have hindex := (m.bay_between h').index_lt
  rw [length_bayWidths] at hindex
  have hcapture := made.capture_le hback (by omega)
  unfold leftCapture rightCapture
  rw [length_bays, if_neg (by omega), if_neg (by omega)]
  omega

/-! ## Kinds against kinds -/

/-- Two panels are apart or share a groove. -/
def Met (p : BookcaseParameters) (capture : Int) (a b : Panel) : Prop :=
  Apart (a.plan p capture) (b.plan p capture) ∨ Joined p a b ∨ Joined p b a

theorem Met.symm {a b : Panel} (h : Met p capture a b) : Met p capture b a := by
  rcases h with h | h | h
  · exact Or.inl h.symm
  · exact Or.inr (Or.inr h)
  · exact Or.inr (Or.inl h)

/-- What begins at the inner face of the left side or further on is apart from it. -/
theorem leftSide_met_of_x {b : Panel} (h : p.actualThicknessUm ≤ (b.plan p capture).xUm) :
    Met p capture .leftSide b := by
  refine Or.inl (apart_x (Or.inl ?_))
  show 0 + p.actualThicknessUm ≤ _
  omega

theorem rightSide_met_of_x {b : Panel}
    (h : (b.plan p capture).xUm + (b.plan p capture).widthUm ≤ p.widthUm - p.actualThicknessUm) :
    Met p capture .rightSide b :=
  Or.inl (apart_x (Or.inr h))

/-- What ends below the zone of the top is apart from it. -/
theorem top_met_of_z {b : Panel} (h : (b.plan p capture).zUm + (b.plan p capture).heightUm ≤
    p.heightUm - p.actualThicknessUm) : Met p capture .top b :=
  Or.inl (apart_z (Or.inr h))

section Pairs

variable (m : p.Measured) (made : Made p capture)

include m made

theorem leftSide_met {b : Panel} (hb : b.Present p) (hne : b ≠ .leftSide) :
    Met p capture .leftSide b := by
  have hsides := m.sides_fit
  have hdado := made.dado_le
  cases b with
  | leftSide => exact absurd rfl hne
  | rightSide =>
    refine leftSide_met_of_x ?_
    simp only [Panel.plan, rightSidePlan]
    omega
  | bottom => exact Or.inr (Or.inl trivial)
  | top => exact Or.inr (Or.inl trivial)
  | divider bay =>
    have hbay := (m.bay_between hb.1).start_ge
    have hwidth := m.bayWidths_nonneg _ (m.bay_between hb.1).width_mem
    refine leftSide_met_of_x ?_
    simp only [Panel.plan, dividerPlan, Bay.endUm]
    omega
  | shelf row bay =>
    have hbay := m.bay_between hb.2
    by_cases hfixed : p.shelfMount = .fixed
    · by_cases hfirst : bay.index = 0
      · exact Or.inr (Or.inl ⟨hfixed, hfirst⟩)
      · have hstart := hbay.start_far hfirst
        have hreach := (shelf_reach m row bay).1
        refine leftSide_met_of_x ?_
        simp only [Panel.plan]
        omega
    · have hstart := hbay.start_ge
      have hreach := (adjustable_reach m hfixed row bay).1
      refine leftSide_met_of_x ?_
      simp only [Panel.plan]
      omega
  | baseSide cabinet =>
    have hstart := (m.cabinet_between hb.1 hb.2.1).start_far (Nat.ne_of_gt hb.2.2)
    refine leftSide_met_of_x ?_
    simp only [Panel.plan, baseSidePlan]
    omega
  | baseBottom cabinet =>
    by_cases hfirst : cabinet.index = 0
    · exact Or.inr (Or.inl hfirst)
    · have hstart := (m.cabinet_between hb.1 hb.2).start_far hfirst
      refine leftSide_met_of_x ?_
      simp only [Panel.plan, baseBottomPlan]
      omega
  | cabinetFront cabinet =>
    have hstart := (m.cabinet_between hb.1 hb.2).start_ge
    refine leftSide_met_of_x ?_
    simp only [Panel.plan, cabinetFrontPlan, frontGapUm]
    omega
  | surfaceBack =>
    have hback : p.backPanel = .surfaceMounted := hb
    refine Or.inl (apart_y (Or.inl ?_))
    simp only [Panel.plan, leftSidePlan, surfaceBackPlan, caseDepth, hback, if_true]
    omega
  | insetBack bay =>
    have hbay := m.bay_between hb.2
    by_cases hfirst : bay.index = 0
    · exact Or.inr (Or.inl hfirst)
    · have hstart := hbay.start_far hfirst
      have hreach := (back_reach m made hb.1 hb.2).1
      refine leftSide_met_of_x ?_
      simp only [Panel.plan, insetBackPlan]
      omega
  | plinth =>
    refine leftSide_met_of_x ?_
    simp only [Panel.plan, plinthPlan]
    omega

theorem rightSide_met {b : Panel} (hb : b.Present p) (hne : b ≠ .rightSide) :
    Met p capture .rightSide b := by
  have hsides := m.sides_fit
  have hpos := m.thickness_pos
  have hdado := made.dado_le
  cases b with
  | rightSide => exact absurd rfl hne
  | leftSide => exact (leftSide_met m made (b := .rightSide) trivial (by simp)).symm
  | bottom => exact Or.inr (Or.inl trivial)
  | top => exact Or.inr (Or.inl trivial)
  | divider bay =>
    have hbay := m.bay_between hb.1
    have hlt := hb.2
    have hend := hbay.end_far (by rw [length_bayWidths]; omega)
    refine rightSide_met_of_x ?_
    simp only [Panel.plan, dividerPlan]
    omega
  | shelf row bay =>
    have hbay := m.bay_between hb.2
    by_cases hfixed : p.shelfMount = .fixed
    · by_cases hlast : bay.index = p.verticalDividerCount
      · exact Or.inr (Or.inl ⟨hfixed, hlast⟩)
      · have hend := hbay.end_far (by rw [length_bayWidths]; omega)
        have hreach := (shelf_reach m row bay).2
        refine rightSide_met_of_x ?_
        simp only [Panel.plan]
        omega
    · have hend := hbay.end_le
      have hreach := (adjustable_reach m hfixed row bay).2
      refine rightSide_met_of_x ?_
      simp only [Panel.plan]
      omega
  | baseSide cabinet =>
    have hcabinet := m.cabinet_between hb.1 hb.2.1
    have hend := hcabinet.end_le
    have hwidth := m.baseOpenings_nonneg hb.1 _ hcabinet.width_mem
    refine rightSide_met_of_x ?_
    simp only [Panel.plan, baseSidePlan]
    unfold Bay.endUm at hend
    omega
  | baseBottom cabinet =>
    have hcabinet := m.cabinet_between hb.1 hb.2
    by_cases hlast : cabinet.index + 1 = p.baseCabinetCount
    · exact Or.inr (Or.inl hlast)
    · have hend := hcabinet.end_far (by rwa [length_baseOpenings hb.1])
      refine rightSide_met_of_x ?_
      simp only [Panel.plan, baseBottomPlan]
      unfold Bay.endUm at hend
      omega
  | cabinetFront cabinet =>
    have hend := (m.cabinet_between hb.1 hb.2).end_le
    refine rightSide_met_of_x ?_
    simp only [Panel.plan, cabinetFrontPlan, frontGapUm]
    unfold Bay.endUm at hend
    omega
  | surfaceBack =>
    have hback : p.backPanel = .surfaceMounted := hb
    refine Or.inl (apart_y (Or.inl ?_))
    simp only [Panel.plan, rightSidePlan, surfaceBackPlan, caseDepth, hback, if_true]
    omega
  | insetBack bay =>
    have hbay := m.bay_between hb.2
    by_cases hlast : bay.index = p.verticalDividerCount
    · exact Or.inr (Or.inl hlast)
    · have hend := hbay.end_far (by rw [length_bayWidths]; omega)
      have hreach := (back_reach m made hb.1 hb.2).2
      refine rightSide_met_of_x ?_
      simp only [Panel.plan, insetBackPlan]
      unfold Bay.endUm at hend
      omega
  | plinth =>
    refine rightSide_met_of_x ?_
    simp only [Panel.plan, plinthPlan, innerWidth]
    omega

theorem bottom_met {b : Panel} (hb : b.Present p) (hne : b ≠ .bottom) :
    Met p capture .bottom b := by
  have hzone := m.rows.1
  have hdado := made.dado_le
  have hplinth := plinth_le_zone made
  cases b with
  | leftSide => exact (leftSide_met m made (b := .bottom) trivial (by simp)).symm
  | rightSide => exact (rightSide_met m made (b := .bottom) trivial (by simp)).symm
  | bottom => exact absurd rfl hne
  | top =>
    refine Or.inl (apart_z (Or.inl ?_))
    simp only [Panel.plan, bottomPlan, topPlan, bottomZ]
    omega
  | divider bay => exact Or.inr (Or.inl trivial)
  | shelf row bay =>
    have hrow := (m.rows.2.1 row.2 (mem_shelfRows hb.1)).1
    refine Or.inl (apart_z (Or.inl ?_))
    simp only [Panel.plan, bottomPlan, shelfPlan, bottomZ]
    omega
  | baseSide cabinet => exact Or.inr (Or.inl trivial)
  | baseBottom cabinet =>
    have hfront := made.front_fits hb.1
    have hpos := m.thickness_pos
    refine Or.inl (apart_z (Or.inr ?_))
    simp only [Panel.plan, bottomPlan, baseBottomPlan, bottomZ, shelfZoneBottom_of_base hb.1]
    omega
  | cabinetFront cabinet =>
    refine Or.inl (apart_z (Or.inr ?_))
    simp only [Panel.plan, bottomPlan, cabinetFrontPlan, frontGapUm, bottomZ,
      shelfZoneBottom_of_base hb.1]
    omega
  | surfaceBack =>
    have hback : p.backPanel = .surfaceMounted := hb
    refine Or.inl (apart_y (Or.inl ?_))
    simp only [Panel.plan, bottomPlan, surfaceBackPlan, caseDepth, hback, if_true]
    omega
  | insetBack bay => exact Or.inr (Or.inl trivial)
  | plinth =>
    by_cases hbase : p.baseCabinetCount = 0
    · exact Or.inr (Or.inl hbase)
    · refine Or.inl (apart_z (Or.inr ?_))
      simp only [Panel.plan, bottomPlan, plinthPlan, bottomZ, ne_eq, hbase, not_false_eq_true,
        if_true]
      omega

theorem top_met {b : Panel} (hb : b.Present p) (hne : b ≠ .top) : Met p capture .top b := by
  have hzone := m.rows.1
  have hdado := made.dado_le
  have hplinth := plinth_le_zone made
  have hpos := m.thickness_pos
  cases b with
  | leftSide => exact (leftSide_met m made (b := .top) trivial (by simp)).symm
  | rightSide => exact (rightSide_met m made (b := .top) trivial (by simp)).symm
  | bottom => exact (bottom_met m made (b := .top) trivial (by simp)).symm
  | top => exact absurd rfl hne
  | divider bay => exact Or.inr (Or.inl trivial)
  | shelf row bay =>
    have hrow := (m.rows.2.1 row.2 (mem_shelfRows hb.1)).2
    refine top_met_of_z ?_
    simp only [Panel.plan, shelfPlan]
    omega
  | baseSide cabinet =>
    have hbase := shelfZoneBottom_of_base hb.1
    refine top_met_of_z ?_
    simp only [Panel.plan, baseSidePlan]
    omega
  | baseBottom cabinet =>
    refine top_met_of_z ?_
    simp only [Panel.plan, baseBottomPlan]
    omega
  | cabinetFront cabinet =>
    have hbase := shelfZoneBottom_of_base hb.1
    refine top_met_of_z ?_
    simp only [Panel.plan, cabinetFrontPlan, frontGapUm]
    omega
  | surfaceBack =>
    have hback : p.backPanel = .surfaceMounted := hb
    refine Or.inl (apart_y (Or.inl ?_))
    simp only [Panel.plan, topPlan, surfaceBackPlan, caseDepth, hback, if_true]
    omega
  | insetBack bay => exact Or.inr (Or.inl trivial)
  | plinth =>
    refine top_met_of_z ?_
    simp only [Panel.plan, plinthPlan]
    split <;> omega

end Pairs

/-! ## Panels of the two zones -/

/-- The panels above the bottom. -/
def Panel.IsUpper : Panel → Prop
  | .divider _ | .shelf _ _ | .insetBack _ => True
  | _ => False

/-- The panels below the bottom. -/
def Panel.IsLower : Panel → Prop
  | .baseSide _ | .baseBottom _ | .cabinetFront _ | .plinth => True
  | _ => False

/-- The kinds of panels: the carcass, the zones and a back on the surface. -/
theorem Panel.cases_zone (a : Panel) : a = .leftSide ∨ a = .rightSide ∨ a = .bottom ∨ a = .top ∨
    a = .surfaceBack ∨ a.IsUpper ∨ a.IsLower := by
  cases a <;> simp [Panel.IsUpper, Panel.IsLower]

/-- An upper panel enters the bottom by a groove at most. -/
theorem upper_low (m : p.Measured) {a : Panel} (ha : a.Present p) (hupper : a.IsUpper) :
    p.shelfZoneBottom - dadoDepth p.actualThicknessUm ≤ (a.plan p capture).zUm := by
  have hdado := dadoDepth_pos p.actualThicknessUm
  cases a with
  | divider bay => exact Int.le_refl _
  | insetBack bay => exact Int.le_refl _
  | shelf row bay =>
    have hrow := (m.rows.2.1 row.2 (mem_shelfRows ha.1)).1
    simp only [Panel.plan, shelfPlan]
    omega
  | _ => exact absurd hupper (by simp [Panel.IsUpper])

section Zones

variable (m : p.Measured) (made : Made p capture)

include m made

/-- So does a lower panel, from below. -/
theorem lower_high {b : Panel} (hb : b.Present p) (hlower : b.IsLower) :
    (b.plan p capture).zUm + (b.plan p capture).heightUm ≤
      p.shelfZoneBottom - p.actualThicknessUm + dadoDepth p.actualThicknessUm := by
  have hdado := dadoDepth_pos p.actualThicknessUm
  have hpos := m.thickness_pos
  have hplinth := plinth_le_zone made
  cases b with
  | baseSide cabinet =>
    rw [shelfZoneBottom_of_base hb.1]
    simp only [Panel.plan, baseSidePlan]
    omega
  | baseBottom cabinet =>
    have hfront := made.front_fits hb.1
    rw [shelfZoneBottom_of_base hb.1]
    simp only [Panel.plan, baseBottomPlan]
    omega
  | cabinetFront cabinet =>
    rw [shelfZoneBottom_of_base hb.1]
    simp only [Panel.plan, cabinetFrontPlan, frontGapUm]
    omega
  | plinth =>
    simp only [Panel.plan, plinthPlan]
    split <;> omega
  | _ => exact absurd hlower (by simp [Panel.IsLower])

/-- In stock of two millimetres the grooves of the bottom do not meet. -/
theorem zones_met_of_thick (hthick : 2000 ≤ p.actualThicknessUm) {a b : Panel}
    (ha : a.Present p) (hupper : a.IsUpper) (hb : b.Present p) (hlower : b.IsLower) :
    Met p capture a b := by
  have hlow : _ ≤ (a.plan p capture).zUm := upper_low m ha hupper
  have hhigh := lower_high m made hb hlower
  have hdado := two_dadoDepth_le hthick
  exact Or.inl (apart_z (Or.inr (by omega)))

/-- In thinner stock the panels that would meet there are not both present. -/
theorem zones_met_of_thin (clear : KeepsClear p) (hthin : p.actualThicknessUm < 2000)
    {a b : Panel} (ha : a.Present p) (hupper : a.IsUpper) (hb : b.Present p)
    (hlower : b.IsLower) : Met p capture a b := by
  have hlow : _ ≤ (a.plan p capture).zUm := upper_low m ha hupper
  have hdado : dadoDepth p.actualThicknessUm = 1000 := dadoDepth_of_thin (by omega)
  have hpos := m.thickness_pos
  cases b with
  | baseSide cabinet =>
    have hlt := (m.cabinet_between hb.1 hb.2.1).index_lt
    have hindex := hb.2.2
    rw [length_baseOpenings hb.1] at hlt
    have := clear.bottoms_in_baseSide hthin
    omega
  | baseBottom cabinet =>
    have hfront := made.front_fits hb.1
    rw [shelfZoneBottom_of_base hb.1] at hlow
    refine Or.inl (apart_z (Or.inr ?_))
    show p.plinthHeightUm + p.actualThicknessUm ≤ (a.plan p capture).zUm
    omega
  | cabinetFront cabinet =>
    rw [shelfZoneBottom_of_base hb.1] at hlow
    refine Or.inl (apart_z (Or.inr ?_))
    show p.plinthHeightUm + p.actualThicknessUm + 2000 +
      (p.baseCabinetHeightUm - 2 * p.actualThicknessUm - 2 * 2000) ≤ (a.plan p capture).zUm
    omega
  | plinth =>
    have hplinth : p.plinthHeightUm ≠ 0 := hb
    by_cases hbase : p.baseCabinetCount = 0
    · cases a with
      | divider bay =>
        have hlt := ha.2
        exact absurd ⟨hbase, hplinth, by omega⟩ (clear.plinth_and_divider hthin)
      | shelf row bay =>
        have hrow := (m.rows.2.1 row.2 (mem_shelfRows ha.1)).1
        rw [shelfZoneBottom_of_open hbase] at hrow
        refine Or.inl (apart_z (Or.inr ?_))
        simp only [Panel.plan, plinthPlan, shelfPlan, hbase, ne_eq, not_true_eq_false, if_false]
        omega
      | insetBack bay =>
        have hfar : p.actualThicknessUm ≤ p.depthUm - 12000 - p.backThicknessUm := by
          by_contra hnear
          exact clear.plinth_and_back hthin ⟨hbase, hplinth, ha.1, by omega⟩
        refine Or.inl (apart_y (Or.inr ?_))
        simp only [Panel.plan, plinthPlan, insetBackPlan]
        omega
      | _ => exact absurd hupper (by simp [Panel.IsUpper])
    · have hfront := made.front_fits hbase
      rw [shelfZoneBottom_of_base hbase] at hlow
      have hheight : (plinthPlan p).heightUm = p.plinthHeightUm := if_pos hbase
      refine Or.inl (apart_z (Or.inr ?_))
      show 0 + (plinthPlan p).heightUm ≤ (a.plan p capture).zUm
      omega
  | _ => exact absurd hlower (by simp [Panel.IsLower])

theorem zones_met (clear : KeepsClear p) {a b : Panel} (ha : a.Present p) (hupper : a.IsUpper)
    (hb : b.Present p) (hlower : b.IsLower) : Met p capture a b := by
  by_cases hthick : 2000 ≤ p.actualThicknessUm
  · exact zones_met_of_thick m made hthick ha hupper hb hlower
  · exact zones_met_of_thin m made clear (by omega) ha hupper hb hlower

end Zones

end

end Custombuild.Domain
