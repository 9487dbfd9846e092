/-
  The blanks from which the parts are cut.

  The compiler enlarges every side of a part but those that are as long as the stock is thick; it
  does not look at the axes of the panel.  A blank grows in the plane of the panel, and only there,
  exactly when no side in that plane has the length of the thickness.
-/
import Custombuild.Domain.Compiled

namespace Custombuild.Domain

open Custombuild.Lib

/-! ## Sides and axes -/

/-- The length of a box along an axis. -/
def Dimensions3D.along (size : Dimensions3D) : Axis → Int
  | .x => size.widthUm
  | .y => size.depthUm
  | .z => size.heightUm

/-- The length of a planned box along an axis. -/
def PartPlan.along (plan : PartPlan) : Axis → Int
  | .x => plan.widthUm
  | .y => plan.depthUm
  | .z => plan.heightUm

/-- How thick the stock of a role is. -/
def stockThickness (p : BookcaseParameters) (role : PartRole) : Int :=
  if role = .back then p.backThicknessUm else p.actualThicknessUm

/-- The blank exceeds the part by twice the allowance along the two axes of the panel, and not at
    all along its thickness. -/
structure GrowsInPlane (spec : BookcaseDesignSpec) (part : PartInstance) : Prop where
  first : part.rawSize.along (panelAxes part.role).1 =
    part.finishedSize.along (panelAxes part.role).1 +
      2 * (partMaterial spec part.role).machiningAllowanceUm
  second : part.rawSize.along (panelAxes part.role).2 =
    part.finishedSize.along (panelAxes part.role).2 +
      2 * (partMaterial spec part.role).machiningAllowanceUm
  thickness : part.rawSize.along (thicknessAxis part.role) =
    part.finishedSize.along (thicknessAxis part.role)

/-- `_raw_size` along an axis. -/
theorem rawSize_along {size raw : Dimensions3D} {thicknessUm allowanceUm : Int}
    (h : rawSize size thicknessUm allowanceUm = .ok raw) (axis : Axis) :
    raw.along axis = size.along axis +
      if size.along axis = thicknessUm then 0 else 2 * allowanceUm := by
  unfold rawSize at h
  split at h
  · next hzero =>
    obtain rfl := Except.ok.inj h
    rw [hzero, Int.mul_zero, ite_self, Int.add_zero]
  · simp only at h
    obtain ⟨hwidth, hdepth, hheight⟩ := dimensions_make_ok h
    cases axis with
    | x =>
      show raw.widthUm = _
      rw [hwidth]
      unfold Dimensions3D.along
      split
      · rw [Int.add_zero]
      · rfl
    | y =>
      show raw.depthUm = _
      rw [hdepth]
      unfold Dimensions3D.along
      split
      · rw [Int.add_zero]
      · rfl
    | z =>
      show raw.heightUm = _
      rw [hheight]
      unfold Dimensions3D.along
      split
      · rw [Int.add_zero]
      · rfl

theorem Fits.along {ident : Identity} {spec : BookcaseDesignSpec} {plan : PartPlan}
    {part : PartInstance} (h : Fits ident spec plan part) (axis : Axis) :
    part.finishedSize.along axis = plan.along axis := by
  cases axis with
  | x => exact h.widthUm
  | y => exact h.depthUm
  | z => exact h.heightUm

/-- The blank of a part that was made. -/
theorem rawSize_of_makePart {ident : Identity} {spec : BookcaseDesignSpec} {plan : PartPlan}
    {part : PartInstance} (h : makePart ident spec plan = .ok part) :
    rawSize part.finishedSize (stockThickness spec.parameters plan.role)
      (partMaterial spec plan.role).machiningAllowanceUm = .ok part.rawSize := by
  simp only [makePart, bind_eq_ok] at h
  obtain ⟨size, -, placement, -, raw, hraw, hpart⟩ := h
  obtain rfl := Except.ok.inj hpart
  exact hraw

/-- A panel is as thick as its stock. -/
theorem thickness_along (p : BookcaseParameters) (capture : Int) (panel : Panel) :
    (panel.plan p capture).along (thicknessAxis (panel.plan p capture).role) =
      stockThickness p (panel.plan p capture).role := by
  cases panel <;> rfl

/-! ## The sides in the plane -/

/-- No side in the plane of the panel is as long as its stock is thick. -/
def SidesDiffer (p : BookcaseParameters) (capture : Int) (panel : Panel) : Prop :=
  (panel.plan p capture).along (panelAxes (panel.plan p capture).role).1 ≠
      stockThickness p (panel.plan p capture).role ∧
    (panel.plan p capture).along (panelAxes (panel.plan p capture).role).2 ≠
      stockThickness p (panel.plan p capture).role

theorem growsInPlane_iff {ident : Identity} {spec : BookcaseDesignSpec} {capture : Int}
    {panel : Panel} {part : PartInstance}
    (h : makePart ident spec (panel.plan spec.parameters capture) = .ok part) :
    GrowsInPlane spec part ↔ SidesDiffer spec.parameters capture panel ∨
      (partMaterial spec (panel.plan spec.parameters capture).role).machiningAllowanceUm = 0 := by
  have hfits := fits_of_makePart h
  have hraw := rawSize_along (rawSize_of_makePart h)
  have hrole : part.role = (panel.plan spec.parameters capture).role := hfits.role
  have hthickness := thickness_along spec.parameters capture panel
  constructor
  · intro hgrows
    by_cases hzero :
        (partMaterial spec (panel.plan spec.parameters capture).role).machiningAllowanceUm = 0
    · exact Or.inr hzero
    · left
      have hfirst := hgrows.first
      have hsecond := hgrows.second
      rw [hrole, hraw, hfits.along] at hfirst hsecond
      constructor
      · intro heq
        rw [if_pos heq] at hfirst
        omega
      · intro heq
        rw [if_pos heq] at hsecond
        omega
  · intro hsides
    refine ⟨?_, ?_, ?_⟩
    · rw [hrole, hraw, hfits.along]
      rcases hsides with hsides | hzero
      · rw [if_neg hsides.1]
      · rw [hzero, Int.mul_zero, ite_self]
    · rw [hrole, hraw, hfits.along]
      rcases hsides with hsides | hzero
      · rw [if_neg hsides.2]
      · rw [hzero, Int.mul_zero, ite_self]
    · rw [hrole, hraw, hfits.along, if_pos hthickness, Int.add_zero]

/-- The blanks of a design grow in the planes of their panels exactly when no panel with an
    allowance has a side there that is as long as its stock is thick. -/
theorem blanks_grow_in_plane_iff {hashing : Hashing} {spec : BookcaseDesignSpec}
    {design : DesignResult} {capture : Int} (hbuild : build hashing spec = .ok design)
    (hcapture : spec.parameters.insetBackDividerCapture = .ok capture) :
    (∀ part ∈ design.parts, GrowsInPlane spec part) ↔
      ∀ panel : Panel, panel.Present spec.parameters →
        SidesDiffer spec.parameters capture panel ∨
          (partMaterial spec (panel.plan spec.parameters capture).role).machiningAllowanceUm = 0 := by
  obtain ⟨c⟩ := compiled_of_build hbuild
  obtain rfl : c.capture = capture := Except.ok.inj (c.capture_eq.symm.trans hcapture)
  -- the joints add features to the parts, and leave their sizes alone
  have hparts : (∀ part ∈ design.parts, GrowsInPlane spec part) ↔
      ∀ part ∈ c.parts, GrowsInPlane spec part := by
    rw [c.design_parts]
    constructor
    · intro h part hpart
      obtain ⟨hfirst, hsecond, hthickness⟩ := h _ (List.mem_map_of_mem hpart)
      exact ⟨hfirst, hsecond, hthickness⟩
    · intro h part hpart
      obtain ⟨made, hmade, rfl⟩ := List.mem_map.mp hpart
      obtain ⟨hfirst, hsecond, hthickness⟩ := h made hmade
      exact ⟨hfirst, hsecond, hthickness⟩
  rw [hparts]
  constructor
  · intro h panel hpanel
    obtain ⟨part, hpart, hmake⟩ := collect_mem c.parts_eq (mem_partPlans.mpr ⟨panel, hpanel, rfl⟩)
    exact (growsInPlane_iff hmake).mp (h part hpart)
  · intro h part hpart
    obtain ⟨plan, hplan, hmake⟩ := mem_of_collect c.parts_eq hpart
    obtain ⟨panel, hpanel, rfl⟩ := mem_partPlans.mp hplan
    exact (growsInPlane_iff hmake).mpr (h panel hpanel)

/-- A carcass on a plinth that stands 12 mm high and enters the bottom by 6 mm. -/
def lowPlinth : BookcaseParameters :=
  { shelfCount := 0, backPanel := .none, plinthHeightUm := 12000 }

/-- The carcass of plywood with a machining allowance of a millimetre. -/
def lowPlinthSpec : BookcaseDesignSpec :=
  { plywoodBookcase lowPlinth with
    material := { plywood 18000 with machiningAllowanceUm := 1000 } }

theorem lowPlinthSpec_built : lowPlinthSpec.validate = .ok () ∧
    ∃ design, build namedHashing lowPlinthSpec = .ok design := by
  have hbuilt : (build namedHashing lowPlinthSpec).isOk = true := by decide +kernel
  exact ⟨by decide +kernel, exists_eq_ok hbuilt⟩

theorem blanks_grow_in_plane_iff_lowPlinth : ∃ design,
    build namedHashing lowPlinthSpec = .ok design ∧
      ((∀ part ∈ design.parts, GrowsInPlane lowPlinthSpec part) ↔
        ∀ panel : Panel, panel.Present lowPlinth → SidesDiffer lowPlinth 6000 panel ∨
          (partMaterial lowPlinthSpec (panel.plan lowPlinth 6000).role).machiningAllowanceUm =
            0) := by
  obtain ⟨-, design, hdesign⟩ := lowPlinthSpec_built
  exact ⟨design, hdesign, blanks_grow_in_plane_iff hdesign rfl⟩

/-- The plinth is 18 mm high, as high as its stock is thick, and its blank is no higher. -/
theorem lowPlinth_blank_short : lowPlinthSpec.validate = .ok () ∧ ∃ design,
    build namedHashing lowPlinthSpec = .ok design ∧
      ¬∀ part ∈ design.parts, GrowsInPlane lowPlinthSpec part := by
  obtain ⟨hvalid, design, hdesign⟩ := lowPlinthSpec_built
  refine ⟨hvalid, design, hdesign, fun h => ?_⟩
  obtain ⟨c⟩ := compiled_of_build hdesign
  obtain ⟨part, hpart, hmake⟩ := collect_mem c.parts_eq
    (mem_partPlans.mpr ⟨.plinth, show lowPlinth.plinthHeightUm ≠ 0 by decide, rfl⟩)
  have hmem : { part with features := featuresOf c.made part.partId } ∈ design.parts := by
    rw [c.design_parts]
    exact List.mem_map_of_mem hpart
  obtain ⟨hfirst, hsecond, hthickness⟩ := h _ hmem
  have hgrows : GrowsInPlane lowPlinthSpec part := ⟨hfirst, hsecond, hthickness⟩
  rcases (growsInPlane_iff hmake).mp hgrows with hsides | hzero
  · exact hsides.2 rfl
  · exact absurd (show (1000 : Int) = 0 from hzero) (by decide)

end Custombuild.Domain
