/-
  What the joints of a compiled design say of its plans: the plinth fits below the case, the
  captures leave wood in a divider, and a dado joins only panels of certain roles.
-/
import Custombuild.Domain.Grooves

namespace Custombuild.Domain

open Custombuild.Lib BookcaseParameters

/-! ## Joints and their plans -/

/-- What `join` has made of a plan. -/
theorem join_ok {ident : Identity} {spec : BookcaseDesignSpec} {parts : List PartInstance}
    {plan : JointPlan} {made : MadeJoint} (h : join ident spec parts plan = .ok made) :
    ∃ first second, partByKey parts plan.firstKey = .ok first ∧
      partByKey parts plan.secondKey = .ok second ∧ made.joint.jointType = plan.kind ∧
      made.joint.partIds = [first.partId, second.partId] ∧
      (plan.kind = .dado → ∃ depth geometry,
        dadoFeatureGeometry first second (plan.firstFeatureFace.getD plan.firstFace) depth
          dadoFitClearanceUm = .ok geometry) := by
  simp only [join, bind_eq_ok, require_eq_ok] at h
  obtain ⟨mating, -, -, -, -, -, first, hfirst, second, hsecond, depth, -, feature, hfeature, other,
    -, ⟨⟩, -, hmade⟩ := h
  cases hmade
  refine ⟨first, second, hfirst, hsecond, rfl, rfl, fun hdado => ?_⟩
  simp only [firstFeature, hdado, if_true, bind_eq_ok] at hfeature
  obtain ⟨geometry, hgeometry, -⟩ := hfeature
  exact ⟨depth, geometry, hgeometry⟩

/-- What a dado overlaps: its depth along the normal, and the mate within the owner. -/
theorem dadoFeatureGeometry_ok {owner mate : PartInstance} {face : FaceName} {depth clearance : Int}
    {geometry : FeatureDimensions × Point3D}
    (h : dadoFeatureGeometry owner mate face depth clearance = .ok geometry) :
    overlapInterval (owner.globalInterval (physicalFace owner.role face).1)
        (mate.globalInterval (physicalFace owner.role face).1) =
      expectedNormal (owner.globalInterval (physicalFace owner.role face).1)
        (physicalFace owner.role face).2 depth ∧
    (∃ extent, grooveExtent owner mate clearance (panelAxes owner.role).1 = .ok extent) ∧
    ∃ extent, grooveExtent owner mate clearance (panelAxes owner.role).2 = .ok extent := by
  simp only [dadoFeatureGeometry, bind_eq_ok, require_eq_ok, beq_iff_eq] at h
  obtain ⟨-, -, -, -, -, hnormal, first, hfirst, second, hsecond, -⟩ := h
  exact ⟨hnormal, ⟨first, hfirst⟩, ⟨second, hsecond⟩⟩

theorem fitInterval_ok {owner mate extent : Int × Int} {clearance : Int}
    (h : fitInterval owner mate clearance = .ok extent) : owner.1 ≤ mate.1 ∧ mate.2 ≤ owner.2 := by
  simp only [fitInterval, bind_eq_ok, require_eq_ok, Bool.and_eq_true, decide_eq_true_eq] at h
  obtain ⟨-, hinside, -⟩ := h
  exact ⟨hinside.1.1, hinside.1.2⟩

section Compiled

variable {hashing : Hashing} {spec : BookcaseDesignSpec} {design : DesignResult}
variable (c : Compiled hashing spec design)

/-! ## What was checked of the plans -/

theorem insetBackSideCaptureDepth_ok {t capture : Int}
    (h : insetBackSideCaptureDepth t = .ok capture) : 1000 ≤ capture ∧ 2 * capture ≤ t := by
  simp only [insetBackSideCaptureDepth, bind_eq_ok, require_eq_ok, decide_eq_true_eq] at h
  obtain ⟨-, hmaximum, hcapture⟩ := h
  cases hcapture
  have hrelief : dadoMinAdjacentReliefSpacingUm = 6100 := rfl
  have hdado := dadoDepth_pos t
  omega

include c

theorem plinth_fits_of_compiled (hbase : spec.parameters.baseCabinetCount = 0)
    (hplinth : spec.parameters.plinthHeightUm ≠ 0) :
    spec.parameters.actualThicknessUm ≤ spec.parameters.caseDepth := by
  obtain ⟨j⟩ := joinery_of_plans c.plans_eq
  obtain ⟨plan, hplan, hdado, hfirstKey, hsecondKey⟩ := grooved_plinth c j hplinth hbase
  obtain ⟨made, -, hjoin⟩ := collect_mem c.made_eq hplan
  obtain ⟨first, second, hfirst, hsecond, -, -, hgeometry⟩ := join_ok hjoin
  obtain ⟨depth, geometry, hgeometry⟩ := hgeometry hdado
  have hbottom := c.fits_of_key .bottom trivial hfirst hfirstKey
  have hpart := c.fits_of_key .plinth hplinth hsecond hsecondKey
  obtain ⟨-, -, extent, hextent⟩ := dadoFeatureGeometry_ok hgeometry
  have hrole : first.role = .bottom := hbottom.role
  have hrole' : second.role = .plinth := hpart.role
  simp only [grooveExtent, hrole, hrole', panelAxes, thicknessAxis, if_true] at hextent
  have hinside := (fitInterval_ok hextent).2
  simp only [PartInstance.globalInterval, PartInstance.placementAxis,
    PartInstance.axisDimension] at hinside
  rw [hpart.yUm, hpart.depthUm, hbottom.yUm, hbottom.depthUm] at hinside
  simp only [Panel.plan, plinthPlan, bottomPlan] at hinside
  omega

theorem made_of_compiled (m : spec.parameters.Measured) : Made spec.parameters c.capture where
  dado_le := by
    obtain ⟨part, -, hfits⟩ := c.exists_part .bottom trivial
    have hx := hfits.positive.2.2.2
    simp only [Panel.plan, bottomPlan, carcassSideInset, m.dado, if_true] at hx
    omega
  front_fits := by
    intro hbase
    have hcount : 0 < spec.parameters.baseOpenings.length := by
      rw [length_baseOpenings hbase]
      omega
    obtain ⟨cabinet, hcabinet, -⟩ := exists_bay (t := spec.parameters.actualThicknessUm) hcount
    obtain ⟨part, -, hfits⟩ := c.exists_part (.cabinetFront cabinet) ⟨hbase, hcabinet⟩
    have hheight := hfits.positive.2.2.1
    simp only [Panel.plan, cabinetFrontPlan, frontGapUm] at hheight
    omega
  plinth_fits := plinth_fits_of_compiled c
  capture_le := by
    intro hback hdividers
    have hcapture := c.capture_eq
    rw [insetBackDividerCapture, if_pos ⟨hback, hdividers⟩] at hcapture
    exact (insetBackSideCaptureDepth_ok hcapture).2

/-! ## Roles that dados join -/

/-- The roles of a grooved panel and of the panel in its groove. -/
def MayGroove : PartRole → PartRole → Prop
  | .leftSide, _ | .rightSide, _ | .bottom, _ | .top, _ | .baseSide, _ => True
  | .divider, mate => mate = .shelf ∨ mate = .back
  | _, _ => False

theorem supports_role (j : Joinery spec.parameters c.parts c.plans) {support : PartInstance}
    (h : support ∈ j.supports) :
    support.role = .leftSide ∨ support.role = .rightSide ∨ support.role = .divider := by
  simp only [Joinery.supports, List.cons_append, List.mem_cons, List.mem_append,
    List.not_mem_nil, or_false] at h
  rcases h with rfl | h | rfl
  · exact Or.inl (left_fits c j).role
  · have hrole := (List.mem_filter.mp (mem_sortBy.mp h)).2
    exact Or.inr (Or.inr (by simpa using hrole))
  · exact Or.inr (Or.inl (right_fits c j).role)

theorem mayGroove_support (j : Joinery spec.parameters c.parts c.plans)
    {support : PartInstance} (h : support ∈ j.supports) {mate : PartRole}
    (hmate : mate = .shelf ∨ mate = .back) : MayGroove support.role mate := by
  rcases supports_role c j h with hrole | hrole | hrole <;> rw [hrole]
  · trivial
  · trivial
  · exact hmate

theorem cabinetSupport_role (j : Joinery spec.parameters c.parts c.plans)
    (hbase : spec.parameters.baseCabinetCount ≠ 0) {atSide : Bool} {side support : PartInstance}
    {index : Nat} (hside : side = j.left ∨ side = j.right)
    (hindex : atSide = false → 0 < index ∧ index < spec.parameters.baseCabinetCount)
    (h : cabinetSupport c.parts atSide side index = .ok support) (mate : PartRole) :
    MayGroove support.role mate := by
  unfold cabinetSupport at h
  split at h
  · cases h
    rcases hside with rfl | rfl
    · rw [(left_fits c j).role]
      trivial
    · rw [(right_fits c j).role]
      trivial
  · next hfalse =>
    obtain ⟨hpos, hlt⟩ := hindex (by simpa using hfalse)
    rw [← length_baseOpenings hbase] at hlt
    obtain ⟨cabinet, hcabinet, rfl⟩ := exists_bay (t := spec.parameters.actualThicknessUm) hlt
    have hfits := c.fits_of_key (.baseSide cabinet) ⟨hbase, hcabinet, hpos⟩ h rfl
    rw [hfits.role]
    trivial

/-- The part of the key of a part is that part. -/
theorem eq_of_key {part found : PartInstance} (hpart : part ∈ c.parts) {key : String}
    (hkey : key = part.semanticKey) (h : partByKey c.parts key = .ok found) : found = part := by
  rw [hkey, c.partByKey_eq hpart] at h
  exact (Except.ok.inj h).symm

theorem mem_of_role {role : PartRole} {part : PartInstance} (h : part ∈ partsOfRole c.parts role) :
    part ∈ c.parts ∧ part.role = role := by
  obtain ⟨hmem, hrole⟩ := List.mem_filter.mp (mem_sortBy.mp h)
  exact ⟨hmem, by simpa using hrole⟩

/-- The left side, the right side, the bottom and the top may be grooved for any panel. -/
theorem mayGroove_carcass {key : String} {first : PartInstance}
    (hkey : key = "left-side" ∨ key = "right-side" ∨ key = "bottom" ∨ key = "top")
    (h : partByKey c.parts key = .ok first) (mate : PartRole) : MayGroove first.role mate := by
  rcases hkey with rfl | rfl | rfl | rfl
  · rw [(c.fits_of_key .leftSide trivial h rfl).role]
    trivial
  · rw [(c.fits_of_key .rightSide trivial h rfl).role]
    trivial
  · rw [(c.fits_of_key .bottom trivial h rfl).role]
    trivial
  · rw [(c.fits_of_key .top trivial h rfl).role]
    trivial

theorem mem_supports (j : Joinery spec.parameters c.parts c.plans) {support : PartInstance}
    (h : support ∈ j.supports) : support ∈ c.parts := by
  simp only [Joinery.supports, List.cons_append, List.mem_cons, List.mem_append,
    List.not_mem_nil, or_false] at h
  rcases h with rfl | h | rfl
  · exact (c.part_of_key j.left_eq).1
  · exact (mem_of_role c h).1
  · exact (c.part_of_key j.right_eq).1

theorem mem_of_cabinetSupport (j : Joinery spec.parameters c.parts c.plans) {atSide : Bool}
    {side support : PartInstance} {index : Nat} (hside : side = j.left ∨ side = j.right)
    (h : cabinetSupport c.parts atSide side index = .ok support) : support ∈ c.parts := by
  unfold cabinetSupport at h
  split at h
  · cases h
    rcases hside with rfl | rfl
    · exact (c.part_of_key j.left_eq).1
    · exact (c.part_of_key j.right_eq).1
  · exact (c.part_of_key h).1

section Plans

variable (j : Joinery spec.parameters c.parts c.plans) {plan : JointPlan}
  {first second : PartInstance} (hfirst : partByKey c.parts plan.firstKey = .ok first)
  (hsecond : partByKey c.parts plan.secondKey = .ok second)

include hfirst hsecond

theorem mayGroove_shelf (h : plan ∈ j.shelves.flatten) : MayGroove first.role second.role := by
  obtain ⟨plans, hplans, hplan⟩ := List.mem_flatten.mp h
  obtain ⟨shelf, hshelf, hjoints⟩ := mem_of_collect j.shelves_eq hplans
  obtain ⟨hmem, hrole⟩ := mem_of_role c hshelf
  simp only [shelfJoints, bind_eq_ok, demand_eq_ok] at hjoints
  obtain ⟨left, hleft, right, hright, hresult⟩ := hjoints
  cases hresult
  simp only [List.mem_cons, List.not_mem_nil, or_false] at hplan
  rcases hplan with rfl | rfl
  · have hsupport : left ∈ j.supports := List.mem_of_getElem? hleft
    rw [eq_of_key c (mem_supports c j hsupport) rfl hfirst, eq_of_key c hmem rfl hsecond, hrole]
    exact mayGroove_support c j hsupport (Or.inl rfl)
  · have hsupport : right ∈ j.supports := List.mem_of_getElem? hright
    rw [eq_of_key c (mem_supports c j hsupport) rfl hfirst, eq_of_key c hmem rfl hsecond, hrole]
    exact mayGroove_support c j hsupport (Or.inl rfl)

theorem mayGroove_base (h : plan ∈ j.base) : MayGroove first.role second.role := by
  have hbase := j.base_eq
  simp only [baseJoints, bind_eq_ok] at hbase
  obtain ⟨plans, hplans, hresult⟩ := hbase
  rw [← Except.ok.inj hresult] at h
  rcases List.mem_append.mp h with h | h
  · obtain ⟨joints, hjoints, hplan⟩ := List.mem_flatten.mp h
    obtain ⟨⟨part, index⟩, hentry, hmade⟩ := mem_of_collect hplans hjoints
    have hpart := List.mem_zipIdx_iff_getElem?.mp hentry
    obtain ⟨hmem, -⟩ := mem_of_role c (List.mem_of_getElem? hpart)
    have hlt : index < (partsOfRole c.parts .baseBottom).length :=
      (List.getElem?_eq_some_iff.mp hpart).1
    have hcount : spec.parameters.baseCabinetCount ≠ 0 := by
      obtain ⟨panel, hpresent, hfits⟩ := c.exists_panel hmem
      have hrole := (mem_of_role c (List.mem_of_getElem? hpart)).2
      rw [hfits.role] at hrole
      cases panel with
      | baseBottom cabinet => exact hpresent.1
      | _ => cases hrole
    rw [length_baseBottoms c hcount] at hlt hmade
    simp only [bind_eq_ok] at hmade
    obtain ⟨left, hleft, right, hright, hresult⟩ := hmade
    cases hresult
    simp only [baseBottomJoints, List.mem_cons, List.not_mem_nil, or_false] at hplan
    rcases hplan with rfl | rfl
    · have hrole := cabinetSupport_role c j hcount (Or.inl rfl)
        (fun hside => ⟨by simp at hside; omega, hlt⟩) hleft second.role
      rw [eq_of_key c (mem_of_cabinetSupport c j (Or.inl rfl) hleft) rfl hfirst]
      exact hrole
    · have hrole := cabinetSupport_role c j hcount (Or.inr rfl)
        (fun hside => ⟨by omega, by simp at hside; omega⟩) hright second.role
      rw [eq_of_key c (mem_of_cabinetSupport c j (Or.inr rfl) hright) rfl hfirst]
      exact hrole
  · split at h
    · exact absurd h List.not_mem_nil
    · obtain ⟨part, -, rfl⟩ := List.mem_map.mp h
      exact mayGroove_carcass c (Or.inr (Or.inr (Or.inl rfl))) hfirst _

theorem mayGroove_back (hdado : plan.kind = .dado) (h : plan ∈ j.back) :
    MayGroove first.role second.role := by
  have hresult := j.back_eq
  unfold backJoints at hresult
  simp only at hresult
  split at hresult
  · rw [← Except.ok.inj hresult] at h
    exact absurd h List.not_mem_nil
  · simp only [bind_eq_ok] at hresult
    obtain ⟨-, -, depth, -, hresult⟩ := hresult
    rw [← Except.ok.inj hresult] at h
    obtain ⟨⟨⟨left, right⟩, back⟩, hentry, hplan⟩ := List.mem_flatMap.mp h
    have hpairs := List.of_mem_zip hentry
    obtain ⟨hmem, hrole⟩ := mem_of_role c hpairs.2
    have hsupports := List.of_mem_zip hpairs.1
    have hleft : left ∈ j.supports := hsupports.1
    have hright : right ∈ j.supports := List.mem_of_mem_drop hsupports.2
    have htop := c.part_of_key j.top_eq
    have hbottom := c.part_of_key j.bottom_eq
    simp only [insetBackJoints, List.mem_cons, List.not_mem_nil, or_false] at hplan
    rcases hplan with rfl | rfl | rfl | rfl
    · rw [eq_of_key c (mem_supports c j hleft) rfl hfirst, eq_of_key c hmem rfl hsecond, hrole]
      exact mayGroove_support c j hleft (Or.inr rfl)
    · rw [eq_of_key c (mem_supports c j hright) rfl hfirst, eq_of_key c hmem rfl hsecond, hrole]
      exact mayGroove_support c j hright (Or.inr rfl)
    · exact mayGroove_carcass c (Or.inr (Or.inr (Or.inr htop.2))) hfirst _
    · exact mayGroove_carcass c (Or.inr (Or.inr (Or.inl hbottom.2))) hfirst _
  · split at hresult
    · simp only [bind_eq_ok] at hresult
      obtain ⟨-, -, hresult⟩ := hresult
      rw [← Except.ok.inj hresult] at h
      simp only [surfaceBackJoints, List.mem_cons, List.not_mem_nil, or_false] at h
      rcases h with rfl | rfl | rfl | rfl <;> cases hdado
    · cases hresult

/-- A dado joins only panels of the listed roles. -/
theorem mayGroove_of_plan (hdado : plan.kind = .dado) (h : plan ∈ c.plans) :
    MayGroove first.role second.role := by
  obtain ⟨j⟩ := joinery_of_plans c.plans_eq
  rcases j.mem_plans.mp h with h | h | h | h | h | h
  · simp only [carcassJoints, List.mem_cons, List.not_mem_nil, or_false] at h
    rcases h with rfl | rfl | rfl | rfl
    · exact mayGroove_carcass c (Or.inl rfl) hfirst _
    · exact mayGroove_carcass c (Or.inr (Or.inl rfl)) hfirst _
    · exact mayGroove_carcass c (Or.inl rfl) hfirst _
    · exact mayGroove_carcass c (Or.inr (Or.inl rfl)) hfirst _
  · obtain ⟨divider, -, h⟩ := List.mem_flatMap.mp h
    simp only [dividerJoints, List.mem_cons, List.not_mem_nil, or_false] at h
    rcases h with rfl | rfl
    · exact mayGroove_carcass c (Or.inr (Or.inr (Or.inl rfl))) hfirst _
    · exact mayGroove_carcass c (Or.inr (Or.inr (Or.inr rfl))) hfirst _
  · exact mayGroove_shelf c j hfirst hsecond h
  · exact mayGroove_base c j hfirst hsecond h
  · exact mayGroove_back c j hfirst hsecond hdado h
  · unfold plinthJoints at h
    split at h
    · rw [List.mem_singleton.mp h] at hfirst
      exact mayGroove_carcass c (Or.inr (Or.inr (Or.inl rfl))) hfirst _
    · exact absurd h List.not_mem_nil

end Plans

end Compiled

end Custombuild.Domain
