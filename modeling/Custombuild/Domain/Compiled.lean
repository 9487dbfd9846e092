/-
  What a compiled design is made of: parts that fit their plans, and joints made from the plans
  of joints.  The checks of the compiler become facts about the plans.
-/
import Custombuild.Domain.Build
import Custombuild.Domain.Neighbours

namespace Custombuild.Domain

open Custombuild.Lib BookcaseParameters

/-! ## Parts that fit their plans -/

/-- A part has the identity, the role and the box of its plan. -/
structure Fits (ident : Identity) (spec : BookcaseDesignSpec) (plan : PartPlan)
    (part : PartInstance) : Prop where
  partId : part.partId = ident.stableId ["part", spec.designId, plan.key]
  semanticKey : part.semanticKey = plan.key
  role : part.role = plan.role
  instanceIndex : part.instanceIndex = plan.index
  widthUm : part.finishedSize.widthUm = plan.widthUm
  depthUm : part.finishedSize.depthUm = plan.depthUm
  heightUm : part.finishedSize.heightUm = plan.heightUm
  xUm : part.placement.xUm = plan.xUm
  yUm : part.placement.yUm = plan.yUm
  zUm : part.placement.zUm = plan.zUm

theorem dimensions_make_ok {w d h : Int} {size : Dimensions3D}
    (hmake : Dimensions3D.make w d h = .ok size) :
    size.widthUm = w ∧ size.depthUm = d ∧ size.heightUm = h := by
  unfold Dimensions3D.make at hmake
  split at hmake
  · cases hmake
    exact ⟨rfl, rfl, rfl⟩
  · cases hmake

theorem point_make_ok {x y z : Int} {point : Point3D} (hmake : Point3D.make x y z = .ok point) :
    point.xUm = x ∧ point.yUm = y ∧ point.zUm = z := by
  unfold Point3D.make at hmake
  split at hmake
  · cases hmake
    exact ⟨rfl, rfl, rfl⟩
  · cases hmake

theorem fits_of_makePart {ident : Identity} {spec : BookcaseDesignSpec} {plan : PartPlan}
    {part : PartInstance} (h : makePart ident spec plan = .ok part) : Fits ident spec plan part := by
  simp only [makePart, bind_eq_ok] at h
  obtain ⟨size, hsize, placement, hplacement, raw, -, hpart⟩ := h
  cases hpart
  obtain ⟨hw, hd, hh⟩ := dimensions_make_ok hsize
  obtain ⟨hx, hy, hz⟩ := point_make_ok hplacement
  exact ⟨rfl, rfl, rfl, rfl, hw, hd, hh, hx, hy, hz⟩

/-- The sides of a part that was made are positive and its corner is not negative. -/
theorem Fits.positive {ident : Identity} {spec : BookcaseDesignSpec} {plan : PartPlan}
    {part : PartInstance} (h : Fits ident spec plan part) :
    0 < plan.widthUm ∧ 0 < plan.depthUm ∧ 0 < plan.heightUm ∧ 0 ≤ plan.xUm := by
  have hsize := part.finishedSize.positive
  have hplace := part.placement.nonneg
  rw [← h.widthUm, ← h.depthUm, ← h.heightUm, ← h.xUm]
  exact ⟨hsize.1, hsize.2.1, hsize.2.2, hplace.1⟩

/-! ## Designs -/

/-- The stages of `build` that led to a design. -/
structure Compiled (hashing : Hashing) (spec : BookcaseDesignSpec) (design : DesignResult) where
  capture : Int
  parts : List PartInstance
  plans : List JointPlan
  made : List MadeJoint
  capture_eq : spec.parameters.insetBackDividerCapture = .ok capture
  parts_eq : collect (makePart hashing.toIdentity spec) (partPlans spec.parameters capture) =
    .ok parts
  plans_eq : jointPlans spec.parameters parts = .ok plans
  made_eq : collect (join hashing.toIdentity spec parts) plans = .ok made
  design_parts : design.parts =
    parts.map fun part => { part with features := featuresOf made part.partId }
  design_joints : design.joints = made.map MadeJoint.joint
  interlocked : ∀ joint ∈ design.joints, validateDadoInterlock design.parts joint = .ok ()
  valid : design.validate hashing = .ok ()

theorem compiled_of_build {hashing : Hashing} {spec : BookcaseDesignSpec} {design : DesignResult}
    (h : build hashing spec = .ok design) : Nonempty (Compiled hashing spec design) := by
  simp only [build, bind_eq_ok] at h
  obtain ⟨parts, hparts, ⟨updated, joints⟩, hjoints, graph, -, ⟨⟩, hvalid, hdesign⟩ := h
  simp only [buildParts, bind_eq_ok] at hparts
  obtain ⟨capture, hcapture, hparts⟩ := hparts
  simp only [buildJoints, bind_eq_ok] at hjoints
  obtain ⟨plans, hplans, made, hmade, ⟨⟩, hinterlocked, hupdated⟩ := hjoints
  cases hupdated
  cases hdesign
  exact ⟨{
    capture := capture
    parts := parts
    plans := plans
    made := made
    capture_eq := hcapture
    parts_eq := hparts
    plans_eq := hplans
    made_eq := hmade
    design_parts := rfl
    design_joints := rfl
    interlocked := forEach_eq_ok.mp hinterlocked
    valid := hvalid }⟩

theorem nodup_of_isUnique {ids : List String} (h : isUnique ids = true) : ids.Nodup := by
  have hlength : ids.dedup.length = ids.length := by simpa [isUnique] using h
  have heq : ids.dedup = ids := (List.dedup_sublist ids).eq_of_length hlength
  rw [← heq]
  exact List.nodup_dedup ids

namespace Compiled

variable {hashing : Hashing} {spec : BookcaseDesignSpec} {design : DesignResult}
variable (c : Compiled hashing spec design)

include c

theorem fits : List.Forall₂ (Fits hashing.toIdentity spec)
    (partPlans spec.parameters c.capture) c.parts :=
  (collect_eq_ok.mp c.parts_eq).imp fun _ _ => fits_of_makePart

theorem exists_part (panel : Panel) (h : panel.Present spec.parameters) :
    ∃ part ∈ c.parts,
      Fits hashing.toIdentity spec (panel.plan spec.parameters c.capture) part := by
  obtain ⟨part, hpart, hmake⟩ := collect_mem c.parts_eq (mem_partPlans.mpr ⟨panel, h, rfl⟩)
  exact ⟨part, hpart, fits_of_makePart hmake⟩

theorem exists_panel {part : PartInstance} (h : part ∈ c.parts) :
    ∃ panel : Panel, panel.Present spec.parameters ∧
      Fits hashing.toIdentity spec (panel.plan spec.parameters c.capture) part := by
  obtain ⟨plan, hplan, hmake⟩ := mem_of_collect c.parts_eq h
  obtain ⟨panel, hpresent, rfl⟩ := mem_partPlans.mp hplan
  exact ⟨panel, hpresent, fits_of_makePart hmake⟩

theorem map_partId : design.parts.map PartInstance.partId = c.parts.map PartInstance.partId := by
  rw [c.design_parts, List.map_map]
  rfl

theorem partIds_nodup : (c.parts.map PartInstance.partId).Nodup := by
  have hvalid := c.valid
  simp only [DesignResult.validate, bind_eq_ok, require_eq_ok] at hvalid
  obtain ⟨⟨⟩, -, ⟨⟩, hunique, -⟩ := hvalid
  rw [c.map_partId] at hunique
  exact nodup_of_isUnique hunique

/-- The identity of a part is that of its key. -/
theorem partId_eq {part : PartInstance} (h : part ∈ c.parts) :
    part.partId = hashing.stableId ["part", spec.designId, part.semanticKey] := by
  obtain ⟨panel, -, hfits⟩ := c.exists_panel h
  rw [hfits.partId, hfits.semanticKey]

theorem part_eq_of_key {a b : PartInstance} (ha : a ∈ c.parts) (hb : b ∈ c.parts)
    (h : a.semanticKey = b.semanticKey) : a = b := by
  refine List.inj_on_of_nodup_map c.partIds_nodup ha hb ?_
  rw [c.partId_eq ha, c.partId_eq hb, h]

/-- The part that a key finds is the one that was made for it. -/
theorem part_of_key {key : String} {part : PartInstance}
    (h : partByKey c.parts key = .ok part) : part ∈ c.parts ∧ part.semanticKey = key := by
  simp only [partByKey, demand_eq_ok] at h
  have hkey := List.find?_some h
  exact ⟨List.mem_of_find?_eq_some h, by simpa using hkey⟩

theorem partByKey_eq {part : PartInstance} (h : part ∈ c.parts) :
    partByKey c.parts part.semanticKey = .ok part := by
  rw [partByKey, demand_eq_ok]
  cases hfind : c.parts.find? fun other => other.semanticKey == part.semanticKey with
  | none => exact absurd (List.find?_eq_none.mp hfind part h) (by simp)
  | some other =>
    have hkey : other.semanticKey = part.semanticKey := by simpa using List.find?_some hfind
    rw [c.part_eq_of_key (List.mem_of_find?_eq_some hfind) h hkey]

/-- The part that the key of a panel finds fits the plan of the panel. -/
theorem fits_of_key (panel : Panel) (hpanel : panel.Present spec.parameters) {key : String}
    {part : PartInstance} (h : partByKey c.parts key = .ok part)
    (hkey : key = (panel.plan spec.parameters c.capture).key) :
    Fits hashing.toIdentity spec (panel.plan spec.parameters c.capture) part := by
  obtain ⟨hpart, hpartKey⟩ := c.part_of_key h
  obtain ⟨made, hmade, hfits⟩ := c.exists_part panel hpanel
  have heq : part = made := by
    refine c.part_eq_of_key hpart hmade ?_
    rw [hpartKey, hkey, hfits.semanticKey]
  rw [heq]
  exact hfits

end Compiled

end Custombuild.Domain
