/-
  Where the solids of a compiled design meet.

  The boxes of two parts have volume in common only where a dado joins the parts, exactly for the
  bookcases of `KeepsClear`.  A dado always overlaps by the depth of its groove.
-/
import Custombuild.Domain.JoinedRoles

namespace Custombuild.Domain

open Custombuild.Lib BookcaseParameters

/-! ## Solids -/

/-- The common extent of two parts along an axis. -/
def overlapAlong (a b : PartInstance) (axis : Axis) : Int :=
  (overlapInterval (a.globalInterval axis) (b.globalInterval axis)).2 -
    (overlapInterval (a.globalInterval axis) (b.globalInterval axis)).1

/-- The boxes of two parts have volume in common. -/
def Overlap (a b : PartInstance) : Prop := ∀ axis, 0 < overlapAlong a b axis

/-- A dado joins two parts. -/
def LinkedBy (joint : Joint) (a b : PartInstance) : Prop :=
  joint.jointType = .dado ∧
    (joint.partIds = [a.partId, b.partId] ∨ joint.partIds = [b.partId, a.partId])

/-- Along the normal of the groove of a joint two parts overlap by the depth of the groove. -/
def GrooveMatches (joint : Joint) (a b : PartInstance) : Prop :=
  ∃ owner ∈ [a, b], ∃ groove ∈ owner.features, ∃ depth, joint.first.partId = owner.partId ∧
    joint.first.featureIds = [groove.featureId] ∧ groove.kind = .groove ∧
    groove.dimensions.depthUm = some depth ∧
    overlapAlong a b (physicalFace owner.role groove.face).1 = depth

/-- Two parts of a design overlap only where a dado joins them, and there by the depth of its
    groove. -/
def SolidsApart (design : DesignResult) : Prop :=
  ∀ a ∈ design.parts, ∀ b ∈ design.parts, a ≠ b → Overlap a b →
    (∃ joint ∈ design.joints, LinkedBy joint a b) ∧
      ∀ joint ∈ design.joints, LinkedBy joint a b → GrooveMatches joint a b

theorem overlapAlong_comm (a b : PartInstance) (axis : Axis) :
    overlapAlong a b axis = overlapAlong b a axis := by
  simp only [overlapAlong, overlapInterval]
  omega

/-- Parts overlap exactly when the boxes of their plans are not apart. -/
theorem overlap_iff {ident : Identity} {spec : BookcaseDesignSpec} {plan plan' : PartPlan}
    {a b : PartInstance} (ha : Fits ident spec plan a) (hb : Fits ident spec plan' b) :
    Overlap a b ↔ ¬Apart plan plan' := by
  have hpa := ha.positive
  have hpb := hb.positive
  have hx : 0 < overlapAlong a b .x ↔
      plan.xUm < plan'.xUm + plan'.widthUm ∧ plan'.xUm < plan.xUm + plan.widthUm := by
    simp only [overlapAlong, overlapInterval, PartInstance.globalInterval,
      PartInstance.placementAxis, PartInstance.axisDimension, ha.xUm, hb.xUm, ha.widthUm, hb.widthUm]
    omega
  have hy : 0 < overlapAlong a b .y ↔
      plan.yUm < plan'.yUm + plan'.depthUm ∧ plan'.yUm < plan.yUm + plan.depthUm := by
    simp only [overlapAlong, overlapInterval, PartInstance.globalInterval,
      PartInstance.placementAxis, PartInstance.axisDimension, ha.yUm, hb.yUm, ha.depthUm, hb.depthUm]
    omega
  have hz : 0 < overlapAlong a b .z ↔
      plan.zUm < plan'.zUm + plan'.heightUm ∧ plan'.zUm < plan.zUm + plan.heightUm := by
    simp only [overlapAlong, overlapInterval, PartInstance.globalInterval,
      PartInstance.placementAxis, PartInstance.axisDimension, ha.zUm, hb.zUm, ha.heightUm,
      hb.heightUm]
    omega
  constructor
  · intro h hapart
    have hxyz := And.intro (hx.mp (h .x)) (And.intro (hy.mp (h .y)) (hz.mp (h .z)))
    unfold Apart at hapart
    omega
  · intro hapart axis
    unfold Apart at hapart
    cases axis with
    | x => exact hx.mpr (by omega)
    | y => exact hy.mpr (by omega)
    | z => exact hz.mpr (by omega)

section Design

variable {hashing : Hashing} {spec : BookcaseDesignSpec} {design : DesignResult}
variable (c : Compiled hashing spec design)

include c

/-- A part of the design is a part that was made, with its features. -/
theorem mem_design_parts {a : PartInstance} (ha : a ∈ design.parts) :
    ∃ part ∈ c.parts, a = { part with features := featuresOf c.made part.partId } := by
  rw [c.design_parts] at ha
  obtain ⟨part, hpart, rfl⟩ := List.mem_map.mp ha
  exact ⟨part, hpart, rfl⟩

theorem design_fits {a : PartInstance} (ha : a ∈ design.parts) :
    ∃ panel : Panel, panel.Present spec.parameters ∧
      Fits hashing.toIdentity spec (panel.plan spec.parameters c.capture) a := by
  obtain ⟨part, hpart, rfl⟩ := mem_design_parts c ha
  obtain ⟨panel, hpresent, hfits⟩ := c.exists_panel hpart
  exact ⟨panel, hpresent, hfits.partId, hfits.semanticKey, hfits.role, hfits.instanceIndex,
    hfits.widthUm, hfits.depthUm, hfits.heightUm, hfits.xUm, hfits.yUm, hfits.zUm⟩

/-- Every panel has its part in the design. -/
theorem exists_design_part (panel : Panel) (h : panel.Present spec.parameters) :
    ∃ a ∈ design.parts, Fits hashing.toIdentity spec (panel.plan spec.parameters c.capture) a := by
  obtain ⟨part, hpart, hfits⟩ := c.exists_part panel h
  refine ⟨{ part with features := featuresOf c.made part.partId }, ?_, ?_⟩
  · rw [c.design_parts]
    exact List.mem_map_of_mem hpart
  · exact ⟨hfits.partId, hfits.semanticKey, hfits.role, hfits.instanceIndex, hfits.widthUm,
      hfits.depthUm, hfits.heightUm, hfits.xUm, hfits.yUm, hfits.zUm⟩

theorem design_part_eq {a b : PartInstance} (ha : a ∈ design.parts) (hb : b ∈ design.parts)
    (h : a.partId = b.partId) : a = b := by
  refine List.inj_on_of_nodup_map ?_ ha hb h
  rw [c.map_partId]
  exact c.partIds_nodup

/-- The dado that was planned for two parts. -/
theorem linked_of_grooved {a b : PartInstance} (ha : a ∈ design.parts) (hb : b ∈ design.parts)
    (h : Grooved c.plans a.semanticKey b.semanticKey) :
    ∃ joint ∈ design.joints, LinkedBy joint a b := by
  obtain ⟨plan, hplan, hdado, hfirstKey, hsecondKey⟩ := h
  obtain ⟨made, hmade, hjoin⟩ := collect_mem c.made_eq hplan
  obtain ⟨first, second, hfirst, hsecond, hkind, hids, -⟩ := join_ok hjoin
  obtain ⟨part, hpart, rfl⟩ := mem_design_parts c ha
  obtain ⟨part', hpart', rfl⟩ := mem_design_parts c hb
  refine ⟨made.joint, ?_, hkind.trans hdado, Or.inl ?_⟩
  · rw [c.design_joints]
    exact List.mem_map_of_mem hmade
  · rw [hids, eq_of_key c hpart hfirstKey hfirst, eq_of_key c hpart' hsecondKey hsecond]

/-- A dado of the design joins parts of roles that may be grooved for each other. -/
theorem mayGroove_of_joint {joint : Joint} (hjoint : joint ∈ design.joints)
    (hdado : joint.jointType = .dado) {a b : PartInstance} (ha : a ∈ design.parts)
    (hb : b ∈ design.parts) (hids : joint.partIds = [a.partId, b.partId]) :
    MayGroove a.role b.role := by
  rw [c.design_joints] at hjoint
  obtain ⟨made, hmade, rfl⟩ := List.mem_map.mp hjoint
  obtain ⟨plan, hplan, hjoin⟩ := mem_of_collect c.made_eq hmade
  obtain ⟨first, second, hfirst, hsecond, hkind, hids', -⟩ := join_ok hjoin
  obtain ⟨part, hpart, rfl⟩ := mem_design_parts c ha
  obtain ⟨part', hpart', rfl⟩ := mem_design_parts c hb
  have heq := hids'.symm.trans hids
  simp only [List.cons.injEq, and_true] at heq
  have hfirstEq : first = part :=
    List.inj_on_of_nodup_map c.partIds_nodup (c.part_of_key hfirst).1 hpart heq.1
  have hsecondEq : second = part' :=
    List.inj_on_of_nodup_map c.partIds_nodup (c.part_of_key hsecond).1 hpart' heq.2
  have hmay := mayGroove_of_plan c hfirst hsecond (hkind.symm.trans hdado) hplan
  rw [hfirstEq, hsecondEq] at hmay
  exact hmay

/-! ## Depths -/

omit c in
theorem expectedNormal_extent (owner : Int × Int) (upper : Bool) (depth : Int) :
    (expectedNormal owner upper depth).2 - (expectedNormal owner upper depth).1 = depth := by
  unfold expectedNormal
  split <;> simp

/-- The feature that a joint names is on the part of the member that names it. -/
theorem feature_on_member {joint : Joint} (hjoint : joint ∈ design.joints) {featureId : String}
    (hfeatureId : featureId ∈ joint.first.featureIds) {feature : ManufacturingFeature}
    (h : featureById design.parts featureId = .ok feature) {owner : PartInstance}
    (howner : owner ∈ design.parts) (hid : owner.partId = joint.first.partId) :
    feature ∈ owner.features ∧ feature.featureId = featureId := by
  have hvalid := c.valid
  simp only [DesignResult.validate, bind_eq_ok, require_eq_ok] at hvalid
  obtain ⟨-, -, -, -, -, -, -, -, -, -, -, -, ⟨⟩, hjoints, -⟩ := hvalid
  have hchecked := forEach_eq_ok.mp hjoints joint hjoint
  obtain ⟨-, -, hmembers⟩ := bind_eq_ok.mp hchecked
  have hmember := forEach_eq_ok.mp hmembers joint.first List.mem_cons_self
  simp only [bind_eq_ok, require_eq_ok] at hmember
  obtain ⟨-, -, hfeatures⟩ := hmember
  have hfeature := forEach_eq_ok.mp hfeatures featureId hfeatureId
  simp only [bind_eq_ok, require_eq_ok, demand_eq_ok, beq_iff_eq] at hfeature
  obtain ⟨found, hfound, -, hpartId, -⟩ := hfeature
  simp only [featureById, demand_eq_ok] at h
  have hsame : found = feature := Option.some.inj (hfound.symm.trans h)
  subst hsame
  have hmem : found ∈ allFeatures design.parts :=
    List.mem_reverse.mp (List.mem_of_find?_eq_some h)
  obtain ⟨part, hpart, hon⟩ := List.mem_flatMap.mp hmem
  -- The features of a part carry its identity, so the part is the owner.
  have hpartFeature : found.partId = part.partId := by
    obtain ⟨original, -, rfl⟩ := mem_design_parts c hpart
    obtain ⟨made, -, hfiltered⟩ := List.mem_flatMap.mp hon
    simpa using (List.mem_filter.mp hfiltered).2
  have heq : part = owner := by
    refine design_part_eq c hpart howner ?_
    rw [← hpartFeature, hpartId, hid]
  exact ⟨heq ▸ hon, by simpa using List.find?_some h⟩

/-- A dado overlaps by the depth of its groove. -/
theorem grooveMatches_of_linked {a b : PartInstance} (ha : a ∈ design.parts)
    (hb : b ∈ design.parts) {joint : Joint} (hjoint : joint ∈ design.joints)
    (h : LinkedBy joint a b) : GrooveMatches joint a b := by
  have hcheck := c.interlocked joint hjoint
  rw [validateDadoInterlock, if_neg (not_not.mpr h.1)] at hcheck
  split at hcheck
  · next featureId hfirstIds hsecondIds =>
    simp only [bind_eq_ok, require_eq_ok, demand_eq_ok, beq_iff_eq] at hcheck
    obtain ⟨feature, hfeature, -, hgroove, depth, hdepth, owner, howner, mate, hmate, geometry,
      hgeometry, -⟩ := hcheck
    obtain ⟨hownerMem, hownerId⟩ := partById_ok howner
    obtain ⟨hmateMem, hmateId⟩ := partById_ok hmate
    obtain ⟨hon, hid⟩ := feature_on_member c hjoint (by rw [hfirstIds]; simp) hfeature hownerMem
      hownerId
    have hextent : overlapAlong owner mate (physicalFace owner.role feature.face).1 = depth := by
      rw [overlapAlong, (dadoFeatureGeometry_ok hgeometry).1]
      exact expectedNormal_extent _ _ _
    have hids : joint.partIds = [owner.partId, mate.partId] := by
      rw [hownerId, hmateId]
      rfl
    rcases h.2 with heq | heq
    · have hparts := hids.symm.trans heq
      simp only [List.cons.injEq, and_true] at hparts
      obtain rfl := design_part_eq c hownerMem ha hparts.1
      obtain rfl := design_part_eq c hmateMem hb hparts.2
      exact ⟨owner, List.mem_cons_self, feature, hon, depth, hownerId.symm,
        by rw [hfirstIds, hid], hgroove, hdepth, hextent⟩
    · have hparts := hids.symm.trans heq
      simp only [List.cons.injEq, and_true] at hparts
      obtain rfl := design_part_eq c hownerMem hb hparts.1
      obtain rfl := design_part_eq c hmateMem ha hparts.2
      refine ⟨owner, by simp, feature, hon, depth, hownerId.symm, by rw [hfirstIds, hid], hgroove,
        hdepth, ?_⟩
      rw [overlapAlong_comm]
      exact hextent
  · cases hcheck

/-! ## Exactly the bookcases that keep clear -/

theorem solidsApart_of_keepsClear (m : spec.parameters.Measured)
    (clear : KeepsClear spec.parameters) : SolidsApart design := by
  intro a ha b hb hne hoverlap
  refine ⟨?_, fun joint hjoint hlinked => grooveMatches_of_linked c ha hb hjoint hlinked⟩
  obtain ⟨panel, hpresent, hfits⟩ := design_fits c ha
  obtain ⟨panel', hpresent', hfits'⟩ := design_fits c hb
  have hpanels : panel ≠ panel' := by
    rintro rfl
    exact hne (design_part_eq c ha hb (by rw [hfits.partId, hfits'.partId]))
  have hapart := (overlap_iff hfits hfits').mp hoverlap
  obtain ⟨j⟩ := joinery_of_plans c.plans_eq
  rcases panels_met m (made_of_compiled c m) clear hpresent hpresent' hpanels with hmet | hjoined |
    hjoined
  · exact absurd hmet hapart
  · have hgrooved := grooved_of_joined c j m hpresent hpresent' hjoined
    rw [← hfits.semanticKey, ← hfits'.semanticKey] at hgrooved
    exact linked_of_grooved c ha hb hgrooved
  · have hgrooved := grooved_of_joined c j m hpresent' hpresent hjoined
    rw [← hfits.semanticKey, ← hfits'.semanticKey] at hgrooved
    obtain ⟨joint, hjoint, hdado, hids⟩ := linked_of_grooved c hb ha hgrooved
    exact ⟨joint, hjoint, hdado, hids.symm⟩

/-- Two panels whose boxes are not apart and that no dado may join. -/
theorem not_solidsApart (panel panel' : Panel) (hpresent : panel.Present spec.parameters)
    (hpresent' : panel'.Present spec.parameters)
    (hne : (panel.plan spec.parameters c.capture).role ≠
        (panel'.plan spec.parameters c.capture).role ∨
      (panel.plan spec.parameters c.capture).index ≠
        (panel'.plan spec.parameters c.capture).index)
    (hmay : ¬MayGroove (panel.plan spec.parameters c.capture).role
      (panel'.plan spec.parameters c.capture).role)
    (hmay' : ¬MayGroove (panel'.plan spec.parameters c.capture).role
      (panel.plan spec.parameters c.capture).role)
    (hapart : ¬Apart (panel.plan spec.parameters c.capture)
      (panel'.plan spec.parameters c.capture)) : ¬SolidsApart design := by
  intro hsolids
  obtain ⟨a, ha, hfits⟩ := exists_design_part c panel hpresent
  obtain ⟨b, hb, hfits'⟩ := exists_design_part c panel' hpresent'
  have hdistinct : a ≠ b := by
    rintro rfl
    rcases hne with hrole | hindex
    · exact hrole (hfits.role.symm.trans hfits'.role)
    · exact hindex (hfits.instanceIndex.symm.trans hfits'.instanceIndex)
  obtain ⟨⟨joint, hjoint, hdado, hids⟩, -⟩ :=
    hsolids a ha b hb hdistinct ((overlap_iff hfits hfits').mpr hapart)
  rcases hids with hids | hids
  · have hgroove := mayGroove_of_joint c hjoint hdado ha hb hids
    rw [hfits.role, hfits'.role] at hgroove
    exact hmay hgroove
  · have hgroove := mayGroove_of_joint c hjoint hdado hb ha hids
    rw [hfits.role, hfits'.role] at hgroove
    exact hmay' hgroove

/-- Behind cabinets the back is where their bottoms end. -/
theorem back_in_cabinet (m : spec.parameters.Measured)
    (hback : spec.parameters.backPanel = .surfaceMounted)
    (hbase : spec.parameters.baseCabinetCount ≠ 0) : ¬SolidsApart design := by
  have hcount : 0 < spec.parameters.baseOpenings.length := by
    rw [length_baseOpenings hbase]
    omega
  obtain ⟨cabinet, hcabinet, -⟩ := exists_bay (t := spec.parameters.actualThicknessUm) hcount
  have hbetween := m.cabinet_between hbase hcabinet
  have hwide := m.baseOpenings_ge hbase _ hbetween.width_mem
  have hstart := hbetween.start_ge
  have hend := hbetween.end_le
  have hdado := dadoDepth_pos spec.parameters.actualThicknessUm
  have hmade := made_of_compiled c m
  have hfront := hmade.front_fits hbase
  have hle := hmade.dado_le
  have hzone := m.rows.1
  have hzoneBase := shelfZoneBottom_of_base hbase
  have hdepth := m.baseDepth_eq hbase
  have hthickness := m.backThickness_pos
  have hthin := m.thickness_lt_depth
  have hpos := m.thickness_pos
  have hplinth := m.plinth_nonneg
  refine not_solidsApart c (.baseBottom cabinet) .surfaceBack ⟨hbase, hcabinet⟩ hback
    (Or.inl (by simp [Panel.plan, baseBottomPlan, surfaceBackPlan])) id id ?_
  simp only [Apart, Panel.plan, baseBottomPlan, surfaceBackPlan, Bay.endUm] at hend ⊢
  omega

/-- In thin stock the plinth and the dividers meet in the bottom. -/
theorem plinth_in_divider (m : spec.parameters.Measured)
    (hthin : spec.parameters.actualThicknessUm < 2000)
    (hbase : spec.parameters.baseCabinetCount = 0) (hplinth : spec.parameters.plinthHeightUm ≠ 0)
    (hdividers : spec.parameters.verticalDividerCount ≠ 0) : ¬SolidsApart design := by
  have hcount : 0 < spec.parameters.bayWidths.length := by
    rw [length_bayWidths]
    omega
  obtain ⟨bay, hbay, hindex⟩ := exists_bay (t := spec.parameters.actualThicknessUm) hcount
  have hpresent : (Panel.divider bay).Present spec.parameters := ⟨hbay, by omega⟩
  have hbetween := m.bay_between hbay
  have hstart := hbetween.start_ge
  have hwide := m.bayWidths_nonneg _ hbetween.width_mem
  have hend := hbetween.end_far (by rw [length_bayWidths]; omega)
  have hdado := dadoDepth_of_thin (t := spec.parameters.actualThicknessUm) (by omega)
  have hpos := m.thickness_pos
  have hzone := shelfZoneBottom_of_open hbase
  have hzoneTop := m.rows.1
  have hnonneg := m.plinth_nonneg
  obtain ⟨part, -, hfits⟩ := exists_design_part c (.divider bay) hpresent
  have hdepth := hfits.positive.2.1
  refine not_solidsApart c .plinth (.divider bay) hplinth hpresent
    (Or.inl (by simp [Panel.plan, plinthPlan, dividerPlan])) id
    (by simp [Panel.plan, plinthPlan, dividerPlan, MayGroove]) ?_
  simp only [Apart, Panel.plan, plinthPlan, dividerPlan, Bay.endUm, innerWidth, innerHeight, hbase,
    ne_eq, not_true_eq_false, if_false] at hend hdepth ⊢
  omega

/-- In thin stock two fixed shelves meet in the divider between them. -/
theorem shelves_in_divider (m : spec.parameters.Measured)
    (hthin : spec.parameters.actualThicknessUm < 2000)
    (hfixed : spec.parameters.shelfMount = .fixed) (hshelves : spec.parameters.shelfCount ≠ 0)
    (hdividers : spec.parameters.verticalDividerCount ≠ 0) : ¬SolidsApart design := by
  have hzero : 0 < spec.parameters.bayWidths.length := by
    rw [length_bayWidths]
    omega
  have hone : 1 < spec.parameters.bayWidths.length := by
    rw [length_bayWidths]
    omega
  obtain ⟨bay, hbay, hindex⟩ := exists_bay (t := spec.parameters.actualThicknessUm) hzero
  obtain ⟨bay', hbay', hindex'⟩ := exists_bay (t := spec.parameters.actualThicknessUm) hone
  have hrows : shelfRows spec.parameters ≠ [] := by
    intro hnil
    have hlength := congrArg List.length hnil
    simp only [shelfRows, List.length_map, List.length_zipIdx, List.length_nil] at hlength
    rw [shelfPositions, length_allocateShelfPositionsUm] at hlength
    exact hshelves hlength
  obtain ⟨row, hrow⟩ := List.exists_mem_of_ne_nil _ hrows
  have hbefore : bay.Before spec.parameters.actualThicknessUm bay' :=
    before_of_index m.thickness_pos.le m.bayWidths_nonneg hbay hbay' (by omega)
  have hnext := hbefore.next (by omega)
  have hwide := m.bayWidths_nonneg _ (m.bay_between hbay).width_mem
  have hwide' := m.bayWidths_nonneg _ (m.bay_between hbay').width_mem
  have hdado := dadoDepth_of_thin (t := spec.parameters.actualThicknessUm) (by omega)
  have hpos := m.thickness_pos
  obtain ⟨part, -, hfits⟩ := exists_design_part c (.shelf row bay) ⟨hrow, hbay⟩
  have hdepth := hfits.positive.2.1
  refine not_solidsApart c (.shelf row bay) (.shelf row bay') ⟨hrow, hbay⟩ ⟨hrow, hbay'⟩
    (Or.inr ?_) id id ?_
  · simp only [Panel.plan, shelfPlan]
    omega
  · simp only [Apart, Panel.plan, shelfPlan, fixedShelfInset, Bay.endUm, hfixed, m.dado, hdado,
      reduceCtorEq, if_false, and_self, if_true] at hnext hdepth ⊢
    omega

/-- In thin stock two base bottoms meet in the base side between them. -/
theorem bottoms_in_baseSide (m : spec.parameters.Measured)
    (hthin : spec.parameters.actualThicknessUm < 2000)
    (htwo : 2 ≤ spec.parameters.baseCabinetCount) : ¬SolidsApart design := by
  have hbase : spec.parameters.baseCabinetCount ≠ 0 := by omega
  have hzero : 0 < spec.parameters.baseOpenings.length := by
    rw [length_baseOpenings hbase]
    omega
  have hone : 1 < spec.parameters.baseOpenings.length := by
    rw [length_baseOpenings hbase]
    omega
  obtain ⟨bay, hbay, hindex⟩ := exists_bay (t := spec.parameters.actualThicknessUm) hzero
  obtain ⟨bay', hbay', hindex'⟩ := exists_bay (t := spec.parameters.actualThicknessUm) hone
  have hbefore : bay.Before spec.parameters.actualThicknessUm bay' :=
    before_of_index m.thickness_pos.le (m.baseOpenings_nonneg hbase) hbay hbay' (by omega)
  have hnext := hbefore.next (by omega)
  have hwide := m.baseOpenings_nonneg hbase _ (m.cabinet_between hbase hbay).width_mem
  have hwide' := m.baseOpenings_nonneg hbase _ (m.cabinet_between hbase hbay').width_mem
  have hdado := dadoDepth_of_thin (t := spec.parameters.actualThicknessUm) (by omega)
  have hdepth := m.baseDepth_eq hbase
  have hthick := m.thickness_lt_depth
  have hpos := m.thickness_pos
  refine not_solidsApart c (.baseBottom bay) (.baseBottom bay') ⟨hbase, hbay⟩ ⟨hbase, hbay'⟩
    (Or.inr ?_) id id ?_
  · simp only [Panel.plan, baseBottomPlan]
    omega
  · simp only [Apart, Panel.plan, baseBottomPlan, Bay.endUm, hdado] at hnext ⊢
    omega

/-- In thin stock the plinth and an inset back near the front meet in the bottom. -/
theorem plinth_in_back (m : spec.parameters.Measured)
    (hthin : spec.parameters.actualThicknessUm < 2000)
    (hbase : spec.parameters.baseCabinetCount = 0) (hplinth : spec.parameters.plinthHeightUm ≠ 0)
    (hback : spec.parameters.backPanel = .insetGroove)
    (hnear : spec.parameters.depthUm - 12000 - spec.parameters.backThicknessUm <
      spec.parameters.actualThicknessUm) : ¬SolidsApart design := by
  have hcount : 0 < spec.parameters.bayWidths.length := by
    rw [length_bayWidths]
    omega
  obtain ⟨bay, hbay, hindex⟩ := exists_bay (t := spec.parameters.actualThicknessUm) hcount
  have hbetween := m.bay_between hbay
  have hstart := hbetween.start_eq hindex
  have hend := hbetween.end_le
  have hwide := m.bayWidths_ge _ hbetween.width_mem
  have hclearance := m.clearance_nonneg
  have hdado := dadoDepth_of_thin (t := spec.parameters.actualThicknessUm) (by omega)
  have hinset := m.inset_fits hback
  have hthickness := m.backThickness_pos
  have hpos := m.thickness_pos
  have hzone := shelfZoneBottom_of_open hbase
  have hzoneTop := m.rows.1
  have hnonneg := m.plinth_nonneg
  -- Thin stock has no room for two fields, so there is one field and no divider.
  have hdividers : spec.parameters.verticalDividerCount = 0 := by
    by_contra hdividers
    have hcapture := c.capture_eq
    rw [insetBackDividerCapture, if_pos ⟨hback, hdividers⟩] at hcapture
    have := insetBackSideCaptureDepth_ok hcapture
    omega
  have hleft : leftCapture spec.parameters c.capture bay = 1000 := by
    rw [leftCapture, if_pos hindex, hdado]
  have hright : rightCapture spec.parameters c.capture bay = 1000 := by
    rw [rightCapture, length_bays, if_pos (by omega), hdado]
  refine not_solidsApart c .plinth (.insetBack bay) hplinth ⟨hback, hbay⟩
    (Or.inl (by simp [Panel.plan, plinthPlan, insetBackPlan])) id id ?_
  simp only [Apart, Panel.plan, plinthPlan, insetBackPlan, Bay.endUm, innerWidth, innerHeight, hbase,
    ne_eq, not_true_eq_false, if_false, hleft, hright] at hend ⊢
  omega

theorem keepsClear_of_solidsApart (m : spec.parameters.Measured) (h : SolidsApart design) :
    KeepsClear spec.parameters where
  back_of_cabinets := by
    rintro ⟨hback, hbase⟩
    exact back_in_cabinet c m hback hbase h
  plinth_and_divider := by
    rintro hthin ⟨hbase, hplinth, hdividers⟩
    exact plinth_in_divider c m hthin hbase hplinth hdividers h
  shelves_in_divider := by
    rintro hthin ⟨hfixed, hshelves, hdividers⟩
    exact shelves_in_divider c m hthin hfixed hshelves hdividers h
  bottoms_in_baseSide := by
    intro hthin
    by_contra htwo
    exact bottoms_in_baseSide c m hthin (by omega) h
  plinth_and_back := by
    rintro hthin ⟨hbase, hplinth, hback, hnear⟩
    exact plinth_in_back c m hthin hbase hplinth hback hnear h

end Design

theorem measured_of_spec {spec : BookcaseDesignSpec} (h : spec.validate = .ok ()) :
    spec.parameters.Measured := by
  simp only [BookcaseDesignSpec.validate, bind_eq_ok, require_eq_ok] at h
  obtain ⟨-, -, ⟨⟩, hparameters, -⟩ := h
  exact measured_of_validate hparameters

/-- The solids of a compiled design are apart exactly when the bookcase keeps clear. -/
theorem solidsApart_iff {hashing : Hashing} {spec : BookcaseDesignSpec} {design : DesignResult}
    (hvalid : spec.validate = .ok ()) (h : build hashing spec = .ok design) :
    SolidsApart design ↔ KeepsClear spec.parameters := by
  have m := measured_of_spec hvalid
  obtain ⟨c⟩ := compiled_of_build h
  exact ⟨keepsClear_of_solidsApart c m, solidsApart_of_keepsClear c m⟩

/-- A carcass without a back, a plinth or shelves. -/
def bareCarcass : BookcaseParameters :=
  { shelfCount := 0, plinthHeightUm := 0, backPanel := .none }

theorem solidsApart_iff_bareCarcass :
    (plywoodBookcase bareCarcass).validate = .ok () ∧
      ∃ design, build namedHashing (plywoodBookcase bareCarcass) = .ok design ∧
        (SolidsApart design ↔ KeepsClear bareCarcass) := by
  have hvalid : (plywoodBookcase bareCarcass).validate = .ok () := by decide +kernel
  have hbuilt : (build namedHashing (plywoodBookcase bareCarcass)).isOk = true := by decide +kernel
  obtain ⟨design, hdesign⟩ := exists_eq_ok hbuilt
  exact ⟨hvalid, design, hdesign, solidsApart_iff hvalid hdesign⟩

/-- A cabinet with a back on its surface. -/
def backedCabinet : BookcaseParameters :=
  { shelfCount := 0, plinthHeightUm := 0, backPanel := .surfaceMounted, baseCabinetCount := 1
    baseCabinetHeightUm := 700000, baseCabinetDepthUm := 320000 }

/-- The bottom of the cabinet reaches into its back. -/
theorem backedCabinet_interpenetrates :
    (plywoodBookcase backedCabinet).validate = .ok () ∧
      ∃ design, build namedHashing (plywoodBookcase backedCabinet) = .ok design ∧
        ¬SolidsApart design := by
  have hvalid : (plywoodBookcase backedCabinet).validate = .ok () := by decide +kernel
  have hbuilt : (build namedHashing (plywoodBookcase backedCabinet)).isOk = true := by
    decide +kernel
  obtain ⟨design, hdesign⟩ := exists_eq_ok hbuilt
  obtain ⟨c⟩ := compiled_of_build hdesign
  exact ⟨hvalid, design, hdesign, back_in_cabinet c (measured_of_spec hvalid) rfl (by decide)⟩

example : backedCabinet.bays.length = 1 := by decide +kernel

end Custombuild.Domain
