/-
  A groove and the panel that enters it.

  The groove of a dado is a rectangle on a broad face of its owner.  It lies inside the face, it
  takes in the whole cross-section of the mate with the fit clearance across its thickness, it is
  as deep as the two boxes overlap, and its open ends are the ones at the edge of the owner.
-/
import Custombuild.Domain.Blanks

namespace Custombuild.Domain

open Custombuild.Lib

/-! ## Extents -/

/-- An interval lies inside another one. -/
def Within (inner outer : Int × Int) : Prop := outer.1 ≤ inner.1 ∧ inner.2 ≤ outer.2

/-- A fitted interval is the mate with its clearance, moved into the owner where it does not fit
    otherwise. -/
theorem fitInterval_spec {owner mate extent : Int × Int} {clearance : Int} (hclear : 0 ≤ clearance)
    (h : fitInterval owner mate clearance = .ok extent) :
    Within mate owner ∧ Within mate extent ∧ Within extent owner ∧
      extent.2 - extent.1 = mate.2 - mate.1 + clearance := by
  simp only [fitInterval, bind_eq_ok, require_eq_ok, Bool.and_eq_true, decide_eq_true_eq] at h
  obtain ⟨⟨⟩, hinside, ⟨⟩, hwide, ⟨⟩, hcontained, hextent⟩ := h
  obtain rfl := Except.ok.inj hextent
  have hhalf := Int.mul_ediv_add_emod clearance 2
  have hrest := Int.emod_two_eq clearance
  refine ⟨⟨hinside.1.1, hinside.1.2⟩, ?_, hcontained, ?_⟩
  · unfold Within
    split <;> split <;> simp only <;> omega
  · split <;> split <;> simp only <;> omega

/-- The extent of a groove along an axis of its owner: it takes in all of the mate that is there,
    and across the thickness of the mate the clearance too. -/
theorem grooveExtent_spec {owner mate : PartInstance} {clearance : Int} {axis : Axis}
    {extent : Int × Int} (hclear : 0 ≤ clearance)
    (h : grooveExtent owner mate clearance axis = .ok extent) :
    Within extent (owner.globalInterval axis) ∧
      Within (overlapInterval (owner.globalInterval axis) (mate.globalInterval axis)) extent ∧
      (axis = thicknessAxis mate.role → Within (mate.globalInterval axis) (owner.globalInterval axis) ∧
        extent.2 - extent.1 = mate.axisDimension axis + clearance) := by
  simp only [grooveExtent] at h
  split at h
  · obtain ⟨hmate, hextent, howner, hwidth⟩ := fitInterval_spec hclear h
    refine ⟨howner, ?_, fun _ => ⟨hmate, ?_⟩⟩
    · unfold Within overlapInterval at *
      simp only
      omega
    · rw [hwidth]
      simp only [PartInstance.globalInterval]
      omega
  · next haxis =>
    simp only [bind_eq_ok, require_eq_ok, decide_eq_true_eq] at h
    obtain ⟨⟨⟩, -, hextent⟩ := h
    obtain rfl := Except.ok.inj hextent
    refine ⟨?_, ⟨le_rfl, le_rfl⟩, fun heq => absurd heq haxis⟩
    unfold Within overlapInterval
    simp only
    omega

/-- A point in the plane of a panel has the two coordinates it was made from. -/
theorem panelPoint_spec {role : PartRole} {first second : Int} {point : Point3D}
    (h : panelPoint (panelAxes role) first second = .ok point) :
    point.axis (panelAxes role).1 = first ∧ point.axis (panelAxes role).2 = second := by
  unfold panelPoint at h
  obtain ⟨hx, hy, hz⟩ := point_make_ok h
  cases role <;> simp_all [panelAxes, Point3D.axis]

/-! ## Grooves -/

section Groove

variable (owner mate : PartInstance) (feature : ManufacturingFeature) (width length depth : Int)

/-- The groove along the first axis of its owner. -/
def grooveFirst : Int × Int :=
  (owner.placementAxis (panelAxes owner.role).1 + feature.origin.axis (panelAxes owner.role).1,
    owner.placementAxis (panelAxes owner.role).1 + feature.origin.axis (panelAxes owner.role).1 +
      width)

/-- The groove along the second axis of its owner. -/
def grooveSecond : Int × Int :=
  (owner.placementAxis (panelAxes owner.role).2 + feature.origin.axis (panelAxes owner.role).2,
    owner.placementAxis (panelAxes owner.role).2 + feature.origin.axis (panelAxes owner.role).2 +
      length)

/-- Where two parts overlap along an axis. -/
def interlock (axis : Axis) : Int × Int :=
  overlapInterval (owner.globalInterval axis) (mate.globalInterval axis)

/-- The rectangle of a groove fits the panel that enters it. -/
structure GrooveFits : Prop where
  dimensions : feature.dimensions.widthUm = some width ∧ feature.dimensions.lengthUm = some length ∧
    feature.dimensions.depthUm = some depth
  /-- It lies on a broad face, and inside it. -/
  broad : (physicalFace owner.role feature.face).1 = thicknessAxis owner.role
  inside : Within (grooveFirst owner feature width) (owner.globalInterval (panelAxes owner.role).1) ∧
    Within (grooveSecond owner feature length) (owner.globalInterval (panelAxes owner.role).2)
  /-- It takes in the cross-section of the mate at the face. -/
  contains : Within (interlock owner mate (panelAxes owner.role).1) (grooveFirst owner feature width) ∧
    Within (interlock owner mate (panelAxes owner.role).2) (grooveSecond owner feature length)
  /-- Across the thickness of the mate it takes in all of it and is wider by the clearance. -/
  across : thicknessAxis mate.role = (panelAxes owner.role).1 ∧
      width = mate.actualThicknessUm + dadoFitClearanceUm ∧
      Within (mate.globalInterval (panelAxes owner.role).1)
        (owner.globalInterval (panelAxes owner.role).1) ∨
    thicknessAxis mate.role = (panelAxes owner.role).2 ∧
      length = mate.actualThicknessUm + dadoFitClearanceUm ∧
      Within (mate.globalInterval (panelAxes owner.role).2)
        (owner.globalInterval (panelAxes owner.role).2)
  /-- It is cut from the face as deep as the two boxes overlap. -/
  deep : interlock owner mate (thicknessAxis owner.role) =
    expectedNormal (owner.globalInterval (thicknessAxis owner.role))
      (physicalFace owner.role feature.face).2 depth
  /-- Its open ends are the ones at an edge of the owner. -/
  uMin : .uMin ∈ feature.openEndReliefs ↔
    (grooveFirst owner feature width).1 = (owner.globalInterval (panelAxes owner.role).1).1
  uMax : .uMax ∈ feature.openEndReliefs ↔
    (grooveFirst owner feature width).2 = (owner.globalInterval (panelAxes owner.role).1).2
  vMin : .vMin ∈ feature.openEndReliefs ↔
    (grooveSecond owner feature length).1 = (owner.globalInterval (panelAxes owner.role).2).1
  vMax : .vMax ∈ feature.openEndReliefs ↔
    (grooveSecond owner feature length).2 = (owner.globalInterval (panelAxes owner.role).2).2

end Groove

theorem normal_eq_thicknessAxis {role : PartRole} {axis : Axis} (h : axis ≠ (panelAxes role).1)
    (h' : axis ≠ (panelAxes role).2) : axis = thicknessAxis role := by
  revert h h'
  cases role <;> cases axis <;> simp [panelAxes, thicknessAxis]

/-- The reliefs that are declared. -/
theorem mem_openEndReliefs {owner : PartInstance} {dimensions : FeatureDimensions}
    {origin : Point3D} {width length : Int} {reliefs : List OpenEndRelief}
    (hwidth : dimensions.widthUm = some width) (hlength : dimensions.lengthUm = some length)
    (h : openEndReliefs owner dimensions origin = .ok reliefs) :
    (.uMin ∈ reliefs ↔ origin.axis (panelAxes owner.role).1 = 0) ∧
    (.uMax ∈ reliefs ↔ origin.axis (panelAxes owner.role).1 + width =
      owner.axisDimension (panelAxes owner.role).1) ∧
    (.vMin ∈ reliefs ↔ origin.axis (panelAxes owner.role).2 = 0) ∧
    (.vMax ∈ reliefs ↔ origin.axis (panelAxes owner.role).2 + length =
      owner.axisDimension (panelAxes owner.role).2) := by
  have heq : openEndReliefs owner dimensions origin = .ok
      (flushEnds (origin.axis (panelAxes owner.role).1) width
          (owner.axisDimension (panelAxes owner.role).1) .uMin .uMax ++
        flushEnds (origin.axis (panelAxes owner.role).2) length
          (owner.axisDimension (panelAxes owner.role).2) .vMin .vMax) := by
    unfold openEndReliefs
    rw [hwidth, hlength]
    rfl
  rw [heq, Except.ok.injEq] at h
  subst h
  unfold flushEnds
  refine ⟨?_, ?_, ?_, ?_⟩ <;> split <;> split <;> split <;> split <;> simp_all

/-- A groove that is computed for two panels fits them. -/
theorem grooveFits_of_geometry {owner mate : PartInstance} {feature : ManufacturingFeature}
    {depth : Int}
    (hgeometry : dadoFeatureGeometry owner mate feature.face depth dadoFitClearanceUm =
      .ok (feature.dimensions, feature.origin))
    (hreliefs : openEndReliefs owner feature.dimensions feature.origin = .ok feature.openEndReliefs)
    (hthickness : mate.axisDimension (thicknessAxis mate.role) = mate.actualThicknessUm) :
    ∃ width length, GrooveFits owner mate feature width length depth := by
  simp only [dadoFeatureGeometry, bind_eq_ok, require_eq_ok, Bool.and_eq_true, bne_iff_ne,
    Bool.or_eq_true, beq_iff_eq] at hgeometry
  obtain ⟨⟨⟩, hbroad, ⟨⟩, hplane, ⟨⟩, hnormal, first, hfirst, second, hsecond, ⟨⟩, -, origin, horigin,
    hresult⟩ := hgeometry
  obtain ⟨hdimensions, rfl⟩ := Prod.mk.inj (Except.ok.inj hresult)
  have hclear : 0 ≤ dadoFitClearanceUm := by decide
  obtain ⟨hfirstOwner, hfirstMate, hfirstAcross⟩ := grooveExtent_spec hclear hfirst
  obtain ⟨hsecondOwner, hsecondMate, hsecondAcross⟩ := grooveExtent_spec hclear hsecond
  obtain ⟨hu, hv⟩ := panelPoint_spec horigin
  have hwidth : feature.dimensions.widthUm = some (first.2 - first.1) := by rw [← hdimensions]
  have hlength : feature.dimensions.lengthUm = some (second.2 - second.1) := by rw [← hdimensions]
  have hdepth : feature.dimensions.depthUm = some depth := by rw [← hdimensions]
  have hface := normal_eq_thicknessAxis hbroad.1 hbroad.2
  -- in the frame of the room the groove is the two extents
  have hgrooveFirst : grooveFirst owner feature (first.2 - first.1) = first := by
    unfold grooveFirst
    rw [hu]
    ext <;> simp only <;> omega
  have hgrooveSecond : grooveSecond owner feature (second.2 - second.1) = second := by
    unfold grooveSecond
    rw [hv]
    ext <;> simp only <;> omega
  obtain ⟨huMin, huMax, hvMin, hvMax⟩ := mem_openEndReliefs hwidth hlength hreliefs
  refine ⟨first.2 - first.1, second.2 - second.1, {
    dimensions := ⟨hwidth, hlength, hdepth⟩
    broad := hface
    inside := by rw [hgrooveFirst, hgrooveSecond]; exact ⟨hfirstOwner, hsecondOwner⟩
    contains := by rw [hgrooveFirst, hgrooveSecond]; exact ⟨hfirstMate, hsecondMate⟩
    across := ?_
    deep := by rw [← hface]; exact hnormal
    uMin := ?_
    uMax := ?_
    vMin := ?_
    vMax := ?_ }⟩
  · rcases hplane with haxis | haxis
    · obtain ⟨hwithin, hwide⟩ := hfirstAcross haxis.symm
      rw [← haxis, hthickness] at hwide
      exact Or.inl ⟨haxis, hwide, hwithin⟩
    · obtain ⟨hwithin, hwide⟩ := hsecondAcross haxis.symm
      rw [← haxis, hthickness] at hwide
      exact Or.inr ⟨haxis, hwide, hwithin⟩
  · rw [huMin, hgrooveFirst, hu]
    simp only [PartInstance.globalInterval]
    omega
  · rw [huMax, hgrooveFirst, hu]
    simp only [PartInstance.globalInterval]
    omega
  · rw [hvMin, hgrooveSecond, hv]
    simp only [PartInstance.globalInterval]
    omega
  · rw [hvMax, hgrooveSecond, hv]
    simp only [PartInstance.globalInterval]
    omega

/-! ## Designs -/

section Design

variable {hashing : Hashing} {spec : BookcaseDesignSpec} {design : DesignResult}

/-- A part is as thick as it says. -/
theorem thickness_of_part (c : Compiled hashing spec design) {part : PartInstance}
    (h : part ∈ design.parts) :
    part.axisDimension (thicknessAxis part.role) = part.actualThicknessUm := by
  rw [c.design_parts] at h
  obtain ⟨made, hmade, rfl⟩ := List.mem_map.mp h
  obtain ⟨plan, hplan, hmake⟩ := mem_of_collect c.parts_eq hmade
  obtain ⟨panel, -, rfl⟩ := mem_partPlans.mp hplan
  have hfits := fits_of_makePart hmake
  have hthickness : made.actualThicknessUm =
      stockThickness spec.parameters (panel.plan spec.parameters c.capture).role := by
    simp only [makePart, bind_eq_ok] at hmake
    obtain ⟨size, -, placement, -, raw, -, hpart⟩ := hmake
    obtain rfl := Except.ok.inj hpart
    rfl
  have halong := hfits.along (thicknessAxis made.role)
  rw [hfits.role, thickness_along, ← hthickness, ← hfits.role] at halong
  rw [← halong]
  show made.axisDimension (thicknessAxis made.role) = _
  cases thicknessAxis made.role <;> rfl

/-- The clearance of a dado is the one of its groove. -/
theorem tolerance_of_dado (c : Compiled hashing spec design) {joint : Joint}
    (h : joint ∈ design.joints) (hdado : joint.jointType = .dado) :
    joint.toleranceUm = dadoFitClearanceUm := by
  rw [c.design_joints] at h
  obtain ⟨made, hmade, rfl⟩ := List.mem_map.mp h
  obtain ⟨plan, -, hjoin⟩ := mem_of_collect c.made_eq hmade
  simp only [join, bind_eq_ok] at hjoin
  obtain ⟨mating, -, ⟨⟩, -, ⟨⟩, -, first, -, second, -, depth, -, feature, -, other, -, ⟨⟩, -,
    hresult⟩ := hjoin
  obtain rfl := Except.ok.inj hresult
  exact if_pos hdado

theorem featureId_of_featureById {parts : List PartInstance} {id : String}
    {feature : ManufacturingFeature} (h : featureById parts id = .ok feature) :
    feature.featureId = id := by
  rw [featureById, demand_eq_ok] at h
  simpa using List.find?_some h

theorem checkMembers_of_compiled (c : Compiled hashing spec design) {joint : Joint}
    (h : joint ∈ design.joints) : design.checkMembers joint = .ok () := by
  have hvalid := c.valid
  simp only [DesignResult.validate, bind_eq_ok, forEach_eq_ok] at hvalid
  obtain ⟨⟨⟩, -, ⟨⟩, -, ⟨⟩, -, ⟨⟩, -, ⟨⟩, -, ⟨⟩, -, ⟨⟩, hjoints, -⟩ := hvalid
  obtain ⟨⟨⟩, -, hmembers⟩ := hjoints joint h
  exact hmembers

/-- The feature that a joint names for its first member is on that part. -/
theorem feature_mem_owner (c : Compiled hashing spec design) {joint : Joint}
    (hjoint : joint ∈ design.joints) {owner : PartInstance} (howner : owner ∈ design.parts)
    (hid : owner.partId = joint.first.partId) {feature : ManufacturingFeature}
    (hids : joint.first.featureIds = [feature.featureId])
    (hfeature : featureById design.parts feature.featureId = .ok feature) :
    feature ∈ owner.features := by
  have hmembers := checkMembers_of_compiled c hjoint
  simp only [DesignResult.checkMembers, forEach_eq_ok, bind_eq_ok, demand_eq_ok, require_eq_ok,
    beq_iff_eq] at hmembers
  obtain ⟨⟨⟩, -, hfeatures⟩ := hmembers joint.first (by simp [Joint.members])
  obtain ⟨found, hfound, ⟨⟩, hpart, -⟩ := hfeatures feature.featureId (by simp [hids])
  rw [featureById, demand_eq_ok] at hfeature
  obtain rfl : feature = found := Option.some.inj (hfeature.symm.trans hfound)
  have hmem := List.mem_reverse.mp (List.mem_of_find?_eq_some hfeature)
  rw [allFeatures, List.mem_flatMap] at hmem
  obtain ⟨part, hpartMem, hpartFeature⟩ := hmem
  -- the features of a part carry its identity, and identities are unique
  have hsame : feature.partId = part.partId := by
    rw [c.design_parts] at hpartMem
    obtain ⟨made, -, rfl⟩ := List.mem_map.mp hpartMem
    rw [featuresOf, List.mem_flatMap] at hpartFeature
    obtain ⟨joint', -, hfilter⟩ := hpartFeature
    simpa using (List.mem_filter.mp hfilter).2
  have hnodup : (design.parts.map PartInstance.partId).Nodup := by
    rw [c.map_partId]
    exact c.partIds_nodup
  have heq : part = owner := by
    refine List.inj_on_of_nodup_map hnodup hpartMem howner ?_
    rw [← hsame, hpart, hid]
  rwa [heq] at hpartFeature

/-- Every dado of a compiled design has one groove, and it fits the panel that enters it. -/
theorem grooves_fit_mates (hbuild : build hashing spec = .ok design) {joint : Joint}
    (hjoint : joint ∈ design.joints) (hdado : joint.jointType = .dado) :
    ∃ owner ∈ design.parts, ∃ mate ∈ design.parts, ∃ feature ∈ owner.features,
      owner.partId = joint.first.partId ∧ mate.partId = joint.second.partId ∧
        joint.first.featureIds = [feature.featureId] ∧ joint.second.featureIds = [] ∧
        feature.kind = .groove ∧
        ∃ width length depth, GrooveFits owner mate feature width length depth := by
  obtain ⟨c⟩ := compiled_of_build hbuild
  have hinterlock := c.interlocked joint hjoint
  rw [validateDadoInterlock, if_neg (not_not.mpr hdado)] at hinterlock
  split at hinterlock
  · next featureId hfirst hsecond =>
    simp only [bind_eq_ok, require_eq_ok, demand_eq_ok, beq_iff_eq, Bool.and_eq_true] at hinterlock
    obtain ⟨feature, hfeature, ⟨⟩, hkind, depth, -, owner, howner, mate, hmate, geometry, hgeometry,
      ⟨⟩, hsame, reliefs, hreliefs, ⟨⟩, hdeclared, -⟩ := hinterlock
    obtain ⟨howner, hownerId⟩ := partById_ok howner
    obtain ⟨hmate, hmateId⟩ := partById_ok hmate
    have hfeatureId := featureId_of_featureById hfeature
    rw [← hfeatureId] at hfirst hfeature
    have hexact : geometry = (feature.dimensions, feature.origin) :=
      Prod.ext hsame.1.symm hsame.2.symm
    rw [hexact] at hgeometry hreliefs
    rw [tolerance_of_dado c hjoint hdado] at hgeometry
    rw [← hdeclared] at hreliefs
    obtain ⟨width, length, hfits⟩ := grooveFits_of_geometry hgeometry hreliefs
      (thickness_of_part c hmate)
    exact ⟨owner, howner, mate, hmate, feature,
      feature_mem_owner c hjoint howner hownerId hfirst hfeature, hownerId, hmateId, hfirst, hsecond,
      hkind, width, length, depth, hfits⟩
  · cases hinterlock

end Design

/-- The corner of the carcass on a low plinth. -/
theorem grooves_fit_mates_lowPlinth : ∃ design, build namedHashing lowPlinthSpec = .ok design ∧
    ∃ joint ∈ design.joints, joint.jointType = .dado ∧
      ∃ owner ∈ design.parts, ∃ mate ∈ design.parts, ∃ feature ∈ owner.features,
        joint.first.featureIds = [feature.featureId] ∧
        ∃ width length depth, GrooveFits owner mate feature width length depth := by
  have hbuilt : okAnd (build namedHashing lowPlinthSpec) (fun design =>
      design.joints.any fun joint => joint.jointType == .dado) = true := by decide +kernel
  obtain ⟨design, hdesign, hany⟩ := exists_of_okAnd hbuilt
  obtain ⟨joint, hjoint, htype⟩ := List.any_eq_true.mp hany
  have hdado : joint.jointType = .dado := beq_iff_eq.mp htype
  obtain ⟨owner, howner, mate, hmate, feature, hfeature, -, -, hids, -, -, hfits⟩ :=
    grooves_fit_mates hdesign hjoint hdado
  exact ⟨design, hdesign, joint, hjoint, hdado, owner, howner, mate, hmate, feature, hfeature, hids,
    hfits⟩

end Custombuild.Domain
