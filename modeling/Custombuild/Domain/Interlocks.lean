/-
  All joints of a bookcase in the order in which they are made, and the check of its grooves.
  Source: `custombuild_domain.engine`, `BookcaseEngine._build_joints` and
  `_validate_dado_interlocks`.
-/
import Custombuild.Domain.Joints

namespace Custombuild.Domain

open Custombuild.Lib

/-- The parts of a role in the order of their index. -/
def partsOfRole (parts : List PartInstance) (role : PartRole) : List PartInstance :=
  sortBy PartInstance.instanceIndex (parts.filter fun part => part.role == role)

/-- The application class of a joint of the carcass. -/
def carcassClass (kind : JointType) : Option JointRetentionApplicationClass :=
  if kind = .dado then some .loadBearingCarcassDado else none

section Plans

variable (p : BookcaseParameters)

/-- The four corners of the carcass. -/
def carcassJoints (bottom : PartInstance) : List JointPlan :=
  let t := p.actualThicknessUm
  let kind := p.jointSystem
  [{ key := "bottom-left", firstKey := "left-side", secondKey := "bottom", kind := kind
     firstFace := .right, secondFace := .left, direction := .posX
     xUm := t, zUm := bottom.placement.zUm
     retentionApplicationClass := carcassClass kind },
   { key := "bottom-right", firstKey := "right-side", secondKey := "bottom", kind := kind
     firstFace := .left, secondFace := .right, direction := .negX
     xUm := p.widthUm - t, zUm := bottom.placement.zUm
     retentionApplicationClass := carcassClass kind },
   { key := "top-left", firstKey := "left-side", secondKey := "top", kind := kind
     firstFace := .right, secondFace := .left, direction := .posX
     xUm := t, zUm := p.heightUm - t
     retentionApplicationClass := carcassClass kind },
   { key := "top-right", firstKey := "right-side", secondKey := "top", kind := kind
     firstFace := .left, secondFace := .right, direction := .negX
     xUm := p.widthUm - t, zUm := p.heightUm - t
     retentionApplicationClass := carcassClass kind }]

/-- A divider stands in the bottom and in the top. -/
def dividerJoints (bottom top divider : PartInstance) : List JointPlan :=
  let stem := numbered "divider-" divider.instanceIndex
  [{ key := stem ++ "-bottom", firstKey := "bottom", secondKey := divider.semanticKey, kind := .dado
     firstFace := .top, secondFace := .bottom, direction := .posZ
     xUm := divider.placement.xUm
     zUm := bottom.placement.zUm + bottom.finishedSize.heightUm
     retentionApplicationClass := some .loadBearingCarcassDado },
   { key := stem ++ "-top", firstKey := "top", secondKey := divider.semanticKey, kind := .dado
     firstFace := .bottom, secondFace := .top, direction := .negZ
     xUm := divider.placement.xUm, zUm := top.placement.zUm
     retentionApplicationClass := some .loadBearingCarcassDado }]

/-- A shelf lies between the supports of its bay. -/
def shelfJoints (supports : List PartInstance) (shelf : PartInstance) :
    Except ValueError (List JointPlan) := do
  let bayCount := p.verticalDividerCount + 1
  let row := shelf.instanceIndex / bayCount
  let bay := shelf.instanceIndex % bayCount
  let kind := if p.shelfMount = .adjustable then .shelfPin else p.jointSystem
  let inset := if kind = .dado then dadoDepth p.actualThicknessUm else 0
  let left ← demand supports[bay]? (.message "list index out of range")
  let right ← demand supports[bay + 1]? (.message "list index out of range")
  let stem := numbered "shelf-r" row ++ numbered "-b" bay
  return [{ key := stem ++ "-left", firstKey := left.semanticKey, secondKey := shelf.semanticKey
            kind := kind, firstFace := .right, secondFace := .left, direction := .posX
            xUm := shelf.placement.xUm + inset, zUm := shelf.placement.zUm
            retentionApplicationClass := carcassClass kind },
          { key := stem ++ "-right", firstKey := right.semanticKey, secondKey := shelf.semanticKey
            kind := kind, firstFace := .left, secondFace := .right, direction := .negX
            xUm := shelf.placement.xUm + shelf.finishedSize.widthUm - inset
            zUm := shelf.placement.zUm
            retentionApplicationClass := carcassClass kind }]

/-- A base bottom lies between the supports of its cabinet. -/
def baseBottomJoints (left right : PartInstance) (index : Nat) (baseBottom : PartInstance) :
    List JointPlan :=
  let stem := numbered "base-bottom-" index
  [{ key := stem ++ "-left-support", firstKey := left.semanticKey
     secondKey := baseBottom.semanticKey, kind := .dado
     firstFace := .right, secondFace := .left, direction := .posX
     xUm := left.placement.xUm + left.finishedSize.widthUm, zUm := baseBottom.placement.zUm
     retentionApplicationClass := some .loadBearingCarcassDado },
   { key := stem ++ "-right-support", firstKey := right.semanticKey
     secondKey := baseBottom.semanticKey, kind := .dado
     firstFace := .left, secondFace := .right, direction := .negX
     xUm := right.placement.xUm, zUm := baseBottom.placement.zUm
     retentionApplicationClass := some .loadBearingCarcassDado }]

def baseSideJoint (bottom baseSide : PartInstance) : JointPlan :=
  { key := baseSide.semanticKey ++ "-upper-bottom", firstKey := "bottom"
    secondKey := baseSide.semanticKey, kind := .dado
    firstFace := .bottom, secondFace := .top, direction := .posZ
    xUm := baseSide.placement.xUm, zUm := bottom.placement.zUm
    retentionApplicationClass := some .loadBearingCarcassDado }

/-- The support at one end of a cabinet: a side of the carcass or a base side. -/
def cabinetSupport (parts : List PartInstance) (atSide : Bool) (side : PartInstance) (index : Nat) :
    Except ValueError PartInstance :=
  if atSide then .ok side else partByKey parts (numbered "base-side-" index)

/-- The joints of the cabinets. -/
def baseJoints (parts : List PartInstance) (left right bottom : PartInstance) :
    Except ValueError (List JointPlan) := do
  let baseBottoms := partsOfRole parts .baseBottom
  let baseBottomPlans ← collect (fun entry : PartInstance × Nat => do
      let leftSupport ← cabinetSupport parts (entry.2 = 0) left entry.2
      let rightSupport ← cabinetSupport parts (entry.2 + 1 = baseBottoms.length) right (entry.2 + 1)
      return baseBottomJoints leftSupport rightSupport entry.2 entry.1) baseBottoms.zipIdx
  let baseSidePlans := if baseBottoms = [] then []
    else (partsOfRole parts .baseSide).map (baseSideJoint bottom)
  return baseBottomPlans.flatten ++ baseSidePlans

/-- The four boundaries of a field of an inset back. -/
def insetBackJoints (capture : Int) (top bottom left right back : PartInstance) :
    List JointPlan :=
  let boundary (name : String) (support : PartInstance) (face backFace : FaceName)
      (xUm zUm : Int) (depth : Option Int) : JointPlan :=
    { key := back.semanticKey ++ "-" ++ name, firstKey := support.semanticKey
      secondKey := back.semanticKey, kind := .dado
      firstFace := face, secondFace := backFace, direction := .negY
      xUm := xUm, yUm := back.placement.yUm, zUm := zUm
      retentionApplicationClass := some .captiveInsetBackGroove
      firstFeatureFace := some face, dadoDepthUm := depth }
  let lateral (support : PartInstance) : Option Int :=
    if support.role = .divider then some capture else none
  [boundary "left-side" left .b .left (left.placement.xUm + left.finishedSize.widthUm)
      back.placement.zUm (lateral left),
   boundary "right-side" right .a .right right.placement.xUm back.placement.zUm (lateral right),
   boundary "top" top .a .top (max top.placement.xUm back.placement.xUm) top.placement.zUm none,
   boundary "bottom" bottom .b .bottom (max bottom.placement.xUm back.placement.xUm)
      (bottom.placement.zUm + bottom.finishedSize.heightUm) none]

/-- The four rabbets of a surface-mounted back. -/
def surfaceBackJoints (top bottom back : PartInstance) : List JointPlan :=
  let t := p.actualThicknessUm
  let upright : FeatureDimensions :=
    { widthUm := some p.backThicknessUm, depthUm := some (dadoDepth t)
      lengthUm := some p.innerHeight }
  let level : FeatureDimensions :=
    { widthUm := some p.innerWidth, depthUm := some (dadoDepth t)
      lengthUm := some p.backThicknessUm }
  let boundary (name : String) (face : FaceName) (dimensions : FeatureDimensions)
      (xUm zUm : Int) : JointPlan :=
    { key := "back-" ++ name, firstKey := name, secondKey := "back", kind := .rabbet
      firstFace := .back, secondFace := .a, direction := .negY
      xUm := xUm, yUm := back.placement.yUm, zUm := zUm
      firstFeatureFace := some face, firstFeatureDimensions := some dimensions }
  [boundary "left-side" .b upright t (bottom.placement.zUm + bottom.finishedSize.heightUm),
   boundary "right-side" .a upright (p.widthUm - t)
      (bottom.placement.zUm + bottom.finishedSize.heightUm),
   boundary "top" .a level t top.placement.zUm,
   boundary "bottom" .b level t bottom.placement.zUm]

/-- How deep a field of the back enters a divider. -/
def lateralCaptureDepth : Except ValueError Int :=
  if p.verticalDividerCount ≠ 0 then insetBackSideCaptureDepth p.actualThicknessUm
  else .ok (dadoDepth p.actualThicknessUm)

/-- The joints of the back. -/
def backJoints (parts supports : List PartInstance) (top bottom : PartInstance) :
    Except ValueError (List JointPlan) :=
  let backs := partsOfRole parts .back
  match p.backPanel with
  | .none => .ok []
  | .insetGroove => do
    require (backs.length + 1 = supports.length)
      (.message "inset back fields must match the carcass bay count")
    let capture ← lateralCaptureDepth p
    return ((supports.zip (supports.drop 1)).zip backs).flatMap fun entry =>
      insetBackJoints capture top bottom entry.1.1 entry.1.2 entry.2
  | .surfaceMounted =>
    match backs with
    | [back] => do
      require (back.semanticKey == "back")
        (.message "surface-mounted back must remain one canonical panel")
      return surfaceBackJoints p top bottom back
    | _ => .error (.message "surface-mounted back must remain one canonical panel")

/-- The plinth carries the bottom where there are no cabinets. -/
def plinthJoints (parts : List PartInstance) : List JointPlan :=
  if parts.any (fun part => part.semanticKey == "plinth") ∧ p.baseCabinetCount = 0 then
    [{ key := "plinth-bottom", firstKey := "bottom", secondKey := "plinth", kind := .dado
       firstFace := .bottom, secondFace := .top, direction := .negZ
       xUm := p.actualThicknessUm, zUm := p.plinthHeightUm
       retentionApplicationClass := some .loadBearingCarcassDado
       firstFeatureFace := some .a }]
  else []

/-- The calls of `join`, in their order. -/
def jointPlans (parts : List PartInstance) : Except ValueError (List JointPlan) := do
  let left ← partByKey parts "left-side"
  let right ← partByKey parts "right-side"
  let bottom ← partByKey parts "bottom"
  let top ← partByKey parts "top"
  let dividers := partsOfRole parts .divider
  let supports := left :: dividers ++ [right]
  let shelves ← collect (shelfJoints p supports) (partsOfRole parts .shelf)
  let base ← baseJoints parts left right bottom
  let back ← backJoints p parts supports top bottom
  return carcassJoints p bottom ++ dividers.flatMap (dividerJoints bottom top) ++
    shelves.flatten ++ base ++ back ++ plinthJoints p parts

end Plans

/-! ## The check of the grooves -/

def partById (parts : List PartInstance) (id : String) : Except ValueError PartInstance :=
  demand (parts.find? fun part => part.partId == id) (.message id)

theorem partById_ok {parts : List PartInstance} {id : String} {part : PartInstance}
    (h : partById parts id = .ok part) : part ∈ parts ∧ part.partId = id := by
  rw [partById, demand_eq_ok] at h
  exact ⟨List.mem_of_find?_eq_some h, by simpa using List.find?_some h⟩

/-- The features of all parts. -/
def allFeatures (parts : List PartInstance) : List ManufacturingFeature :=
  parts.flatMap PartInstance.features

/-- A dictionary keeps the last feature of an identity. -/
def featureById (parts : List PartInstance) (id : String) : Except ValueError ManufacturingFeature :=
  demand ((allFeatures parts).reverse.find? fun feature => feature.featureId == id) (.message id)

/-- The check of one groove. -/
def validateDadoInterlock (parts : List PartInstance) (joint : Joint) : Except ValueError Unit :=
  if joint.jointType ≠ .dado then .ok ()
  else
    match joint.first.featureIds, joint.second.featureIds with
    | [featureId], [] => do
      let feature ← featureById parts featureId
      require (feature.kind == .groove)
        (.message "a dado cut member must reference one depth-defined groove")
      let depth ← demand feature.dimensions.depthUm
        (.message "a dado cut member must reference one depth-defined groove")
      let owner ← partById parts joint.first.partId
      let mate ← partById parts joint.second.partId
      let (dimensions, origin) ← dadoFeatureGeometry owner mate feature.face depth joint.toleranceUm
      require (feature.dimensions == dimensions && feature.origin == origin)
        (.message ("dado feature geometry diverges for joint " ++ joint.jointId))
      let reliefs ← openEndReliefs owner dimensions origin
      require (feature.openEndReliefs == reliefs)
        (.message ("dado open-end relief declaration diverges for joint " ++ joint.jointId))
      require (feature.toleranceUm * 2 < joint.toleranceUm)
        (.message ("dado machining tolerance consumes fit for joint " ++ joint.jointId))
    | _, _ => .error (.message "a dado must have one groove and one uncut mating edge")

/-- The features that the joints put on a part. -/
def featuresOf (made : List MadeJoint) (partId : String) : List ManufacturingFeature :=
  made.flatMap fun m =>
    (m.firstFeature :: m.secondFeature.toList).filter fun feature => feature.partId == partId

/-- `_build_joints`. -/
def buildJoints (ident : Identity) (spec : BookcaseDesignSpec) (parts : List PartInstance) :
    Except ValueError (List PartInstance × List Joint) := do
  let plans ← jointPlans spec.parameters parts
  let made ← collect (join ident spec parts) plans
  let updated := parts.map fun part => { part with features := featuresOf made part.partId }
  let joints := made.map MadeJoint.joint
  forEach (validateDadoInterlock updated) joints
  return (updated, joints)

end Custombuild.Domain
