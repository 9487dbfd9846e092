/-
  The joints of a bookcase and the features they are cut with.
  Source: `custombuild_domain.engine`, `BookcaseEngine._build_joints`, `_feature_pair`,
  `_dado_feature_geometry`, `_validate_dado_interlocks`.

  A groove is derived from the boxes of the two parts that share it: along the normal of the
  grooved face they must overlap by exactly the depth of the groove.
-/
import Custombuild.Domain.Parts

namespace Custombuild.Domain

open Custombuild.Lib

/-! ## Boxes -/

namespace PartInstance

def axisDimension (part : PartInstance) : Axis → Int
  | .x => part.finishedSize.widthUm
  | .y => part.finishedSize.depthUm
  | .z => part.finishedSize.heightUm

def placementAxis (part : PartInstance) : Axis → Int
  | .x => part.placement.xUm
  | .y => part.placement.yUm
  | .z => part.placement.zUm

/-- `_global_interval`. -/
def globalInterval (part : PartInstance) (axis : Axis) : Int × Int :=
  (part.placementAxis axis, part.placementAxis axis + part.axisDimension axis)

end PartInstance

/-- `_panel_axes`. -/
def panelAxes : PartRole → Axis × Axis
  | .leftSide | .rightSide | .divider | .baseSide => (.y, .z)
  | .back | .plinth | .cabinetFront => (.x, .z)
  | _ => (.x, .y)

/-- The axis that is not in the plane of the panel. -/
def thicknessAxis : PartRole → Axis
  | .leftSide | .rightSide | .divider | .baseSide => .x
  | .back | .plinth | .cabinetFront => .y
  | _ => .z

/-- The physical face of a face of the part. -/
def resolveFace (role : PartRole) : FaceName → FaceName
  | .a => (broadFaces role).1
  | .b => (broadFaces role).2
  | face => face

/-- `_physical_face`: the normal, and whether the face is at the upper end of the axis. -/
def physicalFace (role : PartRole) (face : FaceName) : Axis × Bool :=
  match resolveFace role face with
  | .left => (.x, false)
  | .right => (.x, true)
  | .front => (.y, false)
  | .back => (.y, true)
  | .bottom => (.z, false)
  | .top => (.z, true)
  | .a | .b => (.x, false)

def Axis.name : Axis → String
  | .x => "x"
  | .y => "y"
  | .z => "z"

def FeatureKind.value : FeatureKind → String
  | .drill => "drill"
  | .seriesDrill => "drill_pattern"
  | .countersink => "countersink"
  | .pocket => "pocket"
  | .groove => "groove"
  | .rabbet => "rabbet"
  | .outerContour => "outer_contour"

def FaceName.value : FaceName → String
  | .a => "a"
  | .b => "b"
  | .front => "front"
  | .back => "back"
  | .left => "left"
  | .right => "right"
  | .top => "top"
  | .bottom => "bottom"

/-! ## Grooves -/

/-- `_fit_interval`. -/
def fitInterval (owner mate : Int × Int) (clearanceUm : Int) : Except ValueError (Int × Int) := do
  require (owner.1 ≤ mate.1 && mate.2 ≤ owner.2 && mate.1 < mate.2)
    (.message "dado mating thickness lies outside the grooved panel face")
  let targetWidth := mate.2 - mate.1 + clearanceUm
  require (targetWidth ≤ owner.2 - owner.1)
    (.message "dado fit clearance does not fit the grooved panel face")
  let start := mate.1 - clearanceUm / 2
  let stop := start + targetWidth
  let (start, stop) := if start < owner.1 then (owner.1, stop + (owner.1 - start)) else (start, stop)
  let (start, stop) := if owner.2 < stop then (start - (stop - owner.2), owner.2) else (start, stop)
  require (owner.1 ≤ start && stop ≤ owner.2)
    (.message "dado fit interval could not be contained in the grooved panel")
  return (start, stop)

/-- Where the depth of a groove in the face lies on the normal. -/
def expectedNormal (owner : Int × Int) (upper : Bool) (depthUm : Int) : Int × Int :=
  if upper then (owner.2 - depthUm, owner.2) else (owner.1, owner.1 + depthUm)

/-- The overlap of two intervals. -/
def overlapInterval (first second : Int × Int) : Int × Int :=
  (max first.1 second.1, min first.2 second.2)

/-- The extent of a groove along an axis of the grooved panel. -/
def grooveExtent (owner mate : PartInstance) (fitClearanceUm : Int) (axis : Axis) :
    Except ValueError (Int × Int) := do
  let ownerInterval := owner.globalInterval axis
  let mateInterval := mate.globalInterval axis
  if axis = thicknessAxis mate.role then fitInterval ownerInterval mateInterval fitClearanceUm
  else
    let extent := overlapInterval ownerInterval mateInterval
    require (extent.1 < extent.2) (.message ("dado members " ++ owner.semanticKey ++ "/" ++
      mate.semanticKey ++ " do not overlap on " ++ axis.name))
    return extent

/-- A point with two coordinates in the plane of a panel. -/
def panelPoint (axes : Axis × Axis) (first second : Int) : Except ValueError Point3D :=
  let at' (axis : Axis) : Int :=
    if axis = axes.1 then first else if axis = axes.2 then second else 0
  Point3D.make (at' .x) (at' .y) (at' .z)

/-- `_dado_feature_geometry`. -/
def dadoFeatureGeometry (owner mate : PartInstance) (ownerFace : FaceName) (depthUm : Int)
    (fitClearanceUm : Int) : Except ValueError (FeatureDimensions × Point3D) := do
  let (normalAxis, upper) := physicalFace owner.role ownerFace
  let axes := panelAxes owner.role
  require (normalAxis != axes.1 && normalAxis != axes.2) (.message ("dado face " ++
    ownerFace.value ++ " is not a broad face of " ++ owner.semanticKey))
  require (thicknessAxis mate.role == axes.1 || thicknessAxis mate.role == axes.2) (.message
    ("mating thickness of " ++ mate.semanticKey ++ " is not in the groove plane"))
  let expected := expectedNormal (owner.globalInterval normalAxis) upper depthUm
  let actual := overlapInterval (owner.globalInterval normalAxis) (mate.globalInterval normalAxis)
  require (actual == expected) (.message ("dado " ++ owner.semanticKey ++ "/" ++ mate.semanticKey ++
    " interlock is " ++ toString (max 0 (actual.2 - actual.1)) ++ " µm; expected " ++
    toString depthUm ++ " µm"))
  let first ← grooveExtent owner mate fitClearanceUm axes.1
  let second ← grooveExtent owner mate fitClearanceUm axes.2
  let dimensions : FeatureDimensions :=
    { widthUm := some (first.2 - first.1), depthUm := some depthUm
      lengthUm := some (second.2 - second.1), radiusUm := some dadoCornerReliefRadiusUm }
  dimensions.validate
  let origin ← panelPoint axes (first.1 - owner.placementAxis axes.1)
    (second.1 - owner.placementAxis axes.2)
  return (dimensions, origin)

def Point3D.axis (point : Point3D) : Axis → Int
  | .x => point.xUm
  | .y => point.yUm
  | .z => point.zUm

/-- The reliefs at the two ends of an extent that are flush with the panel. -/
def flushEnds (start extent dimension : Int) (lower upper : OpenEndRelief) : List OpenEndRelief :=
  (if start = 0 then [lower] else []) ++ if start + extent = dimension then [upper] else []

/-- `_open_end_reliefs`. -/
def openEndReliefs (owner : PartInstance) (dimensions : FeatureDimensions) (origin : Point3D) :
    Except ValueError (List OpenEndRelief) := do
  let missing := ValueError.message
    "open-end relief declaration requires rectangular dado dimensions"
  let width ← demand dimensions.widthUm missing
  let length ← demand dimensions.lengthUm missing
  let axes := panelAxes owner.role
  return flushEnds (origin.axis axes.1) width (owner.axisDimension axes.1) .uMin .uMax ++
    flushEnds (origin.axis axes.2) length (owner.axisDimension axes.2) .vMin .vMax

/-! ## Other features -/

/-- The kinds of the two features of a joint. -/
def featureKinds : JointType → FeatureKind × Option FeatureKind
  | .dowel => (.drill, some .drill)
  | .confirmat => (.countersink, some .drill)
  | .camDowel => (.pocket, some .drill)
  | .shelfPin => (.seriesDrill, none)
  | .rabbet => (.rabbet, none)
  | .dado => (.groove, none)
  | .tenon => (.pocket, some .outerContour)

/-- The dimensions of a feature that is no groove. -/
def plainDimensions (kind : JointType) (depthUm : Int) (feature : FeatureKind)
    (owner mate : PartInstance) : Except ValueError FeatureDimensions := do
  let dimensions : FeatureDimensions :=
    if feature = .drill ∨ feature = .seriesDrill ∨ feature = .countersink ∨ feature = .pocket then
      let diameter := if feature = .pocket ∧ kind = .camDowel then 15000
        else if kind = .shelfPin then 5000 else 8000
      { diameterUm := some diameter, depthUm := some depthUm }
    else
      let axes := panelAxes owner.role
      { widthUm := some (min (owner.axisDimension axes.1) (mate.axisDimension axes.1))
        depthUm := some depthUm
        lengthUm := some (min (owner.axisDimension axes.2) (mate.axisDimension axes.2)) }
  dimensions.validate
  return dimensions

/-- A coordinate moved into the room a feature has on an axis of the panel. -/
def clampOnAxis (part : PartInstance) (kind : FeatureKind) (axis : Axis)
    (value lower extent : Int) : Except ValueError Int := do
  let upper := part.axisDimension axis - extent
  require (lower ≤ upper) (.message ("feature " ++ kind.value ++ " does not fit part " ++
    part.semanticKey ++ " on " ++ axis.name ++ "-axis"))
  return min (max value lower) upper

/-- `_feature_origin`. -/
def featureOrigin (part : PartInstance) (kind : FeatureKind) (dimensions : FeatureDimensions)
    (mating : Point3D) (patternCount : Nat) (pitchUm : Option Int) :
    Except ValueError Point3D := do
  let axes := panelAxes part.role
  let (firstExtent, secondExtent, lower) :=
    if kind = .drill ∨ kind = .seriesDrill ∨ kind = .countersink then
      let margin := (dimensions.diameterUm.getD 0) / 2 + 2000
      (margin + ((patternCount : Int) - 1) * pitchUm.getD 0, margin, margin)
    else
      let width := (dimensions.widthUm.orElse fun _ => dimensions.diameterUm).getD 1000
      (width, dimensions.lengthUm.getD width, 0)
  let first ← clampOnAxis part kind axes.1 (mating.axis axes.1 - part.placementAxis axes.1) lower
    firstExtent
  let second ← clampOnAxis part kind axes.2 (mating.axis axes.2 - part.placementAxis axes.2) lower
    secondExtent
  panelPoint axes first second

/-! ## One joint -/

/-- The arguments of `join`. -/
structure JointPlan where
  key : String
  firstKey : String
  secondKey : String
  kind : JointType
  firstFace : FaceName
  secondFace : FaceName
  direction : AssemblyDirection
  xUm : Int := 0
  yUm : Int := 0
  zUm : Int := 0
  retentionApplicationClass : Option JointRetentionApplicationClass := none
  firstFeatureFace : Option FaceName := none
  firstFeatureDimensions : Option FeatureDimensions := none
  dadoDepthUm : Option Int := none

/-- A joint with the features it puts on its two parts. -/
structure MadeJoint where
  joint : Joint
  firstFeature : ManufacturingFeature
  secondFeature : Option ManufacturingFeature

/-- The depth of the features of a joint. -/
def jointDepth (thicknessUm : Int) (kind : JointType) (override : Option Int) :
    Except ValueError Int :=
  match override with
  | none => .ok (dadoDepth thicknessUm)
  | some depth => do
    require (kind == .dado) (.message "a dado depth override may only be used for a DADO joint")
    require (0 < depth && depth ≤ dadoMaxDepthUm)
      (.message "a dado depth override must be within the versioned depth range")
    return depth

/-- The first feature of `_feature_pair`. -/
def firstFeature (ident : Identity) (jointId : String) (plan : JointPlan)
    (first second : PartInstance) (depthUm : Int) (mating : Point3D) :
    Except ValueError ManufacturingFeature := do
  let face := plan.firstFeatureFace.getD plan.firstFace
  let featureId := ident.stableId ["feature", jointId, first.partId]
  let kind := (featureKinds plan.kind).1
  if plan.kind = .dado then
    let (dimensions, origin) ← dadoFeatureGeometry first second face depthUm dadoFitClearanceUm
    let reliefs ← openEndReliefs first dimensions origin
    return { featureId := featureId, partId := first.partId, jointId := jointId, kind := kind
             face := face, origin := origin, dimensions := dimensions
             toleranceUm := dadoFeatureToleranceUm, fitClearanceUm := dadoFitClearanceUm
             cornerStrategy := some "dogbone-v2", requiresSquareCorners := true
             openEndReliefs := reliefs }
  else
    let pattern : Nat := if kind = .seriesDrill ∨ plan.kind = .dowel then 2 else 1
    let pitch : Option Int := if pattern = 1 then none else some 32000
    let dimensions ← match plan.firstFeatureDimensions with
      | some dimensions => do
        dimensions.validate
        pure dimensions
      | none => plainDimensions plan.kind depthUm kind first second
    let origin ← featureOrigin first kind dimensions mating pattern pitch
    return { featureId := featureId, partId := first.partId, jointId := jointId, kind := kind
             face := face, origin := origin, dimensions := dimensions
             patternCount := pattern, pitchUm := pitch }

/-- The second feature of `_feature_pair`. -/
def secondFeature (ident : Identity) (jointId : String) (plan : JointPlan)
    (first second : PartInstance) (depthUm : Int) (mating : Point3D) :
    Except ValueError (Option ManufacturingFeature) :=
  match (featureKinds plan.kind).2 with
  | none => .ok none
  | some kind => do
    let pattern : Nat := if plan.kind = .dowel then 2 else 1
    let pitch : Option Int := if pattern = 1 then none else some 32000
    let dimensions ← plainDimensions plan.kind depthUm kind second first
    let origin ← featureOrigin second kind dimensions mating pattern pitch
    return some { featureId := ident.stableId ["feature", jointId, second.partId]
                  partId := second.partId, jointId := jointId, kind := kind
                  face := plan.secondFace, origin := origin, dimensions := dimensions
                  patternCount := pattern, pitchUm := pitch }

/-- `_hardware`. -/
def hardware : JointType → Option String × Int
  | .dowel => (some "dowel-8x30", 2)
  | .confirmat => (some "confirmat-7x50", 2)
  | .camDowel => (some "cam-15-with-dowel", 2)
  | .shelfPin => (some "shelf-pin-5", 2)
  | .rabbet | .dado | .tenon => (none, 0)

/-- The part of a key. -/
def partByKey (parts : List PartInstance) (key : String) : Except ValueError PartInstance :=
  demand (parts.find? fun part => part.semanticKey == key) (.message key)

/-- `join`. -/
def join (ident : Identity) (spec : BookcaseDesignSpec) (parts : List PartInstance)
    (plan : JointPlan) : Except ValueError MadeJoint := do
  let mating ← Point3D.make plan.xUm plan.yUm plan.zUm
  require (!(plan.kind == .dado && plan.retentionApplicationClass.isNone))
    (.message "every DADO call site must declare its retention application")
  require (!(plan.kind != .dado && plan.retentionApplicationClass.isSome))
    (.message "only DADO joints may declare a retention application")
  let first ← partByKey parts plan.firstKey
  let second ← partByKey parts plan.secondKey
  let jointId := ident.stableId ["joint", spec.designId, plan.key]
  let depth ← jointDepth spec.parameters.actualThicknessUm plan.kind plan.dadoDepthUm
  let made ← firstFeature ident jointId plan first second depth mating
  let other ← secondFeature ident jointId plan first second depth mating
  let retention := if plan.retentionApplicationClass = some .loadBearingCarcassDado then
    spec.jointRetention else none
  let joint : Joint :=
    { jointId := jointId
      jointType := plan.kind
      first := ⟨first.partId, plan.firstFace, [made.featureId]⟩
      second := ⟨second.partId, plan.secondFace, other.toList.map ManufacturingFeature.featureId⟩
      matingOrigin := mating
      assemblyDirection := plan.direction
      hardwareSku := match retention with
        | some contract => some contract.hardwareSku
        | none => (hardware plan.kind).1
      hardwareCount := match retention with
        | some contract => contract.hardwareCountPerJoint
        | none => (hardware plan.kind).2
      toleranceUm := if plan.kind = .dado then dadoFitClearanceUm else 200
      retentionApplicationClass := plan.retentionApplicationClass
      retention := retention }
  joint.validate
  return ⟨joint, made, other⟩

end Custombuild.Domain
