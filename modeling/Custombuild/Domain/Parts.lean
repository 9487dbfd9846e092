/-
  The parts of a bookcase: their boxes, raw sizes, materials and weights.
  Source: `custombuild_domain.engine`, `BookcaseEngine._build_parts`.

  A part is planned first (key, role, box) and made from its plan; only the making checks that
  the sides of the box are positive and its corner is not negative.
-/
import Custombuild.Domain.Model

namespace Custombuild.Domain

open Custombuild.Lib

def dadoFitClearanceUm : Int := 500

def dadoFeatureToleranceUm : Int := 50

def dadoMaxDepthUm : Int := 12000

def dadoCornerReliefRadiusUm : Int := 3000

def dadoMinAdjacentReliefSpacingUm : Int :=
  2 * dadoCornerReliefRadiusUm + 2 * dadoFeatureToleranceUm

def dadoRearReliefClearanceUm : Int := 4000

/-- The identities and hashes of the models: `uuid5` names and SHA-256 digests. -/
structure Identity where
  stableId : List String → String
  stableId_injective : Function.Injective stableId

/-- `_dado_depth`. -/
def dadoDepth (thicknessUm : Int) : Int := max 1000 (min dadoMaxDepthUm (thicknessUm / 3))

/-- `_inset_back_side_capture_depth`. -/
def insetBackSideCaptureDepth (thicknessUm : Int) : Except ValueError Int := do
  let maximumCapture := (thicknessUm - dadoMinAdjacentReliefSpacingUm) / 2
  require (1000 ≤ maximumCapture) (.message
    "stock is too thin for multi-bay inset-back side capture with the versioned dogbone cutter envelope")
  return min (dadoDepth thicknessUm) maximumCapture

/-- `_weight_g`. -/
def weightG (size : Dimensions3D) (densityKgM3 : Int) : Int :=
  let numerator := size.widthUm * size.depthUm * size.heightUm * densityKgM3 * 1000
  let denominator := 1000000 ^ 3
  max 1 ((numerator + denominator - 1) / denominator)

/-- `_raw_size`. -/
def rawSize (size : Dimensions3D) (thicknessUm allowanceUm : Int) :
    Except ValueError Dimensions3D :=
  if allowanceUm = 0 then .ok size
  else
    let expanded (dimension : Int) : Int :=
      if dimension = thicknessUm then dimension else dimension + 2 * allowanceUm
    Dimensions3D.make (expanded size.widthUm) (expanded size.depthUm) (expanded size.heightUm)

/-- `_ROLE_BROAD_FACES`. -/
def broadFaces : PartRole → FaceName × FaceName
  | .leftSide | .rightSide | .divider | .baseSide => (.left, .right)
  | .top | .bottom | .shelf | .baseBottom | .baseTop => (.bottom, .top)
  | .back | .plinth | .cabinetFront => (.front, .back)

/-- The arguments of `add`. -/
structure PartPlan where
  key : String
  role : PartRole
  index : Nat
  widthUm : Int
  depthUm : Int
  heightUm : Int
  xUm : Int := 0
  yUm : Int := 0
  zUm : Int := 0
  grain : GrainDirection
  visible : List FaceName := []
  bandFront : Bool := false

/-- The material of a part of the role. -/
def partMaterial (spec : BookcaseDesignSpec) (role : PartRole) : MaterialVersion :=
  if role = .back then spec.backMaterial.getD spec.material else spec.material

/-- `add`. -/
def makePart (ident : Identity) (spec : BookcaseDesignSpec) (plan : PartPlan) :
    Except ValueError PartInstance := do
  let p := spec.parameters
  let size ← Dimensions3D.make plan.widthUm plan.depthUm plan.heightUm
  let placement ← Point3D.make plan.xUm plan.yUm plan.zUm
  let material := partMaterial spec plan.role
  let thickness := if plan.role = .back then p.backThicknessUm else p.actualThicknessUm
  let raw ← rawSize size thickness material.machiningAllowanceUm
  return {
    partId := ident.stableId ["part", spec.designId, plan.key]
    semanticKey := plan.key
    role := plan.role
    instanceIndex := plan.index
    revision := spec.revision
    finishedSize := size
    rawSize := raw
    placement := placement
    materialId := material.materialId
    materialVersion := material.version
    actualThicknessUm := thickness
    grainDirection := if material.grainDirection = .none then .none else plan.grain
    aSide := (broadFaces plan.role).1
    bSide := (broadFaces plan.role).2
    visibleFaces := plan.visible
    edgeBands := if plan.bandFront && p.edgeBandThicknessUm != 0 then
      [⟨.front, p.edgeBandThicknessUm⟩] else []
    weightG := weightG size material.densityKgM3 }

/-! ## The grid of the bays -/

/-- Where the bays begin: after a panel of the thickness each. -/
def bayStarts (thicknessUm : Int) : Int → List Int → List Int
  | _, [] => []
  | cursor, width :: widths => cursor :: bayStarts thicknessUm (cursor + width + thicknessUm) widths

/-- A bay: its index, where it begins and how wide it is. -/
structure Bay where
  index : Nat
  startUm : Int
  widthUm : Int

def Bay.endUm (bay : Bay) : Int := bay.startUm + bay.widthUm

/-- The bays of widths, from the first one on. -/
def baysOf (thicknessUm : Int) (widths : List Int) : List Bay :=
  ((bayStarts thicknessUm thicknessUm widths).zip widths).zipIdx.map fun entry =>
    ⟨entry.2, entry.1.1, entry.1.2⟩

namespace BookcaseParameters

variable (p : BookcaseParameters)

def bays : List Bay := baysOf p.actualThicknessUm p.bayWidths

/-- The cabinets stand between the same outer sides. -/
def cabinets : List Bay := baysOf p.actualThicknessUm p.baseOpenings

def caseDepth : Int :=
  p.depthUm - if p.backPanel = .surfaceMounted then p.backThicknessUm else 0

def bottomZ : Int := p.shelfZoneBottom - p.actualThicknessUm

def carcassSideInset : Int := if p.jointSystem = .dado then dadoDepth p.actualThicknessUm else 0

def fixedShelfInset : Int :=
  if p.shelfMount = .fixed ∧ p.jointSystem = .dado then dadoDepth p.actualThicknessUm else 0

def shelfDepth : Int :=
  match p.backPanel with
  | .insetGroove => p.depthUm - 12000 - p.backThicknessUm - dadoRearReliefClearanceUm
  | .surfaceMounted => p.caseDepth - p.backThicknessUm - dadoRearReliefClearanceUm
  | .none => p.caseDepth - dadoRearReliefClearanceUm

def dividerDepth : Int := if p.backPanel = .insetGroove then p.depthUm - 12000 else p.shelfDepth

/-- How deep an inset back enters a divider. -/
def insetBackDividerCapture : Except ValueError Int :=
  if p.backPanel = .insetGroove ∧ p.verticalDividerCount ≠ 0 then
    insetBackSideCaptureDepth p.actualThicknessUm
  else .ok (dadoDepth p.actualThicknessUm)

end BookcaseParameters

/-! ## Plans -/

section Plans

variable (p : BookcaseParameters)

/-- The key of a numbered part. -/
def numbered (stem : String) (index : Nat) : String := stem ++ toString index

def leftSidePlan : PartPlan :=
  { key := "left-side", role := .leftSide, index := 0
    widthUm := p.actualThicknessUm, depthUm := p.caseDepth, heightUm := p.heightUm
    grain := .z, visible := [.left, .front], bandFront := true }

def rightSidePlan : PartPlan :=
  { key := "right-side", role := .rightSide, index := 0
    widthUm := p.actualThicknessUm, depthUm := p.caseDepth, heightUm := p.heightUm
    xUm := p.widthUm - p.actualThicknessUm
    grain := .z, visible := [.right, .front], bandFront := true }

def bottomPlan : PartPlan :=
  { key := "bottom", role := .bottom, index := 0
    widthUm := p.innerWidth + 2 * p.carcassSideInset, depthUm := p.caseDepth
    heightUm := p.actualThicknessUm
    xUm := p.actualThicknessUm - p.carcassSideInset, zUm := p.bottomZ
    grain := .x, visible := [.front], bandFront := true }

def topPlan : PartPlan :=
  { key := "top", role := .top, index := 0
    widthUm := p.innerWidth + 2 * p.carcassSideInset, depthUm := p.caseDepth
    heightUm := p.actualThicknessUm
    xUm := p.actualThicknessUm - p.carcassSideInset, zUm := p.heightUm - p.actualThicknessUm
    grain := .x, visible := [.top, .front], bandFront := true }

/-- A divider stands at the end of its bay. -/
def dividerPlan (bay : Bay) : PartPlan :=
  let dado := dadoDepth p.actualThicknessUm
  { key := numbered "divider-" bay.index, role := .divider, index := bay.index
    widthUm := p.actualThicknessUm, depthUm := p.dividerDepth, heightUm := p.innerHeight + 2 * dado
    xUm := bay.endUm, zUm := p.shelfZoneBottom - dado
    grain := .z, visible := [.front], bandFront := true }

def dividerPlans : List PartPlan := (p.bays.take p.verticalDividerCount).map (dividerPlan p)

/-- A shelf of a row in a bay; the shelves are counted through row by row. -/
def shelfPlan (row : Nat × Int) (bay : Bay) : PartPlan :=
  let clearance := if p.shelfMount = .adjustable then p.shelfSideClearanceUm else 0
  { key := numbered "shelf-r" row.1 ++ numbered "-b" bay.index, role := .shelf
    index := row.1 * p.bays.length + bay.index
    widthUm := bay.widthUm - 2 * clearance + 2 * p.fixedShelfInset, depthUm := p.shelfDepth
    heightUm := p.actualThicknessUm
    xUm := bay.startUm + clearance - p.fixedShelfInset, zUm := row.2
    grain := .x, visible := [.a, .front], bandFront := true }

/-- The rows of shelves: their index and the height of their bottom. -/
def shelfRows : List (Nat × Int) := p.shelfPositions.zipIdx.map fun entry => (entry.2, entry.1)

def shelfPlans : List PartPlan :=
  (shelfRows p).flatMap fun row => p.bays.map fun bay => shelfPlan p row bay

/-- A base side stands at the left of every cabinet but the first. -/
def baseSidePlan (cabinet : Bay) : PartPlan :=
  let t := p.actualThicknessUm
  { key := numbered "base-side-" cabinet.index, role := .baseSide, index := cabinet.index
    widthUm := t, depthUm := p.baseCabinetDepthUm
    heightUm := p.baseCabinetHeightUm - t + dadoDepth t
    xUm := cabinet.startUm - t, zUm := p.plinthHeightUm
    grain := .z, visible := [.front], bandFront := true }

def baseBottomPlan (cabinet : Bay) : PartPlan :=
  let t := p.actualThicknessUm
  { key := numbered "base-bottom-" cabinet.index, role := .baseBottom, index := cabinet.index
    widthUm := cabinet.widthUm + 2 * dadoDepth t, depthUm := p.baseCabinetDepthUm - t, heightUm := t
    xUm := cabinet.startUm - dadoDepth t, yUm := t, zUm := p.plinthHeightUm
    grain := .x, visible := [.a, .front], bandFront := true }

def frontGapUm : Int := 2000

def cabinetFrontPlan (cabinet : Bay) : PartPlan :=
  let t := p.actualThicknessUm
  { key := numbered "cabinet-front-" cabinet.index, role := .cabinetFront, index := cabinet.index
    widthUm := cabinet.widthUm - 2 * frontGapUm, depthUm := t
    heightUm := p.baseCabinetHeightUm - 2 * t - 2 * frontGapUm
    xUm := cabinet.startUm + frontGapUm, zUm := p.plinthHeightUm + t + frontGapUm
    grain := .z, visible := [.front] }

def basePlans : List PartPlan :=
  if p.baseCabinetCount ≠ 0 then
    (p.cabinets.drop 1).map (baseSidePlan p) ++
      p.cabinets.flatMap fun cabinet => [baseBottomPlan p cabinet, cabinetFrontPlan p cabinet]
  else []

def surfaceBackPlan : PartPlan :=
  { key := "back", role := .back, index := 0
    widthUm := p.widthUm, depthUm := p.backThicknessUm, heightUm := p.heightUm
    yUm := p.depthUm - p.backThicknessUm
    grain := .z, visible := [.back] }

/-- How deep the field of a bay enters the panel on its left and on its right. -/
def leftCapture (capture : Int) (bay : Bay) : Int :=
  if bay.index = 0 then dadoDepth p.actualThicknessUm else capture

def rightCapture (capture : Int) (bay : Bay) : Int :=
  if bay.index + 1 = p.bays.length then dadoDepth p.actualThicknessUm else capture

/-- The field of a bay. -/
def insetBackPlan (capture : Int) (bay : Bay) : PartPlan :=
  let dado := dadoDepth p.actualThicknessUm
  let left := leftCapture p capture bay
  let right := rightCapture p capture bay
  { key := if p.bays.length = 1 then "back" else numbered "back-b" bay.index, role := .back
    index := bay.index
    widthUm := bay.widthUm + left + right, depthUm := p.backThicknessUm
    heightUm := p.innerHeight + 2 * dado
    xUm := bay.startUm - left, yUm := p.depthUm - 12000 - p.backThicknessUm
    zUm := p.shelfZoneBottom - dado
    grain := .z, visible := [.back] }

def backPlans (capture : Int) : List PartPlan :=
  match p.backPanel with
  | .surfaceMounted => [surfaceBackPlan p]
  | .insetGroove => p.bays.map (insetBackPlan p capture)
  | .none => []

def plinthPlan : PartPlan :=
  { key := "plinth", role := .plinth, index := 0
    widthUm := p.innerWidth, depthUm := p.actualThicknessUm
    heightUm := if p.baseCabinetCount ≠ 0 then p.plinthHeightUm
      else p.plinthHeightUm + dadoDepth p.actualThicknessUm
    xUm := p.actualThicknessUm
    grain := .x, visible := [.front] }

def plinthPlans : List PartPlan := if p.plinthHeightUm ≠ 0 then [plinthPlan p] else []

/-- The plans in the order in which the parts are added. -/
def partPlans (capture : Int) : List PartPlan :=
  [leftSidePlan p, rightSidePlan p, bottomPlan p, topPlan p] ++ dividerPlans p ++ shelfPlans p ++ basePlans p ++
    backPlans p capture ++ plinthPlans p

end Plans

/-- `_build_parts`. -/
def buildParts (ident : Identity) (spec : BookcaseDesignSpec) :
    Except ValueError (List PartInstance) := do
  let capture ← spec.parameters.insetBackDividerCapture
  collect (makePart ident spec) (partPlans spec.parameters capture)

end Custombuild.Domain
