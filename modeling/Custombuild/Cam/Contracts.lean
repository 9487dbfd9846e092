/-
  The planner's fail-closed contracts: target depth, drill, area and contour contracts of an
  operation, the finished part outlines of a document and the clearance of one cutting
  segment.  Source: `custombuild_cam.toolpaths`.
-/
import Custombuild.Cam.Envelope
import Custombuild.Cam.Paths
import Custombuild.Cam.Planar

namespace Custombuild.Cam

open Custombuild.Lib Custombuild.Manufacturing

/-! ## Operations -/

def isAreaKind : OperationKind → Bool
  | .pocket | .groove => true
  | _ => false

def isSupportedKind : OperationKind → Bool
  | .drill | .pocket | .groove | .contour => true
  | _ => false

/-- `_is_release_contour`. -/
def isReleaseContour (op : CAMOperation) : Bool :=
  op.kind = .contour && op.through && op.compensation = some "OUTSIDE"

/-- `_has_corner_contract`. -/
def hasCornerContract (op : CAMOperation) : Bool :=
  op.cornerStrategy ≠ none || op.cornerReliefRadiusUm ≠ none || !op.openEndReliefs.isEmpty

/-- `_target_depth_um`. -/
def targetDepthUm (op : CAMOperation) (setup : BoundSetup) (recipe : CuttingRecipe) :
    Except String Int := do
  require (0 < op.depthUm) ("operation depth must be positive: " ++ op.operationId)
  if op.through then
    require (setup.stockThicknessUm ≤ op.depthUm && op.depthUm ≤ setup.stockThicknessUm + 500)
      ("source through depth is unsafe: " ++ op.operationId)
    require (0 < recipe.throughOvertravelUm)
      ("through operation lacks positive recipe overtravel: " ++ op.operationId)
    return setup.stockThicknessUm + recipe.throughOvertravelUm
  else
    require (!(op.depthUm ≥ setup.stockThicknessUm))
      ("non-through operation reaches stock bottom: " ++ op.operationId)
    return op.depthUm

/-- `_operation_nominal_footprint`. -/
def operationNominalFootprint (op : CAMOperation) : Except String Rect :=
  if op.kind = .drill ∨ op.kind = .countersink then
    match op.diameterUm with
    | some d =>
      if d ≤ 0 then .error ("drilling operation lacks a nominal footprint: " ++ op.operationId)
      else .ok ⟨op.xUm - d / 2, op.yUm - d / 2, d, d⟩
    | none => .error ("drilling operation lacks a nominal footprint: " ++ op.operationId)
  else
    match op.widthUm, op.lengthUm with
    | some w, some l => .ok ⟨op.xUm, op.yUm, w, l⟩
    | _, _ => .error ("area operation lacks a nominal footprint: " ++ op.operationId)

/-! ## Stock and keep-outs -/

/-- `_require_point_in_stock`. -/
def requirePointInStock (setup : BoundSetup) (x y : Int) (operationId : String) :
    Except String Unit :=
  require (0 ≤ x && x ≤ setup.stockWidthUm && 0 ≤ y && y ≤ setup.stockHeightUm)
    ("tool centre leaves stock bounds: " ++ operationId)

/-- `_require_footprint_clear`. -/
def requireFootprintClear (setup : BoundSetup) (footprint : Rect) (operationId : String) :
    Except String Unit := do
  let stock : Rect := ⟨0, 0, setup.stockWidthUm, setup.stockHeightUm⟩
  require (!(min footprint.widthUm footprint.heightUm ≤ 0) && stock.contains footprint)
    ("cutting sweep leaves stock bounds: " ++ operationId)
  require (!setup.keepOutZones.any (rectsTouchOrOverlap footprint))
    ("cutting sweep reaches setup keep-out zone: " ++ operationId)

/-! ## Contracts per kind -/

/-- `_require_declared_cutter_envelope`. -/
def requireDeclaredCutterEnvelope (op : CAMOperation) (expected : Rect) : Except String Unit :=
  match op.cutterEnvelopeXUm, op.cutterEnvelopeYUm, op.cutterEnvelopeWidthUm,
    op.cutterEnvelopeLengthUm with
  | some x, some y, some w, some l =>
    require (Rect.mk x y w l = expected)
      ("operation declared cutter envelope differs from exact geometry: " ++ op.operationId)
  | _, _, _, _ =>
    .error ("operation lacks an exact declared cutter envelope: " ++ op.operationId)

/-- `_validate_drill_contract`. -/
def validateDrillContract (op : CAMOperation) (setup : BoundSetup)
    (binding : ProductionToolBinding) (recipe : CuttingRecipe) : Except String Unit := do
  require (!op.through)
    ("through drill requires an exact point-geometry and full-diameter breakthrough model: " ++
      op.operationId)
  let diameter ← demand op.diameterUm ("drill diameter/tool mismatch: " ++ op.operationId)
  let deviation : Int := (diameter - binding.effectiveDiameterUm).natAbs
  require (deviation ≤ recipe.diameterToleranceUm)
    ("drill diameter/tool mismatch: " ++ op.operationId)
  require (deviation + recipe.processAccuracyUm ≤ recipe.acceptedToleranceUm)
    ("drill diameter/tool mismatch plus process uncertainty exceeds accepted tolerance: " ++
      op.operationId)
  require (op.widthUm = none && op.lengthUm = none)
    ("drill operation contains area geometry: " ++ op.operationId)
  require (op.cutterEnvelopeXUm = none && op.cutterEnvelopeYUm = none &&
      op.cutterEnvelopeWidthUm = none && op.cutterEnvelopeLengthUm = none)
    ("drill operation contains an area cutter envelope: " ++ op.operationId)
  require (op.compensation = none && !hasCornerContract op)
    ("drill operation contains unsupported geometry: " ++ op.operationId)
  require (binding.geometry = .drill && binding.centerCutting)
    ("drill operation requires a center-cutting, zero-point-length production drill: " ++
      op.operationId)
  let r := binding.effectiveDiameterUm / 2
  requireFootprintClear setup ⟨op.xUm - r, op.yUm - r, binding.effectiveDiameterUm,
    binding.effectiveDiameterUm⟩ op.operationId

/-- `_validate_corner_contract`. -/
def validateCornerContract (op : CAMOperation) (binding : ProductionToolBinding) :
    Except String Unit := do
  if hasCornerContract op then
    require (isDogbone op.cornerStrategy) ("unsupported corner strategy: " ++ op.operationId)
    let r := binding.effectiveDiameterUm / 2
    require (op.cornerReliefRadiusUm = some r)
      ("dogbone radius/tool mismatch: " ++ op.operationId)
    require (decide op.openEndReliefs.Nodup && op.openEndReliefs.all SourceEdge.isAllowed)
      ("invalid dogbone open ends: " ++ op.operationId)
    let expected ← dogboneEnvelope op r
    match op.cutterEnvelopeXUm, op.cutterEnvelopeYUm, op.cutterEnvelopeWidthUm,
      op.cutterEnvelopeLengthUm with
    | some x, some y, some w, some l =>
      require (Rect.mk x y w l = expected)
        ("dogbone cutter envelope mismatch: " ++ op.operationId)
    | _, _, _, _ =>
      .error ("dogbone operation lacks an exact cutter envelope: " ++ op.operationId)

/-- `_validate_area_contract`. -/
def validateAreaContract (op : CAMOperation) (setup : BoundSetup)
    (binding : ProductionToolBinding) (recipe : CuttingRecipe) : Except String Unit := do
  require (binding.geometry = .flatEndMill && binding.centerCutting)
    ("area operation requires a center-cutting end mill: " ++ op.operationId)
  let width ← demand op.widthUm
    ("area operation requires rectangular dimensions: " ++ op.operationId)
  let length ← demand op.lengthUm
    ("area operation requires rectangular dimensions: " ++ op.operationId)
  require (op.diameterUm = none)
    ("diameter-based/circular pocket shape is unsupported: " ++ op.operationId)
  require (!(min width length ≤ binding.effectiveDiameterUm))
    ("area rectangle must exceed cutter diameter: " ++ op.operationId)
  require (!op.through && op.compensation = none)
    ("area operation has unsupported through/compensation: " ++ op.operationId)
  let stepover := binding.effectiveDiameterUm * recipe.stepoverPpm / 1000000
  require (!(stepover + 2 * recipe.processAccuracyUm > binding.effectiveDiameterUm))
    ("recipe stepover exceeds process-accuracy-adjusted cutter coverage: " ++ op.operationId)
  let nominal : Rect := ⟨op.xUm, op.yUm, width, length⟩
  requireFootprintClear setup nominal op.operationId
  validateCornerContract op binding
  let expected ←
    if hasCornerContract op then dogboneEnvelope op (binding.effectiveDiameterUm / 2)
    else .ok nominal
  requireDeclaredCutterEnvelope op expected

/-- `_validate_contour_contract`. -/
def validateContourContract (op : CAMOperation) (setup : BoundSetup)
    (binding : ProductionToolBinding) (recipe : CuttingRecipe) : Except String Unit := do
  require (binding.geometry = .flatEndMill && binding.centerCutting)
    ("contour requires a center-cutting end mill: " ++ op.operationId)
  let width ← demand op.widthUm ("contour requires rectangular dimensions: " ++ op.operationId)
  let length ← demand op.lengthUm ("contour requires rectangular dimensions: " ++ op.operationId)
  require (op.diameterUm = none && !hasCornerContract op)
    ("contour contains unsupported shape metadata: " ++ op.operationId)
  require (op.compensation = some "INSIDE" || op.compensation = some "OUTSIDE")
    ("contour requires inside/outside compensation: " ++ op.operationId)
  require (!op.through || op.compensation = some "OUTSIDE")
    ("through inner contours lack a slug-holding contract: " ++ op.operationId)
  let r := binding.effectiveDiameterUm / 2
  let nominal : Rect := ⟨op.xUm, op.yUm, width, length⟩
  require (!(min nominal.widthUm nominal.heightUm ≤ 2 * r))
    ("contour is too small for cutter compensation: " ++ op.operationId)
  let actualSweep : Rect :=
    if op.compensation = some "OUTSIDE" then
      ⟨nominal.xUm - 2 * r, nominal.yUm - 2 * r, nominal.widthUm + 4 * r,
        nominal.heightUm + 4 * r⟩
    else nominal
  requireDeclaredCutterEnvelope op nominal
  requireFootprintClear setup actualSweep op.operationId
  if op.compensation = some "OUTSIDE" then
    let error ← outsideContourInterpolationErrorUm r
    require (!(recipe.processAccuracyUm < error))
      ("recipe process accuracy omits outside-contour interpolation error: " ++ op.operationId ++
        " requires at least " ++ toString error ++ " um")
  if isReleaseContour op then
    require (!(recipe.tabHeightUm ≥ setup.stockThicknessUm))
      ("tab height reaches stock top: " ++ op.operationId)
    require (!(recipe.tabHeightUm ≤ recipe.processAccuracyUm))
      ("recipe uncertainty consumes the holding-tab height: " ++ op.operationId)
    require (!(recipe.tabWidthUm ≤ 2 * recipe.processAccuracyUm))
      ("recipe uncertainty consumes the holding-tab width: " ++ op.operationId)
    let minimumEdge := recipe.tabWidthUm + binding.effectiveDiameterUm +
      2 * binding.effectiveDiameterUm
    require (!(min nominal.widthUm nominal.heightUm ≤ minimumEdge))
      ("contour edge is too short for four safe tabs: " ++ op.operationId)

/-- `_validate_operation_contract`. -/
def validateOperationContract (op : CAMOperation) (setup : BoundSetup) (tool : ToolSpec)
    (binding : ProductionToolBinding) (recipe : CuttingRecipe) : Except String Unit := do
  require (isSupportedKind op.kind) ("unsupported production operation: " ++ op.operationId)
  require (op.setupId = setup.setupId && op.side = setup.side)
    ("operation/setup binding mismatch: " ++ op.operationId)
  require (op.toolId = tool.toolId && op.toolId = binding.sourceToolId)
    ("operation/tool binding mismatch: " ++ op.operationId)
  require (op.kind ∈ tool.supportedOperations)
    ("source tool does not support operation: " ++ op.operationId)
  require (recipe.operationKind = op.kind) ("recipe operation mismatch: " ++ op.operationId)
  require (recipe.toolId = binding.toolId && recipe.toolVersion = binding.toolVersion)
    ("recipe production-tool mismatch: " ++ op.operationId)
  require (!(recipe.approachClearanceUm ≥ setup.safeZUm))
    ("recipe approach clearance reaches safe Z: " ++ op.operationId)
  require (!(recipe.processAccuracyUm ≥ setup.minimumRapidClearanceUm))
    ("recipe uncertainty exhausts minimum rapid clearance: " ++ op.operationId)
  require (!(op.toleranceUm < 0 || op.fitClearanceUm < 0))
    ("negative tolerance or fit clearance: " ++ op.operationId)
  require (op.toleranceUm = 0 || recipe.acceptedToleranceUm = op.toleranceUm)
    ("recipe does not accept the operation tolerance exactly: " ++ op.operationId)
  require (op.fitClearanceUm = 0 ||
      !(2 * (recipe.acceptedToleranceUm + recipe.processAccuracyUm) ≥ op.fitClearanceUm))
    ("production fit-clearance budget is exhausted: " ++ op.operationId)
  let targetDepth ← targetDepthUm op setup recipe
  let uncertaintyDepth := targetDepth + recipe.processAccuracyUm
  require (uncertaintyDepth ≤ binding.cuttingLengthUm)
    ("operation exceeds tool cutting length: " ++ op.operationId)
  require (uncertaintyDepth + binding.minimumHolderClearanceUm ≤ binding.measuredStickoutUm)
    ("operation violates minimum tool-holder clearance: " ++ op.operationId)
  require (!(op.through && recipe.throughOvertravelUm ≤ recipe.processAccuracyUm))
    ("through-cut overtravel must exceed worst-case process uncertainty: " ++ op.operationId)
  require (!(op.through &&
      recipe.throughOvertravelUm + recipe.processAccuracyUm > setup.throughCutAllowanceUm))
    ("recipe overtravel and uncertainty exceed verified spoilboard allowance: " ++
      op.operationId)
  require (op.through || !(uncertaintyDepth ≥ setup.stockThicknessUm))
    ("non-through operation uncertainty reaches stock bottom: " ++ op.operationId)
  if op.kind = .drill then validateDrillContract op setup binding recipe
  else if isAreaKind op.kind then validateAreaContract op setup binding recipe
  else validateContourContract op setup binding recipe

/-! ## Finished part outlines -/

/-- One finished part outline in the unflipped stock frame. -/
structure PartOutline where
  stockId : String
  sheetIndex : Int
  instanceId : String
  partId : String
  sourceRotation90 : Bool
  rect : Rect
deriving DecidableEq

def PartOutline.sheet (o : PartOutline) : String × Int := (o.stockId, o.sheetIndex)

/-- `_rect_to_physical_stock`: the flip of side B is its own inverse. -/
def rectToPhysicalStock (r : Rect) (side : Side) (stockHeightUm : Int) : Rect :=
  if side ≠ .b then r else ⟨r.xUm, stockHeightUm - r.topUm, r.widthUm, r.heightUm⟩

/-- `_point_to_physical_stock`. -/
def pointToPhysicalStock (p : Int × Int) (setup : BoundSetup) : Int × Int :=
  if setup.side = .b then (p.1, setup.stockHeightUm - p.2) else p

/-- A source setup of a document by its identity. -/
def sourceSetupById (doc : OperationsDocument) (id : String) : Option Setup :=
  doc.setups.find? fun s => s.setupId == id

/-- Part, rotation and physical sheet of the instance of an operation. -/
def instanceBinding (op : CAMOperation) (setup : Setup) : String × Bool × String × Int :=
  (op.partId, op.sourceRotation90, setup.stockId, setup.sheetIndex)

/-- One iteration of the binding loop: the instance keeps its binding, and at most one of
    its operations is a release contour. -/
def bindInstance (doc : OperationsDocument) (op : CAMOperation) (earlier : List CAMOperation) :
    Except String Unit := do
  let setup ← demand (sourceSetupById doc op.setupId) ("KeyError: " ++ op.setupId)
  let same := earlier.filter fun other => other.instanceId == op.instanceId
  forEach (fun other => do
      let otherSetup ← demand (sourceSetupById doc other.setupId) ("KeyError: " ++ other.setupId)
      require (instanceBinding other otherSetup = instanceBinding op setup)
        ("source instance changes part, rotation or physical sheet: " ++ op.instanceId)) same
  require (!isReleaseContour op || !same.any isReleaseContour)
    ("source instance has multiple finished outlines: " ++ op.instanceId)

/-- The binding loop over the document's operations. -/
def bindInstances (doc : OperationsDocument) : List CAMOperation → List CAMOperation →
    Except String Unit
  | _, [] => .ok ()
  | earlier, op :: rest => do
    bindInstance doc op earlier
    bindInstances doc (earlier ++ [op]) rest

/-- The outline that a release contour binds. -/
def outlineOf (doc : OperationsDocument) (op : CAMOperation) : Except String PartOutline := do
  let setup ← demand (sourceSetupById doc op.setupId) ("KeyError: " ++ op.setupId)
  let width ← demand op.widthUm ("finished outline lacks dimensions: " ++ op.operationId)
  let length ← demand op.lengthUm ("finished outline lacks dimensions: " ++ op.operationId)
  return { stockId := setup.stockId, sheetIndex := setup.sheetIndex,
           instanceId := op.instanceId, partId := op.partId,
           sourceRotation90 := op.sourceRotation90,
           rect := rectToPhysicalStock ⟨op.xUm, op.yUm, width, length⟩ setup.side
             setup.stockHeightUm }

/-- `_bind_part_outlines`. -/
def bindPartOutlines (doc : OperationsDocument) : Except String (List PartOutline) := do
  bindInstances doc [] doc.operations
  let releases := doc.operations.filter isReleaseContour
  require (doc.operations.all fun op => releases.any fun r => r.instanceId == op.instanceId)
    "every production instance requires exactly one outside/through finished-outline contour"
  let outlines ← collect (outlineOf doc) (sortBy CAMOperation.instanceId releases)
  let canonical := sortBy (fun o : PartOutline =>
    toLex (o.stockId, toLex (o.sheetIndex, o.instanceId))) outlines
  require (decide (canonical.Pairwise fun first second =>
      first.sheet = second.sheet → rectsTouchOrOverlap first.rect second.rect = false))
    "finished part outlines touch or overlap on physical sheet"
  return canonical

/-- `_declared_open_finished_part_edges`: the declared open ends at which the nominal
    rectangle ends on the outline. -/
def declaredOpenFinishedPartEdges (op : CAMOperation) (side : Side) (outline : Rect) :
    Except String (List MachineEdge) := do
  if op.kind ≠ .groove ∨ op.openEndReliefs = [] then return []
  else
    let nominal ← operationNominalFootprint op
    let edges ← collect (fun e => sourceEdgeMachineBoundary e op.sourceRotation90 side)
      op.openEndReliefs
    return edges.filter fun e =>
      match e with
      | .xMin => nominal.xUm = outline.xUm
      | .xMax => nominal.rightUm = outline.rightUm
      | .yMin => nominal.yUm = outline.yUm
      | .yMax => nominal.topUm = outline.topUm

/-- `_validate_part_outline_binding`. -/
def validatePartOutlineBinding (op : CAMOperation) (setup : Setup) (outlines : List PartOutline) :
    Except String Unit := do
  let outline ← demand (outlines.find? fun o => o.instanceId == op.instanceId)
    ("KeyError: " ++ op.instanceId)
  require (op.partId = outline.partId && op.sourceRotation90 = outline.sourceRotation90 &&
      (setup.stockId, setup.sheetIndex) = outline.sheet)
    ("operation differs from its exact part-instance outline: " ++ op.operationId)
  let nominal ← operationNominalFootprint op
  let physicalNominal := rectToPhysicalStock nominal setup.side setup.stockHeightUm
  require (outline.rect.contains physicalNominal)
    ("operation nominal geometry leaves its part-instance outline: " ++ op.operationId)
  require (!isReleaseContour op || physicalNominal = outline.rect)
    ("release contour differs from its part-instance outline: " ++ op.operationId)
  if op.openEndReliefs ≠ [] then
    let localOutline := rectToPhysicalStock outline.rect setup.side setup.stockHeightUm
    let allowed ← declaredOpenFinishedPartEdges op setup.side localOutline
    require (allowed.dedup.length = op.openEndReliefs.dedup.length)
      ("every declared open end must be a groove at its finished part boundary: " ++
        op.operationId)

/-! ## Clearance of one cutting segment -/

/-- The bounding rectangle of a segment grown by a radius. -/
def sweptRect (start stop : Int × Int) (radiusUm : Int) : Rect :=
  ⟨min start.1 stop.1 - radiusUm, min start.2 stop.2 - radiusUm,
    (stop.1 - start.1).natAbs + 2 * radiusUm, (stop.2 - start.2).natAbs + 2 * radiusUm⟩

/-- `_require_accuracy_expanded_segment_within_own_part`. -/
def requireSegmentWithinOwnPart (start stop : Int × Int) (radiusUm : Int) (op : CAMOperation)
    (setup : BoundSetup) (outline : PartOutline) : Except String Unit := do
  let localOutline := rectToPhysicalStock outline.rect setup.side setup.stockHeightUm
  let allowed ← declaredOpenFinishedPartEdges op setup.side localOutline
  let leavesClosedEdge :=
    (.xMin ∉ allowed && min start.1 stop.1 - radiusUm < localOutline.xUm)
      || (.xMax ∉ allowed && max start.1 stop.1 + radiusUm > localOutline.rightUm)
      || (.yMin ∉ allowed && min start.2 stop.2 - radiusUm < localOutline.yUm)
      || (.yMax ∉ allowed && max start.2 stop.2 + radiusUm > localOutline.topUm)
  require (!leavesClosedEdge)
    ("accuracy-expanded cutter sweep leaves its own finished part outline: " ++ op.operationId)

/-- `_require_cut_segment_clear`. -/
def requireCutSegmentClear (setup : BoundSetup) (tool : ProductionToolBinding)
    (start stop : Int × Int) (processAccuracyUm : Int) (op : CAMOperation)
    (outlines : List PartOutline) : Except String Unit := do
  let radius := tool.effectiveDiameterUm / 2 + processAccuracyUm
  requireFootprintClear setup (sweptRect start stop radius) op.operationId
  let assembly := sweptRect start stop (tool.assemblyCollisionRadiusUm + processAccuracyUm)
  require (!setup.keepOutZones.any (rectsTouchOrOverlap assembly))
    ("tool assembly sweep reaches setup keep-out zone: " ++ op.operationId)
  let own := outlines.filter fun o =>
    o.instanceId = op.instanceId && o.sheet = setup.physicalSheet
  match own with
  | [outline] =>
    if !isReleaseContour op then requireSegmentWithinOwnPart start stop radius op setup outline
  | _ => .error ("operation has no unique own part outline: " ++ op.operationId)
  let physicalStart := pointToPhysicalStock start setup
  let physicalStop := pointToPhysicalStock stop setup
  forEach (fun o : PartOutline =>
      require (o.instanceId = op.instanceId || o.sheet ≠ setup.physicalSheet ||
          !segmentRadiusTouchesRect physicalStart physicalStop radius o.rect)
        ("accuracy-expanded cutter sweep reaches another part instance: " ++ op.operationId ++
          " -> " ++ o.instanceId)) outlines

end Custombuild.Cam
