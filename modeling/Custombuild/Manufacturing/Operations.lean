/-
  `generate_operations_document`: from nested part instances to setups and operations.
  Source: `custombuild_manufacturing.operations`.

  The verdict of the DFM validator and the SHA-256 fingerprint of the selected tools are
  parameters of the generator: what is proved here holds whatever they answer.  Python
  sets and dictionaries of the source are lists without duplicates in the order in which
  the source reads them.
-/
import Mathlib.Algebra.Group.Int.Defs
import Custombuild.Manufacturing.Transform
import Custombuild.Lib.Checked

namespace Custombuild.Manufacturing

open Custombuild.Lib

/-- The exceptions that leave the generator: `ProductionBlockedError` with the code of the
    report it carries, and the `ValueError` of a document constructor. -/
inductive GenerateError
  | productionBlocked (message : String) (reportCodes : List String)
  | valueError (message : String)
deriving DecidableEq

/-! ## Two-sided registration -/

/-- The characters of a registration identity. -/
def isRegistrationIdentityChar (c : Char) : Bool :=
  c.isAlphanum || c == '-' || c == '_' || c == '.' || c == ':'

def isRegistrationIdentity (s : String) : Bool :=
  let cs := s.toList
  !cs.isEmpty && cs.length ≤ 64 && cs.all isRegistrationIdentityChar

/-- `registration_pin_keep_out_radius_um` of the two declared values. -/
def pinKeepOutRadiusUm (pinDiameterUm positionToleranceUm : Int) : Int :=
  (pinDiameterUm + 1) / 2 + positionToleranceUm

/-- Squared distance of two points. -/
def Point2D.distSq (p q : Point2D) : Int :=
  (p.xUm - q.xUm) ^ 2 + (p.yUm - q.yUm) ^ 2

/-- Caller-declared stock coordinates of a two-sided setup, in the stock's XY frame. -/
structure TwoSidedRegistration where
  declarationAuthority : String
  methodId : String
  fixtureMethodVersion : String
  pinDiameterUm : Int
  positionToleranceUm : Int
  points : List Point2D
  authority_declared : declarationAuthority = "CLIENT_DECLARED" := by decide
  ids_valid : isRegistrationIdentity methodId = true ∧
    isRegistrationIdentity fixtureMethodVersion = true := by decide +kernel
  pin_range : 1000 ≤ pinDiameterUm ∧ pinDiameterUm ≤ 50000 := by decide
  tolerance_range : 1 ≤ positionToleranceUm ∧ positionToleranceUm ≤ 10000 ∧
    positionToleranceUm * 2 < pinDiameterUm := by decide
  points_count : 2 ≤ points.length ∧ points.length ≤ 16 := by decide
  points_nodup : points.Nodup := by decide
  baseline : points.Pairwise fun p q =>
    (100000 + 2 * pinKeepOutRadiusUm pinDiameterUm positionToleranceUm) ^ 2 ≤ p.distSq q := by
      decide

def registrationPinKeepOutRadiusUm (plan : TwoSidedRegistration) : Int :=
  pinKeepOutRadiusUm plan.pinDiameterUm plan.positionToleranceUm

/-- The square footprint reserved around a pin. -/
def pinFootprint (plan : TwoSidedRegistration) (point : Point2D) : Rect :=
  let radius := registrationPinKeepOutRadiusUm plan
  ⟨point.xUm - radius, point.yUm - radius, 2 * radius, 2 * radius⟩

def registrationPinKeepOutRectangles (plan : TwoSidedRegistration) : List Rect :=
  plan.points.map (pinFootprint plan)

/-! ## Part instances -/

/-- Python's `f"{value:03d}"`. -/
def pad3 (value : Int) : String :=
  let digits := toString value.natAbs
  let sign := if value < 0 then "-" else ""
  let width := if value < 0 then 2 else 3
  sign ++ String.ofList (List.replicate (width - digits.length) '0') ++ digits

/-- The argument `parts`: specifications or instances, never a mixture. -/
inductive PartsInput
  | specs (parts : List PartSpec)
  | instances (parts : List PartInstance)

def expandPartInstances (parts : List PartSpec) : List PartInstance :=
  (sortBy PartSpec.partId parts).flatMap fun part =>
    (List.range part.quantity).map fun (index : Nat) =>
      ⟨part.partId ++ ":" ++ pad3 (index + 1), part⟩

def coercePartInstances : PartsInput → List PartInstance
  | .specs parts => expandPartInstances parts
  | .instances parts => parts

/-- `instance_by_id`: a dictionary keeps the last instance of an identity. -/
def instanceById (instances : List PartInstance) (id : String) : Option PartInstance :=
  instances.reverse.find? fun i => i.instanceId == id

/-! ## Operations of one feature -/

def setupIdOf (stockId : String) (sheetIndex : Int) (side : Side) : String :=
  "setup:" ++ stockId ++ ":" ++ pad3 (sheetIndex + 1) ++ ":" ++ side.value

/-- `_side_sequence`: the flip side comes before the final A side. -/
def sideSequence : Side → Nat
  | .b => 0
  | .a => 1
  | .edge => 2

/-- `str(value) if value else None` on a text entry. -/
def textOrNone : Option String → Option String
  | some s => if s = "" then none else some s
  | none => none

/-- An operation appended to `setup_operations`, with the sheet it is keyed by and whether
    its identity is added to `release_operation_ids`. -/
structure Emitted where
  sheetIndex : Int
  operation : CAMOperation
  release : Bool
deriving DecidableEq

variable (layout : NestingLayout) (machine : MachineProfile)

/-- The fields that drilling and area operations share. -/
def baseOperation (placement : Placement) (inst : PartInstance) (feature : ManufacturingFeature)
    (tool : ToolSpec) (suffix : String) (xUm yUm : Int) : CAMOperation where
  operationId := "op:" ++ placement.instanceId ++ ":" ++ feature.featureId ++ suffix
  setupId := setupIdOf layout.stock.stockId placement.sheetIndex feature.side
  partId := inst.part.partId
  instanceId := placement.instanceId
  featureId := feature.featureId
  kind := featureToOperation feature.kind
  side := feature.side
  toolId := tool.toolId
  xUm := xUm
  yUm := yUm
  depthUm := feature.depthUm
  diameterUm := feature.diameterUm
  stepdownUm := some (min feature.depthUm (max 500 (tool.effectiveDiameterUm / 2)))
  through := feature.through
  sourceRotation90 := placement.rotated90
  cornerStrategy := feature.cornerStrategy
  cornerReliefRadiusUm := feature.cornerReliefRadiusUm
  openEndReliefs := feature.openEndReliefs
  toleranceUm := feature.toleranceUm
  fitClearanceUm := feature.fitClearanceUm

/-- The operation of one drill point; `suffix` is empty for a single point. -/
def drillOperation (placement : Placement) (inst : PartInstance)
    (feature : ManufacturingFeature) (tool : ToolSpec) (suffix : String) (source : Point2D) :
    CAMOperation :=
  let p := transformPointToMachine source.xUm source.yUm placement layout.stock.heightUm
    feature.side
  baseOperation layout placement inst feature tool suffix p.1 p.2

/-- The operation of a feature with a rectangular extent. -/
def areaOperation (placement : Placement) (inst : PartInstance)
    (feature : ManufacturingFeature) (tool : ToolSpec) : CAMOperation :=
  let transformed :=
    transformRectToMachine feature.bounds placement layout.stock.heightUm feature.side
  let cutterEnvelope :=
    transformRectToMachine feature.machiningBounds placement layout.stock.heightUm feature.side
  { baseOperation layout placement inst feature tool "" transformed.xUm transformed.yUm with
    widthUm := some transformed.widthUm
    lengthUm := some transformed.heightUm
    cutterEnvelopeXUm := some cutterEnvelope.xUm
    cutterEnvelopeYUm := some cutterEnvelope.yUm
    cutterEnvelopeWidthUm := some cutterEnvelope.widthUm
    cutterEnvelopeLengthUm := some cutterEnvelope.heightUm
    stepoverPpm :=
      match featureToOperation feature.kind with
      | .pocket | .groove => some 400000
      | _ => none
    compensation := textOrNone feature.metadata.compensation
    holdingStrategy := textOrNone feature.metadata.holdingStrategy }

/-- The suffix of the `index`-th drill point, counted from one. -/
def pointSuffix (count index : Nat) : String :=
  if 1 < count then ":" ++ pad3 index else ""

/-- All operations of a feature once its tool is selected. -/
def operationsWithTool (placement : Placement) (inst : PartInstance)
    (feature : ManufacturingFeature) (tool : ToolSpec) : List Emitted :=
  if isDrillKind feature.kind then
    feature.points.zipIdx.map fun p =>
      ⟨placement.sheetIndex, drillOperation layout placement inst feature tool
        (pointSuffix feature.points.length (p.2 + 1)) p.1, false⟩
  else
    [⟨placement.sheetIndex, areaOperation layout placement inst feature tool,
      feature.kind = .outerContour && feature.through⟩]

/-- The body of the feature loop. -/
def featureOperations (placement : Placement) (inst : PartInstance)
    (feature : ManufacturingFeature) : Except GenerateError (List Emitted) := do
  require (feature.side ≠ .edge) (.productionBlocked
    ("edge feature " ++ feature.featureId ++
      " cannot be emitted for the reference 3-axis setup") [])
  let tool ← demand (selectTool feature machine) (.productionBlocked
    ("feature " ++ feature.featureId ++ " has no compatible verified tool") [])
  return operationsWithTool layout placement inst feature tool

/-- The sort key of the placement loop. -/
def placementKey (p : Placement) : Int ×ₗ Int ×ₗ Int ×ₗ String :=
  toLex (p.sheetIndex, toLex (p.yUm, toLex (p.xUm, p.instanceId)))

/-- The two nested loops over sorted placements and sorted features. -/
def emitOperations (placed : List (Placement × PartInstance)) :
    Except GenerateError (List Emitted) := do
  let perPlacement ← collect (fun pi : Placement × PartInstance => do
      let perFeature ← collect (featureOperations layout machine pi.1 pi.2)
        (sortBy ManufacturingFeature.featureId pi.2.part.features)
      return perFeature.flatten) (sortBy (fun pi => placementKey pi.1) placed)
  return perPlacement.flatten

/-! ## Setups -/

/-- `_block_setup_plan`. -/
def blockSetupPlan {α : Type} (code : String) : Except GenerateError α :=
  .error (.productionBlocked ("CAM generation blocked by setup plan: " ++ code) [code])

/-- `_require_two_sided_registration`: the pin footprints lie in the sheet and are
    reserved among its clamp zones. -/
def requireTwoSidedRegistration (plan : Option TwoSidedRegistration) :
    Except GenerateError TwoSidedRegistration :=
  match plan with
  | none => blockSetupPlan "TWO_SIDED_REGISTRATION_MISSING"
  | some plan =>
    let footprints := registrationPinKeepOutRectangles plan
    let sheetBounds : Rect := ⟨0, 0, layout.stock.widthUm, layout.stock.heightUm⟩
    let outsideStock := footprints.any fun f => !sheetBounds.contains f
    let missingKeepOut := footprints.any fun f => !decide (f ∈ layout.stock.clampZones)
    if outsideStock || missingKeepOut then blockSetupPlan "TWO_SIDED_REGISTRATION_INVALID"
    else .ok plan

def registrationInstruction : Option TwoSidedRegistration → String
  | none => "Bind an external coordinate registration before setup."
  | some r =>
    "Use the unverified client-declared registration only as validation input: " ++
      r.methodId ++ "@" ++ r.fixtureMethodVersion ++ ", pin diameter " ++
      toString r.pinDiameterUm ++ " um, position tolerance " ++
      toString r.positionToleranceUm ++
      " um. Verify the physical fixture, pins and " ++
      "coordinates independently during external work preparation."

def probeMethodOf : Option TwoSidedRegistration → String
  | none => "EXTERNAL_COORDINATE_REGISTRATION_REQUIRED"
  | some r =>
    "DECLARED_COORDINATE_REGISTRATION;DECLARATION_AUTHORITY=" ++ r.declarationAuthority ++
      ";METHOD=" ++ r.methodId ++ ";METHOD_VERSION=" ++ r.fixtureMethodVersion ++
      ";PIN_DIAMETER_UM=" ++ toString r.pinDiameterUm ++ ";POSITION_TOLERANCE_UM=" ++
      toString r.positionToleranceUm ++ ";STOCK_XY_UM=" ++
      String.intercalate "|" (r.points.map fun p => toString p.xUm ++ "," ++ toString p.yUm) ++
      ";EXTERNAL_SETUP_VERIFICATION_REQUIRED"

def operatorStepsOf (side : Side) (registration : Option TwoSidedRegistration) : List String :=
  if side = .b then
    ["Stop the machine and verify that the spindle is off.",
      "Flip the complete sheet about the X axis as defined by the validation transform.",
      registrationInstruction registration,
      "Bind an external fixture plan, safe Z and keep-out verification before use."]
  else
    ["Place Side A up using the declared stock-coordinate convention.",
      registrationInstruction registration,
      "Bind an external fixture plan and verify every keep-out zone.",
      "Measure stock thickness and verify safe Z before validation."]

/-- `_make_setup`. -/
def makeSetup (sheetIndex : Int) (side : Side) (toolIds : List String)
    (registration : Option TwoSidedRegistration) : Setup where
  setupId := setupIdOf layout.stock.stockId sheetIndex side
  stockId := layout.stock.stockId
  materialId := layout.stock.materialId
  materialVersion := layout.stock.materialVersion
  sheetIndex := sheetIndex
  side := side
  wcs := machine.wcsCodes.getD
    (min (if side = .b then 1 else 0) (machine.wcsCodes.length - 1)) .g54
  origin := ⟨0, 0⟩
  stockWidthUm := layout.stock.widthUm
  stockHeightUm := layout.stock.heightUm
  stockThicknessUm := layout.stock.thicknessUm
  safeZUm := machine.safeZUm
  referenceSurface := "EXTERNAL_STOCK_TOP_MEASUREMENT_REQUIRED"
  orientation :=
    if side = .b then "FLIP_STOCK_ABOUT_X_AXIS; MACHINE_Y=STOCK_HEIGHT-DESIGN_Y"
    else "A_SIDE_UP; STOCK_ORIGIN_AT_LOWER_LEFT"
  fixture := "EXTERNAL_FIXTURE_PLAN_REQUIRED; DECLARED_KEEP_OUT_ZONES_ONLY"
  keepOutZones := layout.stock.clampZones ++ machine.keepOutZones
  toolIds := toolIds
  probeMethod := probeMethodOf registration
  operatorSteps := operatorStepsOf side registration

/-! ## The document -/

/-- `sides_by_sheet[sheet]`: the sides of the features placed on the sheet. -/
def sidesOnSheet (placed : List (Placement × PartInstance)) (sheet : Int) : List Side :=
  (placed.filter fun pi => pi.1.sheetIndex = sheet).flatMap fun pi =>
    (pi.2.part.features.map ManufacturingFeature.side).filter (· ≠ .edge)

/-- The sheets with both an A and a B feature, in ascending order. -/
def twoSidedSheets (placed : List (Placement × PartInstance)) : List Int :=
  (sortedSet (placed.map fun pi => pi.1.sheetIndex)).filter fun sheet =>
    .a ∈ sidesOnSheet placed sheet && .b ∈ sidesOnSheet placed sheet

/-- The keys of `setup_operations` in the order of the setup list. -/
def setupKeys (emitted : List Emitted) : List (Int × Side) :=
  sortBy (fun k : Int × Side => toLex (k.1, sideSequence k.2))
    (emitted.map fun e => (e.sheetIndex, e.operation.side)).dedup

/-- `setup_operations[key]`. -/
def setupOperations (emitted : List Emitted) (key : Int × Side) : List CAMOperation :=
  (emitted.filter fun e => decide ((e.sheetIndex, e.operation.side) = key)).map
    Emitted.operation

def releaseOperationIds (emitted : List Emitted) : List String :=
  (emitted.filter Emitted.release).map fun e => e.operation.operationId

/-- The operations of one sheet in the order in which the source concatenates them. -/
def sheetOperations (emitted : List Emitted) (sheet : Int) : List CAMOperation :=
  ((setupKeys emitted).filter fun k => k.1 = sheet).flatMap (setupOperations emitted)

/-- The key of the sort over all operations of one sheet. -/
def globalKey (releaseIds : List String) (op : CAMOperation) :
    Bool ×ₗ Nat ×ₗ Bool ×ₗ String ×ₗ String ×ₗ String :=
  toLex (decide (op.operationId ∈ releaseIds), toLex (sideSequence op.side,
    toLex (decide (op.kind = .contour), toLex (op.toolId, toLex (op.kind.value,
      op.operationId)))))

/-- `_require_compatible_global_order`. -/
def requireCompatibleGlobalOrder (operations : List CAMOperation) (releaseIds : List String) :
    Except GenerateError Unit :=
  let bRelease := operations.any fun op => op.side = .b && op.operationId ∈ releaseIds
  let aBeforeRelease := operations.any fun op => op.side = .a && op.operationId ∉ releaseIds
  if bRelease && aBeforeRelease then blockSetupPlan "SETUP_SEQUENCE_CONFLICT" else .ok ()

/-- The sorted operations of one sheet, after the order check. -/
def orderedSheetOperations (emitted : List Emitted) (sheet : Int) :
    Except GenerateError (List CAMOperation) := do
  let releaseIds := releaseOperationIds emitted
  let operations := sheetOperations emitted sheet
  requireCompatibleGlobalOrder operations releaseIds
  return sortBy (globalKey releaseIds) operations

/-- `OperationsDocument.__post_init__`. -/
def checkOperationsDocument (fingerprint : List ToolSpec → String) (doc : OperationsDocument) :
    Except GenerateError OperationsDocument := do
  require (doc.mode = "VALIDATION")
    (.valueError "the MVP only supports machine-neutral VALIDATION output")
  require (doc.operations.isEmpty || !doc.tools.isEmpty)
    (.valueError "operations document requires an exact selected-tool snapshot")
  require (doc.toolCatalogVersion ≠ "unversioned" && doc.toolCatalogFingerprint.length = 64)
    (.valueError "operations document requires a versioned tool-catalog fingerprint")
  require (decide (doc.tools.map ToolSpec.toolId).Nodup)
    (.valueError "operations document contains duplicate selected tool IDs")
  require (doc.toolCatalogFingerprint = fingerprint (sortBy ToolSpec.toolId doc.tools))
    (.valueError "operations document tool snapshot fingerprint does not match")
  return doc

/-- `generate_operations_document`.  `dfm` lists the codes of the blocking issues that the
    DFM validator finds. -/
def generateOperationsDocument
    (dfm : List PartInstance → NestingLayout → MachineProfile → List String)
    (fingerprint : List ToolSpec → String) (designHash : String) (parts : PartsInput)
    (validate : Bool) (registrationBySheet : Int → Option TwoSidedRegistration) :
    Except GenerateError OperationsDocument := do
  let instances := coercePartInstances parts
  let codes := if validate then dfm instances layout machine else []
  require codes.isEmpty (.productionBlocked
    ("CAM generation blocked by DFM: " ++ String.intercalate ", " (sortedSet codes)) codes)
  let placed ← collect (fun p : Placement => do
      let inst ← demand (instanceById instances p.instanceId) (.productionBlocked
        ("placement references unknown instance " ++ p.instanceId) [])
      return (p, inst)) layout.placements
  let registrations ← collect (fun sheet => do
      let plan ← requireTwoSidedRegistration layout (registrationBySheet sheet)
      return (sheet, plan)) (twoSidedSheets placed)
  let emitted ← emitOperations layout machine placed
  let setups := (setupKeys emitted).map fun key =>
    makeSetup layout machine key.1 key.2
      (sortedSet ((setupOperations emitted key).map CAMOperation.toolId))
      (registrations.lookup key.1)
  let sheets := sortedSet ((setupKeys emitted).map Prod.fst)
  let perSheet ← collect (orderedSheetOperations emitted) sheets
  let operations := perSheet.flatten
  let selectedTools := sortBy ToolSpec.toolId
    (machine.tools.filter fun t => t.toolId ∈ operations.map CAMOperation.toolId)
  checkOperationsDocument fingerprint
    { schemaVersion := "custombuild.operations.v2"
      designHash := designHash
      machineProfileId := machine.profileId
      machineProfileVersion := machine.version
      setups := setups
      operations := operations
      mode := "VALIDATION"
      toolCatalogVersion := machine.toolLibraryVersion
      toolCatalogFingerprint := fingerprint (sortBy ToolSpec.toolId selectedTools)
      tools := selectedTools }

end Custombuild.Manufacturing
