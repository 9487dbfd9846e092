/-
  `generate_production_toolpaths`: the source binding, the recipe of every operation, the
  partition of the operations into programs and the resulting document.
  Source: `custombuild_cam.toolpaths`.

  Parameters (`PlannerEnv`): the SHA-256 fingerprints over canonical JSON, and those errors
  of `validate_operations_document` that do not concern the travel of the source machine.
  What is proved about the planner holds for any of them.
-/
import Mathlib
import Custombuild.Cam.Builder
import Custombuild.Manufacturing.Profiles

namespace Custombuild.Cam

open Custombuild.Lib Custombuild.Manufacturing

structure PlannerEnv where
  machineFingerprint : MachineProfile → String
  setupFingerprint : Setup → String
  toolFingerprint : ToolSpec → String
  documentSha256 : OperationsDocument → String
  otherValidationErrors : OperationsDocument → MachineProfile → List String

variable (env : PlannerEnv) (doc : OperationsDocument) (ctx : ProductionExecutionContext)

/-! ## Source binding -/

/-- The travel checks of `_validate_setup`. -/
def setupTravelErrors (machine : MachineProfile) (setup : Setup) : List String :=
  (if setup.stockWidthUm > machine.workWidthUm then
      ["setup stock exceeds machine X travel: " ++ setup.setupId] else []) ++
  (if setup.stockHeightUm > machine.workHeightUm then
      ["setup stock exceeds machine Y travel: " ++ setup.setupId] else []) ++
  (if setup.stockThicknessUm + setup.safeZUm > machine.workZUm then
      ["setup stock and safe Z exceed machine Z travel: " ++ setup.setupId] else [])

/-- `validate_operations_document(document, machine)`. -/
def validateOperationsDocument (machine : MachineProfile) : List String :=
  doc.setups.flatMap (setupTravelErrors machine) ++ env.otherValidationErrors doc machine

/-- The stock geometry that a bound setup repeats from its source. -/
structure StockBinding where
  stockId : String
  materialId : String
  materialVersion : String
  sheetIndex : Int
  side : Side
  stockWidthUm : Int
  stockHeightUm : Int
  stockThicknessUm : Int
deriving DecidableEq

def sourceGeometryBinding (s : Setup) : StockBinding :=
  ⟨s.stockId, s.materialId, s.materialVersion, s.sheetIndex, s.side, s.stockWidthUm,
    s.stockHeightUm, s.stockThicknessUm⟩

def acceptedGeometryBinding (s : BoundSetup) : StockBinding :=
  ⟨s.stockId, s.sourceMaterialId, s.sourceMaterialVersion, s.sheetIndex, s.side, s.stockWidthUm,
    s.stockHeightUm, s.stockThicknessUm⟩

/-- The binding checks of one source setup. -/
def validateSetupBinding (setup : Setup) : Except String Unit := do
  let bound ← demand (ctx.setupById setup.setupId)
    "production setup binding must exactly cover source setups"
  require (sourceGeometryBinding setup = acceptedGeometryBinding bound)
    ("bound setup differs from source geometry: " ++ setup.setupId)
  require (bound.orientation = setup.orientation)
    ("production setup orientation differs from source XY transform: " ++ setup.setupId)
  require (bound.sourceSetupSha256 = env.setupFingerprint setup)
    ("bound setup source fingerprint mismatch: " ++ setup.setupId)
  require (setup.keepOutZones.all fun z => z ∈ bound.keepOutZones)
    ("bound setup omits a source keep-out zone: " ++ setup.setupId)
  let hasThroughCut := doc.operations.any fun op => op.setupId = setup.setupId && op.through
  require (!(hasThroughCut && bound.throughCutAllowanceUm ≤ 0))
    ("through-cut setup lacks an exact spoilboard allowance: " ++ setup.setupId)
  require (hasThroughCut || bound.throughCutAllowanceUm = 0)
    ("setup without through cuts declares a spoilboard allowance: " ++ setup.setupId)

/-- The production binding of a source tool. -/
def bindingBySourceId (id : String) : Option ProductionToolBinding :=
  ctx.toolBindings.find? fun b => b.sourceToolId == id

/-- A tool of the document's snapshot. -/
def sourceToolById (id : String) : Option ToolSpec := doc.tools.find? fun t => t.toolId == id

/-- The binding checks of one source tool. -/
def validateToolBinding (tool : ToolSpec) : Except String Unit := do
  let binding ← demand (bindingBySourceId ctx tool.toolId)
    "production source-tool bindings must exactly cover every operation tool"
  require (binding.sourceToolVersion = tool.version)
    ("source tool version mismatch: " ++ tool.toolId)
  require (binding.sourceToolSha256 = env.toolFingerprint tool)
    ("production tool source fingerprint mismatch: " ++ tool.toolId)
  require (binding.effectiveDiameterUm % 2 = 0)
    ("production CAM v1 requires an even cutter diameter: " ++ tool.toolId)

/-- `_validate_source_binding`. -/
def validateSourceBinding : Except String Unit := do
  require (doc.schemaVersion = "custombuild.operations.v2")
    "production planning received an unsupported operations schema"
  require (doc.mode = "VALIDATION")
    "production planning only accepts the validation source contract"
  require (isSha256 doc.designHash) "source design_hash must be a lowercase SHA-256 digest"
  require (doc.machineProfileId = ctx.sourceMachineProfileId &&
      doc.machineProfileVersion = ctx.sourceMachineProfileVersion)
    "source validation-machine profile binding differs"
  let machine ← demand (resolveReferenceMachine doc.machineProfileId)
    "source validation-machine profile is not trusted"
  require (env.machineFingerprint machine = ctx.sourceMachineProfileFingerprint)
    "source validation-machine profile fingerprint differs"
  require (validateOperationsDocument env doc machine).isEmpty
    ("source operations document is invalid: " ++
      String.intercalate "; " (sortedSet (validateOperationsDocument env doc machine)))
  require (!doc.setups.isEmpty && !doc.operations.isEmpty)
    "source document requires setups and operations"
  require (decide (doc.setups.map Setup.setupId).Nodup) "duplicate source setup"
  require (ctx.setups.all fun b => b.setupId ∈ doc.setups.map Setup.setupId)
    "production setup binding must exactly cover source setups"
  forEach (validateSetupBinding env doc ctx) doc.setups
  require (decide (doc.tools.map ToolSpec.toolId).Nodup) "duplicate source tool"
  let operationToolIds := doc.operations.map CAMOperation.toolId
  require (doc.tools.all (fun t => t.toolId ∈ operationToolIds) &&
      operationToolIds.all fun id => id ∈ doc.tools.map ToolSpec.toolId)
    "source tool snapshot must exactly match operation tools"
  require (ctx.toolBindings.all fun b => b.sourceToolId ∈ operationToolIds)
    "production source-tool bindings must exactly cover every operation tool"
  forEach (validateToolBinding env ctx) doc.tools
  require (decide (doc.operations.map CAMOperation.operationId).Nodup)
    "source operation IDs must be unique"
  forEach (fun setup : Setup => do
      require (decide setup.toolIds.Nodup)
        ("source setup has duplicate tools: " ++ setup.setupId)
      let actual := (doc.operations.filter fun op => op.setupId = setup.setupId).map
        CAMOperation.toolId
      require (setup.toolIds.all (· ∈ actual) && actual.all (· ∈ setup.toolIds))
        ("source setup tool list mismatch: " ++ setup.setupId)) doc.setups

/-! ## Recipes -/

/-- The setup, tool, binding and recipe that an operation is bound to. -/
structure OperationBinding where
  setup : BoundSetup
  binding : ProductionToolBinding
  recipe : CuttingRecipe

/-- The recipe lookup of the operation loop. -/
def recipeFor (setup : BoundSetup) (binding : ProductionToolBinding) (kind : OperationKind) :
    Option CuttingRecipe :=
  ctx.recipes.find? fun r => r.key = (setup.materialId, setup.materialVersion, binding.toolId,
    binding.toolVersion, kind)

/-- One iteration of the operation loop. -/
def bindOperation (outlines : List PartOutline) (op : CAMOperation) :
    Except String OperationBinding := do
  require (isSupportedKind op.kind) ("unsupported production operation: " ++ op.operationId)
  let setup ← demand (sourceSetupById doc op.setupId)
    ("operation references an unbound setup: " ++ op.operationId)
  let bound ← demand (ctx.setupById op.setupId)
    ("operation references an unbound setup: " ++ op.operationId)
  let tool ← demand (sourceToolById doc op.toolId)
    ("operation references an unbound tool: " ++ op.operationId)
  let binding ← demand (bindingBySourceId ctx op.toolId)
    ("operation references an unbound tool: " ++ op.operationId)
  validatePartOutlineBinding op setup outlines
  let recipe ← demand (recipeFor ctx bound binding op.kind)
    ("operation has no exact material/tool/kind recipe: " ++ op.operationId)
  validateOperationContract op bound tool binding recipe
  return ⟨bound, binding, recipe⟩

/-! ## Programs -/

/-- A program group: setup, source tool, spindle speed and release phase. -/
structure GroupKey where
  setupId : String
  sourceToolId : String
  spindleRpm : Int
  releasePhase : Bool
deriving DecidableEq

/-- An operation with its binding. -/
abbrev BoundOperation := CAMOperation × OperationBinding

def groupKey (bo : BoundOperation) : GroupKey :=
  ⟨bo.1.setupId, bo.1.toolId, bo.2.recipe.spindleRpm, isReleaseContour bo.1⟩

/-- `setup_order`: the position of a setup in the document. -/
def setupOrder (setupId : String) : Nat := (doc.setups.map Setup.setupId).idxOf setupId

/-- The group keys in run order. -/
def groupKeys (bound : List BoundOperation) : List GroupKey :=
  sortBy (fun k : GroupKey => toLex (setupOrder doc k.setupId, toLex (k.releasePhase,
    toLex (k.sourceToolId, k.spindleRpm)))) (bound.map groupKey).dedup

/-- The physical sheet of a source setup. -/
def sourceSheet (setupId : String) : Option (String × Int) :=
  (sourceSetupById doc setupId).map fun s => (s.stockId, s.sheetIndex)

/-- `_require_safe_physical_sheet_order`. -/
def requireSafePhysicalSheetOrder (keys : List GroupKey) : Except String Unit :=
  require (decide (keys.Pairwise fun k l =>
      k.releasePhase = true → sourceSheet doc k.setupId ≠ sourceSheet doc l.setupId))
    "a program group follows a release contour on physical sheet"

/-- The order of the operations inside a program. -/
def programKey (bo : BoundOperation) : Bool ×ₗ String ×ₗ String :=
  toLex (decide (bo.1.kind = .contour), toLex (bo.1.kind.value, bo.1.operationId))

/-- The operations of a group in program order. -/
def groupOperations (bound : List BoundOperation) (key : GroupKey) : List BoundOperation :=
  sortBy programKey (bound.filter fun bo => groupKey bo = key)

/-- The moves of the operations of one program. -/
def programMoves (b : ProgramBuilder) :
    List BoundOperation → List ProductionMove → Except String (List ProductionMove)
  | [], moves => .ok moves
  | bo :: rest, moves => do
    let moves ← b.generateOperationMoves bo.1 bo.2.recipe moves
    programMoves b rest moves

/-- One iteration of the program loop; `runOrder` counts from one. -/
def generateProgram (outlines : List PartOutline) (bound : List BoundOperation)
    (runOrder : Nat) (key : GroupKey) : Except String ProductionProgram := do
  let setup ← demand (ctx.setupById key.setupId) ("KeyError: " ++ key.setupId)
  let binding ← demand (bindingBySourceId ctx key.sourceToolId)
    ("KeyError: " ++ key.sourceToolId)
  let operations := groupOperations bound key
  let moves ← programMoves ⟨ctx, setup, binding, outlines⟩ operations []
  let program : ProductionProgram := {
    programId := "program:" ++ pad3 runOrder ++ ":" ++ key.setupId ++ ":" ++ binding.toolId ++
      ":S" ++ toString key.spindleRpm
    runOrder := runOrder
    setupId := key.setupId
    toolId := binding.toolId
    toolVersion := binding.toolVersion
    recipeIds := sortedSet (operations.map fun bo => bo.2.recipe.recipeId)
    operationIds := operations.map fun bo => bo.1.operationId
    releaseOperationIds := (operations.filter fun bo => isReleaseContour bo.1).map fun bo =>
      bo.1.operationId
    moves := moves }
  require (decide program.WellFormed) ("invalid production program: " ++ program.programId)
  return program

/-- The checks of `ProductionToolpathDocument.__post_init__`. -/
def DocumentValid (designHash operationsSha256 : String) (programs : List ProductionProgram) :
    Prop :=
  (isSha256 designHash = true ∧ isSha256 operationsSha256 = true) ∧ programs ≠ [] ∧
    (∀ p ∈ programs, p.WellFormed) ∧
    programs.map ProductionProgram.runOrder = (List.range programs.length).map (· + 1) ∧
    (programs.map ProductionProgram.programId).Nodup ∧
    (programs.flatMap ProductionProgram.operationIds).Nodup ∧
    (∀ p ∈ programs, ctx.Binds p) ∧ ReleaseLast ctx programs

instance (designHash operationsSha256 : String) (programs : List ProductionProgram) :
    Decidable (DocumentValid ctx designHash operationsSha256 programs) :=
  inferInstanceAs (Decidable (_ ∧ _ ∧ _ ∧ _ ∧ _ ∧ _ ∧ _ ∧ _))

/-- The constructor of the toolpath document. -/
def makeToolpathDocument (designHash operationsSha256 : String)
    (programs : List ProductionProgram) : Except String ProductionToolpathDocument :=
  if h : DocumentValid ctx designHash operationsSha256 programs then
    .ok ⟨designHash, operationsSha256, ctx, programs, h.1, h.2.1, h.2.2.1, h.2.2.2.1,
      h.2.2.2.2.1, h.2.2.2.2.2.1, h.2.2.2.2.2.2.1, h.2.2.2.2.2.2.2⟩
  else .error "invalid production toolpath document"

/-- `generate_production_toolpaths`. -/
def generateProductionToolpaths : Except String ProductionToolpathDocument := do
  validateSourceBinding env doc ctx
  forEach (fun op : CAMOperation => require (isSupportedKind op.kind)
    ("unsupported production operation: " ++ op.operationId)) doc.operations
  let outlines ← bindPartOutlines doc
  let bindings ← collect (bindOperation doc ctx outlines) doc.operations
  let bound := doc.operations.zip bindings
  let keys := groupKeys doc bound
  requireSafePhysicalSheetOrder doc keys
  let programs ← collect (fun k : GroupKey × Nat =>
    generateProgram ctx outlines bound (k.2 + 1) k.1) keys.zipIdx
  makeToolpathDocument ctx doc.designHash (env.documentSha256 doc) programs

end Custombuild.Cam
