/-
  The contracts of production CAM: tool bindings, cutting recipes, bound setups, the
  execution context, moves, programs and toolpath documents, as
  `custombuild_cam.production_model` declares them.  The checks of `__post_init__` are
  proof fields, so every theorem about a document may use them.

  SHA-256 fingerprints over canonical JSON are not computed here.  The three fingerprints
  that a document repeats from its context are left out, and so are the policy constants
  that a constructor forces to one value.
-/
import Custombuild.Manufacturing.Operations

namespace Custombuild.Cam

open Custombuild.Lib Custombuild.Manufacturing

/-! ## Text contracts -/

/-- `[A-Za-z0-9][A-Za-z0-9._:-]{0,255}`. -/
def isIdentity (s : String) : Bool :=
  match Lib.charsOf s with
  | [] => false
  | c :: cs => c.isAlphanum && cs.length ≤ 255 &&
      cs.all fun d => d.isAlphanum || d == '.' || d == '_' || d == ':' || d == '-'

/-- `[0-9a-f]{64}`. -/
def isSha256 (s : String) : Bool :=
  (Lib.charsOf s).length = 64 && (Lib.charsOf s).all fun c => c.isDigit || ('a' ≤ c && c ≤ 'f')

/-- `str.upper` on one character, as far as it produces ASCII letters. -/
def upperChar (c : Char) : List Char :=
  if 'a' ≤ c ∧ c ≤ 'z' then [c.toUpper]
  else match c.toNat with
    | 0xDF => ['S', 'S']
    | 0x131 => ['I']
    | 0x149 => [Char.ofNat 0x2BC, 'N']
    | 0x17F => ['S']
    | 0x1F0 => ['J', Char.ofNat 0x30C]
    | 0x1E96 => ['H', Char.ofNat 0x331]
    | 0x1E97 => ['T', Char.ofNat 0x308]
    | 0x1E98 => ['W', Char.ofNat 0x30A]
    | 0x1E99 => ['Y', Char.ofNat 0x30A]
    | 0x1E9A => ['A', Char.ofNat 0x2BE]
    | 0xFB00 => ['F', 'F']
    | 0xFB01 => ['F', 'I']
    | 0xFB02 => ['F', 'L']
    | 0xFB03 => ['F', 'F', 'I']
    | 0xFB04 => ['F', 'F', 'L']
    | 0xFB05 => ['S', 'T']
    | 0xFB06 => ['S', 'T']
    | _ => [c]

def placeholderTokens : List String :=
  ["EXTERNAL", "PLACEHOLDER", "REQUIRED", "TBD", "TODO", "UNKNOWN", "UNRESOLVED", "UNVERIFIED"]

/-- `_require_exact_setup_fact`: canonical text without a placeholder token. -/
def isExactSetupFact (s : String) : Bool :=
  isCanonicalText s && placeholderTokens.all fun t =>
    (s.toList.flatMap upperChar).tails.all fun rest => !t.toList.isPrefixOf rest

/-! ## Enumerations -/

inductive ProductionToolGeometry
  | flatEndMill
  | drill
  | countersink
deriving DecidableEq

inductive ProductionMoveKind
  | rapid
  | linear
deriving DecidableEq

inductive ProductionMoveRole
  | position
  | approach
  | cut
  | peckRetract
  | tabRamp
  | tabBridge
  | retract
deriving DecidableEq

/-! ## Tools and recipes -/

structure ProductionToolBinding where
  toolId : String
  toolVersion : String
  sourceToolId : String
  sourceToolVersion : String
  sourceToolSha256 : String
  controllerToolNumber : Nat
  lengthOffsetNumber : Nat
  expectedLengthOffsetXUm : Int := 0
  expectedLengthOffsetYUm : Int := 0
  expectedLengthOffsetZUm : Int
  toolTableEvidenceId : String
  toolTableEvidenceVersion : String
  toolTableEvidenceSha256 : String
  effectiveDiameterUm : Int
  cuttingLengthUm : Int
  measuredStickoutUm : Int
  minimumHolderClearanceUm : Int
  assemblyCollisionRadiusUm : Int
  geometry : ProductionToolGeometry
  centerCutting : Bool
  ids_valid : ∀ s ∈ [toolId, toolVersion, sourceToolId, sourceToolVersion, toolTableEvidenceId,
    toolTableEvidenceVersion], isIdentity s = true
  hashes_valid : isSha256 sourceToolSha256 = true ∧ isSha256 toolTableEvidenceSha256 = true
  facts_valid : isExactSetupFact toolTableEvidenceId = true ∧
    isExactSetupFact toolTableEvidenceVersion = true
  numbers_range : (1 ≤ controllerToolNumber ∧ controllerToolNumber ≤ 2147483647) ∧
    1 ≤ lengthOffsetNumber ∧ lengthOffsetNumber ≤ 2147483647
  offsets_zero : expectedLengthOffsetXUm = 0 ∧ expectedLengthOffsetYUm = 0
  dims_pos : 1 ≤ effectiveDiameterUm ∧ 1 ≤ cuttingLengthUm ∧ 1 ≤ measuredStickoutUm ∧
    1 ≤ minimumHolderClearanceUm ∧ 1 ≤ assemblyCollisionRadiusUm
  cutting_le_stickout : cuttingLengthUm ≤ measuredStickoutUm
  clearance_lt_stickout : minimumHolderClearanceUm < measuredStickoutUm
  assembly_covers_cutter : effectiveDiameterUm ≤ 2 * assemblyCollisionRadiusUm
  drill_center_cutting : geometry = .drill → centerCutting = true
deriving DecidableEq

structure CuttingRecipe where
  recipeId : String
  version : String
  machineProfileId : String
  machineProfileVersion : String
  materialId : String
  materialVersion : String
  toolId : String
  toolVersion : String
  operationKind : OperationKind
  spindleRpm : Int
  feedUmMin : Int
  plungeUmMin : Int
  stepdownUm : Int
  stepoverPpm : Int
  peckDepthUm : Int
  approachClearanceUm : Int
  throughOvertravelUm : Int
  tabWidthUm : Int
  tabHeightUm : Int
  processAccuracyUm : Int
  acceptedToleranceUm : Int
  diameterToleranceUm : Int := 0
  countersinkTopDiameterUm : Option Int := none
  countersinkIncludedAngleMdeg : Option Int := none
  ids_valid : ∀ s ∈ [recipeId, version, machineProfileId, machineProfileVersion, materialId,
    materialVersion, toolId, toolVersion], isIdentity s = true
  values_pos : 1 ≤ spindleRpm ∧ 1 ≤ feedUmMin ∧ 1 ≤ plungeUmMin ∧ 1 ≤ stepdownUm ∧
    1 ≤ stepoverPpm ∧ 1 ≤ peckDepthUm ∧ 1 ≤ approachClearanceUm ∧ 1 ≤ processAccuracyUm ∧
    1 ≤ acceptedToleranceUm
  accuracy_le : processAccuracyUm ≤ acceptedToleranceUm
  stepover_le : stepoverPpm ≤ 1000000
  diameterTolerance_nonneg : 0 ≤ diameterToleranceUm
  diameterTolerance_drill : operationKind ≠ .drill → diameterToleranceUm = 0
  overtravel_range : 0 ≤ throughOvertravelUm ∧ throughOvertravelUm ≤ 500
  tabs_nonneg : 0 ≤ tabWidthUm ∧ 0 ≤ tabHeightUm
  contour_tabs : operationKind = .contour → 0 < throughOvertravelUm ∧ 0 < tabHeightUm ∧
    2 * processAccuracyUm < tabWidthUm
  no_other_tabs : operationKind ≠ .contour → tabWidthUm = 0 ∧ tabHeightUm = 0
  countersink_geometry : operationKind = .countersink →
    (∃ d ∈ countersinkTopDiameterUm, 1 ≤ d) ∧
      ∃ a ∈ countersinkIncludedAngleMdeg, 60000 ≤ a ∧ a ≤ 120000
  no_other_countersink : operationKind ≠ .countersink →
    countersinkTopDiameterUm = none ∧ countersinkIncludedAngleMdeg = none
deriving DecidableEq

/-! ## Setups -/

/-- `_rect_sort_key`. -/
def rectSortKey (r : Rect) : Int ×ₗ Int ×ₗ Int ×ₗ Int :=
  toLex (r.yUm, toLex (r.xUm, toLex (r.heightUm, r.widthUm)))

structure BoundSetup where
  setupId : String
  stockId : String
  sourceMaterialId : String
  sourceMaterialVersion : String
  materialId : String
  materialVersion : String
  materialEvidenceId : String
  materialEvidenceVersion : String
  materialEvidenceSha256 : String
  sheetIndex : Int
  side : Side
  sourceSetupSha256 : String
  wcs : Wcs
  machineWcsOrigin : Point2D
  machineWcsZ0Um : Int
  stockWidthUm : Int
  stockHeightUm : Int
  stockThicknessUm : Int
  safeZUm : Int
  orientation : String
  fixtureId : String
  fixtureVersion : String
  fixtureSha256 : String
  fixtureClearanceZUm : Int
  minimumRapidClearanceUm : Int
  probeMethod : String
  keepOutZones : List Rect
  spoilboardId : Option String := none
  spoilboardVersion : Option String := none
  spoilboardSha256 : Option String := none
  throughCutAllowanceUm : Int := 0
  ids_valid : ∀ s ∈ [setupId, stockId, sourceMaterialId, sourceMaterialVersion, materialId,
    materialVersion, materialEvidenceId, materialEvidenceVersion, fixtureId, fixtureVersion],
    isIdentity s = true
  facts_valid : ∀ s ∈ [materialId, materialVersion, materialEvidenceId, materialEvidenceVersion,
    orientation, probeMethod], isExactSetupFact s = true
  hashes_valid : ∀ s ∈ [materialEvidenceSha256, fixtureSha256, sourceSetupSha256],
    isSha256 s = true
  sheet_nonneg : 0 ≤ sheetIndex
  side_not_edge : side ≠ .edge
  dims_pos : 1 ≤ stockWidthUm ∧ 1 ≤ stockHeightUm ∧ 1 ≤ stockThicknessUm ∧ 1 ≤ safeZUm
  clearance_range : 0 ≤ fixtureClearanceZUm ∧ 1 ≤ minimumRapidClearanceUm
  clearance_le_safe : fixtureClearanceZUm + minimumRapidClearanceUm ≤ safeZUm
  allowance_range : 0 ≤ throughCutAllowanceUm ∧ throughCutAllowanceUm ≤ 500
  spoilboard_bound : throughCutAllowanceUm ≠ 0 → (∃ s ∈ spoilboardId, isIdentity s = true) ∧
    (∃ s ∈ spoilboardVersion, isIdentity s = true) ∧ ∃ s ∈ spoilboardSha256, isSha256 s = true
  spoilboard_absent : throughCutAllowanceUm = 0 →
    spoilboardId = none ∧ spoilboardVersion = none ∧ spoilboardSha256 = none
  keepOuts_sorted : sortBy rectSortKey keepOutZones = keepOutZones
  keepOuts_nodup : keepOutZones.Nodup
  keepOuts_inside : ∀ z ∈ keepOutZones, 0 < z.widthUm ∧ 0 < z.heightUm ∧
    (Rect.mk 0 0 stockWidthUm stockHeightUm).contains z = true
deriving DecidableEq

/-- The physical sheet that a setup machines. -/
def BoundSetup.physicalSheet (s : BoundSetup) : String × Int := (s.stockId, s.sheetIndex)

/-! ## The execution context -/

/-- The binding of a recipe to material, tool and operation kind. -/
def CuttingRecipe.key (r : CuttingRecipe) :
    String × String × String × String × OperationKind :=
  (r.materialId, r.materialVersion, r.toolId, r.toolVersion, r.operationKind)

/-- `_recipe_sort_key`. -/
def recipeSortKey (r : CuttingRecipe) : String ×ₗ String ×ₗ String ×ₗ String ×ₗ String :=
  toLex (r.materialId, toLex (r.materialVersion, toLex (r.toolId, toLex (r.toolVersion,
    r.operationKind.value))))

/-- `_tool_binding_sort_key`. -/
def toolBindingSortKey (b : ProductionToolBinding) : String ×ₗ String :=
  toLex (b.sourceToolId, b.toolId)

/-- The material binding that all setups of one physical sheet share. -/
def BoundSetup.materialBinding (s : BoundSetup) : List String :=
  [s.sourceMaterialId, s.sourceMaterialVersion, s.materialId, s.materialVersion,
    s.materialEvidenceId, s.materialEvidenceVersion, s.materialEvidenceSha256]

structure ProductionExecutionContext where
  sourceMachineProfileId : String
  sourceMachineProfileVersion : String
  sourceMachineProfileFingerprint : String
  machineProfileId : String
  machineProfileVersion : String
  controllerId : String
  controllerVersion : String
  machineXMinUm : Int
  machineXMaxUm : Int
  machineYMinUm : Int
  machineYMaxUm : Int
  machineZMinUm : Int
  machineZMaxUm : Int
  workWidthUm : Int
  workHeightUm : Int
  workZUm : Int
  minSpindleRpm : Int
  maxSpindleRpm : Int
  maxFeedUmMin : Int
  maxPlungeUmMin : Int
  toolCatalogVersion : String
  recipeCatalogVersion : String
  setups : List BoundSetup
  toolBindings : List ProductionToolBinding
  recipes : List CuttingRecipe
  ids_valid : ∀ s ∈ [sourceMachineProfileId, sourceMachineProfileVersion, machineProfileId,
    machineProfileVersion, controllerId, controllerVersion, toolCatalogVersion,
    recipeCatalogVersion], isIdentity s = true
  fingerprint_valid : isSha256 sourceMachineProfileFingerprint = true
  limits_pos : 1 ≤ workWidthUm ∧ 1 ≤ workHeightUm ∧ 1 ≤ workZUm ∧ 1 ≤ minSpindleRpm ∧
    1 ≤ maxSpindleRpm ∧ 1 ≤ maxFeedUmMin ∧ 1 ≤ maxPlungeUmMin
  spindle_range : minSpindleRpm ≤ maxSpindleRpm
  travel_x : machineXMaxUm - machineXMinUm = workWidthUm
  travel_y : machineYMaxUm - machineYMinUm = workHeightUm
  travel_z : machineZMaxUm - machineZMinUm = workZUm
  nonempty : setups ≠ [] ∧ toolBindings ≠ [] ∧ recipes ≠ []
  setups_nodup : (setups.map BoundSetup.setupId).Nodup
  tools_nodup : (toolBindings.map ProductionToolBinding.toolId).Nodup
  sourceTools_nodup : (toolBindings.map ProductionToolBinding.sourceToolId).Nodup
  toolNumbers_nodup : (toolBindings.map ProductionToolBinding.controllerToolNumber).Nodup
  offsetNumbers_nodup : (toolBindings.map ProductionToolBinding.lengthOffsetNumber).Nodup
  one_tool_table : toolBindings.Pairwise fun a b =>
    a.toolTableEvidenceId = b.toolTableEvidenceId ∧
      a.toolTableEvidenceVersion = b.toolTableEvidenceVersion ∧
      a.toolTableEvidenceSha256 = b.toolTableEvidenceSha256
  recipes_nodup : (recipes.map CuttingRecipe.recipeId).Nodup
  recipeKeys_nodup : (recipes.map CuttingRecipe.key).Nodup
  setups_sorted : sortBy BoundSetup.setupId setups = setups
  tools_sorted : sortBy toolBindingSortKey toolBindings = toolBindings
  recipes_sorted : sortBy recipeSortKey recipes = recipes
  setups_inside : ∀ s ∈ setups, machineXMinUm ≤ s.machineWcsOrigin.xUm ∧
    s.machineWcsOrigin.xUm + s.stockWidthUm ≤ machineXMaxUm ∧
    machineYMinUm ≤ s.machineWcsOrigin.yUm ∧
    s.machineWcsOrigin.yUm + s.stockHeightUm ≤ machineYMaxUm
  sheets_one_material : setups.Pairwise fun a b =>
    a.physicalSheet = b.physicalSheet → a.materialBinding = b.materialBinding
  recipes_bound : ∀ r ∈ recipes, r.machineProfileId = machineProfileId ∧
    r.machineProfileVersion = machineProfileVersion ∧
    (∃ b ∈ toolBindings, b.toolId = r.toolId ∧ b.toolVersion = r.toolVersion) ∧
    minSpindleRpm ≤ r.spindleRpm ∧ r.spindleRpm ≤ maxSpindleRpm ∧
    r.feedUmMin ≤ maxFeedUmMin ∧ r.plungeUmMin ≤ maxPlungeUmMin
  area_stepover : ∀ r ∈ recipes, r.operationKind = .pocket ∨ r.operationKind = .groove →
    ∀ b ∈ toolBindings, b.toolId = r.toolId → b.toolVersion = r.toolVersion →
      b.effectiveDiameterUm * r.stepoverPpm / 1000000 + 2 * r.processAccuracyUm ≤
        b.effectiveDiameterUm

/-! ## Moves and programs -/

structure ProductionMove where
  sequence : Nat
  operationId : String
  passIndex : Nat
  kind : ProductionMoveKind
  role : ProductionMoveRole
  xUm : Int
  yUm : Int
  zUm : Int
  feedUmMin : Option Int := none
deriving DecidableEq

/-- Role and feed of a rapid or a linear move. -/
def roleWellFormed (role : ProductionMoveRole) (feedUmMin : Option Int) :
    ProductionMoveKind → Prop
  | .rapid => feedUmMin = none ∧
      role ∈ [ProductionMoveRole.position, .approach, .peckRetract, .retract]
  | .linear => (∃ f ∈ feedUmMin, 1 ≤ f) ∧ role ≠ .position ∧ role ≠ .retract

instance (role : ProductionMoveRole) (feed : Option Int) (kind : ProductionMoveKind) :
    Decidable (roleWellFormed role feed kind) :=
  match kind with
  | .rapid => inferInstanceAs (Decidable (_ ∧ _))
  | .linear => inferInstanceAs (Decidable (_ ∧ _))

/-- `ProductionMove.__post_init__`: a rapid has no feed and no cutting role, a linear move
    a positive feed and no rapid-only role. -/
def ProductionMove.WellFormed (m : ProductionMove) : Prop :=
  1 ≤ m.sequence ∧ isIdentity m.operationId = true ∧ 1 ≤ m.passIndex ∧
    roleWellFormed m.role m.feedUmMin m.kind

instance (m : ProductionMove) : Decidable m.WellFormed :=
  inferInstanceAs (Decidable (_ ∧ _ ∧ _ ∧ _))

structure ProductionProgram where
  programId : String
  runOrder : Nat
  setupId : String
  toolId : String
  toolVersion : String
  recipeIds : List String
  operationIds : List String
  releaseOperationIds : List String
  moves : List ProductionMove
deriving DecidableEq

/-- `ProductionProgram.__post_init__`. -/
def ProductionProgram.WellFormed (p : ProductionProgram) : Prop :=
  (∀ s ∈ [p.programId, p.setupId, p.toolId, p.toolVersion] ++ p.recipeIds ++ p.operationIds,
    isIdentity s = true) ∧
  1 ≤ p.runOrder ∧
  (p.recipeIds ≠ [] ∧ p.recipeIds.Nodup) ∧
  (p.operationIds ≠ [] ∧ p.operationIds.Nodup) ∧
  p.releaseOperationIds <:+ p.operationIds ∧
  p.moves ≠ [] ∧
  (∀ m ∈ p.moves, m.WellFormed) ∧
  p.moves.map ProductionMove.sequence = (List.range p.moves.length).map (· + 1) ∧
  (∀ m ∈ p.moves, m.operationId ∈ p.operationIds) ∧
  (∀ id ∈ p.operationIds, id ∈ p.moves.map ProductionMove.operationId)

instance (p : ProductionProgram) : Decidable p.WellFormed :=
  inferInstanceAs (Decidable (_ ∧ _ ∧ _ ∧ _ ∧ _ ∧ _ ∧ _ ∧ _ ∧ _ ∧ _))

/-! ## Toolpath documents -/

namespace ProductionExecutionContext

variable (ctx : ProductionExecutionContext)

def setupById (id : String) : Option BoundSetup := ctx.setups.find? fun s => s.setupId == id

def toolById (id : String) : Option ProductionToolBinding :=
  ctx.toolBindings.find? fun b => b.toolId == id

def recipeById (id : String) : Option CuttingRecipe := ctx.recipes.find? fun r => r.recipeId == id

/-- The physical sheet that a program machines. -/
def sheetOf (p : ProductionProgram) : Option (String × Int) :=
  (ctx.setupById p.setupId).map BoundSetup.physicalSheet

/-- The bindings of a program: its setup, tool and recipes are those of the context and
    belong together. -/
def Binds (p : ProductionProgram) : Prop :=
  ∃ setup ∈ ctx.setupById p.setupId, ∃ tool ∈ ctx.toolById p.toolId,
    p.toolVersion = tool.toolVersion ∧
    ∀ id ∈ p.recipeIds, ∃ r ∈ ctx.recipeById id, r.toolId = p.toolId ∧
      r.toolVersion = p.toolVersion ∧ r.materialId = setup.materialId ∧
      r.materialVersion = setup.materialVersion

instance (p : ProductionProgram) : Decidable (ctx.Binds p) :=
  inferInstanceAs (Decidable (∃ setup ∈ ctx.setupById p.setupId, _))

end ProductionExecutionContext

/-- No program follows a release program on one physical sheet. -/
def ReleaseLast (ctx : ProductionExecutionContext) (programs : List ProductionProgram) : Prop :=
  programs.Pairwise fun p q => p.releaseOperationIds ≠ [] → ctx.sheetOf p ≠ ctx.sheetOf q

instance (ctx : ProductionExecutionContext) (programs : List ProductionProgram) :
    Decidable (ReleaseLast ctx programs) :=
  inferInstanceAs (Decidable (List.Pairwise _ _))

structure ProductionToolpathDocument where
  designHash : String
  operationsSha256 : String
  executionContext : ProductionExecutionContext
  programs : List ProductionProgram
  hashes_valid : isSha256 designHash = true ∧ isSha256 operationsSha256 = true
  nonempty : programs ≠ []
  programs_wf : ∀ p ∈ programs, p.WellFormed
  run_dense : programs.map ProductionProgram.runOrder =
    (List.range programs.length).map (· + 1)
  programs_nodup : (programs.map ProductionProgram.programId).Nodup
  operations_nodup : (programs.flatMap ProductionProgram.operationIds).Nodup
  bindings : ∀ p ∈ programs, executionContext.Binds p
  release_last : ReleaseLast executionContext programs

end Custombuild.Cam
