/-
  What a planner run that returned has done: one inversion lemma for the document, one for a
  program, one for the moves of a program.  The moves of a program are the expansions of its
  operations, one after the other (`Segments`).
-/
import Custombuild.Cam.ToolState

namespace Custombuild.Cam

open Custombuild.Lib Custombuild.Manufacturing

section Inversion

variable {env : PlannerEnv} {doc : OperationsDocument} {ctx : ProductionExecutionContext}
  {outlines : List PartOutline}

/-! ## Bound operations -/

/-- A pair of an operation and the binding that the operation loop found for it. -/
def IsBound (doc : OperationsDocument) (ctx : ProductionExecutionContext)
    (outlines : List PartOutline) (bo : BoundOperation) : Prop :=
  bo.1 ∈ doc.operations ∧ bindOperation doc ctx outlines bo.1 = .ok bo.2

theorem isBound_of_mem_zip {bindings : List OperationBinding}
    (h : collect (bindOperation doc ctx outlines) doc.operations = .ok bindings)
    {bo : BoundOperation} (hbo : bo ∈ doc.operations.zip bindings) : IsBound doc ctx outlines bo :=
  ⟨(List.of_mem_zip hbo).1, List.forall₂_zip (collect_eq_ok.mp h) hbo⟩

/-- What the operation loop has established about a bound operation. -/
structure Bound (doc : OperationsDocument) (ctx : ProductionExecutionContext)
    (outlines : List PartOutline) (bo : BoundOperation) : Prop where
  setup_eq : ctx.setupById bo.1.setupId = some bo.2.setup
  tool_eq : bindingBySourceId ctx bo.1.toolId = some bo.2.binding
  recipe_eq : recipeFor ctx bo.2.setup bo.2.binding bo.1.kind = some bo.2.recipe
  outline : ∃ setup, sourceSetupById doc bo.1.setupId = some setup ∧
    validatePartOutlineBinding bo.1 setup outlines = .ok ()
  contract : ∃ tool, sourceToolById doc bo.1.toolId = some tool ∧
    OperationContract bo.1 bo.2.setup tool bo.2.binding bo.2.recipe

theorem IsBound.bound {bo : BoundOperation} (h : IsBound doc ctx outlines bo) :
    Bound doc ctx outlines bo := by
  obtain ⟨-, h⟩ := h
  simp only [bindOperation, bind_eq_ok, demand_eq_ok] at h
  obtain ⟨_, -, setup, hsource, bound, hsetup, tool, htool, binding, hbinding, _, houtline,
    recipe, hrecipe, _, hcontract, hret⟩ := h
  have hbo : bo.2 = ⟨bound, binding, recipe⟩ := (Except.ok.inj hret).symm
  refine ⟨?_, ?_, ?_, ⟨setup, hsource, houtline⟩, tool, htool, ?_⟩
  · rw [hbo]; exact hsetup
  · rw [hbo]; exact hbinding
  · rw [hbo]; exact hrecipe
  · rw [hbo]; exact validateOperationContract_inv hcontract

/-! ## Moves of a program -/

variable {b : ProgramBuilder}

/-- The moves of one operation that starts after `n` moves. -/
structure Segment (b : ProgramBuilder) (bo : BoundOperation) (n : Nat)
    (moves : List ProductionMove) : Prop where
  commands : ∃ cs, operationCommands bo.1 b.setup b.tool bo.2.recipe = .ok cs ∧
    moves = expand bo.1 b.setup.safeZUm n cs
  checked : Checked b bo.1 bo.2.recipe none moves

/-- The moves of the operations of a program, one segment per operation. -/
inductive Segments (b : ProgramBuilder) : List BoundOperation → Nat → List ProductionMove → Prop
  | nil (n : Nat) : Segments b [] n []
  | cons {bo : BoundOperation} {rest : List BoundOperation} {n : Nat}
      {first moves : List ProductionMove} : Segment b bo n first →
      Segments b rest (n + first.length) moves → Segments b (bo :: rest) n (first ++ moves)

theorem checked_none {op : CAMOperation} {recipe : CuttingRecipe}
    {previous : Option ProductionMove} {m : ProductionMove} {l : List ProductionMove}
    (hm : m.kind = .rapid) (h : Checked b op recipe previous (m :: l)) :
    Checked b op recipe none (m :: l) :=
  ⟨⟨h.1.wf, h.1.machine, h.1.stock, fun hk => by rw [hm] at hk; cases hk⟩, h.2⟩

/-- A cycle starts with a positioning, so its first move needs no predecessor. -/
theorem checked_of_cycle {op : CAMOperation} {recipe : CuttingRecipe}
    {previous : Option ProductionMove} {n : Nat} {safeZUm : Int} {cs : List Command}
    (hcycle : follow enter .up cs = some .up)
    (h : Checked b op recipe previous (expand op safeZUm n cs)) :
    Checked b op recipe none (expand op safeZUm n cs) := by
  cases cs with
  | nil => trivial
  | cons c cs =>
    cases c with
    | position pass x y a => exact checked_none rfl h
    | cut | peckRetract | retract => cases hcycle

theorem generateOperationMoves_eq_ok {bo : BoundOperation} {moves moves' : List ProductionMove}
    (h : b.generateOperationMoves bo.1 bo.2.recipe moves = .ok moves') :
    ∃ first, moves' = moves ++ first ∧ Segment b bo moves.length first := by
  rw [ProgramBuilder.generateOperationMoves, bind_eq_ok] at h
  obtain ⟨cs, hcs, hexec⟩ := h
  obtain ⟨hmoves, hchecked⟩ := execCommands_eq_ok hexec
  exact ⟨_, hmoves, ⟨cs, hcs, rfl⟩, checked_of_cycle (operationCommands_cycle hcs) hchecked⟩

theorem programMoves_eq_ok {ops : List BoundOperation} {moves moves' : List ProductionMove}
    (h : programMoves b ops moves = .ok moves') :
    ∃ added, moves' = moves ++ added ∧ Segments b ops moves.length added := by
  induction ops generalizing moves with
  | nil =>
    cases h
    exact ⟨[], by simp, .nil _⟩
  | cons bo rest ih =>
    rw [programMoves, bind_eq_ok] at h
    obtain ⟨mid, hbo, hrest⟩ := h
    obtain ⟨first, rfl, hfirst⟩ := generateOperationMoves_eq_ok hbo
    obtain ⟨added, rfl, hadded⟩ := ih hrest
    rw [List.length_append] at hadded
    exact ⟨first ++ added, by rw [List.append_assoc], .cons hfirst hadded⟩

/-! ## Programs and documents -/

/-- A program that the program loop made for a group of bound operations. -/
structure PlannedProgram (ctx : ProductionExecutionContext) (outlines : List PartOutline)
    (bound : List BoundOperation) (key : GroupKey) (runOrder : Nat) (p : ProductionProgram) :
    Prop where
  binding : ∃ setup tool, ctx.setupById key.setupId = some setup ∧
    bindingBySourceId ctx key.sourceToolId = some tool ∧
    p.toolId = tool.toolId ∧ p.toolVersion = tool.toolVersion ∧
    Segments ⟨ctx, setup, tool, outlines⟩ (groupOperations bound key) 0 p.moves
  run_order : p.runOrder = runOrder
  setup_eq : p.setupId = key.setupId
  recipes_eq : p.recipeIds =
    sortedSet ((groupOperations bound key).map fun bo => bo.2.recipe.recipeId)
  operations_eq : p.operationIds = (groupOperations bound key).map fun bo => bo.1.operationId
  releases_eq : p.releaseOperationIds =
    ((groupOperations bound key).filter fun bo => isReleaseContour bo.1).map fun bo =>
      bo.1.operationId
  wf : p.WellFormed

theorem generateProgram_eq_ok {bound : List BoundOperation} {key : GroupKey} {n : Nat}
    {p : ProductionProgram} (h : generateProgram ctx outlines bound n key = .ok p) :
    PlannedProgram ctx outlines bound key n p := by
  simp only [generateProgram, bind_eq_ok, demand_eq_ok, require_eq_ok, decide_eq_true_eq] at h
  obtain ⟨setup, hsetup, tool, htool, moves, hmoves, _, hwf, hret⟩ := h
  obtain ⟨added, rfl, hsegments⟩ := programMoves_eq_ok hmoves
  cases hret
  exact ⟨⟨setup, tool, hsetup, htool, rfl, rfl, hsegments⟩, rfl, rfl, rfl, rfl, rfl, hwf⟩

/-- A planner run that returned. -/
structure PlannedDocument (env : PlannerEnv) (doc : OperationsDocument)
    (ctx : ProductionExecutionContext) (tdoc : ProductionToolpathDocument)
    (outlines : List PartOutline) (bindings : List OperationBinding) : Prop where
  source : validateSourceBinding env doc ctx = .ok ()
  outlines_eq : bindPartOutlines doc = .ok outlines
  bindings_eq : collect (bindOperation doc ctx outlines) doc.operations = .ok bindings
  sheet_order : requireSafePhysicalSheetOrder doc
    (groupKeys doc (doc.operations.zip bindings)) = .ok ()
  programs_eq : List.Forall₂
    (fun k p => PlannedProgram ctx outlines (doc.operations.zip bindings) k.1 (k.2 + 1) p)
    (groupKeys doc (doc.operations.zip bindings)).zipIdx tdoc.programs
  context_eq : tdoc.executionContext = ctx
  design_eq : tdoc.designHash = doc.designHash
  hash_eq : tdoc.operationsSha256 = env.documentSha256 doc

theorem makeToolpathDocument_eq_ok {designHash hash : String} {programs : List ProductionProgram}
    {tdoc : ProductionToolpathDocument}
    (h : makeToolpathDocument ctx designHash hash programs = .ok tdoc) :
    tdoc.executionContext = ctx ∧ tdoc.designHash = designHash ∧ tdoc.operationsSha256 = hash ∧
      tdoc.programs = programs := by
  unfold makeToolpathDocument at h
  split at h
  · cases h
    exact ⟨rfl, rfl, rfl, rfl⟩
  · cases h

theorem generateProductionToolpaths_eq_ok {tdoc : ProductionToolpathDocument}
    (h : generateProductionToolpaths env doc ctx = .ok tdoc) :
    ∃ outlines bindings, PlannedDocument env doc ctx tdoc outlines bindings := by
  simp only [generateProductionToolpaths, bind_eq_ok] at h
  obtain ⟨_, hsource, _, -, outlines, houtlines, bindings, hbindings, _, horder, programs,
    hprograms, hmake⟩ := h
  obtain ⟨hctx, hdesign, hhash, rfl⟩ := makeToolpathDocument_eq_ok hmake
  refine ⟨outlines, bindings, hsource, houtlines, hbindings, horder, ?_, hctx, hdesign, hhash⟩
  exact (collect_eq_ok.mp hprograms).imp fun k p hk => generateProgram_eq_ok hk

/-- Every program of a planned document was made for one of its groups. -/
theorem PlannedDocument.program {tdoc : ProductionToolpathDocument}
    {bindings : List OperationBinding}
    (h : PlannedDocument env doc ctx tdoc outlines bindings) {p : ProductionProgram}
    (hp : p ∈ tdoc.programs) :
    ∃ key ∈ groupKeys doc (doc.operations.zip bindings), ∃ n,
      PlannedProgram ctx outlines (doc.operations.zip bindings) key n p := by
  obtain ⟨i, hi, rfl⟩ := List.getElem_of_mem hp
  have hlen := h.programs_eq.length_eq
  have hget := h.programs_eq.get (i := i) (by omega) hi
  simp only [List.get_eq_getElem, List.getElem_zipIdx] at hget
  exact ⟨_, List.getElem_mem _, _, hget⟩

theorem mem_groupOperations {bound : List BoundOperation} {key : GroupKey} {bo : BoundOperation} :
    bo ∈ groupOperations bound key ↔ bo ∈ bound ∧ groupKey bo = key := by
  rw [groupOperations, mem_sortBy, List.mem_filter, decide_eq_true_eq]

end Inversion

/-! ## A panel with a drill hole, a pocket and its outline -/

namespace PanelJob

def digest : String := String.ofList (List.replicate 64 'a')

theorem isSha256_digest : isSha256 digest = true := by decide +kernel

theorem isSha256_digests : isSha256 digest = true ∧ isSha256 digest = true :=
  ⟨isSha256_digest, isSha256_digest⟩

def hole : ManufacturingFeature where
  featureId := "hole"
  partId := "panel"
  kind := .drill
  side := .a
  xUm := 30000
  yUm := 40000
  depthUm := 9000
  diameterUm := some 8000

def pocket : ManufacturingFeature where
  featureId := "pocket"
  partId := "panel"
  kind := .pocket
  side := .a
  xUm := 50000
  yUm := 20000
  depthUm := 6000
  widthUm := some 14000
  lengthUm := some 10000

/-- A through contour around a panel of 120 by 90 mm. -/
def outline (partId : String) (kind : FeatureKind) (h : partId ≠ "") : ManufacturingFeature where
  featureId := "outline"
  partId := partId
  kind := kind
  side := .a
  xUm := 0
  yUm := 0
  depthUm := 18000
  widthUm := some 120000
  lengthUm := some 90000
  through := true
  metadata := { compensation := some "OUTSIDE" }
  ids_required := ⟨by decide, h⟩

theorem panel_named : "panel" ≠ "" := by decide

def panel : PartSpec where
  partId := "panel"
  widthUm := 120000
  heightUm := 90000
  thicknessUm := 18000
  materialId := "birch"
  materialVersion := "1"
  features := [hole, pocket, outline "panel" .outerContour panel_named]
  id_required := panel_named
  features_owned := by simp [hole, pocket, outline]

def layout (placements : List Placement) : NestingLayout where
  stock := {
    stockId := "sheet"
    materialId := "birch"
    materialVersion := "1"
    widthUm := 400000
    heightUm := 200000
    thicknessUm := 18000 }
  placements := placements

/-- The operations document of some parts on the reference router. -/
def source (parts : List PartSpec) (placements : List Placement) :
    Except GenerateError OperationsDocument :=
  generateOperationsDocument (layout placements) linuxcncReferenceRouter1325 (fun _ _ _ => [])
    (fun _ => digest) digest (.specs parts) false fun _ => none

def panelPlacement : Placement :=
  ⟨"panel:001", "panel", "sheet", 0, 50000, 40000, 120000, 90000, false⟩

/-- The panel alone on its sheet. -/
def panelAlone : Except GenerateError OperationsDocument := source [panel] [panelPlacement]

def drillBinding : ProductionToolBinding where
  toolId := "drill8"
  toolVersion := "1"
  sourceToolId := "T08D"
  sourceToolVersion := "1.0.0-validation"
  sourceToolSha256 := digest
  controllerToolNumber := 2
  lengthOffsetNumber := 2
  expectedLengthOffsetZUm := 40000
  toolTableEvidenceId := "table"
  toolTableEvidenceVersion := "1"
  toolTableEvidenceSha256 := digest
  effectiveDiameterUm := 8000
  cuttingLengthUm := 35000
  measuredStickoutUm := 45000
  minimumHolderClearanceUm := 5000
  assemblyCollisionRadiusUm := 20000
  geometry := .drill
  centerCutting := true
  ids_valid := by decide +kernel
  hashes_valid := isSha256_digests
  facts_valid := by decide +kernel
  numbers_range := by decide
  offsets_zero := by decide
  dims_pos := by decide
  cutting_le_stickout := by decide
  clearance_lt_stickout := by decide
  assembly_covers_cutter := by decide
  drill_center_cutting := by decide

def routerBinding : ProductionToolBinding where
  toolId := "router6"
  toolVersion := "1"
  sourceToolId := "T06R"
  sourceToolVersion := "1.0.0-validation"
  sourceToolSha256 := digest
  controllerToolNumber := 1
  lengthOffsetNumber := 1
  expectedLengthOffsetZUm := 50000
  toolTableEvidenceId := "table"
  toolTableEvidenceVersion := "1"
  toolTableEvidenceSha256 := digest
  effectiveDiameterUm := 6000
  cuttingLengthUm := 30000
  measuredStickoutUm := 40000
  minimumHolderClearanceUm := 5000
  assemblyCollisionRadiusUm := 20000
  geometry := .flatEndMill
  centerCutting := true
  ids_valid := by decide +kernel
  hashes_valid := isSha256_digests
  facts_valid := by decide +kernel
  numbers_range := by decide
  offsets_zero := by decide
  dims_pos := by decide
  cutting_le_stickout := by decide
  clearance_lt_stickout := by decide
  assembly_covers_cutter := by decide
  drill_center_cutting := by decide

def boundSetup : BoundSetup where
  setupId := "setup:sheet:001:A"
  stockId := "sheet"
  sourceMaterialId := "birch"
  sourceMaterialVersion := "1"
  materialId := "birch18"
  materialVersion := "1"
  materialEvidenceId := "lot"
  materialEvidenceVersion := "1"
  materialEvidenceSha256 := digest
  sheetIndex := 0
  side := .a
  sourceSetupSha256 := digest
  wcs := .g54
  machineWcsOrigin := ⟨100000, 100000⟩
  machineWcsZ0Um := 0
  stockWidthUm := 400000
  stockHeightUm := 200000
  stockThicknessUm := 18000
  safeZUm := 15000
  orientation := "A_SIDE_UP; STOCK_ORIGIN_AT_LOWER_LEFT"
  fixtureId := "vacuum"
  fixtureVersion := "1"
  fixtureSha256 := digest
  fixtureClearanceZUm := 5000
  minimumRapidClearanceUm := 5000
  probeMethod := "probe"
  keepOutZones := []
  spoilboardId := some "board"
  spoilboardVersion := some "1"
  spoilboardSha256 := some digest
  throughCutAllowanceUm := 500
  ids_valid := by decide +kernel
  facts_valid := by decide +kernel
  hashes_valid := by simp [isSha256_digest]
  sheet_nonneg := by decide
  side_not_edge := by decide
  dims_pos := by decide
  clearance_range := by decide
  clearance_le_safe := by decide
  allowance_range := by decide
  spoilboard_bound _ := ⟨⟨_, rfl, by decide +kernel⟩, ⟨_, rfl, by decide +kernel⟩, _, rfl,
    isSha256_digest⟩
  spoilboard_absent h := absurd h (by decide)
  keepOuts_sorted := rfl
  keepOuts_nodup := List.nodup_nil
  keepOuts_inside := by simp

/-- The fields that the recipes share. -/
def recipe (id tool : String) (kind : OperationKind) (width height overtravel : Int)
    (hids : ∀ s ∈ [id, "1", "router", "1", "birch18", "1", tool, "1"], isIdentity s = true)
    (hover : 0 ≤ overtravel ∧ overtravel ≤ 500) (htabs : 0 ≤ width ∧ 0 ≤ height)
    (hcontour : kind = .contour → 0 < overtravel ∧ 0 < height ∧ 2 * 20 < width)
    (hother : kind ≠ .contour → width = 0 ∧ height = 0) (hsink : kind ≠ .countersink) :
    CuttingRecipe where
  recipeId := id
  version := "1"
  machineProfileId := "router"
  machineProfileVersion := "1"
  materialId := "birch18"
  materialVersion := "1"
  toolId := tool
  toolVersion := "1"
  operationKind := kind
  spindleRpm := 12000
  feedUmMin := 1500000
  plungeUmMin := 500000
  stepdownUm := 20000
  stepoverPpm := 400000
  peckDepthUm := 5000
  approachClearanceUm := 2000
  throughOvertravelUm := overtravel
  tabWidthUm := width
  tabHeightUm := height
  processAccuracyUm := 20
  acceptedToleranceUm := 100
  ids_valid := hids
  values_pos := by decide
  accuracy_le := by decide
  stepover_le := by decide
  diameterTolerance_nonneg := by decide
  diameterTolerance_drill _ := rfl
  overtravel_range := hover
  tabs_nonneg := htabs
  contour_tabs := hcontour
  no_other_tabs := hother
  countersink_geometry h := absurd h hsink
  no_other_countersink _ := ⟨rfl, rfl⟩

def drillRecipe : CuttingRecipe := recipe "drill" "drill8" .drill 0 0 0 (by decide +kernel)
  (by decide) (by decide) (by decide) (by decide) (by decide)

def pocketRecipe : CuttingRecipe := recipe "pocket" "router6" .pocket 0 0 0 (by decide +kernel)
  (by decide) (by decide) (by decide) (by decide) (by decide)

def contourRecipe : CuttingRecipe := recipe "contour" "router6" .contour 5000 3000 300
  (by decide +kernel) (by decide) (by decide) (by decide) (by decide) (by decide)

def context : ProductionExecutionContext where
  sourceMachineProfileId := linuxcncReferenceRouter1325.profileId
  sourceMachineProfileVersion := linuxcncReferenceRouter1325.version
  sourceMachineProfileFingerprint := digest
  machineProfileId := "router"
  machineProfileVersion := "1"
  controllerId := "linuxcnc"
  controllerVersion := "2.9.4"
  machineXMinUm := 0
  machineXMaxUm := 2500000
  machineYMinUm := 0
  machineYMaxUm := 1300000
  machineZMinUm := 0
  machineZMaxUm := 150000
  workWidthUm := 2500000
  workHeightUm := 1300000
  workZUm := 150000
  minSpindleRpm := 6000
  maxSpindleRpm := 24000
  maxFeedUmMin := 6000000
  maxPlungeUmMin := 2000000
  toolCatalogVersion := "1"
  recipeCatalogVersion := "1"
  setups := [boundSetup]
  toolBindings := [routerBinding, drillBinding]
  recipes := [drillRecipe, contourRecipe, pocketRecipe]
  ids_valid := by decide +kernel
  fingerprint_valid := isSha256_digest
  limits_pos := by decide
  spindle_range := by decide
  travel_x := by decide
  travel_y := by decide
  travel_z := by decide
  nonempty := by simp
  setups_nodup := by simp
  tools_nodup := by decide +kernel
  sourceTools_nodup := by decide +kernel
  toolNumbers_nodup := by decide
  offsetNumbers_nodup := by decide
  one_tool_table := by simp [routerBinding, drillBinding]
  recipes_nodup := by decide +kernel
  recipeKeys_nodup := by decide +kernel
  setups_sorted := rfl
  tools_sorted := by decide +kernel
  recipes_sorted := by decide +kernel
  setups_inside := by decide
  sheets_one_material := by simp
  recipes_bound := by decide +kernel
  area_stepover := by decide +kernel

/-- The planner with constant fingerprints and no further validation errors. -/
def env : PlannerEnv where
  machineFingerprint _ := digest
  setupFingerprint _ := digest
  toolFingerprint _ := digest
  documentSha256 _ := digest
  otherValidationErrors _ _ := []

theorem plans_panelAlone :
    okAnd panelAlone (fun doc => okAnd (generateProductionToolpaths env doc context)
      fun _ => true) = true := by decide +kernel

theorem exists_plan_panelAlone :
    ∃ doc tdoc, panelAlone = .ok doc ∧ generateProductionToolpaths env doc context = .ok tdoc := by
  obtain ⟨doc, hdoc, hplan⟩ := exists_of_okAnd plans_panelAlone
  obtain ⟨tdoc, htdoc, -⟩ := exists_of_okAnd hplan
  exact ⟨doc, tdoc, hdoc, htdoc⟩

end PanelJob

end Custombuild.Cam
