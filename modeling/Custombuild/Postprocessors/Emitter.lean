/-
  The LinuxCNC production postprocessor: one program text for each planned program, checked
  by the validator before it is returned.  Source:
  `custombuild_postprocessors.linuxcnc_production`.
-/
import Custombuild.Postprocessors.Validator

namespace Custombuild.Postprocessors

open Custombuild.Lib Custombuild.Manufacturing Custombuild.Cam

/-! ## Numerals and lines -/

/-- `_format_mm`: three decimals of the quotient by 1000; zero has no sign. -/
def formatMm (value : Int) : List Char := plainText (thousandths value)

/-- `_format_seconds`. -/
def formatSeconds (value : Int) : Except String (List Char) := do
  require (0 < value) "LinuxCNC dwell must be positive integer milliseconds"
  return plainText (thousandths value)

/-- `_safe_comment`. -/
def safeComment (value : String) : String :=
  String.ofList (value.toList.map fun c =>
    if c = '(' then '[' else if c = ')' then ']' else if c = '\r' ∨ c = '\n' then ' ' else c)

/-- `_CANONICAL_STATE_LINES`. -/
def canonicalStateLines : List (List Char) :=
  ["G21", "G8", "G17 G40 G49 G80 G90 G94 G97", "G61", "M5", "M9", "M49", "M52 P0", "M53 P1",
    "G92.1"].map String.toList

/-- `_move_line`. -/
def moveLine (m : ProductionMove) : Except String (List Char) :=
  let line (g : String) := g.toList ++ formatMm m.xUm ++ " Y".toList ++ formatMm m.yUm ++
    " Z".toList ++ formatMm m.zUm
  match m.kind with
  | .rapid => .ok (line "G0 X")
  | .linear => do
    let feed ← demand m.feedUmMin "linear production move has no integer feed"
    return line "G1 X" ++ " F".toList ++ formatMm feed

/-- The move lines, with a comment where an operation starts. -/
def moveLines (previous : String) : List ProductionMove → Except String (List (List Char))
  | [] => .ok []
  | m :: rest => do
    let line ← moveLine m
    let lines ← moveLines m.operationId rest
    if m.operationId = previous then return line :: lines
    else return comment "OPERATION_ID" (safeComment m.operationId).toList :: line :: lines

/-- `G53 G0 Z` to the tool-change height, as text. -/
def clearanceText (f : FixedLines) : List Char := "G53 G0 Z".toList ++ formatMm f.toolChangeZUm

/-- `G53 G0 X Y`, as text. -/
def traverseText (xUm yUm : Int) : List Char :=
  "G53 G0 X".toList ++ formatMm xUm ++ " Y".toList ++ formatMm yUm

def safeText (f : FixedLines) : List Char := "G0 Z".toList ++ formatMm f.safeZUm

/-- The lines from the first state line to the spin-up dwell. -/
def preambleText (f : FixedLines) : Except String (List (List Char)) := do
  let dwell ← formatSeconds f.spinupMs
  return canonicalStateLines ++
    [clearanceText f, traverseText f.toolChangeXUm f.toolChangeYUm,
      'T' :: intText f.toolNumber ++ " M6".toList] ++
    canonicalStateLines ++
    [clearanceText f, traverseText f.entryXUm f.entryYUm,
      "G43 H".toList ++ intText f.lengthOffsetNumber, (wcsText f.wcs).toList, safeText f,
      'S' :: intText f.spindleRpm ++ " M3".toList, "G4 P".toList ++ dwell]

def trailerText (f : FixedLines) : List (List Char) :=
  [safeText f, "M5".toList, "M9".toList, "G49".toList, clearanceText f, "M2".toList, ['%']]

/-- `str.encode("ascii")`. -/
def encodeAscii (text : List Char) : Except String (List UInt8) := do
  require (text.all fun c => c.toNat < 128) "ordinal not in range(128)"
  return text.map fun c => UInt8.ofNat c.toNat

/-! ## File names -/

def isFilenameChar (c : Char) : Bool := c.isAlphanum || c == '.' || c == '_' || c == '-'

/-- `re.sub(r"[^A-Za-z0-9._-]+", "_", value)`; `inRun` is set inside a run of other characters. -/
def collapseOthers (inRun : Bool) : List Char → List Char
  | [] => []
  | c :: cs =>
    if isFilenameChar c then c :: collapseOthers false cs
    else if inRun then collapseOthers true cs else '_' :: collapseOthers true cs

/-- `_safe_filename_component`. -/
def safeFilenameComponent (env : FingerprintEnv) (value : String) : List Char :=
  let edge := fun c : Char => c == '.' || c == '_'
  let stripped := (((collapseOthers false value.toList).dropWhile edge).reverse.dropWhile
    edge).reverse
  let cleaned := if stripped.isEmpty then "program".toList else stripped
  if cleaned = value.toList ∧ cleaned.length ≤ 64 then cleaned
  else cleaned.take 48 ++ '-' :: (env.filenameDigest value).toList

/-- The ordinal of a program with at least three digits. -/
def runOrdinal (n : Nat) : List Char :=
  List.replicate (3 - (Nat.toDigits 10 n).length) '0' ++ Nat.toDigits 10 n

def filenameOf (env : FingerprintEnv) (program : ProductionProgram) : List Char :=
  runOrdinal program.runOrder ++ '.' :: (safeFilenameComponent env program.setupId ++
    '.' :: (safeFilenameComponent env program.toolId ++ ".production.ngc".toList))

/-! ## The postprocessor -/

structure ProductionMachineProgram where
  filename : List Char
  programId : String
  runOrder : Nat
  setupId : String
  toolId : String
  controller : String
  controllerVersion : String
  postprocessorId : String
  postprocessorVersion : String
  sourceToolpathsSha256 : String
  productionMachineProfileSha256 : String
  content : List UInt8

/-- `ProductionMachineProgram.__post_init__`. -/
def ProductionMachineProgram.check (p : ProductionMachineProgram) : Except String Unit := do
  forEach (fun item => require (isIdentity item.2) (item.1 ++ " must be a canonical identity"))
    [("program_id", p.programId), ("setup_id", p.setupId), ("tool_id", p.toolId),
      ("controller", p.controller), ("controller_version", p.controllerVersion),
      ("postprocessor_id", p.postprocessorId), ("postprocessor_version", p.postprocessorVersion)]
  require (!p.filename.contains '/' && !p.filename.contains '\\' &&
      ".production.ngc".toList.isSuffixOf p.filename)
    "production program filename is not canonical"
  require (1 ≤ p.runOrder) "production program run_order must be a positive integer"
  require ((runOrdinal p.runOrder ++ ['.']).isPrefixOf p.filename)
    "production program filename must bind its run_order ordinal"
  require (isSha256 p.sourceToolpathsSha256)
    "production program requires the exact toolpath-document hash"
  require (isSha256 p.productionMachineProfileSha256)
    "production program requires the exact machine-profile config hash"
  require (!p.content.isEmpty) "production program content must be non-empty bytes"

section
variable (env : FingerprintEnv) (profile : LinuxCNCProductionMachineProfile)
  (doc : ProductionToolpathDocument)

/-- The binding of the profile to the context. -/
def requireProfileMatchesContext : Except String Unit := do
  let ctx := doc.executionContext
  require (ctx.controllerId.toLower = "linuxcnc")
    "LinuxCNC production postprocessor requires an exact LinuxCNC controller binding"
  require (profile.machineProfileId = ctx.machineProfileId &&
      profile.machineProfileVersion = ctx.machineProfileVersion &&
      profile.controllerId = ctx.controllerId &&
      profile.controllerVersion = ctx.controllerVersion &&
      profile.minForwardVelocityRpm = ctx.minSpindleRpm &&
      profile.maxForwardVelocityRpm = ctx.maxSpindleRpm &&
      profile.machineXMinUm = ctx.machineXMinUm && profile.machineXMaxUm = ctx.machineXMaxUm &&
      profile.machineYMinUm = ctx.machineYMinUm && profile.machineYMaxUm = ctx.machineYMaxUm &&
      profile.machineZMinUm = ctx.machineZMinUm && profile.machineZMaxUm = ctx.machineZMaxUm)
    "LinuxCNC production machine profile does not exactly match the toolpath context"
  require ((ctx.setups.map BoundSetup.setupId).dedup.length = ctx.setups.length &&
      (ctx.toolBindings.map ProductionToolBinding.toolId).dedup.length = ctx.toolBindings.length)
    "production context contains duplicate setup or tool bindings"

/-- `_require_exact_setup_offset_and_clearance`. -/
def requireExactSetupOffsetAndClearance (setup : BoundSetup) (tool : ProductionToolBinding) :
    Except String Unit := do
  let offset ← demand (onlyOne (profile.wcsOffsets.filter fun o => o.wcs = setup.wcs))
    ("setup WCS " ++ wcsText setup.wcs ++ " has no unique attested machine-coordinate offset")
  require (offset.machineX0Um = setup.machineWcsOrigin.xUm &&
      offset.machineY0Um = setup.machineWcsOrigin.yUm && offset.machineZ0Um = setup.machineWcsZ0Um)
    ("setup WCS " ++ wcsText setup.wcs ++ " differs from its attested machine-coordinate offset")
  let safeZ := setup.machineWcsZ0Um + setup.safeZUm + tool.expectedLengthOffsetZUm
  require (profile.machineZMinUm ≤ safeZ && safeZ ≤ profile.machineZMaxUm)
    "G43-transformed setup safe Z leaves machine bounds"
  require (!(profile.toolChangeZUm < safeZ))
    "attested G53 tool-change traverse is below the setup safe plane"

/-- `_require_program_entry`: the first move, whose machine position is inside the bounds. -/
def requireProgramEntry (setup : BoundSetup) (program : ProductionProgram)
    (tool : ProductionToolBinding) : Except String ProductionMove := do
  let first ← demand program.moves.head? "production program has no bound entry move"
  require (first.kind = .rapid && first.role = .position && first.zUm = setup.safeZUm)
    "the first planned move must position at the established setup safe Z"
  let x := entryMachineXUm setup tool first
  let y := entryMachineYUm setup tool first
  require (profile.machineXMinUm ≤ x && x ≤ profile.machineXMaxUm &&
      profile.machineYMinUm ≤ y && y ≤ profile.machineYMaxUm)
    "program-entry G53 XY leaves absolute machine bounds"
  return first

/-- The text of one program. -/
def programText (program : ProductionProgram) : Except String (List Char) := do
  let ctx := doc.executionContext
  let unresolved := "production program references an unresolved setup, tool or recipe"
  let setup ← demand (ctx.setupById program.setupId) unresolved
  let tool ← demand (ctx.toolById program.toolId) unresolved
  let recipes ← demand (program.recipeIds.mapM ctx.recipeById) unresolved
  let rpm ← demand (onlyOne (recipes.map CuttingRecipe.spindleRpm).dedup)
    "one setup/tool program requires one exact spindle speed across its recipes"
  require (profile.supportedWcs.contains setup.wcs)
    ("setup WCS " ++ wcsText setup.wcs ++ " is not attested by the production machine profile")
  requireExactSetupOffsetAndClearance profile setup tool
  let first ← requireProgramEntry profile setup program tool
  let f := fixedLines profile setup tool first rpm
  let preamble ← preambleText f
  let body ← moveLines "" program.moves
  return joinLines (identityHeader env safeComment doc program profile setup tool first ++
    preamble ++ body ++ trailerText f)

/-- One iteration of `generate`: the program, its file name being new. -/
def generateProgram (filenames : List (List Char)) (program : ProductionProgram) :
    Except String ProductionMachineProgram := do
  let text ← programText env profile doc program
  let content ← encodeAscii text
  require (!filenames.contains (filenameOf env program))
    "production program filenames are not unique"
  let _ ← validateProductionProgram env doc profile (.bytes content) program
  let output : ProductionMachineProgram :=
    { filename := filenameOf env program
      programId := program.programId
      runOrder := program.runOrder
      setupId := program.setupId
      toolId := program.toolId
      controller := doc.executionContext.controllerId
      controllerVersion := doc.executionContext.controllerVersion
      postprocessorId := linuxcncProductionPostprocessorId
      postprocessorVersion := linuxcncProductionPostprocessorVersion
      sourceToolpathsSha256 := env.documentFingerprint doc
      productionMachineProfileSha256 := env.configSha256 profile
      content := content }
  output.check
  return output

/-- The loop of `generate`. -/
def generatePrograms (filenames : List (List Char)) :
    List ProductionProgram → Except String (List ProductionMachineProgram)
  | [] => .ok []
  | program :: rest => do
    let output ← generateProgram env profile doc filenames program
    let outputs ← generatePrograms (output.filename :: filenames) rest
    return output :: outputs

/-- `LinuxCNCProductionPostprocessor.generate`. -/
def generate : Except String (List ProductionMachineProgram) := do
  requireProfileMatchesContext profile doc
  let outputs ← generatePrograms env profile doc [] doc.programs
  require (outputs.map ProductionMachineProgram.runOrder =
      (List.range outputs.length).map (· + 1))
    "production programs are not in canonical run order"
  return outputs

end

/-! ## A pocket run -/

namespace PocketRun

def move (sequence : Nat) (kind : ProductionMoveKind) (role : ProductionMoveRole) (x y z : Int)
    (feed : Option Int) : ProductionMove :=
  ⟨sequence, "pocket-1", 1, kind, role, x, y, z, feed⟩

def program : ProductionProgram where
  programId := "run-001"
  runOrder := 1
  setupId := "setup:sheet:001:A"
  toolId := "router6"
  toolVersion := "1"
  recipeIds := ["pocket"]
  operationIds := ["pocket-1"]
  releaseOperationIds := []
  moves := [move 1 .rapid .position 20000 30000 15000 none,
    move 2 .rapid .position 40000 30000 15000 none,
    move 3 .rapid .approach 40000 30000 2000 none,
    move 4 .linear .cut 40000 30000 (-1500) (some 500000),
    move 5 .linear .cut 60000 30000 (-1500) (some 1500000),
    move 6 .rapid .retract 60000 30000 15000 none]

def document : ProductionToolpathDocument where
  designHash := PanelJob.digest
  operationsSha256 := PanelJob.digest
  executionContext := PanelJob.context
  programs := [program]
  hashes_valid := PanelJob.isSha256_digests
  nonempty := by simp
  programs_wf := by decide +kernel
  run_dense := rfl
  programs_nodup := by simp
  operations_nodup := by decide +kernel
  bindings := by decide +kernel
  release_last := by decide +kernel

def profile : LinuxCNCProductionMachineProfile where
  profileId := "router"
  version := "1"
  machineProfileId := "router"
  machineProfileVersion := "1"
  controllerId := "linuxcnc"
  controllerVersion := "2.9.4"
  minForwardVelocityRpm := 6000
  maxForwardVelocityRpm := 24000
  wcsOffsets := [⟨.g54, 100000, 100000, 0⟩]
  machineXMinUm := 0
  machineXMaxUm := 2500000
  machineYMinUm := 0
  machineYMaxUm := 1300000
  machineZMinUm := 0
  machineZMaxUm := 150000
  toolChangeXUm := 10000
  toolChangeYUm := 10000
  toolChangeZUm := 140000
  spindleSpinupMs := 3000
  g53ToolChangePathClearanceEvidenceSha256 := PanelJob.digest
  wcsOffsetsEvidenceSha256 := PanelJob.digest
  g52G92OffsetResetEvidenceSha256 := PanelJob.digest
  feedSpindleOverrideEvidenceSha256 := PanelJob.digest
  externalAxisOffsetEvidenceSha256 := PanelJob.digest
  homingPreflightEvidenceSha256 := PanelJob.digest
  programRestartEvidenceSha256 := PanelJob.digest
  m6ToolTableEvidenceSha256 := PanelJob.digest
  m6WcsTableEvidenceSha256 := PanelJob.digest
  metricXyzIdentityKinematicsEvidenceSha256 := PanelJob.digest
  spindleFeedbackSource := "encoder"
  spindleAtSpeedEvidenceSha256 := PanelJob.digest
  spindleAtSpeedTolerancePpm := 50000
  continuousSpindleSpeedInterlockEvidenceSha256 := PanelJob.digest
  ids_valid := by decide +kernel
  controller_linuxcnc := by decide +kernel
  controller_version := rfl
  velocity_range := by decide
  wcs_nonempty := by simp
  wcs_sorted := by simp
  x_range := by decide
  y_range := by decide
  z_range := by decide
  origins_inside := by decide
  spinup_range := by decide
  tolerance_range := by decide
  hashes_valid := by simp [PanelJob.isSha256_digest]

def env : FingerprintEnv where
  documentFingerprint _ := PanelJob.digest
  machineProfileFingerprint _ := PanelJob.digest
  configSha256 _ := PanelJob.digest
  runtimeContractSha256 _ := PanelJob.digest
  filenameDigest _ := "0a1b2c3d"

end PocketRun

end Custombuild.Postprocessors
