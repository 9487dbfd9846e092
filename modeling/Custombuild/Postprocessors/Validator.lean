/-
  The production G-code validator.  Source: `parse_production_program`,
  `validate_production_program` and their helpers in
  `custombuild_postprocessors.production_parser`.
-/
import Custombuild.Postprocessors.Header
import Custombuild.Postprocessors.PlannedMotion

namespace Custombuild.Postprocessors

open Custombuild.Lib Custombuild.Manufacturing Custombuild.Cam

/-! ## Admissible words -/

/-- `_ALLOWED_G`. -/
def allowedG : List Dec :=
  ⟨921, 1⟩ :: [0, 1, 4, 8, 17, 21, 40, 43, 49, 53, 54, 55, 56, 57, 58, 59, 61, 80, 90, 94, 97].map
    Dec.ofInt

/-- `_ALLOWED_M`. -/
def allowedM : List Dec := [2, 3, 5, 6, 9, 49, 52, 53].map Dec.ofInt

/-- `_ALLOWED_LETTERS`. -/
def allowedLetters : List Char := ['F', 'G', 'H', 'M', 'P', 'S', 'T', 'X', 'Y', 'Z']

/-- A number of a G or M word that is not in the list of admissible ones. -/
def requireAllowedNumber (letter : Char) (allowed : List Dec) (line : Nat) (w : GCodeWord) :
    Except String Unit :=
  require (!(w.letter = letter && !allowed.any fun d => w.value.same d))
    (String.singleton letter ++ String.ofList (plainText w.value) ++
      " is forbidden in production output at line " ++ toString line)

/-- `_require_whitelisted_words` on one line. -/
def requireWhitelistedLine (line : ParsedLine) : Except String Unit := do
  let unknown := (line.words.map GCodeWord.letter).filter fun c => !allowedLetters.contains c
  require unknown.isEmpty
    ("word(s) " ++ ", ".intercalate ((sortBy Char.toNat unknown.dedup).map String.singleton) ++
      " are forbidden in production output at line " ++ toString line.lineNumber)
  forEach (fun w => do
      requireAllowedNumber 'G' allowedG line.lineNumber w
      requireAllowedNumber 'M' allowedM line.lineNumber w) line.words
  require (line.words.all fun w =>
      w.letter = 'G' || (wordValues line.words w.letter).length = 1)
    ("duplicate word at line " ++ toString line.lineNumber)

/-- `parse_production_program`. -/
def parseProductionText (text : List Char) : Except String (List ParsedLine) := do
  requireCanonicalLexicalForm text
  requirePercentEnvelope text
  forEach (requireMarker text) markers
  let lines ← parseGcode text
  require (!lines.isEmpty) "production program contains no executable lines"
  forEach requireWhitelistedLine lines
  return lines

def parseProductionProgram (payload : Payload) : Except String (List ParsedLine) := do
  let text ← asciiText payload
  parseProductionText text

/-! ## The fixed lines -/

def gWord (n : Int) : GCodeWord := ⟨'G', Dec.ofInt n⟩
def mWord (n : Int) : GCodeWord := ⟨'M', Dec.ofInt n⟩

/-- `_MODAL_PREAMBLE`. -/
def modalPreamble : List (List GCodeWord) :=
  [[gWord 21], [gWord 8], [gWord 17, gWord 40, gWord 49, gWord 80, gWord 90, gWord 94, gWord 97],
    [gWord 61], [mWord 5], [mWord 9], [mWord 49], [mWord 52, ⟨'P', Dec.ofInt 0⟩],
    [mWord 53, ⟨'P', Dec.ofInt 1⟩], [⟨'G', ⟨921, 1⟩⟩]]

/-- The values that the fixed lines of a program repeat from its plan. -/
structure FixedLines where
  toolChangeXUm : Int
  toolChangeYUm : Int
  toolChangeZUm : Int
  entryXUm : Int
  entryYUm : Int
  safeZUm : Int
  toolNumber : Nat
  lengthOffsetNumber : Nat
  wcs : Wcs
  spindleRpm : Int
  spinupMs : Int

namespace FixedLines

variable (f : FixedLines)

/-- `G53 G0 Z` to the tool-change height. -/
def clearanceLine : List GCodeWord := [gWord 53, gWord 0, ⟨'Z', thousandths f.toolChangeZUm⟩]

/-- `G53 G0 X Y` to the tool-change position. -/
def toolChangeLine : List GCodeWord :=
  [gWord 53, gWord 0, ⟨'X', thousandths f.toolChangeXUm⟩, ⟨'Y', thousandths f.toolChangeYUm⟩]

def selectLine : List GCodeWord := [⟨'T', Dec.ofInt f.toolNumber⟩, mWord 6]

/-- `G53 G0 X Y` to the program entry. -/
def entryLine : List GCodeWord :=
  [gWord 53, gWord 0, ⟨'X', thousandths f.entryXUm⟩, ⟨'Y', thousandths f.entryYUm⟩]

def lengthLine : List GCodeWord := [gWord 43, ⟨'H', Dec.ofInt f.lengthOffsetNumber⟩]

def wcsLine : List GCodeWord := [gWord (wcsNumber f.wcs)]

/-- `G0 Z` to the safe plane of the setup. -/
def safeLine : List GCodeWord := [gWord 0, ⟨'Z', thousandths f.safeZUm⟩]

def spindleLine : List GCodeWord := [⟨'S', Dec.ofInt f.spindleRpm⟩, mWord 3]

def dwellLine : List GCodeWord := [gWord 4, ⟨'P', thousandths f.spinupMs⟩]

/-- The three lines between the two modal blocks. -/
def outbound : List (List GCodeWord) := [f.clearanceLine, f.toolChangeLine, f.selectLine]

/-- The seven lines after the second modal block. -/
def inbound : List (List GCodeWord) :=
  [f.clearanceLine, f.entryLine, f.lengthLine, f.wcsLine, f.safeLine, f.spindleLine, f.dwellLine]

/-- `expected_preamble`. -/
def preamble : List (List GCodeWord) := modalPreamble ++ f.outbound ++ modalPreamble ++ f.inbound

/-- `expected_trailer`. -/
def trailer : List (List GCodeWord) :=
  [f.safeLine, [mWord 5], [mWord 9], [gWord 49], f.clearanceLine, [mWord 2]]

end FixedLines

/-- Equality of two tuples of signatures. -/
def sameLines (k l : List (List GCodeWord)) : Bool :=
  k.length = l.length && (k.zip l).all fun p => sameWords p.1 p.2

/-- `_require_bound_preamble`. -/
def requireBoundPreamble (actual : List (List GCodeWord)) (f : FixedLines) :
    Except String Unit := do
  require (actual.length = f.preamble.length) "production program safety preamble is incomplete"
  require (sameLines (actual.take modalPreamble.length) modalPreamble)
    "production program modal safety preamble is not canonical"
  let outboundIndex := modalPreamble.length
  let postM6StateIndex := outboundIndex + 3
  let returnIndex := postM6StateIndex + modalPreamble.length
  require (sameLines ((actual.drop postM6StateIndex).take modalPreamble.length) modalPreamble)
    "post-M6 canonical state reassertion is incomplete"
  let checks : List (Nat × String) :=
    [(outboundIndex, "wrong outbound G53 tool-change Z position"),
      (outboundIndex + 1, "wrong G53 tool-change XY position"),
      (outboundIndex + 2, "wrong T/M6 tool selection; required T" ++ toString f.toolNumber),
      (returnIndex, "wrong post-M6 G53 return Z position"),
      (returnIndex + 1, "wrong post-M6 G53 program-entry XY position"),
      (returnIndex + 2, "wrong G43 H length offset; required H" ++ toString f.lengthOffsetNumber),
      (returnIndex + 3, "unexpected WCS; required " ++ wcsText f.wcs),
      (returnIndex + 4, "setup safe Z must be established after G43"),
      (returnIndex + 5, "wrong spindle command; required S" ++ toString f.spindleRpm ++ " M3"),
      (returnIndex + 6, "wrong spindle spin-up dwell; required " ++ toString f.spinupMs ++ " ms")]
  forEach (fun c => require (sameWords (actual.getD c.1 []) (f.preamble.getD c.1 [])) c.2) checks

/-! ## Round trip of the moves -/

structure ParsedProductionMove where
  lineNumber : Nat
  kind : ProductionMoveKind
  motion : Motion
deriving DecidableEq

/-- The letters of a motion line. -/
def motionLetters : ProductionMoveKind → List Char
  | .rapid => ['G', 'X', 'Y', 'Z']
  | .linear => ['G', 'X', 'Y', 'Z', 'F']

/-- The G number of a motion line. -/
def motionG : ProductionMoveKind → Int
  | .rapid => 0
  | .linear => 1

/-- `_word_um(words, "F", ...)` of a linear motion. -/
def feedOf (words : List GCodeWord) (line : Nat) : ProductionMoveKind → Except String (Option Int)
  | .rapid => .ok none
  | .linear => do
    let feed ← wordUm words 'F' line
    return some feed

/-- One iteration of the loop of `_validate_and_round_trip_moves`. -/
def roundTripMove (lim : MotionLimits) (previous : Int × Int × Int) (line : ParsedLine)
    (expected : ProductionMove) : Except String ParsedProductionMove := do
  require ((line.words.all fun w => (motionLetters expected.kind).contains w.letter) &&
      (motionLetters expected.kind).all (hasLetter line.words))
    ("motion has non-canonical words at line " ++ toString line.lineNumber)
  require (onlyWord line.words 'G' (Dec.ofInt (motionG expected.kind)))
    ("motion mode differs from plan at line " ++ toString line.lineNumber)
  let x ← wordUm line.words 'X' line.lineNumber
  let y ← wordUm line.words 'Y' line.lineNumber
  let z ← wordUm line.words 'Z' line.lineNumber
  let feed ← feedOf line.words line.lineNumber expected.kind
  checkMotion lim line.lineNumber previous expected.kind expected.role ⟨x, y, z, feed⟩
  require (Motion.mk x y z feed = plannedMotion expected)
    ("motion differs from immutable plan at line " ++ toString line.lineNumber)
  return ⟨line.lineNumber, expected.kind, ⟨x, y, z, feed⟩⟩

/-- The loop of `_validate_and_round_trip_moves`; its zip is strict. -/
def roundTripMoves (lim : MotionLimits) :
    Int × Int × Int → List ParsedLine → List ProductionMove →
      Except String (List ParsedProductionMove)
  | _, [], [] => .ok []
  | previous, line :: lines, expected :: rest => do
    let move ← roundTripMove lim previous line expected
    let moves ← roundTripMoves lim (move.motion.xUm, move.motion.yUm, move.motion.zUm) lines rest
    return move :: moves
  | _, [], _ :: _ => .error "zip() argument 2 is longer than argument 1"
  | _, _ :: _, [] => .error "zip() argument 2 is shorter than argument 1"

def validateAndRoundTripMoves (lim : MotionLimits) (body : List ParsedLine)
    (program : ProductionProgram) : Except String (List ParsedProductionMove) := do
  checkFirstMove lim program.moves
  roundTripMoves lim (0, 0, lim.safeZUm) body program.moves

/-! ## Modal execution -/

/-- The local variables of `_validate_modal_execution`. -/
structure ModalState where
  spindleOn : Bool := false
  toolLoaded : Bool := false
  lengthCompensation : Bool := false
  spindleSpinupComplete : Bool := false
  g52G92OffsetsCleared : Bool := false
  coolantOff : Bool := false
  feedAndSpindleOverridesDisabled : Bool := false
  adaptiveFeedDisabled : Bool := false
  feedHoldEnabled : Bool := false
  rpmMode : Bool := false
  radiusMode : Bool := false
  postM6ClearanceZReasserted : Bool := false
  programEntryReachedAtClearance : Bool := false
  currentWcsZUm : Option Int := none
  currentMachineXUm : Option Int := none
  currentMachineYUm : Option Int := none
  currentMachineZUm : Option Int := none
deriving DecidableEq

def hasAxisMotion (words : List GCodeWord) : Bool :=
  hasLetter words 'X' || hasLetter words 'Y' || hasLetter words 'Z'

/-- The modes that must be re-established before any motion. -/
def ModalState.runtimeModesReady (s : ModalState) : Bool :=
  s.g52G92OffsetsCleared && s.coolantOff && s.feedAndSpindleOverridesDisabled &&
    s.adaptiveFeedDisabled && s.feedHoldEnabled && s.rpmMode && s.radiusMode

section
variable (f : FixedLines) (line : ParsedLine)

/-- G92.1, G97, G8 and the preflight of a motion. -/
def modalPreflight (s : ModalState) : Except String ModalState := do
  require (!(hasWord line.words 'G' ⟨921, 1⟩ && hasAxisMotion line.words))
    "G92.1 offset reset cannot contain axis words"
  let s := { s with
    g52G92OffsetsCleared := s.g52G92OffsetsCleared || hasWord line.words 'G' ⟨921, 1⟩
    rpmMode := s.rpmMode || hasWord line.words 'G' (Dec.ofInt 97)
    radiusMode := s.radiusMode || hasWord line.words 'G' (Dec.ofInt 8) }
  require (!hasAxisMotion line.words || s.runtimeModesReady)
    ("motion precedes the canonical live-state preflight at line " ++ toString line.lineNumber)
  return s

/-- The coordinate of an axis after the line. -/
def axisUm (letter : Char) (current : Option Int) : Except String (Option Int) :=
  if hasLetter line.words letter then do
    let value ← wordUm line.words letter line.lineNumber
    return some value
  else .ok current

/-- G53 moves and Z words of other moves. -/
def modalPosition (s : ModalState) : Except String ModalState :=
  if hasWord line.words 'G' (Dec.ofInt 53) then do
    let x ← axisUm line 'X' s.currentMachineXUm
    let y ← axisUm line 'Y' s.currentMachineYUm
    let z ← axisUm line 'Z' s.currentMachineZUm
    let s := { s with
      currentMachineXUm := x
      currentMachineYUm := y
      currentMachineZUm := z
      postM6ClearanceZReasserted := s.postM6ClearanceZReasserted ||
        hasLetter line.words 'Z' && s.toolLoaded && z = some f.toolChangeZUm }
    if s.toolLoaded && (hasLetter line.words 'X' || hasLetter line.words 'Y') then do
      require (s.postM6ClearanceZReasserted && s.currentMachineZUm = some f.toolChangeZUm)
        "post-M6 G53 XY return requires reasserted global clearance Z"
      return { s with programEntryReachedAtClearance :=
        s.currentMachineXUm = some f.entryXUm && s.currentMachineYUm = some f.entryYUm }
    else return s
  else do
    let z ← axisUm line 'Z' s.currentWcsZUm
    return { s with currentWcsZUm := z }

/-- M5, M9, M49, M52 P0 and M53 P1. -/
def modalSwitches (s : ModalState) : ModalState :=
  { s with
    spindleOn := s.spindleOn && !onlyWord line.words 'M' (Dec.ofInt 5)
    coolantOff := s.coolantOff || onlyWord line.words 'M' (Dec.ofInt 9)
    feedAndSpindleOverridesDisabled :=
      s.feedAndSpindleOverridesDisabled || onlyWord line.words 'M' (Dec.ofInt 49)
    adaptiveFeedDisabled := s.adaptiveFeedDisabled ||
      onlyWord line.words 'M' (Dec.ofInt 52) && onlyWord line.words 'P' (Dec.ofInt 0)
    feedHoldEnabled := s.feedHoldEnabled ||
      onlyWord line.words 'M' (Dec.ofInt 53) && onlyWord line.words 'P' (Dec.ofInt 1) }

/-- M6: only the axis position survives a tool change, every mode has to be asserted again. -/
def modalToolChange (s : ModalState) : Except String ModalState :=
  if hasWord line.words 'M' (Dec.ofInt 6) then do
    require (!s.spindleOn && s.coolantOff && !s.lengthCompensation &&
        s.currentMachineXUm = some f.toolChangeXUm && s.currentMachineYUm = some f.toolChangeYUm &&
        s.currentMachineZUm = some f.toolChangeZUm)
      "M6 requires spindle/coolant off, G49 and the exact G53 tool-change position"
    return { ({} : ModalState) with
      toolLoaded := true
      postM6ClearanceZReasserted := s.postM6ClearanceZReasserted
      programEntryReachedAtClearance := s.programEntryReachedAtClearance
      currentMachineXUm := s.currentMachineXUm
      currentMachineYUm := s.currentMachineYUm
      currentMachineZUm := s.currentMachineZUm }
  else return s

/-- G43 and G49. -/
def modalLength (s : ModalState) : Except String ModalState := do
  require (!hasWord line.words 'G' (Dec.ofInt 43) || (s.toolLoaded &&
      s.programEntryReachedAtClearance && s.currentMachineZUm = some f.toolChangeZUm))
    "G43 requires the exact tool at the G53 program entry and clearance Z"
  let active := s.lengthCompensation || hasWord line.words 'G' (Dec.ofInt 43)
  return { s with lengthCompensation := active && !hasWord line.words 'G' (Dec.ofInt 49) }

/-- One positive spindle speed. -/
def positiveSpeed (words : List GCodeWord) : Bool :=
  match wordValues words 'S' with
  | [d] => 0 < d.coeff
  | _ => false

/-- M3. -/
def modalSpindle (s : ModalState) : Except String ModalState :=
  if hasWord line.words 'M' (Dec.ofInt 3) then do
    require (s.toolLoaded && s.lengthCompensation && positiveSpeed line.words &&
        s.currentWcsZUm = some f.safeZUm && s.feedAndSpindleOverridesDisabled &&
        s.adaptiveFeedDisabled && s.feedHoldEnabled && s.rpmMode)
      "M3 requires loaded tool, G43 H, setup safe Z and positive S"
    return { s with spindleOn := true, spindleSpinupComplete := false }
  else return s

/-- G4. -/
def modalDwell (s : ModalState) : Except String ModalState :=
  if hasWord line.words 'G' (Dec.ofInt 4) then do
    require s.spindleOn "G4 spindle dwell requires spindle on"
    return { s with spindleSpinupComplete := true }
  else return s

/-- A Z coordinate below the stock top. -/
def belowStockTop : Option Int → Bool
  | some z => z < 0
  | none => false

/-- The demands on a line of the body. -/
def modalBody (bodyNumbers : List Nat) (s : ModalState) : Except String Unit :=
  if bodyNumbers.contains line.lineNumber then do
    require (s.spindleOn && s.spindleSpinupComplete)
      ("planned motion requires completed spindle spin-up at line " ++ toString line.lineNumber)
    require (!(belowStockTop s.currentWcsZUm && !s.spindleOn))
      ("negative Z requires spindle on at line " ++ toString line.lineNumber)
  else .ok ()

/-- One iteration of `_validate_modal_execution`. -/
def modalStep (bodyNumbers : List Nat) (s : ModalState) : Except String ModalState := do
  let s ← modalPreflight line s
  let s ← modalPosition f line s
  let s ← modalToolChange f line (modalSwitches line s)
  let s ← modalLength f line s
  let s ← modalSpindle f line s
  let s ← modalDwell line s
  modalBody line bodyNumbers s
  return s

end

/-- The loop of `_validate_modal_execution`. -/
def modalRun (f : FixedLines) (bodyNumbers : List Nat) :
    List ParsedLine → ModalState → Except String ModalState
  | [], s => .ok s
  | line :: lines, s => do
    let s ← modalStep f line bodyNumbers s
    modalRun f bodyNumbers lines s

def validateModalExecution (f : FixedLines) (lines body : List ParsedLine) :
    Except String Unit := do
  let s ← modalRun f (body.map ParsedLine.lineNumber) lines {}
  require s.g52G92OffsetsCleared "production program did not clear live G52/G92 offsets"

/-! ## The validator -/

structure ParsedProductionProgram where
  lines : List ParsedLine
  moves : List ParsedProductionMove
  wcs : Wcs
  controllerToolNumber : Nat
  lengthOffsetNumber : Nat
  spindleRpm : Int
  spindleSpinupMs : Int
  productionMachineProfileSha256 : String
  physicalCuttingAuthorized : Bool := false

section
variable (env : FingerprintEnv) (doc : ProductionToolpathDocument)
  (profile : LinuxCNCProductionMachineProfile)

/-- `_require_machine_profile_binding`, and the spindle limits. -/
def requireMachineProfileBinding : Except String Unit := do
  let ctx := doc.executionContext
  require (profile.machineProfileId = ctx.machineProfileId &&
      profile.machineProfileVersion = ctx.machineProfileVersion &&
      profile.controllerId = ctx.controllerId &&
      profile.controllerVersion = ctx.controllerVersion)
    "LinuxCNC production machine profile does not exactly match the toolpath context"
  require (profile.workWidthUm = ctx.workWidthUm && profile.workHeightUm = ctx.workHeightUm &&
      profile.workZUm = ctx.workZUm)
    "LinuxCNC machine-axis bounds do not match the toolpath work envelope"
  require (profile.machineXMinUm = ctx.machineXMinUm && profile.machineXMaxUm = ctx.machineXMaxUm &&
      profile.machineYMinUm = ctx.machineYMinUm && profile.machineYMaxUm = ctx.machineYMaxUm &&
      profile.machineZMinUm = ctx.machineZMinUm && profile.machineZMaxUm = ctx.machineZMaxUm)
    "LinuxCNC absolute machine-axis bounds do not match the toolpath context"
  require (profile.minForwardVelocityRpm = ctx.minSpindleRpm &&
      profile.maxForwardVelocityRpm = ctx.maxSpindleRpm)
    "runtime spindle clamps differ from bound machine limits"

/-- The only element of a list. -/
def onlyOne {α : Type} : List α → Option α
  | [a] => some a
  | _ => none

/-- The work offset of a setup is the attested one, and the stock lies in the machine. -/
def requireSetupOffsets (setup : BoundSetup) (tool : ProductionToolBinding) :
    Except String Unit := do
  require (profile.supportedWcs.contains setup.wcs)
    ("setup WCS " ++ wcsText setup.wcs ++ " is not attested by the production machine profile")
  let offset ← demand (onlyOne (profile.wcsOffsets.filter fun o => o.wcs = setup.wcs))
    "setup WCS has no unique attested machine-coordinate offset"
  require (offset.machineX0Um = setup.machineWcsOrigin.xUm &&
      offset.machineY0Um = setup.machineWcsOrigin.yUm && offset.machineZ0Um = setup.machineWcsZ0Um)
    "setup WCS differs from its attested machine-coordinate offset"
  let x := setup.machineWcsOrigin.xUm + tool.expectedLengthOffsetXUm
  let y := setup.machineWcsOrigin.yUm + tool.expectedLengthOffsetYUm
  require (profile.machineXMinUm ≤ x && x ≤ x + setup.stockWidthUm &&
      x + setup.stockWidthUm ≤ profile.machineXMaxUm && profile.machineYMinUm ≤ y &&
      y ≤ y + setup.stockHeightUm && y + setup.stockHeightUm ≤ profile.machineYMaxUm)
    "G43-transformed setup WCS stock footprint leaves machine-coordinate bounds"
  let safeZ := setup.machineWcsZ0Um + setup.safeZUm + tool.expectedLengthOffsetZUm
  require (profile.machineZMinUm ≤ safeZ && safeZ ≤ profile.machineZMaxUm)
    "G43-transformed setup safe Z leaves machine-coordinate bounds"
  require (!(profile.toolChangeZUm < safeZ))
    "G53 tool-change traverse is below the setup safe plane"

/-- The recipes of a program, and its one spindle speed. -/
def requireRecipes (program : ProductionProgram) (setup : BoundSetup) : Except String Int := do
  let recipes ← demand (program.recipeIds.mapM doc.executionContext.recipeById)
    "production program references an unknown cutting recipe"
  require (recipes.all fun r => r.toolId = program.toolId && r.toolVersion = program.toolVersion &&
      r.materialId = setup.materialId && r.materialVersion = setup.materialVersion)
    "production program recipe binding is inconsistent"
  let rpm ← demand (onlyOne (recipes.map CuttingRecipe.spindleRpm).dedup)
    "one setup/tool program requires one exact spindle speed across its recipes"
  let allowedFeeds := recipes.flatMap fun r => [some r.feedUmMin, some r.plungeUmMin]
  require (program.moves.all fun m => !(m.kind = .linear && !allowedFeeds.contains m.feedUmMin))
    "planned feed is absent from the bound cutting recipes"
  return rpm

/-- The values of the fixed lines of a program. -/
def fixedLines (setup : BoundSetup) (tool : ProductionToolBinding) (first : ProductionMove)
    (rpm : Int) : FixedLines where
  toolChangeXUm := profile.toolChangeXUm
  toolChangeYUm := profile.toolChangeYUm
  toolChangeZUm := profile.toolChangeZUm
  entryXUm := entryMachineXUm setup tool first
  entryYUm := entryMachineYUm setup tool first
  safeZUm := setup.safeZUm
  toolNumber := tool.controllerToolNumber
  lengthOffsetNumber := tool.lengthOffsetNumber
  wcs := setup.wcs
  spindleRpm := rpm
  spinupMs := profile.spindleSpinupMs

/-- The lines between preamble and trailer. -/
def bodyLines (f : FixedLines) (lines : List ParsedLine) : List ParsedLine :=
  (lines.drop f.preamble.length).take (lines.length - f.preamble.length - f.trailer.length)

/-- The checks of the executable lines. -/
def validateLines (program : ProductionProgram) (setup : BoundSetup)
    (tool : ProductionToolBinding) (f : FixedLines) (lines : List ParsedLine) :
    Except String (List ParsedProductionMove) := do
  require (lines.length = f.preamble.length + program.moves.length + f.trailer.length)
    "production program executable structure has unexpected lines"
  let signatures := lines.map ParsedLine.words
  requireBoundPreamble (signatures.take f.preamble.length) f
  require (sameLines (signatures.drop (lines.length - f.trailer.length)) f.trailer)
    "production program safety trailer is not canonical"
  let moves ← validateAndRoundTripMoves (motionLimits doc.executionContext setup tool)
    (bodyLines f lines) program
  validateModalExecution f lines (bodyLines f lines)
  return moves

/-- `validate_production_program`. -/
def validateProductionProgram (payload : Payload) (program : ProductionProgram) :
    Except String ParsedProductionProgram := do
  require (doc.programs.contains program) "planned program is absent from the toolpath document"
  let ctx := doc.executionContext
  requireMachineProfileBinding doc profile
  let setup ← demand (onlyOne (ctx.setups.filter fun s => s.setupId = program.setupId))
    "production program setup or tool binding is not unique"
  let tool ← demand (onlyOne (ctx.toolBindings.filter fun t => t.toolId = program.toolId))
    "production program setup or tool binding is not unique"
  requireSetupOffsets profile setup tool
  require (tool.toolVersion = program.toolVersion)
    "production program tool version differs from its binding"
  let rpm ← requireRecipes doc program setup
  let text ← asciiText payload
  let lines ← parseProductionText text
  let first ← demand program.moves.head? "tuple index out of range"
  requireIdentityHeader text (identityHeader env id doc program profile setup tool first) program
  requireOperationCommentSequence text program
  let f := fixedLines profile setup tool first rpm
  require (profile.machineXMinUm ≤ f.entryXUm && f.entryXUm ≤ profile.machineXMaxUm &&
      profile.machineYMinUm ≤ f.entryYUm && f.entryYUm ≤ profile.machineYMaxUm)
    "program-entry G53 XY leaves absolute machine bounds"
  let moves ← validateLines doc program setup tool f lines
  return {
    lines := lines
    moves := moves
    wcs := setup.wcs
    controllerToolNumber := tool.controllerToolNumber
    lengthOffsetNumber := tool.lengthOffsetNumber
    spindleRpm := rpm
    spindleSpinupMs := profile.spindleSpinupMs
    productionMachineProfileSha256 := env.configSha256 profile }

end

end Custombuild.Postprocessors
