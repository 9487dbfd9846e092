/-
  Reference semantics of the G-code words that a production program may use.  The machine
  keeps its exact position in millimetres of the machine frame and the modal state of the
  controller; one line is executed in the order of the controller: speed and tool, tool
  change, spindle, dwell, units, length offset, work offset, distance mode, offset reset,
  motion.

  A line with G53 moves in machine coordinates, every other motion to the programmed
  coordinate plus the live offsets.  M6 may be remapped: it keeps the position and loads the
  selected tool, every other mode may change.
-/
import Custombuild.Lib.Along
import Custombuild.Postprocessors.Validator

namespace Custombuild.Postprocessors

open Custombuild.Lib Custombuild.Manufacturing Custombuild.Cam

@[ext]
structure Position where
  x : ℚ
  y : ℚ
  z : ℚ
deriving DecidableEq

namespace Position

instance : Zero Position := ⟨⟨0, 0, 0⟩⟩
instance : Add Position := ⟨fun p q => ⟨p.x + q.x, p.y + q.y, p.z + q.z⟩⟩

@[simp] theorem zero_x : (0 : Position).x = 0 := rfl
@[simp] theorem zero_y : (0 : Position).y = 0 := rfl
@[simp] theorem zero_z : (0 : Position).z = 0 := rfl
@[simp] theorem add_x (p q : Position) : (p + q).x = p.x + q.x := rfl
@[simp] theorem add_y (p q : Position) : (p + q).y = p.y + q.y := rfl
@[simp] theorem add_z (p q : Position) : (p + q).z = p.z + q.z := rfl

/-- A position given in micrometres. -/
def ofUm (x y z : Int) : Position := ⟨x / 1000, y / 1000, z / 1000⟩

end Position

/-! ## Controller state -/

structure MachineState where
  position : Position
  metric : Bool
  absolute : Bool
  motion : Option ProductionMoveKind
  wcs : Wcs
  g92Offset : Position
  selectedTool : ℚ
  loadedTool : ℚ
  lengthOffset : Option ℚ
  speed : ℚ
  spindle : Option ℚ
  dwelled : ℚ

/-- The tables of a controller, and what its M6 does to the modes. -/
structure ControllerTables where
  workOffset : Wcs → Position
  toolOffset : ℚ → Position
  remap : MachineState → MachineState

/-- The work offsets of the attested profile and the tool table of the bound context. -/
def boundTables (profile : LinuxCNCProductionMachineProfile) (ctx : ProductionExecutionContext)
    (remap : MachineState → MachineState) : ControllerTables where
  workOffset wcs :=
    match profile.wcsOffsets.find? fun o => o.wcs = wcs with
    | some o => Position.ofUm o.machineX0Um o.machineY0Um o.machineZ0Um
    | none => 0
  toolOffset h :=
    match ctx.toolBindings.find? fun b => (b.lengthOffsetNumber : ℚ) = h with
    | some b => Position.ofUm b.expectedLengthOffsetXUm b.expectedLengthOffsetYUm
        b.expectedLengthOffsetZUm
    | none => 0
  remap := remap

/-! ## Words -/

def wordG (words : List GCodeWord) (n : Int) : Bool := hasWord words 'G' (Dec.ofInt n)
def wordM (words : List GCodeWord) (n : Int) : Bool := hasWord words 'M' (Dec.ofInt n)

/-- The number after a letter, where the line has one. -/
def numberOf (words : List GCodeWord) (letter : Char) : Option ℚ :=
  (wordValues words letter).head?.map Dec.value

/-- The work coordinate system that a line selects. -/
def selectedWcs (words : List GCodeWord) : Option Wcs :=
  [Wcs.g54, .g55, .g56, .g57, .g58, .g59].find? fun w => wordG words (wcsNumber w)

/-- The mode of motion that a line selects, given the one before it. -/
def motionMode (words : List GCodeWord) (before : Option ProductionMoveKind) :
    Option ProductionMoveKind :=
  if wordG words 0 then some .rapid
  else if wordG words 1 then some .linear
  else if wordG words 80 then none
  else before

/-! ## Execution of one line -/

section
variable (t : ControllerTables) (words : List GCodeWord)

/-- S and T words, then M6. -/
def changeTool (s : MachineState) : MachineState :=
  let s := { s with
    speed := (numberOf words 'S').getD s.speed
    selectedTool := (numberOf words 'T').getD s.selectedTool }
  if wordM words 6 then
    { t.remap s with position := s.position, loadedTool := s.selectedTool }
  else s

/-- M3, M5 and G4: the dwell is counted from the start of the spindle. -/
def turnSpindle (s : MachineState) : MachineState :=
  let s :=
    if wordM words 3 then { s with spindle := some s.speed, dwelled := 0 }
    else if wordM words 5 then { s with spindle := none, dwelled := 0 }
    else s
  if wordG words 4 then { s with dwelled := s.dwelled + (numberOf words 'P').getD 0 } else s

/-- The modes that a line sets before it moves. -/
def setModes (s : MachineState) : MachineState :=
  { s with
    metric := if wordG words 21 then true else if wordG words 20 then false else s.metric
    lengthOffset :=
      if wordG words 43 then some ((numberOf words 'H').getD s.loadedTool)
      else if wordG words 49 then none
      else s.lengthOffset
    wcs := (selectedWcs words).getD s.wcs
    absolute := if wordG words 90 then true else if wordG words 91 then false else s.absolute
    g92Offset := if hasWord words 'G' ⟨921, 1⟩ then 0 else s.g92Offset
    motion := motionMode words s.motion }

/-- The sum of the live offsets. -/
def liveOffset (s : MachineState) : Position :=
  t.workOffset s.wcs + s.g92Offset +
    match s.lengthOffset with
    | some h => t.toolOffset h
    | none => 0

/-- The coordinate that an axis reaches. -/
def axisTarget (s : MachineState) (letter : Char) (current offset : ℚ) : ℚ :=
  match numberOf words letter with
  | none => current
  | some v =>
    let v := if s.metric then v else v * 254 / 10
    if wordG words 53 then v else if s.absolute then offset + v else current + v

/-- The motion of a line; without a mode of motion its axis words do not move. -/
def moveAxes (s : MachineState) : MachineState :=
  if s.motion.isSome then
    { s with position :=
      ⟨axisTarget words s 'X' s.position.x (liveOffset t s).x,
        axisTarget words s 'Y' s.position.y (liveOffset t s).y,
        axisTarget words s 'Z' s.position.z (liveOffset t s).z⟩ }
  else s

def execute (s : MachineState) : MachineState :=
  moveAxes t words (setModes words (turnSpindle words (changeTool t words s)))

end

/-! ## Equal numbers -/

/-- Letters and numbers of a line; the execution reads nothing else of it. -/
def signature (words : List GCodeWord) : List (Char × ℚ) :=
  words.map fun w => (w.letter, w.value.value)

theorem sameWords_iff {k l : List GCodeWord} :
    sameWords k l = true ↔ signature k = signature l := by
  induction k generalizing l with
  | nil => cases l <;> simp [sameWords, signature]
  | cons w k ih =>
    cases l with
    | nil => simp [sameWords, signature]
    | cons v l =>
      have ih := ih (l := l)
      simp only [sameWords, signature, Bool.and_eq_true, decide_eq_true_eq] at ih
      simp only [sameWords, signature, List.length_cons, List.zip_cons_cons, List.all_cons,
        Bool.and_eq_true, decide_eq_true_eq, Dec.same_iff, Nat.add_right_cancel_iff,
        List.map_cons, List.cons.injEq, Prod.mk.injEq, ← ih]
      tauto

theorem hasLetter_eq_signature (words : List GCodeWord) (c : Char) :
    hasLetter words c = (signature words).any fun p => p.1 = c := by
  simp [hasLetter, signature, List.any_map, Function.comp_def]

theorem hasWord_eq_signature (words : List GCodeWord) (c : Char) (d : Dec) :
    hasWord words c d = (signature words).any fun p => p.1 = c ∧ p.2 = d.value := by
  rw [Bool.eq_iff_iff]
  simp only [hasWord, wordValues, signature, List.any_eq_true, List.mem_map, List.mem_filter,
    decide_eq_true_eq, Dec.same_iff]
  constructor
  · rintro ⟨_, ⟨w, ⟨hw, hc⟩, rfl⟩, hv⟩
    exact ⟨_, ⟨w, hw, rfl⟩, hc, hv⟩
  · rintro ⟨_, ⟨w, hw, rfl⟩, hc, hv⟩
    exact ⟨_, ⟨w, ⟨hw, hc⟩, rfl⟩, hv⟩

theorem values_eq_signature (words : List GCodeWord) (c : Char) :
    (wordValues words c).map Dec.value =
      ((signature words).filter fun p => p.1 = c).map Prod.snd := by
  simp [wordValues, signature, List.filter_map, Function.comp_def]

section
variable {k l : List GCodeWord}

theorem hasLetter_congr (h : signature k = signature l) (c : Char) :
    hasLetter k c = hasLetter l c := by
  rw [hasLetter_eq_signature, hasLetter_eq_signature, h]

theorem hasWord_congr (h : signature k = signature l) (c : Char) (d : Dec) :
    hasWord k c d = hasWord l c d := by
  rw [hasWord_eq_signature, hasWord_eq_signature, h]

theorem values_congr (h : signature k = signature l) (c : Char) :
    (wordValues k c).map Dec.value = (wordValues l c).map Dec.value := by
  rw [values_eq_signature, values_eq_signature, h]

theorem numberOf_congr (h : signature k = signature l) (c : Char) :
    numberOf k c = numberOf l c := by
  unfold numberOf
  rw [← List.head?_map, ← List.head?_map, values_congr h]

/-- Lines with one signature are executed alike. -/
theorem execute_congr (t : ControllerTables) (h : signature k = signature l) :
    execute t k = execute t l := by
  have hG : wordG k = wordG l := funext fun n => hasWord_congr h 'G' _
  have hM : wordM k = wordM l := funext fun n => hasWord_congr h 'M' _
  have hN : numberOf k = numberOf l := funext fun c => numberOf_congr h c
  have h92 : hasWord k 'G' ⟨921, 1⟩ = hasWord l 'G' ⟨921, 1⟩ := hasWord_congr h 'G' _
  funext s
  simp only [execute, changeTool, turnSpindle, setModes, moveAxes, axisTarget, motionMode,
    selectedWcs, hG, hM, hN, h92]

end

end Custombuild.Postprocessors
