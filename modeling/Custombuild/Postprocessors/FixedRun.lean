/-
  The fixed lines of a production program, executed.  The modal blocks put the controller in
  a known state without moving; the lines around M6 move to the tool-change position and to
  the program entry at the tool-change height; the last lines activate length offset, work
  offset and spindle at the safe plane.
-/
import Custombuild.Postprocessors.Machine

namespace Custombuild.Postprocessors

open Custombuild.Lib Custombuild.Manufacturing Custombuild.Cam

section
variable (t : ControllerTables) (f : FixedLines) (s : MachineState)

/-! ## Single lines -/

@[simp] theorem same_reset_ofInt (n : Int) :
    Dec.same ⟨921, 1⟩ (Dec.ofInt n) = decide (921 = n * 10) := by
  simp [Dec.same, Dec.ofInt]

@[simp] theorem same_ofInt_reset (n : Int) :
    Dec.same (Dec.ofInt n) ⟨921, 1⟩ = decide (n * 10 = 921) := by
  simp [Dec.same, Dec.ofInt]

theorem numberOf_eq_none {words : List GCodeWord} {c : Char} (h : hasLetter words c = false) :
    numberOf words c = none := by
  unfold numberOf
  rw [wordValues_eq_nil.mpr h]
  rfl

/-- A line without axis words does not move. -/
theorem execute_of_no_axis {words : List GCodeWord} (h : hasAxisMotion words = false) :
    execute t words s = setModes words (turnSpindle words (changeTool t words s)) := by
  simp only [hasAxisMotion, Bool.or_eq_false_iff] at h
  obtain ⟨⟨hx, hy⟩, hz⟩ := h
  unfold execute
  generalize setModes words (turnSpindle words (changeTool t words s)) = s
  simp only [moveAxes, axisTarget, numberOf_eq_none hx, numberOf_eq_none hy, numberOf_eq_none hz,
    ite_self]

/-- A modal block sets the modes and does not move. -/
theorem run_modalPreamble : runAll (execute t) s modalPreamble = { s with
    metric := true
    absolute := true
    motion := none
    lengthOffset := none
    spindle := none
    dwelled := 0
    g92Offset := 0 } := by
  simp [modalPreamble, execute_of_no_axis, hasAxisMotion, changeTool, turnSpindle, setModes,
    motionMode, selectedWcs, wordG, wordM, numberOf, gWord, mWord, wcsNumber]

theorem execute_modal {words : List GCodeWord} (h : words ∈ modalPreamble) :
    (execute t words s).position = s.position ∧ wordM words 6 = false := by
  simp only [modalPreamble, List.mem_cons, List.not_mem_nil, or_false] at h
  rcases h with rfl | rfl | rfl | rfl | rfl | rfl | rfl | rfl | rfl | rfl <;>
    simp [execute, changeTool, turnSpindle, setModes, moveAxes, axisTarget, wordG, wordM,
      numberOf, gWord, mWord]

theorem execute_clearanceLine (hs : s.metric = true) :
    execute t f.clearanceLine s = { s with
      motion := some .rapid
      position := ⟨s.position.x, s.position.y, (thousandths f.toolChangeZUm).value⟩ } := by
  simp [FixedLines.clearanceLine, execute, changeTool, turnSpindle, setModes, moveAxes,
    axisTarget, motionMode, selectedWcs, wordG, wordM, numberOf, gWord, wcsNumber, hs]

/-- A line that moves to an XY position of the machine frame. -/
theorem execute_traverse (x y : Dec) (hs : s.metric = true) :
    execute t [gWord 53, gWord 0, ⟨'X', x⟩, ⟨'Y', y⟩] s = { s with
      motion := some .rapid
      position := ⟨x.value, y.value, s.position.z⟩ } := by
  simp [execute, changeTool, turnSpindle, setModes, moveAxes, axisTarget, motionMode,
    selectedWcs, wordG, wordM, numberOf, gWord, wcsNumber, hs]

theorem execute_selectLine : (execute t f.selectLine s).position = s.position ∧
    (execute t f.selectLine s).loadedTool = f.toolNumber := by
  simp [FixedLines.selectLine, execute, changeTool, turnSpindle, setModes, moveAxes,
    axisTarget, wordG, wordM, numberOf, mWord]

theorem execute_lengthLine : execute t f.lengthLine s =
    { s with lengthOffset := some f.lengthOffsetNumber } := by
  simp [FixedLines.lengthLine, execute, changeTool, turnSpindle, setModes, moveAxes,
    axisTarget, motionMode, selectedWcs, wordG, wordM, numberOf, gWord, wcsNumber]

theorem execute_wcsLine : execute t f.wcsLine s = { s with wcs := f.wcs } := by
  cases hw : f.wcs <;>
    simp [FixedLines.wcsLine, execute, changeTool, turnSpindle, setModes, moveAxes, axisTarget,
      motionMode, selectedWcs, wordG, wordM, numberOf, gWord, wcsNumber, hw]

theorem execute_safeLine (hmetric : s.metric = true) (habs : s.absolute = true) :
    execute t f.safeLine s = { s with
      motion := some .rapid
      position := ⟨s.position.x, s.position.y,
        (liveOffset t s).z + (thousandths f.safeZUm).value⟩ } := by
  simp [FixedLines.safeLine, execute, changeTool, turnSpindle, setModes, moveAxes, axisTarget,
    motionMode, selectedWcs, wordG, wordM, numberOf, gWord, wcsNumber, hmetric, habs,
    liveOffset]

theorem execute_spindleLine : execute t f.spindleLine s = { s with
    speed := f.spindleRpm
    spindle := some (f.spindleRpm : ℚ)
    dwelled := 0 } := by
  simp [FixedLines.spindleLine, execute, changeTool, turnSpindle, setModes, moveAxes,
    axisTarget, motionMode, selectedWcs, wordG, wordM, numberOf, mWord]

theorem execute_dwellLine : execute t f.dwellLine s =
    { s with dwelled := s.dwelled + (thousandths f.spinupMs).value } := by
  simp [FixedLines.dwellLine, execute, changeTool, turnSpindle, setModes, moveAxes,
    axisTarget, motionMode, selectedWcs, wordG, wordM, numberOf, gWord, wcsNumber]

end

/-! ## Safety of the fixed lines -/

section
variable (profile : LinuxCNCProductionMachineProfile)

/-- A position inside the bounds of the machine axes. -/
def InMachineBounds (p : Position) : Prop :=
  ((profile.machineXMinUm : ℚ) / 1000 ≤ p.x ∧ p.x ≤ profile.machineXMaxUm / 1000) ∧
  ((profile.machineYMinUm : ℚ) / 1000 ≤ p.y ∧ p.y ≤ profile.machineYMaxUm / 1000) ∧
  (profile.machineZMinUm : ℚ) / 1000 ≤ p.z ∧ p.z ≤ profile.machineZMaxUm / 1000

def toolChangePosition : Position :=
  Position.ofUm profile.toolChangeXUm profile.toolChangeYUm profile.toolChangeZUm

/-- A line outside the body: it ends inside the machine, it moves in XY only at the
    tool-change height, and it changes the tool only at the tool-change position with the
    spindle off and no length offset. -/
structure SafeFixedLine (before : MachineState) (words : List GCodeWord) (after : MachineState) :
    Prop where
  in_bounds : InMachineBounds profile after.position
  traverse : after.position.x ≠ before.position.x ∨ after.position.y ≠ before.position.y →
    before.position.z = (toolChangePosition profile).z ∧
      after.position.z = (toolChangePosition profile).z
  tool_change : wordM words 6 = true → before.spindle = none ∧ before.lengthOffset = none ∧
    before.position = toolChangePosition profile

end

section
variable {profile : LinuxCNCProductionMachineProfile} {before after s : MachineState}
  {words : List GCodeWord} {t : ControllerTables} {f : FixedLines}

theorem toolChange_inBounds : InMachineBounds profile (toolChangePosition profile) := by
  obtain ⟨-, hx1, hx2⟩ := profile.x_range
  obtain ⟨-, hy1, hy2⟩ := profile.y_range
  obtain ⟨-, hz1, hz2⟩ := profile.z_range
  have cast {a b : Int} (h : a ≤ b) : (a : ℚ) / 1000 ≤ b / 1000 :=
    div_le_div_of_nonneg_right (by exact_mod_cast h) (by norm_num)
  exact ⟨⟨cast hx1, cast hx2⟩, ⟨cast hy1, cast hy2⟩, cast hz1, cast hz2⟩

/-- A line that stays where it is. -/
theorem safe_of_still (hpos : after.position = before.position)
    (hin : InMachineBounds profile before.position) (hM : wordM words 6 = false) :
    SafeFixedLine profile before words after where
  in_bounds := hpos ▸ hin
  traverse := by
    rw [hpos]
    rintro (h | h) <;> exact absurd rfl h
  tool_change h := by
    rw [hM] at h
    cases h

theorem along_modalPreamble (hs : InMachineBounds profile s.position) :
    Along (execute t) (SafeFixedLine profile) s modalPreamble := by
  refine (along_of_invariant (I := fun s => InMachineBounds profile s.position) hs ?_).1
  intro s hs words hw
  obtain ⟨hpos, hM⟩ := execute_modal t s hw
  exact ⟨safe_of_still hpos hs hM, by rw [hpos]; exact hs⟩

/-! ## The runs of the fixed lines -/

/-- The numerals of the fixed lines denote their micrometres. -/
structure ExactLines (f : FixedLines) : Prop where
  toolChangeX : (thousandths f.toolChangeXUm).value = f.toolChangeXUm / 1000
  toolChangeY : (thousandths f.toolChangeYUm).value = f.toolChangeYUm / 1000
  toolChangeZ : (thousandths f.toolChangeZUm).value = f.toolChangeZUm / 1000
  entryX : (thousandths f.entryXUm).value = f.entryXUm / 1000
  entryY : (thousandths f.entryYUm).value = f.entryYUm / 1000
  safeZ : (thousandths f.safeZUm).value = f.safeZUm / 1000
  spinup : (thousandths f.spinupMs).value = f.spinupMs / 1000

/-- The fixed lines repeat the tool-change position, and the planes they move to are inside
    the machine. -/
structure BoundLines (profile : LinuxCNCProductionMachineProfile) (t : ControllerTables)
    (f : FixedLines) : Prop where
  toolChange : Position.ofUm f.toolChangeXUm f.toolChangeYUm f.toolChangeZUm =
    toolChangePosition profile
  entry : InMachineBounds profile (Position.ofUm f.entryXUm f.entryYUm f.toolChangeZUm)
  safe : (profile.machineZMinUm : ℚ) / 1000 ≤
      (t.workOffset f.wcs).z + (t.toolOffset f.lengthOffsetNumber).z + f.safeZUm / 1000 ∧
    (t.workOffset f.wcs).z + (t.toolOffset f.lengthOffsetNumber).z + f.safeZUm / 1000 ≤
      profile.machineZMaxUm / 1000

theorem BoundLines.clearanceZ (hb : BoundLines profile t f) (he : ExactLines f) :
    (thousandths f.toolChangeZUm).value = (toolChangePosition profile).z := by
  rw [he.toolChangeZ, ← hb.toolChange]
  rfl

/-- The modes in which the body of a program runs: the tool with its length offset, the
    spindle at speed after its dwell. -/
structure Running (f : FixedLines) (s : MachineState) : Prop where
  loaded : s.loadedTool = f.toolNumber
  length : s.lengthOffset = some (f.lengthOffsetNumber : ℚ)
  spindle : s.spindle = some (f.spindleRpm : ℚ)
  dwelled : (f.spinupMs : ℚ) / 1000 ≤ s.dwelled

/-- Metric absolute coordinates of the work offset, without any G92 offset. -/
structure WorkFrame (f : FixedLines) (s : MachineState) : Prop where
  metric : s.metric = true
  absolute : s.absolute = true
  wcs : s.wcs = f.wcs
  g92 : s.g92Offset = 0

/-- The offset of the body: work offset plus the length offset of the tool. -/
def bodyOffset (t : ControllerTables) (f : FixedLines) : Position :=
  t.workOffset f.wcs + t.toolOffset f.lengthOffsetNumber

theorem liveOffset_eq (hw : WorkFrame f s)
    (hlen : s.lengthOffset = some (f.lengthOffsetNumber : ℚ)) :
    liveOffset t s = bodyOffset t f := by
  unfold liveOffset bodyOffset
  rw [hw.wcs, hw.g92, hlen]
  ext <;> simp

/-- A vertical move to the tool-change height. -/
theorem safe_clearanceLine (he : ExactLines f) (hb : BoundLines profile t f)
    (hmetric : s.metric = true) (hin : InMachineBounds profile s.position) :
    SafeFixedLine profile s f.clearanceLine (execute t f.clearanceLine s) := by
  have hz := hb.clearanceZ he
  rw [execute_clearanceLine t f s hmetric, hz]
  refine ⟨⟨hin.1, hin.2.1, toolChange_inBounds.2.2⟩, ?_, ?_⟩
  · rintro (h | h) <;> exact absurd rfl h
  · intro h
    simp [FixedLines.clearanceLine, wordM, gWord] at h

/-- An XY move at the tool-change height. -/
theorem safe_traverse {x y : Dec} (hmetric : s.metric = true)
    (hz : s.position.z = (toolChangePosition profile).z)
    (hin : InMachineBounds profile ⟨x.value, y.value, s.position.z⟩) :
    SafeFixedLine profile s [gWord 53, gWord 0, ⟨'X', x⟩, ⟨'Y', y⟩]
      (execute t [gWord 53, gWord 0, ⟨'X', x⟩, ⟨'Y', y⟩] s) := by
  rw [execute_traverse t s x y hmetric]
  refine ⟨hin, fun _ => ⟨hz, hz⟩, ?_⟩
  intro h
  simp [wordM, gWord] at h

theorem safe_safeLine (he : ExactLines f) (hb : BoundLines profile t f) (hw : WorkFrame f s)
    (hlen : s.lengthOffset = some (f.lengthOffsetNumber : ℚ))
    (hin : InMachineBounds profile s.position) :
    SafeFixedLine profile s f.safeLine (execute t f.safeLine s) := by
  rw [execute_safeLine t f s hw.metric hw.absolute, liveOffset_eq hw hlen, he.safeZ]
  refine ⟨⟨hin.1, hin.2.1, hb.safe⟩, ?_, ?_⟩
  · rintro (h | h) <;> exact absurd rfl h
  · intro h
    simp [FixedLines.safeLine, wordM, gWord] at h

/-- The lines up to M6, after a modal block. -/
theorem run_outbound (he : ExactLines f) (hb : BoundLines profile t f)
    (hmetric : s.metric = true) (hspindle : s.spindle = none) (hlen : s.lengthOffset = none)
    (hin : InMachineBounds profile s.position) :
    Along (execute t) (SafeFixedLine profile) s f.outbound ∧
      (runAll (execute t) s f.outbound).position = toolChangePosition profile ∧
      (runAll (execute t) s f.outbound).loadedTool = f.toolNumber := by
  have hz := hb.clearanceZ he
  have hpos : (⟨(thousandths f.toolChangeXUm).value, (thousandths f.toolChangeYUm).value,
      (thousandths f.toolChangeZUm).value⟩ : Position) = toolChangePosition profile := by
    rw [he.toolChangeX, he.toolChangeY, he.toolChangeZ, ← hb.toolChange]
    rfl
  have hs1 := safe_clearanceLine he hb hmetric hin
  have h1 := execute_clearanceLine t f s hmetric
  rw [h1] at hs1
  generalize hq : ({ s with
      motion := some .rapid
      position := ⟨s.position.x, s.position.y, (thousandths f.toolChangeZUm).value⟩ } :
    MachineState) = q at h1 hs1
  have hq1 : q.metric = true := hq ▸ hmetric
  have hqz : q.position.z = (thousandths f.toolChangeZUm).value := hq ▸ rfl
  have h2 := execute_traverse t q (thousandths f.toolChangeXUm) (thousandths f.toolChangeYUm) hq1
  have hs2 : SafeFixedLine profile q f.toolChangeLine (execute t f.toolChangeLine q) :=
    safe_traverse hq1 (hqz.trans hz) (by rw [hqz, hpos]; exact toolChange_inBounds)
  rw [show execute t f.toolChangeLine q = _ from h2] at hs2
  generalize hr : ({ q with
      motion := some .rapid
      position := ⟨(thousandths f.toolChangeXUm).value, (thousandths f.toolChangeYUm).value,
        q.position.z⟩ } : MachineState) = r at h2 hs2
  have hrpos : r.position = toolChangePosition profile := by
    rw [← hr, ← hpos, ← hqz]
  obtain ⟨hp3, hl3⟩ := execute_selectLine t f r
  have hs3 : SafeFixedLine profile r f.selectLine (execute t f.selectLine r) := by
    refine ⟨?_, ?_, fun _ => ⟨?_, ?_, hrpos⟩⟩
    · rw [hp3, hrpos]
      exact toolChange_inBounds
    · rw [hp3]
      rintro (h | h) <;> exact absurd rfl h
    · rw [← hr, ← hq]
      exact hspindle
    · rw [← hr, ← hq]
      exact hlen
  have hend : runAll (execute t) s f.outbound = execute t f.selectLine r := by
    show execute t f.selectLine (execute t f.toolChangeLine (execute t f.clearanceLine s)) = _
    rw [h1, show execute t f.toolChangeLine q = r from h2]
  rw [hend, hp3, hl3]
  exact ⟨.cons h1 hs1 (.cons h2 hs2 (.cons rfl hs3 trivial)), hrpos, rfl⟩

/-- The lines from the second modal block to the dwell. -/
theorem run_inbound (he : ExactLines f) (hb : BoundLines profile t f)
    (hmetric : s.metric = true) (habs : s.absolute = true) (hg92 : s.g92Offset = 0)
    (hloaded : s.loadedTool = f.toolNumber)
    (hpos : s.position = toolChangePosition profile) :
    Along (execute t) (SafeFixedLine profile) s f.inbound ∧
      Running f (runAll (execute t) s f.inbound) ∧
      WorkFrame f (runAll (execute t) s f.inbound) ∧
      (runAll (execute t) s f.inbound).position =
        ⟨f.entryXUm / 1000, f.entryYUm / 1000, (bodyOffset t f).z + f.safeZUm / 1000⟩ := by
  have hz := hb.clearanceZ he
  have hin : InMachineBounds profile s.position := hpos ▸ toolChange_inBounds
  have hs1 := safe_clearanceLine he hb hmetric hin
  have h1 := execute_clearanceLine t f s hmetric
  rw [h1] at hs1
  generalize hq : ({ s with
      motion := some .rapid
      position := ⟨s.position.x, s.position.y, (thousandths f.toolChangeZUm).value⟩ } :
    MachineState) = q at h1 hs1
  have hq1 : q.metric = true := hq ▸ hmetric
  have hqz : q.position.z = (thousandths f.toolChangeZUm).value := hq ▸ rfl
  have hentry : (⟨(thousandths f.entryXUm).value, (thousandths f.entryYUm).value,
      q.position.z⟩ : Position) = Position.ofUm f.entryXUm f.entryYUm f.toolChangeZUm := by
    rw [hqz, he.entryX, he.entryY, he.toolChangeZ]
    rfl
  have h2 := execute_traverse t q (thousandths f.entryXUm) (thousandths f.entryYUm) hq1
  have hs2 : SafeFixedLine profile q f.entryLine (execute t f.entryLine q) :=
    safe_traverse hq1 (hqz.trans hz) (by rw [hentry]; exact hb.entry)
  rw [show execute t f.entryLine q = _ from h2] at hs2
  generalize hr : ({ q with
      motion := some .rapid
      position := ⟨(thousandths f.entryXUm).value, (thousandths f.entryYUm).value,
        q.position.z⟩ } : MachineState) = r at h2 hs2
  have hrpos : r.position = Position.ofUm f.entryXUm f.entryYUm f.toolChangeZUm := by
    rw [← hr, ← hentry]
  have hrin : InMachineBounds profile r.position := hrpos ▸ hb.entry
  have h3 := execute_lengthLine t f r
  have h4 := execute_wcsLine t f { r with lengthOffset := some (f.lengthOffsetNumber : ℚ) }
  generalize hu : ({ r with lengthOffset := some (f.lengthOffsetNumber : ℚ), wcs := f.wcs } :
    MachineState) = u at h4
  have hwu : WorkFrame f u := by
    rw [← hu, ← hr, ← hq]
    exact ⟨hmetric, habs, rfl, hg92⟩
  have hlu : u.lengthOffset = some (f.lengthOffsetNumber : ℚ) := by rw [← hu]
  have hupos : u.position = r.position := by rw [← hu]
  have hs5 := safe_safeLine he hb hwu hlu (hupos ▸ hrin)
  have h5 := execute_safeLine t f u hwu.metric hwu.absolute
  rw [liveOffset_eq hwu hlu, he.safeZ, hupos, hrpos] at h5
  have h6 := execute_spindleLine t f (execute t f.safeLine u)
  have h7 := execute_dwellLine t f (execute t f.spindleLine (execute t f.safeLine u))
  have hend : runAll (execute t) s f.inbound =
      execute t f.dwellLine (execute t f.spindleLine (execute t f.safeLine u)) := by
    show execute t f.dwellLine (execute t f.spindleLine (execute t f.safeLine
      (execute t f.wcsLine (execute t f.lengthLine (execute t f.entryLine
        (execute t f.clearanceLine s)))))) = _
    rw [h1, show execute t f.entryLine q = r from h2, h3, h4]
  have hrun : runAll (execute t) s f.inbound = { u with
      motion := some .rapid
      speed := f.spindleRpm
      spindle := some (f.spindleRpm : ℚ)
      dwelled := f.spinupMs / 1000
      position := ⟨f.entryXUm / 1000, f.entryYUm / 1000,
        (bodyOffset t f).z + f.safeZUm / 1000⟩ } := by
    rw [hend, h7, h6, h5, he.spinup]
    simp [Position.ofUm]
  have hin5 := hs5.in_bounds
  have hs6 : SafeFixedLine profile (execute t f.safeLine u) f.spindleLine
      (execute t f.spindleLine (execute t f.safeLine u)) :=
    safe_of_still (by rw [h6]) hin5 (by simp [FixedLines.spindleLine, wordM, mWord])
  have hs7 : SafeFixedLine profile (execute t f.spindleLine (execute t f.safeLine u)) f.dwellLine
      (execute t f.dwellLine (execute t f.spindleLine (execute t f.safeLine u))) :=
    safe_of_still (by rw [h7]) hs6.in_bounds (by simp [FixedLines.dwellLine, wordM, gWord])
  have hs3 : SafeFixedLine profile r f.lengthLine
      { r with lengthOffset := some (f.lengthOffsetNumber : ℚ) } :=
    safe_of_still rfl hrin (by simp [FixedLines.lengthLine, wordM, gWord])
  have hs4 : SafeFixedLine profile { r with lengthOffset := some (f.lengthOffsetNumber : ℚ) }
      f.wcsLine u :=
    safe_of_still hupos hrin (by simp [FixedLines.wcsLine, wordM, gWord])
  refine ⟨.cons h1 hs1 (.cons h2 hs2 (.cons h3 hs3 (.cons h4 hs4 (.cons rfl hs5 (.cons rfl hs6
    (.cons rfl hs7 trivial)))))), ?_⟩
  rw [hrun]
  refine ⟨⟨?_, hlu, rfl, le_refl _⟩, ⟨hwu.metric, hwu.absolute, hwu.wcs, hwu.g92⟩, rfl⟩
  rw [← hu, ← hr, ← hq]
  exact hloaded

/-- The whole preamble, from any state inside the machine. -/
theorem run_preamble (he : ExactLines f) (hb : BoundLines profile t f)
    (hin : InMachineBounds profile s.position) :
    Along (execute t) (SafeFixedLine profile) s f.preamble ∧
      Running f (runAll (execute t) s f.preamble) ∧
      WorkFrame f (runAll (execute t) s f.preamble) ∧
      (runAll (execute t) s f.preamble).position =
        ⟨f.entryXUm / 1000, f.entryYUm / 1000, (bodyOffset t f).z + f.safeZUm / 1000⟩ := by
  have hfirst : Along (execute t) (SafeFixedLine profile) s modalPreamble :=
    along_modalPreamble hin
  have hrun := run_modalPreamble t s
  obtain ⟨hout, hpos, hloaded⟩ := run_outbound (s := runAll (execute t) s modalPreamble) he hb
    (by rw [hrun]) (by rw [hrun]) (by rw [hrun]) (by rw [hrun]; exact hin)
  generalize hq : runAll (execute t) (runAll (execute t) s modalPreamble) f.outbound = q
    at hpos hloaded
  have hsecond : Along (execute t) (SafeFixedLine profile) q modalPreamble :=
    along_modalPreamble (hpos ▸ toolChange_inBounds)
  have hrun2 := run_modalPreamble t q
  obtain ⟨hinb, hrest⟩ := run_inbound (s := runAll (execute t) q modalPreamble) he hb
    (by rw [hrun2]) (by rw [hrun2]) (by rw [hrun2]) (by rw [hrun2]; exact hloaded)
    (by rw [hrun2]; exact hpos)
  unfold FixedLines.preamble
  simp only [along_append, runAll_append, hq]
  exact ⟨⟨⟨⟨hfirst, hout⟩, hsecond⟩, hinb⟩, hrest⟩

/-- The trailer retracts to the safe plane, stops the spindle and retracts to the
    tool-change height. -/
theorem run_trailer (he : ExactLines f) (hb : BoundLines profile t f) (hr : Running f s)
    (hw : WorkFrame f s) (hin : InMachineBounds profile s.position) :
    Along (execute t) (SafeFixedLine profile) s f.trailer := by
  have hs1 := safe_safeLine he hb hw hr.length hin
  have hm1 : (execute t f.safeLine s).metric = true := by
    rw [execute_safeLine t f s hw.metric hw.absolute]
    exact hw.metric
  generalize hq : execute t f.safeLine s = q at hs1 hm1
  have hstill (m : MachineState) (words : List GCodeWord)
      (h : words = [mWord 5] ∨ words = [mWord 9] ∨ words = [gWord 49] ∨ words = [mWord 2]) :
      (execute t words m).position = m.position ∧ wordM words 6 = false ∧
        (execute t words m).metric = m.metric := by
    rcases h with rfl | rfl | rfl | rfl <;>
      simp [execute_of_no_axis, hasAxisMotion, changeTool, turnSpindle, setModes, wordG, wordM,
        numberOf, gWord, mWord]
  obtain ⟨p2, w2, m2⟩ := hstill q [mWord 5] (by simp)
  have hs2 : SafeFixedLine profile q [mWord 5] _ := safe_of_still p2 hs1.in_bounds w2
  obtain ⟨p3, w3, m3⟩ := hstill (execute t [mWord 5] q) [mWord 9] (by simp)
  have hs3 : SafeFixedLine profile _ [mWord 9] _ := safe_of_still p3 hs2.in_bounds w3
  obtain ⟨p4, w4, m4⟩ := hstill (execute t [mWord 9] (execute t [mWord 5] q)) [gWord 49] (by simp)
  have hs4 : SafeFixedLine profile _ [gWord 49] _ := safe_of_still p4 hs3.in_bounds w4
  have hs5 := safe_clearanceLine he hb (by rw [m4, m3, m2]; exact hm1) hs4.in_bounds
  obtain ⟨p6, w6, -⟩ := hstill (execute t f.clearanceLine (execute t [gWord 49]
    (execute t [mWord 9] (execute t [mWord 5] q)))) [mWord 2] (by simp)
  have hs6 : SafeFixedLine profile _ [mWord 2] _ := safe_of_still p6 hs5.in_bounds w6
  exact .cons hq hs1 (.cons rfl hs2 (.cons rfl hs3 (.cons rfl hs4 (.cons rfl hs5
    (.cons rfl hs6 trivial)))))

end

end Custombuild.Postprocessors
