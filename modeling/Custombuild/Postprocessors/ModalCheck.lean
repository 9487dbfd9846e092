/-
  What the modal check of the validator says about the fixed lines.  A fixed line is
  compared number by number with rounded quotients; the modal check reads the same numbers
  as micrometres and compares them with the plan.  Where both succeed the numbers of the
  line are exact.
-/
import Custombuild.Postprocessors.FixedRun

namespace Custombuild.Postprocessors

open Custombuild.Lib Custombuild.Manufacturing Custombuild.Cam

/-! ## Lines with one signature -/

section
variable {k l : List GCodeWord}

theorem onlyWord_congr (h : signature k = signature l) (c : Char) (d : Dec) :
    onlyWord k c d = onlyWord l c d := by
  have hv := values_congr h c
  unfold onlyWord
  generalize wordValues k c = p at hv ⊢
  generalize wordValues l c = q at hv ⊢
  rcases p with - | ⟨a, - | ⟨a', as⟩⟩ <;> rcases q with - | ⟨b, - | ⟨b', bs⟩⟩ <;> simp_all
  rw [Bool.eq_iff_iff, Dec.same_iff, Dec.same_iff, hv]

theorem coeff_pos_iff {d : Dec} : 0 < d.coeff ↔ 0 < d.value := by
  have hpos : (0 : ℚ) < 10 ^ d.scale := by positivity
  rw [Dec.value, lt_div_iff₀ hpos, zero_mul, Int.cast_pos]

theorem positiveSpeed_congr (h : signature k = signature l) :
    positiveSpeed k = positiveSpeed l := by
  have hv := values_congr h 'S'
  unfold positiveSpeed
  generalize wordValues k 'S' = p at hv ⊢
  generalize wordValues l 'S' = q at hv ⊢
  rcases p with - | ⟨a, - | ⟨a', as⟩⟩ <;> rcases q with - | ⟨b, - | ⟨b', bs⟩⟩ <;>
    simp_all [coeff_pos_iff]

/-- Coordinates of a line whose numbers are rounded quotients. -/
theorem wordUm_congr (h : signature k = signature l) {c : Char} {n : Nat}
    (hl : ∀ d ∈ wordValues l c, ∃ v, d = thousandths v) :
    wordUm k c n = wordUm l c n := by
  have hv := values_congr h c
  unfold wordUm
  generalize wordValues k c = p at hv ⊢
  generalize wordValues l c = q at hv hl ⊢
  rcases p with - | ⟨a, - | ⟨a', as⟩⟩ <;> rcases q with - | ⟨b, - | ⟨b', bs⟩⟩ <;> simp_all
  obtain ⟨v, rfl⟩ := hl
  rw [micrometres_of_same_thousandths (Dec.same_iff.mpr hv),
    micrometres_of_same_thousandths (Dec.same_self _)]

/-- The modal check reads a line through its signature and its coordinates. -/
theorem modalStep_congr {f : FixedLines} {line : ParsedLine} {b : List Nat} {s : ModalState}
    (h : signature line.words = signature l)
    (hl : ∀ c ∈ ['X', 'Y', 'Z'], ∀ d ∈ wordValues l c, ∃ v, d = thousandths v) :
    modalStep f line b s = modalStep f ⟨line.lineNumber, l⟩ b s := by
  have hL (c : Char) : hasLetter line.words c = hasLetter l c := hasLetter_congr h c
  have hW (c : Char) (d : Dec) : hasWord line.words c d = hasWord l c d := hasWord_congr h c d
  have hO (c : Char) (d : Dec) : onlyWord line.words c d = onlyWord l c d := onlyWord_congr h c d
  have hX := wordUm_congr (n := line.lineNumber) h (hl 'X' (by simp))
  have hY := wordUm_congr (n := line.lineNumber) h (hl 'Y' (by simp))
  have hZ := wordUm_congr (n := line.lineNumber) h (hl 'Z' (by simp))
  have h1 : modalPreflight line = modalPreflight ⟨line.lineNumber, l⟩ := by
    funext s
    simp only [modalPreflight, hasAxisMotion, hL, hW]
  have h2 : modalPosition f line = modalPosition f ⟨line.lineNumber, l⟩ := by
    funext s
    simp only [modalPosition, axisUm, hL, hW, hX, hY, hZ]
  have h3 : modalSwitches line = modalSwitches ⟨line.lineNumber, l⟩ := by
    funext s
    simp only [modalSwitches, hO]
  have h4 : modalToolChange f line = modalToolChange f ⟨line.lineNumber, l⟩ := by
    funext s
    simp only [modalToolChange, hW]
  have h5 : modalLength f line = modalLength f ⟨line.lineNumber, l⟩ := by
    funext s
    simp only [modalLength, hW]
  have h6 : modalSpindle f line = modalSpindle f ⟨line.lineNumber, l⟩ := by
    funext s
    simp only [modalSpindle, hW, positiveSpeed_congr h]
  have h7 : modalDwell line = modalDwell ⟨line.lineNumber, l⟩ := by
    funext s
    simp only [modalDwell, hW]
  unfold modalStep
  rw [h1, h2, h3, h4, h5, h6, h7]
  rfl

theorem wordUm_thousandths {c : Char} {n : Nat} {v : Int}
    (h : wordValues l c = [thousandths v]) :
    wordUm l c n = .ok (roundSig decimalPrecision v) := by
  unfold wordUm
  rw [h]
  exact demand_eq_ok.mpr (micrometres_of_same_thousandths (Dec.same_self _))

end

/-! ## One step -/

/-- Tool, entry flag and positions, the part of the state that only moves and M6 change. -/
structure Tracked where
  toolLoaded : Bool
  entryReached : Bool
  wcsZ : Option Int
  machineX : Option Int
  machineY : Option Int
  machineZ : Option Int

def ModalState.tracked (s : ModalState) : Tracked :=
  ⟨s.toolLoaded, s.programEntryReachedAtClearance, s.currentWcsZUm, s.currentMachineXUm,
    s.currentMachineYUm, s.currentMachineZUm⟩

section
variable {f : FixedLines} {line : ParsedLine} {b : List Nat} {s s' : ModalState}

/-- What a step that returns did: it moved, perhaps changed the tool, and met the demands of
    G43 and M3. -/
theorem modalStep_inv (h : modalStep f line b s = .ok s') :
    ∃ s₁ s₂ s₃ : ModalState, s₁.tracked = s.tracked ∧ modalPosition f line s₁ = .ok s₂ ∧
      modalToolChange f line (modalSwitches line s₂) = .ok s₃ ∧ s'.tracked = s₃.tracked ∧
      (hasWord line.words 'G' (Dec.ofInt 43) = true →
        s₃.programEntryReachedAtClearance = true) ∧
      (hasWord line.words 'M' (Dec.ofInt 3) = true → s₃.currentWcsZUm = some f.safeZUm) := by
  simp only [modalStep, bind_eq_ok] at h
  obtain ⟨s₁, h₁, s₂, h₂, s₃, h₃, s₄, h₄, s₅, h₅, s₆, h₆, _, -, hs'⟩ := h
  have t₁ : s₁.tracked = s.tracked := by
    simp only [modalPreflight, bind_eq_ok] at h₁
    obtain ⟨_, -, _, -, h₁⟩ := h₁
    cases h₁
    rfl
  have t₄ : s₄.tracked = s₃.tracked ∧ (hasWord line.words 'G' (Dec.ofInt 43) = true →
      s₃.programEntryReachedAtClearance = true) := by
    simp only [modalLength, bind_eq_ok, require_eq_ok, Bool.or_eq_true, Bool.and_eq_true,
      Bool.not_eq_true'] at h₄
    obtain ⟨_, hguard, h₄⟩ := h₄
    cases h₄
    refine ⟨rfl, fun h43 => ?_⟩
    rcases hguard with hno | hyes
    · rw [h43] at hno
      cases hno
    · exact hyes.1.2
  have t₅ : s₅.tracked = s₄.tracked ∧ (hasWord line.words 'M' (Dec.ofInt 3) = true →
      s₄.currentWcsZUm = some f.safeZUm) := by
    unfold modalSpindle at h₅
    split at h₅
    · simp only [bind_eq_ok, require_eq_ok, Bool.and_eq_true, decide_eq_true_eq] at h₅
      obtain ⟨_, hguard, h₅⟩ := h₅
      cases h₅
      exact ⟨rfl, fun _ => hguard.1.1.1.1.2⟩
    · cases h₅
      exact ⟨rfl, fun h => absurd h ‹_›⟩
  have t₆ : s₆.tracked = s₅.tracked := by
    unfold modalDwell at h₆
    split at h₆
    · simp only [bind_eq_ok] at h₆
      obtain ⟨_, -, h₆⟩ := h₆
      cases h₆
      rfl
    · cases h₆
      rfl
  cases hs'
  refine ⟨s₁, s₂, s₃, t₁, h₂, h₃, ?_, t₄.2, fun h3 => ?_⟩
  · rw [t₆, t₅.1, t₄.1]
  · have hz : s₄.tracked.wcsZ = s₃.tracked.wcsZ := by rw [t₄.1]
    exact hz.symm.trans (t₅.2 h3)

/-- A step without M6 keeps the tool; a tool once loaded stays loaded. -/
theorem modalStep_toolLoaded (h : modalStep f line b s = .ok s') (hs : s.toolLoaded = true) :
    s'.toolLoaded = true := by
  obtain ⟨s₁, s₂, s₃, t₁, h₂, h₃, t, -, -⟩ := modalStep_inv h
  have l₁ : s₁.toolLoaded = true := by rw [← hs]; exact congrArg Tracked.toolLoaded t₁
  have l₂ : s₂.toolLoaded = true := by
    unfold modalPosition at h₂
    split at h₂
    · simp only [bind_eq_ok] at h₂
      obtain ⟨x, -, y, -, z, -, h₂⟩ := h₂
      split at h₂
      · simp only [bind_eq_ok] at h₂
        obtain ⟨_, -, h₂⟩ := h₂
        cases h₂
        exact l₁
      · cases h₂
        exact l₁
    · simp only [bind_eq_ok] at h₂
      obtain ⟨z, -, h₂⟩ := h₂
      cases h₂
      exact l₁
  have l₃ : s₃.toolLoaded = true := by
    unfold modalToolChange at h₃
    split at h₃
    · simp only [bind_eq_ok] at h₃
      obtain ⟨_, -, h₃⟩ := h₃
      cases h₃
      rfl
    · cases h₃
      exact l₂
  rw [← l₃]
  exact congrArg Tracked.toolLoaded t

theorem modalRun_toolLoaded {lines : List ParsedLine} (h : modalRun f b lines s = .ok s')
    (hs : s.toolLoaded = true) : s'.toolLoaded = true := by
  induction lines generalizing s with
  | nil =>
    cases h
    exact hs
  | cons line lines ih =>
    rw [modalRun, bind_eq_ok] at h
    obtain ⟨s₁, h₁, h⟩ := h
    exact ih h (modalStep_toolLoaded h₁ hs)

theorem modalRun_append {k l : List ParsedLine} (h : modalRun f b (k ++ l) s = .ok s') :
    ∃ s₁, modalRun f b k s = .ok s₁ ∧ modalRun f b l s₁ = .ok s' := by
  induction k generalizing s with
  | nil => exact ⟨s, rfl, h⟩
  | cons line k ih =>
    rw [List.cons_append, modalRun, bind_eq_ok] at h
    obtain ⟨s₁, h₁, h⟩ := h
    obtain ⟨s₂, h₂, h⟩ := ih h
    exact ⟨s₂, by rw [modalRun, h₁]; exact h₂, h⟩

end

/-! ## The fixed lines -/

section
variable {f : FixedLines} {n : Nat} {b : List Nat} {s s' : ModalState}

/-- A line without M6 leaves what its move reached. -/
theorem tracked_of_no_toolChange {words : List GCodeWord}
    (h : modalStep f ⟨n, words⟩ b s = .ok s') (hM : hasWord words 'M' (Dec.ofInt 6) = false) :
    ∃ s₁ s₂ : ModalState, s₁.tracked = s.tracked ∧ modalPosition f ⟨n, words⟩ s₁ = .ok s₂ ∧
      s'.tracked = s₂.tracked ∧
      (hasWord words 'G' (Dec.ofInt 43) = true → s₂.programEntryReachedAtClearance = true) ∧
      (hasWord words 'M' (Dec.ofInt 3) = true → s₂.currentWcsZUm = some f.safeZUm) := by
  obtain ⟨s₁, s₂, s₃, t₁, h₂, h₃, t, h43, h3⟩ := modalStep_inv h
  rw [modalToolChange, if_neg (by simp [hM])] at h₃
  cases h₃
  exact ⟨s₁, s₂, t₁, h₂, t, h43, h3⟩

/-- A line without G53 and Z words does not move. -/
theorem tracked_of_no_move {words : List GCodeWord} {s₁ s₂ : ModalState}
    (h : modalPosition f ⟨n, words⟩ s₁ = .ok s₂) (hG : hasWord words 'G' (Dec.ofInt 53) = false)
    (hZ : hasLetter words 'Z' = false) : s₂ = s₁ := by
  simp only [modalPosition, axisUm, hG, hZ, Bool.false_eq_true, if_false, bind_eq_ok] at h
  obtain ⟨z, hz, h⟩ := h
  cases hz
  cases h
  rfl

theorem clearance_reaches (h : modalStep f ⟨n, f.clearanceLine⟩ b s = .ok s') :
    s'.currentMachineZUm = some (roundSig decimalPrecision f.toolChangeZUm) := by
  obtain ⟨s₁, s₂, -, h₂, t, -, -⟩ := tracked_of_no_toolChange h
    (by simp [FixedLines.clearanceLine, gWord])
  have hZ : wordUm f.clearanceLine 'Z' n = .ok (roundSig decimalPrecision f.toolChangeZUm) :=
    wordUm_thousandths (by simp [FixedLines.clearanceLine, gWord])
  rw [modalPosition, if_pos (by simp [FixedLines.clearanceLine, gWord])] at h₂
  simp only [bind_eq_ok] at h₂
  obtain ⟨x, -, y, -, z, hz, h₂⟩ := h₂
  rw [axisUm, if_pos (by simp [FixedLines.clearanceLine]), hZ] at hz
  cases hz
  rw [if_neg (by simp [FixedLines.clearanceLine, gWord])] at h₂
  cases h₂
  exact congrArg Tracked.machineZ t

/-- A G53 line to an XY position; with a tool loaded it sets the entry flag. -/
theorem traverse_reaches {x y : Int}
    (h : modalStep f ⟨n, [gWord 53, gWord 0, ⟨'X', thousandths x⟩, ⟨'Y', thousandths y⟩]⟩ b s =
      .ok s') :
    s'.currentMachineXUm = some (roundSig decimalPrecision x) ∧
      s'.currentMachineYUm = some (roundSig decimalPrecision y) ∧
      s'.currentMachineZUm = s.currentMachineZUm ∧
      (s.toolLoaded = true → s'.programEntryReachedAtClearance = true →
        roundSig decimalPrecision x = f.entryXUm ∧ roundSig decimalPrecision y = f.entryYUm) := by
  obtain ⟨s₁, s₂, t₁, h₂, t, -, -⟩ := tracked_of_no_toolChange h (by simp [gWord])
  have hX : wordUm [gWord 53, gWord 0, ⟨'X', thousandths x⟩, ⟨'Y', thousandths y⟩] 'X' n =
      .ok (roundSig decimalPrecision x) := wordUm_thousandths (by simp [gWord])
  have hY : wordUm [gWord 53, gWord 0, ⟨'X', thousandths x⟩, ⟨'Y', thousandths y⟩] 'Y' n =
      .ok (roundSig decimalPrecision y) := wordUm_thousandths (by simp [gWord])
  rw [modalPosition, if_pos (by simp [gWord])] at h₂
  simp only [bind_eq_ok] at h₂
  obtain ⟨x', hx, y', hy, z', hz, h₂⟩ := h₂
  rw [axisUm, if_pos (by simp), hX] at hx
  rw [axisUm, if_pos (by simp), hY] at hy
  rw [axisUm, if_neg (by simp [gWord])] at hz
  cases hx
  cases hy
  cases hz
  have hm : s₁.currentMachineZUm = s.currentMachineZUm := congrArg Tracked.machineZ t₁
  have hl : s₁.toolLoaded = s.toolLoaded := congrArg Tracked.toolLoaded t₁
  split at h₂
  · simp only [bind_eq_ok] at h₂
    obtain ⟨_, -, h₂⟩ := h₂
    cases h₂
    refine ⟨congrArg Tracked.machineX t, congrArg Tracked.machineY t,
      (congrArg Tracked.machineZ t).trans hm, fun _ hentry => ?_⟩
    have hflag := (congrArg Tracked.entryReached t).symm.trans hentry
    simpa [ModalState.tracked] using hflag
  · rename_i hno
    cases h₂
    refine ⟨congrArg Tracked.machineX t, congrArg Tracked.machineY t,
      (congrArg Tracked.machineZ t).trans hm, fun hload => ?_⟩
    exact absurd (hl.trans hload) (by simpa using hno)

/-- M6 returns only at the exact tool-change position. -/
theorem select_guard (h : modalStep f ⟨n, f.selectLine⟩ b s = .ok s') :
    s.currentMachineXUm = some f.toolChangeXUm ∧ s.currentMachineYUm = some f.toolChangeYUm ∧
      s.currentMachineZUm = some f.toolChangeZUm ∧ s'.toolLoaded = true := by
  obtain ⟨s₁, s₂, s₃, t₁, h₂, h₃, t, -, -⟩ := modalStep_inv h
  obtain rfl : s₂ = s₁ := tracked_of_no_move h₂ (by simp [FixedLines.selectLine, mWord])
    (by simp [FixedLines.selectLine, mWord])
  rw [modalToolChange, if_pos (by simp [FixedLines.selectLine, mWord])] at h₃
  simp only [bind_eq_ok, require_eq_ok, Bool.and_eq_true, decide_eq_true_eq] at h₃
  obtain ⟨_, hguard, h₃⟩ := h₃
  cases h₃
  obtain ⟨⟨⟨-, hx⟩, hy⟩, hz⟩ := hguard
  exact ⟨(congrArg Tracked.machineX t₁).symm.trans hx, (congrArg Tracked.machineY t₁).symm.trans hy,
    (congrArg Tracked.machineZ t₁).symm.trans hz, congrArg Tracked.toolLoaded t⟩

/-- G43 returns only after the entry was reached. -/
theorem length_guard (h : modalStep f ⟨n, f.lengthLine⟩ b s = .ok s') :
    s.programEntryReachedAtClearance = true := by
  obtain ⟨s₁, s₂, t₁, h₂, -, h43, -⟩ := tracked_of_no_toolChange h
    (by simp [FixedLines.lengthLine, gWord])
  obtain rfl : s₂ = s₁ := tracked_of_no_move h₂ (by simp [FixedLines.lengthLine, gWord])
    (by simp [FixedLines.lengthLine, gWord])
  rw [← h43 (by simp [FixedLines.lengthLine, gWord])]
  exact (congrArg Tracked.entryReached t₁).symm

theorem safe_reaches (h : modalStep f ⟨n, f.safeLine⟩ b s = .ok s') :
    s'.currentWcsZUm = some (roundSig decimalPrecision f.safeZUm) := by
  obtain ⟨s₁, s₂, -, h₂, t, -, -⟩ := tracked_of_no_toolChange h
    (by simp [FixedLines.safeLine, gWord])
  have hZ : wordUm f.safeLine 'Z' n = .ok (roundSig decimalPrecision f.safeZUm) :=
    wordUm_thousandths (by simp [FixedLines.safeLine, gWord])
  rw [modalPosition, if_neg (by simp [FixedLines.safeLine, gWord]), bind_eq_ok] at h₂
  obtain ⟨z, hz, h₂⟩ := h₂
  rw [axisUm, if_pos (by simp [FixedLines.safeLine]), hZ] at hz
  cases hz
  cases h₂
  exact congrArg Tracked.wcsZ t

/-- M3 returns only at the safe plane. -/
theorem spindle_guard (h : modalStep f ⟨n, f.spindleLine⟩ b s = .ok s') :
    s.currentWcsZUm = some f.safeZUm := by
  obtain ⟨s₁, s₂, t₁, h₂, -, -, h3⟩ := tracked_of_no_toolChange h
    (by simp [FixedLines.spindleLine, mWord])
  obtain rfl : s₂ = s₁ := tracked_of_no_move h₂ (by simp [FixedLines.spindleLine, mWord])
    (by simp [FixedLines.spindleLine, mWord])
  exact (congrArg Tracked.wcsZ t₁).symm.trans (h3 (by simp [FixedLines.spindleLine, mWord]))

end

/-! ## Exactness of the preamble -/

section
variable {f : FixedLines} {b : List Nat} {s s' : ModalState}

/-- A parsed line with the numbers of a fixed line. -/
def Reads (line : ParsedLine) (words : List GCodeWord) : Prop :=
  signature line.words = signature words

/-- The axis words of the fixed lines are rounded quotients. -/
theorem step_of_reads {line : ParsedLine} {words : List GCodeWord} (h : Reads line words)
    (hw : ∀ c ∈ ['X', 'Y', 'Z'], ∀ d ∈ wordValues words c, ∃ v, d = thousandths v)
    (hstep : modalStep f line b s = .ok s') :
    modalStep f ⟨line.lineNumber, words⟩ b s = .ok s' := by
  rw [← modalStep_congr h hw]
  exact hstep

theorem exact_of_outbound {l₁ l₂ l₃ : ParsedLine} (h₁ : Reads l₁ f.clearanceLine)
    (h₂ : Reads l₂ f.toolChangeLine) (h₃ : Reads l₃ f.selectLine)
    (h : modalRun f b [l₁, l₂, l₃] s = .ok s') :
    (roundSig decimalPrecision f.toolChangeXUm = f.toolChangeXUm ∧
      roundSig decimalPrecision f.toolChangeYUm = f.toolChangeYUm ∧
      roundSig decimalPrecision f.toolChangeZUm = f.toolChangeZUm) ∧ s'.toolLoaded = true := by
  simp only [modalRun, bind_eq_ok] at h
  obtain ⟨s₁, r₁, s₂, r₂, s₃, r₃, h⟩ := h
  cases h
  have e₁ := clearance_reaches (step_of_reads h₁
    (by simp [FixedLines.clearanceLine, gWord]) r₁)
  obtain ⟨ex, ey, ez, -⟩ := traverse_reaches (step_of_reads h₂
    (by simp [gWord]) r₂)
  obtain ⟨gx, gy, gz, hload⟩ := select_guard (step_of_reads h₃
    (by simp [FixedLines.selectLine, mWord]) r₃)
  rw [ex] at gx
  rw [ey] at gy
  rw [ez, e₁] at gz
  exact ⟨⟨Option.some.inj gx, Option.some.inj gy, Option.some.inj gz⟩, hload⟩

theorem exact_of_inbound {l₁ l₂ l₃ l₄ l₅ l₆ l₇ : ParsedLine}
    (h₂ : Reads l₂ f.entryLine) (h₃ : Reads l₃ f.lengthLine) (h₅ : Reads l₅ f.safeLine)
    (h₆ : Reads l₆ f.spindleLine) (hload : s.toolLoaded = true)
    (h : modalRun f b [l₁, l₂, l₃, l₄, l₅, l₆, l₇] s = .ok s') :
    roundSig decimalPrecision f.entryXUm = f.entryXUm ∧
      roundSig decimalPrecision f.entryYUm = f.entryYUm ∧
      roundSig decimalPrecision f.safeZUm = f.safeZUm := by
  simp only [modalRun, bind_eq_ok] at h
  obtain ⟨s₁, r₁, s₂, r₂, s₃, r₃, s₄, r₄, s₅, r₅, s₆, r₆, -⟩ := h
  obtain ⟨-, -, -, hentry⟩ := traverse_reaches (step_of_reads h₂
    (by simp [gWord]) r₂)
  have hflag := length_guard (step_of_reads h₃ (by simp [FixedLines.lengthLine, gWord]) r₃)
  have hsafe := safe_reaches (step_of_reads h₅ (by simp [FixedLines.safeLine, gWord]) r₅)
  have hguard := spindle_guard (step_of_reads h₆ (by simp [FixedLines.spindleLine, mWord]) r₆)
  obtain ⟨hx, hy⟩ := hentry (modalStep_toolLoaded r₁ hload) hflag
  rw [hsafe] at hguard
  exact ⟨hx, hy, Option.some.inj hguard⟩

theorem reads_append {lines : List ParsedLine} {k l : List (List GCodeWord)}
    (h : List.Forall₂ Reads lines (k ++ l)) :
    ∃ p q, lines = p ++ q ∧ List.Forall₂ Reads p k ∧ List.Forall₂ Reads q l :=
  ⟨lines.take k.length, lines.drop k.length, (List.take_append_drop _ _).symm,
    List.forall₂_take_append _ _ _ h, List.forall₂_drop_append _ _ _ h⟩

/-- Lines that read as the preamble and pass the modal check have exact numbers. -/
theorem exactLines_of_modalRun {lines : List ParsedLine}
    (hread : List.Forall₂ Reads lines f.preamble) (hspin : f.spinupMs.natAbs < 10 ^ 28)
    (h : modalRun f b lines s = .ok s') : ExactLines f := by
  obtain ⟨p, inbound, rfl, hp, hin⟩ := reads_append hread
  obtain ⟨p, modal₂, rfl, hp, -⟩ := reads_append hp
  obtain ⟨modal₁, outbound, rfl, -, hout⟩ := reads_append hp
  obtain ⟨s₃, h, r₄⟩ := modalRun_append h
  obtain ⟨s₂, h, r₃⟩ := modalRun_append h
  obtain ⟨s₁, r₁, r₂⟩ := modalRun_append h
  unfold FixedLines.outbound at hout
  unfold FixedLines.inbound at hin
  simp only [List.forall₂_cons_right_iff, List.forall₂_nil_right_iff] at hout hin
  obtain ⟨a₁, _, ha₁, ⟨a₂, _, ha₂, ⟨a₃, _, ha₃, rfl, rfl⟩, rfl⟩, rfl⟩ := hout
  obtain ⟨b₁, _, hb₁, ⟨b₂, _, hb₂, ⟨b₃, _, hb₃, ⟨b₄, _, hb₄, ⟨b₅, _, hb₅, ⟨b₆, _, hb₆,
    ⟨b₇, _, hb₇, rfl, rfl⟩, rfl⟩, rfl⟩, rfl⟩, rfl⟩, rfl⟩, rfl⟩ := hin
  obtain ⟨⟨hx, hy, hz⟩, hload⟩ := exact_of_outbound ha₁ ha₂ ha₃ r₂
  obtain ⟨hex, hey, hsafe⟩ := exact_of_inbound hb₂ hb₃ hb₅ hb₆ (modalRun_toolLoaded r₃ hload) r₄
  have hsp : roundSig decimalPrecision f.spinupMs = f.spinupMs := roundSig_of_fits (fits_of_lt hspin)
  exact ⟨value_thousandths hx, value_thousandths hy, value_thousandths hz,
    value_thousandths hex, value_thousandths hey, value_thousandths hsafe, value_thousandths hsp⟩

end

end Custombuild.Postprocessors
