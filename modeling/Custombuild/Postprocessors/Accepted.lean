/-
  What an accepted program is: preamble, body and trailer with the numbers of the plan, and
  what the reference machine does when it runs it.
-/
import Custombuild.Postprocessors.ModalCheck
import Custombuild.Postprocessors.PocketText

namespace Custombuild.Postprocessors

open Custombuild.Lib Custombuild.Manufacturing Custombuild.Cam

/-! ## The structure of the lines -/

theorem sameLines_iff {k l : List (List GCodeWord)} :
    sameLines k l = true ↔ List.Forall₂ (fun a b => signature a = signature b) k l := by
  rw [List.forall₂_iff_zip]
  simp only [sameLines, Bool.and_eq_true, decide_eq_true_eq, List.all_eq_true, sameWords_iff]
  exact and_congr_right fun _ => ⟨fun h a b hab => h (a, b) hab, fun h p hp => h hp⟩

theorem take_drop_eq_getD {α : Type} {l : List α} {n k : Nat} (h : n + k ≤ l.length) (d : α) :
    (l.drop n).take k = (List.range k).map fun i => l.getD (n + i) d := by
  refine List.ext_getElem (by simp; omega) ?_
  intro i h₁ h₂
  simp only [List.length_take, List.length_drop] at h₁
  simp only [List.getElem_take, List.getElem_drop, List.getElem_map, List.getElem_range]
  rw [List.getD_eq_getElem?_getD, List.getElem?_eq_getElem (by omega), Option.getD_some]

section
variable {f : FixedLines}

/-- The preamble check compares every line of the preamble. -/
theorem requireBoundPreamble_inv {actual : List (List GCodeWord)}
    (h : requireBoundPreamble actual f = .ok ()) :
    List.Forall₂ (fun a b => signature a = signature b) actual f.preamble := by
  simp only [requireBoundPreamble, bind_eq_ok, require_eq_ok, decide_eq_true_eq,
    forEach_eq_ok, sameLines_iff] at h
  obtain ⟨_, hlen, _, hfirst, _, hsecond, hchecks⟩ := h
  have hlen : actual.length = 30 := hlen
  simp only [List.forall_mem_cons, sameWords_iff] at hchecks
  obtain ⟨c₁, c₂, c₃, c₄, c₅, c₆, c₇, c₈, c₉, c₁₀, -⟩ := hchecks
  have hsplit : actual = actual.take 10 ++ (actual.drop 10).take 3 ++ (actual.drop 13).take 10 ++
      (actual.drop 23).take 7 := by
    rw [← List.take_add, ← List.take_add, ← List.take_add, List.take_of_length_le (by omega)]
  rw [hsplit, take_drop_eq_getD (l := actual) (n := 10) (k := 3) (by omega) [],
    take_drop_eq_getD (l := actual) (n := 23) (k := 7) (by omega) []]
  have hout : List.Forall₂ (fun a b => signature a = signature b)
      ((List.range 3).map fun i => actual.getD (10 + i) []) f.outbound :=
    .cons c₁ (.cons c₂ (.cons c₃ .nil))
  have hin : List.Forall₂ (fun a b => signature a = signature b)
      ((List.range 7).map fun i => actual.getD (23 + i) []) f.inbound :=
    .cons c₄ (.cons c₅ (.cons c₆ (.cons c₇ (.cons c₈ (.cons c₉ (.cons c₁₀ .nil))))))
  exact List.rel_append (List.rel_append (List.rel_append hfirst hout) hsecond) hin

variable {doc : ProductionToolpathDocument} {program : ProductionProgram} {setup : BoundSetup}
  {tool : ProductionToolBinding} {lines : List ParsedLine} {moves : List ParsedProductionMove}

theorem reads_of_signatures {k : List (List GCodeWord)}
    (h : List.Forall₂ (fun a b => signature a = signature b) (lines.map ParsedLine.words) k) :
    List.Forall₂ Reads lines k := by
  rw [List.forall₂_map_left_iff] at h
  exact h

/-- Accepted lines are a preamble, a body of one line for each move, and a trailer. -/
theorem validateLines_inv (h : validateLines doc program setup tool f lines = .ok moves) :
    ∃ pre post, lines = pre ++ bodyLines f lines ++ post ∧ List.Forall₂ Reads pre f.preamble ∧
      List.Forall₂ Reads post f.trailer ∧
      (bodyLines f lines).length = program.moves.length ∧
      validateAndRoundTripMoves (motionLimits doc.executionContext setup tool)
        (bodyLines f lines) program = .ok moves ∧
      ∃ s, modalRun f ((bodyLines f lines).map ParsedLine.lineNumber) lines {} = .ok s := by
  simp only [validateLines, bind_eq_ok, require_eq_ok, decide_eq_true_eq] at h
  obtain ⟨_, hlen, _, hpre, _, hpost, moves', hmoves, _, hmodal, hret⟩ := h
  cases hret
  have hpost : List.Forall₂ Reads (lines.drop (lines.length - f.trailer.length)) f.trailer := by
    apply reads_of_signatures
    rw [List.map_drop]
    exact sameLines_iff.mp hpost
  have hpre : List.Forall₂ Reads (lines.take f.preamble.length) f.preamble := by
    apply reads_of_signatures
    rw [List.map_take]
    exact requireBoundPreamble_inv hpre
  simp only [validateModalExecution, bind_eq_ok] at hmodal
  obtain ⟨s, hmodal, -⟩ := hmodal
  refine ⟨_, _, ?_, hpre, hpost, ?_, hmoves, s, hmodal⟩
  · have hdrop : lines.drop (lines.length - f.trailer.length) = (lines.drop f.preamble.length).drop
        (lines.length - f.preamble.length - f.trailer.length) := by
      rw [List.drop_drop]
      congr 1
      omega
    rw [bodyLines, hdrop, List.append_assoc, List.take_append_drop, List.take_append_drop]
  · rw [bodyLines, List.length_take, List.length_drop]
    omega

/-! ## Body lines -/

/-- A body line with the words of a planned move: its letters, its mode and its numbers. -/
structure BodyLine (line : ParsedLine) (m : ProductionMove) : Prop where
  letters : ∀ w ∈ line.words, w.letter ∈ motionLetters m.kind
  mode : onlyWord line.words 'G' (Dec.ofInt (motionG m.kind)) = true
  x : wordUm line.words 'X' line.lineNumber = .ok m.xUm
  y : wordUm line.words 'Y' line.lineNumber = .ok m.yUm
  z : wordUm line.words 'Z' line.lineNumber = .ok m.zUm
  feed : feedOf line.words line.lineNumber m.kind = .ok m.feedUmMin

theorem roundTripMove_inv {lim : MotionLimits} {previous : Int × Int × Int} {line : ParsedLine}
    {m : ProductionMove} {move : ParsedProductionMove}
    (h : roundTripMove lim previous line m = .ok move) :
    BodyLine line m ∧ MotionRule lim previous m ∧
      move = ⟨line.lineNumber, m.kind, plannedMotion m⟩ := by
  simp only [roundTripMove, bind_eq_ok, require_eq_ok, Bool.and_eq_true, decide_eq_true_eq] at h
  obtain ⟨_, ⟨hletters, -⟩, _, hmode, x, hx, y, hy, z, hz, feed, hfeed, _, hmotion, _, hplan,
    hret⟩ := h
  cases hret
  rw [hplan] at hmotion
  have hrule := (checkMotion_eq_ok lim).mp hmotion
  simp only [plannedMotion, Motion.mk.injEq] at hplan
  obtain ⟨rfl, rfl, rfl, rfl⟩ := hplan
  refine ⟨⟨?_, hmode, hx, hy, hz, hfeed⟩, hrule, rfl⟩
  intro w hw
  simpa using List.all_eq_true.mp hletters w hw

theorem roundTripMoves_inv {lim : MotionLimits} {previous : Int × Int × Int}
    {body : List ParsedLine} {plan : List ProductionMove}
    (h : roundTripMoves lim previous body plan = .ok moves) :
    List.Forall₂ BodyLine body plan ∧ MotionRules lim previous plan ∧
      List.Forall₂ (fun (move : ParsedProductionMove) (m : ProductionMove) =>
        move.kind = m.kind ∧ move.motion = plannedMotion m) moves plan := by
  induction body generalizing previous plan moves with
  | nil =>
    cases plan with
    | nil =>
      cases h
      exact ⟨.nil, trivial, .nil⟩
    | cons m plan => cases h
  | cons line body ih =>
    cases plan with
    | nil => cases h
    | cons m plan =>
      simp only [roundTripMoves, bind_eq_ok] at h
      obtain ⟨move, hmove, rest, hrest, hret⟩ := h
      cases hret
      obtain ⟨hline, hrule, rfl⟩ := roundTripMove_inv hmove
      obtain ⟨hlines, hrules, hmoves⟩ := ih hrest
      exact ⟨.cons hline hlines, ⟨hrule, hrules⟩, .cons ⟨rfl, rfl⟩ hmoves⟩

/-! ## Execution of a body line -/

/-- No coordinate of the line is changed by the decimal product with 1000. -/
def ExactAxes (words : List GCodeWord) : Prop :=
  ∀ w ∈ words, w.letter ∈ ['X', 'Y', 'Z'] → Unrounded w.value

instance (words : List GCodeWord) : Decidable (ExactAxes words) :=
  inferInstanceAs (Decidable (∀ w ∈ words, _ → _))

theorem numberOf_of_wordUm {words : List GCodeWord} {c : Char} {n : Nat} {v : Int}
    (hexact : ExactAxes words) (hc : c ∈ ['X', 'Y', 'Z']) (h : wordUm words c n = .ok v) :
    numberOf words c = some ((v : ℚ) / 1000) := by
  unfold wordUm at h
  split at h
  · rename_i d hd
    have hmem : d ∈ wordValues words c := by rw [hd]; simp
    simp only [wordValues, List.mem_map, List.mem_filter, decide_eq_true_eq] at hmem
    obtain ⟨w, ⟨hw, hwc⟩, rfl⟩ := hmem
    rw [numberOf, hd, ← value_of_micrometres (hexact w hw (hwc ▸ hc)) (demand_eq_ok.mp h)]
    rfl
  · cases h

variable {line : ParsedLine} {m : ProductionMove} {t : ControllerTables} {s : MachineState}

theorem BodyLine.hasLetter_eq_false (hb : BodyLine line m) {c : Char}
    (hc : c ∉ ['G', 'X', 'Y', 'Z', 'F']) : hasLetter line.words c = false := by
  rw [hasLetter, List.any_eq_false]
  intro w hw
  have hmem := hb.letters w hw
  have hsub : w.letter ∈ ['G', 'X', 'Y', 'Z', 'F'] := by
    cases hk : m.kind <;> simp_all [motionLetters]
    tauto
  simp only [decide_eq_true_eq]
  exact fun h => hc (h ▸ hsub)

theorem BodyLine.hasWord_eq_false (hb : BodyLine line m) {c : Char} {d : Dec}
    (hc : c ∉ ['G', 'X', 'Y', 'Z', 'F']) : hasWord line.words c d = false := by
  unfold hasWord
  rw [wordValues_eq_nil.mpr (hb.hasLetter_eq_false hc)]
  rfl

/-- The only G number of a body line is that of its mode. -/
theorem BodyLine.hasG (hb : BodyLine line m) (d : Dec) :
    hasWord line.words 'G' d = (Dec.ofInt (motionG m.kind)).same d := by
  have hmode := hb.mode
  unfold onlyWord at hmode
  split at hmode
  · rename_i e he
    rw [hasWord_of_values d he, Bool.eq_iff_iff, Dec.same_iff, Dec.same_iff,
      Dec.same_iff.mp hmode]
  · cases hmode

/-- A body line moves to its planned position under the offsets of the body. -/
theorem execute_bodyLine (hb : BodyLine line m) (hexact : ExactAxes line.words)
    (hr : Running f s) (hw : WorkFrame f s) :
    execute t line.words s = { s with
      motion := some m.kind
      position := bodyOffset t f + Position.ofUm m.xUm m.yUm m.zUm } := by
  have hG (n : Int) : wordG line.words n = decide (motionG m.kind = n) := by
    rw [wordG, hb.hasG, Dec.same_ofInt]
  have hM (n : Int) : wordM line.words n = false := hb.hasWord_eq_false (by decide)
  have hS : numberOf line.words 'S' = none := numberOf_eq_none (hb.hasLetter_eq_false (by decide))
  have hT : numberOf line.words 'T' = none := numberOf_eq_none (hb.hasLetter_eq_false (by decide))
  have h92 : hasWord line.words 'G' ⟨921, 1⟩ = false := by
    rw [hb.hasG, same_ofInt_reset]
    cases m.kind <;> rfl
  have hX := numberOf_of_wordUm hexact (by simp) hb.x
  have hY := numberOf_of_wordUm hexact (by simp) hb.y
  have hZ := numberOf_of_wordUm hexact (by simp) hb.z
  have hchange : changeTool t line.words s = s := by
    simp [changeTool, hS, hT, hM]
  have hspindle : turnSpindle line.words s = s := by
    cases hk : m.kind <;> simp [turnSpindle, hM, hG, hk, motionG]
  have hmodes : setModes line.words s = { s with motion := some m.kind } := by
    cases hk : m.kind <;>
      simp [setModes, selectedWcs, motionMode, hG, h92, hk, motionG, wcsNumber]
  have hlive : liveOffset t { s with motion := some m.kind } = bodyOffset t f :=
    liveOffset_eq ⟨hw.metric, hw.absolute, hw.wcs, hw.g92⟩ hr.length
  have h53 : wordG line.words 53 = false := by
    rw [hG]
    cases m.kind <;> rfl
  unfold execute
  rw [hchange, hspindle, hmodes]
  unfold moveAxes
  rw [if_pos (by rfl), hlive]
  simp [axisTarget, hX, hY, hZ, h53, hw.metric, hw.absolute, Position.ofUm]
  rfl

/-! ## The run of the body -/

/-- Height of the stock top and of the safe plane in machine coordinates, for a setup and a
    tool. -/
def stockTopZ (setup : BoundSetup) (tool : ProductionToolBinding) : ℚ :=
  ((setup.machineWcsZ0Um + tool.expectedLengthOffsetZUm : Int) : ℚ) / 1000

def safePlaneZ (setup : BoundSetup) (tool : ProductionToolBinding) : ℚ :=
  stockTopZ setup tool + setup.safeZUm / 1000

/-- A line of the body: it ends inside the machine, runs with tool, length offset and spindle
    as bound, a rapid ends above the stock and moves in XY only at the safe plane. -/
structure SafeBodyLine (profile : LinuxCNCProductionMachineProfile) (setup : BoundSetup)
    (tool : ProductionToolBinding) (f : FixedLines) (before : MachineState)
    (words : List GCodeWord) (after : MachineState) : Prop where
  in_bounds : InMachineBounds profile after.position
  running : Running f before ∧ Running f after
  no_tool_change : wordM words 6 = false
  rapid_end : after.motion = some .rapid → stockTopZ setup tool ≤ after.position.z
  rapid_xy : after.motion = some .rapid →
    after.position.x ≠ before.position.x ∨ after.position.y ≠ before.position.y →
      before.position.z = safePlaneZ setup tool ∧ after.position.z = safePlaneZ setup tool

section
variable {profile : LinuxCNCProductionMachineProfile} {lim : MotionLimits}

/-- The offsets of the body are those of setup and tool. -/
def OffsetsOf (setup : BoundSetup) (tool : ProductionToolBinding) (offset : Position) : Prop :=
  offset = Position.ofUm (setup.machineWcsOrigin.xUm + tool.expectedLengthOffsetXUm)
    (setup.machineWcsOrigin.yUm + tool.expectedLengthOffsetYUm)
    (setup.machineWcsZ0Um + tool.expectedLengthOffsetZUm)

theorem safe_bodyLine {previous : Int × Int × Int}
    (hoff : OffsetsOf setup tool (bodyOffset t f))
    (hb : BodyLine line m) (hexact : ExactAxes line.words) (hr : Running f s)
    (hw : WorkFrame f s) (hrule : MotionRule lim previous m) (hsafe : lim.safeZUm = setup.safeZUm)
    (hin : InMachineBounds profile (bodyOffset t f + Position.ofUm m.xUm m.yUm m.zUm))
    (hpos : s.position = bodyOffset t f + Position.ofUm previous.1 previous.2.1 previous.2.2)
    (hprev : previous.2.2 ≤ setup.safeZUm) :
    SafeBodyLine profile setup tool f s line.words (execute t line.words s) := by
  have hrun := execute_bodyLine (t := t) hb hexact hr hw
  have hz : (bodyOffset t f).z = stockTopZ setup tool := by
    rw [hoff]
    rfl
  rw [hrun]
  refine ⟨hin, ⟨hr, ⟨hr.loaded, hr.length, hr.spindle, hr.dwelled⟩⟩,
    hb.hasWord_eq_false (by decide), ?_, ?_⟩
  · intro hrapid
    obtain ⟨hnonneg, -⟩ := hrule.rapid (Option.some.inj hrapid)
    have hup : (0 : ℚ) ≤ (m.zUm : ℚ) / 1000 :=
      div_nonneg (by exact_mod_cast hnonneg) (by norm_num)
    show stockTopZ setup tool ≤ (bodyOffset t f).z + (m.zUm : ℚ) / 1000
    rw [hz]
    linarith
  · intro hrapid hxy
    obtain ⟨-, hmoves, -⟩ := hrule.rapid (Option.some.inj hrapid)
    have hne : m.xUm ≠ previous.1 ∨ m.yUm ≠ previous.2.1 := by
      rw [hpos] at hxy
      refine hxy.imp (fun h heq => h ?_) (fun h heq => h ?_) <;> simp [Position.ofUm, heq]
    obtain ⟨hlow, hend⟩ := hmoves hne
    have hstart : previous.2.2 = setup.safeZUm := by omega
    refine ⟨?_, ?_⟩
    · rw [hpos]
      show (bodyOffset t f).z + (previous.2.2 : ℚ) / 1000 = _
      rw [hz, hstart]
      rfl
    · show (bodyOffset t f).z + (m.zUm : ℚ) / 1000 = _
      rw [hz, hend, hsafe]
      rfl

/-- The body as a whole: every line is safe, and it leaves the machine in the same modes. -/
theorem along_body {body : List ParsedLine} {plan : List ProductionMove}
    {previous : Int × Int × Int} (hoff : OffsetsOf setup tool (bodyOffset t f))
    (hlines : List.Forall₂ BodyLine body plan) (hexact : ∀ line ∈ body, ExactAxes line.words)
    (hrules : MotionRules lim previous plan) (hsafe : lim.safeZUm = setup.safeZUm)
    (hin : ∀ previous m, MotionRule lim previous m →
      InMachineBounds profile (bodyOffset t f + Position.ofUm m.xUm m.yUm m.zUm))
    (hr : Running f s) (hw : WorkFrame f s) (hs : InMachineBounds profile s.position)
    (hpos : s.position = bodyOffset t f + Position.ofUm previous.1 previous.2.1 previous.2.2)
    (hprev : previous.2.2 ≤ setup.safeZUm) :
    Along (execute t) (SafeBodyLine profile setup tool f) s (body.map ParsedLine.words) ∧
      Running f (runAll (execute t) s (body.map ParsedLine.words)) ∧
      WorkFrame f (runAll (execute t) s (body.map ParsedLine.words)) ∧
      InMachineBounds profile (runAll (execute t) s (body.map ParsedLine.words)).position := by
  induction hlines generalizing s previous with
  | nil => exact ⟨trivial, hr, hw, hs⟩
  | @cons line m body plan hb hlines ih =>
    obtain ⟨hrule, hrules⟩ := hrules
    have hline := hexact line List.mem_cons_self
    have hthis := safe_bodyLine hoff hb hline hr hw hrule hsafe (hin _ _ hrule) hpos hprev
    have hrun := execute_bodyLine (t := t) hb hline hr hw
    have hw' : WorkFrame f (execute t line.words s) := by
      rw [hrun]
      exact ⟨hw.metric, hw.absolute, hw.wcs, hw.g92⟩
    have hz : m.zUm ≤ setup.safeZUm := hsafe ▸ hrule.in_depth.2
    obtain ⟨hrest, hend⟩ := ih (fun line hline => hexact line (List.mem_cons_of_mem _ hline))
      hrules hthis.running.2 hw' hthis.in_bounds (by rw [hrun]) hz
    exact ⟨⟨hthis, hrest⟩, hend⟩

end

/-! ## Acceptance -/

theorem onlyOne_eq_some {α : Type} {l : List α} {a : α} (h : onlyOne l = some a) : l = [a] := by
  unfold onlyOne at h
  split at h
  · cases h
    rfl
  · cases h

theorem find_of_onlyOne {α : Type} {l : List α} {p : α → Bool} {a : α}
    (h : onlyOne (l.filter p) = some a) : l.find? p = some a := by
  rw [← List.head?_filter, onlyOne_eq_some h]
  rfl

variable {env : FingerprintEnv} {profile : LinuxCNCProductionMachineProfile} {payload : Payload}
  {parsed : ParsedProductionProgram}

/-- The bindings of an accepted program: its setup, its tool, its first move, and the spindle
    speed that all its recipes share. -/
structure BindsRun (doc : ProductionToolpathDocument) (program : ProductionProgram)
    (setup : BoundSetup) (tool : ProductionToolBinding) (first : ProductionMove) (rpm : Int) :
    Prop where
  member : program ∈ doc.programs
  setup : doc.executionContext.setupById program.setupId = some setup
  tool : doc.executionContext.toolById program.toolId = some tool
  first : program.moves.head? = some first
  rpm : ∀ id ∈ program.recipeIds, ∃ r, doc.executionContext.recipeById id = some r ∧
    r.spindleRpm = rpm

theorem requireRecipes_rpm {rpm : Int} (h : requireRecipes doc program setup = .ok rpm) :
    ∀ id ∈ program.recipeIds, ∃ r, doc.executionContext.recipeById id = some r ∧
      r.spindleRpm = rpm := by
  simp only [requireRecipes, bind_eq_ok, demand_eq_ok] at h
  obtain ⟨recipes, hrecipes, _, -, rpm', hrpm, _, -, hret⟩ := h
  cases hret
  have hone : (recipes.map CuttingRecipe.spindleRpm).dedup = [rpm] := onlyOne_eq_some hrpm
  intro id hid
  obtain ⟨r, hr, hfind⟩ := exists_of_mapM hrecipes hid
  have hmem : r.spindleRpm ∈ (recipes.map CuttingRecipe.spindleRpm).dedup :=
    List.mem_dedup.mpr (List.mem_map_of_mem hr)
  rw [hone, List.mem_singleton] at hmem
  exact ⟨r, hfind, hmem⟩

/-- What acceptance means: the bindings, the parsed text, the checks of the setup and those
    of the lines. -/
theorem validateProductionProgram_inv
    (h : validateProductionProgram env doc profile payload program = .ok parsed) :
    ∃ setup tool first rpm, BindsRun doc program setup tool first rpm ∧
      requireMachineProfileBinding doc profile = .ok () ∧
      requireSetupOffsets profile setup tool = .ok () ∧
      parseProductionProgram payload = .ok parsed.lines ∧
      ((profile.machineXMinUm ≤ entryMachineXUm setup tool first ∧
          entryMachineXUm setup tool first ≤ profile.machineXMaxUm) ∧
        profile.machineYMinUm ≤ entryMachineYUm setup tool first ∧
          entryMachineYUm setup tool first ≤ profile.machineYMaxUm) ∧
      validateLines doc program setup tool (fixedLines profile setup tool first rpm)
        parsed.lines = .ok parsed.moves := by
  simp only [validateProductionProgram, bind_eq_ok, require_eq_ok, demand_eq_ok] at h
  obtain ⟨_, hmem, _, hprofile, setup, hsetup, tool, htool, _, hoffsets, _, -, rpm, hrpm, text,
    htext, lines, hlines, first, hfirst, _, -, _, -, _, hentry, moves, hmoves, hret⟩ := h
  cases hret
  refine ⟨setup, tool, first, rpm, ⟨?_, ?_, ?_, hfirst, requireRecipes_rpm hrpm⟩, hprofile,
    hoffsets, ?_, ?_, hmoves⟩
  · simpa using hmem
  · have := find_of_onlyOne hsetup
    simpa [ProductionExecutionContext.setupById, beq_eq_decide] using this
  · have := find_of_onlyOne htool
    simpa [ProductionExecutionContext.toolById, beq_eq_decide] using this
  · rw [parseProductionProgram, htext]
    exact hlines
  · simp only [Bool.and_eq_true, decide_eq_true_eq] at hentry
    exact ⟨hentry.1.1, hentry.1.2, hentry.2⟩

/-- The controller tables of setup and tool, once the setup offset has been checked. -/
theorem offsetsOf_boundTables {first : ProductionMove} {rpm : Int}
    (remap : MachineState → MachineState) (hbind : BindsRun doc program setup tool first rpm)
    (hoffsets : requireSetupOffsets profile setup tool = .ok ()) :
    OffsetsOf setup tool (bodyOffset (boundTables profile doc.executionContext remap)
      (fixedLines profile setup tool first rpm)) := by
  simp only [requireSetupOffsets, bind_eq_ok, require_eq_ok, demand_eq_ok, Bool.and_eq_true,
    decide_eq_true_eq] at hoffsets
  obtain ⟨_, -, offset, hoffset, _, ⟨⟨hx, hy⟩, hz⟩, -⟩ := hoffsets
  have hwork := find_of_onlyOne hoffset
  have hmem : tool ∈ doc.executionContext.toolBindings := List.mem_of_find?_eq_some hbind.tool
  have htool : doc.executionContext.toolBindings.find? (fun b =>
      ((b.lengthOffsetNumber : ℚ) = (tool.lengthOffsetNumber : ℚ) : Bool)) = some tool :=
    find_of_nodup doc.executionContext.offsetNumbers_nodup hmem fun b => by simp
  unfold OffsetsOf bodyOffset
  show Position.mk _ _ _ = _
  simp only [boundTables, fixedLines, hwork, htool, Position.ofUm, hx, hy, hz]
  ext <;> push_cast <;> ring

theorem inBounds_ofUm {x y z : Int}
    (hx : profile.machineXMinUm ≤ x ∧ x ≤ profile.machineXMaxUm)
    (hy : profile.machineYMinUm ≤ y ∧ y ≤ profile.machineYMaxUm)
    (hz : profile.machineZMinUm ≤ z ∧ z ≤ profile.machineZMaxUm) :
    InMachineBounds profile (Position.ofUm x y z) := by
  have cast {a b : Int} (h : a ≤ b) : (a : ℚ) / 1000 ≤ b / 1000 :=
    div_le_div_of_nonneg_right (by exact_mod_cast h) (by norm_num)
  exact ⟨⟨cast hx.1, cast hx.2⟩, ⟨cast hy.1, cast hy.2⟩, cast hz.1, cast hz.2⟩

/-- The planned positions are inside the machine, because the bounds of the profile are those
    of the context. -/
theorem inBounds_of_rule {offset : Position} {previous : Int × Int × Int}
    (hprofile : requireMachineProfileBinding doc profile = .ok ())
    (hoff : OffsetsOf setup tool offset)
    (hrule : MotionRule (motionLimits doc.executionContext setup tool) previous m) :
    InMachineBounds profile (offset + Position.ofUm m.xUm m.yUm m.zUm) := by
  simp only [requireMachineProfileBinding, bind_eq_ok, require_eq_ok, Bool.and_eq_true,
    decide_eq_true_eq] at hprofile
  obtain ⟨_, -, _, -, _, ⟨⟨⟨⟨⟨h1, h2⟩, h3⟩, h4⟩, h5⟩, h6⟩, -⟩ := hprofile
  have hx := hrule.in_machine_x
  have hy := hrule.in_machine_y
  have hz := hrule.in_machine_z
  simp only [motionLimits] at hx hy hz
  have hsum : offset + Position.ofUm m.xUm m.yUm m.zUm =
      Position.ofUm (setup.machineWcsOrigin.xUm + m.xUm + tool.expectedLengthOffsetXUm)
        (setup.machineWcsOrigin.yUm + m.yUm + tool.expectedLengthOffsetYUm)
        (setup.machineWcsZ0Um + m.zUm + tool.expectedLengthOffsetZUm) := by
    rw [hoff]
    ext <;> simp [Position.ofUm] <;> ring
  rw [hsum]
  exact inBounds_ofUm (by omega) (by omega) (by omega)

theorem boundLines_of_accepted {first : ProductionMove} {rpm : Int}
    {remap : MachineState → MachineState} (hbind : BindsRun doc program setup tool first rpm)
    (hoffsets : requireSetupOffsets profile setup tool = .ok ())
    (hentry : (profile.machineXMinUm ≤ entryMachineXUm setup tool first ∧
        entryMachineXUm setup tool first ≤ profile.machineXMaxUm) ∧
      profile.machineYMinUm ≤ entryMachineYUm setup tool first ∧
        entryMachineYUm setup tool first ≤ profile.machineYMaxUm) :
    BoundLines profile (boundTables profile doc.executionContext remap)
      (fixedLines profile setup tool first rpm) where
  toolChange := rfl
  entry := inBounds_ofUm hentry.1 hentry.2 ⟨profile.z_range.2.1, profile.z_range.2.2⟩
  safe := by
    have hoff := offsetsOf_boundTables remap hbind hoffsets
    simp only [requireSetupOffsets, bind_eq_ok, require_eq_ok, Bool.and_eq_true,
      decide_eq_true_eq] at hoffsets
    obtain ⟨_, -, _, -, _, -, _, -, _, ⟨hlow, hhigh⟩, -⟩ := hoffsets
    have hz := congrArg Position.z hoff
    have hbound : InMachineBounds profile (Position.ofUm profile.toolChangeXUm
        profile.toolChangeYUm
        (setup.machineWcsZ0Um + setup.safeZUm + tool.expectedLengthOffsetZUm)) :=
      inBounds_ofUm profile.x_range.2 profile.y_range.2 ⟨hlow, hhigh⟩
    have hsum : (bodyOffset (boundTables profile doc.executionContext remap)
        (fixedLines profile setup tool first rpm)).z + (setup.safeZUm : ℚ) / 1000 =
        ((setup.machineWcsZ0Um + setup.safeZUm + tool.expectedLengthOffsetZUm : Int) : ℚ) /
          1000 := by
      rw [hz]
      simp only [Position.ofUm]
      push_cast
      ring
    have hgoal := hbound.2.2
    simp only [Position.ofUm, ← hsum] at hgoal
    exact hgoal

/-! ## Safety of the whole run -/

/-- The state before line `k` of a run. -/
def stateBefore (t : ControllerTables) (start : MachineState) (lines : List ParsedLine)
    (k : Nat) : MachineState :=
  runAll (execute t) start ((lines.take k).map ParsedLine.words)

/-- Every executed line is safe: the lines between preamble and trailer as lines of the body,
    the others as fixed lines. -/
def SafeRun (profile : LinuxCNCProductionMachineProfile) (setup : BoundSetup)
    (tool : ProductionToolBinding) (f : FixedLines) (t : ControllerTables)
    (start : MachineState) (lines : List ParsedLine) : Prop :=
  ∀ k line, lines[k]? = some line →
    (if f.preamble.length ≤ k ∧ k + f.trailer.length < lines.length
      then SafeBodyLine profile setup tool f else SafeFixedLine profile)
      (stateBefore t start lines k) line.words
      (execute t line.words (stateBefore t start lines k))

theorem along_congr {R : MachineState → List GCodeWord → MachineState → Prop}
    (hR : ∀ before after k l, signature k = signature l → R before l after → R before k after)
    {words : List (List GCodeWord)} (hread : List.Forall₂ Reads lines words)
    (h : Along (execute t) R s words) :
    Along (execute t) R s (lines.map ParsedLine.words) ∧
      runAll (execute t) s (lines.map ParsedLine.words) = runAll (execute t) s words := by
  induction hread generalizing s with
  | nil => exact ⟨trivial, rfl⟩
  | @cons line w lines words hline hread ih =>
    have hexec : execute t line.words = execute t w := execute_congr t hline
    obtain ⟨hthis, hrest⟩ := h
    obtain ⟨halong, hrun⟩ := ih hrest
    rw [List.map_cons, runAll_cons, runAll_cons, hexec]
    exact ⟨⟨hexec ▸ hR _ _ _ _ hline hthis, hexec ▸ halong⟩, hrun⟩

theorem safeFixedLine_congr {before after : MachineState} {k l : List GCodeWord}
    (h : signature k = signature l) (hl : SafeFixedLine profile before l after) :
    SafeFixedLine profile before k after :=
  ⟨hl.in_bounds, hl.traverse, fun hM => hl.tool_change (by rwa [wordM, ← hasWord_congr h])⟩

/-- Safety along preamble, body and trailer is safety of every line. -/
theorem safeRun_of_along {pre body post : List ParsedLine} {start : MachineState}
    (hpre : pre.length = f.preamble.length) (hpost : post.length = f.trailer.length)
    (h₁ : Along (execute t) (SafeFixedLine profile) start (pre.map ParsedLine.words))
    (h₂ : Along (execute t) (SafeBodyLine profile setup tool f)
      (runAll (execute t) start (pre.map ParsedLine.words)) (body.map ParsedLine.words))
    (h₃ : Along (execute t) (SafeFixedLine profile)
      (runAll (execute t) start ((pre ++ body).map ParsedLine.words))
      (post.map ParsedLine.words)) :
    SafeRun profile setup tool f t start (pre ++ body ++ post) := by
  intro k line hk
  have hkw : ((pre ++ body ++ post).map ParsedLine.words)[k]? = some line.words := by
    rw [List.getElem?_map, hk]
    rfl
  unfold stateBefore
  rw [List.map_take]
  simp only [List.map_append] at hkw h₃ ⊢
  generalize hP : pre.map ParsedLine.words = P at *
  generalize hB : body.map ParsedLine.words = B at *
  generalize hQ : post.map ParsedLine.words = Q at *
  have hPl : P.length = f.preamble.length := by rw [← hP, List.length_map, hpre]
  have hQl : Q.length = f.trailer.length := by rw [← hQ, List.length_map, hpost]
  have hBl : B.length = body.length := by rw [← hB, List.length_map]
  have htotal : (pre ++ body ++ post).length = P.length + B.length + Q.length := by
    rw [List.length_append, List.length_append, hpre, hpost, hPl, hQl, hBl]
  rcases Nat.lt_or_ge k P.length with hlt | hge
  · rw [if_neg (by omega)]
    rw [List.append_assoc, List.getElem?_append_left hlt] at hkw
    rw [List.append_assoc, List.take_append_of_le_length (by omega)]
    exact h₁.at_index hkw
  · rcases Nat.lt_or_ge k (P.length + B.length) with hlt | hge'
    · obtain ⟨j, rfl⟩ := Nat.exists_eq_add_of_le hge
      rw [if_pos (by omega)]
      rw [List.append_assoc, List.getElem?_append_right hge, Nat.add_sub_cancel_left,
        List.getElem?_append_left (by omega)] at hkw
      rw [List.append_assoc, runAll_take_add, List.take_append_of_le_length (by omega)]
      exact h₂.at_index hkw
    · obtain ⟨j, rfl⟩ := Nat.exists_eq_add_of_le hge'
      rw [if_neg (by omega)]
      rw [List.getElem?_append_right (by rw [List.length_append]; exact hge'),
        List.length_append, Nat.add_sub_cancel_left] at hkw
      rw [← List.length_append, runAll_take_add]
      exact h₃.at_index hkw

/-- The first move does not change the XY position of the program entry. -/
theorem rules_from_entry {lim : MotionLimits} {previous : Int × Int × Int}
    {plan : List ProductionMove} {first : ProductionMove} (hfirst : plan.head? = some first)
    (h : MotionRules lim previous plan) :
    MotionRules lim (first.xUm, first.yUm, lim.safeZUm) plan := by
  cases plan with
  | nil => cases hfirst
  | cons m rest =>
    cases hfirst
    obtain ⟨hrule, hrest⟩ := h
    refine ⟨{ hrule with rapid := fun hk => ?_ }, hrest⟩
    obtain ⟨hnonneg, -, hrole⟩ := hrule.rapid hk
    refine ⟨hnonneg, fun hne => ?_, hrole⟩
    rcases hne with hne | hne <;> exact absurd rfl hne

/-- Every coordinate of the text is exact: the condition under which acceptance is safe. -/
def ExactPayload (payload : Payload) : Prop :=
  ∀ lines, parseProductionProgram payload = .ok lines →
    ∀ line ∈ lines, ExactAxes line.words

/-- An accepted text whose coordinates are exact runs safely on the bound machine, from any
    state inside the machine and whatever M6 does to the modes. -/
theorem accepted_exact_program_runs_safely
    (h : validateProductionProgram env doc profile payload program = .ok parsed)
    (hexact : ExactPayload payload) :
    ∃ setup tool first rpm, BindsRun doc program setup tool first rpm ∧
      ∀ (remap : MachineState → MachineState) (start : MachineState),
        InMachineBounds profile start.position →
        SafeRun profile setup tool (fixedLines profile setup tool first rpm)
          (boundTables profile doc.executionContext remap) start parsed.lines := by
  obtain ⟨setup, tool, first, rpm, hbind, hprofile, hoffsets, hparse, hentry, hlines⟩ :=
    validateProductionProgram_inv h
  refine ⟨setup, tool, first, rpm, hbind, ?_⟩
  intro remap start hstart
  generalize hf : fixedLines profile setup tool first rpm = f at hlines ⊢
  obtain ⟨pre, post, hsplit, hpre, hpost, -, hmoves, state, hmodal⟩ := validateLines_inv hlines
  generalize hbody : bodyLines f parsed.lines = body at hsplit hmoves hmodal
  have hall : ∀ line ∈ parsed.lines, ExactAxes line.words := hexact _ hparse
  rw [hsplit] at hmodal hall ⊢
  obtain ⟨_, hmodal, -⟩ := modalRun_append hmodal
  obtain ⟨_, hmodal, -⟩ := modalRun_append hmodal
  have hspin : f.spinupMs.natAbs < 10 ^ 28 := by
    have hrange := profile.spinup_range
    have heq : f.spinupMs = profile.spindleSpinupMs := by rw [← hf]; rfl
    omega
  have hexactLines := exactLines_of_modalRun hpre hspin hmodal
  have hbound : BoundLines profile (boundTables profile doc.executionContext remap) f :=
    hf ▸ boundLines_of_accepted hbind hoffsets hentry
  have hoff : OffsetsOf setup tool
      (bodyOffset (boundTables profile doc.executionContext remap) f) :=
    hf ▸ offsetsOf_boundTables remap hbind hoffsets
  generalize boundTables profile doc.executionContext remap = t at hbound hoff ⊢
  -- the preamble
  obtain ⟨halong, hrunning, hwork, hposition⟩ := run_preamble hexactLines hbound hstart
  have hcongr : ∀ before after k l, signature k = signature l →
      SafeFixedLine profile before l after → SafeFixedLine profile before k after :=
    fun _ _ _ _ hsig hl => safeFixedLine_congr hsig hl
  obtain ⟨halong₁, hrun₁⟩ := along_congr hcongr hpre halong
  rw [← hrun₁] at hrunning hwork hposition
  -- the body, from the entry at the safe plane
  simp only [validateAndRoundTripMoves, bind_eq_ok] at hmoves
  obtain ⟨_, -, hmoves⟩ := hmoves
  obtain ⟨hbodyLines, hrules, -⟩ := roundTripMoves_inv hmoves
  have hentered := rules_from_entry hbind.first hrules
  have hsafeZ : f.safeZUm = setup.safeZUm := by rw [← hf]; rfl
  have hpos : (runAll (execute t) start (pre.map ParsedLine.words)).position =
      bodyOffset t f + Position.ofUm first.xUm first.yUm setup.safeZUm := by
    rw [hposition, hsafeZ]
    have hx : f.entryXUm = entryMachineXUm setup tool first := by rw [← hf]; rfl
    have hy : f.entryYUm = entryMachineYUm setup tool first := by rw [← hf]; rfl
    rw [hx, hy, hoff]
    ext <;> simp [Position.ofUm, entryMachineXUm, entryMachineYUm] <;> ring
  have hin₁ : InMachineBounds profile
      (runAll (execute t) start (pre.map ParsedLine.words)).position := by
    rw [hposition]
    have hentryIn := hbound.entry
    exact ⟨hentryIn.1, hentryIn.2.1, hbound.safe⟩
  obtain ⟨halong₂, hrunning, hwork, hin₂⟩ := along_body hoff hbodyLines
    (fun line hline => hall line (by simp [hline])) hentered rfl
    (fun _ _ hrule => inBounds_of_rule hprofile hoff hrule) hrunning hwork hin₁ hpos le_rfl
  -- the trailer
  rw [← runAll_append, ← List.map_append] at hrunning hwork hin₂
  have halong := run_trailer hexactLines hbound hrunning hwork hin₂
  obtain ⟨halong₃, -⟩ := along_congr hcongr hpost halong
  exact safeRun_of_along hpre.length_eq hpost.length_eq halong₁ halong₂ halong₃

/-- What is emitted for a program has been validated against it. -/
def Validated (env : FingerprintEnv) (profile : LinuxCNCProductionMachineProfile)
    (doc : ProductionToolpathDocument) (program : ProductionProgram)
    (output : ProductionMachineProgram) : Prop :=
  ∃ parsed, validateProductionProgram env doc profile (.bytes output.content) program = .ok parsed

/-- What holds of every generated program holds of the plans and the outputs, one by one. -/
theorem forall_of_generate {P : ProductionProgram → ProductionMachineProgram → Prop}
    {outputs : List ProductionMachineProgram} (h : generate env profile doc = .ok outputs)
    (hP : ∀ {filenames program output},
      generateProgram env profile doc filenames program = .ok output → P program output) :
    List.Forall₂ P doc.programs outputs := by
  have hrun : ∀ {filenames programs outputs},
      generatePrograms env profile doc filenames programs = .ok outputs →
      List.Forall₂ P programs outputs := by
    intro filenames programs outputs h
    induction programs generalizing filenames outputs with
    | nil =>
      cases h
      exact .nil
    | cons program rest ih =>
      simp only [generatePrograms, bind_eq_ok] at h
      obtain ⟨output, houtput, more, hmore, hret⟩ := h
      cases hret
      exact .cons (hP houtput) (ih hmore)
  simp only [generate, bind_eq_ok] at h
  obtain ⟨_, -, _, hprograms, _, -, hret⟩ := h
  cases hret
  exact hrun hprograms

theorem generate_validated {outputs : List ProductionMachineProgram}
    (h : generate env profile doc = .ok outputs) :
    List.Forall₂ (Validated env profile doc) doc.programs outputs := by
  refine forall_of_generate h fun hprogram => ?_
  simp only [generateProgram, bind_eq_ok] at hprogram
  obtain ⟨_, -, _, -, _, -, parsed, hparsed, _, -, houtput⟩ := hprogram
  cases houtput
  exact ⟨parsed, hparsed⟩

end

/-! ## Two texts of the pocket run -/

namespace PocketRun

/-- The machine at the origin, with every mode off. -/
def start : MachineState where
  position := 0
  metric := false
  absolute := false
  motion := none
  wcs := .g59
  g92Offset := 0
  selectedTool := 0
  loadedTool := 0
  lengthOffset := none
  speed := 0
  spindle := none
  dwelled := 0

def tables : ControllerTables := boundTables profile document.executionContext id

/-- The second move of the body is a rapid that changes X and does not end at the safe
    plane. -/
def leavesSafePlane (lines : List ParsedLine) : Bool :=
  match lines[31]? with
  | none => false
  | some line =>
    let before := stateBefore tables start lines 31
    let after := execute tables line.words before
    lines.length = 42 && after.motion = some .rapid &&
      after.position.x ≠ before.position.x &&
      after.position.z ≠ safePlaneZ PanelJob.boundSetup PanelJob.routerBinding

/-- Whether the coordinates of all lines are exact. -/
def isExact (lines : List ParsedLine) : Bool := lines.all fun line => decide (ExactAxes line.words)

/-- The second rapid stops below the safe plane by less than what 28 digits can hold. -/
def lower (line : List Char) : List Char :=
  if line = "G0 X40.000 Y30.000 Z15.000".toList
  then "G0 X40.000 Y30.000 Z14.9999999999999999999999999999".toList else line

/-- Both texts are accepted; the first has exact coordinates, the second leaves the plane. -/
theorem code_accepted :
    okAnd codeLines (fun code =>
      isAccepted isExact code && isAccepted leavesSafePlane (code.map lower)) = true := by
  decide +kernel

example : lower "M30".toList = "M30".toList := by decide +kernel

theorem exists_outputs : ∃ outputs, generate env profile document = .ok outputs := by
  obtain ⟨code, hcode, haccepted⟩ := exists_of_okAnd code_accepted
  exact generate_ok hcode ((Bool.and_eq_true_iff).mp haccepted).1

theorem exists_accepted_text {code : List (List Char)} {final : List ParsedLine → Bool}
    (h : isAccepted final code = true) : ∃ payload parsed,
      validateProductionProgram env document profile payload program = .ok parsed ∧
        final parsed.lines = true := by
  have hcode := codeLines_of_isCode ((Bool.and_eq_true_iff).mp h).1
  obtain ⟨parsed, hparsed⟩ := exists_accepted h (asciiText_textOf hcode)
  exact ⟨_, parsed, hparsed⟩

theorem exists_exact : ∃ payload parsed, ExactPayload payload ∧
    validateProductionProgram env document profile payload program = .ok parsed := by
  obtain ⟨code, -, haccepted⟩ := exists_of_okAnd code_accepted
  obtain ⟨payload, parsed, hparsed, hexact⟩ :=
    exists_accepted_text ((Bool.and_eq_true_iff).mp haccepted).1
  refine ⟨payload, parsed, ?_, hparsed⟩
  intro lines hlines line hline
  obtain ⟨-, -, -, -, -, -, -, hparse, -⟩ := validateProductionProgram_inv hparsed
  rw [hparse] at hlines
  cases hlines
  exact of_decide_eq_true (List.all_eq_true.mp hexact line hline)

theorem exists_lowered : ∃ payload parsed,
    validateProductionProgram env document profile payload program = .ok parsed ∧
      leavesSafePlane parsed.lines = true := by
  obtain ⟨code, -, haccepted⟩ := exists_of_okAnd code_accepted
  exact exists_accepted_text ((Bool.and_eq_true_iff).mp haccepted).2

theorem start_inBounds : InMachineBounds profile start.position := by
  simp only [InMachineBounds, profile, start]
  norm_num

end PocketRun

/-- The text of the pocket run runs safely. -/
theorem accepted_exact_pocket_runs_safely :
    ∃ payload parsed, ExactPayload payload ∧
      validateProductionProgram PocketRun.env PocketRun.document PocketRun.profile payload
        PocketRun.program = .ok parsed ∧
      InMachineBounds PocketRun.profile PocketRun.start.position ∧
      ∃ setup tool first rpm,
        BindsRun PocketRun.document PocketRun.program setup tool first rpm ∧
        SafeRun PocketRun.profile setup tool (fixedLines PocketRun.profile setup tool first rpm)
          PocketRun.tables PocketRun.start parsed.lines := by
  obtain ⟨payload, parsed, hpayload, hparsed⟩ := PocketRun.exists_exact
  obtain ⟨setup, tool, first, rpm, hbind, hsafe⟩ :=
    accepted_exact_program_runs_safely hparsed hpayload
  exact ⟨payload, parsed, hpayload, hparsed, PocketRun.start_inBounds, setup, tool, first, rpm,
    hbind, hsafe id PocketRun.start PocketRun.start_inBounds⟩

/-- A coordinate of more than 28 digits is accepted by its rounded value: an accepted text may
    move in XY below the safe plane. -/
theorem accepted_program_may_leave_safe_plane :
    ¬ ∀ (env : FingerprintEnv) (doc : ProductionToolpathDocument)
      (profile : LinuxCNCProductionMachineProfile) (payload : Payload)
      (program : ProductionProgram) (parsed : ParsedProductionProgram),
      validateProductionProgram env doc profile payload program = .ok parsed →
      ∃ setup tool first rpm, BindsRun doc program setup tool first rpm ∧
        ∀ (remap : MachineState → MachineState) (start : MachineState),
          InMachineBounds profile start.position →
          SafeRun profile setup tool (fixedLines profile setup tool first rpm)
            (boundTables profile doc.executionContext remap) start parsed.lines := by
  intro hall
  obtain ⟨payload, parsed, hparsed, hleaves⟩ := PocketRun.exists_lowered
  obtain ⟨setup, tool, first, rpm, hbind, hsafe⟩ := hall _ _ _ _ _ _ hparsed
  have hsetup : setup = PanelJob.boundSetup := by
    have hfind : PocketRun.document.executionContext.setupById PocketRun.program.setupId =
        some PanelJob.boundSetup := by decide +kernel
    exact Option.some.inj (hbind.setup.symm.trans hfind)
  have htool : tool = PanelJob.routerBinding := by
    have hfind : PocketRun.document.executionContext.toolById PocketRun.program.toolId =
        some PanelJob.routerBinding := by decide +kernel
    exact Option.some.inj (hbind.tool.symm.trans hfind)
  unfold PocketRun.leavesSafePlane at hleaves
  split at hleaves
  · cases hleaves
  · rename_i line hline
    simp only [Bool.and_eq_true, decide_eq_true_eq] at hleaves
    obtain ⟨⟨⟨hlen, hrapid⟩, hx⟩, hz⟩ := hleaves
    have hat := hsafe id PocketRun.start PocketRun.start_inBounds 31 line hline
    have hbody : (fixedLines PocketRun.profile setup tool first rpm).preamble.length ≤ 31 ∧
        31 + (fixedLines PocketRun.profile setup tool first rpm).trailer.length <
          parsed.lines.length := by
      rw [hlen]
      show 30 ≤ 31 ∧ 31 + 6 < 42
      omega
    rw [if_pos hbody] at hat
    have hend := (hat.rapid_xy hrapid (.inl hx)).2
    rw [hsetup, htool] at hend
    exact hz hend

end Custombuild.Postprocessors
