/-
  The round trip of the postprocessor: the text of a generated program parses to the moves
  of its plan between the fixed preamble and the fixed trailer.
-/
import Custombuild.Postprocessors.Accepted

namespace Custombuild.Postprocessors

open Custombuild.Lib Custombuild.Manufacturing Custombuild.Cam

/-! ## Numerals -/

/-- The micrometres of a formatted coordinate are the coordinate. -/
theorem wordUm_formatMm {v : Int} (hv : v.natAbs < 10 ^ 28) (letter : Char) (line : Nat) :
    ∃ d, parseNumber (formatMm v) = some (d, []) ∧ wordUm [⟨letter, d⟩] letter line = .ok v := by
  refine ⟨thousandths v, ?_, ?_⟩
  · have hparse := parseNumber_plainText (thousandths v) endsNumeral_nil
    rwa [List.append_nil] at hparse
  · have hround : roundSig decimalPrecision v = v := roundSig_of_fits (fits_of_lt hv)
    have hvalues : wordValues [⟨letter, thousandths v⟩] letter = [thousandths v] := by simp
    rw [wordUm_thousandths hvalues, hround]

/-! ## Motions read from a text -/

/-- The kind of a motion line, from its only G number. -/
def readKind (words : List GCodeWord) : Option ProductionMoveKind :=
  if onlyWord words 'G' (Dec.ofInt 0) then some .rapid
  else if onlyWord words 'G' (Dec.ofInt 1) then some .linear
  else none

/-- The motion of a line, read without its plan; nothing when the line has other words. -/
def readMotion (line : ParsedLine) : Option (ProductionMoveKind × Motion) :=
  match readKind line.words with
  | none => none
  | some kind =>
    if line.words.all fun w => (motionLetters kind).contains w.letter then
      match wordUm line.words 'X' line.lineNumber, wordUm line.words 'Y' line.lineNumber,
        wordUm line.words 'Z' line.lineNumber, feedOf line.words line.lineNumber kind with
      | .ok x, .ok y, .ok z, .ok feed => some (kind, ⟨x, y, z, feed⟩)
      | _, _, _, _ => none
    else none

theorem readKind_of_bodyLine {line : ParsedLine} {m : ProductionMove} (h : BodyLine line m) :
    readKind line.words = some m.kind := by
  have hmode := h.mode
  unfold readKind
  cases hk : m.kind with
  | rapid =>
    rw [hk] at hmode
    exact if_pos hmode
  | linear =>
    rw [hk] at hmode
    have hno : ¬ onlyWord line.words 'G' (Dec.ofInt 0) = true := by
      unfold onlyWord at hmode ⊢
      split at hmode
      · rename_i d hd
        intro h0
        have hvalue := (Dec.same_iff.mp hmode).symm.trans (Dec.same_iff.mp h0)
        simp [motionG] at hvalue
      · cases hmode
    rw [if_neg hno]
    exact if_pos hmode

theorem readMotion_of_bodyLine {line : ParsedLine} {m : ProductionMove} (h : BodyLine line m) :
    readMotion line = some (m.kind, plannedMotion m) := by
  have hletters : (line.words.all fun w => (motionLetters m.kind).contains w.letter) = true := by
    rw [List.all_eq_true]
    intro w hw
    simpa using h.letters w hw
  unfold readMotion
  rw [readKind_of_bodyLine h]
  simp only [hletters, if_true, h.x, h.y, h.z, h.feed]
  rfl

/-! ## Generated programs -/

section
variable {env : FingerprintEnv} {profile : LinuxCNCProductionMachineProfile}
  {doc : ProductionToolpathDocument}

/-- A program text with the moves of its plan: the validator accepts it, and its lines are the
    preamble, one line for each move in order, and the trailer. -/
def RoundTrips (env : FingerprintEnv) (profile : LinuxCNCProductionMachineProfile)
    (doc : ProductionToolpathDocument) (program : ProductionProgram)
    (output : ProductionMachineProgram) : Prop :=
  ∃ parsed setup tool first rpm,
    validateProductionProgram env doc profile (.bytes output.content) program = .ok parsed ∧
    BindsRun doc program setup tool first rpm ∧
    parseProductionProgram (.bytes output.content) = .ok parsed.lines ∧
    parsed.moves.map (fun m => (m.kind, m.motion)) =
      program.moves.map (fun m => (m.kind, plannedMotion m)) ∧
    ∃ pre body post, parsed.lines = pre ++ body ++ post ∧
      List.Forall₂ Reads pre (fixedLines profile setup tool first rpm).preamble ∧
      body.map readMotion = program.moves.map (fun m => some (m.kind, plannedMotion m)) ∧
      List.Forall₂ Reads post (fixedLines profile setup tool first rpm).trailer

theorem forall₂_map_eq {α β γ : Type} {R : α → β → Prop} {f : α → γ} {g : β → γ}
    (hR : ∀ a b, R a b → f a = g b) {k : List α} {l : List β} (h : List.Forall₂ R k l) :
    k.map f = l.map g := by
  induction h with
  | nil => rfl
  | cons hab _ ih => rw [List.map_cons, List.map_cons, hR _ _ hab, ih]

/-- An accepted text round-trips. -/
theorem roundTrips_of_accepted {program : ProductionProgram} {output : ProductionMachineProgram}
    {parsed : ParsedProductionProgram}
    (h : validateProductionProgram env doc profile (.bytes output.content) program = .ok parsed) :
    RoundTrips env profile doc program output := by
  obtain ⟨setup, tool, first, rpm, hbind, -, -, hparse, -, hlines⟩ :=
    validateProductionProgram_inv h
  obtain ⟨pre, post, hsplit, hpre, hpost, -, hmoves, -⟩ := validateLines_inv hlines
  simp only [validateAndRoundTripMoves, bind_eq_ok] at hmoves
  obtain ⟨_, -, hmoves⟩ := hmoves
  obtain ⟨hbody, -, hparsed⟩ := roundTripMoves_inv hmoves
  refine ⟨parsed, setup, tool, first, rpm, h, hbind, hparse, ?_, pre, _, post, hsplit, hpre, ?_,
    hpost⟩
  · exact forall₂_map_eq (fun a b hab => by rw [hab.1, hab.2]) hparsed
  · exact forall₂_map_eq (fun line m hline => readMotion_of_bodyLine hline) hbody

/-- Every generated text parses to exactly the moves of its program, and formatting followed
    by reading is the identity on coordinates of at most 28 digits. -/
theorem emitted_programs_round_trip (env : FingerprintEnv)
    (profile : LinuxCNCProductionMachineProfile) (doc : ProductionToolpathDocument) :
    (∀ outputs, generate env profile doc = .ok outputs →
      List.Forall₂ (RoundTrips env profile doc) doc.programs outputs) ∧
    ∀ v : Int, v.natAbs < 10 ^ 28 → ∀ letter line, ∃ d,
      parseNumber (formatMm v) = some (d, []) ∧ wordUm [⟨letter, d⟩] letter line = .ok v := by
  refine ⟨?_, fun v hv letter line => wordUm_formatMm hv letter line⟩
  intro outputs h
  exact (generate_validated h).imp fun _ _ ⟨_, hparsed⟩ => roundTrips_of_accepted hparsed

end

theorem emitted_programs_round_trip_pocket :
    (∃ outputs, generate PocketRun.env PocketRun.profile PocketRun.document = .ok outputs ∧
      List.Forall₂ (RoundTrips PocketRun.env PocketRun.profile PocketRun.document)
        PocketRun.document.programs outputs) ∧
    (-1500 : Int).natAbs < 10 ^ 28 ∧ ∃ d, parseNumber (formatMm (-1500)) = some (d, []) ∧
      wordUm [⟨'Z', d⟩] 'Z' 1 = .ok (-1500) := by
  obtain ⟨outputs, houtputs⟩ := PocketRun.exists_outputs
  have h := emitted_programs_round_trip PocketRun.env PocketRun.profile PocketRun.document
  exact ⟨⟨outputs, houtputs, h.1 outputs houtputs⟩, by decide, h.2 (-1500) (by decide) 'Z' 1⟩

end Custombuild.Postprocessors
