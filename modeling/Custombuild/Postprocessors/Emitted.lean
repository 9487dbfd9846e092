/-
  What the postprocessor has written, executed: the text of a program is read back word for
  word, and the controller carries out the plan.  Source: `LinuxCNCProductionPostprocessor` of
  `custombuild_postprocessors.linuxcnc_production`.
-/
import Custombuild.Cam.AreaCoverage
import Custombuild.Postprocessors.Grammar
import Custombuild.Postprocessors.RoundTrip

namespace Custombuild.Postprocessors

open Custombuild.Lib Custombuild.Manufacturing Custombuild.Cam

/-! ## Lines of text and what they give -/

/-- The line of text gives no block, or one with its words. -/
inductive LineOf : List Char → List (List GCodeWord) → Prop
  | silent {line : List Char} (h : SilentLine line) (hline : '\n' ∉ line) : LineOf line []
  | code {words : List GCodeWord} (hl : PlainLetters words) (hne : words ≠ []) :
      LineOf (lineText words) [words]

theorem plainText_chars {d : Dec} {c : Char} (hc : c ∈ plainText d) :
    c = '-' ∨ c = '.' ∨ c.isDigit = true := by
  rw [plainText_eq, List.mem_append, List.mem_append] at hc
  rcases hc with (hc | hc) | hc
  · split at hc
    · exact .inl (List.mem_singleton.mp hc)
    · cases hc
  · exact .inr (.inr (isDigit_paddedDigits d c (List.mem_of_mem_take hc)))
  · split at hc
    · cases hc
    · rcases List.mem_cons.mp hc with rfl | hc
      · exact .inr (.inl rfl)
      · exact .inr (.inr (isDigit_paddedDigits d c (List.mem_of_mem_drop hc)))

/-- No character of a printed line opens a comment or ends the line. -/
theorem lineText_chars {words : List GCodeWord} (hl : PlainLetters words) {c : Char}
    (hc : c ∈ lineText words) : c ≠ '(' ∧ c ≠ ')' ∧ c ≠ ';' ∧ c ≠ '\n' := by
  have hword : ∀ w ∈ words, ∀ c ∈ wordText w, c ≠ '(' ∧ c ≠ ')' ∧ c ≠ ';' ∧ c ≠ '\n' := by
    intro w hw c hc
    rcases List.mem_cons.mp hc with rfl | hc
    · have hupper := hl w hw
      refine ⟨?_, ?_, ?_, ?_⟩ <;> · intro h; rw [h] at hupper; cases hupper
    · rcases plainText_chars hc with rfl | rfl | hdigit
      · decide
      · decide
      · refine ⟨?_, ?_, ?_, ?_⟩ <;> · rintro rfl; cases hdigit
  induction words with
  | nil => cases hc
  | cons w words ih =>
    have hrest := fun hc => ih (fun v hv => hl v (List.mem_cons_of_mem _ hv)) hc
      fun v hv => hword v (List.mem_cons_of_mem _ hv)
    cases words with
    | nil => exact hword w List.mem_cons_self c hc
    | cons v words =>
      rcases List.mem_append.mp hc with hc | hc
      · exact hword w List.mem_cons_self c hc
      · rcases List.mem_cons.mp hc with rfl | hc
        · decide
        · exact hrest hc

theorem uncommented_self {code : List Char} (h : ∀ c ∈ code, c ≠ '(' ∧ c ≠ ')' ∧ c ≠ ';') :
    Uncommented true code code := by
  induction code with
  | nil => exact .done
  | cons c code ih =>
    obtain ⟨⟨hopen, hclose, hmark⟩, hcode⟩ := List.forall_mem_cons.mp h
    exact .char hopen hclose (fun _ => hmark) (ih hcode)

theorem LineOf.not_lf {line : List Char} {words : List (List GCodeWord)} (h : LineOf line words) :
    '\n' ∉ line := by
  cases h with
  | silent _ hline => exact hline
  | code hl => exact fun hmem => (lineText_chars hl hmem).2.2.2 rfl

/-- The lines give their blocks, word for word. -/
theorem linesGive_of_lines {lines : List (List Char)} {words : List (List (List GCodeWord))}
    (h : List.Forall₂ LineOf lines words) (number : Nat) :
    ∃ blocks, LinesGive true number lines blocks ∧
      blocks.map ParsedLine.words = words.flatten := by
  induction h generalizing number with
  | nil => exact ⟨[], .done, rfl⟩
  | cons hline _ ih =>
    obtain ⟨blocks, hblocks, hwords⟩ := ih (number + 1)
    cases hline with
    | silent h =>
      obtain ⟨code, hcode, hskip⟩ := h number
      exact ⟨blocks, .skip (stripCommentsFrom_eq_ok.mp hcode) (skipped_iff.mp hskip) hblocks,
        hwords⟩
    | @code line hl hne =>
      have hcode : Uncommented true (lineText line) (lineText line) :=
        uncommented_self fun c hc =>
          ⟨(lineText_chars hl hc).1, (lineText_chars hl hc).2.1, (lineText_chars hl hc).2.2.1⟩
      have hspelled := (parseWords_eq_ok.mp (parseWords_lineText hl hne number)).1
      exact ⟨_, .block hcode hspelled hne hblocks, by rw [List.map_cons, hwords]; rfl⟩

/-- The blocks of the lines behind some others are those at the end. -/
theorem LinesGive.behind {marks : Bool} {k l : List (List Char)} {number : Nat}
    {blocks : List ParsedLine} (h : LinesGive marks number (k ++ l) blocks) :
    ∃ before behind, blocks = before ++ behind ∧ LinesGive marks (number + k.length) l behind := by
  induction k generalizing number blocks with
  | nil => exact ⟨[], blocks, rfl, h⟩
  | cons raw k ih =>
    have hnumber : number + (raw :: k).length = number + 1 + k.length := by
      rw [List.length_cons]
      omega
    rw [hnumber]
    cases h with
    | skip _ _ hrest => exact ih hrest
    | block _ _ _ hrest =>
      obtain ⟨before, behind, rfl, hbehind⟩ := ih hrest
      exact ⟨_ :: before, behind, rfl, hbehind⟩

theorem splitOnChar_ne_nil (sep : Char) (k : List Char) : splitOnChar sep k ≠ [] := by
  cases k with
  | nil => simp [splitOnChar]
  | cons c k =>
    rw [splitOnChar]
    split
    · exact List.cons_ne_nil _ _
    · split <;> exact List.cons_ne_nil _ _

theorem splitOnChar_sep (sep : Char) (k l : List Char) :
    splitOnChar sep (k ++ sep :: l) = splitOnChar sep k ++ splitOnChar sep l := by
  induction k with
  | nil => simp [splitOnChar]
  | cons c k ih =>
    rw [List.cons_append, splitOnChar, splitOnChar, ih]
    split
    · rfl
    · cases hk : splitOnChar sep k with
      | nil => exact absurd hk (splitOnChar_ne_nil sep k)
      | cons line rest => rfl

theorem split_joinLines (lines : List (List Char)) :
    splitOnChar '\n' (joinLines lines) = lines.flatMap (splitOnChar '\n') ++ [[]] := by
  induction lines with
  | nil => rfl
  | cons line lines ih =>
    rw [joinLines_cons, splitOnChar_sep, ih, List.flatMap_cons, List.append_assoc]

/-- The blocks of a text end with those of its last lines. -/
theorem parseGcode_behind {k l : List (List Char)} {words : List (List (List GCodeWord))}
    (hl : List.Forall₂ LineOf l words) {blocks : List ParsedLine}
    (h : parseGcode (joinLines (k ++ l)) = .ok blocks) : ∃ before behind,
      blocks = before ++ behind ∧ behind.map ParsedLine.words = words.flatten := by
  have hsplit : l.flatMap (splitOnChar '\n') = l := by
    clear h
    induction hl with
    | nil => rfl
    | cons hline _ ih =>
      rw [List.flatMap_cons, splitOnChar_of_not_mem hline.not_lf, ih]
      rfl
  simp only [parseGcode, bind_eq_ok, parseLines_eq_ok] at h
  obtain ⟨_, -, hlines⟩ := h
  rw [split_joinLines, List.flatMap_append, hsplit, List.append_assoc] at hlines
  obtain ⟨before, behind, rfl, hbehind⟩ := hlines.behind
  have hlast : LineOf [] [] := .silent (fun _ => ⟨[], rfl, .inl rfl⟩) List.not_mem_nil
  obtain ⟨blocks, hblocks, hwords⟩ := linesGive_of_lines
    (List.rel_append hl (.cons hlast .nil)) (1 + (k.flatMap (splitOnChar '\n')).length)
  refine ⟨before, behind, rfl, ?_⟩
  have hsame := (parseLines_eq_ok.mpr hbehind).symm.trans (parseLines_eq_ok.mpr hblocks)
  rw [Except.ok.inj hsame, hwords, List.flatten_append]
  exact List.append_nil _

/-! ## The lines of the postprocessor -/

/-- The words of a move line. -/
def moveWords (m : ProductionMove) : List GCodeWord :=
  gWord (motionG m.kind) :: ⟨'X', thousandths m.xUm⟩ :: ⟨'Y', thousandths m.yUm⟩ ::
    ⟨'Z', thousandths m.zUm⟩ ::
      match m.kind, m.feedUmMin with
      | .linear, some feed => [⟨'F', thousandths feed⟩]
      | _, _ => []

theorem plainText_ofInt (n : Int) : plainText (Dec.ofInt n) = intText n := by
  have hpos : 0 < (Nat.toDigits 10 n.natAbs).length := Nat.length_toDigits_pos
  have hpad : 0 + 1 - (Nat.toDigits 10 n.natAbs).length = 0 := by omega
  simp only [plainText_eq, paddedDigits, Dec.ofInt, hpad, List.replicate_zero, List.nil_append,
    Nat.sub_zero, List.take_length, if_true, List.append_nil, intText]
  split <;> rfl

/-- The texts of the words that no plan changes. -/
theorem wordText_fixed : wordText (gWord 0) = "G0".toList ∧ wordText (gWord 1) = "G1".toList ∧
    wordText (gWord 4) = "G4".toList ∧ wordText (gWord 43) = "G43".toList ∧
    wordText (gWord 49) = "G49".toList ∧ wordText (gWord 53) = "G53".toList ∧
    wordText (mWord 2) = "M2".toList ∧ wordText (mWord 3) = "M3".toList ∧
    wordText (mWord 5) = "M5".toList ∧ wordText (mWord 6) = "M6".toList ∧
    wordText (mWord 9) = "M9".toList := by
  decide +kernel

theorem wordText_mk (letter : Char) (value : Dec) :
    wordText ⟨letter, value⟩ = letter :: plainText value := rfl

theorem lineOf_moveLine {m : ProductionMove} {line : List Char} (h : moveLine m = .ok line) :
    LineOf line [moveWords m] := by
  have htext : line = lineText (moveWords m) := by
    unfold moveLine at h
    unfold moveWords
    cases hk : m.kind with
    | rapid =>
      simp only [hk, Except.ok.injEq] at h
      simp [← h, lineText, wordText_mk, wordText_fixed, formatMm, motionG]
    | linear =>
      simp only [hk, bind_eq_ok, demand_eq_ok] at h
      obtain ⟨feed, hfeed, hret⟩ := h
      rw [← Except.ok.inj hret]
      simp [hfeed, lineText, wordText_mk, wordText_fixed, formatMm, motionG]
  rw [htext]
  refine .code ?_ (List.cons_ne_nil _ _)
  unfold PlainLetters moveWords
  split <;> simp [gWord]

theorem safeComment_chars {value : String} {c : Char} (hc : c ∈ (safeComment value).toList) :
    (c ≠ '(' ∧ c ≠ ')') ∧ c ≠ '\n' := by
  simp only [safeComment, String.toList_ofList, List.mem_map] at hc
  obtain ⟨d, -, rfl⟩ := hc
  split
  · decide
  · split
    · decide
    · split
      · decide
      · rename_i hopen hclose hbreak
        exact ⟨⟨hopen, hclose⟩, fun h => hbreak (.inr h)⟩

theorem lineOf_operation (id : String) :
    LineOf (comment "OPERATION_ID" (safeComment id).toList) [] := by
  have hkey : ∀ c ∈ "OPERATION_ID".toList ++ ['='], (c ≠ '(' ∧ c ≠ ')') ∧ c ≠ '\n' := by
    simp
  have hchars : ∀ c ∈ "OPERATION_ID".toList ++ '=' :: (safeComment id).toList,
      (c ≠ '(' ∧ c ≠ ')') ∧ c ≠ '\n' := by
    intro c hc
    rw [← List.singleton_append, ← List.append_assoc] at hc
    rcases List.mem_append.mp hc with hc | hc
    · exact hkey c hc
    · exact safeComment_chars hc
  have hline : comment "OPERATION_ID" (safeComment id).toList =
      '(' :: (("OPERATION_ID".toList ++ '=' :: (safeComment id).toList) ++ [')']) := by
    simp [comment]
  rw [hline]
  refine .silent (silentLine_bracketed fun c hc => (hchars c hc).1) ?_
  intro hmem
  rcases List.mem_cons.mp hmem with h | hmem
  · exact absurd h (by decide)
  · rcases List.mem_append.mp hmem with hmem | hmem
    · exact (hchars _ hmem).2 rfl
    · exact absurd (List.mem_singleton.mp hmem) (by decide)

/-- The lines of the body give the words of the moves. -/
theorem linesOf_moveLines {previous : String} {moves : List ProductionMove}
    {lines : List (List Char)} (h : moveLines previous moves = .ok lines) :
    ∃ words, List.Forall₂ LineOf lines words ∧ words.flatten = moves.map moveWords := by
  induction moves generalizing previous lines with
  | nil =>
    cases h
    exact ⟨[], .nil, rfl⟩
  | cons m moves ih =>
    simp only [moveLines, bind_eq_ok] at h
    obtain ⟨line, hline, rest, hrest, h⟩ := h
    obtain ⟨words, hwords, hflat⟩ := ih hrest
    have hthis := List.Forall₂.cons (lineOf_moveLine hline) hwords
    split at h
    · cases h
      exact ⟨_, hthis, by rw [List.flatten_cons, hflat]; rfl⟩
    · cases h
      exact ⟨_, .cons (lineOf_operation m.operationId) hthis,
        by rw [List.flatten_cons, List.flatten_cons, hflat]; rfl⟩

/-- Printed lines of words give these words. -/
theorem linesOf_lineText {words : List (List GCodeWord)}
    (h : ∀ line ∈ words, PlainLetters line ∧ line ≠ []) :
    List.Forall₂ LineOf (words.map lineText) (words.map fun line => [line]) := by
  induction words with
  | nil => exact .nil
  | cons line words ih =>
    obtain ⟨⟨hl, hne⟩, hrest⟩ := List.forall_mem_cons.mp h
    exact .cons (.code hl hne) (ih hrest)

theorem canonicalStateLines_eq : canonicalStateLines = modalPreamble.map lineText := by
  decide +kernel

section
variable (f : FixedLines)

theorem wcsText_eq : (wcsText f.wcs).toList = lineText f.wcsLine := by
  unfold FixedLines.wcsLine
  cases f.wcs <;> decide +kernel

theorem plainLetters_fixed : ∀ line ∈ f.preamble ++ f.trailer, PlainLetters line ∧ line ≠ [] := by
  simp [FixedLines.preamble, FixedLines.trailer, modalPreamble, FixedLines.outbound,
    FixedLines.inbound, FixedLines.clearanceLine, FixedLines.toolChangeLine,
    FixedLines.selectLine, FixedLines.entryLine, FixedLines.lengthLine, FixedLines.wcsLine,
    FixedLines.safeLine, FixedLines.spindleLine, FixedLines.dwellLine, PlainLetters, gWord, mWord]

theorem clearanceText_eq : clearanceText f = lineText f.clearanceLine := by
  unfold clearanceText FixedLines.clearanceLine
  simp [lineText, wordText_mk, wordText_fixed, formatMm]

theorem traverseText_eq (xUm yUm : Int) : traverseText xUm yUm =
    lineText [gWord 53, gWord 0, ⟨'X', thousandths xUm⟩, ⟨'Y', thousandths yUm⟩] := by
  unfold traverseText
  simp [lineText, wordText_mk, wordText_fixed, formatMm]

theorem safeText_eq : safeText f = lineText f.safeLine := by
  unfold safeText FixedLines.safeLine
  simp [lineText, wordText_mk, wordText_fixed, formatMm]

theorem preambleText_eq {lines : List (List Char)} (h : preambleText f = .ok lines) :
    lines = f.preamble.map lineText := by
  unfold preambleText formatSeconds at h
  simp only [bind_eq_ok] at h
  obtain ⟨_, ⟨_, -, hdwell⟩, hret⟩ := h
  rw [← Except.ok.inj hret, ← Except.ok.inj hdwell, canonicalStateLines_eq, wcsText_eq,
    clearanceText_eq, traverseText_eq, traverseText_eq, safeText_eq]
  have hselect : 'T' :: intText f.toolNumber ++ " M6".toList = lineText f.selectLine := by
    unfold FixedLines.selectLine
    simp [lineText, wordText_mk, wordText_fixed, plainText_ofInt]
  have hlength : "G43 H".toList ++ intText f.lengthOffsetNumber = lineText f.lengthLine := by
    unfold FixedLines.lengthLine
    simp [lineText, wordText_mk, wordText_fixed, plainText_ofInt]
  have hspindle : 'S' :: intText f.spindleRpm ++ " M3".toList = lineText f.spindleLine := by
    unfold FixedLines.spindleLine
    simp [lineText, wordText_mk, wordText_fixed, plainText_ofInt]
  have hdwell : "G4 P".toList ++ plainText (thousandths f.spinupMs) = lineText f.dwellLine := by
    unfold FixedLines.dwellLine
    simp [lineText, wordText_mk, wordText_fixed]
  rw [hselect, hlength, hspindle, hdwell]
  simp only [FixedLines.preamble, FixedLines.outbound, FixedLines.inbound,
    FixedLines.toolChangeLine, FixedLines.entryLine, List.map_append, List.map_cons, List.map_nil]

theorem trailerText_eq : trailerText f = f.trailer.map lineText ++ [['%']] := by
  unfold trailerText FixedLines.trailer
  rw [safeText_eq, clearanceText_eq]
  simp [lineText, wordText_fixed]

end

/-! ## Texts that the postprocessor has written -/

section
variable {env : FingerprintEnv} {profile : LinuxCNCProductionMachineProfile}
  {doc : ProductionToolpathDocument} {program : ProductionProgram}
  {output : ProductionMachineProgram} {parsed : ParsedProductionProgram}

/-- The program text of the plan, accepted by the validator. -/
structure WrittenFor (env : FingerprintEnv) (profile : LinuxCNCProductionMachineProfile)
    (doc : ProductionToolpathDocument) (program : ProductionProgram)
    (output : ProductionMachineProgram) : Prop where
  text : ∃ text, programText env profile doc program = .ok text ∧
    asciiText (.bytes output.content) = .ok text
  validated : Validated env profile doc program output

theorem generate_written {outputs : List ProductionMachineProgram}
    (h : generate env profile doc = .ok outputs) :
    List.Forall₂ (WrittenFor env profile doc) doc.programs outputs := by
  refine forall_of_generate h fun hprogram => ?_
  simp only [generateProgram, bind_eq_ok] at hprogram
  obtain ⟨text, htext, content, hcontent, _, -, parsed, hparsed, _, -, houtput⟩ := hprogram
  cases houtput
  simp only [encodeAscii, bind_eq_ok, require_eq_ok, List.all_eq_true, decide_eq_true_eq]
    at hcontent
  obtain ⟨_, hascii, hcontent⟩ := hcontent
  cases hcontent
  exact ⟨⟨text, htext, asciiText_encoded hascii⟩, parsed, hparsed⟩

/-- A list of recipes with one spindle speed, found by their ids. -/
theorem rpm_of_onlyOne {ctx : ProductionExecutionContext} {ids : List String}
    {recipes : List CuttingRecipe} {rpm rpm' : Int}
    (hrecipes : ids.mapM ctx.recipeById = some recipes)
    (hone : onlyOne (recipes.map CuttingRecipe.spindleRpm).dedup = some rpm)
    (h : ∀ id ∈ ids, ∃ r, ctx.recipeById id = some r ∧ r.spindleRpm = rpm') : rpm = rpm' := by
  have hone := onlyOne_eq_some hone
  cases ids with
  | nil =>
    cases hrecipes
    cases hone
  | cons id ids =>
    obtain ⟨r, hr, hfind⟩ := exists_of_mapM hrecipes List.mem_cons_self
    obtain ⟨r', hfind', hrpm⟩ := h id List.mem_cons_self
    rw [hfind, Option.some.injEq] at hfind'
    have hmem : r.spindleRpm ∈ (recipes.map CuttingRecipe.spindleRpm).dedup :=
      List.mem_dedup.mpr (List.mem_map_of_mem hr)
    rw [hone, List.mem_singleton] at hmem
    rw [← hmem, hfind', hrpm]

/-- The words of a program: those of the preamble, of the moves and of the trailer. -/
def programWords (f : FixedLines) (program : ProductionProgram) : List (List GCodeWord) :=
  f.preamble ++ program.moves.map moveWords ++ f.trailer

/-- What has been written is read word for word: nothing is read of the header, and every line
    behind it gives its own words. -/
theorem words_of_written {text : List Char}
    (htext : programText env profile doc program = .ok text)
    (hascii : asciiText (.bytes output.content) = .ok text)
    {setup : BoundSetup} {tool : ProductionToolBinding} {first : ProductionMove} {rpm : Int}
    (hbind : BindsRun doc program setup tool first rpm) {lines : List ParsedLine}
    (hparse : parseProductionProgram (.bytes output.content) = .ok lines)
    (hlength : lines.length = (programWords (fixedLines profile setup tool first rpm)
      program).length) :
    lines.map ParsedLine.words =
      programWords (fixedLines profile setup tool first rpm) program := by
  simp only [programText, bind_eq_ok, demand_eq_ok] at htext
  obtain ⟨setup', hsetup, tool', htool, recipes, hrecipes, rpm', hrpm, _, -, _, -, first', hfirst,
    preamble, hpreamble, body, hbody, hret⟩ := htext
  cases hret
  obtain rfl : setup = setup' := Option.some.inj (hbind.setup.symm.trans hsetup)
  obtain rfl : tool = tool' := Option.some.inj (hbind.tool.symm.trans htool)
  obtain rfl : rpm' = rpm := rpm_of_onlyOne hrecipes hrpm hbind.rpm
  simp only [requireProgramEntry, bind_eq_ok, demand_eq_ok] at hfirst
  obtain ⟨first'', hhead, _, -, _, -, hret⟩ := hfirst
  cases hret
  obtain rfl : first = first' := Option.some.inj (hbind.first.symm.trans hhead)
  generalize fixedLines profile setup tool first rpm' = f at *
  obtain ⟨words, hwords, hflat⟩ := linesOf_moveLines hbody
  have hletters := plainLetters_fixed f
  have hlines : List.Forall₂ LineOf (preamble ++ body ++ trailerText f)
      (f.preamble.map (fun line => [line]) ++ words ++
        (f.trailer.map (fun line => [line]) ++ [[]])) := by
    rw [preambleText_eq f hpreamble, trailerText_eq]
    have hpercent : LineOf ['%'] [] := .silent silentLine_percent (by decide)
    exact List.rel_append (List.rel_append
      (linesOf_lineText fun line hline => hletters line (List.mem_append_left _ hline)) hwords)
      (List.rel_append (linesOf_lineText fun line hline =>
        hletters line (List.mem_append_right _ hline)) (.cons hpercent .nil))
  simp only [parseProductionProgram, parseProductionText, bind_eq_ok, hascii, Except.ok.injEq,
    exists_eq_left'] at hparse
  obtain ⟨_, -, _, -, _, -, lines', hgcode, _, -, _, -, hret⟩ := hparse
  cases hret
  rw [List.append_assoc, List.append_assoc, ← List.append_assoc preamble] at hgcode
  obtain ⟨before, behind, rfl, hbehind⟩ := parseGcode_behind hlines hgcode
  have hread : behind.map ParsedLine.words = programWords f program := by
    rw [hbehind, List.flatten_append, List.flatten_append, hflat, List.flatten_append]
    simp [programWords, List.flatten_eq_flatMap, List.flatMap_map]
  have hnone : before = [] := by
    have := congrArg List.length hread
    rw [List.length_map] at this
    rw [List.length_append, this] at hlength
    exact List.length_eq_zero_iff.mp (by omega)
  rw [hnone, List.nil_append, hread]

/-! ## The run of what has been written -/

theorem unrounded_thousandths (v : Int) : Unrounded (thousandths v) :=
  unrounded_of_same_thousandths (Dec.same_iff.mpr rfl)

/-- Every coordinate of a written program is a rounded quotient, so that it is read exactly. -/
theorem exactAxes_programWords (f : FixedLines) (program : ProductionProgram) :
    ∀ words ∈ programWords f program, ExactAxes words := by
  have hfixed : ∀ words ∈ f.preamble ++ f.trailer, ExactAxes words := by
    simp [FixedLines.preamble, FixedLines.trailer, modalPreamble, FixedLines.outbound,
      FixedLines.inbound, FixedLines.clearanceLine, FixedLines.toolChangeLine,
      FixedLines.selectLine, FixedLines.entryLine, FixedLines.lengthLine, FixedLines.wcsLine,
      FixedLines.safeLine, FixedLines.spindleLine, FixedLines.dwellLine, ExactAxes, gWord, mWord,
      unrounded_thousandths]
  intro words hwords
  rcases List.mem_append.mp hwords with hwords | hwords
  · rcases List.mem_append.mp hwords with hwords | hwords
    · exact hfixed words (List.mem_append_left _ hwords)
    · obtain ⟨m, -, rfl⟩ := List.mem_map.mp hwords
      unfold ExactAxes moveWords
      split <;> simp [gWord, unrounded_thousandths]
  · exact hfixed words (List.mem_append_right _ hwords)

/-- The machine at the end of a move. -/
def arrive (t : ControllerTables) (f : FixedLines) (m : ProductionMove) (s : MachineState) :
    MachineState :=
  { s with
    motion := some m.kind
    position := bodyOffset t f + Position.ofUm m.xUm m.yUm m.zUm }

/-- The state before line `k` of a program, as the plan has it: the fixed lines are executed, and
    each move ends where it is planned. -/
def plannedState (t : ControllerTables) (f : FixedLines) (plan : List ProductionMove)
    (start : MachineState) (k : Nat) : MachineState :=
  runAll (execute t)
    (runAll (arrive t f) (runAll (execute t) start (f.preamble.take k))
      (plan.take (k - f.preamble.length)))
    (f.trailer.take (k - f.preamble.length - plan.length))

/-- A run that is safe, goes through the planned states line by line, and ends at the tool-change
    height with the spindle off. -/
structure RunsPlan (profile : LinuxCNCProductionMachineProfile) (program : ProductionProgram)
    (setup : BoundSetup) (tool : ProductionToolBinding) (f : FixedLines) (t : ControllerTables)
    (start : MachineState) (lines : List ParsedLine) : Prop where
  safe : SafeRun profile setup tool f t start lines
  follows : ∀ k, stateBefore t start lines k = plannedState t f program.moves start k
  retracted : (stateBefore t start lines lines.length).position.z = (toolChangePosition profile).z
  stopped : (stateBefore t start lines lines.length).spindle = none

section
variable {setup : BoundSetup} {tool : ProductionToolBinding} {f : FixedLines}
  {t : ControllerTables} {s start : MachineState}

theorem run_of_reads {lines : List ParsedLine} {words : List (List GCodeWord)}
    (h : List.Forall₂ Reads lines words) :
    runAll (execute t) s (lines.map ParsedLine.words) = runAll (execute t) s words := by
  induction h generalizing s with
  | nil => rfl
  | cons hline _ ih => rw [List.map_cons, runAll_cons, runAll_cons, execute_congr t hline, ih]

/-- The lines of the body do what the moves say. -/
theorem run_of_body {body : List ParsedLine} {plan : List ProductionMove}
    (hlines : List.Forall₂ BodyLine body plan) (hexact : ∀ line ∈ body, ExactAxes line.words)
    (hr : Running f s) (hw : WorkFrame f s) :
    runAll (execute t) s (body.map ParsedLine.words) = runAll (arrive t f) s plan := by
  induction hlines generalizing s with
  | nil => rfl
  | @cons line m body plan hb _ ih =>
    rw [List.map_cons, runAll_cons, runAll_cons,
      execute_bodyLine (t := t) hb (hexact line List.mem_cons_self) hr hw]
    exact ih (fun line hline => hexact line (List.mem_cons_of_mem _ hline))
      ⟨hr.loaded, hr.length, hr.spindle, hr.dwelled⟩ ⟨hw.metric, hw.absolute, hw.wcs, hw.g92⟩

/-- Preamble, body and trailer go through the planned states. -/
theorem states_of_parts {pre body post : List ParsedLine} {plan : List ProductionMove}
    (hpre : List.Forall₂ Reads pre f.preamble) (hbody : List.Forall₂ BodyLine body plan)
    (hpost : List.Forall₂ Reads post f.trailer) (hexact : ∀ line ∈ body, ExactAxes line.words)
    (hr : Running f (runAll (execute t) start f.preamble))
    (hw : WorkFrame f (runAll (execute t) start f.preamble)) (k : Nat) :
    stateBefore t start (pre ++ body ++ post) k = plannedState t f plan start k := by
  have hmiddle : runAll (execute t) (runAll (execute t) start (f.preamble.take k))
      ((body.take (k - f.preamble.length)).map ParsedLine.words) =
      runAll (arrive t f) (runAll (execute t) start (f.preamble.take k))
        (plan.take (k - f.preamble.length)) := by
    rcases Nat.le_total k f.preamble.length with hk | hk
    · rw [Nat.sub_eq_zero_of_le hk]
      rfl
    · rw [List.take_of_length_le hk]
      exact run_of_body (List.forall₂_take _ hbody)
        (fun line hline => hexact line (List.mem_of_mem_take hline)) hr hw
  rw [stateBefore, plannedState, List.take_append, List.take_append, List.map_append,
    List.map_append, runAll_append, runAll_append, run_of_reads (List.forall₂_take _ hpre),
    run_of_reads (List.forall₂_take _ hpost), List.length_append, ← Nat.sub_sub,
    hpre.length_eq, hbody.length_eq, hmiddle]

/-- The trailer leaves the machine at the tool-change height with the spindle off. -/
theorem end_of_trailer (he : ExactLines f) (hb : BoundLines profile t f) (hw : WorkFrame f s) :
    (runAll (execute t) s f.trailer).position.z = (toolChangePosition profile).z ∧
      (runAll (execute t) s f.trailer).spindle = none := by
  have hz := hb.clearanceZ he
  have hmetric : (execute t f.safeLine s).metric = true := by
    rw [execute_safeLine t f s hw.metric hw.absolute]
    exact hw.metric
  have hwords (q : MachineState) :
      execute t [mWord 5] q = { q with spindle := none, dwelled := 0 } ∧
      execute t [mWord 9] q = q ∧ execute t [gWord 49] q = { q with lengthOffset := none } ∧
      execute t [mWord 2] q = q := by
    simp [execute_of_no_axis, hasAxisMotion, changeTool, turnSpindle, setModes, motionMode,
      selectedWcs, wordG, wordM, numberOf, mWord, gWord, wcsNumber]
  unfold FixedLines.trailer
  simp only [runAll_cons, runAll_nil]
  generalize execute t f.safeLine s = q at hmetric
  have hclear := execute_clearanceLine t f
    { q with lengthOffset := none, spindle := none, dwelled := 0 } hmetric
  rw [(hwords _).1, (hwords _).2.1, (hwords _).2.2.1, hclear, (hwords _).2.2.2]
  exact ⟨hz, rfl⟩

/-- The program entry is where the first move ends, at the safe plane. -/
theorem entry_position {first : ProductionMove} {rpm : Int} {p : Position}
    (hoff : OffsetsOf setup tool (bodyOffset t f))
    (hf : fixedLines profile setup tool first rpm = f)
    (hp : p = ⟨f.entryXUm / 1000, f.entryYUm / 1000, (bodyOffset t f).z + f.safeZUm / 1000⟩) :
    p = bodyOffset t f + Position.ofUm first.xUm first.yUm setup.safeZUm := by
  have hx : f.entryXUm = entryMachineXUm setup tool first := by rw [← hf]; rfl
  have hy : f.entryYUm = entryMachineYUm setup tool first := by rw [← hf]; rfl
  have hz : f.safeZUm = setup.safeZUm := by rw [← hf]; rfl
  rw [hp, hx, hy, hz, hoff]
  ext <;> simp [Position.ofUm, entryMachineXUm, entryMachineYUm] <;> ring

/-- Accepted lines with exact coordinates run their plan, from any state inside the machine and
    whatever M6 does to the modes. -/
theorem runsPlan_of_exact {first : ProductionMove} {rpm : Int} {lines : List ParsedLine}
    {moves : List ParsedProductionMove} (hbind : BindsRun doc program setup tool first rpm)
    (hprofile : requireMachineProfileBinding doc profile = .ok ())
    (hoffsets : requireSetupOffsets profile setup tool = .ok ())
    (hentry : (profile.machineXMinUm ≤ entryMachineXUm setup tool first ∧
        entryMachineXUm setup tool first ≤ profile.machineXMaxUm) ∧
      profile.machineYMinUm ≤ entryMachineYUm setup tool first ∧
        entryMachineYUm setup tool first ≤ profile.machineYMaxUm)
    (hlines : validateLines doc program setup tool (fixedLines profile setup tool first rpm) lines =
      .ok moves)
    (hexact : ∀ line ∈ lines, ExactAxes line.words) (remap : MachineState → MachineState)
    (hstart : InMachineBounds profile start.position) :
    RunsPlan profile program setup tool (fixedLines profile setup tool first rpm)
      (boundTables profile doc.executionContext remap) start lines := by
  have hbound : BoundLines profile (boundTables profile doc.executionContext remap)
      (fixedLines profile setup tool first rpm) := boundLines_of_accepted hbind hoffsets hentry
  have hoff := offsetsOf_boundTables remap hbind hoffsets
  have hspin : (fixedLines profile setup tool first rpm).spinupMs.natAbs < 10 ^ 28 := by
    have hrange := profile.spinup_range
    show profile.spindleSpinupMs.natAbs < 10 ^ 28
    omega
  generalize boundTables profile doc.executionContext remap = t at hbound hoff ⊢
  generalize hf : fixedLines profile setup tool first rpm = f at *
  obtain ⟨pre, post, hsplit, hpre, hpost, hcount, hmoves, state, hmodal⟩ :=
    validateLines_inv hlines
  generalize bodyLines f lines = body at hsplit hmoves hmodal hcount
  subst hsplit
  obtain ⟨_, hmodal, -⟩ := modalRun_append hmodal
  obtain ⟨_, hmodal, -⟩ := modalRun_append hmodal
  have he := exactLines_of_modalRun hpre hspin hmodal
  have hcongr : ∀ before after k l, signature k = signature l →
      SafeFixedLine profile before l after → SafeFixedLine profile before k after :=
    fun _ _ _ _ hsig hl => safeFixedLine_congr hsig hl
  -- the preamble ends at the program entry
  obtain ⟨halong, hrunning, hwork, hposition⟩ := run_preamble he hbound hstart
  obtain ⟨halong₁, hrun₁⟩ := along_congr hcongr hpre halong
  rw [← hrun₁] at hrunning hwork hposition
  have hpos := entry_position hoff hf hposition
  have hin : InMachineBounds profile
      (runAll (execute t) start (pre.map ParsedLine.words)).position := by
    rw [hposition]
    exact ⟨hbound.entry.1, hbound.entry.2.1, hbound.safe⟩
  -- the body runs from there
  simp only [validateAndRoundTripMoves, bind_eq_ok] at hmoves
  obtain ⟨_, -, hmoves⟩ := hmoves
  obtain ⟨hbody, hrules, -⟩ := roundTripMoves_inv hmoves
  have hbodyExact : ∀ line ∈ body, ExactAxes line.words := fun line hline =>
    hexact line (by simp [hline])
  have hfollows := states_of_parts hpre hbody hpost hbodyExact
    (run_of_reads hpre ▸ hrunning) (run_of_reads hpre ▸ hwork)
  obtain ⟨halong₂, hrunning, hwork, hin₂⟩ := along_body hoff hbody hbodyExact
    (rules_from_entry hbind.first hrules) rfl
    (fun _ _ hrule => inBounds_of_rule hprofile hoff hrule) hrunning hwork hin hpos le_rfl
  -- the trailer retracts and stops
  rw [← runAll_append, ← List.map_append] at hrunning hwork hin₂
  obtain ⟨halong₃, hrun₃⟩ := along_congr hcongr hpost (run_trailer he hbound hrunning hwork hin₂)
  have hlast : stateBefore t start (pre ++ body ++ post) (pre ++ body ++ post).length =
      runAll (execute t) (runAll (execute t) start ((pre ++ body).map ParsedLine.words))
        f.trailer := by
    rw [stateBefore, List.take_length, List.map_append, runAll_append, hrun₃]
  obtain ⟨hretracted, hstopped⟩ := end_of_trailer he hbound hwork
  exact ⟨safeRun_of_along hpre.length_eq hpost.length_eq halong₁ halong₂ halong₃, hfollows,
    by rw [hlast, hretracted], by rw [hlast, hstopped]⟩

end

/-- The text of a program, read back and run: its lines are the planned words, and on the bound
    machine it runs the plan. -/
def CarriesOut (env : FingerprintEnv) (profile : LinuxCNCProductionMachineProfile)
    (doc : ProductionToolpathDocument) (program : ProductionProgram)
    (output : ProductionMachineProgram) : Prop :=
  ∃ parsed setup tool first rpm,
    validateProductionProgram env doc profile (.bytes output.content) program = .ok parsed ∧
    BindsRun doc program setup tool first rpm ∧
    parsed.lines.map ParsedLine.words =
      programWords (fixedLines profile setup tool first rpm) program ∧
    ∀ (remap : MachineState → MachineState) (start : MachineState),
      InMachineBounds profile start.position →
      RunsPlan profile program setup tool (fixedLines profile setup tool first rpm)
        (boundTables profile doc.executionContext remap) start parsed.lines

theorem carriesOut_of_written (h : WrittenFor env profile doc program output) :
    CarriesOut env profile doc program output := by
  obtain ⟨⟨text, htext, hascii⟩, parsed, hparsed⟩ := h
  obtain ⟨setup, tool, first, rpm, hbind, hprofile, hoffsets, hparse, hentry, hlines⟩ :=
    validateProductionProgram_inv hparsed
  have hlength : parsed.lines.length =
      (programWords (fixedLines profile setup tool first rpm) program).length := by
    obtain ⟨pre, post, hsplit, hpre, hpost, hbody, -⟩ := validateLines_inv hlines
    rw [hsplit, programWords]
    simp only [List.length_append, List.length_map, hpre.length_eq, hpost.length_eq, hbody]
  have hwords := words_of_written htext hascii hbind hparse hlength
  refine ⟨parsed, setup, tool, first, rpm, hparsed, hbind, hwords, ?_⟩
  intro remap start hstart
  refine runsPlan_of_exact hbind hprofile hoffsets hentry hlines ?_ remap hstart
  intro line hline
  have hmem : line.words ∈ programWords (fixedLines profile setup tool first rpm) program :=
    hwords ▸ List.mem_map_of_mem hline
  exact exactAxes_programWords _ program line.words hmem

/-- Every emitted program carries out its plan: it is read back word for word, every line runs
    safely, each move ends where it is planned, and the run ends retracted and stopped. -/
theorem emitted_programs_carry_out_plans {outputs : List ProductionMachineProgram}
    (h : generate env profile doc = .ok outputs) :
    List.Forall₂ (CarriesOut env profile doc) doc.programs outputs :=
  (generate_written h).imp fun _ _ hwritten => carriesOut_of_written hwritten

end

theorem emitted_programs_carry_out_plans_pocket :
    ∃ outputs, generate PocketRun.env PocketRun.profile PocketRun.document = .ok outputs ∧
      List.Forall₂ (CarriesOut PocketRun.env PocketRun.profile PocketRun.document)
        PocketRun.document.programs outputs := by
  obtain ⟨outputs, houtputs⟩ := PocketRun.exists_outputs
  exact ⟨outputs, houtputs, emitted_programs_carry_out_plans houtputs⟩

/-! ## What the machine cuts -/

/-- The centres that the cutter takes at a depth, in the frame of the program: between the ends of
    two successive lines at this depth, the second of which cuts. -/
def SweptByRun (t : ControllerTables) (f : FixedLines) (start : MachineState)
    (lines : List ParsedLine) (levelUm : Int) : Set (ℝ × ℝ) :=
  {s | ∃ (k : Nat) (a b : Int × Int),
    (stateBefore t start lines k).position = bodyOffset t f + Position.ofUm a.1 a.2 levelUm ∧
    (stateBefore t start lines (k + 1)).position =
      bodyOffset t f + Position.ofUm b.1 b.2 levelUm ∧
    (stateBefore t start lines (k + 1)).motion = some .linear ∧ s ∈ segment ℝ (real a) (real b)}

section
variable {profile : LinuxCNCProductionMachineProfile} {program : ProductionProgram}
  {setup : BoundSetup} {tool : ProductionToolBinding} {f : FixedLines} {t : ControllerTables}
  {start : MachineState} {lines : List ParsedLine}

/-- The line of a move leaves the machine where the move ends. -/
theorem RunsPlan.arrives (h : RunsPlan profile program setup tool f t start lines) {i : Nat}
    {m : ProductionMove} (hm : program.moves[i]? = some m) :
    (stateBefore t start lines (f.preamble.length + (i + 1))).position =
        bodyOffset t f + Position.ofUm m.xUm m.yUm m.zUm ∧
      (stateBefore t start lines (f.preamble.length + (i + 1))).motion = some m.kind := by
  have hi := (List.getElem?_eq_some_iff.mp hm).1
  have hnone : i + 1 - program.moves.length = 0 := by omega
  rw [h.follows, plannedState, Nat.add_sub_cancel_left, hnone, List.take_zero,
    List.take_add_one (i := i), hm, runAll_append]
  exact ⟨rfl, rfl⟩

/-- What successive moves cut, the machine cuts. -/
theorem RunsPlan.sweeps (h : RunsPlan profile program setup tool f t start lines)
    (hwf : program.WellFormed) {keep : ProductionMove → Bool} {pass : Nat} {levelUm : Int} :
    Swept (program.moves.filter keep) pass levelUm ⊆ SweptByRun t f start lines levelUm := by
  have hnumber {m : ProductionMove} (hm : m ∈ program.moves.filter keep) :
      ∃ i, program.moves[i]? = some m ∧ m.sequence = i + 1 := by
    obtain ⟨i, hi⟩ := List.mem_iff_getElem?.mp (List.mem_of_mem_filter hm)
    have hsequence := congrArg (fun l => l[i]?) hwf.2.2.2.2.2.2.2.1
    have hlt := (List.getElem?_eq_some_iff.mp hi).1
    simp only [List.getElem?_map, hi, List.getElem?_range hlt, Option.map_some,
      Option.some.injEq] at hsequence
    exact ⟨i, hi, hsequence⟩
  rintro s ⟨a, b, ⟨previous, hprevious, move, hmove, hnext, hcuts, hpoints⟩, hs⟩
  obtain ⟨i, hi, hi'⟩ := hnumber hprevious
  obtain ⟨j, hj, hj'⟩ := hnumber hmove
  obtain rfl : j = i + 1 := by omega
  simp only [Verification.cutsAt, Bool.and_eq_true, decide_eq_true_eq] at hcuts
  obtain ⟨⟨⟨⟨⟨hlinear, -⟩, -⟩, -⟩, hz⟩, hz'⟩ := hcuts
  have harrives := h.arrives hi
  have harrives' := h.arrives hj
  rw [hz'] at harrives
  rw [hz, hlinear] at harrives'
  refine ⟨_, previous.point, move.point, harrives.1, harrives'.1, harrives'.2, ?_⟩
  rcases hpoints with ⟨rfl, rfl⟩ | ⟨rfl, rfl⟩
  · exact hs
  · rwa [segment_symm]

/-- What is swept at the levels down to the target of a pocket or groove reaches, at each of them,
    all of the raster rectangle widened by the cutter. -/
def CutsArea (op : CAMOperation) (binding : ProductionToolBinding) (recipe : CuttingRecipe)
    (setup : BoundSetup) (swept : Int → Set (ℝ × ℝ)) : Prop :=
  ∃ target, targetDepthUm op setup recipe = .ok target ∧
    let levels := Verification.depthLevels target recipe.stepdownUm
    let bounds := independentAreaRasterBounds op (binding.effectiveDiameterUm / 2)
    DescendsTo levels recipe.stepdownUm target ∧
      ∀ level ∈ levels, ∀ radius : ℝ, ((binding.effectiveDiameterUm / 2 : Int) : ℝ) ≤ radius →
        Lib.Covers (real (bounds.left, bounds.bottom)) (real (bounds.right, bounds.top)) radius
          (swept level)

theorem RunsPlan.cutsArea (h : RunsPlan profile program setup tool f t start lines)
    (hwf : program.WellFormed) {op : CAMOperation} {binding : ProductionToolBinding}
    {recipe : CuttingRecipe} {opSetup : BoundSetup}
    (hissues : Verification.areaMotionIssues op binding recipe opSetup program = []) :
    CutsArea op binding recipe opSetup (SweptByRun t f start lines) := by
  obtain ⟨target, htarget, hdescends, -, hcovers⟩ := Verification.accepted_area hissues
  refine ⟨target, htarget, hdescends, fun level hlevel radius hradius p c hc hp => ?_⟩
  obtain ⟨n, hn⟩ := List.mem_iff_getElem?.mp hlevel
  obtain ⟨s, hs, hps⟩ := hcovers (level, 1 + n) (List.mk_add_mem_zipIdx_iff_getElem?.mpr hn)
    radius hradius p c hc hp
  exact ⟨s, h.sweeps hwf hs, hps⟩

end

/-- Whoever wrote it, a text that is accepted for a program and has exact coordinates carries out
    the plan, and it cuts every pocket and groove of the program that the verifier passes. -/
theorem accepted_programs_cut_verified_areas {env : FingerprintEnv}
    {profile : LinuxCNCProductionMachineProfile} {doc : ProductionToolpathDocument}
    {program : ProductionProgram} {payload : Payload} {parsed : ParsedProductionProgram}
    (h : validateProductionProgram env doc profile payload program = .ok parsed)
    (hexact : ExactPayload payload) :
    ∃ setup tool first rpm, BindsRun doc program setup tool first rpm ∧
      ∀ (remap : MachineState → MachineState) (start : MachineState),
        InMachineBounds profile start.position →
        let f := fixedLines profile setup tool first rpm
        let t := boundTables profile doc.executionContext remap
        RunsPlan profile program setup tool f t start parsed.lines ∧
          ∀ op binding recipe opSetup,
            Verification.areaMotionIssues op binding recipe opSetup program = [] →
            CutsArea op binding recipe opSetup (SweptByRun t f start parsed.lines) := by
  obtain ⟨setup, tool, first, rpm, hbind, hprofile, hoffsets, hparse, hentry, hlines⟩ :=
    validateProductionProgram_inv h
  refine ⟨setup, tool, first, rpm, hbind, fun remap start hstart => ?_⟩
  have hruns := runsPlan_of_exact hbind hprofile hoffsets hentry hlines (hexact _ hparse) remap
    hstart
  refine ⟨hruns, fun op binding recipe opSetup hissues => ?_⟩
  exact hruns.cutsArea (doc.programs_wf program hbind.member) hissues

namespace PocketRun

/-- The slot that the pocket run cuts, as wide as the cutter. -/
def slot : CAMOperation :=
  { PocketJob.operation with
    operationId := "pocket-1"
    xUm := 37000
    yUm := 27000
    depthUm := 1500
    widthUm := some 26000
    lengthUm := some 6000 }

theorem slot_verified : Verification.areaMotionIssues slot PanelJob.routerBinding
    PanelJob.pocketRecipe PanelJob.boundSetup program = [] := by
  decide +kernel

theorem accepted_programs_cut_verified_slot : ∃ payload parsed,
    validateProductionProgram env document profile payload program = .ok parsed ∧
    ∃ f, CutsArea slot PanelJob.routerBinding PanelJob.pocketRecipe PanelJob.boundSetup
      (SweptByRun tables f start parsed.lines) := by
  obtain ⟨payload, parsed, hpayload, hparsed⟩ := exists_exact
  obtain ⟨_, _, _, _, -, hruns⟩ := accepted_programs_cut_verified_areas hparsed hpayload
  exact ⟨payload, parsed, hparsed, _, (hruns id _ start_inBounds).2 _ _ _ _ slot_verified⟩

end PocketRun

end Custombuild.Postprocessors
