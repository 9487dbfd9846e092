/-
  Texts as lines: what the lexical checks, the header checks and the parser say of a text that is
  joined from clean lines, of which the first ones are comments.
-/
import Custombuild.Postprocessors.Printer
import Custombuild.Postprocessors.Validator

namespace Custombuild.Postprocessors

open Custombuild.Lib Custombuild.Manufacturing Custombuild.Cam

/-! ## Clean lines -/

/-- The checks of `requireCanonicalLine`, of printable characters and of blanks at the ends. -/
structure CleanLine (line : List Char) : Prop where
  printable : ∀ c ∈ line, isPrintable c = true
  nonempty : line ≠ []
  stripped : stripBlanks line = line
  canonical : ∀ number, requireCanonicalLine line number = .ok ()

def CleanLines (lines : List (List Char)) : Prop := ∀ line ∈ lines, CleanLine line

theorem requireCanonicalLine_congr {line : List Char} {number : Nat}
    (h : requireCanonicalLine line number = .ok ()) (number' : Nat) :
    requireCanonicalLine line number' = .ok () := by
  unfold requireCanonicalLine at h ⊢
  simp only [bind_eq_ok, require_eq_ok] at h ⊢
  exact h

theorem isPrintable_not_lf {c : Char} (h : isPrintable c = true) : c ≠ '\n' := by
  rintro rfl
  exact absurd h (by decide)

theorem isPrintable_not_cr {c : Char} (h : isPrintable c = true) : c ≠ '\r' := by
  rintro rfl
  exact absurd h (by decide)

theorem splitOnChar_append {sep : Char} {line : List Char} (h : sep ∉ line) (rest : List Char) :
    splitOnChar sep (line ++ sep :: rest) = line :: splitOnChar sep rest := by
  induction line with
  | nil => simp [splitOnChar]
  | cons c line ih =>
    obtain ⟨hc, hline⟩ := not_or.mp (mt List.mem_cons.mpr h)
    rw [List.cons_append, splitOnChar, if_neg (Ne.symm hc), ih hline]

theorem splitOnChar_of_not_mem {sep : Char} {line : List Char} (h : sep ∉ line) :
    splitOnChar sep line = [line] := by
  induction line with
  | nil => rfl
  | cons c line ih =>
    obtain ⟨hc, hline⟩ := not_or.mp (mt List.mem_cons.mpr h)
    rw [splitOnChar, if_neg (Ne.symm hc), ih hline]

theorem joinLines_cons (line : List Char) (lines : List (List Char)) :
    joinLines (line :: lines) = line ++ '\n' :: joinLines lines := by
  simp [joinLines]

theorem joinLines_append (lines more : List (List Char)) :
    joinLines (lines ++ more) = joinLines lines ++ joinLines more := by
  simp [joinLines]

section Clean

variable {lines : List (List Char)} (hclean : CleanLines lines)
include hclean

theorem CleanLines.not_lf {line : List Char} (h : line ∈ lines) : '\n' ∉ line :=
  fun hmem => isPrintable_not_lf ((hclean line h).printable _ hmem) rfl

theorem CleanLines.split : splitOnChar '\n' (joinLines lines) = lines ++ [[]] := by
  induction lines with
  | nil => rfl
  | cons line lines ih =>
    rw [joinLines_cons, splitOnChar_append (hclean.not_lf List.mem_cons_self),
      ih fun l hl => hclean l (List.mem_cons_of_mem _ hl), List.cons_append]

/-- The last line feed is dropped with the empty line behind it. -/
theorem CleanLines.textLines_eq (hne : lines ≠ []) : textLines (joinLines lines) = lines := by
  obtain ⟨init, last, rfl⟩ := lines.eq_nil_or_concat'.resolve_left hne
  have hinit : CleanLines init := fun l hl => hclean l (List.mem_append_left _ hl)
  have hdrop : (joinLines (init ++ [last])).dropLast = joinLines init ++ last := by
    rw [joinLines_append, joinLines_cons]
    show (joinLines init ++ (last ++ ['\n'])).dropLast = _
    rw [← List.append_assoc, List.dropLast_concat]
  have hlast : '\n' ∉ last := hclean.not_lf (by simp)
  unfold textLines
  rw [hdrop]
  clear hclean hdrop hne
  induction init with
  | nil => exact splitOnChar_of_not_mem hlast
  | cons line init ih =>
    rw [joinLines_cons, List.append_assoc, List.cons_append,
      splitOnChar_append (hinit.not_lf List.mem_cons_self),
      ih fun l hl => hinit l (List.mem_cons_of_mem _ hl), List.cons_append]

theorem CleanLines.chars : ∀ c ∈ joinLines lines, c = '\n' ∨ isPrintable c = true := by
  intro c hc
  simp only [joinLines, List.mem_flatMap, List.mem_append, List.mem_singleton] at hc
  obtain ⟨line, hline, hc | hc⟩ := hc
  · exact Or.inr ((hclean line hline).printable c hc)
  · exact Or.inl hc

theorem CleanLines.canonicalForm (hne : lines ≠ []) :
    requireCanonicalLexicalForm (joinLines lines) = .ok () := by
  have hcr : '\r' ∉ joinLines lines := by
    intro hmem
    rcases hclean.chars _ hmem with h | h
    · exact absurd h (by decide)
    · exact isPrintable_not_cr h rfl
  have hlast : (joinLines lines).getLast? = some '\n' := by
    obtain ⟨init, last, rfl⟩ := lines.eq_nil_or_concat'.resolve_left hne
    rw [joinLines_append, joinLines_cons]
    simp [joinLines]
  unfold requireCanonicalLexicalForm
  simp only [bind_eq_ok, require_eq_ok, forEach_eq_ok, hclean.textLines_eq hne]
  refine ⟨(), ?_, (), ?_, (), ?_, ?_⟩
  · simp [hcr, hlast]
  · simpa using hclean.chars
  · rw [List.all_eq_true]
    intro line hline
    have h := hclean line hline
    simp [h.nonempty, h.stripped]
  · intro entry hentry
    exact (hclean entry.1 (List.fst_mem_of_mem_zipIdx hentry)).canonical entry.2

theorem CleanLines.nonblankLines_eq (hne : lines ≠ []) : nonblankLines (joinLines lines) = lines := by
  unfold nonblankLines
  rw [hclean.textLines_eq hne]
  have hmap : lines.map stripBlanks = lines := by
    conv_rhs => rw [← List.map_id lines]
    exact List.map_congr_left fun line hline => (hclean line hline).stripped
  rw [hmap, List.filter_eq_self]
  intro line hline
  simpa using (hclean line hline).nonempty

theorem CleanLines.parseGcode_eq : parseGcode (joinLines lines) = parseLines 1 (lines ++ [[]]) := by
  have hall : ((joinLines lines).all fun c => c = '\n' || isPrintable c) = true := by
    simpa using hclean.chars
  unfold parseGcode
  rw [hall, hclean.split]
  rfl

end Clean

/-! ## Comment lines -/

/-- What makes a comment of a key and a value canonical. -/
def commentOk (key : String) (value : List Char) : Bool :=
  dynamicCommentKeys.contains key && key.toList.all isCommentChar && !value.isEmpty &&
    value.all isCommentChar && key.toList.length + value.length + 3 ≤ linuxcncFileMaxLineBytes

theorem comment_char {c : Char} (h : isCommentChar c = true) :
    isPrintable c = true ∧ c ≠ '(' ∧ c ≠ ')' ∧ c ≠ ';' ∧ c ≠ '=' ∧ c ≠ ' ' := by
  have hascii : c.toNat < 128 := by
    simp only [isCommentChar, Bool.or_eq_true, beq_iff_eq] at h
    rcases h with (((((h | rfl) | rfl) | rfl) | rfl) | rfl) | rfl
    · exact toNat_lt_of_alphanum h
    all_goals decide
  refine ascii_forall (p := fun c => isCommentChar c = true → isPrintable c = true ∧ c ≠ '(' ∧
    c ≠ ')' ∧ c ≠ ';' ∧ c ≠ '=' ∧ c ≠ ' ') ?_ hascii h
  decide +kernel

section Comment

variable {key : String} {value : List Char} (h : commentOk key value = true)
include h

theorem commentOk_iff : key ∈ dynamicCommentKeys ∧ (∀ c ∈ key.toList, isCommentChar c = true) ∧
    value ≠ [] ∧ (∀ c ∈ value, isCommentChar c = true) ∧
    key.toList.length + value.length + 3 ≤ linuxcncFileMaxLineBytes := by
  simpa [commentOk, and_assoc] using h

theorem isDynamicComment_comment : isDynamicComment (comment key value) = true := by
  obtain ⟨hmem, hkey, hne, hvalue, -⟩ := commentOk_iff h
  have hequals : ∀ c ∈ key.toList, (c != '=') = true := fun c hc =>
    bne_iff_ne.mpr (comment_char (hkey c hc)).2.2.2.2.1
  unfold isDynamicComment comment
  simp only [List.dropWhile_append_of_pos hequals, List.takeWhile_append_of_pos hequals,
    List.dropWhile_cons, List.takeWhile_cons, bne_self_eq_false, Bool.false_eq_true, if_false,
    List.append_nil, String.ofList_toList, List.getLast?_concat, List.dropLast_concat]
  simpa [hne, hmem] using hvalue

/-- Inside the brackets there is none. -/
theorem comment_body : ∃ body, comment key value = '(' :: (body ++ [')']) ∧
    ∀ c ∈ body, isPrintable c = true ∧ c ≠ '(' ∧ c ≠ ')' ∧ c ≠ ';' := by
  obtain ⟨-, hkey, -, hvalue, -⟩ := commentOk_iff h
  refine ⟨key.toList ++ '=' :: value, by simp [comment], ?_⟩
  intro c hc
  rcases List.mem_append.mp hc with hc | hc
  · have := comment_char (hkey c hc)
    exact ⟨this.1, this.2.1, this.2.2.1, this.2.2.2.1⟩
  · rcases List.mem_cons.mp hc with rfl | hc
    · decide
    · have := comment_char (hvalue c hc)
      exact ⟨this.1, this.2.1, this.2.2.1, this.2.2.2.1⟩

end Comment

theorem stripBlanks_of_ends {first last : Char} {body : List Char} (hfirst : first ≠ ' ')
    (hlast : last ≠ ' ') : stripBlanks (first :: (body ++ [last])) = first :: (body ++ [last]) := by
  have hkeep (c : Char) (rest : List Char) (hc : c ≠ ' ') :
      (c :: rest).dropWhile (· == ' ') = c :: rest := by
    rw [List.dropWhile_cons, if_neg (by simpa using hc)]
  unfold stripBlanks
  rw [hkeep _ _ hfirst, ← List.cons_append, List.reverse_append]
  show (((last :: (first :: body).reverse)).dropWhile (· == ' ')).reverse = _
  rw [hkeep _ _ hlast, List.reverse_cons, List.reverse_reverse]

theorem cleanLine_comment {key : String} {value : List Char} (h : commentOk key value = true) :
    CleanLine (comment key value) := by
  obtain ⟨body, hbody, hchars⟩ := comment_body h
  have hlength : (comment key value).length ≤ linuxcncFileMaxLineBytes := by
    have := (commentOk_iff h).2.2.2.2
    simp only [comment, List.length_cons, List.length_append, List.length_nil]
    omega
  have hsemicolon : ';' ∉ comment key value := by
    rw [hbody]
    intro hmem
    rcases List.mem_cons.mp hmem with heq | hmem
    · exact absurd heq (by decide)
    · rcases List.mem_append.mp hmem with hmem | hmem
      · exact (hchars _ hmem).2.2.2 rfl
      · exact absurd (List.mem_singleton.mp hmem) (by decide)
  refine ⟨?_, ?_, ?_, ?_⟩
  · rw [hbody]
    intro c hc
    rcases List.mem_cons.mp hc with rfl | hc
    · decide
    · rcases List.mem_append.mp hc with hc | hc
      · exact (hchars c hc).1
      · rw [List.mem_singleton.mp hc]
        decide
  · rw [hbody]
    exact List.cons_ne_nil _ _
  · rw [hbody]
    exact stripBlanks_of_ends (by decide) (by decide)
  · intro number
    have hbracket : ((comment key value).contains '(' || (comment key value).contains ')') = true := by
      simp [comment]
    unfold requireCanonicalLine
    simp only [hbracket, if_true, isDynamicComment_comment h, Bool.true_or]
    simp only [bind_eq_ok, require_eq_ok]
    exact ⟨(), by simpa using hlength, (), by simpa using hsemicolon, trivial⟩

/-! ## Lines without words -/

/-- A line from which the parser reads nothing. -/
def SilentLine (line : List Char) : Prop :=
  ∀ number, ∃ code, stripCommentsFrom number false line = .ok code ∧
    (stripBlanks code = [] ∨ stripBlanks code = ['%'])

theorem stripComments_inside {number : Nat} {body : List Char}
    (h : ∀ c ∈ body, c ≠ '(' ∧ c ≠ ')') :
    stripCommentsFrom number true (body ++ [')']) = .ok [] := by
  induction body with
  | nil => rfl
  | cons c body ih =>
    have hc := h c List.mem_cons_self
    rw [List.cons_append, stripCommentsFrom]
    simp only [hc.1, hc.2, if_false, Bool.not_true, Bool.and_false, if_true, Bool.false_eq_true]
    exact ih fun d hd => h d (List.mem_cons_of_mem _ hd)

theorem silentLine_bracketed {body : List Char} (h : ∀ c ∈ body, c ≠ '(' ∧ c ≠ ')') :
    SilentLine ('(' :: (body ++ [')'])) := by
  intro number
  refine ⟨[], ?_, Or.inl rfl⟩
  rw [stripCommentsFrom]
  simpa using stripComments_inside h

theorem parseLines_silent {silent : List (List Char)} (h : ∀ line ∈ silent, SilentLine line)
    (number : Nat) (rest : List (List Char)) :
    parseLines number (silent ++ rest) = parseLines (number + silent.length) rest := by
  induction silent generalizing number with
  | nil => rfl
  | cons line silent ih =>
    obtain ⟨code, hcode, hblank⟩ := h line List.mem_cons_self number
    rw [List.cons_append, parseLines, hcode]
    show (if _ then _ else _) = _
    rw [if_pos hblank, ih (fun l hl => h l (List.mem_cons_of_mem _ hl)), List.length_cons]
    congr 1
    omega

/-! ## Headers -/

def operationStart : List Char := "(OPERATION_ID=".toList

/-- A line of an identity header behind the percent sign. -/
structure HeaderLine (line : List Char) : Prop where
  clean : CleanLine line
  silent : SilentLine line
  opens : line.head? = some '('
  noOperation : operationStart.isPrefixOf line = false

/-- A static comment is a bracketed line. -/
def isStaticLine (line : List Char) : Bool :=
  line == '(' :: (line.tail.dropLast ++ [')']) &&
    (line.tail.dropLast.all fun c => c != '(' && c != ')') &&
    line.all isPrintable && (requireCanonicalLine line 0).isOk && !operationStart.isPrefixOf line

/-- The fixed texts of a header: the markers are neither dynamic comments nor a percent sign, the
    keys are clean, and the static comments are bracketed lines with each marker once. -/
theorem header_texts :
    (operationStart = '(' :: ("OPERATION_ID".toList ++ ['=']) ∧
      "OPERATION_ID".toList.all (· != '=') = true ∧ operationStart.isPrefixOf ['%'] = false) ∧
    (∀ marker ∈ markers, isDynamicComment marker.toList = false ∧ ['%'] ≠ marker.toList ∧
      ((staticComments.map String.toList).filter fun line => line = marker.toList).length = 1) ∧
    (∀ key ∈ dynamicCommentKeys.dropLast, key.toList.all isCommentChar = true ∧
      key.toList.length ≤ 60 ∧ key ≠ "OPERATION_ID") ∧
    (staticComments.map String.toList).all isStaticLine = true := by
  rw [toList_eq_charsOf]
  decide +kernel

theorem key_of_operation {key : String} {value : List Char} (h : commentOk key value = true)
    (hstart : operationStart.isPrefixOf (comment key value) = true) : key = "OPERATION_ID" := by
  obtain ⟨-, hkey, -⟩ := commentOk_iff h
  obtain ⟨rest, hrest⟩ := List.isPrefixOf_iff_prefix.mp hstart
  have hequals : ∀ c ∈ key.toList, (c != '=') = true := fun c hc =>
    bne_iff_ne.mpr (comment_char (hkey c hc)).2.2.2.2.1
  obtain ⟨⟨hsplit, hname, -⟩, -⟩ := header_texts
  rw [List.all_eq_true] at hname
  rw [hsplit, List.cons_append, List.append_assoc, comment] at hrest
  have htail := (List.cons.inj hrest).2
  have htake := congrArg (List.takeWhile (· != '=')) htail
  rw [List.takeWhile_append_of_pos hname, List.takeWhile_append_of_pos hequals] at htake
  simpa using (String.toList_injective (by simpa using htake)).symm

theorem headerLine_comment {key : String} {value : List Char} (h : commentOk key value = true)
    (hkey : key ≠ "OPERATION_ID") : HeaderLine (comment key value) := by
  obtain ⟨body, hbody, hchars⟩ := comment_body h
  refine ⟨cleanLine_comment h, ?_, by rw [hbody]; rfl, ?_⟩
  · rw [hbody]
    exact silentLine_bracketed fun c hc => ⟨(hchars c hc).2.1, (hchars c hc).2.2.1⟩
  · rw [Bool.eq_false_iff]
    exact fun hstart => hkey (key_of_operation h hstart)

theorem not_marker_of_dynamic {line : List Char} (h : isDynamicComment line = true)
    {marker : String} (hmarker : marker ∈ markers) : line ≠ marker.toList := by
  rintro rfl
  rw [(header_texts.2.1 marker hmarker).1] at h
  cases h

/-! ## Whole texts -/

/-- The comments of the operations of a program. -/
def operationComments (program : ProductionProgram) : List (List Char) :=
  (operationStarts "" program.moves).map fun id => comment "OPERATION_ID" id.toList

/-- The identity of an operation comment. -/
def operationName (line : List Char) : List Char :=
  let id := line.drop operationStart.length
  if id.getLast? = some ')' then id.dropLast else id

/-- The lines behind a header. -/
structure CodeLines (program : ProductionProgram) (code : List (List Char)) : Prop where
  clean : CleanLines code
  ends : ∃ body, code = body ++ [['%']] ∧ ['%'] ∉ body
  unmarked : ∀ marker ∈ markers, marker.toList ∉ code
  comments : (code.filter fun line => line.head? = some '(') = operationComments program
  operations : (code.filter fun line => operationStart.isPrefixOf line).map operationName =
    (operationStarts "" program.moves).map String.toList

/-- A percent sign and the lines of a header. -/
structure Headed (comments : List (List Char)) : Prop where
  lines : ∀ line ∈ comments, HeaderLine line
  marked : ∀ marker ∈ markers, (comments.filter fun line => line = marker.toList).length = 1

theorem cleanLine_percent : CleanLine ['%'] where
  printable := List.all_eq_true.mp (by decide)
  nonempty := by decide
  stripped := by decide
  canonical := fun number => by
    unfold requireCanonicalLine
    rfl

theorem silentLine_percent : SilentLine ['%'] := fun _ => ⟨['%'], rfl, Or.inr (by decide)⟩

section Text

variable {program : ProductionProgram} {comments code : List (List Char)}
variable (hheader : Headed comments) (hcode : CodeLines program code)
include hheader hcode

theorem Headed.clean : CleanLines ((['%'] :: comments) ++ code) := by
  intro line hline
  rcases List.mem_append.mp hline with hline | hline
  · rcases List.mem_cons.mp hline with rfl | hline
    · exact cleanLine_percent
    · exact (hheader.lines line hline).clean
  · exact hcode.clean line hline

theorem Headed.textLines_eq : textLines (joinLines ((['%'] :: comments) ++ code)) =
    (['%'] :: comments) ++ code :=
  (hheader.clean hcode).textLines_eq (by simp)

theorem Headed.envelope :
    requirePercentEnvelope (joinLines ((['%'] :: comments) ++ code)) = .ok () := by
  obtain ⟨body, rfl, hbody⟩ := hcode.ends
  have hpercent : ∀ line ∈ comments ++ body, line ≠ ['%'] := by
    intro line hline
    rcases List.mem_append.mp hline with hline | hline
    · rintro rfl
      exact absurd (hheader.lines _ hline).opens (by decide)
    · rintro rfl
      exact hbody hline
  have hfilter (start : Nat) :
      (((comments ++ body).zipIdx start).filter fun p => p.1 = ['%']) = [] := by
    rw [List.filter_eq_nil_iff]
    intro entry hentry
    simpa using hpercent entry.1 (List.fst_mem_of_mem_zipIdx hentry)
  have hlines : (['%'] :: comments) ++ (body ++ [['%']]) =
      ['%'] :: ((comments ++ body) ++ [['%']]) := by simp
  unfold requirePercentEnvelope
  simp only [(hheader.clean hcode).nonblankLines_eq (by simp), require_eq_ok]
  rw [hlines]
  generalize comments ++ body = middle at hfilter
  have hlast : (['%'] :: (middle ++ [['%']])).getLast? = some ['%'] := by
    rw [← List.cons_append, List.getLast?_concat]
  have hpositions : ((['%'] :: (middle ++ [['%']])).zipIdx.filter fun p => p.1 = ['%']).map Prod.snd =
      [0, middle.length + 1] := by
    rw [List.zipIdx_cons, List.zipIdx_append, List.filter_cons, if_pos (by simp),
      List.filter_append, hfilter]
    simp [Nat.add_comm]
  rw [hlast, hpositions]
  simp

theorem Headed.markers_ok :
    forEach (requireMarker (joinLines ((['%'] :: comments) ++ code))) markers = .ok () := by
  rw [forEach_eq_ok]
  intro marker hmarker
  have hstripped : ∀ line ∈ (['%'] :: comments) ++ code,
      (decide (stripBlanks line = marker.toList)) = decide (line = marker.toList) := by
    intro line hline
    rw [((hheader.clean hcode) line hline).stripped]
  have hpercent : ['%'] ≠ marker.toList := (header_texts.2.1 marker hmarker).2.1
  have hnone : (code.filter fun line => line = marker.toList) = [] := by
    rw [List.filter_eq_nil_iff]
    intro line hline
    rw [decide_eq_true_eq]
    rintro rfl
    exact hcode.unmarked marker hmarker hline
  unfold requireMarker
  rw [require_eq_ok, hheader.textLines_eq hcode, List.filter_congr hstripped, List.filter_append,
    hnone, List.append_nil, List.filter_cons, if_neg (by simpa using hpercent),
    hheader.marked marker hmarker]
  rfl

theorem Headed.identity : requireIdentityHeader (joinLines ((['%'] :: comments) ++ code))
    (['%'] :: comments) program = .ok () := by
  have hcomments : (comments.filter fun line => line.head? = some '(') = comments := by
    rw [List.filter_eq_self]
    intro line hline
    simpa using (hheader.lines line hline).opens
  unfold requireIdentityHeader
  simp only [(hheader.clean hcode).nonblankLines_eq (by simp), bind_eq_ok, require_eq_ok]
  refine ⟨(), by simp, ?_⟩
  rw [List.filter_append, hcode.comments, List.filter_cons, if_neg (by decide), hcomments,
    decide_eq_true_eq]
  rfl

theorem Headed.operations_ok : requireOperationCommentSequence
    (joinLines ((['%'] :: comments) ++ code)) program = .ok () := by
  have hnone : (comments.filter fun line => operationStart.isPrefixOf line) = [] := by
    rw [List.filter_eq_nil_iff]
    intro line hline
    rw [(hheader.lines line hline).noOperation]
    exact Bool.false_ne_true
  have hpercent : operationStart.isPrefixOf ['%'] = false := header_texts.1.2.2
  unfold requireOperationCommentSequence
  rw [require_eq_ok, hheader.textLines_eq hcode, decide_eq_true_eq]
  show List.map operationName (List.filter (fun line => operationStart.isPrefixOf line) _) = _
  rw [List.filter_append, List.filter_cons, hpercent, if_neg Bool.false_ne_true, hnone,
    List.nil_append, hcode.operations]

theorem Headed.parseGcode_eq : parseGcode (joinLines ((['%'] :: comments) ++ code)) =
    parseLines (comments.length + 2) (code ++ [[]]) := by
  have hsilent : ∀ line ∈ ['%'] :: comments, SilentLine line := by
    intro line hline
    rcases List.mem_cons.mp hline with rfl | hline
    · exact silentLine_percent
    · exact (hheader.lines line hline).silent
  rw [(hheader.clean hcode).parseGcode_eq, List.append_assoc, parseLines_silent hsilent,
    List.length_cons]
  congr 1
  omega

/-- The parser reads the lines behind the header. -/
theorem Headed.parse {lines : List ParsedLine}
    (hparse : parseLines (comments.length + 2) (code ++ [[]]) = .ok lines) (hne : lines ≠ [])
    (hwords : forEach requireWhitelistedLine lines = .ok ()) :
    parseProductionText (joinLines ((['%'] :: comments) ++ code)) = .ok lines := by
  unfold parseProductionText
  simp only [bind_eq_ok, require_eq_ok]
  refine ⟨(), (hheader.clean hcode).canonicalForm (by simp), (), hheader.envelope hcode, (),
    hheader.markers_ok hcode, lines, ?_, (), by simpa using hne, (), hwords, rfl⟩
  rw [hheader.parseGcode_eq hcode, hparse]

end Text

/-! ## The identity header -/

/-- A value that a comment may have. -/
def valueOk (value : List Char) : Bool :=
  !value.isEmpty && value.all isCommentChar && value.length ≤ 180

theorem commentOk_of_key {key : String} {value : List Char}
    (hkey : (dynamicCommentKeys.dropLast.contains key) = true) (hvalue : valueOk value = true) :
    commentOk key value = true ∧ key ≠ "OPERATION_ID" := by
  have hmem : key ∈ dynamicCommentKeys.dropLast := List.contains_iff_mem.mp hkey
  obtain ⟨hchars, hlength, hoperation⟩ := header_texts.2.2.1 key hmem
  rw [List.all_eq_true] at hchars
  simp only [valueOk, Bool.and_eq_true, List.all_eq_true, Bool.not_eq_true', decide_eq_true_eq]
    at hvalue
  obtain ⟨⟨hne, hall⟩, hshort⟩ := hvalue
  have hmax : linuxcncFileMaxLineBytes = 252 := rfl
  have hadmitted : key ∈ dynamicCommentKeys := List.dropLast_subset _ hmem
  refine ⟨?_, hoperation⟩
  simp only [commentOk, Bool.and_eq_true, List.all_eq_true, List.contains_iff_mem,
    Bool.not_eq_true', decide_eq_true_eq]
  exact ⟨⟨⟨⟨hadmitted, hchars⟩, hne⟩, hall⟩, by omega⟩

theorem headerLine_static {line : List Char} (h : isStaticLine line = true) : HeaderLine line := by
  simp only [isStaticLine, Bool.and_eq_true, List.all_eq_true, Bool.not_eq_true', beq_iff_eq,
    bne_iff_ne] at h
  obtain ⟨⟨⟨⟨hline, hbody⟩, hprintable⟩, hcanonical⟩, hoperation⟩ := h
  obtain ⟨⟨⟩, hcanonical⟩ := exists_eq_ok hcanonical
  have hstripped : stripBlanks line = line := by
    rw [hline]
    exact stripBlanks_of_ends (by decide) (by decide)
  have hsilent : SilentLine line := by
    rw [hline]
    exact silentLine_bracketed hbody
  have hne : line ≠ [] := by
    rw [hline]
    exact List.cons_ne_nil _ _
  exact ⟨⟨hprintable, hne, hstripped, requireCanonicalLine_congr hcanonical⟩, hsilent,
    by rw [hline]; rfl, hoperation⟩

/-- The static comments and those of admitted keys and values are a header. -/
theorem headed_append {entries : List (String × List Char)}
    (h : (entries.all fun entry =>
      dynamicCommentKeys.dropLast.contains entry.1 && valueOk entry.2) = true) :
    Headed (staticComments.map String.toList ++
      entries.map fun (key, value) => comment key value) := by
  have hlines : ∀ line ∈ entries.map fun (key, value) => comment key value,
      HeaderLine line ∧ isDynamicComment line = true := by
    intro line hline
    obtain ⟨entry, hentry, rfl⟩ := List.mem_map.mp hline
    have hadmitted := List.all_eq_true.mp h entry hentry
    rw [Bool.and_eq_true] at hadmitted
    obtain ⟨hok, hoperation⟩ := commentOk_of_key hadmitted.1 hadmitted.2
    exact ⟨headerLine_comment hok hoperation, isDynamicComment_comment hok⟩
  constructor
  · intro line hline
    rcases List.mem_append.mp hline with hline | hline
    · exact headerLine_static (List.all_eq_true.mp header_texts.2.2.2 line hline)
    · exact (hlines line hline).1
  · intro marker hmarker
    have hnone : ((entries.map fun (key, value) => comment key value).filter
        fun line => line = marker.toList) = [] := by
      rw [List.filter_eq_nil_iff]
      intro line hline
      simpa using not_marker_of_dynamic (hlines line hline).2 hmarker
    rw [List.filter_append, hnone, List.append_nil]
    exact (header_texts.2.1 marker hmarker).2.2

example : isCommentChar 'A' = true := by decide +kernel

end Custombuild.Postprocessors
