/-
  The grammar of G-code text.  A line without its comments is a sequence of words between
  blanks, a word being a letter and a numeral; `parse_gcode` accepts exactly the texts whose lines
  are such sequences, and returns precisely their words.
  Source: `parse_gcode`, `_strip_comments` and `_parse_words` of
  `custombuild_postprocessors.parser`.

  Beyond comments in parentheses, the source drops a line from a semicolon on and skips a line
  that is a lone percent sign.  The relations below have both with `marks` and neither without.
-/
import Custombuild.Postprocessors.Printer

namespace Custombuild.Postprocessors

open Custombuild.Lib

/-! ## The grammar -/

/-- The text without its comments: parentheses that are closed and not nested, and with `marks`
    what stands from a semicolon on. -/
inductive Uncommented (marks : Bool) : List Char → List Char → Prop
  | done : Uncommented marks [] []
  | semicolon (hidden : List Char) (h : marks = true) : Uncommented marks (';' :: hidden) []
  | comment {hidden rest code : List Char} (h : ∀ c ∈ hidden, c ≠ '(' ∧ c ≠ ')')
      (hrest : Uncommented marks rest code) :
      Uncommented marks ('(' :: (hidden ++ ')' :: rest)) code
  | char {c : Char} {rest code : List Char} (hopen : c ≠ '(') (hclose : c ≠ ')')
      (hmark : marks = true → c ≠ ';') (hrest : Uncommented marks rest code) :
      Uncommented marks (c :: rest) (c :: code)

/-- The sign of a numeral and its factor. -/
def IsSign (text : List Char) (factor : Int) : Prop :=
  (text = [] ∧ factor = 1) ∨ (text = ['+'] ∧ factor = 1) ∨ (text = ['-'] ∧ factor = -1)

/-- A text of digits. -/
def Digits (text : List Char) : Prop := ∀ c ∈ text, c.isDigit = true

/-- A numeral: a sign, and digits with at most one point. -/
inductive IsNumeral : List Char → Dec → Prop
  | whole {sign digits : List Char} {factor : Int} (hsign : IsSign sign factor)
      (hdigits : Digits digits) (hne : digits ≠ []) :
      IsNumeral (sign ++ digits) ⟨factor * digitsValue digits, 0⟩
  | point {sign whole fraction : List Char} {factor : Int} (hsign : IsSign sign factor)
      (hwhole : Digits whole) (hfraction : Digits fraction) (hne : whole ≠ [] ∨ fraction ≠ []) :
      IsNumeral (sign ++ (whole ++ '.' :: fraction))
        ⟨factor * digitsValue (whole ++ fraction), fraction.length⟩

/-- The text of a word: a letter and a numeral. -/
def IsWord (text : List Char) (word : GCodeWord) : Prop :=
  ∃ letter numeral, text = letter :: numeral ∧ letter.isAlpha = true ∧
    word.letter = letter.toUpper ∧ IsNumeral numeral word.value

/-- A sequence of words, with blanks anywhere between them. -/
inductive Spelled : List Char → List GCodeWord → Prop
  | done : Spelled [] []
  | blank {rest : List Char} {words : List GCodeWord} (h : Spelled rest words) :
      Spelled (' ' :: rest) words
  | word {text rest : List Char} {word : GCodeWord} {words : List GCodeWord}
      (hword : IsWord text word) (h : Spelled rest words) : Spelled (text ++ rest) (word :: words)

/-- A text of blanks. -/
def Blank (text : List Char) : Prop := ∀ c ∈ text, c = ' '

/-- A line without executable text: it is blank, or with `marks` a lone percent sign. -/
def Skipped (marks : Bool) (code : List Char) : Prop :=
  Blank code ∨ (marks = true ∧ ∃ before after, Blank before ∧ Blank after ∧
    code = before ++ '%' :: after)

/-- The blocks of numbered lines: one for each line that is not skipped, with its words. -/
inductive LinesGive (marks : Bool) : Nat → List (List Char) → List ParsedLine → Prop
  | done {line : Nat} : LinesGive marks line [] []
  | skip {line : Nat} {raw code : List Char} {rest : List (List Char)} {blocks : List ParsedLine}
      (hcode : Uncommented marks raw code) (hskip : Skipped marks code)
      (hrest : LinesGive marks (line + 1) rest blocks) : LinesGive marks line (raw :: rest) blocks
  | block {line : Nat} {raw code : List Char} {rest : List (List Char)} {words : List GCodeWord}
      {blocks : List ParsedLine} (hcode : Uncommented marks raw code) (hwords : Spelled code words)
      (hne : words ≠ []) (hrest : LinesGive marks (line + 1) rest blocks) :
      LinesGive marks line (raw :: rest) (⟨line, words⟩ :: blocks)

/-! ## Comments -/

/-- What the stripper returns inside a comment: the comment is closed, and the rest is read. -/
theorem stripCommentsFrom_inside {line : Nat} {raw code : List Char}
    (h : stripCommentsFrom line true raw = .ok code) : ∃ hidden rest,
      raw = hidden ++ ')' :: rest ∧ (∀ c ∈ hidden, c ≠ '(' ∧ c ≠ ')') ∧
        stripCommentsFrom line false rest = .ok code := by
  induction raw with
  | nil => cases h
  | cons c raw ih =>
    rw [stripCommentsFrom] at h
    split at h
    · cases h
    · rename_i hopen
      split at h
      · rename_i hclose
        subst hclose
        exact ⟨[], raw, rfl, by simp, h⟩
      · rename_i hclose
        rw [if_neg (by simp)] at h
        obtain ⟨hidden, rest, rfl, hhidden, hrest⟩ := ih h
        exact ⟨c :: hidden, rest, rfl, List.forall_mem_cons.mpr ⟨⟨hopen, hclose⟩, hhidden⟩, hrest⟩

theorem stripCommentsFrom_hidden (line : Nat) {hidden : List Char}
    (h : ∀ c ∈ hidden, c ≠ '(' ∧ c ≠ ')') (rest : List Char) :
    stripCommentsFrom line true (hidden ++ ')' :: rest) = stripCommentsFrom line false rest := by
  induction hidden with
  | nil => simp [stripCommentsFrom]
  | cons c hidden ih =>
    obtain ⟨hc, hhidden⟩ := List.forall_mem_cons.mp h
    rw [List.cons_append, stripCommentsFrom, if_neg hc.1, if_neg hc.2, if_neg (by simp)]
    exact ih hhidden

/-- The stripper returns exactly the text without its comments. -/
theorem stripCommentsFrom_eq_ok {line : Nat} {raw code : List Char} :
    stripCommentsFrom line false raw = .ok code ↔ Uncommented true raw code := by
  constructor
  · intro h
    -- the text behind a comment is shorter by more than one character
    induction hlength : raw.length using Nat.strong_induction_on generalizing raw code with
    | _ length ih =>
      subst hlength
      cases raw with
      | nil =>
        cases h
        exact .done
      | cons c raw =>
        rw [stripCommentsFrom] at h
        split at h
        · rename_i hopen
          subst hopen
          obtain ⟨hidden, rest, rfl, hhidden, hrest⟩ := stripCommentsFrom_inside h
          exact .comment hhidden (ih _ (by simp; omega) hrest rfl)
        · rename_i hopen
          split at h
          · cases h
          · rename_i hclose
            split at h
            · rename_i hmark
              cases h
              obtain rfl : c = ';' := by simpa using hmark
              exact .semicolon raw rfl
            · rename_i hmark
              obtain ⟨rest, hrest, hret⟩ := bind_eq_ok.mp h
              cases hret
              exact .char hopen hclose (by simpa using hmark) (ih _ (by simp) hrest rfl)
  · intro h
    induction h with
    | done => rfl
    | semicolon => rfl
    | comment hhidden _ ih =>
      rw [stripCommentsFrom, if_pos rfl, if_neg Bool.false_ne_true,
        stripCommentsFrom_hidden line hhidden, ih]
    | char hopen hclose hmark _ ih =>
      rw [stripCommentsFrom, if_neg hopen, if_neg hclose, if_neg (by simpa using hmark rfl),
        if_neg Bool.false_ne_true, ih]
      rfl

/-! ## Words -/

theorem isDigit_of_mem_takeWhile {cs : List Char} : Digits (cs.takeWhile Char.isDigit) := by
  intro c hc
  have hall := List.all_takeWhile (p := Char.isDigit) (l := cs)
  exact List.all_eq_true.mp hall c hc

/-- What is read as the unsigned part of a numeral. -/
theorem parseUnsigned_eq_some {factor : Int} {cs rest : List Char} {value : Dec}
    (h : parseUnsigned factor cs = some (value, rest)) (sign : List Char)
    (hsign : IsSign sign factor) :
    ∃ numeral, cs = numeral ++ rest ∧ IsNumeral (sign ++ numeral) value := by
  have hsplit := (List.takeWhile_append_dropWhile (p := Char.isDigit) (l := cs)).symm
  unfold parseUnsigned at h
  dsimp only at h
  split at h
  · rename_i tail hdrop
    rw [Option.ite_none_left_eq_some, Option.some.injEq, Prod.mk.injEq] at h
    obtain ⟨hne, rfl, rfl⟩ := h
    refine ⟨cs.takeWhile Char.isDigit ++ '.' :: tail.takeWhile Char.isDigit, ?_,
      .point hsign isDigit_of_mem_takeWhile isDigit_of_mem_takeWhile ?_⟩
    · rw [List.append_assoc, List.cons_append, List.takeWhile_append_dropWhile, ← hdrop]
      exact hsplit
    · rw [Bool.and_eq_true, List.isEmpty_iff, List.isEmpty_iff] at hne
      exact not_and_or.mp hne
  · rw [Option.ite_none_left_eq_some, Option.some.injEq, Prod.mk.injEq] at h
    obtain ⟨hne, rfl, rfl⟩ := h
    refine ⟨cs.takeWhile Char.isDigit, hsplit, .whole hsign isDigit_of_mem_takeWhile ?_⟩
    rwa [List.isEmpty_iff] at hne

theorem parseNumber_eq_some {cs rest : List Char} {value : Dec}
    (h : parseNumber cs = some (value, rest)) :
    ∃ numeral, cs = numeral ++ rest ∧ IsNumeral numeral value := by
  unfold parseNumber at h
  split at h
  · obtain ⟨numeral, rfl, hnumeral⟩ := parseUnsigned_eq_some h ['-'] (by simp [IsSign])
    exact ⟨_, rfl, hnumeral⟩
  · obtain ⟨numeral, rfl, hnumeral⟩ := parseUnsigned_eq_some h ['+'] (by simp [IsSign])
    exact ⟨_, rfl, hnumeral⟩
  · exact parseUnsigned_eq_some h [] (by simp [IsSign])

/-- An unsigned text is read by the digits. -/
theorem parseNumber_sign {sign cs : List Char} {factor : Int} (h : IsSign sign factor)
    (hcs : ∀ c ∈ cs.head?, c.isDigit = true ∨ c = '.') :
    parseNumber (sign ++ cs) = parseUnsigned factor cs := by
  rcases h with ⟨rfl, rfl⟩ | ⟨rfl, rfl⟩ | ⟨rfl, rfl⟩
  · unfold parseNumber
    rw [List.nil_append]
    split
    · exact absurd (hcs '-' rfl) (by decide)
    · exact absurd (hcs '+' rfl) (by decide)
    · rfl
  · rfl
  · rfl

/-- A numeral is read up to its end, where no digit or point follows. -/
theorem parseNumber_of_isNumeral {numeral rest : List Char} {value : Dec}
    (h : IsNumeral numeral value) (hends : EndsNumeral rest) :
    parseNumber (numeral ++ rest) = some (value, rest) := by
  cases h with
  | whole hsign hdigits hne =>
    rw [List.append_assoc, parseNumber_sign hsign, parseUnsigned_digits _ hdigits hne hends]
    intro c hc
    rw [List.head?_append_of_ne_nil _ hne] at hc
    exact .inl (hdigits c (List.mem_of_mem_head? hc))
  | @point sign whole fraction _ hsign hwhole hfraction hne =>
    rw [List.append_assoc, List.append_assoc, List.cons_append, parseNumber_sign hsign,
      parseUnsigned_point _ hwhole hfraction hne hends]
    intro c hc
    cases whole with
    | nil =>
      cases hc
      exact .inr rfl
    | cons d whole =>
      cases hc
      exact .inl (hwhole c List.mem_cons_self)

/-- The characters of a numeral: digits, a sign or a point. -/
theorem IsNumeral.ne_blank {numeral : List Char} {value : Dec} (h : IsNumeral numeral value) :
    ∀ c ∈ numeral, c ≠ ' ' := by
  have hsigned : ∀ {sign : List Char} {factor : Int}, IsSign sign factor → ∀ c ∈ sign, c ≠ ' ' := by
    rintro sign factor (⟨rfl, -⟩ | ⟨rfl, -⟩ | ⟨rfl, -⟩) <;> simp
  have hdigit : ∀ {digits : List Char}, Digits digits → ∀ c ∈ digits, c ≠ ' ' := by
    rintro digits hdigits c hc rfl
    exact absurd (hdigits ' ' hc) (by decide)
  cases h with
  | whole hsign hdigits =>
    intro c hc
    rcases List.mem_append.mp hc with hc | hc
    · exact hsigned hsign c hc
    · exact hdigit hdigits c hc
  | point hsign hwhole hfraction =>
    intro c hc
    rcases List.mem_append.mp hc with hc | hc
    · exact hsigned hsign c hc
    · rcases List.mem_append.mp hc with hc | hc
      · exact hdigit hwhole c hc
      · rcases List.mem_cons.mp hc with rfl | hc
        · decide
        · exact hdigit hfraction c hc

theorem IsWord.ne_blank {text : List Char} {word : GCodeWord} (h : IsWord text word) :
    ∀ c ∈ text, c ≠ ' ' := by
  obtain ⟨letter, numeral, rfl, hletter, -, hnumeral⟩ := h
  refine List.forall_mem_cons.mpr ⟨?_, hnumeral.ne_blank⟩
  rintro rfl
  cases hletter

theorem endsNumeral_of_spelled {rest : List Char} {words : List GCodeWord}
    (h : Spelled rest words) : EndsNumeral rest := by
  cases h with
  | done => exact endsNumeral_nil
  | blank => exact endsNumeral_blank _
  | word hword =>
    obtain ⟨letter, numeral, rfl, hletter, -, -⟩ := hword
    intro c hc
    obtain rfl : letter = c := Option.some.inj hc
    constructor
    · exact ascii_forall (p := fun c => c.isAlpha = true → c.isDigit = false) (by decide)
        (toNat_lt_of_alphanum (by simp [Char.isAlphanum, hletter])) hletter
    · rintro rfl
      cases hletter

theorem spelled_blanks {before cs : List Char} (h : Blank before) {words : List GCodeWord}
    (hcs : Spelled cs words) : Spelled (before ++ cs) words := by
  induction before with
  | nil => exact hcs
  | cons c before ih =>
    obtain ⟨rfl, hbefore⟩ := List.forall_mem_cons.mp h
    exact .blank (ih hbefore)

theorem blank_takeWhile (cs : List Char) : Blank (cs.takeWhile (· == ' ')) := by
  intro c hc
  have hall := List.all_takeWhile (p := (· == ' ')) (l := cs)
  simpa using List.all_eq_true.mp hall c hc

/-- The words that are read are the words that the text spells. -/
theorem parseWordsFrom_eq_ok {line fuel : Nat} {cs : List Char} {words : List GCodeWord}
    (hfuel : cs.length ≤ fuel) : parseWordsFrom line fuel cs = .ok words ↔ Spelled cs words := by
  constructor
  · intro h
    induction fuel generalizing cs words with
    | zero =>
      obtain rfl := List.length_eq_zero_iff.mp (Nat.le_zero.mp hfuel)
      cases h
      exact .done
    | succ fuel ih =>
      have hsplit := (List.takeWhile_append_dropWhile (p := (· == ' ')) (l := cs)).symm
      have hlength : (cs.dropWhile (· == ' ')).length ≤ fuel + 1 :=
        (List.dropWhile_suffix _).length_le.trans hfuel
      rw [hsplit]
      refine spelled_blanks (blank_takeWhile cs) ?_
      rw [parseWordsFrom] at h
      split at h
      · rename_i hdrop
        cases h
        rw [hdrop]
        exact .done
      · rename_i letter rest hdrop
        rw [hdrop] at hlength ⊢
        simp only [bind_eq_ok, require_eq_ok, demand_eq_ok, Prod.exists] at h
        obtain ⟨⟨⟩, hletter, value, rest', hnumber, words', hwords, hret⟩ := h
        cases hret
        obtain ⟨numeral, rfl, hnumeral⟩ := parseNumber_eq_some hnumber
        have hrest : rest'.length ≤ fuel := by
          simp only [List.length_cons, List.length_append] at hlength
          omega
        have hword : IsWord (letter :: numeral) ⟨letter.toUpper, value⟩ :=
          ⟨letter, numeral, rfl, hletter, rfl, hnumeral⟩
        exact .word hword (ih hrest hwords)
  · intro h
    induction h generalizing fuel with
    | done => cases fuel <;> rfl
    | blank _ ih =>
      obtain ⟨fuel, rfl⟩ : ∃ k, fuel = k + 1 := ⟨fuel - 1, by simp at hfuel; omega⟩
      have hlength : _ ≤ fuel + 1 := (Nat.le_succ _).trans hfuel
      rw [← ih hlength, parseWordsFrom, parseWordsFrom, List.dropWhile_cons_of_pos (by rfl)]
    | @word text rest word words hword hrest ih =>
      have hblank := hword.ne_blank
      have hends := endsNumeral_of_spelled hrest
      obtain ⟨letter, numeral, rfl, hletter, hupper, hnumeral⟩ := hword
      obtain ⟨fuel, rfl⟩ : ∃ k, fuel = k + 1 := ⟨fuel - 1, by simp at hfuel; omega⟩
      rw [List.cons_append, parseWordsFrom, List.dropWhile_cons_of_neg
        (by simpa using hblank letter List.mem_cons_self)]
      simp only [bind_eq_ok, require_eq_ok, demand_eq_ok, Prod.exists]
      refine ⟨(), hletter, word.value, rest, parseNumber_of_isNumeral hnumeral hends, words,
        ih (by simp at hfuel; omega), ?_⟩
      rw [← hupper]
      rfl

theorem parseWords_eq_ok {line : Nat} {code : List Char} {words : List GCodeWord} :
    parseWords code line = .ok words ↔ Spelled code words ∧ words ≠ [] := by
  simp only [parseWords, bind_eq_ok, require_eq_ok, parseWordsFrom_eq_ok (Nat.le_refl _)]
  constructor
  · rintro ⟨words', hspelled, ⟨⟩, hne, hret⟩
    cases hret
    exact ⟨hspelled, by simpa using hne⟩
  · rintro ⟨hspelled, hne⟩
    exact ⟨words, hspelled, (), by simpa using hne, rfl⟩

/-- The words of a spelled text, put together, are the text without its blanks. -/
theorem Spelled.texts {code : List Char} {words : List GCodeWord} (h : Spelled code words) :
    ∃ texts, List.Forall₂ IsWord texts words ∧ texts.flatten = code.filter (· ≠ ' ') := by
  induction h with
  | done => exact ⟨[], .nil, rfl⟩
  | blank _ ih =>
    obtain ⟨texts, hwords, hflat⟩ := ih
    exact ⟨texts, hwords, by rw [hflat, List.filter_cons_of_neg (by simp)]⟩
  | @word text rest word words hword _ ih =>
    obtain ⟨texts, hwords, hflat⟩ := ih
    have hkept : text.filter (· ≠ ' ') = text :=
      List.filter_eq_self.mpr fun c hc => by simpa using hword.ne_blank c hc
    exact ⟨text :: texts, .cons hword hwords,
      by rw [List.flatten_cons, hflat, List.filter_append, hkept]⟩

/-! ## Blanks at the ends of a line -/

theorem stripBlanks_append {before after : List Char} (hbefore : Blank before)
    (hafter : Blank after) (code : List Char) :
    stripBlanks (before ++ (code ++ after)) = stripBlanks code := by
  have hdrop : ∀ {blanks : List Char}, Blank blanks → blanks.dropWhile (· == ' ') = [] := by
    intro blanks hblanks
    exact List.dropWhile_eq_nil_iff.mpr fun c hc => by simpa using hblanks c hc
  unfold stripBlanks
  rw [List.dropWhile_append, if_pos (by simp [hdrop hbefore]), List.dropWhile_append]
  split
  · rename_i hempty
    rw [hdrop hafter, List.isEmpty_iff.mp hempty]
  · rw [List.reverse_append, List.dropWhile_append,
      if_pos (by simp [hdrop fun c hc => hafter c (List.mem_reverse.mp hc)])]

theorem exists_stripBlanks (code : List Char) :
    ∃ before after, Blank before ∧ Blank after ∧ code = before ++ (stripBlanks code ++ after) := by
  refine ⟨code.takeWhile (· == ' '),
    ((code.dropWhile (· == ' ')).reverse.takeWhile (· == ' ')).reverse, blank_takeWhile _,
    fun c hc => blank_takeWhile _ c (List.mem_reverse.mp hc), ?_⟩
  rw [stripBlanks, ← List.reverse_append, List.takeWhile_append_dropWhile, List.reverse_reverse,
    List.takeWhile_append_dropWhile]

theorem Spelled.append_blanks {code after : List Char} (hafter : Blank after)
    {words : List GCodeWord} (h : Spelled code words) : Spelled (code ++ after) words := by
  induction h with
  | done => simpa using spelled_blanks hafter .done
  | blank _ ih => exact .blank ih
  | word hword _ ih =>
    rw [List.append_assoc]
    exact .word hword ih

theorem spelled_of_blank {rest : List Char} {words : List GCodeWord}
    (h : Spelled (' ' :: rest) words) : Spelled rest words := by
  generalize hall : ' ' :: rest = all at h
  cases h with
  | done => cases hall
  | blank h =>
    cases hall
    exact h
  | @word text _ word _ hword =>
    have hblank := hword.ne_blank
    obtain ⟨letter, numeral, rfl, -⟩ := hword
    rw [List.cons_append, List.cons.injEq] at hall
    exact absurd hall.1.symm (hblank letter List.mem_cons_self)

theorem spelled_of_blanks {before cs : List Char} (hbefore : Blank before)
    {words : List GCodeWord} (h : Spelled (before ++ cs) words) : Spelled cs words := by
  induction before with
  | nil => exact h
  | cons c before ih =>
    obtain ⟨rfl, hrest⟩ := List.forall_mem_cons.mp hbefore
    exact ih hrest (spelled_of_blank h)

theorem spelled_of_append {code after : List Char} (hafter : Blank after) {words : List GCodeWord}
    (h : Spelled (code ++ after) words) : Spelled code words := by
  generalize hall : code ++ after = all at h
  induction h generalizing code after with
  | done =>
    rw [(List.append_eq_nil_iff.mp hall).1]
    exact .done
  | @blank rest words _ ih =>
    cases code with
    | nil =>
      obtain rfl : after = ' ' :: rest := hall
      exact ih (List.forall_mem_cons.mp hafter).2 (List.nil_append rest)
    | cons c code =>
      rw [List.cons_append, List.cons.injEq] at hall
      rw [hall.1]
      exact .blank (ih hafter hall.2)
  | @word text rest word words hword _ ih =>
    rcases List.append_eq_append_iff.mp hall with ⟨inner, htext, hrest⟩ | ⟨inner, hcode, hrest⟩
    · -- blanks at the end of a word are none
      cases inner with
      | nil =>
        rw [List.append_nil] at htext
        have hempty : Spelled [] words := ih (by simpa [hrest] using hafter) (List.nil_append rest)
        rw [← htext, ← List.append_nil text]
        exact .word hword hempty
      | cons c inner =>
        have hc : c ∈ text := by simp [htext]
        exact absurd (hafter c (by simp [hrest])) (hword.ne_blank c hc)
    · rw [hcode]
      exact .word hword (ih hafter hrest.symm)

/-- The blanks at the ends do not matter to what a line spells. -/
theorem spelled_stripBlanks {code : List Char} {words : List GCodeWord} :
    Spelled (stripBlanks code) words ↔ Spelled code words := by
  obtain ⟨before, after, hbefore, hafter, hcode⟩ := exists_stripBlanks code
  constructor
  · intro h
    rw [hcode]
    exact spelled_blanks hbefore (h.append_blanks hafter)
  · intro h
    rw [hcode] at h
    exact spelled_of_append hafter (spelled_of_blanks hbefore h)

theorem skipped_iff {code : List Char} :
    stripBlanks code = [] ∨ stripBlanks code = ['%'] ↔ Skipped true code := by
  obtain ⟨before, after, hbefore, hafter, hcode⟩ := exists_stripBlanks code
  constructor
  · rintro (hempty | hpercent)
    · rw [hempty] at hcode
      refine .inl ?_
      rw [hcode]
      simpa [Blank, or_imp, forall_and] using ⟨hbefore, hafter⟩
    · rw [hpercent] at hcode
      exact .inr ⟨rfl, before, after, hbefore, hafter, hcode⟩
  · rintro (hblank | ⟨-, before, after, hbefore, hafter, rfl⟩)
    · have h : stripBlanks ([] ++ ([] ++ code)) = stripBlanks [] :=
        stripBlanks_append (by simp [Blank]) hblank []
      exact .inl h
    · exact .inr (stripBlanks_append hbefore hafter ['%'])

/-- A line with a word is executable. -/
theorem not_skipped_of_spelled {code : List Char} {words : List GCodeWord}
    (h : Spelled code words) (hne : words ≠ []) :
    ¬ (stripBlanks code = [] ∨ stripBlanks code = ['%']) := by
  have hread : parseWordsFrom 0 _ (stripBlanks code) = .ok words :=
    (parseWordsFrom_eq_ok (Nat.le_refl _)).mpr (spelled_stripBlanks.mpr h)
  rintro (hempty | hpercent)
  · rw [hempty] at hread
    exact hne (Except.ok.inj hread).symm
  · rw [hpercent] at hread
    cases hread

/-! ## The lexer -/

theorem parseLines_eq_ok {line : Nat} {raws : List (List Char)} {blocks : List ParsedLine} :
    parseLines line raws = .ok blocks ↔ LinesGive true line raws blocks := by
  induction raws generalizing line blocks with
  | nil =>
    constructor
    · intro h
      cases h
      exact .done
    · intro h
      cases h
      rfl
  | cons raw rest ih =>
    rw [parseLines, bind_eq_ok]
    constructor
    · rintro ⟨code, hstrip, h⟩
      have hcode := stripCommentsFrom_eq_ok.mp hstrip
      split at h
      · rename_i hskip
        exact .skip hcode (skipped_iff.mp hskip) (ih.mp h)
      · simp only [bind_eq_ok] at h
        obtain ⟨words, hwords, blocks', hrest, hret⟩ := h
        cases hret
        obtain ⟨hspelled, hne⟩ := parseWords_eq_ok.mp hwords
        exact .block hcode (spelled_stripBlanks.mp hspelled) hne (ih.mp hrest)
    · intro h
      cases h with
      | skip hcode hskip hrest =>
        refine ⟨_, stripCommentsFrom_eq_ok.mpr hcode, ?_⟩
        rw [if_pos (skipped_iff.mpr hskip)]
        exact ih.mpr hrest
      | block hcode hwords hne hrest =>
        refine ⟨_, stripCommentsFrom_eq_ok.mpr hcode, ?_⟩
        rw [if_neg (not_skipped_of_spelled hwords hne)]
        simp only [bind_eq_ok]
        exact ⟨_, parseWords_eq_ok.mpr ⟨spelled_stripBlanks.mpr hwords, hne⟩, _, ih.mpr hrest, rfl⟩

/-- Every block of numbered lines comes from its line. -/
theorem LinesGive.of_mem {marks : Bool} {line : Nat} {raws : List (List Char)}
    {blocks : List ParsedLine} (h : LinesGive marks line raws blocks) {block : ParsedLine}
    (hblock : block ∈ blocks) : ∃ i raw code, raws[i]? = some raw ∧ block.lineNumber = line + i ∧
      Uncommented marks raw code ∧ Spelled code block.words := by
  induction h with
  | done => cases hblock
  | skip _ _ _ ih =>
    obtain ⟨i, raw, code, hraw, hline, hcode⟩ := ih hblock
    exact ⟨i + 1, raw, code, hraw, by omega, hcode⟩
  | block hcode hwords _ _ ih =>
    rcases List.mem_cons.mp hblock with rfl | hblock
    · exact ⟨0, _, _, rfl, rfl, hcode, hwords⟩
    · obtain ⟨i, raw, code, hraw, hline, hcode⟩ := ih hblock
      exact ⟨i + 1, raw, code, hraw, by omega, hcode⟩

/-- A text is accepted exactly when its characters are printable and its lines give the blocks:
    each line without its comments spells the words of its block, in order, and their texts put
    together are all of it but the blanks. -/
theorem parse_gcode_exact (text : List Char) (blocks : List ParsedLine) :
    (parseGcode text = .ok blocks ↔
      (∀ c ∈ text, c = '\n' ∨ isPrintable c = true) ∧
        LinesGive true 1 (splitOnChar '\n' text) blocks) ∧
    (parseGcode text = .ok blocks → ∀ block ∈ blocks, ∃ i raw code texts,
      (splitOnChar '\n' text)[i]? = some raw ∧ block.lineNumber = i + 1 ∧
        Uncommented true raw code ∧ List.Forall₂ IsWord texts block.words ∧
        texts.flatten = code.filter (· ≠ ' ')) := by
  have hexact : parseGcode text = .ok blocks ↔
      (∀ c ∈ text, c = '\n' ∨ isPrintable c = true) ∧
        LinesGive true 1 (splitOnChar '\n' text) blocks := by
    simp only [parseGcode, bind_eq_ok, require_eq_ok, parseLines_eq_ok, List.all_eq_true,
      Bool.or_eq_true, decide_eq_true_eq]
    constructor
    · rintro ⟨_, hprintable, hlines⟩
      exact ⟨hprintable, hlines⟩
    · rintro ⟨hprintable, hlines⟩
      exact ⟨(), hprintable, hlines⟩
  refine ⟨hexact, ?_⟩
  intro h block hblock
  obtain ⟨i, raw, code, hraw, hline, hcode, hspelled⟩ := (hexact.mp h).2.of_mem hblock
  obtain ⟨texts, hwords, hflat⟩ := hspelled.texts
  exact ⟨i, raw, code, texts, hraw, by omega, hcode, hwords, hflat⟩

/-- A text without parentheses and marks is its own code. -/
theorem uncommented_plain {raw code : List Char} (hplain : '(' ∉ raw)
    (h : Uncommented false raw code) : code = raw := by
  induction h with
  | done => rfl
  | semicolon _ hmarks => cases hmarks
  | comment => exact absurd List.mem_cons_self hplain
  | char _ _ _ _ ih => rw [ih fun hmem => hplain (List.mem_cons_of_mem _ hmem)]

/-- A word behind a semicolon is dropped: without the marks the line is not one of the grammar. -/
theorem parse_gcode_drops_rest :
    parseGcode ['X', '1', ';', 'Y', '2'] = .ok [⟨1, [⟨'X', ⟨1, 0⟩⟩]⟩] ∧
      ¬ LinesGive false 1 (splitOnChar '\n' ['X', '1', ';', 'Y', '2'])
        [⟨1, [⟨'X', ⟨1, 0⟩⟩]⟩] := by
  refine ⟨by decide, ?_⟩
  intro h
  cases h with
  | skip hcode hskip hrest => cases hrest
  | block hcode hwords =>
    rw [uncommented_plain (by decide) hcode] at hwords
    have hread : parseWordsFrom 1 _ _ = .ok _ :=
      (parseWordsFrom_eq_ok (Nat.le_refl _)).mpr hwords
    revert hread
    decide

end Custombuild.Postprocessors
