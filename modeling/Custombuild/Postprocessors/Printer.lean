/-
  Printing and parsing of words.  A numeral in plain notation parses to itself, digits and
  scale included, and so does a line of words: the text of a line has one reading.
-/
import Mathlib
import Custombuild.Postprocessors.Words

namespace Custombuild.Postprocessors

open Custombuild.Lib

/-! ## Numerals -/

/-- The text does not go on with a digit or a point. -/
def EndsNumeral (rest : List Char) : Prop := ∀ c ∈ rest.head?, c.isDigit = false ∧ c ≠ '.'

theorem endsNumeral_nil : EndsNumeral [] := by
  intro c h
  cases h

theorem endsNumeral_blank (rest : List Char) : EndsNumeral (' ' :: rest) := by
  intro c h
  cases h
  decide

/-- The digits of a numeral, with the zeros before a short fraction. -/
def paddedDigits (d : Dec) : List Char :=
  List.replicate (d.scale + 1 - (Nat.toDigits 10 d.coeff.natAbs).length) '0' ++
    Nat.toDigits 10 d.coeff.natAbs

theorem isDigit_paddedDigits (d : Dec) : ∀ c ∈ paddedDigits d, c.isDigit = true := by
  intro c hc
  rcases List.mem_append.mp hc with h | h
  · rw [List.eq_of_mem_replicate h]
    rfl
  · exact Nat.isDigit_of_mem_toDigits (by decide) (by decide) h

theorem length_paddedDigits (d : Dec) : d.scale < (paddedDigits d).length := by
  simp only [paddedDigits, List.length_append, List.length_replicate]
  omega

theorem digitsValue_paddedDigits (d : Dec) : digitsValue (paddedDigits d) = d.coeff.natAbs := by
  unfold digitsValue paddedDigits
  rw [Nat.ofDigitChars_append, Nat.ofDigitChars_replicate_zero, Nat.mul_zero,
    Nat.ofDigitChars_ten_toDigits]

theorem takeWhile_digits {digits rest : List Char} (hd : ∀ c ∈ digits, c.isDigit = true)
    (hr : ∀ c ∈ rest.head?, c.isDigit = false) :
    (digits ++ rest).takeWhile Char.isDigit = digits ∧
      (digits ++ rest).dropWhile Char.isDigit = rest := by
  rw [List.takeWhile_append_of_pos hd, List.dropWhile_append_of_pos hd]
  cases rest with
  | nil => simp
  | cons c rest =>
    have hc := hr c rfl
    simp [hc]

theorem parseUnsigned_digits (sign : Int) {digits rest : List Char}
    (hd : ∀ c ∈ digits, c.isDigit = true) (hne : digits ≠ []) (hr : EndsNumeral rest) :
    parseUnsigned sign (digits ++ rest) = some (⟨sign * digitsValue digits, 0⟩, rest) := by
  obtain ⟨ht, hdrop⟩ := takeWhile_digits hd fun c hc => (hr c hc).1
  unfold parseUnsigned
  simp only [ht, hdrop]
  split
  · exact absurd rfl (hr '.' rfl).2
  · simp [hne]

theorem parseUnsigned_point (sign : Int) {whole fraction rest : List Char}
    (hw : ∀ c ∈ whole, c.isDigit = true) (hf : ∀ c ∈ fraction, c.isDigit = true)
    (hne : whole ≠ [] ∨ fraction ≠ []) (hr : EndsNumeral rest) :
    parseUnsigned sign (whole ++ '.' :: (fraction ++ rest)) =
      some (⟨sign * digitsValue (whole ++ fraction), fraction.length⟩, rest) := by
  have hpoint : ∀ c ∈ ('.' :: (fraction ++ rest)).head?, c.isDigit = false := by
    intro c hc
    cases hc
    rfl
  obtain ⟨ht, hdrop⟩ := takeWhile_digits hw hpoint
  obtain ⟨ht', hdrop'⟩ := takeWhile_digits hf fun c hc => (hr c hc).1
  unfold parseUnsigned
  simp only [ht, hdrop, ht', hdrop']
  rw [if_neg (by simpa [imp_iff_not_or] using hne)]

theorem parseNumber_of_digit (c : Char) (cs : List Char) (hc : c.isDigit = true) :
    parseNumber (c :: cs) = parseUnsigned 1 (c :: cs) := by
  unfold parseNumber
  split
  · rename_i h
    cases h
    cases hc
  · rename_i h
    cases h
    cases hc
  · rfl

/-- Plain notation without the sign. -/
theorem parseUnsigned_plain (sign : Int) (d : Dec) {rest : List Char} (hr : EndsNumeral rest) :
    parseUnsigned sign ((paddedDigits d).take ((paddedDigits d).length - d.scale) ++
      (if d.scale = 0 then []
        else '.' :: (paddedDigits d).drop ((paddedDigits d).length - d.scale)) ++ rest) =
      some (⟨sign * d.coeff.natAbs, d.scale⟩, rest) := by
  have hlen := length_paddedDigits d
  have hdigits := isDigit_paddedDigits d
  have hvalue := digitsValue_paddedDigits d
  generalize paddedDigits d = digits at hlen hdigits hvalue ⊢
  split
  · rename_i hscale
    rw [hscale, Nat.sub_zero, List.take_length, List.append_nil,
      parseUnsigned_digits sign hdigits (by rintro rfl; simp at hlen) hr, hvalue]
  · have htake : ∀ c ∈ digits.take (digits.length - d.scale), c.isDigit = true :=
      fun c hc => hdigits c (List.mem_of_mem_take hc)
    have hdrop : ∀ c ∈ digits.drop (digits.length - d.scale), c.isDigit = true :=
      fun c hc => hdigits c (List.mem_of_mem_drop hc)
    have hne : digits.take (digits.length - d.scale) ≠ [] := by
      intro h
      have := congrArg List.length h
      rw [List.length_take, List.length_nil] at this
      omega
    rw [List.append_assoc, List.cons_append, parseUnsigned_point sign htake hdrop (.inl hne) hr,
      List.take_append_drop, hvalue, List.length_drop, Nat.sub_sub_self (by omega)]

theorem plainText_eq (d : Dec) : plainText d = (if d.coeff < 0 then ['-'] else []) ++
    (paddedDigits d).take ((paddedDigits d).length - d.scale) ++
    (if d.scale = 0 then []
      else '.' :: (paddedDigits d).drop ((paddedDigits d).length - d.scale)) := rfl

/-- A numeral in plain notation parses to itself. -/
theorem parseNumber_plainText (d : Dec) {rest : List Char} (hr : EndsNumeral rest) :
    parseNumber (plainText d ++ rest) = some (d, rest) := by
  have hplain (sign : Int) := parseUnsigned_plain sign d hr
  rw [plainText_eq]
  split
  · rename_i hneg
    have hcoeff : (-1 : Int) * (d.coeff.natAbs : Int) = d.coeff := by omega
    exact (hplain (-1)).trans (by rw [hcoeff])
  · rename_i hneg
    have hcoeff : (1 : Int) * (d.coeff.natAbs : Int) = d.coeff := by omega
    rw [List.nil_append]
    have hlen := length_paddedDigits d
    obtain ⟨c, cs, hcs⟩ : ∃ c cs,
        (paddedDigits d).take ((paddedDigits d).length - d.scale) = c :: cs := by
      refine List.exists_cons_of_ne_nil fun h => ?_
      have := congrArg List.length h
      rw [List.length_take, List.length_nil] at this
      omega
    have hc : c.isDigit = true :=
      isDigit_paddedDigits d c (List.mem_of_mem_take (hcs ▸ List.mem_cons_self))
    have h1 := hplain 1
    rw [hcs] at h1 ⊢
    rw [List.cons_append, List.cons_append, parseNumber_of_digit c _ hc]
    rw [List.cons_append, List.cons_append] at h1
    rw [h1, hcoeff]

/-! ## Characters -/

/-- A decidable property of ASCII characters is checked character by character. -/
theorem ascii_forall {p : Char → Prop} (h : ∀ n < 128, p (Char.ofNat n)) {c : Char}
    (hc : c.toNat < 128) : p c := by
  have := h c.toNat hc
  rwa [Char.ofNat_toNat] at this

theorem toNat_lt_of_alphanum {c : Char} (h : c.isAlphanum = true) : c.toNat < 128 := by
  simp only [Char.isAlphanum, Char.isAlpha, Char.isUpper, Char.isLower, Char.isDigit,
    Bool.or_eq_true, decide_eq_true_eq, Bool.and_eq_true] at h
  simp only [UInt32.le_iff_toNat_le, ge_iff_le] at h
  have hval : c.toNat = c.val.toNat := rfl
  rcases h with (h | h) | h <;> · rw [hval]; have := h.2; revert this; simp; omega

/-! ## Lines -/

/-- Words with capital letters. -/
def PlainLetters (words : List GCodeWord) : Prop := ∀ w ∈ words, w.letter.isUpper = true

theorem isAlpha_of_isUpper {c : Char} (h : c.isUpper = true) : c.isAlpha = true := by
  simp [Char.isAlpha, h]

theorem toUpper_of_isUpper {c : Char} (h : c.isUpper = true) : c.toUpper = c := by
  refine ascii_forall (p := fun c => c.isUpper = true → c.toUpper = c) (by decide +kernel)
    (toNat_lt_of_alphanum (by simp [Char.isAlphanum, Char.isAlpha, h])) h

theorem length_le_lineText (words : List GCodeWord) : words.length ≤ (lineText words).length := by
  induction words with
  | nil => simp
  | cons w words ih =>
    cases words with
    | nil => simp [lineText, wordText]
    | cons v words =>
      simp only [lineText, wordText, List.length_append, List.length_cons] at ih ⊢
      omega

/-- The words of a printed line, read from the text behind an optional blank. -/
theorem parseWordsFrom_lineText {words : List GCodeWord} (hl : PlainLetters words) (n : Nat)
    {fuel : Nat} (hfuel : words.length ≤ fuel) :
    parseWordsFrom n fuel (lineText words) = .ok words ∧
      parseWordsFrom n fuel (' ' :: lineText words) = .ok words := by
  induction words generalizing fuel with
  | nil => cases fuel <;> simp [lineText, parseWordsFrom]
  | cons w words ih =>
    obtain ⟨fuel, rfl⟩ : ∃ k, fuel = k + 1 := ⟨fuel - 1, by simp at hfuel; omega⟩
    have hupper := hl w List.mem_cons_self
    have hfuel : words.length ≤ fuel := by simpa using hfuel
    have ih := ih (fun v hv => hl v (List.mem_cons_of_mem _ hv)) hfuel
    -- the text behind the numeral of the first word
    obtain ⟨rest, htext, hends, hrest⟩ : ∃ rest, lineText (w :: words) =
        w.letter :: (plainText w.value ++ rest) ∧ EndsNumeral rest ∧
          parseWordsFrom n fuel rest = .ok words := by
      cases words with
      | nil => exact ⟨[], by simp [lineText, wordText], endsNumeral_nil, ih.1⟩
      | cons v words =>
        exact ⟨' ' :: lineText (v :: words), by simp [lineText, wordText], endsNumeral_blank _,
          ih.2⟩
    have hblank : w.letter ≠ ' ' := by
      intro h
      rw [h] at hupper
      cases hupper
    have hdrop : (w.letter :: (plainText w.value ++ rest)).dropWhile (· == ' ') =
        w.letter :: (plainText w.value ++ rest) := by
      rw [List.dropWhile_cons_of_neg (by simpa using hblank)]
    have hfirst : parseWordsFrom n (fuel + 1) (lineText (w :: words)) = .ok (w :: words) := by
      rw [htext, parseWordsFrom, hdrop]
      simp only [isAlpha_of_isUpper hupper, parseNumber_plainText w.value hends,
        toUpper_of_isUpper hupper]
      simp [require, demand, hrest, bind, Except.bind, pure, Except.pure]
    refine ⟨hfirst, ?_⟩
    rw [← hfirst, parseWordsFrom, parseWordsFrom, List.dropWhile_cons_of_pos (by rfl)]

theorem parseWords_lineText {words : List GCodeWord} (hl : PlainLetters words) (hne : words ≠ [])
    (n : Nat) : parseWords (lineText words) n = .ok words := by
  unfold parseWords
  rw [(parseWordsFrom_lineText hl n (length_le_lineText words)).1]
  simp [require, bind, Except.bind, pure, Except.pure, hne]

end Custombuild.Postprocessors
