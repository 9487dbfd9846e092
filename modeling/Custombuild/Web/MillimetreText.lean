/-
  Millimetres as text and whole micrometres, without binary fractions.
  Source: `apps/web/lib/workshop-production-context.ts`, `exactMillimetreTextToMicrometres` and
  `micrometresToMillimetreText`.
-/
import Mathlib.Tactic.Ring
import Custombuild.Web.WorkshopContext

namespace Custombuild.Web.Workshop

open Custombuild.Lib Custombuild.Domain

/-- `Number.MAX_SAFE_INTEGER` -/
def maxSafeInteger : Int := 2 ^ 53 - 1

/-- The white space that `trim` takes away. -/
def isTrimmed (c : Char) : Bool :=
  let n := c.toNat
  (9 ≤ n && n ≤ 13) || n = 32 || n = 160 || n = 5760 || (8192 ≤ n && n ≤ 8202) || n = 8232 ||
    n = 8233 || n = 8239 || n = 8287 || n = 12288 || n = 65279

def trim (chars : List Char) : List Char :=
  ((chars.dropWhile isTrimmed).reverse.dropWhile isTrimmed).reverse

/-- The groups of `^([+-]?)(?:(\d+)(?:\.(\d*))?|\.(\d+))(?:[eE]([+-]?\d+))?$`. -/
structure DecimalText where
  negative : Bool
  whole : List Char
  fraction : List Char
  exponent : Int
deriving DecidableEq

/-- `([+-]?)` -/
def readSign : List Char → Bool × List Char
  | '-' :: rest => (true, rest)
  | '+' :: rest => (false, rest)
  | rest => (false, rest)

/-- `(?:\.(\d*))?` -/
def readFraction : List Char → List Char × List Char
  | '.' :: rest => rest.span Char.isDigit
  | rest => ([], rest)

/-- `(?:[eE]([+-]?\d+))?$` -/
def readExponent : List Char → Option Int
  | [] => some 0
  | c :: rest =>
    let (negative, digits) := readSign rest
    if (c = 'e' ∨ c = 'E') ∧ digits ≠ [] ∧ digits.all Char.isDigit then
      let n : Int := Nat.ofDigitChars 10 digits 0
      some (if negative then -n else n)
    else none

def readDecimal (chars : List Char) : Option DecimalText := do
  let (negative, unsigned) := readSign chars
  let (whole, rest) := unsigned.span Char.isDigit
  let (fraction, rest) := readFraction rest
  if whole = [] ∧ fraction = [] then none
  else do
    let exponent ← readExponent rest
    return { negative, whole, fraction, exponent }

/-- The integer that a decimal is after a shift by powers of ten, if it is one. -/
def shifted (digits : Nat) (power : Int) : Option Nat :=
  if 0 ≤ power then some (digits * 10 ^ power.toNat)
  else if digits % 10 ^ (-power).toNat = 0 then some (digits / 10 ^ (-power).toNat) else none

/-- `exactMillimetreTextToMicrometres` with its default bounds. -/
def exactMillimetreTextToMicrometres (raw : String) (minimumUm : Int) (maximumUm : Int) :
    Except String Int := do
  let value := trim raw.toList
  require (decide (1 ≤ value.length ∧ value.length ≤ 64))
    "Ange ett mått i millimeter med högst tre decimaler."
  let text ← demand (readDecimal value) "Ange ett mått i millimeter med högst tre decimaler."
  require (decide (text.exponent.natAbs ≤ 100)) "Måttet ligger utanför tillåtet format."
  let digits := Nat.ofDigitChars 10 (text.whole ++ text.fraction) 0
  let scaled ← demand (shifted digits (text.exponent - text.fraction.length + 3))
    "Ange högst tre decimaler (en tusendels millimeter)."
  let signed : Int := if text.negative then -scaled else scaled
  require (decide (minimumUm ≤ signed ∧ signed ≤ maximumUm ∧ signed ≤ maxSafeInteger))
    "Måttet ligger utanför tillåtet intervall."
  return signed

/-- `String(value % 1_000).padStart(3, "0").replace(/0+$/, "")` -/
def fractionText (n : Nat) : List Char :=
  let digits := Nat.toDigits 10 n
  let padded := List.replicate (3 - digits.length) '0' ++ digits
  (padded.reverse.dropWhile (· = '0')).reverse

def micrometresToMillimetreText (valueUm : Int) : Except String String := do
  let value ← exactInteger (some (.num valueUm 0)) "Mikrometervärdet" 0 maxSafeInteger
  let whole := Nat.toDigits 10 (value / 1000).toNat
  let fraction := fractionText (value % 1000).toNat
  return String.ofList (if fraction = [] then whole else whole ++ '.' :: fraction)

/-! ## What is written is read -/

section RoundTrip

/-- A fraction of a millimetre has at most three digits, and they stand for its micrometres. -/
theorem fractionText_value : ∀ n < 1000, (fractionText n).length ≤ 3 ∧
    (fractionText n).all Char.isDigit = true ∧
    Nat.ofDigitChars 10 (fractionText n) 0 * 10 ^ (3 - (fractionText n).length) = n := by
  decide +kernel

theorem isTrimmed_of_isDigit {c : Char} (h : c.isDigit = true) : isTrimmed c = false := by
  simp only [Char.isDigit, Bool.and_eq_true, decide_eq_true_eq] at h
  have hlow : 48 ≤ c.toNat := h.1
  have hhigh : c.toNat ≤ 57 := h.2
  simp only [isTrimmed, Bool.or_eq_false_iff, Bool.and_eq_false_iff, decide_eq_false_iff_not]
  omega

theorem trim_eq_self {chars : List Char} (h : ∀ c ∈ chars, isTrimmed c = false) :
    trim chars = chars := by
  have hdrop : ∀ {l : List Char}, (∀ c ∈ l, isTrimmed c = false) → l.dropWhile isTrimmed = l := by
    intro l hl
    cases l with
    | nil => rfl
    | cons c l => exact List.dropWhile_cons_of_neg (by simp [hl c List.mem_cons_self])
  rw [trim, hdrop h, hdrop (fun c hc => h c (List.mem_reverse.mp hc)), List.reverse_reverse]

theorem span_digits {digits rest : List Char} (h : ∀ c ∈ digits, c.isDigit = true)
    (hrest : ∀ c ∈ rest.head?, c.isDigit = false) :
    (digits ++ rest).span Char.isDigit = (digits, rest) := by
  rw [List.span_eq_takeWhile_dropWhile, List.takeWhile_append_of_pos h, List.dropWhile_append_of_pos h]
  cases rest with
  | nil => simp
  | cons c rest =>
    have hc := hrest c rfl
    rw [List.takeWhile_cons_of_neg (by simp [hc]), List.dropWhile_cons_of_neg (by simp [hc]),
      List.append_nil]

theorem readSign_of_digit {c : Char} {rest : List Char} (h : c.isDigit = true) :
    readSign (c :: rest) = (false, c :: rest) := by
  unfold readSign
  split
  · next heq => cases heq; exact absurd h (by decide)
  · next heq => cases heq; exact absurd h (by decide)
  · rfl

/-- Digits with a fraction behind a point, where there is one, are read as they stand. -/
theorem readDecimal_digits {whole fraction : List Char} (hwhole : ∀ c ∈ whole, c.isDigit = true)
    (hne : whole ≠ []) (hfraction : ∀ c ∈ fraction, c.isDigit = true) :
    readDecimal (if fraction = [] then whole else whole ++ '.' :: fraction) =
      some ⟨false, whole, fraction, 0⟩ := by
  obtain ⟨c, rest, rfl⟩ := List.exists_cons_of_ne_nil hne
  have hc := hwhole c List.mem_cons_self
  by_cases hnone : fraction = []
  · have hspan : ((c :: rest) ++ []).span Char.isDigit = (c :: rest, []) :=
      span_digits hwhole (by simp)
    rw [List.append_nil] at hspan
    rw [if_pos hnone, readDecimal, readSign_of_digit hc]
    simp only [hspan, readFraction, readExponent, hnone]
    rfl
  · have hspan : ((c :: rest) ++ '.' :: fraction).span Char.isDigit = (c :: rest, '.' :: fraction) :=
      span_digits hwhole (by simp)
    have hspanFraction : (fraction ++ []).span Char.isDigit = (fraction, []) :=
      span_digits hfraction (by simp)
    rw [List.append_nil] at hspanFraction
    rw [if_neg hnone, readDecimal, List.cons_append, readSign_of_digit hc]
    rw [List.cons_append] at hspan
    simp only [hspan, readFraction, hspanFraction, readExponent]
    rfl

/-- The text of a number of micrometres is read as that number. -/
theorem exactMillimetreTextToMicrometres_text {valueUm : Int} (hlow : 0 ≤ valueUm)
    (hhigh : valueUm ≤ maxSafeInteger) : ∃ text, micrometresToMillimetreText valueUm = .ok text ∧
      exactMillimetreTextToMicrometres text 0 maxSafeInteger = .ok valueUm := by
  obtain ⟨n, rfl⟩ := Int.eq_ofNat_of_zero_le hlow
  have hn : n ≤ 2 ^ 53 - 1 := by
    unfold maxSafeInteger at hhigh
    omega
  obtain ⟨hthree, hdigits, hvalue⟩ := fractionText_value (n % 1000) (Nat.mod_lt _ (by decide))
  rw [List.all_eq_true] at hdigits
  have hwhole : ∀ c ∈ Nat.toDigits 10 (n / 1000), c.isDigit = true := fun c hc =>
    Nat.isDigit_of_mem_toDigits (by decide) (by decide) hc
  have hlength : (Nat.toDigits 10 (n / 1000)).length ≤ 13 :=
    (Nat.length_toDigits_le_iff (by decide) (by decide)).mpr (by omega)
  generalize hfractionEq : fractionText (n % 1000) = fraction at *
  generalize hwholeEq : Nat.toDigits 10 (n / 1000) = whole at *
  have hne : whole ≠ [] := hwholeEq ▸ Nat.toDigits_ne_nil
  refine ⟨String.ofList (if fraction = [] then whole else whole ++ '.' :: fraction), ?_, ?_⟩
  · have hinteger : exactInteger (some (.num n 0)) "Mikrometervärdet" 0 maxSafeInteger =
        .ok (n : Int) := by
      have hquotient : (n : Int) / 10 ^ 0 = n := by simp
      have hremainder : (n : Int) % 10 ^ 0 = 0 := by simp
      simp only [exactInteger, hquotient, hremainder]
      exact if_pos ⟨trivial, by omega, by omega, hlow, hhigh⟩
    have hquotient : ((n : Int) / 1000).toNat = n / 1000 := by omega
    have hremainder : ((n : Int) % 1000).toNat = n % 1000 := by omega
    rw [micrometresToMillimetreText, hinteger]
    show Except.ok (String.ofList (if fractionText ((n : Int) % 1000).toNat = [] then
        Nat.toDigits 10 ((n : Int) / 1000).toNat else Nat.toDigits 10 ((n : Int) / 1000).toNat ++
          '.' :: fractionText ((n : Int) % 1000).toNat)) = _
    rw [hquotient, hremainder, hfractionEq, hwholeEq]
  · have hchars : ∀ c ∈ (if fraction = [] then whole else whole ++ '.' :: fraction),
        isTrimmed c = false := by
      intro c hc
      split at hc
      · exact isTrimmed_of_isDigit (hwhole c hc)
      · obtain hc | hc := List.mem_append.mp hc
        · exact isTrimmed_of_isDigit (hwhole c hc)
        · obtain rfl | hc := List.mem_cons.mp hc
          · decide
          · exact isTrimmed_of_isDigit (hdigits c hc)
    have hpositive : 1 ≤ whole.length := List.length_pos_iff.mpr hne
    have hbounds : 1 ≤ (if fraction = [] then whole else whole ++ '.' :: fraction).length ∧
        (if fraction = [] then whole else whole ++ '.' :: fraction).length ≤ 64 := by
      split
      · omega
      · rw [List.length_append, List.length_cons]
        omega
    have hscaled : Nat.ofDigitChars 10 (whole ++ fraction) 0 * 10 ^ (3 - fraction.length) = n := by
      have hwholeValue : Nat.ofDigitChars 10 whole 0 = n / 1000 :=
        hwholeEq ▸ Nat.ofDigitChars_ten_toDigits
      have hpower : 10 ^ fraction.length * 10 ^ (3 - fraction.length) = 1000 := by
        rw [← pow_add, Nat.add_sub_cancel' hthree]
        rfl
      rw [Nat.ofDigitChars_append, Nat.ofDigitChars_eq_ofDigitChars_zero, hwholeValue, add_mul, hvalue]
      calc 10 ^ fraction.length * (n / 1000) * 10 ^ (3 - fraction.length) + n % 1000
          = 10 ^ fraction.length * 10 ^ (3 - fraction.length) * (n / 1000) + n % 1000 := by ring
        _ = n := by rw [hpower]; omega
    have hshifted : shifted (Nat.ofDigitChars 10 (whole ++ fraction) 0)
        (0 - (fraction.length : Int) + 3) = some n := by
      have hpower : (0 - (fraction.length : Int) + 3).toNat = 3 - fraction.length := by omega
      rw [shifted, if_pos (by omega), hpower, hscaled]
    simp only [exactMillimetreTextToMicrometres, String.toList_ofList, trim_eq_self hchars,
      readDecimal_digits hwhole hne hdigits, bind_eq_ok, require_eq_ok, demand_eq_ok, exists_const,
      decide_eq_true_eq]
    exact ⟨hbounds, _, rfl, by simp, n, hshifted, ⟨hlow, hhigh, hhigh⟩, rfl⟩

end RoundTrip

end Custombuild.Web.Workshop
