/-
  Lexing of G-code text: lines, comments and words.  Texts are lists of characters.
  Source: `parse_gcode`, `_strip_comments` and `_parse_words` of
  `custombuild_postprocessors.parser`, `_word_um` and `_um_as_mm` of `production_parser`.

  Both exception classes of the source are value errors; an error here is its message.
-/
import Custombuild.Lib.Checked
import Custombuild.Lib.Decimal

namespace Custombuild.Postprocessors

open Custombuild.Lib

structure GCodeWord where
  letter : Char
  value : Dec
deriving DecidableEq

structure ParsedLine where
  lineNumber : Nat
  words : List GCodeWord
deriving DecidableEq

/-! ## Characters and lines -/

/-- `str.split` at one character. -/
def splitOnChar (sep : Char) : List Char → List (List Char)
  | [] => [[]]
  | c :: cs =>
    if c = sep then [] :: splitOnChar sep cs
    else match splitOnChar sep cs with
      | line :: rest => (c :: line) :: rest
      | [] => [[c]]

/-- The lines of a text that ends with a line feed. -/
def textLines (text : List Char) : List (List Char) := splitOnChar '\n' text.dropLast

/-- `"\n".join(lines) + "\n"`. -/
def joinLines (lines : List (List Char)) : List Char := lines.flatMap fun l => l ++ ['\n']

def isPrintable (c : Char) : Bool := ' ' ≤ c && c ≤ '~'

/-- `str.strip` on printable text, whose only white space is the blank. -/
def stripBlanks (cs : List Char) : List Char :=
  ((cs.dropWhile (· == ' ')).reverse.dropWhile (· == ' ')).reverse

/-! ## Words -/

/-- The value of a run of digits. -/
def digitsValue (cs : List Char) : Int := (Nat.ofDigitChars 10 cs 0 : Nat)

/-- `\d+(\.\d*)?|\.\d+` after an optional sign. -/
def parseUnsigned (sign : Int) (cs : List Char) : Option (Dec × List Char) :=
  let whole := cs.takeWhile Char.isDigit
  let rest := cs.dropWhile Char.isDigit
  match rest with
  | '.' :: rest =>
    let fraction := rest.takeWhile Char.isDigit
    if whole.isEmpty && fraction.isEmpty then none
    else some (⟨sign * digitsValue (whole ++ fraction), fraction.length⟩,
      rest.dropWhile Char.isDigit)
  | _ => if whole.isEmpty then none else some (⟨sign * digitsValue whole, 0⟩, rest)

def parseNumber : List Char → Option (Dec × List Char)
  | '-' :: cs => parseUnsigned (-1) cs
  | '+' :: cs => parseUnsigned 1 cs
  | cs => parseUnsigned 1 cs

/-- `_parse_words`: the recursion is on a bound of the number of words. -/
def parseWordsFrom (line : Nat) : Nat → List Char → Except String (List GCodeWord)
  | 0, _ => .ok []
  | fuel + 1, cs =>
    match cs.dropWhile (· == ' ') with
    | [] => .ok []
    | letter :: rest => do
      require letter.isAlpha ("unsupported token at line " ++ toString line)
      let (value, rest) ← demand (parseNumber rest) ("unsupported token at line " ++ toString line)
      let words ← parseWordsFrom line fuel rest
      return ⟨letter.toUpper, value⟩ :: words

def parseWords (code : List Char) (line : Nat) : Except String (List GCodeWord) := do
  let words ← parseWordsFrom line code.length code
  require (!words.isEmpty) ("empty executable line at " ++ toString line)
  return words

/-! ## Comments and programs -/

/-- `_strip_comments`, `inside` being the comment depth. -/
def stripCommentsFrom (line : Nat) : Bool → List Char → Except String (List Char)
  | inside, [] =>
    if inside then .error ("unclosed comment at line " ++ toString line) else .ok []
  | inside, c :: cs =>
    if c = '(' then
      if inside then .error ("nested comment at line " ++ toString line)
      else stripCommentsFrom line true cs
    else if c = ')' then
      if inside then stripCommentsFrom line false cs
      else .error ("unmatched comment close at line " ++ toString line)
    else if c = ';' && !inside then .ok []
    else if inside then stripCommentsFrom line true cs
    else do
      let rest ← stripCommentsFrom line false cs
      return c :: rest

/-- The loop of `parse_gcode`; blank lines and percent signs carry no words. -/
def parseLines : Nat → List (List Char) → Except String (List ParsedLine)
  | _, [] => .ok []
  | line, raw :: rest => do
    let code ← stripCommentsFrom line false raw
    if stripBlanks code = [] ∨ stripBlanks code = ['%'] then parseLines (line + 1) rest
    else
      let words ← parseWords (stripBlanks code) line
      let lines ← parseLines (line + 1) rest
      return ⟨line, words⟩ :: lines

/-- The lines of `parse_gcode`; the summary fields of its result are not used here. -/
def parseGcode (text : List Char) : Except String (List ParsedLine) := do
  require (text.all fun c => c = '\n' || isPrintable c)
    "machine program requires printable ASCII and LF separators"
  parseLines 1 (splitOnChar '\n' text)

/-! ## Numbers of words -/

/-- Precision of the decimal context of the source. -/
def decimalPrecision : Nat := 28

/-- `words.get(letter, [])`. -/
def wordValues (words : List GCodeWord) (letter : Char) : List Dec :=
  (words.filter fun w => w.letter = letter).map GCodeWord.value

def hasLetter (words : List GCodeWord) (letter : Char) : Bool :=
  words.any fun w => w.letter = letter

/-- `Decimal(number) in words.get(letter, [])`. -/
def hasWord (words : List GCodeWord) (letter : Char) (number : Dec) : Bool :=
  (wordValues words letter).any fun d => d.same number

/-- `words.get(letter) == [Decimal(number)]`. -/
def onlyWord (words : List GCodeWord) (letter : Char) (number : Dec) : Bool :=
  match wordValues words letter with
  | [d] => d.same number
  | _ => false

/-- The product with 1000 in the decimal context, when it is integral. -/
def micrometres (d : Dec) : Option Int :=
  let scaled := roundSig decimalPrecision (d.coeff * 1000)
  if scaled % 10 ^ d.scale = 0 then some (scaled / 10 ^ d.scale) else none

/-- `_word_um`. -/
def wordUm (words : List GCodeWord) (letter : Char) (line : Nat) : Except String Int :=
  match wordValues words letter with
  | [d] => demand (micrometres d) (String.singleton letter ++
      " cannot be represented as integer micrometres at line " ++ toString line)
  | _ => .error ("motion requires one " ++ String.singleton letter ++ " word at line " ++
      toString line)

/-- `_um_as_mm` and `_ms_as_seconds`: the quotient by 1000 in the decimal context. -/
def thousandths (value : Int) : Dec := ⟨roundSig decimalPrecision value, 3⟩

/-- Two lines with the same letters and numbers, as signatures are compared. -/
def sameWords (k l : List GCodeWord) : Bool :=
  k.length = l.length && (k.zip l).all fun p => p.1.letter = p.2.letter && p.1.value.same p.2.value

/-! ## Lookups, word by word -/

section
variable (w : GCodeWord) (words : List GCodeWord) (c : Char) (d : Dec)

@[simp] theorem wordValues_nil : wordValues [] c = [] := rfl

@[simp] theorem wordValues_cons : wordValues (w :: words) c =
    if w.letter = c then w.value :: wordValues words c else wordValues words c := by
  unfold wordValues
  rw [List.filter_cons]
  split <;> simp_all

@[simp] theorem hasLetter_nil : hasLetter [] c = false := rfl

@[simp] theorem hasLetter_cons :
    hasLetter (w :: words) c = (w.letter = c || hasLetter words c) := by
  simp [hasLetter]

@[simp] theorem hasWord_nil : hasWord [] c d = false := rfl

@[simp] theorem hasWord_cons :
    hasWord (w :: words) c d = (w.letter = c && w.value.same d || hasWord words c d) := by
  unfold hasWord
  rw [wordValues_cons]
  by_cases h : w.letter = c <;> simp [h]

theorem hasWord_of_values {words : List GCodeWord} {c : Char} {e : Dec}
    (h : wordValues words c = [e]) : hasWord words c d = e.same d := by
  simp [hasWord, h]

theorem wordValues_eq_nil {words : List GCodeWord} {c : Char} :
    wordValues words c = [] ↔ hasLetter words c = false := by
  simp [wordValues, hasLetter, List.filter_eq_nil_iff]

end

/-! ## Printing -/

/-- Plain notation of a numeral: the point stands before the last `scale` digits. -/
def plainText (d : Dec) : List Char :=
  let digits := Nat.toDigits 10 d.coeff.natAbs
  let padded := List.replicate (d.scale + 1 - digits.length) '0' ++ digits
  let whole := padded.take (padded.length - d.scale)
  let fraction := padded.drop (padded.length - d.scale)
  (if d.coeff < 0 then ['-'] else []) ++ whole ++
    (if d.scale = 0 then [] else '.' :: fraction)

/-- A word and a line of words, as text. -/
def wordText (w : GCodeWord) : List Char := w.letter :: plainText w.value

def lineText : List GCodeWord → List Char
  | [] => []
  | [w] => wordText w
  | w :: v :: words => wordText w ++ ' ' :: lineText (v :: words)

/-! ## Rounding of a numeral -/

/-- The numeral is not changed by the product with 1000 in the decimal context. -/
def Unrounded (d : Dec) : Prop :=
  roundSig decimalPrecision (d.coeff * 1000) = d.coeff * 1000

instance (d : Dec) : Decidable (Unrounded d) := inferInstanceAs (Decidable (_ = _))

/-- An unrounded numeral denotes exactly its micrometres. -/
theorem value_of_micrometres {d : Dec} {v : Int} (hexact : Unrounded d)
    (h : micrometres d = some v) : d.value = v / 1000 := by
  simp only [micrometres, show roundSig decimalPrecision (d.coeff * 1000) = d.coeff * 1000 from
    hexact, Option.ite_none_right_eq_some, Option.some.injEq] at h
  obtain ⟨hdvd, rfl⟩ := h
  have hmul : (d.coeff * 1000 / 10 ^ d.scale) * 10 ^ d.scale = d.coeff * 1000 :=
    Int.ediv_mul_cancel (Int.dvd_of_emod_eq_zero hdvd)
  have hq : ((d.coeff * 1000 / 10 ^ d.scale : Int) : ℚ) * 10 ^ d.scale = d.coeff * 1000 := by
    exact_mod_cast hmul
  have hpos : (10 : ℚ) ^ d.scale ≠ 0 := by positivity
  rw [Dec.value]
  field_simp
  linarith

/-- A numeral equal to a rounded quotient is not rounded again. -/
theorem unrounded_of_same_thousandths {d : Dec} {v : Int} (h : d.same (thousandths v) = true) :
    Unrounded d := by
  refine roundSig_of_fits ?_
  have hfits : Fits decimalPrecision (roundSig decimalPrecision v).natAbs :=
    fits_roundSig (by decide) v
  have hsame : d.coeff * 10 ^ 3 = roundSig decimalPrecision v * 10 ^ d.scale :=
    of_decide_eq_true h
  have heq : (d.coeff * 1000).natAbs = (roundSig decimalPrecision v).natAbs * 10 ^ d.scale := by
    have := congrArg Int.natAbs hsame
    simpa [Int.natAbs_mul, Int.natAbs_pow] using this
  rw [heq]
  exact hfits.mul_pow _

/-- The micrometres of a numeral equal to a rounded quotient. -/
theorem micrometres_of_same_thousandths {d : Dec} {v : Int}
    (h : d.same (thousandths v) = true) :
    micrometres d = some (roundSig decimalPrecision v) := by
  have hexact : roundSig decimalPrecision (d.coeff * 1000) = d.coeff * 1000 :=
    unrounded_of_same_thousandths h
  have hsame : d.coeff * 1000 = roundSig decimalPrecision v * 10 ^ d.scale :=
    of_decide_eq_true h
  have hpos : (10 : Int) ^ d.scale ≠ 0 := by positivity
  simp only [micrometres, hexact]
  rw [hsame, if_pos (Int.mul_emod_left _ _), Int.mul_ediv_cancel _ hpos]

theorem value_thousandths {v : Int} (h : roundSig decimalPrecision v = v) :
    (thousandths v).value = v / 1000 := by
  simp only [thousandths, Dec.value, h]
  norm_num

end Custombuild.Postprocessors
