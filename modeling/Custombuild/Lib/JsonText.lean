/-
  JSON texts with exact integers: writing without blanks, and reading.

  The reader takes any JSON text (blanks, escapes, surrogate pairs) whose numbers are integers and
  whose objects have distinct keys.  What is written is read back (`loads_text`).
-/
import Custombuild.Lib.Json
import Custombuild.Lib.SortBy

namespace Custombuild.Lib.JsonText

open Custombuild.Lib.Json (hexDigit)

/-- Why a text is refused. -/
inductive Fault
  | malformed | inexactNumber | longNumber
  | duplicateKey (key : String)
deriving DecidableEq

/-- The most digits of an integer that is converted from or to text. -/
def intMaxStrDigits : Nat := 4300

/-! ## Writing -/

def integerText (n : Int) : List Char :=
  (if n < 0 then ['-'] else []) ++ Nat.toDigits 10 n.natAbs

def stringText (s : String) : List Char := '"' :: (s.toList.flatMap Json.escapeChar ++ ['"'])

mutual

/-- The text of a value whose numbers are integers, without blanks. -/
def text : Json → List Char
  | .null => "null".toList
  | .bool b => if b then "true".toList else "false".toList
  | .num c _ => integerText c
  | .str s => stringText s
  | .arr items => '[' :: (itemsText items ++ [']'])
  | .obj fields => '\x7b' :: (fieldsText fields ++ ['\x7d'])

def itemsText : List Json → List Char
  | [] => []
  | [item] => text item
  | item :: items => text item ++ ',' :: itemsText items

def fieldsText : List (String × Json) → List Char
  | [] => []
  | [(key, value)] => stringText key ++ ':' :: text value
  | (key, value) :: fields => stringText key ++ ':' :: (text value ++ ',' :: fieldsText fields)

end

mutual

/-- Every number is an integer that has a text, and every object has distinct keys. -/
def printable : Json → Bool
  | .num c scale => scale == 0 && decide ((Nat.toDigits 10 c.natAbs).length ≤ intMaxStrDigits)
  | .arr items => printableItems items
  | .obj fields => decide (fields.map Prod.fst).Nodup && printableFields fields
  | _ => true

def printableItems : List Json → Bool
  | [] => true
  | item :: items => printable item && printableItems items

def printableFields : List (String × Json) → Bool
  | [] => true
  | (_, value) :: fields => printable value && printableFields fields

end

/-! ## Reading -/

def isBlank (c : Char) : Bool := c == ' ' || c == '\t' || c == '\n' || c == '\r'

def skipBlanks (cs : List Char) : List Char := cs.dropWhile isBlank

def hexValue (c : Char) : Option Nat :=
  if c.isDigit then some (c.toNat - 48)
  else if 97 ≤ c.toNat ∧ c.toNat ≤ 102 then some (c.toNat - 87)
  else if 65 ≤ c.toNat ∧ c.toNat ≤ 70 then some (c.toNat - 55)
  else none

def hexQuad (a b c d : Char) : Option Nat := do
  let a ← hexValue a
  let b ← hexValue b
  let c ← hexValue c
  let d ← hexValue d
  return ((a * 16 + b) * 16 + c) * 16 + d

def simpleEscape (c : Char) : Option Char :=
  if c = '"' ∨ c = '\\' ∨ c = '/' then some c
  else if c = 'b' then some (Char.ofNat 8)
  else if c = 'f' then some (Char.ofNat 12)
  else if c = 'n' then some '\n'
  else if c = 'r' then some '\r'
  else if c = 't' then some '\t'
  else none

def isSurrogate (n : Nat) : Bool := 0xD800 ≤ n && n < 0xE000

/-- The character of a surrogate pair. -/
def surrogatePair (high low : Nat) : Option Char :=
  if 0xD800 ≤ high ∧ high < 0xDC00 ∧ 0xDC00 ≤ low ∧ low < 0xE000 then
    some (Char.ofNat (0x10000 + (high - 0xD800) * 1024 + (low - 0xDC00)))
  else none

/-- A character before the rest of a string. -/
def consString (c : Char) (tail : Option (List Char × List Char)) :
    Option (List Char × List Char) :=
  tail.map fun read => (c :: read.1, read.2)

/-- A string after its opening quote, and what follows it.  Lone surrogates are no characters,
    and are refused here. -/
def parseString : List Char → Option (List Char × List Char)
  | [] => none
  | '"' :: cs => some ([], cs)
  | '\\' :: 'u' :: a :: b :: c :: d :: cs =>
    match hexQuad a b c d with
    | none => none
    | some n =>
      if isSurrogate n then
        match cs with
        | '\\' :: 'u' :: e :: f :: g :: h :: rest =>
          match hexQuad e f g h with
          | none => none
          | some low => (surrogatePair n low).bind fun char => consString char (parseString rest)
        | _ => none
      else consString (Char.ofNat n) (parseString cs)
  | '\\' :: e :: cs => (simpleEscape e).bind fun char => consString char (parseString cs)
  | c :: cs => if c.toNat < 32 then none else consString c (parseString cs)

/-- A fraction or an exponent. -/
def isFraction : List Char → Bool
  | '.' :: c :: _ => c.isDigit
  | e :: '-' :: c :: _ | e :: '+' :: c :: _ | e :: c :: _ => (e == 'e' || e == 'E') && c.isDigit
  | _ => false

/-- The digits of an integer: a zero, or digits that begin with another one. -/
def leadingDigits : List Char → List Char
  | '0' :: _ => ['0']
  | cs => cs.takeWhile Char.isDigit

def parseNatural (cs : List Char) : Except Fault (Nat × List Char) :=
  let digits := leadingDigits cs
  let rest := cs.drop digits.length
  if digits = [] then .error .malformed
  else if isFraction rest then .error .inexactNumber
  else if intMaxStrDigits < digits.length then .error .longNumber
  else .ok (Nat.ofDigitChars 10 digits 0, rest)

def parseInteger (cs : List Char) : Except Fault (Json × List Char) :=
  match cs with
  | '-' :: cs => (parseNatural cs).map fun read => (.num (-(read.1 : Int)) 0, read.2)
  | cs => (parseNatural cs).map fun read => (.num read.1 0, read.2)

def parseLiteral (cs : List Char) : Except Fault (Json × List Char) :=
  if "true".toList.isPrefixOf cs then .ok (.bool true, cs.drop 4)
  else if "false".toList.isPrefixOf cs then .ok (.bool false, cs.drop 5)
  else if "null".toList.isPrefixOf cs then .ok (.null, cs.drop 4)
  else .error .malformed

/-- An object of distinct keys. -/
def closeObject (fields : List (String × Json)) : Except Fault Json :=
  match (fields.map Prod.fst).find? fun key => decide (1 < (fields.map Prod.fst).count key) with
  | some key => .error (.duplicateKey key)
  | none => .ok (.obj fields)

mutual

/-- A value, and what follows it; the fuel bounds the number of characters read. -/
def parseValue : Nat → List Char → Except Fault (Json × List Char)
  | 0, _ => .error .malformed
  | fuel + 1, cs =>
    match cs with
    | [] => .error .malformed
    | c :: rest =>
      if c = '"' then
        match parseString rest with
        | none => .error .malformed
        | some read => .ok (.str (String.ofList read.1), read.2)
      else if c = '[' then
        match skipBlanks rest with
        | ']' :: rest => .ok (.arr [], rest)
        | rest => (parseItems fuel rest).map fun read => (.arr read.1, read.2)
      else if c = '\x7b' then
        match skipBlanks rest with
        | '\x7d' :: rest => .ok (.obj [], rest)
        | rest => (parseFields fuel rest).bind fun read =>
            (closeObject read.1).map fun value => (value, read.2)
      else if c = '-' ∨ c.isDigit then parseInteger (c :: rest)
      else parseLiteral (c :: rest)

/-- The items of an array up to its closing bracket. -/
def parseItems : Nat → List Char → Except Fault (List Json × List Char)
  | 0, _ => .error .malformed
  | fuel + 1, cs =>
    (parseValue fuel cs).bind fun read =>
      match skipBlanks read.2 with
      | ',' :: rest => (parseItems fuel (skipBlanks rest)).map fun more =>
          (read.1 :: more.1, more.2)
      | ']' :: rest => .ok ([read.1], rest)
      | _ => .error .malformed

/-- The fields of an object up to its closing brace. -/
def parseFields : Nat → List Char → Except Fault (List (String × Json) × List Char)
  | 0, _ => .error .malformed
  | fuel + 1, cs =>
    match cs with
    | '"' :: rest =>
      match parseString rest with
      | none => .error .malformed
      | some key =>
        match skipBlanks key.2 with
        | ':' :: rest =>
          (parseValue fuel (skipBlanks rest)).bind fun read =>
            match skipBlanks read.2 with
            | ',' :: rest => (parseFields fuel (skipBlanks rest)).map fun more =>
                ((String.ofList key.1, read.1) :: more.1, more.2)
            | '\x7d' :: rest => .ok ([(String.ofList key.1, read.1)], rest)
            | _ => .error .malformed
        | _ => .error .malformed
    | _ => .error .malformed

end

/-- `json.loads`, for documents of exact integers and distinct keys. -/
def loads (cs : List Char) : Except Fault Json :=
  (parseValue (skipBlanks cs).length (skipBlanks cs)).bind fun read =>
    if skipBlanks read.2 = [] then .ok read.1 else .error .malformed

/-! ## Strings are read back -/

theorem skipBlanks_cons {c : Char} (h : isBlank c = false) (cs : List Char) :
    skipBlanks (c :: cs) = c :: cs := by
  simp [skipBlanks, h]

theorem hexValue_hexDigit : ∀ d < 16, hexValue (hexDigit d) = some d := by decide

/-- An escaped character is read back. -/
theorem parseString_escapeChar (c : Char) (rest : List Char) :
    parseString (Json.escapeChar c ++ rest) = consString c (parseString rest) := by
  unfold Json.escapeChar
  split
  · subst_vars
    simp [parseString, simpleEscape]
  split
  · subst_vars
    simp [parseString, simpleEscape]
  split
  · subst_vars
    simp [parseString, simpleEscape]
  split
  · subst_vars
    simp [parseString, simpleEscape]
  split
  · subst_vars
    simp [parseString, simpleEscape]
  split
  · rename_i h
    have hc : Char.ofNat 8 = c := by rw [← h, Char.ofNat_toNat]
    simp [parseString, simpleEscape]
    exact congrArg (fun d => consString d (parseString rest)) hc
  split
  · rename_i h
    have hc : Char.ofNat 12 = c := by rw [← h, Char.ofNat_toNat]
    simp [parseString, simpleEscape]
    exact congrArg (fun d => consString d (parseString rest)) hc
  split
  · -- the other control characters
    have hhigh := hexValue_hexDigit (c.toNat / 16) (by omega)
    have hlow := hexValue_hexDigit (c.toNat % 16) (by omega)
    have hzero : hexValue '0' = some 0 := by decide
    have hquad : hexQuad '0' '0' (hexDigit (c.toNat / 16)) (hexDigit (c.toNat % 16)) =
        some c.toNat := by
      simp only [hexQuad, hzero, hhigh, hlow, Option.bind_eq_bind, Option.bind_some,
        Option.pure_def]
      congr 1
      omega
    have hplain : isSurrogate c.toNat = false := by
      simp only [isSurrogate, Bool.and_eq_false_iff, decide_eq_false_iff_not]
      omega
    simp only [List.cons_append, List.nil_append]
    rw [parseString]
    simp only [hquad, hplain, Bool.false_eq_true, if_false, Char.ofNat_toNat]
  · rename_i h1 h2 _ _ _ _ _ h8
    simp only [List.cons_append, List.nil_append]
    rw [parseString.eq_def]
    split <;> simp_all

theorem parseString_text (cs rest : List Char) :
    parseString (cs.flatMap Json.escapeChar ++ '"' :: rest) = some (cs, rest) := by
  induction cs with
  | nil => simp [parseString]
  | cons c cs ih =>
    rw [List.flatMap_cons, List.append_assoc, parseString_escapeChar, ih]
    rfl

/-! ## Numbers are read back -/

/-- What may follow a value in a text that was written. -/
def Follows (rest : List Char) : Prop := ∀ c ∈ rest.head?, c = ',' ∨ c = ']' ∨ c = '\x7d'

theorem follows_nil : Follows [] := nofun

theorem isFraction_of_follows {rest : List Char} (h : Follows rest) : isFraction rest = false := by
  cases rest with
  | nil => rfl
  | cons c rest =>
    have hpoint : c ≠ '.' := by
      rcases h c rfl with rfl | rfl | rfl <;> decide
    have hexponent : (c == 'e' || c == 'E') = false := by
      rcases h c rfl with rfl | rfl | rfl <;> rfl
    unfold isFraction
    split
    · rename_i heq
      exact absurd (List.cons.inj heq).1 hpoint
    · rename_i heq
      rw [← (List.cons.inj heq).1, hexponent, Bool.false_and]
    · rename_i heq
      rw [← (List.cons.inj heq).1, hexponent, Bool.false_and]
    · rename_i heq
      rw [← (List.cons.inj heq).1, hexponent, Bool.false_and]
    · rfl

theorem isDigit_of_follows {rest : List Char} (h : Follows rest) :
    ∀ c ∈ rest.head?, c.isDigit = false := by
  intro c hc
  rcases h c hc with rfl | rfl | rfl <;> decide

/-- The digits of a positive number begin with a digit other than zero. -/
theorem toDigits_head : ∀ n : Nat, 0 < n →
    ∃ c cs, Nat.toDigits 10 n = c :: cs ∧ c ≠ '0' := by
  intro n
  induction n using Nat.strong_induction_on with
  | h n ih =>
    intro hn
    by_cases hsmall : n < 10
    · refine ⟨n.digitChar, [], Nat.toDigits_of_lt_base hsmall, ?_⟩
      have hall : ∀ m < 10, 0 < m → Nat.digitChar m ≠ '0' := by decide
      exact hall n hsmall hn
    · obtain ⟨c, cs, hdigits, hc⟩ := ih (n / 10) (by omega) (by omega)
      refine ⟨c, cs ++ [Nat.digitChar (n % 10)], ?_, hc⟩
      rw [Nat.toDigits_of_base_le (by decide) (by omega), hdigits]
      rfl

theorem isDigit_toDigits {n : Nat} {c : Char} (h : c ∈ Nat.toDigits 10 n) : c.isDigit = true :=
  Nat.isDigit_of_mem_toDigits (by decide) (by decide) h

theorem leadingDigits_toDigits (n : Nat) {rest : List Char} (h : Follows rest) :
    leadingDigits (Nat.toDigits 10 n ++ rest) = Nat.toDigits 10 n := by
  rcases Nat.eq_zero_or_pos n with rfl | hn
  · rfl
  · obtain ⟨c, cs, hdigits, hc⟩ := toDigits_head n hn
    have hwhile : (Nat.toDigits 10 n ++ rest).takeWhile Char.isDigit = Nat.toDigits 10 n := by
      rw [List.takeWhile_append_of_pos fun c hc => isDigit_toDigits hc]
      cases rest with
      | nil => simp
      | cons d rest => simp [isDigit_of_follows h d rfl]
    rw [hdigits] at hwhile ⊢
    rw [List.cons_append] at hwhile ⊢
    unfold leadingDigits
    split
    · rename_i heq
      cases heq
      exact absurd rfl hc
    · exact hwhile

theorem parseNatural_toDigits {n : Nat} (hlength : (Nat.toDigits 10 n).length ≤ intMaxStrDigits)
    {rest : List Char} (h : Follows rest) :
    parseNatural (Nat.toDigits 10 n ++ rest) = .ok (n, rest) := by
  unfold parseNatural
  simp only [leadingDigits_toDigits n h, List.drop_left, Nat.toDigits_ne_nil,
    isFraction_of_follows h, if_false, Bool.false_eq_true, Nat.not_lt.mpr hlength,
    Nat.ofDigitChars_ten_toDigits]

theorem parseInteger_text {n : Int}
    (hlength : (Nat.toDigits 10 n.natAbs).length ≤ intMaxStrDigits) {rest : List Char}
    (h : Follows rest) : parseInteger (integerText n ++ rest) = .ok (.num n 0, rest) := by
  unfold integerText
  by_cases hneg : n < 0
  · have hvalue : -(n.natAbs : Int) = n := by omega
    rw [if_pos hneg]
    simp only [List.cons_append, List.nil_append]
    unfold parseInteger
    simp only [parseNatural_toDigits hlength h, Except.map, hvalue]
  · have hvalue : (n.natAbs : Int) = n := by omega
    rw [if_neg hneg, List.nil_append]
    unfold parseInteger
    split
    · rename_i heq
      -- a digit is no sign
      have hhead : '-' ∈ Nat.toDigits 10 n.natAbs := by
        cases hdigits : Nat.toDigits 10 n.natAbs with
        | nil => exact absurd hdigits Nat.toDigits_ne_nil
        | cons c cs =>
          rw [hdigits] at heq
          cases heq
          exact List.mem_cons_self
      exact absurd (isDigit_toDigits hhead) (by decide)
    · simp only [parseNatural_toDigits hlength h, Except.map, hvalue]

/-! ## Values are read back -/

/-- A value begins with a character that is no blank and closes no array. -/
theorem text_head (v : Json) : ∃ c cs, text v = c :: cs ∧ isBlank c = false ∧ c ≠ ']' := by
  cases v with
  | null => exact ⟨'n', "ull".toList, by simp [text], by decide, by decide⟩
  | bool b =>
    cases b with
    | true => exact ⟨'t', "rue".toList, by simp [text], by decide, by decide⟩
    | false => exact ⟨'f', "alse".toList, by simp [text], by decide, by decide⟩
  | num n scale =>
    rw [text, integerText]
    by_cases hneg : n < 0
    · rw [if_pos hneg]
      exact ⟨'-', _, rfl, by decide, by decide⟩
    · rw [if_neg hneg, List.nil_append]
      cases hdigits : Nat.toDigits 10 n.natAbs with
      | nil => exact absurd hdigits Nat.toDigits_ne_nil
      | cons c cs =>
        have hc : c.isDigit = true := isDigit_toDigits (hdigits ▸ List.mem_cons_self)
        refine ⟨c, cs, rfl, ?_, ?_⟩
        · by_contra hblank
          rw [Bool.not_eq_false] at hblank
          simp only [isBlank, Bool.or_eq_true, beq_iff_eq] at hblank
          rcases hblank with ((rfl | rfl) | rfl) | rfl <;> exact absurd hc (by decide)
        · rintro rfl
          exact absurd hc (by decide)
  | str s => exact ⟨'"', _, by rw [text, stringText], by decide, by decide⟩
  | arr items => exact ⟨'[', _, by rw [text], by decide, by decide⟩
  | obj fields => exact ⟨'\x7b', _, by rw [text], by decide, by decide⟩

theorem skipBlanks_text (v : Json) (rest : List Char) :
    skipBlanks (text v ++ rest) = text v ++ rest := by
  obtain ⟨c, cs, htext, hblank, -⟩ := text_head v
  rw [htext, List.cons_append, skipBlanks_cons hblank]

theorem skipBlanks_follows {rest : List Char} (h : Follows rest) : skipBlanks rest = rest := by
  cases rest with
  | nil => rfl
  | cons c rest =>
    refine skipBlanks_cons ?_ rest
    rcases h c rfl with rfl | rfl | rfl <;> decide

theorem follows_cons {c : Char} (h : c = ',' ∨ c = ']' ∨ c = '\x7d') (rest : List Char) :
    Follows (c :: rest) := by
  intro d hd
  cases hd
  exact h

/-- A number begins with its sign or with a digit. -/
theorem integerText_head (n : Int) : ∃ c cs, integerText n = c :: cs ∧ (c = '-' ∨ c.isDigit) := by
  unfold integerText
  by_cases hneg : n < 0
  · rw [if_pos hneg]
    exact ⟨'-', _, rfl, Or.inl rfl⟩
  · rw [if_neg hneg, List.nil_append]
    cases hdigits : Nat.toDigits 10 n.natAbs with
    | nil => exact absurd hdigits Nat.toDigits_ne_nil
    | cons c cs =>
      exact ⟨c, cs, rfl, Or.inr (isDigit_toDigits (hdigits ▸ List.mem_cons_self))⟩

theorem parseValue_integer {n : Int} {fuel : Nat}
    (hlength : (Nat.toDigits 10 n.natAbs).length ≤ intMaxStrDigits) {rest : List Char}
    (h : Follows rest) :
    parseValue (fuel + 1) (integerText n ++ rest) = .ok (.num n 0, rest) := by
  obtain ⟨c, cs, htext, hc⟩ := integerText_head n
  have hread := parseInteger_text hlength h
  rw [htext, List.cons_append] at hread ⊢
  have hother : c ≠ '"' ∧ c ≠ '[' ∧ c ≠ '\x7b' := by
    rcases hc with rfl | hdigit
    · decide
    · refine ⟨?_, ?_, ?_⟩ <;>
      · rintro rfl
        exact absurd hdigit (by decide)
  rw [parseValue]
  rw [if_neg hother.1, if_neg hother.2.1, if_neg hother.2.2, if_pos hc, hread]

theorem parseValue_literal {fuel : Nat} {v : Json} {cs rest : List Char}
    (h : (v = .bool true ∧ cs = "true".toList) ∨ (v = .bool false ∧ cs = "false".toList) ∨
      (v = .null ∧ cs = "null".toList)) :
    parseValue (fuel + 1) (cs ++ rest) = .ok (v, rest) := by
  rcases h with ⟨rfl, rfl⟩ | ⟨rfl, rfl⟩ | ⟨rfl, rfl⟩ <;>
    simp [parseValue, parseLiteral]

theorem closeObject_ok {fields : List (String × Json)} (h : (fields.map Prod.fst).Nodup) :
    closeObject fields = .ok (.obj fields) := by
  unfold closeObject
  cases hfind : (fields.map Prod.fst).find? fun key =>
      decide (1 < (fields.map Prod.fst).count key) with
  | none => rfl
  | some key =>
    have hfound := List.find?_some hfind
    have hcount : 1 < (fields.map Prod.fst).count key := by simpa using hfound
    have hle := List.nodup_iff_count_le_one.mp h key
    omega

/-- The items that follow a comma, or the closing bracket. -/
theorem itemsText_cons (item : Json) (items : List Json) (hne : items ≠ []) :
    itemsText (item :: items) = text item ++ ',' :: itemsText items := by
  cases items with
  | nil => exact absurd rfl hne
  | cons other items => rw [itemsText]; exact nofun

theorem fieldsText_cons (key : String) (value : Json) (fields : List (String × Json))
    (hne : fields ≠ []) : fieldsText ((key, value) :: fields) =
      stringText key ++ ':' :: (text value ++ ',' :: fieldsText fields) := by
  cases fields with
  | nil => exact absurd rfl hne
  | cons other fields => rw [fieldsText]; exact nofun

theorem itemsText_head {items : List Json} (hne : items ≠ []) :
    ∃ c cs, itemsText items = c :: cs ∧ isBlank c = false ∧ c ≠ ']' := by
  cases items with
  | nil => exact absurd rfl hne
  | cons item items =>
    obtain ⟨c, cs, htext, hc⟩ := text_head item
    by_cases hmore : items = []
    · rw [hmore, itemsText, htext]
      exact ⟨c, cs, rfl, hc⟩
    · rw [itemsText_cons item items hmore, htext]
      exact ⟨c, _, rfl, hc⟩

theorem fieldsText_head {fields : List (String × Json)} (hne : fields ≠ []) :
    ∃ cs, fieldsText fields = '"' :: cs := by
  cases fields with
  | nil => exact absurd rfl hne
  | cons field fields =>
    obtain ⟨key, value⟩ := field
    by_cases hmore : fields = []
    · rw [hmore, fieldsText, stringText]
      exact ⟨_, rfl⟩
    · rw [fieldsText_cons key value fields hmore, stringText]
      exact ⟨_, rfl⟩

theorem length_text_pos (v : Json) : 0 < (text v).length := by
  obtain ⟨c, cs, htext, -⟩ := text_head v
  rw [htext]
  exact Nat.succ_pos _

theorem stringText_append (key : String) (rest : List Char) :
    stringText key ++ rest = '"' :: (key.toList.flatMap Json.escapeChar ++ '"' :: rest) := by
  simp [stringText]

/-- The last field is read. -/
theorem parseFields_last {fuel : Nat} {key : String} {value : Json} {rest : List Char}
    (hvalue : parseValue fuel (text value ++ '\x7d' :: rest) = .ok (value, '\x7d' :: rest)) :
    parseFields (fuel + 1) (stringText key ++ ':' :: (text value ++ '\x7d' :: rest)) =
      .ok ([(key, value)], rest) := by
  rw [stringText_append, parseFields]
  simp only [parseString_text, skipBlanks_cons (show isBlank ':' = false by decide),
    skipBlanks_text, hvalue, Except.bind, skipBlanks_cons (show isBlank '\x7d' = false by decide),
    String.ofList_toList]

/-- A field is read, and then the fields after its comma. -/
theorem parseFields_more {fuel : Nat} {key : String} {value : Json} {rest : List Char}
    (hvalue : parseValue fuel (text value ++ ',' :: rest) = .ok (value, ',' :: rest)) :
    parseFields (fuel + 1) (stringText key ++ ':' :: (text value ++ ',' :: rest)) =
      (parseFields fuel (skipBlanks rest)).map fun more => ((key, value) :: more.1, more.2) := by
  rw [stringText_append, parseFields]
  simp only [parseString_text, skipBlanks_cons (show isBlank ':' = false by decide),
    skipBlanks_text, hvalue, Except.bind, skipBlanks_cons (show isBlank ',' = false by decide),
    String.ofList_toList]

mutual

/-- A value that was written is read, whatever follows it. -/
theorem parseValue_text : ∀ (v : Json), printable v = true → ∀ (fuel : Nat) (rest : List Char),
    (text v).length ≤ fuel → Follows rest → parseValue fuel (text v ++ rest) = .ok (v, rest)
  | v, hprint, 0, rest, hfuel, _ => absurd hfuel (Nat.not_le.mpr (length_text_pos v))
  | .null, _, fuel + 1, rest, _, _ => by
    rw [text]
    exact parseValue_literal (Or.inr (Or.inr ⟨rfl, rfl⟩))
  | .bool true, _, fuel + 1, rest, _, _ => by
    rw [text, if_pos rfl]
    exact parseValue_literal (Or.inl ⟨rfl, rfl⟩)
  | .bool false, _, fuel + 1, rest, _, _ => by
    rw [text, if_neg Bool.false_ne_true]
    exact parseValue_literal (Or.inr (Or.inl ⟨rfl, rfl⟩))
  | .num n scale, hprint, fuel + 1, rest, _, hrest => by
    simp only [printable, Bool.and_eq_true, beq_iff_eq, decide_eq_true_eq] at hprint
    rw [text, hprint.1]
    exact parseValue_integer hprint.2 hrest
  | .str s, _, fuel + 1, rest, _, _ => by
    have hread := parseString_text s.toList rest
    rw [text, stringText, List.cons_append, List.append_assoc, List.singleton_append, parseValue,
      if_pos rfl, hread]
    simp only [String.ofList_toList]
  | .arr [], _, fuel + 1, rest, _, _ => by
    simp [text, itemsText, parseValue, skipBlanks, isBlank]
  | .arr (item :: items), hprint, fuel + 1, rest, hfuel, _ => by
    obtain ⟨c, cs, hhead, hblank, hclose⟩ := itemsText_head (List.cons_ne_nil item items)
    have hread := parseItems_text (item :: items) (List.cons_ne_nil _ _) (by
      rw [printable] at hprint
      exact hprint) fuel rest (by
        simp only [text, List.length_cons, List.length_append, List.length_nil] at hfuel
        omega)
    rw [text, List.cons_append, List.append_assoc, List.singleton_append, parseValue,
      if_neg (by decide), if_pos rfl]
    rw [hhead, List.cons_append] at hread ⊢
    rw [skipBlanks_cons hblank]
    split
    · rename_i heq
      exact absurd (List.cons.inj heq).1 hclose
    · rw [hread]
      rfl
  | .obj [], _, fuel + 1, rest, _, _ => by
    simp [text, fieldsText, parseValue, skipBlanks, isBlank]
  | .obj (field :: fields), hprint, fuel + 1, rest, hfuel, _ => by
    obtain ⟨cs, hhead⟩ := fieldsText_head (List.cons_ne_nil field fields)
    rw [printable, Bool.and_eq_true, decide_eq_true_eq] at hprint
    have hread := parseFields_text (field :: fields) (List.cons_ne_nil _ _) hprint.2 fuel rest (by
        simp only [text, List.length_cons, List.length_append, List.length_nil] at hfuel
        omega)
    rw [text, List.cons_append, List.append_assoc, List.singleton_append, parseValue,
      if_neg (by decide), if_neg (by decide), if_pos rfl]
    rw [hhead, List.cons_append] at hread ⊢
    rw [skipBlanks_cons (show isBlank '"' = false by decide)]
    split
    · rename_i heq
      exact absurd (List.cons.inj heq).1 (by decide)
    · rw [hread]
      simp only [Except.bind, closeObject_ok hprint.1, Except.map]

theorem parseItems_text : ∀ (items : List Json), items ≠ [] → printableItems items = true →
    ∀ (fuel : Nat) (rest : List Char), (itemsText items).length + 1 ≤ fuel →
      parseItems fuel (itemsText items ++ ']' :: rest) = .ok (items, rest)
  | [], hne, _, _, _, _ => absurd rfl hne
  | _ :: _, _, _, 0, _, hfuel => absurd hfuel (Nat.not_succ_le_zero _)
  | [item], _, hprint, fuel + 1, rest, hfuel => by
    simp only [printableItems, Bool.and_true] at hprint
    rw [itemsText] at hfuel ⊢
    have hread := parseValue_text item hprint fuel (']' :: rest) (by omega)
      (follows_cons (by decide) rest)
    rw [parseItems, hread]
    simp only [Except.bind, skipBlanks_cons (show isBlank ']' = false by decide)]
  | item :: other :: items, _, hprint, fuel + 1, rest, hfuel => by
    rw [printableItems, Bool.and_eq_true] at hprint
    rw [itemsText_cons _ _ (List.cons_ne_nil _ _)] at hfuel ⊢
    simp only [List.length_append, List.length_cons] at hfuel
    rw [List.append_assoc, List.cons_append]
    have hread := parseValue_text item hprint.1 fuel
      (',' :: (itemsText (other :: items) ++ ']' :: rest)) (by omega) (follows_cons (by decide) _)
    have hmore := parseItems_text (other :: items) (List.cons_ne_nil _ _) hprint.2 fuel rest
      (by have := length_text_pos item; omega)
    obtain ⟨c, cs, hhead, hblank, -⟩ := itemsText_head (List.cons_ne_nil other items)
    have hskip : skipBlanks (itemsText (other :: items) ++ ']' :: rest) =
        itemsText (other :: items) ++ ']' :: rest := by
      rw [hhead, List.cons_append, skipBlanks_cons hblank]
    rw [parseItems, hread]
    simp only [Except.bind, skipBlanks_cons (show isBlank ',' = false by decide), hskip, hmore,
      Except.map]

theorem parseFields_text : ∀ (fields : List (String × Json)), fields ≠ [] →
    printableFields fields = true →
    ∀ (fuel : Nat) (rest : List Char), (fieldsText fields).length + 1 ≤ fuel →
      parseFields fuel (fieldsText fields ++ '\x7d' :: rest) = .ok (fields, rest)
  | [], hne, _, _, _, _ => absurd rfl hne
  | _ :: _, _, _, 0, _, hfuel => absurd hfuel (Nat.not_succ_le_zero _)
  | [(key, value)], _, hprint, fuel + 1, rest, hfuel => by
    simp only [printableFields, Bool.and_true] at hprint
    rw [fieldsText] at hfuel ⊢
    simp only [List.length_append, List.length_cons] at hfuel
    have hread := parseValue_text value hprint fuel ('\x7d' :: rest) (by omega)
      (follows_cons (by decide) rest)
    rw [List.append_assoc, List.cons_append, parseFields_last hread]
  | (key, value) :: other :: fields, _, hprint, fuel + 1, rest, hfuel => by
    rw [printableFields, Bool.and_eq_true] at hprint
    rw [fieldsText_cons _ _ _ (List.cons_ne_nil _ _)] at hfuel ⊢
    simp only [List.length_append, List.length_cons] at hfuel
    have hread := parseValue_text value hprint.1 fuel
      (',' :: (fieldsText (other :: fields) ++ '\x7d' :: rest)) (by omega)
      (follows_cons (by decide) _)
    have hmore := parseFields_text (other :: fields) (List.cons_ne_nil _ _) hprint.2 fuel rest
      (by omega)
    obtain ⟨cs, hhead⟩ := fieldsText_head (List.cons_ne_nil other fields)
    have hskip : skipBlanks (fieldsText (other :: fields) ++ '\x7d' :: rest) =
        fieldsText (other :: fields) ++ '\x7d' :: rest := by
      rw [hhead, List.cons_append, skipBlanks_cons (by decide)]
    rw [List.append_assoc, List.cons_append, List.append_assoc, List.cons_append,
      parseFields_more hread, hskip, hmore]
    rfl

end

/-- What is written is read back. -/
theorem loads_text {v : Json} (h : printable v = true) : loads (text v) = .ok v := by
  have hskip := skipBlanks_text v []
  have hread := parseValue_text v h (text v).length [] le_rfl follows_nil
  rw [List.append_nil] at hskip hread
  unfold loads
  rw [hskip, hread]
  simp only [Except.bind, skipBlanks_follows follows_nil, if_true]

end Custombuild.Lib.JsonText
