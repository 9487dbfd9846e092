/-
  JSON documents, and the `jsonb` operators of PostgreSQL on them: `->`, `->>`,
  `jsonb_typeof`, `=`, `@>`, `-` and the text output.  A number is a decimal, coefficient and
  scale, so that `1.0` and `1` are equal numbers with different texts.
-/
import Mathlib.Algebra.Group.Int.Defs
import Mathlib.Algebra.Group.Nat.Defs
import Mathlib.Data.List.Basic

namespace Custombuild.Lib

inductive Json where
  | null
  | bool (value : Bool)
  | num (coefficient : Int) (scale : Nat)
  | str (text : String)
  | arr (items : List Json)
  | obj (fields : List (String × Json))

namespace Json

/-- `jsonb_typeof`. -/
def typeName : Json → String
  | null => "null"
  | bool _ => "boolean"
  | num _ _ => "number"
  | str _ => "string"
  | arr _ => "array"
  | obj _ => "object"

theorem typeName_eq_object {j : Json} : j.typeName = "object" ↔ ∃ fields, j = obj fields := by
  cases j <;> simp [typeName]

theorem typeName_eq_array {j : Json} : j.typeName = "array" ↔ ∃ items, j = arr items := by
  cases j <;> simp [typeName]

/-- The keys of an object; anything else has none. -/
def keys : Json → List String
  | obj fields => fields.map Prod.fst
  | _ => []

/-- `->` with a text key: nothing when the value is not an object or lacks the key. -/
def get (j : Json) (key : String) : Option Json :=
  match j with
  | obj fields => (fields.find? fun field => field.1 == key).map Prod.snd
  | _ => none

theorem get_isSome_of_mem_keys {j : Json} {key : String} (h : key ∈ j.keys) :
    ∃ value, j.get key = some value := by
  cases j with
  | obj fields =>
    obtain ⟨field, hfield, rfl⟩ := List.mem_map.mp h
    cases hf : fields.find? fun f => f.1 == field.1 with
    | none => simpa using List.find?_eq_none.mp hf field hfield
    | some found => exact ⟨found.2, by simp [get, hf]⟩
  | _ => simp [keys] at h

/-! ## Text -/

def hexDigit (n : Nat) : Char := if n < 10 then Char.ofNat (48 + n) else Char.ofNat (87 + n)

/-- The escape of one character of a JSON string. -/
def escapeChar (c : Char) : List Char :=
  if c = '"' then ['\\', '"']
  else if c = '\\' then ['\\', '\\']
  else if c = '\n' then ['\\', 'n']
  else if c = '\r' then ['\\', 'r']
  else if c = '\t' then ['\\', 't']
  else if c.toNat = 8 then ['\\', 'b']
  else if c.toNat = 12 then ['\\', 'f']
  else if c.toNat < 32 then ['\\', 'u', '0', '0', hexDigit (c.toNat / 16), hexDigit (c.toNat % 16)]
  else [c]

def quote (s : String) : String :=
  String.ofList (['"'] ++ s.toList.flatMap escapeChar ++ ['"'])

/-- The digits of a decimal, with `scale` of them after the point. -/
def decimalText (coefficient : Int) (scale : Nat) : String :=
  let digits := (toString coefficient.natAbs).toList
  let padded := List.replicate (scale + 1 - digits.length) '0' ++ digits
  let whole := padded.take (padded.length - scale)
  let point := if scale = 0 then [] else '.' :: padded.drop (padded.length - scale)
  String.ofList ((if coefficient < 0 then ['-'] else []) ++ whole ++ point)

mutual

/-- The text output of a `jsonb` value. -/
def render : Json → String
  | null => "null"
  | bool b => if b then "true" else "false"
  | num c s => decimalText c s
  | str s => quote s
  | arr items => "[" ++ ", ".intercalate (renderItems items) ++ "]"
  | obj fields => "\x7b" ++ ", ".intercalate (renderFields fields) ++ "\x7d"

def renderItems : List Json → List String
  | [] => []
  | item :: items => render item :: renderItems items

def renderFields : List (String × Json) → List String
  | [] => []
  | (key, value) :: fields => (quote key ++ ": " ++ render value) :: renderFields fields

end

/-- `->>`: a JSON null and an absent key both give nothing. -/
def getText (j : Json) (key : String) : Option String :=
  match j.get key with
  | none => none
  | some null => none
  | some (str s) => some s
  | some value => some (render value)

/-! ## Equality and containment -/

mutual

/-- `=` on `jsonb`: numbers are compared by value. -/
def same : Json → Json → Bool
  | null, null => true
  | bool a, bool b => a == b
  | num c s, num d t => c * 10 ^ t == d * 10 ^ s
  | str a, str b => a == b
  | arr as, arr bs => sameItems as bs
  | obj as, obj bs => sameFields as bs
  | _, _ => false

def sameItems : List Json → List Json → Bool
  | [], [] => true
  | a :: as, b :: bs => same a b && sameItems as bs
  | _, _ => false

def sameFields : List (String × Json) → List (String × Json) → Bool
  | [], [] => true
  | (k, a) :: as, (l, b) :: bs => k == l && same a b && sameFields as bs
  | _, _ => false

end

theorem same_str {text : String} {j : Json} (h : same j (str text) = true) : j = str text := by
  cases j <;> simp_all [same]

def isScalar : Json → Bool
  | arr _ => false
  | obj _ => false
  | _ => true

mutual

/-- Containment of one value in another, below the top level. -/
def deepContains : Json → Json → Bool
  | obj vs, obj cs => containsFields vs cs
  | arr vs, arr cs => containsItems vs cs
  | v, c => isScalar c && same v c

/-- Every element of the second array is contained in some element of the first. -/
def containsItems : List Json → List Json → Bool
  | _, [] => true
  | vs, c :: cs => (vs.any fun v => deepContains v c) && containsItems vs cs

def containsFields : List (String × Json) → List (String × Json) → Bool
  | _, [] => true
  | vs, (k, c) :: cs =>
    (vs.any fun field => field.1 == k && deepContains field.2 c) && containsFields vs cs

end

/-- `@>`.  At the top level an array also contains a scalar that is one of its elements. -/
def contains (v c : Json) : Bool :=
  match v with
  | arr vs => if isScalar c then vs.any fun v => same v c else deepContains v c
  | _ => deepContains v c

theorem mem_of_containsItems {text : String} {vs cs : List Json}
    (h : containsItems vs cs = true) (hc : str text ∈ cs) : str text ∈ vs := by
  induction cs with
  | nil => cases hc
  | cons c cs ih =>
    simp only [containsItems, Bool.and_eq_true, List.any_eq_true] at h
    obtain ⟨⟨v, hv, hdeep⟩, hrest⟩ := h
    rcases List.mem_cons.mp hc with rfl | hc
    · -- a string is contained in nothing but itself
      have hsame : same v (str text) = true := by
        cases v <;> simp_all [deepContains, same, isScalar]
      rwa [← same_str hsame]
    · exact ih hrest hc

/-- An array that contains another one has all of its strings as elements. -/
theorem mem_of_contains {text : String} {vs cs : List Json}
    (h : contains (arr vs) (arr cs) = true) (hc : str text ∈ cs) : str text ∈ vs := by
  have hitems : containsItems vs cs = true := by
    simpa [contains, isScalar, deepContains] using h
  exact mem_of_containsItems hitems hc

/-- `-` with a text operand: an object without that key, an array without that string.
    Nothing can be deleted from a scalar. -/
def without (j : Json) (key : String) : Option Json :=
  match j with
  | obj fields => some (obj (fields.filter fun field => field.1 != key))
  | arr items => some (arr (items.filter fun item => !same item (str key)))
  | _ => none

mutual

/-- The same document, numbers with their scale. -/
def identical : Json → Json → Bool
  | null, null => true
  | bool a, bool b => a == b
  | num c s, num d t => c == d && s == t
  | str a, str b => a == b
  | arr as, arr bs => identicalItems as bs
  | obj as, obj bs => identicalFields as bs
  | _, _ => false

def identicalItems : List Json → List Json → Bool
  | [], [] => true
  | a :: as, b :: bs => identical a b && identicalItems as bs
  | _, _ => false

def identicalFields : List (String × Json) → List (String × Json) → Bool
  | [], [] => true
  | (k, a) :: as, (l, b) :: bs => k == l && identical a b && identicalFields as bs
  | _, _ => false

end

mutual

theorem eq_of_identical (a b : Json) (h : identical a b = true) : a = b := by
  cases a with
  | null =>
    cases b with
    | null => rfl
    | _ => simp [identical] at h
  | bool a =>
    cases b with
    | bool b => simpa [identical] using h
    | _ => simp [identical] at h
  | num c s =>
    cases b with
    | num d t => simpa [identical] using h
    | _ => simp [identical] at h
  | str a =>
    cases b with
    | str b => simpa [identical] using h
    | _ => simp [identical] at h
  | arr as =>
    cases b with
    | arr bs =>
      rw [identical] at h
      rw [eq_of_identicalItems as bs h]
    | _ => simp [identical] at h
  | obj as =>
    cases b with
    | obj bs =>
      rw [identical] at h
      rw [eq_of_identicalFields as bs h]
    | _ => simp [identical] at h

theorem eq_of_identicalItems (as bs : List Json) (h : identicalItems as bs = true) : as = bs := by
  cases as with
  | nil =>
    cases bs with
    | nil => rfl
    | cons b bs => simp [identicalItems] at h
  | cons a as =>
    cases bs with
    | nil => simp [identicalItems] at h
    | cons b bs =>
      rw [identicalItems, Bool.and_eq_true] at h
      rw [eq_of_identical a b h.1, eq_of_identicalItems as bs h.2]

theorem eq_of_identicalFields (as bs : List (String × Json)) (h : identicalFields as bs = true) :
    as = bs := by
  cases as with
  | nil =>
    cases bs with
    | nil => rfl
    | cons b bs => simp [identicalFields] at h
  | cons a as =>
    obtain ⟨k, a⟩ := a
    cases bs with
    | nil => simp [identicalFields] at h
    | cons b bs =>
      obtain ⟨l, b⟩ := b
      rw [identicalFields, Bool.and_eq_true, Bool.and_eq_true, beq_iff_eq] at h
      rw [h.1.1, eq_of_identical a b h.1.2, eq_of_identicalFields as bs h.2]

end

/-! ## Stored values -/

/-- The key order of a stored object: by length in bytes, then by bytes. -/
def keyBefore (a b : String) : Bool :=
  a.utf8ByteSize < b.utf8ByteSize || (a.utf8ByteSize == b.utf8ByteSize && decide (a < b))

def keysIncrease : List String → Bool
  | a :: b :: keys => keyBefore a b && keysIncrease (b :: keys)
  | _ => true

mutual

/-- Every object of the document has its keys in the stored order, each once. -/
def wellFormed : Json → Bool
  | arr items => wellFormedItems items
  | obj fields => keysIncrease (fields.map Prod.fst) && wellFormedFields fields
  | _ => true

def wellFormedItems : List Json → Bool
  | [] => true
  | item :: items => wellFormed item && wellFormedItems items

def wellFormedFields : List (String × Json) → Bool
  | [] => true
  | (_, value) :: fields => wellFormed value && wellFormedFields fields

end

end Json

/-- A `jsonb` value. -/
structure Jsonb where
  value : Json
  wellFormed : value.wellFormed = true

theorem Jsonb.eq_of_identical {a b : Jsonb} (h : a.value.identical b.value = true) : a = b := by
  cases a
  cases b
  obtain rfl := Json.eq_of_identical _ _ h
  rfl

end Custombuild.Lib
