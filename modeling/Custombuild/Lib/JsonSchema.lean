/-
  The meaning of a JSON Schema (Draft 2020-12), for the keywords `const`, `enum`, `type`,
  `minLength`, `maxLength`, `pattern`, `minimum`, `maximum`, `required`, `properties`,
  `additionalProperties`, `minItems`, `maxItems`, `uniqueItems`, `prefixItems`, `items` and local
  references.  Titles, identifiers and descriptions constrain nothing and are left out.
-/
import Custombuild.Lib.Json
import Custombuild.Lib.Regex

namespace Custombuild.Lib

namespace Json

mutual

/-- Equality of JSON values up to the order of the fields of objects; `leaf` compares what is
    neither two arrays nor two objects. -/
def equalBy (leaf : Json → Json → Bool) : Json → Json → Bool
  | arr as, arr bs => equalItems leaf as bs
  | obj as, obj bs => as.length == bs.length && equalFields leaf as bs
  | a, b => leaf a b

def equalItems (leaf : Json → Json → Bool) : List Json → List Json → Bool
  | [], [] => true
  | a :: as, b :: bs => equalBy leaf a b && equalItems leaf as bs
  | _, _ => false

/-- Every field has a field of the same name and an equal value on the other side. -/
def equalFields (leaf : Json → Json → Bool) : List (String × Json) → List (String × Json) → Bool
  | [], _ => true
  | (key, a) :: as, bs =>
    (match bs.find? fun field => field.1 == key with
      | some field => equalBy leaf a field.2
      | none => false) && equalFields leaf as bs

end

/-- Equality of JSON values: numbers by value, and nothing else equals a number. -/
def sameValue : Json → Json → Bool := equalBy fun a b => isScalar a && same a b

mutual

/-- The levels of arrays and objects in one another. -/
def depth : Json → Nat
  | arr items => depthItems items + 1
  | obj fields => depthFields fields + 1
  | _ => 0

def depthItems : List Json → Nat
  | [] => 0
  | item :: items => max (depth item) (depthItems items)

def depthFields : List (String × Json) → Nat
  | [] => 0
  | (_, value) :: fields => max (depth value) (depthFields fields)

end

theorem depth_le_depthItems {item : Json} {items : List Json} (h : item ∈ items) :
    depth item ≤ depthItems items := by
  induction items with
  | nil => cases h
  | cons first items ih =>
    rw [depthItems]
    rcases List.mem_cons.mp h with rfl | h
    · exact Nat.le_max_left _ _
    · exact le_trans (ih h) (Nat.le_max_right _ _)

theorem depth_le_depthFields {field : String × Json} {fields : List (String × Json)}
    (h : field ∈ fields) : depth field.2 ≤ depthFields fields := by
  induction fields with
  | nil => cases h
  | cons first fields ih =>
    obtain ⟨key, value⟩ := first
    rw [depthFields]
    rcases List.mem_cons.mp h with rfl | h
    · exact Nat.le_max_left _ _
    · exact le_trans (ih h) (Nat.le_max_right _ _)

mutual

/-- No number has a fractional part, and no object has a key twice. -/
def integral : Json → Bool
  | num _ scale => scale == 0
  | arr items => integralItems items
  | obj fields => decide (fields.map Prod.fst).Nodup && integralFields fields
  | _ => true

def integralItems : List Json → Bool
  | [] => true
  | item :: items => integral item && integralItems items

def integralFields : List (String × Json) → Bool
  | [] => true
  | (_, value) :: fields => integral value && integralFields fields

end

theorem integral_of_mem_items {item : Json} {items : List Json} (hitems : integralItems items = true)
    (h : item ∈ items) : integral item = true := by
  induction items with
  | nil => cases h
  | cons first items ih =>
    rw [integralItems, Bool.and_eq_true] at hitems
    rcases List.mem_cons.mp h with rfl | h
    · exact hitems.1
    · exact ih hitems.2 h

theorem integral_of_mem_fields {field : String × Json} {fields : List (String × Json)}
    (hfields : integralFields fields = true) (h : field ∈ fields) : integral field.2 = true := by
  induction fields with
  | nil => cases h
  | cons first fields ih =>
    rw [integralFields, Bool.and_eq_true] at hfields
    rcases List.mem_cons.mp h with rfl | h
    · exact hfields.1
    · exact ih hfields.2 h

end Json

namespace JsonSchema

inductive JsonType
  | object | array | string | integer | boolean | null
deriving DecidableEq

/-- The keywords that look at one value and not into it. -/
structure Keywords where
  constant : Option Json := none
  enum : Option (List Json) := none
  types : Option (List JsonType) := none
  minLength : Option Nat := none
  maxLength : Option Nat := none
  pattern : Option Regex := none
  minimum : Option Int := none
  maximum : Option Int := none
  required : List String := []
  minItems : Option Nat := none
  maxItems : Option Nat := none
  uniqueItems : Bool := false

inductive Rule where
  | always
  | never
  /-- `{"$ref": "#/$defs/name"}` -/
  | ref (name : String)
  | keywords (own : Keywords) (properties : List (String × Rule)) (additional : Rule)
      (prefixItems : List Rule) (items : Rule)

structure Schema where
  root : Rule
  definitions : List (String × Rule)

def lookup (definitions : List (String × Rule)) (name : String) : Option Rule :=
  (definitions.find? fun definition => definition.1 == name).map Prod.snd

/-- The rule of a field: that of its property, or the one for all others. -/
def propertyRule (properties : List (String × Rule)) (additional : Rule) (key : String) : Rule :=
  (lookup properties key).getD additional

/-- The rule of an item: that of its position, or the one for all others. -/
def itemRule (prefixItems : List Rule) (items : Rule) (index : Nat) : Rule :=
  prefixItems[index]?.getD items

/-- The value is of the type; an integer is a number without a fractional part. -/
def hasType : JsonType → Json → Bool
  | .object, .obj _ => true
  | .array, .arr _ => true
  | .string, .str _ => true
  | .integer, .num c scale => c % 10 ^ scale == 0
  | .boolean, .bool _ => true
  | .null, .null => true
  | _, _ => false

/-- What the keywords of a rule say of the value itself. -/
structure Keywords.Hold (own : Keywords) (v : Json) : Prop where
  constant : ∀ c, own.constant = some c → Json.sameValue v c = true
  enum : ∀ cs, own.enum = some cs → ∃ c ∈ cs, Json.sameValue v c = true
  types : ∀ ts, own.types = some ts → ∃ t ∈ ts, hasType t v = true
  minLength : ∀ s n, v = .str s → own.minLength = some n → n ≤ s.length
  maxLength : ∀ s n, v = .str s → own.maxLength = some n → s.length ≤ n
  pattern : ∀ s r, v = .str s → own.pattern = some r → r.search s = true
  minimum : ∀ c scale n, v = .num c scale → own.minimum = some n → n * 10 ^ scale ≤ c
  maximum : ∀ c scale n, v = .num c scale → own.maximum = some n → c ≤ n * 10 ^ scale
  required : ∀ fields, v = .obj fields → ∀ key ∈ own.required, key ∈ fields.map Prod.fst
  minItems : ∀ items n, v = .arr items → own.minItems = some n → n ≤ items.length
  maxItems : ∀ items n, v = .arr items → own.maxItems = some n → items.length ≤ n
  uniqueItems : ∀ items, v = .arr items → own.uniqueItems = true →
    items.Pairwise fun a b => Json.sameValue a b = false

/-- What the keywords say of every value, whatever its type. -/
structure Keywords.HoldAny (own : Keywords) (v : Json) : Prop where
  constant : ∀ c, own.constant = some c → Json.sameValue v c = true
  enum : ∀ cs, own.enum = some cs → ∃ c ∈ cs, Json.sameValue v c = true
  types : ∀ ts, own.types = some ts → ∃ t ∈ ts, hasType t v = true

theorem Keywords.Hold.any {own : Keywords} {v : Json} (h : own.Hold v) : own.HoldAny v :=
  ⟨h.constant, h.enum, h.types⟩

theorem Keywords.hold_null {own : Keywords} : own.Hold .null ↔ own.HoldAny .null :=
  ⟨fun h => h.any, fun h => ⟨h.constant, h.enum, h.types, nofun, nofun, nofun, nofun, nofun, nofun,
    nofun, nofun, nofun⟩⟩

theorem Keywords.hold_bool {own : Keywords} {b : Bool} :
    own.Hold (.bool b) ↔ own.HoldAny (.bool b) :=
  ⟨fun h => h.any, fun h => ⟨h.constant, h.enum, h.types, nofun, nofun, nofun, nofun, nofun, nofun,
    nofun, nofun, nofun⟩⟩

theorem Keywords.hold_str {own : Keywords} {s : String} : own.Hold (.str s) ↔
    own.HoldAny (.str s) ∧ (∀ n, own.minLength = some n → n ≤ s.length) ∧
      (∀ n, own.maxLength = some n → s.length ≤ n) ∧
      ∀ r, own.pattern = some r → r.search s = true := by
  constructor
  · exact fun h => ⟨h.any, fun n => h.minLength s n rfl, fun n => h.maxLength s n rfl,
      fun r => h.pattern s r rfl⟩
  · rintro ⟨h, hmin, hmax, hpattern⟩
    refine ⟨h.constant, h.enum, h.types, ?_, ?_, ?_, nofun, nofun, nofun, nofun, nofun, nofun⟩
    · rintro _ n ⟨⟩
      exact hmin n
    · rintro _ n ⟨⟩
      exact hmax n
    · rintro _ r ⟨⟩
      exact hpattern r

theorem Keywords.hold_num {own : Keywords} {c : Int} : own.Hold (.num c 0) ↔
    own.HoldAny (.num c 0) ∧ (∀ n, own.minimum = some n → n ≤ c) ∧
      ∀ n, own.maximum = some n → c ≤ n := by
  constructor
  · exact fun h => ⟨h.any, fun n hn => by simpa using h.minimum c 0 n rfl hn,
      fun n hn => by simpa using h.maximum c 0 n rfl hn⟩
  · rintro ⟨h, hmin, hmax⟩
    refine ⟨h.constant, h.enum, h.types, nofun, nofun, nofun, ?_, ?_, nofun, nofun, nofun, nofun⟩
    · rintro _ _ n ⟨⟩ hn
      simpa using hmin n hn
    · rintro _ _ n ⟨⟩ hn
      simpa using hmax n hn

theorem Keywords.hold_obj {own : Keywords} {fields : List (String × Json)} :
    own.Hold (.obj fields) ↔
      own.HoldAny (.obj fields) ∧ ∀ key ∈ own.required, key ∈ fields.map Prod.fst := by
  constructor
  · exact fun h => ⟨h.any, h.required fields rfl⟩
  · rintro ⟨h, hrequired⟩
    refine ⟨h.constant, h.enum, h.types, nofun, nofun, nofun, nofun, nofun, ?_, nofun, nofun, nofun⟩
    rintro _ ⟨⟩
    exact hrequired

theorem Keywords.hold_arr {own : Keywords} {items : List Json} : own.Hold (.arr items) ↔
    own.HoldAny (.arr items) ∧ (∀ n, own.minItems = some n → n ≤ items.length) ∧
      (∀ n, own.maxItems = some n → items.length ≤ n) ∧
      (own.uniqueItems = true → items.Pairwise fun a b => Json.sameValue a b = false) := by
  constructor
  · exact fun h => ⟨h.any, fun n => h.minItems items n rfl, fun n => h.maxItems items n rfl,
      h.uniqueItems items rfl⟩
  · rintro ⟨h, hmin, hmax, hunique⟩
    refine ⟨h.constant, h.enum, h.types, nofun, nofun, nofun, nofun, nofun, nofun, ?_, ?_, ?_⟩
    · rintro _ n ⟨⟩
      exact hmin n
    · rintro _ n ⟨⟩
      exact hmax n
    · rintro _ ⟨⟩
      exact hunique

/-- The value is valid under the rule. -/
inductive Valid (definitions : List (String × Rule)) : Rule → Json → Prop
  | always (v : Json) : Valid definitions .always v
  | ref {name : String} {rule : Rule} {v : Json} (hname : lookup definitions name = some rule)
      (hrule : Valid definitions rule v) : Valid definitions (.ref name) v
  | keywords {own : Keywords} {properties : List (String × Rule)} {additional : Rule}
      {prefixItems : List Rule} {items : Rule} {v : Json} (hown : own.Hold v)
      (hfields : ∀ fields, v = .obj fields → ∀ field ∈ fields,
        Valid definitions (propertyRule properties additional field.1) field.2)
      (hitems : ∀ values, v = .arr values → ∀ index item, values[index]? = some item →
        Valid definitions (itemRule prefixItems items index) item) :
      Valid definitions (.keywords own properties additional prefixItems items) v

variable {definitions : List (String × Rule)} {own : Keywords}
  {properties : List (String × Rule)} {additional : Rule} {prefixItems : List Rule} {items : Rule}
  {name : String} {v : Json}

theorem not_valid_never : ¬Valid definitions .never v := by
  intro h
  cases h

theorem valid_ref_iff : Valid definitions (.ref name) v ↔
    ∃ rule, lookup definitions name = some rule ∧ Valid definitions rule v := by
  constructor
  · rintro (_ | ⟨hname, hrule⟩ | _)
    exact ⟨_, hname, hrule⟩
  · rintro ⟨rule, hname, hrule⟩
    exact .ref hname hrule

theorem valid_keywords_iff :
    Valid definitions (.keywords own properties additional prefixItems items) v ↔
      own.Hold v ∧
      (∀ fields, v = .obj fields → ∀ field ∈ fields,
        Valid definitions (propertyRule properties additional field.1) field.2) ∧
      ∀ values, v = .arr values → ∀ index item, values[index]? = some item →
        Valid definitions (itemRule prefixItems items index) item := by
  constructor
  · rintro (_ | _ | ⟨hown, hfields, hitems⟩)
    exact ⟨hown, hfields, hitems⟩
  · rintro ⟨hown, hfields, hitems⟩
    exact .keywords hown hfields hitems

/-- The value is an instance of the schema. -/
def Schema.Accepts (schema : Schema) (v : Json) : Prop :=
  Valid schema.definitions schema.root v

end JsonSchema

end Custombuild.Lib
