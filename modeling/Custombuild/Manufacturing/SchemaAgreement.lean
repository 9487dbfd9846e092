/-
  The checker agrees with the meaning of a schema up to flags that are written as numbers.  One
  lemma for every keyword that looks at the value itself, one for the items and one for the
  fields, and from them the induction on the depth of the document.
-/
import Custombuild.Manufacturing.SchemaValidation

namespace Custombuild.Manufacturing.Quality

open Custombuild.Lib Custombuild.Lib.JsonSchema

/-! ## Comparison with constants -/

theorem pyLeaf_of_plain {v c : Json} (h : isPlain c = true) :
    pyLeaf v c = (Json.isScalar v && Json.same v c) := by
  cases c <;> cases v <;> simp_all [pyLeaf, isPlain]

theorem plain_of_mem_fields {fields : List (String × Json)} (h : arePlainFields fields = true)
    {field : String × Json} (hfield : field ∈ fields) : isPlain field.2 = true := by
  induction fields with
  | nil => cases hfield
  | cons first fields ih =>
    rw [arePlainFields, Bool.and_eq_true] at h
    rcases List.mem_cons.mp hfield with rfl | hfield
    · exact h.1
    · exact ih h.2 hfield

mutual

/-- Where neither flags nor numbers occur, the two comparisons agree. -/
theorem pyEqual_of_plain : ∀ (v c : Json), isPlain c = true → pyEqual v c = Json.sameValue v c
  | .arr vs, .arr cs, h => by
    rw [isPlain] at h
    simpa only [pyEqual, Json.sameValue, Json.equalBy] using equalItems_of_plain vs cs h
  | .obj vs, .obj cs, h => by
    rw [isPlain] at h
    simp only [pyEqual, Json.sameValue, Json.equalBy]
    rw [equalFields_of_plain vs cs h]
  | .arr _, .null, h => by
    simpa only [pyEqual, Json.sameValue, Json.equalBy] using pyLeaf_of_plain h
  | .arr _, .str _, h => by
    simpa only [pyEqual, Json.sameValue, Json.equalBy] using pyLeaf_of_plain h
  | .arr _, .obj _, h => by
    simpa only [pyEqual, Json.sameValue, Json.equalBy] using pyLeaf_of_plain h
  | .obj _, .null, h => by
    simpa only [pyEqual, Json.sameValue, Json.equalBy] using pyLeaf_of_plain h
  | .obj _, .str _, h => by
    simpa only [pyEqual, Json.sameValue, Json.equalBy] using pyLeaf_of_plain h
  | .obj _, .arr _, h => by
    simpa only [pyEqual, Json.sameValue, Json.equalBy] using pyLeaf_of_plain h
  | .null, c, h => by
    simpa only [pyEqual, Json.sameValue, Json.equalBy] using pyLeaf_of_plain h
  | .bool _, c, h => by
    simpa only [pyEqual, Json.sameValue, Json.equalBy] using pyLeaf_of_plain h
  | .num _ _, c, h => by
    simpa only [pyEqual, Json.sameValue, Json.equalBy] using pyLeaf_of_plain h
  | .str _, c, h => by
    simpa only [pyEqual, Json.sameValue, Json.equalBy] using pyLeaf_of_plain h

theorem equalItems_of_plain : ∀ (vs cs : List Json), arePlain cs = true →
    Json.equalItems pyLeaf vs cs =
      Json.equalItems (fun a b => Json.isScalar a && Json.same a b) vs cs
  | [], [], _ => rfl
  | [], _ :: _, _ => rfl
  | _ :: _, [], _ => rfl
  | v :: vs, c :: cs, h => by
    rw [arePlain, Bool.and_eq_true] at h
    rw [Json.equalItems, Json.equalItems, equalItems_of_plain vs cs h.2]
    exact congrArg (· && _) (pyEqual_of_plain v c h.1)

theorem equalFields_of_plain : ∀ (vs cs : List (String × Json)), arePlainFields cs = true →
    Json.equalFields pyLeaf vs cs =
      Json.equalFields (fun a b => Json.isScalar a && Json.same a b) vs cs
  | [], _, _ => rfl
  | (key, v) :: vs, cs, h => by
    rw [Json.equalFields, Json.equalFields, equalFields_of_plain vs cs h]
    cases hfind : cs.find? fun field => field.1 == key with
    | none => rfl
    | some field =>
      have hplain := plain_of_mem_fields h (List.mem_of_find?_eq_some hfind)
      exact congrArg (· && _) (pyEqual_of_plain v field.2 hplain)

end

/-! ## Documents with flags -/

section Flags

variable {definitions : List (String × Rule)} {rule : Rule} {v : Json}

@[simp] theorem resolve_always : resolve definitions .always = .always := rfl

@[simp] theorem fieldRule_always (key : String) : fieldRule .always key = .always := rfl

@[simp] theorem positionRule_always (index : Nat) : positionRule .always index = .always := rfl

theorem withFlagsFields_eq_map (definitions : List (String × Rule)) (rule : Rule)
    (fields : List (String × Json)) : withFlagsFields definitions rule fields =
      fields.map fun field => (field.1, withFlags definitions (fieldRule rule field.1) field.2) := by
  induction fields with
  | nil => rfl
  | cons field fields ih =>
    rw [withFlagsFields, ih]
    rfl

theorem withFlagsItems_getElem? (definitions : List (String × Rule)) (rule : Rule)
    (values : List Json) (start index : Nat) :
    (withFlagsItems definitions rule start values)[index]? =
      values[index]?.map (withFlags definitions (positionRule rule (start + index))) := by
  induction values generalizing start index with
  | nil => simp [withFlagsItems]
  | cons value values ih =>
    rw [withFlagsItems]
    cases index with
    | zero => rfl
    | succ index =>
      rw [List.getElem?_cons_succ, List.getElem?_cons_succ, ih, Nat.add_right_comm, Nat.add_assoc]

theorem length_withFlagsItems (definitions : List (String × Rule)) (rule : Rule)
    (values : List Json) (start : Nat) :
    (withFlagsItems definitions rule start values).length = values.length := by
  induction values generalizing start with
  | nil => rfl
  | cons value values ih => rw [withFlagsItems, List.length_cons, List.length_cons, ih]

mutual

/-- Under a rule that asks for nothing, nothing is replaced. -/
theorem withFlags_always (definitions : List (String × Rule)) :
    ∀ v, withFlags definitions .always v = v
  | .null => rfl
  | .bool _ => rfl
  | .num _ _ => rfl
  | .str _ => rfl
  | .arr values => by
    rw [withFlags, resolve_always, withFlagsItems_always definitions values 0]
  | .obj fields => by
    rw [withFlags, resolve_always, withFlagsFields_always definitions fields]

theorem withFlagsItems_always (definitions : List (String × Rule)) : ∀ values index,
    withFlagsItems definitions .always index values = values
  | [], _ => rfl
  | value :: values, index => by
    rw [withFlagsItems, positionRule_always, withFlags_always definitions value,
      withFlagsItems_always definitions values (index + 1)]

theorem withFlagsFields_always (definitions : List (String × Rule)) : ∀ fields,
    withFlagsFields definitions .always fields = fields
  | [] => rfl
  | (key, value) :: fields => by
    rw [withFlagsFields, fieldRule_always, withFlags_always definitions value,
      withFlagsFields_always definitions fields]

end

/-- A value that is not a number keeps its shape. -/
theorem withFlags_str {s : String} : withFlags definitions rule v = .str s ↔ v = .str s := by
  cases v with
  | num c scale =>
    simp only [withFlags]
    split
    · split <;> simp
    · simp
  | _ => simp [withFlags]

end Flags

/-! ## One rule of keywords -/

section OneRule

variable {definitions : List (String × Rule)} {own : Keywords}
  {properties : List (String × Rule)} {additional : Rule} {prefixItems : List Rule} {items : Rule}
  {v w : Json} {path : String}

/-- What is inside the value. -/
def Inside (w v : Json) : Prop :=
  (∃ fields key, v = .obj fields ∧ (key, w) ∈ fields) ∨ ∃ values, v = .arr values ∧ w ∈ values

theorem Inside.depth (h : Inside w v) : w.depth < v.depth := by
  rcases h with ⟨fields, key, rfl, hmem⟩ | ⟨values, rfl, hmem⟩
  · exact Nat.lt_succ_of_le (Json.depth_le_depthFields hmem)
  · exact Nat.lt_succ_of_le (Json.depth_le_depthItems hmem)

theorem Inside.integral (h : Inside w v) (hv : v.integral = true) : w.integral = true := by
  rcases h with ⟨fields, key, rfl, hmem⟩ | ⟨values, rfl, hmem⟩
  · rw [Json.integral, Bool.and_eq_true] at hv
    exact Json.integral_of_mem_fields hv.2 hmem
  · exact Json.integral_of_mem_items hv hmem

theorem isProper_of_mem_properties {rules : List (String × Rule)}
    (h : areProperProperties definitions rules = true) {entry : String × Rule}
    (hentry : entry ∈ rules) : isProper definitions entry.2 = true := by
  induction rules with
  | nil => cases hentry
  | cons first rules ih =>
    rw [areProperProperties, Bool.and_eq_true] at h
    rcases List.mem_cons.mp hentry with rfl | hentry
    · exact h.1
    · exact ih h.2 hentry

theorem isProper_of_lookup {rules : List (String × Rule)}
    (h : areProperProperties definitions rules = true) {name : String} {rule : Rule}
    (hrule : lookup rules name = some rule) : isProper definitions rule = true := by
  obtain ⟨entry, hfind, rfl⟩ := Option.map_eq_some_iff.mp hrule
  exact isProper_of_mem_properties h (List.mem_of_find?_eq_some hfind)

theorem isProper_propertyRule (hproperties : areProperProperties definitions properties = true)
    (hadditional : isProper definitions additional = true) (key : String) :
    isProper definitions (propertyRule properties additional key) = true := by
  unfold propertyRule
  cases hrule : lookup properties key with
  | none => exact hadditional
  | some rule => exact isProper_of_lookup hproperties hrule

theorem isProper_itemRule (hfirst : areProper definitions prefixItems = true)
    (hitems : isProper definitions items = true) (index : Nat) :
    isProper definitions (itemRule prefixItems items index) = true := by
  unfold itemRule
  induction prefixItems generalizing index with
  | nil => exact hitems
  | cons first rules ih =>
    rw [areProper, Bool.and_eq_true] at hfirst
    cases index with
    | zero => exact hfirst.1
    | succ index => exact ih hfirst.2 index

/-- The parts of a proper rule of keywords. -/
theorem isProper_keywords
    (h : isProper definitions (.keywords own properties additional prefixItems items) = true) :
    keywordsAreProper own = true ∧
      (own.constant.isNone = true ∧ own.enum.isNone = true ∨
        noChildren properties additional prefixItems items = true) ∧
      (own.uniqueItems = true → prefixItems = [] ∧ onlyStrings definitions items = true) ∧
      (∀ key, isProper definitions (propertyRule properties additional key) = true) ∧
      ∀ index, isProper definitions (itemRule prefixItems items index) = true := by
  simp only [isProper, Bool.and_eq_true, Bool.or_eq_true, Bool.not_eq_true',
    List.isEmpty_iff] at h
  obtain ⟨⟨⟨⟨⟨⟨hown, hconstants⟩, hunique⟩, hproperties⟩, hadditional⟩, hfirst⟩, hitems⟩ := h
  refine ⟨hown, hconstants, fun hyes => ?_, isProper_propertyRule hproperties hadditional,
    isProper_itemRule hfirst hitems⟩
  rcases hunique with hno | hstrings
  · rw [hyes] at hno
    cases hno
  · exact hstrings

/-- The check of a flag against its number is the check of the flag that replaces it. -/
theorem flag_iff {b : Bool} (hflag : own.constant = some (.bool b)) :
    pyEqual v (.bool b) = true ↔ Json.sameValue (withFlags definitions
      (.keywords own properties additional prefixItems items) v) (.bool b) = true := by
  cases v with
  | num c scale =>
    simp only [withFlags, resolve, flagConstant, hflag]
    split
    · rename_i heq
      simp [heq, Json.sameValue, Json.equalBy, Json.isScalar, Json.same]
    · rename_i heq
      simp only [heq, Json.sameValue, Json.equalBy]
      simp [Json.isScalar, Json.same]
  | _ => simp [withFlags, pyEqual, Json.sameValue, Json.equalBy, pyLeaf, Json.isScalar, Json.same]

/-- A rule that asks nothing of what is inside, and does not fix a flag, replaces nothing. -/
theorem withFlags_noChildren (hconstant : ∀ b, own.constant ≠ some (.bool b))
    (hno : noChildren properties additional prefixItems items = true) (v : Json) :
    withFlags definitions (.keywords own properties additional prefixItems items) v = v := by
  obtain ⟨rfl, rfl, rfl, rfl⟩ :
      properties = [] ∧ additional = .always ∧ prefixItems = [] ∧ items = .always := by
    simp only [noChildren, Bool.and_eq_true, List.isEmpty_iff] at hno
    obtain ⟨⟨⟨hproperties, hadditional⟩, hfirst⟩, hitems⟩ := hno
    refine ⟨hproperties, ?_, hfirst, ?_⟩
    · cases additional <;> first | rfl | cases hadditional
    · cases items <;> first | rfl | cases hitems
  cases v with
  | num c scale =>
    have hnone : flagConstant (resolve definitions (.keywords own [] .always [] .always)) = none := by
      unfold flagConstant resolve
      dsimp only
      split
      · rename_i b hb
        exact absurd hb (hconstant b)
      · rfl
    rw [withFlags, hnone]
  | arr values =>
    rw [withFlags]
    congr 1
    refine List.ext_getElem? fun index => ?_
    rw [withFlagsItems_getElem?]
    simp only [resolve, positionRule, itemRule, List.getElem?_nil, Option.getD_none]
    rw [show withFlags definitions .always = id from funext (withFlags_always definitions)]
    simp
  | obj fields =>
    rw [withFlags, withFlagsFields_eq_map]
    simp [resolve, fieldRule, propertyRule, lookup, withFlags_always]
  | _ => simp [withFlags]

theorem withFlags_num (hconstant : ∀ b, own.constant ≠ some (.bool b)) (c : Int) (scale : Nat) :
    withFlags definitions (.keywords own properties additional prefixItems items)
      (.num c scale) = .num c scale := by
  have hnone : flagConstant (resolve definitions
      (.keywords own properties additional prefixItems items)) = none := by
    unfold flagConstant resolve
    dsimp only
    split
    · rename_i b hb
      exact absurd hb (hconstant b)
    · rfl
  rw [withFlags, hnone]

/-- A value of the document of exact integers has the types it is accepted for. -/
theorem matchesType_eq (hv : v.integral = true) (t : JsonType) :
    matchesType v t = hasType t v := by
  cases v with
  | num c scale =>
    rw [Json.integral, beq_iff_eq] at hv
    subst hv
    cases t <;> simp [matchesType, hasType]
  | _ => cases t <;> rfl

/-- The type is kept where no flag is fixed. -/
theorem hasType_withFlags (hconstant : ∀ b, own.constant ≠ some (.bool b)) (t : JsonType) :
    hasType t (withFlags definitions (.keywords own properties additional prefixItems items) v) =
      hasType t v := by
  cases v with
  | num c scale => rw [withFlags_num hconstant]
  | arr values => rw [withFlags]; cases t <;> rfl
  | obj fields => rw [withFlags]; cases t <;> rfl
  | _ => rw [withFlags] <;> simp

/-- The checks of constants and types. -/
theorem checkKeywords_ok_iff : checkKeywords own v path = .ok () ↔
    ((∀ c, own.constant = some c → pyEqual v c = true) ∧
      (∀ cs, own.enum = some cs → ∃ c ∈ cs, pyEqual v c = true) ∧
      ∀ ts, own.types = some ts → ∃ t ∈ ts, matchesType v t = true) ∧
    (match v with
      | .str s => checkString own s path
      | .num c 0 => checkInteger own c path
      | _ => .ok ()) = .ok () := by
  simp only [checkKeywords, bind_eq_ok, require_eq_ok, exists_and_left, Option.all_eq_true,
    List.any_eq_true, and_assoc]
  rw [exists_const]
  refine and_congr_right fun _ => and_congr_right fun _ => and_congr_right fun _ => ?_
  constructor
  · rintro ⟨_, _, h⟩
    exact h
  · intro h
    exact ⟨(), (), h⟩

theorem checkString_ok_iff {s : String} : checkString own s path = .ok () ↔
    (∀ n, own.minLength = some n → n ≤ s.length) ∧
      (∀ n, own.maxLength = some n → s.length ≤ n) ∧
      ∀ r, own.pattern = some r → r.fullmatch s = true := by
  simp only [checkString, bind_eq_ok, require_eq_ok, exists_and_left, Option.all_eq_true,
    decide_eq_true_eq]
  simp

theorem checkInteger_ok_iff {c : Int} : checkInteger own c path = .ok () ↔
    (∀ n, own.minimum = some n → n ≤ c) ∧ ∀ n, own.maximum = some n → c ≤ n := by
  simp only [checkInteger, bind_eq_ok, require_eq_ok, exists_and_left, Option.all_eq_true,
    decide_eq_true_eq]
  simp

/-- The checks of constants and types are those of the schema, where no flag is fixed. -/
theorem holdAny_iff (hconstant : ∀ b, own.constant ≠ some (.bool b))
    (hplain : own.constant.all isPlain = true)
    (henum : own.enum.all (fun cs => cs.all isPlain) = true)
    (hchildren : own.constant.isNone = true ∧ own.enum.isNone = true ∨
      noChildren properties additional prefixItems items = true) (hv : v.integral = true) :
    ((∀ c, own.constant = some c → pyEqual v c = true) ∧
      (∀ cs, own.enum = some cs → ∃ c ∈ cs, pyEqual v c = true) ∧
      ∀ ts, own.types = some ts → ∃ t ∈ ts, matchesType v t = true) ↔
    own.HoldAny (withFlags definitions
      (.keywords own properties additional prefixItems items) v) := by
  have htypes : (∀ ts, own.types = some ts → ∃ t ∈ ts, matchesType v t = true) ↔
      ∀ ts, own.types = some ts → ∃ t ∈ ts, hasType t (withFlags definitions
        (.keywords own properties additional prefixItems items) v) = true := by
    simp only [hasType_withFlags hconstant, matchesType_eq hv]
  have hequal : ∀ c, isPlain c = true → (own.constant = some c ∨ ∃ cs, own.enum = some cs) →
      pyEqual v c = Json.sameValue (withFlags definitions
        (.keywords own properties additional prefixItems items) v) c := by
    intro c hc hsome
    have hno : noChildren properties additional prefixItems items = true := by
      rcases hchildren with ⟨hnone, hnone'⟩ | hno
      · rcases hsome with hsome | ⟨cs, hsome⟩
        · rw [hsome] at hnone
          cases hnone
        · rw [hsome] at hnone'
          cases hnone'
      · exact hno
    rw [withFlags_noChildren hconstant hno, pyEqual_of_plain v c hc]
  have hconst : ∀ c, own.constant = some c → (pyEqual v c = true ↔ Json.sameValue
      (withFlags definitions (.keywords own properties additional prefixItems items) v) c =
        true) := by
    intro c hc
    rw [hc, Option.all_some] at hplain
    rw [hequal c hplain (.inl hc)]
  have hen : ∀ cs, own.enum = some cs → ((∃ c ∈ cs, pyEqual v c = true) ↔ ∃ c ∈ cs,
      Json.sameValue (withFlags definitions
        (.keywords own properties additional prefixItems items) v) c = true) := by
    intro cs hcs
    rw [hcs, Option.all_some, List.all_eq_true] at henum
    refine exists_congr fun c => and_congr_right fun hc => ?_
    rw [hequal c (henum c hc) (.inr ⟨cs, hcs⟩)]
  constructor
  · rintro ⟨hc, he, ht⟩
    exact ⟨fun c h => (hconst c h).mp (hc c h), fun cs h => (hen cs h).mp (he cs h),
      htypes.mp ht⟩
  · rintro ⟨hc, he, ht⟩
    exact ⟨fun c h => (hconst c h).mpr (hc c h), fun cs h => (hen cs h).mpr (he cs h),
      htypes.mpr ht⟩

end OneRule

/-! ## Arrays of distinct strings -/

section Strings

variable {definitions : List (String × Rule)} {own : Keywords} {v : Json}

theorem sameValue_string {c : Json} (h : Json.sameValue v c = true) (hc : isString c = true) :
    ∃ s, v = .str s := by
  cases c with
  | str s =>
    cases v <;> simp [Json.sameValue, Json.equalBy, Json.isScalar, Json.same] at h
    exact ⟨_, rfl⟩
  | _ => cases hc

theorem HoldAny.string (h : own.HoldAny v) (hstrings : onlyStringKeywords own = true) :
    ∃ s, v = .str s := by
  simp only [onlyStringKeywords, Bool.or_eq_true, Option.any_eq_true, List.all_eq_true,
    beq_iff_eq] at hstrings
  rcases hstrings with (⟨c, hc, hstring⟩ | ⟨cs, hcs, hall⟩) | ⟨ts, hts, hall⟩
  · exact sameValue_string (h.constant c hc) hstring
  · obtain ⟨c, hc, hsame⟩ := h.enum cs hcs
    exact sameValue_string hsame (hall c hc)
  · obtain ⟨t, ht, hhas⟩ := h.types ts hts
    rw [hall t ht] at hhas
    cases v <;> simp [hasType] at hhas
    exact ⟨_, rfl⟩

/-- What is valid under a rule for strings is a string. -/
theorem Valid.string {rule : Rule} (h : Valid definitions rule v)
    (hstrings : onlyStrings definitions rule = true) : ∃ s, v = .str s := by
  have hkeywords : ∀ rule', resolve definitions rule = rule' → Valid definitions rule' v →
      ∃ s, v = .str s := by
    intro rule' hrule hvalid
    rw [onlyStrings, hrule] at hstrings
    cases rule' with
    | keywords own properties additional prefixItems items =>
      exact HoldAny.string (valid_keywords_iff.mp hvalid).1.any hstrings
    | _ => cases hstrings
  cases rule with
  | ref name =>
    obtain ⟨rule', hlookup, hvalid⟩ := valid_ref_iff.mp h
    exact hkeywords rule' (by simp [resolve, hlookup]) hvalid
  | _ => exact hkeywords _ rfl h

theorem text_injective {s t : String} (h : JsonText.stringText s = JsonText.stringText t) :
    s = t := by
  have hs := JsonText.loads_text (v := .str s) rfl
  have ht := JsonText.loads_text (v := .str t) rfl
  rw [JsonText.text, h] at hs
  rw [JsonText.text, hs] at ht
  simpa using ht

theorem collect_canonical (strings : List String) :
    collect canonicalJsonBytes (strings.map Json.str) =
      .ok (strings.map JsonText.stringText) := by
  induction strings with
  | nil => rfl
  | cons s strings ih =>
    rw [List.map_cons, collect, ih]
    rfl

theorem pairwise_strings (strings : List String) :
    (strings.map JsonText.stringText).Nodup ↔
      (strings.map Json.str).Pairwise fun a b => Json.sameValue a b = false := by
  rw [List.nodup_map_iff fun s t => text_injective, List.pairwise_map, List.Nodup]
  refine List.Pairwise.iff fun s t => ?_
  simp [Json.sameValue, Json.equalBy, Json.isScalar, Json.same]

theorem exists_strings {values : List Json} (h : ∀ w ∈ values, ∃ s, w = .str s) :
    ∃ strings : List String, values = strings.map Json.str := by
  induction values with
  | nil => exact ⟨[], rfl⟩
  | cons w values ih =>
    obtain ⟨s, rfl⟩ := h w List.mem_cons_self
    obtain ⟨strings, rfl⟩ := ih fun w hw => h w (List.mem_cons_of_mem _ hw)
    exact ⟨s :: strings, rfl⟩

/-- The length and the distinctness of an array of strings. -/
theorem checkLength_ok_iff {values : List Json} {path : String}
    (hstrings : own.uniqueItems = true → ∀ w ∈ values, ∃ s, w = .str s) :
    checkLength own values path = .ok () ↔
      (∀ n, own.minItems = some n → n ≤ values.length) ∧
      (∀ n, own.maxItems = some n → values.length ≤ n) ∧
      (own.uniqueItems = true → values.Pairwise fun a b => Json.sameValue a b = false) := by
  simp only [checkLength, bind_eq_ok, require_eq_ok, exists_const, Option.all_eq_true,
    decide_eq_true_eq]
  refine and_congr_right fun _ => and_congr_right fun _ => ?_
  cases hunique : own.uniqueItems with
  | false => simp [pure, Except.pure]
  | true =>
    obtain ⟨strings, rfl⟩ := exists_strings (hstrings hunique)
    rw [if_pos rfl, bind_eq_ok, collect_canonical]
    simp only [Except.ok.injEq, exists_eq_left', require_eq_ok, decide_eq_true_eq,
      pairwise_strings, true_imp_iff]

end Strings

/-! ## The induction -/

section Agreement

variable {definitions : List (String × Rule)} {own : Keywords}
  {properties : List (String × Rule)} {additional : Rule} {prefixItems : List Rule} {items : Rule}
  {v : Json} {path : String}

theorem eq_always_of_isTrue {rule : Rule} (h : isTrue rule = true) : rule = .always := by
  cases rule <;> first | rfl | cases h

theorem valid_always_iff {rule : Rule} (h : isTrue rule = true) {v : Json} :
    Valid definitions rule v := by
  rw [eq_always_of_isTrue h]
  exact .always v

theorem check_bind_eq_ok {ε β : Type} {check : Except ε Unit} {next : Unit → Except ε β} {r : β} :
    (check >>= next) = .ok r ↔ check = .ok () ∧ next () = .ok r := by
  rw [bind_eq_ok, Unique.exists_iff]

/-- The checks of a rule of keywords. -/
theorem visit_keywords_ok_iff {left : Nat} :
    visit definitions (left + 1) (.keywords own properties additional prefixItems items) v path =
        .ok () ↔
      checkKeywords own v path = .ok () ∧
      (∀ fields, v = .obj fields →
        checkKeys own properties additional (fields.map Prod.fst) path = .ok () ∧
        forEach (fun field =>
          let rule := propertyRule properties additional field.1
          if isTrue rule then .ok ()
          else visit definitions left rule field.2 (path ++ "." ++ field.1)) fields = .ok ()) ∧
      ∀ values, v = .arr values →
        checkLength own values path = .ok () ∧
        forEach (fun entry : Json × Nat =>
          if entry.2 < prefixItems.length ∨ isTrue items = false then
            visit definitions left (itemRule prefixItems items entry.2) entry.1
              (path ++ "[" ++ toString entry.2 ++ "]")
          else .ok ()) values.zipIdx = .ok () := by
  cases v <;> simp [visit, check_bind_eq_ok]

/-- A rule that fixes a flag. -/
theorem visit_flag_ok_iff {b : Bool} (hflag : own.constant = some (.bool b))
    (henum : own.enum = none) (htypes : own.types = none) (hmin : own.minimum = none)
    (hmax : own.maximum = none) (left : Nat) :
    visit definitions (left + 1) (.keywords own properties additional prefixItems items) v path =
        .ok () ↔
      Valid definitions (.keywords own properties additional prefixItems items)
        (withFlags definitions (.keywords own properties additional prefixItems items) v) := by
  have hvalid : ∀ w, Valid definitions (.keywords own properties additional prefixItems items) w ↔
      Json.sameValue w (.bool b) = true := by
    intro w
    constructor
    · exact fun h => (valid_keywords_iff.mp h).1.constant _ hflag
    · intro h
      obtain rfl : w = .bool b := by
        cases w <;> simp [Json.sameValue, Json.equalBy, Json.isScalar, Json.same] at h
        rw [h]
      refine valid_keywords_iff.mpr ⟨Keywords.hold_bool.mpr ⟨?_, ?_, ?_⟩, ?_, ?_⟩
      · rintro c hc
        rw [hflag, Option.some.injEq] at hc
        rw [← hc, h]
      · simp [henum]
      · simp [htypes]
      · rintro _ ⟨⟩
      · rintro _ ⟨⟩
  rw [hvalid, ← flag_iff hflag, visit_keywords_ok_iff, checkKeywords_ok_iff]
  simp only [hflag, henum, htypes, Option.some.injEq, forall_eq', reduceCtorEq, false_imp_iff,
    implies_true, and_true]
  constructor
  · exact fun h => h.1.1
  · intro h
    cases v with
    | bool a => exact ⟨⟨h, rfl⟩, by rintro _ ⟨⟩, by rintro _ ⟨⟩⟩
    | num c scale =>
      refine ⟨⟨h, ?_⟩, by rintro _ ⟨⟩, by rintro _ ⟨⟩⟩
      cases scale with
      | zero => simp [checkInteger_ok_iff, hmin, hmax]
      | succ scale => rfl
    | _ => simp [pyEqual, Json.equalBy, pyLeaf, Json.isScalar, Json.same] at h

theorem checkKeys_ok_iff {keys : List String} : checkKeys own properties additional keys path =
      .ok () ↔ (∀ key ∈ own.required, key ∈ keys) ∧
        (isFalse additional = true → ∀ key ∈ keys, key ∈ properties.map Prod.fst) := by
  simp only [checkKeys, bind_eq_ok, require_eq_ok, exists_const, List.isEmpty_iff,
    List.filter_eq_nil_iff, Bool.not_eq_true', Bool.and_eq_false_iff]
  simp [imp_iff_not_or]

/-- The fields of an object. -/
theorem fields_ok_iff {left : Nat} {fields : List (String × Json)}
    (hproper : ∀ key, isProper definitions (propertyRule properties additional key) = true)
    (hchild : ∀ w, Inside w (.obj fields) → ∀ rule, isProper definitions rule = true → ∀ path,
      (visit definitions left rule w path = .ok () ↔
        Valid definitions rule (withFlags definitions rule w))) :
    forEach (fun field =>
        let rule := propertyRule properties additional field.1
        if isTrue rule then .ok ()
        else visit definitions left rule field.2 (path ++ "." ++ field.1)) fields = .ok () ↔
      ∀ field ∈ fields, Valid definitions (propertyRule properties additional field.1)
        (withFlags definitions (propertyRule properties additional field.1) field.2) := by
  rw [forEach_eq_ok]
  refine forall₂_congr fun field hfield => ?_
  dsimp only
  split
  · rename_i htrue
    exact iff_of_true rfl (valid_always_iff htrue)
  · exact hchild field.2 (.inl ⟨fields, field.1, rfl, hfield⟩) _ (hproper _) _

/-- The items of an array. -/
theorem items_ok_iff {left : Nat} {values : List Json}
    (hproper : ∀ index, isProper definitions (itemRule prefixItems items index) = true)
    (hchild : ∀ w, Inside w (.arr values) → ∀ rule, isProper definitions rule = true → ∀ path,
      (visit definitions left rule w path = .ok () ↔
        Valid definitions rule (withFlags definitions rule w))) :
    forEach (fun entry : Json × Nat =>
        if entry.2 < prefixItems.length ∨ isTrue items = false then
          visit definitions left (itemRule prefixItems items entry.2) entry.1
            (path ++ "[" ++ toString entry.2 ++ "]")
        else .ok ()) values.zipIdx = .ok () ↔
      ∀ index item, values[index]? = some item → Valid definitions
        (itemRule prefixItems items index)
        (withFlags definitions (itemRule prefixItems items index) item) := by
  rw [forEach_eq_ok, Prod.forall, forall_comm]
  refine forall₂_congr fun index item => ?_
  rw [List.mem_zipIdx_iff_getElem?]
  refine imp_congr_right fun hitem => ?_
  dsimp only
  split
  · exact hchild item (.inr ⟨values, rfl, List.mem_of_getElem? hitem⟩) _ (hproper _) _
  · rename_i hrule
    rw [not_or, not_lt, Bool.not_eq_false] at hrule
    have hitems : itemRule prefixItems items index = items := by
      rw [itemRule, List.getElem?_eq_none hrule.1, Option.getD_none]
    rw [hitems]
    exact iff_of_true rfl (valid_always_iff hrule.2)

/-- What is inside a valid object is inside its properties where no others are allowed. -/
theorem mem_properties_of_valid {key : String} {w : Json}
    (h : Valid definitions (propertyRule properties additional key) w)
    (hadditional : isFalse additional = true) : key ∈ properties.map Prod.fst := by
  obtain rfl : additional = .never := by
    cases additional <;> first | rfl | cases hadditional
  unfold propertyRule at h
  cases hlookup : lookup properties key with
  | none =>
    rw [hlookup] at h
    exact absurd h not_valid_never
  | some rule =>
    obtain ⟨entry, hfind, -⟩ := Option.map_eq_some_iff.mp hlookup
    have hkey : entry.1 = key := by simpa using List.find?_some hfind
    exact hkey ▸ List.mem_map_of_mem (List.mem_of_find?_eq_some hfind)

theorem fixesFlag_iff : fixesFlag own = true ↔ (∃ b, own.constant = some (.bool b)) ∧
    own.enum = none ∧ own.types = none ∧ own.minimum = none ∧ own.maximum = none := by
  unfold fixesFlag
  simp only [Bool.and_eq_true, Option.isNone_iff_eq_none, and_assoc]
  refine and_congr_left fun _ => ?_
  split
  · rename_i b hb
    exact iff_of_true rfl ⟨b, hb⟩
  · rename_i hother
    exact iff_of_false (by simp) fun ⟨b, hb⟩ => hother b hb

/-- A rule that fixes no flag, when the checker and the schema agree on what is inside. -/
theorem visit_plain_ok_iff {left : Nat}
    (hproper : isProper definitions
      (.keywords own properties additional prefixItems items) = true)
    (hflag : fixesFlag own = false) (hv : v.integral = true)
    (hchild : ∀ w, Inside w v → ∀ rule, isProper definitions rule = true → ∀ path,
      (visit definitions left rule w path = .ok () ↔
        Valid definitions rule (withFlags definitions rule w))) :
    visit definitions (left + 1) (.keywords own properties additional prefixItems items) v path =
        .ok () ↔
      Valid definitions (.keywords own properties additional prefixItems items)
        (withFlags definitions (.keywords own properties additional prefixItems items) v) := by
  obtain ⟨hown, hchildren, hunique, hproperties, hpositions⟩ := isProper_keywords hproper
  simp only [keywordsAreProper, hflag, Bool.false_or, Bool.and_eq_true] at hown
  obtain ⟨⟨hplain, henum⟩, hpattern⟩ := hown
  have hconstant : ∀ b, own.constant ≠ some (.bool b) := by
    intro b hb
    rw [hb] at hplain
    cases hplain
  have hany := @holdAny_iff definitions _ _ _ _ _ _ hconstant hplain henum hchildren hv
  rw [visit_keywords_ok_iff, checkKeywords_ok_iff, hany, valid_keywords_iff]
  cases v with
  | null =>
    rw [show withFlags definitions _ Json.null = .null from rfl, Keywords.hold_null]
    simp
  | bool b =>
    rw [show withFlags definitions _ (Json.bool b) = .bool b from rfl, Keywords.hold_bool]
    simp
  | str s =>
    rw [show withFlags definitions _ (Json.str s) = .str s from rfl, Keywords.hold_str]
    have hsearch : (∀ r, own.pattern = some r → r.fullmatch s = true) ↔
        ∀ r, own.pattern = some r → r.search s = true := by
      refine forall₂_congr fun r hr => ?_
      rw [hr, Option.all_some] at hpattern
      rw [Regex.fullmatch_eq_search hpattern]
    simp [checkString_ok_iff, hsearch]
  | num c scale =>
    obtain rfl : scale = 0 := by simpa [Json.integral] using hv
    rw [withFlags_num hconstant, Keywords.hold_num]
    simp [checkInteger_ok_iff]
  | obj fields =>
    have hshape : withFlags definitions
        (.keywords own properties additional prefixItems items) (.obj fields) =
          .obj (withFlagsFields definitions
            (.keywords own properties additional prefixItems items) fields) := rfl
    have hkeys : (withFlagsFields definitions
        (.keywords own properties additional prefixItems items) fields).map Prod.fst =
          fields.map Prod.fst := by
      rw [withFlagsFields_eq_map, List.map_map]
      rfl
    have hvalid : (∀ field ∈ withFlagsFields definitions
          (.keywords own properties additional prefixItems items) fields,
        Valid definitions (propertyRule properties additional field.1) field.2) ↔
        ∀ field ∈ fields, Valid definitions (propertyRule properties additional field.1)
          (withFlags definitions (propertyRule properties additional field.1) field.2) := by
      rw [withFlagsFields_eq_map, List.forall_mem_map]
      rfl
    rw [hshape, Keywords.hold_obj, hkeys]
    simp only [Json.obj.injEq, forall_eq', reduceCtorEq, false_imp_iff, implies_true, and_true,
      hvalid, checkKeys_ok_iff, fields_ok_iff hproperties hchild]
    constructor
    · exact fun ⟨hheld, ⟨hrequired, _⟩, hfields⟩ => ⟨⟨hheld, hrequired⟩, hfields⟩
    · rintro ⟨⟨hheld, hrequired⟩, hfields⟩
      refine ⟨hheld, ⟨hrequired, fun hadditional key hkey => ?_⟩, hfields⟩
      obtain ⟨field, hfield, rfl⟩ := List.mem_map.mp hkey
      exact mem_properties_of_valid (hfields field hfield) hadditional
  | arr values =>
    have hshape : withFlags definitions
        (.keywords own properties additional prefixItems items) (.arr values) =
          .arr (withFlagsItems definitions
            (.keywords own properties additional prefixItems items) 0 values) := rfl
    have hget : ∀ index, (withFlagsItems definitions
        (.keywords own properties additional prefixItems items) 0 values)[index]? =
          values[index]?.map (withFlags definitions (itemRule prefixItems items index)) := by
      intro index
      rw [withFlagsItems_getElem?, Nat.zero_add]
      rfl
    have hvalid : (∀ index item, (withFlagsItems definitions
          (.keywords own properties additional prefixItems items) 0 values)[index]? = some item →
        Valid definitions (itemRule prefixItems items index) item) ↔
        ∀ index item, values[index]? = some item → Valid definitions
          (itemRule prefixItems items index)
          (withFlags definitions (itemRule prefixItems items index) item) := by
      refine forall_congr' fun index => ?_
      rw [hget]
      simp
    rw [hshape, Keywords.hold_arr, length_withFlagsItems]
    simp only [Json.arr.injEq, forall_eq', reduceCtorEq, false_imp_iff, implies_true, and_true,
      true_and, hvalid, items_ok_iff hpositions hchild]
    rw [and_assoc, and_congr_right_iff]
    intro _
    refine and_congr_left fun hitems => ?_
    -- Where the items have to be distinct they are strings, and no flag is replaced.
    have hstrings : own.uniqueItems = true → ∀ w ∈ values, ∃ s, w = .str s := by
      intro hyes w hw
      obtain ⟨hfirst, honly⟩ := hunique hyes
      obtain ⟨index, hindex⟩ := List.mem_iff_getElem?.mp hw
      have hitem := hitems index w hindex
      rw [itemRule, hfirst, List.getElem?_nil, Option.getD_none] at hitem
      obtain ⟨s, hs⟩ := Valid.string hitem honly
      exact ⟨s, withFlags_str.mp hs⟩
    rw [checkLength_ok_iff hstrings]
    refine and_congr_right fun _ => and_congr_right fun _ => imp_congr_right fun hyes => ?_
    have hsame : withFlagsItems definitions
        (.keywords own properties additional prefixItems items) 0 values = values := by
      refine List.ext_getElem? fun index => ?_
      rw [hget]
      cases hindex : values[index]? with
      | none => rfl
      | some w =>
        obtain ⟨s, rfl⟩ := hstrings hyes w (List.mem_of_getElem? hindex)
        rfl
    rw [hsame]

theorem resolve_of_not_ref {rule : Rule} (h : isRef rule = false) :
    resolve definitions rule = rule := by
  cases rule <;> first | rfl | cases h

/-- What is replaced depends on the rule behind a reference only. -/
theorem withFlags_congr {rule rule' : Rule}
    (h : resolve definitions rule = resolve definitions rule') (v : Json) :
    withFlags definitions rule v = withFlags definitions rule' v := by
  cases v <;> simp [withFlags, h]

/-- The induction on the depth: a rule takes one level of the visit, a reference one more. -/
theorem visit_ok_iff (hdefinitions : areProperProperties definitions definitions = true)
    (hrefs : ∀ definition ∈ definitions, isRef definition.2 = false) (depth : Nat) :
    ∀ v, v.depth ≤ depth → v.integral = true → ∀ rule, isProper definitions rule = true →
      ∀ left path, (2 * depth + 2 ≤ left ∨ isRef rule = false ∧ 2 * depth + 1 ≤ left) →
      (visit definitions left rule v path = .ok () ↔
        Valid definitions rule (withFlags definitions rule v)) := by
  induction depth using Nat.strong_induction_on with
  | _ depth ih =>
    intro v hdepth hv
    -- First the rules that are no references.
    have hdirect : ∀ rule, isProper definitions rule = true → isRef rule = false → ∀ left path,
        2 * depth + 1 ≤ left → (visit definitions left rule v path = .ok () ↔
          Valid definitions rule (withFlags definitions rule v)) := by
      intro rule hrule href left path hleft
      obtain ⟨left, rfl⟩ : ∃ n, left = n + 1 := ⟨left - 1, by omega⟩
      cases rule with
      | always => exact iff_of_true (by simp [visit]) (.always _)
      | never => exact iff_of_false (by simp [visit]) not_valid_never
      | ref name => cases href
      | keywords own properties additional prefixItems items =>
        cases hflag : fixesFlag own with
        | true =>
          obtain ⟨⟨b, hb⟩, henum, htypes, hmin, hmax⟩ := fixesFlag_iff.mp hflag
          exact visit_flag_ok_iff hb henum htypes hmin hmax left
        | false =>
          refine visit_plain_ok_iff hrule hflag hv fun w hw rule hrule path => ?_
          have hless := hw.depth
          exact ih (depth - 1) (by omega) w (by omega) (hw.integral hv) rule hrule left path
            (.inl (by omega))
    intro rule hrule left path hleft
    rcases hleft with hleft | ⟨href, hleft⟩
    · cases rule with
      | ref name =>
        obtain ⟨left, rfl⟩ : ∃ n, left = n + 1 := ⟨left - 1, by omega⟩
        rw [visit, valid_ref_iff]
        cases hlookup : lookup definitions name with
        | none => simp
        | some definition =>
          have href : isRef definition = false := by
            obtain ⟨entry, hfind, rfl⟩ := Option.map_eq_some_iff.mp hlookup
            exact hrefs entry (List.mem_of_find?_eq_some hfind)
          have hresolve : resolve definitions (.ref name) = resolve definitions definition := by
            rw [resolve_of_not_ref href, resolve, hlookup, Option.getD_some]
          simp only [Option.some.injEq, exists_eq_left', withFlags_congr hresolve]
          exact hdirect _ (isProper_of_lookup hdefinitions hlookup) href left path (by omega)
      | always => exact hdirect _ hrule rfl left path (by omega)
      | never => exact hdirect _ hrule rfl left path (by omega)
      | keywords => exact hdirect _ hrule rfl left path (by omega)
    · exact hdirect rule hrule href left path hleft

end Agreement

/-- A value that is valid writes no flag as a number. -/
theorem withFlags_of_valid {definitions : List (String × Rule)}
    (hrefs : ∀ definition ∈ definitions, isRef definition.2 = false) {rule : Rule} {v : Json}
    (h : Valid definitions rule v) : withFlags definitions rule v = v := by
  induction h with
  | always v => exact withFlags_always definitions v
  | @ref name rule v hlookup hrule ih =>
    have href : isRef rule = false := by
      obtain ⟨entry, hfind, rfl⟩ := Option.map_eq_some_iff.mp hlookup
      exact hrefs entry (List.mem_of_find?_eq_some hfind)
    refine Eq.trans (withFlags_congr ?_ v) ih
    rw [resolve_of_not_ref href, resolve, hlookup, Option.getD_some]
  | @keywords own properties additional prefixItems items v hown _ _ ihfields ihitems =>
    cases v with
    | num c scale =>
      by_cases hconstant : ∃ b, own.constant = some (.bool b)
      · obtain ⟨b, hb⟩ := hconstant
        have hsame := hown.constant _ hb
        simp [Json.sameValue, Json.equalBy, Json.isScalar, Json.same] at hsame
      · exact withFlags_num (fun b hb => hconstant ⟨b, hb⟩) c scale
    | arr values =>
      rw [withFlags]
      congr 1
      refine List.ext_getElem? fun index => ?_
      rw [withFlagsItems_getElem?, Nat.zero_add]
      cases hindex : values[index]? with
      | none => rfl
      | some w => exact congrArg some (ihitems values rfl index w hindex)
    | obj fields =>
      rw [withFlags, withFlagsFields_eq_map]
      congr 1
      calc fields.map (fun field => (field.1, withFlags definitions
              (fieldRule (.keywords own properties additional prefixItems items) field.1)
              field.2))
          = fields.map id := List.map_congr_left fun field hfield =>
              Prod.ext rfl (ihfields fields rfl field hfield)
        _ = fields := List.map_id fields
    | _ => rfl

/-- The checker accepts a document of at most twenty levels exactly when it is valid with the
    numbers that stand for flags read as flags. -/
theorem validate_iff {schema : Schema} (hschema : schemaIsProper schema = true) {v : Json}
    (hv : v.integral = true) (hdepth : v.depth ≤ 20) :
    validateJsonSchemaInstance v schema = .ok () ↔
      schema.Accepts (withFlags schema.definitions schema.root v) := by
  simp only [schemaIsProper, Bool.and_eq_true, List.all_eq_true, Bool.not_eq_true'] at hschema
  obtain ⟨⟨hroot, hdefinitions⟩, hrefs⟩ := hschema
  exact visit_ok_iff hdefinitions hrefs 20 v hdepth hv schema.root hroot _ _
    (.inl (by decide))

/-- The checker and the schema agree on a document exactly when it writes no flag as a number, or
    is invalid also with the flags themselves. -/
theorem agree_iff {schema : Schema} (hschema : schemaIsProper schema = true) {v : Json}
    (hv : v.integral = true) (hdepth : v.depth ≤ 20) :
    (validateJsonSchemaInstance v schema = .ok () ↔ schema.Accepts v) ↔
      withFlags schema.definitions schema.root v = v ∨
        ¬schema.Accepts (withFlags schema.definitions schema.root v) := by
  have hrefs : ∀ definition ∈ schema.definitions, isRef definition.2 = false := by
    simp only [schemaIsProper, Bool.and_eq_true, List.all_eq_true, Bool.not_eq_true'] at hschema
    exact hschema.2
  have hvalid : schema.Accepts v → withFlags schema.definitions schema.root v = v :=
    withFlags_of_valid hrefs
  rw [validate_iff hschema hv hdepth]
  constructor
  · intro h
    by_cases haccepts : schema.Accepts (withFlags schema.definitions schema.root v)
    · exact .inl (hvalid (h.mp haccepts))
    · exact .inr haccepts
  · rintro (heq | hrejects)
    · rw [heq]
    · exact iff_of_false hrejects fun haccepts => hrejects (by rwa [hvalid haccepts])

end Custombuild.Manufacturing.Quality
