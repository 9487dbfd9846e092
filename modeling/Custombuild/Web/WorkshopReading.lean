/-
  What the two readings of a workshop context accept, said once for both: the JSON value of every
  declaration, and the checks that it passes.
-/
import Mathlib.Tactic.Ring
import Custombuild.Api.WorkshopSchemas

namespace Custombuild.Web.Workshop

open Custombuild.Lib Custombuild.Domain Custombuild.Api.Workshop
open Custombuild.Manufacturing (Point2D)

/-! ## Readers -/

section Readers

variable {value : Json} {path name : String}

theorem mem_keys_of_get {found : Json} (h : value.get name = some found) : name ∈ value.keys := by
  cases value with
  | obj fields =>
    simp only [Json.get, Option.map_eq_some_iff] at h
    obtain ⟨field, hfield, -⟩ := h
    have hname := List.find?_some hfield
    rw [beq_iff_eq] at hname
    rw [← hname]
    exact List.mem_map_of_mem (List.mem_of_find?_eq_some hfield)
  | _ => cases h

/-- A member of an object is integral when the object is. -/
theorem integral_of_get {found : Json} (hvalue : value.integral = true)
    (h : value.get name = some found) : found.integral = true := by
  cases value with
  | obj fields =>
    simp only [Json.get, Option.map_eq_some_iff] at h
    obtain ⟨field, hfield, rfl⟩ := h
    rw [Json.integral, Bool.and_eq_true] at hvalue
    exact Json.integral_of_mem_fields hvalue.2 (List.mem_of_find?_eq_some hfield)
  | _ => cases h

/-- The value is an object with these members at most. -/
def HasKeys (value : Json) (names : List String) : Prop :=
  value.typeName = "object" ∧ ∀ key ∈ value.keys, key ∈ names

theorem forbidExtra_eq_ok {names : List String} {u : Unit} :
    forbidExtra value names = .ok u ↔ HasKeys value names := by
  simp only [forbidExtra, bind_eq_ok, require_eq_ok, decide_eq_true_eq, List.all_eq_true,
    List.contains_iff_mem, exists_const, HasKeys]

theorem record_eq_ok {u : Unit} : record value path = .ok u ↔ value.typeName = "object" := by
  cases value <;> simp [record, Json.typeName]

theorem exactKeys_eq_ok {required optional : List String} {u : Unit} :
    exactKeys value required optional path = .ok u ↔
      (∀ key ∈ value.keys, key ∈ required ++ optional) ∧ ∀ key ∈ required, key ∈ value.keys := by
  simp only [exactKeys, bind_eq_ok, require_eq_ok, List.all_eq_true, List.contains_iff_mem,
    exists_const]

/-- A member with an integer in a range. -/
def IntMember (value : Json) (name : String) (low high n : Int) : Prop :=
  value.get name = some (.num n 0) ∧ low ≤ n ∧ n ≤ high

theorem strictInt_eq_ok {low high n : Int} :
    strictInt value name low high = .ok n ↔ IntMember value name low high n := by
  unfold strictInt IntMember
  cases hget : value.get name with
  | none => simp
  | some found =>
    cases found with
    | num coefficient scale =>
      cases scale with
      | zero =>
        by_cases hrange : low ≤ coefficient ∧ coefficient ≤ high
        · simp only [if_pos hrange, Except.ok.injEq, Option.some.injEq, Json.num.injEq, and_true]
          constructor
          · rintro rfl
            exact ⟨rfl, hrange⟩
          · rintro ⟨rfl, -⟩
            rfl
        · simp only [if_neg hrange, reduceCtorEq, Option.some.injEq, Json.num.injEq, and_true,
            false_iff, not_and]
          rintro rfl hlow hhigh
          exact hrange ⟨hlow, hhigh⟩
      | succ scale => simp
    | _ => simp

theorem exactInteger_eq_ok {low high n : Int} (hvalue : value.integral = true)
    (hlow : 0 ≤ low) (hhigh : high ≤ 10000000) :
    exactInteger (value.get name) path low high = .ok n ↔ IntMember value name low high n := by
  unfold exactInteger IntMember
  cases hget : value.get name with
  | none => simp
  | some found =>
    have hfound := integral_of_get hvalue hget
    cases found with
    | num coefficient scale =>
      obtain rfl : scale = 0 := by simpa [Json.integral] using hfound
      have hquotient : coefficient / 10 ^ 0 = coefficient := by simp
      have hremainder : coefficient % 10 ^ 0 = 0 := by simp
      simp only [hquotient, hremainder, true_and, Option.some.injEq, Json.num.injEq, and_true]
      by_cases hrange : low ≤ coefficient ∧ coefficient ≤ high
      · rw [if_pos ⟨by omega, by omega, hrange⟩, Except.ok.injEq]
        constructor
        · rintro rfl
          exact ⟨rfl, hrange⟩
        · rintro ⟨rfl, -⟩
          rfl
      · rw [if_neg fun h => hrange h.2.2]
        simp only [reduceCtorEq, false_iff, not_and]
        rintro rfl hlow hhigh
        exact hrange ⟨hlow, hhigh⟩
    | _ => simp

/-- A member with an identity. -/
def IdentityMember (value : Json) (name text : String) : Prop :=
  value.get name = some (.str text) ∧ 1 ≤ text.length ∧ text.length ≤ 64 ∧
    matchesIdentityPattern text = true

theorem workshopIdentity_eq_ok {text : String} :
    workshopIdentity value name = .ok text ↔ IdentityMember value name text := by
  unfold workshopIdentity IdentityMember
  cases hget : value.get name with
  | none => simp
  | some found =>
    cases found with
    | str given =>
      by_cases hvalid : 1 ≤ given.length ∧ given.length ≤ 64 ∧ matchesIdentityPattern given = true
      · simp only [if_pos hvalid, Except.ok.injEq, Option.some.injEq, Json.str.injEq]
        constructor
        · rintro rfl
          exact ⟨rfl, hvalid⟩
        · rintro ⟨rfl, -⟩
          rfl
      · simp only [if_neg hvalid, reduceCtorEq, Option.some.injEq, Json.str.injEq, false_iff, not_and]
        rintro rfl hlow hhigh hpattern
        exact hvalid ⟨hlow, hhigh, hpattern⟩
    | _ => simp

theorem identity_eq_ok {text : String} :
    identity (value.get name) path = .ok text ↔ IdentityMember value name text := by
  rw [← workshopIdentity_eq_ok]
  unfold identity workshopIdentity
  cases hget : value.get name with
  | none => simp
  | some found =>
    cases found with
    | str given =>
      by_cases hvalid : 1 ≤ given.length ∧ given.length ≤ 64 ∧ matchesIdentityPattern given = true
      · simp only [if_pos hvalid, Except.ok.injEq]
      · simp [if_neg hvalid]
    | _ => simp

/-- A member with one of the allowed texts. -/
def ChoiceMember {α : Type} (value : Json) (name : String) (allowed : List (String × α)) (a : α) :
    Prop :=
  ∃ text, value.get name = some (.str text) ∧ allowed.lookup text = some a

theorem literal_eq_ok {α : Type} {allowed : List (String × α)} {a : α} :
    literal value name allowed = .ok a ↔ ChoiceMember value name allowed a := by
  unfold literal ChoiceMember
  cases hget : value.get name with
  | none => simp
  | some found =>
    cases found with
    | str given => simp [demand_eq_ok]
    | _ => simp

theorem oneOf_eq_ok {α : Type} {allowed : List (String × α)} {a : α} :
    oneOf (value.get name) allowed path = .ok a ↔ ChoiceMember value name allowed a := by
  unfold oneOf ChoiceMember
  cases hget : value.get name with
  | none => simp
  | some found =>
    cases found with
    | str given => cases hlookup : allowed.lookup given <;> simp [hlookup]
    | _ => simp

def BoolMember (value : Json) (name : String) (b : Bool) : Prop := value.get name = some (.bool b)

theorem strictBool_eq_ok {b : Bool} : strictBool value name = .ok b ↔ BoolMember value name b := by
  unfold strictBool BoolMember
  cases hget : value.get name with
  | none => simp
  | some found => cases found <;> simp

theorem exactBoolean_eq_ok {b : Bool} :
    exactBoolean (value.get name) path = .ok b ↔ BoolMember value name b := by
  unfold exactBoolean BoolMember
  cases hget : value.get name with
  | none => simp
  | some found => cases found <;> simp

/-- A member with a list whose items are read one by one. -/
def ListMember {α : Type} (value : Json) (name : String) (low high : Nat)
    (reads : Json → α → Prop) (l : List α) : Prop :=
  ∃ items, value.get name = some (.arr items) ∧ (low ≤ items.length ∧ items.length ≤ high) ∧
    List.Forall₂ reads items l

theorem modelList_eq_ok {α : Type} {low high : Nat} {read : Json → Except ValueError α} {l : List α} :
    modelList value name low high read = .ok l ↔
      ListMember value name low high (fun item a => read item = .ok a) l := by
  unfold modelList ListMember
  cases hget : value.get name with
  | none => simp
  | some found =>
    cases found with
    | arr items =>
      simp only [bind_eq_ok, require_eq_ok, decide_eq_true_eq, exists_const, collect_eq_ok,
        Option.some.injEq, Json.arr.injEq, exists_eq_left']
    | _ => simp

theorem boundedArray_eq_ok {low high : Nat} {items : List Json} :
    boundedArray (value.get name) path low high = .ok items ↔
      value.get name = some (.arr items) ∧ low ≤ items.length ∧ items.length ≤ high := by
  unfold boundedArray
  cases hget : value.get name with
  | none => simp
  | some found =>
    cases found with
    | arr given =>
      by_cases hrange : low ≤ given.length ∧ given.length ≤ high
      · simp only [if_pos hrange, Except.ok.injEq, Option.some.injEq, Json.arr.injEq]
        constructor
        · rintro rfl
          exact ⟨rfl, hrange⟩
        · rintro ⟨rfl, -⟩
          rfl
      · simp only [if_neg hrange, reduceCtorEq, Option.some.injEq, Json.arr.injEq, false_iff, not_and]
        rintro rfl hlow hhigh
        exact hrange ⟨hlow, hhigh⟩
    | _ => simp

/-- The index of an item matters to the path of its errors only. -/
theorem parseEach_eq_ok {α : Type} {parse : Json → String → Except String α} {reads : Json → α → Prop}
    {items : List Json} (hparse : ∀ item ∈ items, ∀ path a, parse item path = .ok a ↔ reads item a)
    {l : List α} : parseEach parse path items = .ok l ↔ List.Forall₂ reads items l := by
  unfold parseEach
  rw [collect_eq_ok]
  suffices h : ∀ start, List.Forall₂ (fun (item : Json × Nat) a =>
      parse item.1 (path ++ "[" ++ toString item.2 ++ "]") = .ok a) (items.zipIdx start) l ↔
        List.Forall₂ reads items l from h 0
  induction items generalizing l with
  | nil => simp
  | cons item items ih =>
    intro start
    rw [List.zipIdx_cons]
    cases l with
    | nil => simp
    | cons a l =>
      rw [List.forall₂_cons, List.forall₂_cons, hparse item List.mem_cons_self,
        ih fun other hother => hparse other (List.mem_cons_of_mem _ hother)]

end Readers

/-! ## Zones -/

section Zones

variable {value : Json} {path name : String}

structure ZoneRead (value : Json) (zone : StockZone) : Prop where
  keys : HasKeys value zoneKeys
  x : IntMember value "x_um" 0 10000000 zone.xUm
  y : IntMember value "y_um" 0 5000000 zone.yUm
  width : IntMember value "width_um" 1 10000000 zone.widthUm
  height : IntMember value "height_um" 1 5000000 zone.heightUm

theorem stockZone_eq_ok {zone : StockZone} : stockZone value = .ok zone ↔ ZoneRead value zone := by
  simp only [stockZone, bind_eq_ok, forbidExtra_eq_ok, strictInt_eq_ok, exists_const]
  constructor
  · rintro ⟨hkeys, x, hx, y, hy, width, hwidth, height, hheight, hzone⟩
    obtain rfl := Except.ok.inj hzone
    exact ⟨hkeys, hx, hy, hwidth, hheight⟩
  · rintro ⟨hkeys, hx, hy, hwidth, hheight⟩
    exact ⟨hkeys, _, hx, _, hy, _, hwidth, _, hheight, rfl⟩

/-- The zone lies on a sheet. -/
def OnSheet (sheetWidthUm sheetHeightUm : Int) (zone : StockZone) : Prop :=
  zone.xUm + zone.widthUm ≤ sheetWidthUm ∧ zone.yUm + zone.heightUm ≤ sheetHeightUm

theorem IntMember.mem_keys {low high n : Int} (h : IntMember value name low high n) :
    name ∈ value.keys := mem_keys_of_get h.1

theorem parseZone_eq_ok (hvalue : value.integral = true) {sheetWidthUm sheetHeightUm : Int}
    {zone : StockZone} : parseZone sheetWidthUm sheetHeightUm value path = .ok zone ↔
      ZoneRead value zone ∧ OnSheet sheetWidthUm sheetHeightUm zone := by
  simp only [parseZone, bind_eq_ok, record_eq_ok, exactKeys_eq_ok, List.append_nil, require_eq_ok,
    exists_const, exactInteger_eq_ok hvalue, Int.reduceLE, le_refl, zero_le_one, Bool.and_eq_true, decide_eq_true_eq]
  constructor
  · rintro ⟨hobject, ⟨hkeys, -⟩, x, hx, y, hy, width, hwidth, height, hheight, hon, hzone⟩
    obtain rfl := Except.ok.inj hzone
    exact ⟨⟨⟨hobject, hkeys⟩, hx, hy, hwidth, hheight⟩, hon⟩
  · rintro ⟨⟨⟨hobject, hkeys⟩, hx, hy, hwidth, hheight⟩, hon⟩
    refine ⟨hobject, ⟨hkeys, ?_⟩, _, hx, _, hy, _, hwidth, _, hheight, hon, rfl⟩
    simp only [zoneKeys, List.forall_mem_cons, List.not_mem_nil, false_imp_iff, implies_true,
      and_true]
    exact ⟨hx.mem_keys, hy.mem_keys, hwidth.mem_keys, hheight.mem_keys⟩

theorem zoneKey_injective : Function.Injective zoneKey := by
  rintro ⟨x, y, width, height⟩ ⟨x', y', width', height'⟩ h
  have h := congrArg ofLex h
  simp only [zoneKey, ofLex_toLex, Prod.mk.injEq, EmbeddingLike.apply_eq_iff_eq] at h
  obtain ⟨rfl, rfl, rfl, rfl⟩ := h
  rfl

theorem zoneKeys_nodup {zones : List StockZone} : (zones.map zoneKey).Nodup ↔ zones.Nodup :=
  List.nodup_map_iff zoneKey_injective

/-- The items of an integral list are integral. -/
theorem integral_of_list {items : List Json} (hvalue : value.integral = true)
    (h : value.get name = some (.arr items)) : ∀ item ∈ items, item.integral = true := by
  have hitems := integral_of_get hvalue h
  rw [Json.integral] at hitems
  exact fun item hitem => Json.integral_of_mem_items hitems hitem

theorem parseZones_eq_ok (hvalue : value.integral = true) {sheetWidthUm sheetHeightUm : Int}
    {zones : List StockZone} :
    parseZones (value.get name) path sheetWidthUm sheetHeightUm = .ok zones ↔
      ∃ given, ListMember value name 0 100 ZoneRead given ∧
        (∀ zone ∈ given, OnSheet sheetWidthUm sheetHeightUm zone) ∧ given.Nodup ∧
        zones = sortBy zoneKey given := by
  simp only [parseZones, bind_eq_ok, boundedArray_eq_ok, require_eq_ok, decide_eq_true_eq,
    exists_const, ListMember, zoneKeys_nodup, (sortBy_perm zoneKey _).nodup_iff]
  constructor
  · rintro ⟨items, ⟨hget, hlength⟩, given, hgiven, hnodup, hzones⟩
    obtain rfl := Except.ok.inj hzones
    rw [parseEach_eq_ok fun item hitem path zone =>
      parseZone_eq_ok (integral_of_list hvalue hget item hitem)] at hgiven
    refine ⟨given, ⟨items, hget, hlength, hgiven.imp fun _ _ h => h.1⟩, ?_, hnodup, rfl⟩
    intro zone hzone
    obtain ⟨i, hi, rfl⟩ := List.getElem_of_mem hzone
    exact (hgiven.get (by rw [hgiven.length_eq]; exact hi) hi).2
  · rintro ⟨given, ⟨items, hget, hlength, hgiven⟩, hon, hnodup, rfl⟩
    refine ⟨items, ⟨hget, hlength⟩, given, ?_, hnodup, rfl⟩
    rw [parseEach_eq_ok fun item hitem path zone =>
      parseZone_eq_ok (integral_of_list hvalue hget item hitem)]
    rw [List.forall₂_iff_get] at hgiven ⊢
    exact ⟨hgiven.1, fun i h₁ h₂ => ⟨hgiven.2 i h₁ h₂, hon _ (List.getElem_mem h₂)⟩⟩

end Zones

/-! ## Profiles -/

section Profiles

variable {value : Json} {path : String}

structure ProfileRead (value : Json) (p : StockProfile) : Prop where
  keys : HasKeys value profileKeys
  role : ChoiceMember value "role" roles p.role
  authority : ChoiceMember value "declaration_authority" [(clientDeclared, ())] ()
  supplierProfileId : IdentityMember value "supplier_profile_id" p.supplierProfileId
  supplierProfileVersion : IdentityMember value "supplier_profile_version" p.supplierProfileVersion
  materialId : IdentityMember value "material_id" p.materialId
  materialVersion : IdentityMember value "material_version" p.materialVersion
  sheetWidth : IntMember value "sheet_width_um" 1 10000000 p.sheetWidthUm
  sheetHeight : IntMember value "sheet_height_um" 1 5000000 p.sheetHeightUm
  thickness : IntMember value "thickness_um" 1 100000 p.thicknessUm
  sheetCount : IntMember value "sheet_count" 1 100 p.sheetCount
  trimMargin : IntMember value "trim_margin_um" 0 500000 p.trimMarginUm
  kerf : IntMember value "kerf_um" 6000 100000 p.kerfUm
  grainDirection : ChoiceMember value "grain_direction" grains p.grainDirection
  allowRotation : BoolMember value "allow_rotation" p.allowRotation
  defectZones : ListMember value "defect_zones" 0 100 ZoneRead p.defectZones
  fixtureKeepOutZones : ListMember value "fixture_keep_out_zones" 0 100 ZoneRead p.fixtureKeepOutZones

/-- The checks of the sheet of a profile. -/
structure ProfileSound (p : StockProfile) : Prop where
  trim : p.trimMarginUm * 2 < min p.sheetWidthUm p.sheetHeightUm
  zones : ∀ zone ∈ p.defectZones ++ p.fixtureKeepOutZones, OnSheet p.sheetWidthUm p.sheetHeightUm zone
  defects : p.defectZones.Nodup
  fixtures : p.fixtureKeepOutZones.Nodup

/-- The profile with its zones in canonical order. -/
def StockProfile.ordered (p : StockProfile) : StockProfile :=
  { p with
    defectZones := sortBy zoneKey p.defectZones
    fixtureKeepOutZones := sortBy zoneKey p.fixtureKeepOutZones }

theorem ChoiceMember.mem_keys {α : Type} {name : String} {allowed : List (String × α)} {a : α}
    (h : ChoiceMember value name allowed a) : name ∈ value.keys := by
  obtain ⟨_, hget, -⟩ := h
  exact mem_keys_of_get hget

theorem IdentityMember.mem_keys {name text : String} (h : IdentityMember value name text) :
    name ∈ value.keys := mem_keys_of_get h.1

theorem BoolMember.mem_keys {name : String} {b : Bool} (h : BoolMember value name b) :
    name ∈ value.keys := mem_keys_of_get h

theorem ListMember.mem_keys {α : Type} {name : String} {low high : Nat} {reads : Json → α → Prop}
    {l : List α} (h : ListMember value name low high reads l) : name ∈ value.keys := by
  obtain ⟨_, hget, -⟩ := h
  exact mem_keys_of_get hget

theorem validateSheetGeometry_eq_ok {p p' : StockProfile} :
    validateSheetGeometry p = .ok p' ↔ ProfileSound p ∧ p' = p.ordered := by
  simp only [validateSheetGeometry, bind_eq_ok, require_eq_ok, decide_eq_true_eq, Bool.and_eq_true,
    List.all_eq_true, exists_const, zoneKeys_nodup]
  constructor
  · rintro ⟨htrim, ⟨hdefects, hfixtures⟩, hzones, hp⟩
    exact ⟨⟨htrim, hzones, hdefects, hfixtures⟩, (Except.ok.inj hp).symm⟩
  · rintro ⟨⟨htrim, hzones, hdefects, hfixtures⟩, rfl⟩
    exact ⟨htrim, ⟨hdefects, hfixtures⟩, hzones, rfl⟩

/-- What the server makes of a profile. -/
theorem stockProfile_eq_ok {p' : StockProfile} : stockProfile value = .ok p' ↔
    ∃ p, ProfileRead value p ∧ ProfileSound p ∧ p' = p.ordered := by
  simp only [stockProfile, bind_eq_ok, forbidExtra_eq_ok, literal_eq_ok, workshopIdentity_eq_ok,
    strictInt_eq_ok, strictBool_eq_ok, modelList_eq_ok, stockZone_eq_ok,
    validateSheetGeometry_eq_ok, exists_const]
  constructor
  · rintro ⟨hkeys, role, hrole, ⟨⟩, hauthority, supplierId, hsupplierId, supplierVersion,
      hsupplierVersion, materialId, hmaterialId, materialVersion, hmaterialVersion, width, hwidth,
      height, hheight, thickness, hthickness, count, hcount, trim, htrim, kerf, hkerf, grain, hgrain,
      rotation, hrotation, defects, hdefects, fixtures, hfixtures, hsound, rfl⟩
    exact ⟨_, ⟨hkeys, hrole, hauthority, hsupplierId, hsupplierVersion, hmaterialId,
      hmaterialVersion, hwidth, hheight, hthickness, hcount, htrim, hkerf, hgrain, hrotation, hdefects,
      hfixtures⟩, hsound, rfl⟩
  · rintro ⟨p, ⟨hkeys, hrole, hauthority, hsupplierId, hsupplierVersion, hmaterialId,
      hmaterialVersion, hwidth, hheight, hthickness, hcount, htrim, hkerf, hgrain, hrotation, hdefects,
      hfixtures⟩, hsound, rfl⟩
    exact ⟨hkeys, _, hrole, _, hauthority, _, hsupplierId, _, hsupplierVersion, _, hmaterialId, _,
      hmaterialVersion, _, hwidth, _, hheight, _, hthickness, _, hcount, _, htrim, _, hkerf, _, hgrain,
      _, hrotation, _, hdefects, _, hfixtures, hsound, rfl⟩

/-- What the browser makes of a profile. -/
theorem parseProfile_eq_ok (hvalue : value.integral = true) {p' : StockProfile} :
    parseProfile value path = .ok p' ↔
      ∃ p, ProfileRead value p ∧ ProfileSound p ∧ p' = p.ordered := by
  simp only [parseProfile, bind_eq_ok, record_eq_ok, exactKeys_eq_ok, List.append_nil,
    oneOf_eq_ok, identity_eq_ok, exactInteger_eq_ok hvalue, Int.reduceLE, le_refl, zero_le_one,
    exactBoolean_eq_ok, parseZones_eq_ok hvalue, require_eq_ok, decide_eq_true_eq, exists_const]
  constructor
  · rintro ⟨hobject, ⟨hkeys, -⟩, width, hwidth, height, hheight, role, hrole, ⟨⟩, hauthority,
      supplierId, hsupplierId, supplierVersion, hsupplierVersion, materialId, hmaterialId,
      materialVersion, hmaterialVersion, thickness, hthickness, count, hcount, trim, htrim, kerf,
      hkerf, grain, hgrain, rotation, hrotation, -, ⟨defects, hdefects, hdefectsOn, hdefectsNodup, rfl⟩,
      -, ⟨fixtures, hfixtures, hfixturesOn, hfixturesNodup, rfl⟩, hmargin, hp⟩
    obtain rfl := Except.ok.inj hp
    exact ⟨⟨role, supplierId, supplierVersion, materialId, materialVersion, width, height, thickness,
      count, trim, kerf, grain, rotation, defects, fixtures⟩, ⟨⟨hobject, hkeys⟩, hrole, hauthority,
      hsupplierId, hsupplierVersion, hmaterialId, hmaterialVersion, hwidth, hheight, hthickness,
      hcount, htrim, hkerf, hgrain, hrotation, hdefects, hfixtures⟩,
      ⟨hmargin, List.forall_mem_append.mpr ⟨hdefectsOn, hfixturesOn⟩, hdefectsNodup, hfixturesNodup⟩,
      rfl⟩
  · rintro ⟨p, ⟨⟨hobject, hkeys⟩, hrole, hauthority, hsupplierId, hsupplierVersion, hmaterialId,
      hmaterialVersion, hwidth, hheight, hthickness, hcount, htrim, hkerf, hgrain, hrotation, hdefects,
      hfixtures⟩, ⟨hmargin, hzones, hdefectsNodup, hfixturesNodup⟩, rfl⟩
    obtain ⟨hdefectsOn, hfixturesOn⟩ := List.forall_mem_append.mp hzones
    refine ⟨hobject, ⟨hkeys, ?_⟩, _, hwidth, _, hheight, _, hrole, _, hauthority, _, hsupplierId, _,
      hsupplierVersion, _, hmaterialId, _, hmaterialVersion, _, hthickness, _, hcount, _, htrim, _,
      hkerf, _, hgrain, _, hrotation, _, ⟨_, hdefects, hdefectsOn, hdefectsNodup, rfl⟩, _,
      ⟨_, hfixtures, hfixturesOn, hfixturesNodup, rfl⟩, hmargin, rfl⟩
    simp only [profileKeys, List.forall_mem_cons, List.not_mem_nil, false_imp_iff, implies_true,
      and_true]
    exact ⟨hrole.mem_keys, hauthority.mem_keys, hsupplierId.mem_keys, hsupplierVersion.mem_keys,
      hmaterialId.mem_keys, hmaterialVersion.mem_keys, hwidth.mem_keys, hheight.mem_keys,
      hthickness.mem_keys, hcount.mem_keys, htrim.mem_keys, hkerf.mem_keys, hgrain.mem_keys,
      hrotation.mem_keys, hdefects.mem_keys, hfixtures.mem_keys⟩

end Profiles

/-! ## Registrations -/

section Registrations

variable {value : Json} {path : String}

structure PinRead (value : Json) (pin : Point2D) : Prop where
  keys : HasKeys value pinKeys
  x : IntMember value "x_um" 0 10000000 pin.xUm
  y : IntMember value "y_um" 0 5000000 pin.yUm

theorem registrationPin_eq_ok {pin : Point2D} :
    registrationPin value = .ok pin ↔ PinRead value pin := by
  simp only [registrationPin, bind_eq_ok, forbidExtra_eq_ok, strictInt_eq_ok, exists_const]
  constructor
  · rintro ⟨hkeys, x, hx, y, hy, hpin⟩
    obtain rfl := Except.ok.inj hpin
    exact ⟨hkeys, hx, hy⟩
  · rintro ⟨hkeys, hx, hy⟩
    exact ⟨hkeys, _, hx, _, hy, rfl⟩

/-- The sheet of a profile is within the largest one. -/
structure SheetRanges (profile : StockProfile) : Prop where
  width : profile.sheetWidthUm ≤ 10000000
  height : profile.sheetHeightUm ≤ 5000000
  count : profile.sheetCount ≤ 100

theorem parsePin_eq_ok (hvalue : value.integral = true) {profile : StockProfile}
    (hsheet : SheetRanges profile) {pin : Point2D} : parsePin profile value path = .ok pin ↔
      PinRead value pin ∧ pin.xUm ≤ profile.sheetWidthUm ∧ pin.yUm ≤ profile.sheetHeightUm := by
  have hwidth := hsheet.width
  have hheight := hsheet.height
  have hheight' : profile.sheetHeightUm ≤ 10000000 := by omega
  simp only [parsePin, bind_eq_ok, record_eq_ok, exactKeys_eq_ok, List.append_nil, le_refl,
    exactInteger_eq_ok hvalue _ hwidth, exactInteger_eq_ok hvalue _ hheight', exists_const]
  constructor
  · rintro ⟨hobject, ⟨hkeys, -⟩, x, ⟨hx, hxLow, hxHigh⟩, y, ⟨hy, hyLow, hyHigh⟩, hpin⟩
    obtain rfl := Except.ok.inj hpin
    have hxMost : x ≤ 10000000 := by omega
    have hyMost : y ≤ 5000000 := by omega
    exact ⟨⟨⟨hobject, hkeys⟩, ⟨hx, hxLow, hxMost⟩, hy, hyLow, hyMost⟩, hxHigh, hyHigh⟩
  · rintro ⟨⟨⟨hobject, hkeys⟩, hx, hy⟩, hxHigh, hyHigh⟩
    refine ⟨hobject, ⟨hkeys, ?_⟩, _, ⟨hx.1, hx.2.1, hxHigh⟩, _, ⟨hy.1, hy.2.1, hyHigh⟩, rfl⟩
    simp only [pinKeys, List.forall_mem_cons, List.not_mem_nil, false_imp_iff, implies_true, and_true]
    exact ⟨hx.mem_keys, hy.mem_keys⟩

structure RegistrationRead (value : Json) (r : Registration) : Prop where
  keys : HasKeys value registrationKeys
  stockRole : ChoiceMember value "stock_role" roles r.stockRole
  sheetIndex : IntMember value "sheet_index" 0 99 r.sheetIndex
  authority : ChoiceMember value "declaration_authority" [(clientDeclared, ())] ()
  flipAxis : ChoiceMember value "flip_axis" [("X", ())] ()
  fixtureMethodId : IdentityMember value "fixture_method_id" r.fixtureMethodId
  fixtureMethodVersion : IdentityMember value "fixture_method_version" r.fixtureMethodVersion
  pinDiameter : IntMember value "pin_diameter_um" 1000 50000 r.pinDiameterUm
  positionTolerance : IntMember value "position_tolerance_um" 1 10000 r.positionToleranceUm
  pins : ListMember value "pins" 2 16 PinRead r.pins

/-- The checks of a registration alone. -/
structure RegistrationSound (r : Registration) : Prop where
  pins : r.pins.Nodup
  tolerance : r.positionToleranceUm * 2 < r.pinDiameterUm
  baseline : r.pins.Pairwise fun first second => (100000 + 2 * footprintRadius r) ^ 2 ≤
    (first.xUm - second.xUm) ^ 2 + (first.yUm - second.yUm) ^ 2

/-- The footprint of a pin is on the sheet and off its zones. -/
def PinOn (radius : Int) (profile : StockProfile) (pin : Point2D) : Prop :=
  pinInside radius profile pin = true ∧ pinBlocked radius profile pin = false

/-- The registration is of a sheet of the profile, with every pin on it. -/
def RegistrationOn (profile : StockProfile) (r : Registration) : Prop :=
  r.sheetIndex < profile.sheetCount ∧ ∀ pin ∈ r.pins, PinOn (footprintRadius r) profile pin

theorem twoSidedRegistration_eq_ok {r : Registration} :
    twoSidedRegistration value = .ok r ↔ RegistrationRead value r ∧ RegistrationSound r := by
  simp only [twoSidedRegistration, bind_eq_ok, forbidExtra_eq_ok, literal_eq_ok,
    workshopIdentity_eq_ok, strictInt_eq_ok, modelList_eq_ok, registrationPin_eq_ok,
    validateUniquePins, require_eq_ok, decide_eq_true_eq, exists_const]
  constructor
  · rintro ⟨hkeys, role, hrole, index, hindex, ⟨⟩, haxis, ⟨⟩, hauthority, id, hid, version, hversion,
      diameter, hdiameter, tolerance, htolerance, pins, hpins, ⟨hnodup, hless, hbaseline⟩, hr⟩
    obtain rfl := Except.ok.inj hr
    exact ⟨⟨hkeys, hrole, hindex, hauthority, haxis, hid, hversion, hdiameter, htolerance, hpins⟩,
      hnodup, hless, hbaseline⟩
  · rintro ⟨⟨hkeys, hrole, hindex, hauthority, haxis, hid, hversion, hdiameter, htolerance, hpins⟩,
      hnodup, hless, hbaseline⟩
    exact ⟨hkeys, _, hrole, _, hindex, _, haxis, _, hauthority, _, hid, _, hversion, _, hdiameter, _,
      htolerance, _, hpins, ⟨hnodup, hless, hbaseline⟩, rfl⟩

/-- The pins of the browser's loop are checked whatever their index is. -/
theorem checkPins_eq_ok {radius : Int} {profile : StockProfile} {pins : List Point2D} {u : Unit} :
    checkPins path radius profile pins = .ok u ↔ ∀ pin ∈ pins, PinOn radius profile pin := by
  rw [checkPins, forEach_eq_ok]
  simp only [bind_eq_ok, require_eq_ok, exists_const, Bool.not_eq_true', PinOn]
  have hmap : pins.zipIdx.map Prod.fst = pins := List.zipIdx_map_fst 0 pins
  conv_rhs => rw [← hmap]
  rw [List.forall_mem_map]

theorem baselineKept_iff {radius : Int} {pins : List Point2D} : baselineKept radius pins ↔
    pins.Pairwise fun first second => (100000 + 2 * radius) ^ 2 ≤
      (first.xUm - second.xUm) ^ 2 + (first.yUm - second.yUm) ^ 2 := by
  have hswap : ∀ a b : Int, (b - a) ^ 2 = (a - b) ^ 2 := fun a b => by ring
  unfold baselineKept
  simp only [hswap]

theorem checkPin_eq_ok {radius : Int} {profile : StockProfile} {pin : Point2D} {u : Unit} :
    checkPin radius profile pin = .ok u ↔ PinOn radius profile pin := by
  have hblocked : (profile.defectZones ++ profile.fixtureKeepOutZones).any (fun zone =>
      !(decide (pin.xUm + radius ≤ zone.xUm) || decide (zone.xUm + zone.widthUm ≤ pin.xUm - radius) ||
        decide (pin.yUm + radius ≤ zone.yUm) ||
        decide (zone.yUm + zone.heightUm ≤ pin.yUm - radius))) = pinBlocked radius profile pin := by
    unfold pinBlocked
    congr 1
    funext zone
    rw [Bool.eq_iff_iff]
    simp only [Bool.not_eq_true', Bool.or_eq_false_iff, decide_eq_false_iff_not, Bool.and_eq_true,
      decide_eq_true_eq, not_le]
  simp only [checkPin, bind_eq_ok, require_eq_ok, exists_const, hblocked, PinOn, pinInside,
    Bool.not_eq_true', Bool.or_eq_false_iff, decide_eq_false_iff_not, Bool.and_eq_true,
    decide_eq_true_eq, not_lt]
  refine and_congr_left fun _ => ?_
  omega

theorem checkRegistration_eq_ok {profiles : List StockProfile} {r : Registration} {u : Unit} :
    checkRegistration profiles r = .ok u ↔
      ∃ profile, findProfile profiles r.stockRole = some profile ∧ RegistrationOn profile r := by
  simp only [checkRegistration, bind_eq_ok, demand_eq_ok, require_eq_ok, decide_eq_true_eq,
    exists_const, forEach_eq_ok, RegistrationOn]
  refine exists_congr fun profile => and_congr_right fun _ => and_congr_right fun _ => ?_
  exact forall₂_congr fun pin _ => checkPin_eq_ok

/-- What the browser makes of a registration. -/
theorem parseRegistration_eq_ok (hvalue : value.integral = true) {profiles : List StockProfile}
    (hsheets : ∀ profile ∈ profiles, SheetRanges profile) {r : Registration} :
    parseRegistration profiles value path = .ok r ↔
      RegistrationRead value r ∧ RegistrationSound r ∧
        ∃ profile, findProfile profiles r.stockRole = some profile ∧ RegistrationOn profile r := by
  simp only [parseRegistration, bind_eq_ok, record_eq_ok, exactKeys_eq_ok, List.append_nil,
    oneOf_eq_ok, identity_eq_ok, demand_eq_ok, boundedArray_eq_ok, exactInteger_eq_ok hvalue,
    Int.reduceLE, le_refl, require_eq_ok, decide_eq_true_eq, exists_const, checkPins_eq_ok,
    baselineKept_iff, zero_le_one]
  constructor
  · rintro ⟨hobject, ⟨hkeys, -⟩, role, hrole, profile, hprofile, items, ⟨hget, hlength⟩, pins, hpins,
      hnodup, diameter, hdiameter, tolerance, htolerance, hless, hon, hbaseline, index, hindex, ⟨⟩,
      hauthority, ⟨⟩, haxis, id, hid, version, hversion, hr⟩
    obtain rfl := Except.ok.inj hr
    have hsheet := hsheets profile (List.mem_of_find?_eq_some hprofile)
    have hcount := hsheet.count
    rw [exactInteger_eq_ok hvalue (le_refl _) (by omega)] at hindex
    obtain ⟨hindexGet, hindexLow, hindexHigh⟩ := hindex
    rw [parseEach_eq_ok fun item hitem path pin =>
      parsePin_eq_ok (integral_of_list hvalue hget item hitem) hsheet] at hpins
    have hindexMost : index ≤ 99 := by omega
    have hindexBelow : index < profile.sheetCount := by omega
    exact ⟨⟨⟨hobject, hkeys⟩, hrole, ⟨hindexGet, hindexLow, hindexMost⟩, hauthority, haxis, hid,
      hversion, hdiameter, htolerance, ⟨items, hget, hlength, hpins.imp fun _ _ h => h.1⟩⟩,
      ⟨hnodup, hless, hbaseline⟩, profile, hprofile, hindexBelow, hon⟩
  · rintro ⟨⟨⟨hobject, hkeys⟩, hrole, hindex, hauthority, haxis, hid, hversion, hdiameter,
      htolerance, items, hget, hlength, hpins⟩, ⟨hnodup, hless, hbaseline⟩, profile, hprofile,
      hindexHigh, hon⟩
    have hsheet := hsheets profile (List.mem_of_find?_eq_some hprofile)
    have hcount := hsheet.count
    have hlist : ListMember value "pins" 2 16 PinRead r.pins := ⟨items, hget, hlength, hpins⟩
    refine ⟨hobject, ⟨hkeys, ?_⟩, _, hrole, profile, hprofile, items, ⟨hget, hlength⟩, r.pins, ?_,
      hnodup, _, hdiameter, _, htolerance, hless, hon, hbaseline, r.sheetIndex, ?_, (), hauthority,
      (), haxis, _, hid, _, hversion, rfl⟩
    · simp only [registrationKeys, List.forall_mem_cons, List.not_mem_nil, false_imp_iff,
        implies_true, and_true]
      exact ⟨hrole.mem_keys, hindex.mem_keys, hauthority.mem_keys, haxis.mem_keys, hid.mem_keys,
        hversion.mem_keys, hdiameter.mem_keys, htolerance.mem_keys, hlist.mem_keys⟩
    · rw [parseEach_eq_ok fun item hitem path pin =>
        parsePin_eq_ok (integral_of_list hvalue hget item hitem) hsheet]
      rw [List.forall₂_iff_get] at hpins ⊢
      refine ⟨hpins.1, fun i h₁ h₂ => ⟨hpins.2 i h₁ h₂, ?_⟩⟩
      -- a pin whose footprint is on the sheet is on it
      have hin := (hon _ (List.getElem_mem h₂)).1
      have hradius : 0 ≤ footprintRadius r := by
        have := hdiameter.2.1
        have := htolerance.2.1
        unfold footprintRadius
        omega
      simp only [pinInside, Bool.and_eq_true, decide_eq_true_eq] at hin
      simp only [List.get_eq_getElem]
      omega
    · rw [exactInteger_eq_ok hvalue (le_refl _) (by omega)]
      exact ⟨hindex.1, hindex.2.1, by omega⟩

end Registrations

end Custombuild.Web.Workshop
