/-
  An accepted workshop context is canonical: written out and read again it stays as it is, and the
  order of profiles, zones and registrations in the value does not matter.
-/
import Mathlib.Data.List.Perm.Basic
import Custombuild.Web.WorkshopAgreement

namespace Custombuild.Web.Workshop

open Custombuild.Lib Custombuild.Domain Custombuild.Api.Workshop
open Custombuild.Manufacturing (Point2D)

/-! ## The value of a context -/

def StockZone.toJson (zone : StockZone) : Json :=
  .obj [("x_um", .num zone.xUm 0), ("y_um", .num zone.yUm 0), ("width_um", .num zone.widthUm 0),
    ("height_um", .num zone.heightUm 0)]

def pinJson (pin : Point2D) : Json := .obj [("x_um", .num pin.xUm 0), ("y_um", .num pin.yUm 0)]

def StockProfile.toJson (p : StockProfile) : Json :=
  .obj [("role", .str (roleText p.role)), ("declaration_authority", .str clientDeclared),
    ("supplier_profile_id", .str p.supplierProfileId),
    ("supplier_profile_version", .str p.supplierProfileVersion), ("material_id", .str p.materialId),
    ("material_version", .str p.materialVersion), ("sheet_width_um", .num p.sheetWidthUm 0),
    ("sheet_height_um", .num p.sheetHeightUm 0), ("thickness_um", .num p.thicknessUm 0),
    ("sheet_count", .num p.sheetCount 0), ("trim_margin_um", .num p.trimMarginUm 0),
    ("kerf_um", .num p.kerfUm 0), ("grain_direction", .str (grainText p.grainDirection)),
    ("allow_rotation", .bool p.allowRotation),
    ("defect_zones", .arr (p.defectZones.map StockZone.toJson)),
    ("fixture_keep_out_zones", .arr (p.fixtureKeepOutZones.map StockZone.toJson))]

def Registration.toJson (r : Registration) : Json :=
  .obj [("stock_role", .str (roleText r.stockRole)), ("sheet_index", .num r.sheetIndex 0),
    ("declaration_authority", .str clientDeclared), ("flip_axis", .str "X"),
    ("fixture_method_id", .str r.fixtureMethodId),
    ("fixture_method_version", .str r.fixtureMethodVersion),
    ("pin_diameter_um", .num r.pinDiameterUm 0),
    ("position_tolerance_um", .num r.positionToleranceUm 0), ("pins", .arr (r.pins.map pinJson))]

/-- The members of a context that is returned; without registrations there is no key for them. -/
def ProductionContext.profilesJson (context : ProductionContext) : Json :=
  .arr (context.stockProfiles.map StockProfile.toJson)

def ProductionContext.registrationsJson (context : ProductionContext) : Option Json :=
  if context.twoSidedRegistrations = [] then none
  else some (.arr (context.twoSidedRegistrations.map Registration.toJson))

def ProductionContext.toJson (context : ProductionContext) : Json :=
  contextValue context.profilesJson context.registrationsJson

section Written

theorem integralItems_map {α : Type} {dump : α → Json} {l : List α}
    (h : ∀ a, (dump a).integral = true) : Json.integralItems (l.map dump) = true := by
  induction l with
  | nil => rfl
  | cons a l ih => rw [List.map_cons, Json.integralItems, h, ih, Bool.and_self]

theorem StockZone.integral_toJson (zone : StockZone) : zone.toJson.integral = true := by
  simp [StockZone.toJson, Json.integral, Json.integralFields]

theorem integral_pinJson (pin : Point2D) : (pinJson pin).integral = true := by
  simp [pinJson, Json.integral, Json.integralFields]

theorem StockProfile.integral_toJson (p : StockProfile) : p.toJson.integral = true := by
  simp [StockProfile.toJson, Json.integral, Json.integralFields,
    integralItems_map StockZone.integral_toJson]

theorem Registration.integral_toJson (r : Registration) : r.toJson.integral = true := by
  simp [Registration.toJson, Json.integral, Json.integralFields,
    integralItems_map integral_pinJson]

/-- What is read of some value is read of the one it is written as. -/
theorem reread {α : Type} {reads : Json → α → Prop} {items : List Json} {l l' : List α}
    (h : List.Forall₂ reads items l) (hperm : l'.Perm l) {dump : α → Json}
    (hdump : ∀ item a, reads item a → reads (dump a) a) : List.Forall₂ reads (l'.map dump) l' := by
  rw [List.forall₂_map_left_iff, List.forall₂_same]
  exact fun a ha => forall_of_forall₂ hdump h a (hperm.mem_iff.mp ha)

theorem ZoneRead.toJson {item : Json} {zone : StockZone} (h : ZoneRead item zone) :
    ZoneRead zone.toJson zone where
  keys := by simp [HasKeys, StockZone.toJson, Json.typeName, Json.keys, zoneKeys]
  x := ⟨by simp [StockZone.toJson, Json.get], h.x.2⟩
  y := ⟨by simp [StockZone.toJson, Json.get], h.y.2⟩
  width := ⟨by simp [StockZone.toJson, Json.get], h.width.2⟩
  height := ⟨by simp [StockZone.toJson, Json.get], h.height.2⟩

theorem PinRead.toJson {item : Json} {pin : Point2D} (h : PinRead item pin) :
    PinRead (pinJson pin) pin where
  keys := by simp [HasKeys, pinJson, Json.typeName, Json.keys, pinKeys]
  x := ⟨by simp [pinJson, Json.get], h.x.2⟩
  y := ⟨by simp [pinJson, Json.get], h.y.2⟩

theorem lookup_role (role : StockRole) : roles.lookup (roleText role) = some role := by
  cases role <;> decide

theorem lookup_grain (grain : GrainDirection) : grains.lookup (grainText grain) = some grain := by
  cases grain <;> decide

theorem StockProfile.ordered_ordered (p : StockProfile) : p.ordered.ordered = p.ordered := by
  have hsorted : ∀ zones : List StockZone, sortBy zoneKey (sortBy zoneKey zones) =
      sortBy zoneKey zones := fun zones =>
    sortBy_eq_of_perm (sortBy_perm zoneKey zones) fun _ _ _ _ h => zoneKey_injective h
  simp only [StockProfile.ordered, hsorted]

theorem ProfileRead.toJson {item : Json} {q : StockProfile} (h : ProfileRead item q) :
    ProfileRead q.ordered.toJson q.ordered where
  keys := by simp [HasKeys, StockProfile.toJson, Json.typeName, Json.keys, profileKeys]
  role := ⟨_, by simp [StockProfile.toJson, Json.get], lookup_role _⟩
  authority := ⟨clientDeclared, by simp [StockProfile.toJson, Json.get], rfl⟩
  supplierProfileId := ⟨by simp [StockProfile.toJson, Json.get], h.supplierProfileId.2⟩
  supplierProfileVersion := ⟨by simp [StockProfile.toJson, Json.get], h.supplierProfileVersion.2⟩
  materialId := ⟨by simp [StockProfile.toJson, Json.get], h.materialId.2⟩
  materialVersion := ⟨by simp [StockProfile.toJson, Json.get], h.materialVersion.2⟩
  sheetWidth := ⟨by simp [StockProfile.toJson, Json.get], h.sheetWidth.2⟩
  sheetHeight := ⟨by simp [StockProfile.toJson, Json.get], h.sheetHeight.2⟩
  thickness := ⟨by simp [StockProfile.toJson, Json.get], h.thickness.2⟩
  sheetCount := ⟨by simp [StockProfile.toJson, Json.get], h.sheetCount.2⟩
  trimMargin := ⟨by simp [StockProfile.toJson, Json.get], h.trimMargin.2⟩
  kerf := ⟨by simp [StockProfile.toJson, Json.get], h.kerf.2⟩
  grainDirection := ⟨_, by simp [StockProfile.toJson, Json.get], lookup_grain _⟩
  allowRotation := by simp [BoolMember, StockProfile.toJson, Json.get]
  defectZones := by
    obtain ⟨items, -, hlength, hread⟩ := h.defectZones
    refine ⟨_, by simp [StockProfile.toJson, Json.get]; rfl, ?_,
      reread hread (sortBy_perm zoneKey _) fun _ _ => ZoneRead.toJson⟩
    rwa [List.length_map, length_sortBy, ← hread.length_eq]
  fixtureKeepOutZones := by
    obtain ⟨items, -, hlength, hread⟩ := h.fixtureKeepOutZones
    refine ⟨_, by simp [StockProfile.toJson, Json.get]; rfl, ?_,
      reread hread (sortBy_perm zoneKey _) fun _ _ => ZoneRead.toJson⟩
    rwa [List.length_map, length_sortBy, ← hread.length_eq]

/-- The checks of a sheet do not see the order of its zones. -/
theorem ProfileSound.of_perm {p : StockProfile} (h : ProfileSound p) {defects fixtures : List StockZone}
    (hdefects : defects.Perm p.defectZones) (hfixtures : fixtures.Perm p.fixtureKeepOutZones) :
    ProfileSound { p with defectZones := defects, fixtureKeepOutZones := fixtures } where
  trim := h.trim
  zones := fun zone hzone => h.zones zone ((hdefects.append hfixtures).mem_iff.mp hzone)
  defects := hdefects.nodup_iff.mpr h.defects
  fixtures := hfixtures.nodup_iff.mpr h.fixtures

theorem ProfileOk.toJson {item : Json} {profile : StockProfile} (h : ProfileOk item profile) :
    ProfileOk profile.toJson profile := by
  obtain ⟨q, hread, hsound, rfl⟩ := h
  exact ⟨q.ordered, hread.toJson, hsound.of_perm (sortBy_perm zoneKey _) (sortBy_perm zoneKey _),
    q.ordered_ordered.symm⟩

theorem RegistrationRead.toJson {item : Json} {r : Registration} (h : RegistrationRead item r) :
    RegistrationRead r.toJson r where
  keys := by simp [HasKeys, Registration.toJson, Json.typeName, Json.keys, registrationKeys]
  stockRole := ⟨_, by simp [Registration.toJson, Json.get], lookup_role _⟩
  sheetIndex := ⟨by simp [Registration.toJson, Json.get], h.sheetIndex.2⟩
  authority := ⟨clientDeclared, by simp [Registration.toJson, Json.get], rfl⟩
  flipAxis := ⟨"X", by simp [Registration.toJson, Json.get], rfl⟩
  fixtureMethodId := ⟨by simp [Registration.toJson, Json.get], h.fixtureMethodId.2⟩
  fixtureMethodVersion := ⟨by simp [Registration.toJson, Json.get], h.fixtureMethodVersion.2⟩
  pinDiameter := ⟨by simp [Registration.toJson, Json.get], h.pinDiameter.2⟩
  positionTolerance := ⟨by simp [Registration.toJson, Json.get], h.positionTolerance.2⟩
  pins := by
    obtain ⟨items, -, hlength, hread⟩ := h.pins
    refine ⟨_, by simp [Registration.toJson, Json.get], ?_,
      reread hread (List.Perm.refl _) fun _ _ => PinRead.toJson⟩
    rwa [List.length_map, ← hread.length_eq]

theorem RegistrationOk.toJson {item : Json} {r : Registration} (h : RegistrationOk item r) :
    RegistrationOk r.toJson r := ⟨h.1.toJson, h.2⟩

/-- The profiles and registrations of an accepted context are accepted in any order. -/
theorem Accepts.toJson {stockProfiles : Json} {registrations : Option Json}
    {profiles profiles' : List StockProfile} {regs regs' : List Registration}
    (h : Accepts stockProfiles registrations profiles regs) (hprofiles : profiles'.Perm profiles)
    (hregs : regs'.Perm regs) :
    Accepts (ProductionContext.profilesJson ⟨profiles', regs'⟩)
      (ProductionContext.registrationsJson ⟨profiles', regs'⟩) profiles' regs' where
  profilesRead := by
    obtain ⟨items, -, hlength, hread⟩ := h.profilesRead
    refine ⟨_, rfl, ?_, reread hread hprofiles fun _ _ => ProfileOk.toJson⟩
    rwa [List.length_map, hprofiles.length_eq, ← hread.length_eq]
  registrationsRead := by
    unfold ProductionContext.registrationsJson
    by_cases hnone : regs' = []
    · exact .inl ⟨if_pos hnone, hnone⟩
    · refine .inr ⟨_, if_neg hnone, ?_⟩
      obtain ⟨-, hregs'⟩ | ⟨items, -, hlength, hread⟩ := h.registrationsRead
      · rw [hregs'] at hregs
        exact absurd hregs.eq_nil hnone
      · refine ⟨?_, reread hread hregs fun _ _ => RegistrationOk.toJson⟩
        rwa [List.length_map, hregs.length_eq, ← hread.length_eq]
  roles := (hprofiles.map _).nodup_iff.mpr h.roles
  carcass := (hprofiles.map _).mem_iff.mpr h.carcass
  identities := (hprofiles.map _).nodup_iff.mpr h.identities
  sheets := (hregs.map _).nodup_iff.mpr h.sheets
  on := fun r hr => by
    rw [findProfile_of_perm hprofiles ((hprofiles.map _).nodup_iff.mpr h.roles)]
    exact h.on r (hregs.mem_iff.mp hr)

theorem ProductionContext.integral_profilesJson (context : ProductionContext) :
    context.profilesJson.integral = true := by
  rw [ProductionContext.profilesJson, Json.integral]
  exact integralItems_map StockProfile.integral_toJson

theorem ProductionContext.integral_registrationsJson (context : ProductionContext) :
    ∀ given ∈ context.registrationsJson, given.integral = true := by
  intro given hgiven
  unfold ProductionContext.registrationsJson at hgiven
  split at hgiven
  · cases hgiven
  · cases hgiven
    rw [Json.integral]
    exact integralItems_map Registration.integral_toJson

/-- Profiles of different roles are told apart by the order of their roles. -/
theorem sorted_profiles_eq {profiles profiles' : List StockProfile}
    (hperm : profiles.Perm profiles') (hroles : (profiles.map StockProfile.role).Nodup) :
    sortBy (fun profile => roleOrder profile.role) profiles =
      sortBy (fun profile => roleOrder profile.role) profiles' := by
  refine sortBy_eq_of_perm hperm fun p hp q hq horder => ?_
  have hrole : p.role = q.role := by
    cases hpr : p.role <;> cases hqr : q.role <;> simp_all [roleOrder]
  exact List.inj_on_of_nodup_map hroles hp hq hrole

theorem sorted_registrations_eq {regs regs' : List Registration} (hperm : regs.Perm regs')
    (hsheets : (regs.map registrationKey).Nodup) :
    sortBy registrationOrder regs = sortBy registrationOrder regs' := by
  refine sortBy_eq_of_perm hperm fun r hr t ht horder => ?_
  have horder := congrArg ofLex horder
  simp only [registrationOrder, ofLex_toLex, Prod.mk.injEq] at horder
  have hrole : r.stockRole = t.stockRole := by
    have := horder.1
    cases hrr : r.stockRole <;> cases htr : t.stockRole <;> simp_all [roleOrder]
  exact List.inj_on_of_nodup_map hsheets hr ht (Prod.ext hrole horder.2)

/-- A context that the browser returned is read again as it is. -/
theorem parseWorkshopProductionContext_toJson {stockProfiles : Json} {registrations : Option Json}
    (hprofiles : stockProfiles.integral = true)
    (hregistrations : ∀ given ∈ registrations, given.integral = true) {context : ProductionContext}
    (h : parseWorkshopProductionContext (contextValue stockProfiles registrations) = .ok context) :
    parseWorkshopProductionContext context.toJson = .ok context := by
  obtain ⟨profiles, regs, hok, rfl⟩ :=
    (parseWorkshopProductionContext_eq_ok hprofiles hregistrations).mp h
  have hpermProfiles := sortBy_perm (fun profile : StockProfile => roleOrder profile.role) profiles
  have hpermRegs := sortBy_perm registrationOrder regs
  refine (parseWorkshopProductionContext_eq_ok (ProductionContext.integral_profilesJson _)
    (ProductionContext.integral_registrationsJson _)).mpr
      ⟨_, _, hok.toJson hpermProfiles hpermRegs, ?_⟩
  exact congrArg₂ ProductionContext.mk (sorted_profiles_eq hpermProfiles.symm hok.roles)
    (sorted_registrations_eq hpermRegs.symm hok.sheets)

end Written

/-! ## Order -/

/-- Two lists with the same items in some order, or one member twice. -/
def SameItems (found found' : Option Json) : Prop :=
  found = found' ∨ ∃ items items', found = some (.arr items) ∧ found' = some (.arr items') ∧
    items.Perm items'

/-- Two profiles that differ in the order of their zones at most. -/
structure SameButZones (item item' : Json) : Prop where
  object : item.typeName = item'.typeName
  keys : ∀ key, key ∈ item.keys ↔ key ∈ item'.keys
  other : ∀ name, name ≠ "defect_zones" → name ≠ "fixture_keep_out_zones" →
    item.get name = item'.get name
  defects : SameItems (item.get "defect_zones") (item'.get "defect_zones")
  fixtures : SameItems (item.get "fixture_keep_out_zones") (item'.get "fixture_keep_out_zones")

/-- The same profiles in some order, each with the same zones in some order. -/
def SameProfiles (stockProfiles stockProfiles' : Json) : Prop :=
  ∃ items items', stockProfiles = .arr items ∧ stockProfiles' = .arr items' ∧
    Relation.Comp (List.Forall₂ SameButZones) List.Perm items items'

section Order

variable {value value' : Json} {name : String}

theorem SameItems.symm {found found' : Option Json} (h : SameItems found found') :
    SameItems found' found := by
  obtain rfl | ⟨items, items', hitems, hitems', hperm⟩ := h
  · exact .inl rfl
  · exact .inr ⟨items', items, hitems', hitems, hperm.symm⟩

theorem SameButZones.symm {item item' : Json} (h : SameButZones item item') :
    SameButZones item' item where
  object := h.object.symm
  keys := fun key => (h.keys key).symm
  other := fun name hdefects hfixtures => (h.other name hdefects hfixtures).symm
  defects := h.defects.symm
  fixtures := h.fixtures.symm

theorem SameProfiles.symm {stockProfiles stockProfiles' : Json}
    (h : SameProfiles stockProfiles stockProfiles') : SameProfiles stockProfiles' stockProfiles := by
  obtain ⟨items, items', hitems, hitems', middle, hsame, hperm⟩ := h
  have hback : List.Forall₂ SameButZones middle items :=
    List.Forall₂.flip (hsame.imp fun _ _ h => h.symm)
  exact ⟨items', items, hitems', hitems, List.perm_comp_forall₂ hperm.symm hback⟩

theorem IntMember.congr {low high n : Int} (h : IntMember value name low high n)
    (hget : value.get name = value'.get name) : IntMember value' name low high n :=
  ⟨hget ▸ h.1, h.2⟩

theorem IdentityMember.congr {text : String} (h : IdentityMember value name text)
    (hget : value.get name = value'.get name) : IdentityMember value' name text :=
  ⟨hget ▸ h.1, h.2⟩

theorem ChoiceMember.congr {α : Type} {allowed : List (String × α)} {a : α}
    (h : ChoiceMember value name allowed a) (hget : value.get name = value'.get name) :
    ChoiceMember value' name allowed a := by
  obtain ⟨text, htext, hlookup⟩ := h
  exact ⟨text, hget ▸ htext, hlookup⟩

theorem BoolMember.congr {b : Bool} (h : BoolMember value name b)
    (hget : value.get name = value'.get name) : BoolMember value' name b := hget.symm.trans h

/-- A list of the same items is read to the same list in some order. -/
theorem ListMember.reorder {α : Type} {low high : Nat} {reads : Json → α → Prop} {l : List α}
    (h : ListMember value name low high reads l)
    (hsame : SameItems (value.get name) (value'.get name)) :
    ∃ l', l'.Perm l ∧ ListMember value' name low high reads l' := by
  obtain ⟨items, hget, hlength, hread⟩ := h
  obtain hsame | ⟨given, given', hgiven, hgiven', hperm⟩ := hsame
  · exact ⟨l, .refl _, items, hsame ▸ hget, hlength, hread⟩
  · rw [hget] at hgiven
    cases hgiven
    obtain ⟨l', hread', hperm'⟩ := List.perm_comp_forall₂ hperm.symm hread
    exact ⟨l', hperm', given', hgiven', hperm.length_eq ▸ hlength, hread'⟩

theorem ProfileOk.reorder {item item' : Json} {profile : StockProfile} (h : ProfileOk item profile)
    (hsame : SameButZones item item') : ProfileOk item' profile := by
  obtain ⟨q, hread, hsound, rfl⟩ := h
  obtain ⟨defects, hdefects, hdefectsRead⟩ := hread.defectZones.reorder hsame.defects
  obtain ⟨fixtures, hfixtures, hfixturesRead⟩ := hread.fixtureKeepOutZones.reorder hsame.fixtures
  have hget : ∀ name, name ≠ "defect_zones" ∧ name ≠ "fixture_keep_out_zones" →
      item.get name = item'.get name := fun name hname => hsame.other name hname.1 hname.2
  have hsorted : ∀ {zones zones' : List StockZone}, zones'.Perm zones →
      sortBy zoneKey zones = sortBy zoneKey zones' := fun hperm =>
    sortBy_eq_of_perm hperm.symm fun _ _ _ _ h => zoneKey_injective h
  refine ⟨{ q with defectZones := defects, fixtureKeepOutZones := fixtures }, ?_,
    hsound.of_perm hdefects hfixtures, ?_⟩
  · exact {
      keys := ⟨hsame.object ▸ hread.keys.1, fun key hkey =>
        hread.keys.2 key ((hsame.keys key).mpr hkey)⟩
      role := hread.role.congr (hget _ (by decide))
      authority := hread.authority.congr (hget _ (by decide))
      supplierProfileId := hread.supplierProfileId.congr (hget _ (by decide))
      supplierProfileVersion := hread.supplierProfileVersion.congr (hget _ (by decide))
      materialId := hread.materialId.congr (hget _ (by decide))
      materialVersion := hread.materialVersion.congr (hget _ (by decide))
      sheetWidth := hread.sheetWidth.congr (hget _ (by decide))
      sheetHeight := hread.sheetHeight.congr (hget _ (by decide))
      thickness := hread.thickness.congr (hget _ (by decide))
      sheetCount := hread.sheetCount.congr (hget _ (by decide))
      trimMargin := hread.trimMargin.congr (hget _ (by decide))
      kerf := hread.kerf.congr (hget _ (by decide))
      grainDirection := hread.grainDirection.congr (hget _ (by decide))
      allowRotation := hread.allowRotation.congr (hget _ (by decide))
      defectZones := hdefectsRead
      fixtureKeepOutZones := hfixturesRead }
  · simp only [StockProfile.ordered, hsorted hdefects, hsorted hfixtures]

theorem forall₂_of_related {α β : Type} {related : α → α → Prop} {reads : α → β → Prop}
    {l l' : List α} {k : List β} (h : List.Forall₂ related l l') (hread : List.Forall₂ reads l k)
    (himp : ∀ a a' b, related a a' → reads a b → reads a' b) : List.Forall₂ reads l' k := by
  induction h generalizing k with
  | nil =>
    cases hread
    exact .nil
  | cons hhead _ ih =>
    cases hread with
    | cons hfirst hrest => exact .cons (himp _ _ _ hhead hfirst) (ih hrest)

theorem RegistrationsRead.reorder {registrations registrations' : Option Json}
    {regs : List Registration} (h : RegistrationsRead RegistrationOk registrations regs)
    (hsame : SameItems registrations registrations') :
    ∃ regs', regs'.Perm regs ∧ RegistrationsRead RegistrationOk registrations' regs' := by
  obtain rfl | ⟨given, given', rfl, rfl, hperm⟩ := hsame
  · exact ⟨regs, .refl _, h⟩
  · obtain ⟨hnone, -⟩ | ⟨items, hitems, hlength, hread⟩ := h
    · cases hnone
    · cases hitems
      obtain ⟨regs', hread', hperm'⟩ := List.perm_comp_forall₂ hperm.symm hread
      exact ⟨regs', hperm', .inr ⟨given', rfl, hperm.length_eq ▸ hlength, hread'⟩⟩

/-- The value of a context that is accepted may be put in any order. -/
theorem Accepts.reorder {stockProfiles stockProfiles' : Json}
    {registrations registrations' : Option Json} {profiles : List StockProfile}
    {regs : List Registration} (h : Accepts stockProfiles registrations profiles regs)
    (hprofiles : SameProfiles stockProfiles stockProfiles')
    (hregs : SameItems registrations registrations') :
    ∃ profiles' regs', profiles'.Perm profiles ∧ regs'.Perm regs ∧
      Accepts stockProfiles' registrations' profiles' regs' := by
  obtain ⟨items, items', rfl, rfl, middle, hsame, hperm⟩ := hprofiles
  obtain ⟨given, hgiven, hlength, hread⟩ := h.profilesRead
  cases hgiven
  have hmiddle := forall₂_of_related hsame hread fun _ _ _ hsame hok => ProfileOk.reorder hok hsame
  obtain ⟨profiles', hread', hprofiles'⟩ := List.perm_comp_forall₂ hperm.symm hmiddle
  obtain ⟨regs', hregs', hregsRead⟩ := h.registrationsRead.reorder hregs
  have hroles := (hprofiles'.map StockProfile.role).nodup_iff.mpr h.roles
  refine ⟨profiles', regs', hprofiles', hregs', ⟨items', rfl, ?_, hread'⟩, hregsRead, hroles,
    (hprofiles'.map _).mem_iff.mpr h.carcass, (hprofiles'.map _).nodup_iff.mpr h.identities,
    (hregs'.map _).nodup_iff.mpr h.sheets, fun r hr => ?_⟩
  · rwa [← hperm.length_eq, ← hsame.length_eq]
  · rw [findProfile_of_perm hprofiles' hroles]
    exact h.on r (hregs'.mem_iff.mp hr)

/-- What the browser holds does not depend on the order of profiles, zones and registrations. -/
theorem parseWorkshopProductionContext_reorder {stockProfiles stockProfiles' : Json}
    {registrations registrations' : Option Json} (hprofiles : stockProfiles.integral = true)
    (hprofiles' : stockProfiles'.integral = true)
    (hregistrations : ∀ given ∈ registrations, given.integral = true)
    (hregistrations' : ∀ given ∈ registrations', given.integral = true)
    (hsame : SameProfiles stockProfiles stockProfiles')
    (hsameRegs : SameItems registrations registrations') {context : ProductionContext}
    (h : parseWorkshopProductionContext (contextValue stockProfiles registrations) = .ok context) :
    parseWorkshopProductionContext (contextValue stockProfiles' registrations') = .ok context := by
  obtain ⟨profiles, regs, hok, rfl⟩ :=
    (parseWorkshopProductionContext_eq_ok hprofiles hregistrations).mp h
  obtain ⟨profiles', regs', hpermProfiles, hpermRegs, hok'⟩ := hok.reorder hsame hsameRegs
  refine (parseWorkshopProductionContext_eq_ok hprofiles' hregistrations').mpr ⟨_, _, hok', ?_⟩
  exact congrArg₂ ProductionContext.mk (sorted_profiles_eq hpermProfiles.symm hok.roles)
    (sorted_registrations_eq hpermRegs.symm hok.sheets)

end Order

end Custombuild.Web.Workshop
