/-
  The browser and the server accept the same workshop context and hold the same of it.
-/
import Custombuild.Web.WorkshopReading

namespace Custombuild.Web.Workshop

open Custombuild.Lib Custombuild.Domain Custombuild.Api.Workshop
open Custombuild.Manufacturing (Point2D)

/-! ## Accepted contexts -/

/-- The context as the browser is given it: a member that is absent has no key. -/
def contextValue (stockProfiles : Json) (registrations : Option Json) : Json :=
  .obj (("stock_profiles", stockProfiles) ::
    (registrations.map fun given => ("two_sided_registrations", given)).toList)

/-- A profile is read and sound, and its zones are put in order. -/
def ProfileOk (item : Json) (profile : StockProfile) : Prop :=
  ∃ p, ProfileRead item p ∧ ProfileSound p ∧ profile = p.ordered

def RegistrationOk (item : Json) (r : Registration) : Prop :=
  RegistrationRead item r ∧ RegistrationSound r

/-- The registrations as both read them one by one. -/
def RegistrationsRead (reads : Json → Registration → Prop) (registrations : Option Json)
    (regs : List Registration) : Prop :=
  registrations = none ∧ regs = [] ∨ ∃ items, registrations = some (.arr items) ∧
    items.length ≤ 200 ∧ List.Forall₂ reads items regs

/-- What both accept, with the profiles and the registrations in the order given. -/
structure Accepts (stockProfiles : Json) (registrations : Option Json)
    (profiles : List StockProfile) (regs : List Registration) : Prop where
  profilesRead : ∃ items, stockProfiles = .arr items ∧ items.length ≤ 2 ∧
    List.Forall₂ ProfileOk items profiles
  registrationsRead : RegistrationsRead RegistrationOk registrations regs
  roles : (profiles.map StockProfile.role).Nodup
  carcass : .carcass ∈ profiles.map StockProfile.role
  identities : (profiles.map profileIdentity).Nodup
  sheets : (regs.map registrationKey).Nodup
  on : ∀ r ∈ regs, ∃ profile, findProfile profiles r.stockRole = some profile ∧ RegistrationOn profile r

section Agreement

variable {stockProfiles : Json} {registrations : Option Json} {profiles : List StockProfile}
  {regs : List Registration}

theorem ProfileOk.ranges {item : Json} {profile : StockProfile} (h : ProfileOk item profile) :
    SheetRanges profile := by
  obtain ⟨p, hread, -, rfl⟩ := h
  exact ⟨hread.sheetWidth.2.2, hread.sheetHeight.2.2, hread.sheetCount.2.2⟩

theorem forall_of_forall₂ {α β : Type} {reads : α → β → Prop} {P : β → Prop}
    (himp : ∀ a b, reads a b → P b) {l : List α} {l' : List β} (h : List.Forall₂ reads l l') :
    ∀ b ∈ l', P b := by
  intro b hb
  obtain ⟨i, hi, rfl⟩ := List.getElem_of_mem hb
  exact himp _ _ (h.get (by rw [h.length_eq]; exact hi) hi)

theorem findProfile_of_perm {profiles' : List StockProfile} (hperm : profiles.Perm profiles')
    (hroles : (profiles.map StockProfile.role).Nodup) (role : StockRole) :
    findProfile profiles role = findProfile profiles' role := by
  have hsome : ∀ {l l' : List StockProfile} {profile}, l.Perm l' →
      (l.map StockProfile.role).Nodup → findProfile l role = some profile →
        findProfile l' role = some profile := by
    intro l l' profile hl hnodup hfound
    have hmem := List.mem_of_find?_eq_some hfound
    have hrole := List.find?_some hfound
    cases hother : findProfile l' role with
    | none =>
      have := List.find?_eq_none.mp hother profile (hl.mem_iff.mp hmem)
      exact absurd hrole this
    | some other =>
      have hotherMem := hl.mem_iff.mpr (List.mem_of_find?_eq_some hother)
      have hotherRole := List.find?_some hother
      rw [decide_eq_true_eq] at hrole hotherRole
      rw [List.inj_on_of_nodup_map hnodup hotherMem hmem (hotherRole.trans hrole.symm)]
  cases hfound : findProfile profiles role with
  | some profile => exact (hsome hperm hroles hfound).symm
  | none =>
    cases hother : findProfile profiles' role with
    | none => rfl
    | some other =>
      have := hsome hperm.symm ((hperm.map _).nodup_iff.mp hroles) hother
      rw [hfound] at this
      cases this

/-- The carcass stands first once profiles are in order. -/
theorem head_carcass_iff : ((sortBy (fun profile => roleOrder profile.role) profiles).head?.map
      StockProfile.role = some .carcass) ↔ .carcass ∈ profiles.map StockProfile.role := by
  have hperm := sortBy_perm (fun profile : StockProfile => roleOrder profile.role) profiles
  have hsorted := sortBy_pairwise (fun profile : StockProfile => roleOrder profile.role) profiles
  rw [← (hperm.map StockProfile.role).mem_iff]
  cases hlist : sortBy (fun profile => roleOrder profile.role) profiles with
  | nil => simp
  | cons first rest =>
    rw [hlist, List.pairwise_cons] at hsorted
    simp only [List.head?_cons, Option.map_some, Option.some.injEq, List.map_cons, List.mem_cons]
    constructor
    · intro h
      exact .inl h.symm
    · rintro (h | h)
      · exact h.symm
      · obtain ⟨profile, hmem, hrole⟩ := List.mem_map.mp h
        have hle := hsorted.1 profile hmem
        rw [hrole] at hle
        cases hfirst : first.role with
        | carcass => rfl
        | back => rw [hfirst] at hle; exact absurd hle (by decide)

theorem registrationList_eq_ok (hnull : registrations ≠ some .null) :
    registrationList registrations = .ok regs ↔
    RegistrationsRead RegistrationOk registrations regs := by
  have hget : ∀ given, (Json.obj [("two_sided_registrations", given)]).get
      "two_sided_registrations" = some given := fun given => by simp [Json.get]
  unfold RegistrationsRead
  cases registrations with
  | none => simp [registrationList, eq_comm]
  | some given =>
    have hlist : registrationList (some given) = modelList
        (.obj [("two_sided_registrations", given)]) "two_sided_registrations" 0 200
        twoSidedRegistration := by
      cases given <;> first | rfl | exact absurd rfl hnull
    rw [hlist, modelList_eq_ok]
    simp only [ListMember, hget, Option.some.injEq, Nat.zero_le, true_and, reduceCtorEq, false_and,
      false_or, twoSidedRegistration_eq_ok]
    rfl

/-- What the server accepts and holds. -/
theorem revisionProductionContext_eq_ok {legacy : StockRole → LegacyStock}
    (hlegacy : ∀ role, (legacy role).validate = .ok ()) (hgiven : stockProfiles ≠ .null)
    (hnull : registrations ≠ some .null) {context : ProductionContext} :
    revisionProductionContext legacy stockProfiles registrations = .ok context ↔
      ∃ profiles regs, Accepts stockProfiles registrations profiles regs ∧
        (∀ profile ∈ profiles, matchesLegacy legacy profile = true) ∧
        context = ⟨sortBy (fun profile => roleOrder profile.role) profiles,
          sortBy (fun r => toLex (serverRoleOrder r.stockRole, r.sheetIndex)) regs⟩ := by
  have hget : (Json.obj [("stock_profiles", stockProfiles)]).get "stock_profiles" =
      some stockProfiles := by simp [Json.get]
  have hstructured : revisionProductionContext legacy stockProfiles registrations =
      structuredContext legacy stockProfiles registrations := by
    unfold revisionProductionContext
    rw [hlegacy, hlegacy]
    cases stockProfiles <;> first | rfl | exact absurd rfl hgiven
  simp only [hstructured, structuredContext, bind_eq_ok, modelList_eq_ok,
    registrationList_eq_ok hnull, validateWorkshopStockContext, require_eq_ok, decide_eq_true_eq,
    forEach_eq_ok, checkRegistration_eq_ok, exists_const, ListMember, hget, Option.some.injEq,
    Nat.zero_le, true_and, List.contains_iff_mem, stockProfile_eq_ok]
  constructor
  · rintro ⟨profiles, ⟨items, hitems, hlength, hread⟩, regs, hregs, hroles, hcarcass, hidentities,
      hmatch, hsheets, hon, hcontext⟩
    exact ⟨profiles, regs, ⟨⟨items, hitems, hlength, hread⟩, hregs, hroles, hcarcass, hidentities,
      hsheets, hon⟩, hmatch, (Except.ok.inj hcontext).symm⟩
  · rintro ⟨profiles, regs, ⟨⟨items, hitems, hlength, hread⟩, hregs, hroles, hcarcass, hidentities,
      hsheets, hon⟩, hmatch, rfl⟩
    exact ⟨profiles, ⟨items, hitems, hlength, hread⟩, regs, hregs, hroles, hcarcass, hidentities,
      hmatch, hsheets, hon, rfl⟩

theorem forall₂_and_iff {α β : Type} {reads : α → β → Prop} {P : β → Prop} {l : List α} {l' : List β} :
    List.Forall₂ (fun a b => reads a b ∧ P b) l l' ↔ List.Forall₂ reads l l' ∧ ∀ b ∈ l', P b := by
  constructor
  · intro h
    exact ⟨h.imp fun _ _ h => h.1, forall_of_forall₂ (fun _ _ h => h.2) h⟩
  · rintro ⟨hreads, hall⟩
    induction hreads with
    | nil => exact .nil
    | cons hread _ ih =>
      rw [List.forall_mem_cons] at hall
      exact .cons ⟨hread, hall.1⟩ (ih hall.2)

/-- What the browser makes of the registrations. -/
theorem parseRegistrations_eq_ok (hintegral : ∀ given ∈ registrations, given.integral = true)
    (hsheets : ∀ profile ∈ profiles, SheetRanges profile) :
    parseRegistrations profiles registrations = .ok regs ↔
      RegistrationsRead RegistrationOk registrations regs ∧
        ∀ r ∈ regs, ∃ profile, findProfile profiles r.stockRole = some profile ∧
          RegistrationOn profile r := by
  unfold RegistrationsRead
  cases registrations with
  | none =>
    simp only [parseRegistrations, Except.ok.injEq, true_and, reduceCtorEq, false_and, exists_const,
      or_false]
    constructor
    · rintro rfl
      exact ⟨rfl, fun _ h => absurd h List.not_mem_nil⟩
    · rintro ⟨rfl, -⟩
      rfl
  | some given =>
    have hget : (Json.obj [("two_sided_registrations", given)]).get "two_sided_registrations" =
        some given := by simp [Json.get]
    simp only [parseRegistrations, bind_eq_ok, ← hget, boundedArray_eq_ok]
    simp only [hget, Option.some.injEq, Nat.zero_le, true_and, reduceCtorEq, false_and, false_or]
    constructor
    · rintro ⟨items, ⟨rfl, hlength⟩, hread⟩
      have hitems := hintegral _ rfl
      rw [Json.integral] at hitems
      rw [parseEach_eq_ok fun item hitem path r =>
        parseRegistration_eq_ok (Json.integral_of_mem_items hitems hitem) hsheets] at hread
      have hboth : List.Forall₂ (fun item r => RegistrationOk item r ∧ ∃ profile,
          findProfile profiles r.stockRole = some profile ∧ RegistrationOn profile r) items regs :=
        hread.imp fun _ _ h => ⟨⟨h.1, h.2.1⟩, h.2.2⟩
      obtain ⟨hok, hon⟩ := forall₂_and_iff.mp hboth
      exact ⟨⟨items, rfl, hlength, hok⟩, hon⟩
    · rintro ⟨⟨items, rfl, hlength, hok⟩, hon⟩
      refine ⟨items, ⟨rfl, hlength⟩, ?_⟩
      have hitems := hintegral _ rfl
      rw [Json.integral] at hitems
      rw [parseEach_eq_ok fun item hitem path r =>
        parseRegistration_eq_ok (Json.integral_of_mem_items hitems hitem) hsheets]
      exact (forall₂_and_iff.mpr ⟨hok, hon⟩).imp fun _ _ h => ⟨h.1.1, h.1.2, h.2⟩

theorem contextValue_keys : exactKeys (contextValue stockProfiles registrations) ["stock_profiles"]
    ["two_sided_registrations"] "workshop_context" = .ok () := by
  rw [exactKeys_eq_ok]
  cases registrations <;> simp [contextValue, Json.keys]

@[simp] theorem contextValue_stockProfiles :
    (contextValue stockProfiles registrations).get "stock_profiles" = some stockProfiles := by
  simp [contextValue, Json.get]

@[simp] theorem contextValue_registrations :
    (contextValue stockProfiles registrations).get "two_sided_registrations" = registrations := by
  cases registrations <;> simp [contextValue, Json.get]

/-- What the browser accepts and holds. -/
theorem parseWorkshopProductionContext_eq_ok (hprofiles : stockProfiles.integral = true)
    (hregistrations : ∀ given ∈ registrations, given.integral = true)
    {context : ProductionContext} :
    parseWorkshopProductionContext (contextValue stockProfiles registrations) = .ok context ↔
      ∃ profiles regs, Accepts stockProfiles registrations profiles regs ∧
        context = ⟨sortBy (fun profile => roleOrder profile.role) profiles,
          sortBy registrationOrder regs⟩ := by
  have hget : ∀ {low high : Nat} {path : String} {items : List Json},
      boundedArray (some stockProfiles) path low high = .ok items ↔
        stockProfiles = .arr items ∧ low ≤ items.length ∧ items.length ≤ high := by
    intro low high path items
    have hmember : (contextValue stockProfiles none).get "stock_profiles" = some stockProfiles :=
      contextValue_stockProfiles
    rw [← hmember, boundedArray_eq_ok, hmember, Option.some.injEq]
  have hread : ∀ {items : List Json} {given : List StockProfile}, stockProfiles = .arr items →
      (parseEach parseProfile "workshop_context.stock_profiles" items = .ok given ↔
        List.Forall₂ ProfileOk items given) := by
    rintro items given rfl
    rw [Json.integral] at hprofiles
    exact parseEach_eq_ok fun item hitem path p =>
      parseProfile_eq_ok (Json.integral_of_mem_items hprofiles hitem)
  have hsheets : ∀ {items : List Json} {given : List StockProfile}, List.Forall₂ ProfileOk items given →
      ∀ profile ∈ sortBy (fun profile => roleOrder profile.role) given, SheetRanges profile :=
    fun hok profile hprofile =>
      forall_of_forall₂ (fun _ _ h => h.ranges) hok profile (mem_sortBy.mp hprofile)
  simp only [parseWorkshopProductionContext, bind_eq_ok, record_eq_ok, contextValue_keys,
    contextValue_stockProfiles, contextValue_registrations, hget, require_eq_ok, decide_eq_true_eq,
    exists_const, true_and, head_carcass_iff, ((sortBy_perm _ _).map _).nodup_iff]
  constructor
  · rintro ⟨-, items, ⟨hitems, hlow, hhigh⟩, given, hgiven, hroles, hidentities, hcarcass, regs,
      hregs, hsheetsNodup, hcontext⟩
    rw [hread hitems] at hgiven
    rw [parseRegistrations_eq_ok hregistrations (hsheets hgiven)] at hregs
    refine ⟨given, regs, ⟨⟨items, hitems, hhigh, hgiven⟩, hregs.1, hroles, hcarcass, hidentities,
      hsheetsNodup, ?_⟩, (Except.ok.inj hcontext).symm⟩
    intro r hr
    rw [findProfile_of_perm (sortBy_perm (fun profile => roleOrder profile.role) given).symm hroles]
    exact hregs.2 r hr
  · rintro ⟨profiles, regs, ⟨⟨items, hitems, hhigh, hok⟩, hregsRead, hroles, hcarcass, hidentities,
      hsheetsNodup, hon⟩, rfl⟩
    have hlow : 1 ≤ items.length := by
      rw [hok.length_eq]
      obtain ⟨profile, hmem, -⟩ := List.mem_map.mp hcarcass
      exact List.length_pos_of_mem hmem
    refine ⟨rfl, items, ⟨hitems, hlow, hhigh⟩, profiles, (hread hitems).mpr hok, hroles, hidentities,
      hcarcass, regs, ?_, hsheetsNodup, rfl⟩
    rw [parseRegistrations_eq_ok hregistrations (hsheets hok)]
    refine ⟨hregsRead, fun r hr => ?_⟩
    rw [← findProfile_of_perm (sortBy_perm (fun profile => roleOrder profile.role) profiles).symm
      hroles]
    exact hon r hr

end Agreement

end Custombuild.Web.Workshop
