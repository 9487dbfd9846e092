/-
  The workshop context between the browser, the server and manufacturing.
-/
import Custombuild.Web.MillimetreText
import Custombuild.Web.WorkshopRegistrations

namespace Custombuild.Web.Workshop

open Custombuild.Lib Custombuild.Domain Custombuild.Api.Workshop
open Custombuild.Manufacturing

/-- The same context up to the order of its registrations. -/
def SameContext (context context' : ProductionContext) : Prop :=
  context.stockProfiles = context'.stockProfiles ∧
    context.twoSidedRegistrations.Perm context'.twoSidedRegistrations

section Contract

variable {stockProfiles : Json} {registrations : Option Json}

theorem matchesLegacy_ordered {legacy : StockRole → LegacyStock} {profiles : List StockProfile} :
    (∀ profile ∈ sortBy (fun profile => roleOrder profile.role) profiles,
      matchesLegacy legacy profile = true) ↔
        ∀ profile ∈ profiles, matchesLegacy legacy profile = true := by
  simp only [mem_sortBy]

/-- The server accepts what the browser accepts where the sheets are those of the older fields. -/
theorem accepts_iff (hprofiles : stockProfiles.integral = true)
    (hregistrations : ∀ given ∈ registrations, given.integral = true)
    (hgiven : stockProfiles ≠ .null) (hnull : registrations ≠ some .null)
    {legacy : StockRole → LegacyStock} (hlegacy : ∀ role, (legacy role).validate = .ok ()) :
    (∃ server, revisionProductionContext legacy stockProfiles registrations = .ok server) ↔
      ∃ browser, parseWorkshopProductionContext (contextValue stockProfiles registrations) =
        .ok browser ∧ ∀ profile ∈ browser.stockProfiles, matchesLegacy legacy profile = true := by
  simp only [revisionProductionContext_eq_ok hlegacy hgiven hnull,
    parseWorkshopProductionContext_eq_ok hprofiles hregistrations]
  constructor
  · rintro ⟨_, profiles, regs, hok, hmatch, -⟩
    exact ⟨_, ⟨profiles, regs, hok, rfl⟩, matchesLegacy_ordered.mpr hmatch⟩
  · rintro ⟨_, ⟨profiles, regs, hok, rfl⟩, hmatch⟩
    exact ⟨_, profiles, regs, hok, matchesLegacy_ordered.mp hmatch, rfl⟩

/-- Both hold the same of what they accept. -/
theorem sameContext_of_accepted (hprofiles : stockProfiles.integral = true)
    (hregistrations : ∀ given ∈ registrations, given.integral = true)
    (hgiven : stockProfiles ≠ .null) (hnull : registrations ≠ some .null)
    {legacy : StockRole → LegacyStock} (hlegacy : ∀ role, (legacy role).validate = .ok ())
    {server browser : ProductionContext}
    (hserver : revisionProductionContext legacy stockProfiles registrations = .ok server)
    (hbrowser : parseWorkshopProductionContext (contextValue stockProfiles registrations) =
      .ok browser) : SameContext server browser := by
  obtain ⟨profiles, regs, hok, -, rfl⟩ :=
    (revisionProductionContext_eq_ok hlegacy hgiven hnull).mp hserver
  have hsame := (parseWorkshopProductionContext_eq_ok hprofiles hregistrations).mpr
    ⟨profiles, regs, hok, rfl⟩
  rw [hbrowser] at hsame
  obtain rfl := Except.ok.inj hsame
  exact ⟨rfl, (sortBy_perm _ _).trans (sortBy_perm _ _).symm⟩

/-- The profile of an accepted registration, on which it lies. -/
theorem exists_profile (hprofiles : stockProfiles.integral = true)
    (hregistrations : ∀ given ∈ registrations, given.integral = true) {context : ProductionContext}
    (h : parseWorkshopProductionContext (contextValue stockProfiles registrations) = .ok context)
    {r : Registration} (hr : r ∈ context.twoSidedRegistrations) :
    (∃ item, RegistrationOk item r) ∧ ∃ profile ∈ context.stockProfiles,
      profile.role = r.stockRole ∧ RegistrationOn profile r := by
  obtain ⟨profiles, regs, hok, rfl⟩ :=
    (parseWorkshopProductionContext_eq_ok hprofiles hregistrations).mp h
  have hmem : r ∈ regs := mem_sortBy.mp hr
  obtain ⟨profile, hfound, hon⟩ := hok.on r hmem
  have hrole := List.find?_some hfound
  rw [decide_eq_true_eq] at hrole
  refine ⟨?_, profile, mem_sortBy.mpr (List.mem_of_find?_eq_some hfound), hrole, hon⟩
  obtain ⟨-, rfl⟩ | ⟨items, -, -, hread⟩ := hok.registrationsRead
  · cases hmem
  · exact forall_of_forall₂ (P := fun r => ∃ item, RegistrationOk item r)
      (fun item _ h => ⟨item, h⟩) hread r hmem

end Contract

/-- The server accepts a workshop context exactly when the browser does and the sheets are those of
    the older fields, and both hold the same; what the browser holds is read again as it is, whatever
    the order of the value; every registration enters manufacturing; and the text of a number of
    micrometres is read as that number. -/
theorem workshop_context_agrees (stockProfiles : Json) (registrations : Option Json)
    (hprofiles : stockProfiles.integral = true)
    (hregistrations : ∀ given ∈ registrations, given.integral = true)
    (hgiven : stockProfiles ≠ .null) (hnull : registrations ≠ some .null) :
    (∀ legacy : StockRole → LegacyStock, (∀ role, (legacy role).validate = .ok ()) →
      ((∃ server, revisionProductionContext legacy stockProfiles registrations = .ok server) ↔
        ∃ browser, parseWorkshopProductionContext (contextValue stockProfiles registrations) =
          .ok browser ∧ ∀ profile ∈ browser.stockProfiles, matchesLegacy legacy profile = true) ∧
      ∀ server browser,
        revisionProductionContext legacy stockProfiles registrations = .ok server →
        parseWorkshopProductionContext (contextValue stockProfiles registrations) = .ok browser →
          SameContext server browser) ∧
    (∀ stockProfiles' registrations', stockProfiles'.integral = true →
      (∀ given ∈ registrations', given.integral = true) →
      SameProfiles stockProfiles stockProfiles' → SameItems registrations registrations' →
      ∀ context,
        parseWorkshopProductionContext (contextValue stockProfiles registrations) = .ok context ↔
          parseWorkshopProductionContext (contextValue stockProfiles' registrations') =
            .ok context) ∧
    (∀ context,
      parseWorkshopProductionContext (contextValue stockProfiles registrations) = .ok context →
        parseWorkshopProductionContext context.toJson = .ok context ∧
        ∀ r ∈ context.twoSidedRegistrations, ∃ plan, IsPlanOf r plan ∧
          ∃ profile ∈ context.stockProfiles, profile.role = r.stockRole ∧
            ∀ (stocks : List StockSheet) (stock : StockSheet), stock ∈ stocks →
              (stocks.map StockSheet.stockId).Nodup → IsStockOf profile stock →
                checkTwoSidedRegistrations stocks [(stock.stockId, [(r.sheetIndex, plan)])] =
                  .ok ()) ∧
    ∀ valueUm : Int, 0 ≤ valueUm → valueUm ≤ maxSafeInteger →
      ∃ text, micrometresToMillimetreText valueUm = .ok text ∧
        exactMillimetreTextToMicrometres text 0 maxSafeInteger = .ok valueUm := by
  refine ⟨fun legacy hlegacy => ⟨accepts_iff hprofiles hregistrations hgiven hnull hlegacy,
    fun server browser => sameContext_of_accepted hprofiles hregistrations hgiven hnull hlegacy⟩,
    ?_, ?_, fun valueUm => exactMillimetreTextToMicrometres_text⟩
  · intro stockProfiles' registrations' hprofiles' hregistrations' hsame hsameRegs context
    exact ⟨parseWorkshopProductionContext_reorder hprofiles hprofiles' hregistrations
      hregistrations' hsame hsameRegs, parseWorkshopProductionContext_reorder hprofiles' hprofiles
      hregistrations' hregistrations hsame.symm hsameRegs.symm⟩
  · intro context hcontext
    refine ⟨parseWorkshopProductionContext_toJson hprofiles hregistrations hcontext, ?_⟩
    intro r hr
    obtain ⟨⟨item, hok⟩, profile, hprofile, hrole, hon⟩ :=
      exists_profile hprofiles hregistrations hcontext hr
    obtain ⟨plan, hplan⟩ := hok.exists_plan
    refine ⟨plan, hplan, profile, hprofile, hrole, fun stocks stock hstock hids hof => ?_⟩
    refine checkTwoSidedRegistrations_ok hids fun entry hentry => ?_
    obtain rfl := List.mem_singleton.mp hentry
    refine ⟨stock, hstock, profile, rfl, hof, fun sheet hsheet => ?_⟩
    obtain rfl := List.mem_singleton.mp hsheet
    exact ⟨r, hok.1.sheetIndex.2.1, hon, rfl, hplan⟩

/-! One sheet with a zone, flipped on two pins. -/

namespace FlippedSheet

def profile : StockProfile :=
  { role := .carcass, supplierProfileId := "mill", supplierProfileVersion := "1"
    materialId := "birch-plywood", materialVersion := "1", sheetWidthUm := 2440000
    sheetHeightUm := 1220000, thicknessUm := 18000, sheetCount := 2, trimMarginUm := 10000
    kerfUm := 6000, grainDirection := .x, allowRotation := true
    defectZones := [⟨600000, 600000, 100000, 100000⟩], fixtureKeepOutZones := [] }

def registration : Registration :=
  { stockRole := .carcass, sheetIndex := 1, fixtureMethodId := "pins", fixtureMethodVersion := "1"
    pinDiameterUm := 8000, positionToleranceUm := 100
    pins := [⟨50000, 50000⟩, ⟨2390000, 50000⟩] }

def context : ProductionContext := ⟨[profile], [registration]⟩

def registrations : Json := .arr [registration.toJson]

def legacy (_ : StockRole) : LegacyStock := ⟨2440000, 1220000, 2⟩

theorem workshop_context_agrees_flipped :
    (∃ server, revisionProductionContext legacy context.profilesJson (some registrations) =
      .ok server ∧ SameContext server context) ∧
    ∃ plan, IsPlanOf registration plan ∧
      ∃ text, micrometresToMillimetreText 2440000 = .ok text ∧
        exactMillimetreTextToMicrometres text 0 maxSafeInteger = .ok 2440000 := by
  have hparse : parseWorkshopProductionContext
      (contextValue context.profilesJson (some registrations)) = .ok context := by rfl
  have hprofiles : context.profilesJson.integral = true := by rfl
  have hregistrations : ∀ given ∈ some registrations, given.integral = true := by
    rintro given ⟨⟩
    rfl
  obtain ⟨hserver, -, hcontext, htext⟩ := workshop_context_agrees context.profilesJson
    (some registrations) hprofiles hregistrations (by rintro ⟨⟩) (by rintro ⟨⟩)
  have hlegacy : ∀ role, (legacy role).validate = .ok () := fun _ => rfl
  obtain ⟨hiff, hsame⟩ := hserver legacy hlegacy
  obtain ⟨server, hrevision⟩ := hiff.mpr ⟨context, hparse, by decide⟩
  obtain ⟨plan, hplan, -⟩ := (hcontext context hparse).2 registration List.mem_cons_self
  exact ⟨⟨server, hrevision, hsame server context hrevision hparse⟩, plan, hplan,
    htext 2440000 (by decide) (by decide)⟩

end FlippedSheet

end Custombuild.Web.Workshop
