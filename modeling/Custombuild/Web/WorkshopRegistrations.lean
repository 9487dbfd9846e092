/-
  An accepted registration enters manufacturing: it is a two-sided registration, and it passes the
  checks of a stock that is the sheet of its profile.
-/
import Custombuild.Manufacturing.StockRegistration
import Custombuild.Web.WorkshopCanonical

namespace Custombuild.Web.Workshop

open Custombuild.Lib Custombuild.Domain Custombuild.Api.Workshop
open Custombuild.Manufacturing

/-- The registration as manufacturing takes it. -/
structure IsPlanOf (r : Registration) (plan : TwoSidedRegistration) : Prop where
  methodId : plan.methodId = r.fixtureMethodId
  fixtureMethodVersion : plan.fixtureMethodVersion = r.fixtureMethodVersion
  pinDiameter : plan.pinDiameterUm = r.pinDiameterUm
  positionTolerance : plan.positionToleranceUm = r.positionToleranceUm
  points : plan.points = r.pins

def zoneRect (zone : StockZone) : Rect := ⟨zone.xUm, zone.yUm, zone.widthUm, zone.heightUm⟩

/-- The stock has the size, the sheets and the zones of the profile. -/
structure IsStockOf (profile : StockProfile) (stock : StockSheet) : Prop where
  width : stock.widthUm = profile.sheetWidthUm
  height : stock.heightUm = profile.sheetHeightUm
  quantity : (stock.quantity : Int) = profile.sheetCount
  defects : stock.defectZones = profile.defectZones.map zoneRect
  clamps : stock.clampZones = profile.fixtureKeepOutZones.map zoneRect

section Registrations

variable {item : Json} {r : Registration} {profile : StockProfile} {plan : TwoSidedRegistration}

theorem isRegistrationIdentity_of_pattern {text : String} (hlow : 1 ≤ text.length)
    (hhigh : text.length ≤ 64) (h : matchesIdentityPattern text = true) :
    isRegistrationIdentity text = true := by
  have hlength : text.toList.length = text.length := String.length_toList
  unfold matchesIdentityPattern at h
  cases htext : text.toList with
  | nil =>
    rw [htext] at hlength
    simp only [List.length_nil] at hlength
    omega
  | cons first rest =>
    simp only [htext, Bool.and_eq_true, List.all_eq_true, Bool.or_eq_true, decide_eq_true_eq] at h
    rw [htext] at hlength
    simp only [isRegistrationIdentity, htext, isRegistrationIdentityChar, List.isEmpty_cons,
      Bool.not_false, Bool.true_and, Bool.and_eq_true, decide_eq_true_eq, List.all_eq_true,
      List.forall_mem_cons, Bool.or_eq_true, beq_iff_eq]
    refine ⟨by omega, .inl (.inl (.inl (.inl h.1))), fun c hc => ?_⟩
    obtain ((halpha | hdot) | hunderscore) | hdash := h.2 c hc
    · exact .inl (.inl (.inl (.inl halpha)))
    · exact .inl (.inr hdot)
    · exact .inl (.inl (.inr hunderscore))
    · exact .inl (.inl (.inl (.inr hdash)))

/-- Every accepted registration can be built. -/
theorem RegistrationOk.exists_plan (h : RegistrationOk item r) : ∃ plan, IsPlanOf r plan := by
  obtain ⟨hread, hsound⟩ := h
  have hid := hread.fixtureMethodId.2
  have hversion := hread.fixtureMethodVersion.2
  have hcount : 2 ≤ r.pins.length ∧ r.pins.length ≤ 16 := by
    obtain ⟨items, -, hlength, hpins⟩ := hread.pins
    rwa [← hpins.length_eq]
  exact ⟨{
    declarationAuthority := "CLIENT_DECLARED"
    methodId := r.fixtureMethodId
    fixtureMethodVersion := r.fixtureMethodVersion
    pinDiameterUm := r.pinDiameterUm
    positionToleranceUm := r.positionToleranceUm
    points := r.pins
    authority_declared := rfl
    ids_valid := ⟨isRegistrationIdentity_of_pattern hid.1 hid.2.1 hid.2.2,
      isRegistrationIdentity_of_pattern hversion.1 hversion.2.1 hversion.2.2⟩
    pin_range := hread.pinDiameter.2
    tolerance_range := ⟨hread.positionTolerance.2.1, hread.positionTolerance.2.2, hsound.tolerance⟩
    points_count := hcount
    points_nodup := hsound.pins
    baseline := hsound.baseline }, rfl, rfl, rfl, rfl, rfl⟩

/-- A pin on its profile has its footprint on the stock and off the zones. -/
theorem checkFootprint_ok (hplan : IsPlanOf r plan) {stock : StockSheet}
    (hstock : IsStockOf profile stock) {pin : Point2D} (hpin : PinOn (footprintRadius r) profile pin) :
    checkFootprint stock (pinFootprint plan pin) = .ok () := by
  have hradius : registrationPinKeepOutRadiusUm plan = footprintRadius r := by
    rw [registrationPinKeepOutRadiusUm, hplan.pinDiameter, hplan.positionTolerance]
    rfl
  obtain ⟨hinside, hblocked⟩ := hpin
  simp only [pinInside, Bool.and_eq_true, decide_eq_true_eq] at hinside
  simp only [pinBlocked, List.any_eq_false, Bool.and_eq_true, decide_eq_true_eq] at hblocked
  rw [checkFootprint_eq_ok, Rect.contains_iff, hstock.defects, hstock.clamps, ← List.map_append,
    List.forall_mem_map]
  simp only [pinFootprint, hradius, Rect.rightUm, Rect.topUm, hstock.width, hstock.height]
  refine ⟨by omega, fun zone hzone => ?_⟩
  have hfree := hblocked zone hzone
  rw [Rect.intersects, Bool.not_eq_false']
  simp only [Bool.or_eq_true, decide_eq_true_eq]
  simp only [Rect.rightUm, Rect.topUm, zoneRect]
  omega

/-- The registrations of stocks that are the sheets of their profiles pass. -/
theorem checkTwoSidedRegistrations_ok {stocks : List StockSheet}
    (hids : (stocks.map StockSheet.stockId).Nodup)
    {registrations : List (String × List (Int × TwoSidedRegistration))}
    (h : ∀ entry ∈ registrations, ∃ stock ∈ stocks, ∃ profile, stock.stockId = entry.1 ∧
      IsStockOf profile stock ∧ ∀ sheet ∈ entry.2, ∃ r : Registration, 0 ≤ r.sheetIndex ∧
        RegistrationOn profile r ∧ sheet.1 = r.sheetIndex ∧ IsPlanOf r sheet.2) :
    checkTwoSidedRegistrations stocks registrations = .ok () := by
  rw [checkTwoSidedRegistrations_eq_ok]
  intro entry hentry
  obtain ⟨stock, hmem, profile, hid, hstock, hsheets⟩ := h entry hentry
  refine ⟨stock, hid ▸ find_stock hmem hids, fun sheet hsheet => ?_⟩
  obtain ⟨r, hindex, hon, hsheetIndex, hplan⟩ := hsheets sheet hsheet
  refine ⟨by rw [hsheetIndex, hstock.quantity]; exact ⟨hindex, hon.1⟩, fun footprint hfootprint => ?_⟩
  obtain ⟨pin, hpin, rfl⟩ := List.mem_map.mp hfootprint
  rw [hplan.points] at hpin
  exact checkFootprint_ok hplan hstock (hon.2 pin hpin)

end Registrations

end Custombuild.Web.Workshop
