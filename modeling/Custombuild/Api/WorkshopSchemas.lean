/-
  The workshop context of a revision as the server reads it.
  Source: `app/schemas.py`, `RevisionProductionContext`, `WorkshopStockProfile`,
  `WorkshopTwoSidedRegistration` and `_validate_workshop_stock_context`.

  The sizes of the older fields are in whole micrometres.  Of several errors the first is reported;
  an error of a field carries its name.
-/
import Custombuild.Web.WorkshopContext

namespace Custombuild.Api.Workshop

open Custombuild.Lib Custombuild.Domain Custombuild.Web.Workshop
open Custombuild.Manufacturing (Point2D)

/-! ## Fields -/

section Fields

/-- A model with `extra="forbid"`. -/
def forbidExtra (value : Json) (names : List String) : Except ValueError Unit := do
  require (value.typeName = "object") (.message "Input should be a valid dictionary")
  require (value.keys.all fun key => names.contains key)
    (.message "Extra inputs are not permitted")

/-- A strict integer with its bounds. -/
def strictInt (value : Json) (name : String) (low high : Int) : Except ValueError Int :=
  match value.get name with
  | some (.num n 0) => if low ≤ n ∧ n ≤ high then .ok n else .error (.field name)
  | _ => .error (.field name)

def strictBool (value : Json) (name : String) : Except ValueError Bool :=
  match value.get name with
  | some (.bool b) => .ok b
  | _ => .error (.field name)

/-- `WorkshopIdentity` -/
def workshopIdentity (value : Json) (name : String) : Except ValueError String :=
  match value.get name with
  | some (.str text) =>
    if 1 ≤ text.length ∧ text.length ≤ 64 ∧ matchesIdentityPattern text = true then .ok text
    else .error (.field name)
  | _ => .error (.field name)

/-- A `Literal` of texts and their values. -/
def literal {α : Type} (value : Json) (name : String) (allowed : List (String × α)) :
    Except ValueError α :=
  match value.get name with
  | some (.str text) => demand (allowed.lookup text) (.field name)
  | _ => .error (.field name)

/-- A list of models with its bounds. -/
def modelList {α : Type} (value : Json) (name : String) (low high : Nat)
    (read : Json → Except ValueError α) : Except ValueError (List α) :=
  match value.get name with
  | some (.arr items) => do
    require (decide (low ≤ items.length ∧ items.length ≤ high)) (.field name)
    collect read items
  | _ => .error (.field name)

end Fields

/-! ## Models -/

/-- `WorkshopStockZone` -/
def stockZone (value : Json) : Except ValueError StockZone := do
  forbidExtra value zoneKeys
  let xUm ← strictInt value "x_um" 0 10000000
  let yUm ← strictInt value "y_um" 0 5000000
  let widthUm ← strictInt value "width_um" 1 10000000
  let heightUm ← strictInt value "height_um" 1 5000000
  return { xUm, yUm, widthUm, heightUm }

/-- `validate_sheet_geometry` -/
def validateSheetGeometry (profile : StockProfile) : Except ValueError StockProfile := do
  require (decide (profile.trimMarginUm * 2 < min profile.sheetWidthUm profile.sheetHeightUm))
    (.message "trim_margin_um consumes the usable raw sheet")
  require (decide (profile.defectZones.map zoneKey).Nodup &&
      decide (profile.fixtureKeepOutZones.map zoneKey).Nodup)
    (.message "stock zones must be unique within their declared class")
  require ((profile.defectZones ++ profile.fixtureKeepOutZones).all fun zone =>
      zone.xUm + zone.widthUm ≤ profile.sheetWidthUm && zone.yUm + zone.heightUm ≤ profile.sheetHeightUm)
    (.message "stock zone extends outside the declared raw sheet")
  return { profile with
    defectZones := sortBy zoneKey profile.defectZones
    fixtureKeepOutZones := sortBy zoneKey profile.fixtureKeepOutZones }

/-- `WorkshopStockProfile` -/
def stockProfile (value : Json) : Except ValueError StockProfile := do
  forbidExtra value profileKeys
  let role ← literal value "role" roles
  let _ ← literal value "declaration_authority" [(clientDeclared, ())]
  let supplierProfileId ← workshopIdentity value "supplier_profile_id"
  let supplierProfileVersion ← workshopIdentity value "supplier_profile_version"
  let materialId ← workshopIdentity value "material_id"
  let materialVersion ← workshopIdentity value "material_version"
  let sheetWidthUm ← strictInt value "sheet_width_um" 1 10000000
  let sheetHeightUm ← strictInt value "sheet_height_um" 1 5000000
  let thicknessUm ← strictInt value "thickness_um" 1 100000
  let sheetCount ← strictInt value "sheet_count" 1 100
  let trimMarginUm ← strictInt value "trim_margin_um" 0 500000
  let kerfUm ← strictInt value "kerf_um" 6000 100000
  let grainDirection ← literal value "grain_direction" grains
  let allowRotation ← strictBool value "allow_rotation"
  let defectZones ← modelList value "defect_zones" 0 100 stockZone
  let fixtureKeepOutZones ← modelList value "fixture_keep_out_zones" 0 100 stockZone
  validateSheetGeometry
    { role, supplierProfileId, supplierProfileVersion, materialId, materialVersion, sheetWidthUm
      sheetHeightUm, thicknessUm, sheetCount, trimMarginUm, kerfUm, grainDirection, allowRotation
      defectZones, fixtureKeepOutZones }

/-- `WorkshopRegistrationPin` -/
def registrationPin (value : Json) : Except ValueError Point2D := do
  forbidExtra value pinKeys
  let xUm ← strictInt value "x_um" 0 10000000
  let yUm ← strictInt value "y_um" 0 5000000
  return ⟨xUm, yUm⟩

/-- `validate_unique_pins` -/
def validateUniquePins (registration : Registration) : Except ValueError Unit := do
  require (decide registration.pins.Nodup)
    (.message "two-sided registration pins must be unique")
  require (decide (registration.positionToleranceUm * 2 < registration.pinDiameterUm))
    (.message "position_tolerance_um must be less than the pin radius")
  require (decide (registration.pins.Pairwise fun first second =>
      (100000 + 2 * footprintRadius registration) ^ 2 ≤
        (first.xUm - second.xUm) ^ 2 + (first.yUm - second.yUm) ^ 2))
    (.message "every registration pin pair must retain a 100000 um usable baseline")

/-- `WorkshopTwoSidedRegistration` -/
def twoSidedRegistration (value : Json) : Except ValueError Registration := do
  forbidExtra value registrationKeys
  let stockRole ← literal value "stock_role" roles
  let sheetIndex ← strictInt value "sheet_index" 0 99
  let _ ← literal value "flip_axis" [("X", ())]
  let _ ← literal value "declaration_authority" [(clientDeclared, ())]
  let fixtureMethodId ← workshopIdentity value "fixture_method_id"
  let fixtureMethodVersion ← workshopIdentity value "fixture_method_version"
  let pinDiameterUm ← strictInt value "pin_diameter_um" 1000 50000
  let positionToleranceUm ← strictInt value "position_tolerance_um" 1 10000
  let pins ← modelList value "pins" 2 16 registrationPin
  let registration : Registration :=
    { stockRole, sheetIndex, fixtureMethodId, fixtureMethodVersion, pinDiameterUm
      positionToleranceUm, pins }
  validateUniquePins registration
  return registration

/-! ## The context -/

/-- The sheet of a role in the older fields. -/
structure LegacyStock where
  widthUm : Int
  heightUm : Int
  count : Int
deriving DecidableEq

/-- The declared ranges of the older fields of a role. -/
def LegacyStock.validate (legacy : LegacyStock) : Except ValueError Unit := do
  require (1 ≤ legacy.widthUm && legacy.widthUm ≤ 10000000) (.field "stock_width_mm")
  require (1 ≤ legacy.heightUm && legacy.heightUm ≤ 5000000) (.field "stock_height_mm")
  require (1 ≤ legacy.count && legacy.count ≤ 100) (.field "stock_count")

/-- The profile has the sheet of the older fields of its role. -/
def matchesLegacy (legacy : StockRole → LegacyStock) (profile : StockProfile) : Bool :=
  profile.sheetWidthUm = (legacy profile.role).widthUm &&
    profile.sheetHeightUm = (legacy profile.role).heightUm &&
    profile.sheetCount = (legacy profile.role).count

/-- The footprint of a pin is on the sheet and off its zones. -/
def checkPin (radius : Int) (profile : StockProfile) (pin : Point2D) : Except ValueError Unit := do
  let left := pin.xUm - radius
  let bottom := pin.yUm - radius
  let right := pin.xUm + radius
  let top := pin.yUm + radius
  require (!(left < 0 || bottom < 0 || profile.sheetWidthUm < right || profile.sheetHeightUm < top))
    (.message "two-sided registration pin footprint lies outside the raw sheet")
  require (!(profile.defectZones ++ profile.fixtureKeepOutZones).any fun zone =>
      !(right ≤ zone.xUm || zone.xUm + zone.widthUm ≤ left || top ≤ zone.yUm ||
        zone.yUm + zone.heightUm ≤ bottom))
    (.message "two-sided registration pin footprint collides with a stock zone")

/-- The loop over the registrations. -/
def checkRegistration (profiles : List StockProfile) (registration : Registration) :
    Except ValueError Unit := do
  let profile ← demand (findProfile profiles registration.stockRole)
    (.message "two-sided registration references an undeclared stock role")
  require (decide (registration.sheetIndex < profile.sheetCount))
    (.message "two-sided registration references a sheet outside stock count")
  forEach (checkPin (footprintRadius registration) profile) registration.pins

/-- By the text of the role: the back is sorted first. -/
def serverRoleOrder : StockRole → Nat
  | .back => 0
  | .carcass => 1

/-- `_validate_workshop_stock_context` where profiles are given. -/
def validateWorkshopStockContext (legacy : StockRole → LegacyStock) (profiles : List StockProfile)
    (registrations : List Registration) : Except ValueError ProductionContext := do
  require (decide (profiles.map StockProfile.role).Nodup)
    (.message "stock_profiles must contain each stock role at most once")
  require ((profiles.map StockProfile.role).contains .carcass)
    (.message "structured stock_profiles require one carcass profile")
  require (decide (profiles.map profileIdentity).Nodup)
    (.message "supplier stock profile identities must be unique")
  forEach (fun profile => require (matchesLegacy legacy profile) (.message
    ("structured " ++ roleText profile.role ++
      " stock must exactly match the frozen legacy dimensions"))) profiles
  require (decide (registrations.map registrationKey).Nodup)
    (.message "two-sided registration stock/sheet identities must be unique")
  forEach (checkRegistration profiles) registrations
  return {
    stockProfiles := sortBy (fun profile => roleOrder profile.role) profiles
    twoSidedRegistrations := sortBy (fun registration =>
      toLex (serverRoleOrder registration.stockRole, registration.sheetIndex)) registrations }

/-- The registrations, none where the field is absent or null. -/
def registrationList : Option Json → Except ValueError (List Registration)
  | none => .ok []
  | some .null => .ok []
  | some given =>
    modelList (.obj [("two_sided_registrations", given)]) "two_sided_registrations" 0 200
      twoSidedRegistration

/-- The context of given profiles. -/
def structuredContext (legacy : StockRole → LegacyStock) (stockProfiles : Json)
    (twoSidedRegistrations : Option Json) : Except ValueError ProductionContext := do
  let profiles ← modelList (.obj [("stock_profiles", stockProfiles)]) "stock_profiles" 0 2 stockProfile
  let registrations ← registrationList twoSidedRegistrations
  validateWorkshopStockContext legacy profiles registrations

/-- The field is absent or null. -/
def isNone : Option Json → Bool
  | none => true
  | some .null => true
  | some _ => false

/-- `RevisionProductionContext` of the older fields and the two structured ones; the machine profile
    and the keys of the whole are taken to be valid.  Without profiles nothing is structured. -/
def revisionProductionContext (legacy : StockRole → LegacyStock) (stockProfiles : Json)
    (twoSidedRegistrations : Option Json) : Except ValueError ProductionContext := do
  (legacy .carcass).validate
  (legacy .back).validate
  match stockProfiles with
  | .null =>
    let _ ← registrationList twoSidedRegistrations
    require (isNone twoSidedRegistrations)
      (.message "two_sided_registrations require structured stock_profiles")
    return ⟨[], []⟩
  | given => structuredContext legacy given twoSidedRegistrations

end Custombuild.Api.Workshop
