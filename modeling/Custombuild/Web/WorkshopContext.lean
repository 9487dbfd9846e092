/-
  The workshop context of a revision: the stock profiles and two-sided registrations that a client
  declares, as the browser reads them.
  Source: `apps/web/lib/workshop-production-context.ts`, `parseWorkshopProductionContext` without a
  design to bind.

  A member that is absent is `undefined`.  A length in characters is one of the text: what matches
  the identity pattern is ASCII.
-/
import Custombuild.Domain.Model
import Custombuild.Lib.JsonSchema
import Custombuild.Manufacturing.Operations

namespace Custombuild.Web.Workshop

open Custombuild.Lib Custombuild.Domain
open Custombuild.Manufacturing (Point2D)

/-! ## Documents -/

inductive StockRole
  | carcass | back
deriving DecidableEq

inductive GrainDirection
  | x | y | none
deriving DecidableEq

structure StockZone where
  xUm : Int
  yUm : Int
  widthUm : Int
  heightUm : Int
deriving DecidableEq

structure StockProfile where
  role : StockRole
  supplierProfileId : String
  supplierProfileVersion : String
  materialId : String
  materialVersion : String
  sheetWidthUm : Int
  sheetHeightUm : Int
  thicknessUm : Int
  sheetCount : Int
  trimMarginUm : Int
  kerfUm : Int
  grainDirection : GrainDirection
  allowRotation : Bool
  defectZones : List StockZone
  fixtureKeepOutZones : List StockZone
deriving DecidableEq

structure Registration where
  stockRole : StockRole
  sheetIndex : Int
  fixtureMethodId : String
  fixtureMethodVersion : String
  pinDiameterUm : Int
  positionToleranceUm : Int
  pins : List Point2D
deriving DecidableEq

structure ProductionContext where
  stockProfiles : List StockProfile
  twoSidedRegistrations : List Registration
deriving DecidableEq

def roleText : StockRole → String
  | .carcass => "carcass"
  | .back => "back"

def grainText : GrainDirection → String
  | .x => "X"
  | .y => "Y"
  | .none => "NONE"

/-- `CLIENT_DECLARED`, the only authority. -/
def clientDeclared : String := "CLIENT_DECLARED"

def zoneKeys : List String := ["x_um", "y_um", "width_um", "height_um"]

def pinKeys : List String := ["x_um", "y_um"]

def profileKeys : List String :=
  ["role", "declaration_authority", "supplier_profile_id", "supplier_profile_version", "material_id",
    "material_version", "sheet_width_um", "sheet_height_um", "thickness_um", "sheet_count",
    "trim_margin_um", "kerf_um", "grain_direction", "allow_rotation", "defect_zones",
    "fixture_keep_out_zones"]

def registrationKeys : List String :=
  ["stock_role", "sheet_index", "declaration_authority", "flip_axis", "fixture_method_id",
    "fixture_method_version", "pin_diameter_um", "position_tolerance_um", "pins"]

/-- `^[A-Za-z0-9][A-Za-z0-9._-]*$` -/
def matchesIdentityPattern (text : String) : Bool :=
  match text.toList with
  | [] => false
  | first :: rest => first.isAlphanum &&
      rest.all fun c => c.isAlphanum || c = '.' || c = '_' || c = '-'

/-- The key by which zones are ordered and compared. -/
def zoneKey (zone : StockZone) : Int ×ₗ Int ×ₗ Int ×ₗ Int :=
  toLex (zone.yUm, toLex (zone.xUm, toLex (zone.heightUm, zone.widthUm)))

/-- The radius of a pin with its tolerance. -/
def footprintRadius (registration : Registration) : Int :=
  (registration.pinDiameterUm + 1) / 2 + registration.positionToleranceUm

/-! ## The browser's readers -/

section Readers

def record (value : Json) (path : String) : Except String Unit :=
  match value with
  | .obj _ => .ok ()
  | _ => .error (path ++ " måste vara ett objekt.")

def exactKeys (value : Json) (required optional : List String) (path : String) :
    Except String Unit := do
  require (value.keys.all fun key => (required ++ optional).contains key)
    (path ++ " innehåller okända fält.")
  require (required.all fun key => value.keys.contains key) (path ++ " saknar obligatoriska fält.")

/-- `exactInteger`; a number with a fraction of zeros is an integer. -/
def exactInteger (value : Option Json) (path : String) (minimum maximum : Int) :
    Except String Int :=
  let issue := path ++ " måste vara ett heltal mellan " ++ toString minimum ++ " och " ++
    toString maximum ++ "."
  match value with
  | some (.num coefficient scale) =>
    let n := coefficient / 10 ^ scale
    if coefficient % 10 ^ scale = 0 ∧ -(2 ^ 53 - 1) ≤ n ∧ n ≤ 2 ^ 53 - 1 ∧ minimum ≤ n ∧ n ≤ maximum
    then .ok n else .error issue
  | _ => .error issue

def exactBoolean (value : Option Json) (path : String) : Except String Bool :=
  match value with
  | some (.bool b) => .ok b
  | _ => .error (path ++ " måste vara sant eller falskt.")

def identity (value : Option Json) (path : String) : Except String String :=
  let issue := path ++ " måste vara ett stabilt ID med 1–64 ASCII-tecken."
  match value with
  | some (.str text) =>
    if 1 ≤ text.length ∧ text.length ≤ 64 ∧ matchesIdentityPattern text = true then .ok text
    else .error issue
  | _ => .error issue

/-- `oneOf` of values and their texts. -/
def oneOf {α : Type} (value : Option Json) (allowed : List (String × α)) (path : String) :
    Except String α :=
  let issue := path ++ " har ett värde som inte stöds."
  match value with
  | some (.str text) =>
    match allowed.lookup text with
    | some a => .ok a
    | none => .error issue
  | _ => .error issue

def boundedArray (value : Option Json) (path : String) (minimum maximum : Nat) :
    Except String (List Json) :=
  let issue := path ++ " måste innehålla " ++ toString minimum ++ "–" ++ toString maximum ++ " poster."
  match value with
  | some (.arr items) =>
    if minimum ≤ items.length ∧ items.length ≤ maximum then .ok items else .error issue
  | _ => .error issue

/-- `values.map((value, index) => parse(value, path[index]))` -/
def parseEach {α : Type} (parse : Json → String → Except String α) (path : String)
    (items : List Json) : Except String (List α) :=
  collect (fun item : Json × Nat => parse item.1 (path ++ "[" ++ toString item.2 ++ "]"))
    items.zipIdx

def roles : List (String × StockRole) := [("carcass", .carcass), ("back", .back)]

def grains : List (String × GrainDirection) := [("X", .x), ("Y", .y), ("NONE", .none)]

end Readers

/-! ## The browser's parser -/

section Parser

def parseZone (sheetWidthUm sheetHeightUm : Int) (value : Json) (path : String) :
    Except String StockZone := do
  record value path
  exactKeys value zoneKeys [] path
  let xUm ← exactInteger (value.get "x_um") (path ++ ".x_um") 0 10000000
  let yUm ← exactInteger (value.get "y_um") (path ++ ".y_um") 0 5000000
  let widthUm ← exactInteger (value.get "width_um") (path ++ ".width_um") 1 10000000
  let heightUm ← exactInteger (value.get "height_um") (path ++ ".height_um") 1 5000000
  require (xUm + widthUm ≤ sheetWidthUm && yUm + heightUm ≤ sheetHeightUm)
    (path ++ " ligger utanför råskivan.")
  return { xUm, yUm, widthUm, heightUm }

def parseZones (value : Option Json) (path : String) (sheetWidthUm sheetHeightUm : Int) :
    Except String (List StockZone) := do
  let items ← boundedArray value path 0 100
  let given ← parseEach (parseZone sheetWidthUm sheetHeightUm) path items
  let zones := sortBy zoneKey given
  require (decide (zones.map zoneKey).Nodup) (path ++ " innehåller dubbletter.")
  return zones

def parseProfile (value : Json) (path : String) : Except String StockProfile := do
  record value path
  exactKeys value profileKeys [] path
  let sheetWidthUm ← exactInteger (value.get "sheet_width_um") (path ++ ".sheet_width_um") 1 10000000
  let sheetHeightUm ←
    exactInteger (value.get "sheet_height_um") (path ++ ".sheet_height_um") 1 5000000
  let role ← oneOf (value.get "role") roles (path ++ ".role")
  let _ ← oneOf (value.get "declaration_authority") [(clientDeclared, ())]
    (path ++ ".declaration_authority")
  let supplierProfileId ←
    identity (value.get "supplier_profile_id") (path ++ ".supplier_profile_id")
  let supplierProfileVersion ←
    identity (value.get "supplier_profile_version") (path ++ ".supplier_profile_version")
  let materialId ← identity (value.get "material_id") (path ++ ".material_id")
  let materialVersion ← identity (value.get "material_version") (path ++ ".material_version")
  let thicknessUm ← exactInteger (value.get "thickness_um") (path ++ ".thickness_um") 1 100000
  let sheetCount ← exactInteger (value.get "sheet_count") (path ++ ".sheet_count") 1 100
  let trimMarginUm ← exactInteger (value.get "trim_margin_um") (path ++ ".trim_margin_um") 0 500000
  let kerfUm ← exactInteger (value.get "kerf_um") (path ++ ".kerf_um") 6000 100000
  let grainDirection ← oneOf (value.get "grain_direction") grains (path ++ ".grain_direction")
  let allowRotation ← exactBoolean (value.get "allow_rotation") (path ++ ".allow_rotation")
  let defectZones ←
    parseZones (value.get "defect_zones") (path ++ ".defect_zones") sheetWidthUm sheetHeightUm
  let fixtureKeepOutZones ← parseZones (value.get "fixture_keep_out_zones")
    (path ++ ".fixture_keep_out_zones") sheetWidthUm sheetHeightUm
  require (decide (trimMarginUm * 2 < min sheetWidthUm sheetHeightUm))
    (path ++ ".trim_margin_um förbrukar hela den användbara råskivan.")
  return { role, supplierProfileId, supplierProfileVersion, materialId, materialVersion, sheetWidthUm
           sheetHeightUm, thicknessUm, sheetCount, trimMarginUm, kerfUm, grainDirection, allowRotation
           defectZones, fixtureKeepOutZones }

def parsePin (profile : StockProfile) (value : Json) (path : String) : Except String Point2D := do
  record value path
  exactKeys value pinKeys [] path
  let xUm ← exactInteger (value.get "x_um") (path ++ ".x_um") 0 profile.sheetWidthUm
  let yUm ← exactInteger (value.get "y_um") (path ++ ".y_um") 0 profile.sheetHeightUm
  return ⟨xUm, yUm⟩

/-- A pin's footprint lies on the sheet. -/
def pinInside (radius : Int) (profile : StockProfile) (pin : Point2D) : Bool :=
  radius ≤ pin.xUm && radius ≤ pin.yUm && pin.xUm + radius ≤ profile.sheetWidthUm &&
    pin.yUm + radius ≤ profile.sheetHeightUm

/-- A pin's footprint meets a blocked zone. -/
def pinBlocked (radius : Int) (profile : StockProfile) (pin : Point2D) : Bool :=
  (profile.defectZones ++ profile.fixtureKeepOutZones).any fun zone =>
    zone.xUm < pin.xUm + radius && pin.xUm - radius < zone.xUm + zone.widthUm &&
      zone.yUm < pin.yUm + radius && pin.yUm - radius < zone.yUm + zone.heightUm

/-- The loop over the pins. -/
def checkPins (path : String) (radius : Int) (profile : StockProfile) (pins : List Point2D) :
    Except String Unit :=
  forEach (fun pin : Point2D × Nat => do
    let item := path ++ ".pins[" ++ toString pin.2 ++ "]"
    require (pinInside radius profile pin.1) (item ++ " har ett fotavtryck utanför råskivan.")
    require (!pinBlocked radius profile pin.1)
      (item ++ " kolliderar med en blockerad råmaterialzon.")) pins.zipIdx

/-- Every pair of pins is far enough apart. -/
def baselineKept (radius : Int) (pins : List Point2D) : Prop :=
  pins.Pairwise fun left right => (100000 + 2 * radius) ^ 2 ≤
    (right.xUm - left.xUm) ^ 2 + (right.yUm - left.yUm) ^ 2

instance (radius : Int) (pins : List Point2D) : Decidable (baselineKept radius pins) :=
  inferInstanceAs (Decidable (pins.Pairwise _))

def findProfile (profiles : List StockProfile) (role : StockRole) : Option StockProfile :=
  profiles.find? fun profile => profile.role = role

def parseRegistration (profiles : List StockProfile) (value : Json) (path : String) :
    Except String Registration := do
  record value path
  exactKeys value registrationKeys [] path
  let stockRole ← oneOf (value.get "stock_role") roles (path ++ ".stock_role")
  let profile ← demand (findProfile profiles stockRole)
    (path ++ ".stock_role saknar motsvarande råmaterialprofil.")
  let items ← boundedArray (value.get "pins") (path ++ ".pins") 2 16
  let pins ← parseEach (parsePin profile) (path ++ ".pins") items
  require (decide pins.Nodup) (path ++ ".pins måste vara unika.")
  let pinDiameterUm ←
    exactInteger (value.get "pin_diameter_um") (path ++ ".pin_diameter_um") 1000 50000
  let positionToleranceUm ←
    exactInteger (value.get "position_tolerance_um") (path ++ ".position_tolerance_um") 1 10000
  require (decide (positionToleranceUm * 2 < pinDiameterUm))
    (path ++ ".position_tolerance_um måste vara mindre än pinnens radie.")
  let radius := (pinDiameterUm + 1) / 2 + positionToleranceUm
  checkPins path radius profile pins
  require (decide (baselineKept radius pins))
    (path ++ ".pins måste parvis ha minst 100 mm användbar registreringsbaslinje.")
  let sheetIndex ←
    exactInteger (value.get "sheet_index") (path ++ ".sheet_index") 0 (profile.sheetCount - 1)
  let _ ← oneOf (value.get "declaration_authority") [(clientDeclared, ())]
    (path ++ ".declaration_authority")
  let _ ← oneOf (value.get "flip_axis") [("X", ())] (path ++ ".flip_axis")
  let fixtureMethodId ← identity (value.get "fixture_method_id") (path ++ ".fixture_method_id")
  let fixtureMethodVersion ←
    identity (value.get "fixture_method_version") (path ++ ".fixture_method_version")
  return { stockRole, sheetIndex, fixtureMethodId, fixtureMethodVersion, pinDiameterUm
           positionToleranceUm, pins }

/-- The carcass is sorted first. -/
def roleOrder : StockRole → Nat
  | .carcass => 0
  | .back => 1

def profileIdentity (profile : StockProfile) : String × String :=
  (profile.supplierProfileId, profile.supplierProfileVersion)

def registrationOrder (registration : Registration) : Nat ×ₗ Int :=
  toLex (roleOrder registration.stockRole, registration.sheetIndex)

def registrationKey (registration : Registration) : StockRole × Int :=
  (registration.stockRole, registration.sheetIndex)

/-- The registrations, none where the field is absent. -/
def parseRegistrations (profiles : List StockProfile) :
    Option Json → Except String (List Registration)
  | none => .ok []
  | some given => do
    let items ← boundedArray (some given) "workshop_context.two_sided_registrations" 0 200
    parseEach (parseRegistration profiles) "workshop_context.two_sided_registrations" items

/-- `parseWorkshopProductionContext` of a value that is given. -/
def parseWorkshopProductionContext (value : Json) : Except String ProductionContext := do
  record value "workshop_context"
  exactKeys value ["stock_profiles"] ["two_sided_registrations"] "workshop_context"
  let items ← boundedArray (value.get "stock_profiles") "workshop_context.stock_profiles" 1 2
  let given ← parseEach parseProfile "workshop_context.stock_profiles" items
  let profiles := sortBy (fun profile => roleOrder profile.role) given
  require (decide (profiles.map StockProfile.role).Nodup)
    "workshop_context.stock_profiles innehåller samma roll flera gånger."
  require (decide (profiles.map profileIdentity).Nodup)
    "Leverantörsprofilernas identiteter måste vara unika."
  require (decide (profiles.head?.map StockProfile.role = some .carcass))
    "En stomprofil är obligatorisk."
  let given ← parseRegistrations profiles (value.get "two_sided_registrations")
  let registrations := sortBy registrationOrder given
  require (decide (registrations.map registrationKey).Nodup)
    "Tvåsidig registrering får bara anges en gång per råskiva."
  return ⟨profiles, registrations⟩

end Parser

end Custombuild.Web.Workshop
