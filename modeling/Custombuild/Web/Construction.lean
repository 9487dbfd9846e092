/-
  The parts of a design in the browser and the rules that suggest a fix.
  Source: `apps/web/lib/design-engine.ts`, `balanceDesignSymmetry`, `generateParts`,
  `calculateShelfDeflection`, `suggestedDividerCount`, `shelfRule`, `backRule`,
  `baseSupportAlignmentRule` and `resolveDesign`.

  Of a part the model keeps its identity, its kind and its centre across the width; of an
  evaluation its rule, its status and its suggestion.  The rules that suggest none of these fixes
  are left out.
-/
import Custombuild.Web.GeometryRepair

namespace Custombuild.Web.Construction

open Custombuild.Lib Custombuild.Lib.Number

/-! ## Specifications -/

inductive BackPanelType
  | insetGroove | surfaceMounted
deriving DecidableEq

structure PartOverride where
  positionXMm : Option Number

/-- A design specification with what its parts and its other rules read. -/
structure ConstructionSpec extends DesignSpec where
  backPanel : Bool
  backPanelType : BackPanelType
  partOverrides : List (String × PartOverride)
  removedPartIds : List String

/-! ## Symmetry -/

/-- `round(value, decimals)` -/
def round (decimals : Nat) : Number → Number :=
  onFinite fun q => (mathRound (q * 10 ^ decimals) : ℚ) / 10 ^ decimals

/-- Every share averaged with its mirror; the middle one is its own. -/
def mirroredShares (shares : List Number) : List Number :=
  List.zipWith (fun share mirror => (share + mirror) / finite 2) shares shares.reverse

def symmetrizeBayRatios (ratios : List Number) (count : Number) : Option (List Number) := do
  let normalized ← normalizedRatios ratios count
  let next ← normalizedRatios (mirroredShares normalized) count
  return next.map (round 6)

/-- Every shelf centre averaged with its mirror image; the middle one of an odd number is 1/2. -/
def mirroredCentres (source : List Number) : List Number :=
  (List.range source.length).map fun index =>
    let value := source.getD index nan
    let mirror := source.getD (source.length - 1 - index) nan
    if 2 * index + 1 < source.length then (value + (finite 1 - mirror)) / finite 2
    else if 2 * index + 1 = source.length then finite (1 / 2)
    else finite 1 - (mirror + (finite 1 - value)) / finite 2

def symmetrizeShelfRatios (ratios : List Number) (count : Number) : Option (List Number) :=
  (validShelfRatios ratios count).map fun source => (mirroredCentres source).map (round 6)

/-- The bay shares of a balanced specification. -/
def balancedBayRatios (spec : DesignSpec) : Option (List Number) :=
  let bayCount := maximum (finite 1) (trunc spec.dividerCount + finite 1)
  if spec.bayWidthRatios.isEmpty ||
      !(equal (finite spec.bayWidthRatios.length) bayCount && spec.bayWidthRatios.all isPositive) then
    some spec.bayWidthRatios
  else symmetrizeBayRatios spec.bayWidthRatios bayCount

/-- The shelf centres of a balanced specification. -/
def balancedShelfRatios (spec : DesignSpec) : Option (List Number) :=
  let shelfCount := maximum (finite 0) (trunc spec.shelfCount)
  if spec.shelfHeightRatios.isEmpty ||
      !(equal (finite spec.shelfHeightRatios.length) shelfCount &&
        !hasBadShelfRatio none spec.shelfHeightRatios) then
    some spec.shelfHeightRatios
  else symmetrizeShelfRatios spec.shelfHeightRatios shelfCount

def balanceDesignSymmetry (spec : ConstructionSpec) : Option ConstructionSpec :=
  if !spec.symmetryLocked then some spec
  else do
    let bays ← balancedBayRatios spec.toDesignSpec
    let rows ← balancedShelfRatios spec.toDesignSpec
    return { spec with bayWidthRatios := bays, shelfHeightRatios := rows }

/-! ## Parts -/

inductive PartKind
  | side | top | bottom | shelf | back | plinth | divider | baseSide | baseBottom | cabinetFront
deriving DecidableEq

structure ResolvedPart where
  partId : String
  kind : PartKind
  positionXMm : Number

/-- The identities of all board materials, carcass and back. -/
def materialCatalog : List String := ["birch-plywood", "mdf", "birch-plywood-6", "mdf-6"]

/-- The thickness every board is generated with. -/
def boardThickness (spec : DesignSpec) : Number :=
  maximum spec.measuredThicknessMm (finite (1 / 10))

def dividerParts (thickness : Number) (widths : List Number) (dividerCount : Nat) :
    List ResolvedPart :=
  (List.range dividerCount).map fun dividerIndex =>
    { partId := s!"divider-{dividerIndex + 1}"
      kind := .divider
      positionXMm := thickness + total (widths.take (dividerIndex + 1)) +
        thickness * (finite dividerIndex + finite (1 / 2)) }

/-- The centre of a bay. -/
def bayCenter (thickness : Number) (widths : List Number) (bayIndex : Nat) : Number :=
  thickness + total (widths.take bayIndex) + finite bayIndex * thickness +
    widths.getD bayIndex nan / finite 2

def shelfParts (thickness : Number) (widths : List Number) (shelfCount bayCount : Nat) :
    List ResolvedPart :=
  (List.range shelfCount).flatMap fun shelfIndex =>
    (List.range bayCount).map fun bayIndex =>
      { partId := s!"shelf-{shelfIndex + 1}-bay-{bayIndex + 1}"
        kind := .shelf
        positionXMm := bayCenter thickness widths bayIndex }

/-- The left edges of the sides of the base cabinets. -/
def baseSideLeftEdges (thickness : Number) (openingWidths : List Number) : List Number :=
  openingWidths.scanl (fun cursor openingWidth => cursor + (thickness + openingWidth)) (finite 0)

def baseSideParts (thickness : Number) (openingWidths : List Number) (count : Nat) :
    List ResolvedPart :=
  (List.range (count - 1)).map fun index =>
    { partId := s!"base-side-{index + 2}"
      kind := .baseSide
      positionXMm := (baseSideLeftEdges thickness openingWidths).getD (index + 1) nan +
        thickness / finite 2 }

def baseCabinetParts (thickness : Number) (openingWidths : List Number) (count : Nat) :
    List ResolvedPart :=
  (List.range count).flatMap fun cabinetIndex =>
    let openingX := (baseSideLeftEdges thickness openingWidths).getD cabinetIndex nan + thickness
    let center := openingX + openingWidths.getD cabinetIndex nan / finite 2
    [{ partId := s!"base-bottom-{cabinetIndex + 1}", kind := .baseBottom, positionXMm := center },
      { partId := s!"cabinet-front-{cabinetIndex + 1}", kind := .cabinetFront, positionXMm := center }]

def backParts (spec : ConstructionSpec) (width thickness : Number) (widths : List Number)
    (bayCount : Nat) : List ResolvedPart :=
  if !spec.backPanel then []
  else if spec.backPanelType = .surfaceMounted then
    [{ partId := "back-panel", kind := .back, positionXMm := width / finite 2 }]
  else
    (List.range bayCount).map fun bayIndex =>
      { partId := if bayCount = 1 then "back-panel" else s!"back-panel-bay-{bayIndex + 1}"
        kind := .back
        positionXMm := bayCenter thickness widths bayIndex }

def hasBaseCabinets (spec : DesignSpec) : Bool :=
  spec.furnitureType == .wallLibrary && lt (finite 0) spec.baseCabinetCount

def generatedBaseCount (spec : DesignSpec) : Number :=
  if hasBaseCabinets spec then maximum (finite 1) (trunc spec.baseCabinetCount) else finite 0

/-- The clear widths of the base cabinets: those of the bays when there are as many. -/
def baseOpeningWidths (spec : DesignSpec) (width thickness : Number) (widths : List Number) :
    Option (List Number) :=
  let count := generatedBaseCount spec
  if equal count (finite widths.length) then some widths
  else
    arrayFrom count fun _ =>
      maximum (width - (count + finite 1) * thickness) (finite 1) / count

/-- A part with its declared changes. -/
def overridden (spec : ConstructionSpec) (part : ResolvedPart) : ResolvedPart :=
  match spec.partOverrides.lookup part.partId with
  | none => part
  | some change =>
    { part with
      positionXMm := (change.positionXMm.filter fun x => x.isFinite).getD part.positionXMm }

/-- The width the parts are generated in. -/
def outerWidth (spec : DesignSpec) : Number := maximum spec.widthMm (finite 1)

/-- The clear width between the outer sides, less the dividers. -/
def generatedInnerWidth (spec : DesignSpec) : Number :=
  maximum (outerWidth spec - finite 2 * boardThickness spec -
    maximum (finite 0) (trunc spec.dividerCount) * boardThickness spec) (finite 1)

/-- The clear widths and the numbers the parts are generated from. -/
structure Divisions where
  widths : List Number
  openingWidths : List Number
  dividers : Nat
  shelves : Nat
  bays : Nat
  bases : Nat

def divisionsOf (spec : DesignSpec) : Option Divisions := do
  let widths ← bayWidths spec (generatedInnerWidth spec)
  let _ ← shelfHeightRatios spec
  let dividers ← arrayLength (maximum (finite 0) (trunc spec.dividerCount))
  let shelves ← arrayLength (maximum (finite 0) (trunc spec.shelfCount))
  let bays ← arrayLength (maximum (finite 0) (trunc spec.dividerCount) + finite 1)
  let bases ← arrayLength (generatedBaseCount spec)
  let openingWidths ← baseOpeningWidths spec (outerWidth spec) (boardThickness spec) widths
  return { widths, openingWidths, dividers, shelves, bays, bases }

/-- The outer boards. -/
def carcassParts (spec : DesignSpec) : List ResolvedPart :=
  let width := outerWidth spec
  [{ partId := "side-left", kind := .side, positionXMm := boardThickness spec / finite 2 },
    { partId := "side-right", kind := .side, positionXMm := width - boardThickness spec / finite 2 },
    { partId := "bottom", kind := .bottom, positionXMm := width / finite 2 },
    { partId := "top", kind := .top, positionXMm := width / finite 2 }]

def plinthParts (spec : DesignSpec) : List ResolvedPart :=
  if spec.plinth then
    [{ partId := "plinth-front", kind := .plinth, positionXMm := outerWidth spec / finite 2 }]
  else []

/-- All parts, before any is removed or changed. -/
def allParts (spec : ConstructionSpec) (divisions : Divisions) : List ResolvedPart :=
  let thickness := boardThickness spec.toDesignSpec
  carcassParts spec.toDesignSpec ++
    dividerParts thickness divisions.widths divisions.dividers ++
    shelfParts thickness divisions.widths divisions.shelves divisions.bays ++
    baseSideParts thickness divisions.openingWidths divisions.bases ++
    baseCabinetParts thickness divisions.openingWidths divisions.bases ++
    backParts spec (outerWidth spec.toDesignSpec) thickness divisions.widths divisions.bays ++
    plinthParts spec.toDesignSpec

/-- An unknown material is an error. -/
def generateParts (spec : ConstructionSpec) : Option (List ResolvedPart) := do
  if spec.materialId ∉ materialCatalog then none
  let divisions ← divisionsOf spec.toDesignSpec
  return ((allParts spec divisions).filter fun part => part.partId ∉ spec.removedPartIds).map
    (overridden spec)

/-! ## Shelf deflection -/

def gravity : ℚ := 980665 / 100000

def elasticModulusMpa (materialId : String) : ℚ := if materialId = "mdf" then 3000 else 6500

/-- The clear depth of a shelf in front of the back. -/
def interiorPanelDepth (spec : ConstructionSpec) : Number :=
  let clearance :=
    if !spec.backPanel then finite 2
    else match spec.backPanelType with
      | .surfaceMounted => spec.measuredBackThicknessMm + finite 2
      | .insetGroove => finite 12 + spec.measuredBackThicknessMm + finite 4
  maximum (spec.depthMm - clearance) (finite 1)

structure ShelfDeflection where
  deflectionMm : Number
  allowableMm : Number

/-- The widest bay, at least 1 mm. -/
def shelfSpan (spec : ConstructionSpec) : Option Number :=
  let thickness := boardThickness spec.toDesignSpec
  let innerWidth := maximum
    (spec.widthMm - finite 2 * thickness - maximum (finite 0) spec.dividerCount * thickness)
    (finite 1)
  (bayWidths spec.toDesignSpec innerWidth).map fun widths => widths.foldr maximum (finite 1)

/-- The deflection of a shelf over a span: `δ = 5wL⁴ / (384EI) × 1.6`. -/
def deflectionOver (spec : ConstructionSpec) (span : Number) : ShelfDeflection :=
  let thickness := boardThickness spec.toDesignSpec
  let lineLoad := maximum spec.loadPerShelfKg (finite 0) * finite gravity / span
  let inertia :=
    interiorPanelDepth spec * (thickness * thickness * thickness) / finite 12
  { deflectionMm := round 3
      (finite 5 * lineLoad * (span * span * span * span) * finite (16 / 10) /
        (finite 384 * finite (elasticModulusMpa spec.materialId) * inertia))
    allowableMm := round 3 (minimum (span / finite 200) (finite 5)) }

def calculateShelfDeflection (spec : ConstructionSpec) : Option ShelfDeflection :=
  (shelfSpan spec).map (deflectionOver spec)

/-- The shelves of a specification are within their limit. -/
def shelvesAreWithinLimit (spec : ConstructionSpec) : Option Bool :=
  (calculateShelfDeflection spec).map fun result => le result.deflectionMm result.allowableMm

/-- The counts tried, from the current one up to the largest. -/
def dividerCandidates (current : Number) : List Number :=
  ((List.range 17).map fun index : Nat => current + finite index).filter fun candidate =>
    le candidate (finite Constraints.dividerCount.maximum)

def suggestedDividerCount (spec : ConstructionSpec) : Option Number :=
  let current := maximum (finite 0) (trunc spec.dividerCount)
  if equal spec.shelfCount (finite 0) || !spec.loadPerShelfKg.isFinite ||
      le spec.loadPerShelfKg (finite 0) then
    some current
  else
    ((dividerCandidates current).findM? fun candidate =>
      shelvesAreWithinLimit { spec with dividerCount := candidate }).map fun found =>
        found.getD (maximum current (finite Constraints.dividerCount.maximum))

/-! ## Rules -/

inductive RuleSuggestion
  | setDividerCount (value : Number)
  | alignBaseCabinets (value : Number)
  | enableBack
deriving DecidableEq

structure Evaluation where
  ruleId : String
  status : ValidationStatus
  suggestion : Option RuleSuggestion
deriving DecidableEq

def deflectionStatus (result : ShelfDeflection) : ValidationStatus :=
  let ratio := result.deflectionMm / maximum result.allowableMm (finite (1 / 1000))
  if lt (finite (3 / 2)) ratio then .block else if lt (finite 1) ratio then .warning else .pass

def shelfRule (spec : ConstructionSpec) : Option Evaluation :=
  if equal spec.shelfCount (finite 0) then
    some { ruleId := "STR-DEF-001", status := .pass, suggestion := none }
  else do
    let result ← calculateShelfDeflection spec
    let proposedCount ← suggestedDividerCount spec
    return {
      ruleId := "STR-DEF-001"
      status := deflectionStatus result
      suggestion :=
        if deflectionStatus result = .pass ∨ le proposedCount spec.dividerCount then none
        else some (.setDividerCount proposedCount) }

def backRule (spec : ConstructionSpec) (parts : List ResolvedPart) : Evaluation :=
  if spec.backPanel && parts.any fun part => part.kind = .back then
    { ruleId := "STAB-RACK-001", status := .pass, suggestion := none }
  else { ruleId := "STAB-RACK-001", status := .warning, suggestion := some .enableBack }

/-- The distance between two positions. -/
def distance (a b : Number) : Number := maximum (a - b) (-(a - b))

/-- The dividers that stand over no side of a base cabinet. -/
def unsupportedDividers (spec : DesignSpec) (parts : List ResolvedPart) : List ResolvedPart :=
  let toleranceMm := maximum (finite 1) (spec.measuredThicknessMm * finite (1 / 4))
  (parts.filter fun part => part.kind = .divider).filter fun divider =>
    !(parts.filter fun part => part.kind = .baseSide).any fun support =>
      le (distance support.positionXMm divider.positionXMm) toleranceMm

def baseSupportAlignmentRule (spec : DesignSpec) (parts : List ResolvedPart) :
    Option Evaluation :=
  if spec.furnitureType ≠ .wallLibrary ∨ lt spec.baseCabinetCount (finite 1) then none
  else if (unsupportedDividers spec parts).isEmpty then
    some { ruleId := "BASE-SUPPORT-001", status := .pass, suggestion := none }
  else some {
    ruleId := "BASE-SUPPORT-001"
    status := .block
    suggestion := some (.alignBaseCabinets (spec.dividerCount + finite 1)) }

def resolveDesign (spec : ConstructionSpec) : Option (List Evaluation) := do
  let resolvedSpec ← balanceDesignSymmetry spec
  let parts ← generateParts resolvedSpec
  let geometry ← invalidGeometryRule resolvedSpec.toDesignSpec
  let shelves ← shelfRule resolvedSpec
  return [{ ruleId := geometry.ruleId, status := geometry.status, suggestion := none }, shelves,
    backRule resolvedSpec parts] ++
      (baseSupportAlignmentRule resolvedSpec.toDesignSpec parts).toList

end Custombuild.Web.Construction
