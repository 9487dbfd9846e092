/-
  The browser's geometry rule GEO-001 and the divisions it checks.
  Source: `apps/web/lib/design-engine.ts`, `invalidGeometryRule` and what it calls, and
  `packages/contracts/design-constraints.v1.json`.

  Numbers may be NaN or infinite, as they can be in the browser; finite ones are exact.  An array
  cannot be made from a length that is too large, and then the rule has no result.
-/
import Custombuild.Lib.Number

namespace Custombuild.Web

open Custombuild.Lib Custombuild.Lib.Number

/-! ## The published constraints -/

structure ConstraintRange where
  minimum : ℚ
  maximum : ℚ

namespace Constraints

def widthMm : ConstraintRange := ⟨250, 6000⟩
def heightMm : ConstraintRange := ⟨300, 4000⟩
def depthMm : ConstraintRange := ⟨100, 1200⟩
def shelfCount : ConstraintRange := ⟨0, 40⟩
def dividerCount : ConstraintRange := ⟨0, 16⟩
def bayCount : ConstraintRange := ⟨1, 17⟩
def shelfLoadKg : ConstraintRange := ⟨0, 500⟩
def baseCabinetModuleCount : ConstraintRange := ⟨0, 17⟩
def baseCabinetHeightMm : ConstraintRange := ⟨0, 2000⟩
def baseCabinetDepthMm : ConstraintRange := ⟨0, 1200⟩
def minimumShelfWidthMm : ℚ := 40
def minimumShelfOpeningMm : ℚ := 40
def minimumBaseCabinetOpeningMm : ℚ := 200
def wallLibraryBaseHeightMinimumMm : ℚ := 300
def baseCabinetUpperClearanceMm : ℚ := 200

end Constraints

def shelfSideClearanceMm : ℚ := 1

def ratioComparisonTolerance : ℚ := 1 / 10 ^ 9

/-! ## Specifications -/

inductive FurnitureType
  | bookcase | wallLibrary
deriving DecidableEq

inductive BaySizingMode
  | count | targetWidth
deriving DecidableEq

inductive ReinforcementMode
  | auto | manual
deriving DecidableEq

/-- Of a design specification, what GEO-001 reads and its repair changes. -/
structure DesignSpec where
  furnitureType : FurnitureType
  widthMm : Number
  heightMm : Number
  depthMm : Number
  materialId : String
  nominalThicknessMm : Number
  measuredThicknessMm : Number
  measuredBackThicknessMm : Number
  shelfCount : Number
  loadPerShelfKg : Number
  plinth : Bool
  plinthHeightMm : Number
  dividerCount : Number
  baySizingMode : BaySizingMode
  bayWidthRatios : List Number
  shelfHeightRatios : List Number
  symmetryLocked : Bool
  baseCabinetHeightMm : Number
  baseCabinetDepthMm : Number
  baseCabinetCount : Number
  reinforcementMode : ReinforcementMode

/-! ## Bays -/

/-- `Array.from({ length: count }, (_, index) => f(index))` -/
def arrayFrom (count : Number) (f : Nat → Number) : Option (List Number) :=
  (arrayLength count).map fun length => (List.range length).map f

def total (values : List Number) : Number := values.foldl (· + ·) (finite 0)

/-- Neither NaN nor infinite, and greater than zero. -/
def isPositive (value : Number) : Bool := value.isFinite && lt (finite 0) value

def normalizedRatios (ratios : List Number) (count : Number) : Option (List Number) :=
  if le count (finite 0) then some []
  else if !equal (finite ratios.length) count || !ratios.all isPositive then
    arrayFrom count fun _ => finite 1 / count
  else if le (total ratios) (finite 0) then arrayFrom count fun _ => finite 1 / count
  else some (ratios.map fun value => value / total ratios)

def bayWidths (spec : DesignSpec) (innerWidth : Number) : Option (List Number) :=
  (normalizedRatios spec.bayWidthRatios
    (maximum (finite 1) (trunc spec.dividerCount + finite 1))).map fun ratios =>
      ratios.map fun ratio => innerWidth * ratio

/-! ## Shelf rows -/

/-- A value, with the value below it, is not a permissible shelf centre. -/
def badShelfRatio (below : Option Number) (value : Number) : Bool :=
  !value.isFinite || lt value (finite (5 / 100 - ratioComparisonTolerance)) ||
    lt (finite (95 / 100 + ratioComparisonTolerance)) value ||
    below.any fun below => lt (value - below) (finite (5 / 100 - ratioComparisonTolerance))

def hasBadShelfRatio : Option Number → List Number → Bool
  | _, [] => false
  | below, value :: values => badShelfRatio below value || hasBadShelfRatio (some value) values

def validShelfRatios (ratios : List Number) (count : Number) : Option (List Number) :=
  if !equal (finite ratios.length) count || hasBadShelfRatio none ratios then
    arrayFrom count fun index => (finite index + finite 1) / (count + finite 1)
  else some ratios

def shelfHeightRatios (spec : DesignSpec) : Option (List Number) :=
  validShelfRatios spec.shelfHeightRatios (maximum (finite 0) (trunc spec.shelfCount))

structure ShelfBounds where
  bottomMm : Number
  topMm : Number
  thicknessMm : Number

def shelfVerticalBounds (spec : DesignSpec) : ShelfBounds :=
  let thicknessMm := maximum spec.measuredThicknessMm (finite (1 / 10))
  let plinthHeight := if spec.plinth then spec.plinthHeightMm else finite 0
  { bottomMm :=
      if spec.furnitureType = .wallLibrary ∧ lt (finite 0) spec.baseCabinetCount then
        plinthHeight + spec.baseCabinetHeightMm
      else plinthHeight + thicknessMm
    topMm := spec.heightMm - thicknessMm
    thicknessMm := thicknessMm }

/-- The openings up to the last shelf, each with its centre, and the top of the last shelf. -/
def openingsBelow (thicknessMm : Number) : Number → List Number → List Number × Number
  | previousTop, [] => ([], previousTop)
  | previousTop, center :: centers =>
    let rest := openingsBelow thicknessMm (center + thicknessMm / finite 2) centers
    (maximum (finite 0) (center - thicknessMm / finite 2 - previousTop) :: rest.1, rest.2)

def rawShelfOpeningHeights (spec : DesignSpec) : Option (List Number) :=
  let bounds := shelfVerticalBounds spec
  let innerHeight := maximum (bounds.topMm - bounds.bottomMm) (finite 1)
  (shelfHeightRatios spec).map fun ratios =>
    if ratios = [] then [innerHeight]
    else
      let centers := ratios.map fun ratio => bounds.bottomMm + innerHeight * ratio
      let openings := openingsBelow bounds.thicknessMm bounds.bottomMm centers
      openings.1 ++ [maximum (finite 0) (bounds.topMm - openings.2)]

/-! ## GEO-001 -/

def outsideConstraintRange (value : Number) (range : ConstraintRange) : Bool :=
  !value.isFinite || lt value (finite range.minimum) || lt (finite range.maximum) value

/-- `Number.isSafeInteger` -/
def isSafeInteger (value : Number) : Bool :=
  value.isInteger && le (finite (-(2 ^ 53 - 1))) value && le value (finite (2 ^ 53 - 1))

def bayCountOf (spec : DesignSpec) : Number := spec.dividerCount + finite 1

def innerWidthMm (spec : DesignSpec) : Number :=
  spec.widthMm - (spec.dividerCount + finite 2) * spec.measuredThicknessMm

/-- `validBayRatios` -/
def bayRatiosAreValid (spec : DesignSpec) : Bool :=
  spec.bayWidthRatios.isEmpty ||
    (equal (finite spec.bayWidthRatios.length) (bayCountOf spec) &&
      (total spec.bayWidthRatios).isFinite && lt (finite 0) (total spec.bayWidthRatios) &&
      spec.bayWidthRatios.all fun value => isPositive value &&
        le (total spec.bayWidthRatios * finite 8) (value * finite 100))

/-- The bays that are measured: none where their number or their shares are wrong. -/
def measuredBays (spec : DesignSpec) : Option (List Number) :=
  if lt (finite 0) (innerWidthMm spec) && (bayCountOf spec).isInteger &&
      le (finite 1) (bayCountOf spec) && le (bayCountOf spec) (finite Constraints.bayCount.maximum) &&
      bayRatiosAreValid spec then
    bayWidths spec (innerWidthMm spec)
  else some []

def measuredBaseOpenings (spec : DesignSpec) : Option (List Number) :=
  if spec.baseCabinetCount.isInteger && lt (finite 0) spec.baseCabinetCount &&
      le spec.baseCabinetCount (finite Constraints.baseCabinetModuleCount.maximum) then
    if equal spec.baseCabinetCount (bayCountOf spec) && lt (finite 0) (innerWidthMm spec) &&
        bayRatiosAreValid spec then
      bayWidths spec (innerWidthMm spec)
    else
      arrayFrom spec.baseCabinetCount fun _ =>
        (spec.widthMm - (spec.baseCabinetCount + finite 1) * spec.measuredThicknessMm) /
          spec.baseCabinetCount
  else some []

/-- Every finding of the rule, with whether it is made. -/
def geometryFindings (spec : DesignSpec) (openings bays baseOpenings : List Number) :
    List (Bool × String) :=
  [(outsideConstraintRange spec.widthMm Constraints.widthMm,
      "bredden måste vara mellan 250 och 6000 mm"),
    (outsideConstraintRange spec.heightMm Constraints.heightMm,
      "höjden måste vara mellan 300 och 4000 mm"),
    (outsideConstraintRange spec.depthMm Constraints.depthMm,
      "djupet måste vara mellan 100 och 1200 mm"),
    (le spec.widthMm (finite 2 * spec.measuredThicknessMm),
      "bredden måste överstiga två materialtjocklekar"),
    (!spec.plinthHeightMm.isFinite || lt spec.plinthHeightMm (finite 0) ||
        lt (finite 500) spec.plinthHeightMm,
      "sockelhöjden måste vara mellan 0 och 500 mm"),
    (spec.plinth != lt (finite 0) spec.plinthHeightMm,
      "sockelval och sockelhöjd måste stämma överens"),
    (le spec.heightMm (finite 2 * spec.measuredThicknessMm +
        if spec.plinth then spec.plinthHeightMm else finite 0),
      "höjden lämnar inget användbart innerutrymme"),
    (le spec.depthMm spec.measuredThicknessMm, "djupet måste överstiga materialtjockleken"),
    (!spec.measuredThicknessMm.isFinite || le spec.measuredThicknessMm (finite 0),
      "uppmätt tjocklek måste vara ett ändligt värde större än noll"),
    (!spec.measuredBackThicknessMm.isFinite || lt spec.measuredBackThicknessMm (finite (55 / 10)) ||
        lt (finite (65 / 10)) spec.measuredBackThicknessMm ||
        !isSafeInteger (spec.measuredBackThicknessMm * finite 1000),
      "uppmätt bakstyckestjocklek måste vara 5,5–6,5 mm med högst tre decimaler"),
    (!spec.shelfCount.isInteger || outsideConstraintRange spec.shelfCount Constraints.shelfCount,
      "antal hyllor måste vara ett heltal mellan 0 och 40"),
    (!spec.dividerCount.isInteger ||
        outsideConstraintRange spec.dividerCount Constraints.dividerCount,
      "antal avdelare måste vara ett heltal mellan 0 och 16"),
    (outsideConstraintRange spec.loadPerShelfKg Constraints.shelfLoadKg,
      "total last per hyllrad måste vara mellan 0 och 500 kg"),
    (!spec.baseCabinetCount.isInteger ||
        outsideConstraintRange spec.baseCabinetCount Constraints.baseCabinetModuleCount,
      "antal underskåp måste vara ett heltal mellan 0 och 17"),
    (outsideConstraintRange spec.baseCabinetHeightMm Constraints.baseCabinetHeightMm,
      "underskåpshöjden måste vara mellan 0 och 2000 mm"),
    (outsideConstraintRange spec.baseCabinetDepthMm Constraints.baseCabinetDepthMm,
      "underskåpsdjupet måste vara mellan 0 och 1200 mm"),
    (equal spec.baseCabinetCount (finite 0) && (!equal spec.baseCabinetHeightMm (finite 0) ||
        !equal spec.baseCabinetDepthMm (finite 0)),
      "underskåpsmåtten måste vara 0 när underskåp saknas"),
    (lt (finite 0) spec.baseCabinetCount && !equal spec.baseCabinetDepthMm spec.depthMm,
      "underskåpets djup måste följa möbelns yttermått"),
    (le (innerWidthMm spec) (finite 0), "avdelarna förbrukar hela den fria innerbredden"),
    (!spec.bayWidthRatios.isEmpty &&
        !equal (finite spec.bayWidthRatios.length) (bayCountOf spec),
      "antal anpassade fackbredder måste motsvara antalet fack"),
    (!bayRatiosAreValid spec, "varje anpassat fack måste vara minst 8 % av innerbredden"),
    (!spec.shelfHeightRatios.isEmpty &&
        !equal (finite spec.shelfHeightRatios.length) spec.shelfCount,
      "antal anpassade hyllnivåer måste motsvara antalet hyllor"),
    (hasBadShelfRatio none spec.shelfHeightRatios,
      "anpassade hyllnivåer måste vara ordnade och ha minst 5 % avstånd"),
    (bays.any fun widthMm =>
        lt widthMm (finite (Constraints.minimumShelfWidthMm + 2 * shelfSideClearanceMm)),
      "fackindelningen lämnar inte tillräcklig fri bredd för hyllplanen"),
    (openings.any fun heightMm => lt heightMm (finite Constraints.minimumShelfOpeningMm),
      "hyllindelningen lämnar en öppning som är lägre än 40 mm"),
    (baseOpenings.any fun widthMm => lt widthMm (finite Constraints.minimumBaseCabinetOpeningMm),
      "underskåpsindelningen lämnar en öppning som är smalare än 200 mm"),
    (spec.furnitureType == .bookcase && (!equal spec.baseCabinetCount (finite 0) ||
        !equal spec.baseCabinetHeightMm (finite 0) || !equal spec.baseCabinetDepthMm (finite 0)),
      "bokhyllor får inte innehålla underskåpsgeometri"),
    (spec.furnitureType == .wallLibrary && lt spec.baseCabinetCount (finite 1),
      "väggbibliotek måste ha minst ett underskåp"),
    (spec.furnitureType == .wallLibrary &&
        lt spec.baseCabinetHeightMm (finite Constraints.wallLibraryBaseHeightMinimumMm),
      "underskåpet måste vara minst 300 mm högt"),
    (spec.furnitureType == .wallLibrary &&
        le (spec.heightMm - spec.measuredThicknessMm - finite Constraints.baseCabinetUpperClearanceMm)
          spec.baseCabinetHeightMm,
      "underskåpet lämnar inte föreskriven fri höjd för överbyggnaden")]

inductive ValidationStatus
  | pass | warning | block
deriving DecidableEq

structure RuleEvaluation where
  ruleId : String
  status : ValidationStatus
  summary : String

def invalidGeometryRule (spec : DesignSpec) : Option RuleEvaluation := do
  let openings ← rawShelfOpeningHeights spec
  let bays ← measuredBays spec
  let baseOpenings ← measuredBaseOpenings spec
  let failures := ((geometryFindings spec openings bays baseOpenings).filter (·.1)).map (·.2)
  return {
    ruleId := "GEO-001"
    status := if failures.isEmpty then .pass else .block
    summary := if failures.isEmpty then "Alla grundmått ger ett giltigt innerutrymme."
      else "; ".intercalate failures }

/-- The rule has a result, and it is PASS. -/
def passesGeometry (spec : DesignSpec) : Bool :=
  (invalidGeometryRule spec).any fun evaluation => evaluation.status = .pass

theorem passesGeometry_of {spec : DesignSpec} {openings bays baseOpenings : List Number}
    (hopenings : rawShelfOpeningHeights spec = some openings)
    (hbays : measuredBays spec = some bays)
    (hbaseOpenings : measuredBaseOpenings spec = some baseOpenings)
    (hfindings : ∀ finding ∈ geometryFindings spec openings bays baseOpenings,
      finding.1 = false) : passesGeometry spec = true := by
  have hnone : (geometryFindings spec openings bays baseOpenings).filter (·.1) = [] :=
    List.filter_eq_nil_iff.mpr fun finding hmem => by simp [hfindings finding hmem]
  simp [passesGeometry, invalidGeometryRule, hopenings, hbays, hbaseOpenings, hnone]

end Custombuild.Web
