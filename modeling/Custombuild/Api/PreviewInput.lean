/-
  The public preview input of a bookcase, its validators, and its normalisation to the
  specification that the compiler takes.
  Source: `services/api/app/schemas.py`, `BookcasePreviewInput`, and
  `services/api/app/design_service.py`, `normalize_preview`.

  Millimetres, kilograms and shares are exact rationals, as is the arithmetic on them.
-/
import Custombuild.Domain.Furniture

namespace Custombuild.Api

open Custombuild.Lib Custombuild.Domain

/-! ## The input -/

/-- `bool | Literal["none", "surface_mounted", "inset_groove"]`. -/
inductive BackPanelInput
  | flag (enabled : Bool)
  | named (panel : BackPanelType)
deriving DecidableEq

structure BookcasePreviewInput where
  widthMm : ℚ := 900
  heightMm : ℚ := 2000
  depthMm : ℚ := 320
  furnitureType : String := "bookcase"
  materialId : String := "mdf"
  backMaterialId : Option String := none
  nominalThicknessMm : ℚ := 18
  measuredThicknessMm : ℚ := 18
  measuredBackThicknessMm : ℚ := 6
  shelfCount : Nat := 5
  shelfMount : ShelfMount := .fixed
  loadPerShelfKg : ℚ := 30
  backPanel : BackPanelInput := .flag true
  plinth : Bool := true
  plinthHeightMm : Option ℚ := none
  dividerCount : Nat := 0
  bayWidthRatios : List ℚ := []
  shelfHeightRatios : List ℚ := []
  baseCabinetHeightMm : ℚ := 0
  baseCabinetDepthMm : ℚ := 0
  baseCabinetCount : Nat := 0
  edgeBandMm : ℚ := 0
  jointSystem : JointType := .dado
  reinforcementMode : ReinforcementMode := .manual
  wallAnchorRequired : Bool := false
  wallAnchorVerified : Bool := false
deriving DecidableEq

/-- `Field(ge=low, le=high)`. -/
def within (low high value : ℚ) : Bool := decide (low ≤ value) && decide (value ≤ high)

/-- The measure has at most three decimals. -/
def isWholeMicrometres (value : ℚ) : Bool := (value * 1000).den == 1

/-- `_require_micrometre_precision`. -/
def requireMicrometrePrecision (value : ℚ) : Except ValueError Unit :=
  require (isWholeMicrometres value)
    (.message "millimetre values must have at most 0.001 mm precision")

/-- `RATIO_COMPARISON_TOLERANCE`. -/
def ratioComparisonTolerance : ℚ := 1 / 1000000000

/-- The shelf levels are in range and five percent apart, within the tolerance. -/
def levelsSeparated : List ℚ → Bool
  | [] => true
  | [value] => within (1 / 20 - ratioComparisonTolerance) (19 / 20 + ratioComparisonTolerance) value
  | value :: next :: rest =>
    within (1 / 20 - ratioComparisonTolerance) (19 / 20 + ratioComparisonTolerance) value &&
      decide (1 / 20 - ratioComparisonTolerance ≤ next - value) && levelsSeparated (next :: rest)

/-- `_legacy_back_panel_enabled`. -/
def backPanelEnabled : BackPanelInput → Bool
  | .flag enabled => enabled
  | .named panel => panel != .none

namespace BookcasePreviewInput

/-- The declared fields up to the load. -/
def checkMeasures (input : BookcasePreviewInput) : Except ValueError Unit := do
  require (within 250 6000 input.widthMm) (.field "width_mm")
  require (within 300 4000 input.heightMm) (.field "height_mm")
  require (within 100 1200 input.depthMm) (.field "depth_mm")
  require (["bookcase", "wall_library"].contains input.furnitureType) (.field "furniture_type")
  require (["mdf", "birch-plywood"].contains input.materialId) (.field "material_id")
  require (input.backMaterialId.all (["mdf-6", "birch-plywood-6"].contains ·))
    (.field "back_material_id")
  require (within 18 18 input.nominalThicknessMm) (.field "nominal_thickness_mm")
  require (within 17 19 input.measuredThicknessMm) (.field "measured_thickness_mm")
  require (within (11 / 2) (13 / 2) input.measuredBackThicknessMm)
    (.field "measured_back_thickness_mm")
  requireMicrometrePrecision input.measuredBackThicknessMm
  require (decide (input.shelfCount ≤ 40)) (.field "shelf_count")

/-- The declared range of the load. -/
def checkLoad (input : BookcasePreviewInput) : Except ValueError Unit :=
  require (within 0 500 input.loadPerShelfKg) (.field "load_per_shelf_kg")

/-- The declared fields after the load. -/
def checkOptions (input : BookcasePreviewInput) : Except ValueError Unit := do
  require (input.plinthHeightMm.all (within 0 500)) (.field "plinth_height_mm")
  require (decide (input.dividerCount ≤ 16)) (.field "divider_count")
  require (decide (input.bayWidthRatios.length ≤ 17)) (.field "bay_width_ratios")
  require (decide (input.shelfHeightRatios.length ≤ 40)) (.field "shelf_height_ratios")
  require (within 0 2000 input.baseCabinetHeightMm) (.field "base_cabinet_height_mm")
  require (within 0 1200 input.baseCabinetDepthMm) (.field "base_cabinet_depth_mm")
  require (decide (input.baseCabinetCount ≤ 17)) (.field "base_cabinet_count")
  require (within 0 5 input.edgeBandMm) (.field "edge_band_mm")
  requireMicrometrePrecision input.edgeBandMm
  require (input.jointSystem == .dado) (.field "joint_system")

/-- The back and the plinth of `validate_custom_layout`. -/
def checkBackAndPlinth (input : BookcasePreviewInput) : Except ValueError Unit := do
  require (backPanelEnabled input.backPanel || input.backMaterialId.isNone)
    (.message "back_material_id requires an enabled back panel")
  require (input.plinthHeightMm.all fun height => input.plinth == decide (0 < height)) (.message
    "plinth must be true exactly when explicit plinth_height_mm is greater than zero")

/-- The bays of `validate_custom_layout`. -/
def checkBays (input : BookcasePreviewInput) : Except ValueError Unit :=
  if input.bayWidthRatios ≠ [] then do
    require (input.bayWidthRatios.length == input.dividerCount + 1)
      (.message "bay_width_ratios must match divider_count + 1")
    let total := input.bayWidthRatios.sum
    require (decide (0 < total) && input.bayWidthRatios.all fun value =>
        decide (0 < value) && decide (2 / 25 ≤ value / total))
      (.message "every custom bay must be at least 8 percent of the inner width")
  else .ok ()

/-- The shelves of `validate_custom_layout`. -/
def checkShelves (input : BookcasePreviewInput) : Except ValueError Unit :=
  if input.shelfHeightRatios ≠ [] then do
    require (input.shelfHeightRatios.length == input.shelfCount)
      (.message "shelf_height_ratios must match shelf_count")
    require (levelsSeparated input.shelfHeightRatios)
      (.message "custom shelf levels must be ordered and separated by at least 5 percent")
  else .ok ()

/-- Every bound and validator of `BookcasePreviewInput`. -/
def validate (input : BookcasePreviewInput) : Except ValueError Unit := do
  input.checkMeasures
  input.checkLoad
  input.checkOptions
  input.checkBackAndPlinth
  input.checkBays
  input.checkShelves

end BookcasePreviewInput

/-! ## Units -/

/-- `mm`: the whole micrometres of a measure. -/
def mm (value : ℚ) : Except ValueError Int :=
  if isWholeMicrometres value then .ok (value * 1000).num
  else .error (.message (toString value ++ " mm is not representable as whole micrometres"))

/-- `quantize(Decimal("1"), ROUND_HALF_UP)`: ties go away from zero. -/
def quantizeHalfUp (value : ℚ) : Int :=
  if 0 ≤ value then ⌊value + 1 / 2⌋ else -⌊-value + 1 / 2⌋

/-- The standard acceleration of gravity, in newtons of a kilogram. -/
def newtonsOfKg : ℚ := 980665 / 100000

/-- `_load_newtons`. -/
def loadNewtons (kg : ℚ) : Int := quantizeHalfUp (kg * newtonsOfKg)

/-- `_ratios_ppm`. -/
def ratiosPpm (values : List ℚ) : List Int :=
  if values.isEmpty || decide (values.sum ≤ 0) then []
  else values.map fun value => max 1 (quantizeHalfUp (value / values.sum * 1000000))

/-- `_positions_ppm`. -/
def positionsPpm (values : List ℚ) : List Int :=
  values.map fun value => quantizeHalfUp (value * 1000000)

/-- `_back_panel`. -/
def backPanelOf : BackPanelInput → BackPanelType
  | .flag enabled => if enabled then .insetGroove else .none
  | .named panel => panel

/-! ## Normalisation -/

/-- `assert_furniture_family`. -/
def assertFurnitureFamily (p : BookcaseParameters) (furnitureType : String) :
    Except ValueError Unit :=
  if furnitureType = "bookcase" then
    require (p.baseCabinetCount == 0 && p.baseCabinetHeightUm == 0 && p.baseCabinetDepthUm == 0)
      (.message "bookcase furniture cannot contain base cabinets")
  else if furnitureType = "wall_library" then do
    require (decide (1 ≤ p.baseCabinetCount))
      (.message "wall-library furniture requires at least one base cabinet")
    require (decide (300000 ≤ p.baseCabinetHeightUm))
      (.message "wall-library base cabinet height must be at least 300 mm")
    require (p.baseCabinetDepthUm == p.depthUm)
      (.message "wall-library base cabinet depth must equal furniture depth")
    require (decide (p.baseCabinetHeightUm < p.heightUm - p.actualThicknessUm - 200000))
      (.message "wall-library base cabinet leaves no usable upper shelving zone")
  else .error (.message ("unsupported furniture family: '" ++ furnitureType ++ "'"))

/-- The names under which `normalize_preview` takes birch plywood. -/
def birchNames : List String :=
  ["birch", "birch-plywood", "plywood", "bjorkplywood", "björkplywood"]

/-- The carcass material of an input. -/
def materialOf (input : BookcasePreviewInput) : MaterialVersion :=
  if birchNames.contains input.materialId.toLower then screeningBirchPlywood18 else screeningMdf18

/-- The material of the back of an input. -/
def backMaterialOf (input : BookcasePreviewInput) : Option MaterialVersion :=
  if backPanelOf input.backPanel = .none then none
  else if input.backMaterialId = some "birch-plywood-6" ∨
      (input.backMaterialId = none ∧ (materialOf input).materialId = "birch-plywood") then
    some screeningBirchPlywood6
  else some screeningMdf6

/-- The parameters of an input. -/
def parametersOf (input : BookcasePreviewInput) : Except ValueError BookcaseParameters := do
  let nominalUm ← mm input.nominalThicknessMm
  let actualUm ← mm input.measuredThicknessMm
  let backActualUm ← mm input.measuredBackThicknessMm
  require (nominalUm == (materialOf input).nominalThicknessUm)
    (.message "MVP material catalogue currently supports nominal 18 mm sheet material")
  require (input.backMaterialId.all (["mdf-6", "birch-plywood-6"].contains ·))
    (.message "unknown back_material_id")
  require (!(backPanelOf input.backPanel == .none && input.backMaterialId.isSome))
    (.message "back_material_id requires an enabled back panel")
  let widthUm ← mm input.widthMm
  let heightUm ← mm input.heightMm
  let depthUm ← mm input.depthMm
  let baseCabinetHeightUm ← mm input.baseCabinetHeightMm
  let baseCabinetDepthUm ← mm input.baseCabinetDepthMm
  let plinthHeightUm ← mm (input.plinthHeightMm.getD (if input.plinth then 80 else 0))
  let edgeBandThicknessUm ← mm input.edgeBandMm
  return {
    widthUm
    heightUm
    depthUm
    nominalThicknessUm := nominalUm
    actualThicknessUm := actualUm
    backThicknessUm := backActualUm
    shelfCount := input.shelfCount
    shelfMount := input.shelfMount
    shelfLoadN := loadNewtons input.loadPerShelfKg
    verticalDividerCount := input.dividerCount
    bayWidthRatiosPpm := ratiosPpm input.bayWidthRatios
    shelfHeightRatiosPpm := positionsPpm input.shelfHeightRatios
    baseCabinetHeightUm
    baseCabinetDepthUm
    baseCabinetCount := input.baseCabinetCount
    backPanel := backPanelOf input.backPanel
    plinthHeightUm
    edgeBandThicknessUm
    jointSystem := input.jointSystem
    reinforcementMode := input.reinforcementMode
    wallAnchor := { required := input.wallAnchorRequired, verified := false } }

/-- `normalize_preview`, of the input dumped without its absent fields. -/
def normalizePreview (input : BookcasePreviewInput) (designId : String) (revision : Nat) :
    Except ValueError BookcaseDesignSpec := do
  require (!input.wallAnchorVerified) (.message
    "Client-supplied wall-anchor verification is not accepted; use a server-bound approval catalogue")
  let parameters ← parametersOf input
  parameters.validate
  assertFurnitureFamily parameters input.furnitureType
  let spec : BookcaseDesignSpec :=
    { designId
      revision
      parameters
      material := materialOf input
      backMaterial := backMaterialOf input }
  spec.validate
  return spec

/-! ## Exact conversions -/

theorem isWholeMicrometres_um (um : Int) : isWholeMicrometres ((um : ℚ) / 1000) = true := by
  have hmul : (um : ℚ) / 1000 * 1000 = um := by field_simp
  rw [isWholeMicrometres, hmul]
  simp

/-- A whole number of micrometres comes back through millimetres. -/
theorem mm_um (um : Int) : mm ((um : ℚ) / 1000) = .ok um := by
  have hmul : (um : ℚ) / 1000 * 1000 = um := by field_simp
  rw [mm, if_pos (isWholeMicrometres_um um), hmul]
  simp

theorem quantizeHalfUp_int (n : Int) : quantizeHalfUp n = n := by
  have hfloor : ∀ k : Int, ⌊(k : ℚ) + 1 / 2⌋ = k := by
    intro k
    rw [Int.floor_eq_iff]
    constructor
    · linarith
    · linarith
  rw [quantizeHalfUp]
  split
  · exact hfloor n
  · have hneg := hfloor (-n)
    push_cast at hneg
    omega

/-- A whole number of newtons comes back through kilograms. -/
theorem loadNewtons_kg (n : Int) : loadNewtons ((n : ℚ) / newtonsOfKg) = n := by
  have hmul : (n : ℚ) / newtonsOfKg * newtonsOfKg = n := by
    rw [newtonsOfKg]
    field_simp
  rw [loadNewtons, hmul, quantizeHalfUp_int]

theorem sum_shares (ratios : List Int) :
    (ratios.map fun ratio : Int => (ratio : ℚ) / 1000000).sum = (ratios.sum : ℚ) / 1000000 := by
  induction ratios with
  | nil => simp
  | cons ratio ratios ih =>
    rw [List.map_cons, List.sum_cons, ih, List.sum_cons, Int.cast_add, add_div]

/-- Positive shares of the whole come back as they were. -/
theorem ratiosPpm_shares {ratios : List Int} (hpositive : ∀ ratio ∈ ratios, 1 ≤ ratio)
    (hsum : ratios.sum = 1000000) :
    ratiosPpm (ratios.map fun ratio : Int => (ratio : ℚ) / 1000000) = ratios := by
  have htotal : (ratios.map fun ratio : Int => (ratio : ℚ) / 1000000).sum = 1 := by
    rw [sum_shares, hsum]
    norm_num
  have hne : ratios ≠ [] := by
    rintro rfl
    cases hsum
  rw [ratiosPpm, htotal, if_neg (by simp [hne]), List.map_map]
  refine (List.map_congr_left fun ratio hratio => ?_).trans (List.map_id ratios)
  have hmul : (ratio : ℚ) / 1000000 / 1 * 1000000 = ratio := by field_simp
  simp only [Function.comp_apply, hmul, quantizeHalfUp_int, id_eq]
  exact max_eq_right (hpositive ratio hratio)

theorem positionsPpm_shares (ratios : List Int) :
    positionsPpm (ratios.map fun ratio : Int => (ratio : ℚ) / 1000000) = ratios := by
  rw [positionsPpm, List.map_map]
  refine (List.map_congr_left fun ratio _ => ?_).trans (List.map_id ratios)
  have hmul : (ratio : ℚ) / 1000000 * 1000000 = ratio := by field_simp
  simp only [Function.comp_apply, hmul, quantizeHalfUp_int, id_eq]

end Custombuild.Api
