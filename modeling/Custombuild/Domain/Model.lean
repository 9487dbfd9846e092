/-
  The data model of the bookcase compiler: parameters, materials, retention contracts, parts,
  features, joints and the assembly graph, with the validators of the models.
  Source: `custombuild_domain.enums`, `geometry`, `models`, `support`.

  Lengths are integers of micrometres.  A model whose fields are out of range cannot be made, so
  `validate` is what stands between a record and a valid one.
-/
import Mathlib.Algebra.Ring.Int.Defs
import Mathlib.Data.String.Basic
import Custombuild.Lib.Checked
import Custombuild.Lib.SortBy

namespace Custombuild.Domain

open Custombuild.Lib

/-- What the compiler raises: a field outside its declared range, or a message of its own. -/
inductive ValueError
  | field (path : String)
  | message (text : String)
deriving DecidableEq

/-- An optional model is checked where it is given. -/
def ifGiven {α : Type} (value : Option α) (check : α → Except ValueError Unit) :
    Except ValueError Unit :=
  match value with
  | none => .ok ()
  | some a => check a

/-! ## Enumerations -/

inductive PartRole
  | leftSide | rightSide | top | bottom | shelf | back | plinth | divider
  | baseSide | baseBottom | baseTop | cabinetFront
deriving DecidableEq

inductive FeatureKind
  | drill | seriesDrill | countersink | pocket | groove | rabbet | outerContour
deriving DecidableEq

inductive OpenEndRelief
  | uMin | uMax | vMin | vMax
deriving DecidableEq

inductive JointType
  | dowel | confirmat | camDowel | shelfPin | rabbet | dado | tenon
deriving DecidableEq

/-- The value of the enumeration member. -/
def JointType.value : JointType → String
  | .dowel => "dowel"
  | .confirmat => "confirmat"
  | .camDowel => "cam_dowel"
  | .shelfPin => "shelf_pin"
  | .rabbet => "rabbet"
  | .dado => "dado"
  | .tenon => "tenon"

inductive JointRetentionMethod
  | drySelfLocking | mechanical
deriving DecidableEq

inductive JointRetentionMachiningScope
  | noAdditionalCnc | featuresBoundToJoint
deriving DecidableEq

inductive JointRetentionLoadMode
  | shear | withdrawal
deriving DecidableEq

inductive JointRetentionApplicationClass
  | loadBearingCarcassDado | captiveInsetBackGroove
deriving DecidableEq

inductive FaceName
  | a | b | front | back | left | right | top | bottom
deriving DecidableEq

inductive GrainDirection
  | x | y | z | none
deriving DecidableEq

inductive ShelfMount
  | fixed | adjustable
deriving DecidableEq

inductive BackPanelType
  | none | surfaceMounted | insetGroove
deriving DecidableEq

inductive ReinforcementMode
  | manual | auto
deriving DecidableEq

inductive AssemblyDirection
  | posX | negX | posY | negY | posZ | negZ
deriving DecidableEq

inductive Axis
  | x | y | z
deriving DecidableEq

/-! ## Allocation of bays and shelves -/

/-- The shares of a width that is divided by ratios: rounded down, and the micrometres left over
    go to the largest remainders. -/
def ratioWidths (available : Int) (ratios : List Int) : List Int :=
  let total := ratios.sum
  let widths := ratios.map fun ratio => available * ratio / total
  let remainder := available - widths.sum
  let order := sortBy (fun entry : Int × Nat => toLex (-(available * entry.1 % total), entry.2))
    ratios.zipIdx
  let raised := (order.take remainder.toNat).map Prod.snd
  widths.zipIdx.map fun entry => if raised.contains entry.2 then entry.1 + 1 else entry.1

/-- `count` nearly equal shares; the first ones take what is left over. -/
def equalShares (total : Int) (count : Nat) : List Int :=
  (List.range count).map fun index : Nat =>
    total / count + if (index : Int) < total % count then 1 else 0

/-- `allocate_bay_widths_um`. -/
def allocateBayWidthsUm (carcassInnerWidthUm thicknessUm : Int) (dividerCount : Nat)
    (ratiosPpm : List Int) : List Int :=
  let bayCount := dividerCount + 1
  let availableUm := carcassInnerWidthUm - dividerCount * thicknessUm
  if ratiosPpm.length = bayCount then ratioWidths availableUm ratiosPpm
  else equalShares availableUm bayCount

/-- The bottoms of shelves with given openings below them. -/
def stackShelves (thicknessUm : Int) : Int → List Int → List Int
  | _, [] => []
  | cursor, opening :: openings =>
    (cursor + opening) :: stackShelves thicknessUm (cursor + opening + thicknessUm) openings

/-- `allocate_shelf_positions_um`. -/
def allocateShelfPositionsUm (bottomSurfaceZUm innerHeightUm thicknessUm : Int) (shelfCount : Nat)
    (ratiosPpm : List Int) : List Int :=
  if shelfCount = 0 then []
  else if ratiosPpm.length = shelfCount then
    ratiosPpm.map fun ratio =>
      bottomSurfaceZUm + (innerHeightUm * ratio + 500000) / 1000000 - thicknessUm / 2
  else
    let openings := equalShares (innerHeightUm - shelfCount * thicknessUm) (shelfCount + 1)
    stackShelves thicknessUm bottomSurfaceZUm (openings.take shelfCount)

/-- The openings below the given shelves and the one above the last. -/
def openingHeights (thicknessUm topZUm : Int) : Int → List Int → List Int
  | cursor, [] => [topZUm - cursor]
  | cursor, position :: positions =>
    (position - cursor) :: openingHeights thicknessUm topZUm (position + thicknessUm) positions

/-- `shelf_opening_heights_um`. -/
def shelfOpeningHeightsUm (bottomSurfaceZUm innerHeightUm thicknessUm : Int)
    (shelfPositionsUm : List Int) : List Int :=
  openingHeights thicknessUm (bottomSurfaceZUm + innerHeightUm) bottomSurfaceZUm shelfPositionsUm

/-! ## Materials -/

structure PropertySource where
  sourceId : String
  title : String
  revision : String
deriving DecidableEq

structure MaterialVersion where
  materialId : String
  version : String
  nominalThicknessUm : Int
  densityKgM3 : Int
  elasticModulusMpa : Int
  bendingStrengthMpa : Int
  shearStrengthMpa : Int
  creepFactorPermille : Int := 600
  propertyUncertaintyPermille : Int := 150
  minSupportedThicknessUm : Int := 6000
  maxSupportedThicknessUm : Int := 40000
  grainDirection : GrainDirection := .x
  machiningAllowanceUm : Int := 0
  source : PropertySource
deriving DecidableEq

/-- The declared ranges of a material and `validate_thickness_range`. -/
def MaterialVersion.validate (m : MaterialVersion) : Except ValueError Unit := do
  require (0 < m.nominalThicknessUm) (.field "nominal_thickness_um")
  require (0 < m.densityKgM3) (.field "density_kg_m3")
  require (0 < m.elasticModulusMpa) (.field "elastic_modulus_mpa")
  require (0 < m.bendingStrengthMpa) (.field "bending_strength_mpa")
  require (0 < m.shearStrengthMpa) (.field "shear_strength_mpa")
  require (0 ≤ m.creepFactorPermille) (.field "creep_factor_permille")
  require (0 ≤ m.propertyUncertaintyPermille) (.field "property_uncertainty_permille")
  require (0 < m.minSupportedThicknessUm) (.field "min_supported_thickness_um")
  require (0 < m.maxSupportedThicknessUm) (.field "max_supported_thickness_um")
  require (0 ≤ m.machiningAllowanceUm) (.field "machining_allowance_um")
  require (m.minSupportedThicknessUm ≤ m.maxSupportedThicknessUm)
    (.message "material thickness range is inverted")
  require (m.minSupportedThicknessUm ≤ m.nominalThicknessUm &&
      m.nominalThicknessUm ≤ m.maxSupportedThicknessUm)
    (.message "nominal thickness is outside the material version's supported range")
  require (m.propertyUncertaintyPermille ≤ 900)
    (.message "material property uncertainty must be at most 900 permille")

/-- Whether a measured thickness is in the range of the material. -/
def MaterialVersion.supports (m : MaterialVersion) (thicknessUm : Int) : Bool :=
  m.minSupportedThicknessUm ≤ thicknessUm && thicknessUm ≤ m.maxSupportedThicknessUm

/-! ## Parameters -/

structure WallAnchorSpec where
  required : Bool := false
  wallSubstrate : Option String := none
  anchorSystemId : Option String := none
  evidenceId : Option String := none
  verified : Bool := false
deriving DecidableEq

/-- The truth of an optional text. -/
def isGiven (text : Option String) : Bool := text.any fun value => value != ""

/-- `verified_needs_evidence`. -/
def WallAnchorSpec.validate (anchor : WallAnchorSpec) : Except ValueError Unit :=
  require (!(anchor.verified && !(anchor.required && isGiven anchor.wallSubstrate &&
      isGiven anchor.anchorSystemId && isGiven anchor.evidenceId)))
    (.message "a verified wall anchor requires substrate, approved system and evidence ID")

structure BookcaseParameters where
  widthUm : Int := 900000
  heightUm : Int := 2000000
  depthUm : Int := 320000
  nominalThicknessUm : Int := 18000
  actualThicknessUm : Int := 18000
  shelfCount : Nat := 5
  shelfMount : ShelfMount := .fixed
  shelfLoadN : Int := 300
  verticalDividerCount : Nat := 0
  bayWidthRatiosPpm : List Int := []
  shelfHeightRatiosPpm : List Int := []
  baseCabinetHeightUm : Int := 0
  baseCabinetDepthUm : Int := 0
  baseCabinetCount : Nat := 0
  backPanel : BackPanelType := .insetGroove
  backThicknessUm : Int := 6000
  plinthHeightUm : Int := 80000
  shelfSideClearanceUm : Int := 1000
  edgeBandThicknessUm : Int := 0
  jointSystem : JointType := .dado
  reinforcementMode : ReinforcementMode := .manual
  maxDeflectionUm : Int := 3000
  deflectionSpanRatio : Int := 200
  structuralSafetyFactorPermille : Int := 1800
  assumedHorizontalForceN : Int := 50
  wallAnchor : WallAnchorSpec := {}
deriving DecidableEq

namespace BookcaseParameters

/-- The declared ranges of the numbers. -/
def checkRanges (p : BookcaseParameters) : Except ValueError Unit := do
  require (250000 ≤ p.widthUm && p.widthUm ≤ 6000000) (.field "width_um")
  require (300000 ≤ p.heightUm && p.heightUm ≤ 4000000) (.field "height_um")
  require (100000 ≤ p.depthUm && p.depthUm ≤ 1200000) (.field "depth_um")
  require (0 < p.nominalThicknessUm) (.field "nominal_thickness_um")
  require (0 < p.actualThicknessUm) (.field "actual_thickness_um")
  require (p.shelfCount ≤ 40) (.field "shelf_count")
  require (0 ≤ p.shelfLoadN && p.shelfLoadN ≤ 5000) (.field "shelf_load_n")
  require (p.verticalDividerCount ≤ 16) (.field "vertical_divider_count")
  require (p.bayWidthRatiosPpm.all fun ratio => 0 < ratio && ratio ≤ 1000000)
    (.field "bay_width_ratios_ppm")
  require (p.shelfHeightRatiosPpm.all fun ratio => 0 < ratio && ratio ≤ 1000000)
    (.field "shelf_height_ratios_ppm")
  require (0 ≤ p.baseCabinetHeightUm && p.baseCabinetHeightUm ≤ 2000000)
    (.field "base_cabinet_height_um")
  require (0 ≤ p.baseCabinetDepthUm && p.baseCabinetDepthUm ≤ 1200000)
    (.field "base_cabinet_depth_um")
  require (p.baseCabinetCount ≤ 17) (.field "base_cabinet_count")
  require (0 < p.backThicknessUm) (.field "back_thickness_um")
  require (0 ≤ p.plinthHeightUm) (.field "plinth_height_um")
  require (0 ≤ p.shelfSideClearanceUm) (.field "shelf_side_clearance_um")
  require (0 ≤ p.edgeBandThicknessUm) (.field "edge_band_thickness_um")
  require (0 < p.maxDeflectionUm) (.field "max_deflection_um")
  require (0 < p.deflectionSpanRatio) (.field "deflection_span_ratio")
  require (0 < p.structuralSafetyFactorPermille) (.field "structural_safety_factor_permille")
  require (0 < p.assumedHorizontalForceN) (.field "assumed_horizontal_force_n")

/-- The declared ranges of the fields. -/
def checkFields (p : BookcaseParameters) : Except ValueError Unit := do
  p.checkRanges
  p.wallAnchor.validate

/-- The height at which the shelves begin. -/
def shelfZoneBottom (p : BookcaseParameters) : Int :=
  if p.baseCabinetCount ≠ 0 then p.plinthHeightUm + p.baseCabinetHeightUm
  else p.plinthHeightUm + p.actualThicknessUm

/-- The clear height of the shelves. -/
def innerHeight (p : BookcaseParameters) : Int :=
  p.heightUm - p.shelfZoneBottom - p.actualThicknessUm

/-- The clear width between the sides. -/
def innerWidth (p : BookcaseParameters) : Int := p.widthUm - 2 * p.actualThicknessUm

/-- The clear widths of the bays. -/
def bayWidths (p : BookcaseParameters) : List Int :=
  allocateBayWidthsUm p.innerWidth p.actualThicknessUm p.verticalDividerCount p.bayWidthRatiosPpm

/-- The bottoms of the shelf rows. -/
def shelfPositions (p : BookcaseParameters) : List Int :=
  allocateShelfPositionsUm p.shelfZoneBottom p.innerHeight p.actualThicknessUm p.shelfCount
    p.shelfHeightRatiosPpm

/-- The clear widths of the cabinets: the grid of the bays where the counts agree. -/
def baseOpenings (p : BookcaseParameters) : List Int :=
  if p.baseCabinetCount = p.verticalDividerCount + 1 then p.bayWidths
  else allocateBayWidthsUm p.innerWidth p.actualThicknessUm (p.baseCabinetCount - 1) []

/-- The custom shelf centres are ordered and five percent apart. -/
def centresOrdered : List Int → Bool
  | [] => true
  | [value] => 50000 ≤ value && value ≤ 950000
  | value :: next :: rest =>
    50000 ≤ value && value ≤ 950000 && 50000 ≤ next - value && centresOrdered (next :: rest)

/-- The outer measures of `validate_geometry`. -/
def checkEnvelope (p : BookcaseParameters) : Except ValueError Unit := do
  let t := p.actualThicknessUm
  require (p.jointSystem == .dado) (.message ("joint system '" ++ p.jointSystem.value ++
    "' is not supported end-to-end by the production MVP; supported primary joint systems: dado"))
  require (!(p.widthUm < 250000 || p.heightUm < 300000 || p.depthUm < 100000))
    (.message "bookcase dimensions are below the supported template minimum")
  require (2 * t < p.widthUm) (.message "width must exceed two side thicknesses")
  require (p.plinthHeightUm + 2 * t < p.heightUm)
    (.message "height leaves no usable internal opening")
  require (t < p.depthUm) (.message "depth must exceed material thickness")
  require (0 < p.innerWidth - p.verticalDividerCount * t)
    (.message "vertical dividers consume all internal width")

/-- The custom bays of `validate_geometry`. -/
def checkBayRatios (p : BookcaseParameters) : Except ValueError Unit :=
  if p.bayWidthRatiosPpm ≠ [] then do
    require (p.bayWidthRatiosPpm.length = p.verticalDividerCount + 1)
      (.message "bay width ratios must match the number of bays")
    require (p.bayWidthRatiosPpm.all fun ratio => p.bayWidthRatiosPpm.sum * 8 ≤ ratio * 100)
      (.message "every custom bay must be at least 8 percent of the inner width")
  else .ok ()

/-- The custom shelves of `validate_geometry`. -/
def checkShelfRatios (p : BookcaseParameters) : Except ValueError Unit :=
  if p.shelfHeightRatiosPpm ≠ [] then do
    require (p.shelfHeightRatiosPpm.length = p.shelfCount)
      (.message "shelf height ratios must match the shelf count")
    require (centresOrdered p.shelfHeightRatiosPpm)
      (.message "custom shelf centres must be ordered and separated by at least 5 percent")
  else .ok ()

/-- The openings of `validate_geometry`. -/
def checkOpenings (p : BookcaseParameters) : Except ValueError Unit := do
  require (p.bayWidths.all fun width => 2 * p.shelfSideClearanceUm + 40000 ≤ width)
    (.message "divider layout leaves an unmanufacturable shelf width")
  require ((shelfOpeningHeightsUm p.shelfZoneBottom p.innerHeight p.actualThicknessUm
      p.shelfPositions).all fun opening => 40000 ≤ opening)
    (.message "shelf layout leaves an unmanufacturable opening height")

/-- The cabinets of `validate_geometry`. -/
def checkBase (p : BookcaseParameters) : Except ValueError Unit :=
  if p.baseCabinetCount ≠ 0 then do
    require (300000 ≤ p.baseCabinetHeightUm)
      (.message "base cabinet height must be at least 300 mm")
    require (p.baseCabinetDepthUm = p.depthUm)
      (.message "base cabinet depth must equal the furniture depth")
    require (p.baseCabinetHeightUm < p.heightUm - p.actualThicknessUm - 200000)
      (.message "base cabinet leaves no usable upper shelving zone")
    require (p.baseOpenings.all fun opening => 200000 ≤ opening)
      (.message "base cabinet layout leaves an unmanufacturable module width")
  else
    require (p.baseCabinetHeightUm == 0 && p.baseCabinetDepthUm == 0)
      (.message "base cabinet dimensions require at least one cabinet module")

/-- The back and the safety factor of `validate_geometry`. -/
def checkBack (p : BookcaseParameters) : Except ValueError Unit := do
  require (!(p.backPanel == .insetGroove && p.depthUm ≤ p.backThicknessUm + 12000))
    (.message "depth is insufficient for the inset back-panel groove")
  require (!(p.backPanel == .none && p.backThicknessUm ≤ 0))
    (.message "back thickness must remain a positive catalogue value")
  require (1000 ≤ p.structuralSafetyFactorPermille && p.structuralSafetyFactorPermille ≤ 5000)
    (.message "structural safety factor must be between 1.0 and 5.0")

/-- `validate_geometry`. -/
def validateGeometry (p : BookcaseParameters) : Except ValueError Unit := do
  p.checkEnvelope
  p.checkBayRatios
  p.checkShelfRatios
  p.checkOpenings
  p.checkBase
  p.checkBack

/-- A record of parameters is made only by passing this. -/
def validate (p : BookcaseParameters) : Except ValueError Unit := do
  p.checkFields
  p.validateGeometry

end BookcaseParameters

/-! ## Retention contracts -/

structure JointRetentionLoadCase where
  mode : JointRetentionLoadMode
  ratedDesignLoadN : Int
  verifiedCapacityN : Int
deriving DecidableEq

structure JointRetentionContract where
  systemId : String
  systemVersion : String
  jointType : JointType := .dado
  applicationClass : JointRetentionApplicationClass := .loadBearingCarcassDado
  method : JointRetentionMethod
  machiningScope : JointRetentionMachiningScope
  hardwareSku : String
  hardwareCountPerJoint : Int
  /-- Material identities and versions. -/
  applicableMaterials : List (String × String)
  jointGeometrySha256 : String
  minimumApplicableThicknessUm : Int
  maximumApplicableThicknessUm : Int
  loadCases : List JointRetentionLoadCase
  safetyFactorPermille : Int
  boundFeatureIds : List String := []
deriving DecidableEq

namespace JointRetentionContract

/-- The declared ranges and `validate_machining_scope`. -/
def validate (c : JointRetentionContract) : Except ValueError Unit := do
  require (0 < c.hardwareCountPerJoint) (.field "hardware_count_per_joint")
  require (c.applicableMaterials ≠ []) (.field "applicable_materials")
  require (0 < c.minimumApplicableThicknessUm) (.field "minimum_applicable_thickness_um")
  require (0 < c.maximumApplicableThicknessUm) (.field "maximum_applicable_thickness_um")
  require (c.loadCases.length = 2) (.field "load_cases")
  require (c.loadCases.all fun item => 0 < item.ratedDesignLoadN && 0 < item.verifiedCapacityN)
    (.field "load_cases")
  require (1000 ≤ c.safetyFactorPermille && c.safetyFactorPermille ≤ 100000)
    (.field "safety_factor_permille")
  require (c.applicationClass == .loadBearingCarcassDado)
    (.message "the current retention contract only covers load-bearing carcass DADOs")
  require (c.applicableMaterials.map toLex == sortedSet (c.applicableMaterials.map toLex))
    (.message "joint-retention applicable materials must be sorted and unique")
  require (c.minimumApplicableThicknessUm ≤ c.maximumApplicableThicknessUm)
    (.message "joint-retention thickness range is inverted")
  require (c.loadCases.map JointRetentionLoadCase.mode == [.shear, .withdrawal])
    (.message "joint-retention load cases must contain canonical shear and withdrawal modes")
  require (c.loadCases.all fun item =>
      item.ratedDesignLoadN * c.safetyFactorPermille ≤ item.verifiedCapacityN * 1000)
    (.message
      "verified joint-retention capacity does not meet the declared design load and safety factor")
  require (c.boundFeatureIds.dedup.length = c.boundFeatureIds.length &&
      c.boundFeatureIds.all fun id => id != "")
    (.message "joint-retention feature IDs must be unique and non-blank")
  if c.machiningScope = .featuresBoundToJoint then
    require (c.boundFeatureIds ≠ []) (.message
      "feature-bound joint retention requires at least one manufacturing feature ID")
  else
    require (c.boundFeatureIds = []) (.message
      "joint-retention feature IDs require the features-bound machining scope")
  require (!(c.method == .drySelfLocking && c.machiningScope != .featuresBoundToJoint)) (.message
    "dry self-locking retention requires explicit joint-bound manufacturing features")

/-- The rated load of a mode. -/
def ratedLoad (c : JointRetentionContract) (mode : JointRetentionLoadMode) : Option Int :=
  (c.loadCases.find? fun item => item.mode == mode).map JointRetentionLoadCase.ratedDesignLoadN

/-- Whether the thickness is in the range of the contract. -/
def coversThickness (c : JointRetentionContract) (thicknessUm : Int) : Bool :=
  c.minimumApplicableThicknessUm ≤ thicknessUm && thicknessUm ≤ c.maximumApplicableThicknessUm

end JointRetentionContract

/-! ## Specifications -/

def bookcaseEngineVersion : String := "0.9.0"

def bookcaseTemplateVersion : String := "2.2.0"

structure BookcaseDesignSpec where
  designId : String
  revision : Nat := 1
  templateVersion : String := bookcaseTemplateVersion
  engineVersion : String := bookcaseEngineVersion
  parameters : BookcaseParameters
  material : MaterialVersion
  backMaterial : Option MaterialVersion := none
  jointRetention : Option JointRetentionContract := none
deriving DecidableEq

namespace BookcaseDesignSpec

/-- `reject_retired_compiler_versions`. -/
def rejectRetiredCompilerVersions (spec : BookcaseDesignSpec) : Except ValueError Unit :=
  require (spec.engineVersion == bookcaseEngineVersion &&
      spec.templateVersion == bookcaseTemplateVersion)
    (.message "the requested engine/template version is retired; create new revision")

/-- `validate_material`. -/
def validateMaterial (spec : BookcaseDesignSpec) : Except ValueError Unit := do
  let p := spec.parameters
  require (p.nominalThicknessUm = spec.material.nominalThicknessUm)
    (.message "design nominal thickness must match material catalogue version")
  require (spec.material.supports p.actualThicknessUm)
    (.message "measured thickness is outside the material version's supported range")
  if p.backPanel ≠ .none then
    let back ← demand spec.backMaterial
      (.message "a versioned back material is required when a back panel is present")
    require (back.supports p.backThicknessUm) (.message
      "measured back thickness is outside the back material version's supported range")
  else
    require spec.backMaterial.isNone
      (.message "back material is forbidden when the design has no back panel")

/-- `validate_joint_retention`. -/
def validateJointRetention (spec : BookcaseDesignSpec) : Except ValueError Unit :=
  match spec.jointRetention with
  | none => .ok ()
  | some retention => do
    let p := spec.parameters
    require (retention.jointType == .dado)
      (.message "the current bookcase retention contract applies only to DADO joints")
    require (retention.applicationClass == .loadBearingCarcassDado)
      (.message "the bookcase retention contract must target load-bearing carcass DADOs")
    require (!(p.jointSystem != .dado && p.backPanel != .insetGroove))
      (.message "the design contains no DADO joint requiring retention")
    require (retention.method == .mechanical && retention.machiningScope == .noAdditionalCnc)
      (.message
        "the current bookcase template accepts only mechanical joint retention that requires no additional CNC features")
    require (retention.applicableMaterials.contains
        (spec.material.materialId, spec.material.version))
      (.message "joint-retention contract does not cover every DADO member material version")
    require (retention.coversThickness p.actualThicknessUm)
      (.message "joint-retention contract does not cover every retained member thickness")
    require ((retention.ratedLoad .shear).any (fun rated => max p.shelfLoadN 1 ≤ rated) &&
        (retention.ratedLoad .withdrawal).any fun rated => p.assumedHorizontalForceN ≤ rated)
      (.message "joint-retention load case is below the bookcase design load")
    require (p.structuralSafetyFactorPermille ≤ retention.safetyFactorPermille)
      (.message "joint-retention safety factor is below the bookcase design requirement")

/-- A specification is made only by passing this. -/
def validate (spec : BookcaseDesignSpec) : Except ValueError Unit := do
  require (0 < spec.revision) (.field "revision")
  spec.parameters.validate
  spec.material.validate
  ifGiven spec.backMaterial MaterialVersion.validate
  ifGiven spec.jointRetention JointRetentionContract.validate
  spec.rejectRetiredCompilerVersions
  spec.validateMaterial
  spec.validateJointRetention

end BookcaseDesignSpec

/-! ## Parts -/

/-- The size of a box; its sides are positive. -/
structure Dimensions3D where
  widthUm : Int
  depthUm : Int
  heightUm : Int
  positive : 0 < widthUm ∧ 0 < depthUm ∧ 0 < heightUm
deriving DecidableEq

def Dimensions3D.make (widthUm depthUm heightUm : Int) : Except ValueError Dimensions3D :=
  if h : 0 < widthUm ∧ 0 < depthUm ∧ 0 < heightUm then .ok ⟨widthUm, depthUm, heightUm, h⟩
  else .error (.field "dimensions")

/-- A point with coordinates that are not negative. -/
structure Point3D where
  xUm : Int := 0
  yUm : Int := 0
  zUm : Int := 0
  nonneg : 0 ≤ xUm ∧ 0 ≤ yUm ∧ 0 ≤ zUm := by decide
deriving DecidableEq

def Point3D.make (xUm yUm zUm : Int) : Except ValueError Point3D :=
  if h : 0 ≤ xUm ∧ 0 ≤ yUm ∧ 0 ≤ zUm then .ok ⟨xUm, yUm, zUm, h⟩
  else .error (.field "point")

structure FeatureDimensions where
  diameterUm : Option Int := none
  depthUm : Option Int := none
  widthUm : Option Int := none
  lengthUm : Option Int := none
  radiusUm : Option Int := none
deriving DecidableEq

/-- The declared ranges and `at_least_one_dimension`. -/
def FeatureDimensions.validate (d : FeatureDimensions) : Except ValueError Unit := do
  let values := [d.diameterUm, d.depthUm, d.widthUm, d.lengthUm, d.radiusUm]
  require (values.all fun value => value.all fun um => 0 < um) (.field "feature_dimensions")
  require (values.any Option.isSome) (.message "a manufacturing feature must have a dimension")

structure ManufacturingFeature where
  featureId : String
  partId : String
  jointId : String
  kind : FeatureKind
  face : FaceName
  origin : Point3D
  dimensions : FeatureDimensions
  patternCount : Nat := 1
  pitchUm : Option Int := none
  toleranceUm : Int := 150
  fitClearanceUm : Int := 0
  cornerStrategy : Option String := none
  requiresSquareCorners : Bool := false
  openEndReliefs : List OpenEndRelief := []
deriving DecidableEq

structure EdgeBand where
  edge : FaceName
  thicknessUm : Int
deriving DecidableEq

structure PartInstance where
  partId : String
  semanticKey : String
  role : PartRole
  instanceIndex : Nat
  revision : Nat
  finishedSize : Dimensions3D
  rawSize : Dimensions3D
  placement : Point3D
  materialId : String
  materialVersion : String
  actualThicknessUm : Int
  grainDirection : GrainDirection
  aSide : FaceName
  bSide : FaceName
  visibleFaces : List FaceName := []
  edgeBands : List EdgeBand := []
  features : List ManufacturingFeature := []
  weightG : Int
deriving DecidableEq

/-! ## Joints -/

structure JointMember where
  partId : String
  matingFace : FaceName
  featureIds : List String
deriving DecidableEq

/-- A joint has exactly two members. -/
structure Joint where
  jointId : String
  jointType : JointType
  first : JointMember
  second : JointMember
  matingOrigin : Point3D
  assemblyDirection : AssemblyDirection
  hardwareSku : Option String := none
  hardwareCount : Int := 0
  toleranceUm : Int := 200
  retentionApplicationClass : Option JointRetentionApplicationClass := none
  retention : Option JointRetentionContract := none
deriving DecidableEq

def Joint.members (joint : Joint) : List JointMember := [joint.first, joint.second]

def Joint.partIds (joint : Joint) : List String := joint.members.map JointMember.partId

/-- `distinct_members`. -/
def Joint.validate (joint : Joint) : Except ValueError Unit := do
  require (joint.first.partId != joint.second.partId)
    (.message "a joint must connect two distinct part instances")
  if joint.jointType = .dado then
    require joint.retentionApplicationClass.isSome
      (.message "every DADO must declare its retention application class")
  else
    require joint.retentionApplicationClass.isNone
      (.message "only DADO joints may declare a retention application class")
  match joint.retention with
  | none => pure ()
  | some retention => do
    require (retention.jointType == joint.jointType)
      (.message "joint retention must match its joint type")
    require (joint.hardwareSku == some retention.hardwareSku)
      (.message "joint hardware SKU must match its retention contract")
    require (joint.hardwareCount == retention.hardwareCountPerJoint)
      (.message "joint hardware count must match its retention contract")
    require (joint.retentionApplicationClass == some retention.applicationClass)
      (.message "joint retention must match its application class")
    require (retention.boundFeatureIds.all fun id =>
        (joint.members.flatMap JointMember.featureIds).contains id)
      (.message "joint retention references manufacturing features outside the joint")
  require (!(joint.retentionApplicationClass == some .captiveInsetBackGroove &&
      (joint.retention.isSome || joint.hardwareSku.isSome || joint.hardwareCount != 0)))
    (.message "a captive inset-back groove cannot inherit carcass retention hardware")

end Custombuild.Domain
