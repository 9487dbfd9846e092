/-
  Furniture designs: intents, material selections, site measurements, and shelving as the
  carcass that the bookcase compiler builds.
  Source: `custombuild_domain/furniture.py`, `furniture_catalog.py`, `furniture_dimensions.py`,
  `furniture_engine.py`, `furniture_production.py`.

  Tables and chests have compilers of their own, whose results production never takes; they are
  the field `otherFamily` of `FurnitureEnv`.
-/
import Custombuild.Domain.Build
import Custombuild.Domain.Semantic
import Custombuild.Lib.Json

namespace Custombuild.Domain

open Custombuild.Lib

/-! ## Intents and selections -/

structure MaterialSelection where
  materialId : String
  version : String := "screening-2026.1"
  measuredThicknessUm : Int
  batchId : Option String := none
deriving DecidableEq

structure HardwareSelection where
  catalogId : String
  version : String := "layout-1.0.0"
deriving DecidableEq

inductive ShelfLoadBasis
  | perRow | perMetre
deriving DecidableEq

structure ShelvingIntent where
  widthUm : Int := 900000
  heightUm : Int := 1800000
  depthUm : Int := 320000
  shelfCount : Nat := 4
  dividerCount : Nat := 1
  shelfLoadN : Int := 200
  shelfLoadBasis : ShelfLoadBasis := .perRow
  shelfLoadPerMetreN : Int := 0
  shelfHeightRatiosPpm : List Int := []
  bayWidthRatiosPpm : List Int := []
  backPanel : BackPanelType := .insetGroove
  shelfMount : ShelfMount := .fixed
  plinthHeightUm : Int := 0
deriving DecidableEq

structure TableIntent where
  widthUm : Int := 1000000
  heightUm : Int := 740000
  depthUm : Int := 600000
  endInsetUm : Int := 60000
  stretcherHeightUm : Int := 100000
  topLoadN : Int := 300
deriving DecidableEq

structure ChestIntent where
  widthUm : Int := 800000
  heightUm : Int := 900000
  depthUm : Int := 500000
  drawerCount : Nat := 3
  drawerLoadN : Int := 100
  frontGapUm : Int := 3000
deriving DecidableEq

inductive FurnitureIntent
  | shelving (intent : ShelvingIntent)
  | table (intent : TableIntent)
  | chest (intent : ChestIntent)
deriving DecidableEq

/-- `width_um`, `height_um` and `depth_um` of any family. -/
def FurnitureIntent.dimensions : FurnitureIntent → Int × Int × Int
  | .shelving p => (p.widthUm, p.heightUm, p.depthUm)
  | .table p => (p.widthUm, p.heightUm, p.depthUm)
  | .chest p => (p.widthUm, p.heightUm, p.depthUm)

inductive TrimUse
  | unassigned | existingRoomTrim | furnitureTrim
deriving DecidableEq

inductive Wall
  | left | right | rear
deriving DecidableEq

structure TrimProfile where
  heightUm : Option Int := none
  widthUm : Option Int := none
  use : TrimUse := .unassigned
  walls : List Wall := []
deriving DecidableEq

structure InstallationSpace where
  widthUm : Int
  heightUm : Int
  depthUm : Int
  widthIncludesTrim : Bool := false
  trimProfile : Option TrimProfile := none
  leftAllowanceUm : Option Int := none
  rightAllowanceUm : Option Int := none
  topAllowanceUm : Option Int := none
  bottomAllowanceUm : Option Int := none
  frontAllowanceUm : Option Int := none
  rearAllowanceUm : Option Int := none
deriving DecidableEq

structure FurnitureDesign where
  designId : String := "furniture"
  revision : Nat := 1
  intent : FurnitureIntent
  material : MaterialSelection := { materialId := "birch-plywood", measuredThicknessUm := 18000 }
  backMaterial : MaterialSelection :=
    { materialId := "birch-plywood-6", measuredThicknessUm := 6000 }
  hardware : Option HardwareSelection := none
  installation : Option InstallationSpace := none
deriving DecidableEq

/-- A design and a selection for its manufacture, which no design reads. -/
structure FurnitureWorkspace (Selection : Type) where
  design : FurnitureDesign
  manufacturing : Option Selection := none
deriving DecidableEq

/-! ## Validators -/

def inRange (low high value : Int) : Bool := low ≤ value && value ≤ high

/-- `resolved_shelf_load_n`. -/
def ShelvingIntent.resolvedShelfLoadN (p : ShelvingIntent) : Int :=
  match p.shelfLoadBasis with
  | .perMetre => (p.widthUm * p.shelfLoadPerMetreN + 999999) / 1000000
  | .perRow => p.shelfLoadN

/-- The declared ranges of three lengths. -/
def checkLengths (dimensions : Int × Int × Int) : Except ValueError Unit := do
  require (inRange 1 6000000 dimensions.1) (.field "width_um")
  require (inRange 1 6000000 dimensions.2.1) (.field "height_um")
  require (inRange 1 6000000 dimensions.2.2) (.field "depth_um")

/-- The declared ranges of shelving and `canonical_bay_proportions`. -/
def ShelvingIntent.validate (p : ShelvingIntent) : Except ValueError Unit := do
  checkLengths (p.widthUm, p.heightUm, p.depthUm)
  require (decide (p.shelfCount ≤ 40)) (.field "shelf_count")
  require (decide (p.dividerCount ≤ 16)) (.field "divider_count")
  require (inRange 0 5000 p.shelfLoadN) (.field "shelf_load_n")
  require (inRange 0 5000 p.shelfLoadPerMetreN) (.field "shelf_load_per_metre_n")
  require (p.shelfHeightRatiosPpm.all (inRange 50000 950000) &&
    decide (p.shelfHeightRatiosPpm.length ≤ 40)) (.field "shelf_height_ratios_ppm")
  require (p.bayWidthRatiosPpm.all (inRange 1 1000000) &&
    decide (p.bayWidthRatiosPpm.length ≤ 17)) (.field "bay_width_ratios_ppm")
  require (inRange 0 300000 p.plinthHeightUm) (.field "plinth_height_um")
  require (p.bayWidthRatiosPpm.isEmpty || p.bayWidthRatiosPpm.sum == 1000000)
    (.message "bay width proportions must sum to exactly 100 percent")
  require (decide (p.resolvedShelfLoadN ≤ 5000))
    (.message "lasten per hel hyllrad överskrider modellens gräns på 5000 N")

def TableIntent.validate (p : TableIntent) : Except ValueError Unit := do
  checkLengths (p.widthUm, p.heightUm, p.depthUm)
  require (inRange 0 500000 p.endInsetUm) (.field "end_inset_um")
  require (inRange 40000 300000 p.stretcherHeightUm) (.field "stretcher_height_um")
  require (inRange 0 5000 p.topLoadN) (.field "top_load_n")

def ChestIntent.validate (p : ChestIntent) : Except ValueError Unit := do
  checkLengths (p.widthUm, p.heightUm, p.depthUm)
  require (1 ≤ p.drawerCount && p.drawerCount ≤ 8) (.field "drawer_count")
  require (inRange 0 5000 p.drawerLoadN) (.field "drawer_load_n")
  require (inRange 1000 10000 p.frontGapUm) (.field "front_gap_um")

def FurnitureIntent.validate : FurnitureIntent → Except ValueError Unit
  | .shelving p => p.validate
  | .table p => p.validate
  | .chest p => p.validate

/-- The declared ranges of a trim profile and `validate_placement`. -/
def TrimProfile.validate (trim : TrimProfile) : Except ValueError Unit := do
  require (trim.heightUm.all (inRange 1 500000)) (.field "height_um")
  require (trim.widthUm.all (inRange 1 100000)) (.field "width_um")
  require (decide trim.walls.Nodup) (.message "trim walls must be unique")
  require (trim.walls.isEmpty || trim.use == .existingRoomTrim)
    (.message "wall placement only applies to existing room trim")

/-- The declared ranges of the measurements and `positive_remaining_space`. -/
def InstallationSpace.validate (space : InstallationSpace) : Except ValueError Unit := do
  checkLengths (space.widthUm, space.heightUm, space.depthUm)
  ifGiven space.trimProfile TrimProfile.validate
  require ([space.leftAllowanceUm, space.rightAllowanceUm, space.topAllowanceUm,
    space.bottomAllowanceUm, space.frontAllowanceUm, space.rearAllowanceUm].all fun side =>
      side.all (inRange 0 500000)) (.field "allowance_um")
  require ([(space.widthUm, space.leftAllowanceUm, space.rightAllowanceUm),
    (space.heightUm, space.topAllowanceUm, space.bottomAllowanceUm),
    (space.depthUm, space.frontAllowanceUm, space.rearAllowanceUm)].all fun axis =>
      decide (axis.2.1.getD 0 + axis.2.2.getD 0 < axis.1))
    (.message "installation allowances consume the available dimension")

/-- The declared ranges of a design and `require_family_components`. -/
def FurnitureDesign.validate (design : FurnitureDesign) : Except ValueError Unit := do
  require (decide (1 ≤ design.revision)) (.field "revision")
  design.intent.validate
  require (inRange 1000 100000 design.material.measuredThicknessUm) (.field "material")
  require (inRange 1000 100000 design.backMaterial.measuredThicknessUm) (.field "back_material")
  ifGiven design.installation InstallationSpace.validate
  match design.intent with
  | .shelving _ =>
    require design.hardware.isNone
      (.message "shelving retention is selected through the existing signed catalogue")
  | _ =>
    require design.hardware.isSome
      (.message "table and drawer families require an explicit hardware selection")

theorem intent_of_validate {design : FurnitureDesign} {p : ShelvingIntent}
    (hintent : design.intent = .shelving p) (h : design.validate = .ok ()) :
    p.validate = .ok () := by
  simp only [FurnitureDesign.validate, bind_eq_ok] at h
  obtain ⟨-, -, ⟨⟩, hvalid, -⟩ := h
  rw [hintent] at hvalid
  exact hvalid

def FurnitureWorkspace.validate {Selection : Type} (workspace : FurnitureWorkspace Selection) :
    Except ValueError Unit := workspace.design.validate

/-! ## Materials -/

def screeningBirchPlywood18 : MaterialVersion :=
  { materialId := "birch-plywood", version := "screening-2026.1", nominalThicknessUm := 18000
    densityKgM3 := 680, elasticModulusMpa := 6500, bendingStrengthMpa := 30, shearStrengthMpa := 3
    creepFactorPermille := 500, propertyUncertaintyPermille := 200
    minSupportedThicknessUm := 17000, maxSupportedThicknessUm := 19000, grainDirection := .x
    source := screeningSource }

def screeningMdf18 : MaterialVersion :=
  { materialId := "mdf", version := "screening-2026.1", nominalThicknessUm := 18000
    densityKgM3 := 750, elasticModulusMpa := 3000, bendingStrengthMpa := 18, shearStrengthMpa := 2
    creepFactorPermille := 800, propertyUncertaintyPermille := 250
    minSupportedThicknessUm := 17000, maxSupportedThicknessUm := 19000, grainDirection := .none
    source := screeningSource }

/-- `MATERIAL_CATALOG`. -/
def materialCatalog : List MaterialVersion :=
  [screeningBirchPlywood18, screeningBirchPlywood6, screeningMdf18, screeningMdf6]

/-- `resolve_material`. -/
def resolveMaterial (selection : MaterialSelection) : Except ValueError MaterialVersion := do
  let material ← demand
    ((materialCatalog.find? fun item => item.materialId == selection.materialId).filter
      fun item => item.version == selection.version)
    (.message "unknown material profile or retired material version")
  require (material.supports selection.measuredThicknessUm)
    (.message "measured thickness is outside the selected material profile")
  return material

/-! ## Site measurements -/

/-- `f"{um / 1_000:g}"`, for lengths up to a metre. -/
def millimetresText (um : Int) : String :=
  let digits := (Json.decimalText um 3).toList.reverse.dropWhile (· == '0')
  String.ofList (digits.dropWhile (· == '.')).reverse

/-- `carcass_dimensions`. -/
def InstallationSpace.carcassDimensions (space : InstallationSpace) : Option (Int × Int × Int) := do
  let left ← space.leftAllowanceUm
  let right ← space.rightAllowanceUm
  let bottom ← space.bottomAllowanceUm
  let top ← space.topAllowanceUm
  let front ← space.frontAllowanceUm
  let rear ← space.rearAllowanceUm
  return (space.widthUm - (left + right), space.heightUm - (bottom + top),
    space.depthUm - (front + rear))

def InstallationSpace.allowance (space : InstallationSpace) : Wall → Option Int
  | .left => space.leftAllowanceUm
  | .right => space.rightAllowanceUm
  | .rear => space.rearAllowanceUm

def Wall.name : Wall → String
  | .left => "vänster vägg"
  | .right => "höger vägg"
  | .rear => "bakväggen"

/-- The clearance of room trim at a wall, when it is not reserved. -/
def trimClearanceIssue (space : InstallationSpace) (trim : TrimProfile) (wall : Wall) :
    List String :=
  match trim.widthUm with
  | none => []
  | some width =>
    if (space.allowance wall).any fun allowance => decide (width ≤ allowance) then []
    else ["Befintlig list vid " ++ wall.name ++ " kräver minst " ++ millimetresText width ++
      " mm frigång. Ange utrymmet och räkna om stommen. Ingen urfräsning eller borttagning av list antas."]

/-- The issues of a trim profile. -/
def trimIssues (space : InstallationSpace) (trim : TrimProfile) : List String :=
  (if trim.heightUm.isNone || trim.widthUm.isNone then
    ["Ange listens uppmätta höjd och bredd/utstick. Tomma värden ersätts inte av antagna profilmått."]
  else []) ++
  match trim.use with
  | .existingRoomTrim =>
    (if trim.walls.isEmpty then ["Ange vilka väggar som har befintlig list. Profilens mått bestämmer inte placeringen."]
    else []) ++ trim.walls.flatMap (trimClearanceIssue space trim)
  | .unassigned => ["Listprofilens mått är sparade. Ange om den hör till rummet eller ska tillverkas som en del av möbeln."]
  | .furnitureTrim => []

/-- The messages of the issues of `review_furniture_dimensions`. -/
def dimensionIssues (design : FurnitureDesign) : List String :=
  match design.installation with
  | none => []
  | some space =>
    (match space.carcassDimensions with
      | none => ["Ange utrymmet för list och montage på alla sex sidor. Ett tomt mått är okänt; ange 0 där inget utrymme ska reserveras."]
      | some expected =>
        if expected = design.intent.dimensions then []
        else ["Stommåtten stämmer inte med kundens yttermått minus reserverat utrymme. Räkna om stommen före tillverkningsberedning."]) ++
    (match space.trimProfile with
      | none => []
      | some trim => trimIssues space trim) ++
    if space.trimProfile.any (fun trim => trim.use == .furnitureTrim) ||
        (space.widthIncludesTrim && space.trimProfile.isNone) then
      ["Kundens längdmått inkluderar list. Listens tvärsnitt, längder och mekaniska infästning behöver modelleras. Reserverat utrymme skapar inga listdelar i kaplistan."]
    else []

/-- `assert_production_dimensions`. -/
def assertProductionDimensions (design : FurnitureDesign) : Except ValueError Unit :=
  require (dimensionIssues design).isEmpty (.message (" ".intercalate (dimensionIssues design)))

/-! ## Shelving -/

structure FurnitureResult where
  designHash : String
  spec : FurnitureDesign
  parts : List PartInstance
  joints : List Joint
  totalWeightG : Int
  shelvingResult : Option DesignResult

/-- The hashes of the compilers, and the families other than shelving. -/
structure FurnitureEnv where
  hashing : Hashing
  /-- `content_hash` of what `build_furniture` puts into the design hash. -/
  furnitureHash : FurnitureDesign → List PartInstance → List Joint → String
  otherFamily : FurnitureDesign → Except ValueError FurnitureResult

/-- `validate_parts`, without moving groups. -/
def FurnitureResult.validate (result : FurnitureResult) : Except ValueError Unit := do
  require (0 < result.totalWeightG) (.field "total_weight_g")
  require (isUnique (result.parts.map PartInstance.partId) && !result.parts.isEmpty)
    (.message "furniture must have unique, nonempty parts")
  require (result.totalWeightG == (result.parts.map PartInstance.weightG).sum)
    (.message "furniture mass differs from its part inventory")
  let size := result.spec.intent.dimensions
  require (result.parts.all fun part =>
      decide (part.placement.xUm + part.finishedSize.widthUm ≤ size.1) &&
      decide (part.placement.yUm + part.finishedSize.depthUm ≤ size.2.2) &&
      decide (part.placement.zUm + part.finishedSize.heightUm ≤ size.2.1))
    (.message "generated part exceeds the locked furniture dimensions")

/-- The parameters of `_carcass` for shelving. -/
def carcassParameters (design : FurnitureDesign) (p : ShelvingIntent) : BookcaseParameters :=
  { widthUm := p.widthUm
    heightUm := p.heightUm
    depthUm := p.depthUm
    actualThicknessUm := design.material.measuredThicknessUm
    backThicknessUm := design.backMaterial.measuredThicknessUm
    plinthHeightUm := p.plinthHeightUm
    backPanel := p.backPanel
    shelfMount := p.shelfMount
    shelfCount := p.shelfCount
    shelfLoadN := p.resolvedShelfLoadN
    verticalDividerCount := p.dividerCount
    shelfHeightRatiosPpm := p.shelfHeightRatiosPpm
    bayWidthRatiosPpm := p.bayWidthRatiosPpm }

/-- `_carcass` for shelving. -/
def carcass (env : FurnitureEnv) (design : FurnitureDesign) (p : ShelvingIntent) :
    Except ValueError DesignResult := do
  let material ← resolveMaterial design.material
  let back ← resolveMaterial design.backMaterial
  require (material.nominalThicknessUm == 18000 && back.nominalThicknessUm == 6000)
    (.message "this carcass family requires 18 mm panels and a 6 mm back profile")
  let spec : BookcaseDesignSpec :=
    { designId := design.designId
      revision := design.revision
      material := material
      backMaterial := if p.backPanel = .none then none else some back
      parameters := carcassParameters design p }
  spec.validate
  build env.hashing spec

/-- `build_furniture`. -/
def buildFurniture (env : FurnitureEnv) (design : FurnitureDesign) :
    Except ValueError FurnitureResult :=
  match design.intent with
  | .shelving p => do
    let _ ← resolveMaterial design.material
    let carcass ← carcass env design p
    let result : FurnitureResult :=
      { designHash := env.furnitureHash design carcass.parts carcass.joints
        spec := design
        parts := carcass.parts
        joints := carcass.joints
        totalWeightG := (carcass.parts.map PartInstance.weightG).sum
        shelvingResult := some carcass }
    result.validate
    return result
  | _ => env.otherFamily design

/-- `shelving_production_spec`. -/
def shelvingProductionSpec {Selection : Type} (env : FurnitureEnv)
    (workspace : FurnitureWorkspace Selection) : Except ValueError BookcaseDesignSpec := do
  assertProductionDimensions workspace.design
  let result ← buildFurniture env workspace.design
  match workspace.design.intent, result.shelvingResult with
  | .shelving _, some carcass => return carcass.spec
  | _, _ => .error (.message
      "Tillverkningsberedning stöder ännu endast hyllsystem. Bord och byråer behöver modellerade beslag, hålbilder och monteringsförband.")

/-! ## What a compiled shelving is -/

/-- The specification of shelving: catalogue materials, and the parameters of the intent. -/
structure CarcassSpec (design : FurnitureDesign) (p : ShelvingIntent)
    (spec : BookcaseDesignSpec) : Prop where
  material : resolveMaterial design.material = .ok spec.material
  nominal : spec.material.nominalThicknessUm = 18000
  back : ∃ back, resolveMaterial design.backMaterial = .ok back ∧ back.nominalThicknessUm = 6000 ∧
    spec.backMaterial = if p.backPanel = .none then none else some back
  parameters : spec.parameters = carcassParameters design p
  identity : spec = {
    designId := design.designId
    revision := design.revision
    material := spec.material
    backMaterial := spec.backMaterial
    parameters := spec.parameters }
  valid : spec.validate = .ok ()

theorem carcassSpec_of_carcass {env : FurnitureEnv} {design : FurnitureDesign}
    {p : ShelvingIntent} {result : DesignResult} (h : carcass env design p = .ok result) :
    CarcassSpec design p result.spec ∧ build env.hashing result.spec = .ok result := by
  simp only [carcass, bind_eq_ok, require_eq_ok] at h
  obtain ⟨material, hmaterial, back, hback, _, hnominal, ⟨⟩, hvalid, hbuild⟩ := h
  rw [Bool.and_eq_true, beq_iff_eq, beq_iff_eq] at hnominal
  have hspec := spec_of_build hbuild
  rw [hspec]
  exact ⟨⟨hmaterial, hnominal.1, ⟨back, hback, hnominal.2, rfl⟩, rfl, rfl, hvalid⟩, hbuild⟩

/-- A furniture result of shelving holds the parts of its carcass. -/
theorem carcass_of_buildFurniture {env : FurnitureEnv} {design : FurnitureDesign}
    {p : ShelvingIntent} {result : FurnitureResult} (hintent : design.intent = .shelving p)
    (h : buildFurniture env design = .ok result) :
    ∃ shelving, carcass env design p = .ok shelving ∧ result.parts = shelving.parts ∧
      result.shelvingResult = some shelving := by
  rw [buildFurniture, hintent] at h
  simp only [bind_eq_ok] at h
  obtain ⟨_, _, shelving, hshelving, _, _, hresult⟩ := h
  cases hresult
  exact ⟨shelving, hshelving, rfl, rfl⟩

theorem carcassSpec_of_production {Selection : Type} {env : FurnitureEnv}
    {workspace : FurnitureWorkspace Selection} {spec : BookcaseDesignSpec}
    (h : shelvingProductionSpec env workspace = .ok spec) :
    ∃ p, workspace.design.intent = .shelving p ∧ CarcassSpec workspace.design p spec := by
  simp only [shelvingProductionSpec, bind_eq_ok] at h
  obtain ⟨_, _, result, hresult, h⟩ := h
  cases hintent : workspace.design.intent with
  | shelving p =>
    obtain ⟨shelving, hshelving, _, hsome⟩ := carcass_of_buildFurniture hintent hresult
    rw [hintent, hsome] at h
    cases h
    exact ⟨p, rfl, (carcassSpec_of_carcass hshelving).1⟩
  | table p =>
    rw [hintent] at h
    cases h
  | chest p =>
    rw [hintent] at h
    cases h

end Custombuild.Domain
