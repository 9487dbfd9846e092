/-
  The furniture compiler for every family: tables, chests with their drawers, and shelving.
  Source: `custombuild_domain/furniture_engine.py`, and the hardware of `furniture_catalog.py`.

  The carcass of a chest is compiled by the bookcase compiler, as shelving is.  Of a hardware
  profile only the data that the compiler reads are kept.
-/
import Custombuild.Domain.Furniture

namespace Custombuild.Domain

open Custombuild.Lib

/-! ## Hardware -/

inductive FurnitureFamily
  | shelving | table | chestOfDrawers
deriving DecidableEq

def FurnitureIntent.family : FurnitureIntent → FurnitureFamily
  | .shelving _ => .shelving
  | .table _ => .table
  | .chest _ => .chestOfDrawers

structure HardwareProfile where
  catalogId : String
  version : String := "layout-1.0.0"
  family : FurnitureFamily
  runnerLengthUm : Int := 0
  sideClearanceUm : Int := 0
  travelUm : Int := 0
  rearClearanceUm : Int := 10000
  minimumThicknessUm : Int := 17000
  maximumThicknessUm : Int := 19000
deriving DecidableEq

/-- `HARDWARE_CATALOG`. -/
def hardwareCatalog : List HardwareProfile :=
  [{ catalogId := "panel-table-connectors-layout", family := .table },
   { catalogId := "drawer-side-mount-450-layout", family := .chestOfDrawers
     runnerLengthUm := 450000, sideClearanceUm := 12700, travelUm := 450000 },
   { catalogId := "drawer-side-mount-400-layout", family := .chestOfDrawers
     runnerLengthUm := 400000, sideClearanceUm := 13000, travelUm := 400000 }]

/-- `resolve_hardware`. -/
def resolveHardware (family : FurnitureFamily) (selection : HardwareSelection) :
    Except ValueError HardwareProfile := do
  let hardware ← demand
    ((hardwareCatalog.find? fun item => item.catalogId == selection.catalogId).filter
      fun item => item.version == selection.version)
    (.message "unknown hardware profile or retired hardware version")
  require (hardware.family == family)
    (.message "hardware profile is incompatible with the furniture family")
  return hardware

/-! ## Parts -/

/-- The roles of a carcass, and those of the other families. -/
inductive FurnitureRole
  | carcass (role : PartRole)
  | tableEnd | tableStretcher | drawerSide | drawerFront | drawerBack | drawerBottom
deriving DecidableEq

/-- A `PartInstance` of any role. -/
structure FurniturePart where
  partId : String
  semanticKey : String
  role : FurnitureRole
  instanceIndex : Nat
  revision : Nat
  finishedSize : Dimensions3D
  rawSize : Dimensions3D
  placement : Point3D
  materialId : String
  materialVersion : String
  actualThicknessUm : Int
  grainDirection : GrainDirection
  aSide : FaceName
  bSide : FaceName
  visibleFaces : List FaceName := []
  edgeBands : List EdgeBand := []
  features : List ManufacturingFeature := []
  weightG : Int
deriving DecidableEq

/-- A part of a carcass among the parts of the furniture. -/
def PartInstance.asFurniture (part : PartInstance) : FurniturePart :=
  { partId := part.partId
    semanticKey := part.semanticKey
    role := .carcass part.role
    instanceIndex := part.instanceIndex
    revision := part.revision
    finishedSize := part.finishedSize
    rawSize := part.rawSize
    placement := part.placement
    materialId := part.materialId
    materialVersion := part.materialVersion
    actualThicknessUm := part.actualThicknessUm
    grainDirection := part.grainDirection
    aSide := part.aSide
    bSide := part.bSide
    visibleFaces := part.visibleFaces
    edgeBands := part.edgeBands
    features := part.features
    weightG := part.weightG }

/-- The arguments of `_panel`. -/
structure BoardPlan where
  key : String
  role : FurnitureRole
  widthUm : Int
  depthUm : Int
  heightUm : Int
  xUm : Int
  yUm : Int
  zUm : Int
  material : MaterialVersion
  thicknessUm : Int
  thinAxis : Axis

/-- `size[axes[thin_axis]]`. -/
def BoardPlan.thinSide (plan : BoardPlan) : Int :=
  match plan.thinAxis with
  | .x => plan.widthUm
  | .y => plan.depthUm
  | .z => plan.heightUm

/-- The faces of a panel across its thin axis. -/
def thinFaces : Axis → FaceName × FaceName
  | .x => (.right, .left)
  | .y => (.front, .back)
  | .z => (.top, .bottom)

/-- `_panel`. -/
def panel (ident : Identity) (design : FurnitureDesign) (plan : BoardPlan) :
    Except ValueError FurniturePart := do
  require (plan.thinSide == plan.thicknessUm &&
      decide (0 < min plan.widthUm (min plan.depthUm plan.heightUm)))
    (.message "panel dimensions do not match its material thickness")
  let dimensions ← Dimensions3D.make plan.widthUm plan.depthUm plan.heightUm
  let placement ← Point3D.make plan.xUm plan.yUm plan.zUm
  return {
    partId := ident.stableId ["part", design.designId, plan.key]
    semanticKey := plan.key
    role := plan.role
    instanceIndex := 0
    revision := design.revision
    finishedSize := dimensions
    rawSize := dimensions
    placement := placement
    materialId := plan.material.materialId
    materialVersion := plan.material.version
    actualThicknessUm := plan.thicknessUm
    grainDirection := if plan.material.grainDirection = .none then .none
      else if plan.thinAxis = .x then .z else .x
    aSide := (thinFaces plan.thinAxis).1
    bSide := (thinFaces plan.thinAxis).2
    weightG := max 1 ((plan.widthUm * plan.depthUm * plan.heightUm * plan.material.densityKgM3 +
      10 ^ 15 - 1) / 10 ^ 15) }

/-! ## Tables -/

/-- The boards of `_table_parts`. -/
def tablePlans (m : MaterialVersion) (t : Int) (p : TableIntent) : List BoardPlan :=
  let clearWidth := p.widthUm - 2 * (p.endInsetUm + t)
  let stretcherZ := p.heightUm - t - p.stretcherHeightUm
  [{ key := "table-top", role := .carcass .top
     widthUm := p.widthUm, depthUm := p.depthUm, heightUm := t
     xUm := 0, yUm := 0, zUm := p.heightUm - t
     material := m, thicknessUm := t, thinAxis := .z },
   { key := "table-end-left", role := .tableEnd
     widthUm := t, depthUm := p.depthUm, heightUm := p.heightUm - t
     xUm := p.endInsetUm, yUm := 0, zUm := 0
     material := m, thicknessUm := t, thinAxis := .x },
   { key := "table-end-right", role := .tableEnd
     widthUm := t, depthUm := p.depthUm, heightUm := p.heightUm - t
     xUm := p.widthUm - p.endInsetUm - t, yUm := 0, zUm := 0
     material := m, thicknessUm := t, thinAxis := .x },
   { key := "table-stretcher-front", role := .tableStretcher
     widthUm := clearWidth, depthUm := t, heightUm := p.stretcherHeightUm
     xUm := p.endInsetUm + t, yUm := t, zUm := stretcherZ
     material := m, thicknessUm := t, thinAxis := .y },
   { key := "table-stretcher-back", role := .tableStretcher
     widthUm := clearWidth, depthUm := t, heightUm := p.stretcherHeightUm
     xUm := p.endInsetUm + t, yUm := p.depthUm - 2 * t, zUm := stretcherZ
     material := m, thicknessUm := t, thinAxis := .y }]

/-- `_table_parts`. -/
def tableParts (ident : Identity) (design : FurnitureDesign) (p : TableIntent) :
    Except ValueError (List FurniturePart) := do
  let m ← resolveMaterial design.material
  let t := design.material.measuredThicknessUm
  require (decide (400000 ≤ p.widthUm ∧ 300000 ≤ p.heightUm ∧ 300000 ≤ p.depthUm ∧
      250000 ≤ p.widthUm - 2 * (p.endInsetUm + t)))
    (.message "table dimensions leave insufficient space between the end supports")
  require (decide (200000 ≤ p.heightUm - t - p.stretcherHeightUm ∧ 4 * t < p.depthUm))
    (.message "table height/depth leaves no usable clearance below the top")
  collect (panel ident design) (tablePlans m t p)

/-! ## Chests -/

structure MovingGroup where
  groupId : String
  partIds : List String
  travelUm : Int
  ratedLoadN : Int
deriving DecidableEq

/-- A row of drawers: where it begins and how high it is. -/
structure DrawerRow where
  index : Nat
  cursorUm : Int
  heightUm : Int
deriving DecidableEq

def DrawerRow.endUm (row : DrawerRow) : Int := row.cursorUm + row.heightUm

/-- The rows of the given heights, one above the other. -/
def stackRows : Nat → Int → List Int → List DrawerRow
  | _, _, [] => []
  | index, cursor, height :: heights =>
    ⟨index, cursor, height⟩ :: stackRows (index + 1) (cursor + height) heights

/-- The rows of `_drawer_parts`: the inner height divided as evenly as whole micrometres allow. -/
def drawerRows (t : Int) (p : ChestIntent) : List DrawerRow :=
  stackRows 0 t (equalShares (p.heightUm - 2 * t) p.drawerCount)

/-- The materials and the measures that the boards of a drawer share. -/
structure DrawerMeasures where
  m : MaterialVersion
  back : MaterialVersion
  t : Int
  bottom : Int
  p : ChestIntent
  hardware : HardwareProfile

namespace DrawerMeasures

variable (s : DrawerMeasures)

def innerWidth : Int := s.p.widthUm - 2 * s.t

def drawerWidth : Int := s.innerWidth - 2 * s.hardware.sideClearanceUm

def drawerDepth : Int := s.hardware.runnerLengthUm

def boxY : Int := s.t + 2000

/-- The depth in front of the inset back and the service clearance of the runners. -/
def usableDepth : Int :=
  s.p.depthUm - 12000 - s.bottom - s.boxY - s.hardware.rearClearanceUm

def left : Int := s.t + s.hardware.sideClearanceUm

def frontHeight (row : DrawerRow) : Int := row.heightUm - 2 * s.p.frontGapUm

def boxHeight (row : DrawerRow) : Int := s.frontHeight row - 10000

def boxZ (row : DrawerRow) : Int := row.cursorUm + s.p.frontGapUm + 10000

def drawerKey (row : DrawerRow) : String := "drawer-" ++ toString (row.index + 1)

/-- The boards of one drawer. -/
def boards (row : DrawerRow) : List BoardPlan :=
  let key := drawerKey row
  [{ key := key ++ "-front", role := .drawerFront
     widthUm := s.innerWidth - 2 * s.p.frontGapUm, depthUm := s.t, heightUm := s.frontHeight row
     xUm := s.t + s.p.frontGapUm, yUm := 0, zUm := row.cursorUm + s.p.frontGapUm
     material := s.m, thicknessUm := s.t, thinAxis := .y },
   { key := key ++ "-left", role := .drawerSide
     widthUm := s.t, depthUm := s.drawerDepth, heightUm := s.boxHeight row
     xUm := s.left, yUm := s.boxY, zUm := s.boxZ row
     material := s.m, thicknessUm := s.t, thinAxis := .x },
   { key := key ++ "-right", role := .drawerSide
     widthUm := s.t, depthUm := s.drawerDepth, heightUm := s.boxHeight row
     xUm := s.left + s.drawerWidth - s.t, yUm := s.boxY, zUm := s.boxZ row
     material := s.m, thicknessUm := s.t, thinAxis := .x },
   { key := key ++ "-box-front", role := .drawerFront
     widthUm := s.drawerWidth - 2 * s.t, depthUm := s.t, heightUm := s.boxHeight row
     xUm := s.left + s.t, yUm := s.boxY, zUm := s.boxZ row
     material := s.m, thicknessUm := s.t, thinAxis := .y },
   { key := key ++ "-back", role := .drawerBack
     widthUm := s.drawerWidth - 2 * s.t, depthUm := s.t, heightUm := s.boxHeight row
     xUm := s.left + s.t, yUm := s.boxY + s.drawerDepth - s.t, zUm := s.boxZ row
     material := s.m, thicknessUm := s.t, thinAxis := .y },
   { key := key ++ "-bottom", role := .drawerBottom
     widthUm := s.drawerWidth - 2 * s.t, depthUm := s.drawerDepth - 2 * s.t, heightUm := s.bottom
     xUm := s.left + s.t, yUm := s.boxY + s.t, zUm := s.boxZ row
     material := s.back, thicknessUm := s.bottom, thinAxis := .z }]

/-- One turn of the loop of `_drawer_parts`: the boards of a row and their moving group. -/
def drawer (ident : Identity) (design : FurnitureDesign) (row : DrawerRow) :
    Except ValueError (List FurniturePart × MovingGroup) := do
  require (decide (60000 ≤ s.boxHeight row ∧ s.bottom < s.boxHeight row))
    (.message "drawer count and front gaps leave insufficient drawer height")
  let boards ← collect (panel ident design) (s.boards row)
  return (boards, {
    groupId := drawerKey row
    partIds := boards.map FurniturePart.partId
    travelUm := s.hardware.travelUm
    ratedLoadN := s.p.drawerLoadN })

end DrawerMeasures

/-- `_drawer_parts`. -/
def drawerParts (ident : Identity) (design : FurnitureDesign) (p : ChestIntent)
    (hardware : HardwareProfile) : Except ValueError (List (List FurniturePart × MovingGroup)) := do
  let m ← resolveMaterial design.material
  let back ← resolveMaterial design.backMaterial
  let s : DrawerMeasures :=
    { m := m, back := back, t := design.material.measuredThicknessUm
      bottom := design.backMaterial.measuredThicknessUm, p := p, hardware := hardware }
  require (decide (s.drawerDepth ≤ s.usableDepth ∧ 100000 ≤ s.drawerWidth - 2 * s.t))
    (.message "selected drawer profile does not fit the locked width/depth")
  collect (s.drawer ident design) (drawerRows s.t p)

/-! ## Results -/

structure FamilyResult where
  designHash : String
  intentHash : String
  spec : FurnitureDesign
  parts : List FurniturePart
  joints : List Joint
  movingGroups : List MovingGroup
  hardwareProfile : Option HardwareProfile
  totalWeightG : Int
  shelvingResult : Option DesignResult

/-- The parts, joints and moving groups of an intent, and the carcass of shelving. -/
structure FamilyParts where
  parts : List FurniturePart
  joints : List Joint := []
  movingGroups : List MovingGroup := []
  shelvingResult : Option DesignResult := none

/-- The hashes of `build_furniture`: of what goes into the design hash, and of the intent with
    its installation. -/
structure FamilyEnv extends FurnitureEnv where
  designHash : FurnitureDesign → FamilyParts → List MaterialVersion → Option HardwareProfile →
    String
  intentHash : FurnitureIntent → Option InstallationSpace → String

/-- The declared ranges of a result and `validate_parts`. -/
def FamilyResult.validate (result : FamilyResult) : Except ValueError Unit := do
  require (result.movingGroups.all fun group =>
      decide (0 ≤ group.travelUm) && decide (0 ≤ group.ratedLoadN)) (.field "moving_groups")
  require (0 < result.totalWeightG) (.field "total_weight_g")
  require (isUnique (result.parts.map FurniturePart.partId) && !result.parts.isEmpty)
    (.message "furniture must have unique, nonempty parts")
  require (result.totalWeightG == (result.parts.map FurniturePart.weightG).sum)
    (.message "furniture mass differs from its part inventory")
  let moving := result.movingGroups.flatMap MovingGroup.partIds
  require (isUnique moving &&
      moving.all fun id => (result.parts.map FurniturePart.partId).contains id)
    (.message "moving groups must reference distinct existing parts")
  let size := result.spec.intent.dimensions
  require (result.parts.all fun part =>
      decide (part.placement.xUm + part.finishedSize.widthUm ≤ size.1) &&
      decide (part.placement.yUm + part.finishedSize.depthUm ≤ size.2.2) &&
      decide (part.placement.zUm + part.finishedSize.heightUm ≤ size.2.1))
    (.message "generated part exceeds the locked furniture dimensions")

/-- The intent that `_carcass` reads from a chest: shelving without shelves. -/
def ChestIntent.carcassIntent (p : ChestIntent) : ShelvingIntent :=
  { widthUm := p.widthUm, heightUm := p.heightUm, depthUm := p.depthUm
    shelfCount := 0, dividerCount := 0, shelfLoadN := 0 }

/-- The cases of `build_furniture`. -/
def familyParts (env : FamilyEnv) (design : FurnitureDesign)
    (hardware : Option HardwareProfile) : Except ValueError FamilyParts :=
  match design.intent with
  | .shelving p => do
    let carcass ← carcass env.toFurnitureEnv design p
    return { parts := carcass.parts.map PartInstance.asFurniture
             joints := carcass.joints
             shelvingResult := some carcass }
  | .table p => do
    let parts ← tableParts env.hashing.toIdentity design p
    return { parts := parts }
  | .chest p => do
    let hardware ← demand hardware (.message "a drawer hardware profile is required")
    let carcass ← carcass env.toFurnitureEnv design p.carcassIntent
    let drawers ← drawerParts env.hashing.toIdentity design p hardware
    return { parts := carcass.parts.map PartInstance.asFurniture ++ drawers.flatMap Prod.fst
             joints := carcass.joints
             movingGroups := drawers.map Prod.snd }

/-- The hardware of a design, resolved for its family. -/
def designHardware (design : FurnitureDesign) : Except ValueError (Option HardwareProfile) :=
  match design.hardware with
  | none => .ok none
  | some selection => do
    let hardware ← resolveHardware design.intent.family selection
    require (decide (hardware.minimumThicknessUm ≤ design.material.measuredThicknessUm ∧
        design.material.measuredThicknessUm ≤ hardware.maximumThicknessUm))
      (.message "hardware does not support the selected panel thickness")
    return some hardware

/-- The materials of a design: a table has no back. -/
def usedMaterials (design : FurnitureDesign) (material : MaterialVersion) :
    Except ValueError (List MaterialVersion) :=
  if design.intent.family = .table then .ok [material]
  else do
    let back ← resolveMaterial design.backMaterial
    return [material, back]

/-- `build_furniture`, for every family. -/
def buildFamily (env : FamilyEnv) (design : FurnitureDesign) : Except ValueError FamilyResult := do
  let material ← resolveMaterial design.material
  let hardware ← designHardware design
  let made ← familyParts env design hardware
  let materials ← usedMaterials design material
  let result : FamilyResult :=
    { designHash := env.designHash design made materials hardware
      intentHash := env.intentHash design.intent design.installation
      spec := design
      parts := made.parts
      joints := made.joints
      movingGroups := made.movingGroups
      hardwareProfile := hardware
      totalWeightG := (made.parts.map FurniturePart.weightG).sum
      shelvingResult := made.shelvingResult }
  result.validate
  return result

end Custombuild.Domain
