/-
  Plans of separate shelving modules: the grid that divides a carcass, the loads of its columns,
  and the drafts of the modules.
  Source: `custombuild_manufacturing/furniture_module_planning.py`.

  The parts of a preview are those that the compiler builds; the reports on stock, rules and
  handoff come from `PlanningEnv`, as do the hashes.
-/
import Custombuild.Domain.Compiled
import Custombuild.Domain.ExactShares
import Custombuild.Domain.Furniture

namespace Custombuild.Manufacturing

open Custombuild.Lib Custombuild.Domain

/-! ## The grid -/

def maxModuleCount : Nat := 16
def maxModuleParts : Nat := 512

structure FurnitureModuleGrid where
  columns : Nat
  rows : Nat
  gapUm : Int
  shelfCountPerRow : List Nat
  dividerCountPerModule : Nat := 0
deriving DecidableEq

/-- The declared ranges of a grid and `validate_grid`. -/
def FurnitureModuleGrid.validate (grid : FurnitureModuleGrid) : Except ValueError Unit := do
  require (1 ≤ grid.columns && grid.columns ≤ 8) (.field "columns")
  require (1 ≤ grid.rows && grid.rows ≤ 4) (.field "rows")
  require (inRange 0 100000 grid.gapUm) (.field "gap_um")
  require (1 ≤ grid.shelfCountPerRow.length && grid.shelfCountPerRow.length ≤ 4 &&
    grid.shelfCountPerRow.all fun count => count ≤ 40) (.field "shelf_count_per_row")
  require (decide (grid.dividerCountPerModule ≤ 16)) (.field "divider_count_per_module")
  require (decide (grid.rows * grid.columns ≤ maxModuleCount))
    (.message "module grid exceeds the limit of 16 carcasses")
  require (decide (2 ≤ grid.rows * grid.columns))
    (.message "a module plan requires at least two separate carcasses")
  require (grid.shelfCountPerRow.length == grid.rows)
    (.message "shelf_count_per_row must contain one count per row, bottom to top")

/-- `_allocate`. -/
def allocate (total : Int) (count : Nat) (gap : Int) : Except ValueError (List Int) := do
  let usable := total - gap * (count - 1)
  require (decide (0 < usable)) (.message "module gaps consume the entire available dimension")
  return equalShares usable count

/-! ## Previews and plans -/

structure Preview (Report : Type) where
  design : FurnitureResult
  report : Report

structure PlanningEnv (Selection Report : Type) where
  furniture : FurnitureEnv
  /-- Manufacturing, dependencies, rules and handoff of `preview_furniture`. -/
  report : FurnitureWorkspace Selection → FurnitureResult → Except ValueError Report
  /-- `content_hash` of the workspace, and of what a plan is taken of. -/
  workspaceHash : FurnitureWorkspace Selection → String
  planHash : FurnitureWorkspace Selection → FurnitureModuleGrid → Preview Report → String

structure PlannedModule (Selection Report : Type) where
  moduleId : String
  row : Nat
  column : Nat
  xUm : Int
  yUm : Int
  zUm : Int
  widthUm : Int
  heightUm : Int
  depthUm : Int
  workspace : FurnitureWorkspace Selection
  workspaceHash : String
  designHash : String
  weightG : Int
  shelfRowPayloadN : Int
  totalShelfPayloadN : Int
  preview : Preview Report

structure LoadDistribution where
  basis : ShelfLoadBasis
  sourceShelfRowPayloadN : Int
  moduleShelfRowPayloadNByColumn : List Int
  assembledShelfRowPayloadN : Int
  sourceTotalShelfPayloadN : Int
  plannedTotalShelfPayloadN : Int
  shelfLoadPerMetreN : Option Int

structure ModulePlan (Selection Report : Type) where
  sourceDesignHash : String
  sourceWorkspaceHash : String
  planHash : String
  modules : List (PlannedModule Selection Report)
  columnWidthsUm : List Int
  rowHeightsUm : List Int
  gapUm : Int
  envelope : Int × Int × Int
  loadDistribution : LoadDistribution
  partCount : Nat
  totalWeightG : Int

/-- The answer when no complete plan can be made. -/
structure Unavailable where
  code : String
  message : String
deriving DecidableEq

/-- `str(exc)`. -/
def errorText : ValueError → String
  | .field path => path
  | .message text => text

section Planning

variable {Selection Report : Type} (env : PlanningEnv Selection Report)

/-- `preview_furniture`. -/
def previewFurniture (workspace : FurnitureWorkspace Selection) :
    Except ValueError (Preview Report) := do
  let design ← buildFurniture env.furniture workspace.design
  let report ← env.report workspace design
  return ⟨design, report⟩

/-- The parts of a back, as the estimate counts them. -/
def backCount (backPanel : BackPanelType) (dividers : Nat) : Nat :=
  match backPanel with
  | .insetGroove => dividers + 1
  | .surfaceMounted => 1
  | .none => 0

/-- The parts of a module with `count` shelf rows, as the estimate counts them. -/
def moduleParts (intent : ShelvingIntent) (dividers count : Nat) : Nat :=
  4 + dividers + count * (dividers + 1) + backCount intent.backPanel dividers +
    if intent.plinthHeightUm ≠ 0 then 1 else 0

def estimatedParts (intent : ShelvingIntent) (grid : FurnitureModuleGrid) : Nat :=
  grid.columns * (grid.shelfCountPerRow.map (moduleParts intent grid.dividerCountPerModule)).sum

/-- The row loads of the columns, each rounded up. -/
def columnLoads (intent : ShelvingIntent) (widths : List Int) : List Int :=
  match intent.shelfLoadBasis with
  | .perMetre => widths.map fun width => (width * intent.shelfLoadPerMetreN + 999999) / 1000000
  | .perRow => widths.map fun width =>
      (intent.resolvedShelfLoadN * width + widths.sum - 1) / widths.sum

/-- A module of the grid: its place, its outer measures and its row load. -/
structure Cell where
  row : Nat
  column : Nat
  xUm : Int
  zUm : Int
  widthUm : Int
  heightUm : Int
  loadN : Int
deriving DecidableEq

/-- The inner loop over the columns. -/
def rowCells (gap : Int) (row : Nat) (z height : Int) : Nat → Int → List (Int × Int) → List Cell
  | _, _, [] => []
  | column, x, (width, load) :: columns =>
    ⟨row, column, x, z, width, height, load⟩ ::
      rowCells gap row z height (column + 1) (x + width + gap) columns

/-- The outer loop over the rows. -/
def gridCells (gap : Int) (columns : List (Int × Int)) : Nat → Int → List Int → List Cell
  | _, _, [] => []
  | row, z, height :: heights =>
    rowCells gap row z height 0 0 columns ++
      gridCells gap columns (row + 1) (z + height + gap) heights

/-- The draft of a module: the source with new identity, measures, counts and load. -/
def draftOf (workspace : FurnitureWorkspace Selection) (intent : ShelvingIntent)
    (grid : FurnitureModuleGrid) (planHash : String) (cell : Cell) :
    FurnitureWorkspace Selection :=
  let sized := { intent with
    widthUm := cell.widthUm
    heightUm := cell.heightUm
    shelfCount := grid.shelfCountPerRow.getD cell.row 0
    dividerCount := grid.dividerCountPerModule }
  let loaded := match intent.shelfLoadBasis with
    | .perRow => { sized with shelfLoadN := cell.loadN }
    | .perMetre => sized
  { workspace with design := { workspace.design with
      designId := "module-" ++ String.ofList (planHash.toList.take 24) ++ "-r" ++
        toString (cell.row + 1) ++ "-c" ++ toString (cell.column + 1)
      revision := 1
      intent := .shelving loaded } }

/-- The body of the loops. -/
def planModule (workspace : FurnitureWorkspace Selection) (intent : ShelvingIntent)
    (grid : FurnitureModuleGrid) (planHash : String) (cell : Cell) :
    Except Unavailable (PlannedModule Selection Report) := do
  let draft := draftOf workspace intent grid planHash cell
  let preview ← (do
      draft.validate
      previewFurniture env draft).mapError fun error =>
    (⟨"MODULE_GEOMETRY_UNSUPPORTED", "Modul rad " ++ toString (cell.row + 1) ++ ", kolumn " ++
      toString (cell.column + 1) ++ " kan inte beräknas: " ++ errorText error⟩ : Unavailable)
  return {
    moduleId := draft.design.designId
    row := cell.row
    column := cell.column
    xUm := cell.xUm
    yUm := 0
    zUm := cell.zUm
    widthUm := cell.widthUm
    heightUm := cell.heightUm
    depthUm := intent.depthUm
    workspace := draft
    workspaceHash := env.workspaceHash draft
    designHash := preview.design.designHash
    weightG := preview.design.totalWeightG
    shelfRowPayloadN := cell.loadN
    totalShelfPayloadN := cell.loadN * grid.shelfCountPerRow.getD cell.row 0
    preview }

/-- What the plan refuses before it allocates anything. -/
def checkSource (intent : ShelvingIntent) (grid : FurnitureModuleGrid) :
    Except Unavailable Unit := do
  require intent.bayWidthRatiosPpm.isEmpty ⟨"CUSTOM_BAY_LAYOUT",
    "Valda fackproportioner kan inte omvandlas exakt till detta modulrutnät. Skapa och granska ett separat utkast med jämn fackfördelning först."⟩
  require intent.shelfHeightRatiosPpm.isEmpty ⟨"CUSTOM_SHELF_LAYOUT",
    "Valda hyllhöjder kan inte omvandlas exakt till detta modulrutnät. De tas inte bort automatiskt; skapa och granska ett separat utkast först."⟩
  require (!(decide (1 < grid.rows) && intent.plinthHeightUm != 0))
    ⟨"PLINTH_TRANSFORMATION_UNSUPPORTED",
      "Sockelhöjd är vald. En staplad konstruktion behöver en explicit sockellösning; sockeln dupliceras eller tas inte bort automatiskt."⟩
  require (decide (intent.shelfCount ≤ grid.shelfCountPerRow.sum))
    ⟨"SHELF_CAPACITY_REDUCTION_UNSUPPORTED",
      "Antalet hyllrader sammanlagt får inte vara lägre än källans. En mindre förvaringskapacitet och last får inte döljas av moduluppdelningen."⟩
  require (decide (estimatedParts intent grid ≤ maxModuleParts)) ⟨"MODULE_COMPLEXITY_LIMIT",
    "Rutnätet överskrider beräkningsgränsen på 512 delar. Minska antalet moduler, hyllor eller invändiga avdelare."⟩

/-- The plan of a shelving intent, once the source has its preview. -/
def planShelving (workspace : FurnitureWorkspace Selection) (grid : FurnitureModuleGrid)
    (current : Preview Report) (intent : ShelvingIntent) :
    Except Unavailable (ModulePlan Selection Report) := do
  checkSource intent grid
  let gaps : ValueError → Unavailable := fun error =>
    ⟨"MODULE_GAPS_CONSUME_SPACE", errorText error⟩
  let widths ← (allocate intent.widthUm grid.columns grid.gapUm).mapError gaps
  let heights ← (allocate intent.heightUm grid.rows grid.gapUm).mapError gaps
  let sourceLoad := intent.resolvedShelfLoadN
  let loads := columnLoads intent widths
  require (decide (sourceLoad ≤ loads.sum)) ⟨"LOAD_REDUCTION_UNSUPPORTED",
    "Valda mellanrum skulle minska den samlade radlasten med oförändrad N/m. Välj ett annat mellanrum eller granska källans lastkrav explicit först. Planen minskar inte lasten och ändrar inte N/m automatiskt."⟩
  let planHash := env.planHash workspace grid current
  let modules ← collect (planModule env workspace intent grid planHash)
    (gridCells grid.gapUm (widths.zip loads) 0 0 heights)
  let partCount := (modules.map fun planned => planned.preview.design.parts.length).sum
  require (decide (partCount ≤ maxModuleParts)) ⟨"MODULE_COMPLEXITY_LIMIT",
    "Det genererade delantalet överskrider gränsen."⟩
  return {
    sourceDesignHash := current.design.designHash
    sourceWorkspaceHash := env.workspaceHash workspace
    planHash
    modules
    columnWidthsUm := widths
    rowHeightsUm := heights
    gapUm := grid.gapUm
    envelope := (intent.widthUm, intent.heightUm, intent.depthUm)
    loadDistribution := {
      basis := intent.shelfLoadBasis
      sourceShelfRowPayloadN := sourceLoad
      moduleShelfRowPayloadNByColumn := loads
      assembledShelfRowPayloadN := loads.sum
      sourceTotalShelfPayloadN := sourceLoad * intent.shelfCount
      plannedTotalShelfPayloadN := loads.sum * grid.shelfCountPerRow.sum
      shelfLoadPerMetreN := match intent.shelfLoadBasis with
        | .perMetre => some intent.shelfLoadPerMetreN
        | .perRow => none }
    partCount
    totalWeightG := (modules.map PlannedModule.weightG).sum }

/-- `plan_furniture_modules`: it raises, or the plan is unavailable, or it is complete. -/
def planFurnitureModules (workspace : FurnitureWorkspace Selection) (grid : FurnitureModuleGrid) :
    Except ValueError (Except Unavailable (ModulePlan Selection Report)) := do
  workspace.validate
  grid.validate
  let current ← previewFurniture env workspace
  return match workspace.design.intent with
    | .shelving intent => planShelving env workspace grid current intent
    | _ => .error
        ⟨"UNSUPPORTED_FAMILY", "Modulplanering stöder för närvarande hyllsystem."⟩

end Planning

end Custombuild.Manufacturing
