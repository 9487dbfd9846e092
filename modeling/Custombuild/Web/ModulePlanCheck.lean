/-
  The browser's check of a module plan, and the document of the plan that the server answers with.
  Source: `apps/web/lib/furniture-module-plan.ts`, `assertMatchingFurnitureModulePlan`, and
  `custombuild_manufacturing/furniture_module_planning.py`, `plan_furniture_modules`.

  A plan has the members of the browser's interface that the check compares; those whose type leaves
  nothing to check (requirements, reports, what is never qualified) are left out.  Rows and columns
  are natural numbers: the check refuses any other.
-/
import Custombuild.Cam.ProductionModel
import Custombuild.Manufacturing.ModuleTiling
import Custombuild.Web.FurnitureWorkspace

namespace Custombuild.Web.Furniture

open Custombuild.Lib Custombuild.Domain Custombuild.Manufacturing
open Custombuild.Cam (isSha256)

/-! ## Documents -/

structure DimensionsDocument where
  widthUm : Int
  heightUm : Int
  depthUm : Int
deriving DecidableEq

structure PlacementDocument where
  xUm : Int
  yUm : Int
  zUm : Int
deriving DecidableEq

/-- Of the preview of a module, what is compared. -/
structure PreviewDocument where
  workspace : WorkspaceDocument
  designHash : String
  totalWeightG : Int

structure ModuleDraftDocument where
  moduleId : String
  row : Nat
  column : Nat
  placement : PlacementDocument
  dimensionsUm : DimensionsDocument
  weightG : Int
  workspace : WorkspaceDocument
  workspaceHash : String
  designHash : String
  sourceWorkspaceHash : String
  sourceDesignHash : String
  planHash : String
  preview : PreviewDocument

structure LayoutDocument where
  columnWidthsUm : List Int
  rowHeightsUm : List Int
  envelope : DimensionsDocument
  gapUm : Option Int

structure SourceDocument where
  workspace : WorkspaceDocument
  workspaceHash : String
  designHash : String
  installation : Option InstallationSpace

inductive PlanState
  | available | unavailable
deriving DecidableEq

structure ModulePlanDocument where
  state : PlanState
  sourceDesignHash : String
  source : SourceDocument
  grid : FurnitureModuleGrid
  planHash : String
  modules : List ModuleDraftDocument
  layout : Option LayoutDocument
  canExportDrafts : Bool

/-! ## The check -/

def changedDesign : String := "Designen har ändrats. Beräkna modulplanen igen."

def otherWorkspace : String :=
  "Modulplanen gäller en annan arbetsfil. Kontrollera material, råformat och installation och beräkna igen."

def otherChoices : String := "Modulplanen motsvarar inte dina val. Beräkna den igen."

/-- What `invalid` throws. -/
def incompletePlan : String :=
  "Modulplanen är ofullständig eller innehåller motstridiga modulidentiteter. Beräkna den igen."

/-- `Number.isSafeInteger` of an integer. -/
def isSafe (value : Int) : Bool := inRange (-(2 ^ 53 - 1)) (2 ^ 53 - 1) value

/-- `equalAllocation`; the remainder of a division has the sign of the dividend. -/
def equalAllocation (gap : Int) (values : List Int) (total : Int) : Bool :=
  let usable := total - gap * (values.length - 1)
  values = (List.range values.length).map fun index : Nat =>
    usable / values.length + if (index : Int) < usable.tmod values.length then 1 else 0

/-- `module-${plan_hash.slice(0, 24)}-r${row + 1}-c${column + 1}` -/
def moduleIdText (planHash : String) (row column : Nat) : String :=
  "module-" ++ String.ofList (planHash.toList.take 24) ++ "-r" ++ toString (row + 1) ++ "-c" ++
    toString (column + 1)

/-- The quotient, rounded up. -/
def ceilDiv (numerator denominator : Int) : Int := -(-numerator / denominator)

section Check

variable (plan : ModulePlanDocument) (workspace : WorkspaceDocument) (designHash : String)
  (grid : FurnitureModuleGrid)

/-- The layout divides the outer measures of the workspace. -/
def layoutMatches (layout : LayoutDocument) : Bool :=
  let widths := layout.columnWidthsUm
  let heights := layout.rowHeightsUm
  plan.modules.length = grid.columns * grid.rows && plan.modules.length ≤ 16 &&
    widths.length = grid.columns && heights.length = grid.rows &&
    (widths ++ heights).all (fun value => isSafe value && decide (0 < value)) &&
    layout.gapUm.all (fun gap => gap = grid.gapUm) &&
    equalAllocation grid.gapUm widths workspace.intent.widthUm &&
    equalAllocation grid.gapUm heights workspace.intent.heightUm &&
    widths.sum + grid.gapUm * (grid.columns - 1) = workspace.intent.widthUm &&
    heights.sum + grid.gapUm * (grid.rows - 1) = workspace.intent.heightUm &&
    layout.envelope =
      ⟨workspace.intent.widthUm, workspace.intent.heightUm, workspace.intent.depthUm⟩

/-- The identities of a draft, and that its position and its identity are new. -/
def identitiesMatch (positions : List (Nat × Nat)) (ids : List String)
    (draft : ModuleDraftDocument) : Bool :=
  draft.row < grid.rows && draft.column < grid.columns &&
    !positions.contains (draft.row, draft.column) && !ids.contains draft.moduleId &&
    draft.moduleId = moduleIdText plan.planHash draft.row draft.column &&
    isSha256 draft.workspaceHash && isSha256 draft.designHash &&
    draft.sourceWorkspaceHash = plan.source.workspaceHash && draft.sourceDesignHash = designHash &&
    draft.planHash = plan.planHash && draft.moduleId = draft.workspace.designId &&
    draft.workspace.revision = 1 && draft.designHash = draft.preview.designHash &&
    workspaceIdentity draft.workspace = workspaceIdentity draft.preview.workspace &&
    isSafe draft.weightG && 0 ≤ draft.weightG && draft.weightG = draft.preview.totalWeightG

/-- The measures, the counts, the load and the place of a draft. -/
def measuresMatch (layout : LayoutDocument) (draft : ModuleDraftDocument) : Bool :=
  let widths := layout.columnWidthsUm
  let heights := layout.rowHeightsUm
  let dimensions : DimensionsDocument :=
    ⟨widths.getD draft.column 0, heights.getD draft.row 0, workspace.intent.depthUm⟩
  draft.dimensionsUm = dimensions && draft.workspace.intent.widthUm = dimensions.widthUm &&
    draft.workspace.intent.heightUm = dimensions.heightUm &&
    draft.workspace.intent.depthUm = dimensions.depthUm &&
    draft.workspace.intent.shelfCount = grid.shelfCountPerRow[draft.row]? &&
    draft.workspace.intent.dividerCount = some grid.dividerCountPerModule &&
    (workspace.intent.shelfLoadBasis = some .perMetre || draft.workspace.intent.shelfLoadN =
      some (ceilDiv (workspace.intent.shelfLoadN.getD 200 * dimensions.widthUm) widths.sum)) &&
    draft.placement = ⟨offset grid.gapUm widths draft.column, 0, offset grid.gapUm heights draft.row⟩

/-- A draft with the members that may change put back. -/
def restored (draft : WorkspaceDocument) : WorkspaceDocument :=
  { draft with
    designId := workspace.designId
    revision := workspace.revision
    intent := { draft.intent with
      widthUm := workspace.intent.widthUm
      heightUm := workspace.intent.heightUm
      shelfCount := some (workspace.intent.shelfCount.getD 4)
      dividerCount := some (workspace.intent.dividerCount.getD 1)
      shelfLoadN :=
        if workspace.intent.shelfLoadBasis = some .perMetre then draft.intent.shelfLoadN
        else some (workspace.intent.shelfLoadN.getD 200) } }

/-- The loop over the modules, with the positions and the identities seen. -/
def checkDrafts (layout : LayoutDocument) : List (Nat × Nat) → List String →
    List ModuleDraftDocument → Except String Unit
  | _, _, [] => .ok ()
  | positions, ids, draft :: drafts => do
    require (identitiesMatch plan designHash grid positions ids draft) incompletePlan
    require (measuresMatch workspace grid layout draft) incompletePlan
    require (decide (workspaceIdentity (restored workspace draft.workspace) =
      workspaceIdentity workspace)) incompletePlan
    checkDrafts layout ((draft.row, draft.column) :: positions) (draft.moduleId :: ids) drafts

def assertMatchingFurnitureModulePlan : Except String Unit := do
  require (decide (plan.sourceDesignHash = designHash) &&
    decide (plan.source.designHash = designHash)) changedDesign
  require (decide (workspaceIdentity plan.source.workspace = workspaceIdentity workspace) &&
    decide (workspaceIdentity
      { plan.source.workspace with installation := plan.source.installation } =
        workspaceIdentity workspace)) otherWorkspace
  require (decide (plan.grid = grid)) otherChoices
  require (isSha256 plan.planHash && isSha256 plan.source.workspaceHash && isSha256 designHash)
    incompletePlan
  match plan.state, plan.layout with
  | .unavailable, layout =>
    require (plan.modules.isEmpty && !plan.canExportDrafts && layout.isNone) incompletePlan
  | .available, none => .error incompletePlan
  | .available, some layout =>
    require (layoutMatches plan workspace grid layout) incompletePlan
    checkDrafts plan workspace designHash grid layout [] [] plan.modules

end Check

/-! ## The server's answer -/

section Answer

variable {Report : Type} (env : PlanningEnv ManufacturingSelection Report)

def moduleDocument (sourceWorkspaceHash sourceDesignHash planHash : String)
    (planned : PlannedModule ManufacturingSelection Report) : ModuleDraftDocument :=
  { moduleId := planned.moduleId
    row := planned.row
    column := planned.column
    placement := ⟨planned.xUm, planned.yUm, planned.zUm⟩
    dimensionsUm := ⟨planned.widthUm, planned.heightUm, planned.depthUm⟩
    weightG := planned.weightG
    workspace := dumpWorkspace planned.workspace
    workspaceHash := planned.workspaceHash
    designHash := planned.designHash
    sourceWorkspaceHash
    sourceDesignHash
    planHash
    preview := {
      workspace := dumpWorkspace planned.workspace
      designHash := planned.preview.design.designHash
      totalWeightG := planned.preview.design.totalWeightG } }

/-- The response of a plan, or of its refusal. -/
def planResponse (workspace : FurnitureWorkspace ManufacturingSelection)
    (grid : FurnitureModuleGrid) (current : Preview Report)
    (answer : Except Unavailable (ModulePlan ManufacturingSelection Report)) :
    ModulePlanDocument :=
  let refused : ModulePlanDocument :=
    { state := .unavailable
      sourceDesignHash := current.design.designHash
      source := {
        workspace := dumpWorkspace workspace
        workspaceHash := env.workspaceHash workspace
        designHash := current.design.designHash
        installation := workspace.design.installation }
      grid
      planHash := env.planHash workspace grid current
      modules := []
      layout := none
      canExportDrafts := false }
  match answer with
  | .error _ => refused
  | .ok plan =>
    { refused with
      state := .available
      modules := plan.modules.map (moduleDocument (env.workspaceHash workspace)
        current.design.designHash (env.planHash workspace grid current))
      layout := some {
        columnWidthsUm := plan.columnWidthsUm
        rowHeightsUm := plan.rowHeightsUm
        envelope := ⟨plan.envelope.1, plan.envelope.2.1, plan.envelope.2.2⟩
        gapUm := some plan.gapUm }
      canExportDrafts := true }

/-- `plan_furniture_modules` as the document that it returns. -/
def moduleResponse (workspace : FurnitureWorkspace ManufacturingSelection)
    (grid : FurnitureModuleGrid) : Except ValueError ModulePlanDocument := do
  let answer ← planFurnitureModules env workspace grid
  let current ← previewFurniture env workspace
  return planResponse env workspace grid current answer

/-- Every hash of the server is a SHA-256 digest in lowercase digits. -/
structure HashesAreDigests : Prop where
  workspace : ∀ workspace, isSha256 (env.workspaceHash workspace) = true
  plan : ∀ workspace grid preview, isSha256 (env.planHash workspace grid preview) = true
  furniture : ∀ design parts joints,
    isSha256 (env.furniture.furnitureHash design parts joints) = true
  otherFamily : ∀ design result, env.furniture.otherFamily design = .ok result →
    isSha256 result.designHash = true

end Answer

end Custombuild.Web.Furniture
