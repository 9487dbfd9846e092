/-
  Bottom-left nesting of rectangular blanks on identical sheets, and the validation of a
  layout, generated or edited by hand.
  Source: `custombuild_manufacturing.nesting`.

  `per_sheet[i]` is the list of the placements made so far whose sheet is `i`, in their order.
-/
import Mathlib.Algebra.Ring.Int.Defs
import Custombuild.Manufacturing.Operations

namespace Custombuild.Manufacturing

open Custombuild.Lib

def nestingAlgorithmVersion : String := "deterministic-bottom-left-v2"

/-! ## Compatibility -/

/-- `_compatible`. -/
def compatible (part : PartSpec) (stock : StockSheet) : Bool :=
  part.materialId == stock.materialId && part.materialVersion == stock.materialVersion &&
    part.thicknessUm == stock.thicknessUm

/-- `str.upper` on the characters whose upper case is a single ASCII letter; no other character
    has an upper case that a grain word could contain. -/
def upperChar (c : Char) : Char :=
  if 'a' ≤ c ∧ c ≤ 'z' then Char.ofNat (c.toNat - 32)
  else if c.toNat = 0x131 then 'I'
  else if c.toNat = 0x17F then 'S'
  else c

/-- `_normalise_grain`. -/
def normaliseGrain (value : String) : String :=
  let stripped := ((value.toList.dropWhile isSpaceChar).reverse.dropWhile isSpaceChar).reverse
  let upper := String.ofList (stripped.map upperChar)
  if upper == "NONE" || upper == "NO_GRAIN" then "NONE" else upper

/-- `_grain_allows`. -/
def grainAllows (part : PartSpec) (stock : StockSheet) (rotated : Bool) : Bool :=
  let partGrain := normaliseGrain part.grainDirection
  let stockGrain := normaliseGrain stock.grainDirection
  if partGrain == "NONE" then true
  else if !(["X", "Y"].contains partGrain) || !(["X", "Y"].contains stockGrain) then false
  else
    let effective := if partGrain == "X" && rotated then "Y" else partGrain
    let effective := if partGrain == "Y" && rotated then "X" else effective
    effective == stockGrain

/-- An orientation of a blank: rotated or not, with the width and the height it takes. -/
structure Orientation where
  rotated : Bool
  widthUm : Int
  heightUm : Int
deriving DecidableEq

/-- `_orientations`. -/
def orientations (part : PartSpec) (stock : StockSheet) : List Orientation :=
  let upright : Orientation := ⟨false, part.blankWidthUm, part.blankHeightUm⟩
  let turned : Orientation := ⟨true, part.blankHeightUm, part.blankWidthUm⟩
  let candidates := if part.allowRotation && stock.allowRotation then [upright, turned]
    else [upright]
  candidates.filter fun orientation => grainAllows part stock orientation.rotated

/-! ## Positions -/

/-- What a new blank must keep away from on a sheet. -/
def obstaclesOf (stock : StockSheet) (occupied : List Placement) : List Rect :=
  occupied.map Placement.rect ++ stock.defectZones ++ stock.clampZones

/-- `_candidate_origins`. -/
def candidateOrigins (stock : StockSheet) (occupied : List Placement) : List Point2D :=
  let usable := stock.usableRect
  let obstacles := obstaclesOf stock occupied
  let xs := sortedSet (usable.xUm :: obstacles.map fun o => o.rightUm + stock.kerfUm)
  let ys := sortedSet (usable.yUm :: obstacles.map fun o => o.topUm + stock.kerfUm)
  let points := xs.flatMap fun x => ys.map fun y => (⟨x, y⟩ : Point2D)
  sortBy (fun p : Point2D => toLex (p.yUm, p.xUm))
    (points.filter fun p => p.xUm < usable.rightUm && p.yUm < usable.topUm)

/-- `_fits`. -/
def fits (candidate : Placement) (occupied : List Placement) (stock : StockSheet) : Bool :=
  stock.usableRect.contains candidate.rect &&
    !stock.defectZones.any (candidate.rect.intersects · stock.kerfUm) &&
    !stock.clampZones.any (candidate.rect.intersects · stock.kerfUm) &&
    !occupied.any fun other => candidate.rect.intersects other.rect stock.kerfUm

/-- The blank of an instance at a position of a sheet. -/
def placementAt (stock : StockSheet) (inst : PartInstance) (sheetIndex : Int)
    (orientation : Orientation) (point : Point2D) : Placement :=
  ⟨inst.instanceId, inst.part.partId, stock.stockId, sheetIndex, point.xUm, point.yUm,
    orientation.widthUm, orientation.heightUm, orientation.rotated⟩

/-- The tuple that is compared: sheet, y, x, top edge and rotation. -/
def scoreOf (placement : Placement) : Int ×ₗ Int ×ₗ Int ×ₗ Int ×ₗ Bool :=
  toLex (placement.sheetIndex, toLex (placement.yUm, toLex (placement.xUm,
    toLex (placement.rect.topUm, placement.rotated90))))

/-! ## The nester -/

/-- The placements made so far, in the order of the instances, and the instances left out. -/
structure NestState where
  placements : List Placement := []
  unplaced : List String := []

/-- `per_sheet[sheet_index]`. -/
def NestState.occupied (state : NestState) (sheetIndex : Int) : List Placement :=
  state.placements.filter fun placement => placement.sheetIndex == sheetIndex

/-- The candidates of one sheet that fit. -/
def fittingOn (stock : StockSheet) (occupied : List Placement) (inst : PartInstance)
    (sheetIndex : Int) : List Placement :=
  (orientations inst.part stock).flatMap fun orientation =>
    ((candidateOrigins stock occupied).map (placementAt stock inst sheetIndex orientation)).filter
      fun candidate => fits candidate occupied stock

/-- The first fitting candidate with the least score. -/
def choosePlacement (stock : StockSheet) (state : NestState) (inst : PartInstance) :
    Option Placement :=
  let candidates := (List.range stock.quantity).flatMap fun (sheet : Nat) =>
    fittingOn stock (state.occupied sheet) inst sheet
  minBy scoreOf candidates

/-- The body of the loop. -/
def nestStep (stock : StockSheet) (state : NestState) (inst : PartInstance) : NestState :=
  if !compatible inst.part stock then
    { state with unplaced := state.unplaced ++ [inst.instanceId] }
  else
    match choosePlacement stock state inst with
    | none => { state with unplaced := state.unplaced ++ [inst.instanceId] }
    | some placement => { state with placements := state.placements ++ [placement] }

/-- The order in which the instances are placed: large blanks first. -/
def nestKey (inst : PartInstance) : Int ×ₗ Int ×ₗ Int ×ₗ String ×ₗ String :=
  let width := inst.part.blankWidthUm
  let height := inst.part.blankHeightUm
  toLex (-(width * height), toLex (-max width height, toLex (-min width height,
    toLex (inst.part.partId, inst.instanceId))))

/-- The state after all instances. -/
def nestAll (instances : List PartInstance) (stock : StockSheet) : NestState :=
  (sortBy nestKey instances).foldl (nestStep stock) {}

/-- `1 + max(…, default=-1)`. -/
def usedSheets (placements : List Placement) : Int :=
  1 + maxOf (-1) (placements.map Placement.sheetIndex)

/-- The layout of a state. -/
def layoutOf (stock : StockSheet) (state : NestState) : NestingLayout :=
  let used := usedSheets state.placements
  let usedArea := stock.widthUm * stock.heightUm * used
  let partArea := (state.placements.map fun placement =>
    placement.widthUm * placement.heightUm).sum
  { stock := stock
    placements := sortBy placementKey state.placements
    unplacedInstanceIds := sortBy id state.unplaced
    usedSheetCount := used
    utilizationPpm := if usedArea = 0 then 0 else partArea * 1000000 / usedArea
    algorithm := nestingAlgorithmVersion }

/-! ## Validation -/

inductive Severity
  | pass
  | warning
  | block
deriving DecidableEq

/-- A value under a name of the inputs of an issue. -/
inductive IssueInput
  | int (value : Int)
  | flag (value : Bool)
  | text (value : String)
  | texts (values : List String)
  | pair (first second : Int)
  | rect (value : Rect)
deriving DecidableEq

structure DFMIssue where
  code : String
  severity : Severity
  message : String
  partId : Option String := none
  featureId : Option String := none
  setupId : Option String := none
  inputs : List (String × IssueInput) := []
  suggestion : Option String := none
deriving DecidableEq

/-- An issue that is appended under a condition. -/
def issueIf (condition : Bool) (issue : DFMIssue) : List DFMIssue :=
  if condition then [issue] else []

/-- The width and the height a placement of the part must have. -/
def expectedSize (part : PartSpec) (rotated : Bool) : Int × Int :=
  if rotated then (part.blankHeightUm, part.blankWidthUm)
  else (part.blankWidthUm, part.blankHeightUm)

def sheetCountIssues (layout : NestingLayout) : List DFMIssue :=
  issueIf (layout.stock.quantity < layout.usedSheetCount)
    { code := "NESTING_SHEET_COUNT"
      severity := .block
      message := "Layout uses more sheets than the selected stock quantity."
      inputs := [("used", .int layout.usedSheetCount), ("available", .int layout.stock.quantity)] }

def stockBindingIssues (stock : StockSheet) (inst : Option PartInstance) (placement : Placement) :
    List DFMIssue :=
  issueIf (placement.stockId != stock.stockId)
    { code := "NESTING_STOCK_BINDING_MISMATCH"
      severity := .block
      message := "Placement stock identity does not match the nesting layout stock."
      partId := inst.map fun inst => inst.part.partId
      inputs := [("instance_id", .text placement.instanceId),
        ("expected_stock_id", .text stock.stockId),
        ("actual_stock_id", .text placement.stockId)] }

def unknownInstanceIssue (placement : Placement) : DFMIssue where
  code := "NESTING_UNKNOWN_INSTANCE"
  severity := .block
  message := "Placement references an unknown part instance."
  partId := some placement.partId
  inputs := [("instance_id", .text placement.instanceId)]

/-- The texts of the two kinds of zones. -/
def zoneIssues (stock : StockSheet) (kind lowerKind : String) (zones : List Rect)
    (placement : Placement) : List DFMIssue :=
  issueIf (zones.any (placement.rect.intersects · stock.kerfUm))
    { code := "NESTING_" ++ kind ++ "_COLLISION"
      severity := .block
      message := "A part intersects a " ++ lowerKind ++ " or its machining clearance."
      partId := some placement.partId }

/-- The checks of a placement whose instance is known; `seen` holds the identities of the
    placements before it. -/
def placementIssues (stock : StockSheet) (seen : List String) (placement : Placement)
    (inst : PartInstance) : List DFMIssue :=
  let part := inst.part
  issueIf (placement.partId != part.partId)
    { code := "NESTING_PART_BINDING_MISMATCH"
      severity := .block
      message := "Placement part identity does not match the referenced part instance."
      partId := some part.partId
      inputs := [("instance_id", .text placement.instanceId),
        ("expected_part_id", .text part.partId), ("actual_part_id", .text placement.partId)] } ++
  issueIf (seen.contains placement.instanceId)
    { code := "NESTING_DUPLICATE_INSTANCE"
      severity := .block
      message := "A part instance is placed more than once."
      partId := some placement.partId
      inputs := [("instance_id", .text placement.instanceId)] } ++
  issueIf ((placement.widthUm, placement.heightUm) != expectedSize part placement.rotated90)
    { code := "NESTING_DIMENSION_MISMATCH"
      severity := .block
      message := "Placed dimensions do not match the source part and rotation."
      partId := some placement.partId
      inputs := [("expected_um", .pair (expectedSize part placement.rotated90).1
          (expectedSize part placement.rotated90).2),
        ("actual_um", .pair placement.widthUm placement.heightUm)] } ++
  issueIf (!grainAllows part stock placement.rotated90)
    { code := "NESTING_GRAIN_MISMATCH"
      severity := .block
      message := "The placement violates the required grain direction."
      partId := some placement.partId
      inputs := [("rotated_90", .flag placement.rotated90)]
      suggestion := some "Rotate the part or select compatible stock grain." } ++
  issueIf (placement.sheetIndex < 0 || stock.quantity ≤ placement.sheetIndex)
    { code := "NESTING_INVALID_SHEET"
      severity := .block
      message := "Placement references a sheet outside the selected stock quantity."
      partId := some placement.partId } ++
  issueIf (!stock.usableRect.contains placement.rect)
    { code := "NESTING_OUT_OF_BOUNDS"
      severity := .block
      message := "A placed part is outside the trimmed usable stock area."
      partId := some placement.partId
      inputs := [("placement", .rect placement.rect)] } ++
  zoneIssues stock "DEFECT" "defect" stock.defectZones placement ++
  zoneIssues stock "CLAMP" "clamp" stock.clampZones placement

/-- The loop over the placements: its issues, and the identities it has seen. -/
def placementLoop (stock : StockSheet) (instances : List PartInstance) :
    List String → List Placement → List DFMIssue × List String
  | seen, [] => ([], seen)
  | seen, placement :: placements =>
    let inst := instanceById instances placement.instanceId
    let bound := stockBindingIssues stock inst placement
    match inst with
    | none =>
      let rest := placementLoop stock instances seen placements
      (bound ++ unknownInstanceIssue placement :: rest.1, rest.2)
    | some inst =>
      let rest := placementLoop stock instances (placement.instanceId :: seen) placements
      (bound ++ placementIssues stock seen placement inst ++ rest.1, rest.2)

def overlapIssue (stock : StockSheet) (first second : Placement) : DFMIssue where
  code := "NESTING_OVERLAP"
  severity := .block
  message := "Nested parts overlap or violate kerf clearance."
  partId := some first.partId
  inputs := [("first_instance", .text first.instanceId),
    ("second_instance", .text second.instanceId), ("kerf_um", .int stock.kerfUm)]

/-- The pairs of the placements of one sheet. -/
def sheetOverlaps (stock : StockSheet) : List Placement → List DFMIssue
  | [] => []
  | first :: rest =>
    rest.flatMap (fun second => issueIf (first.rect.intersects second.rect stock.kerfUm)
      (overlapIssue stock first second)) ++ sheetOverlaps stock rest

/-- The sheets in the order in which the placements name them. -/
def layoutSheets (placements : List Placement) : List Int :=
  ((placements.map Placement.sheetIndex).reverse.dedup).reverse

def overlapIssues (layout : NestingLayout) : List DFMIssue :=
  (layoutSheets layout.placements).flatMap fun sheet =>
    sheetOverlaps layout.stock (sortBy Placement.instanceId
      (layout.placements.filter fun placement => placement.sheetIndex == sheet))

/-- Equality of the sets of two lists. -/
def sameSet (a b : List String) : Bool := a.all b.contains && b.all a.contains

/-- Every instance is placed or declared unplaced. -/
def accountingIssues (layout : NestingLayout) (instances : List PartInstance)
    (seen : List String) : List DFMIssue :=
  let missing := (instances.map PartInstance.instanceId).filter fun id => !seen.contains id
  issueIf (!sameSet missing layout.unplacedInstanceIds)
    { code := "NESTING_ACCOUNTING"
      severity := .block
      message := "Placed and unplaced instance accounting is inconsistent."
      inputs := [("missing", .texts (sortedSet missing)),
        ("declared_unplaced", .texts (sortedSet layout.unplacedInstanceIds))] }

/-- An unplaced instance is an issue itself. -/
def unplacedIssues (layout : NestingLayout) (instances : List PartInstance) : List DFMIssue :=
  (sortedSet layout.unplacedInstanceIds).map fun id =>
    { code := "NESTING_UNPLACED"
      severity := .block
      message := "Part could not be placed on the selected stock."
      partId := (instanceById instances id).map fun inst => inst.part.partId
      inputs := [("instance_id", .text id)]
      suggestion := some "Add stock, change raw format, or revise the part dimensions." }

def issueKey (issue : DFMIssue) : String ×ₗ String ×ₗ String :=
  toLex (issue.code, toLex (issue.partId.getD "", issue.featureId.getD ""))

/-- `validate_layout`. -/
def validateLayout (layout : NestingLayout) (instances : List PartInstance) : List DFMIssue :=
  let (placed, seen) := placementLoop layout.stock instances [] layout.placements
  sortBy issueKey (sheetCountIssues layout ++ placed ++ overlapIssues layout ++
    accountingIssues layout instances seen ++ unplacedIssues layout instances)

/-- The issues that make the nester fail: all blocking ones but the unplaced parts. -/
def unexpectedIssues (layout : NestingLayout) (instances : List PartInstance) : List DFMIssue :=
  (validateLayout layout instances).filter fun issue =>
    issue.severity = .block && issue.code != "NESTING_UNPLACED"

/-- `NestingError`. -/
structure NestingError where
  message : String
deriving DecidableEq

/-- `DeterministicNester.nest`. -/
def nest (parts : PartsInput) (stock : StockSheet) : Except NestingError NestingLayout :=
  let instances := coercePartInstances parts
  if instances.isEmpty then
    .ok { stock := stock, placements := [], unplacedInstanceIds := [], usedSheetCount := 0,
          utilizationPpm := 0, algorithm := nestingAlgorithmVersion }
  else do
    let layout := layoutOf stock (nestAll instances stock)
    let unexpected := unexpectedIssues layout instances
    require unexpected.isEmpty ⟨"nester produced an invalid layout: " ++
      ", ".intercalate (unexpected.map DFMIssue.code)⟩
    return layout

end Custombuild.Manufacturing
