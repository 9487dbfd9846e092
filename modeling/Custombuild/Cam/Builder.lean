/-
  The program builder and the move generators of the planner.  A generator plans a list of
  builder calls (`Command`) for one operation; `execCommands` runs them, with the checks of
  `_ProgramBuilder` before each appended move.  Source: `custombuild_cam.toolpaths`.
-/
import Custombuild.Cam.Contracts

namespace Custombuild.Cam

open Custombuild.Lib Custombuild.Manufacturing

/-! ## The builder -/

structure ProgramBuilder where
  context : ProductionExecutionContext
  setup : BoundSetup
  tool : ProductionToolBinding
  partOutlines : List PartOutline

/-- The G43-active endpoint of a move in machine coordinates. -/
def machineEndpoint (setup : BoundSetup) (tool : ProductionToolBinding) (m : ProductionMove) :
    Int × Int × Int :=
  (setup.machineWcsOrigin.xUm + m.xUm + tool.expectedLengthOffsetXUm,
    setup.machineWcsOrigin.yUm + m.yUm + tool.expectedLengthOffsetYUm,
    setup.machineWcsZ0Um + m.zUm + tool.expectedLengthOffsetZUm)

/-- A machine point within the absolute axis bounds of the context. -/
def withinMachine (ctx : ProductionExecutionContext) (p : Int × Int × Int) : Bool :=
  ctx.machineXMinUm ≤ p.1 && p.1 ≤ ctx.machineXMaxUm
    && ctx.machineYMinUm ≤ p.2.1 && p.2.1 ≤ ctx.machineYMaxUm
    && ctx.machineZMinUm ≤ p.2.2 && p.2.2 ≤ ctx.machineZMaxUm

theorem withinMachine_iff {ctx : ProductionExecutionContext} {p : Int × Int × Int} :
    withinMachine ctx p = true ↔
      (ctx.machineXMinUm ≤ p.1 ∧ p.1 ≤ ctx.machineXMaxUm) ∧
      (ctx.machineYMinUm ≤ p.2.1 ∧ p.2.1 ≤ ctx.machineYMaxUm) ∧
      ctx.machineZMinUm ≤ p.2.2 ∧ p.2.2 ≤ ctx.machineZMaxUm := by
  simp only [withinMachine, Bool.and_eq_true, decide_eq_true_eq, and_assoc]

/-- A builder call. -/
inductive Command
  | position (passIndex : Nat) (x y approachZ : Int)
  | cut (passIndex : Nat) (x y z feed : Int) (role : ProductionMoveRole)
  | peckRetract (passIndex : Nat) (x y z : Int)
  | retract (passIndex : Nat) (x y : Int)
deriving DecidableEq

variable (b : ProgramBuilder) (op : CAMOperation)

/-- `_ProgramBuilder.add`: the constructor check of the move, then
    `_require_tool_length_compensated_endpoint_within_machine`. -/
def ProgramBuilder.add (moves : List ProductionMove) (passIndex : Nat)
    (kind : ProductionMoveKind) (role : ProductionMoveRole) (x y z : Int)
    (feed : Option Int) : Except String (List ProductionMove) := do
  let move : ProductionMove :=
    { sequence := moves.length + 1, operationId := op.operationId, passIndex := passIndex,
      kind := kind, role := role, xUm := x, yUm := y, zUm := z, feedUmMin := feed }
  require (decide move.WellFormed) ("invalid production move: " ++ op.operationId)
  require (withinMachine b.context (machineEndpoint b.setup b.tool move))
    ("tool-length-compensated programmed endpoint exceeds absolute machine bounds: " ++
      op.operationId)
  return moves ++ [move]

/-- `position`, `cut`, `retract` and the explicit peck retract of the builder. -/
def ProgramBuilder.exec (recipe : CuttingRecipe) (moves : List ProductionMove) :
    Command → Except String (List ProductionMove)
  | .position pass x y approachZ => do
    requirePointInStock b.setup x y op.operationId
    let moves ← b.add op moves pass .rapid .position x y b.setup.safeZUm none
    b.add op moves pass .rapid .approach x y approachZ none
  | .cut pass x y z feed role => do
    let previous ← demand moves.getLast? "IndexError: list index out of range"
    requireCutSegmentClear b.setup b.tool (previous.xUm, previous.yUm) (x, y)
      recipe.processAccuracyUm op b.partOutlines
    b.add op moves pass .linear role x y z (some feed)
  | .peckRetract pass x y z => b.add op moves pass .rapid .peckRetract x y z none
  | .retract pass x y => b.add op moves pass .rapid .retract x y b.setup.safeZUm none

/-- The calls of one operation, in order. -/
def ProgramBuilder.execCommands (recipe : CuttingRecipe) :
    List Command → List ProductionMove → Except String (List ProductionMove)
  | [], moves => .ok moves
  | c :: cs, moves => do
    let moves ← b.exec op recipe moves c
    ProgramBuilder.execCommands recipe cs moves

/-! ## Generators -/

/-- `_generate_peck_moves`. -/
def peckCommands (setup : BoundSetup) (recipe : CuttingRecipe) :
    Except String (List Command) := do
  let target ← targetDepthUm op setup recipe
  let levels ← depthLevelsUm target recipe.peckDepthUm
  let pecks := levels.zipIdx.flatMap fun l =>
    Command.cut (l.2 + 1) op.xUm op.yUm l.1 recipe.plungeUmMin .cut ::
      if l.2 + 1 ≠ levels.length then
        [.peckRetract (l.2 + 1) op.xUm op.yUm recipe.approachClearanceUm]
      else []
  return .position 1 op.xUm op.yUm recipe.approachClearanceUm :: pecks ++
    [.retract levels.length op.xUm op.yUm]

/-- The boundary loop of the raster: points equal to the current position are skipped. -/
def boundaryVisits : Int × Int → List (Int × Int) → List (Int × Int)
  | _, [] => []
  | current, p :: rest =>
    if p = current then boundaryVisits current rest else p :: boundaryVisits p rest

/-- The cuts along the raster lanes: a link to each later lane, then the lane. -/
def laneCuts (pass : Nat) (z feed : Int) (lanes : List ((Int × Int) × (Int × Int))) :
    List Command :=
  lanes.zipIdx.flatMap fun l =>
    (if l.2 ≠ 0 then [Command.cut pass l.1.1.1 l.1.1.2 z feed .cut] else []) ++
      [.cut pass l.1.2.1 l.1.2.2 z feed .cut]

/-- The axial dogbone cycles of one pass. -/
def reliefCommands (pass : Nat) (z : Int) (recipe : CuttingRecipe)
    (centres : List (Int × Int)) : List Command :=
  centres.flatMap fun c =>
    [.position pass c.1 c.2 recipe.approachClearanceUm,
      .cut pass c.1 c.2 z recipe.plungeUmMin .cut, .retract pass c.1 c.2]

/-- One pass of `_generate_raster_moves`. -/
def rasterPass (recipe : CuttingRecipe) (bounds : RasterBounds)
    (raster : List ((Int × Int) × (Int × Int))) (centres : List (Int × Int)) (pass : Nat)
    (z : Int) : List Command :=
  let first := (raster.head?.map Prod.fst).getD (0, 0)
  let lastEnd := (raster.getLast?.map Prod.snd).getD (0, 0)
  let visits := boundaryVisits lastEnd
    [(bounds.left, bounds.bottom), (bounds.right, bounds.bottom), (bounds.right, bounds.top),
      (bounds.left, bounds.top), (bounds.left, bounds.bottom)]
  let stop := visits.getLastD lastEnd
  [.position pass first.1 first.2 recipe.approachClearanceUm,
    .cut pass first.1 first.2 z recipe.plungeUmMin .cut] ++
    laneCuts pass z recipe.feedUmMin raster ++
    (visits.map fun p => .cut pass p.1 p.2 z recipe.feedUmMin .cut) ++
    [.retract pass stop.1 stop.2] ++
    reliefCommands pass z recipe centres

/-- `_generate_raster_moves`. -/
def rasterCommands (setup : BoundSetup) (tool : ProductionToolBinding) (recipe : CuttingRecipe) :
    Except String (List Command) := do
  let r := tool.effectiveDiameterUm / 2
  let bounds ← areaRasterBounds op r
  let stepover := tool.effectiveDiameterUm * recipe.stepoverPpm / 1000000
  require (0 < stepover) ("recipe stepover rounds to zero: " ++ op.operationId)
  let raster ← rasterLines bounds.left bounds.right bounds.bottom bounds.top stepover
  let target ← targetDepthUm op setup recipe
  let levels ← depthLevelsUm target recipe.stepdownUm
  return levels.zipIdx.flatMap fun l =>
    rasterPass recipe bounds raster (dogboneCentres op) (l.2 + 1) l.1

/-- The calls along a contour path.  The source takes the plunge feed when the depth
    differs from that of the last move, which is the preceding path point. -/
def pathCuts (pass : Nat) (recipe : CuttingRecipe) (path : List PathPoint) : List Command :=
  (path.zip path.tail).map fun p =>
    .cut pass p.2.xUm p.2.yUm p.2.zUm
      (if p.2.zUm ≠ p.1.zUm then recipe.plungeUmMin else recipe.feedUmMin) p.2.role

/-- One pass along a contour path that starts at the pass depth. -/
def contourPass (recipe : CuttingRecipe) (path : List PathPoint) (pass : Nat) (z : Int) :
    List Command :=
  let first := (path.head?.map fun p => (p.xUm, p.yUm)).getD (0, 0)
  let last := (path.getLast?.map fun p => (p.xUm, p.yUm)).getD (0, 0)
  [.position pass first.1 first.2 recipe.approachClearanceUm,
    .cut pass first.1 first.2 z recipe.plungeUmMin .cut] ++
    pathCuts pass recipe path ++ [.retract pass last.1 last.2]

/-- The path of one contour pass: tabs are active on release contours below the tab floor. -/
def contourPath (setup : BoundSetup) (tool : ProductionToolBinding) (recipe : CuttingRecipe)
    (z : Int) : List PathPoint :=
  let nominal := nominalRect op
  let r := tool.effectiveDiameterUm / 2
  let tabFloor := -(setup.stockThicknessUm - recipe.tabHeightUm)
  if op.compensation = some "OUTSIDE" then
    outsideContourPath nominal r z
      (if isReleaseContour op && z < tabFloor then some tabFloor else none)
      (recipe.tabWidthUm + tool.effectiveDiameterUm)
  else insideContourPath nominal r z

/-- `_generate_contour_moves`. -/
def contourCommands (setup : BoundSetup) (tool : ProductionToolBinding)
    (recipe : CuttingRecipe) : Except String (List Command) := do
  let target ← targetDepthUm op setup recipe
  let levels ← depthLevelsUm target recipe.stepdownUm
  return levels.zipIdx.flatMap fun l =>
    contourPass recipe (contourPath op setup tool recipe l.1) (l.2 + 1) l.1

/-- `_generate_operation_moves`. -/
def operationCommands (setup : BoundSetup) (tool : ProductionToolBinding)
    (recipe : CuttingRecipe) : Except String (List Command) :=
  if op.kind = .drill ∨ op.kind = .countersink then peckCommands op setup recipe
  else if isAreaKind op.kind then rasterCommands op setup tool recipe
  else contourCommands op setup tool recipe

/-- The moves of one operation appended to those of the program so far. -/
def ProgramBuilder.generateOperationMoves (recipe : CuttingRecipe)
    (moves : List ProductionMove) : Except String (List ProductionMove) := do
  let commands ← operationCommands op b.setup b.tool recipe
  b.execCommands op recipe commands moves

end Custombuild.Cam
