/-
  The coverage of pockets and grooves.  The verifier looks for lanes and for the boundary of the
  raster rectangle among the cutting segments of each depth; what it accepts covers every real
  point within the radius of the rectangle.  The raster generator of the planner meets the same.
  Source: `custombuild_cam.production_verification`, `custombuild_cam.toolpaths`.
-/
import Custombuild.Cam.ArcError
import Custombuild.Cam.Planned
import Custombuild.Lib.Lanes

namespace Custombuild.Cam

open Custombuild.Lib Custombuild.Manufacturing

/-! ## The check of the verifier -/

namespace Verification

/-- `_depth_levels`. -/
def depthLevels (depthUm stepUm : Int) : List Int :=
  if depthUm ≤ 0 ∨ stepUm ≤ 0 then []
  else (pyRange stepUm (depthUm + stepUm) stepUm).map fun value => -min value depthUm

/-- Two moves cut at the depth of a pass. -/
def cutsAt (pass : Nat) (levelUm : Int) (previous move : ProductionMove) : Bool :=
  move.kind = .linear && previous.kind = .linear && move.passIndex = pass &&
    previous.passIndex = pass && move.zUm = levelUm && previous.zUm = levelUm

/-- `previous_by_sequence.get(move.sequence)`: the last move whose successor has this number. -/
def previousBySequence (moves : List ProductionMove) (move : ProductionMove) :
    Option ProductionMove :=
  moves.reverse.find? fun previous => previous.sequence + 1 = move.sequence

/-- The cutting segments of a pass at its depth. -/
def cuttingSegments (moves : List ProductionMove) (pass : Nat) (levelUm : Int) :
    List (ProductionMove × ProductionMove) :=
  moves.filterMap fun move =>
    match previousBySequence moves move with
    | none => none
    | some previous => if cutsAt pass levelUm previous move then some (previous, move) else none

/-- The segment joins two points, in either direction. -/
def joins (segment : ProductionMove × ProductionMove) (a b : Int × Int) : Bool :=
  let first := (segment.1.xUm, segment.1.yUm)
  let second := (segment.2.xUm, segment.2.yUm)
  (first = a && second = b) || (first = b && second = a)

/-- The lanes among the segments: those that reach from one side of the rectangle to the other,
    along its longer direction. -/
def lanesOf (bounds : RasterBounds) (segments : List (ProductionMove × ProductionMove)) : List Int :=
  if bounds.right - bounds.left ≥ bounds.top - bounds.bottom then
    (segments.filter fun s => s.2.yUm = s.1.yUm &&
      ((s.2.xUm = bounds.left && s.1.xUm = bounds.right) ||
        (s.2.xUm = bounds.right && s.1.xUm = bounds.left))).map fun s => s.2.yUm
  else
    (segments.filter fun s => s.2.xUm = s.1.xUm &&
      ((s.2.yUm = bounds.bottom && s.1.yUm = bounds.top) ||
        (s.2.yUm = bounds.top && s.1.yUm = bounds.bottom))).map fun s => s.2.xUm

/-- The corners of the raster rectangle. -/
def boundsCorners (bounds : RasterBounds) : List (Int × Int) :=
  [(bounds.left, bounds.bottom), (bounds.right, bounds.bottom), (bounds.right, bounds.top),
    (bounds.left, bounds.top)]

/-- The required boundary segments: the sides that are not single points. -/
def requiredBoundary (bounds : RasterBounds) : List ((Int × Int) × (Int × Int)) :=
  ((boundsCorners bounds).zip ((boundsCorners bounds).tail ++ [(bounds.left, bounds.bottom)])).filter
    fun side => side.1 ≠ side.2

/-- The lanes leave no gap that the cutter does not surely cover. -/
def lanesCover (bounds : RasterBounds) (maximumGapUm : Int) (lanes : List Int) : Bool :=
  let expected := if bounds.right - bounds.left ≥ bounds.top - bounds.bottom then
    (bounds.bottom, bounds.top) else (bounds.left, bounds.right)
  let ordered := lanes.dedup.insertionSort (· ≤ ·)
  ordered.head? = some expected.1 && ordered.getLast? = some expected.2 &&
    (ordered.zip ordered.tail).all fun pair => pair.2 - pair.1 ≤ maximumGapUm

/-- A relief is cut by one exact axial cycle in a pass. -/
def reliefCycleValid (moves : List ProductionMove) (pass : Nat) (levelUm : Int)
    (centre : Int × Int) : Bool :=
  let at_ (m : ProductionMove) : Bool := (m.xUm, m.yUm) = centre
  match moves.zipIdx.filter fun entry =>
      entry.1.passIndex = pass && entry.1.kind = .linear && at_ entry.1 with
  | [(cut, index)] =>
    let previous := if index = 0 then none else moves[index - 1]?
    previous.any (fun m => m.kind = .rapid && m.role = .approach && at_ m) &&
      (moves[index + 1]?).any (fun m => m.kind = .rapid && m.role = .retract && at_ m) &&
      cut.role = .cut && cut.zUm = levelUm
  | _ => false

variable (op : CAMOperation) (binding : ProductionToolBinding) (recipe : CuttingRecipe)

/-- The findings of `_validate_area_coverage` for one pass. -/
def areaPassIssues (moves : List ProductionMove) (pass : Nat) (levelUm : Int) : List String :=
  let bounds := independentAreaRasterBounds op (binding.effectiveDiameterUm / 2)
  let stepover := binding.effectiveDiameterUm * recipe.stepoverPpm / 1000000
  let guaranteedCutWidth := binding.effectiveDiameterUm - 2 * recipe.processAccuracyUm
  let segments := cuttingSegments moves pass levelUm
  (if (requiredBoundary bounds).all fun side => segments.any fun s => joins s side.1 side.2 then []
    else ["area boundary is not fully cut at every required depth"]) ++
  (if lanesCover bounds (min stepover guaranteedCutWidth) (lanesOf bounds segments) then []
    else ["raster lanes do not conservatively cover the operation rectangle"]) ++
  (if (independentDogboneCentres op).all (reliefCycleValid moves pass levelUm) then []
    else ["dogbone relief centres do not each have one exact axial cycle per pass"])

/-- The findings of `_validate_area_coverage`. -/
def areaCoverageIssues (moves : List ProductionMove) (expectedLevels : List Int) : List String :=
  (expectedLevels.zipIdx 1).flatMap fun entry => areaPassIssues op binding recipe moves entry.2 entry.1

/-- `_target_depth`: the findings and the depth. -/
def targetDepth (setup : BoundSetup) : List String × Int :=
  if op.depthUm ≤ 0 then (["source operation depth is not positive"], 1)
  else if op.through then
    ((if setup.stockThicknessUm ≤ op.depthUm && op.depthUm ≤ setup.stockThicknessUm + 500 then []
        else ["source through depth is outside the stock/overtravel envelope"]) ++
      (if 1 ≤ recipe.throughOvertravelUm && recipe.throughOvertravelUm ≤ 500 then []
        else ["through recipe overtravel is outside the supported envelope"]),
      setup.stockThicknessUm + recipe.throughOvertravelUm)
  else
    (if op.depthUm ≥ setup.stockThicknessUm then ["non-through source operation reaches stock bottom"]
      else [], op.depthUm)

/-- The cutting moves of a pass. -/
def cuttingMoves (moves : List ProductionMove) (pass : Nat) : List ProductionMove :=
  moves.filter fun m => m.passIndex = pass && m.kind = .linear

/-- The depth findings of one pass of an area operation, which has no tabs. -/
def passDepthIssues (moves : List ProductionMove) (pass : Nat) (expectedZ : Int) : List String :=
  let cutting := cuttingMoves moves pass
  (if cutting.isEmpty || (cutting.map ProductionMove.zUm).min? ≠ some expectedZ then
    ["pass does not reach its exact independently calculated depth"] else []) ++
  (if cutting.any fun m => m.zUm < expectedZ || m.zUm ≥ 0 then
    ["cutting move exceeds its pass depth or safe envelope"] else []) ++
  (cutting.filter fun m => m.zUm ≠ expectedZ).map fun _ =>
    "cutting move does not use its pass or contracted tab depth"

/-- The findings of `_validate_operation_motion` on the passes, the depths and the coverage of a
    pocket or a groove. -/
def areaMotionIssues (setup : BoundSetup) (program : ProductionProgram) : List String :=
  let moves := program.moves.filter fun m => m.operationId = op.operationId
  if moves.isEmpty then ["operation has no moves"] else
  let target := targetDepth op recipe setup
  let expectedLevels := depthLevels target.2 recipe.stepdownUm
  target.1 ++
    (if (moves.map ProductionMove.passIndex).reverse.dedup.reverse =
        (List.range expectedLevels.length).map (· + 1) then []
      else ["operation pass indexes are not dense and canonical"]) ++
    ((expectedLevels.zipIdx 1).flatMap fun entry => passDepthIssues moves entry.2 entry.1) ++
    areaCoverageIssues op binding recipe moves expectedLevels

end Verification

/-! ## What a pass covers -/

/-- The XY point of a move. -/
def ProductionMove.point (m : ProductionMove) : Int × Int := (m.xUm, m.yUm)

/-- Two successive moves cut from one point to the other at the depth of a pass. -/
def Joined (moves : List ProductionMove) (pass : Nat) (levelUm : Int) (a b : Int × Int) : Prop :=
  ∃ previous ∈ moves, ∃ move ∈ moves, previous.sequence + 1 = move.sequence ∧
    Verification.cutsAt pass levelUm previous move = true ∧
    ((previous.point = a ∧ move.point = b) ∨ (previous.point = b ∧ move.point = a))

/-- The centres that the cutter takes while it cuts at the depth of a pass. -/
def Swept (moves : List ProductionMove) (pass : Nat) (levelUm : Int) : Set (ℝ × ℝ) :=
  {s | ∃ a b, Joined moves pass levelUm a b ∧ s ∈ segment ℝ (real a) (real b)}

/-- The levels go down from the stock top, by a step at most, to the depth. -/
def DescendsTo (levels : List Int) (stepUm depthUm : Int) : Prop :=
  List.IsChain (fun a b => b < a ∧ a - b ≤ stepUm) (0 :: levels) ∧
    levels.getLast? = some (-depthUm)

/-- Each level is cut in its pass, and what its cutting segments sweep covers the rectangle of
    raster centres widened by the cutter: every point within a radius of the rectangle is within
    the radius of a cutting segment. -/
def CoversLevels (bounds : RasterBounds) (radiusUm : Int) (moves : List ProductionMove)
    (levels : List Int) : Prop :=
  ∀ entry ∈ levels.zipIdx 1, ∀ radius : ℝ, (radiusUm : ℝ) ≤ radius →
    Covers (real (bounds.left, bounds.bottom)) (real (bounds.right, bounds.top)) radius
      (Swept moves entry.2 entry.1)

/-- Every cutting move is at the level of its pass. -/
def CutsAtLevels (moves : List ProductionMove) (levels : List Int) : Prop :=
  ∀ m ∈ moves, m.kind = .linear → (m.zUm, m.passIndex) ∈ levels.zipIdx 1

/-- Lanes from the first to the last with no gap above the largest one allowed. -/
structure Spans (first last gap : Int) (lanes : List Int) : Prop where
  chain : List.IsChain (fun a b => b - a ≤ gap) lanes
  head : lanes.head? = some first
  last : lanes.getLast? = some last

/-- The lanes and the boundary of a raster rectangle, among the pairs of points that are
    joined. -/
def Rastered (bounds : RasterBounds) (gap : Int) (joined : Int × Int → Int × Int → Prop) : Prop :=
  if bounds.right - bounds.left ≥ bounds.top - bounds.bottom then
    ∃ lanes, Spans bounds.bottom bounds.top gap lanes ∧
      (∀ lane ∈ lanes, joined (bounds.left, lane) (bounds.right, lane)) ∧
      (bounds.bottom < bounds.top → joined (bounds.left, bounds.bottom) (bounds.left, bounds.top) ∧
        joined (bounds.right, bounds.bottom) (bounds.right, bounds.top))
  else
    ∃ lanes, Spans bounds.left bounds.right gap lanes ∧
      (∀ lane ∈ lanes, joined (lane, bounds.bottom) (lane, bounds.top)) ∧
      (bounds.left < bounds.right → joined (bounds.left, bounds.bottom) (bounds.right, bounds.bottom) ∧
        joined (bounds.left, bounds.top) (bounds.right, bounds.top))

section Coverage

variable {moves : List ProductionMove} {pass : Nat} {levelUm : Int} {bounds : RasterBounds}

theorem Joined.symm {a b : Int × Int} (h : Joined moves pass levelUm a b) :
    Joined moves pass levelUm b a := by
  obtain ⟨previous, hprevious, move, hmove, hsequence, hcuts, hpoints⟩ := h
  exact ⟨previous, hprevious, move, hmove, hsequence, hcuts, hpoints.symm⟩

theorem Joined.row {left right lane : Int} (h : Joined moves pass levelUm (left, lane) (right, lane))
    (x : ℝ) (hlo : (left : ℝ) ≤ x) (hhi : x ≤ right) : (x, (lane : ℝ)) ∈ Swept moves pass levelUm :=
  ⟨_, _, h, mem_segment_of_lane ⟨hlo, hhi⟩⟩

theorem Joined.column {bottom top lane : Int}
    (h : Joined moves pass levelUm (lane, bottom) (lane, top)) (y : ℝ) (hlo : (bottom : ℝ) ≤ y)
    (hhi : y ≤ top) : ((lane : ℝ), y) ∈ Swept moves pass levelUm :=
  ⟨_, _, h, mem_segment_of_side ⟨hlo, hhi⟩⟩

/-- Lanes that leave no gap above two radii, with the boundary, cover the rectangle. -/
theorem covers_of_rastered {gap : Int} {radius : ℝ} (hradius : 0 ≤ radius)
    (hgap : (gap : ℝ) ≤ 2 * radius) (h : Rastered bounds gap (Joined moves pass levelUm)) :
    Covers (real (bounds.left, bounds.bottom)) (real (bounds.right, bounds.top)) radius
      (Swept moves pass levelUm) := by
  unfold Rastered at h
  split at h
  · obtain ⟨lanes, hspans, hlanes, hsides⟩ := h
    refine covers_of_rows hradius hgap hspans.chain hspans.head hspans.last ?_ ?_
    · intro lane hlane
      exact (hlanes lane hlane).row
    · intro hlt y hlo hhi
      exact ⟨(hsides hlt).1.column y hlo hhi, (hsides hlt).2.column y hlo hhi⟩
  · obtain ⟨lanes, hspans, hlanes, hsides⟩ := h
    refine covers_of_columns hradius hgap hspans.chain hspans.head hspans.last ?_ ?_
    · intro lane hlane
      exact (hlanes lane hlane).column
    · intro hlt x hlo hhi
      exact ⟨(hsides hlt).1.row x hlo hhi, (hsides hlt).2.row x hlo hhi⟩

variable {radius : ℝ}

theorem radius_nonneg (binding : ProductionToolBinding)
    (h : ((binding.effectiveDiameterUm / 2 : Int) : ℝ) ≤ radius) : 0 ≤ radius := by
  have hdiameter := binding.dims_pos.1
  have hnonneg : 0 ≤ binding.effectiveDiameterUm / 2 := by omega
  exact (Int.cast_nonneg hnonneg).trans h

/-- Lanes that leave twice the process accuracy of the cutter to spare are at most two radii
    apart: the accuracy makes up for the half that the division of the diameter drops. -/
theorem gap_le_radius {diameterUm gap : Int} (recipe : CuttingRecipe)
    (hgap : gap ≤ diameterUm - 2 * recipe.processAccuracyUm)
    (h : ((diameterUm / 2 : Int) : ℝ) ≤ radius) : (gap : ℝ) ≤ 2 * radius := by
  have haccuracy := recipe.values_pos
  have htwice : gap ≤ 2 * (diameterUm / 2) := by omega
  calc (gap : ℝ) ≤ ((2 * (diameterUm / 2) : Int) : ℝ) := Int.cast_le.mpr htwice
    _ = 2 * ((diameterUm / 2 : Int) : ℝ) := by rw [Int.cast_mul, Int.cast_ofNat]
    _ ≤ 2 * radius := by linarith

end Coverage

/-! ## Depth levels -/

/-- The levels of a positive depth, as planner and verifier compute them, go down to it. -/
theorem descendsTo_levels {depthUm stepUm : Int} (hdepth : 0 < depthUm) (hstep : 0 < stepUm) :
    DescendsTo ((pyRange stepUm (depthUm + stepUm) stepUm).map fun value => -min value depthUm)
      stepUm depthUm := by
  have hlt : stepUm < depthUm + stepUm := by omega
  constructor
  · have hchain := isChain_pyRange stepUm (depthUm + stepUm) stepUm
    obtain ⟨rest, hrange⟩ := List.head?_eq_some_iff.mp (head_pyRange hstep hlt)
    have hmem : ∀ v ∈ pyRange stepUm (depthUm + stepUm) stepUm, v < depthUm + stepUm :=
      fun v hv => (mem_pyRange hstep hv).2
    rw [hrange] at hchain hmem ⊢
    rw [List.map_cons, List.isChain_cons_cons]
    refine ⟨by omega, ?_⟩
    show List.IsChain _ ((stepUm :: rest).map fun value => -min value depthUm)
    rw [List.isChain_map]
    -- a value that has a successor in the range is less than the depth
    refine List.IsChain.imp_of_mem_imp ?_ hchain
    intro a b _ hb hab
    have := hmem b hb
    omega
  · obtain ⟨v, hv, -, hle⟩ := getLast_pyRange hstep hlt
    rw [List.getLast?_map, hv, Option.map_some, min_eq_right (by omega)]

/-! ## What the verifier accepts -/

namespace Verification

section Accepted

variable {moves : List ProductionMove} {pass : Nat} {levelUm : Int} {bounds : RasterBounds}

theorem mem_cuttingSegments {s : ProductionMove × ProductionMove}
    (h : s ∈ cuttingSegments moves pass levelUm) : s.1 ∈ moves ∧ s.2 ∈ moves ∧
      s.1.sequence + 1 = s.2.sequence ∧ cutsAt pass levelUm s.1 s.2 = true := by
  obtain ⟨move, hmove, hs⟩ := List.mem_filterMap.mp h
  split at hs
  · cases hs
  · rename_i previous hprevious
    split at hs
    · rename_i hcuts
      obtain rfl := Option.some.inj hs
      have hfound := List.find?_some hprevious
      rw [decide_eq_true_eq] at hfound
      exact ⟨List.mem_reverse.mp (List.mem_of_find?_eq_some hprevious), hmove, hfound, hcuts⟩
    · cases hs

theorem joined_of_joins {s : ProductionMove × ProductionMove}
    (hs : s ∈ cuttingSegments moves pass levelUm) {a b : Int × Int} (h : joins s a b = true) :
    Joined moves pass levelUm a b := by
  obtain ⟨hprevious, hmove, hsequence, hcuts⟩ := mem_cuttingSegments hs
  simp only [joins, Bool.or_eq_true, Bool.and_eq_true, decide_eq_true_eq] at h
  exact ⟨s.1, hprevious, s.2, hmove, hsequence, hcuts, h⟩

theorem joined_of_boundary
    (h : ((requiredBoundary bounds).all fun side =>
      (cuttingSegments moves pass levelUm).any fun s => joins s side.1 side.2) = true)
    {side : (Int × Int) × (Int × Int)}
    (hside : side ∈ (boundsCorners bounds).zip
      ((boundsCorners bounds).tail ++ [(bounds.left, bounds.bottom)]))
    (hne : side.1 ≠ side.2) : Joined moves pass levelUm side.1 side.2 := by
  rw [List.all_eq_true] at h
  have hrequired : side ∈ requiredBoundary bounds :=
    List.mem_filter.mpr ⟨hside, decide_eq_true hne⟩
  obtain ⟨s, hs, hjoins⟩ := List.any_eq_true.mp (h side hrequired)
  exact joined_of_joins hs hjoins

theorem isChain_of_zip_tail {α : Type} {R : α → α → Prop} {l : List α}
    (h : ∀ pair ∈ l.zip l.tail, R pair.1 pair.2) : List.IsChain R l := by
  induction l with
  | nil => exact List.isChain_nil
  | cons a l ih =>
    cases l with
    | nil => exact List.isChain_singleton a
    | cons b l =>
      rw [List.isChain_cons_cons]
      refine ⟨h (a, b) List.mem_cons_self, ih ?_⟩
      intro pair hpair
      exact h pair (List.mem_cons_of_mem _ hpair)

theorem spans_of_lanesCover {gap : Int} {lanes : List Int}
    (h : lanesCover bounds gap lanes = true) :
    (if bounds.right - bounds.left ≥ bounds.top - bounds.bottom then
      Spans bounds.bottom bounds.top gap (lanes.dedup.insertionSort (· ≤ ·))
    else Spans bounds.left bounds.right gap (lanes.dedup.insertionSort (· ≤ ·))) := by
  simp only [lanesCover, Bool.and_eq_true, decide_eq_true_eq, List.all_eq_true] at h
  obtain ⟨⟨hhead, hlast⟩, hgaps⟩ := h
  have hchain : List.IsChain (fun a b => b - a ≤ gap) (lanes.dedup.insertionSort (· ≤ ·)) :=
    isChain_of_zip_tail hgaps
  split at hhead
  · rename_i hwide
    rw [if_pos hwide] at hlast ⊢
    exact ⟨hchain, hhead, hlast⟩
  · rename_i hwide
    rw [if_neg hwide] at hlast ⊢
    exact ⟨hchain, hhead, hlast⟩

/-- Lanes and boundary that the verifier finds are lanes and boundary of the pass. -/
theorem rastered_of_accepted {gap : Int}
    (hboundary : ((requiredBoundary bounds).all fun side =>
      (cuttingSegments moves pass levelUm).any fun s => joins s side.1 side.2) = true)
    (hlanes : lanesCover bounds gap (lanesOf bounds (cuttingSegments moves pass levelUm)) = true) :
    Rastered bounds gap (Joined moves pass levelUm) := by
  have hspans := spans_of_lanesCover hlanes
  have hsides := fun side => @joined_of_boundary _ _ _ _ hboundary side
  unfold Rastered
  by_cases hwide : bounds.right - bounds.left ≥ bounds.top - bounds.bottom
  · rw [if_pos hwide] at hspans ⊢
    refine ⟨_, hspans, ?_, ?_⟩
    · intro lane hlane
      rw [List.mem_insertionSort, List.mem_dedup, lanesOf, if_pos hwide, List.mem_map] at hlane
      obtain ⟨s, hs, rfl⟩ := hlane
      rw [List.mem_filter] at hs
      simp only [Bool.and_eq_true, Bool.or_eq_true, decide_eq_true_eq] at hs
      obtain ⟨hs, hrow, hends⟩ := hs
      apply joined_of_joins hs
      simp only [joins, Bool.or_eq_true, Bool.and_eq_true, decide_eq_true_eq, Prod.mk.injEq]
      rcases hends with ⟨hsecond, hfirst⟩ | ⟨hsecond, hfirst⟩
      · right
        simp only [hsecond, hfirst, hrow, and_self]
      · left
        simp only [hsecond, hfirst, hrow, and_self]
    · intro hlt
      constructor
      · refine (hsides ((bounds.left, bounds.top), (bounds.left, bounds.bottom)) ?_ ?_).symm
        · simp [boundsCorners]
        · simp only [ne_eq, Prod.mk.injEq]
          omega
      · refine hsides ((bounds.right, bounds.bottom), (bounds.right, bounds.top)) ?_ ?_
        · simp [boundsCorners]
        · simp only [ne_eq, Prod.mk.injEq]
          omega
  · rw [if_neg hwide] at hspans ⊢
    refine ⟨_, hspans, ?_, ?_⟩
    · intro lane hlane
      rw [List.mem_insertionSort, List.mem_dedup, lanesOf, if_neg hwide, List.mem_map] at hlane
      obtain ⟨s, hs, rfl⟩ := hlane
      rw [List.mem_filter] at hs
      simp only [Bool.and_eq_true, Bool.or_eq_true, decide_eq_true_eq] at hs
      obtain ⟨hs, hrow, hends⟩ := hs
      apply joined_of_joins hs
      simp only [joins, Bool.or_eq_true, Bool.and_eq_true, decide_eq_true_eq, Prod.mk.injEq]
      rcases hends with ⟨hsecond, hfirst⟩ | ⟨hsecond, hfirst⟩
      · right
        simp only [hsecond, hfirst, hrow, and_self]
      · left
        simp only [hsecond, hfirst, hrow, and_self]
    · intro hlt
      constructor
      · refine hsides ((bounds.left, bounds.bottom), (bounds.right, bounds.bottom)) ?_ ?_
        · simp [boundsCorners]
        · simp only [ne_eq, Prod.mk.injEq]
          omega
      · refine (hsides ((bounds.right, bounds.top), (bounds.left, bounds.top)) ?_ ?_).symm
        · simp [boundsCorners]
        · simp only [ne_eq, Prod.mk.injEq]
          omega

/-- A pass without findings covers the rectangle. -/
theorem covers_of_areaPassIssues {op : CAMOperation} {binding : ProductionToolBinding}
    {recipe : CuttingRecipe} (h : areaPassIssues op binding recipe moves pass levelUm = [])
    {radius : ℝ} (hradius : ((binding.effectiveDiameterUm / 2 : Int) : ℝ) ≤ radius) :
    let bounds := independentAreaRasterBounds op (binding.effectiveDiameterUm / 2)
    Covers (real (bounds.left, bounds.bottom)) (real (bounds.right, bounds.top)) radius
      (Swept moves pass levelUm) := by
  intro bounds
  simp only [areaPassIssues, List.append_eq_nil_iff, ite_eq_left_iff, List.cons_ne_nil, imp_false,
    not_not] at h
  obtain ⟨⟨hboundary, hlanes⟩, -⟩ := h
  exact covers_of_rastered (radius_nonneg binding hradius)
    (gap_le_radius recipe (min_le_right _ _) hradius) (rastered_of_accepted hboundary hlanes)

theorem targetDepth_eq {op : CAMOperation} {recipe : CuttingRecipe} {setup : BoundSetup}
    (h : (targetDepth op recipe setup).1 = []) :
    targetDepthUm op setup recipe = .ok (targetDepth op recipe setup).2 ∧
      0 < (targetDepth op recipe setup).2 := by
  have hthickness := setup.dims_pos
  have hovertravel := recipe.overtravel_range
  unfold targetDepth at h ⊢
  by_cases hpos : op.depthUm ≤ 0
  · rw [if_pos hpos] at h
    cases h
  rw [if_neg hpos] at h ⊢
  have hdepth : 0 < op.depthUm := by omega
  by_cases hthrough : op.through = true
  · rw [if_pos hthrough] at h ⊢
    simp only [List.append_eq_nil_iff, ite_eq_left_iff, List.cons_ne_nil, imp_false, not_not] at h
    obtain ⟨hrange, hover⟩ := h
    have hpositive : 0 < recipe.throughOvertravelUm := by
      rw [Bool.and_eq_true, decide_eq_true_eq, decide_eq_true_eq] at hover
      omega
    refine ⟨bind_eq_ok.mpr ⟨(), require_eq_ok.mpr (decide_eq_true hdepth), ?_⟩, ?_⟩
    · rw [if_pos hthrough]
      exact bind_eq_ok.mpr ⟨(), require_eq_ok.mpr hrange,
        bind_eq_ok.mpr ⟨(), require_eq_ok.mpr (decide_eq_true hpositive), rfl⟩⟩
    · show 0 < setup.stockThicknessUm + recipe.throughOvertravelUm
      omega
  · rw [if_neg hthrough] at h ⊢
    simp only [ite_eq_right_iff, List.cons_ne_nil, imp_false] at h
    refine ⟨bind_eq_ok.mpr ⟨(), require_eq_ok.mpr (decide_eq_true hdepth), ?_⟩, hdepth⟩
    rw [if_neg hthrough]
    refine bind_eq_ok.mpr ⟨(), require_eq_ok.mpr ?_, rfl⟩
    rw [Bool.not_eq_true', decide_eq_false_iff_not]
    exact h

theorem cutsAtLevels_of_accepted {levels : List Int}
    (hpasses : (moves.map ProductionMove.passIndex).reverse.dedup.reverse =
      (List.range levels.length).map (· + 1))
    (hdepths : (levels.zipIdx 1).flatMap (fun entry => passDepthIssues moves entry.2 entry.1) = []) :
    CutsAtLevels moves levels := by
  intro m hm hlinear
  -- the pass of the move is one of the numbered levels
  have hpass : m.passIndex ∈ (List.range levels.length).map (· + 1) := by
    rw [← hpasses, List.mem_reverse, List.mem_dedup, List.mem_reverse]
    exact List.mem_map_of_mem hm
  obtain ⟨i, hi, hindex⟩ := List.mem_map.mp hpass
  rw [List.mem_range] at hi
  have hentry : (levels[i], i + 1) ∈ levels.zipIdx 1 := by
    rw [Nat.add_comm i 1, List.mk_add_mem_zipIdx_iff_getElem?]
    exact List.getElem?_eq_getElem hi
  rw [List.flatMap_eq_nil_iff] at hdepths
  have hissues := hdepths _ hentry
  simp only [passDepthIssues, List.append_eq_nil_iff, List.map_eq_nil_iff] at hissues
  have hlevel := List.filter_eq_nil_iff.mp hissues.2 m
    (List.mem_filter.mpr ⟨hm, by rw [← hindex, hlinear]; simp⟩)
  rw [decide_eq_true_eq, not_not] at hlevel
  rw [hlevel, ← hindex]
  exact hentry

/-- What the verifier accepts as the motion of a pocket or a groove. -/
theorem accepted_area {op : CAMOperation} {binding : ProductionToolBinding}
    {recipe : CuttingRecipe} {setup : BoundSetup} {program : ProductionProgram}
    (h : areaMotionIssues op binding recipe setup program = []) :
    let moves := program.moves.filter fun m => m.operationId = op.operationId
    ∃ target, targetDepthUm op setup recipe = .ok target ∧
      DescendsTo (depthLevels target recipe.stepdownUm) recipe.stepdownUm target ∧
      CutsAtLevels moves (depthLevels target recipe.stepdownUm) ∧
      CoversLevels (independentAreaRasterBounds op (binding.effectiveDiameterUm / 2))
        (binding.effectiveDiameterUm / 2) moves (depthLevels target recipe.stepdownUm) := by
  intro moves
  unfold areaMotionIssues at h
  dsimp only at h
  split at h
  · cases h
  simp only [List.append_eq_nil_iff, ite_eq_left_iff, List.cons_ne_nil, imp_false, not_not] at h
  obtain ⟨⟨⟨htarget, hpasses⟩, hdepths⟩, hcoverage⟩ := h
  obtain ⟨hplanned, hpos⟩ := targetDepth_eq htarget
  have hstep : 0 < recipe.stepdownUm := recipe.values_pos.2.2.2.1
  refine ⟨_, hplanned, ?_, cutsAtLevels_of_accepted hpasses hdepths, ?_⟩
  · rw [depthLevels, if_neg (by omega)]
    exact descendsTo_levels hpos hstep
  · intro entry hentry radius hradius
    rw [areaCoverageIssues, List.flatMap_eq_nil_iff] at hcoverage
    exact covers_of_areaPassIssues (hcoverage entry hentry) hradius

end Accepted

end Verification

/-! ## What the raster generator cuts -/

section Generated

variable {op : CAMOperation} {safeZUm : Int} {n : Nat}

theorem expand_append (cs ds : List Command) : expand op safeZUm n (cs ++ ds) =
    expand op safeZUm n cs ++ expand op safeZUm (n + (expand op safeZUm n cs).length) ds := by
  induction cs generalizing n with
  | nil => simp [expand]
  | cons c cs ih =>
    rw [List.cons_append, expand, expand, ih, List.append_assoc, List.length_append, Nat.add_assoc]

/-- Two successive cuts of a pass at its depth. -/
def CutsFromTo (pass : Nat) (z : Int) (cs : List Command) (a b : Int × Int) : Prop :=
  ∃ feed feed' role role',
    [Command.cut pass a.1 a.2 z feed role, .cut pass b.1 b.2 z feed' role'] <:+: cs

theorem CutsFromTo.mono {pass : Nat} {z : Int} {cs ds : List Command} {a b : Int × Int}
    (h : CutsFromTo pass z cs a b) (hsub : cs <:+: ds) : CutsFromTo pass z ds a b := by
  obtain ⟨feed, feed', role, role', hcuts⟩ := h
  exact ⟨feed, feed', role, role', hcuts.trans hsub⟩

theorem joined_of_cutsFromTo {pass : Nat} {z : Int} {cs : List Command} {a b : Int × Int}
    (h : CutsFromTo pass z cs a b) : Joined (expand op safeZUm n cs) pass z a b := by
  obtain ⟨feed, feed', role, role', before, after, rfl⟩ := h
  rw [List.append_assoc, expand_append]
  generalize n + (expand op safeZUm n before).length = k
  refine ⟨⟨k + 1, op.operationId, pass, .linear, role, a.1, a.2, z, some feed⟩, ?_,
    ⟨k + 2, op.operationId, pass, .linear, role', b.1, b.2, z, some feed'⟩, ?_, rfl, ?_,
    .inl ⟨rfl, rfl⟩⟩
  · apply List.mem_append_right
    simp [expand, Command.moves]
  · apply List.mem_append_right
    simp [expand, Command.moves]
  · simp [Verification.cutsAt]

/-- Successive points of a run of cuts: the first is reached by the plunge. -/
theorem cutsFromTo_of_points {pass : Nat} {z plunge feed : Int} {first : Int × Int}
    {points : List (Int × Int)} {a b : Int × Int} (h : [a, b] <:+: first :: points) :
    CutsFromTo pass z (.cut pass first.1 first.2 z plunge .cut ::
      points.map fun p => .cut pass p.1 p.2 z feed .cut) a b := by
  rcases List.infix_cons_iff.mp h with hstart | hsub
  · obtain ⟨rfl, hrest⟩ := List.cons_prefix_cons.mp hstart
    obtain ⟨rest, rfl⟩ := hrest
    exact ⟨plunge, feed, .cut, .cut, [], _, rfl⟩
  · refine ⟨feed, feed, .cut, .cut, ?_⟩
    exact (hsub.map fun p => Command.cut pass p.1 p.2 z feed .cut).trans
      (List.suffix_cons _ _).isInfix

/-- The boundary loop joins every two different neighbours of the boundary. -/
theorem infix_boundaryVisits {a b : Int × Int} (hne : b ≠ a) {current : Int × Int}
    {boundary : List (Int × Int)} (h : [a, b] <:+: boundary) :
    [a, b] <:+: current :: boundaryVisits current boundary := by
  induction boundary generalizing current with
  | nil => exact absurd (List.infix_nil.mp h) (List.cons_ne_nil _ _)
  | cons p rest ih =>
    -- after `p` the loop stands at `p`, whether it has moved there or not
    have hthere : [a, b] <:+: p :: boundaryVisits p rest := by
      rcases List.infix_cons_iff.mp h with hstart | hsub
      · obtain ⟨rfl, hrest⟩ := List.cons_prefix_cons.mp hstart
        obtain ⟨rest, rfl⟩ := hrest
        show [a, b] <:+: a :: boundaryVisits a (b :: rest)
        rw [boundaryVisits, if_neg hne]
        exact ⟨[], _, rfl⟩
      · exact ih hsub
    rw [boundaryVisits]
    split
    · rename_i hcurrent
      rw [← hcurrent]
      exact hthere
    · exact hthere.trans (List.suffix_cons _ _).isInfix

/-- The points of lanes that are cut one after the other. -/
def lanePoints (lanes : List ((Int × Int) × (Int × Int))) : List (Int × Int) :=
  lanes.flatMap fun l => [l.1, l.2]

theorem laneCuts_from {pass : Nat} {z feed : Int} (lanes : List ((Int × Int) × (Int × Int))) (k : Nat) :
    ((lanes.zipIdx (k + 1)).flatMap fun l =>
      (if l.2 ≠ 0 then [Command.cut pass l.1.1.1 l.1.1.2 z feed .cut] else []) ++
        [.cut pass l.1.2.1 l.1.2.2 z feed .cut]) =
      (lanePoints lanes).map fun p => .cut pass p.1 p.2 z feed .cut := by
  induction lanes generalizing k with
  | nil => rfl
  | cons l lanes ih =>
    rw [List.zipIdx_cons, List.flatMap_cons, ih (k + 1), if_pos (Nat.succ_ne_zero k)]
    rfl

/-- The first lane is entered by the plunge, so that its start has no cut of its own. -/
theorem laneCuts_cons {pass : Nat} {z feed : Int} (l : (Int × Int) × (Int × Int))
    (lanes : List ((Int × Int) × (Int × Int))) : laneCuts pass z feed (l :: lanes) =
      (l.2 :: lanePoints lanes).map fun p => .cut pass p.1 p.2 z feed .cut := by
  rw [laneCuts, List.zipIdx_cons, List.flatMap_cons, laneCuts_from]
  rfl

/-- The boundary of the raster rectangle, as the generator walks it. -/
def boundaryOf (bounds : RasterBounds) : List (Int × Int) :=
  [(bounds.left, bounds.bottom), (bounds.right, bounds.bottom), (bounds.right, bounds.top),
    (bounds.left, bounds.top), (bounds.left, bounds.bottom)]

/-- A pass cuts from lane to lane and then along the boundary. -/
theorem rasterPass_cutsFromTo {recipe : CuttingRecipe} {bounds : RasterBounds}
    {raster : List ((Int × Int) × (Int × Int))} {centres : List (Int × Int)} {pass : Nat} {z : Int}
    (hraster : raster ≠ []) {a b : Int × Int}
    (h : [a, b] <:+: lanePoints raster ++
      boundaryVisits ((raster.getLast?.map Prod.snd).getD (0, 0)) (boundaryOf bounds)) :
    CutsFromTo pass z (rasterPass recipe bounds raster centres pass z) a b := by
  obtain ⟨l, lanes, rfl⟩ := List.exists_cons_of_ne_nil hraster
  let lastEnd := ((l :: lanes).getLast?.map Prod.snd).getD (0, 0)
  let visits := boundaryVisits lastEnd (boundaryOf bounds)
  have hcuts := @cutsFromTo_of_points pass z recipe.plungeUmMin recipe.feedUmMin l.1
    (l.2 :: lanePoints lanes ++ visits) a b h
  refine hcuts.mono ?_
  rw [List.map_append, ← laneCuts_cons]
  -- the plunge, the lanes and the boundary stand between the positioning and the retract
  refine ⟨[.position pass l.1.1 l.1.2 recipe.approachClearanceUm],
    .retract pass (visits.getLastD lastEnd).1 (visits.getLastD lastEnd).2 ::
      reliefCommands pass z recipe centres, ?_⟩
  simp only [rasterPass, List.head?_cons, Option.map_some, Option.getD_some, List.append_assoc,
    List.cons_append, List.nil_append]
  rfl

theorem infix_lanePoints {l : (Int × Int) × (Int × Int)} {lanes : List ((Int × Int) × (Int × Int))}
    (h : l ∈ lanes) : [l.1, l.2] <:+: lanePoints lanes := by
  obtain ⟨before, after, rfl⟩ := List.append_of_mem h
  rw [lanePoints, List.flatMap_append, List.flatMap_cons]
  exact ⟨_, _, List.append_assoc _ _ _⟩

/-- The lanes end where the boundary walk begins. -/
theorem suffix_lanePoints {lanes : List ((Int × Int) × (Int × Int))} (h : lanes ≠ [])
    (visits : List (Int × Int)) :
    ((lanes.getLast?.map Prod.snd).getD (0, 0)) :: visits <:+ lanePoints lanes ++ visits := by
  rcases List.eq_nil_or_concat lanes with rfl | ⟨init, last, rfl⟩
  · exact absurd rfl h
  · rw [List.concat_eq_append, List.getLast?_concat, Option.map_some, Option.getD_some, lanePoints,
      List.flatMap_append]
    refine ⟨lanePoints init ++ [last.1], ?_⟩
    simp [lanePoints]

theorem mem_alternating {l : (Int × Int) × (Int × Int)} {lanes : List ((Int × Int) × (Int × Int))}
    (h : l ∈ lanes) : l ∈ alternating lanes ∨ l.swap ∈ alternating lanes := by
  obtain ⟨i, hi⟩ := List.mem_iff_getElem?.mp h
  have hentry := List.mk_mem_zipIdx_iff_getElem?.mpr hi
  by_cases heven : i % 2 = 0
  · left
    exact List.mem_map.mpr ⟨(l, i), hentry, if_pos heven⟩
  · right
    exact List.mem_map.mpr ⟨(l, i), hentry, if_neg heven⟩

/-- The lanes reach from the minimum to the maximum in steps of at most the stepover. -/
theorem spans_inclusiveLanes {minimumUm maximumUm stepUm : Int} (hstep : 0 < stepUm)
    (hle : minimumUm ≤ maximumUm) :
    Spans minimumUm maximumUm stepUm (inclusiveLanes minimumUm maximumUm stepUm) := by
  have hlt : minimumUm < maximumUm + 1 := by omega
  have hchain : List.IsChain (fun a b => b - a ≤ stepUm)
      (pyRange minimumUm (maximumUm + 1) stepUm) :=
    (isChain_pyRange _ _ _).imp fun a b hab => by omega
  have hhead := head_pyRange hstep hlt
  obtain ⟨v, hv, -, hnear⟩ := getLast_pyRange hstep hlt
  unfold inclusiveLanes
  dsimp only
  split
  · rename_i hlast
    exact ⟨hchain, hhead, hlast⟩
  · refine ⟨?_, ?_, List.getLast?_concat⟩
    · rw [List.isChain_append]
      refine ⟨hchain, List.isChain_singleton _, ?_⟩
      -- the last lane of the range is less than a step before the maximum
      intro a ha b hb
      rw [hv, Option.mem_some_iff] at ha
      rw [List.head?_cons, Option.mem_some_iff] at hb
      omega
    · rw [List.head?_append, hhead, Option.some_or]

/-- The lanes and the boundary of a pass, for any relation that holds between the successive
    points of its cuts. -/
theorem rastered_of_rasterLines {bounds : RasterBounds} {stepoverUm : Int}
    {raster : List ((Int × Int) × (Int × Int))} (hstep : 0 < stepoverUm)
    (hlines : rasterLines bounds.left bounds.right bounds.bottom bounds.top stepoverUm = .ok raster)
    {joined : Int × Int → Int × Int → Prop} (hsymm : ∀ a b, joined a b → joined b a)
    (hcuts : ∀ a b, [a, b] <:+: lanePoints raster ++
      boundaryVisits ((raster.getLast?.map Prod.snd).getD (0, 0)) (boundaryOf bounds) →
      joined a b) :
    Rastered bounds stepoverUm joined := by
  have hne := rasterLines_ne_nil hlines
  have hlane : ∀ l, l ∈ raster ∨ l.swap ∈ raster → joined l.1 l.2 := by
    intro l hl
    rcases hl with hl | hl
    · exact hcuts _ _ ((infix_lanePoints hl).trans (List.prefix_append _ _).isInfix)
    · exact hsymm _ _ (hcuts _ _ ((infix_lanePoints hl).trans (List.prefix_append _ _).isInfix))
  have hside : ∀ a b, b ≠ a → [a, b] <:+: boundaryOf bounds → joined a b := by
    intro a b hab hsub
    exact hcuts a b ((infix_boundaryVisits hab hsub).trans (suffix_lanePoints hne _).isInfix)
  unfold rasterLines at hlines
  obtain ⟨_, hfits, hlines⟩ := bind_eq_ok.mp hlines
  simp only [require_eq_ok, Bool.not_eq_true', Bool.or_eq_false_iff, decide_eq_false_iff_not] at hfits
  unfold Rastered
  by_cases hwide : bounds.right - bounds.left ≥ bounds.top - bounds.bottom
  · rw [if_pos hwide] at hlines ⊢
    cases hlines
    refine ⟨_, spans_inclusiveLanes hstep (by omega), ?_, ?_⟩
    · intro lane hmem
      exact hlane ((bounds.left, lane), (bounds.right, lane))
        (mem_alternating (List.mem_map_of_mem hmem))
    · intro hlt
      constructor
      · apply hsymm
        refine hside _ _ ?_ ⟨[(bounds.left, bounds.bottom), (bounds.right, bounds.bottom),
          (bounds.right, bounds.top)], [], rfl⟩
        simp only [ne_eq, Prod.mk.injEq]
        omega
      · refine hside _ _ ?_ ⟨[(bounds.left, bounds.bottom)], _, rfl⟩
        simp only [ne_eq, Prod.mk.injEq]
        omega
  · rw [if_neg hwide] at hlines ⊢
    cases hlines
    refine ⟨_, spans_inclusiveLanes hstep (by omega), ?_, ?_⟩
    · intro lane hmem
      exact hlane ((lane, bounds.bottom), (lane, bounds.top))
        (mem_alternating (List.mem_map_of_mem hmem))
    · intro hlt
      constructor
      · refine hside _ _ ?_ ⟨[], _, rfl⟩
        simp only [ne_eq, Prod.mk.injEq]
        omega
      · apply hsymm
        refine hside _ _ ?_ ⟨[(bounds.left, bounds.bottom), (bounds.right, bounds.bottom)], _, rfl⟩
        simp only [ne_eq, Prod.mk.injEq]
        omega

/-- A cut of a pass at its depth; the other calls do not cut. -/
def Command.AtLevel (pass : Nat) (z : Int) : Command → Prop
  | .cut p _ _ z' _ _ => p = pass ∧ z' = z
  | _ => True

theorem rasterPass_atLevel {recipe : CuttingRecipe} {bounds : RasterBounds}
    {raster : List ((Int × Int) × (Int × Int))} {centres : List (Int × Int)} {pass : Nat} {z : Int}
    {c : Command} (h : c ∈ rasterPass recipe bounds raster centres pass z) : c.AtLevel pass z := by
  simp only [rasterPass, reliefCommands, laneCuts, List.mem_append, List.mem_cons,
    List.mem_map, List.mem_flatMap, List.not_mem_nil, or_false] at h
  obtain ((((rfl | rfl) | ⟨l, -, hl⟩) | ⟨q, -, rfl⟩) | rfl) | ⟨q, -, rfl | rfl | rfl⟩ := h
  · trivial
  · exact ⟨rfl, rfl⟩
  · rcases hl with hl | rfl
    · split at hl
      · rw [List.mem_singleton.mp hl]
        exact ⟨rfl, rfl⟩
      · cases hl
    · exact ⟨rfl, rfl⟩
  · exact ⟨rfl, rfl⟩
  · trivial
  · trivial
  · exact ⟨rfl, rfl⟩
  · trivial

theorem linear_of_atLevel {pass : Nat} {z : Int} {c : Command} (hc : c.AtLevel pass z) {k : Nat}
    {m : ProductionMove} (hm : m ∈ c.moves op safeZUm k) (hlinear : m.kind = .linear) :
    m.zUm = z ∧ m.passIndex = pass := by
  cases c with
  | cut =>
    obtain rfl := List.mem_singleton.mp hm
    exact ⟨hc.2, hc.1⟩
  | position =>
    simp only [Command.moves, List.mem_cons, List.not_mem_nil, or_false] at hm
    rcases hm with rfl | rfl <;> cases hlinear
  | peckRetract | retract =>
    obtain rfl := List.mem_singleton.mp hm
    cases hlinear

theorem mem_zipIdx_one {levels : List Int} {z : Int} {i : Nat} :
    (z, i + 1) ∈ levels.zipIdx 1 ↔ (z, i) ∈ levels.zipIdx := by
  rw [Nat.add_comm, List.mk_add_mem_zipIdx_iff_getElem?, List.mk_mem_zipIdx_iff_getElem?]

theorem stepover_le_of_contract {setup : BoundSetup} {binding : ProductionToolBinding}
    {recipe : CuttingRecipe} (h : validateAreaContract op setup binding recipe = .ok ()) :
    binding.effectiveDiameterUm * recipe.stepoverPpm / 1000000 ≤
      binding.effectiveDiameterUm - 2 * recipe.processAccuracyUm := by
  simp only [validateAreaContract, bind_eq_ok, require_eq_ok, Bool.not_eq_true',
    decide_eq_false_iff_not] at h
  obtain ⟨_, -, _, -, _, -, _, -, _, -, _, -, _, hstepover, -⟩ := h
  omega

/-- What the planner generates for a pocket or a groove that its contract accepts. -/
theorem generated_area {b : ProgramBuilder} {recipe : CuttingRecipe}
    {before after : List ProductionMove} (hkind : isAreaKind op.kind = true)
    (hcontract : validateAreaContract op b.setup b.tool recipe = .ok ())
    (h : b.generateOperationMoves op recipe before = .ok after) :
    ∃ own bounds target levels, after = before ++ own ∧
      areaRasterBounds op (b.tool.effectiveDiameterUm / 2) = .ok bounds ∧
      targetDepthUm op b.setup recipe = .ok target ∧
      depthLevelsUm target recipe.stepdownUm = .ok levels ∧
      DescendsTo levels recipe.stepdownUm target ∧
      CutsAtLevels own levels ∧
      CoversLevels bounds (b.tool.effectiveDiameterUm / 2) own levels := by
  obtain ⟨commands, hcommands, hexec⟩ := bind_eq_ok.mp h
  have hmoves := (execCommands_eq_ok hexec).1
  rw [operationCommands, if_neg ?_, if_pos hkind] at hcommands
  swap
  · rintro (hdrill | hdrill) <;> rw [hdrill] at hkind <;> cases hkind
  simp only [rasterCommands, bind_eq_ok, require_eq_ok, decide_eq_true_eq] at hcommands
  obtain ⟨bounds, hbounds, ⟨⟩, hstep, raster, hraster, target, htarget, levels, hlevels, hret⟩ :=
    hcommands
  cases hret
  refine ⟨_, bounds, target, levels, hmoves, hbounds, htarget, hlevels, ?_, ?_, ?_⟩
  · simp only [depthLevelsUm, bind_eq_ok, require_eq_ok, decide_eq_true_eq] at hlevels
    obtain ⟨⟨⟩, hdepth, ⟨⟩, hstepdown, hret⟩ := hlevels
    cases hret
    exact descendsTo_levels hdepth hstepdown
  · intro m hm hlinear
    obtain ⟨c, hc, k, hk⟩ := mem_expand hm
    obtain ⟨l, hl, hc⟩ := List.mem_flatMap.mp hc
    obtain ⟨hz, hpass⟩ := linear_of_atLevel (rasterPass_atLevel hc) hk hlinear
    rw [hz, hpass]
    exact mem_zipIdx_one.mpr hl
  · intro entry hentry radius hradius
    obtain ⟨z, i⟩ := entry
    obtain ⟨j, rfl⟩ : ∃ j, i = j + 1 :=
      ⟨i - 1, by have := (List.mk_mem_zipIdx_iff_le_and_getElem?_sub.mp hentry).1; omega⟩
    have hsub : rasterPass recipe bounds raster (dogboneCentres op) (j + 1) z <:+:
        levels.zipIdx.flatMap fun l =>
          rasterPass recipe bounds raster (dogboneCentres op) (l.2 + 1) l.1 :=
      List.infix_of_mem_flatten (List.mem_map_of_mem (mem_zipIdx_one.mp hentry))
    refine covers_of_rastered (radius_nonneg b.tool hradius) (gap_le_radius recipe ?_ hradius)
      (rastered_of_rasterLines hstep hraster (fun _ _ => Joined.symm) ?_)
    · exact stepover_le_of_contract hcontract
    · intro p q hpq
      exact joined_of_cutsFromTo
        ((rasterPass_cutsFromTo (rasterLines_ne_nil hraster) hpq).mono hsub)

end Generated

/-- The coverage of pockets and grooves.  A program in which the verifier finds nothing, and the
    moves that the planner generates for an operation that its contract accepts, cut at the levels
    of the operation only, go down in steps of at most the stepdown to the target depth, and at
    every level sweep within the cutter radius of each point of the raster rectangle widened by the
    cutter disc.  The radius may be the half of the diameter or the half rounded down. -/
theorem area_coverage (op : CAMOperation) (recipe : CuttingRecipe) :
    (∀ binding setup program,
      Verification.areaMotionIssues op binding recipe setup program = [] →
      ∃ target, targetDepthUm op setup recipe = .ok target ∧
        let moves := program.moves.filter fun m => m.operationId = op.operationId
        let levels := Verification.depthLevels target recipe.stepdownUm
        DescendsTo levels recipe.stepdownUm target ∧ CutsAtLevels moves levels ∧
        CoversLevels (independentAreaRasterBounds op (binding.effectiveDiameterUm / 2))
          (binding.effectiveDiameterUm / 2) moves levels) ∧
    (∀ (b : ProgramBuilder) (before after : List ProductionMove), isAreaKind op.kind = true →
      validateAreaContract op b.setup b.tool recipe = .ok () →
      b.generateOperationMoves op recipe before = .ok after →
      ∃ own bounds target levels, after = before ++ own ∧
        areaRasterBounds op (b.tool.effectiveDiameterUm / 2) = .ok bounds ∧
        targetDepthUm op b.setup recipe = .ok target ∧
        depthLevelsUm target recipe.stepdownUm = .ok levels ∧
        DescendsTo levels recipe.stepdownUm target ∧ CutsAtLevels own levels ∧
        CoversLevels bounds (b.tool.effectiveDiameterUm / 2) own levels) := by
  constructor
  · intro binding setup program h
    exact Verification.accepted_area h
  · intro b before after hkind hcontract h
    exact generated_area hkind hcontract h

/-! ## A pocket of 14 by 10 mm -/

namespace PocketJob

def operation : CAMOperation where
  operationId := "op:pocket"
  setupId := "setup:sheet:001:A"
  partId := "panel"
  instanceId := "panel:001"
  featureId := "pocket"
  kind := .pocket
  side := .a
  toolId := "T06R"
  xUm := 70000
  yUm := 50000
  depthUm := 6000
  widthUm := some 14000
  lengthUm := some 10000
  cutterEnvelopeXUm := some 70000
  cutterEnvelopeYUm := some 50000
  cutterEnvelopeWidthUm := some 14000
  cutterEnvelopeLengthUm := some 10000

def builder : ProgramBuilder where
  context := PanelJob.context
  setup := PanelJob.boundSetup
  tool := PanelJob.routerBinding
  partOutlines := [{
    stockId := "sheet"
    sheetIndex := PanelJob.boundSetup.physicalSheet.2
    instanceId := "panel:001"
    partId := "panel"
    sourceRotation90 := false
    rect := ⟨20000, 30000, 120000, 90000⟩ }]

def program (moves : List ProductionMove) : ProductionProgram where
  programId := "program"
  runOrder := 1
  setupId := "setup:sheet:001:A"
  toolId := "router6"
  toolVersion := "1"
  recipeIds := ["pocket"]
  operationIds := ["op:pocket"]
  releaseOperationIds := []
  moves := moves

theorem generates : okAnd (builder.generateOperationMoves operation PanelJob.pocketRecipe [])
    (fun moves => Verification.areaMotionIssues operation PanelJob.routerBinding
      PanelJob.pocketRecipe PanelJob.boundSetup (program moves) == []) = true := by
  decide +kernel

theorem contract : validateAreaContract operation PanelJob.boundSetup PanelJob.routerBinding
    PanelJob.pocketRecipe = .ok () := by
  rfl

/-- The pocket as the planner cuts it and as the verifier accepts it. -/
theorem area_coverage_generated : ∃ moves,
    builder.generateOperationMoves operation PanelJob.pocketRecipe [] = .ok moves ∧
    (∃ bounds levels, CoversLevels bounds 3000 moves levels) ∧
    ∃ target, targetDepthUm operation PanelJob.boundSetup PanelJob.pocketRecipe = .ok target ∧
      CoversLevels (independentAreaRasterBounds operation 3000) 3000
        ((program moves).moves.filter fun m => m.operationId = operation.operationId)
        (Verification.depthLevels target 20000) := by
  obtain ⟨moves, hmoves, hissues⟩ := exists_of_okAnd generates
  obtain ⟨own, bounds, _, levels, hown, -, -, -, -, -, hcovers⟩ :=
    (area_coverage operation PanelJob.pocketRecipe).2 builder [] moves rfl contract hmoves
  obtain ⟨target, htarget, -, -, haccepted⟩ :=
    (area_coverage operation PanelJob.pocketRecipe).1 PanelJob.routerBinding PanelJob.boundSetup
      (program moves) (beq_iff_eq.mp hissues)
  rw [List.nil_append] at hown
  rw [← hown] at hcovers
  exact ⟨moves, hmoves, ⟨bounds, levels, hcovers⟩, target, htarget, haccepted⟩

end PocketJob

end Custombuild.Cam
