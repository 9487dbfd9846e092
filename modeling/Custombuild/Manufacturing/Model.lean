/-
  The manufacturing data model: rectangles, features, parts, tools, stock, placements,
  setups and operations, as `custombuild_manufacturing.model` declares them.  All lengths
  are integer micrometres.  A constructor check of the source (`__post_init__` raising
  `ValueError`) is a proof field of the structure here, so a rejected value cannot be built.

  Fields that no modelled function reads (names of parts and tools, weights, edge bands)
  are left out.  The metadata mapping of a feature is the record of the entries that the
  operation generator and the tool selection read.
-/
import Mathlib.Data.List.Basic
import Mathlib.Order.MinMax
import Custombuild.Lib.Text

namespace Custombuild.Manufacturing

/-! ## Enumerations -/

inductive Side
  | a
  | b
  | edge
deriving DecidableEq

inductive FeatureKind
  | drill
  | drillPattern
  | countersink
  | pocket
  | groove
  | rabbet
  | innerContour
  | outerContour
  | engrave
  | label
deriving DecidableEq

inductive OperationKind
  | drill
  | countersink
  | pocket
  | groove
  | contour
  | engrave
deriving DecidableEq

/-- A local panel boundary named in `open_end_reliefs`.  The source holds strings; every
    string other than the four boundaries is an unsupported declaration. -/
inductive SourceEdge
  | uMin
  | uMax
  | vMin
  | vMax
  | unsupported (name : String)
deriving DecidableEq

/-- A boundary of a rectangle in machine coordinates. -/
inductive MachineEdge
  | xMin
  | xMax
  | yMin
  | yMax
deriving DecidableEq

inductive CornerStrategy
  | dogboneV1
  | dogboneV2
  | unsupported (name : String)
deriving DecidableEq

def Side.value : Side → String
  | .a => "A"
  | .b => "B"
  | .edge => "EDGE"

def OperationKind.value : OperationKind → String
  | .drill => "DRILL"
  | .countersink => "COUNTERSINK"
  | .pocket => "POCKET"
  | .groove => "GROOVE"
  | .contour => "CONTOUR"
  | .engrave => "ENGRAVE"

/-- The strategies in `{"dogbone-v1", "dogbone-v2"}`. -/
def isDogbone : Option CornerStrategy → Bool
  | some .dogboneV1 => true
  | some .dogboneV2 => true
  | _ => false

/-- Membership in `{"u_min", "u_max", "v_min", "v_max"}`. -/
def SourceEdge.isAllowed : SourceEdge → Bool
  | .unsupported _ => false
  | _ => true

/-! ## Points and rectangles -/

structure Point2D where
  xUm : Int
  yUm : Int
deriving DecidableEq

structure Rect where
  xUm : Int
  yUm : Int
  widthUm : Int
  heightUm : Int
deriving DecidableEq

namespace Rect

def rightUm (r : Rect) : Int := r.xUm + r.widthUm

def topUm (r : Rect) : Int := r.yUm + r.heightUm

def intersects (r other : Rect) (clearanceUm : Int) : Bool :=
  !(r.rightUm + clearanceUm ≤ other.xUm
    || other.rightUm + clearanceUm ≤ r.xUm
    || r.topUm + clearanceUm ≤ other.yUm
    || other.topUm + clearanceUm ≤ r.yUm)

def contains (r other : Rect) : Bool :=
  other.xUm ≥ r.xUm && other.yUm ≥ r.yUm
    && other.rightUm ≤ r.rightUm && other.topUm ≤ r.topUm

theorem contains_iff {r other : Rect} : r.contains other = true ↔
    r.xUm ≤ other.xUm ∧ r.yUm ≤ other.yUm ∧ other.rightUm ≤ r.rightUm ∧ other.topUm ≤ r.topUm := by
  simp only [contains, Bool.and_eq_true, decide_eq_true_eq, ge_iff_le, and_assoc]

/-- The rectangle spanned by its two extreme coordinates, `Rect(l, b, r - l, t - b)`. -/
def ofBounds (left right bottom top : Int) : Rect :=
  ⟨left, bottom, right - left, top - bottom⟩

end Rect

/-- Python's `value or default` on an optional integer: both `None` and `0` are false. -/
def orElse (value : Option Int) (default : Int) : Int :=
  match value with
  | some v => if v = 0 then default else v
  | none => default

/-- Python's `min` of a non-empty sequence. -/
def minOf (first : Int) (rest : List Int) : Int := rest.foldl min first

/-- Python's `max` of a non-empty sequence. -/
def maxOf (first : Int) (rest : List Int) : Int := rest.foldl max first

theorem le_minOf {c a : Int} {l : List Int} : c ≤ minOf a l ↔ c ≤ a ∧ ∀ b ∈ l, c ≤ b := by
  induction l generalizing a with
  | nil => simp [minOf]
  | cons b l ih =>
    have h : minOf a (b :: l) = minOf (min a b) l := rfl
    rw [h, ih, le_min_iff, List.forall_mem_cons, and_assoc]

theorem maxOf_le {c a : Int} {l : List Int} : maxOf a l ≤ c ↔ a ≤ c ∧ ∀ b ∈ l, b ≤ c := by
  induction l generalizing a with
  | nil => simp [maxOf]
  | cons b l ih =>
    have h : maxOf a (b :: l) = maxOf (max a b) l := rfl
    rw [h, ih, max_le_iff, List.forall_mem_cons, and_assoc]

/-- The minimum depends on the elements only, not on their order or multiplicity. -/
theorem minOf_congr {a : Int} {l l' : List Int} (h : ∀ b, b ∈ l ↔ b ∈ l') :
    minOf a l = minOf a l' :=
  eq_of_forall_le_iff fun c => by simp only [le_minOf, h]

theorem maxOf_congr {a : Int} {l l' : List Int} (h : ∀ b, b ∈ l ↔ b ∈ l') :
    maxOf a l = maxOf a l' :=
  eq_of_forall_ge_iff fun c => by simp only [maxOf_le, h]

theorem minOf_le_first (a : Int) (l : List Int) : minOf a l ≤ a := (le_minOf.mp le_rfl).1

theorem first_le_maxOf (a : Int) (l : List Int) : a ≤ maxOf a l := (maxOf_le.mp le_rfl).1

/-- A reflection exchanges minimum and maximum. -/
theorem sub_maxOf (c a : Int) (l : List Int) :
    c - maxOf a l = minOf (c - a) (l.map (c - ·)) := by
  refine eq_of_forall_le_iff fun d => ?_
  have h : d ≤ c - maxOf a l ↔ maxOf a l ≤ c - d := by omega
  rw [h, maxOf_le, le_minOf, List.forall_mem_map]
  exact and_congr (by omega) (forall₂_congr fun b _ => by omega)

theorem sub_minOf (c a : Int) (l : List Int) :
    c - minOf a l = maxOf (c - a) (l.map (c - ·)) := by
  refine eq_of_forall_ge_iff fun d => ?_
  have h : c - minOf a l ≤ d ↔ c - d ≤ minOf a l := by omega
  rw [h, le_minOf, maxOf_le, List.forall_mem_map]
  exact and_congr (by omega) (forall₂_congr fun b _ => by omega)

theorem add_minOf (c a : Int) (l : List Int) :
    c + minOf a l = minOf (c + a) (l.map (c + ·)) := by
  refine eq_of_forall_le_iff fun d => ?_
  have h : d ≤ c + minOf a l ↔ d - c ≤ minOf a l := by omega
  rw [h, le_minOf, le_minOf, List.forall_mem_map]
  exact and_congr (by omega) (forall₂_congr fun b _ => by omega)

theorem add_maxOf (c a : Int) (l : List Int) :
    c + maxOf a l = maxOf (c + a) (l.map (c + ·)) := by
  refine eq_of_forall_ge_iff fun d => ?_
  have h : c + maxOf a l ≤ d ↔ maxOf a l ≤ d - c := by omega
  rw [h, maxOf_le, maxOf_le, List.forall_mem_map]
  exact and_congr (by omega) (forall₂_congr fun b _ => by omega)

/-! ## Defaults

Every default of an optional field passes the check of its field. -/

theorem one_default : 1 ≤ 1 := Nat.le_refl 1

theorem zero_default : (0 : Int) ≤ 0 := Int.le_refl 0

theorem zeros_default : (0 : Int) ≤ 0 ∧ (0 : Int) ≤ 0 := ⟨zero_default, zero_default⟩

theorem absent_default : ∀ v ∈ (none : Option Int), 0 < v := by decide

theorem single_default : 1 < 1 → ∃ p ∈ (none : Option Int), 0 < p := by decide

theorem openEnds_nodup_default : ([] : List SourceEdge).Nodup := List.nodup_nil

theorem openEnds_allowed_default : ∀ e ∈ ([] : List SourceEdge), e.isAllowed = true := by decide

theorem openEnds_dogbone_default : ([] : List SourceEdge) ≠ [] → isDogbone none = true := by decide

/-! ## Features -/

/-- The metadata entries that `select_tool` and the operation generator read. -/
structure FeatureMetadata where
  diameterToleranceUm : Option Int := none
  compensation : Option String := none
  holdingStrategy : Option String := none
deriving DecidableEq

structure ManufacturingFeature where
  featureId : String
  partId : String
  kind : FeatureKind
  side : Side
  xUm : Int
  yUm : Int
  depthUm : Int
  diameterUm : Option Int := none
  widthUm : Option Int := none
  lengthUm : Option Int := none
  radiusUm : Option Int := none
  patternCount : Nat := 1
  pitchUm : Option Int := none
  through : Bool := false
  cornerStrategy : Option CornerStrategy := none
  cornerReliefRadiusUm : Option Int := none
  openEndReliefs : List SourceEdge := []
  toleranceUm : Int := 0
  fitClearanceUm : Int := 0
  metadata : FeatureMetadata := {}
  ids_required : featureId ≠ "" ∧ partId ≠ "" := by decide
  depth_pos : 0 < depthUm := by decide
  count_pos : 1 ≤ patternCount := by first | exact one_default | decide
  pitch_pos : 1 < patternCount → ∃ p ∈ pitchUm, 0 < p := by
    first | exact single_default | decide
  dims_pos : ∀ d ∈ [diameterUm, widthUm, lengthUm, radiusUm], ∀ v ∈ d, 0 < v := by decide
  relief_pos : ∀ v ∈ cornerReliefRadiusUm, 0 < v := by first | exact absent_default | decide
  openEnds_nodup : openEndReliefs.Nodup := by first | exact openEnds_nodup_default | decide
  openEnds_allowed : ∀ e ∈ openEndReliefs, e.isAllowed = true := by
    first | exact openEnds_allowed_default | decide
  openEnds_dogbone : openEndReliefs ≠ [] → isDogbone cornerStrategy = true := by
    first | exact openEnds_dogbone_default | decide
  tolerance_nonneg : 0 ≤ toleranceUm ∧ 0 ≤ fitClearanceUm := by
    first | exact zeros_default | decide

/-- The four source corners in the order in which the source enumerates them. -/
def sourceCorners : List (SourceEdge × SourceEdge) :=
  [(.uMin, .vMin), (.uMax, .vMin), (.uMin, .vMax), (.uMax, .vMax)]

/-- Whether the relief of a source corner is left out: `dogbone-v1` needs both of its
    boundaries open, `dogbone-v2` one of them. -/
def cornerSuppressed (strategy : Option CornerStrategy) (declared : List SourceEdge)
    (u v : SourceEdge) : Bool :=
  if strategy = some .dogboneV1 then u ∈ declared && v ∈ declared
  else u ∈ declared || v ∈ declared

def isDrillKind : FeatureKind → Bool
  | .drill | .drillPattern | .countersink => true
  | _ => false

namespace ManufacturingFeature

def points (f : ManufacturingFeature) : List Point2D :=
  if f.patternCount = 1 then [⟨f.xUm, f.yUm⟩]
  else (List.range f.patternCount).map fun (i : Nat) =>
    ⟨f.xUm + (i : Int) * f.pitchUm.getD 0, f.yUm⟩

/-- Nominal local bounds. -/
def bounds (f : ManufacturingFeature) : Rect :=
  if isDrillKind f.kind then
    let diameter := orElse f.diameterUm (2 * orElse f.radiusUm 0)
    let radius := diameter / 2
    let xs := f.points.map Point2D.xUm
    let ys := f.points.map Point2D.yUm
    let left := minOf (xs.headD 0) xs - radius
    let right := maxOf (xs.headD 0) xs + radius
    let bottom := minOf (ys.headD 0) ys - radius
    let top := maxOf (ys.headD 0) ys + radius
    Rect.ofBounds left right bottom top
  else
    let width := orElse f.widthUm (orElse f.diameterUm 0)
    let length := orElse f.lengthUm width
    ⟨f.xUm, f.yUm, width, length⟩

/-- The corner relief circles (centre, radius) under the declared strategy. -/
def reliefCircles (f : ManufacturingFeature) : List (Point2D × Int) :=
  match f.cornerReliefRadiusUm with
  | none => []
  | some r =>
    if isDogbone f.cornerStrategy then
      let nominal := f.bounds
      (sourceCorners.filter fun c =>
          !cornerSuppressed f.cornerStrategy f.openEndReliefs c.1 c.2).map fun c =>
        (⟨if c.1 = .uMin then nominal.xUm else nominal.rightUm,
          if c.2 = .vMin then nominal.yUm else nominal.topUm⟩, r)
    else []

/-- The cutter envelope: nominal bounds, widened at declared open ends by the relief
    radius, and by every relief circle. -/
def machiningBounds (f : ManufacturingFeature) : Rect :=
  let nominal := f.bounds
  let circles := f.reliefCircles
  let radius := if isDogbone f.cornerStrategy then orElse f.cornerReliefRadiusUm 0 else 0
  let left := nominal.xUm - if SourceEdge.uMin ∈ f.openEndReliefs then radius else 0
  let right := nominal.rightUm + if SourceEdge.uMax ∈ f.openEndReliefs then radius else 0
  let bottom := nominal.yUm - if SourceEdge.vMin ∈ f.openEndReliefs then radius else 0
  let top := nominal.topUm + if SourceEdge.vMax ∈ f.openEndReliefs then radius else 0
  Rect.ofBounds
    (circles.foldl (fun l c => min l (c.1.xUm - c.2)) left)
    (circles.foldl (fun r c => max r (c.1.xUm + c.2)) right)
    (circles.foldl (fun b c => min b (c.1.yUm - c.2)) bottom)
    (circles.foldl (fun t c => max t (c.1.yUm + c.2)) top)

end ManufacturingFeature

/-! ## Parts, tools, machines and stock -/

/-- The characters that Python's `str.strip` removes. -/
def isSpaceChar (c : Char) : Bool :=
  let n := c.toNat
  (9 ≤ n && n ≤ 13) || (28 ≤ n && n ≤ 32) || n == 0x85 || n == 0xA0 || n == 0x1680
    || (0x2000 ≤ n && n ≤ 0x200A) || n == 0x2028 || n == 0x2029 || n == 0x202F
    || n == 0x205F || n == 0x3000

/-- The text is non-empty and equal to its own `strip()`. -/
def isCanonicalText (s : String) : Bool :=
  match Lib.charsOf s with
  | [] => false
  | c :: cs => !isSpaceChar c && !isSpaceChar (cs.getLastD c)

inductive Axis
  | x
  | y
  | z
deriving DecidableEq

theorem axes_default : [Axis.x, Axis.y, Axis.z].Nodup := by decide

/-- Which part-local axes are the panel's U, V and thickness directions. -/
structure PanelAxisMapping where
  uAxis : Axis := .x
  vAxis : Axis := .y
  thicknessAxis : Axis := .z
  permutation : [uAxis, vAxis, thicknessAxis].Nodup := by first | exact axes_default | decide
deriving DecidableEq

structure PartSpec where
  partId : String
  widthUm : Int
  heightUm : Int
  thicknessUm : Int
  materialId : String
  materialVersion : String
  features : List ManufacturingFeature := []
  grainDirection : String := "NONE"
  allowRotation : Bool := true
  quantity : Nat := 1
  rawWidthUm : Option Int := none
  rawHeightUm : Option Int := none
  axisMapping : PanelAxisMapping := {}
  id_required : partId ≠ "" := by decide
  dims_pos : 0 < widthUm ∧ 0 < heightUm ∧ 0 < thicknessUm := by decide
  quantity_pos : 1 ≤ quantity := by first | exact one_default | decide
  features_owned : ∀ f ∈ features, f.partId = partId := by simp

def PartSpec.blankWidthUm (p : PartSpec) : Int := orElse p.rawWidthUm p.widthUm

def PartSpec.blankHeightUm (p : PartSpec) : Int := orElse p.rawHeightUm p.heightUm

structure PartInstance where
  instanceId : String
  part : PartSpec

structure ToolSpec where
  toolId : String
  name : String
  diameterUm : Int
  cuttingLengthUm : Int
  supportedOperations : List OperationKind
  spindleRpm : Int
  feedUmMin : Int
  plungeUmMin : Int
  measuredDiameterUm : Option Int := none
  runoutUm : Int := 0
  version : String := "1"
  dims_pos : 0 < diameterUm ∧ 0 < cuttingLengthUm ∧ 0 < spindleRpm := by decide
  feeds_pos : 0 < feedUmMin ∧ 0 < plungeUmMin := by decide
  texts_canonical : ∀ t ∈ [toolId, name, version], isCanonicalText t = true := by decide +kernel
  operations_nonempty : supportedOperations ≠ [] := by decide
  operations_nodup : supportedOperations.Nodup := by decide
  measured_pos : ∀ v ∈ measuredDiameterUm, 0 < v := by first | exact absent_default | decide
  runout_nonneg : 0 ≤ runoutUm := by first | exact zero_default | decide
  runout_lt : 2 * runoutUm < orElse measuredDiameterUm diameterUm := by decide

instance : DecidableEq ToolSpec := fun a b =>
  decidable_of_iff
    (a.toolId = b.toolId ∧ a.name = b.name ∧ a.diameterUm = b.diameterUm ∧
      a.cuttingLengthUm = b.cuttingLengthUm ∧ a.supportedOperations = b.supportedOperations ∧
      a.spindleRpm = b.spindleRpm ∧ a.feedUmMin = b.feedUmMin ∧ a.plungeUmMin = b.plungeUmMin ∧
      a.measuredDiameterUm = b.measuredDiameterUm ∧ a.runoutUm = b.runoutUm ∧
      a.version = b.version) <| by
    cases a
    cases b
    simp

def ToolSpec.effectiveDiameterUm (t : ToolSpec) : Int := orElse t.measuredDiameterUm t.diameterUm

/-- The canonical work-coordinate systems. -/
inductive Wcs
  | g54
  | g55
  | g56
  | g57
  | g58
  | g59
deriving DecidableEq

theorem accuracy_default : (0 : Int) < 100 := by decide

theorem wcs_nonempty_default : [Wcs.g54, Wcs.g55] ≠ [] := List.cons_ne_nil _ _

theorem wcs_nodup_default : [Wcs.g54, Wcs.g55].Nodup := by decide

structure MachineProfile where
  profileId : String
  name : String
  version : String
  controller : String
  workWidthUm : Int
  workHeightUm : Int
  workZUm : Int
  safeZUm : Int
  maxSpindleRpm : Int
  supportedOperations : List OperationKind
  tools : List ToolSpec
  toolLibraryVersion : String := "unversioned"
  supportedSides : List Side := [.a]
  canFlipStock : Bool := false
  edgeAggregate : Bool := false
  wcsCodes : List Wcs := [.g54, .g55]
  keepOutZones : List Rect := []
  accuracyUm : Int := 100
  work_pos : 0 < workWidthUm ∧ 0 < workHeightUm ∧ 0 < workZUm := by decide
  limits_pos : 0 < safeZUm ∧ 0 < maxSpindleRpm := by decide
  safe_le_work : safeZUm ≤ workZUm := by decide
  texts_canonical :
    ∀ t ∈ [profileId, name, version, controller], isCanonicalText t = true := by decide +kernel
  accuracy_pos : 0 < accuracyUm := by first | exact accuracy_default | decide
  tools_nodup : (tools.map ToolSpec.toolId).Nodup := by decide
  wcs_nonempty : wcsCodes ≠ [] := by first | exact wcs_nonempty_default | decide
  wcs_nodup : wcsCodes.Nodup := by first | exact wcs_nodup_default | decide

theorem margins_default : (0 : Int) ≤ 10000 ∧ (0 : Int) ≤ 6000 := by decide

theorem authority_default : isCanonicalText "UNSPECIFIED_UNVERIFIED_INPUT" = true := by
  decide +kernel

structure StockSheet where
  stockId : String
  materialId : String
  materialVersion : String
  widthUm : Int
  heightUm : Int
  thicknessUm : Int
  quantity : Nat := 1
  marginUm : Int := 10000
  kerfUm : Int := 6000
  grainDirection : String := "X"
  allowRotation : Bool := true
  defectZones : List Rect := []
  clampZones : List Rect := []
  declarationAuthority : String := "UNSPECIFIED_UNVERIFIED_INPUT"
  dims_pos : 0 < widthUm ∧ 0 < heightUm ∧ 0 < thicknessUm ∧ 1 ≤ quantity := by decide
  margins_nonneg : 0 ≤ marginUm ∧ 0 ≤ kerfUm := by first | exact margins_default | decide
  authority_canonical : isCanonicalText declarationAuthority = true := by
    first | exact authority_default | decide +kernel
  margin_lt : marginUm * 2 < min widthUm heightUm := by decide

/-- The sheet without its margins. -/
def StockSheet.usableRect (s : StockSheet) : Rect :=
  ⟨s.marginUm, s.marginUm, s.widthUm - 2 * s.marginUm, s.heightUm - 2 * s.marginUm⟩

structure Placement where
  instanceId : String
  partId : String
  stockId : String
  sheetIndex : Int
  xUm : Int
  yUm : Int
  widthUm : Int
  heightUm : Int
  rotated90 : Bool
deriving DecidableEq

def Placement.rect (p : Placement) : Rect := ⟨p.xUm, p.yUm, p.widthUm, p.heightUm⟩

structure NestingLayout where
  stock : StockSheet
  placements : List Placement
  unplacedInstanceIds : List String := []
  usedSheetCount : Int := 1
  utilizationPpm : Int := 0
  algorithm : String := "deterministic-bottom-left-v2"

/-! ## Setups and operations -/

structure Setup where
  setupId : String
  stockId : String
  materialId : String
  materialVersion : String
  sheetIndex : Int
  side : Side
  wcs : Wcs
  origin : Point2D
  stockWidthUm : Int
  stockHeightUm : Int
  stockThicknessUm : Int
  safeZUm : Int
  referenceSurface : String
  orientation : String
  fixture : String
  keepOutZones : List Rect
  toolIds : List String
  probeMethod : String
  operatorSteps : List String
deriving DecidableEq

structure CAMOperation where
  operationId : String
  setupId : String
  partId : String
  instanceId : String
  featureId : String
  kind : OperationKind
  side : Side
  toolId : String
  xUm : Int
  yUm : Int
  depthUm : Int
  diameterUm : Option Int := none
  widthUm : Option Int := none
  lengthUm : Option Int := none
  cutterEnvelopeXUm : Option Int := none
  cutterEnvelopeYUm : Option Int := none
  cutterEnvelopeWidthUm : Option Int := none
  cutterEnvelopeLengthUm : Option Int := none
  stepdownUm : Option Int := none
  stepoverPpm : Option Int := none
  through : Bool := false
  sourceRotation90 : Bool := false
  compensation : Option String := none
  holdingStrategy : Option String := none
  cornerStrategy : Option CornerStrategy := none
  cornerReliefRadiusUm : Option Int := none
  openEndReliefs : List SourceEdge := []
  toleranceUm : Int := 0
  fitClearanceUm : Int := 0
deriving DecidableEq

structure OperationsDocument where
  schemaVersion : String
  designHash : String
  machineProfileId : String
  machineProfileVersion : String
  setups : List Setup
  operations : List CAMOperation
  mode : String := "VALIDATION"
  toolCatalogVersion : String := "unversioned"
  toolCatalogFingerprint : String := ""
  tools : List ToolSpec := []

end Custombuild.Manufacturing
