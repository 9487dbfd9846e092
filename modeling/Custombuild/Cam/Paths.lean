/-
  The planner's path geometry: depth levels, raster lanes, the inside contour and the
  outside contour with rounded corners and holding tabs.  Corner arcs use a fixed table of
  sines in parts per million, so that every coordinate is an integer.
  Source: `custombuild_cam.toolpaths`.
-/
import Custombuild.Cam.ProductionModel
import Custombuild.Lib.PyRange

namespace Custombuild.Cam

open Custombuild.Lib Custombuild.Manufacturing

/-! ## Depth levels and raster lanes -/

/-- `depth_levels_um`: negative levels, one stepdown apart, ending at the depth. -/
def depthLevelsUm (depthUm stepdownUm : Int) : Except String (List Int) := do
  require (0 < depthUm) "depth_um must be a positive integer"
  require (0 < stepdownUm) "stepdown_um must be a positive integer"
  return (pyRange stepdownUm (depthUm + stepdownUm) stepdownUm).map fun level =>
    -min level depthUm

/-- `_inclusive_lanes`. -/
def inclusiveLanes (minimumUm maximumUm stepUm : Int) : List Int :=
  let values := pyRange minimumUm (maximumUm + 1) stepUm
  if values.getLast? = some maximumUm then values else values ++ [maximumUm]

/-- Lane endpoints, turned around on every second lane. -/
def alternating (lanes : List ((Int × Int) × (Int × Int))) :
    List ((Int × Int) × (Int × Int)) :=
  lanes.zipIdx.map fun l => if l.2 % 2 = 0 then l.1 else (l.1.2, l.1.1)

/-- `_raster_lines`: lanes along the longer direction of the rectangle. -/
def rasterLines (left right bottom top stepoverUm : Int) :
    Except String (List ((Int × Int) × (Int × Int))) := do
  require (!(right < left || top < bottom)) "cutter does not fit rectangular area"
  if right - left ≥ top - bottom then
    return alternating ((inclusiveLanes bottom top stepoverUm).map fun y =>
      ((left, y), (right, y)))
  else
    return alternating ((inclusiveLanes left right stepoverUm).map fun x =>
      ((x, bottom), (x, top)))

/-! ## Contours -/

structure PathPoint where
  xUm : Int
  yUm : Int
  zUm : Int
  role : ProductionMoveRole
deriving DecidableEq

/-- `_QUARTER_CIRCLE_PPM`: cosine and sine at steps of 11.25 degrees. -/
def quarterCirclePpm : List (Int × Int) :=
  [(1000000, 0), (980785, 195090), (923880, 382683), (831470, 555570), (707107, 707107),
    (555570, 831470), (382683, 923880), (195090, 980785), (0, 1000000)]

/-- `_arc_offset_ppm`. -/
def arcOffsetPpm (cosine sine : Int) (quadrant : Nat) : Int × Int :=
  match quadrant with
  | 0 => (sine, -cosine)
  | 1 => (cosine, sine)
  | 2 => (-sine, cosine)
  | _ => (-cosine, -sine)

/-- A point of a rounded corner; Python's `//` rounds down. -/
def arcPoint (centreX centreY radiusUm : Int) (quadrant : Nat) (cs : Int × Int) : Int × Int :=
  let d := arcOffsetPpm cs.1 cs.2 quadrant
  (centreX + radiusUm * d.1 / 1000000, centreY + radiusUm * d.2 / 1000000)

/-- `_append_arc`: the corner's points, leaving out a point that repeats the last one. -/
def appendArc (path : List PathPoint) (centreX centreY radiusUm : Int) (quadrant : Nat)
    (depthZ : Int) : List PathPoint :=
  quarterCirclePpm.tail.foldl (fun path cs =>
    let p := arcPoint centreX centreY radiusUm quadrant cs
    if path.getLast?.map (fun q => (q.xUm, q.yUm)) = some p then path
    else path ++ [⟨p.1, p.2, depthZ, .cut⟩]) path

/-- The sign of an axis displacement as the source computes it. -/
def directionOf (d : Int) : Int := if d = 0 then 0 else if 0 < d then 1 else -1

/-- `_append_edge_with_optional_tab`: one straight edge, with a raised bridge in its middle
    when a tab is active. -/
def edgeWithOptionalTab (start stop : Int × Int) (depthZ : Int) (tabZ : Option Int)
    (tabWidthUm : Int) : List PathPoint :=
  match tabZ with
  | none => [⟨stop.1, stop.2, depthZ, .cut⟩]
  | some tabZ =>
    let dx := stop.1 - start.1
    let dy := stop.2 - start.2
    let edgeLength : Int := dx.natAbs + dy.natAbs
    let before := (edgeLength - tabWidthUm) / 2
    let after := before + tabWidthUm
    let tabStart := (start.1 + directionOf dx * before, start.2 + directionOf dy * before)
    let tabEnd := (start.1 + directionOf dx * after, start.2 + directionOf dy * after)
    [⟨tabStart.1, tabStart.2, depthZ, .cut⟩, ⟨tabStart.1, tabStart.2, tabZ, .tabRamp⟩,
      ⟨tabEnd.1, tabEnd.2, tabZ, .tabBridge⟩, ⟨tabEnd.1, tabEnd.2, depthZ, .tabRamp⟩,
      ⟨stop.1, stop.2, depthZ, .cut⟩]

/-- `_outside_contour_path`: one counter-clockwise lap at the cutter radius. -/
def outsideContourPath (nominal : Rect) (r depthZ : Int) (tabZ : Option Int)
    (tabWidthUm : Int) : List PathPoint :=
  let left := nominal.xUm
  let right := nominal.rightUm
  let bottom := nominal.yUm
  let top := nominal.topUm
  let path := [⟨left, bottom - r, depthZ, .cut⟩]
  let path := path ++ edgeWithOptionalTab (left, bottom - r) (right, bottom - r) depthZ tabZ
    tabWidthUm
  let path := appendArc path right bottom r 0 depthZ
  let path := path ++ edgeWithOptionalTab (right + r, bottom) (right + r, top) depthZ tabZ
    tabWidthUm
  let path := appendArc path right top r 1 depthZ
  let path := path ++ edgeWithOptionalTab (right, top + r) (left, top + r) depthZ tabZ tabWidthUm
  let path := appendArc path left top r 2 depthZ
  let path := path ++ edgeWithOptionalTab (left - r, top) (left - r, bottom) depthZ tabZ tabWidthUm
  appendArc path left bottom r 3 depthZ

/-- `_inside_contour_path`. -/
def insideContourPath (nominal : Rect) (r depthZ : Int) : List PathPoint :=
  let left := nominal.xUm + r
  let right := nominal.rightUm - r
  let bottom := nominal.yUm + r
  let top := nominal.topUm - r
  [⟨left, bottom, depthZ, .cut⟩, ⟨left, top, depthZ, .cut⟩, ⟨right, top, depthZ, .cut⟩,
    ⟨right, bottom, depthZ, .cut⟩, ⟨left, bottom, depthZ, .cut⟩]

/-! ## The declared interpolation error -/

/-- The rounded points of one corner arc about the origin, without repetitions. -/
def arcPolyline (r : Int) (quadrant : Nat) : List (Int × Int) :=
  let start := match quadrant with
    | 0 => (0, -r)
    | 1 => (r, 0)
    | 2 => (0, r)
    | _ => (-r, 0)
  quarterCirclePpm.tail.foldl (fun points cs =>
    let p := arcPoint 0 0 r quadrant cs
    if points.getLast? = some p then points else points ++ [p]) [start]

/-- Python's `isqrt`. -/
def isqrt (n : Int) : Int := (Nat.sqrt n.toNat : Nat)

/-- Radial error bound of one chord: outward at its ends, inward at its nearest point. -/
def chordErrorUm (r : Int) (first second : Int × Int) : Int :=
  let firstSquared := first.1 ^ 2 + first.2 ^ 2
  let secondSquared := second.1 ^ 2 + second.2 ^ 2
  let maximumSquared := max firstSquared secondSquared
  let maximumFloor := isqrt maximumSquared
  let maximumCeil := maximumFloor + if maximumFloor ^ 2 ≠ maximumSquared then 1 else 0
  let outward := max 0 (maximumCeil - r)
  let sx := second.1 - first.1
  let sy := second.2 - first.2
  let lengthSquared := sx ^ 2 + sy ^ 2
  let projection := -(first.1 * sx + first.2 * sy)
  let minimumFloor :=
    if 0 < projection ∧ projection < lengthSquared then
      isqrt ((first.1 * second.2 - first.2 * second.1) ^ 2 / lengthSquared)
    else isqrt (min firstSquared secondSquared)
  let inward := max 0 (r - minimumFloor)
  max outward inward

/-- `_outside_contour_interpolation_error_um`. -/
def outsideContourInterpolationErrorUm (radiusUm : Int) : Except String Int := do
  require (0 < radiusUm) "outside-contour radius must be positive"
  return ([0, 1, 2, 3].flatMap fun quadrant =>
      let points := arcPolyline radiusUm quadrant
      (points.zip points.tail).map fun c => chordErrorUm radiusUm c.1 c.2).foldl max 0

end Custombuild.Cam
