/-
  The exact planar predicates of the planner: rectangles that touch or overlap, and the
  capsule around a segment against a rectangle.  All of it is integer arithmetic on
  micrometre coordinates.  Source: `custombuild_cam.toolpaths`.
-/
import Mathlib.Algebra.Group.Int.Defs
import Custombuild.Manufacturing.Model

namespace Custombuild.Cam

open Custombuild.Manufacturing

/-- `_rects_touch_or_overlap`. -/
def rectsTouchOrOverlap (first second : Rect) : Bool :=
  !(first.rightUm < second.xUm || second.rightUm < first.xUm
    || first.topUm < second.yUm || second.topUm < first.yUm)

/-- `_orientation`. -/
def orientation (start stop point : Int × Int) : Int :=
  (stop.1 - start.1) * (point.2 - start.2) - (stop.2 - start.2) * (point.1 - start.1)

/-- `_point_on_segment`: the point lies in the bounding box of the segment. -/
def pointOnSegment (point start stop : Int × Int) : Bool :=
  min start.1 stop.1 ≤ point.1 && point.1 ≤ max start.1 stop.1
    && min start.2 stop.2 ≤ point.2 && point.2 ≤ max start.2 stop.2

/-- `_point_in_rect`. -/
def pointInRect (point : Int × Int) (r : Rect) : Bool :=
  r.xUm ≤ point.1 && point.1 ≤ r.rightUm && r.yUm ≤ point.2 && point.2 ≤ r.topUm

/-- `_segments_touch_or_cross`. -/
def segmentsTouchOrCross (a b c d : Int × Int) : Bool :=
  let first := orientation a b c
  let second := orientation a b d
  let third := orientation c d a
  let fourth := orientation c d b
  (first = 0 && pointOnSegment c a b)
    || (second = 0 && pointOnSegment d a b)
    || (third = 0 && pointOnSegment a c d)
    || (fourth = 0 && pointOnSegment b c d)
    || (decide (first > 0) != decide (second > 0) && decide (third > 0) != decide (fourth > 0))

/-- The corners of a rectangle, counter-clockwise. -/
def rectCorners (r : Rect) : List (Int × Int) :=
  [(r.xUm, r.yUm), (r.rightUm, r.yUm), (r.rightUm, r.topUm), (r.xUm, r.topUm)]

/-- The four sides of a rectangle as segments. -/
def rectSides (r : Rect) : List ((Int × Int) × (Int × Int)) :=
  (rectCorners r).zip ((rectCorners r).tail ++ [(r.xUm, r.yUm)])

/-- `_segment_intersects_rect`. -/
def segmentIntersectsRect (start stop : Int × Int) (r : Rect) : Bool :=
  pointInRect start r || pointInRect stop r
    || (rectSides r).any fun s => segmentsTouchOrCross start stop s.1 s.2

/-- `_point_rect_distance_squared`. -/
def pointRectDistanceSquared (point : Int × Int) (r : Rect) : Int :=
  let dx := max (max (r.xUm - point.1) 0) (point.1 - r.rightUm)
  let dy := max (max (r.yUm - point.2) 0) (point.2 - r.topUm)
  dx ^ 2 + dy ^ 2

/-- `_point_segment_within_radius`. -/
def pointSegmentWithinRadius (point start stop : Int × Int) (radiusUm : Int) : Bool :=
  let sx := stop.1 - start.1
  let sy := stop.2 - start.2
  let px := point.1 - start.1
  let py := point.2 - start.2
  let lengthSquared := sx ^ 2 + sy ^ 2
  if lengthSquared = 0 then px ^ 2 + py ^ 2 ≤ radiusUm ^ 2
  else
    let projection := px * sx + py * sy
    if projection ≤ 0 then px ^ 2 + py ^ 2 ≤ radiusUm ^ 2
    else if projection ≥ lengthSquared then
      (point.1 - stop.1) ^ 2 + (point.2 - stop.2) ^ 2 ≤ radiusUm ^ 2
    else (px * sy - py * sx) ^ 2 ≤ radiusUm ^ 2 * lengthSquared

/-- `_segment_radius_touches_rect`: the capsule of the given radius around the segment
    touches the rectangle. -/
def segmentRadiusTouchesRect (start stop : Int × Int) (radiusUm : Int) (r : Rect) : Bool :=
  segmentIntersectsRect start stop r
    || pointRectDistanceSquared start r ≤ radiusUm ^ 2
    || pointRectDistanceSquared stop r ≤ radiusUm ^ 2
    || (rectCorners r).any fun c => pointSegmentWithinRadius c start stop radiusUm

end Custombuild.Cam
