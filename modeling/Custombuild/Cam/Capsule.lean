/-
  The exact clearance of a segment from a rectangle.  The planner and the verifier each decide on
  integers whether the capsule of a radius around a segment touches a rectangle; both decide
  exactly whether the distance of the real segment from the closed rectangle is at most the radius.
  Source: `custombuild_cam.toolpaths`, `custombuild_cam.production_verification`.
-/
import Custombuild.Cam.Planar
import Custombuild.Lib.Segments

namespace Custombuild.Cam

open Custombuild.Lib Custombuild.Manufacturing

/-! ## The predicates of the verifier -/

namespace Verification

/-- `_segments_touch`. -/
def segmentsTouch (a b c d : Int × Int) : Bool :=
  let firstA := orientation a b c
  let firstB := orientation a b d
  let secondA := orientation c d a
  let secondB := orientation c d b
  (firstA = 0 && pointOnSegment c a b)
    || (firstB = 0 && pointOnSegment d a b)
    || (secondA = 0 && pointOnSegment a c d)
    || (secondB = 0 && pointOnSegment b c d)
    || (decide (firstA > 0) != decide (firstB > 0) && decide (secondA > 0) != decide (secondB > 0))

/-- `_segment_touches_rect`. -/
def segmentTouchesRect (start stop : Int × Int) (r : Rect) : Bool :=
  pointInRect start r || pointInRect stop r
    || (rectSides r).any fun edge => segmentsTouch start stop edge.1 edge.2

/-- `_point_within_segment_radius`. -/
def pointWithinSegmentRadius (point start stop : Int × Int) (radiusUm : Int) : Bool :=
  let dx := stop.1 - start.1
  let dy := stop.2 - start.2
  let lengthSquared := dx * dx + dy * dy
  if lengthSquared = 0 then (point.1 - start.1) ^ 2 + (point.2 - start.2) ^ 2 ≤ radiusUm ^ 2
  else
    let projection := (point.1 - start.1) * dx + (point.2 - start.2) * dy
    if projection ≤ 0 then (point.1 - start.1) ^ 2 + (point.2 - start.2) ^ 2 ≤ radiusUm ^ 2
    else if projection ≥ lengthSquared then
      (point.1 - stop.1) ^ 2 + (point.2 - stop.2) ^ 2 ≤ radiusUm ^ 2
    else
      let cross := dx * (point.2 - start.2) - dy * (point.1 - start.1)
      cross * cross ≤ radiusUm ^ 2 * lengthSquared

/-- `_segment_capsule_touches_rect`.  The verifier spells `_point_rect_distance_squared` as the
    planner does, with products for squares. -/
def segmentCapsuleTouchesRect (start stop : Int × Int) (radiusUm : Int) (r : Rect) : Bool :=
  segmentTouchesRect start stop r
    || pointRectDistanceSquared start r ≤ radiusUm ^ 2
    || pointRectDistanceSquared stop r ≤ radiusUm ^ 2
    || (rectCorners r).any fun corner => pointWithinSegmentRadius corner start stop radiusUm

theorem pointWithinSegmentRadius_eq (point start stop : Int × Int) (radiusUm : Int) :
    pointWithinSegmentRadius point start stop radiusUm =
      pointSegmentWithinRadius point start stop radiusUm := by
  have hcross : ∀ px py sx sy : Int,
      (sx * py - sy * px) * (sx * py - sy * px) = (px * sy - py * sx) ^ 2 := by
    intro px py sx sy
    ring
  unfold pointWithinSegmentRadius pointSegmentWithinRadius
  simp only [hcross, ← pow_two]

/-- The verifier and the planner agree. -/
theorem segmentCapsuleTouchesRect_eq (start stop : Int × Int) (radiusUm : Int) (r : Rect) :
    segmentCapsuleTouchesRect start stop radiusUm r =
      segmentRadiusTouchesRect start stop radiusUm r := by
  unfold segmentCapsuleTouchesRect segmentRadiusTouchesRect
  simp only [pointWithinSegmentRadius_eq]
  rfl

end Verification

/-! ## Integer points as real points -/

/-- The real point of integer coordinates. -/
def real (p : Int × Int) : ℝ × ℝ := (p.1, p.2)

/-- The corners of a rectangle with the least and the greatest coordinates. -/
def lowCorner (r : Rect) : ℝ × ℝ := real (r.xUm, r.yUm)

def highCorner (r : Rect) : ℝ × ℝ := real (r.rightUm, r.topUm)

/-- The Euclidean distance of the real segment from the closed rectangle. -/
noncomputable def segmentRectDistance (start stop : Int × Int) (r : Rect) : ℝ :=
  gap (segment ℝ (real start) (real stop)) (Set.Icc (lowCorner r) (highCorner r))

theorem turn_real (a b c : Int × Int) : turn (real a) (real b) (real c) = (orientation a b c : Int) := by
  simp only [turn, real, orientation]
  push_cast
  ring

theorem inBox_real {p a b : Int × Int} :
    InBox (real p) (real a) (real b) ↔ pointOnSegment p a b = true := by
  simp only [InBox, real, pointOnSegment, Bool.and_eq_true, decide_eq_true_eq, ← Int.cast_min,
    ← Int.cast_max, Int.cast_le, and_assoc]

theorem distSq_real (p q : Int × Int) :
    distSq (real p) (real q) = (((p.1 - q.1) ^ 2 + (p.2 - q.2) ^ 2 : Int) : ℝ) := by
  simp only [distSq, real]
  push_cast
  ring

theorem along_real (p a b : Int × Int) : along (real p) (real a) (real b) =
    (((p.1 - a.1) * (b.1 - a.1) + (p.2 - a.2) * (b.2 - a.2) : Int) : ℝ) := by
  simp only [along, real]
  push_cast
  ring

/-- The test of two segments is exact. -/
theorem segmentsTouchOrCross_iff (a b c d : Int × Int) :
    segmentsTouchOrCross a b c d = true ↔ Meet (real a) (real b) (real c) (real d) := by
  rw [meet_iff]
  simp only [EndOnOther, turn_real, inBox_real, Int.cast_eq_zero, Int.cast_pos,
    segmentsTouchOrCross, Bool.or_eq_true, Bool.and_eq_true, decide_eq_true_eq, bne_iff_ne, ne_eq,
    decide_eq_decide, eq_iff_iff, gt_iff_lt, or_assoc]

/-! ## The rectangle -/

theorem box_real {p : Int × Int} {r : Rect} :
    Box (lowCorner r) (highCorner r) (real p) ↔ pointInRect p r = true := by
  simp only [Box, lowCorner, highCorner, real, pointInRect, Bool.and_eq_true, decide_eq_true_eq,
    Int.cast_le, and_assoc]

theorem mem_rectCorners {r : Rect} {c : Int × Int} : c ∈ rectCorners r ↔
    c = (r.xUm, r.yUm) ∨ c = (r.rightUm, r.yUm) ∨ c = (r.rightUm, r.topUm) ∨ c = (r.xUm, r.topUm) := by
  simp [rectCorners]

theorem corner_iff {r : Rect} {c : ℝ × ℝ} : Corner (lowCorner r) (highCorner r) c ↔
    ∃ corner ∈ rectCorners r, real corner = c := by
  constructor
  · rintro ⟨hx | hx, hy | hy⟩
    · exact ⟨(r.xUm, r.yUm), by simp [rectCorners], Prod.ext hx.symm hy.symm⟩
    · exact ⟨(r.xUm, r.topUm), by simp [rectCorners], Prod.ext hx.symm hy.symm⟩
    · exact ⟨(r.rightUm, r.yUm), by simp [rectCorners], Prod.ext hx.symm hy.symm⟩
    · exact ⟨(r.rightUm, r.topUm), by simp [rectCorners], Prod.ext hx.symm hy.symm⟩
  · rintro ⟨corner, hcorner, rfl⟩
    rcases mem_rectCorners.mp hcorner with rfl | rfl | rfl | rfl
    · exact ⟨Or.inl rfl, Or.inl rfl⟩
    · exact ⟨Or.inr rfl, Or.inl rfl⟩
    · exact ⟨Or.inr rfl, Or.inr rfl⟩
    · exact ⟨Or.inl rfl, Or.inr rfl⟩

theorem mem_rectSides {r : Rect} {side : (Int × Int) × (Int × Int)} : side ∈ rectSides r ↔
    side = ((r.xUm, r.yUm), (r.rightUm, r.yUm)) ∨ side = ((r.rightUm, r.yUm), (r.rightUm, r.topUm)) ∨
      side = ((r.rightUm, r.topUm), (r.xUm, r.topUm)) ∨ side = ((r.xUm, r.topUm), (r.xUm, r.yUm)) := by
  simp [rectSides, rectCorners]

section Rectangle

variable {r : Rect} (hwidth : 0 ≤ r.widthUm) (hheight : 0 ≤ r.heightUm)

include hwidth in
theorem low_le_high_x : (lowCorner r).1 ≤ (highCorner r).1 := by
  simp only [lowCorner, highCorner, real, Rect.rightUm, Int.cast_le]
  omega

include hheight in
theorem low_le_high_y : (lowCorner r).2 ≤ (highCorner r).2 := by
  simp only [lowCorner, highCorner, real, Rect.topUm, Int.cast_le]
  omega

include hwidth hheight

/-- A corner of the rectangle is in it. -/
theorem box_corner {corner : Int × Int} (h : corner ∈ rectCorners r) :
    Box (lowCorner r) (highCorner r) (real corner) := by
  have hcorner : Corner (lowCorner r) (highCorner r) (real corner) :=
    corner_iff.mpr ⟨corner, h, rfl⟩
  exact hcorner.box (low_le_high_x hwidth) (low_le_high_y hheight)

/-- The sides are in the rectangle. -/
theorem box_side {side : (Int × Int) × (Int × Int)} (hside : side ∈ rectSides r) {s : ℝ}
    (h₀ : 0 ≤ s) (h₁ : s ≤ 1) :
    Box (lowCorner r) (highCorner r) (walk (real side.1) (real side.2) s) := by
  have hcorners : side.1 ∈ rectCorners r ∧ side.2 ∈ rectCorners r := by
    rcases mem_rectSides.mp hside with rfl | rfl | rfl | rfl
    · exact ⟨by simp [rectCorners], by simp [rectCorners]⟩
    · exact ⟨by simp [rectCorners], by simp [rectCorners]⟩
    · exact ⟨by simp [rectCorners], by simp [rectCorners]⟩
    · exact ⟨by simp [rectCorners], by simp [rectCorners]⟩
  have hfirst := box_corner hwidth hheight hcorners.1
  have hsecond := box_corner hwidth hheight hcorners.2
  constructor
  · apply lerp_between h₀ h₁
    · rw [lerp_zero]
      exact hfirst.1
    · rw [lerp_one]
      exact hsecond.1
  · apply lerp_between h₀ h₁
    · rw [lerp_zero]
      exact hfirst.2
    · rw [lerp_one]
      exact hsecond.2

/-- The edge of the rectangle is made of its sides. -/
theorem exists_side_of_edge {p : ℝ × ℝ} (h : OnEdge (lowCorner r) (highCorner r) p) :
    ∃ side ∈ rectSides r, ∃ s, 0 ≤ s ∧ s ≤ 1 ∧ walk (real side.1) (real side.2) s = p := by
  have hx := low_le_high_x hwidth
  have hy := low_le_high_y hheight
  obtain ⟨hbox, hedge⟩ := h
  have hfound : ∃ side ∈ rectSides r, turn (real side.1) (real side.2) p = 0 ∧
      InBox p (real side.1) (real side.2) := by
    rcases hedge with hp | hp | hp | hp
    · refine ⟨((r.xUm, r.topUm), (r.xUm, r.yUm)), by simp [rectSides, rectCorners], ?_, ?_⟩
      · show turn (lowCorner r |>.1, highCorner r |>.2) (lowCorner r) p = 0
        simp only [turn, hp]
        ring
      · show InBox p (lowCorner r |>.1, highCorner r |>.2) (lowCorner r)
        simp only [InBox, min_self, max_self, min_eq_right hy, max_eq_left hy]
        exact ⟨⟨hp.ge, hp.le⟩, hbox.2⟩
    · refine ⟨((r.rightUm, r.yUm), (r.rightUm, r.topUm)), by simp [rectSides, rectCorners], ?_, ?_⟩
      · show turn (highCorner r |>.1, lowCorner r |>.2) (highCorner r) p = 0
        simp only [turn, hp]
        ring
      · show InBox p (highCorner r |>.1, lowCorner r |>.2) (highCorner r)
        simp only [InBox, min_self, max_self, min_eq_left hy, max_eq_right hy]
        exact ⟨⟨hp.ge, hp.le⟩, hbox.2⟩
    · refine ⟨((r.xUm, r.yUm), (r.rightUm, r.yUm)), by simp [rectSides, rectCorners], ?_, ?_⟩
      · show turn (lowCorner r) (highCorner r |>.1, lowCorner r |>.2) p = 0
        simp only [turn, hp]
        ring
      · show InBox p (lowCorner r) (highCorner r |>.1, lowCorner r |>.2)
        simp only [InBox, min_self, max_self, min_eq_left hx, max_eq_right hx]
        exact ⟨hbox.1, ⟨hp.ge, hp.le⟩⟩
    · refine ⟨((r.rightUm, r.topUm), (r.xUm, r.topUm)), by simp [rectSides, rectCorners], ?_, ?_⟩
      · show turn (highCorner r) (lowCorner r |>.1, highCorner r |>.2) p = 0
        simp only [turn, hp]
        ring
      · show InBox p (highCorner r) (lowCorner r |>.1, highCorner r |>.2)
        simp only [InBox, min_self, max_self, min_eq_right hx, max_eq_left hx]
        exact ⟨hbox.1, ⟨hp.ge, hp.le⟩⟩
  obtain ⟨side, hside, hturn, hin⟩ := hfound
  exact ⟨side, hside, exists_walk_of_turn hturn hin⟩

/-- The intersection test is exact. -/
theorem segmentIntersectsRect_iff (start stop : Int × Int) : segmentIntersectsRect start stop r = true ↔
    ∃ t, 0 ≤ t ∧ t ≤ 1 ∧ Box (lowCorner r) (highCorner r) (walk (real start) (real stop) t) := by
  rw [segmentIntersectsRect, Bool.or_eq_true, Bool.or_eq_true, List.any_eq_true, or_assoc]
  constructor
  · intro h
    rcases h with h | h | ⟨side, hside, h⟩
    · refine ⟨0, le_rfl, zero_le_one, ?_⟩
      simpa [walk] using box_real.mpr h
    · refine ⟨1, zero_le_one, le_rfl, ?_⟩
      simpa [walk] using box_real.mpr h
    · obtain ⟨t, s, ht₀, ht₁, hs₀, hs₁, heq⟩ := (segmentsTouchOrCross_iff _ _ _ _).mp h
      refine ⟨t, ht₀, ht₁, ?_⟩
      rw [heq]
      exact box_side hwidth hheight hside hs₀ hs₁
  · rintro ⟨t, h₀, h₁, h⟩
    rcases start_or_edge h₀ h with hstart | ⟨s, hs₀, hst, hedge⟩
    · exact Or.inl (box_real.mp hstart)
    · obtain ⟨side, hside, u, hu₀, hu₁, heq⟩ := exists_side_of_edge hwidth hheight hedge
      refine Or.inr (Or.inr ⟨side, hside, (segmentsTouchOrCross_iff _ _ _ _).mpr ?_⟩)
      exact ⟨s, u, hs₀, hst.trans h₁, hu₀, hu₁, heq.symm⟩

end Rectangle

/-! ## Distances -/

/-- A corner is close to the segment exactly where the planner says so. -/
theorem pointSegmentWithinRadius_iff (point start stop : Int × Int) (radiusUm : Int) :
    pointSegmentWithinRadius point start stop radiusUm = true ↔
      ∃ t, 0 ≤ t ∧ t ≤ 1 ∧
        distSq (walk (real start) (real stop) t) (real point) ≤ (radiusUm : ℝ) ^ 2 := by
  have hradius : (radiusUm : ℝ) ^ 2 = ((radiusUm ^ 2 : Int) : ℝ) := by push_cast; rfl
  have hturn : turn (real start) (real stop) (real point) ^ 2 =
      ((((point.1 - start.1) * (stop.2 - start.2) - (point.2 - start.2) * (stop.1 - start.1)) ^ 2 :
        Int) : ℝ) := by
    simp only [turn, real]
    push_cast
    ring
  rw [pointSegmentWithinRadius]
  simp only
  split
  · next hzero =>
    -- both ends are one point
    have hx : stop.1 - start.1 = 0 := by nlinarith [sq_nonneg (stop.1 - start.1), sq_nonneg (stop.2 - start.2)]
    have hy : stop.2 - start.2 = 0 := by nlinarith [sq_nonneg (stop.1 - start.1), sq_nonneg (stop.2 - start.2)]
    rw [near_start (by rw [along_real, hx, hy]; simp), distSq_real, hradius, Int.cast_le,
      decide_eq_true_eq]
  · split
    · next hbefore =>
      rw [near_start (by rw [along_real]; exact_mod_cast hbefore), distSq_real, hradius,
        Int.cast_le, decide_eq_true_eq]
    · split
      · next hbeyond =>
        rw [near_end (by rw [along_real, distSq_real]; exact_mod_cast hbeyond), distSq_real, hradius,
          Int.cast_le, decide_eq_true_eq]
      · next hafter hwithin =>
        rw [near_foot (by rw [along_real]; exact_mod_cast not_le.mp hafter)
          (by rw [along_real, distSq_real]; exact_mod_cast not_le.mp hwithin), hturn, distSq_real,
          hradius, decide_eq_true_eq]
        exact_mod_cast Iff.rfl

/-- The nearest number of an interval, and how far it is. -/
theorem exists_nearest {lo hi : Int} (p : Int) (h : lo ≤ hi) : ∃ q, lo ≤ q ∧ q ≤ hi ∧
    (p - q) ^ 2 = (max (max (lo - p) 0) (p - hi)) ^ 2 ∧
    ∀ x : ℝ, lo ≤ x → x ≤ hi → ((p : ℝ) - q) ^ 2 ≤ (p - x) ^ 2 := by
  by_cases hlo : p < lo
  · refine ⟨lo, le_rfl, h, ?_, ?_⟩
    · rw [show max (max (lo - p) 0) (p - hi) = lo - p by omega]
      ring
    · intro x hx _
      have hcast : (p : ℝ) < lo := by exact_mod_cast hlo
      nlinarith
  · by_cases hhi : hi < p
    · refine ⟨hi, h, le_rfl, ?_, ?_⟩
      · rw [show max (max (lo - p) 0) (p - hi) = p - hi by omega]
      · intro x _ hx
        have hcast : (hi : ℝ) < p := by exact_mod_cast hhi
        nlinarith
    · refine ⟨p, by omega, by omega, ?_, ?_⟩
      · rw [show max (max (lo - p) 0) (p - hi) = 0 by omega]
        ring
      · intro x _ _
        rw [sub_self, zero_pow two_ne_zero]
        exact sq_nonneg _

/-- A point is close to the rectangle exactly where its squared distance says so. -/
theorem pointRectDistanceSquared_le_iff {r : Rect} (hwidth : 0 ≤ r.widthUm)
    (hheight : 0 ≤ r.heightUm) (p : Int × Int) (radiusUm : Int) :
    pointRectDistanceSquared p r ≤ radiusUm ^ 2 ↔
      ∃ q, Box (lowCorner r) (highCorner r) q ∧ distSq (real p) q ≤ (radiusUm : ℝ) ^ 2 := by
  have hright : r.xUm ≤ r.rightUm := by
    unfold Rect.rightUm
    omega
  have htop : r.yUm ≤ r.topUm := by
    unfold Rect.topUm
    omega
  obtain ⟨qx, hxlo, hxhi, hdx, hxmin⟩ := exists_nearest p.1 hright
  obtain ⟨qy, hylo, hyhi, hdy, hymin⟩ := exists_nearest p.2 htop
  have hvalue : pointRectDistanceSquared p r = (p.1 - qx) ^ 2 + (p.2 - qy) ^ 2 := by
    rw [hdx, hdy]
    rfl
  have hcast : (pointRectDistanceSquared p r : ℝ) = (p.1 - qx : ℝ) ^ 2 + (p.2 - qy : ℝ) ^ 2 := by
    rw [hvalue]
    push_cast
    rfl
  have hiff : pointRectDistanceSquared p r ≤ radiusUm ^ 2 ↔
      (pointRectDistanceSquared p r : ℝ) ≤ (radiusUm : ℝ) ^ 2 := by
    rw [← Int.cast_pow, Int.cast_le]
  rw [hiff, hcast]
  constructor
  · intro h
    refine ⟨real (qx, qy), ⟨⟨?_, ?_⟩, ?_, ?_⟩, h⟩
    · exact Int.cast_le.mpr hxlo
    · exact Int.cast_le.mpr hxhi
    · exact Int.cast_le.mpr hylo
    · exact Int.cast_le.mpr hyhi
  · rintro ⟨q, hq, h⟩
    refine le_trans ?_ h
    exact add_le_add (hxmin q.1 hq.1.1 hq.1.2) (hymin q.2 hq.2.1 hq.2.2)

/-- The planner and the verifier decide exactly whether the distance of the segment from the
    rectangle is at most the radius; rectangles without area and segments without length
    included. -/
theorem segmentRadiusTouchesRect_exact (start stop : Int × Int) (radiusUm : Int) (r : Rect)
    (hradius : 0 ≤ radiusUm) (hwidth : 0 ≤ r.widthUm) (hheight : 0 ≤ r.heightUm) :
    (segmentRadiusTouchesRect start stop radiusUm r = true ↔
        segmentRectDistance start stop r ≤ radiusUm) ∧
      (Verification.segmentCapsuleTouchesRect start stop radiusUm r = true ↔
        segmentRectDistance start stop r ≤ radiusUm) ∧
      Verification.segmentCapsuleTouchesRect start stop radiusUm r =
        segmentRadiusTouchesRect start stop radiusUm r := by
  have hexact : segmentRadiusTouchesRect start stop radiusUm r = true ↔
      segmentRectDistance start stop r ≤ radiusUm := by
    have hcast : (0 : ℝ) ≤ radiusUm := by exact_mod_cast hradius
    rw [segmentRectDistance, gap_segment_box_le_iff (low_le_high_x hwidth) (low_le_high_y hheight)
      hcast, Close, ← segmentIntersectsRect_iff hwidth hheight,
      ← pointRectDistanceSquared_le_iff hwidth hheight,
      ← pointRectDistanceSquared_le_iff hwidth hheight, segmentRadiusTouchesRect, Bool.or_eq_true,
      Bool.or_eq_true, Bool.or_eq_true, decide_eq_true_eq, decide_eq_true_eq, List.any_eq_true,
      or_assoc, or_assoc]
    have hcorners : (∃ corner ∈ rectCorners r,
          pointSegmentWithinRadius corner start stop radiusUm = true) ↔
        ∃ c, Corner (lowCorner r) (highCorner r) c ∧ ∃ t, 0 ≤ t ∧ t ≤ 1 ∧
          distSq (walk (real start) (real stop) t) c ≤ (radiusUm : ℝ) ^ 2 := by
      constructor
      · rintro ⟨corner, hcorner, h⟩
        exact ⟨real corner, corner_iff.mpr ⟨corner, hcorner, rfl⟩,
          (pointSegmentWithinRadius_iff _ _ _ _).mp h⟩
      · rintro ⟨c, hc, h⟩
        obtain ⟨corner, hcorner, rfl⟩ := corner_iff.mp hc
        exact ⟨corner, hcorner, (pointSegmentWithinRadius_iff _ _ _ _).mpr h⟩
    rw [hcorners]
  refine ⟨hexact, ?_, Verification.segmentCapsuleTouchesRect_eq start stop radiusUm r⟩
  rw [Verification.segmentCapsuleTouchesRect_eq]
  exact hexact

/-- A point that is as far from a degenerate rectangle as the radius. -/
theorem segmentRadiusTouchesRect_point :
    (0 : Int) ≤ 5 ∧ segmentRectDistance (0, 0) (0, 0) ⟨3, 4, 0, 0⟩ ≤ (5 : Int) := by
  refine ⟨by decide, ?_⟩
  exact (segmentRadiusTouchesRect_exact (0, 0) (0, 0) 5 ⟨3, 4, 0, 0⟩ (by decide) (by decide)
    (by decide)).1.mp (by decide)

end Custombuild.Cam
