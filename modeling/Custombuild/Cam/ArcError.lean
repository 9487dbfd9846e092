/-
  The declared interpolation error of rounded corners.  The planner and the verifier compute one
  number from the chords of the corners about the origin; it bounds how far any real point of any
  chord is from the circle, for every radius.
  Source: `custombuild_cam.toolpaths`, `custombuild_cam.production_verification`.
-/
import Custombuild.Cam.Capsule
import Custombuild.Cam.Paths

namespace Custombuild.Cam

open Custombuild.Lib Custombuild.Manufacturing

/-! ## The verifier -/

namespace Verification

/-- `_CANONICAL_QUARTER_ARC_PPM`. -/
def canonicalQuarterArcPpm : List (Int × Int) :=
  [(1000000, 0), (980785, 195090), (923880, 382683), (831470, 555570), (707107, 707107),
    (555570, 831470), (382683, 923880), (195090, 980785), (0, 1000000)]

/-- `quarter_point`. -/
def quarterPoint (radiusUm cosine sine : Int) (quadrant : Nat) : Int × Int :=
  let ppm : Int × Int := match quadrant with
    | 0 => (sine, -cosine)
    | 1 => (cosine, sine)
    | 2 => (-sine, cosine)
    | _ => (-cosine, -sine)
  (radiusUm * ppm.1 / 1000000, radiusUm * ppm.2 / 1000000)

/-- The points of a quarter, without repetitions. -/
def canonicalPoints (radiusUm : Int) (quadrant : Nat) : List (Int × Int) :=
  canonicalQuarterArcPpm.foldl (fun points cs =>
    let point := quarterPoint radiusUm cs.1 cs.2 quadrant
    if points = [] ∨ points.getLast? ≠ some point then points ++ [point] else points) []

/-- `_canonical_contour_interpolation_error_um`; the errors of one chord are computed as the
    planner computes them. -/
def canonicalContourInterpolationErrorUm (radiusUm : Int) : Int :=
  if radiusUm ≤ 0 then radiusUm
  else
    ([0, 1, 2, 3].flatMap fun quadrant =>
      let points := canonicalPoints radiusUm quadrant
      (points.zip points.tail).map fun c => chordErrorUm radiusUm c.1 c.2).foldl max 0

theorem quarterPoint_eq (radiusUm : Int) (cs : Int × Int) (quadrant : Nat) :
    quarterPoint radiusUm cs.1 cs.2 quadrant = arcPoint 0 0 radiusUm quadrant cs := by
  unfold quarterPoint arcPoint arcOffsetPpm
  split <;> simp

/-- The verifier starts its list with the first point of the table, which is where the planner
    starts the arc. -/
theorem canonicalPoints_eq (radiusUm : Int) {quadrant : Nat} (h : quadrant < 4) :
    canonicalPoints radiusUm quadrant = arcPolyline radiusUm quadrant := by
  have hstep : ∀ (table : List (Int × Int)) (points : List (Int × Int)), points ≠ [] →
      table.foldl (fun points cs =>
          let point := quarterPoint radiusUm cs.1 cs.2 quadrant
          if points = [] ∨ points.getLast? ≠ some point then points ++ [point] else points) points =
        table.foldl (fun points cs =>
          let point := arcPoint 0 0 radiusUm quadrant cs
          if points.getLast? = some point then points else points ++ [point]) points := by
    intro table
    induction table with
    | nil =>
      intro points _
      rfl
    | cons cs table ih =>
      intro points hne
      simp only [List.foldl_cons, quarterPoint_eq, hne, false_or] at ih ⊢
      by_cases hlast : points.getLast? = some (arcPoint 0 0 radiusUm quadrant cs)
      · rw [if_neg (not_not.mpr hlast), if_pos hlast]
        exact ih points hne
      · rw [if_pos hlast, if_neg hlast]
        exact ih _ (List.append_ne_nil_of_right_ne_nil _ (List.cons_ne_nil _ _))
  have hstart : ∀ x : Int, x * 1000000 / 1000000 = x :=
    fun x => Int.mul_ediv_cancel x (by decide)
  have hback : ∀ x : Int, x * -1000000 / 1000000 = -x := by
    intro x
    rw [Int.mul_neg, ← Int.neg_mul]
    exact hstart (-x)
  unfold canonicalPoints arcPolyline
  rw [canonicalQuarterArcPpm, List.foldl_cons]
  rw [hstep _ _ (by simp)]
  have hquadrant : quadrant = 0 ∨ quadrant = 1 ∨ quadrant = 2 ∨ quadrant = 3 := by omega
  rcases hquadrant with rfl | rfl | rfl | rfl
  all_goals
    simp only [quarterPoint, hstart, hback, true_or, if_true, List.nil_append, Int.mul_zero,
      Int.neg_zero, Int.zero_ediv]
    rfl

end Verification

/-! ## Integer square roots -/

theorem isqrt_sq_le {n : Int} (h : 0 ≤ n) : isqrt n ^ 2 ≤ n := by
  have hle := Nat.sqrt_le' n.toNat
  unfold isqrt
  zify at hle
  rwa [Int.toNat_of_nonneg h] at hle

theorem lt_succ_isqrt_sq (n : Int) : n < (isqrt n + 1) ^ 2 := by
  have hlt := Nat.lt_succ_sqrt' n.toNat
  unfold isqrt
  zify at hlt
  exact (Int.self_le_toNat n).trans_lt hlt

theorem isqrt_nonneg (n : Int) : 0 ≤ isqrt n := Int.natCast_nonneg _

/-- The square root rounded up. -/
theorem le_ceil_isqrt_sq (n : Int) :
    n ≤ (isqrt n + if isqrt n ^ 2 ≠ n then 1 else 0) ^ 2 := by
  split
  · exact (lt_succ_isqrt_sq n).le
  · next hsquare =>
    rw [add_zero]
    exact (not_not.mp hsquare).ge

/-! ## One chord -/

/-- A point relative to a centre. -/
def shift (centre p : Int × Int) : Int × Int := (centre.1 + p.1, centre.2 + p.2)

theorem distSq_shift (centre first second : Int × Int) (t : ℝ) :
    distSq (walk (real (shift centre first)) (real (shift centre second)) t) (real centre) =
      distSq (walk (real first) (real second) t) (real (0, 0)) := by
  simp only [distSq, walk, lerp, real, shift]
  push_cast
  ring

section Chord

variable {first second : Int × Int} {t : ℝ}

theorem distSq_origin (p : Int × Int) :
    distSq (real p) (real (0, 0)) = ((p.1 ^ 2 + p.2 ^ 2 : Int) : ℝ) := by
  rw [distSq_real]
  simp

/-- The larger radius of the ends of a chord, rounded up. -/
def greatestRadius (first second : Int × Int) : Int :=
  let largest := max (first.1 ^ 2 + first.2 ^ 2) (second.1 ^ 2 + second.2 ^ 2)
  isqrt largest + if isqrt largest ^ 2 ≠ largest then 1 else 0

theorem greatestRadius_nonneg (first second : Int × Int) : 0 ≤ greatestRadius first second := by
  have hroot := isqrt_nonneg (max (first.1 ^ 2 + first.2 ^ 2) (second.1 ^ 2 + second.2 ^ 2))
  unfold greatestRadius
  simp only
  split <;> omega

/-- No point of the chord is farther. -/
theorem distSq_le_greatestRadius (h₀ : 0 ≤ t) (h₁ : t ≤ 1) :
    distSq (walk (real first) (real second) t) (real (0, 0)) ≤
      (greatestRadius first second : ℝ) ^ 2 := by
  have hends := distSq_walk_le (a := real first) (b := real second) (real (0, 0)) h₀ h₁
  rw [distSq_origin, distSq_origin, ← Int.cast_max] at hends
  refine hends.trans ?_
  have hceil : max (first.1 ^ 2 + first.2 ^ 2) (second.1 ^ 2 + second.2 ^ 2) ≤
      greatestRadius first second ^ 2 := le_ceil_isqrt_sq _
  exact_mod_cast hceil

/-- The square of the smallest radius that the code computes for a chord. -/
def leastRadiusSquared (first second : Int × Int) : Int :=
  let sx := second.1 - first.1
  let sy := second.2 - first.2
  if 0 < -(first.1 * sx + first.2 * sy) ∧ -(first.1 * sx + first.2 * sy) < sx ^ 2 + sy ^ 2 then
    (first.1 * second.2 - first.2 * second.1) ^ 2 / (sx ^ 2 + sy ^ 2)
  else min (first.1 ^ 2 + first.2 ^ 2) (second.1 ^ 2 + second.2 ^ 2)

theorem leastRadiusSquared_nonneg (first second : Int × Int) : 0 ≤ leastRadiusSquared first second := by
  unfold leastRadiusSquared
  simp only
  split
  · exact Int.ediv_nonneg (sq_nonneg _) (by positivity)
  · exact le_min (by positivity) (by positivity)

/-- No point of the chord is nearer than that. -/
theorem leastRadiusSquared_le (h₀ : 0 ≤ t) (h₁ : t ≤ 1) : (leastRadiusSquared first second : ℝ) ≤
    distSq (walk (real first) (real second) t) (real (0, 0)) := by
  have halong : along (real (0, 0)) (real first) (real second) =
      ((-(first.1 * (second.1 - first.1) + first.2 * (second.2 - first.2)) : Int) : ℝ) := by
    rw [along_real]
    congr 1
    ring
  have hlength : distSq (real second) (real first) =
      (((second.1 - first.1) ^ 2 + (second.2 - first.2) ^ 2 : Int) : ℝ) := distSq_real _ _
  have hself : ∃ s, 0 ≤ s ∧ s ≤ 1 ∧ distSq (walk (real first) (real second) s) (real (0, 0)) ≤
      distSq (walk (real first) (real second) t) (real (0, 0)) := ⟨t, h₀, h₁, le_rfl⟩
  unfold leastRadiusSquared
  simp only
  split
  · next hfoot =>
    -- the foot of the perpendicular is on the chord
    have hpos : (0 : Int) < (second.1 - first.1) ^ 2 + (second.2 - first.2) ^ 2 :=
      hfoot.1.trans hfoot.2
    have hposReal : (0 : ℝ) < distSq (real second) (real first) := by
      rw [hlength]
      exact_mod_cast hpos
    rw [near_foot (by rw [halong]; exact_mod_cast hfoot.1)
      (by rw [halong, hlength]; exact_mod_cast hfoot.2)] at hself
    have hturn : turn (real first) (real second) (real (0, 0)) ^ 2 =
        (((first.1 * second.2 - first.2 * second.1) ^ 2 : Int) : ℝ) := by
      simp only [turn, real]
      push_cast
      ring
    rw [hturn] at hself
    have hdiv : ((first.1 * second.2 - first.2 * second.1) ^ 2 /
          ((second.1 - first.1) ^ 2 + (second.2 - first.2) ^ 2)) *
        ((second.1 - first.1) ^ 2 + (second.2 - first.2) ^ 2) ≤
        (first.1 * second.2 - first.2 * second.1) ^ 2 :=
      Int.ediv_mul_le _ hpos.ne'
    have hcast : (((first.1 * second.2 - first.2 * second.1) ^ 2 /
          ((second.1 - first.1) ^ 2 + (second.2 - first.2) ^ 2) : Int) : ℝ) *
        distSq (real second) (real first) ≤
        (((first.1 * second.2 - first.2 * second.1) ^ 2 : Int) : ℝ) := by
      rw [hlength]
      exact_mod_cast hdiv
    exact le_of_mul_le_mul_right (hcast.trans hself) hposReal
  · next hfoot =>
    rw [Int.cast_min]
    by_cases hbefore : -(first.1 * (second.1 - first.1) + first.2 * (second.2 - first.2)) ≤ 0
    · rw [near_start (by rw [halong]; exact_mod_cast hbefore), distSq_real] at hself
      refine (min_le_left _ _).trans (le_trans (le_of_eq ?_) hself)
      simp
    · have hbeyond : (second.1 - first.1) ^ 2 + (second.2 - first.2) ^ 2 ≤
          -(first.1 * (second.1 - first.1) + first.2 * (second.2 - first.2)) := by
        by_contra hlt
        exact hfoot ⟨not_le.mp hbefore, not_le.mp hlt⟩
      rw [near_end (by rw [halong, hlength]; exact_mod_cast hbeyond), distSq_real] at hself
      refine (min_le_right _ _).trans (le_trans (le_of_eq ?_) hself)
      simp

theorem chordErrorUm_eq (radiusUm : Int) (first second : Int × Int) :
    chordErrorUm radiusUm first second = max (max 0 (greatestRadius first second - radiusUm))
      (max 0 (radiusUm - isqrt (leastRadiusSquared first second))) := by
  unfold chordErrorUm greatestRadius leastRadiusSquared
  simp only [apply_ite isqrt]

/-- The error of a chord bounds the distance of its points from the circle. -/
theorem chordErrorUm_bound (centre : Int × Int) (radiusUm : Int) (h₀ : 0 ≤ t) (h₁ : t ≤ 1) :
    |(radiusUm : ℝ) - distance (walk (real (shift centre first)) (real (shift centre second)) t)
      (real centre)| ≤ chordErrorUm radiusUm first second := by
  rw [distance, distSq_shift]
  have hupper := @distSq_le_greatestRadius first second t h₀ h₁
  have hlower := @leastRadiusSquared_le first second t h₀ h₁
  generalize distSq (walk (real first) (real second) t) (real (0, 0)) = d at hupper hlower
  have hgreatest : (0 : ℝ) ≤ greatestRadius first second := by
    exact_mod_cast greatestRadius_nonneg first second
  have hceil : √d ≤ greatestRadius first second := (Real.sqrt_le_left hgreatest).mpr hupper
  have hfloor : ((isqrt (leastRadiusSquared first second) : Int) : ℝ) ≤ √d := by
    apply Real.le_sqrt_of_sq_le
    refine le_trans ?_ hlower
    exact_mod_cast isqrt_sq_le (leastRadiusSquared_nonneg first second)
  have herror := chordErrorUm_eq radiusUm first second
  have houtward : ((greatestRadius first second - radiusUm : Int) : ℝ) ≤
      chordErrorUm radiusUm first second := by
    exact_mod_cast (by omega : greatestRadius first second - radiusUm ≤
      chordErrorUm radiusUm first second)
  have hinward : ((radiusUm - isqrt (leastRadiusSquared first second) : Int) : ℝ) ≤
      chordErrorUm radiusUm first second := by
    exact_mod_cast (by omega : radiusUm - isqrt (leastRadiusSquared first second) ≤
      chordErrorUm radiusUm first second)
  push_cast at houtward hinward
  rw [abs_le]
  constructor <;> linarith

end Chord

/-! ## The corners of a contour -/

/-- The point of a path at a place relative to a corner. -/
def pathPointAt (corner : Int × Int) (depthZ : Int) (p : Int × Int) : PathPoint :=
  ⟨corner.1 + p.1, corner.2 + p.2, depthZ, .cut⟩

/-- Where the arc of a quadrant begins. -/
def arcStart (r : Int) : Nat → Int × Int
  | 0 => (0, -r)
  | 1 => (r, 0)
  | 2 => (0, r)
  | _ => (-r, 0)

/-- The arc of a corner is the polyline about the origin, moved to the corner. -/
theorem appendArc_eq (before : List PathPoint) (corner : Int × Int) (r : Int) (quadrant : Nat)
    (depthZ : Int) :
    appendArc (before ++ [pathPointAt corner depthZ (arcStart r quadrant)]) corner.1 corner.2 r
        quadrant depthZ =
      before ++ (arcPolyline r quadrant).map (pathPointAt corner depthZ) := by
  have hshift : ∀ cs, arcPoint corner.1 corner.2 r quadrant cs =
      (corner.1 + (arcPoint 0 0 r quadrant cs).1, corner.2 + (arcPoint 0 0 r quadrant cs).2) := by
    intro cs
    simp [arcPoint]
  have hstep : ∀ (table points : List (Int × Int)), points ≠ [] →
      table.foldl (fun path cs =>
          let p := arcPoint corner.1 corner.2 r quadrant cs
          if path.getLast?.map (fun q => (q.xUm, q.yUm)) = some p then path
          else path ++ [⟨p.1, p.2, depthZ, .cut⟩])
        (before ++ points.map (pathPointAt corner depthZ)) =
      before ++ (table.foldl (fun points cs =>
          let p := arcPoint 0 0 r quadrant cs
          if points.getLast? = some p then points else points ++ [p]) points).map
        (pathPointAt corner depthZ) := by
    intro table
    induction table with
    | nil =>
      intro points _
      rfl
    | cons cs table ih =>
      intro points hne
      have hlast : ((before ++ points.map (pathPointAt corner depthZ)).getLast?.map
            fun q => (q.xUm, q.yUm)) = some (arcPoint corner.1 corner.2 r quadrant cs) ↔
          points.getLast? = some (arcPoint 0 0 r quadrant cs) := by
        rw [List.getLast?_append_of_ne_nil _ (by simpa using hne), List.getLast?_map,
          Option.map_map, hshift]
        cases points.getLast? with
        | none => simp
        | some q => simp [pathPointAt, Prod.ext_iff]
      simp only [List.foldl_cons]
      by_cases hsame : points.getLast? = some (arcPoint 0 0 r quadrant cs)
      · rw [if_pos (hlast.mpr hsame), if_pos hsame]
        exact ih points hne
      · rw [if_neg fun h => hsame (hlast.mp h), if_neg hsame, List.append_assoc, hshift]
        have hmap : points.map (pathPointAt corner depthZ) ++
            [⟨corner.1 + (arcPoint 0 0 r quadrant cs).1, corner.2 + (arcPoint 0 0 r quadrant cs).2,
              depthZ, .cut⟩] = (points ++ [arcPoint 0 0 r quadrant cs]).map
                (pathPointAt corner depthZ) := by
          rw [List.map_append]
          rfl
        rw [hmap]
        exact ih _ (List.append_ne_nil_of_right_ne_nil _ (List.cons_ne_nil _ _))
  have hpolyline : arcPolyline r quadrant = quarterCirclePpm.tail.foldl (fun points cs =>
      let p := arcPoint 0 0 r quadrant cs
      if points.getLast? = some p then points else points ++ [p]) [arcStart r quadrant] := rfl
  rw [hpolyline]
  exact hstep quarterCirclePpm.tail [arcStart r quadrant] (List.cons_ne_nil _ _)

/-- An edge ends at its stop, at the depth of the pass. -/
theorem edgeWithOptionalTab_last (start stop : Int × Int) (depthZ : Int) (tabZ : Option Int)
    (tabWidthUm : Int) : edgeWithOptionalTab start stop depthZ tabZ tabWidthUm =
      (edgeWithOptionalTab start stop depthZ tabZ tabWidthUm).dropLast ++
        [⟨stop.1, stop.2, depthZ, .cut⟩] := by
  cases tabZ <;> rfl

/-- The corners of a rectangle, in the order of the lap. -/
def lapCorner (nominal : Rect) : Nat → Int × Int
  | 0 => (nominal.rightUm, nominal.yUm)
  | 1 => (nominal.rightUm, nominal.topUm)
  | 2 => (nominal.xUm, nominal.topUm)
  | _ => (nominal.xUm, nominal.yUm)

/-- The rounded corner of a lap. -/
def cornerPath (nominal : Rect) (r depthZ : Int) (quadrant : Nat) : List PathPoint :=
  (arcPolyline r quadrant).map (pathPointAt (lapCorner nominal quadrant) depthZ)

/-- The straight part of a lap before the corner of a quadrant, without its end. -/
def edgePath (nominal : Rect) (r depthZ : Int) (tabZ : Option Int) (tabWidthUm : Int) :
    Nat → List PathPoint
  | 0 => (edgeWithOptionalTab (nominal.xUm, nominal.yUm - r) (nominal.rightUm, nominal.yUm - r)
      depthZ tabZ tabWidthUm).dropLast
  | 1 => (edgeWithOptionalTab (nominal.rightUm + r, nominal.yUm) (nominal.rightUm + r, nominal.topUm)
      depthZ tabZ tabWidthUm).dropLast
  | 2 => (edgeWithOptionalTab (nominal.rightUm, nominal.topUm + r) (nominal.xUm, nominal.topUm + r)
      depthZ tabZ tabWidthUm).dropLast
  | _ => (edgeWithOptionalTab (nominal.xUm - r, nominal.topUm) (nominal.xUm - r, nominal.yUm)
      depthZ tabZ tabWidthUm).dropLast

/-- A lap is four edges, each followed by a rounded corner. -/
theorem outsideContourPath_eq (nominal : Rect) (r depthZ : Int) (tabZ : Option Int)
    (tabWidthUm : Int) : outsideContourPath nominal r depthZ tabZ tabWidthUm =
      ⟨nominal.xUm, nominal.yUm - r, depthZ, .cut⟩ ::
        [0, 1, 2, 3].flatMap fun quadrant =>
          edgePath nominal r depthZ tabZ tabWidthUm quadrant ++
            cornerPath nominal r depthZ quadrant := by
  have hcorner : ∀ (before edge : List PathPoint) (stop corner : Int × Int) (quadrant : Nat),
      lapCorner nominal quadrant = corner →
      edge = edge.dropLast ++ [⟨stop.1, stop.2, depthZ, .cut⟩] →
      stop = shift corner (arcStart r quadrant) →
      appendArc (before ++ edge) corner.1 corner.2 r quadrant depthZ =
        before ++ (edge.dropLast ++ cornerPath nominal r depthZ quadrant) := by
    intro before edge stop corner quadrant hcorner hedge hstop
    subst hcorner hstop
    have harc := appendArc_eq (before ++ edge.dropLast) (lapCorner nominal quadrant) r quadrant depthZ
    rw [List.append_assoc, List.append_assoc] at harc
    conv_lhs => rw [hedge]
    exact harc
  unfold outsideContourPath
  simp only
  rw [hcorner _ _ (nominal.rightUm, nominal.yUm - r) (nominal.rightUm, nominal.yUm) 0 rfl
      (edgeWithOptionalTab_last _ _ _ _ _) (by simp [shift, arcStart, sub_eq_add_neg]),
    hcorner _ _ (nominal.rightUm + r, nominal.topUm) (nominal.rightUm, nominal.topUm) 1 rfl
      (edgeWithOptionalTab_last _ _ _ _ _) (by simp [shift, arcStart]),
    hcorner _ _ (nominal.xUm, nominal.topUm + r) (nominal.xUm, nominal.topUm) 2 rfl
      (edgeWithOptionalTab_last _ _ _ _ _) (by simp [shift, arcStart]),
    hcorner _ _ (nominal.xUm - r, nominal.yUm) (nominal.xUm, nominal.yUm) 3 rfl
      (edgeWithOptionalTab_last _ _ _ _ _) (by simp [shift, arcStart, sub_eq_add_neg])]
  simp [edgePath]

/-! ## The bound -/

/-- The errors of the chords of all corners. -/
def chordErrorsUm (radiusUm : Int) : List Int :=
  [0, 1, 2, 3].flatMap fun quadrant =>
    ((arcPolyline radiusUm quadrant).zip (arcPolyline radiusUm quadrant).tail).map fun c =>
      chordErrorUm radiusUm c.1 c.2

/-- The declared interpolation error is what the verifier computes, and it bounds how far any
    point of any chord of any corner is from the circle of the cutter. -/
theorem interpolation_error_bounds (radiusUm : Int) (hradius : 0 < radiusUm) :
    ∃ errorUm, outsideContourInterpolationErrorUm radiusUm = .ok errorUm ∧
      Verification.canonicalContourInterpolationErrorUm radiusUm = errorUm ∧
      ∀ (nominal : Rect) (depthZ : Int) (tabZ : Option Int) (tabWidthUm : Int),
        (outsideContourPath nominal radiusUm depthZ tabZ tabWidthUm =
          ⟨nominal.xUm, nominal.yUm - radiusUm, depthZ, .cut⟩ ::
            [0, 1, 2, 3].flatMap fun quadrant =>
              edgePath nominal radiusUm depthZ tabZ tabWidthUm quadrant ++
                cornerPath nominal radiusUm depthZ quadrant) ∧
        ∀ quadrant ∈ [0, 1, 2, 3], ∀ chord ∈ (cornerPath nominal radiusUm depthZ quadrant).zip
            (cornerPath nominal radiusUm depthZ quadrant).tail,
          ∀ p ∈ segment ℝ (real (chord.1.xUm, chord.1.yUm)) (real (chord.2.xUm, chord.2.yUm)),
            |(radiusUm : ℝ) - distance p (real (lapCorner nominal quadrant))| ≤ errorUm := by
  have hok : outsideContourInterpolationErrorUm radiusUm =
      .ok ((chordErrorsUm radiusUm).foldl max 0) := by
    rw [outsideContourInterpolationErrorUm, require, if_pos (decide_eq_true hradius)]
    rfl
  refine ⟨_, hok, ?_, ?_⟩
  · rw [Verification.canonicalContourInterpolationErrorUm, if_neg (not_le.mpr hradius)]
    simp only [chordErrorsUm, List.flatMap_cons, List.flatMap_nil, Verification.canonicalPoints_eq radiusUm (by decide : 0 < 4),
      Verification.canonicalPoints_eq radiusUm (by decide : 1 < 4),
      Verification.canonicalPoints_eq radiusUm (by decide : 2 < 4),
      Verification.canonicalPoints_eq radiusUm (by decide : 3 < 4)]
  · intro nominal depthZ tabZ tabWidthUm
    refine ⟨outsideContourPath_eq nominal radiusUm depthZ tabZ tabWidthUm, ?_⟩
    intro quadrant hquadrant chord hchord p hp
    rw [cornerPath, ← List.map_tail, List.zip_map] at hchord
    obtain ⟨⟨first, second⟩, hmem, rfl⟩ := List.mem_map.mp hchord
    obtain ⟨t, h₀, h₁, rfl⟩ := mem_segment_iff.mp hp
    refine (chordErrorUm_bound (lapCorner nominal quadrant) radiusUm h₀ h₁).trans ?_
    have hlisted : chordErrorUm radiusUm first second ∈ chordErrorsUm radiusUm :=
      List.mem_flatMap.mpr ⟨quadrant, hquadrant, List.mem_map.mpr ⟨(first, second), hmem, rfl⟩⟩
    exact_mod_cast (le_foldl_max (chordErrorsUm radiusUm) 0).2 _ hlisted

theorem interpolation_error_bounds_six_millimetres : (0 : Int) < 3000 ∧
    ∃ errorUm, outsideContourInterpolationErrorUm 3000 = .ok errorUm ∧
      Verification.canonicalContourInterpolationErrorUm 3000 = errorUm := by
  obtain ⟨errorUm, hplanner, hverifier, -⟩ := interpolation_error_bounds 3000 (by decide)
  exact ⟨by decide, errorUm, hplanner, hverifier⟩

end Custombuild.Cam
