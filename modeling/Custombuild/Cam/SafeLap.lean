/-
  The verifier's check of a lap around a finished rectangle.  An accepted lap runs along the
  edges at the radius of the cutter and around the corners in chords whose ends and whose middle
  are checked.  The nearest point of a chord to its corner need not be its middle, so an accepted
  lap keeps off the rectangle exactly when its chords do at the feet of their perpendiculars.
  Source: `custombuild_cam.production_verification`.
-/
import Custombuild.Cam.ArcError

namespace Custombuild.Cam

open Custombuild.Lib Custombuild.Manufacturing

namespace Verification

def arcRadialToleranceUm : Int := 4

def maxCornerChordPpm : Int := 196000

/-- `_corner_chord_is_valid`. -/
def cornerChordIsValid (first second centre : Int × Int)
    (radiusUm xSign ySign xDirection yDirection processAccuracyUm : Int) : Bool :=
  let firstDx := first.1 - centre.1
  let firstDy := first.2 - centre.2
  let secondDx := second.1 - centre.1
  let secondDy := second.2 - centre.2
  if firstDx * xSign < 0 ∨ secondDx * xSign < 0 ∨ firstDy * ySign < 0 ∨ secondDy * ySign < 0 ∨
      (second.1 - first.1) * xDirection < 0 ∨ (second.2 - first.2) * yDirection < 0 then false
  else
    let radialTolerance := 2 * radiusUm * arcRadialToleranceUm + arcRadialToleranceUm ^ 2
    if radialTolerance < |firstDx * firstDx + firstDy * firstDy - radiusUm * radiusUm| ∨
        radialTolerance < |secondDx * secondDx + secondDy * secondDy - radiusUm * radiusUm| then
      false
    else
      let maximumAxisDelta :=
        (radiusUm * maxCornerChordPpm + 999999) / 1000000 + 2 * arcRadialToleranceUm
      if maximumAxisDelta < max |second.1 - first.1| |second.2 - first.2| then false
      else
        let midpointRadiusTwice := isqrt ((firstDx + secondDx) ^ 2 + (firstDy + secondDy) ^ 2)
        let radialInsetUm := max 0 (2 * radiusUm - midpointRadiusTwice + 1) / 2
        radialInsetUm ≤ processAccuracyUm

section Lap

variable (nominal : Rect) (radiusUm processAccuracyUm : Int)

/-- `_outside_segment_phases`. -/
def outsideSegmentPhases (first second : Int × Int) : List Nat :=
  let left := nominal.xUm
  let right := nominal.rightUm
  let bottom := nominal.yUm
  let top := nominal.topUm
  (if first.2 = second.2 ∧ second.2 = bottom - radiusUm ∧ left ≤ first.1 ∧ first.1 ≤ second.1 ∧
      second.1 ≤ right then [0] else []) ++
  (if cornerChordIsValid first second (right, bottom) radiusUm 1 (-1) 1 1 processAccuracyUm then [1]
    else []) ++
  (if first.1 = second.1 ∧ second.1 = right + radiusUm ∧ bottom ≤ first.2 ∧ first.2 ≤ second.2 ∧
      second.2 ≤ top then [2] else []) ++
  (if cornerChordIsValid first second (right, top) radiusUm 1 1 (-1) 1 processAccuracyUm then [3]
    else []) ++
  (if first.2 = second.2 ∧ second.2 = top + radiusUm ∧ left ≤ second.1 ∧ second.1 ≤ first.1 ∧
      first.1 ≤ right then [4] else []) ++
  (if cornerChordIsValid first second (left, top) radiusUm (-1) 1 (-1) (-1) processAccuracyUm then
    [5] else []) ++
  (if first.1 = second.1 ∧ second.1 = left - radiusUm ∧ bottom ≤ second.2 ∧ second.2 ≤ first.2 ∧
      first.2 ≤ top then [6] else []) ++
  (if cornerChordIsValid first second (left, bottom) radiusUm (-1) (-1) 1 (-1) processAccuracyUm then
    [7] else [])

/-- The loop of `_outside_contour_is_one_safe_lap`: the phases of the segments, or none where a
    segment does not go on with the lap. -/
def lapPhases : Nat → List ((Int × Int) × (Int × Int)) → Option (List Nat)
  | _, [] => some []
  | currentPhase, (first, second) :: rest =>
    if first = second then lapPhases currentPhase rest
    else
      match (outsideSegmentPhases nominal radiusUm processAccuracyUm first second).find?
          (fun phase => currentPhase ≤ phase) with
      | none => none
      | some selected =>
        if currentPhase + 1 < selected then none
        else (lapPhases selected rest).map (selected :: ·)

/-- `_outside_contour_is_one_safe_lap`; the rectangle is that of the operation. -/
def outsideContourIsOneSafeLap (points : List (Int × Int)) : Bool :=
  let start := (nominal.xUm, nominal.yUm - radiusUm)
  if points.length < 13 ∨ points.head? ≠ some start ∨ points.getLast? ≠ some start then false
  else if (points.map Prod.fst).min? ≠ some (nominal.xUm - radiusUm) ∨
      (points.map Prod.fst).max? ≠ some (nominal.rightUm + radiusUm) ∨
      (points.map Prod.snd).min? ≠ some (nominal.yUm - radiusUm) ∨
      (points.map Prod.snd).max? ≠ some (nominal.topUm + radiusUm) then false
  else
    match lapPhases nominal radiusUm processAccuracyUm 0 (points.zip points.tail) with
    | none => false
    | some phases =>
      phases ≠ [] && phases.head? = some 0 && phases.getLast? = some 7 &&
        (phases.all (· < 8) && (List.range 8).all phases.contains)

end Lap

/-! ## What a lap keeps off -/

/-- Every real point of every segment of the lap is off the rectangle by the radius less the
    accuracy. -/
def KeepsOff (nominal : Rect) (radiusUm processAccuracyUm : Int) (points : List (Int × Int)) : Prop :=
  ∀ pair ∈ points.zip points.tail, ∀ p ∈ segment ℝ (real pair.1) (real pair.2),
    ∀ q ∈ Set.Icc (lowCorner nominal) (highCorner nominal),
      ((radiusUm - processAccuracyUm : Int) : ℝ) ≤ distance p q

/-- The check of a chord on integers: its ends, and the foot of the perpendicular from the corner
    where it falls inside the chord, are off the corner. -/
def chordClears (first second corner : Int × Int) (clearanceUm : Int) : Bool :=
  let toFirst := (corner.1 - first.1) ^ 2 + (corner.2 - first.2) ^ 2
  let toSecond := (corner.1 - second.1) ^ 2 + (corner.2 - second.2) ^ 2
  let lengthSquared := (second.1 - first.1) ^ 2 + (second.2 - first.2) ^ 2
  let projection := (corner.1 - first.1) * (second.1 - first.1) +
    (corner.2 - first.2) * (second.2 - first.2)
  let clear := max 0 clearanceUm
  clear ^ 2 ≤ toFirst && clear ^ 2 ≤ toSecond &&
    (!(0 < projection && projection < lengthSquared) ||
      clear ^ 2 * lengthSquared ≤ orientation first second corner ^ 2)

/-- The chord of a corner, with the signs that the verifier gives to its quadrant. -/
def quadrantChordIsValid (nominal : Rect) (radiusUm processAccuracyUm : Int)
    (first second : Int × Int) : Nat → Bool
  | 0 => cornerChordIsValid first second (lapCorner nominal 0) radiusUm 1 (-1) 1 1 processAccuracyUm
  | 1 => cornerChordIsValid first second (lapCorner nominal 1) radiusUm 1 1 (-1) 1 processAccuracyUm
  | 2 => cornerChordIsValid first second (lapCorner nominal 2) radiusUm (-1) 1 (-1) (-1)
      processAccuracyUm
  | _ => cornerChordIsValid first second (lapCorner nominal 3) radiusUm (-1) (-1) 1 (-1)
      processAccuracyUm

/-- The chords of a lap pass the check at their corners. -/
def ChordsClear (nominal : Rect) (radiusUm processAccuracyUm : Int) (points : List (Int × Int)) : Prop :=
  ∀ pair ∈ points.zip points.tail, pair.1 ≠ pair.2 → ∀ quadrant ∈ [0, 1, 2, 3],
    quadrantChordIsValid nominal radiusUm processAccuracyUm pair.1 pair.2 quadrant = true →
      chordClears pair.1 pair.2 (lapCorner nominal quadrant) (radiusUm - processAccuracyUm) = true

/-- The check on integers says what it says of the real points of the chord. -/
theorem chordClears_iff (first second corner : Int × Int) (clearanceUm : Int) :
    chordClears first second corner clearanceUm = true ↔
      ∀ t : ℝ, 0 ≤ t → t ≤ 1 → (clearanceUm : ℝ) ≤
        distance (walk (real first) (real second) t) (real corner) := by
  have hclear : max 0 (clearanceUm : ℝ) ^ 2 = ((max 0 clearanceUm ^ 2 : Int) : ℝ) := by
    push_cast
    rfl
  simp only [le_distance_iff]
  rw [forall_le_distSq_iff, hclear, distSq_real, distSq_real, distSq_real, along_real, turn_real]
  simp only [chordClears, Bool.and_eq_true, Bool.or_eq_true, Bool.not_eq_true', decide_eq_true_eq,
    Bool.and_eq_false_iff, decide_eq_false_iff_not]
  norm_cast
  constructor
  · rintro ⟨⟨hfirst, hsecond⟩, hfoot⟩
    refine ⟨hfirst, hsecond, fun hafter hwithin => ?_⟩
    rcases hfoot with (hno | hno) | hfoot
    · exact absurd hafter hno
    · exact absurd hwithin hno
    · exact hfoot
  · rintro ⟨hfirst, hsecond, hfoot⟩
    refine ⟨⟨hfirst, hsecond⟩, ?_⟩
    by_cases hafter : 0 < (corner.1 - first.1) * (second.1 - first.1) +
        (corner.2 - first.2) * (second.2 - first.2)
    · by_cases hwithin : (corner.1 - first.1) * (second.1 - first.1) +
          (corner.2 - first.2) * (second.2 - first.2) <
          (second.1 - first.1) ^ 2 + (second.2 - first.2) ^ 2
      · exact Or.inr (hfoot hafter hwithin)
      · exact Or.inl (Or.inr hwithin)
    · exact Or.inl (Or.inl hafter)

/-! ## Corners -/

/-- A coordinate beyond the end of an interval is nearest to that end. -/
theorem sq_le_of_beyond {p c q : ℝ} (h : (c ≤ p ∧ q ≤ c) ∨ (p ≤ c ∧ c ≤ q)) :
    (p - c) ^ 2 ≤ (p - q) ^ 2 := by
  rcases h with h | h
  · nlinarith [h.1, h.2]
  · nlinarith [h.1, h.2]

/-- The ends of a chord are in the quadrant of its corner. -/
theorem signs_of_valid {first second centre : Int × Int}
    {radiusUm xSign ySign xDirection yDirection processAccuracyUm : Int}
    (h : cornerChordIsValid first second centre radiusUm xSign ySign xDirection yDirection
      processAccuracyUm = true) :
    0 ≤ (first.1 - centre.1) * xSign ∧ 0 ≤ (second.1 - centre.1) * xSign ∧
      0 ≤ (first.2 - centre.2) * ySign ∧ 0 ≤ (second.2 - centre.2) * ySign := by
  unfold cornerChordIsValid at h
  simp only at h
  split at h
  · cases h
  · next hsigns =>
    simp only [not_or, not_lt] at hsigns
    exact ⟨hsigns.1, hsigns.2.1, hsigns.2.2.1, hsigns.2.2.2.1⟩

/-- Beyond the upper end of an interval. -/
theorem beyond_upper {a b c : Int} {q t : ℝ} (ha : 0 ≤ (a - c) * 1) (hb : 0 ≤ (b - c) * 1)
    (h₀ : 0 ≤ t) (h₁ : t ≤ 1) (hq : q ≤ c) : (lerp a b t - c) ^ 2 ≤ (lerp a b t - q) ^ 2 := by
  have hac : (c : ℝ) ≤ a := by exact_mod_cast (by omega : c ≤ a)
  have hbc : (c : ℝ) ≤ b := by exact_mod_cast (by omega : c ≤ b)
  exact sq_le_of_beyond (Or.inl ⟨lerp_ge hac hbc h₀ h₁, hq⟩)

/-- Beyond the lower end of an interval. -/
theorem beyond_lower {a b c : Int} {q t : ℝ} (ha : 0 ≤ (a - c) * -1) (hb : 0 ≤ (b - c) * -1)
    (h₀ : 0 ≤ t) (h₁ : t ≤ 1) (hq : c ≤ q) : (lerp a b t - c) ^ 2 ≤ (lerp a b t - q) ^ 2 := by
  have hac : (a : ℝ) ≤ c := by exact_mod_cast (by omega : a ≤ c)
  have hbc : (b : ℝ) ≤ c := by exact_mod_cast (by omega : b ≤ c)
  exact sq_le_of_beyond (Or.inr ⟨lerp_le hac hbc h₀ h₁, hq⟩)

section Accepted

variable {nominal : Rect} {radiusUm processAccuracyUm : Int}

/-- The corner is the nearest point of the rectangle to its chords. -/
theorem corner_nearest {first second : Int × Int} {quadrant : Nat} (hquadrant : quadrant ∈ [0, 1, 2, 3])
    (h : quadrantChordIsValid nominal radiusUm processAccuracyUm first second quadrant = true)
    {t : ℝ} (h₀ : 0 ≤ t) (h₁ : t ≤ 1) {q : ℝ × ℝ} (hq : Box (lowCorner nominal) (highCorner nominal) q) :
    distSq (walk (real first) (real second) t) (real (lapCorner nominal quadrant)) ≤
      distSq (walk (real first) (real second) t) q := by
  simp only [List.mem_cons, List.not_mem_nil, or_false] at hquadrant
  rcases hquadrant with rfl | rfl | rfl | rfl
  · obtain ⟨hx, hx', hy, hy'⟩ := signs_of_valid h
    exact add_le_add (beyond_upper hx hx' h₀ h₁ hq.1.2) (beyond_lower hy hy' h₀ h₁ hq.2.1)
  · obtain ⟨hx, hx', hy, hy'⟩ := signs_of_valid h
    exact add_le_add (beyond_upper hx hx' h₀ h₁ hq.1.2) (beyond_upper hy hy' h₀ h₁ hq.2.2)
  · obtain ⟨hx, hx', hy, hy'⟩ := signs_of_valid h
    exact add_le_add (beyond_lower hx hx' h₀ h₁ hq.1.1) (beyond_upper hy hy' h₀ h₁ hq.2.2)
  · obtain ⟨hx, hx', hy, hy'⟩ := signs_of_valid h
    exact add_le_add (beyond_lower hx hx' h₀ h₁ hq.1.1) (beyond_lower hy hy' h₀ h₁ hq.2.1)

/-- A segment along an edge of the rectangle, at the radius of the cutter. -/
def AlongEdge (nominal : Rect) (radiusUm : Int) (first second : Int × Int) : Prop :=
  (first.2 = second.2 ∧ (second.2 = nominal.yUm - radiusUm ∨ second.2 = nominal.topUm + radiusUm)) ∨
    (first.1 = second.1 ∧
      (second.1 = nominal.rightUm + radiusUm ∨ second.1 = nominal.xUm - radiusUm))

/-- A segment with a phase is a chord of a corner or along an edge. -/
theorem chord_or_edge {first second : Int × Int} {phase : Nat}
    (h : phase ∈ outsideSegmentPhases nominal radiusUm processAccuracyUm first second) :
    (∃ quadrant ∈ [0, 1, 2, 3],
        quadrantChordIsValid nominal radiusUm processAccuracyUm first second quadrant = true) ∨
      AlongEdge nominal radiusUm first second := by
  have hif : ∀ {c : Prop} [Decidable c] {n : Nat}, phase ∈ (if c then [n] else []) → c := by
    intro c _ n hmem
    by_contra hc
    rw [if_neg hc] at hmem
    exact List.not_mem_nil hmem
  simp only [outsideSegmentPhases, List.mem_append, or_assoc] at h
  rcases h with h | h | h | h | h | h | h | h
  · exact Or.inr (Or.inl ⟨(hif h).1, Or.inl (hif h).2.1⟩)
  · exact Or.inl ⟨0, by decide, hif h⟩
  · exact Or.inr (Or.inr ⟨(hif h).1, Or.inl (hif h).2.1⟩)
  · exact Or.inl ⟨1, by decide, hif h⟩
  · exact Or.inr (Or.inl ⟨(hif h).1, Or.inr (hif h).2.1⟩)
  · exact Or.inl ⟨2, by decide, hif h⟩
  · exact Or.inr (Or.inr ⟨(hif h).1, Or.inr (hif h).2.1⟩)
  · exact Or.inl ⟨3, by decide, hif h⟩

/-- A coordinate that is off an interval by a radius. -/
theorem sq_radius_le {r lo hi p q : ℝ} (hr : 0 ≤ r) (hq : lo ≤ q ∧ q ≤ hi)
    (hp : p = lo - r ∨ p = hi + r) : r ^ 2 ≤ (p - q) ^ 2 := by
  rcases hp with rfl | rfl
  · nlinarith [hq.1]
  · nlinarith [hq.2]

/-- Along an edge the lap is off the rectangle by the radius. -/
theorem edge_off (hradius : 0 ≤ radiusUm) {first second : Int × Int}
    (h : AlongEdge nominal radiusUm first second) (t : ℝ) {q : ℝ × ℝ}
    (hq : Box (lowCorner nominal) (highCorner nominal) q) :
    (radiusUm : ℝ) ^ 2 ≤ distSq (walk (real first) (real second) t) q := by
  have hr : (0 : ℝ) ≤ radiusUm := by exact_mod_cast hradius
  rcases h with ⟨heq, hat⟩ | ⟨heq, hat⟩
  · have hy : (walk (real first) (real second) t).2 = (second.2 : ℝ) := by
      simp only [walk, real, heq, lerp_self]
    refine le_trans ?_ (le_add_of_nonneg_left (sq_nonneg _))
    rw [hy]
    refine sq_radius_le hr hq.2 ?_
    rcases hat with hat | hat
    · left
      rw [hat]
      push_cast
      rfl
    · right
      rw [hat]
      push_cast
      rfl
  · have hx : (walk (real first) (real second) t).1 = (second.1 : ℝ) := by
      simp only [walk, real, heq, lerp_self]
    refine le_trans ?_ (le_add_of_nonneg_right (sq_nonneg _))
    rw [hx]
    refine sq_radius_le hr hq.1 ?_
    rcases hat with hat | hat
    · right
      rw [hat]
      push_cast
      rfl
    · left
      rw [hat]
      push_cast
      rfl

/-- Every segment of an accepted lap has a phase. -/
theorem exists_phase {current : Nat} {pairs : List ((Int × Int) × (Int × Int))} {phases : List Nat}
    (h : lapPhases nominal radiusUm processAccuracyUm current pairs = some phases) :
    ∀ pair ∈ pairs, pair.1 ≠ pair.2 →
      ∃ phase, phase ∈ outsideSegmentPhases nominal radiusUm processAccuracyUm pair.1 pair.2 := by
  induction pairs generalizing current phases with
  | nil => exact fun pair hpair => absurd hpair List.not_mem_nil
  | cons first rest ih =>
    intro pair hpair hne
    rw [lapPhases] at h
    split at h
    · next hsame =>
      rcases List.mem_cons.mp hpair with rfl | hpair
      · exact absurd hsame hne
      · exact ih h pair hpair hne
    · split at h
      · cases h
      · next selected hfind =>
        split at h
        · cases h
        · obtain ⟨later, hlater, -⟩ := Option.map_eq_some_iff.mp h
          rcases List.mem_cons.mp hpair with rfl | hpair
          · exact ⟨selected, List.mem_of_find?_eq_some hfind⟩
          · exact ih hlater pair hpair hne

/-- What an accepted lap starts and ends at, and that its segments have phases. -/
theorem lap_accepted {points : List (Int × Int)}
    (h : outsideContourIsOneSafeLap nominal radiusUm processAccuracyUm points = true) :
    points.getLast? = some (nominal.xUm, nominal.yUm - radiusUm) ∧
      ∀ pair ∈ points.zip points.tail, pair.1 ≠ pair.2 →
        ∃ phase, phase ∈ outsideSegmentPhases nominal radiusUm processAccuracyUm pair.1 pair.2 := by
  unfold outsideContourIsOneSafeLap at h
  simp only at h
  split at h
  · cases h
  · next hends =>
    split at h
    · cases h
    · split at h
      · cases h
      · next phases hphases =>
        refine ⟨?_, exists_phase hphases⟩
        by_contra hlast
        exact hends (Or.inr (Or.inr hlast))

/-- A segment keeps off the rectangle. -/
def SegmentOff (nominal : Rect) (clearanceUm : Int) (first second : Int × Int) : Prop :=
  ∀ t : ℝ, 0 ≤ t → t ≤ 1 → ∀ q, Box (lowCorner nominal) (highCorner nominal) q →
    (clearanceUm : ℝ) ≤ distance (walk (real first) (real second) t) q

theorem keepsOff_iff_segments {points : List (Int × Int)} :
    KeepsOff nominal radiusUm processAccuracyUm points ↔ ∀ pair ∈ points.zip points.tail,
      SegmentOff nominal (radiusUm - processAccuracyUm) pair.1 pair.2 := by
  constructor
  · intro h pair hpair t h₀ h₁ q hq
    exact h pair hpair _ (mem_segment_iff.mpr ⟨t, h₀, h₁, rfl⟩) q (mem_box_iff.mpr hq)
  · intro h pair hpair p hp q hq
    obtain ⟨t, h₀, h₁, rfl⟩ := mem_segment_iff.mp hp
    exact h pair hpair t h₀ h₁ q (mem_box_iff.mp hq)

/-- A chord keeps off the rectangle where it keeps off its corner. -/
theorem segmentOff_of_chord {first second : Int × Int} {quadrant : Nat} {clearanceUm : Int}
    (hquadrant : quadrant ∈ [0, 1, 2, 3])
    (h : quadrantChordIsValid nominal radiusUm processAccuracyUm first second quadrant = true)
    (hclears : chordClears first second (lapCorner nominal quadrant) clearanceUm = true) :
    SegmentOff nominal clearanceUm first second := by
  intro t h₀ h₁ q hq
  refine ((chordClears_iff _ _ _ _).mp hclears t h₀ h₁).trans ?_
  exact Real.sqrt_le_sqrt (corner_nearest hquadrant h h₀ h₁ hq)

theorem segmentOff_of_edge (hradius : 0 ≤ radiusUm) (haccuracy : 0 ≤ processAccuracyUm)
    {first second : Int × Int} (h : AlongEdge nominal radiusUm first second) :
    SegmentOff nominal (radiusUm - processAccuracyUm) first second := by
  intro t _ _ q hq
  have hr : (0 : ℝ) ≤ radiusUm := by exact_mod_cast hradius
  have hle : ((radiusUm - processAccuracyUm : Int) : ℝ) ≤ radiusUm := by
    exact_mod_cast (by omega : radiusUm - processAccuracyUm ≤ radiusUm)
  refine hle.trans ?_
  rw [le_distance_iff, max_eq_right hr]
  exact edge_off hradius h t hq

/-- A point where the lap stays is off the rectangle as the segments around it are. -/
theorem points_off {clearanceUm : Int} {start : Int × Int}
    (hstart : SegmentOff nominal clearanceUm start start) {points : List (Int × Int)}
    (hlast : points.getLast? = some start)
    (h : ∀ pair ∈ points.zip points.tail, pair.1 ≠ pair.2 →
      SegmentOff nominal clearanceUm pair.1 pair.2) :
    ∀ p ∈ points, SegmentOff nominal clearanceUm p p := by
  induction points with
  | nil => exact fun p hp => absurd hp List.not_mem_nil
  | cons first rest ih =>
    cases rest with
    | nil =>
      intro p hp
      rw [List.getLast?_singleton, Option.some.injEq] at hlast
      rw [List.mem_singleton.mp hp, hlast]
      exact hstart
    | cons second rest =>
      have hrest := ih (by simpa using hlast) fun pair hpair =>
        h pair (List.mem_cons_of_mem _ hpair)
      intro p hp
      rcases List.mem_cons.mp hp with rfl | hp
      · by_cases hsame : p = second
        · exact hrest p (by simp [hsame])
        · have hsegment := h (p, second) (by simp) hsame
          intro t _ _ q hq
          have hpoint := hsegment 0 le_rfl zero_le_one q hq
          simpa [walk, lerp_self] using hpoint
      · exact hrest p hp

/-- The direction that shows a lap to come too near. -/
theorem chordsClear_of_keepsOff (hwidth : 0 ≤ nominal.widthUm) (hheight : 0 ≤ nominal.heightUm)
    {points : List (Int × Int)} (h : KeepsOff nominal radiusUm processAccuracyUm points) :
    ChordsClear nominal radiusUm processAccuracyUm points := by
  intro pair hpair _ quadrant hquadrant _
  rw [chordClears_iff]
  intro t h₀ h₁
  refine keepsOff_iff_segments.mp h pair hpair t h₀ h₁ _ (box_corner hwidth hheight ?_)
  simp only [List.mem_cons, List.not_mem_nil, or_false] at hquadrant
  rcases hquadrant with rfl | rfl | rfl | rfl
  · simp [lapCorner, rectCorners]
  · simp [lapCorner, rectCorners]
  · simp [lapCorner, rectCorners]
  · simp [lapCorner, rectCorners]

/-- An accepted lap keeps off the finished rectangle by the radius less the accuracy exactly when
    its corner chords do so at their ends and at the feet of the perpendiculars; the verifier looks
    at their middles instead. -/
theorem accepted_lap_keepsOff_iff (hwidth : 0 ≤ nominal.widthUm) (hheight : 0 ≤ nominal.heightUm)
    (hradius : 0 ≤ radiusUm) (haccuracy : 0 ≤ processAccuracyUm) {points : List (Int × Int)}
    (haccepted : outsideContourIsOneSafeLap nominal radiusUm processAccuracyUm points = true) :
    KeepsOff nominal radiusUm processAccuracyUm points ↔
      ChordsClear nominal radiusUm processAccuracyUm points := by
  constructor
  · exact chordsClear_of_keepsOff hwidth hheight
  · intro hclear
    obtain ⟨hlast, hphases⟩ := lap_accepted haccepted
    have hsegments : ∀ pair ∈ points.zip points.tail, pair.1 ≠ pair.2 →
        SegmentOff nominal (radiusUm - processAccuracyUm) pair.1 pair.2 := by
      intro pair hpair hne
      obtain ⟨phase, hphase⟩ := hphases pair hpair hne
      rcases chord_or_edge hphase with ⟨quadrant, hquadrant, hvalid⟩ | hedge
      · exact segmentOff_of_chord hquadrant hvalid (hclear pair hpair hne quadrant hquadrant hvalid)
      · exact segmentOff_of_edge hradius haccuracy hedge
    have hstart : SegmentOff nominal (radiusUm - processAccuracyUm)
        (nominal.xUm, nominal.yUm - radiusUm) (nominal.xUm, nominal.yUm - radiusUm) :=
      segmentOff_of_edge hradius haccuracy (Or.inl ⟨rfl, Or.inl rfl⟩)
    rw [keepsOff_iff_segments]
    intro pair hpair
    by_cases hsame : pair.1 = pair.2
    · have hpoint := points_off hstart hlast hsegments pair.1 (List.of_mem_zip hpair).1
      rwa [← hsame]
    · exact hsegments pair hpair hsame

end Accepted

/-! ## A lap that comes too near -/

/-- A lap of a cutter of six millimetres around a square; one chord of its first corner starts
    inside the circle and ends outside it. -/
def bulgedLap : List (Int × Int) :=
  [(0, -3000), (100000, -3000), (100537, -2952), (101057, -2808), (101540, -2570), (102040, -2205),
    (102371, -1838), (102641, -1424), (102838, -971), (102959, -492), (103000, 0), (103000, 100000),
    (102942, 100585), (102771, 101148), (102494, 101666), (102121, 102121), (101666, 102494),
    (101148, 102771), (100585, 102942), (100000, 103000), (0, 103000), (-586, 102942),
    (-1149, 102771), (-1667, 102494), (-2122, 102121), (-2495, 101666), (-2772, 101148),
    (-2943, 100585), (-3000, 100000), (-3000, 0), (-2943, -586), (-2772, -1149), (-2495, -1667),
    (-2122, -2122), (-1667, -2495), (-1149, -2772), (-586, -2943), (0, -3000)]

/-- The verifier accepts the lap, with an accuracy that covers the canonical error, and the lap
    comes nearer than the radius less the accuracy. -/
theorem bulgedLap_comes_near :
    canonicalContourInterpolationErrorUm 3000 ≤ 16 ∧
      outsideContourIsOneSafeLap ⟨0, 0, 100000, 100000⟩ 3000 16 bulgedLap = true ∧
      ¬KeepsOff ⟨0, 0, 100000, 100000⟩ 3000 16 bulgedLap := by
  refine ⟨by decide +kernel, by decide +kernel, fun hoff => ?_⟩
  have hclear := chordsClear_of_keepsOff (by decide) (by decide) hoff
  have hchord := hclear ((101540, -2570), (102040, -2205)) (by decide) (by decide) 0 (by decide)
    (by decide +kernel)
  exact absurd hchord (by decide)

theorem bulgedLap_keepsOff_iff :
    outsideContourIsOneSafeLap ⟨0, 0, 100000, 100000⟩ 3000 16 bulgedLap = true ∧
      (KeepsOff ⟨0, 0, 100000, 100000⟩ 3000 16 bulgedLap ↔
        ChordsClear ⟨0, 0, 100000, 100000⟩ 3000 16 bulgedLap) := by
  have haccepted : outsideContourIsOneSafeLap ⟨0, 0, 100000, 100000⟩ 3000 16 bulgedLap = true := by
    decide +kernel
  exact ⟨haccepted, accepted_lap_keepsOff_iff (by decide) (by decide) (by decide) (by decide)
    haccepted⟩

end Verification

end Custombuild.Cam
