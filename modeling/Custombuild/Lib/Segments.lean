/-
  Segments of the real plane: where two of them meet, how far a point is from one, and where one
  comes closest to a box whose sides are parallel to the axes.

  A segment is the walk from one end to the other: `lerp a b t` for `t` between zero and one.
-/
import Mathlib.Analysis.SpecialFunctions.Sqrt
import Mathlib.Tactic

namespace Custombuild.Lib

/-- The point that divides the way from `a` to `b`. -/
def lerp (a b t : ℝ) : ℝ := a + t * (b - a)

@[simp] theorem lerp_zero (a b : ℝ) : lerp a b 0 = a := by simp [lerp]

@[simp] theorem lerp_one (a b : ℝ) : lerp a b 1 = b := by simp [lerp]

theorem lerp_self (a t : ℝ) : lerp a a t = a := by
  unfold lerp
  ring

theorem lerp_swap (a b t : ℝ) : lerp b a (1 - t) = lerp a b t := by
  unfold lerp
  ring

theorem lerp_neg (a b t : ℝ) : lerp (-a) (-b) t = -lerp a b t := by
  unfold lerp
  ring

theorem continuous_lerp (a b : ℝ) : Continuous (lerp a b) := by
  unfold lerp
  fun_prop

/-- A walk stays between two of its points. -/
theorem lerp_between {a b lo hi s t u : ℝ} (hst : s ≤ t) (htu : t ≤ u)
    (hs : lo ≤ lerp a b s ∧ lerp a b s ≤ hi) (hu : lo ≤ lerp a b u ∧ lerp a b u ≤ hi) :
    lo ≤ lerp a b t ∧ lerp a b t ≤ hi := by
  unfold lerp at *
  rcases le_total a b with hab | hab
  · have hd : 0 ≤ b - a := by linarith
    have h₁ : s * (b - a) ≤ t * (b - a) := mul_le_mul_of_nonneg_right hst hd
    have h₂ : t * (b - a) ≤ u * (b - a) := mul_le_mul_of_nonneg_right htu hd
    constructor <;> linarith
  · have hd : b - a ≤ 0 := by linarith
    have h₁ : t * (b - a) ≤ s * (b - a) := mul_le_mul_of_nonpos_right hst hd
    have h₂ : u * (b - a) ≤ t * (b - a) := mul_le_mul_of_nonpos_right htu hd
    constructor <;> linarith

/-- A walk passes every value between two of its own. -/
theorem exists_lerp_eq {a b c s u : ℝ} (hsu : s ≤ u)
    (h : (lerp a b s ≤ c ∧ c ≤ lerp a b u) ∨ (lerp a b u ≤ c ∧ c ≤ lerp a b s)) :
    ∃ t, s ≤ t ∧ t ≤ u ∧ lerp a b t = c := by
  have hcont : ContinuousOn (lerp a b) (Set.Icc s u) := (continuous_lerp a b).continuousOn
  rcases h with h | h
  · obtain ⟨t, ht, hc⟩ := intermediate_value_Icc hsu hcont h
    exact ⟨t, ht.1, ht.2, hc⟩
  · obtain ⟨t, ht, hc⟩ := intermediate_value_Icc' hsu hcont h
    exact ⟨t, ht.1, ht.2, hc⟩

/-! ## Segments that meet -/

/-- Twice the area of a triangle, with the sign of its sense. -/
def turn (a b c : ℝ × ℝ) : ℝ :=
  (b.1 - a.1) * (c.2 - a.2) - (b.2 - a.2) * (c.1 - a.1)

/-- The point is in the bounding box of the segment. -/
def InBox (p a b : ℝ × ℝ) : Prop :=
  (min a.1 b.1 ≤ p.1 ∧ p.1 ≤ max a.1 b.1) ∧ (min a.2 b.2 ≤ p.2 ∧ p.2 ≤ max a.2 b.2)

/-- The walk from one point to another. -/
def walk (a b : ℝ × ℝ) (t : ℝ) : ℝ × ℝ := (lerp a.1 b.1 t, lerp a.2 b.2 t)

theorem lerp_mem_box {a b t : ℝ} (h₀ : 0 ≤ t) (h₁ : t ≤ 1) :
    min a b ≤ lerp a b t ∧ lerp a b t ≤ max a b := by
  apply lerp_between h₀ h₁
  · rw [lerp_zero]
    exact ⟨min_le_left a b, le_max_left a b⟩
  · rw [lerp_one]
    exact ⟨min_le_right a b, le_max_right a b⟩

theorem lerp_ge {a b c t : ℝ} (ha : c ≤ a) (hb : c ≤ b) (h₀ : 0 ≤ t) (h₁ : t ≤ 1) :
    c ≤ lerp a b t :=
  (le_min ha hb).trans (lerp_mem_box h₀ h₁).1

theorem lerp_le {a b c t : ℝ} (ha : a ≤ c) (hb : b ≤ c) (h₀ : 0 ≤ t) (h₁ : t ≤ 1) :
    lerp a b t ≤ c :=
  (lerp_mem_box h₀ h₁).2.trans (max_le ha hb)

theorem inBox_walk {a b : ℝ × ℝ} {t : ℝ} (h₀ : 0 ≤ t) (h₁ : t ≤ 1) : InBox (walk a b t) a b :=
  ⟨lerp_mem_box h₀ h₁, lerp_mem_box h₀ h₁⟩

theorem turn_walk (a b c d : ℝ × ℝ) (s : ℝ) :
    turn a b (walk c d s) = lerp (turn a b c) (turn a b d) s := by
  simp only [turn, walk, lerp]
  ring

theorem turn_walk_self (a b : ℝ × ℝ) (t : ℝ) : turn a b (walk a b t) = 0 := by
  simp only [turn, walk, lerp]
  ring

/-- The two segments have a point in common. -/
def Meet (a b c d : ℝ × ℝ) : Prop :=
  ∃ t s : ℝ, 0 ≤ t ∧ t ≤ 1 ∧ 0 ≤ s ∧ s ≤ 1 ∧ walk a b t = walk c d s

/-- A coordinate in the box of a proper interval divides it. -/
theorem exists_lerp_of_box {a b p : ℝ} (h : a ≠ b) (hbox : min a b ≤ p ∧ p ≤ max a b) :
    0 ≤ (p - a) / (b - a) ∧ (p - a) / (b - a) ≤ 1 := by
  rcases lt_or_gt_of_ne h with hab | hab
  · rw [min_eq_left hab.le, max_eq_right hab.le] at hbox
    constructor
    · apply div_nonneg <;> linarith
    · rw [div_le_one (by linarith)]
      linarith
  · rw [min_eq_right hab.le, max_eq_left hab.le] at hbox
    constructor
    · apply div_nonneg_of_nonpos <;> linarith
    · rw [div_le_one_of_neg (by linarith)]
      linarith

/-- Any point of the line through two points is reached by walking on, and within the segment
    where it is in its box. -/
theorem exists_walk_of_line {a b p : ℝ × ℝ} (hne : a ≠ b) (h : turn a b p = 0) :
    ∃ t, walk a b t = p ∧ (InBox p a b → 0 ≤ t ∧ t ≤ 1) := by
  unfold turn at h
  by_cases hx : a.1 = b.1
  · have hy : a.2 ≠ b.2 := fun hy => hne (Prod.ext hx hy)
    have hd : b.2 - a.2 ≠ 0 := sub_ne_zero.mpr (Ne.symm hy)
    refine ⟨(p.2 - a.2) / (b.2 - a.2), ?_, fun hbox => exists_lerp_of_box hy hbox.2⟩
    have hpx : p.1 = a.1 := by
      rw [hx, sub_self, zero_mul, zero_sub, neg_eq_zero, mul_eq_zero] at h
      rcases h with h | h
      · exact absurd h hd
      · linarith
    simp only [walk, lerp]
    apply Prod.ext
    · rw [hx, sub_self, mul_zero, add_zero, hpx, hx]
    · field_simp
      ring
  · have hd : b.1 - a.1 ≠ 0 := sub_ne_zero.mpr (Ne.symm hx)
    refine ⟨(p.1 - a.1) / (b.1 - a.1), ?_, fun hbox => exists_lerp_of_box hx hbox.1⟩
    simp only [walk, lerp]
    apply Prod.ext
    · field_simp
      ring
    · field_simp
      linarith

/-- A point on the line of a segment and in its box is on the segment. -/
theorem exists_walk_of_turn {a b p : ℝ × ℝ} (hturn : turn a b p = 0) (hbox : InBox p a b) :
    ∃ t, 0 ≤ t ∧ t ≤ 1 ∧ walk a b t = p := by
  by_cases hne : a = b
  · -- both ends are one point, and the box is that point
    subst hne
    refine ⟨0, le_rfl, zero_le_one, ?_⟩
    unfold InBox at hbox
    rw [min_self, max_self, min_self, max_self] at hbox
    simp only [walk, lerp_zero]
    exact Prod.ext (le_antisymm hbox.1.1 hbox.1.2) (le_antisymm hbox.2.1 hbox.2.2)
  · obtain ⟨t, ht, hin⟩ := exists_walk_of_line hne hturn
    exact ⟨t, (hin hbox).1, (hin hbox).2, ht⟩

/-- Two numbers of different signs, zero counted as negative, are on both sides of zero. -/
theorem ratio_of_signs {x y : ℝ} (h : (0 < x) ≠ (0 < y)) :
    x - y ≠ 0 ∧ 0 ≤ x / (x - y) ∧ x / (x - y) ≤ 1 := by
  by_cases hx : 0 < x
  · have hy : ¬0 < y := fun hy => h (by simp [hx, hy])
    have hxy : 0 < x - y := by linarith
    refine ⟨hxy.ne', div_nonneg hx.le hxy.le, ?_⟩
    rw [div_le_one hxy]
    linarith
  · have hy : 0 < y := by
      by_contra hy
      exact h (by simp [hx, hy])
    have hxy : x - y < 0 := by linarith
    refine ⟨hxy.ne, div_nonneg_of_nonpos (by linarith) hxy.le, ?_⟩
    rw [div_le_one_of_neg hxy]
    linarith

/-- Segments whose ends are on different sides of each other meet. -/
theorem meet_of_signs {a b c d : ℝ × ℝ} (h : (0 < turn a b c) ≠ (0 < turn a b d))
    (h' : (0 < turn c d a) ≠ (0 < turn c d b)) : Meet a b c d := by
  obtain ⟨hs, hs₀, hs₁⟩ := ratio_of_signs h
  obtain ⟨ht, ht₀, ht₁⟩ := ratio_of_signs h'
  refine ⟨_, _, ht₀, ht₁, hs₀, hs₁, ?_⟩
  have hopp : turn c d a - turn c d b = -(turn a b c - turn a b d) := by
    unfold turn
    ring
  simp only [walk, lerp]
  rw [hopp]
  apply Prod.ext
  · field_simp
    unfold turn
    ring
  · field_simp
    unfold turn
    ring

/-- A walk between two numbers that passes zero starts at it, ends at it, or changes sign. -/
theorem signs_of_lerp_eq_zero {x y s : ℝ} (h₀ : 0 ≤ s) (h₁ : s ≤ 1) (h : lerp x y s = 0) :
    (x = 0 ∧ y = 0) ∨ s = 0 ∨ s = 1 ∨ (0 < x) ≠ (0 < y) := by
  by_cases hs₀ : s = 0
  · exact Or.inr (Or.inl hs₀)
  by_cases hs₁ : s = 1
  · exact Or.inr (Or.inr (Or.inl hs₁))
  have hpos : 0 < s := lt_of_le_of_ne h₀ (Ne.symm hs₀)
  have hlt : 0 < 1 - s := by
    have := lt_of_le_of_ne h₁ hs₁
    linarith
  have hsum : (1 - s) * x + s * y = 0 := by
    unfold lerp at h
    linarith
  by_cases hx : 0 < x
  · refine Or.inr (Or.inr (Or.inr fun heq => ?_))
    have hy : 0 < y := heq ▸ hx
    have := mul_pos hlt hx
    have := mul_pos hpos hy
    linarith
  · by_cases hy : 0 < y
    · refine Or.inr (Or.inr (Or.inr fun heq => ?_))
      exact hx (heq ▸ hy)
    · left
      have hx' : (1 - s) * x ≤ 0 := mul_nonpos_of_nonneg_of_nonpos hlt.le (not_lt.mp hx)
      have hy' : s * y ≤ 0 := mul_nonpos_of_nonneg_of_nonpos hpos.le (not_lt.mp hy)
      have hx₀ : (1 - s) * x = 0 := by linarith
      have hy₀ : s * y = 0 := by linarith
      exact ⟨(mul_eq_zero.mp hx₀).resolve_left hlt.ne', (mul_eq_zero.mp hy₀).resolve_left hpos.ne'⟩

/-- One end of either segment is on the other. -/
def EndOnOther (a b c d : ℝ × ℝ) : Prop :=
  (turn a b c = 0 ∧ InBox c a b) ∨ (turn a b d = 0 ∧ InBox d a b) ∨
    (turn c d a = 0 ∧ InBox a c d) ∨ (turn c d b = 0 ∧ InBox b c d)

theorem onSegment_of_walk {a b p : ℝ × ℝ} {t : ℝ} (h₀ : 0 ≤ t) (h₁ : t ≤ 1) (h : walk a b t = p) :
    turn a b p = 0 ∧ InBox p a b := by
  rw [← h]
  exact ⟨turn_walk_self a b t, inBox_walk h₀ h₁⟩

theorem walk_walk (a b : ℝ × ℝ) (γ δ s : ℝ) :
    walk (walk a b γ) (walk a b δ) s = walk a b (lerp γ δ s) := by
  simp only [walk, lerp]
  apply Prod.ext
  · simp only
    ring
  · simp only
    ring

theorem walk_injective {a b : ℝ × ℝ} (hne : a ≠ b) {s t : ℝ} (h : walk a b s = walk a b t) :
    s = t := by
  simp only [walk, lerp, Prod.mk.injEq] at h
  by_cases hx : a.1 = b.1
  · have hy : b.2 - a.2 ≠ 0 := sub_ne_zero.mpr fun hy => hne (Prod.ext hx hy.symm)
    exact mul_right_cancel₀ hy (by linarith [h.2])
  · have hd : b.1 - a.1 ≠ 0 := sub_ne_zero.mpr (Ne.symm hx)
    exact mul_right_cancel₀ hd (by linarith [h.1])

/-- Of two segments on one line that meet, one holds an end of the other. -/
theorem endOnOther_of_collinear {a b c d : ℝ × ℝ} (hc : turn a b c = 0) (hd : turn a b d = 0)
    (h : Meet a b c d) : EndOnOther a b c d := by
  obtain ⟨t, s, ht₀, ht₁, hs₀, hs₁, heq⟩ := h
  by_cases hne : a = b
  · have ha : walk c d s = a := by
      rw [← heq, hne]
      simp [walk, lerp]
    exact Or.inr (Or.inr (Or.inl (onSegment_of_walk hs₀ hs₁ ha)))
  · obtain ⟨γ, rfl, -⟩ := exists_walk_of_line hne hc
    obtain ⟨δ, rfl, -⟩ := exists_walk_of_line hne hd
    rw [walk_walk] at heq
    have hbox := lerp_mem_box (a := γ) (b := δ) hs₀ hs₁
    rw [← walk_injective hne heq] at hbox
    by_cases hγ : 0 ≤ γ ∧ γ ≤ 1
    · exact Or.inl (onSegment_of_walk hγ.1 hγ.2 rfl)
    by_cases hδ : 0 ≤ δ ∧ δ ≤ 1
    · exact Or.inr (Or.inl (onSegment_of_walk hδ.1 hδ.2 rfl))
    -- neither end of the second is on the first, so it reaches over its start
    have hover : (γ ≤ 0 ∧ 0 ≤ δ) ∨ (δ ≤ 0 ∧ 0 ≤ γ) := by
      rcases le_total γ δ with hle | hle
      · rw [min_eq_left hle, max_eq_right hle] at hbox
        left
        constructor
        · by_contra hpos
          exact hγ ⟨by linarith, by linarith⟩
        · linarith
      · rw [min_eq_right hle, max_eq_left hle] at hbox
        right
        constructor
        · by_contra hpos
          exact hδ ⟨by linarith, by linarith⟩
        · linarith
    obtain ⟨σ, hσ₀, hσ₁, hσ⟩ := exists_lerp_eq (a := γ) (b := δ) (c := 0) zero_le_one (by
      rw [lerp_zero, lerp_one]
      exact hover)
    refine Or.inr (Or.inr (Or.inl (onSegment_of_walk hσ₀ hσ₁ ?_)))
    rw [walk_walk, hσ]
    simp [walk]

/-- Two segments meet exactly when an end of one is on the other or they cross. -/
theorem meet_iff {a b c d : ℝ × ℝ} : Meet a b c d ↔ EndOnOther a b c d ∨
    ((0 < turn a b c) ≠ (0 < turn a b d) ∧ (0 < turn c d a) ≠ (0 < turn c d b)) := by
  constructor
  · intro h
    have hmeet := h
    obtain ⟨t, s, ht₀, ht₁, hs₀, hs₁, heq⟩ := h
    have hcd : lerp (turn a b c) (turn a b d) s = 0 := by
      rw [← turn_walk, ← heq, turn_walk_self]
    have hab : lerp (turn c d a) (turn c d b) t = 0 := by
      rw [← turn_walk, heq, turn_walk_self]
    rcases signs_of_lerp_eq_zero hs₀ hs₁ hcd with ⟨hc, hd⟩ | rfl | rfl | hcd'
    · exact Or.inl (endOnOther_of_collinear hc hd hmeet)
    · exact Or.inl (Or.inl (onSegment_of_walk ht₀ ht₁ (heq.trans (by simp [walk]))))
    · exact Or.inl (Or.inr (Or.inl (onSegment_of_walk ht₀ ht₁ (heq.trans (by simp [walk])))))
    · rcases signs_of_lerp_eq_zero ht₀ ht₁ hab with ⟨ha, hb⟩ | rfl | rfl | hab'
      · have hopp : turn c d a - turn c d b = -(turn a b c - turn a b d) := by
          unfold turn
          ring
        exact absurd (by linarith) (ratio_of_signs hcd').1
      · exact Or.inl (Or.inr (Or.inr (Or.inl
          (onSegment_of_walk hs₀ hs₁ (heq.symm.trans (by simp [walk]))))))
      · exact Or.inl (Or.inr (Or.inr (Or.inr
          (onSegment_of_walk hs₀ hs₁ (heq.symm.trans (by simp [walk]))))))
      · exact Or.inr ⟨hcd', hab'⟩
  · intro h
    rcases h with (⟨hturn, hbox⟩ | ⟨hturn, hbox⟩ | ⟨hturn, hbox⟩ | ⟨hturn, hbox⟩) | ⟨h, h'⟩
    · obtain ⟨t, h₀, h₁, heq⟩ := exists_walk_of_turn hturn hbox
      exact ⟨t, 0, h₀, h₁, le_rfl, zero_le_one, heq.trans (by simp [walk])⟩
    · obtain ⟨t, h₀, h₁, heq⟩ := exists_walk_of_turn hturn hbox
      exact ⟨t, 1, h₀, h₁, zero_le_one, le_rfl, heq.trans (by simp [walk])⟩
    · obtain ⟨s, h₀, h₁, heq⟩ := exists_walk_of_turn hturn hbox
      exact ⟨0, s, le_rfl, zero_le_one, h₀, h₁, (heq.trans (by simp [walk])).symm⟩
    · obtain ⟨s, h₀, h₁, heq⟩ := exists_walk_of_turn hturn hbox
      exact ⟨1, s, zero_le_one, le_rfl, h₀, h₁, (heq.trans (by simp [walk])).symm⟩
    · exact meet_of_signs h h'

/-! ## The distance of a point from a segment -/

/-- The square of a distance. -/
def distSq (p q : ℝ × ℝ) : ℝ := (p.1 - q.1) ^ 2 + (p.2 - q.2) ^ 2

/-- How far a point is along a segment, in units of its length times its length. -/
def along (p a b : ℝ × ℝ) : ℝ := (p.1 - a.1) * (b.1 - a.1) + (p.2 - a.2) * (b.2 - a.2)

theorem distSq_walk (p a b : ℝ × ℝ) (t : ℝ) :
    distSq (walk a b t) p = t ^ 2 * distSq b a - 2 * t * along p a b + distSq p a := by
  simp only [distSq, walk, lerp, along]
  ring

/-- The distance along the segment and across it make up the distance. -/
theorem along_sq_add_turn_sq (p a b : ℝ × ℝ) :
    along p a b ^ 2 + turn a b p ^ 2 = distSq b a * distSq p a := by
  simp only [distSq, along, turn]
  ring

theorem distSq_nonneg (p q : ℝ × ℝ) : 0 ≤ distSq p q := by
  unfold distSq
  positivity

/-- Before its start, a segment is nearest at its start. -/
theorem near_start {p a b : ℝ × ℝ} (h : along p a b ≤ 0) {r : ℝ} :
    (∃ t, 0 ≤ t ∧ t ≤ 1 ∧ distSq (walk a b t) p ≤ r) ↔ distSq p a ≤ r := by
  constructor
  · rintro ⟨t, h₀, -, ht⟩
    rw [distSq_walk] at ht
    have h₂ := mul_nonneg (sq_nonneg t) (distSq_nonneg b a)
    have h₃ := mul_nonpos_of_nonneg_of_nonpos h₀ h
    linarith
  · intro ht
    refine ⟨0, le_rfl, zero_le_one, ?_⟩
    rw [distSq_walk]
    linarith

/-- Beyond its end, a segment is nearest at its end. -/
theorem near_end {p a b : ℝ × ℝ} (h : distSq b a ≤ along p a b) {r : ℝ} :
    (∃ t, 0 ≤ t ∧ t ≤ 1 ∧ distSq (walk a b t) p ≤ r) ↔ distSq p b ≤ r := by
  have hend : distSq p b = distSq (walk a b 1) p := by
    simp only [distSq, walk, lerp]
    ring
  rw [hend]
  constructor
  · rintro ⟨t, h₀, h₁, ht⟩
    rw [distSq_walk] at ht ⊢
    have hstep : 0 ≤ (1 - t) * (2 * along p a b - (t + 1) * distSq b a) := by
      apply mul_nonneg (by linarith)
      have := mul_le_mul_of_nonneg_right (by linarith : t + 1 ≤ 2) (distSq_nonneg b a)
      linarith
    nlinarith
  · intro ht
    exact ⟨1, zero_le_one, le_rfl, ht⟩

/-- In between, it is nearest at the foot of the perpendicular. -/
theorem near_foot {p a b : ℝ × ℝ} (h₀ : 0 < along p a b) (h₁ : along p a b < distSq b a) {r : ℝ} :
    (∃ t, 0 ≤ t ∧ t ≤ 1 ∧ distSq (walk a b t) p ≤ r) ↔ turn a b p ^ 2 ≤ r * distSq b a := by
  have hlength : 0 < distSq b a := h₀.trans h₁
  have hsq := along_sq_add_turn_sq p a b
  constructor
  · rintro ⟨t, -, -, ht⟩
    rw [distSq_walk] at ht
    have hmul := mul_le_mul_of_nonneg_right ht hlength.le
    have hfoot := sq_nonneg (t * distSq b a - along p a b)
    nlinarith
  · intro hturn
    refine ⟨along p a b / distSq b a, div_nonneg h₀.le hlength.le, ?_, ?_⟩
    · rw [div_le_one hlength]
      exact h₁.le
    · rw [distSq_walk, ← mul_le_mul_iff_left₀ hlength]
      calc ((along p a b / distSq b a) ^ 2 * distSq b a - 2 * (along p a b / distSq b a) *
              along p a b + distSq p a) * distSq b a
          = distSq b a * distSq p a - along p a b ^ 2 := by
            field_simp
            ring
        _ = turn a b p ^ 2 := by linarith
        _ ≤ r * distSq b a := hturn

/-- A segment keeps off a point exactly when its ends and the foot of the perpendicular do. -/
theorem forall_le_distSq_iff {p a b : ℝ × ℝ} {r : ℝ} :
    (∀ t, 0 ≤ t → t ≤ 1 → r ≤ distSq (walk a b t) p) ↔ r ≤ distSq p a ∧ r ≤ distSq p b ∧
      (0 < along p a b → along p a b < distSq b a → r * distSq b a ≤ turn a b p ^ 2) := by
  constructor
  · intro h
    have hstart : distSq (walk a b 0) p = distSq p a := by
      simp only [distSq, walk, lerp]
      ring
    have hend : distSq (walk a b 1) p = distSq p b := by
      simp only [distSq, walk, lerp]
      ring
    refine ⟨?_, ?_, ?_⟩
    · rw [← hstart]
      exact h 0 le_rfl zero_le_one
    · rw [← hend]
      exact h 1 zero_le_one le_rfl
    · intro h₀ h₁
      have hlength : 0 < distSq b a := h₀.trans h₁
      have hfoot : turn a b p ^ 2 ≤ turn a b p ^ 2 / distSq b a * distSq b a := by
        rw [div_mul_cancel₀ _ hlength.ne']
      obtain ⟨t, ht₀, ht₁, ht⟩ := (near_foot h₀ h₁).mpr hfoot
      rw [← le_div_iff₀ hlength]
      exact (h t ht₀ ht₁).trans ht
  · rintro ⟨hstart, hend, hfoot⟩ t h₀ h₁
    have hself : ∃ s, 0 ≤ s ∧ s ≤ 1 ∧ distSq (walk a b s) p ≤ distSq (walk a b t) p :=
      ⟨t, h₀, h₁, le_rfl⟩
    rcases le_or_gt (along p a b) 0 with hbefore | hafter
    · exact hstart.trans ((near_start hbefore).mp hself)
    · rcases le_or_gt (distSq b a) (along p a b) with hbeyond | hwithin
      · exact hend.trans ((near_end hbeyond).mp hself)
      · have hturn := (hfoot hafter hwithin).trans ((near_foot hafter hwithin).mp hself)
        exact le_of_mul_le_mul_right hturn (hafter.trans hwithin)

/-- No point of a chord is farther from a centre than both of its ends. -/
theorem distSq_walk_le {a b : ℝ × ℝ} {t : ℝ} (c : ℝ × ℝ) (h₀ : 0 ≤ t) (h₁ : t ≤ 1) :
    distSq (walk a b t) c ≤ max (distSq a c) (distSq b c) := by
  have hconvex : distSq (walk a b t) c ≤ (1 - t) * distSq a c + t * distSq b c := by
    have hlength := mul_nonneg (mul_nonneg h₀ (by linarith : 0 ≤ 1 - t)) (distSq_nonneg b a)
    have heq : (1 - t) * distSq a c + t * distSq b c - distSq (walk a b t) c =
        t * (1 - t) * distSq b a := by
      simp only [distSq, walk, lerp]
      ring
    linarith
  have ha := mul_le_mul_of_nonneg_left (le_max_left (distSq a c) (distSq b c))
    (by linarith : 0 ≤ 1 - t)
  have hb := mul_le_mul_of_nonneg_left (le_max_right (distSq a c) (distSq b c)) h₀
  linarith

/-! ## Boxes -/

/-- A walk that comes into an interval entered it at its start or through one of its ends. -/
theorem exists_entry {a b lo hi t : ℝ} (ht : 0 ≤ t) (h : lo ≤ lerp a b t ∧ lerp a b t ≤ hi) :
    ∃ s, 0 ≤ s ∧ s ≤ t ∧ (s = 0 ∨ lerp a b s = lo ∨ lerp a b s = hi) ∧
      ∀ u, s ≤ u → u ≤ t → lo ≤ lerp a b u ∧ lerp a b u ≤ hi := by
  have hwithin : ∀ s, 0 ≤ s → (lo ≤ lerp a b s ∧ lerp a b s ≤ hi) →
      ∀ u, s ≤ u → u ≤ t → lo ≤ lerp a b u ∧ lerp a b u ≤ hi :=
    fun s _ hs u hsu hut => lerp_between hsu hut hs h
  have hstart : lerp a b 0 = a := lerp_zero a b
  by_cases hlo : lo ≤ a
  · by_cases hhi : a ≤ hi
    · exact ⟨0, le_rfl, ht, Or.inl rfl, hwithin 0 le_rfl (by rw [hstart]; exact ⟨hlo, hhi⟩)⟩
    · obtain ⟨s, hs₀, hs, heq⟩ := exists_lerp_eq (a := a) (b := b) (c := hi) ht
        (Or.inr ⟨h.2, by linarith⟩)
      exact ⟨s, hs₀, hs, Or.inr (Or.inr heq), hwithin s hs₀ (by rw [heq]; constructor <;> linarith)⟩
  · obtain ⟨s, hs₀, hs, heq⟩ := exists_lerp_eq (a := a) (b := b) (c := lo) ht
      (Or.inl ⟨by linarith, h.1⟩)
    exact ⟨s, hs₀, hs, Or.inr (Or.inl heq), hwithin s hs₀ (by rw [heq]; constructor <;> linarith)⟩

/-- A box with its lower and its upper corner. -/
def Box (lo hi : ℝ × ℝ) (p : ℝ × ℝ) : Prop :=
  (lo.1 ≤ p.1 ∧ p.1 ≤ hi.1) ∧ (lo.2 ≤ p.2 ∧ p.2 ≤ hi.2)

/-- The point is on the edge of a box. -/
def OnEdge (lo hi : ℝ × ℝ) (p : ℝ × ℝ) : Prop :=
  Box lo hi p ∧ (p.1 = lo.1 ∨ p.1 = hi.1 ∨ p.2 = lo.2 ∨ p.2 = hi.2)

/-- A segment that comes into a box starts in it or passes its edge. -/
theorem start_or_edge {a b lo hi : ℝ × ℝ} {t : ℝ} (h₀ : 0 ≤ t) (h : Box lo hi (walk a b t)) :
    Box lo hi a ∨ ∃ s, 0 ≤ s ∧ s ≤ t ∧ OnEdge lo hi (walk a b s) := by
  obtain ⟨s, hs₀, hst, hs, hx⟩ := exists_entry h₀ h.1
  obtain ⟨s', hs₀', hst', hs', hy⟩ := exists_entry h₀ h.2
  rcases le_total s s' with hle | hle
  · have hbox : Box lo hi (walk a b s') := ⟨hx s' hle hst', hy s' le_rfl hst'⟩
    rcases hs' with rfl | hs' | hs'
    · left
      simpa [walk] using hbox
    · exact Or.inr ⟨s', hs₀', hst', hbox, Or.inr (Or.inr (Or.inl hs'))⟩
    · exact Or.inr ⟨s', hs₀', hst', hbox, Or.inr (Or.inr (Or.inr hs'))⟩
  · have hbox : Box lo hi (walk a b s) := ⟨hx s le_rfl hst, hy s hle hst⟩
    rcases hs with rfl | hs | hs
    · left
      simpa [walk] using hbox
    · exact Or.inr ⟨s, hs₀, hst, hbox, Or.inl hs⟩
    · exact Or.inr ⟨s, hs₀, hst, hbox, Or.inr (Or.inl hs)⟩

/-- What is found when a walk that is below a level, over the interval of a side, is followed
    upwards: the level over that interval, an end of the walk, or an end of the interval. -/
def Reached (ax bx ay by_ lo hi level from_ t : ℝ) : Prop :=
  0 ≤ t ∧ t ≤ 1 ∧ (lo ≤ lerp ax bx t ∧ lerp ax bx t ≤ hi) ∧ from_ ≤ lerp ay by_ t ∧
    lerp ay by_ t ≤ level ∧
    (lerp ay by_ t = level ∨ t = 0 ∨ t = 1 ∨ lerp ax bx t = lo ∨ lerp ax bx t = hi)

theorem exists_reached_up {ax bx ay by_ lo hi level t : ℝ} (h₀ : 0 ≤ t) (h₁ : t ≤ 1)
    (hx : lo ≤ lerp ax bx t ∧ lerp ax bx t ≤ hi) (hy : lerp ay by_ t ≤ level) (hup : ay ≤ by_) :
    ∃ s, Reached ax bx ay by_ lo hi level (lerp ay by_ t) s := by
  -- leave the interval of the side, or come to the end of the walk
  obtain ⟨s, hs₀, hst, hs, hwithin⟩ := exists_entry (a := bx) (b := ax) (t := 1 - t)
    (by linarith) (by rw [lerp_swap]; exact hx)
  have hmono : ∀ u, t ≤ u → lerp ay by_ t ≤ lerp ay by_ u := by
    intro u hu
    unfold lerp
    have := mul_le_mul_of_nonneg_right hu (by linarith : 0 ≤ by_ - ay)
    linarith
  have hwithin' : ∀ u, t ≤ u → u ≤ 1 - s → lo ≤ lerp ax bx u ∧ lerp ax bx u ≤ hi := by
    intro u htu hus
    rw [← lerp_swap]
    exact hwithin (1 - u) (by linarith) (by linarith)
  by_cases hlevel : lerp ay by_ (1 - s) ≤ level
  · refine ⟨1 - s, by linarith, by linarith, hwithin' _ (by linarith) le_rfl,
      hmono _ (by linarith), hlevel, Or.inr ?_⟩
    rw [← lerp_swap ax bx, sub_sub_cancel]
    rcases hs with rfl | hs | hs
    · exact Or.inr (Or.inl (sub_zero 1))
    · exact Or.inr (Or.inr (Or.inl hs))
    · exact Or.inr (Or.inr (Or.inr hs))
  · obtain ⟨u, htu, hus, heq⟩ := exists_lerp_eq (a := ay) (b := by_) (c := level)
      (by linarith : t ≤ 1 - s) (Or.inl ⟨hy, by linarith⟩)
    exact ⟨u, by linarith, by linarith, hwithin' u htu hus, hmono u htu, heq.le, Or.inl heq⟩

theorem exists_reached {ax bx ay by_ lo hi level t : ℝ} (h₀ : 0 ≤ t) (h₁ : t ≤ 1)
    (hx : lo ≤ lerp ax bx t ∧ lerp ax bx t ≤ hi) (hy : lerp ay by_ t ≤ level) :
    ∃ s, Reached ax bx ay by_ lo hi level (lerp ay by_ t) s := by
  rcases le_total ay by_ with hup | hdown
  · exact exists_reached_up h₀ h₁ hx hy hup
  · -- the walk is the other one, backwards
    obtain ⟨s, hs₀, hs₁, hsx, hfrom, hlevel, hs⟩ := @exists_reached_up bx ax by_ ay lo hi level (1 - t) (by linarith)
      (by linarith) (by rw [lerp_swap]; exact hx) (by rw [lerp_swap]; exact hy) hdown
    rw [lerp_swap] at hfrom
    refine ⟨1 - s, by linarith, by linarith, ?_⟩
    rw [lerp_swap, lerp_swap]
    refine ⟨hsx, hfrom, hlevel, ?_⟩
    rcases hs with hs | rfl | rfl | hs
    · exact Or.inl hs
    · exact Or.inr (Or.inr (Or.inl (sub_zero 1)))
    · exact Or.inr (Or.inl (sub_self 1))
    · exact Or.inr (Or.inr (Or.inr hs))

/-- The walk comes no farther from the level on its way, whether it is below or above. -/
theorem exists_closer {ax bx ay by_ lo hi level r t : ℝ} (h₀ : 0 ≤ t) (h₁ : t ≤ 1)
    (hx : lo ≤ lerp ax bx t ∧ lerp ax bx t ≤ hi) (hr : (lerp ay by_ t - level) ^ 2 ≤ r) :
    ∃ s, 0 ≤ s ∧ s ≤ 1 ∧ (lo ≤ lerp ax bx s ∧ lerp ax bx s ≤ hi) ∧
      (lerp ay by_ s - level) ^ 2 ≤ r ∧
      (lerp ay by_ s = level ∨ s = 0 ∨ s = 1 ∨ lerp ax bx s = lo ∨ lerp ax bx s = hi) := by
  rcases le_total (lerp ay by_ t) level with hy | hy
  · obtain ⟨s, hs₀, hs₁, hsx, hfrom, hlevel, hs⟩ := exists_reached h₀ h₁ hx hy
    refine ⟨s, hs₀, hs₁, hsx, le_trans ?_ hr, hs⟩
    nlinarith
  · obtain ⟨s, hs₀, hs₁, hsx, hfrom, hlevel, hs⟩ := @exists_reached ax bx (-ay) (-by_) lo hi (-level) t
      h₀ h₁ hx (by rw [lerp_neg]; linarith)
    rw [lerp_neg] at hfrom hlevel hs
    rw [lerp_neg] at hfrom
    refine ⟨s, hs₀, hs₁, hsx, le_trans ?_ hr, ?_⟩
    · nlinarith
    · rcases hs with hs | hs
      · exact Or.inl (by linarith)
      · exact Or.inr hs

/-- The four corners of a box. -/
def Corner (lo hi c : ℝ × ℝ) : Prop := (c.1 = lo.1 ∨ c.1 = hi.1) ∧ (c.2 = lo.2 ∨ c.2 = hi.2)

theorem Corner.box {lo hi c : ℝ × ℝ} (h : Corner lo hi c) (hx : lo.1 ≤ hi.1) (hy : lo.2 ≤ hi.2) :
    Box lo hi c := by
  constructor
  · rcases h.1 with h | h
    · exact ⟨h.ge, h.le.trans hx⟩
    · exact ⟨hx.trans h.ge, h.le⟩
  · rcases h.2 with h | h
    · exact ⟨h.ge, h.le.trans hy⟩
    · exact ⟨hy.trans h.ge, h.le⟩

/-- Where a segment is as close to a box as the square of a radius: it enters the box, or an end
    of it is close to the box, or a corner is close to it. -/
def Close (a b lo hi : ℝ × ℝ) (r : ℝ) : Prop :=
  (∃ t, 0 ≤ t ∧ t ≤ 1 ∧ Box lo hi (walk a b t)) ∨ (∃ q, Box lo hi q ∧ distSq a q ≤ r) ∨
    (∃ q, Box lo hi q ∧ distSq b q ≤ r) ∨
    ∃ c, Corner lo hi c ∧ ∃ t, 0 ≤ t ∧ t ≤ 1 ∧ distSq (walk a b t) c ≤ r

theorem distSq_swap (p q : ℝ × ℝ) : distSq p.swap q.swap = distSq p q := add_comm _ _

theorem Close.swap {a b lo hi : ℝ × ℝ} {r : ℝ} (h : Close a.swap b.swap lo.swap hi.swap r) :
    Close a b lo hi r := by
  rcases h with ⟨t, h₀, h₁, h⟩ | ⟨q, hq, h⟩ | ⟨q, hq, h⟩ | ⟨c, hc, t, h₀, h₁, h⟩
  · exact Or.inl ⟨t, h₀, h₁, h.2, h.1⟩
  · refine Or.inr (Or.inl ⟨q.swap, ⟨hq.2, hq.1⟩, ?_⟩)
    rw [← distSq_swap]
    exact h
  · refine Or.inr (Or.inr (Or.inl ⟨q.swap, ⟨hq.2, hq.1⟩, ?_⟩))
    rw [← distSq_swap]
    exact h
  · refine Or.inr (Or.inr (Or.inr ⟨c.swap, ⟨hc.2, hc.1⟩, t, h₀, h₁, ?_⟩))
    rw [← distSq_swap]
    exact h

/-- A point over a side of the box. -/
theorem close_of_side {a b lo hi : ℝ × ℝ} {r level t : ℝ} (hy : lo.2 ≤ hi.2)
    (hlevel : level = lo.2 ∨ level = hi.2) (h₀ : 0 ≤ t) (h₁ : t ≤ 1)
    (hx : lo.1 ≤ lerp a.1 b.1 t ∧ lerp a.1 b.1 t ≤ hi.1) (hr : (lerp a.2 b.2 t - level) ^ 2 ≤ r) :
    Close a b lo hi r := by
  have hin : lo.2 ≤ level ∧ level ≤ hi.2 := by
    rcases hlevel with rfl | rfl
    · exact ⟨le_rfl, hy⟩
    · exact ⟨hy, le_rfl⟩
  obtain ⟨s, hs₀, hs₁, hsx, hsr, hs⟩ := exists_closer h₀ h₁ hx hr
  rcases hs with hs | rfl | rfl | hs | hs
  · left
    refine ⟨s, hs₀, hs₁, hsx, ?_⟩
    show lo.2 ≤ lerp a.2 b.2 s ∧ lerp a.2 b.2 s ≤ hi.2
    rw [hs]
    exact hin
  · rw [lerp_zero] at hsx hsr
    refine Or.inr (Or.inl ⟨(a.1, level), ⟨hsx, hin⟩, ?_⟩)
    simpa [distSq] using hsr
  · rw [lerp_one] at hsx hsr
    refine Or.inr (Or.inr (Or.inl ⟨(b.1, level), ⟨hsx, hin⟩, ?_⟩))
    simpa [distSq] using hsr
  · refine Or.inr (Or.inr (Or.inr ⟨(lo.1, level), ⟨Or.inl rfl, hlevel⟩, s, hs₀, hs₁, ?_⟩))
    simpa [distSq, walk, hs] using hsr
  · refine Or.inr (Or.inr (Or.inr ⟨(hi.1, level), ⟨Or.inr rfl, hlevel⟩, s, hs₀, hs₁, ?_⟩))
    simpa [distSq, walk, hs] using hsr

/-- A number outside an interval is nearest to one of its ends. -/
theorem nearest_end {lo hi p q : ℝ} (hq : lo ≤ q ∧ q ≤ hi) (hp : ¬(lo ≤ p ∧ p ≤ hi)) :
    ∃ c, (c = lo ∨ c = hi) ∧ (p - c) ^ 2 ≤ (p - q) ^ 2 := by
  by_cases hlo : lo ≤ p
  · have hhi : hi < p := by
      by_contra hle
      exact hp ⟨hlo, not_lt.mp hle⟩
    refine ⟨hi, Or.inr rfl, ?_⟩
    nlinarith [hq.2]
  · refine ⟨lo, Or.inl rfl, ?_⟩
    nlinarith [hq.1, not_le.mp hlo]

/-- A segment is as close to a box as a radius exactly where it is seen to be. -/
theorem close_iff {a b lo hi : ℝ × ℝ} {r : ℝ} (hx : lo.1 ≤ hi.1) (hy : lo.2 ≤ hi.2) (hr : 0 ≤ r) :
    (∃ t, 0 ≤ t ∧ t ≤ 1 ∧ ∃ q, Box lo hi q ∧ distSq (walk a b t) q ≤ r) ↔ Close a b lo hi r := by
  constructor
  · rintro ⟨t, h₀, h₁, q, hq, h⟩
    have hdx : (lerp a.1 b.1 t - q.1) ^ 2 ≤ r := le_trans (by
      unfold distSq
      exact le_add_of_nonneg_right (sq_nonneg _)) h
    have hdy : (lerp a.2 b.2 t - q.2) ^ 2 ≤ r := le_trans (by
      unfold distSq
      exact le_add_of_nonneg_left (sq_nonneg _)) h
    by_cases hinx : lo.1 ≤ lerp a.1 b.1 t ∧ lerp a.1 b.1 t ≤ hi.1
    · by_cases hiny : lo.2 ≤ lerp a.2 b.2 t ∧ lerp a.2 b.2 t ≤ hi.2
      · exact Or.inl ⟨t, h₀, h₁, hinx, hiny⟩
      · obtain ⟨level, hlevel, hle⟩ := nearest_end hq.2 hiny
        exact close_of_side hy hlevel h₀ h₁ hinx (hle.trans hdy)
    · obtain ⟨cx, hcx, hlex⟩ := nearest_end hq.1 hinx
      by_cases hiny : lo.2 ≤ lerp a.2 b.2 t ∧ lerp a.2 b.2 t ≤ hi.2
      · apply Close.swap
        exact @close_of_side a.swap b.swap lo.swap hi.swap _ _ _ hx hcx h₀ h₁
          hiny (hlex.trans hdx)
      · obtain ⟨cy, hcy, hley⟩ := nearest_end hq.2 hiny
        refine Or.inr (Or.inr (Or.inr ⟨(cx, cy), ⟨hcx, hcy⟩, t, h₀, h₁, le_trans ?_ h⟩))
        exact add_le_add hlex hley
  · rintro (⟨t, h₀, h₁, h⟩ | ⟨q, hq, h⟩ | ⟨q, hq, h⟩ | ⟨c, hc, t, h₀, h₁, h⟩)
    · refine ⟨t, h₀, h₁, walk a b t, h, ?_⟩
      simpa [distSq] using hr
    · refine ⟨0, le_rfl, zero_le_one, q, hq, ?_⟩
      simpa [walk] using h
    · refine ⟨1, zero_le_one, le_rfl, q, hq, ?_⟩
      simpa [walk] using h
    · exact ⟨t, h₀, h₁, c, hc.box hx hy, h⟩

/-! ## The distance of two sets -/

/-- The Euclidean distance. -/
noncomputable def distance (p q : ℝ × ℝ) : ℝ := √(distSq p q)

theorem distance_le_iff {p q : ℝ × ℝ} {r : ℝ} (hr : 0 ≤ r) :
    distance p q ≤ r ↔ distSq p q ≤ r ^ 2 := Real.sqrt_le_left hr

theorem le_distance_iff {p q : ℝ × ℝ} {r : ℝ} :
    r ≤ distance p q ↔ max 0 r ^ 2 ≤ distSq p q := by
  rw [← Real.le_sqrt (le_max_left 0 r), max_le_iff, and_iff_right (Real.sqrt_nonneg _), distance]
  exact distSq_nonneg p q

/-- The distance of two sets: the greatest number that no pair of their points falls below. -/
noncomputable def gap (S T : Set (ℝ × ℝ)) : ℝ := sInf {d | ∃ p ∈ S, ∃ q ∈ T, d = distance p q}

/-- The distance of two compact sets is that of two of their points. -/
theorem gap_le_iff {S T : Set (ℝ × ℝ)} (hS : IsCompact S) (hT : IsCompact T) (hS' : S.Nonempty)
    (hT' : T.Nonempty) {r : ℝ} : gap S T ≤ r ↔ ∃ p ∈ S, ∃ q ∈ T, distance p q ≤ r := by
  have hcont : Continuous fun pair : (ℝ × ℝ) × (ℝ × ℝ) => distance pair.1 pair.2 := by
    unfold distance distSq
    fun_prop
  obtain ⟨⟨p, q⟩, ⟨hp, hq⟩, hmin⟩ := (hS.prod hT).exists_isMinOn (hS'.prod hT') hcont.continuousOn
  have hgap : gap S T = distance p q := by
    refine IsLeast.csInf_eq ⟨⟨p, hp, q, hq, rfl⟩, ?_⟩
    rintro d ⟨p', hp', q', hq', rfl⟩
    exact hmin (Set.mk_mem_prod hp' hq')
  rw [hgap]
  constructor
  · intro h
    exact ⟨p, hp, q, hq, h⟩
  · rintro ⟨p', hp', q', hq', h⟩
    exact le_trans (hmin (Set.mk_mem_prod hp' hq')) h

theorem mem_segment_iff {a b p : ℝ × ℝ} :
    p ∈ segment ℝ a b ↔ ∃ t, 0 ≤ t ∧ t ≤ 1 ∧ walk a b t = p := by
  have hwalk : ∀ t : ℝ, walk a b t = a + t • (b - a) := by
    intro t
    simp only [walk, lerp]
    rfl
  rw [segment_eq_image']
  constructor
  · rintro ⟨t, ht, rfl⟩
    exact ⟨t, ht.1, ht.2, hwalk t⟩
  · rintro ⟨t, h₀, h₁, rfl⟩
    exact ⟨t, ⟨h₀, h₁⟩, (hwalk t).symm⟩

theorem isCompact_segment (a b : ℝ × ℝ) : IsCompact (segment ℝ a b) := by
  rw [segment_eq_image']
  exact isCompact_Icc.image (by fun_prop)

theorem mem_box_iff {lo hi p : ℝ × ℝ} : p ∈ Set.Icc lo hi ↔ Box lo hi p := by
  rw [Set.mem_Icc, Prod.le_def, Prod.le_def, Box]
  tauto

/-- The distance of a segment from a box. -/
theorem gap_segment_box_le_iff {a b lo hi : ℝ × ℝ} {r : ℝ} (hx : lo.1 ≤ hi.1) (hy : lo.2 ≤ hi.2)
    (hr : 0 ≤ r) : gap (segment ℝ a b) (Set.Icc lo hi) ≤ r ↔ Close a b lo hi (r ^ 2) := by
  rw [gap_le_iff (isCompact_segment a b) isCompact_Icc ⟨a, left_mem_segment ℝ a b⟩
    ⟨lo, mem_box_iff.mpr ⟨⟨le_rfl, hx⟩, le_rfl, hy⟩⟩, ← close_iff hx hy (sq_nonneg r)]
  constructor
  · rintro ⟨p, hp, q, hq, h⟩
    obtain ⟨t, h₀, h₁, rfl⟩ := mem_segment_iff.mp hp
    exact ⟨t, h₀, h₁, q, mem_box_iff.mp hq, (distance_le_iff hr).mp h⟩
  · rintro ⟨t, h₀, h₁, q, hq, h⟩
    exact ⟨_, mem_segment_iff.mpr ⟨t, h₀, h₁, rfl⟩, q, mem_box_iff.mpr hq,
      (distance_le_iff hr).mpr h⟩

end Custombuild.Lib
