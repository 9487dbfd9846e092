/-
  Parallel lanes that cover a box: where neighbouring lanes are at most two radii apart and the
  sides of the box are swept too, every point within a radius of the box is within a radius of
  what is swept.
-/
import Custombuild.Lib.Segments

namespace Custombuild.Lib

/-- Of lanes whose gaps are at most two radii, one is within a radius of any number between the
    first and the last. -/
theorem exists_lane {gap : Int} {r : ℝ} (hr : 0 ≤ r) (hgap : (gap : ℝ) ≤ 2 * r) {first : Int}
    {rest : List Int} (h : List.IsChain (fun a b => b - a ≤ gap) (first :: rest)) {y : ℝ}
    (hlo : (first : ℝ) ≤ y) (hhi : y ≤ ((first :: rest).getLast (List.cons_ne_nil _ _) : Int)) :
    ∃ lane ∈ first :: rest, |y - (lane : ℝ)| ≤ r := by
  induction rest generalizing first with
  | nil =>
    have heq : y = first := le_antisymm hhi hlo
    exact ⟨first, List.mem_singleton_self _, by rw [heq, sub_self, abs_zero]; exact hr⟩
  | cons second rest ih =>
    rw [List.isChain_cons_cons] at h
    by_cases hbelow : y ≤ second
    · have hstep : (second : ℝ) - first ≤ 2 * r := by
        have : ((second - first : Int) : ℝ) ≤ gap := by exact_mod_cast h.1
        push_cast at this
        linarith
      -- between two neighbours, the nearer one is within half of their gap
      rcases le_total (y - first) (second - y) with hnear | hnear
      · refine ⟨first, List.mem_cons_self, ?_⟩
        rw [abs_of_nonneg (by linarith)]
        linarith
      · refine ⟨second, List.mem_cons_of_mem _ List.mem_cons_self, ?_⟩
        rw [abs_of_nonpos (by linarith)]
        linarith
    · obtain ⟨lane, hlane, hnear⟩ := ih h.2 (not_le.mp hbelow).le
        (by simpa only [List.getLast_cons_cons] using hhi)
      exact ⟨lane, List.mem_cons_of_mem _ hlane, hnear⟩

/-- What is swept covers a box: every point within the radius of the box is within the radius of
    a swept point. -/
def Covers (lo hi : ℝ × ℝ) (r : ℝ) (swept : Set (ℝ × ℝ)) : Prop :=
  ∀ p c, Box lo hi c → distance p c ≤ r → ∃ s ∈ swept, distance p s ≤ r

section Covering

variable {lo hi : ℝ × ℝ} {r : ℝ} {swept : Set (ℝ × ℝ)}

theorem distance_swap (p q : ℝ × ℝ) : distance p.swap q.swap = distance p q := by
  rw [distance, distance, distSq_swap]

theorem Covers.swap (h : Covers lo.swap hi.swap r (Set.preimage Prod.swap swept)) :
    Covers lo hi r swept := by
  intro p c hc hp
  obtain ⟨s, hs, hps⟩ := h p.swap c.swap ⟨hc.2, hc.1⟩ (by rw [distance_swap]; exact hp)
  refine ⟨s.swap, hs, ?_⟩
  rw [← distance_swap, Prod.swap_swap]
  exact hps

/-- The point of an interval that is nearest to a number. -/
theorem exists_clamp {lo hi p q : ℝ} (hq : lo ≤ q ∧ q ≤ hi) :
    ∃ c, (lo ≤ c ∧ c ≤ hi) ∧ (p - c) ^ 2 ≤ (p - q) ^ 2 ∧
      (c = p ∨ ¬(lo ≤ p ∧ p ≤ hi) ∧ (c = lo ∨ c = hi)) := by
  by_cases hp : lo ≤ p ∧ p ≤ hi
  · refine ⟨p, hp, ?_, Or.inl rfl⟩
    rw [sub_self, zero_pow two_ne_zero]
    exact sq_nonneg _
  · obtain ⟨c, hc, hle⟩ := nearest_end hq hp
    refine ⟨c, ?_, hle, Or.inr ⟨hp, hc⟩⟩
    rcases hc with rfl | rfl
    · exact ⟨le_rfl, hq.1.trans hq.2⟩
    · exact ⟨hq.1.trans hq.2, le_rfl⟩

/-- Lanes along the first axis, the first and the last of them on the box, with the two other
    sides, cover the box. -/
theorem covers_of_lanes (hr : 0 ≤ r)
    (hlanes : ∀ y, lo.2 ≤ y → y ≤ hi.2 → ∃ lane, |y - lane| ≤ r ∧
      ∀ x, lo.1 ≤ x → x ≤ hi.1 → (x, lane) ∈ swept)
    (hlow : ∀ x, lo.1 ≤ x → x ≤ hi.1 → (x, lo.2) ∈ swept)
    (hhigh : ∀ x, lo.1 ≤ x → x ≤ hi.1 → (x, hi.2) ∈ swept)
    (hsides : lo.2 < hi.2 → ∀ y, lo.2 ≤ y → y ≤ hi.2 → (lo.1, y) ∈ swept ∧ (hi.1, y) ∈ swept) :
    Covers lo hi r swept := by
  intro p c hc hp
  obtain ⟨cx, hcx, hdx, hx⟩ := exists_clamp (p := p.1) hc.1
  obtain ⟨cy, hcy, hdy, hy⟩ := exists_clamp (p := p.2) hc.2
  -- the nearest point of the box is within the radius
  have hnear : distance p (cx, cy) ≤ r :=
    (Real.sqrt_le_sqrt (add_le_add hdx hdy)).trans hp
  rcases hx with rfl | ⟨-, hx⟩
  · rcases hy with rfl | ⟨-, hy⟩
    · obtain ⟨lane, hlane, hswept⟩ := hlanes p.2 hcy.1 hcy.2
      refine ⟨_, hswept p.1 hcx.1 hcx.2, ?_⟩
      rw [distance_le_iff hr]
      have hsq : (p.2 - lane) ^ 2 ≤ r ^ 2 := by
        rw [← sq_abs (p.2 - lane)]
        exact pow_le_pow_left₀ (abs_nonneg _) hlane 2
      simpa [distSq] using hsq
    · rcases hy with rfl | rfl
      · exact ⟨_, hlow p.1 hcx.1 hcx.2, hnear⟩
      · exact ⟨_, hhigh p.1 hcx.1 hcx.2, hnear⟩
  · by_cases hflat : lo.2 < hi.2
    · obtain ⟨hleft, hright⟩ := hsides hflat cy hcy.1 hcy.2
      rcases hx with rfl | rfl
      · exact ⟨_, hleft, hnear⟩
      · exact ⟨_, hright, hnear⟩
    · have hcyLow : cy = lo.2 := le_antisymm (hcy.2.trans (not_lt.mp hflat)) hcy.1
      rw [hcyLow] at hnear
      exact ⟨_, hlow cx hcx.1 hcx.2, hnear⟩

/-- Lanes of whole positions along the first axis, from one side of a box to the other. -/
theorem covers_of_rows {left right : ℝ} {gap first last : Int} {lanes : List Int} (hr : 0 ≤ r)
    (hgap : (gap : ℝ) ≤ 2 * r) (hchain : List.IsChain (fun a b => b - a ≤ gap) lanes)
    (hfirst : lanes.head? = some first) (hlast : lanes.getLast? = some last)
    (hlanes : ∀ lane ∈ lanes, ∀ x, left ≤ x → x ≤ right → (x, (lane : ℝ)) ∈ swept)
    (hsides : first < last → ∀ y, (first : ℝ) ≤ y → y ≤ last →
      (left, y) ∈ swept ∧ (right, y) ∈ swept) :
    Covers (left, (first : ℝ)) (right, (last : ℝ)) r swept := by
  refine covers_of_lanes hr ?_ (hlanes first (List.mem_of_head? hfirst))
    (hlanes last (List.mem_of_getLast? hlast)) ?_
  · intro y hlo hhi
    obtain ⟨rest, rfl⟩ : ∃ rest, lanes = first :: rest := List.head?_eq_some_iff.mp hfirst
    rw [List.getLast?_eq_some_getLast (List.cons_ne_nil _ _)] at hlast
    obtain ⟨lane, hlane, hnear⟩ := exists_lane hr hgap hchain hlo
      (by rw [Option.some.inj hlast]; exact hhi)
    exact ⟨lane, hnear, hlanes lane hlane⟩
  · intro hlt
    exact hsides (Int.cast_lt.mp hlt)

/-- The same along the second axis. -/
theorem covers_of_columns {bottom top : ℝ} {gap first last : Int} {lanes : List Int} (hr : 0 ≤ r)
    (hgap : (gap : ℝ) ≤ 2 * r) (hchain : List.IsChain (fun a b => b - a ≤ gap) lanes)
    (hfirst : lanes.head? = some first) (hlast : lanes.getLast? = some last)
    (hlanes : ∀ lane ∈ lanes, ∀ y, bottom ≤ y → y ≤ top → ((lane : ℝ), y) ∈ swept)
    (hsides : first < last → ∀ x, (first : ℝ) ≤ x → x ≤ last →
      (x, bottom) ∈ swept ∧ (x, top) ∈ swept) :
    Covers ((first : ℝ), bottom) ((last : ℝ), top) r swept := by
  apply Covers.swap
  exact covers_of_rows hr hgap hchain hfirst hlast hlanes hsides

end Covering

/-- The points of a segment parallel to the first axis. -/
theorem mem_segment_of_lane {left right lane x : ℝ} (h : left ≤ x ∧ x ≤ right) :
    (x, lane) ∈ segment ℝ (left, lane) (right, lane) := by
  rw [mem_segment_iff]
  have hturn : turn (left, lane) (right, lane) (x, lane) = 0 := by
    simp only [turn]
    ring
  have hbox : InBox (x, lane) (left, lane) (right, lane) := by
    have hle := h.1.trans h.2
    simp only [InBox, min_self, max_self, min_eq_left hle, max_eq_right hle]
    exact ⟨h, le_rfl, le_rfl⟩
  exact exists_walk_of_turn hturn hbox

/-- The points of a segment parallel to the second axis. -/
theorem mem_segment_of_side {bottom top side y : ℝ} (h : bottom ≤ y ∧ y ≤ top) :
    (side, y) ∈ segment ℝ (side, bottom) (side, top) := by
  rw [mem_segment_iff]
  obtain ⟨t, h₀, h₁, heq⟩ := mem_segment_iff.mp (@mem_segment_of_lane _ _ side _ h)
  refine ⟨t, h₀, h₁, ?_⟩
  have hswap := congrArg Prod.swap heq
  exact hswap

end Custombuild.Lib
