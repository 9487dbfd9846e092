/-
  Bays and openings to the micrometre.

  The widths of the bays sum to the clear width, each is its exact quota rounded down or up, and the
  larger remainders are rounded up first.  The openings that are measured around shelves give back
  the shelves, and with the shelves they fill the inner height.
-/
import Custombuild.Domain.BayShares

namespace Custombuild.Domain

open Custombuild.Lib

/-! ## Bays -/

section Shares

variable {available : Int} {weights shares : List Int}

/-- The exact share of a place. -/
def quota (available : Int) (weights : List Int) (i : Nat) : ℚ :=
  available * weights.getD i 0 / weights.sum

/-- What is lost when the exact share of a place is rounded down, in units of the weights. -/
def lostBy (available : Int) (weights : List Int) (i : Nat) : Int :=
  available * weights.getD i 0 % weights.sum

/-- The shares divide the whole: each is its quota rounded down or up, and no place is rounded up
    before one with a larger remainder, or with the same one and a smaller index. -/
structure ExactShares (available : Int) (weights shares : List Int) : Prop where
  length : shares.length = weights.length
  sum : shares.sum = available
  rounded : ∀ i < weights.length, shares.getD i 0 = ⌊quota available weights i⌋ ∨
    shares.getD i 0 = ⌈quota available weights i⌉
  largest : ∀ i < weights.length, ∀ j < weights.length,
    ⌊quota available weights i⌋ < shares.getD i 0 → shares.getD j 0 = ⌊quota available weights j⌋ →
      lostBy available weights j < lostBy available weights i ∨
        lostBy available weights j = lostBy available weights i ∧ i < j

theorem floor_quota (htotal : 0 < weights.sum) (i : Nat) :
    ⌊quota available weights i⌋ = available * weights.getD i 0 / weights.sum := by
  unfold quota
  obtain ⟨n, hn⟩ := Int.eq_ofNat_of_zero_le htotal.le
  rw [hn]
  exact_mod_cast Rat.floor_intCast_div_natCast (available * weights.getD i 0) n

/-- A fair division is exact. -/
theorem exactShares_of_fair {n : Nat} (hlength : weights.length = n) (hlength' : shares.length = n)
    (htotal : 0 < weights.sum)
    (h : Fair available (entries n weights) (entries n shares)) :
    ExactShares available weights shares := by
  have hweights : ∑ k, entries n weights k = weights.sum := sum_entries hlength
  have hpos : 0 < ∑ k, entries n weights k := by rw [hweights]; exact htotal
  -- the excess of a place, and the division with a remainder behind it
  have hexcess (i : Nat) (hi : i < n) :
      excess available (entries n weights) (entries n shares) ⟨i, hi⟩ =
        weights.sum * shares.getD i 0 - available * weights.getD i 0 := by
    unfold excess
    rw [hweights]
    rfl
  have hdivision (i : Nat) := Int.mul_ediv_add_emod (available * weights.getD i 0) weights.sum
  refine ⟨by omega, by rw [← sum_entries hlength', h.sum], fun i hi => ?_, fun i hi j hj hup hdown => ?_⟩
  · have hrange := h.excess_range hpos ⟨i, hlength ▸ hi⟩
    rw [hexcess, hweights] at hrange
    have htotal' : (0 : ℚ) < weights.sum := by exact_mod_cast htotal
    have hlow : quota available weights i - 1 < shares.getD i 0 := by
      unfold quota
      rw [div_sub_one htotal'.ne', div_lt_iff₀ htotal']
      have hlt : available * weights.getD i 0 - weights.sum < shares.getD i 0 * weights.sum := by
        rw [Int.mul_comm (shares.getD i 0)]
        omega
      exact_mod_cast hlt
    have hhigh : (shares.getD i 0 : ℚ) < quota available weights i + 1 := by
      unfold quota
      rw [div_add_one htotal'.ne', lt_div_iff₀ htotal']
      have hlt : shares.getD i 0 * weights.sum < available * weights.getD i 0 + weights.sum := by
        rw [Int.mul_comm (shares.getD i 0)]
        omega
      exact_mod_cast hlt
    rcases le_or_gt (shares.getD i 0 : ℚ) (quota available weights i) with hle | hgt
    · refine Or.inl (Int.floor_eq_iff.mpr ⟨hle, ?_⟩).symm
      linarith
    · refine Or.inr (Int.ceil_eq_iff.mpr ⟨?_, hgt.le⟩).symm
      linarith
  · rw [floor_quota htotal] at hup hdown
    have hi' : i < n := hlength ▸ hi
    have hj' : j < n := hlength ▸ hj
    have hmore : weights.sum * (available * weights.getD i 0 / weights.sum + 1) ≤
        weights.sum * shares.getD i 0 := Int.mul_le_mul_of_nonneg_left hup htotal.le
    rw [Int.mul_add, Int.mul_one] at hmore
    have hclose := h.close ⟨i, hi'⟩ ⟨j, hj'⟩
    rw [hexcess i hi', hexcess j hj', hweights, hdown] at hclose
    have hdivI := hdivision i
    have hdivJ := hdivision j
    unfold lostBy
    rcases lt_trichotomy i j with hlt | rfl | hlt
    · omega
    · omega
    · have hearly := h.early ⟨i, hi'⟩ ⟨j, hj'⟩ (Fin.lt_def.mpr hlt)
      rw [hexcess i hi', hexcess j hj', hweights, hdown] at hearly
      omega

/-- The weights by which a width is divided. -/
def divisionWeights (dividerCount : Nat) (ratiosPpm : List Int) : List Int :=
  if ratiosPpm.length = dividerCount + 1 then ratiosPpm else List.replicate (dividerCount + 1) 1

theorem exactShares_allocateBayWidthsUm (innerWidthUm thicknessUm : Int) (dividerCount : Nat)
    {ratiosPpm : List Int} (hratios : ∀ ratio ∈ ratiosPpm, 0 < ratio) :
    ExactShares (innerWidthUm - dividerCount * thicknessUm)
      (divisionWeights dividerCount ratiosPpm)
      (allocateBayWidthsUm innerWidthUm thicknessUm dividerCount ratiosPpm) := by
  unfold divisionWeights allocateBayWidthsUm
  simp only
  split
  · next hlength =>
    have htotal : 0 < ratiosPpm.sum := by
      refine List.sum_pos _ hratios fun hnil => ?_
      rw [hnil] at hlength
      exact absurd hlength (by simp)
    refine exactShares_of_fair rfl ?_ htotal (fair_ratioWidths htotal)
    unfold ratioWidths
    simp
  · refine exactShares_of_fair List.length_replicate (length_equalShares _ _) ?_
      (fair_equalShares _ (Nat.succ_pos _))
    rw [List.sum_replicate, nsmul_eq_mul, mul_one]
    exact_mod_cast Nat.succ_pos dividerCount

end Shares

/-! ## Shelves -/

section Shelves

variable (thicknessUm : Int)

/-- The openings around shelves: stacked again they give back the shelves, and with the shelves
    they fill the height. -/
structure ShelfLayout (bottomSurfaceZUm innerHeightUm : Int) (positions openings : List Int) :
    Prop where
  length : openings.length = positions.length + 1
  stacked : stackShelves thicknessUm bottomSurfaceZUm openings.dropLast = positions
  filled : openings.sum + positions.length * thicknessUm = innerHeightUm

theorem openingHeights_ne_nil (topZUm cursor : Int) (positions : List Int) :
    openingHeights thicknessUm topZUm cursor positions ≠ [] := by
  cases positions with
  | nil => exact List.cons_ne_nil _ _
  | cons position positions => exact List.cons_ne_nil _ _

theorem length_openingHeights (topZUm cursor : Int) (positions : List Int) :
    (openingHeights thicknessUm topZUm cursor positions).length = positions.length + 1 := by
  induction positions generalizing cursor with
  | nil => rfl
  | cons position positions ih =>
    unfold openingHeights
    rw [List.length_cons, List.length_cons, ih]

/-- Stacking is the inverse of measuring. -/
theorem stackShelves_openingHeights (topZUm cursor : Int) (positions : List Int) :
    stackShelves thicknessUm cursor (openingHeights thicknessUm topZUm cursor positions).dropLast =
      positions := by
  induction positions generalizing cursor with
  | nil => rfl
  | cons position positions ih =>
    unfold openingHeights
    rw [List.dropLast_cons_of_ne_nil (openingHeights_ne_nil _ _ _ _)]
    unfold stackShelves
    rw [show cursor + (position - cursor) = position by omega, ih]

/-- Measuring is the inverse of stacking. -/
theorem openingHeights_stackShelves (topZUm cursor : Int) (openings : List Int) :
    openingHeights thicknessUm topZUm cursor (stackShelves thicknessUm cursor openings) =
      openings ++ [topZUm - (cursor + openings.sum + openings.length * thicknessUm)] := by
  induction openings generalizing cursor with
  | nil =>
    simp [stackShelves, openingHeights]
  | cons opening openings ih =>
    unfold stackShelves openingHeights
    rw [ih, List.cons_append, List.sum_cons, List.length_cons]
    congr 2
    · omega
    · push_cast
      ring_nf

theorem sum_openingHeights (topZUm cursor : Int) (positions : List Int) :
    (openingHeights thicknessUm topZUm cursor positions).sum + positions.length * thicknessUm =
      topZUm - cursor := by
  induction positions generalizing cursor with
  | nil => simp [openingHeights]
  | cons position positions ih =>
    have hrest := ih (position + thicknessUm)
    unfold openingHeights
    rw [List.sum_cons, List.length_cons]
    push_cast
    rw [Int.add_mul, Int.one_mul]
    omega

theorem shelfLayout_shelfOpeningHeightsUm (bottomSurfaceZUm innerHeightUm : Int)
    (positions : List Int) : ShelfLayout thicknessUm bottomSurfaceZUm innerHeightUm positions
      (shelfOpeningHeightsUm bottomSurfaceZUm innerHeightUm thicknessUm positions) where
  length := length_openingHeights _ _ _ _
  stacked := stackShelves_openingHeights _ _ _ _
  filled := by
    unfold shelfOpeningHeightsUm
    rw [sum_openingHeights]
    omega

/-- Without ratios the openings are equal shares of the height that the shelves leave. -/
theorem openings_equal (bottomSurfaceZUm innerHeightUm : Int) {shelfCount : Nat}
    {ratiosPpm : List Int} (hmode : shelfCount = 0 ∨ ratiosPpm.length ≠ shelfCount) :
    shelfOpeningHeightsUm bottomSurfaceZUm innerHeightUm thicknessUm (allocateShelfPositionsUm
        bottomSurfaceZUm innerHeightUm thicknessUm shelfCount ratiosPpm) =
      equalShares (innerHeightUm - shelfCount * thicknessUm) (shelfCount + 1) := by
  have hlength := length_equalShares (innerHeightUm - shelfCount * thicknessUm) (shelfCount + 1)
  have hsum : (equalShares (innerHeightUm - shelfCount * thicknessUm) (shelfCount + 1)).sum =
      innerHeightUm - shelfCount * thicknessUm := by
    rw [← sum_entries hlength]
    exact (fair_equalShares _ (Nat.succ_pos _)).sum
  have hpositions : allocateShelfPositionsUm bottomSurfaceZUm innerHeightUm thicknessUm shelfCount
      ratiosPpm = stackShelves thicknessUm bottomSurfaceZUm
        ((equalShares (innerHeightUm - shelfCount * thicknessUm) (shelfCount + 1)).take
          shelfCount) := by
    unfold allocateShelfPositionsUm
    by_cases hzero : shelfCount = 0
    · rw [if_pos hzero, hzero, List.take_zero]
      rfl
    · rw [if_neg hzero, if_neg (hmode.resolve_left hzero)]
  -- the last opening is what the sum leaves
  have htake : (equalShares (innerHeightUm - shelfCount * thicknessUm) (shelfCount + 1)).take
      shelfCount = (equalShares (innerHeightUm - shelfCount * thicknessUm)
        (shelfCount + 1)).dropLast := by
    rw [List.dropLast_eq_take, hlength, Nat.add_sub_cancel]
  obtain ⟨front, last, hsplit⟩ := List.eq_nil_or_concat'
    (equalShares (innerHeightUm - shelfCount * thicknessUm) (shelfCount + 1)) |>.resolve_left
      (List.ne_nil_of_length_pos (by omega))
  rw [hpositions, htake]
  unfold shelfOpeningHeightsUm
  rw [openingHeights_stackShelves]
  rw [hsplit] at hlength hsum ⊢
  rw [List.dropLast_concat]
  rw [List.length_append, List.length_singleton] at hlength
  rw [List.sum_append, List.sum_singleton] at hsum
  congr 2
  have hcount : front.length = shelfCount := by omega
  rw [hcount]
  omega

end Shelves

theorem equalShares_close {total : Int} {count : Nat} {a b : Int} (ha : a ∈ equalShares total count)
    (hb : b ∈ equalShares total count) : a ≤ b + 1 := by
  unfold equalShares at ha hb
  rw [List.mem_map] at ha hb
  obtain ⟨i, -, rfl⟩ := ha
  obtain ⟨j, -, rfl⟩ := hb
  split <;> split <;> omega

/-- Nothing is lost or added when bays and shelves are allocated. -/
theorem allocations_exact (innerWidthUm thicknessUm : Int) (dividerCount : Nat)
    {ratiosPpm : List Int} (hratios : ∀ ratio ∈ ratiosPpm, 0 < ratio)
    (bottomSurfaceZUm innerHeightUm shelfThicknessUm : Int) (shelfCount : Nat)
    (shelfRatiosPpm positions openings : List Int)
    (hpositions : positions = allocateShelfPositionsUm bottomSurfaceZUm innerHeightUm
      shelfThicknessUm shelfCount shelfRatiosPpm)
    (hopenings : openings = shelfOpeningHeightsUm bottomSurfaceZUm innerHeightUm shelfThicknessUm
      positions) :
    ExactShares (innerWidthUm - dividerCount * thicknessUm)
        (divisionWeights dividerCount ratiosPpm)
        (allocateBayWidthsUm innerWidthUm thicknessUm dividerCount ratiosPpm) ∧
      positions.length = shelfCount ∧
      ShelfLayout shelfThicknessUm bottomSurfaceZUm innerHeightUm positions openings ∧
      (shelfCount = 0 ∨ shelfRatiosPpm.length ≠ shelfCount →
        ∀ a ∈ openings, ∀ b ∈ openings, a ≤ b + 1) := by
  subst hpositions hopenings
  refine ⟨exactShares_allocateBayWidthsUm innerWidthUm thicknessUm dividerCount hratios,
    length_allocateShelfPositionsUm _ _ _ _ _, shelfLayout_shelfOpeningHeightsUm _ _ _ _, ?_⟩
  intro hmode a ha b hb
  rw [openings_equal _ _ _ hmode] at ha hb
  exact equalShares_close ha hb

/-- Three bays of 864 mm in ratios of 1 to 2 to 4, and two shelves in 1000 mm. -/
theorem allocations_exact_three_bays :
    ExactShares (864000 - 2 * 18000) [1, 2, 4] [118286, 236571, 473143] ∧
      ShelfLayout 18000 100000 1000000 [421334, 760667] [321334, 321333, 321333] := by
  have h := @allocations_exact 864000 18000 2 [1, 2, 4] (by decide) 100000 1000000
    18000 2 [] [421334, 760667] [321334, 321333, 321333] (by decide) (by decide)
  exact ⟨h.1, h.2.2.1⟩

end Custombuild.Domain
