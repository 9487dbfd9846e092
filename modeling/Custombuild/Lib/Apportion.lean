/-
  Dividing a whole number of units in proportion to weights.

  A division is fair when, for any two places, what they have beyond their exact shares differs by
  at most one unit, and where it differs by a unit the earlier place has it.  There is only one fair
  division, so the method of the largest remainders can be compared with any other one.
-/
import Mathlib.Algebra.BigOperators.Fin
import Mathlib.Algebra.Order.BigOperators.Group.Finset
import Mathlib.Data.Int.CardIntervalMod

namespace Custombuild.Lib

/-! ## Fair divisions -/

section Fair

variable {n : Nat} {total : Int} {weights shares shares' : Fin n → Int}

/-- What a place has beyond its exact share, in units of the weights. -/
def excess (total : Int) (weights shares : Fin n → Int) (i : Fin n) : Int :=
  (∑ k, weights k) * shares i - total * weights i

structure Fair (total : Int) (weights shares : Fin n → Int) : Prop where
  sum : ∑ i, shares i = total
  close : ∀ i j, excess total weights shares i - excess total weights shares j ≤ ∑ k, weights k
  early : ∀ i j, j < i →
    excess total weights shares i - excess total weights shares j < ∑ k, weights k

theorem exists_lt_of_sum_eq (hsum : ∑ i, shares i = ∑ i, shares' i) (hne : shares ≠ shares') :
    ∃ i, shares' i < shares i := by
  by_contra hall
  push Not at hall
  have heq := (Finset.sum_eq_sum_iff_of_le fun i _ => hall i).mp hsum
  exact hne (funext fun i => heq i (Finset.mem_univ i))

/-- One unit more is one total of the weights more in excess. -/
theorem excess_add_le (hpos : 0 < ∑ k, weights k) {i : Fin n} (h : shares' i < shares i) :
    excess total weights shares' i + ∑ k, weights k ≤ excess total weights shares i := by
  unfold excess
  have hmul : (∑ k, weights k) * (shares' i + 1) ≤ (∑ k, weights k) * shares i :=
    Int.mul_le_mul_of_nonneg_left h hpos.le
  rw [Int.mul_add, Int.mul_one] at hmul
  omega

/-- What some places have in excess, others lack. -/
theorem sum_excess (hsum : ∑ i, shares i = total) :
    ∑ i, excess total weights shares i = 0 := by
  unfold excess
  rw [Finset.sum_sub_distrib, ← Finset.mul_sum, ← Finset.mul_sum, hsum, Int.mul_comm, Int.sub_self]

/-- A fair share is less than a unit away from the exact one. -/
theorem Fair.excess_range (hpos : 0 < ∑ k, weights k) (h : Fair total weights shares) (i : Fin n) :
    -∑ k, weights k < excess total weights shares i ∧
      excess total weights shares i < ∑ k, weights k := by
  have hzero := @sum_excess _ _ weights _ h.sum
  constructor
  · by_contra hle
    obtain ⟨j, -, hj⟩ := Finset.exists_pos_of_sum_zero_of_exists_nonzero
      (excess total weights shares) hzero ⟨i, Finset.mem_univ i, by omega⟩
    have hclose := h.close j i
    omega
  · by_contra hle
    have hneg : ∑ i, -excess total weights shares i = 0 := by
      rw [Finset.sum_neg_distrib, hzero, Int.neg_zero]
    obtain ⟨j, -, hj⟩ := Finset.exists_pos_of_sum_zero_of_exists_nonzero
      (fun i => -excess total weights shares i) hneg ⟨i, Finset.mem_univ i, by omega⟩
    have hclose := h.close i j
    omega

/-- There is one fair division. -/
theorem Fair.eq (hpos : 0 < ∑ k, weights k) (h : Fair total weights shares)
    (h' : Fair total weights shares') : shares = shares' := by
  by_contra hne
  have hsum : ∑ i, shares i = ∑ i, shares' i := h.sum.trans h'.sum.symm
  obtain ⟨i, hi⟩ := exists_lt_of_sum_eq hsum hne
  obtain ⟨j, hj⟩ := exists_lt_of_sum_eq hsum.symm (Ne.symm hne)
  have hmore : excess total weights shares' i + _ ≤ excess total weights shares i :=
    excess_add_le hpos hi
  have hless : excess total weights shares j + _ ≤ excess total weights shares' j :=
    excess_add_le hpos hj
  have hclose := h.close i j
  have hclose' := h'.close j i
  -- The two differences add up to two totals, so both are one total, and `early` decides.
  rcases lt_trichotomy i j with hlt | rfl | hlt
  · have := h'.early j i hlt
    omega
  · omega
  · have := h.early i j hlt
    omega

/-- Shares rounded down, with the units that are left over given to the largest remainders and
    among equal ones to the first. -/
theorem fair_of_raised (hpos : 0 < ∑ k, weights k) (raised : Fin n → Prop)
    [DecidablePred raised]
    (hshares : ∀ i, shares i = total * weights i / (∑ k, weights k) + if raised i then 1 else 0)
    (hsum : ∑ i, shares i = total)
    (hlargest : ∀ i j, raised i → ¬raised j →
      total * weights j % (∑ k, weights k) < total * weights i % (∑ k, weights k) ∨
        total * weights j % (∑ k, weights k) = total * weights i % (∑ k, weights k) ∧ i < j) :
    Fair total weights shares := by
  have hexcess : ∀ i, excess total weights shares i =
      (if raised i then ∑ k, weights k else 0) - total * weights i % (∑ k, weights k) := by
    intro i
    have hdivision := Int.mul_ediv_add_emod (total * weights i) (∑ k, weights k)
    unfold excess
    rw [hshares i]
    split
    · rw [Int.mul_add, Int.mul_one]
      omega
    · rw [Int.add_zero]
      omega
  have hrange : ∀ i, 0 ≤ total * weights i % (∑ k, weights k) ∧
      total * weights i % (∑ k, weights k) < ∑ k, weights k :=
    fun i => ⟨Int.emod_nonneg _ hpos.ne', Int.emod_lt_of_pos _ hpos⟩
  have hboth : ∀ i j, excess total weights shares i - excess total weights shares j ≤
      ∑ k, weights k ∧ (j < i →
        excess total weights shares i - excess total weights shares j < ∑ k, weights k) := by
    intro i j
    have hi := hrange i
    have hj := hrange j
    rw [hexcess i, hexcess j]
    by_cases hraised : raised i <;> by_cases hraised' : raised j <;>
      simp only [hraised, hraised', if_true, if_false]
    · omega
    · rcases hlargest i j hraised hraised' with hlt | ⟨heq, hlt⟩
      · omega
      · exact ⟨by omega, fun h => absurd h (not_lt.mpr hlt.le)⟩
    · omega
    · omega
  exact ⟨hsum, fun i j => (hboth i j).1, fun i j => (hboth i j).2⟩

end Fair

/-! ## Lists as divisions -/

section Lists

/-- The entries of a list of `n` elements. -/
def entries (n : Nat) (l : List Int) (i : Fin n) : Int := l.getD i 0

theorem sum_entries {n : Nat} {l : List Int} (hlength : l.length = n) :
    ∑ i, entries n l i = l.sum := by
  subst hlength
  rw [← Fin.sum_univ_getElem]
  refine Finset.sum_congr rfl fun i _ => ?_
  simp [entries]

theorem entries_injective {n : Nat} {l l' : List Int} (hlength : l.length = n)
    (hlength' : l'.length = n) (h : entries n l = entries n l') : l = l' := by
  refine List.ext_getElem (hlength.trans hlength'.symm) fun i hi hi' => ?_
  have hentry := congrFun h ⟨i, hlength ▸ hi⟩
  simpa [entries, hi, hi'] using hentry

/-- One unit for each place in turn, until the units are used up. -/
def roundRobin (count : Nat) (l : List Int) (units : Nat) : List Int :=
  (List.range units).foldl (fun l k => l.modify (k % count) (· + 1)) l

theorem roundRobin_succ (count : Nat) (l : List Int) (units : Nat) :
    roundRobin count l (units + 1) =
      (roundRobin count l units).modify (units % count) (· + 1) := by
  unfold roundRobin
  rw [List.range_succ, List.foldl_append]
  rfl

@[simp] theorem length_roundRobin (count : Nat) (l : List Int) (units : Nat) :
    (roundRobin count l units).length = l.length := by
  induction units with
  | zero => rfl
  | succ units ih => rw [roundRobin_succ, List.length_modify, ih]

theorem sum_modify_succ {l : List Int} {i : Nat} (hi : i < l.length) :
    (l.modify i (· + 1)).sum = l.sum + 1 := by
  induction l generalizing i with
  | nil => exact absurd hi (Nat.not_lt_zero i)
  | cons a l ih =>
    cases i with
    | zero =>
      rw [List.modify_zero_cons, List.sum_cons, List.sum_cons]
      omega
    | succ i =>
      rw [List.modify_succ_cons, List.sum_cons, List.sum_cons, ih (Nat.lt_of_succ_lt_succ hi)]
      omega

theorem sum_roundRobin {count : Nat} (hcount : 0 < count) {l : List Int}
    (hlength : l.length = count) (units : Nat) :
    (roundRobin count l units).sum = l.sum + units := by
  induction units with
  | zero => simp [roundRobin]
  | succ units ih =>
    have hturn : units % count < (roundRobin count l units).length := by
      rw [length_roundRobin, hlength]
      exact Nat.mod_lt _ hcount
    rw [roundRobin_succ, sum_modify_succ hturn, ih]
    push_cast
    omega

theorem getD_roundRobin {count : Nat} {l : List Int} (hlength : l.length = count) (units : Nat)
    {i : Nat} (hi : i < count) :
    (roundRobin count l units).getD i 0 = l.getD i 0 + (units.count (· ≡ i [MOD count]) : Nat) := by
  induction units with
  | zero => simp [roundRobin]
  | succ units ih =>
    have hbound : i < (roundRobin count l units).length := by
      rw [length_roundRobin]
      omega
    have hturn : units ≡ i [MOD count] ↔ units % count = i := by
      unfold Nat.ModEq
      rw [Nat.mod_eq_of_lt hi]
    rw [roundRobin_succ, Nat.count_succ, List.getD_eq_getElem?_getD, List.getElem?_modify]
    rw [List.getD_eq_getElem?_getD, List.getElem?_eq_getElem hbound, Option.getD_some] at ih
    rw [List.getElem?_eq_getElem hbound]
    by_cases h : units % count = i
    · rw [if_pos (hturn.mpr h)]
      simp only [h, if_true, Option.map_eq_map, Option.map_some, Option.getD_some, ih]
      push_cast
      omega
    · rw [if_neg (mt hturn.mp h)]
      simp only [h, if_false, Option.map_eq_map, Option.map_some, Option.getD_some, ih]
      rfl

/-- Every place has the same number of turns, and the first ones one more. -/
theorem entries_roundRobin {count : Nat} {l : List Int} (hlength : l.length = count) (units : Nat)
    (i : Fin count) :
    entries count (roundRobin count l units) i =
      entries count l i + ((units / count : Nat) + if i.val < units % count then 1 else 0) := by
  have hpos : 0 < count := Nat.pos_of_ne_zero fun h => by subst h; exact i.elim0
  unfold entries
  rw [getD_roundRobin hlength units i.isLt, Nat.count_modEq_card _ hpos, Nat.mod_eq_of_lt i.isLt]
  push_cast
  rfl

end Lists

end Custombuild.Lib
