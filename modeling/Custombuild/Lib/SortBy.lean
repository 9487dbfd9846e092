/-
  Stable sorting by a key, the first least element, and the sorted set of the values of a list.
  Insertion sort is stable and structurally recursive, so a sorted list can be evaluated.
-/
import Mathlib.Data.List.MinMax
import Mathlib.Data.List.Sort
import Mathlib.Data.List.Dedup
import Mathlib.Data.Prod.Lex

namespace Custombuild.Lib

variable {α κ : Type*} [LinearOrder κ]

/-- The list in ascending order of `key`; elements with one key keep their order. -/
def sortBy (key : α → κ) (l : List α) : List α :=
  l.insertionSort fun a b => key a ≤ key b

theorem sortBy_perm (key : α → κ) (l : List α) : (sortBy key l).Perm l :=
  List.perm_insertionSort _ l

@[simp] theorem mem_sortBy {key : α → κ} {l : List α} {a : α} : a ∈ sortBy key l ↔ a ∈ l :=
  (sortBy_perm key l).mem_iff

@[simp] theorem length_sortBy (key : α → κ) (l : List α) : (sortBy key l).length = l.length :=
  (sortBy_perm key l).length_eq

theorem sortBy_pairwise (key : α → κ) (l : List α) :
    (sortBy key l).Pairwise fun a b => key a ≤ key b := by
  have : Std.Total fun a b => key a ≤ key b := ⟨fun a b => le_total (key a) (key b)⟩
  have : IsTrans α fun a b => key a ≤ key b := ⟨fun _ _ _ => le_trans⟩
  exact List.pairwise_insertionSort _ l

/-- Where the key tells the elements apart, the sorted list does not depend on the order of the
    given one. -/
theorem sortBy_eq_of_perm {key : α → κ} {l l' : List α} (h : l.Perm l')
    (hkey : ∀ a ∈ l, ∀ b ∈ l, key a = key b → a = b) : sortBy key l = sortBy key l' := by
  have hperm : (sortBy key l).Perm (sortBy key l') :=
    (sortBy_perm key l).trans (h.trans (sortBy_perm key l').symm)
  refine hperm.eq_of_pairwise (fun a b ha hb hab hba => ?_) (sortBy_pairwise key l)
    (sortBy_pairwise key l')
  exact hkey a (mem_sortBy.mp ha) b (h.mem_iff.mpr (mem_sortBy.mp hb)) (le_antisymm hab hba)

/-- An element goes into a sorted list at one place. -/
theorem sortBy_append_singleton {key : α → κ} {l : List α} (a : α)
    (hsorted : l.Pairwise fun x y => key x ≤ key y) :
    ∃ j ≤ l.length, sortBy key (l ++ [a]) = l.insertIdx j a := by
  induction l with
  | nil => exact ⟨0, le_rfl, rfl⟩
  | cons x xs ih =>
    rw [List.pairwise_cons] at hsorted
    obtain ⟨j, hj, heq⟩ := ih hsorted.2
    have hstep : sortBy key (x :: xs ++ [a]) =
        (xs.insertIdx j a).orderedInsert (fun a b => key a ≤ key b) x := by
      rw [← heq]
      rfl
    rw [hstep]
    cases j with
    | zero =>
      by_cases hle : key x ≤ key a
      · refine ⟨1, by simp, ?_⟩
        rw [List.insertIdx_zero, List.orderedInsert_cons, if_pos hle]
        rfl
      · refine ⟨0, by simp, ?_⟩
        rw [List.insertIdx_zero, List.orderedInsert_cons, if_neg hle, List.insertIdx_zero]
        cases xs with
        | nil => rfl
        | cons y ys => rw [List.orderedInsert_cons, if_pos (hsorted.1 y (by simp))]
    | succ j =>
      cases xs with
      | nil => simp at hj
      | cons y ys =>
        refine ⟨j + 2, by simpa using hj, ?_⟩
        rw [List.insertIdx_succ_cons, List.orderedInsert_cons, if_pos (hsorted.1 y (by simp))]
        rfl

/-- The first element with the least key. -/
def minBy (key : α → κ) (l : List α) : Option α := l.argmin key

theorem minBy_eq_none {key : α → κ} {l : List α} : minBy key l = none ↔ l = [] :=
  List.argmin_eq_none

theorem minBy_mem {key : α → κ} {l : List α} {a : α} (h : minBy key l = some a) : a ∈ l :=
  List.argmin_mem h

theorem minBy_le {key : α → κ} {l : List α} {a b : α} (h : minBy key l = some a) (hb : b ∈ l) :
    key a ≤ key b :=
  List.le_of_mem_argmin hb h

/-- The distinct values of a list in ascending order. -/
def sortedSet (l : List κ) : List κ := l.dedup.insertionSort (· ≤ ·)

@[simp] theorem mem_sortedSet {l : List κ} {k : κ} : k ∈ sortedSet l ↔ k ∈ l := by
  simp [sortedSet]

theorem sortedSet_nodup (l : List κ) : (sortedSet l).Nodup :=
  (List.perm_insertionSort _ _).nodup_iff.mpr l.nodup_dedup

theorem sortedSet_pairwise (l : List κ) : (sortedSet l).Pairwise (· < ·) := by
  have hle : (sortedSet l).Pairwise (· ≤ ·) := List.pairwise_insertionSort _ _
  have hne : (sortedSet l).Pairwise (· ≠ ·) := sortedSet_nodup l
  exact (hle.and hne).imp fun h => lt_of_le_of_ne h.1 h.2

/-! ## The largest number of a list -/

theorem le_foldl_max (numbers : List Int) (start : Int) :
    start ≤ numbers.foldl max start ∧ ∀ n ∈ numbers, n ≤ numbers.foldl max start := by
  induction numbers generalizing start with
  | nil => exact ⟨le_rfl, fun _ h => absurd h List.not_mem_nil⟩
  | cons first rest ih =>
    obtain ⟨hstart, hrest⟩ := ih (max start first)
    rw [List.foldl_cons]
    refine ⟨(le_max_left _ _).trans hstart, fun n hn => ?_⟩
    rcases List.mem_cons.mp hn with rfl | hn
    · exact (le_max_right _ _).trans hstart
    · exact hrest n hn

end Custombuild.Lib
