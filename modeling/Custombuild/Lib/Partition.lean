/-
  A list grouped by a key: the groups of all occurring keys, put one after the other, are a
  rearrangement of the list, and sorting a sorted list changes nothing.
-/
import Custombuild.Lib.SortBy

namespace Custombuild.Lib

variable {α κ : Type*}

theorem flatMap_filter_perm [DecidableEq κ] (f : α → κ) {ks : List κ} (hks : ks.Nodup)
    {l : List α} (h : ∀ a ∈ l, f a ∈ ks) :
    (ks.flatMap fun k => l.filter fun a => f a = k).Perm l := by
  induction ks generalizing l with
  | nil =>
    cases l with
    | nil => exact .refl _
    | cons a l => exact absurd (h a List.mem_cons_self) List.not_mem_nil
  | cons k ks ih =>
    obtain ⟨hk, hks⟩ := List.nodup_cons.mp hks
    -- the remaining groups do not see the elements of the group of `k`
    have hrest : (ks.flatMap fun k' => l.filter fun a => f a = k') =
        ks.flatMap fun k' => (l.filter fun a => !decide (f a = k)).filter fun a => f a = k' := by
      refine List.flatMap_congr fun k' hk' => ?_
      rw [List.filter_filter]
      refine List.filter_congr fun a _ => ?_
      by_cases ha : f a = k'
      · have hne : k' ≠ k := fun hkk => hk (hkk ▸ hk')
        simp [ha, hne]
      · simp [ha]
    have hmem : ∀ a ∈ l.filter fun a => !decide (f a = k), f a ∈ ks := by
      intro a ha
      obtain ⟨hal, hne⟩ := List.mem_filter.mp ha
      rcases List.mem_cons.mp (h a hal) with heq | hin
      · simp [heq] at hne
      · exact hin
    rw [List.flatMap_cons, hrest]
    exact ((ih hks hmem).append_left _).trans (List.filter_append_perm _ l)

variable [LinearOrder κ]

theorem sortBy_eq_self {key : α → κ} {l : List α}
    (h : l.Pairwise fun a b => key a ≤ key b) : sortBy key l = l :=
  List.Pairwise.insertionSort_eq h

end Custombuild.Lib
