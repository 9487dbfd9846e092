/-
  Pareto frontiers of pairs.  A list of pairs serves a pair when one of them is at most it in
  both components.  The frontier serves what the list serves, no pair of it is at most another,
  and joining two lists pair by pair serves exactly what both cover; so pruning after each join
  of a fold loses nothing.
-/
import Mathlib.Data.List.Pairwise
import Custombuild.Lib.SortBy

namespace Custombuild.Lib

variable {α β : Type*} [LinearOrder β]

/-- The pairs whose second component is below all before them. -/
def descents : Option β → List (α × β) → List (α × β)
  | _, [] => []
  | least, p :: ps =>
    if least.all fun height => p.2 < height then p :: descents (some p.2) ps
    else descents least ps

theorem mem_of_mem_descents {least : Option β} {l : List (α × β)} {p : α × β}
    (h : p ∈ descents least l) : p ∈ l := by
  induction l generalizing least with
  | nil => cases h
  | cons a l ih =>
    rw [descents] at h
    split at h
    · rcases List.mem_cons.mp h with rfl | hrest
      · exact List.mem_cons_self
      · exact List.mem_cons_of_mem _ (ih hrest)
    · exact List.mem_cons_of_mem _ (ih h)

theorem lt_of_mem_descents {height : β} {l : List (α × β)} {p : α × β}
    (h : p ∈ descents (some height) l) : p.2 < height := by
  induction l generalizing height with
  | nil => cases h
  | cons a l ih =>
    rw [descents] at h
    split at h
    · rename_i hlt
      rw [Option.all_some, decide_eq_true_eq] at hlt
      rcases List.mem_cons.mp h with rfl | hrest
      · exact hlt
      · exact (ih hrest).trans hlt
    · exact ih h

variable [LinearOrder α]

/-- A pair of the list is at most `p` in both components. -/
def Serves (l : List (α × β)) (p : α × β) : Prop := ∃ q ∈ l, q.1 ≤ p.1 ∧ q.2 ≤ p.2

/-- The minimal pairs, in ascending order of the first component. -/
def frontier (l : List (α × β)) : List (α × β) :=
  descents none ((sortedSet (l.map toLex)).map ofLex)

theorem mem_frontier_input {l : List (α × β)} {p : α × β} :
    p ∈ (sortedSet (l.map toLex)).map ofLex ↔ p ∈ l := by
  rw [List.mem_map]
  constructor
  · intro h
    obtain ⟨q, hq, rfl⟩ := h
    obtain ⟨r, hr, rfl⟩ := List.mem_map.mp (mem_sortedSet.mp hq)
    exact hr
  · intro h
    exact ⟨toLex p, mem_sortedSet.mpr (List.mem_map_of_mem h), rfl⟩

/-- Of a pair that is left out, one before it is at most it. -/
theorem serves_descents {l : List (α × β)} (hsorted : l.Pairwise fun a b => a.1 ≤ b.1)
    {least : Option β} {p : α × β} (hp : p ∈ l) :
    (∃ height, least = some height ∧ height ≤ p.2) ∨ Serves (descents least l) p := by
  induction l generalizing least with
  | nil => cases hp
  | cons a l ih =>
    rw [List.pairwise_cons] at hsorted
    rw [descents]
    split
    · right
      rcases List.mem_cons.mp hp with rfl | hrest
      · exact ⟨p, List.mem_cons_self, le_rfl, le_rfl⟩
      · rcases ih hsorted.2 hrest with ⟨height, hheight, hle⟩ | ⟨q, hq, hle⟩
        · obtain rfl := Option.some.inj hheight
          exact ⟨a, List.mem_cons_self, hsorted.1 p hrest, hle⟩
        · exact ⟨q, List.mem_cons_of_mem _ hq, hle⟩
    · rename_i hkept
      rcases List.mem_cons.mp hp with rfl | hrest
      · left
        cases least with
        | none => exact absurd rfl hkept
        | some height =>
          rw [Option.all_some, decide_eq_true_eq, not_lt] at hkept
          exact ⟨height, rfl, hkept⟩
      · exact ih hsorted.2 hrest

theorem sorted_frontier_input (l : List (α × β)) :
    ((sortedSet (l.map toLex)).map ofLex).Pairwise fun a b => toLex a < toLex b := by
  rw [List.pairwise_map]
  exact sortedSet_pairwise _

theorem mem_of_mem_frontier {l : List (α × β)} {p : α × β} (h : p ∈ frontier l) : p ∈ l :=
  mem_frontier_input.mp (mem_of_mem_descents h)

/-- The frontier serves what the list serves. -/
theorem serves_frontier {l : List (α × β)} {p : α × β} : Serves (frontier l) p ↔ Serves l p := by
  constructor
  · intro h
    obtain ⟨q, hq, hle⟩ := h
    exact ⟨q, mem_of_mem_frontier hq, hle⟩
  · intro h
    obtain ⟨q, hq, hle⟩ := h
    have hsorted : ((sortedSet (l.map toLex)).map ofLex).Pairwise fun a b => a.1 ≤ b.1 := by
      refine (sorted_frontier_input l).imp ?_
      intro a b hab
      rcases Prod.Lex.toLex_lt_toLex.mp hab with hlt | ⟨heq, -⟩
      · exact hlt.le
      · exact heq.le
    have hmem := mem_frontier_input.mpr hq
    rcases @serves_descents _ _ _ _ _ hsorted none _ hmem with ⟨_, hnone, -⟩ | ⟨r, hr, hrle⟩
    · cases hnone
    · exact ⟨r, hr, hrle.1.trans hle.1, hrle.2.trans hle.2⟩

theorem descents_pairwise {l : List (α × β)} (hsorted : l.Pairwise fun a b => toLex a < toLex b)
    (least : Option β) : (descents least l).Pairwise fun a b => a.1 < b.1 ∧ b.2 < a.2 := by
  induction l generalizing least with
  | nil => exact List.Pairwise.nil
  | cons a l ih =>
    rw [List.pairwise_cons] at hsorted
    rw [descents]
    split
    · refine List.pairwise_cons.mpr ⟨?_, ih hsorted.2 _⟩
      intro b hb
      have hdown : b.2 < a.2 := lt_of_mem_descents hb
      rcases Prod.Lex.toLex_lt_toLex.mp (hsorted.1 b (mem_of_mem_descents hb)) with hlt | ⟨-, hup⟩
      · exact ⟨hlt, hdown⟩
      · exact absurd hup hdown.asymm
    · exact ih hsorted.2 _

/-- Along the frontier one component rises and the other falls. -/
theorem frontier_pairwise (l : List (α × β)) :
    (frontier l).Pairwise fun a b => a.1 < b.1 ∧ b.2 < a.2 :=
  descents_pairwise (sorted_frontier_input l) none

/-! ## Joins -/

/-- The larger components of a pair of each list. -/
def joins (l m : List (α × β)) : List (α × β) :=
  l.flatMap fun a => m.map fun b => (max a.1 b.1, max a.2 b.2)

theorem serves_joins {l m : List (α × β)} {p : α × β} :
    Serves (joins l m) p ↔ Serves l p ∧ Serves m p := by
  constructor
  · intro h
    obtain ⟨q, hq, hle⟩ := h
    simp only [joins, List.mem_flatMap, List.mem_map] at hq
    obtain ⟨a, ha, b, hb, rfl⟩ := hq
    rw [max_le_iff, max_le_iff] at hle
    exact ⟨⟨a, ha, hle.1.1, hle.2.1⟩, ⟨b, hb, hle.1.2, hle.2.2⟩⟩
  · intro h
    obtain ⟨⟨a, ha, ha₁, ha₂⟩, b, hb, hb₁, hb₂⟩ := h
    refine ⟨(max a.1 b.1, max a.2 b.2), ?_, max_le ha₁ hb₁, max_le ha₂ hb₂⟩
    exact List.mem_flatMap.mpr ⟨a, ha, List.mem_map.mpr ⟨b, hb, rfl⟩⟩

/-- Pruning after each join loses nothing. -/
theorem serves_foldl {γ : Type*} (options : γ → List (α × β)) {cs : List γ} {l : List (α × β)}
    {p : α × β} : Serves (cs.foldl (fun acc c => frontier (joins acc (options c))) l) p ↔
      Serves l p ∧ ∀ c ∈ cs, Serves (options c) p := by
  induction cs generalizing l with
  | nil => simp
  | cons c cs ih =>
    rw [List.foldl_cons, ih, serves_frontier, serves_joins, List.forall_mem_cons, and_assoc]

end Custombuild.Lib
