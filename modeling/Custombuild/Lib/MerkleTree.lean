/-
  Hash trees over the leaves of a list: the nodes of a level are hashed in pairs, the last one
  with itself where it is alone, until one node is left.  Two lists of one length with one root
  are the same where the hash tells the pairs apart that the two trees hash.
-/
import Mathlib.Data.List.Basic

namespace Custombuild.Lib

variable {α : Type}

/-- The pairs of a level; a node that is left alone is paired with itself. -/
def levelPairs : List α → List (α × α)
  | [] => []
  | [a] => [(a, a)]
  | a :: b :: rest => (a, b) :: levelPairs rest

theorem length_levelPairs (level : List α) :
    (levelPairs level).length = (level.length + 1) / 2 := by
  fun_induction levelPairs level with
  | case1 => simp
  | case2 a => simp
  | case3 a b rest ih =>
    rw [List.length_cons, ih, List.length_cons, List.length_cons]
    omega

/-- Levels of one length with the same pairs are the same. -/
theorem levelPairs_inj {k l : List α} (hlength : k.length = l.length)
    (h : levelPairs k = levelPairs l) : k = l := by
  fun_induction levelPairs k generalizing l with
  | case1 => exact (List.length_eq_zero_iff.mp hlength.symm).symm
  | case2 a =>
    obtain ⟨b, rfl⟩ := List.length_eq_one_iff.mp hlength.symm
    simp only [levelPairs, List.cons.injEq, Prod.mk.injEq] at h
    rw [h.1.1]
  | case3 a b rest ih =>
    match l with
    | [] => cases hlength
    | [c] => simp at hlength
    | c :: d :: rest' =>
      simp only [levelPairs, List.cons.injEq, Prod.mk.injEq] at h
      obtain ⟨⟨rfl, rfl⟩, hrest⟩ := h
      rw [ih (by simpa using hlength) hrest]

section Tree

variable (node : α × α → α)

/-- The level above. -/
def nextLevel (level : List α) : List α := (levelPairs level).map node

theorem length_nextLevel (level : List α) :
    (nextLevel node level).length = (level.length + 1) / 2 := by
  rw [nextLevel, List.length_map, length_levelPairs]

/-- The node at the top, when there is a leaf. -/
def treeRoot : List α → Option α
  | [] => none
  | [a] => some a
  | a :: b :: rest => treeRoot (nextLevel node (a :: b :: rest))
termination_by level => level.length
decreasing_by
  rw [length_nextLevel]
  simp only [List.length_cons]
  omega

/-- All the pairs that are hashed, level by level. -/
def treePairs : List α → List (α × α)
  | [] => []
  | [_] => []
  | a :: b :: rest =>
    levelPairs (a :: b :: rest) ++ treePairs (nextLevel node (a :: b :: rest))
termination_by level => level.length
decreasing_by
  rw [length_nextLevel]
  simp only [List.length_cons]
  omega

/-- A tree with a leaf has a root. -/
theorem exists_treeRoot {leaves : List α} (h : leaves ≠ []) :
    ∃ root, treeRoot node leaves = some root := by
  fun_induction treeRoot node leaves with
  | case1 => exact absurd rfl h
  | case2 leaf => exact ⟨leaf, rfl⟩
  | case3 a b rest ih => exact ih (by simp [nextLevel, levelPairs])

variable {node}

theorem eq_of_map_eq {pairs pairs' : List (α × α)}
    (hnode : ∀ p ∈ pairs, ∀ q ∈ pairs', node p = node q → p = q)
    (h : pairs.map node = pairs'.map node) : pairs = pairs' := by
  induction pairs generalizing pairs' with
  | nil => exact (List.map_eq_nil_iff.mp h.symm).symm
  | cons p pairs ih =>
    cases pairs' with
    | nil => cases h
    | cons q pairs' =>
      rw [List.map_cons, List.map_cons, List.cons.injEq] at h
      rw [hnode p List.mem_cons_self q List.mem_cons_self h.1,
        ih (fun p' hp' q' hq' => hnode p' (List.mem_cons_of_mem _ hp') q'
          (List.mem_cons_of_mem _ hq')) h.2]

/-- The root binds the leaves, for a given number of leaves. -/
theorem treeRoot_inj {k l : List α} (hlength : k.length = l.length)
    (hnode : ∀ p ∈ treePairs node k, ∀ q ∈ treePairs node l, node p = node q → p = q)
    (h : treeRoot node k = treeRoot node l) : k = l := by
  fun_induction treeRoot node k generalizing l with
  | case1 => exact (List.length_eq_zero_iff.mp hlength.symm).symm
  | case2 a =>
    obtain ⟨b, rfl⟩ := List.length_eq_one_iff.mp hlength.symm
    rw [treeRoot, Option.some.injEq] at h
    rw [h]
  | case3 a b rest ih =>
    match l with
    | [] => cases hlength
    | [c] => simp at hlength
    | c :: d :: rest' =>
      rw [treePairs, treePairs] at hnode
      rw [treeRoot.eq_def node (c :: d :: rest')] at h
      -- the levels above are the same, so the pairs are
      have hnext : nextLevel node (a :: b :: rest) = nextLevel node (c :: d :: rest') :=
        ih (by rw [length_nextLevel, length_nextLevel, hlength])
          (fun p hp q hq => hnode p (List.mem_append_right _ hp) q (List.mem_append_right _ hq)) h
      have hpairs : levelPairs (a :: b :: rest) = levelPairs (c :: d :: rest') :=
        eq_of_map_eq (fun p hp q hq => hnode p (List.mem_append_left _ hp) q
          (List.mem_append_left _ hq)) hnext
      exact levelPairs_inj hlength hpairs

end Tree

end Custombuild.Lib
