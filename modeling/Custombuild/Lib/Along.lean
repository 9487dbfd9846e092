/-
  Runs of a total step function over a list of actions.  `Along step R s l` says that `R`
  holds of every step of the run: of the state before it, its action and the state after it.
-/
import Mathlib.Data.List.Basic

namespace Custombuild.Lib

variable {σ α : Type} (step : α → σ → σ)

/-- The state after the actions of a list. -/
def runAll (s : σ) (l : List α) : σ := l.foldl (fun s a => step a s) s

@[simp] theorem runAll_nil (s : σ) : runAll step s [] = s := rfl

@[simp] theorem runAll_cons (s : σ) (a : α) (l : List α) :
    runAll step s (a :: l) = runAll step (step a s) l := rfl

theorem runAll_append (s : σ) (k l : List α) :
    runAll step s (k ++ l) = runAll step (runAll step s k) l := List.foldl_append

def Along (R : σ → α → σ → Prop) : σ → List α → Prop
  | _, [] => True
  | s, a :: l => R s a (step a s) ∧ Along R (step a s) l

variable {step} {R : σ → α → σ → Prop}

/-- One step to a known state, then the rest of the run. -/
theorem Along.cons {s s' : σ} {a : α} {l : List α} (hstep : step a s = s') (hR : R s a s')
    (hl : Along step R s' l) : Along step R s (a :: l) := by
  subst hstep
  exact ⟨hR, hl⟩

theorem along_append {s : σ} {k l : List α} :
    Along step R s (k ++ l) ↔ Along step R s k ∧ Along step R (runAll step s k) l := by
  induction k generalizing s with
  | nil => simp [Along]
  | cons a k ih => simp only [List.cons_append, Along, ih, runAll_cons, and_assoc]

/-- The step at a given position of the run. -/
theorem Along.at_index {s : σ} {l : List α} (h : Along step R s l) {k : Nat} {a : α}
    (hk : l[k]? = some a) :
    R (runAll step s (l.take k)) a (step a (runAll step s (l.take k))) := by
  induction l generalizing s k with
  | nil => simp at hk
  | cons b l ih =>
    cases k with
    | zero =>
      cases hk
      exact h.1
    | succ k => exact ih h.2 hk

/-- A position in the second part of a run is a position of the run from where the first
    part ends. -/
theorem runAll_take_add (s : σ) (k l : List α) (j : Nat) :
    runAll step s ((k ++ l).take (k.length + j)) = runAll step (runAll step s k) (l.take j) := by
  rw [List.take_length_add_append, runAll_append]

/-- An invariant that every action of the list keeps, and under which `R` holds of every
    step, gives `R` along the run. -/
theorem along_of_invariant {I : σ → Prop} {s : σ} {l : List α} (hs : I s)
    (hstep : ∀ s, I s → ∀ a ∈ l, R s a (step a s) ∧ I (step a s)) :
    Along step R s l ∧ I (runAll step s l) := by
  induction l generalizing s with
  | nil => exact ⟨trivial, hs⟩
  | cons a l ih =>
    obtain ⟨hR, hI⟩ := hstep s hs a List.mem_cons_self
    obtain ⟨hrest, hend⟩ := ih hI fun s hs b hb => hstep s hs b (List.mem_cons_of_mem _ hb)
    exact ⟨⟨hR, hrest⟩, hend⟩

/-! ## Positions of a run -/

/-- The state after the first `k` actions. -/
def stateAt (step : α → σ → σ) (s : σ) (l : List α) (k : Nat) : σ := runAll step s (l.take k)

@[simp] theorem stateAt_zero (s : σ) (l : List α) : stateAt step s l 0 = s := rfl

theorem stateAt_succ {s : σ} {l : List α} {k : Nat} {a : α} (h : l[k]? = some a) :
    stateAt step s l (k + 1) = step a (stateAt step s l k) := by
  obtain ⟨hk, rfl⟩ := List.getElem?_eq_some_iff.mp h
  rw [stateAt, List.take_succ_eq_append_getElem hk, runAll_append]
  rfl

/-- Past its last action a run stays where it is. -/
theorem stateAt_succ_of_le {s : σ} {l : List α} {k : Nat} (h : l.length ≤ k) :
    stateAt step s l (k + 1) = stateAt step s l k := by
  unfold stateAt
  rw [List.take_of_length_le h, List.take_of_length_le (Nat.le_succ_of_le h)]

/-- What holds at the start and is kept by every action of the run holds at every position. -/
theorem stateAt_invariant {I : σ → Prop} {s : σ} {l : List α} (hs : I s)
    (hstep : ∀ s, I s → ∀ a ∈ l, I (step a s)) (k : Nat) : I (stateAt step s l k) :=
  (along_of_invariant (R := fun _ _ _ => True) hs fun s hI a ha =>
    ⟨trivial, hstep s hI a (List.mem_of_mem_take ha)⟩).2

/-- What holds at a position and is kept by every action of the run holds at every later
    position. -/
theorem stateAt_invariant_from {I : σ → Prop} {s : σ} {l : List α} {i j : Nat} (hij : i ≤ j)
    (hi : I (stateAt step s l i))
    (hstep : ∀ k a, l[k]? = some a → I (stateAt step s l k) → I (step a (stateAt step s l k))) :
    I (stateAt step s l j) := by
  induction hij with
  | refl => exact hi
  | @step j hij ih =>
    cases ha : l[j]? with
    | none =>
      rw [stateAt_succ_of_le (List.getElem?_eq_none_iff.mp ha)]
      exact ih
    | some a =>
      rw [stateAt_succ ha]
      exact hstep j a ha ih

/-- A property that holds at one position and not at a later one is lost at some action
    between them. -/
theorem exists_lost {s : σ} {l : List α} {P : σ → Prop} {i j : Nat} (hij : i ≤ j)
    (hi : P (stateAt step s l i)) (hj : ¬P (stateAt step s l j)) :
    ∃ m a, i ≤ m ∧ m < j ∧ l[m]? = some a ∧ P (stateAt step s l m) ∧
      ¬P (step a (stateAt step s l m)) := by
  induction hij with
  | refl => exact absurd hi hj
  | @step j hij ih =>
    by_cases hPj : P (stateAt step s l j)
    · cases ha : l[j]? with
      | none =>
        rw [stateAt_succ_of_le (List.getElem?_eq_none_iff.mp ha)] at hj
        exact absurd hPj hj
      | some a =>
        rw [stateAt_succ ha] at hj
        exact ⟨j, a, hij, Nat.lt_succ_self j, ha, hPj, hj⟩
    · obtain ⟨m, a, him, hmj, ha, hm, hlost⟩ := ih hPj
      exact ⟨m, a, him, Nat.lt_succ_of_lt hmj, ha, hm, hlost⟩

/-- A property that does not hold at the start and holds at a later position was gained at
    some action and has held since. -/
theorem exists_gained {s : σ} {l : List α} {P : σ → Prop} {k : Nat} (hs : ¬P s)
    (hk : P (stateAt step s l k)) :
    ∃ i a, i < k ∧ l[i]? = some a ∧ ¬P (stateAt step s l i) ∧
      ∀ m, i < m → m ≤ k → P (stateAt step s l m) := by
  induction k with
  | zero => exact absurd hk hs
  | succ k ih =>
    by_cases hPk : P (stateAt step s l k)
    · obtain ⟨i, a, hik, ha, hi, hsince⟩ := ih hPk
      refine ⟨i, a, Nat.lt_succ_of_lt hik, ha, hi, fun m him hmk => ?_⟩
      rcases Nat.lt_or_eq_of_le hmk with hlt | rfl
      · exact hsince m him (Nat.le_of_lt_succ hlt)
      · exact hk
    · cases ha : l[k]? with
      | none =>
        rw [stateAt_succ_of_le (List.getElem?_eq_none_iff.mp ha)] at hk
        exact absurd hk hPk
      | some a =>
        refine ⟨k, a, Nat.lt_succ_self k, ha, hPk, fun m him hmk => ?_⟩
        obtain rfl : m = k + 1 := by omega
        exact hk

end Custombuild.Lib
