/-
  Runs of a partial step function.  `follow step s l` takes the actions of `l` in order and
  returns the state reached, or nothing when some action is not enabled.  A cycle is a run
  that returns to its starting state; lists built from cycles are cycles.
-/
import Mathlib.Data.List.Basic

namespace Custombuild.Lib

variable {σ α β : Type} (step : σ → α → Option σ)

def follow : σ → List α → Option σ
  | s, [] => some s
  | s, a :: l => (step s a).bind fun s' => follow s' l

theorem follow_append {s t u : σ} {k l : List α} (hk : follow step s k = some t)
    (hl : follow step t l = some u) : follow step s (k ++ l) = some u := by
  induction k generalizing s with
  | nil =>
    cases hk
    exact hl
  | cons a k ih =>
    obtain ⟨s', ha, hk⟩ := Option.bind_eq_some_iff.mp hk
    rw [List.cons_append, follow, ha]
    exact ih hk

theorem follow_flatMap {s : σ} {f : β → List α} {l : List β}
    (h : ∀ b ∈ l, follow step s (f b) = some s) : follow step s (l.flatMap f) = some s := by
  induction l with
  | nil => rfl
  | cons b l ih =>
    rw [List.flatMap_cons]
    exact follow_append step (h b List.mem_cons_self)
      (ih fun b hb => h b (List.mem_cons_of_mem _ hb))

end Custombuild.Lib
