/-
  Two computations with the same outcome: both raise, or both return, with related values.
-/
import Custombuild.Lib.Checked

namespace Custombuild.Lib

variable {ε ε' α α' β : Type} {R : α → α' → Prop}

inductive SameOutcome (R : α → α' → Prop) : Except ε α → Except ε' α' → Prop where
  | bothRaise (e : ε) (e' : ε') : SameOutcome R (.error e) (.error e')
  | bothReturn {a : α} {a' : α'} (h : R a a') : SameOutcome R (.ok a) (.ok a')

/-- It is enough that each returns when the other does, with related values. -/
theorem SameOutcome.of_ok {x : Except ε α} {y : Except ε' α'}
    (hxy : ∀ a, x = .ok a → ∃ a', y = .ok a' ∧ R a a')
    (hyx : ∀ a', y = .ok a' → ∃ a, x = .ok a) : SameOutcome R x y := by
  cases x with
  | ok a =>
    obtain ⟨a', rfl, hR⟩ := hxy a rfl
    exact .bothReturn hR
  | error e =>
    cases y with
    | error e' => exact .bothRaise e e'
    | ok a' =>
      obtain ⟨a, ha⟩ := hyx a' rfl
      cases ha

/-- What two computations do first, they do together. -/
theorem SameOutcome.bind {x : Except ε β} {f : β → Except ε α} {g : β → Except ε α'}
    (h : ∀ b, x = .ok b → SameOutcome R (f b) (g b)) :
    SameOutcome R (x >>= f) (x >>= g) := by
  cases x with
  | error e => exact .bothRaise e e
  | ok b => exact h b rfl

end Custombuild.Lib
