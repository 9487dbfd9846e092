/-
  What a computation can raise: `Raises P x` says that every error of `x` meets `P`.
-/
import Custombuild.Lib.Checked

namespace Custombuild.Lib

variable {ε α β : Type} {P : ε → Prop}

def Raises (P : ε → Prop) (x : Except ε α) : Prop := ∀ e, x = .error e → P e

theorem raises_ok {a : α} : Raises P (.ok a) := by
  intro e h
  cases h

theorem raises_error {e : ε} (h : P e) : Raises P (.error e : Except ε α) := by
  intro e' he
  cases he
  exact h

theorem raises_require {cond : Bool} {err : ε} (h : P err) : Raises P (require cond err) := by
  unfold require
  split
  · exact raises_ok
  · exact raises_error h

theorem raises_demand {value : Option α} {err : ε} (h : P err) : Raises P (demand value err) := by
  cases value with
  | none => exact raises_error h
  | some a => exact raises_ok

theorem raises_bind {x : Except ε α} {f : α → Except ε β} (hx : Raises P x)
    (hf : ∀ a, x = .ok a → Raises P (f a)) : Raises P (x >>= f) := by
  cases x with
  | error e =>
    intro e' he
    cases he
    exact hx e rfl
  | ok a => exact hf a rfl

theorem raises_collect {f : α → Except ε β} {l : List α} (hf : ∀ a ∈ l, Raises P (f a)) :
    Raises P (collect f l) := by
  induction l with
  | nil => exact raises_ok
  | cons a l ih =>
    refine raises_bind (hf a List.mem_cons_self) fun b _ => ?_
    refine raises_bind (ih fun a' ha' => hf a' (List.mem_cons_of_mem _ ha')) fun bs _ => ?_
    exact raises_ok

end Custombuild.Lib
