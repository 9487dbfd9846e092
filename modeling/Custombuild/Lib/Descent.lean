/-
  Descent over the integers: a value can be lowered as long as it is not an anchor, so below
  every admissible value there is an admissible anchor.  In the plane, one coordinate after
  the other.
-/
import Mathlib.Tactic.Linarith

namespace Custombuild.Lib

theorem exists_anchor_le {P X : Int → Prop} {lower : Int} (hlower : ∀ x, P x → lower ≤ x)
    (hstep : ∀ x, P x → ¬X x → P (x - 1)) {x : Int} (hx : P x) :
    ∃ anchor, anchor ≤ x ∧ X anchor ∧ P anchor := by
  -- on the distance to the lower bound
  obtain ⟨n, hn⟩ : ∃ n : Nat, x = lower + n := ⟨(x - lower).toNat, by have := hlower x hx; omega⟩
  induction n generalizing x with
  | zero =>
    by_cases hX : X x
    · exact ⟨x, le_refl x, hX, hx⟩
    · have := hlower _ (hstep x hx hX)
      omega
  | succ n ih =>
    by_cases hX : X x
    · exact ⟨x, le_refl x, hX, hx⟩
    · obtain ⟨anchor, hle, hanchor⟩ := ih (hstep x hx hX) (by push_cast at hn; omega)
      exact ⟨anchor, by omega, hanchor⟩

/-- In the plane: first down, then to the left. -/
theorem exists_corner_le {P : Int → Int → Prop} {X Y : Int → Prop} {left bottom : Int}
    (hleft : ∀ x y, P x y → left ≤ x) (hbottom : ∀ x y, P x y → bottom ≤ y)
    (hstepX : ∀ x y, P x y → ¬X x → P (x - 1) y) (hstepY : ∀ x y, P x y → ¬Y y → P x (y - 1))
    {x y : Int} (h : P x y) : ∃ x' y', x' ≤ x ∧ y' ≤ y ∧ X x' ∧ Y y' ∧ P x' y' := by
  obtain ⟨y', hy', hY, hdown⟩ :=
    exists_anchor_le (P := fun y => P x y) (X := Y) (hbottom x) (hstepY x) h
  obtain ⟨x', hx', hX, hleftmost⟩ := exists_anchor_le (P := fun x => P x y') (X := X)
    (fun x => hleft x y') (fun x => hstepX x y') hdown
  exact ⟨x', y', hx', hy', hX, hY, hleftmost⟩

end Custombuild.Lib
