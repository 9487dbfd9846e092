/-
  Numbers of a language with one number type: exact rationals, the two infinities and NaN.  There
  is no rounding and one zero.
-/
import Mathlib.Data.Rat.Floor

namespace Custombuild.Lib

inductive Number where
  | nan
  | negInf
  | posInf
  | finite (value : ℚ)
deriving DecidableEq

namespace Number

instance : Coe ℚ Number := ⟨finite⟩

def isFinite : Number → Bool
  | finite _ => true
  | _ => false

def isInteger : Number → Bool
  | finite q => q.den == 1
  | _ => false

def neg : Number → Number
  | nan => nan
  | negInf => posInf
  | posInf => negInf
  | finite q => finite (-q)

def add : Number → Number → Number
  | finite p, finite q => finite (p + q)
  | nan, _ | _, nan => nan
  | posInf, negInf | negInf, posInf => nan
  | posInf, _ | _, posInf => posInf
  | negInf, _ | _, negInf => negInf

def infinityOf (positive : Bool) : Number := if positive then posInf else negInf

def mul : Number → Number → Number
  | finite p, finite q => finite (p * q)
  | nan, _ | _, nan => nan
  | finite p, posInf | posInf, finite p => if p = 0 then nan else infinityOf (0 < p)
  | finite p, negInf | negInf, finite p => if p = 0 then nan else infinityOf (p < 0)
  | posInf, posInf | negInf, negInf => posInf
  | posInf, negInf | negInf, posInf => negInf

/-- A divisor that is zero counts as a positive one. -/
def div : Number → Number → Number
  | finite p, finite q =>
    if q = 0 then if p = 0 then nan else infinityOf (0 < p) else finite (p / q)
  | finite _, posInf | finite _, negInf => finite 0
  | posInf, finite q => infinityOf (0 ≤ q)
  | negInf, finite q => infinityOf (q < 0)
  | _, _ => nan

instance : Neg Number := ⟨neg⟩
instance : Add Number := ⟨add⟩
instance : Sub Number := ⟨fun a b => a + -b⟩
instance : Mul Number := ⟨mul⟩
instance : Div Number := ⟨div⟩

def lt : Number → Number → Bool
  | finite p, finite q => decide (p < q)
  | negInf, finite _ | negInf, posInf | finite _, posInf => true
  | _, _ => false

/-- `===`: NaN equals nothing. -/
def equal : Number → Number → Bool
  | nan, _ => false
  | a, b => a == b

def le (a b : Number) : Bool := lt a b || equal a b

/-- `Math.max` -/
def maximum (a b : Number) : Number :=
  if a = nan ∨ b = nan then nan else if lt a b then b else a

/-- `Math.min` -/
def minimum (a b : Number) : Number :=
  if a = nan ∨ b = nan then nan else if lt b a then b else a

/-- A function on finite numbers; the others stay what they are. -/
def onFinite (f : ℚ → ℚ) : Number → Number
  | finite q => finite (f q)
  | other => other

def floor : Number → Number := onFinite fun q => (⌊q⌋ : ℚ)

def ceil : Number → Number := onFinite fun q => (⌈q⌉ : ℚ)

/-- The integer part, toward zero. -/
def integerPart (q : ℚ) : ℚ := if 0 ≤ q then (⌊q⌋ : ℚ) else (⌈q⌉ : ℚ)

def trunc : Number → Number := onFinite integerPart

/-- The length of an array made from a number: none when it is too long for an array. -/
def arrayLength : Number → Option Nat
  | nan | negInf => some 0
  | posInf => none
  | finite q => if q < 2 ^ 32 then some ⌊q⌋.toNat else none

@[simp] theorem finite_add (p q : ℚ) : (finite p + finite q : Number) = finite (p + q) := rfl

@[simp] theorem finite_neg (p : ℚ) : (-finite p : Number) = finite (-p) := rfl

@[simp] theorem finite_sub (p q : ℚ) : (finite p - finite q : Number) = finite (p - q) := by
  rw [sub_eq_add_neg]
  rfl

@[simp] theorem finite_mul (p q : ℚ) : (finite p * finite q : Number) = finite (p * q) := rfl

theorem finite_div (p : ℚ) {q : ℚ} (hq : q ≠ 0) :
    (finite p / finite q : Number) = finite (p / q) := by
  show div (finite p) (finite q) = _
  simp [div, hq]

@[simp] theorem lt_finite (p q : ℚ) : lt (finite p) (finite q) = decide (p < q) := rfl

@[simp] theorem equal_finite (p q : ℚ) : equal (finite p) (finite q) = decide (p = q) := by
  simp [equal, beq_eq_decide]

@[simp] theorem le_finite (p q : ℚ) : le (finite p) (finite q) = decide (p ≤ q) := by
  rw [le, lt_finite, equal_finite, ← Bool.decide_or, decide_eq_decide, ← le_iff_lt_or_eq]

@[simp] theorem maximum_finite (p q : ℚ) : maximum (finite p) (finite q) = finite (max p q) := by
  unfold maximum
  rw [if_neg (by simp), lt_finite]
  split
  · rename_i h
    rw [max_eq_right (le_of_lt (of_decide_eq_true h))]
  · rename_i h
    rw [max_eq_left (not_lt.mp fun hlt => h (decide_eq_true hlt))]

@[simp] theorem minimum_finite (p q : ℚ) : minimum (finite p) (finite q) = finite (min p q) := by
  unfold minimum
  rw [if_neg (by simp), lt_finite]
  split
  · rename_i h
    rw [min_eq_right (le_of_lt (of_decide_eq_true h))]
  · rename_i h
    rw [min_eq_left (not_lt.mp fun hlt => h (decide_eq_true hlt))]

@[simp] theorem floor_finite (q : ℚ) : floor (finite q) = finite (⌊q⌋ : ℚ) := rfl

@[simp] theorem ceil_finite (q : ℚ) : ceil (finite q) = finite (⌈q⌉ : ℚ) := rfl

@[simp] theorem trunc_int (n : Int) : trunc (finite n) = finite n := by
  simp [trunc, onFinite, integerPart]

@[simp] theorem isFinite_finite (q : ℚ) : isFinite (finite q) = true := rfl

@[simp] theorem isInteger_int (n : Int) : isInteger (finite n) = true := by
  simp [isInteger]

/-- The array of a count. -/
theorem arrayLength_nat {n : Nat} (h : n < 2 ^ 32) : arrayLength (finite n) = some n := by
  have hlt : (n : ℚ) < 2 ^ 32 := by exact_mod_cast h
  simp only [arrayLength, hlt, if_true, Option.some.injEq]
  simp

end Number

end Custombuild.Lib
