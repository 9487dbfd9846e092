/-
  Decimal numerals and rounding to a number of significant digits, half to even, as decimal
  arithmetic with a fixed precision does.  A number fits a precision when it is a shorter
  coefficient times a power of ten; rounding changes exactly the numbers that do not fit.
-/
import Mathlib.Data.Nat.Log
import Mathlib.Tactic.FieldSimp
import Mathlib.Tactic.Linarith
import Mathlib.Tactic.Ring

namespace Custombuild.Lib

/-! ## Rounding -/

/-- Number of decimal digits of a natural number. -/
def digitCount (n : Nat) : Nat := Nat.log 10 n + 1

/-- Round to `p` significant digits, half to even. -/
def roundNat (p n : Nat) : Nat :=
  let unit := 10 ^ (digitCount n - p)
  let q := n / unit
  let r := n % unit
  (if unit < 2 * r ∨ (2 * r = unit ∧ q % 2 = 1) then q + 1 else q) * unit

def roundSig (p : Nat) (c : Int) : Int := c.sign * roundNat p c.natAbs

/-- A coefficient of at most `p` digits, shifted to the left. -/
def Fits (p n : Nat) : Prop := ∃ a j, a < 10 ^ p ∧ n = a * 10 ^ j

theorem fits_of_lt {p n : Nat} (h : n < 10 ^ p) : Fits p n := ⟨n, 0, h, by simp⟩

theorem Fits.mul_pow {p n : Nat} (h : Fits p n) (k : Nat) : Fits p (n * 10 ^ k) := by
  obtain ⟨a, j, ha, rfl⟩ := h
  exact ⟨a, j + k, ha, by rw [pow_add, mul_assoc]⟩

theorem lt_pow_digitCount (n : Nat) : n < 10 ^ digitCount n :=
  Nat.lt_pow_succ_log_self (by norm_num) n

theorem roundNat_of_dvd {p n : Nat} (h : 10 ^ (digitCount n - p) ∣ n) : roundNat p n = n := by
  have hpos : 0 < 10 ^ (digitCount n - p) := Nat.pow_pos (by norm_num)
  have hmod : n % 10 ^ (digitCount n - p) = 0 := Nat.mod_eq_zero_of_dvd h
  simp only [roundNat, hmod]
  rw [if_neg (by omega)]
  exact Nat.div_mul_cancel h

/-- Rounding keeps what fits. -/
theorem roundNat_of_fits {p n : Nat} (h : Fits p n) : roundNat p n = n := by
  obtain ⟨a, j, ha, hn⟩ := h
  refine roundNat_of_dvd ?_
  rcases Nat.eq_zero_or_pos n with rfl | hpos
  · exact dvd_zero _
  have hlt : n < 10 ^ (p + j) := by
    rw [hn, pow_add]
    exact Nat.mul_lt_mul_of_pos_right ha (Nat.pow_pos (by norm_num))
  have hlog : Nat.log 10 n < p + j := Nat.log_lt_of_lt_pow (by omega) hlt
  have hle : digitCount n - p ≤ j := by
    unfold digitCount
    omega
  rw [hn]
  rw [hn] at hle
  exact Dvd.dvd.mul_left (pow_dvd_pow 10 hle) a

theorem roundNat_quotient_lt (p n : Nat) : n / 10 ^ (digitCount n - p) < 10 ^ p := by
  rw [Nat.div_lt_iff_lt_mul (Nat.pow_pos (by norm_num)), ← pow_add]
  exact lt_of_lt_of_le (lt_pow_digitCount n) (Nat.pow_le_pow_right (by norm_num) (by omega))

/-- What has been rounded fits. -/
theorem fits_roundNat {p : Nat} (hp : 1 ≤ p) (n : Nat) : Fits p (roundNat p n) := by
  have hq := roundNat_quotient_lt p n
  simp only [roundNat]
  split
  · rcases Nat.lt_or_ge (n / 10 ^ (digitCount n - p) + 1) (10 ^ p) with hlt | hge
    · exact ⟨_, _, hlt, rfl⟩
    · have heq : n / 10 ^ (digitCount n - p) + 1 = 10 ^ p := by omega
      refine ⟨1, p + (digitCount n - p), Nat.one_lt_pow (by omega) (by norm_num), ?_⟩
      rw [heq, one_mul, pow_add]
  · exact ⟨_, _, hq, rfl⟩

theorem roundSig_of_fits {p : Nat} {c : Int} (h : Fits p c.natAbs) : roundSig p c = c := by
  rw [roundSig, roundNat_of_fits h, Int.sign_mul_natAbs]

theorem natAbs_roundSig (p : Nat) (c : Int) : (roundSig p c).natAbs = roundNat p c.natAbs := by
  rcases eq_or_ne c 0 with rfl | hc
  · simp [roundSig, roundNat]
  · rw [roundSig, Int.natAbs_mul, Int.natAbs_sign_of_ne_zero hc, one_mul, Int.natAbs_natCast]

theorem fits_roundSig {p : Nat} (hp : 1 ≤ p) (c : Int) : Fits p (roundSig p c).natAbs := by
  rw [natAbs_roundSig]
  exact fits_roundNat hp _

/-! ## Numerals -/

/-- A decimal numeral: its digits as an integer and the number of them after the point. -/
structure Dec where
  coeff : Int
  scale : Nat
deriving DecidableEq

namespace Dec

def value (d : Dec) : ℚ := d.coeff / 10 ^ d.scale

def ofInt (n : Int) : Dec := ⟨n, 0⟩

@[simp] theorem value_ofInt (n : Int) : (ofInt n).value = n := by simp [ofInt, value]

/-- Equality of the numbers that two numerals denote. -/
def same (d e : Dec) : Bool := d.coeff * 10 ^ e.scale = e.coeff * 10 ^ d.scale

@[simp] theorem same_self (d : Dec) : d.same d = true := by simp [same]

@[simp] theorem same_ofInt (m n : Int) : (ofInt m).same (ofInt n) = decide (m = n) := by
  simp [same, ofInt]

theorem same_iff {d e : Dec} : d.same e = true ↔ d.value = e.value := by
  have hd : (10 : ℚ) ^ d.scale ≠ 0 := by positivity
  have he : (10 : ℚ) ^ e.scale ≠ 0 := by positivity
  rw [same, decide_eq_true_eq, value, value, div_eq_div_iff hd he]
  norm_cast

end Dec

end Custombuild.Lib
