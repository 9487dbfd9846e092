/-
  Byte texts: numbers of a fixed width, most significant byte first, and hexadecimal digests.
-/
import Mathlib.Data.List.Basic
import Mathlib.Tactic.Linarith
import Custombuild.Lib.Text

namespace Custombuild.Lib

/-- The bytes of an ASCII text. -/
def asciiBytes (text : String) : List UInt8 := (charsOf text).map fun c => UInt8.ofNat c.toNat

/-- The text of ASCII bytes. -/
def asciiText (bytes : List UInt8) : String :=
  String.ofList (bytes.map fun b => Char.ofNat b.toNat)

/-! ## Numbers of a fixed width -/

/-- `int.to_bytes(width, "big")` of a number that fits. -/
def bigEndian : Nat → Nat → List UInt8
  | 0, _ => []
  | width + 1, n => bigEndian width (n / 256) ++ [UInt8.ofNat (n % 256)]

@[simp] theorem length_bigEndian (width n : Nat) : (bigEndian width n).length = width := by
  induction width generalizing n with
  | zero => rfl
  | succ width ih => rw [bigEndian, List.length_append, ih, List.length_singleton]

theorem bigEndian_inj {width m n : Nat} (hm : m < 256 ^ width) (hn : n < 256 ^ width)
    (h : bigEndian width m = bigEndian width n) : m = n := by
  induction width generalizing m n with
  | zero => omega
  | succ width ih =>
    obtain ⟨hhigh, hlow⟩ := List.append_inj h (by simp)
    have hmod : m % 256 = n % 256 := by
      have hbyte := congrArg UInt8.toNat (List.cons.inj hlow).1
      simpa using hbyte
    have hdiv : m / 256 = n / 256 :=
      ih (by rw [pow_succ] at hm; omega) (by rw [pow_succ] at hn; omega) hhigh
    omega

/-! ## Hexadecimal texts -/

def hexDigitByte (n : Nat) : UInt8 := UInt8.ofNat (if n < 10 then 48 + n else 87 + n)

/-- `hexdigest` of a digest. -/
def hexText (bytes : List UInt8) : List UInt8 :=
  bytes.flatMap fun b => [hexDigitByte (b.toNat / 16), hexDigitByte (b.toNat % 16)]

def hexDigitValue (digit : UInt8) : Option Nat :=
  let n := digit.toNat
  if 48 ≤ n ∧ n ≤ 57 then some (n - 48)
  else if 97 ≤ n ∧ n ≤ 102 then some (n - 87)
  else if 65 ≤ n ∧ n ≤ 70 then some (n - 55)
  else none

/-- `bytes.fromhex` of a text without white space. -/
def fromHex : List UInt8 → Option (List UInt8)
  | [] => some []
  | [_] => none
  | a :: b :: rest => do
    let high ← hexDigitValue a
    let low ← hexDigitValue b
    let bytes ← fromHex rest
    return UInt8.ofNat (16 * high + low) :: bytes

theorem hexDigitValue_hexDigitByte {n : Nat} (h : n < 16) :
    hexDigitValue (hexDigitByte n) = some n := by
  revert n
  decide

/-- A digest is read back from its text. -/
theorem fromHex_hexText (bytes : List UInt8) : fromHex (hexText bytes) = some bytes := by
  induction bytes with
  | nil => rfl
  | cons b bytes ih =>
    have hbyte := b.toNat_lt
    have htext : hexText (b :: bytes) =
        hexDigitByte (b.toNat / 16) :: hexDigitByte (b.toNat % 16) :: hexText bytes := rfl
    rw [htext, fromHex, hexDigitValue_hexDigitByte (by omega),
      hexDigitValue_hexDigitByte (Nat.mod_lt _ (by decide)), ih]
    show some (UInt8.ofNat (16 * (b.toNat / 16) + b.toNat % 16) :: bytes) = some (b :: bytes)
    rw [Nat.div_add_mod, UInt8.ofNat_toNat]

theorem hexText_injective : Function.Injective hexText := by
  intro a b h
  have hread := congrArg fromHex h
  rwa [fromHex_hexText, fromHex_hexText, Option.some.injEq] at hread

end Custombuild.Lib
