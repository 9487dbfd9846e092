/-
  The characters of a text, byte by byte where the text is ASCII.
-/
import Mathlib.Data.List.Basic

namespace Custombuild.Lib

/-- The characters of a text.  Where no byte is above 127 each is a character of its own, and
    nothing is decoded. -/
def charsOf (text : String) : List Char :=
  let bytes := text.toByteArray.data.toList
  if bytes.all (· < 128) then bytes.map fun b => Char.ofNat b.toNat else text.toList

/-- The first byte of a character that is not ASCII is above 127. -/
theorem not_ofNat_add_lt {m n : Nat} (hn : 128 ≤ n) (hsum : m + n < 256) :
    ¬UInt8.ofNat (m + n) < 128 := by
  intro h
  have hlt : (UInt8.ofNat (m + n)).toNat < 128 := UInt8.lt_iff_toNat_lt.mp h
  rw [UInt8.toNat_ofNat'] at hlt
  omega

/-- A character of bytes below 128 is its one byte. -/
theorem map_utf8EncodeChar {c : Char} (h : ∀ b ∈ String.utf8EncodeChar c, b < 128) :
    (String.utf8EncodeChar c).map (fun b => Char.ofNat b.toNat) = [c] := by
  unfold String.utf8EncodeChar at h ⊢
  dsimp only at h ⊢
  split at h
  · next hv =>
    rw [if_pos hv, List.map_singleton, UInt8.toNat_ofNat',
      Nat.mod_eq_of_lt (Nat.lt_of_le_of_lt hv (by decide))]
    exact congrArg (fun c => [c]) (Char.ofNat_toNat c)
  · split at h
    · exact absurd (h _ List.mem_cons_self) (not_ofNat_add_lt (by decide) (by omega))
    · split at h
      · exact absurd (h _ List.mem_cons_self) (not_ofNat_add_lt (by decide) (by omega))
      · exact absurd (h _ List.mem_cons_self) (not_ofNat_add_lt (by decide) (by omega))

theorem map_utf8Encode {cs : List Char}
    (h : ∀ b ∈ cs.flatMap String.utf8EncodeChar, b < 128) :
    (cs.flatMap String.utf8EncodeChar).map (fun b => Char.ofNat b.toNat) = cs := by
  induction cs with
  | nil => rfl
  | cons c cs ih =>
    simp only [List.flatMap_cons, List.mem_append] at h
    rw [List.flatMap_cons, List.map_append, map_utf8EncodeChar fun b hb => h b (.inl hb),
      ih fun b hb => h b (.inr hb), List.singleton_append]

/-- The bytes of a text are those of its characters. -/
theorem bytes_eq (text : String) :
    text.toByteArray.data.toList = text.toList.flatMap String.utf8EncodeChar := by
  rw [← String.utf8Encode_toList, List.utf8Encode, List.toList_data_toByteArray]

@[simp] theorem charsOf_eq (text : String) : charsOf text = text.toList := by
  unfold charsOf
  simp only [List.all_eq_true, decide_eq_true_eq]
  split
  · next h => rw [bytes_eq] at h ⊢; exact map_utf8Encode h
  · rfl

theorem toList_eq_charsOf : String.toList = charsOf := funext fun text => (charsOf_eq text).symm

end Custombuild.Lib
