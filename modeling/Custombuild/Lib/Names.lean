/-
  Lists of names as one name.  The bytes of the names are written one after the other, the last
  name first and each behind its length and a colon, so that no two lists have the same name.

  What stands before the first separator is determined by the whole, and the text of a number
  gives back the number.
-/
import Mathlib.Data.List.Nodup
import Custombuild.Lib.Text

namespace Custombuild.Lib

/-- What stands before the first separator is determined by the whole. -/
theorem append_cons_inj {α : Type*} {c : α} {a b x y : List α} (ha : c ∉ a) (hb : c ∉ b)
    (h : a ++ c :: x = b ++ c :: y) : a = b ∧ x = y := by
  induction a generalizing b with
  | nil =>
    cases b with
    | nil => exact ⟨rfl, (List.cons.inj h).2⟩
    | cons d b => exact absurd (List.cons.inj h).1 (fun hc => hb (hc ▸ List.mem_cons_self))
  | cons e a ih =>
    cases b with
    | nil => exact absurd (List.cons.inj h).1 (fun hc => ha (hc ▸ List.mem_cons_self))
    | cons d b =>
      obtain ⟨rfl, htail⟩ := List.cons.inj h
      obtain ⟨rfl, hxy⟩ := ih (fun hc => ha (List.mem_cons_of_mem _ hc))
        (fun hc => hb (List.mem_cons_of_mem _ hc)) htail
      exact ⟨rfl, hxy⟩

theorem toDigits_inj {m n : Nat} (h : Nat.toDigits 10 m = Nat.toDigits 10 n) : m = n := by
  rw [← Nat.ofDigitChars_ten_toDigits (n := m), h, Nat.ofDigitChars_ten_toDigits]

theorem natText_inj {m n : Nat} (h : (toString m).toList = (toString n).toList) : m = n := by
  have hrepr : ∀ n : Nat, (toString n).toList = Nat.toDigits 10 n := fun n => Nat.toList_repr
  rw [hrepr, hrepr] at h
  exact toDigits_inj h

/-! ## Names behind their lengths -/

/-- The bytes of the length of a name. -/
def lengthText (name : String) : List UInt8 :=
  (Nat.toDigits 10 name.utf8ByteSize).flatMap String.utf8EncodeChar

/-- A name behind its length and a colon. -/
def measuredName (name : String) : List UInt8 :=
  lengthText name ++ 58 :: name.toByteArray.data.toList

theorem measuredName_eq (name : String) : measuredName name =
    (Nat.toDigits 10 name.utf8ByteSize ++ ':' :: name.toList).flatMap String.utf8EncodeChar := by
  rw [measuredName, bytes_eq, List.flatMap_append, List.flatMap_cons]
  rfl

theorem isValidUTF8_names (names : List String) :
    (ByteArray.mk ⟨names.flatMap measuredName⟩).IsValidUTF8 := by
  refine .intro (names.flatMap fun name =>
    Nat.toDigits 10 name.utf8ByteSize ++ ':' :: name.toList) ?_
  rw [List.utf8Encode, List.flatMap_assoc, ← funext measuredName_eq]
  exact ByteArray.ext List.data_toByteArray.symm

/-- The names in one, the last one first, since lists often differ in their last name. -/
def joinNames (names : List String) : String :=
  String.ofByteArray ⟨⟨names.reverse.flatMap measuredName⟩⟩ (isValidUTF8_names names.reverse)

/-- No digit is a colon. -/
theorem colon_notMem_lengthText (name : String) : 58 ∉ lengthText name := by
  intro h
  obtain ⟨c, hc, hcolon⟩ := List.mem_flatMap.mp h
  have hdigit := Nat.isDigit_of_mem_toDigits (by decide) (by decide) hc
  simp only [Char.isDigit, Bool.and_eq_true, decide_eq_true_eq] at hdigit
  have hval : c.val.toNat ≤ 57 := hdigit.2
  rw [String.utf8EncodeChar, if_pos (by omega)] at hcolon
  have h58 := congrArg UInt8.toNat (List.mem_singleton.mp hcolon)
  rw [UInt8.toNat_ofNat'] at h58
  have h0 : UInt8.toNat 58 = 58 := rfl
  omega

theorem utf8ByteSize_inj {name name' : String} (h : lengthText name = lengthText name') :
    name.utf8ByteSize = name'.utf8ByteSize := by
  have hdigits : Nat.toDigits 10 name.utf8ByteSize = Nat.toDigits 10 name'.utf8ByteSize :=
    String.ofList_injective (String.toByteArray_inj.mp (congrArg List.toByteArray h))
  exact toDigits_inj hdigits

theorem flatMap_measuredName_inj {names names' : List String}
    (h : names.flatMap measuredName = names'.flatMap measuredName) : names = names' := by
  induction names generalizing names' with
  | nil =>
    cases names' with
    | nil => rfl
    | cons name names' => simp [measuredName] at h
  | cons name names ih =>
    cases names' with
    | nil => simp [measuredName] at h
    | cons name' names' =>
      simp only [List.flatMap_cons, measuredName, List.append_assoc, List.cons_append] at h
      obtain ⟨hlength, hrest⟩ := append_cons_inj (colon_notMem_lengthText name)
        (colon_notMem_lengthText name') h
      obtain ⟨hname, hnames⟩ := List.append_inj hrest (utf8ByteSize_inj hlength)
      have hbytes : name.toByteArray = name'.toByteArray :=
        ByteArray.ext (Array.toList_inj.mp hname)
      rw [String.toByteArray_inj.mp hbytes, ih hnames]

theorem joinNames_injective : Function.Injective joinNames := by
  intro names names' h
  have hbytes := congrArg (fun name : String => name.toByteArray.data.toList) h
  exact List.reverse_injective (flatMap_measuredName_inj hbytes)

end Custombuild.Lib
