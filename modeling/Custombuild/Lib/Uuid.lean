/-
  UUIDs in their canonical text: 36 characters, lower-case hexadecimal digits with hyphens in
  the four fixed places.
-/
import Custombuild.Lib.Text

namespace Custombuild.Lib

def isLowerHex (c : Char) : Bool := c.isDigit || ('a' ≤ c && c ≤ 'f')

def isUuidText (text : String) : Bool :=
  let chars := charsOf text
  chars.length == 36 && chars.zipIdx.all fun (c, i) =>
    if i = 8 ∨ i = 13 ∨ i = 18 ∨ i = 23 then c == '-' else isLowerHex c

structure Uuid where
  text : String
  canonical : isUuidText text = true
deriving DecidableEq

namespace Uuid

/-- The version digit, the fifteenth character. -/
def version (u : Uuid) : Option Char := u.text.toList[14]?

theorem length_toList (u : Uuid) : u.text.toList.length = 36 := by
  have h := u.canonical
  simp only [isUuidText, charsOf_eq, Bool.and_eq_true, beq_iff_eq] at h
  exact h.1

theorem mem_toList {u : Uuid} {c : Char} (hc : c ∈ u.text.toList) :
    c = '-' ∨ isLowerHex c = true := by
  have h := u.canonical
  simp only [isUuidText, charsOf_eq, Bool.and_eq_true, List.all_eq_true] at h
  obtain ⟨i, hi, rfl⟩ := List.getElem_of_mem hc
  have hpair := h.2 (u.text.toList[i], i) (List.mk_mem_zipIdx_iff_getElem?.mpr (by simp [hi]))
  simp only at hpair
  split at hpair
  · exact .inl (by simpa using hpair)
  · exact .inr hpair

theorem colon_notMem (u : Uuid) : ':' ∉ u.text.toList := by
  intro h
  rcases mem_toList h with h | h
  · exact absurd h (by decide)
  · exact absurd h (by decide)

end Uuid

end Custombuild.Lib
