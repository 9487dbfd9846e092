/-
  The texts of a feature schedule: millimetres without an exponent, and lines wrapped by their
  measured width.  The wrapped lines are the text again, and each fits (`rejoin_wrap`, `wrap_fits`).
  Source: `_wrap` of `custombuild_worker.part_drawings`, `um_to_mm` of
  `custombuild_manufacturing.model`.

  The width of a text is the sum of the widths of its characters, which are a parameter.
-/
import Mathlib.Algebra.Order.BigOperators.Group.List
import Mathlib.Tactic.Linarith

namespace Custombuild.Worker

/-! ## Numbers -/

/-- A number with zeros before it: `f"{n:0width}"`. -/
def zeroPadded (width n : Nat) : String :=
  let digits := Nat.toDigits 10 n
  String.ofList (List.replicate (width - digits.length) '0' ++ digits)

/-- `str.rstrip("0")` -/
def rstripZeros (text : String) : String :=
  String.ofList ((text.toList.reverse.dropWhile (· == '0')).reverse)

/-- `um_to_mm` -/
def umToMm (value : Int) : String :=
  let whole := value.natAbs / 1000
  let remainder := value.natAbs % 1000
  let rendered :=
    if remainder ≠ 0 then rstripZeros (toString whole ++ "." ++ zeroPadded 3 remainder)
    else toString whole
  if value < 0 then "-" ++ rendered else rendered

/-! ## Wrapping -/

section Wrap

variable (charWidth : Char → ℚ) (width : ℚ)

/-- `stringWidth` -/
def stringWidth (text : List Char) : ℚ := (text.map charWidth).sum

/-- `str.rfind(" ")` -/
def lastSpace : List Char → Option Nat
  | [] => none
  | c :: cs =>
    match lastSpace cs with
    | some i => some (i + 1)
    | none => if c = ' ' then some 0 else none

/-- A line that is full: what is printed of it, whether the break is at a space, and what is kept
    for the next line. -/
structure Break where
  line : List Char
  atSpace : Bool
  kept : List Char

def breakLine (current : List Char) : Break :=
  match lastSpace current with
  | some boundary =>
    if boundary > current.length / 2 then
      ⟨current.take boundary, true, current.drop (boundary + 1)⟩
    else ⟨current, false, []⟩
  | none => ⟨current, false, []⟩

/-- The line is broken before the next character. -/
def Overfull (current : List Char) (c : Char) : Prop :=
  current ≠ [] ∧ width < stringWidth charWidth (current ++ [c])

instance (current : List Char) (c : Char) : Decidable (Overfull charWidth width current c) :=
  inferInstanceAs (Decidable (_ ∧ _))

/-- The loop of `_wrap`. -/
def wrapFrom : List Char → List Char → List (List Char)
  | current, [] => if current = [] then [] else [current]
  | current, c :: rest =>
    if Overfull charWidth width current c then
      (breakLine current).line :: wrapFrom ((breakLine current).kept ++ [c]) rest
    else wrapFrom (current ++ [c]) rest

/-- `_wrap` -/
def wrap (text : String) : List String :=
  (wrapFrom charWidth width [] text.toList).map String.ofList

/-- Where the loop breaks: at a space or not. -/
def breaksFrom : List Char → List Char → List Bool
  | _, [] => []
  | current, c :: rest =>
    if Overfull charWidth width current c then
      (breakLine current).atSpace :: breaksFrom ((breakLine current).kept ++ [c]) rest
    else breaksFrom (current ++ [c]) rest

/-- The breaks between the lines of a text. -/
def wrapBreaks (text : String) : List Bool := breaksFrom charWidth width [] text.toList

end Wrap

/-- Lines put together, with a space where the break was at one. -/
def rejoin : List (List Char) → List Bool → List Char
  | line :: next :: lines, atSpace :: breaks =>
    line ++ ((if atSpace then [' '] else []) ++ rejoin (next :: lines) breaks)
  | lines, _ => lines.flatten

/-! ## The lines are the text -/

theorem lastSpace_eq_some {cs : List Char} {i : Nat} (h : lastSpace cs = some i) :
    cs = cs.take i ++ ' ' :: cs.drop (i + 1) := by
  induction cs generalizing i with
  | nil => cases h
  | cons c cs ih =>
    rw [lastSpace] at h
    split at h
    · rename_i j hj
      obtain rfl : j + 1 = i := Option.some.inj h
      rw [List.take_succ_cons, List.drop_succ_cons, List.cons_append, ← ih hj]
    · rw [Option.ite_none_right_eq_some, Option.some.injEq] at h
      obtain ⟨rfl, rfl⟩ := h
      rfl

/-- A broken line is taken apart without loss. -/
theorem breakLine_text (current : List Char) :
    (breakLine current).line ++ ((if (breakLine current).atSpace then [' '] else []) ++
      (breakLine current).kept) = current := by
  unfold breakLine
  split
  · rename_i boundary hboundary
    split
    · exact (lastSpace_eq_some hboundary).symm
    · simp
  · simp

section Lines

variable {charWidth : Char → ℚ} {width : ℚ}

theorem exists_wrapFrom {current : List Char} (rest : List Char) (h : current ≠ []) :
    ∃ line lines, wrapFrom charWidth width current rest = line :: lines := by
  induction rest generalizing current with
  | nil => exact ⟨current, [], by rw [wrapFrom, if_neg h]⟩
  | cons c rest ih =>
    rw [wrapFrom]
    split
    · exact ⟨_, _, rfl⟩
    · exact ih (by simp)

theorem rejoin_wrapFrom (current rest : List Char) :
    rejoin (wrapFrom charWidth width current rest) (breaksFrom charWidth width current rest) =
      current ++ rest := by
  induction rest generalizing current with
  | nil =>
    rw [wrapFrom, breaksFrom, List.append_nil]
    split
    · rename_i hempty
      rw [hempty]
      rfl
    · simp [rejoin]
  | cons c rest ih =>
    rw [wrapFrom, breaksFrom]
    split
    · have hjoined := ih ((breakLine current).kept ++ [c])
      have hnext : (breakLine current).kept ++ [c] ≠ [] := by simp
      obtain ⟨next, lines, hlines⟩ : ∃ next lines,
          wrapFrom charWidth width _ rest = next :: lines := exists_wrapFrom rest hnext
      rw [hlines] at hjoined ⊢
      rw [rejoin, hjoined]
      conv_rhs => rw [← breakLine_text current]
      simp
    · rw [ih]
      simp

theorem length_wrapFrom {current rest : List Char} (h : current ++ rest ≠ []) :
    (wrapFrom charWidth width current rest).length =
      (breaksFrom charWidth width current rest).length + 1 := by
  induction rest generalizing current with
  | nil =>
    rw [wrapFrom, breaksFrom, if_neg (by simpa using h)]
    rfl
  | cons c rest ih =>
    rw [wrapFrom, breaksFrom]
    split
    · rw [List.length_cons, List.length_cons, ih (by simp)]
    · exact ih (by simp)

/-! ## The lines fit -/

theorem stringWidth_append (k l : List Char) :
    stringWidth charWidth (k ++ l) = stringWidth charWidth k + stringWidth charWidth l := by
  rw [stringWidth, List.map_append, List.sum_append]
  rfl

section Bounded

variable (hchar : ∀ c, 3 / 2 ≤ charWidth c ∧ charWidth c ≤ 9)
include hchar

/-- The width of a text is between one and a half and nine points for each character. -/
theorem stringWidth_bounds (text : List Char) :
    3 / 2 * text.length ≤ stringWidth charWidth text ∧
      stringWidth charWidth text ≤ 9 * text.length := by
  induction text with
  | nil => simp [stringWidth]
  | cons c text ih =>
    obtain ⟨hlow, hhigh⟩ := hchar c
    have hcons : stringWidth charWidth (c :: text) = charWidth c + stringWidth charWidth text := by
      simp [stringWidth]
    rw [hcons, List.length_cons, Nat.cast_add, Nat.cast_one]
    constructor <;> linarith [ih.1, ih.2]

theorem stringWidth_nonneg (text : List Char) : 0 ≤ stringWidth charWidth text := by
  have hlow := (stringWidth_bounds hchar text).1
  have hlength : (0 : ℚ) ≤ text.length := Nat.cast_nonneg _
  linarith

/-- Where a line that is full is broken, both parts fit: what is left out before the boundary is
    wider than any character. -/
theorem breakLine_fits (hwidth : 72 ≤ width) {current : List Char} {c : Char}
    (hfits : stringWidth charWidth current ≤ width) (hover : Overfull charWidth width current c) :
    stringWidth charWidth (breakLine current).line ≤ width ∧
      stringWidth charWidth ((breakLine current).kept ++ [c]) ≤ width := by
  have hone : stringWidth charWidth [c] ≤ 9 := by simpa [stringWidth] using (hchar c).2
  have hcut : stringWidth charWidth current ≤ width ∧
      stringWidth charWidth ([] ++ [c]) ≤ width := ⟨hfits, by rw [List.nil_append]; linarith⟩
  unfold breakLine
  split
  · rename_i boundary hboundary
    split
    · rename_i hhalf
      have htext := lastSpace_eq_some hboundary
      have hsum : stringWidth charWidth current = stringWidth charWidth (current.take boundary) +
          stringWidth charWidth [' '] + stringWidth charWidth (current.drop (boundary + 1)) := by
        conv_lhs => rw [htext]
        rw [stringWidth_append, ← List.singleton_append, stringWidth_append, add_assoc]
      -- a full line has at least eight characters, so five of them stand before the boundary
      have hfull : 8 ≤ current.length := by
        have hhigh := (stringWidth_bounds hchar (current ++ [c])).2
        rw [List.length_append, List.length_singleton] at hhigh
        have hlong : ((8 : Nat) : ℚ) < ((current.length + 1 : Nat) : ℚ) := by
          rw [Nat.cast_ofNat]
          linarith [hover.2]
        have := Nat.cast_lt.mp hlong
        omega
      have htake : (current.take boundary).length = boundary := by
        have hlength := congrArg List.length htext
        rw [List.length_append, List.length_cons, List.length_take, List.length_drop] at hlength
        rw [List.length_take]
        omega
      have hbefore : 3 / 2 * (5 : ℚ) ≤ stringWidth charWidth (current.take boundary) := by
        have hlow := (stringWidth_bounds hchar (current.take boundary)).1
        have hfive : ((5 : Nat) : ℚ) ≤ (boundary : ℚ) := Nat.cast_le.mpr (by omega)
        rw [htake] at hlow
        rw [Nat.cast_ofNat] at hfive
        linarith
      have hspace : 3 / 2 ≤ stringWidth charWidth [' '] := by
        simpa [stringWidth] using (hchar ' ').1
      have hafter := stringWidth_nonneg hchar (current.drop (boundary + 1))
      rw [stringWidth_append]
      constructor <;> dsimp only <;> linarith
    · exact hcut
  · exact hcut

theorem wrapFrom_fits (hwidth : 72 ≤ width) {current rest : List Char}
    (hfits : stringWidth charWidth current ≤ width) :
    ∀ line ∈ wrapFrom charWidth width current rest, stringWidth charWidth line ≤ width := by
  induction rest generalizing current with
  | nil =>
    intro line hline
    rw [wrapFrom] at hline
    split at hline
    · cases hline
    · rw [List.mem_singleton.mp hline]
      exact hfits
  | cons c rest ih =>
    rw [wrapFrom]
    split
    · rename_i hover
      obtain ⟨hline, hkept⟩ := breakLine_fits hchar hwidth hfits hover
      exact List.forall_mem_cons.mpr ⟨hline, ih hkept⟩
    · rename_i hover
      refine ih ?_
      by_cases hempty : current = []
      · have hone : stringWidth charWidth [c] ≤ 9 := by simpa [stringWidth] using (hchar c).2
        rw [hempty, List.nil_append]
        linarith
      · exact not_lt.mp fun hlt => hover ⟨hempty, hlt⟩

/-- Every wrapped line fits. -/
theorem wrap_fits (hwidth : 72 ≤ width) (text : String) :
    ∀ line ∈ wrap charWidth width text, stringWidth charWidth line.toList ≤ width := by
  intro line hline
  obtain ⟨chars, hchars, rfl⟩ := List.mem_map.mp hline
  rw [String.toList_ofList]
  refine wrapFrom_fits hchar hwidth ?_ chars hchars
  simp only [stringWidth, List.map_nil, List.sum_nil]
  linarith

end Bounded

/-- The wrapped lines, joined as they were broken, are the text. -/
theorem rejoin_wrap (text : String) :
    rejoin ((wrap charWidth width text).map String.toList) (wrapBreaks charWidth width text) =
      text.toList := by
  have hlines : (wrap charWidth width text).map String.toList =
      wrapFrom charWidth width [] text.toList := by
    rw [wrap, List.map_map]
    have hid : String.toList ∘ String.ofList = id := funext fun chars => String.toList_ofList
    rw [hid, List.map_id]
  rw [hlines, wrapBreaks, rejoin_wrapFrom, List.nil_append]

/-- There is one break between two lines. -/
theorem length_wrapBreaks (text : String) : (wrapBreaks charWidth width text).length =
    (wrap charWidth width text).length - 1 := by
  rw [wrap, List.length_map, wrapBreaks]
  by_cases hempty : text.toList = []
  · rw [hempty]
    rfl
  · rw [length_wrapFrom (by simpa using hempty), Nat.add_sub_cancel]

/-- A text that is not empty has a line. -/
theorem wrap_ne_nil {text : String} (h : text ≠ "") : wrap charWidth width text ≠ [] := by
  intro hnil
  have hjoined : rejoin ((wrap charWidth width text).map String.toList) _ = text.toList :=
    rejoin_wrap text
  rw [hnil] at hjoined
  exact h (String.toList_eq_nil_iff.mp hjoined.symm)

end Lines

end Custombuild.Worker
