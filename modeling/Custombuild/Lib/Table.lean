/-
  Tables as lists of rows, the change an `UPDATE` makes to the rows that meet its condition,
  and the sum of a quantity over the rows.  A key that no two rows share turns a condition on
  the key into a condition on one row.
-/
import Mathlib.Algebra.Order.BigOperators.Group.List
import Mathlib.Data.List.Nodup
import Mathlib.Tactic.Abel

namespace Custombuild.Lib.Table

variable {α κ : Type} {M : Type*}

/-- `UPDATE … SET … WHERE p`. -/
def modify (p : α → Bool) (f : α → α) (rows : List α) : List α :=
  rows.map fun row => if p row then f row else row

variable {p : α → Bool} {f : α → α} {rows : List α} {row : α} {key : α → κ}

theorem mem_modify {row' : α} :
    row' ∈ modify p f rows ↔ ∃ row ∈ rows, row' = if p row then f row else row := by
  unfold modify
  rw [List.mem_map]
  constructor
  · rintro ⟨row, hrow, rfl⟩
    exact ⟨row, hrow, rfl⟩
  · rintro ⟨row, hrow, rfl⟩
    exact ⟨row, hrow, rfl⟩

/-- An update that leaves a column alone leaves the whole column alone. -/
theorem map_modify {column : α → κ} (h : ∀ row ∈ rows, p row = true → column (f row) = column row) :
    (modify p f rows).map column = rows.map column := by
  unfold modify
  rw [List.map_map]
  refine List.map_congr_left fun row hrow => ?_
  simp only [Function.comp_apply]
  split
  · exact h row hrow ‹_›
  · rfl

theorem modify_append {rows' : List α} :
    modify p f (rows ++ rows') = modify p f rows ++ modify p f rows' :=
  List.map_append

/-- Two updates that do the same to every row. -/
theorem modify_congr {p' : α → Bool} {f' : α → α}
    (h : ∀ row ∈ rows, (if p row then f row else row) = if p' row then f' row else row) :
    modify p f rows = modify p' f' rows :=
  List.map_congr_left h

theorem modify_eq_self (h : ∀ row ∈ rows, p row = false) : modify p f rows = rows := by
  unfold modify
  conv_rhs => rw [← List.map_id rows]
  refine List.map_congr_left fun row hrow => ?_
  rw [h row hrow]
  rfl

/-- Two updates in a row, each row taken through both. -/
theorem modify_modify {p' : α → Bool} {f' : α → α} :
    modify p' f' (modify p f rows) =
      rows.map fun row =>
        if p' (if p row then f row else row) then f' (if p row then f row else row)
        else if p row then f row else row := by
  unfold modify
  rw [List.map_map]
  rfl

/-- The rows with the key of a given row are that row alone. -/
theorem filter_eq_singleton (hnodup : (rows.map key).Nodup) (hrow : row ∈ rows)
    (hp : ∀ r ∈ rows, p r = true ↔ key r = key row) : rows.filter p = [row] := by
  induction rows with
  | nil => cases hrow
  | cons r rows ih =>
    rw [List.map_cons, List.nodup_cons] at hnodup
    rcases List.mem_cons.mp hrow with rfl | hmem
    · -- no later row shares the key
      have hrest : rows.filter p = [] := by
        rw [List.filter_eq_nil_iff]
        intro r' hr' hpr'
        have hkey := (hp r' (List.mem_cons_of_mem _ hr')).mp hpr'
        exact hnodup.1 (hkey ▸ List.mem_map_of_mem hr')
      rw [List.filter_cons_of_pos ((hp row List.mem_cons_self).mpr rfl), hrest]
    · have hne : ¬p r = true := by
        intro hpr
        have hkey := (hp r List.mem_cons_self).mp hpr
        exact hnodup.1 (hkey ▸ List.mem_map_of_mem hmem)
      rw [List.filter_cons_of_neg hne]
      exact ih hnodup.2 hmem fun r' hr' => hp r' (List.mem_cons_of_mem _ hr')

/-! ## Sums over the rows -/

section Sum

variable [AddCommGroup M] {w : α → M}

/-- The sum of `w` over the rows. -/
def sumOf (w : α → M) (rows : List α) : M := (rows.map w).sum

@[simp] theorem sumOf_nil : sumOf w [] = 0 := rfl

@[simp] theorem sumOf_cons : sumOf w (row :: rows) = w row + sumOf w rows := by
  simp [sumOf]

@[simp] theorem sumOf_append {rows' : List α} :
    sumOf w (rows ++ rows') = sumOf w rows + sumOf w rows' := by
  simp [sumOf]

theorem sumOf_perm {rows' : List α} (h : rows.Perm rows') : sumOf w rows = sumOf w rows' :=
  (h.map w).sum_eq

theorem sumOf_congr {w' : α → M} (h : ∀ row ∈ rows, w row = w' row) :
    sumOf w rows = sumOf w' rows := by
  unfold sumOf
  rw [List.map_congr_left h]

theorem sumOf_neg : sumOf (fun row => -w row) rows = -sumOf w rows := by
  induction rows with
  | nil => simp
  | cons row rows ih =>
    rw [sumOf_cons, sumOf_cons, ih, neg_add]

theorem sumOf_eq_zero (h : ∀ row ∈ rows, w row = 0) : sumOf w rows = 0 := by
  induction rows with
  | nil => rfl
  | cons row rows ih =>
    rw [sumOf_cons, h row List.mem_cons_self, zero_add]
    exact ih fun r hr => h r (List.mem_cons_of_mem _ hr)

/-- An update moves the sum by what it changes in the updated rows. -/
theorem sumOf_modify :
    sumOf w (modify p f rows) =
      sumOf w rows + sumOf (fun row => w (f row) - w row) (rows.filter p) := by
  induction rows with
  | nil => simp [modify]
  | cons row rows ih =>
    have hcons : modify p f (row :: rows) =
        (if p row then f row else row) :: modify p f rows := rfl
    rw [hcons, sumOf_cons, sumOf_cons, ih]
    by_cases hp : p row = true
    · rw [List.filter_cons_of_pos hp, sumOf_cons, if_pos hp]
      abel
    · rw [List.filter_cons_of_neg hp, if_neg hp]
      abel

theorem sumOf_modify_of_eq (h : ∀ row ∈ rows, p row = true → w (f row) = w row) :
    sumOf w (modify p f rows) = sumOf w rows := by
  have hchange : sumOf (fun row => w (f row) - w row) (rows.filter p) = 0 := by
    refine sumOf_eq_zero fun row hrow => ?_
    obtain ⟨hmem, hp⟩ := List.mem_filter.mp hrow
    rw [h row hmem hp, sub_self]
  rw [sumOf_modify, hchange, add_zero]

/-- An update of the one row with a given key. -/
theorem sumOf_modify_key (hnodup : (rows.map key).Nodup) (hrow : row ∈ rows)
    (hp : ∀ r ∈ rows, p r = true ↔ key r = key row) :
    sumOf w (modify p f rows) = sumOf w rows + (w (f row) - w row) := by
  rw [sumOf_modify, filter_eq_singleton hnodup hrow hp]
  simp

theorem sumOf_filter_add (w : α → M) (p : α → Bool) (rows : List α) :
    sumOf w (rows.filter p) + sumOf w (rows.filter fun row => !p row) = sumOf w rows := by
  induction rows with
  | nil => simp
  | cons row rows ih =>
    by_cases hp : p row = true
    · rw [List.filter_cons_of_pos hp, List.filter_cons_of_neg (by simp [hp]), sumOf_cons,
        sumOf_cons, ← ih]
      abel
    · rw [List.filter_cons_of_neg hp, List.filter_cons_of_pos (by simp [hp]), sumOf_cons,
        sumOf_cons, ← ih]
      abel

/-- Two conditions that no row meets together. -/
theorem sumOf_filter_or {q : α → Bool} (h : ∀ row ∈ rows, p row = true → q row = false) :
    sumOf w (rows.filter fun row => p row || q row) =
      sumOf w (rows.filter p) + sumOf w (rows.filter q) := by
  induction rows with
  | nil => simp
  | cons row rows ih =>
    have hrest := ih fun r hr => h r (List.mem_cons_of_mem _ hr)
    by_cases hp : p row = true
    · have hq := h row List.mem_cons_self hp
      rw [List.filter_cons_of_pos (by simp [hp]), List.filter_cons_of_pos hp,
        List.filter_cons_of_neg (by simp [hq]), sumOf_cons, sumOf_cons, hrest]
      abel
    · by_cases hq : q row = true
      · rw [List.filter_cons_of_pos (by simp [hq]), List.filter_cons_of_neg hp,
          List.filter_cons_of_pos hq, sumOf_cons, sumOf_cons, hrest]
        abel
      · rw [List.filter_cons_of_neg (by simp [hp, hq]), List.filter_cons_of_neg hp,
          List.filter_cons_of_neg hq, hrest]

/-- A deletion of the one row with a given key. -/
theorem sumOf_remove_key (hnodup : (rows.map key).Nodup) (hrow : row ∈ rows)
    (hp : ∀ r ∈ rows, p r = true ↔ key r = key row) :
    sumOf w (rows.filter fun r => !p r) = sumOf w rows - w row := by
  have h := sumOf_filter_add w p rows
  rw [filter_eq_singleton hnodup hrow hp] at h
  rw [← h]
  simp

variable [PartialOrder M] [IsOrderedAddMonoid M]

theorem sumOf_nonneg (h : ∀ row ∈ rows, 0 ≤ w row) : 0 ≤ sumOf w rows := by
  refine List.sum_nonneg fun m hm => ?_
  obtain ⟨row, hrow, rfl⟩ := List.mem_map.mp hm
  exact h row hrow

/-- A part of the rows weighs at most as much as all of them. -/
theorem sumOf_filter_le (h : ∀ row ∈ rows, 0 ≤ w row) : sumOf w (rows.filter p) ≤ sumOf w rows := by
  rw [← sumOf_filter_add w p rows]
  refine le_add_of_nonneg_right (sumOf_nonneg fun row hrow => ?_)
  exact h row (List.mem_filter.mp hrow).1

theorem le_sumOf (h : ∀ row ∈ rows, 0 ≤ w row) (hrow : row ∈ rows) : w row ≤ sumOf w rows :=
  List.single_le_sum (fun m hm => by
    obtain ⟨r, hr, rfl⟩ := List.mem_map.mp hm
    exact h r hr) _ (List.mem_map_of_mem hrow)

/-- A sum of nonnegative quantities that is zero has no positive part. -/
theorem eq_zero_of_sumOf (hsum : sumOf w rows = 0) (h : ∀ row ∈ rows, 0 ≤ w row)
    (hrow : row ∈ rows) : w row = 0 :=
  le_antisymm (hsum ▸ le_sumOf h hrow) (h row hrow)

end Sum

end Custombuild.Lib.Table
