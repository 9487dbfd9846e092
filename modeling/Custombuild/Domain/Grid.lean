/-
  The grid of a bookcase: bays and cabinets stand one panel apart between the sides, and the
  rows of shelves lie one above the other.  What the validators accept, said once for the proofs
  about boxes.
-/
import Mathlib.Algebra.Order.BigOperators.Group.List
import Mathlib.Data.List.Pairwise
import Mathlib.Tactic.Ring
import Mathlib.Tactic.Linarith
import Custombuild.Domain.Parts

namespace Custombuild.Domain

open Custombuild.Lib

/-! ## Shares -/

theorem length_equalShares (total : Int) (count : Nat) : (equalShares total count).length = count := by
  simp [equalShares]

theorem length_ratioWidths (available : Int) (ratios : List Int) :
    (ratioWidths available ratios).length = ratios.length := by
  simp [ratioWidths]

/-- The first `r` of `count` shares are raised: no more than `r` micrometres in all. -/
theorem sum_raised_le (q r : Int) (hr : 0 ≤ r) (count : Nat) :
    ((List.range count).map fun index : Nat => q + if (index : Int) < r then 1 else 0).sum ≤
      count * q + min (count : Int) r := by
  induction count with
  | zero =>
    simp only [List.range_zero, List.map_nil, List.sum_nil, Nat.cast_zero, zero_mul, zero_add]
    omega
  | succ count ih =>
    rw [List.range_succ, List.map_append, List.sum_append]
    simp only [List.map_cons, List.map_nil, List.sum_cons, List.sum_nil, Nat.cast_add, Nat.cast_one]
    have hexpand : ((count : Int) + 1) * q = count * q + q := by ring
    rw [hexpand]
    split <;> omega

theorem sum_equalShares_le {total : Int} {count : Nat} (hcount : 0 < count) :
    (equalShares total count).sum ≤ total := by
  have hpos : (0 : Int) < count := by omega
  have hr : 0 ≤ total % count := Int.emod_nonneg _ (by omega)
  have hsum := sum_raised_le (total / count) (total % count) hr count
  have hdiv : (count : Int) * (total / count) + total % count = total := Int.mul_ediv_add_emod _ _
  unfold equalShares
  omega

/-- The shares rounded down do not exceed what is divided. -/
theorem total_mul_sum_floor_le (available total : Int) (htotal : 0 < total) (ratios : List Int) :
    total * (ratios.map fun ratio => available * ratio / total).sum ≤ available * ratios.sum := by
  induction ratios with
  | nil => simp
  | cons ratio ratios ih =>
    have hfloor : total * (available * ratio / total) ≤ available * ratio :=
      Int.mul_ediv_self_le (by omega)
    simp only [List.map_cons, List.sum_cons]
    calc total * (available * ratio / total + (ratios.map fun r => available * r / total).sum)
        = total * (available * ratio / total)
            + total * (ratios.map fun r => available * r / total).sum := by ring
      _ ≤ available * ratio + available * ratios.sum := by omega
      _ = available * (ratio + ratios.sum) := by ring

/-- Raising the entries at some indices by one adds at most as many as there are indices. -/
theorem sum_raise_le (raised : List Nat) (widths : List Int) (start : Nat) :
    ((widths.zipIdx start).map fun entry : Int × Nat =>
      if raised.contains entry.2 then entry.1 + 1 else entry.1).sum ≤
      widths.sum + (raised.filter fun index => decide (start ≤ index)).length := by
  induction widths generalizing start with
  | nil => simp
  | cons width widths ih =>
    have hrest := ih (start + 1)
    simp only [List.zipIdx_cons, List.map_cons, List.sum_cons]
    have hsub : (raised.filter fun index => decide (start + 1 ≤ index)).length ≤
        (raised.filter fun index => decide (start ≤ index)).length := by
      refine (List.monotone_filter_right raised fun index h => ?_).length_le
      simp only [decide_eq_true_eq] at h ⊢
      omega
    by_cases hmem : start ∈ raised
    · have hlt : (raised.filter fun index => decide (start + 1 ≤ index)).length <
          (raised.filter fun index => decide (start ≤ index)).length := by
        have hperm := List.filter_append_perm (fun index => decide (index = start))
          (raised.filter fun index => decide (start ≤ index))
        have hlen := hperm.length_eq
        rw [List.length_append, List.filter_filter, List.filter_filter] at hlen
        have hhead : 0 < (raised.filter fun index =>
            decide (index = start) && decide (start ≤ index)).length :=
          List.length_pos_of_mem (List.mem_filter.mpr ⟨hmem, by simp⟩)
        have hsame : (raised.filter fun index =>
              !decide (index = start) && decide (start ≤ index)) =
            raised.filter fun index => decide (start + 1 ≤ index) := by
          refine List.filter_congr fun index _ => ?_
          rw [Bool.eq_iff_iff]
          simp only [Bool.and_eq_true, Bool.not_eq_true', decide_eq_false_iff_not,
            decide_eq_true_eq]
          omega
        rw [hsame] at hlen
        omega
      rw [if_pos (by simpa using hmem)]
      omega
    · rw [if_neg (by simpa using hmem)]
      omega

theorem sum_ratioWidths_le (available : Int) {ratios : List Int} (htotal : 0 < ratios.sum)
    : (ratioWidths available ratios).sum ≤ available := by
  have hfloor := total_mul_sum_floor_le available ratios.sum htotal ratios
  rw [mul_comm] at hfloor
  have hle : (ratios.map fun ratio => available * ratio / ratios.sum).sum ≤ available :=
    le_of_mul_le_mul_right hfloor htotal
  set widths := ratios.map fun ratio => available * ratio / ratios.sum with hwidths
  set order := sortBy (fun entry : Int × Nat =>
    toLex (-(available * entry.1 % ratios.sum), entry.2)) ratios.zipIdx with horder
  set raised := (order.take (available - widths.sum).toNat).map Prod.snd with hraised
  have hsum : (ratioWidths available ratios).sum ≤
      widths.sum + (raised.filter fun index => decide (0 ≤ index)).length :=
    sum_raise_le raised widths 0
  have hlen : (raised.filter fun index => decide (0 ≤ index)).length ≤
      (available - widths.sum).toNat := by
    refine (List.length_filter_le _ _).trans ?_
    rw [hraised, List.length_map, List.length_take]
    exact Nat.min_le_left _ _
  omega

theorem length_allocateBayWidthsUm (inner t : Int) (dividers : Nat) (ratios : List Int) :
    (allocateBayWidthsUm inner t dividers ratios).length = dividers + 1 := by
  unfold allocateBayWidthsUm
  simp only
  split
  · rw [length_ratioWidths]
    assumption
  · exact length_equalShares _ _

/-- The bays and the dividers between them fit between the sides. -/
theorem sum_allocateBayWidthsUm_le {inner t : Int} {dividers : Nat} {ratios : List Int}
    (hratios : ∀ ratio ∈ ratios, 0 < ratio) :
    (allocateBayWidthsUm inner t dividers ratios).sum + dividers * t ≤ inner := by
  unfold allocateBayWidthsUm
  simp only
  split
  · next hlength =>
    have hne : ratios ≠ [] := by
      intro hnil
      simp [hnil] at hlength
    have := sum_ratioWidths_le (inner - dividers * t) (List.sum_pos ratios hratios hne)
    omega
  · have : (equalShares (inner - dividers * t) (dividers + 1)).sum ≤ inner - dividers * t :=
      sum_equalShares_le (Nat.succ_pos dividers)
    omega

/-! ## Bays -/

/-- The bays from an index and a position on. -/
def baysFrom (t : Int) : Nat → Int → List Int → List Bay
  | _, _, [] => []
  | index, cursor, width :: widths =>
    ⟨index, cursor, width⟩ :: baysFrom t (index + 1) (cursor + width + t) widths

theorem zip_bayStarts (t : Int) (index : Nat) (cursor : Int) (widths : List Int) :
    (((bayStarts t cursor widths).zip widths).zipIdx index).map
      (fun entry => (⟨entry.2, entry.1.1, entry.1.2⟩ : Bay)) = baysFrom t index cursor widths := by
  induction widths generalizing index cursor with
  | nil => rfl
  | cons width widths ih => simp [bayStarts, baysFrom, ih]

theorem baysOf_eq (t : Int) (widths : List Int) : baysOf t widths = baysFrom t 0 t widths :=
  zip_bayStarts t 0 t widths

/-- One bay stands left of another, and next to it where their indices say so. -/
structure Bay.Before (t : Int) (a b : Bay) : Prop where
  index : a.index < b.index
  apart : a.endUm + t ≤ b.startUm
  next : b.index = a.index + 1 → b.startUm = a.endUm + t
  far : a.index + 1 < b.index → a.endUm + 2 * t ≤ b.startUm

/-- What is known of one bay of a grid that begins at a position. -/
structure Bay.InGrid (t : Int) (first : Nat) (cursor : Int) (widths : List Int) (bay : Bay) :
    Prop where
  index_ge : first ≤ bay.index
  index_lt : bay.index < first + widths.length
  start_ge : cursor ≤ bay.startUm
  start_eq : bay.index = first → bay.startUm = cursor
  start_far : first < bay.index → cursor + t ≤ bay.startUm
  width_mem : bay.widthUm ∈ widths
  end_le : bay.endUm + t ≤ cursor + widths.sum + widths.length * t

section Bays

variable {t : Int} {widths : List Int}

theorem inGrid_of_mem (ht : 0 ≤ t) (hwidths : ∀ width ∈ widths, 0 ≤ width) {first : Nat}
    {cursor : Int} {bay : Bay} (h : bay ∈ baysFrom t first cursor widths) :
    bay.InGrid t first cursor widths := by
  induction widths generalizing first cursor with
  | nil => simp [baysFrom] at h
  | cons width widths ih =>
    have hwidth := hwidths width List.mem_cons_self
    have hrest : ∀ w ∈ widths, 0 ≤ w := fun w hw => hwidths w (List.mem_cons_of_mem _ hw)
    have hsum : 0 ≤ widths.sum := List.sum_nonneg hrest
    have hlen : (0 : Int) ≤ widths.length * t := by positivity
    have hexpand : ((widths.length : Int) + 1) * t = widths.length * t + t := by ring
    rcases List.mem_cons.mp h with rfl | h
    · constructor
      · exact Nat.le_refl _
      · simp
      · exact Int.le_refl _
      · exact fun _ => rfl
      · exact fun hlt => absurd hlt (Nat.lt_irrefl _)
      · exact List.mem_cons_self
      · simp only [Bay.endUm, List.sum_cons, List.length_cons, Nat.cast_add, Nat.cast_one, hexpand]
        omega
    · have hbay := ih hrest h
      have hge := hbay.index_ge
      have hlt := hbay.index_lt
      have hstart := hbay.start_ge
      have hend := hbay.end_le
      constructor
      · omega
      · rw [List.length_cons]
        omega
      · omega
      · intro heq
        omega
      · intro _
        omega
      · exact List.mem_cons_of_mem _ hbay.width_mem
      · simp only [List.sum_cons, List.length_cons, Nat.cast_add, Nat.cast_one, hexpand]
        omega

theorem baysFrom_pairwise (ht : 0 ≤ t) (hwidths : ∀ width ∈ widths, 0 ≤ width) (first : Nat)
    (cursor : Int) : (baysFrom t first cursor widths).Pairwise (Bay.Before t) := by
  induction widths generalizing first cursor with
  | nil => exact List.Pairwise.nil
  | cons width widths ih =>
    have hrest : ∀ w ∈ widths, 0 ≤ w := fun w hw => hwidths w (List.mem_cons_of_mem _ hw)
    refine List.Pairwise.cons (fun bay hbay => ?_) (ih hrest _ _)
    have hgrid := inGrid_of_mem ht hrest hbay
    have hge := hgrid.index_ge
    refine ⟨?_, hgrid.start_ge, fun heq => hgrid.start_eq heq, fun hlt => ?_⟩
    · show first < bay.index
      omega
    · have hfar := hgrid.start_far hlt
      show cursor + width + 2 * t ≤ bay.startUm
      omega

theorem map_index_baysFrom (first : Nat) (cursor : Int) :
    (baysFrom t first cursor widths).map Bay.index = List.range' first widths.length := by
  induction widths generalizing first cursor with
  | nil => rfl
  | cons width widths ih => simp [baysFrom, ih, List.range'_succ]

/-- The indices of the bays count from zero. -/
theorem map_index_baysOf (t : Int) (widths : List Int) :
    (baysOf t widths).map Bay.index = List.range widths.length := by
  rw [baysOf_eq, map_index_baysFrom, List.range_eq_range']

theorem length_baysOf (t : Int) (widths : List Int) : (baysOf t widths).length = widths.length := by
  simpa using congrArg List.length (map_index_baysOf t widths)

/-- Every index below the number of bays is the index of one. -/
theorem exists_bay {k : Nat} (hk : k < widths.length) : ∃ bay ∈ baysOf t widths, bay.index = k := by
  have hmem : k ∈ (baysOf t widths).map Bay.index := by
    rw [map_index_baysOf]
    exact List.mem_range.mpr hk
  exact List.mem_map.mp hmem

/-- Two bays are one, or one of them is before the other. -/
theorem bays_trichotomy (ht : 0 ≤ t) (hwidths : ∀ width ∈ widths, 0 ≤ width) {a b : Bay}
    (ha : a ∈ baysOf t widths) (hb : b ∈ baysOf t widths) :
    a = b ∨ a.Before t b ∨ b.Before t a := by
  rw [baysOf_eq] at ha hb
  have hpairs : (baysFrom t 0 t widths).Pairwise fun a b => a.Before t b ∨ b.Before t a :=
    (baysFrom_pairwise ht hwidths 0 t).imp Or.inl
  by_cases heq : a = b
  · exact Or.inl heq
  · have : Std.Symm fun a b : Bay => a.Before t b ∨ b.Before t a := ⟨fun _ _ h => h.symm⟩
    exact Or.inr (hpairs.forall ha hb heq)

theorem before_of_index (ht : 0 ≤ t) (hwidths : ∀ width ∈ widths, 0 ≤ width) {a b : Bay}
    (ha : a ∈ baysOf t widths) (hb : b ∈ baysOf t widths) (h : a.index < b.index) :
    a.Before t b := by
  rcases bays_trichotomy ht hwidths ha hb with rfl | hab | hba
  · exact absurd h (Nat.lt_irrefl _)
  · exact hab
  · exact absurd hba.index (Nat.not_lt_of_lt h)

/-- Where a bay of a bookcase of a width lies between the sides. -/
structure Bay.Between (t width : Int) (widths : List Int) (bay : Bay) : Prop where
  start_ge : t ≤ bay.startUm
  start_eq : bay.index = 0 → bay.startUm = t
  start_far : bay.index ≠ 0 → 2 * t ≤ bay.startUm
  end_le : bay.endUm + t ≤ width
  end_far : bay.index + 1 ≠ widths.length → bay.endUm + 2 * t ≤ width
  index_lt : bay.index < widths.length
  width_mem : bay.widthUm ∈ widths

theorem between_of_mem (ht : 0 ≤ t) (hwidths : ∀ width ∈ widths, 0 ≤ width) {width : Int}
    (hsum : widths.sum + (widths.length + 1) * t ≤ width) {bay : Bay}
    (h : bay ∈ baysOf t widths) : bay.Between t width widths := by
  have hgrid : ∀ bay ∈ baysOf t widths, bay.InGrid t 0 t widths := by
    intro bay hbay
    rw [baysOf_eq] at hbay
    exact inGrid_of_mem ht hwidths hbay
  have hexpand : ((widths.length : Int) + 1) * t = widths.length * t + t := by ring
  have hend : ∀ bay ∈ baysOf t widths, bay.endUm + t ≤ width := by
    intro bay hbay
    have := (hgrid bay hbay).end_le
    omega
  have hbay := hgrid bay h
  have hlt := hbay.index_lt
  constructor
  · exact hbay.start_ge
  · exact hbay.start_eq
  · intro hne
    have := hbay.start_far (by omega)
    omega
  · exact hend bay h
  · intro hne
    -- The last bay stands to the right and is not narrower than nothing.
    have hcount : widths.length - 1 < widths.length := by omega
    obtain ⟨last, hlast, hindex⟩ : ∃ last ∈ baysOf t widths, last.index = widths.length - 1 :=
      exists_bay hcount
    have hbefore := before_of_index ht hwidths h hlast (by omega)
    have hapart := hbefore.apart
    have hwidth := hwidths _ (hgrid last hlast).width_mem
    have hlastEnd := hend last hlast
    unfold Bay.endUm at hlastEnd hapart ⊢
    omega
  · omega
  · exact hbay.width_mem

end Bays

/-! ## Rows of shelves -/

/-- What is known of the positions that leave openings of at least 40 mm. -/
theorem positions_of_openings {t top cursor : Int} (ht : 0 ≤ t) {positions : List Int}
    (h : ∀ opening ∈ openingHeights t top cursor positions, 40000 ≤ opening) :
    cursor + 40000 ≤ top ∧
      (∀ z ∈ positions, cursor + 40000 ≤ z ∧ z + t + 40000 ≤ top) ∧
      positions.Pairwise fun z z' => z + t + 40000 ≤ z' := by
  induction positions generalizing cursor with
  | nil =>
    have := h (top - cursor) List.mem_cons_self
    exact ⟨by omega, by simp, List.Pairwise.nil⟩
  | cons z zs ih =>
    have hfirst := h (z - cursor) List.mem_cons_self
    obtain ⟨htop, hmem, hpairs⟩ := ih fun opening ho => h opening (List.mem_cons_of_mem _ ho)
    refine ⟨by omega, ?_, ?_⟩
    · intro z' hz'
      rcases List.mem_cons.mp hz' with rfl | hz'
      · exact ⟨by omega, htop⟩
      · have := hmem z' hz'
        exact ⟨by omega, this.2⟩
    · exact List.Pairwise.cons (fun z' hz' => (hmem z' hz').1) hpairs

/-- Rows are counted upwards. -/
theorem rows_pairwise {R : Int → Int → Prop} {positions : List Int} (h : positions.Pairwise R) :
    (positions.zipIdx.map fun entry : Int × Nat => (entry.2, entry.1)).Pairwise
      fun a b => a.1 < b.1 ∧ R a.2 b.2 := by
  rw [List.pairwise_map]
  have hcount : positions.zipIdx.Pairwise fun a b => a.2 < b.2 := by
    have : (positions.zipIdx.map Prod.snd).Pairwise (· < ·) := by
      rw [List.zipIdx_map_snd]
      exact List.pairwise_lt_range'
    exact List.pairwise_map.mp this
  have hvalue : positions.zipIdx.Pairwise fun a b => R a.1 b.1 := by
    have : (positions.zipIdx.map Prod.fst).Pairwise R := by
      rw [List.zipIdx_map_fst]
      exact h
    exact List.pairwise_map.mp this
  exact hcount.and hvalue

theorem length_stackShelves (t cursor : Int) (openings : List Int) :
    (stackShelves t cursor openings).length = openings.length := by
  induction openings generalizing cursor with
  | nil => rfl
  | cons opening openings ih => simp [stackShelves, ih]

theorem length_allocateShelfPositionsUm (bottom inner t : Int) (count : Nat) (ratios : List Int) :
    (allocateShelfPositionsUm bottom inner t count ratios).length = count := by
  unfold allocateShelfPositionsUm
  split
  · next hzero => simp [hzero]
  · split
    · next hlength => simpa using hlength
    · simp [length_stackShelves, length_equalShares]

/-! ## Accepted parameters -/

namespace BookcaseParameters

/-- What the validators have checked of the measures of a bookcase. -/
structure Measured (p : BookcaseParameters) : Prop where
  dado : p.jointSystem = .dado
  thickness_pos : 0 < p.actualThicknessUm
  sides_fit : 2 * p.actualThicknessUm < p.widthUm
  thickness_lt_depth : p.actualThicknessUm < p.depthUm
  backThickness_pos : 0 < p.backThicknessUm
  plinth_nonneg : 0 ≤ p.plinthHeightUm
  clearance_nonneg : 0 ≤ p.shelfSideClearanceUm
  bayWidths_ge : ∀ width ∈ p.bayWidths, 2 * p.shelfSideClearanceUm + 40000 ≤ width
  bayWidths_fit : p.bayWidths.sum + p.verticalDividerCount * p.actualThicknessUm ≤ p.innerWidth
  openings_ge : ∀ opening ∈ shelfOpeningHeightsUm p.shelfZoneBottom p.innerHeight
    p.actualThicknessUm p.shelfPositions, 40000 ≤ opening
  baseHeight_ge : p.baseCabinetCount ≠ 0 → 300000 ≤ p.baseCabinetHeightUm
  baseDepth_eq : p.baseCabinetCount ≠ 0 → p.baseCabinetDepthUm = p.depthUm
  baseOpenings_ge : p.baseCabinetCount ≠ 0 → ∀ width ∈ p.baseOpenings, 200000 ≤ width
  inset_fits : p.backPanel = .insetGroove → p.backThicknessUm + 12000 < p.depthUm

variable {p : BookcaseParameters}

theorem length_bayWidths (p : BookcaseParameters) :
    p.bayWidths.length = p.verticalDividerCount + 1 :=
  length_allocateBayWidthsUm _ _ _ _

theorem length_baseOpenings (h : p.baseCabinetCount ≠ 0) :
    p.baseOpenings.length = p.baseCabinetCount := by
  unfold baseOpenings
  split
  · next heq => rw [length_bayWidths, heq]
  · rw [length_allocateBayWidthsUm]
    omega

theorem checkRanges_ok (h : p.checkRanges = .ok ()) :
    0 < p.actualThicknessUm ∧ 0 < p.backThicknessUm ∧ 0 ≤ p.plinthHeightUm ∧
      0 ≤ p.shelfSideClearanceUm ∧ ∀ ratio ∈ p.bayWidthRatiosPpm, 0 < ratio := by
  simp only [checkRanges, bind_eq_ok, require_eq_ok, exists_const, decide_eq_true_eq,
    List.all_eq_true, Bool.and_eq_true] at h
  obtain ⟨-, -, -, -, ht, -, -, -, hratios, -, -, -, -, hback, hplinth, hclearance, -⟩ := h
  exact ⟨ht, hback, hplinth, hclearance, fun ratio hr => (hratios ratio hr).1⟩

theorem checkEnvelope_ok (h : p.checkEnvelope = .ok ()) :
    p.jointSystem = .dado ∧ 2 * p.actualThicknessUm < p.widthUm ∧
      p.actualThicknessUm < p.depthUm := by
  simp only [checkEnvelope, bind_eq_ok, require_eq_ok, exists_const, decide_eq_true_eq,
    beq_iff_eq] at h
  obtain ⟨hdado, -, hwidth, -, hdepth, -⟩ := h
  exact ⟨hdado, hwidth, hdepth⟩

theorem checkOpenings_ok (h : p.checkOpenings = .ok ()) :
    (∀ width ∈ p.bayWidths, 2 * p.shelfSideClearanceUm + 40000 ≤ width) ∧
      ∀ opening ∈ shelfOpeningHeightsUm p.shelfZoneBottom p.innerHeight p.actualThicknessUm
        p.shelfPositions, 40000 ≤ opening := by
  simpa only [checkOpenings, bind_eq_ok, require_eq_ok, exists_const, decide_eq_true_eq,
    List.all_eq_true] using h

theorem checkBase_ok (h : p.checkBase = .ok ()) (hbase : p.baseCabinetCount ≠ 0) :
    300000 ≤ p.baseCabinetHeightUm ∧ p.baseCabinetDepthUm = p.depthUm ∧
      ∀ width ∈ p.baseOpenings, 200000 ≤ width := by
  rw [checkBase, if_pos hbase] at h
  simp only [bind_eq_ok, require_eq_ok, exists_const, decide_eq_true_eq, List.all_eq_true] at h
  exact ⟨h.1, h.2.1, h.2.2.2⟩

theorem checkBack_ok (h : p.checkBack = .ok ()) (hinset : p.backPanel = .insetGroove) :
    p.backThicknessUm + 12000 < p.depthUm := by
  simp only [checkBack, hinset, bind_eq_ok, require_eq_ok, exists_const, beq_self_eq_true,
    Bool.true_and, Bool.not_eq_true', decide_eq_false_iff_not] at h
  omega

/-- Accepted parameters are measured. -/
theorem measured_of_validate (h : p.validate = .ok ()) : p.Measured := by
  simp only [validate, checkFields, validateGeometry, bind_eq_ok] at h
  obtain ⟨-, ⟨⟨⟩, hfields, -⟩, ⟨⟩, henvelope, ⟨⟩, -, ⟨⟩, -, ⟨⟩, hopenings, ⟨⟩, hbase, hback⟩ := h
  obtain ⟨ht, hbt, hplinth, hclearance, hratios⟩ := checkRanges_ok hfields
  obtain ⟨hdado, hwidth, hdepth⟩ := checkEnvelope_ok henvelope
  obtain ⟨hbays, hrows⟩ := checkOpenings_ok hopenings
  exact {
    dado := hdado
    thickness_pos := ht
    sides_fit := hwidth
    thickness_lt_depth := hdepth
    backThickness_pos := hbt
    plinth_nonneg := hplinth
    clearance_nonneg := hclearance
    bayWidths_ge := hbays
    bayWidths_fit := sum_allocateBayWidthsUm_le hratios
    openings_ge := hrows
    baseHeight_ge := fun h => (checkBase_ok hbase h).1
    baseDepth_eq := fun h => (checkBase_ok hbase h).2.1
    baseOpenings_ge := fun h => (checkBase_ok hbase h).2.2
    inset_fits := checkBack_ok hback }

/-! The places of the grid of a measured bookcase. -/

section Measured

variable (m : p.Measured)

include m

theorem Measured.bayWidths_nonneg : ∀ width ∈ p.bayWidths, 0 ≤ width := by
  intro width hwidth
  have := m.bayWidths_ge width hwidth
  have := m.clearance_nonneg
  omega

theorem Measured.bay_between {bay : Bay} (h : bay ∈ p.bays) :
    bay.Between p.actualThicknessUm p.widthUm p.bayWidths := by
  refine between_of_mem m.thickness_pos.le m.bayWidths_nonneg ?_ h
  have hsum := m.bayWidths_fit
  have hcount : ((p.bayWidths.length : Int) + 1) * p.actualThicknessUm =
      p.verticalDividerCount * p.actualThicknessUm + 2 * p.actualThicknessUm := by
    rw [length_bayWidths]
    push_cast
    ring
  rw [hcount]
  unfold innerWidth at hsum
  omega

theorem Measured.baseOpenings_fit (hbase : p.baseCabinetCount ≠ 0) :
    p.baseOpenings.sum + (p.baseOpenings.length + 1) * p.actualThicknessUm ≤ p.widthUm := by
  rw [length_baseOpenings hbase]
  unfold baseOpenings
  split
  · next heq =>
    have hsum := m.bayWidths_fit
    have hcount : ((p.baseCabinetCount : Int) + 1) * p.actualThicknessUm =
        p.verticalDividerCount * p.actualThicknessUm + 2 * p.actualThicknessUm := by
      rw [heq]
      push_cast
      ring
    unfold innerWidth at hsum
    omega
  · have hsum : (allocateBayWidthsUm p.innerWidth p.actualThicknessUm (p.baseCabinetCount - 1)
        []).sum + ((p.baseCabinetCount - 1 : Nat) : Int) * p.actualThicknessUm ≤ p.innerWidth :=
      sum_allocateBayWidthsUm_le (by simp)
    have hcast : ((p.baseCabinetCount - 1 : Nat) : Int) = p.baseCabinetCount - 1 := by omega
    have hcount : ((p.baseCabinetCount : Int) + 1) * p.actualThicknessUm =
        (p.baseCabinetCount - 1) * p.actualThicknessUm + 2 * p.actualThicknessUm := by ring
    have hinner : p.innerWidth = p.widthUm - 2 * p.actualThicknessUm := rfl
    rw [hcast] at hsum
    omega

theorem Measured.baseOpenings_nonneg (hbase : p.baseCabinetCount ≠ 0) :
    ∀ width ∈ p.baseOpenings, 0 ≤ width := by
  intro width hwidth
  have := m.baseOpenings_ge hbase width hwidth
  omega

theorem Measured.cabinet_between (hbase : p.baseCabinetCount ≠ 0) {cabinet : Bay}
    (h : cabinet ∈ p.cabinets) :
    cabinet.Between p.actualThicknessUm p.widthUm p.baseOpenings :=
  between_of_mem m.thickness_pos.le (m.baseOpenings_nonneg hbase) (m.baseOpenings_fit hbase) h

/-- The shelves lie in the zone between the bottom and the top. -/
theorem Measured.rows :
    p.shelfZoneBottom + 40000 ≤ p.heightUm - p.actualThicknessUm ∧
      (∀ z ∈ p.shelfPositions, p.shelfZoneBottom + 40000 ≤ z ∧
        z + p.actualThicknessUm + 40000 ≤ p.heightUm - p.actualThicknessUm) ∧
      p.shelfPositions.Pairwise fun z z' => z + p.actualThicknessUm + 40000 ≤ z' := by
  have hrows := positions_of_openings m.thickness_pos.le m.openings_ge
  have htop : p.shelfZoneBottom + p.innerHeight = p.heightUm - p.actualThicknessUm := by
    unfold innerHeight
    omega
  rwa [htop] at hrows

end Measured

end BookcaseParameters

end Custombuild.Domain
