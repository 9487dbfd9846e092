/-
  GEO-001 for a specification whose bays are made equal.

  A specification that passes keeps passing when its bays are divided anew exactly if the equal
  bays are wide enough and its new shelf rows fit (`withEqualBays_passes_iff`).
-/
import Custombuild.Web.GeometryRepair

namespace Custombuild.Web

open Custombuild.Lib Custombuild.Lib.Number

/-! ## The specification -/

/-- The specification with as many equal bays and the given shelf rows; a wall library gets one
    base cabinet for every bay. -/
def withEqualBays (spec : DesignSpec) (dividers : Nat) (rows : List Number) : DesignSpec :=
  { spec with
    dividerCount := finite dividers
    bayWidthRatios := []
    shelfHeightRatios := rows
    baseCabinetCount :=
      if spec.furnitureType = .wallLibrary then finite dividers + finite 1
      else spec.baseCabinetCount }

/-- What a bay has to measure: in a wall library it is the opening of a base cabinet as well. -/
def minimumClearWidthMm (spec : DesignSpec) : ℚ :=
  if spec.furnitureType = .wallLibrary then Constraints.minimumBaseCabinetOpeningMm
  else Constraints.minimumShelfWidthMm + 2 * shelfSideClearanceMm

/-- The clear width of equal bays. -/
def equalBayWidthMm (spec : DesignSpec) (dividers : Nat) : Number :=
  (spec.widthMm - (finite dividers + finite 2) * spec.measuredThicknessMm) /
    (finite dividers + finite 1)

/-- The shelf rows have the right number, keep their distance and leave the openings. -/
def shelfRowsFit (spec : DesignSpec) : Bool :=
  (spec.shelfHeightRatios.isEmpty ||
      equal (finite spec.shelfHeightRatios.length) spec.shelfCount) &&
    !hasBadShelfRatio none spec.shelfHeightRatios &&
    (rawShelfOpeningHeights spec).any fun openings =>
      openings.all fun heightMm => !lt heightMm (finite Constraints.minimumShelfOpeningMm)

/-! ## What a passing specification measures -/

theorem passesGeometry_iff {spec : DesignSpec} : passesGeometry spec = true ↔
    ∃ openings bays baseOpenings, rawShelfOpeningHeights spec = some openings ∧
      measuredBays spec = some bays ∧ measuredBaseOpenings spec = some baseOpenings ∧
      ∀ finding ∈ geometryFindings spec openings bays baseOpenings, finding.1 = false := by
  constructor
  · intro h
    simp only [passesGeometry, Option.any_eq_true] at h
    obtain ⟨evaluation, hevaluation, hpass⟩ := h
    simp only [invalidGeometryRule, Option.bind_eq_bind, Option.bind_eq_some_iff, Option.pure_def,
      Option.some.injEq] at hevaluation
    obtain ⟨openings, hopenings, bays, hbays, baseOpenings, hbase, rfl⟩ := hevaluation
    refine ⟨openings, bays, baseOpenings, hopenings, hbays, hbase, fun finding hmem => ?_⟩
    obtain ⟨made, text⟩ := finding
    cases made with
    | false => rfl
    | true =>
      have hnone : ∀ text, (true, text) ∉ geometryFindings spec openings bays baseOpenings := by
        simpa using hpass
      exact absurd hmem (hnone text)
  · rintro ⟨openings, bays, baseOpenings, hopenings, hbays, hbase, hfindings⟩
    exact passesGeometry_of hopenings hbays hbase hfindings

/-- The measures of a specification that passes, all of them finite. -/
structure Measures (spec : DesignSpec) (w depth t back load : ℚ) (d c : Nat) : Prop where
  width : spec.widthMm = finite w
  depth : spec.depthMm = finite depth
  thickness : spec.measuredThicknessMm = finite t
  back : spec.measuredBackThicknessMm = finite back
  load : spec.loadPerShelfKg = finite load
  dividers : spec.dividerCount = finite d
  bases : spec.baseCabinetCount = finite c
  thickness_pos : 0 < t
  dividers_le : d ≤ 16
  bases_le : c ≤ 17

theorem exists_finite {value : Number} (h : value.isFinite = true) : ∃ q, value = finite q := by
  cases value with
  | finite q => exact ⟨q, rfl⟩
  | _ => cases h

theorem exists_of_inside {value : Number} {range : ConstraintRange}
    (h : outsideConstraintRange value range = false) :
    ∃ q, value = finite q ∧ range.minimum ≤ q ∧ q ≤ range.maximum := by
  cases value with
  | finite q =>
    simp only [outsideConstraintRange, isFinite_finite, lt_finite, Bool.or_eq_false_iff,
      decide_eq_false_iff_not, not_lt] at h
    exact ⟨q, rfl, h.1.2, h.2⟩
  | _ => cases h

theorem exists_nat_of_inside {value : Number} {range : ConstraintRange} (most : Nat)
    (hinteger : value.isInteger = true) (hinside : outsideConstraintRange value range = false)
    (hmin : range.minimum = 0) (hmax : range.maximum = most) :
    ∃ n : Nat, value = finite n ∧ n ≤ most := by
  obtain ⟨q, rfl, hlow, hhigh⟩ := exists_of_inside hinside
  have hq : (q.num : ℚ) = q := Rat.coe_int_num_of_den_eq_one (by simpa [isInteger] using hinteger)
  have hnonneg : 0 ≤ q.num := by
    rw [Rat.num_nonneg]
    linarith
  obtain ⟨n, hn⟩ := Int.eq_ofNat_of_zero_le hnonneg
  have hqn : q = n := by
    rw [← hq, hn]
    rfl
  refine ⟨n, by rw [hqn], ?_⟩
  rw [hqn, hmax] at hhigh
  exact_mod_cast hhigh

theorem exists_measures {spec : DesignSpec} (h : passesGeometry spec = true) :
    ∃ w depth t back load d c, Measures spec w depth t back load d c := by
  obtain ⟨openings, bays, baseOpenings, -, -, -, hfindings⟩ := passesGeometry_iff.mp h
  simp only [geometryFindings, List.forall_mem_cons, Bool.or_eq_false_iff,
    Bool.not_eq_false'] at hfindings
  obtain ⟨hw, -, hdepth, -, -, -, -, -, ⟨htfin, htpos⟩, ⟨⟨⟨hback, -⟩, -⟩, -⟩, -, ⟨hdint, hd⟩, hload,
    ⟨hcint, hc⟩, -⟩ := hfindings
  obtain ⟨w, hw, -⟩ := exists_of_inside hw
  obtain ⟨depth, hdepth, -⟩ := exists_of_inside hdepth
  obtain ⟨t, ht⟩ := exists_finite htfin
  obtain ⟨back, hback⟩ := exists_finite hback
  obtain ⟨load, hload, -⟩ := exists_of_inside hload
  obtain ⟨d, hd, hd16⟩ := exists_nat_of_inside 16 hdint hd rfl rfl
  obtain ⟨c, hc, hc17⟩ := exists_nat_of_inside 17 hcint hc rfl rfl
  rw [ht] at htpos
  exact ⟨w, depth, t, back, load, d, c, hw, hdepth, ht, hback, hload, hd, hc, by simpa using htpos,
    hd16, hc17⟩

/-! ## The division -/

section Division

variable {spec : DesignSpec} {w depth t back load : ℚ} {d c n : Nat} (rows : List Number)

theorem equalBayWidthMm_finite (hm : Measures spec w depth t back load d c) :
    equalBayWidthMm spec n = finite ((w - (n + 2) * t) / (n + 1)) := by
  have hpos : (n : ℚ) + 1 ≠ 0 := by positivity
  simp only [equalBayWidthMm, hm.width, hm.thickness, finite_add, finite_mul, finite_sub]
  exact finite_div _ hpos

theorem withEqualBays_innerWidth (hm : Measures spec w depth t back load d c) :
    innerWidthMm (withEqualBays spec n rows) = finite (w - (n + 2) * t) := by
  simp only [innerWidthMm, withEqualBays, hm.width, hm.thickness, finite_add, finite_mul,
    finite_sub]

theorem withEqualBays_bayCount : bayCountOf (withEqualBays spec n rows) = finite ((n : ℚ) + 1) := by
  simp only [bayCountOf, withEqualBays, finite_add]

theorem withEqualBays_bayWidths (hm : Measures spec w depth t back load d c) (hn : n ≤ 16) :
    bayWidths (withEqualBays spec n rows) (innerWidthMm (withEqualBays spec n rows)) =
      some (List.replicate (n + 1) (equalBayWidthMm spec n)) := by
  rw [bayWidths, withEqualBays_innerWidth rows hm, equalBayWidthMm_finite hm]
  show Option.map _ (normalizedRatios [] (maximum (finite 1) (trunc (finite n) + finite 1))) = _
  rw [equalShares n (by omega), Option.map_some, List.map_replicate, finite_mul, mul_one_div]

theorem withEqualBays_measuredBays (hm : Measures spec w depth t back load d c) (hn : n ≤ 16) :
    measuredBays (withEqualBays spec n rows) =
      some (if 0 < w - (n + 2) * t then List.replicate (n + 1) (equalBayWidthMm spec n) else []) := by
  have hinteger : isInteger (finite ((n : ℚ) + 1)) = true := by
    have := isInteger_int ((n : Int) + 1)
    simpa using this
  have hcount : (n : ℚ) ≤ 16 := by exact_mod_cast hn
  have hnonneg : (0 : ℚ) ≤ n := Nat.cast_nonneg n
  have hvalid : bayRatiosAreValid (withEqualBays spec n rows) = true := rfl
  have hlow : (1 : ℚ) ≤ n + 1 := by linarith
  have hhigh : (n : ℚ) + 1 ≤ 17 := by linarith
  rw [measuredBays, withEqualBays_bayWidths rows hm hn]
  simp only [withEqualBays_innerWidth rows hm, withEqualBays_bayCount, hvalid, hinteger, lt_finite,
    le_finite, Constraints.bayCount, hlow, hhigh, decide_true, Bool.and_true, decide_eq_true_eq]
  split <;> rfl

/-- A bookcase has no base openings; a wall library has the bays. -/
theorem withEqualBays_baseOpenings (hm : Measures spec w depth t back load d c) (hn : n ≤ 16)
    (hbook : spec.furnitureType = .bookcase → c = 0) :
    ∃ openings, measuredBaseOpenings (withEqualBays spec n rows) = some openings ∧
      (spec.furnitureType = .bookcase → openings = []) ∧
      (spec.furnitureType = .wallLibrary → 0 < w - (n + 2) * t →
        openings = List.replicate (n + 1) (equalBayWidthMm spec n)) := by
  have hvalid : bayRatiosAreValid (withEqualBays spec n rows) = true := rfl
  cases htype : spec.furnitureType with
  | bookcase =>
    have hcount : (withEqualBays spec n rows).baseCabinetCount = finite 0 := by
      simp [withEqualBays, htype, hm.bases, hbook htype]
    refine ⟨[], ?_, fun _ => rfl, by rintro ⟨⟩⟩
    rw [measuredBaseOpenings, hcount]
    simp
  | wallLibrary =>
    have hcount : (withEqualBays spec n rows).baseCabinetCount = finite ((n : ℚ) + 1) := by
      simp [withEqualBays, htype]
    have hinteger : isInteger (finite ((n : ℚ) + 1)) = true := by
      have := isInteger_int ((n : Int) + 1)
      simpa using this
    have hcast : (n : ℚ) ≤ 16 := by exact_mod_cast hn
    have hnonneg : (0 : ℚ) ≤ n := Nat.cast_nonneg n
    have hpos : (0 : ℚ) < n + 1 := by linarith
    have hhigh : (n : ℚ) + 1 ≤ 17 := by linarith
    rw [measuredBaseOpenings, hcount, withEqualBays_bayWidths rows hm hn]
    simp only [withEqualBays_innerWidth rows hm, withEqualBays_bayCount, hvalid, hinteger, lt_finite,
      le_finite, equal_finite, Constraints.baseCabinetModuleCount, hpos, hhigh, decide_true,
      Bool.and_true, Bool.true_and, if_true, decide_eq_true_eq]
    by_cases hinner : 0 < w - (n + 2) * t
    · rw [if_pos hinner]
      exact ⟨_, rfl, by rintro ⟨⟩, fun _ _ => rfl⟩
    · have hlength : ((n : ℚ) + 1) = ((n + 1 : Nat) : ℚ) := by push_cast; rfl
      rw [if_neg hinner, hlength, arrayFrom_nat (by omega)]
      exact ⟨_, rfl, by rintro ⟨⟩, fun _ hpositive => absurd hpositive hinner⟩

theorem any_lt_replicate {bound q : ℚ} :
    ((List.replicate (n + 1) (finite q)).any fun widthMm => lt widthMm (finite bound)) =
      decide (q < bound) := by
  simp

/-- The openings do not depend on how many base cabinets there are. -/
theorem withEqualBays_openings (hwall : spec.furnitureType = .wallLibrary →
    lt (finite 0) spec.baseCabinetCount = true) :
    rawShelfOpeningHeights (withEqualBays spec n rows) =
      rawShelfOpeningHeights { spec with shelfHeightRatios := rows } := by
  have hbounds : shelfVerticalBounds (withEqualBays spec n rows) =
      shelfVerticalBounds { spec with shelfHeightRatios := rows } := by
    cases htype : spec.furnitureType with
    | bookcase => simp [shelfVerticalBounds, withEqualBays, htype]
    | wallLibrary =>
      have hpos : (0 : ℚ) < n + 1 := by positivity
      simp [shelfVerticalBounds, withEqualBays, htype, hwall htype, hpos]
  rw [rawShelfOpeningHeights, rawShelfOpeningHeights, hbounds]
  rfl

/-- A passing specification with new bays passes exactly if they are wide enough and the shelf rows
    fit. -/
theorem withEqualBays_passes_iff (hpasses : passesGeometry spec = true) (hn : n ≤ 16) :
    passesGeometry (withEqualBays spec n rows) = true ↔
      le (finite (minimumClearWidthMm spec)) (equalBayWidthMm spec n) = true ∧
        shelfRowsFit { spec with shelfHeightRatios := rows } = true := by
  obtain ⟨w, depth, t, back, load, d, c, hm⟩ := exists_measures hpasses
  obtain ⟨openings, bays, baseOpenings, -, -, -, hfindings⟩ := passesGeometry_iff.mp hpasses
  simp only [geometryFindings, List.forall_mem_cons, List.not_mem_nil, false_imp_iff,
    forall_true_iff, and_true] at hfindings
  obtain ⟨h1, h2, h3, h4, h5, h6, h7, h8, h9, h10, h11, h12, h13, h14, h15, h16, h17, h18, h19,
    h20, h21, h22, h23, h24, h25, h26, h27, h28, h29, h30⟩ := hfindings
  have hbook : spec.furnitureType = .bookcase → c = 0 := by
    intro htype
    simp only [htype, hm.bases, beq_self_eq_true, Bool.true_and, Bool.or_eq_false_iff,
      equal_finite, Bool.not_eq_false', decide_eq_true_eq] at h27
    exact_mod_cast h27.1.1
  have hwall : spec.furnitureType = .wallLibrary → lt (finite 0) spec.baseCabinetCount = true := by
    intro htype
    simp only [htype, hm.bases, beq_self_eq_true, Bool.true_and, lt_finite,
      decide_eq_false_iff_not, not_lt] at h28
    simp only [hm.bases, lt_finite, decide_eq_true_eq]
    linarith
  obtain ⟨newBase, hnewBase, hbaseBook, hbaseWall⟩ := 
    withEqualBays_baseOpenings rows hm hn hbook
  have hwidth := equalBayWidthMm_finite (n := n) hm
  have hpos : (0 : ℚ) < n + 1 := by positivity
  have hinner := withEqualBays_innerWidth (n := n) rows hm
  have hbays := withEqualBays_measuredBays rows hm hn
  have hminimum : 42 ≤ minimumClearWidthMm spec := by
    simp only [minimumClearWidthMm, Constraints.minimumBaseCabinetOpeningMm,
      Constraints.minimumShelfWidthMm, shelfSideClearanceMm]
    split <;> norm_num
  rw [passesGeometry_iff]
  constructor
  · rintro ⟨newOpenings, newBays, newBaseOpenings, hopen, hnewBays, hnewBase', hnew⟩
    simp only [geometryFindings, List.forall_mem_cons, List.not_mem_nil, false_imp_iff,
      forall_true_iff, and_true] at hnew
    obtain ⟨-, -, -, -, -, -, -, -, -, -, -, -, -, -, -, -, -, -, k19, -, -, k22, k23, k24, k25, k26,
      -⟩ := hnew
    have hinnerPos : 0 < w - (n + 2) * t := by
      rw [hinner, le_finite, decide_eq_false_iff_not, not_le] at k19
      exact k19
    rw [hbays, if_pos hinnerPos, Option.some.injEq] at hnewBays
    rw [hnewBase, Option.some.injEq] at hnewBase'
    rw [← hnewBays, hwidth, any_lt_replicate, decide_eq_false_iff_not, not_lt] at k24
    refine ⟨?_, ?_⟩
    · rw [hwidth, le_finite, decide_eq_true_eq, minimumClearWidthMm]
      cases htype : spec.furnitureType with
      | bookcase => simpa using k24
      | wallLibrary =>
        rw [← hnewBase', hbaseWall htype hinnerPos, hwidth, any_lt_replicate,
          decide_eq_false_iff_not, not_lt] at k26
        simpa using k26
    · rw [withEqualBays_openings rows hwall] at hopen
      simp only [shelfRowsFit, hopen, Option.any_some, Bool.and_eq_true, Bool.or_eq_true,
        Bool.not_eq_true']
      refine ⟨⟨?_, k23⟩, ?_⟩
      · cases hempty : rows.isEmpty with
        | true => exact .inl rfl
        | false => exact .inr (by simpa [withEqualBays, hempty] using k22)
      · rw [List.all_eq_true]
        intro heightMm hmem
        have := List.any_eq_false.mp k25 heightMm hmem
        simpa using this
  · rintro ⟨hle, hrows⟩
    rw [hwidth, le_finite, decide_eq_true_eq] at hle
    have hcount : (n : ℚ) ≤ 16 := by exact_mod_cast hn
    have hinteger : ∀ m : Nat, isInteger (finite (m : ℚ)) = true := fun m => by
      have := isInteger_int m
      simpa using this
    have hcast : (n : ℚ) + 1 = ((n + 1 : Nat) : ℚ) := by push_cast; rfl
    have hinnerPos : 0 < w - (n + 2) * t := by
      have hbay : 0 < (w - (n + 2) * t) / (n + 1) := by linarith
      exact (div_pos_iff_of_pos_right hpos).mp hbay
    simp only [shelfRowsFit, Bool.and_eq_true, Bool.or_eq_true, Bool.not_eq_true',
      Option.any_eq_true, List.all_eq_true] at hrows
    obtain ⟨⟨hlength, hspaced⟩, newOpenings, hopen, hall⟩ := hrows
    refine ⟨newOpenings, _, newBase, (withEqualBays_openings rows hwall).trans hopen, hbays, hnewBase, ?_⟩
    rw [if_pos hinnerPos]
    simp only [geometryFindings, List.forall_mem_cons, List.not_mem_nil, false_imp_iff,
      forall_true_iff, and_true]
    refine ⟨h1, h2, h3, h4, h5, h6, h7, h8, h9, h10, h11, ?_, h13, ?_, h15, h16, ?_, ?_, ?_, rfl, rfl,
      ?_, hspaced, ?_, ?_, ?_, ?_, ?_, h29, h30⟩
    · -- the number of dividers
      simp only [withEqualBays, hinteger, Bool.not_true, Bool.false_or]
      exact outsideConstraintRange_finite (Nat.cast_nonneg n) hcount
    · -- the number of base cabinets
      cases htype : spec.furnitureType with
      | bookcase => simpa [withEqualBays, htype] using h14
      | wallLibrary =>
        simp only [withEqualBays, htype, if_true, finite_add, hcast, hinteger, Bool.not_true,
          Bool.false_or]
        refine outsideConstraintRange_finite (Nat.cast_nonneg _) ?_
        rw [← hcast]
        show (n : ℚ) + 1 ≤ 17
        linarith
    · -- measures of base cabinets without base cabinets
      cases htype : spec.furnitureType with
      | bookcase => simpa [withEqualBays, htype] using h17
      | wallLibrary => simp [withEqualBays, htype, hpos.ne']
    · -- the depth of the base cabinets
      cases htype : spec.furnitureType with
      | bookcase => simpa [withEqualBays, htype] using h18
      | wallLibrary =>
        rw [hwall htype, Bool.true_and] at h18
        simp only [withEqualBays, h18, Bool.and_false]
    · rw [hinner]
      exact le_finite_false hinnerPos
    · -- the number of shelf rows
      rcases hlength with hempty | hequal
      · simp only [withEqualBays, hempty, Bool.not_true, Bool.false_and]
      · simp only [withEqualBays, hequal, Bool.not_true, Bool.and_false]
    · -- the bays
      rw [hwidth, any_lt_replicate, decide_eq_false_iff_not, not_lt]
      simp only [Constraints.minimumShelfWidthMm, shelfSideClearanceMm]
      linarith
    · rw [List.any_eq_false]
      intro heightMm hmem
      simpa using hall heightMm hmem
    · -- the openings of the base cabinets
      cases htype : spec.furnitureType with
      | bookcase => rw [hbaseBook htype, List.any_nil]
      | wallLibrary =>
        rw [hbaseWall htype hinnerPos, hwidth, any_lt_replicate, decide_eq_false_iff_not, not_lt]
        simpa [minimumClearWidthMm, htype] using hle
    · cases htype : spec.furnitureType with
      | bookcase => simpa [withEqualBays, htype] using h27
      | wallLibrary => simp [withEqualBays, htype]
    · cases htype : spec.furnitureType with
      | bookcase => simp [withEqualBays, htype]
      | wallLibrary => simp [withEqualBays, htype]

end Division

end Custombuild.Web
