/-
  The search for a number of dividers: the shelf deflection of equal bays as the number grows, and
  where the search of the rule ends.
  Source: `apps/web/lib/design-engine.ts`.
-/
import Custombuild.Web.Construction
import Custombuild.Web.EqualBays

namespace Custombuild.Web.Construction

open Custombuild.Lib Custombuild.Lib.Number

/-! ## Numbers of dividers -/

/-- `Math.round` -/
def wholeNumber : Number → Number := onFinite fun q => (mathRound q : ℚ)

/-- The least number of dividers, from the current one on, whose shelves are within their limit. -/
def IsLeastWithinLimit (spec : ConstructionSpec) (dividers : Nat) : Prop :=
  dividers ≤ 16 ∧ le spec.dividerCount (finite dividers) = true ∧
    shelvesAreWithinLimit { spec with dividerCount := finite dividers } = some true ∧
    ∀ fewer : Nat, le spec.dividerCount (finite fewer) = true → fewer < dividers →
      shelvesAreWithinLimit { spec with dividerCount := finite fewer } ≠ some true

/-! ## Balanced specifications -/

theorem balanceDesignSymmetry_cases {spec resolvedSpec : ConstructionSpec}
    (h : balanceDesignSymmetry spec = some resolvedSpec) : ∃ bays rows,
      resolvedSpec = { spec with bayWidthRatios := bays, shelfHeightRatios := rows } := by
  unfold balanceDesignSymmetry at h
  split at h
  · exact ⟨_, _, (Option.some.inj h).symm⟩
  · simp only [Option.bind_eq_bind, Option.bind_eq_some_iff, Option.pure_def,
      Option.some.injEq] at h
    obtain ⟨bays, -, rows, -, rfl⟩ := h
    exact ⟨bays, rows, rfl⟩

/-- What balancing leaves as it is. -/
theorem balanceDesignSymmetry_keeps {spec resolvedSpec : ConstructionSpec}
    (h : balanceDesignSymmetry spec = some resolvedSpec) :
    resolvedSpec.partOverrides = spec.partOverrides ∧
      resolvedSpec.removedPartIds = spec.removedPartIds ∧
      resolvedSpec.materialId = spec.materialId ∧ resolvedSpec.shelfCount = spec.shelfCount ∧
      resolvedSpec.dividerCount = spec.dividerCount ∧
      resolvedSpec.furnitureType = spec.furnitureType := by
  obtain ⟨bays, rows, rfl⟩ := balanceDesignSymmetry_cases h
  exact ⟨rfl, rfl, rfl, rfl, rfl, rfl⟩

/-- A specification without bay shares keeps its bays when it is balanced. -/
theorem balanceDesignSymmetry_of_no_bays {spec : ConstructionSpec} (hlocked : spec.symmetryLocked = true)
    (hbays : spec.bayWidthRatios = []) : balanceDesignSymmetry spec =
      (balancedShelfRatios spec.toDesignSpec).map fun rows =>
        { spec with shelfHeightRatios := rows } := by
  have hnone : balancedBayRatios spec.toDesignSpec = some [] := by
    simp [balancedBayRatios, hbays]
  unfold balanceDesignSymmetry
  rw [if_neg (by simp [hlocked]), hnone]
  cases hrows : balancedShelfRatios spec.toDesignSpec with
  | none => simp
  | some rows => simp [← hbays]

/-! ## Counts and shares -/

theorem trunc_nat (n : Nat) : trunc (finite (n : ℚ)) = finite n := by
  have := trunc_int n
  simpa using this

theorem truncated_count (n : Nat) : maximum (finite 0) (trunc (finite (n : ℚ))) = finite n := by
  rw [trunc_nat, maximum_finite, max_eq_right (Nat.cast_nonneg n)]

theorem bayCount_nat (n : Nat) :
    maximum (finite 1) (trunc (finite (n : ℚ)) + finite 1) = finite ((n + 1 : ℕ) : ℚ) := by
  rw [trunc_nat, finite_add, maximum_finite,
    max_eq_right (by linarith [(Nat.cast_nonneg n : (0 : ℚ) ≤ n)])]
  push_cast
  rfl

theorem wholeNumber_nat (n : Nat) : wholeNumber (finite (n : ℚ)) = finite n := by
  have hfloor : ⌊(n : ℚ) + 1 / 2⌋ = n := by
    rw [Int.floor_eq_iff]
    constructor
    · push_cast
      linarith
    · push_cast
      linarith
  simp only [wholeNumber, onFinite, mathRound, hfloor, Int.cast_natCast]

/-- Shares in the wrong number are replaced by equal ones. -/
theorem normalizedRatios_mismatch {ratios : List Number} {n : Nat} (hn : n + 1 < 2 ^ 32)
    (hlength : ratios.length ≠ n + 1) :
    normalizedRatios ratios (maximum (finite 1) (trunc (finite n) + finite 1)) =
      some (List.replicate (n + 1) (finite (1 / (n + 1)))) := by
  have hpos : (0 : ℚ) < ((n + 1 : ℕ) : ℚ) := by exact_mod_cast Nat.succ_pos n
  have hne : (ratios.length : ℚ) ≠ ((n + 1 : ℕ) : ℚ) := by exact_mod_cast hlength
  rw [bayCount_nat, normalizedRatios, le_finite, if_neg (by simpa using hpos), if_pos,
    arrayFrom_nat hn]
  · rw [finite_div 1 hpos.ne']
    simp [List.map_const', Nat.cast_add, Nat.cast_one]
  · rw [equal_finite, decide_eq_false hne, Bool.not_false, Bool.true_or]

/-- There are shares for every number of bays of an array. -/
theorem exists_normalizedRatios (ratios : List Number) {n : Nat} (hn : n + 1 < 2 ^ 32) :
    ∃ shares, normalizedRatios ratios (maximum (finite 1) (trunc (finite n) + finite 1)) =
      some shares := by
  rw [bayCount_nat, normalizedRatios]
  split
  · exact ⟨_, rfl⟩
  · split
    · rw [arrayFrom_nat hn]
      exact ⟨_, rfl⟩
    · split
      · rw [arrayFrom_nat hn]
        exact ⟨_, rfl⟩
      · exact ⟨_, rfl⟩

/-- What a passing specification gives for its own shares. -/
theorem bayRatios_length {spec : DesignSpec} {w depth t back load : ℚ} {d c : Nat}
    (hpasses : passesGeometry spec = true) (hm : Measures spec w depth t back load d c) :
    spec.bayWidthRatios = [] ∨ spec.bayWidthRatios.length = d + 1 := by
  obtain ⟨openings, bays, baseOpenings, -, -, -, hfindings⟩ := passesGeometry_iff.mp hpasses
  have hfinding := hfindings (!spec.bayWidthRatios.isEmpty &&
    !equal (finite spec.bayWidthRatios.length) (bayCountOf spec),
      "antal anpassade fackbredder måste motsvara antalet fack") (by simp [geometryFindings])
  cases hratios : spec.bayWidthRatios with
  | nil => exact .inl rfl
  | cons ratio ratios =>
    rw [← hratios]
    have hequal : equal (finite spec.bayWidthRatios.length) (finite ((d : ℚ) + 1)) = true := by
      simpa [hratios, bayCountOf, hm.dividers] using hfinding
    rw [equal_finite, decide_eq_true_eq] at hequal
    exact .inr (by exact_mod_cast hequal)

/-! ## The deflection -/

/-- The widest of finite bays is finite and at least 1 mm. -/
theorem foldr_maximum_finite (widths : List Number) (h : ∀ width ∈ widths, ∃ q, width = finite q) :
    ∃ q, widths.foldr maximum (finite 1) = finite q ∧ 1 ≤ q := by
  induction widths with
  | nil => exact ⟨1, rfl, le_refl 1⟩
  | cons width widths ih =>
    obtain ⟨p, rfl⟩ := h width (by simp)
    obtain ⟨q, hq, hle⟩ := ih fun other hmem => h other (by simp [hmem])
    exact ⟨max p q, by rw [List.foldr_cons, hq, maximum_finite], le_max_of_le_right hle⟩

section Deflection

variable {spec : ConstructionSpec} {w depth t back load : ℚ} {d c n : Nat}

theorem boardThickness_finite (hm : Measures spec.toDesignSpec w depth t back load d c) :
    boardThickness spec.toDesignSpec = finite (max t (1 / 10)) := by
  rw [boardThickness, hm.thickness, maximum_finite]

/-- With equal bays the span is finite. -/
theorem exists_span (hm : Measures spec.toDesignSpec w depth t back load d c) (hn : n ≤ 16)
    (hlength : spec.bayWidthRatios.length ≠ n + 1) :
    ∃ span, shelfSpan { spec with dividerCount := finite n } = some (finite span) ∧ 1 ≤ span := by
  simp only [shelfSpan, boardThickness, bayWidths, hm.width, hm.thickness, maximum_finite,
    finite_mul, finite_sub, normalizedRatios_mismatch (show n + 1 < 2 ^ 32 by omega) hlength,
    Option.map_some, List.map_replicate]
  obtain ⟨span, hspan, hle⟩ := foldr_maximum_finite (List.replicate (n + 1)
    (finite (max (w - 2 * max t (1 / 10) - max 0 (n : ℚ) * max t (1 / 10)) 1 * (1 / (n + 1)))))
    fun width hmem => ⟨_, List.eq_of_mem_replicate hmem⟩
  exact ⟨span, by rw [hspan], hle⟩

theorem exists_interiorDepth (hm : Measures spec.toDesignSpec w depth t back load d c) :
    ∃ q, interiorPanelDepth spec = finite q ∧ 1 ≤ q := by
  unfold interiorPanelDepth
  rw [hm.depth, hm.back]
  cases spec.backPanel
  · exact ⟨max (depth - 2) 1, by simp, le_max_right _ _⟩
  · cases spec.backPanelType
    · exact ⟨max (depth - (12 + back + 4)) 1, by simp, le_max_right _ _⟩
    · exact ⟨max (depth - (back + 2)) 1, by simp, le_max_right _ _⟩

theorem elasticModulusMpa_pos (materialId : String) : 0 < elasticModulusMpa materialId := by
  unfold elasticModulusMpa
  split <;> norm_num

theorem round_finite (decimals : Nat) (q : ℚ) :
    round decimals (finite q) = finite ((mathRound (q * 10 ^ decimals) : ℚ) / 10 ^ decimals) := rfl

/-- Over a finite span both sides of the comparison are finite, and the limit is not rounded to
    zero. -/
theorem deflectionOver_finite (hm : Measures spec.toDesignSpec w depth t back load d c) {span : ℚ}
    (hspan : 1 ≤ span) : ∃ deflection allowable : ℚ, 1 / 1000 ≤ allowable ∧
      deflectionOver spec (finite span) = ⟨finite deflection, finite allowable⟩ := by
  obtain ⟨interior, hinterior, hinteriorPos⟩ := exists_interiorDepth hm
  have hthickness : (0 : ℚ) < max t (1 / 10) := lt_max_of_lt_left hm.thickness_pos
  have hmodulus := elasticModulusMpa_pos spec.materialId
  have hdivisor : 384 * elasticModulusMpa spec.materialId *
      (interior * (max t (1 / 10) * max t (1 / 10) * max t (1 / 10)) / 12) ≠ 0 := by positivity
  refine ⟨_, _, ?_, by
    rw [deflectionOver, hinterior, boardThickness_finite hm, hm.load]
    simp only [maximum_finite, finite_mul]
    rw [finite_div _ (show span ≠ 0 by linarith), finite_div _ (show (12 : ℚ) ≠ 0 by norm_num),
      finite_div _ (show (200 : ℚ) ≠ 0 by norm_num)]
    simp only [finite_mul, minimum_finite]
    rw [finite_div _ hdivisor, round_finite, round_finite]⟩
  -- A span of 1 mm allows 5 micrometres.
  have hlow : (1 : ℚ) / 200 ≤ min (span / 200) 5 :=
    le_min (by linarith) (by norm_num)
  have hround : (5 : Int) ≤ mathRound (min (span / 200) 5 * 10 ^ 3) := by
    rw [mathRound, Int.le_floor]
    push_cast
    linarith
  have hcast : (5 : ℚ) ≤ (mathRound (min (span / 200) 5 * 10 ^ 3) : ℚ) := by exact_mod_cast hround
  rw [le_div_iff₀ (by norm_num)]
  linarith

/-- The status is PASS exactly within the limit. -/
theorem deflectionStatus_pass_iff {deflection allowable : ℚ} (hallowable : 1 / 1000 ≤ allowable) :
    deflectionStatus ⟨finite deflection, finite allowable⟩ = .pass ↔ deflection ≤ allowable := by
  have hpos : 0 < allowable := by linarith
  have hratio : finite deflection / maximum (finite allowable) (finite (1 / 1000)) =
      finite (deflection / allowable) := by
    rw [maximum_finite, max_eq_left hallowable, finite_div _ hpos.ne']
  rw [deflectionStatus]
  simp only [hratio, lt_finite, decide_eq_true_eq]
  rw [← div_le_one hpos]
  constructor
  · intro hstatus
    by_contra hover
    rw [if_pos (not_le.mp hover)] at hstatus
    split at hstatus <;> cases hstatus
  · intro hle
    rw [if_neg (by linarith), if_neg (by linarith)]

/-- With equal bays the rule passes exactly within the limit. -/
theorem equalBays_pass_iff (hm : Measures spec.toDesignSpec w depth t back load d c) (hn : n ≤ 16)
    (hlength : spec.bayWidthRatios.length ≠ n + 1) :
    ∃ result, calculateShelfDeflection { spec with dividerCount := finite n } = some result ∧
      (deflectionStatus result = .pass ↔
        shelvesAreWithinLimit { spec with dividerCount := finite n } = some true) := by
  obtain ⟨span, hspan, hpos⟩ := exists_span hm hn hlength
  have hm' : Measures { spec with dividerCount := finite n }.toDesignSpec w depth t back load n c :=
    { hm with dividers := rfl, dividers_le := hn }
  obtain ⟨deflection, allowable, hallowable, hover⟩ := deflectionOver_finite hm' hpos
  refine ⟨⟨finite deflection, finite allowable⟩, ?_, ?_⟩
  · rw [calculateShelfDeflection, hspan, Option.map_some, hover]
  · rw [deflectionStatus_pass_iff hallowable, shelvesAreWithinLimit, calculateShelfDeflection, hspan,
      Option.map_some, hover, Option.map_some, le_finite, Option.some.injEq, decide_eq_true_eq]

/-- The deflection of equal bays does not depend on the shares that were replaced. -/
theorem calculateShelfDeflection_no_ratios (hn : n ≤ 16)
    (hlength : spec.bayWidthRatios.length ≠ n + 1) :
    calculateShelfDeflection { spec with dividerCount := finite n, bayWidthRatios := [] } =
      calculateShelfDeflection { spec with dividerCount := finite n } := by
  have hspan : shelfSpan { spec with dividerCount := finite n, bayWidthRatios := [] } =
      shelfSpan { spec with dividerCount := finite n } := by
    simp only [shelfSpan, bayWidths, normalizedRatios_mismatch (show n + 1 < 2 ^ 32 by omega) hlength,
      equalShares n (show n + 1 < 2 ^ 32 by omega)]
    rfl
  rw [calculateShelfDeflection, calculateShelfDeflection, hspan]
  rfl

end Deflection

/-! ## The search -/

/-- A search over decided elements. -/
theorem findM?_of_decided {α : Type} {p : α → Option Bool} {l : List α}
    (h : ∀ x ∈ l, ∃ b, p x = some b) :
    l.findM? p = some (l.find? fun x => p x = some true) := by
  induction l with
  | nil => rfl
  | cons x l ih =>
    obtain ⟨b, hb⟩ := h x (by simp)
    rw [List.findM?, hb, List.find?_cons]
    cases b with
    | true => simp [hb]
    | false =>
      simpa [hb] using ih fun y hy => h y (by simp [hy])

/-- The candidates from a current count on. -/
theorem dividerCandidates_nat {d : Nat} (hd : d ≤ 16) :
    dividerCandidates (finite d) =
      (List.range (17 - d)).map fun index : Nat => finite ((d + index : ℕ) : ℚ) := by
  have hsplit : List.range 17 = List.range (17 - d) ++ (List.range d).map ((17 - d) + ·) := by
    rw [← List.range_add, Nat.sub_add_cancel (by omega)]
  have hlow : ∀ index ∈ List.range (17 - d),
      le (finite (d : ℚ) + finite (index : ℚ)) (finite Constraints.dividerCount.maximum) = true := by
    intro index hindex
    have hcast : ((d + index : ℕ) : ℚ) ≤ 16 := by
      exact_mod_cast (by have := List.mem_range.mp hindex; omega : d + index ≤ 16)
    simpa [Constraints.dividerCount] using hcast
  have hhigh : ∀ index ∈ (List.range d).map ((17 - d) + ·),
      ¬le (finite (d : ℚ) + finite (index : ℚ)) (finite Constraints.dividerCount.maximum) = true := by
    intro index hindex
    obtain ⟨rest, -, rfl⟩ := List.mem_map.mp hindex
    have hcast : (16 : ℚ) < ((d + (17 - d + rest) : ℕ) : ℚ) := by
      exact_mod_cast (by omega : 16 < d + (17 - d + rest))
    have hcast' : (16 : ℚ) < (d : ℚ) + ((17 - d + rest : ℕ) : ℚ) := by
      exact_mod_cast hcast
    rw [finite_add, le_finite, decide_eq_true_eq, not_le]
    exact hcast'
  rw [dividerCandidates, List.filter_map, hsplit, List.filter_append, Function.comp_def,
    List.filter_eq_self.mpr hlow, List.filter_eq_nil_iff.mpr hhigh, List.append_nil]
  simp

section Search

variable {spec : ConstructionSpec} {w depth t back load : ℚ} {d c : Nat}

/-- Whether shelves are within their limit is decided for every number of bays. -/
theorem exists_withinLimit (spec : ConstructionSpec) {n : Nat} (hn : n ≤ 16) :
    ∃ b, shelvesAreWithinLimit { spec with dividerCount := finite n } = some b := by
  obtain ⟨shares, hshares⟩ := exists_normalizedRatios spec.bayWidthRatios
    (show n + 1 < 2 ^ 32 by omega)
  simp only [shelvesAreWithinLimit, calculateShelfDeflection, shelfSpan, bayWidths, hshares,
    Option.map_some]
  exact ⟨_, rfl⟩

/-- The search returns the current count where there is nothing to carry; else the first count
    within the limit, and the largest one where there is none. -/
theorem suggestedDividerCount_cases (hm : Measures spec.toDesignSpec w depth t back load d c) :
    ∃ n : Nat, suggestedDividerCount spec = some (finite n) ∧ n ≤ 16 ∧
      (n = d ∨ IsLeastWithinLimit spec n ∨ n = 16 ∧ ∀ m : Nat, d ≤ m → m ≤ 16 →
        shelvesAreWithinLimit { spec with dividerCount := finite m } ≠ some true) := by
  have hd16 := hm.dividers_le
  unfold suggestedDividerCount
  rw [hm.dividers, truncated_count]
  simp only
  split
  · exact ⟨d, rfl, hd16, .inl rfl⟩
  rw [dividerCandidates_nat hd16, findM?_of_decided]
  · rw [Option.map_some, List.find?_map]
    cases hfound : (List.range (17 - d)).find? ((fun candidate => decide (shelvesAreWithinLimit
        { spec with dividerCount := candidate } = some true)) ∘
          fun index : Nat => finite ((d + index : ℕ) : ℚ)) with
    | none =>
      refine ⟨16, ?_, le_refl 16, .inr (.inr ⟨rfl, fun m hdm hm16 hwithin => ?_⟩)⟩
      · rw [Option.map_none, Option.getD_none, maximum_finite,
          max_eq_right (by simpa [Constraints.dividerCount] using (by exact_mod_cast hd16 : (d : ℚ) ≤ 16))]
        rfl
      · have hnot := List.find?_eq_none.mp hfound (m - d) (List.mem_range.mpr (by omega))
        simp only [Function.comp_apply, Nat.add_sub_cancel' hdm, hwithin] at hnot
        exact hnot rfl
    | some index =>
      rw [List.find?_range_eq_some] at hfound
      obtain ⟨hwithin, hrange, hbefore⟩ := hfound
      rw [List.mem_range] at hrange
      refine ⟨d + index, rfl, by omega, .inr (.inl ⟨by omega, ?_, of_decide_eq_true hwithin, ?_⟩)⟩
      · rw [hm.dividers, le_finite, decide_eq_true_eq]
        exact_mod_cast Nat.le_add_right d index
      · intro fewer hfewer hlt hfits
        rw [hm.dividers, le_finite, decide_eq_true_eq] at hfewer
        have hle : d ≤ fewer := by exact_mod_cast hfewer
        have hnot := hbefore (fewer - d) (by omega)
        simp only [Function.comp_apply, Nat.add_sub_cancel' hle, hfits] at hnot
        cases hnot
  · intro candidate hcandidate
    obtain ⟨index, hindex, rfl⟩ := List.mem_map.mp hcandidate
    exact exists_withinLimit spec (by have := List.mem_range.mp hindex; omega)

end Search

end Custombuild.Web.Construction
