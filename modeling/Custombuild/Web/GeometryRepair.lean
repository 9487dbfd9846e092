/-
  The automatic repair of GEO-001.
  Source: `apps/web/lib/validation-guidance.ts`, `normalizedGeometryPatch`, and
  `apps/web/lib/design-constraints.ts`, `maximumBaseCabinetHeightMm`.

  Whatever the numbers of a specification are, the repaired one passes GEO-001 when its plinth and
  its back were right, and it keeps the requested counts and is not smaller than requested
  (`repaired_passesGeometry`).
-/
import Custombuild.Web.Geometry

namespace Custombuild.Web

open Custombuild.Lib Custombuild.Lib.Number

/-! ## The patch -/

structure MaterialDefinition where
  id : String
  nominalThicknessMm : ℚ
  measuredThicknessMm : ℚ

def birchPlywood : MaterialDefinition := ⟨"birch-plywood", 18, 178 / 10⟩

def materials : List MaterialDefinition := [birchPlywood, ⟨"mdf", 18, 18⟩]

/-- The value where it is finite, else the fallback. -/
def finiteOr (value : Number) (fallback : ℚ) : ℚ :=
  match value with
  | .finite q => q
  | _ => fallback

def finiteBounded (value : Number) (fallback : ℚ) (range : ConstraintRange) : ℚ :=
  min range.maximum (max range.minimum (finiteOr value fallback))

/-- `Math.round`: a half goes up. -/
def mathRound (value : ℚ) : Int := ⌊value + 1 / 2⌋

/-- A range of whole numbers. -/
def boundedInteger (value : Number) (fallback : ℚ) (minimum maximum : Int) : Int :=
  min maximum (max minimum (mathRound (finiteOr value fallback)))

def materialOf (spec : DesignSpec) : MaterialDefinition :=
  (materials.find? fun candidate => candidate.id == spec.materialId).getD birchPlywood

def patchedThickness (spec : DesignSpec) : ℚ :=
  let thicknessCandidate :=
    if isPositive spec.measuredThicknessMm then spec.measuredThicknessMm
    else finite (materialOf spec).measuredThicknessMm
  finiteBounded thicknessCandidate (materialOf spec).measuredThicknessMm ⟨17, 19⟩

def patchedShelfCount (spec : DesignSpec) : Int := boundedInteger spec.shelfCount 0 0 40

def patchedDividerCount (spec : DesignSpec) : Int := boundedInteger spec.dividerCount 0 0 16

def patchedBaseCabinetCount (spec : DesignSpec) : Int :=
  if spec.furnitureType = .wallLibrary then boundedInteger spec.baseCabinetCount 1 1 17 else 0

def patchedDepth (spec : DesignSpec) : ℚ := finiteBounded spec.depthMm 320 Constraints.depthMm

def minimumWidthForShelves (spec : DesignSpec) : ℚ :=
  let bayCount : ℚ := patchedDividerCount spec + 1
  bayCount * (Constraints.minimumShelfWidthMm + 2) + (bayCount + 1) * patchedThickness spec

def minimumWidthForBases (spec : DesignSpec) : ℚ :=
  if 0 < patchedBaseCabinetCount spec then
    patchedBaseCabinetCount spec * Constraints.minimumBaseCabinetOpeningMm +
      (patchedBaseCabinetCount spec + 1) * patchedThickness spec
  else 0

def patchedWidth (spec : DesignSpec) : ℚ :=
  min Constraints.widthMm.maximum
    (max (max (finiteBounded spec.widthMm 1200 Constraints.widthMm) (minimumWidthForShelves spec))
      (minimumWidthForBases spec))

def plinthHeight (spec : DesignSpec) : Number :=
  if spec.plinth then spec.plinthHeightMm else finite 0

def minimumShelfZoneHeight (spec : DesignSpec) : ℚ :=
  if patchedShelfCount spec = 0 then Constraints.minimumShelfOpeningMm
  else if patchedShelfCount spec = 1 then
    2 * Constraints.minimumShelfOpeningMm + patchedThickness spec
  else (patchedShelfCount spec + 1) * (Constraints.minimumShelfOpeningMm + patchedThickness spec)

def maximumBaseCabinetHeightMm (heightMm measuredThicknessMm : ℚ) : ℚ :=
  min Constraints.baseCabinetHeightMm.maximum
    ((⌈heightMm - measuredThicknessMm - Constraints.baseCabinetUpperClearanceMm⌉ : ℚ) - 1)

def patchedBaseHeight (spec : DesignSpec) : Number :=
  if spec.furnitureType = .wallLibrary then
    let maximumBaseHeightAtEnvelope := minimum
      (finite (maximumBaseCabinetHeightMm Constraints.heightMm.maximum (patchedThickness spec)))
      (floor (finite Constraints.heightMm.maximum - finite (patchedThickness spec) -
        plinthHeight spec - finite (minimumShelfZoneHeight spec)))
    minimum
      (finite (finiteBounded spec.baseCabinetHeightMm Constraints.wallLibraryBaseHeightMinimumMm
        ⟨Constraints.wallLibraryBaseHeightMinimumMm, Constraints.baseCabinetHeightMm.maximum⟩))
      maximumBaseHeightAtEnvelope
  else finite 0

def minimumHeightForShelves (spec : DesignSpec) : Number :=
  if spec.furnitureType = .wallLibrary then
    plinthHeight spec + patchedBaseHeight spec + finite (patchedThickness spec) +
      finite (minimumShelfZoneHeight spec)
  else plinthHeight spec + finite (2 * patchedThickness spec) + finite (minimumShelfZoneHeight spec)

def minimumHeightForBaseClearance (spec : DesignSpec) : Number :=
  if spec.furnitureType = .wallLibrary then
    floor (patchedBaseHeight spec + finite (patchedThickness spec) +
      finite Constraints.baseCabinetUpperClearanceMm) + finite 1
  else finite 0

def patchedHeight (spec : DesignSpec) : Number :=
  minimum (finite Constraints.heightMm.maximum)
    (maximum (maximum (finite (finiteBounded spec.heightMm 2100 Constraints.heightMm))
      (ceil (minimumHeightForShelves spec))) (minimumHeightForBaseClearance spec))

/-- `{...spec, ...normalizedGeometryPatch(spec)}` -/
def repaired (spec : DesignSpec) : DesignSpec :=
  { spec with
    nominalThicknessMm := finite (materialOf spec).nominalThicknessMm
    measuredThicknessMm := finite (patchedThickness spec)
    widthMm := finite (patchedWidth spec)
    heightMm := patchedHeight spec
    depthMm := finite (patchedDepth spec)
    shelfCount := finite (patchedShelfCount spec)
    dividerCount := finite (patchedDividerCount spec)
    loadPerShelfKg := finite (finiteBounded spec.loadPerShelfKg 0 Constraints.shelfLoadKg)
    baySizingMode := .count
    bayWidthRatios := []
    shelfHeightRatios := []
    symmetryLocked := true
    reinforcementMode := .manual
    baseCabinetCount := finite (patchedBaseCabinetCount spec)
    baseCabinetHeightMm := patchedBaseHeight spec
    baseCabinetDepthMm :=
      if spec.furnitureType = .wallLibrary then finite (patchedDepth spec) else finite 0 }

/-- GEO-001's own conditions on the plinth and the back. -/
structure PlinthAndBackAreValid (spec : DesignSpec) : Prop where
  plinthHeight : spec.plinthHeightMm.isFinite = true ∧ lt spec.plinthHeightMm (finite 0) = false ∧
    lt (finite 500) spec.plinthHeightMm = false
  plinth : spec.plinth = lt (finite 0) spec.plinthHeightMm
  back : spec.measuredBackThicknessMm.isFinite = true ∧
    lt spec.measuredBackThicknessMm (finite (55 / 10)) = false ∧
    lt (finite (65 / 10)) spec.measuredBackThicknessMm = false ∧
    isSafeInteger (spec.measuredBackThicknessMm * finite 1000) = true

/-! ## Ranges -/

section Ranges

variable (spec : DesignSpec)

theorem finiteBounded_mem (value : Number) (fallback : ℚ) (range : ConstraintRange)
    (h : range.minimum ≤ range.maximum) :
    range.minimum ≤ finiteBounded value fallback range ∧
      finiteBounded value fallback range ≤ range.maximum :=
  ⟨le_min h (le_max_left _ _), min_le_left _ _⟩

theorem boundedInteger_mem (value : Number) (fallback : ℚ) (minimum maximum : Int)
    (h : minimum ≤ maximum) : minimum ≤ boundedInteger value fallback minimum maximum ∧
      boundedInteger value fallback minimum maximum ≤ maximum :=
  ⟨le_min h (le_max_left _ _), min_le_left _ _⟩

theorem patchedThickness_mem : 17 ≤ patchedThickness spec ∧ patchedThickness spec ≤ 19 :=
  finiteBounded_mem _ _ ⟨17, 19⟩ (by norm_num)

theorem patchedShelfCount_mem : 0 ≤ patchedShelfCount spec ∧ patchedShelfCount spec ≤ 40 :=
  boundedInteger_mem _ _ 0 40 (by norm_num)

theorem patchedDividerCount_mem : 0 ≤ patchedDividerCount spec ∧ patchedDividerCount spec ≤ 16 :=
  boundedInteger_mem _ _ 0 16 (by norm_num)

theorem patchedDepth_mem : 100 ≤ patchedDepth spec ∧ patchedDepth spec ≤ 1200 :=
  finiteBounded_mem _ _ Constraints.depthMm (by norm_num [Constraints.depthMm])

theorem patchedBaseCabinetCount_mem :
    0 ≤ patchedBaseCabinetCount spec ∧ patchedBaseCabinetCount spec ≤ 17 := by
  unfold patchedBaseCabinetCount
  split
  · have h := boundedInteger_mem spec.baseCabinetCount 1 1 17 (by norm_num)
    omega
  · omega

/-- The least width of the divisions fits the envelope. -/
theorem minimumWidths_le : minimumWidthForShelves spec ≤ 6000 ∧ minimumWidthForBases spec ≤ 6000 := by
  obtain ⟨ht, ht'⟩ := patchedThickness_mem spec
  obtain ⟨hd, hd'⟩ := patchedDividerCount_mem spec
  obtain ⟨hb, hb'⟩ := patchedBaseCabinetCount_mem spec
  have hdq : (patchedDividerCount spec : ℚ) ≤ 16 := by exact_mod_cast hd'
  have hdq0 : (0 : ℚ) ≤ patchedDividerCount spec := by exact_mod_cast hd
  have hbq : (patchedBaseCabinetCount spec : ℚ) ≤ 17 := by exact_mod_cast hb'
  have hbq0 : (0 : ℚ) ≤ patchedBaseCabinetCount spec := by exact_mod_cast hb
  constructor
  · have hmul : ((patchedDividerCount spec : ℚ) + 1 + 1) * patchedThickness spec ≤ 18 * 19 :=
      mul_le_mul (by linarith) ht' (by linarith) (by norm_num)
    simp only [minimumWidthForShelves, Constraints.minimumShelfWidthMm]
    linarith
  · unfold minimumWidthForBases
    split
    · have hmul : ((patchedBaseCabinetCount spec : ℚ) + 1) * patchedThickness spec ≤ 18 * 19 :=
        mul_le_mul (by linarith) ht' (by linarith) (by norm_num)
      simp only [Constraints.minimumBaseCabinetOpeningMm]
      linarith
    · norm_num

theorem patchedWidth_mem : 250 ≤ patchedWidth spec ∧ patchedWidth spec ≤ 6000 ∧
    finiteBounded spec.widthMm 1200 Constraints.widthMm ≤ patchedWidth spec ∧
    minimumWidthForShelves spec ≤ patchedWidth spec ∧
    minimumWidthForBases spec ≤ patchedWidth spec := by
  obtain ⟨hshelves, hbases⟩ := minimumWidths_le spec
  obtain ⟨hlow, hhigh⟩ := finiteBounded_mem spec.widthMm 1200 Constraints.widthMm
    (by norm_num [Constraints.widthMm])
  have hwide : patchedWidth spec = max (max (finiteBounded spec.widthMm 1200 Constraints.widthMm)
      (minimumWidthForShelves spec)) (minimumWidthForBases spec) :=
    min_eq_right (max_le (max_le hhigh hshelves) hbases)
  rw [hwide]
  refine ⟨?_, max_le (max_le hhigh hshelves) hbases, ?_, ?_, le_max_right _ _⟩
  · exact le_trans hlow (le_trans (le_max_left _ _) (le_max_left _ _))
  · exact le_trans (le_max_left _ _) (le_max_left _ _)
  · exact le_trans (le_max_right _ _) (le_max_left _ _)

/-- The least height of the shelf zone: at least one opening, at most 41 of the greatest
    thickness. -/
theorem minimumShelfZoneHeight_mem :
    40 ≤ minimumShelfZoneHeight spec ∧ minimumShelfZoneHeight spec ≤ 2419 := by
  obtain ⟨ht, ht'⟩ := patchedThickness_mem spec
  obtain ⟨hs, hs'⟩ := patchedShelfCount_mem spec
  have hsq : (patchedShelfCount spec : ℚ) ≤ 40 := by exact_mod_cast hs'
  have hsq0 : (0 : ℚ) ≤ patchedShelfCount spec := by exact_mod_cast hs
  unfold minimumShelfZoneHeight Constraints.minimumShelfOpeningMm
  split
  · norm_num
  · split
    · constructor <;> linarith
    · have hlow : (1 : ℚ) * 57 ≤
          ((patchedShelfCount spec : ℚ) + 1) * (40 + patchedThickness spec) :=
        mul_le_mul (by linarith) (by linarith) (by norm_num) (by linarith)
      have hhigh : ((patchedShelfCount spec : ℚ) + 1) * (40 + patchedThickness spec) ≤ 41 * 59 :=
        mul_le_mul (by linarith) (by linarith) (by linarith) (by norm_num)
      constructor <;> linarith

/-! ## Heights -/

variable {spec}

/-- The plinth height that counts is the one given, between 0 and 500 mm. -/
theorem exists_plinthHeight (h : PlinthAndBackAreValid spec) : ∃ p : ℚ, 0 ≤ p ∧ p ≤ 500 ∧
    spec.plinthHeightMm = finite p ∧ plinthHeight spec = finite p := by
  obtain ⟨hfinite, hlow, hhigh⟩ := h.plinthHeight
  have hplinth := h.plinth
  cases hp : spec.plinthHeightMm with
  | finite p =>
    rw [hp] at hlow hhigh hplinth
    simp only [lt_finite, decide_eq_false_iff_not, not_lt] at hlow hhigh hplinth
    refine ⟨p, hlow, hhigh, rfl, ?_⟩
    unfold plinthHeight
    split
    · exact hp
    · rename_i hno
      rw [hplinth, decide_eq_true_eq, not_lt] at hno
      rw [le_antisymm hno hlow]
  | _ =>
    rw [hp] at hfinite
    cases hfinite

/-- The base of a wall library keeps its least height, and leaves room for the shelf zone within
    the envelope. -/
theorem exists_baseHeight {p : ℚ} (hp : p ≤ 500) (hplinth : plinthHeight spec = finite p)
    (hwall : spec.furnitureType = .wallLibrary) : ∃ b : ℚ, patchedBaseHeight spec = finite b ∧
      300 ≤ b ∧ b ≤ 2000 ∧ p + b + patchedThickness spec + minimumShelfZoneHeight spec ≤ 4000 := by
  obtain ⟨ht, ht'⟩ := patchedThickness_mem spec
  obtain ⟨hz, hz'⟩ := minimumShelfZoneHeight_mem spec
  obtain ⟨hlow, hhigh⟩ := finiteBounded_mem spec.baseCabinetHeightMm 300 ⟨300, 2000⟩
    (by norm_num)
  have hfloor : (⌊4000 - patchedThickness spec - p - minimumShelfZoneHeight spec⌋ : ℚ) ≤
      4000 - patchedThickness spec - p - minimumShelfZoneHeight spec := Int.floor_le _
  have hfloor' : (300 : ℚ) ≤ ⌊4000 - patchedThickness spec - p - minimumShelfZoneHeight spec⌋ := by
    exact_mod_cast Int.le_floor.mpr (show ((300 : Int) : ℚ) ≤ _ by push_cast; linarith)
  have hmaximum : (300 : ℚ) ≤ maximumBaseCabinetHeightMm 4000 (patchedThickness spec) := by
    have hceil := Int.le_ceil (4000 - patchedThickness spec - 200)
    refine le_min (by norm_num [Constraints.baseCabinetHeightMm]) ?_
    simp only [Constraints.baseCabinetUpperClearanceMm]
    linarith
  have heq : patchedBaseHeight spec = finite (min
      (finiteBounded spec.baseCabinetHeightMm 300 ⟨300, 2000⟩)
      (min (maximumBaseCabinetHeightMm 4000 (patchedThickness spec))
        ⌊4000 - patchedThickness spec - p - minimumShelfZoneHeight spec⌋)) := by
    simp only [patchedBaseHeight, hwall, if_true, hplinth, finite_sub, floor_finite,
      minimum_finite]
    rfl
  refine ⟨_, heq, le_min hlow (le_min hmaximum hfloor'), le_trans (min_le_left _ _) hhigh, ?_⟩
  have hb := le_trans (min_le_right (finiteBounded spec.baseCabinetHeightMm 300 ⟨300, 2000⟩)
    (min (maximumBaseCabinetHeightMm 4000 (patchedThickness spec)) _))
    (min_le_right _ (⌊4000 - patchedThickness spec - p - minimumShelfZoneHeight spec⌋ : ℚ))
  linarith

/-- The height is not less than any of its three bounds, which all fit the envelope. -/
theorem exists_height {m c : ℚ} (hshelves : minimumHeightForShelves spec = finite m)
    (hclearance : minimumHeightForBaseClearance spec = finite c) (hm : m ≤ 4000) (hc : c ≤ 4000) :
    ∃ H : ℚ, patchedHeight spec = finite H ∧ 300 ≤ H ∧ H ≤ 4000 ∧
      finiteBounded spec.heightMm 2100 Constraints.heightMm ≤ H ∧ m ≤ H ∧ c ≤ H := by
  obtain ⟨hlow, hhigh⟩ := finiteBounded_mem spec.heightMm 2100 Constraints.heightMm
    (by norm_num [Constraints.heightMm])
  have hceil : (⌈m⌉ : ℚ) ≤ 4000 := by
    exact_mod_cast Int.ceil_le.mpr (show m ≤ ((4000 : Int) : ℚ) by exact_mod_cast hm)
  have heq : patchedHeight spec = finite (max (max
      (finiteBounded spec.heightMm 2100 Constraints.heightMm) ⌈m⌉) c) := by
    simp only [patchedHeight, hshelves, hclearance, ceil_finite, maximum_finite, minimum_finite]
    rw [min_eq_right (max_le (max_le hhigh hceil) hc)]
  refine ⟨_, heq, ?_, max_le (max_le hhigh hceil) hc, ?_, ?_, le_max_right _ _⟩
  · exact le_trans hlow (le_trans (le_max_left _ _) (le_max_left _ _))
  · exact le_trans (le_max_left _ _) (le_max_left _ _)
  · exact le_trans (Int.le_ceil m) (le_trans (le_max_right _ _) (le_max_left _ _))

/-- Everything below the shelf zone: the plinth and the bottom, or the plinth and the base. -/
def shelfZoneBottom (spec : DesignSpec) (p b : ℚ) : ℚ :=
  if spec.furnitureType = .wallLibrary then p + b else p + patchedThickness spec

/-- The heights of the repaired specification. -/
structure Heights (spec : DesignSpec) (p b H : ℚ) : Prop where
  plinthLow : 0 ≤ p
  plinthHigh : p ≤ 500
  plinthHeightMm : spec.plinthHeightMm = finite p
  plinth : plinthHeight spec = finite p
  base : patchedBaseHeight spec = finite b
  baseLow : if spec.furnitureType = .wallLibrary then 300 ≤ b else b = 0
  baseHigh : b ≤ 2000
  height : patchedHeight spec = finite H
  heightLow : 300 ≤ H
  heightHigh : H ≤ 4000
  requested : finiteBounded spec.heightMm 2100 Constraints.heightMm ≤ H
  zone : minimumShelfZoneHeight spec ≤ H - patchedThickness spec - shelfZoneBottom spec p b
  clearance : spec.furnitureType = .wallLibrary → b < H - patchedThickness spec - 200

theorem exists_heights (h : PlinthAndBackAreValid spec) : ∃ p b H, Heights spec p b H := by
  obtain ⟨ht, ht'⟩ := patchedThickness_mem spec
  obtain ⟨hz, hz'⟩ := minimumShelfZoneHeight_mem spec
  obtain ⟨p, hp0, hp, hplinthHeight, hplinth⟩ := exists_plinthHeight h
  by_cases hwall : spec.furnitureType = .wallLibrary
  · obtain ⟨b, hbase, hb, hb', hroom⟩ := exists_baseHeight hp hplinth hwall
    have hshelves : minimumHeightForShelves spec =
        finite (p + b + patchedThickness spec + minimumShelfZoneHeight spec) := by
      simp only [minimumHeightForShelves, hwall, if_true, hplinth, hbase, finite_add]
    have hclearance : minimumHeightForBaseClearance spec =
        finite (⌊b + patchedThickness spec + 200⌋ + 1) := by
      simp only [minimumHeightForBaseClearance, hwall, if_true, hbase, finite_add, floor_finite]
      rfl
    have hfloor := Int.floor_le (b + patchedThickness spec + 200)
    have hfloor' := Int.lt_floor_add_one (b + patchedThickness spec + 200)
    obtain ⟨H, hheight, hH, hH', hrequested, hm, hc⟩ :=
      exists_height hshelves hclearance hroom (by linarith)
    refine ⟨p, b, H, hp0, hp, hplinthHeight, hplinth, hbase, by rw [if_pos hwall]; exact hb, hb',
      hheight, hH, hH', hrequested, ?_, fun _ => by linarith⟩
    rw [shelfZoneBottom, if_pos hwall]
    linarith
  · have hbase : patchedBaseHeight spec = finite 0 := by simp [patchedBaseHeight, hwall]
    have hshelves : minimumHeightForShelves spec =
        finite (p + 2 * patchedThickness spec + minimumShelfZoneHeight spec) := by
      simp only [minimumHeightForShelves, hwall, if_false, hplinth, finite_add]
    have hclearance : minimumHeightForBaseClearance spec = finite 0 := by
      simp [minimumHeightForBaseClearance, hwall]
    obtain ⟨H, hheight, hH, hH', hrequested, hm, -⟩ :=
      exists_height hshelves hclearance (by linarith) (by norm_num)
    refine ⟨p, 0, H, hp0, hp, hplinthHeight, hplinth, hbase, by rw [if_neg hwall], by norm_num,
      hheight, hH, hH', hrequested, ?_, fun hyes => absurd hyes hwall⟩
    rw [shelfZoneBottom, if_neg hwall]
    linarith

end Ranges

/-! ## Divisions -/

theorem arrayFrom_nat {n : Nat} (hn : n < 2 ^ 32) (f : Nat → Number) :
    arrayFrom (finite n) f = some ((List.range n).map f) := by
  rw [arrayFrom, arrayLength_nat hn]
  rfl

/-- Every number of the list is finite and not less than the bound. -/
def AllAtLeast (bound : ℚ) (values : List Number) : Prop :=
  ∀ value ∈ values, ∃ q, value = finite q ∧ bound ≤ q

theorem AllAtLeast.any_lt {bound : ℚ} {values : List Number} (h : AllAtLeast bound values) :
    (values.any fun value => lt value (finite bound)) = false := by
  rw [List.any_eq_false]
  intro value hvalue
  obtain ⟨q, rfl, hq⟩ := h value hvalue
  simpa using hq

/-- Equal shares without given ratios. -/
theorem equalShares (n : Nat) (hn : n + 1 < 2 ^ 32) :
    normalizedRatios [] (maximum (finite 1) (trunc (finite n) + finite 1)) =
      some (List.replicate (n + 1) (finite (1 / (n + 1)))) := by
  have hcount : maximum (finite 1) (trunc (finite n) + finite 1) = finite ((n + 1 : ℕ) : ℚ) := by
    have htrunc : trunc (finite (n : ℚ)) = finite n := by
      have := trunc_int n
      simpa using this
    rw [htrunc, finite_add, maximum_finite, max_eq_right (by linarith [(Nat.cast_nonneg n : (0 : ℚ) ≤ n)])]
    push_cast
    rfl
  have hne : ((n + 1 : ℕ) : ℚ) ≠ 0 := by exact_mod_cast Nat.succ_ne_zero n
  have hlt : (0 : ℚ) < ((n + 1 : ℕ) : ℚ) := by exact_mod_cast Nat.succ_pos n
  rw [hcount, normalizedRatios, le_finite, if_neg (by simpa using hlt), if_pos, arrayFrom_nat hn]
  · rw [finite_div 1 hne]
    simp [List.map_const', Nat.cast_add, Nat.cast_one]
  · simp only [List.length_nil, Nat.cast_zero, equal_finite, Bool.or_eq_true, Bool.not_eq_true',
      decide_eq_false_iff_not]
    exact .inl hne.symm

/-- The openings between rows are large enough: from the top of the last row to the bottom of the
    next, and from the last top to the top of the zone. -/
def Spaced (t : ℚ) : ℚ → List ℚ → ℚ → Prop
  | previousTop, [], top => previousTop + 40 ≤ top
  | previousTop, center :: centers, top =>
    previousTop + 40 ≤ center - t / 2 ∧ Spaced t (center + t / 2) centers top

theorem openingsBelow_atLeast {t : ℚ} {previousTop : ℚ} {centers : List ℚ} {top : ℚ}
    (h : Spaced t previousTop centers top) :
    ∃ last : ℚ, (openingsBelow (finite t) (finite previousTop) (centers.map finite)).2 =
        finite last ∧ last + 40 ≤ top ∧
      AllAtLeast 40 (openingsBelow (finite t) (finite previousTop) (centers.map finite)).1 := by
  induction centers generalizing previousTop with
  | nil => exact ⟨previousTop, rfl, h, nofun⟩
  | cons center centers ih =>
    obtain ⟨hfirst, hrest⟩ := h
    have hhalf : (finite t / finite 2 : Number) = finite (t / 2) := finite_div t (by norm_num)
    obtain ⟨last, hlast, htop, hall⟩ := ih hrest
    rw [← finite_add, ← hhalf] at hlast hall
    refine ⟨last, hlast, htop, ?_⟩
    intro value hvalue
    rcases List.mem_cons.mp hvalue with rfl | hvalue
    · refine ⟨max 0 (center - t / 2 - previousTop), ?_, le_max_of_le_right (by linarith)⟩
      rw [hhalf, finite_sub, finite_sub, maximum_finite]
    · exact hall value hvalue

/-- Rows at equal steps of at least an opening and a thickness. -/
theorem spaced_steps (t bottom : ℚ) {step : ℚ} (ht : 0 ≤ t) (hstep : 40 + t ≤ step) (m k : Nat)
    (previousTop : ℚ) (hprevious : previousTop + 40 ≤ bottom + step * (k + 1) - t / 2) :
    Spaced t previousTop ((List.range' k m).map fun i : Nat => bottom + step * ((i : ℚ) + 1))
      (bottom + step * (k + m + 1)) := by
  induction m generalizing k previousTop with
  | zero =>
    simp only [List.range'_zero, List.map_nil, Spaced, Nat.cast_zero, add_zero]
    linarith
  | succ m ih =>
    rw [List.range'_succ, List.map_cons]
    refine ⟨hprevious, ?_⟩
    have hnext := ih (k + 1) (bottom + step * (k + 1) + t / 2) (by
      push_cast
      linarith)
    have htop : bottom + step * (((k + 1 : ℕ) : ℚ) + m + 1) =
        bottom + step * (k + ((m + 1 : ℕ) : ℚ) + 1) := by
      push_cast
      ring
    rwa [htop] at hnext

/-! ## The repaired specification -/

section Repaired

variable {spec : DesignSpec} {p b H : ℚ}

theorem exists_counts (spec : DesignSpec) : ∃ s d c : Nat, patchedShelfCount spec = s ∧
    patchedDividerCount spec = d ∧ patchedBaseCabinetCount spec = c ∧ s ≤ 40 ∧ d ≤ 16 ∧ c ≤ 17 := by
  obtain ⟨hs, hs'⟩ := patchedShelfCount_mem spec
  obtain ⟨hd, hd'⟩ := patchedDividerCount_mem spec
  obtain ⟨hc, hc'⟩ := patchedBaseCabinetCount_mem spec
  exact ⟨_, _, _, (Int.toNat_of_nonneg hs).symm, (Int.toNat_of_nonneg hd).symm,
    (Int.toNat_of_nonneg hc).symm, by omega, by omega, by omega⟩

theorem wall_hasBase (hwall : spec.furnitureType = .wallLibrary) :
    1 ≤ patchedBaseCabinetCount spec := by
  rw [patchedBaseCabinetCount, if_pos hwall]
  exact (boundedInteger_mem spec.baseCabinetCount 1 1 17 (by norm_num)).1

theorem repaired_bounds (hH : Heights spec p b H) : shelfVerticalBounds (repaired spec) =
    { bottomMm := finite (shelfZoneBottom spec p b)
      topMm := finite (H - patchedThickness spec)
      thicknessMm := finite (patchedThickness spec) } := by
  obtain ⟨ht, -⟩ := patchedThickness_mem spec
  have hplinth : (if spec.plinth then spec.plinthHeightMm else finite 0) = finite p := hH.plinth
  have hthick : max (patchedThickness spec) (1 / 10) = patchedThickness spec :=
    max_eq_left (by linarith)
  simp only [shelfVerticalBounds, repaired, hH.base, hH.height, maximum_finite, hthick, lt_finite,
    finite_sub, finite_add, hplinth, shelfZoneBottom, decide_eq_true_eq]
  by_cases hwall : spec.furnitureType = .wallLibrary
  · have hbase : (0 : ℚ) < patchedBaseCabinetCount spec := by
      exact_mod_cast Int.lt_of_lt_of_le (by norm_num) (wall_hasBase hwall)
    simp [hwall, hbase]
  · simp [hwall]

/-- The centres of the rows of the repaired specification, at equal steps. -/
theorem repaired_ratios {n : Nat} (hn : patchedShelfCount spec = n) (hn40 : n ≤ 40) :
    shelfHeightRatios (repaired spec) = some ((List.range n).map fun i : Nat =>
      finite (((i : ℚ) + 1) / (n + 1))) := by
  have htrunc : trunc (finite ((patchedShelfCount spec : Int) : ℚ)) = finite (n : ℚ) := by
    rw [trunc_int, hn, Int.cast_natCast]
  have hcount : maximum (finite 0) (trunc (finite ((patchedShelfCount spec : Int) : ℚ))) =
      finite (n : ℚ) := by
    rw [htrunc, maximum_finite, max_eq_right (Nat.cast_nonneg n)]
  show validShelfRatios [] (maximum (finite 0) (trunc (finite (patchedShelfCount spec)))) = _
  rw [hcount, validShelfRatios]
  cases n with
  | zero => simp [hasBadShelfRatio]
  | succ n =>
    have hne : ((n + 1 : ℕ) : ℚ) ≠ 0 := by exact_mod_cast Nat.succ_ne_zero n
    have hne' : ((n + 1 : ℕ) : ℚ) + 1 ≠ 0 := by exact_mod_cast Nat.succ_ne_zero (n + 1)
    rw [if_pos, arrayFrom_nat (by omega)]
    · refine congrArg some (List.map_congr_left fun i _ => ?_)
      rw [finite_add, finite_add, finite_div _ hne']
    · simp only [List.length_nil, Nat.cast_zero, equal_finite, Bool.or_eq_true, Bool.not_eq_true',
        decide_eq_false_iff_not]
      exact .inl hne.symm

/-- The step of the rows leaves openings of 40 mm. -/
theorem exists_openings (hH : Heights spec p b H) :
    ∃ openings, rawShelfOpeningHeights (repaired spec) = some openings ∧
      AllAtLeast 40 openings := by
  obtain ⟨n, -, -, hn, -, -, hn40, -, -⟩ := exists_counts spec
  obtain ⟨ht, ht'⟩ := patchedThickness_mem spec
  obtain ⟨hz, -⟩ := minimumShelfZoneHeight_mem spec
  have hzone := hH.zone
  set t := patchedThickness spec with htdef
  set bottom := shelfZoneBottom spec p b with hbottom
  have hinner : max (H - t - bottom) 1 = H - t - bottom := max_eq_left (by linarith)
  rw [rawShelfOpeningHeights, repaired_bounds hH, repaired_ratios hn hn40]
  simp only [finite_sub, maximum_finite, ← htdef, ← hbottom, hinner, Option.map_some,
    Option.some.injEq, exists_eq_left']
  cases hcases : n with
  | zero =>
    intro value hvalue
    simp only [List.range_zero, List.map_nil, if_true, List.mem_singleton] at hvalue
    exact ⟨H - t - bottom, hvalue, by linarith⟩
  | succ m =>
    rw [if_neg (by simp)]
    set step : ℚ := (H - t - bottom) / (((m + 1 : ℕ) : ℚ) + 1) with hstepdef
    have hpos : (0 : ℚ) < ((m + 1 : ℕ) : ℚ) + 1 := by positivity
    have htotal : step * (((m + 1 : ℕ) : ℚ) + 1) = H - t - bottom :=
      div_mul_cancel₀ _ hpos.ne'
    have hcenters : ((List.range (m + 1)).map fun i : Nat =>
          finite (((i : ℚ) + 1) / (((m + 1 : ℕ) : ℚ) + 1))).map (fun ratio =>
          finite bottom + finite (H - t - bottom) * ratio) =
        ((List.range' 0 (m + 1)).map fun i : Nat => bottom + step * ((i : ℚ) + 1)).map finite := by
      rw [List.map_map, List.map_map, List.range_eq_range']
      refine List.map_congr_left fun i _ => ?_
      simp only [Function.comp_apply, finite_mul, finite_add, hstepdef]
      congr 1
      ring
    have hspaced : Spaced t bottom
        ((List.range' 0 (m + 1)).map fun i : Nat => bottom + step * ((i : ℚ) + 1)) (H - t) := by
      have hzone' : minimumShelfZoneHeight spec ≤ step * (((m + 1 : ℕ) : ℚ) + 1) := by
        rw [htotal]
        exact hzone
      simp only [minimumShelfZoneHeight, hn, hcases, Constraints.minimumShelfOpeningMm,
        ← htdef] at hzone'
      cases m with
      | zero =>
        norm_num at hzone' htotal
        simp only [Nat.zero_add, List.range'_one, List.map_cons, List.map_nil, Spaced,
          Nat.cast_zero]
        constructor <;> linarith
      | succ m =>
        rw [if_neg (by push_cast; omega), if_neg (by push_cast; omega)] at hzone'
        have hstep : 40 + t ≤ step := by
          refine le_of_mul_le_mul_right ?_ hpos
          push_cast at hzone' ⊢
          linarith
        have hall := spaced_steps t bottom (by linarith) hstep (m + 1 + 1) 0
          bottom (by push_cast; linarith)
        have htop : bottom + step * (((0 : ℕ) : ℚ) + ((m + 1 + 1 : ℕ) : ℚ) + 1) = H - t := by
          rw [Nat.cast_zero, zero_add, htotal]
          ring
        rwa [htop] at hall
    obtain ⟨last, hlast, htop, hall⟩ := openingsBelow_atLeast hspaced
    rw [hcenters]
    intro value hvalue
    rcases List.mem_append.mp hvalue with hvalue | hvalue
    · exact hall value hvalue
    · refine ⟨max 0 (H - t - last), ?_, le_max_of_le_right (by linarith)⟩
      rw [List.mem_singleton.mp hvalue, hlast, finite_sub, maximum_finite]

theorem repaired_innerWidth {d : Nat} (hd : patchedDividerCount spec = d) :
    innerWidthMm (repaired spec) =
      finite (patchedWidth spec - ((d : ℚ) + 2) * patchedThickness spec) := by
  simp only [innerWidthMm, repaired, hd, Int.cast_natCast, finite_add, finite_mul, finite_sub]

theorem repaired_bayCount {d : Nat} (hd : patchedDividerCount spec = d) :
    bayCountOf (repaired spec) = finite ((d : ℚ) + 1) := by
  simp only [bayCountOf, repaired, hd, Int.cast_natCast, finite_add]

theorem repaired_bayWidths {d : Nat} (hd : patchedDividerCount spec = d) (hd16 : d ≤ 16) :
    bayWidths (repaired spec) (innerWidthMm (repaired spec)) = some (List.replicate (d + 1)
      (finite ((patchedWidth spec - ((d : ℚ) + 2) * patchedThickness spec) / (d + 1)))) := by
  have hratios : (repaired spec).bayWidthRatios = [] := rfl
  have hdivider : (repaired spec).dividerCount = finite (d : ℚ) := by
    simp [repaired, hd]
  rw [bayWidths, repaired_innerWidth hd, hratios, hdivider, equalShares d (by omega),
    Option.map_some, List.map_replicate, finite_mul, mul_one_div]

/-- What the bays take of the width. -/
theorem repaired_width {d : Nat} (hd : patchedDividerCount spec = d) :
    ((d : ℚ) + 1) * 42 ≤ patchedWidth spec - ((d : ℚ) + 2) * patchedThickness spec := by
  have h := (patchedWidth_mem spec).2.2.2.1
  simp only [minimumWidthForShelves, hd, Int.cast_natCast, Constraints.minimumShelfWidthMm] at h
  linarith

/-- What the base cabinets take of the width. -/
theorem repaired_baseWidth {c : Nat} (hc : patchedBaseCabinetCount spec = c) (hpos : 0 < c) :
    (c : ℚ) * 200 ≤ patchedWidth spec - ((c : ℚ) + 1) * patchedThickness spec := by
  have h := (patchedWidth_mem spec).2.2.2.2
  simp only [minimumWidthForBases, hc, Int.cast_natCast, Constraints.minimumBaseCabinetOpeningMm,
    if_pos (show (0 : Int) < c by exact_mod_cast hpos)] at h
  linarith

theorem repaired_innerWidth_pos {d : Nat} (hd : patchedDividerCount spec = d) :
    0 < patchedWidth spec - ((d : ℚ) + 2) * patchedThickness spec := by
  have hwidth := repaired_width hd
  have hnonneg : (0 : ℚ) ≤ d := Nat.cast_nonneg d
  linarith

theorem exists_bays (spec : DesignSpec) : ∃ bays, measuredBays (repaired spec) = some bays ∧
    AllAtLeast 42 bays := by
  obtain ⟨-, d, -, -, hd, -, -, hd16, -⟩ := exists_counts spec
  have hnonneg : (0 : ℚ) ≤ d := Nat.cast_nonneg d
  have hpos := repaired_innerWidth_pos hd
  have hcount : (d : ℚ) ≤ 16 := by exact_mod_cast hd16
  have hinteger : isInteger (finite ((d : ℚ) + 1)) = true := by
    have := isInteger_int ((d : Int) + 1)
    simpa using this
  have hratios : bayRatiosAreValid (repaired spec) = true := rfl
  refine ⟨_, by
    rw [measuredBays, if_pos]
    · exact repaired_bayWidths hd hd16
    · simp only [repaired_innerWidth hd, repaired_bayCount hd, hinteger, hratios, lt_finite,
        le_finite, Constraints.bayCount, Bool.and_eq_true, decide_eq_true_eq, and_true]
      exact ⟨⟨hpos, by linarith⟩, by linarith⟩, ?_⟩
  intro value hvalue
  refine ⟨_, List.eq_of_mem_replicate hvalue, ?_⟩
  rw [le_div_iff₀ (by linarith)]
  have hwidth := repaired_width hd
  linarith

theorem exists_baseOpenings (spec : DesignSpec) :
    ∃ openings, measuredBaseOpenings (repaired spec) = some openings ∧
      AllAtLeast 200 openings := by
  obtain ⟨-, d, c, -, hd, hc, -, hd16, hc17⟩ := exists_counts spec
  have hpos := repaired_innerWidth_pos hd
  have hbase : (repaired spec).baseCabinetCount = finite (c : ℚ) := by
    simp [repaired, hc]
  have hinteger : isInteger (finite (c : ℚ)) = true := by
    have := isInteger_int c
    simpa using this
  have hratios : bayRatiosAreValid (repaired spec) = true := rfl
  have hc17' : (c : ℚ) ≤ 17 := by exact_mod_cast hc17
  rw [measuredBaseOpenings, hbase, hinteger, repaired_bayCount hd, hratios]
  simp only [lt_finite, le_finite, equal_finite, Constraints.baseCabinetModuleCount,
    repaired_innerWidth hd, hpos, hc17', decide_true, Bool.true_and, Bool.and_true,
    decide_eq_true_eq]
  by_cases hzero : c = 0
  · subst hzero
    exact ⟨[], by simp, nofun⟩
  have hcpos : (0 : ℚ) < c := by exact_mod_cast Nat.pos_of_ne_zero hzero
  have hwidth := repaired_baseWidth hc (Nat.pos_of_ne_zero hzero)
  rw [if_pos hcpos]
  by_cases hsame : (c : ℚ) = d + 1
  · -- As many base cabinets as bays: the cabinets take the bays' widths.
    rw [if_pos hsame, ← repaired_innerWidth hd, repaired_bayWidths hd hd16]
    refine ⟨_, rfl, fun value hvalue => ⟨_, List.eq_of_mem_replicate hvalue, ?_⟩⟩
    rw [le_div_iff₀ (by linarith)]
    rw [hsame] at hwidth
    linarith
  · rw [if_neg hsame, arrayFrom_nat (by omega)]
    refine ⟨_, rfl, fun value hvalue => ?_⟩
    obtain ⟨index, -, rfl⟩ := List.mem_map.mp hvalue
    refine ⟨(patchedWidth spec - ((c : ℚ) + 1) * patchedThickness spec) / c, ?_, ?_⟩
    · simp only [repaired, finite_add, finite_mul, finite_sub]
      exact finite_div _ hcpos.ne'
    · rw [le_div_iff₀ hcpos]
      linarith

theorem outsideConstraintRange_finite {q : ℚ} {range : ConstraintRange} (hlow : range.minimum ≤ q)
    (hhigh : q ≤ range.maximum) : outsideConstraintRange (finite q) range = false := by
  simp [outsideConstraintRange, hlow, hhigh]

theorem le_finite_false {p q : ℚ} (h : q < p) : le (finite p) (finite q) = false := by
  simpa using h

theorem lt_finite_false {p q : ℚ} (h : q ≤ p) : lt (finite p) (finite q) = false := by
  simpa using h

/-- GEO-001 has no finding about the repaired specification. -/
theorem repaired_findings (h : PlinthAndBackAreValid spec) (hH : Heights spec p b H)
    {openings bays baseOpenings : List Number} (hopenings : AllAtLeast 40 openings)
    (hbays : AllAtLeast 42 bays) (hbaseOpenings : AllAtLeast 200 baseOpenings) :
    ∀ finding ∈ geometryFindings (repaired spec) openings bays baseOpenings,
      finding.1 = false := by
  obtain ⟨ht, ht'⟩ := patchedThickness_mem spec
  obtain ⟨hw, hw', -⟩ := patchedWidth_mem spec
  obtain ⟨hdepth, hdepth'⟩ := patchedDepth_mem spec
  obtain ⟨s, d, c, hs, hd, hc, hs40, hd16, hc17⟩ := exists_counts spec
  obtain ⟨hz, -⟩ := minimumShelfZoneHeight_mem spec
  obtain ⟨hload, hload'⟩ := finiteBounded_mem spec.loadPerShelfKg 0
    Constraints.shelfLoadKg (by norm_num [Constraints.shelfLoadKg])
  have hs40' : (s : ℚ) ≤ 40 := by exact_mod_cast hs40
  have hd16' : (d : ℚ) ≤ 16 := by exact_mod_cast hd16
  have hc17' : (c : ℚ) ≤ 17 := by exact_mod_cast hc17
  have hcount : ∀ n : Nat, isInteger (finite (n : ℚ)) = true := fun n => by
    simpa using isInteger_int n
  have hshelf : (repaired spec).shelfCount = finite (s : ℚ) := by simp [repaired, hs]
  have hdivider : (repaired spec).dividerCount = finite (d : ℚ) := by simp [repaired, hd]
  have hbase : (repaired spec).baseCabinetCount = finite (c : ℚ) := by simp [repaired, hc]
  have hheight : (repaired spec).heightMm = finite H := hH.height
  have hbaseHeight : (repaired spec).baseCabinetHeightMm = finite b := hH.base
  have hbaseDepth : (repaired spec).baseCabinetDepthMm =
      if spec.furnitureType = .wallLibrary then finite (patchedDepth spec) else finite 0 := rfl
  have hzone := hH.zone
  have hbottom : p ≤ shelfZoneBottom spec p b - if spec.furnitureType = .wallLibrary then b
      else patchedThickness spec := by
    unfold shelfZoneBottom
    split <;> linarith
  -- What is zero without base cabinets, and what is there with them.
  have hfamily : (spec.furnitureType = .wallLibrary ∧ 1 ≤ c ∧ 300 ≤ b) ∨
      (spec.furnitureType = .bookcase ∧ c = 0 ∧ b = 0) := by
    have hlow := hH.baseLow
    cases hfurniture : spec.furnitureType with
    | wallLibrary =>
      rw [hfurniture, if_pos rfl] at hlow
      have := wall_hasBase hfurniture
      exact .inl ⟨rfl, by omega, hlow⟩
    | bookcase =>
      rw [hfurniture, if_neg (by decide)] at hlow
      have hzero : patchedBaseCabinetCount spec = 0 := by
        rw [patchedBaseCabinetCount, hfurniture, if_neg (by decide)]
      exact .inr ⟨rfl, by omega, hlow⟩
  have hbaseRange : 0 ≤ b := by
    rcases hfamily with ⟨-, -, hb⟩ | ⟨-, -, hb⟩ <;> linarith
  intro finding hfinding
  simp only [geometryFindings, List.mem_cons, List.not_mem_nil, or_false] at hfinding
  rcases hfinding with rfl | rfl | rfl | rfl | rfl | rfl | rfl | rfl | rfl | rfl | rfl | rfl | rfl |
    rfl | rfl | rfl | rfl | rfl | rfl | rfl | rfl | rfl | rfl | rfl | rfl | rfl | rfl | rfl | rfl |
    rfl
  · exact outsideConstraintRange_finite hw hw'
  · dsimp only
    rw [hheight]
    exact outsideConstraintRange_finite hH.heightLow hH.heightHigh
  · exact outsideConstraintRange_finite hdepth hdepth'
  · show le (finite (patchedWidth spec)) (finite 2 * finite (patchedThickness spec)) = false
    rw [finite_mul]
    exact le_finite_false (by linarith)
  · obtain ⟨hfinite, hlow, hhigh⟩ := h.plinthHeight
    show (!spec.plinthHeightMm.isFinite || _ || _) = false
    rw [hfinite, show lt (repaired spec).plinthHeightMm (finite 0) = false from hlow,
      show lt (finite 500) (repaired spec).plinthHeightMm = false from hhigh]
    rfl
  · show (spec.plinth != lt (finite 0) spec.plinthHeightMm) = false
    rw [h.plinth]
    exact bne_self_eq_false _
  · dsimp only
    rw [hheight, show (if (repaired spec).plinth then (repaired spec).plinthHeightMm else finite 0) =
      finite p from hH.plinth]
    show le (finite H) (finite 2 * finite (patchedThickness spec) + finite p) = false
    rw [finite_mul, finite_add]
    refine le_finite_false ?_
    rcases hfamily with ⟨hwall, -, hb⟩ | ⟨hbook, -, -⟩
    · rw [hwall, if_pos rfl] at hbottom
      linarith
    · rw [hbook, if_neg (by decide)] at hbottom
      linarith
  · exact le_finite_false (show patchedThickness spec < patchedDepth spec by linarith)
  · show (!isFinite (finite (patchedThickness spec)) || le (finite _) (finite 0)) = false
    rw [le_finite_false (by linarith)]
    rfl
  · obtain ⟨hfinite, hlow, hhigh, hsafe⟩ := h.back
    show (!spec.measuredBackThicknessMm.isFinite || _ || _ ||
      !isSafeInteger (spec.measuredBackThicknessMm * finite 1000)) = false
    rw [hfinite, show lt (repaired spec).measuredBackThicknessMm (finite (55 / 10)) = false from hlow,
      show lt (finite (65 / 10)) (repaired spec).measuredBackThicknessMm = false from hhigh, hsafe]
    rfl
  · dsimp only
    rw [hshelf, hcount, outsideConstraintRange_finite (Nat.cast_nonneg s) hs40']
    rfl
  · dsimp only
    rw [hdivider, hcount, outsideConstraintRange_finite (Nat.cast_nonneg d) hd16']
    rfl
  · exact outsideConstraintRange_finite hload hload'
  · dsimp only
    rw [hbase, hcount, outsideConstraintRange_finite (Nat.cast_nonneg c) hc17']
    rfl
  · dsimp only
    rw [hbaseHeight]
    exact outsideConstraintRange_finite hbaseRange hH.baseHigh
  · dsimp only
    rw [hbaseDepth]
    split
    · exact outsideConstraintRange_finite (le_trans (by norm_num [Constraints.baseCabinetDepthMm])
        hdepth) hdepth'
    · exact outsideConstraintRange_finite (le_refl _) (by norm_num [Constraints.baseCabinetDepthMm])
  · dsimp only
    rw [hbase, hbaseHeight, hbaseDepth]
    rcases hfamily with ⟨-, hone, -⟩ | ⟨hbook, rfl, rfl⟩
    · have hne : (c : ℚ) ≠ 0 := by exact_mod_cast Nat.one_le_iff_ne_zero.mp hone
      simp [hne]
    · simp [hbook]
  · dsimp only
    rw [hbase, hbaseDepth]
    rcases hfamily with ⟨hwall, -, -⟩ | ⟨-, rfl, -⟩
    · rw [if_pos hwall]
      show (_ && !equal (finite (patchedDepth spec)) (finite (patchedDepth spec))) = false
      simp
    · simp
  · dsimp only
    rw [repaired_innerWidth hd]
    exact le_finite_false (repaired_innerWidth_pos hd)
  · rfl
  · rfl
  · rfl
  · rfl
  · have hbound : Constraints.minimumShelfWidthMm + 2 * shelfSideClearanceMm = 42 := by
      norm_num [Constraints.minimumShelfWidthMm, shelfSideClearanceMm]
    dsimp only
    rw [hbound]
    exact hbays.any_lt
  · exact hopenings.any_lt
  · exact hbaseOpenings.any_lt
  · dsimp only
    rw [hbase, hbaseHeight, hbaseDepth]
    rcases hfamily with ⟨hwall, -, -⟩ | ⟨hbook, rfl, rfl⟩
    · show ((spec.furnitureType == .bookcase) && _) = false
      rw [hwall]
      rfl
    · simp [hbook]
  · dsimp only
    rw [hbase]
    rcases hfamily with ⟨-, hone, -⟩ | ⟨hbook, -, -⟩
    · rw [lt_finite_false (by exact_mod_cast hone), Bool.and_false]
    · show ((spec.furnitureType == .wallLibrary) && _) = false
      rw [hbook]
      rfl
  · dsimp only
    rw [hbaseHeight]
    rcases hfamily with ⟨-, -, hb⟩ | ⟨hbook, -, -⟩
    · show (_ && lt (finite b) (finite 300)) = false
      rw [lt_finite_false hb, Bool.and_false]
    · show ((spec.furnitureType == .wallLibrary) && _) = false
      rw [hbook]
      rfl
  · dsimp only
    rw [hheight, hbaseHeight]
    rcases hfamily with ⟨hwall, -, -⟩ | ⟨hbook, -, -⟩
    · show (_ && le (finite H - finite (patchedThickness spec) - finite 200) (finite b)) = false
      rw [finite_sub, finite_sub, le_finite_false (hH.clearance hwall), Bool.and_false]
    · show ((spec.furnitureType == .wallLibrary) && _) = false
      rw [hbook]
      rfl

end Repaired

/-- The repair of GEO-001 repairs, keeps the requested counts within their ranges, of which that of
    a wall library's base cabinets begins with one, and makes nothing smaller than requested. -/
theorem repaired_passesGeometry (spec : DesignSpec) (h : PlinthAndBackAreValid spec) :
    passesGeometry (repaired spec) = true ∧
    (∀ requested, spec.shelfCount = finite requested →
      (repaired spec).shelfCount = finite (min 40 (max 0 (mathRound requested)) : Int)) ∧
    (∀ requested, spec.dividerCount = finite requested →
      (repaired spec).dividerCount = finite (min 16 (max 0 (mathRound requested)) : Int)) ∧
    (spec.furnitureType = .wallLibrary → ∀ requested, spec.baseCabinetCount = finite requested →
      (repaired spec).baseCabinetCount = finite (min 17 (max 1 (mathRound requested)) : Int)) ∧
    (∀ requested, spec.widthMm = finite requested → ∃ width,
      (repaired spec).widthMm = finite width ∧ min 6000 (max 250 requested) ≤ width) ∧
    (∀ requested, spec.heightMm = finite requested → ∃ height,
      (repaired spec).heightMm = finite height ∧ min 4000 (max 300 requested) ≤ height) := by
  obtain ⟨p, b, H, hH⟩ := exists_heights h
  obtain ⟨openings, hopenings, hopen⟩ := exists_openings hH
  obtain ⟨bays, hbays, hbay⟩ := exists_bays spec
  obtain ⟨baseOpenings, hbaseOpenings, hbase⟩ := exists_baseOpenings spec
  refine ⟨passesGeometry_of hopenings hbays hbaseOpenings
    (repaired_findings h hH hopen hbay hbase), ?_, ?_, ?_, ?_, ?_⟩
  · intro requested hrequested
    simp only [repaired, patchedShelfCount, boundedInteger, hrequested, finiteOr]
  · intro requested hrequested
    simp only [repaired, patchedDividerCount, boundedInteger, hrequested, finiteOr]
  · intro hwall requested hrequested
    simp only [repaired, patchedBaseCabinetCount, hwall, if_true, boundedInteger, hrequested,
      finiteOr]
  · intro requested hrequested
    refine ⟨patchedWidth spec, rfl, ?_⟩
    have hwidth := (patchedWidth_mem spec).2.2.1
    rw [hrequested] at hwidth
    exact hwidth
  · intro requested hrequested
    have hheight := hH.requested
    rw [hrequested] at hheight
    exact ⟨H, hH.height, hheight⟩

/-! ## A wall library without numbers -/

namespace NoNumbers

def spec : DesignSpec where
  furnitureType := .wallLibrary
  widthMm := nan
  heightMm := nan
  depthMm := nan
  materialId := "birch-plywood"
  nominalThicknessMm := posInf
  measuredThicknessMm := posInf
  measuredBackThicknessMm := finite 6
  shelfCount := finite 40
  loadPerShelfKg := nan
  plinth := true
  plinthHeightMm := finite 500
  dividerCount := finite 16
  baySizingMode := .count
  bayWidthRatios := [nan]
  shelfHeightRatios := [nan]
  symmetryLocked := false
  baseCabinetHeightMm := posInf
  baseCabinetDepthMm := nan
  baseCabinetCount := finite (165 / 10)
  reinforcementMode := .auto

theorem spec_plinthAndBack : PlinthAndBackAreValid spec :=
  ⟨by decide +kernel, by decide +kernel, by decide +kernel⟩

theorem repaired_passesGeometry_spec : passesGeometry (repaired spec) = true ∧
    (repaired spec).baseCabinetCount = finite (min 17 (max 1 (mathRound (165 / 10))) : Int) :=
  have h := repaired_passesGeometry spec spec_plinthAndBack
  ⟨h.1, h.2.2.2.1 rfl _ rfl⟩

end NoNumbers

end Custombuild.Web
