/-
  A divider that is added by intent, and the dividers that were there before.

  The intent works on stored positions: running sums of the ratios, in millionths.  The compiler
  reads the ratios as weights, so a divider stands at its running sum over the sum of all weights.
  Adding a divider inserts one stored position and rescales the ratios to a million; a divider
  that stood elsewhere than at its stored position moves there.
-/
import Custombuild.Domain.SnapTargets

namespace Custombuild.Domain

open Custombuild.Lib

/-! ## Running sums -/

theorem foldl_add (a : Int) (l : List Int) : l.foldl (· + ·) a = a + l.sum := by
  rw [List.sum_eq_foldl, ← @List.foldl_assoc Int (· + ·), Int.add_zero]

/-- The boundaries between the sides are the running sums of the ratios. -/
theorem inner_boundaries {ratios : List Int} {k : Nat} (hk : k + 1 < ratios.length) :
    (boundaries ratios).tail.dropLast[k]? = some (ratios.take (k + 1)).sum := by
  have hlength : (ratios.scanl (· + ·) 0).length = ratios.length + 1 := List.length_scanl
  have hget : (ratios.scanl (· + ·) 0)[k + 1]? = some (ratios.take (k + 1)).sum := by
    rw [List.getElem?_scanl, if_pos (by omega), foldl_add, Int.zero_add]
  unfold boundaries
  rw [List.getElem?_dropLast, if_pos (by simp; omega), List.getElem?_tail,
    List.getElem?_append_left (by simp; omega), List.getElem?_dropLast, if_pos (by simp; omega)]
  exact hget

theorem length_inner_boundaries (ratios : List Int) :
    (boundaries ratios).tail.dropLast.length = ratios.length - 1 := by
  simp [boundaries]

/-- The ratios between boundaries sum to the way from the first boundary. -/
theorem sum_take_ratiosFromBoundaries (first : Int) (bounds : List Int) {k : Nat} {bound : Int}
    (hbound : bounds[k]? = some bound) :
    ((ratiosFromBoundaries (first :: bounds)).take (k + 1)).sum = bound - first := by
  induction bounds generalizing first k with
  | nil => simp at hbound
  | cons second bounds ih =>
    have hcons : ratiosFromBoundaries (first :: second :: bounds) =
        (second - first) :: ratiosFromBoundaries (second :: bounds) := rfl
    rw [hcons, List.take_succ_cons, List.sum_cons]
    cases k with
    | zero =>
      rw [List.getElem?_cons_zero, Option.some.injEq] at hbound
      rw [List.take_zero, List.sum_nil]
      omega
    | succ k =>
      rw [List.getElem?_cons_succ] at hbound
      rw [ih second hbound]
      omega

theorem length_ratiosFromBoundaries (first : Int) (bounds : List Int) :
    (ratiosFromBoundaries (first :: bounds)).length = bounds.length := by
  simp [ratiosFromBoundaries]

/-! ## Positions -/

section Positions

variable (p : BookcaseParameters)

/-- The stored positions of the dividers. -/
def dividerPositions : List Int := (boundaries (bayRatios p)).tail.dropLast

/-- The weights to the left of a divider. -/
def weightBefore (k : Nat) : Int := (p.bayWeights.take (k + 1)).sum

/-- Where the compiler puts a divider between the sides, before it rounds to micrometres; the
    thicknesses of the dividers do not count. -/
def relativePosition (k : Nat) : ℚ := weightBefore p k / p.bayWeights.sum

/-- Where an old divider is found after one more was inserted. -/
def afterInsertion (j k : Nat) : Nat := if k < j then k else k + 1

/-- One boundary is new, and the others move by at most a micrometre of the clear width. -/
structure KeepsDividers (p p' : BookcaseParameters) (j : Nat) (position : Int) : Prop where
  counted : p'.verticalDividerCount = p.verticalDividerCount + 1
  inside : j ≤ p.verticalDividerCount
  inserted : dividerPositions p' = (dividerPositions p).insertIdx j position
  fresh : position ∉ dividerPositions p
  kept : ∀ k < p.verticalDividerCount,
    |p'.clearWidth * (relativePosition p' (afterInsertion j k) - relativePosition p k)| ≤ 1

/-- Every divider stands within a micrometre of its stored position: the running sum of the stored
    ratios over a million against the running sum of the weights over all weights, in the clear
    width that is left beside one more divider. -/
def StandsAsStored : Prop :=
  ∀ k < p.verticalDividerCount,
    |(p.clearWidth - p.actualThicknessUm) *
      (((bayRatios p).take (k + 1)).sum * p.bayWeights.sum - weightBefore p k * wholePpm)| ≤
      wholePpm * p.bayWeights.sum

end Positions

theorem sum_take_le {l : List Int} (hnonneg : ∀ x ∈ l, 0 ≤ x) {i k : Nat} (hik : i ≤ k) :
    (l.take i).sum ≤ (l.take k).sum := by
  obtain ⟨m, rfl⟩ : ∃ m, k = i + m := ⟨k - i, by omega⟩
  rw [List.take_add, List.sum_append]
  have hrest : 0 ≤ ((l.drop i).take m).sum :=
    List.sum_nonneg fun x hx => hnonneg x (List.mem_of_mem_drop (List.mem_of_mem_take hx))
  omega

theorem sum_take_lt {l : List Int} (hpos : ∀ x ∈ l, 0 < x) {i k : Nat} (hik : i < k)
    (hi : i < l.length) : (l.take i).sum < (l.take k).sum := by
  have hle := sum_take_le (fun x hx => (hpos x hx).le) (Nat.succ_le_of_lt hik)
  rw [List.sum_take_succ _ _ hi] at hle
  have hstep := hpos l[i] (List.getElem_mem hi)
  omega

theorem equalRatios_nonneg {count : Nat} {ratio : Int} (h : ratio ∈ equalRatios count) :
    0 ≤ ratio := by
  unfold equalRatios equalShares at h
  rw [List.mem_map] at h
  obtain ⟨index, -, rfl⟩ := h
  have hshare : 0 ≤ wholePpm / (count : Int) := Int.ediv_nonneg (by decide) (by omega)
  split <;> omega

/-- The stored positions of checked ratios stand in order. -/
theorem dividerPositions_sorted {p : BookcaseParameters} (h : RatiosChecked p) :
    (dividerPositions p).Pairwise (· ≤ ·) := by
  have hnonneg : ∀ ratio ∈ bayRatios p, 0 ≤ ratio := by
    intro ratio hratio
    unfold bayRatios at hratio
    split at hratio
    · exact (h.positive ratio hratio).le
    · exact equalRatios_nonneg hratio
  rw [List.pairwise_iff_getElem]
  intro i k hi hk hik
  have hlength := length_inner_boundaries (bayRatios p)
  unfold dividerPositions at hi hk ⊢
  have hgetI := @inner_boundaries (bayRatios p) i (by omega)
  have hgetK := @inner_boundaries (bayRatios p) k (by omega)
  rw [List.getElem?_eq_getElem hi, Option.some.injEq] at hgetI
  rw [List.getElem?_eq_getElem hk, Option.some.injEq] at hgetK
  rw [hgetI, hgetK]
  exact sum_take_le hnonneg (by omega)

theorem length_dividerPositions {p : BookcaseParameters} (h : RatiosChecked p) :
    (dividerPositions p).length = p.verticalDividerCount := by
  unfold dividerPositions
  rw [length_inner_boundaries, h.length_bayRatios, Nat.add_sub_cancel]

/-! ## Parameters with stored positions -/

section Stored

variable {p : BookcaseParameters} {after : List Int}

/-- The ratios of these parameters are the openings between positions. -/
structure StoresPositions (p : BookcaseParameters) (after : List Int) : Prop where
  counted : p.verticalDividerCount = after.length
  ratios : p.bayWidthRatiosPpm = ratiosFromBoundaries (0 :: after ++ [wholePpm])

variable (h : StoresPositions p after)

include h

theorem StoresPositions.length_ratios :
    p.bayWidthRatiosPpm.length = p.verticalDividerCount + 1 := by
  rw [h.ratios, h.counted, List.cons_append, length_ratiosFromBoundaries, List.length_append,
    List.length_singleton]

theorem StoresPositions.bayWeights_eq :
    p.bayWeights = ratiosFromBoundaries (0 :: after ++ [wholePpm]) := by
  unfold BookcaseParameters.bayWeights
  rw [if_pos h.length_ratios, h.ratios]

theorem StoresPositions.bayRatios_eq : bayRatios p = p.bayWeights := by
  have hne : p.bayWidthRatiosPpm ≠ [] :=
    List.ne_nil_of_length_pos (by rw [h.length_ratios]; omega)
  unfold bayRatios
  rw [if_pos hne, h.bayWeights_eq, h.ratios]

theorem StoresPositions.sum_bayWeights : p.bayWeights.sum = wholePpm := by
  have hsum := @sum_take_ratiosFromBoundaries 0 (after ++ [wholePpm]) after.length
    wholePpm (by simp)
  rw [List.take_of_length_le (by
    rw [length_ratiosFromBoundaries, List.length_append, List.length_singleton])] at hsum
  rw [h.bayWeights_eq, List.cons_append, hsum, Int.sub_zero]

theorem StoresPositions.weightBefore_eq {k : Nat} {position : Int}
    (hk : after[k]? = some position) : weightBefore p k = position := by
  have hlt : k < after.length := (List.getElem?_eq_some_iff.mp hk).1
  unfold weightBefore
  rw [h.bayWeights_eq, List.cons_append, sum_take_ratiosFromBoundaries 0 _
    ((List.getElem?_append_left hlt).trans hk), Int.sub_zero]

theorem StoresPositions.dividerPositions_eq : dividerPositions p = after := by
  have hlength : (bayRatios p).length = after.length + 1 := by
    rw [h.bayRatios_eq, BookcaseParameters.length_bayWeights, h.counted]
  have hinner := length_inner_boundaries (bayRatios p)
  unfold dividerPositions
  refine List.ext_getElem (by omega) fun k hk hk' => ?_
  have hget := @inner_boundaries (bayRatios p) k (by omega)
  rw [List.getElem?_eq_getElem hk, Option.some.injEq] at hget
  rw [hget, h.bayRatios_eq]
  exact h.weightBefore_eq (List.getElem?_eq_getElem hk')

/-- Positive ratios store different positions. -/
theorem StoresPositions.nodup (hpos : ∀ ratio ∈ p.bayWidthRatiosPpm, 0 < ratio) :
    after.Nodup := by
  have hlength := BookcaseParameters.length_bayWeights p
  have hcount := h.counted
  have hlt : after.Pairwise (· < ·) := by
    rw [List.pairwise_iff_getElem]
    intro i k hi hk hik
    rw [← h.weightBefore_eq (List.getElem?_eq_getElem hi),
      ← h.weightBefore_eq (List.getElem?_eq_getElem hk)]
    exact sum_take_lt (BookcaseParameters.bayWeights_pos hpos) (by omega) (by omega)
  exact hlt.imp fun hlt => ne_of_lt hlt

end Stored

/-! ## Adding a divider -/

section Adding

variable {spec : BookcaseDesignSpec} {intent : SemanticIntent} {userConfirmed : Bool}
  {result : SemanticCompilationResult}

/-- What an accepted intent leaves behind. -/
structure Accepted (spec : BookcaseDesignSpec) (intent : SemanticIntent)
    (result : SemanticCompilationResult) : Prop where
  updated : ∃ target update, semanticUpdate spec.parameters intent target = .ok update ∧
    result.spec.parameters = update.parameters
  valid : result.spec.parameters.validate = .ok ()

theorem accepted_of_compile (h : compileSemanticIntent spec intent userConfirmed = .ok result) :
    Accepted spec intent result := by
  simp only [compileSemanticIntent, bind_eq_ok] at h
  obtain ⟨⟨⟩, -, ⟨⟩, -, targets, -, target, -, ⟨⟩, -, update, hupdate, ⟨⟩, -, ⟨⟩, hvalid, back, -,
    ⟨⟩, -, hresult⟩ := h
  obtain rfl := Except.ok.inj hresult
  exact ⟨⟨target, update, hupdate, rfl⟩, mapError_eq_ok.mp hvalid⟩

/-- The parameters after a divider is added: the stored positions with one more among them. -/
theorem updateDivider_adding {p : BookcaseParameters} {target : SemanticSnapTarget}
    {update : SemanticUpdate} (hratios : RatiosChecked p) (hadd : intent.action = .add)
    (h : updateDivider p intent target = .ok update) :
    ∃ j ≤ p.verticalDividerCount, ∃ position,
      StoresPositions update.parameters ((dividerPositions p).insertIdx j position) ∧
        update.parameters.clearWidth =
          p.widthUm - 2 * p.actualThicknessUm -
            update.parameters.verticalDividerCount * p.actualThicknessUm := by
  have hadding : intent.adding = true := by
    unfold SemanticIntent.adding
    rw [hadd]
    rfl
  simp only [updateDivider, insertConstrainedPosition, hadding, if_true, bind_eq_ok] at h
  obtain ⟨after, ⟨position, -, hafter⟩, hupdate⟩ := h
  obtain rfl := Except.ok.inj hafter
  obtain rfl := Except.ok.inj hupdate
  obtain ⟨j, hj, hsort⟩ := @sortBy_append_singleton _ _ _ id _ position
    (dividerPositions_sorted hratios)
  refine ⟨j, (length_dividerPositions hratios) ▸ hj, position, ⟨?_, ?_⟩, rfl⟩
  · rw [← hsort]
    rfl
  · rw [← hsort]
    rfl

end Adding

/-- An old position stands at its new index. -/
theorem getElem?_afterInsertion (l : List Int) (j k : Nat) (position : Int) :
    (l.insertIdx j position)[afterInsertion j k]? = l[k]? := by
  unfold afterInsertion
  rw [List.getElem?_insertIdx]
  by_cases hlt : k < j
  · rw [if_pos hlt, if_pos hlt]
  · rw [if_neg hlt, if_neg (by omega), if_neg (by omega), Nat.add_sub_cancel]

/-- A move in the clear width is within a micrometre exactly when its numerator is. -/
theorem move_le_one_iff {width stored before total : Int} (htotal : 0 < total) :
    |(width : ℚ) * (stored / wholePpm - before / total)| ≤ 1 ↔
      |width * (stored * total - before * wholePpm)| ≤ wholePpm * total := by
  have hppm : (0 : ℚ) < (wholePpm : Int) := by
    unfold wholePpm
    norm_num
  have htotal' : (0 : ℚ) < total := by exact_mod_cast htotal
  have hmove : (width : ℚ) * (stored / wholePpm - before / total) =
      ((width * (stored * total - before * wholePpm) : Int) : ℚ) / ((wholePpm * total : Int) : ℚ) := by
    push_cast
    field_simp
  have hpos : (0 : ℚ) < ((wholePpm * total : Int) : ℚ) := by
    push_cast
    exact mul_pos hppm htotal'
  rw [hmove, abs_div, abs_of_pos hpos, div_le_one hpos, ← Int.cast_abs, Int.cast_le]

/-- Adding a divider keeps the others exactly when they all stand as they are stored. -/
theorem addDivider_keeps_iff {spec : BookcaseDesignSpec} {intent : SemanticIntent}
    {userConfirmed : Bool} {result : SemanticCompilationResult}
    (hvalid : spec.validate = .ok ()) (hkind : intent.componentKind = .divider)
    (hadd : intent.action = .add)
    (hcompile : compileSemanticIntent spec intent userConfirmed = .ok result) :
    (∃ j position, KeepsDividers spec.parameters result.spec.parameters j position) ↔
      StandsAsStored spec.parameters := by
  have hratios := ratiosChecked_of_spec hvalid
  obtain ⟨⟨target, update, hupdate, hparameters⟩, hvalid'⟩ := accepted_of_compile hcompile
  have hpositive := (ratiosChecked_of_validate hvalid').positive
  unfold semanticUpdate at hupdate
  simp only [hkind] at hupdate
  obtain ⟨j, hj, position, hstores, hwidth⟩ := updateDivider_adding hratios hadd hupdate
  rw [← hparameters] at hstores hwidth
  have hlength := length_dividerPositions hratios
  have hcounted : result.spec.parameters.verticalDividerCount =
      spec.parameters.verticalDividerCount + 1 := by
    rw [hstores.counted, List.length_insertIdx_of_le_length (by omega), hlength]
  have hclear : result.spec.parameters.clearWidth =
      spec.parameters.clearWidth - spec.parameters.actualThicknessUm := by
    rw [hwidth, hcounted]
    unfold BookcaseParameters.clearWidth BookcaseParameters.innerWidth
    push_cast
    ring
  have htotal := BookcaseParameters.bayWeights_sum_pos hratios.positive
  -- the move of an old divider does not depend on where the new one went
  have hmove (i : Nat) (value : Int)
      (hinserted : dividerPositions result.spec.parameters =
        (dividerPositions spec.parameters).insertIdx i value)
      (k : Nat) (hk : k < spec.parameters.verticalDividerCount) :
      |result.spec.parameters.clearWidth *
        (relativePosition result.spec.parameters (afterInsertion i k) -
          relativePosition spec.parameters k)| ≤ 1 ↔
      |(spec.parameters.clearWidth - spec.parameters.actualThicknessUm) *
        (((bayRatios spec.parameters).take (k + 1)).sum * spec.parameters.bayWeights.sum -
          weightBefore spec.parameters k * wholePpm)| ≤
        wholePpm * spec.parameters.bayWeights.sum := by
    have hold : (dividerPositions spec.parameters)[k]? =
        some ((bayRatios spec.parameters).take (k + 1)).sum :=
      inner_boundaries (by rw [hratios.length_bayRatios]; omega)
    have hnew := getElem?_afterInsertion (dividerPositions spec.parameters) i k value
    rw [← hinserted, hstores.dividerPositions_eq, hold] at hnew
    unfold relativePosition
    rw [hstores.weightBefore_eq hnew, hstores.sum_bayWeights, hclear]
    exact move_le_one_iff htotal
  constructor
  · intro h
    obtain ⟨i, value, hkeeps⟩ := h
    intro k hk
    exact (hmove i value hkeeps.inserted k hk).mp (hkeeps.kept k hk)
  · intro h
    refine ⟨j, position, hcounted, hj, hstores.dividerPositions_eq, ?_, fun k hk => ?_⟩
    · have hnodup := hstores.nodup hpositive
      rw [(List.perm_insertIdx position _ (by omega)).nodup_iff, List.nodup_cons] at hnodup
      exact hnodup.1
    · exact (hmove j position hstores.dividerPositions_eq k hk).mpr (h k hk)

/-- Two equal bays whose ratios do not sum to a million. -/
def shortRatios : BookcaseParameters :=
  { shelfCount := 0, plinthHeightUm := 0, backPanel := .none, verticalDividerCount := 1
    bayWidthRatiosPpm := [499900, 499900] }

/-- A divider in the right bay. -/
def dividerOnTheRight : SemanticIntent :=
  { intentId := "divider", action := .add, componentKind := .divider
    targetId := "bookcase:divider:carcass", source := .userDrag, pointerXPermille := 800 }

theorem shortRatios_accepted : (plywoodBookcase shortRatios).validate = .ok () ∧
    ∃ result, compileSemanticIntent (plywoodBookcase shortRatios) dividerOnTheRight false =
      .ok result ∧ result.spec.parameters.bayWeights = [499900, 300100, 200000] ∧
      result.spec.parameters.clearWidth = 828000 := by
  have haccepted : okAnd (compileSemanticIntent (plywoodBookcase shortRatios) dividerOnTheRight
      false) (fun result => result.spec.parameters.bayWeights = [499900, 300100, 200000] ∧
        result.spec.parameters.clearWidth = 828000) = true := by
    decide +kernel
  obtain ⟨result, hresult, hproperties⟩ := exists_of_okAnd haccepted
  exact ⟨by decide +kernel, result, hresult, of_decide_eq_true hproperties⟩

theorem addDivider_keeps_iff_shortRatios : (plywoodBookcase shortRatios).validate = .ok () ∧
    ∃ result, compileSemanticIntent (plywoodBookcase shortRatios) dividerOnTheRight false =
      .ok result ∧
      ((∃ j position, KeepsDividers shortRatios result.spec.parameters j position) ↔
        StandsAsStored shortRatios) := by
  obtain ⟨hvalid, result, hresult, -⟩ := shortRatios_accepted
  exact ⟨hvalid, result, hresult, addDivider_keeps_iff hvalid rfl rfl hresult⟩

/-- The divider in the middle moves to the left by a ten-thousandth of the clear width. -/
theorem shortRatios_moved : (plywoodBookcase shortRatios).validate = .ok () ∧
    ∃ result, compileSemanticIntent (plywoodBookcase shortRatios) dividerOnTheRight false =
      .ok result ∧
      ¬∃ j position, KeepsDividers shortRatios result.spec.parameters j position := by
  obtain ⟨hvalid, result, hresult, hweights, hclear⟩ := shortRatios_accepted
  refine ⟨hvalid, result, hresult, fun h => ?_⟩
  obtain ⟨j, position, hkeeps⟩ := h
  have hkept := hkeeps.kept 0 (by decide)
  have hold : relativePosition shortRatios 0 = 1 / 2 := by
    have hparts : weightBefore shortRatios 0 = 499900 ∧ shortRatios.bayWeights.sum = 999800 := by
      decide
    unfold relativePosition
    rw [hparts.1, hparts.2]
    norm_num
  unfold afterInsertion at hkept
  rw [hold, hclear] at hkept
  unfold relativePosition weightBefore at hkept
  rw [hweights] at hkept
  split at hkept
  · norm_num [abs_le] at hkept
  · norm_num [abs_le] at hkept

end Custombuild.Domain
