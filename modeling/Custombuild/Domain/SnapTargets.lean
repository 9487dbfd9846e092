/-
  The bays of the snap targets against the bays that the compiler builds.

  The snap targets read the ratios as millionths and hand out what is left over in turn; the
  compiler divides by the sum of the ratios and gives it to the largest remainders.  The two agree
  exactly when the first division is fair for the ratios, which is a condition on the ratios and
  the clear width (`BaysInStep`).
-/
import Custombuild.Domain.BayShares
import Custombuild.Domain.Semantic
import Custombuild.Domain.Compiled

namespace Custombuild.Domain

open Custombuild.Lib

/-! ## The widths -/

section Widths

variable (p : BookcaseParameters)

/-- What is left over when the bays are rounded down to millionths of the clear width. -/
def snapLeftOver : Int :=
  p.clearWidth - ((bayRatios p).map fun ratio => p.clearWidth * ratio / wholePpm).sum

/-- The width of a bay of the snap targets in millionths of a micrometre, less the turns that
    every bay has. -/
def snapShare (i : Nat) : Int :=
  let exact := p.clearWidth * (bayRatios p).getD i 0
  exact - exact % wholePpm +
    if (i : Int) < snapLeftOver p % ((p.verticalDividerCount : Int) + 1) then wholePpm else 0

/-- How far two bays of the snap targets drift apart beyond what the compiler gives them, in units
    of the weights and millionths of a micrometre. -/
def snapDrift (i j : Nat) : Int :=
  p.bayWeights.sum * (snapShare p i - snapShare p j) -
    wholePpm * (p.clearWidth * (p.bayWeights.getD i 0 - p.bayWeights.getD j 0))

/-- The millionths do not exceed the clear width, and no two bays drift apart by more than a
    micrometre, nor by a whole one if it goes to the later bay. -/
structure BaysInStep : Prop where
  fits : 0 ≤ snapLeftOver p
  close : ∀ i ≤ p.verticalDividerCount, ∀ j ≤ p.verticalDividerCount,
    snapDrift p i j ≤ p.bayWeights.sum * wholePpm
  early : ∀ i ≤ p.verticalDividerCount, ∀ j < i, snapDrift p i j < p.bayWeights.sum * wholePpm

variable {p}

theorem snapInnerWidth_eq : snapInnerWidth p = p.clearWidth := by
  unfold snapInnerWidth BookcaseParameters.clearWidth BookcaseParameters.innerWidth
  rfl

theorem snapBayWidths_eq : snapBayWidths p = roundRobin (p.verticalDividerCount + 1)
    ((bayRatios p).map fun ratio => p.clearWidth * ratio / wholePpm) (snapLeftOver p).toNat := by
  unfold snapBayWidths
  rw [snapInnerWidth_eq]
  rfl

/-- A record of parameters whose ratios the validators have checked. -/
structure RatiosChecked (p : BookcaseParameters) : Prop where
  positive : ∀ ratio ∈ p.bayWidthRatiosPpm, 0 < ratio
  counted : p.bayWidthRatiosPpm ≠ [] → p.bayWidthRatiosPpm.length = p.verticalDividerCount + 1

theorem ratiosChecked_of_validate (h : p.validate = .ok ()) : RatiosChecked p := by
  simp only [BookcaseParameters.validate, BookcaseParameters.checkFields,
    BookcaseParameters.validateGeometry, bind_eq_ok] at h
  obtain ⟨-, ⟨⟨⟩, hfields, -⟩, ⟨⟩, -, ⟨⟩, hratios, -⟩ := h
  refine ⟨(BookcaseParameters.checkRanges_ok hfields).2.2.2.2, fun hne => ?_⟩
  rw [BookcaseParameters.checkBayRatios, if_pos hne, bind_eq_ok] at hratios
  obtain ⟨⟨⟩, hlength, -⟩ := hratios
  simpa using hlength

theorem ratiosChecked_of_spec {spec : BookcaseDesignSpec} (h : spec.validate = .ok ()) :
    RatiosChecked spec.parameters := by
  simp only [BookcaseDesignSpec.validate, bind_eq_ok] at h
  obtain ⟨⟨⟩, -, ⟨⟩, hparameters, -⟩ := h
  exact ratiosChecked_of_validate hparameters

theorem RatiosChecked.length_bayRatios (h : RatiosChecked p) :
    (bayRatios p).length = p.verticalDividerCount + 1 := by
  unfold bayRatios
  split
  · next hne => exact h.counted hne
  · exact length_equalShares _ _

theorem length_snapBayWidths (h : RatiosChecked p) :
    (snapBayWidths p).length = p.verticalDividerCount + 1 := by
  rw [snapBayWidths_eq, length_roundRobin, List.length_map, h.length_bayRatios]

theorem sum_snapBayWidths (h : RatiosChecked p) :
    (snapBayWidths p).sum = p.clearWidth ↔ 0 ≤ snapLeftOver p := by
  have hlength : ((bayRatios p).map fun ratio => p.clearWidth * ratio / wholePpm).length =
      p.verticalDividerCount + 1 := by
    rw [List.length_map, h.length_bayRatios]
  have hsum := sum_roundRobin (Nat.succ_pos _) hlength (snapLeftOver p).toNat
  rw [← snapBayWidths_eq] at hsum
  have hleft : snapLeftOver p = p.clearWidth -
      ((bayRatios p).map fun ratio => p.clearWidth * ratio / wholePpm).sum := rfl
  omega

/-- The difference of two bays, without the turns that both have. -/
theorem snap_sub (h : RatiosChecked p) (hleft : 0 ≤ snapLeftOver p)
    (i j : Fin (p.verticalDividerCount + 1)) :
    wholePpm * (entries _ (snapBayWidths p) i - entries _ (snapBayWidths p) j) =
      snapShare p i - snapShare p j := by
  have hlength : ((bayRatios p).map fun ratio => p.clearWidth * ratio / wholePpm).length =
      p.verticalDividerCount + 1 := by
    rw [List.length_map, h.length_bayRatios]
  have hscaled (k : Fin (p.verticalDividerCount + 1)) :
      wholePpm * entries _ (snapBayWidths p) k = snapShare p k +
        wholePpm * ((snapLeftOver p).toNat / (p.verticalDividerCount + 1) : Nat) := by
    have hfloor : entries _ ((bayRatios p).map fun ratio => p.clearWidth * ratio / wholePpm) k =
        p.clearWidth * (bayRatios p).getD k 0 / wholePpm := by
      have hk : k.val < (bayRatios p).length := by
        rw [h.length_bayRatios]
        exact k.isLt
      simp [entries, hk]
    have hdivision := Int.mul_ediv_add_emod (p.clearWidth * (bayRatios p).getD k 0) wholePpm
    have hturn : k.val < (snapLeftOver p).toNat % (p.verticalDividerCount + 1) ↔
        (k.val : Int) < snapLeftOver p % ((p.verticalDividerCount : Int) + 1) := by
      have hcast : (((snapLeftOver p).toNat % (p.verticalDividerCount + 1) : Nat) : Int) =
          snapLeftOver p % ((p.verticalDividerCount : Int) + 1) := by
        push_cast
        rw [Int.toNat_of_nonneg hleft]
      rw [← hcast]
      omega
    rw [snapBayWidths_eq, entries_roundRobin hlength, hfloor]
    unfold snapShare
    simp only [hturn]
    split
    · rw [Int.mul_add, Int.mul_add, Int.mul_one]
      omega
    · rw [Int.mul_add, Int.add_zero]
      omega
  rw [Int.mul_sub, hscaled i, hscaled j]
  omega

/-- The excess of two bays, in millionths, is their drift. -/
theorem excess_sub (h : RatiosChecked p) (hleft : 0 ≤ snapLeftOver p)
    (i j : Fin (p.verticalDividerCount + 1)) :
    wholePpm * (excess p.clearWidth (entries _ p.bayWeights) (entries _ (snapBayWidths p)) i -
      excess p.clearWidth (entries _ p.bayWeights) (entries _ (snapBayWidths p)) j) =
      snapDrift p i j := by
  have hsub := snap_sub h hleft i j
  have hweights : ∑ k, entries (p.verticalDividerCount + 1) p.bayWeights k = p.bayWeights.sum :=
    sum_entries p.length_bayWeights
  unfold excess snapDrift
  rw [← hsub, hweights]
  unfold entries
  ring

/-- The two layers agree on the widths exactly when the bays are in step. -/
theorem snapBayWidths_eq_iff (h : RatiosChecked p) :
    snapBayWidths p = p.bayWidths ↔ BaysInStep p := by
  have hweights : ∑ k, entries (p.verticalDividerCount + 1) p.bayWeights k = p.bayWeights.sum :=
    sum_entries p.length_bayWeights
  have hpos : 0 < p.bayWeights.sum := BookcaseParameters.bayWeights_sum_pos h.positive
  have hfair := BookcaseParameters.fair_bayWidths h.positive
  have hwhole : (0 : Int) < wholePpm := by decide
  constructor
  · intro heq
    have hleft : 0 ≤ snapLeftOver p := by
      rw [← sum_snapBayWidths h, heq]
      exact BookcaseParameters.sum_bayWidths h.positive
    rw [← heq] at hfair
    refine ⟨hleft, fun i hi j hj => ?_, fun i hi j hj => ?_⟩
    · have hclose := hfair.close ⟨i, by omega⟩ ⟨j, by omega⟩
      rw [hweights] at hclose
      rw [← excess_sub h hleft ⟨i, by omega⟩ ⟨j, by omega⟩, mul_comm p.bayWeights.sum]
      exact Int.mul_le_mul_of_nonneg_left hclose hwhole.le
    · have hearly := hfair.early ⟨i, by omega⟩ ⟨j, by omega⟩ (Fin.lt_def.mpr hj)
      rw [hweights] at hearly
      rw [← excess_sub h hleft ⟨i, by omega⟩ ⟨j, by omega⟩, mul_comm p.bayWeights.sum]
      exact Int.mul_lt_mul_of_pos_left hearly hwhole
  · intro hstep
    have hsnap : Fair p.clearWidth (entries (p.verticalDividerCount + 1) p.bayWeights)
        (entries (p.verticalDividerCount + 1) (snapBayWidths p)) := by
      refine ⟨?_, fun i j => ?_, fun i j hij => ?_⟩
      · rw [sum_entries (length_snapBayWidths h), sum_snapBayWidths h]
        exact hstep.fits
      · have hclose := hstep.close i (by omega) j (by omega)
        rw [← excess_sub h hstep.fits i j, mul_comm p.bayWeights.sum] at hclose
        rw [hweights]
        exact le_of_mul_le_mul_left hclose hwhole
      · have hearly := hstep.early i (by omega) j hij
        rw [← excess_sub h hstep.fits i j, mul_comm p.bayWeights.sum] at hearly
        rw [hweights]
        exact lt_of_mul_lt_mul_left hearly hwhole.le
    have hentries := hsnap.eq (by rw [hweights]; exact hpos) hfair
    exact entries_injective (length_snapBayWidths h) (BookcaseParameters.length_bayWidths p) hentries

end Widths

/-! ## The targets -/

/-- The clear interval that the snap targets report for a bay. -/
def snapInterval (targets : List SemanticSnapTarget) (i : Nat) : Option (Int × Int) :=
  (targets.find? fun target => target.bayIndex == some (i + 1)).map fun target =>
    (target.bounds.minXUm, target.bounds.maxXUm)

/-- The interval of a bay of the grid. -/
def Bay.interval (bay : Bay) : Int × Int := (bay.startUm, bay.endUm)

theorem bounds_make_ok {x y z : Int × Int} {bounds : SemanticBounds}
    (h : SemanticBounds.make x y z = .ok bounds) : (bounds.minXUm, bounds.maxXUm) = x := by
  unfold SemanticBounds.make at h
  split at h
  · split at h
    · cases h
      rfl
    · cases h
  · cases h

theorem snapInterval_bayTargets {p : BookcaseParameters} {widths : List Int} {index : Nat}
    {cursor : Int} {targets : List SemanticSnapTarget}
    (h : bayTargets p (index + 1) cursor widths = .ok targets) (others : List SemanticSnapTarget)
    (hothers : ∀ target ∈ others, target.bayIndex = none) (i : Nat) (hi : index ≤ i) :
    snapInterval (targets ++ others) i =
      ((baysFrom p.actualThicknessUm index cursor widths)[i - index]?).map Bay.interval := by
  induction widths generalizing index cursor targets with
  | nil =>
    cases h
    unfold snapInterval
    rw [List.nil_append, List.find?_eq_none.mpr fun target ht => by simp [hothers target ht]]
    rfl
  | cons width widths ih =>
    rw [bayTargets, bind_eq_ok] at h
    obtain ⟨bounds, hbounds, h⟩ := h
    rw [bind_eq_ok] at h
    obtain ⟨rest, hrest, h⟩ := h
    cases h
    unfold snapInterval
    rw [List.cons_append, List.find?_cons, baysFrom]
    rcases Nat.eq_or_lt_of_le hi with rfl | hlt
    · simp only [beq_self_eq_true, Nat.sub_self, List.getElem?_cons_zero, Option.map_some]
      rw [bounds_make_ok hbounds]
      rfl
    · have hne : (some (index + 1) == some (i + 1)) = false := by simp; omega
      have hsucc : i - index = (i - (index + 1)) + 1 := by omega
      simp only [hne]
      rw [hsucc, List.getElem?_cons_succ]
      exact ih hrest hlt

theorem carcassTarget_bayIndex {targetId label : String} {relation : SemanticSnapRelation}
    {kind : SemanticComponentKind} {x y z : Int × Int} {target : SemanticSnapTarget}
    (h : carcassTarget targetId label relation kind x y z = .ok target) :
    target.bayIndex = none := by
  rw [carcassTarget, bind_eq_ok] at h
  obtain ⟨bounds, -, h⟩ := h
  cases h
  rfl

/-- The snap targets are the bays of the snap widths. -/
theorem snapInterval_eq {spec : BookcaseDesignSpec} {targets : List SemanticSnapTarget}
    (h : deriveBookcaseSnapTargets spec = .ok targets) (i : Nat) :
    snapInterval targets i =
      ((baysOf spec.parameters.actualThicknessUm (snapBayWidths spec.parameters))[i]?).map
        Bay.interval := by
  simp only [deriveBookcaseSnapTargets, bind_eq_ok] at h
  obtain ⟨bays, hbays, divider, hdivider, back, hback, plinth, hplinth, cabinet, hcabinet, h⟩ := h
  cases h
  rw [baysOf_eq]
  refine snapInterval_bayTargets hbays _ (fun target htarget => ?_) i (Nat.zero_le i)
  simp only [List.mem_cons, List.not_mem_nil, or_false] at htarget
  rcases htarget with rfl | rfl | rfl | rfl
  · exact carcassTarget_bayIndex hdivider
  · exact carcassTarget_bayIndex hback
  · exact carcassTarget_bayIndex hplinth
  · exact carcassTarget_bayIndex hcabinet

/-! ## The built bays -/

/-- The key of an upright, counted from the left side through the dividers to the right side. -/
def uprightKey (dividers i : Nat) : String :=
  if i = 0 then "left-side" else if i ≤ dividers then numbered "divider-" (i - 1) else "right-side"

/-- The clear interval of a bay in a design: from the right face of one upright to the left face
    of the next. -/
def clearInterval (dividers : Nat) (design : DesignResult) (i : Nat) : Option (Int × Int) := do
  let left ← design.parts.find? fun part => part.semanticKey == uprightKey dividers i
  let right ← design.parts.find? fun part => part.semanticKey == uprightKey dividers (i + 1)
  return (left.placement.xUm + left.finishedSize.widthUm, right.placement.xUm)

theorem baysFrom_getElem? (t : Int) (index : Nat) (cursor : Int) (widths : List Int) {k : Nat}
    (hk : k < widths.length) : (baysFrom t index cursor widths)[k]? =
      some ⟨index + k, cursor + (widths.take k).sum + k * t, widths[k]⟩ := by
  induction widths generalizing index cursor k with
  | nil => exact absurd hk (Nat.not_lt_zero k)
  | cons width widths ih =>
    rw [baysFrom]
    cases k with
    | zero => simp
    | succ k =>
      rw [List.getElem?_cons_succ, ih _ _ (Nat.lt_of_succ_lt_succ hk)]
      simp only [List.take_succ_cons, List.sum_cons, List.getElem_cons_succ, Option.some.injEq,
        Bay.mk.injEq, and_true]
      push_cast
      exact ⟨by omega, by ring⟩

/-- A part that was made for a panel is found by the key of the panel. -/
theorem Compiled.find_part {hashing : Hashing} {spec : BookcaseDesignSpec} {design : DesignResult}
    (c : Compiled hashing spec design) (panel : Panel) (hpresent : panel.Present spec.parameters) :
    ∃ part, design.parts.find? (fun other =>
        other.semanticKey == (panel.plan spec.parameters c.capture).key) = some part ∧
      part.placement.xUm = (panel.plan spec.parameters c.capture).xUm ∧
      part.finishedSize.widthUm = (panel.plan spec.parameters c.capture).widthUm := by
  obtain ⟨part, hpart, hfits⟩ := c.exists_part panel hpresent
  have hfind := c.partByKey_eq hpart
  rw [partByKey, demand_eq_ok, hfits.semanticKey] at hfind
  refine ⟨{ part with features := featuresOf c.made part.partId }, ?_, hfits.xUm, hfits.widthUm⟩
  rw [c.design_parts, List.find?_map]
  show Option.map _ (c.parts.find? fun other => other.semanticKey == _) = _
  rw [hfind]
  rfl

section Built

variable {hashing : Hashing} {spec : BookcaseDesignSpec} {design : DesignResult}
variable (c : Compiled hashing spec design)
include c

/-- Where an upright stands. -/
theorem Compiled.upright (h : RatiosChecked spec.parameters) {i : Nat}
    (hi : i ≤ spec.parameters.verticalDividerCount + 1) :
    ∃ part, design.parts.find? (fun other =>
        other.semanticKey == uprightKey spec.parameters.verticalDividerCount i) = some part ∧
      part.placement.xUm = (spec.parameters.bayWidths.take i).sum +
        i * spec.parameters.actualThicknessUm ∧
      part.finishedSize.widthUm = spec.parameters.actualThicknessUm := by
  have hlength := BookcaseParameters.length_bayWidths spec.parameters
  rcases Nat.eq_zero_or_pos i with rfl | hpos
  · obtain ⟨part, hfind, hx, hwidth⟩ := c.find_part .leftSide trivial
    refine ⟨part, hfind, ?_, hwidth⟩
    rw [hx, List.take_zero, List.sum_nil]
    simp [Panel.plan, leftSidePlan]
  · by_cases hlast : i ≤ spec.parameters.verticalDividerCount
    · -- the divider at the end of bay `i - 1`
      obtain ⟨k, rfl⟩ : ∃ k, i = k + 1 := ⟨i - 1, by omega⟩
      have hk : k < spec.parameters.bayWidths.length := by omega
      have hbay := baysFrom_getElem? spec.parameters.actualThicknessUm 0
        spec.parameters.actualThicknessUm spec.parameters.bayWidths hk
      rw [← baysOf_eq, Nat.zero_add] at hbay
      obtain ⟨part, hfind, hx, hwidth⟩ := c.find_part (.divider _)
        ⟨List.mem_of_getElem? hbay, hlast⟩
      refine ⟨part, ?_, ?_, hwidth⟩
      · have hkey : uprightKey spec.parameters.verticalDividerCount (k + 1) =
            numbered "divider-" k := by
          rw [uprightKey, if_neg (Nat.succ_ne_zero k), if_pos hlast, Nat.add_sub_cancel]
        rw [hkey]
        exact hfind
      · rw [hx, List.sum_take_succ _ _ hk]
        simp only [Panel.plan, dividerPlan, Bay.endUm]
        push_cast
        ring
    · -- the right side
      have hi' : i = spec.parameters.verticalDividerCount + 1 := by omega
      obtain ⟨part, hfind, hx, hwidth⟩ := c.find_part .rightSide trivial
      refine ⟨part, ?_, ?_, hwidth⟩
      · have hkey : uprightKey spec.parameters.verticalDividerCount i = "right-side" := by
          rw [uprightKey, if_neg (by omega), if_neg hlast]
        rw [hkey]
        exact hfind
      · have hsum := BookcaseParameters.sum_bayWidths h.positive
        rw [hx, hi', ← hlength, List.take_length, hsum, hlength]
        simp only [Panel.plan, rightSidePlan, BookcaseParameters.clearWidth,
          BookcaseParameters.innerWidth]
        push_cast
        ring

/-- The clear intervals of the design are those of the bays. -/
theorem Compiled.clearInterval_eq (h : RatiosChecked spec.parameters) {i : Nat}
    (hi : i ≤ spec.parameters.verticalDividerCount) :
    clearInterval spec.parameters.verticalDividerCount design i =
      ((spec.parameters.bays)[i]?).map Bay.interval := by
  have hlength := BookcaseParameters.length_bayWidths spec.parameters
  have hi' : i < spec.parameters.bayWidths.length := by omega
  obtain ⟨left, hleft, hleftX, hleftWidth⟩ := c.upright h (i := i) (by omega)
  obtain ⟨right, hright, hrightX, -⟩ := c.upright h (i := i + 1) (by omega)
  have hbay := baysFrom_getElem? spec.parameters.actualThicknessUm 0
    spec.parameters.actualThicknessUm spec.parameters.bayWidths hi'
  rw [← baysOf_eq] at hbay
  unfold clearInterval BookcaseParameters.bays
  rw [hleft, hright, hbay]
  show some _ = some _
  rw [hleftX, hleftWidth, hrightX, List.sum_take_succ _ _ hi']
  simp only [Bay.interval, Bay.endUm, Option.some.injEq, Prod.mk.injEq]
  push_cast
  exact ⟨by ring, by ring⟩

end Built

/-! ## Agreement -/

/-- The intervals of two grids agree exactly where the widths do. -/
theorem intervals_eq_iff {t : Int} {widths widths' : List Int}
    (hlength : widths.length = widths'.length) :
    (∀ i < widths.length, ((baysOf t widths)[i]?).map Bay.interval =
      ((baysOf t widths')[i]?).map Bay.interval) ↔ widths = widths' := by
  constructor
  · intro h
    refine List.ext_getElem hlength fun i hi hi' => ?_
    have heq := h i hi
    rw [baysOf_eq, baysOf_eq, baysFrom_getElem? _ _ _ _ hi, baysFrom_getElem? _ _ _ _ hi'] at heq
    simp only [Option.map_some, Bay.interval, Bay.endUm, Option.some.injEq, Prod.mk.injEq] at heq
    omega
  · rintro rfl i _
    rfl

/-- The snap targets report the bays that are built exactly when the bays are in step. -/
theorem snapTargets_agree_iff {hashing : Hashing} {spec : BookcaseDesignSpec}
    {design : DesignResult} {targets : List SemanticSnapTarget}
    (hvalid : spec.validate = .ok ()) (hbuild : build hashing spec = .ok design)
    (htargets : deriveBookcaseSnapTargets spec = .ok targets) :
    (∀ i ≤ spec.parameters.verticalDividerCount, snapInterval targets i =
      clearInterval spec.parameters.verticalDividerCount design i) ↔
      BaysInStep spec.parameters := by
  have hratios := ratiosChecked_of_spec hvalid
  obtain ⟨c⟩ := compiled_of_build hbuild
  have hlength : (snapBayWidths spec.parameters).length = spec.parameters.bayWidths.length := by
    rw [length_snapBayWidths hratios, BookcaseParameters.length_bayWidths]
  rw [← snapBayWidths_eq_iff hratios, ← intervals_eq_iff (t := spec.parameters.actualThicknessUm)
    hlength, length_snapBayWidths hratios]
  constructor
  · intro h i hi
    have heq := h i (by omega)
    rw [snapInterval_eq htargets, c.clearInterval_eq hratios (by omega)] at heq
    exact heq
  · intro h i hi
    rw [snapInterval_eq htargets, c.clearInterval_eq hratios hi]
    exact h i (by omega)

/-- A carcass with three equal bays of 276 mm. -/
def threeBays : BookcaseParameters :=
  { shelfCount := 0, plinthHeightUm := 0, backPanel := .none, verticalDividerCount := 2 }

theorem threeBays_built :
    (plywoodBookcase threeBays).validate = .ok () ∧
      (∃ design, build namedHashing (plywoodBookcase threeBays) = .ok design) ∧
      ∃ targets, deriveBookcaseSnapTargets (plywoodBookcase threeBays) = .ok targets := by
  have hbuilt : (build namedHashing (plywoodBookcase threeBays)).isOk = true := by decide +kernel
  have htargets : (deriveBookcaseSnapTargets (plywoodBookcase threeBays)).isOk = true := by
    decide +kernel
  exact ⟨by decide +kernel, exists_eq_ok hbuilt, exists_eq_ok htargets⟩

theorem snapTargets_agree_iff_threeBays :
    (plywoodBookcase threeBays).validate = .ok () ∧ ∃ design targets,
      build namedHashing (plywoodBookcase threeBays) = .ok design ∧
      deriveBookcaseSnapTargets (plywoodBookcase threeBays) = .ok targets ∧
      ((∀ i ≤ 2, snapInterval targets i = clearInterval 2 design i) ↔ BaysInStep threeBays) := by
  obtain ⟨hvalid, ⟨design, hdesign⟩, targets, htargets⟩ := threeBays_built
  exact ⟨hvalid, design, targets, hdesign, htargets,
    snapTargets_agree_iff hvalid hdesign htargets⟩

/-- The snap targets report a first bay that is a micrometre wider than the one that is built. -/
theorem threeBays_disagree :
    (plywoodBookcase threeBays).validate = .ok () ∧ ∃ design targets,
      build namedHashing (plywoodBookcase threeBays) = .ok design ∧
      deriveBookcaseSnapTargets (plywoodBookcase threeBays) = .ok targets ∧
      ¬∀ i ≤ 2, snapInterval targets i = clearInterval 2 design i := by
  obtain ⟨hvalid, ⟨design, hdesign⟩, targets, htargets⟩ := threeBays_built
  refine ⟨hvalid, design, targets, hdesign, htargets, fun h => ?_⟩
  obtain ⟨c⟩ := compiled_of_build hdesign
  have hratios : RatiosChecked threeBays := ratiosChecked_of_validate (by decide +kernel)
  have hfirst := h 0 (by decide)
  have hclear : clearInterval 2 design 0 = ((threeBays.bays)[0]?).map Bay.interval :=
    c.clearInterval_eq hratios (Nat.zero_le _)
  rw [snapInterval_eq htargets, hclear] at hfirst
  exact absurd hfirst (by decide +kernel)

example : threeBays.bays.length = 3 := by decide +kernel

end Custombuild.Domain
