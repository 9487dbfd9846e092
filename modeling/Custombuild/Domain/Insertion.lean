/-
  The position that an intent inserts among the stored ones: it goes into an opening with room
  for the gap on both sides, under the pointer or else into the widest, and an opening is refused
  only where none has room.
-/
import Custombuild.Domain.AddDivider

namespace Custombuild.Domain

open Custombuild.Lib

/-! ## Openings -/

/-- Nothing of a sorted list stands between two neighbours. -/
theorem outside_neighbours {l : List Int} (hsorted : l.Pairwise (· ≤ ·)) {a b : Int}
    (hab : (a, b) ∈ l.zip l.tail) : ∀ x ∈ l, x ≤ a ∨ b ≤ x := by
  induction l with
  | nil => cases hab
  | cons c l ih =>
    rw [List.pairwise_cons] at hsorted
    cases l with
    | nil => cases hab
    | cons d l =>
      rw [List.tail_cons, List.zip_cons_cons] at hab
      intro x hx
      rcases List.mem_cons.mp hab with heq | hrest
      · obtain ⟨rfl, rfl⟩ := Prod.mk.inj heq
        rcases List.mem_cons.mp hx with rfl | hx
        · exact .inl le_rfl
        · rcases List.mem_cons.mp hx with rfl | hx
          · exact .inr le_rfl
          · exact .inr ((List.pairwise_cons.mp hsorted.2).1 x hx)
      · rcases List.mem_cons.mp hx with rfl | hx
        · exact .inl (hsorted.1 a (List.of_mem_zip hrest).1)
        · exact ih hsorted.2 hrest x hx

/-- The positions with the ends of the whole. -/
def bounded (existing : List Int) : List Int := 0 :: (existing ++ [wholePpm])

theorem openingsOf_eq (existing : List Int) :
    openingsOf existing = (bounded existing).zip (bounded existing).tail := rfl

/-- The existing positions stand in order between the ends. -/
structure Sorted (existing : List Int) : Prop where
  ordered : existing.Pairwise (· ≤ ·)
  inside : ∀ position ∈ existing, 0 < position ∧ position < wholePpm

theorem Sorted.bounded {existing : List Int} (h : Sorted existing) :
    (bounded existing).Pairwise (· ≤ ·) := by
  have hwhole : (0 : Int) ≤ wholePpm := by decide
  rw [Domain.bounded, List.pairwise_cons, List.pairwise_append]
  refine ⟨?_, h.ordered, List.pairwise_singleton _ _, ?_⟩
  · intro x hx
    rcases List.mem_append.mp hx with hx | hx
    · exact (h.inside x hx).1.le
    · rw [List.mem_singleton.mp hx]
      exact hwhole
  · intro x hx y hy
    rw [List.mem_singleton.mp hy]
    exact (h.inside x hx).2.le

/-! ## The inserted position -/

section Position

variable {existing : List Int} {requested minimumGap value : Int}

/-- The position keeps the gap to both ends of an opening. -/
def HasRoom (existing : List Int) (minimumGap value : Int) : Prop :=
  ∃ opening ∈ openingsOf existing,
    minimumGap ≤ value - opening.1 ∧ minimumGap ≤ opening.2 - value

theorem hasRoom_of_direct (h : directPosition existing requested minimumGap = some value) :
    HasRoom existing minimumGap value := by
  unfold directPosition at h
  split at h
  · cases h
  · rename_i left right hfind
    refine ⟨(left, right), List.mem_of_find?_eq_some hfind, ?_⟩
    split at h
    · cases h
    · simp only [Option.ite_none_right_eq_some, Option.some.injEq] at h
      obtain ⟨-, rfl⟩ := h
      simp only
      omega

theorem hasRoom_of_widest (h : widestPosition existing minimumGap = some value) :
    HasRoom existing minimumGap value := by
  obtain ⟨candidate, hcandidate, rfl⟩ := Option.map_eq_some_iff.mp h
  obtain ⟨opening, hopening, rfl⟩ := List.mem_map.mp (minBy_mem hcandidate)
  obtain ⟨hmem, hroom⟩ := List.mem_filter.mp hopening
  rw [decide_eq_true_eq] at hroom
  refine ⟨opening, hmem, ?_⟩
  simp only
  omega

theorem widestPosition_eq_none : widestPosition existing minimumGap = none ↔
    ∀ opening ∈ openingsOf existing, opening.2 - opening.1 < minimumGap * 2 := by
  rw [widestPosition, Option.map_eq_none_iff, minBy_eq_none, List.map_eq_nil_iff,
    List.filter_eq_nil_iff]
  simp only [decide_eq_true_eq, not_le]

/-- No position is found exactly where no opening has room for the gap twice. -/
theorem position_eq_none :
    (directPosition existing requested minimumGap).or (widestPosition existing minimumGap) = none ↔
      ∀ opening ∈ openingsOf existing, opening.2 - opening.1 < minimumGap * 2 := by
  rw [Option.or_eq_none_iff, widestPosition_eq_none, and_iff_right_iff_imp]
  intro hnone
  rw [Option.eq_none_iff_forall_ne_some]
  intro value hvalue
  obtain ⟨opening, hopening, hleft, hright⟩ := hasRoom_of_direct hvalue
  have hshort := hnone opening hopening
  omega

/-- What a position with room keeps from everything else. -/
theorem HasRoom.apart (h : HasRoom existing minimumGap value) (hsorted : Sorted existing) :
    minimumGap ≤ value ∧ minimumGap ≤ wholePpm - value ∧
      ∀ current ∈ existing, minimumGap ≤ |value - current| := by
  obtain ⟨⟨left, right⟩, hopening, hleft, hright⟩ := h
  rw [openingsOf_eq] at hopening
  have houtside := outside_neighbours hsorted.bounded hopening
  have hmem := List.of_mem_zip hopening
  have hends : ∀ x ∈ bounded existing, 0 ≤ x ∧ x ≤ wholePpm := by
    intro x hx
    rcases List.mem_cons.mp hx with rfl | hx
    · decide
    · rcases List.mem_append.mp hx with hx | hx
      · exact ⟨(hsorted.inside x hx).1.le, (hsorted.inside x hx).2.le⟩
      · rw [List.mem_singleton.mp hx]
        decide
  have hfirst := hends left hmem.1
  have hsecond := hends right (List.mem_of_mem_tail hmem.2)
  simp only at hleft hright
  refine ⟨by omega, by omega, ?_⟩
  intro current hcurrent
  rcases houtside current (List.mem_cons_of_mem _ (List.mem_append_left _ hcurrent)) with hle | hle
  · exact le_trans (by omega) (le_abs_self _)
  · rw [abs_sub_comm]
    exact le_trans (by omega) (le_abs_self _)

end Position

/-- The existing positions and one more, in order, with the gap to all of them and to the ends. -/
structure Inserts (existing : List Int) (minimumGap : Int) (after : List Int) : Prop where
  one_more : ∃ value, after.Perm (value :: existing) ∧ minimumGap ≤ value ∧
    minimumGap ≤ wholePpm - value ∧ ∀ current ∈ existing, minimumGap ≤ |value - current|
  sorted : after.Pairwise (· ≤ ·)

theorem inserts_of_ok {existing after : List Int} {requested minimumGap : Int}
    (hsorted : Sorted existing)
    (h : insertConstrainedPosition existing requested minimumGap = .ok after) :
    Inserts existing minimumGap after := by
  simp only [insertConstrainedPosition, bind_eq_ok, demand_eq_ok] at h
  obtain ⟨value, hvalue, hret⟩ := h
  obtain rfl := Except.ok.inj hret
  have hroom : HasRoom existing minimumGap value := by
    rcases Option.or_eq_some_iff.mp hvalue with hdirect | ⟨-, hwidest⟩
    · exact hasRoom_of_direct hdirect
    · exact hasRoom_of_widest hwidest
  refine ⟨⟨value, ?_, hroom.apart hsorted⟩, sortBy_pairwise id _⟩
  exact (sortBy_perm id _).trans (List.perm_append_singleton value existing)

theorem insert_error_iff {existing : List Int} {requested minimumGap : Int} :
    (∃ error, insertConstrainedPosition existing requested minimumGap = .error error) ↔
      ∀ opening ∈ openingsOf existing, opening.2 - opening.1 < minimumGap * 2 := by
  have hnone := @position_eq_none existing requested minimumGap
  rw [← hnone, insertConstrainedPosition]
  cases (directPosition existing requested minimumGap).or (widestPosition existing minimumGap) with
  | none => exact ⟨fun _ => rfl, fun _ => ⟨_, rfl⟩⟩
  | some value =>
    constructor
    · intro h
      obtain ⟨error, herror⟩ := h
      cases herror
    · intro h
      cases h

/-! ## The ratio rules -/

/-- The ratio rules of `validate_geometry`. -/
structure RatioRules (p : BookcaseParameters) : Prop where
  bays : p.bayWidthRatiosPpm ≠ [] → p.bayWidthRatiosPpm.length = p.verticalDividerCount + 1 ∧
    ∀ ratio ∈ p.bayWidthRatiosPpm, p.bayWidthRatiosPpm.sum * 8 ≤ ratio * 100
  shelves : p.shelfHeightRatiosPpm ≠ [] → p.shelfHeightRatiosPpm.length = p.shelfCount ∧
    (∀ value ∈ p.shelfHeightRatiosPpm, 50000 ≤ value ∧ value ≤ 950000) ∧
    p.shelfHeightRatiosPpm.IsChain fun value next => 50000 ≤ next - value

theorem centres_of_ordered {centres : List Int}
    (h : BookcaseParameters.centresOrdered centres = true) :
    (∀ value ∈ centres, 50000 ≤ value ∧ value ≤ 950000) ∧
      centres.IsChain fun value next => 50000 ≤ next - value := by
  fun_induction BookcaseParameters.centresOrdered centres with
  | case1 => exact ⟨fun _ hvalue => absurd hvalue List.not_mem_nil, List.IsChain.nil⟩
  | case2 value =>
    rw [Bool.and_eq_true, decide_eq_true_eq, decide_eq_true_eq] at h
    exact ⟨List.forall_mem_singleton.mpr h, List.IsChain.singleton _⟩
  | case3 value next rest ih =>
    simp only [Bool.and_eq_true, decide_eq_true_eq] at h
    obtain ⟨⟨hrange, hgap⟩, hrest⟩ := h
    obtain ⟨hranges, hchain⟩ := ih hrest
    exact ⟨List.forall_mem_cons.mpr ⟨hrange, hranges⟩, List.IsChain.cons_cons hgap hchain⟩

theorem ratioRules_of_validate {p : BookcaseParameters} (h : p.validate = .ok ()) :
    RatioRules p := by
  simp only [BookcaseParameters.validate, BookcaseParameters.validateGeometry, bind_eq_ok] at h
  obtain ⟨-, -, ⟨⟩, -, ⟨⟩, hbays, ⟨⟩, hshelves, -⟩ := h
  refine ⟨?_, ?_⟩
  · intro hne
    rw [BookcaseParameters.checkBayRatios, if_pos hne] at hbays
    simpa [bind_eq_ok] using hbays
  · intro hne
    rw [BookcaseParameters.checkShelfRatios, if_pos hne] at hshelves
    simp only [bind_eq_ok, require_eq_ok, decide_eq_true_eq] at hshelves
    obtain ⟨⟨⟩, hcount, hordered⟩ := hshelves
    exact ⟨hcount, centres_of_ordered hordered⟩

/-- Insertion adds one position with the gap to everything, in order, or raises where no opening
    is twice the gap; and what an accepted addition leaves behind meets the ratio rules. -/
theorem insertion_sound_complete :
    (∀ (existing : List Int) (requested minimumGap : Int), Sorted existing →
      (∀ after, insertConstrainedPosition existing requested minimumGap = .ok after →
        Inserts existing minimumGap after) ∧
      ((∃ error, insertConstrainedPosition existing requested minimumGap = .error error) ↔
        ∀ opening ∈ openingsOf existing, opening.2 - opening.1 < minimumGap * 2)) ∧
    ∀ (spec : BookcaseDesignSpec) (intent : SemanticIntent) (userConfirmed : Bool)
      (result : SemanticCompilationResult), intent.action = .add →
      compileSemanticIntent spec intent userConfirmed = .ok result →
      RatioRules result.spec.parameters := by
  refine ⟨?_, ?_⟩
  · intro existing requested minimumGap hsorted
    exact ⟨fun after h => inserts_of_ok hsorted h, insert_error_iff⟩
  · intro spec intent userConfirmed result _ hcompile
    exact ratioRules_of_validate (accepted_of_compile hcompile).valid

/-- A divider on the right of a stored one, asked for too near to it. -/
theorem insertion_sound_complete_right :
    (∃ after, insertConstrainedPosition [499900] 510000 80000 = .ok after ∧
      Inserts [499900] 80000 after) ∧
    ∃ result, compileSemanticIntent (plywoodBookcase shortRatios) dividerOnTheRight false =
      .ok result ∧ RatioRules result.spec.parameters := by
  have hsorted : Sorted [499900] := ⟨List.pairwise_singleton _ _, by decide⟩
  have hinsert : okAnd (insertConstrainedPosition [499900] 510000 80000) (fun _ => true) = true := by
    decide +kernel
  obtain ⟨after, hafter, -⟩ := exists_of_okAnd hinsert
  obtain ⟨-, result, hresult, -⟩ := shortRatios_accepted
  exact ⟨⟨after, hafter, (insertion_sound_complete.1 _ _ _ hsorted).1 after hafter⟩,
    result, hresult, insertion_sound_complete.2 _ _ _ _ rfl hresult⟩

end Custombuild.Domain
