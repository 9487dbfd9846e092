/-
  The run of the automatic correction: the diffs it records lead from the given specification to
  the returned one, step by step, and every divider on the way lowers the structural score.
-/
import Custombuild.Rules.Correctable

namespace Custombuild.Rules

open Custombuild.Lib Custombuild.Domain

/-- One recorded step: from a candidate to the next, with the diff that is written for it. -/
structure Step (hashing : Hashing) (sequence : Nat) (before : Candidate) (diff : DesignDiff)
    (after : Candidate) : Prop where
  compiled : compile hashing after.spec = .ok after
  sequence : diff.sequence = sequence
  hashBefore : diff.designHashBefore = before.design.designHash
  hashAfter : diff.designHashAfter = after.design.designHash
  /-- A divider is one more, is recorded so, and lowers the score. -/
  divider : diff.actionType = .addVerticalDivider →
    structuralScore after.report < structuralScore before.report ∧
      after.spec.parameters.verticalDividerCount =
        before.spec.parameters.verticalDividerCount + 1 ∧
      diff.changes = [⟨"parameters.vertical_divider_count",
        .int before.spec.parameters.verticalDividerCount,
        .int after.spec.parameters.verticalDividerCount⟩]
  /-- The other steps keep the dividers. -/
  other : diff.actionType ≠ .addVerticalDivider →
    after.spec.parameters.verticalDividerCount = before.spec.parameters.verticalDividerCount

/-- The recorded steps from a first candidate. -/
inductive Run (hashing : Hashing) (first : Candidate) : List DesignDiff → Candidate → Prop
  | start : Run hashing first [] first
  | step {diffs : List DesignDiff} {before after : Candidate} {diff : DesignDiff} :
      Run hashing first diffs before → Step hashing (diffs.length + 1) before diff after →
      Run hashing first (diffs ++ [diff]) after

section Steps

variable {hashing : Hashing} {state next : Correction} {goesOn : Bool}

theorem compile_of_replace {spec : BookcaseDesignSpec} {parameters : BookcaseParameters}
    {candidate : Candidate} (h : replaceParameters hashing spec parameters = .ok candidate) :
    compile hashing candidate.spec = .ok candidate ∧ candidate.spec.parameters = parameters := by
  obtain ⟨-, hcompile⟩ := replaceParameters_ok h
  have hspec := compile_spec hcompile
  rw [hspec]
  exact ⟨hcompile, rfl⟩

/-- What a round may do: nothing, or one step. -/
def Advances (hashing : Hashing) (state next : Correction) : Prop :=
  next = state ∨ ∃ diff, next.diffs = state.diffs ++ [diff] ∧
    Step hashing (state.diffs.length + 1) state.toCandidate diff next.toCandidate

theorem tryDivider_advances (h : tryDivider hashing state = .ok (next, goesOn)) :
    Advances hashing state next := by
  unfold tryDivider at h
  simp only at h
  split at h
  · cases h
    exact Or.inl rfl
  · rw [bind_eq_ok] at h
    obtain ⟨candidate, hcandidate, h⟩ := h
    split at h
    · cases h
      exact Or.inl rfl
    · next hscore =>
      cases h
      obtain ⟨hcompile, hparameters⟩ := compile_of_replace hcandidate
      have hcount : candidate.spec.parameters.verticalDividerCount =
          state.spec.parameters.verticalDividerCount + 1 := by
        rw [hparameters]
        rfl
      refine Or.inr ⟨_, rfl, hcompile, rfl, rfl, rfl, fun _ => ⟨lt_of_not_ge hscore, hcount, ?_⟩,
        fun hother => absurd rfl hother⟩
      show [_] = [_]
      rw [Correction.accept, hcount]
      rfl

theorem tryBack_advances (h : tryBack hashing state = .ok (next, goesOn)) :
    Advances hashing state next := by
  unfold tryBack at h
  split at h
  · cases h
    exact Or.inl rfl
  · rw [bind_eq_ok] at h
    obtain ⟨candidate, hcandidate, heq⟩ := h
    cases heq
    obtain ⟨hcompile, hparameters⟩ := compile_of_replace hcandidate
    refine Or.inr ⟨_, rfl, hcompile, rfl, rfl, rfl, ActionType.noConfusion, fun _ => ?_⟩
    show candidate.spec.parameters.verticalDividerCount = _
    rw [hparameters]
    rfl

theorem tryAnchor_advances (h : tryAnchor hashing state = .ok (next, goesOn)) :
    Advances hashing state next := by
  unfold tryAnchor at h
  split at h
  · rw [bind_eq_ok] at h
    obtain ⟨candidate, hcandidate, heq⟩ := h
    cases heq
    obtain ⟨hcompile, hparameters⟩ := compile_of_replace hcandidate
    refine Or.inr ⟨_, rfl, hcompile, rfl, rfl, rfl, ActionType.noConfusion, fun _ => ?_⟩
    show candidate.spec.parameters.verticalDividerCount = _
    rw [hparameters]
    rfl
  · cases h
    exact Or.inl rfl

theorem correctOnce_advances (h : correctOnce hashing state = .ok (next, goesOn)) :
    Advances hashing state next := by
  unfold correctOnce at h
  split at h
  · exact tryDivider_advances h
  · split at h
    · exact tryBack_advances h
    · exact tryAnchor_advances h

/-- A round extends the run by at most one step. -/
theorem Run.advance {first : Candidate} (hrun : Run hashing first state.diffs state.toCandidate)
    (h : Advances hashing state next) : Run hashing first next.diffs next.toCandidate ∧
      next.diffs.length ≤ state.diffs.length + 1 := by
  rcases h with rfl | ⟨diff, hdiffs, hstep⟩
  · exact ⟨hrun, Nat.le_succ _⟩
  · rw [hdiffs]
    exact ⟨hrun.step hstep, by simp⟩

/-- The loop extends the run by at most one step for each round. -/
theorem correctLoop_run {first : Candidate} {rounds : Nat} {final : Correction}
    (hrun : Run hashing first state.diffs state.toCandidate)
    (h : correctLoop hashing rounds state = .ok final) :
    Run hashing first final.diffs final.toCandidate ∧
      final.diffs.length ≤ state.diffs.length + rounds := by
  induction rounds generalizing state with
  | zero =>
    cases h
    exact ⟨hrun, Nat.le_refl _⟩
  | succ rounds ih =>
    rw [correctLoop, bind_eq_ok] at h
    obtain ⟨⟨next, goesOn⟩, hround, h⟩ := h
    obtain ⟨hnext, hlength⟩ := hrun.advance (correctOnce_advances hround)
    simp only at h
    split at h
    · obtain ⟨hfinal, hbound⟩ := ih hnext h
      exact ⟨hfinal, by omega⟩
    · cases h
      exact ⟨hnext, by omega⟩

end Steps

/-! ## The diffs of a run -/

/-- The hashes of the diffs link up: each begins where the one before it ended. -/
def Linked : String → List DesignDiff → String → Prop
  | first, [], last => first = last
  | first, diff :: diffs, last =>
    diff.designHashBefore = first ∧ Linked diff.designHashAfter diffs last

/-- How many of the diffs add a divider. -/
def dividerSteps (diffs : List DesignDiff) : Nat :=
  diffs.countP fun diff => diff.actionType == .addVerticalDivider

theorem Linked.snoc {first middle last : String} {diffs : List DesignDiff} {diff : DesignDiff}
    (hlinked : Linked first diffs middle) (hbefore : diff.designHashBefore = middle)
    (hafter : diff.designHashAfter = last) : Linked first (diffs ++ [diff]) last := by
  induction diffs generalizing first with
  | nil =>
    rw [Linked] at hlinked
    rw [List.nil_append, Linked, Linked]
    exact ⟨hbefore.trans hlinked.symm, hafter⟩
  | cons head diffs ih =>
    rw [Linked] at hlinked
    rw [List.cons_append, Linked]
    exact ⟨hlinked.1, ih hlinked.2⟩

section Diffs

variable {hashing : Hashing} {first final : Candidate} {diffs : List DesignDiff}

theorem Run.sequences (hrun : Run hashing first diffs final) :
    diffs.map DesignDiff.sequence = List.range' 1 diffs.length := by
  induction hrun with
  | start => rfl
  | step hrun hstep ih =>
    rw [List.map_append, ih, List.length_append, List.length_singleton, List.range'_concat,
      List.map_singleton, hstep.sequence, Nat.one_mul, Nat.add_comm]

theorem Run.linked (hrun : Run hashing first diffs final) :
    Linked first.design.designHash diffs final.design.designHash := by
  induction hrun with
  | start => rfl
  | step hrun hstep ih => exact ih.snoc hstep.hashBefore hstep.hashAfter

/-- The dividers grow by the recorded divider steps, and by nothing else. -/
theorem Run.dividers (hrun : Run hashing first diffs final) :
    final.spec.parameters.verticalDividerCount =
      first.spec.parameters.verticalDividerCount + dividerSteps diffs := by
  induction hrun with
  | start => rfl
  | @step diffs before after diff hrun hstep ih =>
    unfold dividerSteps at ih ⊢
    rw [List.countP_append, List.countP_singleton]
    by_cases haction : diff.actionType = .addVerticalDivider
    · obtain ⟨-, hcount, -⟩ := hstep.divider haction
      rw [hcount, ih, if_pos (beq_iff_eq.mpr haction), Nat.add_assoc]
    · rw [hstep.other haction, ih, if_neg (by simpa using haction), Nat.add_zero]

theorem Run.compiled (hrun : Run hashing first diffs final)
    (hfirst : compile hashing first.spec = .ok first) : compile hashing final.spec = .ok final := by
  cases hrun with
  | start => exact hfirst
  | step hrun hstep => exact hstep.compiled

end Diffs

/-- What is promised of a result: its diffs are a run of improving steps from the specification
    that was given to the one that is returned. -/
structure ImprovingChain (hashing : Hashing) (spec : BookcaseDesignSpec) (maxIterations : Nat)
    (result : AutoCorrectionResult) : Prop where
  run : Run hashing ⟨spec, result.originalDesign, result.initialReport⟩ result.diffs
    ⟨result.correctedSpec, result.correctedDesign, result.finalReport⟩
  original : build hashing spec = .ok result.originalDesign ∧
    evaluate result.originalDesign = .ok result.initialReport
  corrected : build hashing result.correctedSpec = .ok result.correctedDesign ∧
    evaluate result.correctedDesign = .ok result.finalReport
  sequences : result.diffs.map DesignDiff.sequence = List.range' 1 result.diffs.length
  linked : Linked result.originalDesign.designHash result.diffs result.correctedDesign.designHash
  dividers : result.correctedSpec.parameters.verticalDividerCount =
    spec.parameters.verticalDividerCount + dividerSteps result.diffs
  bounded : result.diffs.length ≤ maxIterations ∧ maxIterations ≤ 32
  unchanged : spec.parameters.reinforcementMode ≠ .auto →
    result.correctedSpec = spec ∧ result.diffs = []

section Result

variable {hashing : Hashing} {spec : BookcaseDesignSpec}

theorem compile_parts {candidate : Candidate} (h : compile hashing spec = .ok candidate) :
    build hashing spec = .ok candidate.design ∧
      evaluate candidate.design = .ok candidate.report := by
  simp only [compile, bind_eq_ok] at h
  obtain ⟨design, hdesign, report, hreport, hcandidate⟩ := h
  cases hcandidate
  exact ⟨hdesign, hreport⟩

/-- A run from the given specification gives the whole chain. -/
theorem Run.improvingChain {original : Candidate} {final : Correction} {maxIterations : Nat}
    (horiginal : compile hashing spec = .ok original)
    (hrun : Run hashing original final.diffs final.toCandidate)
    (hbounded : final.diffs.length ≤ maxIterations ∧ maxIterations ≤ 32)
    (hunchanged : spec.parameters.reinforcementMode ≠ .auto →
      final.toCandidate = original ∧ final.diffs = []) :
    ImprovingChain hashing spec maxIterations (resultOf original final) := by
  have hspec := compile_spec horiginal
  subst hspec
  exact
    { run := hrun
      original := compile_parts horiginal
      corrected := compile_parts (hrun.compiled horiginal)
      sequences := hrun.sequences
      linked := hrun.linked
      dividers := hrun.dividers
      bounded := hbounded
      unchanged := fun hmode => ⟨congrArg Candidate.spec (hunchanged hmode).1, (hunchanged hmode).2⟩ }

/-- Whatever the correction returns is an improving chain. -/
theorem autoCorrect_improvingChain {maxIterations : Nat} {result : AutoCorrectionResult}
    (h : autoCorrect hashing spec maxIterations = .ok result) :
    ImprovingChain hashing spec maxIterations result := by
  unfold autoCorrect at h
  rw [bind_eq_ok] at h
  obtain ⟨⟨⟩, hiterations, h⟩ := h
  rw [bind_eq_ok] at h
  obtain ⟨original, horiginal, h⟩ := h
  rw [require_eq_ok, Bool.and_eq_true, decide_eq_true_eq, decide_eq_true_eq] at hiterations
  split at h
  · next hmode =>
    cases h
    exact Run.improvingChain horiginal .start ⟨Nat.zero_le _, hiterations.2⟩
      fun _ => ⟨rfl, rfl⟩
  · next hmode =>
    rw [bind_eq_ok] at h
    obtain ⟨final, hfinal, h⟩ := h
    cases h
    have hstart : Run hashing original [] ({ toCandidate := original } : Correction).toCandidate :=
      .start
    obtain ⟨hrun, hlength⟩ := correctLoop_run hstart hfinal
    refine Run.improvingChain horiginal hrun ⟨?_, hiterations.2⟩ fun h => absurd h hmode
    simpa using hlength

end Result

/-- The correction of the bare carcass is an anchor. -/
theorem pushedCarcass_improvingChain :
    ∃ result, autoCorrect namedHashing (plywoodBookcase pushedCarcass) 8 = .ok result ∧
      result.correctedSpec = registerIn (plywoodBookcase pushedCarcass) ∧
      ImprovingChain namedHashing (plywoodBookcase pushedCarcass) 8 result := by
  obtain ⟨result, hresult, hchecks⟩ := exists_of_okAnd pushedCarcass_corrected
  simp only [Bool.and_eq_true, beq_iff_eq] at hchecks
  exact ⟨result, hresult, hchecks.1.2, autoCorrect_improvingChain hresult⟩

end Custombuild.Rules
