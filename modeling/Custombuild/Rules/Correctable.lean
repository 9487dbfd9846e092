/-
  When the automatic correction returns.

  Only a divider can make it raise: an anchor changes nothing that is compiled, and a back is
  never added because a specification without one has no material for it.  So the correction
  returns exactly when every specification with more dividers that it comes to is accepted.
-/
import Custombuild.Rules.Anchor

namespace Custombuild.Rules

open Custombuild.Lib Custombuild.Domain

section Loop

variable (hashing : Hashing) (spec : BookcaseDesignSpec)

/-- The parameters with a number of dividers more. -/
def withDividers (p : BookcaseParameters) : Nat → BookcaseParameters
  | 0 => p
  | count + 1 => withDivider (withDividers p count)

/-- The specification with a number of dividers more, compiled and evaluated. -/
def candidateAt : Nat → Except ValueError Candidate
  | 0 => compile hashing spec
  | count + 1 => replaceParameters hashing spec (withDividers spec.parameters (count + 1))

/-- With so many dividers more, shelves or joints still fail and another divider may be tried. -/
def NeedsDivider (count : Nat) : Prop :=
  ∃ candidate, candidateAt hashing spec count = .ok candidate ∧
    structuralFailure candidate = true ∧
    spec.parameters.verticalDividerCount + count < maxAutoVerticalDividers

/-- The next divider lowers the score. -/
def Improves (count : Nat) : Prop :=
  ∃ candidate candidate', candidateAt hashing spec count = .ok candidate ∧
    candidateAt hashing spec (count + 1) = .ok candidate' ∧
    structuralScore candidate'.report < structuralScore candidate.report

/-- Every specification with more dividers that the correction comes to is accepted, and so is
    the evaluation of the given one. -/
structure Correctable (maxIterations : Nat) : Prop where
  evaluated : ∃ candidate, candidateAt hashing spec 0 = .ok candidate
  accepted : ∀ count < maxIterations, (∀ k ≤ count, NeedsDivider hashing spec k) →
    (∀ k < count, Improves hashing spec k) → ∃ candidate, candidateAt hashing spec (count + 1) =
      .ok candidate

variable {hashing spec}

theorem compile_spec {candidate : Candidate} (h : compile hashing spec = .ok candidate) :
    candidate.spec = spec := by
  simp only [compile, bind_eq_ok] at h
  obtain ⟨design, -, report, -, hcandidate⟩ := h
  cases hcandidate
  rfl

theorem replaceParameters_ok {parameters : BookcaseParameters} {candidate : Candidate}
    (h : replaceParameters hashing spec parameters = .ok candidate) :
    { spec with parameters := parameters }.validate = .ok () ∧
      compile hashing { spec with parameters := parameters } = .ok candidate := by
  simp only [replaceParameters, bind_eq_ok] at h
  obtain ⟨-, -, ⟨⟩, hvalid, hcompile⟩ := h
  exact ⟨hvalid, hcompile⟩

theorem withDividers_count (p : BookcaseParameters) (count : Nat) :
    (withDividers p count).verticalDividerCount = p.verticalDividerCount + count := by
  induction count with
  | zero => rfl
  | succ count ih =>
    show (withDividers p count).verticalDividerCount + 1 = _
    omega

/-- A candidate is the specification with its dividers, valid and compiled. -/
theorem candidateAt_ok (hvalid : spec.validate = .ok ()) {count : Nat} {candidate : Candidate}
    (h : candidateAt hashing spec count = .ok candidate) :
    candidate.spec = { spec with parameters := withDividers spec.parameters count } ∧
      candidate.spec.validate = .ok () ∧ compile hashing candidate.spec = .ok candidate := by
  cases count with
  | zero =>
    have hspec := compile_spec h
    refine ⟨hspec, ?_, ?_⟩
    · rw [hspec]
      exact hvalid
    · rw [hspec]
      exact h
  | succ count =>
    obtain ⟨hvalid', hcompile⟩ := replaceParameters_ok h
    have hspec := compile_spec hcompile
    refine ⟨hspec, ?_, ?_⟩
    · rw [hspec]
      exact hvalid'
    · rw [hspec]
      exact hcompile

/-- Without a back there is no material for one. -/
theorem backMaterial_none (hvalid : spec.validate = .ok ()) (h : spec.parameters.backPanel = .none) :
    spec.backMaterial = none := by
  simp only [BookcaseDesignSpec.validate, bind_eq_ok] at hvalid
  obtain ⟨-, -, -, -, -, -, -, -, -, -, -, -, ⟨⟩, hmaterial, -⟩ := hvalid
  simp only [BookcaseDesignSpec.validateMaterial, bind_eq_ok, require_eq_ok, h, ne_eq,
    not_true_eq_false, if_false] at hmaterial
  obtain ⟨-, -, -, -, hnone⟩ := hmaterial
  exact Option.isNone_iff_eq_none.mp hnone

/-! ## The rounds that cannot raise -/

/-- No back is added to a valid specification. -/
theorem tryBack_ok (hvalid : spec.validate = .ok ()) (hback : spec.parameters.backPanel = .none)
    {state : Correction} (hstate : state.spec = spec) :
    tryBack hashing state = .ok (state, false) := by
  rw [tryBack, hstate, backMaterial_none hvalid hback]
  rfl

/-- Every rule of a report returns on the registered design, too. -/
theorem evaluate_registered {design : DesignResult} {report : RuleReport}
    (h : evaluate design = .ok report) (hash : String) :
    ∃ report', evaluate { design with designHash := hash, spec := registerIn design.spec } =
      .ok report' := by
  obtain ⟨e⟩ := evaluated_of_ok h
  obtain ⟨tip, htip, -⟩ := tipRisk_registered e.tip_eq hash
  simp only [evaluate, bind_eq_ok]
  exact ⟨_, e.deflection, e.deflection_eq, e.bending, e.bending_eq, e.joint, e.joint_eq,
    e.stability, e.stability_eq, tip, htip, e.cabinets, e.cabinets_eq, rfl⟩

/-- An anchor can be registered in every compiled specification. -/
theorem replaceParameters_registered (hvalid : spec.validate = .ok ()) {candidate : Candidate}
    (h : compile hashing spec = .ok candidate) :
    ∃ candidate', replaceParameters hashing spec (registerAnchor spec.parameters) =
      .ok candidate' := by
  simp only [compile, bind_eq_ok] at h
  obtain ⟨design, hdesign, report, hreport, -⟩ := h
  obtain ⟨hash, hbuild⟩ := build_registerIn hdesign
  obtain ⟨report', hreport'⟩ := evaluate_registered hreport hash
  rw [spec_of_build hdesign] at hreport'
  simp only [replaceParameters, compile, bind_eq_ok]
  exact ⟨_, (), registerAnchor_validate (parameters_valid hvalid), (), registerIn_validate hvalid,
    _, hbuild, report', hreport', rfl⟩

theorem tryAnchor_ok (hvalid : spec.validate = .ok ()) {state : Correction}
    (hstate : state.spec = spec) (hcompiled : compile hashing spec = .ok state.toCandidate) :
    ∃ next, tryAnchor hashing state = .ok (next, false) := by
  unfold tryAnchor
  split
  · obtain ⟨candidate, hcandidate⟩ := replaceParameters_registered hvalid hcompiled
    rw [hstate]
    simp only [bind_eq_ok]
    exact ⟨_, candidate, hcandidate, rfl⟩
  · exact ⟨state, rfl⟩

/-- A round without a structural failure returns and is the last one. -/
theorem correctOnce_ok (hvalid : spec.validate = .ok ()) {state : Correction}
    (hstate : state.spec = spec) (hcompiled : compile hashing spec = .ok state.toCandidate)
    (hfailure : structuralFailure state.toCandidate = false) :
    ∃ next, correctOnce hashing state = .ok (next, false) := by
  rw [correctOnce, if_neg (by simp [hfailure])]
  split
  · next hback =>
    rw [hstate] at hback
    exact ⟨state, tryBack_ok hvalid hback.2 hstate⟩
  · exact tryAnchor_ok hvalid hstate hcompiled

/-! ## The rounds with dividers -/

/-- A divider more is the next candidate. -/
theorem replaceParameters_withDivider {count : Nat} {candidate : Candidate}
    (h : candidate.spec = { spec with parameters := withDividers spec.parameters count }) :
    replaceParameters hashing candidate.spec (withDivider candidate.spec.parameters) =
      candidateAt hashing spec (count + 1) := by
  rw [h]
  rfl

theorem correctLoop_of_last {state next : Correction} {rounds : Nat}
    (h : correctOnce hashing state = .ok (next, false)) :
    correctLoop hashing (rounds + 1) state = .ok next := by
  rw [correctLoop, h]
  rfl

section Round

variable {state : Correction} {count : Nat}
  (hstate : candidateAt hashing spec count = .ok state.toCandidate)

include hstate

/-- A divider is tried where the candidate needs one, and raises where the next one does. -/
theorem correctOnce_divider (hvalid : spec.validate = .ok ())
    (hfailure : structuralFailure state.toCandidate = true)
    (hroom : spec.parameters.verticalDividerCount + count < maxAutoVerticalDividers) :
    correctOnce hashing state = (do
      let candidate ← candidateAt hashing spec (count + 1)
      if structuralScore state.report ≤ structuralScore candidate.report then return (state, false)
      else
        return (state.accept candidate .addVerticalDivider (dividerReason state.report)
          ⟨"parameters.vertical_divider_count",
            .int (spec.parameters.verticalDividerCount + count : Nat),
            .int ((spec.parameters.verticalDividerCount + count : Nat) + 1)⟩, true)) := by
  obtain ⟨hspec, -⟩ := candidateAt_ok hvalid hstate
  have hcount : state.spec.parameters.verticalDividerCount =
      spec.parameters.verticalDividerCount + count := by
    rw [hspec]
    exact withDividers_count _ _
  rw [correctOnce, if_pos hfailure, tryDivider]
  simp only [hcount]
  rw [if_neg (by omega), replaceParameters_withDivider hspec]

/-- Where no divider is needed, or none may be added, the round is the last one. -/
theorem correctOnce_last (hvalid : spec.validate = .ok ())
    (hneeds : ¬NeedsDivider hashing spec count) :
    ∃ next, correctOnce hashing state = .ok (next, false) := by
  obtain ⟨hspec, hvalid', hcompiled⟩ := candidateAt_ok hvalid hstate
  cases hfailure : structuralFailure state.toCandidate with
  | false => exact correctOnce_ok hvalid' rfl hcompiled hfailure
  | true =>
    have hfull : maxAutoVerticalDividers ≤ state.spec.parameters.verticalDividerCount := by
      by_contra hroom
      refine hneeds ⟨state.toCandidate, hstate, hfailure, ?_⟩
      have hcount : state.spec.parameters.verticalDividerCount =
          spec.parameters.verticalDividerCount + count := by
        rw [hspec]
        exact withDividers_count _ _
      omega
    refine ⟨state, ?_⟩
    rw [correctOnce, if_pos hfailure, tryDivider, if_pos hfull]

/-- The three ways a round with a divider can go. -/
theorem correctOnce_cases (hvalid : spec.validate = .ok ())
    (hneeds : NeedsDivider hashing spec count) :
    (∃ e, candidateAt hashing spec (count + 1) = .error e ∧ correctOnce hashing state = .error e) ∨
    (∃ candidate, candidateAt hashing spec (count + 1) = .ok candidate ∧
      ¬Improves hashing spec count ∧ correctOnce hashing state = .ok (state, false)) ∨
    ∃ next, candidateAt hashing spec (count + 1) = .ok next.toCandidate ∧
      Improves hashing spec count ∧ correctOnce hashing state = .ok (next, true) := by
  obtain ⟨candidate, hcandidate, hfailure, hroom⟩ := hneeds
  have hsame : candidate = state.toCandidate := Except.ok.inj (hcandidate.symm.trans hstate)
  subst hsame
  have hround := correctOnce_divider hstate hvalid hfailure hroom
  cases hnext : candidateAt hashing spec (count + 1) with
  | error e =>
    refine Or.inl ⟨e, rfl, ?_⟩
    rw [hround, hnext]
    rfl
  | ok candidate =>
    rw [hnext] at hround
    simp only [bind, Except.bind] at hround
    by_cases hscore : structuralScore state.report ≤ structuralScore candidate.report
    · rw [if_pos hscore] at hround
      refine Or.inr (Or.inl ⟨candidate, rfl, ?_, hround⟩)
      rintro ⟨first, second, hfirst, hsecond, hlt⟩
      rw [Except.ok.inj (hfirst.symm.trans hstate),
        Except.ok.inj (hsecond.symm.trans hnext)] at hlt
      exact absurd hscore (not_le_of_gt hlt)
    · rw [if_neg hscore] at hround
      exact Or.inr (Or.inr ⟨state.accept candidate _ _ _, rfl,
        ⟨_, candidate, hstate, hnext, lt_of_not_ge hscore⟩, hround⟩)

end Round

/-- The loop returns exactly when every candidate it comes to is accepted. -/
theorem correctLoop_ok_iff (hvalid : spec.validate = .ok ()) {rounds count : Nat}
    {state : Correction} (hstate : candidateAt hashing spec count = .ok state.toCandidate) :
    (∃ final, correctLoop hashing rounds state = .ok final) ↔
      ∀ i < rounds, (∀ k, count ≤ k → k ≤ count + i → NeedsDivider hashing spec k) →
        (∀ k, count ≤ k → k < count + i → Improves hashing spec k) →
        ∃ candidate, candidateAt hashing spec (count + i + 1) = .ok candidate := by
  induction rounds generalizing count state with
  | zero =>
    constructor
    · intro _ i hi
      exact absurd hi (Nat.not_lt_zero i)
    · intro _
      exact ⟨state, rfl⟩
  | succ rounds ih =>
    by_cases hneeds : NeedsDivider hashing spec count
    · rcases correctOnce_cases hstate hvalid hneeds with ⟨e, hnext, hround⟩ |
        ⟨candidate, hnext, hkept, hround⟩ | ⟨next, hnext, himproved, hround⟩
      · -- The candidate raises, and the loop with it.
        constructor
        · rintro ⟨final, hfinal⟩
          rw [correctLoop, hround] at hfinal
          cases hfinal
        · intro haccepted
          have hfirst : ∀ k, count ≤ k → k ≤ count + 0 → NeedsDivider hashing spec k := by
            intro k hle hge
            obtain rfl : k = count := by omega
            exact hneeds
          obtain ⟨candidate, hok⟩ := haccepted 0 (Nat.succ_pos _) hfirst
            (fun k hle hlt => absurd hlt (by omega))
          rw [Nat.add_zero, hnext] at hok
          cases hok
      · -- The divider does not help: the loop ends, and no further candidate is come to.
        constructor
        · rintro - i - - himproves
          cases i with
          | zero => exact ⟨candidate, hnext⟩
          | succ i => exact absurd (himproves count (Nat.le_refl _) (by omega)) hkept
        · intro _
          exact ⟨state, correctLoop_of_last hround⟩
      · -- The loop goes on from the next candidate.
        have hloop : correctLoop hashing (rounds + 1) state = correctLoop hashing rounds next := by
          rw [correctLoop, hround]
          rfl
        rw [hloop, ih hnext]
        constructor
        · intro haccepted i hi hall himproves
          cases i with
          | zero => exact ⟨_, hnext⟩
          | succ i =>
            have hshift : count + 1 + i = count + (i + 1) := by omega
            rw [← hshift]
            exact haccepted i (by omega) (fun k hle hge => hall k (by omega) (by omega))
              (fun k hle hlt => himproves k (by omega) (by omega))
        · intro haccepted i hi hall himproves
          have hshift : count + 1 + i = count + (i + 1) := by omega
          rw [hshift]
          refine haccepted (i + 1) (by omega) (fun k hle hge => ?_) (fun k hle hlt => ?_)
          · by_cases heq : k = count
            · rw [heq]
              exact hneeds
            · exact hall k (by omega) (by omega)
          · by_cases heq : k = count
            · rw [heq]
              exact himproved
            · exact himproves k (by omega) (by omega)
    · obtain ⟨next, hlast⟩ := correctOnce_last hstate hvalid hneeds
      constructor
      · intro _ i _ hall
        exact absurd (hall count (Nat.le_refl _) (by omega)) hneeds
      · intro _
        exact ⟨next, correctLoop_of_last hlast⟩

theorem withDividers_backPanel (p : BookcaseParameters) (count : Nat) :
    (withDividers p count).backPanel = p.backPanel ∧
      (withDividers p count).actualThicknessUm = p.actualThicknessUm := by
  induction count with
  | zero => exact ⟨rfl, rfl⟩
  | succ count ih => exact ih

/-- Beside an inset back the stock of a divider has to be thick enough for two captures. -/
theorem thickness_of_accepted (hback : spec.parameters.backPanel = .insetGroove) {count : Nat}
    {candidate : Candidate} (h : candidateAt hashing spec (count + 1) = .ok candidate) :
    8100 ≤ spec.parameters.actualThicknessUm := by
  obtain ⟨-, hcompile⟩ := replaceParameters_ok h
  simp only [compile, build, buildParts, bind_eq_ok] at hcompile
  obtain ⟨-, ⟨-, ⟨capture, hcapture, -⟩, -⟩, -⟩ := hcompile
  have hfields := withDividers_backPanel spec.parameters (count + 1)
  have hcount : (withDividers spec.parameters (count + 1)).verticalDividerCount ≠ 0 := by
    rw [withDividers_count]
    omega
  rw [BookcaseParameters.insetBackDividerCapture, if_pos ⟨hfields.1.trans hback, hcount⟩,
    hfields.2] at hcapture
  simp only [insetBackSideCaptureDepth, bind_eq_ok, require_eq_ok, decide_eq_true_eq] at hcapture
  obtain ⟨-, hmaximum, -⟩ := hcapture
  have hrelief : dadoMinAdjacentReliefSpacingUm = 6100 := rfl
  omega

end Loop

/-- A shelf of 8 mm stock in front of an inset back, with a load it does not carry. -/
def thinShelf : BookcaseParameters :=
  { heightUm := 1000000, nominalThicknessUm := 8000, actualThicknessUm := 8000, shelfCount := 1
    shelfLoadN := 1000, plinthHeightUm := 0, reinforcementMode := .auto }

example : thinShelf.bays.length = 1 := by decide +kernel

end Custombuild.Rules
