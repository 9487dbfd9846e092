/-
  The automatic correction: dividers, a back and a wall anchor are tried one after the other, and
  each candidate is validated, compiled and evaluated before it replaces the specification.
  Source: `custombuild_rules.engine`, `RuleEngine.auto_correct`.
-/
import Custombuild.Rules.Evaluate

namespace Custombuild.Rules

open Custombuild.Lib Custombuild.Domain

structure DesignDiff where
  sequence : Nat
  actionType : ActionType
  reasonRuleId : RuleId
  changes : List ParameterChange
  designHashBefore : String
  designHashAfter : String
deriving DecidableEq

/-- A specification with what was compiled and reported of it. -/
structure Candidate where
  spec : BookcaseDesignSpec
  design : DesignResult
  report : RuleReport

/-- The variables of the loop. -/
structure Correction extends Candidate where
  diffs : List DesignDiff := []

structure AutoCorrectionResult where
  originalDesign : DesignResult
  correctedSpec : BookcaseDesignSpec
  correctedDesign : DesignResult
  initialReport : RuleReport
  finalReport : RuleReport
  diffs : List DesignDiff
  resolved : Bool

/-- `_structural_score`. -/
def structuralScore (report : RuleReport) : Nat ×ₗ Int :=
  let selected := report.evaluations.filter fun evaluation =>
    evaluation.ruleId == .deflection || evaluation.ruleId == .bending || evaluation.ruleId == .joint
  toLex ((selected.map fun item => item.status.rank).sum,
    (selected.map fun item => max 0 (-item.safetyMarginPermille)).sum)

/-- Whether a rule of a report blocks. -/
def blocks (report : RuleReport) (ruleId : RuleId) : Bool :=
  report.statusOf ruleId == some .block

/-- Whether a divider has to be added. -/
def structuralFailure (candidate : Candidate) : Bool :=
  blocks candidate.report .deflection || blocks candidate.report .bending ||
    (candidate.spec.parameters.shelfMount == .fixed && blocks candidate.report .joint)

section Engine

variable (hashing : Hashing)

/-- Compile and evaluate a specification. -/
def compile (spec : BookcaseDesignSpec) : Except ValueError Candidate := do
  let design ← build hashing spec
  let report ← evaluate design
  return ⟨spec, design, report⟩

/-- `_replace_parameters`, `_replace_spec`, and the evaluation of the new specification. -/
def replaceParameters (spec : BookcaseDesignSpec) (parameters : BookcaseParameters) :
    Except ValueError Candidate := do
  parameters.validate
  let candidate := { spec with parameters := parameters }
  candidate.validate
  compile hashing candidate

/-- The parameters with one more divider. -/
def withDivider (p : BookcaseParameters) : BookcaseParameters :=
  { p with verticalDividerCount := p.verticalDividerCount + 1, bayWidthRatiosPpm := [] }

/-- The parameters with an inset back. -/
def withBack (p : BookcaseParameters) : BookcaseParameters := { p with backPanel := .insetGroove }

/-- The anchor registered as required; nothing is verified by it. -/
def registerAnchor (p : BookcaseParameters) : BookcaseParameters :=
  { p with wallAnchor := { p.wallAnchor with required := true, verified := false } }

/-- The candidate with one more diff. -/
def Correction.accept (state : Correction) (candidate : Candidate) (actionType : ActionType)
    (reason : RuleId) (change : ParameterChange) : Correction :=
  { toCandidate := candidate
    diffs := state.diffs ++
      [{ sequence := state.diffs.length + 1
         actionType := actionType
         reasonRuleId := reason
         changes := [change]
         designHashBefore := state.design.designHash
         designHashAfter := candidate.design.designHash }] }

/-- The rule that a divider is added for. -/
def dividerReason (report : RuleReport) : RuleId :=
  if blocks report .deflection then .deflection
  else if blocks report .bending then .bending
  else .joint

/-- A divider is tried; it stays if the score falls.  The flag says whether the loop goes on. -/
def tryDivider (state : Correction) : Except ValueError (Correction × Bool) :=
  let old := state.spec.parameters.verticalDividerCount
  if maxAutoVerticalDividers ≤ old then .ok (state, false)
  else do
    let candidate ← replaceParameters hashing state.spec (withDivider state.spec.parameters)
    if structuralScore state.report ≤ structuralScore candidate.report then return (state, false)
    else
      return (state.accept candidate .addVerticalDivider (dividerReason state.report)
        ⟨"parameters.vertical_divider_count", .int old, .int (old + 1)⟩, true)

/-- A back is added where a material for it is known. -/
def tryBack (state : Correction) : Except ValueError (Correction × Bool) :=
  if state.spec.backMaterial.isNone then .ok (state, false)
  else do
    let candidate ← replaceParameters hashing state.spec (withBack state.spec.parameters)
    return (state.accept candidate .addBackPanel .stability
      ⟨"parameters.back_panel", .text "none", .text "inset_groove"⟩, true)

/-- A wall anchor is registered; the loop ends here. -/
def tryAnchor (state : Correction) : Except ValueError (Correction × Bool) :=
  if state.report.statusOf .tip ≠ some .pass ∧ !state.spec.parameters.wallAnchor.required then do
    let candidate ← replaceParameters hashing state.spec (registerAnchor state.spec.parameters)
    return (state.accept candidate .verifyWallAnchor .tip
      ⟨"parameters.wall_anchor.required", .bool false, .bool true⟩, false)
  else .ok (state, false)

/-- One round of the loop. -/
def correctOnce (state : Correction) : Except ValueError (Correction × Bool) :=
  if structuralFailure state.toCandidate then tryDivider hashing state
  else if blocks state.report .stability ∧ state.spec.parameters.backPanel = .none then
    tryBack hashing state
  else tryAnchor hashing state

/-- The loop. -/
def correctLoop : Nat → Correction → Except ValueError Correction
  | 0, state => .ok state
  | rounds + 1, state => do
    let (next, goesOn) ← correctOnce hashing state
    if goesOn then correctLoop rounds next else return next

/-- What is returned of the first and the last candidate. -/
def resultOf (original : Candidate) (final : Correction) : AutoCorrectionResult :=
  { originalDesign := original.design
    correctedSpec := final.spec
    correctedDesign := final.design
    initialReport := original.report
    finalReport := final.report
    diffs := final.diffs
    resolved := final.report.overallStatus != .block }

/-- `RuleEngine.auto_correct`. -/
def autoCorrect (spec : BookcaseDesignSpec) (maxIterations : Nat) :
    Except ValueError AutoCorrectionResult := do
  require (1 ≤ maxIterations && maxIterations ≤ 32)
    (.message "max_iterations must be between 1 and 32")
  let original ← compile hashing spec
  if spec.parameters.reinforcementMode ≠ .auto then return resultOf original { toCandidate := original }
  else
    let final ← correctLoop hashing maxIterations { toCandidate := original }
    return resultOf original final

end Engine

end Custombuild.Rules
