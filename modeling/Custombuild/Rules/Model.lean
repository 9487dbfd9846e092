/-
  The rule engine of the bookcase: what a rule reports and the measures it is computed from.
  Source: `custombuild_rules.models` and the helpers of `custombuild_rules.engine`.

  Loads and moments are exact fractions.  A number of a calculation trace is written out in
  decimal digits, at most one hundred of them.
-/
import Mathlib.Data.Rat.Floor
import Custombuild.Domain.Build

namespace Custombuild.Rules

open Custombuild.Lib Custombuild.Domain

/-! ## Reports -/

inductive RuleStatus
  | pass | warning | block
deriving DecidableEq

/-- The rank of a status. -/
def RuleStatus.rank : RuleStatus → Nat
  | .pass => 0
  | .warning => 1
  | .block => 2

inductive ActionType
  | addVerticalDivider | alignBaseCabinets | addBackPanel | verifyWallAnchor | useStrongerMaterial
  | increaseThickness | reduceLoad | verifyHardwareCapacity | verifyDryJoiningSystem
  | regenerateJointGeometry
deriving DecidableEq

inductive Scalar
  | int (value : Int)
  | text (value : String)
  | bool (value : Bool)
deriving DecidableEq

structure ParameterChange where
  path : String
  before : Scalar
  after : Scalar
deriving DecidableEq

structure SuggestedAction where
  actionType : ActionType
  changes : List ParameterChange := []
  requiresUserEvidence : Bool := false
deriving DecidableEq

inductive RuleId
  | deflection | bending | joint | stability | tip | support | hardware
deriving DecidableEq

/-- The value of a rule identity. -/
def RuleId.value : RuleId → String
  | .deflection => "CB-DEFLECTION-001"
  | .bending => "CB-BENDING-001"
  | .joint => "CB-JOINT-001"
  | .stability => "CB-STABILITY-001"
  | .tip => "CB-TIP-001"
  | .support => "CB-SUPPORT-001"
  | .hardware => "CB-HARDWARE-001"

structure RuleEvaluation where
  ruleId : RuleId
  status : RuleStatus
  appliesToPartIds : List String
  /-- The numbers of the calculation steps. -/
  trace : List Int
  calculatedValue : Int
  allowedValue : Int
  safetyMarginPermille : Int
  suggestedActions : List SuggestedAction := []
deriving DecidableEq

/-- A calculation step has at most one hundred characters. -/
def RuleEvaluation.validate (evaluation : RuleEvaluation) : Except ValueError RuleEvaluation := do
  require (evaluation.trace.all fun number => (toString number).length ≤ 100) (.field "trace.result")
  return evaluation

structure RuleReport where
  designHash : String
  overallStatus : RuleStatus
  evaluations : List RuleEvaluation
deriving DecidableEq

/-- `aggregate_status`. -/
def aggregateStatus (statuses : List RuleStatus) : RuleStatus :=
  statuses.foldl (fun worst status => if worst.rank < status.rank then status else worst) .pass

/-- The evaluation of a rule in a report. -/
def RuleReport.find? (report : RuleReport) (ruleId : RuleId) : Option RuleEvaluation :=
  report.evaluations.find? fun evaluation => evaluation.ruleId == ruleId

/-- The status of a rule in a report. -/
def RuleReport.statusOf (report : RuleReport) (ruleId : RuleId) : Option RuleStatus :=
  (report.find? ruleId).map RuleEvaluation.status

/-! ## Measures -/

def maxAutoVerticalDividers : Nat := 16

/-- `_margin_permille`. -/
def marginPermille (calculated allowed : Int) : Int :=
  if allowed ≤ 0 then -1000000 else ((allowed - calculated) * 1000) / allowed

/-- `_threshold_status`. -/
def thresholdStatus (calculated allowed : Int) (warningPermille : Int) : RuleStatus :=
  if allowed < calculated then .block
  else if allowed * warningPermille ≤ calculated * 1000 then .warning
  else .pass

/-- The largest and the smallest of some numbers. -/
def maximum (numbers : List Int) : Int := numbers.foldl max (numbers.headD 0)

def minimum (numbers : List Int) : Int := numbers.foldl min (numbers.headD 0)

section Measures

variable (design : DesignResult)

def partsWithRole (role : PartRole) : List PartInstance :=
  design.parts.filter fun part => part.role == role

def shelves : List PartInstance := partsWithRole design .shelf

/-- `_shelf_clear_span`. -/
def shelfClearSpan (shelfPartId : String) (fallbackWidthUm : Int) : Int :=
  let supportX := (design.joints.filter fun joint => joint.partIds.contains shelfPartId).map
    fun joint => joint.matingOrigin.xUm
  if 2 ≤ supportX.length ∧ minimum supportX < maximum supportX then
    maximum supportX - minimum supportX
  else fallbackWidthUm

/-- `_shelf_load_components`: the share of the widest shelf of a row, and the weight of the
    heaviest shelf. -/
def shelfLoadComponents : Rat × Int :=
  if shelves design = [] then (0, 0)
  else
    let bayCount := design.spec.parameters.verticalDividerCount + 1
    let representativeRow := (sortBy PartInstance.instanceIndex (shelves design)).take bayCount
    let rowWidth := (representativeRow.map fun part => part.finishedSize.widthUm).sum
    let widest := maximum ((shelves design).map fun part => part.finishedSize.widthUm)
    let heaviest := maximum ((shelves design).map PartInstance.weightG)
    ((widest : Rat) / rowWidth, ⌈(heaviest * 981 : Rat) / 100000⌉)

structure ShelfGeometry where
  spanUm : Int
  depthUm : Int
  thicknessUm : Int
  designLoadN : Int
  affected : List String
deriving DecidableEq

/-- `_shelf_geometry`. -/
def shelfGeometry : ShelfGeometry :=
  let thickness := design.spec.parameters.actualThicknessUm
  if shelves design = [] then ⟨0, 1, thickness, 0, []⟩
  else
    let spanOf (part : PartInstance) : Int :=
      shelfClearSpan design part.partId part.finishedSize.widthUm
    let worstSpan := maximum ((shelves design).map spanOf)
    let (share, deadWeightN) := shelfLoadComponents design
    { spanUm := worstSpan
      depthUm := minimum ((shelves design).map fun part => part.finishedSize.depthUm)
      thicknessUm := thickness
      designLoadN := ⌈(design.spec.parameters.shelfLoadN : Rat) * share⌉ + deadWeightN
      affected := ((shelves design).filter fun part => spanOf part == worstSpan).map
        PartInstance.partId }

/-- `_divider_actions`. -/
def dividerActions : List SuggestedAction :=
  let current := design.spec.parameters.verticalDividerCount
  if maxAutoVerticalDividers ≤ current then []
  else [{ actionType := .addVerticalDivider
          changes := [⟨"parameters.vertical_divider_count", .int current, .int (current + 1)⟩] }]

/-- `_dry_joining_action`. -/
def dryJoiningAction : SuggestedAction :=
  { actionType := .verifyDryJoiningSystem, requiresUserEvidence := true }

end Measures

end Custombuild.Rules
