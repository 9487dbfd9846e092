/-
  The rules of the bookcase and the report they make up.
  Source: `custombuild_rules.engine`, `RuleEngine.evaluate` and the rules it calls.
-/
import Custombuild.Rules.Model

namespace Custombuild.Rules

open Custombuild.Lib Custombuild.Domain

section Rules

variable (design : DesignResult)

/-- `_shelf_deflection`. -/
def shelfDeflection : Except ValueError RuleEvaluation :=
  let p := design.spec.parameters
  let material := design.spec.material
  let g := shelfGeometry design
  let calculated : Int :=
    if g.affected = [] then 0
    else ⌈(5 * g.designLoadN * g.spanUm ^ 3 * 1000000 * (1000 + material.creepFactorPermille) : Rat) /
      (32 * material.elasticModulusMpa * g.depthUm * g.thicknessUm ^ 3 *
        (1000 - material.propertyUncertaintyPermille))⌉
  let allowed : Int :=
    if g.spanUm ≠ 0 then min p.maxDeflectionUm (g.spanUm / p.deflectionSpanRatio)
    else p.maxDeflectionUm
  let status := thresholdStatus calculated allowed 800
  RuleEvaluation.validate {
    ruleId := .deflection
    status := status
    appliesToPartIds := g.affected
    trace := [calculated, allowed]
    calculatedValue := calculated
    allowedValue := allowed
    safetyMarginPermille := marginPermille calculated allowed
    suggestedActions := if status = .pass then []
      else dividerActions design ++ [{ actionType := .useStrongerMaterial }] }

/-- `_shelf_bending`. -/
def shelfBending : Except ValueError RuleEvaluation :=
  let p := design.spec.parameters
  let material := design.spec.material
  let g := shelfGeometry design
  let calculated : Int :=
    if g.affected = [] then 0
    else ⌈(3 * g.designLoadN * g.spanUm * 1000000000 : Rat) / (4 * g.depthUm * g.thicknessUm ^ 2)⌉
  let allowed : Int := material.bendingStrengthMpa * (1000 - material.propertyUncertaintyPermille) *
    1000 / p.structuralSafetyFactorPermille
  let status := thresholdStatus calculated allowed 800
  RuleEvaluation.validate {
    ruleId := .bending
    status := status
    appliesToPartIds := g.affected
    trace := [calculated, allowed]
    calculatedValue := calculated
    allowedValue := allowed
    safetyMarginPermille := marginPermille calculated allowed
    suggestedActions := if status = .pass then []
      else dividerActions design ++ [{ actionType := .increaseThickness }] }

/-! ## Supports of shelves -/

structure DadoSupportCase where
  jointId : String
  shelfPartId : String
  supportPartId : String
  engagementUm : Int
  bearingLengthUm : Int
  bearingAreaUm2 : Int
  allowedLoadN : Int
deriving DecidableEq

/-- The load that a bearing area carries. -/
def allowedLoad (spec : BookcaseDesignSpec) (bearingAreaUm2 : Int) : Int :=
  spec.material.shearStrengthMpa * bearingAreaUm2 *
      (1000 - spec.material.propertyUncertaintyPermille) /
    (1000 * (1000 + spec.material.creepFactorPermille) *
      spec.parameters.structuralSafetyFactorPermille)

/-- The bearing of a shelf in the groove of a support. -/
def bearingCase (jointId : String) (shelf support : PartInstance)
    (feature : ManufacturingFeature) : Option DadoSupportCase := do
  let engagement ← feature.dimensions.depthUm
  let inPlane := [feature.dimensions.widthUm, feature.dimensions.lengthUm].filterMap id
  if feature.kind ≠ .groove ∨ support.materialId ≠ design.spec.material.materialId ∨
      support.materialVersion ≠ design.spec.material.version ∨ inPlane = [] then none
  else
    let bearingLength := min shelf.finishedSize.depthUm (maximum inPlane)
    some { jointId := jointId
           shelfPartId := shelf.partId
           supportPartId := support.partId
           engagementUm := engagement
           bearingLengthUm := bearingLength
           bearingAreaUm2 := engagement * bearingLength
           allowedLoadN := allowedLoad design.spec (engagement * bearingLength) }

/-- One joint of `_dado_support_cases`. -/
def dadoSupportCase (joint : Joint) : Except ValueError (Option DadoSupportCase) :=
  if joint.jointType ≠ .dado then .ok none
  else do
    let members ← collect (fun member : JointMember => do
      let part ← partById design.parts member.partId
      return (member, part)) joint.members
    let shelfMembers := members.filter fun entry => entry.2.role == .shelf
    let cutMembers := members.filter fun entry => entry.1.featureIds != []
    match shelfMembers, cutMembers with
    | [(_, shelf)], [(cut, support)] =>
      match cut.featureIds with
      | [featureId] =>
        return ((allFeatures design.parts).reverse.find? fun feature =>
          feature.featureId == featureId).bind (bearingCase design joint.jointId shelf support)
      | _ => return none
    | _, _ => return none

/-- `_dado_support_cases`. -/
def dadoSupportCases : Except ValueError (List DadoSupportCase) := do
  let cases ← collect (dadoSupportCase design) (sortBy Joint.jointId design.joints)
  return cases.filterMap id

/-- The case with the least load, and the least joint among these. -/
def worstCase (cases : List DadoSupportCase) : Option DadoSupportCase :=
  (sortBy (fun item : DadoSupportCase => toLex (item.allowedLoadN, item.jointId)) cases).head?

/-- The largest row load that the supports carry with a margin. -/
def recommendedRowLoad (allowedN : Int) : Int :=
  let p := design.spec.parameters
  let passDemandN := max 0 ((allowedN * 800 - 1) / 1000)
  let (share, deadWeightN) := shelfLoadComponents design
  let payloadCapacityN := max 0 (2 * passDemandN - deadWeightN)
  min p.shelfLoadN (if share ≠ 0 then ⌊(payloadCapacityN : Rat) / share⌋ else p.shelfLoadN)

/-- A joint whose capacity is not known. -/
def unknownCapacity (affected : List String) (demandN : Int) (action : SuggestedAction) :
    RuleEvaluation :=
  { ruleId := .joint
    status := .block
    appliesToPartIds := affected
    trace := [demandN]
    calculatedValue := demandN
    allowedValue := 0
    safetyMarginPermille := -1000000
    suggestedActions := [action, dryJoiningAction] }

/-- The shear strength of the material after its reductions. -/
def effectiveShearKpa : Int :=
  let material := design.spec.material
  material.shearStrengthMpa * 1000 * (1000 - material.propertyUncertaintyPermille) * 1000 /
    ((1000 + material.creepFactorPermille) * design.spec.parameters.structuralSafetyFactorPermille)

/-- The screen of the worst support, where there is one. -/
def supportCapacity (demandN : Int) (worst : Option DadoSupportCase) : RuleEvaluation :=
  let p := design.spec.parameters
  let allowedN := (worst.map DadoSupportCase.allowedLoadN).getD 0
  let capacityStatus := if worst.isNone then .pass else thresholdStatus demandN allowedN 800
  { ruleId := .joint
    status := if capacityStatus = .block then .block else .warning
    appliesToPartIds := match worst with
      | none => []
      | some item => [item.shelfPartId, item.supportPartId].insertionSort (· ≤ ·)
    trace := [demandN, (worst.map DadoSupportCase.bearingAreaUm2).getD 0, effectiveShearKpa design,
      allowedN]
    calculatedValue := demandN
    allowedValue := allowedN
    safetyMarginPermille := if worst.isNone then 0 else marginPermille demandN allowedN
    suggestedActions := if capacityStatus = .pass then [dryJoiningAction]
      else dividerActions design ++
        [{ actionType := .reduceLoad
           changes := [⟨"parameters.shelf_load_n", .int p.shelfLoadN,
             .int (recommendedRowLoad design allowedN)⟩] }, dryJoiningAction] }

/-- `_joint_capacity`. -/
def jointCapacity : Except ValueError RuleEvaluation :=
  let p := design.spec.parameters
  let demandN : Int :=
    if shelves design = [] then 0 else ⌈((shelfGeometry design).designLoadN : Rat) / 2⌉
  if p.shelfMount = .adjustable ∧ shelves design ≠ [] then
    let shelfIds := (shelves design).map PartInstance.partId
    let pinJoints := design.joints.filter fun joint =>
      joint.jointType == .shelfPin && joint.partIds.any shelfIds.contains
    (unknownCapacity (sortedSet (pinJoints.flatMap Joint.partIds)) demandN
      { actionType := .verifyHardwareCapacity, requiresUserEvidence := true }).validate
  else do
    let cases ← dadoSupportCases design
    if shelves design = [] then (supportCapacity design demandN none).validate
    else
      match worstCase cases with
      | none =>
        (unknownCapacity (((shelves design).map PartInstance.partId).insertionSort (· ≤ ·)) demandN
          { actionType := .regenerateJointGeometry }).validate
      | some worst => (supportCapacity design demandN (some worst)).validate

/-! ## Stability and tipping -/

/-- `_lateral_stability`. -/
def lateralStability : Except ValueError RuleEvaluation :=
  let p := design.spec.parameters
  let slenderness := p.heightUm * 1000 / p.widthUm
  let hasBack : Bool := p.backPanel != .none
  let allowed : Int := if hasBack then 4000 else 1800
  let status := if !hasBack && 1200000 < p.heightUm then .block
    else thresholdStatus slenderness allowed 750
  let backIds := (partsWithRole design .back).map PartInstance.partId
  RuleEvaluation.validate {
    ruleId := .stability
    status := status
    appliesToPartIds := if backIds ≠ [] then backIds
      else (design.parts.filter fun part => part.role == .leftSide || part.role == .rightSide).map
        PartInstance.partId
    trace := [slenderness]
    calculatedValue := slenderness
    allowedValue := allowed
    safetyMarginPermille := marginPermille slenderness allowed
    suggestedActions := if status = .pass then []
      else if hasBack then dividerActions design
      else [{ actionType := .addBackPanel
              changes := [⟨"parameters.back_panel", .text "none", .text "inset_groove"⟩]
              requiresUserEvidence := design.spec.backMaterial.isNone }] }

/-- The height of the centre of gravity of the furniture. -/
def productCgZ : Rat :=
  let massG := design.totalWeightG
  if massG ≠ 0 then
    let moments : Int := (design.parts.map fun part =>
      part.weightG * (2 * part.placement.zUm + part.finishedSize.heightUm)).sum
    (moments : Rat) / (2 * massG)
  else (design.spec.parameters.heightUm : Rat) / 2

/-- The heights of the surfaces that carry loads. -/
def shelfSurfacesZ : List Int :=
  sortedSet ((shelves design).map fun part => part.placement.zUm + part.finishedSize.heightUm)

/-- The load of all rows. -/
def loadForceN : Int := design.spec.parameters.shelfLoadN * (shelfSurfacesZ design).length

/-- The height at which the load acts. -/
def loadCgZ : Rat :=
  if shelfSurfacesZ design ≠ [] then
    let heights : Int := (shelfSurfacesZ design).sum
    (heights : Rat) / (shelfSurfacesZ design).length
  else 0

def productWeightN : Rat := (design.totalWeightG * 981 : Rat) / 100000

def totalVerticalN : Rat := productWeightN design + loadForceN design

/-- The height of the common centre of gravity. -/
def combinedCgZ : Rat :=
  if totalVerticalN design ≠ 0 then
    (productWeightN design * productCgZ design + loadForceN design * loadCgZ design) /
      totalVerticalN design
  else (design.spec.parameters.heightUm : Rat) / 2

/-- The moment that keeps the furniture standing. -/
def resisting : Rat := totalVerticalN design * ((design.spec.parameters.depthUm : Rat) / 2)

/-- The moment that tips it. -/
def overturning : Rat :=
  (design.spec.parameters.assumedHorizontalForceN : Rat) * combinedCgZ design

/-- The safety against tipping, rounded towards zero. -/
def tipFactorPermille : Int :=
  if overturning design ≠ 0 then
    let quotient := resisting design * 1000 / overturning design
    if 0 ≤ quotient then ⌊quotient⌋ else ⌈quotient⌉
  else 1000000

/-- Whether furniture of these parameters has to be fixed to a wall. -/
def anchorRequired (p : BookcaseParameters) : Bool :=
  p.wallAnchor.required || 4 * p.depthUm ≤ p.heightUm

/-- The status of `_tip_risk`. -/
def tipStatus (p : BookcaseParameters) (factorPermille : Int) : RuleStatus :=
  if anchorRequired p && !p.wallAnchor.verified then .warning
  else if anchorRequired p && p.wallAnchor.verified then .pass
  else if factorPermille < 1500 then .block
  else if factorPermille < 2000 then .warning
  else .pass

/-- `_tip_risk`. -/
def tipRisk : Except ValueError RuleEvaluation := do
  let p := design.spec.parameters
  require ((shelfSurfacesZ design).length == p.shelfCount)
    (.message "resolved shelf rows do not match the declared load rows")
  let factor := tipFactorPermille design
  let status := tipStatus p factor
  RuleEvaluation.validate {
    ruleId := .tip
    status := status
    appliesToPartIds := design.parts.map PartInstance.partId
    trace := [factor]
    calculatedValue := factor
    allowedValue := 1500
    safetyMarginPermille :=
      if anchorRequired p && !p.wallAnchor.verified then -1000
      else if anchorRequired p && p.wallAnchor.verified then 1000
      else (factor - 1500) * 1000 / 1500
    suggestedActions := if status ≠ .pass ∧ !p.wallAnchor.verified then
        [{ actionType := .verifyWallAnchor
           changes := if p.wallAnchor.required then []
             else [⟨"parameters.wall_anchor.required", .bool false, .bool true⟩]
           requiresUserEvidence := true }]
      else [] }

/-! ## Cabinets -/

def isCabinetRole (role : PartRole) : Bool :=
  role == .baseSide || role == .baseBottom || role == .baseTop || role == .cabinetFront

/-- `_base_support_alignment`. -/
def baseSupportAlignment : Except ValueError RuleEvaluation :=
  let byX (role : PartRole) : List PartInstance :=
    sortBy (fun part => part.placement.xUm) (partsWithRole design role)
  let dividers := byX .divider
  let baseSides := byX .baseSide
  let unsupported := dividers.filter fun divider =>
    !baseSides.any fun support => |support.placement.xUm - divider.placement.xUm| ≤ 1000
  let bottomIds := (partsWithRole design .bottom).map PartInstance.partId
  RuleEvaluation.validate {
    ruleId := .support
    status := if unsupported = [] then .pass else .block
    appliesToPartIds := bottomIds ++
      (if unsupported ≠ [] then unsupported else dividers).map PartInstance.partId
    trace := [unsupported.length]
    calculatedValue := unsupported.length
    allowedValue := 0
    safetyMarginPermille := if unsupported = [] then 1000 else -1000000
    suggestedActions := if unsupported = [] then []
      else [{ actionType := .alignBaseCabinets
              changes := [⟨"parameters.base_cabinet_count",
                .int design.spec.parameters.baseCabinetCount, .int (dividers.length + 1)⟩] }] }

/-- `_base_cabinet_hardware`. -/
def baseCabinetHardware (cabinetParts : List PartInstance) : RuleEvaluation :=
  { ruleId := .hardware
    status := .warning
    appliesToPartIds := cabinetParts.map PartInstance.partId
    trace := []
    calculatedValue := 1
    allowedValue := 0
    safetyMarginPermille := -1000
    suggestedActions :=
      [{ actionType := .verifyHardwareCapacity, requiresUserEvidence := true }] }

/-- The rules that only concern cabinets. -/
def cabinetRules : Except ValueError (List RuleEvaluation) :=
  let cabinetParts := design.parts.filter fun part => isCabinetRole part.role
  if cabinetParts = [] then .ok []
  else do
    let support ← baseSupportAlignment design
    return [support, baseCabinetHardware cabinetParts]

/-- `RuleEngine.evaluate`. -/
def evaluate : Except ValueError RuleReport := do
  let deflection ← shelfDeflection design
  let bending ← shelfBending design
  let joint ← jointCapacity design
  let stability ← lateralStability design
  let tip ← tipRisk design
  let cabinets ← cabinetRules design
  let evaluations := [deflection, bending, joint, stability, tip] ++ cabinets
  return {
    designHash := design.designHash
    overallStatus := aggregateStatus (evaluations.map RuleEvaluation.status)
    evaluations := evaluations }

end Rules

end Custombuild.Rules
