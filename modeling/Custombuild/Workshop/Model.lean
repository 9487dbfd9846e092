/-
  What a workshop attests: the run, the setup of the machine, the evidence of the three stages
  and the policy of the server, with the validators of the schemas.  What a record of evidence
  commits to are the facts beside its reference, so each part of a statement extends the
  structure of its facts.
  Source: `services/api/app/workshop_trust.py`.
-/
import Custombuild.Lib.Checked
import Custombuild.Lib.SortBy
import Custombuild.Lib.Text
import Mathlib.Data.String.Basic

namespace Custombuild.Workshop

open Custombuild.Lib

/-- An identifier of the safe pattern. -/
abbrev Token := String

/-- The text of a SHA-256 digest. -/
abbrev Sha256 := String

/-- Whole seconds in UTC. -/
abbrev Timestamp := Int

def workshopEvidenceMediaType : Token := "application/vnd.custombuild.workshop-evidence+json"

def maxAttestationBytes : Nat := 4 * 1024 * 1024
def maxChainBytes : Nat := 12 * 1024 * 1024
def maxRegistryIssuers : Nat := 2048
def maxRevocations : Nat := 100000
def maxTools : Nat := 128
def maxStockItems : Nat := 1024
def maxKeepouts : Nat := 1024
def maxMeasurements : Nat := 2048
def maxCoupons : Nat := 256
def maxMachinePrograms : Nat := 4096
def maxEvidenceAttachments : Nat := 256
def maxEvidenceObjectBytes : Nat := 32 * 1024 * 1024
def maxEvidenceChainBytes : Nat := 256 * 1024 * 1024

structure WorkshopTrustError where
  text : String
deriving DecidableEq

inductive WorkshopStage
  | preCut
  | referencePart
  | finalWorkshop
deriving DecidableEq

def WorkshopStage.value : WorkshopStage → String
  | .preCut => "PRE_CUT"
  | .referencePart => "REFERENCE_PART"
  | .finalWorkshop => "FINAL_WORKSHOP"

/-- `STAGE_ORDER`. -/
def stageOrder : List WorkshopStage := [.preCut, .referencePart, .finalWorkshop]

/-- `value == tuple(sorted(set(value)))`. -/
def isSortedSet {κ : Type} [LinearOrder κ] (l : List κ) : Bool := l == sortedSet l

/-- A number of entries within the bounds of a field. -/
def hasLength {α : Type} (low high : Nat) (l : List α) : Bool := low ≤ l.length && l.length ≤ high

/-! ## Evidence -/

inductive EvidenceStatus
  | verified
  | missing
  | notApplicable
deriving DecidableEq

def EvidenceStatus.lower : EvidenceStatus → String
  | .verified => "verified"
  | .missing => "missing"
  | .notApplicable => "not_applicable"

structure EvidenceReference where
  status : EvidenceStatus
  evidenceId : Option Token := none
  evidenceVersion : Option Token := none
  claimType : Option Token := none
  claimSha256 : Option Sha256 := none
  sha256 : Option Sha256 := none
  sizeBytes : Option Nat := none
  mediaType : Option Token := none
  observedAt : Option Timestamp := none
  reason : Option String := none
deriving DecidableEq

/-- `EvidenceReference.validate_state`. -/
def EvidenceReference.validateState (r : EvidenceReference) : Bool :=
  let given := [r.evidenceId.isSome, r.evidenceVersion.isSome, r.claimType.isSome,
    r.claimSha256.isSome, r.sha256.isSome, r.sizeBytes.isSome, r.mediaType.isSome,
    r.observedAt.isSome]
  if r.status = .verified then
    given.all id && r.reason.isNone && r.mediaType == some workshopEvidenceMediaType
  else !given.any id && r.reason.isSome

structure EvidenceAttachment where
  attachmentId : Token
  purpose : Token
  sha256 : Sha256
  sizeBytes : Nat
  mediaType : Token
deriving DecidableEq

structure WorkshopEvidenceRecord where
  evidenceId : Token
  evidenceVersion : Token
  claimType : Token
  claimSha256 : Sha256
  observedAt : Timestamp
  attachments : List EvidenceAttachment
deriving DecidableEq

/-- `WorkshopEvidenceRecord.canonical_attachments`. -/
def WorkshopEvidenceRecord.validate (record : WorkshopEvidenceRecord) : Bool :=
  hasLength 1 maxEvidenceAttachments record.attachments &&
    isSortedSet (record.attachments.map (·.attachmentId)) &&
    decide (record.attachments.map (·.sha256)).Nodup

/-! ## The registry of trust -/

inductive SignerRole
  | workshopMaker
  | workshopChecker
  | workshopSupervisor
deriving DecidableEq

def SignerRole.value : SignerRole → String
  | .workshopMaker => "workshop_maker"
  | .workshopChecker => "workshop_checker"
  | .workshopSupervisor => "workshop_supervisor"

structure SignerIdentity where
  principalId : Token
  keyId : Token
deriving DecidableEq

structure TrustedWorkshopIssuer extends SignerIdentity where
  organization : Token
  role : SignerRole
  qualifiedStages : List WorkshopStage
  publicKeyBase64 : String
  notBefore : Timestamp
  notAfter : Timestamp
  revokedAt : Option Timestamp
deriving DecidableEq

/-- `validate_validity_and_qualifications`. -/
def TrustedWorkshopIssuer.validate (issuer : TrustedWorkshopIssuer) : Bool :=
  issuer.notBefore < issuer.notAfter && hasLength 1 3 issuer.qualifiedStages &&
    issuer.qualifiedStages == stageOrder.filter (issuer.qualifiedStages.contains ·)

structure WorkshopTrustRegistry where
  issuers : List TrustedWorkshopIssuer
  revokedStatementSha256 : List Sha256 := []
  revokedRunSha256 : List Sha256 := []
  revokedEvidenceSha256 : List Sha256 := []
  revokedEvidenceClaimSha256 : List Sha256 := []
  revokedEvidenceAttachmentSha256 : List Sha256 := []
deriving DecidableEq

/-- `canonical_revocations`. -/
def canonicalRevocations (digests : List Sha256) : Bool :=
  hasLength 0 maxRevocations digests && isSortedSet digests

def WorkshopTrustRegistry.validate (registry : WorkshopTrustRegistry) : Bool :=
  hasLength 0 maxRegistryIssuers registry.issuers &&
    registry.issuers.all TrustedWorkshopIssuer.validate &&
    canonicalRevocations registry.revokedStatementSha256 &&
    canonicalRevocations registry.revokedRunSha256 &&
    canonicalRevocations registry.revokedEvidenceSha256 &&
    canonicalRevocations registry.revokedEvidenceClaimSha256 &&
    canonicalRevocations registry.revokedEvidenceAttachmentSha256

/-! ## The run -/

structure MachineProgramIdentity where
  programId : Token
  purpose : Token
  relativePath : Token
  setupId : Token
  wcsId : Token
  stockId : Token
  partIds : List Token
  operationSetSha256 : Sha256
  sha256 : Sha256
  sizeBytes : Nat
  mediaType : Token
deriving DecidableEq

/-- `canonical_relative_path`. -/
def canonicalRelativePath (path : Token) : Bool :=
  !(charsOf path).contains '\\' && !(charsOf path).contains ':' &&
    ((charsOf path).splitOn '/').all fun segment => segment ∉ [[], ['.'], ['.', '.']]

def MachineProgramIdentity.validate (program : MachineProgramIdentity) : Bool :=
  canonicalRelativePath program.relativePath && hasLength 1 maxStockItems program.partIds &&
    isSortedSet program.partIds

/-- Programs in canonical order, with their ids and their paths unique. -/
def canonicalPrograms (programs : List MachineProgramIdentity) : Bool :=
  let keys := programs.map fun program =>
    toLex (program.setupId, toLex (program.wcsId, toLex (program.programId, program.relativePath)))
  keys == sortBy id keys && decide (programs.map (·.programId)).Nodup &&
    decide (programs.map (·.relativePath)).Nodup

inductive MachineProgramKind
  | executable
  | validationOnly
deriving DecidableEq

structure WorkshopRun where
  organization : Token
  project : Token
  designVersion : Token
  designReviewRelease : Token
  designHash : Sha256
  generationJob : Token
  generationFinishedAt : Timestamp
  productionContextHash : Sha256
  manifestSha256 : Sha256
  bundleSha256 : Sha256
  operationsSha256 : Sha256
  generationPlanSha256 : Sha256
  workshopPolicySha256 : Sha256
  machineProgramKind : MachineProgramKind
  machinePrograms : List MachineProgramIdentity
  machineProgramSetSha256 : Sha256
  postprocessorId : Token
  postprocessorVersion : Token
  postprocessorBinarySha256 : Sha256
  postprocessorConfigSha256 : Sha256
deriving DecidableEq

/-! ## The setup -/

structure RequiredMachine where
  machineId : Token
  manufacturer : Token
  model : Token
  serialNumber : Token
  controllerId : Token
  controllerVersion : Token
  profileId : Token
  profileVersion : Token
  profileSha256 : Sha256
deriving DecidableEq

structure MachineFacts extends RequiredMachine where
  calibrationId : Token
  calibratedAt : Option Timestamp
  calibrationExpiresAt : Option Timestamp
deriving DecidableEq

structure MachineIdentity extends MachineFacts where
  calibrationEvidence : EvidenceReference
deriving DecidableEq

/-- `validate_calibration_state`. -/
def MachineIdentity.validate (machine : MachineIdentity) : Bool :=
  machine.calibrationEvidence.validateState &&
    match machine.calibrationEvidence.status, machine.calibratedAt, machine.calibrationExpiresAt with
    | .verified, some calibrated, some expires => calibrated < expires
    | .verified, _, _ => false
    | _, calibrated, expires => calibrated.isNone && expires.isNone

structure RequiredWcs where
  wcsId : Token
  conventionVersion : Token
  originXUm : Int
  originYUm : Int
  originZUm : Int
  axesDefinitionSha256 : Sha256
deriving DecidableEq

structure WorkCoordinateSystem extends RequiredWcs where
  verificationEvidence : EvidenceReference
deriving DecidableEq

structure FixtureFacts where
  fixtureId : Token
  fixtureVersion : Token
  serialNumber : Token
  setupSha256 : Sha256
  clampingPlanSha256 : Sha256
deriving DecidableEq

structure FixtureIdentity extends FixtureFacts where
  verificationEvidence : EvidenceReference
deriving DecidableEq

structure RequiredFixture extends FixtureFacts where
  keepoutVolumesSha256 : Sha256
deriving DecidableEq

structure KeepoutVolume where
  keepoutId : Token
  minimumXUm : Int
  minimumYUm : Int
  minimumZUm : Int
  maximumXUm : Int
  maximumYUm : Int
  maximumZUm : Int
deriving DecidableEq

/-- `validate_volume`. -/
def KeepoutVolume.validate (volume : KeepoutVolume) : Bool :=
  volume.minimumXUm < volume.maximumXUm && volume.minimumYUm < volume.maximumYUm &&
    volume.minimumZUm < volume.maximumZUm

structure KeepoutSet where
  volumes : List KeepoutVolume
  reviewEvidence : EvidenceReference
deriving DecidableEq

/-- `validate_keepouts`. -/
def KeepoutSet.validate (keepouts : KeepoutSet) : Bool :=
  keepouts.reviewEvidence.validateState && hasLength 0 maxKeepouts keepouts.volumes &&
    keepouts.volumes.all KeepoutVolume.validate && isSortedSet (keepouts.volumes.map (·.keepoutId)) &&
    (keepouts.reviewEvidence.status == .verified || keepouts.volumes.isEmpty)

structure ToolIdentity where
  toolId : Token
  toolVersion : Token
  serialNumber : Token
  holderId : Token
  pocketNumber : Nat
deriving DecidableEq

structure ToolFacts extends ToolIdentity where
  measuredDiameterUm : Option Int
  measuredLengthOffsetUm : Option Int
  measuredRunoutUm : Option Int
  measuredStickoutUm : Option Int
  measuredUsableFluteLengthUm : Option Int
deriving DecidableEq

structure ToolMeasurement extends ToolFacts where
  measurementEvidence : EvidenceReference
deriving DecidableEq

/-- Asserted values come with verified evidence and only with it. -/
def assertedWith (evidence : EvidenceReference) (given : List Bool) : Bool :=
  evidence.validateState &&
    if evidence.status = .verified then given.all id else !given.any id

/-- `ToolMeasurement.validate_measurement_state`. -/
def ToolMeasurement.validate (tool : ToolMeasurement) : Bool :=
  assertedWith tool.measurementEvidence [tool.measuredDiameterUm.isSome,
    tool.measuredLengthOffsetUm.isSome, tool.measuredRunoutUm.isSome,
    tool.measuredStickoutUm.isSome, tool.measuredUsableFluteLengthUm.isSome]

structure RequiredTool extends ToolIdentity where
  minimumDiameterUm : Int
  maximumDiameterUm : Int
  minimumLengthOffsetUm : Int
  maximumLengthOffsetUm : Int
  maximumRunoutUm : Int
  minimumStickoutUm : Int
  maximumStickoutUm : Int
  minimumUsableFluteLengthUm : Int
deriving DecidableEq

/-- `RequiredTool.validate_ranges`. -/
def RequiredTool.validate (tool : RequiredTool) : Bool :=
  tool.minimumDiameterUm ≤ tool.maximumDiameterUm &&
    tool.minimumLengthOffsetUm ≤ tool.maximumLengthOffsetUm &&
    tool.minimumStickoutUm ≤ tool.maximumStickoutUm

inductive GrainOrientation
  | x
  | y
  | nonDirectional
deriving DecidableEq

structure StockDimensions where
  lengthUm : Int
  widthUm : Int
  thicknessUm : Int
deriving DecidableEq

structure MaterialFacts where
  stockId : Token
  materialId : Token
  materialVersion : Token
  supplierBatchId : Token
  supplierLotId : Token
  grainOrientation : GrainOrientation
deriving DecidableEq

structure StockFacts extends MaterialFacts where
  dimensions : Option StockDimensions
  moistureContentPpm : Option Int
deriving DecidableEq

structure StockIdentity extends StockFacts where
  materialCertificateEvidence : EvidenceReference
  measurementEvidence : EvidenceReference
deriving DecidableEq

/-- `StockIdentity.validate_measurement_state`. -/
def StockIdentity.validate (stock : StockIdentity) : Bool :=
  stock.materialCertificateEvidence.validateState &&
    assertedWith stock.measurementEvidence
      [stock.dimensions.isSome, stock.moistureContentPpm.isSome]

structure RequiredStock extends MaterialFacts where
  minimumLengthUm : Int
  maximumLengthUm : Int
  minimumWidthUm : Int
  maximumWidthUm : Int
  minimumThicknessUm : Int
  maximumThicknessUm : Int
  minimumMoistureContentPpm : Int
  maximumMoistureContentPpm : Int
deriving DecidableEq

/-- `RequiredStock.validate_ranges`. -/
def RequiredStock.validate (stock : RequiredStock) : Bool :=
  stock.minimumLengthUm ≤ stock.maximumLengthUm && stock.minimumWidthUm ≤ stock.maximumWidthUm &&
    stock.minimumThicknessUm ≤ stock.maximumThicknessUm &&
    stock.minimumMoistureContentPpm ≤ stock.maximumMoistureContentPpm

structure WorkshopSetup where
  machine : MachineIdentity
  wcs : WorkCoordinateSystem
  fixture : FixtureIdentity
  keepouts : KeepoutSet
  tools : List ToolMeasurement
  stock : List StockIdentity
deriving DecidableEq

/-- `(pocket_number, tool_id)`. -/
def ToolIdentity.position (tool : ToolIdentity) : Nat ×ₗ Token :=
  toLex (tool.pocketNumber, tool.toolId)

/-- `WorkshopSetup.validate_canonical_collections`, with the validators of its parts. -/
def WorkshopSetup.validate (setup : WorkshopSetup) : Bool :=
  setup.machine.validate && setup.wcs.verificationEvidence.validateState &&
    setup.fixture.verificationEvidence.validateState && setup.keepouts.validate &&
    hasLength 1 maxTools setup.tools && setup.tools.all ToolMeasurement.validate &&
    hasLength 1 maxStockItems setup.stock && setup.stock.all StockIdentity.validate &&
    isSortedSet (setup.tools.map fun tool => tool.position) &&
    isSortedSet (setup.stock.map (·.stockId))

/-! ## The policy of the server -/

structure MeasurementRequirement where
  measurementId : Token
  nominalUm : Int
  minimumAcceptableUm : Int
  maximumAcceptableUm : Int
deriving DecidableEq

/-- `validate_limits`. -/
def MeasurementRequirement.validate (requirement : MeasurementRequirement) : Bool :=
  requirement.minimumAcceptableUm ≤ requirement.nominalUm &&
    requirement.nominalUm ≤ requirement.maximumAcceptableUm

structure DimensionalMeasurement extends MeasurementRequirement where
  measuredUm : Int
deriving DecidableEq

def DimensionalMeasurement.withinLimits (measurement : DimensionalMeasurement) : Bool :=
  measurement.minimumAcceptableUm ≤ measurement.measuredUm &&
    measurement.measuredUm ≤ measurement.maximumAcceptableUm

structure RequiredIndependentEngine where
  engineId : Token
  engineVersion : Token
  binarySha256 : Sha256
  configSha256 : Sha256
deriving DecidableEq

structure WorkshopVerificationPolicy where
  policyId : Token
  policyVersion : Token
  setupEvidenceNotBefore : Timestamp
  stageEvidenceNotBefore : Timestamp
  maximumSetupEvidenceAgeSeconds : Int
  maximumStageEvidenceAgeSeconds : Int
  maximumAttestationValiditySeconds : Int
  maximumChainDurationSeconds : Int
  machine : RequiredMachine
  wcs : RequiredWcs
  fixture : RequiredFixture
  tools : List RequiredTool
  stock : List RequiredStock
  machinePrograms : List MachineProgramIdentity
  machineProgramSetSha256 : Sha256
  couponMaterialBatchIds : List Token
  couponSpecificationSha256 : Sha256
  couponMeasurements : List MeasurementRequirement
  independentEngine : RequiredIndependentEngine
  expectedRemovalSha256 : Sha256
  maximumRemovalDeviationUm : Int
  minimumAirCutClearanceUm : Int
  airCutSupervisor : SignerIdentity
  referencePartProgramId : Token
  referencePartProgramSha256 : Sha256
  referencePartMeasurements : List MeasurementRequirement
  loadTestPlanSha256 : Sha256
  minimumAppliedLoadN : Int
  minimumLoadDurationSeconds : Int
  maximumDeflectionUm : Int
  maximumResidualDeflectionUm : Int
deriving DecidableEq

/-! ## The evidence of the stages -/

inductive Outcome
  | pass
  | fail
deriving DecidableEq

structure CouponResult where
  couponId : Token
  stockId : Token
  materialBatchId : Token
  supplierLotId : Token
  specificationSha256 : Sha256
  measurements : List DimensionalMeasurement
  outcome : Outcome
deriving DecidableEq

/-- Measurements in the order of their ids, each with limits around its nominal value. -/
def canonicalMeasurements (measurements : List DimensionalMeasurement) : Bool :=
  hasLength 1 maxMeasurements measurements &&
    measurements.all (fun measurement => measurement.toMeasurementRequirement.validate) &&
    isSortedSet (measurements.map (·.measurementId))

/-- `CouponResult.validate_measurements`. -/
def CouponResult.validate (coupon : CouponResult) : Bool :=
  canonicalMeasurements coupon.measurements &&
    (coupon.outcome != .pass || coupon.measurements.all DimensionalMeasurement.withinLimits)

structure CouponQualification where
  evidence : EvidenceReference
  coupons : List CouponResult
deriving DecidableEq

/-- `CouponQualification.validate_state`. -/
def CouponQualification.validate (qualification : CouponQualification) : Bool :=
  assertedWith qualification.evidence [!qualification.coupons.isEmpty] &&
    hasLength 0 maxCoupons qualification.coupons && qualification.coupons.all CouponResult.validate &&
    isSortedSet (qualification.coupons.map (·.couponId))

structure RemovalFacts where
  comparisonEngineId : Option Token
  comparisonEngineVersion : Option Token
  comparisonEngineBinarySha256 : Option Sha256
  comparisonEngineConfigSha256 : Option Sha256
  expectedRemovalSha256 : Option Sha256
  observedRemovalSha256 : Option Sha256
  maximumDeviationUm : Option Int
  allowedDeviationUm : Option Int
  outcome : Option Outcome
deriving DecidableEq

structure RemovalComparison extends RemovalFacts where
  evidence : EvidenceReference
deriving DecidableEq

/-- A measured value that is not over an allowed one, where both are given. -/
def notOver (measured allowed : Option Int) : Bool :=
  match measured, allowed with
  | some measured, some allowed => measured ≤ allowed
  | _, _ => true

/-- `RemovalComparison.validate_state`. -/
def RemovalComparison.validate (comparison : RemovalComparison) : Bool :=
  assertedWith comparison.evidence [comparison.comparisonEngineId.isSome,
      comparison.comparisonEngineVersion.isSome, comparison.comparisonEngineBinarySha256.isSome,
      comparison.comparisonEngineConfigSha256.isSome, comparison.expectedRemovalSha256.isSome,
      comparison.observedRemovalSha256.isSome, comparison.maximumDeviationUm.isSome,
      comparison.allowedDeviationUm.isSome, comparison.outcome.isSome] &&
    (comparison.outcome != some .pass ||
      notOver comparison.maximumDeviationUm comparison.allowedDeviationUm)

structure AirCutFacts where
  machineProgramSetSha256 : Option Sha256
  supervisor : Option SignerIdentity
  minimumClearanceUm : Option Int
  outcome : Option Outcome
deriving DecidableEq

structure AirCutAssessment extends AirCutFacts where
  evidence : EvidenceReference
  supervisorSignatureBase64 : Option String
deriving DecidableEq

/-- `AirCutAssessment.validate_state`. -/
def AirCutAssessment.validate (airCut : AirCutAssessment) : Bool :=
  assertedWith airCut.evidence [airCut.machineProgramSetSha256.isSome, airCut.supervisor.isSome,
    airCut.supervisorSignatureBase64.isSome, airCut.minimumClearanceUm.isSome,
    airCut.outcome.isSome]

structure PreCutEvidence where
  coupons : CouponQualification
  independentRemovalComparison : RemovalComparison
  supervisedAirCut : AirCutAssessment
deriving DecidableEq

def PreCutEvidence.validate (evidence : PreCutEvidence) : Bool :=
  evidence.coupons.validate && evidence.independentRemovalComparison.validate &&
    evidence.supervisedAirCut.validate

structure ReferencePartFacts where
  partId : Option Token
  machineProgramId : Option Token
  machineProgramSha256 : Option Sha256
  metrology : List DimensionalMeasurement
  outcome : Option Outcome
deriving DecidableEq

structure ReferencePartAssessment extends ReferencePartFacts where
  evidence : EvidenceReference
deriving DecidableEq

/-- `ReferencePartAssessment.validate_state`. -/
def ReferencePartAssessment.validate (part : ReferencePartAssessment) : Bool :=
  assertedWith part.evidence [part.partId.isSome, part.machineProgramId.isSome,
      part.machineProgramSha256.isSome, part.outcome.isSome, !part.metrology.isEmpty] &&
    (part.metrology.isEmpty || canonicalMeasurements part.metrology) &&
    (part.outcome != some .pass || part.metrology.all DimensionalMeasurement.withinLimits)

structure PrototypeFacts where
  prototypeId : Option Token
  buildManifestSha256 : Option Sha256
  inspectionSha256 : Option Sha256
  outcome : Option Outcome
deriving DecidableEq

structure PrototypeAssessment extends PrototypeFacts where
  evidence : EvidenceReference
deriving DecidableEq

/-- `PrototypeAssessment.validate_state`. -/
def PrototypeAssessment.validate (prototype : PrototypeAssessment) : Bool :=
  assertedWith prototype.evidence [prototype.prototypeId.isSome,
    prototype.buildManifestSha256.isSome, prototype.inspectionSha256.isSome,
    prototype.outcome.isSome]

structure LoadTestFacts where
  prototypeId : Option Token
  prototypeBuildManifestSha256 : Option Sha256
  prototypeInspectionSha256 : Option Sha256
  prototypeEvidenceSha256 : Option Sha256
  testPlanSha256 : Option Sha256
  startedAt : Option Timestamp
  completedAt : Option Timestamp
  appliedLoadN : Option Int
  durationSeconds : Option Int
  maximumDeflectionUm : Option Int
  allowedDeflectionUm : Option Int
  residualDeflectionUm : Option Int
  allowedResidualDeflectionUm : Option Int
  outcome : Option Outcome
deriving DecidableEq

structure LoadTestAssessment extends LoadTestFacts where
  evidence : EvidenceReference
deriving DecidableEq

/-- The times of a load test support the duration it claims. -/
def LoadTestFacts.supportsDuration (test : LoadTestFacts) : Bool :=
  match test.startedAt, test.completedAt, test.durationSeconds with
  | some started, some completed, some duration =>
    started < completed && duration ≤ completed - started
  | _, _, _ => true

/-- `LoadTestAssessment.validate_state`. -/
def LoadTestAssessment.validate (test : LoadTestAssessment) : Bool :=
  assertedWith test.evidence [test.prototypeId.isSome, test.prototypeBuildManifestSha256.isSome,
      test.prototypeInspectionSha256.isSome, test.prototypeEvidenceSha256.isSome,
      test.testPlanSha256.isSome, test.startedAt.isSome, test.completedAt.isSome,
      test.appliedLoadN.isSome, test.durationSeconds.isSome, test.maximumDeflectionUm.isSome,
      test.allowedDeflectionUm.isSome, test.residualDeflectionUm.isSome,
      test.allowedResidualDeflectionUm.isSome, test.outcome.isSome] &&
    test.supportsDuration &&
    (test.outcome != some .pass || (notOver test.maximumDeflectionUm test.allowedDeflectionUm &&
      notOver test.residualDeflectionUm test.allowedResidualDeflectionUm))

structure FinalWorkshopEvidence where
  prototypeBuild : PrototypeAssessment
  loadTest : LoadTestAssessment
deriving DecidableEq

def FinalWorkshopEvidence.validate (evidence : FinalWorkshopEvidence) : Bool :=
  evidence.prototypeBuild.validate && evidence.loadTest.validate

/-! ## Attestations -/

structure WorkshopAttestationStatement where
  attestationId : Token
  stage : WorkshopStage
  run : WorkshopRun
  previousAttestationSha256 : Option Sha256
  serverNonce : String
  issuedAt : Timestamp
  expiresAt : Timestamp
  maker : SignerIdentity
  checker : SignerIdentity
  setup : WorkshopSetup
  preCut : Option PreCutEvidence := none
  referencePart : Option ReferencePartAssessment := none
  finalWorkshop : Option FinalWorkshopEvidence := none
deriving DecidableEq

/-- The stages whose evidence a statement carries. -/
def expectedPresence : WorkshopStage → Bool × Bool × Bool
  | .preCut => (true, false, false)
  | .referencePart => (false, true, false)
  | .finalWorkshop => (false, false, true)

/-- `validate_stage_shape`. -/
def WorkshopAttestationStatement.validateStageShape (statement : WorkshopAttestationStatement) :
    Bool :=
  statement.issuedAt < statement.expiresAt &&
    statement.maker.principalId != statement.checker.principalId &&
    (statement.preCut.isSome, statement.referencePart.isSome, statement.finalWorkshop.isSome) ==
      expectedPresence statement.stage &&
    (statement.stage == .preCut) == statement.previousAttestationSha256.isNone

structure SignedWorkshopAttestation where
  statement : WorkshopAttestationStatement
  makerSignatureBase64 : String
  checkerSignatureBase64 : String
deriving DecidableEq

structure VerifiedWorkshopChain where
  run : WorkshopRun
  runSha256 : Sha256
  attestationSha256 : List Sha256
  statementSha256 : List Sha256
  serverNonceSha256 : List Sha256
  finalAttestationId : Token
deriving DecidableEq

end Custombuild.Workshop
