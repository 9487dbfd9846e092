/-
  The evidence of a stage against the policy, and the loop over the three attestations.
  Source: `services/api/app/workshop_trust.py`, `_verify_stage_evidence` and
  `verify_workshop_attestation_chain`.
-/
import Custombuild.Workshop.Verifier

namespace Custombuild.Workshop

open Custombuild.Lib

/-! ## Policy -/

/-- `_require_verified`. -/
def requireVerified (label : String) (reference : EvidenceReference) (issuedAt : Timestamp)
    (observedAfter : Option Timestamp) (observedNotBefore : Timestamp) (maximumAgeSeconds : Int) :
    Except WorkshopTrustError Unit := do
  require (reference.status == .verified)
    ⟨"required " ++ label ++ " evidence is " ++ reference.status.lower⟩
  let observedAt ← demand reference.observedAt
    ⟨"required " ++ label ++ " evidence was not observed before attestation"⟩
  require (decide (observedAt ≤ issuedAt))
    ⟨"required " ++ label ++ " evidence was not observed before attestation"⟩
  require (observedAfter.all fun after => decide (after < observedAt))
    ⟨"required " ++ label ++ " evidence predates its prior workshop stage"⟩
  require (decide (observedNotBefore ≤ observedAt))
    ⟨"required " ++ label ++ " evidence predates server policy"⟩
  require (decide (issuedAt - observedAt ≤ maximumAgeSeconds))
    ⟨"required " ++ label ++ " evidence exceeds server-policy age"⟩

/-- A value that is given and lies within limits. -/
def within (low high : Int) (value : Option Int) : Bool :=
  value.any fun v => decide (low ≤ v) && decide (v ≤ high)

/-- The measurements of a tool against its requirement. -/
def toolMeets (tool : ToolMeasurement) (required : RequiredTool) : Bool :=
  within required.minimumDiameterUm required.maximumDiameterUm tool.measuredDiameterUm &&
    within required.minimumLengthOffsetUm required.maximumLengthOffsetUm
      tool.measuredLengthOffsetUm &&
    tool.measuredRunoutUm.any (fun v => decide (v ≤ required.maximumRunoutUm)) &&
    within required.minimumStickoutUm required.maximumStickoutUm tool.measuredStickoutUm &&
    tool.measuredUsableFluteLengthUm.any fun v => decide (required.minimumUsableFluteLengthUm ≤ v)

/-- The measurements of a stock item against its requirement. -/
def stockMeets (stock : StockIdentity) (required : RequiredStock) : Bool :=
  within required.minimumLengthUm required.maximumLengthUm (stock.dimensions.map (·.lengthUm)) &&
    within required.minimumWidthUm required.maximumWidthUm (stock.dimensions.map (·.widthUm)) &&
    within required.minimumThicknessUm required.maximumThicknessUm
      (stock.dimensions.map (·.thicknessUm)) &&
    within required.minimumMoistureContentPpm required.maximumMoistureContentPpm
      stock.moistureContentPpm

section Chain

variable {Bytes : Type} [DecidableEq Bytes] (lib : Platform Bytes)

/-- `_verify_setup_policy`. -/
def verifySetupPolicy (setup : WorkshopSetup) (policy : WorkshopVerificationPolicy) :
    Except WorkshopTrustError Unit := do
  require (setup.machine.toRequiredMachine == policy.machine)
    ⟨"workshop machine does not match server policy"⟩
  require (setup.wcs.toRequiredWcs == policy.wcs) ⟨"workshop WCS does not match server policy"⟩
  let keepoutDigest ← documentSha256 lib (.keepouts setup.keepouts.volumes)
  require (setup.fixture.toFixtureFacts == policy.fixture.toFixtureFacts &&
      keepoutDigest == policy.fixture.keepoutVolumesSha256)
    ⟨"workshop fixture or keepouts do not match server policy"⟩
  require (setup.tools.map (fun tool => tool.position) ==
      policy.tools.map fun tool => tool.position)
    ⟨"workshop tools do not exactly cover server policy"⟩
  forEach (fun (tool, required) => do
      require (tool.toToolIdentity == required.toToolIdentity)
        ⟨"physical tool identity does not match server policy"⟩
      require (toolMeets tool required) ⟨"physical tool measurements violate server policy"⟩)
    (setup.tools.zip policy.tools)
  require (setup.stock.map (·.stockId) == policy.stock.map (·.stockId))
    ⟨"workshop stock does not exactly cover server policy"⟩
  forEach (fun (stock, required) => do
      require (stock.toMaterialFacts == required.toMaterialFacts)
        ⟨"physical stock identity does not match server policy"⟩
      require (stockMeets stock required) ⟨"physical stock measurements violate server policy"⟩)
    (setup.stock.zip policy.stock)

/-- The validity of the calibration when the statement was issued and now. -/
def calibrationValid (machine : MachineIdentity) (issuedAt : Timestamp) (now : Int) : Bool :=
  match machine.calibratedAt, machine.calibrationExpiresAt,
    machine.calibrationEvidence.observedAt with
  | some calibrated, some expires, some observed =>
    decide (calibrated ≤ issuedAt) && decide (issuedAt ≤ expires) && decide (now ≤ expires.us) &&
      decide (calibrated ≤ observed)
  | _, _, _ => false

/-- A coupon by its stock, batch and lot. -/
def couponKey (stockId batchId lotId : Token) : Token ×ₗ Token ×ₗ Token :=
  toLex (stockId, toLex (batchId, lotId))

/-- The branch of `PRE_CUT`. -/
def verifyPreCut (statement : WorkshopAttestationStatement) (previousIssuedAt : Option Timestamp)
    (notBefore : Timestamp) (policy : WorkshopVerificationPolicy) (evidence : PreCutEvidence) :
    Except WorkshopTrustError Unit := do
  let observed label reference := requireVerified label reference statement.issuedAt
    previousIssuedAt notBefore policy.maximumStageEvidenceAgeSeconds
  observed "coupon qualification" evidence.coupons.evidence
  let coupons := evidence.coupons.coupons
  require (!coupons.isEmpty && coupons.all fun coupon => coupon.outcome == .pass)
    ⟨"every required coupon must pass"⟩
  require (sortedSet (coupons.map fun coupon =>
        couponKey coupon.stockId coupon.materialBatchId coupon.supplierLotId) ==
      policy.stock.map fun stock =>
        couponKey stock.stockId stock.supplierBatchId stock.supplierLotId)
    ⟨"coupon stock, batch and lot do not match server policy"⟩
  require (coupons.all fun coupon =>
      coupon.specificationSha256 == policy.couponSpecificationSha256 &&
        coupon.measurements.map (·.toMeasurementRequirement) == policy.couponMeasurements)
    ⟨"coupon specification does not match server policy"⟩
  let comparison := evidence.independentRemovalComparison
  observed "independent removal comparison" comparison.evidence
  require (comparison.outcome == some .pass) ⟨"independent removal comparison did not pass"⟩
  let engine := policy.independentEngine
  require (comparison.comparisonEngineId == some engine.engineId &&
      comparison.comparisonEngineVersion == some engine.engineVersion &&
      comparison.comparisonEngineBinarySha256 == some engine.binarySha256 &&
      comparison.comparisonEngineConfigSha256 == some engine.configSha256 &&
      comparison.expectedRemovalSha256 == some policy.expectedRemovalSha256 &&
      comparison.allowedDeviationUm == some policy.maximumRemovalDeviationUm &&
      comparison.comparisonEngineId != some statement.run.postprocessorId &&
      comparison.comparisonEngineBinarySha256 != some statement.run.postprocessorBinarySha256 &&
      comparison.comparisonEngineConfigSha256 != some statement.run.postprocessorConfigSha256)
    ⟨"removal comparison is not the independent server-policy check"⟩
  let airCut := evidence.supervisedAirCut
  observed "supervised air cut" airCut.evidence
  require (airCut.outcome == some .pass) ⟨"supervised air cut did not pass"⟩
  require (airCut.supervisor == some policy.airCutSupervisor)
    ⟨"air cut supervisor does not match server policy"⟩
  require (airCut.machineProgramSetSha256 == some statement.run.machineProgramSetSha256)
    ⟨"air cut used another machine program set"⟩
  require (airCut.minimumClearanceUm.any fun v => decide (policy.minimumAirCutClearanceUm ≤ v))
    ⟨"air cut clearance violates server policy"⟩

/-- The branch of `REFERENCE_PART`. -/
def verifyReferencePart (statement : WorkshopAttestationStatement)
    (previousIssuedAt : Option Timestamp) (notBefore : Timestamp)
    (policy : WorkshopVerificationPolicy) (part : ReferencePartAssessment) :
    Except WorkshopTrustError Unit := do
  requireVerified "reference part and metrology" part.evidence statement.issuedAt previousIssuedAt
    notBefore policy.maximumStageEvidenceAgeSeconds
  require (part.outcome == some .pass && !part.metrology.isEmpty)
    ⟨"reference part and metrology did not pass"⟩
  require (part.machineProgramId == some policy.referencePartProgramId &&
      part.machineProgramSha256 == some policy.referencePartProgramSha256 &&
      (statement.run.machinePrograms.any fun program =>
        program.programId == policy.referencePartProgramId &&
          program.purpose == "REFERENCE_PART" &&
          program.sha256 == policy.referencePartProgramSha256 &&
          program.wcsId == policy.wcs.wcsId &&
          part.partId.any fun partId => program.partIds.contains partId) &&
      part.metrology.map (·.toMeasurementRequirement) == policy.referencePartMeasurements)
    ⟨"reference part does not match server policy"⟩

/-- The load test follows the prototype it names. -/
def loadTestFollows (prototype : PrototypeAssessment) (test : LoadTestAssessment) : Bool :=
  match prototype.evidence.observedAt, test.startedAt, test.completedAt,
    test.evidence.observedAt with
  | some built, some started, some completed, some observed =>
    decide (built < started) && decide (completed ≤ observed)
  | _, _, _, _ => false

/-- The branch of `FINAL_WORKSHOP`. -/
def verifyFinalWorkshop (statement : WorkshopAttestationStatement)
    (previousIssuedAt : Option Timestamp) (notBefore : Timestamp)
    (policy : WorkshopVerificationPolicy) (final : FinalWorkshopEvidence) :
    Except WorkshopTrustError Unit := do
  let observed label reference := requireVerified label reference statement.issuedAt
    previousIssuedAt notBefore policy.maximumStageEvidenceAgeSeconds
  let prototype := final.prototypeBuild
  let test := final.loadTest
  observed "prototype build" prototype.evidence
  observed "prototype load test" test.evidence
  require (prototype.outcome == some .pass && test.outcome == some .pass)
    ⟨"prototype build and load test must both pass"⟩
  require (prototype.buildManifestSha256 == some statement.run.manifestSha256)
    ⟨"prototype was built from another manifest"⟩
  require (test.prototypeId == prototype.prototypeId &&
      test.prototypeBuildManifestSha256 == prototype.buildManifestSha256 &&
      test.prototypeInspectionSha256 == prototype.inspectionSha256 &&
      test.prototypeEvidenceSha256 == prototype.evidence.sha256 &&
      test.testPlanSha256 == some policy.loadTestPlanSha256 &&
      test.appliedLoadN.any (fun v => decide (policy.minimumAppliedLoadN ≤ v)) &&
      test.durationSeconds.any (fun v => decide (policy.minimumLoadDurationSeconds ≤ v)) &&
      test.allowedDeflectionUm == some policy.maximumDeflectionUm &&
      test.allowedResidualDeflectionUm == some policy.maximumResidualDeflectionUm &&
      loadTestFollows prototype test)
    ⟨"prototype load test does not match server policy"⟩

/-- The evidence of the stage itself. -/
def verifyStageBranch (statement : WorkshopAttestationStatement)
    (previousIssuedAt : Option Timestamp) (policy : WorkshopVerificationPolicy) :
    Except WorkshopTrustError Unit :=
  let notBefore := max policy.stageEvidenceNotBefore statement.run.generationFinishedAt
  match statement.stage with
  | .preCut => do
    let evidence ← demand statement.preCut ⟨"PRE_CUT evidence is missing"⟩
    verifyPreCut statement previousIssuedAt notBefore policy evidence
  | .referencePart => do
    let part ← demand statement.referencePart ⟨"reference-part evidence is missing"⟩
    verifyReferencePart statement previousIssuedAt notBefore policy part
  | .finalWorkshop => do
    let final ← demand statement.finalWorkshop ⟨"final-workshop evidence is missing"⟩
    verifyFinalWorkshop statement previousIssuedAt notBefore policy final

/-- `_verify_stage_evidence`. -/
def verifyStageEvidence (statement : WorkshopAttestationStatement) (now : Int)
    (previousIssuedAt : Option Timestamp) (policy : WorkshopVerificationPolicy) :
    Except WorkshopTrustError Unit := do
  forEach (fun (label, reference) => requireVerified label reference statement.issuedAt none
      policy.setupEvidenceNotBefore policy.maximumSetupEvidenceAgeSeconds)
    (allSetupReferences statement.setup)
  verifySetupPolicy lib statement.setup policy
  require (calibrationValid statement.setup.machine statement.issuedAt now)
    ⟨"machine calibration is not valid for final eligibility"⟩
  verifyStageBranch statement previousIssuedAt policy

/-! ## The chain -/

/-- The arguments of the verifier besides the registry. -/
structure ChainRequest (Bytes : Type) where
  attestationBytes : List Bytes
  expectedRun : WorkshopRun
  expectedPolicy : WorkshopVerificationPolicy
  expectedServerNonces : List (String × String)
  evidence : EvidenceStore Bytes
  /-- Microseconds in UTC. -/
  now : Int

/-- What the loop carries from one attestation to the next. -/
structure ChainState where
  attestationDigests : List Sha256 := []
  statementDigests : List Sha256 := []
  previousIssuedAt : Option Timestamp := none
  firstIssuedAt : Option Timestamp := none
  previousAttestationDigest : Option Sha256 := none
  sharedSetup : Option WorkshopSetup := none
  attestationIds : List Token := []
  evidence : EvidenceState := {}

/-- The binding of a statement to the run, its stage, its nonce, its predecessor and its times. -/
def checkStatement (request : ChainRequest Bytes) (nonces : Dict WorkshopStage String)
    (expectedStage : WorkshopStage) (state : ChainState)
    (statement : WorkshopAttestationStatement) : Except WorkshopTrustError Unit := do
  let run := request.expectedRun
  let policy := request.expectedPolicy
  require (statement.stage == expectedStage) ⟨"workshop attestation stages are out of order"⟩
  require (!state.attestationIds.contains statement.attestationId)
    ⟨"workshop attestation IDs must be unique"⟩
  require (statement.run == run)
    ⟨"workshop attestation is bound to another immutable run"⟩
  require (some statement.serverNonce == nonces.get expectedStage)
    ⟨"workshop attestation server nonce does not match"⟩
  require (statement.previousAttestationSha256 == state.previousAttestationDigest)
    ⟨"workshop attestation hash chain is broken"⟩
  require (state.previousIssuedAt.all fun previous => decide (previous < statement.issuedAt))
    ⟨"workshop stage issue times must be strictly increasing"⟩
  require (decide (run.generationFinishedAt < statement.issuedAt))
    ⟨"workshop attestation predates executable generation"⟩
  require (decide (statement.issuedAt.us ≤ request.now))
    ⟨"workshop attestation was issued in the future"⟩
  require (decide (request.now < statement.expiresAt.us)) ⟨"workshop attestation is expired"⟩
  require (decide (statement.expiresAt - statement.issuedAt ≤
      policy.maximumAttestationValiditySeconds))
    ⟨"workshop attestation validity exceeds server policy"⟩
  require (state.firstIssuedAt.all fun first =>
      decide (statement.issuedAt - first ≤ policy.maximumChainDurationSeconds))
    ⟨"workshop attestation chain exceeds server-policy duration"⟩
  require (state.sharedSetup.all fun setup => statement.setup == setup)
    ⟨"workshop setup changed within the attestation chain"⟩

/-- The signers of an attestation against the registry; the digest of its statement. -/
def checkSigners (registry : WorkshopTrustRegistry) (request : ChainRequest Bytes)
    (attestation : SignedWorkshopAttestation) (statementRaw : Json) :
    Except WorkshopTrustError Sha256 := do
  let statement := attestation.statement
  let organization := request.expectedRun.organization
  let statementBytes ← canonicalJsonBytes lib statementRaw
  let statementDigest := lib.sha256 statementBytes
  require (!registry.revokedStatementSha256.contains statementDigest)
    ⟨"workshop attestation statement is revoked"⟩
  let makerIssuer ← findIssuer registry statement.maker .workshopMaker organization
    statement.stage statement.issuedAt request.now
  let checkerIssuer ← findIssuer registry statement.checker .workshopChecker organization
    statement.stage statement.issuedAt request.now
  verifySignature lib makerIssuer attestation.makerSignatureBase64 statementBytes "workshop maker"
  verifySignature lib checkerIssuer attestation.checkerSignatureBase64 statementBytes
    "workshop checker"
  verifyAirCutSupervisor lib registry statement request.now
  return statementDigest

/-- One turn of the loop over the attestations. -/
def verifyStage (registry : WorkshopTrustRegistry) (request : ChainRequest Bytes)
    (nonces : Dict WorkshopStage String) (state : ChainState) (item : WorkshopStage × Bytes) :
    Except WorkshopTrustError ChainState := do
  let (attestation, statementRaw) ← loadAttestation lib item.2
  let statement := attestation.statement
  checkStatement request nonces item.1 state statement
  let statementDigest ← checkSigners lib registry request attestation statementRaw
  verifyClaimBindings lib statement
  let evidence ← (allSetupReferences statement.setup ++ stageReferences statement).foldlM
    (verifyReference lib registry request.evidence) state.evidence
  verifyStageEvidence lib statement request.now state.previousIssuedAt request.expectedPolicy
  let attestationDigest := lib.sha256 item.2
  return {
    attestationDigests := state.attestationDigests ++ [attestationDigest]
    statementDigests := state.statementDigests ++ [statementDigest]
    previousIssuedAt := some statement.issuedAt
    firstIssuedAt := some (state.firstIssuedAt.getD statement.issuedAt)
    previousAttestationDigest := some attestationDigest
    sharedSetup := some (state.sharedSetup.getD statement.setup)
    attestationIds := state.attestationIds ++ [statement.attestationId]
    evidence := evidence }

/-- The checks of the run, of the policy and of the sizes of the evidence. -/
def checkRequest (request : ChainRequest Bytes) : Except WorkshopTrustError Unit := do
  let run := request.expectedRun
  let policy := request.expectedPolicy
  require (run.validate lib) ⟨"expected workshop run is invalid"⟩
  require (policy.validate lib) ⟨"expected workshop verification policy is invalid"⟩
  let policyDigest ← workshopPolicySha256 lib policy
  require (policyDigest == run.workshopPolicySha256)
    ⟨"workshop verification policy does not match the immutable run"⟩
  require (decide (run.generationFinishedAt.us ≤ request.now))
    ⟨"workshop run generation finished in the future"⟩
  require (run.machineProgramKind == .executable)
    ⟨"an executable machine program identity is required"⟩
  require (run.machinePrograms == policy.machinePrograms &&
      run.machineProgramSetSha256 == policy.machineProgramSetSha256)
    ⟨"workshop executable program manifest does not match server policy"⟩
  require (decide (request.evidence.objects.size ≤ 100000))
    ⟨"workshop evidence object index exceeds its size limit"⟩
  require (decide (request.evidence.attachments.size ≤ 100000))
    ⟨"workshop evidence attachment index exceeds its size limit"⟩

/-- The checks of the chain as a whole. -/
def checkChain (request : ChainRequest Bytes) : Except WorkshopTrustError Unit := do
  require (request.attestationBytes.length == stageOrder.length)
    ⟨"workshop attestation chain must contain exactly three stages"⟩
  require (decide ((request.attestationBytes.map lib.size).sum ≤ maxChainBytes))
    ⟨"workshop attestation chain exceeds its total size limit"⟩

/-- `verify_workshop_attestation_chain`. -/
def verifyWorkshopAttestationChain (trustRegistry : WorkshopTrustRegistry)
    (request : ChainRequest Bytes) : Except WorkshopTrustError VerifiedWorkshopChain := do
  let registry ← loadRegistry trustRegistry
  checkRequest lib request
  let nonces ← expectedNonces request.expectedServerNonces
  checkChain lib request
  let runDigest ← workshopRunSha256 lib request.expectedRun
  require (!registry.revokedRunSha256.contains runDigest) ⟨"workshop run is revoked"⟩
  let final ← (stageOrder.zip request.attestationBytes).foldlM
    (verifyStage lib registry request nonces) {}
  return {
    run := request.expectedRun
    runSha256 := runDigest
    attestationSha256 := final.attestationDigests
    statementSha256 := final.statementDigests
    serverNonceSha256 := stageOrder.map fun stage =>
      lib.sha256 (lib.encode ((nonces.get stage).getD ""))
    finalAttestationId := final.attestationIds.getLastD "" }

end Chain

/-! ## A chain for one kind of tool in two pockets -/

section Sample

/-- A pocket in strokes. -/
def strokes (pocket : Nat) : String := String.ofList (List.replicate pocket 'I')

/-- Documents are known by names, which stand for their bytes. -/
def documentName : Document → String
  | .run _ => "run"
  | .policy _ => "policy"
  | .programSet _ => "programs"
  | .keepouts _ => "keepouts"
  | .claim claimType (.tool facts) => claimType ++ "/" ++ strokes facts.pocketNumber
  | .claim claimType _ => claimType

/-- The reference to a record, which is known by the id of the evidence. -/
def namedReference (evidenceId claimType claimName : String) (observedAt : Timestamp) :
    EvidenceReference where
  status := .verified
  evidenceId := some evidenceId
  evidenceVersion := some "1"
  claimType := some claimType
  claimSha256 := some claimName
  sha256 := some ("record/" ++ evidenceId)
  sizeBytes := some ("record/" ++ evidenceId).utf8ByteSize
  mediaType := some workshopEvidenceMediaType
  observedAt := some observedAt

/-- The evidence of one claim, named after its type. -/
def claimReference (claimType : Token) (observedAt : Timestamp) : EvidenceReference :=
  namedReference claimType claimType claimType observedAt

/-- The tool in a pocket. -/
def sampleTool (pocket : Nat) : ToolMeasurement where
  toolId := "endmill-6mm"
  toolVersion := "1.0.0"
  serialNumber := "TOOL-" ++ toString pocket
  holderId := "ER32"
  pocketNumber := pocket
  measuredDiameterUm := some 5998
  measuredLengthOffsetUm := some 52010
  measuredRunoutUm := some 8
  measuredStickoutUm := some 30000
  measuredUsableFluteLengthUm := some 22000
  measurementEvidence := namedReference ("pocket-" ++ toString pocket) "tool-measurement"
    ("tool-measurement/" ++ strokes pocket) 50

def sampleMachine : RequiredMachine :=
  ⟨"cnc-01", "Acme", "Router-X", "SN-10001", "LinuxCNC", "2.9.4", "cnc-01-oak", "4.2.0", "profile"⟩

def sampleWcs : RequiredWcs := ⟨"G54", "1.0.0", 0, 0, 18000, "axes"⟩

def sampleFixture : FixtureFacts := ⟨"vacuum-bed", "3.0.0", "FIX-008", "fixture-setup", "clamping"⟩

def sampleMaterial : MaterialFacts := ⟨"sheet-001", "oak-plywood", "2026.1", "BATCH", "LOT", .x⟩

def sampleSetup : WorkshopSetup where
  machine := { sampleMachine with
    calibrationId := "cal"
    calibratedAt := some 40
    calibrationExpiresAt := some 2000
    calibrationEvidence := claimReference "machine-calibration" 50 }
  wcs := { sampleWcs with verificationEvidence := claimReference "wcs-verification" 50 }
  fixture := { sampleFixture with verificationEvidence := claimReference "fixture-verification" 50 }
  keepouts := { volumes := [], reviewEvidence := claimReference "keepout-review" 50 }
  tools := [sampleTool 1, sampleTool 2]
  stock := [{ sampleMaterial with
    dimensions := some ⟨2500000, 1250000, 18020⟩
    moistureContentPpm := some 82000
    materialCertificateEvidence := claimReference "material-certificate" 50
    measurementEvidence := claimReference "stock-measurement" 50 }]

def sampleProgram : MachineProgramIdentity where
  programId := "reference"
  purpose := "REFERENCE_PART"
  relativePath := "machine/reference.ngc"
  setupId := "setup-01"
  wcsId := "G54"
  stockId := "sheet-001"
  partIds := ["part-1"]
  operationSetSha256 := "operations"
  sha256 := "reference-program"
  sizeBytes := 2345
  mediaType := "text/x-gcode"

def sampleRequirement (measurementId : Token) : MeasurementRequirement :=
  ⟨measurementId, 10000, 9950, 10050⟩

def samplePolicy : WorkshopVerificationPolicy where
  policyId := "oak-bookcase-workshop"
  policyVersion := "1.0.0"
  setupEvidenceNotBefore := 0
  stageEvidenceNotBefore := 0
  maximumSetupEvidenceAgeSeconds := 1000
  maximumStageEvidenceAgeSeconds := 1000
  maximumAttestationValiditySeconds := 2000
  maximumChainDurationSeconds := 1000
  machine := sampleMachine
  wcs := sampleWcs
  fixture := { sampleFixture with keepoutVolumesSha256 := "keepouts" }
  tools := [1, 2].map fun pocket => { (sampleTool pocket).toToolIdentity with
    minimumDiameterUm := 5990
    maximumDiameterUm := 6010
    minimumLengthOffsetUm := 51900
    maximumLengthOffsetUm := 52100
    maximumRunoutUm := 10
    minimumStickoutUm := 29000
    maximumStickoutUm := 31000
    minimumUsableFluteLengthUm := 20000 }
  stock := [{ sampleMaterial with
    minimumLengthUm := 2499000
    maximumLengthUm := 2501000
    minimumWidthUm := 1249000
    maximumWidthUm := 1251000
    minimumThicknessUm := 17900
    maximumThicknessUm := 18100
    minimumMoistureContentPpm := 60000
    maximumMoistureContentPpm := 100000 }]
  machinePrograms := [sampleProgram]
  machineProgramSetSha256 := "programs"
  couponMaterialBatchIds := ["BATCH"]
  couponSpecificationSha256 := "coupon-specification"
  couponMeasurements := [sampleRequirement "dado-width"]
  independentEngine := ⟨"backplot", "5.0.0", "backplot-binary", "backplot-config"⟩
  expectedRemovalSha256 := "expected-removal"
  maximumRemovalDeviationUm := 50
  minimumAirCutClearanceUm := 20000
  airCutSupervisor := ⟨"supervisor-1", "supervisor-key"⟩
  referencePartProgramId := "reference"
  referencePartProgramSha256 := "reference-program"
  referencePartMeasurements := [sampleRequirement "reference-width"]
  loadTestPlanSha256 := "load-test-plan"
  minimumAppliedLoadN := 7500
  minimumLoadDurationSeconds := 80
  maximumDeflectionUm := 2000
  maximumResidualDeflectionUm := 250

def sampleRun : WorkshopRun where
  organization := "org-1"
  project := "project-1"
  designVersion := "design-v7"
  designReviewRelease := "release-7"
  designHash := "design"
  generationJob := "job-42"
  generationFinishedAt := 100
  productionContextHash := "context"
  manifestSha256 := "manifest"
  bundleSha256 := "bundle"
  operationsSha256 := "operations"
  generationPlanSha256 := "plan"
  workshopPolicySha256 := "policy"
  machineProgramKind := .executable
  machinePrograms := [sampleProgram]
  machineProgramSetSha256 := "programs"
  postprocessorId := "linuxcnc-production"
  postprocessorVersion := "2.0.0"
  postprocessorBinarySha256 := "postprocessor-binary"
  postprocessorConfigSha256 := "postprocessor-config"

def sampleSignature : String := String.ofList (List.replicate 86 'A' ++ ['=', '='])

def samplePreCut : PreCutEvidence where
  coupons := {
    evidence := claimReference "coupon-qualification" 150
    coupons := [{
      couponId := "coupon-001"
      stockId := "sheet-001"
      materialBatchId := "BATCH"
      supplierLotId := "LOT"
      specificationSha256 := "coupon-specification"
      measurements := [{ sampleRequirement "dado-width" with measuredUm := 10010 }]
      outcome := .pass }] }
  independentRemovalComparison := {
    evidence := claimReference "independent-removal-comparison" 150
    comparisonEngineId := some "backplot"
    comparisonEngineVersion := some "5.0.0"
    comparisonEngineBinarySha256 := some "backplot-binary"
    comparisonEngineConfigSha256 := some "backplot-config"
    expectedRemovalSha256 := some "expected-removal"
    observedRemovalSha256 := some "observed-removal"
    maximumDeviationUm := some 10
    allowedDeviationUm := some 50
    outcome := some .pass }
  supervisedAirCut := {
    evidence := claimReference "supervised-air-cut" 150
    machineProgramSetSha256 := some "programs"
    supervisor := some ⟨"supervisor-1", "supervisor-key"⟩
    supervisorSignatureBase64 := some sampleSignature
    minimumClearanceUm := some 25000
    outcome := some .pass }

def sampleReferencePart : ReferencePartAssessment where
  evidence := claimReference "reference-part-metrology" 250
  partId := some "part-1"
  machineProgramId := some "reference"
  machineProgramSha256 := some "reference-program"
  metrology := [{ sampleRequirement "reference-width" with measuredUm := 10010 }]
  outcome := some .pass

def sampleFinalWorkshop : FinalWorkshopEvidence where
  prototypeBuild := {
    evidence := claimReference "prototype-build" 350
    prototypeId := some "prototype-001"
    buildManifestSha256 := some "manifest"
    inspectionSha256 := some "inspection"
    outcome := some .pass }
  loadTest := {
    evidence := claimReference "prototype-load-test" 470
    prototypeId := some "prototype-001"
    prototypeBuildManifestSha256 := some "manifest"
    prototypeInspectionSha256 := some "inspection"
    prototypeEvidenceSha256 := some "record/prototype-build"
    testPlanSha256 := some "load-test-plan"
    startedAt := some 360
    completedAt := some 460
    appliedLoadN := some 8000
    durationSeconds := some 100
    maximumDeflectionUm := some 1200
    allowedDeflectionUm := some 2000
    residualDeflectionUm := some 120
    allowedResidualDeflectionUm := some 250
    outcome := some .pass }

def sampleNonces : List (String × String) :=
  [("PRE_CUT", "nonce-pre-cut-00000000000000000001"),
    ("REFERENCE_PART", "nonce-reference-000000000000000001"),
    ("FINAL_WORKSHOP", "nonce-final-workshop-0000000000001")]

/-- The statement of a stage before its evidence. -/
def sampleStatement (stage : WorkshopStage) (attestationId : Token)
    (previous : Option Sha256) (nonce : String) (issuedAt : Timestamp) :
    WorkshopAttestationStatement where
  attestationId := attestationId
  stage := stage
  run := sampleRun
  previousAttestationSha256 := previous
  serverNonce := nonce
  issuedAt := issuedAt
  expiresAt := 2000
  maker := ⟨"maker-1", "maker-key"⟩
  checker := ⟨"checker-1", "checker-key"⟩
  setup := sampleSetup

/-- The three statements, by the names of their attestations. -/
def sampleStatements : List (String × WorkshopAttestationStatement) :=
  [("attestation/1", { sampleStatement .preCut "attestation-1" none
      "nonce-pre-cut-00000000000000000001" 200 with preCut := some samplePreCut }),
    ("attestation/2", { sampleStatement .referencePart "attestation-2" (some "attestation/1")
      "nonce-reference-000000000000000001" 300 with referencePart := some sampleReferencePart }),
    ("attestation/3", { sampleStatement .finalWorkshop "attestation-3" (some "attestation/2")
      "nonce-final-workshop-0000000000001" 500 with finalWorkshop := some sampleFinalWorkshop })]

/-- Every reference of the chain, with the name of the photograph attached to its record. -/
def sampleEvidence (photo : Nat → String) : List (EvidenceReference × String) :=
  (["machine-calibration", "wcs-verification", "fixture-verification", "keepout-review",
      "material-certificate", "stock-measurement"].map fun claimType =>
    (claimReference claimType 50, "photo/" ++ claimType)) ++
  ([1, 2].map fun pocket => ((sampleTool pocket).measurementEvidence, photo pocket)) ++
  ([("coupon-qualification", 150), ("independent-removal-comparison", 150),
      ("supervised-air-cut", 150), ("reference-part-metrology", 250), ("prototype-build", 350),
      ("prototype-load-test", 470)].map fun (claimType, observedAt) =>
    (claimReference claimType observedAt, "photo/" ++ claimType))

/-- The record behind a reference. -/
def sampleRecord (entry : EvidenceReference × String) : WorkshopEvidenceRecord where
  evidenceId := entry.1.evidenceId.getD ""
  evidenceVersion := "1"
  claimType := entry.1.claimType.getD ""
  claimSha256 := entry.1.claimSha256.getD ""
  observedAt := entry.1.observedAt.getD 0
  attachments := [{
    attachmentId := "primary-record"
    purpose := "RAW_PHYSICAL_OBSERVATION"
    sha256 := entry.2
    sizeBytes := entry.2.utf8ByteSize
    mediaType := "application/octet-stream" }]

/-- The name that an object carries. -/
def nameOf (json : Json) : String :=
  match json.get "name" with
  | some (.str name) => name
  | _ => ""

/-- The libraries on documents known by their names. -/
def namedPlatform (photo : Nat → String) : Platform String where
  size := String.utf8ByteSize
  encode := id
  loads := fun name => some (.obj [("name", .str name),
    ("statement", .obj [("name", .str (name ++ "/statement"))])])
  dumps := nameOf
  modelDump := fun document => .obj [("name", .str (documentName document))]
  attestationFields := fun json => do
    let entry ← sampleStatements.find? fun entry => entry.1 == nameOf json
    return ⟨entry.2, sampleSignature, sampleSignature⟩
  recordFields := fun json => do
    let entry ← (sampleEvidence photo).find? fun entry => entry.1.sha256 == some (nameOf json)
    return sampleRecord entry
  sha256 := id
  ed25519Verify := fun _ _ _ => true

/-- A key of 32 bytes that starts with the given character. -/
def sampleKey (first : Char) : String :=
  String.ofList (first :: List.replicate 42 'A' ++ ['='])

/-- An issuer whose key is valid for the whole chain. -/
def sampleIssuer (principalId keyId : Token) (role : SignerRole) (first : Char) :
    TrustedWorkshopIssuer where
  principalId := principalId
  keyId := keyId
  organization := "org-1"
  role := role
  qualifiedStages := stageOrder
  publicKeyBase64 := sampleKey first
  notBefore := 0
  notAfter := 5000
  revokedAt := none

def sampleRegistry : WorkshopTrustRegistry where
  issuers := [sampleIssuer "checker-1" "checker-key" .workshopChecker 'A',
    sampleIssuer "maker-1" "maker-key" .workshopMaker 'B',
    sampleIssuer "supervisor-1" "supervisor-key" .workshopSupervisor 'C']

/-- The store of the sample: every record, and its photograph. -/
def sampleStore (photo : Nat → String) : EvidenceStore String where
  objects := (sampleEvidence photo).foldl (fun objects entry =>
    objects.set (entry.1.evidenceId.getD "", "1") (entry.1.sha256.getD "")) .empty
  attachments := (sampleEvidence photo).foldl (fun attachments entry =>
    attachments.set (entry.1.evidenceId.getD "", "1", "primary-record") entry.2) .empty

def sampleRequest (photo : Nat → String) : ChainRequest String where
  attestationBytes := ["attestation/1", "attestation/2", "attestation/3"]
  expectedRun := sampleRun
  expectedPolicy := samplePolicy
  expectedServerNonces := sampleNonces
  evidence := sampleStore photo
  now := 1000000000

end Sample

end Custombuild.Workshop
