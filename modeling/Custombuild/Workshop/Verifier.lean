/-
  The verifier of the three-stage attestation chain: the registry of issuers, the attestations
  and their signatures, the records of evidence and their attachments, and the policy of the
  server.
  Source: `services/api/app/workshop_trust.py`, `verify_workshop_attestation_chain` and what it
  calls.

  The text form of JSON, the fields of the schemas, SHA-256 and Ed25519 come from libraries and
  are the fields of `Platform`.
-/
import Mathlib.Algebra.GroupWithZero.Nat
import Custombuild.Lib.Dict
import Custombuild.Lib.Json
import Custombuild.Workshop.Model

namespace Custombuild.Workshop

open Custombuild.Lib

/-! ## Documents -/

/-- The structured facts that a record of evidence commits to. -/
inductive ClaimPayload
  | machine (facts : MachineFacts)
  | wcs (facts : RequiredWcs)
  | fixture (facts : FixtureFacts)
  | keepouts (volumes : List KeepoutVolume)
  | tool (facts : ToolFacts)
  | material (facts : MaterialFacts)
  | stock (facts : StockFacts)
  | coupons (coupons : List CouponResult)
  | removal (facts : RemovalFacts)
  | airCut (facts : AirCutFacts)
  | referencePart (facts : ReferencePartFacts)
  | prototype (facts : PrototypeFacts)
  | loadTest (facts : LoadTestFacts)
  | supervision (runSha256 : Sha256) (evidence : EvidenceReference) (assessment : AirCutFacts)
deriving DecidableEq

/-- What the verifier writes as canonical JSON. -/
inductive Document
  | run (run : WorkshopRun)
  | policy (policy : WorkshopVerificationPolicy)
  | programSet (programs : List MachineProgramIdentity)
  | keepouts (volumes : List KeepoutVolume)
  | claim (claimType : Token) (payload : ClaimPayload)
deriving DecidableEq

/-- The libraries of the verifier, for a type of byte strings. -/
structure Platform (Bytes : Type) where
  size : Bytes → Nat
  encode : String → Bytes
  /-- `json.loads` of the decoded bytes. -/
  loads : Bytes → Option Json
  /-- `json.dumps` with sorted keys and without spaces, encoded. -/
  dumps : Json → Bytes
  /-- `model_dump` in JSON mode. -/
  modelDump : Document → Json
  /-- The fields of the schemas, before their validators. -/
  attestationFields : Json → Option SignedWorkshopAttestation
  recordFields : Json → Option WorkshopEvidenceRecord
  sha256 : Bytes → Sha256
  /-- `Ed25519PublicKey.verify` of a key, a signature and what is signed. -/
  ed25519Verify : List UInt8 → List UInt8 → Bytes → Bool

/-- The first check of `_reject_unsafe_json_scalars`. -/
def rejectDepth (label : String) (depth : Nat) : Except WorkshopTrustError Unit :=
  require (decide (depth ≤ 64)) ⟨label ++ " exceeds the maximum nesting depth"⟩

mutual

/-- `_reject_unsafe_json_scalars`. -/
def rejectUnsafeJsonScalars (label : String) (depth : Nat) :
    Json → Except WorkshopTrustError Unit
  | .null => rejectDepth label depth
  | .str _ => rejectDepth label depth
  | .bool _ => do
    rejectDepth label depth
    .error ⟨label ++ " contains an unsafe boolean or floating-point number"⟩
  | .num _ scale => do
    rejectDepth label depth
    require (scale == 0) ⟨label ++ " contains an unsafe boolean or floating-point number"⟩
  | .arr items => do
    rejectDepth label depth
    require (decide (items.length ≤ 100000)) ⟨label ++ " contains too many array members"⟩
    rejectUnsafeItems label (depth + 1) items
  | .obj fields => do
    rejectDepth label depth
    require (decide (fields.length ≤ 100000)) ⟨label ++ " contains too many object members"⟩
    rejectUnsafeFields label (depth + 1) fields

def rejectUnsafeItems (label : String) (depth : Nat) :
    List Json → Except WorkshopTrustError Unit
  | [] => .ok ()
  | item :: items => do
    rejectUnsafeJsonScalars label depth item
    rejectUnsafeItems label depth items

def rejectUnsafeFields (label : String) (depth : Nat) :
    List (String × Json) → Except WorkshopTrustError Unit
  | [] => .ok ()
  | (_, item) :: fields => do
    rejectUnsafeJsonScalars label depth item
    rejectUnsafeFields label depth fields

end

/-! ## Base64 -/

def base64Value (c : Char) : Option Nat :=
  if 'A' ≤ c ∧ c ≤ 'Z' then some (c.toNat - 65)
  else if 'a' ≤ c ∧ c ≤ 'z' then some (c.toNat - 71)
  else if '0' ≤ c ∧ c ≤ '9' then some (c.toNat + 4)
  else if c = '+' then some 62
  else if c = '/' then some 63
  else none

def base64Char (n : Nat) : Char :=
  if n < 26 then Char.ofNat (65 + n)
  else if n < 52 then Char.ofNat (71 + n)
  else if n < 62 then Char.ofNat (n - 4)
  else if n = 62 then '+'
  else '/'

def b64encode : List UInt8 → List Char
  | [] => []
  | [a] => [base64Char (a.toNat / 4), base64Char (a.toNat % 4 * 16), '=', '=']
  | [a, b] => [base64Char (a.toNat / 4), base64Char (a.toNat % 4 * 16 + b.toNat / 16),
      base64Char (b.toNat % 16 * 4), '=']
  | a :: b :: c :: rest => base64Char (a.toNat / 4) ::
      base64Char (a.toNat % 4 * 16 + b.toNat / 16) ::
      base64Char (b.toNat % 16 * 4 + c.toNat / 64) :: base64Char (c.toNat % 64) :: b64encode rest

def b64decode : List Char → Option (List UInt8)
  | [] => some []
  | [p, q, '=', '='] => do
    let p ← base64Value p
    let q ← base64Value q
    return [UInt8.ofNat (p * 4 + q / 16)]
  | [p, q, r, '='] => do
    let p ← base64Value p
    let q ← base64Value q
    let r ← base64Value r
    return [UInt8.ofNat (p * 4 + q / 16), UInt8.ofNat (q % 16 * 16 + r / 4)]
  | p :: q :: r :: s :: rest => do
    let p ← base64Value p
    let q ← base64Value q
    let r ← base64Value r
    let s ← base64Value s
    let bytes ← b64decode rest
    return UInt8.ofNat (p * 4 + q / 16) :: UInt8.ofNat (q % 16 * 16 + r / 4) ::
      UInt8.ofNat (r % 4 * 64 + s) :: bytes
  | _ => none

/-- `_decode_canonical_base64`. -/
def decodeCanonicalBase64 (value label : String) (expectedBytes : Nat) :
    Except WorkshopTrustError (List UInt8) := do
  let decoded ← demand (b64decode (charsOf value)) ⟨label ++ " is not canonical base64"⟩
  require (decoded.length == expectedBytes && b64encode decoded == charsOf value)
    ⟨label ++ " is not canonical " ++ toString expectedBytes ++ "-byte material"⟩
  return decoded

/-! ## The registry -/

/-- What the loop over the issuers has seen. -/
structure SeenIssuers where
  rolesByPrincipal : Dict Token SignerRole := .empty
  publicKeys : List (List UInt8) := []

/-- One turn of the loop of `_load_registry`. -/
def checkIssuer (seen : SeenIssuers) (issuer : TrustedWorkshopIssuer) :
    Except WorkshopTrustError SeenIssuers := do
  let publicKey ← decodeCanonicalBase64 issuer.publicKeyBase64 "workshop issuer public key" 32
  require (!seen.publicKeys.contains publicKey) ⟨"workshop issuer public keys must be unique"⟩
  let roles := seen.rolesByPrincipal.setDefault issuer.principalId issuer.role
  require (roles.get issuer.principalId == some issuer.role)
    ⟨"a workshop principal cannot hold conflicting signer roles"⟩
  return { rolesByPrincipal := roles, publicKeys := publicKey :: seen.publicKeys }

/-- `_load_registry`. -/
def loadRegistry (registry : WorkshopTrustRegistry) :
    Except WorkshopTrustError WorkshopTrustRegistry := do
  require registry.validate ⟨"workshop trust registry is invalid"⟩
  require (isSortedSet (registry.issuers.map fun issuer => toLex (issuer.principalId, issuer.keyId)))
    ⟨"trusted workshop issuers must be sorted and unique"⟩
  let _ ← registry.issuers.foldlM checkIssuer {}
  return registry

/-- The time of a timestamp in microseconds. -/
def Timestamp.us (t : Timestamp) : Int := t * 1000000

/-- `_find_issuer`. -/
def findIssuer (registry : WorkshopTrustRegistry) (identity : SignerIdentity)
    (requiredRole : SignerRole) (organization : Token) (stage : WorkshopStage)
    (issuedAt : Timestamp) (now : Int) : Except WorkshopTrustError TrustedWorkshopIssuer := do
  let issuer ← demand (registry.issuers.find? fun candidate =>
      candidate.principalId == identity.principalId && candidate.keyId == identity.keyId)
    ⟨requiredRole.value ++ " identity is not trusted for its signer role"⟩
  require (issuer.role == requiredRole)
    ⟨requiredRole.value ++ " identity is not trusted for its signer role"⟩
  require (issuer.organization == organization)
    ⟨requiredRole.value ++ " identity is not trusted for this organization"⟩
  require (issuer.qualifiedStages.contains stage)
    ⟨requiredRole.value ++ " identity is not qualified for " ++ stage.value⟩
  require (!issuer.revokedAt.any fun revokedAt => revokedAt.us ≤ now)
    ⟨requiredRole.value ++ " issuer key is revoked"⟩
  require (issuer.notBefore ≤ issuedAt && issuedAt ≤ issuer.notAfter)
    ⟨requiredRole.value ++ " signature was issued outside key validity"⟩
  require (issuer.notBefore.us ≤ now && now ≤ issuer.notAfter.us)
    ⟨requiredRole.value ++ " issuer key is not currently valid"⟩
  return issuer

/-! ## Nonces -/

/-- `_SAFE_ID_PATTERN`. -/
def isSafeId (text : String) : Bool :=
  let isAlnum (c : Char) : Bool :=
    ('A' ≤ c && c ≤ 'Z') || ('a' ≤ c && c ≤ 'z') || ('0' ≤ c && c ≤ '9')
  match charsOf text with
  | [] => false
  | c :: rest => isAlnum c && decide (rest.length ≤ 159) &&
      rest.all fun c => isAlnum c || ['.', '_', ':', '/', '@', '+', '-'].contains c

def stageOf (text : String) : Option WorkshopStage :=
  stageOrder.find? fun stage => stage.value == text

def addNonce (result : Dict WorkshopStage String) (item : String × String) :
    Except WorkshopTrustError (Dict WorkshopStage String) := do
  let stage ← demand (stageOf item.1) ⟨"expected nonces contain an unknown workshop stage"⟩
  require (result.get stage).isNone ⟨"expected nonces contain an aliased stage"⟩
  require (32 ≤ item.2.length && item.2.length ≤ 256 && isSafeId item.2)
    ⟨"expected workshop nonce is invalid"⟩
  return result.set stage item.2

/-- `_expected_nonces`. -/
def expectedNonces (items : List (String × String)) :
    Except WorkshopTrustError (Dict WorkshopStage String) := do
  let result ← items.foldlM addNonce .empty
  require (stageOrder.all fun stage => (result.get stage).isSome)
    ⟨"one exact expected nonce is required for every workshop stage"⟩
  require (decide (result.entries.map Prod.snd).Nodup) ⟨"expected workshop nonces must be unique"⟩
  return result

/-! ## References -/

/-- `_all_setup_references`. -/
def allSetupReferences (setup : WorkshopSetup) : List (String × EvidenceReference) :=
  [("machine calibration", setup.machine.calibrationEvidence),
    ("WCS verification", setup.wcs.verificationEvidence),
    ("fixture verification", setup.fixture.verificationEvidence),
    ("keepout review", setup.keepouts.reviewEvidence)] ++
  (setup.tools.map fun tool => ("tool measurement " ++ tool.toolId, tool.measurementEvidence)) ++
  (setup.stock.flatMap fun stock =>
    [("material certificate " ++ stock.stockId, stock.materialCertificateEvidence),
      ("stock measurement " ++ stock.stockId, stock.measurementEvidence)])

/-- `_stage_references`. -/
def stageReferences (statement : WorkshopAttestationStatement) : List (String × EvidenceReference) :=
  match statement.stage, statement.preCut, statement.referencePart, statement.finalWorkshop with
  | .preCut, some evidence, _, _ =>
    [("coupon qualification", evidence.coupons.evidence),
      ("independent removal comparison", evidence.independentRemovalComparison.evidence),
      ("supervised air cut", evidence.supervisedAirCut.evidence)]
  | .referencePart, _, some part, _ => [("reference part and metrology", part.evidence)]
  | .finalWorkshop, _, _, some evidence =>
    [("prototype build", evidence.prototypeBuild.evidence),
      ("prototype load test", evidence.loadTest.evidence)]
  | _, _, _, _ => []

/-- One entry of `_claim_bindings`. -/
structure ClaimBinding where
  label : String
  reference : EvidenceReference
  claimType : Token
  payload : ClaimPayload

/-- The bindings of the setup. -/
def setupBindings (setup : WorkshopSetup) : List ClaimBinding :=
  [⟨"machine calibration", setup.machine.calibrationEvidence, "machine-calibration",
      .machine setup.machine.toMachineFacts⟩,
    ⟨"WCS verification", setup.wcs.verificationEvidence, "wcs-verification",
      .wcs setup.wcs.toRequiredWcs⟩,
    ⟨"fixture verification", setup.fixture.verificationEvidence, "fixture-verification",
      .fixture setup.fixture.toFixtureFacts⟩,
    ⟨"keepout review", setup.keepouts.reviewEvidence, "keepout-review",
      .keepouts setup.keepouts.volumes⟩] ++
  (setup.tools.map fun tool =>
    ⟨"tool measurement " ++ tool.toolId, tool.measurementEvidence, "tool-measurement",
      .tool tool.toToolFacts⟩) ++
  (setup.stock.flatMap fun stock =>
    [⟨"material certificate " ++ stock.stockId, stock.materialCertificateEvidence,
        "material-certificate", .material stock.toMaterialFacts⟩,
      ⟨"stock measurement " ++ stock.stockId, stock.measurementEvidence, "stock-measurement",
        .stock stock.toStockFacts⟩])

/-- The bindings of the stage. -/
def stageBindings (statement : WorkshopAttestationStatement) : List ClaimBinding :=
  match statement.preCut, statement.referencePart, statement.finalWorkshop with
  | some evidence, _, _ =>
    [⟨"coupon qualification", evidence.coupons.evidence, "coupon-qualification",
        .coupons evidence.coupons.coupons⟩,
      ⟨"independent removal comparison", evidence.independentRemovalComparison.evidence,
        "independent-removal-comparison",
        .removal evidence.independentRemovalComparison.toRemovalFacts⟩,
      ⟨"supervised air cut", evidence.supervisedAirCut.evidence, "supervised-air-cut",
        .airCut evidence.supervisedAirCut.toAirCutFacts⟩]
  | none, some part, _ =>
    [⟨"reference part and metrology", part.evidence, "reference-part-metrology",
      .referencePart part.toReferencePartFacts⟩]
  | none, none, some evidence =>
    [⟨"prototype build", evidence.prototypeBuild.evidence, "prototype-build",
        .prototype evidence.prototypeBuild.toPrototypeFacts⟩,
      ⟨"prototype load test", evidence.loadTest.evidence, "prototype-load-test",
        .loadTest evidence.loadTest.toLoadTestFacts⟩]
  | none, none, none => []

/-- `_claim_bindings`. -/
def claimBindings (statement : WorkshopAttestationStatement) : List ClaimBinding :=
  setupBindings statement.setup ++ stageBindings statement

/-! ## Digests of documents -/

section Verify

variable {Bytes : Type} [DecidableEq Bytes] (lib : Platform Bytes)

/-- `canonical_json_bytes`. -/
def canonicalJsonBytes (value : Json) : Except WorkshopTrustError Bytes := do
  rejectUnsafeJsonScalars "canonical JSON value" 0 value
  return lib.dumps value

def documentBytes (document : Document) : Except WorkshopTrustError Bytes :=
  canonicalJsonBytes lib (lib.modelDump document)

def documentSha256 (document : Document) : Except WorkshopTrustError Sha256 := do
  let bytes ← documentBytes lib document
  return lib.sha256 bytes

def workshopEvidenceClaimBytes (claimType : Token) (payload : ClaimPayload) :
    Except WorkshopTrustError Bytes := documentBytes lib (.claim claimType payload)

def workshopEvidenceClaimSha256 (claimType : Token) (payload : ClaimPayload) :
    Except WorkshopTrustError Sha256 := documentSha256 lib (.claim claimType payload)

def workshopMachineProgramSetSha256 (programs : List MachineProgramIdentity) :
    Except WorkshopTrustError Sha256 := do
  require (hasLength 1 maxMachinePrograms programs) ⟨"machine program inventory size is invalid"⟩
  require (canonicalPrograms programs)
    ⟨"machine program inventory must be canonical and unique"⟩
  documentSha256 lib (.programSet programs)

def workshopRunSha256 (run : WorkshopRun) : Except WorkshopTrustError Sha256 :=
  documentSha256 lib (.run run)

def workshopPolicySha256 (policy : WorkshopVerificationPolicy) :
    Except WorkshopTrustError Sha256 := documentSha256 lib (.policy policy)

/-! ## The validators that hash -/

/-- Valid programs in canonical order, with their digest. -/
def validPrograms (programs : List MachineProgramIdentity) (digest : Sha256) : Bool :=
  hasLength 1 maxMachinePrograms programs && programs.all MachineProgramIdentity.validate &&
    canonicalPrograms programs && okAnd (workshopMachineProgramSetSha256 lib programs) (· == digest)

/-- `WorkshopRun.validate_program_set`. -/
def WorkshopRun.validate (run : WorkshopRun) : Bool :=
  validPrograms lib run.machinePrograms run.machineProgramSetSha256

/-- Requirements in the order of their ids. -/
def canonicalRequirements (requirements : List MeasurementRequirement) : Bool :=
  hasLength 1 maxMeasurements requirements && requirements.all MeasurementRequirement.validate &&
    isSortedSet (requirements.map (·.measurementId))

/-- `WorkshopVerificationPolicy.validate_canonical_collections`. -/
def WorkshopVerificationPolicy.validate (policy : WorkshopVerificationPolicy) : Bool :=
  policy.setupEvidenceNotBefore ≤ policy.stageEvidenceNotBefore &&
    hasLength 1 maxTools policy.tools && policy.tools.all RequiredTool.validate &&
    isSortedSet (policy.tools.map fun tool => tool.position) &&
    hasLength 1 maxStockItems policy.stock && policy.stock.all RequiredStock.validate &&
    isSortedSet (policy.stock.map (·.stockId)) &&
    validPrograms lib policy.machinePrograms policy.machineProgramSetSha256 &&
    hasLength 1 maxCoupons policy.couponMaterialBatchIds &&
    isSortedSet policy.couponMaterialBatchIds &&
    policy.couponMaterialBatchIds == sortedSet (policy.stock.map (·.supplierBatchId)) &&
    canonicalRequirements policy.couponMeasurements &&
    canonicalRequirements policy.referencePartMeasurements

def WorkshopAttestationStatement.validate (statement : WorkshopAttestationStatement) : Bool :=
  statement.validateStageShape && statement.run.validate lib && statement.setup.validate &&
    statement.preCut.all PreCutEvidence.validate &&
    statement.referencePart.all ReferencePartAssessment.validate &&
    statement.finalWorkshop.all FinalWorkshopEvidence.validate

/-! ## Attestations and signatures -/

/-- `_parse_canonical_mapping`. -/
def parseCanonicalMapping (data : Bytes) (label : String) (maxBytes : Nat) :
    Except WorkshopTrustError Json := do
  require (decide (0 < lib.size data) && decide (lib.size data ≤ maxBytes))
    ⟨label ++ " is empty or exceeds its size limit"⟩
  let raw ← demand (lib.loads data) ⟨label ++ " must be UTF-8 JSON"⟩
  require (raw.typeName == "object") ⟨label ++ " must contain a JSON object"⟩
  rejectUnsafeJsonScalars label 0 raw
  let canonical ← canonicalJsonBytes lib raw
  require (data == canonical) ⟨label ++ " must use canonical JSON bytes"⟩
  return raw

/-- `_load_attestation`: the attestation and its statement as it was sent. -/
def loadAttestation (attestationBytes : Bytes) :
    Except WorkshopTrustError (SignedWorkshopAttestation × Json) := do
  let raw ← parseCanonicalMapping lib attestationBytes "signed workshop attestation"
    maxAttestationBytes
  let attestation ← demand (lib.attestationFields raw)
    ⟨"signed workshop attestation has an invalid schema"⟩
  require (attestation.statement.validate lib)
    ⟨"signed workshop attestation has an invalid schema"⟩
  let statementRaw ← demand (raw.get "statement")
    ⟨"signed workshop attestation statement is invalid"⟩
  require (statementRaw.typeName == "object")
    ⟨"signed workshop attestation statement is invalid"⟩
  return (attestation, statementRaw)

/-- `_verify_signature`. -/
def verifySignature (issuer : TrustedWorkshopIssuer) (signatureBase64 : String)
    (statementBytes : Bytes) (label : String) : Except WorkshopTrustError Unit := do
  let publicKey ← decodeCanonicalBase64 issuer.publicKeyBase64 (label ++ " public key") 32
  let signature ← decodeCanonicalBase64 signatureBase64 (label ++ " signature") 64
  require (lib.ed25519Verify publicKey signature statementBytes)
    ⟨label ++ " signature is invalid"⟩

/-- `_verify_air_cut_supervisor`. -/
def verifyAirCutSupervisor (registry : WorkshopTrustRegistry)
    (statement : WorkshopAttestationStatement) (now : Int) : Except WorkshopTrustError Unit :=
  match statement.stage, statement.preCut with
  | .preCut, some evidence => do
    let airCut := evidence.supervisedAirCut
    let supervisor ← demand airCut.supervisor
      ⟨"supervised air cut lacks an authenticated supervisor"⟩
    let signature ← demand airCut.supervisorSignatureBase64
      ⟨"supervised air cut lacks an authenticated supervisor"⟩
    let issuer ← findIssuer registry supervisor .workshopSupervisor statement.run.organization
      statement.stage statement.issuedAt now
    let runSha256 ← workshopRunSha256 lib statement.run
    let claimBytes ← workshopEvidenceClaimBytes lib "supervised-air-cut-supervision"
      (.supervision runSha256 airCut.evidence airCut.toAirCutFacts)
    verifySignature lib issuer signature claimBytes "air-cut supervisor"
  | _, _ => .ok ()

/-- One turn of the loop of `_verify_claim_bindings`. -/
def verifyClaimBinding (binding : ClaimBinding) : Except WorkshopTrustError Unit :=
  if binding.reference.status ≠ .verified then .ok ()
  else do
    let expectedDigest ← workshopEvidenceClaimSha256 lib binding.claimType binding.payload
    require (binding.reference.claimType == some binding.claimType &&
        binding.reference.claimSha256 == some expectedDigest)
      ⟨binding.label ++ " record is not bound to its structured claim"⟩

/-- `_verify_claim_bindings`. -/
def verifyClaimBindings (statement : WorkshopAttestationStatement) :
    Except WorkshopTrustError Unit :=
  forEach (verifyClaimBinding lib) (claimBindings statement)

/-! ## Evidence objects -/

abbrev EvidenceKey := Token × Token

abbrev AttachmentKey := Token × Token × Token

/-- The records and the attachments that the caller reads. -/
structure EvidenceStore (Bytes : Type) where
  objects : Dict EvidenceKey Bytes
  attachments : Dict AttachmentKey Bytes

/-- What the verifier has seen of the evidence. -/
structure EvidenceState where
  verifiedBytes : Nat := 0
  verifiedKeys : List EvidenceKey := []
  verifiedAttachmentKeys : List AttachmentKey := []
  roleByKey : Dict EvidenceKey String := .empty
  roleByDigest : Dict Sha256 String := .empty

/-- What a complete reference identifies. -/
structure EvidenceIdentity where
  key : EvidenceKey
  claimType : Token
  claimSha256 : Sha256
  sha256 : Sha256
  sizeBytes : Nat

def EvidenceReference.identity (reference : EvidenceReference) : Option EvidenceIdentity := do
  let evidenceId ← reference.evidenceId
  let evidenceVersion ← reference.evidenceVersion
  let claimType ← reference.claimType
  let claimSha256 ← reference.claimSha256
  let sha256 ← reference.sha256
  let sizeBytes ← reference.sizeBytes
  return ⟨(evidenceId, evidenceVersion), claimType, claimSha256, sha256, sizeBytes⟩

/-- The record of an identity, read again and checked against it. -/
def loadRecord (store : EvidenceStore Bytes) (identity : EvidenceIdentity)
    (observedAt : Option Timestamp) :
    Except WorkshopTrustError (Bytes × WorkshopEvidenceRecord) := do
  let content ← demand (store.objects.get identity.key)
    ⟨"required workshop evidence object is unavailable"⟩
  require (decide (0 < lib.size content) && decide (lib.size content ≤ maxEvidenceObjectBytes))
    ⟨"workshop evidence object is empty or exceeds its size limit"⟩
  require (lib.size content == identity.sizeBytes && lib.sha256 content == identity.sha256)
    ⟨"workshop evidence object does not match its signed identity"⟩
  let rawRecord ← parseCanonicalMapping lib content "workshop evidence record"
    maxEvidenceObjectBytes
  let record ← demand (lib.recordFields rawRecord)
    ⟨"workshop evidence record has an invalid schema"⟩
  require record.validate ⟨"workshop evidence record has an invalid schema"⟩
  require ((record.evidenceId, record.evidenceVersion) == identity.key &&
      record.claimType == identity.claimType && record.claimSha256 == identity.claimSha256 &&
      some record.observedAt == observedAt)
    ⟨"workshop evidence record does not match its typed claim"⟩
  return (content, record)

/-- The role of a record, by its key and by its digest. -/
def takeRole (label : String) (identity : EvidenceIdentity) (state : EvidenceState) :
    Except WorkshopTrustError EvidenceState := do
  let roleByKey := state.roleByKey.setDefault identity.key label
  let roleByDigest := state.roleByDigest.setDefault identity.sha256 label
  require (roleByKey.get identity.key == some label &&
      roleByDigest.get identity.sha256 == some label)
    ⟨"one workshop evidence record cannot satisfy different roles"⟩
  return { state with roleByKey := roleByKey, roleByDigest := roleByDigest }

/-- The first loop over the attachments of a record. -/
def checkDeclared (registry : WorkshopTrustRegistry) (remaining declared : Nat)
    (attachments : List EvidenceAttachment) : Except WorkshopTrustError Unit := do
  forEach (fun attachment : EvidenceAttachment => do
      require (!registry.revokedEvidenceAttachmentSha256.contains attachment.sha256)
        ⟨"workshop evidence attachment is revoked"⟩
      require (decide (attachment.sizeBytes ≤ maxEvidenceObjectBytes))
        ⟨"workshop evidence attachment is empty or exceeds its size limit"⟩) attachments
  require (decide (declared + (attachments.map (·.sizeBytes)).sum ≤ remaining))
    ⟨"workshop evidence objects exceed their total size limit"⟩

/-- One turn of the second loop over the attachments of a record. -/
def verifyAttachment (store : EvidenceStore Bytes) (label : String) (key : EvidenceKey)
    (state : EvidenceState) (attachment : EvidenceAttachment) :
    Except WorkshopTrustError EvidenceState := do
  let attachmentKey := (key.1, key.2, attachment.attachmentId)
  let content ← demand (store.attachments.get attachmentKey)
    ⟨"required workshop evidence attachment is unavailable"⟩
  require (decide (0 < lib.size content) && decide (lib.size content ≤ maxEvidenceObjectBytes) &&
      lib.size content == attachment.sizeBytes && lib.sha256 content == attachment.sha256)
    ⟨"workshop evidence attachment does not match its signed identity"⟩
  let roleByDigest := state.roleByDigest.setDefault attachment.sha256 label
  require (roleByDigest.get attachment.sha256 == some label)
    ⟨"one workshop evidence attachment cannot satisfy different roles"⟩
  if state.verifiedAttachmentKeys.contains attachmentKey then
    return { state with roleByDigest := roleByDigest }
  else
    return { state with
      roleByDigest := roleByDigest
      verifiedAttachmentKeys := attachmentKey :: state.verifiedAttachmentKeys
      verifiedBytes := state.verifiedBytes + lib.size content }

/-- `_verify_evidence_object`. -/
def verifyEvidenceObject (registry : WorkshopTrustRegistry) (store : EvidenceStore Bytes)
    (label : String) (reference : EvidenceReference) (state : EvidenceState) :
    Except WorkshopTrustError EvidenceState :=
  if reference.status ≠ .verified then .ok state
  else do
    let identity ← demand reference.identity ⟨"verified evidence reference is incomplete"⟩
    require (!registry.revokedEvidenceSha256.contains identity.sha256)
      ⟨"workshop evidence record is revoked"⟩
    require (!registry.revokedEvidenceClaimSha256.contains identity.claimSha256)
      ⟨"workshop evidence claim is revoked"⟩
    let (content, record) ← loadRecord lib store identity reference.observedAt
    let state ← takeRole label identity state
    if state.verifiedKeys.contains identity.key then return state
    else
      checkDeclared registry (maxEvidenceChainBytes - state.verifiedBytes) (lib.size content)
        record.attachments
      let state ← record.attachments.foldlM (verifyAttachment lib store label identity.key)
        { state with verifiedBytes := state.verifiedBytes + lib.size content }
      return { state with verifiedKeys := identity.key :: state.verifiedKeys }

/-- One turn of the loop over the references of a statement. -/
def verifyReference (registry : WorkshopTrustRegistry) (store : EvidenceStore Bytes)
    (state : EvidenceState) (reference : String × EvidenceReference) :
    Except WorkshopTrustError EvidenceState := do
  let state ← verifyEvidenceObject lib registry store reference.1 reference.2 state
  require (decide (state.verifiedBytes ≤ maxEvidenceChainBytes))
    ⟨"workshop evidence objects exceed their total size limit"⟩
  return state

end Verify

end Custombuild.Workshop
