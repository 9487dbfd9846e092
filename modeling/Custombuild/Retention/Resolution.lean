/-
  The resolution of signed joint-retention evidence under a trust registry, and why trust in it
  never grows back: a registry that was activated before accepts whatever evidence of its own
  issuers a later one accepts, with the same contract.
  Source: `joint_retention.py`.

  Evidence is the text of its bytes; bytes that are no text are refused before anything else is
  looked at.
-/
import Custombuild.Domain.Model
import Custombuild.Retention.Superseding

namespace Custombuild.Retention

open Custombuild.Lib

/-! ## Evidence -/

structure EmbeddedDocument where
  documentId : String
  documentVersion : String
  sha256 : String
  contentBase64 : String

structure RetentionLoadCase where
  mode : Domain.JointRetentionLoadMode
  ratedDesignLoadN : Int
  verifiedCapacityN : Int

structure RetentionCatalogueEntry where
  systemId : String
  systemVersion : String
  hardwareSku : String
  hardwareCountPerJoint : Int
  applicableMaterials : List (String × String)
  minimumApplicableThicknessUm : Int
  maximumApplicableThicknessUm : Int
  shear : RetentionLoadCase
  withdrawal : RetentionLoadCase
  safetyFactorPermille : Int

structure SignedRetentionEvidence where
  evidenceId : String
  issuerId : String
  keyId : String
  issuedAt : Int
  expiresAt : Int
  engineVersion : String
  templateVersion : String
  jointGeometrySha256 : String
  catalogueEntry : RetentionCatalogueEntry
  testReport : EmbeddedDocument
  installationInstruction : EmbeddedDocument
  signatureBase64 : String

/-- The registry environment with the decoder of evidence, the digests of documents and of
    catalogue entries, and the verification of Ed25519 signatures. -/
structure RetentionEnv extends RegistryEnv where
  loadsEvidence : String → Option Jsonb
  sha256Bytes : List Nat → String
  contentHash : RetentionCatalogueEntry → String
  verify : List Nat → List Nat → String → Bool

/-! ## The schema of evidence -/

/-- A field with an exact text. -/
def literalField (value : Json) (key text : String) : Bool := strField value key = some text

def stableKeyField (value : Json) (key : String) : Option String :=
  (strField value key).filter isStableKey

/-- A stable key of at most eighty characters. -/
def versionField (value : Json) (key : String) : Option String :=
  (stableKeyField value key).filter fun text => text.length ≤ 80

def sha256Field (value : Json) (key : String) : Option String :=
  (strField value key).filter isSha256Text

/-- A strict integer of at least one. -/
def positiveField (value : Json) (key : String) : Option Int :=
  match value.get key with
  | some (.num coefficient 0) => if 0 < coefficient then some coefficient else none
  | _ => none

def parseDocument (value : Json) : Option EmbeddedDocument := do
  guard (hasExactKeys value ["document_id", "document_version", "sha256", "content_base64"])
  let documentId ← stableKeyField value "document_id"
  let documentVersion ← versionField value "document_version"
  let sha256 ← sha256Field value "sha256"
  let contentBase64 ← (strField value "content_base64").filter fun text => text ≠ ""
  return ⟨documentId, documentVersion, sha256, contentBase64⟩

def parseMaterial (value : Json) : Option (String × String) := do
  guard (hasExactKeys value ["material_id", "material_version"])
  let materialId ← stableKeyField value "material_id"
  let materialVersion ← versionField value "material_version"
  return (materialId, materialVersion)

/-- A load case with the mode that its place demands. -/
def parseLoadCase (mode : Domain.JointRetentionLoadMode) (name : String) (value : Json) :
    Option RetentionLoadCase := do
  guard (hasExactKeys value ["mode", "rated_design_load_n", "verified_capacity_n"])
  guard (literalField value "mode" name)
  let rated ← positiveField value "rated_design_load_n"
  let verified ← positiveField value "verified_capacity_n"
  return ⟨mode, rated, verified⟩

/-- Shear and then withdrawal. -/
def parseLoadCases (value : Json) : Option (RetentionLoadCase × RetentionLoadCase) :=
  match value.get "load_cases" with
  | some (.arr [first, second]) => do
    let shear ← parseLoadCase .shear "shear" first
    let withdrawal ← parseLoadCase .withdrawal "withdrawal" second
    return (shear, withdrawal)
  | _ => none

def parseEntry (value : Json) : Option RetentionCatalogueEntry := do
  guard (hasExactKeys value ["system_id", "system_version", "joint_type", "application_class",
    "method", "machining_scope", "hardware_sku", "hardware_count_per_joint",
    "applicable_materials", "minimum_applicable_thickness_um", "maximum_applicable_thickness_um",
    "load_cases", "safety_factor_permille"])
  guard (literalField value "joint_type" "dado" &&
    literalField value "application_class" "load_bearing_carcass_dado" &&
    literalField value "method" "mechanical" &&
    literalField value "machining_scope" "no_additional_cnc")
  let systemId ← stableKeyField value "system_id"
  let systemVersion ← versionField value "system_version"
  let hardwareSku ← stableKeyField value "hardware_sku"
  let hardwareCount ← (positiveField value "hardware_count_per_joint").filter fun n => n ≤ 100
  let materials ← match value.get "applicable_materials" with
    | some (.arr items) => items.mapM parseMaterial
    | _ => none
  guard (materials ≠ [] && decide (materials.Pairwise fun a b => pairBefore a b = true))
  let minimum ← positiveField value "minimum_applicable_thickness_um"
  let maximum ← positiveField value "maximum_applicable_thickness_um"
  let (shear, withdrawal) ← parseLoadCases value
  let safetyFactor ← (positiveField value "safety_factor_permille").filter fun n =>
    1000 ≤ n && n ≤ 10000
  return ⟨systemId, systemVersion, hardwareSku, hardwareCount, materials, minimum, maximum, shear,
    withdrawal, safetyFactor⟩

section Resolver

variable (env : RetentionEnv)

/-- `SignedRetentionEvidence.model_validate`. -/
def parseEvidence (value : Json) : Option SignedRetentionEvidence := do
  guard (hasExactKeys value ["schema_version", "evidence_id", "issuer_id", "key_id", "issued_at",
    "expires_at", "application_class", "joint_geometry_fingerprint_schema", "engine_version",
    "template_version", "joint_geometry_sha256", "catalogue_entry", "test_report",
    "installation_instruction", "signature_base64"])
  guard (literalField value "schema_version" "custombuild.joint-retention-signed-evidence.v2" &&
    literalField value "application_class" "load_bearing_carcass_dado" &&
    literalField value "joint_geometry_fingerprint_schema"
      "custombuild.joint-retention-application-geometry.v1")
  let evidenceId ← stableKeyField value "evidence_id"
  let issuerId ← stableKeyField value "issuer_id"
  let keyId ← stableKeyField value "key_id"
  let issuedAt ← (strField value "issued_at").bind env.instant
  let expiresAt ← (strField value "expires_at").bind env.instant
  let engineVersion ← versionField value "engine_version"
  let templateVersion ← versionField value "template_version"
  let geometry ← sha256Field value "joint_geometry_sha256"
  let entry ← (value.get "catalogue_entry").bind parseEntry
  let testReport ← (value.get "test_report").bind parseDocument
  let instruction ← (value.get "installation_instruction").bind parseDocument
  let signature ← (strField value "signature_base64").filter fun text => text.length = 88
  return ⟨evidenceId, issuerId, keyId, issuedAt, expiresAt, engineVersion, templateVersion, geometry,
    entry, testReport, instruction, signature⟩

/-- `_load_evidence`. -/
def loadEvidence (evidence : String) : Except String (SignedRetentionEvidence × Jsonb) := do
  require (evidence ≠ "" && evidence.utf8ByteSize ≤ 20 * 1024 * 1024)
    "signed retention evidence exceeds its size limit"
  let raw ← demand (env.loadsEvidence evidence) "signed retention evidence must be UTF-8 JSON"
  require (raw.value.typeName = "object") "signed retention evidence must contain a JSON object"
  require (env.dumps raw = some evidence)
    "signed retention evidence must use canonical JSON bytes"
  let parsed ← demand (parseEvidence env raw.value)
    "signed retention evidence has an invalid schema"
  return (parsed, raw)

/-! ## The resolver -/

/-- What the evidence has to cover. -/
structure RetentionRequirements where
  applicationClass : Domain.JointRetentionApplicationClass
  jointGeometrySha256 : String
  engineVersion : String
  templateVersion : String
  materials : List (String × String)
  thicknessesUm : List Int
  loadsN : List (Domain.JointRetentionLoadMode × Int)
  minimumSafetyFactorPermille : Int

/-- The checks of the requirements. -/
def RetentionRequirements.check (req : RetentionRequirements) : Except String Unit := do
  require (req.applicationClass = .loadBearingCarcassDado)
    "the current resolver only supports load-bearing carcass DADO evidence"
  require (isSha256Text req.jointGeometrySha256)
    "expected joint geometry must be a SHA-256 digest"
  require (req.engineVersion ≠ "" && req.templateVersion ≠ "")
    "expected compiler versions must be non-blank"
  require (req.materials ≠ [] && decide req.materials.Nodup)
    "required materials must be non-empty and unique"
  require (req.thicknessesUm ≠ [] && req.thicknessesUm.all fun value => 0 < value)
    "required thicknesses must be positive integers"
  require (req.loadsN.map Prod.fst = [.shear, .withdrawal] && req.loadsN.all fun load => 0 < load.2)
    "required loads must be canonical positive shear and withdrawal values"
  require (1000 ≤ req.minimumSafetyFactorPermille && req.minimumSafetyFactorPermille ≤ 10000)
    "minimum safety factor is outside the supported range"

/-- `_find_trusted_issuer`; every issuer of a registry has the certifier's role. -/
def findTrustedIssuer (registry : TrustRegistry) (evidence : SignedRetentionEvidence) (now : Int) :
    Except String TrustedIssuer := do
  let issuer ← demand (registry.issuers.find? fun item =>
      item.issuerId = evidence.issuerId && item.keyId = evidence.keyId)
    "retention evidence issuer is not trusted for certification"
  require (!issuer.revokedAt.any fun revoked => revoked ≤ now)
    "retention evidence issuer key is revoked"
  require (issuer.notBefore ≤ evidence.issuedAt && evidence.issuedAt ≤ issuer.notAfter)
    "retention evidence was issued outside key validity"
  require (issuer.notBefore ≤ now && now ≤ issuer.notAfter)
    "retention evidence issuer key is not currently valid"
  require (!(evidence.expiresAt > issuer.notAfter))
    "retention evidence expiry exceeds issuer key validity"
  return issuer

/-- The evidence without its signature. -/
def unsigned (raw : Jsonb) : Option Jsonb :=
  match raw.value.without "signature_base64" with
  | none => none
  | some value => if h : value.wellFormed = true then some ⟨value, h⟩ else none

/-- `_verify_signature`. -/
def verifySignature (issuer : TrustedIssuer) (evidence : SignedRetentionEvidence) (raw : Jsonb) :
    Except String Unit := do
  let publicKey ← publicKeyBytes issuer
  let signature ← decodeBase64 evidence.signatureBase64 "retention evidence signature" 64
  require (signature.length = 64) "retention evidence signature must be 64 bytes"
  let payload ← demand ((unsigned raw).bind env.dumps)
    "retention evidence is not canonical JSON data"
  require (env.verify publicKey signature payload) "retention evidence signature is invalid"

/-- `_verify_document`. -/
def verifyDocument (document : EmbeddedDocument) (label : String) : Except String Unit := do
  let content ← decodeBase64 document.contentBase64 (label ++ " content") (8 * 1024 * 1024)
  require (isSha256Text document.sha256 && env.sha256Bytes content = document.sha256)
    (label ++ " checksum does not match its exact bytes")

/-- A domain contract with the identities of its evidence. -/
structure ResolvedContract where
  contract : Domain.JointRetentionContract
  catalogEntrySha256 : String
  evidenceId : String
  evidenceSha256 : String
  installationInstructionId : String
  installationInstructionVersion : String
  installationInstructionSha256 : String

/-- The contract of a catalogue entry. -/
def contractOf (evidence : SignedRetentionEvidence) (req : RetentionRequirements) :
    Domain.JointRetentionContract :=
  let entry := evidence.catalogueEntry
  { systemId := entry.systemId, systemVersion := entry.systemVersion
    applicationClass := req.applicationClass, method := .mechanical
    machiningScope := .noAdditionalCnc, hardwareSku := entry.hardwareSku
    hardwareCountPerJoint := entry.hardwareCountPerJoint
    applicableMaterials := entry.applicableMaterials
    jointGeometrySha256 := req.jointGeometrySha256
    minimumApplicableThicknessUm := entry.minimumApplicableThicknessUm
    maximumApplicableThicknessUm := entry.maximumApplicableThicknessUm
    loadCases := [entry.shear, entry.withdrawal].map fun item =>
      ⟨item.mode, item.ratedDesignLoadN, item.verifiedCapacityN⟩
    safetyFactorPermille := entry.safetyFactorPermille }

/-- The checks of authenticated evidence against the requirements, and the contract.  The class
    of the application is the only one that the schema and the requirements allow, and the schema
    has the patterns of the contract's other identifiers. -/
def concludeContract (evidence : SignedRetentionEvidence) (statementSha256 : String)
    (req : RetentionRequirements) : Except String ResolvedContract := do
  let entry := evidence.catalogueEntry
  require (evidence.jointGeometrySha256 = req.jointGeometrySha256 &&
      evidence.engineVersion = req.engineVersion && evidence.templateVersion = req.templateVersion)
    "retention evidence is bound to another application, geometry or compiler version"
  verifyDocument env evidence.testReport "retention test report"
  verifyDocument env evidence.installationInstruction "installation instruction"
  require (req.materials.all fun key => entry.applicableMaterials.contains key)
    "retention evidence does not cover every material version"
  require (!(entry.minimumApplicableThicknessUm > entry.maximumApplicableThicknessUm) &&
      req.thicknessesUm.all fun thickness => entry.minimumApplicableThicknessUm ≤ thickness &&
        thickness ≤ entry.maximumApplicableThicknessUm)
    "retention evidence does not cover every member thickness"
  require (req.loadsN.all fun load =>
      load.2 ≤ (match load.1 with
        | .shear => entry.shear.ratedDesignLoadN
        | .withdrawal => entry.withdrawal.ratedDesignLoadN))
    "retention evidence is below a required design load"
  require (!(entry.safetyFactorPermille < req.minimumSafetyFactorPermille))
    "retention evidence is below the required safety factor"
  require (isSha256Text (env.contentHash entry) && isSha256Text statementSha256)
    "authenticated retention evidence failed domain validation"
  (contractOf evidence req).validate.mapError
    fun _ => "authenticated retention evidence failed domain validation"
  return ⟨contractOf evidence req, env.contentHash entry, evidence.evidenceId, statementSha256,
    evidence.installationInstruction.documentId, evidence.installationInstruction.documentVersion,
    evidence.installationInstruction.sha256⟩

/-- `resolve_joint_retention_contract`. -/
def resolveJointRetentionContract (trustRegistry : Jsonb) (evidence : String)
    (req : RetentionRequirements) (now : Int) : Except String ResolvedContract := do
  req.check
  let registry ← loadRegistry env.toRegistryEnv trustRegistry.value
  let (parsed, raw) ← loadEvidence env evidence
  let statementSha256 := env.sha256 evidence
  require (!registry.revokedStatementSha256.contains statementSha256)
    "retention evidence statement is revoked"
  require (!registry.revokedSystemVersions.contains
      (parsed.catalogueEntry.systemId ++ "@" ++ parsed.catalogueEntry.systemVersion))
    "retention system version is revoked"
  require (!(parsed.issuedAt > now)) "retention evidence was issued in the future"
  require (!(parsed.expiresAt ≤ parsed.issuedAt || parsed.expiresAt ≤ now))
    "retention evidence is expired"
  let issuer ← findTrustedIssuer registry parsed now
  verifySignature env issuer parsed raw
  concludeContract env parsed statementSha256 req

end Resolver

/-! ## Trust never grows back -/

section Monotone

variable {env : RetentionEnv}

theorem pairBefore_irrefl (a : String × String) : pairBefore a a = false := by
  simp [pairBefore]

theorem nodup_identities {registry : TrustRegistry}
    (h : (registry.issuers.map TrustedIssuer.identity).Pairwise fun a b => pairBefore a b = true) :
    (registry.issuers.map TrustedIssuer.identity).Nodup := by
  refine h.imp ?_
  intro a b hab heq
  rw [heq, pairBefore_irrefl] at hab
  cases hab

/-- A key that is not revoked yet was not revoked under an earlier registry. -/
theorem not_revoked_of_not_delayed {previous candidate : Option Int} {now : Int}
    (h : revocationDelayed previous candidate = false)
    (hcandidate : (candidate.any fun revoked => revoked ≤ now) = false) :
    (previous.any fun revoked => revoked ≤ now) = false := by
  cases previous with
  | none => rfl
  | some old =>
    cases candidate with
    | none => cases h
    | some new =>
      simp only [revocationDelayed, decide_eq_false_iff_not, Option.any_some] at h hcandidate ⊢
      omega

/-- The issuer found for evidence: the only one with its identity, valid and not revoked. -/
theorem findTrustedIssuer_eq_ok {registry : TrustRegistry} {evidence : SignedRetentionEvidence}
    {now : Int} {issuer : TrustedIssuer} :
    findTrustedIssuer registry evidence now = .ok issuer ↔
      (registry.issuers.find? fun item =>
        item.issuerId = evidence.issuerId && item.keyId = evidence.keyId) = some issuer ∧
      (issuer.revokedAt.any fun revoked => revoked ≤ now) = false ∧
      (issuer.notBefore ≤ evidence.issuedAt ∧ evidence.issuedAt ≤ issuer.notAfter) ∧
      (issuer.notBefore ≤ now ∧ now ≤ issuer.notAfter) ∧ ¬evidence.expiresAt > issuer.notAfter := by
  simp only [findTrustedIssuer, bind_eq_ok, demand_eq_ok, require_eq_ok, Bool.and_eq_true,
    decide_eq_true_eq, Bool.not_eq_true', decide_eq_false_iff_not]
  constructor
  · intro h
    obtain ⟨found, hfound, _, hrevoked, _, hissued, _, hnow, _, hexpiry, hret⟩ := h
    cases hret
    exact ⟨hfound, hrevoked, hissued, hnow, hexpiry⟩
  · intro h
    obtain ⟨hfound, hrevoked, hissued, hnow, hexpiry⟩ := h
    exact ⟨issuer, hfound, (), hrevoked, (), hissued, (), hnow, (), hexpiry, rfl⟩

theorem findTrustedIssuer_of_supersedes {earlier later : TrustRegistry}
    (h : Supersedes earlier later) (hlater : (later.issuers.map TrustedIssuer.identity).Nodup)
    {evidence : SignedRetentionEvidence} {now : Int} {issuer' : TrustedIssuer}
    (hknown : (evidence.issuerId, evidence.keyId) ∈ earlier.issuers.map TrustedIssuer.identity)
    (hfind : findTrustedIssuer later evidence now = .ok issuer') :
    ∃ issuer, findTrustedIssuer earlier evidence now = .ok issuer ∧
      issuer'.publicKeyBase64 = issuer.publicKeyBase64 := by
  rw [findTrustedIssuer_eq_ok] at hfind
  obtain ⟨hfound', hrevoked, hissued, hnow, hexpiry⟩ := hfind
  obtain ⟨known, hmem, hidentity⟩ := List.mem_map.mp hknown
  have hsome : (earlier.issuers.find? fun item =>
      item.issuerId = evidence.issuerId && item.keyId = evidence.keyId).isSome = true := by
    rw [List.find?_isSome]
    exact ⟨known, hmem, by simpa [TrustedIssuer.identity] using hidentity⟩
  obtain ⟨issuer, hfound⟩ := Option.isSome_iff_exists.mp hsome
  have hid := List.find?_some hfound
  have hid' := List.find?_some hfound'
  simp only [Bool.and_eq_true, decide_eq_true_eq] at hid hid'
  obtain ⟨kept, hkept, hsame, hkey, hbefore, hafter, hdelayed⟩ :=
    h.kept issuer (List.mem_of_find?_eq_some hfound)
  -- the later registry has one issuer of this identity
  have hidentities : kept.identity = issuer'.identity := by
    rw [hsame, TrustedIssuer.identity, TrustedIssuer.identity, hid.1, hid.2, hid'.1, hid'.2]
  obtain rfl : kept = issuer' :=
    List.inj_on_of_nodup_map hlater hkept (List.mem_of_find?_eq_some hfound') hidentities
  refine ⟨issuer, findTrustedIssuer_eq_ok.mpr ⟨hfound, ?_, ?_, ?_, ?_⟩, hkey⟩
  · exact not_revoked_of_not_delayed hdelayed hrevoked
  · rw [← hbefore, ← hafter]
    exact hissued
  · rw [← hbefore, ← hafter]
    exact hnow
  · rw [← hafter]
    exact hexpiry

theorem verifySignature_congr {issuer issuer' : TrustedIssuer}
    (h : issuer'.publicKeyBase64 = issuer.publicKeyBase64) (evidence : SignedRetentionEvidence)
    (raw : Jsonb) : verifySignature env issuer' evidence raw = verifySignature env issuer evidence raw := by
  rw [verifySignature, verifySignature, publicKeyBytes_congr h]

/-- Evidence of an issuer of a registry. -/
def IssuedUnder (env : RetentionEnv) (registry : TrustRegistry) (evidence : String) : Prop :=
  ∀ parsed raw, loadEvidence env evidence = .ok (parsed, raw) →
    (parsed.issuerId, parsed.keyId) ∈ registry.issuers.map TrustedIssuer.identity

/-- What a later registry resolves, the earlier one resolves to the same contract. -/
theorem resolve_of_supersedes {document document' : Jsonb} {earlier later : TrustRegistry}
    (h : Supersedes earlier later)
    (hearlier : loadRegistry env.toRegistryEnv document.value = .ok earlier)
    (hlater : loadRegistry env.toRegistryEnv document'.value = .ok later) {evidence : String}
    {req : RetentionRequirements} {now : Int} {contract : ResolvedContract}
    (hissued : IssuedUnder env earlier evidence)
    (hresolve : resolveJointRetentionContract env document' evidence req now = .ok contract) :
    resolveJointRetentionContract env document evidence req now = .ok contract := by
  simp only [resolveJointRetentionContract, bind_eq_ok, hlater, hearlier, Except.ok.injEq,
    require_eq_ok, Bool.not_eq_true'] at hresolve ⊢
  obtain ⟨_, hreq, _, rfl, ⟨parsed, raw⟩, hload, _, hstatement, _, hsystem, _, hfuture, _, hexpired,
    issuer', hissuer', _, hsignature, hconclude⟩ := hresolve
  obtain ⟨issuer, hissuer, hkey⟩ := findTrustedIssuer_of_supersedes h
    (nodup_identities (parsedRegistry hlater).identities) (hissued parsed raw hload) hissuer'
  rw [verifySignature_congr hkey] at hsignature
  refine ⟨(), hreq, earlier, rfl, (parsed, raw), hload, (), ?_, (), ?_, (), hfuture, (), hexpired,
    issuer, hissuer, (), hsignature, hconclude⟩
  · -- a statement that the earlier registry revokes is revoked in the later one
    rw [List.contains_eq_mem, decide_eq_false_iff_not] at hstatement ⊢
    exact fun hmem => hstatement (h.statements hmem)
  · rw [List.contains_eq_mem, decide_eq_false_iff_not] at hsystem ⊢
    exact fun hmem => hsystem (h.systems hmem)

end Monotone

/-- Of two registries that a run activates one after the other, the later one has the larger
    epoch, supersedes the earlier one, and resolves no evidence of an issuer of the earlier one
    that this one would not resolve to the same contract.  A replay keeps its epoch. -/
theorem trust_never_grows_back (env : RetentionEnv) (calls : List ActivateCall)
    {i j epoch epoch' : Nat} (hij : i < j) {changed changed' : Bool} {document document' : Jsonb}
    {registry registry' : TrustRegistry}
    (h : Activated env.toRegistryEnv calls i epoch changed document registry)
    (h' : Activated env.toRegistryEnv calls j epoch' changed' document' registry') :
    (changed' = true → epoch < epoch') ∧ Supersedes registry registry' ∧
      ∀ evidence req now contract, IssuedUnder env registry evidence →
        resolveJointRetentionContract env document' evidence req now = .ok contract →
        resolveJointRetentionContract env document evidence req now = .ok contract := by
  obtain ⟨-, hepoch, hsupersedes⟩ := h.superseded h' hij
  refine ⟨hepoch, hsupersedes, ?_⟩
  intro evidence req now contract hissued hresolve
  exact resolve_of_supersedes hsupersedes h.loaded h'.loaded hissued hresolve

namespace LaterRevocation

def publicKey : String := "AAAAAAAAAAAAAAAAAAAAAAAAAAAAAAAAAAAAAAAAAAA="

def statement : String := "e3b0c44298fc1c149afbf4c8996fb92427ae41e4649b934ca495991b7852b855"

/-- A registry with one issuer. -/
def registryOf (revokedAt : Json) (statements : List Json) : Json :=
  .obj [
    ("issuers", .arr [.obj [
      ("role", .str "joint_retention_certifier"),
      ("key_id", .str "k1"),
      ("issuer_id", .str "lab"),
      ("not_after", .str "2027-01-01T00:00:00Z"),
      ("not_before", .str "2026-01-01T00:00:00Z"),
      ("revoked_at", revokedAt),
      ("public_key_base64", .str publicKey)]]),
    ("schema_version", .str registrySchemaVersion),
    ("revoked_system_versions", .arr []),
    ("revoked_statement_sha256", .arr statements)]

/-- The canonical text of such a registry. -/
def textOf (revokedAt statements : String) : String :=
  "\x7b\"issuers\":[\x7b\"issuer_id\":\"lab\",\"key_id\":\"k1\"," ++
    "\"not_after\":\"2027-01-01T00:00:00Z\",\"not_before\":\"2026-01-01T00:00:00Z\"," ++
    "\"public_key_base64\":\"" ++ publicKey ++ "\",\"revoked_at\":" ++ revokedAt ++
    ",\"role\":\"joint_retention_certifier\"\x7d],\"revoked_statement_sha256\":[" ++ statements ++
    "],\"revoked_system_versions\":[],\"schema_version\":\"" ++ registrySchemaVersion ++ "\"\x7d"

def trusting : Jsonb := ⟨registryOf .null [], by decide +kernel⟩

def revoking : Jsonb :=
  ⟨registryOf (.str "2026-02-01T00:00:00Z") [.str statement], by decide +kernel⟩

def trustingText : String := textOf "null" ""

def revokingText : String := textOf "\"2026-02-01T00:00:00Z\"" ("\"" ++ statement ++ "\"")

/-- The decoder on the two texts. -/
def loads (text : String) : Option Jsonb :=
  if text = trustingText then some trusting
  else if text = revokingText then some revoking else none

/-- The encoder on the two registries. -/
def dumps (value : Jsonb) : Option String :=
  if value.value.identical trusting.value then some trustingText
  else if value.value.identical revoking.value then some revokingText else none

theorem revokingText_ne : revokingText ≠ trustingText := by decide +kernel

theorem loads_dumps (value : Jsonb) (text : String) (h : dumps value = some text) :
    loads text = some value := by
  unfold dumps at h
  split at h
  · rename_i hsame
    obtain rfl := Option.some.inj h
    rw [loads, if_pos rfl, Jsonb.eq_of_identical hsame]
  · split at h
    · rename_i hsame
      obtain rfl := Option.some.inj h
      rw [loads, if_neg revokingText_ne, if_pos rfl, Jsonb.eq_of_identical hsame]
    · cases h

/-- Days since the start of 2026. -/
def instant (text : String) : Option Int :=
  [("2026-01-01T00:00:00Z", 0), ("2026-02-01T00:00:00Z", 31), ("2027-01-01T00:00:00Z", 365)].lookup text

def sha256 (text : String) : String :=
  if text = trustingText then "74b7315a29e9524ac964e2bd2278e43da842642b0e0f62705f63d6f2610ff9d4"
  else if text = revokingText then "692816010ff4e463841aa900d96eea54b909487fd2363fe5a49d393d82a754a6"
  else "71a0ef7195df486543f63f0cb1dff83ee245c10fb566219b128a7fa99a8bbbac"

def env : RetentionEnv where
  db := ⟨loads, instant⟩
  dumps := dumps
  loads := loads
  sha256 := sha256
  instant := instant
  loads_dumps := loads_dumps
  loadsEvidence _ := none
  sha256Bytes _ := statement
  contentHash _ := statement
  verify _ _ _ := false

def calls : List ActivateCall := [⟨trusting, "op-1"⟩, ⟨revoking, "op-1"⟩]

def trustingRegistry : TrustRegistry := ⟨[⟨"lab", "k1", publicKey, 0, 365, none⟩], [], []⟩

def revokingRegistry : TrustRegistry :=
  ⟨[⟨"lab", "k1", publicKey, 0, 365, some 31⟩], [statement], []⟩

theorem trusting_activated :
    Activated env.toRegistryEnv calls 0 1 true trusting trustingRegistry := by
  refine ⟨by rfl, ⟨trusting, "op-1"⟩, ?_⟩
  have hok : okAnd (activateRegistry env.toRegistryEnv
      (stateAt (activateStep env.toRegistryEnv) .initial calls 0) ⟨trusting, "op-1"⟩)
      (fun r => r.2 = (1, true)) = true := by decide +kernel
  obtain ⟨⟨next, result⟩, hcall, hresult⟩ := exists_of_okAnd hok
  obtain rfl : result = (1, true) := of_decide_eq_true hresult
  exact ⟨next, rfl, rfl, hcall⟩

theorem revoking_activated :
    Activated env.toRegistryEnv calls 1 2 true revoking revokingRegistry := by
  refine ⟨by rfl, ⟨revoking, "op-1"⟩, ?_⟩
  have hok : okAnd (activateRegistry env.toRegistryEnv
      (stateAt (activateStep env.toRegistryEnv) .initial calls 1) ⟨revoking, "op-1"⟩)
      (fun r => r.2 = (2, true)) = true := by decide +kernel
  obtain ⟨⟨next, result⟩, hcall, hresult⟩ := exists_of_okAnd hok
  obtain rfl : result = (2, true) := of_decide_eq_true hresult
  exact ⟨next, rfl, rfl, hcall⟩

/-- A registry with one issuer, and then one that revokes its key and a statement. -/
theorem trust_never_grows_back_revoked :
    (1 < 2 ∧ Supersedes trustingRegistry revokingRegistry) ∧
      ∀ evidence req now contract, IssuedUnder env trustingRegistry evidence →
        resolveJointRetentionContract env revoking evidence req now = .ok contract →
        resolveJointRetentionContract env trusting evidence req now = .ok contract := by
  obtain ⟨hepoch, hsupersedes, hresolve⟩ :=
    trust_never_grows_back env calls Nat.zero_lt_one trusting_activated revoking_activated
  exact ⟨⟨hepoch rfl, hsupersedes⟩, hresolve⟩

end LaterRevocation

end Custombuild.Retention
