/-
  The offline verifier of a production package: the names and attributes of the ZIP members,
  the manifest, its inventory of artifacts, and the evidence that a frozen design binds.
  Source: `custombuild_manufacturing/offline_package_verifier.py`, `verify_package` and what it
  calls.

  `zipfile`, `json`, `hashlib` and the case folding of strings come from the standard library
  and are the fields of `Libraries`.
-/
import Custombuild.Lib.SortBy
import Custombuild.Manufacturing.Model
import Custombuild.Retention.InstallRegistry
import Mathlib.Data.String.Basic

namespace Custombuild.Package

open Custombuild.Lib

abbrev Bytes := List UInt8

/-! ## Values and failures -/

/-- What `json.loads` returns.  A float is kept by its text, `nan` and `inf` among them. -/
inductive Value
  | null
  | bool (value : Bool)
  | int (value : Int)
  | float (text : String)
  | str (text : String)
  | list (items : List Value)
  | dict (fields : List (String × Value))

abbrev Fields := List (String × Value)

namespace Fields

def keys (fields : Fields) : List String := fields.map Prod.fst

/-- `Mapping.get`, without a default. -/
def get (fields : Fields) (key : String) : Option Value :=
  (fields.find? fun field => field.1 == key).map Prod.snd

/-- The text of a field that holds a string. -/
def text (fields : Fields) (key : String) : Option String :=
  match get fields key with
  | some (.str text) => some text
  | _ => none

/-- The field is a string equal to `value`. -/
def textIs (fields : Fields) (key value : String) : Bool := text fields key == some value

/-- `frozenset(fields) == expected`. -/
def keysAre (fields : Fields) (expected : List String) : Bool :=
  (keys fields).all (expected.contains ·) && expected.all ((keys fields).contains ·)

end Fields

inductive FailureCode
  | invalidArguments | packageIoError | packageSizeInvalid | bundleSha256Mismatch | invalidZip
  | missingManifest | manifestTooLarge | unreadableManifest
  | invalidManifestJson | duplicateManifestKey | nonCanonicalManifest | invalidManifestStructure
  | unsafeZipPath | executableZipEntryForbidden | duplicateZipPath | unsafeZipEntry
  | tooManyZipEntries | zipEntryTooLarge | zipTooLarge | unsafeCompressionRatio
  | invalidArtifactInventory | duplicateManifestPath | nonCanonicalArtifactInventory
  | invalidArtifactJson | nonCanonicalArtifactJson
  | invalidFrozenDesignBinding | unexpectedRetentionEvidence | invalidRetentionContract
  | invalidRetentionEvidenceBinding | retentionEvidenceSha256Mismatch
  | unsupportedManifestSchema | unsafeManifestClaim | invalidPackageIdentity
  | invalidContextHash | contextHashMismatch | expectedIdentityMismatch
  | missingArtifact | unlistedArtifact | artifactSizeMismatch | artifactSha256Mismatch
  | unreadableArtifact
deriving DecidableEq

structure VerificationFailure where
  code : FailureCode
  message : String
deriving DecidableEq

/-! ## The libraries -/

/-- What the reads of an opened member give: chunks to the end, or to what is raised. -/
structure Stream where
  chunks : List Bytes
  failure : Option String
  nonempty : ∀ chunk ∈ chunks, chunk ≠ []

/-- `ZipFile.read` of the member. -/
def Stream.read (stream : Stream) : Except String Bytes :=
  match stream.failure with
  | some text => .error text
  | none => .ok stream.chunks.flatten

structure ZipInfo where
  filename : String
  isDir : Bool
  flagBits : Nat
  externalAttr : Nat
  createSystem : Nat
  fileSize : Nat
  compressSize : Nat
  stream : Stream

/-- The two hooks of `json.loads`. -/
structure Hooks where
  objectPairsHook : Fields → Except VerificationFailure Value
  parseConstant : String → Except VerificationFailure Value

inductive LoadsError
  | raised (failure : VerificationFailure)
  | invalid (text : String)

structure Libraries where
  /-- The members of `zipfile.ZipFile(io.BytesIO(payload))`. -/
  infolist : Bytes → Except String (List ZipInfo)
  /-- The text of the `KeyError` of a read by a name that no member has. -/
  noItemNamed : String → String
  /-- `hashlib.sha256(payload).hexdigest()`. -/
  sha256 : Bytes → String
  casefold : String → String
  repr : Value → String
  /-- `json.loads` of the payload decoded as UTF-8, with hooks. -/
  loadsWith : Hooks → Bytes → Except LoadsError Value
  /-- `json.loads` of the payload. -/
  loads : Bytes → Except String Value
  /-- `json.dumps` with sorted keys, without spaces and without NaN, encoded as UTF-8. -/
  dumps : Value → Except String Bytes

/-- `ZipFile.read` by name: of members of one name, the last. -/
def readNamed (lib : Libraries) (archive : List ZipInfo) (name : String) : Except String Bytes :=
  match archive.reverse.find? fun info => info.filename == name with
  | none => .error (lib.noItemNamed name)
  | some info => info.stream.read

/-! ## Constants -/

def manifestSchemaVersion : String := "custombuild.production-manifest.v5"
def artifactSchemaVersion : String := "custombuild.production-artifacts.v1"
def manifestPath : String := "manifest.json"
def frozenDesignSpecPath : String := "design/design-spec.json"
def frozenDesignSpecRole : String := "FROZEN_DESIGN_SPEC"
def frozenDesignSpecMediaType : String := "application/json"
def frozenDesignSpecSchemaVersion : String := "custombuild.frozen-design-spec.v1"
def jointRetentionSignedEvidencePath : String := "evidence/joint-retention/signed-evidence.json"
def jointRetentionSignedEvidenceRole : String := "JOINT_RETENTION_SIGNED_EVIDENCE"
def jointRetentionSignedEvidenceMediaType : String := "application/json"
def manifestChecksumScope : String :=
  "all payload files; manifest.json excluded to avoid recursive hashing"

def maxPackageBytes : Nat := 32 * 1024 * 1024
def maxManifestBytes : Nat := 3 * 1024 * 1024
def maxEntryBytes : Nat := 32 * 1024 * 1024
def maxUncompressedBytes : Nat := 2 * 1024 * 1024 * 1024
def maxFiles : Nat := 10000
def maxCompressionRatio : Nat := 1000

def manifestContextFields : List String :=
  ["project_id", "revision", "design_hash", "app_version", "engine_version", "template_version",
    "domain_template_version", "template_capability_version",
    "template_capability_registry_version", "template_id", "template_capability_fingerprint",
    "template_capability", "rule_version", "material_versions", "joint_version",
    "machine_profile", "postprocessor_version", "generation_context_hash",
    "production_engine_context", "artifact_schema_version", "cad_status", "release_scope",
    "machine_use", "physical_cutting_authorized", "approved_assumptions", "warnings",
    "overrides", "external_evidence", "source_provenance", "artifacts"]

def manifestKeys : List String :=
  "schema_version" :: manifestContextFields ++ ["production_context_hash", "checksum_scope"]

def artifactKeys : List String := ["path", "media_type", "role", "size_bytes", "sha256"]

/-- `_DIGEST.fullmatch`. -/
def isDigest (text : String) : Bool := Retention.isSha256Text text

/-! ## The manifest as JSON -/

/-- `_reject_json_constant`. -/
def rejectJsonConstant (value : String) : Except VerificationFailure Value :=
  .error ⟨.invalidManifestJson, "manifest contains unsupported JSON constant: " ++ value⟩

/-- `_unique_json_object`. -/
def uniqueJsonObject (pairs : Fields) : Except VerificationFailure Value := do
  let value ← pairs.foldlM (fun (value : Fields) (key, item) => do
    require (!(Fields.keys value).contains key)
      (⟨.duplicateManifestKey, "manifest contains duplicate JSON key: " ++ key⟩ :
        VerificationFailure)
    return value ++ [(key, item)]) []
  return .dict value

def manifestHooks : Hooks := ⟨uniqueJsonObject, rejectJsonConstant⟩

/-- `_canonical_json_bytes`. -/
def canonicalJsonBytes (lib : Libraries) (value : Value) : Except VerificationFailure Bytes :=
  (lib.dumps value).mapError fun text =>
    ⟨.nonCanonicalManifest, "manifest cannot be encoded canonically: " ++ text⟩

/-- `_parse_manifest`. -/
def parseManifest (lib : Libraries) (payload : Bytes) : Except VerificationFailure Fields := do
  let parsed ← (lib.loadsWith manifestHooks payload).mapError fun
    | .raised failure => failure
    | .invalid text => ⟨.invalidManifestJson, "manifest.json is not strict UTF-8 JSON: " ++ text⟩
  match parsed with
  | .dict fields =>
    require (Fields.keysAre fields manifestKeys)
      ⟨.invalidManifestStructure, "manifest.json has unexpected top-level fields"⟩
    let canonical ← canonicalJsonBytes lib parsed
    require (canonical == payload)
      ⟨.nonCanonicalManifest, "manifest.json is not canonical UTF-8 JSON"⟩
    return fields
  | _ => .error ⟨.invalidManifestStructure, "manifest.json must contain one JSON object"⟩

/-! ## Paths -/

/-- `path.split("/")`. -/
def components (path : String) : List (List Char) := (charsOf path).splitOn '/'

/-- What the first check of `_validate_path` accepts. -/
def validPathText : Value → Option String
  | .str path =>
    if path == "" || (charsOf path).any fun c => c == '\\' || c.toNat == 0 || c == ':' then none
    else some path
  | _ => none

/-- `_validate_path`. -/
def validatePath (lib : Libraries) (path : Value) : Except VerificationFailure String := do
  let text ← demand (validPathText path)
    ⟨.unsafeZipPath, "ZIP contains an invalid path: " ++ lib.repr path⟩
  require (!(components text).any fun part => part == [] || part == ['.'] || part == ['.', '.'])
    ⟨.unsafeZipPath, "ZIP contains an unsafe path: " ++ text⟩
  require ((charsOf text).head? != some '/')
    ⟨.unsafeZipPath, "ZIP contains an absolute path: " ++ text⟩
  return text

/-! ## The members -/

/-- What the loop of `_validate_zip_metadata` carries. -/
structure Metadata where
  byName : List ZipInfo
  casefolded : List String
  totalSize : Nat

/-- One turn of the loop of `_validate_zip_metadata`. -/
def validateZipInfo (lib : Libraries) (state : Metadata) (info : ZipInfo) :
    Except VerificationFailure Metadata := do
  let name ← validatePath lib (.str info.filename)
  let folded := lib.casefold name
  require (folded != "__main__.py") ⟨.executableZipEntryForbidden,
    "received packages must not contain executable __main__.py content"⟩
  require (!((state.byName.map (·.filename)).contains name || state.casefolded.contains folded))
    ⟨.duplicateZipPath, "ZIP contains a duplicate or case-alias path: " ++ name⟩
  require (!(info.isDir || info.flagBits &&& 1 != 0))
    ⟨.unsafeZipEntry, "ZIP contains a directory or encrypted entry: " ++ name⟩
  let unixMode := info.externalAttr >>> 16 &&& 0xFFFF
  require (info.createSystem == 3 && unixMode == 0o100644)
    ⟨.unsafeZipEntry, "ZIP contains a non-regular entry: " ++ name⟩
  require (decide (info.fileSize ≤ maxEntryBytes))
    ⟨.zipEntryTooLarge, "ZIP entry exceeds the safety limit: " ++ name⟩
  let totalSize := state.totalSize + info.fileSize
  require (decide (totalSize ≤ maxUncompressedBytes))
    ⟨.zipTooLarge, "ZIP uncompressed size exceeds the safety limit"⟩
  -- with at most 32 MiB above the line, the binary quotient passes 1000 when the exact one does
  require (info.fileSize == 0 || (info.compressSize != 0 &&
      decide (info.fileSize ≤ maxCompressionRatio * info.compressSize)))
    ⟨.unsafeCompressionRatio, "ZIP entry has an unsafe compression ratio: " ++ name⟩
  return ⟨state.byName ++ [info], state.casefolded ++ [folded], totalSize⟩

/-- `_validate_zip_metadata`. -/
def validateZipMetadata (lib : Libraries) (infos : List ZipInfo) :
    Except VerificationFailure (List ZipInfo) := do
  require (decide (infos.length ≤ maxFiles))
    ⟨.tooManyZipEntries, "ZIP contains too many entries"⟩
  let state ← infos.foldlM (validateZipInfo lib) ⟨[], [], 0⟩
  return state.byName

/-- The loop of `_sha256_stream`: the size so far and the bytes given to the digest. -/
def sha256Chunks (info : ZipInfo) (expectedSize : Nat) :
    List Bytes → Nat → Bytes → Except VerificationFailure (Nat × Bytes)
  | [], size, digest =>
    match info.stream.failure with
    | none => .ok (size, digest)
    | some text => .error ⟨.unreadableArtifact,
        "cannot read ZIP artifact " ++ info.filename ++ ": " ++ text⟩
  | chunk :: chunks, size, digest => do
    require (decide (size + chunk.length ≤ expectedSize) &&
        decide (size + chunk.length ≤ maxEntryBytes))
      ⟨.artifactSizeMismatch, "artifact exceeds declared size: " ++ info.filename⟩
    sha256Chunks info expectedSize chunks (size + chunk.length) (digest ++ chunk)

/-- `_sha256_stream`. -/
def sha256Stream (lib : Libraries) (info : ZipInfo) (expectedSize : Nat) :
    Except VerificationFailure (Nat × String) := do
  let (size, digest) ← sha256Chunks info expectedSize info.stream.chunks 0 []
  return (size, lib.sha256 digest)

/-! ## The inventory -/

/-- An artifact of the manifest, with its five fields checked. -/
structure Entry where
  path : String
  mediaType : String
  role : String
  sizeBytes : Nat
  sha256 : String

/-- `not text.strip()`. -/
def isBlank (text : String) : Bool := (charsOf text).all Manufacturing.isSpaceChar

/-- What the loop of `_manifest_entries` carries. -/
structure Inventory where
  entries : List Entry
  casefolded : List String

/-- One turn of the loop of `_manifest_entries`. -/
def manifestEntry (lib : Libraries) (state : Inventory) (raw : Value) :
    Except VerificationFailure Inventory := do
  let fields ← demand (match raw with
      | .dict fields => if Fields.keysAre fields artifactKeys then some fields else none
      | _ => none)
    ⟨.invalidArtifactInventory, "manifest artifact entries must use the exact v5 field set"⟩
  let path ← validatePath lib ((Fields.get fields "path").getD .null)
  require (path != manifestPath)
    ⟨.invalidArtifactInventory, "manifest.json cannot inventory itself"⟩
  let mediaType ← demand ((Fields.text fields "media_type").filter fun text => !isBlank text)
    ⟨.invalidArtifactInventory, "artifact has invalid media type: " ++ path⟩
  let role ← demand ((Fields.text fields "role").filter fun text => !isBlank text)
    ⟨.invalidArtifactInventory, "artifact has invalid role: " ++ path⟩
  let size ← demand (match Fields.get fields "size_bytes" with
      | some (.int size) =>
        if 0 ≤ size ∧ size ≤ (maxEntryBytes : Int) then some size.toNat else none
      | _ => none)
    ⟨.invalidArtifactInventory, "artifact has invalid byte size: " ++ path⟩
  let digest ← demand ((Fields.text fields "sha256").filter isDigest)
    ⟨.invalidArtifactInventory, "artifact has invalid SHA-256: " ++ path⟩
  require (!((state.entries.map (·.path)).contains path ||
      state.casefolded.contains (lib.casefold path)))
    ⟨.duplicateManifestPath, "manifest repeats an artifact path: " ++ path⟩
  return ⟨state.entries ++ [⟨path, mediaType, role, size, digest⟩],
    state.casefolded ++ [lib.casefold path]⟩

/-- `_manifest_entries`. -/
def manifestEntries (lib : Libraries) (manifest : Fields) :
    Except VerificationFailure (List Entry) := do
  let rawEntries ← demand (match Fields.get manifest "artifacts" with
      | some (.list items) => some items
      | _ => none)
    ⟨.invalidArtifactInventory, "manifest artifacts must be an array"⟩
  let state ← rawEntries.foldlM (manifestEntry lib) ⟨[], []⟩
  let paths := state.entries.map (·.path)
  require (paths == paths.insertionSort (· ≤ ·))
    ⟨.nonCanonicalArtifactInventory, "manifest artifact paths are not sorted"⟩
  return state.entries

/-! ## The evidence of retention -/

/-- `_parse_canonical_artifact_object`. -/
def parseCanonicalArtifactObject (lib : Libraries) (payload : Bytes) (label : String) :
    Except VerificationFailure Fields := do
  let parsed ← (lib.loads payload).mapError fun text =>
    (⟨.invalidArtifactJson, label ++ " is not strict UTF-8 JSON: " ++ text⟩ : VerificationFailure)
  match parsed with
  | .dict fields =>
    let canonical ← canonicalJsonBytes lib parsed
    require (canonical == payload)
      ⟨.nonCanonicalArtifactJson, label ++ " is not canonical UTF-8 JSON"⟩
    return fields
  | _ => .error ⟨.invalidArtifactJson, label ++ " must contain one JSON object"⟩

/-- The entry stands for an artifact: by its path or by its role, case folded. -/
def standsFor (lib : Libraries) (path role : String) (entry : Entry) : Bool :=
  lib.casefold entry.path == lib.casefold path || lib.casefold entry.role == lib.casefold role

/-- One entry, with the path, the role and the media type of the artifact. -/
def theOnly (path role mediaType : String) : List Entry → Option Entry
  | [entry] =>
    if entry.path == path && entry.role == role && entry.mediaType == mediaType then some entry
    else none
  | _ => none

/-- `spec.get("joint_retention")`, `None` being nothing. -/
def jointRetention (spec : Fields) : Option Value :=
  match Fields.get spec "joint_retention" with
  | some .null => none
  | retention => retention

/-- `_validate_joint_retention_sidecar`. -/
def validateJointRetentionSidecar (lib : Libraries) (archive : List ZipInfo)
    (entries : List Entry) : Except VerificationFailure Unit := do
  let designEntries := entries.filter (standsFor lib frozenDesignSpecPath frozenDesignSpecRole)
  let _ ← demand (theOnly frozenDesignSpecPath frozenDesignSpecRole frozenDesignSpecMediaType
      designEntries)
    ⟨.invalidFrozenDesignBinding, "manifest must bind one canonical frozen DesignSpec"⟩
  let frozenPayload ← (readNamed lib archive frozenDesignSpecPath).mapError fun text =>
    (⟨.invalidFrozenDesignBinding, "cannot read frozen DesignSpec: " ++ text⟩ :
      VerificationFailure)
  let frozen ← parseCanonicalArtifactObject lib frozenPayload "frozen DesignSpec"
  let spec ← demand (match Fields.get frozen "spec" with
      | some (.dict spec) =>
        if Fields.keysAre frozen ["schema_version", "spec"] &&
            Fields.textIs frozen "schema_version" frozenDesignSpecSchemaVersion then some spec
        else none
      | _ => none)
    ⟨.invalidFrozenDesignBinding, "frozen DesignSpec has an unsupported structure"⟩
  let evidenceEntries := entries.filter
    (standsFor lib jointRetentionSignedEvidencePath jointRetentionSignedEvidenceRole)
  match jointRetention spec with
  | none =>
    require evidenceEntries.isEmpty ⟨.unexpectedRetentionEvidence,
      "unbound frozen DesignSpec cannot contain signed retention evidence"⟩
  | some retention =>
    let retention ← demand (match retention with
        | .dict retention => some retention
        | _ => none)
      ⟨.invalidRetentionContract, "frozen joint-retention contract must be an object"⟩
    let expectedSha256 ← demand ((Fields.text retention "evidence_sha256").filter isDigest)
      ⟨.invalidRetentionContract, "frozen joint-retention evidence SHA-256 is invalid"⟩
    let evidenceEntry ← demand (theOnly jointRetentionSignedEvidencePath
        jointRetentionSignedEvidenceRole jointRetentionSignedEvidenceMediaType evidenceEntries)
      ⟨.invalidRetentionEvidenceBinding,
        "retention-bound DesignSpec requires one canonical signed evidence artifact"⟩
    require (evidenceEntry.sha256 == expectedSha256) ⟨.retentionEvidenceSha256Mismatch,
      "signed retention evidence differs from the frozen retention contract"⟩
    let evidenceBytes ← (readNamed lib archive jointRetentionSignedEvidencePath).mapError fun text =>
      (⟨.invalidRetentionEvidenceBinding, "cannot read signed evidence: " ++ text⟩ :
        VerificationFailure)
    require (lib.sha256 evidenceBytes == expectedSha256) ⟨.retentionEvidenceSha256Mismatch,
      "signed retention evidence differs from the frozen retention contract"⟩

/-! ## The claims of the manifest -/

/-- The context that `production_context_hash` is taken of. -/
def manifestContext (manifest : Fields) : Except VerificationFailure Fields :=
  collect (fun field => (demand (Fields.get manifest field)
    (⟨.invalidManifestStructure, "manifest context field is missing: " ++ field⟩ :
      VerificationFailure)).map fun value => (field, value)) manifestContextFields

/-- `_validate_manifest_claims`. -/
def validateManifestClaims (lib : Libraries) (manifest : Fields) :
    Except VerificationFailure Unit := do
  require (Fields.textIs manifest "schema_version" manifestSchemaVersion)
    ⟨.unsupportedManifestSchema, "only custombuild.production-manifest.v5 is supported"⟩
  require (Fields.textIs manifest "artifact_schema_version" artifactSchemaVersion &&
      Fields.textIs manifest "release_scope" "design_review" &&
      Fields.textIs manifest "machine_use" "validation_only" &&
      (match Fields.get manifest "physical_cutting_authorized" with
        | some (.bool false) => true
        | _ => false) &&
      Fields.textIs manifest "checksum_scope" manifestChecksumScope)
    ⟨.unsafeManifestClaim, "manifest contains unsafe or unsupported package claims"⟩
  require ((Fields.text manifest "project_id").any (· != ""))
    ⟨.invalidPackageIdentity, "manifest project_id must be a non-empty string"⟩
  require ((Fields.text manifest "revision").any (· != ""))
    ⟨.invalidPackageIdentity, "manifest revision must be a non-empty string"⟩
  require ((Fields.text manifest "design_hash").any isDigest)
    ⟨.invalidPackageIdentity, "manifest design_hash must be a lowercase SHA-256"⟩
  let productionHash ← demand ((Fields.text manifest "production_context_hash").filter isDigest)
    ⟨.invalidContextHash, "manifest production_context_hash is invalid"⟩
  let context ← manifestContext manifest
  let canonical ← canonicalJsonBytes lib (.dict context)
  require (productionHash == lib.sha256 canonical)
    ⟨.contextHashMismatch, "manifest production_context_hash does not match its context"⟩

structure Request where
  expectedBundleSha256 : String
  expectedProjectId : Option String
  expectedRevision : Option String
  expectedDesignHash : Option String

/-- `_validate_expected_identity`. -/
def validateExpectedIdentity (lib : Libraries) (manifest : Fields) (request : Request) :
    Except VerificationFailure Unit :=
  forEach (fun (field, value) => match value with
      | none => .ok ()
      | some value => require (Fields.textIs manifest field value) ⟨.expectedIdentityMismatch,
          "expected " ++ field ++ "=" ++ lib.repr (.str value) ++ ", manifest contains " ++
            lib.repr ((Fields.get manifest field).getD .null)⟩)
    [("project_id", request.expectedProjectId), ("revision", request.expectedRevision),
      ("design_hash", request.expectedDesignHash)]

/-! ## The package -/

structure Details where
  bundleSha256 : String
  externalBundleSha256Match : Bool
  designHash : Value
  projectId : Value
  revision : Value
  manifestSchemaVersion : Value
  verifiedArtifactCount : Nat

/-- `sorted(left - right)[0]`, when there is one. -/
def firstOnlyIn (left right : List String) : Option String :=
  (sortedSet (left.filter fun path => !right.contains path)).head?

/-- The turn of the loop of `verify_package` over the inventory. -/
def verifyEntry (lib : Libraries) (files : List ZipInfo) (entry : Entry) :
    Except VerificationFailure Unit := do
  let mismatch : VerificationFailure :=
    ⟨.artifactSizeMismatch, "artifact byte size differs: " ++ entry.path⟩
  let info ← demand (files.find? fun info => info.filename == entry.path) mismatch
  require (info.fileSize == entry.sizeBytes) mismatch
  let (actualSize, actualDigest) ← sha256Stream lib info entry.sizeBytes
  require (actualSize == entry.sizeBytes) mismatch
  require (actualDigest == entry.sha256)
    ⟨.artifactSha256Mismatch, "artifact SHA-256 differs: " ++ entry.path⟩

/-- `verify_package`, on what reading the file gives. -/
def verifyPackage (lib : Libraries) (file : Except String Bytes) (request : Request) :
    Except VerificationFailure Details := do
  require (isDigest request.expectedBundleSha256)
    ⟨.invalidArguments, "expected bundle hash must be a lowercase SHA-256"⟩
  let content ← file.mapError fun text =>
    (⟨.packageIoError, "cannot read package: " ++ text⟩ : VerificationFailure)
  let packageBytes := content.take maxPackageBytes
  let exceedsSizeLimit := decide (content.length > maxPackageBytes)
  require (!(packageBytes.isEmpty || exceedsSizeLimit))
    ⟨.packageSizeInvalid, "package is empty or exceeds the 32 MiB safety limit"⟩
  let bundleSha256 := lib.sha256 packageBytes
  require (bundleSha256 == request.expectedBundleSha256) ⟨.bundleSha256Mismatch,
    "package ZIP SHA-256 differs from the independently supplied expected bundle hash"⟩
  let archive ← (lib.infolist packageBytes).mapError fun text =>
    (⟨.invalidZip, "package is not a readable ZIP: " ++ text⟩ : VerificationFailure)
  let files ← validateZipMetadata lib archive
  let manifestInfo ← demand (files.find? fun info => info.filename == manifestPath)
    ⟨.missingManifest, "ZIP does not contain manifest.json"⟩
  require (decide (manifestInfo.fileSize ≤ maxManifestBytes))
    ⟨.manifestTooLarge, "manifest.json exceeds the safety limit"⟩
  let manifestBytes ← manifestInfo.stream.read.mapError fun text =>
    (⟨.unreadableManifest, "cannot read manifest.json: " ++ text⟩ : VerificationFailure)
  let manifest ← parseManifest lib manifestBytes
  validateManifestClaims lib manifest
  validateExpectedIdentity lib manifest request
  let entries ← manifestEntries lib manifest
  let expectedPaths := manifestPath :: entries.map (·.path)
  let actualPaths := files.map (·.filename)
  let missing := firstOnlyIn expectedPaths actualPaths
  let extra := firstOnlyIn actualPaths expectedPaths
  require missing.isNone
    ⟨.missingArtifact, "ZIP is missing manifest artifact: " ++ missing.getD ""⟩
  require extra.isNone
    ⟨.unlistedArtifact, "ZIP contains an unlisted artifact: " ++ extra.getD ""⟩
  forEach (verifyEntry lib files) entries
  validateJointRetentionSidecar lib archive entries
  return {
    bundleSha256
    externalBundleSha256Match := true
    designHash := (Fields.get manifest "design_hash").getD .null
    projectId := (Fields.get manifest "project_id").getD .null
    revision := (Fields.get manifest "revision").getD .null
    manifestSchemaVersion := (Fields.get manifest "schema_version").getD .null
    verifiedArtifactCount := entries.length }

end Custombuild.Package
