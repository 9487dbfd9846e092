/-
  The reaper's database functions and the two triggers that keep reaped objects apart from
  live data: the deferred check of domain references and the check of job states.
  Source: `alembic/versions/0013_storage_quota_security_functions.py`.
-/
import Custombuild.Storage.Functions

namespace Custombuild.Storage

open Custombuild.Lib

/-! ## Claim for reaping -/

structure ClaimReapCall where
  tenantContext : String
  organizationId : String
  claimToken : String
  claimDurationSeconds : Int
  limit : Int
  accountingState : AccountingState
  now : Int
  /-- The keys of rows locked by other transactions. -/
  skipped : List String

/-- `StorageReapClaim`. -/
structure StorageReapClaim where
  organizationId : String
  objectKey : String
  sha256 : String
  sizeBytes : Int
  counterKind : AccountingState
  claimToken : String
  claimExpiresAt : Int
deriving DecidableEq

/-- The lifecycle part of the `WHERE` of `_custombuild_storage_claim_reap`. -/
def isDueForReaping (accountingState : AccountingState) (row : StoredObject) (now : Int) : Bool :=
  match row.state with
  | .reserved => accountingState = .reserved && row.leaseExpiresAt.any fun expiry => expiry ≤ now
  | .committed | .deletePending => accountingState = .committed
  | .reaping => row.claimExpiresAt.any (fun expiry => expiry ≤ now) &&
      row.claimToken.bind marker == some accountingState.marker

def isReapCandidate (db : Database) (call : ClaimReapCall) (row : StoredObject) : Bool :=
  row.organizationId == call.organizationId && isDueForReaping call.accountingState row call.now &&
    !db.isReferenced row.organizationId row.objectKey && !db.hasLiveOwner row call.now &&
    !call.skipped.contains row.objectKey

/-- `COALESCE(lease_expires_at, claim_expires_at, updated_at)`. -/
def reapOrderTime (row : StoredObject) : Int :=
  (row.leaseExpiresAt.or row.claimExpiresAt).getD row.updatedAt

/-- The rows a claim takes, in the order of the query. -/
def reapCandidates (cluster : Cluster) (db : Database) (call : ClaimReapCall) :
    List StoredObject :=
  let ordered := (db.storedObjects.filter (isReapCandidate db call)).insertionSort fun a b =>
    reapOrderTime a < reapOrderTime b ∨
      reapOrderTime a = reapOrderTime b ∧ cluster.collates a.objectKey b.objectKey = true
  ordered.take call.limit.toNat

/-- `UPDATE … SET state = 'reaping'`. -/
def reapingRow (token : String) (expiry now : Int) (row : StoredObject) : StoredObject :=
  { row with
    state := .reaping
    leaseToken := none
    leaseExpiresAt := none
    claimToken := some token
    claimExpiresAt := some expiry
    updatedAt := now }

/-- The update of one candidate, by its key. -/
def reapRow (organizationId token : String) (expiry now : Int) (rows : List StoredObject)
    (candidate : StoredObject) : List StoredObject :=
  updateObject organizationId candidate.objectKey (reapingRow token expiry now) rows

/-- `_custombuild_storage_claim_reap`. -/
def claimReap (cluster : Cluster) (db : Database) (call : ClaimReapCall) :
    Except StorageError (Database × List StorageReapClaim) := do
  requireTenant call.tenantContext call.organizationId
  assertUuid "claim_token" call.claimToken
  require (1 ≤ call.claimDurationSeconds && call.claimDurationSeconds ≤ 3600 && 1 ≤ call.limit &&
      call.limit ≤ 256)
    (claimInvalid "reaper bounds are invalid")
  let token := overlayMarker call.claimToken call.accountingState.marker
  let expiry := call.now + call.claimDurationSeconds * second
  let candidates := reapCandidates cluster db call
  let rows := candidates.foldl (reapRow call.organizationId token expiry call.now) db.storedObjects
  let claims := candidates.map fun row : StoredObject =>
    (⟨call.organizationId, row.objectKey, row.sha256, row.sizeBytes, call.accountingState, token,
      expiry⟩ : StorageReapClaim)
  return ({ db with storedObjects := rows }, claims)

/-! ## Finalize -/

structure FinalizeReapCall where
  tenantContext : String
  organizationId : String
  objectKey : String
  sha256 : String
  sizeBytes : Int
  claimToken : String
  capacityBucket : String
  now : Int

def bucketMismatch : StorageError :=
  .raised "55000" "STORAGE_BUCKET_MISMATCH: provider bucket differs from ledger capacity"

/-- `custombuild_storage_assert_reap_bucket`. -/
def assertReapBucket (cluster : Cluster) (db : Database) (bucket : String) :
    Except StorageError Unit := do
  assertText cluster "capacity_bucket" bucket 63
  let quota ← demand db.globalQuota globalQuotaMissing
  require (quota.capacityBucket == some bucket) bucketMismatch

/-- The row with a key of a tenant. -/
def Database.storedObject (db : Database) (organizationId objectKey : String) :
    Option StoredObject :=
  db.storedObjects.find? fun row =>
    row.organizationId == organizationId && row.objectKey == objectKey

/-- The row is claimed by exactly this token, for these bytes, and the claim has not expired. -/
def ownsReapClaim (row : StoredObject) (sha256 : String) (sizeBytes : Int) (claimToken : String)
    (now : Int) : Bool :=
  row.state = .reaping && row.sha256 == sha256 && row.sizeBytes == sizeBytes &&
    row.claimToken == some claimToken && row.claimExpiresAt.any fun expiry => now < expiry

def tombstoneOf (row : StoredObject) (kind : AccountingState) (call : FinalizeReapCall) :
    Tombstone where
  capacityBucket := call.capacityBucket
  objectKey := row.objectKey
  organizationId := row.organizationId
  projectId := row.projectId
  sha256 := row.sha256
  sizeBytes := row.sizeBytes
  mediaType := row.mediaType
  ownerType := row.ownerType
  ownerId := row.ownerId
  idempotencyKey := row.idempotencyKey
  accountingState := kind
  claimToken := call.claimToken
  retiredAt := call.now

/-- `INSERT INTO storage_object_tombstones`, with its primary key and unique constraint. -/
def insertTombstone (tombstones : List Tombstone) (tombstone : Tombstone) :
    Except StorageError (List Tombstone) := do
  require (!tombstones.any fun other => other.capacityBucket == tombstone.capacityBucket &&
      other.objectKey == tombstone.objectKey)
    (.uniqueViolation "storage_object_tombstones_pkey")
  require (!tombstones.any fun other => other.capacityBucket == tombstone.capacityBucket &&
      other.idempotencyKey == tombstone.idempotencyKey)
    (.uniqueViolation "uq_storage_tombstones_bucket_idempotency_key")
  return tombstones ++ [tombstone]

def checkFinalizeArguments (cluster : Cluster) (call : FinalizeReapCall) :
    Except StorageError AccountingState := do
  requireTenant call.tenantContext call.organizationId
  assertText cluster "object_key" call.objectKey 512
  assertUuid "claim_token" call.claimToken
  assertText cluster "capacity_bucket" call.capacityBucket 63
  require (isSha256Text call.sha256 && 1 ≤ call.sizeBytes &&
      call.sizeBytes ≤ tenantStorageByteLimit)
    (claimInvalid "reaper identity is invalid")
  demand (counterKindFromToken call.claimToken)
    (claimInvalid "claim token has no accounting marker")

/-- The release of one object from the counter family of its claim. -/
def releaseCounters (db : Database) (quota : GlobalQuota) (tenant : TenantQuota)
    (kind : AccountingState) (organizationId : String) (sizeBytes : Int) :
    Except StorageError Database :=
  match kind with
  | .reserved => do
    require (reservedCovers quota tenant sizeBytes 1) reservedUnderflow
    return db.addReserved quota organizationId (-sizeBytes) (-1)
  | .committed => do
    require (committedCovers quota tenant sizeBytes 1) committedUnderflow
    return db.addCommitted quota organizationId (-sizeBytes) (-1)

/-- `custombuild_storage_finalize_reap`. -/
def finalizeReap (cluster : Cluster) (db : Database) (call : FinalizeReapCall) :
    Except StorageError Database := do
  let kind ← checkFinalizeArguments cluster call
  let quota ← demand db.globalQuota globalQuotaMissing
  require (quota.capacityBucket == some call.capacityBucket) bucketMismatch
  let tenant ← demand (db.tenantQuota call.organizationId) tenantQuotaMissing
  let row ← demand (db.storedObject call.organizationId call.objectKey)
    (claimConflict "reaper ownership or identity was lost")
  require (ownsReapClaim row call.sha256 call.sizeBytes call.claimToken call.now)
    (claimConflict "reaper ownership or identity was lost")
  require (!db.isReferenced call.organizationId call.objectKey && !db.hasLiveOwner row call.now)
    (.raised "23503" "STORAGE_REAP_BLOCKED: object still has a domain reference")
  let tombstones ← insertTombstone db.tombstones (tombstoneOf row kind call)
  let db := { db with tombstones := tombstones }
  let db ← releaseCounters db quota tenant kind call.organizationId call.sizeBytes
  let isClaimed : StoredObject → Bool := fun row =>
    row.organizationId == call.organizationId && row.objectKey == call.objectKey &&
      row.claimToken == some call.claimToken
  require (db.storedObjects.any isClaimed) (quotaInvariant "token-bound delete failed")
  return { db with storedObjects := db.storedObjects.filter fun row => !isClaimed row }

/-! ## Triggers -/

/-- The identity a reference requires of the row it points at. -/
structure ReferenceIdentity where
  projectId : String
  ownerType : String
  ownerId : String
  idempotencyKey : String

/-- The project of a generation job, through its design version. -/
def Database.jobProject (db : Database) (organizationId jobId : String) : Option String := do
  let job ← db.generationJobs.find? fun job => job.organizationId == organizationId && job.id == jobId
  let version ← db.designVersions.find? fun version =>
    version.organizationId == job.organizationId && version.id == job.designVersionId
  return version.projectId

def referenceIdentity (db : Database) (reference : DomainReference) : Option ReferenceIdentity :=
  match reference.origin with
  | .importedAsset projectId =>
    some ⟨projectId, "imported_asset", reference.id, "imported:" ++ reference.id⟩
  | .externalEvidence projectId =>
    some ⟨projectId, "external_evidence", reference.id, "external-evidence:" ++ reference.id⟩
  | .artifact generationJobId kind =>
    (db.jobProject reference.organizationId generationJobId).map fun projectId =>
      ⟨projectId, "generation_job", generationJobId,
        "generation:" ++ generationJobId ++ ":" ++ kind ++ ":" ++ reference.id⟩

/-- The row is committed and has exactly the identity of the reference. -/
def rowMatchesReference (row : StoredObject) (reference : DomainReference)
    (identity : ReferenceIdentity) : Bool :=
  row.organizationId == reference.organizationId && row.objectKey == reference.objectKey &&
    row.state = .committed && row.projectId == identity.projectId &&
    row.sha256 == reference.sha256 && row.sizeBytes == reference.sizeBytes &&
    row.mediaType == reference.mediaType && row.ownerType == identity.ownerType &&
    row.ownerId == identity.ownerId && row.idempotencyKey == identity.idempotencyKey

/-- `_custombuild_storage_enforce_domain_reference`, run at the end of the transaction. -/
def enforceDomainReference (db : Database) (reference : DomainReference) :
    Except StorageError Unit := do
  let identity ← demand (referenceIdentity db reference) (.raised "23503"
    "STORAGE_DOMAIN_REFERENCE_INVALID: artifact owner graph is missing")
  require (db.storedObjects.any fun row => rowMatchesReference row reference identity)
    (.raised "23503" ("STORAGE_DOMAIN_REFERENCE_INVALID: reference must match an " ++
      "exact committed storage ledger identity"))

/-- The rows a generation job owns. -/
def Database.ownedRows (db : Database) (organizationId jobId : String) : List StoredObject :=
  db.storedObjects.filter fun row => row.organizationId == organizationId &&
    row.ownerType == "generation_job" && row.ownerId == jobId

/-- The delay one owned row asks for; a row whose claim is invalid raises. -/
def livenessDelay (row : StoredObject) (now : Int) : Except StorageError Int :=
  let invalid : StorageError := .raised "23503"
    "STORAGE_GENERATION_LIVENESS_INVALID: generation storage has an invalid reaper claim"
  if row.state = .reaping then do
    require (row.claimToken.any fun token =>
      isUuidText token && (counterKindFromToken token).isSome) invalid
    let expiry ← demand row.claimExpiresAt invalid
    let delay := reaperRetryDelay expiry now
    require (1 ≤ delay && delay ≤ 3605) (.raised "23503"
      ("STORAGE_GENERATION_LIVENESS_INVALID: generation storage claim delay is outside " ++
        "the canonical window"))
    return delay
  else return 0

/-- `_custombuild_storage_enforce_generation_liveness`, run before a job row is written. -/
def enforceGenerationLiveness (db : Database) (job : JobRow) (now : Int) :
    Except StorageError Unit := do
  if job.isLive now then
    let delays ← collect (fun row => livenessDelay row now) (db.ownedRows job.organizationId job.id)
    let retryAfter := delays.foldl max 0
    require (retryAfter ≤ 0)
      (.raised "55000" ("STORAGE_GENERATION_RETRY_BUSY:" ++ toString retryAfter))

end Custombuild.Storage
