/-
  The ledger functions as the Python code runs them on SQLite, in development and in the
  parity tests, and the calls with which the same code reaches the PostgreSQL functions.
  Source: `app/storage_quota.py`; the finalizing transaction of `app/storage_reaper.py`.

  SQLite enforces no foreign key here: nothing switches the pragma on.  The rows that
  `_locked_claim_rows` loads are changed in memory and written by the flush at the end.  A
  lease is given by its duration, in seconds, as the PostgreSQL functions take it.
-/
import Custombuild.Storage.Backfill
import Custombuild.Storage.Batches

namespace Custombuild.Storage

open Custombuild.Lib

inductive QuotaError where
  | conflict (message : String)
  | busy (message : String) (retryAfterSeconds : Int)
  | exceeded (message : String)
  | invariant (message : String)
deriving DecidableEq

/-! ## Requests -/

/-- The arguments that the three functions share. -/
structure StorageRequest where
  organizationId : String
  claims : List StorageObjectClaim
  leaseToken : String
  leaseDurationSeconds : Int
  now : Int

/-- `_canonical_text`. -/
def canonicalText (name value : String) (maximum : Nat) : Except QuotaError Unit :=
  require (isLegacyText value maximum) (.conflict (name ++ " is not a canonical non-empty string"))

/-- `_validated_claim`. -/
def validatedClaim (claim : StorageObjectClaim) : Except QuotaError Unit := do
  require (0 < claim.sizeBytes && claim.sizeBytes ≤ tenantStorageByteLimit)
    (.conflict "size_bytes is outside the canonical tenant limit")
  require (isSha256Text claim.sha256)
    (.conflict "sha256 must be exactly 64 lowercase hexadecimal characters")
  canonicalText "project_id" claim.projectId 36
  canonicalText "object_key" claim.objectKey 512
  canonicalText "media_type" claim.mediaType 160
  canonicalText "owner_type" claim.ownerType 40
  canonicalText "owner_id" claim.ownerId 36
  canonicalText "idempotency_key" claim.idempotencyKey 512

/-- The loop of `_normalized_claims`; both dictionaries hold the claims accepted so far. -/
def collectClaims : List StorageObjectClaim → List StorageObjectClaim →
    Except QuotaError (List StorageObjectClaim)
  | accepted, [] => .ok accepted
  | accepted, claim :: claims => do
    validatedClaim claim
    require (accepted.all fun other => other.objectKey != claim.objectKey || other == claim)
      (.conflict "object_key is reused by a different batch identity")
    require (accepted.all fun other => other.idempotencyKey != claim.idempotencyKey || other == claim)
      (.conflict "idempotency_key is reused by a different batch identity")
    collectClaims (if accepted.contains claim then accepted else accepted ++ [claim]) claims

/-- `_normalized_claims`, in the order of the code points of the keys. -/
def normalizedClaims (claims : List StorageObjectClaim) :
    Except QuotaError (List StorageObjectClaim) := do
  let accepted ← collectClaims [] claims
  require (!accepted.isEmpty) (.conflict "a storage reservation batch must not be empty")
  return accepted.insertionSort fun a b => a.objectKey ≤ b.objectKey

/-- The token check of `_validated_lease` and of the commit. -/
def validatedToken (leaseToken : String) : Except QuotaError Unit :=
  require (isUuidText leaseToken) (.conflict "lease_token must be a canonical UUID")

/-- `_validated_lease` of a duration. -/
def validatedLease (request : StorageRequest) : Except QuotaError Int := do
  validatedToken request.leaseToken
  require (0 < request.leaseDurationSeconds && request.leaseDurationSeconds ≤ 10800)
    (.conflict "lease duration is outside the canonical lease window")
  return request.now + request.leaseDurationSeconds * second

/-! ## PostgreSQL -/

/-- One object of `_claims_json`, its keys sorted. -/
def claimJson (claim : StorageObjectClaim) : Json :=
  .obj [("idempotency_key", .str claim.idempotencyKey), ("media_type", .str claim.mediaType),
    ("object_key", .str claim.objectKey), ("owner_id", .str claim.ownerId),
    ("owner_type", .str claim.ownerType), ("project_id", .str claim.projectId),
    ("sha256", .str claim.sha256), ("size_bytes", .num claim.sizeBytes 0)]

def claimsJson (claims : List StorageObjectClaim) : Json := .arr (claims.map claimJson)

/-- The error of the database, as `_raise_postgresql_quota_error` passes it on. -/
def databaseError {α : Type} : Except StorageError α → Except QuotaError α
  | .ok a => .ok a
  | .error _ => .error (.invariant "storage quota database mutation failed")

/-- The call of the database function; its clock is the clock of the request, and `fenceAt`
    its reading at the fences. -/
def StorageRequest.reserveCall (request : StorageRequest) (claims : List StorageObjectClaim)
    (fenceAt : Int) : ReserveCall :=
  ⟨request.organizationId, request.organizationId, claimsJson claims, request.leaseToken,
    request.leaseDurationSeconds, fenceAt, request.now⟩

def StorageRequest.renewCall (request : StorageRequest) (claims : List StorageObjectClaim) :
    RenewCall :=
  ⟨request.organizationId, request.organizationId, claimsJson claims, request.leaseToken,
    request.leaseDurationSeconds, request.now⟩

def StorageRequest.commitCall (request : StorageRequest) (claims : List StorageObjectClaim) :
    CommitCall :=
  ⟨request.organizationId, request.organizationId, claimsJson claims, request.leaseToken,
    request.now⟩

/-- The PostgreSQL branch of `reserve_storage_batch_in_transaction`. -/
def reservePostgresql (cluster : Cluster) (db : Database) (request : StorageRequest)
    (fenceAt : Int) : Except QuotaError (Database × StorageReservation) := do
  canonicalText "organization_id" request.organizationId 36
  let claims ← normalizedClaims request.claims
  let _ ← validatedLease request
  databaseError (reserveBatch cluster db (request.reserveCall claims fenceAt))

/-- The PostgreSQL branch of `renew_storage_batch_lease_in_transaction`. -/
def renewPostgresql (cluster : Cluster) (db : Database) (request : StorageRequest) :
    Except QuotaError Database := do
  canonicalText "organization_id" request.organizationId 36
  let claims ← normalizedClaims request.claims
  let _ ← validatedLease request
  databaseError (renewBatch cluster db (request.renewCall claims))

/-- The PostgreSQL branch of `commit_storage_batch_in_transaction`. -/
def commitPostgresql (cluster : Cluster) (db : Database) (request : StorageRequest) :
    Except QuotaError Database := do
  canonicalText "organization_id" request.organizationId 36
  let claims ← normalizedClaims request.claims
  validatedToken request.leaseToken
  databaseError (commitBatch cluster db (request.commitCall claims))

/-! ## Rows on SQLite -/

/-- The rows of a tenant that share a key with one of the claims, in the order of the keys;
    every claim must find exactly its own row. -/
def lockedClaimRows (rows : List StoredObject) (organizationId : String)
    (claims : List StorageObjectClaim) : Except QuotaError (List StoredObject) := do
  let found := rows.filter fun row => row.organizationId == organizationId &&
    claims.any fun claim => row.objectKey == claim.objectKey ||
      row.idempotencyKey == claim.idempotencyKey
  forEach (fun claim =>
    match found.filter fun row => row.objectKey == claim.objectKey ||
        row.idempotencyKey == claim.idempotencyKey with
    | [row] => require (identityMatches row claim) (.conflict
        "stored object key or idempotency key has a different immutable identity")
    | _ => .error (.conflict
        "stored object key or idempotency key has a different immutable identity")) claims
  return found.insertionSort fun a b => a.objectKey ≤ b.objectKey

/-- The flush: the changed rows replace those with their primary key. -/
def flushRows (changed rows : List StoredObject) : List StoredObject :=
  rows.map fun row => (changed.find? fun other =>
    other.organizationId == row.organizationId && other.objectKey == row.objectKey).getD row

/-- `_insert_stored_object`: `INSERT … ON CONFLICT DO NOTHING`, and whether it inserted. -/
def conflicts (rows : List StoredObject) (organizationId : String) (claim : StorageObjectClaim) :
    Bool :=
  rows.any fun row => row.objectKey == claim.objectKey ||
    (row.organizationId == organizationId && row.idempotencyKey == claim.idempotencyKey)

/-- The inserts of a batch: the rows, and the claims that were inserted. -/
def insertObjects (request : StorageRequest) (expiry : Int) :
    List StoredObject × List StorageObjectClaim → List StorageObjectClaim →
      List StoredObject × List StorageObjectClaim
  | progress, [] => progress
  | (rows, inserted), claim :: claims =>
    if conflicts rows request.organizationId claim then
      insertObjects request expiry (rows, inserted) claims
    else
      let row := reservedRow request.organizationId claim request.leaseToken expiry request.now
      insertObjects request expiry (rows ++ [row], inserted ++ [claim]) claims

/-! ## Reserve -/

/-- `_validated_generation_retry_after`. -/
def validatedRetryAfter (seconds : Int) : Except QuotaError Int := do
  require (0 ≤ seconds && seconds ≤ 3605)
    (.invariant "generation retry preflight returned a non-canonical delay")
  return seconds

/-- The lease of a row that was there before the batch. -/
def leaseExisting (request : StorageRequest) (expiry : Int) (row : StoredObject) :
    Except QuotaError StoredObject :=
  match row.state with
  | .committed => .ok row
  | .reaping => do
    require (row.claimExpiresAt.isSome && row.claimToken.any fun token =>
        isUuidText token && (counterKindFromToken token).isSome)
      (.conflict "stored object has an invalid storage reaper claim")
    let retryAfter ← validatedRetryAfter
      (reaperRetryDelay (row.claimExpiresAt.getD request.now) request.now)
    .error (.busy "stored object is fenced by a storage reaper claim" retryAfter)
  | .deletePending => .error (.conflict "stored object is being deleted or reaped")
  | .reserved =>
    match row.leaseExpiresAt with
    | none => .error (.conflict "stored object is being deleted or reaped")
    | some stored =>
      if stored ≤ request.now then .ok (takenOverRow request.leaseToken expiry request.now row)
      else if row.leaseToken ≠ some request.leaseToken then
        .error (.busy "stored object has an active different lease"
          (max 1 (-((request.now - stored) / second) + 5)))
      else if stored < expiry then .ok (extendedRow expiry request.now row)
      else .ok row

/-- The key is one of those that the batch inserted. -/
def isInserted (inserted : List StorageObjectClaim) (objectKey : String) : Bool :=
  inserted.any fun claim => claim.objectKey == objectKey

/-- The row a claim of the loop works on, with its new lease. -/
def leaseClaim (request : StorageRequest) (expiry : Int) (inserted : List StorageObjectClaim)
    (rows : List StoredObject) (claim : StorageObjectClaim) : Except QuotaError StoredObject := do
  let row ← demand (rows.find? fun row => row.objectKey == claim.objectKey)
    (.invariant "stored object disappeared")
  if isInserted inserted claim.objectKey then return row
  leaseExisting request expiry row

/-- `_insert_tenant_quota_if_missing`. -/
def withTenantQuota (db : Database) (organizationId : String) : Database :=
  if (db.tenantQuota organizationId).isSome then db
  else
    let quota : TenantQuota :=
      ⟨organizationId, tenantStorageByteLimit, tenantStorageObjectLimit, 0, 0, 0, 0⟩
    { db with tenantQuotas := db.tenantQuotas ++ [quota] }

/-- `_reserve_counters`. -/
def reserveCounters (db : Database) (quota : GlobalQuota) (organizationId : String)
    (bytes count : Int) : Except QuotaError Database :=
  if count = 0 then .ok db
  else do
    require (quota.reservedBytes ≤ quota.byteLimit - quota.committedBytes - bytes &&
        quota.reservedCount ≤ quota.objectLimit - quota.committedCount - count)
      (.exceeded "global storage quota is missing or exceeded")
    let tenant ← demand (db.tenantQuota organizationId)
      (.exceeded "tenant storage quota is missing or exceeded")
    require (tenant.reservedBytes ≤ tenant.byteLimit - tenant.committedBytes - bytes &&
        tenant.reservedCount ≤ tenant.objectLimit - tenant.committedCount - count)
      (.exceeded "tenant storage quota is missing or exceeded")
    return db.addReserved quota organizationId bytes count

/-- The rows of a batch: inserted, locked, leased and flushed; with the leased rows in the
    order of the claims and the claims that were inserted. -/
def leaseRows (rows : List StoredObject) (request : StorageRequest) (expiry : Int)
    (claims : List StorageObjectClaim) :
    Except QuotaError (List StoredObject × List StoredObject × List StorageObjectClaim) := do
  let (rows, inserted) := insertObjects request expiry (rows, []) claims
  let locked ← lockedClaimRows rows request.organizationId claims
  let leased ← collect (leaseClaim request expiry inserted locked) claims
  return (flushRows leased rows, leased, inserted)

/-- What the reservation says of a leased row. -/
def objectReservation (inserted : List StorageObjectClaim) (row : StoredObject) :
    StorageObjectReservation :=
  ⟨row.objectKey, row.state, row.leaseToken, isInserted inserted row.objectKey⟩

/-- The SQLite branch of `reserve_storage_batch_in_transaction`. -/
def reserveSqlite (db : Database) (request : StorageRequest) :
    Except QuotaError (Database × StorageReservation) := do
  canonicalText "organization_id" request.organizationId 36
  let claims ← normalizedClaims request.claims
  let expiry ← validatedLease request
  let quota ← demand db.globalQuota (.invariant "global storage quota is missing")
  require quota.maintenanceToken.isNone
    (.invariant "storage maintenance is active; new reservations are fenced")
  require (!claims.any (isRetired db.tombstones quota.capacityBucket))
    (.conflict "stored object key or idempotency key is permanently retired")
  let db := withTenantQuota db request.organizationId
  let (rows, leased, inserted) ← leaseRows db.storedObjects request expiry claims
  let bytes := (inserted.map StorageObjectClaim.sizeBytes).sum
  let count : Int := inserted.length
  let db ← reserveCounters (db.withRows rows) quota request.organizationId bytes count
  return (db, ⟨leased.map (objectReservation inserted), bytes, count⟩)

/-! ## Renew and commit -/

/-- The renewal of one locked row. -/
def renewRow (request : StorageRequest) (expiry : Int) (row : StoredObject) :
    Except QuotaError StoredObject := do
  require (holdsLease row request.leaseToken request.now)
    (.conflict "storage reservation lease ownership was lost")
  if row.leaseExpiresAt.any fun stored => stored < expiry then
    return extendedRow expiry request.now row
  return row

/-- The locked rows of a renewal, renewed and flushed. -/
def renewRows (rows : List StoredObject) (request : StorageRequest) (expiry : Int)
    (claims : List StorageObjectClaim) : Except QuotaError (List StoredObject) := do
  let locked ← lockedClaimRows rows request.organizationId claims
  let renewed ← collect (renewRow request expiry) locked
  return flushRows renewed rows

/-- The SQLite branch of `renew_storage_batch_lease_in_transaction`. -/
def renewSqlite (db : Database) (request : StorageRequest) : Except QuotaError Database := do
  canonicalText "organization_id" request.organizationId 36
  let claims ← normalizedClaims request.claims
  let expiry ← validatedLease request
  let rows ← renewRows db.storedObjects request expiry claims
  return db.withRows rows

/-- The row of a claim that is still to be committed. -/
def reservedClaimRow (request : StorageRequest) (rows : List StoredObject)
    (claim : StorageObjectClaim) : Except QuotaError (Option StoredObject) := do
  let row ← demand (rows.find? fun row => row.objectKey == claim.objectKey)
    (.invariant "stored object disappeared")
  if row.state = .committed then return none
  require (holdsLease row request.leaseToken request.now)
    (.conflict "reserved object is owned by a different lease")
  return some row

/-- The rows of a commit that are still to be committed, in the order of the claims. -/
def reservedRows (rows : List StoredObject) (request : StorageRequest)
    (claims : List StorageObjectClaim) : Except QuotaError (List StoredObject) := do
  let locked ← lockedClaimRows rows request.organizationId claims
  let found ← collect (reservedClaimRow request locked) claims
  return found.filterMap id

/-- `_commit_counters`. -/
def commitCounters (db : Database) (organizationId : String) (bytes count : Int) :
    Except QuotaError Database :=
  if count = 0 then .ok db
  else do
    let quota ← demand db.globalQuota (.invariant "global reserved counters cannot be committed")
    require (bytes ≤ quota.reservedBytes && count ≤ quota.reservedCount)
      (.invariant "global reserved counters cannot be committed")
    let tenant ← demand (db.tenantQuota organizationId)
      (.invariant "tenant reserved counters cannot be committed")
    require (bytes ≤ tenant.reservedBytes && count ≤ tenant.reservedCount)
      (.invariant "tenant reserved counters cannot be committed")
    let charged := db.updateTenantQuota organizationId fun tenant =>
      (tenant.addReserved (-bytes) (-count)).addCommitted bytes count
    return { charged with
      globalQuota := some ((quota.addReserved (-bytes) (-count)).addCommitted bytes count) }

/-- The rows and the counters of a commit, moved and flushed. -/
def commitReserved (db : Database) (request : StorageRequest) (claims : List StorageObjectClaim) :
    Except QuotaError Database := do
  let reserved ← reservedRows db.storedObjects request claims
  let db ← commitCounters db request.organizationId (reserved.map StoredObject.sizeBytes).sum
    reserved.length
  return db.withRows (flushRows (reserved.map (committedRow request.now)) db.storedObjects)

/-- The SQLite branch of `commit_storage_batch_in_transaction`. -/
def commitSqlite (db : Database) (request : StorageRequest) : Except QuotaError Database := do
  canonicalText "organization_id" request.organizationId 36
  let claims ← normalizedClaims request.claims
  validatedToken request.leaseToken
  commitReserved db request claims

/-! ## Finalize -/

/-- The finalizing transaction of the SQLite branch of `reap_storage_claim`; the bucket is the
    one the reaper was given. -/
def finalizeSqlite (db : Database) (claim : StorageReapClaim) (bucket : String) (now : Int) :
    Except QuotaError Database := do
  let row ← demand (db.storedObject claim.organizationId claim.objectKey)
    (.conflict "ownership_lost")
  require (ownsReapClaim row claim.sha256 claim.sizeBytes claim.claimToken now)
    (.conflict "ownership_lost")
  require (!db.isReferenced claim.organizationId claim.objectKey && !db.hasLiveOwner row now)
    (.conflict "domain_reference")
  require (!db.tombstones.any fun tombstone => tombstone.capacityBucket == bucket &&
      (tombstone.objectKey == row.objectKey || tombstone.idempotencyKey == row.idempotencyKey))
    (.invariant "storage key or idempotency identity was already retired")
  let call : FinalizeReapCall := ⟨claim.organizationId, claim.organizationId, claim.objectKey,
    claim.sha256, claim.sizeBytes, claim.claimToken, bucket, now⟩
  let retired := { db with tombstones := db.tombstones ++ [tombstoneOf row claim.counterKind call] }
  let quota ← demand db.globalQuota (.invariant "global counters would underflow")
  let tenant ← demand (db.tenantQuota claim.organizationId)
    (.invariant "tenant counters would underflow")
  let released ← databaseError
    (releaseCounters retired quota tenant claim.counterKind claim.organizationId claim.sizeBytes)
  return released.withRows (db.storedObjects.filter fun other =>
    !(other.organizationId == claim.organizationId && other.objectKey == claim.objectKey &&
      other.state = .reaping && other.claimToken == some claim.claimToken))

end Custombuild.Storage
