/-
  The database functions of the storage ledger.  Each is one transaction: it returns the
  database after its commit, or raises, in which case nothing is written.
  Source: `alembic/versions/0013_storage_quota_security_functions.py`.

  The row locks are not modelled, since each call is atomic; `FOR UPDATE … SKIP LOCKED` is
  the argument `skipped`, the keys that other transactions hold.  A NULL argument is refused
  by the first check that names it and is left out.  The JSON results are the records the
  callers read from them.
-/
import Mathlib.Data.List.Sort
import Custombuild.Lib.Sql
import Custombuild.Storage.Model

namespace Custombuild.Storage

open Custombuild.Lib Custombuild.Lib.Sql

def second : Int := 1000000

def minute : Int := 60 * second

/-! ## Claims -/

/-- `StorageObjectClaim`. -/
structure StorageObjectClaim where
  projectId : String
  objectKey : String
  sha256 : String
  sizeBytes : Int
  mediaType : String
  ownerType : String
  ownerId : String
  idempotencyKey : String
deriving DecidableEq

def claimFields : List String :=
  ["project_id", "object_key", "sha256", "size_bytes", "media_type", "owner_type", "owner_id",
    "idempotency_key"]

def demandText (claim : Json) (name : String) : Except StorageError String :=
  match claim.get name with
  | some (.str text) => .ok text
  | _ => .error (claimInvalid "claim value types do not match the canonical schema")

/-- The number of a claim; its text matches `^[1-9][0-9]{0,18}$` exactly when it is an
    integer without a fraction, positive and of at most nineteen digits. -/
def demandSize (claim : Json) : Except StorageError Int :=
  match claim.get "size_bytes" with
  | some (.num coefficient scale) =>
    if scale = 0 ∧ 1 ≤ coefficient ∧ coefficient < 10 ^ 19 then .ok coefficient
    else .error (claimInvalid "size_bytes must be a positive canonical integer")
  | _ => .error (claimInvalid "claim value types do not match the canonical schema")

/-- The checks of one claim of `_custombuild_storage_assert_claims`. -/
def assertClaim (cluster : Cluster) (claim : Json) : Except StorageError StorageObjectClaim := do
  require (claim.typeName == "object") (claimInvalid "every claim must be an object")
  require (claim.keys.length == 8 && claim.keys.all claimFields.contains)
    (claimInvalid "claim keys do not match the canonical schema")
  let projectId ← demandText claim "project_id"
  let objectKey ← demandText claim "object_key"
  let sha256 ← demandText claim "sha256"
  let sizeBytes ← demandSize claim
  let mediaType ← demandText claim "media_type"
  let ownerType ← demandText claim "owner_type"
  let ownerId ← demandText claim "owner_id"
  let idempotencyKey ← demandText claim "idempotency_key"
  assertUuid "project_id" projectId
  assertUuid "owner_id" ownerId
  assertText cluster "object_key" objectKey 512
  assertText cluster "media_type" mediaType 160
  assertText cluster "owner_type" ownerType 40
  assertText cluster "idempotency_key" idempotencyKey 512
  require (isSha256Text sha256) (claimInvalid "sha256 must be canonical lowercase hexadecimal")
  require (sizeBytes ≤ tenantStorageByteLimit)
    (claimInvalid "size_bytes exceeds the canonical tenant byte limit")
  return ⟨projectId, objectKey, sha256, sizeBytes, mediaType, ownerType, ownerId, idempotencyKey⟩

/-- No claim repeats a key or an idempotency key of an earlier one. -/
def assertDistinct : List StorageObjectClaim → Except StorageError Unit
  | [] => .ok ()
  | claim :: claims => do
    require (!claims.any fun other => other.objectKey == claim.objectKey ||
        other.idempotencyKey == claim.idempotencyKey)
      (claimInvalid "duplicate batch key")
    assertDistinct claims

/-- `_custombuild_storage_assert_claims`. -/
def assertClaims (cluster : Cluster) (claims : Json) :
    Except StorageError (List StorageObjectClaim) :=
  match claims with
  | .arr items => do
    require (1 ≤ items.length && items.length ≤ 256)
      (claimInvalid "claims must be a non-empty array of at most 256 objects")
    let parsed ← collect (assertClaim cluster) items
    assertDistinct parsed
    return parsed
  | _ => .error (claimInvalid "claims must be a non-empty array of at most 256 objects")

/-- `ORDER BY item.value ->> 'object_key'`. -/
def orderedClaims (cluster : Cluster) (claims : List StorageObjectClaim) :
    List StorageObjectClaim :=
  claims.insertionSort fun a b => cluster.collates a.objectKey b.objectKey = true

/-- `_custombuild_storage_identity_matches`. -/
def identityMatches (row : StoredObject) (claim : StorageObjectClaim) : Bool :=
  row.projectId == claim.projectId && row.objectKey == claim.objectKey &&
    row.sha256 == claim.sha256 && row.sizeBytes == claim.sizeBytes &&
    row.mediaType == claim.mediaType && row.ownerType == claim.ownerType &&
    row.ownerId == claim.ownerId && row.idempotencyKey == claim.idempotencyKey

/-- The rows of a tenant that share the key or the idempotency key of a claim. -/
def matchingRows (rows : List StoredObject) (organizationId : String)
    (claim : StorageObjectClaim) : List StoredObject :=
  rows.filter fun row => row.organizationId == organizationId &&
    (row.objectKey == claim.objectKey || row.idempotencyKey == claim.idempotencyKey)

/-! ## Reserve -/

structure ReserveCall where
  tenantContext : String
  organizationId : String
  claims : Json
  leaseToken : String
  leaseDurationSeconds : Int
  /-- The clock after the global row is locked. -/
  fenceAt : Int
  /-- The clock after the tenant row is locked. -/
  now : Int

structure StorageObjectReservation where
  objectKey : String
  state : StoredObjectState
  leaseToken : Option String
  newlyReserved : Bool
deriving DecidableEq

structure StorageReservation where
  objects : List StorageObjectReservation
  newlyReservedBytes : Int
  newlyReservedCount : Int

def assertLeaseDuration (seconds : Int) : Except StorageError Unit :=
  require (1 ≤ seconds && seconds ≤ 10800)
    (claimInvalid "lease duration is outside 1..10800 seconds")

def GlobalQuota.isRecovered (quota : GlobalQuota) (startedAt : Int) : Bool :=
  quota.recoveryCompletedAt.isSome && quota.recoveryDatabaseStartedAt == some startedAt

/-- The condition under which the capacity evidence is refused at a reservation. -/
def capacityUnverified (quota : GlobalQuota) (now : Int) : Option Bool :=
  let notSha256 : Option String → Option Bool := fun text => text.map fun text => !isSha256Text text
  orAll [
    some !quota.capacityVerified,
    isNull quota.provisionedBytes,
    isNull quota.metadataOverheadBytes,
    isNull quota.emergencyReserveBytes,
    isNull quota.capacityHeadroomBytes,
    strict (fun a b => decide (a ≤ b)) quota.provisionedBytes quota.capacityHeadroomBytes,
    ne quota.capacityHeadroomBytes (quota.metadataOverheadBytes.bind fun metadata =>
      quota.emergencyReserveBytes.map fun emergency => metadata + emergency),
    strict (fun a b => decide (a > b)) (some quota.byteLimit)
      (quota.provisionedBytes.bind fun provisioned =>
        quota.capacityHeadroomBytes.map fun headroom => provisioned - headroom),
    isNull quota.capacityVerifiedAt,
    isNull quota.capacityAttestedAt,
    quota.capacityVerifiedAt.map fun time => decide (time < now - 10 * minute),
    quota.capacityVerifiedAt.map fun time => decide (time > now + minute),
    quota.capacityAttestedAt.map fun time => decide (time < now - 10 * minute),
    strict (fun a b => decide (a > b)) quota.capacityAttestedAt quota.capacityVerifiedAt,
    isNull quota.volumeIdentity,
    quota.volumeIdentity.map fun text => text == "",
    isNull quota.capacityBucket,
    quota.capacityBucket.map fun text => text == "",
    isNull quota.capacityOperatorConfigSha256,
    notSha256 quota.capacityOperatorConfigSha256,
    isNull quota.deployDescriptorSha256,
    notSha256 quota.deployDescriptorSha256,
    isNull quota.inventorySha256,
    notSha256 quota.inventorySha256,
    isNull quota.capacityEvidenceSha256,
    notSha256 quota.capacityEvidenceSha256,
    isNull quota.inventoryObjectCount,
    isNull quota.inventoryBytes,
    isNull quota.ledgerObjectCount,
    isNull quota.ledgerBytes,
    ne quota.inventoryObjectCount quota.ledgerObjectCount,
    ne quota.inventoryBytes quota.ledgerBytes]

/-- The maintenance, recovery and capacity fences in front of every reservation. -/
def reserveFences (quota : GlobalQuota) (startedAt fenceAt : Int) : Except StorageError Unit := do
  require quota.maintenanceToken.isNone
    (.raised "55000" "STORAGE_MAINTENANCE_ACTIVE: new reservations are fenced")
  require (quota.isRecovered startedAt)
    (.raised "55000" "STORAGE_RECOVERY_REQUIRED: this database boot is not recovered")
  refuse (capacityUnverified quota fenceAt)
    (.raised "55000" "STORAGE_CAPACITY_UNVERIFIED: fresh exact capacity evidence is required")

/-- A retired key or idempotency identity of the current bucket. -/
def isRetired (tombstones : List Tombstone) (bucket : Option String)
    (claim : StorageObjectClaim) : Bool :=
  tombstones.any fun tombstone => some tombstone.capacityBucket == bucket &&
    (tombstone.objectKey == claim.objectKey || tombstone.idempotencyKey == claim.idempotencyKey)

def reservedRow (organizationId : String) (claim : StorageObjectClaim) (leaseToken : String)
    (expiry now : Int) : StoredObject where
  organizationId := organizationId
  objectKey := claim.objectKey
  projectId := claim.projectId
  sha256 := claim.sha256
  sizeBytes := claim.sizeBytes
  mediaType := claim.mediaType
  ownerType := claim.ownerType
  ownerId := claim.ownerId
  idempotencyKey := claim.idempotencyKey
  state := .reserved
  leaseToken := some leaseToken
  leaseExpiresAt := some expiry
  claimToken := none
  claimExpiresAt := none
  updatedAt := now

/-- An expired lease passes to the caller. -/
def takenOverRow (leaseToken : String) (expiry now : Int) (row : StoredObject) : StoredObject :=
  { row with leaseToken := some leaseToken, leaseExpiresAt := some expiry, updatedAt := now }

/-- `lease_expires_at = GREATEST(lease_expires_at, v_expiry)`. -/
def extendedRow (expiry now : Int) (row : StoredObject) : StoredObject :=
  { row with
    leaseExpiresAt := some (row.leaseExpiresAt.elim expiry (max · expiry))
    updatedAt := now }

/-- The delay a writer is told to wait for a reaper claim: up to the claim's expiry, rounded
    up to seconds, and five seconds. -/
def reaperRetryDelay (claimExpiresAt now : Int) : Int :=
  if now < claimExpiresAt then -((now - claimExpiresAt) / second) + 5 else 5

/-- Every reservation of a reaping row fails; the error says when to come back. -/
def reapingError (row : StoredObject) (now : Int) : StorageError :=
  let valid := row.claimToken.any fun token =>
    isUuidText token && (counterKindFromToken token).isSome
  match row.claimExpiresAt with
  | some expiry =>
    let delay := reaperRetryDelay expiry now
    if !valid then claimConflict "reaping object has an invalid claim"
    else if delay < 1 ∨ 3605 < delay then
      claimConflict "reaper retry delay is outside the canonical window"
    else .raised "55000" ("STORAGE_GENERATION_RETRY_BUSY:" ++ toString delay)
  | none => claimConflict "reaping object has an invalid claim"

/-- The rows, the deltas and the results of the claims handled so far. -/
structure ReserveProgress where
  rows : List StoredObject
  byteDelta : Int
  countDelta : Int
  objects : List StorageObjectReservation

/-- A claim on a row that exists already. -/
def reserveExisting (call : ReserveCall) (expiry : Int) (progress : ReserveProgress)
    (row : StoredObject) : Except StorageError ReserveProgress :=
  let held : StorageObjectReservation :=
    ⟨row.objectKey, .reserved, some call.leaseToken, false⟩
  match row.state with
  | .committed =>
    .ok { progress with objects := progress.objects ++ [⟨row.objectKey, .committed, none, false⟩] }
  | .reaping => .error (reapingError row call.now)
  | .deletePending => .error (claimConflict "object is being deleted or reaped")
  | .reserved =>
    match row.leaseExpiresAt with
    | none => .error (claimConflict "object is being deleted or reaped")
    | some stored =>
      if stored ≤ call.now then
        let takeOver := takenOverRow call.leaseToken expiry call.now
        .ok { progress with
          rows := updateObject call.organizationId row.objectKey takeOver progress.rows
          objects := progress.objects ++ [held] }
      else if row.leaseToken ≠ some call.leaseToken then
        .error (.raised "23505" "STORAGE_RESERVATION_BUSY: object has a different active lease")
      else
        let extend := extendedRow expiry call.now
        .ok { progress with
          rows := updateObject call.organizationId row.objectKey extend progress.rows
          objects := progress.objects ++ [held] }

/-- One claim of the loop of `custombuild_storage_reserve_batch`. -/
def reserveClaim (db : Database) (bucket : Option String) (call : ReserveCall) (expiry : Int)
    (progress : ReserveProgress) (claim : StorageObjectClaim) :
    Except StorageError ReserveProgress := do
  require (!isRetired db.tombstones bucket claim)
    (claimConflict "physical storage key or idempotency identity is permanently retired")
  match matchingRows progress.rows call.organizationId claim with
  | [] =>
    let row := reservedRow call.organizationId claim call.leaseToken expiry call.now
    let rows ← insertStoredObject db progress.rows row
    return {
      rows := rows
      byteDelta := progress.byteDelta + claim.sizeBytes
      countDelta := progress.countDelta + 1
      objects := progress.objects ++ [⟨claim.objectKey, .reserved, some call.leaseToken, true⟩] }
  | [row] =>
    require (identityMatches row claim) (claimConflict "immutable storage identity differs")
    reserveExisting call expiry progress row
  | _ => .error (claimConflict "object and idempotency keys resolve to different identities")

def reserveClaims (db : Database) (bucket : Option String) (call : ReserveCall) (expiry : Int) :
    ReserveProgress → List StorageObjectClaim → Except StorageError ReserveProgress
  | progress, [] => .ok progress
  | progress, claim :: claims => do
    let progress ← reserveClaim db bucket call expiry progress claim
    reserveClaims db bucket call expiry progress claims

/-- The whole batch fits the global and the tenant quota. -/
def batchFits (quota : GlobalQuota) (tenant : TenantQuota) (byteDelta countDelta : Int) : Bool :=
  quota.reservedBytes + quota.committedBytes + byteDelta ≤ quota.byteLimit &&
    quota.reservedCount + quota.committedCount + countDelta ≤ quota.objectLimit &&
    tenant.reservedBytes + tenant.committedBytes + byteDelta ≤ tenant.byteLimit &&
    tenant.reservedCount + tenant.committedCount + countDelta ≤ tenant.objectLimit

def GlobalQuota.addReserved (quota : GlobalQuota) (bytes count : Int) : GlobalQuota :=
  { quota with
    reservedBytes := quota.reservedBytes + bytes
    reservedCount := quota.reservedCount + count }

def GlobalQuota.addCommitted (quota : GlobalQuota) (bytes count : Int) : GlobalQuota :=
  { quota with
    committedBytes := quota.committedBytes + bytes
    committedCount := quota.committedCount + count }

def TenantQuota.addReserved (quota : TenantQuota) (bytes count : Int) : TenantQuota :=
  { quota with
    reservedBytes := quota.reservedBytes + bytes
    reservedCount := quota.reservedCount + count }

def TenantQuota.addCommitted (quota : TenantQuota) (bytes count : Int) : TenantQuota :=
  { quota with
    committedBytes := quota.committedBytes + bytes
    committedCount := quota.committedCount + count }

/-- `UPDATE` of the reserved counters on both levels. -/
def Database.addReserved (db : Database) (quota : GlobalQuota) (organizationId : String)
    (bytes count : Int) : Database :=
  { db.updateTenantQuota organizationId (fun tenant => tenant.addReserved bytes count) with
    globalQuota := some (quota.addReserved bytes count) }

/-- `UPDATE` of the committed counters on both levels. -/
def Database.addCommitted (db : Database) (quota : GlobalQuota) (organizationId : String)
    (bytes count : Int) : Database :=
  { db.updateTenantQuota organizationId (fun tenant => tenant.addCommitted bytes count) with
    globalQuota := some (quota.addCommitted bytes count) }

def globalQuotaMissing : StorageError := quotaInvariant "global quota is missing"

def tenantQuotaMissing : StorageError := quotaInvariant "tenant quota is missing"

/-- `custombuild_storage_reserve_batch`. -/
def reserveBatch (cluster : Cluster) (db : Database) (call : ReserveCall) :
    Except StorageError (Database × StorageReservation) := do
  requireTenant call.tenantContext call.organizationId
  assertUuid "lease_token" call.leaseToken
  let claims ← assertClaims cluster call.claims
  assertLeaseDuration call.leaseDurationSeconds
  let quota ← demand db.globalQuota globalQuotaMissing
  reserveFences quota db.startedAt call.fenceAt
  let db ← insertTenantQuotaIfMissing db call.organizationId
  let tenant ← demand (db.tenantQuota call.organizationId) tenantQuotaMissing
  let expiry := call.now + call.leaseDurationSeconds * second
  let progress ← reserveClaims db quota.capacityBucket call expiry ⟨db.storedObjects, 0, 0, []⟩
    (orderedClaims cluster claims)
  require (batchFits quota tenant progress.byteDelta progress.countDelta)
    (.raised "53100" "STORAGE_QUOTA_EXCEEDED: whole batch does not fit")
  let db := { db with storedObjects := progress.rows }
  let db := if 0 < progress.countDelta then
      db.addReserved quota call.organizationId progress.byteDelta progress.countDelta
    else db
  return (db, ⟨progress.objects, progress.byteDelta, progress.countDelta⟩)

/-! ## Renew -/

structure RenewCall where
  tenantContext : String
  organizationId : String
  claims : Json
  leaseToken : String
  leaseDurationSeconds : Int
  now : Int

/-- The row is reserved under the given token and its lease has not expired. -/
def holdsLease (row : StoredObject) (leaseToken : String) (now : Int) : Bool :=
  row.state = .reserved && row.leaseToken == some leaseToken &&
    row.leaseExpiresAt.any fun expiry => now < expiry

/-- One claim of the loop of `custombuild_storage_renew_batch`. -/
def renewClaim (call : RenewCall) (expiry : Int) (rows : List StoredObject)
    (claim : StorageObjectClaim) : Except StorageError (List StoredObject) :=
  match matchingRows rows call.organizationId claim with
  | [row] => do
    require (identityMatches row claim && holdsLease row call.leaseToken call.now)
      (claimConflict "reservation lease ownership was lost")
    return updateObject call.organizationId row.objectKey (extendedRow expiry call.now) rows
  | _ => .error (claimConflict "lease identity is missing or ambiguous")

def renewClaims (call : RenewCall) (expiry : Int) :
    List StoredObject → List StorageObjectClaim → Except StorageError (List StoredObject)
  | rows, [] => .ok rows
  | rows, claim :: claims => do
    let rows ← renewClaim call expiry rows claim
    renewClaims call expiry rows claims

/-- `custombuild_storage_renew_batch`. -/
def renewBatch (cluster : Cluster) (db : Database) (call : RenewCall) :
    Except StorageError Database := do
  requireTenant call.tenantContext call.organizationId
  assertUuid "lease_token" call.leaseToken
  let claims ← assertClaims cluster call.claims
  assertLeaseDuration call.leaseDurationSeconds
  let expiry := call.now + call.leaseDurationSeconds * second
  let rows ← renewClaims call expiry db.storedObjects (orderedClaims cluster claims)
  return { db with storedObjects := rows }

/-! ## Commit -/

structure CommitCall where
  tenantContext : String
  organizationId : String
  claims : Json
  leaseToken : String
  now : Int

/-- The row a claim of a commit names, when it is still to be committed. -/
def commitClaim (call : CommitCall) (rows : List StoredObject) (claim : StorageObjectClaim) :
    Except StorageError (Option StoredObject) :=
  match matchingRows rows call.organizationId claim with
  | [row] => do
    require (identityMatches row claim) (claimConflict "immutable storage identity differs")
    if row.state = .committed then
      return none
    require (holdsLease row call.leaseToken call.now)
      (claimConflict "reserved object is owned by another lease")
    return some row
  | _ => .error (claimConflict "commit identity is missing or ambiguous")

/-- The byte and the count delta of a commit. -/
def commitDeltas (call : CommitCall) (rows : List StoredObject) :
    Int × Int → List StorageObjectClaim → Except StorageError (Int × Int)
  | deltas, [] => .ok deltas
  | deltas, claim :: claims => do
    match ← commitClaim call rows claim with
    | none => commitDeltas call rows deltas claims
    | some row => commitDeltas call rows (deltas.1 + row.sizeBytes, deltas.2 + 1) claims

def committedRow (now : Int) (row : StoredObject) : StoredObject :=
  { row with state := .committed, leaseToken := none, leaseExpiresAt := none, updatedAt := now }

/-- The final `UPDATE` of one claim. -/
def commitRow (call : CommitCall) (rows : List StoredObject) (claim : StorageObjectClaim) :
    List StoredObject :=
  let isClaimed : StoredObject → Bool := fun row =>
    row.organizationId == call.organizationId && row.objectKey == claim.objectKey &&
      row.state = .reserved && row.leaseToken == some call.leaseToken
  Table.modify isClaimed (committedRow call.now) rows

/-- The reserved counters cover what is taken from them. -/
def reservedCovers (quota : GlobalQuota) (tenant : TenantQuota) (bytes count : Int) : Bool :=
  bytes ≤ quota.reservedBytes && count ≤ quota.reservedCount &&
    bytes ≤ tenant.reservedBytes && count ≤ tenant.reservedCount

def committedCovers (quota : GlobalQuota) (tenant : TenantQuota) (bytes count : Int) : Bool :=
  bytes ≤ quota.committedBytes && count ≤ quota.committedCount &&
    bytes ≤ tenant.committedBytes && count ≤ tenant.committedCount

def reservedUnderflow : StorageError := quotaInvariant "reserved counters would underflow"

def committedUnderflow : StorageError := quotaInvariant "committed counters would underflow"

/-- `custombuild_storage_commit_batch`. -/
def commitBatch (cluster : Cluster) (db : Database) (call : CommitCall) :
    Except StorageError Database := do
  requireTenant call.tenantContext call.organizationId
  assertUuid "lease_token" call.leaseToken
  let claims ← assertClaims cluster call.claims
  let quota ← demand db.globalQuota globalQuotaMissing
  let tenant ← demand (db.tenantQuota call.organizationId) tenantQuotaMissing
  let (bytes, count) ← commitDeltas call db.storedObjects (0, 0) (orderedClaims cluster claims)
  require (reservedCovers quota tenant bytes count) reservedUnderflow
  if 0 < count then
    let db := { db with
      storedObjects := (orderedClaims cluster claims).foldl (commitRow call) db.storedObjects }
    let quota := (quota.addReserved (-bytes) (-count)).addCommitted bytes count
    let db := db.updateTenantQuota call.organizationId fun tenant =>
      (tenant.addReserved (-bytes) (-count)).addCommitted bytes count
    return { db with globalQuota := some quota }
  else return db

end Custombuild.Storage
