/-
  The recovery store: the maintenance gate that a one-shot recovery process opens and closes
  around the reaping of staging objects.  Each method is one transaction under the lock of
  the global quota row.
  Source: `scripts/storage_recovery.py`.

  Not modelled: `terminalize_expired_staging_jobs`, whose job updates are the job writes of
  `Storage.Statement`, and the reads `assert_bucket` and `organization_ids`.
-/
import Custombuild.Storage.Reaping

namespace Custombuild.Storage

open Custombuild.Lib

def maintenanceLeaseSeconds : Int := 300

/-! ## Buckets -/

def isBucketEdge (c : Char) : Bool := c.isDigit || ('a' ≤ c && c ≤ 'z')

/-- The pattern `[a-z0-9][a-z0-9.-]{1,61}[a-z0-9]`. -/
def isBucketName (bucket : String) : Bool :=
  let chars := charsOf bucket
  3 ≤ chars.length && chars.length ≤ 63 && chars.head?.any isBucketEdge &&
    chars.getLast?.any isBucketEdge && chars.all fun c => isBucketEdge c || c == '.' || c == '-'

def isIpv4Octet (text : List Char) : Bool :=
  1 ≤ text.length && text.length ≤ 3 && text.all Char.isDigit &&
    (text.length == 1 || text.head? != some '0') &&
    text.foldl (fun n c => 10 * n + (c.toNat - 48)) 0 ≤ 255

/-- The text up to each point, and the rest. -/
def splitPoints : List Char → List (List Char)
  | [] => [[]]
  | c :: cs =>
    match splitPoints cs with
    | [] => [[c]]
    | part :: parts => if c = '.' then [] :: part :: parts else (c :: part) :: parts

def isIpv4Literal (text : String) : Bool :=
  let parts := splitPoints text.toList
  parts.length == 4 && parts.all isIpv4Octet

/-- Two points in a row. -/
def hasDoublePoint : List Char → Bool
  | '.' :: '.' :: _ => true
  | _ :: rest => hasDoublePoint rest
  | [] => false

/-- `_canonical_bucket`. -/
def canonicalBucket (bucket : String) : Except StorageError String := do
  require (isBucketName bucket && !hasDoublePoint bucket.toList && !isIpv4Literal bucket)
    (.recovery "production object-storage bucket must be a canonical S3 DNS name")
  return bucket

/-! ## The gate -/

def quotaSingletonMissing : StorageError := .recovery "global storage quota singleton is missing"

/-- `_locked_gate`. -/
def lockedGate (db : Database) (token : String) (epoch databaseNow : Int) :
    Except StorageError GlobalQuota := do
  let quota ← demand db.globalQuota quotaSingletonMissing
  require (quota.maintenanceToken == some token && quota.maintenanceEpoch == epoch)
    (.recovery "storage recovery maintenance ownership was lost")
  let databaseStartedAt ← demand quota.maintenanceDatabaseStartedAt
    (.recovery "database returned invalid maintenance database start time")
  require (databaseStartedAt == db.startedAt)
    (.recovery "storage recovery maintenance boot ownership was lost")
  let ownerExpiry ← demand quota.maintenanceOwnerExpiresAt
    (.recovery "database returned invalid maintenance owner expiry")
  require (databaseNow < ownerExpiry)
    (.recovery "storage recovery maintenance ownership expired")
  return quota

def isRecoveryTarget (row : StoredObject) : Bool :=
  row.state = .reserved || row.state = .reaping || row.state = .deletePending

def Database.tenantRows (db : Database) (organizationId : String) : List StoredObject :=
  db.storedObjects.filter fun row => row.organizationId == organizationId

def checkOrganization (organizationId : String) : Except StorageError Unit :=
  require (isUuidText organizationId)
    (.recovery "organization id is not a canonical lowercase UUID")

/-- `_target_count`. -/
def targetCount (db : Database) : Except StorageError Int := do
  forEach checkOrganization db.organizations
  return (db.organizations.map fun organizationId =>
    (((db.tenantRows organizationId).filter isRecoveryTarget).length : Int)).sum

def overlapsTombstone (db : Database) (bucket : String) (row : StoredObject) : Bool :=
  db.tombstones.any fun tombstone => tombstone.capacityBucket == bucket &&
    (tombstone.objectKey == row.objectKey || tombstone.idempotencyKey == row.idempotencyKey)

/-- `_assert_no_tombstone_overlap`. -/
def assertNoTombstoneOverlap (db : Database) (bucket : String) : Except StorageError Unit :=
  forEach (fun organizationId => do
    checkOrganization organizationId
    require (!(db.tenantRows organizationId).any (overlapsTombstone db bucket))
      (.recovery "live storage ledger overlaps a permanently retired storage identity"))
    db.organizations

/-- The ledger is bound to the bucket, or to none and then holds nothing in flight. -/
def checkLedgerBucket (db : Database) (quota : GlobalQuota) (bucket : String) :
    Except StorageError Unit :=
  match quota.capacityBucket with
  | none => do
    let targets ← targetCount db
    require (quota.reservedCount == 0 && quota.reservedBytes == 0 && targets == 0)
      (.recovery "an unbound non-empty storage ledger cannot be recovered")
  | some ledgerBucket =>
    require (ledgerBucket == bucket)
      (.recovery "configured S3 bucket does not match the storage ledger")

/-- Another recovery of this boot still owns the gate. -/
def checkGateFree (db : Database) (quota : GlobalQuota) (databaseNow : Int) :
    Except StorageError Unit :=
  match quota.maintenanceToken with
  | none => .ok ()
  | some _ => do
    let currentExpiry ← demand quota.maintenanceOwnerExpiresAt
      (.recovery "database returned invalid maintenance owner expiry")
    let currentStartedAt ← demand quota.maintenanceDatabaseStartedAt
      (.recovery "database returned invalid maintenance database start time")
    require (!(currentStartedAt == db.startedAt && databaseNow < currentExpiry))
      (.recovery "another storage recovery owns maintenance")

/-- The row of a gate that was just closed. -/
def begunQuota (quota : GlobalQuota) (token bucket : String) (databaseNow startedAt : Int) :
    GlobalQuota :=
  { quota with
    maintenanceToken := some token
    maintenanceEpoch := quota.maintenanceEpoch + 1
    maintenanceStartedAt := some databaseNow
    maintenanceDatabaseStartedAt := some startedAt
    maintenanceOwnerExpiresAt := some (databaseNow + maintenanceLeaseSeconds * second)
    capacityBucket := quota.capacityBucket.or (some bucket)
    capacityVerified := false
    capacityVerifiedAt := some databaseNow
    recoveryDatabaseStartedAt := none
    recoveryCompletedAt := none }

/-- `begin`: the database with the gate closed, and the new epoch. -/
def beginMaintenance (db : Database) (token bucket : String) (databaseNow : Int) :
    Except StorageError (Database × Int) := do
  require (isUuidText token)
    (.recovery "maintenance token is not a canonical lowercase UUID")
  let bucket ← canonicalBucket bucket
  let quota ← demand db.globalQuota quotaSingletonMissing
  checkLedgerBucket db quota bucket
  assertNoTombstoneOverlap db bucket
  checkGateFree db quota databaseNow
  require (quota.maintenanceEpoch + 1 ≤ maxDatabaseInteger) (.raised "22003" "bigint out of range")
  let begun := begunQuota quota token bucket databaseNow db.startedAt
  return ({ db with globalQuota := some begun }, quota.maintenanceEpoch + 1)

def renewedQuota (quota : GlobalQuota) (renewedAt : Int) : GlobalQuota :=
  { quota with maintenanceOwnerExpiresAt := some (renewedAt + maintenanceLeaseSeconds * second) }

/-- `renew`, with the clock readings of the check and of the update. -/
def renewMaintenance (db : Database) (token : String) (epoch databaseNow renewedAt : Int) :
    Except StorageError Database := do
  let quota ← lockedGate db token epoch databaseNow
  return { db with globalQuota := some (renewedQuota quota renewedAt) }

structure RecoverySnapshot where
  databaseNow : Int
  targetCount : Int
  domainReferenceCount : Int
  liveGenerationLeaseCount : Int
  nextEligibleAt : Option Int

/-- The row waits for a lease or a claim to expire. -/
def eligibleAt (row : StoredObject) (databaseNow : Int) : Option Int :=
  match row.state with
  | .reserved => row.leaseExpiresAt.filter fun expiry => databaseNow < expiry
  | .reaping => row.claimExpiresAt.filter fun expiry => databaseNow < expiry
  | _ => none

def hasLeasedOwner (db : Database) (row : StoredObject) (databaseNow : Int) : Bool :=
  row.ownerType == "generation_job" && db.generationJobs.any fun job =>
    job.organizationId == row.organizationId && job.id == row.ownerId &&
      job.leaseExpiresAt.any fun expiry => databaseNow < expiry

/-- `snapshot`. -/
def snapshotMaintenance (db : Database) (token : String) (epoch databaseNow : Int) :
    Except StorageError RecoverySnapshot := do
  let quota ← lockedGate db token epoch databaseNow
  let bucket ← canonicalBucket (quota.capacityBucket.getD "None")
  assertNoTombstoneOverlap db bucket
  let targets ← targetCount db
  let rows := db.storedObjects.filter fun row => db.organizations.contains row.organizationId
  let targetRows := rows.filter isRecoveryTarget
  return {
    databaseNow := databaseNow
    targetCount := targets
    domainReferenceCount := (targetRows.filter fun row =>
      db.isReferenced row.organizationId row.objectKey).length
    liveGenerationLeaseCount := (targetRows.filter fun row =>
      hasLeasedOwner db row databaseNow).length
    nextEligibleAt := (rows.filterMap fun row => eligibleAt row databaseNow).min? }

/-- The reserved counters of a tenant; a tenant with objects must have them. -/
def tenantReserved (db : Database) (organizationId : String) : Except StorageError (Int × Int) := do
  checkOrganization organizationId
  match db.tenantQuota organizationId with
  | none =>
    require (db.tenantRows organizationId).isEmpty
      (.recovery "stored objects exist without a tenant quota row")
    return (0, 0)
  | some quota => return (quota.reservedBytes, quota.reservedCount)

/-- The row of a gate that was opened again, with the proof that this boot is recovered. -/
def finishedQuota (quota : GlobalQuota) (databaseNow startedAt : Int) : GlobalQuota :=
  { quota with
    maintenanceToken := none
    maintenanceStartedAt := none
    maintenanceOwnerExpiresAt := none
    maintenanceDatabaseStartedAt := none
    recoveryDatabaseStartedAt := some startedAt
    recoveryCompletedAt := some databaseNow
    capacityVerified := false }

/-- `finish`. -/
def finishMaintenance (db : Database) (token : String) (epoch databaseNow : Int) :
    Except StorageError Database := do
  let quota ← lockedGate db token epoch databaseNow
  let bucket ← canonicalBucket (quota.capacityBucket.getD "None")
  assertNoTombstoneOverlap db bucket
  let targets ← targetCount db
  let reserved ← collect (tenantReserved db) db.organizations
  require (targets == 0 && (reserved.map Prod.fst).sum == 0 && (reserved.map Prod.snd).sum == 0 &&
      quota.reservedCount == 0 && quota.reservedBytes == 0)
    (.recovery "storage recovery cannot open with residual reservations")
  return { db with globalQuota := some (finishedQuota quota databaseNow db.startedAt) }

end Custombuild.Storage
