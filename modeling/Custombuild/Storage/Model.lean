/-
  The durable storage ledger: the quota counters, the stored objects, the tombstones of
  retired keys, and the tables the ledger functions read beside them.
  Source: `alembic/versions/0012_storage_quota_ledger.py`, the tables of `app.models`.

  Times are microseconds; a database clock reading is an argument of the transaction that
  takes it, and nothing relates two readings.  The CHECK constraints on the counters and on
  the lease columns are not enforced here: `Storage.Accounting` proves that every write meets
  them.  Not modelled: `created_at`, and `updated_at` of the quota rows, which nothing reads.
-/
import Custombuild.Lib.Json
import Custombuild.Lib.Table
import Custombuild.Jobs.Model

namespace Custombuild.Storage

open Custombuild.Lib
open Custombuild.Jobs (JobStatus)

/-- What the ledger functions take from the database cluster: the character classes
    `[:cntrl:]` and `[:space:]` of its locale, and the collation of `ORDER BY`. -/
structure Cluster where
  isControlOrSpace : Char → Bool
  collates : String → String → Bool

def tenantStorageByteLimit : Int := 10737418240

def tenantStorageObjectLimit : Int := 100000

def maxDatabaseInteger : Int := 9223372036854775807

/-! ## Rows -/

/-- The capacity evidence, the maintenance gate and the counters of `storage_global_quotas`. -/
structure GlobalQuota where
  byteLimit : Int
  objectLimit : Int
  reservedBytes : Int
  committedBytes : Int
  reservedCount : Int
  committedCount : Int
  capacityVerified : Bool
  provisionedBytes : Option Int
  metadataOverheadBytes : Option Int
  emergencyReserveBytes : Option Int
  capacityHeadroomBytes : Option Int
  volumeIdentity : Option String
  capacityBucket : Option String
  capacityOperatorConfigSha256 : Option String
  deployDescriptorSha256 : Option String
  inventorySha256 : Option String
  inventoryObjectCount : Option Int
  inventoryBytes : Option Int
  ledgerObjectCount : Option Int
  ledgerBytes : Option Int
  capacityAttestedAt : Option Int
  capacityVerifiedAt : Option Int
  capacityEvidenceSha256 : Option String
  maintenanceToken : Option String
  maintenanceEpoch : Int
  maintenanceStartedAt : Option Int
  maintenanceOwnerExpiresAt : Option Int
  maintenanceDatabaseStartedAt : Option Int
  recoveryDatabaseStartedAt : Option Int
  recoveryCompletedAt : Option Int
deriving DecidableEq

structure TenantQuota where
  organizationId : String
  byteLimit : Int
  objectLimit : Int
  reservedBytes : Int
  committedBytes : Int
  reservedCount : Int
  committedCount : Int
deriving DecidableEq

inductive StoredObjectState where
  | reserved
  | committed
  | deletePending
  | reaping
deriving DecidableEq

structure StoredObject where
  organizationId : String
  objectKey : String
  projectId : String
  sha256 : String
  sizeBytes : Int
  mediaType : String
  ownerType : String
  ownerId : String
  idempotencyKey : String
  state : StoredObjectState
  leaseToken : Option String
  leaseExpiresAt : Option Int
  claimToken : Option String
  claimExpiresAt : Option Int
  updatedAt : Int
deriving DecidableEq

/-- `ReapCounterKind`, the counter family a row is charged to. -/
inductive AccountingState where
  | reserved
  | committed
deriving DecidableEq

structure Tombstone where
  capacityBucket : String
  objectKey : String
  organizationId : String
  projectId : String
  sha256 : String
  sizeBytes : Int
  mediaType : String
  ownerType : String
  ownerId : String
  idempotencyKey : String
  accountingState : AccountingState
  claimToken : String
  retiredAt : Int
deriving DecidableEq

/-- The table of a domain reference with the columns only that table has. -/
inductive ReferenceOrigin where
  | importedAsset (projectId : String)
  | externalEvidence (projectId : String)
  | artifact (generationJobId kind : String)
deriving DecidableEq

inductive ReferenceTable where
  | importedAssets
  | externalEvidence
  | artifacts
deriving DecidableEq

def ReferenceOrigin.table : ReferenceOrigin → ReferenceTable
  | .importedAsset _ => .importedAssets
  | .externalEvidence _ => .externalEvidence
  | .artifact _ _ => .artifacts

/-- A row of `imported_assets`, `external_evidence` or `artifacts`; `mediaType` is the
    column `content_type` of the last two. -/
structure DomainReference where
  id : String
  organizationId : String
  objectKey : String
  sha256 : String
  sizeBytes : Int
  mediaType : String
  origin : ReferenceOrigin
deriving DecidableEq

/-- The columns of `generation_jobs` that the ledger reads. -/
structure JobRow where
  organizationId : String
  id : String
  designVersionId : String
  status : JobStatus
  leaseExpiresAt : Option Int
deriving DecidableEq

structure DesignVersionRow where
  organizationId : String
  id : String
  projectId : String
deriving DecidableEq

/-- `startedAt` is `pg_postmaster_start_time()`, the identity of the running boot. -/
structure Database where
  startedAt : Int
  globalQuota : Option GlobalQuota
  tenantQuotas : List TenantQuota
  storedObjects : List StoredObject
  tombstones : List Tombstone
  organizations : List String
  projects : List (String × String)
  designVersions : List DesignVersionRow
  generationJobs : List JobRow
  references : List DomainReference

inductive StorageError where
  | raised (errcode message : String)
  | uniqueViolation (constraint : String)
  | foreignKeyViolation (constraint : String)
  | recovery (message : String)
deriving DecidableEq

/-! ## Texts -/

/-- The pattern `^[0-9a-f]{64}$`. -/
def isSha256Text (text : String) : Bool :=
  (charsOf text).length == 64 && (charsOf text).all isLowerHex

def claimInvalid (detail : String) : StorageError :=
  .raised "22023" ("STORAGE_CLAIM_INVALID: " ++ detail)

def claimConflict (detail : String) : StorageError :=
  .raised "23505" ("STORAGE_CLAIM_CONFLICT: " ++ detail)

def quotaInvariant (detail : String) : StorageError :=
  .raised "P0002" ("STORAGE_QUOTA_INVARIANT: " ++ detail)

def capacityInvalid (errcode detail : String) : StorageError :=
  .raised errcode ("STORAGE_CAPACITY_INVALID: " ++ detail)

/-- `_custombuild_storage_assert_uuid`. -/
def assertUuid (name value : String) : Except StorageError Unit :=
  require (isUuidText value) (claimInvalid (name ++ " must be a canonical lowercase UUID"))

def isCanonicalText (cluster : Cluster) (value : String) (maximum : Nat) : Bool :=
  let chars := charsOf value
  1 ≤ chars.length && chars.length ≤ maximum &&
    !(chars.any cluster.isControlOrSpace) && !chars.contains '\\'

/-- `_custombuild_storage_assert_text`. -/
def assertText (cluster : Cluster) (name value : String) (maximum : Nat) :
    Except StorageError Unit :=
  require (isCanonicalText cluster value maximum) (claimInvalid (name ++ " is not canonical"))

/-- `_custombuild_storage_require_tenant`, with the setting `app.current_organization_id`. -/
def requireTenant (tenantContext organizationId : String) : Except StorageError Unit := do
  assertUuid "organization_id" organizationId
  require (tenantContext == organizationId) (.raised "42501" "STORAGE_TENANT_CONTEXT_MISMATCH")

/-! ## Claim tokens -/

/-- `substr(token, 15, 1)`. -/
def marker (token : String) : Option Char := (charsOf token)[14]?

def AccountingState.marker : AccountingState → Char
  | .reserved => '4'
  | .committed => '5'

/-- `overlay(token, marker, 15, 1)`. -/
def overlayMarker (token : String) (mark : Char) : String :=
  String.ofList ((charsOf token).take 14 ++ mark :: (charsOf token).drop 15)

/-- The counter family of a claim token, by its version digit. -/
def counterKindFromToken (token : String) : Option AccountingState :=
  if marker token = some '4' then some .reserved
  else if marker token = some '5' then some .committed
  else none

theorem marker_overlayMarker {token : String} (mark : Char) (h : isUuidText token = true) :
    marker (overlayMarker token mark) = some mark := by
  have hlength : token.toList.length = 36 := Uuid.length_toList ⟨token, h⟩
  unfold marker overlayMarker
  rw [charsOf_eq, charsOf_eq, String.toList_ofList, List.getElem?_append_right (by simp [hlength])]
  simp [hlength]

theorem counterKindFromToken_overlayMarker {token : String} (kind : AccountingState)
    (h : isUuidText token = true) :
    counterKindFromToken (overlayMarker token kind.marker) = some kind := by
  unfold counterKindFromToken
  rw [marker_overlayMarker kind.marker h]
  cases kind <;> decide

/-- The counter family a row is charged to: a reaping row keeps it in its claim token. -/
def StoredObject.accounting (row : StoredObject) : Option AccountingState :=
  match row.state with
  | .reserved => some .reserved
  | .committed | .deletePending => some .committed
  | .reaping => row.claimToken.bind counterKindFromToken

/-- `ck_stored_objects_state_lease`, with the version digits a claim token may have. -/
def StoredObject.shapeOk (row : StoredObject) : Bool :=
  match row.state with
  | .reserved => row.leaseToken.isSome && row.leaseExpiresAt.isSome && row.claimToken.isNone &&
      row.claimExpiresAt.isNone
  | .committed | .deletePending => row.leaseToken.isNone && row.leaseExpiresAt.isNone &&
      row.claimToken.isNone && row.claimExpiresAt.isNone
  | .reaping => row.leaseToken.isNone && row.leaseExpiresAt.isNone &&
      (row.claimToken.any fun token => (counterKindFromToken token).isSome) &&
      row.claimExpiresAt.isSome

/-! ## Table access -/

def Database.tenantQuota (db : Database) (organizationId : String) : Option TenantQuota :=
  db.tenantQuotas.find? fun quota => quota.organizationId == organizationId

def Database.updateTenantQuota (db : Database) (organizationId : String)
    (change : TenantQuota → TenantQuota) : Database :=
  let isTenant : TenantQuota → Bool := fun quota => quota.organizationId == organizationId
  { db with tenantQuotas := Table.modify isTenant change db.tenantQuotas }

/-- `INSERT … ON CONFLICT (organization_id) DO NOTHING` of a tenant with the default limits. -/
def insertTenantQuotaIfMissing (db : Database) (organizationId : String) :
    Except StorageError Database := do
  if (db.tenantQuota organizationId).isSome then
    return db
  require (db.organizations.contains organizationId)
    (.foreignKeyViolation "storage_tenant_quotas_organization_id_fkey")
  let quota : TenantQuota :=
    ⟨organizationId, tenantStorageByteLimit, tenantStorageObjectLimit, 0, 0, 0, 0⟩
  return { db with tenantQuotas := db.tenantQuotas ++ [quota] }

/-- `INSERT INTO stored_objects`, with the unique constraints and the foreign keys. -/
def insertStoredObject (db : Database) (rows : List StoredObject) (row : StoredObject) :
    Except StorageError (List StoredObject) := do
  require (!rows.any fun other => other.objectKey == row.objectKey)
    (.uniqueViolation "uq_stored_objects_global_object_key")
  require (!rows.any fun other => other.organizationId == row.organizationId &&
      other.idempotencyKey == row.idempotencyKey)
    (.uniqueViolation "uq_stored_objects_org_idempotency_key")
  require (db.organizations.contains row.organizationId)
    (.foreignKeyViolation "stored_objects_organization_id_fkey")
  require (db.projects.contains (row.organizationId, row.projectId))
    (.foreignKeyViolation "fk_stored_objects_org_project")
  return rows ++ [row]

/-- The change of the row with a given key of a tenant. -/
def updateObject (organizationId objectKey : String) (change : StoredObject → StoredObject)
    (rows : List StoredObject) : List StoredObject :=
  Table.modify (fun row => row.organizationId == organizationId && row.objectKey == objectKey)
    change rows

/-- A domain reference to a key of the tenant exists. -/
def Database.isReferenced (db : Database) (organizationId objectKey : String) : Bool :=
  db.references.any fun reference =>
    reference.organizationId == organizationId && reference.objectKey == objectKey

def JobRow.isLive (job : JobRow) (now : Int) : Bool :=
  job.status = .queued || job.status = .running || job.leaseExpiresAt.any fun expiry => now < expiry

/-- The row is owned by a generation job that is queued, running or still leased. -/
def Database.hasLiveOwner (db : Database) (row : StoredObject) (now : Int) : Bool :=
  row.ownerType == "generation_job" && db.generationJobs.any fun job =>
    job.organizationId == row.organizationId && job.id == row.ownerId && job.isLive now

end Custombuild.Storage
