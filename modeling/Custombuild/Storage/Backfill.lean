/-
  The migration that creates the ledger: one committed row for every object that the domain
  tables reference already, and the counters that go with them.
  Source: `_backfill_existing_objects` of `alembic/versions/0012_storage_quota_ledger.py`.
-/
import Custombuild.Storage.Reaping

namespace Custombuild.Storage

open Custombuild.Lib

/-- The tables before the migration; every reference belongs to an organization, by the
    foreign key of its table. -/
structure LegacyTables where
  organizations : List String
  projects : List (String × String)
  designVersions : List DesignVersionRow
  generationJobs : List JobRow
  references : List DomainReference
  references_known : ∀ reference ∈ references, reference.organizationId ∈ organizations

def backfillFailed (detail : String) : StorageError :=
  .recovery ("STORAGE_QUOTA_BACKFILL_FAILED: " ++ detail)

/-- The checks of `_canonical_text`: no surrounding space, no control character, no
    backslash. -/
def isLegacyText (value : String) (maximum : Nat) : Bool :=
  Manufacturing.isCanonicalText value && (charsOf value).length ≤ maximum &&
    !(charsOf value).contains '\\' && (charsOf value).all fun c => 0x20 < c.toNat && c.toNat ≠ 0x7F

def legacyText (name value : String) (maximum : Nat) : Except StorageError Unit :=
  require (isLegacyText value maximum) (backfillFailed (name ++ " is not canonical"))

/-- The row of a legacy object, committed and without lease or claim. -/
def legacyRow (reference : DomainReference) (identity : ReferenceIdentity) (now : Int) :
    StoredObject where
  organizationId := reference.organizationId
  objectKey := reference.objectKey
  projectId := identity.projectId
  sha256 := reference.sha256
  sizeBytes := reference.sizeBytes
  mediaType := reference.mediaType
  ownerType := identity.ownerType
  ownerId := identity.ownerId
  idempotencyKey := identity.idempotencyKey
  state := .committed
  leaseToken := none
  leaseExpiresAt := none
  claimToken := none
  claimExpiresAt := none
  updatedAt := now

/-- `_validated_legacy_row`. -/
def validatedLegacyRow (db : Database) (now : Int) (reference : DomainReference) :
    Except StorageError StoredObject := do
  legacyText "organization_id" reference.organizationId 36
  let identity ← demand (referenceIdentity db reference)
    (backfillFailed "project_id is missing or exceeds 36")
  legacyText "project_id" identity.projectId 36
  legacyText "object_key" reference.objectKey 512
  require (isSha256Text reference.sha256) (backfillFailed "legacy sha256 is not canonical")
  require (0 < reference.sizeBytes) (backfillFailed "legacy size_bytes must be positive")
  legacyText "media_type" reference.mediaType 160
  legacyText "owner_type" identity.ownerType 40
  legacyText "owner_id" identity.ownerId 36
  legacyText "idempotency_key" identity.idempotencyKey 512
  return legacyRow reference identity now

/-- The inserts of one tenant, in the order of its rows. -/
def insertLegacyRows (db : Database) : List StoredObject → List StoredObject →
    Except StorageError (List StoredObject)
  | rows, [] => .ok rows
  | rows, row :: legacy => do
    let rows ← insertStoredObject db rows row
    insertLegacyRows db rows legacy

/-- One tenant of the backfill. -/
def backfillTenant (now : Int) (db : Database) (organizationId : String) :
    Except StorageError Database := do
  let references := db.references.filter fun reference =>
    reference.organizationId == organizationId
  let legacy ← collect (validatedLegacyRow db now) references
  require (decide (legacy.map StoredObject.objectKey).Nodup)
    (backfillFailed ("duplicate legacy object_key for organization " ++ organizationId))
  require (!legacy.any fun row => db.storedObjects.any fun other =>
      other.objectKey == row.objectKey)
    (backfillFailed "duplicate physical legacy object_key across organizations")
  require (decide (legacy.map StoredObject.idempotencyKey).Nodup)
    (backfillFailed ("duplicate legacy idempotency_key for organization " ++ organizationId))
  let bytes := (legacy.map StoredObject.sizeBytes).sum
  let count : Int := legacy.length
  require (bytes ≤ tenantStorageByteLimit && count ≤ tenantStorageObjectLimit)
    (backfillFailed "existing tenant objects exceed the canonical quota")
  let rows ← insertLegacyRows db db.storedObjects legacy
  let quota : TenantQuota :=
    ⟨organizationId, tenantStorageByteLimit, tenantStorageObjectLimit, 0, bytes, 0, count⟩
  return { db with storedObjects := rows, tenantQuotas := db.tenantQuotas ++ [quota] }

def backfillTenants (now : Int) : Database → List String → Except StorageError Database
  | db, [] => .ok db
  | db, organizationId :: organizationIds => do
    let db ← backfillTenant now db organizationId
    backfillTenants now db organizationIds

/-- The counters of the global row without capacity evidence, for the given totals. -/
def bootstrapQuota (bytes count startedAt now : Int) : GlobalQuota where
  byteLimit := max bytes 1
  objectLimit := max count 1
  reservedBytes := 0
  committedBytes := bytes
  reservedCount := 0
  committedCount := count
  capacityVerified := false
  provisionedBytes := none
  metadataOverheadBytes := none
  emergencyReserveBytes := none
  capacityHeadroomBytes := none
  volumeIdentity := none
  capacityBucket := none
  capacityOperatorConfigSha256 := none
  deployDescriptorSha256 := none
  inventorySha256 := none
  inventoryObjectCount := none
  inventoryBytes := none
  ledgerObjectCount := none
  ledgerBytes := none
  capacityAttestedAt := none
  capacityVerifiedAt := none
  capacityEvidenceSha256 := none
  maintenanceToken := none
  maintenanceEpoch := 0
  maintenanceStartedAt := none
  maintenanceOwnerExpiresAt := none
  maintenanceDatabaseStartedAt := none
  recoveryDatabaseStartedAt := some startedAt
  recoveryCompletedAt := some now

/-- `_backfill_existing_objects`; the primary key of `organizations` gives each tenant once. -/
def backfill (tables : LegacyTables) (startedAt now : Int) : Except StorageError Database := do
  let empty : Database :=
    ⟨startedAt, none, [], [], [], tables.organizations, tables.projects, tables.designVersions,
      tables.generationJobs, tables.references⟩
  let db ← backfillTenants now empty tables.organizations.dedup
  let bytes := (db.tenantQuotas.map TenantQuota.committedBytes).sum
  let count := (db.tenantQuotas.map TenantQuota.committedCount).sum
  require (bytes ≤ maxDatabaseInteger && count ≤ maxDatabaseInteger)
    (backfillFailed "existing objects exceed database counters")
  return { db with globalQuota := some (bootstrapQuota bytes count startedAt now) }

end Custombuild.Storage
