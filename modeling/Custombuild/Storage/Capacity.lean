/-
  The capacity evidence of the global quota row.
  Source: `alembic/versions/0013_storage_quota_security_functions.py`, and the backfill of
  `alembic/versions/0012_storage_quota_ledger.py`.
-/
import Custombuild.Storage.Functions

namespace Custombuild.Storage

open Custombuild.Lib

/-! ## Attestation -/

structure AttestCapacityCall where
  provisionedBytes : Int
  metadataOverheadBytes : Int
  emergencyReserveBytes : Int
  byteLimit : Int
  objectLimit : Int
  volumeIdentity : String
  capacityBucket : String
  capacityOperatorConfigSha256 : String
  deployDescriptorSha256 : String
  inventorySha256 : String
  inventoryObjectCount : Int
  inventoryBytes : Int
  ledgerObjectCount : Int
  ledgerBytes : Int
  capacityAttestedAt : Int
  capacityEvidenceSha256 : String
  now : Int

def attestationFenced : StorageError :=
  .raised "55000" "STORAGE_MAINTENANCE_ACTIVE: capacity attestation is fenced"

def recoveryRequired : StorageError :=
  .raised "55000" "STORAGE_RECOVERY_REQUIRED: this database boot is not recovered"

/-- `custombuild_storage_lock_capacity`. -/
def lockCapacity (db : Database) : Except StorageError GlobalQuota := do
  let quota ← demand db.globalQuota globalQuotaMissing
  require quota.maintenanceToken.isNone attestationFenced
  require (quota.isRecovered db.startedAt) recoveryRequired
  return quota

def checkAttestArguments (cluster : Cluster) (call : AttestCapacityCall) :
    Except StorageError Unit := do
  assertText cluster "volume_identity" call.volumeIdentity 255
  assertText cluster "capacity_bucket" call.capacityBucket 63
  require (isSha256Text call.capacityOperatorConfigSha256 &&
      isSha256Text call.deployDescriptorSha256 && isSha256Text call.inventorySha256 &&
      isSha256Text call.capacityEvidenceSha256)
    (capacityInvalid "22023" "evidence hashes are not canonical")
  require (1 ≤ call.provisionedBytes && 1 ≤ call.metadataOverheadBytes &&
      1 ≤ call.emergencyReserveBytes && 1 ≤ call.byteLimit && 1 ≤ call.objectLimit &&
      0 ≤ call.inventoryObjectCount && 0 ≤ call.inventoryBytes && 0 ≤ call.ledgerObjectCount &&
      0 ≤ call.ledgerBytes)
    (capacityInvalid "22023" "numeric evidence is incomplete")
  require (call.metadataOverheadBytes + call.emergencyReserveBytes ≤ maxDatabaseInteger)
    (capacityInvalid "22003" "headroom overflows bigint")
  let headroom := call.metadataOverheadBytes + call.emergencyReserveBytes
  require (headroom < call.provisionedBytes && call.byteLimit ≤ call.provisionedBytes - headroom)
    (capacityInvalid "22023" "usable capacity exceeds physical capacity")

/-- The evidence agrees with itself and with the counters, and the limits cover them. -/
def attestationAgrees (quota : GlobalQuota) (call : AttestCapacityCall) : Bool :=
  call.inventoryObjectCount == call.ledgerObjectCount &&
    call.inventoryBytes == call.ledgerBytes &&
    call.ledgerObjectCount == quota.committedCount &&
    call.ledgerBytes == quota.committedBytes &&
    quota.committedBytes + quota.reservedBytes ≤ call.byteLimit &&
    quota.committedCount + quota.reservedCount ≤ call.objectLimit

def attestedQuota (quota : GlobalQuota) (call : AttestCapacityCall) : GlobalQuota :=
  { quota with
    byteLimit := call.byteLimit
    objectLimit := call.objectLimit
    capacityVerified := true
    provisionedBytes := some call.provisionedBytes
    metadataOverheadBytes := some call.metadataOverheadBytes
    emergencyReserveBytes := some call.emergencyReserveBytes
    capacityHeadroomBytes := some (call.metadataOverheadBytes + call.emergencyReserveBytes)
    volumeIdentity := some call.volumeIdentity
    capacityBucket := some call.capacityBucket
    capacityOperatorConfigSha256 := some call.capacityOperatorConfigSha256
    deployDescriptorSha256 := some call.deployDescriptorSha256
    inventorySha256 := some call.inventorySha256
    inventoryObjectCount := some call.inventoryObjectCount
    inventoryBytes := some call.inventoryBytes
    ledgerObjectCount := some call.ledgerObjectCount
    ledgerBytes := some call.ledgerBytes
    capacityAttestedAt := some call.capacityAttestedAt
    capacityVerifiedAt := some call.now
    capacityEvidenceSha256 := some call.capacityEvidenceSha256 }

/-- `custombuild_storage_attest_capacity`. -/
def attestCapacity (cluster : Cluster) (db : Database) (call : AttestCapacityCall) :
    Except StorageError Database := do
  checkAttestArguments cluster call
  let quota ← demand db.globalQuota globalQuotaMissing
  require quota.maintenanceToken.isNone attestationFenced
  require (quota.isRecovered db.startedAt) recoveryRequired
  require (call.now - 5 * minute ≤ call.capacityAttestedAt &&
      call.capacityAttestedAt ≤ call.now + minute)
    (capacityInvalid "22023" "attestation timestamp is stale or future-dated")
  require (attestationAgrees quota call)
    (capacityInvalid "55000" "inventory, ledger or active counters differ")
  return { db with globalQuota := some (attestedQuota quota call) }

def invalidatedQuota (quota : GlobalQuota) (failureEvidenceSha256 : String) (now : Int) :
    GlobalQuota :=
  { quota with
    capacityVerified := false
    capacityVerifiedAt := some now
    capacityEvidenceSha256 := some failureEvidenceSha256 }

/-- `custombuild_storage_invalidate_capacity`. -/
def invalidateCapacity (db : Database) (failureEvidenceSha256 : String) (now : Int) :
    Except StorageError Database := do
  require (isSha256Text failureEvidenceSha256)
    (capacityInvalid "22023" "failure evidence hash is not canonical")
  let quota ← demand db.globalQuota globalQuotaMissing
  return { db with globalQuota := some (invalidatedQuota quota failureEvidenceSha256 now) }

end Custombuild.Storage
