/-
  What each function of the ledger does when it returns: one lemma for each, with every
  guard it passed and the database it leaves.
-/
import Custombuild.Storage.BatchUpdates
import Custombuild.Storage.Statement

namespace Custombuild.Storage

open Custombuild.Lib

variable {cluster : Cluster} {db db' : Database}

/-! ## Reserve -/

/-- The tenant row is there after `INSERT … ON CONFLICT DO NOTHING`, and nothing else changed. -/
theorem insertTenantQuotaIfMissing_cases {organizationId : String}
    (h : insertTenantQuotaIfMissing db organizationId = .ok db') :
    (db' = db ∧ (db.tenantQuota organizationId).isSome = true) ∨
      (db.tenantQuota organizationId = none ∧ organizationId ∈ db.organizations ∧
        db' = { db with tenantQuotas := db.tenantQuotas ++
          [⟨organizationId, tenantStorageByteLimit, tenantStorageObjectLimit, 0, 0, 0, 0⟩] }) := by
  unfold insertTenantQuotaIfMissing at h
  split at h
  · cases h
    exact .inl ⟨rfl, ‹_›⟩
  · rename_i hnone
    simp only [bind_eq_ok, require_eq_ok, List.contains_iff_mem] at h
    obtain ⟨_, hknown, hdb'⟩ := h
    cases hdb'
    exact .inr ⟨by simpa using hnone, hknown, rfl⟩

/-- The guards a reservation passed: `quota` and `tenant` are the counters it read, `base` the
    database after the insert of the tenant row. -/
structure Reserved (cluster : Cluster) (db : Database) (call : ReserveCall)
    (claims : List StorageObjectClaim) (base : Database) (quota : GlobalQuota)
    (tenant : TenantQuota) (expiry : Int) : Prop where
  canonical : CanonicalBatch cluster claims
  quota_found : db.globalQuota = some quota
  fences : reserveFences quota db.startedAt call.fenceAt = .ok ()
  base_eq : insertTenantQuotaIfMissing db call.organizationId = .ok base
  tenant_found : base.tenantQuota call.organizationId = some tenant
  reservable : ∀ c ∈ claims, isReservable base quota.capacityBucket call c = true
  fits : batchFits quota tenant (progressAfter base.storedObjects call expiry claims).byteDelta
    (progressAfter base.storedObjects call expiry claims).countDelta = true

/-- The database a reservation leaves. -/
def reservedDatabase (base : Database) (call : ReserveCall) (claims : List StorageObjectClaim)
    (quota : GlobalQuota) (expiry : Int) : Database :=
  let progress := progressAfter base.storedObjects call expiry claims
  let written := base.withRows progress.rows
  if 0 < progress.countDelta then
    written.addReserved quota call.organizationId progress.byteDelta progress.countDelta
  else written

theorem insertTenantQuotaIfMissing_storedObjects {organizationId : String}
    (h : insertTenantQuotaIfMissing db organizationId = .ok db') :
    db'.storedObjects = db.storedObjects := by
  rcases insertTenantQuotaIfMissing_cases h with ⟨rfl, -⟩ | ⟨-, -, rfl⟩
  · rfl
  · rfl

theorem reserveBatch_cases {call : ReserveCall} {reservation : StorageReservation}
    (h : reserveBatch cluster db call = .ok (db', reservation)) (hrows : RowsOk db.storedObjects) :
    ∃ claims base quota tenant expiry,
      Reserved cluster db call claims base quota tenant expiry ∧
        db' = reservedDatabase base call claims quota expiry := by
  simp only [reserveBatch, bind_eq_ok, demand_eq_ok] at h
  obtain ⟨_, -, _, -, claims, hclaims, _, -, quota, hquota, _, hfences, base, hbase, tenant,
    htenant, progress, hloop, _, hfits, hresult⟩ := h
  have hordered := (canonicalBatch_of_assertClaims hclaims).ordered
  have hbaseRows : RowsOk base.storedObjects := by
    rw [insertTenantQuotaIfMissing_storedObjects hbase]
    exact hrows
  obtain ⟨hreservable, rfl⟩ := (reserveClaims_eq_ok hbaseRows hordered.apart).mp hloop
  cases hresult
  refine ⟨_, base, quota, tenant, _, ⟨hordered, hquota, hfences, hbase, htenant, hreservable,
    require_eq_ok.mp hfits⟩, rfl⟩

/-! ## Renew -/

/-- What a renewal does. -/
theorem renewBatch_cases {call : RenewCall}
    (h : renewBatch cluster db call = .ok db') (hrows : RowsOk db.storedObjects) :
    ∃ claims expiry, (∀ c ∈ claims, isRenewable db.storedObjects call c = true) ∧
      db' = db.withRows (Table.modify (isNamed call.organizationId claims)
        (extendedRow expiry call.now) db.storedObjects) := by
  simp only [renewBatch, bind_eq_ok] at h
  obtain ⟨_, -, _, -, claims, hclaims, _, -, rows, hloop, hdb'⟩ := h
  cases hdb'
  have hbatch := canonicalBatch_of_assertClaims hclaims
  obtain ⟨hall, rfl⟩ := (renewClaims_eq_ok hrows (apart_orderedClaims hbatch.apart)).mp hloop
  exact ⟨_, _, hall, rfl⟩

/-! ## Commit -/

/-- The guards a commit passed. -/
structure Committed (cluster : Cluster) (db : Database) (call : CommitCall)
    (claims : List StorageObjectClaim) (quota : GlobalQuota) (tenant : TenantQuota)
    (bytes count : Int) : Prop where
  canonical : CanonicalBatch cluster claims
  quota_found : db.globalQuota = some quota
  tenant_found : db.tenantQuota call.organizationId = some tenant
  committable : ∀ c ∈ claims, isCommittable db.storedObjects call c = true
  deltas : Table.sumOf StoredObject.usage (db.storedObjects.filter (isCommitting call claims)) =
    (bytes, count)
  covers : reservedCovers quota tenant bytes count = true

/-- The database a commit leaves. -/
def committedDatabase (db : Database) (call : CommitCall) (claims : List StorageObjectClaim)
    (quota : GlobalQuota) (bytes count : Int) : Database :=
  let rows := Table.modify (isCommitting call claims) (committedRow call.now) db.storedObjects
  let charged := (db.withRows rows).updateTenantQuota call.organizationId fun tenant =>
    (tenant.addReserved (-bytes) (-count)).addCommitted bytes count
  { charged with
    globalQuota := some ((quota.addReserved (-bytes) (-count)).addCommitted bytes count) }

theorem commitBatch_cases {call : CommitCall} (h : commitBatch cluster db call = .ok db')
    (hrows : RowsOk db.storedObjects) :
    ∃ claims quota tenant bytes count,
      Committed cluster db call claims quota tenant bytes count ∧
        db' = if 0 < count then committedDatabase db call claims quota bytes count else db := by
  simp only [commitBatch, bind_eq_ok, demand_eq_ok] at h
  obtain ⟨_, -, _, -, claims, hclaims, quota, hquota, tenant, htenant, ⟨bytes, count⟩, hdeltas,
    _, hcovers, hresult⟩ := h
  have hordered := (canonicalBatch_of_assertClaims hclaims).ordered
  obtain ⟨hcommittable, hsum⟩ := (commitDeltas_eq_ok hrows hordered.apart).mp hdeltas
  refine ⟨_, quota, tenant, bytes, count, ⟨hordered, hquota, htenant, hcommittable, ?_,
    require_eq_ok.mp hcovers⟩, ?_⟩
  · rw [← hsum]
    exact (zero_add _).symm
  · split at hresult
    · rename_i hcount
      cases hresult
      rw [if_pos hcount, foldl_commitRow]
      rfl
    · rename_i hcount
      cases hresult
      rw [if_neg hcount]

/-! ## Reap -/

/-- What a reaper claim does: the selected rows, unreferenced and without a live owner, become
    reaping under a token that keeps their counter family. -/
theorem claimReap_cases {call : ClaimReapCall}
    {claims : List StorageReapClaim} (h : claimReap cluster db call = .ok (db', claims))
    (hrows : RowsOk db.storedObjects) :
    ∃ p token expiry, (∀ row ∈ db.storedObjects, p row = true → isReapCandidate db call row = true) ∧
      counterKindFromToken token = some call.accountingState ∧
      db' = db.withRows (Table.modify p (reapingRow token expiry call.now) db.storedObjects) := by
  simp only [claimReap, requireTenant, assertUuid, bind_eq_ok, require_eq_ok] at h
  obtain ⟨_, ⟨_, -, -⟩, _, htoken, _, -, hresult⟩ := h
  cases hresult
  rw [foldl_reapRow]
  refine ⟨isAmong call.organizationId (reapCandidates cluster db call),
    overlayMarker call.claimToken call.accountingState.marker, _, ?_,
    counterKindFromToken_overlayMarker _ htoken, rfl⟩
  intro row hrow hp
  simp only [isAmong, Bool.and_eq_true, List.any_eq_true, beq_iff_eq] at hp
  obtain ⟨-, candidate, hcandidate, hkey⟩ := hp
  obtain ⟨hmem, hreap⟩ := mem_reapCandidates hcandidate
  obtain rfl := hrows.eq_of_key hmem hrow hkey
  exact hreap

theorem isReapCandidate_iff {call : ClaimReapCall} {row : StoredObject} :
    isReapCandidate db call row = true ↔ row.organizationId = call.organizationId ∧
      isDueForReaping call.accountingState row call.now = true ∧
      db.isReferenced row.organizationId row.objectKey = false ∧
      db.hasLiveOwner row call.now = false ∧ row.objectKey ∉ call.skipped := by
  simp [isReapCandidate, and_assoc]

/-- The guards a finalization passed: `row` is the claimed row. -/
structure Finalized (cluster : Cluster) (db : Database) (call : FinalizeReapCall)
    (kind : AccountingState) (quota : GlobalQuota) (tenant : TenantQuota) (row : StoredObject) :
    Prop where
  marked : counterKindFromToken call.claimToken = some kind
  quota_found : db.globalQuota = some quota
  bucket : quota.capacityBucket = some call.capacityBucket
  tenant_found : db.tenantQuota call.organizationId = some tenant
  row_mem : row ∈ db.storedObjects
  row_organization : row.organizationId = call.organizationId
  row_key : row.objectKey = call.objectKey
  owned : ownsReapClaim row call.sha256 call.sizeBytes call.claimToken call.now = true
  unreferenced : db.isReferenced call.organizationId call.objectKey = false
  unowned : db.hasLiveOwner row call.now = false

theorem ownsReapClaim_iff {row : StoredObject} {sha256 claimToken : String} {sizeBytes now : Int} :
    ownsReapClaim row sha256 sizeBytes claimToken now = true ↔ row.state = .reaping ∧
      row.sha256 = sha256 ∧ row.sizeBytes = sizeBytes ∧ row.claimToken = some claimToken ∧
      ∃ expiry, row.claimExpiresAt = some expiry ∧ now < expiry := by
  cases hexpiry : row.claimExpiresAt <;>
    simp [ownsReapClaim, hexpiry, and_assoc]

theorem releaseCounters_cases {quota : GlobalQuota} {tenant : TenantQuota}
    {kind : AccountingState} {organizationId : String} {sizeBytes : Int}
    (h : releaseCounters db quota tenant kind organizationId sizeBytes = .ok db') :
    (kind = .reserved ∧ db' = db.addReserved quota organizationId (-sizeBytes) (-1)) ∨
      (kind = .committed ∧ db' = db.addCommitted quota organizationId (-sizeBytes) (-1)) := by
  unfold releaseCounters at h
  cases kind with
  | reserved =>
    simp only [bind_eq_ok] at h
    obtain ⟨_, -, hdb'⟩ := h
    cases hdb'
    exact .inl ⟨rfl, rfl⟩
  | committed =>
    simp only [bind_eq_ok] at h
    obtain ⟨_, -, hdb'⟩ := h
    cases hdb'
    exact .inr ⟨rfl, rfl⟩

/-- The rows without the one that was reaped. -/
def withoutKey (rows : List StoredObject) (objectKey : String) : List StoredObject :=
  rows.filter fun row => !(row.objectKey == objectKey)

/-- The database a finalization leaves. -/
def finalizedDatabase (db : Database) (call : FinalizeReapCall) (kind : AccountingState)
    (quota : GlobalQuota) (row : StoredObject) : Database :=
  let retired := { db with tombstones := db.tombstones ++ [tombstoneOf row kind call] }
  let released := match kind with
    | .reserved => retired.addReserved quota call.organizationId (-call.sizeBytes) (-1)
    | .committed => retired.addCommitted quota call.organizationId (-call.sizeBytes) (-1)
  released.withRows (withoutKey db.storedObjects call.objectKey)

theorem finalizeReap_cases {call : FinalizeReapCall} (h : finalizeReap cluster db call = .ok db')
    (hrows : RowsOk db.storedObjects) :
    ∃ kind quota tenant row, Finalized cluster db call kind quota tenant row ∧
      db' = finalizedDatabase db call kind quota row := by
  simp only [finalizeReap, bind_eq_ok, demand_eq_ok, require_eq_ok] at h
  obtain ⟨kind, harguments, quota, hquota, _, hbucket, tenant, htenant, row, hrow, _, howned, _,
    hfree, tombstones, htombstones, released, hreleased, _, -, hresult⟩ := h
  simp only [checkFinalizeArguments, bind_eq_ok, demand_eq_ok] at harguments
  obtain ⟨_, -, _, -, _, -, _, -, _, -, hmarked⟩ := harguments
  simp only [insertTombstone, bind_eq_ok] at htombstones
  obtain ⟨_, -, _, -, hinserted⟩ := htombstones
  cases hinserted
  have hmem : row ∈ db.storedObjects := List.mem_of_find?_eq_some hrow
  have hkeys := List.find?_some hrow
  simp only [Bool.and_eq_true, beq_iff_eq] at hkeys
  simp only [Bool.and_eq_true, Bool.not_eq_true'] at hfree
  refine ⟨kind, quota, tenant, row, ⟨hmarked, hquota, by simpa using hbucket, htenant, hmem,
    hkeys.1, hkeys.2, howned, hfree.1, hfree.2⟩, ?_⟩
  -- the token-bound delete takes exactly the claimed row
  have hdelete : (db.storedObjects.filter fun other =>
      !(other.organizationId == call.organizationId && other.objectKey == call.objectKey &&
        other.claimToken == some call.claimToken)) = withoutKey db.storedObjects call.objectKey := by
    refine List.filter_congr fun other hother => ?_
    by_cases hkey : other.objectKey = call.objectKey
    · obtain rfl := hrows.eq_of_key hother hmem (hkey.trans hkeys.2.symm)
      have htoken := (ownsReapClaim_iff.mp howned).2.2.2.1
      simp [hkeys.1, hkeys.2, htoken]
    · have hkey' : (other.objectKey == call.objectKey) = false := by simpa using hkey
      simp [hkey']
  cases hresult
  rcases releaseCounters_cases hreleased with ⟨rfl, rfl⟩ | ⟨rfl, rfl⟩
  · simp only [finalizedDatabase, Database.withRows, Database.addReserved,
      Database.updateTenantQuota, hdelete]
  · simp only [finalizedDatabase, Database.withRows, Database.addCommitted,
      Database.updateTenantQuota, hdelete]

/-! ## Capacity and maintenance -/

def Database.withQuota (db : Database) (quota : GlobalQuota) : Database :=
  { db with globalQuota := some quota }

theorem attestCapacity_cases {call : AttestCapacityCall}
    (h : attestCapacity cluster db call = .ok db') :
    ∃ quota, db.globalQuota = some quota ∧ quota.maintenanceToken = none ∧
      quota.isRecovered db.startedAt = true ∧ attestationAgrees quota call = true ∧
        db' = db.withQuota (attestedQuota quota call) := by
  simp only [attestCapacity, bind_eq_ok, demand_eq_ok, require_eq_ok,
    Option.isNone_iff_eq_none] at h
  obtain ⟨_, -, quota, hquota, _, htoken, _, hrecovered, _, -, _, hagrees, hdb'⟩ := h
  cases hdb'
  exact ⟨quota, hquota, htoken, hrecovered, hagrees, rfl⟩

theorem invalidateCapacity_cases {sha256 : String} {now : Int}
    (h : invalidateCapacity db sha256 now = .ok db') :
    ∃ quota, db.globalQuota = some quota ∧ db' = db.withQuota (invalidatedQuota quota sha256 now) := by
  simp only [invalidateCapacity, bind_eq_ok, demand_eq_ok] at h
  obtain ⟨_, -, quota, hquota, hdb'⟩ := h
  cases hdb'
  exact ⟨quota, hquota, rfl⟩

/-- The gate is held: by this token and epoch, in this boot, and not past its expiry. -/
structure HoldsGate (db : Database) (quota : GlobalQuota) (token : String)
    (epoch databaseNow : Int) : Prop where
  found : db.globalQuota = some quota
  token_eq : quota.maintenanceToken = some token
  epoch_eq : quota.maintenanceEpoch = epoch
  boot_eq : quota.maintenanceDatabaseStartedAt = some db.startedAt
  unexpired : ∃ expiry, quota.maintenanceOwnerExpiresAt = some expiry ∧ databaseNow < expiry

theorem lockedGate_eq_ok {token : String} {epoch databaseNow : Int} {quota : GlobalQuota} :
    lockedGate db token epoch databaseNow = .ok quota ↔
      HoldsGate db quota token epoch databaseNow := by
  simp only [lockedGate, bind_eq_ok, demand_eq_ok, require_eq_ok, Bool.and_eq_true, beq_iff_eq,
    decide_eq_true_eq]
  constructor
  · rintro ⟨found, hfound, _, ⟨htoken, hepoch⟩, startedAt, hstarted, _, hboot, expiry, hexpiry, _,
      hnow, hquota⟩
    cases hquota
    exact ⟨hfound, htoken, hepoch, hboot ▸ hstarted, expiry, hexpiry, hnow⟩
  · rintro ⟨hfound, htoken, hepoch, hboot, expiry, hexpiry, hnow⟩
    exact ⟨quota, hfound, (), ⟨htoken, hepoch⟩, _, hboot, (), rfl, expiry, hexpiry, (), hnow, rfl⟩

theorem beginMaintenance_cases {token bucket : String} {databaseNow epoch : Int}
    (h : beginMaintenance db token bucket databaseNow = .ok (db', epoch)) :
    ∃ quota, db.globalQuota = some quota ∧ epoch = quota.maintenanceEpoch + 1 ∧
      (quota.capacityBucket = none ∨ quota.capacityBucket = some bucket) ∧
        db' = db.withQuota (begunQuota quota token bucket databaseNow db.startedAt) := by
  simp only [beginMaintenance, canonicalBucket, bind_eq_ok, demand_eq_ok] at h
  obtain ⟨_, -, _, ⟨_, -, hbucket⟩, quota, hquota, _, hledger, _, -, _, -, _, -, hresult⟩ := h
  cases hbucket
  cases hresult
  refine ⟨quota, hquota, rfl, ?_, rfl⟩
  unfold checkLedgerBucket at hledger
  split at hledger
  · exact .inl ‹_›
  · rename_i ledgerBucket hsome
    simp only [require_eq_ok, beq_iff_eq] at hledger
    exact .inr (hledger ▸ hsome)

theorem renewMaintenance_cases {token : String} {epoch databaseNow renewedAt : Int}
    (h : renewMaintenance db token epoch databaseNow renewedAt = .ok db') :
    ∃ quota, HoldsGate db quota token epoch databaseNow ∧
      db' = db.withQuota (renewedQuota quota renewedAt) := by
  simp only [renewMaintenance, bind_eq_ok, lockedGate_eq_ok] at h
  obtain ⟨quota, hgate, hdb'⟩ := h
  cases hdb'
  exact ⟨quota, hgate, rfl⟩

/-- Nothing is in flight: no target row of a known tenant, and no reserved counter. -/
structure NothingInFlight (db : Database) (quota : GlobalQuota) : Prop where
  targets : targetCount db = .ok 0
  tenants : ∃ reserved, collect (tenantReserved db) db.organizations = .ok reserved ∧
    (reserved.map Prod.fst).sum = 0 ∧ (reserved.map Prod.snd).sum = 0
  reserved_count : quota.reservedCount = 0
  reserved_bytes : quota.reservedBytes = 0

theorem finishMaintenance_cases {token : String} {epoch databaseNow : Int}
    (h : finishMaintenance db token epoch databaseNow = .ok db') :
    ∃ quota, HoldsGate db quota token epoch databaseNow ∧ NothingInFlight db quota ∧
      db' = db.withQuota (finishedQuota quota databaseNow db.startedAt) := by
  simp only [finishMaintenance, bind_eq_ok, lockedGate_eq_ok, require_eq_ok, Bool.and_eq_true,
    beq_iff_eq] at h
  obtain ⟨quota, hgate, _, -, _, -, targets, htargets, reserved, hreserved, _,
    ⟨⟨⟨⟨hzero, hbytes⟩, hcount⟩, hreservedCount⟩, hreservedBytes⟩, hdb'⟩ := h
  cases hdb'
  exact ⟨quota, hgate, ⟨hzero ▸ htargets, ⟨reserved, hreserved, hbytes, hcount⟩, hreservedCount,
    hreservedBytes⟩, rfl⟩

/-! ## Statements outside the ledger -/

theorem exists_of_map_fst {ε α β : Type} {x : Except ε (α × β)} {a : α}
    (h : x.map Prod.fst = .ok a) : ∃ b, x = .ok (a, b) := by
  cases x with
  | error e => cases h
  | ok pair =>
    cases h
    exact ⟨pair.2, rfl⟩

/-- The ledger tables and the boot are the same. -/
structure SameLedger (db db' : Database) : Prop where
  startedAt : db'.startedAt = db.startedAt
  globalQuota : db'.globalQuota = db.globalQuota
  tenantQuotas : db'.tenantQuotas = db.tenantQuotas
  storedObjects : db'.storedObjects = db.storedObjects
  tombstones : db'.tombstones = db.tombstones

theorem writeReference_cases {reference : DomainReference}
    (h : writeReference db reference = .ok db') :
    (db.storedObject reference.organizationId reference.objectKey).isSome = true ∧
      db' = { db with references := (db.references.filter fun other =>
        !(other.origin.table = reference.origin.table && other.id == reference.id)) ++
          [reference] } := by
  simp only [writeReference, bind_eq_ok, require_eq_ok] at h
  obtain ⟨_, hfound, hdb'⟩ := h
  cases hdb'
  exact ⟨hfound, rfl⟩

theorem insertJob_cases {job : JobRow} {now : Int} (h : insertJob db job now = .ok db') :
    (∀ other ∈ db.generationJobs, other.id ≠ job.id) ∧
      enforceGenerationLiveness db job now = .ok () ∧
      db' = { db with generationJobs := db.generationJobs ++ [job] } := by
  simp only [insertJob, bind_eq_ok, require_eq_ok, Bool.not_eq_true', List.any_eq_false,
    beq_iff_eq] at h
  obtain ⟨_, hfresh, _, hlive, hdb'⟩ := h
  cases hdb'
  exact ⟨hfresh, hlive, rfl⟩

def Database.withJobs (db : Database) (jobs : List JobRow) : Database :=
  { db with generationJobs := jobs }

/-- The jobs of an update. -/
def isJob (organizationId id : String) (job : JobRow) : Bool :=
  job.organizationId == organizationId && job.id == id

theorem updateJob_cases {organizationId id : String} {status : Jobs.JobStatus}
    {leaseExpiresAt : Option Int} {now : Int}
    (h : updateJob db organizationId id status leaseExpiresAt now = .ok db') :
    (∀ job ∈ db.generationJobs, isJob organizationId id job = true →
      enforceGenerationLiveness db (job.withState status leaseExpiresAt) now = .ok ()) ∧
      db' = db.withJobs (Table.modify (isJob organizationId id)
        (fun job => job.withState status leaseExpiresAt) db.generationJobs) := by
  simp only [updateJob, bind_eq_ok, forEach_eq_ok] at h
  obtain ⟨_, hlive, hdb'⟩ := h
  cases hdb'
  exact ⟨fun job hjob hid => hlive job (List.mem_filter.mpr ⟨hjob, hid⟩), rfl⟩

theorem insertDesignVersion_cases {version : DesignVersionRow}
    (h : insertDesignVersion db version = .ok db') :
    (∀ other ∈ db.designVersions, other.id ≠ version.id) ∧
      db' = { db with designVersions := db.designVersions ++ [version] } := by
  simp only [insertDesignVersion, bind_eq_ok, require_eq_ok, Bool.not_eq_true', List.any_eq_false,
    beq_iff_eq] at h
  obtain ⟨_, hfresh, hdb'⟩ := h
  cases hdb'
  exact ⟨hfresh, rfl⟩

/-- The statements that write no ledger table. -/
def Statement.isOutside : Statement → Bool
  | .snapshotMaintenance .. | .writeReference .. | .deleteReference .. | .insertJob ..
  | .updateJob .. | .insertOrganization .. | .insertProject .. | .insertDesignVersion .. => true
  | _ => false

theorem execute_sameLedger {statement : Statement} (houtside : statement.isOutside = true)
    (h : execute cluster db statement = .ok db') : SameLedger db db' := by
  cases statement <;> try cases houtside
  case snapshotMaintenance token epoch now =>
    simp only [execute] at h
    cases hsnapshot : snapshotMaintenance db token epoch now with
    | error e =>
      rw [hsnapshot] at h
      cases h
    | ok snapshot =>
      rw [hsnapshot] at h
      cases h
      exact ⟨rfl, rfl, rfl, rfl, rfl⟩
  case writeReference reference =>
    obtain ⟨-, rfl⟩ := writeReference_cases h
    exact ⟨rfl, rfl, rfl, rfl, rfl⟩
  case deleteReference table id =>
    cases h
    exact ⟨rfl, rfl, rfl, rfl, rfl⟩
  case insertJob job now =>
    obtain ⟨-, -, rfl⟩ := insertJob_cases h
    exact ⟨rfl, rfl, rfl, rfl, rfl⟩
  case updateJob organizationId id status leaseExpiresAt now =>
    obtain ⟨-, rfl⟩ := updateJob_cases h
    exact ⟨rfl, rfl, rfl, rfl, rfl⟩
  case insertOrganization id =>
    cases h
    exact ⟨rfl, rfl, rfl, rfl, rfl⟩
  case insertProject organizationId id =>
    cases h
    exact ⟨rfl, rfl, rfl, rfl, rfl⟩
  case insertDesignVersion version =>
    obtain ⟨-, rfl⟩ := insertDesignVersion_cases h
    exact ⟨rfl, rfl, rfl, rfl, rfl⟩

end Custombuild.Storage
