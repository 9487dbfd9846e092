/-
  Reaping never destroys live data.  A key that a reaper may delete is doomed: its row is in
  reaping or a tombstone retires it.  Nothing revives a doomed key, so that a DELETE is
  harmless however late it is executed; and no row that a reference or a live job needs ever
  becomes doomed.
-/
import Custombuild.Storage.Backfilled
import Custombuild.Storage.Lifecycle
import Custombuild.Storage.Reaper

namespace Custombuild.Storage

open Custombuild.Lib

/-! ## The ledger -/

/-- A statement that could bind the ledger to a bucket names this one. -/
def Statement.names (bucket : String) : Statement → Bool
  | .attest call => call.capacityBucket == bucket
  | .beginMaintenance _ named _ => named == bucket
  | _ => true

def Action.names (bucket : String) : Action → Bool
  | .transaction statements => statements.all fun statement => statement.names bucket
  | .restart _ => true

/-- What holds of the ledger in every state, also inside a transaction. -/
structure Safe (bucket : String) (db : Database) : Prop where
  consistent : db.Consistent
  bound : ∀ quota, db.globalQuota = some quota →
    quota.capacityBucket = none ∨ quota.capacityBucket = some bucket
  tombstones : ∀ tombstone ∈ db.tombstones, tombstone.capacityBucket = bucket
  retired : ∀ tombstone ∈ db.tombstones, ∀ row ∈ db.storedObjects,
    row.objectKey ≠ tombstone.objectKey
  unowned : ∀ row ∈ db.storedObjects, row.state = .reaping → row.ownerType = "generation_job" →
    ∀ job ∈ db.generationJobs, job.organizationId = row.organizationId → job.id = row.ownerId →
      job.status ≠ .queued ∧ job.status ≠ .running

/-- The key is in reaping, or was retired. -/
def Doomed (db : Database) (objectKey : String) : Prop :=
  (∃ row ∈ db.storedObjects, row.objectKey = objectKey ∧ row.state = .reaping) ∨
    ∃ tombstone ∈ db.tombstones, tombstone.objectKey = objectKey

section Ledger

variable {cluster : Cluster} {bucket : String} {db db' : Database} {statement : Statement}

/-- Every row under a doomed key is in reaping. -/
theorem Safe.state_of_doomed (h : Safe bucket db) {objectKey : String} (hdoomed : Doomed db objectKey)
    {row : StoredObject} (hrow : row ∈ db.storedObjects) (hkey : row.objectKey = objectKey) :
    row.state = .reaping := by
  rcases hdoomed with ⟨reaping, hreaping, hsame, hstate⟩ | ⟨tombstone, htombstone, hsame⟩
  · rw [h.consistent.rows.eq_of_key hrow hreaping (hkey.trans hsame.symm)]
    exact hstate
  · exact absurd (hkey.trans hsame.symm) (h.retired tombstone htombstone row hrow)

/-- No statement revives a doomed key. -/
theorem RowsStep.doomed (h : RowsStep db db') {objectKey : String} (hdoomed : Doomed db objectKey) :
    Doomed db' objectKey := by
  rcases hdoomed with ⟨row, hrow, hkey, hstate⟩ | ⟨tombstone, htombstone, hkey⟩
  · rcases h.fate row hrow with ⟨row', hrow', hcontinues⟩ | ⟨tombstone, hretired⟩
    · refine .inl ⟨row', hrow', ?_, ?_⟩
      · exact (congrArg StorageObjectClaim.objectKey hcontinues.claim).trans hkey
      · rcases hcontinues.moves with hsame | ⟨hreserved, -⟩ | ⟨hreaping, -⟩
        · exact hsame.trans hstate
        · rw [hstate] at hreserved
          cases hreserved
        · exact hreaping
    · exact .inr ⟨tombstone, hretired.kept, hretired.objectKey.trans hkey⟩
  · exact .inr ⟨tombstone, h.kept tombstone htombstone, hkey⟩

/-! ## Jobs -/

/-- A live job that passes the trigger owns nothing in reaping. -/
theorem state_of_enforceGenerationLiveness {job : JobRow} {now : Int} {u : Unit}
    (h : enforceGenerationLiveness db job now = .ok u)
    (hlive : job.status = .queued ∨ job.status = .running) {row : StoredObject}
    (hrow : row ∈ db.storedObjects) (horganization : job.organizationId = row.organizationId)
    (htype : row.ownerType = "generation_job") (howner : job.id = row.ownerId) :
    row.state ≠ .reaping := by
  intro hstate
  have hisLive : job.isLive now = true := by
    rcases hlive with hstatus | hstatus <;> simp [JobRow.isLive, hstatus]
  have howned : row ∈ db.ownedRows job.organizationId job.id := by
    unfold Database.ownedRows
    rw [List.mem_filter]
    exact ⟨hrow, by simp [horganization, htype, howner]⟩
  unfold enforceGenerationLiveness at h
  rw [if_pos hisLive] at h
  simp only [bind_eq_ok, require_eq_ok, decide_eq_true_eq] at h
  obtain ⟨delays, hdelays, hretry⟩ := h
  obtain ⟨delay, hdelay, hrowDelay⟩ := collect_mem hdelays howned
  -- the row asks for a delay of at least a second
  unfold livenessDelay at hrowDelay
  simp only [hstate, if_true, bind_eq_ok, require_eq_ok, demand_eq_ok, Bool.and_eq_true,
    decide_eq_true_eq] at hrowDelay
  obtain ⟨_, -, expiry, -, _, ⟨hone, -⟩, hvalue⟩ := hrowDelay
  cases hvalue
  have hmax : (0 :: delays).max? = some (delays.foldl max 0) := rfl
  have hle := (List.max?_eq_some_iff.mp hmax).2 _ (List.mem_cons_of_mem _ hdelay)
  omega

theorem unowned_of_hasLiveOwner {row : StoredObject} {now : Int}
    (h : db.hasLiveOwner row now = false) (htype : row.ownerType = "generation_job") {job : JobRow}
    (hjob : job ∈ db.generationJobs) (horganization : job.organizationId = row.organizationId)
    (howner : job.id = row.ownerId) : job.status ≠ .queued ∧ job.status ≠ .running := by
  simp only [Database.hasLiveOwner, htype, beq_self_eq_true, Bool.true_and, List.any_eq_false,
    Bool.and_eq_true, beq_iff_eq, not_and] at h
  have hnot := h job hjob ⟨horganization, howner⟩
  constructor
  · intro hstatus
    exact hnot (by simp [JobRow.isLive, hstatus])
  · intro hstatus
    exact hnot (by simp [JobRow.isLive, hstatus])

/-- Every job after a statement was there before it, or passed the trigger. -/
theorem execute_jobs (houtside : statement.isOutside = true)
    (h : execute cluster db statement = .ok db') {job : JobRow} (hjob : job ∈ db'.generationJobs) :
    job ∈ db.generationJobs ∨ ∃ now, enforceGenerationLiveness db job now = .ok () := by
  cases statement <;> try cases houtside
  case snapshotMaintenance token epoch now =>
    cases hsnapshot : snapshotMaintenance db token epoch now <;>
      simp only [execute, hsnapshot, Except.map] at h <;> cases h
    exact .inl hjob
  case writeReference reference =>
    obtain ⟨-, rfl⟩ := writeReference_cases h
    exact .inl hjob
  case deleteReference table id =>
    cases h
    exact .inl hjob
  case insertJob new now =>
    obtain ⟨-, hlive, rfl⟩ := insertJob_cases h
    rcases List.mem_append.mp hjob with hold | hnew
    · exact .inl hold
    · rw [List.mem_singleton.mp hnew]
      exact .inr ⟨now, hlive⟩
  case updateJob organizationId id status leaseExpiresAt now =>
    obtain ⟨hlive, rfl⟩ := updateJob_cases h
    obtain ⟨old, hold, rfl⟩ := Table.mem_modify.mp hjob
    split
    · exact .inr ⟨now, hlive old hold ‹_›⟩
    · exact .inl hold
  case insertOrganization id =>
    cases h
    exact .inl hjob
  case insertProject organizationId id =>
    cases h
    exact .inl hjob
  case insertDesignVersion version =>
    obtain ⟨-, rfl⟩ := insertDesignVersion_cases h
    exact .inl hjob

theorem execute_unowned (h : execute cluster db statement = .ok db') (hsafe : Safe bucket db)
    {row' : StoredObject} (hrow' : row' ∈ db'.storedObjects) (hstate : row'.state = .reaping)
    (htype : row'.ownerType = "generation_job") {job : JobRow} (hjob : job ∈ db'.generationJobs)
    (horganization : job.organizationId = row'.organizationId) (howner : job.id = row'.ownerId) :
    job.status ≠ .queued ∧ job.status ≠ .running := by
  by_cases houtside : statement.isOutside = true
  · -- the rows are those the trigger saw
    rw [(execute_sameLedger houtside h).storedObjects] at hrow'
    rcases execute_jobs houtside h hjob with hold | ⟨now, hlive⟩
    · exact hsafe.unowned row' hrow' hstate htype job hold horganization howner
    · constructor
      · intro hstatus
        exact state_of_enforceGenerationLiveness hlive (.inl hstatus) hrow' horganization htype
          howner hstate
      · intro hstatus
        exact state_of_enforceGenerationLiveness hlive (.inr hstatus) hrow' horganization htype
          howner hstate
  · rw [(execute_sameDomain houtside h hsafe.consistent).generationJobs] at hjob
    rcases (execute_rowsStep h hsafe.consistent).origin row' hrow' with
      ⟨row, hrow, hcontinues⟩ | hnew
    · have htype' : row.ownerType = "generation_job" :=
        (congrArg StorageObjectClaim.ownerType hcontinues.claim).symm.trans htype
      have howner' : job.id = row.ownerId :=
        howner.trans (congrArg StorageObjectClaim.ownerId hcontinues.claim)
      have horganization' := horganization.trans hcontinues.organization
      rcases hcontinues.moves with hsame | ⟨-, hcommitted⟩ | ⟨-, -, now, hunowned⟩
      · exact hsafe.unowned row hrow (hsame.symm.trans hstate) htype' job hjob horganization' howner'
      · rw [hstate] at hcommitted
        cases hcommitted
      · exact unowned_of_hasLiveOwner hunowned htype' hjob horganization' howner'
    · rw [hnew.reserved] at hstate
      cases hstate

/-! ## Statements -/

/-- The bucket of the ledger changes only by an attestation or by the first recovery. -/
theorem execute_bound (h : execute cluster db statement = .ok db') (hsafe : Safe bucket db)
    (hnames : statement.names bucket = true) {quota' : GlobalQuota}
    (hquota' : db'.globalQuota = some quota') :
    quota'.capacityBucket = none ∨ quota'.capacityBucket = some bucket := by
  have hcolumn {quota : GlobalQuota} (hquota : db.globalQuota = some quota)
      (hsame : quota'.capacityBucket = quota.capacityBucket) :
      quota'.capacityBucket = none ∨ quota'.capacityBucket = some bucket := by
    rw [hsame]
    exact hsafe.bound quota hquota
  have hdb := hsafe.consistent
  by_cases houtside : statement.isOutside = true
  · rw [(execute_sameLedger houtside h).globalQuota] at hquota'
    exact hsafe.bound quota' hquota'
  cases statement <;> try exact absurd rfl houtside
  case reserve call =>
    obtain ⟨reservation, hreserve⟩ := exists_of_map_fst h
    obtain ⟨claims, base, quota, tenant, expiry, hreserved, rfl⟩ :=
      reserveBatch_cases hreserve hdb.rows
    have hbase : base.globalQuota = some quota := by
      rcases insertTenantQuotaIfMissing_cases hreserved.base_eq with ⟨rfl, -⟩ | ⟨-, -, rfl⟩
      · exact hreserved.quota_found
      · exact hreserved.quota_found
    unfold reservedDatabase at hquota'
    simp only at hquota'
    split at hquota'
    · cases hquota'
      exact hcolumn hreserved.quota_found rfl
    · obtain rfl : quota = quota' := Option.some.inj (hbase.symm.trans hquota')
      exact hcolumn hreserved.quota_found rfl
  case renew call =>
    obtain ⟨claims, expiry, -, rfl⟩ := renewBatch_cases h hdb.rows
    exact hcolumn hquota' rfl
  case commit call =>
    obtain ⟨claims, quota, tenant, bytes, count, hcommitted, rfl⟩ := commitBatch_cases h hdb.rows
    split at hquota'
    · cases hquota'
      exact hcolumn hcommitted.quota_found rfl
    · exact hcolumn hquota' rfl
  case claimReap call =>
    obtain ⟨claims, hclaim⟩ := exists_of_map_fst h
    obtain ⟨p, token, expiry, -, -, rfl⟩ := claimReap_cases hclaim hdb.rows
    exact hcolumn hquota' rfl
  case finalizeReap call =>
    obtain ⟨kind, quota, tenant, row, hfinal, rfl⟩ := finalizeReap_cases h hdb.rows
    cases kind
    · cases hquota'
      exact hcolumn hfinal.quota_found rfl
    · cases hquota'
      exact hcolumn hfinal.quota_found rfl
  case attest call =>
    obtain ⟨quota, -, -, -, -, rfl⟩ := attestCapacity_cases h
    cases hquota'
    exact .inr (congrArg some (beq_iff_eq.mp hnames))
  case invalidate sha256 now =>
    obtain ⟨quota, hquota, rfl⟩ := invalidateCapacity_cases h
    cases hquota'
    exact hcolumn hquota rfl
  case beginMaintenance token named now =>
    obtain ⟨epoch, hbegin⟩ := exists_of_map_fst h
    obtain ⟨quota, hquota, -, -, rfl⟩ := beginMaintenance_cases hbegin
    cases hquota'
    rcases hsafe.bound quota hquota with hnone | hsome
    · refine .inr ?_
      show quota.capacityBucket.or (some named) = some bucket
      rw [hnone, Option.none_or, beq_iff_eq.mp hnames]
    · refine .inr ?_
      show quota.capacityBucket.or (some named) = some bucket
      rw [hsome]
      rfl
  case renewMaintenance token epoch now renewedAt =>
    obtain ⟨quota, hgate, rfl⟩ := renewMaintenance_cases h
    cases hquota'
    exact hcolumn hgate.found rfl
  case finishMaintenance token epoch now =>
    obtain ⟨quota, hgate, -, rfl⟩ := finishMaintenance_cases h
    cases hquota'
    exact hcolumn hgate.found rfl

/-- In a bound ledger every tombstone retires its identity. -/
theorem Safe.retires (h : Safe bucket db) {tombstone : Tombstone} (hmem : tombstone ∈ db.tombstones)
    {quota : GlobalQuota} (hquota : db.globalQuota = some quota)
    (hbound : quota.capacityBucket.isSome = true) : Retires db tombstone := by
  refine ⟨quota, hquota, ?_⟩
  rw [h.tombstones tombstone hmem]
  rcases h.bound quota hquota with hnone | hsome
  · rw [hnone] at hbound
    cases hbound
  · exact hsome

theorem execute_safe (h : execute cluster db statement = .ok db') (hsafe : Safe bucket db)
    (hnames : statement.names bucket = true) : Safe bucket db' := by
  have hstep := execute_rowsStep h hsafe.consistent
  refine ⟨execute_consistent h hsafe.consistent, fun quota' => execute_bound h hsafe hnames,
    fun tombstone hmem => ?_, fun tombstone hmem row' hrow' => ?_,
    fun row' hrow' hstate htype job hjob => execute_unowned h hsafe hrow' hstate htype hjob⟩
  · rcases hstep.retired tombstone hmem with hold | ⟨row, -, hretired⟩
    · exact hsafe.tombstones tombstone hold
    · obtain ⟨quota, hquota, hbucket⟩ := hretired.bucket
      rcases hsafe.bound quota hquota with hnone | hsome
      · rw [hnone] at hbucket
        cases hbucket
      · exact Option.some.inj (hbucket.symm.trans hsome)
  · rcases hstep.retired tombstone hmem with hold | ⟨row, -, hretired⟩
    · rcases hstep.origin row' hrow' with ⟨row, hrow, hcontinues⟩ | hnew
      · have hkey : row'.objectKey = row.objectKey :=
          congrArg StorageObjectClaim.objectKey hcontinues.claim
        rw [hkey]
        exact hsafe.retired tombstone hold row hrow
      · obtain ⟨quota, hquota, hbound⟩ := hnew.bound
        exact (hnew.unretired tombstone hold (hsafe.retires hold hquota hbound)).symm
    · exact hretired.removed row' hrow'

end Ledger

end Custombuild.Storage
