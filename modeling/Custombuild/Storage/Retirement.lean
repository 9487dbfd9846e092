/-
  Retired keys on both ledgers, and the two ledgers side by side.  A finalized reap leaves a
  tombstone that nothing removes; a reservation reads the tombstones of the bucket the ledger
  is bound to.
-/
import Custombuild.Storage.Ledger
import Custombuild.Storage.Parity

namespace Custombuild.Storage

open Custombuild.Lib

/-- The claim has the key or the idempotency key of the row. -/
def Names (claim : StorageObjectClaim) (row : StoredObject) : Prop :=
  claim.objectKey = row.objectKey ∨ claim.idempotencyKey = row.idempotencyKey

theorem isRetired_of_mem {tombstones : List Tombstone} {tombstone : Tombstone}
    {claim : StorageObjectClaim} (hmem : tombstone ∈ tombstones)
    (hkeys : tombstone.objectKey = claim.objectKey ∨
      tombstone.idempotencyKey = claim.idempotencyKey) :
    isRetired tombstones (some tombstone.capacityBucket) claim = true := by
  unfold isRetired
  rw [List.any_eq_true]
  exact ⟨tombstone, hmem, by simpa using hkeys⟩

/-! ## PostgreSQL -/

section Postgresql

variable {cluster : Cluster} {db : Database}

theorem unretired_of_reserveClaims {bucket : Option String} {call : ReserveCall} {expiry : Int}
    {claims : List StorageObjectClaim} {progress progress' : ReserveProgress}
    (h : reserveClaims db bucket call expiry progress claims = .ok progress') :
    ∀ c ∈ claims, isRetired db.tombstones bucket c = false := by
  induction claims generalizing progress with
  | nil =>
    intro c hc
    cases hc
  | cons claim claims ih =>
    simp only [reserveClaims, reserveClaim, bind_eq_ok, require_eq_ok, Bool.not_eq_true'] at h
    obtain ⟨next, ⟨_, hclaim, -⟩, hrest⟩ := h
    exact List.forall_mem_cons.mpr ⟨hclaim, ih hrest⟩

/-- A reservation that names a retired key is refused. -/
theorem reserveBatch_of_isRetired {call : ReserveCall} {claims : List StorageObjectClaim}
    (hclaims : assertClaims cluster call.claims = .ok claims) {quota : GlobalQuota}
    (hquota : db.globalQuota = some quota) {claim : StorageObjectClaim} (hclaim : claim ∈ claims)
    (hretired : isRetired db.tombstones quota.capacityBucket claim = true) :
    ∃ e, reserveBatch cluster db call = .error e := by
  cases h : reserveBatch cluster db call with
  | error e => exact ⟨e, rfl⟩
  | ok outcome =>
    simp only [reserveBatch, bind_eq_ok, demand_eq_ok] at h
    obtain ⟨_, -, _, -, parsed, hparsed, _, -, found, hfound, _, -, base, hbase, _, -, progress,
      hloop, -⟩ := h
    obtain rfl : claims = parsed := Except.ok.inj (hclaims.symm.trans hparsed)
    obtain rfl : quota = found := Option.some.inj (hquota.symm.trans hfound)
    have htombstones : base.tombstones = db.tombstones := by
      rcases insertTenantQuotaIfMissing_cases hbase with ⟨rfl, -⟩ | ⟨-, -, rfl⟩
      · rfl
      · rfl
    have hunretired := unretired_of_reserveClaims hloop claim (mem_orderedClaims.mpr hclaim)
    rw [htombstones, hretired] at hunretired
    cases hunretired

/-- No transaction and no restart removes a tombstone. -/
theorem stateAt_tombstone (hdb : db.Consistent) {tombstone : Tombstone}
    (h : tombstone ∈ db.tombstones) (actions : List Action) (k : Nat) :
    tombstone ∈ (stateAt (step cluster) db actions k).tombstones := by
  refine (stateAt_invariant (I := fun state : Database => state.Consistent ∧ tombstone ∈ state.tombstones)
    ⟨hdb, h⟩ (fun state hstate action _ => ?_) k).2
  refine step_invariant (I := fun state : Database => state.Consistent ∧ tombstone ∈ state.tombstones)
    (fun hexecute hI => ?_) (fun hI => ?_) hstate action
  · exact ⟨execute_consistent hexecute hI.1, (execute_rowsStep hexecute hI.1).kept _ hI.2⟩
  · exact ⟨hI.1.of_rows hI.1.rows rfl (fun row hrow => ⟨row, hrow, rfl⟩) (fun _ _ => rfl)
      hI.1.quota, hI.2⟩

/-- What a reap retires is refused in every later state of the ledger in that bucket. -/
theorem reserveBatch_after_finalizeReap (hdb : db.Consistent) {call : FinalizeReapCall}
    {db₁ : Database} (hfinalize : finalizeReap cluster db call = .ok db₁) {row : StoredObject}
    (hrow : db.storedObject call.organizationId call.objectKey = some row)
    {claim : StorageObjectClaim} (hnames : Names claim row) (actions : List Action) (k : Nat)
    {quota : GlobalQuota}
    (hquota : (stateAt (step cluster) db₁ actions k).globalQuota = some quota)
    (hbucket : quota.capacityBucket = some call.capacityBucket) {reserve : ReserveCall}
    {claims : List StorageObjectClaim}
    (hclaims : assertClaims cluster reserve.claims = .ok claims) (hclaim : claim ∈ claims) :
    ∃ e, reserveBatch cluster (stateAt (step cluster) db₁ actions k) reserve = .error e := by
  have hdb₁ := finalizeReap_consistent hfinalize hdb
  obtain ⟨kind, before, tenant, found, hfinalized, hdb₁eq⟩ := finalizeReap_cases hfinalize hdb.rows
  have hfound : found = row := by
    obtain ⟨horganization, hkey⟩ := by simpa using List.find?_some hrow
    exact hdb.rows.eq_of_key hfinalized.row_mem (List.mem_of_find?_eq_some hrow)
      (hfinalized.row_key.trans hkey.symm)
  have hmem : tombstoneOf row kind call ∈ db₁.tombstones := by
    rw [hdb₁eq, hfound]
    unfold finalizedDatabase
    cases kind <;> exact List.mem_append_right _ (List.mem_singleton_self _)
  refine reserveBatch_of_isRetired hclaims hquota hclaim ?_
  rw [hbucket]
  exact isRetired_of_mem (stateAt_tombstone hdb₁ hmem actions k) (hnames.imp Eq.symm Eq.symm)

end Postgresql

/-! ## SQLite -/

/-- One transaction on the SQLite ledger; everything else the application writes leaves the
    tombstones alone. -/
inductive SqliteStep (db : Database) : Database → Prop where
  | reserve {request : StorageRequest} {db' : Database} {reservation : StorageReservation}
      (h : reserveSqlite db request = .ok (db', reservation)) : SqliteStep db db'
  | renew {request : StorageRequest} {db' : Database} (h : renewSqlite db request = .ok db') :
      SqliteStep db db'
  | commit {request : StorageRequest} {db' : Database} (h : commitSqlite db request = .ok db') :
      SqliteStep db db'
  | finalize {claim : StorageReapClaim} {bucket : String} {now : Int} {db' : Database}
      (h : finalizeSqlite db claim bucket now = .ok db') : SqliteStep db db'
  | other {db' : Database} (h : db'.tombstones = db.tombstones) : SqliteStep db db'

section Sqlite

variable {db db' : Database}

theorem reserveSqlite_tombstones {request : StorageRequest} {reservation : StorageReservation}
    (h : reserveSqlite db request = .ok (db', reservation)) : db'.tombstones = db.tombstones := by
  simp only [reserveSqlite, bind_eq_ok, demand_eq_ok] at h
  obtain ⟨_, -, claims, -, _, -, quota, -, _, -, _, -, ⟨rows, leased, inserted⟩, -, charged,
    hcounters, houtcome⟩ := h
  cases houtcome
  have hbase : (withTenantQuota db request.organizationId).tombstones = db.tombstones := by
    rw [withTenantQuota_frame]
  rw [← hbase]
  unfold reserveCounters at hcounters
  split at hcounters
  · cases hcounters
    rfl
  · simp only [bind_eq_ok] at hcounters
    obtain ⟨_, -, _, -, _, -, hcharged⟩ := hcounters
    cases hcharged
    rfl

theorem renewSqlite_tombstones {request : StorageRequest} (h : renewSqlite db request = .ok db') :
    db'.tombstones = db.tombstones := by
  simp only [renewSqlite, bind_eq_ok] at h
  obtain ⟨_, -, _, -, _, -, _, -, hdb'⟩ := h
  cases hdb'
  rfl

theorem commitSqlite_tombstones {request : StorageRequest} (h : commitSqlite db request = .ok db') :
    db'.tombstones = db.tombstones := by
  simp only [commitSqlite, commitReserved, bind_eq_ok] at h
  obtain ⟨_, -, _, -, _, -, reserved, -, charged, hcounters, hdb'⟩ := h
  cases hdb'
  show charged.tombstones = db.tombstones
  unfold commitCounters at hcounters
  split at hcounters
  · cases hcounters
    rfl
  · simp only [bind_eq_ok] at hcounters
    obtain ⟨_, -, _, -, _, -, _, -, hcharged⟩ := hcounters
    cases hcharged
    rfl

/-- A finalization keeps the tombstones and adds that of its row. -/
theorem finalizeSqlite_tombstones {claim : StorageReapClaim} {bucket : String} {now : Int}
    (h : finalizeSqlite db claim bucket now = .ok db') :
    ∃ row tombstone, db.storedObject claim.organizationId claim.objectKey = some row ∧
      tombstone.capacityBucket = bucket ∧ tombstone.objectKey = row.objectKey ∧
      tombstone.idempotencyKey = row.idempotencyKey ∧
      db'.tombstones = db.tombstones ++ [tombstone] := by
  simp only [finalizeSqlite, bind_eq_ok, demand_eq_ok, databaseError_eq_ok] at h
  obtain ⟨row, hrow, _, -, _, -, _, -, quota, -, tenant, -, released, hreleased, hdb'⟩ := h
  cases hdb'
  refine ⟨row, tombstoneOf row claim.counterKind ⟨claim.organizationId, claim.organizationId,
    claim.objectKey, claim.sha256, claim.sizeBytes, claim.claimToken, bucket, now⟩, hrow, rfl, rfl,
    rfl, ?_⟩
  rcases releaseCounters_cases hreleased with ⟨-, rfl⟩ | ⟨-, rfl⟩
  · rfl
  · rfl

theorem SqliteStep.kept (h : SqliteStep db db') {tombstone : Tombstone}
    (hmem : tombstone ∈ db.tombstones) : tombstone ∈ db'.tombstones := by
  cases h with
  | reserve h =>
    rw [reserveSqlite_tombstones h]
    exact hmem
  | renew h =>
    rw [renewSqlite_tombstones h]
    exact hmem
  | commit h =>
    rw [commitSqlite_tombstones h]
    exact hmem
  | finalize h =>
    obtain ⟨_, _, -, -, -, -, htombstones⟩ := finalizeSqlite_tombstones h
    rw [htombstones]
    exact List.mem_append_left _ hmem
  | other h =>
    rw [h]
    exact hmem

theorem reserveSqlite_of_isRetired {request : StorageRequest} {quota : GlobalQuota}
    (hquota : db.globalQuota = some quota) {claim : StorageObjectClaim}
    (hclaim : claim ∈ request.claims)
    (hretired : isRetired db.tombstones quota.capacityBucket claim = true) :
    ∃ e, reserveSqlite db request = .error e := by
  cases h : reserveSqlite db request with
  | error e => exact ⟨e, rfl⟩
  | ok outcome =>
    simp only [reserveSqlite, bind_eq_ok, demand_eq_ok, require_eq_ok] at h
    obtain ⟨_, -, claims, hclaims, _, -, found, hfound, _, -, _, hunretired, -⟩ := h
    obtain rfl : quota = found := Option.some.inj (hquota.symm.trans hfound)
    have hmem := ((normalizedClaims_cases hclaims).mem_iff claim).mpr hclaim
    have hall : ∀ c ∈ claims, isRetired db.tombstones quota.capacityBucket c = false := by
      simpa using hunretired
    rw [hall claim hmem] at hretired
    cases hretired

/-- What a reap retires is refused in every later state of the SQLite ledger in that bucket. -/
theorem reserveSqlite_after_finalizeSqlite {reap : StorageReapClaim} {bucket : String} {now : Int}
    {db₁ db₂ : Database} (hfinalize : finalizeSqlite db reap bucket now = .ok db₁)
    {row : StoredObject} (hrow : db.storedObject reap.organizationId reap.objectKey = some row)
    {claim : StorageObjectClaim} (hnames : Names claim row)
    (hrun : Relation.ReflTransGen SqliteStep db₁ db₂) {quota : GlobalQuota}
    (hquota : db₂.globalQuota = some quota) (hbucket : quota.capacityBucket = some bucket)
    {request : StorageRequest} (hclaim : claim ∈ request.claims) :
    ∃ e, reserveSqlite db₂ request = .error e := by
  obtain ⟨found, tombstone, hfound, hin, hkey, hidentity, htombstones⟩ :=
    finalizeSqlite_tombstones hfinalize
  obtain rfl : row = found := Option.some.inj (hrow.symm.trans hfound)
  have hkept : tombstone ∈ db₂.tombstones := by
    clear hquota
    induction hrun with
    | refl =>
      rw [htombstones]
      exact List.mem_append_right _ (List.mem_singleton_self _)
    | tail _ hstep ih => exact hstep.kept ih
  refine reserveSqlite_of_isRetired hquota hclaim ?_
  rw [hbucket, ← hin]
  exact isRetired_of_mem hkept (hnames.imp (hkey.trans ·.symm) (hidentity.trans ·.symm))

end Sqlite

/-! ## The two ledgers -/

/-- On every ledger the schema admits, a canonical request of a known tenant on known projects
    has the same outcome on SQLite and on PostgreSQL wherever the capacity and recovery fences
    pass; and on each of them a reservation that names what a reap retired in the bucket of the
    ledger is refused. -/
theorem sqlite_agrees_with_postgresql (cluster : Cluster) :
    (∀ (db : Database) (request : StorageRequest) (quota : GlobalQuota) (fenceAt : Int),
      LedgerOk db → CanonicalRequest cluster db request → db.globalQuota = some quota →
      FencesPass quota db.startedAt fenceAt →
        SameOutcome SameReservation (reserveSqlite db request)
          (reservePostgresql cluster db request fenceAt) ∧
        SameOutcome SameState (renewSqlite db request) (renewPostgresql cluster db request) ∧
        SameOutcome SameState (commitSqlite db request) (commitPostgresql cluster db request)) ∧
    (∀ (db db₁ : Database) (call : FinalizeReapCall) (row : StoredObject)
        (claim : StorageObjectClaim) (actions : List Action) (k : Nat) (quota : GlobalQuota)
        (reserve : ReserveCall) (claims : List StorageObjectClaim),
      db.Consistent → finalizeReap cluster db call = .ok db₁ →
      db.storedObject call.organizationId call.objectKey = some row → Names claim row →
      (stateAt (step cluster) db₁ actions k).globalQuota = some quota →
      quota.capacityBucket = some call.capacityBucket →
      assertClaims cluster reserve.claims = .ok claims → claim ∈ claims →
        ∃ e, reserveBatch cluster (stateAt (step cluster) db₁ actions k) reserve = .error e) ∧
    (∀ (db db₁ db₂ : Database) (reap : StorageReapClaim) (bucket : String) (now : Int)
        (row : StoredObject) (claim : StorageObjectClaim) (quota : GlobalQuota)
        (request : StorageRequest),
      finalizeSqlite db reap bucket now = .ok db₁ →
      db.storedObject reap.organizationId reap.objectKey = some row → Names claim row →
      Relation.ReflTransGen SqliteStep db₁ db₂ → db₂.globalQuota = some quota →
      quota.capacityBucket = some bucket → claim ∈ request.claims →
        ∃ e, reserveSqlite db₂ request = .error e) := by
  refine ⟨fun db request quota fenceAt hdb hrequest hquota hpass => ?_, ?_, ?_⟩
  · exact ⟨reserve_sameOutcome hdb hrequest hquota hpass, renew_sameOutcome hdb hrequest,
      commit_sameOutcome hdb hrequest⟩
  · intro db db₁ call row claim actions k quota reserve claims hdb hfinalize hrow hnames hquota
      hbucket hclaims hclaim
    exact reserveBatch_after_finalizeReap hdb hfinalize hrow hnames actions k hquota hbucket hclaims
      hclaim
  · intro db db₁ db₂ reap bucket now row claim quota request hfinalize hrow hnames hrun hquota
      hbucket hclaim
    exact reserveSqlite_after_finalizeSqlite hfinalize hrow hnames hrun hquota hbucket hclaim

namespace Sample

/-- The evidence of another bucket. -/
def moved (bytes count now : Int) : AttestCapacityCall :=
  { attestation bytes count now with capacityBucket := "bucket-2" }

def upload2 : String := "88888888-8888-4888-8888-888888888888"

def uploadClaim (projectId id key : String) : StorageObjectClaim :=
  ⟨projectId, key, sha256, 20, "image/png", "imported_asset", id, "imported:" ++ id⟩

/-- A request of a tenant for uploads to one of its projects. -/
def request (organizationId projectId : String) (duration now : Int) : StorageRequest :=
  ⟨organizationId, [uploadClaim projectId upload "assets/b", uploadClaim projectId upload2 "assets/c"],
    lease, duration, now⟩

/-- The ledger after the migration and the first attestation. -/
def attestedActions : List Action := [.transaction [.attest (attestation 10 1 5)]]

/-- A cluster that sorts keys the other way round. -/
def reversed : Cluster := { cluster with collates := fun a b => decide (b ≤ a) }

/-- The fences pass, and the outcomes are as the test says. -/
def reserveOutcomes (cluster : Cluster) (ledger : Database) (request : StorageRequest)
    (test : Except QuotaError (Database × StorageReservation) →
      Except QuotaError (Database × StorageReservation) → Bool) : Bool :=
  (ledger.globalQuota.any fun quota =>
      (reserveFences quota ledger.startedAt request.now).isOk) &&
    test (reserveSqlite ledger request) (reservePostgresql cluster ledger request request.now)

/-- The upload is reaped, and the ledger is then bound to another bucket. -/
def movedActions : List Action :=
  actions ++ [.transaction [.finalizeReap (finalizeUpload 9)],
    .transaction [.attest (moved 10 1 10)]]

/-- A tenant whose id is no UUID. -/
def tenantActions : List Action :=
  attestedActions ++ [.transaction [.insertOrganization "tenant", .insertProject "tenant" project]]

end Sample

/-- Five differences, each in a state that the ledger reaches from the migration: an unknown
    project and a tenant whose id is no UUID are refused by PostgreSQL only; the objects of a
    reservation come in the order of the collation; a renewal that does not lengthen a lease
    leaves the time of the last change alone on SQLite only; and a retired key is accepted by
    both once the ledger is bound to another bucket. -/
theorem sqlite_differs_from_postgresql :
    (okAnd (backfill Sample.tables 0 1) fun db =>
      let attested := stateAt (step Sample.cluster) db Sample.attestedActions 1
      let known := Sample.request Sample.organization Sample.project
      Sample.reserveOutcomes Sample.cluster attested
          (Sample.request Sample.organization Sample.upload 60 6)
          (fun sqlite postgresql => sqlite.isOk && !postgresql.isOk) &&
        Sample.reserveOutcomes Sample.cluster
          (stateAt (step Sample.cluster) db Sample.tenantActions 2)
          (Sample.request "tenant" Sample.project 60 6)
          (fun sqlite postgresql => sqlite.isOk && !postgresql.isOk) &&
        Sample.reserveOutcomes Sample.reversed attested (known 60 6) (fun sqlite postgresql =>
          okAnd sqlite fun a => okAnd postgresql fun b => a.2.objects != b.2.objects) &&
        (okAnd (reservePostgresql Sample.cluster attested (known 60 6) 6) fun reserved =>
          okAnd (renewSqlite reserved.1 (known 1 7)) fun a =>
            okAnd (renewPostgresql Sample.cluster reserved.1 (known 1 7)) fun b =>
              a.storedObjects != b.storedObjects) &&
        Sample.reserveOutcomes Sample.cluster
          (stateAt (step Sample.cluster) db Sample.movedActions 6) (known 60 11)
          (fun sqlite postgresql => sqlite.isOk && postgresql.isOk)) = true := by
  decide +kernel

/-- Two uploads of the tenant are reserved on both ledgers with the same outcome. -/
theorem sqlite_agrees_with_postgresql_sample : ∃ db, backfill Sample.tables 0 1 = .ok db ∧
    SameOutcome SameReservation
      (reserveSqlite (stateAt (step Sample.cluster) db Sample.attestedActions 1)
        (Sample.request Sample.organization Sample.project 60 6))
      (reservePostgresql Sample.cluster (stateAt (step Sample.cluster) db Sample.attestedActions 1)
        (Sample.request Sample.organization Sample.project 60 6) 6) := by
  have hrun : (okAnd (backfill Sample.tables 0 1) fun db =>
      let ledger := stateAt (step Sample.cluster) db Sample.attestedActions 1
      ledger.organizations.contains Sample.organization &&
        ledger.projects.contains (Sample.organization, Sample.project) &&
        ledger.globalQuota.any fun quota => quota.isRecovered ledger.startedAt &&
          decide (capacityUnverified quota 6 ≠ some true)) = true := by
    decide +kernel
  obtain ⟨db, hdb, hledger⟩ := exists_of_okAnd hrun
  simp only [Bool.and_eq_true, List.contains_iff_mem, Option.any_eq_true, decide_eq_true_eq]
    at hledger
  obtain ⟨⟨horganization, hproject⟩, quota, hquota, hrecovered, hverified⟩ := hledger
  have hconsistent : (stateAt (step Sample.cluster) db Sample.attestedActions 1).Consistent :=
    stateAt_consistent (backfill_consistent hdb) Sample.attestedActions 1
  have hcanonical : ∀ claim ∈ (Sample.request Sample.organization Sample.project 60 6).claims,
      CanonicalClaim Sample.cluster claim := by
    intro claim hclaim
    simp only [Sample.request, List.mem_cons, List.not_mem_nil, or_false] at hclaim
    rcases hclaim with rfl | rfl
    · constructor <;> decide +kernel
    · constructor <;> decide +kernel
  have hprojects : ∀ claim ∈ (Sample.request Sample.organization Sample.project 60 6).claims,
      claim.projectId = Sample.project := by
    intro claim hclaim
    simp only [Sample.request, List.mem_cons, List.not_mem_nil, or_false] at hclaim
    rcases hclaim with rfl | rfl
    · rfl
    · rfl
  refine ⟨db, hdb, ((sqlite_agrees_with_postgresql Sample.cluster).1 _ _ quota 6
    hconsistent.ledgerOk ⟨by decide +kernel, horganization, by decide, hcanonical,
      fun claim hclaim => ?_⟩ hquota ⟨hrecovered, hverified⟩).1⟩
  rw [hprojects claim hclaim]
  exact hproject

example : (Sample.request Sample.organization Sample.project 60 6).claims.length = 2 := by
  decide +kernel

end Custombuild.Storage
