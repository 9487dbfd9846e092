/-
  The SQLite ledger against the PostgreSQL functions: the same request on the same ledger
  fails on both, or returns on both with the same ledger and the same reservation, up to the
  order of rows and objects and the time of the last change of a row.
-/
import Custombuild.Lib.SameOutcome
import Custombuild.Storage.Lifecycle
import Custombuild.Storage.SqliteBatches

namespace Custombuild.Storage

open Custombuild.Lib

/-! ## Claims as JSON -/

section Claims

variable {cluster : Cluster} {claims : List StorageObjectClaim}

theorem assertClaim_claimJson {claim : StorageObjectClaim} (h : CanonicalClaim cluster claim) :
    assertClaim cluster (claimJson claim) = .ok claim := by
  obtain ⟨projectId, objectKey, sha256, sizeBytes, mediaType, ownerType, ownerId, idempotencyKey⟩ :=
    claim
  obtain ⟨hproject, howner, hkey, hmedia, htype, hidempotency, hsha, hpositive, hwithin⟩ := h
  have hsize : demandSize (claimJson ⟨projectId, objectKey, sha256, sizeBytes, mediaType, ownerType,
      ownerId, idempotencyKey⟩) = .ok sizeBytes := by
    have hdigits : 1 ≤ sizeBytes ∧ sizeBytes < 10 ^ 19 := by
      simp only [tenantStorageByteLimit] at hwithin hpositive
      omega
    exact if_pos ⟨rfl, hdigits⟩
  unfold assertClaim
  rw [hsize]
  simp only at hproject howner hkey hmedia htype hidempotency hsha hwithin
  simp [claimJson, demandText, Json.get, Json.typeName, Json.keys, claimFields, assertUuid,
    assertText, require, hproject, howner, hkey, hmedia, htype, hidempotency, hsha, hwithin, bind,
    Except.bind, pure, Except.pure]

/-- The database reads back the claims that the Python code sends. -/
theorem assertClaims_claimsJson (h : CanonicalBatch cluster claims) :
    assertClaims cluster (claimsJson claims) = .ok claims := by
  have hcollect : collect (assertClaim cluster) (claims.map claimJson) = .ok claims := by
    rw [collect_eq_ok, List.forall₂_map_left_iff, List.forall₂_same]
    exact fun c hc => assertClaim_claimJson (h.canonical c hc)
  have hpositive : 1 ≤ claims.length := by
    rcases claims with _ | ⟨claim, claims⟩
    · exact absurd rfl h.nonempty
    · simp
  unfold assertClaims claimsJson
  simp only [bind_eq_ok, require_eq_ok, List.length_map, Bool.and_eq_true, decide_eq_true_eq]
  exact ⟨(), ⟨hpositive, h.bounded⟩, claims, hcollect, (), assertDistinct_eq_ok.mpr h.apart, rfl⟩

end Claims

/-! ## What both ledgers keep -/

/-- The constraints of the schema on a ledger, the global row of the migration, and the quota
    row that every tenant with an object has. -/
structure LedgerOk (db : Database) : Prop where
  rows : RowsOk db.storedObjects
  tenants_nodup : (db.tenantQuotas.map TenantQuota.organizationId).Nodup
  tenant_of_row : ∀ row ∈ db.storedObjects,
    row.organizationId ∈ db.tenantQuotas.map TenantQuota.organizationId
  tenant_reserved : ∀ tenant ∈ db.tenantQuotas, 0 ≤ tenant.counters .reserved
  tenant_within : ∀ tenant ∈ db.tenantQuotas,
    tenant.counters .reserved + tenant.counters .committed ≤ tenant.limits
  quota : ∃ quota, db.globalQuota = some quota ∧ 0 ≤ quota.counters .reserved ∧
    quota.counters .reserved + quota.counters .committed ≤ quota.limits

theorem Database.Consistent.ledgerOk {db : Database} (h : db.Consistent) : LedgerOk db := by
  have hreserved : ∀ tenant ∈ db.tenantQuotas, 0 ≤ tenant.counters .reserved := by
    intro tenant htenant
    rw [(h.tenants tenant htenant).charged .reserved]
    exact chargeOf_nonneg h.rows _ _
  obtain ⟨quota, hquota, hglobal⟩ := h.quota
  refine ⟨h.rows, h.tenants_nodup, h.tenant_of_row, hreserved,
    fun tenant htenant => (h.tenants tenant htenant).within, quota, hquota, ?_, hglobal.within⟩
  rw [hglobal.summed .reserved]
  exact Table.sumOf_nonneg hreserved

/-- A request of a tenant the database knows, with at most 256 claims on projects it knows,
    canonical for the database. -/
structure CanonicalRequest (cluster : Cluster) (db : Database) (request : StorageRequest) :
    Prop where
  organization_uuid : isUuidText request.organizationId = true
  organization_known : request.organizationId ∈ db.organizations
  bounded : request.claims.length ≤ 256
  canonical : ∀ claim ∈ request.claims, CanonicalClaim cluster claim
  project_known : ∀ claim ∈ request.claims, (request.organizationId, claim.projectId) ∈ db.projects

/-- The row without the time of its last change. -/
def StoredObject.untimed (row : StoredObject) : StoredObject := { row with updatedAt := 0 }

/-- The same ledger: the rows up to their order and the time of their last change, and all
    other tables. -/
structure SameState (db db' : Database) : Prop where
  rows : (db.storedObjects.map StoredObject.untimed).Perm (db'.storedObjects.map StoredObject.untimed)
  rest : db'.withRows db.storedObjects = db

/-- The same ledger and the same reservation, up to the order of its objects. -/
structure SameReservation (outcome outcome' : Database × StorageReservation) : Prop where
  state : SameState outcome.1 outcome'.1
  objects : outcome.2.objects.Perm outcome'.2.objects
  bytes : outcome.2.newlyReservedBytes = outcome'.2.newlyReservedBytes
  count : outcome.2.newlyReservedCount = outcome'.2.newlyReservedCount

section Parity

variable {cluster : Cluster} {db : Database} {request : StorageRequest}
  {claims : List StorageObjectClaim}

theorem CanonicalRequest.batch (h : CanonicalRequest cluster db request)
    (hclaims : Normalized request.claims claims) : CanonicalBatch cluster claims := by
  refine ⟨hclaims.nonempty, hclaims.length_le.trans h.bounded, fun c hc => ?_, hclaims.apart⟩
  exact h.canonical c ((hclaims.mem_iff c).mp hc)

theorem validatedLease_eq_ok {expiry : Int} (h : validatedLease request = .ok expiry) :
    isUuidText request.leaseToken = true ∧
      (1 ≤ request.leaseDurationSeconds ∧ request.leaseDurationSeconds ≤ 10800) ∧
      request.now + request.leaseDurationSeconds * second = expiry := by
  simp only [validatedLease, validatedToken, bind_eq_ok, require_eq_ok, Bool.and_eq_true,
    decide_eq_true_eq] at h
  obtain ⟨_, htoken, _, hduration, hexpiry⟩ := h
  cases hexpiry
  exact ⟨htoken, ⟨by omega, hduration.2⟩, rfl⟩

theorem databaseError_eq_ok {α : Type} {x : Except StorageError α} {a : α} :
    databaseError x = .ok a ↔ x = .ok a := by
  cases x <;> simp [databaseError]

theorem untimed_modify {rows : List StoredObject} {p : StoredObject → Bool}
    {f g : StoredObject → StoredObject}
    (h : ∀ row ∈ rows, p row = true → (f row).untimed = (g row).untimed) :
    (Table.modify p f rows).map StoredObject.untimed =
      (Table.modify p g rows).map StoredObject.untimed := by
  unfold Table.modify
  rw [List.map_map, List.map_map]
  refine List.map_congr_left fun row hrow => ?_
  simp only [Function.comp_apply]
  split
  · exact h row hrow ‹_›
  · rfl

theorem isNamed_orderedClaims {organizationId : String} {row : StoredObject} :
    isNamed organizationId (orderedClaims cluster claims) row =
      isNamed organizationId claims row := by
  unfold isNamed
  rw [(orderedClaims_perm cluster claims).any_eq]

/-! ### Renew -/

theorem untimed_lengthenedRow {expiry now : Int} {row : StoredObject} {stored : Int}
    (hstored : row.leaseExpiresAt = some stored) :
    (lengthenedRow expiry now row).untimed = (extendedRow expiry now row).untimed := by
  unfold lengthenedRow
  rw [hstored]
  by_cases hshort : stored < expiry
  · rw [if_pos (by simpa using hshort)]
  · rw [if_neg (by simpa using hshort)]
    have hmax : max stored expiry = stored := by omega
    simp [StoredObject.untimed, extendedRow, hstored, hmax]

/-- The tenant check of the database functions. -/
theorem requireTenant_self {organizationId : String} (h : isUuidText organizationId = true) :
    requireTenant organizationId organizationId = .ok () := by
  simp only [requireTenant, assertUuid, bind_eq_ok, require_eq_ok, beq_self_eq_true, and_true]
  exact ⟨(), h⟩

theorem assertLeaseDuration_eq_ok {seconds : Int} {u : Unit} :
    assertLeaseDuration seconds = .ok u ↔ 1 ≤ seconds ∧ seconds ≤ 10800 := by
  simp [assertLeaseDuration]

theorem renewBatch_eq_ok (hrows : RowsOk db.storedObjects) (hbatch : CanonicalBatch cluster claims)
    (horganization : isUuidText request.organizationId = true)
    (htoken : isUuidText request.leaseToken = true)
    (hduration : 1 ≤ request.leaseDurationSeconds ∧ request.leaseDurationSeconds ≤ 10800)
    {db' : Database} :
    renewBatch cluster db (request.renewCall claims) = .ok db' ↔
      (∀ c ∈ claims, isRenewable db.storedObjects (request.renewCall claims) c = true) ∧
        db.withRows (Table.modify (isNamed request.organizationId claims)
          (extendedRow (request.now + request.leaseDurationSeconds * second) request.now)
          db.storedObjects) = db' := by
  have hnamed : isNamed request.organizationId (orderedClaims cluster claims) =
      isNamed request.organizationId claims := funext fun row => isNamed_orderedClaims
  have hloop {rows : List StoredObject} :
      renewClaims (request.renewCall claims) (request.now + request.leaseDurationSeconds * second)
        db.storedObjects (orderedClaims cluster claims) = .ok rows ↔
      (∀ c ∈ claims, isRenewable db.storedObjects (request.renewCall claims) c = true) ∧
        Table.modify (isNamed request.organizationId claims)
          (extendedRow (request.now + request.leaseDurationSeconds * second) request.now)
          db.storedObjects = rows := by
    rw [renewClaims_eq_ok hrows (apart_orderedClaims hbatch.apart), ← hnamed]
    simp only [mem_orderedClaims]
    rfl
  unfold renewBatch
  simp only [bind_eq_ok]
  constructor
  · rintro ⟨_, -, _, -, parsed, hparsed, _, -, rows, hrenewed, hdb'⟩
    obtain rfl : claims = parsed :=
      Except.ok.inj ((assertClaims_claimsJson hbatch).symm.trans hparsed)
    obtain ⟨hall, rfl⟩ := hloop.mp hrenewed
    exact ⟨hall, Except.ok.inj hdb'⟩
  · rintro ⟨hall, rfl⟩
    exact ⟨(), requireTenant_self horganization, (), require_eq_ok.mpr htoken, claims,
      assertClaims_claimsJson hbatch, (), assertLeaseDuration_eq_ok.mpr hduration, _,
      hloop.mpr ⟨hall, rfl⟩, rfl⟩

theorem SameState.of_rows {rows rows' : List StoredObject}
    (h : (rows.map StoredObject.untimed).Perm (rows'.map StoredObject.untimed)) :
    SameState (db.withRows rows) (db.withRows rows') :=
  ⟨h, rfl⟩

theorem renew_sameOutcome (hdb : LedgerOk db) (hrequest : CanonicalRequest cluster db request) :
    SameOutcome SameState (renewSqlite db request) (renewPostgresql cluster db request) := by
  unfold renewSqlite renewPostgresql
  refine .bind fun _ _ => .bind fun claims hclaims => .bind fun expiry hexpiry => ?_
  have hbatch := hrequest.batch (normalizedClaims_cases hclaims)
  obtain ⟨htoken, hduration, rfl⟩ := validatedLease_eq_ok hexpiry
  -- each claim finds its row under the lease of the caller, on both sides
  have hrenewable : (∀ c ∈ claims, isRenewable db.storedObjects (request.renewCall claims) c = true) ↔
      ∀ c ∈ claims, ∃ row, FindsRow db.storedObjects request.organizationId c row ∧
        holdsLease row request.leaseToken request.now = true := by
    simp only [isRenewable_iff, FindsRow, and_assoc]
    rfl
  refine .of_ok (fun db₁ h => ?_) (fun db₂ h => ?_)
  · simp only [bind_eq_ok, renewRows_eq_ok hdb.rows.keys_nodup] at h
    obtain ⟨rows, ⟨hall, rfl⟩, hdb₁⟩ := h
    cases hdb₁
    refine ⟨_, databaseError_eq_ok.mpr ((renewBatch_eq_ok hdb.rows hbatch
      hrequest.organization_uuid htoken hduration).mpr ⟨hrenewable.mpr hall, rfl⟩), ?_⟩
    refine .of_rows (.of_eq (untimed_modify fun row hrow hnamed => ?_))
    have hfinds : ∀ c ∈ claims, ∃ row, FindsRow db.storedObjects request.organizationId c row := by
      intro c hc
      obtain ⟨row, hfound, -⟩ := hall c hc
      exact ⟨row, hfound⟩
    obtain ⟨c, hc, hfound⟩ := (isNamed_iff_findsRow hfinds hrow).mp hnamed
    obtain ⟨held, hheld, hlease⟩ := hall c hc
    obtain rfl := hheld.eq hrow hfound.facts.2.1 hfound.facts.2.2
    have hstored : row.leaseExpiresAt.isSome = true := by
      have hshape := hdb.rows.shapes row hrow
      simp only [holdsLease, Bool.and_eq_true, decide_eq_true_eq] at hlease
      simp only [StoredObject.shapeOk, hlease.1.1, Bool.and_eq_true] at hshape
      exact hshape.1.1.2
    obtain ⟨stored, hstored⟩ := Option.isSome_iff_exists.mp hstored
    exact untimed_lengthenedRow hstored
  · obtain ⟨hall, rfl⟩ := (renewBatch_eq_ok hdb.rows hbatch hrequest.organization_uuid htoken
      hduration).mp (databaseError_eq_ok.mp h)
    exact ⟨_, bind_eq_ok.mpr
      ⟨_, (renewRows_eq_ok hdb.rows.keys_nodup).mpr ⟨hrenewable.mp hall, rfl⟩, rfl⟩⟩

/-! ### Commit -/

/-- The bytes and objects a commit moves. -/
def committingUsage (rows : List StoredObject) (call : CommitCall)
    (claims : List StorageObjectClaim) : Int × Int :=
  Table.sumOf StoredObject.usage (rows.filter (isCommitting call claims))

theorem isCommitting_orderedClaims {call : CommitCall} :
    isCommitting call (orderedClaims cluster claims) = isCommitting call claims := by
  funext row
  unfold isCommitting
  rw [(orderedClaims_perm cluster claims).any_eq]

theorem commitBatch_eq_ok (hrows : RowsOk db.storedObjects) (hbatch : CanonicalBatch cluster claims)
    (horganization : isUuidText request.organizationId = true)
    (htoken : isUuidText request.leaseToken = true) {quota : GlobalQuota} {tenant : TenantQuota}
    (hquota : db.globalQuota = some quota)
    (htenant : db.tenantQuota request.organizationId = some tenant) {bytes count : Int}
    (husage : committingUsage db.storedObjects (request.commitCall claims) claims = (bytes, count))
    {db' : Database} :
    commitBatch cluster db (request.commitCall claims) = .ok db' ↔
      ((∀ c ∈ claims, isCommittable db.storedObjects (request.commitCall claims) c = true) ∧
        reservedCovers quota tenant bytes count = true) ∧
      (if 0 < count then committedDatabase db (request.commitCall claims) claims quota bytes count
        else db) = db' := by
  have hdeltas {deltas : Int × Int} :
      commitDeltas (request.commitCall claims) db.storedObjects (0, 0)
        (orderedClaims cluster claims) = .ok deltas ↔
      (∀ c ∈ claims, isCommittable db.storedObjects (request.commitCall claims) c = true) ∧
        (bytes, count) = deltas := by
    rw [commitDeltas_eq_ok hrows (apart_orderedClaims hbatch.apart), isCommitting_orderedClaims,
      ← husage]
    simp only [mem_orderedClaims]
    rw [show ((0, 0) : Int × Int) = 0 from rfl, zero_add]
    rfl
  have hwritten : (orderedClaims cluster claims).foldl (commitRow (request.commitCall claims))
      db.storedObjects = Table.modify (isCommitting (request.commitCall claims) claims)
        (committedRow request.now) db.storedObjects := by
    rw [foldl_commitRow, isCommitting_orderedClaims]
    rfl
  unfold commitBatch
  simp only [bind_eq_ok, demand_eq_ok]
  constructor
  · rintro ⟨_, -, _, -, parsed, hparsed, found, hfound, owner, howner, deltas, hloop, _, hcovers,
      hdb'⟩
    obtain rfl : claims = parsed :=
      Except.ok.inj ((assertClaims_claimsJson hbatch).symm.trans hparsed)
    obtain rfl : quota = found := Option.some.inj (hquota.symm.trans hfound)
    obtain rfl : tenant = owner := Option.some.inj (htenant.symm.trans howner)
    obtain ⟨hall, rfl⟩ := hdeltas.mp hloop
    refine ⟨⟨hall, require_eq_ok.mp hcovers⟩, ?_⟩
    rw [hwritten] at hdb'
    split at hdb'
    · rw [if_pos ‹_›]
      exact Except.ok.inj hdb'
    · rw [if_neg ‹_›]
      exact Except.ok.inj hdb'
  · rintro ⟨⟨hall, hcovers⟩, rfl⟩
    refine ⟨(), requireTenant_self horganization, (), require_eq_ok.mpr htoken, claims,
      assertClaims_claimsJson hbatch, quota, hquota, tenant, htenant, _, hdeltas.mpr ⟨hall, rfl⟩, (),
      require_eq_ok.mpr hcovers, ?_⟩
    rw [hwritten]
    split
    · rfl
    · rfl

/-- The rows that SQLite commits weigh what the update of the commit moves. -/
theorem usage_committingRows (hrows : RowsOk db.storedObjects) (hapart : claims.Pairwise Apart)
    {call : CommitCall} :
    (((claims.filterMap (committingRow db.storedObjects call)).map StoredObject.sizeBytes).sum,
        ((claims.filterMap (committingRow db.storedObjects call)).length : Int)) =
      committingUsage db.storedObjects call claims := by
  unfold committingUsage
  rw [← Table.sumOf_perm (committingRows_perm hrows hapart)]
  induction claims.filterMap (committingRow db.storedObjects call) with
  | nil => rfl
  | cons row rows ih =>
    rw [Table.sumOf_cons, ← ih]
    simp [StoredObject.usage, add_comm]

theorem committedRows_flush (call : CommitCall) (hrows : RowsOk db.storedObjects) :
    flushRows ((claims.filterMap (committingRow db.storedObjects call)).map (committedRow call.now))
        db.storedObjects =
      Table.modify (isCommitting call claims) (committedRow call.now) db.storedObjects := by
  refine flushRows_eq hrows.keys_nodup (keepsIdentity_committedRow call.now) fun new => ?_
  simp only [List.mem_map, mem_committingRows hrows, and_assoc]

/-- The counters on SQLite are moved exactly when the reserved ones cover the commit. -/
theorem commitCounters_eq_ok {quota : GlobalQuota} {tenant : TenantQuota}
    (hquota : db.globalQuota = some quota)
    (htenant : db.tenantQuota request.organizationId = some tenant) {bytes count : Int}
    (hcount : 0 < count) {db' : Database} :
    commitCounters db request.organizationId bytes count = .ok db' ↔
      reservedCovers quota tenant bytes count = true ∧
        { db.updateTenantQuota request.organizationId (fun tenant =>
            (tenant.addReserved (-bytes) (-count)).addCommitted bytes count) with
          globalQuota := some ((quota.addReserved (-bytes) (-count)).addCommitted bytes count) } =
          db' := by
  unfold commitCounters reservedCovers
  rw [if_neg (by omega), hquota, htenant]
  simp only [bind_eq_ok, demand_eq_ok, Option.some.injEq, exists_eq_left', require_eq_ok,
    Bool.and_eq_true, decide_eq_true_eq]
  constructor
  · rintro ⟨_, hglobal, _, hown, hdb'⟩
    exact ⟨⟨⟨hglobal, hown.1⟩, hown.2⟩, Except.ok.inj hdb'⟩
  · rintro ⟨⟨⟨hglobal, hbytes⟩, hobjects⟩, rfl⟩
    exact ⟨(), hglobal, (), ⟨hbytes, hobjects⟩, rfl⟩

/-- A tenant with a row has its counters. -/
theorem LedgerOk.tenant_of_findsRow (hdb : LedgerOk db) {organizationId : String}
    {claim : StorageObjectClaim} {row : StoredObject}
    (h : FindsRow db.storedObjects organizationId claim row) :
    ∃ tenant, db.tenantQuota organizationId = some tenant := by
  obtain ⟨hrow, rfl, -⟩ := h.facts
  obtain ⟨tenant, htenant, hname⟩ := List.mem_map.mp (hdb.tenant_of_row row hrow)
  refine ⟨tenant, find_of_nodup hdb.tenants_nodup htenant fun other => ?_⟩
  rw [beq_iff_eq, hname]

/-- A commit on SQLite moves what the PostgreSQL function moves. -/
theorem commitReserved_eq_ok (hdb : LedgerOk db) (hapart : claims.Pairwise Apart)
    {quota : GlobalQuota} {tenant : TenantQuota} (hquota : db.globalQuota = some quota)
    (htenant : db.tenantQuota request.organizationId = some tenant) {bytes count : Int}
    (husage : committingUsage db.storedObjects (request.commitCall claims) claims = (bytes, count))
    {db' : Database} :
    commitReserved db request claims = .ok db' ↔
      ((∀ c ∈ claims, isCommittable db.storedObjects (request.commitCall claims) c = true) ∧
        reservedCovers quota tenant bytes count = true) ∧
      (if 0 < count then committedDatabase db (request.commitCall claims) claims quota bytes count
        else db) = db' := by
  have hsums := (usage_committingRows hdb.rows hapart).trans husage
  rw [Prod.mk.injEq] at hsums
  have hreserved {reserved : List StoredObject} :
      reservedRows db.storedObjects request claims = .ok reserved ↔
        (∀ c ∈ claims, isCommittable db.storedObjects (request.commitCall claims) c = true) ∧
          claims.filterMap (committingRow db.storedObjects (request.commitCall claims)) = reserved :=
    reservedRows_eq_ok hdb.rows
  unfold commitReserved
  simp only [bind_eq_ok, hreserved, and_assoc, exists_and_left, exists_eq_left', hsums.1, hsums.2]
  refine and_congr_right fun _ => ?_
  by_cases hcount : 0 < count
  · rw [if_pos hcount]
    have hdatabase {charged : Database} (hcharged : charged.storedObjects = db.storedObjects) :
        charged.withRows (flushRows ((claims.filterMap (committingRow db.storedObjects
          (request.commitCall claims))).map (committedRow request.now)) charged.storedObjects) =
        charged.withRows (Table.modify (isCommitting (request.commitCall claims) claims)
          (committedRow request.now) db.storedObjects) := by
      rw [hcharged]
      exact congrArg charged.withRows (committedRows_flush (request.commitCall claims) hdb.rows)
    simp only [commitCounters_eq_ok hquota htenant hcount]
    constructor
    · rintro ⟨charged, ⟨hcovers, hcharged⟩, hdb'⟩
      have hobjects : charged.storedObjects = db.storedObjects := by
        rw [← hcharged]
        rfl
      rw [hdatabase hobjects] at hdb'
      refine ⟨hcovers, ?_⟩
      rw [← Except.ok.inj hdb', ← hcharged]
      rfl
    · rintro ⟨hcovers, rfl⟩
      exact ⟨_, ⟨hcovers, rfl⟩, congrArg Except.ok (hdatabase rfl)⟩
  · -- nothing to commit
    have hlength : (claims.filterMap (committingRow db.storedObjects
        (request.commitCall claims))).length = 0 := by omega
    have hnil := List.length_eq_zero_iff.mp hlength
    rw [hnil] at hsums
    obtain ⟨rfl, rfl⟩ : bytes = 0 ∧ count = 0 := by
      simp at hsums
      exact ⟨hsums.1.symm, hsums.2.symm⟩
    obtain ⟨found, hfound, hreserved, -⟩ := hdb.quota
    obtain rfl : quota = found := Option.some.inj (hquota.symm.trans hfound)
    have htenantReserved := hdb.tenant_reserved tenant (mem_tenantQuotas htenant).1
    have hcovers : reservedCovers quota tenant 0 0 = true := by
      simp only [reservedCovers, Bool.and_eq_true, decide_eq_true_eq]
      exact ⟨⟨⟨hreserved.1, hreserved.2⟩, htenantReserved.1⟩, htenantReserved.2⟩
    have hunchanged : db.withRows (flushRows [] db.storedObjects) = db := by
      have hself : flushRows [] db.storedObjects = db.storedObjects := List.map_id _
      rw [hself]
      rfl
    rw [if_neg hcount, hnil, hcovers]
    simp [commitCounters, hunchanged, pure, Except.pure]

theorem commit_sameOutcome (hdb : LedgerOk db) (hrequest : CanonicalRequest cluster db request) :
    SameOutcome SameState (commitSqlite db request) (commitPostgresql cluster db request) := by
  unfold commitSqlite commitPostgresql
  refine .bind fun _ _ => .bind fun claims hclaims => .bind fun _ htoken => ?_
  have hbatch := hrequest.batch (normalizedClaims_cases hclaims)
  have htoken := require_eq_ok.mp htoken
  obtain ⟨quota, hquota, -⟩ := hdb.quota
  obtain ⟨⟨bytes, count⟩, husage⟩ :
      ∃ usage, committingUsage db.storedObjects (request.commitCall claims) claims = usage :=
    ⟨_, rfl⟩
  refine .of_ok (fun db₁ h => ?_) (fun db₂ h => ?_)
  · -- some claim found a row, so the tenant has its counters
    have htenant : ∃ tenant, db.tenantQuota request.organizationId = some tenant := by
      obtain ⟨reserved, hreserved, -⟩ := bind_eq_ok.mp h
      have hall : (∀ c ∈ claims,
          isCommittable db.storedObjects (request.commitCall claims) c = true) ∧ _ :=
        (reservedRows_eq_ok hdb.rows).mp hreserved
      obtain ⟨c, hc⟩ := List.exists_mem_of_ne_nil _ hbatch.nonempty
      obtain ⟨row, hrow, -⟩ := isCommittable_iff_findsRow.mp (hall.1 c hc)
      exact hdb.tenant_of_findsRow hrow
    obtain ⟨tenant, htenant⟩ := htenant
    obtain ⟨hcond, rfl⟩ := (commitReserved_eq_ok hdb hbatch.apart hquota htenant husage).mp h
    exact ⟨_, databaseError_eq_ok.mpr ((commitBatch_eq_ok hdb.rows hbatch
      hrequest.organization_uuid htoken hquota htenant husage).mpr ⟨hcond, rfl⟩), .refl _, rfl⟩
  · have hpostgresql := databaseError_eq_ok.mp h
    obtain ⟨_, _, tenant, _, _, hcommitted, -⟩ := commitBatch_cases hpostgresql hdb.rows
    have htenant : db.tenantQuota request.organizationId = some tenant := hcommitted.tenant_found
    obtain ⟨hcond, -⟩ := (commitBatch_eq_ok hdb.rows hbatch hrequest.organization_uuid htoken hquota
      htenant husage).mp hpostgresql
    exact ⟨_, (commitReserved_eq_ok hdb hbatch.apart hquota htenant husage).mpr ⟨hcond, rfl⟩⟩

/-! ### Reserve -/

/-- The insert of the tenant row changes that table only. -/
theorem withTenantQuota_frame (db : Database) (organizationId : String) :
    withTenantQuota db organizationId =
      { db with tenantQuotas := (withTenantQuota db organizationId).tenantQuotas } := by
  unfold withTenantQuota
  split
  · rfl
  · rfl

theorem insertTenantQuotaIfMissing_eq {organizationId : String}
    (h : organizationId ∈ db.organizations) :
    insertTenantQuotaIfMissing db organizationId = .ok (withTenantQuota db organizationId) := by
  unfold insertTenantQuotaIfMissing withTenantQuota
  split
  · rfl
  · have hknown : db.organizations.contains organizationId = true := by simpa using h
    simp [require, h, pure, Except.pure, bind, Except.bind]

/-- A tenant without counters gets them within its limits. -/
theorem LedgerOk.withTenantQuota (hdb : LedgerOk db) (organizationId : String) :
    ∃ tenant, (withTenantQuota db organizationId).tenantQuota organizationId = some tenant ∧
      tenant.counters .reserved + tenant.counters .committed ≤ tenant.limits := by
  unfold Storage.withTenantQuota
  split
  · rename_i hsome
    obtain ⟨tenant, htenant⟩ := Option.isSome_iff_exists.mp hsome
    exact ⟨tenant, htenant, hdb.tenant_within tenant (mem_tenantQuotas htenant).1⟩
  · rename_i hnone
    refine ⟨⟨organizationId, tenantStorageByteLimit, tenantStorageObjectLimit, 0, 0, 0, 0⟩, ?_, ?_⟩
    · have hnone : db.tenantQuotas.find? (fun quota => quota.organizationId == organizationId) =
          none := by simpa [Database.tenantQuota] using hnone
      simp [Database.tenantQuota, List.find?_append, hnone]
    · show ((0 : Int), (0 : Int)) + (0, 0) ≤ (tenantStorageByteLimit, tenantStorageObjectLimit)
      decide

/-- The counters on SQLite are charged exactly when the batch fits. -/
theorem reserveCounters_eq_ok {quota : GlobalQuota} {tenant : TenantQuota}
    (hwithin : quota.counters .reserved + quota.counters .committed ≤ quota.limits)
    (htenant : db.tenantQuota request.organizationId = some tenant)
    (htenantWithin : tenant.counters .reserved + tenant.counters .committed ≤ tenant.limits)
    {bytes : Int} {count : Nat} (hnone : count = 0 → bytes = 0) (rows : List StoredObject)
    {db' : Database} :
    reserveCounters (db.withRows rows) quota request.organizationId bytes count = .ok db' ↔
      batchFits quota tenant bytes count = true ∧
        (if (0 : Int) < count then
          (db.withRows rows).addReserved quota request.organizationId bytes count
          else db.withRows rows) = db' := by
  have hlimits := hwithin
  have htenantLimits := htenantWithin
  have htenant' : (db.withRows rows).tenantQuota request.organizationId = some tenant := htenant
  simp only [GlobalQuota.counters, GlobalQuota.limits, TenantQuota.counters, TenantQuota.limits,
    Prod.mk_add_mk, Prod.mk_le_mk] at hlimits htenantLimits
  unfold reserveCounters batchFits
  by_cases hcount : count = 0
  · obtain rfl := hnone hcount
    subst hcount
    have hfits : (quota.reservedBytes + quota.committedBytes + 0 ≤ quota.byteLimit ∧
        quota.reservedCount + quota.committedCount + ((0 : Nat) : Int) ≤ quota.objectLimit) ∧
        tenant.reservedBytes + tenant.committedBytes + 0 ≤ tenant.byteLimit ∧
        tenant.reservedCount + tenant.committedCount + ((0 : Nat) : Int) ≤ tenant.objectLimit := by
      omega
    simp only [Bool.and_eq_true, decide_eq_true_eq, hfits]
    simp
  · have hpositive : (0 : Int) < count := by omega
    rw [if_neg (by omega), if_pos hpositive, htenant']
    simp only [bind_eq_ok, demand_eq_ok, Option.some.injEq, exists_eq_left', require_eq_ok,
      Bool.and_eq_true, decide_eq_true_eq]
    constructor
    · rintro ⟨_, hglobal, _, hown, hdb'⟩
      exact ⟨by omega, Except.ok.inj hdb'⟩
    · rintro ⟨hfits, rfl⟩
      exact ⟨(), by omega, (), by omega, rfl⟩

/-- Where every claim finds its row, the inserted claims are the fresh ones. -/
theorem insertedClaims_eq_fresh {rows : List StoredObject} {expiry : Int}
    (hapart : claims.Pairwise Apart)
    (h : ∀ c ∈ claims, ∃ row,
      FindsReleasable (rowsWithInserted rows request expiry claims) request c row) :
    insertedClaims rows request.organizationId claims =
      claims.filter (isFresh rows request.organizationId) := by
  refine List.filter_congr fun c hc => ?_
  cases hconflicts : conflicts rows request.organizationId c with
  | false =>
    unfold isFresh
    rw [matchingRows_of_not_conflicts hconflicts]
    rfl
  | true =>
    obtain ⟨row, hrow, -⟩ := h c hc
    have hmatch := hrow.1
    rw [matchingRows_rowsWithInserted hapart hc, if_pos hconflicts] at hmatch
    unfold isFresh
    rw [hmatch]
    rfl

theorem untimed_releasedRow {expiry fenceAt : Int} {sent : List StorageObjectClaim}
    {row : StoredObject} (hstate : row.state = .reserved) {stored : Int}
    (hstored : row.leaseExpiresAt = some stored) :
    (releasedRow request expiry row).untimed =
      (leasedRow (request.reserveCall sent fenceAt) expiry row).untimed := by
  unfold releasedRow leasedRow
  rw [if_neg (by rw [hstate]; decide)]
  show (if _ then takenOverRow request.leaseToken expiry request.now row else _).untimed =
    (if _ then takenOverRow request.leaseToken expiry request.now row else
      extendedRow expiry request.now row).untimed
  split
  · rw [if_pos ‹_›]
  · rw [if_neg ‹_›]
    exact untimed_lengthenedRow hstored

/-- A named row that the batch may lease, on both sides. -/
theorem untimed_leased {rows : List StoredObject} {expiry fenceAt : Int}
    {sent : List StorageObjectClaim}
    (h : ∀ c ∈ claims, ∃ row,
      FindsReleasable (rowsWithInserted rows request expiry claims) request c row)
    {row : StoredObject} (hrow : row ∈ rows) :
    (if isNamed request.organizationId claims row then releasedRow request expiry row
        else row).untimed =
      (if isReclaimed request.organizationId claims row then
        leasedRow (request.reserveCall sent fenceAt) expiry row else row).untimed := by
  have hreclaimed : isReclaimed request.organizationId claims row =
      (isNamed request.organizationId claims row && decide (row.state = .reserved)) := by
    unfold isReclaimed isNamed
    rw [Bool.and_right_comm]
  rw [hreclaimed]
  by_cases hnamed : isNamed request.organizationId claims row = true
  · have hfacts := hnamed
    simp only [isNamed, Bool.and_eq_true, beq_iff_eq, List.any_eq_true] at hfacts
    obtain ⟨horganization, c, hc, hkey⟩ := hfacts
    obtain ⟨found, hfound, hreleasable⟩ := h c hc
    have hmem : row ∈ rowsWithInserted rows request expiry claims := List.mem_append_left _ hrow
    obtain rfl := hfound.eq hmem horganization hkey.symm
    rcases isReleasable_iff.mp hreleasable with hcommitted | ⟨hreserved, stored, hstored, -⟩
    · simp [hnamed, hcommitted, releasedRow]
    · rw [if_pos hnamed, if_pos (by simp [hnamed, hreserved])]
      exact untimed_releasedRow hreserved hstored
  · rw [if_neg hnamed, if_neg (by simp [hnamed])]

theorem isReclaimed_orderedClaims {organizationId : String} :
    isReclaimed organizationId (orderedClaims cluster claims) =
      isReclaimed organizationId claims := by
  funext row
  unfold isReclaimed
  rw [(orderedClaims_perm cluster claims).any_eq]

/-- The rows after a batch on SQLite and on PostgreSQL. -/
theorem leasedRows_perm {rows : List StoredObject} {expiry fenceAt : Int}
    {sent : List StorageObjectClaim} (hapart : claims.Pairwise Apart)
    (hexpiry : request.now < expiry)
    (h : ∀ c ∈ claims, ∃ row,
      FindsReleasable (rowsWithInserted rows request expiry claims) request c row) :
    ((leasedRows rows request expiry claims).map StoredObject.untimed).Perm
      ((progressAfter rows (request.reserveCall sent fenceAt) expiry
        (orderedClaims cluster claims)).rows.map StoredObject.untimed) := by
  have hinserted : Table.modify (isNamed request.organizationId claims) (releasedRow request expiry)
      ((insertedClaims rows request.organizationId claims).map (insertedRow request expiry)) =
      (insertedClaims rows request.organizationId claims).map (insertedRow request expiry) := by
    unfold Table.modify
    rw [List.map_map]
    refine List.map_congr_left fun c _ => ?_
    simp only [Function.comp_apply, releasedRow_insertedRow hexpiry, ite_self]
  have hbefore : (Table.modify (isNamed request.organizationId claims) (releasedRow request expiry)
      rows).map StoredObject.untimed =
      (Table.modify (isReclaimed request.organizationId claims)
        (leasedRow (request.reserveCall sent fenceAt) expiry) rows).map StoredObject.untimed := by
    unfold Table.modify
    rw [List.map_map, List.map_map]
    exact List.map_congr_left fun row hrow => untimed_leased h hrow
  have hfresh := ((orderedClaims_perm cluster claims).filter
    (isFresh rows request.organizationId)).map (insertedRow request expiry)
  unfold leasedRows rowsWithInserted
  rw [Table.modify_append, hinserted, List.map_append, hbefore, insertedClaims_eq_fresh hapart h]
  show List.Perm _ ((Table.modify (isReclaimed request.organizationId
    (orderedClaims cluster claims)) (leasedRow (request.reserveCall sent fenceAt) expiry) rows ++
    ((orderedClaims cluster claims).filter (isFresh rows request.organizationId)).map
      (insertedRow request expiry)).map StoredObject.untimed)
  rw [List.map_append, isReclaimed_orderedClaims]
  exact (hfresh.symm.map _).append_left _

theorem reserveBatch_eq_ok (hrows : RowsOk db.storedObjects)
    (hbatch : CanonicalBatch cluster claims)
    (horganization : isUuidText request.organizationId = true)
    (hknown : request.organizationId ∈ db.organizations)
    (htoken : isUuidText request.leaseToken = true)
    (hduration : 1 ≤ request.leaseDurationSeconds ∧ request.leaseDurationSeconds ≤ 10800)
    {quota : GlobalQuota} (hquota : db.globalQuota = some quota) {fenceAt : Int}
    (hfences : reserveFences quota db.startedAt fenceAt = .ok ()) {tenant : TenantQuota}
    (htenant : (withTenantQuota db request.organizationId).tenantQuota request.organizationId =
      some tenant) {progress : ReserveProgress}
    (hprogress : progressAfter db.storedObjects (request.reserveCall claims fenceAt)
      (request.now + request.leaseDurationSeconds * second) (orderedClaims cluster claims) =
        progress)
    {outcome : Database × StorageReservation} :
    reserveBatch cluster db (request.reserveCall claims fenceAt) = .ok outcome ↔
      ((∀ c ∈ claims, isReservable (withTenantQuota db request.organizationId) quota.capacityBucket
          (request.reserveCall claims fenceAt) c = true) ∧
        batchFits quota tenant progress.byteDelta progress.countDelta = true) ∧
      (if 0 < progress.countDelta then
        ((withTenantQuota db request.organizationId).withRows progress.rows).addReserved quota
          request.organizationId progress.byteDelta progress.countDelta
        else (withTenantQuota db request.organizationId).withRows progress.rows,
        ⟨progress.objects, progress.byteDelta, progress.countDelta⟩) = outcome := by
  have hbase : (withTenantQuota db request.organizationId).storedObjects = db.storedObjects := by
    rw [withTenantQuota_frame]
  have hloop {result : ReserveProgress} :
      reserveClaims (withTenantQuota db request.organizationId) quota.capacityBucket
        (request.reserveCall claims fenceAt)
        (request.now + request.leaseDurationSeconds * second)
        ⟨(withTenantQuota db request.organizationId).storedObjects, 0, 0, []⟩
        (orderedClaims cluster claims) = .ok result ↔
      (∀ c ∈ claims, isReservable (withTenantQuota db request.organizationId) quota.capacityBucket
        (request.reserveCall claims fenceAt) c = true) ∧ progress = result := by
    rw [reserveClaims_eq_ok (by rwa [hbase]) (apart_orderedClaims hbatch.apart), hbase, hprogress]
    simp only [mem_orderedClaims]
  unfold reserveBatch
  simp only [bind_eq_ok, demand_eq_ok]
  constructor
  · rintro ⟨_, -, _, -, parsed, hparsed, _, -, found, hfound, _, -, base, hinsert, owner, howner,
      result, hresult, _, hfits, houtcome⟩
    obtain rfl : claims = parsed :=
      Except.ok.inj ((assertClaims_claimsJson hbatch).symm.trans hparsed)
    obtain rfl : quota = found := Option.some.inj (hquota.symm.trans hfound)
    obtain rfl : withTenantQuota db request.organizationId = base :=
      Except.ok.inj ((insertTenantQuotaIfMissing_eq hknown).symm.trans hinsert)
    obtain rfl : tenant = owner := Option.some.inj (htenant.symm.trans howner)
    obtain ⟨hall, rfl⟩ := hloop.mp hresult
    exact ⟨⟨hall, require_eq_ok.mp hfits⟩, Except.ok.inj houtcome⟩
  · rintro ⟨⟨hall, hfits⟩, rfl⟩
    exact ⟨(), requireTenant_self horganization, (), require_eq_ok.mpr htoken, claims,
      assertClaims_claimsJson hbatch, (), assertLeaseDuration_eq_ok.mpr hduration, quota, hquota,
      (), hfences, _, insertTenantQuotaIfMissing_eq hknown, tenant, htenant, progress,
      hloop.mpr ⟨hall, rfl⟩, (), require_eq_ok.mpr hfits, rfl⟩

/-- The capacity and recovery evidence under which the PostgreSQL function reserves. -/
structure FencesPass (quota : GlobalQuota) (startedAt fenceAt : Int) : Prop where
  recovered : quota.isRecovered startedAt = true
  verified : capacityUnverified quota fenceAt ≠ some true

theorem FencesPass.reserveFences {quota : GlobalQuota} {startedAt fenceAt : Int}
    (h : FencesPass quota startedAt fenceAt) :
    reserveFences quota startedAt fenceAt = .ok () ↔ quota.maintenanceToken.isNone = true := by
  simp only [Storage.reserveFences, bind_eq_ok, require_eq_ok, Sql.refuse_eq_ok]
  constructor
  · rintro ⟨_, hmaintenance, -⟩
    exact hmaintenance
  · intro hmaintenance
    exact ⟨(), hmaintenance, (), h.recovered, h.verified⟩

theorem progressAfter_deltas {rows : List StoredObject} {call : ReserveCall} {expiry : Int} :
    (progressAfter rows call expiry (orderedClaims cluster claims)).byteDelta =
        ((claims.filter (isFresh rows call.organizationId)).map StorageObjectClaim.sizeBytes).sum ∧
      (progressAfter rows call expiry (orderedClaims cluster claims)).countDelta =
        ((claims.filter (isFresh rows call.organizationId)).length : Int) := by
  have hperm := (orderedClaims_perm cluster claims).filter (isFresh rows call.organizationId)
  refine ⟨?_, ?_⟩
  · exact (hperm.map _).sum_eq
  · exact congrArg _ hperm.length_eq

theorem SameState.of_charged {quota : GlobalQuota} {organizationId : String} {bytes count : Int}
    {rows rows' : List StoredObject}
    (h : (rows.map StoredObject.untimed).Perm (rows'.map StoredObject.untimed)) :
    SameState
      (if 0 < count then (db.withRows rows).addReserved quota organizationId bytes count
        else db.withRows rows)
      (if 0 < count then (db.withRows rows').addReserved quota organizationId bytes count
        else db.withRows rows') := by
  split
  · exact ⟨h, rfl⟩
  · exact .of_rows h

theorem reserve_sameOutcome (hdb : LedgerOk db) (hrequest : CanonicalRequest cluster db request)
    {quota : GlobalQuota} (hquota : db.globalQuota = some quota) {fenceAt : Int}
    (hpass : FencesPass quota db.startedAt fenceAt) :
    SameOutcome SameReservation (reserveSqlite db request)
      (reservePostgresql cluster db request fenceAt) := by
  unfold reserveSqlite reservePostgresql
  refine .bind fun _ _ => .bind fun claims hclaims => .bind fun expiry hexpiry => ?_
  have hnormalized := normalizedClaims_cases hclaims
  have hbatch := hrequest.batch hnormalized
  obtain ⟨htoken, hduration, rfl⟩ := validatedLease_eq_ok hexpiry
  have hlater : request.now < request.now + request.leaseDurationSeconds * second := by
    simp only [second]
    omega
  obtain ⟨found, hfound, -, hwithin⟩ := hdb.quota
  obtain rfl : quota = found := Option.some.inj (hquota.symm.trans hfound)
  obtain ⟨tenant, htenant, htenantWithin⟩ := hdb.withTenantQuota request.organizationId
  have hbase := withTenantQuota_frame db request.organizationId
  have hreservable (c : StorageObjectClaim) (hc : c ∈ claims) :
      isReservable (withTenantQuota db request.organizationId) quota.capacityBucket
        (request.reserveCall claims fenceAt) c = true ↔
      isRetired db.tombstones quota.capacityBucket c = false ∧ ∃ row, FindsReleasable
        (rowsWithInserted db.storedObjects request
          (request.now + request.leaseDurationSeconds * second) claims) request c row := by
    rw [hbase]
    exact isReservable_iff hbatch.apart hc hrequest.organization_known
      (hrequest.project_known c ((hnormalized.mem_iff c).mp hc))
  have hdeltas (hall : ∀ c ∈ claims, ∃ row, FindsReleasable (rowsWithInserted db.storedObjects request
        (request.now + request.leaseDurationSeconds * second) claims) request c row) :
      (progressAfter db.storedObjects (request.reserveCall claims fenceAt)
          (request.now + request.leaseDurationSeconds * second)
          (orderedClaims cluster claims)).byteDelta =
        ((insertedClaims db.storedObjects request.organizationId claims).map
          StorageObjectClaim.sizeBytes).sum ∧
      (progressAfter db.storedObjects (request.reserveCall claims fenceAt)
          (request.now + request.leaseDurationSeconds * second)
          (orderedClaims cluster claims)).countDelta =
        ((insertedClaims db.storedObjects request.organizationId claims).length : Int) := by
    rw [insertedClaims_eq_fresh hbatch.apart hall]
    exact progressAfter_deltas
  have hnone : (insertedClaims db.storedObjects request.organizationId claims).length = 0 →
      ((insertedClaims db.storedObjects request.organizationId claims).map
        StorageObjectClaim.sizeBytes).sum = 0 := by
    intro hlength
    rw [List.length_eq_zero_iff.mp hlength]
    rfl
  have hobjects : (withTenantQuota db request.organizationId).storedObjects = db.storedObjects := by
    rw [hbase]
  refine .of_ok (fun outcome h => ?_) (fun outcome h => ?_)
  · simp only [hquota, bind_eq_ok, demand_eq_ok, Option.some.injEq, exists_eq_left', require_eq_ok,
      hobjects] at h
    obtain ⟨_, hmaintenance, _, hretired, ⟨rows, leased, inserted⟩, hleased, db₁, hcounters,
      houtcome⟩ := h
    obtain ⟨hall, rfl, rfl, hreservation⟩ :=
      leaseRows_cases claims fenceAt hbatch.apart hlater hdb.rows hleased
    obtain ⟨hfits, rfl⟩ := (reserveCounters_eq_ok hwithin htenant htenantWithin hnone _).mp hcounters
    cases houtcome
    obtain ⟨hbytes, hcount⟩ := hdeltas hall
    have hunretired : ∀ c ∈ claims, isRetired db.tombstones quota.capacityBucket c = false := by
      simpa using hretired
    refine ⟨_, databaseError_eq_ok.mpr ((reserveBatch_eq_ok hdb.rows hbatch
      hrequest.organization_uuid hrequest.organization_known htoken hduration hquota
      (hpass.reserveFences.mpr hmaintenance) htenant rfl).mpr
        ⟨⟨fun c hc => (hreservable c hc).mpr ⟨hunretired c hc, hall c hc⟩, ?_⟩, rfl⟩), ?_⟩
    · rw [hbytes, hcount]
      exact hfits
    · rw [hbytes, hcount]
      refine ⟨.of_charged (leasedRows_perm hbatch.apart hlater hall), ?_, rfl, rfl⟩
      show (leased.map _).Perm _
      rw [hreservation]
      exact ((orderedClaims_perm cluster claims).map _).symm
  · have hpostgresql := databaseError_eq_ok.mp h
    have hmaintenance : quota.maintenanceToken.isNone = true := by
      obtain ⟨db₂, reservation⟩ := outcome
      obtain ⟨_, _, owner, _, _, hreserved, -⟩ := reserveBatch_cases hpostgresql hdb.rows
      obtain rfl : quota = owner := Option.some.inj (hquota.symm.trans hreserved.quota_found)
      exact hpass.reserveFences.mp hreserved.fences
    obtain ⟨⟨hall, hfits⟩, -⟩ := (reserveBatch_eq_ok hdb.rows hbatch hrequest.organization_uuid
      hrequest.organization_known htoken hduration hquota (hpass.reserveFences.mpr hmaintenance)
      htenant rfl).mp hpostgresql
    have hfinds := fun c hc => ((hreservable c hc).mp (hall c hc)).2
    have hretired : (!claims.any (isRetired db.tombstones quota.capacityBucket)) = true := by
      simpa using fun c hc => ((hreservable c hc).mp (hall c hc)).1
    obtain ⟨⟨rows, leased, inserted⟩, hleased⟩ :=
      exists_leaseRows hbatch.apart hlater hdb.rows.keys_nodup hfinds
    obtain ⟨-, rfl, rfl, -⟩ :=
      leaseRows_cases claims fenceAt hbatch.apart hlater hdb.rows hleased
    obtain ⟨hbytes, hcount⟩ := hdeltas hfinds
    rw [hbytes, hcount] at hfits
    have hcounters := (reserveCounters_eq_ok hwithin htenant htenantWithin hnone
      (leasedRows db.storedObjects request (request.now + request.leaseDurationSeconds * second)
        claims)).mpr ⟨hfits, rfl⟩
    simp only [hquota, bind_eq_ok, demand_eq_ok, Option.some.injEq, exists_eq_left', require_eq_ok,
      hobjects]
    exact ⟨_, (), hmaintenance, (), hretired, _, hleased, _, hcounters, rfl⟩

end Parity

end Custombuild.Storage
