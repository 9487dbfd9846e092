/-
  The accounting of the ledger over whole runs, in the words of its tables, and the error
  branches that it makes unreachable.
-/
import Custombuild.Storage.Backfilled

namespace Custombuild.Storage

open Custombuild.Lib

/-! ## Underflows -/

def IsUnderflow (e : StorageError) : Prop := e = reservedUnderflow ∨ e = committedUnderflow

instance (e : StorageError) : Decidable (IsUnderflow e) :=
  inferInstanceAs (Decidable (e = reservedUnderflow ∨ e = committedUnderflow))

/-- An underflow is raised under the code of the quota invariants. -/
theorem not_isUnderflow_raised {errcode message : String} (h : errcode ≠ "P0002") :
    ¬IsUnderflow (.raised errcode message) := by
  rintro (heq | heq)
  · cases heq
    exact h rfl
  · cases heq
    exact h rfl

theorem not_isUnderflow_claimInvalid (detail : String) : ¬IsUnderflow (claimInvalid detail) :=
  not_isUnderflow_raised (by decide)

theorem not_isUnderflow_claimConflict (detail : String) : ¬IsUnderflow (claimConflict detail) :=
  not_isUnderflow_raised (by decide)

theorem not_isUnderflow_missing :
    ¬IsUnderflow globalQuotaMissing ∧ ¬IsUnderflow tenantQuotaMissing ∧
      ¬IsUnderflow (quotaInvariant "token-bound delete failed") := by
  decide +kernel

section Raises

variable {cluster : Cluster} {db : Database}

theorem raises_assertUuid (name value : String) :
    Raises (fun e => ¬IsUnderflow e) (assertUuid name value) :=
  raises_require (not_isUnderflow_claimInvalid _)

theorem raises_assertText (name value : String) (maximum : Nat) :
    Raises (fun e => ¬IsUnderflow e) (assertText cluster name value maximum) :=
  raises_require (not_isUnderflow_claimInvalid _)

theorem raises_requireTenant (tenantContext organizationId : String) :
    Raises (fun e => ¬IsUnderflow e) (requireTenant tenantContext organizationId) := by
  refine raises_bind (raises_assertUuid _ _) fun _ _ => ?_
  exact raises_require (not_isUnderflow_raised (by decide))

theorem raises_demandText (claim : Json) (name : String) :
    Raises (fun e => ¬IsUnderflow e) (demandText claim name) := by
  unfold demandText
  split
  · exact raises_ok
  · exact raises_error (not_isUnderflow_claimInvalid _)

theorem raises_demandSize (claim : Json) : Raises (fun e => ¬IsUnderflow e) (demandSize claim) := by
  unfold demandSize
  split
  · split
    · exact raises_ok
    · exact raises_error (not_isUnderflow_claimInvalid _)
  · exact raises_error (not_isUnderflow_claimInvalid _)

theorem raises_assertClaim (item : Json) :
    Raises (fun e => ¬IsUnderflow e) (assertClaim cluster item) := by
  unfold assertClaim
  refine raises_bind (raises_require (not_isUnderflow_claimInvalid _)) fun _ _ => ?_
  refine raises_bind (raises_require (not_isUnderflow_claimInvalid _)) fun _ _ => ?_
  refine raises_bind (raises_demandText _ _) fun _ _ => ?_
  refine raises_bind (raises_demandText _ _) fun _ _ => ?_
  refine raises_bind (raises_demandText _ _) fun _ _ => ?_
  refine raises_bind (raises_demandSize _) fun _ _ => ?_
  refine raises_bind (raises_demandText _ _) fun _ _ => ?_
  refine raises_bind (raises_demandText _ _) fun _ _ => ?_
  refine raises_bind (raises_demandText _ _) fun _ _ => ?_
  refine raises_bind (raises_demandText _ _) fun _ _ => ?_
  refine raises_bind (raises_assertUuid _ _) fun _ _ => ?_
  refine raises_bind (raises_assertUuid _ _) fun _ _ => ?_
  refine raises_bind (raises_assertText _ _ _) fun _ _ => ?_
  refine raises_bind (raises_assertText _ _ _) fun _ _ => ?_
  refine raises_bind (raises_assertText _ _ _) fun _ _ => ?_
  refine raises_bind (raises_assertText _ _ _) fun _ _ => ?_
  refine raises_bind (raises_require (not_isUnderflow_claimInvalid _)) fun _ _ => ?_
  refine raises_bind (raises_require (not_isUnderflow_claimInvalid _)) fun _ _ => ?_
  exact raises_ok

theorem raises_assertDistinct (claims : List StorageObjectClaim) :
    Raises (fun e => ¬IsUnderflow e) (assertDistinct claims) := by
  induction claims with
  | nil => exact raises_ok
  | cons claim claims ih =>
    refine raises_bind (raises_require (not_isUnderflow_claimInvalid _)) fun _ _ => ?_
    exact ih

theorem raises_assertClaims (json : Json) :
    Raises (fun e => ¬IsUnderflow e) (assertClaims cluster json) := by
  unfold assertClaims
  split
  · refine raises_bind (raises_require (not_isUnderflow_claimInvalid _)) fun _ _ => ?_
    refine raises_bind (raises_collect fun item _ => raises_assertClaim item) fun _ _ => ?_
    refine raises_bind (raises_assertDistinct _) fun _ _ => ?_
    exact raises_ok
  · exact raises_error (not_isUnderflow_claimInvalid _)

theorem raises_commitClaim (call : CommitCall) (rows : List StoredObject)
    (claim : StorageObjectClaim) :
    Raises (fun e => ¬IsUnderflow e) (commitClaim call rows claim) := by
  unfold commitClaim
  split
  · refine raises_bind (raises_require (not_isUnderflow_claimConflict _)) fun _ _ => ?_
    split
    · exact raises_ok
    · refine raises_bind (raises_require (not_isUnderflow_claimConflict _)) fun _ _ => ?_
      exact raises_ok
  · exact raises_error (not_isUnderflow_claimConflict _)

theorem raises_commitDeltas (call : CommitCall) (rows : List StoredObject)
    (claims : List StorageObjectClaim) (deltas : Int × Int) :
    Raises (fun e => ¬IsUnderflow e) (commitDeltas call rows deltas claims) := by
  induction claims generalizing deltas with
  | nil => exact raises_ok
  | cons claim claims ih =>
    refine raises_bind (raises_commitClaim call rows claim) fun found _ => ?_
    cases found with
    | none => exact ih _
    | some row => exact ih _

/-- A commit on a consistent ledger never asks for more than the reserved counters hold. -/
theorem raises_commitBatch (hdb : db.Consistent) (call : CommitCall) :
    Raises (fun e => ¬IsUnderflow e) (commitBatch cluster db call) := by
  obtain ⟨hglobal, htenantMissing, -⟩ := not_isUnderflow_missing
  unfold commitBatch
  refine raises_bind (raises_requireTenant _ _) fun _ _ => ?_
  refine raises_bind (raises_assertUuid _ _) fun _ _ => ?_
  refine raises_bind (raises_assertClaims _) fun claims hclaims => ?_
  refine raises_bind (raises_demand hglobal) fun quota hquota => ?_
  refine raises_bind (raises_demand htenantMissing) fun tenant htenant => ?_
  refine raises_bind (raises_commitDeltas _ _ _ _) fun deltas hdeltas => ?_
  rcases deltas with ⟨bytes, count⟩
  have hapart : (orderedClaims cluster claims).Pairwise Apart :=
    apart_orderedClaims (canonicalBatch_of_assertClaims hclaims).apart
  obtain ⟨-, hsum⟩ := (commitDeltas_eq_ok hdb.rows hapart).mp hdeltas
  have hcovers := reservedCovers_of_committing hdb (demand_eq_ok.mp hquota)
    (demand_eq_ok.mp htenant) ((zero_add _).symm.trans hsum)
  simp only [hcovers]
  refine raises_bind raises_ok fun _ _ => ?_
  split
  · exact raises_ok
  · exact raises_ok

theorem raises_checkFinalizeArguments (call : FinalizeReapCall) :
    Raises (fun e => ¬IsUnderflow e) (checkFinalizeArguments cluster call) := by
  unfold checkFinalizeArguments
  refine raises_bind (raises_requireTenant _ _) fun _ _ => ?_
  refine raises_bind (raises_assertText _ _ _) fun _ _ => ?_
  refine raises_bind (raises_assertUuid _ _) fun _ _ => ?_
  refine raises_bind (raises_assertText _ _ _) fun _ _ => ?_
  refine raises_bind (raises_require (not_isUnderflow_claimInvalid _)) fun _ _ => ?_
  exact raises_demand (not_isUnderflow_claimInvalid _)

/-- A finalization on a consistent ledger releases what its counters hold. -/
theorem raises_releaseCounters {quota : GlobalQuota} {tenant : TenantQuota} {row : StoredObject}
    {kind : AccountingState} (changed : Database) (hdb : db.Consistent)
    (hquota : db.globalQuota = some quota)
    (htenant : db.tenantQuota row.organizationId = some tenant) (hrow : row ∈ db.storedObjects)
    (hkind : row.accounting = some kind) :
    Raises (fun e => ¬IsUnderflow e)
      (releaseCounters changed quota tenant kind row.organizationId row.sizeBytes) := by
  obtain ⟨htenantLe, hquotaLe⟩ := usage_le_counters hdb hquota htenant hrow hkind
  cases kind with
  | reserved =>
    have hcovers : reservedCovers quota tenant row.sizeBytes 1 = true := by
      simp only [reservedCovers, Bool.and_eq_true, decide_eq_true_eq]
      exact ⟨⟨⟨hquotaLe.1, hquotaLe.2⟩, htenantLe.1⟩, htenantLe.2⟩
    simp only [releaseCounters, hcovers]
    exact raises_bind raises_ok fun _ _ => raises_ok
  | committed =>
    have hcovers : committedCovers quota tenant row.sizeBytes 1 = true := by
      simp only [committedCovers, Bool.and_eq_true, decide_eq_true_eq]
      exact ⟨⟨⟨hquotaLe.1, hquotaLe.2⟩, htenantLe.1⟩, htenantLe.2⟩
    simp only [releaseCounters, hcovers]
    exact raises_bind raises_ok fun _ _ => raises_ok

theorem raises_finalizeReap (hdb : db.Consistent) (call : FinalizeReapCall) :
    Raises (fun e => ¬IsUnderflow e) (finalizeReap cluster db call) := by
  obtain ⟨hglobal, htenantMissing, hdelete⟩ := not_isUnderflow_missing
  have hblocked : ¬IsUnderflow (.raised "23503"
      "STORAGE_REAP_BLOCKED: object still has a domain reference") :=
    not_isUnderflow_raised (by decide)
  unfold finalizeReap
  refine raises_bind (raises_checkFinalizeArguments call) fun kind hkind => ?_
  refine raises_bind (raises_demand hglobal) fun quota hquota => ?_
  refine raises_bind (raises_require (not_isUnderflow_raised (by decide))) fun _ _ => ?_
  refine raises_bind (raises_demand htenantMissing) fun tenant htenant => ?_
  refine raises_bind (raises_demand (not_isUnderflow_claimConflict _)) fun row hrow => ?_
  refine raises_bind (raises_require (not_isUnderflow_claimConflict _)) fun _ howned => ?_
  refine raises_bind (raises_require hblocked) fun _ _ => ?_
  refine raises_bind ?_ fun tombstones _ => ?_
  · refine raises_bind (raises_require (by decide)) fun _ _ => ?_
    refine raises_bind (raises_require (by decide)) fun _ _ => ?_
    exact raises_ok
  rw [demand_eq_ok] at hquota htenant hrow
  rw [require_eq_ok] at howned
  simp only [checkFinalizeArguments, bind_eq_ok, demand_eq_ok] at hkind
  obtain ⟨_, -, _, -, _, -, _, -, _, -, hmarked⟩ := hkind
  have hkeys := List.find?_some hrow
  simp only [Bool.and_eq_true, beq_iff_eq] at hkeys
  have haccounting := accounting_of_ownsReapClaim howned hmarked
  have hsize : row.sizeBytes = call.sizeBytes := (ownsReapClaim_iff.mp howned).2.2.1
  rw [← hkeys.1] at htenant
  rw [← hkeys.1, ← hsize]
  refine raises_bind (raises_releaseCounters _ hdb hquota htenant
    (List.mem_of_find?_eq_some hrow) haccounting) fun _ _ => ?_
  refine raises_bind (raises_require hdelete) fun _ _ => ?_
  exact raises_ok

end Raises

/-! ## Runs -/

/-- Reserved, or in reaping under a claim token of version 4. -/
def StoredObject.isReservedCharge (row : StoredObject) : Bool :=
  row.state = .reserved ||
    row.state = .reaping && row.claimToken.any fun token => marker token == some '4'

/-- Committed, waiting for deletion, or in reaping under a claim token of version 5. -/
def StoredObject.isCommittedCharge (row : StoredObject) : Bool :=
  row.state = .committed || row.state = .deletePending ||
    row.state = .reaping && row.claimToken.any fun token => marker token == some '5'

/-- The rows of a tenant that meet a condition: their bytes and their number. -/
def usageOf (db : Database) (organizationId : String) (p : StoredObject → Bool) : Int × Int :=
  Table.sumOf StoredObject.usage
    (db.storedObjects.filter fun row => row.organizationId == organizationId && p row)

/-- The ledger adds up: on the level of the tenants, on the global level, within the limits,
    and every row has the lease and claim columns of its state. -/
structure Accounted (db : Database) (quota : GlobalQuota) : Prop where
  found : db.globalQuota = some quota
  tenant_reserved : ∀ tenant ∈ db.tenantQuotas, (tenant.reservedBytes, tenant.reservedCount) =
    usageOf db tenant.organizationId StoredObject.isReservedCharge
  tenant_committed : ∀ tenant ∈ db.tenantQuotas, (tenant.committedBytes, tenant.committedCount) =
    usageOf db tenant.organizationId StoredObject.isCommittedCharge
  tenant_nonneg : ∀ tenant ∈ db.tenantQuotas, 0 ≤ tenant.reservedBytes ∧
    0 ≤ tenant.reservedCount ∧ 0 ≤ tenant.committedBytes ∧ 0 ≤ tenant.committedCount
  tenant_within : ∀ tenant ∈ db.tenantQuotas,
    tenant.reservedBytes + tenant.committedBytes ≤ tenant.byteLimit ∧
      tenant.reservedCount + tenant.committedCount ≤ tenant.objectLimit
  tenant_of_row : ∀ row ∈ db.storedObjects,
    ∃ tenant ∈ db.tenantQuotas, tenant.organizationId = row.organizationId
  global_reserved : quota.reservedBytes = (db.tenantQuotas.map TenantQuota.reservedBytes).sum ∧
    quota.reservedCount = (db.tenantQuotas.map TenantQuota.reservedCount).sum
  global_committed : quota.committedBytes = (db.tenantQuotas.map TenantQuota.committedBytes).sum ∧
    quota.committedCount = (db.tenantQuotas.map TenantQuota.committedCount).sum
  global_nonneg : 0 ≤ quota.reservedBytes ∧ 0 ≤ quota.reservedCount ∧
    0 ≤ quota.committedBytes ∧ 0 ≤ quota.committedCount
  global_within : quota.reservedBytes + quota.committedBytes ≤ quota.byteLimit ∧
    quota.reservedCount + quota.committedCount ≤ quota.objectLimit
  shapes : ∀ row ∈ db.storedObjects, row.shapeOk = true

section Accounted

variable {cluster : Cluster} {db : Database}

theorem isReservedCharge_iff {row : StoredObject} :
    row.isReservedCharge = true ↔ row.accounting = some .reserved := by
  cases hstate : row.state <;> cases htoken : row.claimToken <;>
    simp [StoredObject.isReservedCharge, StoredObject.accounting, hstate, htoken,
      counterKindFromToken]

theorem isCommittedCharge_iff {row : StoredObject} :
    row.isCommittedCharge = true ↔ row.accounting = some .committed := by
  cases hstate : row.state <;> cases htoken : row.claimToken <;>
    simp [StoredObject.isCommittedCharge, StoredObject.accounting, hstate, htoken,
      counterKindFromToken]
  · rename_i token
    split <;> simp_all

/-- The charge of a tenant as a sum over the rows that meet the condition of the family. -/
theorem chargeOf_eq_usageOf {organizationId : String} {kind : AccountingState}
    {p : StoredObject → Bool} (hp : ∀ row, p row = true ↔ row.accounting = some kind) :
    chargeOf db.storedObjects organizationId kind = usageOf db organizationId p := by
  unfold chargeOf usageOf
  induction db.storedObjects with
  | nil => rfl
  | cons row rows ih =>
    rw [Table.sumOf_cons, ih, List.filter_cons]
    by_cases hrow : row.organizationId = organizationId ∧ p row = true
    · have hcharged : chargedTo organizationId kind row = row.usage :=
        if_pos ⟨hrow.1, (hp row).mp hrow.2⟩
      rw [if_pos (by simpa using hrow), Table.sumOf_cons, hcharged]
    · have hcharged : chargedTo organizationId kind row = 0 :=
        if_neg fun h => hrow ⟨h.1, (hp row).mpr h.2⟩
      rw [if_neg (by simpa using hrow), hcharged, zero_add]

theorem sumOf_counters_reserved (tenants : List TenantQuota) :
    Table.sumOf (fun tenant : TenantQuota => tenant.counters .reserved) tenants =
      ((tenants.map TenantQuota.reservedBytes).sum, (tenants.map TenantQuota.reservedCount).sum) := by
  induction tenants with
  | nil => rfl
  | cons tenant tenants ih =>
    rw [Table.sumOf_cons, ih]
    simp [TenantQuota.counters]

theorem Database.Consistent.counters_nonneg (h : db.Consistent) {tenant : TenantQuota}
    (htenant : tenant ∈ db.tenantQuotas) (kind : AccountingState) : 0 ≤ tenant.counters kind := by
  rw [(h.tenants tenant htenant).charged kind]
  exact chargeOf_nonneg h.rows _ _

theorem Database.Consistent.accounted (h : db.Consistent) : ∃ quota, Accounted db quota := by
  obtain ⟨quota, hquota, hglobal⟩ := h.quota
  have hnonneg (kind : AccountingState) : 0 ≤ quota.counters kind := by
    rw [hglobal.summed kind]
    exact Table.sumOf_nonneg fun tenant htenant => h.counters_nonneg htenant kind
  have hreserved := hglobal.summed .reserved
  have hcommitted := hglobal.summed .committed
  rw [sumOf_counters_reserved] at hreserved
  rw [sumOf_counters_committed] at hcommitted
  refine ⟨quota, hquota, fun tenant htenant => ?_, fun tenant htenant => ?_,
    fun tenant htenant => ?_, fun tenant htenant => (h.tenants tenant htenant).within,
    fun row hrow => ?_, Prod.mk.inj hreserved, Prod.mk.inj hcommitted, ?_, hglobal.within,
    h.rows.shapes⟩
  · rw [← chargeOf_eq_usageOf fun _ => isReservedCharge_iff]
    exact (h.tenants tenant htenant).charged .reserved
  · rw [← chargeOf_eq_usageOf fun _ => isCommittedCharge_iff]
    exact (h.tenants tenant htenant).charged .committed
  · have hr := h.counters_nonneg htenant .reserved
    have hc := h.counters_nonneg htenant .committed
    exact ⟨hr.1, hr.2, hc.1, hc.2⟩
  · obtain ⟨tenant, htenant, heq⟩ := List.mem_map.mp (h.tenant_of_row row hrow)
    exact ⟨tenant, htenant, heq⟩
  · exact ⟨(hnonneg .reserved).1, (hnonneg .reserved).2, (hnonneg .committed).1,
      (hnonneg .committed).2⟩

theorem executeAll_consistent {db' : Database} {statements : List Statement}
    (h : executeAll cluster db statements = .ok db') (hdb : db.Consistent) : db'.Consistent :=
  executeAll_invariant (fun h hI => execute_consistent h hI) h hdb

/-- Every state of a run from a consistent ledger is consistent. -/
theorem stateAt_consistent (hdb : db.Consistent) (actions : List Action) (k : Nat) :
    (stateAt (step cluster) db actions k).Consistent := by
  refine stateAt_invariant hdb (fun state hstate action _ => ?_) k
  refine step_invariant (fun h hI => execute_consistent h hI) (fun hI => ?_) hstate action
  exact hI.of_rows hI.rows rfl (fun row hrow => ⟨row, hrow, rfl⟩) (fun _ _ => rfl) hI.quota

end Accounted

/-- From the backfilled ledger, in every state of every run, also between two statements of
    a transaction: the ledger adds up, and neither a commit nor a finalization raises an
    underflow. -/
theorem ledger_accounted {cluster : Cluster} {tables : LegacyTables} {startedAt now : Int}
    {db state : Database} (hbackfill : backfill tables startedAt now = .ok db)
    (actions : List Action) (k : Nat) (statements : List Statement)
    (hstate : executeAll cluster (stateAt (step cluster) db actions k) statements = .ok state) :
    (∃ quota, Accounted state quota) ∧
      (∀ call e, commitBatch cluster state call = .error e →
        e ≠ reservedUnderflow ∧ e ≠ committedUnderflow) ∧
      ∀ call e, finalizeReap cluster state call = .error e →
        e ≠ reservedUnderflow ∧ e ≠ committedUnderflow := by
  have hdb : (stateAt (step cluster) db actions k).Consistent :=
    stateAt_consistent (backfill_consistent hbackfill) actions k
  have hconsistent := executeAll_consistent hstate hdb
  refine ⟨hconsistent.accounted, fun call e he => ?_, fun call e he => ?_⟩
  · exact not_or.mp (raises_commitBatch hconsistent call e he)
  · exact not_or.mp (raises_finalizeReap hconsistent call e he)

/-! ## A run

One tenant with one project and one imported asset that the migration finds, and the calls
of one capacity attestor, one writer and one reaper. -/

namespace Sample

/-- The C locale. -/
def cluster : Cluster where
  isControlOrSpace := fun c => c.toNat ≤ 32 || c.toNat == 127
  collates := fun a b => decide (a ≤ b)

def organization : String := "11111111-1111-4111-8111-111111111111"

def project : String := "22222222-2222-4222-8222-222222222222"

def asset : String := "33333333-3333-4333-8333-333333333333"

def upload : String := "44444444-4444-4444-8444-444444444444"

def lease : String := "55555555-5555-4555-8555-555555555555"

def reaper : String := "66666666-6666-4666-8666-666666666666"

def gate : String := "77777777-7777-4777-8777-777777777777"

def sha256 : String := "0123456789abcdef0123456789abcdef0123456789abcdef0123456789abcdef"

def reference (id key : String) (size : Int) : DomainReference :=
  ⟨id, organization, key, sha256, size, "image/png", .importedAsset project⟩

def tables : LegacyTables :=
  ⟨[organization], [(organization, project)], [], [], [reference asset "assets/a" 10],
    by simp [reference]⟩

def claim (id key : String) (size : Int) : Json :=
  .obj [("project_id", .str project), ("object_key", .str key), ("sha256", .str sha256),
    ("size_bytes", .num size 0), ("media_type", .str "image/png"),
    ("owner_type", .str "imported_asset"), ("owner_id", .str id),
    ("idempotency_key", .str ("imported:" ++ id))]

/-- The evidence for a bucket with the given committed objects. -/
def attestation (bytes count now : Int) : AttestCapacityCall where
  provisionedBytes := 1000000
  metadataOverheadBytes := 1000
  emergencyReserveBytes := 1000
  byteLimit := 100000
  objectLimit := 1000
  volumeIdentity := "volume"
  capacityBucket := "bucket"
  capacityOperatorConfigSha256 := sha256
  deployDescriptorSha256 := sha256
  inventorySha256 := sha256
  inventoryObjectCount := count
  inventoryBytes := bytes
  ledgerObjectCount := count
  ledgerBytes := bytes
  capacityAttestedAt := now
  capacityEvidenceSha256 := sha256
  now := now

def reserveUpload (now : Int) : ReserveCall :=
  ⟨organization, organization, .arr [claim upload "assets/b" 20], lease, 60, now, now⟩

def commitUpload (now : Int) : CommitCall :=
  ⟨organization, organization, .arr [claim upload "assets/b" 20], lease, now⟩

/-- A claim on what the tenant has committed and nothing refers to. -/
def claimCommitted (now : Int) : ClaimReapCall :=
  ⟨organization, organization, reaper, 60, 10, .committed, now, []⟩

def finalizeUpload (now : Int) : FinalizeReapCall :=
  ⟨organization, organization, "assets/b", sha256, 20, overlayMarker reaper '5', "bucket", now⟩

/-- An upload is reserved and committed, and claimed by a reaper. -/
def actions : List Action :=
  [.transaction [.attest (attestation 10 1 5)], .transaction [.reserve (reserveUpload 6)],
    .transaction [.commit (commitUpload 7)], .transaction [.claimReap (claimCommitted 8)]]

/-- The run reaches the finalization, and the finalization returns. -/
theorem reaches_finalization : (okAnd (backfill tables 0 1) fun db =>
    okAnd (executeAll cluster (stateAt (step cluster) db actions 4)
      [.finalizeReap (finalizeUpload 9)]) fun state => state.tombstones.length == 1) = true := by
  decide +kernel

example : actions.length = 4 := by decide +kernel

end Sample

theorem ledger_accounted_sample : ∃ db state quota, backfill Sample.tables 0 1 = .ok db ∧
    executeAll Sample.cluster (stateAt (step Sample.cluster) db Sample.actions 4)
      [.finalizeReap (Sample.finalizeUpload 9)] = .ok state ∧ Accounted state quota := by
  obtain ⟨db, hdb, hnext⟩ := exists_of_okAnd Sample.reaches_finalization
  obtain ⟨state, hstate, -⟩ := exists_of_okAnd hnext
  obtain ⟨⟨quota, hquota⟩, -⟩ := ledger_accounted hdb Sample.actions 4 _ hstate
  exact ⟨db, state, quota, hdb, hstate, hquota⟩

end Custombuild.Storage
