/-
  The maintenance gate over whole histories.  The recovery processes, the writers and the
  restarts may come in any order; the gate is held by the last process that began, until it
  finishes, its lease ends or the database restarts, and reservations pass only in a boot that
  was found at rest.
-/
import Custombuild.Storage.History
import Custombuild.Storage.Ledger

namespace Custombuild.Storage

open Custombuild.Lib

/-! ## What a history says about the gate -/

/-- The token of a process that began, with the epoch it was given. -/
def Event.begun : Event → Option (String × Int)
  | .executed before (.beginMaintenance token bucket databaseNow) _ =>
    match beginMaintenance before token bucket databaseNow with
    | .ok (_, epoch) => some (token, epoch)
    | .error _ => none
  | _ => none

def Event.isFinish : Event → Bool
  | .executed _ (.finishMaintenance ..) _ => true
  | _ => false

def Event.isRestart : Event → Bool
  | .restarted .. => true
  | _ => false

def Event.isReserve : Event → Bool
  | .executed _ (.reserve _) _ => true
  | _ => false

/-- The token, the epoch and the clock of a renewal, a snapshot or a finish. -/
def Event.gateUse : Event → Option (String × Int × Int)
  | .executed _ (.renewMaintenance token epoch databaseNow _) _ => some (token, epoch, databaseNow)
  | .executed _ (.snapshotMaintenance token epoch databaseNow) _ => some (token, epoch, databaseNow)
  | .executed _ (.finishMaintenance token epoch databaseNow) _ => some (token, epoch, databaseNow)
  | _ => none

/-- The end of the lease that a begin or a renewal gives. -/
def Event.leaseUntil : Event → Option Int
  | .executed _ (.beginMaintenance _ _ databaseNow) _ =>
    some (databaseNow + maintenanceLeaseSeconds * second)
  | .executed _ (.renewMaintenance _ _ _ renewedAt) _ =>
    some (renewedAt + maintenanceLeaseSeconds * second)
  | _ => none

/-- The last lease given in a part of the history. -/
def lastLease (events : List Event) : Option Int := (events.filterMap Event.leaseUntil).getLast?

/-- Nobody began or finished, and the database did not restart. -/
def Uninterrupted (events : List Event) : Prop :=
  ∀ event ∈ events, event.begun = none ∧ event.isFinish = false ∧ event.isRestart = false

/-- The process with this token and epoch began last and still owns the gate, up to `expiry`. -/
def OwnedBy (past : List Event) (token : String) (epoch expiry : Int) : Prop :=
  ∃ older start newer, past = older ++ start :: newer ∧ start.begun = some (token, epoch) ∧
    Uninterrupted newer ∧ lastLease (start :: newer) = some expiry

/-- No object is in flight and nothing is reserved, on either level. -/
structure AtRest (db : Database) : Prop where
  rows : ∀ row ∈ db.storedObjects, row.state = .committed
  tenants : ∀ tenant ∈ db.tenantQuotas, tenant.reservedBytes = 0 ∧ tenant.reservedCount = 0
  quota : ∀ quota, db.globalQuota = some quota → quota.reservedBytes = 0 ∧ quota.reservedCount = 0

/-- Some process finished in the running boot, and found the ledger at rest. -/
def FoundAtRest (past : List Event) : Prop :=
  ∃ older finish newer, past = older ++ finish :: newer ∧ finish.isFinish = true ∧
    AtRest finish.before ∧ AtRest finish.after ∧ ∀ event ∈ newer, event.isRestart = false

/-! ## The gate columns -/

structure GateColumns where
  token : Option String
  epoch : Int
  ownerExpiresAt : Option Int
  databaseStartedAt : Option Int
  recoveredIn : Option Int

def GlobalQuota.gateColumns (quota : GlobalQuota) : GateColumns :=
  ⟨quota.maintenanceToken, quota.maintenanceEpoch, quota.maintenanceOwnerExpiresAt,
    quota.maintenanceDatabaseStartedAt, quota.recoveryDatabaseStartedAt⟩

/-- The gate columns agree with the history. -/
structure GateOk (past : List Event) (startedAt : Int) (gate : GateColumns) : Prop where
  increasing : (past.filterMap Event.begun).Pairwise fun a b => a.2 < b.2
  epoch : ∀ begun ∈ past.filterMap Event.begun, begun.2 ≤ gate.epoch
  boot : ∀ t, gate.databaseStartedAt = some t → t ≤ startedAt
  owner : ∀ token, gate.token = some token → gate.databaseStartedAt = some startedAt →
    ∃ expiry, gate.ownerExpiresAt = some expiry ∧ OwnedBy past token gate.epoch expiry
  recovered : ∀ t, gate.recoveredIn = some t → t ≤ startedAt ∧
    (t = startedAt → (∀ event ∈ past, event.isRestart = false) ∨ FoundAtRest past)

/-- Every tenant of the ledger is an organization, by the foreign key of its quota row. -/
def Database.TenantsKnown (db : Database) : Prop :=
  ∀ tenant ∈ db.tenantQuotas, tenant.organizationId ∈ db.organizations

/-- What holds in every state of a history. -/
structure Guarded (past : List Event) (db : Database) : Prop where
  consistent : db.Consistent
  known : db.TenantsKnown
  gate : ∃ quota, db.globalQuota = some quota ∧ GateOk past db.startedAt quota.gateColumns

/-! ## Events that leave the gate alone -/

section Past

variable {past : List Event} {event : Event}

theorem OwnedBy.extend {token : String} {epoch expiry : Int} (h : OwnedBy past token epoch expiry)
    (hbegun : event.begun = none) (hfinish : event.isFinish = false)
    (hrestart : event.isRestart = false) :
    OwnedBy (past ++ [event]) token epoch (event.leaseUntil.getD expiry) := by
  obtain ⟨older, start, newer, rfl, hstart, hnewer, hlease⟩ := h
  refine ⟨older, start, newer ++ [event], by simp, hstart, fun e he => ?_, ?_⟩
  · rcases List.mem_append.mp he with hold | hlast
    · exact hnewer e hold
    · rw [List.mem_singleton.mp hlast]
      exact ⟨hbegun, hfinish, hrestart⟩
  · unfold lastLease at hlease ⊢
    rw [← List.cons_append, List.filterMap_append]
    cases huntil : event.leaseUntil with
    | none => simpa [huntil] using hlease
    | some until' => simp [huntil]

theorem FoundAtRest.extend (h : FoundAtRest past) (hrestart : event.isRestart = false) :
    FoundAtRest (past ++ [event]) := by
  obtain ⟨older, finish, newer, rfl, hfinish, hbefore, hafter, hnewer⟩ := h
  refine ⟨older, finish, newer ++ [event], by simp, hfinish, hbefore, hafter, fun e he => ?_⟩
  rcases List.mem_append.mp he with hold | hlast
  · exact hnewer e hold
  · rw [List.mem_singleton.mp hlast]
    exact hrestart

theorem filterMap_begun_append (h : event.begun = none) :
    (past ++ [event]).filterMap Event.begun = past.filterMap Event.begun := by
  simp [h]

/-- An event that neither begins, finishes nor restarts, and that writes at most the end of
    the lease it gives. -/
theorem GateOk.extend {startedAt : Int} {gate gate' : GateColumns} (h : GateOk past startedAt gate)
    (hbegun : event.begun = none) (hfinish : event.isFinish = false)
    (hrestart : event.isRestart = false)
    (hgate : gate' = { gate with
      ownerExpiresAt := event.leaseUntil.or gate.ownerExpiresAt }) :
    GateOk (past ++ [event]) startedAt gate' := by
  subst hgate
  refine ⟨?_, ?_, h.boot, fun token htoken hboot => ?_, fun t ht => ?_⟩
  · rw [filterMap_begun_append hbegun]
    exact h.increasing
  · rw [filterMap_begun_append hbegun]
    exact h.epoch
  · obtain ⟨expiry, hexpiry, howned⟩ := h.owner token htoken hboot
    refine ⟨event.leaseUntil.getD expiry, ?_, howned.extend hbegun hfinish hrestart⟩
    show event.leaseUntil.or gate.ownerExpiresAt = some (event.leaseUntil.getD expiry)
    rw [hexpiry]
    cases event.leaseUntil <;> rfl
  · obtain ⟨hle, hrecovered⟩ := h.recovered t ht
    refine ⟨hle, fun heq => ?_⟩
    rcases hrecovered heq with hnone | hfound
    · refine .inl fun e he => ?_
      rcases List.mem_append.mp he with hold | hlast
      · exact hnone e hold
      · rw [List.mem_singleton.mp hlast]
        exact hrestart
    · exact .inr (hfound.extend hrestart)

/-- A restart ends every boot that the columns name. -/
theorem GateOk.restart {startedAt : Int} {delay : Nat} {gate : GateColumns}
    (h : GateOk past startedAt gate) (hevent : event.isRestart = true) :
    GateOk (past ++ [event]) (startedAt + 1 + delay) gate := by
  have hbegun : event.begun = none := by
    cases event with
    | executed before statement after => cases hevent
    | restarted before after => rfl
  refine ⟨?_, ?_, fun t ht => ?_, fun token _ hboot => ?_, fun t ht => ?_⟩
  · rw [filterMap_begun_append hbegun]
    exact h.increasing
  · rw [filterMap_begun_append hbegun]
    exact h.epoch
  · have hle := h.boot t ht
    omega
  · have hle := h.boot _ hboot
    omega
  · have hle := (h.recovered t ht).1
    refine ⟨by omega, fun heq => ?_⟩
    omega

end Past

/-! ## What statements do to the gate and to the tenants -/

section Statements

variable {cluster : Cluster} {db db' : Database} {statement : Statement}

def Statement.writesGate : Statement → Bool
  | .beginMaintenance .. | .renewMaintenance .. | .finishMaintenance .. => true
  | _ => false

/-- The boot and the gate columns stay, and the tenants stay known. -/
structure KeepsGate (db db' : Database) : Prop where
  startedAt : db'.startedAt = db.startedAt
  gate : db'.globalQuota.map GlobalQuota.gateColumns = db.globalQuota.map GlobalQuota.gateColumns
  known : db.TenantsKnown → db'.TenantsKnown

theorem KeepsGate.trans {db'' : Database} (h : KeepsGate db db') (h' : KeepsGate db' db'') :
    KeepsGate db db'' :=
  ⟨h'.startedAt.trans h.startedAt, h'.gate.trans h.gate, fun hknown => h'.known (h.known hknown)⟩

theorem keepsGate_withRows (rows : List StoredObject) : KeepsGate db (db.withRows rows) :=
  ⟨rfl, rfl, fun h => h⟩

theorem keepsGate_withQuota {quota quota' : GlobalQuota} (hfound : db.globalQuota = some quota)
    (hgate : quota'.gateColumns = quota.gateColumns) : KeepsGate db (db.withQuota quota') := by
  refine ⟨rfl, ?_, fun h => h⟩
  rw [hfound]
  exact congrArg some hgate

/-- Charging a tenant changes counters only. -/
theorem keepsGate_charged {quota quota' : GlobalQuota} {organizationId : String}
    {change : TenantQuota → TenantQuota}
    (htenants : db'.tenantQuotas = Table.modify
      (fun tenant => tenant.organizationId == organizationId) change db.tenantQuotas)
    (hchange : ∀ tenant, (change tenant).organizationId = tenant.organizationId)
    (hfound : db.globalQuota = some quota) (hquota : db'.globalQuota = some quota')
    (hgate : quota'.gateColumns = quota.gateColumns) (hstarted : db'.startedAt = db.startedAt)
    (horganizations : db'.organizations = db.organizations) : KeepsGate db db' := by
  refine ⟨hstarted, ?_, fun hknown tenant htenant => ?_⟩
  · rw [hfound, hquota]
    exact congrArg some hgate
  · rw [htenants] at htenant
    obtain ⟨old, hold, rfl⟩ := Table.mem_modify.mp htenant
    rw [horganizations]
    split
    · rw [hchange old]
      exact hknown old hold
    · exact hknown old hold

/-- The tenant row of a reservation is inserted only for an organization that exists. -/
theorem insertTenantQuotaIfMissing_keepsGate {organizationId : String}
    (h : insertTenantQuotaIfMissing db organizationId = .ok db') : KeepsGate db db' := by
  rcases insertTenantQuotaIfMissing_cases h with ⟨rfl, -⟩ | ⟨-, hknown, rfl⟩
  · exact ⟨rfl, rfl, fun h => h⟩
  · refine ⟨rfl, rfl, fun hall tenant htenant => ?_⟩
    rcases List.mem_append.mp htenant with hold | hnew
    · exact hall tenant hold
    · rw [List.mem_singleton.mp hnew]
      exact hknown

theorem insertTenantQuotaIfMissing_globalQuota {organizationId : String}
    (h : insertTenantQuotaIfMissing db organizationId = .ok db') :
    db'.globalQuota = db.globalQuota := by
  rcases insertTenantQuotaIfMissing_cases h with ⟨rfl, -⟩ | ⟨-, -, rfl⟩
  · rfl
  · rfl

theorem reserveBatch_keepsGate {call : ReserveCall} {reservation : StorageReservation}
    (h : reserveBatch cluster db call = .ok (db', reservation)) (hdb : db.Consistent) :
    KeepsGate db db' := by
  obtain ⟨claims, base, quota, tenant, expiry, hreserved, rfl⟩ := reserveBatch_cases h hdb.rows
  refine (insertTenantQuotaIfMissing_keepsGate hreserved.base_eq).trans ?_
  have hquota : base.globalQuota = some quota :=
    (insertTenantQuotaIfMissing_globalQuota hreserved.base_eq).trans hreserved.quota_found
  unfold reservedDatabase
  simp only
  split
  · exact keepsGate_charged rfl (fun _ => rfl) hquota rfl rfl rfl rfl
  · exact keepsGate_withRows _

theorem commitBatch_keepsGate {call : CommitCall} (h : commitBatch cluster db call = .ok db')
    (hdb : db.Consistent) : KeepsGate db db' := by
  obtain ⟨claims, quota, tenant, bytes, count, hcommitted, rfl⟩ := commitBatch_cases h hdb.rows
  split
  · exact keepsGate_charged rfl (fun _ => rfl) hcommitted.quota_found rfl rfl rfl rfl
  · exact ⟨rfl, rfl, fun h => h⟩

theorem finalizeReap_keepsGate {call : FinalizeReapCall}
    (h : finalizeReap cluster db call = .ok db') (hdb : db.Consistent) : KeepsGate db db' := by
  obtain ⟨kind, quota, tenant, row, hfinal, rfl⟩ := finalizeReap_cases h hdb.rows
  cases kind
  · exact keepsGate_charged rfl (fun _ => rfl) hfinal.quota_found rfl rfl rfl rfl
  · exact keepsGate_charged rfl (fun _ => rfl) hfinal.quota_found rfl rfl rfl rfl

/-- No statement outside the ledger removes an organization. -/
theorem execute_organizations (houtside : statement.isOutside = true)
    (h : execute cluster db statement = .ok db') {id : String} (hid : id ∈ db.organizations) :
    id ∈ db'.organizations := by
  cases statement <;> try cases houtside
  case snapshotMaintenance token epoch now =>
    cases hsnapshot : snapshotMaintenance db token epoch now <;>
      simp only [execute, hsnapshot, Except.map] at h <;> cases h
    exact hid
  case writeReference reference =>
    obtain ⟨-, rfl⟩ := writeReference_cases h
    exact hid
  case deleteReference table id =>
    cases h
    exact hid
  case insertJob job now =>
    obtain ⟨-, -, rfl⟩ := insertJob_cases h
    exact hid
  case updateJob organizationId id status leaseExpiresAt now =>
    obtain ⟨-, rfl⟩ := updateJob_cases h
    exact hid
  case insertOrganization id =>
    cases h
    exact List.mem_append_left _ hid
  case insertProject organizationId id =>
    cases h
    exact hid
  case insertDesignVersion version =>
    obtain ⟨-, rfl⟩ := insertDesignVersion_cases h
    exact hid

theorem execute_keepsGate (hquiet : statement.writesGate = false)
    (h : execute cluster db statement = .ok db') (hdb : db.Consistent) : KeepsGate db db' := by
  by_cases houtside : statement.isOutside = true
  · have hsame := execute_sameLedger houtside h
    refine ⟨hsame.startedAt, by rw [hsame.globalQuota], fun hknown tenant htenant => ?_⟩
    rw [hsame.tenantQuotas] at htenant
    exact execute_organizations houtside h (hknown tenant htenant)
  cases statement <;> try exact absurd rfl houtside
  case beginMaintenance token bucket now => cases hquiet
  case renewMaintenance token epoch now renewedAt => cases hquiet
  case finishMaintenance token epoch now => cases hquiet
  case reserve call =>
    obtain ⟨reservation, hreserve⟩ := exists_of_map_fst h
    exact reserveBatch_keepsGate hreserve hdb
  case renew call =>
    obtain ⟨claims, expiry, -, rfl⟩ := renewBatch_cases h hdb.rows
    exact keepsGate_withRows _
  case commit call => exact commitBatch_keepsGate h hdb
  case claimReap call =>
    obtain ⟨claims, hclaim⟩ := exists_of_map_fst h
    obtain ⟨p, token, expiry, -, -, rfl⟩ := claimReap_cases hclaim hdb.rows
    exact keepsGate_withRows _
  case finalizeReap call => exact finalizeReap_keepsGate h hdb
  case attest call =>
    obtain ⟨quota, hquota, -, -, -, rfl⟩ := attestCapacity_cases h
    exact keepsGate_withQuota hquota rfl
  case invalidate sha256 now =>
    obtain ⟨quota, hquota, rfl⟩ := invalidateCapacity_cases h
    exact keepsGate_withQuota hquota rfl

end Statements

/-! ## A ledger at rest -/

section AtRest

variable {db : Database} {quota : GlobalQuota}

theorem committed_of_targetCount (hdb : db.Consistent) (hknown : db.TenantsKnown)
    (h : targetCount db = .ok 0) {row : StoredObject} (hrow : row ∈ db.storedObjects) :
    row.state = .committed := by
  simp only [targetCount, bind_eq_ok] at h
  obtain ⟨_, -, hsum⟩ := h
  obtain ⟨tenant, htenant, hname⟩ := List.mem_map.mp (hdb.tenant_of_row row hrow)
  have horganization : row.organizationId ∈ db.organizations := hname ▸ hknown tenant htenant
  have hzero := Table.eq_zero_of_sumOf (Except.ok.inj hsum) (fun _ _ => Int.natCast_nonneg _) horganization
  have hnone : (db.tenantRows row.organizationId).filter isRecoveryTarget = [] :=
    List.length_eq_zero_iff.mp (Int.natCast_eq_zero.mp hzero)
  have hmem : row ∈ db.tenantRows row.organizationId :=
    List.mem_filter.mpr ⟨hrow, beq_self_eq_true _⟩
  have hnot := List.filter_eq_nil_iff.mp hnone row hmem
  cases hstate : row.state with
  | committed => rfl
  | reserved => exact absurd (by simp [isRecoveryTarget, hstate]) hnot
  | reaping => exact absurd (by simp [isRecoveryTarget, hstate]) hnot
  | deletePending => exact absurd (by simp [isRecoveryTarget, hstate]) hnot

theorem tenantReserved_cases {organizationId : String} {reserved : Int × Int}
    (h : tenantReserved db organizationId = .ok reserved) :
    (db.tenantQuota organizationId = none ∧ reserved = 0) ∨
      ∃ tenant, db.tenantQuota organizationId = some tenant ∧
        reserved = tenant.counters .reserved := by
  simp only [tenantReserved, bind_eq_ok] at h
  obtain ⟨_, -, h⟩ := h
  cases htenant : db.tenantQuota organizationId with
  | none =>
    simp only [htenant, bind_eq_ok] at h
    obtain ⟨_, -, hreserved⟩ := h
    cases hreserved
    exact .inl ⟨rfl, rfl⟩
  | some tenant =>
    simp only [htenant] at h
    cases h
    exact .inr ⟨tenant, rfl, rfl⟩

theorem reserved_of_collected (hdb : db.Consistent) (hknown : db.TenantsKnown)
    {reserved : List (Int × Int)} (h : collect (tenantReserved db) db.organizations = .ok reserved)
    (hbytes : (reserved.map Prod.fst).sum = 0) (hcount : (reserved.map Prod.snd).sum = 0)
    {tenant : TenantQuota} (htenant : tenant ∈ db.tenantQuotas) :
    tenant.reservedBytes = 0 ∧ tenant.reservedCount = 0 := by
  have hnonneg : ∀ pair ∈ reserved, 0 ≤ pair := by
    intro pair hpair
    obtain ⟨organizationId, -, hread⟩ := mem_of_collect h hpair
    rcases tenantReserved_cases hread with ⟨-, rfl⟩ | ⟨other, hother, rfl⟩
    · exact le_refl 0
    · exact hdb.counters_nonneg (mem_tenantQuotas hother).1 .reserved
  obtain ⟨pair, hpair, hread⟩ := collect_mem h (hknown tenant htenant)
  have hfound : db.tenantQuota tenant.organizationId = some tenant :=
    find_of_nodup hdb.tenants_nodup htenant fun other => beq_iff_eq
  rcases tenantReserved_cases hread with ⟨hnone, -⟩ | ⟨other, hother, rfl⟩
  · rw [hfound] at hnone
    cases hnone
  · obtain rfl : tenant = other := Option.some.inj (hfound.symm.trans hother)
    have hbytesZero : (tenant.counters .reserved).1 = 0 :=
      Table.eq_zero_of_sumOf hbytes (fun pair hpair => (hnonneg pair hpair).1) hpair
    have hcountZero : (tenant.counters .reserved).2 = 0 :=
      Table.eq_zero_of_sumOf hcount (fun pair hpair => (hnonneg pair hpair).2) hpair
    exact ⟨hbytesZero, hcountZero⟩

/-- What a finish finds: nothing in flight, in any tenant. -/
theorem atRest_of_nothingInFlight (hdb : db.Consistent) (hknown : db.TenantsKnown)
    (hfound : db.globalQuota = some quota) (h : NothingInFlight db quota) : AtRest db := by
  obtain ⟨reserved, hcollected, hbytes, hcount⟩ := h.tenants
  refine ⟨fun row hrow => committed_of_targetCount hdb hknown h.targets hrow,
    fun tenant htenant => reserved_of_collected hdb hknown hcollected hbytes hcount htenant,
    fun other hother => ?_⟩
  obtain rfl : quota = other := Option.some.inj (hfound.symm.trans hother)
  exact ⟨h.reserved_bytes, h.reserved_count⟩

theorem AtRest.finished (h : AtRest db) (hfound : db.globalQuota = some quota)
    (databaseNow startedAt : Int) :
    AtRest (db.withQuota (finishedQuota quota databaseNow startedAt)) := by
  refine ⟨h.rows, h.tenants, fun other hother => ?_⟩
  cases hother
  exact h.quota quota hfound

end AtRest

/-! ## One event -/

section Step

variable {cluster : Cluster} {past : List Event} {db db' : Database} {statement : Statement}

theorem guarded_begin {token bucket : String} {databaseNow : Int} (h : Guarded past db)
    (hexecute : execute cluster db (.beginMaintenance token bucket databaseNow) = .ok db') :
    Guarded (past ++ [.executed db (.beginMaintenance token bucket databaseNow) db']) db' := by
  have hconsistent := execute_consistent hexecute h.consistent
  obtain ⟨epoch, hbegin⟩ := exists_of_map_fst hexecute
  have hbegun : (Event.executed db (.beginMaintenance token bucket databaseNow) db').begun =
      some (token, epoch) := by
    simp only [Event.begun, hbegin]
  obtain ⟨quota, hquota, rfl, -, rfl⟩ := beginMaintenance_cases hbegin
  obtain ⟨found, hfound, hgate⟩ := h.gate
  obtain rfl : quota = found := Option.some.inj (hquota.symm.trans hfound)
  have hold : ∀ begun ∈ past.filterMap Event.begun, begun.2 < quota.maintenanceEpoch + 1 :=
    fun begun hmem => Int.lt_add_one_of_le (hgate.epoch begun hmem)
  refine ⟨hconsistent, h.known, _, rfl, ?_, ?_, ?_, ?_, ?_⟩
  · rw [List.filterMap_append, List.pairwise_append]
    refine ⟨hgate.increasing, ?_, fun begun hmem last hlast => ?_⟩
    · simp [hbegun]
    · simp only [List.filterMap_cons, hbegun, List.filterMap_nil, List.mem_singleton] at hlast
      rw [hlast]
      exact hold begun hmem
  · intro begun hmem
    rw [List.filterMap_append] at hmem
    rcases List.mem_append.mp hmem with hmem | hlast
    · exact le_of_lt (hold begun hmem)
    · simp only [List.filterMap_cons, hbegun, List.filterMap_nil, List.mem_singleton] at hlast
      rw [hlast]
      exact le_refl _
  · intro t ht
    exact le_of_eq (Option.some.inj ht).symm
  · intro owner howner _
    obtain rfl : token = owner := Option.some.inj howner
    refine ⟨_, rfl, past, _, [], rfl, hbegun, fun event hevent => ?_, rfl⟩
    cases hevent
  · intro t ht
    cases ht

theorem guarded_renewMaintenance {token : String} {epoch databaseNow renewedAt : Int}
    (h : Guarded past db)
    (hexecute : execute cluster db (.renewMaintenance token epoch databaseNow renewedAt) =
      .ok db') :
    Guarded (past ++ [.executed db (.renewMaintenance token epoch databaseNow renewedAt) db'])
      db' := by
  have hconsistent := execute_consistent hexecute h.consistent
  obtain ⟨quota, hheld, rfl⟩ := renewMaintenance_cases hexecute
  obtain ⟨found, hfound, hgate⟩ := h.gate
  obtain rfl : quota = found := Option.some.inj (hheld.found.symm.trans hfound)
  exact ⟨hconsistent, h.known, _, rfl, hgate.extend rfl rfl rfl rfl⟩

theorem guarded_finish {token : String} {epoch databaseNow : Int} (h : Guarded past db)
    (hexecute : execute cluster db (.finishMaintenance token epoch databaseNow) = .ok db') :
    Guarded (past ++ [.executed db (.finishMaintenance token epoch databaseNow) db']) db' := by
  have hconsistent := execute_consistent hexecute h.consistent
  obtain ⟨quota, hheld, hquiet, rfl⟩ := finishMaintenance_cases hexecute
  obtain ⟨found, hfound, hgate⟩ := h.gate
  obtain rfl : quota = found := Option.some.inj (hheld.found.symm.trans hfound)
  have hrest := atRest_of_nothingInFlight h.consistent h.known hheld.found hquiet
  refine ⟨hconsistent, h.known, _, rfl, ?_, ?_, ?_, ?_, ?_⟩
  · rw [filterMap_begun_append rfl]
    exact hgate.increasing
  · rw [filterMap_begun_append rfl]
    exact hgate.epoch
  · intro t ht
    cases ht
  · intro owner howner
    cases howner
  · intro t ht
    refine ⟨le_of_eq (Option.some.inj ht).symm, fun _ => .inr ?_⟩
    refine ⟨past, _, [], rfl, rfl, hrest, hrest.finished hheld.found _ _, fun event hevent => ?_⟩
    cases hevent

/-- Statements that write no gate column do not show in what a history says about the gate. -/
theorem quiet_event (hquiet : statement.writesGate = false) :
    (Event.executed db statement db').begun = none ∧
      (Event.executed db statement db').isFinish = false ∧
        (Event.executed db statement db').leaseUntil = none := by
  cases statement <;> first | exact ⟨rfl, rfl, rfl⟩ | cases hquiet

theorem guarded_quiet (h : Guarded past db) (hquiet : statement.writesGate = false)
    (hexecute : execute cluster db statement = .ok db') :
    Guarded (past ++ [.executed db statement db']) db' := by
  have hkeeps := execute_keepsGate hquiet hexecute h.consistent
  obtain ⟨quota, hfound, hgate⟩ := h.gate
  obtain ⟨hbegun, hfinish, hlease⟩ := quiet_event hquiet
  have hcolumns := hkeeps.gate
  rw [hfound, Option.map_some, Option.map_eq_some_iff] at hcolumns
  obtain ⟨quota', hfound', hsame⟩ := hcolumns
  refine ⟨execute_consistent hexecute h.consistent, hkeeps.known h.known, quota', hfound', ?_⟩
  rw [hkeeps.startedAt]
  refine hgate.extend hbegun hfinish rfl ?_
  rw [hsame, hlease]
  rfl

/-- Every event keeps the gate in step with the history. -/
theorem guarded_step {event : Event} (h : Guarded past db) (hbefore : event.before = db)
    (hvalid : event.Valid cluster) : Guarded (past ++ [event]) event.after := by
  subst hbefore
  cases hvalid with
  | restarted before delay =>
    obtain ⟨quota, hfound, hgate⟩ := h.gate
    refine ⟨?_, h.known, quota, hfound, hgate.restart rfl⟩
    exact h.consistent.of_rows h.consistent.rows rfl (fun row hrow => ⟨row, hrow, rfl⟩)
      (fun _ _ => rfl) h.consistent.quota
  | @executed before after statement hexecute =>
    by_cases hquiet : statement.writesGate = false
    · exact guarded_quiet h hquiet hexecute
    · cases statement <;> try exact absurd rfl hquiet
      case beginMaintenance token bucket databaseNow => exact guarded_begin h hexecute
      case renewMaintenance token epoch databaseNow renewedAt =>
        exact guarded_renewMaintenance h hexecute
      case finishMaintenance token epoch databaseNow => exact guarded_finish h hexecute

end Step

/-! ## Histories -/

section Histories

variable {cluster : Cluster} {tables : LegacyTables} {startedAt now : Int} {db : Database}

/-- The migration marks its own boot as recovered; nobody has begun. -/
theorem guarded_backfill (h : backfill tables startedAt now = .ok db) : Guarded [] db := by
  have hconsistent := backfill_consistent h
  have hknown : db.TenantsKnown := fun tenant htenant => backfill_tenants h htenant
  obtain ⟨loaded, hloaded, rfl⟩ := backfill_cases h
  have hstarted := congrArg Database.startedAt (backfillTenants_frame hloaded)
  refine ⟨hconsistent, hknown, _, rfl, List.Pairwise.nil, by simp, ?_, ?_, ?_⟩
  · intro t ht
    cases ht
  · intro token htoken
    cases htoken
  · intro t ht
    refine ⟨?_, fun _ => .inl (by simp)⟩
    rw [← Option.some.inj ht]
    exact le_of_eq hstarted.symm

theorem gateUse_holds {event : Event} {token : String} {epoch databaseNow : Int}
    (huse : event.gateUse = some (token, epoch, databaseNow)) (hvalid : event.Valid cluster) :
    ∃ quota, HoldsGate event.before quota token epoch databaseNow := by
  cases hvalid with
  | restarted before delay => cases huse
  | @executed before after statement hexecute =>
    cases statement <;> cases huse
    case renewMaintenance.refl renewedAt =>
      obtain ⟨quota, hheld, -⟩ := renewMaintenance_cases hexecute
      exact ⟨quota, hheld⟩
    case snapshotMaintenance.refl =>
      cases hsnapshot : snapshotMaintenance before token epoch databaseNow with
      | error e =>
        simp only [execute, hsnapshot] at hexecute
        cases hexecute
      | ok snapshot =>
        simp only [snapshotMaintenance, bind_eq_ok, lockedGate_eq_ok] at hsnapshot
        obtain ⟨quota, hheld, -⟩ := hsnapshot
        exact ⟨quota, hheld⟩
    case finishMaintenance.refl =>
      obtain ⟨quota, hheld, -⟩ := finishMaintenance_cases hexecute
      exact ⟨quota, hheld⟩

/-- A reservation that returned passed the fences of its boot. -/
theorem reserve_fences {event : Event} (hreserve : event.isReserve = true)
    (hvalid : event.Valid cluster) (hdb : event.before.Consistent) :
    ∃ quota quota', event.before.globalQuota = some quota ∧ event.after.globalQuota = some quota' ∧
      quota.maintenanceToken = none ∧ quota'.maintenanceToken = none ∧
        quota.recoveryDatabaseStartedAt = some event.before.startedAt := by
  cases hvalid with
  | restarted before delay => cases hreserve
  | @executed before after statement hexecute =>
    cases statement <;> cases hreserve
    case reserve.refl call =>
      have hkeeps := execute_keepsGate rfl hexecute hdb
      obtain ⟨reservation, hcall⟩ := exists_of_map_fst hexecute
      obtain ⟨claims, base, quota, tenant, expiry, hreserved, -⟩ := reserveBatch_cases hcall hdb.rows
      have hfences := hreserved.fences
      simp only [reserveFences, bind_eq_ok, require_eq_ok, GlobalQuota.isRecovered,
        Bool.and_eq_true, beq_iff_eq, Option.isNone_iff_eq_none] at hfences
      obtain ⟨_, htoken, _, ⟨-, hrecovered⟩, -⟩ := hfences
      have hcolumns := hkeeps.gate
      rw [hreserved.quota_found, Option.map_some, Option.map_eq_some_iff] at hcolumns
      obtain ⟨quota', hquota', hsame⟩ := hcolumns
      refine ⟨quota, quota', hreserved.quota_found, hquota', htoken, ?_, hrecovered⟩
      exact (congrArg GateColumns.token hsame).trans htoken

end Histories

/-- For every run from the backfilled ledger: the epochs of the recovery processes increase; a
    renewal, a snapshot or a finish returns only to the process that began last, before its
    lease ends and in the same boot; a reservation returns only while no token is set; and
    after the first restart only in a boot in which a finish found the ledger at rest. -/
theorem maintenance_gate {cluster : Cluster} {tables : LegacyTables} {startedAt now : Int}
    {db : Database} (hbackfill : backfill tables startedAt now = .ok db) (actions : List Action) :
    ((history cluster db actions).filterMap Event.begun).Pairwise (fun a b => a.2 < b.2) ∧
      ∀ past event future, history cluster db actions = past ++ event :: future →
        (∀ token epoch databaseNow, event.gateUse = some (token, epoch, databaseNow) →
          ∃ expiry, OwnedBy past token epoch expiry ∧ databaseNow < expiry) ∧
        (event.isReserve = true → ∃ quota quota', event.before.globalQuota = some quota ∧
          event.after.globalQuota = some quota' ∧ quota.maintenanceToken = none ∧
            quota'.maintenanceToken = none) ∧
        (event.isReserve = true → (∃ e ∈ past, e.isRestart = true) → FoundAtRest past) := by
  have hpath : IsPath cluster db (history cluster db actions) := isPath_history actions
  have hstart := guarded_backfill hbackfill
  refine ⟨?_, fun past event future hsplit => ?_⟩
  · obtain ⟨-, -, quota, -, hgate⟩ := path_invariant (fun h hb hv => guarded_step h hb hv) hstart hpath
    exact hgate.increasing
  rw [hsplit] at hpath
  obtain ⟨hpast, hbefore, hvalid⟩ := isPath_split hpath
  have hguarded := path_invariant (fun h hb hv => guarded_step h hb hv) hstart hpast
  rw [List.nil_append, ← hbefore] at hguarded
  obtain ⟨quota, hquota, hgate⟩ := hguarded.gate
  refine ⟨fun token epoch databaseNow huse => ?_, fun hreserve => ?_, fun hreserve hrestart => ?_⟩
  · obtain ⟨found, hheld⟩ := gateUse_holds huse hvalid
    obtain rfl : quota = found := Option.some.inj (hquota.symm.trans hheld.found)
    obtain ⟨expiry, hexpiry, howned⟩ := hgate.owner token hheld.token_eq hheld.boot_eq
    obtain ⟨stored, hstored, hlt⟩ := hheld.unexpired
    obtain rfl : expiry = stored := Option.some.inj (hexpiry.symm.trans hstored)
    have hepoch : quota.gateColumns.epoch = epoch := hheld.epoch_eq
    exact ⟨expiry, hepoch ▸ howned, hlt⟩
  · obtain ⟨before, after, hfound, hafter, htoken, htoken', -⟩ :=
      reserve_fences hreserve hvalid hguarded.consistent
    exact ⟨before, after, hfound, hafter, htoken, htoken'⟩
  · obtain ⟨found, -, hfound, -, -, -, hrecovered⟩ :=
      reserve_fences hreserve hvalid hguarded.consistent
    obtain rfl : quota = found := Option.some.inj (hquota.symm.trans hfound)
    rcases (hgate.recovered _ hrecovered).2 rfl with hnone | hfinish
    · obtain ⟨e, he, hrestarted⟩ := hrestart
      rw [hnone e he] at hrestarted
      cases hrestarted
    · exact hfinish

namespace Sample

/-- A restart, a recovery that begins, renews and finishes, an attestation and a reservation. -/
def recovery : List Action :=
  [.restart 9, .transaction [.beginMaintenance gate "bucket" 20],
    .transaction [.renewMaintenance gate 1 21 22], .transaction [.finishMaintenance gate 1 23],
    .transaction [.attest (attestation 10 1 24)], .transaction [.reserve (reserveUpload 25)]]

/-- The last event is the reservation, and a restart came before it. -/
def endsInReserve (events : List Event) : Bool :=
  match events.reverse with
  | event :: earlier => event.isReserve && earlier.any Event.isRestart
  | [] => false

theorem recovery_endsInReserve :
    (okAnd (backfill tables 0 1) fun db => endsInReserve (history cluster db recovery)) = true := by
  decide +kernel

end Sample

theorem maintenance_gate_sample : ∃ db past event, backfill Sample.tables 0 1 = .ok db ∧
    history Sample.cluster db Sample.recovery = past ++ [event] ∧ event.isReserve = true ∧
      FoundAtRest past := by
  obtain ⟨db, hdb, hends⟩ := exists_of_okAnd Sample.recovery_endsInReserve
  unfold Sample.endsInReserve at hends
  split at hends
  · rename_i event earlier hreverse
    have hhistory : history Sample.cluster db Sample.recovery = earlier.reverse ++ [event] := by
      rw [← List.reverse_cons, ← hreverse, List.reverse_reverse]
    rw [Bool.and_eq_true, List.any_eq_true] at hends
    obtain ⟨hreserve, restart, hrestart, hisRestart⟩ := hends
    have hgate := (maintenance_gate hdb Sample.recovery).2 _ _ _ hhistory
    refine ⟨db, earlier.reverse, event, hdb, hhistory, hreserve, hgate.2.2 hreserve ?_⟩
    exact ⟨restart, List.mem_reverse.mpr hrestart, hisRestart⟩
  · cases hends

end Custombuild.Storage
