/-
  The accounting of the ledger.  Every counter is the sum over the rows charged to it, on
  both levels, in every state that transactions and restarts reach from the backfilled
  ledger, so that no counter is ever asked to give what it does not have.
-/
import Custombuild.Lib.Raises
import Custombuild.Storage.Cases
import Custombuild.Storage.Backfill

namespace Custombuild.Storage

open Custombuild.Lib

/-! ## Counters and charges -/

/-- Bytes and objects of one counter family. -/
def TenantQuota.counters (quota : TenantQuota) : AccountingState → Int × Int
  | .reserved => (quota.reservedBytes, quota.reservedCount)
  | .committed => (quota.committedBytes, quota.committedCount)

def GlobalQuota.counters (quota : GlobalQuota) : AccountingState → Int × Int
  | .reserved => (quota.reservedBytes, quota.reservedCount)
  | .committed => (quota.committedBytes, quota.committedCount)

def TenantQuota.limits (quota : TenantQuota) : Int × Int := (quota.byteLimit, quota.objectLimit)

def GlobalQuota.limits (quota : GlobalQuota) : Int × Int := (quota.byteLimit, quota.objectLimit)

/-- What a row is charged to a counter family of a tenant. -/
def chargedTo (organizationId : String) (kind : AccountingState) (row : StoredObject) : Int × Int :=
  if row.organizationId = organizationId ∧ row.accounting = some kind then row.usage else 0

/-- The sum over the rows of a tenant that are charged to a counter family. -/
def chargeOf (rows : List StoredObject) (organizationId : String) (kind : AccountingState) :
    Int × Int :=
  Table.sumOf (chargedTo organizationId kind) rows

/-- The counters of a tenant are the sums over its rows, within its limits. -/
structure TenantQuota.Consistent (rows : List StoredObject) (quota : TenantQuota) : Prop where
  charged : ∀ kind, quota.counters kind = chargeOf rows quota.organizationId kind
  within : quota.counters .reserved + quota.counters .committed ≤ quota.limits

/-- The global counters are the sums over the tenants, within their limits. -/
structure GlobalQuota.Consistent (tenants : List TenantQuota) (quota : GlobalQuota) : Prop where
  summed : ∀ kind, quota.counters kind = Table.sumOf (fun tenant => tenant.counters kind) tenants
  within : quota.counters .reserved + quota.counters .committed ≤ quota.limits

structure Database.Consistent (db : Database) : Prop where
  rows : RowsOk db.storedObjects
  tenants_nodup : (db.tenantQuotas.map TenantQuota.organizationId).Nodup
  tenant_of_row : ∀ row ∈ db.storedObjects,
    row.organizationId ∈ db.tenantQuotas.map TenantQuota.organizationId
  tenants : ∀ quota ∈ db.tenantQuotas, quota.Consistent db.storedObjects
  quota : ∃ quota, db.globalQuota = some quota ∧ quota.Consistent db.tenantQuotas

theorem chargedTo_nonneg {row : StoredObject} (h : 0 < row.sizeBytes) (organizationId : String)
    (kind : AccountingState) : 0 ≤ chargedTo organizationId kind row := by
  unfold chargedTo
  split
  · exact ⟨le_of_lt h, Int.one_nonneg⟩
  · exact le_refl 0

theorem chargeOf_nonneg {rows : List StoredObject} (h : RowsOk rows) (organizationId : String)
    (kind : AccountingState) : 0 ≤ chargeOf rows organizationId kind :=
  Table.sumOf_nonneg fun row hrow => chargedTo_nonneg (h.sizes_positive row hrow) _ _

/-- A row is charged to its own tenant and family, and its counters cover it. -/
theorem usage_le_chargeOf {rows : List StoredObject} (h : RowsOk rows) {row : StoredObject}
    (hrow : row ∈ rows) {kind : AccountingState} (hkind : row.accounting = some kind) :
    row.usage ≤ chargeOf rows row.organizationId kind := by
  have hle := Table.le_sumOf
    (fun r hr => chargedTo_nonneg (h.sizes_positive r hr) row.organizationId kind) hrow
  unfold chargedTo at hle
  rwa [if_pos ⟨rfl, hkind⟩] at hle

theorem mem_tenantQuotas {db : Database} {organizationId : String} {tenant : TenantQuota}
    (h : db.tenantQuota organizationId = some tenant) :
    tenant ∈ db.tenantQuotas ∧ tenant.organizationId = organizationId := by
  refine ⟨List.mem_of_find?_eq_some h, ?_⟩
  simpa using List.find?_some h

/-- A tenant's counters are covered by the global ones. -/
theorem counters_le_global {db : Database} (h : db.Consistent) {quota : GlobalQuota}
    (hquota : db.globalQuota = some quota) {tenant : TenantQuota}
    (htenant : tenant ∈ db.tenantQuotas) (kind : AccountingState) :
    tenant.counters kind ≤ quota.counters kind := by
  obtain ⟨found, hfound, hglobal⟩ := h.quota
  obtain rfl : quota = found := Option.some.inj (hquota.symm.trans hfound)
  rw [hglobal.summed kind]
  refine Table.le_sumOf (w := fun tenant => tenant.counters kind) (fun other hother => ?_) htenant
  rw [(h.tenants other hother).charged kind]
  exact chargeOf_nonneg h.rows _ _

/-! ## Changes of the ledger -/

/-- The rows change within their charges, and the counters do not. -/
theorem Database.Consistent.of_rows {db db' : Database} (h : db.Consistent)
    (hrows : RowsOk db'.storedObjects) (htenants : db'.tenantQuotas = db.tenantQuotas)
    (hknown : ∀ row ∈ db'.storedObjects, ∃ old ∈ db.storedObjects,
      row.organizationId = old.organizationId)
    (hcharge : ∀ organizationId kind,
      chargeOf db'.storedObjects organizationId kind = chargeOf db.storedObjects organizationId kind)
    (hquota : ∃ quota, db'.globalQuota = some quota ∧ quota.Consistent db.tenantQuotas) :
    db'.Consistent where
  rows := hrows
  tenants_nodup := by
    rw [htenants]
    exact h.tenants_nodup
  tenant_of_row := by
    intro row hrow
    obtain ⟨old, hold, horganization⟩ := hknown row hrow
    rw [htenants, horganization]
    exact h.tenant_of_row old hold
  tenants := by
    rw [htenants]
    intro quota hmem
    have hold := h.tenants quota hmem
    refine ⟨fun kind => ?_, hold.within⟩
    rw [hcharge]
    exact hold.charged kind
  quota := by
    rw [htenants]
    exact hquota

/-- The rows of a tenant change by `delta`, and so do the counters of both levels. -/
structure Charge (db db' : Database) (organizationId : String) (delta : AccountingState → Int × Int)
    (change : TenantQuota → TenantQuota) (quota quota' : GlobalQuota) : Prop where
  rows : RowsOk db'.storedObjects
  known : ∀ row ∈ db'.storedObjects, row.organizationId = organizationId ∨
    ∃ old ∈ db.storedObjects, row.organizationId = old.organizationId
  charged : ∀ other kind, chargeOf db'.storedObjects other kind =
    chargeOf db.storedObjects other kind + if other = organizationId then delta kind else 0
  tenants : db'.tenantQuotas =
    Table.modify (fun tenant => tenant.organizationId == organizationId) change db.tenantQuotas
  change_organization : ∀ tenant, (change tenant).organizationId = tenant.organizationId
  change_counters : ∀ tenant kind,
    (change tenant).counters kind = tenant.counters kind + delta kind
  change_limits : ∀ tenant, (change tenant).limits = tenant.limits
  before : db.globalQuota = some quota
  after : db'.globalQuota = some quota'
  counters : ∀ kind, quota'.counters kind = quota.counters kind + delta kind
  limits : quota'.limits = quota.limits

theorem Database.Consistent.charge {db db' : Database} {organizationId : String}
    {delta : AccountingState → Int × Int} {change : TenantQuota → TenantQuota}
    {quota quota' : GlobalQuota} {tenant : TenantQuota} (h : db.Consistent)
    (hcharge : Charge db db' organizationId delta change quota quota')
    (htenant : db.tenantQuota organizationId = some tenant)
    (hglobal : quota.counters .reserved + quota.counters .committed +
      (delta .reserved + delta .committed) ≤ quota.limits)
    (hwithin : tenant.counters .reserved + tenant.counters .committed +
      (delta .reserved + delta .committed) ≤ tenant.limits) : db'.Consistent := by
  obtain ⟨hmem, horganization⟩ := mem_tenantQuotas htenant
  have hcolumn : db'.tenantQuotas.map TenantQuota.organizationId =
      db.tenantQuotas.map TenantQuota.organizationId := by
    rw [hcharge.tenants]
    exact Table.map_modify fun other _ _ => hcharge.change_organization other
  have hsum (kind : AccountingState) :
      Table.sumOf (fun tenant => tenant.counters kind) db'.tenantQuotas =
        Table.sumOf (fun tenant => tenant.counters kind) db.tenantQuotas + delta kind := by
    rw [hcharge.tenants, Table.sumOf_modify_key h.tenants_nodup hmem, hcharge.change_counters,
      add_sub_cancel_left]
    intro other _
    rw [beq_iff_eq, horganization]
  refine ⟨hcharge.rows, hcolumn ▸ h.tenants_nodup, fun row hrow => ?_, fun other' hother' => ?_,
    quota', hcharge.after, fun kind => ?_, ?_⟩
  · rw [hcolumn]
    rcases hcharge.known row hrow with hown | ⟨old, hold, heq⟩
    · rw [hown, ← horganization]
      exact List.mem_map_of_mem hmem
    · rw [heq]
      exact h.tenant_of_row old hold
  · rw [hcharge.tenants] at hother'
    obtain ⟨other, hother, rfl⟩ := Table.mem_modify.mp hother'
    have hold := h.tenants other hother
    by_cases hsame : other.organizationId = organizationId
    · -- the tenant of the batch
      obtain rfl : other = tenant :=
        List.inj_on_of_nodup_map h.tenants_nodup hother hmem (hsame.trans horganization.symm)
      rw [if_pos (by simpa using hsame)]
      refine ⟨fun kind => ?_, ?_⟩
      · rw [hcharge.change_counters, hcharge.change_organization, hcharge.charged, if_pos hsame,
          hold.charged kind]
      · rw [hcharge.change_counters, hcharge.change_counters, hcharge.change_limits]
        refine le_trans (le_of_eq ?_) hwithin
        abel
    · rw [if_neg (by simpa using hsame)]
      refine ⟨fun kind => ?_, hold.within⟩
      rw [hcharge.charged, if_neg hsame, add_zero]
      exact hold.charged kind
  · obtain ⟨found, hfound, hconsistent⟩ := h.quota
    obtain rfl : quota = found := Option.some.inj (hcharge.before.symm.trans hfound)
    rw [hsum, hcharge.counters, hconsistent.summed kind]
  · rw [hcharge.counters, hcharge.counters, hcharge.limits]
    refine le_trans (le_of_eq ?_) hglobal
    abel

/-- A change of one counter family. -/
def familyDelta (family : AccountingState) (delta : Int × Int) (kind : AccountingState) :
    Int × Int :=
  if kind = family then delta else 0

def TenantQuota.addTo (tenant : TenantQuota) (family : AccountingState) (bytes count : Int) :
    TenantQuota :=
  match family with
  | .reserved => tenant.addReserved bytes count
  | .committed => tenant.addCommitted bytes count

def GlobalQuota.addTo (quota : GlobalQuota) (family : AccountingState) (bytes count : Int) :
    GlobalQuota :=
  match family with
  | .reserved => quota.addReserved bytes count
  | .committed => quota.addCommitted bytes count

theorem TenantQuota.counters_addTo (tenant : TenantQuota) (family kind : AccountingState)
    (bytes count : Int) : (tenant.addTo family bytes count).counters kind =
      tenant.counters kind + familyDelta family (bytes, count) kind := by
  cases family <;> cases kind <;> first | rfl | exact (add_zero _).symm

theorem GlobalQuota.counters_addTo (quota : GlobalQuota) (family kind : AccountingState)
    (bytes count : Int) : (quota.addTo family bytes count).counters kind =
      quota.counters kind + familyDelta family (bytes, count) kind := by
  cases family <;> cases kind <;> first | rfl | exact (add_zero _).symm

/-- Rows that change one family's charge of a tenant, with the counters of that family. -/
theorem Charge.ofFamily {db db' : Database} {organizationId : String} {bytes count : Int}
    {quota : GlobalQuota} (family : AccountingState) (hrows : RowsOk db'.storedObjects)
    (hknown : ∀ row ∈ db'.storedObjects, row.organizationId = organizationId ∨
      ∃ old ∈ db.storedObjects, row.organizationId = old.organizationId)
    (hcharged : ∀ other kind, chargeOf db'.storedObjects other kind =
      chargeOf db.storedObjects other kind +
        if other = organizationId ∧ kind = family then (bytes, count) else 0)
    (hbefore : db.globalQuota = some quota)
    (htenants : db'.tenantQuotas = Table.modify
      (fun tenant => tenant.organizationId == organizationId)
      (fun tenant => tenant.addTo family bytes count) db.tenantQuotas)
    (hafter : db'.globalQuota = some (quota.addTo family bytes count)) :
    Charge db db' organizationId (familyDelta family (bytes, count))
      (fun tenant => tenant.addTo family bytes count) quota (quota.addTo family bytes count) where
  rows := hrows
  known := hknown
  charged := by
    intro other kind
    rw [hcharged]
    by_cases hother : other = organizationId <;> simp [hother, familyDelta]
  tenants := htenants
  change_organization := fun _ => by cases family <;> rfl
  change_counters := fun tenant kind => tenant.counters_addTo family kind bytes count
  change_limits := fun _ => by cases family <;> rfl
  before := hbefore
  after := hafter
  counters := fun kind => quota.counters_addTo family kind bytes count
  limits := by cases family <;> rfl

/-! ## Charges of an update -/

/-- An update that keeps tenants, sizes and counter families keeps every charge. -/
theorem chargeOf_modify_same {rows : List StoredObject} {p : StoredObject → Bool}
    {change : StoredObject → StoredObject} (hkeep : KeepsIdentity change)
    (haccounting : ∀ row ∈ rows, p row = true → (change row).accounting = row.accounting)
    (organizationId : String) (kind : AccountingState) :
    chargeOf (Table.modify p change rows) organizationId kind =
      chargeOf rows organizationId kind := by
  refine Table.sumOf_modify_of_eq fun row hrow hp => ?_
  unfold chargedTo StoredObject.usage
  rw [hkeep.organizationId, hkeep.sizeBytes, haccounting row hrow hp]

theorem organization_of_mem_modify {rows : List StoredObject} {p : StoredObject → Bool}
    {change : StoredObject → StoredObject} (hkeep : KeepsIdentity change) {row : StoredObject}
    (h : row ∈ Table.modify p change rows) :
    ∃ old ∈ rows, row.organizationId = old.organizationId := by
  obtain ⟨old, hold, rfl⟩ := Table.mem_modify.mp h
  refine ⟨old, hold, ?_⟩
  split
  · exact hkeep.organizationId old
  · rfl

/-- An update of rows that keeps every charge keeps the ledger consistent. -/
theorem Database.Consistent.modify_rows {db : Database} (h : db.Consistent)
    {p : StoredObject → Bool} {change : StoredObject → StoredObject} (hkeep : KeepsIdentity change)
    (haccounting : ∀ row ∈ db.storedObjects, p row = true →
      (change row).accounting = row.accounting)
    (hshape : ∀ row ∈ db.storedObjects, p row = true → (change row).shapeOk = true) :
    (db.withRows (Table.modify p change db.storedObjects)).Consistent := by
  refine h.of_rows (h.rows.modify hkeep hshape) rfl (fun row hrow => ?_) ?_ h.quota
  · exact organization_of_mem_modify hkeep hrow
  · exact chargeOf_modify_same hkeep haccounting

/-! ## Renewals and reaper claims -/

theorem shapeOk_reserved {row : StoredObject} (hstate : row.state = .reserved)
    (h : row.shapeOk = true) : row.leaseToken.isSome = true ∧ row.claimToken = none ∧
      row.claimExpiresAt = none := by
  simp only [StoredObject.shapeOk, hstate, Bool.and_eq_true, Option.isNone_iff_eq_none] at h
  exact ⟨h.1.1.1, h.1.2, h.2⟩

theorem shapeOk_extendedRow {row : StoredObject} (hstate : row.state = .reserved)
    (h : row.shapeOk = true) (expiry now : Int) : (extendedRow expiry now row).shapeOk = true := by
  obtain ⟨htoken, hclaim, hexpiry⟩ := shapeOk_reserved hstate h
  simp [StoredObject.shapeOk, extendedRow, hstate, htoken, hclaim, hexpiry]

theorem state_of_holdsLease {row : StoredObject} {leaseToken : String} {now : Int}
    (h : holdsLease row leaseToken now = true) : row.state = .reserved := by
  simp only [holdsLease, Bool.and_eq_true, decide_eq_true_eq] at h
  exact h.1.1

/-- The rows a renewal names are reserved. -/
theorem state_of_isNamed {rows : List StoredObject} {call : RenewCall}
    {claims : List StorageObjectClaim} (hclaims : ∀ c ∈ claims, isRenewable rows call c = true)
    {row : StoredObject} (hrow : row ∈ rows)
    (h : isNamed call.organizationId claims row = true) : row.state = .reserved := by
  simp only [isNamed, Bool.and_eq_true, beq_iff_eq, List.any_eq_true] at h
  obtain ⟨horganization, c, hc, hkey⟩ := h
  obtain ⟨found, hmatch, -, hlease⟩ := isRenewable_iff.mp (hclaims c hc)
  have hmem : row ∈ matchingRows rows call.organizationId c :=
    mem_matchingRows.mpr ⟨hrow, horganization, .inl hkey.symm⟩
  rw [hmatch, List.mem_singleton] at hmem
  rw [hmem]
  exact state_of_holdsLease hlease

theorem renewBatch_consistent {cluster : Cluster} {db db' : Database} {call : RenewCall}
    (h : renewBatch cluster db call = .ok db') (hdb : db.Consistent) : db'.Consistent := by
  obtain ⟨claims, expiry, hclaims, rfl⟩ := renewBatch_cases h hdb.rows
  refine hdb.modify_rows (keepsIdentity_extendedRow expiry call.now) (fun _ _ _ => rfl) ?_
  intro row hrow hnamed
  exact shapeOk_extendedRow (state_of_isNamed hclaims hrow hnamed) (hdb.rows.shapes row hrow) _ _

/-- A row due for reaping is charged to the family the reaper asked for. -/
theorem accounting_of_isDueForReaping {kind : AccountingState} {row : StoredObject} {now : Int}
    (h : isDueForReaping kind row now = true) : row.accounting = some kind := by
  unfold isDueForReaping at h
  unfold StoredObject.accounting
  cases hstate : row.state with
  | reserved =>
    simp only [hstate, Bool.and_eq_true, decide_eq_true_eq] at h
    rw [h.1]
  | committed =>
    simp only [hstate, decide_eq_true_eq] at h
    rw [h]
  | deletePending =>
    simp only [hstate, decide_eq_true_eq] at h
    rw [h]
  | reaping =>
    simp only [hstate, Bool.and_eq_true, beq_iff_eq] at h
    obtain ⟨token, htoken, hmarker⟩ := Option.bind_eq_some_iff.mp h.2
    simp only [htoken, Option.bind_some, counterKindFromToken, hmarker]
    cases kind <;> decide

theorem claimReap_consistent {cluster : Cluster} {db db' : Database} {call : ClaimReapCall}
    {claims : List StorageReapClaim} (h : claimReap cluster db call = .ok (db', claims))
    (hdb : db.Consistent) : db'.Consistent := by
  obtain ⟨p, token, expiry, hp, htoken, rfl⟩ := claimReap_cases h hdb.rows
  refine hdb.modify_rows (keepsIdentity_reapingRow token expiry call.now) ?_ ?_
  · intro row hrow hrow'
    have hdue := (isReapCandidate_iff.mp (hp row hrow hrow')).2.1
    rw [accounting_of_isDueForReaping hdue]
    exact htoken
  · intro row hrow hrow'
    simp [StoredObject.shapeOk, reapingRow, htoken]

/-! ## Reservations -/

section Reserve

variable {base : Database} {bucket : Option String} {call : ReserveCall} {expiry : Int}
  {claims : List StorageObjectClaim}

theorem state_of_isReclaimed {organizationId : String} {row : StoredObject}
    (h : isReclaimed organizationId claims row = true) : row.state = .reserved := by
  simp only [isReclaimed, Bool.and_eq_true, decide_eq_true_eq] at h
  exact h.1.2

theorem accounting_leasedRow {row : StoredObject} (hstate : row.state = .reserved) :
    (leasedRow call expiry row).accounting = row.accounting := by
  unfold leasedRow
  split
  · simp [StoredObject.accounting, takenOverRow, hstate]
  · simp [StoredObject.accounting, extendedRow, hstate]

theorem shapeOk_leasedRow {row : StoredObject} (hstate : row.state = .reserved)
    (h : row.shapeOk = true) : (leasedRow call expiry row).shapeOk = true := by
  unfold leasedRow
  split
  · obtain ⟨-, hclaim, hclaimExpiry⟩ := shapeOk_reserved hstate h
    simp [StoredObject.shapeOk, takenOverRow, hstate, hclaim, hclaimExpiry]
  · exact shapeOk_extendedRow hstate h _ _

/-- A fresh claim that can be reserved has a key no row has. -/
theorem key_unused_of_isReservable {claim : StorageObjectClaim}
    (h : isReservable base bucket call claim = true)
    (hfresh : isFresh base.storedObjects call.organizationId claim = true) :
    ∀ row ∈ base.storedObjects, row.objectKey ≠ claim.objectKey := by
  have hnil : matchingRows base.storedObjects call.organizationId claim = [] := by
    simpa [isFresh] using hfresh
  simp only [isReservable, hnil, Bool.and_eq_true, Bool.not_eq_true', List.any_eq_false,
    beq_iff_eq] at h
  exact h.2.1.1

theorem identity_unused_of_isFresh {claim : StorageObjectClaim}
    (hfresh : isFresh base.storedObjects call.organizationId claim = true) {row : StoredObject}
    (hrow : row ∈ base.storedObjects) (horganization : row.organizationId = call.organizationId) :
    row.idempotencyKey ≠ claim.idempotencyKey := by
  intro hidempotency
  have hmem : row ∈ matchingRows base.storedObjects call.organizationId claim :=
    mem_matchingRows.mpr ⟨hrow, horganization, .inr hidempotency⟩
  rw [List.isEmpty_iff.mp hfresh] at hmem
  cases hmem

/-- The rows after a reservation are in order. -/
theorem rowsOk_progressAfter (hrows : RowsOk base.storedObjects)
    (hcanonical : ∀ c ∈ claims, 1 ≤ c.sizeBytes) (hapart : claims.Pairwise Apart)
    (hreservable : ∀ c ∈ claims, isReservable base bucket call c = true) :
    RowsOk (progressAfter base.storedObjects call expiry claims).rows := by
  have hold : RowsOk (Table.modify (isReclaimed call.organizationId claims)
      (leasedRow call expiry) base.storedObjects) :=
    hrows.modify (keepsIdentity_leasedRow call expiry) fun row hrow h =>
      shapeOk_leasedRow (state_of_isReclaimed h) (hrows.shapes row hrow)
  have hfresh : (claims.filter (isFresh base.storedObjects call.organizationId)).Pairwise Apart :=
    hapart.sublist List.filter_sublist
  have hkeep := keepsIdentity_leasedRow call expiry
  refine ⟨?_, ?_, ?_, ?_⟩
  · simp only [progressAfter, List.map_append, List.map_map, List.nodup_append]
    refine ⟨hold.keys_nodup, ?_, ?_⟩
    · exact List.pairwise_map.mpr (hfresh.imp fun h => h.1)
    · intro key hkey key' hkey'
      rw [Table.map_modify fun row _ _ => hkeep.objectKey row] at hkey
      obtain ⟨row, hrow, rfl⟩ := List.mem_map.mp hkey
      obtain ⟨c, hc, rfl⟩ := List.mem_map.mp hkey'
      obtain ⟨hmem, hnew⟩ := List.mem_filter.mp hc
      exact key_unused_of_isReservable (hreservable c hmem) hnew row hrow
  · simp only [progressAfter, List.map_append, List.map_map, List.nodup_append]
    refine ⟨hold.identities_nodup, ?_, ?_⟩
    · refine List.pairwise_map.mpr (hfresh.imp fun {a b} h => ?_)
      simp [newRow, reservedRow, h.2]
    · intro key hkey key' hkey' heq
      obtain ⟨row', hrow', rfl⟩ := List.mem_map.mp hkey
      obtain ⟨c, hc, rfl⟩ := List.mem_map.mp hkey'
      obtain ⟨row, hrow, rfl⟩ := Table.mem_modify.mp hrow'
      simp only [Function.comp_apply, newRow, reservedRow, Prod.mk.injEq] at heq
      have horganization : row.organizationId = call.organizationId := by
        rw [← heq.1]
        split
        · exact (hkeep.organizationId row).symm
        · rfl
      refine identity_unused_of_isFresh (List.mem_filter.mp hc).2 hrow horganization ?_
      rw [← heq.2]
      split
      · exact (hkeep.idempotencyKey row).symm
      · rfl
  · intro row hrow
    rcases List.mem_append.mp hrow with hmem | hmem
    · exact hold.sizes_positive row hmem
    · obtain ⟨c, hc, rfl⟩ := List.mem_map.mp hmem
      have hsize := hcanonical c (List.mem_filter.mp hc).1
      show 0 < c.sizeBytes
      omega
  · intro row hrow
    rcases List.mem_append.mp hrow with hmem | hmem
    · exact hold.shapes row hmem
    · obtain ⟨c, -, rfl⟩ := List.mem_map.mp hmem
      simp [StoredObject.shapeOk, newRow, reservedRow]

theorem sumOf_newRows {fresh : List StorageObjectClaim} {organizationId : String}
    {kind : AccountingState} :
    Table.sumOf (chargedTo organizationId kind) (fresh.map (newRow call expiry)) =
      if organizationId = call.organizationId ∧ kind = .reserved then
        ((fresh.map StorageObjectClaim.sizeBytes).sum, (fresh.length : Int))
      else 0 := by
  induction fresh with
  | nil =>
    split
    · rfl
    · rfl
  | cons claim fresh ih =>
    rw [List.map_cons, Table.sumOf_cons, ih]
    have hcharged : chargedTo organizationId kind (newRow call expiry claim) =
        if organizationId = call.organizationId ∧ kind = .reserved then (claim.sizeBytes, 1)
        else 0 := by
      simp only [chargedTo, newRow, reservedRow, StoredObject.accounting, StoredObject.usage,
        Option.some.injEq]
      by_cases h : organizationId = call.organizationId ∧ kind = .reserved
      · rw [if_pos ⟨h.1.symm, h.2.symm⟩, if_pos h]
      · rw [if_neg fun h' => h ⟨h'.1.symm, h'.2.symm⟩, if_neg h]
    rw [hcharged]
    split
    · simp [add_comm]
    · simp

/-- A reservation charges its new rows to the reserved counters of its tenant. -/
theorem chargeOf_progressAfter (organizationId : String) (kind : AccountingState) :
    chargeOf (progressAfter base.storedObjects call expiry claims).rows organizationId kind =
      chargeOf base.storedObjects organizationId kind +
        if organizationId = call.organizationId ∧ kind = .reserved then
          ((progressAfter base.storedObjects call expiry claims).byteDelta,
            (progressAfter base.storedObjects call expiry claims).countDelta)
        else 0 := by
  unfold progressAfter
  simp only
  unfold chargeOf
  rw [Table.sumOf_append, sumOf_newRows]
  congr 1
  exact chargeOf_modify_same (keepsIdentity_leasedRow call expiry)
    (fun row _ h => accounting_leasedRow (state_of_isReclaimed h)) organizationId kind

end Reserve

/-- A new tenant starts with nothing charged to it. -/
theorem insertTenantQuotaIfMissing_consistent {db base : Database} {organizationId : String}
    (h : insertTenantQuotaIfMissing db organizationId = .ok base) (hdb : db.Consistent) :
    base.Consistent := by
  rcases insertTenantQuotaIfMissing_cases h with ⟨rfl, -⟩ | ⟨hnone, -, rfl⟩
  · exact hdb
  have hnew : organizationId ∉ db.tenantQuotas.map TenantQuota.organizationId := by
    intro hmem
    obtain ⟨tenant, htenant, hname⟩ := List.mem_map.mp hmem
    have hfind := List.find?_eq_none.mp hnone tenant htenant
    exact hfind (by simpa using hname)
  have hempty (kind : AccountingState) : chargeOf db.storedObjects organizationId kind = 0 := by
    refine Table.sumOf_eq_zero fun row hrow => ?_
    unfold chargedTo
    rw [if_neg]
    rintro ⟨rfl, -⟩
    exact hnew (hdb.tenant_of_row row hrow)
  obtain ⟨quota, hquota, hglobal⟩ := hdb.quota
  refine ⟨hdb.rows, ?_, fun row hrow => ?_, fun tenant htenant => ?_, quota, hquota, ?_⟩
  · rw [List.map_append, List.nodup_append]
    refine ⟨hdb.tenants_nodup, List.nodup_singleton _, ?_⟩
    rintro a ha b hb rfl
    rw [List.map_singleton, List.mem_singleton] at hb
    subst hb
    exact hnew ha
  · rw [List.map_append]
    exact List.mem_append_left _ (hdb.tenant_of_row row hrow)
  · rcases List.mem_append.mp htenant with hold | hadded
    · exact hdb.tenants tenant hold
    · rw [List.mem_singleton] at hadded
      subst hadded
      refine ⟨fun kind => ?_, ?_⟩
      · rw [hempty]
        cases kind <;> rfl
      · show ((0 : Int), (0 : Int)) + (0, 0) ≤ (tenantStorageByteLimit, tenantStorageObjectLimit)
        decide
  · refine ⟨fun kind => ?_, hglobal.within⟩
    rw [Table.sumOf_append, hglobal.summed kind, Table.sumOf_cons, Table.sumOf_nil]
    cases kind <;> exact (add_zero _).symm

theorem counters_of_batchFits {quota : GlobalQuota} {tenant : TenantQuota} {bytes count : Int}
    (h : batchFits quota tenant bytes count = true) :
    quota.counters .reserved + quota.counters .committed + ((bytes, count) + 0) ≤ quota.limits ∧
      tenant.counters .reserved + tenant.counters .committed + ((bytes, count) + 0) ≤
        tenant.limits := by
  simp only [batchFits, Bool.and_eq_true, decide_eq_true_eq] at h
  obtain ⟨⟨⟨hgb, hgc⟩, htb⟩, htc⟩ := h
  rw [add_zero]
  exact ⟨⟨hgb, hgc⟩, ⟨htb, htc⟩⟩

theorem reserveBatch_consistent {cluster : Cluster} {db db' : Database} {call : ReserveCall}
    {reservation : StorageReservation} (h : reserveBatch cluster db call = .ok (db', reservation))
    (hdb : db.Consistent) : db'.Consistent := by
  obtain ⟨claims, base, quota, tenant, expiry, hreserved, rfl⟩ := reserveBatch_cases h hdb.rows
  have hbase := insertTenantQuotaIfMissing_consistent hreserved.base_eq hdb
  have hquota : base.globalQuota = some quota := by
    rcases insertTenantQuotaIfMissing_cases hreserved.base_eq with ⟨rfl, -⟩ | ⟨-, -, rfl⟩
    · exact hreserved.quota_found
    · exact hreserved.quota_found
  have hrows : RowsOk (progressAfter base.storedObjects call expiry claims).rows :=
    rowsOk_progressAfter hbase.rows (fun c hc => (hreserved.canonical.canonical c hc).size_positive)
      hreserved.canonical.apart hreserved.reservable
  have hknown : ∀ row ∈ (progressAfter base.storedObjects call expiry claims).rows,
      row.organizationId = call.organizationId ∨
        ∃ old ∈ base.storedObjects, row.organizationId = old.organizationId := by
    intro row hrow
    rcases List.mem_append.mp hrow with hmem | hmem
    · exact .inr (organization_of_mem_modify (keepsIdentity_leasedRow call expiry) hmem)
    · obtain ⟨c, -, rfl⟩ := List.mem_map.mp hmem
      exact .inl rfl
  unfold reservedDatabase
  simp only
  split
  · obtain ⟨hglobal, hwithin⟩ := counters_of_batchFits hreserved.fits
    exact hbase.charge (Charge.ofFamily .reserved hrows hknown chargeOf_progressAfter hquota rfl rfl)
      hreserved.tenant_found hglobal hwithin
  · -- no fresh claim: the counters stay as they are
    rename_i hcount
    have hnone : claims.filter (isFresh base.storedObjects call.organizationId) = [] := by
      have hlength : ¬0 < ((claims.filter
        (isFresh base.storedObjects call.organizationId)).length : Int) := hcount
      rw [← List.length_eq_zero_iff]
      omega
    refine hbase.of_rows hrows rfl (fun row hrow => ?_) (fun organizationId kind => ?_) hbase.quota
    · have hmem : row ∈ Table.modify (isReclaimed call.organizationId claims)
          (leasedRow call expiry) base.storedObjects := by
        simpa [Database.withRows, progressAfter, hnone] using hrow
      exact organization_of_mem_modify (keepsIdentity_leasedRow call expiry) hmem
    · refine (chargeOf_progressAfter organizationId kind).trans ?_
      simp only [progressAfter, hnone]
      split
      · exact add_zero _
      · exact add_zero _

/-! ## Commits -/

section Commit

variable {cluster : Cluster} {db db' : Database} {call : CommitCall}
  {claims : List StorageObjectClaim} {quota : GlobalQuota} {tenant : TenantQuota}
  {bytes count : Int}

theorem isCommitting_iff {row : StoredObject} : isCommitting call claims row = true ↔
    row.organizationId = call.organizationId ∧ row.state = .reserved ∧
      row.leaseToken = some call.leaseToken ∧ ∃ c ∈ claims, c.objectKey = row.objectKey := by
  simp [isCommitting, and_assoc]

/-- What a commit takes from the reserved charge of its tenant it adds to the committed one. -/
theorem chargeOf_committed (other : String) (kind : AccountingState) :
    chargeOf (Table.modify (isCommitting call claims) (committedRow call.now) db.storedObjects)
        other kind =
      chargeOf db.storedObjects other kind + if other = call.organizationId then
        (if kind = .reserved then
          -Table.sumOf StoredObject.usage (db.storedObjects.filter (isCommitting call claims))
        else Table.sumOf StoredObject.usage (db.storedObjects.filter (isCommitting call claims)))
      else 0 := by
  unfold chargeOf
  rw [Table.sumOf_modify]
  congr 1
  have hchange : ∀ row ∈ db.storedObjects.filter (isCommitting call claims),
      chargedTo other kind (committedRow call.now row) - chargedTo other kind row =
        if other = call.organizationId then (if kind = .reserved then -row.usage else row.usage)
        else 0 := by
    intro row hrow
    obtain ⟨horganization, hstate, -⟩ := isCommitting_iff.mp (List.mem_filter.mp hrow).2
    simp only [chargedTo, committedRow, StoredObject.accounting, hstate, horganization,
      StoredObject.usage]
    by_cases hother : call.organizationId = other
    · cases kind <;> simp [hother]
    · simp [hother, Ne.symm hother]
  rw [Table.sumOf_congr hchange]
  split
  · split
    · exact Table.sumOf_neg
    · rfl
  · exact Table.sumOf_eq_zero fun _ _ => rfl

/-- The reserved counters cover every commit that gets to them. -/
theorem reservedCovers_of_committing (hdb : db.Consistent)
    (hquota : db.globalQuota = some quota)
    (htenant : db.tenantQuota call.organizationId = some tenant)
    (hdeltas : Table.sumOf StoredObject.usage
      (db.storedObjects.filter (isCommitting call claims)) = (bytes, count)) :
    reservedCovers quota tenant bytes count = true := by
  obtain ⟨hmem, horganization⟩ := mem_tenantQuotas htenant
  have hcharged : (bytes, count) ≤ chargeOf db.storedObjects call.organizationId .reserved := by
    rw [← hdeltas]
    have hsame : Table.sumOf StoredObject.usage
        (db.storedObjects.filter (isCommitting call claims)) =
        Table.sumOf (chargedTo call.organizationId .reserved)
          (db.storedObjects.filter (isCommitting call claims)) := by
      refine Table.sumOf_congr fun row hrow => ?_
      obtain ⟨hrowOrganization, hstate, -⟩ := isCommitting_iff.mp (List.mem_filter.mp hrow).2
      simp [chargedTo, hrowOrganization, StoredObject.accounting, hstate]
    rw [hsame]
    exact Table.sumOf_filter_le fun row hrow =>
      chargedTo_nonneg (hdb.rows.sizes_positive row hrow) _ _
  have htenantLe : (bytes, count) ≤ tenant.counters .reserved := by
    rw [(hdb.tenants tenant hmem).charged .reserved, horganization]
    exact hcharged
  have hquotaLe := le_trans htenantLe (counters_le_global hdb hquota hmem .reserved)
  simp only [reservedCovers, Bool.and_eq_true, decide_eq_true_eq]
  exact ⟨⟨⟨hquotaLe.1, hquotaLe.2⟩, htenantLe.1⟩, htenantLe.2⟩

theorem commitBatch_consistent (h : commitBatch cluster db call = .ok db') (hdb : db.Consistent) :
    db'.Consistent := by
  obtain ⟨claims, quota, tenant, bytes, count, hcommitted, rfl⟩ := commitBatch_cases h hdb.rows
  split
  · have hkeep := keepsIdentity_committedRow call.now
    have hcharge : Charge db (committedDatabase db call claims quota bytes count)
        call.organizationId
        (fun kind => if kind = .reserved then -(bytes, count) else (bytes, count))
        (fun tenant => (tenant.addReserved (-bytes) (-count)).addCommitted bytes count)
        quota ((quota.addReserved (-bytes) (-count)).addCommitted bytes count) :=
      { rows := by
          refine hdb.rows.modify hkeep fun row hrow hrow' => ?_
          have hstate := (isCommitting_iff.mp hrow').2.1
          obtain ⟨-, hclaim, hexpiry⟩ := shapeOk_reserved hstate (hdb.rows.shapes row hrow)
          simp [StoredObject.shapeOk, committedRow, hclaim, hexpiry]
        known := fun row hrow => .inr (organization_of_mem_modify hkeep hrow)
        charged := fun other kind => by
          rw [← hcommitted.deltas]
          exact chargeOf_committed other kind
        tenants := rfl
        change_organization := fun _ => rfl
        change_counters := by rintro tenant (_ | _) <;> rfl
        change_limits := fun _ => rfl
        before := hcommitted.quota_found
        after := rfl
        counters := by rintro (_ | _) <;> rfl
        limits := rfl }
    obtain ⟨found, hfound, hglobal⟩ := hdb.quota
    obtain rfl : quota = found := Option.some.inj (hcommitted.quota_found.symm.trans hfound)
    have hmem := (mem_tenantQuotas hcommitted.tenant_found).1
    -- the total does not move
    have hzero : -((bytes, count) : Int × Int) + (bytes, count) = 0 := neg_add_cancel _
    refine hdb.charge hcharge hcommitted.tenant_found ?_ ?_
    · rw [if_pos rfl, if_neg (by decide), hzero, add_zero]
      exact hglobal.within
    · rw [if_pos rfl, if_neg (by decide), hzero, add_zero]
      exact (hdb.tenants tenant hmem).within
  · exact hdb

end Commit

/-! ## Finalizations -/

section Finalize

variable {cluster : Cluster} {db db' : Database} {call : FinalizeReapCall} {kind : AccountingState}
  {quota : GlobalQuota} {tenant : TenantQuota} {row : StoredObject}

/-- A claimed row is charged to the family its token names. -/
theorem accounting_of_ownsReapClaim {sha256 claimToken : String} {sizeBytes now : Int}
    (howned : ownsReapClaim row sha256 sizeBytes claimToken now = true)
    (hmarked : counterKindFromToken claimToken = some kind) : row.accounting = some kind := by
  obtain ⟨hstate, -, -, htoken, -⟩ := ownsReapClaim_iff.mp howned
  simp [StoredObject.accounting, hstate, htoken, hmarked]

/-- Both levels of the family of a claimed row cover the row. -/
theorem usage_le_counters (hdb : db.Consistent) (hquota : db.globalQuota = some quota)
    (htenant : db.tenantQuota row.organizationId = some tenant) (hrow : row ∈ db.storedObjects)
    (hkind : row.accounting = some kind) :
    row.usage ≤ tenant.counters kind ∧ row.usage ≤ quota.counters kind := by
  obtain ⟨hmem, horganization⟩ := mem_tenantQuotas htenant
  have hle : row.usage ≤ tenant.counters kind := by
    rw [(hdb.tenants tenant hmem).charged kind, horganization]
    exact usage_le_chargeOf hdb.rows hrow hkind
  exact ⟨hle, le_trans hle (counters_le_global hdb hquota hmem kind)⟩

theorem chargeOf_withoutKey (hrows : RowsOk db.storedObjects) (hrow : row ∈ db.storedObjects)
    (hkind : row.accounting = some kind) (other : String) (kind' : AccountingState) :
    chargeOf (withoutKey db.storedObjects row.objectKey) other kind' =
      chargeOf db.storedObjects other kind' +
        if other = row.organizationId ∧ kind' = kind then (-row.sizeBytes, -1) else 0 := by
  unfold chargeOf withoutKey
  rw [Table.sumOf_remove_key hrows.keys_nodup hrow fun r _ => by rw [beq_iff_eq], sub_eq_add_neg]
  congr 1
  simp only [chargedTo, hkind, Option.some.injEq]
  by_cases h : other = row.organizationId ∧ kind' = kind
  · rw [if_pos ⟨h.1.symm, h.2.symm⟩, if_pos h]
    rfl
  · rw [if_neg fun h' => h ⟨h'.1.symm, h'.2.symm⟩, if_neg h, neg_zero]

theorem RowsOk.withoutKey {rows : List StoredObject} (h : RowsOk rows) (objectKey : String) :
    RowsOk (withoutKey rows objectKey) where
  keys_nodup := h.keys_nodup.sublist (List.filter_sublist.map _)
  identities_nodup := h.identities_nodup.sublist (List.filter_sublist.map _)
  sizes_positive := fun row hrow => h.sizes_positive row (List.mem_filter.mp hrow).1
  shapes := fun row hrow => h.shapes row (List.mem_filter.mp hrow).1

theorem finalizeReap_consistent (h : finalizeReap cluster db call = .ok db') (hdb : db.Consistent) :
    db'.Consistent := by
  obtain ⟨kind, quota, tenant, row, hfinal, rfl⟩ := finalizeReap_cases h hdb.rows
  have hkind := accounting_of_ownsReapClaim hfinal.owned hfinal.marked
  have hsize : row.sizeBytes = call.sizeBytes := (ownsReapClaim_iff.mp hfinal.owned).2.2.1
  have hcharged : ∀ other kind', chargeOf (withoutKey db.storedObjects call.objectKey) other kind' =
      chargeOf db.storedObjects other kind' +
        if other = call.organizationId ∧ kind' = kind then (-call.sizeBytes, -1) else 0 := by
    intro other kind'
    rw [← hfinal.row_key, ← hfinal.row_organization, ← hsize]
    exact chargeOf_withoutKey hdb.rows hfinal.row_mem hkind other kind'
  have hcharge : Charge db (finalizedDatabase db call kind quota row) call.organizationId
      (familyDelta kind (-call.sizeBytes, -1))
      (fun tenant => tenant.addTo kind (-call.sizeBytes) (-1)) quota
      (quota.addTo kind (-call.sizeBytes) (-1)) := by
    refine Charge.ofFamily kind (hdb.rows.withoutKey _) (fun r hr => ?_) hcharged
      hfinal.quota_found ?_ ?_
    · exact .inr ⟨r, (List.mem_filter.mp hr).1, rfl⟩
    · cases kind <;> rfl
    · cases kind <;> rfl
  have hpositive : 0 < call.sizeBytes := hsize ▸ hdb.rows.sizes_positive row hfinal.row_mem
  -- the total falls, so that it stays within the limits
  have hfalls : familyDelta kind (-call.sizeBytes, -1) .reserved +
      familyDelta kind (-call.sizeBytes, -1) .committed ≤ 0 := by
    have hbytes : -call.sizeBytes ≤ 0 := by omega
    have hneg : ((-call.sizeBytes, -1) : Int × Int) ≤ 0 := ⟨hbytes, by show (-1 : Int) ≤ 0; omega⟩
    cases kind
    · simpa [familyDelta] using hneg
    · simpa [familyDelta] using hneg
  obtain ⟨found, hfound, hglobal⟩ := hdb.quota
  obtain rfl : quota = found := Option.some.inj (hfinal.quota_found.symm.trans hfound)
  have hmem := (mem_tenantQuotas hfinal.tenant_found).1
  exact hdb.charge hcharge hfinal.tenant_found
    (le_trans (add_le_of_nonpos_right hfalls) hglobal.within)
    (le_trans (add_le_of_nonpos_right hfalls) (hdb.tenants tenant hmem).within)

end Finalize

/-! ## Runs -/

section Run

variable {cluster : Cluster} {db db' : Database} {statement : Statement}

/-- The ledger rows and the counters are the same, and the new limits cover the counters. -/
theorem Database.Consistent.withQuota {quota quota' : GlobalQuota} (hdb : db.Consistent)
    (hquota : db.globalQuota = some quota) (hcounters : quota'.counters = quota.counters)
    (hwithin : quota.counters .reserved + quota.counters .committed ≤ quota'.limits) :
    (db.withQuota quota').Consistent := by
  obtain ⟨found, hfound, hglobal⟩ := hdb.quota
  obtain rfl : quota = found := Option.some.inj (hquota.symm.trans hfound)
  refine hdb.of_rows hdb.rows rfl (fun row hrow => ⟨row, hrow, rfl⟩) (fun _ _ => rfl)
    ⟨quota', rfl, fun kind => ?_, ?_⟩
  · rw [hcounters]
    exact hglobal.summed kind
  · rw [hcounters]
    exact hwithin

/-- The same when the limits do not change either. -/
theorem Database.Consistent.withGate {quota quota' : GlobalQuota} (hdb : db.Consistent)
    (hquota : db.globalQuota = some quota) (hcounters : quota'.counters = quota.counters)
    (hlimits : quota'.limits = quota.limits) : (db.withQuota quota').Consistent := by
  obtain ⟨found, hfound, hglobal⟩ := hdb.quota
  obtain rfl : quota = found := Option.some.inj (hquota.symm.trans hfound)
  refine hdb.withQuota hquota hcounters ?_
  rw [hlimits]
  exact hglobal.within

theorem counters_eq {quota quota' : GlobalQuota} (hbytes : quota'.reservedBytes = quota.reservedBytes)
    (hcount : quota'.reservedCount = quota.reservedCount)
    (hcommitted : quota'.committedBytes = quota.committedBytes)
    (hobjects : quota'.committedCount = quota.committedCount) :
    quota'.counters = quota.counters := by
  funext kind
  cases kind
  · simp only [GlobalQuota.counters, hbytes, hcount]
  · simp only [GlobalQuota.counters, hcommitted, hobjects]

theorem Database.Consistent.sameLedger (hdb : db.Consistent) (h : SameLedger db db') :
    db'.Consistent := by
  refine hdb.of_rows (h.storedObjects ▸ hdb.rows) h.tenantQuotas (fun row hrow => ?_)
    (fun _ _ => by rw [h.storedObjects]) (h.globalQuota ▸ hdb.quota)
  rw [h.storedObjects] at hrow
  exact ⟨row, hrow, rfl⟩

theorem attestCapacity_consistent {call : AttestCapacityCall}
    (h : attestCapacity cluster db call = .ok db') (hdb : db.Consistent) : db'.Consistent := by
  obtain ⟨quota, hquota, -, -, hagrees, rfl⟩ := attestCapacity_cases h
  simp only [attestationAgrees, Bool.and_eq_true, decide_eq_true_eq] at hagrees
  obtain ⟨⟨-, hbytes⟩, hobjects⟩ := hagrees
  refine hdb.withQuota hquota (counters_eq rfl rfl rfl rfl) ⟨?_, ?_⟩
  · show quota.reservedBytes + quota.committedBytes ≤ call.byteLimit
    omega
  · show quota.reservedCount + quota.committedCount ≤ call.objectLimit
    omega

/-- Every statement keeps the accounting. -/
theorem execute_consistent (h : execute cluster db statement = .ok db') (hdb : db.Consistent) :
    db'.Consistent := by
  by_cases houtside : statement.isOutside = true
  · exact hdb.sameLedger (execute_sameLedger houtside h)
  cases statement <;> try exact absurd rfl houtside
  case reserve call =>
    obtain ⟨reservation, hreserve⟩ := exists_of_map_fst h
    exact reserveBatch_consistent hreserve hdb
  case renew call => exact renewBatch_consistent h hdb
  case commit call => exact commitBatch_consistent h hdb
  case claimReap call =>
    obtain ⟨claims, hclaim⟩ := exists_of_map_fst h
    exact claimReap_consistent hclaim hdb
  case finalizeReap call => exact finalizeReap_consistent h hdb
  case attest call => exact attestCapacity_consistent h hdb
  case invalidate sha256 now =>
    obtain ⟨quota, hquota, rfl⟩ := invalidateCapacity_cases h
    exact hdb.withGate hquota (counters_eq rfl rfl rfl rfl) rfl
  case beginMaintenance token bucket now =>
    obtain ⟨epoch, hbegin⟩ := exists_of_map_fst h
    obtain ⟨quota, hquota, -, -, rfl⟩ := beginMaintenance_cases hbegin
    exact hdb.withGate hquota (counters_eq rfl rfl rfl rfl) rfl
  case renewMaintenance token epoch now renewedAt =>
    obtain ⟨quota, hgate, rfl⟩ := renewMaintenance_cases h
    exact hdb.withGate hgate.found (counters_eq rfl rfl rfl rfl) rfl
  case finishMaintenance token epoch now =>
    obtain ⟨quota, hgate, -, rfl⟩ := finishMaintenance_cases h
    exact hdb.withGate hgate.found (counters_eq rfl rfl rfl rfl) rfl

end Run

end Custombuild.Storage
