/-
  The ledger right after its migration: every row is committed and stands for one reference
  of the domain tables, and the counters are the sums over the rows.
-/
import Mathlib.Data.List.Dedup
import Custombuild.Storage.Accounting

namespace Custombuild.Storage

open Custombuild.Lib

/-! ## One tenant -/

/-- A row of the backfill of a tenant. -/
structure IsLegacy (organizationId : String) (row : StoredObject) : Prop where
  organization : row.organizationId = organizationId
  size_positive : 0 < row.sizeBytes
  committed : row.state = .committed
  shape : row.shapeOk = true

theorem validatedLegacyRow_cases {db : Database} {now : Int} {reference : DomainReference}
    {row : StoredObject} (h : validatedLegacyRow db now reference = .ok row) :
    ∃ identity, referenceIdentity db reference = some identity ∧ 0 < reference.sizeBytes ∧
      row = legacyRow reference identity now := by
  simp only [validatedLegacyRow, bind_eq_ok, demand_eq_ok, require_eq_ok, decide_eq_true_eq] at h
  obtain ⟨_, -, identity, hidentity, _, -, _, -, _, -, _, hsize, _, -, _, -, _, -, _, -, hrow⟩ := h
  cases hrow
  exact ⟨identity, hidentity, hsize, rfl⟩

/-- The inserts append the legacy rows. -/
theorem insertLegacyRows_eq {db : Database} {rows rows' legacy : List StoredObject}
    (h : insertLegacyRows db rows legacy = .ok rows') : rows' = rows ++ legacy := by
  induction legacy generalizing rows with
  | nil =>
    cases h
    exact (List.append_nil _).symm
  | cons row legacy ih =>
    simp only [insertLegacyRows, bind_eq_ok, insertStoredObject_eq_ok] at h
    obtain ⟨_, ⟨-, -, -, -, rfl⟩, hrest⟩ := h
    rw [ih hrest, List.append_assoc, List.singleton_append]

/-- They keep the table in order. -/
theorem insertLegacyRows_rowsOk {db : Database} {rows rows' legacy : List StoredObject}
    (h : insertLegacyRows db rows legacy = .ok rows') (hrows : RowsOk rows)
    (hlegacy : ∀ row ∈ legacy, 0 < row.sizeBytes ∧ row.shapeOk = true) : RowsOk rows' := by
  induction legacy generalizing rows with
  | nil =>
    cases h
    exact hrows
  | cons row legacy ih =>
    simp only [insertLegacyRows, bind_eq_ok, insertStoredObject_eq_ok] at h
    obtain ⟨_, ⟨hkey, hidentity, -, -, rfl⟩, hrest⟩ := h
    obtain ⟨hsize, hshape⟩ := hlegacy row List.mem_cons_self
    have hnext : RowsOk (rows ++ [row]) := by
      refine ⟨?_, ?_, fun r hr => ?_, fun r hr => ?_⟩
      · rw [List.map_append, List.map_singleton, List.nodup_append]
        refine ⟨hrows.keys_nodup, List.nodup_singleton _, ?_⟩
        intro key hmem key' hmem'
        obtain ⟨other, hother, rfl⟩ := List.mem_map.mp hmem
        rw [List.mem_singleton.mp hmem']
        exact hkey other hother
      · rw [List.map_append, List.map_singleton, List.nodup_append]
        refine ⟨hrows.identities_nodup, List.nodup_singleton _, ?_⟩
        intro pair hmem pair' hmem' heq
        obtain ⟨other, hother, rfl⟩ := List.mem_map.mp hmem
        rw [List.mem_singleton.mp hmem', Prod.mk.injEq] at heq
        exact hidentity other hother heq.1 heq.2
      · rcases List.mem_append.mp hr with hold | hnew
        · exact hrows.sizes_positive r hold
        · rw [List.mem_singleton.mp hnew]
          exact hsize
      · rcases List.mem_append.mp hr with hold | hnew
        · exact hrows.shapes r hold
        · rw [List.mem_singleton.mp hnew]
          exact hshape
    exact ih hrest hnext fun r hr => hlegacy r (List.mem_cons_of_mem _ hr)

/-- The guards of one tenant of the backfill, and what it leaves: `legacy` are its rows. -/
structure BackfilledTenant (now : Int) (db : Database) (organizationId : String)
    (legacy : List StoredObject) (db' : Database) : Prop where
  collected : collect (validatedLegacyRow db now)
    (db.references.filter fun reference => reference.organizationId == organizationId) = .ok legacy
  inserted : insertLegacyRows db db.storedObjects legacy = .ok db'.storedObjects
  within : (legacy.map StoredObject.sizeBytes).sum ≤ tenantStorageByteLimit ∧
    (legacy.length : Int) ≤ tenantStorageObjectLimit
  eq : db' = { db with
    storedObjects := db'.storedObjects
    tenantQuotas := db.tenantQuotas ++ [⟨organizationId, tenantStorageByteLimit,
      tenantStorageObjectLimit, 0, (legacy.map StoredObject.sizeBytes).sum, 0, legacy.length⟩] }

theorem backfillTenant_cases {now : Int} {db db' : Database} {organizationId : String}
    (h : backfillTenant now db organizationId = .ok db') :
    ∃ legacy, BackfilledTenant now db organizationId legacy db' := by
  simp only [backfillTenant, bind_eq_ok, require_eq_ok, Bool.and_eq_true, decide_eq_true_eq] at h
  obtain ⟨legacy, hlegacy, _, -, _, -, _, -, _, hwithin, rows, hrows, hdb'⟩ := h
  cases hdb'
  exact ⟨legacy, hlegacy, hrows, hwithin, rfl⟩

theorem BackfilledTenant.legacy {now : Int} {db db' : Database} {organizationId : String}
    {legacy : List StoredObject} (h : BackfilledTenant now db organizationId legacy db')
    {row : StoredObject} (hrow : row ∈ legacy) : IsLegacy organizationId row := by
  obtain ⟨reference, hreference, hvalid⟩ := mem_of_collect h.collected hrow
  obtain ⟨identity, -, hsize, rfl⟩ := validatedLegacyRow_cases hvalid
  have horganization : reference.organizationId = organizationId := by
    simpa using (List.mem_filter.mp hreference).2
  exact ⟨horganization, hsize, rfl, rfl⟩

/-! ## All tenants -/

/-- The ledger during the backfill, without the global row. -/
structure Backfilled (db : Database) : Prop where
  rows : RowsOk db.storedObjects
  committed : ∀ row ∈ db.storedObjects, row.state = .committed
  tenants_nodup : (db.tenantQuotas.map TenantQuota.organizationId).Nodup
  tenant_of_row : ∀ row ∈ db.storedObjects,
    row.organizationId ∈ db.tenantQuotas.map TenantQuota.organizationId
  tenants : ∀ quota ∈ db.tenantQuotas, quota.Consistent db.storedObjects

/-- Committed rows of one tenant are charged to its committed counters. -/
theorem sumOf_legacy {legacy : List StoredObject} {organizationId : String}
    (h : ∀ row ∈ legacy, row.organizationId = organizationId ∧ row.state = .committed)
    (other : String) (kind : AccountingState) :
    chargeOf legacy other kind = if other = organizationId ∧ kind = .committed then
      ((legacy.map StoredObject.sizeBytes).sum, (legacy.length : Int)) else 0 := by
  induction legacy with
  | nil =>
    split
    · rfl
    · rfl
  | cons row legacy ih =>
    obtain ⟨horganization, hstate⟩ := h row List.mem_cons_self
    have hcharged : chargedTo other kind row =
        if other = organizationId ∧ kind = .committed then row.usage else 0 := by
      simp only [chargedTo, StoredObject.accounting, hstate, horganization, Option.some.injEq]
      by_cases hcase : other = organizationId ∧ kind = .committed
      · rw [if_pos ⟨hcase.1.symm, hcase.2.symm⟩, if_pos hcase]
      · rw [if_neg fun h' => hcase ⟨h'.1.symm, h'.2.symm⟩, if_neg hcase]
    have hrest := ih fun r hr => h r (List.mem_cons_of_mem _ hr)
    unfold chargeOf at hrest ⊢
    rw [Table.sumOf_cons, hcharged, hrest]
    split
    · simp [StoredObject.usage, add_comm]
    · exact add_zero 0

theorem backfillTenant_backfilled {now : Int} {db db' : Database} {organizationId : String}
    (h : backfillTenant now db organizationId = .ok db') (hdb : Backfilled db)
    (hnew : organizationId ∉ db.tenantQuotas.map TenantQuota.organizationId) :
    Backfilled db' ∧ db'.tenantQuotas.map TenantQuota.organizationId =
      db.tenantQuotas.map TenantQuota.organizationId ++ [organizationId] := by
  obtain ⟨legacy, htenant⟩ := backfillTenant_cases h
  have hlegacy : ∀ row ∈ legacy, row.organizationId = organizationId ∧ row.state = .committed :=
    fun row hrow => ⟨(htenant.legacy hrow).organization, (htenant.legacy hrow).committed⟩
  have hrows' := insertLegacyRows_eq htenant.inserted
  have hok := insertLegacyRows_rowsOk htenant.inserted hdb.rows fun row hrow =>
    ⟨(htenant.legacy hrow).size_positive, (htenant.legacy hrow).shape⟩
  have hquotas := congrArg Database.tenantQuotas htenant.eq
  have hcolumn : db'.tenantQuotas.map TenantQuota.organizationId =
      db.tenantQuotas.map TenantQuota.organizationId ++ [organizationId] := by
    rw [hquotas, List.map_append]
    rfl
  have hcharge (other : String) (kind : AccountingState) :
      chargeOf db'.storedObjects other kind = chargeOf db.storedObjects other kind +
        if other = organizationId ∧ kind = .committed then
          ((legacy.map StoredObject.sizeBytes).sum, (legacy.length : Int)) else 0 := by
    rw [hrows', ← sumOf_legacy hlegacy]
    exact Table.sumOf_append
  refine ⟨⟨hok, fun row hrow => ?_, ?_, fun row hrow => ?_, fun quota hquota => ?_⟩, hcolumn⟩
  · rw [hrows'] at hrow
    rcases List.mem_append.mp hrow with hold | hmem
    · exact hdb.committed row hold
    · exact (hlegacy row hmem).2
  · rw [hcolumn, List.nodup_append]
    refine ⟨hdb.tenants_nodup, List.nodup_singleton _, ?_⟩
    rintro a ha b hb rfl
    exact hnew (List.mem_singleton.mp hb ▸ ha)
  · rw [hcolumn]
    rw [hrows'] at hrow
    rcases List.mem_append.mp hrow with hold | hmem
    · exact List.mem_append_left _ (hdb.tenant_of_row row hold)
    · rw [(hlegacy row hmem).1]
      exact List.mem_append_right _ (List.mem_singleton_self _)
  · rw [hquotas] at hquota
    rcases List.mem_append.mp hquota with hold | hmem
    · have hother : quota.organizationId ≠ organizationId := by
        rintro rfl
        exact hnew (List.mem_map_of_mem hold)
      refine ⟨fun kind => ?_, (hdb.tenants quota hold).within⟩
      rw [hcharge, if_neg fun hcase => hother hcase.1, add_zero]
      exact (hdb.tenants quota hold).charged kind
    · -- nothing was charged to the tenant before its own rows
      have hempty (kind : AccountingState) : chargeOf db.storedObjects organizationId kind = 0 := by
        refine Table.sumOf_eq_zero fun row hrow => ?_
        unfold chargedTo
        rw [if_neg]
        rintro ⟨rfl, -⟩
        exact hnew (hdb.tenant_of_row row hrow)
      rw [List.mem_singleton.mp hmem]
      refine ⟨fun kind => ?_, ?_⟩
      · rw [hcharge, hempty, zero_add]
        cases kind <;> simp [TenantQuota.counters]
      · refine ⟨?_, ?_⟩
        · show 0 + (legacy.map StoredObject.sizeBytes).sum ≤ tenantStorageByteLimit
          rw [zero_add]
          exact htenant.within.1
        · show 0 + (legacy.length : Int) ≤ tenantStorageObjectLimit
          rw [zero_add]
          exact htenant.within.2

theorem backfillTenants_backfilled {now : Int} {db db' : Database} {organizationIds : List String}
    (h : backfillTenants now db organizationIds = .ok db') (hdb : Backfilled db)
    (hnodup : (db.tenantQuotas.map TenantQuota.organizationId ++ organizationIds).Nodup) :
    Backfilled db' ∧ db'.tenantQuotas.map TenantQuota.organizationId =
      db.tenantQuotas.map TenantQuota.organizationId ++ organizationIds := by
  induction organizationIds generalizing db with
  | nil =>
    cases h
    exact ⟨hdb, (List.append_nil _).symm⟩
  | cons organizationId organizationIds ih =>
    simp only [backfillTenants, bind_eq_ok] at h
    obtain ⟨middle, htenant, hrest⟩ := h
    have hnew : organizationId ∉ db.tenantQuotas.map TenantQuota.organizationId := by
      intro hmem
      have hdisjoint := (List.nodup_append.mp hnodup).2.2
      exact hdisjoint _ hmem _ List.mem_cons_self rfl
    obtain ⟨hmiddle, hcolumn⟩ := backfillTenant_backfilled htenant hdb hnew
    have hnext : (middle.tenantQuotas.map TenantQuota.organizationId ++ organizationIds).Nodup := by
      rw [hcolumn, List.append_assoc, List.singleton_append]
      exact hnodup
    obtain ⟨hbackfilled, hcolumn'⟩ := ih hrest hmiddle hnext
    refine ⟨hbackfilled, ?_⟩
    rw [hcolumn', hcolumn, List.append_assoc, List.singleton_append]

/-- The backfill writes the stored objects and the tenant quotas, and nothing else. -/
theorem backfillTenants_frame {now : Int} {db db' : Database} {organizationIds : List String}
    (h : backfillTenants now db organizationIds = .ok db') :
    db' = { db with storedObjects := db'.storedObjects, tenantQuotas := db'.tenantQuotas } := by
  induction organizationIds generalizing db with
  | nil =>
    cases h
    rfl
  | cons organizationId organizationIds ih =>
    simp only [backfillTenants, bind_eq_ok] at h
    obtain ⟨middle, htenant, hrest⟩ := h
    obtain ⟨legacy, hcases⟩ := backfillTenant_cases htenant
    have hframe := ih hrest
    rw [hcases.eq] at hframe
    exact hframe

theorem backfill_cases {tables : LegacyTables} {startedAt now : Int} {db : Database}
    (h : backfill tables startedAt now = .ok db) :
    ∃ loaded, backfillTenants now ⟨startedAt, none, [], [], [], tables.organizations,
        tables.projects, tables.designVersions, tables.generationJobs, tables.references⟩
        tables.organizations.dedup = .ok loaded ∧
      db = loaded.withQuota (bootstrapQuota (loaded.tenantQuotas.map TenantQuota.committedBytes).sum
        (loaded.tenantQuotas.map TenantQuota.committedCount).sum startedAt now) := by
  simp only [backfill, bind_eq_ok] at h
  obtain ⟨loaded, hloaded, _, -, hdb⟩ := h
  cases hdb
  exact ⟨loaded, hloaded, rfl⟩

/-- The tables before the backfill hold nothing of the ledger. -/
theorem backfilled_empty {startedAt : Int} {organizations : List String}
    {projects : List (String × String)} {designVersions : List DesignVersionRow}
    {generationJobs : List JobRow} {references : List DomainReference} :
    Backfilled ⟨startedAt, none, [], [], [], organizations, projects, designVersions,
      generationJobs, references⟩ where
  rows := ⟨List.nodup_nil, List.nodup_nil, by simp, by simp⟩
  committed := by simp
  tenants_nodup := List.nodup_nil
  tenant_of_row := by simp
  tenants := by simp

theorem backfill_backfilled {tables : LegacyTables} {startedAt now : Int} {db : Database}
    (h : backfill tables startedAt now = .ok db) : Backfilled db := by
  obtain ⟨loaded, hloaded, rfl⟩ := backfill_cases h
  obtain ⟨⟨hrows, hcommitted, hnodup, hknown, htenants⟩, -⟩ :=
    backfillTenants_backfilled hloaded backfilled_empty (List.nodup_dedup _)
  exact ⟨hrows, hcommitted, hnodup, hknown, htenants⟩

theorem backfill_tombstones {tables : LegacyTables} {startedAt now : Int} {db : Database}
    (h : backfill tables startedAt now = .ok db) : db.tombstones = [] := by
  obtain ⟨loaded, hloaded, rfl⟩ := backfill_cases h
  exact congrArg Database.tombstones (backfillTenants_frame hloaded)

/-- The tenants of the ledger are the organizations. -/
theorem backfill_tenants {tables : LegacyTables} {startedAt now : Int} {db : Database}
    (h : backfill tables startedAt now = .ok db) {tenant : TenantQuota}
    (htenant : tenant ∈ db.tenantQuotas) : tenant.organizationId ∈ db.organizations := by
  obtain ⟨loaded, hloaded, rfl⟩ := backfill_cases h
  obtain ⟨-, hcolumn⟩ :=
    backfillTenants_backfilled hloaded backfilled_empty (List.nodup_dedup _)
  have hmem : tenant.organizationId ∈ _ := List.mem_map_of_mem htenant
  have horganizations := congrArg Database.organizations (backfillTenants_frame hloaded)
  have hcolumn' : loaded.tenantQuotas.map TenantQuota.organizationId = tables.organizations.dedup :=
    hcolumn
  rw [show (loaded.withQuota _).tenantQuotas = loaded.tenantQuotas from rfl, hcolumn',
    List.mem_dedup] at hmem
  rw [show (loaded.withQuota _).organizations = loaded.organizations from rfl, horganizations]
  exact hmem

theorem sumOf_counters_committed (tenants : List TenantQuota) :
    Table.sumOf (fun tenant : TenantQuota => tenant.counters .committed) tenants =
      ((tenants.map TenantQuota.committedBytes).sum,
        (tenants.map TenantQuota.committedCount).sum) := by
  induction tenants with
  | nil => rfl
  | cons tenant tenants ih =>
    rw [Table.sumOf_cons, ih]
    simp [TenantQuota.counters]

/-- The migration leaves a consistent ledger. -/
theorem backfill_consistent {tables : LegacyTables} {startedAt now : Int} {db : Database}
    (h : backfill tables startedAt now = .ok db) : db.Consistent := by
  obtain ⟨hrows, hcommitted, hnodup, hknown, htenants⟩ := backfill_backfilled h
  obtain ⟨loaded, -, rfl⟩ := backfill_cases h
  refine ⟨hrows, hnodup, hknown, htenants, _, rfl, fun kind => ?_, ?_⟩
  · cases kind with
    | committed => exact (sumOf_counters_committed loaded.tenantQuotas).symm
    | reserved =>
      -- every row is committed, so that nothing is reserved
      symm
      refine Table.sumOf_eq_zero fun tenant htenant => ?_
      rw [(htenants tenant htenant).charged .reserved]
      refine Table.sumOf_eq_zero fun row hrow => ?_
      simp [chargedTo, StoredObject.accounting, hcommitted row hrow]
  · refine ⟨?_, ?_⟩
    · show 0 + (loaded.tenantQuotas.map TenantQuota.committedBytes).sum ≤
        max (loaded.tenantQuotas.map TenantQuota.committedBytes).sum 1
      omega
    · show 0 + (loaded.tenantQuotas.map TenantQuota.committedCount).sum ≤
        max (loaded.tenantQuotas.map TenantQuota.committedCount).sum 1
      omega

end Custombuild.Storage
