/-
  What a statement can do to the stored objects and the tombstones: where every row after it
  comes from, what became of every row before it, and which identities it retired.
-/
import Custombuild.Storage.Accounting

namespace Custombuild.Storage

open Custombuild.Lib

/-! ## Rows -/

/-- The states a row may move to: it stays, it is committed, or it is claimed by a reaper,
    unreferenced and without a live owner. -/
def MovesTo (db : Database) (row : StoredObject) (state : StoredObjectState) : Prop :=
  state = row.state ∨ (row.state = .reserved ∧ state = .committed) ∨
    (state = .reaping ∧ db.isReferenced row.organizationId row.objectKey = false ∧
      ∃ now, db.hasLiveOwner row now = false)

/-- The same object, in a state it may move to. -/
structure Continues (db : Database) (row row' : StoredObject) : Prop where
  organization : row'.organizationId = row.organizationId
  claim : row'.claim = row.claim
  moves : MovesTo db row row'.state

theorem Continues.refl (db : Database) (row : StoredObject) : Continues db row row :=
  ⟨rfl, rfl, .inl rfl⟩

/-- The tombstone retires its key and identity in the bucket of the ledger. -/
def Retires (db : Database) (tombstone : Tombstone) : Prop :=
  ∃ quota, db.globalQuota = some quota ∧ quota.capacityBucket = some tombstone.capacityBucket

/-- A new row: reserved in a bound ledger, under a key that no row has and no tombstone
    retires. -/
structure IsNew (db : Database) (row : StoredObject) : Prop where
  reserved : row.state = .reserved
  bound : ∃ quota, db.globalQuota = some quota ∧ quota.capacityBucket.isSome = true
  unused : ∀ old ∈ db.storedObjects, old.objectKey ≠ row.objectKey
  unretired : ∀ tombstone ∈ db.tombstones, Retires db tombstone →
    tombstone.objectKey ≠ row.objectKey

/-- A row that is gone: it was in reaping and unreferenced, and a tombstone keeps its
    identity. -/
structure IsRetired (db db' : Database) (row : StoredObject) (tombstone : Tombstone) : Prop where
  reaping : row.state = .reaping
  unreferenced : db.isReferenced row.organizationId row.objectKey = false
  kept : tombstone ∈ db'.tombstones
  objectKey : tombstone.objectKey = row.objectKey
  idempotencyKey : tombstone.idempotencyKey = row.idempotencyKey
  bucket : Retires db tombstone
  removed : ∀ row' ∈ db'.storedObjects, row'.objectKey ≠ tombstone.objectKey

structure RowsStep (db db' : Database) : Prop where
  origin : ∀ row' ∈ db'.storedObjects,
    (∃ row ∈ db.storedObjects, Continues db row row') ∨ IsNew db row'
  fate : ∀ row ∈ db.storedObjects,
    (∃ row' ∈ db'.storedObjects, Continues db row row') ∨
      ∃ tombstone, IsRetired db db' row tombstone
  retired : ∀ tombstone ∈ db'.tombstones, tombstone ∈ db.tombstones ∨
    ∃ row ∈ db.storedObjects, IsRetired db db' row tombstone
  kept : ∀ tombstone ∈ db.tombstones, tombstone ∈ db'.tombstones

section Steps

variable {cluster : Cluster} {db db' : Database} {statement : Statement}

theorem rowsStep_same (hrows : db'.storedObjects = db.storedObjects)
    (htombstones : db'.tombstones = db.tombstones) : RowsStep db db' where
  origin := by
    rw [hrows]
    exact fun row hrow => .inl ⟨row, hrow, .refl db row⟩
  fate := by
    rw [hrows]
    exact fun row hrow => .inl ⟨row, hrow, .refl db row⟩
  retired := by
    rw [htombstones]
    exact fun tombstone h => .inl h
  kept := by
    rw [htombstones]
    exact fun tombstone h => h

/-- Updated rows and new rows, the tombstones as they were. -/
theorem rowsStep_update {p : StoredObject → Bool} {change : StoredObject → StoredObject}
    {new : List StoredObject}
    (hrows : db'.storedObjects = Table.modify p change db.storedObjects ++ new)
    (htombstones : db'.tombstones = db.tombstones) (hkeep : KeepsIdentity change)
    (hmoves : ∀ row ∈ db.storedObjects, p row = true → MovesTo db row (change row).state)
    (hnew : ∀ row ∈ new, IsNew db row) : RowsStep db db' := by
  have hcontinues : ∀ row ∈ db.storedObjects, Continues db row (if p row then change row else row) := by
    intro row hrow
    split
    · exact ⟨(hkeep row).1, (hkeep row).2, hmoves row hrow ‹_›⟩
    · exact .refl db row
  refine ⟨fun row' hrow' => ?_, fun row hrow => .inl ?_, fun tombstone h => .inl ?_,
    fun tombstone h => ?_⟩
  · rw [hrows] at hrow'
    rcases List.mem_append.mp hrow' with hold | hadded
    · obtain ⟨row, hrow, rfl⟩ := Table.mem_modify.mp hold
      exact .inl ⟨row, hrow, hcontinues row hrow⟩
    · exact .inr (hnew row' hadded)
  · refine ⟨if p row then change row else row, ?_, hcontinues row hrow⟩
    rw [hrows]
    exact List.mem_append_left _ (Table.mem_modify.mpr ⟨row, hrow, rfl⟩)
  · exact htombstones ▸ h
  · exact htombstones ▸ h

/-- A reservation passes only with capacity evidence, which names a bucket. -/
theorem bucket_of_reserveFences {quota : GlobalQuota} {startedAt fenceAt : Int} {u : Unit}
    (h : reserveFences quota startedAt fenceAt = .ok u) : quota.capacityBucket.isSome = true := by
  simp only [reserveFences, bind_eq_ok, Sql.refuse_eq_ok, capacityUnverified, ne_eq,
    Sql.orAll_eq_true] at h
  obtain ⟨_, -, _, -, hverified⟩ := h
  cases hbucket : quota.capacityBucket with
  | some bucket => rfl
  | none =>
    refine absurd ?_ hverified
    simp [Sql.isNull, hbucket]

theorem reserveBatch_rowsStep {call : ReserveCall} {reservation : StorageReservation}
    (h : reserveBatch cluster db call = .ok (db', reservation)) (hdb : db.Consistent) :
    RowsStep db db' := by
  obtain ⟨claims, base, quota, tenant, expiry, hreserved, rfl⟩ := reserveBatch_cases h hdb.rows
  have hbase : base.storedObjects = db.storedObjects ∧ base.tombstones = db.tombstones := by
    rcases insertTenantQuotaIfMissing_cases hreserved.base_eq with ⟨rfl, -⟩ | ⟨-, -, rfl⟩
    · exact ⟨rfl, rfl⟩
    · exact ⟨rfl, rfl⟩
  have hnew : ∀ row ∈ (claims.filter (isFresh base.storedObjects call.organizationId)).map
      (newRow call expiry), IsNew db row := by
    intro row hrow
    obtain ⟨c, hc, rfl⟩ := List.mem_map.mp hrow
    obtain ⟨hmem, hfresh⟩ := List.mem_filter.mp hc
    have hreservable := hreserved.reservable c hmem
    refine ⟨rfl, ⟨quota, hreserved.quota_found, bucket_of_reserveFences hreserved.fences⟩,
      fun old hold => ?_, fun tombstone htombstone hretires hkey => ?_⟩
    · exact key_unused_of_isReservable hreservable hfresh old (hbase.1 ▸ hold)
    · -- the claim would have been refused
      obtain ⟨found, hfound, hbucket⟩ := hretires
      obtain rfl : quota = found := Option.some.inj (hreserved.quota_found.symm.trans hfound)
      have hretired : isRetired base.tombstones quota.capacityBucket c = true := by
        unfold isRetired
        rw [List.any_eq_true]
        refine ⟨tombstone, hbase.2 ▸ htombstone, ?_⟩
        have hkey' : tombstone.objectKey = c.objectKey := hkey
        simp [hbucket, hkey']
      simp [isReservable, hretired] at hreservable
  have hrows : (reservedDatabase base call claims quota expiry).storedObjects =
      Table.modify (isReclaimed call.organizationId claims) (leasedRow call expiry)
        db.storedObjects ++ (claims.filter (isFresh base.storedObjects call.organizationId)).map
          (newRow call expiry) := by
    unfold reservedDatabase
    simp only
    split
    · rw [← hbase.1]
      rfl
    · rw [← hbase.1]
      rfl
  refine rowsStep_update hrows ?_ (keepsIdentity_leasedRow call expiry) (fun row _ hp => .inl ?_)
    hnew
  · unfold reservedDatabase
    simp only
    split
    · exact hbase.2
    · exact hbase.2
  · unfold leasedRow
    split
    · rfl
    · rfl

theorem commitBatch_rowsStep {call : CommitCall} (h : commitBatch cluster db call = .ok db')
    (hdb : db.Consistent) : RowsStep db db' := by
  obtain ⟨claims, quota, tenant, bytes, count, -, rfl⟩ := commitBatch_cases h hdb.rows
  split
  · refine rowsStep_update (List.append_nil _).symm rfl (keepsIdentity_committedRow call.now)
      (fun row _ hp => .inr (.inl ⟨?_, rfl⟩)) (fun row hrow => ?_)
    · exact (isCommitting_iff.mp hp).2.1
    · cases hrow
  · exact rowsStep_same rfl rfl

theorem claimReap_rowsStep {call : ClaimReapCall} {claims : List StorageReapClaim}
    (h : claimReap cluster db call = .ok (db', claims)) (hdb : db.Consistent) :
    RowsStep db db' := by
  obtain ⟨p, token, expiry, hp, -, rfl⟩ := claimReap_cases h hdb.rows
  refine rowsStep_update (List.append_nil _).symm rfl (keepsIdentity_reapingRow token expiry call.now)
    (fun row hrow hrow' => .inr (.inr ?_)) (fun row hrow => ?_)
  · obtain ⟨-, -, hunreferenced, hunowned, -⟩ := isReapCandidate_iff.mp (hp row hrow hrow')
    exact ⟨rfl, hunreferenced, call.now, hunowned⟩
  · cases hrow

theorem finalizeReap_rowsStep {call : FinalizeReapCall} (h : finalizeReap cluster db call = .ok db')
    (hdb : db.Consistent) : RowsStep db db' := by
  obtain ⟨kind, quota, tenant, row, hfinal, rfl⟩ := finalizeReap_cases h hdb.rows
  have hrows : (finalizedDatabase db call kind quota row).storedObjects =
      withoutKey db.storedObjects call.objectKey := by
    cases kind <;> rfl
  have htombstones : (finalizedDatabase db call kind quota row).tombstones =
      db.tombstones ++ [tombstoneOf row kind call] := by
    cases kind <;> rfl
  have hretired : IsRetired db (finalizedDatabase db call kind quota row) row
      (tombstoneOf row kind call) := by
    refine ⟨(ownsReapClaim_iff.mp hfinal.owned).1, ?_, ?_, rfl, rfl,
      ⟨quota, hfinal.quota_found, hfinal.bucket⟩, fun row' hrow' => ?_⟩
    · rw [hfinal.row_organization, hfinal.row_key]
      exact hfinal.unreferenced
    · rw [htombstones]
      exact List.mem_append_right _ (List.mem_singleton_self _)
    · rw [hrows] at hrow'
      have hne := (List.mem_filter.mp hrow').2
      have hkey : (tombstoneOf row kind call).objectKey = call.objectKey := hfinal.row_key
      rw [hkey]
      simpa using hne
  refine ⟨fun row' hrow' => .inl ?_, fun other hother => ?_, fun tombstone h => ?_,
    fun tombstone h => ?_⟩
  · rw [hrows] at hrow'
    exact ⟨row', (List.mem_filter.mp hrow').1, .refl db row'⟩
  · by_cases hkey : other.objectKey = call.objectKey
    · obtain rfl := hdb.rows.eq_of_key hother hfinal.row_mem (hkey.trans hfinal.row_key.symm)
      exact .inr ⟨_, hretired⟩
    · refine .inl ⟨other, ?_, .refl db other⟩
      rw [hrows]
      exact List.mem_filter.mpr ⟨hother, by simpa using hkey⟩
  · rw [htombstones] at h
    rcases List.mem_append.mp h with hold | hnew
    · exact .inl hold
    · rw [List.mem_singleton.mp hnew]
      exact .inr ⟨row, hfinal.row_mem, hretired⟩
  · rw [htombstones]
    exact List.mem_append_left _ h

/-- What any statement does to the rows. -/
theorem execute_rowsStep (h : execute cluster db statement = .ok db') (hdb : db.Consistent) :
    RowsStep db db' := by
  by_cases houtside : statement.isOutside = true
  · have hsame := execute_sameLedger houtside h
    exact rowsStep_same hsame.storedObjects hsame.tombstones
  cases statement <;> try exact absurd rfl houtside
  case reserve call =>
    obtain ⟨reservation, hreserve⟩ := exists_of_map_fst h
    exact reserveBatch_rowsStep hreserve hdb
  case renew call =>
    obtain ⟨claims, expiry, hclaims, rfl⟩ := renewBatch_cases h hdb.rows
    refine rowsStep_update (List.append_nil _).symm rfl (keepsIdentity_extendedRow expiry call.now)
      (fun row _ _ => .inl rfl) (fun row hrow => ?_)
    cases hrow
  case commit call => exact commitBatch_rowsStep h hdb
  case claimReap call =>
    obtain ⟨claims, hclaim⟩ := exists_of_map_fst h
    exact claimReap_rowsStep hclaim hdb
  case finalizeReap call => exact finalizeReap_rowsStep h hdb
  case attest call =>
    obtain ⟨quota, -, -, -, -, rfl⟩ := attestCapacity_cases h
    exact rowsStep_same rfl rfl
  case invalidate sha256 now =>
    obtain ⟨quota, -, rfl⟩ := invalidateCapacity_cases h
    exact rowsStep_same rfl rfl
  case beginMaintenance token bucket now =>
    obtain ⟨epoch, hbegin⟩ := exists_of_map_fst h
    obtain ⟨quota, -, -, -, rfl⟩ := beginMaintenance_cases hbegin
    exact rowsStep_same rfl rfl
  case renewMaintenance token epoch now renewedAt =>
    obtain ⟨quota, -, rfl⟩ := renewMaintenance_cases h
    exact rowsStep_same rfl rfl
  case finishMaintenance token epoch now =>
    obtain ⟨quota, -, -, rfl⟩ := finishMaintenance_cases h
    exact rowsStep_same rfl rfl

/-! ## Tables around the ledger -/

/-- The references, the jobs and the design versions stay as they are. -/
structure SameDomain (db db' : Database) : Prop where
  references : db'.references = db.references
  generationJobs : db'.generationJobs = db.generationJobs
  designVersions : db'.designVersions = db.designVersions

theorem execute_sameDomain (hledger : ¬statement.isOutside = true)
    (h : execute cluster db statement = .ok db') (hdb : db.Consistent) : SameDomain db db' := by
  cases statement <;> try exact absurd rfl hledger
  case reserve call =>
    obtain ⟨reservation, hreserve⟩ := exists_of_map_fst h
    obtain ⟨claims, base, quota, tenant, expiry, hreserved, rfl⟩ :=
      reserveBatch_cases hreserve hdb.rows
    unfold reservedDatabase
    simp only
    rcases insertTenantQuotaIfMissing_cases hreserved.base_eq with ⟨rfl, -⟩ | ⟨-, -, rfl⟩
    · split
      · exact ⟨rfl, rfl, rfl⟩
      · exact ⟨rfl, rfl, rfl⟩
    · split
      · exact ⟨rfl, rfl, rfl⟩
      · exact ⟨rfl, rfl, rfl⟩
  case renew call =>
    obtain ⟨claims, expiry, -, rfl⟩ := renewBatch_cases h hdb.rows
    exact ⟨rfl, rfl, rfl⟩
  case commit call =>
    obtain ⟨claims, quota, tenant, bytes, count, -, rfl⟩ := commitBatch_cases h hdb.rows
    split
    · exact ⟨rfl, rfl, rfl⟩
    · exact ⟨rfl, rfl, rfl⟩
  case claimReap call =>
    obtain ⟨claims, hclaim⟩ := exists_of_map_fst h
    obtain ⟨p, token, expiry, -, -, rfl⟩ := claimReap_cases hclaim hdb.rows
    exact ⟨rfl, rfl, rfl⟩
  case finalizeReap call =>
    obtain ⟨kind, quota, tenant, row, -, rfl⟩ := finalizeReap_cases h hdb.rows
    cases kind
    · exact ⟨rfl, rfl, rfl⟩
    · exact ⟨rfl, rfl, rfl⟩
  case attest call =>
    obtain ⟨quota, -, -, -, -, rfl⟩ := attestCapacity_cases h
    exact ⟨rfl, rfl, rfl⟩
  case invalidate sha256 now =>
    obtain ⟨quota, -, rfl⟩ := invalidateCapacity_cases h
    exact ⟨rfl, rfl, rfl⟩
  case beginMaintenance token bucket now =>
    obtain ⟨epoch, hbegin⟩ := exists_of_map_fst h
    obtain ⟨quota, -, -, -, rfl⟩ := beginMaintenance_cases hbegin
    exact ⟨rfl, rfl, rfl⟩
  case renewMaintenance token epoch now renewedAt =>
    obtain ⟨quota, -, rfl⟩ := renewMaintenance_cases h
    exact ⟨rfl, rfl, rfl⟩
  case finishMaintenance token epoch now =>
    obtain ⟨quota, -, -, rfl⟩ := finishMaintenance_cases h
    exact ⟨rfl, rfl, rfl⟩

end Steps

end Custombuild.Storage
