/-
  What the batch functions do to the stored objects, in closed form.  The claims of a batch
  share no key and no idempotency key, so that handling one claim never changes what the
  others find: a loop over the claims is one update of the rows that were there before it,
  followed by the inserted rows.
-/
import Custombuild.Storage.Reaping

namespace Custombuild.Storage

open Custombuild.Lib

/-! ## Claims -/

/-- Two claims with different keys and different idempotency keys. -/
def Apart (a b : StorageObjectClaim) : Prop :=
  a.objectKey ≠ b.objectKey ∧ a.idempotencyKey ≠ b.idempotencyKey

theorem Apart.symm {a b : StorageObjectClaim} (h : Apart a b) : Apart b a :=
  ⟨h.1.symm, h.2.symm⟩

theorem assertDistinct_eq_ok {claims : List StorageObjectClaim} {u : Unit} :
    assertDistinct claims = .ok u ↔ claims.Pairwise Apart := by
  induction claims with
  | nil => simp [assertDistinct]
  | cons claim claims ih =>
    simp only [assertDistinct, bind_eq_ok, require_eq_ok, ih, List.pairwise_cons]
    constructor
    · rintro ⟨_, hfirst, hrest⟩
      refine ⟨fun other hother => ?_, hrest⟩
      simp only [Bool.not_eq_true', List.any_eq_false, Bool.or_eq_true, beq_iff_eq,
        not_or] at hfirst
      exact ⟨Ne.symm (hfirst other hother).1, Ne.symm (hfirst other hother).2⟩
    · rintro ⟨hfirst, hrest⟩
      refine ⟨(), ?_, hrest⟩
      simp only [Bool.not_eq_true', List.any_eq_false, Bool.or_eq_true, beq_iff_eq, not_or]
      exact fun other hother => ⟨(hfirst other hother).1.symm, (hfirst other hother).2.symm⟩

/-- What `assertClaim` returns is canonical. -/
structure CanonicalClaim (cluster : Cluster) (claim : StorageObjectClaim) : Prop where
  project_uuid : isUuidText claim.projectId = true
  owner_uuid : isUuidText claim.ownerId = true
  object_key : isCanonicalText cluster claim.objectKey 512 = true
  media_type : isCanonicalText cluster claim.mediaType 160 = true
  owner_type : isCanonicalText cluster claim.ownerType 40 = true
  idempotency_key : isCanonicalText cluster claim.idempotencyKey 512 = true
  sha256 : isSha256Text claim.sha256 = true
  size_positive : 1 ≤ claim.sizeBytes
  size_within : claim.sizeBytes ≤ tenantStorageByteLimit

theorem size_of_demandSize {claim : Json} {size : Int} (h : demandSize claim = .ok size) :
    1 ≤ size := by
  unfold demandSize at h
  split at h
  · split at h
    · cases h
      omega
    · cases h
  · cases h

theorem canonical_of_assertClaim {cluster : Cluster} {item : Json} {claim : StorageObjectClaim}
    (h : assertClaim cluster item = .ok claim) : CanonicalClaim cluster claim := by
  simp only [assertClaim, bind_eq_ok, assertUuid, assertText, require_eq_ok] at h
  obtain ⟨_, -, _, -, projectId, -, objectKey, -, sha256, -, size, hsize, mediaType, -, ownerType,
    -, ownerId, -, idempotencyKey, -, _, hproject, _, howner, _, hkey, _, hmedia, _, htype, _,
    hidempotency, _, hsha, _, hlimit, hclaim⟩ := h
  cases hclaim
  exact ⟨hproject, howner, hkey, hmedia, htype, hidempotency, hsha, size_of_demandSize hsize,
    by simpa using hlimit⟩

/-- A batch the database accepts: canonical claims, no two with a key in common. -/
structure CanonicalBatch (cluster : Cluster) (claims : List StorageObjectClaim) : Prop where
  nonempty : claims ≠ []
  bounded : claims.length ≤ 256
  canonical : ∀ claim ∈ claims, CanonicalClaim cluster claim
  apart : claims.Pairwise Apart

theorem canonicalBatch_of_assertClaims {cluster : Cluster} {json : Json}
    {claims : List StorageObjectClaim} (h : assertClaims cluster json = .ok claims) :
    CanonicalBatch cluster claims := by
  unfold assertClaims at h
  split at h
  · rename_i items
    simp only [bind_eq_ok, require_eq_ok, Bool.and_eq_true, decide_eq_true_eq] at h
    obtain ⟨_, ⟨hpos, hmax⟩, parsed, hparsed, _, hdistinct, hclaims⟩ := h
    cases hclaims
    have hlength := collect_length hparsed
    refine ⟨?_, by omega, fun claim hclaim => ?_, assertDistinct_eq_ok.mp hdistinct⟩
    · rintro rfl
      simp at hlength
      omega
    · obtain ⟨item, -, hitem⟩ := mem_of_collect hparsed hclaim
      exact canonical_of_assertClaim hitem
  · cases h

theorem orderedClaims_perm (cluster : Cluster) (claims : List StorageObjectClaim) :
    (orderedClaims cluster claims).Perm claims :=
  List.perm_insertionSort _ claims

theorem apart_orderedClaims {cluster : Cluster} {claims : List StorageObjectClaim}
    (h : claims.Pairwise Apart) : (orderedClaims cluster claims).Pairwise Apart :=
  (orderedClaims_perm cluster claims).symm.pairwise h Apart.symm

theorem mem_orderedClaims {cluster : Cluster} {claims : List StorageObjectClaim}
    {claim : StorageObjectClaim} : claim ∈ orderedClaims cluster claims ↔ claim ∈ claims :=
  (orderedClaims_perm cluster claims).mem_iff

theorem CanonicalBatch.ordered {cluster : Cluster} {claims : List StorageObjectClaim}
    (h : CanonicalBatch cluster claims) : CanonicalBatch cluster (orderedClaims cluster claims) := by
  have hperm := orderedClaims_perm cluster claims
  refine ⟨fun hnil => h.nonempty ?_, ?_, fun c hc => ?_, apart_orderedClaims h.apart⟩
  · rw [hnil] at hperm
    exact hperm.nil_eq.symm
  · rw [hperm.length_eq]
    exact h.bounded
  · exact h.canonical c (mem_orderedClaims.mp hc)

/-! ## Rows -/

def Database.withRows (db : Database) (rows : List StoredObject) : Database :=
  { db with storedObjects := rows }

/-- What holds of the stored objects in every state. -/
structure RowsOk (rows : List StoredObject) : Prop where
  keys_nodup : (rows.map StoredObject.objectKey).Nodup
  identities_nodup : (rows.map fun row => (row.organizationId, row.idempotencyKey)).Nodup
  sizes_positive : ∀ row ∈ rows, 0 < row.sizeBytes
  shapes : ∀ row ∈ rows, row.shapeOk = true

theorem RowsOk.eq_of_key {rows : List StoredObject} (h : RowsOk rows) {a b : StoredObject}
    (ha : a ∈ rows) (hb : b ∈ rows) (hkey : a.objectKey = b.objectKey) : a = b :=
  List.inj_on_of_nodup_map h.keys_nodup ha hb hkey

/-- The claim a row was inserted for. -/
def StoredObject.claim (row : StoredObject) : StorageObjectClaim :=
  ⟨row.projectId, row.objectKey, row.sha256, row.sizeBytes, row.mediaType, row.ownerType,
    row.ownerId, row.idempotencyKey⟩

theorem identityMatches_iff {row : StoredObject} {claim : StorageObjectClaim} :
    identityMatches row claim = true ↔ row.claim = claim := by
  rcases claim with ⟨projectId, objectKey, sha256, sizeBytes, mediaType, ownerType, ownerId,
    idempotencyKey⟩
  simp only [identityMatches, StoredObject.claim, Bool.and_eq_true, beq_iff_eq,
    StorageObjectClaim.mk.injEq, and_assoc]

/-- A change that keeps the tenant and the identity of a row. -/
def KeepsIdentity (change : StoredObject → StoredObject) : Prop :=
  ∀ row, (change row).organizationId = row.organizationId ∧ (change row).claim = row.claim

namespace KeepsIdentity

variable {change : StoredObject → StoredObject} (h : KeepsIdentity change) (row : StoredObject)

include h

theorem organizationId : (change row).organizationId = row.organizationId := (h row).1

theorem objectKey : (change row).objectKey = row.objectKey :=
  congrArg StorageObjectClaim.objectKey (h row).2

theorem idempotencyKey : (change row).idempotencyKey = row.idempotencyKey :=
  congrArg StorageObjectClaim.idempotencyKey (h row).2

theorem sizeBytes : (change row).sizeBytes = row.sizeBytes :=
  congrArg StorageObjectClaim.sizeBytes (h row).2

end KeepsIdentity

/-- An update that keeps identities and leaves well-shaped rows keeps the table in order. -/
theorem RowsOk.modify {rows : List StoredObject} (h : RowsOk rows) {p : StoredObject → Bool}
    {change : StoredObject → StoredObject} (hkeep : KeepsIdentity change)
    (hshape : ∀ row ∈ rows, p row = true → (change row).shapeOk = true) :
    RowsOk (Table.modify p change rows) where
  keys_nodup := by
    rw [Table.map_modify fun row _ _ => hkeep.objectKey row]
    exact h.keys_nodup
  identities_nodup := by
    have hcolumn : ∀ row ∈ rows, p row = true →
        ((change row).organizationId, (change row).idempotencyKey) =
          (row.organizationId, row.idempotencyKey) := by
      intro row _ _
      rw [hkeep.organizationId row, hkeep.idempotencyKey row]
    rw [Table.map_modify hcolumn]
    exact h.identities_nodup
  sizes_positive := by
    intro row' hrow'
    obtain ⟨row, hrow, rfl⟩ := Table.mem_modify.mp hrow'
    split
    · rw [hkeep.sizeBytes row]
      exact h.sizes_positive row hrow
    · exact h.sizes_positive row hrow
  shapes := by
    intro row' hrow'
    obtain ⟨row, hrow, rfl⟩ := Table.mem_modify.mp hrow'
    split
    · exact hshape row hrow ‹_›
    · exact h.shapes row hrow

/-! ## Matching rows -/

theorem mem_matchingRows {rows : List StoredObject} {organizationId : String}
    {claim : StorageObjectClaim} {row : StoredObject} :
    row ∈ matchingRows rows organizationId claim ↔ row ∈ rows ∧
      row.organizationId = organizationId ∧
        (row.objectKey = claim.objectKey ∨ row.idempotencyKey = claim.idempotencyKey) := by
  simp [matchingRows, List.mem_filter]

/-- An update of rows the claim does not match leaves the matching rows alone. -/
theorem matchingRows_modify {rows : List StoredObject} {organizationId : String}
    {claim : StorageObjectClaim} {p : StoredObject → Bool} {change : StoredObject → StoredObject}
    (hkeep : KeepsIdentity change)
    (hp : ∀ row ∈ rows, p row = true →
      row.objectKey ≠ claim.objectKey ∧ row.idempotencyKey ≠ claim.idempotencyKey) :
    matchingRows (Table.modify p change rows) organizationId claim =
      matchingRows rows organizationId claim := by
  induction rows with
  | nil => rfl
  | cons row rows ih =>
    have hrest := ih fun r hr => hp r (List.mem_cons_of_mem _ hr)
    have hcons : Table.modify p change (row :: rows) =
        (if p row then change row else row) :: Table.modify p change rows := rfl
    simp only [matchingRows] at hrest ⊢
    rw [hcons]
    by_cases hrow : p row = true
    · obtain ⟨hkey, hidempotency⟩ := hp row List.mem_cons_self hrow
      rw [if_pos hrow, List.filter_cons_of_neg, List.filter_cons_of_neg, hrest]
      · simp [hkey, hidempotency]
      · simp [hkeep.objectKey, hkeep.idempotencyKey, hkey, hidempotency]
    · rw [if_neg hrow, List.filter_cons, List.filter_cons, hrest]

theorem matchingRows_append {rows rows' : List StoredObject} {organizationId : String}
    {claim : StorageObjectClaim} :
    matchingRows (rows ++ rows') organizationId claim =
      matchingRows rows organizationId claim ++ matchingRows rows' organizationId claim :=
  List.filter_append ..

/-! ## Reserve -/

/-- No row of the tenant has the key or the idempotency key of the claim. -/
def isFresh (rows : List StoredObject) (organizationId : String) (claim : StorageObjectClaim) :
    Bool :=
  (matchingRows rows organizationId claim).isEmpty

/-- The lease a reservation leaves on a reserved row: taken over once expired, else extended. -/
def leasedRow (call : ReserveCall) (expiry : Int) (row : StoredObject) : StoredObject :=
  if row.leaseExpiresAt.any fun stored => stored ≤ call.now then
    takenOverRow call.leaseToken expiry call.now row
  else extendedRow expiry call.now row

theorem keepsIdentity_leasedRow (call : ReserveCall) (expiry : Int) :
    KeepsIdentity (leasedRow call expiry) := by
  intro row
  unfold leasedRow
  split
  · exact ⟨rfl, rfl⟩
  · exact ⟨rfl, rfl⟩

/-- The reserved rows of the tenant that the claims name. -/
def isReclaimed (organizationId : String) (claims : List StorageObjectClaim)
    (row : StoredObject) : Bool :=
  row.organizationId == organizationId && row.state = .reserved &&
    claims.any fun claim => claim.objectKey == row.objectKey

def newRow (call : ReserveCall) (expiry : Int) (claim : StorageObjectClaim) : StoredObject :=
  reservedRow call.organizationId claim call.leaseToken expiry call.now

/-- The reservation of one claim, read off the rows before the batch. -/
def reservationOf (rows : List StoredObject) (call : ReserveCall) (claim : StorageObjectClaim) :
    StorageObjectReservation :=
  match matchingRows rows call.organizationId claim with
  | [] => ⟨claim.objectKey, .reserved, some call.leaseToken, true⟩
  | row :: _ =>
    if row.state = .committed then ⟨claim.objectKey, .committed, none, false⟩
    else ⟨claim.objectKey, .reserved, some call.leaseToken, false⟩

/-- The progress of the loop after the given claims. -/
def progressAfter (rows : List StoredObject) (call : ReserveCall) (expiry : Int)
    (claims : List StorageObjectClaim) : ReserveProgress :=
  let fresh := claims.filter (isFresh rows call.organizationId)
  { rows := Table.modify (isReclaimed call.organizationId claims) (leasedRow call expiry) rows ++
      fresh.map (newRow call expiry)
    byteDelta := (fresh.map StorageObjectClaim.sizeBytes).sum
    countDelta := fresh.length
    objects := claims.map (reservationOf rows call) }

/-- The row a claim finds can be reserved again: it is committed, or reserved with a lease
    that has expired or is the caller's own. -/
def isReleasable (call : ReserveCall) (row : StoredObject) : Bool :=
  row.state = .committed || row.state = .reserved && row.leaseExpiresAt.any fun stored =>
    stored ≤ call.now || row.leaseToken == some call.leaseToken

/-- The claim can be reserved on the rows before the batch. -/
def isReservable (db : Database) (bucket : Option String) (call : ReserveCall)
    (claim : StorageObjectClaim) : Bool :=
  !isRetired db.tombstones bucket claim &&
    match matchingRows db.storedObjects call.organizationId claim with
    | [] => !(db.storedObjects.any fun row => row.objectKey == claim.objectKey) &&
        db.organizations.contains call.organizationId &&
        db.projects.contains (call.organizationId, claim.projectId)
    | [row] => identityMatches row claim && isReleasable call row
    | _ => false

section Reserve

variable {db : Database} {bucket : Option String} {call : ReserveCall} {expiry : Int}
  {done : List StorageObjectClaim} {claim : StorageObjectClaim}

/-- A row that a reservable claim names is the row the claim was made for. -/
theorem claim_of_isReservable (h : isReservable db bucket call claim = true) {row : StoredObject}
    (hrow : row ∈ db.storedObjects) (horganization : row.organizationId = call.organizationId)
    (hkey : row.objectKey = claim.objectKey) : row.claim = claim := by
  have hmem : row ∈ matchingRows db.storedObjects call.organizationId claim :=
    mem_matchingRows.mpr ⟨hrow, horganization, .inl hkey⟩
  simp only [isReservable, Bool.and_eq_true] at h
  obtain ⟨-, h⟩ := h
  split at h
  · simp_all
  · rename_i found hfound
    rw [hfound, List.mem_singleton] at hmem
    subst hmem
    simp only [Bool.and_eq_true] at h
    exact identityMatches_iff.mp h.1
  · cases h

/-- The rows that earlier claims renewed have nothing in common with a later claim. -/
theorem apart_of_isReclaimed (hdone : ∀ c ∈ done, isReservable db bucket call c = true)
    (hapart : ∀ c ∈ done, Apart c claim) {row : StoredObject} (hrow : row ∈ db.storedObjects)
    (h : isReclaimed call.organizationId done row = true) :
    row.objectKey ≠ claim.objectKey ∧ row.idempotencyKey ≠ claim.idempotencyKey := by
  simp only [isReclaimed, Bool.and_eq_true, beq_iff_eq, List.any_eq_true] at h
  obtain ⟨⟨horganization, -⟩, c, hc, hkey⟩ := h
  have hclaim : row.claim = c :=
    claim_of_isReservable (hdone c hc) hrow horganization hkey.symm
  have hidempotency : row.idempotencyKey = c.idempotencyKey :=
    congrArg StorageObjectClaim.idempotencyKey hclaim
  rw [← hkey, hidempotency]
  exact hapart c hc

/-- A claim finds the same rows before and in the middle of its batch. -/
theorem matchingRows_progressAfter (hdone : ∀ c ∈ done, isReservable db bucket call c = true)
    (hapart : ∀ c ∈ done, Apart c claim) :
    matchingRows (progressAfter db.storedObjects call expiry done).rows call.organizationId claim =
      matchingRows db.storedObjects call.organizationId claim := by
  have hnew : matchingRows
      ((done.filter (isFresh db.storedObjects call.organizationId)).map (newRow call expiry))
      call.organizationId claim = [] := by
    refine List.filter_eq_nil_iff.mpr fun row hrow => ?_
    obtain ⟨c, hc, rfl⟩ := List.mem_map.mp hrow
    have h := hapart c (List.mem_filter.mp hc).1
    simp [newRow, reservedRow, h.1, h.2]
  unfold progressAfter
  rw [matchingRows_append, hnew, List.append_nil]
  exact matchingRows_modify (keepsIdentity_leasedRow call expiry)
    fun row hrow h => apart_of_isReclaimed hdone hapart hrow h

theorem insertStoredObject_eq_ok {rows rows' : List StoredObject} {row : StoredObject} :
    insertStoredObject db rows row = .ok rows' ↔
      (∀ other ∈ rows, other.objectKey ≠ row.objectKey) ∧
      (∀ other ∈ rows, other.organizationId = row.organizationId →
        other.idempotencyKey ≠ row.idempotencyKey) ∧
      row.organizationId ∈ db.organizations ∧ (row.organizationId, row.projectId) ∈ db.projects ∧
      rows ++ [row] = rows' := by
  simp only [insertStoredObject, bind_eq_ok, require_eq_ok, Bool.not_eq_true',
    List.any_eq_false, Bool.and_eq_true, beq_iff_eq, not_and, List.contains_iff_mem, pure,
    Except.pure, Except.ok.injEq]
  constructor
  · rintro ⟨_, hkey, _, hidempotency, _, horganization, _, hproject, hrows⟩
    exact ⟨hkey, hidempotency, horganization, hproject, hrows⟩
  · rintro ⟨hkey, hidempotency, horganization, hproject, hrows⟩
    exact ⟨(), hkey, (), hidempotency, (), horganization, (), hproject, hrows⟩

theorem isReclaimed_append {organizationId : String} {row : StoredObject} :
    isReclaimed organizationId (done ++ [claim]) row =
      (isReclaimed organizationId done row || row.organizationId == organizationId &&
        decide (row.state = .reserved) && claim.objectKey == row.objectKey) := by
  simp only [isReclaimed, List.any_append, List.any_cons, List.any_nil, Bool.or_false]
  cases (row.organizationId == organizationId && decide (row.state = .reserved)) <;> simp

/-- A fresh claim adds its row, its size and its result. -/
theorem progressAfter_fresh (hfresh : isFresh db.storedObjects call.organizationId claim = true) :
    progressAfter db.storedObjects call expiry (done ++ [claim]) =
      let progress := progressAfter db.storedObjects call expiry done
      { rows := progress.rows ++ [newRow call expiry claim]
        byteDelta := progress.byteDelta + claim.sizeBytes
        countDelta := progress.countDelta + 1
        objects := progress.objects ++
          [⟨claim.objectKey, .reserved, some call.leaseToken, true⟩] } := by
  have hnil : matchingRows db.storedObjects call.organizationId claim = [] := by
    simpa [isFresh] using hfresh
  -- no row of the tenant has the key, so the update of the older rows is the same
  have hmodify : Table.modify (isReclaimed call.organizationId (done ++ [claim]))
      (leasedRow call expiry) db.storedObjects =
      Table.modify (isReclaimed call.organizationId done) (leasedRow call expiry)
        db.storedObjects := by
    refine Table.modify_congr fun row hrow => ?_
    have hnot : (row.organizationId == call.organizationId && decide (row.state = .reserved) &&
        claim.objectKey == row.objectKey) = false := by
      by_contra h
      simp only [Bool.not_eq_false, Bool.and_eq_true, beq_iff_eq] at h
      have hmem : row ∈ matchingRows db.storedObjects call.organizationId claim :=
        mem_matchingRows.mpr ⟨hrow, h.1.1, .inl h.2.symm⟩
      rw [hnil] at hmem
      cases hmem
    rw [isReclaimed_append, hnot, Bool.or_false]
  simp only [progressAfter, List.filter_append, List.filter_cons_of_pos hfresh, List.filter_nil,
    List.map_append, List.map_cons, List.map_nil, List.sum_append, List.sum_cons, List.sum_nil,
    List.length_append, List.length_cons, List.length_nil, hmodify, List.append_assoc]
  simp [reservationOf, hnil]

/-- A claim on a committed row changes nothing but the results. -/
theorem progressAfter_committed {row : StoredObject} (hrows : RowsOk db.storedObjects)
    (hmatch : matchingRows db.storedObjects call.organizationId claim = [row])
    (hidentity : row.claim = claim) (hstate : row.state = .committed) :
    progressAfter db.storedObjects call expiry (done ++ [claim]) =
      let progress := progressAfter db.storedObjects call expiry done
      { progress with
        objects := progress.objects ++ [⟨row.objectKey, .committed, none, false⟩] } := by
  have hrow : row ∈ db.storedObjects :=
    (mem_matchingRows.mp (hmatch ▸ List.mem_singleton_self row)).1
  have hkey : claim.objectKey = row.objectKey := by rw [← hidentity]; rfl
  have hfresh : ¬isFresh db.storedObjects call.organizationId claim = true := by
    simp [isFresh, hmatch]
  have hmodify : Table.modify (isReclaimed call.organizationId (done ++ [claim]))
      (leasedRow call expiry) db.storedObjects =
      Table.modify (isReclaimed call.organizationId done) (leasedRow call expiry)
        db.storedObjects := by
    refine Table.modify_congr fun other hother => ?_
    have hnot : (other.organizationId == call.organizationId && decide (other.state = .reserved) &&
        claim.objectKey == other.objectKey) = false := by
      by_contra h
      simp only [Bool.not_eq_false, Bool.and_eq_true, beq_iff_eq, decide_eq_true_eq] at h
      have heq : other = row := hrows.eq_of_key hother hrow (h.2.symm.trans hkey)
      rw [heq, hstate] at h
      cases h.1.2
    rw [isReclaimed_append, hnot, Bool.or_false]
  simp only [progressAfter, List.filter_append, List.filter_cons_of_neg hfresh, List.filter_nil,
    List.append_nil, hmodify, List.map_append, List.map_cons, List.map_nil, reservationOf, hmatch,
    hstate, if_pos, hkey]

/-- A claim on a reserved row changes the lease of that row. -/
theorem progressAfter_reserved {row : StoredObject} (hrows : RowsOk db.storedObjects)
    (hdone : ∀ c ∈ done, isReservable db bucket call c = true)
    (hapart : ∀ c ∈ done, Apart c claim)
    (hmatch : matchingRows db.storedObjects call.organizationId claim = [row])
    (hidentity : row.claim = claim) (hstate : row.state = .reserved)
    {change : StoredObject → StoredObject} (hchange : change row = leasedRow call expiry row) :
    progressAfter db.storedObjects call expiry (done ++ [claim]) =
      let progress := progressAfter db.storedObjects call expiry done
      { progress with
        rows := updateObject call.organizationId row.objectKey change progress.rows
        objects := progress.objects ++
          [⟨row.objectKey, .reserved, some call.leaseToken, false⟩] } := by
  obtain ⟨hrow, horganization, -⟩ := mem_matchingRows.mp (hmatch ▸ List.mem_singleton_self row)
  have hkey : claim.objectKey = row.objectKey := by rw [← hidentity]; rfl
  have hfresh : ¬isFresh db.storedObjects call.organizationId claim = true := by
    simp [isFresh, hmatch]
  have hnew : updateObject call.organizationId row.objectKey change
      ((done.filter (isFresh db.storedObjects call.organizationId)).map (newRow call expiry)) =
      (done.filter (isFresh db.storedObjects call.organizationId)).map (newRow call expiry) := by
    refine Table.modify_eq_self fun new hnew => ?_
    obtain ⟨c, hc, rfl⟩ := List.mem_map.mp hnew
    have h := (hapart c (List.mem_filter.mp hc).1).1
    simp [newRow, reservedRow, ← hkey, h]
  have hmodify : updateObject call.organizationId row.objectKey change
      (Table.modify (isReclaimed call.organizationId done) (leasedRow call expiry)
        db.storedObjects) =
      Table.modify (isReclaimed call.organizationId (done ++ [claim])) (leasedRow call expiry)
        db.storedObjects := by
    unfold updateObject
    rw [Table.modify_modify]
    refine List.map_congr_left fun other hother => ?_
    by_cases hreclaimed : isReclaimed call.organizationId done other = true
    · -- an earlier claim's row: another key
      have hne := (apart_of_isReclaimed hdone hapart hother hreclaimed).1
      rw [hkey] at hne
      simp [hreclaimed, isReclaimed_append, (keepsIdentity_leasedRow call expiry).objectKey, hne]
    · by_cases hsame : other.objectKey = row.objectKey
      · obtain rfl := hrows.eq_of_key hother hrow hsame
        simp [hreclaimed, isReclaimed_append, horganization, hstate, hkey, hchange]
      · have hne : ¬claim.objectKey = other.objectKey := fun h => hsame (h.symm.trans hkey)
        simp [hreclaimed, isReclaimed_append, hsame, hne]
  have hupdate : updateObject call.organizationId row.objectKey change
      (progressAfter db.storedObjects call expiry done).rows =
      Table.modify (isReclaimed call.organizationId (done ++ [claim])) (leasedRow call expiry)
        db.storedObjects ++
      (done.filter (isFresh db.storedObjects call.organizationId)).map (newRow call expiry) := by
    calc updateObject call.organizationId row.objectKey change
          (progressAfter db.storedObjects call expiry done).rows
        = updateObject call.organizationId row.objectKey change
            (Table.modify (isReclaimed call.organizationId done) (leasedRow call expiry)
              db.storedObjects) ++
          updateObject call.organizationId row.objectKey change
            ((done.filter (isFresh db.storedObjects call.organizationId)).map
              (newRow call expiry)) := Table.modify_append
      _ = _ := by rw [hmodify, hnew]
  simp only [hupdate]
  have hnot : ¬row.state = .committed := by rw [hstate]; decide
  simp only [progressAfter, List.filter_append, List.filter_cons_of_neg hfresh, List.filter_nil,
    List.append_nil, List.map_append, List.map_cons, List.map_nil, reservationOf, hmatch,
    if_neg hnot, hkey]

/-- A fresh claim is inserted in the middle of its batch exactly when it could be before. -/
theorem insert_progressAfter (hapart : ∀ c ∈ done, Apart c claim)
    (hnil : matchingRows db.storedObjects call.organizationId claim = [])
    (hdone : ∀ c ∈ done, isReservable db bucket call c = true) {rows : List StoredObject} :
    insertStoredObject db (progressAfter db.storedObjects call expiry done).rows
        (newRow call expiry claim) = .ok rows ↔
      ((∀ row ∈ db.storedObjects, row.objectKey ≠ claim.objectKey) ∧
        call.organizationId ∈ db.organizations ∧
        (call.organizationId, claim.projectId) ∈ db.projects) ∧
      (progressAfter db.storedObjects call expiry done).rows ++ [newRow call expiry claim] = rows := by
  have hkeys : (∀ row ∈ (progressAfter db.storedObjects call expiry done).rows,
      row.objectKey ≠ claim.objectKey) ↔
      ∀ row ∈ db.storedObjects, row.objectKey ≠ claim.objectKey := by
    constructor
    · intro h row hrow
      have hmem : (if isReclaimed call.organizationId done row then leasedRow call expiry row
          else row) ∈ (progressAfter db.storedObjects call expiry done).rows :=
        List.mem_append_left _ (Table.mem_modify.mpr ⟨row, hrow, rfl⟩)
      have hne := h _ hmem
      split at hne
      · rwa [(keepsIdentity_leasedRow call expiry).objectKey] at hne
      · exact hne
    · intro h row' hrow'
      rcases List.mem_append.mp hrow' with hold | hnew
      · obtain ⟨row, hrow, rfl⟩ := Table.mem_modify.mp hold
        split
        · rw [(keepsIdentity_leasedRow call expiry).objectKey]
          exact h row hrow
        · exact h row hrow
      · obtain ⟨c, hc, rfl⟩ := List.mem_map.mp hnew
        exact (hapart c (List.mem_filter.mp hc).1).1
  have hidentities : ∀ row ∈ (progressAfter db.storedObjects call expiry done).rows,
      row.organizationId = call.organizationId → row.idempotencyKey ≠ claim.idempotencyKey := by
    intro row hrow horganization hidempotency
    have hmem := mem_matchingRows.mpr ⟨hrow, horganization, .inr hidempotency⟩
    rw [matchingRows_progressAfter hdone hapart, hnil] at hmem
    cases hmem
  rw [insertStoredObject_eq_ok]
  simp only [newRow, reservedRow] at *
  rw [hkeys]
  constructor
  · rintro ⟨hkey, -, horganization, hproject, hrows⟩
    exact ⟨⟨hkey, horganization, hproject⟩, hrows⟩
  · rintro ⟨⟨hkey, horganization, hproject⟩, hrows⟩
    exact ⟨hkey, hidentities, horganization, hproject, hrows⟩

/-- The claim on an existing row, in the middle of its batch. -/
theorem reserveExisting_progressAfter {row : StoredObject} (hrows : RowsOk db.storedObjects)
    (hdone : ∀ c ∈ done, isReservable db bucket call c = true)
    (hapart : ∀ c ∈ done, Apart c claim)
    (hmatch : matchingRows db.storedObjects call.organizationId claim = [row])
    (hidentity : row.claim = claim) {progress : ReserveProgress} :
    reserveExisting call expiry (progressAfter db.storedObjects call expiry done) row =
        .ok progress ↔
      isReleasable call row = true ∧
        progressAfter db.storedObjects call expiry (done ++ [claim]) = progress := by
  unfold reserveExisting isReleasable
  cases hstate : row.state with
  | committed =>
    rw [progressAfter_committed hrows hmatch hidentity hstate]
    simp
  | reaping => simp
  | deletePending => simp
  | reserved =>
    cases hlease : row.leaseExpiresAt with
    | none => simp
    | some stored =>
      by_cases hexpired : stored ≤ call.now
      · have hchange : takenOverRow call.leaseToken expiry call.now row =
            leasedRow call expiry row := by
          simp [leasedRow, hlease, hexpired]
        rw [progressAfter_reserved hrows hdone hapart hmatch hidentity hstate hchange]
        simp [hexpired]
      · by_cases htoken : row.leaseToken = some call.leaseToken
        · have hchange : extendedRow expiry call.now row = leasedRow call expiry row := by
            simp [leasedRow, hlease, hexpired]
          rw [progressAfter_reserved hrows hdone hapart hmatch hidentity hstate hchange]
          simp [hexpired, htoken]
        · simp [hexpired, htoken]

/-- One claim of the loop. -/
theorem reserveClaim_progressAfter (hrows : RowsOk db.storedObjects)
    (hdone : ∀ c ∈ done, isReservable db bucket call c = true)
    (hapart : ∀ c ∈ done, Apart c claim) {progress : ReserveProgress} :
    reserveClaim db bucket call expiry (progressAfter db.storedObjects call expiry done) claim =
        .ok progress ↔
      isReservable db bucket call claim = true ∧
        progressAfter db.storedObjects call expiry (done ++ [claim]) = progress := by
  unfold reserveClaim isReservable
  rw [bind_eq_ok, matchingRows_progressAfter hdone hapart]
  simp only [require_eq_ok, Bool.and_eq_true]
  cases hmatch : matchingRows db.storedObjects call.organizationId claim with
  | nil =>
    have hfresh : isFresh db.storedObjects call.organizationId claim = true := by
      simp [isFresh, hmatch]
    rw [progressAfter_fresh hfresh]
    simp only [bind_eq_ok, pure, Except.pure, Except.ok.injEq]
    constructor
    · rintro ⟨_, hretired, rows, hinsert, hprogress⟩
      obtain ⟨hinsertable, rfl⟩ := (insert_progressAfter hapart hmatch hdone).mp hinsert
      refine ⟨⟨hretired, ?_⟩, hprogress⟩
      simpa [and_assoc] using hinsertable
    · rintro ⟨⟨hretired, hinsertable⟩, hprogress⟩
      refine ⟨(), hretired, _, (insert_progressAfter hapart hmatch hdone).mpr ⟨?_, rfl⟩, hprogress⟩
      simpa [and_assoc] using hinsertable
  | cons row rest =>
    cases rest with
    | cons other rest => simp
    | nil =>
      simp only [bind_eq_ok, require_eq_ok, Bool.and_eq_true, identityMatches_iff]
      constructor
      · rintro ⟨_, hretired, _, hidentity, hexisting⟩
        obtain ⟨hreleasable, hprogress⟩ :=
          (reserveExisting_progressAfter hrows hdone hapart hmatch hidentity).mp hexisting
        exact ⟨⟨hretired, hidentity, hreleasable⟩, hprogress⟩
      · rintro ⟨⟨hretired, hidentity, hreleasable⟩, hprogress⟩
        exact ⟨(), hretired, (), hidentity,
          (reserveExisting_progressAfter hrows hdone hapart hmatch hidentity).mpr
            ⟨hreleasable, hprogress⟩⟩

theorem reserveClaims_progressAfter (hrows : RowsOk db.storedObjects)
    {claims : List StorageObjectClaim} (hapart : (done ++ claims).Pairwise Apart)
    (hdone : ∀ c ∈ done, isReservable db bucket call c = true) {progress : ReserveProgress} :
    reserveClaims db bucket call expiry (progressAfter db.storedObjects call expiry done) claims =
        .ok progress ↔
      (∀ c ∈ claims, isReservable db bucket call c = true) ∧
        progressAfter db.storedObjects call expiry (done ++ claims) = progress := by
  induction claims generalizing done with
  | nil => simp [reserveClaims]
  | cons claim claims ih =>
    have hfirst : ∀ c ∈ done, Apart c claim := by
      intro c hc
      exact (List.pairwise_append.mp hapart).2.2 c hc claim List.mem_cons_self
    rw [List.append_cons] at hapart
    simp only [reserveClaims, bind_eq_ok, reserveClaim_progressAfter hrows hdone hfirst]
    constructor
    · rintro ⟨_, ⟨hclaim, rfl⟩, hrest⟩
      have hdone' : ∀ c ∈ done ++ [claim], isReservable db bucket call c = true := by
        simpa [or_imp, forall_and] using ⟨hdone, hclaim⟩
      obtain ⟨hclaims, hprogress⟩ := (ih hapart hdone').mp hrest
      rw [← List.append_cons] at hprogress
      exact ⟨List.forall_mem_cons.mpr ⟨hclaim, hclaims⟩, hprogress⟩
    · rintro ⟨hall, hprogress⟩
      obtain ⟨hclaim, hclaims⟩ := List.forall_mem_cons.mp hall
      have hdone' : ∀ c ∈ done ++ [claim], isReservable db bucket call c = true := by
        simpa [or_imp, forall_and] using ⟨hdone, hclaim⟩
      rw [List.append_cons] at hprogress
      exact ⟨_, ⟨hclaim, rfl⟩, (ih hapart hdone').mpr ⟨hclaims, hprogress⟩⟩

/-- The loop of a reservation succeeds exactly when every claim could be reserved on the rows
    before the batch, and then has the effect of all of them at once. -/
theorem reserveClaims_eq_ok (hrows : RowsOk db.storedObjects) {claims : List StorageObjectClaim}
    (hapart : claims.Pairwise Apart) {progress : ReserveProgress} :
    reserveClaims db bucket call expiry ⟨db.storedObjects, 0, 0, []⟩ claims = .ok progress ↔
      (∀ c ∈ claims, isReservable db bucket call c = true) ∧
        progressAfter db.storedObjects call expiry claims = progress := by
  have hstart : (⟨db.storedObjects, 0, 0, []⟩ : ReserveProgress) =
      progressAfter db.storedObjects call expiry [] := by
    have hself : Table.modify (isReclaimed call.organizationId []) (leasedRow call expiry)
        db.storedObjects = db.storedObjects :=
      Table.modify_eq_self fun row _ => by simp [isReclaimed]
    simp [progressAfter, hself]
  rw [hstart, reserveClaims_progressAfter hrows (by simpa using hapart) (by simp), List.nil_append]

end Reserve

end Custombuild.Storage
