/-
  Renewals, commits and reaper claims in closed form: each is one update of the rows it
  selects.  `Storage.Batches` does the same for reservations, which also insert.
-/
import Mathlib.Algebra.Order.Group.Int
import Mathlib.Algebra.Order.Monoid.Prod
import Custombuild.Storage.Batches

namespace Custombuild.Storage

open Custombuild.Lib

/-! ## Renew -/

/-- The rows of the tenant whose keys the claims name. -/
def isNamed (organizationId : String) (claims : List StorageObjectClaim) (row : StoredObject) :
    Bool :=
  row.organizationId == organizationId && claims.any fun claim => claim.objectKey == row.objectKey

/-- The claim finds exactly its own row, still leased to the caller. -/
def isRenewable (rows : List StoredObject) (call : RenewCall) (claim : StorageObjectClaim) : Bool :=
  match matchingRows rows call.organizationId claim with
  | [row] => identityMatches row claim && holdsLease row call.leaseToken call.now
  | _ => false

theorem keepsIdentity_extendedRow (expiry now : Int) : KeepsIdentity (extendedRow expiry now) :=
  fun _ => ⟨rfl, rfl⟩

section Renew

variable {rows : List StoredObject} {call : RenewCall} {expiry : Int}

theorem isRenewable_iff {claim : StorageObjectClaim} :
    isRenewable rows call claim = true ↔ ∃ row,
      matchingRows rows call.organizationId claim = [row] ∧ row.claim = claim ∧
        holdsLease row call.leaseToken call.now = true := by
  unfold isRenewable
  split
  · rename_i row hmatch
    simp [hmatch, identityMatches_iff]
  · rename_i hmatch
    constructor
    · intro h
      cases h
    · rintro ⟨row, hrow, -⟩
      exact absurd hrow (hmatch row)

/-- A renewed row has nothing in common with the other claims of its batch. -/
theorem renewed_apart {done : List StorageObjectClaim} {claim : StorageObjectClaim}
    (hdone : ∀ c ∈ done, isRenewable rows call c = true) (hapart : ∀ c ∈ done, Apart c claim)
    {row : StoredObject} (hrow : row ∈ rows) (h : isNamed call.organizationId done row = true) :
    row.objectKey ≠ claim.objectKey ∧ row.idempotencyKey ≠ claim.idempotencyKey := by
  simp only [isNamed, Bool.and_eq_true, beq_iff_eq, List.any_eq_true] at h
  obtain ⟨horganization, c, hc, hkey⟩ := h
  obtain ⟨found, hmatch, hidentity, -⟩ := isRenewable_iff.mp (hdone c hc)
  have hmem : row ∈ matchingRows rows call.organizationId c :=
    mem_matchingRows.mpr ⟨hrow, horganization, .inl hkey.symm⟩
  rw [hmatch, List.mem_singleton] at hmem
  have hclaim : row.claim = c := hmem ▸ hidentity
  have hidempotency : row.idempotencyKey = c.idempotencyKey :=
    congrArg StorageObjectClaim.idempotencyKey hclaim
  rw [← hkey, hidempotency]
  exact hapart c hc

/-- One claim of the loop, in the middle of its batch. -/
theorem renewClaim_modify (hrows : RowsOk rows) {done : List StorageObjectClaim}
    {claim : StorageObjectClaim} (hdone : ∀ c ∈ done, isRenewable rows call c = true)
    (hapart : ∀ c ∈ done, Apart c claim) {rows' : List StoredObject} :
    renewClaim call expiry (Table.modify (isNamed call.organizationId done)
        (extendedRow expiry call.now) rows) claim = .ok rows' ↔
      isRenewable rows call claim = true ∧
        Table.modify (isNamed call.organizationId (done ++ [claim]))
          (extendedRow expiry call.now) rows = rows' := by
  have hmatching : matchingRows (Table.modify (isNamed call.organizationId done)
      (extendedRow expiry call.now) rows) call.organizationId claim =
      matchingRows rows call.organizationId claim :=
    matchingRows_modify (keepsIdentity_extendedRow expiry call.now)
      fun row hrow h => renewed_apart hdone hapart hrow h
  rw [isRenewable_iff]
  unfold renewClaim
  rw [hmatching]
  split
  · rename_i row hmatch
    obtain ⟨hrow, horganization, -⟩ :=
      mem_matchingRows.mp (hmatch ▸ List.mem_singleton_self row)
    simp only [bind_eq_ok, require_eq_ok, Bool.and_eq_true, identityMatches_iff, pure, Except.pure,
      Except.ok.injEq]
    have hupdate (hidentity : row.claim = claim) :
        updateObject call.organizationId row.objectKey (extendedRow expiry call.now)
          (Table.modify (isNamed call.organizationId done) (extendedRow expiry call.now) rows) =
        Table.modify (isNamed call.organizationId (done ++ [claim]))
          (extendedRow expiry call.now) rows := by
      have hkey : claim.objectKey = row.objectKey := by rw [← hidentity]; rfl
      unfold updateObject
      rw [Table.modify_modify]
      refine List.map_congr_left fun other hother => ?_
      by_cases hnamed : isNamed call.organizationId done other = true
      · have hne := (renewed_apart hdone hapart hother hnamed).1
        rw [hkey] at hne
        have hnamed' : isNamed call.organizationId (done ++ [claim]) other = true := by
          simp only [isNamed, List.any_append, Bool.and_eq_true, Bool.or_eq_true] at hnamed ⊢
          exact ⟨hnamed.1, .inl hnamed.2⟩
        simp [hnamed, hnamed', extendedRow, hne]
      · by_cases hsame : other.objectKey = row.objectKey
        · obtain rfl := hrows.eq_of_key hother hrow hsame
          have hnamed' : isNamed call.organizationId (done ++ [claim]) other = true := by
            simp [isNamed, horganization, hkey]
          simp [hnamed, hnamed', horganization]
        · have hne : ¬claim.objectKey = other.objectKey := fun h => hsame (h.symm.trans hkey)
          have hnamed' : ¬isNamed call.organizationId (done ++ [claim]) other = true := by
            simp only [isNamed, List.any_append, List.any_cons, List.any_nil, Bool.and_eq_true,
              Bool.or_eq_true, Bool.or_false, beq_iff_eq, hne, or_false] at hnamed ⊢
            exact hnamed
          simp [hnamed, hnamed', hsame]
    constructor
    · rintro ⟨_, ⟨hidentity, hlease⟩, hrows'⟩
      exact ⟨⟨row, hmatch, hidentity, hlease⟩, (hupdate hidentity).symm.trans hrows'⟩
    · rintro ⟨⟨found, hfound, hidentity, hlease⟩, hrows'⟩
      obtain rfl : row = found := by simpa [hmatch] using hfound
      exact ⟨(), ⟨hidentity, hlease⟩, (hupdate hidentity).trans hrows'⟩
  · rename_i hmatch
    constructor
    · intro h
      cases h
    · rintro ⟨⟨found, hfound, -⟩, -⟩
      exact absurd hfound (hmatch found)

theorem renewClaims_modify (hrows : RowsOk rows) {done claims : List StorageObjectClaim}
    (hapart : (done ++ claims).Pairwise Apart)
    (hdone : ∀ c ∈ done, isRenewable rows call c = true) {rows' : List StoredObject} :
    renewClaims call expiry (Table.modify (isNamed call.organizationId done)
        (extendedRow expiry call.now) rows) claims = .ok rows' ↔
      (∀ c ∈ claims, isRenewable rows call c = true) ∧
        Table.modify (isNamed call.organizationId (done ++ claims))
          (extendedRow expiry call.now) rows = rows' := by
  induction claims generalizing done with
  | nil => simp [renewClaims]
  | cons claim claims ih =>
    have hfirst : ∀ c ∈ done, Apart c claim := by
      intro c hc
      exact (List.pairwise_append.mp hapart).2.2 c hc claim List.mem_cons_self
    rw [List.append_cons] at hapart
    simp only [renewClaims, bind_eq_ok, renewClaim_modify hrows hdone hfirst]
    constructor
    · rintro ⟨_, ⟨hclaim, rfl⟩, hrest⟩
      have hdone' : ∀ c ∈ done ++ [claim], isRenewable rows call c = true := by
        simpa [or_imp, forall_and] using ⟨hdone, hclaim⟩
      obtain ⟨hclaims, hresult⟩ := (ih hapart hdone').mp hrest
      rw [← List.append_cons] at hresult
      exact ⟨List.forall_mem_cons.mpr ⟨hclaim, hclaims⟩, hresult⟩
    · rintro ⟨hall, hresult⟩
      obtain ⟨hclaim, hclaims⟩ := List.forall_mem_cons.mp hall
      have hdone' : ∀ c ∈ done ++ [claim], isRenewable rows call c = true := by
        simpa [or_imp, forall_and] using ⟨hdone, hclaim⟩
      rw [List.append_cons] at hresult
      exact ⟨_, ⟨hclaim, rfl⟩, (ih hapart hdone').mpr ⟨hclaims, hresult⟩⟩

/-- A renewal extends the leases of all rows its claims name, or none. -/
theorem renewClaims_eq_ok (hrows : RowsOk rows) {claims : List StorageObjectClaim}
    (hapart : claims.Pairwise Apart) {rows' : List StoredObject} :
    renewClaims call expiry rows claims = .ok rows' ↔
      (∀ c ∈ claims, isRenewable rows call c = true) ∧
        Table.modify (isNamed call.organizationId claims) (extendedRow expiry call.now) rows =
          rows' := by
  have hstart : Table.modify (isNamed call.organizationId []) (extendedRow expiry call.now) rows =
      rows := Table.modify_eq_self fun row _ => by simp [isNamed]
  conv_lhs => rw [← hstart]
  rw [renewClaims_modify hrows (by simpa using hapart) (by simp), List.nil_append]

end Renew

/-! ## Commit -/

/-- The rows a commit moves: reserved under the token, and named by the claims. -/
def isCommitting (call : CommitCall) (claims : List StorageObjectClaim) (row : StoredObject) :
    Bool :=
  row.organizationId == call.organizationId && row.state = .reserved &&
    row.leaseToken == some call.leaseToken &&
      claims.any fun claim => claim.objectKey == row.objectKey

/-- The claim finds exactly its own row, committed already or still leased to the caller. -/
def isCommittable (rows : List StoredObject) (call : CommitCall) (claim : StorageObjectClaim) :
    Bool :=
  match matchingRows rows call.organizationId claim with
  | [row] => identityMatches row claim &&
      (row.state = .committed || holdsLease row call.leaseToken call.now)
  | _ => false

theorem keepsIdentity_committedRow (now : Int) : KeepsIdentity (committedRow now) :=
  fun _ => ⟨rfl, rfl⟩

/-- Bytes and objects. -/
def StoredObject.usage (row : StoredObject) : Int × Int := (row.sizeBytes, 1)

section Commit

variable {rows : List StoredObject} {call : CommitCall}

theorem isCommittable_iff {claim : StorageObjectClaim} :
    isCommittable rows call claim = true ↔ ∃ row,
      matchingRows rows call.organizationId claim = [row] ∧ row.claim = claim ∧
        (row.state = .committed ∨ holdsLease row call.leaseToken call.now = true) := by
  unfold isCommittable
  split
  · rename_i row hmatch
    simp [hmatch, identityMatches_iff]
  · rename_i hmatch
    constructor
    · intro h
      cases h
    · rintro ⟨row, hrow, -⟩
      exact absurd hrow (hmatch row)

/-- The second loop of a commit is one update. -/
theorem foldl_commitRow {claims : List StorageObjectClaim} :
    claims.foldl (commitRow call) rows =
      Table.modify (isCommitting call claims) (committedRow call.now) rows := by
  induction claims generalizing rows with
  | nil =>
    rw [Table.modify_eq_self fun row _ => by simp [isCommitting]]
    rfl
  | cons claim claims ih =>
    rw [List.foldl_cons, ih]
    unfold commitRow
    rw [Table.modify_modify]
    refine List.map_congr_left fun row _ => ?_
    simp only [isCommitting, List.any_cons]
    by_cases hmine : (row.organizationId == call.organizationId && decide (row.state = .reserved) &&
        row.leaseToken == some call.leaseToken) = true
    · by_cases hkey : claim.objectKey = row.objectKey
      · simp_all [committedRow]
      · have hkey' : ¬row.objectKey = claim.objectKey := fun h => hkey h.symm
        simp_all
    · have hmine' : (row.organizationId == call.organizationId &&
          decide (row.state = .reserved) && row.leaseToken == some call.leaseToken) = false := by
        simpa using hmine
      have hnot : (row.organizationId == call.organizationId && row.objectKey == claim.objectKey &&
          decide (row.state = .reserved) && row.leaseToken == some call.leaseToken) = false := by
        by_contra h
        simp_all
      simp only [hnot, hmine', Bool.false_and, Bool.false_eq_true, if_false]

/-- A row that a claim commits is the only one, as keys are unique. -/
theorem filter_isCommitting_eq (hrows : RowsOk rows) {row : StoredObject}
    {claim : StorageObjectClaim} (hrow : row ∈ rows) (h : isCommitting call [claim] row = true) :
    rows.filter (isCommitting call [claim]) = [row] := by
  refine Table.filter_eq_singleton hrows.keys_nodup hrow fun other hother => ?_
  constructor
  · intro hsame
    simp only [isCommitting, List.any_cons, List.any_nil, Bool.or_false, Bool.and_eq_true,
      beq_iff_eq] at h hsame
    rw [← hsame.2, h.2]
  · intro hkey
    rwa [hrows.eq_of_key hother hrow hkey]

/-- A reserved row that the caller still holds is one of the rows its claim commits. -/
theorem filter_isCommitting_singleton (hrows : RowsOk rows) {row : StoredObject}
    {claim : StorageObjectClaim} (hrow : row ∈ rows)
    (horganization : row.organizationId = call.organizationId) (hidentity : row.claim = claim)
    (hlease : holdsLease row call.leaseToken call.now = true) :
    rows.filter (isCommitting call [claim]) = [row] := by
  simp only [holdsLease, Bool.and_eq_true, beq_iff_eq, decide_eq_true_eq] at hlease
  refine filter_isCommitting_eq hrows hrow ?_
  simp [isCommitting, horganization, hlease.1.1, hlease.1.2, ← hidentity, StoredObject.claim]

/-- A claim on a committed row commits nothing. -/
theorem filter_isCommitting_nil (hrows : RowsOk rows) {row : StoredObject}
    {claim : StorageObjectClaim} (hrow : row ∈ rows) (hidentity : row.claim = claim)
    (hstate : row.state = .committed) : rows.filter (isCommitting call [claim]) = [] := by
  have hkey : claim.objectKey = row.objectKey := by rw [← hidentity]; rfl
  refine List.filter_eq_nil_iff.mpr fun other hother h => ?_
  simp only [isCommitting, List.any_cons, List.any_nil, Bool.or_false, Bool.and_eq_true,
    beq_iff_eq, decide_eq_true_eq] at h
  obtain rfl := hrows.eq_of_key hother hrow (h.2.symm.trans hkey)
  rw [hstate] at h
  cases h.1.1.2

theorem sumOf_isCommitting_cons {claim : StorageObjectClaim} {claims : List StorageObjectClaim}
    (hapart : ∀ c ∈ claims, Apart claim c) :
    Table.sumOf StoredObject.usage (rows.filter (isCommitting call (claim :: claims))) =
      Table.sumOf StoredObject.usage (rows.filter (isCommitting call [claim])) +
        Table.sumOf StoredObject.usage (rows.filter (isCommitting call claims)) := by
  rw [← Table.sumOf_filter_or]
  · congr 1
    refine List.filter_congr fun row _ => ?_
    simp only [isCommitting, List.any_cons, List.any_nil, Bool.or_false]
    cases (row.organizationId == call.organizationId && decide (row.state = .reserved) &&
      row.leaseToken == some call.leaseToken) <;> simp
  · intro row _ hfirst
    by_contra hrest
    simp only [isCommitting, List.any_cons, List.any_nil, Bool.or_false, Bool.and_eq_true,
      beq_iff_eq, Bool.not_eq_false, List.any_eq_true] at hfirst hrest
    obtain ⟨-, c, hc, hkey⟩ := hrest
    exact (hapart c hc).1 (hfirst.2.trans hkey.symm)

/-- The deltas of a commit are the sum over the rows it moves. -/
theorem commitDeltas_eq_ok (hrows : RowsOk rows) {claims : List StorageObjectClaim}
    (hapart : claims.Pairwise Apart) {deltas deltas' : Int × Int} :
    commitDeltas call rows deltas claims = .ok deltas' ↔
      (∀ c ∈ claims, isCommittable rows call c = true) ∧
        deltas + Table.sumOf StoredObject.usage (rows.filter (isCommitting call claims)) =
          deltas' := by
  induction claims generalizing deltas with
  | nil =>
    have hnil : rows.filter (isCommitting call []) = [] :=
      List.filter_eq_nil_iff.mpr fun row _ => by simp [isCommitting]
    simp [commitDeltas, hnil]
  | cons claim claims ih =>
    obtain ⟨hfirst, hrest⟩ := List.pairwise_cons.mp hapart
    rw [sumOf_isCommitting_cons hfirst, List.forall_mem_cons, isCommittable_iff]
    unfold commitDeltas
    rw [bind_eq_ok]
    unfold commitClaim
    constructor
    · rintro ⟨found, hfound, hnext⟩
      split at hfound
      · rename_i row hmatch
        obtain ⟨hrow, horganization, -⟩ :=
          mem_matchingRows.mp (hmatch ▸ List.mem_singleton_self row)
        simp only [bind_eq_ok, require_eq_ok, identityMatches_iff] at hfound
        obtain ⟨_, hidentity, hfound⟩ := hfound
        split at hfound
        · rename_i hstate
          cases hfound
          obtain ⟨hclaims, hsum⟩ := (ih hrest).mp hnext
          rw [filter_isCommitting_nil hrows hrow hidentity hstate, Table.sumOf_nil, zero_add]
          exact ⟨⟨⟨row, hmatch, hidentity, .inl hstate⟩, hclaims⟩, hsum⟩
        · simp only [bind_eq_ok, require_eq_ok] at hfound
          obtain ⟨_, hlease, hfound⟩ := hfound
          cases hfound
          obtain ⟨hclaims, hsum⟩ := (ih hrest).mp hnext
          rw [filter_isCommitting_singleton hrows hrow horganization hidentity hlease]
          refine ⟨⟨⟨row, hmatch, hidentity, .inr hlease⟩, hclaims⟩, ?_⟩
          rw [← hsum, Table.sumOf_cons, Table.sumOf_nil, add_zero, ← add_assoc]
          rfl
      · cases hfound
    · rintro ⟨⟨⟨row, hmatch, hidentity, hready⟩, hclaims⟩, hsum⟩
      obtain ⟨hrow, horganization, -⟩ := mem_matchingRows.mp (hmatch ▸ List.mem_singleton_self row)
      rw [hmatch]
      by_cases hstate : row.state = .committed
      · refine ⟨none, ?_, ?_⟩
        · simp [bind_eq_ok, identityMatches_iff.mpr hidentity, hstate, pure, Except.pure]
        · rw [filter_isCommitting_nil hrows hrow hidentity hstate, Table.sumOf_nil, zero_add]
            at hsum
          exact (ih hrest).mpr ⟨hclaims, hsum⟩
      · have hlease := hready.resolve_left hstate
        refine ⟨some row, ?_, ?_⟩
        · simp [bind_eq_ok, identityMatches_iff.mpr hidentity, hstate, hlease, pure, Except.pure]
        · rw [filter_isCommitting_singleton hrows hrow horganization hidentity hlease,
            Table.sumOf_cons, Table.sumOf_nil, add_zero, ← add_assoc] at hsum
          exact (ih hrest).mpr ⟨hclaims, hsum⟩

end Commit

/-! ## Claim for reaping -/

theorem keepsIdentity_reapingRow (token : String) (expiry now : Int) :
    KeepsIdentity (reapingRow token expiry now) :=
  fun _ => ⟨rfl, rfl⟩

/-- The row has the key of one of the candidates. -/
def isAmong (organizationId : String) (candidates : List StoredObject) (row : StoredObject) : Bool :=
  row.organizationId == organizationId &&
    candidates.any fun candidate => candidate.objectKey == row.objectKey

/-- The loop of a reaper claim is one update. -/
theorem foldl_reapRow {organizationId token : String} {expiry now : Int}
    {candidates rows : List StoredObject} :
    candidates.foldl (reapRow organizationId token expiry now) rows =
      Table.modify (isAmong organizationId candidates) (reapingRow token expiry now) rows := by
  induction candidates generalizing rows with
  | nil =>
    rw [Table.modify_eq_self fun row _ => by simp [isAmong]]
    rfl
  | cons candidate candidates ih =>
    rw [List.foldl_cons, ih]
    unfold reapRow updateObject
    rw [Table.modify_modify]
    refine List.map_congr_left fun row _ => ?_
    by_cases horganization : row.organizationId = organizationId
    · by_cases hkey : row.objectKey = candidate.objectKey
      · simp [isAmong, horganization, hkey, reapingRow]
      · have hkey' : ¬candidate.objectKey = row.objectKey := fun h => hkey h.symm
        simp [isAmong, horganization, hkey, hkey']
    · simp [isAmong, horganization]

/-- The rows a claim takes are those it selected. -/
theorem mem_reapCandidates {cluster : Cluster} {db : Database} {call : ClaimReapCall}
    {row : StoredObject} (h : row ∈ reapCandidates cluster db call) :
    row ∈ db.storedObjects ∧ isReapCandidate db call row = true := by
  have hmem := List.mem_of_mem_take h
  rw [List.mem_insertionSort] at hmem
  exact List.mem_filter.mp hmem

end Custombuild.Storage
