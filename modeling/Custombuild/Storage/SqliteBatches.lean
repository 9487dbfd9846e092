/-
  Reserve, renew and commit on SQLite: when each returns, and the rows it leaves.
-/
import Custombuild.Storage.SqliteRows

namespace Custombuild.Storage

open Custombuild.Lib

/-! ## Renew -/

/-- The extension that leaves a row alone whose lease already lasts as long. -/
def lengthenedRow (expiry now : Int) (row : StoredObject) : StoredObject :=
  if row.leaseExpiresAt.any fun stored => stored < expiry then extendedRow expiry now row else row

theorem keepsIdentity_lengthenedRow (expiry now : Int) :
    KeepsIdentity (lengthenedRow expiry now) := by
  intro row
  unfold lengthenedRow
  split
  · exact ⟨rfl, rfl⟩
  · exact ⟨rfl, rfl⟩

theorem renewRow_eq_ok {request : StorageRequest} {expiry : Int} {row row' : StoredObject} :
    renewRow request expiry row = .ok row' ↔
      holdsLease row request.leaseToken request.now = true ∧
        lengthenedRow expiry request.now row = row' := by
  unfold renewRow lengthenedRow
  simp only [bind_eq_ok, require_eq_ok]
  constructor
  · rintro ⟨_, hlease, hrow⟩
    refine ⟨hlease, ?_⟩
    split at hrow
    · rw [if_pos ‹_›]
      exact Except.ok.inj hrow
    · rw [if_neg ‹_›]
      exact Except.ok.inj hrow
  · rintro ⟨hlease, rfl⟩
    refine ⟨(), hlease, ?_⟩
    split
    · rfl
    · rfl

section Renew

variable {rows : List StoredObject} {request : StorageRequest} {claims : List StorageObjectClaim}
  {expiry : Int}

/-- The rows after a renewal, when every claim finds its row under the lease of the caller. -/
def renewedRows (rows : List StoredObject) (request : StorageRequest) (expiry : Int)
    (claims : List StorageObjectClaim) : List StoredObject :=
  Table.modify (isNamed request.organizationId claims) (lengthenedRow expiry request.now) rows

/-- The rows the claims find are the rows under their keys. -/
theorem isNamed_iff_findsRow
    (hall : ∀ c ∈ claims, ∃ row, FindsRow rows request.organizationId c row) {row : StoredObject}
    (hrow : row ∈ rows) :
    isNamed request.organizationId claims row = true ↔
      ∃ c ∈ claims, FindsRow rows request.organizationId c row := by
  simp only [isNamed, Bool.and_eq_true, beq_iff_eq, List.any_eq_true]
  constructor
  · rintro ⟨horganization, c, hc, hkey⟩
    obtain ⟨found, hfound⟩ := hall c hc
    obtain rfl := hfound.eq hrow horganization hkey.symm
    exact ⟨c, hc, hfound⟩
  · rintro ⟨c, hc, hfound⟩
    obtain ⟨-, horganization, hkey⟩ := hfound.facts
    exact ⟨horganization, c, hc, hkey.symm⟩

theorem renewRows_eq_ok (hkeys : (rows.map StoredObject.objectKey).Nodup)
    {rows' : List StoredObject} :
    renewRows rows request expiry claims = .ok rows' ↔
      (∀ c ∈ claims, ∃ row, FindsRow rows request.organizationId c row ∧
        holdsLease row request.leaseToken request.now = true) ∧
        renewedRows rows request expiry claims = rows' := by
  have hflush {locked renewed : List StoredObject}
      (hlocked : lockedClaimRows rows request.organizationId claims = .ok locked)
      (hrenewed : collect (renewRow request expiry) locked = .ok renewed) :
      flushRows renewed rows = renewedRows rows request expiry claims := by
    have hall := (lockedClaimRows_eq_ok.mp hlocked).1
    refine flushRows_eq hkeys (keepsIdentity_lengthenedRow expiry request.now) fun new => ?_
    constructor
    · intro hnew
      obtain ⟨row, hrow, hrenew⟩ := mem_of_collect hrenewed hnew
      obtain ⟨c, hc, hfound⟩ := (mem_lockedClaimRows hlocked).mp hrow
      exact ⟨row, hfound.facts.1, (isNamed_iff_findsRow hall hfound.facts.1).mpr ⟨c, hc, hfound⟩,
        (renewRow_eq_ok.mp hrenew).2⟩
    · rintro ⟨row, hrow, hnamed, rfl⟩
      have hmem := (mem_lockedClaimRows hlocked).mpr ((isNamed_iff_findsRow hall hrow).mp hnamed)
      obtain ⟨new, hnew, hrenew⟩ := collect_mem hrenewed hmem
      rw [(renewRow_eq_ok.mp hrenew).2]
      exact hnew
  unfold renewRows
  simp only [bind_eq_ok, pure, Except.pure, Except.ok.injEq]
  constructor
  · rintro ⟨locked, hlocked, renewed, hrenewed, rfl⟩
    refine ⟨fun c hc => ?_, (hflush hlocked hrenewed).symm⟩
    obtain ⟨row, hfound⟩ := (lockedClaimRows_eq_ok.mp hlocked).1 c hc
    have hmem := (mem_lockedClaimRows hlocked).mpr ⟨c, hc, hfound⟩
    obtain ⟨new, -, hrenew⟩ := collect_mem hrenewed hmem
    exact ⟨row, hfound, (renewRow_eq_ok.mp hrenew).1⟩
  · rintro ⟨hall, rfl⟩
    have hfinds : ∀ c ∈ claims, ∃ row, FindsRow rows request.organizationId c row := by
      intro c hc
      obtain ⟨row, hfound, -⟩ := hall c hc
      exact ⟨row, hfound⟩
    have hlocked := lockedClaimRows_eq_ok.mpr ⟨hfinds, rfl⟩
    obtain ⟨renewed, hrenewed⟩ : ∃ renewed, collect (renewRow request expiry)
        ((rows.filter (sharesKey request.organizationId claims)).insertionSort fun a b =>
          a.objectKey ≤ b.objectKey) = .ok renewed := by
      refine exists_collect fun row hrow => ?_
      obtain ⟨c, hc, hfound⟩ := (mem_lockedClaimRows hlocked).mp hrow
      obtain ⟨row', hfound', hlease⟩ := hall c hc
      obtain rfl : row = row' :=
        hfound'.eq hfound.facts.1 hfound.facts.2.1 hfound.facts.2.2
      exact ⟨_, renewRow_eq_ok.mpr ⟨hlease, rfl⟩⟩
    exact ⟨_, hlocked, renewed, hrenewed, hflush hlocked hrenewed⟩

end Renew

/-! ## Reserve -/

section Insert

variable {rows : List StoredObject} {request : StorageRequest} {expiry : Int}
  {claims : List StorageObjectClaim}

/-- The row an insert of the claim leaves. -/
def insertedRow (request : StorageRequest) (expiry : Int) (claim : StorageObjectClaim) :
    StoredObject :=
  reservedRow request.organizationId claim request.leaseToken expiry request.now

/-- The claims of a batch that are inserted: those without a conflict on the rows before it. -/
def insertedClaims (rows : List StoredObject) (organizationId : String)
    (claims : List StorageObjectClaim) : List StorageObjectClaim :=
  claims.filter fun claim => !conflicts rows organizationId claim

/-- The rows after the inserts of a batch. -/
def rowsWithInserted (rows : List StoredObject) (request : StorageRequest) (expiry : Int)
    (claims : List StorageObjectClaim) : List StoredObject :=
  rows ++ (insertedClaims rows request.organizationId claims).map (insertedRow request expiry)

theorem conflicts_append {claim other : StorageObjectClaim} (hapart : Apart claim other) :
    conflicts (rows ++ [insertedRow request expiry claim]) request.organizationId other =
      conflicts rows request.organizationId other := by
  unfold conflicts
  rw [List.any_append]
  simp [insertedRow, reservedRow, hapart.1, hapart.2]

theorem insertObjects_eq (hapart : claims.Pairwise Apart) {inserted : List StorageObjectClaim} :
    insertObjects request expiry (rows, inserted) claims =
      (rowsWithInserted rows request expiry claims,
        inserted ++ insertedClaims rows request.organizationId claims) := by
  induction claims generalizing rows inserted with
  | nil => simp [insertObjects, rowsWithInserted, insertedClaims]
  | cons claim claims ih =>
    obtain ⟨hfirst, hrest⟩ := List.pairwise_cons.mp hapart
    unfold insertObjects
    split
    · rename_i hconflicts
      rw [ih hrest]
      simp [rowsWithInserted, insertedClaims, hconflicts]
    · rename_i hconflicts
      have hlater : insertedClaims (rows ++ [insertedRow request expiry claim])
          request.organizationId claims = insertedClaims rows request.organizationId claims := by
        refine List.filter_congr fun other hother => ?_
        rw [conflicts_append (hfirst other hother)]
      have hcons : insertedClaims rows request.organizationId (claim :: claims) =
          claim :: insertedClaims rows request.organizationId claims :=
        List.filter_cons_of_pos (by simpa using hconflicts)
      show insertObjects request expiry (rows ++ [insertedRow request expiry claim],
        inserted ++ [claim]) claims = _
      rw [ih hrest, hcons]
      unfold rowsWithInserted
      rw [hlater, hcons]
      simp

/-- A claim without a conflict matches nothing. -/
theorem matchingRows_of_not_conflicts {claim : StorageObjectClaim}
    (h : conflicts rows request.organizationId claim = false) :
    matchingRows rows request.organizationId claim = [] := by
  unfold conflicts at h
  rw [List.any_eq_false] at h
  refine List.filter_eq_nil_iff.mpr fun row hrow hmatch => h row hrow ?_
  simp only [Bool.and_eq_true, Bool.or_eq_true] at hmatch ⊢
  rcases hmatch.2 with hkey | hidentity
  · exact .inl hkey
  · exact .inr ⟨hmatch.1, hidentity⟩

/-- Among the inserted rows a claim matches its own. -/
theorem matchingRows_inserted (hapart : claims.Pairwise Apart) {claim : StorageObjectClaim}
    (hclaim : claim ∈ claims) :
    matchingRows ((insertedClaims rows request.organizationId claims).map
      (insertedRow request expiry)) request.organizationId claim =
      if conflicts rows request.organizationId claim then []
      else [insertedRow request expiry claim] := by
  have hmatches (c : StorageObjectClaim) (hc : c ∈ claims) :
      (c.objectKey = claim.objectKey ∨ c.idempotencyKey = claim.idempotencyKey) ↔ c = claim := by
    constructor
    · exact eq_of_apart hapart hclaim hc
    · rintro rfl
      exact .inl rfl
  have hfilter : matchingRows ((insertedClaims rows request.organizationId claims).map
      (insertedRow request expiry)) request.organizationId claim =
      ((insertedClaims rows request.organizationId claims).filter fun c => c == claim).map
        (insertedRow request expiry) := by
    unfold matchingRows
    rw [List.filter_map]
    congr 1
    refine List.filter_congr fun c hc => ?_
    have hc' := hmatches c (List.mem_filter.mp hc).1
    rw [Bool.eq_iff_iff]
    simp only [Function.comp_apply, insertedRow, reservedRow, beq_self_eq_true, Bool.true_and,
      Bool.or_eq_true, beq_iff_eq]
    exact hc'
  rw [hfilter]
  have hnodup : claims.Nodup := List.Nodup.of_map _ (keys_nodup_of_apart hapart)
  split
  · rename_i hconflicts
    have hnone : (insertedClaims rows request.organizationId claims).filter (fun c => c == claim) =
        [] := by
      refine List.filter_eq_nil_iff.mpr fun c hc heq => ?_
      have hnot := (List.mem_filter.mp hc).2
      rw [eq_of_beq heq, hconflicts] at hnot
      cases hnot
    rw [hnone]
    rfl
  · rename_i hconflicts
    have hmem : claim ∈ insertedClaims rows request.organizationId claims :=
      List.mem_filter.mpr ⟨hclaim, by simpa using hconflicts⟩
    have hinserted : ((insertedClaims rows request.organizationId claims).map id).Nodup := by
      rw [List.map_id]
      exact hnodup.sublist List.filter_sublist
    have hone := Table.filter_eq_singleton (p := fun c => c == claim) hinserted hmem
      fun c _ => by simp
    rw [hone]
    rfl

/-- A claim matches its inserted row, or what it matched before. -/
theorem matchingRows_rowsWithInserted (hapart : claims.Pairwise Apart)
    {claim : StorageObjectClaim} (hclaim : claim ∈ claims) :
    matchingRows (rowsWithInserted rows request expiry claims) request.organizationId claim =
      if conflicts rows request.organizationId claim then
        matchingRows rows request.organizationId claim
      else [insertedRow request expiry claim] := by
  unfold rowsWithInserted
  rw [matchingRows_append, matchingRows_inserted hapart hclaim]
  split
  · rw [List.append_nil]
  · rename_i hconflicts
    rw [matchingRows_of_not_conflicts (by simpa using hconflicts), List.nil_append]

theorem keys_rowsWithInserted (hapart : claims.Pairwise Apart)
    (hkeys : (rows.map StoredObject.objectKey).Nodup) :
    ((rowsWithInserted rows request expiry claims).map StoredObject.objectKey).Nodup := by
  unfold rowsWithInserted
  rw [List.map_append, List.map_map]
  refine List.nodup_append.mpr ⟨hkeys, ?_, ?_⟩
  · exact (keys_nodup_of_apart hapart).sublist (List.filter_sublist.map _)
  · rintro key hold _ hnew rfl
    obtain ⟨row, hrow, hrowKey⟩ := List.mem_map.mp hold
    obtain ⟨c, hc, hcKey⟩ := List.mem_map.mp hnew
    have hnot := (List.mem_filter.mp hc).2
    rw [Bool.not_eq_true', conflicts, List.any_eq_false] at hnot
    refine hnot row hrow ?_
    simp [hrowKey, ← hcKey, insertedRow, reservedRow]

end Insert

/-! ## The leases of a batch -/

/-- The lease on an existing row: taken over once expired, else lengthened. -/
def releasedRow (request : StorageRequest) (expiry : Int) (row : StoredObject) : StoredObject :=
  if row.state = .committed then row
  else if row.leaseExpiresAt.any fun stored => stored ≤ request.now then
    takenOverRow request.leaseToken expiry request.now row
  else lengthenedRow expiry request.now row

theorem keepsIdentity_releasedRow (request : StorageRequest) (expiry : Int) :
    KeepsIdentity (releasedRow request expiry) := by
  intro row
  unfold releasedRow
  split
  · exact ⟨rfl, rfl⟩
  · split
    · exact ⟨rfl, rfl⟩
    · exact keepsIdentity_lengthenedRow expiry request.now row

section Lease

variable {rows : List StoredObject} {request : StorageRequest} {expiry fenceAt : Int}
  {claims sent : List StorageObjectClaim}

theorem leaseExisting_eq_ok {row row' : StoredObject} :
    leaseExisting request expiry row = .ok row' ↔
      isReleasable (request.reserveCall sent fenceAt) row = true ∧
        releasedRow request expiry row = row' := by
  unfold leaseExisting isReleasable releasedRow StorageRequest.reserveCall
  cases hstate : row.state with
  | committed => simp
  | reaping => simp [bind_eq_ok]
  | deletePending => simp
  | reserved =>
    cases hlease : row.leaseExpiresAt with
    | none => simp
    | some stored =>
      by_cases hexpired : stored ≤ request.now
      · simp [hexpired]
      · by_cases htoken : row.leaseToken = some request.leaseToken
        · by_cases hshort : stored < expiry
          · simp [hexpired, htoken, hshort, lengthenedRow, hlease]
          · simp [hexpired, htoken, hshort, lengthenedRow, hlease]
        · simp [hexpired, htoken]

/-- An inserted row has the lease of the caller already. -/
theorem releasedRow_insertedRow (hexpiry : request.now < expiry) (claim : StorageObjectClaim) :
    releasedRow request expiry (insertedRow request expiry claim) =
      insertedRow request expiry claim := by
  have hnot : ¬expiry ≤ request.now := by omega
  simp [releasedRow, insertedRow, reservedRow, lengthenedRow, hnot]

theorem isReleasable_insertedRow (claim : StorageObjectClaim) :
    isReleasable (request.reserveCall sent fenceAt) (insertedRow request expiry claim) = true := by
  simp [isReleasable, insertedRow, reservedRow, StorageRequest.reserveCall]

/-- The claim finds a row that it may lease. -/
def FindsReleasable (rows : List StoredObject) (request : StorageRequest)
    (claim : StorageObjectClaim) (row : StoredObject) : Prop :=
  FindsRow rows request.organizationId claim row ∧
    isReleasable (request.reserveCall [] 0) row = true

theorem leaseClaim_eq_ok (hapart : claims.Pairwise Apart) (hexpiry : request.now < expiry)
    (hkeys : (rows.map StoredObject.objectKey).Nodup) {locked : List StoredObject}
    (hlocked : lockedClaimRows (rowsWithInserted rows request expiry claims)
      request.organizationId claims = .ok locked)
    {claim : StorageObjectClaim} (hclaim : claim ∈ claims) {row : StoredObject}
    (hrow : FindsRow (rowsWithInserted rows request expiry claims) request.organizationId claim row)
    {row' : StoredObject} :
    leaseClaim request expiry (insertedClaims rows request.organizationId claims) locked claim =
        .ok row' ↔
      isReleasable (request.reserveCall [] 0) row = true ∧ releasedRow request expiry row = row' := by
  have hfind := find_lockedClaimRows hlocked (keys_rowsWithInserted hapart hkeys) hclaim hrow
  unfold leaseClaim
  rw [hfind]
  simp only [bind_eq_ok, demand_eq_ok, Option.some.injEq, exists_eq_left']
  split
  · rename_i hinserted
    simp only [isInserted, List.any_eq_true, beq_iff_eq] at hinserted
    obtain ⟨c, hc, hkey⟩ := hinserted
    obtain ⟨hc, hnew⟩ := List.mem_filter.mp hc
    obtain rfl := eq_of_apart hapart hclaim hc (.inl hkey)
    have hmatch := hrow.1
    rw [matchingRows_rowsWithInserted hapart hclaim, if_neg (by simpa using hnew),
      List.singleton_inj] at hmatch
    rw [← hmatch, releasedRow_insertedRow hexpiry, isReleasable_insertedRow]
    simp [pure, Except.pure]
  · exact leaseExisting_eq_ok

theorem isReleasable_iff {call : ReserveCall} {row : StoredObject} :
    isReleasable call row = true ↔ row.state = .committed ∨
      row.state = .reserved ∧ ∃ stored, row.leaseExpiresAt = some stored ∧
        (stored ≤ call.now ∨ row.leaseToken = some call.leaseToken) := by
  unfold isReleasable
  cases row.leaseExpiresAt with
  | none => simp
  | some stored => simp

/-- A reserved row that the caller may lease is afterwards reserved under its token. -/
theorem releasedRow_reserved {row : StoredObject} (hstate : row.state = .reserved) {stored : Int}
    (hstored : row.leaseExpiresAt = some stored)
    (hlease : stored ≤ request.now ∨ row.leaseToken = some request.leaseToken) :
    (releasedRow request expiry row).state = .reserved ∧
      (releasedRow request expiry row).leaseToken = some request.leaseToken := by
  unfold releasedRow
  rw [if_neg (by rw [hstate]; decide), hstored]
  by_cases hexpired : stored ≤ request.now
  · rw [if_pos (by simpa using hexpired)]
    exact ⟨hstate, rfl⟩
  · have htoken := hlease.resolve_left hexpired
    rw [if_neg (by simpa using hexpired)]
    unfold lengthenedRow
    split
    · exact ⟨hstate, htoken⟩
    · exact ⟨hstate, htoken⟩

/-- What the reservation says of a leased row is what its claim found before the batch. -/
theorem objectReservation_eq (hapart : claims.Pairwise Apart) (hexpiry : request.now < expiry)
    (hrows : RowsOk rows) {claim : StorageObjectClaim} (hclaim : claim ∈ claims)
    {row : StoredObject}
    (hrow : FindsReleasable (rowsWithInserted rows request expiry claims) request claim row) :
    objectReservation (insertedClaims rows request.organizationId claims)
        (releasedRow request expiry row) =
      reservationOf rows (request.reserveCall sent fenceAt) claim := by
  obtain ⟨hfinds, hreleasable⟩ := hrow
  have hkey : row.objectKey = claim.objectKey := hfinds.facts.2.2
  have hinserted : isInserted (insertedClaims rows request.organizationId claims) claim.objectKey =
      !conflicts rows request.organizationId claim := by
    rw [Bool.eq_iff_iff]
    simp only [isInserted, insertedClaims, List.any_eq_true, List.mem_filter, beq_iff_eq]
    constructor
    · rintro ⟨c, ⟨hc, hnew⟩, hsame⟩
      obtain rfl := eq_of_apart hapart hclaim hc (.inl hsame)
      exact hnew
    · intro hnew
      exact ⟨claim, ⟨hclaim, hnew⟩, rfl⟩
  have hmatch := hfinds.1
  rw [matchingRows_rowsWithInserted hapart hclaim] at hmatch
  unfold objectReservation
  rw [(keepsIdentity_releasedRow request expiry).objectKey, hkey, hinserted]
  unfold reservationOf
  by_cases hconflicts : conflicts rows request.organizationId claim = true
  · rw [if_pos hconflicts] at hmatch
    have hmem : row ∈ rows :=
      (mem_matchingRows.mp (hmatch ▸ List.mem_singleton_self row)).1
    have hshape := hrows.shapes row hmem
    have hmatch' : matchingRows rows (request.reserveCall sent fenceAt).organizationId claim =
        [row] := hmatch
    rw [hmatch', hconflicts]
    rcases isReleasable_iff.mp hreleasable with hcommitted | ⟨hreserved, stored, hstored, hlease⟩
    · simp only [StoredObject.shapeOk, hcommitted, Bool.and_eq_true, Option.isNone_iff_eq_none]
        at hshape
      simp [releasedRow, hcommitted, hshape.1.1.1]
    · obtain ⟨hstate, htoken⟩ := releasedRow_reserved hreserved hstored hlease
      rw [hstate, htoken]
      simp [hreserved, StorageRequest.reserveCall]
  · rw [if_neg hconflicts, List.singleton_inj] at hmatch
    have hnil : matchingRows rows (request.reserveCall sent fenceAt).organizationId claim = [] :=
      matchingRows_of_not_conflicts (by simpa using hconflicts)
    rw [hnil, ← hmatch, releasedRow_insertedRow hexpiry]
    simp [insertedRow, reservedRow, hconflicts, StorageRequest.reserveCall]

/-- The rows after a batch that returns. -/
def leasedRows (rows : List StoredObject) (request : StorageRequest) (expiry : Int)
    (claims : List StorageObjectClaim) : List StoredObject :=
  Table.modify (isNamed request.organizationId claims) (releasedRow request expiry)
    (rowsWithInserted rows request expiry claims)

theorem flushRows_leased (hapart : claims.Pairwise Apart) (hexpiry : request.now < expiry)
    (hkeys : (rows.map StoredObject.objectKey).Nodup) {locked leased : List StoredObject}
    (hlocked : lockedClaimRows (rowsWithInserted rows request expiry claims)
      request.organizationId claims = .ok locked)
    (hleased : collect (leaseClaim request expiry
      (insertedClaims rows request.organizationId claims) locked) claims = .ok leased) :
    flushRows leased (rowsWithInserted rows request expiry claims) =
      leasedRows rows request expiry claims := by
  have hall := (lockedClaimRows_eq_ok.mp hlocked).1
  refine flushRows_eq (keys_rowsWithInserted hapart hkeys)
    (keepsIdentity_releasedRow request expiry) fun new => ?_
  constructor
  · intro hnew
    obtain ⟨c, hc, hlease⟩ := mem_of_collect hleased hnew
    obtain ⟨row, hfound⟩ := hall c hc
    obtain ⟨-, hchange⟩ := (leaseClaim_eq_ok hapart hexpiry hkeys hlocked hc hfound).mp hlease
    exact ⟨row, hfound.facts.1, (isNamed_iff_findsRow hall hfound.facts.1).mpr ⟨c, hc, hfound⟩,
      hchange⟩
  · rintro ⟨row, hrow, hnamed, rfl⟩
    obtain ⟨c, hc, hfound⟩ := (isNamed_iff_findsRow hall hrow).mp hnamed
    obtain ⟨new, hnew, hlease⟩ := collect_mem hleased hc
    rw [((leaseClaim_eq_ok hapart hexpiry hkeys hlocked hc hfound).mp hlease).2]
    exact hnew

/-- A batch that returns: every claim finds a row that it may lease, and the reservation is
    what the claims found before the batch. -/
theorem leaseRows_cases (sent : List StorageObjectClaim) (fenceAt : Int)
    (hapart : claims.Pairwise Apart) (hexpiry : request.now < expiry)
    (hrows : RowsOk rows) {rows' leased : List StoredObject} {inserted : List StorageObjectClaim}
    (h : leaseRows rows request expiry claims = .ok (rows', leased, inserted)) :
    (∀ c ∈ claims, ∃ row,
        FindsReleasable (rowsWithInserted rows request expiry claims) request c row) ∧
      rows' = leasedRows rows request expiry claims ∧
      inserted = insertedClaims rows request.organizationId claims ∧
      leased.map (objectReservation inserted) =
        claims.map (reservationOf rows (request.reserveCall sent fenceAt)) := by
  unfold leaseRows at h
  rw [insertObjects_eq hapart] at h
  simp only [List.nil_append, bind_eq_ok, pure, Except.pure, Except.ok.injEq, Prod.mk.injEq] at h
  obtain ⟨locked, hlocked, collected, hcollected, hflush, rfl, rfl⟩ := h
  have hreleasable : ∀ c ∈ claims, ∃ row,
      FindsReleasable (rowsWithInserted rows request expiry claims) request c row := by
    intro c hc
    obtain ⟨row, hfound⟩ := (lockedClaimRows_eq_ok.mp hlocked).1 c hc
    obtain ⟨new, -, hlease⟩ := collect_mem hcollected hc
    exact ⟨row, hfound,
      ((leaseClaim_eq_ok hapart hexpiry hrows.keys_nodup hlocked hc hfound).mp hlease).1⟩
  refine ⟨hreleasable, ?_, rfl, ?_⟩
  · rw [← hflush]
    exact flushRows_leased hapart hexpiry hrows.keys_nodup hlocked hcollected
  · refine map_of_collect hcollected fun c hc new hlease => ?_
    obtain ⟨row, hrow⟩ := hreleasable c hc
    rw [← ((leaseClaim_eq_ok hapart hexpiry hrows.keys_nodup hlocked hc hrow.1).mp hlease).2]
    exact objectReservation_eq hapart hexpiry hrows hc hrow

theorem exists_leaseRows (hapart : claims.Pairwise Apart) (hexpiry : request.now < expiry)
    (hkeys : (rows.map StoredObject.objectKey).Nodup)
    (h : ∀ c ∈ claims, ∃ row,
      FindsReleasable (rowsWithInserted rows request expiry claims) request c row) :
    ∃ outcome, leaseRows rows request expiry claims = .ok outcome := by
  have hfinds : ∀ c ∈ claims, ∃ row, FindsRow (rowsWithInserted rows request expiry claims)
      request.organizationId c row := by
    intro c hc
    obtain ⟨row, hrow⟩ := h c hc
    exact ⟨row, hrow.1⟩
  have hlocked := lockedClaimRows_eq_ok.mpr ⟨hfinds, rfl⟩
  obtain ⟨leased, hleased⟩ := exists_collect fun c hc => by
    obtain ⟨row, hrow⟩ := h c hc
    exact ⟨_, (leaseClaim_eq_ok hapart hexpiry hkeys hlocked hc hrow.1).mpr ⟨hrow.2, rfl⟩⟩
  unfold leaseRows
  rw [insertObjects_eq hapart, List.nil_append]
  exact ⟨(_, leased, _), bind_eq_ok.mpr ⟨_, hlocked, bind_eq_ok.mpr ⟨leased, hleased, rfl⟩⟩⟩

/-- The PostgreSQL function reserves a claim exactly when the batch on SQLite finds a row that
    it may lease, or inserts one. -/
theorem isReservable_iff {db : Database} {bucket : Option String} (hapart : claims.Pairwise Apart)
    {claim : StorageObjectClaim} (hclaim : claim ∈ claims)
    (horganization : request.organizationId ∈ db.organizations)
    (hproject : (request.organizationId, claim.projectId) ∈ db.projects) :
    isReservable db bucket (request.reserveCall sent fenceAt) claim = true ↔
      isRetired db.tombstones bucket claim = false ∧ ∃ row, FindsReleasable
        (rowsWithInserted db.storedObjects request expiry claims) request claim row := by
  unfold isReservable FindsReleasable FindsRow
  rw [matchingRows_rowsWithInserted hapart hclaim, Bool.and_eq_true, Bool.not_eq_true']
  refine and_congr_right fun _ => ?_
  have horganizationId : (request.reserveCall sent fenceAt).organizationId =
    request.organizationId := rfl
  rw [horganizationId]
  by_cases hconflicts : conflicts db.storedObjects request.organizationId claim = true
  · rw [if_pos hconflicts]
    cases hmatch : matchingRows db.storedObjects request.organizationId claim with
    | nil =>
      -- the key belongs to another tenant
      have hused : (db.storedObjects.any fun row => row.objectKey == claim.objectKey) = true := by
        simp only [conflicts, List.any_eq_true, Bool.or_eq_true] at hconflicts ⊢
        obtain ⟨row, hrow, hkey | hidentity⟩ := hconflicts
        · exact ⟨row, hrow, hkey⟩
        · simp only [Bool.and_eq_true, beq_iff_eq] at hidentity
          have hmem := mem_matchingRows.mpr ⟨hrow, hidentity.1, .inr hidentity.2⟩
          rw [hmatch] at hmem
          cases hmem
      simp [hused]
    | cons row rest =>
      cases rest with
      | cons other rest => simp
      | nil =>
        simp only [Bool.and_eq_true, identityMatches_iff, List.singleton_inj]
        constructor
        · rintro ⟨hidentity, hreleasable⟩
          exact ⟨row, ⟨rfl, hidentity⟩, hreleasable⟩
        · rintro ⟨found, ⟨rfl, hidentity⟩, hreleasable⟩
          exact ⟨hidentity, hreleasable⟩
  · rw [if_neg hconflicts]
    have hnil := matchingRows_of_not_conflicts (by simpa using hconflicts)
    have hunused : (db.storedObjects.any fun row => row.objectKey == claim.objectKey) = false := by
      simp only [conflicts, List.any_eq_true, not_exists, not_and, Bool.or_eq_true, not_or]
        at hconflicts
      rw [List.any_eq_false]
      exact fun row hrow => (hconflicts row hrow).1
    constructor
    · intro _
      refine ⟨insertedRow request expiry claim, ⟨rfl, rfl⟩, ?_⟩
      exact isReleasable_insertedRow claim
    · intro _
      rw [hnil]
      simp [hunused, horganization, hproject]

end Lease

/-! ## Commit -/

section Commit

variable {rows : List StoredObject} {request : StorageRequest}
  {claims sent : List StorageObjectClaim}

/-- The row a claim commits. -/
def committingRow (rows : List StoredObject) (call : CommitCall) (claim : StorageObjectClaim) :
    Option StoredObject :=
  rows.find? (isCommitting call [claim])

theorem isCommittable_iff_findsRow {claim : StorageObjectClaim} :
    isCommittable rows (request.commitCall sent) claim = true ↔
      ∃ row, FindsRow rows request.organizationId claim row ∧
        (row.state = .committed ∨ holdsLease row request.leaseToken request.now = true) := by
  rw [isCommittable_iff]
  simp only [FindsRow, and_assoc]
  rfl

/-- The lookup of a claim that may be committed finds the row its update moves. -/
theorem reservedClaimRow_eq_ok (hrows : RowsOk rows) {locked : List StoredObject}
    (hlocked : lockedClaimRows rows request.organizationId claims = .ok locked)
    {claim : StorageObjectClaim} (hclaim : claim ∈ claims) {found : Option StoredObject} :
    reservedClaimRow request locked claim = .ok found ↔
      isCommittable rows (request.commitCall sent) claim = true ∧
        committingRow rows (request.commitCall sent) claim = found := by
  obtain ⟨row, hrow⟩ := (lockedClaimRows_eq_ok.mp hlocked).1 claim hclaim
  have hfind := find_lockedClaimRows hlocked hrows.keys_nodup hclaim hrow
  obtain ⟨hmem, horganization, -⟩ := hrow.facts
  have hcommittable : isCommittable rows (request.commitCall sent) claim = true ↔
      (row.state = .committed ∨ holdsLease row request.leaseToken request.now = true) := by
    rw [isCommittable_iff_findsRow]
    constructor
    · rintro ⟨other, hother, hstate⟩
      obtain rfl := hrow.eq hother.facts.1 hother.facts.2.1 hother.facts.2.2
      exact hstate
    · intro hstate
      exact ⟨row, hrow, hstate⟩
  rw [hcommittable]
  unfold reservedClaimRow committingRow
  rw [hfind]
  simp only [bind_eq_ok, demand_eq_ok, Option.some.injEq, exists_eq_left']
  by_cases hcommitted : row.state = .committed
  · have hnone : rows.filter (isCommitting (request.commitCall sent) [claim]) = [] :=
      filter_isCommitting_nil hrows hmem hrow.2 hcommitted
    rw [if_pos hcommitted, ← List.head?_filter, hnone]
    simp [hcommitted, pure, Except.pure]
  · rw [if_neg hcommitted]
    simp only [hcommitted, false_or, bind_eq_ok, require_eq_ok]
    constructor
    · rintro ⟨_, hlease, hfound⟩
      refine ⟨hlease, ?_⟩
      rw [← List.head?_filter, filter_isCommitting_singleton hrows hmem horganization hrow.2 hlease]
      exact Except.ok.inj hfound
    · rintro ⟨hlease, hfound⟩
      refine ⟨(), hlease, ?_⟩
      rw [← hfound, ← List.head?_filter,
        filter_isCommitting_singleton hrows hmem horganization hrow.2 hlease]
      rfl

theorem reservedRows_eq_ok (hrows : RowsOk rows) {reserved : List StoredObject} :
    reservedRows rows request claims = .ok reserved ↔
      (∀ c ∈ claims, isCommittable rows (request.commitCall sent) c = true) ∧
        claims.filterMap (committingRow rows (request.commitCall sent)) = reserved := by
  unfold reservedRows
  simp only [bind_eq_ok, pure, Except.pure, Except.ok.injEq]
  constructor
  · rintro ⟨locked, hlocked, found, hfound, rfl⟩
    refine ⟨fun c hc => ?_, ?_⟩
    · obtain ⟨o, -, ho⟩ := collect_mem hfound hc
      exact ((reservedClaimRow_eq_ok hrows hlocked hc).mp ho).1
    · have hmap : found.map id = claims.map (committingRow rows (request.commitCall sent)) :=
        map_of_collect hfound fun c hc o ho =>
          ((reservedClaimRow_eq_ok hrows hlocked hc).mp ho).2.symm
      rw [List.map_id] at hmap
      rw [hmap, List.filterMap_map]
      rfl
  · rintro ⟨hall, rfl⟩
    have hfinds : ∀ c ∈ claims, ∃ row, FindsRow rows request.organizationId c row := by
      intro c hc
      obtain ⟨row, hrow, -⟩ := isCommittable_iff_findsRow.mp (hall c hc)
      exact ⟨row, hrow⟩
    have hlocked := lockedClaimRows_eq_ok.mpr ⟨hfinds, rfl⟩
    obtain ⟨found, hfound⟩ := exists_collect fun c hc =>
      ⟨_, (reservedClaimRow_eq_ok hrows hlocked hc).mpr ⟨hall c hc, rfl⟩⟩
    refine ⟨_, hlocked, found, hfound, ?_⟩
    have hmap : found.map id = claims.map (committingRow rows (request.commitCall sent)) :=
      map_of_collect hfound fun c hc o ho =>
        ((reservedClaimRow_eq_ok hrows hlocked hc).mp ho).2.symm
    rw [List.map_id] at hmap
    rw [hmap, List.filterMap_map]
    rfl

variable {call : CommitCall}

theorem isCommitting_of_mem {claim : StorageObjectClaim} (hclaim : claim ∈ claims)
    {row : StoredObject} (h : isCommitting call [claim] row = true) :
    isCommitting call claims row = true := by
  simp only [isCommitting, List.any_cons, List.any_nil, Bool.or_false, Bool.and_eq_true,
    List.any_eq_true] at h ⊢
  exact ⟨h.1, claim, hclaim, h.2⟩

/-- The rows that the claims commit are the rows that the update of the commit selects. -/
theorem mem_committingRows (hrows : RowsOk rows) {row : StoredObject} :
    row ∈ claims.filterMap (committingRow rows call) ↔
      row ∈ rows ∧ isCommitting call claims row = true := by
  rw [List.mem_filterMap]
  constructor
  · rintro ⟨c, hc, hfind⟩
    exact ⟨List.mem_of_find?_eq_some hfind, isCommitting_of_mem hc (List.find?_some hfind)⟩
  · rintro ⟨hrow, hcommitting⟩
    simp only [isCommitting, Bool.and_eq_true, List.any_eq_true, beq_iff_eq] at hcommitting
    obtain ⟨hstate, c, hc, hkey⟩ := hcommitting
    refine ⟨c, hc, ?_⟩
    have hfilter : rows.filter (isCommitting call [c]) = [row] := by
      refine filter_isCommitting_eq hrows hrow ?_
      simp only [isCommitting, List.any_cons, List.any_nil, Bool.or_false, Bool.and_eq_true,
        beq_iff_eq]
      exact ⟨hstate, hkey⟩
    unfold committingRow
    rw [← List.head?_filter, hfilter]
    rfl

theorem committingRows_perm (hrows : RowsOk rows) (hapart : claims.Pairwise Apart) :
    (claims.filterMap (committingRow rows call)).Perm (rows.filter (isCommitting call claims)) := by
  have hkey {c : StorageObjectClaim} {row : StoredObject}
      (h : committingRow rows call c = some row) : c.objectKey = row.objectKey := by
    have hfound := List.find?_some h
    simp only [isCommitting, List.any_cons, List.any_nil, Bool.or_false, Bool.and_eq_true,
      beq_iff_eq] at hfound
    exact hfound.2
  have hnodup : (claims.filterMap (committingRow rows call)).Nodup := by
    refine List.Pairwise.filterMap _ (fun c c' hne row hrow row' hrow' heq => hne.1 ?_) hapart
    rw [hkey hrow, hkey hrow', heq]
  have hrowsNodup : rows.Nodup := List.Nodup.of_map _ hrows.keys_nodup
  refine (List.perm_ext_iff_of_nodup hnodup (hrowsNodup.sublist List.filter_sublist)).mpr
    fun row => ?_
  rw [mem_committingRows hrows, List.mem_filter]

end Commit

end Custombuild.Storage
