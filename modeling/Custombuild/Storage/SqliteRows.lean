/-
  The SQLite functions in closed form.  The inserts of a batch, the rows it locks and the
  flush at its end are one update of the rows before it, followed by the inserted rows, as
  for the PostgreSQL functions in `Storage.Batches`.
-/
import Custombuild.Storage.BatchUpdates
import Custombuild.Storage.Sqlite

namespace Custombuild.Storage

open Custombuild.Lib

/-! ## Claims -/

theorem collectClaims_cases {accepted claims result : List StorageObjectClaim}
    (h : collectClaims accepted claims = .ok result) (hapart : accepted.Pairwise Apart) :
    result.Pairwise Apart ∧ (∀ c, c ∈ result ↔ c ∈ accepted ∨ c ∈ claims) ∧
      result.length ≤ accepted.length + claims.length := by
  induction claims generalizing accepted with
  | nil =>
    cases h
    exact ⟨hapart, by simp, by simp⟩
  | cons claim claims ih =>
    simp only [collectClaims, bind_eq_ok, require_eq_ok, List.all_eq_true, Bool.or_eq_true,
      bne_iff_ne, beq_iff_eq] at h
    obtain ⟨_, -, _, hkeys, _, hidentities, hrest⟩ := h
    by_cases hmem : claim ∈ accepted
    · rw [if_pos (by simpa using hmem)] at hrest
      obtain ⟨hresult, hmembers, hlength⟩ := ih hrest hapart
      refine ⟨hresult, fun c => ?_, by simp only [List.length_cons]; omega⟩
      rw [hmembers, List.mem_cons]
      constructor
      · rintro (hold | hlater)
        · exact .inl hold
        · exact .inr (.inr hlater)
      · rintro (hold | rfl | hlater)
        · exact .inl hold
        · exact .inl hmem
        · exact .inr hlater
    · rw [if_neg (by simpa using hmem)] at hrest
      have hnext : (accepted ++ [claim]).Pairwise Apart := by
        rw [List.pairwise_append]
        refine ⟨hapart, List.pairwise_singleton _ _, fun other hother last hlast => ?_⟩
        rw [List.mem_singleton.mp hlast]
        have hne : other ≠ claim := by
          rintro rfl
          exact hmem hother
        exact ⟨(hkeys other hother).resolve_right hne, (hidentities other hother).resolve_right hne⟩
      obtain ⟨hresult, hmembers, hlength⟩ := ih hrest hnext
      refine ⟨hresult, fun c => ?_, ?_⟩
      · rw [hmembers, List.mem_append, List.mem_singleton, List.mem_cons, or_assoc]
      · simp only [List.length_append, List.length_cons, List.length_nil] at hlength ⊢
        omega

/-- What the three functions work on: the claims of the request, each once, apart from each
    other. -/
structure Normalized (request claims : List StorageObjectClaim) : Prop where
  apart : claims.Pairwise Apart
  mem_iff : ∀ c, c ∈ claims ↔ c ∈ request
  nonempty : claims ≠ []
  length_le : claims.length ≤ request.length

theorem normalizedClaims_cases {request claims : List StorageObjectClaim}
    (h : normalizedClaims request = .ok claims) : Normalized request claims := by
  simp only [normalizedClaims, bind_eq_ok, require_eq_ok] at h
  obtain ⟨accepted, haccepted, _, hnonempty, hsorted⟩ := h
  cases hsorted
  obtain ⟨hapart, hmembers, hlength⟩ := collectClaims_cases haccepted List.Pairwise.nil
  have hperm := List.perm_insertionSort
    (fun a b : StorageObjectClaim => a.objectKey ≤ b.objectKey) accepted
  refine ⟨hperm.symm.pairwise hapart Apart.symm, fun c => ?_, ?_, ?_⟩
  · rw [hperm.mem_iff, hmembers]
    simp
  · intro hnil
    rw [hnil] at hperm
    rw [hperm.nil_eq.symm] at hnonempty
    cases hnonempty
  · rw [hperm.length_eq]
    simpa using hlength

theorem keys_nodup_of_apart {claims : List StorageObjectClaim} (h : claims.Pairwise Apart) :
    (claims.map StorageObjectClaim.objectKey).Nodup :=
  List.pairwise_map.mpr (h.imp fun h => h.1)

theorem eq_of_apart {claims : List StorageObjectClaim} (h : claims.Pairwise Apart)
    {c c' : StorageObjectClaim} (hc : c ∈ claims) (hc' : c' ∈ claims)
    (hsame : c'.objectKey = c.objectKey ∨ c'.idempotencyKey = c.idempotencyKey) : c' = c := by
  have hidentities : (claims.map StorageObjectClaim.idempotencyKey).Nodup :=
    List.pairwise_map.mpr (h.imp fun h => h.2)
  rcases hsame with hkey | hidentity
  · exact List.inj_on_of_nodup_map (keys_nodup_of_apart h) hc' hc hkey
  · exact List.inj_on_of_nodup_map hidentities hc' hc hidentity

/-! ## Locked rows -/

/-- The claim finds exactly its own row. -/
def FindsRow (rows : List StoredObject) (organizationId : String) (claim : StorageObjectClaim)
    (row : StoredObject) : Prop :=
  matchingRows rows organizationId claim = [row] ∧ row.claim = claim

theorem FindsRow.facts {rows : List StoredObject} {organizationId : String}
    {claim : StorageObjectClaim} {row : StoredObject}
    (h : FindsRow rows organizationId claim row) :
    row ∈ rows ∧ row.organizationId = organizationId ∧ row.objectKey = claim.objectKey := by
  obtain ⟨hrow, horganization, -⟩ := mem_matchingRows.mp (h.1 ▸ List.mem_singleton_self row)
  exact ⟨hrow, horganization, congrArg StorageObjectClaim.objectKey h.2⟩

/-- A row of the tenant under the key of the claim is the row the claim finds. -/
theorem FindsRow.eq {rows : List StoredObject} {organizationId : String}
    {claim : StorageObjectClaim} {row other : StoredObject}
    (h : FindsRow rows organizationId claim row) (hother : other ∈ rows)
    (horganization : other.organizationId = organizationId)
    (hkey : other.objectKey = claim.objectKey) : other = row := by
  have hmem : other ∈ matchingRows rows organizationId claim :=
    mem_matchingRows.mpr ⟨hother, horganization, .inl hkey⟩
  rwa [h.1, List.mem_singleton] at hmem

section Locked

variable {rows locked : List StoredObject} {organizationId : String}
  {claims : List StorageObjectClaim}

/-- The rows that share a key with one of the claims. -/
def sharesKey (organizationId : String) (claims : List StorageObjectClaim) (row : StoredObject) :
    Bool :=
  row.organizationId == organizationId && claims.any fun claim =>
    row.objectKey == claim.objectKey || row.idempotencyKey == claim.idempotencyKey

theorem filter_sharesKey {claim : StorageObjectClaim} (hclaim : claim ∈ claims) :
    (rows.filter (sharesKey organizationId claims)).filter (fun row =>
      row.objectKey == claim.objectKey || row.idempotencyKey == claim.idempotencyKey) =
      matchingRows rows organizationId claim := by
  unfold matchingRows
  rw [List.filter_filter]
  refine List.filter_congr fun row _ => ?_
  unfold sharesKey
  cases hmatch : (row.objectKey == claim.objectKey || row.idempotencyKey == claim.idempotencyKey)
  · simp
  · have hany : (claims.any fun other => row.objectKey == other.objectKey ||
        row.idempotencyKey == other.idempotencyKey) = true :=
      List.any_eq_true.mpr ⟨claim, hclaim, hmatch⟩
    rw [hany]
    simp

theorem lockedClaimRows_eq_ok :
    lockedClaimRows rows organizationId claims = .ok locked ↔
      (∀ c ∈ claims, ∃ row, FindsRow rows organizationId c row) ∧
        locked = (rows.filter (sharesKey organizationId claims)).insertionSort fun a b =>
          a.objectKey ≤ b.objectKey := by
  unfold lockedClaimRows
  simp only [bind_eq_ok, forEach_eq_ok, pure, Except.pure, Except.ok.injEq, exists_and_left,
    exists_const]
  refine and_congr (forall₂_congr fun c hc => ?_) eq_comm
  -- each claim finds its rows among all of the organization's
  have hfound : (rows.filter (sharesKey organizationId claims)).filter (fun row =>
      row.objectKey == c.objectKey || row.idempotencyKey == c.idempotencyKey) =
      matchingRows rows organizationId c := filter_sharesKey hc
  unfold sharesKey at hfound
  rw [hfound]
  unfold FindsRow
  split
  · rename_i row hmatch
    simp [hmatch, identityMatches_iff]
  · rename_i hmatch
    constructor
    · intro h
      cases h
    · rintro ⟨row, hrow, -⟩
      exact absurd hrow (hmatch row)

/-- The locked rows are those that the claims find. -/
theorem mem_lockedClaimRows (h : lockedClaimRows rows organizationId claims = .ok locked)
    {row : StoredObject} :
    row ∈ locked ↔ ∃ c ∈ claims, FindsRow rows organizationId c row := by
  obtain ⟨hall, rfl⟩ := lockedClaimRows_eq_ok.mp h
  rw [(List.perm_insertionSort _ _).mem_iff, List.mem_filter]
  simp only [sharesKey, Bool.and_eq_true, beq_iff_eq, List.any_eq_true, Bool.or_eq_true]
  constructor
  · rintro ⟨hrow, horganization, c, hc, hshares⟩
    obtain ⟨found, hfound⟩ := hall c hc
    have hmem : row ∈ matchingRows rows organizationId c :=
      mem_matchingRows.mpr ⟨hrow, horganization, hshares⟩
    rw [hfound.1, List.mem_singleton] at hmem
    exact ⟨c, hc, hmem ▸ hfound⟩
  · rintro ⟨c, hc, hfound⟩
    obtain ⟨hrow, horganization, hkey⟩ := hfound.facts
    exact ⟨hrow, horganization, c, hc, .inl hkey⟩

theorem lockedClaimRows_keys (h : lockedClaimRows rows organizationId claims = .ok locked)
    (hkeys : (rows.map StoredObject.objectKey).Nodup) :
    (locked.map StoredObject.objectKey).Nodup := by
  obtain ⟨-, rfl⟩ := lockedClaimRows_eq_ok.mp h
  have hperm := List.perm_insertionSort (fun a b : StoredObject => a.objectKey ≤ b.objectKey)
    (rows.filter (sharesKey organizationId claims))
  rw [(hperm.map _).nodup_iff]
  exact hkeys.sublist (List.filter_sublist.map _)

/-- The lookup of a claim by its key finds its row. -/
theorem find_lockedClaimRows (h : lockedClaimRows rows organizationId claims = .ok locked)
    (hkeys : (rows.map StoredObject.objectKey).Nodup) {claim : StorageObjectClaim}
    (hclaim : claim ∈ claims) {row : StoredObject} (hrow : FindsRow rows organizationId claim row) :
    (locked.find? fun row => row.objectKey == claim.objectKey) = some row := by
  refine find_of_nodup (lockedClaimRows_keys h hkeys)
    ((mem_lockedClaimRows h).mpr ⟨claim, hclaim, hrow⟩) fun other => ?_
  rw [beq_iff_eq, hrow.facts.2.2]

end Locked

/-! ## The flush -/

/-- A flush of the changed rows that meet a condition is one update under that condition. -/
theorem flushRows_eq {changed rows : List StoredObject} {p : StoredObject → Bool}
    {change : StoredObject → StoredObject} (hkeys : (rows.map StoredObject.objectKey).Nodup)
    (hkeep : KeepsIdentity change)
    (hchanged : ∀ new, new ∈ changed ↔ ∃ row ∈ rows, p row = true ∧ change row = new) :
    flushRows changed rows = Table.modify p change rows := by
  refine List.map_congr_left fun row hrow => ?_
  -- a changed row under the key of `row` is the change of `row` itself
  have hsame (new : StoredObject) (hnew : new ∈ changed)
      (hkey : new.objectKey = row.objectKey) : p row = true ∧ change row = new := by
    obtain ⟨source, hsource, hp, hchange⟩ := (hchanged new).mp hnew
    have hsourceKey : source.objectKey = row.objectKey := by
      rw [← hkeep.objectKey source, hchange, hkey]
    obtain rfl := List.inj_on_of_nodup_map hkeys hsource hrow hsourceKey
    exact ⟨hp, hchange⟩
  cases hfind : changed.find? fun other =>
      other.organizationId == row.organizationId && other.objectKey == row.objectKey with
  | some new =>
    have hfound := List.find?_some hfind
    simp only [Bool.and_eq_true, beq_iff_eq] at hfound
    obtain ⟨hp, hchange⟩ := hsame new (List.mem_of_find?_eq_some hfind) hfound.2
    rw [if_pos hp, hchange]
    rfl
  | none =>
    have hp : ¬p row = true := by
      intro hp
      have hnone := List.find?_eq_none.mp hfind _ ((hchanged _).mpr ⟨row, hrow, hp, rfl⟩)
      simp [hkeep.objectKey, hkeep.organizationId] at hnone
    rw [if_neg hp]
    rfl

end Custombuild.Storage
