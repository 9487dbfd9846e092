/-
  Domain references.  Every reference that a transaction committed points at a committed row
  with exactly its identity: the deferred check establishes it, and nothing that a statement
  may do to the rows, the jobs or the design versions takes it away.
-/
import Custombuild.Storage.Backfilled
import Custombuild.Storage.Lifecycle

namespace Custombuild.Storage

open Custombuild.Lib

/-- The reference points at a committed row with exactly its identity. -/
def ReferenceOk (db : Database) (reference : DomainReference) : Prop :=
  ∃ identity, referenceIdentity db reference = some identity ∧
    ∃ row ∈ db.storedObjects, rowMatchesReference row reference identity = true

def ReferencesOk (db : Database) : Prop := ∀ reference ∈ db.references, ReferenceOk db reference

section Statements

variable {cluster : Cluster} {db db' : Database} {statement : Statement}
  {reference : DomainReference}

theorem enforceDomainReference_eq_ok {u : Unit} :
    enforceDomainReference db reference = .ok u ↔ ReferenceOk db reference := by
  simp only [enforceDomainReference, bind_eq_ok, demand_eq_ok, require_eq_ok, List.any_eq_true,
    ReferenceOk]

/-! ## Identities -/

/-- A project that a job was found to have is found again. -/
theorem execute_jobProject (houtside : statement.isOutside = true)
    (h : execute cluster db statement = .ok db') {organizationId jobId projectId : String}
    (hproject : db.jobProject organizationId jobId = some projectId) :
    db'.jobProject organizationId jobId = some projectId := by
  simp only [Database.jobProject, Option.bind_eq_bind, Option.bind_eq_some_iff] at hproject ⊢
  obtain ⟨job, hjob, version, hversion, hvalue⟩ := hproject
  cases statement <;> try cases houtside
  case snapshotMaintenance token epoch now =>
    cases hsnapshot : snapshotMaintenance db token epoch now <;>
      simp only [execute, hsnapshot, Except.map] at h <;> cases h
    exact ⟨job, hjob, version, hversion, hvalue⟩
  case writeReference reference =>
    obtain ⟨-, rfl⟩ := writeReference_cases h
    exact ⟨job, hjob, version, hversion, hvalue⟩
  case deleteReference table id =>
    cases h
    exact ⟨job, hjob, version, hversion, hvalue⟩
  case insertJob new now =>
    obtain ⟨-, -, rfl⟩ := insertJob_cases h
    refine ⟨job, ?_, version, hversion, hvalue⟩
    rw [List.find?_append, hjob, Option.some_or]
  case updateJob organizationId' id status leaseExpiresAt now =>
    obtain ⟨-, rfl⟩ := updateJob_cases h
    let updated := if isJob organizationId' id job then job.withState status leaseExpiresAt else job
    have hids : updated.organizationId = job.organizationId ∧
        updated.designVersionId = job.designVersionId := by
      simp only [updated]
      split
      · exact ⟨rfl, rfl⟩
      · exact ⟨rfl, rfl⟩
    refine ⟨updated, ?_, version, ?_, hvalue⟩
    · -- the update keeps the columns of the lookup
      have hcolumns : (fun other : JobRow => other.organizationId == organizationId &&
          other.id == jobId) ∘ (fun other : JobRow => if isJob organizationId' id other then
            other.withState status leaseExpiresAt else other) =
          fun other : JobRow => other.organizationId == organizationId && other.id == jobId := by
        funext other
        simp only [Function.comp_apply]
        split
        · rfl
        · rfl
      show List.find? _ (Table.modify _ _ db.generationJobs) = some updated
      unfold Table.modify
      rw [List.find?_map, hcolumns, hjob]
      rfl
    · rw [hids.1, hids.2]
      exact hversion
  case insertOrganization id =>
    cases h
    exact ⟨job, hjob, version, hversion, hvalue⟩
  case insertProject organizationId id =>
    cases h
    exact ⟨job, hjob, version, hversion, hvalue⟩
  case insertDesignVersion new =>
    obtain ⟨-, rfl⟩ := insertDesignVersion_cases h
    refine ⟨job, hjob, version, ?_, hvalue⟩
    rw [List.find?_append, hversion, Option.some_or]

/-- The identity a reference requires does not change once it is known. -/
theorem execute_referenceIdentity (h : execute cluster db statement = .ok db')
    (hdb : db.Consistent) {identity : ReferenceIdentity}
    (hidentity : referenceIdentity db reference = some identity) :
    referenceIdentity db' reference = some identity := by
  unfold referenceIdentity at hidentity ⊢
  cases horigin : reference.origin with
  | importedAsset projectId =>
    rw [horigin] at hidentity
    exact hidentity
  | externalEvidence projectId =>
    rw [horigin] at hidentity
    exact hidentity
  | artifact jobId kind =>
    simp only [horigin, Option.map_eq_some_iff] at hidentity ⊢
    obtain ⟨projectId, hproject, hvalue⟩ := hidentity
    refine ⟨projectId, ?_, hvalue⟩
    by_cases houtside : statement.isOutside = true
    · exact execute_jobProject houtside h hproject
    · have hsame := execute_sameDomain houtside h hdb
      unfold Database.jobProject
      rw [hsame.generationJobs, hsame.designVersions]
      exact hproject

/-! ## Rows -/

theorem rowMatchesReference_iff {row : StoredObject} {identity : ReferenceIdentity} :
    rowMatchesReference row reference identity = true ↔
      row.organizationId = reference.organizationId ∧ row.state = .committed ∧
        row.claim = ⟨identity.projectId, reference.objectKey, reference.sha256,
          reference.sizeBytes, reference.mediaType, identity.ownerType, identity.ownerId,
          identity.idempotencyKey⟩ := by
  simp only [rowMatchesReference, StoredObject.claim, Bool.and_eq_true, beq_iff_eq,
    decide_eq_true_eq, StorageObjectClaim.mk.injEq]
  constructor
  · rintro ⟨⟨⟨⟨⟨⟨⟨⟨⟨ho, hk⟩, hs⟩, hp⟩, hsha⟩, hsize⟩, hm⟩, hot⟩, hoi⟩, hi⟩
    exact ⟨ho, hs, hp, hk, hsha, hsize, hm, hot, hoi, hi⟩
  · rintro ⟨ho, hs, hp, hk, hsha, hsize, hm, hot, hoi, hi⟩
    exact ⟨⟨⟨⟨⟨⟨⟨⟨⟨ho, hk⟩, hs⟩, hp⟩, hsha⟩, hsize⟩, hm⟩, hot⟩, hoi⟩, hi⟩

/-- A statement that runs while the reference is in its table leaves it its row. -/
theorem execute_referenceOk (h : execute cluster db statement = .ok db') (hdb : db.Consistent)
    (hmem : reference ∈ db.references) (hok : ReferenceOk db reference) :
    ReferenceOk db' reference := by
  obtain ⟨identity, hidentity, row, hrow, hmatches⟩ := hok
  obtain ⟨horganization, hstate, hclaim⟩ := rowMatchesReference_iff.mp hmatches
  refine ⟨identity, execute_referenceIdentity h hdb hidentity, ?_⟩
  have hreferenced : db.isReferenced row.organizationId row.objectKey = true := by
    have hkey : row.objectKey = reference.objectKey := congrArg StorageObjectClaim.objectKey hclaim
    unfold Database.isReferenced
    rw [List.any_eq_true]
    exact ⟨reference, hmem, by simp [horganization, hkey]⟩
  rcases (execute_rowsStep h hdb).fate row hrow with ⟨row', hrow', hcontinues⟩ | ⟨tombstone, hretired⟩
  · refine ⟨row', hrow', rowMatchesReference_iff.mpr ⟨hcontinues.organization.trans horganization,
      ?_, hcontinues.claim.trans hclaim⟩⟩
    rcases hcontinues.moves with hsame | ⟨hreserved, -⟩ | ⟨-, hunreferenced, -⟩
    · exact hsame.trans hstate
    · rw [hstate] at hreserved
      cases hreserved
    · rw [hreferenced] at hunreferenced
      cases hunreferenced
  · have hreaping := hretired.reaping
    rw [hstate] at hreaping
    cases hreaping

/-- Every reference after a statement was there before it, or the statement wrote it. -/
theorem execute_references (h : execute cluster db statement = .ok db') (hdb : db.Consistent)
    (hmem : reference ∈ db'.references) :
    reference ∈ db.references ∨ statement.writtenReference = some reference := by
  by_cases hledger : ¬statement.isOutside = true
  · rw [(execute_sameDomain hledger h hdb).references] at hmem
    exact .inl hmem
  cases statement <;> try exact absurd (fun hfalse => Bool.noConfusion hfalse) hledger
  case snapshotMaintenance token epoch now =>
    cases hsnapshot : snapshotMaintenance db token epoch now <;>
      simp only [execute, hsnapshot, Except.map] at h <;> cases h
    exact .inl hmem
  case writeReference written =>
    obtain ⟨-, rfl⟩ := writeReference_cases h
    rcases List.mem_append.mp hmem with hold | hnew
    · exact .inl (List.mem_filter.mp hold).1
    · rw [List.mem_singleton.mp hnew]
      exact .inr rfl
  case deleteReference table id =>
    cases h
    exact .inl (List.mem_filter.mp hmem).1
  case insertJob job now =>
    obtain ⟨-, -, rfl⟩ := insertJob_cases h
    exact .inl hmem
  case updateJob organizationId id status leaseExpiresAt now =>
    obtain ⟨-, rfl⟩ := updateJob_cases h
    exact .inl hmem
  case insertOrganization id =>
    cases h
    exact .inl hmem
  case insertProject organizationId id =>
    cases h
    exact .inl hmem
  case insertDesignVersion version =>
    obtain ⟨-, rfl⟩ := insertDesignVersion_cases h
    exact .inl hmem

/-! ## Transactions -/

/-- Inside a transaction: the references it has written are not checked yet. -/
theorem executeAll_references {statements : List Statement} {unchecked : List DomainReference}
    (h : executeAll cluster db statements = .ok db') (hdb : db.Consistent)
    (hok : ∀ r ∈ db.references, r ∈ unchecked ∨ ReferenceOk db r) :
    ∀ r ∈ db'.references,
      r ∈ unchecked ++ statements.filterMap Statement.writtenReference ∨ ReferenceOk db' r := by
  induction statements generalizing db unchecked with
  | nil =>
    cases h
    simpa using hok
  | cons statement statements ih =>
    simp only [executeAll, bind_eq_ok] at h
    obtain ⟨middle, hfirst, hrest⟩ := h
    have hmiddle : ∀ r ∈ middle.references,
        r ∈ unchecked ++ [statement].filterMap Statement.writtenReference ∨
          ReferenceOk middle r := by
      intro r hr
      rcases execute_references hfirst hdb hr with hold | hwritten
      · rcases hok r hold with hunchecked | hmatches
        · exact .inl (List.mem_append_left _ hunchecked)
        · exact .inr (execute_referenceOk hfirst hdb hold hmatches)
      · refine .inl (List.mem_append_right _ ?_)
        simp [hwritten]
    have hnext := ih hrest (execute_consistent hfirst hdb) hmiddle
    rwa [List.append_assoc, ← List.filterMap_append, List.singleton_append] at hnext

/-- A transaction that commits leaves every reference with its row. -/
theorem runTransaction_references {statements : List Statement}
    (h : runTransaction cluster db statements = .ok db') (hdb : db.Consistent)
    (hok : ReferencesOk db) : ReferencesOk db' := by
  simp only [runTransaction, bind_eq_ok, forEach_eq_ok] at h
  obtain ⟨middle, hmiddle, _, hchecked, hdb'⟩ := h
  cases hdb'
  intro r hr
  have hstart : ∀ r ∈ db.references, r ∈ [] ∨ ReferenceOk db r := fun r hr => .inr (hok r hr)
  rcases executeAll_references hmiddle hdb hstart r hr with hwritten | hmatches
  · exact enforceDomainReference_eq_ok.mp (hchecked r hwritten)
  · exact hmatches

end Statements

/-! ## The migration -/

section Backfill

variable {now : Int} {db db' : Database}

/-- Rows of the backfill stay, and more are appended. -/
theorem backfillTenants_rows {organizationIds : List String}
    (h : backfillTenants now db organizationIds = .ok db') {row : StoredObject}
    (hrow : row ∈ db.storedObjects) : row ∈ db'.storedObjects := by
  induction organizationIds generalizing db with
  | nil =>
    cases h
    exact hrow
  | cons organizationId organizationIds ih =>
    simp only [backfillTenants, bind_eq_ok] at h
    obtain ⟨middle, htenant, hrest⟩ := h
    obtain ⟨legacy, hcases⟩ := backfillTenant_cases htenant
    refine ih hrest ?_
    rw [insertLegacyRows_eq hcases.inserted]
    exact List.mem_append_left _ hrow

/-- The identity of a reference rests on the jobs and the design versions alone. -/
theorem referenceIdentity_congr {reference : DomainReference}
    (hjobs : db'.generationJobs = db.generationJobs)
    (hversions : db'.designVersions = db.designVersions) :
    referenceIdentity db' reference = referenceIdentity db reference := by
  unfold referenceIdentity Database.jobProject
  rw [hjobs, hversions]

/-- Every reference of a tenant that was loaded has its row. -/
theorem backfillTenants_references {organizationIds : List String}
    (h : backfillTenants now db organizationIds = .ok db') {reference : DomainReference}
    (hmem : reference ∈ db.references) (hknown : reference.organizationId ∈ organizationIds) :
    ReferenceOk db' reference := by
  induction organizationIds generalizing db with
  | nil => cases hknown
  | cons organizationId organizationIds ih =>
    simp only [backfillTenants, bind_eq_ok] at h
    obtain ⟨middle, htenant, hrest⟩ := h
    obtain ⟨legacy, hcases⟩ := backfillTenant_cases htenant
    have hreferences := congrArg Database.references hcases.eq
    by_cases hother : reference.organizationId ∈ organizationIds
    · exact ih hrest (hreferences ▸ hmem) hother
    -- the reference belongs to the tenant loaded first
    have hown : reference.organizationId = organizationId := by
      rcases List.mem_cons.mp hknown with hown | hlater
      · exact hown
      · exact absurd hlater hother
    have hfiltered : reference ∈ db.references.filter fun r => r.organizationId == organizationId :=
      List.mem_filter.mpr ⟨hmem, by simpa using hown⟩
    obtain ⟨row, hrow, hvalid⟩ := collect_mem hcases.collected hfiltered
    obtain ⟨identity, hidentity, -, rfl⟩ := validatedLegacyRow_cases hvalid
    refine ⟨identity, ?_, legacyRow reference identity now, ?_, ?_⟩
    · have hframe := backfillTenants_frame hrest
      have hmiddleJobs := congrArg Database.generationJobs hcases.eq
      have hmiddleVersions := congrArg Database.designVersions hcases.eq
      have hjobs : db'.generationJobs = middle.generationJobs := by rw [hframe]
      have hversions : db'.designVersions = middle.designVersions := by rw [hframe]
      rw [referenceIdentity_congr (hjobs.trans hmiddleJobs) (hversions.trans hmiddleVersions)]
      exact hidentity
    · refine backfillTenants_rows hrest ?_
      rw [insertLegacyRows_eq hcases.inserted]
      exact List.mem_append_right _ hrow
    · exact rowMatchesReference_iff.mpr ⟨rfl, rfl, rfl⟩

theorem backfill_references {tables : LegacyTables} {startedAt : Int}
    (h : backfill tables startedAt now = .ok db) : ReferencesOk db := by
  obtain ⟨loaded, hloaded, rfl⟩ := backfill_cases h
  have hframe := congrArg Database.references (backfillTenants_frame hloaded)
  intro reference hmem
  have hmem' : reference ∈ tables.references := by
    have hloadedMem : reference ∈ loaded.references := hmem
    rw [hframe] at hloadedMem
    exact hloadedMem
  have hknown := tables.references_known reference hmem'
  exact backfillTenants_references hloaded hmem' (List.mem_dedup.mpr hknown)

end Backfill

end Custombuild.Storage
