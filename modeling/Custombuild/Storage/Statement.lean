/-
  Transactions on the ledger and the tables around it.  A transaction is a list of
  statements, all of them or none; the references it wrote are checked at its end, by the
  deferred trigger.  A run is a list of transactions and database restarts, in any order.

  Jobs and design versions are never deleted, and an update of a job keeps its design
  version; nothing deletes an organization or a project.
-/
import Custombuild.Lib.Along
import Custombuild.Storage.Capacity
import Custombuild.Storage.Recovery

namespace Custombuild.Storage

open Custombuild.Lib
open Custombuild.Jobs (JobStatus)

inductive Statement where
  | reserve (call : ReserveCall)
  | renew (call : RenewCall)
  | commit (call : CommitCall)
  | claimReap (call : ClaimReapCall)
  | finalizeReap (call : FinalizeReapCall)
  | attest (call : AttestCapacityCall)
  | invalidate (failureEvidenceSha256 : String) (now : Int)
  | beginMaintenance (token bucket : String) (databaseNow : Int)
  | renewMaintenance (token : String) (epoch databaseNow renewedAt : Int)
  | snapshotMaintenance (token : String) (epoch databaseNow : Int)
  | finishMaintenance (token : String) (epoch databaseNow : Int)
  | writeReference (reference : DomainReference)
  | deleteReference (table : ReferenceTable) (id : String)
  | insertJob (job : JobRow) (now : Int)
  | updateJob (organizationId id : String) (status : JobStatus) (leaseExpiresAt : Option Int)
      (now : Int)
  | insertOrganization (id : String)
  | insertProject (organizationId id : String)
  | insertDesignVersion (version : DesignVersionRow)

/-! ## Writes outside the ledger -/

/-- An insert of a reference, or an update of the one with its id. -/
def writeReference (db : Database) (reference : DomainReference) : Except StorageError Database := do
  require (db.storedObject reference.organizationId reference.objectKey).isSome
    (.foreignKeyViolation "stored_object")
  let others := db.references.filter fun other =>
    !(other.origin.table = reference.origin.table && other.id == reference.id)
  return { db with references := others ++ [reference] }

def deleteReference (db : Database) (table : ReferenceTable) (id : String) : Database :=
  { db with references := db.references.filter fun other =>
      !(other.origin.table = table && other.id == id) }

def insertJob (db : Database) (job : JobRow) (now : Int) : Except StorageError Database := do
  require (!db.generationJobs.any fun other => other.id == job.id)
    (.uniqueViolation "generation_jobs_pkey")
  enforceGenerationLiveness db job now
  return { db with generationJobs := db.generationJobs ++ [job] }

/-- The row of a job with a new state. -/
def JobRow.withState (job : JobRow) (status : JobStatus) (leaseExpiresAt : Option Int) : JobRow :=
  { job with status := status, leaseExpiresAt := leaseExpiresAt }

def updateJob (db : Database) (organizationId id : String) (status : JobStatus)
    (leaseExpiresAt : Option Int) (now : Int) : Except StorageError Database := do
  let isUpdated : JobRow → Bool := fun job => job.organizationId == organizationId && job.id == id
  forEach (fun job => enforceGenerationLiveness db (job.withState status leaseExpiresAt) now)
    (db.generationJobs.filter isUpdated)
  let change : JobRow → JobRow := fun job => job.withState status leaseExpiresAt
  return { db with generationJobs := Table.modify isUpdated change db.generationJobs }

def insertDesignVersion (db : Database) (version : DesignVersionRow) :
    Except StorageError Database := do
  require (!db.designVersions.any fun other => other.id == version.id)
    (.uniqueViolation "design_versions_pkey")
  return { db with designVersions := db.designVersions ++ [version] }

/-! ## Transactions -/

def execute (cluster : Cluster) (db : Database) : Statement → Except StorageError Database
  | .reserve call => (reserveBatch cluster db call).map Prod.fst
  | .renew call => renewBatch cluster db call
  | .commit call => commitBatch cluster db call
  | .claimReap call => (claimReap cluster db call).map Prod.fst
  | .finalizeReap call => finalizeReap cluster db call
  | .attest call => attestCapacity cluster db call
  | .invalidate sha256 now => invalidateCapacity db sha256 now
  | .beginMaintenance token bucket now => (beginMaintenance db token bucket now).map Prod.fst
  | .renewMaintenance token epoch now renewedAt => renewMaintenance db token epoch now renewedAt
  | .snapshotMaintenance token epoch now => (snapshotMaintenance db token epoch now).map fun _ => db
  | .finishMaintenance token epoch now => finishMaintenance db token epoch now
  | .writeReference reference => writeReference db reference
  | .deleteReference table id => .ok (deleteReference db table id)
  | .insertJob job now => insertJob db job now
  | .updateJob organizationId id status leaseExpiresAt now =>
    updateJob db organizationId id status leaseExpiresAt now
  | .insertOrganization id => .ok { db with organizations := db.organizations ++ [id] }
  | .insertProject organizationId id =>
    .ok { db with projects := db.projects ++ [(organizationId, id)] }
  | .insertDesignVersion version => insertDesignVersion db version

def executeAll (cluster : Cluster) : Database → List Statement → Except StorageError Database
  | db, [] => .ok db
  | db, statement :: statements => do
    let db ← execute cluster db statement
    executeAll cluster db statements

def Statement.writtenReference : Statement → Option DomainReference
  | .writeReference reference => some reference
  | _ => none

/-- A transaction: its statements, then the deferred check of the references it wrote. -/
def runTransaction (cluster : Cluster) (db : Database) (statements : List Statement) :
    Except StorageError Database := do
  let db ← executeAll cluster db statements
  forEach (enforceDomainReference db) (statements.filterMap Statement.writtenReference)
  return db

inductive Action where
  | transaction (statements : List Statement)
  /-- The next boot of the database, at least a microsecond after the last one. -/
  | restart (delay : Nat)

/-- A transaction that raises leaves the database as it was. -/
def step (cluster : Cluster) (action : Action) (db : Database) : Database :=
  match action with
  | .transaction statements =>
    match runTransaction cluster db statements with
    | .ok db' => db'
    | .error _ => db
  | .restart delay => { db with startedAt := db.startedAt + 1 + delay }

section Run

variable {cluster : Cluster}

/-- A property that every statement keeps is kept by a list of statements. -/
theorem executeAll_invariant {I : Database → Prop}
    (hstatement : ∀ {db db' statement}, execute cluster db statement = .ok db' → I db → I db')
    {db db' : Database} {statements : List Statement}
    (h : executeAll cluster db statements = .ok db') (hdb : I db) : I db' := by
  induction statements generalizing db with
  | nil =>
    cases h
    exact hdb
  | cons statement statements ih =>
    simp only [executeAll, bind_eq_ok] at h
    obtain ⟨middle, hfirst, hrest⟩ := h
    exact ih hrest (hstatement hfirst hdb)

/-- It is then kept by every action that keeps it at a restart. -/
theorem step_invariant {I : Database → Prop}
    (hstatement : ∀ {db db' statement}, execute cluster db statement = .ok db' → I db → I db')
    (hrestart : ∀ {db} {delay : Nat}, I db → I { db with startedAt := db.startedAt + 1 + delay })
    {db : Database} (h : I db) (action : Action) : I (step cluster action db) := by
  cases action with
  | restart delay => exact hrestart h
  | transaction statements =>
    simp only [step]
    split
    · rename_i db' hrun
      simp only [runTransaction, bind_eq_ok] at hrun
      obtain ⟨middle, hmiddle, _, -, hdb'⟩ := hrun
      cases hdb'
      exact executeAll_invariant hstatement hmiddle h
    · exact h

end Run

end Custombuild.Storage
