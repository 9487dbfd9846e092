/-
  Generation jobs, their transactional outbox and their artifacts: the rows the API and the
  worker share.  Times are microseconds; a database clock reading is an argument of the
  transaction that takes it, and nothing relates two readings.

  Not modelled: `updated_at`, so that the delivery watchdog may look at a queued job at any
  time, and the audit rows.
-/
import Custombuild.Lib.Uuid
import Custombuild.Lib.Checked
import Custombuild.Manufacturing.Model

namespace Custombuild.Jobs

open Custombuild.Lib

inductive JobStatus where
  | queued
  | running
  | succeeded
  | failed
  | cancelled
deriving DecidableEq

/-- `TERMINAL_JOB_STATUSES`. -/
def JobStatus.isTerminal : JobStatus → Bool
  | .succeeded | .failed | .cancelled => true
  | .queued | .running => false

def maxGenerationAttempts : Nat := 4

def secondUs : Int := 1000000

def generationLeaseTtl : Int := 120 * secondUs

def generationJobTimeout : Int := 7200 * secondUs

def legacyStaleLeaseThreshold : Int := 1800 * secondUs

/-! ## Rows -/

/-- One stored artifact of a generation result. -/
structure ArtifactRecord where
  kind : String
  objectKey : String
  sha256 : String
  contentType : String
  sizeBytes : Int

/-- The worker's result; `evidence` is `none` when the value is not a list. -/
structure GenerationResult where
  productionEngineContextHash : Option String
  bundleObjectKey : String
  bundleSha256 : String
  bundleSizeBytes : Int
  manifestObjectKey : String
  manifestSha256 : String
  manifestSizeBytes : Int
  evidence : Option (List ArtifactRecord)

/-- A row of `generation_jobs` without its primary key.  `engineContextHash` is the digest of
    the canonical `production_engine_context_json`. -/
structure GenerationJob where
  organizationId : Uuid
  engineContextHash : String
  status : JobStatus
  attempts : Nat
  leaseToken : Option Uuid
  leaseExpiresAt : Option Int
  deadlineAt : Option Int
  nextAttemptAt : Option Int
  error : Option String
  result : Option GenerationResult
  startedAt : Option Int
  finishedAt : Option Int

/-- The event keys of generation requests, one constructor for each place that makes one. -/
inductive EventKey where
  | requested (job : Uuid)
  | manualRetry (nonce : Uuid)
  | evidenceRepair (job nonce : Uuid)
  | retry (job : Uuid) (attempts : Nat)
  | recovery (job : Uuid) (attempts : Nat)
  | deliveryWatchdog (job : Uuid)
deriving DecidableEq

def EventKey.text : EventKey → String
  | .requested job => "generation:" ++ job.text
  | .manualRetry nonce => "generation-manual-retry:" ++ nonce.text
  | .evidenceRepair job nonce => "generation-evidence-repair:" ++ job.text ++ ":" ++ nonce.text
  | .retry job attempts => "generation-retry:" ++ job.text ++ ":" ++ toString attempts
  | .recovery job attempts => "generation-recovery:" ++ job.text ++ ":" ++ toString attempts
  | .deliveryWatchdog job => "generation-delivery-watchdog:" ++ job.text

structure EventPayload where
  jobId : Uuid
  organizationId : Uuid
  reason : Option String
deriving DecidableEq

structure OutboxEvent where
  organizationId : Uuid
  eventKey : EventKey
  topic : String
  payload : EventPayload
  availableAt : Int
  dispatchedAt : Option Int
  deadLetteredAt : Option Int
  lastError : Option String
  attempts : Nat

structure Artifact where
  id : Uuid
  organizationId : Uuid
  generationJobId : Uuid
  kind : String
  objectKey : String
  sha256 : String
  sizeBytes : Int
  contentType : String

structure World where
  jobs : Uuid → Option GenerationJob
  outbox : List OutboxEvent
  artifacts : List Artifact

def World.empty : World := ⟨fun _ => none, [], []⟩

inductive JobError where
  | uniqueViolation (key : EventKey)
  | duplicateJob
  | runtime (message : String)
  | productionBlocked (message : String)
  | deadlineExceeded (message : String)
  | leaseOwnershipLost (message : String)
  | conflict (detail : String)
deriving DecidableEq

/-! ## Table access -/

def World.setJob (world : World) (id : Uuid) (job : GenerationJob) : World :=
  { world with jobs := fun other => if other = id then some job else world.jobs other }

@[simp] theorem setJob_jobs_self (world : World) (id : Uuid) (job : GenerationJob) :
    (world.setJob id job).jobs id = some job := by
  simp [World.setJob]

@[simp] theorem setJob_jobs_of_ne {world : World} {id other : Uuid} {job : GenerationJob}
    (h : other ≠ id) : (world.setJob id job).jobs other = world.jobs other := by
  simp [World.setJob, h]

/-- `SELECT … WHERE id = … AND organization_id = … FOR UPDATE`. -/
def findJob (world : World) (id organizationId : Uuid) : Option GenerationJob :=
  (world.jobs id).filter fun job => job.organizationId = organizationId

/-- The same query restricted to a running job with exactly this lease token. -/
def findOwnedJob (world : World) (id organizationId token : Uuid) : Option GenerationJob :=
  (findJob world id organizationId).filter fun job =>
    job.status = .running ∧ job.leaseToken = some token

theorem findJob_eq_some {world : World} {id organizationId : Uuid} {job : GenerationJob} :
    findJob world id organizationId = some job ↔
      world.jobs id = some job ∧ job.organizationId = organizationId := by
  simp [findJob, Option.filter_eq_some_iff]

theorem findOwnedJob_eq_some {world : World} {id organizationId token : Uuid}
    {job : GenerationJob} :
    findOwnedJob world id organizationId token = some job ↔
      world.jobs id = some job ∧ job.organizationId = organizationId ∧
        job.status = .running ∧ job.leaseToken = some token := by
  simp [findOwnedJob, Option.filter_eq_some_iff, findJob_eq_some, and_assoc]

/-- An insert into `outbox_events`, whose `event_key` is unique. -/
def insertEvent (world : World) (event : OutboxEvent) : Except JobError World :=
  if world.outbox.any fun row => row.eventKey.text == event.eventKey.text then
    .error (.uniqueViolation event.eventKey)
  else .ok { world with outbox := world.outbox ++ [event] }

/-- The event every transition inserts to have a job generated. -/
def generationRequest (key : EventKey) (jobId organizationId : Uuid) (availableAt : Int)
    (reason : Option String) : OutboxEvent where
  organizationId := organizationId
  eventKey := key
  topic := "generation.requested"
  payload := ⟨jobId, organizationId, reason⟩
  availableAt := availableAt
  dispatchedAt := none
  deadLetteredAt := none
  lastError := none
  attempts := 0

def World.deleteArtifacts (world : World) (jobId organizationId : Uuid) : World :=
  { world with artifacts := world.artifacts.filter fun artifact =>
      !(artifact.organizationId = organizationId && artifact.generationJobId = jobId) }

/-! ## Leases and deadlines -/

/-- `_lease_is_live`. -/
def leaseIsLive (job : GenerationJob) (now : Int) : Bool :=
  job.leaseExpiresAt.any fun expiresAt => now < expiresAt

/-- `_deadline_is_expired`. -/
def deadlineIsExpired (job : GenerationJob) (now : Int) : Bool :=
  job.deadlineAt.any fun deadlineAt => deadlineAt ≤ now

def terminalize (job : GenerationJob) (error : String) (now : Int) : GenerationJob :=
  { job with
    status := .failed
    leaseToken := none
    leaseExpiresAt := none
    nextAttemptAt := none
    error := some error
    finishedAt := some now }

/-- `_terminalize_deadline`. -/
def terminalizeDeadline (job : GenerationJob) (now : Int) : GenerationJob :=
  terminalize job "Generation job exceeded the server deadline of 120 minutes" now

/-- `_terminalize_attempt_budget`. -/
def terminalizeAttemptBudget (job : GenerationJob) (now : Int) : GenerationJob :=
  terminalize job ("Generation job exhausted the maximum of " ++ toString maxGenerationAttempts
    ++ " attempts") now

/-- `_terminalize_delivery_watchdog_invariant`. -/
def terminalizeDeliveryWatchdogInvariant (job : GenerationJob) (now : Int) : GenerationJob :=
  terminalize job "Queued generation delivery watchdog state is invalid" now

/-! ## Artifact limits -/

def readinessStatusKinds : List String :=
  ["workshop_readiness", "design_review_package_status", "assembly_readiness",
    "cad_interchange_status"]

def coreDocumentKinds : List String :=
  ["manifest", "dfm_report", "stock_selection", "generation_plan", "manufacturing_intent",
    "operations", "supplier_handoff", "source_provenance"]

/-- `artifact_size_limit`. -/
def artifactSizeLimit (kind : String) : Int :=
  if readinessStatusKinds.contains kind then 64 * 1024
  else if coreDocumentKinds.contains kind || "setup_sheet_".isPrefixOf kind then
    3 * 1024 * 1024
  else if kind = "catalog_source" then 20 * 1024 * 1024
  else 32 * 1024 * 1024

/-- `valid_artifact_size`. -/
def validArtifactSize (kind : String) (sizeBytes : Int) : Bool :=
  0 < sizeBytes && sizeBytes ≤ artifactSizeLimit kind

def maxEvidenceArtifacts : Nat := 512

def maxEvidenceTotalBytes : Int := 96 * 1024 * 1024

end Custombuild.Jobs
