/-
  The transactions on generation jobs: the worker's claim, heartbeat, completion and failure,
  the scheduler's recovery and dispatch, and the API's enqueue, requeue and overdue check.
  Each returns the world after its commit, or raises, in which case nothing is written.
  Source: `custombuild_worker.tasks` and `generate_version`, `get_job` of `app.api`.

  Calls that do not touch these rows (the storage ledger, the evidence gate, the retention
  gate) are arguments that say how they ended.
-/
import Mathlib.Algebra.Group.Int.Defs
import Mathlib.Data.List.Dedup
import Custombuild.Jobs.Model

namespace Custombuild.Jobs

open Custombuild.Lib Custombuild.Manufacturing

/-- `uuid.uuid5`, the name-based UUID in a namespace. -/
structure Environment where
  uuid5 : Uuid → String → Uuid

/-! ## Claim and heartbeat -/

/-- The row of a job that was just claimed. -/
def claimedRow (job : GenerationJob) (token : Uuid) (now : Int) : GenerationJob :=
  { job with
    status := .running
    leaseToken := some token
    startedAt := some now
    leaseExpiresAt := some (now + generationLeaseTtl)
    nextAttemptAt := none
    deadlineAt := some (job.deadlineAt.getD (now + generationJobTimeout))
    finishedAt := none
    attempts := job.attempts + 1
    error := none }

/-- `_claim_job`; returns whether the job was claimed with the new token. -/
def claimJob (world : World) (jobId organizationId token : Uuid) (now : Int)
    (versionFound : Bool) : Except JobError (World × Bool) :=
  match findJob world jobId organizationId with
  | none => .ok (world, false)
  | some job =>
    if job.status ≠ .queued then .ok (world, false)
    else if deadlineIsExpired job now then
      .ok (world.setJob jobId (terminalizeDeadline job now), false)
    else if maxGenerationAttempts ≤ job.attempts then
      .ok (world.setJob jobId (terminalizeAttemptBudget job now), false)
    else if job.nextAttemptAt.any (fun next => now < next) then .ok (world, false)
    else if !versionFound then
      .error (.runtime "Generation job references a missing tenant design version")
    else .ok (world.setJob jobId (claimedRow job token now), true)

/-- `_renew_job_lease`. -/
def renewJobLease (world : World) (jobId organizationId token : Uuid) (now : Int) :
    World × Bool :=
  match findOwnedJob world jobId organizationId token with
  | none => (world, false)
  | some job =>
    if !leaseIsLive job now then (world, false)
    else if deadlineIsExpired job now then (world, false)
    else
      (world.setJob jobId { job with leaseExpiresAt := some (now + generationLeaseTtl) }, true)

/-! ## Completion -/

/-- `_generation_attempt_id`. -/
def generationAttemptId (env : Environment) (jobId token : Uuid) : Uuid :=
  env.uuid5 jobId ("storage-attempt:" ++ token.text)

/-- `_generation_artifact_id` of a canonical kind. -/
def generationArtifactId (env : Environment) (attemptId : Uuid) (kind : String) : Uuid :=
  env.uuid5 attemptId kind

def isDigest (text : String) : Bool :=
  (charsOf text).length == 64 && (charsOf text).all isLowerHex

def validRecord (record : ArtifactRecord) : Bool :=
  record.kind ≠ "" && record.objectKey ≠ "" && isDigest record.sha256 &&
    record.contentType ≠ "" && validArtifactSize record.kind record.sizeBytes

def inventoryInvalid : JobError :=
  .productionBlocked "generation result artifact inventory is invalid"

def evidenceInvalid : JobError :=
  .productionBlocked "generation result evidence inventory is invalid"

def coreRecords (result : GenerationResult) : List ArtifactRecord := [
  ⟨"production_bundle", result.bundleObjectKey, result.bundleSha256, "application/zip",
    result.bundleSizeBytes⟩,
  ⟨"manifest", result.manifestObjectKey, result.manifestSha256, "application/json",
    result.manifestSizeBytes⟩]

/-- The evidence loop: each item is valid, new in kind and key, and within the total. -/
def appendEvidence (records : List ArtifactRecord) (total : Int) :
    List ArtifactRecord → Except JobError (List ArtifactRecord)
  | [] => .ok records
  | item :: items => do
    require (validRecord item) evidenceInvalid
    require (!(records.any fun record =>
      record.kind == item.kind || record.objectKey == item.objectKey)) evidenceInvalid
    require (total + item.sizeBytes ≤ maxEvidenceTotalBytes) evidenceInvalid
    appendEvidence (records ++ [item]) (total + item.sizeBytes) items

/-- The artifact inventory of a result, checked as a whole. -/
def artifactRecords (job : GenerationJob) (result : GenerationResult) :
    Except JobError (List ArtifactRecord) := do
  require (result.productionEngineContextHash = some job.engineContextHash)
    (.productionBlocked
      "generation result is not bound to the persisted production engine context")
  let records := coreRecords result
  require (records.all validRecord) inventoryInvalid
  let evidence ← demand result.evidence evidenceInvalid
  require (evidence.length ≤ maxEvidenceArtifacts) evidenceInvalid
  require (result.bundleObjectKey ≠ result.manifestObjectKey) inventoryInvalid
  appendEvidence records 0 evidence

/-- Insert the artifact of one record, or find exactly it already there. -/
def recordArtifact (env : Environment) (jobId organizationId token : Uuid) (world : World)
    (record : ArtifactRecord) : Except JobError World := do
  require (isCanonicalText record.kind)
    (.productionBlocked "generation artifact kind is not canonical")
  let artifactId := generationArtifactId env (generationAttemptId env jobId token) record.kind
  let existing := world.artifacts.find? fun artifact =>
    artifact.generationJobId = jobId ∧ artifact.organizationId = organizationId ∧
      artifact.kind = record.kind
  match existing with
  | none =>
    let artifact : Artifact :=
      ⟨artifactId, organizationId, jobId, record.kind, record.objectKey, record.sha256,
        record.sizeBytes, record.contentType⟩
    return { world with artifacts := world.artifacts ++ [artifact] }
  | some artifact =>
    require (artifact.id = artifactId && artifact.sha256 = record.sha256 &&
        artifact.objectKey = record.objectKey)
      (.runtime ("non-deterministic " ++ record.kind ++
        " artifact detected for generation job " ++ jobId.text))
    return world

def recordArtifacts (env : Environment) (jobId organizationId token : Uuid) :
    World → List ArtifactRecord → Except JobError World
  | world, [] => .ok world
  | world, record :: records => do
    let world ← recordArtifact env jobId organizationId token world record
    recordArtifacts env jobId organizationId token world records

/-- How the calls of a completion into other subsystems ended. -/
structure CompletionCalls where
  storageClaimed : Bool
  storageCommitted : Bool
  evidenceValid : Bool

/-- The row of a completed job. -/
def succeededRow (job : GenerationJob) (result : GenerationResult) (completedAt : Int) :
    GenerationJob :=
  { job with
    result := some result
    status := .succeeded
    leaseToken := none
    leaseExpiresAt := none
    nextAttemptAt := none
    finishedAt := some completedAt }

/-- `_complete_job`, with the clock readings at its start and before its commit. -/
def completeJob (env : Environment) (world : World) (jobId organizationId token : Uuid)
    (completedAt fenceAt : Int) (result : GenerationResult) (calls : CompletionCalls) :
    Except JobError (World × Bool) :=
  match findOwnedJob world jobId organizationId token with
  | none => .ok (world, false)
  | some job =>
    if deadlineIsExpired job completedAt then
      .ok (world.setJob jobId (terminalizeDeadline job completedAt), false)
    else if !leaseIsLive job completedAt then .ok (world, false)
    else if maxGenerationAttempts < job.attempts then
      .ok (world.setJob jobId (terminalizeAttemptBudget job completedAt), false)
    else do
      let records ← artifactRecords job result
      require calls.storageClaimed (.productionBlocked "generation storage inventory is invalid")
      let world ← recordArtifacts env jobId organizationId token world records
      require calls.storageCommitted (.productionBlocked
        "generation storage reservation could not be committed exactly")
      require calls.evidenceValid (.productionBlocked
        "generated artifact evidence failed the canonical completion gate")
      require (!deadlineIsExpired job fenceAt) (.deadlineExceeded
        "Generation completion crossed the server execution deadline")
      require (leaseIsLive job fenceAt) (.leaseOwnershipLost
        "generation completion lease expired before the success commit")
      return (world.setJob jobId (succeededRow job result completedAt), true)

/-! ## Failure -/

/-- The exception a worker reports. -/
structure WorkerFailure where
  text : String
  immediateTerminal : Bool

/-- `_record_failure`. -/
def recordFailure (world : World) (jobId organizationId token : Uuid) (failure : WorkerFailure)
    (terminal : Bool) (failedAt retryAfterSeconds : Int) :
    Except JobError (World × Option JobStatus) := do
  require (0 ≤ retryAfterSeconds)
    (.runtime "retry_after_seconds must be a non-negative integer")
  match findOwnedJob world jobId organizationId token with
  | none => return (world, none)
  | some job =>
    if deadlineIsExpired job failedAt then
      return (world.setJob jobId (terminalizeDeadline job failedAt), some .failed)
    else if terminal || maxGenerationAttempts ≤ job.attempts || failure.immediateTerminal then
      return (world.setJob jobId
        (terminalize job (String.ofList (failure.text.toList.take 4000)) failedAt), some .failed)
    else
      let retryAt := failedAt + retryAfterSeconds * secondUs
      let row : GenerationJob :=
        { job with
          status := .queued
          leaseToken := none
          leaseExpiresAt := none
          error := some (String.ofList (failure.text.toList.take 4000))
          finishedAt := none
          startedAt := none
          nextAttemptAt := some retryAt }
      let world ← insertEvent (world.setJob jobId row)
        (generationRequest (.retry jobId job.attempts) jobId organizationId retryAt none)
      return (world, some .queued)

/-! ## Recovery -/

/-- `_recover_stale_job`: the new row, and whether a recovery event goes with it. -/
def recoverStaleJob (job : GenerationJob) (now : Int) : GenerationJob × Bool :=
  if deadlineIsExpired job now then (terminalizeDeadline job now, false)
  else if leaseIsLive job now then (job, false)
  else if maxGenerationAttempts ≤ job.attempts then
    (terminalize job ("Stale worker lease exhausted the maximum of " ++
      toString maxGenerationAttempts ++ " generation attempts") now, false)
  else
    ({ job with
        status := .queued
        leaseToken := none
        leaseExpiresAt := none
        nextAttemptAt := some now
        error := some "Recovered after stale worker lease"
        startedAt := none
        finishedAt := none }, true)

/-- An event that still has to be published for the job, other than the given one. -/
def hasPendingEvent (world : World) (job : GenerationJob) (jobId : Uuid) (key : EventKey) : Bool :=
  world.outbox.any fun event =>
    event.organizationId = job.organizationId && event.eventKey.text ≠ key.text &&
      event.topic = "generation.requested" && event.dispatchedAt.isNone &&
      event.deadLetteredAt.isNone && event.payload.jobId = jobId &&
      event.payload.organizationId = job.organizationId

def redelivered (event : OutboxEvent) (now : Int) : OutboxEvent :=
  { event with
    dispatchedAt := none
    availableAt := now
    lastError := some ("Broker acknowledgement was not followed by a generation claim; " ++
      "a bounded delivery retry was scheduled.") }

/-- Change the row with a given event key. -/
def World.updateEvent (world : World) (key : EventKey) (change : OutboxEvent → OutboxEvent) :
    World :=
  { world with outbox := world.outbox.map fun event =>
      if event.eventKey.text = key.text then change event else event }

/-- `_recover_unclaimed_queued_delivery`. -/
def recoverUnclaimedQueuedDelivery (world : World) (jobId : Uuid) (job : GenerationJob)
    (now : Int) : Except JobError World :=
  match job.deadlineAt, job.nextAttemptAt with
  | none, _ => .ok (world.setJob jobId (terminalizeDeliveryWatchdogInvariant job now))
  | some _, nextAttemptAt =>
    if deadlineIsExpired job now then .ok (world.setJob jobId (terminalizeDeadline job now))
    else if maxGenerationAttempts ≤ job.attempts then
      .ok (world.setJob jobId (terminalizeAttemptBudget job now))
    else match nextAttemptAt with
    | none => .ok (world.setJob jobId (terminalizeDeliveryWatchdogInvariant job now))
    | some next =>
      if now < next then .ok world
      else
        let key := EventKey.deliveryWatchdog jobId
        let payload : EventPayload := ⟨jobId, job.organizationId, none⟩
        let watchdog := world.outbox.find? fun event =>
          event.organizationId = job.organizationId && event.eventKey.text = key.text
        match watchdog with
        | none =>
          if hasPendingEvent world job jobId key then .ok world
          else insertEvent world (generationRequest key jobId job.organizationId now none)
        | some event =>
          if event.topic ≠ "generation.requested" || event.payload ≠ payload ||
              event.deadLetteredAt.isSome then
            .ok (world.setJob jobId (terminalizeDeliveryWatchdogInvariant job now))
          else if event.dispatchedAt.isNone then .ok world
          else if hasPendingEvent world job jobId key then .ok world
          else .ok (world.updateEvent key fun event => redelivered event now)

/-- The rows `recover_stale_jobs` selects. -/
def isRecoverable (job : GenerationJob) (now : Int) : Bool :=
  deadlineIsExpired job now && !job.status.isTerminal ||
    job.status = .queued && (maxGenerationAttempts ≤ job.attempts || job.deadlineAt.isNone ||
      job.nextAttemptAt.isNone || job.nextAttemptAt.any fun next => next ≤ now) ||
    job.status = .running && (job.leaseExpiresAt.any (fun expiresAt => expiresAt ≤ now) ||
      job.leaseExpiresAt.isNone &&
        job.startedAt.any fun startedAt => startedAt < now - legacyStaleLeaseThreshold)

/-- One job of a recovery transaction. -/
def recoverJob (organizationId : Uuid) (now : Int) (world : World) (jobId : Uuid) :
    Except JobError World :=
  match findJob world jobId organizationId with
  | none => .ok world
  | some job =>
    if !isRecoverable job now then .ok world
    else if job.status = .queued then recoverUnclaimedQueuedDelivery world jobId job now
    else
      let (row, recovered) := recoverStaleJob job now
      if recovered then
        insertEvent (world.setJob jobId row) (generationRequest (.recovery jobId job.attempts)
          jobId organizationId now none)
      else .ok (world.setJob jobId row)

/-- `recover_stale_jobs` for one tenant: the selected rows in one transaction. -/
def recoverStaleJobs (organizationId : Uuid) (now : Int) :
    World → List Uuid → Except JobError World
  | world, [] => .ok world
  | world, jobId :: jobIds => do
    let world ← recoverJob organizationId now world jobId
    recoverStaleJobs organizationId now world jobIds

/-! ## API -/

/-- The first enqueue of `generate_version`. -/
def enqueueJob (world : World) (jobId organizationId : Uuid) (engineContextHash : String)
    (queuedAt : Int) : Except JobError World :=
  match world.jobs jobId with
  | some _ => .error .duplicateJob
  | none =>
    let row : GenerationJob :=
      ⟨organizationId, engineContextHash, .queued, 0, none, none,
        some (queuedAt + generationJobTimeout), some queuedAt, none, none, none, none⟩
    insertEvent (world.setJob jobId row)
      (generationRequest (.requested jobId) jobId organizationId queuedAt none)

/-- The checks of `generate_version` that decide whether an existing job is requeued. -/
structure RequeueChecks where
  storageReady : Bool
  contextCurrent : Bool
  evidenceComplete : Bool
  latestJob : Bool

/-- The row of a requeued job: a fresh attempt budget and a fresh deadline. -/
def requeuedRow (job : GenerationJob) (startedAt : Int) : GenerationJob :=
  { job with
    status := .queued
    attempts := 0
    leaseToken := none
    leaseExpiresAt := none
    nextAttemptAt := some startedAt
    deadlineAt := some (startedAt + generationJobTimeout)
    error := none
    result := none
    startedAt := none
    finishedAt := none }

/-- `generate_version` on an existing job: the manual retry of a failed one and the evidence
    repair of a succeeded one. -/
def requeueJob (world : World) (jobId organizationId nonce : Uuid) (startedAt : Int)
    (checks : RequeueChecks) : Except JobError (World × Bool) :=
  match findJob world jobId organizationId with
  | none => .ok (world, false)
  | some job =>
    match job.status with
    | .failed => do
      require checks.storageReady (.conflict "generation storage retry is busy")
      let world ← insertEvent
        ((world.deleteArtifacts jobId organizationId).setJob jobId (requeuedRow job startedAt))
        (generationRequest (.manualRetry nonce) jobId organizationId startedAt none)
      return (world, true)
    | .succeeded => do
      require checks.contextCurrent (.conflict "generation context is not current")
      if checks.evidenceComplete then return (world, false)
      else
        require checks.latestJob (.conflict ("Only the latest generation job can be repaired; " ++
          "restore the current production state"))
        require checks.storageReady (.conflict "generation storage retry is busy")
        let world ← insertEvent
          ((world.deleteArtifacts jobId organizationId).setJob jobId (requeuedRow job startedAt))
          (generationRequest (.evidenceRepair jobId nonce) jobId organizationId startedAt
            (some "incomplete_review_evidence"))
        return (world, true)
    | _ => .ok (world, false)

/-- `get_job`: an overdue job becomes failed when it is read. -/
def expireOverdueJob (world : World) (jobId organizationId : Uuid) (now : Int) : World :=
  match findJob world jobId organizationId with
  | none => world
  | some job =>
    if !job.status.isTerminal && deadlineIsExpired job now then
      world.setJob jobId (terminalizeDeadline job now)
    else world

/-! ## Dispatch -/

/-- `_outbox_publish_backoff`. -/
def outboxPublishBackoff (attempts : Nat) : Int :=
  min (2 * 2 ^ min (attempts - 1) 30) 60 * secondUs

/-- `_dispatch_tenant_outbox_events` on one event. -/
def dispatchEvent (event : OutboxEvent) (now : Int) (published : Bool) : OutboxEvent :=
  if now < event.availableAt then event
  else if event.topic ≠ "generation.requested" then
    { event with
      attempts := event.attempts + 1
      deadLetteredAt := some now
      lastError := some "Unsupported outbox topic; event was dead-lettered." }
  else if event.payload.organizationId ≠ event.organizationId then
    { event with
      attempts := event.attempts + 1
      deadLetteredAt := some now
      lastError := some
        "Malformed or cross-tenant generation request payload; event was dead-lettered." }
  else if published then
    { event with dispatchedAt := some now, attempts := event.attempts + 1, lastError := none }
  else
    { event with
      attempts := event.attempts + 1
      availableAt := now + outboxPublishBackoff (event.attempts + 1)
      lastError := some "Broker publish failed; a durable bounded-backoff retry is scheduled." }

/-- `dispatch_outbox` on the event with a given key, when it is still pending. -/
def dispatchOutbox (world : World) (key : EventKey) (now : Int) (published : Bool) : World :=
  world.updateEvent key fun event =>
    if event.dispatchedAt.isNone && event.deadLetteredAt.isNone then
      dispatchEvent event now published
    else event

/-! ## Runs -/

inductive Action where
  | enqueue (jobId organizationId : Uuid) (engineContextHash : String) (now : Int)
  | claim (jobId organizationId token : Uuid) (now : Int) (versionFound : Bool)
  | renew (jobId organizationId token : Uuid) (now : Int)
  | complete (jobId organizationId token : Uuid) (completedAt fenceAt : Int)
      (result : GenerationResult) (calls : CompletionCalls)
  | recordFailure (jobId organizationId token : Uuid) (failure : WorkerFailure)
      (terminal : Bool) (failedAt retryAfterSeconds : Int)
  | recover (organizationId : Uuid) (now : Int) (jobIds : List Uuid)
  | requeue (jobId organizationId nonce : Uuid) (now : Int) (checks : RequeueChecks)
  | expire (jobId organizationId : Uuid) (now : Int)
  | dispatch (key : EventKey) (now : Int) (published : Bool)

/-- The transaction of an action. -/
def attempt (env : Environment) (action : Action) (world : World) : Except JobError World :=
  match action with
  | .enqueue jobId org hash now => enqueueJob world jobId org hash now
  | .claim jobId org token now found => (claimJob world jobId org token now found).map Prod.fst
  | .renew jobId org token now => .ok (renewJobLease world jobId org token now).1
  | .complete jobId org token completedAt fenceAt result calls =>
    (completeJob env world jobId org token completedAt fenceAt result calls).map Prod.fst
  | .recordFailure jobId org token failure terminal failedAt retryAfter =>
    (recordFailure world jobId org token failure terminal failedAt retryAfter).map Prod.fst
  -- the query returns each row once
  | .recover org now jobIds => recoverStaleJobs org now world jobIds.dedup
  | .requeue jobId org nonce now checks =>
    (requeueJob world jobId org nonce now checks).map Prod.fst
  | .expire jobId org now => .ok (expireOverdueJob world jobId org now)
  | .dispatch key now published => .ok (dispatchOutbox world key now published)

/-- A raising transaction is rolled back. -/
def step (env : Environment) (action : Action) (world : World) : World :=
  match attempt env action world with
  | .ok next => next
  | .error _ => world

end Custombuild.Jobs
