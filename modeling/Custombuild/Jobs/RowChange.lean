/-
  What one transaction can do to the row of one job.  `rowChange_attempt` lists the changes
  once; every invariant of the job state machine is a case analysis over them.
-/
import Custombuild.Jobs.Transactions

namespace Custombuild.Jobs

open Custombuild.Lib

/-- The change of the row of `jobId` by an action. -/
inductive RowChange (action : Action) (jobId : Uuid) :
    Option GenerationJob → Option GenerationJob → Prop where
  | kept (row : Option GenerationJob) : RowChange action jobId row row
  | enqueued (job : GenerationJob) (hstatus : job.status = .queued) (hattempts : job.attempts = 0)
      (htoken : job.leaseToken = none) (hexpires : job.leaseExpiresAt = none) :
      RowChange action jobId none (some job)
  | claimed (job : GenerationJob) (organizationId token : Uuid) (now : Int) (found : Bool)
      (haction : action = .claim jobId organizationId token now found)
      (hstatus : job.status = .queued) (hattempts : job.attempts < maxGenerationAttempts) :
      RowChange action jobId (some job) (some (claimedRow job token now))
  | renewed (job : GenerationJob) (expiresAt : Int) (hstatus : job.status = .running) :
      RowChange action jobId (some job) (some { job with leaseExpiresAt := some expiresAt })
  | failed (job : GenerationJob) (error : String) (now : Int)
      (hstatus : job.status.isTerminal = false) :
      RowChange action jobId (some job) (some (terminalize job error now))
  | returned (job row : GenerationJob) (hstatus : job.status = .running)
      (hrow : row.status = .queued) (htoken : row.leaseToken = none)
      (hexpires : row.leaseExpiresAt = none) (hattempts : row.attempts = job.attempts)
      (horganization : row.organizationId = job.organizationId) :
      RowChange action jobId (some job) (some row)
  | succeeded (job : GenerationJob) (result : GenerationResult) (completedAt : Int)
      (hstatus : job.status = .running) :
      RowChange action jobId (some job) (some (succeededRow job result completedAt))
  | requeued (job : GenerationJob) (organizationId nonce : Uuid) (now : Int)
      (checks : RequeueChecks) (haction : action = .requeue jobId organizationId nonce now checks)
      (hstatus : job.status.isTerminal = true) :
      RowChange action jobId (some job) (some (requeuedRow job now))

/-! ## Table access -/

@[simp] theorem insertEvent_eq_ok {world next : World} {event : OutboxEvent} :
    insertEvent world event = .ok next ↔
      (∀ row ∈ world.outbox, row.eventKey.text ≠ event.eventKey.text) ∧
        next = { world with outbox := world.outbox ++ [event] } := by
  unfold insertEvent
  split
  case isTrue h =>
    obtain ⟨row, hrow, hkey⟩ := List.any_eq_true.mp h
    simp only [reduceCtorEq, false_iff, not_and]
    intro hfresh
    exact absurd (by simpa using hkey) (hfresh row hrow)
  case isFalse h =>
    simp only [List.any_eq_true, beq_iff_eq, not_exists, not_and] at h
    simp only [Except.ok.injEq, eq_comm, iff_and_self]
    intro _
    exact h

theorem setJob_change {action : Action} {jobId id : Uuid} {world : World}
    {job row : GenerationJob} (hjob : world.jobs id = some job)
    (hchange : RowChange action id (some job) (some row)) :
    RowChange action jobId (world.jobs jobId) ((world.setJob id row).jobs jobId) := by
  by_cases h : jobId = id
  · subst h
    rwa [hjob, setJob_jobs_self]
  · rw [setJob_jobs_of_ne h]
    exact .kept _

theorem map_fst_eq_ok {ε α β : Type} {x : Except ε (α × β)} {a : α} :
    x.map Prod.fst = .ok a ↔ ∃ b, x = .ok (a, b) := by
  cases x with
  | error e => simp [Except.map]
  | ok p =>
    obtain ⟨a', b'⟩ := p
    simp [Except.map]

/-- The transaction leaves the outbox and the artifacts alone. -/
def OnlyJobs (world next : World) : Prop :=
  next.outbox = world.outbox ∧ next.artifacts = world.artifacts

theorem onlyJobs_refl (world : World) : OnlyJobs world world := ⟨rfl, rfl⟩

theorem onlyJobs_setJob (world : World) (id : Uuid) (job : GenerationJob) :
    OnlyJobs world (world.setJob id job) := ⟨rfl, rfl⟩

/-! ## Claim, heartbeat, completion and failure -/

theorem claimJob_onlyJobs {world next : World} {id organizationId token : Uuid} {now : Int}
    {found claimed : Bool}
    (h : claimJob world id organizationId token now found = .ok (next, claimed)) :
    OnlyJobs world next := by
  unfold claimJob at h
  split at h
  · cases h
    exact onlyJobs_refl _
  split at h
  · cases h
    exact onlyJobs_refl _
  split at h
  · cases h
    exact onlyJobs_setJob _ _ _
  split at h
  · cases h
    exact onlyJobs_setJob _ _ _
  split at h
  · cases h
    exact onlyJobs_refl _
  split at h
  · cases h
  · cases h
    exact onlyJobs_setJob _ _ _

theorem renewJobLease_onlyJobs (world : World) (id organizationId token : Uuid) (now : Int) :
    OnlyJobs world (renewJobLease world id organizationId token now).1 := by
  unfold renewJobLease
  split
  · exact onlyJobs_refl _
  split
  · exact onlyJobs_refl _
  split
  · exact onlyJobs_refl _
  · exact onlyJobs_setJob _ _ _

theorem claimJob_change {world next : World} {id organizationId token : Uuid} {now : Int}
    {found claimed : Bool} (h : claimJob world id organizationId token now found = .ok (next, claimed))
    (jobId : Uuid) :
    RowChange (.claim id organizationId token now found) jobId (world.jobs jobId)
      (next.jobs jobId) := by
  unfold claimJob at h
  split at h
  case h_1 =>
    cases h
    exact .kept _
  case h_2 job hfind =>
    have hjob := (findJob_eq_some.mp hfind).1
    by_cases hstatus : job.status = .queued
    · have hactive : job.status.isTerminal = false := by rw [hstatus]; rfl
      rw [if_neg (not_not.mpr hstatus)] at h
      split at h
      · cases h
        exact setJob_change hjob (.failed job _ now hactive)
      split at h
      · cases h
        exact setJob_change hjob (.failed job _ now hactive)
      split at h
      · cases h
        exact .kept _
      split at h
      · cases h
      · cases h
        exact setJob_change hjob
          (.claimed job organizationId token now found rfl hstatus (by omega))
    · rw [if_pos hstatus] at h
      cases h
      exact .kept _

theorem renewJobLease_change {action : Action} (world : World) (id organizationId token : Uuid)
    (now : Int) (jobId : Uuid) :
    RowChange action jobId (world.jobs jobId)
      ((renewJobLease world id organizationId token now).1.jobs jobId) := by
  unfold renewJobLease
  split
  · exact .kept _
  case h_2 job hfind =>
    obtain ⟨hjob, -, hstatus, -⟩ := findOwnedJob_eq_some.mp hfind
    split
    · exact .kept _
    split
    · exact .kept _
    · exact setJob_change hjob (.renewed job _ hstatus)

theorem recordArtifact_jobs {env : Environment} {jobId organizationId token : Uuid}
    {world next : World} {record : ArtifactRecord}
    (h : recordArtifact env jobId organizationId token world record = .ok next) :
    next.jobs = world.jobs ∧ next.outbox = world.outbox := by
  simp only [recordArtifact, bind_eq_ok] at h
  obtain ⟨_, -, h⟩ := h
  split at h
  · cases h
    exact ⟨rfl, rfl⟩
  · simp only [bind_eq_ok, pure, Except.pure, Except.ok.injEq] at h
    obtain ⟨_, -, rfl⟩ := h
    exact ⟨rfl, rfl⟩

theorem recordArtifacts_jobs {env : Environment} {jobId organizationId token : Uuid}
    {records : List ArtifactRecord} {world next : World}
    (h : recordArtifacts env jobId organizationId token world records = .ok next) :
    next.jobs = world.jobs ∧ next.outbox = world.outbox := by
  induction records generalizing world with
  | nil =>
    cases h
    exact ⟨rfl, rfl⟩
  | cons record records ih =>
    simp only [recordArtifacts, bind_eq_ok] at h
    obtain ⟨middle, hmiddle, hrest⟩ := h
    obtain ⟨hjobs, houtbox⟩ := ih hrest
    rw [hjobs, houtbox]
    exact recordArtifact_jobs hmiddle

/-- A completion either writes nothing, fails the job, or commits: artifacts recorded under
    the token and a succeeded row. -/
theorem completeJob_cases {env : Environment} {world next : World}
    {id organizationId token : Uuid} {completedAt fenceAt : Int} {result : GenerationResult}
    {calls : CompletionCalls} {completed : Bool}
    (h : completeJob env world id organizationId token completedAt fenceAt result calls
      = .ok (next, completed)) :
    (completed = false ∧ next = world) ∨
      ∃ job, findOwnedJob world id organizationId token = some job ∧
        ((completed = false ∧ ∃ error, next = world.setJob id (terminalize job error completedAt)) ∨
          (completed = true ∧ ∃ records recorded,
            recordArtifacts env id organizationId token world records = .ok recorded ∧
              next = recorded.setJob id (succeededRow job result completedAt))) := by
  unfold completeJob at h
  split at h
  · cases h
    exact .inl ⟨rfl, rfl⟩
  case h_2 job hfind =>
    split at h
    · cases h
      exact .inr ⟨job, hfind, .inl ⟨rfl, _, rfl⟩⟩
    split at h
    · cases h
      exact .inl ⟨rfl, rfl⟩
    split at h
    · cases h
      exact .inr ⟨job, hfind, .inl ⟨rfl, _, rfl⟩⟩
    · simp only [bind_eq_ok, pure, Except.pure, Except.ok.injEq, Prod.mk.injEq] at h
      obtain ⟨records, -, _, -, recorded, hrecorded, _, -, _, -, _, -, _, -, rfl, rfl⟩ := h
      exact .inr ⟨job, hfind, .inr ⟨rfl, records, recorded, hrecorded, rfl⟩⟩

theorem completeJob_change {action : Action} {env : Environment} {world next : World}
    {id organizationId token : Uuid} {completedAt fenceAt : Int} {result : GenerationResult}
    {calls : CompletionCalls} {completed : Bool}
    (h : completeJob env world id organizationId token completedAt fenceAt result calls
      = .ok (next, completed)) (jobId : Uuid) :
    RowChange action jobId (world.jobs jobId) (next.jobs jobId) := by
  rcases completeJob_cases h with ⟨-, rfl⟩ | ⟨job, hfind, ⟨-, error, rfl⟩ |
    ⟨-, records, recorded, hrecorded, rfl⟩⟩
  · exact .kept _
  · obtain ⟨hjob, -, hstatus, -⟩ := findOwnedJob_eq_some.mp hfind
    exact setJob_change hjob (.failed job error completedAt (by rw [hstatus]; rfl))
  · obtain ⟨hjob, -, hstatus, -⟩ := findOwnedJob_eq_some.mp hfind
    have hjobs := (recordArtifacts_jobs hrecorded).1
    rw [← hjobs] at hjob ⊢
    exact setJob_change hjob (.succeeded job result completedAt hstatus)

theorem completeJob_outbox {env : Environment} {world next : World}
    {id organizationId token : Uuid} {completedAt fenceAt : Int} {result : GenerationResult}
    {calls : CompletionCalls} {completed : Bool}
    (h : completeJob env world id organizationId token completedAt fenceAt result calls
      = .ok (next, completed)) : next.outbox = world.outbox := by
  rcases completeJob_cases h with ⟨-, rfl⟩ | ⟨job, hfind, ⟨-, error, rfl⟩ |
    ⟨-, records, recorded, hrecorded, rfl⟩⟩
  · rfl
  · rfl
  · exact (recordArtifacts_jobs hrecorded).2

/-- The failure does not end the job. -/
def failureReturns (job : GenerationJob) (failure : WorkerFailure) (terminal : Bool)
    (failedAt : Int) : Bool :=
  !deadlineIsExpired job failedAt &&
    !(terminal || maxGenerationAttempts ≤ job.attempts || failure.immediateTerminal)

/-- The row of a job that goes back to the queue after a failure. -/
def retryRow (job : GenerationJob) (failure : WorkerFailure) (retryAt : Int) : GenerationJob :=
  { job with
    status := .queued
    leaseToken := none
    leaseExpiresAt := none
    error := some (String.ofList (failure.text.toList.take 4000))
    finishedAt := none
    startedAt := none
    nextAttemptAt := some retryAt }

/-- A failure that returns the job is exactly the insert of its retry event. -/
theorem recordFailure_of_returns {world : World} {id organizationId token : Uuid}
    {failure : WorkerFailure} {terminal : Bool} {failedAt retryAfter : Int} {job : GenerationJob}
    (hretry : 0 ≤ retryAfter) (hfind : findOwnedJob world id organizationId token = some job)
    (hreturns : failureReturns job failure terminal failedAt = true) :
    recordFailure world id organizationId token failure terminal failedAt retryAfter =
      (insertEvent (world.setJob id (retryRow job failure (failedAt + retryAfter * secondUs)))
        (generationRequest (.retry id job.attempts) id organizationId
          (failedAt + retryAfter * secondUs) none)).map fun next => (next, some .queued) := by
  rw [failureReturns, Bool.and_eq_true, Bool.not_eq_true', Bool.not_eq_true'] at hreturns
  obtain ⟨hdeadline, hterminal⟩ := hreturns
  unfold recordFailure
  rw [hfind, require, if_pos (by simpa using hretry)]
  simp only [hdeadline, hterminal, Bool.false_eq_true, if_false]
  show (insertEvent (world.setJob id (retryRow job failure (failedAt + retryAfter * secondUs)))
    (generationRequest (.retry id job.attempts) id organizationId
      (failedAt + retryAfter * secondUs) none) >>= fun next => pure (next, some JobStatus.queued))
    = _
  cases insertEvent (world.setJob id (retryRow job failure (failedAt + retryAfter * secondUs)))
    (generationRequest (.retry id job.attempts) id organizationId
      (failedAt + retryAfter * secondUs) none) <;> rfl

/-- A failure that does not return the job raises for its arguments, writes nothing, or ends
    the job. -/
theorem recordFailure_of_not_returns {world : World} {id organizationId token : Uuid}
    {failure : WorkerFailure} {terminal : Bool} {failedAt retryAfter : Int}
    (hreturns : ¬∃ job, 0 ≤ retryAfter ∧ findOwnedJob world id organizationId token = some job ∧
      failureReturns job failure terminal failedAt = true) :
    (∃ message, recordFailure world id organizationId token failure terminal failedAt retryAfter
        = .error (.runtime message)) ∨
      recordFailure world id organizationId token failure terminal failedAt retryAfter
        = .ok (world, none) ∨
      ∃ job error, findOwnedJob world id organizationId token = some job ∧
        recordFailure world id organizationId token failure terminal failedAt retryAfter
          = .ok (world.setJob id (terminalize job error failedAt), some .failed) := by
  unfold recordFailure
  by_cases hretry : 0 ≤ retryAfter
  · rw [require, if_pos (by simpa using hretry)]
    right
    cases hfind : findOwnedJob world id organizationId token with
    | none => exact .inl rfl
    | some job =>
      right
      have hends := Bool.eq_false_iff.mpr fun htrue => hreturns ⟨job, hretry, hfind, htrue⟩
      rw [failureReturns, Bool.and_eq_false_iff, Bool.not_eq_false', Bool.not_eq_false'] at hends
      by_cases hdeadline : deadlineIsExpired job failedAt = true
      · exact ⟨job, _, rfl, by simp only [hdeadline, if_true]; rfl⟩
      · have hterminal := hends.resolve_left hdeadline
        rw [Bool.not_eq_true] at hdeadline
        exact ⟨job, _, rfl, by
          simp only [hdeadline, hterminal, Bool.false_eq_true, if_false, if_true]; rfl⟩
  · rw [require, if_neg (by simpa using hretry)]
    exact .inl ⟨_, rfl⟩

theorem recordFailure_cases {world next : World} {id organizationId token : Uuid}
    {failure : WorkerFailure} {terminal : Bool} {failedAt retryAfter : Int}
    {status : Option JobStatus}
    (h : recordFailure world id organizationId token failure terminal failedAt retryAfter
      = .ok (next, status)) :
    next = world ∨ ∃ job, findOwnedJob world id organizationId token = some job ∧
      ((∃ error, next = world.setJob id (terminalize job error failedAt)) ∨
        ∃ retryAt, insertEvent (world.setJob id (retryRow job failure retryAt))
          (generationRequest (.retry id job.attempts) id organizationId retryAt none)
          = .ok next) := by
  by_cases hreturns : ∃ job, 0 ≤ retryAfter ∧
      findOwnedJob world id organizationId token = some job ∧
      failureReturns job failure terminal failedAt = true
  · obtain ⟨job, hretry, hfind, hreturns⟩ := hreturns
    rw [recordFailure_of_returns hretry hfind hreturns] at h
    refine .inr ⟨job, hfind, .inr ⟨failedAt + retryAfter * secondUs, ?_⟩⟩
    cases hinsert : insertEvent
        (world.setJob id (retryRow job failure (failedAt + retryAfter * secondUs)))
        (generationRequest (.retry id job.attempts) id organizationId
          (failedAt + retryAfter * secondUs) none) with
    | error e =>
      rw [hinsert] at h
      cases h
    | ok inserted =>
      rw [hinsert] at h
      cases h
      rfl
  · rcases recordFailure_of_not_returns hreturns with ⟨message, hraise⟩ | hsame |
      ⟨job, error, hfind, hended⟩
    · rw [hraise] at h
      cases h
    · rw [hsame] at h
      cases h
      exact .inl rfl
    · rw [hended] at h
      cases h
      exact .inr ⟨job, hfind, .inl ⟨error, rfl⟩⟩

theorem recordFailure_change {action : Action} {world next : World}
    {id organizationId token : Uuid} {failure : WorkerFailure} {terminal : Bool}
    {failedAt retryAfter : Int} {status : Option JobStatus}
    (h : recordFailure world id organizationId token failure terminal failedAt retryAfter
      = .ok (next, status)) (jobId : Uuid) :
    RowChange action jobId (world.jobs jobId) (next.jobs jobId) := by
  rcases recordFailure_cases h with rfl | ⟨job, hfind, ⟨error, rfl⟩ | ⟨retryAt, hinsert⟩⟩
  · exact .kept _
  · obtain ⟨hjob, -, hstatus, -⟩ := findOwnedJob_eq_some.mp hfind
    exact setJob_change hjob (.failed job error failedAt (by rw [hstatus]; rfl))
  · obtain ⟨hjob, -, hstatus, -⟩ := findOwnedJob_eq_some.mp hfind
    obtain ⟨-, rfl⟩ := insertEvent_eq_ok.mp hinsert
    exact setJob_change hjob (.returned job _ hstatus rfl rfl rfl rfl rfl)

/-! ## Recovery -/

theorem recoverStaleJob_cases (job : GenerationJob) (now : Int) :
    ((recoverStaleJob job now).2 = false ∧ ((recoverStaleJob job now).1 = job ∨
        ∃ error, (recoverStaleJob job now).1 = terminalize job error now)) ∨
      ((recoverStaleJob job now).2 = true ∧ (recoverStaleJob job now).1.status = .queued ∧
        (recoverStaleJob job now).1.leaseToken = none ∧
        (recoverStaleJob job now).1.leaseExpiresAt = none ∧
        (recoverStaleJob job now).1.attempts = job.attempts ∧
        (recoverStaleJob job now).1.organizationId = job.organizationId) := by
  unfold recoverStaleJob
  split
  · exact .inl ⟨rfl, .inr ⟨_, rfl⟩⟩
  split
  · exact .inl ⟨rfl, .inl rfl⟩
  split
  · exact .inl ⟨rfl, .inr ⟨_, rfl⟩⟩
  · exact .inr ⟨rfl, rfl, rfl, rfl, rfl, rfl⟩

/-- Recovery does nothing to terminal rows: they are not selected. -/
theorem not_terminal_of_recoverable {job : GenerationJob} {now : Int}
    (h : isRecoverable job now = true) : job.status.isTerminal = false := by
  cases hs : job.status <;> simp_all [isRecoverable, JobStatus.isTerminal]

/-- The watchdog leaves everything as it is, fails the job, inserts its event or has it
    delivered again. -/
theorem recoverUnclaimedQueuedDelivery_cases {world next : World} {id : Uuid}
    {job : GenerationJob} {now : Int}
    (h : recoverUnclaimedQueuedDelivery world id job now = .ok next) :
    next = world ∨ (∃ error, next = world.setJob id (terminalize job error now)) ∨
      insertEvent world (generationRequest (.deliveryWatchdog id) id job.organizationId now none)
        = .ok next ∨
      next = world.updateEvent (.deliveryWatchdog id) fun event => redelivered event now := by
  unfold recoverUnclaimedQueuedDelivery at h
  split at h
  · cases h
    exact .inr (.inl ⟨_, rfl⟩)
  split at h
  · cases h
    exact .inr (.inl ⟨_, rfl⟩)
  split at h
  · cases h
    exact .inr (.inl ⟨_, rfl⟩)
  split at h
  · cases h
    exact .inr (.inl ⟨_, rfl⟩)
  split at h
  · cases h
    exact .inl rfl
  dsimp only at h
  split at h
  · split at h
    · cases h
      exact .inl rfl
    · exact .inr (.inr (.inl h))
  · split at h
    · cases h
      exact .inr (.inl ⟨_, rfl⟩)
    split at h
    · cases h
      exact .inl rfl
    split at h
    · cases h
      exact .inl rfl
    · cases h
      exact .inr (.inr (.inr rfl))

/-- The recovery of one job: nothing, a watchdog step on a queued job, or a stale lease of a
    running one. -/
theorem recoverJob_cases {organizationId id : Uuid} {now : Int} {world next : World}
    (h : recoverJob organizationId now world id = .ok next) :
    next = world ∨ ∃ job, findJob world id organizationId = some job ∧
      job.status.isTerminal = false ∧
      ((∃ error, next = world.setJob id (terminalize job error now)) ∨
        insertEvent world (generationRequest (.deliveryWatchdog id) id job.organizationId now none)
          = .ok next ∨
        next = world.updateEvent (.deliveryWatchdog id) (fun event => redelivered event now) ∨
        (job.status = .running ∧ (recoverStaleJob job now).2 = true ∧
          insertEvent (world.setJob id (recoverStaleJob job now).1)
            (generationRequest (.recovery id job.attempts) id organizationId now none)
            = .ok next) ∨
        next = world.setJob id job) := by
  unfold recoverJob at h
  split at h
  · cases h
    exact .inl rfl
  case h_2 job hfind =>
    split at h
    · cases h
      exact .inl rfl
    case isFalse hrecoverable =>
      have hactive : job.status.isTerminal = false :=
        not_terminal_of_recoverable (by simpa using hrecoverable)
      split at h
      case isTrue hqueued =>
        rcases recoverUnclaimedQueuedDelivery_cases h with rfl | herror | hinsert | hupdate
        · exact .inl rfl
        · exact .inr ⟨job, hfind, hactive, .inl herror⟩
        · exact .inr ⟨job, hfind, hactive, .inr (.inl hinsert)⟩
        · exact .inr ⟨job, hfind, hactive, .inr (.inr (.inl hupdate))⟩
      case isFalse hqueued =>
        have hstatus : job.status = .running := by
          cases hs : job.status <;> simp_all [JobStatus.isTerminal]
        dsimp only at h
        split at h
        case isTrue hflag =>
          exact .inr ⟨job, hfind, hactive, .inr (.inr (.inr (.inl ⟨hstatus, hflag, h⟩)))⟩
        case isFalse hflag =>
          cases h
          rcases recoverStaleJob_cases job now with ⟨-, hsame | ⟨error, hrow⟩⟩ | ⟨htrue, -⟩
          · rw [hsame]
            exact .inr ⟨job, hfind, hactive, .inr (.inr (.inr (.inr rfl)))⟩
          · rw [hrow]
            exact .inr ⟨job, hfind, hactive, .inl ⟨error, rfl⟩⟩
          · exact absurd htrue hflag

theorem recoverJob_change {action : Action} {organizationId id : Uuid} {now : Int}
    {world next : World} (h : recoverJob organizationId now world id = .ok next) (jobId : Uuid) :
    RowChange action jobId (world.jobs jobId) (next.jobs jobId) := by
  rcases recoverJob_cases h with rfl | ⟨job, hfind, hactive, hcases⟩
  · exact .kept _
  have hjob := (findJob_eq_some.mp hfind).1
  rcases hcases with ⟨error, rfl⟩ | hinsert | rfl | ⟨hstatus, hflag, hinsert⟩ | rfl
  · exact setJob_change hjob (.failed job error now hactive)
  · obtain ⟨-, rfl⟩ := insertEvent_eq_ok.mp hinsert
    exact .kept _
  · exact .kept _
  · obtain ⟨-, rfl⟩ := insertEvent_eq_ok.mp hinsert
    rcases recoverStaleJob_cases job now with
      ⟨hfalse, -⟩ | ⟨-, hq, htoken, hexpires, hattempts, horg⟩
    · rw [hflag] at hfalse
      cases hfalse
    · exact setJob_change hjob (.returned job _ hstatus hq htoken hexpires hattempts horg)
  · exact setJob_change hjob (.kept _)

theorem recoverJob_jobs_of_ne {organizationId id : Uuid} {now : Int} {world next : World}
    (h : recoverJob organizationId now world id = .ok next) {jobId : Uuid} (hne : jobId ≠ id) :
    next.jobs jobId = world.jobs jobId := by
  rcases recoverJob_cases h with rfl | ⟨job, -, -, hcases⟩
  · rfl
  rcases hcases with ⟨error, rfl⟩ | hinsert | rfl | ⟨-, -, hinsert⟩ | rfl
  · exact setJob_jobs_of_ne hne
  · obtain ⟨-, rfl⟩ := insertEvent_eq_ok.mp hinsert
    rfl
  · rfl
  · obtain ⟨-, rfl⟩ := insertEvent_eq_ok.mp hinsert
    exact setJob_jobs_of_ne hne
  · exact setJob_jobs_of_ne hne

theorem recoverJob_artifacts {organizationId id : Uuid} {now : Int} {world next : World}
    (h : recoverJob organizationId now world id = .ok next) :
    next.artifacts = world.artifacts := by
  rcases recoverJob_cases h with rfl | ⟨job, -, -, hcases⟩
  · rfl
  rcases hcases with ⟨error, rfl⟩ | hinsert | rfl | ⟨-, -, hinsert⟩ | rfl
  · rfl
  · obtain ⟨-, rfl⟩ := insertEvent_eq_ok.mp hinsert
    rfl
  · rfl
  · obtain ⟨-, rfl⟩ := insertEvent_eq_ok.mp hinsert
    rfl
  · rfl

theorem recoverStaleJobs_jobs_of_notMem {organizationId : Uuid} {now : Int} {ids : List Uuid}
    {world next : World} (h : recoverStaleJobs organizationId now world ids = .ok next)
    {jobId : Uuid} (hid : jobId ∉ ids) : next.jobs jobId = world.jobs jobId := by
  induction ids generalizing world with
  | nil =>
    cases h
    rfl
  | cons id ids ih =>
    simp only [recoverStaleJobs, bind_eq_ok] at h
    obtain ⟨middle, hmiddle, hrest⟩ := h
    rw [List.mem_cons, not_or] at hid
    rw [ih hrest hid.2, recoverJob_jobs_of_ne hmiddle hid.1]

theorem recoverStaleJobs_change {action : Action} {organizationId : Uuid} {now : Int}
    {ids : List Uuid} (hids : ids.Nodup) {world next : World}
    (h : recoverStaleJobs organizationId now world ids = .ok next) (jobId : Uuid) :
    RowChange action jobId (world.jobs jobId) (next.jobs jobId) := by
  induction ids generalizing world with
  | nil =>
    cases h
    exact .kept _
  | cons id ids ih =>
    simp only [recoverStaleJobs, bind_eq_ok] at h
    obtain ⟨middle, hmiddle, hrest⟩ := h
    obtain ⟨hid, hnodup⟩ := List.nodup_cons.mp hids
    by_cases hne : jobId = id
    · subst hne
      rw [recoverStaleJobs_jobs_of_notMem hrest hid]
      exact recoverJob_change hmiddle jobId
    · have hchange := ih hnodup hrest
      rwa [recoverJob_jobs_of_ne hmiddle hne] at hchange

/-! ## API -/

theorem enqueueJob_change {action : Action} {world next : World} {id organizationId : Uuid}
    {hash : String} {now : Int} (h : enqueueJob world id organizationId hash now = .ok next)
    (jobId : Uuid) : RowChange action jobId (world.jobs jobId) (next.jobs jobId) := by
  unfold enqueueJob at h
  split at h
  · cases h
  case h_2 hnone =>
    obtain ⟨-, rfl⟩ := insertEvent_eq_ok.mp h
    show RowChange action jobId (world.jobs jobId) ((world.setJob id _).jobs jobId)
    by_cases hne : jobId = id
    · subst hne
      rw [hnone, setJob_jobs_self]
      exact .enqueued _ rfl rfl rfl rfl
    · rw [setJob_jobs_of_ne hne]
      exact .kept _

/-- A requeue either writes nothing or starts a terminal job over, without its artifacts. -/
theorem requeueJob_cases {world next : World} {id organizationId nonce : Uuid} {now : Int}
    {checks : RequeueChecks} {requeued : Bool}
    (h : requeueJob world id organizationId nonce now checks = .ok (next, requeued)) :
    (requeued = false ∧ next = world) ∨
      (requeued = true ∧ ∃ job key reason, findJob world id organizationId = some job ∧
        job.status.isTerminal = true ∧
        (key = .manualRetry nonce ∨ key = .evidenceRepair id nonce) ∧
        insertEvent
          ((world.deleteArtifacts id organizationId).setJob id (requeuedRow job now))
          (generationRequest key id organizationId now reason) = .ok next) := by
  unfold requeueJob at h
  split at h
  · cases h
    exact .inl ⟨rfl, rfl⟩
  case h_2 job hfind =>
    split at h
    case h_1 hstatus =>
      simp only [bind_eq_ok, pure, Except.pure, Except.ok.injEq, Prod.mk.injEq] at h
      obtain ⟨_, -, _, hinsert, rfl, rfl⟩ := h
      exact .inr ⟨rfl, job, _, _, hfind, by rw [hstatus]; rfl, .inl rfl, hinsert⟩
    case h_2 hstatus =>
      simp only [bind_eq_ok] at h
      obtain ⟨_, -, h⟩ := h
      split at h
      · cases h
        exact .inl ⟨rfl, rfl⟩
      · simp only [bind_eq_ok, pure, Except.pure, Except.ok.injEq, Prod.mk.injEq] at h
        obtain ⟨_, -, _, -, _, hinsert, rfl, rfl⟩ := h
        exact .inr ⟨rfl, job, _, _, hfind, by rw [hstatus]; rfl, .inr rfl, hinsert⟩
    case h_3 =>
      cases h
      exact .inl ⟨rfl, rfl⟩

theorem requeueJob_change {world next : World} {id organizationId nonce : Uuid} {now : Int}
    {checks : RequeueChecks} {requeued : Bool}
    (h : requeueJob world id organizationId nonce now checks = .ok (next, requeued))
    (jobId : Uuid) :
    RowChange (.requeue id organizationId nonce now checks) jobId (world.jobs jobId)
      (next.jobs jobId) := by
  rcases requeueJob_cases h with ⟨-, rfl⟩ | ⟨-, job, key, reason, hfind, hstatus, -, hinsert⟩
  · exact .kept _
  · have hjob := (findJob_eq_some.mp hfind).1
    obtain ⟨-, rfl⟩ := insertEvent_eq_ok.mp hinsert
    have hkept : (world.deleteArtifacts id organizationId).jobs id = some job := hjob
    exact setJob_change hkept (.requeued job organizationId nonce now checks rfl hstatus)

theorem expireOverdueJob_change {action : Action} (world : World) (id organizationId : Uuid)
    (now : Int) (jobId : Uuid) :
    RowChange action jobId (world.jobs jobId)
      ((expireOverdueJob world id organizationId now).jobs jobId) := by
  unfold expireOverdueJob
  split
  · exact .kept _
  case h_2 job hfind =>
    split
    case isTrue hcond =>
      rw [Bool.and_eq_true, Bool.not_eq_true'] at hcond
      exact setJob_change (findJob_eq_some.mp hfind).1 (.failed job _ now hcond.1)
    case isFalse => exact .kept _

theorem expireOverdueJob_onlyJobs (world : World) (id organizationId : Uuid) (now : Int) :
    OnlyJobs world (expireOverdueJob world id organizationId now) := by
  unfold expireOverdueJob
  split
  · exact onlyJobs_refl _
  split
  · exact onlyJobs_setJob _ _ _
  · exact onlyJobs_refl _

/-! ## One transaction -/

/-- The change a transaction makes to the row of any job. -/
theorem rowChange_attempt {env : Environment} {action : Action} {world next : World}
    (h : attempt env action world = .ok next) (jobId : Uuid) :
    RowChange action jobId (world.jobs jobId) (next.jobs jobId) := by
  cases action with
  | enqueue id org hash now => exact enqueueJob_change h jobId
  | claim id org token now found =>
    obtain ⟨claimed, h⟩ := map_fst_eq_ok.mp h
    exact claimJob_change h jobId
  | renew id org token now =>
    cases h
    exact renewJobLease_change world id org token now jobId
  | complete id org token completedAt fenceAt result calls =>
    obtain ⟨completed, h⟩ := map_fst_eq_ok.mp h
    exact completeJob_change h jobId
  | recordFailure id org token failure terminal failedAt retryAfter =>
    obtain ⟨status, h⟩ := map_fst_eq_ok.mp h
    exact recordFailure_change h jobId
  | recover org now ids => exact recoverStaleJobs_change (List.nodup_dedup ids) h jobId
  | requeue id org nonce now checks =>
    obtain ⟨requeued, h⟩ := map_fst_eq_ok.mp h
    exact requeueJob_change h jobId
  | expire id org now =>
    cases h
    exact expireOverdueJob_change world id org now jobId
  | dispatch key now published =>
    cases h
    exact .kept _

theorem rowChange_step (env : Environment) (action : Action) (world : World) (jobId : Uuid) :
    RowChange action jobId (world.jobs jobId) ((step env action world).jobs jobId) := by
  unfold step
  split
  case h_1 next h => exact rowChange_attempt h jobId
  case h_2 => exact .kept _

end Custombuild.Jobs
