/-
  Lease fencing of generation jobs: over every interleaving of the transactions, with
  arbitrary tokens, clock readings and outcomes, a worker acts on a job only under the job's
  current lease token, and a terminal job starts over only through the API's requeue.
-/
import Custombuild.Lib.Along
import Custombuild.Jobs.RowChange

namespace Custombuild.Jobs

open Custombuild.Lib

/-- The world after the first `k` transactions. -/
def worldAt (env : Environment) (actions : List Action) (k : Nat) : World :=
  stateAt (step env) World.empty actions k

/-! ## Events of a run -/

/-- The action is a worker's transaction on the job under a lease token. -/
def Action.Presents (action : Action) (jobId token : Uuid) : Prop :=
  (∃ org now, action = .renew jobId org token now) ∨
    (∃ org completedAt fenceAt result calls,
      action = .complete jobId org token completedAt fenceAt result calls) ∨
    ∃ org failure terminal failedAt retryAfter,
      action = .recordFailure jobId org token failure terminal failedAt retryAfter

/-- The action takes the job from one status to another. -/
def Moves (world next : World) (jobId : Uuid) (old new : JobStatus → Prop) : Prop :=
  ∃ before after, world.jobs jobId = some before ∧ old before.status ∧
    next.jobs jobId = some after ∧ new after.status

/-- The claim of a queued job commits. -/
def ClaimCommits (action : Action) (world next : World) (jobId token : Uuid) : Prop :=
  (∃ org now found, action = .claim jobId org token now found) ∧
    Moves world next jobId (· = .queued) (· = .running)

/-- The completion of a running job commits. -/
def CompletionCommits (action : Action) (world next : World) (jobId token : Uuid) : Prop :=
  (∃ org completedAt fenceAt result calls,
      action = .complete jobId org token completedAt fenceAt result calls) ∧
    Moves world next jobId (· = .running) (· = .succeeded)

/-- The API's requeue of a terminal job commits. -/
def RequeueCommits (action : Action) (world next : World) (jobId : Uuid) : Prop :=
  (∃ org nonce now checks, action = .requeue jobId org nonce now checks) ∧
    Moves world next jobId (·.isTerminal = true) (· = .queued)

/-! ## A stale token -/

/-- Without the current lease token a worker's transaction writes nothing. -/
theorem step_of_stale_token {env : Environment} {action : Action} {world : World}
    {jobId token : Uuid} (hpresents : action.Presents jobId token)
    (hstale : ∀ job, world.jobs jobId = some job → job.leaseToken ≠ some token) :
    step env action world = world := by
  have hnone : ∀ org, findOwnedJob world jobId org token = none := by
    intro org
    cases hfind : findOwnedJob world jobId org token with
    | none => rfl
    | some job =>
      obtain ⟨hjob, -, -, htoken⟩ := findOwnedJob_eq_some.mp hfind
      exact absurd htoken (hstale job hjob)
  rcases hpresents with ⟨org, now, rfl⟩ | ⟨org, completedAt, fenceAt, result, calls, rfl⟩ |
    ⟨org, failure, terminal, failedAt, retryAfter, rfl⟩
  · simp [step, attempt, renewJobLease, hnone]
  · simp [step, attempt, completeJob, hnone, Except.map]
  · unfold step
    split
    case h_2 => rfl
    case h_1 next h =>
      simp only [attempt, recordFailure, hnone] at h
      obtain ⟨status, h⟩ := map_fst_eq_ok.mp h
      simp only [bind_eq_ok, pure, Except.pure, Except.ok.injEq, Prod.mk.injEq] at h
      obtain ⟨_, -, rfl, -⟩ := h
      rfl

/-! ## Invariants of one row -/

/-- A job has a lease token and an expiry exactly while it runs, and at most the allowed
    number of attempts. -/
structure LeaseShape (job : GenerationJob) : Prop where
  token : job.status = .running ↔ job.leaseToken.isSome = true
  expires : job.status = .running ↔ job.leaseExpiresAt.isSome = true
  attempts : job.attempts ≤ maxGenerationAttempts

def JobsShaped (world : World) : Prop := ∀ jobId job, world.jobs jobId = some job → LeaseShape job

theorem leaseShape_idle {job : GenerationJob} (hstatus : job.status ≠ .running)
    (htoken : job.leaseToken = none) (hexpires : job.leaseExpiresAt = none)
    (hattempts : job.attempts ≤ maxGenerationAttempts) : LeaseShape job := by
  refine ⟨?_, ?_, hattempts⟩
  · rw [htoken]
    exact ⟨fun h => absurd h hstatus, fun h => by cases h⟩
  · rw [hexpires]
    exact ⟨fun h => absurd h hstatus, fun h => by cases h⟩

theorem leaseShape_rowChange {action : Action} {jobId : Uuid}
    {before after : Option GenerationJob} (h : RowChange action jobId before after)
    (hbefore : ∀ job, before = some job → LeaseShape job) :
    ∀ job, after = some job → LeaseShape job := by
  intro row hrow
  cases h with
  | kept => exact hbefore row hrow
  | enqueued job hstatus hattempts htoken hexpires =>
    obtain rfl := Option.some.inj hrow
    exact leaseShape_idle (by rw [hstatus]; decide) htoken hexpires (by omega)
  | claimed job org token now found haction hstatus hattempts =>
    obtain rfl := Option.some.inj hrow
    exact ⟨by simp [claimedRow], by simp [claimedRow], hattempts⟩
  | renewed job expiresAt hstatus =>
    obtain rfl := Option.some.inj hrow
    have hjob := hbefore job rfl
    exact ⟨hjob.token, by simp [hstatus], hjob.attempts⟩
  | failed job error now hstatus =>
    obtain rfl := Option.some.inj hrow
    exact leaseShape_idle (by simp [terminalize]) rfl rfl (hbefore job rfl).attempts
  | returned job row' hstatus hrow' htoken hexpires hattempts =>
    obtain rfl := Option.some.inj hrow
    refine leaseShape_idle (by rw [hrow']; decide) htoken hexpires ?_
    rw [hattempts]
    exact (hbefore job rfl).attempts
  | succeeded job result completedAt hstatus =>
    obtain rfl := Option.some.inj hrow
    exact leaseShape_idle (by simp [succeededRow]) rfl rfl (hbefore job rfl).attempts
  | requeued job org nonce now checks haction hstatus =>
    obtain rfl := Option.some.inj hrow
    exact leaseShape_idle (by simp [requeuedRow]) rfl rfl (by simp [requeuedRow])

theorem jobsShaped_step (env : Environment) (action : Action) {world : World}
    (h : JobsShaped world) : JobsShaped (step env action world) := fun jobId =>
  leaseShape_rowChange (rowChange_step env action world jobId) (h jobId)

theorem jobsShaped_worldAt (env : Environment) (actions : List Action) (k : Nat) :
    JobsShaped (worldAt env actions k) :=
  stateAt_invariant (by intro jobId job h; cases h)
    (fun world h action _ => jobsShaped_step env action h) k

/-! ## Terminal jobs, attempts and claims -/

/-- A terminal row changes only by a committed requeue. -/
theorem terminal_step (env : Environment) (action : Action) {world : World} {jobId : Uuid}
    {job : GenerationJob} (hjob : world.jobs jobId = some job)
    (hterminal : job.status.isTerminal = true) :
    (step env action world).jobs jobId = some job ∨
      RequeueCommits action world (step env action world) jobId := by
  have hchange := rowChange_step env action world jobId
  rw [hjob] at hchange
  generalize hafter : (step env action world).jobs jobId = after at hchange
  cases hchange with
  | kept => exact .inl rfl
  | claimed _ _ _ _ _ _ hstatus => simp [hstatus, JobStatus.isTerminal] at hterminal
  | renewed _ _ hstatus => simp [hstatus, JobStatus.isTerminal] at hterminal
  | failed _ _ _ hstatus => simp [hstatus] at hterminal
  | returned _ _ hstatus => simp [hstatus, JobStatus.isTerminal] at hterminal
  | succeeded _ _ _ hstatus => simp [hstatus, JobStatus.isTerminal] at hterminal
  | requeued _ org nonce now checks haction _ =>
    exact .inr ⟨⟨org, nonce, now, checks, haction⟩, job, _, hjob, hterminal, hafter, rfl⟩

/-- Attempts grow by one with a committed claim, restart at zero with a committed requeue, and
    are left alone by everything else. -/
theorem attempts_step {env : Environment} {action : Action} {world : World} {jobId : Uuid}
    {before after : GenerationJob} (hbefore : world.jobs jobId = some before)
    (hafter : (step env action world).jobs jobId = some after) :
    (∃ token, ClaimCommits action world (step env action world) jobId token ∧
        after.attempts = before.attempts + 1) ∨
      (RequeueCommits action world (step env action world) jobId ∧ after.attempts = 0) ∨
      ((∀ token, ¬ClaimCommits action world (step env action world) jobId token) ∧
        after.attempts = before.attempts) := by
  have hchange := rowChange_step env action world jobId
  rw [hbefore, hafter] at hchange
  -- a committed claim moves the row from queued to running, which only one change does
  have hno : ¬(before.status = .queued ∧ after.status = .running) →
      ∀ token, ¬ClaimCommits action world (step env action world) jobId token := by
    rintro hmove token ⟨-, before', after', hbefore', hold, hafter', hnew⟩
    rw [hbefore] at hbefore'
    rw [hafter] at hafter'
    cases hbefore'
    cases hafter'
    exact hmove ⟨hold, hnew⟩
  cases hchange with
  | kept =>
    refine .inr (.inr ⟨hno ?_, rfl⟩)
    rintro ⟨hq, hr⟩
    rw [hq] at hr
    cases hr
  | claimed _ org token now found haction hstatus _ =>
    exact .inl ⟨token, ⟨⟨org, now, found, haction⟩, before, _, hbefore, hstatus, hafter, rfl⟩, rfl⟩
  | renewed _ expiresAt hstatus => exact .inr (.inr ⟨hno (by simp [hstatus]), rfl⟩)
  | failed _ error now _ => exact .inr (.inr ⟨hno (by simp [terminalize]), rfl⟩)
  | returned _ _ hstatus _ _ _ hattempts => exact .inr (.inr ⟨hno (by simp [hstatus]), hattempts⟩)
  | succeeded _ result completedAt hstatus => exact .inr (.inr ⟨hno (by simp [hstatus]), rfl⟩)
  | requeued _ org nonce now checks haction hterminal =>
    exact .inr (.inl ⟨⟨⟨org, nonce, now, checks, haction⟩, before, _, hbefore, hterminal, hafter,
      rfl⟩, rfl⟩)

/-- The job runs under the given lease token. -/
def RunsUnder (jobId token : Uuid) (world : World) : Prop :=
  ∃ job, world.jobs jobId = some job ∧ job.status = .running ∧ job.leaseToken = some token

/-- A job comes to run under a token by a committed claim with that token. -/
theorem claim_of_runsUnder {env : Environment} {action : Action} {world : World}
    {jobId token : Uuid} (hbefore : ¬RunsUnder jobId token world)
    (hafter : RunsUnder jobId token (step env action world)) :
    ClaimCommits action world (step env action world) jobId token := by
  obtain ⟨row, hrow, hrunning, htoken⟩ := hafter
  have hchange := rowChange_step env action world jobId
  rw [hrow] at hchange
  generalize hold : world.jobs jobId = before at hchange
  cases hchange with
  | kept => exact absurd ⟨row, hold, hrunning, htoken⟩ hbefore
  | enqueued _ hstatus =>
    rw [hstatus] at hrunning
    cases hrunning
  | claimed job org token' now found haction hstatus _ =>
    obtain rfl : token' = token := Option.some.inj htoken
    exact ⟨⟨org, now, found, haction⟩, job, _, hold, hstatus, hrow, rfl⟩
  | renewed job expiresAt hstatus => exact absurd ⟨job, hold, hstatus, htoken⟩ hbefore
  | failed => cases hrunning
  | returned _ _ _ hstatus =>
    rw [hstatus] at hrunning
    cases hrunning
  | succeeded => cases hrunning
  | requeued => cases hrunning

/-! ## Artifacts -/

/-- Artifacts belong to succeeded jobs of their own tenant. -/
def ArtifactsOfSucceeded (world : World) : Prop :=
  ∀ artifact ∈ world.artifacts, ∃ job, world.jobs artifact.generationJobId = some job ∧
    job.status = .succeeded ∧ job.organizationId = artifact.organizationId

/-- The artifact carries the identity of an attempt of the job. -/
def HasAttemptIdentity (env : Environment) (jobId token : Uuid) (artifact : Artifact) : Prop :=
  artifact.id = generationArtifactId env (generationAttemptId env jobId token) artifact.kind

/-- What one record adds to the artifacts: nothing, or one of the job's tenant that carries
    the attempt's identity. -/
theorem recordArtifact_artifacts {env : Environment} {jobId organizationId token : Uuid}
    {world next : World} {record : ArtifactRecord}
    (h : recordArtifact env jobId organizationId token world record = .ok next) :
    ∀ artifact ∈ next.artifacts, artifact ∈ world.artifacts ∨
      (artifact.generationJobId = jobId ∧ artifact.organizationId = organizationId ∧
        HasAttemptIdentity env jobId token artifact) := by
  simp only [recordArtifact, bind_eq_ok] at h
  obtain ⟨_, -, h⟩ := h
  intro artifact hmem
  split at h
  · cases h
    rcases List.mem_append.mp hmem with hmem | hmem
    · exact .inl hmem
    · obtain rfl := List.mem_singleton.mp hmem
      exact .inr ⟨rfl, rfl, rfl⟩
  · simp only [bind_eq_ok, pure, Except.pure, Except.ok.injEq] at h
    obtain ⟨_, -, rfl⟩ := h
    exact .inl hmem

theorem recordArtifacts_artifacts {env : Environment} {jobId organizationId token : Uuid}
    {records : List ArtifactRecord} {world next : World}
    (h : recordArtifacts env jobId organizationId token world records = .ok next) :
    ∀ artifact ∈ next.artifacts, artifact ∈ world.artifacts ∨
      (artifact.generationJobId = jobId ∧ artifact.organizationId = organizationId ∧
        HasAttemptIdentity env jobId token artifact) := by
  induction records generalizing world with
  | nil =>
    cases h
    exact fun artifact hmem => .inl hmem
  | cons record records ih =>
    simp only [recordArtifacts, bind_eq_ok] at h
    obtain ⟨middle, hmiddle, hrest⟩ := h
    intro artifact hmem
    rcases ih hrest artifact hmem with hmem | hnew
    · exact recordArtifact_artifacts hmiddle artifact hmem
    · exact .inr hnew

/-- Rows that are not succeeded may change freely as long as the artifacts stay. -/
theorem artifactsOfSucceeded_of_kept {world next : World} (h : ArtifactsOfSucceeded world)
    (hartifacts : next.artifacts = world.artifacts)
    (hjobs : ∀ jobId job, world.jobs jobId = some job → job.status = .succeeded →
      next.jobs jobId = some job) : ArtifactsOfSucceeded next := by
  intro artifact hmem
  rw [hartifacts] at hmem
  obtain ⟨job, hjob, hstatus, horg⟩ := h artifact hmem
  exact ⟨job, hjobs _ job hjob hstatus, hstatus, horg⟩

theorem recoverStaleJobs_artifacts {organizationId : Uuid} {now : Int} {ids : List Uuid}
    {world next : World} (h : recoverStaleJobs organizationId now world ids = .ok next) :
    next.artifacts = world.artifacts := by
  induction ids generalizing world with
  | nil =>
    cases h
    rfl
  | cons id ids ih =>
    simp only [recoverStaleJobs, bind_eq_ok] at h
    obtain ⟨middle, hmiddle, hrest⟩ := h
    rw [ih hrest, recoverJob_artifacts hmiddle]

/-- Only completions and requeues touch the artifacts. -/
theorem attempt_artifacts {env : Environment} {action : Action} {world next : World}
    (h : attempt env action world = .ok next)
    (hcomplete : ∀ id org token completedAt fenceAt result calls,
      action ≠ .complete id org token completedAt fenceAt result calls)
    (hrequeue : ∀ id org nonce now checks, action ≠ .requeue id org nonce now checks) :
    next.artifacts = world.artifacts := by
  cases action with
  | enqueue id org hash now =>
    simp only [attempt, enqueueJob] at h
    split at h
    · cases h
    · obtain ⟨-, rfl⟩ := insertEvent_eq_ok.mp h
      rfl
  | claim id org token now found =>
    obtain ⟨claimed, h⟩ := map_fst_eq_ok.mp h
    exact (claimJob_onlyJobs h).2
  | renew id org token now =>
    cases h
    exact (renewJobLease_onlyJobs world id org token now).2
  | complete id org token completedAt fenceAt result calls =>
    exact absurd rfl (hcomplete id org token completedAt fenceAt result calls)
  | recordFailure id org token failure terminal failedAt retryAfter =>
    obtain ⟨status, h⟩ := map_fst_eq_ok.mp h
    rcases recordFailure_cases h with rfl | ⟨job, -, ⟨error, rfl⟩ | ⟨retryAt, hinsert⟩⟩
    · rfl
    · rfl
    · obtain ⟨-, rfl⟩ := insertEvent_eq_ok.mp hinsert
      rfl
  | recover org now ids => exact recoverStaleJobs_artifacts h
  | requeue id org nonce now checks => exact absurd rfl (hrequeue id org nonce now checks)
  | expire id org now =>
    cases h
    exact (expireOverdueJob_onlyJobs world id org now).2
  | dispatch key now published =>
    cases h
    rfl

/-- A succeeded row outlives every transaction but its own requeue. -/
theorem succeeded_kept {env : Environment} {action : Action} {world : World} {jobId : Uuid}
    {job : GenerationJob} (hjob : world.jobs jobId = some job) (hstatus : job.status = .succeeded)
    (hother : ∀ org nonce now checks, action ≠ .requeue jobId org nonce now checks) :
    (step env action world).jobs jobId = some job := by
  rcases terminal_step env action hjob (by rw [hstatus]; rfl) with
    hkept | ⟨⟨org, nonce, now, checks, haction⟩, -⟩
  · exact hkept
  · exact absurd haction (hother org nonce now checks)

theorem step_eq_of_ok {env : Environment} {action : Action} {world next : World}
    (h : attempt env action world = .ok next) : step env action world = next := by
  rw [step, h]

theorem artifactsOfSucceeded_complete {env : Environment} {world next : World}
    {id organizationId token : Uuid} {completedAt fenceAt : Int} {result : GenerationResult}
    {calls : CompletionCalls} (h : ArtifactsOfSucceeded world)
    (hok : attempt env (.complete id organizationId token completedAt fenceAt result calls) world
      = .ok next) : ArtifactsOfSucceeded next := by
  have hkept : ∀ jobId job, world.jobs jobId = some job → job.status = .succeeded →
      next.jobs jobId = some job := by
    intro jobId job hjob hstatus
    rw [← step_eq_of_ok hok]
    exact succeeded_kept hjob hstatus (by simp)
  obtain ⟨completed, hcomplete⟩ := map_fst_eq_ok.mp hok
  rcases completeJob_cases hcomplete with ⟨-, rfl⟩ | ⟨job, hfind, ⟨-, error, rfl⟩ |
    ⟨-, records, recorded, hrecorded, rfl⟩⟩
  · exact h
  · exact artifactsOfSucceeded_of_kept h rfl hkept
  · intro artifact hmem
    rcases recordArtifacts_artifacts hrecorded artifact hmem with hold | ⟨hid, horg, -⟩
    · obtain ⟨old, hjob, hstatus, horg⟩ := h artifact hold
      exact ⟨old, hkept _ old hjob hstatus, hstatus, horg⟩
    · obtain ⟨-, hjoborg, -, -⟩ := findOwnedJob_eq_some.mp hfind
      refine ⟨succeededRow job result completedAt, ?_, rfl, ?_⟩
      · rw [hid, setJob_jobs_self]
      · rw [horg]
        exact hjoborg

theorem artifactsOfSucceeded_requeue {env : Environment} {world next : World}
    {id organizationId nonce : Uuid} {now : Int} {checks : RequeueChecks}
    (h : ArtifactsOfSucceeded world)
    (hok : attempt env (.requeue id organizationId nonce now checks) world = .ok next) :
    ArtifactsOfSucceeded next := by
  have hstep := step_eq_of_ok hok
  obtain ⟨requeued, hrequeue⟩ := map_fst_eq_ok.mp hok
  rcases requeueJob_cases hrequeue with ⟨-, rfl⟩ | ⟨-, job, key, reason, hfind, -, -, hinsert⟩
  · exact h
  obtain ⟨-, rfl⟩ := insertEvent_eq_ok.mp hinsert
  intro artifact hmem
  obtain ⟨hold, hnot⟩ := List.mem_filter.mp hmem
  obtain ⟨old, hjob, hstatus, horg⟩ := h artifact hold
  -- an artifact of the requeued job would have been deleted with it
  have hne : artifact.generationJobId ≠ id := by
    intro hid
    obtain ⟨hrow, hjoborg⟩ := findJob_eq_some.mp hfind
    rw [hid, hrow] at hjob
    cases hjob
    simp [hid, ← horg, hjoborg] at hnot
  refine ⟨old, ?_, hstatus, horg⟩
  rw [← hstep]
  refine succeeded_kept hjob hstatus ?_
  rintro org nonce' now' checks' heq
  cases heq
  exact hne rfl

theorem artifactsOfSucceeded_step (env : Environment) (action : Action) {world : World}
    (h : ArtifactsOfSucceeded world) : ArtifactsOfSucceeded (step env action world) := by
  cases hok : attempt env action world with
  | error e =>
    rw [step, hok]
    exact h
  | ok next =>
    rw [step_eq_of_ok hok]
    by_cases hcomplete : ∃ id org token completedAt fenceAt result calls,
        action = .complete id org token completedAt fenceAt result calls
    · obtain ⟨id, org, token, completedAt, fenceAt, result, calls, rfl⟩ := hcomplete
      exact artifactsOfSucceeded_complete h hok
    by_cases hrequeue : ∃ id org nonce now checks, action = .requeue id org nonce now checks
    · obtain ⟨id, org, nonce, now, checks, rfl⟩ := hrequeue
      exact artifactsOfSucceeded_requeue h hok
    simp only [not_exists] at hcomplete hrequeue
    refine artifactsOfSucceeded_of_kept h (attempt_artifacts hok hcomplete hrequeue) ?_
    intro jobId job hjob hstatus
    rw [← step_eq_of_ok hok]
    exact succeeded_kept hjob hstatus (hrequeue jobId)

theorem artifactsOfSucceeded_worldAt (env : Environment) (actions : List Action) (k : Nat) :
    ArtifactsOfSucceeded (worldAt env actions k) :=
  stateAt_invariant (by intro artifact h; cases h)
    (fun world h action _ => artifactsOfSucceeded_step env action h) k

/-! ## A committed completion -/

/-- A committed completion ran under its token, and every artifact the job then has carries
    the identity of that attempt. -/
theorem completion_facts {env : Environment} {action : Action} {world : World}
    {jobId token : Uuid} (hartifacts : ArtifactsOfSucceeded world)
    (h : CompletionCommits action world (step env action world) jobId token) :
    RunsUnder jobId token world ∧
      ∀ artifact ∈ (step env action world).artifacts, artifact.generationJobId = jobId →
        HasAttemptIdentity env jobId token artifact := by
  obtain ⟨⟨org, completedAt, fenceAt, result, calls, rfl⟩, before, after, hbefore, hrunning,
    hafter, hsucceeded⟩ := h
  cases hok : attempt env (.complete jobId org token completedAt fenceAt result calls) world with
  | error e =>
    rw [step, hok, hbefore] at hafter
    cases hafter
    rw [hrunning] at hsucceeded
    cases hsucceeded
  | ok next =>
    rw [step_eq_of_ok hok] at hafter ⊢
    obtain ⟨completed, hcomplete⟩ := map_fst_eq_ok.mp hok
    rcases completeJob_cases hcomplete with ⟨-, rfl⟩ | ⟨job, hfind, ⟨-, error, rfl⟩ |
      ⟨-, records, recorded, hrecorded, rfl⟩⟩
    · rw [hbefore] at hafter
      cases hafter
      rw [hrunning] at hsucceeded
      cases hsucceeded
    · rw [setJob_jobs_self] at hafter
      cases hafter
      cases hsucceeded
    · obtain ⟨hjob, -, hstatus, htoken⟩ := findOwnedJob_eq_some.mp hfind
      refine ⟨⟨job, hjob, hstatus, htoken⟩, fun artifact hmem hid => ?_⟩
      rcases recordArtifacts_artifacts hrecorded artifact hmem with hold | ⟨-, -, hidentity⟩
      · -- the job was running, so it had no artifacts yet
        obtain ⟨old, hold, hstatus', -⟩ := hartifacts artifact hold
        rw [hid, hjob] at hold
        cases hold
        rw [hstatus] at hstatus'
        cases hstatus'
      · exact hidentity

/-! ## Every interleaving -/

/-- What lease fencing says about one job over one run. -/
structure LeaseFenced (env : Environment) (actions : List Action) (jobId : Uuid) : Prop where
  /-- A worker whose token is not the job's current one writes nothing. -/
  staleTokenInert : ∀ k action token, actions[k]? = some action → action.Presents jobId token →
    (∀ job, (worldAt env actions k).jobs jobId = some job → job.leaseToken ≠ some token) →
    worldAt env actions (k + 1) = worldAt env actions k
  /-- Two committed completions have a committed requeue between them. -/
  oneCompletionPerRequeue : ∀ i j action action' token token', i < j →
    actions[i]? = some action → actions[j]? = some action' →
    CompletionCommits action (worldAt env actions i) (worldAt env actions (i + 1)) jobId token →
    CompletionCommits action' (worldAt env actions j) (worldAt env actions (j + 1)) jobId token' →
    ∃ m requeue, i < m ∧ m < j ∧ actions[m]? = some requeue ∧
      RequeueCommits requeue (worldAt env actions m) (worldAt env actions (m + 1)) jobId
  /-- A committed completion carries the token of the claim under which the job has run since,
      and its artifacts carry the identity derived from that token. -/
  completionIdentity : ∀ k action token, actions[k]? = some action →
    CompletionCommits action (worldAt env actions k) (worldAt env actions (k + 1)) jobId token →
    (∃ i claim, i < k ∧ actions[i]? = some claim ∧
      ClaimCommits claim (worldAt env actions i) (worldAt env actions (i + 1)) jobId token ∧
      ∀ m, i < m → m ≤ k → RunsUnder jobId token (worldAt env actions m)) ∧
    ∀ artifact ∈ (worldAt env actions (k + 1)).artifacts, artifact.generationJobId = jobId →
      HasAttemptIdentity env jobId token artifact
  /-- Attempts grow by one per committed claim and restart with a committed requeue. -/
  attemptsCountClaims : ∀ k action before after, actions[k]? = some action →
    (worldAt env actions k).jobs jobId = some before →
    (worldAt env actions (k + 1)).jobs jobId = some after →
    (∃ token, ClaimCommits action (worldAt env actions k) (worldAt env actions (k + 1)) jobId
        token ∧ after.attempts = before.attempts + 1) ∨
      (RequeueCommits action (worldAt env actions k) (worldAt env actions (k + 1)) jobId ∧
        after.attempts = 0) ∨
      ((∀ token, ¬ClaimCommits action (worldAt env actions k) (worldAt env actions (k + 1)) jobId
        token) ∧ after.attempts = before.attempts)
  attemptsBounded : ∀ k job, (worldAt env actions k).jobs jobId = some job →
    job.attempts ≤ maxGenerationAttempts
  /-- The job is running exactly when it has a lease token and a lease expiry. -/
  runningIffLeased : ∀ k job, (worldAt env actions k).jobs jobId = some job →
    (job.status = .running ↔ job.leaseToken.isSome = true ∧ job.leaseExpiresAt.isSome = true)
  /-- A terminal job is left only through the API's requeue. -/
  terminalLeftByRequeue : ∀ k action job, actions[k]? = some action →
    (worldAt env actions k).jobs jobId = some job → job.status.isTerminal = true →
    (worldAt env actions (k + 1)).jobs jobId = some job ∨
      RequeueCommits action (worldAt env actions k) (worldAt env actions (k + 1)) jobId

theorem worldAt_succ {env : Environment} {actions : List Action} {k : Nat} {action : Action}
    (h : actions[k]? = some action) :
    worldAt env actions (k + 1) = step env action (worldAt env actions k) := stateAt_succ h

/-- Between two committed completions the job leaves its succeeded state. -/
theorem requeue_between {env : Environment} {actions : List Action} {jobId token token' : Uuid}
    {i j : Nat} {action action' : Action} (hij : i < j)
    (hcommit : CompletionCommits action (worldAt env actions i) (worldAt env actions (i + 1))
      jobId token)
    (hcommit' : CompletionCommits action' (worldAt env actions j) (worldAt env actions (j + 1))
      jobId token') :
    ∃ m requeue, i < m ∧ m < j ∧ actions[m]? = some requeue ∧
      RequeueCommits requeue (worldAt env actions m) (worldAt env actions (m + 1)) jobId := by
  obtain ⟨-, before, after, -, -, hafter, hsucceeded⟩ := hcommit
  obtain ⟨-, before', -, hbefore', hrunning, -⟩ := hcommit'
  obtain ⟨m, requeue, him, hmj, hm, hkept, hlost⟩ :=
    exists_lost (P := fun world : World => world.jobs jobId = some after)
      (Nat.succ_le_of_lt hij) hafter (by
        intro hrow
        have hsame : before' = after := Option.some.inj (hbefore'.symm.trans hrow)
        rw [hsame, hsucceeded] at hrunning
        cases hrunning)
  refine ⟨m, requeue, him, hmj, hm, ?_⟩
  rw [worldAt_succ hm]
  have hterminal : after.status.isTerminal = true := by rw [hsucceeded]; rfl
  exact (terminal_step env requeue hkept hterminal).resolve_left hlost

/-- Lease fencing holds for every job over every run. -/
theorem jobs_lease_fenced (env : Environment) (actions : List Action) (jobId : Uuid) :
    LeaseFenced env actions jobId where
  staleTokenInert k action token hk hpresents hstale := by
    rw [worldAt_succ hk]
    exact step_of_stale_token hpresents hstale
  oneCompletionPerRequeue i j action action' token token' hij _ _ hcommit hcommit' :=
    requeue_between hij hcommit hcommit'
  completionIdentity k action token hk hcommit := by
    rw [worldAt_succ hk] at hcommit ⊢
    obtain ⟨hruns, hidentity⟩ :=
      completion_facts (artifactsOfSucceeded_worldAt env actions k) hcommit
    refine ⟨?_, hidentity⟩
    have hstart : ¬RunsUnder jobId token World.empty := by
      rintro ⟨job, hjob, -⟩
      cases hjob
    obtain ⟨i, claim, hik, hi, hbefore, hsince⟩ := exists_gained hstart hruns
    refine ⟨i, claim, hik, hi, ?_, hsince⟩
    have hafter := hsince (i + 1) (Nat.lt_succ_self i) hik
    rw [stateAt_succ hi] at hafter
    rw [worldAt_succ hi]
    exact claim_of_runsUnder hbefore hafter
  attemptsCountClaims k action before after hk hbefore hafter := by
    rw [worldAt_succ hk] at hafter ⊢
    exact attempts_step hbefore hafter
  attemptsBounded k job hjob := (jobsShaped_worldAt env actions k jobId job hjob).attempts
  runningIffLeased k job hjob := by
    have hshape := jobsShaped_worldAt env actions k jobId job hjob
    constructor
    · intro hrunning
      exact ⟨hshape.token.mp hrunning, hshape.expires.mp hrunning⟩
    · rintro ⟨htoken, -⟩
      exact hshape.token.mpr htoken
  terminalLeftByRequeue k action job hk hjob hterminal := by
    rw [worldAt_succ hk]
    exact terminal_step env action hjob hterminal

end Custombuild.Jobs
