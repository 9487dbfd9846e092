/-
  Freshness of outbox event keys.  `generation-retry` and `generation-recovery` keys carry the
  job's attempt counter, which the API's requeue sets back to zero while the old events stay.
  Within one life of a job, between two requeues, the counter only grows and every key is new;
  a key is taken exactly when an earlier life of the job gave out the same attempt number.
-/
import Custombuild.Jobs.EventKeys
import Custombuild.Jobs.Fencing

namespace Custombuild.Jobs

open Custombuild.Lib

/-! ## The outbox as a history -/

/-- What an event keeps for good: its key, its job and its tenant. -/
structure Logged where
  key : EventKey
  jobId : Uuid
  organizationId : Uuid
deriving DecidableEq

def OutboxEvent.logged (event : OutboxEvent) : Logged :=
  ⟨event.eventKey, event.payload.jobId, event.organizationId⟩

/-- The inserted events, oldest first. -/
def World.history (world : World) : List Logged := world.outbox.map OutboxEvent.logged

theorem history_congr {world next : World} (h : next.outbox = world.outbox) :
    next.history = world.history := by
  rw [World.history, h, World.history]

/-- The event of an API requeue of the job. -/
def Logged.isRequeueOf (jobId : Uuid) (entry : Logged) : Bool :=
  match entry.key with
  | .manualRetry _ | .evidenceRepair _ _ => entry.jobId = jobId
  | _ => false

/-- The events since the job's last requeue, newest first. -/
def currentLife (jobId : Uuid) (history : List Logged) : List Logged :=
  history.reverse.takeWhile fun entry => !entry.isRequeueOf jobId

/-- The events up to the job's last requeue, newest first. -/
def earlierLives (jobId : Uuid) (history : List Logged) : List Logged :=
  history.reverse.dropWhile fun entry => !entry.isRequeueOf jobId

theorem mem_history_iff {jobId : Uuid} {history : List Logged} {entry : Logged} :
    entry ∈ history ↔ entry ∈ currentLife jobId history ∨ entry ∈ earlierLives jobId history := by
  rw [currentLife, earlierLives, ← List.mem_append, List.takeWhile_append_dropWhile,
    List.mem_reverse]

/-- A requeue starts a new life; any other event belongs to the current one. -/
theorem currentLife_append (jobId : Uuid) (history : List Logged) (entry : Logged) :
    currentLife jobId (history ++ [entry]) =
      if entry.isRequeueOf jobId then [] else entry :: currentLife jobId history := by
  unfold currentLife
  rw [List.reverse_append, List.reverse_singleton, List.singleton_append, List.takeWhile_cons]
  cases entry.isRequeueOf jobId <;> rfl

theorem earlierLives_append {jobId : Uuid} {entry : Logged} (h : entry.isRequeueOf jobId = false)
    (history : List Logged) :
    earlierLives jobId (history ++ [entry]) = earlierLives jobId history := by
  unfold earlierLives
  rw [List.reverse_append, List.reverse_singleton, List.singleton_append, List.dropWhile_cons, h]
  rfl

theorem updateEvent_history {world : World} {key : EventKey} {change : OutboxEvent → OutboxEvent}
    (hchange : ∀ event, (change event).logged = event.logged) :
    (world.updateEvent key change).history = world.history := by
  unfold World.history World.updateEvent
  rw [List.map_map]
  apply List.map_congr_left
  intro event _
  simp only [Function.comp_apply]
  split
  · exact hchange event
  · rfl

theorem redelivered_logged (event : OutboxEvent) (now : Int) :
    (redelivered event now).logged = event.logged := rfl

theorem dispatchEvent_logged (event : OutboxEvent) (now : Int) (published : Bool) :
    (dispatchEvent event now published).logged = event.logged := by
  unfold dispatchEvent
  repeat' split
  all_goals rfl

/-- An insert succeeds exactly when its key is new, and appends it to the history. -/
theorem insertEvent_history {world next : World} {event : OutboxEvent}
    (h : insertEvent world event = .ok next) :
    next.history = world.history ++ [event.logged] ∧ next.jobs = world.jobs := by
  obtain ⟨-, rfl⟩ := insertEvent_eq_ok.mp h
  exact ⟨by simp [World.history], rfl⟩

theorem insertEvent_violation {world : World} {event : OutboxEvent} {key : EventKey}
    (h : insertEvent world event = .error (.uniqueViolation key)) :
    ∃ entry ∈ world.history, entry.key = event.eventKey := by
  unfold insertEvent at h
  split at h
  case isTrue hany =>
    obtain ⟨row, hrow, hkey⟩ := List.any_eq_true.mp hany
    exact ⟨row.logged, List.mem_map_of_mem hrow, EventKey.text_inj (beq_iff_eq.mp hkey)⟩
  case isFalse => cases h

theorem insertEvent_of_taken {world : World} (event : OutboxEvent) {entry : Logged}
    (hentry : entry ∈ world.history) (hkey : entry.key = event.eventKey) :
    insertEvent world event = .error (.uniqueViolation event.eventKey) := by
  obtain ⟨row, hrow, rfl⟩ := List.mem_map.mp hentry
  have hany : (world.outbox.any fun row => row.eventKey.text == event.eventKey.text) = true := by
    rw [List.any_eq_true]
    refine ⟨row, hrow, ?_⟩
    rw [beq_iff_eq, ← hkey]
    rfl
  rw [insertEvent, if_pos hany]

/-! ## Attempt numbers of one life -/

/-- The attempt number was given out in the current life of the job: it lies behind the
    counter, and strictly behind it while a claim is running. -/
def Behind (attempts : Nat) (job : GenerationJob) : Prop :=
  attempts ≤ job.attempts ∧ (job.status = .running → attempts < job.attempts)

/-- The keys that return a job to the queue under an attempt number. -/
def IsReturnKey (key : EventKey) (jobId : Uuid) (attempts : Nat) : Prop :=
  key = .retry jobId attempts ∨ key = .recovery jobId attempts

/-- Everything but a requeue keeps a used attempt number behind the counter. -/
theorem behind_rowChange {action : Action} {jobId : Uuid} {before after : Option GenerationJob}
    {job : GenerationJob} {n : Nat} (h : RowChange action jobId before after)
    (hjob : before = some job) (hbehind : Behind n job) :
    (∃ row, after = some row ∧ Behind n row) ∨
      ∃ org nonce now checks, action = .requeue jobId org nonce now checks := by
  subst hjob
  obtain ⟨hle, hlt⟩ := hbehind
  cases h with
  | kept => exact .inl ⟨job, rfl, hle, hlt⟩
  | claimed => exact .inl ⟨_, rfl, Nat.le_succ_of_le hle, fun _ => Nat.lt_succ_of_le hle⟩
  | renewed => exact .inl ⟨_, rfl, hle, hlt⟩
  | failed => exact .inl ⟨_, rfl, hle, fun hrunning => by cases hrunning⟩
  | returned _ row _ hrow _ _ hattempts =>
    refine .inl ⟨row, rfl, ?_⟩
    rw [Behind, hattempts, hrow]
    exact ⟨hle, fun hrunning => by cases hrunning⟩
  | succeeded => exact .inl ⟨_, rfl, hle, fun hrunning => by cases hrunning⟩
  | requeued _ org nonce now checks haction _ =>
    exact .inr ⟨org, nonce, now, checks, haction⟩

/-- Rows are never deleted and never change their tenant. -/
theorem rowChange_some {action : Action} {jobId : Uuid} {before after : Option GenerationJob}
    {job : GenerationJob} (h : RowChange action jobId before after) (hjob : before = some job) :
    ∃ row, after = some row ∧ row.organizationId = job.organizationId := by
  subst hjob
  cases h with
  | kept => exact ⟨job, rfl, rfl⟩
  | claimed => exact ⟨_, rfl, rfl⟩
  | renewed => exact ⟨_, rfl, rfl⟩
  | failed => exact ⟨_, rfl, rfl⟩
  | returned _ row _ _ _ _ _ horg => exact ⟨row, rfl, horg⟩
  | succeeded => exact ⟨_, rfl, rfl⟩
  | requeued => exact ⟨_, rfl, rfl⟩

/-! ## The invariant -/

/-- What the presence of an event says about the jobs and the nonces used so far. -/
def Known (world : World) (nonces : List Uuid) (entry : Logged) : Prop :=
  match entry.key with
  | .requested jobId => ∃ job, world.jobs jobId = some job
  | .manualRetry nonce => nonce ∈ nonces
  | .evidenceRepair _ nonce => nonce ∈ nonces
  | .retry jobId _ => ∃ job, world.jobs jobId = some job
  | .recovery jobId _ => ∃ job, world.jobs jobId = some job
  | .deliveryWatchdog jobId =>
    ∃ job, world.jobs jobId = some job ∧ job.organizationId = entry.organizationId

structure OutboxInv (nonces : List Uuid) (world : World) : Prop where
  known : ∀ entry ∈ world.history, Known world nonces entry
  behind : ∀ jobId n entry, entry ∈ currentLife jobId world.history →
    IsReturnKey entry.key jobId n → ∃ job, world.jobs jobId = some job ∧ Behind n job

theorem known_of_rowChange {action : Action} {world next : World} {nonces nonces' : List Uuid}
    (hchange : ∀ jobId, RowChange action jobId (world.jobs jobId) (next.jobs jobId))
    (hnonces : nonces ⊆ nonces') {entry : Logged} (h : Known world nonces entry) :
    Known next nonces' entry := by
  have hexists : ∀ jobId, (∃ job, world.jobs jobId = some job) →
      ∃ job, next.jobs jobId = some job := by
    rintro jobId ⟨job, hjob⟩
    obtain ⟨row, hrow, -⟩ := rowChange_some (hchange jobId) hjob
    exact ⟨row, hrow⟩
  unfold Known at h ⊢
  split at h
  case h_1 jobId _ => exact hexists jobId h
  case h_2 => exact hnonces h
  case h_3 => exact hnonces h
  case h_4 jobId _ _ => exact hexists jobId h
  case h_5 jobId _ _ => exact hexists jobId h
  case h_6 jobId _ =>
    obtain ⟨job, hjob, horg⟩ := h
    obtain ⟨row, hrow, hrowOrg⟩ := rowChange_some (hchange jobId) hjob
    exact ⟨row, hrow, hrowOrg.trans horg⟩

/-- A change of rows that inserts nothing, and is no requeue, keeps the invariant. -/
theorem outboxInv_of_rowChange {action : Action} {world next : World} {nonces : List Uuid}
    (h : OutboxInv nonces world) (hhistory : next.history = world.history)
    (hchange : ∀ jobId, RowChange action jobId (world.jobs jobId) (next.jobs jobId))
    (hrequeue : ∀ jobId org nonce now checks, action ≠ .requeue jobId org nonce now checks) :
    OutboxInv nonces next where
  known := by
    rw [hhistory]
    exact fun entry hentry => known_of_rowChange hchange (List.Subset.refl _) (h.known entry hentry)
  behind jobId n entry hentry hkey := by
    rw [hhistory] at hentry
    obtain ⟨job, hjob, hbehind⟩ := h.behind jobId n entry hentry hkey
    rcases behind_rowChange (hchange jobId) hjob hbehind with hrow |
      ⟨org, nonce, now, checks, haction⟩
    · exact hrow
    · exact absurd haction (hrequeue jobId org nonce now checks)

/-- A change of rows that inserts one event keeps the invariant, when the event is known in
    the new world and, should the job have been requeued, starts its new life. -/
theorem outboxInv_of_insert {action : Action} {world next : World} {nonces nonces' : List Uuid}
    {entry : Logged} (h : OutboxInv nonces world)
    (hhistory : next.history = world.history ++ [entry])
    (hchange : ∀ jobId, RowChange action jobId (world.jobs jobId) (next.jobs jobId))
    (hnonces : nonces ⊆ nonces') (hknown : Known next nonces' entry)
    (hreturn : ∀ jobId n, IsReturnKey entry.key jobId n →
      ∃ job, next.jobs jobId = some job ∧ Behind n job)
    (hrequeue : ∀ jobId org nonce now checks, action = .requeue jobId org nonce now checks →
      entry.isRequeueOf jobId = true) : OutboxInv nonces' next where
  known := by
    rw [hhistory]
    intro other hother
    rcases List.mem_append.mp hother with hother | hother
    · exact known_of_rowChange hchange hnonces (h.known other hother)
    · obtain rfl := List.mem_singleton.mp hother
      exact hknown
  behind jobId n other hother hkey := by
    rw [hhistory, currentLife_append] at hother
    split at hother
    · cases hother
    case isFalse hlife =>
      rcases List.mem_cons.mp hother with rfl | hother
      · exact hreturn jobId n hkey
      · obtain ⟨job, hjob, hbehind⟩ := h.behind jobId n other hother hkey
        rcases behind_rowChange (hchange jobId) hjob hbehind with hrow |
          ⟨org, nonce, now, checks, haction⟩
        · exact hrow
        · exact absurd (hrequeue jobId org nonce now checks haction) hlife

/-! ## Keeping the invariant -/

/-- The nonce a requeue puts into its event key. -/
def Action.nonce? : Action → Option Uuid
  | .requeue _ _ nonce _ _ => some nonce
  | _ => none

theorem isReturnKey_of_eq {key : EventKey} {id jobId : Uuid} {m n : Nat}
    (hkey : key = .retry id m ∨ key = .recovery id m) (h : IsReturnKey key jobId n) :
    jobId = id ∧ n = m := by
  rcases hkey with rfl | rfl <;> rcases h with h | h <;> cases h <;> exact ⟨rfl, rfl⟩

/-- Inserting the event that returns a running job under its attempt number. -/
theorem outboxInv_of_return {action : Action} {world next : World} {nonces : List Uuid}
    {id organizationId : Uuid} {job row : GenerationJob} {key : EventKey} {now : Int}
    (h : OutboxInv nonces world) (hjob : world.jobs id = some job)
    (hinsert : insertEvent (world.setJob id row)
      (generationRequest key id organizationId now none) = .ok next)
    (hkey : key = .retry id job.attempts ∨ key = .recovery id job.attempts)
    (hstatus : row.status = .queued) (hattempts : row.attempts = job.attempts)
    (hchange : ∀ jobId, RowChange action jobId (world.jobs jobId) (next.jobs jobId))
    (hrequeue : ∀ jobId org nonce now checks, action ≠ .requeue jobId org nonce now checks) :
    OutboxInv nonces next := by
  obtain ⟨hhistory, hjobs⟩ := insertEvent_history hinsert
  have hrow : next.jobs id = some row := by rw [hjobs, setJob_jobs_self]
  refine outboxInv_of_insert h hhistory hchange (List.Subset.refl _) ?_ ?_ ?_
  · rcases hkey with rfl | rfl <;> exact ⟨row, hrow⟩
  · intro jobId n hreturn
    obtain ⟨rfl, rfl⟩ := isReturnKey_of_eq hkey hreturn
    refine ⟨row, hrow, ?_, ?_⟩
    · rw [hattempts]
    · rw [hstatus]
      exact fun hrunning => by cases hrunning
  · intro jobId org nonce now' checks haction
    exact absurd haction (hrequeue jobId org nonce now' checks)

theorem outboxInv_recoverJob {organizationId id : Uuid} {now : Int} {world next : World}
    {nonces : List Uuid} (h : OutboxInv nonces world)
    (hok : recoverJob organizationId now world id = .ok next) : OutboxInv nonces next := by
  have hchange : ∀ jobId, RowChange (.recover organizationId now [id]) jobId (world.jobs jobId)
      (next.jobs jobId) := recoverJob_change hok
  have hrequeue : ∀ jobId org nonce now' checks,
      Action.recover organizationId now [id] ≠ .requeue jobId org nonce now' checks := by simp
  rcases recoverJob_cases hok with rfl | ⟨job, hfind, hactive, hcases⟩
  · exact h
  obtain ⟨hjob, horg⟩ := findJob_eq_some.mp hfind
  rcases hcases with ⟨error, rfl⟩ | hinsert | rfl | ⟨hstatus, hflag, hinsert⟩ | rfl
  · exact outboxInv_of_rowChange h rfl hchange hrequeue
  · obtain ⟨hhistory, hjobs⟩ := insertEvent_history hinsert
    refine outboxInv_of_insert h hhistory hchange (List.Subset.refl _) ?_ ?_ ?_
    · exact ⟨job, by rw [hjobs]; exact hjob, rfl⟩
    · rintro jobId n (hkey | hkey) <;> cases hkey
    · intro jobId org nonce now' checks haction
      exact absurd haction (hrequeue jobId org nonce now' checks)
  · exact outboxInv_of_rowChange h
      (updateEvent_history fun event => redelivered_logged event now) hchange hrequeue
  · rcases recoverStaleJob_cases job now with ⟨hfalse, -⟩ | ⟨-, hq, -, -, hattempts, -⟩
    · rw [hflag] at hfalse
      cases hfalse
    · exact outboxInv_of_return h hjob hinsert (.inr rfl) hq hattempts hchange hrequeue
  · exact outboxInv_of_rowChange h rfl hchange hrequeue

theorem outboxInv_recoverStaleJobs {organizationId : Uuid} {now : Int} {ids : List Uuid}
    {world next : World} {nonces : List Uuid} (h : OutboxInv nonces world)
    (hok : recoverStaleJobs organizationId now world ids = .ok next) : OutboxInv nonces next := by
  induction ids generalizing world with
  | nil =>
    cases hok
    exact h
  | cons id ids ih =>
    simp only [recoverStaleJobs, bind_eq_ok] at hok
    obtain ⟨middle, hmiddle, hrest⟩ := hok
    exact ih (outboxInv_recoverJob h hmiddle) hrest

theorem outboxInv_attempt {env : Environment} {action : Action} {world next : World}
    {nonces : List Uuid} (h : OutboxInv nonces world) (hok : attempt env action world = .ok next) :
    OutboxInv (nonces ++ action.nonce?.toList) next := by
  have hchange := rowChange_attempt hok
  cases action with
  | enqueue id org hash now =>
    simp only [Action.nonce?, Option.toList_none, List.append_nil]
    simp only [attempt, enqueueJob] at hok
    split at hok
    · cases hok
    · obtain ⟨hhistory, hjobs⟩ := insertEvent_history hok
      refine outboxInv_of_insert h hhistory hchange (List.Subset.refl _) ?_ ?_ ?_
      · exact ⟨_, by rw [hjobs]; exact setJob_jobs_self _ _ _⟩
      · rintro jobId n (hkey | hkey) <;> cases hkey
      · intro jobId org' nonce now' checks haction
        cases haction
  | claim id org token now found =>
    simp only [Action.nonce?, Option.toList_none, List.append_nil]
    obtain ⟨claimed, hok⟩ := map_fst_eq_ok.mp hok
    exact outboxInv_of_rowChange h (history_congr (claimJob_onlyJobs hok).1) hchange (by simp)
  | renew id org token now =>
    simp only [Action.nonce?, Option.toList_none, List.append_nil]
    cases hok
    exact outboxInv_of_rowChange h
      (history_congr (renewJobLease_onlyJobs world id org token now).1) hchange (by simp)
  | complete id org token completedAt fenceAt result calls =>
    simp only [Action.nonce?, Option.toList_none, List.append_nil]
    obtain ⟨completed, hok⟩ := map_fst_eq_ok.mp hok
    exact outboxInv_of_rowChange h (history_congr (completeJob_outbox hok)) hchange (by simp)
  | recordFailure id org token failure terminal failedAt retryAfter =>
    simp only [Action.nonce?, Option.toList_none, List.append_nil]
    obtain ⟨status, hok⟩ := map_fst_eq_ok.mp hok
    rcases recordFailure_cases hok with rfl | ⟨job, hfind, ⟨error, rfl⟩ | ⟨retryAt, hinsert⟩⟩
    · exact h
    · exact outboxInv_of_rowChange h rfl hchange (by simp)
    · obtain ⟨hjob, -, -, -⟩ := findOwnedJob_eq_some.mp hfind
      exact outboxInv_of_return h hjob hinsert (.inl rfl) rfl rfl hchange (by simp)
  | recover org now ids =>
    simp only [Action.nonce?, Option.toList_none, List.append_nil]
    exact outboxInv_recoverStaleJobs h hok
  | requeue id org nonce now checks =>
    obtain ⟨requeued, hrequeue⟩ := map_fst_eq_ok.mp hok
    have hsub : nonces ⊆ nonces ++ (Action.requeue id org nonce now checks).nonce?.toList :=
      List.subset_append_left _ _
    have hmem : nonce ∈ nonces ++ (Action.requeue id org nonce now checks).nonce?.toList := by
      simp [Action.nonce?]
    rcases requeueJob_cases hrequeue with ⟨-, rfl⟩ | ⟨-, job, key, reason, -, -, hkey, hinsert⟩
    · exact ⟨fun entry hentry => known_of_rowChange hchange hsub (h.known entry hentry), h.behind⟩
    · obtain ⟨hhistory, -⟩ := insertEvent_history hinsert
      refine outboxInv_of_insert h hhistory hchange hsub ?_ ?_ ?_
      · rcases hkey with rfl | rfl <;> exact hmem
      · rcases hkey with rfl | rfl <;> (rintro jobId n (h | h) <;> cases h)
      · intro jobId org' nonce' now' checks' haction
        cases haction
        rcases hkey with rfl | rfl <;>
          simp [Logged.isRequeueOf, OutboxEvent.logged, generationRequest]
  | expire id org now =>
    simp only [Action.nonce?, Option.toList_none, List.append_nil]
    cases hok
    exact outboxInv_of_rowChange h
      (history_congr (expireOverdueJob_onlyJobs world id org now).1) hchange (by simp)
  | dispatch key now published =>
    simp only [Action.nonce?, Option.toList_none, List.append_nil]
    cases hok
    refine outboxInv_of_rowChange h (updateEvent_history fun event => ?_) hchange (by simp)
    split
    · exact dispatchEvent_logged event now published
    · rfl

/-! ## Returns to the queue -/

/-- The key under which recovery returns a stale job to the queue. -/
def recoveryKey (organizationId : Uuid) (now : Int) (world : World) (jobId : Uuid) :
    Option EventKey :=
  (findJob world jobId organizationId).bind fun job =>
    if isRecoverable job now && job.status ≠ .queued && (recoverStaleJob job now).2 then
      some (.recovery jobId job.attempts)
    else none

/-- The jobs an action returns to the queue, each with the key of the event it inserts. -/
def Action.returns (world : World) : Action → List (Uuid × EventKey)
  | .recordFailure jobId org token failure terminal failedAt retryAfter =>
    match findOwnedJob world jobId org token with
    | some job =>
      if 0 ≤ retryAfter ∧ failureReturns job failure terminal failedAt = true then
        [(jobId, .retry jobId job.attempts)]
      else []
    | none => []
  | .recover org now jobIds =>
    jobIds.dedup.filterMap fun jobId =>
      (recoveryKey org now world jobId).map fun key => (jobId, key)
  | _ => []

/-- An earlier life of the job already gave out the key. -/
def UsedInEarlierLife (world : World) (jobId : Uuid) (key : EventKey) : Prop :=
  ∃ entry ∈ earlierLives jobId world.history, entry.key = key

/-- The key of a running job at its attempt number is taken only by an earlier life. -/
theorem usedInEarlierLife_of_taken {world : World} {nonces : List Uuid}
    (h : OutboxInv nonces world) {jobId : Uuid} {job : GenerationJob} {key : EventKey}
    (hjob : world.jobs jobId = some job) (hrunning : job.status = .running)
    (hkey : IsReturnKey key jobId job.attempts) {entry : Logged} (hentry : entry ∈ world.history)
    (htaken : entry.key = key) : UsedInEarlierLife world jobId key := by
  rcases mem_history_iff.mp hentry with hcurrent | hearlier
  · obtain ⟨job', hjob', hbehind⟩ := h.behind jobId job.attempts entry hcurrent (htaken ▸ hkey)
    rw [hjob] at hjob'
    cases hjob'
    exact absurd (hbehind.2 hrunning) (Nat.lt_irrefl _)
  · exact ⟨entry, hearlier, htaken⟩

theorem mem_history_of_used {world : World} {jobId : Uuid} {key : EventKey}
    (h : UsedInEarlierLife world jobId key) : ∃ entry ∈ world.history, entry.key = key := by
  obtain ⟨entry, hentry, hkey⟩ := h
  exact ⟨entry, mem_history_iff.mpr (.inr hentry), hkey⟩

/-! ## Failures -/

theorem recordFailure_violation_iff {env : Environment} {world : World} {nonces : List Uuid}
    (h : OutboxInv nonces world) (id org token : Uuid) (failure : WorkerFailure)
    (terminal : Bool) (failedAt retryAfter : Int) :
    (∃ key, attempt env (.recordFailure id org token failure terminal failedAt retryAfter) world
        = .error (.uniqueViolation key)) ↔
      ∃ p ∈ (Action.recordFailure id org token failure terminal failedAt retryAfter).returns world,
        UsedInEarlierLife world p.1 p.2 := by
  by_cases hreturns : ∃ job, 0 ≤ retryAfter ∧ findOwnedJob world id org token = some job ∧
      failureReturns job failure terminal failedAt = true
  · obtain ⟨job, hretry, hfind, hreturns⟩ := hreturns
    obtain ⟨hjob, -, hrunning, -⟩ := findOwnedJob_eq_some.mp hfind
    have hlist : (Action.recordFailure id org token failure terminal failedAt retryAfter).returns
        world = [(id, .retry id job.attempts)] := by
      simp only [Action.returns, hfind]
      rw [if_pos ⟨hretry, hreturns⟩]
    rw [hlist, attempt, recordFailure_of_returns hretry hfind hreturns]
    simp only [List.mem_singleton, exists_eq_left]
    constructor
    · rintro ⟨key, hviolation⟩
      cases hinsert : insertEvent
          (world.setJob id (retryRow job failure (failedAt + retryAfter * secondUs)))
          (generationRequest (.retry id job.attempts) id org
            (failedAt + retryAfter * secondUs) none) with
      | ok next =>
        rw [hinsert] at hviolation
        cases hviolation
      | error e =>
        rw [hinsert] at hviolation
        obtain rfl : e = .uniqueViolation key := Except.error.inj hviolation
        obtain ⟨entry, hentry, hkey⟩ := insertEvent_violation hinsert
        exact usedInEarlierLife_of_taken h hjob hrunning (.inl rfl) hentry hkey
    · intro hused
      obtain ⟨entry, hentry, hkey⟩ := mem_history_of_used hused
      have htaken : entry ∈
          (world.setJob id (retryRow job failure (failedAt + retryAfter * secondUs))).history :=
        hentry
      refine ⟨.retry id job.attempts, ?_⟩
      rw [insertEvent_of_taken _ htaken hkey]
      rfl
  · have hlist : (Action.recordFailure id org token failure terminal failedAt retryAfter).returns
        world = [] := by
      simp only [Action.returns]
      split
      case h_1 job hfind =>
        rw [if_neg]
        rintro ⟨hretry, htrue⟩
        exact hreturns ⟨job, hretry, hfind, htrue⟩
      case h_2 => rfl
    rw [hlist]
    simp only [List.not_mem_nil, false_and, exists_false, iff_false, not_exists]
    intro key hviolation
    rw [attempt] at hviolation
    rcases recordFailure_of_not_returns hreturns with ⟨message, hraise⟩ | hsame |
      ⟨job, error, -, hended⟩
    · rw [hraise] at hviolation
      cases hviolation
    · rw [hsame] at hviolation
      cases hviolation
    · rw [hended] at hviolation
      cases hviolation

/-! ## Recovery -/

/-- The watchdog looks its key up before it inserts, so that its insert never fails. -/
theorem recoverUnclaimedQueuedDelivery_ok {world : World} {nonces : List Uuid}
    (h : OutboxInv nonces world) {id : Uuid} {job : GenerationJob} (now : Int)
    (hjob : world.jobs id = some job) :
    ∃ next, recoverUnclaimedQueuedDelivery world id job now = .ok next := by
  cases hresult : recoverUnclaimedQueuedDelivery world id job now with
  | ok next => exact ⟨next, rfl⟩
  | error e =>
    exfalso
    unfold recoverUnclaimedQueuedDelivery at hresult
    split at hresult
    · cases hresult
    split at hresult
    · cases hresult
    split at hresult
    · cases hresult
    split at hresult
    · cases hresult
    split at hresult
    · cases hresult
    dsimp only at hresult
    split at hresult
    case h_1 hfind =>
      split at hresult
      · cases hresult
      -- a row with the key would be of the job's tenant, and the lookup would have found it
      have hviolation : ∃ key, e = .uniqueViolation key := by
        unfold insertEvent at hresult
        split at hresult
        · exact ⟨_, (Except.error.inj hresult).symm⟩
        · cases hresult
      obtain ⟨key, rfl⟩ := hviolation
      obtain ⟨entry, hentry, hkey⟩ := insertEvent_violation hresult
      have hknown := h.known entry hentry
      obtain ⟨row, hrow, rfl⟩ := List.mem_map.mp hentry
      have hrowKey : row.eventKey = .deliveryWatchdog id := hkey
      simp only [Known, OutboxEvent.logged, hrowKey] at hknown
      obtain ⟨job', hjob', horg⟩ := hknown
      rw [hjob] at hjob'
      cases hjob'
      have hnone := List.find?_eq_none.mp hfind row hrow
      simp [hrowKey, horg] at hnone
    · split at hresult
      · cases hresult
      split at hresult
      · cases hresult
      split at hresult
      · cases hresult
      · cases hresult

theorem insertEvent_error {world : World} {event : OutboxEvent} {e : JobError}
    (h : insertEvent world event = .error e) : e = .uniqueViolation event.eventKey := by
  unfold insertEvent at h
  split at h
  · exact (Except.error.inj h).symm
  · cases h

/-- The recovery of one job fails exactly when an earlier life gave out its key. -/
theorem recoverJob_error_iff {world : World} {nonces : List Uuid} (h : OutboxInv nonces world)
    (organizationId id : Uuid) (now : Int) :
    (∃ e, recoverJob organizationId now world id = .error e) ↔
      ∃ key, recoveryKey organizationId now world id = some key ∧
        UsedInEarlierLife world id key := by
  unfold recoverJob recoveryKey
  cases hfind : findJob world id organizationId with
  | none => simp
  | some job =>
    have hjob := (findJob_eq_some.mp hfind).1
    simp only [Option.bind_some]
    by_cases hrecoverable : isRecoverable job now = true
    · by_cases hqueued : job.status = .queued
      · obtain ⟨next, hnext⟩ := recoverUnclaimedQueuedDelivery_ok h now hjob
        simp [hrecoverable, hqueued, hnext]
      · have hrunning : job.status = .running := by
          have hactive := not_terminal_of_recoverable hrecoverable
          cases hs : job.status <;> simp_all [JobStatus.isTerminal]
        cases hflag : (recoverStaleJob job now).2 with
        | false => simp [hrecoverable, hqueued]
        | true =>
          simp only [hrecoverable, hqueued, Bool.not_true, Bool.false_eq_true, if_false,
            if_true, ne_eq, not_false_eq_true, decide_true, Bool.and_self, Option.some.injEq,
            exists_eq_left']
          constructor
          · rintro ⟨e, hinsert⟩
            have hviolation := insertEvent_error hinsert
            rw [hviolation] at hinsert
            obtain ⟨entry, hentry, hkey⟩ := insertEvent_violation hinsert
            exact usedInEarlierLife_of_taken h hjob hrunning (.inr rfl) hentry hkey
          · intro hused
            obtain ⟨entry, hentry, hkey⟩ := mem_history_of_used hused
            have htaken : entry ∈ (world.setJob id (recoverStaleJob job now).1).history := hentry
            exact ⟨_, insertEvent_of_taken _ htaken hkey⟩
    · simp [hrecoverable]

theorem recoverJob_error {organizationId id : Uuid} {now : Int} {world : World}
    {nonces : List Uuid} (h : OutboxInv nonces world) {e : JobError}
    (herror : recoverJob organizationId now world id = .error e) :
    ∃ key, e = .uniqueViolation key := by
  unfold recoverJob at herror
  split at herror
  · cases herror
  case h_2 job hfind =>
    split at herror
    · cases herror
    split at herror
    · obtain ⟨next, hnext⟩ :=
        recoverUnclaimedQueuedDelivery_ok h now (findJob_eq_some.mp hfind).1
      rw [hnext] at herror
      cases herror
    · dsimp only at herror
      split at herror
      · exact ⟨_, insertEvent_error herror⟩
      · cases herror

/-- Recovery inserts no requeue event, and so starts no new life. -/
theorem recoverJob_used {organizationId id : Uuid} {now : Int} {world next : World}
    (h : recoverJob organizationId now world id = .ok next) (jobId : Uuid) (key : EventKey) :
    UsedInEarlierLife next jobId key ↔ UsedInEarlierLife world jobId key := by
  have hlives : earlierLives jobId next.history = earlierLives jobId world.history := by
    rcases recoverJob_cases h with rfl | ⟨job, -, -, hcases⟩
    · rfl
    rcases hcases with ⟨error, rfl⟩ | hinsert | rfl | ⟨-, -, hinsert⟩ | rfl
    · rfl
    · rw [(insertEvent_history hinsert).1]
      exact earlierLives_append rfl _
    · rw [updateEvent_history fun event => redelivered_logged event now]
    · rw [(insertEvent_history hinsert).1]
      exact earlierLives_append rfl _
    · rfl
  rw [UsedInEarlierLife, hlives, UsedInEarlierLife]

theorem recoveryKey_congr {organizationId jobId : Uuid} {now : Int} {world next : World}
    (h : next.jobs jobId = world.jobs jobId) :
    recoveryKey organizationId now next jobId = recoveryKey organizationId now world jobId := by
  rw [recoveryKey, findJob, h, ← findJob, recoveryKey]

theorem bind_eq_error {ε α β : Type} {x : Except ε α} {f : α → Except ε β} {e : ε} :
    (x >>= f) = .error e ↔ x = .error e ∨ ∃ a, x = .ok a ∧ f a = .error e := by
  cases x <;> simp [bind, Except.bind]

/-- A recovery transaction is rolled back exactly when an earlier life of one of its jobs gave
    out the key that the job needs now. -/
theorem recoverStaleJobs_violation_iff {organizationId : Uuid} {now : Int} {ids : List Uuid}
    (hids : ids.Nodup) {world : World} {nonces : List Uuid} (h : OutboxInv nonces world) :
    (∃ key, recoverStaleJobs organizationId now world ids = .error (.uniqueViolation key)) ↔
      ∃ id ∈ ids, ∃ key, recoveryKey organizationId now world id = some key ∧
        UsedInEarlierLife world id key := by
  induction ids generalizing world with
  | nil => simp [recoverStaleJobs]
  | cons id ids ih =>
    obtain ⟨hid, hnodup⟩ := List.nodup_cons.mp hids
    simp only [recoverStaleJobs, bind_eq_error, List.exists_mem_cons_iff]
    rw [← recoverJob_error_iff h]
    cases hfirst : recoverJob organizationId now world id with
    | error e =>
      obtain ⟨key, rfl⟩ := recoverJob_error h hfirst
      simp
    | ok middle =>
      -- the other jobs of the batch keep their rows and their earlier lives
      have hkept : ∀ id' ∈ ids, ∀ key,
          (recoveryKey organizationId now middle id' = some key ∧
            UsedInEarlierLife middle id' key) ↔
          (recoveryKey organizationId now world id' = some key ∧
            UsedInEarlierLife world id' key) := by
        intro id' hid' key
        have hne : id' ≠ id := fun heq => hid (heq ▸ hid')
        rw [recoveryKey_congr (recoverJob_jobs_of_ne hfirst hne), recoverJob_used hfirst]
      have hrest := ih hnodup (outboxInv_recoverJob h hfirst)
      simp only [reduceCtorEq, false_or, exists_false, Except.ok.injEq, exists_eq_left']
      rw [hrest]
      constructor
      · rintro ⟨id', hid', key, hused⟩
        exact ⟨id', hid', key, (hkept id' hid' key).mp hused⟩
      · rintro ⟨id', hid', key, hused⟩
        exact ⟨id', hid', key, (hkept id' hid' key).mpr hused⟩

/-! ## Other transactions -/

/-- The computation does not end in a violated unique constraint. -/
def NoViolation {α : Type} (x : Except JobError α) : Prop :=
  ∀ key, x ≠ .error (.uniqueViolation key)

theorem noViolation_ok {α : Type} (a : α) : NoViolation (.ok a : Except JobError α) := by
  intro key h
  cases h

theorem noViolation_bind {α β : Type} {x : Except JobError α} {f : α → Except JobError β}
    (hx : NoViolation x) (hf : ∀ a, NoViolation (f a)) : NoViolation (x >>= f) := by
  intro key h
  rcases bind_eq_error.mp h with h | ⟨a, -, h⟩
  · exact hx key h
  · exact hf a key h

theorem noViolation_require {cond : Bool} {err : JobError}
    (herr : ∀ key, err ≠ .uniqueViolation key) : NoViolation (require cond err) := by
  intro key h
  unfold require at h
  split at h
  · cases h
  · exact herr key (Except.error.inj h)

theorem noViolation_demand {α : Type} {value : Option α} {err : JobError}
    (herr : ∀ key, err ≠ .uniqueViolation key) : NoViolation (demand value err) := by
  intro key h
  cases value with
  | none => exact herr key (Except.error.inj h)
  | some a => cases h

theorem noViolation_map {α β : Type} {x : Except JobError α} {f : α → β} (hx : NoViolation x) :
    NoViolation (x.map f) := by
  intro key h
  cases x with
  | error e => exact hx key (by simpa [Except.map] using h)
  | ok a => cases h

theorem noViolation_appendEvidence (records : List ArtifactRecord) (total : Int)
    (items : List ArtifactRecord) : NoViolation (appendEvidence records total items) := by
  induction items generalizing records total with
  | nil => exact noViolation_ok _
  | cons item items ih =>
    refine noViolation_bind (noViolation_require (by simp [evidenceInvalid])) fun _ => ?_
    refine noViolation_bind (noViolation_require (by simp [evidenceInvalid])) fun _ => ?_
    exact noViolation_bind (noViolation_require (by simp [evidenceInvalid])) fun _ => ih _ _

theorem noViolation_artifactRecords (job : GenerationJob) (result : GenerationResult) :
    NoViolation (artifactRecords job result) := by
  refine noViolation_bind (noViolation_require (by simp)) fun _ => ?_
  refine noViolation_bind (noViolation_require (by simp [inventoryInvalid])) fun _ => ?_
  refine noViolation_bind (noViolation_demand (by simp [evidenceInvalid])) fun _ => ?_
  refine noViolation_bind (noViolation_require (by simp [evidenceInvalid])) fun _ => ?_
  refine noViolation_bind (noViolation_require (by simp [inventoryInvalid])) fun _ => ?_
  exact noViolation_appendEvidence _ _ _

theorem noViolation_recordArtifacts (env : Environment) (jobId organizationId token : Uuid)
    (world : World) (records : List ArtifactRecord) :
    NoViolation (recordArtifacts env jobId organizationId token world records) := by
  induction records generalizing world with
  | nil => exact noViolation_ok _
  | cons record records ih =>
    refine noViolation_bind ?_ fun next => ih next
    refine noViolation_bind (noViolation_require (by simp)) fun _ => ?_
    dsimp only
    split
    · exact noViolation_ok _
    · exact noViolation_bind (noViolation_require (by simp)) fun _ => noViolation_ok _

theorem noViolation_completeJob (env : Environment) (world : World)
    (jobId organizationId token : Uuid) (completedAt fenceAt : Int) (result : GenerationResult)
    (calls : CompletionCalls) :
    NoViolation (completeJob env world jobId organizationId token completedAt fenceAt result
      calls) := by
  unfold completeJob
  split
  · exact noViolation_ok _
  split
  · exact noViolation_ok _
  split
  · exact noViolation_ok _
  split
  · exact noViolation_ok _
  refine noViolation_bind (noViolation_artifactRecords _ _) fun _ => ?_
  refine noViolation_bind (noViolation_require (by simp)) fun _ => ?_
  refine noViolation_bind (noViolation_recordArtifacts _ _ _ _ _ _) fun _ => ?_
  refine noViolation_bind (noViolation_require (by simp)) fun _ => ?_
  refine noViolation_bind (noViolation_require (by simp)) fun _ => ?_
  refine noViolation_bind (noViolation_require (by simp)) fun _ => ?_
  exact noViolation_bind (noViolation_require (by simp)) fun _ => noViolation_ok _

theorem noViolation_claimJob (world : World) (jobId organizationId token : Uuid) (now : Int)
    (found : Bool) : NoViolation (claimJob world jobId organizationId token now found) := by
  unfold claimJob
  intro key h
  repeat' split at h
  all_goals cases h

/-- A job's first event is new: its id is. -/
theorem noViolation_enqueueJob {world : World} {nonces : List Uuid} (h : OutboxInv nonces world)
    (jobId organizationId : Uuid) (hash : String) (now : Int) :
    NoViolation (enqueueJob world jobId organizationId hash now) := by
  unfold enqueueJob
  split
  · intro key hviolation
    cases hviolation
  case h_2 hnone =>
    intro key hviolation
    obtain ⟨entry, hentry, hkey⟩ := insertEvent_violation hviolation
    have hknown := h.known entry hentry
    have hentryKey : entry.key = .requested jobId := hkey
    simp only [Known, hentryKey, hnone] at hknown
    obtain ⟨job, hjob⟩ := hknown
    cases hjob

/-- A requeue under a new nonce inserts a new event. -/
theorem noViolation_requeueJob {world : World} {nonces : List Uuid} (h : OutboxInv nonces world)
    {nonce : Uuid} (hnonce : nonce ∉ nonces) (jobId organizationId : Uuid) (now : Int)
    (checks : RequeueChecks) :
    NoViolation (requeueJob world jobId organizationId nonce now checks) := by
  have hfresh : ∀ row event, (event.eventKey = .manualRetry nonce ∨
      event.eventKey = .evidenceRepair jobId nonce) →
      NoViolation (insertEvent ((world.deleteArtifacts jobId organizationId).setJob jobId row)
        event) := by
    intro row event hkeys key hviolation
    obtain ⟨entry, hentry, hkey⟩ := insertEvent_violation hviolation
    have hknown := h.known entry hentry
    rcases hkeys with hevent | hevent <;>
      · rw [hevent] at hkey
        simp only [Known, hkey] at hknown
        exact hnonce hknown
  unfold requeueJob
  split
  · exact noViolation_ok _
  split
  · refine noViolation_bind (noViolation_require (by simp)) fun _ => ?_
    exact noViolation_bind (hfresh _ _ (.inl rfl)) fun _ => noViolation_ok _
  · refine noViolation_bind (noViolation_require (by simp)) fun _ => ?_
    split
    · exact noViolation_ok _
    · refine noViolation_bind (noViolation_require (by simp)) fun _ => ?_
      refine noViolation_bind (noViolation_require (by simp)) fun _ => ?_
      exact noViolation_bind (hfresh _ _ (.inr rfl)) fun _ => noViolation_ok _
  · exact noViolation_ok _

/-- A transaction is aborted by the unique constraint exactly when it returns a job under an
    attempt number that an earlier life of the job gave out. -/
theorem violation_iff {env : Environment} {action : Action} {world : World}
    {nonces : List Uuid} (h : OutboxInv nonces world)
    (hnonce : ∀ nonce ∈ action.nonce?, nonce ∉ nonces) :
    (∃ key, attempt env action world = .error (.uniqueViolation key)) ↔
      ∃ p ∈ action.returns world, UsedInEarlierLife world p.1 p.2 := by
  have hnone : NoViolation (attempt env action world) → action.returns world = [] →
      ((∃ key, attempt env action world = .error (.uniqueViolation key)) ↔
        ∃ p ∈ action.returns world, UsedInEarlierLife world p.1 p.2) := by
    intro hno hreturns
    rw [hreturns]
    simp only [List.not_mem_nil, false_and, exists_false, iff_false, not_exists]
    exact hno
  cases action with
  | enqueue id org hash now => exact hnone (noViolation_enqueueJob h id org hash now) rfl
  | claim id org token now found =>
    exact hnone (noViolation_map (noViolation_claimJob world id org token now found)) rfl
  | renew id org token now => exact hnone (noViolation_ok _) rfl
  | complete id org token completedAt fenceAt result calls =>
    exact hnone (noViolation_map
      (noViolation_completeJob env world id org token completedAt fenceAt result calls)) rfl
  | recordFailure id org token failure terminal failedAt retryAfter =>
    exact recordFailure_violation_iff h id org token failure terminal failedAt retryAfter
  | recover org now ids =>
    rw [attempt, recoverStaleJobs_violation_iff (List.nodup_dedup ids) h]
    simp only [Action.returns, List.mem_filterMap, Option.map_eq_some_iff]
    constructor
    · rintro ⟨id, hid, key, hkey, hused⟩
      exact ⟨(id, key), ⟨id, hid, key, hkey, rfl⟩, hused⟩
    · rintro ⟨p, ⟨id, hid, key, hkey, rfl⟩, hused⟩
      exact ⟨id, hid, key, hkey, hused⟩
  | requeue id org nonce now checks =>
    exact hnone (noViolation_map (noViolation_requeueJob h (hnonce nonce rfl) id org now checks))
      rfl
  | expire id org now => exact hnone (noViolation_ok _) rfl
  | dispatch key now published => exact hnone (noViolation_ok _) rfl

/-! ## Runs -/

/-- No transaction of the run is aborted by the unique constraint on event keys. -/
def KeysFresh (env : Environment) (actions : List Action) : Prop :=
  ∀ k action, actions[k]? = some action → ∀ key,
    attempt env action (worldAt env actions k) ≠ .error (.uniqueViolation key)

/-- No job is returned to the queue, by the same path, under an attempt number that it already
    gave out before its last requeue. -/
def AttemptsNotReused (env : Environment) (actions : List Action) : Prop :=
  ∀ k action, actions[k]? = some action → ∀ p ∈ action.returns (worldAt env actions k),
    ¬UsedInEarlierLife (worldAt env actions k) p.1 p.2

/-- The nonces of the run's requeues, in order. -/
def requeueNonces (actions : List Action) : List Uuid := actions.filterMap Action.nonce?

theorem requeueNonces_take_succ {actions : List Action} {k : Nat} {action : Action}
    (h : actions[k]? = some action) :
    requeueNonces (actions.take (k + 1)) =
      requeueNonces (actions.take k) ++ action.nonce?.toList := by
  obtain ⟨hk, rfl⟩ := List.getElem?_eq_some_iff.mp h
  rw [requeueNonces, List.take_succ_eq_append_getElem hk, List.filterMap_append, requeueNonces]
  cases hnonce : actions[k].nonce? <;> simp [hnonce]

theorem nonce_notMem_take {actions : List Action} (hnonces : (requeueNonces actions).Nodup)
    {k : Nat} {action : Action} (h : actions[k]? = some action) :
    ∀ nonce ∈ action.nonce?, nonce ∉ requeueNonces (actions.take k) := by
  intro nonce hnonce hmem
  have hsplit : (requeueNonces (actions.take (k + 1))).Nodup := by
    refine List.Nodup.sublist ?_ hnonces
    exact (List.take_sublist _ _).filterMap _
  rw [requeueNonces_take_succ h, hnonce, Option.toList_some] at hsplit
  exact (List.nodup_append.mp hsplit).2.2 nonce hmem nonce (by simp) rfl

theorem outboxInv_worldAt (env : Environment) (actions : List Action) (k : Nat) :
    OutboxInv (requeueNonces (actions.take k)) (worldAt env actions k) := by
  induction k with
  | zero =>
    refine ⟨?_, ?_⟩
    · intro entry hentry
      cases hentry
    · intro jobId n entry hentry
      cases hentry
  | succ k ih =>
    cases haction : actions[k]? with
    | none =>
      have hlength := List.getElem?_eq_none_iff.mp haction
      rw [worldAt, stateAt_succ_of_le hlength, List.take_of_length_le (Nat.le_succ_of_le hlength)]
      rwa [List.take_of_length_le hlength] at ih
    | some action =>
      rw [worldAt_succ haction, requeueNonces_take_succ haction, step]
      split
      case h_1 next hok => exact outboxInv_attempt ih hok
      case h_2 =>
        have hkept : ∀ jobId, RowChange action jobId ((worldAt env actions k).jobs jobId)
            ((worldAt env actions k).jobs jobId) := fun jobId => .kept _
        exact ⟨fun entry hentry => known_of_rowChange hkept (List.subset_append_left _ _)
          (ih.known entry hentry), ih.behind⟩

/-- Event keys are always fresh in a run exactly when no job reuses an attempt number across
    a requeue (the nonces, which `uuid4` draws, being distinct). -/
theorem event_keys_fresh_iff (env : Environment) (actions : List Action)
    (hnonces : (requeueNonces actions).Nodup) :
    KeysFresh env actions ↔ AttemptsNotReused env actions := by
  have hiff : ∀ k action, actions[k]? = some action →
      ((∃ key, attempt env action (worldAt env actions k) = .error (.uniqueViolation key)) ↔
        ∃ p ∈ action.returns (worldAt env actions k),
          UsedInEarlierLife (worldAt env actions k) p.1 p.2) := fun k action hk =>
    violation_iff (outboxInv_worldAt env actions k) (nonce_notMem_take hnonces hk)
  constructor
  · intro hfresh k action hk p hp hused
    obtain ⟨key, hviolation⟩ := (hiff k action hk).mpr ⟨p, hp, hused⟩
    exact hfresh k action hk key hviolation
  · intro hnot k action hk key hviolation
    obtain ⟨p, hp, hused⟩ := (hiff k action hk).mp ⟨key, hviolation⟩
    exact hnot k action hk p hp hused

/-! ## A reused attempt number -/

namespace ReusedAttempt

def job : Uuid := ⟨"11111111-1111-4111-8111-111111111111", by decide +kernel⟩

def organization : Uuid := ⟨"22222222-2222-4222-8222-222222222222", by decide +kernel⟩

def tokenA : Uuid := ⟨"33333333-3333-4333-8333-333333333333", by decide +kernel⟩

def tokenB : Uuid := ⟨"44444444-4444-4444-8444-444444444444", by decide +kernel⟩

def tokenC : Uuid := ⟨"55555555-5555-4555-8555-555555555555", by decide +kernel⟩

def nonce : Uuid := ⟨"66666666-6666-4666-8666-666666666666", by decide +kernel⟩

/-- Name-based UUIDs play no part in the run. -/
def env : Environment := ⟨fun space _ => space⟩

def failure : WorkerFailure := ⟨"ArtifactStorageUnavailableError: object store is down", false⟩

/-- The first attempt fails and is retried, the second one fails for good; after the manual
    requeue the first attempt fails once more. -/
def run : List Action := [
  .enqueue job organization "context" 0,
  .claim job organization tokenA 1 true,
  .recordFailure job organization tokenA failure false 2 5,
  .claim job organization tokenB 10000000 true,
  .recordFailure job organization tokenB failure true 10000001 5,
  .requeue job organization nonce 20000000 ⟨true, true, true, true⟩,
  .claim job organization tokenC 20000001 true,
  .recordFailure job organization tokenC failure false 20000002 5]

/-- The world before the last failure is recorded. -/
def before : World := worldAt env run 7

theorem last_aborts :
    (match attempt env (.recordFailure job organization tokenC failure false 20000002 5) before with
      | .error (.uniqueViolation key) => key == EventKey.retry job 1
      | _ => false) = true := by
  decide +kernel

theorem last_violates :
    attempt env (.recordFailure job organization tokenC failure false 20000002 5) before =
      .error (.uniqueViolation (.retry job 1)) := by
  have h := last_aborts
  split at h
  case h_1 key hkey => rw [hkey, beq_iff_eq.mp h]
  case h_2 => cases h

end ReusedAttempt

open ReusedAttempt in
/-- The second life of the job records its first failure under a taken key. -/
theorem not_keys_fresh_reused : ¬KeysFresh env run := by
  intro hfresh
  exact hfresh 7 _ rfl (.retry job 1) last_violates

open ReusedAttempt in
/-- The run reuses an attempt number, as it must. -/
theorem event_keys_fresh_iff_reused :
    (requeueNonces run).Nodup ∧ (KeysFresh env run ↔ AttemptsNotReused env run) := by
  have hnonces : (requeueNonces run).Nodup := by decide +kernel
  exact ⟨hnonces, event_keys_fresh_iff env run hnonces⟩

end Custombuild.Jobs
