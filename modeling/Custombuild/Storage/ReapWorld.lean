/-
  The whole system of uploaders, job changes, reapers and the provider: what holds in every
  state that any order of their steps reaches.
-/
import Custombuild.Storage.Ledger
import Custombuild.Storage.ReapSafety
import Custombuild.Storage.References

namespace Custombuild.Storage

open Custombuild.Lib

/-! ## Database steps -/

section Database

variable {cluster : Cluster} {bucket : String} {db db' : Database}

theorem executeAll_safe {statements : List Statement}
    (h : executeAll cluster db statements = .ok db') (hsafe : Safe bucket db)
    (hnames : ∀ statement ∈ statements, statement.names bucket = true) :
    Safe bucket db' ∧ (∀ key, Doomed db key → Doomed db' key) ∧
      ∀ tombstone ∈ db.tombstones, tombstone ∈ db'.tombstones := by
  induction statements generalizing db with
  | nil =>
    cases h
    exact ⟨hsafe, fun _ h => h, fun _ h => h⟩
  | cons statement statements ih =>
    simp only [executeAll, bind_eq_ok] at h
    obtain ⟨middle, hfirst, hrest⟩ := h
    have hstep := execute_rowsStep hfirst hsafe.consistent
    have hmiddle := execute_safe hfirst hsafe (hnames statement List.mem_cons_self)
    obtain ⟨hsafe', hdoomed, hkept⟩ :=
      ih hrest hmiddle fun s hs => hnames s (List.mem_cons_of_mem _ hs)
    exact ⟨hsafe', fun key hkey => hdoomed key (hstep.doomed hkey),
      fun tombstone hmem => hkept tombstone (hstep.kept tombstone hmem)⟩

theorem Safe.restart (h : Safe bucket db) (startedAt : Int) :
    Safe bucket { db with startedAt := startedAt } :=
  ⟨h.consistent.of_rows h.consistent.rows rfl (fun row hrow => ⟨row, hrow, rfl⟩) (fun _ _ => rfl)
    h.consistent.quota, h.bound, h.tombstones, h.retired, h.unowned⟩

/-- The state of the database that the rest of the system relies on. -/
structure Sound (bucket : String) (db : Database) : Prop where
  safe : Safe bucket db
  references : ReferencesOk db

/-- A transaction or a restart keeps the ledger safe and the references at their rows, and
    revives nothing. -/
theorem step_sound (h : Sound bucket db) {action : Action} (hnames : action.names bucket = true) :
    Sound bucket (step cluster action db) ∧
      (∀ key, Doomed db key → Doomed (step cluster action db) key) ∧
      ∀ tombstone ∈ db.tombstones, tombstone ∈ (step cluster action db).tombstones := by
  cases action with
  | restart delay => exact ⟨⟨h.safe.restart _, h.references⟩, fun _ h => h, fun _ h => h⟩
  | transaction statements =>
    simp only [step]
    cases hrun : runTransaction cluster db statements with
    | error e => exact ⟨h, fun _ h => h, fun _ h => h⟩
    | ok db' =>
      have hreferences := runTransaction_references hrun h.safe.consistent h.references
      simp only [runTransaction, bind_eq_ok] at hrun
      obtain ⟨middle, hmiddle, _, -, hdb'⟩ := hrun
      cases hdb'
      obtain ⟨hsafe, hkept⟩ := executeAll_safe hmiddle h.safe (List.all_eq_true.mp hnames)
      exact ⟨⟨hsafe, hreferences⟩, hkept⟩

/-- One claim function after the other is one transaction of claims. -/
theorem claimKind_executes {call : ReapBatchCall} {kind : AccountingState} {limit : Int}
    {reading : ReapReading} {progress progress' : Database × List StorageReapClaim}
    (h : claimKind cluster call kind limit reading progress = .ok progress') :
    ∃ calls : List ClaimReapCall,
      executeAll cluster progress.1 (calls.map Statement.claimReap) = .ok progress'.1 := by
  unfold claimKind at h
  split at h
  · cases h
    exact ⟨[], rfl⟩
  · simp only [bind_eq_ok] at h
    obtain ⟨⟨db', claims⟩, hclaim, hresult⟩ := h
    cases hresult
    refine ⟨[call.statement kind limit reading], ?_⟩
    simp only [List.map_cons, List.map_nil, executeAll, execute, hclaim]
    rfl

theorem executeAll_append {statements statements' : List Statement} {middle : Database}
    (h : executeAll cluster db statements = .ok middle)
    (h' : executeAll cluster middle statements' = .ok db') :
    executeAll cluster db (statements ++ statements') = .ok db' := by
  induction statements generalizing db with
  | nil =>
    cases h
    exact h'
  | cons statement statements ih =>
    simp only [executeAll, bind_eq_ok] at h
    obtain ⟨next, hfirst, hrest⟩ := h
    simp only [List.cons_append, executeAll, bind_eq_ok]
    exact ⟨next, hfirst, ih hrest⟩

theorem runTransaction_of_executeAll {calls : List ClaimReapCall}
    (h : executeAll cluster db (calls.map Statement.claimReap) = .ok db') :
    runTransaction cluster db (calls.map Statement.claimReap) = .ok db' := by
  have hwritten : (calls.map Statement.claimReap).filterMap Statement.writtenReference = [] := by
    rw [List.filterMap_eq_nil_iff]
    intro statement hstatement
    obtain ⟨call, -, rfl⟩ := List.mem_map.mp hstatement
    rfl
  simp only [runTransaction, h, hwritten]
  rfl

/-- A claimed batch is a transaction that binds no bucket. -/
theorem claimStorageReapBatch_step {call : ReapBatchCall} {claims : List StorageReapClaim}
    (h : claimStorageReapBatch cluster db call = .ok (db', claims)) (bucket : String) :
    ∃ action : Action, action.names bucket = true ∧ db' = step cluster action db := by
  simp only [claimStorageReapBatch, bind_eq_ok] at h
  obtain ⟨_, -, _, -, _, -, first, hfirst, second, hsecond, third, hthird, fourth, hfourth, _, -,
    hresult⟩ := h
  cases hresult
  obtain ⟨secondCalls, hsecond⟩ := claimKind_executes hsecond
  obtain ⟨thirdCalls, hthird⟩ := claimKind_executes hthird
  obtain ⟨fourthCalls, hfourth⟩ := claimKind_executes hfourth
  let firstCall := call.statement .reserved (max 1 ((call.batchSize + 1) / 2)) call.first
  have hstart : executeAll cluster db [Statement.claimReap firstCall] = .ok first.1 := by
    simp only [executeAll, execute, firstCall, hfirst]
    rfl
  have hall : executeAll cluster db
      (([firstCall] ++ secondCalls ++ thirdCalls ++ fourthCalls).map Statement.claimReap) =
        .ok db' := by
    simp only [List.map_append]
    exact executeAll_append (executeAll_append (executeAll_append hstart hsecond) hthird) hfourth
  refine ⟨.transaction (([firstCall] ++ secondCalls ++ thirdCalls ++ fourthCalls).map
    Statement.claimReap), ?_, ?_⟩
  · simp only [Action.names, List.all_eq_true]
    intro statement hstatement
    obtain ⟨claimCall, -, rfl⟩ := List.mem_map.mp hstatement
    rfl
  · simp only [step, runTransaction_of_executeAll hall]

end Database

/-! ## The invariant -/

/-- From the preflight until the provider has answered the DELETE. -/
def Phase.mayDelete : Phase → Bool
  | .preflighted | .identified | .deleteSent | .deleteAnswered => true
  | _ => false

/-- Every key that a DELETE was sent for, or may be sent for, is doomed. -/
structure WorldSound (bucket : String) (world : World) : Prop where
  sound : Sound bucket world.db
  requests : ∀ request ∈ world.requests, Doomed world.db request.2
  sessions : ∀ session ∈ world.sessions, session.phase.mayDelete = true →
    Doomed world.db session.claim.objectKey

def WorldAction.names (bucket : String) : WorldAction → Bool
  | .database action => action.names bucket
  | _ => true

section World

variable {cluster : Cluster} {bucket : String} {world : World}

/-- The database moves on, by a transaction or a restart. -/
theorem WorldSound.database (h : WorldSound bucket world) {action : Action}
    (hnames : action.names bucket = true) :
    WorldSound bucket { world with db := step cluster action world.db } := by
  obtain ⟨hsound, hdoomed, -⟩ := step_sound h.sound hnames
  exact ⟨hsound, fun request hmem => hdoomed _ (h.requests request hmem),
    fun session hmem hphase => hdoomed _ (h.sessions session hmem hphase)⟩

/-- A session moves on, into a phase that may delete only with a doomed key. -/
theorem WorldSound.moveTo (h : WorldSound bucket world) {index : Nat} {session : ReapSession}
    {phase : Phase}
    (hdoomed : phase.mayDelete = true → Doomed world.db session.claim.objectKey) :
    WorldSound bucket (world.moveTo index session phase) := by
  refine ⟨h.sound, h.requests, fun other hother hphase => ?_⟩
  rcases List.mem_or_eq_of_mem_set hother with hold | rfl
  · exact h.sessions other hold hphase
  · exact hdoomed hphase

theorem WorldSound.inPhase (h : WorldSound bucket world) {index : Nat} {phase : Phase}
    {next : ReapSession → World}
    (hnext : ∀ session ∈ world.sessions, session.phase = phase →
      WorldSound bucket (next session)) :
    WorldSound bucket (world.inPhase index phase next) := by
  unfold World.inPhase
  cases hsession : world.sessions[index]? with
  | none => exact h
  | some session =>
    simp only
    split
    · exact hnext session (List.mem_of_getElem? hsession) ‹_›
    · exact h

/-- The preflight passes only for a row in reaping. -/
theorem doomed_of_reapPreflight {db : Database} {claim : StorageReapClaim} {client : String}
    {now : Int} (h : reapPreflight cluster db claim client now = .ok none) :
    Doomed db claim.objectKey := by
  simp only [reapPreflight, bind_eq_ok] at h
  obtain ⟨_, -, _, -, _, -, _, -, _, -, h⟩ := h
  cases hrow : db.storedObject claim.organizationId claim.objectKey with
  | none =>
    simp only [hrow] at h
    cases h
  | some row =>
    simp only [hrow] at h
    split at h
    · cases h
    · rename_i howned
      simp only [Bool.not_eq_true', Bool.not_eq_false] at howned
      have hkeys := List.find?_some hrow
      simp only [Bool.and_eq_true, beq_iff_eq] at hkeys
      exact .inl ⟨row, List.mem_of_find?_eq_some hrow, hkeys.2, (ownsReapClaim_iff.mp howned).1⟩

theorem mayDelete_finalizeFailure (e : StorageError) : (finalizeFailure e).mayDelete = false := by
  unfold finalizeFailure
  split <;> rfl

/-- Every step of the system keeps it sound. -/
theorem step_worldSound (h : WorldSound bucket world) {action : WorldAction}
    (hnames : action.names bucket = true) : WorldSound bucket (world.step cluster action) := by
  cases action with
  | database action => exact h.database hnames
  | put object => exact ⟨h.sound, h.requests, h.sessions⟩
  | claim call client =>
    simp only [World.step]
    cases hclaim : claimStorageReapBatch cluster world.db call with
    | error e => exact h
    | ok result =>
      obtain ⟨db', claims⟩ := result
      obtain ⟨action, haction, rfl⟩ := claimStorageReapBatch_step hclaim bucket
      have hmoved : WorldSound bucket { world with db := step cluster action world.db } :=
        h.database haction
      refine ⟨hmoved.sound, hmoved.requests, fun session hsession hphase => ?_⟩
      rcases List.mem_append.mp hsession with hold | hnew
      · exact hmoved.sessions session hold hphase
      · obtain ⟨claim, -, rfl⟩ := List.mem_map.mp hnew
        cases hphase
  | preflight index now =>
    refine h.inPhase fun session hsession hphase => ?_
    cases hpreflight : reapPreflight cluster world.db session.claim session.bucket now with
    | error e => exact h.moveTo fun hmay => Bool.noConfusion hmay
    | ok result =>
      cases result with
      | none => exact h.moveTo fun _ => doomed_of_reapPreflight hpreflight
      | some status => exact h.moveTo fun hmay => Bool.noConfusion hmay
  | headBefore index response =>
    refine h.inPhase fun session hsession hphase => h.moveTo fun _ => ?_
    exact h.sessions session hsession (by rw [hphase]; rfl)
  | sendDelete index =>
    refine h.inPhase fun session hsession hphase => ?_
    have hdoomed : Doomed world.db session.claim.objectKey :=
      h.sessions session hsession (by rw [hphase]; rfl)
    have hmoved : WorldSound bucket (world.moveTo index session .deleteSent) :=
      h.moveTo fun _ => hdoomed
    refine ⟨hmoved.sound, fun request hrequest => ?_, hmoved.sessions⟩
    rcases List.mem_append.mp hrequest with hold | hnew
    · exact hmoved.requests request hold
    · rw [List.mem_singleton.mp hnew]
      exact hdoomed
  | executeDelete index =>
    simp only [World.step]
    cases world.requests[index]? with
    | none => exact h
    | some request => exact ⟨h.sound, h.requests, h.sessions⟩
  | deleteAnswer index status =>
    refine h.inPhase fun session hsession hphase => h.moveTo fun _ => ?_
    exact h.sessions session hsession (by rw [hphase]; rfl)
  | headAfter index response =>
    refine h.inPhase fun session hsession hphase => h.moveTo fun _ => ?_
    exact h.sessions session hsession (by rw [hphase]; rfl)
  | finalize index now =>
    refine h.inPhase fun session hsession hphase => ?_
    cases hrun : runTransaction cluster world.db
        [.finalizeReap (finalizeCall session.claim session.bucket now)] with
    | error e =>
      simp only [hrun]
      refine h.moveTo fun hmay => ?_
      rw [mayDelete_finalizeFailure] at hmay
      cases hmay
    | ok db' =>
      simp only [hrun]
      let action := Action.transaction
        [.finalizeReap (finalizeCall session.claim session.bucket now)]
      have hdb' : db' = step cluster action world.db := by
        simp only [action, step, hrun]
      have hmoved : WorldSound bucket { world with db := step cluster action world.db } :=
        h.database rfl
      rw [← hdb'] at hmoved
      have hdone : WorldSound bucket
          (World.moveTo { world with db := db' } index session (.finished .deleted)) :=
        hmoved.moveTo fun hmay => Bool.noConfusion hmay
      exact hdone
  | crash index =>
    simp only [World.step]
    cases world.sessions[index]? with
    | none => exact h
    | some session => exact h.moveTo fun hmay => Bool.noConfusion hmay

/-- The database of the system changes by transactions and restarts that bind no other bucket. -/
theorem step_world_db {action : WorldAction} (hnames : action.names bucket = true) :
    (world.step cluster action).db = world.db ∨ ∃ change : Action, change.names bucket = true ∧
      (world.step cluster action).db = step cluster change world.db := by
  have hphase (index : Nat) (phase : Phase) (next : ReapSession → World)
      (hnext : ∀ session, (next session).db = world.db) :
      (world.inPhase index phase next).db = world.db := by
    unfold World.inPhase
    split
    · split
      · exact hnext _
      · rfl
    · rfl
  cases action with
  | database change => exact .inr ⟨change, hnames, rfl⟩
  | put object => exact .inl rfl
  | claim call client =>
    simp only [World.step]
    cases hclaim : claimStorageReapBatch cluster world.db call with
    | error e => exact .inl rfl
    | ok result => exact .inr (claimStorageReapBatch_step hclaim bucket)
  | preflight index now =>
    refine .inl (hphase index .claimed _ fun session => ?_)
    split <;> rfl
  | headBefore index response => exact .inl (hphase index .preflighted _ fun session => rfl)
  | sendDelete index => exact .inl (hphase index .identified _ fun session => rfl)
  | executeDelete index =>
    simp only [World.step]
    split
    · exact .inl rfl
    · exact .inl rfl
  | deleteAnswer index status => exact .inl (hphase index .deleteSent _ fun session => rfl)
  | headAfter index response => exact .inl (hphase index .deleteAnswered _ fun session => rfl)
  | finalize index now =>
    simp only [World.step, World.inPhase]
    split
    · rename_i session _
      split
      · let change := Action.transaction
          [.finalizeReap (finalizeCall session.claim session.bucket now)]
        cases hrun : runTransaction cluster world.db
            [.finalizeReap (finalizeCall session.claim session.bucket now)] with
        | error e => exact .inl rfl
        | ok db' =>
          refine .inr ⟨change, rfl, ?_⟩
          simp only [change, step, hrun]
      · exact .inl rfl
    · exact .inl rfl
  | crash index =>
    simp only [World.step]
    split
    · exact .inl rfl
    · exact .inl rfl

/-- No step of the system revives a doomed key or forgets a tombstone. -/
theorem step_world_keeps (h : WorldSound bucket world) {action : WorldAction}
    (hnames : action.names bucket = true) :
    (∀ key, Doomed world.db key → Doomed (world.step cluster action).db key) ∧
      ∀ tombstone ∈ world.db.tombstones, tombstone ∈ (world.step cluster action).db.tombstones := by
  rcases step_world_db hnames with hsame | ⟨change, hchange, hmoved⟩
  · rw [hsame]
    exact ⟨fun _ h => h, fun _ h => h⟩
  · rw [hmoved]
    exact (step_sound h.sound hchange).2

end World

/-! ## Runs -/

section Runs

variable {cluster : Cluster} {tables : LegacyTables} {startedAt now : Int} {db : Database}
  {bucket : String}

theorem backfill_sound (h : backfill tables startedAt now = .ok db) : Sound bucket db := by
  have hbackfilled := backfill_backfilled h
  refine ⟨⟨backfill_consistent h, fun quota hquota => .inl ?_, fun tombstone hmem => ?_,
    fun tombstone hmem => ?_, fun row hrow hstate => ?_⟩, backfill_references h⟩
  · obtain ⟨loaded, -, rfl⟩ := backfill_cases h
    cases hquota
    rfl
  · rw [backfill_tombstones h] at hmem
    cases hmem
  · rw [backfill_tombstones h] at hmem
    cases hmem
  · rw [hbackfilled.committed row hrow] at hstate
    cases hstate

/-- A reservation that returns names no retired key and no retired identity. -/
theorem reserve_unretired {call : ReserveCall} {claims : List StorageObjectClaim} {db' : Database}
    {reservation : StorageReservation} (hsafe : Safe bucket db) {tombstone : Tombstone}
    (hmem : tombstone ∈ db.tombstones)
    (h : reserveBatch cluster db call = .ok (db', reservation))
    (hclaims : assertClaims cluster call.claims = .ok claims) {claim : StorageObjectClaim}
    (hclaim : claim ∈ claims) :
    claim.objectKey ≠ tombstone.objectKey ∧ claim.idempotencyKey ≠ tombstone.idempotencyKey := by
  simp only [reserveBatch, bind_eq_ok, demand_eq_ok, hclaims, Except.ok.injEq] at h
  obtain ⟨_, -, _, -, parsed, rfl, _, -, quota, hquota, _, hfences, base, hbase, tenant, -,
    progress, hloop, -⟩ := h
  have htombstones : base.tombstones = db.tombstones := by
    rcases insertTenantQuotaIfMissing_cases hbase with ⟨rfl, -⟩ | ⟨-, -, rfl⟩
    · rfl
    · rfl
  have hrows : RowsOk base.storedObjects := by
    rw [insertTenantQuotaIfMissing_storedObjects hbase]
    exact hsafe.consistent.rows
  have hbatch := (canonicalBatch_of_assertClaims hclaims).ordered
  have hreservable := ((reserveClaims_eq_ok hrows hbatch.apart).mp hloop).1 claim
    (mem_orderedClaims.mpr hclaim)
  obtain ⟨found, hfound, hbucket⟩ :=
    hsafe.retires hmem hquota (bucket_of_reserveFences hfences)
  obtain rfl : quota = found := Option.some.inj (hquota.symm.trans hfound)
  simp only [isReservable, Bool.and_eq_true, Bool.not_eq_true', isRetired, htombstones,
    List.any_eq_false, Bool.or_eq_true, beq_iff_eq, not_and, not_or] at hreservable
  obtain ⟨hkey, hidentity⟩ := hreservable.1 tombstone hmem hbucket.symm
  exact ⟨Ne.symm hkey, Ne.symm hidentity⟩

/-- The system after the first `k` steps of a run from the migrated ledger. -/
def worldAt (cluster : Cluster) (db : Database) (objects : List ProviderObject)
    (actions : List WorldAction) (k : Nat) : World :=
  stateAt (fun action world => World.step cluster action world) (World.initial db objects) actions k

theorem worldAt_sound {objects : List ProviderObject} {actions : List WorldAction}
    (h : backfill tables startedAt now = .ok db)
    (hnames : ∀ action ∈ actions, action.names bucket = true) (k : Nat) :
    WorldSound bucket (worldAt cluster db objects actions k) := by
  have hstart : WorldSound bucket (World.initial db objects) := by
    refine ⟨backfill_sound h, fun request hrequest => ?_, fun session hsession => ?_⟩
    · cases hrequest
    · cases hsession
  exact stateAt_invariant hstart (fun world hworld action haction =>
    step_worldSound hworld (hnames action haction)) k

/-- What was doomed or retired at one position of a run is so at every later one. -/
theorem worldAt_keeps {objects : List ProviderObject} {actions : List WorldAction}
    (h : backfill tables startedAt now = .ok db)
    (hnames : ∀ action ∈ actions, action.names bucket = true) {i j : Nat} (hij : i ≤ j) :
    (∀ key, Doomed (worldAt cluster db objects actions i).db key →
      Doomed (worldAt cluster db objects actions j).db key) ∧
    ∀ tombstone ∈ (worldAt cluster db objects actions i).db.tombstones,
      tombstone ∈ (worldAt cluster db objects actions j).db.tombstones := by
  refine ⟨fun key hkey => ?_, fun tombstone hmem => ?_⟩
  · refine stateAt_invariant_from (I := fun world : World => Doomed world.db key) hij hkey
      fun k action haction hdoomed => ?_
    exact (step_world_keeps (worldAt_sound h hnames k)
      (hnames action (List.mem_of_getElem? haction))).1 key hdoomed
  · refine stateAt_invariant_from (I := fun world : World => tombstone ∈ world.db.tombstones) hij
      hmem fun k action haction hkept => ?_
    exact (step_world_keeps (worldAt_sound h hnames k)
      (hnames action (List.mem_of_getElem? haction))).2 tombstone hkept

end Runs

/-- For every run of uploaders, job changes, reapers and the provider from the migrated
    ledger, as long as the ledger is bound to one bucket: when a DELETE is executed no row
    under its key is reserved or committed; every reference points at a committed row with
    exactly its identity; nothing that a queued or running job owns is in reaping; a key that
    was in reaping is never reserved or committed again; and a finalization leaves a tombstone
    with which no reservation ever returns for that key or that identity again. -/
theorem reaping_spares_live_data (cluster : Cluster) {tables : LegacyTables} {startedAt now : Int}
    {db : Database} (hbackfill : backfill tables startedAt now = .ok db)
    (objects : List ProviderObject) (bucket : String) (actions : List WorldAction)
    (hbucket : ∀ action ∈ actions, action.names bucket = true) :
    (∀ k index client key, actions[k]? = some (.executeDelete index) →
      (worldAt cluster db objects actions k).requests[index]? = some (client, key) →
      ∀ row ∈ (worldAt cluster db objects actions k).db.storedObjects, row.objectKey = key →
        row.state ≠ .reserved ∧ row.state ≠ .committed) ∧
    (∀ k, ∀ reference ∈ (worldAt cluster db objects actions k).db.references,
      ∃ identity, referenceIdentity (worldAt cluster db objects actions k).db reference =
          some identity ∧
        ∃ row ∈ (worldAt cluster db objects actions k).db.storedObjects,
          rowMatchesReference row reference identity = true) ∧
    (∀ k, ∀ row ∈ (worldAt cluster db objects actions k).db.storedObjects,
      row.ownerType = "generation_job" →
      ∀ job ∈ (worldAt cluster db objects actions k).db.generationJobs,
        job.organizationId = row.organizationId → job.id = row.ownerId →
        (job.status = .queued ∨ job.status = .running) → row.state ≠ .reaping) ∧
    (∀ i j, i ≤ j → ∀ row ∈ (worldAt cluster db objects actions i).db.storedObjects,
      row.state = .reaping → ∀ row' ∈ (worldAt cluster db objects actions j).db.storedObjects,
        row'.objectKey = row.objectKey → row'.state ≠ .reserved ∧ row'.state ≠ .committed) ∧
    (∀ i call final, finalizeReap cluster (worldAt cluster db objects actions i).db call =
        .ok final →
      ∃ row ∈ (worldAt cluster db objects actions i).db.storedObjects,
        row.objectKey = call.objectKey ∧ ∃ tombstone ∈ final.tombstones,
          tombstone.objectKey = row.objectKey ∧ tombstone.idempotencyKey = row.idempotencyKey) ∧
    (∀ i j, i ≤ j → ∀ tombstone ∈ (worldAt cluster db objects actions i).db.tombstones,
      ∀ statements middle, (∀ statement ∈ statements, Statement.names bucket statement = true) →
        executeAll cluster (worldAt cluster db objects actions j).db statements = .ok middle →
      ∀ call claims result, reserveBatch cluster middle call = .ok result →
        assertClaims cluster call.claims = .ok claims → ∀ claim ∈ claims,
          claim.objectKey ≠ tombstone.objectKey ∧
            claim.idempotencyKey ≠ tombstone.idempotencyKey) := by
  have hsound (k : Nat) : WorldSound bucket (worldAt cluster db objects actions k) :=
    worldAt_sound hbackfill hbucket k
  refine ⟨fun k index client key _ hrequest row hrow hkey => ?_, fun k => (hsound k).sound.references,
    fun k row hrow htype job hjob horganization howner hlive hstate => ?_,
    fun i j hij row hrow hstate row' hrow' hkey => ?_, fun i call final hfinal => ?_,
    fun i j hij tombstone hmem statements middle hnames hmiddle call claims result hreserve hclaims
      claim hclaim => ?_⟩
  · have hdoomed := (hsound k).requests _ (List.mem_of_getElem? hrequest)
    rw [(hsound k).sound.safe.state_of_doomed hdoomed hrow hkey]
    exact ⟨by decide, by decide⟩
  · obtain ⟨hqueued, hrunning⟩ :=
      (hsound k).sound.safe.unowned row hrow hstate htype job hjob horganization howner
    rcases hlive with hstatus | hstatus
    · exact hqueued hstatus
    · exact hrunning hstatus
  · have hdoomed := (worldAt_keeps hbackfill hbucket hij).1 row.objectKey
      (.inl ⟨row, hrow, rfl, hstate⟩)
    rw [(hsound j).sound.safe.state_of_doomed hdoomed hrow' hkey]
    exact ⟨by decide, by decide⟩
  · obtain ⟨kind, quota, tenant, row, hcase, rfl⟩ :=
      finalizeReap_cases hfinal (hsound i).sound.safe.consistent.rows
    refine ⟨row, hcase.row_mem, hcase.row_key, tombstoneOf row kind call, ?_, rfl, rfl⟩
    cases kind <;> exact List.mem_append_right _ (List.mem_singleton_self _)
  · have hkept := (worldAt_keeps hbackfill hbucket hij).2 tombstone hmem
    obtain ⟨hsafe, -, htombstones⟩ := executeAll_safe hmiddle (hsound j).sound.safe hnames
    exact reserve_unretired hsafe (htombstones tombstone hkept) hreserve hclaims hclaim

namespace Sample

def reading (now : Int) : ReapReading := ⟨reaper, now, []⟩

def reapBatch (now : Int) : ReapBatchCall :=
  ⟨organization, 10, 60, reading now, reading now, reading now, reading now⟩

/-- An upload that nothing refers to is committed, claimed and deleted; the DELETE is executed
    once more after the finalization. -/
def reaped : List WorldAction :=
  actions.take 3 |>.map WorldAction.database |>.append
    [.put ⟨"bucket", "assets/b", sha256, 20⟩, .claim (reapBatch 8) "bucket", .preflight 0 9,
      .headBefore 0 (.returned (some 200) (some 20) (some sha256)), .sendDelete 0, .executeDelete 0,
      .deleteAnswer 0 (some 204), .headAfter 0 (.raised (some 404)), .finalize 0 10,
      .executeDelete 0]

theorem reaped_deletes : (okAnd (backfill tables 0 1) fun db =>
    (worldAt cluster db [] reaped 12).requests[0]? == some ("bucket", "assets/b") &&
      (worldAt cluster db [] reaped 12).db.tombstones.length == 1) = true := by
  decide +kernel

example : reaped.length = 13 := by decide +kernel

end Sample

theorem reaping_spares_live_data_sample : ∃ db, backfill Sample.tables 0 1 = .ok db ∧
    (worldAt Sample.cluster db [] Sample.reaped 12).requests[0]? = some ("bucket", "assets/b") ∧
    ∀ row ∈ (worldAt Sample.cluster db [] Sample.reaped 12).db.storedObjects,
      row.objectKey = "assets/b" → row.state ≠ .reserved ∧ row.state ≠ .committed := by
  obtain ⟨db, hdb, hruns⟩ := exists_of_okAnd Sample.reaped_deletes
  rw [Bool.and_eq_true, beq_iff_eq] at hruns
  have hnames : ∀ action ∈ Sample.reaped, action.names "bucket" = true := by decide +kernel
  have hdeletes := (reaping_spares_live_data Sample.cluster hdb [] "bucket" Sample.reaped hnames).1
  exact ⟨db, hdb, hruns.1, hdeletes 12 0 "bucket" "assets/b" rfl hruns.1⟩

end Custombuild.Storage
