/-
  Reaper processes and the object store.  A reaper claims rows in one transaction, and takes
  every claim through a preflight, HEAD, DELETE, HEAD and a finalizing transaction; between
  any two of these anything else may happen.
  Source: `app/storage_reaper.py`, the PostgreSQL path.

  The answers of the provider are arbitrary.  A DELETE that was sent may be executed at any
  later time, more than once or never, and whether or not its caller still waits for it.
-/
import Custombuild.Storage.Backfill
import Custombuild.Storage.Statement

namespace Custombuild.Storage

open Custombuild.Lib

def maxReapBatchSize : Int := 100

def maxReapClaimSeconds : Int := 1800

/-- `_canonical_text`, with the condition of the backfill. -/
def reaperText (name value : String) (maximum : Nat) : Except StorageError Unit :=
  require (isLegacyText value maximum) (.recovery (name ++ " is not canonical"))

/-! ## Claiming a batch -/

/-- The token, the clock and the locked rows of one call of the claim function. -/
structure ReapReading where
  claimToken : String
  now : Int
  skipped : List String

/-- The arguments of `claim_storage_reap_batch`, with what its four calls read. -/
structure ReapBatchCall where
  organizationId : String
  batchSize : Int
  claimDurationSeconds : Int
  first : ReapReading
  second : ReapReading
  third : ReapReading
  fourth : ReapReading

def ReapBatchCall.statement (call : ReapBatchCall) (kind : AccountingState) (limit : Int)
    (reading : ReapReading) : ClaimReapCall :=
  ⟨call.organizationId, call.organizationId, reading.claimToken, call.claimDurationSeconds, limit,
    kind, reading.now, reading.skipped⟩

/-- One call of the batch, left out when its share is empty. -/
def claimKind (cluster : Cluster) (call : ReapBatchCall) (kind : AccountingState) (limit : Int)
    (reading : ReapReading) (progress : Database × List StorageReapClaim) :
    Except StorageError (Database × List StorageReapClaim) :=
  if limit = 0 then .ok progress
  else do
    let (db, claims) ← claimReap cluster progress.1 (call.statement kind limit reading)
    return (db, progress.2 ++ claims)

/-- `claim_storage_reap_batch`: half of the batch for expired reservations, half for committed
    objects, and what is left over to either. -/
def claimStorageReapBatch (cluster : Cluster) (db : Database) (call : ReapBatchCall) :
    Except StorageError (Database × List StorageReapClaim) := do
  reaperText "organization_id" call.organizationId 36
  require (0 < call.batchSize && call.batchSize ≤ maxReapBatchSize)
    (.recovery "batch_size is outside the safe range")
  require (0 < call.claimDurationSeconds && call.claimDurationSeconds ≤ maxReapClaimSeconds)
    (.recovery "claim duration is outside the safe window")
  let reservedTarget := max 1 ((call.batchSize + 1) / 2)
  let pendingTarget := call.batchSize - reservedTarget
  let progress ← claimReap cluster db (call.statement .reserved reservedTarget call.first)
  let progress ← claimKind cluster call .committed pendingTarget call.second progress
  let remaining := call.batchSize - progress.2.length
  let progress ← claimKind cluster call .reserved remaining call.third progress
  let remaining := call.batchSize - progress.2.length
  let progress ← claimKind cluster call .committed remaining call.fourth progress
  require (progress.2.length ≤ call.batchSize &&
      decide (progress.2.map StorageReapClaim.objectKey).Nodup)
    (.recovery "storage reaper functions returned an invalid combined batch")
  return progress

/-! ## One claim -/

inductive StorageReapStatus where
  | deleted
  | providerError
  | objectStillPresent
  | identityMismatch
  | domainReference
  | ownershipLost
deriving DecidableEq

/-- `_claim_identity_is_canonical`. -/
def claimIsCanonical (claim : StorageReapClaim) : Bool :=
  isUuidText claim.claimToken && counterKindFromToken claim.claimToken == some claim.counterKind &&
    isSha256Text claim.sha256 && 0 < claim.sizeBytes

/-- The checks of `reap_storage_claim` and `_postgresql_reap_preflight`: nothing, or why the
    claim is given up. -/
def reapPreflight (cluster : Cluster) (db : Database) (claim : StorageReapClaim) (bucket : String)
    (now : Int) : Except StorageError (Option StorageReapStatus) := do
  reaperText "bucket" bucket 63
  require (claimIsCanonical claim) (.recovery "reaper claim identity is not canonical")
  reaperText "organization_id" claim.organizationId 36
  reaperText "object_key" claim.objectKey 512
  assertReapBucket cluster db bucket
  match db.storedObject claim.organizationId claim.objectKey with
  | none => return some .ownershipLost
  | some row =>
    if !ownsReapClaim row claim.sha256 claim.sizeBytes claim.claimToken now then
      return some .ownershipLost
    if db.isReferenced claim.organizationId claim.objectKey || db.hasLiveOwner row now then
      return some .domainReference
    return none

/-- What `head_object` returns, or raises, of the status, the length and the digest. -/
inductive HeadResponse where
  | raised (status : Option Int)
  | returned (status : Option Int) (contentLength : Option Int) (sha256 : Option String)

def isSuccess (status : Option Int) : Bool := status.any fun code => 200 ≤ code && code < 300

/-- Where a claim is. -/
inductive Phase where
  | claimed
  | preflighted
  | identified
  | deleteSent
  | deleteAnswered
  | absent
  | finished (status : StorageReapStatus)
  | gone
deriving DecidableEq

/-- The first HEAD of `_delete_and_confirm_missing`. -/
def headBefore (claim : StorageReapClaim) : HeadResponse → Phase
  | .raised status => if status = some 404 then .absent else .finished .providerError
  | .returned status contentLength sha256 =>
    if !isSuccess status then .finished .providerError
    else if contentLength = some claim.sizeBytes ∧ sha256 = some claim.sha256 then .identified
    else .finished .identityMismatch

/-- The answer to the DELETE; an exception is an answer without a success status. -/
def deleteAnswer (status : Option Int) : Phase :=
  if isSuccess status then .deleteAnswered else .finished .providerError

/-- The HEAD that confirms the deletion. -/
def headAfter (response : HeadResponse) : Phase :=
  let status := match response with
    | .raised status => status
    | .returned status _ _ => status
  if status = some 404 then .absent
  else if isSuccess status then .finished .objectStillPresent
  else .finished .providerError

def finalizeCall (claim : StorageReapClaim) (bucket : String) (now : Int) : FinalizeReapCall :=
  ⟨claim.organizationId, claim.organizationId, claim.objectKey, claim.sha256, claim.sizeBytes,
    claim.claimToken, bucket, now⟩

/-- The outcome of a finalization that raised. -/
def finalizeFailure : StorageError → Phase
  | .raised "23503" _ => .finished .domainReference
  | .raised "23505" _ => .finished .ownershipLost
  | _ => .gone

/-! ## The system -/

structure ProviderObject where
  bucket : String
  objectKey : String
  sha256 : String
  sizeBytes : Int
deriving DecidableEq

/-- A claim in the hands of a reaper, with the bucket it was configured for. -/
structure ReapSession where
  claim : StorageReapClaim
  bucket : String
  phase : Phase

/-- The database, the objects of the provider, the DELETE requests sent so far, as bucket and
    key, and the claims of all reapers. -/
structure World where
  db : Database
  objects : List ProviderObject
  requests : List (String × String)
  sessions : List ReapSession

inductive WorldAction where
  /-- A transaction of anybody else, or a restart of the database. -/
  | database (action : Action)
  /-- The PUT of an uploader. -/
  | put (object : ProviderObject)
  | claim (call : ReapBatchCall) (bucket : String)
  | preflight (session : Nat) (now : Int)
  | headBefore (session : Nat) (response : HeadResponse)
  | sendDelete (session : Nat)
  | executeDelete (request : Nat)
  | deleteAnswer (session : Nat) (status : Option Int)
  | headAfter (session : Nat) (response : HeadResponse)
  | finalize (session : Nat) (now : Int)
  | crash (session : Nat)

/-- The session moves on to a phase. -/
def World.moveTo (world : World) (index : Nat) (session : ReapSession) (phase : Phase) : World :=
  { world with sessions := world.sessions.set index { session with phase := phase } }

/-- A step of one session, taken only in the phase it belongs to. -/
def World.inPhase (world : World) (index : Nat) (phase : Phase) (next : ReapSession → World) :
    World :=
  match world.sessions[index]? with
  | some session => if session.phase = phase then next session else world
  | none => world

def World.step (cluster : Cluster) (action : WorldAction) (world : World) : World :=
  match action with
  | .database action => { world with db := Storage.step cluster action world.db }
  | .put object => { world with objects := object :: world.objects.filter fun other =>
      !(other.bucket == object.bucket && other.objectKey == object.objectKey) }
  | .claim call bucket =>
    match claimStorageReapBatch cluster world.db call with
    | .ok (db, claims) =>
      { world with
        db := db
        sessions := world.sessions ++ claims.map fun claim => ⟨claim, bucket, .claimed⟩ }
    | .error _ => world
  | .preflight index now => world.inPhase index .claimed fun session =>
    match reapPreflight cluster world.db session.claim session.bucket now with
    | .ok none => world.moveTo index session .preflighted
    | .ok (some status) => world.moveTo index session (.finished status)
    | .error _ => world.moveTo index session .gone
  | .headBefore index response => world.inPhase index .preflighted fun session =>
    world.moveTo index session (Storage.headBefore session.claim response)
  | .sendDelete index => world.inPhase index .identified fun session =>
    let request := (session.bucket, session.claim.objectKey)
    { world.moveTo index session .deleteSent with requests := world.requests ++ [request] }
  | .executeDelete index =>
    match world.requests[index]? with
    | some (bucket, objectKey) => { world with objects := world.objects.filter fun object =>
        !(object.bucket == bucket && object.objectKey == objectKey) }
    | none => world
  | .deleteAnswer index status => world.inPhase index .deleteSent fun session =>
    world.moveTo index session (Storage.deleteAnswer status)
  | .headAfter index response => world.inPhase index .deleteAnswered fun session =>
    world.moveTo index session (Storage.headAfter response)
  | .finalize index now => world.inPhase index .absent fun session =>
    let call := finalizeCall session.claim session.bucket now
    match runTransaction cluster world.db [.finalizeReap call] with
    | .ok db => { world.moveTo index session (.finished .deleted) with db := db }
    | .error e => world.moveTo index session (finalizeFailure e)
  | .crash index =>
    match world.sessions[index]? with
    | some session => world.moveTo index session .gone
    | none => world

/-- The system right after the migration, with whatever objects the provider holds. -/
def World.initial (db : Database) (objects : List ProviderObject) : World := ⟨db, objects, [], []⟩

end Custombuild.Storage
