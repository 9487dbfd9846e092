/-
  Leases of artifact operations: a tenant runs one operation at a time, and few run at once.
  Source: `services/api/app/artifact_operations.py`.

  Both stores keep a lease twice, under its tenant and in a global set.  A Redis key set with
  `PX d` at `t` is visible up to and including `t + d`; `ZREMRANGEBYSCORE … -inf now` removes
  the scores up to and including `now`.  Each script runs alone.  Lua prints the milliseconds of
  a clock as they are, so the replies are integers here.
-/
import Custombuild.Lib.Dict
import Custombuild.Lib.Text

namespace Custombuild.Leases

open Custombuild.Lib

def globalArtifactOperationLimit : Nat := 8

def minArtifactOperationTtlSeconds : Int := 900

def maxArtifactOperationTtlSeconds : Int := 86400

/-- The errors of the stores. -/
inductive LeaseError
  | valueError (message : String)
  | unavailable (message : String)
deriving DecidableEq

inductive AcquireStatus
  | acquired
  | tenantBusy
  | globalCapacity
deriving DecidableEq

structure AcquireResult where
  status : AcquireStatus
  serverTimeMs : Nat
  expiresAtMs : Nat
deriving DecidableEq

structure RenewResult where
  renewed : Bool
  serverTimeMs : Nat
  expiresAtMs : Nat
deriving DecidableEq

/-! ## Identities -/

/-- `[0-9a-f]{64}`. -/
def isHex256 (text : String) : Bool :=
  (charsOf text).length == 64 &&
    (charsOf text).all fun c => ('0' ≤ c && c ≤ '9') || ('a' ≤ c && c ≤ 'f')

/-- A tenant key hash or an owner token. -/
structure Hex256 where
  text : String
  valid : isHex256 text = true
deriving DecidableEq

def validateTtlSeconds (ttlSeconds : Int) : Except LeaseError Nat :=
  if ttlSeconds < minArtifactOperationTtlSeconds || maxArtifactOperationTtlSeconds < ttlSeconds then
    .error (.valueError
      "artifact operation TTL must be an integer between 900 and 86400 seconds")
  else .ok ttlSeconds.toNat

def validateLeaseIdentity (tenantKeyHash ownerToken : String) :
    Except LeaseError (Hex256 × Hex256) :=
  if hvalid : isHex256 tenantKeyHash = true ∧ isHex256 ownerToken = true then
    .ok (⟨tenantKeyHash, hvalid.1⟩, ⟨ownerToken, hvalid.2⟩)
  else .error (.valueError "artifact operation lease identity is invalid")

def globalMember (tenant owner : Hex256) : String := tenant.text ++ ":" ++ owner.text

/-! ## The store in memory -/

/-- `_by_tenant` and `_global`. -/
structure MemStore where
  byTenant : Dict Hex256 (Hex256 × Nat) := .empty
  global : Dict String (Hex256 × Hex256 × Nat) := .empty

namespace MemStore

/-- The first loop of `_remove_stale`. -/
def dropStaleMember (nowMs : Nat) (store : MemStore) (entry : String × Hex256 × Hex256 × Nat) :
    MemStore :=
  let (member, tenant, owner, expiresAtMs) := entry
  if nowMs < expiresAtMs then store
  else
    { global := store.global.pop member
      byTenant := if store.byTenant.get tenant = some (owner, expiresAtMs) then
        store.byTenant.pop tenant else store.byTenant }

/-- The second loop of `_remove_stale`. -/
def dropStaleTenant (nowMs : Nat) (byTenant : Dict Hex256 (Hex256 × Nat))
    (entry : Hex256 × Hex256 × Nat) : Dict Hex256 (Hex256 × Nat) :=
  if entry.2.2 ≤ nowMs then byTenant.pop entry.1 else byTenant

/-- `_remove_stale`. -/
def removeStale (nowMs : Nat) (store : MemStore) : MemStore :=
  let members := store.global.entries.foldl (dropStaleMember nowMs) store
  { members with byTenant := members.byTenant.entries.foldl (dropStaleTenant nowMs) members.byTenant }

def acquire (nowMs : Nat) (tenant owner : Hex256) (ttlSeconds : Nat) (store : MemStore) :
    Except LeaseError AcquireResult × MemStore :=
  let store := store.removeStale nowMs
  if (store.byTenant.get tenant).isSome then (.ok ⟨.tenantBusy, nowMs, 0⟩, store)
  else if globalArtifactOperationLimit ≤ store.global.size then
    (.ok ⟨.globalCapacity, nowMs, 0⟩, store)
  else
    let expiresAtMs := nowMs + ttlSeconds * 1000
    (.ok ⟨.acquired, nowMs, expiresAtMs⟩,
      { byTenant := store.byTenant.set tenant (owner, expiresAtMs)
        global := store.global.set (globalMember tenant owner) (tenant, owner, expiresAtMs) })

def release (nowMs : Nat) (tenant owner : Hex256) (store : MemStore) :
    Except LeaseError Bool × MemStore :=
  let store := store.removeStale nowMs
  match store.byTenant.get tenant with
  | none => (.ok false, store)
  | some (current, _) =>
    if current ≠ owner then (.ok false, store)
    else
      (.ok true, { byTenant := store.byTenant.pop tenant
                   global := store.global.pop (globalMember tenant owner) })

/-- The tenant's entry is renewed before the accounting is checked. -/
def renew (nowMs : Nat) (tenant owner : Hex256) (ttlSeconds : Nat) (store : MemStore) :
    Except LeaseError RenewResult × MemStore :=
  let store := store.removeStale nowMs
  match store.byTenant.get tenant with
  | none => (.ok ⟨false, nowMs, 0⟩, store)
  | some (current, oldExpiry) =>
    if current ≠ owner then (.ok ⟨false, nowMs, 0⟩, store)
    else
      let expiresAtMs := nowMs + ttlSeconds * 1000
      let byTenant := store.byTenant.set tenant (owner, expiresAtMs)
      let member := globalMember tenant owner
      if store.global.get member ≠ some (tenant, owner, oldExpiry) then
        (.error (.unavailable "in-memory lease accounting is inconsistent"),
          { store with byTenant := byTenant })
      else
        (.ok ⟨true, nowMs, expiresAtMs⟩,
          { byTenant := byTenant
            global := store.global.set member (tenant, owner, expiresAtMs) })

end MemStore

/-! ## The store in Redis -/

/-- The string keys with their values and the instants at which they expire, and the sorted set
    under `custombuild:artifact-operations:active`. -/
structure RedisStore where
  strings : Dict String (String × Nat) := .empty
  active : Dict String Nat := .empty

def redisTenantKey (tenant : Hex256) : String :=
  "custombuild:artifact-operations:tenant:" ++ tenant.text

namespace RedisStore

/-- `GET`. -/
def get (nowMs : Nat) (store : RedisStore) (key : String) : Option String :=
  ((store.strings.get key).filter fun entry => nowMs ≤ entry.2).map Prod.fst

/-- `ZREMRANGEBYSCORE active -inf now`. -/
def removeExpired (nowMs : Nat) (store : RedisStore) : RedisStore :=
  { store with active := store.active.filter fun _ score => nowMs < score }

/-- `SET key value PX ttl NX`: the store after it, if it sets the key. -/
def setNx (nowMs : Nat) (key value : String) (ttlMs : Nat) (store : RedisStore) :
    Option RedisStore :=
  if (store.get nowMs key).isSome then none
  else some { store with strings := store.strings.set key (value, nowMs + ttlMs) }

/-- `PEXPIRE key ttl`. -/
def pexpire (nowMs : Nat) (key : String) (ttlMs : Nat) (store : RedisStore) : RedisStore :=
  match store.get nowMs key with
  | none => store
  | some value => { store with strings := store.strings.set key (value, nowMs + ttlMs) }

/-- `ZADD`. -/
def zadd (score : Nat) (member : String) (store : RedisStore) : RedisStore :=
  { store with active := store.active.set member score }

/-- `DEL`. -/
def del (key : String) (store : RedisStore) : RedisStore :=
  { store with strings := store.strings.pop key }

/-- `ZREM`. -/
def zrem (member : String) (store : RedisStore) : RedisStore :=
  { store with active := store.active.pop member }

/-- The three numbers a script replies with. -/
structure RawReply where
  code : Nat
  nowMs : Nat
  expiresAtMs : Nat

/-- `_ACQUIRE_SCRIPT`. -/
def acquireScript (nowMs : Nat) (tenantKey ownerToken member : String) (ttlMs limit : Nat)
    (store : RedisStore) : RawReply × RedisStore :=
  let store := store.removeExpired nowMs
  if (store.get nowMs tenantKey).isSome then (⟨2, nowMs, 0⟩, store)
  else if limit ≤ store.active.size then (⟨3, nowMs, 0⟩, store)
  else
    let expiresAtMs := nowMs + ttlMs
    match store.setNx nowMs tenantKey ownerToken ttlMs with
    | none => (⟨2, nowMs, 0⟩, store)
    | some store => (⟨1, nowMs, expiresAtMs⟩, store.zadd expiresAtMs member)

/-- `_RELEASE_SCRIPT`. -/
def releaseScript (nowMs : Nat) (tenantKey ownerToken member : String) (store : RedisStore) :
    Nat × RedisStore :=
  let store := store.removeExpired nowMs
  if store.get nowMs tenantKey ≠ some ownerToken then (0, store)
  else (1, (store.del tenantKey).zrem member)

/-- `_RENEW_SCRIPT`. -/
def renewScript (nowMs : Nat) (tenantKey ownerToken member : String) (ttlMs : Nat)
    (store : RedisStore) : RawReply × RedisStore :=
  let store := store.removeExpired nowMs
  if store.get nowMs tenantKey ≠ some ownerToken then (⟨0, nowMs, 0⟩, store)
  else
    let expiresAtMs := nowMs + ttlMs
    (⟨1, nowMs, expiresAtMs⟩, (store.pexpire nowMs tenantKey ttlMs).zadd expiresAtMs member)

/-- `ArtifactOperationAcquireStatus(code)`. -/
def statusOf : Nat → Option AcquireStatus
  | 1 => some .acquired
  | 2 => some .tenantBusy
  | 3 => some .globalCapacity
  | _ => none

/-- The reading of an acquire reply, with its checks. -/
def readAcquire (ttlSeconds : Nat) (raw : RawReply) : Except LeaseError AcquireResult :=
  let invalid : Except LeaseError AcquireResult :=
    .error (.unavailable "shared artifact-operation lease returned an invalid decision")
  match statusOf raw.code with
  | none => invalid
  | some status =>
    if (status = .acquired && raw.expiresAtMs != raw.nowMs + ttlSeconds * 1000) ||
        (status ≠ .acquired && raw.expiresAtMs != 0) then invalid
    else .ok ⟨status, raw.nowMs, raw.expiresAtMs⟩

/-- The reading of a renew reply, with its checks. -/
def readRenew (ttlSeconds : Nat) (raw : RawReply) : Except LeaseError RenewResult :=
  if !(raw.code == 0 || raw.code == 1) ||
      (raw.code == 1 && raw.expiresAtMs != raw.nowMs + ttlSeconds * 1000) ||
      (raw.code == 0 && raw.expiresAtMs != 0) then
    .error (.unavailable "shared artifact-operation lease returned an invalid renewal decision")
  else .ok ⟨raw.code == 1, raw.nowMs, raw.expiresAtMs⟩

/-- The reading of a release reply. -/
def readRelease (released : Nat) : Except LeaseError Bool :=
  if !(released == 0 || released == 1) then
    .error (.unavailable "shared artifact-operation lease returned an invalid release decision")
  else .ok (released == 1)

def acquire (nowMs : Nat) (tenant owner : Hex256) (ttlSeconds : Nat) (store : RedisStore) :
    Except LeaseError AcquireResult × RedisStore :=
  let (raw, store) := store.acquireScript nowMs (redisTenantKey tenant) owner.text
    (globalMember tenant owner) (ttlSeconds * 1000) globalArtifactOperationLimit
  (readAcquire ttlSeconds raw, store)

def release (nowMs : Nat) (tenant owner : Hex256) (store : RedisStore) :
    Except LeaseError Bool × RedisStore :=
  let (raw, store) := store.releaseScript nowMs (redisTenantKey tenant) owner.text
    (globalMember tenant owner)
  (readRelease raw, store)

def renew (nowMs : Nat) (tenant owner : Hex256) (ttlSeconds : Nat) (store : RedisStore) :
    Except LeaseError RenewResult × RedisStore :=
  let (raw, store) := store.renewScript nowMs (redisTenantKey tenant) owner.text
    (globalMember tenant owner) (ttlSeconds * 1000)
  (readRenew ttlSeconds raw, store)

end RedisStore

/-! ## Calls -/

/-- A call of a store, as its caller writes it. -/
inductive Call
  | acquire (tenantKeyHash ownerToken : String) (ttlSeconds : Int)
  | release (tenantKeyHash ownerToken : String)
  | renew (tenantKeyHash ownerToken : String) (ttlSeconds : Int)

/-- A call whose arguments passed the checks every method begins with. -/
inductive CheckedCall
  | acquire (tenant owner : Hex256) (ttlSeconds : Nat)
  | release (tenant owner : Hex256)
  | renew (tenant owner : Hex256) (ttlSeconds : Nat)

/-- The checks at the beginning of the methods, the same in both stores. -/
def Call.check : Call → Except LeaseError CheckedCall
  | .acquire tenantKeyHash ownerToken ttlSeconds => do
    let ttl ← validateTtlSeconds ttlSeconds
    let (tenant, owner) ← validateLeaseIdentity tenantKeyHash ownerToken
    return .acquire tenant owner ttl
  | .release tenantKeyHash ownerToken => do
    let (tenant, owner) ← validateLeaseIdentity tenantKeyHash ownerToken
    return .release tenant owner
  | .renew tenantKeyHash ownerToken ttlSeconds => do
    let ttl ← validateTtlSeconds ttlSeconds
    let (tenant, owner) ← validateLeaseIdentity tenantKeyHash ownerToken
    return .renew tenant owner ttl

/-- What a call returns. -/
inductive Reply
  | acquire (result : AcquireResult)
  | release (released : Bool)
  | renew (result : RenewResult)
deriving DecidableEq

/-- A checked call on the store in memory. -/
def MemStore.answer (nowMs : Nat) (store : MemStore) :
    CheckedCall → Except LeaseError Reply × MemStore
  | .acquire tenant owner ttl =>
    let (result, store) := store.acquire nowMs tenant owner ttl
    (result.map .acquire, store)
  | .release tenant owner =>
    let (result, store) := store.release nowMs tenant owner
    (result.map .release, store)
  | .renew tenant owner ttl =>
    let (result, store) := store.renew nowMs tenant owner ttl
    (result.map .renew, store)

/-- A checked call on the store in Redis. -/
def RedisStore.answer (nowMs : Nat) (store : RedisStore) :
    CheckedCall → Except LeaseError Reply × RedisStore
  | .acquire tenant owner ttl =>
    let (result, store) := store.acquire nowMs tenant owner ttl
    (result.map .acquire, store)
  | .release tenant owner =>
    let (result, store) := store.release nowMs tenant owner
    (result.map .release, store)
  | .renew tenant owner ttl =>
    let (result, store) := store.renew nowMs tenant owner ttl
    (result.map .renew, store)

/-- A call and the millisecond of its store's clock. -/
structure TimedCall where
  nowMs : Nat
  call : Call

def MemStore.step (store : MemStore) (timed : TimedCall) : Except LeaseError Reply × MemStore :=
  match timed.call.check with
  | .error e => (.error e, store)
  | .ok call => store.answer timed.nowMs call

def RedisStore.step (store : RedisStore) (timed : TimedCall) :
    Except LeaseError Reply × RedisStore :=
  match timed.call.check with
  | .error e => (.error e, store)
  | .ok call => store.answer timed.nowMs call

/-- The store in memory after a run. -/
def memAfter (run : List TimedCall) : MemStore :=
  run.foldl (fun store timed => (store.step timed).2) {}

/-- The store in Redis after a run. -/
def redisAfter (run : List TimedCall) : RedisStore :=
  run.foldl (fun store timed => (store.step timed).2) {}

end Custombuild.Leases
