/-
  The two stores side by side.  They hold the same live leases, so they give the same replies,
  except at one instant: a tenant key of Redis is still there in the millisecond in which its
  lease expires, while the sorted set and the store in memory have dropped it.
-/
import Mathlib.Data.List.Induction
import Custombuild.Lib.Raises
import Custombuild.Leases.InMemory

namespace Custombuild.Leases

open Custombuild.Lib

/-! ## Live entries -/

section Live

variable {α β : Type} {nowMs later : Nat}

/-- What is live later is live now. -/
theorem filter_live_live (expiry : α → Nat) (hle : nowMs ≤ later) (x : Option α) :
    (x.filter fun v => nowMs < expiry v).filter (fun v => later < expiry v) =
      x.filter fun v => later < expiry v := by
  rw [Option.filter_filter]
  congr 1
  funext v
  by_cases hlive : later < expiry v
  · simp [hlive, show nowMs < expiry v by omega]
  · simp [hlive]

/-- A map that keeps the expiry keeps what is live. -/
theorem filter_live_map {f : α → β} {expiry : α → Nat} {expiry' : β → Nat}
    (h : ∀ a, expiry' (f a) = expiry a) (x : Option α) :
    (x.map f).filter (fun b => nowMs < expiry' b) = (x.filter fun a => nowMs < expiry a).map f := by
  cases x with
  | none => rfl
  | some a =>
    simp only [Option.map_some, Option.filter_some, h]
    split <;> rfl

end Live

/-- The two stores hold the same leases that are live after `nowMs`. -/
structure Mirrors (nowMs : Nat) (mem : MemStore) (redis : RedisStore) : Prop where
  strings : ∀ tenant,
    (redis.strings.get (redisTenantKey tenant)).filter (fun entry => nowMs < entry.2) =
      ((mem.byTenant.get tenant).filter fun lease => nowMs < lease.2).map
        fun lease => (lease.1.text, lease.2)
  active : ∀ member,
    (redis.active.get member).filter (fun score => nowMs < score) =
      ((mem.global.get member).filter fun lease => nowMs < lease.2.2).map fun lease => lease.2.2

section Mirrors

variable {nowMs later : Nat} {mem : MemStore} {redis : RedisStore} {tenant owner : Hex256}

theorem mirrors_empty : Mirrors 0 {} {} where
  strings := fun _ => by simp
  active := fun _ => by simp

theorem Mirrors.at_later (h : Mirrors nowMs mem redis) (hle : nowMs ≤ later) :
    Mirrors later mem redis where
  strings := fun tenant => by
    rw [← filter_live_live Prod.snd hle, h.strings, filter_live_map fun lease => rfl,
      filter_live_live Prod.snd hle]
  active := fun member => by
    rw [← filter_live_live (fun score => score) hle, h.active, filter_live_map fun lease => rfl,
      filter_live_live (fun lease : Hex256 × Hex256 × Nat => lease.2.2) hle]

/-- Both stores begin a call by dropping what has expired. -/
theorem Mirrors.fresh (h : Mirrors nowMs mem redis) :
    Mirrors nowMs (mem.removeStale nowMs) (redis.removeExpired nowMs) where
  strings := fun tenant => by
    rw [MemStore.removeStale_byTenant, filter_live_live Prod.snd (Nat.le_refl _)]
    exact h.strings tenant
  active := fun member => by
    rw [MemStore.removeStale_global,
      filter_live_live (fun lease : Hex256 × Hex256 × Nat => lease.2.2) (Nat.le_refl _),
      RedisStore.removeExpired, Dict.get_filter,
      filter_live_live (fun score => score) (Nat.le_refl _)]
    exact h.active member

theorem Mirrors.enter (h : Mirrors nowMs mem redis) (expiry : Nat) :
    Mirrors nowMs
      { byTenant := mem.byTenant.set tenant (owner, expiry)
        global := mem.global.set (globalMember tenant owner) (tenant, owner, expiry) }
      { strings := redis.strings.set (redisTenantKey tenant) (owner.text, expiry)
        active := redis.active.set (globalMember tenant owner) expiry } where
  strings := fun t => by
    simp only [Dict.get_set]
    by_cases htenant : t = tenant
    · rw [if_pos (congrArg redisTenantKey htenant), if_pos htenant, Option.filter_some,
        Option.filter_some]
      split <;> rfl
    · rw [if_neg fun heq => htenant (redisTenantKey_inj heq), if_neg htenant]
      exact h.strings t
  active := fun member => by
    simp only [Dict.get_set]
    by_cases hmember : member = globalMember tenant owner
    · rw [if_pos hmember, if_pos hmember, Option.filter_some, Option.filter_some]
      split <;> rfl
    · rw [if_neg hmember, if_neg hmember]
      exact h.active member

theorem Mirrors.drop (h : Mirrors nowMs mem redis) :
    Mirrors nowMs
      { byTenant := mem.byTenant.pop tenant
        global := mem.global.pop (globalMember tenant owner) }
      { strings := redis.strings.pop (redisTenantKey tenant)
        active := redis.active.pop (globalMember tenant owner) } where
  strings := fun t => by
    simp only [Dict.get_pop]
    by_cases htenant : t = tenant
    · rw [if_pos (congrArg redisTenantKey htenant), if_pos htenant]
      rfl
    · rw [if_neg fun heq => htenant (redisTenantKey_inj heq), if_neg htenant]
      exact h.strings t
  active := fun member => by
    simp only [Dict.get_pop]
    by_cases hmember : member = globalMember tenant owner
    · rw [if_pos hmember, if_pos hmember]
      rfl
    · rw [if_neg hmember, if_neg hmember]
      exact h.active member

/-! ## What a call sees -/

/-- The two stores count the same leases. -/
theorem Mirrors.size_eq (h : Mirrors nowMs mem redis) :
    (redis.removeExpired nowMs).active.size = (mem.removeStale nowMs).global.size := by
  have hget (member : String) : (redis.removeExpired nowMs).active.get member =
      ((mem.removeStale nowMs).global.get member).map fun lease => lease.2.2 := by
    rw [MemStore.removeStale_global, RedisStore.removeExpired, Dict.get_filter]
    exact h.active member
  refine Nat.le_antisymm (Dict.size_le_of_keys fun member score hscore => ?_)
    (Dict.size_le_of_keys fun member lease hlease => ?_)
  · rw [hget] at hscore
    obtain ⟨lease, hlease, -⟩ := Option.map_eq_some_iff.mp hscore
    exact ⟨lease, hlease⟩
  · exact ⟨lease.2.2, by rw [hget, hlease]; rfl⟩

/-- What Redis shows of a tenant: its live lease, or a key that expires right now. -/
theorem Mirrors.get_eq (h : Mirrors nowMs mem redis) (tenant : Hex256) :
    redis.get nowMs (redisTenantKey tenant) =
        ((mem.removeStale nowMs).byTenant.get tenant).map (fun lease => lease.1.text) ∨
      ∃ value, redis.strings.get (redisTenantKey tenant) = some (value, nowMs) ∧
        redis.get nowMs (redisTenantKey tenant) = some value ∧
        (mem.removeStale nowMs).byTenant.get tenant = none := by
  have hlive := h.strings tenant
  rw [MemStore.removeStale_byTenant, RedisStore.get]
  cases hstring : redis.strings.get (redisTenantKey tenant) with
  | none =>
    rw [hstring, Option.filter_none] at hlive
    rw [Option.map_eq_none_iff.mp hlive.symm]
    exact .inl rfl
  | some entry =>
    obtain ⟨value, expiry⟩ := entry
    rw [hstring, Option.filter_some] at hlive
    rw [Option.filter_some]
    rcases Nat.lt_trichotomy nowMs expiry with hlt | heq | hgt
    · rw [if_pos (by simpa using hlt)] at hlive
      rw [if_pos (by simpa using Nat.le_of_lt hlt)]
      obtain ⟨lease, hlease, hentry⟩ := Option.map_eq_some_iff.mp hlive.symm
      rw [hlease]
      exact .inl (congrArg (fun entry : String × Nat => some entry.1) hentry.symm)
    · subst heq
      rw [if_neg (by simp)] at hlive
      rw [if_pos (by simp)]
      exact .inr ⟨value, rfl, rfl, Option.map_eq_none_iff.mp hlive.symm⟩
    · rw [if_neg (by simpa using Nat.le_of_lt hgt)] at hlive
      rw [if_neg (by simpa using hgt), Option.map_eq_none_iff.mp hlive.symm]
      exact .inl rfl

end Mirrors

/-! ## One call -/

/-- The call comes in the millisecond in which the tenant's lease expires, and its reply depends
    on that lease. -/
def RedisStore.AtExpiry (redis : RedisStore) (nowMs : Nat) : CheckedCall → Prop
  | .acquire tenant _ _ => ∃ value, redis.strings.get (redisTenantKey tenant) = some (value, nowMs)
  | .release tenant owner => redis.strings.get (redisTenantKey tenant) = some (owner.text, nowMs)
  | .renew tenant owner _ => redis.strings.get (redisTenantKey tenant) = some (owner.text, nowMs)

section Call

variable {nowMs : Nat} {mem : MemStore} {redis : RedisStore} {tenant owner : Hex256} {ttl : Nat}

/-- Off the instant of expiry the stores show the same lease of a tenant. -/
theorem Mirrors.get_of_not_expiring (h : Mirrors nowMs mem redis)
    (hoff : ∀ value, redis.strings.get (redisTenantKey tenant) ≠ some (value, nowMs)) :
    redis.get nowMs (redisTenantKey tenant) =
      ((mem.removeStale nowMs).byTenant.get tenant).map fun lease => lease.1.text := by
  rcases h.get_eq tenant with hget | ⟨value, hexpiring, -⟩
  · exact hget
  · exact absurd hexpiring (hoff value)

/-- An owner is the owner in both stores, unless its lease expires right now. -/
theorem Mirrors.owner_iff (h : Mirrors nowMs mem redis)
    (hoff : redis.strings.get (redisTenantKey tenant) ≠ some (owner.text, nowMs)) :
    redis.get nowMs (redisTenantKey tenant) = some owner.text ↔
      ((mem.removeStale nowMs).byTenant.get tenant).map Prod.fst = some owner := by
  rcases h.get_eq tenant with hget | ⟨value, hexpiring, hget, hnone⟩
  · rw [hget, Option.map_eq_some_iff, Option.map_eq_some_iff]
    constructor
    · rintro ⟨lease, hlease, htext⟩
      exact ⟨lease, hlease, Hex256.ext_text htext⟩
    · rintro ⟨lease, hlease, rfl⟩
      exact ⟨lease, hlease, rfl⟩
  · rw [hget, hnone]
    constructor
    · intro hvalue
      cases hvalue
      exact absurd hexpiring hoff
    · intro hcontra
      cases hcontra

theorem acquire_agrees (owner : Hex256) (ttl : Nat) (h : Mirrors nowMs mem redis)
    (hoff : ∀ value, redis.strings.get (redisTenantKey tenant) ≠ some (value, nowMs)) :
    (mem.acquire nowMs tenant owner ttl).1 = (redis.acquire nowMs tenant owner ttl).1 ∧
      Mirrors nowMs (mem.acquire nowMs tenant owner ttl).2
        (redis.acquire nowMs tenant owner ttl).2 := by
  have hget : (redis.removeExpired nowMs).get nowMs (redisTenantKey tenant) =
      ((mem.removeStale nowMs).byTenant.get tenant).map fun lease => lease.1.text :=
    h.get_of_not_expiring hoff
  unfold MemStore.acquire RedisStore.acquire RedisStore.acquireScript
  simp only
  rw [hget, Option.isSome_map, h.size_eq]
  split
  · exact ⟨rfl, h.fresh⟩
  · rename_i hfree
    have hset : (redis.removeExpired nowMs).setNx nowMs (redisTenantKey tenant) owner.text
        (ttl * 1000) = some { redis.removeExpired nowMs with
          strings := redis.strings.set (redisTenantKey tenant) (owner.text, nowMs + ttl * 1000) } := by
      unfold RedisStore.setNx
      rw [hget, Option.isSome_map, if_neg hfree]
      rfl
    rw [hset]
    split
    · exact ⟨rfl, h.fresh⟩
    · refine ⟨?_, h.fresh.enter _⟩
      simp [RedisStore.readAcquire, RedisStore.statusOf]

theorem release_agrees (h : Mirrors nowMs mem redis)
    (hoff : redis.strings.get (redisTenantKey tenant) ≠ some (owner.text, nowMs)) :
    (mem.release nowMs tenant owner).1 = (redis.release nowMs tenant owner).1 ∧
      Mirrors nowMs (mem.release nowMs tenant owner).2 (redis.release nowMs tenant owner).2 := by
  have howner : (redis.removeExpired nowMs).get nowMs (redisTenantKey tenant) = some owner.text ↔
      ((mem.removeStale nowMs).byTenant.get tenant).map Prod.fst = some owner := h.owner_iff hoff
  unfold MemStore.release RedisStore.release RedisStore.releaseScript
  simp only [ne_eq, howner]
  cases hheld : (mem.removeStale nowMs).byTenant.get tenant with
  | none => exact ⟨rfl, h.fresh⟩
  | some lease =>
    obtain ⟨current, expiry⟩ := lease
    simp only [Option.map_some, Option.some.injEq]
    by_cases hcurrent : current = owner
    · rw [if_neg (not_not.mpr hcurrent), if_neg (not_not.mpr hcurrent)]
      exact ⟨rfl, h.fresh.drop⟩
    · rw [if_pos hcurrent, if_pos hcurrent]
      exact ⟨rfl, h.fresh⟩

theorem renew_agrees (ttl : Nat) (hmem : mem.Consistent) (h : Mirrors nowMs mem redis)
    (hoff : redis.strings.get (redisTenantKey tenant) ≠ some (owner.text, nowMs)) :
    (mem.renew nowMs tenant owner ttl).1 = (redis.renew nowMs tenant owner ttl).1 ∧
      Mirrors nowMs (mem.renew nowMs tenant owner ttl).2 (redis.renew nowMs tenant owner ttl).2 := by
  have howner : (redis.removeExpired nowMs).get nowMs (redisTenantKey tenant) = some owner.text ↔
      ((mem.removeStale nowMs).byTenant.get tenant).map Prod.fst = some owner := h.owner_iff hoff
  rw [hmem.renew_eq]
  unfold RedisStore.renew RedisStore.renewScript
  simp only [ne_eq]
  by_cases hheld : ((mem.removeStale nowMs).byTenant.get tenant).map Prod.fst = some owner
  · have hget := howner.mpr hheld
    rw [if_pos hheld, if_neg (not_not.mpr hget), RedisStore.pexpire, hget]
    refine ⟨?_, h.fresh.enter _⟩
    simp [RedisStore.readRenew]
  · rw [if_neg hheld, if_pos fun hget => hheld (howner.mp hget)]
    exact ⟨rfl, h.fresh⟩

/-- In the millisecond of expiry Redis still shows the key; the store in memory does not. -/
theorem expiring_key (h : Mirrors nowMs mem redis) {value : String}
    (hexpiring : redis.strings.get (redisTenantKey tenant) = some (value, nowMs)) :
    (redis.removeExpired nowMs).get nowMs (redisTenantKey tenant) = some value ∧
      (mem.removeStale nowMs).byTenant.get tenant = none := by
  constructor
  · show redis.get nowMs (redisTenantKey tenant) = some value
    rw [RedisStore.get, hexpiring]
    simp
  · have hlive := h.strings tenant
    rw [hexpiring, Option.filter_some, if_neg (by simp)] at hlive
    rw [MemStore.removeStale_byTenant]
    exact Option.map_eq_none_iff.mp hlive.symm

theorem acquire_differs (h : Mirrors nowMs mem redis) {value : String}
    (hexpiring : redis.strings.get (redisTenantKey tenant) = some (value, nowMs)) :
    (mem.acquire nowMs tenant owner ttl).1 ≠ (redis.acquire nowMs tenant owner ttl).1 := by
  obtain ⟨hget, hnone⟩ := expiring_key h hexpiring
  unfold MemStore.acquire RedisStore.acquire RedisStore.acquireScript
  simp only [hget, hnone, Option.isSome_some, Option.isSome_none, if_true]
  rw [if_neg (by simp)]
  split <;> simp [RedisStore.readAcquire, RedisStore.statusOf]

theorem release_differs (h : Mirrors nowMs mem redis)
    (hexpiring : redis.strings.get (redisTenantKey tenant) = some (owner.text, nowMs)) :
    (mem.release nowMs tenant owner).1 ≠ (redis.release nowMs tenant owner).1 := by
  obtain ⟨hget, hnone⟩ := expiring_key h hexpiring
  unfold MemStore.release RedisStore.release RedisStore.releaseScript
  simp only [hget, hnone]
  rw [if_neg (by simp)]
  simp [RedisStore.readRelease]

theorem renew_differs (hmem : mem.Consistent) (h : Mirrors nowMs mem redis)
    (hexpiring : redis.strings.get (redisTenantKey tenant) = some (owner.text, nowMs)) :
    (mem.renew nowMs tenant owner ttl).1 ≠ (redis.renew nowMs tenant owner ttl).1 := by
  obtain ⟨hget, hnone⟩ := expiring_key h hexpiring
  rw [hmem.renew_eq]
  unfold RedisStore.renew RedisStore.renewScript
  simp only [hget, hnone]
  rw [if_neg (by simp), if_neg (by simp)]
  simp [RedisStore.readRenew]

/-- A call that does not come at the expiry of its lease has the same reply from both stores,
    and they hold the same leases after it. -/
theorem answer_agrees (hmem : mem.Consistent) (h : Mirrors nowMs mem redis) {call : CheckedCall}
    (hoff : ¬redis.AtExpiry nowMs call) :
    (mem.answer nowMs call).1 = (redis.answer nowMs call).1 ∧
      Mirrors nowMs (mem.answer nowMs call).2 (redis.answer nowMs call).2 := by
  cases call with
  | acquire tenant owner ttl =>
    obtain ⟨hreply, hafter⟩ := acquire_agrees owner ttl h (not_exists.mp hoff)
    exact ⟨congrArg (Except.map Reply.acquire) hreply, hafter⟩
  | release tenant owner =>
    obtain ⟨hreply, hafter⟩ := release_agrees h hoff
    exact ⟨congrArg (Except.map Reply.release) hreply, hafter⟩
  | renew tenant owner ttl =>
    obtain ⟨hreply, hafter⟩ := renew_agrees ttl hmem h hoff
    exact ⟨congrArg (Except.map Reply.renew) hreply, hafter⟩

theorem map_injective {ε α β : Type} {f : α → β} (hf : ∀ a a', f a = f a' → a = a')
    {x y : Except ε α} (h : x.map f = y.map f) : x = y := by
  cases x with
  | error e =>
    cases y with
    | error e' =>
      cases h
      rfl
    | ok b => cases h
  | ok a =>
    cases y with
    | error e' => cases h
    | ok b => exact congrArg Except.ok (hf a b (Except.ok.inj h))

theorem answer_differs (hmem : mem.Consistent) (h : Mirrors nowMs mem redis) {call : CheckedCall}
    (hat : redis.AtExpiry nowMs call) :
    (mem.answer nowMs call).1 ≠ (redis.answer nowMs call).1 := by
  intro hsame
  cases call with
  | acquire tenant owner ttl =>
    obtain ⟨value, hexpiring⟩ := hat
    exact acquire_differs h hexpiring (map_injective (fun _ _ => Reply.acquire.inj) hsame)
  | release tenant owner =>
    exact release_differs h hat (map_injective (fun _ _ => Reply.release.inj) hsame)
  | renew tenant owner ttl =>
    exact renew_differs hmem h hat (map_injective (fun _ _ => Reply.renew.inj) hsame)

end Call

/-! ## Runs -/

/-- The clock does not run backwards. -/
def ClockForward (run : List TimedCall) : Prop :=
  run.Pairwise fun earlier timed => earlier.nowMs ≤ timed.nowMs

/-- No call of the run comes in the millisecond in which the lease it asks about expires. -/
def NoCallAtExpiry (run : List TimedCall) : Prop :=
  ∀ before timed after, run = before ++ timed :: after → ∀ call, timed.call.check = .ok call →
    ¬(redisAfter before).AtExpiry timed.nowMs call

/-- The two stores give every call of the run the same reply. -/
def SameReplies (run : List TimedCall) : Prop :=
  ∀ before timed after, run = before ++ timed :: after →
    ((memAfter before).step timed).1 = ((redisAfter before).step timed).1

section Run

variable {run : List TimedCall} {timed : TimedCall}

theorem memAfter_concat (run : List TimedCall) (timed : TimedCall) :
    memAfter (run ++ [timed]) = ((memAfter run).step timed).2 := by
  simp [memAfter]

theorem redisAfter_concat (run : List TimedCall) (timed : TimedCall) :
    redisAfter (run ++ [timed]) = ((redisAfter run).step timed).2 := by
  simp [redisAfter]

theorem ClockForward.of_concat (h : ClockForward (run ++ [timed])) :
    ClockForward run ∧ ∀ earlier ∈ run, earlier.nowMs ≤ timed.nowMs := by
  obtain ⟨hbefore, -, hlast⟩ := List.pairwise_append.mp h
  exact ⟨hbefore, fun earlier hearlier => hlast earlier hearlier timed (List.mem_singleton_self _)⟩

/-- A step of both stores that hold the same leases. -/
theorem step_agrees {mem : MemStore} {redis : RedisStore} (hmem : mem.Consistent)
    (h : Mirrors timed.nowMs mem redis)
    (hoff : ∀ call, timed.call.check = .ok call → ¬redis.AtExpiry timed.nowMs call) :
    (mem.step timed).1 = (redis.step timed).1 ∧
      Mirrors timed.nowMs (mem.step timed).2 (redis.step timed).2 := by
  unfold MemStore.step RedisStore.step
  cases hcheck : timed.call.check with
  | error e => exact ⟨rfl, h⟩
  | ok call => exact answer_agrees hmem h (hoff call hcheck)

/-- A run without calls at an expiry leaves the stores with the same leases. -/
theorem mirrors_of_noCallAtExpiry (hclock : ClockForward run) (hoff : NoCallAtExpiry run)
    {later : Nat} (hlater : ∀ timed ∈ run, timed.nowMs ≤ later) :
    Mirrors later (memAfter run) (redisAfter run) := by
  induction run using List.reverseRecOn generalizing later with
  | nil => exact mirrors_empty.at_later (Nat.zero_le _)
  | append_singleton run timed ih =>
    obtain ⟨hbefore, hlast⟩ := hclock.of_concat
    have hearlier : NoCallAtExpiry run := fun before step after hsplit =>
      hoff before step (after ++ [timed]) (by rw [hsplit]; simp)
    rw [memAfter_concat, redisAfter_concat]
    refine (step_agrees (MemStore.consistent_memAfter run) (ih hbefore hearlier hlast) ?_).2.at_later
      (hlater timed (by simp))
    exact hoff run timed [] rfl

theorem sameReplies_of_noCallAtExpiry (hclock : ClockForward run) (hoff : NoCallAtExpiry run) :
    SameReplies run := by
  intro before timed after hsplit
  have hearlier : NoCallAtExpiry before := fun first step rest hfirst =>
    hoff first step (rest ++ timed :: after) (by rw [hsplit, hfirst]; simp)
  rw [ClockForward, hsplit, List.pairwise_append] at hclock
  have hmirrors := mirrors_of_noCallAtExpiry hclock.1 hearlier
    fun earlier hearlier => hclock.2.2 earlier hearlier timed List.mem_cons_self
  exact (step_agrees (MemStore.consistent_memAfter before) hmirrors
    (hoff before timed after hsplit)).1

/-- The first call at an expiry gets two different replies. -/
theorem noCallAtExpiry_of_sameReplies (hclock : ClockForward run) (hsame : SameReplies run) :
    NoCallAtExpiry run := by
  induction run using List.reverseRecOn with
  | nil =>
    intro before timed after hsplit
    simp at hsplit
  | append_singleton run last ih =>
    obtain ⟨hbefore, hlast⟩ := hclock.of_concat
    have hearlier : NoCallAtExpiry run := ih hbefore fun before timed after hsplit =>
      hsame before timed (after ++ [last]) (by rw [hsplit]; simp)
    intro before timed after hsplit call hcheck hat
    rcases List.eq_nil_or_concat after with rfl | ⟨rest, final, rfl⟩
    · obtain ⟨rfl, rfl⟩ := List.append_singleton_inj.mp hsplit
      have hmirrors := mirrors_of_noCallAtExpiry hbefore hearlier hlast
      have hreply := hsame run last [] rfl
      unfold MemStore.step RedisStore.step at hreply
      rw [hcheck] at hreply
      exact answer_differs (MemStore.consistent_memAfter run) hmirrors hat hreply
    · rw [List.concat_eq_append, ← List.cons_append, ← List.append_assoc] at hsplit
      obtain ⟨hrun, -⟩ := List.append_singleton_inj.mp hsplit
      exact hearlier before timed rest hrun call hcheck hat

end Run

/-! ## The leases of both stores -/

/-- The tenant's lease is live and has this owner, in one of its two places. -/
def RedisStore.Holds (store : RedisStore) (instant : Nat) (tenant owner : Hex256) : Prop :=
  ∃ expiry, instant < expiry ∧
    (store.strings.get (redisTenantKey tenant) = some (owner.text, expiry) ∨
      store.active.get (globalMember tenant owner) = some expiry)

theorem Mirrors.holds_iff {instant : Nat} {mem : MemStore} {redis : RedisStore}
    (hmem : mem.Consistent) (h : Mirrors instant mem redis) {tenant owner : Hex256} :
    redis.Holds instant tenant owner ↔ mem.Holds instant tenant owner := by
  constructor
  · rintro ⟨expiry, hlive, hstring | hactive⟩
    · have hlease := h.strings tenant
      rw [hstring, Option.filter_some, if_pos (by simpa using hlive)] at hlease
      obtain ⟨lease, hget, heq⟩ := Option.map_eq_some_iff.mp hlease.symm
      obtain ⟨htext, rfl⟩ := Prod.mk.inj heq
      obtain ⟨hget, -⟩ := Option.filter_eq_some_iff.mp hget
      obtain rfl := Hex256.ext_text htext
      exact ⟨lease.2, hlive, .inl hget⟩
    · have hlease := h.active (globalMember tenant owner)
      rw [hactive, Option.filter_some, if_pos (by simpa using hlive)] at hlease
      obtain ⟨⟨tenant', owner', expiry'⟩, hget, rfl⟩ := Option.map_eq_some_iff.mp hlease.symm
      obtain ⟨hget, -⟩ := Option.filter_eq_some_iff.mp hget
      obtain ⟨rfl, rfl⟩ := globalMember_inj (hmem.named _ _ _ _ hget)
      exact ⟨expiry', hlive, .inr hget⟩
  · intro hheld
    obtain ⟨expiry, hlive, hget⟩ := hmem.holds_iff.mp hheld
    have hstring := h.strings tenant
    rw [hget, Option.filter_some, if_pos (by simpa using hlive)] at hstring
    exact ⟨expiry, hlive, .inl (Option.filter_eq_some_iff.mp hstring).1⟩

/-- A release or a renewal succeeds only for the owner of the live lease. -/
def OwnerOnly (holds : Hex256 → Hex256 → Prop) : CheckedCall → Except LeaseError Reply → Prop
  | .release tenant owner, .ok (.release true) => holds tenant owner
  | .renew tenant owner _, .ok (.renew result) => result.renewed = true → holds tenant owner
  | _, _ => True

theorem MemStore.Consistent.ownerOnly {mem : MemStore} (hmem : mem.Consistent) (nowMs : Nat)
    (call : CheckedCall) : OwnerOnly (mem.Holds nowMs) call (mem.answer nowMs call).1 := by
  have hheld {tenant owner : Hex256}
      (h : ((mem.removeStale nowMs).byTenant.get tenant).map Prod.fst = some owner) :
      mem.Holds nowMs tenant owner := by
    obtain ⟨lease, hget, rfl⟩ := Option.map_eq_some_iff.mp h
    rw [MemStore.removeStale_byTenant, Option.filter_eq_some_iff] at hget
    exact ⟨lease.2, by simpa using hget.2, .inl hget.1⟩
  cases call with
  | acquire tenant owner ttl => trivial
  | release tenant owner =>
    show OwnerOnly _ (.release tenant owner) ((mem.release nowMs tenant owner).1.map .release)
    unfold MemStore.release
    simp only
    cases hget : (mem.removeStale nowMs).byTenant.get tenant with
    | none => trivial
    | some lease =>
      obtain ⟨current, expiry⟩ := lease
      by_cases hcurrent : current = owner
      · simp only [hcurrent, ne_eq, not_true, if_false]
        exact hheld (by rw [hget, ← hcurrent]; rfl)
      · simp only [hcurrent, ne_eq, not_false_eq_true, if_true]
        trivial
  | renew tenant owner ttl =>
    show OwnerOnly _ (.renew tenant owner ttl) ((mem.renew nowMs tenant owner ttl).1.map .renew)
    rw [hmem.renew_eq]
    simp only
    split
    · rename_i howner
      exact fun _ => hheld howner
    · exact fun hcontra => by cases hcontra

/-- What is promised of a run: after every part of it, at every later instant, a tenant has one
    owner and few leases are live, in both stores; only owners renew and release; the
    accounting in memory is never inconsistent; and the stores give the same replies. -/
structure LeasesHold (run : List TimedCall) : Prop where
  exclusive : ∀ before after, run = before ++ after →
    ∀ instant, (∀ timed ∈ before, timed.nowMs ≤ instant) →
      Exclusive ((memAfter before).Holds instant) ∧ Exclusive ((redisAfter before).Holds instant)
  owner_only : ∀ before timed after, run = before ++ timed :: after →
    ∀ call, timed.call.check = .ok call →
      OwnerOnly ((memAfter before).Holds timed.nowMs) call ((memAfter before).step timed).1 ∧
        OwnerOnly ((redisAfter before).Holds timed.nowMs) call ((redisAfter before).step timed).1
  accounted : ∀ before timed after, run = before ++ timed :: after →
    ((memAfter before).step timed).1 ≠
      .error (.unavailable "in-memory lease accounting is inconsistent")
  same_replies : SameReplies run

theorem MemStore.Consistent.answer_ok {mem : MemStore} (hmem : mem.Consistent) (nowMs : Nat)
    (call : CheckedCall) : ∃ reply, (mem.answer nowMs call).1 = .ok reply := by
  cases call with
  | acquire tenant owner ttl =>
    show ∃ reply, (mem.acquire nowMs tenant owner ttl).1.map Reply.acquire = .ok reply
    unfold MemStore.acquire
    simp only
    split
    · exact ⟨_, rfl⟩
    · split <;> exact ⟨_, rfl⟩
  | release tenant owner =>
    show ∃ reply, (mem.release nowMs tenant owner).1.map Reply.release = .ok reply
    unfold MemStore.release
    simp only
    split
    · exact ⟨_, rfl⟩
    · split <;> exact ⟨_, rfl⟩
  | renew tenant owner ttl =>
    show ∃ reply, (mem.renew nowMs tenant owner ttl).1.map Reply.renew = .ok reply
    rw [hmem.renew_eq]
    simp only
    split <;> exact ⟨_, rfl⟩

def IsValueError (e : LeaseError) : Prop := ∃ message, e = .valueError message

theorem raises_validateTtlSeconds (ttlSeconds : Int) :
    Raises IsValueError (validateTtlSeconds ttlSeconds) := by
  unfold validateTtlSeconds
  split
  · exact raises_error ⟨_, rfl⟩
  · exact raises_ok

theorem raises_validateLeaseIdentity (tenantKeyHash ownerToken : String) :
    Raises IsValueError (validateLeaseIdentity tenantKeyHash ownerToken) := by
  unfold validateLeaseIdentity
  split
  · exact raises_ok
  · exact raises_error ⟨_, rfl⟩

/-- The checks of a call raise nothing but value errors. -/
theorem raises_check (call : Call) : Raises IsValueError call.check := by
  cases call with
  | acquire tenantKeyHash ownerToken ttlSeconds =>
    exact raises_bind (raises_validateTtlSeconds _) fun _ _ =>
      raises_bind (raises_validateLeaseIdentity _ _) fun _ _ => raises_ok
  | release tenantKeyHash ownerToken =>
    exact raises_bind (raises_validateLeaseIdentity _ _) fun _ _ => raises_ok
  | renew tenantKeyHash ownerToken ttlSeconds =>
    exact raises_bind (raises_validateTtlSeconds _) fun _ _ =>
      raises_bind (raises_validateLeaseIdentity _ _) fun _ _ => raises_ok

/-- Everything is kept in exactly the runs in which no call comes in the millisecond at which
    the lease it asks about expires. -/
theorem leasesHold_iff (run : List TimedCall) (hclock : ClockForward run) :
    LeasesHold run ↔ NoCallAtExpiry run := by
  constructor
  · exact fun h => noCallAtExpiry_of_sameReplies hclock h.same_replies
  · intro hoff
    have hsame := sameReplies_of_noCallAtExpiry hclock hoff
    have hmirrors (before after : List TimedCall) (hsplit : run = before ++ after) (instant : Nat)
        (hinstant : ∀ timed ∈ before, timed.nowMs ≤ instant) :
        Mirrors instant (memAfter before) (redisAfter before) := by
      refine mirrors_of_noCallAtExpiry ?_ ?_ hinstant
      · rw [ClockForward, hsplit, List.pairwise_append] at hclock
        exact hclock.1
      · exact fun first step rest hfirst =>
          hoff first step (rest ++ after) (by rw [hsplit, hfirst]; simp)
    refine ⟨?_, ?_, ?_, hsame⟩
    · intro before after hsplit instant hinstant
      have hmem := MemStore.consistent_memAfter before
      have hholds : (redisAfter before).Holds instant = (memAfter before).Holds instant := by
        funext tenant owner
        exact propext ((hmirrors before after hsplit instant hinstant).holds_iff hmem)
      exact ⟨hmem.exclusive instant, by rw [hholds]; exact hmem.exclusive instant⟩
    · intro before timed after hsplit call hcheck
      have hmem := MemStore.consistent_memAfter before
      have hnow : ∀ earlier ∈ before, earlier.nowMs ≤ timed.nowMs := by
        rw [ClockForward, hsplit, List.pairwise_append] at hclock
        exact fun earlier hearlier => hclock.2.2 earlier hearlier timed List.mem_cons_self
      have hholds : (redisAfter before).Holds timed.nowMs = (memAfter before).Holds timed.nowMs := by
        funext tenant owner
        exact propext ((hmirrors before _ hsplit timed.nowMs hnow).holds_iff hmem)
      have howner := hmem.ownerOnly timed.nowMs call
      have hstep : ((memAfter before).step timed).1 =
          ((memAfter before).answer timed.nowMs call).1 := by
        unfold MemStore.step
        rw [hcheck]
      rw [hholds, ← hsame before timed after hsplit, hstep]
      exact ⟨howner, howner⟩
    · intro before timed after hsplit hreply
      unfold MemStore.step at hreply
      cases hcheck : timed.call.check with
      | error e =>
        obtain ⟨message, rfl⟩ := raises_check timed.call e hcheck
        rw [hcheck] at hreply
        cases hreply
      | ok call =>
        obtain ⟨reply, hok⟩ := (MemStore.consistent_memAfter before).answer_ok timed.nowMs call
        rw [hcheck] at hreply
        simp only at hreply
        rw [hok] at hreply
        cases hreply

/-! ## The millisecond of expiry -/

/-- Sixty-four times one hexadecimal digit. -/
def sampleHex (digit : Char) : String := String.ofList (List.replicate 64 digit)

/-- Eight tenants hold leases; in the millisecond in which the first of them expires a ninth
    tenant takes its place, and then the first renews. -/
def nineLeases : List TimedCall :=
  ⟨0, .acquire (sampleHex '0') (sampleHex 'a') 900⟩ ::
    (['1', '2', '3', '4', '5', '6', '7'].map fun tenant =>
      ⟨1, .acquire (sampleHex tenant) (sampleHex 'a') 900⟩) ++
    [⟨900000, .acquire (sampleHex '8') (sampleHex 'a') 900⟩,
      ⟨900000, .renew (sampleHex '0') (sampleHex 'a') 900⟩]

/-- The tenants of the nine leases, with their owners. -/
def nineHolders : List (Hex256 × Hex256) :=
  ['0', '1', '2', '3', '4', '5', '6', '7', '8'].filterMap fun digit =>
    (validateLeaseIdentity (sampleHex digit) (sampleHex 'a')).toOption

/-- Redis holds nine live leases, one more than the limit. -/
theorem leases_exceed_limit : ClockForward nineLeases ∧ ¬LeasesHold nineLeases := by
  refine ⟨by unfold ClockForward; decide +kernel, fun h => ?_⟩
  have hexclusive := (h.exclusive nineLeases [] (by simp) 900000 (by decide +kernel)).2
  obtain ⟨hnodup, hcount, hactive⟩ : nineHolders.Nodup ∧
      ¬nineHolders.length ≤ globalArtifactOperationLimit ∧
      ∀ lease ∈ nineHolders, ∃ expiry ∈ [900001, 1800000], 900000 < expiry ∧
        (redisAfter nineLeases).active.get (globalMember lease.1 lease.2) = some expiry := by
    decide +kernel
  have hheld : ∀ lease ∈ nineHolders,
      (redisAfter nineLeases).Holds 900000 lease.1 lease.2 := by
    intro lease hlease
    obtain ⟨expiry, -, hlive, hget⟩ := hactive lease hlease
    exact ⟨expiry, hlive, .inr hget⟩
  exact hcount (hexclusive.limited nineHolders hnodup hheld)

example : nineLeases.length = 10 := by decide +kernel

/-- The first call of the run keeps everything. -/
theorem leasesHold_first : LeasesHold (nineLeases.take 1) := by
  refine (leasesHold_iff _ (List.pairwise_singleton _ _)).mpr ?_
  intro before timed after hsplit call hcheck hat
  -- nothing is in the store before it
  obtain ⟨rfl, -⟩ : before = [] ∧ timed :: after = nineLeases.take 1 := by
    cases before with
    | nil => exact ⟨rfl, hsplit.symm⟩
    | cons first rest => simp at hsplit
  cases call with
  | acquire tenant owner ttl =>
    obtain ⟨value, hget⟩ := hat
    cases hget
  | release tenant owner => cases hat
  | renew tenant owner ttl => cases hat

end Custombuild.Leases
