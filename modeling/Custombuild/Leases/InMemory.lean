/-
  The store in memory.  Every lease stands in both dictionaries, so the accounting never fails,
  a tenant has one owner and the global limit holds after every call.
-/
import Custombuild.Leases.Model

namespace Custombuild.Leases

open Custombuild.Lib

/-! ## Members of the global set -/

theorem Hex256.length_toList (h : Hex256) : h.text.toList.length = 64 := by
  have hvalid := h.valid
  unfold isHex256 at hvalid
  rw [charsOf_eq, Bool.and_eq_true] at hvalid
  exact beq_iff_eq.mp hvalid.1

theorem Hex256.ext_text {h h' : Hex256} (heq : h.text = h'.text) : h = h' := by
  cases h
  cases h'
  cases heq
  rfl

/-- A member names its tenant and its owner. -/
theorem globalMember_inj {tenant tenant' owner owner' : Hex256}
    (h : globalMember tenant owner = globalMember tenant' owner') :
    tenant = tenant' ∧ owner = owner' := by
  have hlist := congrArg String.toList h
  simp only [globalMember, String.toList_append, List.append_assoc] at hlist
  obtain ⟨htenant, hrest⟩ := List.append_inj hlist
    (by rw [tenant.length_toList, tenant'.length_toList])
  refine ⟨Hex256.ext_text (String.toList_inj.mp htenant), Hex256.ext_text (String.toList_inj.mp ?_)⟩
  exact List.append_cancel_left hrest

theorem redisTenantKey_inj {tenant tenant' : Hex256}
    (h : redisTenantKey tenant = redisTenantKey tenant') : tenant = tenant' := by
  unfold redisTenantKey at h
  exact Hex256.ext_text (String.append_right_inj _ |>.mp h)

/-! ## Removing what has expired -/

namespace MemStore

variable {nowMs : Nat} {store : MemStore} {tenant owner : Hex256}

theorem foldl_dropStaleMember_global (entries : List (String × Hex256 × Hex256 × Nat))
    (store : MemStore) (member : String) :
    (entries.foldl (dropStaleMember nowMs) store).global.get member =
      if entries.any (fun entry => entry.1 == member && entry.2.2.2 ≤ nowMs) then none
      else store.global.get member := by
  induction entries generalizing store with
  | nil => simp
  | cons entry entries ih =>
    obtain ⟨key, tenant, owner, expiresAtMs⟩ := entry
    rw [List.foldl_cons, ih, List.any_cons]
    by_cases hlive : nowMs < expiresAtMs
    · have hstale : decide (expiresAtMs ≤ nowMs) = false := by simpa using hlive
      simp only [dropStaleMember, hlive, if_true, hstale, Bool.and_false, Bool.false_or]
    · have hstale : decide (expiresAtMs ≤ nowMs) = true := by simpa using hlive
      simp only [dropStaleMember, hlive, if_false, Dict.get_pop, hstale, Bool.and_true]
      by_cases hkey : member = key
      · simp [hkey]
      · have hkey' : (key == member) = false := by simpa using Ne.symm hkey
        simp only [hkey, if_false, hkey', Bool.false_or]

/-- The first loop drops no tenant whose lease is live. -/
theorem foldl_dropStaleMember_byTenant (entries : List (String × Hex256 × Hex256 × Nat))
    (store : MemStore) (tenant : Hex256) :
    ((entries.foldl (dropStaleMember nowMs) store).byTenant.get tenant).filter
        (fun lease => nowMs < lease.2) =
      (store.byTenant.get tenant).filter fun lease => nowMs < lease.2 := by
  induction entries generalizing store with
  | nil => rfl
  | cons entry entries ih =>
    obtain ⟨key, holder, owner, expiresAtMs⟩ := entry
    rw [List.foldl_cons, ih, dropStaleMember]
    split
    · rfl
    · rename_i hstale
      split
      · rename_i hheld
        rw [Dict.get_pop]
        split
        · rename_i hsame
          rw [hsame, hheld, Option.filter_none, Option.filter_some, if_neg (by simpa using hstale)]
        · rfl
      · rfl

theorem foldl_dropStaleTenant (entries : List (Hex256 × Hex256 × Nat))
    (byTenant : Dict Hex256 (Hex256 × Nat)) (tenant : Hex256) :
    (entries.foldl (dropStaleTenant nowMs) byTenant).get tenant =
      if entries.any (fun entry => entry.1 == tenant && entry.2.2 ≤ nowMs) then none
      else byTenant.get tenant := by
  induction entries generalizing byTenant with
  | nil => simp
  | cons entry entries ih =>
    rw [List.foldl_cons, ih, List.any_cons, dropStaleTenant]
    by_cases hstale : entry.2.2 ≤ nowMs
    · rw [if_pos hstale, Dict.get_pop]
      by_cases hkey : tenant = entry.1
      · simp [hkey, hstale]
      · have hkey' : (entry.1 == tenant) = false := by simpa using Ne.symm hkey
        simp only [hkey, if_false, hkey', Bool.false_and, Bool.false_or]
    · simp only [hstale, if_false, decide_false, Bool.and_false, Bool.false_or]

/-- Whether an expired entry stands under a key. -/
theorem any_stale {κ ν : Type} [DecidableEq κ] (d : Dict κ ν) (k : κ) (expiry : ν → Nat) :
    (if d.entries.any (fun entry => entry.1 == k && expiry entry.2 ≤ nowMs) then none
      else d.get k) = (d.get k).filter fun v => nowMs < expiry v := by
  cases hget : d.get k with
  | none => simp
  | some v =>
    have hany : d.entries.any (fun entry => entry.1 == k && expiry entry.2 ≤ nowMs) =
        decide (expiry v ≤ nowMs) := by
      rw [Bool.eq_iff_iff, List.any_eq_true, decide_eq_true_eq]
      constructor
      · rintro ⟨⟨key, w⟩, hmem, hstale⟩
        simp only [Bool.and_eq_true, beq_iff_eq, decide_eq_true_eq] at hstale
        rw [← Dict.get_eq_some, hstale.1, hget] at hmem
        cases hmem
        exact hstale.2
      · intro hstale
        exact ⟨(k, v), Dict.get_eq_some.mp hget, by simpa using hstale⟩
    rw [hany, Option.filter_some]
    by_cases hstale : expiry v ≤ nowMs
    · simp [hstale, Nat.not_lt.mpr hstale]
    · simp [hstale, Nat.lt_of_not_le hstale]

@[simp] theorem removeStale_global (nowMs : Nat) (store : MemStore) (member : String) :
    (store.removeStale nowMs).global.get member =
      (store.global.get member).filter fun lease => nowMs < lease.2.2 := by
  unfold removeStale
  simp only
  rw [foldl_dropStaleMember_global]
  exact any_stale store.global member fun lease => lease.2.2

@[simp] theorem removeStale_byTenant (nowMs : Nat) (store : MemStore) (tenant : Hex256) :
    (store.removeStale nowMs).byTenant.get tenant =
      (store.byTenant.get tenant).filter fun lease => nowMs < lease.2 := by
  unfold removeStale
  simp only
  rw [foldl_dropStaleTenant]
  rw [any_stale _ tenant fun lease : Hex256 × Nat => lease.2]
  exact foldl_dropStaleMember_byTenant _ _ _

/-! ## The invariant -/

/-- The two dictionaries say the same, and the global one is within the limit. -/
structure Consistent (store : MemStore) : Prop where
  mirrored : ∀ tenant owner expiry, store.byTenant.get tenant = some (owner, expiry) ↔
    store.global.get (globalMember tenant owner) = some (tenant, owner, expiry)
  named : ∀ member tenant owner expiry,
    store.global.get member = some (tenant, owner, expiry) → member = globalMember tenant owner
  bounded : store.global.size ≤ globalArtifactOperationLimit

theorem consistent_empty : Consistent {} where
  mirrored := fun _ _ _ => by simp
  named := fun _ _ _ _ h => by simp at h
  bounded := Nat.zero_le _

theorem Consistent.removeStale (h : store.Consistent) (nowMs : Nat) :
    (store.removeStale nowMs).Consistent where
  mirrored := fun tenant owner expiry => by
    simp only [removeStale_byTenant, removeStale_global, Option.filter_eq_some_iff]
    rw [h.mirrored]
  named := fun member tenant owner expiry hget => by
    rw [removeStale_global, Option.filter_eq_some_iff] at hget
    exact h.named member tenant owner expiry hget.1
  bounded := by
    refine Nat.le_trans (Dict.size_le_of_keys fun member lease hget => ?_) h.bounded
    rw [removeStale_global, Option.filter_eq_some_iff] at hget
    exact ⟨lease, hget.1⟩

/-- A lease is entered in both dictionaries, for a tenant that nobody else holds. -/
theorem Consistent.enter (h : store.Consistent) {expiry : Nat}
    (hown : ∀ o e, store.byTenant.get tenant = some (o, e) → o = owner)
    (hroom : (store.global.set (globalMember tenant owner) (tenant, owner, expiry)).size ≤
      globalArtifactOperationLimit) :
    Consistent
      { byTenant := store.byTenant.set tenant (owner, expiry)
        global := store.global.set (globalMember tenant owner) (tenant, owner, expiry) } where
  mirrored := fun t o e => by
    simp only [Dict.get_set]
    by_cases htenant : t = tenant
    · subst htenant
      by_cases howner : o = owner
      · subst howner
        simp
      · have hmember : globalMember t o ≠ globalMember t owner :=
          fun heq => howner (globalMember_inj heq).2
        rw [if_pos rfl, if_neg hmember, ← h.mirrored]
        constructor
        · intro hnew
          cases hnew
          exact absurd rfl howner
        · intro hold
          exact absurd (hown o e hold) howner
    · have hmember : globalMember t o ≠ globalMember tenant owner :=
        fun heq => htenant (globalMember_inj heq).1
      rw [if_neg htenant, if_neg hmember, h.mirrored]
  named := fun member t o e hget => by
    simp only [Dict.get_set] at hget
    split at hget
    · cases hget
      assumption
    · exact h.named member t o e hget
  bounded := hroom

theorem Consistent.grant (h : store.Consistent) (hfree : store.byTenant.get tenant = none)
    (hroom : store.global.size < globalArtifactOperationLimit) (expiry : Nat) :
    Consistent
      { byTenant := store.byTenant.set tenant (owner, expiry)
        global := store.global.set (globalMember tenant owner) (tenant, owner, expiry) } := by
  refine h.enter (fun o e hheld => ?_) (Nat.le_trans Dict.size_set_le hroom)
  rw [hfree] at hheld
  cases hheld

theorem Consistent.extend (h : store.Consistent) {old : Nat}
    (hheld : store.byTenant.get tenant = some (owner, old)) (expiry : Nat) :
    Consistent
      { byTenant := store.byTenant.set tenant (owner, expiry)
        global := store.global.set (globalMember tenant owner) (tenant, owner, expiry) } := by
  refine h.enter (fun o e hget => ?_) ?_
  · rw [hheld] at hget
    cases hget
    rfl
  · refine Nat.le_trans (Dict.size_le_of_keys fun member lease hget => ?_) h.bounded
    rw [Dict.get_set] at hget
    split at hget
    · rename_i hmember
      exact ⟨_, hmember ▸ (h.mirrored tenant owner old).mp hheld⟩
    · exact ⟨lease, hget⟩

theorem Consistent.drop (h : store.Consistent) {expiry : Nat}
    (hheld : store.byTenant.get tenant = some (owner, expiry)) :
    Consistent
      { byTenant := store.byTenant.pop tenant
        global := store.global.pop (globalMember tenant owner) } where
  mirrored := fun t o e => by
    simp only [Dict.get_pop]
    by_cases htenant : t = tenant
    · subst htenant
      rw [if_pos rfl]
      by_cases howner : o = owner
      · simp [howner]
      · have hmember : globalMember t o ≠ globalMember t owner :=
          fun heq => howner (globalMember_inj heq).2
        rw [if_neg hmember, ← h.mirrored, hheld]
        simp [Ne.symm howner]
    · have hmember : globalMember t o ≠ globalMember tenant owner :=
        fun heq => htenant (globalMember_inj heq).1
      rw [if_neg htenant, if_neg hmember, h.mirrored]
  named := fun member t o e hget => by
    simp only [Dict.get_pop] at hget
    split at hget
    · cases hget
    · exact h.named member t o e hget
  bounded := by
    refine Nat.le_trans (Dict.size_le_of_keys fun member lease hget => ?_) h.bounded
    rw [Dict.get_pop] at hget
    split at hget
    · cases hget
    · exact ⟨lease, hget⟩

/-! ## Calls -/

theorem Consistent.acquire (h : store.Consistent) (ttlSeconds : Nat) :
    (store.acquire nowMs tenant owner ttlSeconds).2.Consistent := by
  have hfresh := h.removeStale nowMs
  unfold MemStore.acquire
  simp only
  split
  · exact hfresh
  · rename_i hfree
    split
    · exact hfresh
    · rename_i hroom
      exact hfresh.grant (Option.not_isSome_iff_eq_none.mp hfree) (by omega) _

theorem Consistent.release (h : store.Consistent) :
    (store.release nowMs tenant owner).2.Consistent := by
  have hfresh := h.removeStale nowMs
  unfold MemStore.release
  simp only
  split
  · exact hfresh
  · rename_i current expiry hheld
    split
    · exact hfresh
    · rename_i hcurrent
      obtain rfl : current = owner := not_not.mp hcurrent
      exact hfresh.drop hheld

/-- The accounting is never found inconsistent. -/
theorem Consistent.renew_eq (h : store.Consistent) (ttlSeconds : Nat) :
    store.renew nowMs tenant owner ttlSeconds =
      let fresh := store.removeStale nowMs
      if (fresh.byTenant.get tenant).map Prod.fst = some owner then
        let expiry := nowMs + ttlSeconds * 1000
        (.ok ⟨true, nowMs, expiry⟩,
          { byTenant := fresh.byTenant.set tenant (owner, expiry)
            global := fresh.global.set (globalMember tenant owner) (tenant, owner, expiry) })
      else (.ok ⟨false, nowMs, 0⟩, fresh) := by
  have hfresh := h.removeStale nowMs
  unfold MemStore.renew
  simp only
  cases hheld : (store.removeStale nowMs).byTenant.get tenant with
  | none => simp
  | some lease =>
    obtain ⟨current, old⟩ := lease
    by_cases hcurrent : current = owner
    · subst hcurrent
      have haccount := (hfresh.mirrored tenant current old).mp hheld
      simp [haccount]
    · simp [hcurrent]

theorem Consistent.renew (h : store.Consistent) (ttlSeconds : Nat) :
    (store.renew nowMs tenant owner ttlSeconds).2.Consistent := by
  have hfresh := h.removeStale nowMs
  rw [h.renew_eq]
  simp only
  split
  · rename_i hheld
    obtain ⟨⟨current, old⟩, hget, rfl⟩ := Option.map_eq_some_iff.mp hheld
    exact hfresh.extend hget _
  · exact hfresh

theorem Consistent.step (h : store.Consistent) (timed : TimedCall) :
    (store.step timed).2.Consistent := by
  unfold MemStore.step
  cases timed.call.check with
  | error e => exact h
  | ok call =>
    cases call with
    | acquire tenant owner ttl => exact h.acquire ttl
    | release tenant owner => exact h.release
    | renew tenant owner ttl => exact h.renew ttl

theorem consistent_foldl (run : List TimedCall) (h : store.Consistent) :
    (run.foldl (fun store timed => (store.step timed).2) store).Consistent := by
  induction run generalizing store with
  | nil => exact h
  | cons timed run ih => exact ih (h.step timed)

theorem consistent_memAfter (run : List TimedCall) : (memAfter run).Consistent :=
  consistent_foldl run consistent_empty

/-! ## Live leases -/

/-- The tenant's lease is live and has this owner, in one of the dictionaries. -/
def Holds (store : MemStore) (instant : Nat) (tenant owner : Hex256) : Prop :=
  ∃ expiry, instant < expiry ∧ (store.byTenant.get tenant = some (owner, expiry) ∨
    store.global.get (globalMember tenant owner) = some (tenant, owner, expiry))

theorem Consistent.holds_iff (h : store.Consistent) {instant : Nat} :
    store.Holds instant tenant owner ↔
      ∃ expiry, instant < expiry ∧ store.byTenant.get tenant = some (owner, expiry) := by
  unfold Holds
  simp only [← h.mirrored, or_self]

end MemStore

/-- Live leases: one owner for a tenant, and few at once. -/
structure Exclusive (holds : Hex256 → Hex256 → Prop) : Prop where
  one_owner : ∀ tenant owner owner', holds tenant owner → holds tenant owner' → owner = owner'
  limited : ∀ leases : List (Hex256 × Hex256), leases.Nodup →
    (∀ lease ∈ leases, holds lease.1 lease.2) → leases.length ≤ globalArtifactOperationLimit

theorem MemStore.Consistent.exclusive {store : MemStore} (h : store.Consistent) (instant : Nat) :
    Exclusive (store.Holds instant) where
  one_owner := fun tenant owner owner' hheld hheld' => by
    obtain ⟨expiry, -, hget⟩ := h.holds_iff.mp hheld
    obtain ⟨expiry', -, hget'⟩ := h.holds_iff.mp hheld'
    rw [hget] at hget'
    cases hget'
    rfl
  limited := fun leases hnodup hheld => by
    -- the members of the leases are keys of the global dictionary
    have hmembers : (leases.map fun lease => globalMember lease.1 lease.2).Nodup := by
      refine hnodup.map fun lease lease' heq => ?_
      obtain ⟨htenant, howner⟩ := globalMember_inj heq
      exact Prod.ext htenant howner
    have hsubset : (leases.map fun lease => globalMember lease.1 lease.2) ⊆ store.global.keys := by
      intro member hmember
      obtain ⟨lease, hlease, rfl⟩ := List.mem_map.mp hmember
      obtain ⟨expiry, -, hget⟩ := h.holds_iff.mp (hheld lease hlease)
      exact Dict.mem_keys.mpr ⟨_, (h.mirrored _ _ _).mp hget⟩
    calc leases.length = (leases.map fun lease => globalMember lease.1 lease.2).length := by simp
      _ ≤ store.global.keys.length := (List.subperm_of_subset hmembers hsubset).length_le
      _ = store.global.size := by simp [Dict.keys, Dict.size]
      _ ≤ globalArtifactOperationLimit := h.bounded

end Custombuild.Leases
