/-
  What an accepted transition keeps of a trust registry.  `Supersedes` says what an activated
  registry has in common with every later one; it is reflexive on valid registries and
  transitive, every activation keeps it, and so does a whole run.
-/
import Custombuild.Retention.HighWater
import Custombuild.Retention.Registry

namespace Custombuild.Retention

open Custombuild.Lib

/-- The later registry has every issuer key of the earlier one, with the same material and
    validity and revoked no later; it binds no key of the earlier one to another identity, and it
    revokes whatever the earlier one does. -/
structure Supersedes (earlier later : TrustRegistry) : Prop where
  kept : ∀ issuer ∈ earlier.issuers, ∃ issuer' ∈ later.issuers,
    issuer'.identity = issuer.identity ∧ issuer'.publicKeyBase64 = issuer.publicKeyBase64 ∧
    issuer'.notBefore = issuer.notBefore ∧ issuer'.notAfter = issuer.notAfter ∧
    revocationDelayed issuer.revokedAt issuer'.revokedAt = false
  bound : ∀ issuer ∈ earlier.issuers, ∀ issuer' ∈ later.issuers,
    publicKeyBytes issuer' = publicKeyBytes issuer → issuer'.identity = issuer.identity
  statements : earlier.revokedStatementSha256 ⊆ later.revokedStatementSha256
  systems : earlier.revokedSystemVersions ⊆ later.revokedSystemVersions

theorem revocationDelayed_trans {a b c : Option Int} (hab : revocationDelayed a b = false)
    (hbc : revocationDelayed b c = false) : revocationDelayed a c = false := by
  cases a <;> cases b <;> cases c <;> simp_all [revocationDelayed]
  omega

theorem revocationDelayed_self (a : Option Int) : revocationDelayed a a = false := by
  cases a <;> simp [revocationDelayed]

theorem publicKeyBytes_congr {issuer issuer' : TrustedIssuer}
    (h : issuer'.publicKeyBase64 = issuer.publicKeyBase64) :
    publicKeyBytes issuer' = publicKeyBytes issuer := by
  rw [publicKeyBytes, publicKeyBytes, h]

theorem Supersedes.trans {r₁ r₂ r₃ : TrustRegistry} (h₁ : Supersedes r₁ r₂)
    (h₂ : Supersedes r₂ r₃) : Supersedes r₁ r₃ where
  kept := by
    intro issuer hissuer
    obtain ⟨mid, hmid, hid, hkey, hbefore, hafter, hrevoked⟩ := h₁.kept issuer hissuer
    obtain ⟨last, hlast, hid', hkey', hbefore', hafter', hrevoked'⟩ := h₂.kept mid hmid
    exact ⟨last, hlast, hid'.trans hid, hkey'.trans hkey, hbefore'.trans hbefore,
      hafter'.trans hafter, revocationDelayed_trans hrevoked hrevoked'⟩
  bound := by
    intro issuer hissuer last hlast hsame
    -- the registry between them still has the issuer, under the same key
    obtain ⟨mid, hmid, hid, hkey, -⟩ := h₁.kept issuer hissuer
    exact (h₂.bound mid hmid last hlast (hsame.trans (publicKeyBytes_congr hkey).symm)).trans hid
  statements := List.Subset.trans h₁.statements h₂.statements
  systems := List.Subset.trans h₁.systems h₂.systems

/-! ## Parsed documents -/

section Parsed

variable {env : RegistryEnv}

theorem exists_of_mem_mapM {α β : Type} {f : α → Option β} {l : List α} {bs : List β}
    (h : l.mapM f = some bs) {b : β} (hb : b ∈ bs) : ∃ a ∈ l, f a = some b := by
  induction l generalizing bs with
  | nil =>
    obtain rfl : [] = bs := Option.some.inj h
    cases hb
  | cons a l ih =>
    rw [List.mapM_cons] at h
    simp only [Option.bind_eq_bind, Option.bind_eq_some_iff, Option.pure_def, Option.some.injEq] at h
    obtain ⟨b', hb', bs', hbs', rfl⟩ := h
    rcases List.mem_cons.mp hb with rfl | hb
    · exact ⟨a, List.mem_cons_self, hb'⟩
    · obtain ⟨a', ha', hf⟩ := ih hbs' hb
      exact ⟨a', List.mem_cons_of_mem _ ha', hf⟩

/-- What a parsed issuer has of its document. -/
structure ParsedIssuer (env : RegistryEnv) (value : Json) (issuer : TrustedIssuer) : Prop where
  issuerId : strField value "issuer_id" = some issuer.issuerId
  keyId : strField value "key_id" = some issuer.keyId
  publicKey : strField value "public_key_base64" = some issuer.publicKeyBase64
  notBefore : (strField value "not_before").bind env.instant = some issuer.notBefore
  notAfter : (strField value "not_after").bind env.instant = some issuer.notAfter

theorem parsedIssuer {value : Json} {issuer : TrustedIssuer}
    (h : parseIssuer env value = some issuer) : ParsedIssuer env value issuer := by
  simp only [parseIssuer, Option.bind_eq_bind, Option.bind_eq_some_iff, Option.pure_def,
    Option.some.injEq] at h
  obtain ⟨_, -, issuerId, hid, keyId, hkey, role, -, key, hpublic, notBefore, hbefore, notAfter,
    hafter, revoked, -, _, -, rfl⟩ := h
  exact ⟨hid, hkey, hpublic, Option.bind_eq_some_iff.mpr hbefore, Option.bind_eq_some_iff.mpr hafter⟩

theorem ParsedIssuer.rawIdentity_eq {value : Json} {issuer : TrustedIssuer}
    (h : ParsedIssuer env value issuer) : rawIdentity value = some issuer.identity := by
  simp [rawIdentity, h.issuerId, h.keyId, TrustedIssuer.identity]

/-- What a parsed registry has of its document. -/
structure ParsedRegistry (env : RegistryEnv) (value : Json) (registry : TrustRegistry) : Prop where
  issuers : ∃ raw, rawIssuers value = some raw ∧ raw.mapM (parseIssuer env) = some registry.issuers
  statements : stringItems value "revoked_statement_sha256" = some registry.revokedStatementSha256
  systems : stringItems value "revoked_system_versions" = some registry.revokedSystemVersions
  identities : (registry.issuers.map TrustedIssuer.identity).Pairwise fun a b => pairBefore a b = true
  keys : ∃ keys, collect publicKeyBytes registry.issuers = .ok keys ∧ keys.Nodup

theorem parsedRegistry {value : Json} {registry : TrustRegistry}
    (h : loadRegistry env value = .ok registry) : ParsedRegistry env value registry := by
  simp only [loadRegistry, bind_eq_ok, demand_eq_ok, require_eq_ok, decide_eq_true_eq] at h
  obtain ⟨parsed, hparsed, _, hidentities, keys, hkeys, _, hnodup, hret⟩ := h
  cases hret
  simp only [parseRegistry, Option.bind_eq_bind, Option.bind_eq_some_iff, Option.pure_def,
    Option.some.injEq] at hparsed
  obtain ⟨_, -, _, -, _, -, raw, hraw, issuers, hissuers, statements, hstatements, systems, hsystems,
    _, -, _, -, rfl⟩ := hparsed
  exact ⟨⟨raw, hraw, hissuers⟩, hstatements, hsystems, hidentities, keys, hkeys, hnodup⟩

/-- A key that is not repeated has one owner. -/
theorem eq_of_collect_nodup {α β ε : Type} {f : α → Except ε β} {l : List α} {bs : List β}
    (h : collect f l = .ok bs) (hnodup : bs.Nodup) {a a' : α} (ha : a ∈ l) (ha' : a' ∈ l)
    (hsame : f a = f a') : a = a' := by
  induction l generalizing bs with
  | nil => cases ha
  | cons c l ih =>
    simp only [collect, bind_eq_ok, Except.ok.injEq] at h
    obtain ⟨b, hb, bs', hbs', rfl⟩ := h
    rw [List.nodup_cons] at hnodup
    have hfresh : ∀ d ∈ l, f d ≠ f c := by
      intro d hd heq
      obtain ⟨b', hb', hf⟩ := collect_mem hbs' hd
      rw [heq, hb, Except.ok.injEq] at hf
      exact hnodup.1 (hf ▸ hb')
    rcases List.mem_cons.mp ha with heq | hmem
    · rcases List.mem_cons.mp ha' with heq' | hmem'
      · rw [heq, heq']
      · rw [heq] at hsame
        exact absurd hsame.symm (hfresh a' hmem')
    · rcases List.mem_cons.mp ha' with heq' | hmem'
      · rw [heq'] at hsame
        exact absurd hsame (hfresh a hmem)
      · exact ih hbs' hnodup.2 hmem hmem'

theorem ParsedRegistry.supersedes_self {value : Json} {registry : TrustRegistry}
    (h : ParsedRegistry env value registry) : Supersedes registry registry where
  kept issuer hissuer := ⟨issuer, hissuer, rfl, rfl, rfl, rfl, revocationDelayed_self _⟩
  bound := by
    intro issuer hissuer issuer' hissuer' hsame
    obtain ⟨keys, hkeys, hnodup⟩ := h.keys
    rw [eq_of_collect_nodup hkeys hnodup hissuer' hissuer hsame]
  statements := List.Subset.refl _
  systems := List.Subset.refl _

/-! ## Keys -/

theorem rawKey_of_publicKeyBytes {value : Json} {issuer : TrustedIssuer} {bytes : List Nat}
    (h : ParsedIssuer env value issuer) (hkey : publicKeyBytes issuer = .ok bytes) :
    rawKey value = .ok bytes := by
  simp only [publicKeyBytes, bind_eq_ok, require_eq_ok] at hkey
  obtain ⟨bytes', hdecode, _, -, hret⟩ := hkey
  cases hret
  rw [rawKey, h.publicKey]
  exact hdecode

end Parsed

/-! ## Documents that differ in a revocation only -/

theorem str_of_same {text : String} {value : Json} (h : Json.same (.str text) value = true) :
    value = .str text := by
  cases value <;> simp_all [Json.same]

theorem find_of_sameFields {key text : String} {as bs : List (String × Json)}
    (h : Json.sameFields as bs = true)
    (hget : (as.find? fun field => field.1 == key).map Prod.snd = some (.str text)) :
    (bs.find? fun field => field.1 == key).map Prod.snd = some (.str text) := by
  induction as generalizing bs with
  | nil => cases hget
  | cons a as ih =>
    cases bs with
    | nil => simp [Json.sameFields] at h
    | cons b bs =>
      simp only [Json.sameFields, Bool.and_eq_true, beq_iff_eq] at h
      obtain ⟨⟨hkey, hvalue⟩, hrest⟩ := h
      rw [List.find?_cons] at hget ⊢
      rw [← hkey]
      by_cases hmatch : (a.1 == key) = true
      · rw [hmatch] at hget ⊢
        simp only [Option.map_some, Option.some.injEq] at hget ⊢
        rw [hget] at hvalue
        exact str_of_same hvalue
      · rw [Bool.not_eq_true] at hmatch
        rw [hmatch] at hget ⊢
        exact ih hrest hget

theorem strField_eq_some {value : Json} {key text : String} :
    strField value key = some text ↔ value.get key = some (.str text) := by
  unfold strField
  split
  · rename_i found hfound
    rw [hfound]
    simp
  · rename_i hother
    constructor
    · intro h
      cases h
    · intro h
      exact absurd h (hother text)

theorem strField_of_same {a b : Json} {key text : String} (h : Json.same a b = true)
    (hget : strField a key = some text) : strField b key = some text := by
  rw [strField_eq_some] at hget ⊢
  cases a with
  | obj as =>
    cases b with
    | obj bs => exact find_of_sameFields (by simpa [Json.same] using h) hget
    | _ => simp [Json.same] at h
  | _ => simp [Json.get] at hget

theorem strField_without {value value' : Json} {key key' : String} (hne : key' ≠ key)
    (h : value.without key = some value') : strField value' key' = strField value key' := by
  cases value with
  | obj fields =>
    obtain rfl := Option.some.inj h
    have hfind : (fields.filter fun field => field.1 != key).find? (fun field => field.1 == key') =
        fields.find? fun field => field.1 == key' := by
      rw [List.find?_filter]
      congr 1
      funext field
      by_cases hmatch : field.1 = key'
      · simp [hmatch, hne]
      · simp [hmatch]
    simp only [strField, Json.get, hfind]
  | arr items =>
    obtain rfl := Option.some.inj h
    rfl
  | _ => cases h

/-! ## Transitions -/

section Transition

variable {env : RegistryEnv}

theorem registryBinding_eq_ok {value : Jsonb} {binding : RegistryBinding}
    (h : registryBinding env value = .ok binding) :
    loadRegistry env value.value = .ok binding.registry ∧
      env.dumps value = some binding.canonicalJson := by
  simp only [registryBinding, bind_eq_ok, mapError_eq_ok, demand_eq_ok] at h
  obtain ⟨registry, hregistry, text, htext, hret⟩ := h
  cases hret
  exact ⟨hregistry, htext⟩

/-- What is kept of an activated issuer. -/
theorem checkKept_eq_ok {candidates : List Json} {old : Json}
    (h : checkKept env candidates old = .ok ()) : ∃ new ∈ candidates, ∃ issuer issuer',
      parseIssuer env old = some issuer ∧ parseIssuer env new = some issuer' ∧
      rawIdentity new = rawIdentity old ∧
      (∀ key text, key ≠ "revoked_at" → strField old key = some text →
        strField new key = some text) ∧
      revocationDelayed issuer.revokedAt issuer'.revokedAt = false := by
  simp only [checkKept, bind_eq_ok, demand_eq_ok, require_eq_ok, Bool.not_eq_true'] at h
  obtain ⟨new, hfind, _, hsame, issuer, hissuer, issuer', hissuer', hrevoked⟩ := h
  have hidentity := List.find?_some hfind
  rw [decide_eq_true_eq] at hidentity
  refine ⟨new, List.mem_reverse.mp (List.mem_of_find?_eq_some hfind), issuer, issuer', hissuer,
    hissuer', hidentity, ?_, hrevoked⟩
  intro key text hkey hold
  split at hsame
  · rename_i a b ha hb
    rw [← strField_without hkey hb]
    apply strField_of_same hsame
    rw [strField_without hkey ha]
    exact hold
  · cases hsame

theorem parsed_of_mem {raw : List Json} {issuers : List TrustedIssuer}
    (h : raw.mapM (parseIssuer env) = some issuers) {value : Json} (hvalue : value ∈ raw)
    {issuer : TrustedIssuer} (hissuer : parseIssuer env value = some issuer) : issuer ∈ issuers := by
  obtain ⟨issuer', hmem, hparse⟩ := exists_of_mapM h hvalue
  rw [hissuer] at hparse
  obtain rfl := Option.some.inj hparse
  exact hmem

/-- A candidate binds no key of an activated issuer to another identity. -/
theorem identity_of_notRebound {previous : List Json} {registry : TrustRegistry} {value : Json}
    (hprevious : ParsedRegistry env value registry)
    (hraw : previous.mapM (parseIssuer env) = some registry.issuers) {candidate : Json}
    {issuer issuer' : TrustedIssuer} (hissuer : issuer ∈ registry.issuers)
    (hcandidate : ParsedIssuer env candidate issuer') (h : checkNotRebound previous candidate = .ok ())
    (hsame : publicKeyBytes issuer' = publicKeyBytes issuer) : issuer'.identity = issuer.identity := by
  obtain ⟨keys, hkeys, hnodup⟩ := hprevious.keys
  obtain ⟨bytes, -, hbytes⟩ := collect_mem hkeys hissuer
  obtain ⟨old, hold, hparsed⟩ := exists_of_mem_mapM hraw hissuer
  have hissuerKey := rawKey_of_publicKeyBytes (parsedIssuer hparsed) hbytes
  have hcandidateKey := rawKey_of_publicKeyBytes hcandidate (hsame.trans hbytes)
  simp only [checkNotRebound, bind_eq_ok] at h
  obtain ⟨key, hkey, identities, hidentities, h⟩ := h
  obtain rfl : bytes = key := Except.ok.inj (hcandidateKey.symm.trans hkey)
  -- the activated issuer with the key is in the dictionary
  obtain ⟨entry, hentry, hentryOk⟩ := collect_mem hidentities hold
  simp only [bind_eq_ok, hissuerKey, Except.ok.injEq] at hentryOk
  obtain ⟨_, rfl, hret⟩ := hentryOk
  cases hret
  split at h
  · rename_i hnone
    exact absurd (decide_eq_true rfl) (List.find?_eq_none.mp hnone _ (List.mem_reverse.mpr hentry))
  · rename_i found hfound
    have hfoundKey := List.find?_some hfound
    rw [decide_eq_true_eq] at hfoundKey
    have hmem := List.mem_reverse.mp (List.mem_of_find?_eq_some hfound)
    -- it is the only one: the keys of a registry are not repeated
    obtain ⟨old₂, hold₂, hfoundOk⟩ := mem_of_collect hidentities hmem
    simp only [bind_eq_ok] at hfoundOk
    obtain ⟨key₂, hkey₂, hret⟩ := hfoundOk
    cases hret
    obtain ⟨issuer₂, hissuer₂, hparsed₂⟩ := exists_of_mapM hraw hold₂
    obtain ⟨bytes₂, -, hbytes₂⟩ := collect_mem hkeys hissuer₂
    have hkey₂' := rawKey_of_publicKeyBytes (parsedIssuer hparsed₂) hbytes₂
    obtain rfl : bytes₂ = key₂ := Except.ok.inj (hkey₂'.symm.trans hkey₂)
    have hone : issuer₂ = issuer :=
      eq_of_collect_nodup hkeys hnodup hissuer₂ hissuer
        (hbytes₂.trans (by rw [hbytes]; exact congrArg Except.ok hfoundKey))
    rw [require_eq_ok, decide_eq_true_eq, hcandidate.rawIdentity_eq,
      (parsedIssuer hparsed₂).rawIdentity_eq, Option.some.injEq, hone] at h
    exact h.symm

/-- An accepted transition. -/
theorem supersedes_of_transition {previous candidate : Jsonb} {advanced : Bool}
    (h : validateMonotonicRegistryTransition env previous candidate = .ok advanced)
    {earlier later : TrustRegistry} (hearlier : loadRegistry env previous.value = .ok earlier)
    (hlater : loadRegistry env candidate.value = .ok later) : Supersedes earlier later := by
  have hold := parsedRegistry hearlier
  have hnew := parsedRegistry hlater
  rw [validateMonotonicRegistryTransition, bind_eq_ok] at h
  obtain ⟨binding, hbinding, h⟩ := h
  rw [bind_eq_ok] at h
  obtain ⟨binding', hbinding', h⟩ := h
  have htext := (registryBinding_eq_ok hbinding).2
  have htext' := (registryBinding_eq_ok hbinding').2
  split at h
  · -- the same text is the same document
    rename_i hsame
    rw [← hsame] at htext'
    have hdocument : previous = candidate := Option.some.inj
      ((env.loads_dumps _ _ htext).symm.trans (env.loads_dumps _ _ htext'))
    subst hdocument
    obtain rfl := Except.ok.inj (hearlier.symm.trans hlater)
    exact hold.supersedes_self
  obtain ⟨oldRaw, holdRaw, holdIssuers⟩ := hold.issuers
  obtain ⟨newRaw, hnewRaw, hnewIssuers⟩ := hnew.issuers
  simp only [bind_eq_ok, demand_eq_ok, forEach_eq_ok, List.forall_mem_cons, require_eq_ok,
    List.all_eq_true, List.contains_iff_mem] at h
  obtain ⟨_, hraw, _, hraw', _, hrebound, _, hkept, _, ⟨hstatements, hsystems, -⟩, -⟩ := h
  obtain rfl := Option.some.inj (holdRaw.symm.trans hraw)
  obtain rfl := Option.some.inj (hnewRaw.symm.trans hraw')
  refine ⟨?_, ?_, ?_, ?_⟩
  · intro issuer hissuer
    obtain ⟨old, holdMem, hparsed⟩ := exists_of_mem_mapM holdIssuers hissuer
    obtain ⟨new, hnewMem, issuer₀, issuer', hparsed₀, hparsed', hidentity, hfields, hrevoked⟩ :=
      checkKept_eq_ok (hkept old holdMem)
    obtain rfl := Option.some.inj (hparsed.symm.trans hparsed₀)
    have ho := parsedIssuer hparsed
    have hn := parsedIssuer hparsed'
    refine ⟨issuer', parsed_of_mem hnewIssuers hnewMem hparsed', ?_, ?_, ?_, ?_, hrevoked⟩
    · rw [ho.rawIdentity_eq, hn.rawIdentity_eq] at hidentity
      exact Option.some.inj hidentity
    · have := hfields _ _ (by decide) ho.publicKey
      rw [hn.publicKey] at this
      exact Option.some.inj this
    · obtain ⟨text, htext, hinstant⟩ := Option.bind_eq_some_iff.mp ho.notBefore
      have hbefore := hn.notBefore
      rw [hfields _ _ (by decide) htext, Option.bind_some, hinstant] at hbefore
      exact (Option.some.inj hbefore).symm
    · obtain ⟨text, htext, hinstant⟩ := Option.bind_eq_some_iff.mp ho.notAfter
      have hafter := hn.notAfter
      rw [hfields _ _ (by decide) htext, Option.bind_some, hinstant] at hafter
      exact (Option.some.inj hafter).symm
  · intro issuer hissuer issuer' hissuer' hsame
    obtain ⟨candidate', hmem, hparsed⟩ := exists_of_mem_mapM hnewIssuers hissuer'
    exact identity_of_notRebound hold holdIssuers hissuer (parsedIssuer hparsed)
      (hrebound candidate' hmem) hsame
  · obtain ⟨old, holdItems, new, hnewItems, hsubset⟩ := hstatements
    obtain rfl := Option.some.inj (hold.statements.symm.trans holdItems)
    obtain rfl := Option.some.inj (hnew.statements.symm.trans hnewItems)
    exact hsubset
  · obtain ⟨old, holdItems, new, hnewItems, hsubset⟩ := hsystems
    obtain rfl := Option.some.inj (hold.systems.symm.trans holdItems)
    obtain rfl := Option.some.inj (hnew.systems.symm.trans hnewItems)
    exact hsubset

end Transition

/-! ## Activations -/

section Activation

variable {env : RegistryEnv}

/-- Everything a successful activation can do: replay the activated registry or advance it. -/
theorem activateRegistry_cases {state next : RegistryState} {call : ActivateCall} {epoch : Nat}
    {changed : Bool} (h : activateRegistry env state call = .ok (next, epoch, changed)) :
    ∃ binding, registryBinding env call.registry = .ok binding ∧
      checkPrevious env state call.registry = .ok () ∧
      next.registryCanonicalJson = some binding.canonicalJson ∧ next.transitionEpoch = epoch ∧
      (changed = false ∧ epoch = state.transitionEpoch ∨
        changed = true ∧ epoch = state.transitionEpoch + 1) := by
  simp only [activateRegistry, bind_eq_ok, mapError_eq_ok, demand_eq_ok, require_eq_ok] at h
  obtain ⟨_, -, binding, hbinding, _, hprevious, argument, -, ⟨next', epoch', changed'⟩, hinstall, _,
    -, asserted, hassert, _, hsame, hret⟩ := h
  cases hret
  simp only [assertRegistry, bind_eq_ok, require_eq_ok, Bool.and_eq_true, decide_eq_true_eq] at hassert
  obtain ⟨_, -, _, ⟨-, htext⟩, hepoch⟩ := hassert
  have hnext : next'.transitionEpoch = epoch' := (Except.ok.inj hepoch).trans (of_decide_eq_true hsame)
  refine ⟨binding, hbinding, hprevious, htext, hnext, ?_⟩
  obtain ⟨candidates, -, hcases⟩ := installRegistry_cases hinstall
  rcases hcases with ⟨-, -, hchanged, hepoch, -⟩ | ⟨-, -, -, hchanged, hepoch, -⟩ |
    ⟨-, -, hchanged, hepoch, -⟩
  · exact .inr ⟨hchanged, hepoch⟩
  · exact .inl ⟨hchanged, hepoch⟩
  · exact .inr ⟨hchanged, hepoch⟩

/-- The row has the canonical text of a document of the registry. -/
def Holds (env : RegistryEnv) (state : RegistryState) (registry : TrustRegistry) : Prop :=
  ∃ document text, state.registryCanonicalJson = some text ∧ env.dumps document = some text ∧
    loadRegistry env document.value = .ok registry

/-- An activation leaves its own registry, which supersedes the one before. -/
theorem holds_of_activated {state next : RegistryState} {call : ActivateCall} {epoch : Nat}
    {changed : Bool} (h : activateRegistry env state call = .ok (next, epoch, changed)) :
    ∃ later, loadRegistry env call.registry.value = .ok later ∧ Holds env next later ∧
      ∀ earlier, Holds env state earlier → Supersedes earlier later := by
  obtain ⟨binding, hbinding, hprevious, htext, -⟩ := activateRegistry_cases h
  obtain ⟨hload, hdumps⟩ := registryBinding_eq_ok hbinding
  refine ⟨binding.registry, hload, ⟨call.registry, _, htext, hdumps, hload⟩, ?_⟩
  intro earlier hearlier
  obtain ⟨document, text, hstored, hdocument, hearlierLoad⟩ := hearlier
  simp only [checkPrevious, hstored, bind_eq_ok] at hprevious
  obtain ⟨previous, hparse, advanced, htransition, -⟩ := hprevious
  simp only [parseRegistryJson, bind_eq_ok, demand_eq_ok, require_eq_ok] at hparse
  obtain ⟨_, -, previous', hloads, _, -, hret⟩ := hparse
  cases hret
  -- the row has the text of the document itself, and the decoder gives the document back
  have hsame : document = previous :=
    Option.some.inj ((env.loads_dumps _ _ hdocument).symm.trans hloads)
  subst hsame
  exact supersedes_of_transition htransition hearlierLoad hload

/-- The row has reached an epoch and holds a registry that supersedes a given one. -/
def HoldsSince (env : RegistryEnv) (epoch : Nat) (registry : TrustRegistry)
    (state : RegistryState) : Prop :=
  epoch ≤ state.transitionEpoch ∧ ∃ later, Holds env state later ∧ Supersedes registry later

theorem activateStep_holdsSince {call : ActivateCall} {state : RegistryState} {epoch : Nat}
    {registry : TrustRegistry} (h : HoldsSince env epoch registry state) :
    HoldsSince env epoch registry (activateStep env call state) := by
  obtain ⟨hepoch, mid, hmid, hsupersedes⟩ := h
  unfold activateStep
  split
  · rename_i next epoch' changed hcall
    obtain ⟨later, -, hlater, hsince⟩ := holds_of_activated hcall
    obtain ⟨_, -, -, -, hnext, hcases⟩ := activateRegistry_cases hcall
    refine ⟨?_, later, hlater, hsupersedes.trans (hsince mid hmid)⟩
    omega
  · exact ⟨hepoch, mid, hmid, hsupersedes⟩

/-- The call at a position of a run succeeds for a registry. -/
structure Activated (env : RegistryEnv) (calls : List ActivateCall) (i epoch : Nat) (changed : Bool)
    (document : Jsonb) (registry : TrustRegistry) : Prop where
  loaded : loadRegistry env document.value = .ok registry
  succeeded : ∃ call next, calls[i]? = some call ∧ call.registry = document ∧
    activateRegistry env (stateAt (activateStep env) .initial calls i) call =
      .ok (next, epoch, changed)

/-- From an activation on, the row holds a registry that supersedes the activated one. -/
theorem Activated.holdsSince {calls : List ActivateCall} {i epoch : Nat} {changed : Bool}
    {document : Jsonb} {registry : TrustRegistry}
    (h : Activated env calls i epoch changed document registry) {j : Nat} (hij : i < j) :
    HoldsSince env epoch registry (stateAt (activateStep env) .initial calls j) := by
  obtain ⟨call, next, hcall, rfl, hok⟩ := h.succeeded
  apply stateAt_invariant_from hij
  · obtain ⟨later, hlater, hholds, -⟩ := holds_of_activated hok
    obtain rfl := Except.ok.inj (h.loaded.symm.trans hlater)
    obtain ⟨_, -, -, -, hepoch, -⟩ := activateRegistry_cases hok
    have hstep : activateStep env call (stateAt (activateStep env) .initial calls i) = next := by
      rw [activateStep, hok]
    rw [stateAt_succ hcall, hstep]
    exact ⟨Nat.le_of_eq hepoch.symm, registry, hholds, (parsedRegistry h.loaded).supersedes_self⟩
  · intro k call' _ hk
    exact activateStep_holdsSince hk

/-- Of two activations of a run the later one has the larger epoch, unless it is a replay, and
    its registry supersedes the earlier one. -/
theorem Activated.superseded {calls : List ActivateCall} {i j epoch epoch' : Nat}
    {changed changed' : Bool} {document document' : Jsonb} {registry registry' : TrustRegistry}
    (h : Activated env calls i epoch changed document registry)
    (h' : Activated env calls j epoch' changed' document' registry') (hij : i < j) :
    epoch ≤ epoch' ∧ (changed' = true → epoch < epoch') ∧ Supersedes registry registry' := by
  obtain ⟨hepoch, mid, hmid, hsupersedes⟩ := h.holdsSince hij
  obtain ⟨call, next, hcall, rfl, hok⟩ := h'.succeeded
  obtain ⟨later, hlater, -, hsince⟩ := holds_of_activated hok
  obtain rfl := Except.ok.inj (h'.loaded.symm.trans hlater)
  obtain ⟨_, -, -, -, -, hcases⟩ := activateRegistry_cases hok
  refine ⟨by omega, ?_, hsupersedes.trans (hsince mid hmid)⟩
  intro hchanged
  rcases hcases with ⟨hreplay, -⟩ | ⟨-, hadvance⟩
  · rw [hreplay] at hchanged
    cases hchanged
  · omega

end Activation

end Custombuild.Retention
