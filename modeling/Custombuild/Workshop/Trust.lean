/-
  Trust in an accepted chain: a chain that is accepted under more revocations is accepted under
  fewer, an attestation belongs to one run, one stage, one nonce and one past, and the signers
  are different people with different keys.
-/
import Custombuild.Workshop.Separation
import Mathlib.Data.List.Pairwise

namespace Custombuild.Workshop

open Custombuild.Lib

/-! ## Revocation -/

/-- The same issuer, revoked no later. -/
def RevokedSooner (issuer issuer' : TrustedWorkshopIssuer) : Prop :=
  issuer' = { issuer with revokedAt := issuer'.revokedAt } ∧
    ∀ t, issuer.revokedAt = some t → ∃ t', issuer'.revokedAt = some t' ∧ t' ≤ t

/-- The second registry revokes what the first does and perhaps more. -/
structure RevokesMore (registry registry' : WorkshopTrustRegistry) : Prop where
  issuers : List.Forall₂ RevokedSooner registry.issuers registry'.issuers
  statements : registry.revokedStatementSha256 ⊆ registry'.revokedStatementSha256
  runs : registry.revokedRunSha256 ⊆ registry'.revokedRunSha256
  records : registry.revokedEvidenceSha256 ⊆ registry'.revokedEvidenceSha256
  claims : registry.revokedEvidenceClaimSha256 ⊆ registry'.revokedEvidenceClaimSha256
  attachments :
    registry.revokedEvidenceAttachmentSha256 ⊆ registry'.revokedEvidenceAttachmentSha256

theorem not_contains_of_subset {l l' : List Sha256} (hsub : l ⊆ l') {digest : Sha256}
    (h : (!l'.contains digest) = true) : (!l.contains digest) = true := by
  simp only [Bool.not_eq_true', List.contains_eq_mem, decide_eq_false_iff_not] at h ⊢
  exact fun hmem => h (hsub hmem)

theorem find_forall₂ {l l' : List TrustedWorkshopIssuer} {p : TrustedWorkshopIssuer → Bool}
    {issuer' : TrustedWorkshopIssuer} (h : List.Forall₂ RevokedSooner l l')
    (hp : ∀ a a', RevokedSooner a a' → p a = p a') (hfind : l'.find? p = some issuer') :
    ∃ issuer, l.find? p = some issuer ∧ RevokedSooner issuer issuer' := by
  induction h with
  | nil => cases hfind
  | @cons a a' l l' ha hrest ih =>
    rw [List.find?_cons] at hfind ⊢
    rw [hp a a' ha]
    cases hpa : p a' with
    | true =>
      rw [hpa] at hfind
      cases hfind
      exact ⟨a, rfl, ha⟩
    | false =>
      rw [hpa] at hfind
      exact ih hfind

section Monotone

variable {Bytes : Type} [DecidableEq Bytes] {lib : Platform Bytes}
  {registry registry' : WorkshopTrustRegistry} {request : ChainRequest Bytes}

theorem findIssuer_mono (hmore : RevokesMore registry registry') {identity : SignerIdentity}
    {role : SignerRole} {organization : Token} {stage : WorkshopStage} {issuedAt : Timestamp}
    {now : Int} {issuer' : TrustedWorkshopIssuer}
    (h : findIssuer registry' identity role organization stage issuedAt now = .ok issuer') :
    ∃ issuer, findIssuer registry identity role organization stage issuedAt now = .ok issuer ∧
      issuer.publicKeyBase64 = issuer'.publicKeyBase64 := by
  simp only [findIssuer, bind_eq_ok, demand_eq_ok, require_eq_ok] at h
  obtain ⟨found', hfind, ⟨⟩, hrole, ⟨⟩, horganization, ⟨⟩, hstage, ⟨⟩, hrevoked, ⟨⟩, hissued, ⟨⟩,
    hnow, heq⟩ := h
  cases heq
  obtain ⟨issuer, hissuer, hsame, hsooner⟩ := find_forall₂ hmore.issuers
    (fun a a' ha => by rw [ha.1]) hfind
  have hstill : (!issuer.revokedAt.any fun revokedAt => decide (revokedAt.us ≤ now)) = true := by
    cases hat : issuer.revokedAt with
    | none => rfl
    | some t =>
      obtain ⟨t', ht', hle⟩ := hsooner t hat
      have hlater : now < t'.us := by simpa [ht'] using hrevoked
      have hus : t'.us ≤ t.us := Int.mul_le_mul_of_nonneg_right hle (by decide)
      simpa using lt_of_lt_of_le hlater hus
  rw [hsame] at hrole horganization hstage hissued hnow ⊢
  refine ⟨issuer, ?_, rfl⟩
  simp only [findIssuer, bind_eq_ok, demand_eq_ok, require_eq_ok]
  exact ⟨issuer, hissuer, (), hrole, (), horganization, (), hstage, (), hstill, (), hissued, (), hnow,
    rfl⟩

omit [DecidableEq Bytes] in
theorem verifySignature_congr {issuer issuer' : TrustedWorkshopIssuer} {signature label : String}
    {bytes : Bytes} (h : issuer.publicKeyBase64 = issuer'.publicKeyBase64) :
    verifySignature lib issuer signature bytes label =
      verifySignature lib issuer' signature bytes label := by
  unfold verifySignature
  rw [h]

omit [DecidableEq Bytes] in
theorem verifyAirCutSupervisor_mono (hmore : RevokesMore registry registry')
    {statement : WorkshopAttestationStatement} {now : Int}
    (h : verifyAirCutSupervisor lib registry' statement now = .ok ()) :
    verifyAirCutSupervisor lib registry statement now = .ok () := by
  unfold verifyAirCutSupervisor at h ⊢
  split at h
  · simp only [bind_eq_ok] at h ⊢
    obtain ⟨supervisor, hsupervisor, signature, hsignature, issuer', hissuer, runSha256, hrun, claim,
      hclaim, hverified⟩ := h
    obtain ⟨issuer, hfound, hkey⟩ := findIssuer_mono hmore hissuer
    refine ⟨supervisor, hsupervisor, signature, hsignature, issuer, hfound, runSha256, hrun, claim,
      hclaim, ?_⟩
    rw [verifySignature_congr hkey]
    exact hverified
  · rfl

omit [DecidableEq Bytes] in
theorem checkSigners_mono (hmore : RevokesMore registry registry')
    {attestation : SignedWorkshopAttestation} {statementRaw : Json} {digest : Sha256}
    (h : checkSigners lib registry' request attestation statementRaw = .ok digest) :
    checkSigners lib registry request attestation statementRaw = .ok digest := by
  simp only [checkSigners, bind_eq_ok, require_eq_ok] at h ⊢
  obtain ⟨bytes, hbytes, ⟨⟩, hrevoked, maker', hmaker, checker', hchecker, ⟨⟩, hmakerSigned, ⟨⟩,
    hcheckerSigned, ⟨⟩, hsupervisor, heq⟩ := h
  obtain ⟨maker, hmakerFound, hmakerKey⟩ := findIssuer_mono hmore hmaker
  obtain ⟨checker, hcheckerFound, hcheckerKey⟩ := findIssuer_mono hmore hchecker
  rw [← verifySignature_congr hmakerKey] at hmakerSigned
  rw [← verifySignature_congr hcheckerKey] at hcheckerSigned
  exact ⟨bytes, hbytes, (), not_contains_of_subset hmore.statements hrevoked, maker, hmakerFound,
    checker, hcheckerFound, (), hmakerSigned, (), hcheckerSigned, (),
    verifyAirCutSupervisor_mono hmore hsupervisor, heq⟩

omit [DecidableEq Bytes] in
theorem checkDeclared_mono (hmore : RevokesMore registry registry') {remaining declared : Nat}
    {attachments : List EvidenceAttachment}
    (h : checkDeclared registry' remaining declared attachments = .ok ()) :
    checkDeclared registry remaining declared attachments = .ok () := by
  simp only [checkDeclared, bind_eq_ok, forEach_eq_ok, require_eq_ok] at h ⊢
  obtain ⟨⟨⟩, hattachments, htotal⟩ := h
  refine ⟨(), fun attachment hattachment => ?_, htotal⟩
  obtain ⟨⟨⟩, hrevoked, hsize⟩ := hattachments attachment hattachment
  exact ⟨(), not_contains_of_subset hmore.attachments hrevoked, hsize⟩

theorem verifyEvidenceObject_mono (hmore : RevokesMore registry registry')
    {store : EvidenceStore Bytes} {label : String} {reference : EvidenceReference}
    {state state' : EvidenceState}
    (h : verifyEvidenceObject lib registry' store label reference state = .ok state') :
    verifyEvidenceObject lib registry store label reference state = .ok state' := by
  unfold verifyEvidenceObject at h ⊢
  by_cases hstatus : reference.status ≠ .verified
  · rw [if_pos hstatus] at h ⊢
    exact h
  · rw [if_neg hstatus] at h ⊢
    simp only [bind_eq_ok, demand_eq_ok, require_eq_ok] at h ⊢
    obtain ⟨identity, hidentity, ⟨⟩, hrecord, ⟨⟩, hclaim, loaded, hloaded, taken, htaken, h⟩ := h
    refine ⟨identity, hidentity, (), not_contains_of_subset hmore.records hrecord, (),
      not_contains_of_subset hmore.claims hclaim, loaded, hloaded, taken, htaken, ?_⟩
    by_cases hseen : taken.verifiedKeys.contains identity.key = true
    · rw [if_pos hseen] at h ⊢
      exact h
    · rw [if_neg hseen] at h ⊢
      simp only [bind_eq_ok] at h ⊢
      obtain ⟨⟨⟩, hdeclared, attached, hattached, heq⟩ := h
      exact ⟨(), checkDeclared_mono hmore hdeclared, attached, hattached, heq⟩

theorem verifyReference_mono (hmore : RevokesMore registry registry')
    {store : EvidenceStore Bytes} {state state' : EvidenceState} {entry : String × EvidenceReference}
    (h : verifyReference lib registry' store state entry = .ok state') :
    verifyReference lib registry store state entry = .ok state' := by
  simp only [verifyReference, bind_eq_ok] at h ⊢
  obtain ⟨next, hnext, hrest⟩ := h
  exact ⟨next, verifyEvidenceObject_mono hmore hnext, hrest⟩

theorem verifyStage_mono (hmore : RevokesMore registry registry')
    {nonces : Dict WorkshopStage String} {state after : ChainState} {item : WorkshopStage × Bytes}
    (h : verifyStage lib registry' request nonces state item = .ok after) :
    verifyStage lib registry request nonces state item = .ok after := by
  simp only [verifyStage, bind_eq_ok] at h ⊢
  obtain ⟨loaded, hloaded, ⟨⟩, hchecked, digest, hsigned, ⟨⟩, hbound, evidence, hevidence, hrest⟩ := h
  refine ⟨loaded, hloaded, (), hchecked, digest, checkSigners_mono hmore hsigned, (), hbound,
    evidence, ?_, hrest⟩
  exact foldlM_mono (fun _ _ _ hturn => verifyReference_mono hmore hturn) hevidence

/-- What is accepted under more revocations is accepted under fewer, with the same result. -/
theorem accepted_of_revokesMore (hmore : RevokesMore registry registry')
    (hvalid : loadRegistry registry = .ok registry) {result : VerifiedWorkshopChain}
    (h : verifyWorkshopAttestationChain lib registry' request = .ok result) :
    verifyWorkshopAttestationChain lib registry request = .ok result := by
  simp only [verifyWorkshopAttestationChain, bind_eq_ok, require_eq_ok] at h ⊢
  obtain ⟨loaded, hloaded, ⟨⟩, hrequest, nonces, hnonces, ⟨⟩, hchain, runDigest, hrun, ⟨⟩, hrevoked,
    final, hstages, heq⟩ := h
  obtain rfl := loadRegistry_eq hloaded
  refine ⟨registry, hvalid, (), hrequest, nonces, hnonces, (), hchain, runDigest, hrun, (),
    not_contains_of_subset hmore.runs hrevoked, final, ?_, heq⟩
  exact foldlM_mono (fun _ _ _ hturn => verifyStage_mono hmore hturn) hstages

end Monotone

/-! ## Splicing -/

section Splice

variable {Bytes : Type} [DecidableEq Bytes] {lib : Platform Bytes}
  {registry : WorkshopTrustRegistry} {request : ChainRequest Bytes} {result : VerifiedWorkshopChain}

/-- What an attestation at a position of an accepted chain is bound to. -/
structure BoundAt (lib : Platform Bytes) (request : ChainRequest Bytes)
    (nonces : Dict WorkshopStage String) (position : Nat) (stage : WorkshopStage)
    (statement : WorkshopAttestationStatement) : Prop where
  ordered : stageOrder[position]? = some stage
  staged : statement.stage = stage
  run : statement.run = request.expectedRun
  nonce : nonces.get stage = some statement.serverNonce
  first : position = 0 → statement.previousAttestationSha256 = none
  later : ∀ k, position = k + 1 → statement.previousAttestationSha256 =
    request.attestationBytes[k]?.map lib.sha256

/-- Every attestation of an accepted chain is bound to its position. -/
theorem boundAt_of_accepted (h : verifyWorkshopAttestationChain lib registry request = .ok result) :
    ∃ nonces, expectedNonces request.expectedServerNonces = .ok nonces ∧
      ∀ position bytes, request.attestationBytes[position]? = some bytes →
        ∃ stage attestation statementRaw, loadAttestation lib bytes = .ok (attestation, statementRaw) ∧
          BoundAt lib request nonces position stage attestation.statement := by
  obtain ⟨nonces, b₁, b₂, b₃, s₁, s₂, s₃, hchain⟩ := acceptedChain_of_ok h
  refine ⟨nonces, hchain.fresh, fun position bytes hbytes => ?_⟩
  obtain ⟨first, firstRaw, hfirst⟩ := passedStage_of_ok hchain.preCut
  obtain ⟨second, secondRaw, hsecond⟩ := passedStage_of_ok hchain.referencePart
  obtain ⟨third, thirdRaw, hthird⟩ := passedStage_of_ok hchain.finalWorkshop
  rw [hchain.chain] at hbytes
  match position, hbytes with
  | 0, hbytes =>
    cases hbytes
    have hbound := boundStatement_of_ok hfirst.checked
    exact ⟨_, first, firstRaw, hfirst.loaded, rfl, hbound.staged, hbound.run, hbound.nonce,
      fun _ => hbound.previous, fun k hk => absurd hk (Nat.succ_ne_zero k).symm⟩
  | 1, hbytes =>
    cases hbytes
    have hbound := boundStatement_of_ok hsecond.checked
    refine ⟨_, second, secondRaw, hsecond.loaded, rfl, hbound.staged, hbound.run, hbound.nonce,
      fun h0 => absurd h0 (by decide), fun k hk => ?_⟩
    cases hk
    rw [hbound.previous, hfirst.previous, hchain.chain]
    rfl
  | 2, hbytes =>
    cases hbytes
    have hbound := boundStatement_of_ok hthird.checked
    refine ⟨_, third, thirdRaw, hthird.loaded, rfl, hbound.staged, hbound.run, hbound.nonce,
      fun h0 => absurd h0 (by decide), fun k hk => ?_⟩
    cases hk
    rw [hbound.previous, hsecond.previous, hchain.chain]
    rfl

section Pair

variable {registry' : WorkshopTrustRegistry} {request' : ChainRequest Bytes}
  {nonces nonces' : Dict WorkshopStage String} {position position' : Nat}
  {stage stage' : WorkshopStage} {statement : WorkshopAttestationStatement}

/-- A stage has one position. -/
theorem position_of_stage (h : stageOrder[position]? = some stage)
    (h' : stageOrder[position']? = some stage) : position = position' := by
  have hnodup : stageOrder.Nodup := by decide
  obtain ⟨hlt, -⟩ := List.getElem?_eq_some_iff.mp h
  exact (List.getElem?_inj hlt hnodup).mp (h.trans h'.symm)

omit [DecidableEq Bytes] in
theorem position_eq_of_bound (h : BoundAt lib request nonces position stage statement)
    (h' : BoundAt lib request' nonces' position' stage' statement) : position = position' := by
  have hstage : stage = stage' := by rw [← h.staged, ← h'.staged]
  exact position_of_stage h.ordered (by rw [hstage]; exact h'.ordered)

/-- Two accepted chains that share an attestation at a position share what is before it. -/
theorem earlier_eq (hsha : Function.Injective lib.sha256)
    (hbound : ∀ position bytes, request.attestationBytes[position]? = some bytes →
      ∃ stage attestation statementRaw, loadAttestation lib bytes = .ok (attestation, statementRaw) ∧
        BoundAt lib request nonces position stage attestation.statement)
    (hbound' : ∀ position bytes, request'.attestationBytes[position]? = some bytes →
      ∃ stage attestation statementRaw, loadAttestation lib bytes = .ok (attestation, statementRaw) ∧
        BoundAt lib request' nonces' position stage attestation.statement)
    {bytes : Bytes} (h : request.attestationBytes[position]? = some bytes)
    (h' : request'.attestationBytes[position]? = some bytes) :
    ∀ k < position, request.attestationBytes[k]? = request'.attestationBytes[k]? := by
  induction position generalizing bytes with
  | zero => exact fun k hk => absurd hk (Nat.not_lt_zero k)
  | succ position ih =>
    intro k hk
    obtain ⟨_, attestation, _, hloaded, hat⟩ := hbound _ _ h
    obtain ⟨_, attestation', _, hloaded', hat'⟩ := hbound' _ _ h'
    rw [hloaded] at hloaded'
    cases hloaded'
    have hlt : position < request.attestationBytes.length := by
      have := (List.getElem?_eq_some_iff.mp h).1
      omega
    have hprevious := List.getElem?_eq_getElem hlt
    have hdigest := hat.later position rfl
    rw [hat'.later position rfl, hprevious, Option.map_some, Option.map_eq_some_iff] at hdigest
    obtain ⟨previous', hprevious', hsame⟩ := hdigest
    rw [hsha hsame] at hprevious'
    rcases Nat.lt_succ_iff_lt_or_eq.mp hk with hlt | rfl
    · exact ih hprevious hprevious' k hlt
    · rw [hprevious, hprevious']

/-- An attestation of two accepted chains has one run, one position, one nonce and one past. -/
theorem not_spliced (hsha : Function.Injective lib.sha256) {result' : VerifiedWorkshopChain}
    (h : verifyWorkshopAttestationChain lib registry request = .ok result)
    (h' : verifyWorkshopAttestationChain lib registry' request' = .ok result') {bytes : Bytes}
    (hbytes : request.attestationBytes[position]? = some bytes)
    (hbytes' : request'.attestationBytes[position']? = some bytes) :
    request.expectedRun = request'.expectedRun ∧ position = position' ∧
      (∃ nonces nonces' stage nonce, expectedNonces request.expectedServerNonces = .ok nonces ∧
        expectedNonces request'.expectedServerNonces = .ok nonces' ∧
        stageOrder[position]? = some stage ∧ nonces.get stage = some nonce ∧
        nonces'.get stage = some nonce) ∧
      ∀ k < position, request.attestationBytes[k]? = request'.attestationBytes[k]? := by
  obtain ⟨nonces, hnonces, hbound⟩ := boundAt_of_accepted h
  obtain ⟨nonces', hnonces', hbound'⟩ := boundAt_of_accepted h'
  obtain ⟨stage, attestation, statementRaw, hloaded, hat⟩ := hbound _ _ hbytes
  obtain ⟨stage', attestation', statementRaw', hloaded', hat'⟩ := hbound' _ _ hbytes'
  rw [hloaded] at hloaded'
  cases hloaded'
  obtain rfl := position_eq_of_bound hat hat'
  have hstage : stage' = stage := by rw [← hat.staged, ← hat'.staged]
  refine ⟨by rw [← hat.run, ← hat'.run], rfl, ⟨nonces, nonces', stage, _, hnonces, hnonces',
    hat.ordered, hat.nonce, ?_⟩, earlier_eq hsha hbound hbound' hbytes hbytes'⟩
  rw [← hstage]
  exact hat'.nonce

end Pair

end Splice

/-! ## Signers -/

/-- The public key of an issuer. -/
def TrustedWorkshopIssuer.publicKey (issuer : TrustedWorkshopIssuer) : Option (List UInt8) :=
  b64decode issuer.publicKeyBase64.toList

/-- The issuer that the registry has for an identity. -/
def issuerOf (registry : WorkshopTrustRegistry) (identity : SignerIdentity) :
    Option TrustedWorkshopIssuer :=
  registry.issuers.find? fun candidate =>
    candidate.principalId == identity.principalId && candidate.keyId == identity.keyId

/-- Two signers are different people with different keys. -/
def DistinctSigners (registry : WorkshopTrustRegistry) (a b : SignerIdentity) : Prop :=
  a.principalId ≠ b.principalId ∧ ∃ key key', (issuerOf registry a).bind (·.publicKey) = some key ∧
    (issuerOf registry b).bind (·.publicKey) = some key' ∧ key ≠ key'

section Registry

variable {registry : WorkshopTrustRegistry} {seen seen' : SeenIssuers}
  {issuer : TrustedWorkshopIssuer} {issuers : List TrustedWorkshopIssuer}

theorem checkIssuer_ok (h : checkIssuer seen issuer = .ok seen') :
    (∃ key, issuer.publicKey = some key ∧ key ∉ seen.publicKeys ∧
      seen'.publicKeys = key :: seen.publicKeys) ∧
    seen'.rolesByPrincipal.get issuer.principalId = some issuer.role ∧
    ∀ principal role, seen.rolesByPrincipal.get principal = some role →
      seen'.rolesByPrincipal.get principal = some role := by
  simp only [checkIssuer, decodeCanonicalBase64, charsOf_eq, bind_eq_ok, demand_eq_ok,
    require_eq_ok, Bool.not_eq_true', List.contains_eq_mem, decide_eq_false_iff_not, beq_iff_eq] at h
  obtain ⟨key, ⟨decoded, hdecoded, -, -, hkey⟩, -, hfresh, -, hrole, heq⟩ := h
  cases hkey
  cases heq
  exact ⟨⟨key, hdecoded, hfresh, rfl⟩, hrole,
    fun principal role hget => Dict.get_setDefault_of_some hget⟩

/-- A principal has one role in a registry. -/
theorem role_of_foldlM (h : issuers.foldlM checkIssuer seen = .ok seen') :
    ∀ issuer ∈ issuers, seen'.rolesByPrincipal.get issuer.principalId = some issuer.role := by
  intro issuer hissuer
  exact foldlM_turn (I := fun _ => True)
    (Q := fun i s => s.rolesByPrincipal.get i.principalId = some i.role) h trivial
    (fun s s' i _ hturn _ => ⟨trivial, (checkIssuer_ok hturn).2.1⟩)
    (fun s s' i _ hturn _ j hj => (checkIssuer_ok hturn).2.2 _ _ hj) hissuer

/-- The public keys are new, and no two issuers have the same. -/
theorem keys_of_foldlM (h : issuers.foldlM checkIssuer seen = .ok seen') :
    (∀ issuer ∈ issuers, ∃ key, issuer.publicKey = some key ∧ key ∉ seen.publicKeys) ∧
      issuers.Pairwise fun a b => a.publicKey ≠ b.publicKey := by
  induction issuers generalizing seen with
  | nil => exact ⟨fun issuer hissuer => absurd hissuer List.not_mem_nil, List.Pairwise.nil⟩
  | cons issuer issuers ih =>
    rw [List.foldlM_cons, bind_eq_ok] at h
    obtain ⟨next, hfirst, hrest⟩ := h
    obtain ⟨⟨key, hkey, hfresh, hkeys⟩, -⟩ := checkIssuer_ok hfirst
    obtain ⟨hothers, hpairwise⟩ := ih hrest
    rw [hkeys] at hothers
    constructor
    · intro other hother
      rcases List.mem_cons.mp hother with rfl | hother
      · exact ⟨key, hkey, hfresh⟩
      · obtain ⟨key', hkey', hnew⟩ := hothers other hother
        exact ⟨key', hkey', fun hmem => hnew (List.mem_cons_of_mem _ hmem)⟩
    · refine List.Pairwise.cons (fun other hother heq => ?_) hpairwise
      obtain ⟨key', hkey', hnew⟩ := hothers other hother
      rw [hkey, hkey'] at heq
      cases heq
      exact hnew List.mem_cons_self

theorem foldlM_of_loadRegistry (h : loadRegistry registry = .ok registry) :
    ∃ seen, registry.issuers.foldlM checkIssuer {} = .ok seen := by
  simp only [loadRegistry, bind_eq_ok] at h
  obtain ⟨-, -, -, -, seen, hseen, -⟩ := h
  exact ⟨seen, hseen⟩

/-- The registry has an identity in a role. -/
def HasRole (registry : WorkshopTrustRegistry) (role : SignerRole) (identity : SignerIdentity) :
    Prop := ∃ issuer, issuerOf registry identity = some issuer ∧ issuer.role = role

theorem issuerOf_some {identity : SignerIdentity} (h : issuerOf registry identity = some issuer) :
    issuer ∈ registry.issuers ∧ issuer.principalId = identity.principalId := by
  have hfound := List.find?_some h
  simp only [Bool.and_eq_true, beq_iff_eq] at hfound
  exact ⟨List.mem_of_find?_eq_some h, hfound.1⟩

/-- In a valid registry different roles are held by different people with different keys. -/
theorem distinct_of_roles (hvalid : loadRegistry registry = .ok registry) {a b : SignerIdentity}
    {role role' : SignerRole} (ha : HasRole registry role a) (hb : HasRole registry role' b)
    (hne : role ≠ role') : DistinctSigners registry a b := by
  obtain ⟨issuer, hissuer, rfl⟩ := ha
  obtain ⟨issuer', hissuer', rfl⟩ := hb
  obtain ⟨hmem, hprincipal⟩ := issuerOf_some hissuer
  obtain ⟨hmem', hprincipal'⟩ := issuerOf_some hissuer'
  obtain ⟨seen, hseen⟩ := foldlM_of_loadRegistry hvalid
  obtain ⟨hkeys, hpairwise⟩ := keys_of_foldlM hseen
  constructor
  · intro heq
    have hrole := role_of_foldlM hseen issuer hmem
    rw [hprincipal, heq, ← hprincipal', role_of_foldlM hseen issuer' hmem'] at hrole
    exact hne (Option.some.inj hrole).symm
  · obtain ⟨key, hkey, -⟩ := hkeys issuer hmem
    obtain ⟨key', hkey', -⟩ := hkeys issuer' hmem'
    refine ⟨key, key', by rw [hissuer]; exact hkey, by rw [hissuer']; exact hkey', fun heq => ?_⟩
    have hissuers : issuer ≠ issuer' := fun h => hne (by rw [h])
    have : Std.Symm fun a b : TrustedWorkshopIssuer => a.publicKey ≠ b.publicKey :=
      ⟨fun _ _ h => h.symm⟩
    exact hpairwise.forall hmem hmem' hissuers (by rw [hkey, hkey', heq])

end Registry

section Signers

variable {Bytes : Type} [DecidableEq Bytes] {lib : Platform Bytes}
  {registry : WorkshopTrustRegistry} {request : ChainRequest Bytes} {result : VerifiedWorkshopChain}

theorem hasRole_of_findIssuer {identity : SignerIdentity} {role : SignerRole} {organization : Token}
    {stage : WorkshopStage} {issuedAt : Timestamp} {now : Int} {issuer : TrustedWorkshopIssuer}
    (h : findIssuer registry identity role organization stage issuedAt now = .ok issuer) :
    HasRole registry role identity := by
  simp only [findIssuer, bind_eq_ok, demand_eq_ok, require_eq_ok, beq_iff_eq] at h
  obtain ⟨found, hfound, -, hrole, -⟩ := h
  exact ⟨found, hfound, hrole⟩

/-- The supervisor of the air cut of a chain. -/
def SupervisedBy (lib : Platform Bytes) (request : ChainRequest Bytes)
    (supervisor : SignerIdentity) : Prop :=
  ∃ statement evidence, StatementOf lib request statement ∧ statement.stage = .preCut ∧
    statement.preCut = some evidence ∧ evidence.supervisedAirCut.supervisor = some supervisor

omit [DecidableEq Bytes] in
theorem roles_of_checkSigners {attestation : SignedWorkshopAttestation} {statementRaw : Json}
    {digest : Sha256}
    (h : checkSigners lib registry request attestation statementRaw = .ok digest) :
    HasRole registry .workshopMaker attestation.statement.maker ∧
      HasRole registry .workshopChecker attestation.statement.checker ∧
      ∀ evidence, attestation.statement.stage = .preCut →
        attestation.statement.preCut = some evidence → ∃ supervisor,
          evidence.supervisedAirCut.supervisor = some supervisor ∧
            HasRole registry .workshopSupervisor supervisor := by
  simp only [checkSigners, bind_eq_ok, require_eq_ok] at h
  obtain ⟨_, -, -, -, maker, hmaker, checker, hchecker, -, -, -, -, ⟨⟩, hsupervisor, -⟩ := h
  refine ⟨hasRole_of_findIssuer hmaker, hasRole_of_findIssuer hchecker, fun evidence hstage hpre => ?_⟩
  unfold verifyAirCutSupervisor at hsupervisor
  rw [hstage, hpre] at hsupervisor
  simp only [bind_eq_ok, demand_eq_ok] at hsupervisor
  obtain ⟨supervisor, hgiven, _, -, issuer, hissuer, -⟩ := hsupervisor
  exact ⟨supervisor, hgiven, hasRole_of_findIssuer hissuer⟩

/-- The signers of every statement of an accepted chain were checked. -/
theorem checkSigners_of_accepted
    (h : verifyWorkshopAttestationChain lib registry request = .ok result)
    {statement : WorkshopAttestationStatement} (hstatement : StatementOf lib request statement) :
    ∃ attestation statementRaw digest, attestation.statement = statement ∧
      checkSigners lib registry request attestation statementRaw = .ok digest := by
  obtain ⟨nonces, b₁, b₂, b₃, s₁, s₂, s₃, hchain⟩ := acceptedChain_of_ok h
  obtain ⟨bytes, hbytes, attestation, statementRaw, hloaded, rfl⟩ := hstatement
  have hpassed : ∀ stage state after,
      verifyStage lib registry request nonces state (stage, bytes) = .ok after →
      ∃ digest, checkSigners lib registry request attestation statementRaw = .ok digest := by
    intro stage state after hstage
    obtain ⟨attestation', statementRaw', hpassed⟩ := passedStage_of_ok hstage
    have hsame := hpassed.loaded
    rw [hloaded] at hsame
    cases hsame
    exact hpassed.signed
  rw [hchain.chain] at hbytes
  suffices hsigned : ∃ digest, checkSigners lib registry request attestation statementRaw = .ok digest by
    obtain ⟨digest, hdigest⟩ := hsigned
    exact ⟨attestation, statementRaw, digest, rfl, hdigest⟩
  rcases hbytes with _ | ⟨_, hbytes⟩
  · exact hpassed _ _ _ hchain.preCut
  rcases hbytes with _ | ⟨_, hbytes⟩
  · exact hpassed _ _ _ hchain.referencePart
  rcases hbytes with _ | ⟨_, hbytes⟩
  · exact hpassed _ _ _ hchain.finalWorkshop
  · cases hbytes

/-- The makers, the checkers and the supervisor of an accepted chain are different people with
    different keys. -/
theorem signers_distinct (h : verifyWorkshopAttestationChain lib registry request = .ok result)
    {statement statement' : WorkshopAttestationStatement} {supervisor : SignerIdentity}
    (hmaker : StatementOf lib request statement) (hchecker : StatementOf lib request statement')
    (hsupervisor : SupervisedBy lib request supervisor) :
    [statement.maker, statement'.checker, supervisor].Pairwise (DistinctSigners registry) := by
  obtain ⟨nonces, b₁, b₂, b₃, s₁, s₂, s₃, hchain⟩ := acceptedChain_of_ok h
  obtain ⟨attestation, _, _, rfl, hsigned⟩ := checkSigners_of_accepted h hmaker
  obtain ⟨attestation', _, _, rfl, hsigned'⟩ := checkSigners_of_accepted h hchecker
  obtain ⟨first, evidence, hfirst, hstage, hpre, hgiven⟩ := hsupervisor
  obtain ⟨firstAttestation, _, _, rfl, hfirstSigned⟩ := checkSigners_of_accepted h hfirst
  have hmade := (roles_of_checkSigners hsigned).1
  have hchecked := (roles_of_checkSigners hsigned').2.1
  obtain ⟨supervisor', hgiven', hsupervised⟩ :=
    (roles_of_checkSigners hfirstSigned).2.2 evidence hstage hpre
  obtain rfl : supervisor' = supervisor := Option.some.inj (hgiven'.symm.trans hgiven)
  simp only [List.pairwise_cons, List.mem_cons, List.not_mem_nil, or_false, forall_eq_or_imp,
    forall_eq, false_imp_iff, implies_true, List.Pairwise.nil, and_true]
  exact ⟨⟨distinct_of_roles hchain.trusted hmade hchecked (by decide),
    distinct_of_roles hchain.trusted hmade hsupervised (by decide)⟩,
    distinct_of_roles hchain.trusted hchecked hsupervised (by decide)⟩

/-- The air cut of an accepted chain has a supervisor. -/
theorem exists_supervisor (h : verifyWorkshopAttestationChain lib registry request = .ok result) :
    ∃ supervisor, SupervisedBy lib request supervisor := by
  obtain ⟨nonces, b₁, b₂, b₃, s₁, s₂, s₃, hchain⟩ := acceptedChain_of_ok h
  obtain ⟨attestation, statementRaw, hpassed⟩ := passedStage_of_ok hchain.preCut
  have hstage : attestation.statement.stage = .preCut := (boundStatement_of_ok hpassed.checked).staged
  have hstatement : StatementOf lib request attestation.statement := by
    refine ⟨b₁, ?_, attestation, statementRaw, hpassed.loaded, rfl⟩
    rw [hchain.chain]
    exact List.mem_cons_self
  have hbranch := hpassed.staged
  simp only [verifyStageEvidence, verifyStageBranch, hstage, bind_eq_ok, demand_eq_ok] at hbranch
  obtain ⟨-, -, -, -, -, -, evidence, hevidence, -⟩ := hbranch
  obtain ⟨digest, hsigned⟩ := hpassed.signed
  obtain ⟨supervisor, hgiven, -⟩ := (roles_of_checkSigners hsigned).2.2 evidence hstage hevidence
  exact ⟨supervisor, attestation.statement, evidence, hstatement, hstage, hevidence, hgiven⟩

/-- Revocation is monotone, attestations cannot be spliced, and the signers are distinct. -/
theorem accepted_chain_trusted (lib : Platform Bytes) :
    (∀ registry registry' request result, RevokesMore registry registry' →
      loadRegistry registry = .ok registry → loadRegistry registry' = .ok registry' →
      verifyWorkshopAttestationChain lib registry' request = .ok result →
      verifyWorkshopAttestationChain lib registry request = .ok result) ∧
    (Function.Injective lib.sha256 → ∀ registry registry' request request' result result' bytes,
      ∀ position position' : Nat,
      verifyWorkshopAttestationChain lib registry request = .ok result →
      verifyWorkshopAttestationChain lib registry' request' = .ok result' →
      request.attestationBytes[position]? = some bytes →
      request'.attestationBytes[position']? = some bytes →
      request.expectedRun = request'.expectedRun ∧ position = position' ∧
        (∃ nonces nonces' stage nonce, expectedNonces request.expectedServerNonces = .ok nonces ∧
          expectedNonces request'.expectedServerNonces = .ok nonces' ∧
          stageOrder[position]? = some stage ∧ nonces.get stage = some nonce ∧
          nonces'.get stage = some nonce) ∧
        ∀ k < position, request.attestationBytes[k]? = request'.attestationBytes[k]?) ∧
    (∀ registry request result,
      verifyWorkshopAttestationChain lib registry request = .ok result →
      (∃ supervisor, SupervisedBy lib request supervisor) ∧
        ∀ statement statement' supervisor, StatementOf lib request statement →
          StatementOf lib request statement' → SupervisedBy lib request supervisor →
          [statement.maker, statement'.checker, supervisor].Pairwise (DistinctSigners registry)) := by
  refine ⟨?_, ?_, ?_⟩
  · intro registry registry' request result hmore hvalid _ h
    exact accepted_of_revokesMore hmore hvalid h
  · intro hsha registry registry' request request' result result' bytes position position' h h'
      hbytes hbytes'
    exact not_spliced hsha h h' hbytes hbytes'
  · intro registry request result h
    exact ⟨exists_supervisor h, fun _ _ _ hmaker hchecker hsupervisor =>
      signers_distinct h hmaker hchecker hsupervisor⟩

end Signers

/-- The signers of the sample. -/
theorem sample_signers_trusted :
    (∃ supervisor, SupervisedBy (namedPlatform sharedPhoto) (sampleRequest sharedPhoto) supervisor) ∧
      ∀ statement statement' supervisor,
        StatementOf (namedPlatform sharedPhoto) (sampleRequest sharedPhoto) statement →
        StatementOf (namedPlatform sharedPhoto) (sampleRequest sharedPhoto) statement' →
        SupervisedBy (namedPlatform sharedPhoto) (sampleRequest sharedPhoto) supervisor →
        [statement.maker, statement'.checker, supervisor].Pairwise
          (DistinctSigners sampleRegistry) := by
  obtain ⟨result, hresult⟩ := sharedPhoto_accepted
  exact (accepted_chain_trusted (namedPlatform sharedPhoto)).2.2 sampleRegistry
    (sampleRequest sharedPhoto) result hresult

end Custombuild.Workshop
