/-
  What an accepted chain has passed: each check of the verifier returned, for the chain as a
  whole and for each of its three attestations.
-/
import Custombuild.Workshop.Chain

namespace Custombuild.Workshop

open Custombuild.Lib

section Accepted

variable {Bytes : Type} [DecidableEq Bytes] {lib : Platform Bytes}
  {registry : WorkshopTrustRegistry} {request : ChainRequest Bytes}
  {nonces : Dict WorkshopStage String} {state after : ChainState} {item : WorkshopStage × Bytes}
  {statement : WorkshopAttestationStatement} {result : VerifiedWorkshopChain}

/-- What one attestation has passed. -/
structure PassedStage (lib : Platform Bytes) (registry : WorkshopTrustRegistry)
    (request : ChainRequest Bytes) (nonces : Dict WorkshopStage String) (state : ChainState)
    (item : WorkshopStage × Bytes) (attestation : SignedWorkshopAttestation) (statementRaw : Json)
    (after : ChainState) : Prop where
  loaded : loadAttestation lib item.2 = .ok (attestation, statementRaw)
  checked : checkStatement request nonces item.1 state attestation.statement = .ok ()
  signed : ∃ digest, checkSigners lib registry request attestation statementRaw = .ok digest
  bound : verifyClaimBindings lib attestation.statement = .ok ()
  evidence : (allSetupReferences attestation.statement.setup ++
      stageReferences attestation.statement).foldlM (verifyReference lib registry request.evidence)
    state.evidence = .ok after.evidence
  staged : verifyStageEvidence lib attestation.statement request.now state.previousIssuedAt
    request.expectedPolicy = .ok ()
  previous : after.previousAttestationDigest = some (lib.sha256 item.2)

theorem passedStage_of_ok (h : verifyStage lib registry request nonces state item = .ok after) :
    ∃ attestation statementRaw,
      PassedStage lib registry request nonces state item attestation statementRaw after := by
  simp only [verifyStage, bind_eq_ok] at h
  obtain ⟨⟨attestation, statementRaw⟩, hloaded, ⟨⟩, hchecked, digest, hsigned, ⟨⟩, hbound, evidence,
    hevidence, ⟨⟩, hstaged, heq⟩ := h
  cases heq
  exact ⟨attestation, statementRaw, hloaded, hchecked, ⟨digest, hsigned⟩, hbound, hevidence,
    hstaged, rfl⟩

/-- The binding of a statement that was checked. -/
structure BoundStatement (request : ChainRequest Bytes) (nonces : Dict WorkshopStage String)
    (stage : WorkshopStage) (state : ChainState) (statement : WorkshopAttestationStatement) :
    Prop where
  staged : statement.stage = stage
  run : statement.run = request.expectedRun
  nonce : nonces.get stage = some statement.serverNonce
  previous : statement.previousAttestationSha256 = state.previousAttestationDigest

omit [DecidableEq Bytes] in
theorem boundStatement_of_ok {stage : WorkshopStage}
    (h : checkStatement request nonces stage state statement = .ok ()) :
    BoundStatement request nonces stage state statement := by
  simp only [checkStatement, bind_eq_ok, require_eq_ok, beq_iff_eq] at h
  obtain ⟨-, hstage, -, -, -, hrun, -, hnonce, -, hprevious, -⟩ := h
  exact ⟨hstage, hrun, hnonce.symm, hprevious⟩

/-- What a chain has passed as a whole. -/
structure AcceptedChain (lib : Platform Bytes) (registry : WorkshopTrustRegistry)
    (request : ChainRequest Bytes) (nonces : Dict WorkshopStage String) (b₁ b₂ b₃ : Bytes)
    (s₁ s₂ s₃ : ChainState) : Prop where
  trusted : loadRegistry registry = .ok registry
  fresh : expectedNonces request.expectedServerNonces = .ok nonces
  chain : request.attestationBytes = [b₁, b₂, b₃]
  preCut : verifyStage lib registry request nonces {} (.preCut, b₁) = .ok s₁
  referencePart : verifyStage lib registry request nonces s₁ (.referencePart, b₂) = .ok s₂
  finalWorkshop : verifyStage lib registry request nonces s₂ (.finalWorkshop, b₃) = .ok s₃

theorem loadRegistry_eq {loaded : WorkshopTrustRegistry} (h : loadRegistry registry = .ok loaded) :
    loaded = registry := by
  simp only [loadRegistry, bind_eq_ok] at h
  obtain ⟨-, -, -, -, -, -, heq⟩ := h
  cases heq
  rfl

theorem acceptedChain_of_ok (h : verifyWorkshopAttestationChain lib registry request = .ok result) :
    ∃ nonces b₁ b₂ b₃ s₁ s₂ s₃, AcceptedChain lib registry request nonces b₁ b₂ b₃ s₁ s₂ s₃ := by
  simp only [verifyWorkshopAttestationChain, bind_eq_ok] at h
  obtain ⟨loaded, hloaded, -, -, nonces, hnonces, ⟨⟩, hchain, _, -, -, -, s₃, hstages, -⟩ := h
  obtain rfl := loadRegistry_eq hloaded
  have hlength : request.attestationBytes.length = 3 := by
    simp only [checkChain, bind_eq_ok, require_eq_ok, beq_iff_eq] at hchain
    obtain ⟨-, hlength, -⟩ := hchain
    exact hlength
  obtain ⟨b₁, b₂, b₃, hbytes⟩ := List.length_eq_three.mp hlength
  simp only [hbytes, stageOrder, List.zip_cons_cons, List.zip_nil_left, List.foldlM_cons,
    List.foldlM_nil, bind_eq_ok] at hstages
  obtain ⟨s₁, hpre, s₂, hreference, s₃', hfinal, heq⟩ := hstages
  cases heq
  exact ⟨nonces, b₁, b₂, b₃, s₁, s₂, s₃, hloaded, hnonces, hbytes, hpre, hreference, hfinal⟩

/-! ## The evidence is there -/

theorem status_of_requireVerified {label : String} {reference : EvidenceReference}
    {issuedAt notBefore : Timestamp} {observedAfter : Option Timestamp} {age : Int} {u : Unit}
    (h : requireVerified label reference issuedAt observedAfter notBefore age = .ok u) :
    reference.status = .verified := by
  simp only [requireVerified, bind_eq_ok, require_eq_ok, beq_iff_eq] at h
  exact h.choose_spec.1

theorem status_of_stageBranch {previous : Option Timestamp} {policy : WorkshopVerificationPolicy}
    (h : verifyStageBranch statement previous policy = .ok ()) :
    ∀ entry ∈ stageReferences statement, entry.2.status = .verified := by
  unfold verifyStageBranch at h
  unfold stageReferences
  cases hstage : statement.stage with
  | preCut =>
    simp only [hstage, bind_eq_ok, demand_eq_ok, verifyPreCut] at h
    obtain ⟨evidence, hevidence, ⟨⟩, hcoupons, -, -, -, -, -, -, ⟨⟩, hremoval, -, -, -, -, ⟨⟩, hairCut,
      -⟩ := h
    simp only [hevidence, List.forall_mem_cons, List.not_mem_nil, false_imp_iff, implies_true,
      and_true]
    exact ⟨status_of_requireVerified hcoupons, status_of_requireVerified hremoval,
      status_of_requireVerified hairCut⟩
  | referencePart =>
    simp only [hstage, bind_eq_ok, demand_eq_ok, verifyReferencePart] at h
    obtain ⟨part, hpart, ⟨⟩, hverified, -⟩ := h
    simp only [hpart, List.forall_mem_cons, List.not_mem_nil, false_imp_iff, implies_true, and_true]
    exact status_of_requireVerified hverified
  | finalWorkshop =>
    simp only [hstage, bind_eq_ok, demand_eq_ok, verifyFinalWorkshop] at h
    obtain ⟨final, hfinal, ⟨⟩, hprototype, ⟨⟩, hloadTest, -⟩ := h
    simp only [hfinal, List.forall_mem_cons, List.not_mem_nil, false_imp_iff, implies_true, and_true]
    exact ⟨status_of_requireVerified hprototype, status_of_requireVerified hloadTest⟩

omit [DecidableEq Bytes] in
/-- Every reference of an accepted statement is verified. -/
theorem status_of_stageEvidence {now : Int} {previous : Option Timestamp}
    {policy : WorkshopVerificationPolicy}
    (h : verifyStageEvidence lib statement now previous policy = .ok ()) :
    ∀ entry ∈ allSetupReferences statement.setup ++ stageReferences statement,
      entry.2.status = .verified := by
  simp only [verifyStageEvidence, bind_eq_ok] at h
  obtain ⟨⟨⟩, hsetup, -, -, -, -, hbranch⟩ := h
  intro entry hentry
  rcases List.mem_append.mp hentry with hentry | hentry
  · exact status_of_requireVerified (forEach_eq_ok.mp hsetup entry hentry)
  · exact status_of_stageBranch hbranch entry hentry

end Accepted

end Custombuild.Workshop
