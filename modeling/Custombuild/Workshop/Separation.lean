/-
  The separation of the evidence slots.  In an accepted chain all references are settled under
  their labels at the end, so that only two pockets with one tool can share anything; the claims
  they are bound to tell their records apart, and what is left are their attachments.
-/
import Custombuild.Workshop.Accepted
import Custombuild.Workshop.Roles

namespace Custombuild.Workshop

open Custombuild.Lib

section Separation

variable {Bytes : Type} [DecidableEq Bytes] {lib : Platform Bytes}
  {registry : WorkshopTrustRegistry} {request : ChainRequest Bytes}
  {statement : WorkshopAttestationStatement} {result : VerifiedWorkshopChain}

/-- The canonical bytes of the claim of a tool measurement name the pocket of the tool. -/
def NamesPocket (lib : Platform Bytes) : Prop :=
  ∀ facts facts' : ToolFacts,
    lib.dumps (lib.modelDump (.claim "tool-measurement" (.tool facts))) =
      lib.dumps (lib.modelDump (.claim "tool-measurement" (.tool facts'))) →
    facts.pocketNumber = facts'.pocketNumber

/-- A statement of the chain. -/
def StatementOf (lib : Platform Bytes) (request : ChainRequest Bytes)
    (statement : WorkshopAttestationStatement) : Prop :=
  ∃ bytes ∈ request.attestationBytes, ∃ attestation statementRaw,
    loadAttestation lib bytes = .ok (attestation, statementRaw) ∧ attestation.statement = statement

/-- A reference stands in a slot of the chain. -/
def Occupies (lib : Platform Bytes) (request : ChainRequest Bytes) (slot : EvidenceSlot)
    (reference : EvidenceReference) : Prop :=
  ∃ statement, StatementOf lib request statement ∧ (slot, reference) ∈ slotReferences statement

/-- No record and no attachment is used for two slots. -/
def SlotsApart (lib : Platform Bytes) (request : ChainRequest Bytes) : Prop :=
  ∀ slot slot' reference reference', Occupies lib request slot reference →
    Occupies lib request slot' reference' → slot ≠ slot' →
    (reference.evidenceId, reference.evidenceVersion) ≠
        (reference'.evidenceId, reference'.evidenceVersion) ∧
      ∀ digest ∈ digestsOf lib request.evidence reference,
        digest ∉ digestsOf lib request.evidence reference'

/-- No attachment of the record of a tool is used for the same tool in another pocket. -/
def PocketsApart (lib : Platform Bytes) (request : ChainRequest Bytes) : Prop :=
  ∀ pocket pocket' toolId reference reference',
    Occupies lib request (.tool pocket toolId) reference →
    Occupies lib request (.tool pocket' toolId) reference' → pocket ≠ pocket' →
    ∀ digest ∈ attachmentsOf lib request.evidence reference,
      digest ∉ digestsOf lib request.evidence reference'

/-! ## Statements are settled -/

/-- What the turn of an attestation leaves: its references are settled, its claims bound. -/
def StatementSettled (lib : Platform Bytes) (request : ChainRequest Bytes)
    (item : WorkshopStage × Bytes) (state : ChainState) : Prop :=
  ∀ attestation statementRaw, loadAttestation lib item.2 = .ok (attestation, statementRaw) →
    (∀ entry ∈ slotReferences attestation.statement, ∃ identity,
      Settled lib request.evidence (entry.1.label, entry.2) state.evidence identity) ∧
    verifyClaimBindings lib attestation.statement = .ok () ∧
    ∀ entry ∈ slotReferences attestation.statement, entry.2.status = .verified

theorem verifyStage_settles {nonces : Dict WorkshopStage String} {state after : ChainState}
    {item : WorkshopStage × Bytes}
    (h : verifyStage lib registry request nonces state item = .ok after)
    (hfiled : AllFiled lib request.evidence state.evidence) :
    AllFiled lib request.evidence after.evidence ∧ Keeps state.evidence after.evidence ∧
      StatementSettled lib request item after := by
  obtain ⟨attestation, statementRaw, hpassed⟩ := passedStage_of_ok h
  obtain ⟨hfiled', hkeeps, hsettled⟩ := verifyReferences_ok hpassed.evidence hfiled
  refine ⟨hfiled', hkeeps, fun attestation' statementRaw' hloaded => ?_⟩
  rw [hpassed.loaded] at hloaded
  cases hloaded
  have hmem : ∀ entry ∈ slotReferences attestation.statement, (entry.1.label, entry.2) ∈
      allSetupReferences attestation.statement.setup ++ stageReferences attestation.statement := by
    intro entry hentry
    rw [← map_label_slotReferences]
    exact List.mem_map.mpr ⟨entry, hentry, rfl⟩
  have hstatus : ∀ entry ∈ slotReferences attestation.statement, entry.2.status = .verified :=
    fun entry hentry => status_of_stageEvidence hpassed.staged _ (hmem entry hentry)
  exact ⟨fun entry hentry => hsettled _ (hmem entry hentry) (hstatus entry hentry), hpassed.bound,
    hstatus⟩

omit [DecidableEq Bytes] in
theorem allFiled_empty (store : EvidenceStore Bytes) : AllFiled lib store {} := by
  intro key hkey
  cases hkey

theorem StatementSettled.keeps {item : WorkshopStage × Bytes} {state after : ChainState}
    (h : StatementSettled lib request item state) (hkeeps : Keeps state.evidence after.evidence) :
    StatementSettled lib request item after := by
  intro attestation statementRaw hloaded
  obtain ⟨hsettled, hrest⟩ := h attestation statementRaw hloaded
  refine ⟨fun entry hentry => ?_, hrest⟩
  obtain ⟨identity, hidentity⟩ := hsettled entry hentry
  exact ⟨identity, hidentity.keeps hkeeps⟩

/-- At the end of an accepted chain every slot is settled in one state. -/
theorem slots_settled (h : verifyWorkshopAttestationChain lib registry request = .ok result) :
    ∃ state : EvidenceState, ∀ statement, StatementOf lib request statement →
      (∀ entry ∈ slotReferences statement, ∃ identity,
        Settled lib request.evidence (entry.1.label, entry.2) state identity) ∧
      verifyClaimBindings lib statement = .ok () ∧
      ∀ entry ∈ slotReferences statement, entry.2.status = .verified := by
  obtain ⟨nonces, b₁, b₂, b₃, s₁, s₂, s₃, hchain⟩ := acceptedChain_of_ok h
  obtain ⟨hfiled₁, -, hsettled₁⟩ := verifyStage_settles hchain.preCut (allFiled_empty _)
  obtain ⟨hfiled₂, hkeeps₂, hsettled₂⟩ := verifyStage_settles hchain.referencePart hfiled₁
  obtain ⟨-, hkeeps₃, hsettled₃⟩ := verifyStage_settles hchain.finalWorkshop hfiled₂
  refine ⟨s₃.evidence, ?_⟩
  rintro _ ⟨bytes, hbytes, attestation, statementRaw, hloaded, rfl⟩
  rw [hchain.chain] at hbytes
  rcases hbytes with _ | ⟨_, hbytes⟩
  · exact (hsettled₁.keeps hkeeps₂).keeps hkeeps₃ attestation statementRaw hloaded
  rcases hbytes with _ | ⟨_, hbytes⟩
  · exact hsettled₂.keeps hkeeps₃ attestation statementRaw hloaded
  rcases hbytes with _ | ⟨_, hbytes⟩
  · exact hsettled₃ attestation statementRaw hloaded
  · cases hbytes

/-! ## The claims of tools -/

omit [DecidableEq Bytes] in
theorem claim_of_binding {binding : ClaimBinding} (h : verifyClaimBinding lib binding = .ok ())
    (hverified : binding.reference.status = .verified) : binding.reference.claimSha256 =
      some (lib.sha256 (lib.dumps (lib.modelDump (.claim binding.claimType binding.payload)))) := by
  unfold verifyClaimBinding at h
  rw [if_neg (by simpa using hverified)] at h
  simp only [workshopEvidenceClaimSha256, documentSha256, documentBytes, canonicalJsonBytes,
    bind_eq_ok, require_eq_ok, Bool.and_eq_true, beq_iff_eq] at h
  obtain ⟨digest, ⟨bytes, ⟨-, -, hbytes⟩, hdigest⟩, -, hclaim⟩ := h
  cases hbytes
  cases hdigest
  exact hclaim

theorem mem_tools_of_slot {pocket : Nat} {toolId : Token} {reference : EvidenceReference}
    (h : (.tool pocket toolId, reference) ∈ slotReferences statement) :
    ∃ tool ∈ statement.setup.tools, tool.pocketNumber = pocket ∧
      tool.measurementEvidence = reference := by
  have hstage : (EvidenceSlot.tool pocket toolId, reference) ∉ stageSlots statement := by
    unfold stageSlots
    split <;> simp
  have hsetup := (List.mem_append.mp h).resolve_right hstage
  simp only [setupSlots, List.mem_append, List.mem_cons, List.mem_map, List.mem_flatMap,
    Prod.mk.injEq, reduceCtorEq, false_and, List.not_mem_nil, or_self, and_false, exists_false,
    or_false, false_or, EvidenceSlot.tool.injEq] at hsetup
  obtain ⟨tool, htool, ⟨hpocket, -⟩, hreference⟩ := hsetup
  exact ⟨tool, htool, hpocket, hreference⟩

omit [DecidableEq Bytes] in
/-- The evidence of a tool is bound to the facts of the tool in its pocket. -/
theorem claim_of_tool {pocket : Nat} {toolId : Token} {reference : EvidenceReference}
    (hbound : verifyClaimBindings lib statement = .ok ())
    (hslot : (.tool pocket toolId, reference) ∈ slotReferences statement)
    (hverified : reference.status = .verified) : ∃ facts : ToolFacts,
      facts.pocketNumber = pocket ∧ reference.claimSha256 =
        some (lib.sha256 (lib.dumps (lib.modelDump (.claim "tool-measurement" (.tool facts))))) := by
  obtain ⟨tool, htool, hpocket, rfl⟩ := mem_tools_of_slot hslot
  have hmem : (⟨"tool measurement " ++ tool.toolId, tool.measurementEvidence, "tool-measurement",
      .tool tool.toToolFacts⟩ : ClaimBinding) ∈ claimBindings statement := by
    refine List.mem_append_left _ (List.mem_append_left _ (List.mem_append_right _ ?_))
    exact List.mem_map.mpr ⟨tool, htool, rfl⟩
  exact ⟨tool.toToolFacts, hpocket, claim_of_binding (forEach_eq_ok.mp hbound _ hmem) hverified⟩

/-! ## What two slots can share -/

/-- A slot of an accepted chain: settled, and bound to its claim where it is a pocket. -/
structure SlotSettled (lib : Platform Bytes) (request : ChainRequest Bytes) (state : EvidenceState)
    (slot : EvidenceSlot) (reference : EvidenceReference) (identity : EvidenceIdentity) : Prop where
  settled : Settled lib request.evidence (slot.label, reference) state identity
  claim : ∀ pocket toolId, slot = .tool pocket toolId → ∃ facts : ToolFacts,
    facts.pocketNumber = pocket ∧ identity.claimSha256 =
      lib.sha256 (lib.dumps (lib.modelDump (.claim "tool-measurement" (.tool facts))))

theorem slotSettled_of_accepted
    (h : verifyWorkshopAttestationChain lib registry request = .ok result) :
    ∃ state, ∀ slot reference, Occupies lib request slot reference →
      ∃ identity, SlotSettled lib request state slot reference identity := by
  obtain ⟨state, hstate⟩ := slots_settled h
  refine ⟨state, ?_⟩
  rintro slot reference ⟨statement, hstatement, hslot⟩
  obtain ⟨hsettled, hbound, hverified⟩ := hstate statement hstatement
  obtain ⟨identity, hidentity⟩ := hsettled _ hslot
  refine ⟨identity, hidentity, ?_⟩
  rintro pocket toolId rfl
  obtain ⟨facts, hpocket, hclaim⟩ := claim_of_tool hbound hslot (hverified _ hslot)
  rw [claimSha256_of_identity hidentity.identified] at hclaim
  exact ⟨facts, hpocket, Option.some.inj hclaim⟩

section Pair

variable {state : EvidenceState} {slot slot' : EvidenceSlot}
  {reference reference' : EvidenceReference} {identity identity' : EvidenceIdentity}

omit [DecidableEq Bytes] in
/-- Slots with different labels share nothing. -/
theorem apart_of_label (h : SlotSettled lib request state slot reference identity)
    (h' : SlotSettled lib request state slot' reference' identity')
    (hlabel : slot.label ≠ slot'.label) : identity.key ≠ identity'.key ∧
      ∀ digest ∈ digestsOf lib request.evidence reference,
        digest ∉ digestsOf lib request.evidence reference' := by
  refine ⟨fun hkey => hlabel ?_, fun digest hdigest hdigest' => hlabel ?_⟩
  · have hrole := h.settled.key
    rw [hkey, h'.settled.key] at hrole
    exact (Option.some.inj hrole).symm
  · have hrole := h.settled.digests digest hdigest
    rw [h'.settled.digests digest hdigest'] at hrole
    exact (Option.some.inj hrole).symm

omit [DecidableEq Bytes] in
/-- The records of two pockets are bound to different claims. -/
theorem claim_ne_of_pocket (hsha : Function.Injective lib.sha256) (hnames : NamesPocket lib)
    {pocket pocket' : Nat} {toolId : Token}
    (h : SlotSettled lib request state (.tool pocket toolId) reference identity)
    (h' : SlotSettled lib request state (.tool pocket' toolId) reference' identity')
    (hne : pocket ≠ pocket') : identity.claimSha256 ≠ identity'.claimSha256 := by
  intro heq
  obtain ⟨facts, hpocket, hclaim⟩ := h.claim pocket toolId rfl
  obtain ⟨facts', hpocket', hclaim'⟩ := h'.claim pocket' toolId rfl
  rw [hclaim, hclaim'] at heq
  have hsame := hnames facts facts' (hsha heq)
  exact hne (by rw [← hpocket, ← hpocket', hsame])

omit [DecidableEq Bytes] in
/-- Two pockets share no record. -/
theorem record_apart_of_pocket (hsha : Function.Injective lib.sha256) (hnames : NamesPocket lib)
    {pocket pocket' : Nat} {toolId : Token}
    (h : SlotSettled lib request state (.tool pocket toolId) reference identity)
    (h' : SlotSettled lib request state (.tool pocket' toolId) reference' identity')
    (hne : pocket ≠ pocket') :
    identity.key ≠ identity'.key ∧ identity.sha256 ≠ identity'.sha256 := by
  obtain ⟨content, record, hloaded⟩ := h.settled.loaded
  obtain ⟨content', record', hloaded'⟩ := h'.settled.loaded
  have hclaim := claim_ne_of_pocket hsha hnames h h' hne
  exact ⟨fun hkey => hclaim (hloaded.claim_eq_of_key hloaded' hkey),
    fun hdigest => hclaim (hloaded.claim_eq_of_sha256 hsha hloaded' hdigest)⟩

omit [DecidableEq Bytes] in
/-- The key of a settled reference. -/
theorem key_of_settled (h : SlotSettled lib request state slot reference identity) :
    (reference.evidenceId, reference.evidenceVersion) =
      (some identity.key.1, some identity.key.2) := by
  have hidentity := h.settled.identified
  simp only [EvidenceReference.identity, Option.bind_eq_bind, Option.bind_eq_some_iff,
    Option.pure_def, Option.some.injEq] at hidentity
  obtain ⟨id, hid, version, hversion, _, -, _, -, _, -, _, -, rfl⟩ := hidentity
  rw [hid, hversion]

end Pair

/-- An accepted chain uses no record and no attachment for two slots exactly when it uses no
    attachment for one tool in two pockets. -/
theorem slotsApart_iff (hsha : Function.Injective lib.sha256) (hnames : NamesPocket lib)
    (h : verifyWorkshopAttestationChain lib registry request = .ok result) :
    SlotsApart lib request ↔ PocketsApart lib request := by
  constructor
  · intro hapart pocket pocket' toolId reference reference' hslot hslot' hne digest hdigest
    refine (hapart _ _ reference reference' hslot hslot' ?_).2 digest
      (List.mem_append_right _ hdigest)
    exact fun heq => hne (EvidenceSlot.tool.inj heq).1
  · intro hpockets slot slot' reference reference' hslot hslot' hne
    obtain ⟨state, hstate⟩ := slotSettled_of_accepted h
    obtain ⟨identity, hsettled⟩ := hstate slot reference hslot
    obtain ⟨identity', hsettled'⟩ := hstate slot' reference' hslot'
    rw [key_of_settled hsettled, key_of_settled hsettled']
    by_cases hlabel : slot.label = slot'.label
    · -- only two pockets with one tool have one label
      obtain ⟨pocket, pocket', toolId, rfl, rfl⟩ := slot_of_label hlabel hne
      have hpocket : pocket ≠ pocket' := fun heq => hne (by rw [heq])
      obtain ⟨hkey, hdigest⟩ := record_apart_of_pocket hsha hnames hsettled hsettled' hpocket
      refine ⟨fun heq => hkey ?_, fun digest hmem hmem' => ?_⟩
      · simp only [Prod.mk.injEq, Option.some.injEq] at heq
        exact Prod.ext heq.1 heq.2
      · have hrecord : reference.sha256 = some identity.sha256 :=
          sha256_of_identity hsettled.settled.identified
        have hrecord' : reference'.sha256 = some identity'.sha256 :=
          sha256_of_identity hsettled'.settled.identified
        rcases List.mem_append.mp hmem with hown | hattached
        · rcases List.mem_append.mp hmem' with hown' | hattached'
          · -- two records
            rw [hrecord, Option.toList_some, List.mem_singleton] at hown
            rw [hrecord', Option.toList_some, List.mem_singleton] at hown'
            exact hdigest (hown.symm.trans hown')
          · exact hpockets pocket' pocket toolId reference' reference hslot' hslot hpocket.symm
              digest hattached' hmem
        · exact hpockets pocket pocket' toolId reference reference' hslot hslot' hpocket digest
            hattached hmem'
    · obtain ⟨hkey, hdigest⟩ := apart_of_label hsettled hsettled' hlabel
      refine ⟨fun heq => hkey ?_, hdigest⟩
      simp only [Prod.mk.injEq, Option.some.injEq] at heq
      exact Prod.ext heq.1 heq.2

end Separation

/-! ## One photograph for two pockets -/

section Shared

/-- Both pockets show the same photograph. -/
def sharedPhoto : Nat → String := fun _ => "photo/tools"

theorem sharedPhoto_accepted : ∃ result, verifyWorkshopAttestationChain (namedPlatform sharedPhoto)
    sampleRegistry (sampleRequest sharedPhoto) = .ok result := by
  apply exists_eq_ok
  decide +kernel

theorem namesPocket_named (photo : Nat → String) : NamesPocket (namedPlatform photo) := by
  intro facts facts' h
  have hstrokes : strokes facts.pocketNumber = strokes facts'.pocketNumber :=
    (String.append_right_inj _).mp h
  simpa using congrArg List.length (String.ofList_injective hstrokes)

/-- The pocket of the sample is a slot of its first statement. -/
theorem occupies_pocket (pocket : Nat) (h : sampleTool pocket ∈ sampleSetup.tools) :
    Occupies (namedPlatform sharedPhoto) (sampleRequest sharedPhoto) (.tool pocket "endmill-6mm")
      (sampleTool pocket).measurementEvidence := by
  have hload : okAnd (loadAttestation (namedPlatform sharedPhoto) "attestation/1")
      (fun loaded => decide (loaded.1.statement.setup = sampleSetup)) = true := by decide +kernel
  obtain ⟨⟨attestation, statementRaw⟩, hloaded, hsetup⟩ := exists_of_okAnd hload
  refine ⟨attestation.statement, ⟨"attestation/1", List.mem_cons_self, attestation, statementRaw,
    hloaded, rfl⟩, List.mem_append_left _ ?_⟩
  rw [of_decide_eq_true hsetup]
  refine List.mem_append_left _ (List.mem_append_right _ ?_)
  exact List.mem_map.mpr ⟨sampleTool pocket, h, rfl⟩

/-- The chain is accepted, and one photograph is attached to the records of both pockets. -/
theorem sharedPhoto_slots_not_apart :
    Function.Injective (namedPlatform sharedPhoto).sha256 ∧
      NamesPocket (namedPlatform sharedPhoto) ∧
      (∃ result, verifyWorkshopAttestationChain (namedPlatform sharedPhoto) sampleRegistry
        (sampleRequest sharedPhoto) = .ok result) ∧
      ¬SlotsApart (namedPlatform sharedPhoto) (sampleRequest sharedPhoto) := by
  refine ⟨fun _ _ h => h, namesPocket_named _, sharedPhoto_accepted, fun hapart => ?_⟩
  have hfirst := occupies_pocket 1 (by simp [sampleSetup])
  have hsecond := occupies_pocket 2 (by simp [sampleSetup])
  refine (hapart _ _ _ _ hfirst hsecond (by decide)).2 "photo/tools" ?_ ?_
  · decide +kernel
  · decide +kernel

theorem slotsApart_iff_sharedPhoto :
    SlotsApart (namedPlatform sharedPhoto) (sampleRequest sharedPhoto) ↔
      PocketsApart (namedPlatform sharedPhoto) (sampleRequest sharedPhoto) := by
  obtain ⟨result, hresult⟩ := sharedPhoto_accepted
  exact slotsApart_iff (fun _ _ h => h) (namesPocket_named _) hresult

end Shared

end Custombuild.Workshop
