/-
  The roles of the evidence.  The verifier files every record and every attachment under the
  label of the slot it was referenced from.  Two slots have one label exactly when they are two
  pockets with the same tool, and the records of two pockets are told apart by the claims they
  commit to; their attachments are not.
-/
import Custombuild.Workshop.Chain

namespace Custombuild.Workshop

open Custombuild.Lib

/-! ## Slots -/

/-- What a piece of evidence is evidence for. -/
inductive EvidenceSlot
  | machineCalibration
  | wcs
  | fixture
  | keepouts
  | tool (pocketNumber : Nat) (toolId : Token)
  | materialCertificate (stockId : Token)
  | stockMeasurement (stockId : Token)
  | couponQualification
  | removalComparison
  | airCut
  | referencePart
  | prototypeBuild
  | loadTest
deriving DecidableEq

/-- The label that the verifier gives to the evidence of a slot. -/
def EvidenceSlot.label : EvidenceSlot → String
  | .machineCalibration => "machine calibration"
  | .wcs => "WCS verification"
  | .fixture => "fixture verification"
  | .keepouts => "keepout review"
  | .tool _ toolId => "tool measurement " ++ toolId
  | .materialCertificate stockId => "material certificate " ++ stockId
  | .stockMeasurement stockId => "stock measurement " ++ stockId
  | .couponQualification => "coupon qualification"
  | .removalComparison => "independent removal comparison"
  | .airCut => "supervised air cut"
  | .referencePart => "reference part and metrology"
  | .prototypeBuild => "prototype build"
  | .loadTest => "prototype load test"

/-- The slots of a setup. -/
def setupSlots (setup : WorkshopSetup) : List (EvidenceSlot × EvidenceReference) :=
  [(.machineCalibration, setup.machine.calibrationEvidence),
    (.wcs, setup.wcs.verificationEvidence),
    (.fixture, setup.fixture.verificationEvidence),
    (.keepouts, setup.keepouts.reviewEvidence)] ++
  (setup.tools.map fun tool => (.tool tool.pocketNumber tool.toolId, tool.measurementEvidence)) ++
  (setup.stock.flatMap fun stock =>
    [(.materialCertificate stock.stockId, stock.materialCertificateEvidence),
      (.stockMeasurement stock.stockId, stock.measurementEvidence)])

/-- The slots of a stage. -/
def stageSlots (statement : WorkshopAttestationStatement) :
    List (EvidenceSlot × EvidenceReference) :=
  match statement.stage, statement.preCut, statement.referencePart, statement.finalWorkshop with
  | .preCut, some evidence, _, _ =>
    [(.couponQualification, evidence.coupons.evidence),
      (.removalComparison, evidence.independentRemovalComparison.evidence),
      (.airCut, evidence.supervisedAirCut.evidence)]
  | .referencePart, _, some part, _ => [(.referencePart, part.evidence)]
  | .finalWorkshop, _, _, some evidence =>
    [(.prototypeBuild, evidence.prototypeBuild.evidence), (.loadTest, evidence.loadTest.evidence)]
  | _, _, _, _ => []

def slotReferences (statement : WorkshopAttestationStatement) :
    List (EvidenceSlot × EvidenceReference) := setupSlots statement.setup ++ stageSlots statement

/-- The verifier goes over the references of all slots under their labels. -/
theorem map_label_slotReferences (statement : WorkshopAttestationStatement) :
    (slotReferences statement).map (fun entry => (entry.1.label, entry.2)) =
      allSetupReferences statement.setup ++ stageReferences statement := by
  have hsetup : (setupSlots statement.setup).map (fun entry => (entry.1.label, entry.2)) =
      allSetupReferences statement.setup := by
    simp only [setupSlots, allSetupReferences, List.map_append, List.map_map, List.map_flatMap]
    rfl
  have hstage : (stageSlots statement).map (fun entry => (entry.1.label, entry.2)) =
      stageReferences statement := by
    unfold stageSlots stageReferences
    cases statement.stage <;> cases statement.preCut <;> cases statement.referencePart <;>
      cases statement.finalWorkshop <;> rfl
  rw [slotReferences, List.map_append, hsetup, hstage]

/-- The start of the label, which tells the kinds of slots apart. -/
def EvidenceSlot.head : EvidenceSlot → String
  | .machineCalibration => "machine cal"
  | .wcs => "WCS verific"
  | .fixture => "fixture ver"
  | .keepouts => "keepout rev"
  | .tool _ _ => "tool measur"
  | .materialCertificate _ => "material ce"
  | .stockMeasurement _ => "stock measu"
  | .couponQualification => "coupon qual"
  | .removalComparison => "independent"
  | .airCut => "supervised "
  | .referencePart => "reference p"
  | .prototypeBuild => "prototype b"
  | .loadTest => "prototype l"

theorem take_append {start rest : String} (h : 11 ≤ start.toList.length) :
    (start ++ rest).toList.take 11 = start.toList.take 11 := by
  rw [String.toList_append, List.take_append_of_le_length h]

theorem take_label (slot : EvidenceSlot) : slot.label.toList.take 11 = slot.head.toList := by
  cases slot with
  | tool pocket toolId =>
    have hstart : "tool measurement ".toList.take 11 = "tool measur".toList := by
      rw [toList_eq_charsOf]
      decide +kernel
    exact (take_append (by decide)).trans hstart
  | materialCertificate stockId =>
    have hstart : "material certificate ".toList.take 11 = "material ce".toList := by
      rw [toList_eq_charsOf]
      decide +kernel
    exact (take_append (by decide)).trans hstart
  | stockMeasurement stockId =>
    have hstart : "stock measurement ".toList.take 11 = "stock measu".toList := by
      rw [toList_eq_charsOf]
      decide +kernel
    exact (take_append (by decide)).trans hstart
  | _ =>
    rw [toList_eq_charsOf]
    decide +kernel

/-- Two slots with one label are the same or two pockets with one tool. -/
theorem slot_of_label {slot slot' : EvidenceSlot} (h : slot.label = slot'.label)
    (hne : slot ≠ slot') : ∃ pocket pocket' toolId,
      slot = .tool pocket toolId ∧ slot' = .tool pocket' toolId := by
  have hhead : slot.head = slot'.head := by
    apply String.toList_injective
    rw [← take_label, ← take_label, h]
  cases slot <;> cases slot' <;> simp only [EvidenceSlot.head] at hhead <;>
    first
    | exact absurd hhead (by decide)
    | exact absurd rfl hne
    | skip
  · next pocket toolId pocket' toolId' =>
    have htool : toolId = toolId' := (String.append_right_inj _).mp h
    exact ⟨pocket, pocket', toolId, rfl, by rw [htool]⟩
  · next stockId stockId' =>
    have hstock : stockId = stockId' := (String.append_right_inj _).mp h
    exact absurd (by rw [hstock]) hne
  · next stockId stockId' =>
    have hstock : stockId = stockId' := (String.append_right_inj _).mp h
    exact absurd (by rw [hstock]) hne

/-! ## Records and their digests -/

section Records

variable {Bytes : Type} (lib : Platform Bytes) (store : EvidenceStore Bytes)

/-- The record with a key. -/
def recordOf (key : EvidenceKey) : Option WorkshopEvidenceRecord := do
  let content ← store.objects.get key
  let raw ← lib.loads content
  lib.recordFields raw

/-- The digests of the attachments of the record that is referenced. -/
def attachmentsOf (reference : EvidenceReference) : List Sha256 :=
  match reference.identity.bind fun identity => recordOf lib store identity.key with
  | some record => record.attachments.map (·.sha256)
  | none => []

/-- The digests that a reference uses: of the record and of its attachments. -/
def digestsOf (reference : EvidenceReference) : List Sha256 :=
  reference.sha256.toList ++ attachmentsOf lib store reference

variable {lib store} {identity identity' : EvidenceIdentity} {observedAt observedAt' : Option Timestamp}
  {content content' : Bytes} {record record' : WorkshopEvidenceRecord}

theorem sha256_of_identity {reference : EvidenceReference}
    (h : reference.identity = some identity) : reference.sha256 = some identity.sha256 := by
  simp only [EvidenceReference.identity, Option.bind_eq_bind, Option.bind_eq_some_iff,
    Option.pure_def, Option.some.injEq] at h
  obtain ⟨_, -, _, -, _, -, _, -, sha256, hsha256, _, -, rfl⟩ := h
  exact hsha256

theorem claimSha256_of_identity {reference : EvidenceReference}
    (h : reference.identity = some identity) :
    reference.claimSha256 = some identity.claimSha256 := by
  simp only [EvidenceReference.identity, Option.bind_eq_bind, Option.bind_eq_some_iff,
    Option.pure_def, Option.some.injEq] at h
  obtain ⟨_, -, _, -, _, -, claim, hclaim, _, -, _, -, rfl⟩ := h
  exact hclaim

/-- What a record that was read again agrees with. -/
structure Loaded (lib : Platform Bytes) (store : EvidenceStore Bytes) (identity : EvidenceIdentity)
    (content : Bytes) (record : WorkshopEvidenceRecord) : Prop where
  object : store.objects.get identity.key = some content
  sha256 : lib.sha256 content = identity.sha256
  parsed : lib.loads content >>= lib.recordFields = some record
  claim : record.claimSha256 = identity.claimSha256

theorem loaded_of_loadRecord [DecidableEq Bytes]
    (h : loadRecord lib store identity observedAt = .ok (content, record)) :
    Loaded lib store identity content record := by
  simp only [loadRecord, parseCanonicalMapping, bind_eq_ok, demand_eq_ok, require_eq_ok,
    Bool.and_eq_true, beq_iff_eq] at h
  obtain ⟨content', hobject, -, -, -, ⟨-, hsha⟩, raw, hraw, record', hrecord, -, -, -, hsame, heq⟩ := h
  obtain ⟨-, -, raw', hloads, -, -, -, -, -, -, -, -, hpure⟩ := hraw
  cases hpure
  cases heq
  exact ⟨hobject, hsha, by rw [hloads]; exact hrecord, hsame.1.2⟩

theorem Loaded.recordOf_eq (h : Loaded lib store identity content record) :
    recordOf lib store identity.key = some record := by
  unfold recordOf
  rw [h.object]
  exact h.parsed

/-- Two references to one record commit to one claim. -/
theorem Loaded.claim_eq_of_key (h : Loaded lib store identity content record)
    (h' : Loaded lib store identity' content' record') (hkey : identity.key = identity'.key) :
    identity.claimSha256 = identity'.claimSha256 := by
  have hrecord : some record = some record' := by
    rw [← h.recordOf_eq, ← h'.recordOf_eq, hkey]
  rw [← h.claim, ← h'.claim, Option.some.inj hrecord]

/-- So do two references with one digest. -/
theorem Loaded.claim_eq_of_sha256 (hsha : Function.Injective lib.sha256)
    (h : Loaded lib store identity content record)
    (h' : Loaded lib store identity' content' record') (hdigest : identity.sha256 = identity'.sha256) :
    identity.claimSha256 = identity'.claimSha256 := by
  have hcontent : content = content' := hsha (by rw [h.sha256, h'.sha256, hdigest])
  have hrecord : some record = some record' := by rw [← h.parsed, ← h'.parsed, hcontent]
  rw [← h.claim, ← h'.claim, Option.some.inj hrecord]

end Records

/-! ## Roles are kept -/

/-- No role changes. -/
structure Keeps (before after : EvidenceState) : Prop where
  key : ∀ {key label}, before.roleByKey.get key = some label →
    after.roleByKey.get key = some label
  digest : ∀ {digest label}, before.roleByDigest.get digest = some label →
    after.roleByDigest.get digest = some label

theorem Keeps.refl (state : EvidenceState) : Keeps state state := ⟨id, id⟩

theorem Keeps.trans {s t u : EvidenceState} (hst : Keeps s t) (htu : Keeps t u) : Keeps s u :=
  ⟨fun h => htu.key (hst.key h), fun h => htu.digest (hst.digest h)⟩

section Filed

variable {Bytes : Type} {lib : Platform Bytes} {store : EvidenceStore Bytes}
  {registry : WorkshopTrustRegistry} {label : String} {identity : EvidenceIdentity}
  {reference : EvidenceReference} {state state' : EvidenceState}

theorem takeRole_ok (h : takeRole label identity state = .ok state') :
    Keeps state state' ∧ state'.verifiedKeys = state.verifiedKeys ∧
      state'.roleByKey.get identity.key = some label ∧
      state'.roleByDigest.get identity.sha256 = some label := by
  simp only [takeRole, bind_eq_ok, require_eq_ok, Bool.and_eq_true, beq_iff_eq] at h
  obtain ⟨-, ⟨hkey, hdigest⟩, heq⟩ := h
  cases heq
  exact ⟨⟨fun h => Dict.get_setDefault_of_some h, fun h => Dict.get_setDefault_of_some h⟩, rfl, hkey,
    hdigest⟩

theorem verifyAttachment_ok {key : EvidenceKey} {attachment : EvidenceAttachment}
    (h : verifyAttachment lib store label key state attachment = .ok state') :
    Keeps state state' ∧ state'.verifiedKeys = state.verifiedKeys ∧
      state'.roleByDigest.get attachment.sha256 = some label := by
  simp only [verifyAttachment, bind_eq_ok, demand_eq_ok, require_eq_ok, beq_iff_eq] at h
  obtain ⟨content, -, -, -, -, hdigest, heq⟩ := h
  split at heq
  · cases heq
    exact ⟨⟨id, fun h => Dict.get_setDefault_of_some h⟩, rfl, hdigest⟩
  · cases heq
    exact ⟨⟨id, fun h => Dict.get_setDefault_of_some h⟩, rfl, hdigest⟩

/-- All attachments of a record are filed under its label. -/
theorem verifyAttachments_ok {key : EvidenceKey} {attachments : List EvidenceAttachment}
    (h : attachments.foldlM (verifyAttachment lib store label key) state = .ok state') :
    Keeps state state' ∧ state'.verifiedKeys = state.verifiedKeys ∧
      ∀ attachment ∈ attachments, state'.roleByDigest.get attachment.sha256 = some label := by
  have hkept : Keeps state state' ∧ state'.verifiedKeys = state.verifiedKeys := by
    refine foldlM_keeps (I := fun s => Keeps state s ∧ s.verifiedKeys = state.verifiedKeys) h
      ⟨Keeps.refl state, rfl⟩ fun s s' attachment _ hturn hs => ?_
    obtain ⟨hkeeps, hkeys, -⟩ := verifyAttachment_ok hturn
    exact ⟨hs.1.trans hkeeps, hkeys.trans hs.2⟩
  refine ⟨hkept.1, hkept.2, fun attachment hattachment => ?_⟩
  exact foldlM_turn (I := fun _ => True)
    (Q := fun a s => s.roleByDigest.get a.sha256 = some label) h trivial
    (fun s s' a _ hturn _ => ⟨trivial, (verifyAttachment_ok hturn).2.2⟩)
    (fun s s' a _ hturn _ b hb => (verifyAttachment_ok hturn).1.digest hb) hattachment

/-- A record and its attachments are filed under a label. -/
def Filed (lib : Platform Bytes) (store : EvidenceStore Bytes) (label : String) (key : EvidenceKey)
    (state : EvidenceState) : Prop :=
  state.roleByKey.get key = some label ∧
    ∀ record, recordOf lib store key = some record →
      ∀ attachment ∈ record.attachments, state.roleByDigest.get attachment.sha256 = some label

theorem Filed.keeps {key : EvidenceKey} (h : Filed lib store label key state)
    (hkeeps : Keeps state state') : Filed lib store label key state' :=
  ⟨hkeeps.key h.1, fun record hrecord attachment hattachment =>
    hkeeps.digest (h.2 record hrecord attachment hattachment)⟩

/-- Every record that was verified is filed. -/
def AllFiled (lib : Platform Bytes) (store : EvidenceStore Bytes) (state : EvidenceState) : Prop :=
  ∀ key ∈ state.verifiedKeys, ∃ label, Filed lib store label key state

theorem AllFiled.keeps (h : AllFiled lib store state) (hkeeps : Keeps state state')
    (hkeys : state'.verifiedKeys = state.verifiedKeys) : AllFiled lib store state' := by
  intro key hkey
  rw [hkeys] at hkey
  obtain ⟨label, hfiled⟩ := h key hkey
  exact ⟨label, hfiled.keeps hkeeps⟩

/-- A reference is settled under its label: its record was read, and the record and all its
    digests are filed. -/
structure Settled (lib : Platform Bytes) (store : EvidenceStore Bytes)
    (entry : String × EvidenceReference) (state : EvidenceState) (identity : EvidenceIdentity) :
    Prop where
  identified : entry.2.identity = some identity
  loaded : ∃ content record, Loaded lib store identity content record
  key : state.roleByKey.get identity.key = some entry.1
  digests : ∀ digest ∈ digestsOf lib store entry.2, state.roleByDigest.get digest = some entry.1

theorem Settled.keeps {entry : String × EvidenceReference}
    (h : Settled lib store entry state identity) (hkeeps : Keeps state state') :
    Settled lib store entry state' identity :=
  ⟨h.identified, h.loaded, hkeeps.key h.key,
    fun digest hdigest => hkeeps.digest (h.digests digest hdigest)⟩

/-- The digests of a record that is filed. -/
theorem digests_of_filed (hidentity : reference.identity = some identity)
    (hfiled : Filed lib store label identity.key state)
    (hdigest : state.roleByDigest.get identity.sha256 = some label) :
    ∀ digest ∈ digestsOf lib store reference, state.roleByDigest.get digest = some label := by
  intro digest hmem
  rw [digestsOf, sha256_of_identity hidentity, Option.toList_some, List.singleton_append,
    List.mem_cons] at hmem
  rcases hmem with rfl | hmem
  · exact hdigest
  · rw [attachmentsOf, hidentity, Option.bind_some] at hmem
    split at hmem
    · next record hrecord =>
      obtain ⟨attachment, hattachment, rfl⟩ := List.mem_map.mp hmem
      exact hfiled.2 record hrecord attachment hattachment
    · cases hmem

section Verify

variable [DecidableEq Bytes]

theorem verifyEvidenceObject_ok
    (h : verifyEvidenceObject lib registry store label reference state = .ok state')
    (hfiled : AllFiled lib store state) :
    AllFiled lib store state' ∧ Keeps state state' ∧
      (reference.status = .verified →
        ∃ identity, Settled lib store (label, reference) state' identity) := by
  unfold verifyEvidenceObject at h
  split at h
  · next hstatus =>
    cases h
    exact ⟨hfiled, Keeps.refl _, fun hverified => absurd hverified hstatus⟩
  · simp only [bind_eq_ok, demand_eq_ok, require_eq_ok] at h
    obtain ⟨identity, hidentity, -, -, -, -, ⟨content, record⟩, hrecord, taken, htaken, h⟩ := h
    have hloaded := loaded_of_loadRecord hrecord
    obtain ⟨hkeeps, hkeys, hrole, hdigest⟩ := takeRole_ok htaken
    split at h
    · -- the record was verified before, and is filed under the same label
      next hseen =>
      cases h
      have htakenFiled := hfiled.keeps hkeeps hkeys
      obtain ⟨label', hfiledKey⟩ := htakenFiled identity.key (by simpa using hseen)
      obtain rfl : label' = label := Option.some.inj (hfiledKey.1.symm.trans hrole)
      exact ⟨htakenFiled, hkeeps, fun _ => ⟨identity, hidentity, ⟨content, record, hloaded⟩, hrole,
        digests_of_filed hidentity hfiledKey hdigest⟩⟩
    · simp only [bind_eq_ok] at h
      obtain ⟨-, -, attached, hattached, heq⟩ := h
      cases heq
      obtain ⟨hkeeps', hkeys', hattachments⟩ := verifyAttachments_ok hattached
      have hkeepsAll : Keeps state attached := hkeeps.trans ⟨hkeeps'.key, hkeeps'.digest⟩
      have hfiledKey : Filed lib store label identity.key attached := by
        refine ⟨hkeeps'.key hrole, fun record' hrecord' => ?_⟩
        rw [hloaded.recordOf_eq] at hrecord'
        cases hrecord'
        exact hattachments
      refine ⟨?_, ⟨hkeepsAll.key, hkeepsAll.digest⟩, fun _ => ⟨identity, hidentity,
        ⟨content, record, hloaded⟩, hfiledKey.1,
        digests_of_filed hidentity hfiledKey (hkeeps'.digest hdigest)⟩⟩
      intro key hkey
      rcases List.mem_cons.mp hkey with rfl | hkey
      · exact ⟨label, hfiledKey⟩
      · exact hfiled.keeps hkeepsAll (hkeys'.trans hkeys) key hkey

theorem verifyReference_ok {entry : String × EvidenceReference}
    (h : verifyReference lib registry store state entry = .ok state')
    (hfiled : AllFiled lib store state) :
    AllFiled lib store state' ∧ Keeps state state' ∧
      (entry.2.status = .verified → ∃ identity, Settled lib store entry state' identity) := by
  simp only [verifyReference, bind_eq_ok, require_eq_ok] at h
  obtain ⟨next, hnext, -, -, heq⟩ := h
  cases heq
  exact verifyEvidenceObject_ok hnext hfiled

/-- After the references of a statement all of them are settled. -/
theorem verifyReferences_ok {entries : List (String × EvidenceReference)}
    (h : entries.foldlM (verifyReference lib registry store) state = .ok state')
    (hfiled : AllFiled lib store state) :
    AllFiled lib store state' ∧ Keeps state state' ∧
      ∀ entry ∈ entries, entry.2.status = .verified →
        ∃ identity, Settled lib store entry state' identity := by
  have hkept : AllFiled lib store state' ∧ Keeps state state' := by
    refine foldlM_keeps (I := fun s => AllFiled lib store s ∧ Keeps state s) h
      ⟨hfiled, Keeps.refl state⟩ fun s s' entry _ hturn hs => ?_
    obtain ⟨hfiled', hkeeps, -⟩ := verifyReference_ok hturn hs.1
    exact ⟨hfiled', hs.2.trans hkeeps⟩
  refine ⟨hkept.1, hkept.2, fun entry hentry => ?_⟩
  exact foldlM_turn (I := AllFiled lib store)
    (Q := fun e s => e.2.status = .verified → ∃ identity, Settled lib store e s identity) h hfiled
    (fun s s' e _ hturn hs => ⟨(verifyReference_ok hturn hs).1, (verifyReference_ok hturn hs).2.2⟩)
    (fun s s' e _ hturn hs e' he' hverified => by
      obtain ⟨identity, hsettled⟩ := he' hverified
      exact ⟨identity, hsettled.keeps (verifyReference_ok hturn hs).2.1⟩) hentry

end Verify

end Filed

end Custombuild.Workshop
