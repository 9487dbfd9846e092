/-
  What the database alone guarantees about the registry row over any sequence of calls of
  `custombuild_joint_retention_install_registry`.  The shape check compares accessors with
  `<>`, and an absent key makes such a comparison NULL; a registry with four keys of which one
  is misnamed therefore passes it.  When every call names the registry fields, the stored
  registry is well shaped and no revocation is ever dropped.
-/
import Mathlib.Data.List.Perm.Subperm
import Custombuild.Lib.Along
import Custombuild.Retention.InstallRegistry

namespace Custombuild.Retention

open Custombuild.Lib Custombuild.Lib.Sql

/-! ## What a successful call does -/

/-- The row a successful, changing call writes. -/
def storedRow (state : RegistryState) (call : InstallCall) : RegistryState :=
  ⟨state.transitionEpoch + 1, call.sha256, call.canonicalJson, call.registry,
    call.operatorReferenceSha256⟩

theorem storeRegistry_eq_ok {state next : RegistryState} {call : InstallCall}
    {candidates : List Json} {epoch : Nat} {changed : Bool}
    (h : storeRegistry state call candidates = .ok (next, epoch, changed)) :
    next = storedRow state call ∧ epoch = state.transitionEpoch + 1 ∧ changed = true := by
  unfold storeRegistry at h
  simp only [bind_eq_ok, pure, Except.pure, Except.ok.injEq, Prod.mk.injEq] at h
  obtain ⟨_, -, _, -, rfl, rfl, rfl⟩ := h
  exact ⟨rfl, rfl, rfl⟩

/-- Everything a successful call can do: replay the activated registry, activate a first one,
    or advance the activated one. -/
theorem installRegistry_cases {db : InputFunctions} {state next : RegistryState}
    {call : InstallCall} {epoch : Nat} {changed : Bool}
    (h : installRegistry db state call = .ok (next, epoch, changed)) :
    ∃ candidates, checkArguments db call = .ok candidates ∧
      ((state.transitionEpoch = 0 ∧ initialStatePartial state = false ∧ changed = true ∧
          epoch = state.transitionEpoch + 1 ∧ next = storedRow state call) ∨
        (state.transitionEpoch ≠ 0 ∧
          strict (fun a b => a == b) state.registrySha256 call.sha256 = some true ∧
          ne state.registryCanonicalJson call.canonicalJson ≠ some true ∧
          changed = false ∧ epoch = state.transitionEpoch ∧ next = state) ∨
        (state.transitionEpoch ≠ 0 ∧ checkTransition db state call candidates = .ok () ∧
          changed = true ∧ epoch = state.transitionEpoch + 1 ∧ next = storedRow state call)) := by
  unfold installRegistry at h
  rw [bind_eq_ok] at h
  obtain ⟨candidates, hargs, h⟩ := h
  refine ⟨candidates, hargs, ?_⟩
  split at h
  case isTrue hzero =>
    simp only [bind_eq_ok, refuse_eq_ok] at h
    obtain ⟨_, hpartial, hstore⟩ := h
    obtain ⟨hnext, hepoch, hchanged⟩ := storeRegistry_eq_ok hstore
    exact .inl ⟨hzero, by simpa using hpartial, hchanged, hepoch, hnext⟩
  case isFalse hzero =>
    simp only [bind_eq_ok, refuse_eq_ok] at h
    obtain ⟨_, -, h⟩ := h
    split at h
    case isTrue hsame =>
      simp only [bind_eq_ok, refuse_eq_ok, pure, Except.pure, Except.ok.injEq,
        Prod.mk.injEq, Ne, or_eq_true, not_or] at h
      obtain ⟨_, hbytes, hnext, hepoch, hchanged⟩ := h
      exact .inr (.inl ⟨hzero, hsame, hbytes.1, hchanged.symm, hepoch.symm, hnext.symm⟩)
    case isFalse hsame =>
      simp only [bind_eq_ok] at h
      obtain ⟨_, hcheck, hstore⟩ := h
      obtain ⟨hnext, hepoch, hchanged⟩ := storeRegistry_eq_ok hstore
      exact .inr (.inr ⟨hzero, hcheck, hchanged, hepoch, hnext⟩)

theorem installStep_of_changed {db : InputFunctions} {state : RegistryState} {call : InstallCall}
    (h : okAnd (installRegistry db state call) (fun r => r.2.2) = true) :
    installStep db call state = storedRow state call := by
  obtain ⟨⟨next, epoch, changed⟩, hcall, hchanged⟩ := exists_of_okAnd h
  obtain ⟨candidates, -, hcases⟩ := installRegistry_cases hcall
  rw [installStep, hcall]
  rcases hcases with ⟨-, -, -, -, hnext⟩ | ⟨-, -, -, hfalse, -⟩ | ⟨-, -, -, -, hnext⟩
  · exact hnext
  · rw [hfalse] at hchanged
    cases hchanged
  · exact hnext

/-! ## Shape of an accepted registry -/

def registryFields : List String :=
  ["schema_version", "issuers", "revoked_statement_sha256", "revoked_system_versions"]

def arrayFields : List String :=
  ["issuers", "revoked_statement_sha256", "revoked_system_versions"]

def revocationFields : List String := ["revoked_statement_sha256", "revoked_system_versions"]

/-- Exactly the four registry fields, with the issuers and both revocation fields arrays. -/
def HasRegistryFields (registry : Json) : Prop :=
  registry.keys.Perm registryFields ∧
    ∀ name ∈ arrayFields, ∃ items, registry.get name = some (.arr items)

/-- The arguments a changing call gets past the shape check: an object with four keys whose
    registry fields, where present, are arrays. -/
theorem checkArguments_shape {db : InputFunctions} {call : InstallCall} {candidates : List Json}
    (h : checkArguments db call = .ok candidates) :
    ∃ registry fields, call.registry = some registry ∧ registry.value = .obj fields ∧
      fields.length = 4 ∧ ∀ name ∈ arrayFields,
        registry.value.get name = none ∨ ∃ items, registry.value.get name = some (.arr items) := by
  simp only [checkArguments, bind_eq_ok] at h
  obtain ⟨_, hshape, -⟩ := h
  rw [registryShapeInvalid, refuse_orAll_eq_ok] at hshape
  simp only [List.forall_mem_cons] at hshape
  obtain ⟨hnull, hobject, -, hissuers, hstatements, hsystems, hcount, -⟩ := hshape
  cases hreg : call.registry with
  | none => simp [hreg, isNull] at hnull
  | some registry =>
    simp only [hreg, Option.map_some, typeOf, field, Option.bind_some] at *
    have hname : registry.value.typeName = "object" := by simpa [ne] using hobject
    obtain ⟨fields, hfields⟩ := Json.typeName_eq_object.mp hname
    have harray : ∀ name, ne (Option.map Json.typeName (registry.value.get name)) (some "array")
        ≠ some true → registry.value.get name = none ∨
          ∃ items, registry.value.get name = some (.arr items) := by
      intro name hne
      rcases ne_ne_true.mp hne with hnone | harr
      · exact .inl (by simpa using hnone)
      · obtain ⟨value, hvalue, htype⟩ := Option.map_eq_some_iff.mp harr
        obtain ⟨items, rfl⟩ := Json.typeName_eq_array.mp htype
        exact .inr ⟨items, hvalue⟩
    refine ⟨registry, fields, rfl, hfields, ?_, ?_⟩
    · simpa [keyCount, hfields, Json.keys] using hcount
    · simp only [arrayFields, List.forall_mem_cons]
      exact ⟨harray _ hissuers, harray _ hstatements, harray _ hsystems, by simp⟩

/-- A four-key registry argument carries the names of the four registry fields. -/
def InstallCall.NamesRegistryFields (call : InstallCall) : Prop :=
  ∀ registry fields, call.registry = some registry → registry.value = .obj fields →
    fields.length = 4 → ∀ name ∈ registryFields, name ∈ fields.map Prod.fst

theorem arrayFields_subset {name : String} (h : name ∈ arrayFields) : name ∈ registryFields :=
  List.mem_cons_of_mem _ h

theorem hasRegistryFields_of_named {db : InputFunctions} {call : InstallCall}
    {candidates : List Json} (h : checkArguments db call = .ok candidates)
    (hnames : call.NamesRegistryFields) {registry : Jsonb} (hreg : call.registry = some registry) :
    HasRegistryFields registry.value := by
  obtain ⟨registry', fields, hreg', hfields, hlength, harrays⟩ := checkArguments_shape h
  obtain rfl : registry = registry' := Option.some.inj (hreg.symm.trans hreg')
  have hmem := hnames registry fields hreg hfields hlength
  have hkeys : registry.value.keys = fields.map Prod.fst := by rw [hfields, Json.keys]
  refine ⟨?_, ?_⟩
  · -- four distinct names among four keys are all of them
    have hsub : registryFields.Subperm registry.value.keys := by
      rw [hkeys]
      exact List.subperm_of_subset (by decide) hmem
    refine (hsub.perm_of_length_le ?_).symm
    rw [hkeys, List.length_map, hlength]
    decide
  · intro name hname
    have hkey : name ∈ registry.value.keys := by
      rw [hkeys]
      exact hmem name (arrayFields_subset hname)
    obtain ⟨value, hvalue⟩ := Json.get_isSome_of_mem_keys hkey
    rcases harrays name hname with hnone | harr
    · rw [hnone] at hvalue
      cases hvalue
    · exact harr

/-! ## Revocations -/

/-- The stored registry lists `entry` in a revocation field. -/
def Listed (name entry : String) (state : RegistryState) : Prop :=
  ∃ registry items, state.normalizedRegistryJson = some registry ∧
    registry.value.get name = some (.arr items) ∧ .str entry ∈ items

theorem checkTransition_revocations {db : InputFunctions} {state : RegistryState}
    {call : InstallCall} {candidates : List Json}
    (h : checkTransition db state call candidates = .ok ()) {name : String}
    (hname : name ∈ revocationFields) :
    revocationsKept (call.registry.map Jsonb.value) (storedJson state) name ≠ some false := by
  simp only [checkTransition, bind_eq_ok] at h
  obtain ⟨_, -, _, hkept, -⟩ := h
  rw [refuse_eq_ok, Ne, or_eq_true, not_or] at hkept
  have hnot : ∀ c, ¬Sql.not c = some true → c ≠ some false := by
    intro c hc hfalse
    exact hc (by simp [hfalse, Sql.not])
  simp only [revocationFields, List.mem_cons, List.not_mem_nil, or_false] at hname
  rcases hname with rfl | rfl
  · exact hnot _ hkept.1
  · exact hnot _ hkept.2

/-- A transition between two registries whose revocation field is an array keeps the strings
    listed in it. -/
theorem listed_storedRow {db : InputFunctions} {state : RegistryState} {call : InstallCall}
    {candidates : List Json} (h : checkTransition db state call candidates = .ok ())
    {name entry : String} (hname : name ∈ revocationFields) {registry : Jsonb}
    {new : List Json} (hreg : call.registry = some registry)
    (hnew : registry.value.get name = some (.arr new)) (hlisted : Listed name entry state) :
    Listed name entry (storedRow state call) := by
  obtain ⟨stored, old, hstored, hold, hentry⟩ := hlisted
  have hkept := checkTransition_revocations h hname
  simp only [revocationsKept, field, storedJson, hreg, hstored, Option.map_some,
    Option.bind_some, hnew, hold, strict_some, Ne, Option.some.injEq, Bool.not_eq_false] at hkept
  exact ⟨registry, new, hreg, hnew, Json.mem_of_contains hkept hentry⟩

/-! ## Runs -/

/-- The row after the first `k` calls. -/
def stateAfter (db : InputFunctions) (calls : List InstallCall) (k : Nat) : RegistryState :=
  runAll (installStep db) .initial (calls.take k)

/-- Every stored registry has the registry fields, and what it lists as revoked stays listed. -/
def KeepsHighWater (db : InputFunctions) (calls : List InstallCall) : Prop :=
  (∀ k registry, (stateAfter db calls k).normalizedRegistryJson = some registry →
      HasRegistryFields registry.value) ∧
    ∀ name ∈ revocationFields, ∀ entry j k, j ≤ k →
      Listed name entry (stateAfter db calls j) → Listed name entry (stateAfter db calls k)

def WellShaped (state : RegistryState) : Prop :=
  ∀ registry, state.normalizedRegistryJson = some registry → HasRegistryFields registry.value

theorem installStep_wellShaped {db : InputFunctions} {call : InstallCall}
    (hnames : call.NamesRegistryFields) {state : RegistryState} (hshape : WellShaped state) :
    WellShaped (installStep db call state) := by
  unfold installStep
  split
  case h_2 => exact hshape
  case h_1 next epoch changed hcall =>
    obtain ⟨candidates, hargs, hcases⟩ := installRegistry_cases hcall
    have hstored : WellShaped (storedRow state call) := fun registry hreg =>
      hasRegistryFields_of_named hargs hnames hreg
    rcases hcases with ⟨-, -, -, -, rfl⟩ | ⟨-, -, -, -, -, rfl⟩ | ⟨-, -, -, -, rfl⟩
    · exact hstored
    · exact hshape
    · exact hstored

theorem installStep_listed {db : InputFunctions} {call : InstallCall}
    (hnames : call.NamesRegistryFields) {state : RegistryState} {name entry : String}
    (hname : name ∈ revocationFields) (hlisted : Listed name entry state) :
    Listed name entry (installStep db call state) := by
  unfold installStep
  split
  case h_2 => exact hlisted
  case h_1 next epoch changed hcall =>
    obtain ⟨candidates, hargs, hcases⟩ := installRegistry_cases hcall
    rcases hcases with ⟨-, hpartial, -, -, rfl⟩ | ⟨-, -, -, -, -, rfl⟩ | ⟨-, hcheck, -, -, rfl⟩
    · -- the first activation starts from a row that lists nothing
      obtain ⟨stored, -, hstored, -⟩ := hlisted
      simp [initialStatePartial, hstored] at hpartial
    · exact hlisted
    · obtain ⟨registry, fields, hreg, -⟩ := checkArguments_shape hargs
      have hfields := hasRegistryFields_of_named hargs hnames hreg
      obtain ⟨new, hnew⟩ := hfields.2 name (List.mem_cons_of_mem _ hname)
      exact listed_storedRow hcheck hname hreg hnew hlisted

theorem stateAfter_invariant {db : InputFunctions} {I : RegistryState → Prop}
    {calls : List InstallCall} (hinitial : I .initial)
    (hstep : ∀ call ∈ calls, ∀ state, I state → I (installStep db call state)) (k : Nat) :
    I (stateAfter db calls k) :=
  (along_of_invariant (R := fun _ _ _ => True) hinitial fun state hI call hcall =>
    ⟨trivial, hstep call (List.mem_of_mem_take hcall) state hI⟩).2

/-- The row after `k` calls is the row after `j` of them followed by the rest. -/
theorem stateAfter_split (db : InputFunctions) (calls : List InstallCall) {j k : Nat}
    (hjk : j ≤ k) :
    stateAfter db calls k =
      runAll (installStep db) (stateAfter db calls j) ((calls.take k).drop j) := by
  unfold stateAfter
  rw [← runAll_append]
  congr 1
  have hearlier : calls.take j = (calls.take k).take j := by
    rw [List.take_take, Nat.min_eq_left hjk]
  rw [hearlier, List.take_append_drop]

theorem runAll_listed {db : InputFunctions} {name entry : String}
    (hname : name ∈ revocationFields) {calls : List InstallCall} {state : RegistryState}
    (hnames : ∀ call ∈ calls, call.NamesRegistryFields) (hlisted : Listed name entry state) :
    Listed name entry (runAll (installStep db) state calls) :=
  (along_of_invariant (R := fun _ _ _ => True) hlisted fun _ hI call hcall =>
    ⟨trivial, installStep_listed (hnames call hcall) hname hI⟩).2

/-- The database keeps the high-water mark over every sequence of calls whose four-key
    registries are spelled with the registry's own field names; and a call that is not spelled
    so either fails or stores a registry that lacks a field. -/
theorem high_water_of_named_fields (db : InputFunctions) :
    (∀ calls : List InstallCall, (∀ call ∈ calls, call.NamesRegistryFields) →
      KeepsHighWater db calls) ∧
    ∀ (state next : RegistryState) (call : InstallCall) (epoch : Nat),
      ¬call.NamesRegistryFields → installRegistry db state call = .ok (next, epoch, true) →
      ¬WellShaped next := by
  refine ⟨fun calls hnames => ⟨?_, ?_⟩, ?_⟩
  · intro k
    exact stateAfter_invariant (I := WellShaped) (fun registry h => by cases h)
      (fun call hcall state hstate => installStep_wellShaped (hnames call hcall) hstate) k
  · intro name hname entry j k hjk hlisted
    rw [stateAfter_split db calls hjk]
    refine runAll_listed hname (fun call hcall => hnames call ?_) hlisted
    exact List.mem_of_mem_take (List.mem_of_mem_drop hcall)
  · intro state next call epoch hmissing hcall hshape
    obtain ⟨candidates, hargs, hcases⟩ := installRegistry_cases hcall
    have hnext : next = storedRow state call := by
      rcases hcases with ⟨-, -, -, -, h⟩ | ⟨-, -, -, hchanged, -⟩ | ⟨-, -, -, -, h⟩
      · exact h
      · cases hchanged
      · exact h
    apply hmissing
    intro registry fields hreg hfields _ name hname
    have hkeys := (hshape registry (by rw [hnext]; exact hreg)).1
    rw [hfields, Json.keys] at hkeys
    exact hkeys.mem_iff.mpr hname

/-! ## A revocation dropped by a misnamed field -/

namespace DroppedRevocation

def digest : String := "e3b0c44298fc1c149afbf4c8996fb92427ae41e4649b934ca495991b7852b855"

def revoking : Jsonb where
  value := .obj [
    ("issuers", .arr []),
    ("schema_version", .str registrySchemaVersion),
    ("revoked_system_versions", .arr []),
    ("revoked_statement_sha256", .arr [.str digest])]
  wellFormed := by decide +kernel

/-- Four keys, with `revoked_statements` where `revoked_statement_sha256` belongs. -/
def misnamed : Jsonb where
  value := .obj [
    ("issuers", .arr []),
    ("schema_version", .str registrySchemaVersion),
    ("revoked_statements", .arr []),
    ("revoked_system_versions", .arr [])]
  wellFormed := by decide +kernel

/-- The casts of the two documents below, as PostgreSQL makes them. -/
def db : InputFunctions where
  jsonb text := if text = revoking.value.render then some revoking
    else if text = misnamed.value.render then some misnamed else none
  timestamptz _ := none

def sha256A : String := "aaaaaaaaaaaaaaaaaaaaaaaaaaaaaaaaaaaaaaaaaaaaaaaaaaaaaaaaaaaaaaaa"

def sha256B : String := "bbbbbbbbbbbbbbbbbbbbbbbbbbbbbbbbbbbbbbbbbbbbbbbbbbbbbbbbbbbbbbbb"

def first : InstallCall :=
  ⟨some revoking, some revoking.value.render, some sha256A, some sha256A⟩

def second : InstallCall :=
  ⟨some misnamed, some misnamed.value.render, some sha256B, some sha256A⟩

theorem first_changes : okAnd (installRegistry db .initial first) (fun r => r.2.2) = true := by
  decide +kernel

theorem second_changes :
    okAnd (installRegistry db (storedRow .initial first) second) (fun r => r.2.2) = true := by
  decide +kernel

theorem stateAfter_one : stateAfter db [first, second] 1 = storedRow .initial first := by
  rw [stateAfter, List.take_succ_cons, runAll_cons, installStep_of_changed first_changes,
    List.take_zero, runAll_nil]

theorem stateAfter_two :
    stateAfter db [first, second] 2 = storedRow (storedRow .initial first) second := by
  rw [stateAfter, List.take_succ_cons, runAll_cons, installStep_of_changed first_changes,
    List.take_succ_cons, runAll_cons, installStep_of_changed second_changes, List.take_zero,
    runAll_nil]

end DroppedRevocation

open DroppedRevocation in
/-- Revoke a statement, then install a registry with a misnamed field: the second call is
    accepted, and the statement is no longer revoked. -/
theorem not_keeps_high_water_misnamed : ¬KeepsHighWater db [first, second] := by
  rintro ⟨-, hkeeps⟩
  have hlisted : Listed "revoked_statement_sha256" digest (stateAfter db [first, second] 1) := by
    rw [stateAfter_one]
    exact ⟨revoking, [.str digest], rfl, rfl, by simp⟩
  have hdropped := hkeeps _ (by decide) digest 1 2 (by decide) hlisted
  rw [stateAfter_two] at hdropped
  obtain ⟨registry, items, hreg, hitems, -⟩ := hdropped
  obtain rfl : misnamed = registry := Option.some.inj hreg
  have hnone : misnamed.value.get "revoked_statement_sha256" = none := rfl
  rw [hnone] at hitems
  cases hitems

open DroppedRevocation in
/-- A first activation with all four fields, followed by a replay of it. -/
theorem high_water_of_named_fields_replay :
    (∀ call ∈ [first, first], call.NamesRegistryFields) ∧ KeepsHighWater db [first, first] := by
  have hnames : ∀ call ∈ [first, first], call.NamesRegistryFields := by
    intro call hcall registry fields hreg hfields _ name hname
    obtain rfl : call = first := by simpa using hcall
    obtain rfl : revoking = registry := Option.some.inj hreg
    obtain rfl := Json.obj.inj hfields
    exact (show ∀ name ∈ registryFields, name ∈ revoking.value.keys by decide) name hname
  exact ⟨hnames, (high_water_of_named_fields db).1 _ hnames⟩

end Custombuild.Retention
