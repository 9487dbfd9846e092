/-
  The machine profile and its bytes determine each other.

  A document that has a text has distinct names and integers within the limit, so that every
  field of the record is found again under its name; reading a profile inverts writing it field
  by field (`readProfile_fields`).  What `from_json` accepts it has compared with `to_json`.
-/
import Custombuild.Postprocessors.ProfileCodec

namespace Custombuild.Postprocessors.ProfileCodec

open Custombuild.Lib Custombuild.Cam

theorem ok_bind {α β : Type} (a : α) (next : α → Except String β) :
    (Except.ok a >>= next) = next a := rfl

theorem require_of_true (message : String) : require true message = .ok () := rfl

/-! ## Records are read back -/

theorem get_of_mem {fields : List (String × Json)} (hkeys : (fields.map Prod.fst).Nodup)
    {key : String} {value : Json} (h : (key, value) ∈ fields) :
    (Json.obj fields).get key = some value := by
  unfold Json.get
  cases hfind : fields.find? fun field => field.1 == key with
  | none => exact absurd (List.find?_eq_none.mp hfind _ h) (by simp)
  | some field =>
    have hkey : field.1 = key := by simpa using List.find?_some hfind
    have hsame := List.inj_on_of_nodup_map hkeys (List.mem_of_find?_eq_some hfind) h hkey
    simp only [hfind, Option.map_some, hsame]

theorem printable_of_mem_fields : ∀ {fields : List (String × Json)},
    JsonText.printableFields fields = true → ∀ {key : String} {value : Json},
      (key, value) ∈ fields → JsonText.printable value = true
  | [], _, _, _, h => absurd h List.not_mem_nil
  | (name, first) :: fields, hprint, key, value, h => by
    rw [JsonText.printableFields, Bool.and_eq_true] at hprint
    rcases List.mem_cons.mp h with hsame | hmem
    · cases hsame
      exact hprint.1
    · exact printable_of_mem_fields hprint.2 hmem

theorem printable_of_mem_items : ∀ {items : List Json}, JsonText.printableItems items = true →
    ∀ {item : Json}, item ∈ items → JsonText.printable item = true
  | [], _, _, h => absurd h List.not_mem_nil
  | first :: items, hprint, item, h => by
    rw [JsonText.printableItems, Bool.and_eq_true] at hprint
    rcases List.mem_cons.mp h with rfl | hmem
    · exact hprint.1
    · exact printable_of_mem_items hprint.2 hmem

section Records

variable {fields : List (String × Json)} (h : JsonText.printable (record fields) = true)

include h

/-- A record that has a text gives each of its fields. -/
theorem get_record {key : String} {value : Json} (hmem : (key, value) ∈ fields) :
    (record fields).get key = some value := by
  rw [record, JsonText.printable, Bool.and_eq_true, decide_eq_true_eq] at h
  exact get_of_mem h.1 (mem_sortBy.mpr hmem)

theorem printable_field {key : String} {value : Json} (hmem : (key, value) ∈ fields) :
    JsonText.printable value = true := by
  rw [record, JsonText.printable, Bool.and_eq_true] at h
  exact printable_of_mem_fields h.2 (mem_sortBy.mpr hmem)

theorem jsonString_record {key value : String} (hmem : (key, .str value) ∈ fields) :
    jsonString (record fields) key = .ok value := by
  rw [jsonString, get_record h hmem]

theorem jsonInt_record {key : String} {value : Int} (hmem : (key, .num value 0) ∈ fields) :
    jsonInt (record fields) key = .ok value := by
  rw [jsonInt, get_record h hmem]
  rfl

theorem jsonBool_record {key : String} {value : Bool} (hmem : (key, .bool value) ∈ fields) :
    jsonBool (record fields) key = .ok value := by
  rw [jsonBool, get_record h hmem]

theorem jsonArray_record {key message : String} {items : List Json}
    (hmem : (key, .arr items) ∈ fields) : jsonArray (record fields) key message = .ok items := by
  rw [jsonArray, get_record h hmem]

end Records

theorem hasKeys_record {fields : List (String × Json)} {expected : List String}
    (h : fields.map Prod.fst = expected) : hasKeys (record fields) expected = true := by
  rw [record, hasKeys, Bool.and_eq_true, List.all_eq_true, List.all_eq_true]
  constructor
  · intro key hkey
    obtain ⟨field, hfield, rfl⟩ := List.mem_map.mp hkey
    rw [List.contains_iff_mem, ← h]
    exact List.mem_map_of_mem (mem_sortBy.mp hfield)
  · intro key hkey
    rw [← h] at hkey
    obtain ⟨field, hfield, rfl⟩ := List.mem_map.mp hkey
    rw [List.contains_iff_mem]
    exact List.mem_map_of_mem (mem_sortBy.mpr hfield)

/-- Reading what was written gives every item back. -/
theorem collect_map_ok {α β : Type} {read : β → Except String α} {write : α → β} :
    ∀ {l : List α}, (∀ a ∈ l, read (write a) = .ok a) → collect read (l.map write) = .ok l
  | [], _ => rfl
  | a :: l, h => by
    have ih := collect_map_ok fun b hb => h b (List.mem_cons_of_mem _ hb)
    rw [List.map_cons, collect, h a List.mem_cons_self, ih]
    rfl

theorem collect_zipIdx_ok {α β : Type} {read : β → Nat → Except String α} {write : α → β} :
    ∀ {l : List α} (n : Nat), (∀ a ∈ l, ∀ i, read (write a) i = .ok a) →
      collect (fun item => read item.1 item.2) ((l.map write).zipIdx n) = .ok l
  | [], _, _ => rfl
  | a :: l, n, h => by
    have ih := collect_zipIdx_ok (n + 1) fun b hb => h b (List.mem_cons_of_mem _ hb)
    rw [List.map_cons, List.zipIdx_cons, collect, h a List.mem_cons_self n, ih]
    rfl

/-! ## Tables are read back -/

namespace FieldTable

variable {ι α : Type} {table : FieldTable ι}

theorem mem_fields (value : ι → Json) (i : ι) : (table.key i, value i) ∈ table.fields value :=
  List.mem_map_of_mem (table.complete i)

theorem map_fst_fields (value : ι → Json) : (table.fields value).map Prod.fst = table.keys := by
  unfold fields keys
  rw [List.map_map]
  rfl

theorem read_ok {one : String → Except String α} {value : ι → α}
    (h : ∀ i, one (table.key i) = .ok (value i)) (absent : α) :
    table.read one absent = .ok value := by
  unfold read
  have hall : forEach (fun i => (one (table.key i)).map fun _ => ()) table.all = .ok () := by
    rw [forEach_eq_ok]
    intro i _
    rw [h i]
    rfl
  have hvalue : (fun i => (one (table.key i)).toOption.getD absent) = value := by
    funext i
    rw [h i]
    rfl
  rw [hall, ← hvalue]
  rfl

end FieldTable

/-! ## The parts of a profile are read back -/

theorem readSetting_document {item : RuntimeSetting}
    (h : JsonText.printable item.document = true) : readSetting item.document = .ok item := by
  unfold RuntimeSetting.document at h ⊢
  have hkeys : hasKeys (record [("name", .str item.name), ("value", item.value)])
      ["name", "value"] = true := hasKeys_record rfl
  unfold readSetting
  rw [hkeys, jsonString_record h List.mem_cons_self,
    get_record h (List.mem_cons_of_mem _ List.mem_cons_self)]
  rfl

theorem readEntry_document {entry : RuntimeInventoryEntry} (key : String)
    (h : JsonText.printable entry.document = true) : readEntry key entry.document = .ok entry := by
  unfold RuntimeInventoryEntry.document at h ⊢
  have hkeys : hasKeys (record [("name", .str entry.name), ("sha256", .str entry.sha256)])
      ["name", "sha256"] = true := hasKeys_record rfl
  unfold readEntry
  rw [hkeys, jsonString_record h List.mem_cons_self,
    jsonString_record h (List.mem_cons_of_mem _ List.mem_cons_self)]
  rfl

theorem makeOffset_self (offset : WCSOffset) :
    makeOffset offset.wcs offset.machineX0Um offset.machineY0Um offset.machineZ0Um
      offset.machineXyRotationMdeg = .ok offset := by
  unfold makeOffset
  rw [dif_pos offset.known, dif_pos offset.unrotated]

theorem parseWcsOffset_document {offset : WCSOffset}
    (h : JsonText.printable offset.document = true) (index : Nat) :
    parseWcsOffset offset.document index = .ok offset := by
  have hkeys : hasKeys offset.document ["wcs", "machine_x0_um", "machine_y0_um", "machine_z0_um",
      "machine_xy_rotation_mdeg"] = true := hasKeys_record rfl
  have hwcs : jsonString offset.document "wcs" = .ok offset.wcs :=
    jsonString_record h List.mem_cons_self
  have hx : jsonInt offset.document "machine_x0_um" = .ok offset.machineX0Um :=
    jsonInt_record h (by simp)
  have hy : jsonInt offset.document "machine_y0_um" = .ok offset.machineY0Um :=
    jsonInt_record h (by simp)
  have hz : jsonInt offset.document "machine_z0_um" = .ok offset.machineZ0Um :=
    jsonInt_record h (by simp)
  have hrotation : jsonInt offset.document "machine_xy_rotation_mdeg" =
      .ok offset.machineXyRotationMdeg := jsonInt_record h (by simp)
  have hobject : isObject offset.document = true := rfl
  unfold parseWcsOffset
  rw [hobject, hkeys, hwcs, hx, hy, hz, hrotation]
  exact makeOffset_self offset

theorem makeContract_self {oracleBuild : String} (c : RuntimeContract oracleBuild) :
    makeContract oracleBuild c.toRuntimeContractFields = .ok c := by
  unfold makeContract
  split
  · rename_i message h
    rw [c.valid] at h
    cases h
  · rfl

theorem makeProfile_self {oracleBuild : String} (p : MachineProfile oracleBuild) :
    makeProfile p.toProfileFields = .ok p := by
  unfold makeProfile
  split
  · rename_i message h
    rw [p.valid] at h
    cases h
  · rfl

section Contract

variable {oracleBuild : String} (c : RuntimeContract oracleBuild)
variable (h : JsonText.printable c.document = true)

include h

theorem contractString_document {key value : String} (hmem : (key, .str value) ∈ c.fields) :
    contractString c.document key = .ok value := by
  unfold contractString
  rw [RuntimeContractFields.document, jsonString_record h hmem]
  rfl

theorem settings_printable {item : RuntimeSetting} (hitem : item ∈ c.effectiveSettings) :
    JsonText.printable item.document = true := by
  have hfield : ("effective_settings",
      Json.arr (c.effectiveSettings.map RuntimeSetting.document)) ∈ c.fields := by
    simp [RuntimeContractFields.fields]
  have harray := printable_field h hfield
  rw [JsonText.printable] at harray
  exact printable_of_mem_items harray (List.mem_map_of_mem hitem)

theorem components_printable {entry : RuntimeInventoryEntry} (hentry : entry ∈ c.components) :
    JsonText.printable entry.document = true := by
  have hfield : ("components",
      Json.arr (c.components.map RuntimeInventoryEntry.document)) ∈ c.fields := by
    simp [RuntimeContractFields.fields]
  have harray := printable_field h hfield
  rw [JsonText.printable] at harray
  exact printable_of_mem_items harray (List.mem_map_of_mem hentry)

theorem inputs_printable {entry : RuntimeInventoryEntry}
    (hentry : entry ∈ c.configurationInputs) : JsonText.printable entry.document = true := by
  have hfield : ("configuration_inputs",
      Json.arr (c.configurationInputs.map RuntimeInventoryEntry.document)) ∈ c.fields := by
    simp [RuntimeContractFields.fields]
  have harray := printable_field h hfield
  rw [JsonText.printable] at harray
  exact printable_of_mem_items harray (List.mem_map_of_mem hentry)

/-- A contract is read back from its document. -/
theorem readContract_document : readContract oracleBuild c.document = .ok c := by
  have hkeys : hasKeys c.document runtimeContractKeys = true := hasKeys_record rfl
  have hschema : contractString c.document "schema_version" = .ok c.schemaVersion :=
    contractString_document c h (by simp [RuntimeContractFields.fields])
  have hbuild : contractString c.document "oracle_build_sha256" = .ok c.oracleBuildSha256 :=
    contractString_document c h (by simp [RuntimeContractFields.fields])
  have hpackage : contractString c.document "installed_package_version" =
      .ok c.installedPackageVersion :=
    contractString_document c h (by simp [RuntimeContractFields.fields])
  have hid : contractString c.document "evidence_id" = .ok c.evidenceId :=
    contractString_document c h (by simp [RuntimeContractFields.fields])
  have hversion : contractString c.document "evidence_version" = .ok c.evidenceVersion :=
    contractString_document c h (by simp [RuntimeContractFields.fields])
  have hdigest : contractString c.document "evidence_sha256" = .ok c.evidenceSha256 :=
    contractString_document c h (by simp [RuntimeContractFields.fields])
  have hsettings (message : String) : jsonArray c.document "effective_settings" message =
      .ok (c.effectiveSettings.map RuntimeSetting.document) :=
    jsonArray_record h (by simp [RuntimeContractFields.fields])
  have hcomponents (message : String) : jsonArray c.document "components" message =
      .ok (c.components.map RuntimeInventoryEntry.document) :=
    jsonArray_record h (by simp [RuntimeContractFields.fields])
  have hinputs (message : String) : jsonArray c.document "configuration_inputs" message =
      .ok (c.configurationInputs.map RuntimeInventoryEntry.document) :=
    jsonArray_record h (by simp [RuntimeContractFields.fields])
  have hminimum : jsonInt c.document "min_forward_velocity_rpm" = .ok c.minForwardVelocityRpm :=
    jsonInt_record h (by simp [RuntimeContractFields.fields])
  have hmaximum : jsonInt c.document "max_forward_velocity_rpm" = .ok c.maxForwardVelocityRpm :=
    jsonInt_record h (by simp [RuntimeContractFields.fields])
  have hverified : jsonBool c.document "workshop_runtime_verified" =
      .ok c.workshopRuntimeVerified :=
    jsonBool_record h (by simp [RuntimeContractFields.fields])
  unfold readContract
  rw [hkeys, hschema, hbuild, hpackage, hid, hversion, hdigest, hsettings, hcomponents, hinputs,
    hminimum, hmaximum, hverified]
  have hread := collect_map_ok fun item hitem =>
    readSetting_document (settings_printable c h hitem)
  have hreadComponents := collect_map_ok fun entry hentry =>
    readEntry_document "components" (components_printable c h hentry)
  have hreadInputs := collect_map_ok fun entry hentry =>
    readEntry_document "configuration_inputs" (inputs_printable c h hentry)
  simp only [require_of_true, ok_bind, hread, hreadComponents, hreadInputs, Except.mapError]
  exact makeContract_self c

end Contract

section Profile

variable {oracleBuild : String} (p : MachineProfile oracleBuild)

/-- The tables of a profile, and the fields that are in none. -/
def sections : List (List (String × Json)) :=
  [p.ownFields, identityTable.fields fun i => .str (p.identity i),
    evidenceIdTable.fields fun i => .str (p.evidenceId i),
    evidenceVersionTable.fields fun i => .str (p.evidenceVersion i),
    evidenceSha256Table.fields fun i => .str (p.evidenceSha256 i),
    policyTable.fields fun i => .str (p.policy i),
    coordinateTable.fields fun i => .num (p.coordinate i) 0,
    attestationTable.fields fun i => .bool (p.attested i)]

theorem fields_eq_flatten : p.fields = (sections p).flatten := by
  simp only [ProfileFields.fields, sections, List.flatten_cons, List.flatten_nil, List.append_nil,
    List.append_assoc]

theorem mem_of_section {part : List (String × Json)} (hpart : part ∈ sections p)
    {field : String × Json} (hfield : field ∈ part) : field ∈ p.fields := by
  rw [fields_eq_flatten]
  exact List.mem_flatten_of_mem hpart hfield

theorem map_fst_profile : p.fields.map Prod.fst = expectedKeys := by
  simp only [ProfileFields.fields, ProfileFields.ownFields, expectedKeys, List.map_append,
    FieldTable.map_fst_fields, List.map_cons, List.map_nil]

variable (h : JsonText.printable (record p.fields) = true)

include h

/-- A profile is read back from its document. -/
theorem readProfile_fields : readProfile oracleBuild (record p.fields) = .ok p := by
  have hkeys : hasKeys (record p.fields) expectedKeys = true := hasKeys_record (map_fst_profile p)
  have hown {key : String} {value : Json} (hmem : (key, value) ∈ p.ownFields) :
      (key, value) ∈ p.fields := mem_of_section p List.mem_cons_self hmem
  -- the fields that are not in a table
  have hcodes (message : String) : jsonArray (record p.fields) "supported_wcs" message =
      .ok (p.supportedWcs.map Json.str) :=
    jsonArray_record h (hown (by simp [ProfileFields.ownFields]))
  have hoffsets (message : String) : jsonArray (record p.fields) "wcs_offsets" message =
      .ok (p.wcsOffsets.map WCSOffset.document) :=
    jsonArray_record h (hown (by simp [ProfileFields.ownFields]))
  have hcontractMem : ("runtime_contract", p.runtimeContract.document) ∈ p.fields :=
    hown (by simp [ProfileFields.ownFields])
  have hcontract := get_record h hcontractMem
  have hspinup : jsonInt (record p.fields) "spindle_spinup_ms" = .ok p.spindleSpinupMs :=
    jsonInt_record h (hown (by simp [ProfileFields.ownFields]))
  have htolerance : jsonInt (record p.fields) "spindle_at_speed_tolerance_ppm" =
      .ok p.spindleAtSpeedTolerancePpm :=
    jsonInt_record h (hown (by simp [ProfileFields.ownFields]))
  have hschema : jsonString (record p.fields) "schema_version" = .ok p.schemaVersion :=
    jsonString_record h (hown (by simp [ProfileFields.ownFields]))
  -- the tables
  have hidentity : identityTable.read (jsonString (record p.fields)) "" = .ok p.identity :=
    FieldTable.read_ok (fun i => jsonString_record h (mem_of_section p (by simp [sections])
      (FieldTable.mem_fields (fun i => .str (p.identity i)) i))) ""
  have hevidenceId : evidenceIdTable.read (jsonString (record p.fields)) "" = .ok p.evidenceId :=
    FieldTable.read_ok (fun i => jsonString_record h (mem_of_section p (by simp [sections])
      (FieldTable.mem_fields (fun i => .str (p.evidenceId i)) i))) ""
  have hevidenceVersion :
      evidenceVersionTable.read (jsonString (record p.fields)) "" = .ok p.evidenceVersion :=
    FieldTable.read_ok (fun i => jsonString_record h (mem_of_section p (by simp [sections])
      (FieldTable.mem_fields (fun i => .str (p.evidenceVersion i)) i))) ""
  have hevidenceSha256 :
      evidenceSha256Table.read (jsonString (record p.fields)) "" = .ok p.evidenceSha256 :=
    FieldTable.read_ok (fun i => jsonString_record h (mem_of_section p (by simp [sections])
      (FieldTable.mem_fields (fun i => .str (p.evidenceSha256 i)) i))) ""
  have hpolicy : policyTable.read (jsonString (record p.fields)) "" = .ok p.policy :=
    FieldTable.read_ok (fun i => jsonString_record h (mem_of_section p (by simp [sections])
      (FieldTable.mem_fields (fun i => .str (p.policy i)) i))) ""
  have hcoordinate : coordinateTable.read (jsonInt (record p.fields)) 0 = .ok p.coordinate :=
    FieldTable.read_ok (fun i => jsonInt_record h (mem_of_section p (by simp [sections])
      (FieldTable.mem_fields (fun i => .num (p.coordinate i) 0) i))) 0
  have hattested : attestationTable.read (jsonBool (record p.fields)) false = .ok p.attested :=
    FieldTable.read_ok (fun i => jsonBool_record h (mem_of_section p (by simp [sections])
      (FieldTable.mem_fields (fun i => .bool (p.attested i)) i))) false
  -- the parts that are records
  have hreadCodes : collect wcsCode (p.supportedWcs.map Json.str) = .ok p.supportedWcs :=
    collect_map_ok fun _ _ => rfl
  have hprintOffset : ∀ offset ∈ p.wcsOffsets, JsonText.printable offset.document = true := by
    intro offset hoffset
    have hmem : ("wcs_offsets", Json.arr (p.wcsOffsets.map WCSOffset.document)) ∈ p.fields :=
      hown (by simp [ProfileFields.ownFields])
    have harray := printable_field h hmem
    rw [JsonText.printable] at harray
    exact printable_of_mem_items harray (List.mem_map_of_mem hoffset)
  have hreadOffsets : collect (fun item => parseWcsOffset item.1 item.2)
      (p.wcsOffsets.map WCSOffset.document).zipIdx = .ok p.wcsOffsets :=
    collect_zipIdx_ok 0 fun offset hoffset => parseWcsOffset_document (hprintOffset offset hoffset)
  have hreadContract := readContract_document p.runtimeContract (printable_field h hcontractMem)
  unfold readProfile
  rw [hkeys, hcodes, hoffsets, hcontract, hspinup, htolerance, hschema, hidentity, hevidenceId,
    hevidenceVersion, hevidenceSha256, hpolicy, hcoordinate, hattested]
  simp only [require_of_true, ok_bind, hreadCodes, hreadOffsets, demand, hreadContract]
  exact makeProfile_self p

end Profile

/-! ## Bytes -/

theorem fromUTF8_toUTF8 (s : String) : String.fromUTF8? s.toUTF8 = some s := by
  exact dif_pos s.isValidUTF8

theorem size_toUTF8_pos {s : String} (h : s ≠ "") : 0 < s.toUTF8.size := by
  refine Nat.pos_of_ne_zero fun hzero => h ?_
  exact String.utf8ByteSize_eq_zero_iff.mp hzero

theorem canonicalJsonBytes_ok {value : Json} {raw : ByteArray}
    (h : canonicalJsonBytes value = .ok raw) :
    JsonText.printable value = true ∧ raw = (String.ofList (JsonText.text value)).toUTF8 := by
  unfold canonicalJsonBytes at h
  split at h
  · rename_i hprint
    cases h
    exact ⟨hprint, rfl⟩
  · cases h

/-! ## Which profiles have a text -/

theorem printableFields_iff {fields : List (String × Json)} :
    JsonText.printableFields fields = true ↔
      ∀ field ∈ fields, JsonText.printable field.2 = true := by
  induction fields with
  | nil => simp [JsonText.printableFields]
  | cons field fields ih =>
    rw [JsonText.printableFields, Bool.and_eq_true, ih, List.forall_mem_cons]

theorem printableItems_iff {items : List Json} :
    JsonText.printableItems items = true ↔ ∀ item ∈ items, JsonText.printable item = true := by
  induction items with
  | nil => simp [JsonText.printableItems]
  | cons item items ih =>
    rw [JsonText.printableItems, Bool.and_eq_true, ih, List.forall_mem_cons]

/-- A record is printable when its keys differ and its values are. -/
theorem printable_record {fields : List (String × Json)} (hkeys : (fields.map Prod.fst).Nodup) :
    JsonText.printable (record fields) = true ↔
      ∀ field ∈ fields, JsonText.printable field.2 = true := by
  have hsorted : ((sortBy Prod.fst fields).map Prod.fst).Nodup :=
    ((sortBy_perm Prod.fst fields).map Prod.fst).nodup_iff.mpr hkeys
  rw [record, JsonText.printable, Bool.and_eq_true, decide_eq_true_eq, printableFields_iff,
    and_iff_right hsorted]
  simp only [mem_sortBy]

theorem printable_array {α : Type} {write : α → Json} {l : List α} :
    JsonText.printable (.arr (l.map write)) = true ↔
      ∀ a ∈ l, JsonText.printable (write a) = true := by
  rw [JsonText.printable, printableItems_iff, List.forall_mem_map]

/-- An integer that is converted to text within the limit of digits. -/
def HasText (n : Int) : Prop := (Nat.toDigits 10 n.natAbs).length ≤ JsonText.intMaxStrDigits

theorem printable_num {n : Int} : JsonText.printable (.num n 0) = true ↔ HasText n := by
  rw [JsonText.printable, Bool.and_eq_true, decide_eq_true_eq]
  exact and_iff_right rfl

theorem printable_str (value : String) : JsonText.printable (.str value) = true := rfl

theorem printable_bool (value : Bool) : JsonText.printable (.bool value) = true := rfl

theorem hasText_of_small {n : Int} (h : n.natAbs < 10 ^ 6) : HasText n := by
  have hsmall := (Nat.length_toDigits_le_iff (by decide : 1 < 10) (by decide : 0 < 6)).mpr h
  unfold HasText
  exact hsmall.trans (by decide)

/-- The integers of a profile that have no declared bound. -/
structure HasTexts {oracleBuild : String} (p : MachineProfile oracleBuild) : Prop where
  coordinate : ∀ i, HasText (p.coordinate i)
  offset : ∀ offset ∈ p.wcsOffsets, HasText offset.machineX0Um ∧ HasText offset.machineY0Um ∧
    HasText offset.machineZ0Um
  velocity : HasText p.runtimeContract.minForwardVelocityRpm ∧
    HasText p.runtimeContract.maxForwardVelocityRpm

theorem printable_setting {item : RuntimeSetting} (h : checkSetting item = .ok ()) :
    JsonText.printable item.document = true := by
  simp only [checkSetting, require_eq_ok] at h
  obtain ⟨entry, hfind, hsame⟩ : ∃ entry, (requiredRuntimeSettings.find? fun entry =>
      entry.1 == item.name) = some entry ∧ item.value.identical entry.2 = true := by
    cases hfind : requiredRuntimeSettings.find? fun entry => entry.1 == item.name with
    | none =>
      rw [hfind] at h
      cases h
    | some entry =>
      rw [hfind] at h
      exact ⟨entry, rfl, h⟩
  have hvalue : JsonText.printable item.value = true := by
    rw [Json.eq_of_identical _ _ hsame]
    have hall : ∀ entry ∈ requiredRuntimeSettings, JsonText.printable entry.2 = true := by
      decide +kernel
    exact hall entry (List.mem_of_find?_eq_some hfind)
  refine (printable_record ?_).mpr ?_
  · exact show ["name", "value"].Nodup by decide
  simp only [List.mem_cons, List.not_mem_nil, or_false, forall_eq_or_imp, forall_eq]
  exact ⟨rfl, hvalue⟩

theorem printable_entry (entry : RuntimeInventoryEntry) :
    JsonText.printable entry.document = true := by
  refine (printable_record ?_).mpr ?_
  · exact show ["name", "sha256"].Nodup by decide
  simp only [List.mem_cons, List.not_mem_nil, or_false, forall_eq_or_imp, forall_eq]
  exact ⟨rfl, rfl⟩

theorem printable_contract {oracleBuild : String} (c : RuntimeContract oracleBuild) :
    JsonText.printable c.document = true ↔
      HasText c.minForwardVelocityRpm ∧ HasText c.maxForwardVelocityRpm := by
  have hvalid := c.valid
  simp only [RuntimeContractFields.validate, bind_eq_ok, require_eq_ok] at hvalid
  obtain ⟨_, -, _, -, _, -, _, -, _, hsettings, -⟩ := hvalid
  rw [forEach_eq_ok] at hsettings
  have harrays :
      JsonText.printable (.arr (c.effectiveSettings.map RuntimeSetting.document)) = true ∧
      ∀ l : List RuntimeInventoryEntry,
        JsonText.printable (.arr (l.map RuntimeInventoryEntry.document)) = true :=
    ⟨printable_array.mpr fun item hitem => printable_setting (hsettings item hitem),
      fun _ => printable_array.mpr fun entry _ => printable_entry entry⟩
  refine (printable_record ?_).trans ?_
  · exact show runtimeContractKeys.Nodup by decide
  simp only [RuntimeContractFields.fields, List.mem_cons, List.not_mem_nil, or_false,
    forall_eq_or_imp, forall_eq, printable_num, printable_str, printable_bool, harrays, true_and,
    and_true]

theorem printable_offset {offset : WCSOffset} : JsonText.printable offset.document = true ↔
    HasText offset.machineX0Um ∧ HasText offset.machineY0Um ∧ HasText offset.machineZ0Um := by
  have hrotation : HasText offset.machineXyRotationMdeg := by
    rw [offset.unrotated]
    exact hasText_of_small (by decide)
  refine (printable_record ?_).trans ?_
  · exact show ["wcs", "machine_x0_um", "machine_y0_um", "machine_z0_um",
      "machine_xy_rotation_mdeg"].Nodup by decide
  simp only [List.mem_cons, List.not_mem_nil, or_false, forall_eq_or_imp, forall_eq, printable_num,
    printable_str, hrotation, true_and, and_true]

theorem expectedKeys_nodup : expectedKeys.Nodup := by decide +kernel

/-- The values of a table are printable when each of them is. -/
theorem printable_table {ι : Type} {table : FieldTable ι} {value : ι → Json} :
    (∀ field ∈ table.fields value, JsonText.printable field.2 = true) ↔
      ∀ i, JsonText.printable (value i) = true := by
  rw [FieldTable.fields, List.forall_mem_map]
  exact ⟨fun h i => h i (table.complete i), fun h i _ => h i⟩

/-- `to_json` returns exactly for the profiles whose unbounded integers have at most as many digits
    as the conversion of an integer to text allows. -/
theorem toJson_returns_iff {oracleBuild : String} (p : MachineProfile oracleBuild) :
    (∃ raw, p.toJson = .ok raw) ↔ HasTexts p := by
  have hvalid := p.valid
  simp only [ProfileFields.validate, bind_eq_ok, require_eq_ok, decide_eq_true_eq] at hvalid
  obtain ⟨_, -, _, -, _, -, _, -, _, -, _, -, _, -, _, -, _, -, _, -, _, -, _, -, _, hspinup, _, -,
    _, htolerance, -⟩ := hvalid
  have hspinup : HasText p.spindleSpinupMs := hasText_of_small (by omega)
  have htolerance : HasText p.spindleAtSpeedTolerancePpm := hasText_of_small (by omega)
  have hreturns : (∃ raw, p.toJson = .ok raw) ↔ JsonText.printable (record p.fields) = true := by
    unfold MachineProfile.toJson canonicalJsonBytes
    split <;> simp_all
  have hkeys : (p.fields.map Prod.fst).Nodup := by
    rw [map_fst_profile]
    exact expectedKeys_nodup
  rw [hreturns, printable_record hkeys]
  simp only [ProfileFields.fields, ProfileFields.ownFields, List.forall_mem_append,
    List.forall_mem_cons, printable_table, printable_num, printable_str, printable_bool,
    printable_array, printable_offset, hspinup, htolerance, List.not_mem_nil, false_implies,
    implies_true, true_and, and_true]
  constructor
  · rintro ⟨⟨hcontract, hoffsets⟩, hcoordinates⟩
    exact ⟨hcoordinates, hoffsets, (printable_contract p.runtimeContract).mp hcontract⟩
  · intro h
    exact ⟨⟨(printable_contract p.runtimeContract).mpr h.velocity, h.offset⟩, h.coordinate⟩

/-! ## The codec -/

/-- The steps of `from_json`, when each of them returns. -/
theorem fromJson_of_steps {oracleBuild : String} {raw : ByteArray} {text : String}
    {fields : List (String × Json)} {p : MachineProfile oracleBuild} (hpos : 0 < raw.size)
    (hsize : raw.size ≤ 64000) (htext : String.fromUTF8? raw = some text)
    (hloads : JsonText.loads text.toList = .ok (.obj fields))
    (hread : readProfile oracleBuild (.obj fields) = .ok p) (h : p.toJson = .ok raw) :
    fromJson oracleBuild raw = .ok p := by
  simp only [fromJson, bind_eq_ok, require_eq_ok, decide_eq_true_eq, demand_eq_ok, mapError_eq_ok]
  exact ⟨(), ⟨hpos, hsize⟩, text, htext, .obj fields, hloads, (), rfl, p, hread, raw, h, (), rfl, rfl⟩

/-- What is written of a profile is read back. -/
theorem fromJson_toJson {oracleBuild : String} {p : MachineProfile oracleBuild} {raw : ByteArray}
    (h : p.toJson = .ok raw) (hsize : raw.size ≤ 64000) : fromJson oracleBuild raw = .ok p := by
  obtain ⟨hprint, hraw⟩ := canonicalJsonBytes_ok h
  have hnonempty : String.ofList (JsonText.text (record p.fields)) ≠ "" := by
    obtain ⟨c, cs, htext, -⟩ := JsonText.text_head (record p.fields)
    rw [htext]
    intro heq
    have hlist := congrArg String.toList heq
    rw [String.toList_ofList] at hlist
    exact absurd hlist (List.cons_ne_nil c cs)
  have hpos : 0 < raw.size := by
    rw [hraw]
    exact size_toUTF8_pos hnonempty
  have htext : String.fromUTF8? raw = some (String.ofList (JsonText.text (record p.fields))) := by
    rw [hraw]
    exact fromUTF8_toUTF8 _
  refine fromJson_of_steps hpos hsize htext ?_ (readProfile_fields p hprint) h
  rw [String.toList_ofList]
  exact JsonText.loads_text hprint

/-- What is accepted is what is written of the profile. -/
theorem toJson_of_fromJson {oracleBuild : String} {p : MachineProfile oracleBuild}
    {raw : ByteArray} (h : fromJson oracleBuild raw = .ok p) :
    p.toJson = .ok raw ∧ raw.size ≤ 64000 := by
  simp only [fromJson, bind_eq_ok, require_eq_ok, decide_eq_true_eq] at h
  obtain ⟨_, hsize, text, -, parsed, -, _, -, profile, -, canonical, hcanonical, _, hsame, hp⟩ := h
  cases hp
  rw [← hsame]
  exact ⟨hcanonical, hsame ▸ hsize.2⟩

/-- Machine profiles and their accepted bytes determine each other: bytes are accepted as a profile
    exactly when they are what `to_json` writes of it, within the limit of the size. -/
theorem profile_codec {oracleBuild : String} (p : MachineProfile oracleBuild) (raw : ByteArray) :
    fromJson oracleBuild raw = .ok p ↔ p.toJson = .ok raw ∧ raw.size ≤ 64000 := by
  constructor
  · intro h
    exact toJson_of_fromJson h
  · intro h
    exact fromJson_toJson h.1 h.2

end Custombuild.Postprocessors.ProfileCodec
