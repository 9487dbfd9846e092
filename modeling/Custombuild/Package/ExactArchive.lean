/-
  A package that passes the offline verifier is exactly its manifest: the members have safe
  and distinct names, they are the manifest and what it lists, every listed member has the
  listed size and digest, the manifest is canonical and its context hash is that of its
  context, and evidence of retention is there exactly when the frozen design binds it.
-/
import Custombuild.Package.OfflineVerifier

namespace Custombuild.Package

open Custombuild.Lib

/-! ## What a pass says -/

/-- The directory reached from `dir` along the components of a path, `..` going up. -/
def resolve : List (List Char) → List (List Char) → List (List Char)
  | dir, [] => dir
  | dir, part :: parts =>
    if part = [] ∨ part = ['.'] then resolve dir parts
    else if part = ['.', '.'] then resolve dir.dropLast parts
    else resolve (dir ++ [part]) parts

/-- A relative path that stays below the directory it is taken from, whichever that is. -/
structure SafePath (path : String) : Prop where
  nonempty : path ≠ ""
  relative : path.toList.head? ≠ some '/'
  plain : ∀ c ∈ path.toList, c ≠ '\\' ∧ c.toNat ≠ 0 ∧ c ≠ ':'
  below : ∀ dir, resolve dir (components path) = dir ++ components path

/-- The value is the entry: an object with the five fields and no others. -/
structure IsEntry (raw : Value) (entry : Entry) : Prop where
  fields : ∃ fields, raw = .dict fields ∧
    (∀ key, key ∈ Fields.keys fields ↔ key ∈ artifactKeys) ∧
    Fields.get fields "path" = some (.str entry.path) ∧
    Fields.get fields "media_type" = some (.str entry.mediaType) ∧
    Fields.get fields "role" = some (.str entry.role) ∧
    Fields.get fields "size_bytes" = some (.int entry.sizeBytes) ∧
    Fields.get fields "sha256" = some (.str entry.sha256)

/-- The members are the manifest and the entries that it lists, byte for byte. -/
structure ExactInventory (lib : Libraries) (members : List ZipInfo) (manifest : Fields)
    (entries : List Entry) : Prop where
  safe : ∀ info ∈ members, SafePath info.filename
  distinct : (members.map (·.filename)).Nodup
  distinctFolded : (members.map fun info => lib.casefold info.filename).Nodup
  listed : ∃ items, Fields.get manifest "artifacts" = some (.list items) ∧
    List.Forall₂ IsEntry items entries
  names : ∀ name, name ∈ members.map (·.filename) ↔
    name = manifestPath ∨ name ∈ entries.map (·.path)
  bytes : ∀ info ∈ members, ∀ entry ∈ entries, info.filename = entry.path →
    ∃ bytes, info.stream.read = .ok bytes ∧ bytes.length = entry.sizeBytes ∧
      lib.sha256 bytes = entry.sha256

/-- The bytes of the manifest member are the canonical encoding of its value, and the context
    hash is the digest of the context fields. -/
structure CanonicalManifest (lib : Libraries) (members : List ZipInfo) (manifest : Fields) :
    Prop where
  bytes : ∀ info ∈ members, info.filename = manifestPath →
    ∃ bytes, info.stream.read = .ok bytes ∧
      lib.loadsWith manifestHooks bytes = .ok (.dict manifest) ∧
      lib.dumps (.dict manifest) = .ok bytes
  keys : ∀ key, key ∈ Fields.keys manifest ↔ key ∈ manifestKeys
  contextHash : ∃ context bytes, Fields.keys context = manifestContextFields ∧
    (∀ field ∈ context, Fields.get manifest field.1 = some field.2) ∧
    lib.dumps (.dict context) = .ok bytes ∧
    Fields.get manifest "production_context_hash" = some (.str (lib.sha256 bytes))

/-- The member of the frozen design holds a canonical document with this specification. -/
def FrozenSpec (lib : Libraries) (members : List ZipInfo) (spec : Fields) : Prop :=
  ∃ info ∈ members, info.filename = frozenDesignSpecPath ∧
    ∃ bytes frozen, info.stream.read = .ok bytes ∧ lib.loads bytes = .ok (.dict frozen) ∧
      lib.dumps (.dict frozen) = .ok bytes ∧ Fields.get frozen "spec" = some (.dict spec)

/-- Signed evidence is among the members, and any entry stands for it, exactly when the frozen
    design binds retention; it then has the digest that the design names. -/
structure BoundEvidence (lib : Libraries) (members : List ZipInfo) (entries : List Entry)
    (spec : Fields) : Prop where
  present : (∃ info ∈ members, info.filename = jointRetentionSignedEvidencePath) ↔
    (jointRetention spec).isSome
  standing : (∃ entry ∈ entries,
      standsFor lib jointRetentionSignedEvidencePath jointRetentionSignedEvidenceRole entry = true) ↔
    (jointRetention spec).isSome
  digest : ∀ info ∈ members, info.filename = jointRetentionSignedEvidencePath →
    ∃ retention sha256 bytes, jointRetention spec = some (.dict retention) ∧
      Fields.get retention "evidence_sha256" = some (.str sha256) ∧
      info.stream.read = .ok bytes ∧ lib.sha256 bytes = sha256

/-! ## Paths -/

theorem resolve_append {parts : List (List Char)} (dir : List (List Char))
    (h : ∀ part ∈ parts, part ≠ [] ∧ part ≠ ['.'] ∧ part ≠ ['.', '.']) :
    resolve dir parts = dir ++ parts := by
  induction parts generalizing dir with
  | nil => simp [resolve]
  | cons part parts ih =>
    obtain ⟨hempty, hdot, hdots⟩ := h part List.mem_cons_self
    rw [resolve, if_neg (by simp [hempty, hdot]), if_neg hdots,
      ih _ fun p hp => h p (List.mem_cons_of_mem _ hp), List.append_assoc]
    rfl

theorem validPathText_eq_some {value : Value} {path : String}
    (h : validPathText value = some path) :
    value = .str path ∧ path ≠ "" ∧ ∀ c ∈ path.toList, c ≠ '\\' ∧ c.toNat ≠ 0 ∧ c ≠ ':' := by
  cases value with
  | str text =>
    rw [validPathText] at h
    split at h
    · cases h
    · rename_i hnot
      obtain rfl := Option.some.inj h
      rw [charsOf_eq, Bool.or_eq_true, not_or, List.any_eq_true] at hnot
      refine ⟨rfl, by simpa using hnot.1, fun c hc => ?_⟩
      have := fun hbad => hnot.2 ⟨c, hc, hbad⟩
      simp only [Bool.or_eq_true, beq_iff_eq] at this
      tauto
  | _ => cases h

theorem validatePath_eq_ok {lib : Libraries} {value : Value} {path : String}
    (h : validatePath lib value = .ok path) : value = .str path ∧ SafePath path := by
  simp only [validatePath, bind_eq_ok, demand_eq_ok, require_eq_ok] at h
  obtain ⟨text, htext, _, hparts, _, hrelative, hpath⟩ := h
  obtain rfl : text = path := Except.ok.inj hpath
  obtain ⟨hvalue, hnonempty, hplain⟩ := validPathText_eq_some htext
  refine ⟨hvalue, hnonempty, by simpa using hrelative, hplain, fun dir => ?_⟩
  refine resolve_append dir fun part hpart => ?_
  rw [Bool.not_eq_true', List.any_eq_false] at hparts
  have := hparts part hpart
  simp only [Bool.or_eq_true, beq_iff_eq, not_or] at this
  exact ⟨this.1.1, this.1.2, this.2⟩

/-! ## The members -/

/-- What one turn of the loop over the members has checked. -/
theorem validateZipInfo_eq_ok {lib : Libraries} {state next : Metadata} {info : ZipInfo}
    (h : validateZipInfo lib state info = .ok next) :
    SafePath info.filename ∧ info.filename ∉ state.byName.map (·.filename) ∧
      lib.casefold info.filename ∉ state.casefolded ∧
      next.byName = state.byName ++ [info] ∧
      next.casefolded = state.casefolded ++ [lib.casefold info.filename] := by
  simp only [validateZipInfo, bind_eq_ok, require_eq_ok] at h
  obtain ⟨name, hname, _, _, _, hnew, _, _, _, _, _, _, _, _, _, _, hnext⟩ := h
  obtain ⟨heq, hsafe⟩ := validatePath_eq_ok hname
  obtain rfl : info.filename = name := Value.str.inj heq
  obtain rfl := Except.ok.inj hnext
  rw [Bool.not_eq_true', Bool.or_eq_false_iff] at hnew
  exact ⟨hsafe, by simpa using hnew.1, by simpa using hnew.2, rfl, rfl⟩

/-- The loop over the members keeps them in order, with distinct names. -/
structure Metadata.Checked (lib : Libraries) (state : Metadata) : Prop where
  safe : ∀ info ∈ state.byName, SafePath info.filename
  distinct : (state.byName.map (·.filename)).Nodup
  folded : state.casefolded = state.byName.map fun info => lib.casefold info.filename
  distinctFolded : state.casefolded.Nodup

theorem validateZipInfo_keeps {lib : Libraries} {state next : Metadata} {info : ZipInfo}
    (h : validateZipInfo lib state info = .ok next) (hs : state.Checked lib) :
    next.Checked lib := by
  obtain ⟨hsafe, hname, hfolded, hby, hcase⟩ := validateZipInfo_eq_ok h
  constructor
  · intro other hother
    rw [hby, List.mem_append, List.mem_singleton] at hother
    rcases hother with hother | rfl
    · exact hs.safe other hother
    · exact hsafe
  · rw [hby, List.map_append, List.map_singleton]
    rw [← List.concat_eq_append]
    exact hs.distinct.concat hname
  · rw [hby, hcase, hs.folded, List.map_append, List.map_singleton]
  · rw [hcase, ← List.concat_eq_append]
    exact hs.distinctFolded.concat hfolded

theorem foldlM_byName {lib : Libraries} {infos : List ZipInfo} {state next : Metadata}
    (h : infos.foldlM (validateZipInfo lib) state = .ok next) :
    next.byName = state.byName ++ infos := by
  induction infos generalizing state with
  | nil =>
    cases h
    simp
  | cons info infos ih =>
    rw [List.foldlM_cons, bind_eq_ok] at h
    obtain ⟨mid, hfirst, hrest⟩ := h
    rw [ih hrest, (validateZipInfo_eq_ok hfirst).2.2.2.1, List.append_assoc]
    rfl

theorem validateZipMetadata_eq_ok {lib : Libraries} {infos files : List ZipInfo}
    (h : validateZipMetadata lib infos = .ok files) :
    files = infos ∧ (∀ info ∈ infos, SafePath info.filename) ∧
      (infos.map (·.filename)).Nodup ∧
      (infos.map fun info => lib.casefold info.filename).Nodup := by
  simp only [validateZipMetadata, bind_eq_ok, require_eq_ok] at h
  obtain ⟨_, _, state, hstate, hfiles⟩ := h
  obtain rfl : state.byName = files := Except.ok.inj hfiles
  have hinfos : state.byName = infos := foldlM_byName hstate
  have hchecked : state.Checked lib := foldlM_keeps hstate
    ⟨by simp, List.nodup_nil, rfl, List.nodup_nil⟩
    fun _ _ _ _ hturn hs => validateZipInfo_keeps hturn hs
  refine ⟨hinfos, ?_, ?_, ?_⟩
  · rw [← hinfos]
    exact hchecked.safe
  · rw [← hinfos]
    exact hchecked.distinct
  · rw [← hinfos, ← hchecked.folded]
    exact hchecked.distinctFolded

/-- With distinct names, a member is the one found by its name. -/
theorem find?_filename {members : List ZipInfo} (h : (members.map (·.filename)).Nodup)
    {info : ZipInfo} (hinfo : info ∈ members) :
    members.find? (fun other => other.filename == info.filename) = some info := by
  obtain ⟨found, hfound⟩ : ∃ found,
      members.find? (fun other => other.filename == info.filename) = some found :=
    Option.isSome_iff_exists.mp (List.find?_isSome.mpr ⟨info, hinfo, by simp⟩)
  have hname : found.filename = info.filename := by simpa using List.find?_some hfound
  rw [hfound, List.inj_on_of_nodup_map h (List.mem_of_find?_eq_some hfound) hinfo hname]

/-- A read by name is the read of the member of that name. -/
theorem readNamed_filename {lib : Libraries} {members : List ZipInfo}
    (h : (members.map (·.filename)).Nodup) {info : ZipInfo} (hinfo : info ∈ members) :
    readNamed lib members info.filename = info.stream.read := by
  have hreverse : (members.reverse.map (·.filename)).Nodup := by
    rw [List.map_reverse, List.nodup_reverse]
    exact h
  rw [readNamed, find?_filename hreverse (List.mem_reverse.mpr hinfo)]

theorem exists_of_readNamed {lib : Libraries} {members : List ZipInfo} {name : String}
    {bytes : Bytes} (h : readNamed lib members name = .ok bytes) :
    ∃ info ∈ members, info.filename = name ∧ info.stream.read = .ok bytes := by
  unfold readNamed at h
  split at h
  · cases h
  · rename_i info hfound
    refine ⟨info, List.mem_reverse.mp (List.mem_of_find?_eq_some hfound), ?_, h⟩
    simpa using List.find?_some hfound

/-! ## Digests -/

theorem sha256Chunks_eq_ok {info : ZipInfo} {expectedSize : Nat} {chunks : List Bytes}
    {size size' : Nat} {digest digest' : Bytes}
    (h : sha256Chunks info expectedSize chunks size digest = .ok (size', digest')) :
    info.stream.failure = none ∧ digest' = digest ++ chunks.flatten ∧
      size' = size + chunks.flatten.length := by
  induction chunks generalizing size digest with
  | nil =>
    rw [sha256Chunks] at h
    split at h
    · rename_i hnone
      cases h
      exact ⟨hnone, by simp, by simp⟩
    · cases h
  | cons chunk chunks ih =>
    rw [sha256Chunks, bind_eq_ok] at h
    obtain ⟨_, _, hrest⟩ := h
    obtain ⟨hnone, hdigest, hsize⟩ := ih hrest
    refine ⟨hnone, ?_, ?_⟩
    · rw [hdigest, List.flatten_cons, List.append_assoc]
    · rw [hsize, List.flatten_cons, List.length_append]
      omega

theorem sha256Stream_eq_ok {lib : Libraries} {info : ZipInfo} {expectedSize size : Nat}
    {digest : String} (h : sha256Stream lib info expectedSize = .ok (size, digest)) :
    ∃ bytes, info.stream.read = .ok bytes ∧ size = bytes.length ∧ digest = lib.sha256 bytes := by
  simp only [sha256Stream, bind_eq_ok] at h
  obtain ⟨⟨size', bytes⟩, hchunks, hresult⟩ := h
  obtain ⟨hnone, hbytes, hsize⟩ := sha256Chunks_eq_ok hchunks
  cases hresult
  refine ⟨info.stream.chunks.flatten, ?_, by omega, ?_⟩
  · rw [Stream.read, hnone]
  · rw [hbytes, List.nil_append]

theorem verifyEntry_eq_ok {lib : Libraries} {members : List ZipInfo} {entry : Entry}
    (h : verifyEntry lib members entry = .ok ())
    (hdistinct : (members.map (·.filename)).Nodup) {info : ZipInfo} (hinfo : info ∈ members)
    (hname : info.filename = entry.path) :
    ∃ bytes, info.stream.read = .ok bytes ∧ bytes.length = entry.sizeBytes ∧
      lib.sha256 bytes = entry.sha256 := by
  simp only [verifyEntry, bind_eq_ok, demand_eq_ok, require_eq_ok, beq_iff_eq] at h
  obtain ⟨found, hfound, _, _, ⟨size, digest⟩, hstream, _, hsize, hdigest⟩ := h
  rw [← hname, find?_filename hdistinct hinfo] at hfound
  obtain rfl := Option.some.inj hfound
  obtain ⟨bytes, hread, hlength, hsha⟩ := sha256Stream_eq_ok hstream
  exact ⟨bytes, hread, hlength.symm.trans hsize, hsha.symm.trans hdigest⟩

/-! ## The manifest -/

theorem mem_of_keysAre {fields : Fields} {expected : List String}
    (h : Fields.keysAre fields expected = true) (key : String) :
    key ∈ Fields.keys fields ↔ key ∈ expected := by
  rw [Fields.keysAre, Bool.and_eq_true, List.all_eq_true, List.all_eq_true] at h
  constructor
  · intro hkey
    simpa using h.1 key hkey
  · intro hkey
    simpa using h.2 key hkey

theorem text_eq_some {fields : Fields} {key text : String} :
    Fields.text fields key = some text ↔ Fields.get fields key = some (.str text) := by
  unfold Fields.text
  split
  · rename_i found hfound
    rw [hfound]
    simp
  · rename_i hnot
    constructor
    · intro h
      cases h
    · intro h
      exact absurd h (hnot text)

theorem parseManifest_eq_ok {lib : Libraries} {payload : Bytes} {manifest : Fields}
    (h : parseManifest lib payload = .ok manifest) :
    lib.loadsWith manifestHooks payload = .ok (.dict manifest) ∧
      lib.dumps (.dict manifest) = .ok payload ∧
      ∀ key, key ∈ Fields.keys manifest ↔ key ∈ manifestKeys := by
  simp only [parseManifest, bind_eq_ok, mapError_eq_ok] at h
  obtain ⟨parsed, hparsed, h⟩ := h
  cases parsed with
  | dict fields =>
    simp only [canonicalJsonBytes, bind_eq_ok, mapError_eq_ok, require_eq_ok, beq_iff_eq] at h
    obtain ⟨_, hkeys, canonical, hcanonical, _, rfl, hfields⟩ := h
    obtain rfl := Except.ok.inj hfields
    exact ⟨hparsed, hcanonical, mem_of_keysAre hkeys⟩
  | _ => cases h

theorem manifestContext_eq_ok {manifest context : Fields}
    (h : manifestContext manifest = .ok context) :
    Fields.keys context = manifestContextFields ∧
      ∀ field ∈ context, Fields.get manifest field.1 = some field.2 := by
  have hfield : ∀ key : String, ∀ field : String × Value,
      (demand (Fields.get manifest key) (⟨.invalidManifestStructure,
        "manifest context field is missing: " ++ key⟩ : VerificationFailure)).map
          (fun value => (key, value)) = .ok field →
        field.1 = key ∧ Fields.get manifest key = some field.2 := by
    intro key field hok
    cases hget : Fields.get manifest key with
    | none =>
      rw [hget] at hok
      cases hok
    | some value =>
      rw [hget] at hok
      cases hok
      exact ⟨rfl, rfl⟩
  constructor
  · have hmap := map_of_collect (g := Prod.fst) (h := id) h fun key _ field hok =>
      (hfield key field hok).1
    rw [Fields.keys, hmap, List.map_id]
  · intro field hmem
    obtain ⟨key, _, hok⟩ := mem_of_collect h hmem
    obtain ⟨rfl, hget⟩ := hfield key field hok
    exact hget

theorem validateManifestClaims_eq_ok {lib : Libraries} {manifest : Fields}
    (h : validateManifestClaims lib manifest = .ok ()) :
    ∃ context bytes, Fields.keys context = manifestContextFields ∧
      (∀ field ∈ context, Fields.get manifest field.1 = some field.2) ∧
      lib.dumps (.dict context) = .ok bytes ∧
      Fields.get manifest "production_context_hash" = some (.str (lib.sha256 bytes)) := by
  simp only [validateManifestClaims, canonicalJsonBytes, bind_eq_ok, mapError_eq_ok,
    demand_eq_ok, require_eq_ok, beq_iff_eq] at h
  obtain ⟨_, _, _, _, _, _, _, _, _, _, productionHash, hhash, context, hcontext, bytes, hbytes,
    rfl⟩ := h
  obtain ⟨hkeys, hfields⟩ := manifestContext_eq_ok hcontext
  refine ⟨context, bytes, hkeys, hfields, hbytes, ?_⟩
  exact text_eq_some.mp (Option.filter_eq_some_iff.mp hhash).1

/-! ## The inventory -/

/-- What one turn of the loop over the inventory has checked. -/
theorem manifestEntry_eq_ok {lib : Libraries} {state next : Inventory} {raw : Value}
    (h : manifestEntry lib state raw = .ok next) :
    ∃ entry, next.entries = state.entries ++ [entry] ∧ IsEntry raw entry ∧
      entry.path ≠ manifestPath ∧ SafePath entry.path := by
  simp only [manifestEntry, bind_eq_ok, demand_eq_ok, require_eq_ok] at h
  obtain ⟨fields, hraw, path, hpath, _, hself, mediaType, hmedia, role, hrole, size, hsize,
    digest, hdigest, _, _, hnext⟩ := h
  obtain rfl := Except.ok.inj hnext
  obtain ⟨hvalue, hsafe⟩ := validatePath_eq_ok hpath
  refine ⟨⟨path, mediaType, role, size, digest⟩, rfl, ⟨fields, ?_⟩, by simpa using hself, hsafe⟩
  have hdict : raw = .dict fields ∧ Fields.keysAre fields artifactKeys = true := by
    split at hraw
    · split at hraw
      · rename_i hkeys
        obtain rfl := Option.some.inj hraw
        exact ⟨rfl, hkeys⟩
      · cases hraw
    · cases hraw
  refine ⟨hdict.1, mem_of_keysAre hdict.2, ?_, ?_, ?_, ?_, ?_⟩
  · cases hget : Fields.get fields "path" with
    | none =>
      rw [hget] at hvalue
      cases hvalue
    | some value =>
      rw [hget] at hvalue
      rw [← hvalue]
      rfl
  · exact text_eq_some.mp (Option.filter_eq_some_iff.mp hmedia).1
  · exact text_eq_some.mp (Option.filter_eq_some_iff.mp hrole).1
  · split at hsize
    · rename_i number hget
      split at hsize
      · rename_i hrange
        obtain rfl := Option.some.inj hsize
        rw [hget, Int.toNat_of_nonneg hrange.1]
      · cases hsize
    · cases hsize
  · exact text_eq_some.mp (Option.filter_eq_some_iff.mp hdigest).1

theorem foldlM_entries {lib : Libraries} {raws : List Value} {state next : Inventory}
    (h : raws.foldlM (manifestEntry lib) state = .ok next) :
    ∃ entries, next.entries = state.entries ++ entries ∧ List.Forall₂ IsEntry raws entries ∧
      ∀ entry ∈ entries, entry.path ≠ manifestPath := by
  induction raws generalizing state with
  | nil =>
    cases h
    exact ⟨[], by simp, .nil, by simp⟩
  | cons raw raws ih =>
    rw [List.foldlM_cons, bind_eq_ok] at h
    obtain ⟨mid, hfirst, hrest⟩ := h
    obtain ⟨entry, hentry, hraw, hself, _⟩ := manifestEntry_eq_ok hfirst
    obtain ⟨entries, hentries, hraws, hothers⟩ := ih hrest
    refine ⟨entry :: entries, ?_, .cons hraw hraws, ?_⟩
    · rw [hentries, hentry, List.append_assoc]
      rfl
    · exact List.forall_mem_cons.mpr ⟨hself, hothers⟩

theorem manifestEntries_eq_ok {lib : Libraries} {manifest : Fields} {entries : List Entry}
    (h : manifestEntries lib manifest = .ok entries) :
    (∃ items, Fields.get manifest "artifacts" = some (.list items) ∧
      List.Forall₂ IsEntry items entries) ∧ ∀ entry ∈ entries, entry.path ≠ manifestPath := by
  simp only [manifestEntries, bind_eq_ok, demand_eq_ok, require_eq_ok] at h
  obtain ⟨items, hitems, state, hstate, _, _, hentries⟩ := h
  obtain rfl := Except.ok.inj hentries
  obtain ⟨entries, heq, hraws, hself⟩ := foldlM_entries hstate
  rw [List.nil_append] at heq
  rw [heq]
  refine ⟨⟨items, ?_, hraws⟩, hself⟩
  split at hitems
  · rename_i found hget
    rw [hget, Option.some.inj hitems]
  · cases hitems

theorem firstOnlyIn_eq_none {left right : List String}
    (h : (firstOnlyIn left right).isNone = true) : ∀ path ∈ left, path ∈ right := by
  intro path hpath
  by_contra hnot
  rw [firstOnlyIn, Option.isNone_iff_eq_none, List.head?_eq_none_iff] at h
  have hmem : path ∈ sortedSet (left.filter fun path => !right.contains path) := by
    rw [mem_sortedSet, List.mem_filter]
    exact ⟨hpath, by simpa using hnot⟩
  rw [h] at hmem
  cases hmem

/-! ## The evidence of retention -/

theorem parseCanonicalArtifactObject_eq_ok {lib : Libraries} {payload : Bytes} {label : String}
    {fields : Fields} (h : parseCanonicalArtifactObject lib payload label = .ok fields) :
    lib.loads payload = .ok (.dict fields) ∧ lib.dumps (.dict fields) = .ok payload := by
  simp only [parseCanonicalArtifactObject, bind_eq_ok, mapError_eq_ok] at h
  obtain ⟨parsed, hparsed, h⟩ := h
  cases parsed with
  | dict found =>
    simp only [canonicalJsonBytes, bind_eq_ok, mapError_eq_ok, require_eq_ok, beq_iff_eq] at h
    obtain ⟨canonical, hcanonical, _, rfl, hfields⟩ := h
    obtain rfl := Except.ok.inj hfields
    exact ⟨hparsed, hcanonical⟩
  | _ => cases h

theorem theOnly_eq_some {path role mediaType : String} {entries : List Entry} {entry : Entry}
    (h : theOnly path role mediaType entries = some entry) :
    entries = [entry] ∧ entry.path = path := by
  unfold theOnly at h
  split at h
  · split at h
    · rename_i hfields
      obtain rfl := Option.some.inj h
      rw [Bool.and_eq_true, Bool.and_eq_true, beq_iff_eq] at hfields
      exact ⟨rfl, hfields.1.1⟩
    · cases h
  · cases h

/-- The entries that stand for the signed evidence. -/
def evidenceEntries (lib : Libraries) (entries : List Entry) : List Entry :=
  entries.filter (standsFor lib jointRetentionSignedEvidencePath jointRetentionSignedEvidenceRole)

/-- Either nothing is bound and nothing stands for evidence, or one entry does and the bytes
    read under its name have the bound digest. -/
inductive Sidecar (lib : Libraries) (archive : List ZipInfo) (entries : List Entry)
    (spec : Fields) : Prop
  | unbound (hnone : jointRetention spec = none) (hentries : evidenceEntries lib entries = [])
  | bound (retention : Fields) (sha256 : String) (entry : Entry) (bytes : Bytes)
      (hretention : jointRetention spec = some (.dict retention))
      (hsha256 : Fields.get retention "evidence_sha256" = some (.str sha256))
      (hentries : evidenceEntries lib entries = [entry])
      (hpath : entry.path = jointRetentionSignedEvidencePath)
      (hread : readNamed lib archive jointRetentionSignedEvidencePath = .ok bytes)
      (hdigest : lib.sha256 bytes = sha256)

theorem validateJointRetentionSidecar_eq_ok {lib : Libraries} {archive : List ZipInfo}
    {entries : List Entry} (h : validateJointRetentionSidecar lib archive entries = .ok ()) :
    ∃ payload frozen spec, readNamed lib archive frozenDesignSpecPath = .ok payload ∧
      lib.loads payload = .ok (.dict frozen) ∧ lib.dumps (.dict frozen) = .ok payload ∧
      Fields.get frozen "spec" = some (.dict spec) ∧ Sidecar lib archive entries spec := by
  simp only [validateJointRetentionSidecar, bind_eq_ok, demand_eq_ok, mapError_eq_ok] at h
  obtain ⟨_, _, payload, hpayload, frozen, hfrozen, spec, hspec, h⟩ := h
  obtain ⟨hloads, hdumps⟩ := parseCanonicalArtifactObject_eq_ok hfrozen
  have hget : Fields.get frozen "spec" = some (.dict spec) := by
    split at hspec
    · rename_i found hfound
      split at hspec
      · rw [hfound, Option.some.inj hspec]
      · cases hspec
    · cases hspec
  refine ⟨payload, frozen, spec, hpayload, hloads, hdumps, hget, ?_⟩
  cases hretention : jointRetention spec with
  | none =>
    simp only [hretention, require_eq_ok, List.isEmpty_iff] at h
    exact .unbound hretention h
  | some value =>
    simp only [hretention, bind_eq_ok, demand_eq_ok, mapError_eq_ok, require_eq_ok,
      beq_iff_eq] at h
    obtain ⟨retention, hvalue, sha256, hsha, entry, hentry, _, _, bytes, hbytes, hdigest⟩ := h
    have hdict : value = .dict retention := by
      cases value with
      | dict fields => rw [Option.some.inj hvalue]
      | _ => cases hvalue
    obtain ⟨honly, hpath⟩ := theOnly_eq_some hentry
    exact .bound retention sha256 entry bytes (by rw [hretention, hdict])
      (text_eq_some.mp (Option.filter_eq_some_iff.mp hsha).1) honly hpath hbytes hdigest

theorem mem_evidenceEntries {lib : Libraries} {entries : List Entry} {entry : Entry} :
    entry ∈ evidenceEntries lib entries ↔ entry ∈ entries ∧
      standsFor lib jointRetentionSignedEvidencePath jointRetentionSignedEvidenceRole entry = true :=
  List.mem_filter

/-- The names of the members decide what the evidence is, as they are those of the inventory. -/
theorem Sidecar.evidence {lib : Libraries} {members : List ZipInfo} {manifest : Fields}
    {entries : List Entry} {spec : Fields} (h : Sidecar lib members entries spec)
    (hinventory : ExactInventory lib members manifest entries) :
    BoundEvidence lib members entries spec := by
  -- a member under the evidence path is listed, and so has an entry that stands for it
  have hlisted : ∀ info ∈ members, info.filename = jointRetentionSignedEvidencePath →
      ∃ entry, entry ∈ evidenceEntries lib entries := by
    intro info hinfo hname
    have hmem := (hinventory.names jointRetentionSignedEvidencePath).mp
      (List.mem_map.mpr ⟨info, hinfo, hname⟩)
    rcases hmem with hmanifest | hentry
    · exact absurd hmanifest (by decide)
    · obtain ⟨entry, hentry, hpath⟩ := List.mem_map.mp hentry
      refine ⟨entry, mem_evidenceEntries.mpr ⟨hentry, ?_⟩⟩
      rw [standsFor, hpath]
      simp
  cases h with
  | unbound hnone hentries =>
    have hnobody : ∀ info ∈ members, info.filename ≠ jointRetentionSignedEvidencePath := by
      intro info hinfo hname
      obtain ⟨entry, hentry⟩ := hlisted info hinfo hname
      rw [hentries] at hentry
      cases hentry
    constructor
    · rw [hnone]
      constructor
      · rintro ⟨info, hinfo, hname⟩
        exact absurd hname (hnobody info hinfo)
      · intro h
        cases h
    · rw [hnone]
      constructor
      · rintro ⟨entry, hentry⟩
        rw [← mem_evidenceEntries, hentries] at hentry
        cases hentry
      · intro h
        cases h
    · intro info hinfo hname
      exact absurd hname (hnobody info hinfo)
  | bound retention sha256 entry bytes hretention hsha256 hentries hpath hread hdigest =>
    have hmem : entry ∈ evidenceEntries lib entries := by
      rw [hentries]
      exact List.mem_singleton_self entry
    constructor
    · rw [hretention]
      refine ⟨fun _ => rfl, fun _ => ?_⟩
      obtain ⟨info, hinfo, hname, _⟩ := exists_of_readNamed hread
      exact ⟨info, hinfo, hname⟩
    · rw [hretention]
      exact ⟨fun _ => rfl, fun _ => ⟨entry, mem_evidenceEntries.mp hmem⟩⟩
    · intro info hinfo hname
      refine ⟨retention, sha256, bytes, hretention, hsha256, ?_, hdigest⟩
      rw [← @readNamed_filename lib _ hinventory.distinct _ hinfo, hname, hread]

/-! ## The package -/

/-- A package on which `verify_package` returns is exactly its manifest. -/
theorem verifyPackage_exact (lib : Libraries) (content : Bytes) (request : Request)
    (details : Details) (members : List ZipInfo)
    (hpass : verifyPackage lib (.ok content) request = .ok details)
    (hmembers : lib.infolist content = .ok members) :
    ∃ manifest entries spec, ExactInventory lib members manifest entries ∧
      CanonicalManifest lib members manifest ∧ FrozenSpec lib members spec ∧
      BoundEvidence lib members entries spec := by
  simp only [verifyPackage, bind_eq_ok, mapError_eq_ok, demand_eq_ok, require_eq_ok] at hpass
  obtain ⟨_, _, read, hcontent, _, hsize, _, _, archive, harchive, files, hfiles, manifestInfo,
    hinfo, _, _, manifestBytes, hmanifestBytes, manifest, hparsed, ⟨⟩, hclaims, _, _, entries,
    hentries, _, hmissing, _, hextra, ⟨⟩, hverified, ⟨⟩, hsidecar, _⟩ := hpass
  obtain rfl := Except.ok.inj hcontent
  have htake : content.take maxPackageBytes = content := by
    rw [Bool.not_eq_true', Bool.or_eq_false_iff] at hsize
    refine List.take_of_length_le ?_
    simpa using hsize.2
  rw [htake, hmembers] at harchive
  obtain rfl := Except.ok.inj harchive
  obtain ⟨rfl, hsafe, hdistinct, hfolded⟩ := validateZipMetadata_eq_ok hfiles
  obtain ⟨hlisted, _⟩ := manifestEntries_eq_ok hentries
  obtain ⟨hloads, hdumps, hkeys⟩ := parseManifest_eq_ok hparsed
  have hinventory : ExactInventory lib files manifest entries := by
    refine ⟨hsafe, hdistinct, hfolded, hlisted, fun name => ⟨fun hname => ?_, fun hname => ?_⟩, ?_⟩
    · exact List.mem_cons.mp (firstOnlyIn_eq_none hextra name hname)
    · exact firstOnlyIn_eq_none hmissing name (List.mem_cons.mpr hname)
    · intro info hmember entry hentry hname
      exact verifyEntry_eq_ok (forEach_eq_ok.mp hverified entry hentry) hdistinct hmember hname
  obtain ⟨payload, frozen, spec, hpayload, hfrozen, hcanonical, hspec, hcase⟩ :=
    validateJointRetentionSidecar_eq_ok hsidecar
  refine ⟨manifest, entries, spec, hinventory, ⟨?_, hkeys, validateManifestClaims_eq_ok hclaims⟩,
    ?_, hcase.evidence hinventory⟩
  · intro info hmember hname
    rw [← hname, find?_filename hdistinct hmember] at hinfo
    obtain rfl := Option.some.inj hinfo
    exact ⟨manifestBytes, hmanifestBytes, hloads, hdumps⟩
  · obtain ⟨info, hmember, hname, hread⟩ := exists_of_readNamed hpayload
    exact ⟨info, hmember, hname, payload, frozen, hread, hfrozen, hcanonical, hspec⟩

/-! A stored archive with a frozen design that binds retention, and its evidence. -/

namespace SmallPackage

def bytesOf (text : List Char) : Bytes := text.map fun c => UInt8.ofNat c.toNat

mutual

/-- `json.dumps` as the verifier calls it, on ASCII texts that need no escapes. -/
def jsonText : Value → List Char
  | .null => "null".toList
  | .bool value => if value then "true".toList else "false".toList
  | .int value => charsOf (toString value)
  | .float text => charsOf text
  | .str text => '"' :: charsOf text ++ ['"']
  | .list items => '[' :: [','].intercalate (itemTexts items) ++ [']']
  | .dict fields => '\x7b' :: [','].intercalate
      (((fieldTexts fields).insertionSort fun a b => a.1 ≤ b.1).map Prod.snd) ++ ['\x7d']

def itemTexts : List Value → List (List Char)
  | [] => []
  | item :: items => jsonText item :: itemTexts items

def fieldTexts : List (String × Value) → List (List Char × List Char)
  | [] => []
  | (key, value) :: fields =>
    (charsOf key, '"' :: charsOf key ++ ['"', ':'] ++ jsonText value) :: fieldTexts fields

end

def evidenceDigest : String := "44136fa355b3678a1146ad16f7e8649e94fb4fc21fe77e8310c060f61caaff8a"
def designDigest : String := "10b4511ec7e1e41670903eec1a131d2fcb4d31a5e804f8b1284623b419508bf3"
def contextDigest : String := "dee45e24caf002341602f7f471dce6794b395f7eaf2ea6a816c3040cd237ee1f"
def bundleDigest : String := "1591424732d654806c8700c4b34c2fbcaf703250f5c7e222434266b818b4fff2"

def artifact (path role digest : String) (size : Int) : Value :=
  .dict [("media_type", .str "application/json"), ("path", .str path), ("role", .str role),
    ("sha256", .str digest), ("size_bytes", .int size)]

def context : Fields :=
  manifestContextFields.map fun field => (field,
    if field = "project_id" then .str "p"
    else if field = "revision" then .str "1"
    else if field = "design_hash" then .str (String.ofList (List.replicate 64 '0'))
    else if field = "artifact_schema_version" then .str artifactSchemaVersion
    else if field = "release_scope" then .str "design_review"
    else if field = "machine_use" then .str "validation_only"
    else if field = "physical_cutting_authorized" then .bool false
    else if field = "artifacts" then .list [
      artifact frozenDesignSpecPath frozenDesignSpecRole designDigest 168,
      artifact jointRetentionSignedEvidencePath jointRetentionSignedEvidenceRole evidenceDigest 2]
    else .null)

def manifest : Fields :=
  ("schema_version", .str manifestSchemaVersion) :: context ++
    [("production_context_hash", .str contextDigest), ("checksum_scope", .str manifestChecksumScope)]

def frozen : Fields :=
  [("schema_version", .str frozenDesignSpecSchemaVersion),
    ("spec", .dict [("joint_retention", .dict [("evidence_sha256", .str evidenceDigest)])])]

def manifestBytes : Bytes := bytesOf (jsonText (.dict manifest))
def designBytes : Bytes := bytesOf (jsonText (.dict frozen))
def evidenceBytes : Bytes := bytesOf ['\x7b', '\x7d']

/-- CRC-32 and the two sizes, in the order of the headers. -/
def manifestSums : Bytes := [237, 138, 119, 101, 227, 5, 0, 0, 227, 5, 0, 0, 13, 0, 0, 0]
def designSums : Bytes := [185, 153, 96, 3, 168, 0, 0, 0, 168, 0, 0, 0, 23, 0, 0, 0]
def evidenceSums : Bytes := [67, 191, 166, 163, 2, 0, 0, 0, 2, 0, 0, 0, 45, 0, 0, 0]

def localRecord (sums : Bytes) (name : String) (content : Bytes) : Bytes :=
  [80, 75, 3, 4, 20, 0, 0, 0, 0, 0, 0, 0, 33, 0] ++ sums ++ bytesOf (charsOf name) ++ content

def centralRecord (sums offset : Bytes) (name : String) : Bytes :=
  [80, 75, 1, 2, 20, 3, 20, 0, 0, 0, 0, 0, 0, 0, 33, 0] ++ sums ++
    [0, 0, 0, 0, 0, 0, 0, 0, 164, 129] ++ offset ++ bytesOf (charsOf name)

def zipBytes : Bytes :=
  localRecord manifestSums manifestPath manifestBytes ++
    localRecord designSums frozenDesignSpecPath designBytes ++
    localRecord evidenceSums jointRetentionSignedEvidencePath evidenceBytes ++
    centralRecord manifestSums [0, 0, 0, 0] manifestPath ++
    centralRecord designSums [14, 6, 0, 0] frozenDesignSpecPath ++
    centralRecord evidenceSums [235, 6, 0, 0] jointRetentionSignedEvidencePath ++
    [80, 75, 5, 6, 0, 0, 0, 0, 3, 0, 3, 0, 219, 0, 0, 0, 56, 7, 0, 0, 0, 0]

def member (filename : String) (content : Bytes) (h : content ≠ []) : ZipInfo where
  filename
  isDir := false
  flagBits := 0
  externalAttr := 2175008768
  createSystem := 3
  fileSize := content.length
  compressSize := content.length
  stream := ⟨[content], none, by simpa using h⟩

def members : List ZipInfo :=
  [member manifestPath manifestBytes (by decide +kernel),
    member frozenDesignSpecPath designBytes (by decide +kernel),
    member jointRetentionSignedEvidencePath evidenceBytes (by decide +kernel)]

/-- The libraries on the inputs of this package; the other values are never asked for. -/
def libraries : Libraries where
  infolist payload := if payload == zipBytes then .ok members else .error "File is not a zip file"
  noItemNamed name := name
  sha256 payload :=
    if payload == evidenceBytes then evidenceDigest
    else if payload == designBytes then designDigest
    else if payload == bytesOf (jsonText (.dict context)) then contextDigest
    else if payload == zipBytes then bundleDigest
    else ""
  casefold text := String.ofList ((charsOf text).map Char.toLower)
  repr _ := ""
  loadsWith _ payload :=
    if payload == manifestBytes then .ok (.dict manifest) else .error (.invalid "Expecting value")
  loads payload :=
    if payload == designBytes then .ok (.dict frozen) else .error "Expecting value"
  dumps value := .ok (bytesOf (jsonText value))

def request : Request := ⟨bundleDigest, some "p", none, none⟩

theorem verifyPackage_exact_small : ∃ manifest entries spec,
    ExactInventory libraries members manifest entries ∧
      CanonicalManifest libraries members manifest ∧ FrozenSpec libraries members spec ∧
      BoundEvidence libraries members entries spec := by
  obtain ⟨details, hpass⟩ := exists_eq_ok
    (show (verifyPackage libraries (.ok zipBytes) request).isOk = true by decide +kernel)
  have hmembers : libraries.infolist zipBytes = .ok members := by
    simp only [libraries, beq_self_eq_true, if_true]
  exact verifyPackage_exact libraries zipBytes request details members hpass hmembers

end SmallPackage

end Custombuild.Package
