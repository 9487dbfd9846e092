/-
  The content root binds the content (`content_root_exact`): where the hash tells apart what two
  snapshots hash, equal roots mean equal formats, paths, modes, payloads and object identities, the
  control file left out.  The order in which Git lists its records does not matter.
-/
import Custombuild.Release.ContentRoot
import Mathlib.Data.List.Perm.Basic

namespace Custombuild.Release

open Custombuild.Lib

/-- The tracked files of an inventory but the control file, with their bytes. -/
def trackedFiles (repo : GitRepository) (entries : List StageEntry) : List TrackedFile :=
  (entries.filter fun entry => entry.path ≠ productionSemanticRootPath).map fun entry =>
    ⟨entry.path, entry.mode, (repo.workingFile entry.path).payload, entry.objectId⟩

/-- The records of an inventory. -/
def stageRecords (inventory : List UInt8) : List (List UInt8) :=
  (inventory.splitOn 0).filter fun record => record ≠ []

section Hashed

variable (sha256 : List UInt8 → Vector UInt8 32)

/-- What is hashed over the messages of the leaves: they, the nodes and the root. -/
def hashedMessages (format : ObjectFormat) (messages : List (List UInt8)) : List (List UInt8) :=
  messages ++ ((treePairs (nodeHash sha256) (messages.map sha256)).map nodeMessage ++
    [rootMessage format (bigEndian 8 messages.length) (treeDigest sha256 (messages.map sha256))])

/-- What a snapshot hashes. -/
def contentMessages (prim : Primitives) (repo : GitRepository) (bindControl : Bool) :
    List (List UInt8) :=
  let hashed : Except String (List (List UInt8)) := do
    let format ← readObjectFormat repo.objectFormat
    let entries ← parseStageZeroInventory prim repo.inventory
    let (messages, _) ← leafMessages prim repo format bindControl entries
    return hashedMessages sha256 format messages
  match hashed with
  | .ok messages => messages
  | .error _ => []

end Hashed

/-! ## Leaves -/

section Leaves

variable {prim : Primitives} {repo : GitRepository} {format : ObjectFormat}

theorem toBytes8_eq_ok {n : Nat} {bytes : List UInt8} :
    toBytes8 n = .ok bytes ↔ n < 256 ^ 8 ∧ bigEndian 8 n = bytes := by
  unfold toBytes8
  split <;> simp_all

theorem ObjectFormat.text_inj {f g : ObjectFormat} {k l : List UInt8}
    (h : f.text ++ 0 :: k = g.text ++ 0 :: l) : f = g ∧ k = l := by
  cases f <;> cases g <;> simp [ObjectFormat.text, asciiBytes] at h ⊢ <;> exact h

/-- What the index and the working tree agree on, of a file that is hashed. -/
def Bound (prim : Primitives) (format : ObjectFormat) (file : TrackedFile) : Prop :=
  file.mode.length = 6 ∧
    file.objectId = hexText (prim.objectHash format (blobMessage file.payload))

/-- The payload that is read is that of the working tree, and its digest the object identity. -/
theorem readIndexBoundRegularFile_eq_ok {entry : StageEntry} {payload : List UInt8}
    (h : readIndexBoundRegularFile prim repo entry format = .ok payload) :
    (repo.workingFile entry.path).payload = payload ∧
      Bound prim format ⟨entry.path, entry.mode, payload, entry.objectId⟩ := by
  simp only [readIndexBoundRegularFile, bind_eq_ok, require_eq_ok] at h
  obtain ⟨pathText, -, -, -, -, -, -, hmode, h⟩ := h
  have hlength : entry.mode.length = 6 := by
    simp only [Bool.or_eq_true, decide_eq_true_eq] at hmode
    rcases hmode with hmode | hmode <;> rw [hmode] <;> decide
  cases hfile : repo.workingFile entry.path with
  | regular executable payload' =>
    simp only [hfile, bind_eq_ok, require_eq_ok, decide_eq_true_eq] at h
    obtain ⟨-, -, -, hobject, hret⟩ := h
    cases hret
    exact ⟨rfl, hlength, hobject.symm⟩
  | missing => simp [hfile] at h
  | unopenable => simp [hfile] at h
  | notRegular => simp [hfile] at h

/-- The leaf of a file can be read: equal messages have equal files. -/
theorem leafMessage_inj {file file' : TrackedFile} {message : List UInt8}
    (hbound : Bound prim format file) (hbound' : Bound prim format file')
    (h : leafMessage format file = .ok message) (h' : leafMessage format file' = .ok message) :
    file = file' := by
  simp only [leafMessage, bind_eq_ok, toBytes8_eq_ok] at h h'
  obtain ⟨_, ⟨hpath, rfl⟩, _, ⟨hpayload, rfl⟩, objectId, -, hret⟩ := h
  obtain ⟨_, ⟨hpath', rfl⟩, _, ⟨hpayload', rfl⟩, objectId', -, hret'⟩ := h'
  cases hret
  have heq := Except.ok.inj hret'
  -- the fields one by one, each as long as the number before it says
  obtain ⟨-, heq⟩ := List.append_inj heq rfl
  obtain ⟨hlength, heq⟩ := List.append_inj (List.cons.inj heq).2 (by simp)
  have hlength := bigEndian_inj hpath' hpath hlength
  obtain ⟨hpathEq, heq⟩ := List.append_inj heq hlength
  obtain ⟨hmodeEq, heq⟩ := List.append_inj heq (by rw [hbound.1, hbound'.1])
  obtain ⟨hlength, heq⟩ := List.append_inj heq (by simp)
  have hlength := bigEndian_inj hpayload' hpayload hlength
  obtain ⟨hpayloadEq, -⟩ := List.append_inj heq hlength
  have hobject : file.objectId = file'.objectId := by
    rw [hbound.2, hbound'.2, hpayloadEq]
  cases file
  cases file'
  simp_all

/-- The messages of the leaves are those of the tracked files. -/
theorem leafMessages_eq_ok {bindControl : Bool} {entries : List StageEntry}
    {messages : List (List UInt8)} {control : Option (List UInt8)}
    (h : leafMessages prim repo format bindControl entries = .ok (messages, control)) :
    List.Forall₂ (fun file message => Bound prim format file ∧
      leafMessage format file = .ok message) (trackedFiles repo entries) messages := by
  induction entries generalizing messages control with
  | nil =>
    cases h
    exact .nil
  | cons entry entries ih =>
    rw [leafMessages] at h
    split at h
    · rename_i hcontrol
      simp only [bind_eq_ok, Prod.exists] at h
      obtain ⟨own, -, messages', later, hrest, hret⟩ := h
      cases hret
      rw [trackedFiles, List.filter_cons_of_neg (by simp [hcontrol])]
      exact ih hrest
    · rename_i hcontrol
      simp only [bind_eq_ok, Prod.exists] at h
      obtain ⟨payload, hread, message, hmessage, messages', later, hrest, hret⟩ := h
      cases hret
      obtain ⟨hpayload, hbound⟩ := readIndexBoundRegularFile_eq_ok hread
      rw [trackedFiles, List.filter_cons_of_pos (by simp [hcontrol]), List.map_cons, hpayload]
      exact .cons ⟨hbound, hmessage⟩ (ih hrest)

theorem trackedFiles_inj {files files' : List TrackedFile} {messages : List (List UInt8)}
    (h : List.Forall₂ (fun file message => Bound prim format file ∧
      leafMessage format file = .ok message) files messages)
    (h' : List.Forall₂ (fun file message => Bound prim format file ∧
      leafMessage format file = .ok message) files' messages) : files = files' := by
  induction h generalizing files' with
  | nil =>
    cases h'
    rfl
  | cons hfile _ ih =>
    cases h' with
    | cons hfile' h' => rw [leafMessage_inj hfile.1 hfile'.1 hfile.2 hfile'.2, ih h']

end Leaves

/-! ## The root -/

section Binding

variable {sha256 : List UInt8 → Vector UInt8 32} {prim : Primitives}

theorem nodeMessage_injective : Function.Injective nodeMessage := by
  intro p q h
  obtain ⟨-, h⟩ := List.append_inj h rfl
  obtain ⟨hleft, hright⟩ := List.append_inj h (by simp)
  exact Prod.ext (Vector.toList_inj.mp hleft) (Vector.toList_inj.mp hright)

theorem map_sha256_inj {messages messages' : List (List UInt8)}
    (hsha : ∀ m ∈ messages, ∀ m' ∈ messages', sha256 m = sha256 m' → m = m')
    (h : messages.map sha256 = messages'.map sha256) : messages = messages' := by
  induction messages generalizing messages' with
  | nil => exact (List.map_eq_nil_iff.mp h.symm).symm
  | cons m messages ih =>
    cases messages' with
    | nil => cases h
    | cons m' messages' =>
      rw [List.map_cons, List.map_cons, List.cons.injEq] at h
      rw [hsha m List.mem_cons_self m' List.mem_cons_self h.1,
        ih (fun k hk l hl => hsha k (List.mem_cons_of_mem _ hk) l (List.mem_cons_of_mem _ hl)) h.2]

/-- The digest of the tree binds the leaves, given their number. -/
theorem treeDigest_inj {leaves leaves' : List (Vector UInt8 32)}
    (hlength : leaves.length = leaves'.length)
    (hsha : ∀ m ∈ (treePairs (nodeHash sha256) leaves).map nodeMessage,
      ∀ m' ∈ (treePairs (nodeHash sha256) leaves').map nodeMessage, sha256 m = sha256 m' → m = m')
    (h : treeDigest sha256 leaves = treeDigest sha256 leaves') : leaves = leaves' := by
  have hnode : ∀ p ∈ treePairs (nodeHash sha256) leaves,
      ∀ q ∈ treePairs (nodeHash sha256) leaves', nodeHash sha256 p = nodeHash sha256 q → p = q :=
    fun p hp q hq hpq => nodeMessage_injective
      (hsha _ (List.mem_map_of_mem hp) _ (List.mem_map_of_mem hq) hpq)
  cases leaves with
  | nil => exact (List.length_eq_zero_iff.mp hlength.symm).symm
  | cons leaf leaves =>
    obtain ⟨leaf', rest', rfl⟩ := List.exists_cons_of_length_pos
      (show 0 < leaves'.length by rw [← hlength]; simp)
    obtain ⟨root, hroot⟩ := exists_treeRoot (nodeHash sha256) (List.cons_ne_nil leaf leaves)
    obtain ⟨root', hroot'⟩ := exists_treeRoot (nodeHash sha256) (List.cons_ne_nil leaf' rest')
    rw [treeDigest, treeDigest, hroot, hroot'] at h
    exact treeRoot_inj hlength hnode (by rw [hroot, hroot']; exact congrArg some h)

/-- Equal roots have equal formats and equal leaves. -/
theorem merkleRoot_inj {messages messages' : List (List UInt8)} {format format' : ObjectFormat}
    {digest : List UInt8}
    (hsha : ∀ m ∈ hashedMessages sha256 format messages,
      ∀ m' ∈ hashedMessages sha256 format' messages', sha256 m = sha256 m' → m = m')
    (h : merkleRoot sha256 (messages.map sha256) format = .ok digest)
    (h' : merkleRoot sha256 (messages'.map sha256) format' = .ok digest) :
    format = format' ∧ messages = messages' := by
  simp only [merkleRoot, bind_eq_ok, toBytes8_eq_ok, List.length_map] at h h'
  obtain ⟨_, ⟨hcount, rfl⟩, hret⟩ := h
  obtain ⟨_, ⟨hcount', rfl⟩, hret'⟩ := h'
  have hdigest : sha256 _ = sha256 _ := Vector.toList_inj.mp
    (hexText_injective ((Except.ok.inj hret).trans (Except.ok.inj hret').symm))
  have hroot := hsha _ (by simp [hashedMessages]) _ (by simp [hashedMessages]) hdigest
  obtain ⟨-, hroot⟩ := List.append_inj hroot rfl
  obtain ⟨hformat, hroot⟩ := ObjectFormat.text_inj (List.cons.inj hroot).2
  obtain ⟨hlength, htree⟩ := List.append_inj hroot (by simp)
  have hlength := bigEndian_inj hcount hcount' hlength
  refine ⟨hformat, map_sha256_inj (fun m hm m' hm' => hsha m ?_ m' ?_) ?_⟩
  · exact List.mem_append_left _ hm
  · exact List.mem_append_left _ hm'
  · refine treeDigest_inj (by simpa using hlength) (fun m hm m' hm' => hsha m ?_ m' ?_)
      (Vector.toList_inj.mp htree)
    · exact List.mem_append_right _ (List.mem_append_left _ hm)
    · exact List.mem_append_right _ (List.mem_append_left _ hm')

end Binding

/-! ## The order of the records -/

section Order

variable {prim : Primitives}

/-- The records are read one by one; no path comes twice. -/
theorem parseRecords_eq_ok {seen records : List (List UInt8)} {entries : List StageEntry} :
    parseRecords prim seen records = .ok entries ↔
      List.Forall₂ (fun record entry => parseRecord prim record = .ok entry)
        (records.filter fun record => record ≠ []) entries ∧
      (entries.map StageEntry.path).Nodup ∧ ∀ entry ∈ entries, entry.path ∉ seen := by
  induction records generalizing seen entries with
  | nil =>
    constructor
    · intro h
      cases h
      simp
    · rintro ⟨h, -, -⟩
      cases h
      rfl
  | cons record records ih =>
    rw [parseRecords]
    by_cases hempty : record = []
    · rw [if_pos hempty, ih, List.filter_cons_of_neg (by simpa using hempty)]
    · rw [if_neg hempty, List.filter_cons_of_pos (by simpa using hempty)]
      simp only [bind_eq_ok, require_eq_ok, ih, decide_eq_true_eq]
      constructor
      · rintro ⟨entry, hentry, -, hnew, entries', ⟨hrest, hnodup, hseen⟩, hret⟩
        cases hret
        refine ⟨.cons hentry hrest, ?_, ?_⟩
        · rw [List.map_cons, List.nodup_cons]
          refine ⟨?_, hnodup⟩
          intro hmem
          obtain ⟨later, hlater, hpath⟩ := List.mem_map.mp hmem
          exact hseen later hlater (by rw [hpath]; exact List.mem_cons_self)
        · refine List.forall_mem_cons.mpr ⟨hnew, fun later hlater hmem => ?_⟩
          exact hseen later hlater (List.mem_cons_of_mem _ hmem)
      · rintro ⟨hread, hnodup, hseen⟩
        cases hread with
        | @cons _ entry _ entries' hentry hrest =>
          rw [List.map_cons, List.nodup_cons] at hnodup
          obtain ⟨hnew, hlater⟩ := List.forall_mem_cons.mp hseen
          refine ⟨entry, hentry, (), hnew, entries', ⟨hrest, hnodup.2, ?_⟩, rfl⟩
          intro later hmem hin
          rcases List.mem_cons.mp hin with hpath | hin
          · exact hnodup.1 (by rw [← hpath]; exact List.mem_map_of_mem hmem)
          · exact hlater later hmem hin

theorem key_injective : Function.Injective (List.map UInt8.toNat) :=
  List.map_injective_iff.mpr fun _ _ => UInt8.toNat_inj.mp

/-- The inventory does not depend on the order of its records. -/
theorem parseStageZeroInventory_perm {inventory inventory' : List UInt8}
    (hperm : (stageRecords inventory).Perm (stageRecords inventory')) {entries : List StageEntry}
    (h : parseStageZeroInventory prim inventory = .ok entries) :
    parseStageZeroInventory prim inventory' = .ok entries := by
  simp only [parseStageZeroInventory, bind_eq_ok, parseRecords_eq_ok] at h ⊢
  obtain ⟨read, ⟨hread, hnodup, -⟩, hret⟩ := h
  obtain ⟨read', hread', hsame⟩ := List.perm_comp_forall₂ hperm.symm hread
  refine ⟨read', ⟨hread', (hsame.map _).nodup_iff.mpr hnodup, by simp⟩, ?_⟩
  rw [← hret]
  have hsorted : sortBy StageEntry.key read' = sortBy StageEntry.key read := by
    refine sortBy_eq_of_perm hsame fun a ha b hb hkey => ?_
    exact List.inj_on_of_nodup_map ((hsame.map _).nodup_iff.mpr hnodup) ha hb (key_injective hkey)
  rw [hsorted]

end Order

/-! ## The snapshot -/

section Snapshot

variable {prim : Primitives} {repo : GitRepository} {format : ObjectFormat} {bindControl : Bool}
  {entries : List StageEntry}

theorem readObjectFormat_eq_ok {raw : List UInt8} (h : readObjectFormat raw = .ok format) :
    raw = format.text := by
  simp only [readObjectFormat, bind_eq_ok] at h
  obtain ⟨-, -, h⟩ := h
  split at h
  · rename_i hraw
    cases h
    exact hraw
  · split at h
    · rename_i hraw
      cases h
      exact hraw
    · cases h

/-- The files are read from the working tree, not from the inventory. -/
theorem leafMessages_inventory (inventory : List UInt8) :
    leafMessages prim { repo with inventory := inventory } format bindControl entries =
      leafMessages prim repo format bindControl entries := by
  induction entries with
  | nil => rfl
  | cons entry entries ih =>
    rw [leafMessages, leafMessages, ih]
    rfl

theorem contentMessages_eq {sha256 : List UInt8 → Vector UInt8 32}
    {messages : List (List UInt8)} {control : Option (List UInt8)}
    (hformat : readObjectFormat repo.objectFormat = .ok format)
    (hentries : parseStageZeroInventory prim repo.inventory = .ok entries)
    (hmessages : leafMessages prim repo format bindControl entries = .ok (messages, control)) :
    contentMessages sha256 prim repo bindControl = hashedMessages sha256 format messages := by
  simp only [contentMessages, hformat, hentries, hmessages, bind, Except.bind, pure, Except.pure]

end Snapshot

/-- The roots of two snapshots are equal only when formats, paths, modes, payloads and object
    identities are, the control file left out, where the hash tells apart what they hash; and
    records that are listed in another order give the same snapshot. -/
theorem content_root_exact (sha256 : List UInt8 → Vector UInt8 32) (prim : Primitives)
    {repo repo' : GitRepository} {bindControl bindControl' : Bool}
    {root root' : RepositoryContentRoot} {control control' : Option (List UInt8)}
    (h : buildRepositoryContentSnapshot sha256 prim repo bindControl = .ok (root, control))
    (h' : buildRepositoryContentSnapshot sha256 prim repo' bindControl' = .ok (root', control'))
    (hsha : ∀ m ∈ contentMessages sha256 prim repo bindControl,
      ∀ m' ∈ contentMessages sha256 prim repo' bindControl', sha256 m = sha256 m' → m = m')
    (hdigest : root.digest = root'.digest) {inventory : List UInt8}
    (hperm : (stageRecords repo.inventory).Perm (stageRecords inventory)) :
    (repo.objectFormat = repo'.objectFormat ∧
      ∃ entries entries', parseStageZeroInventory prim repo.inventory = .ok entries ∧
        parseStageZeroInventory prim repo'.inventory = .ok entries' ∧
        trackedFiles repo entries = trackedFiles repo' entries') ∧
    buildRepositoryContentSnapshot sha256 prim { repo with inventory := inventory } bindControl =
      .ok (root, control) := by
  simp only [buildRepositoryContentSnapshot, bind_eq_ok, Prod.exists] at h h' ⊢
  obtain ⟨format, hformat, ⟨⟩, huntracked, entries, hentries, messages, _, hmessages, ⟨⟩, hbound,
    digest, hroot, hret⟩ := h
  obtain ⟨format', hformat', -, -, entries', hentries', messages', _, hmessages', -, -, digest',
    hroot', hret'⟩ := h'
  cases hret
  cases hret'
  obtain rfl : digest = digest' := hdigest
  constructor
  · rw [contentMessages_eq hformat hentries hmessages,
      contentMessages_eq hformat' hentries' hmessages'] at hsha
    obtain ⟨rfl, rfl⟩ := merkleRoot_inj hsha hroot hroot'
    refine ⟨(readObjectFormat_eq_ok hformat).trans (readObjectFormat_eq_ok hformat').symm,
      entries, entries', hentries, hentries', ?_⟩
    exact trackedFiles_inj (leafMessages_eq_ok hmessages) (leafMessages_eq_ok hmessages')
  · exact ⟨format, hformat, (), huntracked, entries, parseStageZeroInventory_perm hperm hentries,
      messages, control, (leafMessages_inventory inventory).trans hmessages, (), hbound, digest,
      hroot, rfl⟩

/-! ## Two files, listed in two orders, under two control files -/

namespace TwoFiles

def bytesOf (hex : String) : List UInt8 := (fromHex (asciiBytes hex)).getD []

def digestOf (hex : String) : Vector UInt8 32 := Vector.ofFn fun i => (bytesOf hex).getD i 0

def makefile : TrackedFile :=
  ⟨asciiBytes "Makefile", asciiBytes "100644", asciiBytes "all:\n",
    asciiBytes "1263948fb882b8c4fd639b01e17969c825e79619"⟩

def script : TrackedFile :=
  ⟨asciiBytes "run.sh", asciiBytes "100755", asciiBytes "#!/bin/sh\n",
    asciiBytes "1a2485251c33a70432394c93fb89330ef214bfc9"⟩

def control : TrackedFile :=
  ⟨productionSemanticRootPath, asciiBytes "100644", asciiBytes "\x7b\x7d\n",
    asciiBytes "0967ef424bce6791893e9a57bb952f80fd536e93"⟩

def otherControl : TrackedFile :=
  ⟨productionSemanticRootPath, asciiBytes "100644", asciiBytes "[]\n",
    asciiBytes "fe51488c7066f6687ef680d6bfaa4f7768ef205c"⟩

/-- The digests of SHA-1 for the four files. -/
def prim : Primitives where
  normaliseNfc text := text
  objectHash _ message :=
    match [makefile, script, control, otherControl].find? fun file =>
      blobMessage file.payload = message with
    | some file => (fromHex file.objectId).getD []
    | none => []

def leaf (file : TrackedFile) : List UInt8 :=
  match leafMessage .sha1 file with
  | .ok message => message
  | .error _ => []

/-- The digests of SHA-256 for the two leaves, the node and the root. -/
def sha256 (message : List UInt8) : Vector UInt8 32 :=
  let makefileDigest := digestOf "9c9b49f63044b5f024d85d0a31c6dbdb2e100ccb39ac0d99bc33028e207e2f6e"
  let scriptDigest := digestOf "5bc8b2c667c4008eb55fd7caad0ef85c9d3d75cd2856948d8cf340231f69ea9e"
  let node := digestOf "ae738ed2390656c415c5be1c1c963dacdb29ec6a7d87a26c4217eb0ad99b46af"
  if message = leaf makefile then makefileDigest
  else if message = leaf script then scriptDigest
  else if message = nodeMessage (makefileDigest, scriptDigest) then node
  else if message = rootMessage .sha1 (bigEndian 8 2) node then
    digestOf "7de3410f4b5a875a0d52cdb00c05e8eb3505e486e19154b384fa5143d9aebca2"
  else digestOf ""

def record (file : TrackedFile) : List UInt8 :=
  file.mode ++ 32 :: (file.objectId ++ asciiBytes " 0\t" ++ file.path ++ [0])

/-- A repository of three tracked files. -/
def repository (files : List TrackedFile) : GitRepository where
  objectFormat := asciiBytes "sha1"
  inventory := files.flatMap record
  untracked := []
  workingFile path :=
    match files.find? fun file => file.path = path with
    | some file => .regular (file.mode = asciiBytes "100755") file.payload
    | none => .missing

def root : RepositoryContentRoot :=
  ⟨asciiBytes "7de3410f4b5a875a0d52cdb00c05e8eb3505e486e19154b384fa5143d9aebca2", .sha1, 2⟩

theorem snapshots :
    buildRepositoryContentSnapshot sha256 prim (repository [makefile, script, control]) false =
      .ok (root, none) ∧
    buildRepositoryContentSnapshot sha256 prim (repository [otherControl, script, makefile]) true =
      .ok (root, some (asciiBytes "[]\n")) ∧
    (∀ m ∈ contentMessages sha256 prim (repository [makefile, script, control]) false,
      ∀ m' ∈ contentMessages sha256 prim (repository [otherControl, script, makefile]) true,
        sha256 m = sha256 m' → m = m') ∧
    (stageRecords (repository [makefile, script, control]).inventory).Perm
      (stageRecords (repository [script, control, makefile]).inventory) := by
  decide +kernel

theorem content_root_exact_two_files :
    let repo := repository [makefile, script, control]
    let repo' := repository [otherControl, script, makefile]
    let inventory := (repository [script, control, makefile]).inventory
    (repo.objectFormat = repo'.objectFormat ∧
      ∃ entries entries', parseStageZeroInventory prim repo.inventory = .ok entries ∧
        parseStageZeroInventory prim repo'.inventory = .ok entries' ∧
        trackedFiles repo entries = trackedFiles repo' entries') ∧
    buildRepositoryContentSnapshot sha256 prim { repo with inventory := inventory } false =
      .ok (root, none) :=
  content_root_exact sha256 prim snapshots.1 snapshots.2.1 snapshots.2.2.1 rfl snapshots.2.2.2

end TwoFiles

end Custombuild.Release
