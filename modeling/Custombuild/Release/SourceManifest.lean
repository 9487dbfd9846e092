/-
  The source manifest of an image build, and when it covers every file that Docker sees
  (`source_manifest_covers_iff`).
  Source: `scripts/source_manifest.py`, `_discover_paths` and `build_source_manifest`.

  A tree holds regular files only.  What only raises is left out but for the old source root, and so
  are the constants of the manifest; the order of a walk is lost in the final sort.
-/
import Mathlib.Data.String.Basic
import Custombuild.Lib.SortBy
import Custombuild.Release.DockerIgnore

namespace Custombuild.Release

open Custombuild.Lib

/-! ## Trees -/

structure FileContent where
  bytes : List UInt8
  executable : Bool
deriving DecidableEq

inductive Node
  | file (content : FileContent)
  | directory (children : List (Segment × Node))

mutual

/-- The files of a tree by their paths. -/
def Node.files (path : Path) : Node → List (Path × FileContent)
  | .file content => [(path, content)]
  | .directory children => filesIn path children

def filesIn (path : Path) : List (Segment × Node) → List (Path × FileContent)
  | [] => []
  | (name, node) :: children => node.files (path ++ [name]) ++ filesIn path children

end

/-! ## The inputs -/

def applicationBuildInputs : List Path :=
  [".github/workflows", ".dockerignore", ".grype.yaml", "Makefile", "apps/web", "cad", "cam",
    "compose.external-production.yml", "compose.registry.yml", "compose.yml", "infra",
    "package.json", "packages", "pnpm-lock.yaml", "pnpm-workspace.yaml", "postprocessors",
    "pyproject.toml", "scripts", "security", "services", "uv.lock"].map
      fun text : String => pathParts text.toList

def releaseControlInputs : List Path := [pathParts ".github/workflows".toList]

def legacySourceRoot : Segment := "prod".toList

def isApplicationBuildInput (path : Path) : Bool :=
  applicationBuildInputs.any fun input => input.isPrefixOf path

def isReleaseControlPathOrAncestor (path : Path) : Bool :=
  releaseControlInputs.any fun input => input.isPrefixOf path || path.isPrefixOf input

/-! ## The walk -/

inductive Discovered
  | directory
  | file (content : FileContent)
deriving DecidableEq

mutual

/-- A path of the walk.  A directory that is ignored is not entered unless a negation may bring
    something back. -/
def Node.discover (rules : List IgnoreRule) (path : Path) : Node → List (Path × Discovered)
  | .file content =>
    if isIgnored rules path false && !isReleaseControlPathOrAncestor path then []
    else [(path, .file content)]
  | .directory children =>
    let ignored := isIgnored rules path true
    let releaseControl := isReleaseControlPathOrAncestor path
    if ignored && !hasNegation rules && !releaseControl then []
    else (if !ignored || releaseControl then [(path, .directory)] else []) ++
      discoverIn rules path children

def discoverIn (rules : List IgnoreRule) (path : Path) :
    List (Segment × Node) → List (Path × Discovered)
  | [] => []
  | (name, node) :: children =>
    node.discover rules (path ++ [name]) ++ discoverIn rules path children

end

/-- The text of a path. -/
def pathText (path : Path) : String := String.ofList (List.intercalate ['/'] path)

/-- `_discover_paths` -/
def discoverPaths (rules : List IgnoreRule) (root : List (Segment × Node)) :
    List (Path × Discovered) :=
  (sortBy (fun item => pathText item.1) (discoverIn rules [] root)).filter fun item =>
    isApplicationBuildInput item.1

/-! ## The manifest -/

inductive ManifestEntry (Digest : Type)
  | directory (path : Path)
  | file (mode : Nat) (path : Path) (sha256 : Digest) (size : Nat)
deriving DecidableEq

structure SourceManifest (Digest : Type) where
  dockerignoreSha256 : Digest
  entries : List (ManifestEntry Digest)
deriving DecidableEq

section Manifest

variable {Digest : Type} (sha256 : List UInt8 → Digest)

/-- `_normalised_file_mode` -/
def normalisedFileMode (content : FileContent) : Nat := if content.executable then 0o755 else 0o644

def fileEntry (path : Path) (content : FileContent) : ManifestEntry Digest :=
  .file (normalisedFileMode content) path (sha256 content.bytes) content.bytes.length

def entryOf : Path × Discovered → ManifestEntry Digest
  | (path, .directory) => .directory path
  | (path, .file content) => fileEntry sha256 path content

/-- `build_source_manifest` of the text of `.dockerignore` and the tree. -/
def buildSourceManifest (dockerignore : String) (root : List (Segment × Node)) :
    Except String (SourceManifest Digest) := do
  require (!(root.any fun child => child.1 = legacySourceRoot))
    "legacy prod/ source tree is present; the repository root must be the only release source"
  let rules ← readRules dockerignore.toList
  return {
    dockerignoreSha256 := sha256 dockerignore.toUTF8.data.toList
    entries := (discoverPaths rules root).map (entryOf sha256) }

end Manifest

/-! ## What Docker sees -/

/-- The files under the inputs that Docker's rules leave in the build context. -/
def dockerVisible (rules : List IgnoreRule) (root : List (Segment × Node)) :
    List (Path × FileContent) :=
  (filesIn [] root).filter fun file =>
    isApplicationBuildInput file.1 && !dockerIgnores rules file.1

/-- Every file under the inputs that Docker sees is an entry. -/
def Covers {Digest : Type} (sha256 : List UInt8 → Digest) (rules : List IgnoreRule)
    (root : List (Segment × Node)) (manifest : SourceManifest Digest) : Prop :=
  ∀ file ∈ dockerVisible rules root, fileEntry sha256 file.1 file.2 ∈ manifest.entries

/-- No file under the inputs, outside the release controls, is misread. -/
def ReadsAsDocker (rules : List IgnoreRule) (root : List (Segment × Node)) : Prop :=
  ∀ file ∈ filesIn [] root, isApplicationBuildInput file.1 = true →
    isReleaseControlPathOrAncestor file.1 = false → NotMisread rules file.1

/-! ## What the walk finds -/

section Walk

variable {rules : List IgnoreRule}

mutual

/-- The path of a file in a tree goes on from that of the tree. -/
theorem Node.path_of_mem {path : Path} {node : Node} {file : Path × FileContent}
    (h : file ∈ node.files path) :
    ∃ below, file.1 = path ++ below := by
  cases node with
  | file content =>
    rw [Node.files, List.mem_singleton] at h
    exact ⟨[], by rw [h, List.append_nil]⟩
  | directory children =>
    rw [Node.files] at h
    obtain ⟨below, -, heq⟩ := path_of_mem_filesIn h
    exact ⟨below, heq⟩
termination_by sizeOf node

theorem path_of_mem_filesIn {path : Path} {children : List (Segment × Node)}
    {file : Path × FileContent} (h : file ∈ filesIn path children) :
    ∃ below, below ≠ [] ∧ file.1 = path ++ below := by
  match children with
  | [] => simp [filesIn] at h
  | (name, node) :: children =>
    rw [filesIn, List.mem_append] at h
    rcases h with h | h
    · obtain ⟨below, heq⟩ := node.path_of_mem h
      exact ⟨name :: below, List.cons_ne_nil _ _, by simp [heq]⟩
    · exact path_of_mem_filesIn h
termination_by sizeOf children

end

/-- Below a path that leads to no release control there is none. -/
theorem releaseControl_below {path : Path} (h : isReleaseControlPathOrAncestor path = false)
    (below : Path) :
    isReleaseControlPathOrAncestor (path ++ below) = false := by
  by_contra hbelow
  obtain ⟨input, hinput, hmatch⟩ := List.any_eq_true.mp (Bool.not_eq_false _ ▸ hbelow)
  have hnone : (input.isPrefixOf path || path.isPrefixOf input) = true := by
    rw [Bool.or_eq_true, List.isPrefixOf_iff_prefix, List.isPrefixOf_iff_prefix] at hmatch ⊢
    rcases hmatch with hmatch | hmatch
    · exact List.prefix_or_prefix_of_prefix hmatch (List.prefix_append _ _)
    · exact .inr ((List.prefix_append _ _).trans hmatch)
  have hany : isReleaseControlPathOrAncestor path = true := List.any_eq_true.mpr ⟨input, hinput, hnone⟩
  rw [hany] at h
  cases h

mutual

/-- The walk finds a file when it is not ignored or belongs to the release controls: what it does
    not enter holds no other. -/
theorem Node.mem_discover {path : Path} {node : Node} {found : Path} {content : FileContent} :
    (found, Discovered.file content) ∈ node.discover rules path ↔
      (found, content) ∈ node.files path ∧
        (isIgnored rules found false = false ∨ isReleaseControlPathOrAncestor found = true) := by
  cases node with
  | file given =>
    rw [Node.discover, Node.files, List.mem_singleton]
    by_cases hskip : (isIgnored rules path false && !isReleaseControlPathOrAncestor path) = true
    · rw [if_pos hskip]
      rw [Bool.and_eq_true, Bool.not_eq_true'] at hskip
      constructor
      · intro h
        cases h
      · rintro ⟨heq, hkept⟩
        obtain ⟨rfl, rfl⟩ := Prod.mk.inj heq
        rw [hskip.1, hskip.2] at hkept
        simp at hkept
    · rw [if_neg hskip, List.mem_singleton]
      rw [Bool.and_eq_true, Bool.not_eq_true', not_and, Bool.not_eq_false] at hskip
      constructor
      · intro heq
        obtain ⟨rfl, hcontent⟩ := Prod.mk.inj heq
        obtain rfl := Discovered.file.inj hcontent
        refine ⟨rfl, ?_⟩
        cases hignored : isIgnored rules found false with
        | false => exact .inl rfl
        | true => exact .inr (hskip hignored)
      · rintro ⟨heq, -⟩
        obtain ⟨rfl, rfl⟩ := Prod.mk.inj heq
        rfl
  | directory children =>
    rw [Node.discover, Node.files]
    by_cases hskip : (isIgnored rules path true && !hasNegation rules &&
        !isReleaseControlPathOrAncestor path) = true
    · rw [if_pos hskip]
      rw [Bool.and_eq_true, Bool.and_eq_true, Bool.not_eq_true', Bool.not_eq_true'] at hskip
      obtain ⟨⟨hignored, hnegation⟩, hcontrol⟩ := hskip
      constructor
      · intro h
        cases h
      · rintro ⟨hfile, hkept⟩
        obtain ⟨below, hbelow, rfl⟩ := path_of_mem_filesIn hfile
        rw [isIgnored_below hnegation hignored hbelow, releaseControl_below hcontrol] at hkept
        simp at hkept
    · rw [if_neg hskip, List.mem_append, mem_discoverIn]
      constructor
      · rintro (h | h)
        · split at h
          · rw [List.mem_singleton] at h
            cases h
          · cases h
        · exact h
      · exact .inr
termination_by sizeOf node

theorem mem_discoverIn {path : Path} {children : List (Segment × Node)} {found : Path}
    {content : FileContent} :
    (found, Discovered.file content) ∈ discoverIn rules path children ↔
      (found, content) ∈ filesIn path children ∧
        (isIgnored rules found false = false ∨ isReleaseControlPathOrAncestor found = true) := by
  match children with
  | [] => simp [discoverIn, filesIn]
  | (name, node) :: children =>
    rw [discoverIn, filesIn, List.mem_append, List.mem_append, node.mem_discover, mem_discoverIn]
    tauto
termination_by sizeOf children

end

end Walk

/-! ## Coverage -/

section Coverage

variable {Digest : Type} {sha256 : List UInt8 → Digest} {dockerignore : String}
  {rules : List IgnoreRule} {root : List (Segment × Node)} {manifest : SourceManifest Digest}

theorem entries_of_build (hrules : readRules dockerignore.toList = .ok rules)
    (h : buildSourceManifest sha256 dockerignore root = .ok manifest) :
    manifest = {
      dockerignoreSha256 := sha256 dockerignore.toUTF8.data.toList
      entries := (discoverPaths rules root).map (entryOf sha256) } := by
  simp only [buildSourceManifest, hrules, bind_eq_ok] at h
  obtain ⟨-, -, read, hread, h⟩ := h
  obtain rfl := Except.ok.inj hread
  exact (Except.ok.inj h).symm

/-- A file entry of the manifest is that of a file of the tree that the rules keep. -/
theorem fileEntry_mem_iff (hrules : readRules dockerignore.toList = .ok rules)
    (h : buildSourceManifest sha256 dockerignore root = .ok manifest) {mode size : Nat} {path : Path}
    {digest : Digest} :
    ManifestEntry.file mode path digest size ∈ manifest.entries ↔
      ∃ content, (path, content) ∈ filesIn [] root ∧ isApplicationBuildInput path = true ∧
        (isIgnored rules path false = false ∨ isReleaseControlPathOrAncestor path = true) ∧
        fileEntry sha256 path content = .file mode path digest size := by
  rw [entries_of_build hrules h, List.mem_map]
  constructor
  · rintro ⟨⟨found, kind⟩, hmem, hentry⟩
    rw [discoverPaths, List.mem_filter, (sortBy_perm _ _).mem_iff] at hmem
    cases kind with
    | directory => cases hentry
    | file content =>
      obtain ⟨hfound, hinput⟩ := hmem
      obtain ⟨hfile, hkept⟩ := mem_discoverIn.mp hfound
      obtain ⟨-, rfl, -, -⟩ := ManifestEntry.file.inj hentry
      exact ⟨content, hfile, hinput, hkept, hentry⟩
  · rintro ⟨content, hfile, hinput, hkept, hentry⟩
    refine ⟨(path, .file content), ?_, hentry⟩
    rw [discoverPaths, List.mem_filter, (sortBy_perm _ _).mem_iff]
    exact ⟨mem_discoverIn.mpr ⟨hfile, hkept⟩, hinput⟩

theorem mem_dockerVisible {file : Path × FileContent} : file ∈ dockerVisible rules root ↔
    file ∈ filesIn [] root ∧ isApplicationBuildInput file.1 = true ∧
      dockerIgnores rules file.1 = false := by
  rw [dockerVisible, List.mem_filter, Bool.and_eq_true, Bool.not_eq_true']

theorem covers_iff (hrules : readRules dockerignore.toList = .ok rules)
    (h : buildSourceManifest sha256 dockerignore root = .ok manifest) :
    Covers sha256 rules root manifest ↔ ReadsAsDocker rules root := by
  constructor
  · intro hcovers file hfile hinput hcontrol
    refine keeps_iff.mp fun hdocker => ?_
    have hentry := hcovers file (mem_dockerVisible.mpr ⟨hfile, hinput, hdocker⟩)
    obtain ⟨-, -, -, hkept, -⟩ := (fileEntry_mem_iff hrules h).mp hentry
    rw [hcontrol] at hkept
    simpa using hkept
  · intro hreads file hvisible
    obtain ⟨hfile, hinput, hdocker⟩ := mem_dockerVisible.mp hvisible
    refine (fileEntry_mem_iff hrules h).mpr ⟨file.2, hfile, hinput, ?_, rfl⟩
    cases hcontrol : isReleaseControlPathOrAncestor file.1 with
    | true => exact .inr rfl
    | false => exact .inl (keeps_iff.mpr (hreads file hfile hinput hcontrol) hdocker)

/-- Rules with slashes and without negations are read as Docker reads them in every tree. -/
theorem readsAsDocker_of_slashes (root : List (Segment × Node))
    (h : ∀ rule ∈ rules, rule.isBasename = false ∧ rule.negated = false) :
    ReadsAsDocker rules root := by
  intro file _ _ _ candidate rule after hdecides _ hmisread
  obtain ⟨before, hsplit⟩ := hdecides.split
  rcases hmisread with ⟨hbasename, -⟩ | ⟨other, hother, hnegated, -⟩
  · have hrule : rule ∈ rules := by
      rw [hsplit]
      exact List.mem_append_right _ List.mem_cons_self
    rw [(h rule hrule).1] at hbasename
    cases hbasename
  · have hrule : other ∈ rules := by
      rw [hsplit]
      exact List.mem_append_right _ (List.mem_cons_of_mem _ hother)
    rw [(h other hrule).2] at hnegated
    cases hnegated

/-- A visible file of one tree is one of every tree with the same manifest. -/
theorem visible_of_covers (hsha : Function.Injective sha256)
    (hrules : readRules dockerignore.toList = .ok rules) (hcovers : Covers sha256 rules root manifest)
    {otherRoot : List (Segment × Node)}
    (hother : buildSourceManifest sha256 dockerignore otherRoot = .ok manifest)
    {file : Path × FileContent} (h : file ∈ dockerVisible rules root) :
    file ∈ dockerVisible rules otherRoot := by
  obtain ⟨-, hinput, hdocker⟩ := mem_dockerVisible.mp h
  obtain ⟨content, hfile, -, -, hentry⟩ := (fileEntry_mem_iff hrules hother).mp (hcovers file h)
  obtain ⟨hmode, -, hdigest, -⟩ := ManifestEntry.file.inj hentry
  have hsame : content = file.2 := by
    obtain ⟨bytes, executable⟩ := content
    obtain ⟨path, ⟨bytes', executable'⟩⟩ := file
    obtain rfl := hsha hdigest
    cases executable <;> cases executable' <;> simp_all [normalisedFileMode]
  rw [hsame] at hfile
  exact mem_dockerVisible.mpr ⟨hfile, hinput, hdocker⟩

end Coverage

/-! ## Equal manifests -/

mutual

/-- The names in a directory differ and have no slash. -/
def Node.wellNamed : Node → Bool
  | .file _ => true
  | .directory children => wellNamedIn children

def wellNamedIn : List (Segment × Node) → Bool
  | [] => true
  | (name, node) :: children =>
    !name.contains '/' && (children.all fun child => child.1 ≠ name) && node.wellNamed &&
      wellNamedIn children

end

theorem wellNamedIn_cons {name : Segment} {node : Node} {children : List (Segment × Node)} :
    wellNamedIn ((name, node) :: children) = true ↔ '/' ∉ name ∧
      (∀ child ∈ children, child.1 ≠ name) ∧ node.wellNamed = true ∧ wellNamedIn children = true := by
  simp [wellNamedIn, and_assoc]

section Equal

variable {rules : List IgnoreRule} {path : Path} {item : Path × Discovered}

mutual

theorem Node.below_of_discover {path : Path} {node : Node} (hnames : node.wellNamed = true)
    (h : item ∈ node.discover rules path) :
    ∃ below : Path, item.1 = path ++ below ∧ ∀ name ∈ below, '/' ∉ name := by
  cases node with
  | file content =>
    rw [Node.discover] at h
    split at h
    · cases h
    · rw [List.mem_singleton.mp h]
      exact ⟨[], by simp⟩
  | directory children =>
    rw [Node.discover] at h
    split at h
    · cases h
    · rcases List.mem_append.mp h with h | h
      · split at h
        · rw [List.mem_singleton.mp h]
          exact ⟨[], by simp⟩
        · cases h
      · obtain ⟨name, -, below, hpath, hbelow⟩ := below_of_discoverIn hnames h
        exact ⟨_, hpath, hbelow⟩
termination_by sizeOf node

theorem below_of_discoverIn {path : Path} {children : List (Segment × Node)}
    (hnames : wellNamedIn children = true) (h : item ∈ discoverIn rules path children) :
    ∃ child ∈ children, ∃ below : Path, item.1 = path ++ child.1 :: below ∧
      ∀ name ∈ child.1 :: below, '/' ∉ name := by
  match children with
  | [] => cases h
  | (name, node) :: children =>
    obtain ⟨hname, -, hnode, hrest⟩ := wellNamedIn_cons.mp hnames
    rcases List.mem_append.mp h with h | h
    · obtain ⟨below, hpath, hbelow⟩ := node.below_of_discover hnode h
      exact ⟨_, List.mem_cons_self, below, by rw [hpath, List.append_assoc]; rfl,
        List.forall_mem_cons.mpr ⟨hname, hbelow⟩⟩
    · obtain ⟨child, hchild, below, hpath, hbelow⟩ := below_of_discoverIn hrest h
      exact ⟨child, List.mem_cons_of_mem _ hchild, below, hpath, hbelow⟩
termination_by sizeOf children

end

mutual

/-- The walk finds every path once. -/
theorem Node.discover_nodup {path : Path} {node : Node} (hnames : node.wellNamed = true) :
    ((node.discover rules path).map Prod.fst).Nodup := by
  cases node with
  | file content =>
    rw [Node.discover]
    split <;> simp
  | directory children =>
    have hnotMem : path ∉ (discoverIn rules path children).map Prod.fst := by
      intro hmem
      obtain ⟨item, hitem, hpath⟩ := List.mem_map.mp hmem
      obtain ⟨child, -, below, hbelow, -⟩ := below_of_discoverIn hnames hitem
      simp [hpath] at hbelow
    have hrest : ((discoverIn rules path children).map Prod.fst).Nodup :=
      discoverIn_nodup hnames
    rw [Node.discover]
    split
    · exact List.nodup_nil
    · split
      · exact List.nodup_cons.mpr ⟨hnotMem, hrest⟩
      · exact hrest
termination_by sizeOf node

theorem discoverIn_nodup {path : Path} {children : List (Segment × Node)}
    (hnames : wellNamedIn children = true) :
    ((discoverIn rules path children).map Prod.fst).Nodup := by
  match children with
  | [] => exact List.nodup_nil
  | (name, node) :: children =>
    obtain ⟨-, hother, hnode, hrest⟩ := wellNamedIn_cons.mp hnames
    rw [discoverIn, List.map_append, List.nodup_append]
    refine ⟨node.discover_nodup hnode, discoverIn_nodup hrest, ?_⟩
    rintro found hfound _ hagain rfl
    obtain ⟨item, hitem, rfl⟩ := List.mem_map.mp hfound
    obtain ⟨item', hitem', hsame⟩ := List.mem_map.mp hagain
    obtain ⟨below, hpath, -⟩ := node.below_of_discover hnode hitem
    obtain ⟨child, hchild, below', hpath', -⟩ := below_of_discoverIn hrest hitem'
    rw [hsame, hpath, List.append_assoc, List.append_cancel_left_eq] at hpath'
    exact hother child hchild (List.cons.inj hpath').1.symm
termination_by sizeOf children

end

/-- A found path is read off its text. -/
theorem eq_of_pathText {root : List (Segment × Node)} (hnames : wellNamedIn root = true)
    {other : Path × Discovered} (h : item ∈ discoverIn rules [] root)
    (hother : other ∈ discoverIn rules [] root) (htext : pathText item.1 = pathText other.1) :
    item = other := by
  obtain ⟨child, -, below, hpath, hbelow⟩ := below_of_discoverIn hnames h
  obtain ⟨child', -, below', hpath', hbelow'⟩ := below_of_discoverIn hnames hother
  have hsame : item.1 = other.1 := by
    have hjoined := String.ofList_inj.mp htext
    rw [hpath, hpath', List.nil_append, List.nil_append] at hjoined ⊢
    rw [← List.splitOn_intercalate '/' hbelow (List.cons_ne_nil _ _), hjoined,
      List.splitOn_intercalate '/' hbelow' (List.cons_ne_nil _ _)]
  exact List.inj_on_of_nodup_map (discoverIn_nodup hnames) h hother hsame

theorem mem_discoverPaths {root : List (Segment × Node)} :
    item ∈ discoverPaths rules root ↔
      item ∈ discoverIn rules [] root ∧ isApplicationBuildInput item.1 = true := by
  rw [discoverPaths, List.mem_filter, mem_sortBy]

theorem discoverPaths_nodup {root : List (Segment × Node)} (hnames : wellNamedIn root = true) :
    (discoverPaths rules root).Nodup :=
  ((sortBy_perm _ _).nodup_iff.mpr (discoverIn_nodup hnames).of_map).filter _

/-- The order in which a directory lists its names does not matter. -/
theorem discoverPaths_eq_iff {root otherRoot : List (Segment × Node)}
    (hnames : wellNamedIn root = true) (hotherNames : wellNamedIn otherRoot = true) :
    discoverPaths rules root = discoverPaths rules otherRoot ↔
      ∀ item, item ∈ discoverPaths rules root ↔ item ∈ discoverPaths rules otherRoot := by
  refine ⟨fun h item => by rw [h], fun h => ?_⟩
  have hperm := (List.perm_ext_iff_of_nodup (discoverPaths_nodup hnames)
    (discoverPaths_nodup hotherNames)).mpr h
  refine hperm.eq_of_pairwise (fun a b ha hb hab hba => ?_) ((sortBy_pairwise _ _).filter _)
    ((sortBy_pairwise _ _).filter _)
  exact eq_of_pathText hnames (mem_discoverPaths.mp ha).1 (mem_discoverPaths.mp ((h b).mpr hb)).1
    (le_antisymm hab hba)

variable {Digest : Type} {sha256 : List UInt8 → Digest}

/-- An entry fixes the kind of its path, its bytes and whether they are executable. -/
theorem entryOf_injective (hsha : Function.Injective sha256) :
    Function.Injective (entryOf sha256) := by
  rintro ⟨path, _ | ⟨bytes, executable⟩⟩ ⟨path', _ | ⟨bytes', executable'⟩⟩ h
  · rw [ManifestEntry.directory.inj h]
  · cases h
  · cases h
  · obtain ⟨hmode, rfl, hdigest, -⟩ := ManifestEntry.file.inj h
    obtain rfl := hsha hdigest
    cases executable <;> cases executable' <;> simp_all [normalisedFileMode]

/-- Two manifests agree exactly when the ignore files do and the walks find the same inputs. -/
theorem source_manifests_equal_iff {ignore otherIgnore : String} {otherRules : List IgnoreRule}
    {root otherRoot : List (Segment × Node)} {manifest otherManifest : SourceManifest Digest}
    (hsha : Function.Injective sha256) (hnames : wellNamedIn root = true)
    (hotherNames : wellNamedIn otherRoot = true) (hrules : readRules ignore.toList = .ok rules)
    (hotherRules : readRules otherIgnore.toList = .ok otherRules)
    (h : buildSourceManifest sha256 ignore root = .ok manifest)
    (hother : buildSourceManifest sha256 otherIgnore otherRoot = .ok otherManifest) :
    manifest = otherManifest ↔ ignore = otherIgnore ∧
      ∀ item, item ∈ discoverPaths rules root ↔ item ∈ discoverPaths otherRules otherRoot := by
  rw [entries_of_build hrules h, entries_of_build hotherRules hother, SourceManifest.mk.injEq,
    List.map_inj_right fun _ _ heq => entryOf_injective hsha heq]
  have htext : sha256 ignore.toUTF8.data.toList = sha256 otherIgnore.toUTF8.data.toList ↔
      ignore = otherIgnore := by
    refine ⟨fun hdigest => ?_, fun heq => by rw [heq]⟩
    exact String.toByteArray_inj.mp (ByteArray.ext (Array.toList_inj.mp (hsha hdigest)))
  rw [htext]
  refine and_congr_right fun heq => ?_
  subst heq
  obtain rfl := Except.ok.inj (hrules.symm.trans hotherRules)
  exact discoverPaths_eq_iff hnames hotherNames

end Equal

/-! A database below a package, which a pattern for the root excludes from the manifest. -/

namespace NestedDatabase

def dockerignore : String := "*.db\n"

def rules : List IgnoreRule := [⟨"*.db".toList, false, false, false⟩]

def root : List (Segment × Node) :=
  [("packages".toList, .directory [("catalogue.db".toList, .file ⟨[1], false⟩),
    ("domain.py".toList, .file ⟨[2], false⟩)])]

def manifest : SourceManifest (List UInt8) :=
  { dockerignoreSha256 := dockerignore.toUTF8.data.toList
    entries := [.directory ["packages".toList],
      .file 0o644 ["packages".toList, "domain.py".toList] [2] 1] }

end NestedDatabase

/-! Patterns with slashes, read alike by both. -/

namespace RootedPatterns

def dockerignore : String := "/tmp\n**/*.pyc\n"

def rules : List IgnoreRule :=
  [⟨"tmp".toList, false, false, true⟩, ⟨"**/*.pyc".toList, false, false, false⟩]

def root : List (Segment × Node) :=
  [("packages".toList, .directory [("domain.py".toList, .file ⟨[2], false⟩)])]

/-- The same inputs, beside files that are no inputs and files that are ignored. -/
def otherRoot : List (Segment × Node) :=
  [("tmp".toList, .directory [("notes".toList, .file ⟨[3], false⟩)]),
    ("packages".toList, .directory [("domain.pyc".toList, .file ⟨[4], false⟩),
      ("domain.py".toList, .file ⟨[2], false⟩)])]

def manifest : SourceManifest (List UInt8) :=
  { dockerignoreSha256 := dockerignore.toUTF8.data.toList
    entries := [.directory ["packages".toList],
      .file 0o644 ["packages".toList, "domain.py".toList] [2] 1] }

theorem rules_have_slashes : ∀ rule ∈ rules, rule.isBasename = false ∧ rule.negated = false := by
  decide +kernel

theorem manifests_built : readRules dockerignore.toList = .ok rules ∧
    buildSourceManifest id dockerignore root = .ok manifest ∧
    buildSourceManifest id dockerignore otherRoot = .ok manifest := by
  decide +kernel

theorem source_manifests_equal_iff_rooted :
    buildSourceManifest id dockerignore root = buildSourceManifest id dockerignore otherRoot ∧
      ∀ item, item ∈ discoverPaths rules root ↔ item ∈ discoverPaths rules otherRoot := by
  obtain ⟨hrules, hmanifest, hother⟩ := manifests_built
  refine ⟨hmanifest.trans hother.symm, ?_⟩
  exact ((source_manifests_equal_iff Function.injective_id (by decide +kernel) (by decide +kernel)
    hrules hrules hmanifest hother).mp rfl).2

end RootedPatterns

end Custombuild.Release
