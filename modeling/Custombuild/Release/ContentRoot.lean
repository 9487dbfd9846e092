/-
  The content root of a repository: every tracked file is hashed into a leaf, the leaves into a
  tree, and the tree with the object format and the number of leaves into the root.
  Source: `scripts/source_manifest.py`, `_safe_git_path`, `_parse_stage_zero_inventory`,
  `_read_index_bound_regular_file`, `_merkle_root` and `_build_repository_content_snapshot`.

  A repository is one snapshot of what Git and the file system answer, so the checks that nothing
  changes meanwhile are left out; so is the check of the top level.  ASCII texts are kept as their
  bytes.  A message leaves out the quoted path or format that the source appends to it.
-/
import Custombuild.Lib.Bytes
import Custombuild.Lib.Checked
import Custombuild.Lib.MerkleTree
import Custombuild.Lib.SortBy
import Mathlib.Data.List.Lex

namespace Custombuild.Release

open Custombuild.Lib

/-! ## The repository -/

inductive ObjectFormat
  | sha1
  | sha256
deriving DecidableEq

def ObjectFormat.text : ObjectFormat → List UInt8
  | .sha1 => asciiBytes "sha1"
  | .sha256 => asciiBytes "sha256"

/-- What stands at a path of the working tree. -/
inductive WorkingFile
  | missing
  | unopenable
  | notRegular
  | regular (executable : Bool) (payload : List UInt8)
deriving DecidableEq

def WorkingFile.payload : WorkingFile → List UInt8
  | .regular _ payload => payload
  | _ => []

structure GitRepository where
  objectFormat : List UInt8
  /-- The output of `git ls-files --stage -z`. -/
  inventory : List UInt8
  /-- The output of `git ls-files --others -z`. -/
  untracked : List UInt8
  workingFile : List UInt8 → WorkingFile

/-- Normalisation of Unicode text, and the digest of an object format. -/
structure Primitives where
  normaliseNfc : List Char → List Char
  objectHash : ObjectFormat → List UInt8 → List UInt8

def productionSemanticRootPath : List UInt8 := asciiBytes "security/production-semantic-root.json"

/-- `object_format`, read from the answer of Git. -/
def readObjectFormat (raw : List UInt8) : Except String ObjectFormat := do
  require (raw.all fun b => b < 128) "Git object format must be ASCII"
  if raw = ObjectFormat.sha1.text then return .sha1
  else if raw = ObjectFormat.sha256.text then return .sha256
  else .error "unsupported Git object format"

/-! ## The inventory -/

/-- `_safe_git_path` -/
def safeGitPath (prim : Primitives) (rawPath : List UInt8) : Except String String := do
  require (!(rawPath.isEmpty || rawPath.head? = some 47 || rawPath.contains 92))
    "tracked repository contains an unsafe path"
  let path ← demand (String.fromUTF8? (ByteArray.mk rawPath.toArray))
    "tracked repository paths must be valid UTF-8"
  require (prim.normaliseNfc (charsOf path) = charsOf path)
    "tracked repository path is not NFC-normalised"
  require (!((charsOf path).any fun c => c.toNat < 0x20 || c.toNat = 0x7F))
    "tracked repository path contains control bytes"
  require (!(((charsOf path).splitOn '/').any fun part =>
      part = [] || part = ['.'] || part = ['.', '.']))
    "tracked repository path is not canonical"
  return path

structure StageEntry where
  path : List UInt8
  mode : List UInt8
  objectId : List UInt8
deriving DecidableEq

/-- A record: mode, object and stage between blanks, and the path behind the first tab. -/
def splitRecord (record : List UInt8) :
    Option (List UInt8 × List UInt8 × List UInt8 × List UInt8) :=
  match record.dropWhile (· != 9) with
  | [] => none
  | _ :: rawPath =>
    match (record.takeWhile (· != 9)).splitOn 32 with
    | [mode, objectId, stage] =>
      if (mode ++ objectId ++ stage).all fun b => b < 128 then some (mode, objectId, stage, rawPath)
      else none
    | _ => none

def parseRecord (prim : Primitives) (record : List UInt8) : Except String StageEntry := do
  let (mode, objectId, stage, rawPath) ← demand (splitRecord record)
    "Git index contains a malformed stage entry"
  let _ ← safeGitPath prim rawPath
  require (stage = asciiBytes "0") "Git index contains unresolved non-stage-0 entries"
  return ⟨rawPath, mode, objectId⟩

/-- The loop over the records, `seen` being the paths so far. -/
def parseRecords (prim : Primitives) :
    List (List UInt8) → List (List UInt8) → Except String (List StageEntry)
  | _, [] => .ok []
  | seen, record :: records =>
    if record = [] then parseRecords prim seen records
    else do
      let entry ← parseRecord prim record
      require (entry.path ∉ seen) "Git index contains a duplicate tracked path"
      let entries ← parseRecords prim (entry.path :: seen) records
      return entry :: entries

/-- The order of byte texts. -/
def StageEntry.key (entry : StageEntry) : List Nat := entry.path.map UInt8.toNat

/-- `_parse_stage_zero_inventory` -/
def parseStageZeroInventory (prim : Primitives) (payload : List UInt8) :
    Except String (List StageEntry) := do
  let entries ← parseRecords prim [] (payload.splitOn 0)
  return sortBy StageEntry.key entries

/-- `_assert_no_untracked_inputs` -/
def assertNoUntrackedInputs (prim : Primitives) (payload : List UInt8) : Except String Unit := do
  forEach (fun rawPath => do let _ ← safeGitPath prim rawPath)
    ((payload.splitOn 0).filter fun rawPath => rawPath ≠ [])
  require ((payload.splitOn 0).all fun rawPath =>
      rawPath = [] || rawPath = productionSemanticRootPath)
    "repository contains non-ignored untracked paths"

/-! ## The files -/

/-- The bytes whose digest is the object identity of a file. -/
def blobMessage (payload : List UInt8) : List UInt8 :=
  asciiBytes ("blob " ++ toString payload.length) ++ 0 :: payload

/-- `_read_index_bound_regular_file` -/
def readIndexBoundRegularFile (prim : Primitives) (repo : GitRepository) (entry : StageEntry)
    (format : ObjectFormat) : Except String (List UInt8) := do
  let pathText ← safeGitPath prim entry.path
  require (entry.mode ≠ asciiBytes "120000") ("tracked symlinks are forbidden: " ++ pathText)
  require (entry.mode ≠ asciiBytes "160000") ("tracked submodules are forbidden: " ++ pathText)
  require (entry.mode = asciiBytes "100644" || entry.mode = asciiBytes "100755")
    ("unsupported Git mode " ++ asciiText entry.mode ++ " for " ++ pathText)
  match repo.workingFile entry.path with
  | .missing => .error ("tracked repository file is missing: " ++ pathText)
  | .unopenable => .error ("cannot safely open tracked file: " ++ pathText)
  | .notRegular => .error ("tracked path is not a regular file: " ++ pathText)
  | .regular executable payload =>
    require (executable = decide (entry.mode = asciiBytes "100755"))
      ("working-tree mode differs from the Git index: " ++ pathText)
    require (hexText (prim.objectHash format (blobMessage payload)) = entry.objectId)
      ("working-tree bytes differ from the Git index: " ++ pathText)
    return payload

/-- `int.to_bytes(8, "big")` -/
def toBytes8 (n : Nat) : Except String (List UInt8) :=
  if n < 256 ^ 8 then .ok (bigEndian 8 n) else .error "int too big to convert"

/-- A tracked file with what the index and the working tree hold of it. -/
structure TrackedFile where
  path : List UInt8
  mode : List UInt8
  payload : List UInt8
  objectId : List UInt8
deriving DecidableEq

/-- What is hashed into the leaf of a file. -/
def leafMessage (format : ObjectFormat) (file : TrackedFile) : Except String (List UInt8) := do
  let pathLength ← toBytes8 file.path.length
  let payloadLength ← toBytes8 file.payload.length
  let objectId ← demand (fromHex file.objectId) "non-hexadecimal number found in fromhex() arg"
  return asciiBytes "custombuild.repository-content-leaf.v1" ++ 0 :: (pathLength ++ (file.path ++
    (file.mode ++ (payloadLength ++ (file.payload ++ (format.text ++ 0 :: objectId))))))

/-- The checks of the control file, and its bytes when they are bound. -/
def readControl (prim : Primitives) (repo : GitRepository) (format : ObjectFormat)
    (bindControl : Bool) (entry : StageEntry) : Except String (Option (List UInt8)) := do
  require (entry.mode ≠ asciiBytes "120000")
    "tracked symlinks are forbidden: security/production-semantic-root.json"
  require (entry.mode ≠ asciiBytes "160000")
    "tracked submodules are forbidden: security/production-semantic-root.json"
  require (entry.mode = asciiBytes "100644")
    "production semantic root control must use Git mode 100644"
  if bindControl then (readIndexBoundRegularFile prim repo entry format).map some
  else return none

/-- The loop over the entries: the messages of the leaves, and the bytes of the control file when
    they are bound. -/
def leafMessages (prim : Primitives) (repo : GitRepository) (format : ObjectFormat)
    (bindControl : Bool) :
    List StageEntry → Except String (List (List UInt8) × Option (List UInt8))
  | [] => .ok ([], none)
  | entry :: entries =>
    if entry.path = productionSemanticRootPath then do
      let control ← readControl prim repo format bindControl entry
      let (messages, later) ← leafMessages prim repo format bindControl entries
      return (messages, later.or control)
    else do
      let payload ← readIndexBoundRegularFile prim repo entry format
      let message ← leafMessage format ⟨entry.path, entry.mode, payload, entry.objectId⟩
      let (messages, control) ← leafMessages prim repo format bindControl entries
      return (message :: messages, control)

/-! ## The tree and the root -/

section Root

variable (sha256 : List UInt8 → Vector UInt8 32)

def nodeDomain : List UInt8 := asciiBytes "custombuild.repository-content-node.v1" ++ [0]

def nodeMessage (pair : Vector UInt8 32 × Vector UInt8 32) : List UInt8 :=
  nodeDomain ++ (pair.1.toList ++ pair.2.toList)

/-- The digest of a node. -/
def nodeHash (pair : Vector UInt8 32 × Vector UInt8 32) : Vector UInt8 32 :=
  sha256 (nodeMessage pair)

/-- The digest of the tree; without leaves there is a digest for the empty tree. -/
def treeDigest (leaves : List (Vector UInt8 32)) : Vector UInt8 32 :=
  (treeRoot (nodeHash sha256) leaves).getD (sha256 (nodeDomain ++ asciiBytes "empty"))

def rootMessage (format : ObjectFormat) (count : List UInt8) (tree : Vector UInt8 32) :
    List UInt8 :=
  asciiBytes "custombuild.repository-content-root.v1" ++ 0 :: (format.text ++ 0 :: (count ++
    tree.toList))

/-- `_merkle_root` -/
def merkleRoot (leaves : List (Vector UInt8 32)) (format : ObjectFormat) :
    Except String (List UInt8) := do
  let count ← toBytes8 leaves.length
  return hexText (sha256 (rootMessage format count (treeDigest sha256 leaves))).toList

structure RepositoryContentRoot where
  digest : List UInt8
  gitObjectFormat : ObjectFormat
  trackedEntryCount : Nat
deriving DecidableEq

/-- `_build_repository_content_snapshot` -/
def buildRepositoryContentSnapshot (prim : Primitives) (repo : GitRepository)
    (bindControl : Bool) : Except String (RepositoryContentRoot × Option (List UInt8)) := do
  let format ← readObjectFormat repo.objectFormat
  assertNoUntrackedInputs prim repo.untracked
  let entries ← parseStageZeroInventory prim repo.inventory
  let (messages, control) ← leafMessages prim repo format bindControl entries
  require (!(bindControl && control.isNone)) "production semantic root control is not tracked"
  let digest ← merkleRoot sha256 (messages.map sha256) format
  return (⟨digest, format, messages.length⟩, control)

end Root

end Custombuild.Release
