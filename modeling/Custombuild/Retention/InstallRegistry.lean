/-
  The database function that activates a joint-retention trust registry, with SQL's
  three-valued conditions: a comparison with an absent key is NULL and its check passes.
  Source: `custombuild_joint_retention_install_registry` in
  `alembic/versions/0018_joint_retention_registry_state.py`.

  Not modelled: the advisory lock and the row lock (each call is one atomic transaction),
  `updated_at`, which the function writes and never reads, and the ACLs of the function.
-/
import Custombuild.Lib.Json
import Custombuild.Lib.Sql
import Custombuild.Lib.Text

namespace Custombuild.Retention

open Custombuild.Lib Custombuild.Lib.Sql

inductive SqlError where
  | raised (errcode message : String)
  | invalidText (type : String)
  | cannotExtractElements
  | cannotDeleteFromScalar
  | bigintOutOfRange
deriving DecidableEq

/-- The input functions of two PostgreSQL types; a text they reject fails the cast. -/
structure InputFunctions where
  jsonb : String → Option Jsonb
  timestamptz : String → Option Int

/-- The single row of `joint_retention_registry_state`. -/
structure RegistryState where
  transitionEpoch : Nat
  registrySha256 : Option String
  registryCanonicalJson : Option String
  normalizedRegistryJson : Option Jsonb
  operatorReferenceSha256 : Option String

/-- The row the migration inserts. -/
def RegistryState.initial : RegistryState := ⟨0, none, none, none, none⟩

/-- The arguments of a call, each of them possibly NULL. -/
structure InstallCall where
  registry : Option Jsonb
  canonicalJson : Option String
  sha256 : Option String
  operatorReferenceSha256 : Option String

def registrySchemaVersion : String := "custombuild.joint-retention-trust-registry.v1"

def invalidRegistry (detail : String) : SqlError :=
  .raised "22023" ("JOINT_RETENTION_REGISTRY_INVALID: " ++ detail)

def invalidState (detail : String) : SqlError :=
  .raised "55000" ("JOINT_RETENTION_REGISTRY_STATE_INVALID: " ++ detail)

def rollback (detail : String) : SqlError :=
  .raised "55000" ("JOINT_RETENTION_REGISTRY_ROLLBACK: " ++ detail)

/-! ## Strict operators on nullable values -/

def typeOf (value : Option Json) : Option String := value.map Json.typeName

def field (value : Option Json) (key : String) : Option Json := value.bind fun j => j.get key

def fieldText (value : Option Json) (key : String) : Option String :=
  value.bind fun j => j.getText key

/-- `count(*)` over `jsonb_object_keys`; only reached for objects. -/
def keyCount (value : Option Json) : Nat := (value.map fun j => j.keys.length).getD 0

/-- `jsonb_array_elements`: NULL has no rows, anything but an array is an error. -/
def arrayElements : Option Json → Except SqlError (List Json)
  | none => .ok []
  | some (.arr items) => .ok items
  | some _ => .error .cannotExtractElements

def withoutKey (value : Json) (key : String) : Except SqlError Json :=
  demand (value.without key) .cannotDeleteFromScalar

/-- A cast of a nullable text to `timestamptz`. -/
def castTimestamp (db : InputFunctions) : Option String → Except SqlError (Option Int)
  | none => .ok none
  | some text => (demand (db.timestamptz text) (.invalidText "timestamptz")).map some

/-! ## Shape checks -/

def registryShapeInvalid (registry : Option Json) : Option Bool :=
  orAll [
    isNull registry,
    ne (typeOf registry) (some "object"),
    ne (fieldText registry "schema_version") (some registrySchemaVersion),
    ne (typeOf (field registry "issuers")) (some "array"),
    ne (typeOf (field registry "revoked_statement_sha256")) (some "array"),
    ne (typeOf (field registry "revoked_system_versions")) (some "array"),
    some (keyCount registry != 4)]

def checkCanonicalJson (db : InputFunctions) (registry : Option Json)
    (canonicalJson : Option String) : Except SqlError Unit := do
  refuse (orAll [
      isNull canonicalJson,
      canonicalJson.map fun text => decide (text.utf8ByteSize < 1),
      canonicalJson.map fun text => decide (text.utf8ByteSize > 262144)])
    (invalidRegistry "canonical registry mismatch")
  let text ← demand canonicalJson (invalidRegistry "canonical registry mismatch")
  let parsed ← demand (db.jsonb text) (.invalidText "jsonb")
  refuse (strict (fun a b => !Json.same a b) registry (some parsed.value))
    (invalidRegistry "canonical registry mismatch")

/-- The pattern `^[0-9a-f]{64}$`. -/
def isSha256Text (text : String) : Bool :=
  let chars := Lib.charsOf text
  chars.length == 64 && chars.all fun c => c.isDigit || ('a' ≤ c && c ≤ 'f')

def digestFormatInvalid (sha256 operatorReferenceSha256 : Option String) : Option Bool :=
  orAll [
    isNull sha256,
    sha256.map fun text => !isSha256Text text,
    isNull operatorReferenceSha256,
    operatorReferenceSha256.map fun text => !isSha256Text text]

def isBase64Char (c : Char) : Bool :=
  ('A' ≤ c && c ≤ 'Z') || ('a' ≤ c && c ≤ 'z') || c.isDigit || c == '+' || c == '/'

/-- The pattern `^[A-Za-z0-9+/]{42}[AEIMQUYcgkosw048]=$`. -/
def isPublicKeyText (text : String) : Bool :=
  let chars := Lib.charsOf text
  chars.length == 44 && (chars.take 42).all isBase64Char &&
    (chars.drop 42).head?.any (fun c => "AEIMQUYcgkosw048".toList.contains c) &&
    chars.getLast? == some '='

def issuerKeys : List String :=
  ["issuer_id", "key_id", "role", "public_key_base64", "not_before", "not_after", "revoked_at"]

def issuerShapeInvalid (issuer : Json) : Option Bool :=
  orAll (
    [some (issuer.typeName != "object"), some (issuer.keys.length != 7)] ++
    (issuerKeys.map fun key => some (!issuer.keys.contains key)) ++ [
    ne (typeOf (issuer.get "issuer_id")) (some "string"),
    ne (typeOf (issuer.get "key_id")) (some "string"),
    ne (typeOf (issuer.get "role")) (some "string"),
    ne (issuer.getText "role") (some "joint_retention_certifier"),
    ne (typeOf (issuer.get "public_key_base64")) (some "string"),
    (issuer.getText "public_key_base64").map fun text => text.utf8ByteSize != 44,
    (issuer.getText "public_key_base64").map fun text => !isPublicKeyText text,
    ne (typeOf (issuer.get "not_before")) (some "string"),
    ne (typeOf (issuer.get "not_after")) (some "string"),
    (typeOf (issuer.get "revoked_at")).map fun name => name != "null" && name != "string"])

def checkIssuer (issuer : Json) : Except SqlError Unit :=
  refuse (issuerShapeInvalid issuer) (invalidRegistry "issuer shape is invalid")

def identityOf (issuer : Json) : Option String × Option String :=
  (issuer.getText "issuer_id", issuer.getText "key_id")

/-- `EXISTS (… GROUP BY … HAVING count(*) <> 1)`; NULL keys fall into one group. -/
def hasDuplicateGroup {κ : Type} [DecidableEq κ] (key : Json → κ) (rows : List Json) : Bool :=
  decide ¬(rows.map key).Nodup

/-! ## Transition checks -/

def initialStatePartial (state : RegistryState) : Bool :=
  state.registrySha256.isSome || state.registryCanonicalJson.isSome ||
    state.normalizedRegistryJson.isSome || state.operatorReferenceSha256.isSome

def activatedStatePartial (state : RegistryState) : Bool :=
  state.registrySha256.isNone || state.registryCanonicalJson.isNone ||
    state.normalizedRegistryJson.isNone || state.operatorReferenceSha256.isNone

def storedJson (state : RegistryState) : Option Json :=
  state.normalizedRegistryJson.map Jsonb.value

/-- `new -> field @> old -> field`. -/
def revocationsKept (registry stored : Option Json) (name : String) : Option Bool :=
  strict Json.contains (field registry name) (field stored name)

/-- Some candidate binds the key material of an activated issuer to another identity. -/
def keyMaterialRebound (candidates activated : List Json) : Bool :=
  candidates.any fun candidate => activated.any fun old =>
    strict (fun a b => a == b) (candidate.getText "public_key_base64")
      (old.getText "public_key_base64") == some true &&
    (distinctBy (fun a b => a == b) (candidate.getText "issuer_id") (old.getText "issuer_id") ||
      distinctBy (fun a b => a == b) (candidate.getText "key_id") (old.getText "key_id"))

/-- The first candidate with the identity of an activated issuer. -/
def findCandidate (candidates : List Json) (old : Json) : Option Json :=
  candidates.find? fun candidate =>
    strict (fun a b => a == b) (candidate.getText "issuer_id") (old.getText "issuer_id")
        == some true &&
      strict (fun a b => a == b) (candidate.getText "key_id") (old.getText "key_id")
        == some true

/-- The revocation of an activated issuer key is neither cleared nor moved to a later time. -/
def checkRevocation (db : InputFunctions) (new old : Json) : Except SqlError Unit := do
  if distinctBy Json.same (old.get "revoked_at") (some .null) then
    refuse (some !(distinctBy Json.same (new.get "revoked_at") (some .null)))
      (rollback "revocation delayed or cleared")
    let newTime ← castTimestamp db (new.getText "revoked_at")
    let oldTime ← castTimestamp db (old.getText "revoked_at")
    refuse (strict (fun a b => decide (a > b)) newTime oldTime)
      (rollback "revocation delayed or cleared")

def checkActivatedIssuer (db : InputFunctions) (candidates : List Json) (old : Json) :
    Except SqlError Unit := do
  let new ← demand (findCandidate candidates old) (rollback "issuer key cannot be removed")
  let newFixed ← withoutKey new "revoked_at"
  let oldFixed ← withoutKey old "revoked_at"
  refuse (some !(Json.same newFixed oldFixed)) (rollback "issuer key is immutable")
  checkRevocation db new old

/-- The checks of a candidate that differs from the activated registry. -/
def checkTransition (db : InputFunctions) (state : RegistryState) (call : InstallCall)
    (candidates : List Json) : Except SqlError Unit := do
  let registry := call.registry.map Jsonb.value
  let stored := storedJson state
  refuse (Sql.or (strict (fun a b => a == b) state.registryCanonicalJson call.canonicalJson)
      (strict Json.same stored registry))
    (.raised "55000" "JOINT_RETENTION_REGISTRY_DIGEST_MISMATCH: unchanged bytes")
  refuse (Sql.or (Sql.not (revocationsKept registry stored "revoked_statement_sha256"))
      (Sql.not (revocationsKept registry stored "revoked_system_versions")))
    (rollback "revocations cannot be removed")
  let activated ← arrayElements (field stored "issuers")
  refuse (some (keyMaterialRebound candidates activated))
    (rollback "issuer key material rebound")
  forEach (checkActivatedIssuer db candidates) activated

/-! ## The function -/

/-- The checks of the arguments alone; returns the rows of `issuers`. -/
def checkArguments (db : InputFunctions) (call : InstallCall) : Except SqlError (List Json) := do
  let registry := call.registry.map Jsonb.value
  refuse (registryShapeInvalid registry) (invalidRegistry "registry shape is invalid")
  checkCanonicalJson db registry call.canonicalJson
  refuse (digestFormatInvalid call.sha256 call.operatorReferenceSha256)
    (invalidRegistry "digest format is invalid")
  let candidates ← arrayElements (field registry "issuers")
  forEach checkIssuer candidates
  refuse (some (hasDuplicateGroup identityOf candidates))
    (invalidRegistry "issuer identity is duplicated")
  return candidates

/-- The final check and the `UPDATE`. -/
def storeRegistry (state : RegistryState) (call : InstallCall) (candidates : List Json) :
    Except SqlError (RegistryState × Nat × Bool) := do
  refuse (some (hasDuplicateGroup (fun issuer => issuer.getText "public_key_base64") candidates))
    (invalidRegistry "issuer key material is duplicated")
  require (state.transitionEpoch + 1 < 2 ^ 63) .bigintOutOfRange
  let next : RegistryState :=
    ⟨state.transitionEpoch + 1, call.sha256, call.canonicalJson, call.registry,
      call.operatorReferenceSha256⟩
  return (next, state.transitionEpoch + 1, true)

/-- `custombuild_joint_retention_install_registry`: the row after the call and the returned
    `(activated_epoch, changed)`. -/
def installRegistry (db : InputFunctions) (state : RegistryState) (call : InstallCall) :
    Except SqlError (RegistryState × Nat × Bool) := do
  let candidates ← checkArguments db call
  if state.transitionEpoch = 0 then
    refuse (some (initialStatePartial state)) (invalidState "partial initial state")
    storeRegistry state call candidates
  else
    refuse (some (activatedStatePartial state)) (invalidState "partial activated state")
    if strict (fun a b => a == b) state.registrySha256 call.sha256 = some true then
      refuse (Sql.or (ne state.registryCanonicalJson call.canonicalJson)
          (strict (fun a b => !Json.same a b) (storedJson state)
            (call.registry.map Jsonb.value)))
        (.raised "55000" "JOINT_RETENTION_REGISTRY_DIGEST_COLLISION: bytes differ")
      return (state, state.transitionEpoch, false)
    else
      checkTransition db state call candidates
      storeRegistry state call candidates

/-- A failing call leaves the row unchanged. -/
def installStep (db : InputFunctions) (call : InstallCall) (state : RegistryState) :
    RegistryState :=
  match installRegistry db state call with
  | .ok (next, _, _) => next
  | .error _ => state

end Custombuild.Retention
