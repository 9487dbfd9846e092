/-
  Trust registries of joint-retention issuers as the activation script sees them: the schema of a
  registry document, the binding to its canonical text, the check of a transition and the
  activation itself, which ends in the database function.
  Source: `joint_retention.py`, `joint_retention_registry.py` and
  `scripts/activate_joint_retention_registry.py`.

  A Python mapping is a `Jsonb` value: its keys in one order, each once, since nothing in the code
  depends on their order.  Not modelled: the checks of roles and grants before the activation,
  and the type checks of values that the database returns.
-/
import Mathlib.Data.Option.Basic
import Custombuild.Retention.InstallRegistry

namespace Custombuild.Retention

open Custombuild.Lib

/-- What the registry code takes from the libraries: the JSON encoder with sorted keys and the
    decoder, the digest, and the timestamps of the schema as instants (nothing without a timezone). -/
structure RegistryEnv where
  db : InputFunctions
  dumps : Jsonb → Option String
  loads : String → Option Jsonb
  sha256 : String → String
  instant : String → Option Int
  loads_dumps : ∀ value text, dumps value = some text → loads text = some value

/-! ## Base64 -/

def base64Alphabet : List Char :=
  "ABCDEFGHIJKLMNOPQRSTUVWXYZabcdefghijklmnopqrstuvwxyz0123456789+/".toList

def base64Digit (n : Nat) : Char := base64Alphabet.getD n 'A'

/-- `b64encode`. -/
def base64Encode : List Nat → List Char
  | [] => []
  | [a] => [base64Digit (a / 4), base64Digit (a % 4 * 16), '=', '=']
  | [a, b] => [base64Digit (a / 4), base64Digit (a % 4 * 16 + b / 16), base64Digit (b % 16 * 4), '=']
  | a :: b :: c :: rest =>
    base64Digit (a / 4) :: base64Digit (a % 4 * 16 + b / 16) ::
      base64Digit (b % 16 * 4 + c / 64) :: base64Digit (c % 64) :: base64Encode rest

/-- `b64decode(validate=True)`; the bits that a padded group drops are not looked at. -/
def base64Decode : List Char → Option (List Nat)
  | [] => some []
  | [a, b, '=', '='] => do
    let x ← base64Alphabet.idxOf? a
    let y ← base64Alphabet.idxOf? b
    return [x * 4 + y / 16]
  | [a, b, c, '='] => do
    let x ← base64Alphabet.idxOf? a
    let y ← base64Alphabet.idxOf? b
    let z ← base64Alphabet.idxOf? c
    return [x * 4 + y / 16, y % 16 * 16 + z / 4]
  | a :: b :: c :: d :: rest => do
    let x ← base64Alphabet.idxOf? a
    let y ← base64Alphabet.idxOf? b
    let z ← base64Alphabet.idxOf? c
    let w ← base64Alphabet.idxOf? d
    let bytes ← base64Decode rest
    return [x * 4 + y / 16, y % 16 * 16 + z / 4, z % 4 * 64 + w] ++ bytes
  | _ => none

/-- `_decode_base64`. -/
def decodeBase64 (value label : String) (maxBytes : Nat) : Except String (List Nat) := do
  let decoded ← demand (base64Decode (charsOf value)) (label ++ " is not canonical base64")
  require (decoded ≠ [] && decoded.length ≤ maxBytes)
    (label ++ " is empty or exceeds its size limit")
  require (String.ofList (base64Encode decoded) = value) (label ++ " is not canonical base64")
  return decoded

/-! ## The schema -/

structure TrustedIssuer where
  issuerId : String
  keyId : String
  publicKeyBase64 : String
  notBefore : Int
  notAfter : Int
  revokedAt : Option Int
deriving DecidableEq

structure TrustRegistry where
  issuers : List TrustedIssuer
  revokedStatementSha256 : List String
  revokedSystemVersions : List String
deriving DecidableEq

def TrustedIssuer.identity (issuer : TrustedIssuer) : String × String :=
  (issuer.issuerId, issuer.keyId)

/-- `_STABLE_KEY_PATTERN`. -/
def isStableKey (text : String) : Bool :=
  match charsOf text with
  | [] => false
  | c :: rest => c.isAlphanum && rest.length ≤ 127 &&
      rest.all fun c => c.isAlphanum || c = '.' || c = '_' || c = ':' || c = '-'

/-- `tuple(sorted(set(value)))` is the value itself. -/
def sortedUnique (values : List String) : Bool := decide (values.Pairwise (· < ·))

/-- A field that has to be a string. -/
def strField (value : Json) (key : String) : Option String :=
  match value.get key with
  | some (.str text) => some text
  | _ => none

/-- The keys of a model that forbids others. -/
def hasExactKeys (value : Json) (keys : List String) : Bool :=
  value.keys.length == keys.length && keys.all fun key => value.keys.contains key

section Schema

variable (env : RegistryEnv)

/-- `revoked_at`: a timestamp or an explicit null. -/
def revokedAtField (value : Json) : Option (Option Int) :=
  match value.get "revoked_at" with
  | some .null => some none
  | some (.str text) => (env.instant text).map some
  | _ => none

/-- `TrustedIssuer.model_validate`. -/
def parseIssuer (value : Json) : Option TrustedIssuer := do
  guard (hasExactKeys value issuerKeys)
  let issuerId ← strField value "issuer_id"
  let keyId ← strField value "key_id"
  let role ← strField value "role"
  let publicKeyBase64 ← strField value "public_key_base64"
  let notBefore ← (strField value "not_before").bind env.instant
  let notAfter ← (strField value "not_after").bind env.instant
  let revokedAt ← revokedAtField env value
  guard (isStableKey issuerId && isStableKey keyId && role = "joint_retention_certifier" &&
    publicKeyBase64.length = 44 && notBefore < notAfter)
  return ⟨issuerId, keyId, publicKeyBase64, notBefore, notAfter, revokedAt⟩

/-- An array of strings. -/
def stringItems (value : Json) (key : String) : Option (List String) :=
  match value.get key with
  | some (.arr items) => items.mapM fun item =>
    match item with
    | .str text => some text
    | _ => none
  | _ => none

/-- `system@version` with two stable keys. -/
def isSystemVersion (text : String) : Bool :=
  match text.splitOn "@" with
  | [system, version] => isStableKey system && isStableKey version
  | _ => false

/-- The raw issuers of a registry. -/
def rawIssuers (value : Json) : Option (List Json) :=
  match value.get "issuers" with
  | some (.arr items) => some items
  | _ => none

/-- `TrustRegistry.model_validate`. -/
def parseRegistry (value : Json) : Option TrustRegistry := do
  guard (hasExactKeys value
    ["schema_version", "issuers", "revoked_statement_sha256", "revoked_system_versions"])
  let schemaVersion ← strField value "schema_version"
  guard (schemaVersion = registrySchemaVersion)
  let raw ← rawIssuers value
  let issuers ← raw.mapM (parseIssuer env)
  let statements ← stringItems value "revoked_statement_sha256"
  let systems ← stringItems value "revoked_system_versions"
  guard (sortedUnique statements && statements.all isSha256Text)
  guard (sortedUnique systems && systems.all isSystemVersion)
  return ⟨issuers, statements, systems⟩

/-- The order of Python's pairs of strings. -/
def pairBefore (a b : String × String) : Bool := a.1 < b.1 || (a.1 = b.1 && a.2 < b.2)

/-- The decoded key of an issuer. -/
def publicKeyBytes (issuer : TrustedIssuer) : Except String (List Nat) := do
  let bytes ← decodeBase64 issuer.publicKeyBase64 "issuer public key" 32
  require (bytes.length = 32) "issuer public key must be 32-byte Ed25519 material"
  return bytes

/-- `_load_registry`. -/
def loadRegistry (value : Json) : Except String TrustRegistry := do
  let registry ← demand (parseRegistry env value) "joint-retention trust registry is invalid"
  require (decide ((registry.issuers.map TrustedIssuer.identity).Pairwise
    fun a b => pairBefore a b = true)) "trusted issuers must be sorted and unique"
  let keys ← collect publicKeyBytes registry.issuers
  require (decide keys.Nodup) "trusted issuer public key material must be globally unique"
  return registry

structure RegistryBinding where
  registry : TrustRegistry
  canonicalJson : String
  sha256 : String

/-- `joint_retention_registry_binding`. -/
def registryBinding (value : Jsonb) : Except String RegistryBinding := do
  let registry ← (loadRegistry env value.value).mapError
    fun _ => "joint-retention trust registry is invalid"
  let canonicalJson ← demand (env.dumps value) "joint-retention trust registry is invalid"
  return ⟨registry, canonicalJson, env.sha256 canonicalJson⟩

/-- `parse_joint_retention_registry_json`. -/
def parseRegistryJson (encoded : String) : Except String Jsonb := do
  require (1 ≤ encoded.utf8ByteSize && encoded.utf8ByteSize ≤ 262144)
    "joint-retention trust registry is empty or exceeds its size limit"
  let value ← demand (env.loads encoded)
    "joint-retention trust registry must contain strict JSON"
  require (value.value.typeName = "object")
    "joint-retention trust registry must contain a JSON object"
  return value

/-! ## Transitions -/

/-- The identity of a raw issuer. -/
def rawIdentity (issuer : Json) : Option (String × String) := do
  let issuerId ← strField issuer "issuer_id"
  let keyId ← strField issuer "key_id"
  return (issuerId, keyId)

/-- The decoded key of a raw issuer. -/
def rawKey (issuer : Json) : Except String (List Nat) := do
  let text ← demand (strField issuer "public_key_base64") "KeyError: public_key_base64"
  decodeBase64 text "issuer public key" 32

/-- A candidate does not bind the key of an activated issuer to another identity. -/
def checkNotRebound (previous : List Json) (candidate : Json) : Except String Unit := do
  let key ← rawKey candidate
  let identities ← collect (fun old => do
    let oldKey ← rawKey old
    return (oldKey, rawIdentity old)) previous
  -- a dictionary: the last issuer with the key
  match identities.reverse.find? fun entry => entry.1 = key with
  | none => .ok ()
  | some entry =>
    require (entry.2 = rawIdentity candidate)
      "joint-retention registry cannot rebind activated issuer key material"

/-- A later revocation, or none where there was one. -/
def revocationDelayed (previous candidate : Option Int) : Bool :=
  match previous, candidate with
  | none, _ => false
  | some _, none => true
  | some old, some new => old < new

/-- An activated issuer is kept, with its revocation no later. -/
def checkKept (candidates : List Json) (old : Json) : Except String Unit := do
  let new ← demand (candidates.reverse.find? fun item => rawIdentity item = rawIdentity old)
    "joint-retention registry cannot remove an activated issuer key"
  require (match old.without "revoked_at", new.without "revoked_at" with
      | some a, some b => Json.same a b
      | _, _ => false)
    "joint-retention registry cannot mutate an activated issuer key"
  let oldParsed ← demand (parseIssuer env old) "registry issuer representation is invalid"
  let newParsed ← demand (parseIssuer env new) "registry issuer representation is invalid"
  require (!revocationDelayed oldParsed.revokedAt newParsed.revokedAt)
    "joint-retention registry cannot clear or delay an issuer revocation"

/-- `validate_monotonic_registry_transition`: whether the candidate advances. -/
def validateMonotonicRegistryTransition (previous candidate : Jsonb) : Except String Bool := do
  let previousBinding ← registryBinding env previous
  let candidateBinding ← registryBinding env candidate
  if previousBinding.canonicalJson = candidateBinding.canonicalJson then return false
  let oldIssuers ← demand (rawIssuers previous.value) "registry issuer representation is invalid"
  let newIssuers ← demand (rawIssuers candidate.value) "registry issuer representation is invalid"
  forEach (checkNotRebound oldIssuers) newIssuers
  forEach (checkKept env newIssuers) oldIssuers
  forEach (fun name => do
      let old ← demand (stringItems previous.value name)
        "registry revocation representation is invalid"
      let new ← demand (stringItems candidate.value name)
        "registry revocation representation is invalid"
      require (old.all fun entry => new.contains entry)
        ("joint-retention registry cannot remove entries from " ++ name))
    ["revoked_statement_sha256", "revoked_system_versions"]
  return true

/-! ## Activation -/

/-- `custombuild_joint_retention_assert_registry`. -/
def assertRegistry (state : RegistryState) (canonicalJson sha256 : String) : Except String Nat := do
  require (1 ≤ state.transitionEpoch && state.registrySha256.isSome &&
    state.registryCanonicalJson.isSome) "JOINT_RETENTION_REGISTRY_NOT_ACTIVATED"
  require (isSha256Text sha256 && state.registrySha256 = some sha256 &&
    state.registryCanonicalJson = some canonicalJson) "JOINT_RETENTION_REGISTRY_MISMATCH"
  return state.transitionEpoch

/-- The characters that `str.strip` removes. -/
def isPySpace (c : Char) : Bool :=
  let n := c.toNat
  (9 ≤ n && n ≤ 13) || (28 ≤ n && n ≤ 32) || n = 133 || n = 160 || n = 5760 ||
    (8192 ≤ n && n ≤ 8202) || n = 8232 || n = 8233 || n = 8239 || n = 8287 || n = 12288

/-- `_operator_reference`; a control character is one below a blank or the delete character. -/
def operatorReferenceValid (value : String) : Bool :=
  value ≠ "" && value.toList.head?.all (fun c => !isPySpace c) &&
    value.toList.getLast?.all (fun c => !isPySpace c) && value.length ≤ 160 &&
    (value.toList.all fun c => 32 ≤ c.toNat && c.toNat ≠ 127) &&
    !(value.startsWith "__REPLACE_" && value.endsWith "__")

structure ActivateCall where
  registry : Jsonb
  operatorReference : String

/-- The check against the activated registry, when there is one. -/
def checkPrevious (state : RegistryState) (registry : Jsonb) : Except String Unit :=
  match state.registryCanonicalJson with
  | none => .ok ()
  | some text => do
    let previous ← parseRegistryJson env text
    let _ ← validateMonotonicRegistryTransition env previous registry
    return ()

/-- `activate_registry`: the row after the call, the epoch and whether it changed. -/
def activateRegistry (state : RegistryState) (call : ActivateCall) :
    Except String (RegistryState × Nat × Bool) := do
  require (operatorReferenceValid call.operatorReference)
    "operator reference must be trimmed, non-placeholder text of at most 160 characters"
  let binding ← registryBinding env call.registry
  checkPrevious env state call.registry
  let argument ← demand (env.db.jsonb binding.canonicalJson) "invalid input syntax for type json"
  let (next, epoch, changed) ← (installRegistry env.db state
    ⟨some argument, some binding.canonicalJson, some binding.sha256,
      some (env.sha256 call.operatorReference)⟩).mapError fun _ => "database error"
  require (1 ≤ epoch) "database returned an invalid registry epoch"
  let asserted ← assertRegistry next binding.canonicalJson binding.sha256
  require (asserted = epoch) "post-activation registry assertion failed"
  return (next, epoch, changed)

/-- A call that raises is rolled back. -/
def activateStep (call : ActivateCall) (state : RegistryState) : RegistryState :=
  match activateRegistry env state call with
  | .ok (next, _, _) => next
  | .error _ => state

end Schema

end Custombuild.Retention
