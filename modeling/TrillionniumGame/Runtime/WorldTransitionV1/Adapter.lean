import TrillionniumGame.Runtime.WorldTransition.Prepare

namespace WorldTransitionV1
open Checks GoJson GoText JsonText
open WorldTransition (bytesLess)

abbrev PyString := List Nat

def ascii (s : String) : PyString := s.toList.map Char.toNat

inductive PyValue where
  | none
  | bool (value : Bool)
  | int (value : Int)
  | str (value : PyString)
  | list (items : List PyValue)
  | dict (items : List (PyString × PyValue))
  | other

inductive Loaded where
  | none
  | bool (value : Bool)
  | int (value : Int)
  | str (value : PyString)
  | list (items : List Loaded)
  | pairs (items : List (PyString × Loaded))

def minI64 : Int := -9223372036854775808
def maxI64 : Int := 9223372036854775807
def maxCanonicalDepth : Nat := 128

def encodable (s : PyString) : Bool := s.all fun n => decide n.isValidChar

def utf8 (s : PyString) : GoString := ofRunes (s.map Char.ofNat)

def encodeUtf8 (s : PyString) : Except String GoString := do
  require (encodable s = true) "surrogates not allowed"
  return utf8 s

def parseInt (raw : List Char) : Except String Loaded := do
  require (raw ≠ ['-', '0']) "-0 is not a canonical integer"
  let value := JsonText.parseInt raw
  require (minI64 ≤ value ∧ value ≤ maxI64) "integer is outside signed 64-bit range"
  return .int value

def loadNumber (raw : List Char) : Except String Loaded :=
  if '.' ∈ raw ∨ 'e' ∈ raw ∨ 'E' ∈ raw then .error "floating-point numbers are forbidden"
  else parseInt raw

-- Two escaped halves of a surrogate pair are one code point, a half of its own stays.
def joinUnits : List Piece → PyString
  | [] => []
  | .char c :: rest => c.toNat :: joinUnits rest
  | [.unit n] => [n]
  | .unit n :: .char c :: rest => n :: c.toNat :: joinUnits rest
  | .unit n :: .unit m :: rest =>
    if highSurrogate n && lowSurrogate m then
      ((n - 0xD800) * 0x400 + (m - 0xDC00) + 0x10000) :: joinUnits rest
    else n :: joinUnits (.unit m :: rest)

mutual

def load : Tree → Except String Loaded
  | .null => .ok .none
  | .bool value => .ok (.bool value)
  | .number raw => loadNumber raw
  | .text pieces => .ok (.str (joinUnits pieces))
  | .array items => do
    let items ← loadItems items
    return .list items
  | .object members => do
    let items ← loadPairs members
    return .pairs items

def loadItems : List Tree → Except String (List Loaded)
  | [] => .ok []
  | item :: rest => do
    let value ← load item
    let values ← loadItems rest
    return value :: values

def loadPairs : List (List Piece × Tree) → Except String (List (PyString × Loaded))
  | [] => .ok []
  | (pieces, item) :: rest => do
    let value ← load item
    let values ← loadPairs rest
    return (joinUnits pieces, value) :: values

end

mutual

def materialize (depth : Nat) (value : Loaded) : Except String PyValue := do
  require (depth ≤ maxCanonicalDepth) "canonical nesting depth exceeds 128"
  match value with
  | .none => return .none
  | .bool value => return .bool value
  | .str value => return .str value
  | .int value => do
    require (minI64 ≤ value ∧ value ≤ maxI64) "integer is outside signed 64-bit range"
    return .int value
  | .list items => do
    let items ← materializeItems (depth + 1) items
    return .list items
  | .pairs items => do
    let items ← materializePairs (depth + 1) [] items
    return .dict items

def materializeItems (depth : Nat) : List Loaded → Except String (List PyValue)
  | [] => .ok []
  | item :: rest => do
    let value ← materialize depth item
    let values ← materializeItems depth rest
    return value :: values

-- `seen` holds the keys before this pair, the last one first.
def materializePairs (depth : Nat) (seen : List PyString) :
    List (PyString × Loaded) → Except String (List (PyString × PyValue))
  | [] => .ok []
  | (key, item) :: rest => do
    require (key ∉ seen) "duplicate object key"
    let keyBytes ← encodeUtf8 key
    require (∀ previous ∈ seen.head?, bytesLess (utf8 previous) keyBytes = true)
      "object keys must be strictly ascending by UTF-8 bytes"
    let value ← materialize depth item
    let values ← materializePairs depth (key :: seen) rest
    return (key, value) :: values

end

def hexDigits (n : Nat) : PyString :=
  [(hexChar (n / 16)).toNat, (hexChar (n % 16)).toNat]

def escapeCode (n : Nat) : PyString :=
  if n = 0x22 ∨ n = 0x5c then [0x5c, n]
  else if n = 0x08 then ascii "\\b"
  else if n = 0x0c then ascii "\\f"
  else if n = 0x0a then ascii "\\n"
  else if n = 0x0d then ascii "\\r"
  else if n = 0x09 then ascii "\\t"
  else if n < 0x20 then ascii "\\u00" ++ hexDigits n
  else [n]

def encodeString (value : PyString) : PyString :=
  ascii "\"" ++ value.flatMap escapeCode ++ ascii "\""

def joinCommas : List PyString → PyString
  | [] => []
  | [part] => part
  | part :: rest => part ++ ascii "," ++ joinCommas rest

def collect {ε α : Type} : List (Except ε α) → Except ε (List α)
  | [] => .ok []
  | x :: rest => do
    let a ← x
    let as ← collect rest
    return a :: as

def encodeField (field : PyString × Except String PyString) : Except String PyString := do
  let value ← field.2
  return encodeString field.1 ++ ascii ":" ++ value

def sortItems {α : Type} (items : List (PyString × α)) : List (PyString × α) :=
  items.insertionSort fun a b => bytesLess (utf8 b.1) (utf8 a.1) = false

mutual

def encode (depth : Nat) (item : PyValue) : Except String PyString := do
  require (depth ≤ maxCanonicalDepth) "canonical nesting depth exceeds 128"
  match item with
  | .none => return ascii "null"
  | .bool value => return if value then ascii "true" else ascii "false"
  | .int value => do
    require (minI64 ≤ value ∧ value ≤ maxI64) "integer is outside signed 64-bit range"
    return (integer value).map Char.toNat
  | .str value => return encodeString value
  | .list items => do
    let parts ← collect (encodeItems (depth + 1) items)
    return ascii "[" ++ joinCommas parts ++ ascii "]"
  | .dict items => do
    require (items.all (fun item => encodable item.1) = true) "surrogates not allowed"
    let parts ← collect ((sortItems (encodeFields (depth + 1) items)).map encodeField)
    return ascii "\x7b" ++ joinCommas parts ++ ascii "\x7d"
  | .other => .error "unsupported canonical value"

def encodeItems (depth : Nat) : List PyValue → List (Except String PyString)
  | [] => []
  | item :: rest => encode depth item :: encodeItems depth rest

def encodeFields (depth : Nat) :
    List (PyString × PyValue) → List (PyString × Except String PyString)
  | [] => []
  | (key, value) :: rest => (key, encode depth value) :: encodeFields depth rest

end

def PyValue.container : PyValue → Bool
  | .list _ => true
  | .dict _ => true
  | _ => false

def canonicalDumps (value : PyValue) (rootContainer : Bool) : Except String PyString := do
  require (rootContainer = false ∨ value.container = true)
    "canonical root must be an object or array"
  encode 0 value

-- `raw` is a `bytes`; what `json.loads` does to a text is parsing it and running the hooks.
def loadsCanonical (raw : GoString) (rootContainer : Bool) (maximumBytes : Option Int) :
    Except String PyValue := do
  require (validString raw = true) "input is not valid UTF-8"
  let text := runes raw
  require (text.head? ≠ some '\ufeff') "UTF-8 BOM is forbidden"
  require (∀ maximum ∈ maximumBytes, (ofRunes text).length ≤ maximum)
    "canonical JSON exceeds its limit"
  let tree ← parseText text
  let parsed ← load tree
  let value ← materialize 0 parsed
  let canonical ← canonicalDumps value rootContainer
  require (canonical = text.map Char.toNat)
    "JSON bytes are valid but not the exact canonical representation"
  return value

def contractVersion : PyString := ascii "trnm_world_transition_v1"
def requestHashDomain : PyString := ascii "trnm.world.transition.request.v1"
def transitionIdDomain : PyString := ascii "trnm.nakama.world.transition.id.v1"
def commandIdDomain : PyString := ascii "trnm.nakama.world.command.id.v1"

def maxStateBytes : Nat := 2 * 1024 * 1024
def maxCommandBytes : Nat := 128 * 1024

def identifierCode (n : Nat) : Bool :=
  (0x41 ≤ n && n ≤ 0x5A) || (0x61 ≤ n && n ≤ 0x7A) || (0x30 ≤ n && n ≤ 0x39) ||
    n ∈ ascii "._:/+@-"

def identifier (s : PyString) : Bool := s.all identifierCode && 1 ≤ s.length && s.length ≤ 160

def hex64 (s : PyString) : Bool := s.all (· ∈ ascii "0123456789abcdef") && s.length = 64

def forbiddenWorldAuthorityKeys : List PyString :=
  [ascii "nakama_session_token", ascii "nakama_private_key", ascii "match_authority_private_key",
    ascii "canonical_archive_root", ascii "chain_finality", ascii "chain_app_hash",
    ascii "match_completed_v1", ascii "participant_admission_receipt",
    ascii "global_event_cursor", ascii "participant_roster", ascii "participant_roles",
    ascii "completion_signature", ascii "authority_key_id", ascii "wallet_balance"]

def requestFields : List PyString :=
  [ascii "command", ascii "content_revision", ascii "contract_version", ascii "expected_tick",
    ascii "previous_state", ascii "ruleset_revision", ascii "transition_id"]

def requireIdentifier (value : PyValue) (label : String) : Except String PyString :=
  match value with
  | .str s => do
    require (identifier s = true) (label ++ " must be a portable identifier")
    return s
  | _ => .error (label ++ " must be a portable identifier")

def requireHex64 (value : PyValue) (label : String) : Except String PyString :=
  match value with
  | .str s => do
    require (hex64 s = true) (label ++ " must be lowercase 64-hex")
    return s
  | _ => .error (label ++ " must be lowercase 64-hex")

def requireI64Nonnegative (value : PyValue) (label : String) : Except String Int :=
  match value with
  | .int n => do
    require (0 ≤ n ∧ n ≤ maxI64) (label ++ " must be a non-negative signed i64")
    return n
  | _ => .error (label ++ " must be a non-negative signed i64")

mutual

def authorityFree : PyValue → Bool
  | .list items => itemsAuthorityFree items
  | .dict items => fieldsAuthorityFree items
  | _ => true

def itemsAuthorityFree : List PyValue → Bool
  | [] => true
  | item :: rest => authorityFree item && itemsAuthorityFree rest

def fieldsAuthorityFree : List (PyString × PyValue) → Bool
  | [] => true
  | (key, item) :: rest =>
    key ∉ forbiddenWorldAuthorityKeys && authorityFree item && fieldsAuthorityFree rest

end

def rejectAuthorityKeys (value : PyValue) (label : String) : Except String Unit :=
  require (authorityFree value = true) (label ++ " contains forbidden authority key")

structure CanonicalPayload where
  schemaId : PyString
  canonicalJson : PyValue
  sha256 : PyString
  canonicalBytes : GoString

def CanonicalPayload.toWire (p : CanonicalPayload) : PyValue :=
  .dict [(ascii "canonical_json", p.canonicalJson), (ascii "schema_id", .str p.schemaId),
    (ascii "sha256", .str p.sha256)]

structure NakamaAuthorityContext where
  matchId : PyString
  authorizationId : PyString
  participantRosterHash : PyString
  matchVersion : Int
  globalEventSequence : Int
  commandIdempotencyKey : PyString
  rulesetRevision : PyString
  contentRevision : PyString
  expectedTick : Int

namespace NakamaAuthorityContext

variable (c : NakamaAuthorityContext)

def validate : Except String Unit := do
  let _ ← requireIdentifier (.str c.matchId) "match_id"
  let _ ← requireIdentifier (.str c.authorizationId) "authorization_id"
  let _ ← requireHex64 (.str c.participantRosterHash) "participant_roster_hash"
  let _ ← requireI64Nonnegative (.int c.matchVersion) "match_version"
  let _ ← requireI64Nonnegative (.int c.globalEventSequence) "global_event_sequence"
  let _ ← requireIdentifier (.str c.commandIdempotencyKey) "command_idempotency_key"
  let _ ← requireIdentifier (.str c.rulesetRevision) "ruleset_revision"
  let _ ← requireIdentifier (.str c.contentRevision) "content_revision"
  let _ ← requireI64Nonnegative (.int c.expectedTick) "expected_tick"

def material : PyValue :=
  .dict
    [(ascii "authorization_id", .str c.authorizationId),
      (ascii "command_idempotency_key", .str c.commandIdempotencyKey),
      (ascii "content_revision", .str c.contentRevision),
      (ascii "expected_tick", .int c.expectedTick),
      (ascii "global_event_sequence", .int c.globalEventSequence),
      (ascii "match_id", .str c.matchId),
      (ascii "match_version", .int c.matchVersion),
      (ascii "participant_roster_hash", .str c.participantRosterHash),
      (ascii "ruleset_revision", .str c.rulesetRevision)]

def canonicalAuthorityBinding : Except String PyString := do
  c.validate
  canonicalDumps c.material false

end NakamaAuthorityContext

structure PreparedWorldTransition where
  context : NakamaAuthorityContext
  request : PyValue
  canonicalRequest : PyString
  requestHash : PyString
  transitionId : PyString
  commandId : PyString
  previousStateHash : PyString

section
variable (sha256 : GoString → Vector UInt8 32)

def sha256Hex (payload : GoString) : PyString := (hexEncode (sha256 payload)).map UInt8.toNat

def domainHash (domain canonicalJson : PyString) : Except String PyString := do
  require (domain ≠ [] ∧ (∀ n ∈ domain, n < 0x80) ∧ 0x0a ∉ domain)
    "hash domain must be single-line ASCII"
  let encoded ← encodeUtf8 canonicalJson
  return sha256Hex sha256 (utf8 domain ++ str "\n" ++ encoded)

def CanonicalPayload.fromValue (value : PyValue) (schemaId : PyString) (maximumBytes : Nat)
    (label : String) : Except String CanonicalPayload := do
  let _ ← requireIdentifier (.str schemaId) (label ++ ".schema_id")
  rejectAuthorityKeys value label
  let canonical ← canonicalDumps value true
  let encoded ← encodeUtf8 canonical
  require (encoded.length ≤ maximumBytes) (label ++ " exceeds its canonical bytes")
  return ⟨schemaId, value, sha256Hex sha256 encoded, encoded⟩

end
def hasFields (result : List (PyString × PyValue)) (expected : List PyString) : Prop :=
  (∀ field ∈ expected, field ∈ result.map (·.1)) ∧ ∀ field ∈ result.map (·.1), field ∈ expected

instance (result : List (PyString × PyValue)) (expected : List PyString) :
    Decidable (hasFields result expected) := inferInstanceAs (Decidable (_ ∧ _))

section
variable (sha256 : GoString → Vector UInt8 32)

def opaqueIdentifier (head domain canonicalBinding : PyString) : Except String PyString := do
  let digest ← domainHash sha256 domain canonicalBinding
  return head ++ digest.take 48

def requestItems (context : NakamaAuthorityContext) (transitionId commandId : PyString)
    (statePayload commandPayload : CanonicalPayload) : List (PyString × PyValue) :=
  [(ascii "command", .dict
      [(ascii "command_id", .str commandId), (ascii "payload", commandPayload.toWire)]),
    (ascii "content_revision", .str context.contentRevision),
    (ascii "contract_version", .str contractVersion),
    (ascii "expected_tick", .int context.expectedTick),
    (ascii "previous_state", statePayload.toWire),
    (ascii "ruleset_revision", .str context.rulesetRevision),
    (ascii "transition_id", .str transitionId)]

def prepareWorldTransition (context : NakamaAuthorityContext) (previousStateSchemaId : PyString)
    (previousState : PyValue) (commandSchemaId : PyString) (command : PyValue) :
    Except String PreparedWorldTransition := do
  context.validate
  let binding ← context.canonicalAuthorityBinding
  let transitionId ← opaqueIdentifier sha256 (ascii "wtx-") transitionIdDomain binding
  let commandId ← opaqueIdentifier sha256 (ascii "wcmd-") commandIdDomain binding
  let statePayload ← CanonicalPayload.fromValue sha256 previousState previousStateSchemaId
    maxStateBytes "previous_state"
  let commandPayload ← CanonicalPayload.fromValue sha256 command commandSchemaId maxCommandBytes
    "command.payload"
  let items := requestItems context transitionId commandId statePayload commandPayload
  require (hasFields items requestFields) "internal request field set drift"
  let canonicalRequest ← canonicalDumps (.dict items) true
  let requestHash ← domainHash sha256 requestHashDomain canonicalRequest
  return ⟨context, .dict items, canonicalRequest, requestHash, transitionId, commandId,
    statePayload.sha256⟩

end
end WorldTransitionV1
