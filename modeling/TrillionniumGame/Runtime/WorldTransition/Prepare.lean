import Mathlib.Data.List.Sort
import TrillionniumGame.Foundation.JsonTree

namespace WorldTransition
open Checks GoJson GoText

def maxCanonicalDepth : Nat := 128

-- A Go `any`: every integer type is `int`, a `map[string]any` is the list of its entries in any
-- order, and floats, `json.Number` and all other types are `other`.
inductive GoAny where
  | nil
  | bool (value : Bool)
  | text (value : GoString)
  | int (value : Int)
  | array (items : List GoAny)
  | object (fields : List (GoString × GoAny))
  | other

def errCanonicalJSON (text : String) : String := "invalid canonical JSON: " ++ text

def bytesLess : GoString → GoString → Bool
  | [], [] => false
  | [], _ :: _ => true
  | _ :: _, [] => false
  | a :: as, b :: bs => a.toNat < b.toNat || (a.toNat = b.toNat && bytesLess as bs)

def escapeCanonical (c : Char) : List Char :=
  if c = '"' ∨ c = '\\' then ['\\', c]
  else if c = '\x08' then ['\\', 'b']
  else if c = '\t' then ['\\', 't']
  else if c = '\n' then ['\\', 'n']
  else if c = '\x0c' then ['\\', 'f']
  else if c = '\r' then ['\\', 'r']
  else if c.toNat < 0x20 then
    ['\\', 'u', '0', '0', hexChar (c.toNat / 16), hexChar (c.toNat % 16)]
  else [c]

def appendJSONString (value : GoString) : GoString :=
  ofRunes ('"' :: (runes value).flatMap escapeCanonical ++ ['"'])

-- The children of an array or object, in order, up to the first one that fails.
def joinCanonical : List (Except String GoString) → Except String GoString
  | [] => .ok []
  | [child] => child
  | child :: rest => do
    let head ← child
    let tail ← joinCanonical rest
    return head ++ str "," ++ tail

def canonicalField (field : GoString × Except String GoString) : Except String GoString := do
  let value ← field.2
  return appendJSONString field.1 ++ str ":" ++ value

def sortFields {α : Type} (fields : List (GoString × α)) : List (GoString × α) :=
  fields.insertionSort fun a b => bytesLess b.1 a.1 = false

mutual

def appendCanonical (depth : Nat) (value : GoAny) : Except String GoString := do
  require (depth ≤ maxCanonicalDepth) (errCanonicalJSON "nesting depth exceeds 128")
  match value with
  | .nil => return str "null"
  | .bool value => return if value then str "true" else str "false"
  | .text value => return appendJSONString value
  | .int value => do
    require (value ≤ 9223372036854775807) (errCanonicalJSON "integer is outside signed i64")
    return ofRunes (integer value)
  | .array items => do
    let inner ← joinCanonical (canonicalItems (depth + 1) items)
    return str "[" ++ inner ++ str "]"
  | .object fields => do
    require (fields.all (fun field => validString field.1) = true)
      (errCanonicalJSON "object key is invalid UTF-8")
    let inner ← joinCanonical ((sortFields (canonicalFields (depth + 1) fields)).map canonicalField)
    return str "\x7b" ++ inner ++ str "\x7d"
  | .other => .error (errCanonicalJSON "unsupported value")

def canonicalItems (depth : Nat) : List GoAny → List (Except String GoString)
  | [] => []
  | item :: rest => appendCanonical depth item :: canonicalItems depth rest

def canonicalFields (depth : Nat) :
    List (GoString × GoAny) → List (GoString × Except String GoString)
  | [] => []
  | (name, value) :: rest => (name, appendCanonical depth value) :: canonicalFields depth rest

end

def GoAny.container : GoAny → Bool
  | .array _ => true
  | .object _ => true
  | _ => false

def canonicalJSON (value : GoAny) (rootContainer : Bool) : Except String GoString := do
  require (rootContainer = false ∨ value.container = true)
    (errCanonicalJSON "root must be an object or array")
  appendCanonical 0 value

structure AuthorityContext where
  matchID : GoString
  authorizationID : GoString
  participantRosterHash : GoString
  matchVersion : Int64
  globalEventSequence : Int64
  commandIdempotencyKey : GoString
  rulesetRevision : GoString
  contentRevision : GoString
  expectedTick : Int64
  deriving DecidableEq

def errContract (text : String) : String := "World transition contract violation: " ++ text

-- `^[A-Za-z0-9._:/+@-]{1,160}$`
def identifierByte (b : UInt8) : Bool :=
  (0x41 ≤ b.toNat && b.toNat ≤ 0x5A) || (0x61 ≤ b.toNat && b.toNat ≤ 0x7A) ||
    (0x30 ≤ b.toNat && b.toNat ≤ 0x39) || b ∈ str "._:/+@-"

def identifierPattern (s : GoString) : Bool :=
  s.all identifierByte && 1 ≤ s.length && s.length ≤ 160

def hex64Pattern (s : GoString) : Bool := s.all (· ∈ str "0123456789abcdef") && s.length = 64

def requireIdentifier (value : GoString) (label : String) : Except String Unit :=
  require (identifierPattern value = true) (errContract (label ++ " must be a portable identifier"))

namespace AuthorityContext

def validate (c : AuthorityContext) : Except String Unit := do
  requireIdentifier c.matchID "match_id"
  requireIdentifier c.authorizationID "authorization_id"
  requireIdentifier c.commandIdempotencyKey "command_idempotency_key"
  requireIdentifier c.rulesetRevision "ruleset_revision"
  requireIdentifier c.contentRevision "content_revision"
  require (hex64Pattern c.participantRosterHash = true)
    (errContract "participant_roster_hash must be lowercase 64-hex")
  require (0 ≤ c.matchVersion ∧ 0 ≤ c.globalEventSequence ∧ 0 ≤ c.expectedTick)
    (errContract "context counters must be non-negative signed i64")

end AuthorityContext
open JsonText

def parseNumber (raw : List Char) : Except String GoAny := do
  require (raw ≠ ['-', '0']) (errCanonicalJSON "-0 is forbidden")
  require (raw ≠ [] ∧ ∀ c ∈ raw, c ∉ ['.', 'e', 'E', '+'])
    (errCanonicalJSON "floating-point and exponent forms are forbidden")
  require (¬ (raw.head? = some '0' ∧ 1 < raw.length) ∧ ¬ (2 < raw.length ∧ raw.take 2 = ['-', '0']))
    (errCanonicalJSON "integer has a leading zero")
  require (-9223372036854775808 ≤ parseInt raw ∧ parseInt raw ≤ 9223372036854775807)
    (errCanonicalJSON "integer is outside signed i64")
  return .int (parseInt raw)

mutual

-- The tokens come from the tree of the text, in the order in which the decoder reads them.
def parseJSONValue (depth : Nat) (tree : Tree) : Except String GoAny := do
  require (depth ≤ maxCanonicalDepth) (errCanonicalJSON "nesting depth exceeds 128")
  match tree with
  | .null => return .nil
  | .bool value => return .bool value
  | .text pieces => return .text (ofRunes (joinPieces pieces))
  | .number raw => parseNumber raw
  | .object members => do
    let fields ← parseFields (depth + 1) [] members
    return .object fields
  | .array items => do
    let items ← parseElements (depth + 1) items
    return .array items

def parseElements (depth : Nat) : List Tree → Except String (List GoAny)
  | [] => .ok []
  | item :: rest => do
    let value ← parseJSONValue depth item
    let values ← parseElements depth rest
    return value :: values

def parseFields (depth : Nat) (seen : List GoString) :
    List (List Piece × Tree) → Except String (List (GoString × GoAny))
  | [] => .ok []
  | (pieces, item) :: rest => do
    let name := ofRunes (joinPieces pieces)
    require (name ∉ seen) (errCanonicalJSON "duplicate object key")
    require (∀ previous ∈ seen.head?, bytesLess previous name = true)
      (errCanonicalJSON "object keys are not strictly ascending UTF-8 bytes")
    let value ← parseJSONValue depth item
    let fields ← parseFields depth (name :: seen) rest
    return (name, value) :: fields

end

def byteOrderMark : GoString := [0xef, 0xbb, 0xbf]

def parseCanonical (raw : GoString) (rootContainer : Bool) (maximumBytes : Int) :
    Except String GoAny := do
  require (¬ (0 ≤ maximumBytes ∧ maximumBytes < raw.length))
    (errCanonicalJSON "payload exceeds its limit")
  require (validString raw = true) (errCanonicalJSON "input is not valid UTF-8")
  require (¬ byteOrderMark <+: raw) (errCanonicalJSON "UTF-8 BOM is forbidden")
  let tree ← (parseText (runes raw)).mapError errCanonicalJSON
  let value ← parseJSONValue 0 tree
  require (rootContainer = false ∨ value.container = true)
    (errCanonicalJSON "root must be an object or array")
  let canonical ← canonicalJSON value rootContainer
  require (raw = canonical)
    (errCanonicalJSON "bytes are not the exact canonical representation")
  return value

def contractVersion : GoString := str "trnm_world_transition_v1"
def requestHashDomain : GoString := str "trnm.world.transition.request.v1"
def transitionIDDomain : GoString := str "trnm.nakama.world.transition.id.v1"
def commandIDDomain : GoString := str "trnm.nakama.world.command.id.v1"

def maxStateBytes : Nat := 2 * 1024 * 1024
def maxCommandBytes : Nat := 128 * 1024

def forbiddenAuthorityKeys : List GoString :=
  [str "nakama_session_token", str "nakama_private_key", str "match_authority_private_key",
    str "canonical_archive_root", str "chain_finality", str "chain_app_hash",
    str "match_completed_v1", str "participant_admission_receipt", str "global_event_cursor",
    str "participant_roster", str "participant_roles", str "completion_signature",
    str "authority_key_id", str "wallet_balance"]

def requestFields : List GoString :=
  [str "command", str "content_revision", str "contract_version", str "expected_tick",
    str "previous_state", str "ruleset_revision", str "transition_id"]

mutual

def authorityFree : GoAny → Bool
  | .array items => itemsAuthorityFree items
  | .object fields => fieldsAuthorityFree fields
  | _ => true

def itemsAuthorityFree : List GoAny → Bool
  | [] => true
  | item :: rest => authorityFree item && itemsAuthorityFree rest

def fieldsAuthorityFree : List (GoString × GoAny) → Bool
  | [] => true
  | (name, value) :: rest =>
    name ∉ forbiddenAuthorityKeys && authorityFree value && fieldsAuthorityFree rest

end

def rejectAuthorityKeys (value : GoAny) (label : String) : Except String Unit :=
  require (authorityFree value = true) (errContract (label ++ " contains forbidden authority key"))

-- Which missing or unknown field is named is unspecified: the source walks Go maps.
def requireExactObject (value : GoAny) (expected : List GoString) (label : String) :
    Except String (List (GoString × GoAny)) :=
  match value with
  | .object fields => do
    require (∀ field ∈ expected, field ∈ fields.map (·.1)) (errContract (label ++ " missing field"))
    require (∀ field ∈ fields, field.1 ∈ expected) (errContract (label ++ " has unknown field"))
    return fields
  | _ => .error (errContract (label ++ " must be an object"))

structure CanonicalPayload where
  schemaID : GoString
  value : GoAny
  sha256 : GoString
  canonicalJSON : GoString

def CanonicalPayload.wire (p : CanonicalPayload) : GoAny :=
  .object
    [(str "canonical_json", p.value), (str "schema_id", .text p.schemaID),
      (str "sha256", .text p.sha256)]

structure Prepared where
  context : AuthorityContext
  request : GoAny
  canonicalRequest : GoString
  requestHash : GoString
  transitionID : GoString
  commandID : GoString
  previousStateHash : GoString

def AuthorityContext.material (c : AuthorityContext) : GoAny :=
  .object
    [(str "authorization_id", .text c.authorizationID),
      (str "command_idempotency_key", .text c.commandIdempotencyKey),
      (str "content_revision", .text c.contentRevision),
      (str "expected_tick", .int c.expectedTick.toInt),
      (str "global_event_sequence", .int c.globalEventSequence.toInt),
      (str "match_id", .text c.matchID),
      (str "match_version", .int c.matchVersion.toInt),
      (str "participant_roster_hash", .text c.participantRosterHash),
      (str "ruleset_revision", .text c.rulesetRevision)]

def AuthorityContext.binding (c : AuthorityContext) : Except String GoString := do
  c.validate
  canonicalJSON c.material false

def hashMaterial (domain canonical : GoString) : GoString := domain ++ str "\n" ++ canonical

section
variable (sha256 : GoString → Vector UInt8 32)

def sha256Hex (payload : GoString) : GoString := hexEncode (sha256 payload)

def domainHash (domain canonical : GoString) : Except String GoString := do
  require (domain ≠ [] ∧ validString domain = true) (errContract "hash domain is invalid")
  require (∀ r ∈ runes domain, r.toNat ≤ 0x7f ∧ r ≠ '\n' ∧ r ≠ '\r')
    (errContract "hash domain must be single-line ASCII")
  return sha256Hex sha256 (hashMaterial domain canonical)

def opaqueIdentifier (head domain binding : GoString) : Except String GoString := do
  let digest ← domainHash sha256 domain binding
  return head ++ digest.take 48

def newCanonicalPayload (value : GoAny) (schemaID : GoString) (maximumBytes : Nat)
    (label : String) : Except String CanonicalPayload := do
  requireIdentifier schemaID (label ++ ".schema_id")
  rejectAuthorityKeys value label
  let canonical ← (canonicalJSON value true).mapError fun e => errContract (label ++ ": " ++ e)
  require (canonical.length ≤ maximumBytes) (errContract (label ++ " exceeds its limit"))
  return ⟨schemaID, value, sha256Hex sha256 canonical, canonical⟩

def requestObject (context : AuthorityContext) (transitionID commandID : GoString)
    (statePayload commandPayload : CanonicalPayload) : GoAny :=
  .object
    [(str "command", .object
        [(str "command_id", .text commandID), (str "payload", commandPayload.wire)]),
      (str "content_revision", .text context.contentRevision),
      (str "contract_version", .text contractVersion),
      (str "expected_tick", .int context.expectedTick.toInt),
      (str "previous_state", statePayload.wire),
      (str "ruleset_revision", .text context.rulesetRevision),
      (str "transition_id", .text transitionID)]

def prepare (context : AuthorityContext) (previousStateSchemaID : GoString) (previousState : GoAny)
    (commandSchemaID : GoString) (command : GoAny) : Except String Prepared := do
  context.validate
  let binding ← context.binding
  let transitionID ← opaqueIdentifier sha256 (str "wtx-") transitionIDDomain binding
  let commandID ← opaqueIdentifier sha256 (str "wcmd-") commandIDDomain binding
  let statePayload ← newCanonicalPayload sha256 previousState previousStateSchemaID maxStateBytes
    "previous_state"
  let commandPayload ← newCanonicalPayload sha256 command commandSchemaID maxCommandBytes
    "command.payload"
  let request := requestObject context transitionID commandID statePayload commandPayload
  let _ ← requireExactObject request requestFields "World request"
  let canonical ← canonicalJSON request true
  let requestHash ← domainHash sha256 requestHashDomain canonical
  return ⟨context, request, canonical, requestHash, transitionID, commandID, statePayload.sha256⟩

end

variable {label : String} {u : Unit}

theorem identifier_ok {value : GoString} :
    requireIdentifier value label = .ok u ↔ identifierPattern value = true :=
  require_ok

theorem validate_ok {c : AuthorityContext} :
    c.validate = .ok u ↔
      (identifierPattern c.matchID = true ∧ identifierPattern c.authorizationID = true ∧
        identifierPattern c.commandIdempotencyKey = true ∧
        identifierPattern c.rulesetRevision = true ∧ identifierPattern c.contentRevision = true ∧
        hex64Pattern c.participantRosterHash = true) ∧
      0 ≤ c.matchVersion ∧ 0 ≤ c.globalEventSequence ∧ 0 ≤ c.expectedTick := by
  simp only [AuthorityContext.validate, bind_ok, identifier_ok, require_ok, exists_const]
  tauto

variable {sha256 : GoString → Vector UInt8 32}

theorem domainHash_ok {domain canonical digest : GoString}
    (h : domainHash sha256 domain canonical = .ok digest) :
    digest = sha256Hex sha256 (hashMaterial domain canonical) := by
  simp only [domainHash, bind_ok] at h
  obtain ⟨_, _, _, _, h⟩ := h
  exact (Except.ok.inj h).symm

theorem opaqueIdentifier_ok {head domain binding id : GoString}
    (h : opaqueIdentifier sha256 head domain binding = .ok id) :
    id = head ++ (sha256Hex sha256 (hashMaterial domain binding)).take 48 := by
  simp only [opaqueIdentifier, bind_ok] at h
  obtain ⟨digest, hdigest, h⟩ := h
  rw [← domainHash_ok hdigest]
  exact (Except.ok.inj h).symm

structure PayloadOf (sha256 : GoString → Vector UInt8 32) (maximumBytes : Nat)
    (p : CanonicalPayload) : Prop where
  identifier : identifierPattern p.schemaID = true
  authority : authorityFree p.value = true
  canonical : canonicalJSON p.value true = .ok p.canonicalJSON
  length : p.canonicalJSON.length ≤ maximumBytes
  hash : p.sha256 = sha256Hex sha256 p.canonicalJSON

theorem newCanonicalPayload_ok {value : GoAny} {schemaID : GoString} {maximumBytes : Nat}
    {p : CanonicalPayload} :
    newCanonicalPayload sha256 value schemaID maximumBytes label = .ok p ↔
      PayloadOf sha256 maximumBytes p ∧ p.value = value ∧ p.schemaID = schemaID := by
  simp only [newCanonicalPayload, rejectAuthorityKeys, bind_ok, identifier_ok, require_ok,
    mapError_ok]
  constructor
  · rintro ⟨_, hidentifier, _, hauthority, canonical, hcanonical, _, hlength, h⟩
    cases h
    exact ⟨⟨hidentifier, hauthority, hcanonical, hlength, rfl⟩, rfl, rfl⟩
  · rintro ⟨h, rfl, rfl⟩
    refine ⟨(), h.identifier, (), h.authority, _, h.canonical, (), h.length, ?_⟩
    exact congrArg (fun hash => Except.ok { p with sha256 := hash }) h.hash.symm

structure PreparedOf (sha256 : GoString → Vector UInt8 32)
    (statePayload commandPayload : CanonicalPayload) (p : Prepared) : Prop where
  valid : p.context.validate = .ok ()
  ids : ∃ binding, p.context.binding = .ok binding ∧
    opaqueIdentifier sha256 (str "wtx-") transitionIDDomain binding = .ok p.transitionID ∧
    opaqueIdentifier sha256 (str "wcmd-") commandIDDomain binding = .ok p.commandID
  state : PayloadOf sha256 maxStateBytes statePayload
  command : PayloadOf sha256 maxCommandBytes commandPayload
  request : p.request =
    requestObject p.context p.transitionID p.commandID statePayload commandPayload
  canonical : canonicalJSON p.request true = .ok p.canonicalRequest
  requestHash : domainHash sha256 requestHashDomain p.canonicalRequest = .ok p.requestHash
  previousState : p.previousStateHash = statePayload.sha256

theorem request_exact (context : AuthorityContext) (transitionID commandID : GoString)
    (state command : CanonicalPayload) :
    ∃ fields, requireExactObject (requestObject context transitionID commandID state command)
      requestFields "World request" = .ok fields := by
  refine ⟨_, bind_ok.mpr ⟨(), require_ok.mpr ?_, bind_ok.mpr ⟨(), require_ok.mpr ?_, rfl⟩⟩⟩
  · exact fun field hfield => hfield
  · exact fun field hfield => List.mem_map_of_mem (f := Prod.fst) hfield

theorem prepare_ok {context : AuthorityContext} {stateSchemaID commandSchemaID : GoString}
    {state command : GoAny} {p : Prepared} :
    prepare sha256 context stateSchemaID state commandSchemaID command = .ok p ↔
      p.context = context ∧ ∃ statePayload commandPayload,
        PreparedOf sha256 statePayload commandPayload p ∧
        (statePayload.value = state ∧ statePayload.schemaID = stateSchemaID) ∧
        commandPayload.value = command ∧ commandPayload.schemaID = commandSchemaID := by
  simp only [prepare, bind_ok, newCanonicalPayload_ok]
  constructor
  · rintro ⟨_, hvalid, binding, hbinding, transitionID, htransition, commandID, hcommand,
      statePayload, ⟨hstate, hvalue, hschema⟩, commandPayload, ⟨hpayload, hvalue', hschema'⟩, _, _,
      canonical, hcanonical, requestHash, hrequest, h⟩
    cases h
    exact ⟨rfl, statePayload, commandPayload, ⟨hvalid, ⟨binding, hbinding, htransition, hcommand⟩,
      hstate, hpayload, rfl, hcanonical, hrequest, rfl⟩, ⟨hvalue, hschema⟩, hvalue', hschema'⟩
  · rintro ⟨rfl, statePayload, commandPayload, h, ⟨hvalue, hschema⟩, hvalue', hschema'⟩
    obtain ⟨binding, hbinding, htransition, hcommand⟩ := h.ids
    obtain ⟨fields, hfields⟩ := request_exact p.context p.transitionID p.commandID statePayload
      commandPayload
    refine ⟨(), h.valid, binding, hbinding, _, htransition, _, hcommand, statePayload,
      ⟨h.state, hvalue, hschema⟩, commandPayload, ⟨h.command, hvalue', hschema'⟩, fields, hfields,
      p.canonicalRequest, h.request ▸ h.canonical, p.requestHash, h.requestHash, ?_⟩
    rw [← h.request, ← h.previousState]
    rfl

end WorldTransition
