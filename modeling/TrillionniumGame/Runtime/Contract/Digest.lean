import TrillionniumGame.Foundation.FiniteMap
import TrillionniumGame.Foundation.Framing

namespace Contract
open Checks DigestTable FiniteMap Framing GoText

section
structure Crypto where
  sha256 : GoString → Vector UInt8 32
  sign : GoString → GoString → GoString
  verify : GoString → GoString → GoString → Bool
  publicKey : GoString → GoString

def publicKeySize : Nat := 32
def privateKeySize : Nat := 64
def signatureSize : Nat := 64
def seedSize : Nat := 32

variable (crypto : Crypto)

def Crypto.newKeyFromSeed (seed : GoString) : GoString :=
  seed ++ crypto.publicKey seed

abbrev Digest := GoString

def digestPrefix : GoString := str "sha256:"

def maxContractTextRunes : Nat := 512

def maxPayloadBytes : Nat := 64 * 1024

def newDigest (data : GoString) : Digest :=
  digestPrefix ++ hexEncode (crypto.sha256 data)

def hexNibble (b : UInt8) : Option Nat :=
  if 0x30 ≤ b.toNat ∧ b.toNat ≤ 0x39 then some (b.toNat - 0x30)
  else if 0x61 ≤ b.toNat ∧ b.toNat ≤ 0x66 then some (b.toNat - 0x57)
  else if 0x41 ≤ b.toNat ∧ b.toNat ≤ 0x46 then some (b.toNat - 0x37)
  else none

def hexDecode : GoString → Option GoString
  | [] => some []
  | [_] => none
  | a :: b :: rest => do
    let high ← hexNibble a
    let low ← hexNibble b
    let tail ← hexDecode rest
    return UInt8.ofNat (high * 16 + low) :: tail

def lowerCase (s : GoString) : Bool := s.all fun b => ¬ (0x41 ≤ b.toNat ∧ b.toNat ≤ 0x5A)

def vector32 (bytes : GoString) : Option (Vector UInt8 32) :=
  if h : bytes.length = 32 then some ⟨bytes.toArray, h⟩ else none

def Digest.bytes (value : Digest) : Except String (Vector UInt8 32) := do
  require (value.length = digestPrefix.length + 64 ∧ digestPrefix <+: value)
    "digest must be sha256 followed by 64 lowercase hexadecimal characters"
  require (lowerCase (value.drop digestPrefix.length) = true) "digest hexadecimal must be lowercase"
  fetch ((hexDecode (value.drop digestPrefix.length)).bind vector32)
    "digest contains invalid hexadecimal"

def Digest.validate (value : Digest) : Except String Unit := do
  let _ ← Digest.bytes value
  return ()

def validateText (name : String) (value : GoString) : Except String Unit := do
  require (value ≠ []) (name ++ " is required")
  require (validString value = true) (name ++ " is not valid UTF-8")
  require ((runes value).length ≤ maxContractTextRunes) (name ++ " exceeds 512 Unicode code points")
  require (0 ∉ value) (name ++ " contains a NUL byte")

def validateKeyID (value : GoString) : Except String Unit := validateText "key_id" value

def validateAuthorizationID (value : GoString) : Except String Unit :=
  validateText "authorization_id" value

def alphanumeric (b : UInt8) : Bool :=
  (0x41 ≤ b.toNat && b.toNat ≤ 0x5A) || (0x61 ≤ b.toNat && b.toNat ≤ 0x7A) ||
    (0x30 ≤ b.toNat && b.toNat ≤ 0x39)

-- `^[A-Za-z0-9][A-Za-z0-9._:-]{0,127}$`
def logicalMatchIDPattern : GoString → Bool
  | [] => false
  | b :: rest =>
    alphanumeric b && rest.all (fun b => alphanumeric b || b ∈ str "._:-") && rest.length ≤ 127

def validateLogicalMatchID (value : GoString) : Except String Unit :=
  require (logicalMatchIDPattern value = true)
    "match_id must match [A-Za-z0-9][A-Za-z0-9._:-]\x7b0,127\x7d"

def validateEd25519PrivateKey (privateKey : GoString) (name : String) :
    Except String Unit := do
  require (privateKey.length = privateKeySize) (name ++ " private key has invalid length")
  require (crypto.newKeyFromSeed (privateKey.take seedSize) = privateKey)
    (name ++ " private key public suffix does not match its seed")

inductive Field where
  | text (value : GoString)
  | u32 (value : UInt32)
  | u64 (value : UInt64)
  | digest (value : Digest)

def i64 (value : Int64) : Field := .u64 value.toUInt64

def Field.encode : Field → Except String GoString
  | .text value => do
    require (value.length ≤ 4294967295) "canonical field exceeds uint32 length"
    return prefixed 4 value
  | .u32 value => .ok (bigEndian value.toNat 4)
  | .u64 value => .ok (bigEndian value.toNat 8)
  | .digest value => (Digest.bytes value).mapError ("invalid digest: " ++ ·) |>.map (·.toList)

def frame (domain : GoString) (fields : List Field) : Except String GoString := do
  let body ← encodeAll Field.encode fields
  return domain ++ 0 :: body

inductive Field.SameKind : Field → Field → Prop
  | text (v w : GoString) : SameKind (.text v) (.text w)
  | u32 (v w : UInt32) : SameKind (.u32 v) (.u32 w)
  | u64 (v w : UInt64) : SameKind (.u64 v) (.u64 w)
  | digest (v w : Digest) : SameKind (.digest v) (.digest w)

variable {n : Nat}

theorem lower_nibble {b : UInt8} (h : hexNibble b = some n)
    (hlower : ¬ (0x41 ≤ b.toNat ∧ b.toNat ≤ 0x5A)) : n < 16 ∧ b = hexDigit n := by
  have hall : ∀ b : UInt8, ¬ (0x41 ≤ b.toNat ∧ b.toNat ≤ 0x5A) → ∀ n ∈ hexNibble b,
      n < 16 ∧ b = hexDigit n :=
    forall_byte (by decide +kernel)
  exact hall b hlower n h

theorem hexDecode_lower {s bytes : GoString} (h : hexDecode s = some bytes)
    (hlower : lowerCase s = true) : s = bytes.flatMap hexByte := by
  simp only [lowerCase, List.all_eq_true, decide_not, Bool.not_eq_true', decide_eq_false_iff_not]
    at hlower
  induction s using hexDecode.induct generalizing bytes with
  | case1 =>
    cases h
    rfl
  | case2 b => cases h
  | case3 a b rest ih =>
    simp only [hexDecode, Option.bind_eq_bind, Option.bind_eq_some_iff] at h
    obtain ⟨high, hhigh, low, hlow, tail, htail, h⟩ := h
    cases h
    obtain ⟨hhigh16, ha⟩ := lower_nibble hhigh (hlower a (by simp))
    obtain ⟨hlow16, hb⟩ := lower_nibble hlow (hlower b (by simp))
    have hrest := ih htail fun b' hb' => hlower b' (by simp [hb'])
    have hbyte : (UInt8.ofNat (high * 16 + low)).toNat = high * 16 + low := by
      rw [UInt8.toNat_ofNat']
      omega
    have hdiv : (high * 16 + low) / 16 = high := by omega
    have hmod : (high * 16 + low) % 16 = low := by omega
    rw [List.flatMap_cons, ← hrest, hexByte, hbyte, hdiv, hmod, ← ha, ← hb]
    rfl

variable {value : Digest} {raw : Vector UInt8 32}

theorem bytes_ok (h : Digest.bytes value = .ok raw) : value = digestPrefix ++ hexEncode raw := by
  simp only [Digest.bytes, bind_ok, require_ok, fetch_ok, Option.bind_eq_some_iff] at h
  obtain ⟨_, ⟨_, hleads⟩, _, hlower, bytes, hdecode, hvector⟩ := h
  have hhex := hexDecode_lower hdecode hlower
  obtain ⟨rest, rfl⟩ := hleads
  rw [List.drop_left] at hhex
  unfold vector32 at hvector
  split at hvector
  · cases hvector
    rw [hhex, hexEncode, Vector.toList_mk]
  · cases hvector

theorem hexNibble_hexDigit (h : n < 16) : hexNibble (hexDigit n) = some n := by
  have hall : ∀ n < 16, hexNibble (hexDigit n) = some n := by decide
  exact hall n h

theorem hexDecode_hexByte (bytes : GoString) : hexDecode (bytes.flatMap hexByte) = some bytes := by
  induction bytes with
  | nil => rfl
  | cons b rest ih =>
    have hb := b.toNat_lt
    have hvalue : b.toNat / 16 * 16 + b.toNat % 16 = b.toNat := by omega
    rw [List.flatMap_cons, hexByte, List.cons_append, List.singleton_append, hexDecode, ih,
      hexNibble_hexDigit (by omega), hexNibble_hexDigit (by omega)]
    simp only [Option.bind_eq_bind, Option.bind_some, hvalue, UInt8.ofNat_toNat]
    rfl

theorem lowerCase_hexByte (bytes : GoString) : lowerCase (bytes.flatMap hexByte) = true := by
  have hall : ∀ n < 16, ¬ (0x41 ≤ (hexDigit n).toNat ∧ (hexDigit n).toNat ≤ 0x5A) := by decide
  rw [lowerCase, List.all_flatMap, List.all_eq_true]
  intro b _
  have hb := b.toNat_lt
  have hhigh := hall (b.toNat / 16) (by omega)
  have hlow := hall (b.toNat % 16) (by omega)
  simp only [hexByte, List.all_cons, List.all_nil, decide_not, hhigh, hlow]
  decide

theorem length_hexEncode (raw : Vector UInt8 32) : (hexEncode raw).length = 64 := by
  rw [hexEncode, List.length_flatMap]
  simp [hexByte, Vector.length_toList]

theorem bytes_hexEncode (raw : Vector UInt8 32) :
    Digest.bytes (digestPrefix ++ hexEncode raw) = .ok raw := by
  simp only [Digest.bytes, bind_ok, require_ok, fetch_ok, List.drop_left]
  refine ⟨(), ⟨?_, List.prefix_append _ _⟩, (), lowerCase_hexByte _, ?_⟩
  · rw [List.length_append, length_hexEncode]
  · rw [hexEncode, hexDecode_hexByte, Option.bind_some, vector32, dif_pos (by simp)]
    rfl

theorem bytes_newDigest (data : GoString) :
    Digest.bytes (newDigest crypto data) = .ok (crypto.sha256 data) :=
  bytes_hexEncode _

theorem newDigest_eq {crypto : Crypto} {x y : GoString}
    (h : newDigest crypto x = newDigest crypto y) : crypto.sha256 x = crypto.sha256 y := by
  have hx := bytes_newDigest crypto x
  rw [h, bytes_newDigest] at hx
  exact (Except.ok.inj hx).symm

theorem bytes_inj {v w : Digest} (hv : Digest.bytes v = .ok raw) (hw : Digest.bytes w = .ok raw) :
    v = w := (bytes_ok hv).trans (bytes_ok hw).symm

theorem digest_encode {b : GoString} :
    Field.encode (.digest value) = .ok b ↔ ∃ raw, Digest.bytes value = .ok raw ∧ b = raw.toList := by
  rw [Field.encode]
  cases Digest.bytes value with
  | error e => simp [Except.mapError, Except.map]
  | ok raw => simp [Except.mapError, Except.map, eq_comm]

theorem text_encode {value b : GoString} :
    Field.encode (.text value) = .ok b ↔ value.length < 256 ^ 4 ∧ b = prefixed 4 value := by
  simp only [Field.encode, bind_ok, require_ok]
  constructor
  · rintro ⟨_, hlength, h⟩
    exact ⟨by omega, (Except.ok.inj h).symm⟩
  · rintro ⟨hlength, rfl⟩
    exact ⟨(), by omega, rfl⟩

theorem field_selfDelimiting : SelfDelimiting Field.encode Field.SameKind := by
  constructor
  intro f g b b' r r' hsame hf hg heq
  cases hsame with
  | text v w =>
    obtain ⟨hv, rfl⟩ := text_encode.mp hf
    obtain ⟨hw, rfl⟩ := text_encode.mp hg
    obtain ⟨rfl, hr⟩ := prefixed_peel hv hw heq
    exact ⟨rfl, hr⟩
  | u32 v w =>
    cases hf
    cases hg
    obtain ⟨hvalue, hr⟩ := bigEndian_peel v.toNat_lt w.toNat_lt heq
    exact ⟨by rw [UInt32.toNat_inj.mp hvalue], hr⟩
  | u64 v w =>
    cases hf
    cases hg
    obtain ⟨hvalue, hr⟩ := bigEndian_peel v.toNat_lt w.toNat_lt heq
    exact ⟨by rw [UInt64.toNat_inj.mp hvalue], hr⟩
  | digest v w =>
    obtain ⟨raw, hv, rfl⟩ := digest_encode.mp hf
    obtain ⟨raw', hw, rfl⟩ := digest_encode.mp hg
    obtain ⟨hraw, hr⟩ := List.append_inj heq (by simp)
    rw [Vector.toList_inj] at hraw
    subst hraw
    exact ⟨by rw [bytes_inj hv hw], hr⟩

theorem frame_ok {domain b : GoString} {fields : List Field} :
    frame domain fields = .ok b ↔
      ∃ body, encodeAll Field.encode fields = .ok body ∧ b = domain ++ 0 :: body := by
  simp only [frame, bind_ok]
  constructor
  · rintro ⟨body, hbody, h⟩
    exact ⟨body, hbody, (Except.ok.inj h).symm⟩
  · rintro ⟨body, hbody, rfl⟩
    exact ⟨body, hbody, rfl⟩

end

section
def validateTexts (fields : List (String × GoString)) : Except String Unit :=
  fields.forM fun field => validateText field.1 field.2

def authorizationSchema : GoString := str "trnm.match.authorization.v1"

structure AuthorizationClaim where
  schema : GoString
  authorizationID : GoString
  matchID : GoString
  challengeID : GoString
  agentID : GoString
  agentDID : GoString
  agentKeyID : GoString
  agentPublicKey : GoString
  subjectUserID : GoString
  participantSlot : UInt32
  role : GoString
  rulesetHash : Digest
  datasetHash : Digest
  challengeSnapshotHash : Digest
  issuedAtUnix : Int64
  expiresAtUnix : Int64
  deriving Inhabited

structure SignedAuthorization where
  claim : AuthorizationClaim
  issuerKeyID : GoString
  signature : GoString
  deriving Inhabited

variable (c : AuthorizationClaim)

def AuthorizationClaim.validate : Except String Unit := do
  require (c.schema = authorizationSchema) "unsupported authorization schema"
  validateTexts [("match_id", c.matchID), ("challenge_id", c.challengeID),
    ("agent_id", c.agentID), ("agent_did", c.agentDID), ("agent_key_id", c.agentKeyID),
    ("subject_user_id", c.subjectUserID), ("role", c.role)]
  validateAuthorizationID c.authorizationID
  require (c.agentPublicKey.length = publicKeySize) "agent_public_key must be 32 bytes"
  validateLogicalMatchID c.matchID
  require (c.participantSlot = 1 ∨ c.participantSlot = 2) "participant_slot must be 1 or 2"
  (Digest.validate c.rulesetHash).mapError ("ruleset_hash: " ++ ·)
  (Digest.validate c.datasetHash).mapError ("dataset_hash: " ++ ·)
  (Digest.validate c.challengeSnapshotHash).mapError ("challenge_snapshot_hash: " ++ ·)
  require (0 ≤ c.issuedAtUnix ∧ c.issuedAtUnix < c.expiresAtUnix)
    "authorization validity interval is invalid"

def AuthorizationClaim.fields : List Field :=
  [.text c.schema, .text c.authorizationID, .text c.matchID, .text c.challengeID, .text c.agentID,
    .text c.agentDID, .text c.agentKeyID, .text c.agentPublicKey, .text c.subjectUserID,
    .u32 c.participantSlot, .text c.role, .digest c.rulesetHash, .digest c.datasetHash,
    .digest c.challengeSnapshotHash, i64 c.issuedAtUnix, i64 c.expiresAtUnix]

def AuthorizationClaim.canonicalBytes : Except String GoString := do
  c.validate
  frame (str "trnm_match_authorization_claim_v1") c.fields

def authorizationSigningBytes (claim : AuthorizationClaim) (issuerKeyID : GoString) :
    Except String GoString := do
  validateText "issuer_key_id" issuerKeyID
  let claimBytes ← claim.canonicalBytes
  frame (str "trnm_match_authorization_signature_v1") [.text issuerKeyID, .text claimBytes]

def signAuthorization (crypto : Crypto) (claim : AuthorizationClaim)
    (issuerKeyID privateKey : GoString) : Except String SignedAuthorization := do
  validateEd25519PrivateKey crypto privateKey "issuer"
  let message ← authorizationSigningBytes claim issuerKeyID
  return { claim, issuerKeyID, signature := crypto.sign privateKey message }

abbrev KeyMap := Dict GoString GoString

def verifyAuthorizationSignature (crypto : Crypto) (auth : SignedAuthorization)
    (trustedIssuerKeys : KeyMap) : Except String Unit := do
  let key ← fetch (trustedIssuerKeys.lookup auth.issuerKeyID) "untrusted issuer key"
  require (key.length = publicKeySize ∧ auth.signature.length = signatureSize)
    "issuer key or signature has invalid length"
  let message ← authorizationSigningBytes auth.claim auth.issuerKeyID
  require (crypto.verify key message auth.signature = true)
    "authorization signature verification failed"

def verifyAuthorization (crypto : Crypto) (auth : SignedAuthorization)
    (trustedIssuerKeys : KeyMap) (nowUnix : Int64) : Except String Unit := do
  verifyAuthorizationSignature crypto auth trustedIssuerKeys
  require (auth.claim.issuedAtUnix ≤ nowUnix) "authorization is not active yet"
  require (nowUnix < auth.claim.expiresAtUnix) "authorization has expired"

def commandSchema : GoString := str "trnm.match.command.v1"

structure CommandEnvelope where
  schema : GoString
  commandID : GoString
  authorizationID : GoString
  matchID : GoString
  challengeID : GoString
  agentID : GoString
  participantSlot : UInt32
  participantSequence : UInt64
  expectedMatchVersion : UInt64
  issuedAtUnix : Int64
  payloadType : GoString
  payload : GoString
  payloadHash : Digest
  agentKeyID : GoString
  signature : GoString

variable (crypto : Crypto)

def CommandEnvelope.validate (c : CommandEnvelope) : Except String Unit := do
  require (c.schema = commandSchema) "unsupported command schema"
  validateTexts [("command_id", c.commandID), ("authorization_id", c.authorizationID),
    ("match_id", c.matchID), ("challenge_id", c.challengeID), ("agent_id", c.agentID),
    ("payload_type", c.payloadType), ("agent_key_id", c.agentKeyID)]
  require (c.participantSlot = 1 ∨ c.participantSlot = 2) "participant_slot must be 1 or 2"
  validateLogicalMatchID c.matchID
  require (c.participantSequence ≠ 0) "participant_sequence must start at 1"
  require (0 ≤ c.issuedAtUnix) "issued_at_unix must be non-negative"
  require (c.payload ≠ [] ∧ c.payload.length ≤ maxPayloadBytes)
    "payload must contain between 1 and 65536 bytes"
  require (c.payloadHash = newDigest crypto c.payload) "payload_hash does not match payload"
  require (c.signature = [] ∨ c.signature.length = signatureSize)
    "command signature has invalid length"

def CommandEnvelope.fields (c : CommandEnvelope) : List Field :=
  [.text c.schema, .text c.commandID, .text c.authorizationID, .text c.matchID,
    .text c.challengeID, .text c.agentID, .u32 c.participantSlot, .u64 c.participantSequence,
    .u64 c.expectedMatchVersion, i64 c.issuedAtUnix, .text c.payloadType, .text c.payload,
    .digest c.payloadHash, .text c.agentKeyID]

def CommandEnvelope.signingBytes (c : CommandEnvelope) : Except String GoString := do
  c.validate crypto
  frame (str "trnm_match_command_signature_v1") c.fields

def signCommand (command : CommandEnvelope) (privateKey : GoString) :
    Except String CommandEnvelope := do
  validateEd25519PrivateKey crypto privateKey "agent"
  let command :=
    { command with payloadHash := newDigest crypto command.payload, signature := [] }
  let message ← command.signingBytes crypto
  return { command with signature := crypto.sign privateKey message }

def verifyCommand (command : CommandEnvelope) (key : GoString) : Except String Unit := do
  require (key.length = publicKeySize ∧ command.signature.length = signatureSize)
    "agent key or signature has invalid length"
  let message ← command.signingBytes crypto
  require (crypto.verify key message command.signature = true)
    "command signature verification failed"

def fingerprintBytes (command : CommandEnvelope) : Except String GoString := do
  let message ← command.signingBytes crypto
  frame (str "trnm_match_command_fingerprint_v1") [.text message, .text command.signature]

def commandFingerprint (command : CommandEnvelope) : Except String Digest := do
  let encoded ← fingerprintBytes crypto command
  return newDigest crypto encoded

end

end Contract
