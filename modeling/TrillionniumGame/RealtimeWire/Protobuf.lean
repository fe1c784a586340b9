import TrillionniumGame.Foundation.Framing
import TrillionniumGame.Foundation.Words

namespace RealtimeWire
open Checks Words
open DigestTable (bigEndian)
open Framing (readBigEndian)
open GoText (validString)

def maxPayloadBytes : Nat := 128 * 1024

inductive Opcode where
  | text | binary | close | ping | pong
  deriving DecidableEq

inductive FrameError where
  | incomplete
  | reservedBitsSet
  | fragmentationUnsupported
  | unsupportedOpcode (value : UInt8)
  | clientFrameNotMasked
  | payloadLengthNonCanonical
  | payloadTooLarge (actual : Nat)
  | controlPayloadTooLarge
  | invalidTextUtf8
  | invalidClosePayload
  | invalidCloseCode (code : Nat)
  | invalidCloseReason
  deriving DecidableEq

namespace Opcode

def value : Opcode → UInt8
  | text => 0x1
  | binary => 0x2
  | close => 0x8
  | ping => 0x9
  | pong => 0xa

def parse (value : UInt8) : Except FrameError Opcode :=
  if value = 0x1 then .ok text
  else if value = 0x2 then .ok binary
  else if value = 0x8 then .ok close
  else if value = 0x9 then .ok ping
  else if value = 0xa then .ok pong
  else if value = 0x0 then .error .fragmentationUnsupported
  else .error (.unsupportedOpcode value)

def isControl : Opcode → Bool
  | close | ping | pong => true
  | _ => false

end Opcode

structure ClientFrame where
  opcode : Opcode
  payload : List UInt8
  deriving DecidableEq

structure CloseFrame where
  code : Option Nat
  reason : List UInt8

def validCloseCode (code : Nat) : Bool :=
  (1000 ≤ code && code ≤ 1003) || (1007 ≤ code && code ≤ 1014) || (3000 ≤ code && code ≤ 4999)

def ClientFrame.close (frame : ClientFrame) : Except FrameError (Option CloseFrame) :=
  if frame.opcode ≠ .close then .ok none
  else
    match frame.payload with
    | [] => .ok (some ⟨none, []⟩)
    | [_] => .error .invalidClosePayload
    | high :: low :: reason => do
      let code := readBigEndian [high, low] 0
      require (validCloseCode code = true) (.invalidCloseCode code)
      require (validString reason = true) .invalidCloseReason
      return some ⟨some code, reason⟩

def maxLength : Nat := 2 ^ 64 - 1

def payloadExtent (indicator : UInt8) (input : List UInt8) : Except FrameError (Nat × Nat) :=
  if indicator ≤ 125 then .ok (indicator.toNat, 2)
  else if indicator = 126 then do
    require (4 ≤ input.length) .incomplete
    let value := readBigEndian ((input.drop 2).take 2) 0
    require (126 ≤ value) .payloadLengthNonCanonical
    return (value, 4)
  else do
    require (10 ≤ input.length) .incomplete
    require (input.getD 2 0 &&& 0x80 = 0) (.payloadTooLarge maxLength)
    let value := readBigEndian ((input.drop 2).take 8) 0
    require (65535 < value) .payloadLengthNonCanonical
    return (value, 10)

def decodeClientFrame (input : List UInt8) : Except FrameError (ClientFrame × Nat) := do
  require (2 ≤ input.length) .incomplete
  let first := input.getD 0 0
  let second := input.getD 1 0
  require (first &&& 0x70 = 0) .reservedBitsSet
  require (first &&& 0x80 ≠ 0) .fragmentationUnsupported
  let opcode ← Opcode.parse (first &&& 0x0f)
  require (second &&& 0x80 ≠ 0) .clientFrameNotMasked
  let (payloadLength, headerLength) ← payloadExtent (second &&& 0x7f) input
  require (¬ (opcode.isControl = true ∧ 125 < payloadLength)) .controlPayloadTooLarge
  require (payloadLength ≤ maxPayloadBytes) (.payloadTooLarge payloadLength)
  let maskEnd ← fetch (fits 64 (headerLength + 4)) .incomplete
  let frameEnd ← fetch (fits 64 (maskEnd + payloadLength)) (.payloadTooLarge maxLength)
  require (frameEnd ≤ input.length) .incomplete
  let mask := (input.drop headerLength).take 4
  let payload := ((input.drop maskEnd).take payloadLength).mapIdx fun index byte =>
    byte ^^^ mask.getD (index % 4) 0
  require (¬ (opcode = .text ∧ validString payload = false)) .invalidTextUtf8
  let frame : ClientFrame := ⟨opcode, payload⟩
  let _ ← frame.close
  return (frame, frameEnd)

def encodeServerFrame (opcode : Opcode) (payload : List UInt8) :
    Except FrameError (List UInt8) := do
  require (payload.length ≤ maxPayloadBytes) (.payloadTooLarge payload.length)
  require (¬ (opcode.isControl = true ∧ 125 < payload.length)) .controlPayloadTooLarge
  require (¬ (opcode = .text ∧ validString payload = false)) .invalidTextUtf8
  let length :=
    if payload.length ≤ 125 then [UInt8.ofNat payload.length]
    else if payload.length ≤ 65535 then 126 :: bigEndian payload.length 2
    else 127 :: bigEndian payload.length 8
  return (0x80 ||| opcode.value) :: length ++ payload

open Reading

def maxEnvelopeBodyBytes : Nat := maxPayloadBytes - 16

structure AuthorityCommandEnvelope where
  jsonRequest : List UInt8

structure AuthorityResponseEnvelope where
  status : Nat
  jsonBody : List UInt8

inductive ProtobufError where
  | incomplete
  | invalidFieldKey
  | invalidWireType (field wireType : Nat)
  | unknownField (field : Nat)
  | duplicateField (field : Nat)
  | nonCanonicalVarint
  | varintOverflow
  | lengthOverflow
  | payloadTooLarge (actual : Nat)
  | missingField (field : Nat)
  | invalidUtf8 (field : Nat)
  | invalidStatus (status : Nat)
  deriving DecidableEq

def varintLength (value : Nat) : Nat :=
  if value < 0x80 then 1 else varintLength (value >>> 7) + 1
termination_by value
decreasing_by
  rw [Nat.shiftRight_eq_div_pow]
  omega

def writeVarint (value : Nat) : List UInt8 :=
  if value < 0x80 then [UInt8.ofNat value]
  else (UInt8.ofNat value &&& 0x7f ||| 0x80) :: writeVarint (value >>> 7)
termination_by value
decreasing_by
  rw [Nat.shiftRight_eq_div_pow]
  omega

def readVarintRounds : Nat → Nat → Nat → List UInt8 → Except ProtobufError (Nat × List UInt8)
  | 0, _, _, _ => .error .varintOverflow
  | _ + 1, _, _, [] => .error .incomplete
  | rounds + 1, index, value, byte :: rest => do
    require (¬ (index = 9 ∧ 1 < byte)) .varintOverflow
    let value := value ||| ((byte &&& 0x7f).toNat <<< (index * 7))
    if byte &&& 0x80 = 0 then
      require (index + 1 = varintLength value) .nonCanonicalVarint
      return (value, rest)
    else readVarintRounds rounds (index + 1) value rest

def readVarint (input : List UInt8) : Except ProtobufError (Nat × List UInt8) :=
  readVarintRounds 10 0 0 input

def readLengthDelimited (input : List UInt8) : Except ProtobufError (List UInt8 × List UInt8) := do
  let (raw, rest) ← readVarint input
  let length ← fetch (fits 64 raw) .lengthOverflow
  require (length ≤ maxEnvelopeBodyBytes) (.payloadTooLarge length)
  require (length ≤ rest.length) .incomplete
  return (rest.take length, rest.drop length)

def readKey (input : List UInt8) : Except ProtobufError ((Nat × Nat) × List UInt8) := do
  let (key, rest) ← readVarint input
  let field ← fetch (fits 32 (key >>> 3)) .invalidFieldKey
  let wireType := key &&& 0x07
  require (field ≠ 0) .invalidFieldKey
  return ((field, wireType), rest)

def validateJsonBytes (field : Nat) (value : List UInt8) : Except ProtobufError Unit := do
  require (value ≠ [] ∧ value.length ≤ maxEnvelopeBodyBytes) (.payloadTooLarge value.length)
  require (validString value = true) (.invalidUtf8 field)

def encodeAuthorityCommand (jsonRequest : List UInt8) : Except ProtobufError (List UInt8) := do
  validateJsonBytes 1 jsonRequest
  let length ← fetch (fits 64 jsonRequest.length) .lengthOverflow
  return 0x0a :: writeVarint length ++ jsonRequest

def readCommandField (jsonRequest : Option (List UInt8)) (input : List UInt8) :
    Except ProtobufError (Option (List UInt8) × List UInt8) := do
  let (key, rest) ← readKey input
  match key with
  | (1, 2) =>
    require (jsonRequest = none) (.duplicateField 1)
    let (value, rest) ← readLengthDelimited rest
    validateJsonBytes 1 value
    return (some value, rest)
  | (1, other) => .error (.invalidWireType 1 other)
  | (other, _) => .error (.unknownField other)

def encodeAuthorityResponse (status : Nat) (jsonBody : List UInt8) :
    Except ProtobufError (List UInt8) := do
  require (100 ≤ status ∧ status ≤ 599) (.invalidStatus status)
  validateJsonBytes 2 jsonBody
  let length ← fetch (fits 64 jsonBody.length) .lengthOverflow
  return 0x08 :: writeVarint status ++ 0x12 :: writeVarint length ++ jsonBody

abbrev ResponseFields := Option Nat × Option (List UInt8)

def readResponseField (fields : ResponseFields) (input : List UInt8) :
    Except ProtobufError (ResponseFields × List UInt8) := do
  let (key, rest) ← readKey input
  match key with
  | (1, 0) =>
    require (fields.1 = none) (.duplicateField 1)
    let (raw, rest) ← readVarint rest
    require (100 ≤ raw ∧ raw ≤ 599) (.invalidStatus raw)
    return ((some raw, fields.2), rest)
  | (1, other) => .error (.invalidWireType 1 other)
  | (2, 2) =>
    require (fields.2 = none) (.duplicateField 2)
    let (value, rest) ← readLengthDelimited rest
    validateJsonBytes 2 value
    return ((fields.1, some value), rest)
  | (2, other) => .error (.invalidWireType 2 other)
  | (other, _) => .error (.unknownField other)

section Consumes

variable {input rest : List UInt8}

theorem readVarintRounds_consumes {rounds index value result : Nat}
    (h : readVarintRounds rounds index value input = .ok (result, rest)) :
    rest.length < input.length := by
  induction rounds generalizing index value input with
  | zero => cases h
  | succ rounds ih =>
    cases input with
    | nil => cases h
    | cons byte later =>
      rw [readVarintRounds, bind_ok] at h
      obtain ⟨-, -, h⟩ := h
      dsimp only at h
      split at h
      · rw [bind_ok] at h
        obtain ⟨-, -, hresult⟩ := h
        obtain ⟨-, rfl⟩ := ok_inj hresult
        exact Nat.lt_succ_self _
      · exact (ih h).trans (Nat.lt_succ_self _)

theorem readVarint_consumes {value : Nat} (h : readVarint input = .ok (value, rest)) :
    rest.length < input.length := readVarintRounds_consumes h

theorem readKey_consumes {key : Nat × Nat} (h : readKey input = .ok (key, rest)) :
    rest.length < input.length := by
  simp only [readKey, bind_ok] at h
  obtain ⟨⟨raw, later⟩, hread, field, -, -, -, hresult⟩ := h
  obtain ⟨-, rfl⟩ := ok_inj hresult
  exact readVarint_consumes hread

theorem readLengthDelimited_consumes {value : List UInt8}
    (h : readLengthDelimited input = .ok (value, rest)) : rest.length < input.length := by
  simp only [readLengthDelimited, bind_ok] at h
  obtain ⟨⟨raw, later⟩, hread, length, -, -, -, -, -, hresult⟩ := h
  obtain ⟨-, rfl⟩ := ok_inj hresult
  rw [List.length_drop]
  exact (Nat.sub_le _ _).trans_lt (readVarint_consumes hread)

theorem readCommandField_consumes {jsonRequest jsonRequest' : Option (List UInt8)}
    (h : readCommandField jsonRequest input = .ok (jsonRequest', rest)) :
    rest.length < input.length := by
  rw [readCommandField, bind_ok] at h
  obtain ⟨⟨key, later⟩, hkey, h⟩ := h
  dsimp only at h
  split at h
  · simp only [bind_ok] at h
    obtain ⟨-, -, ⟨value, after⟩, hvalue, -, -, hresult⟩ := h
    obtain ⟨-, rfl⟩ := ok_inj hresult
    exact (readLengthDelimited_consumes hvalue).trans (readKey_consumes hkey)
  · cases h
  · cases h

theorem readResponseField_consumes {fields fields' : ResponseFields}
    (h : readResponseField fields input = .ok (fields', rest)) : rest.length < input.length := by
  rw [readResponseField, bind_ok] at h
  obtain ⟨⟨key, later⟩, hkey, h⟩ := h
  dsimp only at h
  split at h
  · simp only [bind_ok] at h
    obtain ⟨-, -, ⟨raw, after⟩, hraw, -, -, hresult⟩ := h
    obtain ⟨-, rfl⟩ := ok_inj hresult
    exact (readVarint_consumes hraw).trans (readKey_consumes hkey)
  · cases h
  · simp only [bind_ok] at h
    obtain ⟨-, -, ⟨value, after⟩, hvalue, -, -, hresult⟩ := h
    obtain ⟨-, rfl⟩ := ok_inj hresult
    exact (readLengthDelimited_consumes hvalue).trans (readKey_consumes hkey)
  · cases h
  · cases h

end Consumes

def commandFields : Reader (Option (List UInt8)) UInt8 ProtobufError :=
  ⟨readCommandField, fun _ _ _ _ => readCommandField_consumes⟩

def decodeAuthorityCommand (input : List UInt8) :
    Except ProtobufError AuthorityCommandEnvelope := do
  let jsonRequest ← commandFields.run none input
  let jsonRequest ← fetch jsonRequest (.missingField 1)
  return ⟨jsonRequest⟩

def responseFields : Reader ResponseFields UInt8 ProtobufError :=
  ⟨readResponseField, fun _ _ _ _ => readResponseField_consumes⟩

def decodeAuthorityResponse (input : List UInt8) :
    Except ProtobufError AuthorityResponseEnvelope := do
  let (status, jsonBody) ← responseFields.run (none, none) input
  let status ← fetch status (.missingField 1)
  let jsonBody ← fetch jsonBody (.missingField 2)
  return ⟨status, jsonBody⟩

end RealtimeWire
