import TrillionniumGame.Token.SignerJournal
import TrillionniumGame.TokenJwt.Jwt

namespace JwtProvider
open Checks FiniteMap TokenJwt
open Token (KeyDomain)

def maxSigningInputBytes : Nat := 32 * 1024
def minimumMaterialBytes : Nat := 32
def maximumMaterialBytes : Nat := 4096

inductive ProviderError where
  | invalidKeyHandle | invalidKeyEpoch | invalidKeyMaterial | signingInputEmpty
  | signingInputTooLarge (actual : Nat)
  | keyUnavailable | permissionDenied | rateLimited | deadlineExceeded | cancelled | internal

def handleChar (c : Char) : Bool := c.isAlphanum || c ∈ ['.', '_', ':', '-', '/']

def ValidHandle (value : String) : Prop :=
  value ≠ "" ∧ byteLength value ≤ 256 ∧ value.toList.all handleChar = true

instance (value : String) : Decidable (ValidHandle value) := inferInstanceAs (Decidable (_ ∧ _))

structure KeyHandle where
  value : String
  valid : ValidHandle value

structure KeyReference where
  domain : KeyDomain
  handle : KeyHandle
  epoch : Option UInt32

inductive VerificationDecision where
  | accepted | rejected
  deriving DecidableEq

structure Hs256Provider where
  sign : KeyReference → List UInt8 → Except ProviderError (Vector UInt8 32)
  verify : KeyReference → List UInt8 → Vector UInt8 32 → Except ProviderError VerificationDecision

def validateSigningInput (value : List UInt8) : Except ProviderError Unit := do
  require (value ≠ []) .signingInputEmpty
  require (value.length ≤ maxSigningInputBytes) (.signingInputTooLarge value.length)

def toTag (bytes : List UInt8) : Option (Vector UInt8 32) :=
  if h : bytes.length = 32 then some ⟨bytes.toArray, h⟩ else none

def verifyExact (provider : Hs256Provider) (key : KeyReference)
    (exactSigningInput signature : List UInt8) : Except ProviderError VerificationDecision := do
  validateSigningInput exactSigningInput
  let signature ← fetch (toTag signature) .internal
  provider.verify key exactSigningInput signature

structure SecretKeyMaterial where
  bytes : List UInt8
  length : minimumMaterialBytes ≤ bytes.length ∧ bytes.length ≤ maximumMaterialBytes

structure SoftwareKeyId where
  domain : KeyDomain
  handle : String
  epoch : Option UInt32
  deriving DecidableEq

def SoftwareKeyId.ofReference (value : KeyReference) : SoftwareKeyId :=
  ⟨value.domain, value.handle.value, value.epoch⟩

structure SoftwareHs256Provider where
  keys : Dict SoftwareKeyId SecretKeyMaterial

namespace SoftwareHs256Provider

variable (hmac : HmacSha256)

def tag (software : SoftwareHs256Provider) (key : KeyReference) (exactSigningInput : List UInt8) :
    Except ProviderError (Vector UInt8 32) := do
  validateSigningInput exactSigningInput
  let material ← fetch (software.keys.lookup (.ofReference key)) .keyUnavailable
  return hmac material.bytes exactSigningInput

def provider (software : SoftwareHs256Provider) : Hs256Provider where
  sign := software.tag hmac
  verify := fun key exactSigningInput signature => do
    let expected ← software.tag hmac key exactSigningInput
    return if expected = signature then .accepted else .rejected

end SoftwareHs256Provider

structure AuthenticationProfile where
  domain : KeyDomain
  maxTokenBytes : Nat
  maxHeaderBytes : Nat
  maxPayloadBytes : Nat
  allowLegacyWithoutKeyId : Bool
  rejectUnknownHeaderFields : Bool
  jsonLimits : JsonLimits

inductive AuthenticationError where
  | invalidProfile
  | tokenTooLarge (actual : Nat)
  | segmentCount | emptySegment | headerDecode | headerJson | headerNotObject | algorithmMissing
  | unsupportedAlgorithm | invalidType | unknownHeaderField | legacyRouteForbidden | invalidKeyId
  | unknownKey | signatureDecode
  | signatureLength (actual : Nat)
  | provider (error : ProviderError)
  | signatureRejected | payloadDecode | payloadJson

abbrev KeyResolver := KeyDomain → TokenRoute → Except AuthenticationError KeyReference

namespace AuthenticationProfile

def default : AuthenticationProfile where
  domain := .accessToken
  maxTokenBytes := 32 * 1024
  maxHeaderBytes := 1024
  maxPayloadBytes := 16 * 1024
  allowLegacyWithoutKeyId := true
  rejectUnknownHeaderFields := true
  jsonLimits := .default

def validate (profile : AuthenticationProfile) : Except AuthenticationError Unit :=
  require (¬ (profile.maxTokenBytes = 0 ∨ profile.maxHeaderBytes = 0 ∨
    profile.maxPayloadBytes = 0 ∨ profile.maxTokenBytes ≤ profile.maxHeaderBytes ∨
    profile.maxTokenBytes ≤ profile.maxPayloadBytes)) .invalidProfile

end AuthenticationProfile

structure AuthenticatedJwt where
  route : TokenRoute
  key : KeyReference
  payloadBytes : List UInt8

variable (header : Object)

variable (profile : AuthenticationProfile)

def rejectUnknown :
    Except AuthenticationError Unit :=
  if profile.rejectUnknownHeaderFields then
    header.forM fun entry => require (entry.1 ∈ ["alg", "typ", "kid"]) .unknownHeaderField
  else .ok ()

def validateType : Except AuthenticationError Unit :=
  match header.lookup "typ" with
  | none => .ok ()
  | some value => require (value.asStr = some "JWT") .invalidType

def validateHeader :
    Except AuthenticationError Unit := do
  rejectUnknown header profile
  let algorithm ← fetch ((header.lookup "alg").bind JsonValue.asStr) .algorithmMissing
  require (algorithm = "HS256") .unsupportedAlgorithm
  validateType header

def route :
    Except AuthenticationError TokenRoute :=
  match header.lookup "kid" with
  | none => if profile.allowLegacyWithoutKeyId then .ok .legacy else .error .legacyRouteForbidden
  | some (.string value) => (fetch (keyIdEpoch value) .invalidKeyId).map .epoch
  | some _ => .error .invalidKeyId

def headerRoute (headerBytes : List UInt8) (profile : AuthenticationProfile) :
    Except AuthenticationError TokenRoute := do
  let header ← (parse headerBytes profile.jsonLimits).mapError fun _ => .headerJson
  let header ← fetch header.asObject .headerNotObject
  validateHeader header profile
  route header profile

def authenticate (token : List UInt8) (profile : AuthenticationProfile) (resolver : KeyResolver)
    (provider : Hs256Provider) : Except AuthenticationError AuthenticatedJwt := do
  profile.validate
  require (token.length ≤ profile.maxTokenBytes) (.tokenTooLarge token.length)
  let (headerSegment, payloadSegment, signatureSegment) ← fetch (segments token) .segmentCount
  require (headerSegment ≠ [] ∧ payloadSegment ≠ [] ∧ signatureSegment ≠ []) .emptySegment
  let headerBytes ← (Base64url.decode headerSegment profile.maxHeaderBytes).mapError
    fun _ => .headerDecode
  let route ← headerRoute headerBytes profile
  let key ← resolver profile.domain route
  let signature ← (Base64url.decode signatureSegment signatureBytes).mapError
    fun _ => .signatureDecode
  require (signature.length = signatureBytes) (.signatureLength signature.length)
  let signingInput := headerSegment ++ ascii '.' :: payloadSegment
  let decision ← (verifyExact provider key signingInput signature).mapError .provider
  require (decision = .accepted) .signatureRejected
  let payloadBytes ← (Base64url.decode payloadSegment profile.maxPayloadBytes).mapError
    fun _ => .payloadDecode
  return ⟨route, key, payloadBytes⟩

end JwtProvider
