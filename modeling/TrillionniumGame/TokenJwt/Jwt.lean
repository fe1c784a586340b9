import TrillionniumGame.Foundation.FiniteMap
import TrillionniumGame.TokenJwt.Base64url

namespace TokenJwt
open Checks Entries FiniteMap
open GoText (ofRunes)

def epochKeyIdPrefix : List Char := "trnm-kep-v1:".toList
def signatureBytes : Nat := 32
def minimumKeyBytes : Nat := 16
def maximumKeyBytes : Nat := 4096

inductive TokenRoute where
  | legacy
  | epoch (epoch : UInt32)
  deriving DecidableEq

inductive JwtError where
  | invalidProfile
  | invalidKeyLength (minimum maximum actual : Nat)
  | invalidKeyEpoch | activeEpochUnavailable
  | tokenTooLarge (limit actual : Nat)
  | segmentCount | emptySegment
  | headerBase64 (error : Base64UrlError)
  | payloadBase64 (error : Base64UrlError)
  | signatureBase64 (error : Base64UrlError)
  | headerJson (error : JsonError)
  | payloadJson (error : JsonError)
  | headerEncode (error : JsonEncodeError)
  | payloadEncode (error : JsonEncodeError)
  | headerNotObject | payloadNotObject
  | unknownHeaderField (field : String)
  | criticalHeaderForbidden | algorithmMissing
  | unsupportedAlgorithm (value : String)
  | invalidTypeHeader | invalidKeyId
  | unknownKeyEpoch (epoch : UInt32)
  | legacyRouteForbidden | legacyKeyUnavailable
  | signatureLength (actual : Nat)
  | signatureMismatch | epochClaimMissing
  | epochClaimMismatch (header : UInt32) (payload : UInt64)
  | epochClaimOnLegacyRoute
  | missingClaim (claim : String)
  | invalidClaimType (claim : String)
  | emptyClaim (claim : String)
  | claimLengthExceeded (claim : String) (limit : Nat)
  | invalidNumericDate (claim : String)
  | expired (expiresAt now : Int64)
  | notYetValid (notBefore now : Int64)
  | issuedInFuture (issuedAt now : Int64)
  | invalidLifetime
  | lifetimeExceeded (limit actual : UInt64)
  | issuerMismatch | audienceMismatch | invalidAudience
  | variableCountExceeded (limit : Nat)
  | invalidVariableValue (key : String)

structure SecretKey where
  bytes : List UInt8
  length : minimumKeyBytes ≤ bytes.length ∧ bytes.length ≤ maximumKeyBytes

structure KeyRing where
  legacy : Option SecretKey
  epochKeys : Dict UInt32 SecretKey
  activeEpoch : Option UInt32
  positive : 0 ∉ epochKeys
  active : ∀ epoch ∈ activeEpoch, epoch ∈ epochKeys

namespace KeyRing

def new : KeyRing := ⟨none, ∅, none, Finmap.notMem_empty, nofun⟩

variable (ring : KeyRing)

def insertEpochKey (epoch : UInt32) (key : SecretKey) : Except JwtError KeyRing :=
  if hzero : epoch = 0 then .error .invalidKeyEpoch
  else .ok
    { ring with
      epochKeys := ring.epochKeys.insert epoch key
      positive := fun h => (Finmap.mem_insert.mp h).elim (fun heq => hzero heq.symm) ring.positive
      active := fun other h => Finmap.mem_insert.mpr (.inr (ring.active other h)) }

def keyForRoute : TokenRoute → Except JwtError SecretKey
  | .legacy => fetch ring.legacy .legacyKeyUnavailable
  | .epoch epoch => fetch (ring.epochKeys.lookup epoch) (.unknownKeyEpoch epoch)

end KeyRing

structure ClaimMapping where
  subject : String
  username : Option String
  vars : Option String
  tokenId : Option String
  keyEpoch : String

def ClaimMapping.standard : ClaimMapping :=
  ⟨"sub", some "preferred_username", some "vrs", some "jti", "trnm_kep"⟩

def ClaimMapping.names (claims : ClaimMapping) : List String :=
  [some claims.subject, claims.username, claims.vars, claims.tokenId,
    some claims.keyEpoch].reduceOption

structure VerificationProfile where
  maxTokenBytes : Nat
  maxHeaderBytes : Nat
  maxPayloadBytes : Nat
  jsonLimits : JsonLimits
  clockSkewSeconds : Int64
  maxLifetimeSeconds : Option UInt64
  requireExpiration : Bool
  requireIssuedAt : Bool
  requireUsername : Bool
  requiredIssuer : Option String
  requiredAudience : Option String
  allowLegacyWithoutKeyId : Bool
  rejectUnknownHeaderFields : Bool
  requireEpochClaim : Bool
  maxSubjectBytes : Nat
  maxUsernameBytes : Nat
  maxTokenIdBytes : Nat
  maxVariables : Nat
  maxVariableKeyBytes : Nat
  maxVariableValueBytes : Nat
  claims : ClaimMapping

namespace VerificationProfile

def default : VerificationProfile where
  maxTokenBytes := 32 * 1024
  maxHeaderBytes := 1024
  maxPayloadBytes := 16 * 1024
  jsonLimits := .default
  clockSkewSeconds := 30
  maxLifetimeSeconds := some (30 * 24 * 60 * 60)
  requireExpiration := true
  requireIssuedAt := true
  requireUsername := false
  requiredIssuer := none
  requiredAudience := none
  allowLegacyWithoutKeyId := true
  rejectUnknownHeaderFields := true
  requireEpochClaim := true
  maxSubjectBytes := 256
  maxUsernameBytes := 256
  maxTokenIdBytes := 256
  maxVariables := 64
  maxVariableKeyBytes := 128
  maxVariableValueBytes := 4096
  claims := .standard

def validate (profile : VerificationProfile) : Except JwtError Unit := do
  require (¬ (profile.maxTokenBytes = 0 ∨ profile.maxHeaderBytes = 0 ∨
    profile.maxPayloadBytes = 0 ∨ profile.maxSubjectBytes = 0 ∨ profile.maxUsernameBytes = 0 ∨
    profile.maxTokenIdBytes = 0 ∨ profile.maxVariableKeyBytes = 0 ∨
    profile.maxVariableValueBytes = 0 ∨ profile.clockSkewSeconds < 0)) .invalidProfile
  require ("" ∉ profile.claims.names ∧ profile.claims.names.Nodup) .invalidProfile

end VerificationProfile

structure VerifiedPrincipal where
  subject : String
  username : Option String
  vars : List (String × String)
  tokenId : Option String

structure ValidatedClaims where
  principal : VerifiedPrincipal
  issuedAt : Option Int64
  notBefore : Option Int64
  expiresAt : Option Int64
  issuer : Option String
  audiences : List String

structure VerifiedToken extends ValidatedClaims where
  route : TokenRoute
  claims : JsonValue

def toU64 (value : Int64) : Option UInt64 :=
  if 0 ≤ value.toInt then some (UInt64.ofNat value.toInt.toNat) else none

namespace JsonValue

def asObject : JsonValue → Option (List (String × JsonValue))
  | .object values => some values
  | _ => none

def asStr : JsonValue → Option String
  | .string value => some value
  | _ => none

def asU64 : JsonValue → Option UInt64
  | .unsigned value => some value
  | .integer value => toU64 value
  | _ => none

def asI64 : JsonValue → Option Int64
  | .integer value => some value
  | .unsigned value => if value.toNat < 2 ^ 63 then some (Int64.ofNat value.toNat) else none
  | _ => none

end JsonValue

def byteLength (value : String) : Nat := (ofRunes value.toList).length

abbrev Object := List (String × JsonValue)

variable (object : Object)

variable (name : String)

def requiredString (limit : Nat) : Except JwtError String := do
  let value ← fetch (object.lookup name) (.missingClaim name)
  let value ← fetch value.asStr (.invalidClaimType name)
  require (byteLength value ≤ limit) (.claimLengthExceeded name limit)
  return value

def optionalString : Except JwtError (Option String) :=
  match object.lookup name with
  | none => .ok none
  | some value => (fetch value.asStr (.invalidClaimType name)).map some

def boundedRequiredString (limit : Nat) :
    Except JwtError String := do
  let value ← requiredString object name limit
  require (value ≠ "") (.emptyClaim name)
  return value

def boundedOptionalString (limit : Nat) :
    Except JwtError (Option String) :=
  match object.lookup name with
  | none => .ok none
  | some value => do
    let value ← fetch value.asStr (.invalidClaimType name)
    require (value ≠ "") (.emptyClaim name)
    require (byteLength value ≤ limit) (.claimLengthExceeded name limit)
    return some value

section

variable (claims : Object)

def numericDate (name : String) (required : Bool) : Except JwtError (Option Int64) :=
  match claims.lookup name with
  | none => if required then .error (.missingClaim name) else .ok none
  | some value =>
    fetch ((value.asI64.filter fun value => 0 ≤ value.toInt).map some) (.invalidNumericDate name)

def audienceValues : JsonValue → Except JwtError (List String)
  | .string value => .ok [value]
  | .array values => fetch (values.mapM JsonValue.asStr) .invalidAudience
  | _ => .error .invalidAudience

def validateAudience : Option JsonValue → Except JwtError (List String)
  | none => .ok []
  | some value => do
    let values ← audienceValues value
    require ("" ∉ values) .invalidAudience
    require values.Nodup .invalidAudience
    return values

variable (profile : VerificationProfile)

def validateVariable (entry : String × JsonValue) :
    Except JwtError (String × String) := do
  require (entry.1 ≠ "" ∧ byteLength entry.1 ≤ profile.maxVariableKeyBytes)
    (.invalidVariableValue entry.1)
  let value ← fetch entry.2.asStr (.invalidVariableValue entry.1)
  require (byteLength value ≤ profile.maxVariableValueBytes) (.invalidVariableValue entry.1)
  return (entry.1, value)

def variablesOf (value : JsonValue) (name : String) (profile : VerificationProfile) :
    Except JwtError (List (String × String)) := do
  let object ← fetch value.asObject (.invalidClaimType name)
  require (object.length ≤ profile.maxVariables) (.variableCountExceeded profile.maxVariables)
  object.mapM (validateVariable profile)

def validateVariables : Except JwtError (List (String × String)) :=
  match profile.claims.vars with
  | none => .ok []
  | some name =>
    match claims.lookup name with
    | none => .ok []
    | some value => variablesOf value name profile

def epochClaimValue (value : JsonValue) (header : UInt32) (profile : VerificationProfile) :
    Except JwtError Unit := do
  let payload ← fetch value.asU64 (.invalidClaimType profile.claims.keyEpoch)
  require (payload = header.toUInt64) (.epochClaimMismatch header payload)

def validateEpochClaim (route : TokenRoute) (profile : VerificationProfile) :
    Except JwtError Unit :=
  match route, claims.lookup profile.claims.keyEpoch with
  | .legacy, none => .ok ()
  | .legacy, some _ => .error .epochClaimOnLegacyRoute
  | .epoch _, none => require (profile.requireEpochClaim = false) .epochClaimMissing
  | .epoch header, some value => epochClaimValue value header profile

def validateUsername : Except JwtError (Option String) :=
  match profile.claims.username with
  | some name =>
    if profile.requireUsername then
      (boundedRequiredString claims name profile.maxUsernameBytes).map some
    else boundedOptionalString claims name profile.maxUsernameBytes
  | none => if profile.requireUsername then .error .invalidProfile else .ok none

def validateTokenId : Except JwtError (Option String) :=
  match profile.claims.tokenId with
  | some name => boundedOptionalString claims name profile.maxTokenIdBytes
  | none => .ok none

def i128 (value : Int64) : BitVec 128 := value.toBitVec.signExtend 128

def whenSome {α : Type} (value : Option α) (check : α → Except JwtError Unit) :
    Except JwtError Unit := value.elim (.ok ()) check

def validateLifetime :
    Option Int64 → Option Int64 → Except JwtError Unit
  | some issuedAt, some expiresAt => whenSome profile.maxLifetimeSeconds fun limit => do
    require (issuedAt < expiresAt) .invalidLifetime
    let lifetime ← fetch (toU64 (expiresAt - issuedAt)) .invalidLifetime
    require (lifetime ≤ limit) (.lifetimeExceeded limit lifetime)
  | _, _ => .ok ()

def validateWindow (now : Int64)
    (expiresAt issuedAt notBefore : Option Int64) : Except JwtError Unit := do
  let skew := i128 profile.clockSkewSeconds
  whenSome expiresAt fun expiresAt =>
    require ((i128 now).slt (i128 expiresAt + skew) = true) (.expired expiresAt now)
  whenSome notBefore fun notBefore =>
    require ((i128 now + skew).slt (i128 notBefore) = false) (.notYetValid notBefore now)
  whenSome issuedAt fun issuedAt =>
    require ((i128 now + skew).slt (i128 issuedAt) = false) (.issuedInFuture issuedAt now)
  validateLifetime profile issuedAt expiresAt

def validateClaims (route : TokenRoute) (profile : VerificationProfile) (now : Int64) :
    Except JwtError ValidatedClaims := do
  validateEpochClaim claims route profile
  let subject ← boundedRequiredString claims profile.claims.subject profile.maxSubjectBytes
  let username ← validateUsername claims profile
  let tokenId ← validateTokenId claims profile
  let vars ← validateVariables claims profile
  let expiresAt ← numericDate claims "exp" profile.requireExpiration
  let issuedAt ← numericDate claims "iat" profile.requireIssuedAt
  let notBefore ← numericDate claims "nbf" false
  validateWindow profile now expiresAt issuedAt notBefore
  let issuer ← optionalString claims "iss"
  whenSome profile.requiredIssuer fun required =>
    require (issuer = some required) .issuerMismatch
  let audiences ← validateAudience (claims.lookup "aud")
  whenSome profile.requiredAudience fun required =>
    require (required ∈ audiences) .audienceMismatch
  return ⟨⟨subject, username, vars, tokenId⟩, issuedAt, notBefore, expiresAt, issuer,
    audiences⟩

end

variable (header : Object)

def rejectUnknownFields (profile : VerificationProfile) :
    Except JwtError Unit :=
  if profile.rejectUnknownHeaderFields then
    header.forM fun entry =>
      require (entry.1 ∈ ["alg", "typ", "kid"]) (.unknownHeaderField entry.1)
  else .ok ()

def validateHeaderFields (profile : VerificationProfile) :
    Except JwtError Unit := do
  require ("crit" ∉ header.map Prod.fst ∧ "b64" ∉ header.map Prod.fst) .criticalHeaderForbidden
  rejectUnknownFields header profile
  require ("alg" ∈ header.map Prod.fst) .algorithmMissing

def parseEpoch (rawEpoch : List Char) : Option UInt32 :=
  if rawEpoch = [] ∨ (1 < rawEpoch.length ∧ rawEpoch.head? = some '0') ∨
    rawEpoch.all Char.isDigit = false then none
  else
    let epoch := Nat.ofDigitChars 10 rawEpoch 0
    if epoch < 2 ^ 32 ∧ epoch ≠ 0 then some (UInt32.ofNat epoch) else none

def keyIdEpoch (keyId : String) : Option UInt32 :=
  if epochKeyIdPrefix <+: keyId.toList then
    parseEpoch (keyId.toList.drop epochKeyIdPrefix.length)
  else none

def parseRoute (profile : VerificationProfile) : Except JwtError TokenRoute :=
  match header.lookup "kid" with
  | none => if profile.allowLegacyWithoutKeyId then .ok .legacy else .error .legacyRouteForbidden
  | some (.string keyId) => (fetch (keyIdEpoch keyId) .invalidKeyId).map .epoch
  | some _ => .error .invalidKeyId

def readHeader (headerBytes : List UInt8) (profile : VerificationProfile) :
    Except JwtError TokenRoute := do
  let header ← (parse headerBytes profile.jsonLimits).mapError .headerJson
  let headerObject ← fetch header.asObject .headerNotObject
  validateHeaderFields headerObject profile
  let algorithm ← requiredString headerObject "alg" profile.maxHeaderBytes
  require (algorithm = "HS256") (.unsupportedAlgorithm algorithm)
  whenSome (headerObject.lookup "typ") fun value =>
    require (value.asStr = some "JWT") .invalidTypeHeader
  parseRoute headerObject profile

def segments (token : List UInt8) : Option (List UInt8 × List UInt8 × List UInt8) :=
  match token.splitOn (ascii '.') with
  | [header, payload, signature] => some (header, payload, signature)
  | _ => none

abbrev HmacSha256 := List UInt8 → List UInt8 → Vector UInt8 32

section
variable (hmac : HmacSha256)

def hmacSha256 (key : List UInt8) (chunks : List (List UInt8)) : Vector UInt8 32 :=
  hmac key chunks.flatten

def verifySigned (token : List UInt8) (keys : KeyRing) (profile : VerificationProfile) :
    Except JwtError (TokenRoute × List UInt8) := do
  require (token.length ≤ profile.maxTokenBytes)
    (.tokenTooLarge profile.maxTokenBytes token.length)
  let (headerSegment, payloadSegment, signatureSegment) ← fetch (segments token) .segmentCount
  require (headerSegment ≠ [] ∧ payloadSegment ≠ [] ∧ signatureSegment ≠ []) .emptySegment
  let headerBytes ←
    (Base64url.decode headerSegment profile.maxHeaderBytes).mapError .headerBase64
  let route ← readHeader headerBytes profile
  let key ← keys.keyForRoute route
  let signature ← (Base64url.decode signatureSegment signatureBytes).mapError .signatureBase64
  require (signature.length = signatureBytes) (.signatureLength signature.length)
  let expected := hmacSha256 hmac key.bytes [headerSegment, [ascii '.'], payloadSegment]
  require (signature = expected.toList) .signatureMismatch
  let payloadBytes ←
    (Base64url.decode payloadSegment profile.maxPayloadBytes).mapError .payloadBase64
  return (route, payloadBytes)

def verify (token : List UInt8) (keys : KeyRing) (profile : VerificationProfile) (now : Int64) :
    Except JwtError VerifiedToken := do
  profile.validate
  let (route, payloadBytes) ← verifySigned hmac token keys profile
  let claims ← (parse payloadBytes profile.jsonLimits).mapError .payloadJson
  let claimsObject ← fetch claims.asObject .payloadNotObject
  let validated ← validateClaims claimsObject route profile now
  return ⟨validated, route, claims⟩

def headerOf (route : TokenRoute) : Object :=
  let header := [("alg", .string "HS256"), ("typ", .string "JWT")]
  match route with
  | .legacy => header
  | .epoch epoch =>
    (insertEntry "kid"
      (.string (String.ofList (epochKeyIdPrefix ++ Nat.toDigits 10 epoch.toNat))) header).1

def assemble (hmac : HmacSha256) (key headerBytes payloadBytes : List UInt8) : List UInt8 :=
  let headerSegment := Base64url.encode headerBytes
  let payloadSegment := Base64url.encode payloadBytes
  let signature := hmacSha256 hmac key [headerSegment, [ascii '.'], payloadSegment]
  headerSegment ++ ascii '.' :: (payloadSegment ++ ascii '.' :: Base64url.encode signature.toList)

def issueWithRoute (claims : JsonValue) (route : TokenRoute) (key : SecretKey)
    (profile : VerificationProfile) : Except JwtError (List UInt8) := do
  let headerBytes ←
    (toCanonicalBytes (.object (headerOf route)) profile.maxHeaderBytes).mapError .headerEncode
  let payloadBytes ← (toCanonicalBytes claims profile.maxPayloadBytes).mapError .payloadEncode
  let token := assemble hmac key.bytes headerBytes payloadBytes
  require (token.length ≤ profile.maxTokenBytes)
    (.tokenTooLarge profile.maxTokenBytes token.length)
  return token

def issueLegacy (claims : JsonValue) (key : SecretKey) (profile : VerificationProfile) :
    Except JwtError (List UInt8) := do
  profile.validate
  let object ← fetch claims.asObject .payloadNotObject
  require (profile.claims.keyEpoch ∉ object.map Prod.fst) .epochClaimOnLegacyRoute
  issueWithRoute hmac claims .legacy key profile

def claimsForEpoch (object : Object) (epoch : UInt32) (profile : VerificationProfile) :
    Except JwtError Object :=
  match object.lookup profile.claims.keyEpoch with
  | some existing => do
    epochClaimValue existing epoch profile
    return object
  | none => .ok (insertEntry profile.claims.keyEpoch (.unsigned epoch.toUInt64) object).1

def issueEpoch (claims : JsonValue) (epoch : UInt32) (key : SecretKey)
    (profile : VerificationProfile) : Except JwtError (List UInt8) := do
  profile.validate
  require (epoch ≠ 0) .invalidKeyEpoch
  let object ← fetch claims.asObject .payloadNotObject
  let object ← claimsForEpoch object epoch profile
  issueWithRoute hmac (.object object) (.epoch epoch) key profile

end

end TokenJwt
