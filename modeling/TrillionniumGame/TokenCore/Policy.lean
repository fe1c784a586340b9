import Mathlib.Data.Prod.Lex
import TrillionniumGame.Foundation.Paging
import TrillionniumGame.Session.RefreshFamily

namespace TokenCore
open Checks FiniteMap Persistence Session

def maxKeys : Nat := 32

structure TokenId where
  bytes : Bytes 16

def TokenId.isZero (id : TokenId) : Bool := zeroBytes id.bytes

inductive TokenKind where
  | access | refresh

inductive KeyRole where
  | access | refresh
  deriving DecidableEq

def KeyRole.ofKind : TokenKind → KeyRole
  | .access => .access
  | .refresh => .refresh

inductive TokenProfile where
  | nakamaV340Legacy | trillionniumFamilyV1

inductive Algorithm where
  | hs256

inductive KeyStatus where
  | active | verifyOnly | retired
  deriving DecidableEq

structure KeyDescriptor where
  role : KeyRole
  epoch : UInt64
  status : KeyStatus
  notBefore : Int
  notAfter : Int
  materialDigest : Digest32
  deriving DecidableEq

structure KeyIndex where
  role : KeyRole
  epoch : UInt64

def KeyRole.rank : KeyRole → Nat
  | .access => 0
  | .refresh => 1

def KeyIndex.order (index : KeyIndex) : Nat ×ₗ Nat := toLex (index.role.rank, index.epoch.toNat)

instance : LinearOrder KeyIndex := LinearOrder.lift' KeyIndex.order <| by
  rintro ⟨role, epoch⟩ ⟨role', epoch'⟩ h
  simp only [KeyIndex.order, EmbeddingLike.apply_eq_iff_eq, Prod.mk.injEq] at h
  obtain rfl : epoch = epoch' := UInt64.toNat_inj.mp h.2
  cases role <;> cases role' <;> first | rfl | exact absurd h.1 (by decide)

variable (key : KeyDescriptor)

def KeyDescriptor.index : KeyIndex := ⟨key.role, key.epoch⟩

def KeyDescriptor.Valid : Prop :=
  key.epoch ≠ 0 ∧ key.notBefore < key.notAfter ∧ key.materialDigest.isZero = false

instance (key : KeyDescriptor) : Decidable key.Valid := by
  unfold KeyDescriptor.Valid
  infer_instance

def invalid (reason : String) : DomainError := ⟨.invalidArgument, reason, .never⟩
def unauthenticated (reason : String) : DomainError := ⟨.unauthenticated, reason, .never⟩

structure KeyRing where
  keys : Dict KeyIndex KeyDescriptor
  filed : ∀ index key, keys.lookup index = some key → index = key.index ∧ key.Valid
  bounded : keys.keys.card ≤ maxKeys

def keyValid (now : Int) : Bool := key.notBefore ≤ now && now < key.notAfter

def uniqueKey (keys : List KeyDescriptor) (noneReason multipleReason : String) :
    Except DomainError KeyDescriptor :=
  match keys with
  | [] => .error (unauthenticated noneReason)
  | [key] => .ok key
  | _ => .error ⟨.failedPrecondition, multipleReason, .never⟩

namespace KeyRing

def default : KeyRing := ⟨∅, fun _ _ h => by simp at h, Nat.zero_le _⟩

variable (ring : KeyRing)

def insert (key : KeyDescriptor) : Except DomainError Unit × KeyRing :=
  if hroom : maxKeys ≤ ring.keys.keys.card then
    (.error ⟨.resourceExhausted, "token_key_limit_exceeded", .never⟩, ring)
  else if hvalid : key.Valid then
    let next : KeyRing := {
      keys := ring.keys.insert key.index key
      filed := by
        intro index found h
        rw [lookup_insert_ite] at h
        split at h
        · next heq =>
          cases h
          exact ⟨heq, hvalid⟩
        · exact ring.filed index found h
      bounded := by
        rw [keys_insert]
        exact (Finset.card_insert_le _ _).trans (by omega) }
    (if key.index ∈ ring.keys then .error ⟨.alreadyExists, "token_key_epoch_exists", .never⟩
      else .ok (), next)
  else (.error (invalid "invalid_token_key"), ring)

def get (role : KeyRole) (epoch : UInt64) : Option KeyDescriptor :=
  ring.keys.lookup ⟨role, epoch⟩

def values : List KeyDescriptor := (items ring.keys).map Prod.snd

def issueKey (role : KeyRole) (now : Int) : Except DomainError KeyDescriptor :=
  uniqueKey (ring.values.filter fun key => key.role = role && key.status = .active && keyValid key now)
    "token_issue_key_unavailable" "ambiguous_active_token_key"

def usable (status : KeyStatus) : Bool := status = .active || status = .verifyOnly

def verifyKey (role : KeyRole) (profile : TokenProfile)
    (declaredEpoch : Option UInt64) (now : Int) : Except DomainError KeyDescriptor :=
  match profile, declaredEpoch with
  | .nakamaV340Legacy, none =>
    uniqueKey (ring.values.filter fun key => key.role = role && usable key.status && keyValid key now)
      "token_verify_key_unavailable" "ambiguous_legacy_key_epoch"
  | .nakamaV340Legacy, some _ => .error (invalid "legacy_token_must_not_declare_key_epoch")
  | .trillionniumFamilyV1, none => .error (invalid "token_key_epoch_required")
  | .trillionniumFamilyV1, some epoch => do
    let key ← fetch (ring.get role epoch) (unauthenticated "token_key_not_found")
    require (usable key.status = true ∧ keyValid key now = true)
      (unauthenticated "token_key_unavailable")
    return key

end KeyRing

structure TokenPolicy where
  accessLifetimeMaxSec : Int
  refreshLifetimeMaxSec : Int
  clockSkewSec : Int
  maxUsernameBytes : Nat
  maxVars : Nat
  maxVarKeyBytes : Nat
  maxVarValueBytes : Nat

namespace TokenPolicy

def default : TokenPolicy := ⟨24 * 60 * 60, 90 * 24 * 60 * 60, 30, 128, 64, 128, 1024⟩

def validate (policy : TokenPolicy) : Except DomainError Unit :=
  require (0 < policy.accessLifetimeMaxSec ∧
    policy.accessLifetimeMaxSec ≤ policy.refreshLifetimeMaxSec ∧ 0 ≤ policy.clockSkewSec ∧
    policy.maxUsernameBytes ≠ 0 ∧ policy.maxVars ≠ 0 ∧ policy.maxVarKeyBytes ≠ 0 ∧
    policy.maxVarValueBytes ≠ 0) (invalid "invalid_token_policy")

def lifetime (policy : TokenPolicy) : TokenKind → Int
  | .access => policy.accessLifetimeMaxSec
  | .refresh => policy.refreshLifetimeMaxSec

end TokenPolicy

structure TokenClaims where
  tokenId : TokenId
  userId : UserId
  username : String
  vars : Dict String String
  issuedAt : Int
  expiresAt : Int
  familyId : Option SessionFamilyId
  familyGeneration : Option SessionGeneration
  keyEpoch : Option UInt64

structure SigningPlan where
  algorithm : Algorithm
  role : KeyRole
  selectedKeyEpoch : UInt64
  emittedKeyEpoch : Option UInt64
  keyMaterialDigest : Digest32
  claims : TokenClaims

structure VerificationPlan where
  algorithm : Algorithm
  kind : TokenKind
  profile : TokenProfile
  selectedKeyEpoch : UInt64
  keyMaterialDigest : Digest32

structure VerifiedToken where
  kind : TokenKind
  profile : TokenProfile
  selectedKeyEpoch : UInt64
  claims : TokenClaims

inductive ValidationMode where
  | issue | verify

def invalidOrUnauthenticated : ValidationMode → String → DomainError
  | .issue, reason => invalid reason
  | .verify, reason => unauthenticated reason

def checkedI64 (value : Int) : Option Int :=
  if -2 ^ 63 ≤ value ∧ value < 2 ^ 63 then some value else none

variable (claims : TokenClaims)

def validateShape (policy : TokenPolicy) (mode : ValidationMode) : Except DomainError Unit := do
  require (claims.tokenId.isZero = false ∧ claims.userId.isZero = false)
    (invalidOrUnauthenticated mode "invalid_token_identity")
  require (claims.username ≠ "" ∧ claims.username.utf8ByteSize ≤ policy.maxUsernameBytes)
    (invalidOrUnauthenticated mode "invalid_token_username")
  require (claims.vars.keys.card ≤ policy.maxVars)
    (invalidOrUnauthenticated mode "token_vars_limit_exceeded")
  require (∀ key ∈ claims.vars.keys, ∀ value ∈ claims.vars.lookup key, key ≠ "" ∧
    key.utf8ByteSize ≤ policy.maxVarKeyBytes ∧ value.utf8ByteSize ≤ policy.maxVarValueBytes)
    (invalidOrUnauthenticated mode "invalid_token_vars")

variable (kind : TokenKind)

def validateLifetime (policy : TokenPolicy) (mode : ValidationMode) :
    Except DomainError Unit := do
  require (claims.issuedAt < claims.expiresAt)
    (invalidOrUnauthenticated mode "invalid_token_lifetime")
  let lifetime ← fetch (checkedI64 (claims.expiresAt - claims.issuedAt))
    (invalidOrUnauthenticated mode "invalid_token_lifetime")
  require (lifetime ≤ policy.lifetime kind) (invalidOrUnauthenticated mode "token_lifetime_exceeded")

def validateTime (now : Int) (policy : TokenPolicy) (mode : ValidationMode) :
    Except DomainError Unit := do
  let latestIssuedAt ← fetch (checkedI64 (now + policy.clockSkewSec))
    (invalidOrUnauthenticated mode "token_time_overflow")
  require (claims.issuedAt ≤ latestIssuedAt) (invalidOrUnauthenticated mode "token_issued_in_future")
  match mode with
  | .issue => do
    let earliestIssuedAt ← fetch (checkedI64 (now - policy.clockSkewSec))
      (invalid "token_time_overflow")
    require (earliestIssuedAt ≤ claims.issuedAt) (invalid "token_issue_time_outside_window")
  | .verify => do
    let latestValid ← fetch (checkedI64 (claims.expiresAt + policy.clockSkewSec))
      (unauthenticated "token_time_overflow")
    require (now < latestValid) (unauthenticated "token_expired")

variable (profile : TokenProfile)

def validateProfile (mode : ValidationMode) : Except DomainError Unit :=
  match profile with
  | .nakamaV340Legacy =>
    require (claims.familyId = none ∧ claims.familyGeneration = none ∧ claims.keyEpoch = none)
      (invalidOrUnauthenticated mode "legacy_token_extension_claim_present")
  | .trillionniumFamilyV1 => do
    let family ← fetch claims.familyId (invalidOrUnauthenticated mode "token_family_claim_required")
    require (family.isZero = false ∧ claims.familyGeneration ≠ none ∧ claims.keyEpoch.getD 0 ≠ 0)
      (invalidOrUnauthenticated mode "invalid_token_family_claims")

def validateClaims (now : Int) (policy : TokenPolicy)
    (mode : ValidationMode) : Except DomainError Unit := do
  validateShape claims policy mode
  validateLifetime claims kind policy mode
  validateTime claims now policy mode
  validateProfile claims profile mode

def prepareIssue (claims : TokenClaims) (now : Int)
    (policy : TokenPolicy) (keys : KeyRing) : Except DomainError SigningPlan := do
  policy.validate
  validateClaims claims kind profile now policy .issue
  let role := KeyRole.ofKind kind
  let key ← keys.issueKey role now
  match profile with
  | .nakamaV340Legacy =>
    require (claims.keyEpoch = none) (invalid "legacy_token_must_not_declare_key_epoch")
  | .trillionniumFamilyV1 =>
    require (claims.keyEpoch = some key.epoch) (invalid "token_claim_key_epoch_mismatch")
  return {
    algorithm := .hs256
    role := role
    selectedKeyEpoch := key.epoch
    emittedKeyEpoch := match profile with
      | .nakamaV340Legacy => none
      | .trillionniumFamilyV1 => some key.epoch
    keyMaterialDigest := key.materialDigest
    claims := claims }

def prepareVerification
    (declaredKeyEpoch : Option UInt64) (now : Int) (keys : KeyRing) :
    Except DomainError VerificationPlan := do
  let key ← keys.verifyKey (KeyRole.ofKind kind) profile declaredKeyEpoch now
  return {
    algorithm := .hs256
    kind := kind
    profile := profile
    selectedKeyEpoch := key.epoch
    keyMaterialDigest := key.materialDigest }

def acceptVerifiedClaims (plan : VerificationPlan) (claims : TokenClaims) (now : Int)
    (policy : TokenPolicy) : Except DomainError VerifiedToken := do
  policy.validate
  validateClaims claims plan.kind plan.profile now policy .verify
  match plan.profile with
  | .nakamaV340Legacy =>
    require (claims.keyEpoch = none) (unauthenticated "legacy_token_key_epoch_present")
  | .trillionniumFamilyV1 =>
    require (claims.keyEpoch = some plan.selectedKeyEpoch)
      (unauthenticated "token_claim_key_epoch_mismatch")
  return {
    kind := plan.kind
    profile := plan.profile
    selectedKeyEpoch := plan.selectedKeyEpoch
    claims := claims }

end TokenCore
