import TrillionniumGame.Foundation.Tables
import TrillionniumGame.Session.RefreshFamily

namespace PersistencePg
open Checks Persistence Runs Session Tables

abbrev Bytea := List UInt8

def asBytes {n : Nat} (bytes : Bytes n) : Bytea := bytes.toList

def invalid (reason : String) : DomainError := ⟨.invalidArgument, reason, .never⟩

def dataLoss (reason : String) : DomainError := ⟨.dataLoss, reason, .never⟩

def counterOverflow : DomainError := ⟨.outOfRange, "counter_overflow", .never⟩

def unauthenticated : DomainError := ⟨.unauthenticated, "session_not_active", .never⟩

def transportFailure : DomainError := ⟨.unavailable, "database_transport_failure", .safeBackoff⟩

def classifyViolation : Violation → DomainError
  | .check => ⟨.invalidArgument, "database_constraint_violation", .never⟩
  | .unique => ⟨.alreadyExists, "database_unique_violation", .never⟩
  | .foreignKey => ⟨.failedPrecondition, "database_foreign_key_violation", .never⟩

def toI64 (value : Nat) : Except DomainError Int :=
  if value < 2 ^ 63 then .ok value else .error counterOverflow

def fromI64 (value : Int) (reason : String) : Except DomainError Nat :=
  if 0 ≤ value then .ok value.toNat else .error (dataLoss reason)

def decodeBytes (n : Nat) (reason : String) (bytes : Bytea) : Except DomainError (Bytes n) :=
  if h : bytes.length = n then .ok ⟨bytes.toArray, h⟩ else .error (dataLoss reason)

def transpose {α β : Type} (decode : α → Except DomainError β) :
    Option α → Except DomainError (Option β)
  | none => .ok none
  | some value => (decode value).map some

structure FamilyRow where
  familyId : Bytea
  userId : Bytea
  generation : Int
  activeTokenId : Option Bytea
  revokedReason : Option Int
  createdAtMs : Int
  updatedAtMs : Int
  deriving DecidableEq

structure TokenRow where
  familyId : Bytea
  tokenId : Bytea
  tokenDigest : Bytea
  generation : Int
  state : Int
  issuedAtMs : Int
  consumedAtMs : Option Int
  deriving DecidableEq

def trnmSessionFamilies : Schema FamilyRow where
  check row := decide (row.familyId.length = 16 ∧ row.userId.length = 16 ∧ 0 ≤ row.generation ∧
    (∀ token ∈ row.activeTokenId, token.length = 16) ∧
    (∀ reason ∈ row.revokedReason, 0 ≤ reason ∧ reason ≤ 3) ∧
    0 ≤ row.createdAtMs ∧ row.createdAtMs ≤ row.updatedAtMs ∧
    (row.revokedReason.isNone ∧ row.activeTokenId.isSome ∨
      row.revokedReason.isSome ∧ row.activeTokenId.isNone))
  clash row held := decide (held.familyId = row.familyId)

def trnmRefreshTokens : Schema TokenRow where
  check row := decide (row.familyId.length = 16 ∧ row.tokenId.length = 16 ∧
    row.tokenDigest.length = 32 ∧ 0 ≤ row.generation ∧ (0 ≤ row.state ∧ row.state ≤ 1) ∧
    0 ≤ row.issuedAtMs ∧
    (row.state = 0 ∧ row.consumedAtMs = none ∨
      row.state = 1 ∧ ∃ consumed ∈ row.consumedAtMs, row.issuedAtMs ≤ consumed))
  clash row held := decide (held.tokenDigest = row.tokenDigest ∨
    held.familyId = row.familyId ∧ held.tokenId = row.tokenId)

structure SessionTables where
  families : List FamilyRow
  tokens : List TokenRow
  deriving DecidableEq

def query {R : Type} (table : List R) (p : R → Bool) : Except DomainError (Option R) :=
  (queryOpt table p).mapError fun _ => transportFailure

namespace SessionTables

def insertFamily (row : FamilyRow) (db : SessionTables) : Except DomainError SessionTables := do
  let families ← (insert trnmSessionFamilies row db.families).mapError classifyViolation
  return { db with families }

def insertToken (row : TokenRow) (db : SessionTables) : Except DomainError SessionTables := do
  let tokens ← (insert trnmRefreshTokens row db.tokens).mapError classifyViolation
  require (∃ family ∈ db.families, family.familyId = row.familyId) (classifyViolation .foreignKey)
  return { db with tokens }

def updateFamilies (p : FamilyRow → Bool) (f : FamilyRow → FamilyRow) (db : SessionTables) :
    Except DomainError (SessionTables × Nat) := do
  let (families, count) ← (update trnmSessionFamilies p f db.families).mapError classifyViolation
  return ({ db with families }, count)

def updateTokens (p : TokenRow → Bool) (f : TokenRow → TokenRow) (db : SessionTables) :
    Except DomainError (SessionTables × Nat) := do
  let (tokens, count) ← (update trnmRefreshTokens p f db.tokens).mapError classifyViolation
  return ({ db with tokens }, count)

end SessionTables

structure RefreshTokenCredential where
  id : RefreshTokenId
  digest : Digest32
  deriving DecidableEq

structure CreateSessionFamily where
  family : SessionFamilyId
  user : UserId
  refresh : RefreshTokenCredential
  issuedAtMs : Nat

structure RotateRefreshToken where
  presented : RefreshTokenCredential
  replacement : RefreshTokenCredential
  rotatedAtMs : Nat

structure SessionFamilyRecord where
  family : SessionFamilyId
  user : UserId
  generation : Nat
  activeToken : Option RefreshTokenId
  revokedReason : Option RevocationReason
  createdAtMs : Nat
  updatedAtMs : Nat

inductive RefreshRotationOutcome where
  | rotated (record : SessionFamilyRecord)
  | replayRevoked (record : SessionFamilyRecord)

structure RefreshTokenSnapshot where
  generation : Nat
  state : Int
  issuedAtMs : Nat
  consumedAtMs : Option Nat

def tokenStateActive : Int := 0
def tokenStateConsumed : Int := 1

def revocationReasonCode : RevocationReason → Int
  | .logout => 0
  | .credentialReset => 1
  | .refreshReplay => 2
  | .administrator => 3

def decodeRevocationReason (value : Int) : Except DomainError RevocationReason :=
  if value = 0 then .ok .logout
  else if value = 1 then .ok .credentialReset
  else if value = 2 then .ok .refreshReplay
  else if value = 3 then .ok .administrator
  else .error (dataLoss "invalid_session_revocation_reason")

def decodeSessionFamilyId (bytes : Bytea) : Except DomainError SessionFamilyId :=
  (decodeBytes 16 "invalid_session_family_id_bytes" bytes).map SessionFamilyId.mk

def decodeRefreshTokenId (bytes : Bytea) : Except DomainError RefreshTokenId :=
  (decodeBytes 16 "invalid_refresh_token_id_bytes" bytes).map RefreshTokenId.mk

def decodeUserId (bytes : Bytea) : Except DomainError UserId :=
  (decodeBytes 16 "invalid_session_user_id_bytes" bytes).map UserId.mk

def decodeFamily (family : SessionFamilyId) (row : FamilyRow) :
    Except DomainError SessionFamilyRecord := do
  let user ← decodeUserId row.userId
  let generation ← fromI64 row.generation "negative_session_generation"
  let activeToken ← transpose decodeRefreshTokenId row.activeTokenId
  let revokedReason ← transpose decodeRevocationReason row.revokedReason
  let createdAtMs ← fromI64 row.createdAtMs "negative_session_created_at"
  let updatedAtMs ← fromI64 row.updatedAtMs "negative_session_updated_at"
  return ⟨family, user, generation, activeToken, revokedReason, createdAtMs, updatedAtMs⟩

def validateRefreshTokenSnapshot (snapshot : RefreshTokenSnapshot) : Except DomainError Unit :=
  if snapshot.state = tokenStateActive ∧ snapshot.consumedAtMs = none then .ok ()
  else if snapshot.state = tokenStateConsumed ∧
      ∃ consumed ∈ snapshot.consumedAtMs, snapshot.issuedAtMs ≤ consumed then .ok ()
  else if snapshot.state = tokenStateActive ∨ snapshot.state = tokenStateConsumed then
    .error (dataLoss "invalid_refresh_token_lifecycle")
  else .error (dataLoss "invalid_refresh_token_state")

def decodeSnapshot (generationReason issuedReason consumedReason : String) (row : TokenRow) :
    Except DomainError RefreshTokenSnapshot := do
  let generation ← fromI64 row.generation generationReason
  let issuedAtMs ← fromI64 row.issuedAtMs issuedReason
  let consumedAtMs ← transpose (fromI64 · consumedReason) row.consumedAtMs
  let snapshot := ⟨generation, row.state, issuedAtMs, consumedAtMs⟩
  validateRefreshTokenSnapshot snapshot
  return snapshot

def validateCreate (request : CreateSessionFamily) : Except DomainError Unit := do
  require (request.family.isZero = false ∧ request.user.isZero = false ∧
    request.refresh.id.isZero = false ∧ request.refresh.digest.isZero = false)
    (invalid "invalid_session_family_create")
  let _ ← toI64 request.issuedAtMs

def validateRotation (request : RotateRefreshToken) : Except DomainError Unit := do
  require (request.presented.id.isZero = false ∧ request.presented.digest.isZero = false ∧
    request.replacement.id.isZero = false ∧ request.replacement.digest.isZero = false ∧
    request.presented.id ≠ request.replacement.id ∧
    request.presented.digest ≠ request.replacement.digest)
    (invalid "invalid_refresh_rotation")
  let _ ← toI64 request.rotatedAtMs

def committedRotationRetryMatches (family : SessionFamilyRecord) (presented : RefreshTokenSnapshot)
    (replacementId : RefreshTokenId) (replacement : Option RefreshTokenSnapshot)
    (retryAtMs : Nat) : Bool :=
  match presented.consumedAtMs, checkedAdd presented.generation 1, replacement with
  | some consumedAtMs, some nextGeneration, some replacement =>
    decide (presented.state = tokenStateConsumed ∧ family.revokedReason = none ∧
      family.activeToken = some replacementId ∧ family.createdAtMs ≤ presented.issuedAtMs ∧
      presented.issuedAtMs ≤ consumedAtMs ∧ consumedAtMs ≤ retryAtMs ∧
      family.generation = nextGeneration ∧ family.updatedAtMs = consumedAtMs ∧
      replacement.generation = nextGeneration ∧ replacement.state = tokenStateActive ∧
      replacement.issuedAtMs = consumedAtMs ∧ replacement.consumedAtMs = none)
  | _, _, _ => false

namespace SessionTables

def createSessionFamily (request : CreateSessionFamily) (db : SessionTables) :
    Except DomainError (SessionFamilyRecord × SessionTables) := do
  validateCreate request
  let issuedAtMs ← toI64 request.issuedAtMs
  let db ← db.insertFamily ⟨asBytes request.family.bytes, asBytes request.user.bytes, 0,
    some (asBytes request.refresh.id.bytes), none, issuedAtMs, issuedAtMs⟩
  let db ← db.insertToken ⟨asBytes request.family.bytes, asBytes request.refresh.id.bytes,
    asBytes request.refresh.digest.bytes, 0, 0, issuedAtMs, none⟩
  return (⟨request.family, request.user, 0, some request.refresh.id, none, request.issuedAtMs,
    request.issuedAtMs⟩, db)

section

variable (family : SessionFamilyId)

def loadSessionFamily (db : SessionTables) : Except DomainError (Option SessionFamilyRecord) := do
  require (family.isZero = false) (invalid "invalid_session_family_id")
  let row ← query db.families fun row => row.familyId == asBytes family.bytes
  transpose (decodeFamily family) row

def verifyAccessSession (user : UserId) (generation : Nat) (db : SessionTables) :
    Except DomainError SessionFamilyRecord := do
  require (family.isZero = false ∧ user.isZero = false) unauthenticated
  let record ← fetch (← db.loadSessionFamily family) unauthenticated
  require (record.user = user ∧ record.generation = generation ∧ record.activeToken ≠ none ∧
    record.revokedReason = none) unauthenticated
  return record

def consumeActiveToken (activeToken : Option RefreshTokenId) (guard : TokenRow → Bool)
    (consumed : TokenRow → Option Int) (db : SessionTables) : Except DomainError SessionTables :=
  match activeToken with
  | none => .ok db
  | some active => do
    let (db, _) ← db.updateTokens
      (fun row => row.familyId == asBytes family.bytes && row.tokenId == asBytes active.bytes &&
        guard row)
      fun row => { row with
        state := 1
        consumedAtMs := consumed row }
    return db

def closeFamily (reason : Int) (revokedAtMs : Int) (db : SessionTables) :
    Except DomainError SessionTables := do
  let (db, _) ← db.updateFamilies (fun row => row.familyId == asBytes family.bytes)
    fun row => { row with
      activeTokenId := none
      revokedReason := some reason
      updatedAtMs := revokedAtMs }
  return db

def revokeForReplay (record : SessionFamilyRecord) (revokedAtMs : Nat) (revokedAtI64 : Int)
    (db : SessionTables) : Except DomainError (SessionFamilyRecord × SessionTables) := do
  let db ← db.consumeActiveToken record.family record.activeToken (fun _ => true)
    fun row => row.consumedAtMs.or (some revokedAtI64)
  let db ← db.closeFamily record.family 2 revokedAtI64
  return ({ record with
    activeToken := none
    revokedReason := some .refreshReplay
    updatedAtMs := revokedAtMs }, db)

def consumeAndReplace (request : RotateRefreshToken) (record : SessionFamilyRecord)
    (rotatedAtMs : Int) (db : SessionTables) :
    Except DomainError (RefreshRotationOutcome × SessionTables) := do
  let nextGeneration ← fetch (checkedAdd record.generation 1) counterOverflow
  let nextGenerationI64 ← toI64 nextGeneration
  let (db, consumed) ← db.updateTokens
    (fun row => row.familyId == asBytes record.family.bytes &&
      row.tokenId == asBytes request.presented.id.bytes && row.state == 0)
    fun row => { row with
      state := 1
      consumedAtMs := some rotatedAtMs }
  require (consumed = 1) ⟨.aborted, "refresh_compare_and_swap_failed", .safeImmediate⟩
  let db ← db.insertToken ⟨asBytes record.family.bytes, asBytes request.replacement.id.bytes,
    asBytes request.replacement.digest.bytes, nextGenerationI64, 0, rotatedAtMs, none⟩
  let expected ← toI64 record.generation
  let (db, updated) ← db.updateFamilies
    (fun row => row.familyId == asBytes record.family.bytes && row.generation == expected &&
      row.revokedReason == none &&
      row.activeTokenId == some (asBytes request.presented.id.bytes))
    fun row => { row with
      generation := nextGenerationI64
      activeTokenId := some (asBytes request.replacement.id.bytes)
      updatedAtMs := rotatedAtMs }
  require (updated = 1) ⟨.aborted, "refresh_family_compare_and_swap_failed", .safeImmediate⟩
  return (.rotated ⟨record.family, record.user, nextGeneration, some request.replacement.id, none,
    record.createdAtMs, request.rotatedAtMs⟩, db)

def names (credential : RefreshTokenCredential) (row : TokenRow) : Bool :=
  row.tokenId == asBytes credential.id.bytes && row.tokenDigest == asBytes credential.digest.bytes

def namesIn (credential : RefreshTokenCredential) (row : TokenRow) : Bool :=
  row.familyId == asBytes family.bytes && names credential row

def readReplacement (presented : RefreshTokenSnapshot) (replacement : RefreshTokenCredential)
    (db : SessionTables) : Except DomainError (Option RefreshTokenSnapshot) :=
  if presented.state = tokenStateConsumed then do
    let row ← query db.tokens (namesIn family replacement)
    transpose (decodeSnapshot "negative_replacement_refresh_generation"
      "negative_replacement_refresh_issued_at" "negative_replacement_refresh_consumed_at") row
  else .ok none

end

def settleRotation (request : RotateRefreshToken) (record : SessionFamilyRecord)
    (presented : RefreshTokenSnapshot) (replacement : Option RefreshTokenSnapshot)
    (rotatedAtMs : Int) (db : SessionTables) :
    Except DomainError (RefreshRotationOutcome × SessionTables) :=
  if presented.state = tokenStateConsumed then
    if committedRotationRetryMatches record presented request.replacement.id replacement
        request.rotatedAtMs then
      .ok (.rotated record, db)
    else
      (db.revokeForReplay record request.rotatedAtMs rotatedAtMs).map (Prod.map .replayRevoked id)
  else if record.activeToken ≠ some request.presented.id ∨
      record.generation ≠ presented.generation then
    (db.revokeForReplay record request.rotatedAtMs rotatedAtMs).map (Prod.map .replayRevoked id)
  else
    db.consumeAndReplace request record rotatedAtMs

def rotateRefreshToken (request : RotateRefreshToken) (db : SessionTables) :
    Except DomainError (RefreshRotationOutcome × SessionTables) := do
  validateRotation request
  let rotatedAtMs ← toI64 request.rotatedAtMs
  let identity ← fetch (← query db.tokens (names request.presented)) unauthenticated
  let family ← decodeSessionFamilyId identity.familyId
  let familyRow ← fetch (← query db.families fun row => row.familyId == asBytes family.bytes)
    (dataLoss "refresh_family_missing")
  let tokenRow ← fetch (← query db.tokens (namesIn family request.presented)) unauthenticated
  let presented ← decodeSnapshot "negative_refresh_generation" "negative_refresh_issued_at"
    "negative_refresh_consumed_at" tokenRow
  require (presented.issuedAtMs ≤ request.rotatedAtMs) (invalid "refresh_rotation_before_issue")
  let replacement ← db.readReplacement family presented request.replacement
  let record ← decodeFamily family familyRow
  require (record.revokedReason = none ∧ record.activeToken ≠ none) unauthenticated
  require (record.createdAtMs ≤ request.rotatedAtMs)
    (invalid "refresh_rotation_before_family_creation")
  db.settleRotation request record presented replacement rotatedAtMs

def revokeSessionFamily (family : SessionFamilyId) (user : UserId) (reason : RevocationReason)
    (revokedAtMs : Nat) (db : SessionTables) :
    Except DomainError (SessionFamilyRecord × SessionTables) := do
  require (family.isZero = false ∧ user.isZero = false) unauthenticated
  let revokedAtI64 ← toI64 revokedAtMs
  let row ← fetch (← query db.families fun row => row.familyId == asBytes family.bytes)
    unauthenticated
  let record ← decodeFamily family row
  require (record.user = user ∧ record.createdAtMs ≤ revokedAtMs) unauthenticated
  if record.revokedReason ≠ none then
    return (record, db)
  else
    let db ← db.consumeActiveToken family record.activeToken (fun row => row.state == 0)
      fun _ => some revokedAtI64
    let db ← db.closeFamily family (revocationReasonCode reason) revokedAtI64
    return ({ record with
      activeToken := none
      revokedReason := some reason
      updatedAtMs := revokedAtMs }, db)

end SessionTables

inductive SessionCall where
  | create (request : CreateSessionFamily)
  | rotate (request : RotateRefreshToken)
  | revoke (family : SessionFamilyId) (user : UserId) (reason : RevocationReason)
      (revokedAtMs : Nat)

inductive SessionReply where
  | family (record : SessionFamilyRecord)
  | rotation (outcome : RefreshRotationOutcome)

def SessionCall.run (db : SessionTables) : SessionCall →
    Except DomainError (SessionReply × SessionTables)
  | .create request => (db.createSessionFamily request).map (Prod.map .family id)
  | .rotate request => (db.rotateRefreshToken request).map (Prod.map .rotation id)
  | .revoke family user reason revokedAtMs =>
    (db.revokeSessionFamily family user reason revokedAtMs).map (Prod.map .family id)

-- Any transaction may abort, and the caller of one that commits may never hear of it.
def sessionDatabase : System SessionTables SessionCall where
  init db := db = ⟨[], []⟩
  step db call db' := db' = db ∨ ∃ reply, call.run db = .ok (reply, db')

end PersistencePg
