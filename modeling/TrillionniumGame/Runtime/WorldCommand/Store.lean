import TrillionniumGame.Foundation.FiniteMap
import TrillionniumGame.Runtime.WorldTransition.Prepare

namespace WorldCommand
open Checks FiniteMap GoText GoJson WorldTransition

def snapshotSchema : GoString := str "trnm.nakama.world-command-store.v1"
def reservationSchema : GoString := str "trnm.nakama.world-command-reservation.v1"
def receiptSchema : GoString := str "trnm.nakama.world-command-receipt.v1"

inductive Sentinel where
  | conflict | staleReservation | retryable | reservationAbsent | versionConflict | invalidState
  deriving DecidableEq

structure StoreError where
  sentinel : Option Sentinel
  text : String
  deriving DecidableEq

def errConflict : StoreError := ⟨some .conflict, "world command idempotency conflict"⟩
def errStaleReservation : StoreError := ⟨some .staleReservation, "world command reservation is stale"⟩
def errRetryable : StoreError := ⟨some .retryable, "world command remains retryable"⟩
def errReservationAbsent : StoreError :=
  ⟨some .reservationAbsent, "world command reservation not found"⟩
def errVersionConflict : StoreError :=
  ⟨some .versionConflict, "world command snapshot version conflict"⟩

def invalidState (text : String) : StoreError :=
  ⟨some .invalidState, "world command store state is invalid: " ++ text⟩
def staleReservation (text : String) : StoreError :=
  ⟨some .staleReservation, "world command reservation is stale: " ++ text⟩
def failure (text : String) : StoreError := ⟨none, text⟩

def StoreError.wrap (e : StoreError) (text : String) : StoreError := ⟨e.sentinel, text ++ e.text⟩

-- Kinds, dispositions and statuses are string types of the source: callers and stored documents
-- may hold other values than the named ones.
abbrev FailureKind := GoString

def failureCancelled : FailureKind := str "cancelled"
def failureTransport : FailureKind := str "transport"
def failureAmbiguousCommit : FailureKind := str "ambiguous_remote_commit"
def failureInvalidResult : FailureKind := str "invalid_world_result"
def failureRemoteRetryable : FailureKind := str "remote_retryable_rejection"
def failurePersistence : FailureKind := str "persistence"
def failureStale : FailureKind := str "stale_authority_state"
def failureOperatorAbort : FailureKind := str "operator_abort"
def failureSuperseded : FailureKind := str "superseded_generation"

structure ExecutionError where
  kind : FailureKind
  retryable : Bool
  err : Option GoString

def ExecutionError.error (e : ExecutionError) : GoString :=
  match e.err with
  | none => e.kind
  | some err => e.kind ++ str ": " ++ err

structure PrepareRequest (Value : Type) where
  clientCommandID : GoString
  userID : GoString
  participantID : GoString
  participantSequence : UInt64
  expectedStateRevision : UInt64
  expectedStateHash : GoString
  commandSchemaID : GoString
  command : Value
  context : AuthorityContext

structure MatchState where
  matchID : GoString
  participantRosterHash : GoString
  matchVersion : UInt64
  nextGlobalEventSequence : UInt64
  stateRevision : UInt64
  stateSchemaID : GoString
  stateCanonicalJSON : GoString
  stateHash : GoString
  tick : Int64
  participantSequences : Dict GoString UInt64
  deriving DecidableEq

def MatchState.participantSequence (state : MatchState) (participantID : GoString) : UInt64 :=
  (state.participantSequences.lookup participantID).getD 0

structure Fence where
  matchVersion : UInt64
  nextGlobalEventSequence : UInt64
  stateRevision : UInt64
  stateHash : GoString
  tick : Int64
  participantSequence : UInt64
  deriving DecidableEq

structure PreparedTransition where
  canonicalRequest : GoString
  requestHash : GoString
  transitionID : GoString
  worldCommandID : GoString
  previousStateHash : GoString
  deriving DecidableEq

structure Attempt where
  number : Nat
  startedAtUnix : Int64
  finishedAtUnix : Option Int64
  failureKind : FailureKind
  detail : GoString
  retryable : Bool
  deriving DecidableEq

def reservationPending : GoString := str "pending"
def reservationRetired : GoString := str "retired"

structure Reservation where
  schema : GoString
  reservationID : GoString
  clientCommandID : GoString
  intentFingerprint : GoString
  generation : Nat
  stateToken : GoString
  userID : GoString
  participantID : GoString
  participantSequence : UInt64
  context : AuthorityContext
  commandSchemaID : GoString
  commandCanonicalJSON : GoString
  transition : PreparedTransition
  fence : Fence
  status : GoString
  createdAtUnix : Int64
  updatedAtUnix : Int64
  attempts : List Attempt
  retiredReason : GoString
  deriving DecidableEq

def dispositionAccepted : GoString := str "accepted"
def dispositionRejected : GoString := str "rejected"

structure VerifiedTransition where
  disposition : GoString
  requestHash : GoString
  transitionID : GoString
  nextTick : Option Int64
  previousStateHash : Option GoString
  nextStateSchemaID : GoString
  nextStateCanonicalJSON : GoString
  nextStateHash : Option GoString
  replayHash : Option GoString
  worldOutcomeHash : Option GoString
  worldTransitionHash : Option GoString
  errorCode : Option GoString
  retryable : Option Bool
  canonicalResultSHA256 : GoString

structure Receipt where
  schema : GoString
  clientCommandID : GoString
  intentFingerprint : GoString
  reservationID : GoString
  generation : Nat
  disposition : GoString
  eventSequence : Option UInt64
  matchVersion : UInt64
  stateRevision : UInt64
  stateHash : GoString
  tick : Int64
  requestHash : GoString
  transitionID : GoString
  replayHash : Option GoString
  worldOutcomeHash : Option GoString
  worldTransitionHash : Option GoString
  errorCode : Option GoString
  retryable : Option Bool
  canonicalResultSHA256 : GoString
  attempts : List Attempt
  committedAtUnix : Int64
  deriving DecidableEq

structure PrepareResult where
  reservation : Option Reservation
  receipt : Option Receipt

structure Time where
  unix : Int64
  nanosecond : Nat

def Time.isZero (t : Time) : Bool := t.unix = -62135596800 && t.nanosecond = 0

structure Codec (Value : Type) where
  decodeCanonical : GoString → Nat → Except String Value
  encodeCanonical : Value → Except String GoString
  prepare : AuthorityContext → GoString → Value → GoString → Value →
    Except String PreparedTransition
  restore : AuthorityContext → GoString → Except String PreparedTransition
  verify : PreparedTransition → AuthorityContext → GoString → Except String VerifiedTransition

structure Platform (Value : Type) where
  codec : Codec Value
  sha256 : GoString → Vector UInt8 32

structure Document where
  schema : GoString
  state : MatchState
  reservations : Dict GoString Reservation
  receipts : Dict GoString Receipt
  retired : Dict GoString (List Reservation)
  deriving DecidableEq

structure Store where
  version : GoString
  state : MatchState
  reservations : Dict GoString Reservation
  receipts : Dict GoString Receipt
  retired : Dict GoString (List Reservation)

def Store.cloneDocument (s : Store) : Document :=
  ⟨snapshotSchema, s.state, s.reservations, s.receipts, s.retired⟩

def Store.installDocument (s : Store) (version : GoString) (document : Document) : Store :=
  { s with
    version
    state := document.state
    reservations := document.reservations
    receipts := document.receipts
    retired := document.retired }

section
variable {Value : Type} (platform : Platform Value)

def hashBytes (payload : GoString) : GoString := hexEncode (platform.sha256 payload)

def domainPayload (domain payload : GoString) : GoString := domain ++ str "\n" ++ payload

def domainHash (domain : GoString) (payload : GoString) : GoString :=
  hashBytes platform (domainPayload domain payload)

def intentDomain : GoString := str "trnm.nakama.world-command.intent.v1"

def intentNames : List GoString :=
  [str "client_command_id", str "user_id", str "participant_id", str "participant_sequence",
    str "command_schema_id", str "command_canonical", str "match_id", str "authorization_id",
    str "participant_roster_hash", str "ruleset_revision", str "content_revision"]

variable (request : PrepareRequest Value)

def intentValues (commandCanonical : GoString) : List Json :=
  [.text request.clientCommandID, .text request.userID, .text request.participantID,
    .int request.participantSequence.toNat, .text request.commandSchemaID,
    .bytes commandCanonical, .text request.context.matchID,
    .text request.context.authorizationID, .text request.context.participantRosterHash,
    .text request.context.rulesetRevision, .text request.context.contentRevision]

def intentDocument (commandCanonical : GoString) : GoString :=
  marshal (.object (intentNames.zip (intentValues request commandCanonical)))

def intentFingerprint (commandCanonical : GoString) : GoString :=
  domainHash platform intentDomain (intentDocument request commandCanonical)

def Fence.json (fence : Fence) : Json :=
  .object
    [(str "match_version", .int fence.matchVersion.toNat),
      (str "next_global_event_sequence", .int fence.nextGlobalEventSequence.toNat),
      (str "state_revision", .int fence.stateRevision.toNat),
      (str "state_hash", .text fence.stateHash),
      (str "tick", .int fence.tick.toInt),
      (str "participant_sequence", .int fence.participantSequence.toNat)]

def reservationDomain : GoString := str "trnm.nakama.world-command.reservation.v1"

def reservationDocument (reservation : Reservation) : GoString :=
  marshal (.object
    [(str "client_command_id", .text reservation.clientCommandID),
      (str "intent_fingerprint", .text reservation.intentFingerprint),
      (str "generation", .int reservation.generation),
      (str "fence", reservation.fence.json),
      (str "request_hash", .text reservation.transition.requestHash),
      (str "transition_id", .text reservation.transition.transitionID),
      (str "world_command_id", .text reservation.transition.worldCommandID)])

def reservationToken (reservation : Reservation) : GoString :=
  domainHash platform reservationDomain (reservationDocument reservation)

def reservationIdentifier (stateToken : GoString) : GoString := str "wres-" ++ stateToken.take 48

end

def printable (c : Char) : Char := if c.toNat < 0x20 ∨ c.toNat = 0x7f then ' ' else c

def boundedDetail (value : GoString) : GoString :=
  let value := trimSpace (mapRunes printable value)
  let value := if (runes value).length > 256 then ofRunes ((runes value).take 256) else value
  if value = [] then str "unspecified failure" else value

-- An operation checks its arguments against the memory of the store and either answers at once
-- or writes one candidate document; the answer then waits for the write.
inductive Plan (α : Type) where
  | done (answer : α)
  | write (candidate : Document) (answer : Except StoreError α)
  | commit (candidate : Document) (answer : α)

def liftError {ε α : Type} (wrap : ε → StoreError) (x : Except ε α) : Except StoreError α :=
  x.mapError wrap

def requireTime (now : Time) (text : String) : Except StoreError Unit :=
  require (now.isZero = false ∧ 0 ≤ now.unix) (invalidState text)

def latestAttemptNumber (reservation : Reservation) : Nat :=
  (reservation.attempts.getLast?.map (·.number)).getD 0

def findOpenAttempt (attempts : List Attempt) (number : Nat) : Except StoreError Nat := do
  require (number ≠ 0) (staleReservation "attempt number is required")
  let index ← fetch (attempts.findIdx? (·.number = number))
    (staleReservation "attempt does not exist")
  require ((attempts[index]?.bind (·.finishedAtUnix)) = none)
    (staleReservation "attempt is already finished")
  return index

def Attempt.close (attempt : Attempt) (now : Time) (kind : FailureKind) (retryable : Bool)
    (detail : GoString) : Attempt :=
  if attempt.finishedAtUnix.isSome then attempt
  else
    { attempt with
      finishedAtUnix := some now.unix
      failureKind := kind
      retryable
      detail }

def finishCommitted (activeAttempt : Nat) (disposition : GoString) (now : Time)
    (attempt : Attempt) : Attempt :=
  if attempt.number = activeAttempt then
    attempt.close now attempt.failureKind false (boundedDetail (str "committed " ++ disposition))
  else attempt.close now failureSuperseded false (str "superseded by committed result")

def finishCommittedAttempts (reservation : Reservation) (activeAttempt : Nat)
    (disposition : GoString) (now : Time) : Reservation :=
  if reservation.attempts = [] then
    { reservation with
      attempts := [finishCommitted 1 disposition now ⟨1, now.unix, none, [], [], false⟩] }
  else
    { reservation with
      attempts := reservation.attempts.map (finishCommitted activeAttempt disposition now) }

def finishOpenAttempts (reservation : Reservation) (kind : FailureKind) (retryable : Bool)
    (detail : GoString) (now : Time) : Reservation :=
  { reservation with
    attempts := reservation.attempts.map fun attempt =>
      attempt.close now kind retryable (boundedDetail detail) }

namespace Store

def validateRequestIdentity {Value : Type} (request : PrepareRequest Value) :
    Except StoreError Unit := do
  require (blank request.clientCommandID = false ∧
    request.clientCommandID = request.context.commandIdempotencyKey)
    (invalidState "client command ID must equal the Nakama idempotency key")
  require (blank request.userID = false ∧ blank request.participantID = false ∧
    request.participantSequence ≠ 0 ∧ request.expectedStateRevision ≠ 0 ∧
    blank request.expectedStateHash = false ∧ blank request.commandSchemaID = false)
    (invalidState "command identity is incomplete")

def validateCurrentFence {Value : Type} (s : Store) (request : PrepareRequest Value) :
    Except StoreError Unit := do
  require (request.context.matchID = s.state.matchID ∧
    request.context.participantRosterHash = s.state.participantRosterHash ∧
    0 ≤ request.context.matchVersion ∧
    request.context.matchVersion.toUInt64 = s.state.matchVersion ∧
    0 ≤ request.context.globalEventSequence ∧
    request.context.globalEventSequence.toUInt64 = s.state.nextGlobalEventSequence ∧
    request.context.expectedTick = s.state.tick ∧
    request.expectedStateRevision = s.state.stateRevision ∧
    request.expectedStateHash = s.state.stateHash)
    errStaleReservation
  require (request.participantSequence = s.state.participantSequence request.participantID + 1)
    (staleReservation "expected participant sequence")

def currentFence (s : Store) (participantID : GoString) : Fence where
  matchVersion := s.state.matchVersion
  nextGlobalEventSequence := s.state.nextGlobalEventSequence
  stateRevision := s.state.stateRevision
  stateHash := s.state.stateHash
  tick := s.state.tick
  participantSequence := s.state.participantSequence participantID

def nextGeneration (retired : List Reservation) : Nat :=
  retired.foldl (fun generation reservation =>
    if reservation.generation ≥ generation then reservation.generation + 1 else generation) 1

def retiredGenerations (s : Store) (clientCommandID : GoString) : List Reservation :=
  (s.retired.lookup clientCommandID).getD []

def putReservation (s : Store) (reservation : Reservation) : Document :=
  { s.cloneDocument with
    reservations := s.reservations.insert reservation.clientCommandID reservation }

section
variable {Value : Type} (platform : Platform Value)

def stamp (reservation : Reservation) : Reservation :=
  let stateToken := reservationToken platform reservation
  { reservation with stateToken, reservationID := reservationIdentifier stateToken }

def newReservation (s : Store) (request : PrepareRequest Value) (commandCanonical : GoString)
    (prepared : PreparedTransition) (now : Time) : Reservation :=
  stamp platform
    { schema := reservationSchema
      reservationID := []
      clientCommandID := request.clientCommandID
      intentFingerprint := intentFingerprint platform request commandCanonical
      generation := nextGeneration (s.retiredGenerations request.clientCommandID)
      stateToken := []
      userID := request.userID
      participantID := request.participantID
      participantSequence := request.participantSequence
      context := request.context
      commandSchemaID := request.commandSchemaID
      commandCanonicalJSON := commandCanonical
      transition := prepared
      fence := s.currentFence request.participantID
      status := reservationPending
      createdAtUnix := now.unix
      updatedAtUnix := now.unix
      attempts := []
      retiredReason := [] }

def prepareFresh (s : Store) (request : PrepareRequest Value) (commandCanonical : GoString)
    (now : Time) : Except StoreError (Plan PrepareResult) := do
  s.validateCurrentFence request
  let stateValue ← liftError
    (fun e => invalidState ("stored deterministic state is not canonical: " ++ e))
    (platform.codec.decodeCanonical s.state.stateCanonicalJSON (2 * 1024 * 1024))
  let prepared ← liftError failure
    (platform.codec.prepare request.context s.state.stateSchemaID stateValue
      request.commandSchemaID request.command)
  let reservation := newReservation platform s request commandCanonical prepared now
  return .write (s.putReservation reservation) (.ok ⟨some reservation, none⟩)

def prepare (s : Store) (request : PrepareRequest Value) (now : Time) :
    Except StoreError (Plan PrepareResult) := do
  requireTime now "prepare time is invalid"
  validateRequestIdentity request
  let commandCanonical ← liftError (fun e => failure ("command is not canonical: " ++ e))
    (platform.codec.encodeCanonical request.command)
  let fingerprint := intentFingerprint platform request commandCanonical
  match s.receipts.lookup request.clientCommandID with
  | some receipt => do
    require (receipt.intentFingerprint = fingerprint) errConflict
    return .done ⟨none, some receipt⟩
  | none =>
    match s.reservations.lookup request.clientCommandID with
    | some existing => do
      require (existing.intentFingerprint = fingerprint) errConflict
      return .done ⟨some existing, none⟩
    | none => prepareFresh platform s request commandCanonical now

end

variable (s : Store)

def requireReservation (input : Reservation) : Except StoreError Reservation :=
  match s.reservations.lookup input.clientCommandID with
  | none =>
    match s.receipts.lookup input.clientCommandID with
    | some receipt =>
      if receipt.intentFingerprint = input.intentFingerprint then .error errStaleReservation
      else .error errReservationAbsent
    | none => .error errReservationAbsent
  | some current => do
    require (current.generation = input.generation ∧
      current.reservationID = input.reservationID ∧ current.stateToken = input.stateToken ∧
      current.intentFingerprint = input.intentFingerprint ∧
      current.status = reservationPending) errStaleReservation
    return current

def fenceMatches (reservation : Reservation) : Bool :=
  s.currentFence reservation.participantID = reservation.fence

variable (reservation : Reservation)

def beginAttempt (now : Time) : Except StoreError (Plan Reservation) := do
  requireTime now "attempt time is invalid"
  let current ← s.requireReservation reservation
  let current :=
    { current with
      attempts := current.attempts ++
        [⟨current.attempts.length + 1, now.unix, none, [], [], false⟩]
      updatedAtUnix := now.unix }
  return .write (s.putReservation current) (.ok current)

def ensureAttempt (current : Reservation) (attemptNumber : Nat) (now : Time) :
    Nat × List Attempt :=
  if attemptNumber ≠ 0 then (attemptNumber, current.attempts)
  else match current.attempts.getLast? with
    | some last =>
      if last.finishedAtUnix.isSome then
        (current.attempts.length + 1, current.attempts ++
          [⟨current.attempts.length + 1, now.unix, none, [], [], false⟩])
      else (last.number, current.attempts)
    | none => (1, [⟨1, now.unix, none, [], [], false⟩])

def recordFailure (failure : Option ExecutionError) (now : Time) :
    Except StoreError (Plan Unit) := do
  requireTime now "failure record is invalid"
  let failure ← fetch failure (invalidState "failure record is invalid")
  let current ← s.requireReservation reservation
  let (attemptNumber, attempts) := ensureAttempt current (latestAttemptNumber reservation) now
  let index ← findOpenAttempt attempts attemptNumber
  let current :=
    { current with
      attempts := attempts.modify index fun attempt =>
        { attempt with
          finishedAtUnix := some now.unix
          failureKind := failure.kind
          retryable := failure.retryable
          detail := boundedDetail failure.error }
      updatedAtUnix := now.unix }
  return .write (s.putReservation current) (.ok ())

def retiredReservation (kind : FailureKind) (detail reason : GoString) (now : Time) : Reservation :=
  { finishOpenAttempts reservation kind false detail now with
    status := reservationRetired
    retiredReason := boundedDetail reason
    updatedAtUnix := now.unix }

def appendRetired (retired : Reservation) : Dict GoString (List Reservation) :=
  s.retired.insert retired.clientCommandID
    (s.retiredGenerations retired.clientCommandID ++ [retired])

def retireDocument (kind : FailureKind) (reason : GoString) (now : Time) : Document :=
  { s.cloneDocument with
    reservations := s.reservations.erase reservation.clientCommandID
    retired := s.appendRetired (retiredReservation reservation kind reason reason now) }

end Store

def validateVerifiedAgainstReservation (verified : VerifiedTransition) (reservation : Reservation) :
    Except StoreError Unit := do
  require (verified.requestHash = reservation.transition.requestHash ∧
    verified.transitionID = reservation.transition.transitionID)
    (failure "verified World result is not bound to reservation")
  require (∀ hash ∈ verified.previousStateHash, hash = reservation.transition.previousStateHash)
    (failure "verified World result previous state mismatch")

namespace Store

def newReceipt (s : Store) (current : Reservation) (verified : VerifiedTransition) (now : Time) :
    Receipt where
  schema := receiptSchema
  clientCommandID := current.clientCommandID
  intentFingerprint := current.intentFingerprint
  reservationID := current.reservationID
  generation := current.generation
  disposition := verified.disposition
  eventSequence := none
  matchVersion := s.state.matchVersion
  stateRevision := s.state.stateRevision
  stateHash := s.state.stateHash
  tick := s.state.tick
  requestHash := verified.requestHash
  transitionID := verified.transitionID
  replayHash := verified.replayHash
  worldOutcomeHash := verified.worldOutcomeHash
  worldTransitionHash := verified.worldTransitionHash
  errorCode := verified.errorCode
  retryable := verified.retryable
  canonicalResultSHA256 := verified.canonicalResultSHA256
  attempts := current.attempts
  committedAtUnix := now.unix

def acceptedState (state : MatchState) (current : Reservation) (verified : VerifiedTransition)
    (nextTick : Int64) (nextStateHash : GoString) : MatchState :=
  { state with
    matchVersion := state.matchVersion + 1
    nextGlobalEventSequence := state.nextGlobalEventSequence + 1
    stateRevision := state.stateRevision + 1
    stateSchemaID := verified.nextStateSchemaID
    stateCanonicalJSON := verified.nextStateCanonicalJSON
    stateHash := nextStateHash
    tick := nextTick
    participantSequences :=
      state.participantSequences.insert current.participantID current.participantSequence }

section
variable {Value : Type} (platform : Platform Value)

def applyVerified (s : Store) (current : Reservation) (verified : VerifiedTransition)
    (receipt : Receipt) : Except StoreError (Receipt × MatchState) :=
  if verified.disposition = dispositionAccepted then
    match verified.nextTick, verified.nextStateHash with
    | some nextTick, some nextStateHash => do
      require (verified.nextStateCanonicalJSON ≠ [] ∧ verified.nextStateSchemaID ≠ [])
        (failure "accepted World transition is incomplete")
      require (s.state.tick ≤ nextTick) (failure "accepted World transition regresses tick")
      require (hashBytes platform verified.nextStateCanonicalJSON = nextStateHash)
        (failure "accepted World transition next-state hash mismatch")
      let _ ← liftError (fun e => failure ("accepted World next state is not canonical: " ++ e))
        (platform.codec.decodeCanonical verified.nextStateCanonicalJSON (2 * 1024 * 1024))
      let state := acceptedState s.state current verified nextTick nextStateHash
      return ({ receipt with
        eventSequence := some s.state.nextGlobalEventSequence
        matchVersion := state.matchVersion
        stateRevision := state.stateRevision
        stateHash := state.stateHash
        tick := state.tick }, state)
    | _, _ => .error (failure "accepted World transition is incomplete")
  else if verified.disposition = dispositionRejected then
    match verified.retryable, verified.errorCode with
    | some retryable, some _ => do
      require (retryable = false) errRetryable
      return (receipt, s.state)
    | _, _ => .error (failure "rejected World transition is incomplete")
  else .error (failure "unsupported verified disposition")

def commitWith (s : Store) (reservation : Reservation) (verified : VerifiedTransition)
    (now : Time) : Except StoreError (Plan Receipt) := do
  requireTime now "commit time is invalid"
  match s.receipts.lookup reservation.clientCommandID with
  | some receipt => do
    require (receipt.intentFingerprint = reservation.intentFingerprint) errConflict
    return .done receipt
  | none => do
    let current ← s.requireReservation reservation
    validateVerifiedAgainstReservation verified current
    if s.fenceMatches current = false then
      return .write
        (s.retireDocument current failureStale (str "stale authority or deterministic state") now)
        (.error errStaleReservation)
    else do
      let current :=
        finishCommittedAttempts current (latestAttemptNumber reservation) verified.disposition now
      let (receipt, state) ←
        applyVerified platform s current verified (s.newReceipt current verified now)
      return .commit
        { s.cloneDocument with
          state
          reservations := s.reservations.erase current.clientCommandID
          receipts := s.receipts.insert current.clientCommandID receipt }
        receipt

def takeover (s : Store) (clientCommandID : GoString) (generation : Nat) (reason : GoString)
    (now : Time) : Except StoreError (Plan Reservation) := do
  requireTime now "takeover request is invalid"
  require (blank reason = false) (invalidState "takeover request is invalid")
  let current ← fetch (s.reservations.lookup clientCommandID) errReservationAbsent
  require (current.generation = generation ∧ current.status = reservationPending)
    errStaleReservation
  let retired := retiredReservation current failureSuperseded
    (str "superseded by reservation generation takeover")
    (str "generation takeover: " ++ reason) now
  let next := stamp platform
    { current with
      generation := current.generation + 1
      attempts := []
      createdAtUnix := now.unix
      updatedAtUnix := now.unix }
  return .write
    { s.cloneDocument with
      reservations := s.reservations.insert clientCommandID next
      retired := s.retired.insert clientCommandID
        (s.retiredGenerations clientCommandID ++ [retired]) }
    (.ok next)

end

def abort (s : Store) (clientCommandID : GoString) (generation : Nat) (reason : GoString)
    (now : Time) : Except StoreError (Plan Unit) := do
  requireTime now "abort request is invalid"
  require (blank reason = false) (invalidState "abort request is invalid")
  let current ← fetch (s.reservations.lookup clientCommandID) errReservationAbsent
  require (current.generation = generation ∧ current.status = reservationPending)
    errStaleReservation
  return .write
    (s.retireDocument current failureOperatorAbort
      (str "operator abort: " ++ boundedDetail reason) now)
    (.ok ())

def settle {α : Type} (s : Store) (planned : Except StoreError (Plan α))
    (outcome : Except StoreError GoString) : Except StoreError α × Store :=
  match planned with
  | .error e => (.error e, s)
  | .ok (.done answer) => (.ok answer, s)
  | .ok (.write candidate answer) =>
    match outcome with
    | .error e => (.error (e.wrap "persist World command store: "), s)
    | .ok version => (answer, s.installDocument version candidate)
  | .ok (.commit candidate answer) =>
    match outcome with
    | .error e => (.error (e.wrap "persist World command commit: "), s)
    | .ok version =>
      if version = [] then
        (.error (failure "persist World command commit returned no version"), s)
      else (.ok answer, s.installDocument version candidate)

end Store

def validateState {Value : Type} (platform : Platform Value) (state : MatchState) :
    Except StoreError Unit := do
  require (blank state.matchID = false ∧ blank state.participantRosterHash = false ∧
    state.matchVersion ≠ 0 ∧ state.nextGlobalEventSequence ≠ 0 ∧ state.stateRevision ≠ 0 ∧
    blank state.stateSchemaID = false ∧ state.stateCanonicalJSON ≠ [] ∧ 0 ≤ state.tick)
    (invalidState "deterministic match state is incomplete")
  require (hashBytes platform state.stateCanonicalJSON = state.stateHash)
    (invalidState "deterministic state hash mismatch")
  let _ ← liftError (fun e => invalidState ("deterministic state is not canonical: " ++ e))
    (platform.codec.decodeCanonical state.stateCanonicalJSON (2 * 1024 * 1024))
  return ()

-- `initial` is what `NewStore` writes; the version comes from the backend.
def newStore {Value : Type} (platform : Platform Value) (initial : MatchState)
    (version : GoString) : Except StoreError Store := do
  validateState platform initial
  return ⟨version, initial, ∅, ∅, ∅⟩

variable {Value : Type}

-- `encoding/json` on the persisted document; decoding rejects unknown fields and trailing data.
structure DocumentJson where
  marshal : Document → GoString
  decode : GoString → Except String Document

def validateAttempt (requireFinished : Bool) (index : Nat) (attempt : Attempt) :
    Except String Unit := do
  require (attempt.number = index + 1 ∧ 0 ≤ attempt.startedAtUnix) "attempt sequence is invalid"
  match attempt.finishedAtUnix with
  | none => require (requireFinished = false) "attempt is unfinished"
  | some finished => do
    require (attempt.startedAtUnix ≤ finished) "attempt finishes before it starts"
    require (attempt.detail ≠ []) "attempt has no completion detail"

def validateAttemptsFrom (requireFinished : Bool) : Nat → List Attempt → Except String Unit
  | _, [] => .ok ()
  | index, attempt :: rest => do
    validateAttempt requireFinished index attempt
    validateAttemptsFrom requireFinished (index + 1) rest

def validateAttempts (attempts : List Attempt) (requireFinished : Bool) : Except String Unit :=
  validateAttemptsFrom requireFinished 0 attempts

section
variable (platform : Platform Value)

def tokenHolds (r : Reservation) : Prop :=
  r.stateToken = reservationToken platform r ∧ r.reservationID = reservationIdentifier r.stateToken

instance (r : Reservation) : Decidable (tokenHolds platform r) :=
  inferInstanceAs (Decidable (_ ∧ _))

def validateReservation (commandID : GoString) (r : Reservation) : Except StoreError Unit := do
  require (commandID = r.clientCommandID ∧ r.schema = reservationSchema ∧
    r.status = reservationPending ∧ r.generation ≠ 0) (invalidState "invalid pending reservation")
  let restored ← liftError (fun _ => invalidState "reservation request identity is invalid")
    (platform.codec.restore r.context r.transition.canonicalRequest)
  require (restored.requestHash = r.transition.requestHash ∧
    restored.transitionID = r.transition.transitionID ∧
    restored.worldCommandID = r.transition.worldCommandID)
    (invalidState "reservation request identity is invalid")
  require (tokenHolds platform r) (invalidState "reservation state token is invalid")
  liftError (fun e => invalidState ("invalid pending reservation attempts: " ++ e))
    (validateAttempts r.attempts false)

def validateReceipt (commandID : GoString) (receipt : Receipt) : Except StoreError Unit := do
  require (commandID = receipt.clientCommandID ∧ receipt.schema = receiptSchema ∧
    receipt.generation ≠ 0 ∧ receipt.requestHash ≠ [] ∧ receipt.transitionID ≠ [] ∧
    receipt.intentFingerprint ≠ [] ∧ receipt.reservationID ≠ [] ∧
    receipt.canonicalResultSHA256 ≠ [] ∧ 0 ≤ receipt.committedAtUnix)
    (invalidState "invalid receipt")
  liftError (fun e => invalidState ("invalid receipt attempts: " ++ e))
    (validateAttempts receipt.attempts true)

def validateRetired (commandID : GoString) (r : Reservation) : Except StoreError Unit := do
  require (r.clientCommandID = commandID ∧ r.status = reservationRetired ∧ r.generation ≠ 0 ∧
    r.retiredReason ≠ [] ∧ tokenHolds platform r) (invalidState "invalid retired reservation")
  liftError (fun e => invalidState ("invalid retired reservation attempts: " ++ e))
    (validateAttempts r.attempts true)

def Document.validateLocked (d : Document) : Except StoreError Unit := do
  require (d.schema = snapshotSchema) (invalidState "unsupported snapshot schema")
  validateState platform d.state
  require (∀ id ∈ d.reservations.keys, ∀ r ∈ d.reservations.lookup id,
    validateReservation platform id r = .ok ()) (invalidState "invalid pending reservation")
  require (∀ id ∈ d.receipts.keys, ∀ receipt ∈ d.receipts.lookup id,
    validateReceipt id receipt = .ok ()) (invalidState "invalid receipt")
  require (∀ id ∈ d.retired.keys, ∀ rs ∈ d.retired.lookup id, ∀ r ∈ rs,
    validateRetired platform id r = .ok ()) (invalidState "invalid retired reservation")

def Document.store (d : Document) (version : GoString) : Store :=
  ⟨version, d.state, d.reservations, d.receipts, d.retired⟩

def openStore (json : DocumentJson) (payload version : GoString) : Except StoreError Store := do
  require (payload ≠ [] ∧ version ≠ []) (invalidState "persisted store does not exist")
  let document ← liftError (fun e => invalidState ("decode persisted store: " ++ e))
    (json.decode payload)
  document.validateLocked platform
  return document.store version

end

end WorldCommand
