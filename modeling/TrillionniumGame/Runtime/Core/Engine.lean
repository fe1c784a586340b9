import Mathlib.Data.Finset.Sort
import TrillionniumGame.Runtime.Contract.Evidence
import TrillionniumGame.Runtime.WorldCommand.Store

namespace Core
open Checks Contract FiniteMap GoJson GoText

inductive Status where
  | created
  | waiting
  | ready
  | active
  | completed
  deriving DecidableEq

def Status.text : Status → GoString
  | .created => str "created"
  | .waiting => str "waiting"
  | .ready => str "ready"
  | .active => str "active"
  | .completed => str "completed"

def maxCommandsPerMatch : Nat := 512
def maxCumulativeCommandPayloadBytes : Nat := 2 * 1024 * 1024
def completionSnapshotReserveBytes : Nat := 1024 * 1024
def maxSnapshotPayloadBytes : Nat := 64 * 1024 * 1024

inductive Sentinel where
  | authorization | conflict | sequence | version | state | capacity
  deriving DecidableEq

structure Failure where
  sentinel : Option Sentinel
  text : String
  deriving DecidableEq

def failure (text : String) : Failure := ⟨none, text⟩
def errAuthorization (text : String) : Failure :=
  ⟨some .authorization, "authorization rejected: " ++ text⟩
def errConflict (text : String) : Failure := ⟨some .conflict, "idempotency conflict: " ++ text⟩
def errSequence (text : String) : Failure :=
  ⟨some .sequence, "command sequence rejected: " ++ text⟩
def errVersion (text : String) : Failure := ⟨some .version, "match version rejected: " ++ text⟩
def errState (text : String) : Failure := ⟨some .state, "match state rejected: " ++ text⟩
def errCapacity (text : String) : Failure := ⟨some .capacity, "match capacity rejected: " ++ text⟩

-- Named, so that a numeral of `Fin 2` reads the same in every module.
instance twoParticipants : NeZero 2 := ⟨by decide⟩

structure ParticipantState where
  authorization : SignedAuthorization
  joined : Bool
  lastCommandSequence : UInt64
  deriving Inhabited

structure CommandRecord where
  command : CommandEnvelope
  fingerprint : Digest
  event : MatchEvent

structure Engine where
  matchID : GoString
  challengeID : GoString
  status : Status
  version : UInt64
  participants : Fin 2 → ParticipantState
  commands : Dict GoString CommandRecord
  events : List MatchEvent
  terminalFacts : Option TerminalFacts
  completion : Option MatchCompletedV1
  trustedIssuerKeys : KeyMap
  authorityKeyID : GoString
  authorityPrivateKey : GoString
  authorityPublicKey : GoString

namespace Engine

def claim (e : Engine) (index : Fin 2) : AuthorizationClaim :=
  (e.participants index).authorization.claim

def setParticipant (e : Engine) (index : Fin 2) (participant : ParticipantState) : Engine :=
  { e with participants := Function.update e.participants index participant }

end Engine

def named (fields : List (String × Json)) : Json :=
  .object (fields.map fun field => (str field.1, field.2))

def unsigned (value : UInt64) : Json := .int value.toNat

def slotJson (value : UInt32) : Json := .int value.toNat

def seconds (value : Int64) : Json := .int value.toInt

def claimJson (c : AuthorizationClaim) : Json :=
  named [("schema", .text c.schema), ("authorization_id", .text c.authorizationID),
    ("match_id", .text c.matchID), ("challenge_id", .text c.challengeID),
    ("agent_id", .text c.agentID), ("agent_did", .text c.agentDID),
    ("agent_key_id", .text c.agentKeyID), ("agent_public_key", .bytes c.agentPublicKey),
    ("subject_user_id", .text c.subjectUserID), ("participant_slot", slotJson c.participantSlot),
    ("role", .text c.role), ("ruleset_hash", .text c.rulesetHash),
    ("dataset_hash", .text c.datasetHash),
    ("challenge_snapshot_hash", .text c.challengeSnapshotHash),
    ("issued_at_unix", seconds c.issuedAtUnix), ("expires_at_unix", seconds c.expiresAtUnix)]

def participantJson (p : ParticipantState) : Json :=
  named [("authorization", named [("claim", claimJson p.authorization.claim),
      ("issuer_key_id", .text p.authorization.issuerKeyID),
      ("signature", .bytes p.authorization.signature)]),
    ("joined", .bool p.joined), ("last_command_sequence", unsigned p.lastCommandSequence)]

def commandJson (c : CommandEnvelope) : Json :=
  named [("schema", .text c.schema), ("command_id", .text c.commandID),
    ("authorization_id", .text c.authorizationID), ("match_id", .text c.matchID),
    ("challenge_id", .text c.challengeID), ("agent_id", .text c.agentID),
    ("participant_slot", slotJson c.participantSlot),
    ("participant_sequence", unsigned c.participantSequence),
    ("expected_match_version", unsigned c.expectedMatchVersion),
    ("issued_at_unix", seconds c.issuedAtUnix), ("payload_type", .text c.payloadType),
    ("payload", .bytes c.payload), ("payload_hash", .text c.payloadHash),
    ("agent_key_id", .text c.agentKeyID), ("signature", .bytes c.signature)]

def eventJson (e : MatchEvent) : Json :=
  named [("schema", .text e.schema), ("event_id", .text e.eventID),
    ("event_type", .text e.eventType), ("match_id", .text e.matchID),
    ("challenge_id", .text e.challengeID), ("sequence", unsigned e.sequence),
    ("causation_id", .text e.causationID), ("occurred_at_unix", seconds e.occurredAtUnix),
    ("participant_slot", slotJson e.participantSlot), ("match_version", unsigned e.matchVersion),
    ("payload_type", .text e.payloadType), ("payload", .bytes e.payload),
    ("payload_hash", .text e.payloadHash), ("event_hash", .text e.eventHash)]

def recordJson (r : CommandRecord) : Json :=
  named [("command", commandJson r.command), ("fingerprint", .text r.fingerprint),
    ("event", eventJson r.event)]

def factsJson (f : TerminalFacts) : Json :=
  named [("result_code", .text f.resultCode), ("winner_slot", slotJson f.winnerSlot),
    ("outcome_hash", .text f.outcomeHash)]

def completionJson (c : MatchCompletedV1) : Json :=
  named [("schema", .text c.schema), ("commitment_id", .text c.commitmentID),
    ("match_id", .text c.matchID), ("challenge_id", .text c.challengeID),
    ("terminal_facts", factsJson c.terminalFacts), ("event_count", unsigned c.eventCount),
    ("event_root", .text c.eventRoot), ("roster_root", .text c.rosterRoot),
    ("ruleset_hash", .text c.rulesetHash), ("dataset_hash", .text c.datasetHash),
    ("challenge_snapshot_hash", .text c.challengeSnapshotHash),
    ("archive_hash", .text c.archiveHash), ("completed_at_unix", seconds c.completedAtUnix),
    ("authority_key_id", .text c.authorityKeyID), ("signature", .bytes c.signature)]

def sortedCommandRecords (commands : Dict GoString CommandRecord) : List CommandRecord :=
  commands.keys.sort.filterMap commands.lookup

def snapshotSchema : GoString := str "trnm.match.snapshot.v2"

structure Progress where
  status : Status
  version : UInt64
  participants : Fin 2 → ParticipantState
  commands : Dict GoString CommandRecord
  events : List MatchEvent
  terminalFacts : Option TerminalFacts
  completion : Option MatchCompletedV1

namespace Engine

def progress (e : Engine) : Progress where
  status := e.status
  version := e.version
  participants := e.participants
  commands := e.commands
  events := e.events
  terminalFacts := e.terminalFacts
  completion := e.completion

def marshalSnapshotState (e : Engine) (p : Progress) : GoString :=
  marshal (named (
    [("schema", .text snapshotSchema), ("match_id", .text e.matchID),
      ("challenge_id", .text e.challengeID), ("status", .text p.status.text),
      ("version", unsigned p.version),
      ("participants", .array [participantJson (p.participants 0),
        participantJson (p.participants 1)]),
      ("commands", .array ((sortedCommandRecords p.commands).map recordJson)),
      ("events", .array (p.events.map eventJson))] ++
    (p.terminalFacts.map fun facts => ("terminal_facts", factsJson facts)).toList ++
    (p.completion.map fun completion => ("completion", completionJson completion)).toList ++
    [("authority_key_id", .text e.authorityKeyID),
      ("authority_public_key", .bytes e.authorityPublicKey)]))

def ensureSnapshotCapacity (e : Engine) (p : Progress) (reserve : Nat) : Except Failure Unit := do
  require (reserve ≤ maxSnapshotPayloadBytes) (errCapacity "snapshot reserve is invalid")
  require ((e.marshalSnapshotState p).length ≤ maxSnapshotPayloadBytes - reserve)
    (errCapacity "candidate snapshot leaves insufficient completion reserve")

end Engine

open Calls DigestTable Framing
open WorldCommand (Time)

structure NewMatchOptions where
  authorizations : Fin 2 → SignedAuthorization
  trustedIssuerKeys : KeyMap
  authorityKeyID : GoString
  authorityPrivateKey : GoString
  now : Time

structure JoinResult where
  replay : Bool
  event : Option MatchEvent
  status : Status
  version : UInt64

structure ApplyResult where
  replay : Bool
  event : MatchEvent
  status : Status
  version : UInt64

def slotIndex (slot : UInt32) : Except Failure (Fin 2) :=
  if slot = 1 then .ok 0
  else if slot = 2 then .ok 1
  else .error (failure "index out of range")

def encodeJoinPayload (slot : UInt32) (userID authorizationID agentID : GoString) : GoString :=
  str "trnm_participant_joined_v1" ++ 0 :: bigEndian slot.toNat 4 ++
    (prefixed 4 userID ++ prefixed 4 authorizationID ++ prefixed 4 agentID)

section
variable (crypto : Crypto)

def validateAuthoritySigningConfiguration (keyID privateKey : GoString) :
    Except Failure GoString := do
  (validateKeyID keyID).mapError fun e => failure ("authority key ID is invalid: " ++ e)
  (validateEd25519PrivateKey crypto privateKey "authority").mapError failure
  return privateKey.drop seedSize

namespace Engine

def validateConfiguration (e : Engine) : Except Failure Unit := do
  let one := e.claim 0
  let two := e.claim 1
  require (one.authorizationID ≠ [] ∧ two.authorizationID ≠ [])
    (errAuthorization "roster must contain slots 1 and 2")
  require (one.matchID = two.matchID ∧ one.challengeID = two.challengeID ∧
    one.rulesetHash = two.rulesetHash ∧ one.datasetHash = two.datasetHash ∧
    one.challengeSnapshotHash = two.challengeSnapshotHash)
    (errAuthorization "authorization snapshots do not describe one match")
  require (one.authorizationID ≠ two.authorizationID ∧ one.subjectUserID ≠ two.subjectUserID ∧
    one.agentID ≠ two.agentID ∧ one.agentDID ≠ two.agentDID ∧ one.agentKeyID ≠ two.agentKeyID ∧
    one.agentPublicKey ≠ two.agentPublicKey)
    (errAuthorization "authorization identities and agent keys must be unique")

def addParticipant (e : Engine) (now : Int64) (authorization : SignedAuthorization) :
    Except Failure Engine := do
  (verifyAuthorization crypto authorization e.trustedIssuerKeys now).mapError errAuthorization
  let index ← slotIndex authorization.claim.participantSlot
  require ((e.claim index).authorizationID = []) (errAuthorization "duplicate participant slot")
  return e.setParticipant index { e.participants index with authorization }

end Engine

def newMatch (options : NewMatchOptions) : Except Failure Engine := do
  require (options.now.isZero = false ∧ 0 ≤ options.now.unix)
    (failure "a non-negative current time is required")
  let authorityPublicKey ←
    validateAuthoritySigningConfiguration crypto options.authorityKeyID options.authorityPrivateKey
  let engine : Engine :=
    { matchID := []
      challengeID := []
      status := .created
      version := 1
      participants := fun _ => default
      commands := ∅
      events := []
      terminalFacts := none
      completion := none
      trustedIssuerKeys := options.trustedIssuerKeys
      authorityKeyID := options.authorityKeyID
      authorityPrivateKey := options.authorityPrivateKey
      authorityPublicKey }
  let engine ← engine.addParticipant crypto options.now.unix (options.authorizations 0)
  let engine ← engine.addParticipant crypto options.now.unix (options.authorizations 1)
  engine.validateConfiguration
  return { engine with matchID := (engine.claim 0).matchID, challengeID := (engine.claim 0).challengeID }

namespace Engine

variable (e : Engine)

def findParticipant (authorizationID : GoString) : Except Failure (Fin 2) :=
  if (e.claim 0).authorizationID = authorizationID then .ok 0
  else if (e.claim 1).authorizationID = authorizationID then .ok 1
  else .error (errAuthorization "authorization_id is not in this match")

def joinedCount : Nat :=
  (if (e.participants 0).joined then 1 else 0) + (if (e.participants 1).joined then 1 else 0)

def joinedStatus : Nat → Except Failure Status
  | 1 => .ok .waiting
  | 2 => .ok .ready
  | _ => .error (errState "impossible joined participant count")

def buildEvent (eventType causationID : GoString) (now : Time) (slot : UInt32)
    (payloadType payload : GoString) : Except Failure MatchEvent := do
  require (now.isZero = false ∧ 0 ≤ now.unix) (failure "event time is invalid")
  require (∀ last ∈ e.events.getLast?, last.occurredAtUnix ≤ now.unix)
    (failure "event time cannot move backwards")
  let sequence := UInt64.ofNat (e.events.length + 1)
  let eventID ← (canonicalEventID crypto e.matchID sequence causationID).mapError failure
  let event : MatchEvent :=
    { schema := eventSchema
      eventID
      eventType
      matchID := e.matchID
      challengeID := e.challengeID
      sequence
      causationID
      occurredAtUnix := now.unix
      participantSlot := slot
      matchVersion := e.version + 1
      payloadType
      payload
      payloadHash := []
      eventHash := [] }
  (sealEvent crypto event).mapError failure

def appendEvent (eventType causationID : GoString) (now : Time) (slot : UInt32)
    (payloadType payload : GoString) : Method Failure Engine MatchEvent := do
  let e ← read
  let event ← check (e.buildEvent crypto eventType causationID now slot payloadType payload)
  write fun e => { e with events := e.events ++ [event] }
  write fun e => { e with version := event.matchVersion }
  return event

def join (userID authorizationID : GoString) (now : Time) : Method Failure Engine JoinResult := do
  let e ← read
  check (require (e.status ≠ .completed) (errState "completed matches accept no joins"))
  let index ← check (e.findParticipant authorizationID)
  let participant := e.participants index
  let claim := e.claim index
  check (require (userID = claim.subjectUserID)
    (errAuthorization "subject_user_id does not match authenticated user"))
  if participant.joined then
    return { replay := true, event := none, status := e.status, version := e.version }
  else
    check (require (now.isZero = false ∧
        (verifyAuthorization crypto participant.authorization e.trustedIssuerKeys now.unix).isOk)
      (errAuthorization "authorization is no longer valid for first use"))
    let nextStatus ← check (joinedStatus (e.joinedCount + 1))
    let payload := encodeJoinPayload claim.participantSlot claim.subjectUserID
      claim.authorizationID claim.agentID
    let event ← appendEvent crypto (str "participant_joined") claim.authorizationID now
      claim.participantSlot (str "trnm.participant.joined.v1") payload
    write fun e => e.setParticipant index { e.participants index with joined := true }
    write fun e => { e with status := nextStatus }
    let e ← read
    return { replay := false, event := some event, status := e.status, version := e.version }

-- `ApplyCommand` and `PreflightCommand` share these checks, up to the fingerprint.
def identify (userID : GoString) (command : CommandEnvelope) :
    Except Failure (Fin 2 × Digest) := do
  let index ← e.findParticipant command.authorizationID
  let claim := e.claim index
  require ((e.participants index).joined = true ∧ userID = claim.subjectUserID ∧
    command.matchID = e.matchID ∧ command.challengeID = e.challengeID ∧
    command.agentID = claim.agentID ∧ command.agentKeyID = claim.agentKeyID ∧
    command.participantSlot = claim.participantSlot)
    (errAuthorization "command identity does not match consumed authorization")
  (verifyCommand crypto command claim.agentPublicKey).mapError errAuthorization
  let fingerprint ← (commandFingerprint crypto command).mapError failure
  return (index, fingerprint)

def authenticate (userID : GoString) (command : CommandEnvelope) :
    Except Failure (Fin 2 × Digest) := do
  require (e.status ≠ .completed) (errState "completed matches reject commands")
  require (e.status = .ready ∨ e.status = .active)
    (errState "both participants must join before commands")
  e.identify crypto userID command

def recordedPayloadBytes : Nat :=
  (e.commands.entries.map fun entry => entry.2.command.payload.length).sum

def checkCommandQuota (nextPayloadBytes : Nat) : Except Failure Unit := do
  require (e.commands.keys.card < maxCommandsPerMatch)
    (errCapacity "at most 512 commands are allowed")
  require (e.recordedPayloadBytes ≤ maxCumulativeCommandPayloadBytes)
    (errCapacity "recorded payload accounting is invalid")
  require (e.recordedPayloadBytes + nextPayloadBytes ≤ maxCumulativeCommandPayloadBytes)
    (errCapacity "cumulative command payload exceeds 2097152 bytes")

def checkNew (index : Fin 2) (command : CommandEnvelope) (now : Time) :
    Except Failure Unit := do
  e.checkCommandQuota command.payload.length
  require (command.participantSequence = (e.participants index).lastCommandSequence + 1)
    (errSequence "expected participant sequence")
  require (command.expectedMatchVersion = e.version) (errVersion "expected match version")
  require (now.isZero = false ∧ (e.claim index).issuedAtUnix ≤ command.issuedAtUnix ∧
    command.issuedAtUnix ≤ now.unix)
    (errAuthorization "command timestamp is outside the accepted interval")

def applyCommand (userID : GoString) (command : CommandEnvelope) (now : Time) :
    Method Failure Engine ApplyResult := do
  let e ← read
  let (index, fingerprint) ← check (e.authenticate crypto userID command)
  match e.commands.lookup command.commandID with
  | some previous =>
    check (require (previous.fingerprint = fingerprint)
      (errConflict "command_id was reused with different signed bytes"))
    return { replay := true, event := previous.event, status := e.status, version := e.version }
  | none =>
    check (e.checkNew index command now)
    let claim := e.claim index
    let event ← check (e.buildEvent crypto (str "agent_command_applied") command.commandID now
      claim.participantSlot command.payloadType command.payload)
    let record : CommandRecord := { command, fingerprint, event }
    let slot ← check (slotIndex claim.participantSlot)
    let candidate : Progress :=
      { status := .active
        version := event.matchVersion
        participants := Function.update e.participants slot
          { e.participants slot with lastCommandSequence := command.participantSequence }
        commands := e.commands.insert command.commandID record
        events := e.events ++ [event]
        terminalFacts := none
        completion := none }
    check (e.ensureSnapshotCapacity candidate completionSnapshotReserveBytes)
    write fun e => { e with events := candidate.events }
    write fun e => { e with version := event.matchVersion }
    write fun e => e.setParticipant index
      { e.participants index with lastCommandSequence := command.participantSequence }
    write fun e => { e with status := .active }
    write fun e => { e with commands := e.commands.insert command.commandID record }
    let e ← read
    return { replay := false, event, status := e.status, version := e.version }

def roster : List RosterEntry :=
  [e.claim 0, e.claim 1].map fun claim =>
    { participantSlot := claim.participantSlot
      subjectUserID := claim.subjectUserID
      agentID := claim.agentID
      agentDID := claim.agentDID
      agentKeyID := claim.agentKeyID
      agentKeyHash := newDigest crypto claim.agentPublicKey
      role := claim.role }

def buildCompletion (facts : TerminalFacts) (events : List MatchEvent)
    (now : Time) : Except String MatchCompletedV1 := do
  let eventRoot ← Contract.eventRoot crypto events
  let archiveHash ← Contract.archiveHash crypto events
  let rosterRoot ← Contract.rosterRoot crypto (e.roster crypto)
  let commitmentID ← Contract.commitmentID crypto e.matchID eventRoot archiveHash
  let claim := e.claim 0
  signCompletion crypto
    { schema := completionSchema
      commitmentID
      matchID := e.matchID
      challengeID := e.challengeID
      terminalFacts := facts
      eventCount := UInt64.ofNat events.length
      eventRoot
      rosterRoot
      rulesetHash := claim.rulesetHash
      datasetHash := claim.datasetHash
      challengeSnapshotHash := claim.challengeSnapshotHash
      archiveHash
      completedAtUnix := now.unix
      authorityKeyID := e.authorityKeyID
      signature := [] }
    e.authorityPrivateKey

-- The bytes of facts that no longer encode are the empty slice: the source drops the error.
def recordedFacts : GoString :=
  match e.terminalFacts with
  | none => []
  | some facts => facts.canonicalBytes.toOption.getD []

def complete (facts : TerminalFacts) (now : Time) : Method Failure Engine MatchCompletedV1 := do
  let e ← read
  let factsBytes ← check (facts.canonicalBytes.mapError failure)
  match e.completion with
  | some completion =>
    check (require (e.recordedFacts = factsBytes)
      (errConflict "completion facts differ from recorded evidence"))
    return completion
  | none =>
    check (require (e.status = .active)
      (errState "a match must be active before authoritative completion"))
    check (require (now.isZero = false ∧ 0 ≤ now.unix) (failure "completion time is invalid"))
    let causation := newDigest crypto (str "authority:complete:" ++ factsBytes)
    let terminalEvent ← check (e.buildEvent crypto (str "match_completed") causation now 0
      (str "trnm.match.terminal-facts.v1") factsBytes)
    let candidateEvents := e.events ++ [terminalEvent]
    let completion ← check ((e.buildCompletion crypto facts candidateEvents now).mapError failure)
    let candidate : Progress :=
      { e.progress with
        status := .completed
        version := terminalEvent.matchVersion
        events := candidateEvents
        terminalFacts := some facts
        completion := some completion }
    check (e.ensureSnapshotCapacity candidate 0)
    write fun e => { e with events := candidateEvents }
    write fun e => { e with version := terminalEvent.matchVersion }
    write fun e => { e with status := .completed }
    write fun e => { e with terminalFacts := some facts }
    write fun e => { e with completion := some completion }
    return completion

end Engine

end

end Core
