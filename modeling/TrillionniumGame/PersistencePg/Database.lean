import TrillionniumGame.Foundation.Paging
import TrillionniumGame.PersistencePg.Outbox

namespace PersistencePg
open Checks Persistence Tables

structure HeadRow where
  entityId : EntityId
  revision : Nat
  lastEventSequence : Nat
  authorityGeneration : Nat
  stateDigest : Digest32
  updatedAtMs : Nat

structure ReceiptRow where
  entityId : EntityId
  commandId : CommandId
  fingerprint : Digest32
  revision : Nat
  stateDigest : Digest32
  firstEventSequence : Option Nat
  lastEventSequence : Nat
  eventCount : Nat
  committedAtMs : Nat

structure EventRow where
  entityId : EntityId
  sequence : Nat
  eventId : EventId
  commandId : CommandId
  payloadDigest : Digest32
  createdAtMs : Nat

structure CommandOutboxRow where
  entityId : EntityId
  commandId : CommandId
  position : Nat
  intentId : IntentId

structure LeaseRow where
  entityId : EntityId
  ownerNode : NodeId
  leaseGeneration : Nat
  authorityGeneration : Nat
  expiresAtMs : Nat
  updatedAtMs : Nat

def trnmEntityHeads : Schema HeadRow where
  check row := decide (0 < row.authorityGeneration)
  clash row held := decide (held.entityId = row.entityId)

def trnmCommandReceipts : Schema ReceiptRow where
  check row := decide (0 < row.revision ∧ row.eventCount ≤ 64 ∧
    (row.eventCount = 0 ∧ row.firstEventSequence = none ∨
      0 < row.eventCount ∧ ∃ first ∈ row.firstEventSequence,
        0 < first ∧ row.lastEventSequence = first + row.eventCount - 1))
  clash row held := decide (held.entityId = row.entityId ∧
    (held.commandId = row.commandId ∨ held.revision = row.revision))

def trnmEvents : Schema EventRow where
  check row := decide (0 < row.sequence)
  clash row held := decide (held.eventId = row.eventId ∨
    held.entityId = row.entityId ∧ held.sequence = row.sequence)

def trnmCommandOutbox : Schema CommandOutboxRow where
  check row := decide (row.position < 64)
  clash row held := decide (held.intentId = row.intentId ∨
    held.entityId = row.entityId ∧ held.commandId = row.commandId ∧ held.position = row.position)

def trnmAuthorityLeases : Schema LeaseRow where
  check row := decide (0 < row.leaseGeneration ∧ 0 < row.authorityGeneration)
  clash row held := decide (held.entityId = row.entityId)

structure Database where
  heads : List HeadRow
  receipts : List ReceiptRow
  events : List EventRow
  outbox : List OutboxRow
  commandOutbox : List CommandOutboxRow
  leases : List LeaseRow

def Database.empty : Database := ⟨[], [], [], [], [], []⟩

def databaseInternalError : DomainError := ⟨.internal, "database_internal_error", .never⟩
def classifySqlstate (code : String) : DomainError :=
  match code with
  | "40001" => ⟨.aborted, "database_serialization_failure", .safeImmediate⟩
  | "40P01" => ⟨.aborted, "database_deadlock", .safeBackoff⟩
  | "23505" => classifyViolation .unique
  | "23503" => classifyViolation .foreignKey
  | "23502" | "23514" | "22P02" => classifyViolation .check
  | "42P01" => ⟨.failedPrecondition, "database_schema_missing", .never⟩
  | code =>
    if code.startsWith "08" then ⟨.unavailable, "database_connection_failure", .safeBackoff⟩
    else databaseInternalError

def mapPostgresError (source : Option String) : DomainError :=
  source.elim transportFailure classifySqlstate

def CutOff (source : Option String) : Prop :=
  ∀ code ∈ source, code ∉ ["23505", "23503", "23502", "23514", "22P02"]

def alreadyExists (reason : String) : DomainError := ⟨.alreadyExists, reason, .never⟩
def notFound (reason : String) : DomainError := ⟨.notFound, reason, .never⟩
def resync (reason : String) : DomainError := ⟨.aborted, reason, .resyncRequired⟩

namespace Database

variable (db : Database)

def hasReceipt (entity : EntityId) (command : CommandId) : Prop :=
  ∃ receipt ∈ db.receipts, receipt.entityId = entity ∧ receipt.commandId = command

instance (entity : EntityId) (command : CommandId) : Decidable (db.hasReceipt entity command) :=
  inferInstanceAs (Decidable (∃ receipt ∈ db.receipts, _))

def insertHead (row : HeadRow) : Except DomainError Database := do
  let heads ← (insert trnmEntityHeads row db.heads).mapError classifyViolation
  return { db with heads }

def insertReceipt (row : ReceiptRow) : Except DomainError Database := do
  require (∀ first ∈ row.firstEventSequence, first + row.eventCount < 2 ^ 63) databaseInternalError
  let receipts ← (insert trnmCommandReceipts row db.receipts).mapError classifyViolation
  require (∃ head ∈ db.heads, head.entityId = row.entityId) (classifyViolation .foreignKey)
  return { db with receipts }

def insertEvent (row : EventRow) : Except DomainError Database := do
  let events ← (insert trnmEvents row db.events).mapError classifyViolation
  require (db.hasReceipt row.entityId row.commandId) (classifyViolation .foreignKey)
  return { db with events }

def insertOutbox (row : OutboxRow) : Except DomainError Database := do
  let outbox ← (insert trnmOutbox row db.outbox).mapError classifyViolation
  require (db.hasReceipt row.entityId row.commandId) (classifyViolation .foreignKey)
  return { db with outbox }

def insertCommandOutbox (row : CommandOutboxRow) : Except DomainError Database := do
  let commandOutbox ← (insert trnmCommandOutbox row db.commandOutbox).mapError classifyViolation
  require (db.hasReceipt row.entityId row.commandId) (classifyViolation .foreignKey)
  require (∃ held ∈ db.outbox, held.intentId = row.intentId) (classifyViolation .foreignKey)
  return { db with commandOutbox }

def insertLease (row : LeaseRow) : Except DomainError Database := do
  let leases ← (insert trnmAuthorityLeases row db.leases).mapError classifyViolation
  require (∃ head ∈ db.heads, head.entityId = row.entityId) (classifyViolation .foreignKey)
  return { db with leases }

def updateHeads (p : HeadRow → Bool) (f : HeadRow → HeadRow) :
    Except DomainError (Database × Nat) := do
  let (heads, updated) ← (update trnmEntityHeads p f db.heads).mapError classifyViolation
  return ({ db with heads }, updated)

def updateLeases (p : LeaseRow → Bool) (f : LeaseRow → LeaseRow) :
    Except DomainError (Database × Nat) := do
  let (leases, updated) ← (update trnmAuthorityLeases p f db.leases).mapError classifyViolation
  return ({ db with leases }, updated)

def head? (entity : EntityId) : Option HeadRow := db.heads.find? (·.entityId = entity)

def lease? (entity : EntityId) : Option LeaseRow := db.leases.find? (·.entityId = entity)

def receipt? (entity : EntityId) (command : CommandId) : Option ReceiptRow :=
  db.receipts.find? fun row => row.entityId = entity ∧ row.commandId = command

end Database

def maxOutbox : Nat := 64

structure OutboxInput where
  id : IntentId
  kind : IntentKind
  payload : Digest32
  availableAtMs : Nat
  deriving DecidableEq

structure CommitRequest where
  entity : EntityId
  command : CommandId
  fingerprint : Digest32
  expectedRevision : Nat
  authorityGeneration : Nat
  nextState : Digest32
  committedAtMs : Nat
  events : List EventInput
  outbox : List OutboxInput
  deriving DecidableEq

structure EntityHead where
  entity : EntityId
  revision : Nat
  lastEventSequence : Nat
  authorityGeneration : Nat
  state : Digest32
  updatedAtMs : Nat

structure CommitReceipt where
  entity : EntityId
  command : CommandId
  fingerprint : Digest32
  revision : Nat
  state : Digest32
  firstEventSequence : Option Nat
  lastEventSequence : Nat
  eventCount : Nat
  outbox : List IntentId

inductive CommitOutcome where
  | applied (receipt : CommitReceipt)
  | duplicate (receipt : CommitReceipt)

def CommitOutcome.receipt : CommitOutcome → CommitReceipt
  | .applied receipt | .duplicate receipt => receipt

def validateRequest (request : CommitRequest) : Except DomainError Unit := do
  require (¬ (request.entity.isZero ∨ request.command.isZero ∨ request.fingerprint.isZero ∨
    request.nextState.isZero ∨ request.authorityGeneration = 0)) (invalid "invalid_commit_request")
  require (request.events.length ≤ maxEvents ∧ request.outbox.length ≤ maxOutbox)
    ⟨.resourceExhausted, "commit_batch_limit_exceeded", .never⟩
  let _ ← toI64 request.expectedRevision
  let _ ← toI64 request.authorityGeneration
  let _ ← toI64 request.committedAtMs
  require ((∀ event ∈ request.events, event.id.isZero = false ∧ event.payload.isZero = false) ∧
    (request.events.map EventInput.id).Nodup) (invalid "invalid_or_duplicate_event")
  require ((∀ intent ∈ request.outbox, intent.id.isZero = false ∧ intent.payload.isZero = false ∧
      intent.availableAtMs < 2 ^ 63) ∧ (request.outbox.map OutboxInput.id).Nodup)
    (invalid "invalid_or_duplicate_outbox_intent")

def decodeHead (row : HeadRow) : EntityHead :=
  ⟨row.entityId, row.revision, row.lastEventSequence, row.authorityGeneration, row.stateDigest,
    row.updatedAtMs⟩

namespace Database

variable (entity : EntityId)

def loadHead (db : Database) : Except DomainError (Option EntityHead) := do
  require (entity.isZero = false) (invalid "invalid_entity_id")
  return (db.head? entity).map decodeHead

def bootstrapEntity (authorityGeneration : Nat) (state : Digest32) (updatedAtMs : Nat)
    (db : Database) : Except DomainError (EntityHead × Database) := do
  require (¬ (entity.isZero ∨ authorityGeneration = 0 ∨ state.isZero))
    (invalid "invalid_entity_bootstrap")
  let _ ← toI64 authorityGeneration
  let _ ← toI64 updatedAtMs
  require (db.head? entity = none) (alreadyExists "entity_already_exists")
  let db ← db.insertHead ⟨entity, 0, 0, authorityGeneration, state, updatedAtMs⟩
  let head ← fetch (← db.loadHead entity) (dataLoss "entity_bootstrap_lost")
  return (head, db)

def outboxOf (command : CommandId) (db : Database) : List IntentId :=
  (Paging.sortedBy CommandOutboxRow.position (db.commandOutbox.filter fun row =>
    row.entityId = entity ∧ row.commandId = command)).map CommandOutboxRow.intentId

def decodeReceipt (db : Database) (row : ReceiptRow) : CommitReceipt :=
  ⟨row.entityId, row.commandId, row.fingerprint, row.revision, row.stateDigest,
    row.firstEventSequence, row.lastEventSequence, row.eventCount,
    db.outboxOf row.entityId row.commandId⟩

def loadReceipt (command : CommandId) (db : Database) : Option CommitReceipt :=
  (db.receipt? entity command).map db.decodeReceipt

def insertEvents (request : CommitRequest) :
    List EventInput → Nat → Database → Except DomainError Database
  | [], _, db => .ok db
  | event :: rest, sequence, db => do
    let sequence ← fetch (checkedAdd sequence 1) counterOverflow
    let _ ← toI64 sequence
    let db ← db.insertEvent ⟨request.entity, sequence, event.id, request.command, event.payload,
      request.committedAtMs⟩
    insertEvents request rest sequence db

def insertIntents (request : CommitRequest) :
    List OutboxInput → Nat → Database → Except DomainError Database
  | [], _, db => .ok db
  | intent :: rest, position, db => do
    let _ ← toI64 intent.availableAtMs
    let db ← db.insertOutbox
      { intentId := intent.id, entityId := request.entity, commandId := request.command,
        kind := intent.kind, payloadDigest := intent.payload, attempt := 0, leaseGeneration := 0,
        state := .pending, availableAtMs := intent.availableAtMs,
        updatedAtMs := request.committedAtMs }
    let db ← db.insertCommandOutbox ⟨request.entity, request.command, position, intent.id⟩
    insertIntents request rest (position + 1) db

def firstAfter (lastEventSequence : Nat) : List EventInput → Except DomainError (Option Nat)
  | [] => .ok none
  | _ :: _ => (fetch (checkedAdd lastEventSequence 1) counterOverflow).map some

def applyCommand (request : CommitRequest) (db : Database) :
    Except DomainError (CommitReceipt × Database) := do
  let head ← fetch (db.head? request.entity) (notFound "entity_not_found")
  require (head.authorityGeneration = request.authorityGeneration)
    (resync "authority_generation_mismatch")
  require (head.revision = request.expectedRevision) (resync "entity_revision_mismatch")
  let nextRevision ← fetch (checkedAdd head.revision 1) counterOverflow
  let firstEventSequence ← firstAfter head.lastEventSequence request.events
  let nextLastEventSequence ←
    fetch (checkedAdd head.lastEventSequence request.events.length) counterOverflow
  let _ ← toI64 nextRevision
  let _ ← toI64 request.expectedRevision
  let _ ← toI64 request.authorityGeneration
  let _ ← toI64 nextLastEventSequence
  let _ ← toI64 request.committedAtMs
  let (db, updated) ← db.updateHeads
    (fun row => row.entityId = request.entity && row.revision = request.expectedRevision &&
      row.authorityGeneration = request.authorityGeneration)
    (fun row => { row with
      revision := nextRevision
      lastEventSequence := nextLastEventSequence
      stateDigest := request.nextState
      updatedAtMs := request.committedAtMs })
  require (updated = 1) (resync "entity_compare_and_swap_failed")
  let _ ← transpose toI64 firstEventSequence
  let db ← db.insertReceipt ⟨request.entity, request.command, request.fingerprint, nextRevision,
    request.nextState, firstEventSequence, nextLastEventSequence, request.events.length,
    request.committedAtMs⟩
  let db ← insertEvents request request.events head.lastEventSequence db
  let db ← insertIntents request request.outbox 0 db
  return (⟨request.entity, request.command, request.fingerprint, nextRevision, request.nextState,
    firstEventSequence, nextLastEventSequence, request.events.length,
    request.outbox.map OutboxInput.id⟩, db)

def commitCommand (request : CommitRequest) (db : Database) :
    Except DomainError (CommitOutcome × Database) := do
  validateRequest request
  match db.loadReceipt request.entity request.command with
  | some receipt => do
    require (receipt.fingerprint = request.fingerprint) (alreadyExists "command_id_conflict")
    return (.duplicate receipt, db)
  | none => do
    let (receipt, db) ← applyCommand request db
    return (.applied receipt, db)

end Database

structure AuthorityLease where
  entity : EntityId
  owner : NodeId
  leaseGeneration : Nat
  authorityGeneration : Nat
  expiresAtMs : Nat
  updatedAtMs : Nat

def authorityCounterOverflow : DomainError :=
  ⟨.outOfRange, "authority_generation_overflow", .never⟩

def authorityLeaseHeld : DomainError := ⟨.aborted, "authority_lease_held", .safeBackoff⟩

def clockRegression : DomainError := invalid "authority_clock_regression"

def headGenerationMismatch : DomainError := dataLoss "authority_lease_head_generation_mismatch"

def validateLeaseRequest (entity : EntityId) (owner : NodeId)
    (authorityGeneration nowMs expiresAtMs : Nat) : Except DomainError Unit := do
  require (¬ (entity.isZero ∨ owner.isZero ∨ authorityGeneration = 0 ∨ expiresAtMs ≤ nowMs))
    (invalid "invalid_authority_lease_request")
  let _ ← toI64 authorityGeneration
  let _ ← toI64 nowMs
  let _ ← toI64 expiresAtMs

def decodeLease (row : LeaseRow) : AuthorityLease :=
  ⟨row.entityId, row.ownerNode, row.leaseGeneration, row.authorityGeneration, row.expiresAtMs,
    row.updatedAtMs⟩

namespace Database

def firstLease (entity : EntityId) (owner : NodeId) (authorityGeneration nowMs expiresAtMs : Nat)
    (db : Database) : Except DomainError (AuthorityLease × Database) := do
  let db ← db.insertLease ⟨entity, owner, 1, authorityGeneration, expiresAtMs, nowMs⟩
  return (⟨entity, owner, 1, authorityGeneration, expiresAtMs, nowMs⟩, db)

def takeOver (entity : EntityId) (owner : NodeId) (expectedAuthorityGeneration nowMs
    expiresAtMs : Nat) (previous : AuthorityLease) (db : Database) :
    Except DomainError (AuthorityLease × Database) := do
  require (previous.authorityGeneration = expectedAuthorityGeneration) headGenerationMismatch
  require (previous.updatedAtMs ≤ nowMs) clockRegression
  require (previous.expiresAtMs ≤ nowMs) authorityLeaseHeld
  let nextLeaseGeneration ← fetch (checkedAdd previous.leaseGeneration 1) authorityCounterOverflow
  let nextAuthorityGeneration ←
    fetch (checkedAdd expectedAuthorityGeneration 1) authorityCounterOverflow
  let _ ← toI64 nextLeaseGeneration
  let _ ← toI64 nextAuthorityGeneration
  let (db, updated) ← db.updateHeads
    (fun row => row.entityId = entity && row.authorityGeneration = expectedAuthorityGeneration)
    (fun row => { row with
      authorityGeneration := nextAuthorityGeneration
      updatedAtMs := nowMs })
  require (updated = 1) (resync "authority_head_compare_and_swap_failed")
  let _ ← toI64 previous.leaseGeneration
  let (db, updated) ← db.updateLeases
    (fun row => row.entityId = entity && row.leaseGeneration = previous.leaseGeneration &&
      row.authorityGeneration = expectedAuthorityGeneration)
    (fun row => { row with
      ownerNode := owner
      leaseGeneration := nextLeaseGeneration
      authorityGeneration := nextAuthorityGeneration
      expiresAtMs
      updatedAtMs := nowMs })
  require (updated = 1) (resync "authority_lease_compare_and_swap_failed")
  return (⟨entity, owner, nextLeaseGeneration, nextAuthorityGeneration, expiresAtMs, nowMs⟩, db)

def acquireAuthorityLease (entity : EntityId) (owner : NodeId)
    (expectedAuthorityGeneration nowMs expiresAtMs : Nat) (db : Database) :
    Except DomainError (AuthorityLease × Database) := do
  validateLeaseRequest entity owner expectedAuthorityGeneration nowMs expiresAtMs
  let _ ← toI64 nowMs
  let _ ← toI64 expiresAtMs
  let _ ← toI64 expectedAuthorityGeneration
  let head ← fetch (db.head? entity) (notFound "authority_entity_not_found")
  require (head.authorityGeneration = expectedAuthorityGeneration)
    (resync "authority_generation_mismatch")
  require (head.updatedAtMs ≤ nowMs) clockRegression
  match (db.lease? entity).map decodeLease with
  | none => firstLease entity owner expectedAuthorityGeneration nowMs expiresAtMs db
  | some previous =>
    takeOver entity owner expectedAuthorityGeneration nowMs expiresAtMs previous db

def renewAuthorityLease (lease : AuthorityLease) (nowMs expiresAtMs : Nat) (db : Database) :
    Except DomainError (AuthorityLease × Database) := do
  validateLeaseRequest lease.entity lease.owner lease.authorityGeneration nowMs expiresAtMs
  require (lease.leaseGeneration ≠ 0) (invalid "invalid_authority_lease_generation")
  let _ ← toI64 nowMs
  let _ ← toI64 expiresAtMs
  let _ ← toI64 lease.leaseGeneration
  let _ ← toI64 lease.authorityGeneration
  let current ← fetch ((db.lease? lease.entity).map decodeLease)
    (notFound "authority_lease_not_found")
  require (current.owner = lease.owner ∧ current.leaseGeneration = lease.leaseGeneration ∧
    current.authorityGeneration = lease.authorityGeneration) (resync "stale_authority_lease")
  require (nowMs < current.expiresAtMs) (resync "authority_lease_expired")
  require (current.updatedAtMs ≤ nowMs) clockRegression
  let head ← fetch (db.head? lease.entity) transportFailure
  require (head.authorityGeneration = lease.authorityGeneration) headGenerationMismatch
  let (db, updated) ← db.updateLeases
    (fun row => row.entityId = lease.entity && row.ownerNode = lease.owner &&
      row.leaseGeneration = lease.leaseGeneration &&
      row.authorityGeneration = lease.authorityGeneration)
    (fun row => { row with
      expiresAtMs
      updatedAtMs := nowMs })
  require (updated = 1) (resync "authority_lease_compare_and_swap_failed")
  return ({ lease with
    expiresAtMs
    updatedAtMs := nowMs }, db)

def releaseAuthorityLease (lease : AuthorityLease) (releasedAtMs : Nat) (db : Database) :
    Except DomainError (AuthorityLease × Database) := do
  require (lease.updatedAtMs ≤ releasedAtMs) clockRegression
  let _ ← toI64 releasedAtMs
  let _ ← toI64 lease.leaseGeneration
  let _ ← toI64 lease.authorityGeneration
  let (db, updated) ← db.updateLeases
    (fun row => row.entityId = lease.entity && row.ownerNode = lease.owner &&
      row.leaseGeneration = lease.leaseGeneration &&
      row.authorityGeneration = lease.authorityGeneration && releasedAtMs < row.expiresAtMs)
    (fun row => { row with
      expiresAtMs := releasedAtMs
      updatedAtMs := releasedAtMs })
  require (updated = 1) (resync "stale_or_expired_authority_lease")
  return ({ lease with
    expiresAtMs := releasedAtMs
    updatedAtMs := releasedAtMs }, db)

end Database

end PersistencePg
