import TrillionniumGame.Foundation.FiniteMap
import TrillionniumGame.Persistence.Contracts

namespace Persistence
open Checks FiniteMap

def maxEvents : Nat := 64
def maxIntents : Nat := 64
def maxAttempts : Nat := 32

def outboxAttemptLimitReason : Digest32 := ⟨#v[
  0x88, 0x5b, 0xa9, 0x48, 0x7a, 0xba, 0xaa, 0x8d, 0x5d, 0xc1, 0xe5, 0x49, 0xbe, 0xae, 0x45, 0x8a,
  0xbd, 0x43, 0xbb, 0x3b, 0xb6, 0x64, 0xc8, 0x63, 0x7a, 0x40, 0x4f, 0x7c, 0xb3, 0x83, 0xfe, 0xdb]⟩

inductive IntentKind where
  | broadcast | searchIndex | notification | externalEffect | completion
  deriving DecidableEq

structure EventInput where
  id : EventId
  payload : Digest32
  deriving DecidableEq

structure OutboxInput where
  id : IntentId
  kind : IntentKind
  payload : Digest32
  deriving DecidableEq

structure CommandIntent where
  entity : EntityId
  command : CommandId
  fingerprint : Digest32
  expectedRevision : Nat
  authorityGeneration : Nat
  nextState : Digest32
  events : List EventInput
  outbox : List OutboxInput
  deriving DecidableEq

structure PreparedCommit where
  intent : CommandIntent
  nextRevision : Nat
  firstSequence : Option Nat
  lastSequence : Nat
  deriving DecidableEq

structure EntityHead where
  revision : Nat
  lastSequence : Nat
  authorityGeneration : Nat
  state : Digest32
  deriving DecidableEq

structure Receipt where
  entity : EntityId
  command : CommandId
  fingerprint : Digest32
  revision : Nat
  state : Digest32
  firstSequence : Option Nat
  lastSequence : Nat
  eventCount : Nat
  outbox : List IntentId
  deriving DecidableEq

inductive PrepareOutcome where
  | prepared (commit : PreparedCommit)
  | duplicate (receipt : Receipt)
  deriving DecidableEq

inductive OutboxState where
  | pending
  | leased (owner : NodeId) (generation : Nat)
  | applied (receipt : Digest32)
  | deadLetter (reason : Digest32)
  deriving DecidableEq

structure OutboxRecord where
  id : IntentId
  entity : EntityId
  command : CommandId
  kind : IntentKind
  payload : Digest32
  attempt : Nat
  leaseGeneration : Nat
  state : OutboxState
  deriving DecidableEq

structure StoredEvent where
  id : EventId
  payload : Digest32
  command : CommandId

structure DurableState where
  entities : Dict EntityId EntityHead
  commands : Dict (EntityId × CommandId) Receipt
  events : Dict (EntityId × Nat) StoredEvent
  outbox : Dict IntentId OutboxRecord

def DurableState.empty : DurableState := ⟨∅, ∅, ∅, ∅⟩

def invalid (reason : String) : DomainError := ⟨.invalidArgument, reason, .never⟩
def notFound : DomainError := ⟨.notFound, "entity_not_found", .never⟩
def outboxNotFound : DomainError := ⟨.notFound, "outbox_intent_not_found", .never⟩
def overflow : DomainError := ⟨.outOfRange, "counter_overflow", .never⟩
def stalePrepare : DomainError := ⟨.aborted, "prepared_commit_stale", .resyncRequired⟩
def generationMismatch : DomainError := ⟨.aborted, "authority_generation_mismatch", .resyncRequired⟩
def revisionMismatch : DomainError := ⟨.aborted, "entity_revision_mismatch", .resyncRequired⟩
def entityAlreadyExists : DomainError := ⟨.alreadyExists, "entity_already_exists", .never⟩
def commandIdConflict : DomainError := ⟨.alreadyExists, "command_id_conflict", .never⟩
def outboxIntentAlreadyExists : DomainError := ⟨.alreadyExists, "outbox_intent_already_exists", .never⟩
def eventSequenceCollision : DomainError := ⟨.dataLoss, "event_sequence_collision", .never⟩
def commitBatchLimitExceeded : DomainError := ⟨.resourceExhausted, "commit_batch_limit_exceeded", .never⟩
def outboxNotPending : DomainError := ⟨.failedPrecondition, "outbox_not_pending", .safeBackoff⟩
def outboxReceiptMismatch : DomainError := ⟨.dataLoss, "outbox_receipt_mismatch", .never⟩
def outboxLeaseMismatch : DomainError := ⟨.aborted, "outbox_lease_mismatch", .safeBackoff⟩

def nonzero (isZero : Bool) (reason : String) : Except DomainError Unit :=
  require (isZero = false) (invalid reason)

def uniqueEvents : List EventInput → List EventId → Except DomainError Unit
  | [], _ => .ok ()
  | item :: rest, seen => do
    require (item.id.isZero = false ∧ item.payload.isZero = false ∧ item.id ∉ seen)
      (invalid "invalid_or_duplicate_event")
    uniqueEvents rest (item.id :: seen)

def uniqueIntents : List OutboxInput → List IntentId → Except DomainError Unit
  | [], _ => .ok ()
  | item :: rest, seen => do
    require (item.id.isZero = false ∧ item.payload.isZero = false ∧ item.id ∉ seen)
      (invalid "invalid_or_duplicate_outbox_intent")
    uniqueIntents rest (item.id :: seen)

def validateIntent (intent : CommandIntent) : Except DomainError Unit := do
  nonzero intent.entity.isZero "invalid_entity_id"
  nonzero intent.command.isZero "invalid_command_id"
  require (intent.authorityGeneration ≠ 0 ∧ intent.fingerprint.isZero = false ∧
    intent.nextState.isZero = false) (invalid "invalid_command_intent")
  require (intent.events.length ≤ maxEvents ∧ intent.outbox.length ≤ maxIntents)
    commitBatchLimitExceeded
  uniqueEvents intent.events []
  uniqueIntents intent.outbox []

def fence (head : EntityHead) (revision generation : Nat) : Except DomainError Unit := do
  require (head.authorityGeneration = generation) generationMismatch
  require (head.revision = revision) revisionMismatch

def leaseFence (record : OutboxRecord) (owner : NodeId) (generation : Nat) :
    Except DomainError Unit :=
  require (record.state = .leased owner generation) outboxLeaseMismatch

namespace DurableState

variable (s : DurableState)

variable (entity : EntityId)

def bootstrap (authorityGeneration : Nat)
    (state : Digest32) : Except DomainError EntityHead × DurableState :=
  if entity.isZero then (.error (invalid "invalid_entity_id"), s)
  else if authorityGeneration = 0 ∨ state.isZero then
    (.error (invalid "invalid_entity_bootstrap"), s)
  else if entity ∈ s.entities then (.error entityAlreadyExists, s)
  else
    let head : EntityHead := ⟨0, 0, authorityGeneration, state⟩
    (.ok head, { s with entities := s.entities.insert entity head })

def eventCount : Nat :=
  (s.events.keys.filter fun key => key.1 = entity).card

def sequenceAfter (lastSequence eventCount : Nat) : Except DomainError (Option Nat) :=
  if eventCount = 0 then .ok none
  else (fetch (checkedAdd lastSequence 1) overflow).map some

def prepare (intent : CommandIntent) : Except DomainError PrepareOutcome := do
  validateIntent intent
  match s.commands.lookup (intent.entity, intent.command) with
  | some receipt =>
    require (receipt.fingerprint = intent.fingerprint) commandIdConflict
    return .duplicate receipt
  | none =>
    let head ← fetch (s.entities.lookup intent.entity) notFound
    fence head intent.expectedRevision intent.authorityGeneration
    require (∀ item ∈ intent.outbox, item.id ∉ s.outbox) outboxIntentAlreadyExists
    let nextRevision ← fetch (checkedAdd head.revision 1) overflow
    let lastSequence ← fetch (checkedAdd head.lastSequence intent.events.length) overflow
    let firstSequence ← sequenceAfter head.lastSequence intent.events.length
    return .prepared ⟨intent, nextRevision, firstSequence, lastSequence⟩

def insertEvents (entity : EntityId) (command : CommandId) :
    List EventInput → Nat → Dict (EntityId × Nat) StoredEvent →
      Except DomainError (Nat × Dict (EntityId × Nat) StoredEvent)
  | [], sequence, events => .ok (sequence, events)
  | event :: rest, sequence, events => do
    let sequence ← fetch (checkedAdd sequence 1) overflow
    require ((entity, sequence) ∉ events) eventSequenceCollision
    insertEvents entity command rest sequence
      (events.insert (entity, sequence) ⟨event.id, event.payload, command⟩)

def insertOutbox (entity : EntityId) (command : CommandId) :
    List OutboxInput → Dict IntentId OutboxRecord →
      Except DomainError (List IntentId × Dict IntentId OutboxRecord)
  | [], outbox => .ok ([], outbox)
  | item :: rest, outbox => do
    require (item.id ∉ outbox) outboxIntentAlreadyExists
    let (ids, outbox) ← insertOutbox entity command rest
      (outbox.insert item.id ⟨item.id, entity, command, item.kind, item.payload, 0, 0, .pending⟩)
    return (item.id :: ids, outbox)

-- `commit` works on clones of the event and outbox maps; the four maps of the state are
-- written together after its last fallible step.
def stage (prepared : PreparedCommit) :
    Except DomainError (Receipt × DurableState) := do
  let intent := prepared.intent
  let head ← fetch (s.entities.lookup intent.entity) notFound
  fence head intent.expectedRevision intent.authorityGeneration
  let nextRevision ← fetch (checkedAdd head.revision 1) overflow
  require (nextRevision = prepared.nextRevision) stalePrepare
  require (∀ item ∈ intent.outbox, item.id ∉ s.outbox) outboxIntentAlreadyExists
  let (sequence, events) ←
    insertEvents intent.entity intent.command intent.events head.lastSequence s.events
  require (sequence = prepared.lastSequence) stalePrepare
  let (outboxIds, outbox) ← insertOutbox intent.entity intent.command intent.outbox s.outbox
  let receipt : Receipt :=
    { entity := intent.entity
      command := intent.command
      fingerprint := intent.fingerprint
      revision := prepared.nextRevision
      state := intent.nextState
      firstSequence := prepared.firstSequence
      lastSequence := prepared.lastSequence
      eventCount := intent.events.length
      outbox := outboxIds }
  let head : EntityHead :=
    { revision := receipt.revision
      lastSequence := receipt.lastSequence
      authorityGeneration := intent.authorityGeneration
      state := receipt.state }
  return (receipt,
    { entities := s.entities.insert intent.entity head
      commands := s.commands.insert (intent.entity, intent.command) receipt
      events := events
      outbox := outbox })

def commit (prepared : PreparedCommit) :
    Except DomainError Receipt × DurableState :=
  match s.commands.lookup (prepared.intent.entity, prepared.intent.command) with
  | some receipt =>
    if receipt.fingerprint = prepared.intent.fingerprint then (.ok receipt, s)
    else (.error commandIdConflict, s)
  | none =>
    match s.stage prepared with
    | .error e => (.error e, s)
    | .ok (receipt, next) => (.ok receipt, next)

def takeover (expectedGeneration : Nat) :
    Except DomainError EntityHead × DurableState :=
  match s.entities.lookup entity with
  | none => (.error notFound, s)
  | some head =>
    if head.authorityGeneration ≠ expectedGeneration then (.error generationMismatch, s)
    else match checkedAdd head.authorityGeneration 1 with
      | none => (.error overflow, s)
      | some generation =>
        let head := { head with authorityGeneration := generation }
        (.ok head, { s with entities := s.entities.insert entity head })

end DurableState

namespace OutboxRecord

variable (record : OutboxRecord)

variable (owner : NodeId)

def lease : Except DomainError OutboxRecord := do
  require (record.state = .pending) outboxNotPending
  let leaseGeneration ← fetch (checkedAdd record.leaseGeneration 1) overflow
  return { record with leaseGeneration, state := .leased owner leaseGeneration }

variable (generation : Nat)

def apply (receipt : Digest32) :
    Except DomainError OutboxRecord :=
  match record.state with
  | .applied current =>
    if current = receipt then .ok record else .error outboxReceiptMismatch
  | _ => do
    leaseFence record owner generation
    return { record with state := .applied receipt }

def retry : Except DomainError OutboxRecord := do
  leaseFence record owner generation
  if record.attempt ≥ maxAttempts then
    return { record with state := .deadLetter outboxAttemptLimitReason }
  else
    let attempt ← fetch (checkedAdd record.attempt 1) overflow
    return { record with attempt, state := .pending }

def deadLetter (reason : Digest32) :
    Except DomainError OutboxRecord := do
  leaseFence record owner generation
  return { record with state := .deadLetter reason }

end OutboxRecord

namespace DurableState

variable (s : DurableState) (id : IntentId)

def updateOutbox (update : OutboxRecord → Except DomainError OutboxRecord) :
    Except DomainError OutboxRecord × DurableState :=
  match s.outbox.lookup id with
  | none => (.error outboxNotFound, s)
  | some record =>
    match update record with
    | .error e => (.error e, s)
    | .ok record => (.ok record, { s with outbox := s.outbox.insert id record })

def lease (owner : NodeId) : Except DomainError OutboxRecord × DurableState :=
  if owner.isZero then (.error (invalid "invalid_outbox_owner"), s)
  else s.updateOutbox id (·.lease owner)

def apply (owner : NodeId) (generation : Nat) (receipt : Digest32) :
    Except DomainError OutboxRecord × DurableState :=
  if receipt.isZero then (.error (invalid "invalid_outbox_receipt"), s)
  else s.updateOutbox id (·.apply owner generation receipt)

def retry (owner : NodeId) (generation : Nat) : Except DomainError OutboxRecord × DurableState :=
  s.updateOutbox id (·.retry owner generation)

def deadLetter (owner : NodeId) (generation : Nat) (reason : Digest32) :
    Except DomainError OutboxRecord × DurableState :=
  if reason.isZero then (.error (invalid "invalid_dead_letter_reason"), s)
  else s.updateOutbox id (·.deadLetter owner generation reason)

end DurableState
end Persistence
