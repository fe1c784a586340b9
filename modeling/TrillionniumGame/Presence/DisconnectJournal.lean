import TrillionniumGame.Foundation.FiniteMap
import TrillionniumGame.Foundation.Words
import TrillionniumGame.Persistence.Contracts

namespace Presence
open Checks FiniteMap Words
open Persistence (Bytes zeroBytes)

def maxDisconnectActiveRecords : Nat := 65536
def maxDisconnectTombstones : Nat := 262144
def maxDisconnectAttempts : Nat := 1024
def disconnectVerifierReceiptsPerAttempt : Nat := 2
def maxDisconnectVerifierReceipts : Nat := 262144

structure DisconnectJournalId where
  bytes : Bytes 16
  nonzero : zeroBytes bytes = false
  deriving DecidableEq

@[ext]
structure DisconnectJournalEpoch where
  value : UInt64
  positive : value ≠ 0

instance : DecidableEq DisconnectJournalEpoch := fun _ _ => decidable_of_iff' _ DisconnectJournalEpoch.ext_iff

@[ext]
structure DisconnectIntentId where
  value : UInt64
  positive : value ≠ 0

instance : DecidableEq DisconnectIntentId := fun _ _ => decidable_of_iff' _ DisconnectIntentId.ext_iff

@[ext]
structure WorkerId where
  value : UInt64
  positive : value ≠ 0

instance : DecidableEq WorkerId := fun _ _ => decidable_of_iff' _ WorkerId.ext_iff

abbrev LeaseToken := Nat

structure DisconnectOperation where
  socketGeneration : UInt64
  operationDigest : Bytes 32
  deriving DecidableEq

structure DisconnectDispatchBinding where
  journalId : DisconnectJournalId
  journalEpoch : DisconnectJournalEpoch
  intentId : DisconnectIntentId
  operation : DisconnectOperation
  attempt : Nat
  worker : WorkerId
  leaseToken : LeaseToken
  endpointDigest : Bytes 32
  deriving DecidableEq

inductive DisconnectOutcomeKind where
  | applied | definitelyNotApplied | rejected | unknown
  deriving DecidableEq

structure DisconnectOutcomeEvidence where
  binding : DisconnectDispatchBinding
  kind : DisconnectOutcomeKind
  outcomeDigest : Bytes 32
  verifierReceiptDigest : Bytes 32

abbrev DisconnectOutcomeVerifier := DisconnectOutcomeEvidence → Bool

structure DisconnectUnknownEvidence where
  outcomeDigest : Bytes 32
  verifierReceiptDigest : Bytes 32
  deriving DecidableEq

inductive DisconnectState where
  | pending
  | leased (worker : WorkerId) (token : LeaseToken)
  | dispatched (binding : DisconnectDispatchBinding)
  | indeterminate (binding : DisconnectDispatchBinding)
      (unknown : Option DisconnectUnknownEvidence)
  | applied (binding : DisconnectDispatchBinding) (receipt verifierReceipt : Bytes 32)
  | rejected (binding : DisconnectDispatchBinding) (reason verifierReceipt : Bytes 32)
  | deadLetter (reason : Bytes 32)
  deriving DecidableEq

structure DisconnectRecord where
  id : DisconnectIntentId
  operation : DisconnectOperation
  attempt : Nat
  leaseGeneration : Nat
  state : DisconnectState
  deriving DecidableEq

structure DisconnectArchiveTombstone where
  journalId : DisconnectJournalId
  journalEpoch : DisconnectJournalEpoch
  id : DisconnectIntentId
  operation : DisconnectOperation
  terminalDigest : Bytes 32
  archiveDigest : Bytes 32
  deriving DecidableEq

inductive RetryDisposition where
  | pending | deadLettered

inductive ReconciliationDisposition where
  | applied | pending | rejected | indeterminate | deadLettered

inductive DisconnectJournalError where
  | invalidCapacity
  | capacityTooLarge (field : String) (received maximum : Nat)
  | attemptLimitTooLarge (received maximum : Nat)
  | zeroIdentifier (field : String)
  | zeroDigest (field : String)
  | activeCapacityExceeded (capacity : Nat)
  | tombstoneCapacityExceeded (capacity : Nat)
  | unknownIntent (id : DisconnectIntentId)
  | archivedIntent (id : DisconnectIntentId)
  | conflictingIntent (id : DisconnectIntentId)
  | notPending (id : DisconnectIntentId)
  | leaseMismatch (id : DisconnectIntentId)
  | notDispatched (id : DisconnectIntentId)
  | ambiguousCompletionRequiresReconciliation (id : DisconnectIntentId)
  | outcomeBindingMismatch (id : DisconnectIntentId)
  | outcomeVerificationFailed (id : DisconnectIntentId)
  | outcomeMismatch (id : DisconnectIntentId)
  | outcomeReceiptReused (receiptOwner receivedFor : DisconnectIntentId)
  | verifierReceiptReused (receiptOwner receivedFor : DisconnectIntentId)
  | verifierReceiptBudgetOverflow
  | verifierReceiptCapacityExceeded (capacity : Nat)
  | verifierReceiptReservationMissing (id : DisconnectIntentId)
  | invariantViolation (text : String)
  | terminal (id : DisconnectIntentId)
  | notTerminal (id : DisconnectIntentId)
  | leaseGenerationExhausted
  | attemptExhausted
  | nonIncreasingJournalEpoch (current received : DisconnectJournalEpoch)
  | activeRecordsPreventEpochAdvance (active : Nat)

def requireNonzero (field : String) {n : Nat} (value : Bytes n) :
    Except DisconnectJournalError Unit :=
  require (zeroBytes value = false) (.zeroDigest field)

def DisconnectOperation.validate (operation : DisconnectOperation) :
    Except DisconnectJournalError DisconnectOperation := do
  require (operation.socketGeneration ≠ 0) (.zeroIdentifier "socket_generation")
  requireNonzero "operation_digest" operation.operationDigest
  return operation

def DisconnectOutcomeEvidence.validate (evidence : DisconnectOutcomeEvidence) :
    Except DisconnectJournalError DisconnectOutcomeEvidence := do
  requireNonzero "outcome_digest" evidence.outcomeDigest
  requireNonzero "verifier_receipt_digest" evidence.verifierReceiptDigest
  return evidence

structure DisconnectJournalConfig where
  journalId : DisconnectJournalId
  epoch : DisconnectJournalEpoch
  activeCapacity : Nat
  tombstoneCapacity : Nat
  maxAttempts : Nat
  deriving DecidableEq

namespace DisconnectJournalConfig

variable (config : DisconnectJournalConfig)

def verifierReceiptsPerIntent : Except DisconnectJournalError Nat :=
  fetch (fits 64 (config.maxAttempts * disconnectVerifierReceiptsPerAttempt))
    .verifierReceiptBudgetOverflow

def verifierReceiptCapacity : Except DisconnectJournalError Nat := do
  let receiptsPerIntent ← config.verifierReceiptsPerIntent
  fetch (fits 64 (config.tombstoneCapacity * receiptsPerIntent)) .verifierReceiptBudgetOverflow

def validate : Except DisconnectJournalError DisconnectJournalConfig := do
  require (¬ (config.activeCapacity = 0 ∨ config.tombstoneCapacity = 0 ∨ config.maxAttempts = 0))
    .invalidCapacity
  require (config.activeCapacity ≤ maxDisconnectActiveRecords)
    (.capacityTooLarge "active_capacity" config.activeCapacity maxDisconnectActiveRecords)
  require (config.tombstoneCapacity ≤ maxDisconnectTombstones)
    (.capacityTooLarge "tombstone_capacity" config.tombstoneCapacity maxDisconnectTombstones)
  require (config.maxAttempts ≤ maxDisconnectAttempts)
    (.attemptLimitTooLarge config.maxAttempts maxDisconnectAttempts)
  let receiptCapacity ← config.verifierReceiptCapacity
  require (receiptCapacity ≤ maxDisconnectVerifierReceipts)
    (.capacityTooLarge "verifier_receipt_capacity" receiptCapacity maxDisconnectVerifierReceipts)
  return config

end DisconnectJournalConfig

structure DisconnectJournal where
  config : DisconnectJournalConfig
  records : Dict DisconnectIntentId DisconnectRecord
  tombstones : Dict DisconnectIntentId DisconnectArchiveTombstone
  outcomeReceiptOwners : Dict (Bytes 32) DisconnectIntentId
  verifierReceiptOwners : Dict (Bytes 32) DisconnectIntentId
  verifierReceiptReservations : Dict DisconnectIntentId Nat
  verifierReceiptCapacity : Nat
  lastEpochCheckpoint : Option (Bytes 32)
  deriving DecidableEq

def terminalReplay (current : DisconnectRecord) (evidence : DisconnectOutcomeEvidence) :
    Except DisconnectJournalError (Option (DisconnectRecord × ReconciliationDisposition)) :=
  match current.state with
  | .applied binding receipt verifierReceipt => do
    require (evidence.kind = .applied ∧ evidence.binding = binding ∧
      evidence.outcomeDigest = receipt ∧ evidence.verifierReceiptDigest = verifierReceipt)
      (.outcomeMismatch current.id)
    return some (current, .applied)
  | .rejected binding reason verifierReceipt => do
    require (evidence.kind = .rejected ∧ evidence.binding = binding ∧
      evidence.outcomeDigest = reason ∧ evidence.verifierReceiptDigest = verifierReceipt)
      (.outcomeMismatch current.id)
    return some (current, .rejected)
  | .deadLetter _ => .error (.terminal current.id)
  | .pending | .leased .. | .dispatched _ | .indeterminate .. => .ok none

namespace DisconnectJournal

def new (config : DisconnectJournalConfig) : Except DisconnectJournalError DisconnectJournal := do
  let config ← config.validate
  let verifierReceiptCapacity ← config.verifierReceiptCapacity
  return ⟨config, ∅, ∅, ∅, ∅, ∅, verifierReceiptCapacity, none⟩

variable (j : DisconnectJournal)

def verifierReceiptReserved : Nat := total j.verifierReceiptReservations

def requireNewReceiptReservation : Except DisconnectJournalError Nat := do
  let reservation ← j.config.verifierReceiptsPerIntent
  let reserved ← fetch (fits 64 j.verifierReceiptReserved) .verifierReceiptBudgetOverflow
  let used ← fetch (fits 64 (j.verifierReceiptOwners.keys.card + reserved))
    .verifierReceiptBudgetOverflow
  let projected ← fetch (fits 64 (used + reservation)) .verifierReceiptBudgetOverflow
  require (projected ≤ j.verifierReceiptCapacity)
    (.verifierReceiptCapacityExceeded j.verifierReceiptCapacity)
  return reservation

def insert (j : DisconnectJournal) (id : DisconnectIntentId) (operation : DisconnectOperation) :
    Except DisconnectJournalError (DisconnectRecord × DisconnectJournal) := do
  let operation ← operation.validate
  match j.records.lookup id with
  | some existing =>
    require (existing.operation = operation) (.conflictingIntent id)
    return (existing, j)
  | none =>
    require (id ∉ j.tombstones) (.archivedIntent id)
    require (min (j.records.keys.card + j.tombstones.keys.card) (2 ^ 64 - 1) <
      j.config.tombstoneCapacity) (.tombstoneCapacityExceeded j.config.tombstoneCapacity)
    let reservation ← j.requireNewReceiptReservation
    require (j.records.keys.card < j.config.activeCapacity)
      (.activeCapacityExceeded j.config.activeCapacity)
    let record : DisconnectRecord := ⟨id, operation, 0, 0, .pending⟩
    return (record, { j with
      records := j.records.insert id record
      verifierReceiptReservations := j.verifierReceiptReservations.insert id reservation })

def requireRecord (id : DisconnectIntentId) : Except DisconnectJournalError DisconnectRecord :=
  fetch (j.records.lookup id) (if id ∈ j.tombstones then .archivedIntent id else .unknownIntent id)

variable (id : DisconnectIntentId) (worker : WorkerId)

def requireFence (token : LeaseToken) : Except DisconnectJournalError DisconnectRecord := do
  let current ← j.requireRecord id
  match current.state with
  | .leased owner lease =>
    require (owner = worker ∧ lease = token) (.leaseMismatch id)
    return current
  | .applied .. | .rejected .. | .deadLetter _ => .error (.terminal id)
  | .dispatched _ | .indeterminate .. => .error (.ambiguousCompletionRequiresReconciliation id)
  | .pending => .error (.leaseMismatch id)

def withRecord (record : DisconnectRecord) : DisconnectJournal :=
  { j with records := j.records.insert id record }

def lease (worker : WorkerId) :
    Except DisconnectJournalError (DisconnectRecord × DisconnectJournal) := do
  let current ← j.requireRecord id
  match current.state with
  | .applied .. | .rejected .. | .deadLetter _ => .error (.terminal id)
  | .dispatched _ | .indeterminate .. => .error (.ambiguousCompletionRequiresReconciliation id)
  | .leased .. => .error (.notPending id)
  | .pending =>
    let leaseGeneration ← fetch (fits 64 (current.leaseGeneration + 1)) .leaseGenerationExhausted
    let attempt ← fetch (fits 32 (current.attempt + 1)) .attemptExhausted
    let next := { current with leaseGeneration, attempt, state := .leased worker leaseGeneration }
    return (next, j.withRecord id next)

def markDispatched (token : LeaseToken) (endpointDigest : Bytes 32) :
    Except DisconnectJournalError (DisconnectRecord × DisconnectJournal) := do
  requireNonzero "endpoint_digest" endpointDigest
  let current ← j.requireFence id worker token
  let binding : DisconnectDispatchBinding :=
    { journalId := j.config.journalId
      journalEpoch := j.config.epoch
      intentId := id
      operation := current.operation
      attempt := current.attempt
      worker
      leaseToken := token
      endpointDigest }
  let next := { current with state := .dispatched binding }
  return (next, j.withRecord id next)

def markTransportLost (token : LeaseToken) :
    Except DisconnectJournalError (DisconnectRecord × DisconnectJournal) := do
  let current ← j.requireRecord id
  match current.state with
  | .dispatched binding =>
    require (binding.worker = worker ∧ binding.leaseToken = token) (.notDispatched id)
    let next := { current with state := .indeterminate binding none }
    return (next, j.withRecord id next)
  | .indeterminate binding _ =>
    require (binding.worker = worker ∧ binding.leaseToken = token) (.notDispatched id)
    return (current, j)
  | .applied .. | .rejected .. | .deadLetter _ => .error (.terminal id)
  | .pending | .leased .. => .error (.notDispatched id)

def retryBeforeDispatch (token : LeaseToken) (terminalReason : Bytes 32) :
    Except DisconnectJournalError ((DisconnectRecord × RetryDisposition) × DisconnectJournal) := do
  requireNonzero "terminal_reason" terminalReason
  let current ← j.requireRecord id
  match current.state with
  | .dispatched _ | .indeterminate .. => .error (.ambiguousCompletionRequiresReconciliation id)
  | .applied .. | .rejected .. | .deadLetter _ => .error (.terminal id)
  | .pending | .leased .. =>
    let current ← j.requireFence id worker token
    let next := { current with
      state := if j.config.maxAttempts ≤ current.attempt then .deadLetter terminalReason
        else .pending }
    let disposition :=
      if j.config.maxAttempts ≤ current.attempt then RetryDisposition.deadLettered else .pending
    return ((next, disposition), j.withRecord id next)

def consumeReceiptReservation (id : DisconnectIntentId) :
    Except DisconnectJournalError DisconnectJournal := do
  let remaining ← fetch (j.verifierReceiptReservations.lookup id)
    (.verifierReceiptReservationMissing id)
  require (remaining ≠ 0) (.verifierReceiptCapacityExceeded j.verifierReceiptCapacity)
  return { j with
    verifierReceiptReservations := j.verifierReceiptReservations.insert id (remaining - 1) }

def requireUniqueOutcomeReceipt (receipt : Bytes 32) : Except DisconnectJournalError Unit :=
  match j.outcomeReceiptOwners.lookup receipt with
  | none => .ok ()
  | some owner => require (owner = id) (.outcomeReceiptReused owner id)

def requireUniqueVerifierReceipt (receipt : Bytes 32) : Except DisconnectJournalError Unit :=
  match j.verifierReceiptOwners.lookup receipt with
  | none => .ok ()
  | some owner => .error (.verifierReceiptReused owner id)

def outcomeState (maxAttempts attempt : Nat) (binding : DisconnectDispatchBinding)
    (evidence : DisconnectOutcomeEvidence) : DisconnectState × ReconciliationDisposition :=
  match evidence.kind with
  | .applied =>
    (.applied binding evidence.outcomeDigest evidence.verifierReceiptDigest, .applied)
  | .definitelyNotApplied =>
    if maxAttempts ≤ attempt then (.deadLetter evidence.outcomeDigest, .deadLettered)
    else (.pending, .pending)
  | .rejected =>
    (.rejected binding evidence.outcomeDigest evidence.verifierReceiptDigest, .rejected)
  | .unknown =>
    (.indeterminate binding (some ⟨evidence.outcomeDigest, evidence.verifierReceiptDigest⟩),
      .indeterminate)

def settle (current : DisconnectRecord) (binding : DisconnectDispatchBinding)
    (evidence : DisconnectOutcomeEvidence) (verifier : DisconnectOutcomeVerifier) :
    Except DisconnectJournalError
      ((DisconnectRecord × ReconciliationDisposition) × DisconnectJournal) := do
  require (verifier evidence = true) (.outcomeVerificationFailed id)
  j.requireUniqueVerifierReceipt id evidence.verifierReceiptDigest
  if evidence.kind = .applied then
    j.requireUniqueOutcomeReceipt id evidence.outcomeDigest
  let (state, disposition) := outcomeState j.config.maxAttempts current.attempt binding evidence
  let j ← j.consumeReceiptReservation id
  let next := { current with state }
  return ((next, disposition), { j with
    verifierReceiptOwners := j.verifierReceiptOwners.insert evidence.verifierReceiptDigest id
    outcomeReceiptOwners :=
      if evidence.kind = .applied then j.outcomeReceiptOwners.insert evidence.outcomeDigest id
      else j.outcomeReceiptOwners
    records := j.records.insert id next })

def reconcile (evidence : DisconnectOutcomeEvidence) (verifier : DisconnectOutcomeVerifier) :
    Except DisconnectJournalError
      ((DisconnectRecord × ReconciliationDisposition) × DisconnectJournal) := do
  let evidence ← evidence.validate
  let current ← j.requireRecord id
  match ← terminalReplay current evidence with
  | some result => return (result, j)
  | none =>
    match current.state with
    | .dispatched binding =>
      require (evidence.binding = binding ∧ evidence.binding.intentId = id)
        (.outcomeBindingMismatch id)
      j.settle id current binding evidence verifier
    | .indeterminate binding unknown =>
      require (evidence.binding = binding ∧ evidence.binding.intentId = id)
        (.outcomeBindingMismatch id)
      match unknown with
      | none => j.settle id current binding evidence verifier
      | some previous =>
        if evidence.kind = .unknown then
          require (previous.outcomeDigest = evidence.outcomeDigest ∧
            previous.verifierReceiptDigest = evidence.verifierReceiptDigest) (.outcomeMismatch id)
          return ((current, .indeterminate), j)
        else
          require (previous.verifierReceiptDigest ≠ evidence.verifierReceiptDigest)
            (.outcomeMismatch id)
          j.settle id current binding evidence verifier
    | _ => .error (.notDispatched id)

def terminalDigest : DisconnectState → Option (Bytes 32)
  | .applied _ receipt _ => some receipt
  | .rejected _ reason _ => some reason
  | .deadLetter reason => some reason
  | .pending | .leased .. | .dispatched _ | .indeterminate .. => none

def archiveTerminal (archiveDigest : Bytes 32) :
    Except DisconnectJournalError (DisconnectArchiveTombstone × DisconnectJournal) := do
  requireNonzero "archive_digest" archiveDigest
  require (j.tombstones.keys.card < j.config.tombstoneCapacity)
    (.tombstoneCapacityExceeded j.config.tombstoneCapacity)
  let current ← j.requireRecord id
  let terminalDigest ← fetch (terminalDigest current.state) (.notTerminal id)
  require (id ∈ j.verifierReceiptReservations) (.verifierReceiptReservationMissing id)
  let tombstone : DisconnectArchiveTombstone :=
    ⟨j.config.journalId, j.config.epoch, id, current.operation, terminalDigest, archiveDigest⟩
  return (tombstone, { j with
    records := j.records.erase id
    verifierReceiptReservations := j.verifierReceiptReservations.erase id
    tombstones := j.tombstones.insert id tombstone })

def advanceEpoch (nextEpoch : DisconnectJournalEpoch) (checkpointDigest : Bytes 32) :
    Except DisconnectJournalError DisconnectJournal := do
  requireNonzero "checkpoint_digest" checkpointDigest
  require (j.records.keys = ∅) (.activeRecordsPreventEpochAdvance j.records.keys.card)
  require (j.verifierReceiptReservations.keys = ∅)
    (.invariantViolation "receipt reservations remain without active records")
  require (j.config.epoch.value < nextEpoch.value)
    (.nonIncreasingJournalEpoch j.config.epoch nextEpoch)
  return { j with
    config := { j.config with epoch := nextEpoch }
    tombstones := ∅
    outcomeReceiptOwners := ∅
    verifierReceiptOwners := ∅
    verifierReceiptReservations := ∅
    lastEpochCheckpoint := some checkpointDigest }

end DisconnectJournal

end Presence
