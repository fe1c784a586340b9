import TrillionniumGame.Foundation.Words
import TrillionniumGame.Identity.Registry

namespace Token
open Checks FiniteMap Words
open Persistence (Bytes one_positive zeroBytes)
open Identity (byteValues byteValues_inj)

def maxSignerJournalCapacity : Nat := 4096

structure Digest where
  bytes : Bytes 32

instance : LinearOrder Digest := LinearOrder.lift' (fun digest => byteValues digest.bytes) <| by
  rintro ⟨x⟩ ⟨y⟩ h
  simp only [Digest.mk.injEq]
  exact byteValues_inj h

inductive KeyDomain where
  | accessToken | refreshToken | console | runtimeHttp | socket | authority
  deriving DecidableEq

@[ext]
structure SignerJournalEpoch where
  value : UInt64
  positive : value ≠ 0

instance : DecidableEq SignerJournalEpoch := fun _ _ => decidable_of_iff' _ SignerJournalEpoch.ext_iff

def SignerJournalEpoch.get (epoch : SignerJournalEpoch) : Nat := epoch.value.toNat

structure SigningOperationId where
  bytes : Bytes 16
  nonzero : zeroBytes bytes = false

instance : LinearOrder SigningOperationId := LinearOrder.lift' (fun id => byteValues id.bytes) <| by
  rintro ⟨x, _⟩ ⟨y, _⟩ h
  simp only [SigningOperationId.mk.injEq]
  exact byteValues_inj h

structure SigningOperationHandle where
  journalEpoch : SignerJournalEpoch
  operationId : SigningOperationId
  deriving DecidableEq

structure SigningRequest where
  journalEpoch : SignerJournalEpoch
  operationId : SigningOperationId
  keyDomain : KeyDomain
  keyEpoch : UInt64
  payloadDigest : Digest
  deriving DecidableEq

structure SignerDispatchIdentity where
  request : SigningRequest
  providerIdentityDigest : Digest
  providerEndpointDigest : Digest
  attempt : UInt32
  deriving DecidableEq

structure SignerOutcomeEvidence where
  request : SigningRequest
  dispatch : SignerDispatchIdentity
  receiptDigest : Digest
  signature : Bytes 32
  signatureDigest : Digest
  providerEvidenceDigest : Digest

inductive SignerOutcomeVerificationError where
  | unauthenticated | bindingMismatch | signatureRejected | providerUnavailable

abbrev SignerOutcomeVerifier :=
  SignerOutcomeEvidence → Except SignerOutcomeVerificationError Unit

inductive SigningOperationState where
  | prepared
  | dispatched
  | indeterminate
  | confirmed (receiptDigest : Digest) (signature : Bytes 32)
      (signatureDigest providerEvidenceDigest : Digest)
  | rejected (reasonDigest : Digest)
  deriving DecidableEq

namespace SigningOperationState

def isTerminal : SigningOperationState → Bool
  | .confirmed .. | .rejected _ => true
  | .prepared | .dispatched | .indeterminate => false

def requiresDispatch : SigningOperationState → Bool
  | .dispatched | .indeterminate | .confirmed .. => true
  | .prepared | .rejected _ => false

end SigningOperationState

structure SigningOperationRecord where
  request : SigningRequest
  dispatch : Option SignerDispatchIdentity
  state : SigningOperationState

structure SigningOperationTombstone where
  request : SigningRequest
  dispatch : Option SignerDispatchIdentity
  state : SigningOperationState
  archiveDigest : Digest

structure SignerReceiptBinding where
  receiptDigest : Digest
  operationId : SigningOperationId

structure SignerJournalCheckpoint where
  sequence : Nat
  previousCheckpointDigest : Option Digest
  checkpointDigest : Digest
  retiredEpoch : SignerJournalEpoch
  activeEpoch : SignerJournalEpoch
  tombstones : List SigningOperationTombstone
  receiptBindings : List SignerReceiptBinding

structure SignerJournalArchiveVerifier where
  verifyCheckpoint : SignerJournalCheckpoint → Bool
  receiptIsAbsent : SignerJournalCheckpoint → Digest → Bool

inductive SignerJournalError where
  | zeroCapacity
  | capacityTooLarge (field : String) (received maximum : Nat)
  | invalidCapacityRelationship
  | zeroKeyEpoch
  | zeroDispatchAttempt
  | zeroDigest (field : String)
  | capacityExceeded (capacity : Nat)
  | epochCapacityExceeded (capacity : Nat)
  | epochMismatch (current received : SignerJournalEpoch)
  | epochNotAdvanced (current received : SignerJournalEpoch)
  | unknownOperation (id : SigningOperationId)
  | conflictingOperation (id : SigningOperationId)
  | dispatchMismatch (id : SigningOperationId)
  | alreadyDispatched (id : SigningOperationId)
  | notDispatched (id : SigningOperationId)
  | indeterminateRequiresReconciliation (id : SigningOperationId)
  | outcomeBindingMismatch (message : String)
  | outcomeVerificationFailed (error : SignerOutcomeVerificationError)
  | receiptMismatch (id : SigningOperationId)
  | receiptReused (receiptOwner receivedFor : SigningOperationId)
  | archivedReceiptReused (receivedFor : SigningOperationId)
  | archiveVerificationRequired
  | archiveVerificationFailed
  | terminal (id : SigningOperationId)
  | archiveRequiresTerminal (id : SigningOperationId)
  | archiveDigestMismatch (id : SigningOperationId)
  | activeRecordsPreventEpochAdvance
  | noTerminalOperations
  | checkpointVerificationFailed
  | checkpointInvalid (message : String)
  | checkpointSequenceExhausted
  | invariantViolation (message : String)

def requireNonzeroDigest (field : String) (digest : Digest) : Except SignerJournalError Unit :=
  require (zeroBytes digest.bytes = false) (.zeroDigest field)

namespace SigningRequest

def validate (request : SigningRequest) : Except SignerJournalError SigningRequest := do
  require (request.keyEpoch ≠ 0) .zeroKeyEpoch
  requireNonzeroDigest "payload_digest" request.payloadDigest
  return request

def handle (request : SigningRequest) : SigningOperationHandle :=
  ⟨request.journalEpoch, request.operationId⟩

end SigningRequest

namespace SignerDispatchIdentity

def validate (dispatch : SignerDispatchIdentity) :
    Except SignerJournalError SignerDispatchIdentity := do
  let _ ← dispatch.request.validate
  requireNonzeroDigest "provider_identity_digest" dispatch.providerIdentityDigest
  requireNonzeroDigest "provider_endpoint_digest" dispatch.providerEndpointDigest
  require (dispatch.attempt ≠ 0) .zeroDispatchAttempt
  return dispatch

def handle (dispatch : SignerDispatchIdentity) : SigningOperationHandle := dispatch.request.handle

end SignerDispatchIdentity

def SignerOutcomeEvidence.validate (evidence : SignerOutcomeEvidence) :
    Except SignerJournalError SignerOutcomeEvidence := do
  let _ ← evidence.request.validate
  let _ ← evidence.dispatch.validate
  require (evidence.dispatch.request = evidence.request)
    (.outcomeBindingMismatch "dispatch request differs from outcome request")
  requireNonzeroDigest "receipt_digest" evidence.receiptDigest
  requireNonzeroDigest "signature_digest" evidence.signatureDigest
  requireNonzeroDigest "provider_evidence_digest" evidence.providerEvidenceDigest
  return evidence

def stateDigestsNonzero : SigningOperationState → Bool
  | .confirmed receiptDigest _ signatureDigest providerEvidenceDigest =>
    !zeroBytes receiptDigest.bytes && !zeroBytes signatureDigest.bytes &&
      !zeroBytes providerEvidenceDigest.bytes
  | .rejected reasonDigest => !zeroBytes reasonDigest.bytes
  | .prepared | .dispatched | .indeterminate => true

def operationShapeValid (request : SigningRequest) (dispatch : Option SignerDispatchIdentity)
    (state : SigningOperationState) : Bool :=
  request.validate.isOk &&
    dispatch.all (fun value => value.validate.isOk && value.request = request) &&
    state.requiresDispatch == dispatch.isSome && stateDigestsNonzero state

def recordShapeValid (record : SigningOperationRecord) : Bool :=
  operationShapeValid record.request record.dispatch record.state

abbrev ReceiptOwners := Dict Digest SigningOperationId

def collectReceipt (receipts : ReceiptOwners) (request : SigningRequest)
    (state : SigningOperationState) : Except SignerJournalError ReceiptOwners :=
  match state with
  | .confirmed receiptDigest _ _ _ => do
    require (receiptDigest ∉ receipts) (.invariantViolation "provider receipt has multiple owners")
    return receipts.insert receiptDigest request.operationId
  | .prepared | .dispatched | .indeterminate | .rejected _ => .ok receipts

def checkPredecessor (sequence : Nat) (previousCheckpointDigest : Option Digest) :
    Except SignerJournalError Unit :=
  if sequence = 1 then
    match previousCheckpointDigest with
    | none => .ok ()
    | some _ => .error (.checkpointInvalid "first checkpoint must not name a predecessor")
  else
    match previousCheckpointDigest with
    | none => .error (.checkpointInvalid "successor checkpoint requires a predecessor")
    | some previous => requireNonzeroDigest "previous_checkpoint_digest" previous

structure SeenTombstones where
  tombstones : Finset SigningOperationId
  expectedReceipts : ReceiptOwners

def checkTombstone (retiredEpoch : SignerJournalEpoch) (seen : SeenTombstones)
    (tombstone : SigningOperationTombstone) : Except SignerJournalError SeenTombstones := do
  require (tombstone.request.journalEpoch = retiredEpoch ∧ tombstone.state.isTerminal = true ∧
      zeroBytes tombstone.archiveDigest.bytes = false ∧
      operationShapeValid tombstone.request tombstone.dispatch tombstone.state = true ∧
      tombstone.request.operationId ∉ seen.tombstones)
    (.checkpointInvalid "malformed or duplicate tombstone")
  let expectedReceipts ←
    collectReceipt seen.expectedReceipts tombstone.request tombstone.state
  return ⟨insert tombstone.request.operationId seen.tombstones, expectedReceipts⟩

def checkBinding (actualReceipts : ReceiptOwners) (binding : SignerReceiptBinding) :
    Except SignerJournalError ReceiptOwners := do
  requireNonzeroDigest "receipt_digest" binding.receiptDigest
  require (binding.receiptDigest ∉ actualReceipts) (.checkpointInvalid "duplicate receipt binding")
  return actualReceipts.insert binding.receiptDigest binding.operationId

namespace SignerJournalCheckpoint

def validateShape (checkpoint : SignerJournalCheckpoint) (epochCapacity : Nat) :
    Except SignerJournalError Unit := do
  require (checkpoint.sequence ≠ 0) (.checkpointInvalid "zero checkpoint sequence")
  checkPredecessor checkpoint.sequence checkpoint.previousCheckpointDigest
  require (checkpoint.sequence = checkpoint.retiredEpoch.get)
    (.checkpointInvalid "checkpoint sequence does not match retired epoch")
  requireNonzeroDigest "checkpoint_digest" checkpoint.checkpointDigest
  let expectedEpoch ← fetch (fits 64 (checkpoint.retiredEpoch.get + 1))
    (.checkpointInvalid "retired epoch overflow")
  require (checkpoint.activeEpoch.get = expectedEpoch)
    (.checkpointInvalid "active epoch is not the next epoch")
  require (checkpoint.tombstones ≠ []) .noTerminalOperations
  require (checkpoint.tombstones.length ≤ epochCapacity)
    (.checkpointInvalid "tombstones exceed epoch capacity")
  let seen ← checkpoint.tombstones.foldlM (checkTombstone checkpoint.retiredEpoch) ⟨∅, ∅⟩
  let actualReceipts ← checkpoint.receiptBindings.foldlM checkBinding ∅
  require (actualReceipts = seen.expectedReceipts)
    (.checkpointInvalid "receipt bindings do not match confirmed tombstones")

end SignerJournalCheckpoint

def validateJournalCapacity (field : String) (received : Nat) : Except SignerJournalError Unit := do
  require (received ≠ 0) .zeroCapacity
  require (received ≤ maxSignerJournalCapacity)
    (.capacityTooLarge field received maxSignerJournalCapacity)

def validateCapacities (activeCapacity epochCapacity : Nat) : Except SignerJournalError Unit := do
  validateJournalCapacity "active_capacity" activeCapacity
  validateJournalCapacity "epoch_capacity" epochCapacity
  require (activeCapacity ≤ epochCapacity) .invalidCapacityRelationship

structure SignerJournal where
  activeCapacity : Nat
  epochCapacity : Nat
  epoch : SignerJournalEpoch
  records : Dict SigningOperationId SigningOperationRecord
  tombstones : Dict SigningOperationId SigningOperationTombstone
  receiptOwners : ReceiptOwners
  checkpoint : Option SignerJournalCheckpoint
  nextCheckpointSequence : Nat

namespace SignerJournal

variable (j : SignerJournal)

variable (operationId : SigningOperationId)

def recordWellFormed (record : SigningOperationRecord) : Bool :=
  record.request.operationId = operationId ∧ record.request.journalEpoch = j.epoch ∧
    operationId ∉ j.tombstones ∧ recordShapeValid record = true

def tombstoneWellFormed (tombstone : SigningOperationTombstone) :
    Bool :=
  tombstone.request.operationId = operationId ∧ tombstone.request.journalEpoch = j.epoch ∧
    tombstone.state.isTerminal = true ∧ zeroBytes tombstone.archiveDigest.bytes = false ∧
    operationShapeValid tombstone.request tombstone.dispatch tombstone.state = true

def verifyCheckpoint : Except SignerJournalError Unit :=
  match j.checkpoint with
  | some checkpoint => do
    require (checkpoint.activeEpoch = j.epoch)
      (.invariantViolation "checkpoint does not bind active epoch")
    checkpoint.validateShape j.epochCapacity
  | none => .ok ()

def verifyInvariants : Except SignerJournalError Unit := do
  require (j.records.keys.card ≤ j.activeCapacity)
    (.invariantViolation "active records exceed capacity")
  let epochOccupancy ← fetch (fits 64 (j.records.keys.card + j.tombstones.keys.card))
    (.invariantViolation "epoch occupancy overflow")
  require (epochOccupancy ≤ j.epochCapacity)
    (.invariantViolation "epoch occupancy exceeds terminal capacity")
  require (∀ item ∈ items j.records, j.recordWellFormed item.1 item.2 = true)
    (.invariantViolation "active operation identity or state is malformed")
  require (∀ item ∈ items j.tombstones, j.tombstoneWellFormed item.1 item.2 = true)
    (.invariantViolation "terminal tombstone is malformed")
  let expectedReceipts ← (items j.records).foldlM
    (fun receipts item => collectReceipt receipts item.2.request item.2.state) ∅
  let expectedReceipts ← (items j.tombstones).foldlM
    (fun receipts item => collectReceipt receipts item.2.request item.2.state) expectedReceipts
  require (expectedReceipts = j.receiptOwners)
    (.invariantViolation "receipt ownership differs from terminal state")
  j.verifyCheckpoint

def withLimits (activeCapacity epochCapacity : Nat) : Except SignerJournalError SignerJournal := do
  validateCapacities activeCapacity epochCapacity
  return ⟨activeCapacity, epochCapacity, ⟨1, one_positive⟩, ∅, ∅, ∅, none, 1⟩

def fromCheckpoint (activeCapacity epochCapacity : Nat) (checkpoint : SignerJournalCheckpoint)
    (verifier : SignerJournalArchiveVerifier) : Except SignerJournalError SignerJournal := do
  validateCapacities activeCapacity epochCapacity
  checkpoint.validateShape epochCapacity
  require (verifier.verifyCheckpoint checkpoint = true) .checkpointVerificationFailed
  let nextCheckpointSequence ← fetch (fits 64 (checkpoint.sequence + 1)) .checkpointSequenceExhausted
  let value : SignerJournal := ⟨activeCapacity, epochCapacity, checkpoint.activeEpoch, ∅, ∅, ∅,
    some checkpoint, nextCheckpointSequence⟩
  value.verifyInvariants
  return value

def requireEpoch (received : SignerJournalEpoch) : Except SignerJournalError Unit :=
  require (received = j.epoch) (.epochMismatch j.epoch received)

variable (handle : SigningOperationHandle)

def requireOperation :
    Except SignerJournalError SigningOperationRecord := do
  j.requireEpoch handle.journalEpoch
  fetch (j.records.lookup handle.operationId) (.unknownOperation handle.operationId)

def requireNextEpoch (received : SignerJournalEpoch) : Except SignerJournalError Unit := do
  let expected ← fetch (fits 64 (j.epoch.get + 1)) (.epochNotAdvanced j.epoch received)
  require (received.get = expected) (.epochNotAdvanced j.epoch received)

def settle {α : Type} (j : SignerJournal)
    (written : Except SignerJournalError (α × Option SignerJournal)) :
    Except SignerJournalError α × SignerJournal :=
  match written with
  | .error error => (.error error, j)
  | .ok (reply, none) => (.ok reply, j)
  | .ok (reply, some next) => (next.verifyInvariants.map fun _ => reply, next)

def admitRequest (request : SigningRequest) :
    Except SignerJournalError (SigningOperationRecord × Option SignerJournal) := do
  let epochOccupancy ← fetch (fits 64 (j.records.keys.card + j.tombstones.keys.card))
    (.invariantViolation "epoch occupancy overflow")
  require (epochOccupancy < j.epochCapacity) (.epochCapacityExceeded j.epochCapacity)
  require (j.records.keys.card < j.activeCapacity) (.capacityExceeded j.activeCapacity)
  let record : SigningOperationRecord := ⟨request, none, .prepared⟩
  return (record, some { j with records := j.records.insert request.operationId record })

def prepare (request : SigningRequest) :
    Except SignerJournalError SigningOperationRecord × SignerJournal :=
  j.settle do
    j.verifyInvariants
    let request ← request.validate
    j.requireEpoch request.journalEpoch
    match j.records.lookup request.operationId, j.tombstones.lookup request.operationId with
    | some existing, _ =>
      require (existing.request = request) (.conflictingOperation request.operationId)
      return (existing, none)
    | none, some existing =>
      .error (if existing.request = request then .terminal request.operationId
        else .conflictingOperation request.operationId)
    | none, none => j.admitRequest request

def dispatch (j : SignerJournal) (dispatch : SignerDispatchIdentity) :
    Except SignerJournalError SigningOperationRecord × SignerJournal :=
  j.settle do
    let dispatch ← dispatch.validate
    let operationId := dispatch.handle.operationId
    let current ← j.requireOperation dispatch.handle
    require (current.request = dispatch.request) (.dispatchMismatch operationId)
    match current.state with
    | .prepared =>
      let next : SigningOperationRecord := ⟨current.request, some dispatch, .dispatched⟩
      return (next, some { j with records := j.records.insert operationId next })
    | .dispatched => .error (.alreadyDispatched operationId)
    | .indeterminate => .error (.indeterminateRequiresReconciliation operationId)
    | .confirmed .. | .rejected _ => .error (.terminal operationId)

def markTransportLost :
    Except SignerJournalError SigningOperationRecord × SignerJournal :=
  j.settle do
    let current ← j.requireOperation handle
    match current.state with
    | .dispatched =>
      let next := { current with state := .indeterminate }
      return (next, some { j with records := j.records.insert handle.operationId next })
    | .indeterminate => return (current, none)
    | .prepared => .error (.notDispatched handle.operationId)
    | .confirmed .. | .rejected _ => .error (.terminal handle.operationId)

def requireDispatched :
    SigningOperationState → Except SignerJournalError Unit
  | .prepared => .error (.notDispatched operationId)
  | .rejected _ => .error (.terminal operationId)
  | .dispatched | .indeterminate | .confirmed .. => .ok ()

variable (evidence : SignerOutcomeEvidence)

def requireUnbound (archiveVerifier : Option SignerJournalArchiveVerifier) :
    Except SignerJournalError Unit :=
  match j.receiptOwners.lookup evidence.receiptDigest, j.checkpoint with
  | some receiptOwner, _ =>
    require (receiptOwner = evidence.request.operationId)
      (.receiptReused receiptOwner evidence.request.operationId)
  | none, some checkpoint => do
    let verifier ← fetch archiveVerifier .archiveVerificationRequired
    require (verifier.verifyCheckpoint checkpoint = true) .archiveVerificationFailed
    require (verifier.receiptIsAbsent checkpoint evidence.receiptDigest = true)
      (.archivedReceiptReused evidence.request.operationId)
  | none, none => .ok ()

def reconcileInner (verifier : SignerOutcomeVerifier)
    (archiveVerifier : Option SignerJournalArchiveVerifier) :
    Except SignerJournalError SigningOperationRecord × SignerJournal :=
  j.settle do
    let evidence ← evidence.validate
    let operationId := evidence.request.operationId
    j.requireEpoch evidence.request.journalEpoch
    let current ← j.requireOperation evidence.request.handle
    require (current.request = evidence.request) (.conflictingOperation operationId)
    require (current.dispatch = some evidence.dispatch) (.dispatchMismatch operationId)
    requireDispatched operationId current.state
    (verifier evidence).mapError .outcomeVerificationFailed
    let confirmed : SigningOperationState := .confirmed evidence.receiptDigest evidence.signature
      evidence.signatureDigest evidence.providerEvidenceDigest
    match current.state with
    | .confirmed .. =>
      require (current.state = confirmed) (.receiptMismatch operationId)
      return (current, none)
    | .prepared | .dispatched | .indeterminate | .rejected _ =>
      j.requireUnbound evidence archiveVerifier
      let next := { current with state := confirmed }
      return (next, some { j with
        records := j.records.insert operationId next
        receiptOwners := j.receiptOwners.insert evidence.receiptDigest operationId })

def reconcile (verifier : SignerOutcomeVerifier) :
    Except SignerJournalError SigningOperationRecord × SignerJournal :=
  j.reconcileInner evidence verifier none

def reconcileWithArchiveVerifier (outcomeVerifier : SignerOutcomeVerifier)
    (archiveVerifier : SignerJournalArchiveVerifier) :
    Except SignerJournalError SigningOperationRecord × SignerJournal :=
  j.reconcileInner evidence outcomeVerifier (some archiveVerifier)

def rejectBeforeDispatch (reasonDigest : Digest) :
    Except SignerJournalError SigningOperationRecord × SignerJournal :=
  j.settle do
    requireNonzeroDigest "reason_digest" reasonDigest
    let current ← j.requireOperation handle
    match current.state with
    | .prepared =>
      let next := { current with state := .rejected reasonDigest }
      return (next, some { j with records := j.records.insert handle.operationId next })
    | .dispatched | .indeterminate =>
      .error (.indeterminateRequiresReconciliation handle.operationId)
    | .confirmed .. | .rejected _ => .error (.terminal handle.operationId)

def archiveTerminal (archiveDigest : Digest) :
    Except SignerJournalError SigningOperationTombstone × SignerJournal :=
  j.settle do
    j.requireEpoch handle.journalEpoch
    requireNonzeroDigest "archive_digest" archiveDigest
    match j.tombstones.lookup handle.operationId with
    | some existing =>
      require (existing.archiveDigest = archiveDigest) (.archiveDigestMismatch handle.operationId)
      return (existing, none)
    | none =>
      let current ← j.requireOperation handle
      require (current.state.isTerminal = true) (.archiveRequiresTerminal handle.operationId)
      require (j.tombstones.keys.card < j.epochCapacity)
        (.invariantViolation "reserved tombstone capacity was lost")
      let tombstone : SigningOperationTombstone :=
        ⟨current.request, current.dispatch, current.state, archiveDigest⟩
      return (tombstone, some { j with
        records := j.records.erase handle.operationId
        tombstones := j.tombstones.insert handle.operationId tombstone })

def proposeCheckpoint (nextEpoch : SignerJournalEpoch) (checkpointDigest : Digest) :
    Except SignerJournalError SignerJournalCheckpoint := do
  j.verifyInvariants
  require (j.records.keys = ∅) .activeRecordsPreventEpochAdvance
  require (j.tombstones.keys ≠ ∅) .noTerminalOperations
  j.requireNextEpoch nextEpoch
  requireNonzeroDigest "checkpoint_digest" checkpointDigest
  let checkpoint : SignerJournalCheckpoint :=
    { sequence := j.nextCheckpointSequence
      previousCheckpointDigest := j.checkpoint.map (·.checkpointDigest)
      checkpointDigest
      retiredEpoch := j.epoch
      activeEpoch := nextEpoch
      tombstones := (items j.tombstones).map (·.2)
      receiptBindings := (items j.receiptOwners).map fun item => ⟨item.1, item.2⟩ }
  checkpoint.validateShape j.epochCapacity
  return checkpoint

def advanceEpoch (nextEpoch : SignerJournalEpoch) (checkpointDigest : Digest)
    (verifier : SignerJournalArchiveVerifier) :
    Except SignerJournalError SignerJournalCheckpoint × SignerJournal :=
  j.settle do
    let checkpoint ← j.proposeCheckpoint nextEpoch checkpointDigest
    require (verifier.verifyCheckpoint checkpoint = true) .checkpointVerificationFailed
    let nextSequence ← fetch (fits 64 (j.nextCheckpointSequence + 1)) .checkpointSequenceExhausted
    return (checkpoint, some { j with
      epoch := nextEpoch
      records := ∅
      tombstones := ∅
      receiptOwners := ∅
      checkpoint := some checkpoint
      nextCheckpointSequence := nextSequence })

end SignerJournal

end Token
