import TrillionniumGame.Foundation.Runs
import TrillionniumGame.Runtime.WorldCommand.Store

namespace WorldCommand
open Checks FiniteMap GoText Runs WorldTransition

section
variable {Value : Type} {platform : Platform Value} {s : Store}

theorem liftError_ok {ε α : Type} {wrap : ε → StoreError} {x : Except ε α} {a : α} :
    liftError wrap x = .ok a ↔ x = .ok a := by
  cases x <;> simp [liftError, Except.mapError]

variable {now : Time} {u : Unit}

theorem requireTime_ok {text : String} :
    requireTime now text = .ok u ↔ now.isZero = false ∧ 0 ≤ now.unix :=
  require_ok

structure Fresh (platform : Platform Value) (s : Store) (request : PrepareRequest Value)
    (commandCanonical : GoString) (stateValue : Value) (prepared : PreparedTransition) : Prop where
  identity : Store.validateRequestIdentity request = .ok ()
  command : platform.codec.encodeCanonical request.command = .ok commandCanonical
  receipt : s.receipts.lookup request.clientCommandID = none
  reservation : s.reservations.lookup request.clientCommandID = none
  fence : s.validateCurrentFence request = .ok ()
  state : platform.codec.decodeCanonical s.state.stateCanonicalJSON (2 * 1024 * 1024) =
    .ok stateValue
  prepared : platform.codec.prepare request.context s.state.stateSchemaID stateValue
    request.commandSchemaID request.command = .ok prepared

variable {request : PrepareRequest Value}

theorem prepare_ok {plan : Plan PrepareResult} (h : s.prepare platform request now = .ok plan) :
    (now.isZero = false ∧ 0 ≤ now.unix) ∧ ∃ commandCanonical,
      platform.codec.encodeCanonical request.command = .ok commandCanonical ∧
      ((∃ receipt, s.receipts.lookup request.clientCommandID = some receipt ∧
          receipt.intentFingerprint = intentFingerprint platform request commandCanonical ∧
          plan = .done ⟨none, some receipt⟩) ∨
        (∃ existing, s.receipts.lookup request.clientCommandID = none ∧
          s.reservations.lookup request.clientCommandID = some existing ∧
          existing.intentFingerprint = intentFingerprint platform request commandCanonical ∧
          plan = .done ⟨some existing, none⟩) ∨
        ∃ stateValue prepared, Fresh platform s request commandCanonical stateValue prepared ∧
          plan = .write
            (s.putReservation (s.newReservation platform request commandCanonical prepared now))
            (.ok ⟨some (s.newReservation platform request commandCanonical prepared now),
              none⟩)) := by
  simp only [Store.prepare, bind_ok, requireTime_ok, liftError_ok] at h
  obtain ⟨_, hnow, _, hidentity, commandCanonical, hcommand, h⟩ := h
  refine ⟨hnow, commandCanonical, hcommand, ?_⟩
  cases hreceipt : s.receipts.lookup request.clientCommandID with
  | some receipt =>
    simp only [hreceipt, bind_ok, require_ok] at h
    obtain ⟨_, hfingerprint, h⟩ := h
    cases h
    exact .inl ⟨receipt, rfl, hfingerprint, rfl⟩
  | none =>
    cases hreservation : s.reservations.lookup request.clientCommandID with
    | some existing =>
      simp only [hreceipt, hreservation, bind_ok, require_ok] at h
      obtain ⟨_, hfingerprint, h⟩ := h
      cases h
      exact .inr (.inl ⟨existing, rfl, rfl, hfingerprint, rfl⟩)
    | none =>
      simp only [hreceipt, hreservation, Store.prepareFresh, bind_ok, liftError_ok] at h
      obtain ⟨_, hfence, stateValue, hstate, prepared, hprepared, h⟩ := h
      cases h
      exact .inr (.inr ⟨stateValue, prepared,
        ⟨hidentity, hcommand, hreceipt, hreservation, hfence, hstate, hprepared⟩, rfl⟩)

variable {stateValue : Value}

theorem prepare_fresh {commandCanonical : GoString} {prepared : PreparedTransition}
    (h : Fresh platform s request commandCanonical stateValue prepared)
    (hnow : now.isZero = false ∧ 0 ≤ now.unix) :
    s.prepare platform request now = .ok (.write
      (s.putReservation (s.newReservation platform request commandCanonical prepared now))
      (.ok ⟨some (s.newReservation platform request commandCanonical prepared now), none⟩)) := by
  simp only [Store.prepare, bind_ok, requireTime_ok, liftError_ok]
  refine ⟨(), hnow, (), h.identity, commandCanonical, h.command, ?_⟩
  simp only [h.receipt, h.reservation, Store.prepareFresh, bind_ok, liftError_ok]
  exact ⟨(), h.fence, stateValue, h.state, prepared, h.prepared, rfl⟩

structure Holds (s : Store) (input current : Reservation) : Prop where
  lookup : s.reservations.lookup input.clientCommandID = some current
  generation : current.generation = input.generation
  reservationID : current.reservationID = input.reservationID
  stateToken : current.stateToken = input.stateToken
  intentFingerprint : current.intentFingerprint = input.intentFingerprint
  pending : current.status = reservationPending

variable {current : Reservation}

theorem requireReservation_ok {input : Reservation} :
    s.requireReservation input = .ok current ↔ Holds s input current := by
  unfold Store.requireReservation
  cases hl : s.reservations.lookup input.clientCommandID with
  | none =>
    constructor
    · intro h
      cases hr : s.receipts.lookup input.clientCommandID with
      | none => simp [hr] at h
      | some receipt =>
        simp only [hr] at h
        split at h <;> cases h
    · rintro ⟨hlookup, _⟩
      simp [hl] at hlookup
  | some found =>
    simp only [bind_ok, require_ok]
    constructor
    · rintro ⟨_, ⟨hg, hid, ht, hf, hs⟩, h⟩
      cases h
      exact ⟨hl, hg, hid, ht, hf, hs⟩
    · rintro ⟨hlookup, hg, hid, ht, hf, hs⟩
      cases hl.symm.trans hlookup
      exact ⟨(), ⟨hg, hid, ht, hf, hs⟩, rfl⟩

def begun (current : Reservation) (now : Time) : Reservation :=
  { current with
    attempts := current.attempts ++ [⟨current.attempts.length + 1, now.unix, none, [], [], false⟩]
    updatedAtUnix := now.unix }

variable {reservation : Reservation} {plan : Plan Reservation}

theorem beginAttempt_ok (h : s.beginAttempt reservation now = .ok plan) :
    (now.isZero = false ∧ 0 ≤ now.unix) ∧ ∃ current, Holds s reservation current ∧
      plan = .write (s.putReservation (begun current now)) (.ok (begun current now)) := by
  simp only [Store.beginAttempt, bind_ok, requireTime_ok, requireReservation_ok] at h
  obtain ⟨_, hnow, current, hcurrent, h⟩ := h
  cases h
  exact ⟨hnow, current, hcurrent, rfl⟩

def Attempt.fail (attempt : Attempt) (failure : ExecutionError) (now : Time) : Attempt :=
  { attempt with
    finishedAtUnix := some now.unix
    failureKind := failure.kind
    retryable := failure.retryable
    detail := boundedDetail failure.error }

def failed (current : Reservation) (attempts : List Attempt) (index : Nat)
    (failure : ExecutionError) (now : Time) : Reservation :=
  { current with
    attempts := attempts.modify index fun attempt => attempt.fail failure now
    updatedAtUnix := now.unix }

theorem findOpenAttempt_ok {attempts : List Attempt} {number index : Nat}
    (h : findOpenAttempt attempts number = .ok index) :
    ∃ attempt, attempts[index]? = some attempt ∧ attempt.number = number ∧
      attempt.finishedAtUnix = none := by
  simp only [findOpenAttempt, bind_ok, require_ok, fetch_ok] at h
  obtain ⟨_, _, _, hfound, _, hopen, h⟩ := h
  cases h
  obtain ⟨hlt, hnumber, _⟩ := List.findIdx?_eq_some_iff_getElem.mp hfound
  refine ⟨attempts[index], List.getElem?_eq_getElem hlt, by simpa using hnumber, ?_⟩
  simpa [List.getElem?_eq_getElem hlt] using hopen

theorem recordFailure_ok {failure : Option ExecutionError} {plan : Plan Unit}
    (h : s.recordFailure reservation failure now = .ok plan) :
    (now.isZero = false ∧ 0 ≤ now.unix) ∧ ∃ failure' current number attempts index,
      failure = some failure' ∧ Holds s reservation current ∧
      Store.ensureAttempt current (latestAttemptNumber reservation) now = (number, attempts) ∧
      findOpenAttempt attempts number = .ok index ∧
      plan = .write (s.putReservation (failed current attempts index failure' now)) (.ok ()) := by
  simp only [Store.recordFailure, bind_ok, requireTime_ok, requireReservation_ok, fetch_ok] at h
  obtain ⟨_, hnow, failure', hfailure, current, hcurrent, index, hindex, h⟩ := h
  cases h
  exact ⟨hnow, failure', current, _, _, index, hfailure, hcurrent, rfl, hindex, rfl⟩

variable {verified : VerifiedTransition}

theorem validateVerified_ok :
    validateVerifiedAgainstReservation verified current = .ok u ↔
      (verified.requestHash = current.transition.requestHash ∧
        verified.transitionID = current.transition.transitionID) ∧
      ∀ hash ∈ verified.previousStateHash, hash = current.transition.previousStateHash := by
  simp [validateVerifiedAgainstReservation, bind_ok, require_ok]

def committedReservation (current reservation : Reservation) (verified : VerifiedTransition)
    (now : Time) : Reservation :=
  finishCommittedAttempts current (latestAttemptNumber reservation) verified.disposition now

def acceptedReceipt (receipt : Receipt) (state next : MatchState) : Receipt :=
  { receipt with
    eventSequence := some state.nextGlobalEventSequence
    matchVersion := next.matchVersion
    stateRevision := next.stateRevision
    stateHash := next.stateHash
    tick := next.tick }

variable {receipt : Receipt} {state : MatchState}

theorem applyVerified_ok {receipt' : Receipt}
    (h : s.applyVerified platform current verified receipt = .ok (receipt', state)) :
    (verified.disposition = dispositionAccepted ∧ ∃ nextTick nextStateHash stateValue,
      verified.nextTick = some nextTick ∧ verified.nextStateHash = some nextStateHash ∧
      verified.nextStateCanonicalJSON ≠ [] ∧ verified.nextStateSchemaID ≠ [] ∧
      s.state.tick ≤ nextTick ∧
      hashBytes platform verified.nextStateCanonicalJSON = nextStateHash ∧
      platform.codec.decodeCanonical verified.nextStateCanonicalJSON (2 * 1024 * 1024) =
        .ok stateValue ∧
      state = Store.acceptedState s.state current verified nextTick nextStateHash ∧
      receipt' = acceptedReceipt receipt s.state state) ∨
    (verified.disposition ≠ dispositionAccepted ∧ verified.disposition = dispositionRejected ∧
      verified.retryable = some false ∧ verified.errorCode.isSome ∧
      state = s.state ∧ receipt' = receipt) := by
  unfold Store.applyVerified at h
  split at h
  · next haccepted =>
    split at h
    · next nextTick nextStateHash htick hhash =>
      simp only [bind_ok, require_ok, liftError_ok] at h
      obtain ⟨_, ⟨hjson, hschema⟩, _, hle, _, hsha, stateValue, hvalue, h⟩ := h
      cases h
      exact .inl ⟨haccepted, nextTick, nextStateHash, stateValue, htick, hhash, hjson, hschema,
        hle, hsha, hvalue, rfl, rfl⟩
    · cases h
  · next haccepted =>
    split at h
    · next hrejected =>
      split at h
      · next retryable errorCode hretryable herror =>
        simp only [bind_ok, require_ok] at h
        obtain ⟨_, rfl, h⟩ := h
        cases h
        exact .inr ⟨haccepted, hrejected, hretryable, by simp [herror], rfl, rfl⟩
      · cases h
    · cases h

theorem commitWith_ok {plan : Plan Receipt}
    (h : s.commitWith platform reservation verified now = .ok plan) :
    (now.isZero = false ∧ 0 ≤ now.unix) ∧
    ((∃ receipt, s.receipts.lookup reservation.clientCommandID = some receipt ∧
        receipt.intentFingerprint = reservation.intentFingerprint ∧ plan = .done receipt) ∨
      ∃ current, s.receipts.lookup reservation.clientCommandID = none ∧
        Holds s reservation current ∧
        validateVerifiedAgainstReservation verified current = .ok () ∧
        ((s.fenceMatches current = false ∧ plan = .write
            (s.retireDocument current failureStale
              (str "stale authority or deterministic state") now)
            (.error errStaleReservation)) ∨
          ∃ receipt state, s.fenceMatches current = true ∧
            s.applyVerified platform (committedReservation current reservation verified now)
              verified (s.newReceipt (committedReservation current reservation verified now)
                verified now) = .ok (receipt, state) ∧
            plan = .commit
              { s.cloneDocument with
                state
                reservations := s.reservations.erase
                  (committedReservation current reservation verified now).clientCommandID
                receipts := s.receipts.insert
                  (committedReservation current reservation verified now).clientCommandID receipt }
              receipt)) := by
  simp only [Store.commitWith, bind_ok, requireTime_ok] at h
  obtain ⟨_, hnow, h⟩ := h
  refine ⟨hnow, ?_⟩
  cases hreceipt : s.receipts.lookup reservation.clientCommandID with
  | some receipt =>
    simp only [hreceipt, bind_ok, require_ok] at h
    obtain ⟨_, hfingerprint, h⟩ := h
    cases h
    exact .inl ⟨receipt, rfl, hfingerprint, rfl⟩
  | none =>
    simp only [hreceipt, bind_ok, requireReservation_ok] at h
    obtain ⟨current, hcurrent, _, hverified, h⟩ := h
    refine .inr ⟨current, rfl, hcurrent, hverified, ?_⟩
    split at h
    · next hstale =>
      cases h
      exact .inl ⟨hstale, rfl⟩
    · next hmatch =>
      simp only [bind_ok, Prod.exists] at h
      obtain ⟨receipt, state, happly, h⟩ := h
      cases h
      exact .inr ⟨receipt, state, by simpa using hmatch, happly, rfl⟩

theorem commitWith_fenced (hnow : now.isZero = false ∧ 0 ≤ now.unix)
    (hreceipt : s.receipts.lookup reservation.clientCommandID = none)
    (hcurrent : Holds s reservation current)
    (hverified : validateVerifiedAgainstReservation verified current = .ok ())
    (hmatch : s.fenceMatches current = true)
    (happly : s.applyVerified platform (committedReservation current reservation verified now)
      verified (s.newReceipt (committedReservation current reservation verified now) verified now) =
        .ok (receipt, state)) :
    s.commitWith platform reservation verified now = .ok (.commit
      { s.cloneDocument with
        state
        reservations := s.reservations.erase
          (committedReservation current reservation verified now).clientCommandID
        receipts := s.receipts.insert
          (committedReservation current reservation verified now).clientCommandID receipt }
      receipt) := by
  simp only [Store.commitWith, bind_ok, requireTime_ok, hreceipt, requireReservation_ok]
  refine ⟨(), hnow, current, hcurrent, (), hverified, ?_⟩
  rw [if_neg (by simp [hmatch])]
  exact bind_ok.mpr ⟨(receipt, state), happly, rfl⟩

theorem applyVerified_accepted {nextTick : Int64} {nextStateHash : GoString}
    (haccepted : verified.disposition = dispositionAccepted)
    (htick : verified.nextTick = some nextTick)
    (hhash : verified.nextStateHash = some nextStateHash)
    (hjson : verified.nextStateCanonicalJSON ≠ []) (hschema : verified.nextStateSchemaID ≠ [])
    (hle : s.state.tick ≤ nextTick)
    (hsha : hashBytes platform verified.nextStateCanonicalJSON = nextStateHash)
    (hvalue : platform.codec.decodeCanonical verified.nextStateCanonicalJSON (2 * 1024 * 1024) =
      .ok stateValue) :
    s.applyVerified platform current verified receipt =
      .ok (acceptedReceipt receipt s.state
          (Store.acceptedState s.state current verified nextTick nextStateHash),
        Store.acceptedState s.state current verified nextTick nextStateHash) := by
  unfold Store.applyVerified
  rw [if_pos haccepted, htick, hhash]
  simp only [bind_ok, require_ok, liftError_ok]
  exact ⟨(), ⟨hjson, hschema⟩, (), hle, (), hsha, stateValue, hvalue, rfl⟩

def takenOver (current : Reservation) (reason : GoString) (now : Time) : Reservation :=
  Store.retiredReservation current failureSuperseded
    (str "superseded by reservation generation takeover") (str "generation takeover: " ++ reason)
    now

def successor (platform : Platform Value) (current : Reservation) (now : Time) : Reservation :=
  Store.stamp platform
    { current with
      generation := current.generation + 1
      attempts := []
      createdAtUnix := now.unix
      updatedAtUnix := now.unix }

variable {clientCommandID reason : GoString} {generation : Nat}

theorem takeover_ok (h : s.takeover platform clientCommandID generation reason now = .ok plan) :
    (now.isZero = false ∧ 0 ≤ now.unix) ∧ blank reason = false ∧ ∃ current,
      s.reservations.lookup clientCommandID = some current ∧ current.generation = generation ∧
      current.status = reservationPending ∧
      plan = .write
        { s.cloneDocument with
          reservations := s.reservations.insert clientCommandID (successor platform current now)
          retired := s.retired.insert clientCommandID
            (s.retiredGenerations clientCommandID ++ [takenOver current reason now]) }
        (.ok (successor platform current now)) := by
  simp only [Store.takeover, bind_ok, requireTime_ok, require_ok, fetch_ok] at h
  obtain ⟨_, hnow, _, hreason, current, hcurrent, _, ⟨hgeneration, hstatus⟩, h⟩ := h
  cases h
  exact ⟨hnow, hreason, current, hcurrent, hgeneration, hstatus, rfl⟩

theorem abort_ok {plan : Plan Unit} (h : s.abort clientCommandID generation reason now = .ok plan) :
    (now.isZero = false ∧ 0 ≤ now.unix) ∧ blank reason = false ∧ ∃ current,
      s.reservations.lookup clientCommandID = some current ∧ current.generation = generation ∧
      current.status = reservationPending ∧
      plan = .write
        (s.retireDocument current failureOperatorAbort
          (str "operator abort: " ++ boundedDetail reason) now)
        (.ok ()) := by
  simp only [Store.abort, bind_ok, requireTime_ok, require_ok, fetch_ok] at h
  obtain ⟨_, hnow, _, hreason, current, hcurrent, _, ⟨hgeneration, hstatus⟩, h⟩ := h
  cases h
  exact ⟨hnow, hreason, current, hcurrent, hgeneration, hstatus, rfl⟩

end

section
inductive ContextError where
  | canceled
  | deadlineExceeded
  deriving DecidableEq

def ContextError.text : ContextError → GoString
  | .canceled => str "context canceled"
  | .deadlineExceeded => str "context deadline exceeded"

structure ExecutorError where
  classified : Option ExecutionError
  canceled : Bool
  deadlineExceeded : Bool
  text : GoString

def classifyExecutionError (ctx : Option ContextError) (err : ExecutorError) : ExecutionError :=
  match err.classified with
  | some classified =>
    if classified.err = none then { classified with err := some err.text } else classified
  | none =>
    if err.canceled ∨ ctx = some .canceled then ⟨failureCancelled, true, some err.text⟩
    else if err.deadlineExceeded ∨ ctx = some .deadlineExceeded then
      ⟨failureAmbiguousCommit, true, some err.text⟩
    else ⟨failureTransport, true, some err.text⟩

inductive ExecuteError where
  | store (error : StoreError)
  | execution (failure : ExecutionError) (recordErr : Option StoreError)

structure AttemptKey where
  clientCommandID : GoString
  generation : Nat
  number : Nat
  deriving DecidableEq

def attemptKey (reservation : Reservation) : AttemptKey :=
  ⟨reservation.clientCommandID, reservation.generation, latestAttemptNumber reservation⟩

inductive Stage (Value : Type) where
  | ready (request : PrepareRequest Value)
  | prepared (reservation : Reservation)
  | cancelled (reservation : Reservation) (failure : ExecutionError)
  | beginning (reservation : Reservation)
  | executing (reservation : Reservation)
  | failing (reservation : Reservation) (failure : ExecutionError)
  | committing (reservation : Reservation) (verified : VerifiedTransition)
  | returned (result : Except ExecuteError Receipt)

structure Execution (Value : Type) where
  stage : Stage Value
  began : Option AttemptKey
  committed : Option Receipt

inductive Signal where
  | turn (now : Time) (outcome : Except StoreError GoString)
  | context (err : Option ContextError)
  | response (ctx : Option ContextError) (result : Except ExecutorError GoString)

section
variable {Value : Type}

def afterPrepare : Except StoreError PrepareResult → Stage Value
  | .error e => .returned (.error (.store e))
  | .ok ⟨_, some receipt⟩ => .returned (.ok receipt)
  | .ok ⟨none, none⟩ => .returned (.error (.store
      (failure "world command prepare returned neither reservation nor receipt")))
  | .ok ⟨some reservation, none⟩ => .prepared reservation

variable (platform : Platform Value)

def afterResponse (reservation : Reservation) (ctx : Option ContextError) :
    Except ExecutorError GoString → Stage Value
  | .error err => .failing reservation (classifyExecutionError ctx err)
  | .ok raw =>
    match platform.codec.verify reservation.transition reservation.context raw with
    | .error text => .failing reservation ⟨failureInvalidResult, false, some (str text)⟩
    | .ok verified =>
      if verified.disposition = dispositionRejected ∧ verified.retryable = some true then
        .failing reservation ⟨failureRemoteRetryable, true, some (str errRetryable.text)⟩
      else .committing reservation verified

def afterCommit (reservation : Reservation) : Except StoreError Receipt → Stage Value
  | .ok receipt => .returned (.ok receipt)
  | .error e =>
    if e.sentinel = some .staleReservation then .returned (.error (.store e))
    else .failing reservation ⟨failurePersistence, true, some (str e.text)⟩

def recordErr : Except StoreError Unit → Option StoreError
  | .ok _ => none
  | .error e => some e

variable (s : Store)

def wrote (reservation : Reservation) : Except StoreError Receipt → Option Receipt
  | .ok receipt =>
    if s.receipts.lookup reservation.clientCommandID = none then some receipt else none
  | .error _ => none

def Execution.proceed (x : Execution Value) : Signal → Execution Value × Store
  | .turn now outcome =>
    match x.stage with
    | .ready request =>
      let (answer, store) := s.settle (s.prepare platform request now) outcome
      ({ x with stage := afterPrepare answer }, store)
    | .cancelled reservation failure =>
      let (_, store) := s.settle (s.recordFailure reservation (some failure) now) outcome
      ({ x with stage := .returned (.error (.execution failure none)) }, store)
    | .beginning reservation =>
      let (answer, store) := s.settle (s.beginAttempt reservation now) outcome
      match answer with
      | .error e => ({ x with stage := .returned (.error (.store e)) }, store)
      | .ok begun => ({ x with stage := .executing begun, began := some (attemptKey begun) }, store)
    | .failing reservation failure =>
      let (answer, store) := s.settle (s.recordFailure reservation (some failure) now) outcome
      ({ x with stage := .returned (.error (.execution failure (recordErr answer))) }, store)
    | .committing reservation verified =>
      let (answer, store) := s.settle (s.commitWith platform reservation verified now) outcome
      ({ x with
        stage := afterCommit reservation answer
        committed := wrote s reservation answer }, store)
    | _ => (x, s)
  | .context err =>
    match x.stage, err with
    | .prepared reservation, none => ({ x with stage := .beginning reservation }, s)
    | .prepared reservation, some err =>
      ({ x with stage := .cancelled reservation ⟨failureCancelled, true, some err.text⟩ }, s)
    | _, _ => (x, s)
  | .response ctx result =>
    match x.stage with
    | .executing reservation =>
      ({ x with stage := afterResponse platform reservation ctx result }, s)
    | _ => (x, s)

structure Workers (Value : Type) where
  store : Store
  executions : List (Execution Value)

inductive WorkerEvent (Value : Type) where
  | execute (request : PrepareRequest Value)
  | proceed (index : Nat) (signal : Signal)
  | takeover (clientCommandID : GoString) (generation : Nat) (reason : GoString) (now : Time)
      (outcome : Except StoreError GoString)
  | abort (clientCommandID : GoString) (generation : Nat) (reason : GoString) (now : Time)
      (outcome : Except StoreError GoString)

variable (w : Workers Value)

def Workers.next : WorkerEvent Value → Workers Value
  | .execute request => { w with executions := w.executions ++ [⟨.ready request, none, none⟩] }
  | .proceed index signal =>
    match w.executions[index]? with
    | none => w
    | some x =>
      let (y, store) := x.proceed platform w.store signal
      ⟨store, w.executions.set index y⟩
  | .takeover clientCommandID generation reason now outcome =>
    { w with store := (w.store.settle
        (w.store.takeover platform clientCommandID generation reason now) outcome).2 }
  | .abort clientCommandID generation reason now outcome =>
    { w with store := (w.store.settle
        (w.store.abort clientCommandID generation reason now) outcome).2 }

def workers (platform : Platform Value) : System (Workers Value) (WorkerEvent Value) where
  init w := w.executions = [] ∧
    ((∃ initial version, newStore platform initial version = .ok w.store) ∨
      ∃ json payload version, openStore platform json payload version = .ok w.store)
  step w e w' := w' = w.next platform e

def Store.namesOpenAttempt (reservation : Reservation) : Bool :=
  match s.requireReservation reservation with
  | .error _ => false
  | .ok current =>
    let number := if latestAttemptNumber reservation = 0 then latestAttemptNumber current
      else latestAttemptNumber reservation
    (findOpenAttempt current.attempts number).toOption.isSome

variable (e : WorkerEvent Value)

def WorkerEvent.Trespasses : Prop :=
  ∃ index now version x reservation failure, e = .proceed index (.turn now (.ok version)) ∧
    w.executions[index]? = some x ∧ x.stage = .cancelled reservation failure ∧
    (now.isZero = false ∧ 0 ≤ now.unix) ∧ w.store.namesOpenAttempt reservation = true

def orderlyWorkers (platform : Platform Value) : System (Workers Value) (WorkerEvent Value) where
  init := (workers platform).init
  step w e w' := (workers platform).step w e w' ∧ ¬ e.Trespasses w

def AttemptAt (P : Attempt → Prop) (s : Store) (key : AttemptKey) : Prop :=
  ∃ r, s.reservations.lookup key.clientCommandID = some r ∧ r.generation = key.generation ∧
    ∃ attempt ∈ r.attempts, attempt.number = key.number ∧ P attempt

def OpenAt (key : AttemptKey) : Prop :=
  AttemptAt (fun attempt => attempt.finishedAtUnix = none) s key

def SupersededAt (key : AttemptKey) : Prop :=
  ∃ receipt, s.receipts.lookup key.clientCommandID = some receipt ∧
    receipt.generation = key.generation ∧ ∃ attempt ∈ receipt.attempts,
      attempt.number = key.number ∧ attempt.finishedAtUnix.isSome ∧
        attempt.failureKind = failureSuperseded

def RetiredStale (key : AttemptKey) : Prop :=
  ∃ retired ∈ s.retiredGenerations key.clientCommandID, retired.generation = key.generation ∧
    retired.retiredReason = boundedDetail (str "stale authority or deterministic state")

def Entitled (w' : Workers Value)
    (key : AttemptKey) : Prop :=
  (∃ index signal x, e = .proceed index signal ∧ w.executions[index]? = some x ∧
    (x.began = some key ∨ ∃ reservation verified, x.stage = .committing reservation verified ∧
      (SupersededAt w'.store key ∨ RetiredStale w'.store key))) ∨
  (∃ generation reason now outcome,
    e = .takeover key.clientCommandID generation reason now outcome ∨
      e = .abort key.clientCommandID generation reason now outcome)

def RespectsAttempts (w' : Workers Value) : Prop :=
  ∀ key, OpenAt w.store key → ¬ OpenAt w'.store key → Entitled w e w' key

def CommittedEvidence (x : Execution Value) (receipt : Receipt) : Prop :=
  ∃ number, x.began = some ⟨receipt.clientCommandID, receipt.generation, number⟩ ∧
    ∃ attempt ∈ receipt.attempts, attempt.number = number ∧ attempt.finishedAtUnix.isSome ∧
      attempt.failureKind = [] ∧ attempt.retryable = false ∧
      attempt.detail = boundedDetail (str "committed " ++ receipt.disposition)

structure Evident (w₀ w : Workers Value) : Prop where
  committed : ∀ (index : Nat) x receipt, w.executions[index]? = some x → x.committed = some receipt →
    w.store.receipts.lookup receipt.clientCommandID = some receipt ∧ CommittedEvidence x receipt
  recorded : ∀ id receipt, w.store.receipts.lookup id = some receipt →
    w₀.store.receipts.lookup id = some receipt ∨ ∃ index : Nat, ∃ x, w.executions[index]? = some x ∧
      x.committed = some receipt

end

end

end WorldCommand
