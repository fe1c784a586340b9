import TrillionniumGame.Runtime.WorldCommand.Coordinator

namespace WorldCommand
open Checks FiniteMap GoText Runs WorldTransition

variable {Value : Type}

inductive Op (Value : Type) where
  | prepare (request : PrepareRequest Value) (now : Time)
  | beginAttempt (reservation : Reservation) (now : Time)
  | recordFailure (reservation : Reservation) (failure : Option ExecutionError) (now : Time)
  | commitWith (reservation : Reservation) (verified : VerifiedTransition) (now : Time)
  | takeover (clientCommandID : GoString) (generation : Nat) (reason : GoString) (now : Time)
  | abort (clientCommandID : GoString) (generation : Nat) (reason : GoString) (now : Time)

def Store.answer {α : Type} (result : Except StoreError α × Store) :
    Except StoreError Unit × Store :=
  (result.1.map fun _ => (), result.2)

variable (platform : Platform Value)

def Store.perform (s : Store) (op : Op Value)
    (outcome : Except StoreError GoString) : Except StoreError Unit × Store :=
  match op with
  | .prepare request now => answer (s.settle (s.prepare platform request now) outcome)
  | .beginAttempt reservation now => answer (s.settle (s.beginAttempt reservation now) outcome)
  | .recordFailure reservation failure now =>
    answer (s.settle (s.recordFailure reservation failure now) outcome)
  | .commitWith reservation verified now =>
    answer (s.settle (s.commitWith platform reservation verified now) outcome)
  | .takeover clientCommandID generation reason now =>
    answer (s.settle (s.takeover platform clientCommandID generation reason now) outcome)
  | .abort clientCommandID generation reason now =>
    answer (s.settle (s.abort clientCommandID generation reason now) outcome)

structure Accepted where
  reservation : Reservation
  receipt : Receipt
  before : MatchState
  after : MatchState

structure Chain where
  store : Store
  initial : MatchState
  accepted : List Accepted

variable (c : Chain)

def Chain.recordAccepted (clientCommandID : GoString) (next : Store) :
    List Accepted :=
  match c.store.reservations.lookup clientCommandID, c.store.receipts.lookup clientCommandID,
      next.receipts.lookup clientCommandID with
  | some reservation, none, some receipt =>
    if receipt.disposition = dispositionAccepted then
      c.accepted ++ [⟨reservation, receipt, c.store.state, next.state⟩]
    else c.accepted
  | _, _, _ => c.accepted

def Chain.perform (op : Op Value)
    (outcome : Except StoreError GoString) : Chain :=
  let next := (c.store.perform platform op outcome).2
  { c with
    store := next
    accepted := match op with
      | .commitWith reservation _ _ => c.recordAccepted reservation.clientCommandID next
      | _ => c.accepted }

def chain : System Chain (Op Value × Except StoreError GoString) where
  init c := ∃ version, newStore platform c.initial version = .ok c.store ∧ c.accepted = []
  step c step c' := c' = c.perform platform step.1 step.2

structure PreparedFrom (platform : Platform Value) (state : MatchState) (r : Reservation) :
    Prop where
  fence : r.fence =
    ⟨state.matchVersion, state.nextGlobalEventSequence, state.stateRevision, state.stateHash,
      state.tick, state.participantSequence r.participantID⟩
  sequence : r.participantSequence = state.participantSequence r.participantID + 1
  positive : r.participantSequence ≠ 0
  matchVersion : 0 ≤ r.context.matchVersion ∧ r.context.matchVersion.toUInt64 = state.matchVersion
  eventSequence : 0 ≤ r.context.globalEventSequence ∧
    r.context.globalEventSequence.toUInt64 = state.nextGlobalEventSequence
  expectedTick : r.context.expectedTick = state.tick
  transition : ∃ stateValue command,
    platform.codec.decodeCanonical state.stateCanonicalJSON (2 * 1024 * 1024) = .ok stateValue ∧
    platform.codec.prepare r.context state.stateSchemaID stateValue r.commandSchemaID command =
      .ok r.transition

def Chain.next (version : GoString) (document : Document) : Chain :=
  { c with store := c.store.installDocument version document }

def Chain.accept (version : GoString) (current : Reservation) (receipt : Receipt)
    (state : MatchState) : Chain :=
  { c with
    store := c.store.installDocument version
      { c.store.cloneDocument with
        state
        reservations := c.store.reservations.erase current.clientCommandID
        receipts := c.store.receipts.insert current.clientCommandID receipt }
    accepted := c.accepted ++ [⟨current, receipt, c.store.state, state⟩] }

def Chain.Keyed : Prop :=
  ∀ key r, c.store.reservations.lookup key = some r → r.clientCommandID = key

def Chain.Pending (current : Reservation) : Prop :=
  c.store.reservations.lookup current.clientCommandID = some current

structure Receipted (a : Accepted) : Prop where
  disposition : a.receipt.disposition = dispositionAccepted
  clientCommandID : a.receipt.clientCommandID = a.reservation.clientCommandID
  generation : a.receipt.generation = a.reservation.generation
  requestHash : a.receipt.requestHash = a.reservation.transition.requestHash
  transitionID : a.receipt.transitionID = a.reservation.transition.transitionID
  eventSequence : a.receipt.eventSequence = some a.before.nextGlobalEventSequence
  matchVersion : a.receipt.matchVersion = a.after.matchVersion
  stateRevision : a.receipt.stateRevision = a.after.stateRevision
  stateHash : a.receipt.stateHash = a.after.stateHash
  tick : a.receipt.tick = a.after.tick

inductive Move (platform : Platform Value) (c : Chain) : Chain → Prop
  | same : Move platform c c
  | reserve (version : GoString) (r : Reservation) :
      c.store.receipts.lookup r.clientCommandID = none →
      c.store.reservations.lookup r.clientCommandID = none →
      r.generation = Store.nextGeneration (c.store.retiredGenerations r.clientCommandID) →
      PreparedFrom platform c.store.state r →
      Move platform c (c.next version (c.store.putReservation r))
  | update (version : GoString) (current : Reservation) (attempts : List Attempt)
      (updatedAtUnix : Int64) :
      c.Pending current →
      Move platform c (c.next version
        (c.store.putReservation { current with attempts, updatedAtUnix }))
  | retire (version : GoString) (current : Reservation) (kind : FailureKind) (reason : GoString)
      (now : Time) :
      c.Pending current →
      Move platform c (c.next version (c.store.retireDocument current kind reason now))
  | takeover (version : GoString) (current : Reservation) (reason : GoString) (now : Time) :
      c.Pending current →
      Move platform c (c.next version
        { c.store.cloneDocument with
          reservations := c.store.reservations.insert current.clientCommandID
            (successor platform current now)
          retired := c.store.retired.insert current.clientCommandID
            (c.store.retiredGenerations current.clientCommandID ++
              [takenOver current reason now]) })
  | reject (version : GoString) (current : Reservation) (receipt : Receipt) :
      c.Pending current →
      c.store.receipts.lookup current.clientCommandID = none →
      receipt.clientCommandID = current.clientCommandID →
      receipt.generation = current.generation →
      receipt.disposition ≠ dispositionAccepted →
      Move platform c (c.next version
        { c.store.cloneDocument with
          reservations := c.store.reservations.erase current.clientCommandID
          receipts := c.store.receipts.insert current.clientCommandID receipt })
  | accept (version : GoString) (current : Reservation) (receipt : Receipt)
      (verified : VerifiedTransition) (nextTick : Int64) (nextStateHash : GoString) :
      c.Pending current →
      c.store.receipts.lookup current.clientCommandID = none →
      c.store.currentFence current.participantID = current.fence →
      c.store.state.tick ≤ nextTick →
      Receipted ⟨current, receipt, c.store.state,
        Store.acceptedState c.store.state current verified nextTick nextStateHash⟩ →
      Move platform c (c.accept version current receipt
        (Store.acceptedState c.store.state current verified nextTick nextStateHash))

section
variable {platform : Platform Value}

variable {α : Type} {s : Store}

theorem settle_write {candidate : Document} {answer : Except StoreError α}
    {outcome : Except StoreError GoString} :
    (s.settle (.ok (.write candidate answer)) outcome).2 =
      match outcome with
      | .error _ => s
      | .ok version => s.installDocument version candidate := by
  cases outcome <;> rfl

theorem settle_commit (s : Store) (candidate : Document) (answer : α)
    (outcome : Except StoreError GoString) :
    (s.settle (.ok (.commit candidate answer)) outcome).2 = s ∨
      ∃ version, (s.settle (.ok (.commit candidate answer)) outcome).2 =
        s.installDocument version candidate := by
  cases outcome with
  | error e => exact .inl rfl
  | ok version =>
    by_cases hv : version = []
    · exact .inl (by simp [Store.settle, hv])
    · exact .inr ⟨version, by simp [Store.settle, hv]⟩

variable {request : PrepareRequest Value} {commandCanonical : GoString} {stateValue : Value}
  {prepared : PreparedTransition}

theorem Fresh.preparedFrom (h : Fresh platform s request commandCanonical stateValue prepared)
    (now : Time) :
    PreparedFrom platform s.state
      (s.newReservation platform request commandCanonical prepared now) := by
  have hidentity := h.identity
  have hfence := h.fence
  simp only [Store.validateRequestIdentity, bind_ok, require_ok] at hidentity
  simp only [Store.validateCurrentFence, bind_ok, require_ok] at hfence
  obtain ⟨_, _, _, _, hpositive, _⟩ := hidentity
  obtain ⟨_, ⟨_, _, hversion, hversion', hevent, hevent', htick, _⟩, hsequence⟩ := hfence
  exact ⟨rfl, hsequence, hpositive, ⟨hversion, hversion'⟩, ⟨hevent, hevent'⟩, htick,
    stateValue, request.command, h.state, h.prepared⟩

variable {c : Chain} {next : Store}

theorem recordAccepted_of_receipts {id : GoString} (h : next.receipts = c.store.receipts) :
    c.recordAccepted id next = c.accepted := by
  unfold Chain.recordAccepted
  rw [h]
  split
  · next hnone hsome => simp [hnone] at hsome
  · rfl

variable {current : Reservation}

theorem recordAccepted_insert (receipt : Receipt) (hpending : c.Pending current)
    (hnone : c.store.receipts.lookup current.clientCommandID = none)
    (hnext : next.receipts = c.store.receipts.insert current.clientCommandID receipt) :
    c.recordAccepted current.clientCommandID next =
      if receipt.disposition = dispositionAccepted then
        c.accepted ++ [⟨current, receipt, c.store.state, next.state⟩]
      else c.accepted := by
  unfold Chain.recordAccepted
  rw [hpending, hnone, hnext, Finmap.lookup_insert]

theorem move_of_settle (c : Chain) (planned : Except StoreError (Plan α))
    (outcome : Except StoreError GoString)
    (hwrite : ∀ candidate answer, planned = .ok (.write candidate answer) →
      ∀ version, Move platform c (c.next version candidate))
    (hcommit : ∀ candidate answer, planned ≠ .ok (.commit candidate answer)) :
    Move platform c { c with store := (c.store.settle planned outcome).2 } := by
  match planned, hwrite, hcommit with
  | .error e, _, _ => exact .same
  | .ok (.done answer), _, _ => exact .same
  | .ok (.write candidate answer), hwrite, _ =>
    rw [settle_write]
    cases outcome with
    | error e => exact .same
    | ok version => exact hwrite candidate answer rfl version
  | .ok (.commit candidate answer), _, hcommit => exact absurd rfl (hcommit candidate answer)

theorem committedReservation_eq (current reservation : Reservation) (verified : VerifiedTransition)
    (now : Time) :
    ∃ attempts,
      committedReservation current reservation verified now = { current with attempts } := by
  unfold committedReservation finishCommittedAttempts
  split
  · exact ⟨_, rfl⟩
  · exact ⟨_, rfl⟩

variable {input : Reservation}

theorem Holds.key (h : Holds c.store input current) (hkeyed : c.Keyed) :
    input.clientCommandID = current.clientCommandID :=
  (hkeyed _ _ h.lookup).symm

theorem Holds.chainPending (h : Holds c.store input current) (hkeyed : c.Keyed) :
    c.Pending current := by
  have hlookup := h.lookup
  rwa [h.key hkeyed] at hlookup

theorem fenceMatches_eq {r : Reservation} (h : s.fenceMatches r = true) :
    s.currentFence r.participantID = r.fence := by
  simpa [Store.fenceMatches] using h

variable {verified : VerifiedTransition} {now : Time}

theorem applied_move {attempts : List Attempt} {receipt : Receipt} {state : MatchState}
    (hpending : c.Pending current)
    (hnone : c.store.receipts.lookup current.clientCommandID = none)
    (hverified : validateVerifiedAgainstReservation verified current = .ok ())
    (hmatch : c.store.fenceMatches current = true)
    (happly : c.store.applyVerified platform { current with attempts } verified
      (c.store.newReceipt { current with attempts } verified now) = .ok (receipt, state))
    (version : GoString) :
    Move platform c
      { c.next version
          { c.store.cloneDocument with
            state
            reservations := c.store.reservations.erase current.clientCommandID
            receipts := c.store.receipts.insert current.clientCommandID receipt } with
        accepted := if receipt.disposition = dispositionAccepted then
            c.accepted ++ [⟨current, receipt, c.store.state, state⟩]
          else c.accepted } := by
  obtain ⟨⟨hrequest, htransition⟩, _⟩ := validateVerified_ok.mp hverified
  obtain ⟨haccepted, nextTick, nextStateHash, _, _, _, _, _, htick, _, _, hstate, hreceipt⟩ |
    ⟨hnot, _, _, _, hstate, hreceipt⟩ := applyVerified_ok happly
  · have hdisposition : receipt.disposition = dispositionAccepted := by
      rw [hreceipt]
      exact haccepted
    have hreceipted : Receipted ⟨current, receipt, c.store.state, state⟩ := by
      rw [hreceipt]
      exact ⟨haccepted, rfl, rfl, hrequest, htransition, rfl, rfl, rfl, rfl, rfl⟩
    rw [if_pos hdisposition]
    subst hstate
    exact .accept version current receipt verified nextTick nextStateHash hpending hnone
      (fenceMatches_eq hmatch) htick hreceipted
  · have hdisposition : receipt.disposition ≠ dispositionAccepted := by
      rw [hreceipt]
      exact hnot
    rw [if_neg hdisposition, hstate]
    exact .reject version current receipt hpending hnone (by rw [hreceipt]; rfl)
      (by rw [hreceipt]; rfl) hdisposition

theorem commit_move (hkeyed : c.Keyed) (reservation : Reservation) (verified : VerifiedTransition)
    (now : Time) (outcome : Except StoreError GoString) :
    Move platform c (c.perform platform (.commitWith reservation verified now) outcome) := by
  have hsame : ∀ plan, c.store.commitWith platform reservation verified now = plan →
      (c.store.settle plan outcome).2 = c.store →
      Move platform c (c.perform platform (.commitWith reservation verified now) outcome) := by
    intro plan hplan hstore
    simp only [Chain.perform, Store.perform, Store.answer, hplan, hstore,
      recordAccepted_of_receipts]
    exact .same
  cases hplan : c.store.commitWith platform reservation verified now with
  | error e => exact hsame _ hplan rfl
  | ok plan =>
    obtain ⟨_, ⟨receipt, _, _, rfl⟩ | ⟨current, hreceipt, hcurrent, hverified, ⟨_, rfl⟩ |
      ⟨receipt, state, hmatch, happly, rfl⟩⟩⟩ := commitWith_ok hplan
    · exact hsame _ hplan rfl
    · cases outcome with
      | error e => exact hsame _ hplan rfl
      | ok version =>
        have hghost : c.recordAccepted reservation.clientCommandID
            (c.store.installDocument version (c.store.retireDocument current failureStale
              (str "stale authority or deterministic state") now)) = c.accepted :=
          recordAccepted_of_receipts rfl
        simp only [Chain.perform, Store.perform, Store.answer, hplan, settle_write, hghost]
        exact .retire version current _ _ now (hcurrent.chainPending hkeyed)
    · have hpending := hcurrent.chainPending hkeyed
      rw [hcurrent.key hkeyed] at hreceipt
      obtain ⟨attempts, hattempts⟩ := committedReservation_eq current reservation verified now
      rw [hattempts] at happly hplan
      rcases settle_commit c.store _ receipt outcome with hstore | ⟨version, hstore⟩
      · exact hsame _ hplan hstore
      · simp only [Chain.perform, Store.perform, Store.answer, hplan, hstore]
        rw [hcurrent.key hkeyed, recordAccepted_insert receipt hpending hreceipt rfl]
        exact applied_move hpending hreceipt hverified hmatch happly version

theorem perform_move (hkeyed : c.Keyed) (op : Op Value) (outcome : Except StoreError GoString) :
    Move platform c (c.perform platform op outcome) := by
  cases op with
  | prepare request now =>
    refine move_of_settle c (c.store.prepare platform request now)
      outcome ?_ ?_
    · intro candidate answer hplan version
      obtain ⟨_, commandCanonical, _, ⟨_, _, _, h⟩ | ⟨_, _, _, _, h⟩ |
        ⟨stateValue, prepared, hfresh, h⟩⟩ := prepare_ok hplan
      · cases h
      · cases h
      · cases h
        exact .reserve version _ hfresh.receipt hfresh.reservation rfl (hfresh.preparedFrom now)
    · intro candidate answer hplan
      obtain ⟨_, _, _, ⟨_, _, _, h⟩ | ⟨_, _, _, _, h⟩ | ⟨_, _, _, h⟩⟩ := prepare_ok hplan <;>
        cases h
  | beginAttempt reservation now =>
    refine move_of_settle c (c.store.beginAttempt reservation now)
      outcome ?_ ?_
    · intro candidate answer hplan version
      obtain ⟨_, current, hcurrent, h⟩ := beginAttempt_ok hplan
      cases h
      exact .update version current _ _ (hcurrent.chainPending hkeyed)
    · intro candidate answer hplan
      obtain ⟨_, _, _, h⟩ := beginAttempt_ok hplan
      cases h
  | recordFailure reservation failure now =>
    refine move_of_settle c (c.store.recordFailure reservation failure now)
      outcome ?_ ?_
    · intro candidate answer hplan version
      obtain ⟨_, _, current, _, _, _, _, hcurrent, _, _, h⟩ := recordFailure_ok hplan
      cases h
      exact .update version current _ _ (hcurrent.chainPending hkeyed)
    · intro candidate answer hplan
      obtain ⟨_, _, _, _, _, _, _, _, _, _, h⟩ := recordFailure_ok hplan
      cases h
  | commitWith reservation verified now => exact commit_move hkeyed reservation verified now outcome
  | takeover clientCommandID generation reason now =>
    refine move_of_settle c (c.store.takeover platform clientCommandID generation reason now)
      outcome ?_ ?_
    · intro candidate answer hplan version
      obtain ⟨_, _, current, hcurrent, _, _, h⟩ := takeover_ok hplan
      cases h
      cases hkeyed _ _ hcurrent
      exact .takeover version current reason now hcurrent
    · intro candidate answer hplan
      obtain ⟨_, _, _, _, _, _, h⟩ := takeover_ok hplan
      cases h
  | abort clientCommandID generation reason now =>
    refine move_of_settle c (c.store.abort clientCommandID generation reason now)
      outcome ?_ ?_
    · intro candidate answer hplan version
      obtain ⟨_, _, current, hcurrent, _, _, h⟩ := abort_ok hplan
      cases h
      cases hkeyed _ _ hcurrent
      exact .retire version current _ _ now hcurrent
    · intro candidate answer hplan
      obtain ⟨_, _, _, _, _, _, h⟩ := abort_ok hplan
      cases h

theorem perform_prepare (h : Fresh platform c.store request commandCanonical stateValue prepared)
    (hnow : now.isZero = false ∧ 0 ≤ now.unix) (version : GoString) :
    c.perform platform (.prepare request now) (.ok version) = c.next version
      (c.store.putReservation
        (c.store.newReservation platform request commandCanonical prepared now)) := by
  simp only [Chain.perform, Store.perform, Store.answer, prepare_fresh h hnow, Store.settle]
  rfl

theorem perform_commit {nextTick : Int64} {nextStateHash : GoString}
    (hnow : now.isZero = false ∧ 0 ≤ now.unix) (hcurrent : Holds c.store current current)
    (hreceipt : c.store.receipts.lookup current.clientCommandID = none)
    (hverified : validateVerifiedAgainstReservation verified current = .ok ())
    (hmatch : c.store.fenceMatches current = true)
    (haccepted : verified.disposition = dispositionAccepted)
    (htick : verified.nextTick = some nextTick)
    (hhash : verified.nextStateHash = some nextStateHash)
    (hjson : verified.nextStateCanonicalJSON ≠ []) (hschema : verified.nextStateSchemaID ≠ [])
    (hle : c.store.state.tick ≤ nextTick)
    (hsha : hashBytes platform verified.nextStateCanonicalJSON = nextStateHash)
    (hvalue : platform.codec.decodeCanonical verified.nextStateCanonicalJSON (2 * 1024 * 1024) =
      .ok stateValue) {version : GoString} (hversion : version ≠ []) :
    ∃ receipt, c.perform platform (.commitWith current verified now) (.ok version) =
      c.accept version current receipt
        (Store.acceptedState c.store.state current verified nextTick nextStateHash) := by
  obtain ⟨attempts, hattempts⟩ := committedReservation_eq current current verified now
  have hplan := commitWith_fenced hnow hreceipt hcurrent hverified hmatch
    (applyVerified_accepted haccepted htick hhash hjson hschema hle hsha hvalue)
  refine ⟨acceptedReceipt (c.store.newReceipt { current with attempts } verified now)
    c.store.state (Store.acceptedState c.store.state current verified nextTick nextStateHash), ?_⟩
  rw [hattempts] at hplan
  simp only [Chain.perform, Store.perform, Store.answer, hplan, Store.settle, if_neg hversion]
  rw [recordAccepted_insert _ hcurrent.lookup hreceipt rfl]
  exact congrArg (fun accepted => Chain.mk _ _ accepted) (if_pos haccepted)

end

end WorldCommand
