import TrillionniumGame.Foundation.Runs
import TrillionniumGame.Presence.DisconnectJournal

namespace Presence
open Checks FiniteMap Runs Words
open Persistence (Bytes zeroBytes)

inductive DisconnectCall where
  | insert (id : DisconnectIntentId) (operation : DisconnectOperation)
      (reply : Except DisconnectJournalError DisconnectRecord)
  | lease (id : DisconnectIntentId) (worker : WorkerId)
      (reply : Except DisconnectJournalError DisconnectRecord)
  | markDispatched (id : DisconnectIntentId) (worker : WorkerId) (token : LeaseToken)
      (endpointDigest : Bytes 32) (reply : Except DisconnectJournalError DisconnectRecord)
  | markTransportLost (id : DisconnectIntentId) (worker : WorkerId) (token : LeaseToken)
      (reply : Except DisconnectJournalError DisconnectRecord)
  | retryBeforeDispatch (id : DisconnectIntentId) (worker : WorkerId) (token : LeaseToken)
      (terminalReason : Bytes 32)
      (reply : Except DisconnectJournalError (DisconnectRecord × RetryDisposition))
  | reconcile (id : DisconnectIntentId) (evidence : DisconnectOutcomeEvidence)
      (verifier : DisconnectOutcomeVerifier)
      (reply : Except DisconnectJournalError (DisconnectRecord × ReconciliationDisposition))
  | archiveTerminal (id : DisconnectIntentId) (archiveDigest : Bytes 32)
      (reply : Except DisconnectJournalError DisconnectArchiveTombstone)
  | advanceEpoch (nextEpoch : DisconnectJournalEpoch) (checkpointDigest : Bytes 32)
      (reply : Except DisconnectJournalError Unit)

def DisconnectCall.run (call : DisconnectCall) (j j' : DisconnectJournal) : Prop :=
  match call with
  | .insert id operation reply => answer (j.insert id operation) j = (reply, j')
  | .lease id worker reply => answer (j.lease id worker) j = (reply, j')
  | .markDispatched id worker token endpointDigest reply =>
    answer (j.markDispatched id worker token endpointDigest) j = (reply, j')
  | .markTransportLost id worker token reply =>
    answer (j.markTransportLost id worker token) j = (reply, j')
  | .retryBeforeDispatch id worker token terminalReason reply =>
    answer (j.retryBeforeDispatch id worker token terminalReason) j = (reply, j')
  | .reconcile id evidence verifier reply =>
    answer (j.reconcile id evidence verifier) j = (reply, j')
  | .archiveTerminal id archiveDigest reply =>
    answer (j.archiveTerminal id archiveDigest) j = (reply, j')
  | .advanceEpoch nextEpoch checkpointDigest reply =>
    answer ((j.advanceEpoch nextEpoch checkpointDigest).map fun j' => ((), j')) j = (reply, j')

def disconnectJournals : System DisconnectJournal DisconnectCall where
  init j := ∃ config, DisconnectJournal.new config = .ok j
  step j call j' := call.run j j'

def DisconnectCall.Quiet : DisconnectCall → Prop
  | .insert .. => True
  | .markTransportLost .. => True
  | .lease _ _ reply => ∃ error, reply = .error error
  | .markDispatched _ _ _ _ reply => ∃ error, reply = .error error
  | .retryBeforeDispatch _ _ _ _ reply => ∃ error, reply = .error error
  | .archiveTerminal _ _ reply => ∃ error, reply = .error error
  | .advanceEpoch _ _ reply => ∃ error, reply = .error error
  | .reconcile _ evidence _ reply =>
    (∃ error, reply = .error error) ∨ evidence.kind ≠ .definitelyNotApplied

namespace DisconnectJournal

variable {j j' : DisconnectJournal} {id : DisconnectIntentId} {current : DisconnectRecord}

inductive Undecided (binding : DisconnectDispatchBinding) (evidence : DisconnectOutcomeEvidence) :
    DisconnectState → Prop
  | dispatched : Undecided binding evidence (.dispatched binding)
  | lost : Undecided binding evidence (.indeterminate binding none)
  | unknown {previous : DisconnectUnknownEvidence} (hkind : evidence.kind ≠ .unknown) :
      Undecided binding evidence (.indeterminate binding (some previous))

def leasedRecord (current : DisconnectRecord) (worker : WorkerId) : DisconnectRecord :=
  { current with
    leaseGeneration := current.leaseGeneration + 1
    attempt := current.attempt + 1
    state := .leased worker (current.leaseGeneration + 1) }

section

variable (j : DisconnectJournal) (id : DisconnectIntentId) (current : DisconnectRecord)

def dispatchBinding (worker : WorkerId) (token : LeaseToken) (endpointDigest : Bytes 32) :
    DisconnectDispatchBinding :=
  ⟨j.config.journalId, j.config.epoch, id, current.operation, current.attempt, worker, token,
    endpointDigest⟩

def settledRecord (binding : DisconnectDispatchBinding) (evidence : DisconnectOutcomeEvidence) :
    DisconnectRecord :=
  { current with state := (outcomeState j.config.maxAttempts current.attempt binding evidence).1 }

def settled (evidence : DisconnectOutcomeEvidence) (remaining : Nat) : DisconnectJournal :=
  { j with
    verifierReceiptReservations := j.verifierReceiptReservations.insert id (remaining - 1)
    verifierReceiptOwners := j.verifierReceiptOwners.insert evidence.verifierReceiptDigest id
    outcomeReceiptOwners :=
      if evidence.kind = .applied then j.outcomeReceiptOwners.insert evidence.outcomeDigest id
      else j.outcomeReceiptOwners
    records := j.records.insert id (j.settledRecord current evidence.binding evidence) }

def archived (tombstone : DisconnectArchiveTombstone) : DisconnectJournal :=
  { j with
    records := j.records.erase id
    verifierReceiptReservations := j.verifierReceiptReservations.erase id
    tombstones := j.tombstones.insert id tombstone }

def advanced (nextEpoch : DisconnectJournalEpoch) (checkpointDigest : Bytes 32) :
    DisconnectJournal :=
  { j with
    config := { j.config with epoch := nextEpoch }
    tombstones := ∅
    outcomeReceiptOwners := ∅
    verifierReceiptOwners := ∅
    verifierReceiptReservations := ∅
    lastEpochCheckpoint := some checkpointDigest }

end

inductive Moved (j : DisconnectJournal) : DisconnectCall → DisconnectJournal → Prop
  | quiet {call : DisconnectCall} (h : call.Quiet) : Moved j call j
  | inserted {id : DisconnectIntentId} {operation : DisconnectOperation}
      {record : DisconnectRecord} {reservation : Nat} (hfresh : j.records.lookup id = none)
      (hnew : id ∉ j.tombstones)
      (hroom : min (j.records.keys.card + j.tombstones.keys.card) (2 ^ 64 - 1) <
        j.config.tombstoneCapacity)
      (hreservation : j.config.verifierReceiptsPerIntent = .ok reservation) :
      Moved j (.insert id operation (.ok record)) { j with
        records := j.records.insert id ⟨id, operation, 0, 0, .pending⟩
        verifierReceiptReservations := j.verifierReceiptReservations.insert id reservation }
  | leased {id : DisconnectIntentId} {worker : WorkerId} {current : DisconnectRecord}
      (hcurrent : j.records.lookup id = some current) (hpending : current.state = .pending) :
      Moved j (.lease id worker (.ok (leasedRecord current worker)))
        (j.withRecord id (leasedRecord current worker))
  | dispatched {id : DisconnectIntentId} {worker : WorkerId} {token : LeaseToken}
      {endpointDigest : Bytes 32} {current : DisconnectRecord}
      (hcurrent : j.records.lookup id = some current)
      (hleased : current.state = .leased worker token) :
      Moved j
        (.markDispatched id worker token endpointDigest (.ok { current with
          state := .dispatched (j.dispatchBinding id current worker token endpointDigest) }))
        (j.withRecord id { current with
          state := .dispatched (j.dispatchBinding id current worker token endpointDigest) })
  | lost {id : DisconnectIntentId} {worker : WorkerId} {token : LeaseToken}
      {reply : Except DisconnectJournalError DisconnectRecord}
      {binding : DisconnectDispatchBinding} {current : DisconnectRecord}
      (hcurrent : j.records.lookup id = some current)
      (hdispatched : current.state = .dispatched binding) :
      Moved j (.markTransportLost id worker token reply)
        (j.withRecord id { current with state := .indeterminate binding none })
  | retried {id : DisconnectIntentId} {worker : WorkerId} {token : LeaseToken} {reason : Bytes 32}
      {reply : DisconnectRecord × RetryDisposition} {current : DisconnectRecord}
      (hcurrent : j.records.lookup id = some current)
      (hleased : current.state = .leased worker token) :
      Moved j (.retryBeforeDispatch id worker token reason (.ok reply))
        (j.withRecord id { current with
          state := if j.config.maxAttempts ≤ current.attempt then .deadLetter reason else .pending })
  | settled {id : DisconnectIntentId} {evidence : DisconnectOutcomeEvidence}
      {verifier : DisconnectOutcomeVerifier}
      {reply : DisconnectRecord × ReconciliationDisposition} {current : DisconnectRecord}
      {remaining : Nat} (hcurrent : j.records.lookup id = some current)
      (hundecided : Undecided evidence.binding evidence current.state)
      (hid : evidence.binding.intentId = id)
      (hfresh : evidence.verifierReceiptDigest ∉ j.verifierReceiptOwners)
      (hremaining : j.verifierReceiptReservations.lookup id = some remaining)
      (hpositive : remaining ≠ 0) :
      Moved j (.reconcile id evidence verifier (.ok reply)) (j.settled id current evidence remaining)
  | archived {id : DisconnectIntentId} {archiveDigest terminal : Bytes 32}
      {tombstone : DisconnectArchiveTombstone} {current : DisconnectRecord}
      (hcurrent : j.records.lookup id = some current)
      (hterminal : terminalDigest current.state = some terminal) :
      Moved j (.archiveTerminal id archiveDigest (.ok tombstone)) (j.archived id tombstone)
  | advanced {nextEpoch : DisconnectJournalEpoch} {checkpointDigest : Bytes 32}
      (hempty : j.records.keys = ∅) (hlater : j.config.epoch.value < nextEpoch.value) :
      Moved j (.advanceEpoch nextEpoch checkpointDigest (.ok ()))
        (j.advanced nextEpoch checkpointDigest)

theorem requireRecord_ok :
    j.requireRecord id = .ok current ↔ j.records.lookup id = some current := fetch_ok

variable {worker : WorkerId} {token : LeaseToken}

theorem requireFence_ok :
    j.requireFence id worker token = .ok current ↔
      j.records.lookup id = some current ∧ current.state = .leased worker token := by
  unfold requireFence
  rw [bind_ok]
  simp only [requireRecord_ok]
  constructor
  · rintro ⟨record, hrecord, hfence⟩
    cases hstate : record.state with
    | leased owner lease =>
      simp only [hstate, bind_ok, require_ok] at hfence
      obtain ⟨_, ⟨rfl, rfl⟩, hcurrent⟩ := hfence
      cases hcurrent
      exact ⟨hrecord, hstate⟩
    | pending | dispatched | indeterminate | applied | rejected | deadLetter =>
      simp [hstate] at hfence
  · rintro ⟨hrecord, hstate⟩
    refine ⟨current, hrecord, ?_⟩
    rw [hstate]
    exact bind_ok.mpr ⟨(), require_ok.mpr ⟨rfl, rfl⟩, rfl⟩

variable {record : DisconnectRecord}

theorem moved_insert {operation : DisconnectOperation}
    (h : j.insert id operation = .ok (record, j')) :
    Moved j (.insert id operation (.ok record)) j' := by
  unfold insert at h
  rw [bind_ok] at h
  obtain ⟨valid, hvalid, h⟩ := h
  have hsame : valid = operation := by
    unfold DisconnectOperation.validate at hvalid
    simp only [bind_ok] at hvalid
    obtain ⟨_, _, _, _, hresult⟩ := hvalid
    exact (Except.ok.inj hresult).symm
  cases hcurrent : j.records.lookup id with
  | some existing =>
    simp only [hcurrent, bind_ok] at h
    obtain ⟨_, _, hresult⟩ := h
    cases hresult
    exact .quiet trivial
  | none =>
    simp only [hcurrent, bind_ok, require_ok] at h
    obtain ⟨_, hnew, _, hroom, reservation, hreservation, _, _, hresult⟩ := h
    cases hresult
    rw [hsame]
    obtain ⟨perIntent, hperIntent, hrest⟩ := bind_ok.mp hreservation
    simp only [bind_ok] at hrest
    obtain ⟨_, _, _, _, _, _, _, _, hresult⟩ := hrest
    cases hresult
    exact .inserted hcurrent hnew hroom hperIntent

theorem moved_lease (h : j.lease id worker = .ok (record, j')) :
    Moved j (.lease id worker (.ok record)) j' := by
  unfold lease at h
  rw [bind_ok] at h
  obtain ⟨current, hcurrent, h⟩ := h
  cases hstate : current.state with
  | pending =>
    simp only [hstate, bind_ok, fetch_ok, fits_some] at h
    obtain ⟨_, ⟨_, rfl⟩, _, ⟨_, rfl⟩, hresult⟩ := h
    cases hresult
    exact .leased (requireRecord_ok.mp hcurrent) hstate
  | leased | dispatched | indeterminate | applied | rejected | deadLetter => simp [hstate] at h

theorem moved_dispatch {endpointDigest : Bytes 32}
    (h : j.markDispatched id worker token endpointDigest = .ok (record, j')) :
    Moved j (.markDispatched id worker token endpointDigest (.ok record)) j' := by
  unfold markDispatched at h
  simp only [bind_ok, requireFence_ok] at h
  obtain ⟨_, _, current, ⟨hcurrent, hleased⟩, hresult⟩ := h
  cases hresult
  exact .dispatched hcurrent hleased

theorem moved_lost (h : j.markTransportLost id worker token = .ok (record, j')) :
    Moved j (.markTransportLost id worker token (.ok record)) j' := by
  unfold markTransportLost at h
  rw [bind_ok] at h
  obtain ⟨current, hcurrent, h⟩ := h
  cases hstate : current.state with
  | dispatched binding =>
    simp only [hstate, bind_ok] at h
    obtain ⟨_, _, hresult⟩ := h
    cases hresult
    exact .lost (requireRecord_ok.mp hcurrent) hstate
  | indeterminate binding unknown =>
    simp only [hstate, bind_ok] at h
    obtain ⟨_, _, hresult⟩ := h
    cases hresult
    exact .quiet trivial
  | pending | leased | applied | rejected | deadLetter => simp [hstate] at h

theorem moved_retry {reason : Bytes 32} {reply : DisconnectRecord × RetryDisposition}
    (h : j.retryBeforeDispatch id worker token reason = .ok (reply, j')) :
    Moved j (.retryBeforeDispatch id worker token reason (.ok reply)) j' := by
  unfold retryBeforeDispatch at h
  simp only [bind_ok] at h
  obtain ⟨_, _, record, _, h⟩ := h
  have hfence : ∃ current, j.requireFence id worker token = .ok current ∧
      j' = j.withRecord id { current with
        state := if j.config.maxAttempts ≤ current.attempt then .deadLetter reason else .pending } := by
    cases hstate : record.state with
    | pending | leased =>
      simp only [hstate, bind_ok] at h
      obtain ⟨current, hfence, hresult⟩ := h
      exact ⟨current, hfence, (ok_inj hresult).2.symm⟩
    | dispatched | indeterminate | applied | rejected | deadLetter => simp [hstate] at h
  obtain ⟨current, hfence, rfl⟩ := hfence
  obtain ⟨hcurrent, hleased⟩ := requireFence_ok.mp hfence
  exact .retried hcurrent hleased

variable {evidence : DisconnectOutcomeEvidence} {verifier : DisconnectOutcomeVerifier}
  {reply : DisconnectRecord × ReconciliationDisposition}

theorem moved_settle {binding : DisconnectDispatchBinding}
    (hcurrent : j.records.lookup id = some current)
    (hundecided : Undecided binding evidence current.state)
    (hbinding : evidence.binding = binding ∧ evidence.binding.intentId = id)
    (h : j.settle id current binding evidence verifier = .ok (reply, j')) :
    Moved j (.reconcile id evidence verifier (.ok reply)) j' := by
  obtain ⟨rfl, hid⟩ := hbinding
  unfold settle at h
  simp only [bind_ok] at h
  obtain ⟨_, _, _, hfresh, h⟩ := h
  have hnew : evidence.verifierReceiptDigest ∉ j.verifierReceiptOwners := by
    unfold requireUniqueVerifierReceipt at hfresh
    split at hfresh
    · next hnone => exact Finmap.lookup_eq_none.mp hnone
    · cases hfresh
  have hconsumed : ∃ consumed, j.consumeReceiptReservation id = .ok consumed ∧
      j' = { consumed with
        verifierReceiptOwners :=
          consumed.verifierReceiptOwners.insert evidence.verifierReceiptDigest id
        outcomeReceiptOwners :=
          if evidence.kind = .applied then
            consumed.outcomeReceiptOwners.insert evidence.outcomeDigest id
          else consumed.outcomeReceiptOwners
        records := consumed.records.insert id (j.settledRecord current evidence.binding evidence) } := by
    split at h
    · next hkind =>
      simp only [bind_ok] at h
      obtain ⟨_, _, consumed, hconsumed, hresult⟩ := h
      refine ⟨consumed, hconsumed, ?_⟩
      rw [if_pos hkind]
      exact (ok_inj hresult).2.symm
    · next hkind =>
      simp only [bind_ok] at h
      obtain ⟨consumed, hconsumed, hresult⟩ := h
      refine ⟨consumed, hconsumed, ?_⟩
      rw [if_neg hkind]
      exact (ok_inj hresult).2.symm
  obtain ⟨consumed, hconsumed, rfl⟩ := hconsumed
  unfold consumeReceiptReservation at hconsumed
  simp only [bind_ok, fetch_ok, require_ok] at hconsumed
  obtain ⟨remaining, hremaining, _, hpositive, hresult⟩ := hconsumed
  cases hresult
  exact .settled hcurrent hundecided hid hnew hremaining hpositive

theorem terminalReplay_some {result : DisconnectRecord × ReconciliationDisposition}
    (h : terminalReplay current evidence = .ok (some result)) :
    evidence.kind = .applied ∨ evidence.kind = .rejected := by
  unfold terminalReplay at h
  cases hstate : current.state with
  | applied =>
    simp only [hstate, bind_ok, require_ok] at h
    obtain ⟨_, ⟨hkind, _⟩, _⟩ := h
    exact .inl hkind
  | rejected =>
    simp only [hstate, bind_ok, require_ok] at h
    obtain ⟨_, ⟨hkind, _⟩, _⟩ := h
    exact .inr hkind
  | pending | leased | dispatched | indeterminate | deadLetter => simp [hstate] at h

theorem moved_reconcile (h : j.reconcile id evidence verifier = .ok (reply, j')) :
    Moved j (.reconcile id evidence verifier (.ok reply)) j' := by
  unfold reconcile at h
  rw [bind_ok] at h
  obtain ⟨valid, hvalid, h⟩ := h
  obtain rfl : valid = evidence := by
    unfold DisconnectOutcomeEvidence.validate at hvalid
    simp only [bind_ok] at hvalid
    obtain ⟨_, _, _, _, hresult⟩ := hvalid
    exact (Except.ok.inj hresult).symm
  rw [bind_ok] at h
  obtain ⟨current, hrecord, h⟩ := h
  have hcurrent := requireRecord_ok.mp hrecord
  rw [bind_ok] at h
  obtain ⟨replay, hreplay, h⟩ := h
  cases replay with
  | some result =>
    cases h
    refine .quiet (.inr ?_)
    rcases terminalReplay_some hreplay with hkind | hkind
    · simp [hkind]
    · simp [hkind]
  | none =>
    cases hstate : current.state with
    | dispatched binding =>
      simp only [hstate, bind_ok, require_ok] at h
      obtain ⟨_, hbinding, hsettle⟩ := h
      exact moved_settle hcurrent (hstate ▸ .dispatched) hbinding hsettle
    | indeterminate binding unknown =>
      simp only [hstate, bind_ok, require_ok] at h
      obtain ⟨_, hbinding, h⟩ := h
      cases unknown with
      | none => exact moved_settle hcurrent (hstate ▸ .lost) hbinding h
      | some previous =>
        dsimp only at h
        split at h
        · next hkind =>
          simp only [bind_ok] at h
          obtain ⟨_, _, hresult⟩ := h
          cases hresult
          exact .quiet (.inr (by simp [hkind]))
        · next hkind =>
          simp only [bind_ok] at h
          obtain ⟨_, _, hsettle⟩ := h
          exact moved_settle hcurrent (hstate ▸ .unknown hkind) hbinding hsettle
    | pending | leased | applied | rejected | deadLetter => simp [hstate] at h

theorem moved_archive {archiveDigest : Bytes 32} {tombstone : DisconnectArchiveTombstone}
    (h : j.archiveTerminal id archiveDigest = .ok (tombstone, j')) :
    Moved j (.archiveTerminal id archiveDigest (.ok tombstone)) j' := by
  unfold archiveTerminal at h
  simp only [bind_ok, requireRecord_ok, fetch_ok] at h
  obtain ⟨_, _, _, _, current, hcurrent, terminal, hterminal, _, _, hresult⟩ := h
  cases hresult
  exact .archived hcurrent hterminal

theorem moved_advance {nextEpoch : DisconnectJournalEpoch} {checkpointDigest : Bytes 32}
    (h : j.advanceEpoch nextEpoch checkpointDigest = .ok j') :
    Moved j (.advanceEpoch nextEpoch checkpointDigest (.ok ())) j' := by
  unfold advanceEpoch at h
  simp only [bind_ok, require_ok] at h
  obtain ⟨_, _, _, hempty, _, _, _, hlater, hresult⟩ := h
  cases hresult
  exact .advanced hempty hlater

theorem refused {α : Type} {x : Except DisconnectJournalError (α × DisconnectJournal)}
    {error : DisconnectJournalError} {call : DisconnectCall} (h : answer x j = (.error error, j'))
    (hquiet : call.Quiet) : Moved j call j' := by
  obtain ⟨_, rfl⟩ := answer_error.mp h
  exact .quiet hquiet

theorem moved {call : DisconnectCall} (hstep : disconnectJournals.step j call j') :
    Moved j call j' := by
  change call.run j j' at hstep
  cases call with
  | insert id operation reply =>
    cases reply with
    | error error => exact refused hstep trivial
    | ok record => exact moved_insert (answer_ok.mp hstep)
  | lease id worker reply =>
    cases reply with
    | error error => exact refused hstep ⟨error, rfl⟩
    | ok record => exact moved_lease (answer_ok.mp hstep)
  | markDispatched id worker token endpointDigest reply =>
    cases reply with
    | error error => exact refused hstep ⟨error, rfl⟩
    | ok record => exact moved_dispatch (answer_ok.mp hstep)
  | markTransportLost id worker token reply =>
    cases reply with
    | error error => exact refused hstep trivial
    | ok record => exact moved_lost (answer_ok.mp hstep)
  | retryBeforeDispatch id worker token reason reply =>
    cases reply with
    | error error => exact refused hstep ⟨error, rfl⟩
    | ok record => exact moved_retry (answer_ok.mp hstep)
  | reconcile id evidence verifier reply =>
    cases reply with
    | error error => exact refused hstep (.inl ⟨error, rfl⟩)
    | ok record => exact moved_reconcile (answer_ok.mp hstep)
  | archiveTerminal id archiveDigest reply =>
    cases reply with
    | error error => exact refused hstep ⟨error, rfl⟩
    | ok record => exact moved_archive (answer_ok.mp hstep)
  | advanceEpoch nextEpoch checkpointDigest reply =>
    cases reply with
    | error error => exact refused hstep ⟨error, rfl⟩
    | ok _ =>
      refine moved_advance ?_
      have hanswer := answer_ok.mp hstep
      cases hadvance : j.advanceEpoch nextEpoch checkpointDigest with
      | error error =>
        rw [hadvance] at hanswer
        cases hanswer
      | ok next =>
        rw [hadvance] at hanswer
        cases hanswer
        rfl

end DisconnectJournal

end Presence
