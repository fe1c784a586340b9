import TrillionniumGame.Presence.DisconnectAdmission

namespace Presence
open Checks FiniteMap Runs
open Persistence (Bytes one_positive ones_nonzero zeroBytes)

structure AcceptedEvidence where
  epoch : DisconnectJournalEpoch
  evidence : DisconnectOutcomeEvidence

def AcceptedEvidence.attempt (accepted : AcceptedEvidence) :
    DisconnectJournalEpoch × DisconnectIntentId × Nat :=
  (accepted.epoch, accepted.evidence.binding.intentId, accepted.evidence.binding.attempt)

def AcceptedEvidence.receipt (accepted : AcceptedEvidence) : DisconnectJournalEpoch × Bytes 32 :=
  (accepted.epoch, accepted.evidence.verifierReceiptDigest)

def acceptedBy (call : DisconnectCall) (j j' : DisconnectJournal) : List AcceptedEvidence :=
  match call with
  | .reconcile _ evidence _ (.ok _) => if j' = j then [] else [⟨j.config.epoch, evidence⟩]
  | _ => []

structure DisconnectAudit where
  journal : DisconnectJournal
  accepted : List AcceptedEvidence

def disconnectAudits : System DisconnectAudit DisconnectCall where
  init a := disconnectJournals.init a.journal ∧ a.accepted = []
  step a call a' := disconnectJournals.step a.journal call a'.journal ∧
    a'.accepted = a.accepted ++ acceptedBy call a.journal a'.journal

variable {a a' : DisconnectAudit} {calls : List DisconnectCall}

theorem unaudited (h : Run disconnectAudits a calls a') :
    Run disconnectJournals a.journal calls a'.journal := by
  induction h with
  | nil => exact .nil _
  | snoc _ hstep ih => exact ih.snoc hstep.1

theorem accepted_run (h : Run disconnectAudits a calls a') :
    ∃ more, a'.accepted = a.accepted ++ more := by
  induction h with
  | nil => exact ⟨[], (List.append_nil _).symm⟩
  | snoc _ hstep ih =>
    obtain ⟨more, hmore⟩ := ih
    exact ⟨_, by rw [hstep.2, hmore, List.append_assoc]⟩

namespace DisconnectJournal

variable {j j' : DisconnectJournal} {call : DisconnectCall} {id : DisconnectIntentId}
  {current next : DisconnectRecord}

inductive RecordStep (j j' : DisconnectJournal) (id : DisconnectIntentId) :
    DisconnectCall → DisconnectRecord → DisconnectRecord → Prop
  | same {call : DisconnectCall} {current : DisconnectRecord} :
      RecordStep j j' id call current current
  | leased {worker : WorkerId} {reply : Except DisconnectJournalError DisconnectRecord}
      {current : DisconnectRecord} (hpending : current.state = .pending) :
      RecordStep j j' id (.lease id worker reply) current (leasedRecord current worker)
  | dispatched {worker : WorkerId} {token : LeaseToken} {endpointDigest : Bytes 32}
      {reply : Except DisconnectJournalError DisconnectRecord} {current : DisconnectRecord}
      (hleased : current.state = .leased worker token) :
      RecordStep j j' id (.markDispatched id worker token endpointDigest reply) current
        { current with
          state := .dispatched (j.dispatchBinding id current worker token endpointDigest) }
  | lost {worker : WorkerId} {token : LeaseToken}
      {reply : Except DisconnectJournalError DisconnectRecord}
      {binding : DisconnectDispatchBinding} {current : DisconnectRecord}
      (hdispatched : current.state = .dispatched binding) :
      RecordStep j j' id (.markTransportLost id worker token reply) current
        { current with state := .indeterminate binding none }
  | retried {worker : WorkerId} {token : LeaseToken} {reason : Bytes 32}
      {reply : Except DisconnectJournalError (DisconnectRecord × RetryDisposition)}
      {current : DisconnectRecord} (hleased : current.state = .leased worker token) :
      RecordStep j j' id (.retryBeforeDispatch id worker token reason reply) current
        { current with
          state := if j.config.maxAttempts ≤ current.attempt then .deadLetter reason
            else .pending }
  | settled {evidence : DisconnectOutcomeEvidence} {verifier : DisconnectOutcomeVerifier}
      {reply : Except DisconnectJournalError (DisconnectRecord × ReconciliationDisposition)}
      {current : DisconnectRecord}
      (hundecided : Undecided evidence.binding evidence current.state)
      (haccepted : acceptedBy (.reconcile id evidence verifier reply) j j' =
        [⟨j.config.epoch, evidence⟩]) :
      RecordStep j j' id (.reconcile id evidence verifier reply) current
        (j.settledRecord current evidence.binding evidence)

theorem acceptedBy_same : acceptedBy call j j = [] := by
  unfold acceptedBy
  split
  · exact if_pos rfl
  · rfl

theorem acceptedBy_settled {evidence : DisconnectOutcomeEvidence}
    {verifier : DisconnectOutcomeVerifier} {reply : DisconnectRecord × ReconciliationDisposition}
    {remaining : Nat} (hfresh : evidence.verifierReceiptDigest ∉ j.verifierReceiptOwners) :
    acceptedBy (.reconcile id evidence verifier (.ok reply)) j
      (j.settled id current evidence remaining) = [⟨j.config.epoch, evidence⟩] := by
  refine if_neg fun hsame => hfresh ?_
  rw [← hsame]
  exact Finmap.mem_insert.mpr (.inl rfl)

theorem origin_insert {id' : DisconnectIntentId} {record : DisconnectRecord}
    (hcurrent : j.records.lookup id = some current) (hstep : RecordStep j j' id call current next)
    (hlookup : (j.records.insert id next).lookup id' = some record) :
    ∃ old, j.records.lookup id' = some old ∧ RecordStep j j' id' call old record := by
  rw [lookup_insert_ite] at hlookup
  split at hlookup
  · next heq =>
    cases hlookup
    obtain rfl : id' = id := heq
    exact ⟨current, hcurrent, hstep⟩
  · exact ⟨record, hlookup, .same⟩

theorem Moved.origin (h : Moved j call j') (hnext : j'.records.lookup id = some next) :
    (∃ current, j.records.lookup id = some current ∧ RecordStep j j' id call current next) ∨
      id ∉ j.records ∧ id ∉ j.tombstones ∧ next.state = .pending ∧ next.attempt = 0 := by
  cases h with
  | quiet | advanced => exact .inl ⟨next, hnext, .same⟩
  | inserted hfresh hnew =>
    dsimp only at hnext
    rw [lookup_insert_ite] at hnext
    split at hnext
    · next heq =>
      cases hnext
      cases heq
      exact .inr ⟨Finmap.lookup_eq_none.mp hfresh, hnew, rfl, rfl⟩
    · exact .inl ⟨next, hnext, .same⟩
  | leased hcurrent hpending => exact .inl (origin_insert hcurrent (.leased hpending) hnext)
  | dispatched hcurrent hleased => exact .inl (origin_insert hcurrent (.dispatched hleased) hnext)
  | lost hcurrent hdispatched => exact .inl (origin_insert hcurrent (.lost hdispatched) hnext)
  | retried hcurrent hleased => exact .inl (origin_insert hcurrent (.retried hleased) hnext)
  | settled hcurrent hundecided _ hfresh =>
    exact .inl (origin_insert hcurrent (.settled hundecided (acceptedBy_settled hfresh)) hnext)
  | archived =>
    dsimp only [DisconnectJournal.archived] at hnext
    rw [lookup_erase_ite] at hnext
    split at hnext
    · cases hnext
    · exact .inl ⟨next, hnext, .same⟩

theorem Moved.remains (h : Moved j call j') :
    j.config.epoch.value < j'.config.epoch.value ∨
      j'.config = j.config ∧ (∀ id ∈ j.tombstones, id ∈ j'.tombstones) ∧
        ∀ id ∈ j.records, id ∈ j'.records ∨ id ∈ j'.tombstones := by
  cases h with
  | quiet => exact .inr ⟨rfl, fun _ => id, fun _ => .inl⟩
  | inserted => exact .inr ⟨rfl, fun _ => id, fun _ hid => .inl (Finmap.mem_insert.mpr (.inr hid))⟩
  | leased | dispatched | lost | retried | settled =>
    exact .inr ⟨rfl, fun _ => id, fun _ hid => .inl (Finmap.mem_insert.mpr (.inr hid))⟩
  | @archived target =>
    refine .inr ⟨rfl, fun _ hid => Finmap.mem_insert.mpr (.inr hid), fun id hid => ?_⟩
    by_cases heq : id = target
    · exact .inr (Finmap.mem_insert.mpr (.inl heq))
    · exact .inl (Finmap.mem_erase.mpr ⟨heq, hid⟩)
  | advanced _ hlater => exact .inl hlater

def Lasting (p : DisconnectRecord → Prop) (epoch : DisconnectJournalEpoch) (id : DisconnectIntentId)
    (j : DisconnectJournal) : Prop :=
  epoch.value ≤ j.config.epoch.value ∧ (epoch = j.config.epoch →
    (∃ record, j.records.lookup id = some record ∧ p record) ∨ id ∈ j.tombstones)

variable {p : DisconnectRecord → Prop} {epoch : DisconnectJournalEpoch}

theorem Lasting.known (h : Lasting p epoch id j) (hepoch : epoch = j.config.epoch) :
    id ∈ j.records ∨ id ∈ j.tombstones := by
  rcases h.2 hepoch with ⟨record, hrecord, _⟩ | hgone
  · exact .inl (mem_of_lookup hrecord)
  · exact .inr hgone

theorem Lasting.moved (h : Lasting p epoch id j) (hmoved : Moved j call j')
    (hstep : ∀ current next, j.records.lookup id = some current →
      RecordStep j j' id call current next → p current → p next) : Lasting p epoch id j' := by
  obtain ⟨hle, hkept⟩ := h
  rcases hmoved.remains with hlater | ⟨hconfig, htombstones, hrecords⟩
  · refine ⟨UInt64.le_trans hle (UInt64.le_of_lt hlater), ?_⟩
    rintro rfl
    exact absurd hlater (UInt64.not_lt.mpr hle)
  · refine ⟨hconfig ▸ hle, fun hepoch => ?_⟩
    rw [hconfig] at hepoch
    rcases hkept hepoch with ⟨current, hcurrent, hp⟩ | hgone
    · have hin := mem_of_lookup hcurrent
      rcases hrecords id hin with hstays | harchived
      · obtain ⟨next, hnext⟩ := Finmap.mem_iff.mp hstays
        rcases hmoved.origin hnext with ⟨old, hold, hrecord⟩ | ⟨hfresh, _⟩
        · obtain rfl : current = old := Option.mem_unique hcurrent hold
          exact .inl ⟨next, hnext, hstep current next hcurrent hrecord hp⟩
        · exact absurd hin hfresh
      · exact .inr harchived
    · exact .inr (htombstones id hgone)

theorem RecordStep.attempt_le (h : RecordStep j j' id call current next) :
    current.attempt ≤ next.attempt := by
  cases h with
  | leased => exact Nat.le_succ _
  | same | dispatched | lost | retried | settled => exact le_rfl

theorem Moved.owners (h : Moved j call j') : j.config.epoch.value < j'.config.epoch.value ∨
    ∀ receipt ∈ j.verifierReceiptOwners, receipt ∈ j'.verifierReceiptOwners := by
  cases h with
  | quiet | inserted | leased | dispatched | lost | retried | archived => exact .inr fun _ => id
  | settled => exact .inr fun _ hin => Finmap.mem_insert.mpr (.inr hin)
  | advanced _ hlater => exact .inl hlater

end DisconnectJournal

open DisconnectJournal

theorem slots_le (state : DisconnectState) : slots state ≤ 2 := by
  unfold slots
  split <;> omega

def DisconnectAudit.attempts (a : DisconnectAudit) (id : DisconnectIntentId) (attempt : Nat) : Nat :=
  (a.accepted.map AcceptedEvidence.attempt).count (a.journal.config.epoch, id, attempt)

structure Logged (a : DisconnectAudit) : Prop where
  known : ∀ e ∈ a.accepted, Lasting (fun record => e.evidence.binding.attempt ≤ record.attempt)
    e.epoch e.evidence.binding.intentId a.journal
  owned : ∀ e ∈ a.accepted, e.epoch = a.journal.config.epoch →
    e.evidence.verifierReceiptDigest ∈ a.journal.verifierReceiptOwners
  once : (a.accepted.map AcceptedEvidence.receipt).Nodup
  twice : ∀ attempt, (a.accepted.map AcceptedEvidence.attempt).count attempt ≤ 2
  slots : ∀ id record, a.journal.records.lookup id = some record →
    a.attempts id record.attempt + slots record.state ≤ 2

variable {a a' : DisconnectAudit} {j : DisconnectJournal} {call : DisconnectCall}
  {id : DisconnectIntentId} {current : DisconnectRecord}

theorem attempts_eq_zero {attempt : Nat} (h : ∀ e ∈ a.accepted, e.epoch = a.journal.config.epoch →
    e.evidence.binding.intentId = id → e.evidence.binding.attempt ≠ attempt) :
    a.attempts id attempt = 0 := by
  refine List.count_eq_zero.mpr fun hmem => ?_
  obtain ⟨e, he, heq⟩ := List.mem_map.mp hmem
  obtain ⟨hepoch, hid, hattempt⟩ : e.epoch = a.journal.config.epoch ∧
      e.evidence.binding.intentId = id ∧ e.evidence.binding.attempt = attempt := by
    simpa [AcceptedEvidence.attempt] using heq
  exact h e he hepoch hid hattempt

theorem Logged.leaves (h : Logged a) (hsound : a.journal.Sound) {j' : DisconnectJournal}
    (hmoved : Moved a.journal call j') (hnone : acceptedBy call a.journal j' = []) : Logged ⟨j', a.accepted⟩ := by
  refine ⟨fun e he => (h.known e he).moved hmoved fun _ _ _ hstep hle => hle.trans hstep.attempt_le,
    ?_, h.once, h.twice, ?_⟩
  · intro e he hepoch
    have hpast := (h.known e he).1
    rcases hmoved.remains with hlater | ⟨hconfig, _⟩
    · rw [hepoch] at hpast
      exact absurd hlater (UInt64.not_lt.mpr hpast)
    · rcases hmoved.owners with hlater | howners
      · rw [hconfig] at hlater
        exact absurd hlater (UInt64.lt_irrefl _)
      · exact howners _ (h.owned e he (hconfig ▸ hepoch))
  · intro id record hrecord
    rcases hmoved.remains with hlater | ⟨hconfig, _⟩
    · have hzero : DisconnectAudit.attempts ⟨j', a.accepted⟩ id record.attempt = 0 := by
        refine attempts_eq_zero fun e he hepoch => ?_
        have hpast := (h.known e he).1
        rw [hepoch] at hpast
        exact absurd hlater (UInt64.not_lt.mpr hpast)
      have hslots := slots_le record.state
      omega
    · have hsame : ∀ attempt, DisconnectAudit.attempts ⟨j', a.accepted⟩ id attempt =
          a.attempts id attempt := by
        intro attempt
        unfold DisconnectAudit.attempts
        rw [hconfig]
      rw [hsame]
      rcases hmoved.origin hrecord with ⟨current, hcurrent, hstep⟩ | ⟨hfresh, hnew, hpending, _⟩
      · have hcount := h.slots id current hcurrent
        cases hstep with
        | same => exact hcount
        | @leased worker =>
          have hzero : a.attempts id (leasedRecord current worker).attempt = 0 := by
            refine attempts_eq_zero fun e he hepoch hid hattempt => ?_
            have hknown := h.known e he
            rcases hknown.2 hepoch with ⟨record, hrecord, hle⟩ | hgone
            · rw [hid, hcurrent] at hrecord
              cases hrecord
              rw [hattempt] at hle
              exact absurd hle (Nat.not_succ_le_self _)
            · exact absurd (hid ▸ hgone) (hsound.disjoint id (mem_of_lookup hcurrent))
          have hslots := slots_le (leasedRecord current worker).state
          omega
        | dispatched hleased =>
          rw [hleased] at hcount
          exact hcount
        | lost hdispatched =>
          rw [hdispatched] at hcount
          exact hcount
        | retried hleased =>
          rw [hleased] at hcount
          dsimp only
          split
          · exact Nat.le_of_add_right_le hcount
          · exact Nat.le_of_add_right_le hcount
        | settled _ haccepted =>
          rw [haccepted] at hnone
          cases hnone
      · have hzero : a.attempts id record.attempt = 0 := by
          refine attempts_eq_zero fun e he hepoch hid => ?_
          rcases (h.known e he).known hepoch with hin | hgone
          · exact absurd (hid ▸ hin) hfresh
          · exact absurd (hid ▸ hgone) hnew
        have hslots := slots_le record.state
        omega

theorem Logged.accepts (h : Logged a) (hsound : a.journal.Sound)
    {evidence : DisconnectOutcomeEvidence} {remaining : Nat}
    (hcurrent : a.journal.records.lookup id = some current)
    (hundecided : Undecided evidence.binding evidence current.state)
    (hid : evidence.binding.intentId = id)
    (hfresh : evidence.verifierReceiptDigest ∉ a.journal.verifierReceiptOwners)
    (hkept : ∀ e ∈ a.accepted, Lasting (fun record => e.evidence.binding.attempt ≤ record.attempt)
      e.epoch e.evidence.binding.intentId (a.journal.settled id current evidence remaining)) :
    Logged ⟨a.journal.settled id current evidence remaining,
      a.accepted ++ [⟨a.journal.config.epoch, evidence⟩]⟩ := by
  have hbound := (hsound.record id current hcurrent).bound _ (undecided_bound hundecided)
  have hcount := h.slots id current hcurrent
  have hslots := slots_undecided hundecided a.journal.config.maxAttempts current.attempt
  have hkey : AcceptedEvidence.attempt ⟨a.journal.config.epoch, evidence⟩ =
      (a.journal.config.epoch, id, current.attempt) := by
    rw [AcceptedEvidence.attempt, hid, hbound.2.2]
  refine ⟨?_, ?_, ?_, ?_, ?_⟩
  · intro e he
    rcases List.mem_append.mp he with hold | hnew
    · exact hkept e hold
    · cases List.mem_singleton.mp hnew
      refine ⟨UInt64.le_refl _, fun _ => .inl
        ⟨a.journal.settledRecord current evidence.binding evidence, ?_, hbound.2.2.le⟩⟩
      dsimp only
      rw [hid]
      exact Finmap.lookup_insert a.journal.records
  · intro e he hepoch
    refine Finmap.mem_insert.mpr ?_
    rcases List.mem_append.mp he with hold | hnew
    · exact .inr (h.owned e hold hepoch)
    · cases List.mem_singleton.mp hnew
      exact .inl rfl
  · rw [List.map_append, List.map_singleton]
    refine List.nodup_append.mpr ⟨h.once, List.nodup_singleton _, ?_⟩
    intro receipt hold other hnew heq
    obtain ⟨e, he, rfl⟩ := List.mem_map.mp hold
    cases List.mem_singleton.mp hnew
    obtain ⟨hepoch, hreceipt⟩ := Prod.mk.inj heq
    exact hfresh (hreceipt ▸ h.owned e he hepoch)
  · intro attempt
    rw [List.map_append, List.count_append, List.map_singleton, hkey, List.count_singleton]
    have htwice := h.twice attempt
    split
    · next heq =>
      rw [← eq_of_beq heq]
      unfold DisconnectAudit.attempts at hcount
      omega
    · exact htwice
  · intro id' record hrecord
    unfold DisconnectAudit.attempts
    dsimp only [DisconnectJournal.settled] at hrecord ⊢
    rw [List.map_append, List.count_append, List.map_singleton, hkey, List.count_singleton]
    rw [lookup_insert_ite] at hrecord
    split at hrecord
    · next heq =>
      cases hrecord
      rw [heq, settledRecord, if_pos (beq_self_eq_true _)]
      unfold DisconnectAudit.attempts at hcount
      dsimp only
      omega
    · next hne =>
      rw [if_neg fun heq => hne ?_]
      · exact h.slots id' record hrecord
      · exact (Prod.mk.inj (Prod.mk.inj (eq_of_beq heq)).2).1.symm

theorem Logged.step (h : Logged a) (hsound : a.journal.Sound)
    (hstep : disconnectAudits.step a call a') : Logged a' := by
  obtain ⟨j', accepted⟩ := a'
  obtain ⟨hcall, haccepted⟩ := hstep
  have hmoved : Moved a.journal call j' := DisconnectJournal.moved hcall
  obtain rfl : accepted = a.accepted ++ acceptedBy call a.journal j' := haccepted
  have hleaves : acceptedBy call a.journal j' = [] →
      Logged ⟨j', a.accepted ++ acceptedBy call a.journal j'⟩ := by
    intro hnone
    rw [hnone, List.append_nil]
    exact h.leaves hsound hmoved hnone
  have hkept : ∀ e ∈ a.accepted,
      Lasting (fun record => e.evidence.binding.attempt ≤ record.attempt) e.epoch
        e.evidence.binding.intentId j' :=
    fun e he => (h.known e he).moved hmoved fun _ _ _ hrecord hle => hle.trans hrecord.attempt_le
  cases hmoved with
  | quiet => exact hleaves acceptedBy_same
  | settled hcurrent hundecided hid hfresh =>
    rw [acceptedBy_settled hfresh]
    exact h.accepts hsound hcurrent hundecided hid hfresh hkept
  | inserted | leased | dispatched | lost | retried | archived | advanced => exact hleaves rfl

theorem logged_init (h : disconnectAudits.init a) : Logged a := by
  obtain ⟨⟨config, hnew⟩, hnone⟩ := h
  have hempty : a.journal.records = ∅ := by
    unfold DisconnectJournal.new at hnew
    simp only [bind_ok] at hnew
    obtain ⟨_, _, _, _, hresult⟩ := hnew
    rw [← Except.ok.inj hresult]
  have hmap : ∀ {β : Type} (f : AcceptedEvidence → β), a.accepted.map f = [] := by
    intro β f
    rw [hnone, List.map_nil]
  refine ⟨?_, ?_, ?_, ?_, ?_⟩
  · intro e he
    rw [hnone] at he
    cases he
  · intro e he
    rw [hnone] at he
    cases he
  · rw [hmap]
    exact List.nodup_nil
  · intro attempt
    rw [hmap]
    exact Nat.zero_le _
  · intro id record hrecord
    rw [hempty, Finmap.lookup_empty] at hrecord
    cases hrecord

variable {start : DisconnectAudit} {calls : List DisconnectCall}

theorem sound_audit (hinit : disconnectAudits.init start)
    (hrun : Run disconnectAudits start calls a) : a.journal.Sound :=
  sound_of_reachable ((Reachable.start hinit.1).run (unaudited hrun))

theorem logged_audit (hinit : disconnectAudits.init start)
    (hrun : Run disconnectAudits start calls a) : Logged a := by
  induction hrun with
  | nil => exact logged_init hinit
  | snoc hbefore hstep ih => exact ih.step (sound_audit hinit hbefore) hstep

theorem admission_implies_completion {start : DisconnectAudit} {calls : List DisconnectCall}
    (hinit : disconnectAudits.init start) (hrun : Run disconnectAudits start calls a) :
    (a.journal.verifierReceiptOwners.keys.card + a.journal.verifierReceiptReserved ≤
        a.journal.verifierReceiptCapacity ∧
      a.journal.records.keys.card + a.journal.tombstones.keys.card ≤
        a.journal.config.tombstoneCapacity ∧
      (∀ id record, a.journal.records.lookup id = some record →
        record.attempt ≤ a.journal.config.maxAttempts) ∧
      ∀ attempt, (a.accepted.map AcceptedEvidence.attempt).count attempt ≤ 2) ∧
    (∀ id worker error, a.journal.lease id worker = .error error → ¬ error.Stuck) ∧
    (∀ id evidence verifier error, a.journal.reconcile id evidence verifier = .error error →
      ¬ error.Stuck) ∧
    (∀ id operation error, a.journal.insert id operation = .error error → ¬ error.Stuck) ∧
    ∀ id record terminal archiveDigest, a.journal.records.lookup id = some record →
      terminalDigest record.state = some terminal → zeroBytes archiveDigest = false →
      ∃ tombstone j', a.journal.archiveTerminal id archiveDigest = .ok (tombstone, j') ∧
        j'.tombstones.lookup id = some tombstone ∧ id ∉ j'.records ∧
        id ∉ j'.verifierReceiptReservations := by
  have hsound := sound_audit hinit hrun
  refine ⟨⟨hsound.receipts, hsound.room, fun id record hrecord => (hsound.record id record hrecord).attempts,
    (logged_audit hinit hrun).twice⟩, ?_, ?_, ?_, ?_⟩
  · exact fun id worker error herror => (hsound.lease_unstuck id worker).of_error herror
  · exact fun id evidence verifier error herror =>
      (hsound.reconcile_unstuck id evidence verifier).of_error herror
  · exact fun id operation error herror => (hsound.insert_unstuck id operation).of_error herror
  · exact fun id record terminal archiveDigest hrecord hterminal hnonzero =>
      hsound.archivable hrecord hterminal hnonzero

def disconnectIntent : DisconnectIntentId := ⟨7, by decide⟩

def disconnectWorker : WorkerId := ⟨3, by decide⟩

def disconnectOperation : DisconnectOperation := ⟨1, Vector.replicate 32 5⟩

def disconnectConfig : DisconnectJournalConfig :=
  ⟨⟨Vector.replicate 16 1, ones_nonzero⟩, ⟨1, one_positive⟩, 1, 1, 1⟩

def disconnectJournal : DisconnectJournal := ⟨disconnectConfig, ∅, ∅, ∅, ∅, ∅, 2, none⟩

def disconnectRecord (attempt : Nat) (state : DisconnectState) : DisconnectRecord :=
  ⟨disconnectIntent, disconnectOperation, attempt, attempt, state⟩

def disconnectAdmitted (attempt : Nat) (state : DisconnectState) : DisconnectJournal :=
  { disconnectJournal with
    records := Finmap.singleton disconnectIntent (disconnectRecord attempt state)
    verifierReceiptReservations := Finmap.singleton disconnectIntent 2 }

def disconnectGivenUp : List DisconnectCall :=
  [.insert disconnectIntent disconnectOperation (.ok (disconnectRecord 0 .pending)),
    .lease disconnectIntent disconnectWorker (.ok (disconnectRecord 1 (.leased disconnectWorker 1))),
    .retryBeforeDispatch disconnectIntent disconnectWorker 1 (Vector.replicate 32 9)
      (.ok (disconnectRecord 1 (.deadLetter (Vector.replicate 32 9)), .deadLettered))]

theorem disconnect_init : disconnectAudits.init ⟨disconnectJournal, []⟩ := ⟨⟨disconnectConfig, rfl⟩, rfl⟩

theorem disconnect_given_up : Run disconnectAudits ⟨disconnectJournal, []⟩ disconnectGivenUp
    ⟨disconnectAdmitted 1 (.deadLetter (Vector.replicate 32 9)), []⟩ := by
  refine .cons (t := DisconnectAudit.mk (disconnectAdmitted 0 .pending) []) ⟨rfl, rfl⟩ ?_
  refine .cons (t := DisconnectAudit.mk (disconnectAdmitted 1 (.leased disconnectWorker 1)) []) ⟨rfl, rfl⟩ ?_
  exact .single ⟨rfl, rfl⟩

theorem admission_implies_completion_sample : ∃ tombstone j',
    (disconnectAdmitted 1 (.deadLetter (Vector.replicate 32 9))).archiveTerminal disconnectIntent
      (Vector.replicate 32 4) = .ok (tombstone, j') ∧
    j'.tombstones.lookup disconnectIntent = some tombstone ∧ disconnectIntent ∉ j'.records ∧
    disconnectIntent ∉ j'.verifierReceiptReservations :=
  (admission_implies_completion disconnect_init disconnect_given_up).2.2.2.2 disconnectIntent _ _ _ rfl rfl
    (by decide)

open Persistence (two_positive)

def dispatchOf : DisconnectCall → Option DisconnectDispatchBinding
  | .markDispatched _ _ _ _ (.ok record) => openBinding record.state
  | _ => none

def dispatchedBindings (calls : List DisconnectCall) : List DisconnectDispatchBinding :=
  calls.filterMap dispatchOf

namespace DisconnectJournal

variable {j j' : DisconnectJournal} {call : DisconnectCall} {id : DisconnectIntentId}
  {current next : DisconnectRecord} {binding : DisconnectDispatchBinding}

def Written (binding : DisconnectDispatchBinding) (record : DisconnectRecord) : Prop :=
  binding ∈ openBinding record.state ∨ terminalDigest record.state ≠ none

def Terminal (record : DisconnectRecord) : Prop := terminalDigest record.state ≠ none

def Spent (binding : DisconnectDispatchBinding) (record : DisconnectRecord) : Prop :=
  binding.attempt ≤ record.attempt ∧
    ∀ worker token, record.state = .leased worker token → binding.attempt < record.attempt

variable {evidence : DisconnectOutcomeEvidence}

theorem openBinding_undecided {state : DisconnectState}
    (hundecided : Undecided evidence.binding evidence state) (h : binding ∈ openBinding state) :
    binding = evidence.binding := Option.mem_unique h (undecided_bound hundecided)

theorem RecordStep.terminal (h : RecordStep j j' id call current next)
    (hterminal : Terminal current) : Terminal next := by
  unfold Terminal at hterminal
  cases h with
  | same => exact hterminal
  | leased hstate | dispatched hstate | lost hstate | retried hstate =>
    rw [hstate] at hterminal
    exact absurd rfl hterminal
  | settled hundecided =>
    generalize hstate : current.state = state at hundecided hterminal
    cases hundecided with
    | dispatched | lost | unknown => exact absurd rfl hterminal

theorem outcomeState_written {maxAttempts attempt : Nat}
    (hkind : evidence.kind ≠ .definitelyNotApplied) :
    evidence.binding ∈ openBinding (outcomeState maxAttempts attempt evidence.binding evidence).1 ∨
      terminalDigest (outcomeState maxAttempts attempt evidence.binding evidence).1 ≠ none := by
  unfold outcomeState
  split
  · exact .inr (by simp [terminalDigest])
  · next hproved => exact absurd hproved hkind
  · exact .inr (by simp [terminalDigest])
  · exact .inl rfl

theorem RecordStep.written (h : RecordStep j j' id call current next)
    (hwritten : Written binding current) :
    Written binding next ∨ ∃ e ∈ acceptedBy call j j',
      e.evidence.kind = .definitelyNotApplied ∧ e.evidence.binding = binding := by
  cases h with
  | same => exact .inl hwritten
  | leased hstate | dispatched hstate | retried hstate =>
    unfold Written at hwritten
    rw [hstate] at hwritten
    rcases hwritten with hopen | hterminal
    · cases hopen
    · exact absurd rfl hterminal
  | lost hstate =>
    unfold Written at hwritten
    rw [hstate] at hwritten
    rcases hwritten with hopen | hterminal
    · exact .inl (.inl hopen)
    · exact absurd rfl hterminal
  | @settled evidence _ _ _ hundecided haccepted =>
    have hopen : binding ∈ openBinding current.state := by
      rcases hwritten with hopen | hterminal
      · exact hopen
      · generalize current.state = state at hundecided hterminal
        cases hundecided with
        | dispatched | lost | unknown => exact absurd rfl hterminal
    cases openBinding_undecided hundecided hopen
    by_cases hkind : evidence.kind = .definitelyNotApplied
    · rw [haccepted]
      exact .inr ⟨_, List.mem_cons_self, hkind, rfl⟩
    · exact .inl (outcomeState_written hkind)

theorem RecordStep.spent (h : RecordStep j j' id call current next)
    (hspent : Spent binding current) : Spent binding next := by
  obtain ⟨hle, hleased⟩ := hspent
  cases h with
  | same => exact ⟨hle, hleased⟩
  | leased => exact ⟨hle.trans (Nat.le_succ _), fun _ _ _ => Nat.lt_succ_of_le hle⟩
  | dispatched | lost => exact ⟨hle, nofun⟩
  | retried =>
    refine ⟨hle, fun worker token hstate => ?_⟩
    dsimp only at hstate
    split at hstate
    · cases hstate
    · cases hstate
  | @settled evidence =>
    refine ⟨hle, fun worker token hstate => ?_⟩
    dsimp only [settledRecord] at hstate
    unfold outcomeState at hstate
    split at hstate
    · cases hstate
    · split at hstate
      · cases hstate
      · cases hstate
    · cases hstate
    · cases hstate

theorem moved_dispatched {worker : WorkerId} {token : LeaseToken} {endpointDigest : Bytes 32}
    {record : DisconnectRecord}
    (h : Moved j (.markDispatched id worker token endpointDigest (.ok record)) j') :
    ∃ current, j.records.lookup id = some current ∧ current.state = .leased worker token ∧
      record = { current with
        state := .dispatched (j.dispatchBinding id current worker token endpointDigest) } ∧
      j' = j.withRecord id record := by
  cases h with
  | quiet hquiet =>
    obtain ⟨error, herror⟩ := hquiet
    cases herror
  | dispatched hcurrent hleased => exact ⟨_, hcurrent, hleased, rfl, rfl⟩

theorem Sound.kept_leased (hsound : j.Sound) {p : DisconnectRecord → Prop}
    {epoch : DisconnectJournalEpoch} (hkept : Lasting p epoch id j) (hepoch : epoch = j.config.epoch)
    (hcurrent : j.records.lookup id = some current) : p current := by
  rcases hkept.2 hepoch with ⟨record, hrecord, hp⟩ | hgone
  · cases Option.mem_unique hrecord hcurrent
    exact hp
  · exact absurd hgone (hsound.disjoint id (mem_of_lookup hcurrent))

end DisconnectJournal

variable {start a a' : DisconnectAudit} {calls : List DisconnectCall} {id : DisconnectIntentId}
  {epoch : DisconnectJournalEpoch} {binding : DisconnectDispatchBinding}

theorem kept_run {p : DisconnectRecord → Prop}
    (hstep : ∀ j j' call id current next, RecordStep j j' id call current next → p current → p next)
    (hrun : Run disconnectAudits a calls a') (h : Lasting p epoch id a.journal) :
    Lasting p epoch id a'.journal := by
  induction hrun with
  | nil => exact h
  | snoc _ hcall ih =>
    exact ih.moved (moved hcall.1) fun _ _ _ hrecord => hstep _ _ _ _ _ _ hrecord

theorem written_run (hrun : Run disconnectAudits a calls a')
    (h : Lasting (Written binding) epoch id a.journal) :
    Lasting (Written binding) epoch id a'.journal ∨ ∃ more, a'.accepted = a.accepted ++ more ∧
      ∃ e ∈ more, e.evidence.kind = .definitelyNotApplied ∧ e.evidence.binding = binding := by
  induction hrun with
  | nil => exact .inl h
  | @snoc middle last _ call _ hcall ih =>
    rcases ih with hkept | ⟨more, hmore, e, he, hproof⟩
    · by_cases hproved : ∃ e ∈ acceptedBy call middle.journal last.journal,
          e.evidence.kind = .definitelyNotApplied ∧ e.evidence.binding = binding
      · obtain ⟨before, hbefore⟩ := accepted_run ‹Run disconnectAudits a _ middle›
        obtain ⟨e, he, hproof⟩ := hproved
        refine .inr ⟨before ++ _, ?_, e, List.mem_append_right before he, hproof⟩
        rw [hcall.2, hbefore, List.append_assoc]
      · exact .inl (hkept.moved (moved hcall.1) fun _ _ _ hrecord hwritten =>
          (hrecord.written hwritten).resolve_right hproved)
    · refine .inr ⟨more ++ acceptedBy call middle.journal last.journal, ?_, e,
        List.mem_append_left _ he, hproof⟩
      rw [hcall.2, hmore, List.append_assoc]

structure SpentAll (bindings : List DisconnectDispatchBinding) (j : DisconnectJournal) : Prop where
  spent : ∀ binding ∈ bindings, Lasting (Spent binding) binding.journalEpoch binding.intentId j
  nodup : bindings.Nodup

theorem SpentAll.dispatched {bindings : List DisconnectDispatchBinding} {j j' : DisconnectJournal}
    {call : DisconnectCall} (h : SpentAll bindings j) (hsound : j.Sound) (hmoved : Moved j call j') :
    SpentAll (bindings ++ (dispatchOf call).toList) j' := by
  have hspent : ∀ binding ∈ bindings,
      Lasting (Spent binding) binding.journalEpoch binding.intentId j' :=
    fun binding hbinding => (h.spent binding hbinding).moved hmoved
      fun _ _ _ hrecord hold => hrecord.spent hold
  cases hdispatch : dispatchOf call with
  | none =>
    rw [Option.toList_none, List.append_nil]
    exact ⟨hspent, h.nodup⟩
  | some binding =>
    unfold dispatchOf at hdispatch
    split at hdispatch
    · next id worker token endpointDigest record =>
      obtain ⟨current, hcurrent, hleased, rfl, rfl⟩ := moved_dispatched hmoved
      cases hdispatch
      rw [Option.toList_some]
      constructor
      · intro binding hbinding
        rcases List.mem_append.mp hbinding with hold | hnew
        · exact hspent binding hold
        · cases List.mem_singleton.mp hnew
          exact ⟨UInt64.le_refl _, fun _ =>
            .inl ⟨_, Finmap.lookup_insert j.records, le_rfl, nofun⟩⟩
      · refine List.nodup_append.mpr ⟨h.nodup, List.nodup_singleton _, ?_⟩
        rintro binding hold other hnew rfl
        cases List.mem_singleton.mp hnew
        have hkept := hsound.kept_leased (h.spent _ hold) rfl hcurrent
        exact absurd (hkept.2 worker token hleased) (Nat.lt_irrefl _)
    · cases hdispatch

theorem spent_audit (hinit : disconnectAudits.init start) (hrun : Run disconnectAudits start calls a) :
    SpentAll (dispatchedBindings calls) a.journal := by
  induction hrun with
  | nil => exact ⟨nofun, List.nodup_nil⟩
  | @snoc _ _ _ call hbefore hcall ih =>
    unfold dispatchedBindings
    rw [List.filterMap_append]
    have hnext := ih.dispatched (sound_audit hinit hbefore) (moved hcall.1)
    have hlast : [call].filterMap dispatchOf = (dispatchOf call).toList := by
      cases hdispatch : dispatchOf call <;> simp [hdispatch]
    rw [hlast]
    exact hnext

theorem never_writes_twice (hinit : disconnectAudits.init start)
    (hrun : Run disconnectAudits start calls a) :
    (∀ id worker token endpointDigest record a₁ between a₂ worker' token' endpointDigest' record' a₃,
      disconnectAudits.step a (.markDispatched id worker token endpointDigest (.ok record)) a₁ →
      Run disconnectAudits a₁ between a₂ →
      disconnectAudits.step a₂ (.markDispatched id worker' token' endpointDigest' (.ok record')) a₃ →
      a₂.journal.config.epoch = a.journal.config.epoch →
      ∃ more, a₂.accepted = a₁.accepted ++ more ∧ ∃ e ∈ more,
        e.evidence.kind = .definitelyNotApplied ∧ record.state = .dispatched e.evidence.binding) ∧
    (∀ id record after a₁ worker token endpointDigest reply a₂,
      a.journal.records.lookup id = some record → terminalDigest record.state ≠ none →
      Run disconnectAudits a after a₁ → a₁.journal.config.epoch = a.journal.config.epoch →
      disconnectAudits.step a₁ (.markDispatched id worker token endpointDigest reply) a₂ →
      ∃ error, reply = .error error) ∧
    (dispatchedBindings calls).Nodup ∧
    (a.accepted.map AcceptedEvidence.receipt).Nodup := by
  refine ⟨?_, ?_, (spent_audit hinit hrun).nodup, (logged_audit hinit hrun).once⟩
  · intro id worker token endpointDigest record a₁ between a₂ worker' token' endpointDigest' record'
      a₃ hfirst hbetween hsecond hepoch
    obtain ⟨current, hcurrent, _, rfl, hwritten⟩ := moved_dispatched (moved hfirst.1)
    obtain ⟨leased, hheld, hleased, _⟩ := moved_dispatched (moved hsecond.1)
    have hsound := sound_audit hinit ((hrun.snoc hfirst).append hbetween)
    have hkept : Lasting (Written (a.journal.dispatchBinding id current worker token endpointDigest))
        a.journal.config.epoch id a₁.journal := by
      rw [hwritten]
      exact ⟨UInt64.le_refl _, fun _ => .inl ⟨_, Finmap.lookup_insert a.journal.records, .inl rfl⟩⟩
    rcases written_run hbetween hkept with hstill | ⟨more, hmore, e, he, hkind, hbinding⟩
    · have hopen := hsound.kept_leased hstill hepoch.symm hheld
      unfold Written at hopen
      rw [hleased] at hopen
      rcases hopen with hopen | hterminal
      · cases hopen
      · exact absurd rfl hterminal
    · exact ⟨more, hmore, e, he, hkind, by rw [hbinding]⟩
  · intro id record after a₁ worker token endpointDigest reply a₂ hrecord hterminal hafter hepoch
      hcall
    cases reply with
    | error error => exact ⟨error, rfl⟩
    | ok dispatched =>
      obtain ⟨leased, hheld, hleased, _⟩ := moved_dispatched (moved hcall.1)
      have hsound := sound_audit hinit (hrun.append hafter)
      have hkept : Lasting Terminal a.journal.config.epoch id a.journal :=
        ⟨UInt64.le_refl _, fun _ => .inl ⟨record, hrecord, hterminal⟩⟩
      have hstill := kept_run (fun _ _ _ _ _ _ hstep hp => hstep.terminal hp) hafter hkept
      have hover := hsound.kept_leased hstill hepoch.symm hheld
      unfold Terminal at hover
      rw [hleased] at hover
      exact absurd rfl hover

def secondEpoch : DisconnectJournalEpoch := ⟨2, two_positive⟩

def disconnectTombstone : DisconnectArchiveTombstone :=
  ⟨disconnectConfig.journalId, disconnectConfig.epoch, disconnectIntent, disconnectOperation, Vector.replicate 32 9,
    Vector.replicate 32 4⟩

def disconnectAgain : List DisconnectCall :=
  [.archiveTerminal disconnectIntent (Vector.replicate 32 4) (.ok disconnectTombstone),
    .advanceEpoch secondEpoch (Vector.replicate 32 6) (.ok ()),
    .insert disconnectIntent disconnectOperation (.ok (disconnectRecord 0 .pending)),
    .lease disconnectIntent disconnectWorker (.ok (disconnectRecord 1 (.leased disconnectWorker 1)))]

def inNextEpoch (j : DisconnectJournal) : DisconnectJournal :=
  { j with
    config := { disconnectConfig with epoch := secondEpoch }
    lastEpochCheckpoint := some (Vector.replicate 32 6) }

def disconnectReplay : DisconnectDispatchBinding :=
  ⟨disconnectConfig.journalId, secondEpoch, disconnectIntent, disconnectOperation, 1, disconnectWorker, 1,
    Vector.replicate 32 8⟩

theorem disconnect_again : Run disconnectAudits
    ⟨disconnectAdmitted 1 (.deadLetter (Vector.replicate 32 9)), []⟩ disconnectAgain
    ⟨inNextEpoch (disconnectAdmitted 1 (.leased disconnectWorker 1)), []⟩ := by
  refine .cons (t := DisconnectAudit.mk { disconnectJournal with
    tombstones := Finmap.singleton disconnectIntent disconnectTombstone } []) ⟨rfl, rfl⟩ ?_
  refine .cons (t := DisconnectAudit.mk (inNextEpoch disconnectJournal) []) ⟨rfl, rfl⟩ ?_
  refine .cons (t := DisconnectAudit.mk (inNextEpoch (disconnectAdmitted 0 .pending)) [])
    ⟨rfl, rfl⟩ ?_
  exact .single ⟨rfl, rfl⟩

theorem disconnect_replayed : disconnectAudits.step
    ⟨inNextEpoch (disconnectAdmitted 1 (.leased disconnectWorker 1)), []⟩
    (.markDispatched disconnectIntent disconnectWorker 1 (Vector.replicate 32 8)
      (.ok (disconnectRecord 1 (.dispatched disconnectReplay))))
    ⟨inNextEpoch (disconnectAdmitted 1 (.dispatched disconnectReplay)), []⟩ := ⟨rfl, rfl⟩

theorem terminal_intent_written_next_epoch :
    ¬ ∀ start a calls id record after a₁ worker token endpointDigest reply a₂,
      disconnectAudits.init start → Run disconnectAudits start calls a →
      a.journal.records.lookup id = some record → terminalDigest record.state ≠ none →
      Run disconnectAudits a after a₁ →
      disconnectAudits.step a₁ (.markDispatched id worker token endpointDigest reply) a₂ →
      ∃ error, reply = .error error := by
  intro h
  obtain ⟨error, herror⟩ := h _ _ _ disconnectIntent _ _ _ _ _ _ _ _ disconnect_init disconnect_given_up rfl nofun
    disconnect_again disconnect_replayed
  cases herror

def retriedBinding (attempt : Nat) : DisconnectDispatchBinding :=
  ⟨disconnectConfig.journalId, disconnectConfig.epoch, disconnectIntent, disconnectOperation, attempt,
    disconnectWorker, attempt, Vector.replicate 32 8⟩

def retriedJournal : DisconnectJournal :=
  { disconnectJournal with
    config := { disconnectConfig with maxAttempts := 2 }
    verifierReceiptCapacity := 4 }

def retriedAudit (attempt : Nat) (state : DisconnectState) (accepted : List AcceptedEvidence) :
    DisconnectAudit :=
  ⟨{ retriedJournal with
      records := Finmap.singleton disconnectIntent (disconnectRecord attempt state)
      verifierReceiptOwners := accepted.foldr
        (fun e => Finmap.insert e.evidence.verifierReceiptDigest disconnectIntent) ∅
      verifierReceiptReservations := Finmap.singleton disconnectIntent (4 - accepted.length) }, accepted⟩

def notApplied : AcceptedEvidence :=
  ⟨disconnectConfig.epoch, retriedBinding 1, .definitelyNotApplied, Vector.replicate 32 9,
    Vector.replicate 32 6⟩

def leaseOf (attempt : Nat) : DisconnectCall :=
  .lease disconnectIntent disconnectWorker
    (.ok (disconnectRecord attempt (.leased disconnectWorker attempt)))

def dispatchOn (attempt : Nat) : DisconnectCall :=
  .markDispatched disconnectIntent disconnectWorker attempt (Vector.replicate 32 8)
    (.ok (disconnectRecord attempt (.dispatched (retriedBinding attempt))))

def retriedOpening : List DisconnectCall :=
  [.insert disconnectIntent disconnectOperation (.ok (disconnectRecord 0 .pending)), leaseOf 1]

def retriedBetween : List DisconnectCall :=
  [.reconcile disconnectIntent notApplied.evidence (fun _ => true)
    (.ok (disconnectRecord 1 .pending, .pending)), leaseOf 2]

theorem retried_opening : Run disconnectAudits ⟨retriedJournal, []⟩ retriedOpening
    (retriedAudit 1 (.leased disconnectWorker 1) []) := by
  refine .cons (t := retriedAudit 0 .pending []) ⟨rfl, rfl⟩ ?_
  exact .single ⟨rfl, rfl⟩

theorem retried_between : Run disconnectAudits (retriedAudit 1 (.dispatched (retriedBinding 1)) [])
    retriedBetween (retriedAudit 2 (.leased disconnectWorker 2) [notApplied]) := by
  refine .cons (t := retriedAudit 1 .pending [notApplied]) ⟨rfl, rfl⟩ ?_
  exact .single ⟨rfl, rfl⟩

theorem retried_first : disconnectAudits.step (retriedAudit 1 (.leased disconnectWorker 1) [])
    (dispatchOn 1) (retriedAudit 1 (.dispatched (retriedBinding 1)) []) := ⟨rfl, rfl⟩

theorem retried_second :
    disconnectAudits.step (retriedAudit 2 (.leased disconnectWorker 2) [notApplied]) (dispatchOn 2)
      (retriedAudit 2 (.dispatched (retriedBinding 2)) [notApplied]) := ⟨rfl, rfl⟩

theorem never_writes_twice_sample :
    (∃ more, [notApplied] = [] ++ more ∧ ∃ e ∈ more, e.evidence.kind = .definitelyNotApplied ∧
      DisconnectState.dispatched (retriedBinding 1) = .dispatched e.evidence.binding) ∧
    dispatchedBindings (retriedOpening ++ dispatchOn 1 :: retriedBetween ++ [dispatchOn 2]) =
      [retriedBinding 1, retriedBinding 2] ∧
    (dispatchedBindings (retriedOpening ++ dispatchOn 1 :: retriedBetween ++ [dispatchOn 2])).Nodup := by
  have hinit : disconnectAudits.init ⟨retriedJournal, []⟩ := ⟨⟨retriedJournal.config, rfl⟩, rfl⟩
  have hrun := (retried_opening.append (.cons retried_first retried_between)).snoc retried_second
  exact ⟨(never_writes_twice hinit retried_opening).1 _ _ _ _ _ _ _ _ _ _ _ _ _ retried_first
    retried_between retried_second rfl, rfl, (never_writes_twice hinit hrun).2.2.1⟩

end Presence
