import TrillionniumGame.Presence.DisconnectMoves

namespace Presence
open Checks FiniteMap Runs Words
open Persistence (Bytes zeroBytes)

def slots : DisconnectState → Nat
  | .pending => 0
  | .leased .. => 2
  | .dispatched _ => 2
  | .indeterminate _ none => 2
  | .indeterminate _ (some _) => 1
  | .applied .. => 0
  | .rejected .. => 0
  | .deadLetter _ => 0

def openBinding : DisconnectState → Option DisconnectDispatchBinding
  | .dispatched binding => some binding
  | .indeterminate binding _ => some binding
  | _ => none

structure RecordSound (config : DisconnectJournalConfig) (reserved : Option Nat)
    (id : DisconnectIntentId) (record : DisconnectRecord) : Prop where
  generation : record.leaseGeneration = record.attempt
  attempts : record.attempt ≤ config.maxAttempts
  pending : record.state = .pending → record.attempt < config.maxAttempts
  bound : ∀ binding ∈ openBinding record.state, binding.journalEpoch = config.epoch ∧
    binding.intentId = id ∧ binding.attempt = record.attempt
  reserved : ∃ remaining ∈ reserved,
    2 * (config.maxAttempts - record.attempt) + slots record.state ≤ remaining

def DisconnectJournalError.Stuck : DisconnectJournalError → Prop
  | .verifierReceiptBudgetOverflow => True
  | .verifierReceiptCapacityExceeded _ => True
  | .verifierReceiptReservationMissing _ => True
  | .leaseGenerationExhausted => True
  | _ => False

namespace DisconnectJournal

structure Sound (j : DisconnectJournal) : Prop where
  attempts : 0 < j.config.maxAttempts ∧ j.config.maxAttempts ≤ maxDisconnectAttempts
  tombstones : j.config.tombstoneCapacity ≤ maxDisconnectTombstones
  capacity : j.verifierReceiptCapacity = j.config.tombstoneCapacity * (j.config.maxAttempts * 2) ∧
    j.verifierReceiptCapacity ≤ maxDisconnectVerifierReceipts
  disjoint : ∀ id ∈ j.records, id ∉ j.tombstones
  room : j.records.keys.card + j.tombstones.keys.card ≤ j.config.tombstoneCapacity
  reserved : ∀ id, id ∈ j.verifierReceiptReservations ↔ id ∈ j.records
  record : ∀ id record, j.records.lookup id = some record →
    RecordSound j.config (j.verifierReceiptReservations.lookup id) id record
  budget : j.verifierReceiptOwners.keys.card + j.verifierReceiptReserved ≤
    (j.records.keys.card + j.tombstones.keys.card) * (j.config.maxAttempts * 2)

variable {j j' : DisconnectJournal} {id : DisconnectIntentId} {current : DisconnectRecord}
  {config : DisconnectJournalConfig} {reservation : Nat}

theorem perIntent_ok (h : config.verifierReceiptsPerIntent = .ok reservation) :
    reservation = config.maxAttempts * 2 := (fits_some.mp (fetch_ok.mp h)).2

theorem capacity_ok {capacity : Nat} (h : config.verifierReceiptCapacity = .ok capacity) :
    capacity = config.tombstoneCapacity * (config.maxAttempts * 2) := by
  obtain ⟨reservation, hreservation, hcapacity⟩ := bind_ok.mp h
  rw [← perIntent_ok hreservation]
  exact (fits_some.mp (fetch_ok.mp hcapacity)).2

theorem sound_new (h : new config = .ok j) : j.Sound := by
  unfold new at h
  simp only [bind_ok] at h
  obtain ⟨valid, hvalid, capacity, hcapacity, hresult⟩ := h
  cases hresult
  unfold DisconnectJournalConfig.validate at hvalid
  simp only [bind_ok, require_ok] at hvalid
  obtain ⟨_, hpositive, _, _, _, htombstones, _, hattempts, limit, hlimit, _, hle, hconfig⟩ := hvalid
  cases hconfig
  obtain rfl : limit = capacity := Except.ok.inj (hlimit.symm.trans hcapacity)
  have hsome : 0 < config.maxAttempts := Nat.pos_of_ne_zero fun hzero => hpositive (.inr (.inr hzero))
  refine ⟨⟨hsome, hattempts⟩, htombstones, ⟨capacity_ok hcapacity, hle⟩, ?_, ?_, ?_, ?_, ?_⟩
  · exact fun id hid => absurd hid Finmap.notMem_empty
  · simp
  · exact fun id => ⟨fun hid => absurd hid Finmap.notMem_empty,
      fun hid => absurd hid Finmap.notMem_empty⟩
  · intro id record hlookup
    rw [Finmap.lookup_empty] at hlookup
    cases hlookup
  · simp [verifierReceiptReserved, total_empty]

theorem Sound.withRecord (h : j.Sound) (hcurrent : j.records.lookup id = some current)
    {next : DisconnectRecord}
    (hnext : RecordSound j.config (j.verifierReceiptReservations.lookup id) id next) :
    (j.withRecord id next).Sound := by
  have hin := mem_of_lookup hcurrent
  have hkeys : (j.withRecord id next).records.keys = j.records.keys := keys_insert_of_mem hin next
  have hmem : ∀ id', id' ∈ (j.withRecord id next).records ↔ id' ∈ j.records := by
    intro id'
    rw [← Finmap.mem_keys, hkeys, Finmap.mem_keys]
  refine ⟨h.attempts, h.tombstones, h.capacity, fun id' hid' => h.disjoint id' ((hmem id').mp hid'),
    hkeys ▸ h.room, fun id' => (h.reserved id').trans (hmem id').symm, ?_, hkeys ▸ h.budget⟩
  intro id' record hlookup
  rw [DisconnectJournal.withRecord, lookup_insert_ite] at hlookup
  split at hlookup
  · next heq =>
    cases hlookup
    rw [heq]
    exact hnext
  · exact h.record id' record hlookup

theorem Sound.leased (h : j.Sound) {worker : WorkerId}
    (hcurrent : j.records.lookup id = some current) (hpending : current.state = .pending) :
    (j.withRecord id (leasedRecord current worker)).Sound := by
  have hrecord := h.record id current hcurrent
  have hroom := hrecord.pending hpending
  obtain ⟨remaining, hremaining, hle⟩ := hrecord.reserved
  rw [hpending, slots] at hle
  refine h.withRecord hcurrent ⟨?_, hroom, nofun, nofun, remaining, hremaining, ?_⟩
  · exact congrArg (· + 1) hrecord.generation
  · dsimp only [leasedRecord, slots]
    omega

variable {worker : WorkerId} {token : LeaseToken}

theorem Sound.dispatched (h : j.Sound) {endpointDigest : Bytes 32}
    (hcurrent : j.records.lookup id = some current)
    (hleased : current.state = .leased worker token) :
    (j.withRecord id { current with
      state := .dispatched (j.dispatchBinding id current worker token endpointDigest) }).Sound := by
  have hrecord := h.record id current hcurrent
  obtain ⟨remaining, hremaining, hle⟩ := hrecord.reserved
  rw [hleased] at hle
  refine h.withRecord hcurrent ⟨hrecord.generation, hrecord.attempts, nofun, ?_, remaining,
    hremaining, hle⟩
  intro binding hbinding
  cases hbinding
  exact ⟨rfl, rfl, rfl⟩

theorem Sound.lost (h : j.Sound) {binding : DisconnectDispatchBinding}
    (hcurrent : j.records.lookup id = some current)
    (hdispatched : current.state = .dispatched binding) :
    (j.withRecord id { current with state := .indeterminate binding none }).Sound := by
  have hrecord := h.record id current hcurrent
  obtain ⟨remaining, hremaining, hle⟩ := hrecord.reserved
  have hbound := hrecord.bound
  rw [hdispatched] at hle hbound
  exact h.withRecord hcurrent ⟨hrecord.generation, hrecord.attempts, nofun, hbound, remaining,
    hremaining, hle⟩

theorem Sound.retried (h : j.Sound) {reason : Bytes 32}
    (hcurrent : j.records.lookup id = some current)
    (hleased : current.state = .leased worker token) :
    (j.withRecord id { current with
      state := if j.config.maxAttempts ≤ current.attempt then .deadLetter reason
        else .pending }).Sound := by
  have hrecord := h.record id current hcurrent
  obtain ⟨remaining, hremaining, hle⟩ := hrecord.reserved
  rw [hleased, slots] at hle
  refine h.withRecord hcurrent ⟨hrecord.generation, hrecord.attempts, ?_, ?_, remaining,
    hremaining, ?_⟩
  · dsimp only
    split
    · exact nofun
    · exact fun _ => by omega
  · dsimp only
    split
    · exact nofun
    · exact nofun
  · dsimp only
    split
    · rw [slots]
      omega
    · rw [slots]
      omega

theorem Sound.inserted (h : j.Sound) {operation : DisconnectOperation}
    (hfresh : j.records.lookup id = none) (hnew : id ∉ j.tombstones)
    (hroom : min (j.records.keys.card + j.tombstones.keys.card) (2 ^ 64 - 1) <
      j.config.tombstoneCapacity)
    (hreservation : j.config.verifierReceiptsPerIntent = .ok reservation) :
    Sound { j with
      records := j.records.insert id ⟨id, operation, 0, 0, .pending⟩
      verifierReceiptReservations := j.verifierReceiptReservations.insert id reservation } := by
  cases perIntent_ok hreservation
  have habsent : id ∉ j.records := Finmap.lookup_eq_none.mp hfresh
  have hunreserved : id ∉ j.verifierReceiptReservations := fun hin => habsent ((h.reserved id).mp hin)
  have htombstones := h.tombstones
  rw [maxDisconnectTombstones] at htombstones
  have hcard := card_keys_insert habsent ⟨id, operation, 0, 0, .pending⟩
  have htotal := total_insert_new hunreserved (j.config.maxAttempts * 2)
  refine ⟨h.attempts, h.tombstones, h.capacity, ?_, ?_, ?_, ?_, ?_⟩
  · intro id' hid'
    rcases Finmap.mem_insert.mp hid' with rfl | hold
    · exact hnew
    · exact h.disjoint id' hold
  · dsimp only
    rw [hcard]
    omega
  · intro id'
    dsimp only
    rw [Finmap.mem_insert, Finmap.mem_insert, h.reserved]
  · intro id' record hlookup
    dsimp only at hlookup ⊢
    rw [lookup_insert_ite] at hlookup ⊢
    split at hlookup
    · next heq =>
      cases hlookup
      rw [if_pos heq]
      refine ⟨rfl, Nat.zero_le _, fun _ => h.attempts.1, nofun, _, rfl, ?_⟩
      rw [slots]
      omega
    · next hne =>
      rw [if_neg hne]
      exact h.record id' record hlookup
  · have hbudget := h.budget
    dsimp only [verifierReceiptReserved] at hbudget ⊢
    rw [hcard, htotal, Nat.add_right_comm, Nat.add_mul, Nat.one_mul]
    omega

variable {binding : DisconnectDispatchBinding} {evidence : DisconnectOutcomeEvidence}
  {state : DisconnectState}

theorem slots_undecided (h : Undecided binding evidence state) (maxAttempts attempt : Nat) :
    slots (outcomeState maxAttempts attempt binding evidence).1 + 1 ≤ slots state := by
  unfold outcomeState
  cases h with
  | dispatched | lost =>
    split
    · simp [slots]
    · split <;> simp [slots]
    · simp [slots]
    · simp [slots]
  | unknown hkind =>
    split
    · simp [slots]
    · split <;> simp [slots]
    · simp [slots]
    · next hunknown => exact absurd hunknown hkind

variable {maxAttempts attempt : Nat}

theorem outcomeState_pending
    (h : (outcomeState maxAttempts attempt binding evidence).1 = .pending) :
    attempt < maxAttempts ∧ evidence.kind = .definitelyNotApplied := by
  unfold outcomeState at h
  split at h
  · cases h
  · next hkind =>
    split at h
    · cases h
    · next hlt => exact ⟨Nat.lt_of_not_le hlt, hkind⟩
  · cases h
  · cases h

theorem outcomeState_bound {held : DisconnectDispatchBinding}
    (h : held ∈ openBinding (outcomeState maxAttempts attempt binding evidence).1) :
    held = binding := by
  unfold outcomeState at h
  split at h
  · cases h
  · split at h
    · cases h
    · cases h
  · cases h
  · exact (Option.some.inj h).symm

theorem undecided_bound (h : Undecided binding evidence state) : binding ∈ openBinding state := by
  cases h with
  | dispatched | lost | unknown => rfl

section

variable (h : j.Sound)
include h

theorem Sound.settled {evidence : DisconnectOutcomeEvidence} {remaining : Nat}
    (hcurrent : j.records.lookup id = some current)
    (hundecided : Undecided evidence.binding evidence current.state)
    (hfresh : evidence.verifierReceiptDigest ∉ j.verifierReceiptOwners)
    (hremaining : j.verifierReceiptReservations.lookup id = some remaining)
    (hpositive : remaining ≠ 0) : (j.settled id current evidence remaining).Sound := by
  have hin := mem_of_lookup hcurrent
  have hreserved := mem_of_lookup hremaining
  have hkeys : (j.settled id current evidence remaining).records.keys = j.records.keys :=
    keys_insert_of_mem hin _
  have hreservedKeys :
      (j.settled id current evidence remaining).verifierReceiptReservations.keys =
        j.verifierReceiptReservations.keys := keys_insert_of_mem hreserved _
  have hmem : ∀ id', id' ∈ (j.settled id current evidence remaining).records ↔ id' ∈ j.records := by
    intro id'
    rw [← Finmap.mem_keys, hkeys, Finmap.mem_keys]
  have hrecord := h.record id current hcurrent
  refine ⟨h.attempts, h.tombstones, h.capacity, fun id' hid' => h.disjoint id' ((hmem id').mp hid'),
    hkeys ▸ h.room, fun id' => ?_, ?_, ?_⟩
  · rw [hmem, ← h.reserved, ← Finmap.mem_keys, hreservedKeys, Finmap.mem_keys]
  · intro id' record hlookup
    dsimp only [DisconnectJournal.settled] at hlookup ⊢
    rw [lookup_insert_ite] at hlookup ⊢
    split at hlookup
    · next heq =>
      cases hlookup
      rw [if_pos heq, heq]
      obtain ⟨left, hleft, hle⟩ := hrecord.reserved
      obtain rfl : remaining = left := Option.mem_unique hremaining hleft
      have hslots := slots_undecided hundecided j.config.maxAttempts current.attempt
      refine ⟨hrecord.generation, hrecord.attempts, fun hpending => (outcomeState_pending hpending).1,
        fun held hheld => ?_, remaining - 1, rfl, ?_⟩
      · cases outcomeState_bound hheld
        exact hrecord.bound _ (undecided_bound hundecided)
      · dsimp only [settledRecord]
        omega
    · next hne =>
      rw [if_neg hne]
      exact h.record id' record hlookup
  · have hbudget := h.budget
    have htotal := total_insert hremaining (remaining - 1)
    have howners := card_keys_insert hfresh id
    rw [hkeys]
    dsimp only [DisconnectJournal.settled, verifierReceiptReserved] at hbudget ⊢
    rw [howners]
    omega

theorem Sound.archived {tombstone : DisconnectArchiveTombstone}
    (hcurrent : j.records.lookup id = some current) : (j.archived id tombstone).Sound := by
  have hin := mem_of_lookup hcurrent
  have hrecords := card_keys_erase hin
  have htombstones := card_keys_insert (h.disjoint id hin) tombstone
  obtain ⟨remaining, hremaining, _⟩ := (h.record id current hcurrent).reserved
  have htotal := total_erase hremaining
  have hroom := h.room
  have hbudget := h.budget
  refine ⟨h.attempts, h.tombstones, h.capacity, fun id' hid' => ?_, ?_, fun id' => ?_, ?_, ?_⟩
  · obtain ⟨hne, hold⟩ := Finmap.mem_erase.mp hid'
    rintro hgone
    rcases Finmap.mem_insert.mp hgone with heq | hbefore
    · exact hne heq
    · exact h.disjoint id' hold hbefore
  · dsimp only [DisconnectJournal.archived]
    omega
  · dsimp only [DisconnectJournal.archived]
    rw [Finmap.mem_erase, Finmap.mem_erase, h.reserved]
  · intro id' record hlookup
    dsimp only [DisconnectJournal.archived] at hlookup ⊢
    rw [lookup_erase_ite] at hlookup ⊢
    split at hlookup
    · cases hlookup
    · next hne =>
      rw [if_neg hne]
      exact h.record id' record hlookup
  · have hcard : (j.records.erase id).keys.card + (j.tombstones.insert id tombstone).keys.card =
        j.records.keys.card + j.tombstones.keys.card := by omega
    dsimp only [DisconnectJournal.archived, verifierReceiptReserved] at hbudget ⊢
    rw [hcard]
    omega

theorem Sound.advanced {nextEpoch : DisconnectJournalEpoch} {checkpointDigest : Bytes 32}
    (hempty : j.records.keys = ∅) : (j.advanced nextEpoch checkpointDigest).Sound := by
  have hnone : ∀ id, id ∉ j.records := by
    intro id hid
    rw [← Finmap.mem_keys, hempty] at hid
    exact absurd hid (Finset.notMem_empty id)
  refine ⟨h.attempts, h.tombstones, h.capacity, fun id hid => absurd hid (hnone id), ?_, fun id => ?_,
    fun id record hlookup => absurd (mem_of_lookup hlookup) (hnone id), ?_⟩
  · have hroom := h.room
    dsimp only [DisconnectJournal.advanced]
    simp only [Finmap.keys_empty, Finset.card_empty]
    omega
  · dsimp only [DisconnectJournal.advanced]
    exact ⟨fun hid => absurd hid Finmap.notMem_empty, fun hid => absurd hid (hnone id)⟩
  · dsimp only [DisconnectJournal.advanced, verifierReceiptReserved]
    simp [total_empty]

theorem Sound.moved {call : DisconnectCall} (hmoved : Moved j call j') : j'.Sound := by
  cases hmoved with
  | quiet => exact h
  | inserted hfresh hnew hroom hreservation => exact h.inserted hfresh hnew hroom hreservation
  | leased hcurrent hpending => exact h.leased hcurrent hpending
  | dispatched hcurrent hleased => exact h.dispatched hcurrent hleased
  | lost hcurrent hdispatched => exact h.lost hcurrent hdispatched
  | retried hcurrent hleased => exact h.retried hcurrent hleased
  | settled hcurrent hundecided _ hfresh hremaining hpositive =>
    exact h.settled hcurrent hundecided hfresh hremaining hpositive
  | archived hcurrent => exact h.archived hcurrent
  | advanced hempty => exact h.advanced hempty

theorem Sound.perIntent : j.config.verifierReceiptsPerIntent = .ok (j.config.maxAttempts * 2) := by
  have hattempts := h.attempts.2
  rw [maxDisconnectAttempts] at hattempts
  refine fetch_ok.mpr (fits_some.mpr ⟨?_, rfl⟩)
  rw [disconnectVerifierReceiptsPerAttempt]
  omega

theorem Sound.receipts :
    j.verifierReceiptOwners.keys.card + j.verifierReceiptReserved ≤ j.verifierReceiptCapacity := by
  rw [h.capacity.1]
  exact h.budget.trans (Nat.mul_le_mul_right _ h.room)

theorem Sound.insert_unstuck (id : DisconnectIntentId) (operation : DisconnectOperation) :
    Ensures (fun _ => True) (fun error => ¬ error.Stuck) (j.insert id operation) := by
  unfold insert DisconnectOperation.validate requireNonzero
  simp only [ensures_bind, ensures_require, ensures_pure, DisconnectJournalError.Stuck,
    not_false_eq_true, implies_true, and_true]
  intro _ _
  cases j.records.lookup id with
  | some existing =>
    simp only [ensures_bind, ensures_require, ensures_pure, not_false_eq_true, implies_true, and_true]
  | none =>
    simp only [ensures_bind, ensures_require, ensures_pure, not_false_eq_true, implies_true, and_true]
    intro _ hroom
    have hsmall := h.tombstones
    rw [maxDisconnectTombstones] at hsmall
    have hless : j.records.keys.card + j.tombstones.keys.card < j.config.tombstoneCapacity := by
      omega
    have hone := Nat.mul_le_mul_right (j.config.maxAttempts * 2) hless
    have hbudget := h.budget
    obtain ⟨hcapacity, hmaximum⟩ := h.capacity
    rw [maxDisconnectVerifierReceipts] at hmaximum
    rw [Nat.succ_mul, ← hcapacity] at hone
    have hfits : ∀ value ≤ j.verifierReceiptCapacity, fits 64 value = some value :=
      fun value hvalue => fits_some.mpr ⟨by omega, rfl⟩
    unfold requireNewReceiptReservation
    simp only [h.perIntent, ensures_bind, ensures_ok, ensures_fetch, ensures_require, ensures_pure]
    rw [hfits j.verifierReceiptReserved (by omega)]
    refine ⟨?_, by simp⟩
    rintro _ ⟨⟩
    rw [hfits (j.verifierReceiptOwners.keys.card + j.verifierReceiptReserved) (by omega)]
    refine ⟨?_, by simp⟩
    rintro _ ⟨⟩
    rw [hfits _ (by omega)]
    refine ⟨?_, by simp⟩
    rintro _ ⟨⟩
    refine ⟨fun _ => trivial, fun hover => ?_⟩
    exact absurd (by omega) hover

end

theorem ensures_requireRecord {Q : DisconnectRecord → Prop} {E : DisconnectJournalError → Prop}
    (hQ : ∀ current, j.records.lookup id = some current → Q current)
    (harchived : E (.archivedIntent id)) (hunknown : E (.unknownIntent id)) :
    Ensures Q E (j.requireRecord id) := by
  refine ensures_fetch.mpr ⟨hQ, fun _ => ?_⟩
  split
  · exact harchived
  · exact hunknown

theorem Sound.lease_unstuck (h : j.Sound) (id : DisconnectIntentId) (worker : WorkerId) :
    Ensures (fun _ => True) (fun error => ¬ error.Stuck) (j.lease id worker) := by
  unfold lease
  rw [ensures_bind]
  refine ensures_requireRecord (fun current hcurrent => ?_) nofun nofun
  cases hstate : current.state with
  | pending =>
    have hrecord := h.record id current hcurrent
    have hfits : fits 64 (current.leaseGeneration + 1) = some (current.leaseGeneration + 1) := by
      refine fits_some.mpr ⟨?_, rfl⟩
      have hattempts := h.attempts.2
      rw [maxDisconnectAttempts] at hattempts
      have hle := hrecord.attempts
      rw [hrecord.generation]
      omega
    simp only [ensures_bind, ensures_fetch, ensures_pure, hfits]
    refine ⟨fun _ _ => ⟨fun _ _ => trivial, fun _ => nofun⟩, nofun⟩
  | leased | dispatched | indeterminate | applied | rejected | deadLetter => exact nofun

theorem Sound.settle_unstuck (h : j.Sound) (hcurrent : j.records.lookup id = some current)
    (hundecided : Undecided binding evidence current.state) (verifier : DisconnectOutcomeVerifier) :
    Ensures (fun _ => True) (fun error => ¬ error.Stuck)
      (j.settle id current binding evidence verifier) := by
  obtain ⟨remaining, hremaining, hle⟩ := (h.record id current hcurrent).reserved
  have hslots := slots_undecided hundecided j.config.maxAttempts current.attempt
  have hsome : remaining ≠ 0 := by omega
  have hconsume : Ensures (fun _ => True) (fun error => ¬ error.Stuck)
      (j.consumeReceiptReservation id) := by
    unfold consumeReceiptReservation
    simp only [ensures_bind, ensures_fetch, ensures_require, ensures_pure]
    rw [hremaining]
    refine ⟨?_, by simp⟩
    rintro _ ⟨⟩
    exact ⟨fun _ => trivial, fun hnone => absurd hsome hnone⟩
  have hunique : Ensures (fun _ => True) (fun error => ¬ error.Stuck)
      (j.requireUniqueVerifierReceipt id evidence.verifierReceiptDigest) := by
    unfold requireUniqueVerifierReceipt
    split
    · trivial
    · exact False.elim
  have howner : Ensures (fun _ => True) (fun error => ¬ error.Stuck)
      (j.requireUniqueOutcomeReceipt id evidence.outcomeDigest) := by
    unfold requireUniqueOutcomeReceipt
    split
    · trivial
    · exact ensures_require.mpr ⟨fun _ => trivial, fun _ => False.elim⟩
  unfold settle
  rw [ensures_bind, ensures_require]
  refine ⟨fun _ => ?_, fun _ => False.elim⟩
  rw [ensures_bind]
  refine hunique.mono (fun _ _ _ => ?_) fun _ herror => herror
  split
  dsimp only
  split
  · rw [ensures_bind]
    refine howner.mono (fun _ _ _ => ?_) fun _ herror => herror
    exact ensures_bind.mpr (hconsume.mono (fun _ _ _ => trivial) fun _ herror => herror)
  · exact ensures_bind.mpr (hconsume.mono (fun _ _ _ => trivial) fun _ herror => herror)

theorem Sound.reconcile_unstuck (h : j.Sound) (id : DisconnectIntentId)
    (evidence : DisconnectOutcomeEvidence) (verifier : DisconnectOutcomeVerifier) :
    Ensures (fun _ => True) (fun error => ¬ error.Stuck) (j.reconcile id evidence verifier) := by
  unfold reconcile DisconnectOutcomeEvidence.validate requireNonzero
  simp only [ensures_bind, ensures_require, ensures_pure, DisconnectJournalError.Stuck,
    not_false_eq_true, implies_true, and_true]
  intro _ _
  refine ensures_requireRecord (fun current hcurrent => ?_) False.elim False.elim
  cases hstate : current.state with
  | pending | leased =>
    simp only [terminalReplay, hstate, ensures_ok]
    exact False.elim
  | applied | rejected =>
    simp only [terminalReplay, hstate, ensures_bind, ensures_require, ensures_pure]
    exact ⟨fun _ => trivial, fun _ => False.elim⟩
  | deadLetter =>
    simp only [terminalReplay, hstate]
    exact False.elim
  | dispatched binding =>
    simp only [terminalReplay, hstate, ensures_ok, ensures_bind, ensures_require]
    exact ⟨fun _ => h.settle_unstuck hcurrent (hstate ▸ .dispatched) verifier, fun _ => False.elim⟩
  | indeterminate binding unknown =>
    simp only [terminalReplay, hstate, ensures_ok, ensures_bind, ensures_require]
    refine ⟨fun _ => ?_, fun _ => False.elim⟩
    cases unknown with
    | none => exact h.settle_unstuck hcurrent (hstate ▸ .lost) verifier
    | some previous =>
      dsimp only
      split
      · simp only [ensures_bind, ensures_require, ensures_pure]
        exact ⟨fun _ => trivial, fun _ => False.elim⟩
      · next hkind =>
        simp only [ensures_bind, ensures_require]
        exact ⟨fun _ => h.settle_unstuck hcurrent (hstate ▸ .unknown hkind) verifier,
          fun _ => False.elim⟩

theorem Sound.archivable (h : j.Sound) {archiveDigest terminal : Bytes 32}
    (hcurrent : j.records.lookup id = some current)
    (hterminal : terminalDigest current.state = some terminal)
    (hnonzero : zeroBytes archiveDigest = false) :
    ∃ tombstone j', j.archiveTerminal id archiveDigest = .ok (tombstone, j') ∧
      j'.tombstones.lookup id = some tombstone ∧ id ∉ j'.records ∧
      id ∉ j'.verifierReceiptReservations := by
  have hin := mem_of_lookup hcurrent
  have hroom : j.tombstones.keys.card < j.config.tombstoneCapacity := by
    have hcard := card_keys_erase hin
    have hle := h.room
    omega
  let tombstone : DisconnectArchiveTombstone :=
    ⟨j.config.journalId, j.config.epoch, id, current.operation, terminal, archiveDigest⟩
  refine ⟨tombstone, j.archived id tombstone, ?_, Finmap.lookup_insert _, Finmap.notMem_erase_self,
    Finmap.notMem_erase_self⟩
  unfold archiveTerminal requireNonzero
  exact bind_ok.mpr ⟨(), require_ok.mpr hnonzero, bind_ok.mpr ⟨(), require_ok.mpr hroom,
    bind_ok.mpr ⟨current, requireRecord_ok.mpr hcurrent, bind_ok.mpr ⟨terminal,
      fetch_ok.mpr hterminal, bind_ok.mpr ⟨(), require_ok.mpr ((h.reserved id).mpr hin), rfl⟩⟩⟩⟩⟩

theorem sound_of_reachable (h : Reachable disconnectJournals j) : j.Sound :=
  h.invariant (fun _ ⟨_, hnew⟩ => sound_new hnew) fun _ _ _ hsound hstep =>
    hsound.moved (DisconnectJournal.moved hstep)

end DisconnectJournal

end Presence
