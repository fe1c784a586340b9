import TrillionniumGame.Foundation.Runs
import TrillionniumGame.Token.SignerJournal

namespace Token
open Checks FiniteMap Words
open Persistence (Bytes zeroBytes)

def SigningOperationState.receipt : SigningOperationState → Option Digest
  | .confirmed receiptDigest _ _ _ => some receiptDigest
  | .prepared | .dispatched | .indeterminate | .rejected _ => none

def SigningOperationTombstone.operation (tombstone : SigningOperationTombstone) :
    SigningOperationRecord :=
  ⟨tombstone.request, tombstone.dispatch, tombstone.state⟩

section Receipts

variable {receipts : ReceiptOwners} {request : SigningRequest} {state : SigningOperationState}
  {receipt : Digest}

theorem receipt_of_live (h : state.isTerminal = false) : state.receipt = none := by
  cases state with
  | prepared | dispatched | indeterminate => rfl
  | confirmed | rejected => cases h

theorem collectReceipt_none (h : state.receipt = none) :
    collectReceipt receipts request state = .ok receipts := by
  cases state with
  | prepared | dispatched | indeterminate | rejected => rfl
  | confirmed => cases h

theorem collectReceipt_some (h : state.receipt = some receipt) (hfresh : receipt ∉ receipts) :
    collectReceipt receipts request state = .ok (receipts.insert receipt request.operationId) := by
  cases state with
  | prepared | dispatched | indeterminate | rejected => cases h
  | confirmed receiptDigest =>
    obtain rfl : receiptDigest = receipt := Option.some.inj h
    unfold collectReceipt
    exact bind_ok.mpr ⟨(), require_ok.mpr hfresh, rfl⟩

theorem collect_fold {α : Type} {f : α → SigningRequest} {g : α → SigningOperationState}
    (xs : List α) (receipts : ReceiptOwners) (hfresh : ∀ x ∈ xs, ∀ receipt ∈ (g x).receipt, receipt ∉ receipts)
    (hdistinct : xs.Pairwise fun x y => ∀ receipt ∈ (g x).receipt, receipt ∉ (g y).receipt) :
    ∃ collected, xs.foldlM (fun receipts x => collectReceipt receipts (f x) (g x)) receipts =
        .ok collected ∧
      ∀ receipt id, collected.lookup receipt = some id ↔ receipts.lookup receipt = some id ∨
        ∃ x ∈ xs, receipt ∈ (g x).receipt ∧ (f x).operationId = id := by
  induction xs generalizing receipts with
  | nil => exact ⟨receipts, rfl, by simp⟩
  | cons x rest ih =>
    rw [List.pairwise_cons] at hdistinct
    rw [List.forall_mem_cons] at hfresh
    obtain ⟨hx, hrest⟩ := hdistinct
    cases hreceipt : (g x).receipt with
    | none =>
      obtain ⟨collected, hcollected, hlookup⟩ := ih receipts hfresh.2 hrest
      refine ⟨collected, ?_, fun receipt id => ?_⟩
      · rw [List.foldlM_cons]
        exact bind_ok.mpr ⟨receipts, collectReceipt_none hreceipt, hcollected⟩
      · rw [hlookup, List.exists_mem_cons_iff, hreceipt]
        simp
    | some first =>
      obtain ⟨collected, hcollected, hlookup⟩ := ih (receipts.insert first (f x).operationId)
        (fun y hy receipt hmem hin => by
          rcases Finmap.mem_insert.mp hin with rfl | hold
          · exact hx y hy receipt hreceipt hmem
          · exact hfresh.2 y hy receipt hmem hold) hrest
      have hnew := hfresh.1 first hreceipt
      refine ⟨collected, ?_, fun receipt id => ?_⟩
      · rw [List.foldlM_cons]
        exact bind_ok.mpr ⟨_, collectReceipt_some hreceipt hnew, hcollected⟩
      · rw [hlookup, List.exists_mem_cons_iff, lookup_insert_ite, ← or_assoc]
        refine or_congr_left ?_
        rw [hreceipt, Option.mem_some_iff]
        split
        · next heq =>
          subst heq
          rw [Finmap.lookup_eq_none.mpr hnew]
          simp
        · next hne => simp [Ne.symm hne]

end Receipts

namespace SignerJournal

def operation (j : SignerJournal) (id : SigningOperationId) : Option SigningOperationRecord :=
  (j.records.lookup id).or ((j.tombstones.lookup id).map (·.operation))

variable {j : SignerJournal} {id : SigningOperationId} {operation : SigningOperationRecord}

structure Valid (j : SignerJournal) : Prop where
  bounded : j.epochCapacity ≤ maxSignerJournalCapacity
  active : j.records.keys.card ≤ j.activeCapacity
  occupancy : j.records.keys.card + j.tombstones.keys.card ≤ j.epochCapacity
  record : ∀ id record, j.records.lookup id = some record → j.recordWellFormed id record = true
  tombstone : ∀ id tombstone, j.tombstones.lookup id = some tombstone →
    j.tombstoneWellFormed id tombstone = true
  receipts : ∀ receipt id, j.receiptOwners.lookup receipt = some id ↔
    ∃ operation, j.operation id = some operation ∧ operation.state.receipt = some receipt
  checkpoint : j.verifyCheckpoint = .ok ()

theorem recordWellFormed_iff {record : SigningOperationRecord} :
    j.recordWellFormed id record = true ↔ record.request.operationId = id ∧
      record.request.journalEpoch = j.epoch ∧ id ∉ j.tombstones ∧ recordShapeValid record = true := by
  unfold recordWellFormed
  rw [decide_eq_true_eq]

theorem tombstoneWellFormed_iff {tombstone : SigningOperationTombstone} :
    j.tombstoneWellFormed id tombstone = true ↔ tombstone.request.operationId = id ∧
      tombstone.request.journalEpoch = j.epoch ∧ tombstone.state.isTerminal = true ∧
      zeroBytes tombstone.archiveDigest.bytes = false ∧
      recordShapeValid tombstone.operation = true := by
  unfold tombstoneWellFormed
  rw [decide_eq_true_eq]
  rfl

theorem operation_record (h : j.records.lookup id = some operation) :
    j.operation id = some operation := by
  unfold SignerJournal.operation
  rw [h, Option.some_or]

theorem operation_some : j.operation id = some operation ↔ j.records.lookup id = some operation ∨
    j.records.lookup id = none ∧
      ∃ tombstone, j.tombstones.lookup id = some tombstone ∧ tombstone.operation = operation := by
  unfold SignerJournal.operation
  rw [Option.or_eq_some_iff, Option.map_eq_some_iff]

theorem operation_none :
    j.operation id = none ↔ j.records.lookup id = none ∧ j.tombstones.lookup id = none := by
  unfold SignerJournal.operation
  rw [Option.or_eq_none_iff, Option.map_eq_none_iff]

namespace Valid

theorem operation_tombstone (h : j.Valid) {tombstone : SigningOperationTombstone}
    (htombstone : j.tombstones.lookup id = some tombstone) :
    j.operation id = some tombstone.operation := by
  refine operation_some.mpr (.inr ⟨?_, tombstone, htombstone, rfl⟩)
  refine Option.eq_none_iff_forall_ne_some.mpr fun record hrecord => ?_
  exact (recordWellFormed_iff.mp (h.record id record hrecord)).2.2.1 (mem_of_lookup htombstone)

theorem operation_facts (h : j.Valid) (hoperation : j.operation id = some operation) :
    operation.request.operationId = id ∧ operation.request.journalEpoch = j.epoch ∧
      recordShapeValid operation = true := by
  rcases operation_some.mp hoperation with hrecord | ⟨_, tombstone, htombstone, rfl⟩
  · obtain ⟨hid, hepoch, _, hshape⟩ := recordWellFormed_iff.mp (h.record _ _ hrecord)
    exact ⟨hid, hepoch, hshape⟩
  · obtain ⟨hid, hepoch, _, _, hshape⟩ := tombstoneWellFormed_iff.mp (h.tombstone _ _ htombstone)
    exact ⟨hid, hepoch, hshape⟩

theorem owner_unique (h : j.Valid) {id' : SigningOperationId} {operation' : SigningOperationRecord}
    {receipt : Digest} (hoperation : j.operation id = some operation)
    (hoperation' : j.operation id' = some operation')
    (hreceipt : operation.state.receipt = some receipt)
    (hreceipt' : operation'.state.receipt = some receipt) : id = id' := by
  have howner := (h.receipts receipt id).mpr ⟨operation, hoperation, hreceipt⟩
  have howner' := (h.receipts receipt id').mpr ⟨operation', hoperation', hreceipt'⟩
  exact Option.mem_unique howner howner'

end Valid

theorem distinct_items {V : Type} {m : Dict SigningOperationId V}
    {P : SigningOperationId × V → SigningOperationId × V → Prop}
    (h : ∀ x ∈ items m, ∀ y ∈ items m, x.1 ≠ y.1 → P x y) : (items m).Pairwise P := by
  have hkeys : ((items m).map (·.1)).Nodup := items_keys m ▸ nodup_ordered _
  exact (List.pairwise_map.mp hkeys).imp_of_mem fun hx hy hne => h _ hx _ hy hne

theorem Valid.collected (h : j.Valid) : ∃ live,
    (items j.records).foldlM
      (fun receipts item => collectReceipt receipts item.2.request item.2.state) ∅ = .ok live ∧
    (items j.tombstones).foldlM
      (fun receipts item => collectReceipt receipts item.2.request item.2.state) live =
        .ok j.receiptOwners := by
  have hrecords : ∀ item ∈ items j.records, j.operation item.1 = some item.2 :=
    fun item hitem => operation_record (mem_items.mp hitem)
  have htombstones : ∀ item ∈ items j.tombstones, j.operation item.1 = some item.2.operation :=
    fun item hitem => h.operation_tombstone (mem_items.mp hitem)
  have hdistinct : ∀ {V : Type} {m : Dict SigningOperationId V} {g : V → SigningOperationRecord},
      (∀ item ∈ items m, j.operation item.1 = some (g item.2)) → (items m).Pairwise fun x y =>
        ∀ receipt ∈ (g x.2).state.receipt, receipt ∉ (g y.2).state.receipt := by
    intro V m g hknown
    refine distinct_items fun x hx y hy hne receipt hreceipt hreceipt' => hne ?_
    exact h.owner_unique (hknown x hx) (hknown y hy) hreceipt hreceipt'
  obtain ⟨live, hlive, hlivelookup⟩ := collect_fold (f := fun item => item.2.request)
    (g := fun item => item.2.state) (items j.records) ∅ (fun _ _ _ _ => Finmap.notMem_empty)
    (hdistinct (g := fun record => record) hrecords)
  have hdisjoint : ∀ item ∈ items j.tombstones, ∀ receipt ∈ item.2.state.receipt,
      receipt ∉ live := by
    intro item hitem receipt hreceipt hin
    obtain ⟨id, hid⟩ := Finmap.mem_iff.mp hin
    rcases (hlivelookup receipt id).mp hid with hempty | ⟨record, hrecord, hreceipt', _⟩
    · cases hempty
    · have hsame := h.owner_unique (hrecords record hrecord) (htombstones item hitem) hreceipt'
        hreceipt
      have hformed := recordWellFormed_iff.mp (h.record _ _ (mem_items.mp hrecord))
      exact hformed.2.2.1 (hsame ▸ mem_of_lookup (mem_items.mp hitem))
  obtain ⟨all, hall, halllookup⟩ := collect_fold (f := fun item => item.2.request)
    (g := fun item => item.2.state) (items j.tombstones) live hdisjoint
    (hdistinct (g := SigningOperationTombstone.operation) htombstones)
  refine ⟨live, hlive, hall.trans (congrArg Except.ok ?_)⟩
  refine Finmap.ext_lookup fun receipt => Option.ext fun id => ?_
  rw [halllookup, hlivelookup, h.receipts]
  constructor
  · rintro ((hempty | ⟨record, hrecord, hreceipt, hid⟩) | ⟨tombstone, htombstone, hreceipt, hid⟩)
    · cases hempty
    · have hknown := hrecords record hrecord
      cases (h.operation_facts hknown).1.symm.trans hid
      exact ⟨_, hknown, hreceipt⟩
    · have hknown := htombstones tombstone htombstone
      cases (h.operation_facts hknown).1.symm.trans hid
      exact ⟨_, hknown, hreceipt⟩
  · rintro ⟨operation, hoperation, hreceipt⟩
    have hid := (h.operation_facts hoperation).1
    rcases operation_some.mp hoperation with hrecord | ⟨_, tombstone, htombstone, rfl⟩
    · exact .inl (.inr ⟨(id, operation), mem_items.mpr hrecord, hreceipt, hid⟩)
    · exact .inr ⟨(id, tombstone), mem_items.mpr htombstone, hreceipt, hid⟩

theorem Valid.verified (h : j.Valid) : j.verifyInvariants = .ok () := by
  obtain ⟨live, hlive, hall⟩ := h.collected
  have hsmall : j.records.keys.card + j.tombstones.keys.card < 2 ^ 64 := by
    have hbounded := h.bounded
    have hoccupancy := h.occupancy
    rw [maxSignerJournalCapacity] at hbounded
    omega
  unfold verifyInvariants
  simp only [bind_ok, require_ok, fetch_ok, fits_some, exists_const]
  exact ⟨h.active, _, ⟨hsmall, rfl⟩, h.occupancy,
    fun item hitem => h.record _ _ (mem_items.mp hitem),
    fun item hitem => h.tombstone _ _ (mem_items.mp hitem), live, hlive, _, hall, rfl, h.checkpoint⟩

variable {current next : SigningOperationRecord}

def write (j : SignerJournal) (next : SigningOperationRecord) : SignerJournal :=
  { j with
    records := j.records.insert next.request.operationId next
    receiptOwners := match next.state.receipt with
      | some receipt => j.receiptOwners.insert receipt next.request.operationId
      | none => j.receiptOwners }

def archive (j : SignerJournal) (current : SigningOperationRecord) (archiveDigest : Digest) :
    SignerJournal :=
  { j with
    records := j.records.erase current.request.operationId
    tombstones := j.tombstones.insert current.request.operationId
      ⟨current.request, current.dispatch, current.state, archiveDigest⟩ }

def restored (activeCapacity epochCapacity : Nat) (checkpoint : SignerJournalCheckpoint) :
    SignerJournal where
  activeCapacity
  epochCapacity
  epoch := checkpoint.activeEpoch
  records := ∅
  tombstones := ∅
  receiptOwners := ∅
  checkpoint := some checkpoint
  nextCheckpointSequence := checkpoint.sequence + 1

theorem write_operation : (j.write next).operation id =
    if id = next.request.operationId then some next else j.operation id := by
  unfold SignerJournal.operation write
  rw [lookup_insert_ite]
  split
  · rfl
  · rfl

theorem archive_operation {archiveDigest : Digest}
    (hcurrent : j.records.lookup current.request.operationId = some current) :
    (j.archive current archiveDigest).operation id = j.operation id := by
  unfold SignerJournal.operation archive
  rw [lookup_insert_ite, lookup_erase_ite]
  split
  · next heq =>
    subst heq
    rw [hcurrent]
    rfl
  · rfl

theorem restored_operation (activeCapacity epochCapacity : Nat)
    (checkpoint : SignerJournalCheckpoint) :
    (restored activeCapacity epochCapacity checkpoint).operation id = none := rfl

theorem write_receiptOwners {receipt : Digest} : (j.write next).receiptOwners.lookup receipt =
    if next.state.receipt = some receipt then some next.request.operationId
    else j.receiptOwners.lookup receipt := by
  unfold write
  cases hreceipt : next.state.receipt with
  | none => rfl
  | some own =>
    dsimp only
    rw [lookup_insert_ite]
    simp only [Option.some.injEq, eq_comm]

namespace Valid

theorem write (h : j.Valid) (hepoch : next.request.journalEpoch = j.epoch)
    (hshape : recordShapeValid next = true)
    (hroom : next.request.operationId ∉ j.records → next.request.operationId ∉ j.tombstones ∧
      j.records.keys.card < j.activeCapacity ∧
      j.records.keys.card + j.tombstones.keys.card < j.epochCapacity)
    (hlive : ∀ current, j.records.lookup next.request.operationId = some current →
      current.state.receipt = none)
    (hfresh : ∀ receipt ∈ next.state.receipt, receipt ∉ j.receiptOwners) : (j.write next).Valid := by
  have hkept : next.request.operationId ∉ j.tombstones := by
    by_cases hmem : next.request.operationId ∈ j.records
    · obtain ⟨current, hcurrent⟩ := Finmap.mem_iff.mp hmem
      exact (recordWellFormed_iff.mp (h.record _ _ hcurrent)).2.2.1
    · exact (hroom hmem).1
  have hunowned : ∀ receipt, j.receiptOwners.lookup receipt ≠ some next.request.operationId := by
    intro receipt howner
    obtain ⟨operation, hoperation, hreceipt⟩ := (h.receipts _ _).mp howner
    rcases operation_some.mp hoperation with hrecord | ⟨_, tombstone, htombstone, _⟩
    · rw [hlive operation hrecord] at hreceipt
      cases hreceipt
    · exact hkept (mem_of_lookup htombstone)
  have hcards : (j.records.insert next.request.operationId next).keys.card ≤ j.activeCapacity ∧
      (j.records.insert next.request.operationId next).keys.card + j.tombstones.keys.card ≤
        j.epochCapacity := by
    by_cases hmem : next.request.operationId ∈ j.records
    · rw [keys_insert_of_mem hmem]
      exact ⟨h.active, h.occupancy⟩
    · rw [card_keys_insert hmem]
      have hspace := hroom hmem
      omega
  refine ⟨h.bounded, hcards.1, hcards.2, fun id record hrecord => ?_, h.tombstone,
    fun receipt id => ?_, h.checkpoint⟩
  · rw [SignerJournal.write, lookup_insert_ite] at hrecord
    split at hrecord
    · next heq =>
      cases hrecord
      subst heq
      exact recordWellFormed_iff.mpr ⟨rfl, hepoch, hkept, hshape⟩
    · exact h.record id record hrecord
  · rw [write_receiptOwners, write_operation]
    split
    · next hown =>
      split
      · next heq =>
        subst heq
        exact iff_of_true rfl ⟨next, rfl, hown⟩
      · next hne =>
        refine iff_of_false (fun heq => hne (Option.some.inj heq).symm) ?_
        rintro ⟨operation, hoperation, hreceipt⟩
        exact hfresh receipt hown (mem_of_lookup ((h.receipts _ _).mpr ⟨_, hoperation, hreceipt⟩))
    · next hown =>
      split
      · next heq =>
        subst heq
        refine iff_of_false (hunowned receipt) ?_
        rintro ⟨operation, hoperation, hreceipt⟩
        cases hoperation
        exact hown hreceipt
      · exact h.receipts receipt id

theorem archive (h : j.Valid) {archiveDigest : Digest}
    (hcurrent : j.records.lookup current.request.operationId = some current)
    (hterminal : current.state.isTerminal = true)
    (hdigest : zeroBytes archiveDigest.bytes = false) : (j.archive current archiveDigest).Valid := by
  obtain ⟨_, hepoch, hnew, hshape⟩ := recordWellFormed_iff.mp (h.record _ _ hcurrent)
  have hless : (j.records.erase current.request.operationId).keys.card + 1 = j.records.keys.card :=
    card_keys_erase (mem_of_lookup hcurrent)
  have hmore : (j.tombstones.insert current.request.operationId
      ⟨current.request, current.dispatch, current.state, archiveDigest⟩).keys.card =
        j.tombstones.keys.card + 1 := card_keys_insert hnew _
  have hactive := h.active
  have hoccupancy := h.occupancy
  refine ⟨h.bounded, ?_, ?_, fun id record hrecord => ?_, fun id tombstone htombstone => ?_,
    fun receipt id => ?_, h.checkpoint⟩
  · dsimp only [SignerJournal.archive]
    omega
  · dsimp only [SignerJournal.archive]
    omega
  · rw [SignerJournal.archive, lookup_erase_ite] at hrecord
    split at hrecord
    · cases hrecord
    · next hne =>
      obtain ⟨hid, hepoch', hout, hshape'⟩ := recordWellFormed_iff.mp (h.record id record hrecord)
      refine recordWellFormed_iff.mpr ⟨hid, hepoch', fun hin => ?_, hshape'⟩
      rcases Finmap.mem_insert.mp hin with heq | hold
      · exact hne heq
      · exact hout hold
  · rw [SignerJournal.archive, lookup_insert_ite] at htombstone
    split at htombstone
    · next heq =>
      cases htombstone
      exact tombstoneWellFormed_iff.mpr ⟨heq.symm, hepoch, hterminal, hdigest, hshape⟩
    · exact h.tombstone id tombstone htombstone
  · rw [archive_operation hcurrent]
    exact h.receipts receipt id

theorem restored {activeCapacity epochCapacity : Nat} {checkpoint : SignerJournalCheckpoint}
    (hbounded : epochCapacity ≤ maxSignerJournalCapacity)
    (hshape : checkpoint.validateShape epochCapacity = .ok ()) :
    (restored activeCapacity epochCapacity checkpoint).Valid := by
  have hempty : ∀ {V : Type} {value : V}, (none : Option V) ≠ some value := nofun
  constructor
  case bounded => exact hbounded
  case active => exact Nat.zero_le _
  case occupancy => exact Nat.zero_le _
  case record => exact fun _ _ hrecord => absurd hrecord hempty
  case tombstone => exact fun _ _ htombstone => absurd htombstone hempty
  case receipts =>
    exact fun _ _ => iff_of_false hempty fun ⟨_, hoperation, _⟩ => absurd hoperation hempty
  case checkpoint => exact bind_ok.mpr ⟨(), require_ok.mpr rfl, hshape⟩

end Valid

end SignerJournal

open Runs

inductive SignerCall where
  | prepare (request : SigningRequest) (reply : Except SignerJournalError SigningOperationRecord)
  | dispatch (identity : SignerDispatchIdentity)
      (reply : Except SignerJournalError SigningOperationRecord)
  | markTransportLost (handle : SigningOperationHandle)
      (reply : Except SignerJournalError SigningOperationRecord)
  | reconcile (evidence : SignerOutcomeEvidence) (verifier : SignerOutcomeVerifier)
      (archiveVerifier : Option SignerJournalArchiveVerifier)
      (reply : Except SignerJournalError SigningOperationRecord)
  | rejectBeforeDispatch (handle : SigningOperationHandle) (reasonDigest : Digest)
      (reply : Except SignerJournalError SigningOperationRecord)
  | archiveTerminal (handle : SigningOperationHandle) (archiveDigest : Digest)
      (reply : Except SignerJournalError SigningOperationTombstone)
  | advanceEpoch (nextEpoch : SignerJournalEpoch) (checkpointDigest : Digest)
      (verifier : SignerJournalArchiveVerifier)
      (reply : Except SignerJournalError SignerJournalCheckpoint)

namespace SignerCall

def dispatched : SignerCall → Option SigningOperationHandle
  | .dispatch identity (.ok _) => some identity.handle
  | _ => none

def advanced : SignerCall → Option SignerJournalCheckpoint
  | .advanceEpoch _ _ _ (.ok checkpoint) => some checkpoint
  | _ => none

def consulted : SignerCall → Option (Digest × SignerJournalArchiveVerifier)
  | .reconcile evidence _ archiveVerifier _ =>
    archiveVerifier.map fun given => (evidence.receiptDigest, given)
  | _ => none

def run (call : SignerCall) (j j' : SignerJournal) : Prop :=
  match call with
  | .prepare request reply => j.prepare request = (reply, j')
  | .dispatch identity reply => j.dispatch identity = (reply, j')
  | .markTransportLost handle reply => j.markTransportLost handle = (reply, j')
  | .reconcile evidence verifier none reply => j.reconcile evidence verifier = (reply, j')
  | .reconcile evidence verifier (some archiveVerifier) reply =>
    j.reconcileWithArchiveVerifier evidence verifier archiveVerifier = (reply, j')
  | .rejectBeforeDispatch handle reasonDigest reply =>
    j.rejectBeforeDispatch handle reasonDigest = (reply, j')
  | .archiveTerminal handle archiveDigest reply =>
    j.archiveTerminal handle archiveDigest = (reply, j')
  | .advanceEpoch nextEpoch checkpointDigest verifier reply =>
    j.advanceEpoch nextEpoch checkpointDigest verifier = (reply, j')

end SignerCall

namespace SignerJournal

variable {j j' : SignerJournal} {call : SignerCall} {current next : SigningOperationRecord}

inductive Moved (j : SignerJournal) : SignerCall → SignerJournal → Prop
  | quiet {call : SignerCall} (hdispatched : call.dispatched = none)
      (hadvanced : call.advanced = none) : Moved j call j
  | admitted {request : SigningRequest} (hvalid : request.validate = .ok request)
      (hepoch : request.journalEpoch = j.epoch) (hnew : j.operation request.operationId = none)
      (hroom : j.records.keys.card < j.activeCapacity)
      (hoccupancy : j.records.keys.card + j.tombstones.keys.card < j.epochCapacity) :
      Moved j (.prepare request (.ok ⟨request, none, .prepared⟩)) (j.write ⟨request, none, .prepared⟩)
  | wrote {call : SignerCall} {current next : SigningOperationRecord}
      (hcurrent : j.records.lookup next.request.operationId = some current)
      (hrequest : next.request = current.request) (hlive : current.state.isTerminal = false)
      (hshape : recordShapeValid next = true)
      (hdispatch : call.dispatched = none ∧ next.dispatch = current.dispatch ∨
        call.dispatched = some next.request.handle ∧ current.dispatch = none ∧
          next.dispatch.isSome = true)
      (hreceipt : ∀ receipt ∈ next.state.receipt, receipt ∉ j.receiptOwners ∧
        ∀ checkpoint ∈ j.checkpoint, ∃ verifier, call.consulted = some (receipt, verifier) ∧
          verifier.receiptIsAbsent checkpoint receipt = true)
      (hadvanced : call.advanced = none) : Moved j call (j.write next)
  | archived {call : SignerCall} {current : SigningOperationRecord} {archiveDigest : Digest}
      (hcurrent : j.records.lookup current.request.operationId = some current)
      (hterminal : current.state.isTerminal = true)
      (hdigest : zeroBytes archiveDigest.bytes = false) (hdispatched : call.dispatched = none)
      (hadvanced : call.advanced = none) : Moved j call (j.archive current archiveDigest)
  | advanced {nextEpoch : SignerJournalEpoch} {checkpointDigest : Digest}
      {verifier : SignerJournalArchiveVerifier} {checkpoint : SignerJournalCheckpoint}
      (hproposed : j.proposeCheckpoint nextEpoch checkpointDigest = .ok checkpoint) :
      Moved j (.advanceEpoch nextEpoch checkpointDigest verifier (.ok checkpoint))
        (restored j.activeCapacity j.epochCapacity checkpoint)

theorem recordShapeValid_iff {record : SigningOperationRecord} : recordShapeValid record = true ↔
    record.request.validate.isOk = true ∧
      (∀ dispatch ∈ record.dispatch, dispatch.validate.isOk = true ∧
        dispatch.request = record.request) ∧
      record.state.requiresDispatch = record.dispatch.isSome ∧
      stateDigestsNonzero record.state = true := by
  unfold recordShapeValid operationShapeValid
  simp only [Bool.and_eq_true, beq_iff_eq, Option.all_eq_true, decide_eq_true_eq, and_assoc,
    Option.mem_def]

variable {nextEpoch : SignerJournalEpoch} {checkpointDigest : Digest}

theorem proposeCheckpoint_ok {checkpoint : SignerJournalCheckpoint}
    (h : j.proposeCheckpoint nextEpoch checkpointDigest = .ok checkpoint) :
    checkpoint.validateShape j.epochCapacity = .ok () ∧ checkpoint.retiredEpoch = j.epoch ∧
      checkpoint.activeEpoch = nextEpoch ∧ nextEpoch.get = j.epoch.get + 1 ∧
      checkpoint.sequence = j.nextCheckpointSequence ∧
      checkpoint.receiptBindings = (items j.receiptOwners).map fun item => ⟨item.1, item.2⟩ := by
  unfold proposeCheckpoint requireNextEpoch requireNonzeroDigest at h
  simp only [bind_ok, require_ok, fetch_ok, fits_some, exists_const] at h
  obtain ⟨_, _, _, _, ⟨expected, ⟨_, rfl⟩, hnext⟩, _, _, hshape, hresult⟩ := h
  cases hresult
  exact ⟨hshape, rfl, rfl, hnext, rfl, rfl⟩

theorem Valid.moved (h : j.Valid) (hmoved : Moved j call j') : j'.Valid := by
  cases hmoved with
  | quiet => exact h
  | @admitted request hvalid hepoch hnew hroom hoccupancy =>
    obtain ⟨hrecords, htombstones⟩ := operation_none.mp hnew
    refine h.write hepoch ?_ (fun _ => ⟨Finmap.lookup_eq_none.mp htombstones, hroom, hoccupancy⟩)
      (fun current hcurrent => ?_) nofun
    · refine recordShapeValid_iff.mpr ⟨?_, nofun, rfl, rfl⟩
      rw [hvalid]
      rfl
    · rw [hrecords] at hcurrent
      cases hcurrent
  | wrote hcurrent hrequest hlive hshape hdispatch hreceipt =>
    have hepoch := (recordWellFormed_iff.mp (h.record _ _ hcurrent)).2.1
    refine h.write (hrequest ▸ hepoch) hshape (fun hnew => absurd (mem_of_lookup hcurrent) hnew)
      (fun other hother => ?_) fun receipt hmem => (hreceipt receipt hmem).1
    cases Option.mem_unique hcurrent hother
    exact receipt_of_live hlive
  | archived hcurrent hterminal hdigest => exact h.archive hcurrent hterminal hdigest
  | advanced hproposed => exact restored h.bounded (proposeCheckpoint_ok hproposed).1

theorem settle_moved {α : Type} {c : Except SignerJournalError α → SignerCall}
    {written : Except SignerJournalError (α × Option SignerJournal)}
    {reply : Except SignerJournalError α} (hvalid : j.Valid)
    (hfails : ∀ error, (c (.error error)).dispatched = none ∧ (c (.error error)).advanced = none)
    (hwrites : ∀ answer result, written = .ok (answer, result) →
      Moved j (c (.ok answer)) (result.getD j))
    (h : j.settle written = (reply, j')) : Moved j (c reply) j' := by
  unfold settle at h
  split at h
  · next error =>
    cases h
    exact .quiet (hfails error).1 (hfails error).2
  · next answer =>
    cases h
    exact hwrites answer none rfl
  · next answer next =>
    obtain ⟨hreply, rfl⟩ := Prod.mk.inj h
    have hmoved := hwrites answer (some next) rfl
    rw [Option.getD_some] at hmoved
    rw [(hvalid.moved hmoved).verified] at hreply
    subst hreply
    exact hmoved

variable {handle : SigningOperationHandle}

theorem requireOperation_ok :
    j.requireOperation handle = .ok current ↔
      handle.journalEpoch = j.epoch ∧ j.records.lookup handle.operationId = some current := by
  unfold requireOperation requireEpoch
  simp only [bind_ok, require_ok, fetch_ok, exists_const]

theorem validate_ok {request result : SigningRequest} (h : request.validate = .ok result) :
    result = request := by
  unfold SigningRequest.validate at h
  simp only [bind_ok] at h
  obtain ⟨_, _, _, _, hresult⟩ := h
  exact (Except.ok.inj hresult).symm

variable {reply : Except SignerJournalError SigningOperationRecord}

theorem moved_prepare {request : SigningRequest} (hvalid : j.Valid)
    (h : j.prepare request = (reply, j')) : Moved j (.prepare request reply) j' := by
  refine settle_moved (c := .prepare request) hvalid (fun _ => ⟨rfl, rfl⟩)
    (fun answer result hwritten => ?_) h
  simp only [bind_ok, requireEpoch, require_ok, exists_const] at hwritten
  obtain ⟨_, _, given, hgiven, hepoch, hwritten⟩ := hwritten
  obtain rfl := validate_ok hgiven
  cases hrecord : j.records.lookup given.operationId with
  | some existing =>
    simp only [hrecord, bind_ok, require_ok, exists_const] at hwritten
    obtain ⟨_, hresult⟩ := hwritten
    cases hresult
    exact .quiet rfl rfl
  | none =>
    cases htombstone : j.tombstones.lookup given.operationId with
    | some existing =>
      simp only [hrecord, htombstone] at hwritten
      cases hwritten
    | none =>
      simp only [hrecord, htombstone, admitRequest, bind_ok, require_ok, fetch_ok, fits_some,
        exists_const] at hwritten
      obtain ⟨_, ⟨_, rfl⟩, hoccupancy, hroom, hresult⟩ := hwritten
      cases hresult
      exact .admitted hgiven hepoch (operation_none.mpr ⟨hrecord, htombstone⟩) hroom hoccupancy

theorem dispatch_validate_ok {identity result : SignerDispatchIdentity}
    (h : identity.validate = .ok result) : result = identity := by
  unfold SignerDispatchIdentity.validate at h
  simp only [bind_ok] at h
  obtain ⟨_, _, _, _, _, _, _, _, hresult⟩ := h
  exact (Except.ok.inj hresult).symm

variable {state : SigningOperationState}

theorem reshape (h : recordShapeValid current = true)
    (hrequires : state.requiresDispatch = current.state.requiresDispatch)
    (hdigests : stateDigestsNonzero state = true) :
    recordShapeValid { current with state } = true := by
  obtain ⟨hrequest, hidentity, hdispatch, _⟩ := recordShapeValid_iff.mp h
  exact recordShapeValid_iff.mpr ⟨hrequest, hidentity, hrequires.trans hdispatch, hdigests⟩

theorem Valid.changes (hvalid : j.Valid) {id : SigningOperationId}
    (hcurrent : j.records.lookup id = some current) (state : SigningOperationState)
    (hlive : current.state.isTerminal = false)
    (hrequires : state.requiresDispatch = current.state.requiresDispatch)
    (hdigests : stateDigestsNonzero state = true)
    (hreceipt : ∀ receipt ∈ state.receipt, receipt ∉ j.receiptOwners ∧
      ∀ checkpoint ∈ j.checkpoint, ∃ verifier, call.consulted = some (receipt, verifier) ∧
        verifier.receiptIsAbsent checkpoint receipt = true)
    (hdispatched : call.dispatched = none) (hadvanced : call.advanced = none) :
    Moved j call (j.write { current with state }) := by
  obtain ⟨rfl, _, _, hshape⟩ := recordWellFormed_iff.mp (hvalid.record _ _ hcurrent)
  exact .wrote hcurrent rfl hlive (reshape hshape hrequires hdigests) (.inl ⟨hdispatched, rfl⟩)
    hreceipt hadvanced

theorem receipt_none {P : Digest → Prop} (h : state.receipt = none) :
    ∀ receipt ∈ state.receipt, P receipt := by
  rw [h]
  rintro _ ⟨⟩

theorem moved_dispatch {identity : SignerDispatchIdentity} (hvalid : j.Valid)
    (h : j.dispatch identity = (reply, j')) : Moved j (.dispatch identity reply) j' := by
  refine settle_moved (c := .dispatch identity) hvalid (fun _ => ⟨rfl, rfl⟩)
    (fun answer result hwritten => ?_) h
  simp only [bind_ok, requireOperation_ok, require_ok, exists_const] at hwritten
  obtain ⟨given, hgiven, current, ⟨_, hcurrent⟩, hrequest, hwritten⟩ := hwritten
  obtain rfl := dispatch_validate_ok hgiven
  obtain ⟨hid, hepoch, _, hshape⟩ := recordWellFormed_iff.mp (hvalid.record _ _ hcurrent)
  obtain ⟨hvalidated, _, hrequires, _⟩ := recordShapeValid_iff.mp hshape
  cases hstate : current.state with
  | prepared =>
    simp only [hstate] at hwritten
    cases hwritten
    rw [hstate] at hrequires
    rw [← hid] at hcurrent ⊢
    change Moved j _ (j.write ⟨current.request, some given, .dispatched⟩)
    refine .wrote hcurrent rfl (by rw [hstate]; rfl) ?_ (.inr ⟨?_, ?_, rfl⟩) (receipt_none rfl) rfl
    · refine recordShapeValid_iff.mpr ⟨hvalidated, ?_, rfl, rfl⟩
      rintro _ ⟨⟩
      rw [hgiven]
      exact ⟨rfl, hrequest.symm⟩
    · rw [hrequest]
      rfl
    · exact Option.not_isSome_iff_eq_none.mp (hrequires ▸ Bool.false_ne_true)
  | dispatched | indeterminate | confirmed | rejected =>
    simp only [hstate] at hwritten
    cases hwritten

theorem moved_markTransportLost (hvalid : j.Valid) (h : j.markTransportLost handle = (reply, j')) :
    Moved j (.markTransportLost handle reply) j' := by
  refine settle_moved (c := .markTransportLost handle) hvalid (fun _ => ⟨rfl, rfl⟩)
    (fun answer result hwritten => ?_) h
  simp only [bind_ok, requireOperation_ok] at hwritten
  obtain ⟨current, ⟨_, hcurrent⟩, hwritten⟩ := hwritten
  have hid := (recordWellFormed_iff.mp (hvalid.record _ _ hcurrent)).1
  cases hstate : current.state with
  | dispatched =>
    simp only [hstate] at hwritten
    cases hwritten
    rw [← hid]
    exact hvalid.changes hcurrent .indeterminate (by rw [hstate]; rfl) (by rw [hstate]; rfl) rfl
      (receipt_none rfl) rfl rfl
  | indeterminate =>
    simp only [hstate] at hwritten
    cases hwritten
    exact .quiet rfl rfl
  | prepared | confirmed | rejected =>
    simp only [hstate] at hwritten
    cases hwritten

theorem moved_rejectBeforeDispatch {reasonDigest : Digest} (hvalid : j.Valid)
    (h : j.rejectBeforeDispatch handle reasonDigest = (reply, j')) :
    Moved j (.rejectBeforeDispatch handle reasonDigest reply) j' := by
  refine settle_moved (c := .rejectBeforeDispatch handle reasonDigest) hvalid (fun _ => ⟨rfl, rfl⟩)
    (fun answer result hwritten => ?_) h
  simp only [bind_ok, requireNonzeroDigest, require_ok, requireOperation_ok, exists_const] at hwritten
  obtain ⟨hdigest, current, ⟨_, hcurrent⟩, hwritten⟩ := hwritten
  have hid := (recordWellFormed_iff.mp (hvalid.record _ _ hcurrent)).1
  cases hstate : current.state with
  | prepared =>
    simp only [hstate] at hwritten
    cases hwritten
    rw [← hid]
    refine hvalid.changes hcurrent (.rejected reasonDigest) (by rw [hstate]; rfl)
      (by rw [hstate]; rfl) ?_ (receipt_none rfl) rfl rfl
    rw [stateDigestsNonzero, hdigest]
    rfl
  | dispatched | indeterminate | confirmed | rejected =>
    simp only [hstate] at hwritten
    cases hwritten

variable {evidence : SignerOutcomeEvidence} {archiveVerifier : Option SignerJournalArchiveVerifier}

theorem requireUnbound_ok :
    j.requireUnbound evidence archiveVerifier = .ok () ↔
      (∀ owner ∈ j.receiptOwners.lookup evidence.receiptDigest,
        owner = evidence.request.operationId) ∧
      (j.receiptOwners.lookup evidence.receiptDigest = none → ∀ checkpoint ∈ j.checkpoint,
        ∃ verifier ∈ archiveVerifier, verifier.verifyCheckpoint checkpoint = true ∧
          verifier.receiptIsAbsent checkpoint evidence.receiptDigest = true) := by
  unfold requireUnbound
  cases hlookup : j.receiptOwners.lookup evidence.receiptDigest with
  | some owner => simp [require_ok]
  | none =>
    cases hcheckpoint : j.checkpoint with
    | none => simp
    | some checkpoint => simp [bind_ok, fetch_ok, require_ok]

theorem evidence_validate_ok {result : SignerOutcomeEvidence} (h : evidence.validate = .ok result) :
    result = evidence ∧
      ∀ signature, stateDigestsNonzero (.confirmed evidence.receiptDigest signature
        evidence.signatureDigest evidence.providerEvidenceDigest) = true := by
  unfold SignerOutcomeEvidence.validate at h
  simp only [bind_ok, requireNonzeroDigest, require_ok, exists_const] at h
  obtain ⟨_, _, _, _, _, hreceipt, hsignature, hprovider, hresult⟩ := h
  refine ⟨(Except.ok.inj hresult).symm, fun signature => ?_⟩
  rw [stateDigestsNonzero, hreceipt, hsignature, hprovider]
  rfl

theorem moved_reconcile {verifier : SignerOutcomeVerifier} (hvalid : j.Valid)
    (h : j.reconcileInner evidence verifier archiveVerifier = (reply, j')) :
    Moved j (.reconcile evidence verifier archiveVerifier reply) j' := by
  refine settle_moved (c := .reconcile evidence verifier archiveVerifier) hvalid
    (fun _ => ⟨rfl, rfl⟩) (fun answer result hwritten => ?_) h
  simp only [bind_ok, requireEpoch, require_ok, requireOperation_ok, exists_const] at hwritten
  obtain ⟨given, hgiven, _, current, ⟨_, hcurrent⟩, hrequest, _, _, hdispatched, _, _, hwritten⟩ :=
    hwritten
  obtain ⟨rfl, hdigests⟩ := evidence_validate_ok hgiven
  have hid : current.request.operationId = given.request.operationId := by rw [hrequest]
  have hconfirms : current.state.isTerminal = false → current.state.requiresDispatch = true →
      j.requireUnbound given archiveVerifier = .ok () →
      Moved j (.reconcile given verifier archiveVerifier (.ok { current with
        state := .confirmed given.receiptDigest given.signature given.signatureDigest
          given.providerEvidenceDigest }))
        (j.write { current with
          state := .confirmed given.receiptDigest given.signature given.signatureDigest
            given.providerEvidenceDigest }) := by
    intro hlive hrequires hunbound
    obtain ⟨howner, habsent⟩ := requireUnbound_ok.mp hunbound
    -- No live operation owns a receipt, so the receipt is not its own either.
    have hnone : j.receiptOwners.lookup given.receiptDigest = none := by
      refine Option.eq_none_iff_forall_ne_some.mpr fun owner hlookup => ?_
      cases howner owner hlookup
      obtain ⟨operation, hoperation, hreceipt⟩ := (hvalid.receipts _ _).mp hlookup
      cases Option.mem_unique (operation_record hcurrent) hoperation
      rw [receipt_of_live hlive] at hreceipt
      cases hreceipt
    refine hvalid.changes hcurrent _ hlive hrequires.symm (hdigests _) ?_ rfl rfl
    rintro _ ⟨⟩
    refine ⟨Finmap.lookup_eq_none.mp hnone, fun checkpoint hcheckpoint => ?_⟩
    obtain ⟨consulted, hconsulted, _, hproved⟩ := habsent hnone checkpoint hcheckpoint
    refine ⟨consulted, ?_, hproved⟩
    rw [SignerCall.consulted, Option.mem_def.mp hconsulted]
    rfl
  cases hstate : current.state with
  | dispatched | indeterminate =>
    simp only [hstate, bind_ok] at hwritten
    obtain ⟨_, hunbound, hresult⟩ := hwritten
    cases hresult
    rw [← hid]
    exact hconfirms (by rw [hstate]; rfl) (by rw [hstate]; rfl) hunbound
  | confirmed =>
    simp only [hstate, bind_ok, require_ok, exists_const] at hwritten
    obtain ⟨_, hresult⟩ := hwritten
    cases hresult
    exact .quiet rfl rfl
  | prepared | rejected =>
    rw [hstate] at hdispatched
    cases hdispatched

theorem moved_archiveTerminal {archiveDigest : Digest}
    {reply : Except SignerJournalError SigningOperationTombstone} (hvalid : j.Valid)
    (h : j.archiveTerminal handle archiveDigest = (reply, j')) :
    Moved j (.archiveTerminal handle archiveDigest reply) j' := by
  refine settle_moved (c := .archiveTerminal handle archiveDigest) hvalid (fun _ => ⟨rfl, rfl⟩)
    (fun answer result hwritten => ?_) h
  simp only [bind_ok, requireEpoch, requireNonzeroDigest, require_ok, exists_const] at hwritten
  obtain ⟨_, hdigest, hwritten⟩ := hwritten
  cases htombstone : j.tombstones.lookup handle.operationId with
  | some existing =>
    simp only [htombstone, bind_ok, require_ok, exists_const] at hwritten
    obtain ⟨_, hresult⟩ := hwritten
    cases hresult
    exact .quiet rfl rfl
  | none =>
    simp only [htombstone, bind_ok, require_ok, requireOperation_ok, exists_const] at hwritten
    obtain ⟨current, ⟨_, hcurrent⟩, hterminal, _, hresult⟩ := hwritten
    cases hresult
    have hid := (recordWellFormed_iff.mp (hvalid.record _ _ hcurrent)).1
    rw [← hid] at hcurrent ⊢
    exact .archived hcurrent hterminal hdigest rfl rfl

theorem moved_advanceEpoch {verifier : SignerJournalArchiveVerifier}
    {reply : Except SignerJournalError SignerJournalCheckpoint} (hvalid : j.Valid)
    (h : j.advanceEpoch nextEpoch checkpointDigest verifier = (reply, j')) :
    Moved j (.advanceEpoch nextEpoch checkpointDigest verifier reply) j' := by
  refine settle_moved (c := .advanceEpoch nextEpoch checkpointDigest verifier) hvalid
    (fun _ => ⟨rfl, rfl⟩) (fun answer result hwritten => ?_) h
  simp only [bind_ok, require_ok, fetch_ok, fits_some, exists_const] at hwritten
  obtain ⟨checkpoint, hproposed, _, next, ⟨_, rfl⟩, hresult⟩ := hwritten
  cases hresult
  obtain ⟨_, _, hepoch, _, hsequence, _⟩ := proposeCheckpoint_ok hproposed
  subst hepoch
  rw [← hsequence]
  exact .advanced hproposed

theorem moved (hvalid : j.Valid) (h : call.run j j') : Moved j call j' := by
  cases call with
  | prepare => exact moved_prepare hvalid h
  | dispatch => exact moved_dispatch hvalid h
  | markTransportLost => exact moved_markTransportLost hvalid h
  | reconcile evidence verifier archiveVerifier =>
    cases archiveVerifier with
    | none | some => exact moved_reconcile hvalid h
  | rejectBeforeDispatch => exact moved_rejectBeforeDispatch hvalid h
  | archiveTerminal => exact moved_archiveTerminal hvalid h
  | advanceEpoch => exact moved_advanceEpoch hvalid h

end SignerJournal

end Token
