import TrillionniumGame.Token.SignerTimelines

namespace Token
open Checks FiniteMap Words Runs
open Persistence (Bytes zeroBytes)

def signerJournals : System SignerJournal SignerCall where
  init j := (∃ activeCapacity epochCapacity,
      SignerJournal.withLimits activeCapacity epochCapacity = .ok j) ∨
    ∃ activeCapacity epochCapacity checkpoint verifier,
      SignerJournal.fromCheckpoint activeCapacity epochCapacity checkpoint verifier = .ok j
  step j call j' := call.run j j'

theorem requireNonzeroDigest_ok {field : String} {digest : Digest} {u : Unit} :
    requireNonzeroDigest field digest = .ok u ↔ zeroBytes digest.bytes = false := require_ok

theorem SignerJournalEpoch.get_pos (epoch : SignerJournalEpoch) : 0 < epoch.get :=
  Nat.pos_of_ne_zero fun hzero => epoch.positive (UInt64.toNat_inj.mp hzero)

theorem SignerJournalEpoch.get_lt (epoch : SignerJournalEpoch) : epoch.get < 2 ^ 64 :=
  epoch.value.toNat_lt

section Shape

variable {checkpoint : SignerJournalCheckpoint} {epochCapacity : Nat} {sequence : Nat}
  {previous : Option Digest} {retiredEpoch : SignerJournalEpoch}
  {tombstones : List SigningOperationTombstone} {collected : ReceiptOwners}

theorem validateShape_ok : checkpoint.validateShape epochCapacity = .ok () ↔
    checkpoint.sequence ≠ 0 ∧
    checkPredecessor checkpoint.sequence checkpoint.previousCheckpointDigest = .ok () ∧
    checkpoint.sequence = checkpoint.retiredEpoch.get ∧
    zeroBytes checkpoint.checkpointDigest.bytes = false ∧
    checkpoint.retiredEpoch.get + 1 < 2 ^ 64 ∧
    checkpoint.activeEpoch.get = checkpoint.retiredEpoch.get + 1 ∧
    checkpoint.tombstones ≠ [] ∧ checkpoint.tombstones.length ≤ epochCapacity ∧
    ∃ seen, checkpoint.tombstones.foldlM (checkTombstone checkpoint.retiredEpoch) ⟨∅, ∅⟩ = .ok seen ∧
      checkpoint.receiptBindings.foldlM checkBinding ∅ = .ok seen.expectedReceipts := by
  have hunit : ∀ {P : Unit → Prop}, (∃ u, P u) ↔ P () := ⟨fun ⟨_, h⟩ => h, fun h => ⟨(), h⟩⟩
  simp only [SignerJournalCheckpoint.validateShape, bind_ok, require_ok, fetch_ok, fits_some,
    requireNonzeroDigest_ok, hunit, exists_eq_right, exists_and_left, exists_eq_left, and_assoc]

structure Bound (checkpoint : SignerJournalCheckpoint) : Prop where
  sequence : checkpoint.sequence = checkpoint.retiredEpoch.get
  digest : zeroBytes checkpoint.checkpointDigest.bytes = false
  successor : checkpoint.activeEpoch.get = checkpoint.retiredEpoch.get + 1

theorem validateShape_bound (h : checkpoint.validateShape epochCapacity = .ok ()) :
    Bound checkpoint := by
  obtain ⟨_, _, hsequence, hdigest, _, hsuccessor, _⟩ := validateShape_ok.mp h
  exact ⟨hsequence, hdigest, hsuccessor⟩

theorem checkPredecessor_ok (hfirst : previous = none ↔ sequence = 1)
    (hdigest : ∀ digest ∈ previous, zeroBytes digest.bytes = false) :
    checkPredecessor sequence previous = .ok () := by
  unfold checkPredecessor
  split
  · next hone =>
    rw [hfirst.mpr hone]
  · next hmore =>
    cases hprevious : previous with
    | none => exact absurd (hfirst.mp hprevious) hmore
    | some digest => exact requireNonzeroDigest_ok.mpr (hdigest digest hprevious)

theorem checkTombstones_ok (seen : SeenTombstones)
    (hformed : ∀ tombstone ∈ tombstones, tombstone.request.journalEpoch = retiredEpoch ∧
      tombstone.state.isTerminal = true ∧ zeroBytes tombstone.archiveDigest.bytes = false ∧
      operationShapeValid tombstone.request tombstone.dispatch tombstone.state = true ∧
      tombstone.request.operationId ∉ seen.tombstones)
    (hnodup : (tombstones.map (·.request.operationId)).Nodup)
    (hcollected : tombstones.foldlM
      (fun receipts tombstone => collectReceipt receipts tombstone.request tombstone.state)
      seen.expectedReceipts = .ok collected) :
    ∃ ids, tombstones.foldlM (checkTombstone retiredEpoch) seen = .ok ⟨ids, collected⟩ := by
  induction tombstones generalizing seen with
  | nil =>
    cases hcollected
    exact ⟨seen.tombstones, rfl⟩
  | cons tombstone rest ih =>
    rw [List.foldlM_cons, bind_ok] at hcollected
    obtain ⟨receipts, hreceipts, hrest⟩ := hcollected
    rw [List.map_cons, List.nodup_cons] at hnodup
    rw [List.forall_mem_cons] at hformed
    obtain ⟨ids, hids⟩ := ih ⟨insert tombstone.request.operationId seen.tombstones, receipts⟩
      (fun other hother => by
        obtain ⟨hepoch, hterminal, hdigest, hshape, hnew⟩ := hformed.2 other hother
        refine ⟨hepoch, hterminal, hdigest, hshape, fun hmem => ?_⟩
        rcases Finset.mem_insert.mp hmem with heq | hold
        · exact hnodup.1 (heq ▸ List.mem_map_of_mem hother)
        · exact hnew hold) hnodup.2 hrest
    refine ⟨ids, ?_⟩
    rw [List.foldlM_cons, bind_ok]
    refine ⟨_, ?_, hids⟩
    rw [checkTombstone]
    exact bind_ok.mpr ⟨(), require_ok.mpr hformed.1, bind_ok.mpr ⟨receipts, hreceipts, rfl⟩⟩

theorem checkBindings_ok (bindings : List SignerReceiptBinding) (receipts : ReceiptOwners)
    (hdigests : ∀ binding ∈ bindings, zeroBytes binding.receiptDigest.bytes = false ∧
      binding.receiptDigest ∉ receipts)
    (hnodup : (bindings.map (·.receiptDigest)).Nodup) :
    bindings.foldlM checkBinding receipts = .ok (bindings.foldl
      (fun receipts binding => receipts.insert binding.receiptDigest binding.operationId)
        receipts) := by
  induction bindings generalizing receipts with
  | nil => rfl
  | cons binding rest ih =>
    rw [List.map_cons, List.nodup_cons] at hnodup
    rw [List.forall_mem_cons] at hdigests
    rw [List.foldlM_cons, List.foldl_cons, bind_ok]
    refine ⟨_, ?_, ih _ (fun other hother => ?_) hnodup.2⟩
    · rw [checkBinding]
      exact bind_ok.mpr ⟨(), requireNonzeroDigest_ok.mpr hdigests.1.1,
        bind_ok.mpr ⟨(), require_ok.mpr hdigests.1.2, rfl⟩⟩
    · refine ⟨(hdigests.2 other hother).1, fun hmem => ?_⟩
      rcases Finmap.mem_insert.mp hmem with heq | hold
      · exact hnodup.1 (heq ▸ List.mem_map_of_mem hother)
      · exact (hdigests.2 other hother).2 hold

end Shape

namespace SignerJournal

variable {j j' : SignerJournal} {call : SignerCall} {nextEpoch : SignerJournalEpoch}
  {checkpointDigest : Digest} {checkpoint : SignerJournalCheckpoint}

structure Numbered (j : SignerJournal) : Prop where
  valid : j.Valid
  capacities : validateCapacities j.activeCapacity j.epochCapacity = .ok ()
  sequence : j.nextCheckpointSequence = j.epoch.get
  first : j.checkpoint = none ↔ j.epoch.get = 1

theorem Valid.bound (h : j.Valid) (hcheckpoint : j.checkpoint = some checkpoint) :
    checkpoint.activeEpoch = j.epoch ∧ Bound checkpoint := by
  have hverified := h.checkpoint
  simp only [verifyCheckpoint, hcheckpoint, bind_ok, require_ok, exists_const] at hverified
  exact ⟨hverified.1, validateShape_bound hverified.2⟩

theorem items_receipts (receipts : ReceiptOwners) :
    ((items receipts).map fun item => SignerReceiptBinding.mk item.1 item.2).foldl
      (fun receipts binding => receipts.insert binding.receiptDigest binding.operationId) ∅ =
        receipts := by
  have hnodup : ((items receipts).map (·.1)).Nodup := items_keys receipts ▸ nodup_ordered _
  rw [List.foldl_map]
  refine Finmap.ext_lookup fun receipt => ?_
  by_cases hmem : receipt ∈ receipts
  · obtain ⟨id, hid⟩ := Finmap.mem_iff.mp hmem
    rw [hid]
    exact lookup_foldl_insert (f := Prod.fst) (g := Prod.snd) hnodup (mem_items.mpr hid) ∅
  · rw [Finmap.lookup_eq_none.mpr hmem]
    refine (lookup_foldl_insert_of_notMem (f := Prod.fst) (g := Prod.snd) ?_ ∅).trans
      (Finmap.lookup_empty _)
    intro hkey
    obtain ⟨item, hitem, rfl⟩ := List.mem_map.mp hkey
    exact hmem (mem_of_lookup (mem_items.mp hitem))

def proposal (j : SignerJournal) (nextEpoch : SignerJournalEpoch) (checkpointDigest : Digest) :
    SignerJournalCheckpoint where
  sequence := j.nextCheckpointSequence
  previousCheckpointDigest := j.checkpoint.map (·.checkpointDigest)
  checkpointDigest
  retiredEpoch := j.epoch
  activeEpoch := nextEpoch
  tombstones := (items j.tombstones).map (·.2)
  receiptBindings := (items j.receiptOwners).map fun item => ⟨item.1, item.2⟩

theorem Valid.receipt_nonzero (h : j.Valid) {receipt : Digest} {id : SigningOperationId}
    (howner : j.receiptOwners.lookup receipt = some id) : zeroBytes receipt.bytes = false := by
  obtain ⟨operation, hoperation, hreceipt⟩ := (h.receipts receipt id).mp howner
  have hdigests := (recordShapeValid_iff.mp (h.operation_facts hoperation).2.2).2.2.2
  cases hstate : operation.state with
  | confirmed receiptDigest =>
    rw [hstate] at hreceipt hdigests
    obtain rfl : receiptDigest = receipt := Option.some.inj hreceipt
    simp only [stateDigestsNonzero, Bool.and_eq_true, Bool.not_eq_true'] at hdigests
    exact hdigests.1.1
  | prepared | dispatched | indeterminate | rejected =>
    rw [hstate] at hreceipt
    cases hreceipt

variable {V : Type}

theorem items_empty {m : Dict SigningOperationId V} (h : m.keys = ∅) : items m = [] := by
  refine List.eq_nil_iff_forall_not_mem.mpr fun item hitem => ?_
  have hkey := Finmap.mem_keys.mpr (mem_of_lookup (mem_items.mp hitem))
  rw [h] at hkey
  exact absurd hkey (Finset.notMem_empty _)

theorem length_items (m : Dict SigningOperationId V) : (items m).length = m.keys.card := by
  rw [← List.length_map (f := (·.1)), items_keys, ← Multiset.coe_card, ordered_perm]
  rfl

theorem Valid.tombstones_ok (h : j.Valid) (hrecords : j.records.keys = ∅) :
    ∃ ids, ((items j.tombstones).map (·.2)).foldlM (checkTombstone j.epoch) ⟨∅, ∅⟩ =
      .ok ⟨ids, j.receiptOwners⟩ := by
  have hformed : ∀ item ∈ items j.tombstones, item.2.request.operationId = item.1 ∧
      item.2.request.journalEpoch = j.epoch ∧ item.2.state.isTerminal = true ∧
      zeroBytes item.2.archiveDigest.bytes = false ∧ recordShapeValid item.2.operation = true :=
    fun item hitem => tombstoneWellFormed_iff.mp (h.tombstone _ _ (mem_items.mp hitem))
  refine checkTombstones_ok _ ?_ ?_ ?_
  · intro tombstone hmem
    obtain ⟨item, hitem, rfl⟩ := List.mem_map.mp hmem
    obtain ⟨_, hepoch, hterminal, hdigest, hshape⟩ := hformed item hitem
    exact ⟨hepoch, hterminal, hdigest, hshape, Finset.notMem_empty _⟩
  · have hids : ((items j.tombstones).map (·.2)).map (·.request.operationId) =
        (items j.tombstones).map (·.1) := by
      rw [List.map_map]
      exact List.map_congr_left fun item hitem => (hformed item hitem).1
    rw [hids, items_keys]
    exact nodup_ordered _
  · obtain ⟨live, hlive, hall⟩ := h.collected
    rw [items_empty hrecords] at hlive
    cases hlive
    rw [List.foldlM_map]
    exact hall

theorem Numbered.proposal_shape (h : j.Numbered) (hrecords : j.records.keys = ∅)
    (htombstones : j.tombstones.keys ≠ ∅) (hnext : nextEpoch.get = j.epoch.get + 1)
    (hdigest : zeroBytes checkpointDigest.bytes = false) :
    (j.proposal nextEpoch checkpointDigest).validateShape j.epochCapacity = .ok () := by
  have hpositive := j.epoch.get_pos
  have hlimit := nextEpoch.get_lt
  have hlength := length_items j.tombstones
  have hoccupancy := h.valid.occupancy
  obtain ⟨ids, hids⟩ := h.valid.tombstones_ok hrecords
  have hroom : j.epoch.get + 1 < 2 ^ 64 := hnext ▸ hlimit
  refine validateShape_ok.mpr ⟨?_, checkPredecessor_ok ?_ ?_, h.sequence, hdigest,
    hroom, hnext, ?_, ?_, ⟨ids, j.receiptOwners⟩, hids, ?_⟩
  · change j.nextCheckpointSequence ≠ 0
    rw [h.sequence]
    exact hpositive.ne'
  · rw [proposal, Option.map_eq_none_iff, h.first, h.sequence]
  · intro digest hmem
    obtain ⟨checkpoint, hcheckpoint, rfl⟩ := Option.map_eq_some_iff.mp hmem
    exact (h.valid.bound hcheckpoint).2.digest
  · intro hnil
    rw [List.map_eq_nil_iff.mp hnil, List.length_nil] at hlength
    exact htombstones (Finset.card_eq_zero.mp hlength.symm)
  · rw [proposal, List.length_map, hlength]
    exact (Nat.le_add_left _ _).trans hoccupancy
  · have hbindings := checkBindings_ok
      ((items j.receiptOwners).map fun item => ⟨item.1, item.2⟩) ∅ ?_ ?_
    · rw [proposal, hbindings, items_receipts]
    · intro binding hmem
      obtain ⟨item, hitem, rfl⟩ := List.mem_map.mp hmem
      exact ⟨h.valid.receipt_nonzero (mem_items.mp hitem), Finmap.notMem_empty⟩
    · rw [List.map_map]
      exact items_keys j.receiptOwners ▸ nodup_ordered _

theorem Numbered.proposes (h : j.Numbered) (hrecords : j.records.keys = ∅)
    (htombstones : j.tombstones.keys ≠ ∅) (hnext : nextEpoch.get = j.epoch.get + 1) :
    j.proposeCheckpoint nextEpoch checkpointDigest =
      if zeroBytes checkpointDigest.bytes = false then .ok (j.proposal nextEpoch checkpointDigest)
      else .error (.zeroDigest "checkpoint_digest") := by
  have hroom : j.epoch.get + 1 < 2 ^ 64 := hnext ▸ nextEpoch.get_lt
  have hexpected : j.requireNextEpoch nextEpoch = .ok () := by
    simp only [requireNextEpoch, bind_ok, fetch_ok, fits_some, require_ok]
    exact ⟨_, ⟨hroom, rfl⟩, hnext⟩
  split
  · next hdigest =>
    simp only [proposeCheckpoint, bind_ok, require_ok, requireNonzeroDigest_ok]
    exact ⟨(), h.valid.verified, (), hrecords, (), htombstones, (), hexpected, (), hdigest, (),
      h.proposal_shape hrecords htombstones hnext hdigest, rfl⟩
  · next hzero =>
    simp only [proposeCheckpoint, bind_error, requireNonzeroDigest, require_error, require_ok]
    exact .inr ⟨(), h.valid.verified, .inr ⟨(), hrecords, .inr ⟨(), htombstones,
      .inr ⟨(), hexpected, .inl ⟨hzero, trivial⟩⟩⟩⟩⟩

variable {activeCapacity epochCapacity : Nat}

theorem numbered_withLimits (h : withLimits activeCapacity epochCapacity = .ok j) : j.Numbered := by
  obtain ⟨⟨⟩, hcapacities, hresult⟩ := bind_ok.mp h
  have hvalid := (livedThrough_init ⟨activeCapacity, epochCapacity, h⟩).valid
  cases hresult
  exact ⟨hvalid, hcapacities, rfl, iff_of_true rfl rfl⟩

theorem numbered_restored (hcapacities : validateCapacities activeCapacity epochCapacity = .ok ())
    (hshape : checkpoint.validateShape epochCapacity = .ok ()) :
    (restored activeCapacity epochCapacity checkpoint).Numbered := by
  have hbound := validateShape_bound hshape
  refine ⟨.restored (validateCapacities_ok.mp hcapacities).2.1.2 hshape, hcapacities, ?_, ?_⟩
  · rw [restored, hbound.sequence, hbound.successor]
  · have hpositive := checkpoint.retiredEpoch.get_pos
    refine iff_of_false (Option.some_ne_none _) ?_
    rw [restored, hbound.successor]
    omega

theorem Numbered.moved (h : j.Numbered) (hmoved : Moved j call j') : j'.Numbered := by
  have hvalid := h.valid.moved hmoved
  cases hmoved with
  | quiet => exact h
  | admitted | wrote | archived => exact ⟨hvalid, h.capacities, h.sequence, h.first⟩
  | advanced hproposed => exact numbered_restored h.capacities (proposeCheckpoint_ok hproposed).1

theorem numbered_of_reachable (hreach : Reachable signerJournals j) : j.Numbered := by
  refine hreach.invariant (I := Numbered) ?_ ?_
  · rintro j (⟨_, _, hnew⟩ | ⟨_, _, checkpoint, _, hrestored⟩)
    · exact numbered_withLimits hnew
    · have hcapacities := (bind_ok.mp hrestored).choose_spec.1
      obtain ⟨_, hshape, rfl⟩ := fromCheckpoint_ok hrestored
      exact numbered_restored hcapacities hshape
  · intro j call j' h hcall
    exact h.moved (moved h.valid hcall)

variable {verifier : SignerJournalArchiveVerifier}

theorem fromCheckpoint_restores
    (hcapacities : validateCapacities activeCapacity epochCapacity = .ok ())
    (hshape : checkpoint.validateShape epochCapacity = .ok ())
    (haccepts : verifier.verifyCheckpoint checkpoint = true) :
    fromCheckpoint activeCapacity epochCapacity checkpoint verifier =
      .ok (restored activeCapacity epochCapacity checkpoint) := by
  have hbound := validateShape_bound hshape
  have hroom : checkpoint.sequence + 1 < 2 ^ 64 := by
    rw [hbound.sequence, ← hbound.successor]
    exact checkpoint.activeEpoch.get_lt
  have hvalid := (numbered_restored hcapacities hshape).valid
  simp only [fromCheckpoint, bind_ok, require_ok, fetch_ok, fits_some]
  exact ⟨(), hcapacities, (), hshape, (), haccepts, _, ⟨hroom, rfl⟩, (), hvalid.verified, rfl⟩

theorem advanceEpoch_ok (h : j.Numbered)
    (hadvanced : j.advanceEpoch nextEpoch checkpointDigest verifier = (.ok checkpoint, j')) :
    j.proposeCheckpoint nextEpoch checkpointDigest = .ok checkpoint ∧
      j' = restored j.activeCapacity j.epochCapacity checkpoint := by
  have hmoved : Moved j (.advanceEpoch nextEpoch checkpointDigest verifier (.ok checkpoint)) j' :=
    moved h.valid hadvanced
  cases hmoved with
  | quiet _ hnone | wrote _ _ _ _ _ _ hnone | archived _ _ _ _ hnone => cases hnone
  | advanced hproposed => exact ⟨hproposed, rfl⟩

theorem settle_valid {α : Type} {written : Except SignerJournalError (α × Option SignerJournal)}
    {reply : α} (hwritten : written = .ok (reply, some j')) (hvalid : j'.Valid) :
    j.settle written = (.ok reply, j') := by
  rw [hwritten, settle, hvalid.verified]
  rfl

theorem advanceEpoch_succeeds (h : j.Numbered)
    (hproposed : j.proposeCheckpoint nextEpoch checkpointDigest = .ok checkpoint)
    (haccepts : verifier.verifyCheckpoint checkpoint = true) :
    j.advanceEpoch nextEpoch checkpointDigest verifier =
      (.ok checkpoint, restored j.activeCapacity j.epochCapacity checkpoint) := by
  obtain ⟨hshape, _, hepoch, hnext, hsequence, _⟩ := proposeCheckpoint_ok hproposed
  have hroom : j.nextCheckpointSequence + 1 < 2 ^ 64 := by
    rw [h.sequence, ← hnext]
    exact nextEpoch.get_lt
  refine settle_valid (bind_ok.mpr ⟨checkpoint, hproposed, bind_ok.mpr ⟨(), require_ok.mpr haccepts,
    bind_ok.mpr ⟨_, fetch_ok.mpr (fits_some.mpr ⟨hroom, rfl⟩), ?_⟩⟩⟩)
    (numbered_restored h.capacities hshape).valid
  rw [restored, hepoch, hsequence]
  rfl

structure CheckpointLaw (j : SignerJournal) : Prop where
  stored : ∀ checkpoint ∈ j.checkpoint, checkpoint.sequence = checkpoint.retiredEpoch.get
  next : j.nextCheckpointSequence = j.epoch.get
  proposes : ∀ nextEpoch checkpointDigest, j.records.keys = ∅ → j.tombstones.keys ≠ ∅ →
    nextEpoch.get = j.epoch.get + 1 →
    (zeroBytes checkpointDigest.bytes = false →
      ∃ checkpoint, j.proposeCheckpoint nextEpoch checkpointDigest = .ok checkpoint ∧
        checkpoint.validateShape j.epochCapacity = .ok ()) ∧
    ∀ error, j.proposeCheckpoint nextEpoch checkpointDigest = .error error →
      error = .zeroDigest "checkpoint_digest"
  advances : ∀ nextEpoch checkpointDigest verifier checkpoint,
    j.proposeCheckpoint nextEpoch checkpointDigest = .ok checkpoint →
    verifier.verifyCheckpoint checkpoint = true →
    ∃ j', j.advanceEpoch nextEpoch checkpointDigest verifier = (.ok checkpoint, j')
  restores : ∀ nextEpoch checkpointDigest verifier checkpoint j',
    j.advanceEpoch nextEpoch checkpointDigest verifier = (.ok checkpoint, j') →
    checkpoint.sequence = checkpoint.retiredEpoch.get ∧ checkpoint.retiredEpoch = j.epoch ∧
    ∀ archive : SignerJournalArchiveVerifier, archive.verifyCheckpoint checkpoint = true →
      fromCheckpoint j.activeCapacity j.epochCapacity checkpoint archive = .ok j'

theorem checkpoint_round_trip (hreach : Reachable signerJournals j) : j.CheckpointLaw := by
  have h := numbered_of_reachable hreach
  constructor
  case stored => exact fun checkpoint hcheckpoint => (h.valid.bound hcheckpoint).2.sequence
  case next => exact h.sequence
  case proposes =>
    intro nextEpoch checkpointDigest hrecords htombstones hnext
    rw [h.proposes hrecords htombstones hnext]
    constructor
    · intro hdigest
      rw [if_pos hdigest]
      exact ⟨_, rfl, h.proposal_shape hrecords htombstones hnext hdigest⟩
    · intro error herror
      split at herror
      · cases herror
      · exact (Except.error.inj herror).symm
  case advances =>
    exact fun _ _ _ _ hproposed haccepts => ⟨_, advanceEpoch_succeeds h hproposed haccepts⟩
  case restores =>
    intro nextEpoch checkpointDigest verifier checkpoint j' hadvanced
    obtain ⟨hproposed, rfl⟩ := advanceEpoch_ok h hadvanced
    obtain ⟨hshape, hretired, _⟩ := proposeCheckpoint_ok hproposed
    exact ⟨(validateShape_bound hshape).sequence, hretired,
      fun archive haccepts => fromCheckpoint_restores h.capacities hshape haccepts⟩

theorem reachable_played {history steps : SignerHistory} (hreach : Reachable signerJournals j)
    (h : signerMachine.Plays history j steps) :
    ∀ step ∈ steps, Reachable signerJournals step.2 := by
  induction steps generalizing history j with
  | nil => exact List.forall_mem_nil _
  | cons step rest ih =>
    obtain ⟨⟨hcall, -⟩, hrest⟩ := h
    have hnext := hreach.run (Run.single (S := signerJournals) hcall)
    exact List.forall_mem_cons.mpr ⟨hnext, ih hnext hrest⟩

def archivedJournal : SignerJournal := rejectedJournal.archive rejectedRecord (digestOf 5)

theorem reachable_archivedJournal : Reachable signerJournals archivedJournal :=
  reachable_played (.start (.inl ⟨2, 2, rfl⟩)) firstEpoch_plays _ (.tail _ (.tail _ (.head _)))

theorem checkpoint_round_trip_sample : CheckpointLaw archivedJournal :=
  checkpoint_round_trip reachable_archivedJournal

end SignerJournal

def SignerJournalError.isViolation : SignerJournalError → Bool
  | .invariantViolation _ => true
  | _ => false

def Sure {α : Type} (x : Except SignerJournalError α) : Prop :=
  Ensures (fun _ => True) (fun error => error.isViolation = false) x

theorem Sure.error {α : Type} {x : Except SignerJournalError α} {error : SignerJournalError}
    (h : Sure x) (hx : x = .error error) : error.isViolation = false := by
  rw [hx] at h
  exact h

section Sure

variable {α β : Type} {x : Except SignerJournalError α} {f : α → Except SignerJournalError β}
  {error : SignerJournalError}

theorem sure_ok {a : α} : Sure (.ok a : Except SignerJournalError α) := trivial

theorem sure_of_ok {a : α} (h : x = .ok a) : Sure x := by
  rw [h]
  exact sure_ok

theorem sure_pure {a : α} : Sure (pure a : Except SignerJournalError α) := trivial

theorem sure_bind (hx : Sure x) (hf : ∀ a, x = .ok a → Sure (f a)) : Sure (x >>= f) := by
  cases x with
  | error e => exact hx
  | ok a => exact hf a rfl

theorem sure_require {c : Prop} [Decidable c] (h : error.isViolation = false) :
    Sure (require c error) := ensures_require.mpr ⟨fun _ => trivial, fun _ => h⟩

theorem sure_required {c : Prop} [Decidable c] (h : c) : Sure (require c error) :=
  ensures_require.mpr ⟨fun _ => trivial, fun hc => absurd h hc⟩

theorem sure_fetch {o : Option α} (h : error.isViolation = false) : Sure (fetch o error) :=
  ensures_fetch.mpr ⟨fun _ _ => trivial, fun _ => h⟩

theorem sure_digest (field : String) (digest : Digest) : Sure (requireNonzeroDigest field digest) :=
  sure_require rfl

theorem sure_request (request : SigningRequest) : Sure request.validate :=
  sure_bind (sure_require rfl) fun _ _ => sure_bind (sure_digest _ _) fun _ _ => sure_pure

theorem sure_identity (identity : SignerDispatchIdentity) : Sure identity.validate :=
  sure_bind (sure_request _) fun _ _ => sure_bind (sure_digest _ _) fun _ _ =>
    sure_bind (sure_digest _ _) fun _ _ => sure_bind (sure_require rfl) fun _ _ => sure_pure

theorem sure_evidence (evidence : SignerOutcomeEvidence) : Sure evidence.validate :=
  sure_bind (sure_request _) fun _ _ => sure_bind (sure_identity _) fun _ _ =>
    sure_bind (sure_require rfl) fun _ _ => sure_bind (sure_digest _ _) fun _ _ =>
      sure_bind (sure_digest _ _) fun _ _ => sure_bind (sure_digest _ _) fun _ _ => sure_pure

end Sure

namespace SignerCall

def failure : SignerCall → Option SignerJournalError
  | .prepare _ (.error error) | .dispatch _ (.error error) | .markTransportLost _ (.error error)
  | .reconcile _ _ _ (.error error) | .rejectBeforeDispatch _ _ (.error error)
  | .archiveTerminal _ _ (.error error) | .advanceEpoch _ _ _ (.error error) => some error
  | _ => none

end SignerCall

namespace SignerJournal

variable {j j' : SignerJournal} {call : SignerCall} {error : SignerJournalError}

def record (j : SignerJournal) (handle : SigningOperationHandle) :
    Except SignerJournalError (Option SigningOperationRecord) := do
  j.requireEpoch handle.journalEpoch
  return j.records.lookup handle.operationId

def tombstone (j : SignerJournal) (handle : SigningOperationHandle) :
    Except SignerJournalError (Option SigningOperationTombstone) := do
  j.requireEpoch handle.journalEpoch
  return j.tombstones.lookup handle.operationId

variable {α : Type}

theorem settle_failed {written : Except SignerJournalError (α × Option SignerJournal)}
    (hvalid : j'.Valid) (h : j.settle written = (.error error, j')) :
    written = .error error ∧ j' = j := by
  unfold settle at h
  split at h
  · obtain ⟨herror, rfl⟩ := Prod.mk.inj h
    rw [Except.error.inj herror]
    exact ⟨rfl, rfl⟩
  · cases (Prod.mk.inj h).1
  · obtain ⟨hreply, rfl⟩ := Prod.mk.inj h
    rw [hvalid.verified] at hreply
    cases hreply

theorem sure_requireEpoch (received : SignerJournalEpoch) : Sure (j.requireEpoch received) :=
  sure_require rfl

theorem sure_requireOperation (handle : SigningOperationHandle) : Sure (j.requireOperation handle) :=
  sure_bind (sure_requireEpoch _) fun _ _ => sure_fetch rfl

theorem Valid.sure_verify (h : j.Valid) : Sure j.verifyInvariants := sure_of_ok h.verified

theorem Valid.room (h : j.Valid) : j.records.keys.card + j.tombstones.keys.card < 2 ^ 64 := by
  have hbounded := h.bounded
  have hoccupancy := h.occupancy
  rw [maxSignerJournalCapacity] at hbounded
  omega

theorem Valid.sure_admit (h : j.Valid) (request : SigningRequest) : Sure (j.admitRequest request) := by
  have hoccupancy : fits 64 (j.records.keys.card + j.tombstones.keys.card) =
      some (j.records.keys.card + j.tombstones.keys.card) := fits_some.mpr ⟨h.room, rfl⟩
  rw [admitRequest, hoccupancy]
  exact sure_bind sure_ok fun _ _ => sure_bind (sure_require rfl) fun _ _ =>
    sure_bind (sure_require rfl) fun _ _ => sure_pure

theorem Valid.tombstone_room (h : j.Valid) {id : SigningOperationId} {current : SigningOperationRecord}
    (hcurrent : j.records.lookup id = some current) :
    j.tombstones.keys.card < j.epochCapacity := by
  have hlive : 0 < j.records.keys.card :=
    Finset.card_pos.mpr ⟨id, Finmap.mem_keys.mpr (mem_of_lookup hcurrent)⟩
  have hoccupancy := h.occupancy
  omega

theorem atomic_settle {written : Except SignerJournalError (α × Option SignerJournal)}
    (hvalid : j'.Valid) (h : j.settle written = (.error error, j')) (hsure : Sure written) :
    j' = j ∧ error.isViolation = false := by
  obtain ⟨hwritten, hsame⟩ := settle_failed hvalid h
  exact ⟨hsame, hsure.error hwritten⟩

theorem prepare_atomic {request : SigningRequest} (hvalid : j.Valid) (hvalid' : j'.Valid)
    (h : j.prepare request = (.error error, j')) : j' = j ∧ error.isViolation = false := by
  refine atomic_settle hvalid' h ?_
  refine sure_bind hvalid.sure_verify fun _ _ => sure_bind (sure_request _) fun given _ =>
    sure_bind (sure_requireEpoch _) fun _ _ => ?_
  cases j.records.lookup given.operationId with
  | some existing => exact sure_bind (sure_require rfl) fun _ _ => sure_pure
  | none =>
    cases j.tombstones.lookup given.operationId with
    | none => exact hvalid.sure_admit _
    | some existing =>
      change (if existing.request = given then _ else _ : SignerJournalError).isViolation = false
      split
      · rfl
      · rfl

theorem dispatch_atomic {identity : SignerDispatchIdentity} (hvalid' : j'.Valid)
    (h : j.dispatch identity = (.error error, j')) : j' = j ∧ error.isViolation = false := by
  refine atomic_settle hvalid' h ?_
  refine sure_bind (sure_identity _) fun given _ => sure_bind (sure_requireOperation _)
    fun current _ => sure_bind (sure_require rfl) fun _ _ => ?_
  cases current.state with
  | prepared => exact sure_pure
  | dispatched | indeterminate | confirmed | rejected => exact rfl

variable {handle : SigningOperationHandle}

theorem markTransportLost_atomic (hvalid' : j'.Valid)
    (h : j.markTransportLost handle = (.error error, j')) : j' = j ∧ error.isViolation = false := by
  refine atomic_settle hvalid' h (sure_bind (sure_requireOperation _) fun current _ => ?_)
  cases current.state with
  | prepared | confirmed | rejected => exact rfl
  | dispatched | indeterminate => exact sure_pure

theorem rejectBeforeDispatch_atomic {reasonDigest : Digest} (hvalid' : j'.Valid)
    (h : j.rejectBeforeDispatch handle reasonDigest = (.error error, j')) :
    j' = j ∧ error.isViolation = false := by
  refine atomic_settle hvalid' h (sure_bind (sure_digest _ _) fun _ _ =>
    sure_bind (sure_requireOperation _) fun current _ => ?_)
  cases current.state with
  | prepared => exact sure_pure
  | dispatched | indeterminate | confirmed | rejected => exact rfl

theorem sure_requireUnbound (evidence : SignerOutcomeEvidence)
    (archiveVerifier : Option SignerJournalArchiveVerifier) :
    Sure (j.requireUnbound evidence archiveVerifier) := by
  unfold requireUnbound
  split
  · exact sure_require rfl
  · exact sure_bind (sure_fetch rfl) fun _ _ => sure_bind (sure_require rfl) fun _ _ =>
      sure_require rfl
  · exact sure_ok

theorem sure_requireDispatched (id : SigningOperationId) (state : SigningOperationState) :
    Sure (requireDispatched id state) := by
  cases state with
  | prepared | rejected => exact rfl
  | dispatched | indeterminate | confirmed => exact sure_ok

theorem sure_outcome (verifier : SignerOutcomeVerifier) (evidence : SignerOutcomeEvidence) :
    Sure ((verifier evidence).mapError .outcomeVerificationFailed) := by
  cases verifier evidence with
  | error e => exact rfl
  | ok _ => exact sure_ok

theorem reconcile_atomic {evidence : SignerOutcomeEvidence} {verifier : SignerOutcomeVerifier}
    {archiveVerifier : Option SignerJournalArchiveVerifier} (hvalid' : j'.Valid)
    (h : j.reconcileInner evidence verifier archiveVerifier = (.error error, j')) :
    j' = j ∧ error.isViolation = false := by
  refine atomic_settle hvalid' h ?_
  refine sure_bind (sure_evidence _) fun given _ => sure_bind (sure_requireEpoch _) fun _ _ =>
    sure_bind (sure_requireOperation _) fun current _ => sure_bind (sure_require rfl) fun _ _ =>
    sure_bind (sure_require rfl) fun _ _ => sure_bind (sure_requireDispatched _ _) fun _ _ =>
    sure_bind (sure_outcome _ _) fun _ _ => ?_
  cases current.state with
  | confirmed => exact sure_bind (sure_require rfl) fun _ _ => sure_pure
  | prepared | dispatched | indeterminate | rejected =>
    exact sure_bind (sure_requireUnbound _ _) fun _ _ => sure_pure

theorem archiveTerminal_atomic {archiveDigest : Digest} (hvalid : j.Valid) (hvalid' : j'.Valid)
    (h : j.archiveTerminal handle archiveDigest = (.error error, j')) :
    j' = j ∧ error.isViolation = false := by
  refine atomic_settle hvalid' h ?_
  refine sure_bind (sure_requireEpoch _) fun _ _ => sure_bind (sure_digest _ _) fun _ _ => ?_
  cases j.tombstones.lookup handle.operationId with
  | some existing => exact sure_bind (sure_require rfl) fun _ _ => sure_pure
  | none =>
    refine sure_bind (sure_requireOperation _) fun current hcurrent =>
      sure_bind (sure_require rfl) fun _ _ => sure_bind ?_ fun _ _ => sure_pure
    exact sure_required (hvalid.tombstone_room (requireOperation_ok.mp hcurrent).2)

theorem Numbered.sure_propose (h : j.Numbered) (nextEpoch : SignerJournalEpoch)
    (checkpointDigest : Digest) : Sure (j.proposeCheckpoint nextEpoch checkpointDigest) := by
  unfold proposeCheckpoint
  refine sure_bind h.valid.sure_verify fun _ _ => sure_bind (sure_require rfl) fun _ hrecords =>
    sure_bind (sure_require rfl) fun _ htombstones => sure_bind ?_ fun _ hnext =>
    sure_bind (sure_digest _ _) fun _ hdigest => sure_bind ?_ fun _ _ => sure_pure
  · exact sure_bind (sure_fetch rfl) fun _ _ => sure_require rfl
  · simp only [requireNextEpoch, bind_ok, fetch_ok, fits_some, require_ok] at hnext
    obtain ⟨expected, ⟨-, rfl⟩, hnext⟩ := hnext
    exact sure_of_ok (h.proposal_shape (require_ok.mp hrecords) (require_ok.mp htombstones) hnext
      (requireNonzeroDigest_ok.mp hdigest))

variable {verifier : SignerJournalArchiveVerifier}

theorem advanceEpoch_atomic {nextEpoch : SignerJournalEpoch} {checkpointDigest : Digest}
    (hj : j.Numbered) (hvalid' : j'.Valid)
    (h : j.advanceEpoch nextEpoch checkpointDigest verifier = (.error error, j')) :
    j' = j ∧ error.isViolation = false :=
  atomic_settle hvalid' h (sure_bind (hj.sure_propose _ _) fun _ _ =>
    sure_bind (sure_require rfl) fun _ _ => sure_bind (sure_fetch rfl) fun _ _ => sure_pure)

theorem Numbered.atomic (h : j.Numbered) (hcall : call.run j j')
    (hfailure : call.failure = some error) : j' = j ∧ error.isViolation = false := by
  have hvalid' := (h.moved (SignerJournal.moved h.valid hcall)).valid
  unfold SignerCall.failure at hfailure
  split at hfailure
  · cases hfailure
    exact prepare_atomic h.valid hvalid' hcall
  · cases hfailure
    exact dispatch_atomic hvalid' hcall
  · cases hfailure
    exact markTransportLost_atomic hvalid' hcall
  · next archiveVerifier _ =>
    cases hfailure
    cases archiveVerifier with
    | none | some _ => exact reconcile_atomic hvalid' hcall
  · cases hfailure
    exact rejectBeforeDispatch_atomic hvalid' hcall
  · cases hfailure
    exact archiveTerminal_atomic h.valid hvalid' hcall
  · cases hfailure
    exact advanceEpoch_atomic h hvalid' hcall
  · cases hfailure

theorem sure_iff {x : Except SignerJournalError α} :
    Sure x ↔ ∀ message, x ≠ .error (.invariantViolation message) := by
  constructor
  · intro h message hx
    cases h.error hx
  · intro h
    cases x with
    | ok a => exact sure_ok
    | error error =>
      cases error with
      | invariantViolation message => exact absurd rfl (h message)
      | _ => exact rfl

theorem sure_capacity (field : String) (received : Nat) :
    Sure (validateJournalCapacity field received) :=
  sure_bind (sure_require rfl) fun _ _ => sure_require rfl

theorem sure_fromCheckpoint {activeCapacity epochCapacity : Nat}
    {checkpoint : SignerJournalCheckpoint} (h : Sure (checkpoint.validateShape epochCapacity)) :
    Sure (fromCheckpoint activeCapacity epochCapacity checkpoint verifier) := by
  refine sure_bind ?_ fun _ hcapacities => sure_bind h fun _ hshape =>
    sure_bind (sure_require rfl) fun _ _ => sure_bind (sure_fetch rfl) fun next hnext =>
    sure_bind (sure_of_ok (a := ()) ?_) fun _ _ => sure_pure
  · exact sure_bind (sure_capacity _ _) fun _ _ => sure_bind (sure_capacity _ _) fun _ _ =>
      sure_require rfl
  · obtain ⟨-, rfl⟩ := fits_some.mp (fetch_ok.mp hnext)
    exact (numbered_restored hcapacities hshape).valid.verified

structure Atomicity (j : SignerJournal) : Prop where
  unchanged : ∀ (call : SignerCall) j', call.run j j' → call.failure ≠ none → j' = j
  calls : ∀ (call : SignerCall) j' message, call.run j j' → call.failure ≠ some (.invariantViolation message)
  proposes : ∀ nextEpoch checkpointDigest message,
    j.proposeCheckpoint nextEpoch checkpointDigest ≠ .error (.invariantViolation message)
  reads : ∀ handle message, j.record handle ≠ .error (.invariantViolation message) ∧
    j.tombstone handle ≠ .error (.invariantViolation message)
  verified : j.verifyInvariants = .ok ()
  restores : ∀ activeCapacity epochCapacity checkpoint verifier,
    (∀ message, checkpoint.validateShape epochCapacity ≠ .error (.invariantViolation message)) →
    ∀ message, fromCheckpoint activeCapacity epochCapacity checkpoint verifier ≠
      .error (.invariantViolation message)

theorem signer_calls_atomic (hreach : Reachable signerJournals j) : j.Atomicity := by
  have h := numbered_of_reachable hreach
  constructor
  case unchanged =>
    intro call j' hcall hfails
    obtain ⟨error, hfailure⟩ := Option.ne_none_iff_exists'.mp hfails
    exact (h.atomic hcall hfailure).1
  case calls =>
    intro call j' message hcall hfailure
    cases (h.atomic hcall hfailure).2
  case proposes =>
    intro nextEpoch checkpointDigest message herror
    cases (h.sure_propose nextEpoch checkpointDigest).error herror
  case reads =>
    intro handle message
    constructor
    · intro herror
      have hsure : Sure (j.record handle) := sure_bind (sure_requireEpoch _) fun _ _ => sure_pure
      cases hsure.error herror
    · intro herror
      have hsure : Sure (j.tombstone handle) := sure_bind (sure_requireEpoch _) fun _ _ => sure_pure
      cases hsure.error herror
  case verified => exact h.valid.verified
  case restores =>
    intro activeCapacity epochCapacity checkpoint verifier hshape
    exact sure_iff.mp (sure_fromCheckpoint (sure_iff.mpr hshape))

theorem signer_calls_atomic_sample : Atomicity archivedJournal :=
  signer_calls_atomic reachable_archivedJournal

end SignerJournal

end Token
