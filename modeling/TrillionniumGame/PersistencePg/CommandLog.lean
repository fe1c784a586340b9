import TrillionniumGame.PersistencePg.EntityHistory

namespace PersistencePg
open Checks Persistence Runs Tables

namespace Commit

variable (commit : Commit)

def events : List EventRow := eventRows commit.request commit.request.events commit.sequence

def outbox : List OutboxRow := outboxRows commit.request commit.request.outbox

def commandOutbox : List CommandOutboxRow :=
  commandOutboxRows commit.request commit.request.outbox 0

def sequences : List Nat := List.range' (commit.sequence + 1) commit.request.events.length

end Commit

structure Store.Logged (s : Store) : Prop where
  receipts : s.db.receipts = s.log.map Commit.receiptRow
  events : s.db.events = s.log.flatMap fun commit => commit.events.reverse
  outbox : s.db.outbox.map OutboxRow.subject =
    s.log.flatMap fun commit => (commit.outbox.map OutboxRow.subject).reverse
  commandOutbox : s.db.commandOutbox = s.log.flatMap fun commit => commit.commandOutbox.reverse
  commands : s.log.Pairwise fun later earlier =>
    ¬ (earlier.entity = later.entity ∧ earlier.request.command = later.request.command)
  intents : (s.db.outbox.map OutboxRow.intentId).Nodup

section Steps

variable {s : Store} {db : Database} {call : DatabaseCall} {reply : DatabaseReply}
  {request : CommitRequest} {db : Database} {entity : EntityId}
  {command : CommandId}

theorem receipt?_none :
    db.receipt? entity command = none ↔
      ∀ row ∈ db.receipts, ¬ (row.entityId = entity ∧ row.commandId = command) := by
  simp only [Database.receipt?, List.find?_eq_none, decide_eq_true_eq]

theorem receipt?_found {row : ReceiptRow} (h : db.receipt? entity command = some row) :
    row ∈ db.receipts ∧ row.entityId = entity ∧ row.commandId = command := by
  obtain ⟨hsame, -⟩ := List.find?_eq_some_iff_append.mp h
  exact ⟨List.mem_of_find?_eq_some h, of_decide_eq_true hsame⟩

theorem Store.Logged.outbox_moved {outbox : List OutboxRow} (hlogged : s.Logged)
    (hsubjects : outbox.map OutboxRow.subject = s.db.outbox.map OutboxRow.subject) :
    Store.Logged { s with db := { s.db with outbox } } := by
  obtain ⟨receipts, events, houtbox, commandOutbox, commands, intents⟩ := hlogged
  have hids : ∀ rows : List OutboxRow,
      rows.map OutboxRow.intentId = (rows.map OutboxRow.subject).map OutboxSubject.id :=
    fun rows => (List.map_map (f := OutboxRow.subject) (g := OutboxSubject.id)).symm
  refine ⟨receipts, events, hsubjects.trans houtbox, commandOutbox, commands, ?_⟩
  change (outbox.map OutboxRow.intentId).Nodup
  rw [hids, hsubjects, ← hids]
  exact intents

theorem outboxRows_ids (request : CommitRequest) (intents : List OutboxInput) :
    (outboxRows request intents).map OutboxRow.intentId = intents.map OutboxInput.id := by
  rw [outboxRows, List.map_map]
  rfl

theorem Store.Logged.applied {head : HeadRow} (hlogged : s.Logged)
    (hfresh : s.db.receipt? request.entity request.command = none)
    (happlies : Applies s.db request head) :
    Store.Logged
      { s with
        db := Commit.tables ⟨request, head.revision + 1, head.lastEventSequence⟩ s.db
        log := ⟨request, head.revision + 1, head.lastEventSequence⟩ :: s.log } := by
  obtain ⟨receipts, events, houtbox, commandOutbox, commands, intents⟩ := hlogged
  refine ⟨congrArg _ receipts, congrArg _ events, ?_, congrArg _ commandOutbox,
    List.pairwise_cons.mpr ⟨fun earlier hearlier hsame => ?_, commands⟩, ?_⟩
  · change (_ ++ s.db.outbox).map _ = _
    rw [List.map_append, houtbox, List.map_reverse]
    rfl
  · refine receipt?_none.mp hfresh earlier.receiptRow ?_ hsame
    rw [receipts]
    exact List.mem_map_of_mem hearlier
  · change ((outboxRows request request.outbox).reverse ++ s.db.outbox).map _ |>.Nodup
    rw [List.map_append, List.map_reverse, outboxRows_ids, List.nodup_append, List.nodup_reverse]
    refine ⟨happlies.apart, intents, fun id hid held hheld hsame => ?_⟩
    obtain ⟨intent, hintent, rfl⟩ := List.mem_map.mp (List.mem_reverse.mp hid)
    obtain ⟨row, hrow, rfl⟩ := List.mem_map.mp hheld
    exact happlies.intents intent hintent row hrow hsame.symm

theorem Store.Logged.performed (hlogged : s.Logged) (h : Performed s.db call reply db) :
    (s.record call reply db).Logged := by
  cases h with
  | bootstrapped | leased | takenOver | renewed | released =>
    obtain ⟨receipts, events, outbox, commandOutbox, commands, intents⟩ := hlogged
    exact ⟨receipts, events, outbox, commandOutbox, commands, intents⟩
  | repeated => exact hlogged
  | applied hfresh happlies =>
    have happlied := hlogged.applied hfresh happlies
    simpa only [Store.record, Commit.receipt, Nat.add_sub_cancel] using happlied
  | claimed hclaims =>
    exact hlogged.outbox_moved
      (forall₂_ids (fun _ _ => Claimed.subject) (claimOutboxBatch_ok hclaims hlogged.intents).1)
  | completed hcompletes =>
    exact hlogged.outbox_moved
      (forall₂_ids (fun _ _ => Fenced.subject) (completeOutbox_ok hcompletes))
  | retried hretries =>
    exact hlogged.outbox_moved
      (forall₂_ids (fun _ _ => Fenced.subject) (retryOrDeadLetterOutbox_ok hretries))

theorem reachable_logged (hs : Reachable database s) : s.Logged :=
  invariant_of_performs ⟨rfl, rfl, rfl, rfl, .nil, List.nodup_nil⟩
    (fun _ _ _ _ hlogged h => hlogged.performed h) hs

end Steps

structure EntityHistory.Numbered (h : EntityHistory) : Prop where
  revisions : h.log.map Commit.revision = down (h.head.elim 0 HeadRow.revision)
  sequences : (h.log.flatMap fun commit => commit.sequences.reverse) =
    down (h.head.elim 0 HeadRow.lastEventSequence)

theorem down_add (m n : Nat) : down (m + n) = (List.range' (m + 1) n).reverse ++ down m := by
  rw [down, down, ← List.reverse_append, Nat.add_comm m 1, List.range'_append_1]

theorem EntityHistory.Numbered.moves {h k : EntityHistory} (hnumbered : h.Numbered)
    (hmoves : h.Moves k) : k.Numbered := by
  obtain ⟨revisions, sequences⟩ := hnumbered
  cases hmoves with
  | stays | leased | timed => exact ⟨revisions, sequences⟩
  | bootstrapped hfresh hrevision hsequence =>
    rw [hfresh] at revisions sequences
    refine ⟨revisions.trans (congrArg down hrevision.symm),
      sequences.trans (congrArg down hsequence.symm)⟩
  | @applied head request hknown =>
    rw [hknown] at revisions sequences
    refine ⟨?_, ?_⟩
    · rw [List.map_cons, revisions]
      exact (down_succ _).symm
    · rw [List.flatMap_cons, sequences]
      exact (down_add _ _).symm
  | takenOver hknown =>
    rw [hknown] at revisions sequences
    exact ⟨revisions, sequences⟩

theorem history_numbered {s : Store} (hs : Reachable database s) (entity : EntityId) :
    (s.history entity).Numbered := by
  refine invariant_of_performs (I := fun s => (s.history entity).Numbered) ⟨rfl, rfl⟩ ?_ hs
  exact fun s call reply db hnumbered h => hnumbered.moves (performed_moves h entity)

section Receipts

variable {s : Store} {commit : Commit} (request : CommitRequest) (intents : List OutboxInput)

theorem commandOutboxRows_pairwise (position : Nat) :
    (commandOutboxRows request intents position).Pairwise (fun row row' =>
      row.position < row'.position) ∧
    ∀ row ∈ commandOutboxRows request intents position, position ≤ row.position := by
  induction intents generalizing position with
  | nil => exact ⟨.nil, nofun⟩
  | cons intent rest ih =>
    obtain ⟨hpairwise, hle⟩ := ih (position + 1)
    refine ⟨List.pairwise_cons.mpr ⟨fun row hrow => hle row hrow, hpairwise⟩,
      List.forall_mem_cons.mpr ⟨le_rfl, fun row hrow => ?_⟩⟩
    exact (Nat.le_succ position).trans (hle row hrow)

theorem commandOutboxRows_about (position : Nat) :
    ∀ row ∈ commandOutboxRows request intents position,
      row.entityId = request.entity ∧ row.commandId = request.command := by
  induction intents generalizing position with
  | nil => exact nofun
  | cons intent rest ih => exact List.forall_mem_cons.mpr ⟨⟨rfl, rfl⟩, ih (position + 1)⟩

theorem commandOutboxRows_ids (position : Nat) :
    (commandOutboxRows request intents position).map CommandOutboxRow.intentId =
      intents.map OutboxInput.id := by
  induction intents generalizing position with
  | nil => rfl
  | cons intent rest ih => exact congrArg (intent.id :: ·) (ih (position + 1))

theorem flatMap_one {R : Type} {log : List Commit} {f : Commit → List R}
    {same : Commit → Commit → Prop} (hapart : log.Pairwise fun later earlier =>
      ¬ same earlier later)
    (hsymm : ∀ commit commit', same commit commit' → same commit' commit)
    (hcommit : commit ∈ log) (hother : ∀ other ∈ log, ¬ same other commit → f other = []) :
    log.flatMap f = f commit := by
  induction log with
  | nil => cases hcommit
  | cons first rest ih =>
    obtain ⟨hfirst, hrest⟩ := List.pairwise_cons.mp hapart
    rw [List.flatMap_cons]
    rcases List.mem_cons.mp hcommit with rfl | hmem
    · have hnil : rest.flatMap f = [] := List.flatMap_eq_nil_iff.mpr fun other hmem =>
        hother other (List.mem_cons_of_mem _ hmem) (hfirst other hmem)
      rw [hnil, List.append_nil]
    · rw [hother first List.mem_cons_self fun hsame => hfirst commit hmem (hsymm _ _ hsame),
        List.nil_append]
      exact ih hrest hmem fun other hmem => hother other (List.mem_cons_of_mem _ hmem)

variable (hlogged : s.Logged)
include hlogged

theorem Store.Logged.outboxOf (hcommit : commit ∈ s.log) :
    s.db.outboxOf commit.request.entity commit.request.command =
      commit.request.outbox.map OutboxInput.id := by
  have hrows : (s.db.commandOutbox.filter fun row =>
      row.entityId = commit.request.entity ∧ row.commandId = commit.request.command) =
      commit.commandOutbox.reverse := by
    rw [hlogged.commandOutbox, List.filter_flatMap]
    refine (flatMap_one hlogged.commands (fun _ _ h => ⟨h.1.symm, h.2.symm⟩) hcommit
      fun other _ hother => ?_).trans ?_
    · refine List.filter_eq_nil_iff.mpr fun row hrow hsame => hother ?_
      obtain ⟨hentity, hcommand⟩ :=
        commandOutboxRows_about _ _ _ row (List.mem_reverse.mp hrow)
      obtain ⟨hentity', hcommand'⟩ := of_decide_eq_true hsame
      exact ⟨hentity.symm.trans hentity', hcommand.symm.trans hcommand'⟩
    · refine List.filter_eq_self.mpr fun row hrow => decide_eq_true ?_
      exact commandOutboxRows_about _ _ _ row (List.mem_reverse.mp hrow)
  rw [Database.outboxOf, hrows, Paging.sortedBy_of_perm (List.reverse_perm commit.commandOutbox)
    (commandOutboxRows_pairwise _ _ 0).1]
  exact commandOutboxRows_ids _ _ 0

theorem Store.Logged.decodeReceipt (hcommit : commit ∈ s.log) :
    s.db.decodeReceipt commit.receiptRow = commit.receipt := by
  have houtbox := hlogged.outboxOf hcommit
  rw [Database.decodeReceipt, Commit.receipt]
  exact congrArg _ houtbox

theorem Store.Logged.commit_unique {commit' : Commit} (hcommit : commit ∈ s.log)
    (hcommit' : commit' ∈ s.log) (hentity : commit.entity = commit'.entity)
    (hcommand : commit.request.command = commit'.request.command) : commit = commit' := by
  by_contra hne
  have hsymm : Std.Symm fun later earlier : Commit =>
      ¬ (earlier.entity = later.entity ∧ earlier.request.command = later.request.command) :=
    ⟨fun _ _ h hsame => h ⟨hsame.1.symm, hsame.2.symm⟩⟩
  exact hlogged.commands.forall hcommit' hcommit (Ne.symm hne) ⟨hentity, hcommand⟩

theorem Store.Logged.receipt?_some {entity : EntityId} {command : CommandId} {row : ReceiptRow}
    (h : s.db.receipt? entity command = some row) :
    ∃ commit ∈ s.log, commit.entity = entity ∧ commit.request.command = command ∧
      commit.receiptRow = row := by
  obtain ⟨hmem, hentity, hcommand⟩ := receipt?_found h
  rw [hlogged.receipts] at hmem
  obtain ⟨commit, hcommit, rfl⟩ := List.mem_map.mp hmem
  exact ⟨commit, hcommit, hentity, hcommand, rfl⟩

theorem Store.Logged.receipt? (hcommit : commit ∈ s.log) :
    s.db.receipt? commit.request.entity commit.request.command = some commit.receiptRow := by
  cases hfound : s.db.receipt? commit.request.entity commit.request.command with
  | none =>
    have hmem : commit.receiptRow ∈ s.db.receipts := by
      rw [hlogged.receipts]
      exact List.mem_map_of_mem hcommit
    exact absurd ⟨rfl, rfl⟩ (receipt?_none.mp hfound _ hmem)
  | some row =>
    obtain ⟨other, hother, hentity, hcommand, rfl⟩ := hlogged.receipt?_some hfound
    rw [hlogged.commit_unique hother hcommit hentity hcommand]

end Receipts

section Rows

variable {s : Store}

theorem eventRows_sequences (request : CommitRequest) (events : List EventInput) (sequence : Nat) :
    (eventRows request events sequence).map EventRow.sequence =
      List.range' (sequence + 1) events.length := by
  induction events generalizing sequence with
  | nil => rfl
  | cons event rest ih =>
    rw [eventRows, List.map_cons, ih, List.length_cons, List.range'_succ]

theorem eventRows_about (request : CommitRequest) (events : List EventInput) (sequence : Nat) :
    ∀ row ∈ eventRows request events sequence,
      row.entityId = request.entity ∧ row.commandId = request.command := by
  induction events generalizing sequence with
  | nil => exact nofun
  | cons event rest ih => exact List.forall_mem_cons.mpr ⟨⟨rfl, rfl⟩, ih (sequence + 1)⟩

theorem mem_history {entity : EntityId} {commit : Commit} (hcommit : commit ∈ s.log)
    (hentity : commit.entity = entity) : commit ∈ (s.history entity).log :=
  List.mem_filter.mpr ⟨hcommit, decide_eq_true hentity⟩

variable {head : HeadRow}

theorem receipt_within (hs : Reachable database s) {row : ReceiptRow}
    (hhead : s.db.head? row.entityId = some head) (hrow : row ∈ s.db.receipts) :
    0 < row.revision ∧ row.revision ≤ head.revision := by
  rw [(reachable_logged hs).receipts] at hrow
  obtain ⟨commit, hcommit, rfl⟩ := List.mem_map.mp hrow
  have hmem := List.mem_map_of_mem (f := Commit.revision) (mem_history hcommit rfl)
  change s.db.head? commit.entity = _ at hhead
  rw [(history_numbered hs commit.entity).revisions, Store.history, hhead] at hmem
  exact mem_down.mp hmem

theorem event_within (hs : Reachable database s) {row : EventRow}
    (hhead : s.db.head? row.entityId = some head) (hrow : row ∈ s.db.events) :
    0 < row.sequence ∧ row.sequence ≤ head.lastEventSequence := by
  rw [(reachable_logged hs).events] at hrow
  obtain ⟨commit, hcommit, hevent⟩ := List.mem_flatMap.mp hrow
  have hevent' := List.mem_reverse.mp hevent
  have hentity := (eventRows_about _ _ _ row hevent').1
  have hsequence : row.sequence ∈ commit.sequences.reverse := by
    rw [List.mem_reverse, Commit.sequences, ← eventRows_sequences commit.request]
    exact List.mem_map_of_mem hevent'
  have hmem : row.sequence ∈
      (s.history row.entityId).log.flatMap fun commit => commit.sequences.reverse :=
    List.mem_flatMap.mpr ⟨commit, mem_history hcommit hentity.symm, hsequence⟩
  rw [(history_numbered hs row.entityId).sequences, Store.history, hhead] at hmem
  exact mem_down.mp hmem

variable {row : CommandOutboxRow}

theorem Store.Logged.command_outbox_about (hlogged : s.Logged) (hrow : row ∈ s.db.commandOutbox) :
    s.db.hasReceipt row.entityId row.commandId := by
  rw [hlogged.commandOutbox] at hrow
  obtain ⟨commit, hcommit, hrow⟩ := List.mem_flatMap.mp hrow
  obtain ⟨hentity, hcommand⟩ := commandOutboxRows_about _ _ _ row (List.mem_reverse.mp hrow)
  refine ⟨commit.receiptRow, ?_, hentity.symm, hcommand.symm⟩
  rw [hlogged.receipts]
  exact List.mem_map_of_mem hcommit

theorem Store.Logged.command_outbox_linked (hlogged : s.Logged) (hrow : row ∈ s.db.commandOutbox) :
    ∃ held ∈ s.db.outbox, held.intentId = row.intentId := by
  rw [hlogged.commandOutbox] at hrow
  obtain ⟨commit, hcommit, hrow⟩ := List.mem_flatMap.mp hrow
  have hid := List.mem_map_of_mem (f := CommandOutboxRow.intentId) (List.mem_reverse.mp hrow)
  rw [Commit.commandOutbox, commandOutboxRows_ids, ← outboxRows_ids commit.request] at hid
  obtain ⟨written, hwritten, hsame⟩ := List.mem_map.mp hid
  have hsubject : written.subject ∈ s.db.outbox.map OutboxRow.subject := by
    rw [hlogged.outbox]
    exact List.mem_flatMap.mpr
      ⟨commit, hcommit, List.mem_reverse.mpr (List.mem_map_of_mem hwritten)⟩
  obtain ⟨held, hheld, hsubject⟩ := List.mem_map.mp hsubject
  exact ⟨held, hheld, (congrArg OutboxSubject.id hsubject).trans hsame⟩

end Rows

section Replies

variable {s t : Store} {request : CommitRequest} {receipt : CommitReceipt}
  {events : List (DatabaseCall × Except DomainError DatabaseReply)}

def Store.Recorded (s : Store) (request : CommitRequest) (receipt : CommitReceipt) : Prop :=
  ∃ commit ∈ s.log, commit.entity = request.entity ∧
    commit.request.command = request.command ∧
      commit.request.fingerprint = request.fingerprint ∧ receipt = commit.receipt

variable {reply : DatabaseReply} {db : Database}

theorem record_log {call : DatabaseCall} {commit : Commit} (hcommit : commit ∈ s.log) :
    commit ∈ (s.record call reply db).log := by
  unfold Store.record
  dsimp only
  split
  · exact List.mem_cons_of_mem _ hcommit
  · exact hcommit

theorem Store.Recorded.step {event : DatabaseCall × Except DomainError DatabaseReply}
    (h : s.Recorded request receipt) (hstep : StoreStep s event t) :
    t.Recorded request receipt := by
  obtain ⟨commit, hcommit, hsame⟩ := h
  cases hstep with
  | answered | lost => exact ⟨commit, record_log hcommit, hsame⟩
  | refused | aborted => exact ⟨commit, hcommit, hsame⟩

theorem Store.Recorded.run (h : s.Recorded request receipt) (hrun : Run database s events t) :
    t.Recorded request receipt :=
  hrun.invariant (I := fun s => s.Recorded request receipt) (fun _ _ _ h hstep => h.step hstep) h

variable {outcome : CommitOutcome}

theorem commitCommand_valid {db' : Database} (h : db.commitCommand request = .ok (outcome, db')) :
    validateRequest request = .ok () := by
  obtain ⟨_, hvalid, -⟩ := bind_ok.mp h
  exact hvalid

theorem perform_commit (h : s.db.perform (.commitCommand request) = .ok (reply, db)) :
    ∃ outcome, reply = .outcome outcome ∧ s.db.commitCommand request = .ok (outcome, db) := by
  simp only [Database.perform, bind_ok, Prod.exists] at h
  obtain ⟨outcome, db₁, hcommit, h⟩ := h
  cases h
  exact ⟨outcome, rfl, hcommit⟩

theorem perform_recorded (hs : Reachable database s)
    (h : s.db.perform (.commitCommand request) = .ok (.outcome outcome, db)) :
    (s.record (.commitCommand request) (.outcome outcome) db).Recorded request outcome.receipt := by
  have hlogged := reachable_logged hs
  cases perform_ok h with
  | repeated hstored hsame =>
    obtain ⟨commit, hcommit, hentity, hcommand, rfl⟩ := hlogged.receipt?_some hstored
    exact ⟨commit, hcommit, hentity, hcommand, hsame, hlogged.decodeReceipt hcommit⟩
  | applied =>
    refine ⟨_, List.mem_cons_self, rfl, rfl, rfl, ?_⟩
    simp only [CommitOutcome.receipt, Commit.receipt, Nat.add_sub_cancel]

theorem perform_repeated (hs : Reachable database s) (hvalid : validateRequest request = .ok ())
    (h : s.Recorded request receipt) : s.db.perform (.commitCommand request) =
      .ok (.outcome (.duplicate receipt), s.db) := by
  have hlogged := reachable_logged hs
  obtain ⟨commit, hcommit, hentity, hcommand, hfingerprint, rfl⟩ := h
  have hfound := hlogged.receipt? hcommit
  rw [show commit.request.entity = request.entity from hentity, hcommand] at hfound
  have hload : s.db.loadReceipt request.entity request.command = some commit.receipt := by
    rw [Database.loadReceipt, hfound, Option.map_some, hlogged.decodeReceipt hcommit]
  have hcommitted : s.db.commitCommand request = .ok (.duplicate commit.receipt, s.db) := by
    rw [Database.commitCommand, hvalid, ok_bind, hload]
    dsimp only
    rw [require_of (show commit.receipt.fingerprint = request.fingerprint from hfingerprint)]
    rfl
  rw [Database.perform, hcommitted]
  rfl

theorem recorded_unique (hs : Reachable database s) {request' : CommitRequest}
    {receipt' : CommitReceipt} (h : s.Recorded request receipt)
    (h' : s.Recorded request' receipt') (hentity : request.entity = request'.entity)
    (hcommand : request.command = request'.command) :
    request.fingerprint = request'.fingerprint ∧ receipt = receipt' := by
  obtain ⟨commit, hcommit, hsame, hnamed, hfingerprint, rfl⟩ := h
  obtain ⟨commit', hcommit', hsame', hnamed', hfingerprint', rfl⟩ := h'
  cases (reachable_logged hs).commit_unique hcommit hcommit'
    (hsame.trans (hentity.trans hsame'.symm)) (hnamed.trans (hcommand.trans hnamed'.symm))
  exact ⟨hfingerprint.symm.trans hfingerprint', rfl⟩

theorem answers_recorded {s₀ : Store} (hstart : database.init s₀)
    (hrun : Run database s₀ events s)
    (hevent : (DatabaseCall.commitCommand request, Except.ok (DatabaseReply.outcome outcome)) ∈
      events) : s.Recorded request outcome.receipt := by
  induction hrun with
  | nil => cases hevent
  | @snoc t u events event hrun hstep ih =>
    rcases List.mem_append.mp hevent with hbefore | hlast
    · exact (ih hbefore).step hstep
    · cases List.mem_singleton.mp hlast
      have hreach := (Reachable.start hstart).run hrun
      cases hstep with
      | answered hperforms => exact perform_recorded hreach hperforms

end Replies

end PersistencePg
