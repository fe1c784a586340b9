import TrillionniumGame.PersistencePg.Database

namespace PersistencePg
open Checks Persistence Runs Tables

section
namespace Database

variable {db db' : Database} {updated : Nat} {entity : EntityId}

theorem head?_some {row : HeadRow} (h : db.head? entity = some row) :
    row ∈ db.heads ∧ row.entityId = entity :=
  ⟨List.mem_of_find?_eq_some h,
    of_decide_eq_true (List.find?_some
      (p := fun row : HeadRow => decide (row.entityId = entity)) h)⟩

variable {row : LeaseRow}

theorem lease?_some (h : db.lease? entity = some row) : row ∈ db.leases ∧ row.entityId = entity :=
  ⟨List.mem_of_find?_eq_some h,
    of_decide_eq_true (List.find?_some
      (p := fun row : LeaseRow => decide (row.entityId = entity)) h)⟩

theorem insertHead_ok {row : HeadRow} (h : db.insertHead row = .ok db') :
    0 < row.authorityGeneration ∧ { db with heads := row :: db.heads } = db' := by
  simp only [insertHead, bind_ok, mapError_ok, insert_ok] at h
  obtain ⟨heads, ⟨hcheck, -, rfl⟩, h⟩ := h
  exact ⟨of_decide_eq_true hcheck, Except.ok.inj h⟩

theorem insertReceipt_ok {row : ReceiptRow} (h : db.insertReceipt row = .ok db') :
    { db with receipts := row :: db.receipts } = db' := by
  simp only [insertReceipt, bind_ok, mapError_ok, insert_ok] at h
  obtain ⟨-, -, receipts, ⟨-, -, rfl⟩, -, -, h⟩ := h
  exact Except.ok.inj h

theorem insertEvent_ok {row : EventRow} (h : db.insertEvent row = .ok db') :
    { db with events := row :: db.events } = db' := by
  simp only [insertEvent, bind_ok, mapError_ok, insert_ok] at h
  obtain ⟨events, ⟨-, -, rfl⟩, -, -, h⟩ := h
  exact Except.ok.inj h

theorem insertOutbox_ok {row : OutboxRow} (h : db.insertOutbox row = .ok db') :
    (∀ held ∈ db.outbox, held.intentId ≠ row.intentId) ∧
      { db with outbox := row :: db.outbox } = db' := by
  simp only [insertOutbox, bind_ok, mapError_ok, insert_ok] at h
  obtain ⟨outbox, ⟨-, hfree, rfl⟩, -, -, h⟩ := h
  exact ⟨fun held hheld => of_decide_eq_false (hfree held hheld), Except.ok.inj h⟩

theorem insertCommandOutbox_ok {row : CommandOutboxRow} (h : db.insertCommandOutbox row = .ok db') :
    { db with commandOutbox := row :: db.commandOutbox } = db' := by
  simp only [insertCommandOutbox, bind_ok, mapError_ok, insert_ok] at h
  obtain ⟨commandOutbox, ⟨-, -, rfl⟩, -, -, -, -, h⟩ := h
  exact Except.ok.inj h

theorem insertLease_ok (h : db.insertLease row = .ok db') :
    { db with leases := row :: db.leases } = db' := by
  simp only [insertLease, bind_ok, mapError_ok, insert_ok] at h
  obtain ⟨leases, ⟨-, -, rfl⟩, -, -, h⟩ := h
  exact Except.ok.inj h

theorem updateHeads_ok {p : HeadRow → Bool} {f : HeadRow → HeadRow} :
    db.updateHeads p f = .ok (db', updated) ↔
      (∀ row ∈ db.heads.filter p, 0 < (f row).authorityGeneration) ∧
        { db with heads := assign p f db.heads } = db' ∧ db.heads.countP p = updated := by
  simp only [updateHeads, bind_ok, mapError_ok, Prod.exists, update_ok]
  constructor
  · rintro ⟨heads, count, ⟨hcheck, rfl, rfl⟩, h⟩
    cases h
    exact ⟨fun row hrow => of_decide_eq_true (hcheck row hrow), rfl, rfl⟩
  · rintro ⟨hcheck, rfl, rfl⟩
    exact ⟨_, _, ⟨fun row hrow => decide_eq_true (hcheck row hrow), rfl, rfl⟩, rfl⟩

theorem updateLeases_ok {p : LeaseRow → Bool} {f : LeaseRow → LeaseRow} :
    db.updateLeases p f = .ok (db', updated) ↔
      (∀ row ∈ db.leases.filter p, 0 < (f row).leaseGeneration ∧ 0 < (f row).authorityGeneration) ∧
        { db with leases := assign p f db.leases } = db' ∧ db.leases.countP p = updated := by
  simp only [updateLeases, bind_ok, mapError_ok, Prod.exists, update_ok]
  constructor
  · rintro ⟨leases, count, ⟨hcheck, rfl, rfl⟩, h⟩
    cases h
    exact ⟨fun row hrow => of_decide_eq_true (hcheck row hrow), rfl, rfl⟩
  · rintro ⟨hcheck, rfl, rfl⟩
    exact ⟨_, _, ⟨fun row hrow => decide_eq_true (hcheck row hrow), rfl, rfl⟩, rfl⟩

end Database

structure Commit where
  request : CommitRequest
  revision : Nat
  sequence : Nat
  deriving DecidableEq

def eventRows (request : CommitRequest) : List EventInput → Nat → List EventRow
  | [], _ => []
  | event :: rest, sequence =>
    ⟨request.entity, sequence + 1, event.id, request.command, event.payload,
      request.committedAtMs⟩ :: eventRows request rest (sequence + 1)

def outboxRows (request : CommitRequest) (intents : List OutboxInput) : List OutboxRow :=
  intents.map fun intent =>
    { intentId := intent.id, entityId := request.entity, commandId := request.command,
      kind := intent.kind, payloadDigest := intent.payload, attempt := 0, leaseGeneration := 0,
      state := .pending, availableAtMs := intent.availableAtMs,
      updatedAtMs := request.committedAtMs }

def commandOutboxRows (request : CommitRequest) : List OutboxInput → Nat → List CommandOutboxRow
  | [], _ => []
  | intent :: rest, position =>
    ⟨request.entity, request.command, position, intent.id⟩ ::
      commandOutboxRows request rest (position + 1)

namespace Commit

variable (commit : Commit)

def firstEventSequence : Option Nat :=
  if commit.request.events = [] then none else some (commit.sequence + 1)

def receiptRow : ReceiptRow :=
  ⟨commit.request.entity, commit.request.command, commit.request.fingerprint, commit.revision,
    commit.request.nextState, commit.firstEventSequence,
    commit.sequence + commit.request.events.length, commit.request.events.length,
    commit.request.committedAtMs⟩

def receipt : CommitReceipt :=
  ⟨commit.request.entity, commit.request.command, commit.request.fingerprint, commit.revision,
    commit.request.nextState, commit.firstEventSequence,
    commit.sequence + commit.request.events.length, commit.request.events.length,
    commit.request.outbox.map OutboxInput.id⟩

def tables (db : Database) : Database where
  heads := assign
    (fun row => row.entityId = commit.request.entity &&
      row.revision = commit.request.expectedRevision &&
      row.authorityGeneration = commit.request.authorityGeneration)
    (fun row => { row with
      revision := commit.revision
      lastEventSequence := commit.sequence + commit.request.events.length
      stateDigest := commit.request.nextState
      updatedAtMs := commit.request.committedAtMs }) db.heads
  receipts := commit.receiptRow :: db.receipts
  events := (eventRows commit.request commit.request.events commit.sequence).reverse ++ db.events
  outbox := (outboxRows commit.request commit.request.outbox).reverse ++ db.outbox
  commandOutbox :=
    (commandOutboxRows commit.request commit.request.outbox 0).reverse ++ db.commandOutbox
  leases := db.leases

end Commit

variable {db db' : Database} {request : CommitRequest} {events : List EventInput}

theorem insertEvents_ok {sequence : Nat}
    (h : Database.insertEvents request events sequence db = .ok db') :
    { db with events := (eventRows request events sequence).reverse ++ db.events } = db' := by
  induction events generalizing sequence db with
  | nil => exact Except.ok.inj h
  | cons event rest ih =>
    simp only [Database.insertEvents, bind_ok, fetch_ok, checkedAdd_some] at h
    obtain ⟨next, ⟨-, rfl⟩, -, -, db₁, hevent, hrest⟩ := h
    cases Database.insertEvent_ok hevent
    rw [← ih hrest, eventRows, List.reverse_cons, List.append_assoc]
    rfl

theorem insertIntents_ok {intents : List OutboxInput} {position : Nat}
    (h : Database.insertIntents request intents position db = .ok db') :
    (∀ intent ∈ intents, ∀ held ∈ db.outbox, held.intentId ≠ intent.id) ∧
      (intents.map OutboxInput.id).Nodup ∧
      { db with
        outbox := (outboxRows request intents).reverse ++ db.outbox
        commandOutbox :=
          (commandOutboxRows request intents position).reverse ++ db.commandOutbox } = db' := by
  induction intents generalizing position db with
  | nil => exact ⟨nofun, List.nodup_nil, Except.ok.inj h⟩
  | cons intent rest ih =>
    simp only [Database.insertIntents, bind_ok] at h
    obtain ⟨-, -, db₁, houtbox, db₂, hcommand, hrest⟩ := h
    obtain ⟨hfree, rfl⟩ := Database.insertOutbox_ok houtbox
    cases Database.insertCommandOutbox_ok hcommand
    obtain ⟨hfresh, hnodup, hdb⟩ := ih hrest
    refine ⟨List.forall_mem_cons.mpr ⟨hfree, fun other hother held hheld => ?_⟩, ?_, ?_⟩
    · exact hfresh other hother held (List.mem_cons_of_mem _ hheld)
    · refine List.nodup_cons.mpr ⟨fun hmem => ?_, hnodup⟩
      obtain ⟨other, hother, hid⟩ := List.mem_map.mp hmem
      exact hfresh other hother _ List.mem_cons_self hid.symm
    · rw [← hdb, outboxRows, List.map_cons, commandOutboxRows, List.reverse_cons,
        List.reverse_cons, List.append_assoc, List.append_assoc]
      rfl

theorem firstAfter_ok {last : Nat} {first : Option Nat}
    (h : Database.firstAfter last events = .ok first) :
    (if events = [] then none else some (last + 1)) = first := by
  cases events with
  | nil => exact Except.ok.inj h
  | cons event rest =>
    simp only [Database.firstAfter, map_ok, fetch_ok, checkedAdd_some] at h
    obtain ⟨next, ⟨-, rfl⟩, rfl⟩ := h
    exact if_neg (List.cons_ne_nil _ _)

structure Applies (db : Database) (request : CommitRequest) (head : HeadRow) : Prop where
  known : db.head? request.entity = some head
  generation : head.authorityGeneration = request.authorityGeneration
  revision : head.revision = request.expectedRevision
  revisions : head.revision + 1 < 2 ^ 63
  sequences : head.lastEventSequence + request.events.length < 2 ^ 63
  intents : ∀ intent ∈ request.outbox, ∀ held ∈ db.outbox, held.intentId ≠ intent.id
  apart : (request.outbox.map OutboxInput.id).Nodup

theorem applyCommand_ok {receipt : CommitReceipt}
    (h : db.applyCommand request = .ok (receipt, db')) : ∃ head, Applies db request head ∧
      receipt = Commit.receipt ⟨request, head.revision + 1, head.lastEventSequence⟩ ∧
      db' = Commit.tables ⟨request, head.revision + 1, head.lastEventSequence⟩ db := by
  simp only [Database.applyCommand, bind_ok, fetch_ok, require_ok, checkedAdd_some, Prod.exists,
    Database.updateHeads_ok] at h
  obtain ⟨head, hhead, -, hgeneration, -, hrevision, nextRevision, ⟨-, rfl⟩, first, hfirst,
    nextLast, ⟨-, rfl⟩, _, hrevisions, -, -, -, -, _, hsequences, -, -, db₁, updated,
    ⟨-, rfl, -⟩, -, -, -, -, db₂, hreceipt, db₃, hevents, db₄, hintents, h⟩ := h
  cases h
  cases firstAfter_ok hfirst
  cases Database.insertReceipt_ok hreceipt
  cases insertEvents_ok hevents
  obtain ⟨hfresh, hapart, rfl⟩ := insertIntents_ok hintents
  exact ⟨head, ⟨hhead, hgeneration, hrevision, lt_of_toI64 hrevisions, lt_of_toI64 hsequences,
    hfresh, hapart⟩, rfl, rfl⟩

theorem commitCommand_ok {outcome : CommitOutcome}
    (h : db.commitCommand request = .ok (outcome, db')) :
    (∃ row, db.receipt? request.entity request.command = some row ∧
      row.fingerprint = request.fingerprint ∧ outcome = .duplicate (db.decodeReceipt row) ∧
        db' = db) ∨
    (∃ head, db.receipt? request.entity request.command = none ∧ Applies db request head ∧
      outcome = .applied (Commit.receipt ⟨request, head.revision + 1, head.lastEventSequence⟩) ∧
        db' = Commit.tables ⟨request, head.revision + 1, head.lastEventSequence⟩ db) := by
  simp only [Database.commitCommand, bind_ok] at h
  obtain ⟨-, -, h⟩ := h
  unfold Database.loadReceipt at h
  cases hrow : db.receipt? request.entity request.command with
  | some row =>
    simp only [hrow, Option.map_some, bind_ok, require_ok] at h
    obtain ⟨-, hsame, h⟩ := h
    cases h
    exact .inl ⟨row, rfl, hsame, rfl, rfl⟩
  | none =>
    simp only [hrow, Option.map_none, bind_ok, Prod.exists] at h
    obtain ⟨receipt, db₁, happly, h⟩ := h
    cases h
    obtain ⟨head, happlies, rfl, rfl⟩ := applyCommand_ok happly
    exact .inr ⟨head, rfl, happlies, rfl, rfl⟩

theorem bootstrapEntity_ok {entity : EntityId} {generation updatedAtMs : Nat} {state : Digest32}
    {head : EntityHead}
    (h : db.bootstrapEntity entity generation state updatedAtMs = .ok (head, db')) :
    db.head? entity = none ∧ generation ≠ 0 ∧
      db' = { db with
        heads := ⟨entity, 0, 0, generation, state, updatedAtMs⟩ :: db.heads } ∧
      head = ⟨entity, 0, 0, generation, state, updatedAtMs⟩ := by
  simp only [Database.bootstrapEntity, bind_ok, require_ok, fetch_ok] at h
  obtain ⟨-, hvalid, -, -, -, -, -, hnone, db₁, hinsert, found, hload, row, hfound, h⟩ := h
  obtain ⟨-, rfl⟩ := Database.insertHead_ok hinsert
  cases h
  simp only [Database.loadHead, bind_ok] at hload
  obtain ⟨-, -, hload⟩ := hload
  cases hload
  have hfirst : Database.head? { db with
      heads := ⟨entity, 0, 0, generation, state, updatedAtMs⟩ :: db.heads } entity =
      some ⟨entity, 0, 0, generation, state, updatedAtMs⟩ :=
    List.find?_cons_of_pos (decide_eq_true rfl)
  rw [hfirst] at hfound
  exact ⟨hnone, fun hzero => hvalid (.inr (.inl hzero)), rfl, (Option.some.inj hfound).symm⟩

section Leases

variable {entity : EntityId} {owner : NodeId} {generation nowMs expiresAtMs : Nat}
  {lease reply : AuthorityLease}

def Database.takenOver (entity : EntityId) (owner : NodeId) (generation nowMs expiresAtMs : Nat)
    (previous : LeaseRow) (db : Database) : Database :=
  { db with
    heads := assign
      (fun row => row.entityId = entity && row.authorityGeneration = generation)
      (fun row => { row with
        authorityGeneration := generation + 1
        updatedAtMs := nowMs }) db.heads
    leases := assign
      (fun row => row.entityId = entity && row.leaseGeneration = previous.leaseGeneration &&
        row.authorityGeneration = generation)
      (fun row => { row with
        ownerNode := owner
        leaseGeneration := previous.leaseGeneration + 1
        authorityGeneration := generation + 1
        expiresAtMs
        updatedAtMs := nowMs }) db.leases }

structure TakesOver (db : Database) (entity : EntityId) (generation nowMs : Nat)
    (previous : LeaseRow) : Prop where
  known : db.lease? entity = some previous
  generation : previous.authorityGeneration = generation
  clock : previous.updatedAtMs ≤ nowMs
  expired : previous.expiresAtMs ≤ nowMs

theorem acquireAuthorityLease_ok
    (h : db.acquireAuthorityLease entity owner generation nowMs expiresAtMs = .ok (reply, db')) :
    ∃ head, db.head? entity = some head ∧ head.authorityGeneration = generation ∧
      head.updatedAtMs ≤ nowMs ∧
        (db.lease? entity = none ∧ reply = ⟨entity, owner, 1, generation, expiresAtMs, nowMs⟩ ∧
            db' = { db with
              leases := ⟨entity, owner, 1, generation, expiresAtMs, nowMs⟩ :: db.leases } ∨
          ∃ previous, TakesOver db entity generation nowMs previous ∧
            reply = ⟨entity, owner, previous.leaseGeneration + 1, generation + 1, expiresAtMs,
              nowMs⟩ ∧
            db' = db.takenOver entity owner generation nowMs expiresAtMs previous) := by
  simp only [Database.acquireAuthorityLease, bind_ok, require_ok, fetch_ok] at h
  obtain ⟨-, -, -, -, -, -, -, -, head, hhead, -, hgeneration, -, hclock, h⟩ := h
  refine ⟨head, hhead, hgeneration, hclock, ?_⟩
  cases hlease : db.lease? entity with
  | none =>
    simp only [hlease, Option.map_none, Database.firstLease, bind_ok] at h
    obtain ⟨db₁, hinsert, h⟩ := h
    cases Database.insertLease_ok hinsert
    cases h
    exact .inl ⟨rfl, rfl, rfl⟩
  | some previous =>
    simp only [hlease, Option.map_some, Database.takeOver, bind_ok, require_ok, fetch_ok,
      checkedAdd_some, Prod.exists, Database.updateHeads_ok, Database.updateLeases_ok] at h
    obtain ⟨-, hsame, -, hlast, -, hexpired, next, ⟨-, rfl⟩, next', ⟨-, rfl⟩, -, -, -, -,
      db₁, updated, ⟨-, rfl, -⟩, -, -, -, -, db₂, updated', ⟨-, rfl, -⟩, -, -, h⟩ := h
    cases h
    exact .inr ⟨previous, ⟨hlease, hsame, hlast, hexpired⟩, rfl, rfl⟩

def AuthorityLease.names (lease : AuthorityLease) (row : LeaseRow) : Bool :=
  row.entityId = lease.entity && row.ownerNode = lease.owner &&
    row.leaseGeneration = lease.leaseGeneration &&
    row.authorityGeneration = lease.authorityGeneration

theorem names_entity {row : LeaseRow} (h : lease.names row = true) :
    row.entityId = lease.entity := by
  simp only [AuthorityLease.names, Bool.and_eq_true, decide_eq_true_eq] at h
  exact h.1.1.1

def LeaseRow.timed (expiresAtMs updatedAtMs : Nat) (row : LeaseRow) : LeaseRow :=
  { row with
    expiresAtMs
    updatedAtMs }

theorem renewAuthorityLease_ok
    (h : db.renewAuthorityLease lease nowMs expiresAtMs = .ok (reply, db')) :
    ∃ row, db.lease? lease.entity = some row ∧ lease.names row = true ∧ row.updatedAtMs ≤ nowMs ∧
      nowMs < row.expiresAtMs ∧
      db' = { db with
        leases := assign lease.names (.timed expiresAtMs nowMs) db.leases } := by
  simp only [Database.renewAuthorityLease, bind_ok, require_ok, fetch_ok, Option.map_eq_some_iff,
    Prod.exists, Database.updateLeases_ok] at h
  obtain ⟨-, -, -, -, -, -, -, -, -, -, -, -, current, ⟨row, hrow, rfl⟩, -, hnamed, -, hexpires, -,
    hclock, -, -, -, -, db₁, updated, ⟨-, rfl, -⟩, -, -, h⟩ := h
  cases h
  obtain ⟨howner, hlease, hauthority⟩ := hnamed
  have hentity := (Database.lease?_some hrow).2
  refine ⟨row, hrow, ?_, hclock, hexpires, rfl⟩
  simp only [AuthorityLease.names, Bool.and_eq_true, decide_eq_true_eq]
  exact ⟨⟨⟨hentity, howner⟩, hlease⟩, hauthority⟩

theorem releaseAuthorityLease_ok
    (h : db.releaseAuthorityLease lease nowMs = .ok (reply, db')) :
    (∃ row ∈ db.leases, lease.names row = true ∧ nowMs < row.expiresAtMs) ∧
      db' = { db with
        leases := assign (fun row => lease.names row && nowMs < row.expiresAtMs)
          (.timed nowMs nowMs) db.leases } := by
  simp only [Database.releaseAuthorityLease, bind_ok, require_ok, Prod.exists,
    Database.updateLeases_ok] at h
  obtain ⟨-, -, -, -, -, -, -, -, db₁, updated, ⟨-, rfl, hcount⟩, -, hone, h⟩ := h
  cases h
  refine ⟨?_, rfl⟩
  obtain ⟨row, hrow, hnamed⟩ := List.countP_pos_iff.mp (hcount.trans hone ▸ Nat.one_pos)
  simp only [Bool.and_eq_true, decide_eq_true_eq] at hnamed
  simp only [AuthorityLease.names, Bool.and_eq_true, decide_eq_true_eq]
  exact ⟨row, hrow, hnamed.1, hnamed.2⟩

end Leases

end

section
inductive DatabaseCall where
  | bootstrapEntity (entity : EntityId) (authorityGeneration : Nat) (state : Digest32)
      (updatedAtMs : Nat)
  | commitCommand (request : CommitRequest)
  | acquireAuthorityLease (entity : EntityId) (owner : NodeId)
      (expectedAuthorityGeneration nowMs expiresAtMs : Nat)
  | renewAuthorityLease (lease : AuthorityLease) (nowMs expiresAtMs : Nat)
  | releaseAuthorityLease (lease : AuthorityLease) (releasedAtMs : Nat)
  | claimOutboxBatch (owner : NodeId) (nowMs leaseDurationMs maxAttempts limit : Nat)
  | completeOutbox (lease : OutboxLease) (receipt : Digest32) (completedAtMs : Nat)
  | retryOrDeadLetterOutbox (lease : OutboxLease) (nowMs nextAvailableAtMs maxAttempts : Nat)
      (deadReason : Digest32)

inductive DatabaseReply where
  | head (head : EntityHead)
  | outcome (outcome : CommitOutcome)
  | granted (lease : AuthorityLease)
  | lease (lease : AuthorityLease)
  | batch (batch : OutboxClaimBatch)
  | completed
  | retried (outcome : OutboxRetryOutcome)

def Database.perform (db : Database) : DatabaseCall →
    Except DomainError (DatabaseReply × Database)
  | .bootstrapEntity entity authorityGeneration state updatedAtMs => do
    let (head, db) ← db.bootstrapEntity entity authorityGeneration state updatedAtMs
    return (.head head, db)
  | .commitCommand request => do
    let (outcome, db) ← db.commitCommand request
    return (.outcome outcome, db)
  | .acquireAuthorityLease entity owner expectedAuthorityGeneration nowMs expiresAtMs => do
    let (lease, db) ←
      db.acquireAuthorityLease entity owner expectedAuthorityGeneration nowMs expiresAtMs
    return (.granted lease, db)
  | .renewAuthorityLease lease nowMs expiresAtMs => do
    let (lease, db) ← db.renewAuthorityLease lease nowMs expiresAtMs
    return (.lease lease, db)
  | .releaseAuthorityLease lease releasedAtMs => do
    let (lease, db) ← db.releaseAuthorityLease lease releasedAtMs
    return (.lease lease, db)
  | .claimOutboxBatch owner nowMs leaseDurationMs maxAttempts limit => do
    let (batch, outbox) ←
      PersistencePg.claimOutboxBatch owner nowMs leaseDurationMs maxAttempts limit db.outbox
    return (.batch batch, { db with outbox })
  | .completeOutbox lease receipt completedAtMs => do
    let outbox ← PersistencePg.completeOutbox lease receipt completedAtMs db.outbox
    return (.completed, { db with outbox })
  | .retryOrDeadLetterOutbox lease nowMs nextAvailableAtMs maxAttempts deadReason => do
    let (outcome, outbox) ← PersistencePg.retryOrDeadLetterOutbox lease nowMs nextAvailableAtMs
      maxAttempts deadReason db.outbox
    return (.retried outcome, { db with outbox })

inductive Performed (db : Database) : DatabaseCall → DatabaseReply → Database → Prop
  | bootstrapped {entity : EntityId} {generation updatedAtMs : Nat} {state : Digest32}
      (fresh : db.head? entity = none) (positive : generation ≠ 0) :
      Performed db (.bootstrapEntity entity generation state updatedAtMs)
        (.head ⟨entity, 0, 0, generation, state, updatedAtMs⟩)
        { db with heads := ⟨entity, 0, 0, generation, state, updatedAtMs⟩ :: db.heads }
  | repeated {request : CommitRequest} {row : ReceiptRow}
      (stored : db.receipt? request.entity request.command = some row)
      (same : row.fingerprint = request.fingerprint) :
      Performed db (.commitCommand request) (.outcome (.duplicate (db.decodeReceipt row))) db
  | applied {request : CommitRequest} {head : HeadRow}
      (fresh : db.receipt? request.entity request.command = none)
      (applies : Applies db request head) :
      Performed db (.commitCommand request)
        (.outcome (.applied
          (Commit.receipt ⟨request, head.revision + 1, head.lastEventSequence⟩)))
        (Commit.tables ⟨request, head.revision + 1, head.lastEventSequence⟩ db)
  | leased {entity : EntityId} {owner : NodeId} {generation nowMs expiresAtMs : Nat}
      {head : HeadRow} (known : db.head? entity = some head)
      (same : head.authorityGeneration = generation) (clock : head.updatedAtMs ≤ nowMs)
      (fresh : db.lease? entity = none) :
      Performed db (.acquireAuthorityLease entity owner generation nowMs expiresAtMs)
        (.granted ⟨entity, owner, 1, generation, expiresAtMs, nowMs⟩)
        { db with leases := ⟨entity, owner, 1, generation, expiresAtMs, nowMs⟩ :: db.leases }
  | takenOver {entity : EntityId} {owner : NodeId} {generation nowMs expiresAtMs : Nat}
      {head : HeadRow} {previous : LeaseRow} (known : db.head? entity = some head)
      (same : head.authorityGeneration = generation) (clock : head.updatedAtMs ≤ nowMs)
      (takes : TakesOver db entity generation nowMs previous) :
      Performed db (.acquireAuthorityLease entity owner generation nowMs expiresAtMs)
        (.granted ⟨entity, owner, previous.leaseGeneration + 1, generation + 1, expiresAtMs,
          nowMs⟩)
        (db.takenOver entity owner generation nowMs expiresAtMs previous)
  | renewed {lease reply : AuthorityLease} {nowMs expiresAtMs : Nat} {row : LeaseRow}
      (known : db.lease? lease.entity = some row) (named : lease.names row = true)
      (clock : row.updatedAtMs ≤ nowMs) (held : nowMs < row.expiresAtMs) :
      Performed db (.renewAuthorityLease lease nowMs expiresAtMs) (.lease reply)
        { db with leases := assign lease.names (.timed expiresAtMs nowMs) db.leases }
  | released {lease reply : AuthorityLease} {releasedAtMs : Nat} {row : LeaseRow}
      (stored : row ∈ db.leases) (named : lease.names row = true)
      (held : releasedAtMs < row.expiresAtMs) :
      Performed db (.releaseAuthorityLease lease releasedAtMs) (.lease reply)
        { db with
          leases := assign (fun row => lease.names row && releasedAtMs < row.expiresAtMs)
            (.timed releasedAtMs releasedAtMs) db.leases }
  | claimed {owner : NodeId} {nowMs leaseDurationMs maxAttempts limit : Nat}
      {batch : OutboxClaimBatch} {outbox : List OutboxRow}
      (claims : PersistencePg.claimOutboxBatch owner nowMs leaseDurationMs maxAttempts limit
        db.outbox = .ok (batch, outbox)) :
      Performed db (.claimOutboxBatch owner nowMs leaseDurationMs maxAttempts limit)
        (.batch batch) { db with outbox }
  | completed {lease : OutboxLease} {receipt : Digest32} {completedAtMs : Nat}
      {outbox : List OutboxRow}
      (completes : PersistencePg.completeOutbox lease receipt completedAtMs db.outbox =
        .ok outbox) :
      Performed db (.completeOutbox lease receipt completedAtMs) .completed { db with outbox }
  | retried {lease : OutboxLease} {nowMs nextAvailableAtMs maxAttempts : Nat}
      {deadReason : Digest32} {outcome : OutboxRetryOutcome} {outbox : List OutboxRow}
      (retries : PersistencePg.retryOrDeadLetterOutbox lease nowMs nextAvailableAtMs maxAttempts
        deadReason db.outbox = .ok (outcome, outbox)) :
      Performed db (.retryOrDeadLetterOutbox lease nowMs nextAvailableAtMs maxAttempts deadReason)
        (.retried outcome) { db with outbox }

theorem perform_ok {db db' : Database} {call : DatabaseCall} {reply : DatabaseReply}
    (h : db.perform call = .ok (reply, db')) : Performed db call reply db' := by
  cases call with
  | bootstrapEntity entity generation state updatedAtMs =>
    simp only [Database.perform, bind_ok, Prod.exists] at h
    obtain ⟨head, db₁, hbootstrap, h⟩ := h
    cases h
    obtain ⟨hnone, hpositive, rfl, rfl⟩ := bootstrapEntity_ok hbootstrap
    exact .bootstrapped hnone hpositive
  | commitCommand request =>
    simp only [Database.perform, bind_ok, Prod.exists] at h
    obtain ⟨outcome, db₁, hcommit, h⟩ := h
    cases h
    obtain ⟨row, hrow, hsame, rfl, rfl⟩ | ⟨head, hnone, happlies, rfl, rfl⟩ :=
      commitCommand_ok hcommit
    · exact .repeated hrow hsame
    · exact .applied hnone happlies
  | acquireAuthorityLease entity owner generation nowMs expiresAtMs =>
    simp only [Database.perform, bind_ok, Prod.exists] at h
    obtain ⟨lease, db₁, hacquire, h⟩ := h
    cases h
    obtain ⟨head, hhead, hsame, hclock, ⟨hnone, rfl, rfl⟩ | ⟨previous, htakes, rfl, rfl⟩⟩ :=
      acquireAuthorityLease_ok hacquire
    · exact .leased hhead hsame hclock hnone
    · exact .takenOver hhead hsame hclock htakes
  | renewAuthorityLease lease nowMs expiresAtMs =>
    simp only [Database.perform, bind_ok, Prod.exists] at h
    obtain ⟨renewed, db₁, hrenew, h⟩ := h
    cases h
    obtain ⟨row, hrow, hnamed, hclock, hheld, rfl⟩ := renewAuthorityLease_ok hrenew
    exact .renewed hrow hnamed hclock hheld
  | releaseAuthorityLease lease releasedAtMs =>
    simp only [Database.perform, bind_ok, Prod.exists] at h
    obtain ⟨released, db₁, hrelease, h⟩ := h
    cases h
    obtain ⟨⟨row, hrow, hnamed, hheld⟩, rfl⟩ := releaseAuthorityLease_ok hrelease
    exact .released hrow hnamed hheld
  | claimOutboxBatch owner nowMs leaseDurationMs maxAttempts limit =>
    simp only [Database.perform, bind_ok, Prod.exists] at h
    obtain ⟨batch, outbox, hclaim, h⟩ := h
    cases h
    exact .claimed hclaim
  | completeOutbox lease receipt completedAtMs =>
    simp only [Database.perform, bind_ok] at h
    obtain ⟨outbox, hcomplete, h⟩ := h
    cases h
    exact .completed hcomplete
  | retryOrDeadLetterOutbox lease nowMs nextAvailableAtMs maxAttempts deadReason =>
    simp only [Database.perform, bind_ok, Prod.exists] at h
    obtain ⟨outcome, outbox, hretry, h⟩ := h
    cases h
    exact .retried hretry

structure Store where
  db : Database
  log : List Commit
  grants : List AuthorityLease

def Store.initial : Store := ⟨.empty, [], []⟩

def Store.record (s : Store) (call : DatabaseCall) (reply : DatabaseReply) (db : Database) :
    Store where
  db := db
  log := match call, reply with
    | .commitCommand request, .outcome (.applied receipt) =>
      ⟨request, receipt.revision, receipt.lastEventSequence - receipt.eventCount⟩ :: s.log
    | _, _ => s.log
  grants := match reply with
    | .granted lease => lease :: s.grants
    | _ => s.grants

-- A serialisable transaction that is answered has run. One that is cut off may have run all the
-- same.
inductive StoreStep (s : Store) : DatabaseCall × Except DomainError DatabaseReply → Store → Prop
  | answered {call : DatabaseCall} {reply : DatabaseReply} {db : Database}
      (performs : s.db.perform call = .ok (reply, db)) :
      StoreStep s (call, .ok reply) (s.record call reply db)
  | refused {call : DatabaseCall} {e : DomainError} (refuses : s.db.perform call = .error e) :
      StoreStep s (call, .error e) s
  | lost {call : DatabaseCall} {reply : DatabaseReply} {db : Database} {source : Option String}
      (cut : CutOff source) (performs : s.db.perform call = .ok (reply, db)) :
      StoreStep s (call, .error (mapPostgresError source)) (s.record call reply db)
  | aborted (call : DatabaseCall) {source : Option String} (cut : CutOff source) :
      StoreStep s (call, .error (mapPostgresError source)) s

def database : System Store (DatabaseCall × Except DomainError DatabaseReply) where
  init s := s = .initial
  step := StoreStep

def Store.after (s : Store) : List DatabaseCall → Store
  | [] => s
  | call :: rest =>
    match s.db.perform call with
    | .ok (reply, db) => (s.record call reply db).after rest
    | .error _ => s.after rest

theorem run_after_calls {S : System Store (DatabaseCall × Except DomainError DatabaseReply)}
    {calls : List DatabaseCall} (hS : ∀ call ∈ calls, ∀ s e t,
      StoreStep s (call, e) t → S.step s (call, e) t) (s : Store) :
    ∃ events, Run S s events (s.after calls) := by
  induction calls generalizing s with
  | nil => exact ⟨[], .nil s⟩
  | cons call rest ih =>
    have hrest := fun call hcall => hS call (List.mem_cons_of_mem _ hcall)
    unfold Store.after
    split
    · next hperforms =>
      obtain ⟨events, hrun⟩ := ih hrest _
      exact ⟨_, .cons (hS call List.mem_cons_self _ _ _ (.answered hperforms)) hrun⟩
    · exact ih hrest s

theorem reachable_after_calls (calls : List DatabaseCall) :
    Reachable database (Store.initial.after calls) := by
  obtain ⟨events, hrun⟩ := run_after_calls (S := database) (fun _ _ _ _ _ h => h) .initial
  exact (Reachable.start rfl).run hrun

theorem invariant_of_performs {I : Store → Prop} (hstart : I .initial)
    (h : ∀ s call reply db, I s → Performed s.db call reply db → I (s.record call reply db))
    {s : Store} (hs : Reachable database s) : I s := by
  refine hs.invariant (fun s hinit => hinit ▸ hstart) fun s event t hI hstep => ?_
  cases hstep with
  | answered hperforms | lost _ hperforms => exact h s _ _ _ hI (perform_ok hperforms)
  | refused | aborted => exact hI

end

end PersistencePg
