import TrillionniumGame.PersistencePg.CommandLog

namespace PersistencePg
open Checks Persistence Runs Tables

def violations : List DomainError :=
  [classifyViolation .check, classifyViolation .unique, classifyViolation .foreignKey]

def Database.Reuses (db : Database) (request : CommitRequest) : Prop :=
  (∃ event ∈ request.events, ∃ row ∈ db.events, row.eventId = event.id) ∨
    ∃ intent ∈ request.outbox, ∃ row ∈ db.outbox, row.intentId = intent.id

def Expected (reason : Prop) (e : DomainError) : Prop :=
  e ≠ headGenerationMismatch ∧ (e ∈ violations → reason)

section Walk

variable {reason : Prop} {db : Database} {request : CommitRequest}

theorem expected_plain {e : DomainError} (h : e ≠ headGenerationMismatch ∧ e ∉ violations) :
    Expected reason e :=
  ⟨h.1, fun hviolation => absurd hviolation h.2⟩

theorem fails_check {α : Type} {c : Prop} [Decidable c] {e : DomainError}
    {f : Unit → Except DomainError α} (h : e ≠ headGenerationMismatch ∧ e ∉ violations)
    (hf : ∀ u, require c e = .ok u → Fails (Expected reason) (f u)) :
    Fails (Expected reason) (require c e >>= f) :=
  fails_bind (fails_require fun _ => expected_plain h) hf

theorem fails_found {α β : Type} {x : Option α} {e : DomainError} {f : α → Except DomainError β}
    (h : e ≠ headGenerationMismatch ∧ e ∉ violations)
    (hf : ∀ a, fetch x e = .ok a → Fails (Expected reason) (f a)) :
    Fails (Expected reason) (fetch x e >>= f) :=
  fails_bind (fails_fetch fun _ => expected_plain h) hf

theorem expected_violation (h : reason) (v : Violation) :
    Expected reason (classifyViolation v) := by
  refine ⟨?_, fun _ => h⟩
  cases v <;> decide

theorem fails_toI64 {value : Nat} : Fails (Expected reason) (toI64 value) := by
  unfold toI64
  split
  · exact fails_ok
  · exact fails_error (expected_plain (by decide))

theorem fails_insert {R : Type} {schema : Schema R} {row : R} {table : List R}
    (hcheck : schema.check row = true)
    (hfree : ¬ reason → ∀ held ∈ table, schema.clash row held = false) :
    Fails (Expected reason) ((insert schema row table).mapError classifyViolation) := by
  by_cases hreason : reason
  · exact fails_mapError fun v _ => expected_violation hreason v
  · have hinsert : insert schema row table = .ok (row :: table) :=
      insert_ok.mpr ⟨hcheck, hfree hreason, rfl⟩
    rw [hinsert]
    exact fails_ok

theorem fails_update {R : Type} {schema : Schema R} {p : R → Bool} {f : R → R} {table : List R}
    (hcheck : ∀ row ∈ table, p row = true → schema.check (f row) = true) :
    Fails (Expected reason) ((update schema p f table).mapError classifyViolation) := by
  have hall : ∀ row ∈ table.filter p, schema.check (f row) = true := fun row hrow =>
    hcheck row (List.mem_filter.mp hrow).1 (List.mem_filter.mp hrow).2
  rw [update_ok.mpr ⟨hall, rfl, rfl⟩]
  exact fails_ok

theorem fails_validateRequest : Fails (Expected reason) (validateRequest request) :=
  fails_check (by decide) fun _ _ =>
    fails_check (by decide) fun _ _ =>
    fails_bind fails_toI64 fun _ _ => fails_bind fails_toI64 fun _ _ =>
    fails_bind fails_toI64 fun _ _ =>
    fails_check (by decide) fun _ _ =>
    fails_require fun _ => expected_plain (by decide)

structure ValidRequest (request : CommitRequest) : Prop where
  generation : 0 < request.authorityGeneration
  events : request.events.length ≤ 64
  outbox : request.outbox.length ≤ 64
  eventIds : (request.events.map EventInput.id).Nodup
  intentIds : (request.outbox.map OutboxInput.id).Nodup

theorem validateRequest_ok (h : validateRequest request = .ok ()) : ValidRequest request := by
  simp only [validateRequest, bind_ok, require_ok] at h
  obtain ⟨-, hzero, -, hlengths, -, -, -, -, -, -, -, hevents, houtbox⟩ := h
  exact ⟨Nat.pos_of_ne_zero fun h => hzero (.inr (.inr (.inr (.inr h)))), hlengths.1, hlengths.2,
    hevents.2, houtbox.2⟩

section Rows

theorem fails_insertHead {row : HeadRow} (hgeneration : 0 < row.authorityGeneration)
    (hfree : ∀ held ∈ db.heads, held.entityId ≠ row.entityId) :
    Fails (Expected reason) (db.insertHead row) :=
  fails_bind (fails_insert (decide_eq_true hgeneration) fun _ held hheld =>
    decide_eq_false (hfree held hheld)) fun _ _ => fails_ok

theorem fails_insertReceipt {row : ReceiptRow} (hcheck : trnmCommandReceipts.check row = true)
    (hfree : ∀ held ∈ db.receipts, ¬ (held.entityId = row.entityId ∧
      (held.commandId = row.commandId ∨ held.revision = row.revision)))
    (hhead : ∃ head ∈ db.heads, head.entityId = row.entityId) :
    Fails (Expected reason) (db.insertReceipt row) :=
  fails_check (by decide) fun _ _ =>
    fails_bind (fails_insert hcheck fun _ held hheld => decide_eq_false (hfree held hheld))
      fun _ _ => fails_bind (fails_require fun hnone => absurd hhead hnone) fun _ _ => fails_ok

theorem fails_insertEvent {row : EventRow} (hsequence : 0 < row.sequence)
    (hreceipt : db.hasReceipt row.entityId row.commandId)
    (hfree : ¬ reason → ∀ held ∈ db.events, ¬ (held.eventId = row.eventId ∨
      held.entityId = row.entityId ∧ held.sequence = row.sequence)) :
    Fails (Expected reason) (db.insertEvent row) :=
  fails_bind (fails_insert (decide_eq_true hsequence) fun hreason held hheld =>
    decide_eq_false (hfree hreason held hheld)) fun _ _ =>
      fails_bind (fails_require fun hnone => absurd hreceipt hnone) fun _ _ => fails_ok

theorem fails_insertOutbox {row : OutboxRow} (hattempt : row.attempt ≤ 32)
    (hreceipt : db.hasReceipt row.entityId row.commandId)
    (hfree : ¬ reason → ∀ held ∈ db.outbox, held.intentId ≠ row.intentId) :
    Fails (Expected reason) (db.insertOutbox row) :=
  fails_bind (fails_insert (decide_eq_true hattempt) fun hreason held hheld =>
    decide_eq_false (hfree hreason held hheld)) fun _ _ =>
      fails_bind (fails_require fun hnone => absurd hreceipt hnone) fun _ _ => fails_ok

theorem fails_insertCommandOutbox {row : CommandOutboxRow} (hposition : row.position < 64)
    (hreceipt : db.hasReceipt row.entityId row.commandId)
    (hintent : ∃ held ∈ db.outbox, held.intentId = row.intentId)
    (hfree : ¬ reason → ∀ held ∈ db.commandOutbox, ¬ (held.intentId = row.intentId ∨
      held.entityId = row.entityId ∧ held.commandId = row.commandId ∧
        held.position = row.position)) :
    Fails (Expected reason) (db.insertCommandOutbox row) :=
  fails_bind (fails_insert (decide_eq_true hposition) fun hreason held hheld =>
    decide_eq_false (hfree hreason held hheld)) fun _ _ =>
      fails_bind (fails_require fun hnone => absurd hreceipt hnone) fun _ _ =>
      fails_bind (fails_require fun hnone => absurd hintent hnone) fun _ _ => fails_ok

theorem fails_insertLease {row : LeaseRow}
    (hgenerations : 0 < row.leaseGeneration ∧ 0 < row.authorityGeneration)
    (hfree : ∀ held ∈ db.leases, held.entityId ≠ row.entityId)
    (hhead : ∃ head ∈ db.heads, head.entityId = row.entityId) :
    Fails (Expected reason) (db.insertLease row) :=
  fails_bind (fails_insert (decide_eq_true hgenerations) fun _ held hheld =>
    decide_eq_false (hfree held hheld)) fun _ _ =>
      fails_bind (fails_require fun hnone => absurd hhead hnone) fun _ _ => fails_ok

theorem fails_updateHeads {p : HeadRow → Bool} {f : HeadRow → HeadRow}
    (hgeneration : ∀ row ∈ db.heads, p row = true → 0 < (f row).authorityGeneration) :
    Fails (Expected reason) (db.updateHeads p f) :=
  fails_bind (fails_update fun row hrow hp => decide_eq_true (hgeneration row hrow hp))
    fun _ _ => fails_ok

theorem fails_updateLeases {p : LeaseRow → Bool} {f : LeaseRow → LeaseRow}
    (hgenerations : ∀ row ∈ db.leases, p row = true →
      0 < (f row).leaseGeneration ∧ 0 < (f row).authorityGeneration) :
    Fails (Expected reason) (db.updateLeases p f) :=
  fails_bind (fails_update fun row hrow hp => decide_eq_true (hgenerations row hrow hp))
    fun _ _ => fails_ok

end Rows

theorem fails_insertEvents {events : List EventInput} {sequence : Nat}
    (hreceipt : db.hasReceipt request.entity request.command)
    (hids : (events.map EventInput.id).Nodup)
    (hsequences : ∀ row ∈ db.events, row.entityId = request.entity → row.sequence ≤ sequence)
    (hfresh : ¬ reason → ∀ event ∈ events, ∀ row ∈ db.events, row.eventId ≠ event.id) :
    Fails (Expected reason) (Database.insertEvents request events sequence db) := by
  induction events generalizing sequence db with
  | nil => exact fails_ok
  | cons event rest ih =>
    obtain ⟨hfirst, hrest⟩ := List.nodup_cons.mp hids
    refine fails_found (by decide) fun next hnext =>
      fails_bind fails_toI64 fun _ _ => ?_
    obtain ⟨-, rfl⟩ := checkedAdd_some.mp (fetch_ok.mp hnext)
    refine fails_bind (fails_insertEvent (Nat.succ_pos _) hreceipt fun hreason held hheld => ?_)
      fun db' hdb' => ?_
    · rintro (hid | ⟨hentity, hsequence⟩)
      · exact hfresh hreason event List.mem_cons_self held hheld hid
      · exact absurd hsequence (Nat.lt_succ_of_le (hsequences held hheld hentity)).ne
    · cases Database.insertEvent_ok hdb'
      refine ih hreceipt hrest ?_ fun hreason other hother => ?_
      · exact List.forall_mem_cons.mpr ⟨fun _ => le_rfl, fun row hrow hentity =>
          (hsequences row hrow hentity).trans (Nat.le_succ _)⟩
      · refine List.forall_mem_cons.mpr ⟨fun hid => ?_, hfresh hreason other (.tail _ hother)⟩
        exact hfirst (List.mem_map.mpr ⟨other, hother, hid.symm⟩)

theorem fails_insertIntents {intents : List OutboxInput} {position : Nat}
    (hreceipt : db.hasReceipt request.entity request.command)
    (hids : (intents.map OutboxInput.id).Nodup) (hbound : position + intents.length ≤ 64)
    (hpositions : ∀ row ∈ db.commandOutbox, row.entityId = request.entity →
      row.commandId = request.command → row.position < position)
    (hlinks : ∀ row ∈ db.commandOutbox, ∃ held ∈ db.outbox, held.intentId = row.intentId)
    (hfresh : ¬ reason → ∀ intent ∈ intents, ∀ row ∈ db.outbox, row.intentId ≠ intent.id) :
    Fails (Expected reason) (Database.insertIntents request intents position db) := by
  induction intents generalizing position db with
  | nil => exact fails_ok
  | cons intent rest ih =>
    obtain ⟨hfirst, hrest⟩ := List.nodup_cons.mp hids
    rw [List.length_cons] at hbound
    have hposition : position < 64 := by omega
    refine fails_bind fails_toI64 fun _ _ => fails_bind (fails_insertOutbox (Nat.zero_le _)
      hreceipt fun hreason => hfresh hreason intent List.mem_cons_self) fun db₁ hdb₁ => ?_
    obtain ⟨-, rfl⟩ := Database.insertOutbox_ok hdb₁
    refine fails_bind (fails_insertCommandOutbox hposition hreceipt ⟨_, List.mem_cons_self, rfl⟩
      fun hreason held hheld => ?_) fun db₂ hdb₂ => ?_
    · rintro (hid | ⟨hentity, hcommand, hsame⟩)
      · obtain ⟨row, hrow, hlinked⟩ := hlinks held hheld
        exact hfresh hreason intent List.mem_cons_self row hrow (hlinked.trans hid)
      · exact absurd hsame (hpositions held hheld hentity hcommand).ne
    · cases Database.insertCommandOutbox_ok hdb₂
      refine ih hreceipt hrest (by omega) ?_ ?_ fun hreason other hother => ?_
      · exact List.forall_mem_cons.mpr ⟨fun _ _ => Nat.lt_succ_self _,
          fun row hrow hentity hcommand =>
            (hpositions row hrow hentity hcommand).trans (Nat.lt_succ_self _)⟩
      · refine List.forall_mem_cons.mpr ⟨⟨_, List.mem_cons_self, rfl⟩, fun row hrow => ?_⟩
        obtain ⟨held, hheld, hlinked⟩ := hlinks row hrow
        exact ⟨held, List.mem_cons_of_mem _ hheld, hlinked⟩
      · refine List.forall_mem_cons.mpr ⟨fun hid => ?_, hfresh hreason other (.tail _ hother)⟩
        exact hfirst (List.mem_map.mpr ⟨other, hother, hid.symm⟩)

end Walk

section Calls

variable {s : Store} {reason : Prop} {request : CommitRequest}

theorem applied_receipt_check {first : Option Nat} {last revision : Nat}
    (hvalid : ValidRequest request) (hfirst : Database.firstAfter last request.events = .ok first) :
    trnmCommandReceipts.check ⟨request.entity, request.command, request.fingerprint, revision + 1,
      request.nextState, first, last + request.events.length, request.events.length,
      request.committedAtMs⟩ = true := by
  cases firstAfter_ok hfirst
  refine decide_eq_true ⟨Nat.succ_pos _, hvalid.events, ?_⟩
  cases hevents : request.events with
  | nil => exact .inl ⟨rfl, rfl⟩
  | cons event rest =>
    refine .inr ⟨Nat.succ_pos _, last + 1, rfl, Nat.succ_pos _, ?_⟩
    dsimp only [List.length_cons]
    omega

theorem fails_applyCommand (hs : Reachable database s) (hvalid : ValidRequest request)
    (hnone : s.db.receipt? request.entity request.command = none)
    (hfresh : ¬ reason → ¬ s.db.Reuses request) :
    Fails (Expected reason) (s.db.applyCommand request) := by
  have hlogged := reachable_logged hs
  refine fails_found (by decide) fun head hhead =>
    fails_check (by decide) fun _ _ =>
    fails_check (by decide) fun _ _ =>
    fails_found (by decide) fun next hnext =>
    fails_bind ?_ fun first hfirst =>
    fails_found (by decide) fun last hlast =>
    fails_bind fails_toI64 fun _ _ => fails_bind fails_toI64 fun _ _ =>
    fails_bind fails_toI64 fun _ _ => fails_bind fails_toI64 fun _ _ =>
    fails_bind fails_toI64 fun _ _ => fails_bind ?_ fun updated hupdated =>
    fails_check (by decide) fun _ _ =>
    fails_bind ?_ fun _ _ => fails_bind ?_ fun db₂ hdb₂ => fails_bind ?_ fun db₃ hdb₃ =>
    fails_bind ?_ fun _ _ => fails_ok
  · cases request.events with
    | nil => exact fails_ok
    | cons => exact fails_map (fails_fetch fun _ => expected_plain (by decide))
  · refine fails_updateHeads fun row _ hp => ?_
    simp only [Bool.and_eq_true, decide_eq_true_eq] at hp
    exact hp.2 ▸ hvalid.generation
  · cases first with
    | none => exact fails_ok
    | some value => exact fails_map fails_toI64
  all_goals
    obtain ⟨db₁, count⟩ := updated
    obtain ⟨-, rfl, -⟩ := Database.updateHeads_ok.mp hupdated
    obtain ⟨-, rfl⟩ := checkedAdd_some.mp (fetch_ok.mp hnext)
    obtain ⟨-, rfl⟩ := checkedAdd_some.mp (fetch_ok.mp hlast)
    have hhead' := fetch_ok.mp hhead
    have hentity := (Database.head?_some hhead').2
  · refine fails_insertReceipt (applied_receipt_check hvalid hfirst) ?_ ?_
    · rintro held hheld ⟨hsame, hcommand | hrevision⟩
      · exact receipt?_none.mp hnone held hheld ⟨hsame, hcommand⟩
      · have hsame' : held.entityId = request.entity := hsame
        have hle := (receipt_within hs (hsame' ▸ hhead') hheld).2
        exact absurd hrevision (Nat.lt_succ_of_le hle).ne
    · refine ⟨_, mem_assign.mpr ⟨head, (Database.head?_some hhead').1, rfl⟩, ?_⟩
      split <;> exact hentity
  · cases Database.insertReceipt_ok hdb₂
    refine fails_insertEvents ⟨_, List.mem_cons_self, rfl, rfl⟩ hvalid.eventIds
      (fun row hrow hsame => (event_within hs (hsame ▸ hhead') hrow).2)
      fun hreason event hevent row hrow hid => ?_
    exact hfresh hreason (.inl ⟨event, hevent, row, hrow, hid⟩)
  · cases Database.insertReceipt_ok hdb₂
    cases insertEvents_ok hdb₃
    refine fails_insertIntents ⟨_, List.mem_cons_self, rfl, rfl⟩ hvalid.intentIds
      ((Nat.zero_add _).trans_le hvalid.outbox) (fun row hrow hsame hcommand => ?_)
      (fun row hrow => hlogged.command_outbox_linked hrow)
      fun hreason intent hintent row hrow hid => ?_
    · obtain ⟨held, hheld, hentity', hcommand'⟩ := hlogged.command_outbox_about hrow
      exact absurd ⟨hentity'.trans hsame, hcommand'.trans hcommand⟩
        (receipt?_none.mp hnone held hheld)
    · exact hfresh hreason (.inr ⟨intent, hintent, row, hrow, hid⟩)

theorem fails_commitCommand (hs : Reachable database s)
    (hfresh : ¬ reason → ¬ s.db.Reuses request) :
    Fails (Expected reason) (s.db.commitCommand request) := by
  refine fails_bind fails_validateRequest fun _ hvalid => ?_
  unfold Database.loadReceipt
  cases hrow : s.db.receipt? request.entity request.command with
  | some row =>
    exact fails_check (by decide) fun _ _ => fails_ok
  | none =>
    exact fails_bind (fails_applyCommand hs (validateRequest_ok hvalid) hrow hfresh)
      fun _ _ => fails_ok

variable {entity : EntityId} {generation : Nat}

theorem fails_bootstrapEntity {updatedAtMs : Nat} {state : Digest32} :
    Fails (Expected reason) (s.db.bootstrapEntity entity generation state updatedAtMs) := by
  refine fails_check (by decide) fun _ hvalid =>
    fails_bind fails_toI64 fun _ _ => fails_bind fails_toI64 fun _ _ =>
    fails_check (by decide) fun _ hnone =>
    fails_bind (fails_insertHead ?_ fun held hheld hsame => ?_) fun _ _ =>
    fails_bind (fails_check (by decide) fun _ _ => fails_ok)
      fun _ _ => fails_found (by decide) fun _ _ => fails_ok
  · exact Nat.pos_of_ne_zero fun hzero => require_ok.mp hvalid (.inr (.inl hzero))
  · exact Database.head?_none.mp (require_ok.mp hnone) (List.mem_map.mpr ⟨held, hheld, hsame⟩)

variable {owner : NodeId} {nowMs expiresAtMs : Nat}

theorem fails_validateLeaseRequest : Fails (Expected reason)
      (validateLeaseRequest entity owner generation nowMs expiresAtMs) :=
  fails_check (by decide) fun _ _ =>
    fails_bind fails_toI64 fun _ _ => fails_bind fails_toI64 fun _ _ =>
    fails_bind fails_toI64 fun _ _ => fails_ok

theorem validateLeaseRequest_ok
    (h : validateLeaseRequest entity owner generation nowMs expiresAtMs = .ok ()) :
    0 < generation := by
  simp only [validateLeaseRequest, bind_ok, require_ok] at h
  obtain ⟨-, hvalid, -⟩ := h
  exact Nat.pos_of_ne_zero fun hzero => hvalid (.inr (.inr (.inl hzero)))

theorem lease_generation (hs : Reachable database s) {head : HeadRow} {row : LeaseRow}
    (hhead : s.db.head? entity = some head) (hrow : s.db.lease? entity = some row) :
    row.authorityGeneration = head.authorityGeneration := by
  obtain ⟨found, hfound, hsame⟩ := (history_governed hs entity).headed row hrow
  exact Option.mem_unique hhead hfound ▸ hsame.symm

theorem fails_acquireAuthorityLease (hs : Reachable database s) : Fails (Expected reason)
      (s.db.acquireAuthorityLease entity owner generation nowMs expiresAtMs) := by
  refine fails_bind fails_validateLeaseRequest fun _ hvalid => fails_bind fails_toI64 fun _ _ =>
    fails_bind fails_toI64 fun _ _ => fails_bind fails_toI64 fun _ _ =>
    fails_found (by decide) fun head hhead =>
    fails_check (by decide) fun _ hsame =>
    fails_check (by decide) fun _ _ => ?_
  have hhead' := fetch_ok.mp hhead
  have hgeneration := require_ok.mp hsame
  cases hlease : s.db.lease? entity with
  | none =>
    refine fails_bind (fails_insertLease ⟨Nat.one_pos, validateLeaseRequest_ok hvalid⟩
      (fun held hheld hentity => ?_)
      ⟨head, (Database.head?_some hhead').1, (Database.head?_some hhead').2⟩) fun _ _ => fails_ok
    exact Database.lease?_none.mp hlease (List.mem_map.mpr ⟨held, hheld, hentity⟩)
  | some previous =>
    have htogether : previous.authorityGeneration = generation :=
      (lease_generation hs hhead' hlease).trans hgeneration
    refine fails_bind (fails_require fun hne => absurd htogether hne) fun _ _ =>
      fails_check (by decide) fun _ _ =>
      fails_check (by decide) fun _ _ =>
      fails_found (by decide) fun nextLease hnextLease =>
      fails_found (by decide) fun next hnext =>
      fails_bind fails_toI64 fun _ _ => fails_bind fails_toI64 fun _ _ =>
      fails_bind (fails_updateHeads fun _ _ _ => ?_) fun _ _ =>
      fails_check (by decide) fun _ _ =>
      fails_bind fails_toI64 fun _ _ =>
      fails_bind (fails_updateLeases fun _ _ _ => ?_) fun _ _ =>
      fails_check (by decide) fun _ _ => fails_ok
    all_goals
      obtain ⟨-, rfl⟩ := checkedAdd_some.mp (fetch_ok.mp hnext)
      obtain ⟨-, rfl⟩ := checkedAdd_some.mp (fetch_ok.mp hnextLease)
    · exact Nat.succ_pos _
    · exact ⟨Nat.succ_pos _, Nat.succ_pos _⟩

variable {lease : AuthorityLease}

theorem fails_renewAuthorityLease (hs : Reachable database s) :
    Fails (Expected reason) (s.db.renewAuthorityLease lease nowMs expiresAtMs) := by
  refine fails_bind fails_validateLeaseRequest fun _ _ =>
    fails_check (by decide) fun _ _ =>
    fails_bind fails_toI64 fun _ _ => fails_bind fails_toI64 fun _ _ =>
    fails_bind fails_toI64 fun _ _ => fails_bind fails_toI64 fun _ _ =>
    fails_found (by decide) fun current hcurrent =>
    fails_check (by decide) fun _ hnamed =>
    fails_check (by decide) fun _ _ =>
    fails_check (by decide) fun _ _ =>
    fails_found (by decide) fun head hhead =>
    fails_bind (fails_require fun hne => ?_) fun _ _ =>
    fails_bind (fails_updateLeases fun row hrow _ => ?_) fun _ _ =>
    fails_check (by decide) fun _ _ => fails_ok
  · obtain ⟨row, hrow, rfl⟩ := Option.map_eq_some_iff.mp (fetch_ok.mp hcurrent)
    have htogether := lease_generation hs (fetch_ok.mp hhead) hrow
    exact absurd (htogether.symm.trans (require_ok.mp hnamed).2.2) hne
  · exact (reachable_sound hs).leaseGenerations row hrow

theorem fails_releaseAuthorityLease (hs : Reachable database s) {releasedAtMs : Nat} :
    Fails (Expected reason) (s.db.releaseAuthorityLease lease releasedAtMs) :=
  fails_check (by decide) fun _ _ =>
    fails_bind fails_toI64 fun _ _ => fails_bind fails_toI64 fun _ _ =>
    fails_bind fails_toI64 fun _ _ =>
    fails_bind (fails_updateLeases fun row hrow _ =>
      (reachable_sound hs).leaseGenerations row hrow) fun _ _ =>
    fails_check (by decide) fun _ _ => fails_ok

end Calls

end PersistencePg
