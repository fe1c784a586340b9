import TrillionniumGame.PersistencePg.DatabaseErrors
import TrillionniumGame.PersistencePg.OutboxClaims

namespace PersistencePg
open Checks Persistence Runs Tables

def OutboxRow.settle (state : OutboxRowState) (updatedAtMs : Nat) (row : OutboxRow) : OutboxRow :=
  { row with
    state
    updatedAtMs }

inductive OutboxRow.Moves (row : OutboxRow) : DatabaseCall → OutboxRow → Prop
  | same {call : DatabaseCall} : row.Moves call row
  | reaped {owner : NodeId} {nowMs duration maxAttempts limit : Nat}
      (exhausted : row.exhausted nowMs maxAttempts = true) :
      row.Moves (.claimOutboxBatch owner nowMs duration maxAttempts limit) (row.reap nowMs)
  | claimed {owner : NodeId} {nowMs duration maxAttempts limit : Nat}
      (claimable : row.claimable nowMs maxAttempts = true) :
      row.Moves (.claimOutboxBatch owner nowMs duration maxAttempts limit)
        (row.claim owner nowMs (nowMs + duration))
  | completed {lease : OutboxLease} {receipt : Digest32} {completedAtMs : Nat}
      (held : lease.fences row = true) :
      row.Moves (.completeOutbox lease receipt completedAtMs)
        (row.settle (.applied receipt) completedAtMs)
  | retried {lease : OutboxLease} {nowMs next maxAttempts : Nat} {reason : Digest32}
      (held : lease.fences row = true) (left : row.attempt < maxAttempts) :
      row.Moves (.retryOrDeadLetterOutbox lease nowMs next maxAttempts reason)
        { row.settle .pending nowMs with availableAtMs := next }
  | deadLettered {lease : OutboxLease} {nowMs next maxAttempts : Nat} {reason : Digest32}
      (held : lease.fences row = true) (spent : maxAttempts ≤ row.attempt) :
      row.Moves (.retryOrDeadLetterOutbox lease nowMs next maxAttempts reason)
        (row.settle (.deadLetter reason) nowMs)

section Settled

variable {table table' : List OutboxRow} {lease : OutboxLease} {f : OutboxRow → OutboxRow}
  {row row' : OutboxRow} {call : DatabaseCall}

theorem fences_id (h : lease.fences row = true) : row.intentId = lease.id := by
  simp only [OutboxLease.fences, Bool.and_eq_true, decide_eq_true_eq] at h
  exact h.1.1

structure Settles (lease : OutboxLease) (f : OutboxRow → OutboxRow)
    (table table' : List OutboxRow) : Prop where
  held : ∃ row ∈ table, lease.fences row = true
  written : table' = assign lease.fences f table

theorem fencedUpdate_settles {reason : String}
    (h : fencedUpdate lease reason f table = .ok table') : Settles lease f table table' := by
  simp only [fencedUpdate, bind_ok, require_ok, Prod.exists, updateOutbox_ok] at h
  obtain ⟨_, _, ⟨-, rfl, hcount⟩, -, hone, h⟩ := h
  cases h
  exact ⟨List.countP_pos_iff.mp (hcount.trans hone ▸ Nat.one_pos), rfl⟩

theorem Settles.counted (h : Settles lease f table table') (htable : CountedTable table)
    (hid : ∀ row, (f row).intentId = row.intentId)
    (hcounted : ∀ row, row.Counted → (f row).Counted) : CountedTable table' := by
  rw [h.written]
  exact htable.assign hid fun row _ _ hrow => hcounted row hrow

theorem Settles.moves (h : Settles lease f table table')
    (hmoves : ∀ row ∈ table, lease.fences row = true → row.Moves call (f row)) :
    List.Forall₂ (fun row row' => row.Moves call row') table table' := by
  rw [h.written]
  exact forall₂_assign (fun _ => .same) hmoves

theorem completeOutbox_settles {receipt : Digest32} {completedAtMs : Nat}
    (h : completeOutbox lease receipt completedAtMs table = .ok table') :
    Settles lease (.settle (.applied receipt) completedAtMs) table table' := by
  simp only [completeOutbox, bind_ok] at h
  obtain ⟨-, -, -, -, -, -, -, -, h⟩ := h
  exact fencedUpdate_settles h

theorem retryOrDeadLetterOutbox_settles {nowMs next maxAttempts : Nat} {reason : Digest32}
    {outcome : OutboxRetryOutcome} (htable : CountedTable table)
    (h : retryOrDeadLetterOutbox lease nowMs next maxAttempts reason table =
      .ok (outcome, table')) :
    ∃ f, Settles lease f table table' ∧ (∀ row, (f row).intentId = row.intentId) ∧
      (∀ row, row.Counted → (f row).Counted) ∧
      ∀ row ∈ table, lease.fences row = true →
        row.Moves (.retryOrDeadLetterOutbox lease nowMs next maxAttempts reason) (f row) := by
  simp only [retryOrDeadLetterOutbox, loadFencedAttempt, bind_ok, fetch_ok] at h
  obtain ⟨-, -, -, -, -, -, -, -, -, -, attempt, ⟨found, hfound, -, -, hattempt⟩, h⟩ := h
  cases hattempt
  have hsame : ∀ row ∈ table, lease.fences row = true → row = found := fun row hrow hheld =>
    same_row htable.unique (List.mem_of_find?_eq_some hfound) hrow
      ((fences_id hheld).trans (fences_id (List.find?_some hfound)).symm)
  unfold settleRetry at h
  split at h
  · next hspent =>
    obtain ⟨table₁, hupdate, h⟩ := bind_ok.mp h
    obtain ⟨-, rfl⟩ := ok_inj h
    refine ⟨_, fencedUpdate_settles hupdate, fun _ => rfl, fun _ h => ⟨h.attempt, h.bounded⟩,
      fun row hrow hheld => ?_⟩
    exact .deadLettered hheld (hsame row hrow hheld ▸ hspent)
  · next hleft =>
    obtain ⟨table₁, hupdate, h⟩ := bind_ok.mp h
    obtain ⟨-, rfl⟩ := ok_inj h
    refine ⟨_, fencedUpdate_settles hupdate, fun _ => rfl, fun _ h => ⟨h.attempt, h.bounded⟩,
      fun row hrow hheld => ?_⟩
    exact .retried hheld (hsame row hrow hheld ▸ Nat.lt_of_not_le hleft)

end Settled

section Steps

variable {s : Store} {db : Database} {call : DatabaseCall} {reply : DatabaseReply}

structure OutboxRow.Untouched (row : OutboxRow) : Prop where
  attempt : row.attempt = 0
  generation : row.leaseGeneration = 0
  state : row.state = .pending

structure OutboxMoved (call : DatabaseCall) (table table' : List OutboxRow) : Prop where
  parts : ∃ added moved, table' = added ++ moved ∧
    List.Forall₂ (fun row row' => row.Moves call row') table moved ∧
      ∀ row ∈ added, row.Untouched
  counted : CountedTable table'

theorem OutboxMoved.same {table : List OutboxRow} (htable : CountedTable table) :
    OutboxMoved call table table :=
  ⟨⟨[], table, rfl, List.forall₂_same.mpr fun _ _ => .same, nofun⟩, htable⟩

theorem OutboxMoved.of_moves {table table' : List OutboxRow}
    (hmoves : List.Forall₂ (fun row row' => row.Moves call row') table table')
    (hcounted : CountedTable table') : OutboxMoved call table table' :=
  ⟨⟨[], table', rfl, hmoves, nofun⟩, hcounted⟩

theorem performed_outbox (hlogged : s.Logged) (htable : CountedTable s.db.outbox)
    (h : Performed s.db call reply db) : OutboxMoved call s.db.outbox db.outbox := by
  cases h with
  | bootstrapped | repeated | leased | takenOver | renewed | released => exact .same htable
  | @applied request head hfresh happlies =>
    have huntouched : ∀ row ∈ (outboxRows request request.outbox).reverse,
        row.attempt = 0 ∧ row.leaseGeneration = 0 ∧ row.state = .pending := fun row hrow => by
      obtain ⟨intent, -, rfl⟩ := List.mem_map.mp (List.mem_reverse.mp hrow)
      exact ⟨rfl, rfl, rfl⟩
    refine ⟨⟨_, s.db.outbox, rfl, List.forall₂_same.mpr fun _ _ => .same, fun row hrow => ?_⟩,
      (hlogged.applied hfresh happlies).intents, fun row hrow => ?_⟩
    · obtain ⟨hattempt, hgeneration, hstate⟩ := huntouched row hrow
      exact ⟨hattempt, hgeneration, hstate⟩
    · rcases List.mem_append.mp hrow with hnew | hold
      · obtain ⟨hattempt, hgeneration, -⟩ := huntouched row hnew
        exact ⟨hattempt.trans hgeneration.symm, hattempt ▸ Nat.zero_le _⟩
      · exact htable.counted row hold
  | claimed hclaims =>
    have hbatch := claimOutboxBatch_batch htable hclaims
    refine .of_moves (hbatch.moves.imp fun row row' hmoves => ?_) hbatch.counted
    cases hmoves with
    | same => exact .same
    | reaped hexhausted => exact .reaped hexhausted
    | claimed hclaimable => exact .claimed hclaimable
  | completed hcompletes =>
    have hsettles := completeOutbox_settles hcompletes
    exact .of_moves (hsettles.moves fun row _ hheld => .completed hheld)
      (hsettles.counted htable (fun _ => rfl) fun _ h => ⟨h.attempt, h.bounded⟩)
  | retried hretries =>
    obtain ⟨f, hsettles, hid, hcounted, hmoves⟩ :=
      retryOrDeadLetterOutbox_settles htable hretries
    exact .of_moves (hsettles.moves hmoves) (hsettles.counted htable hid hcounted)

theorem reachable_counted (hs : Reachable database s) : CountedTable s.db.outbox := by
  have hboth : s.Logged ∧ CountedTable s.db.outbox :=
    invariant_of_performs (I := fun s => s.Logged ∧ CountedTable s.db.outbox)
      ⟨⟨rfl, rfl, rfl, rfl, .nil, List.nodup_nil⟩, List.nodup_nil, nofun⟩
      (fun _ _ _ _ hI h =>
        ⟨hI.1.performed h, (performed_outbox hI.1 hI.2 h).counted⟩) hs
  exact hboth.2

end Steps

section Errors

variable {reason : Prop} {table : List OutboxRow} {lease : OutboxLease} {nowMs maxAttempts : Nat}

theorem fails_claimOutboxBatch {owner : NodeId} {duration limit : Nat}
    (htable : CountedTable table) : Fails (Expected reason)
      (claimOutboxBatch owner nowMs duration maxAttempts limit table) := by
  refine fails_check (by decide) fun _ hvalid =>
    fails_found (by decide) fun expires hexpires =>
    fails_bind fails_toI64 fun _ _ => fails_bind fails_toI64 fun _ _ => ?_
  obtain ⟨hpositive, hbounded, hduration⟩ := validateClaim_ok nowMs hvalid
  obtain ⟨-, rfl⟩ := checkedAdd_some.mp (fetch_ok.mp hexpires)
  obtain ⟨reaped, table₁, hreap, hcounted₁, -⟩ :=
    reapExpiredExhausted_reaps nowMs limit htable hpositive
  obtain ⟨leases, table₂, hclaim, -⟩ := claimRows_claims owner limit hcounted₁ hbounded hduration
  rw [hreap, ok_bind]
  dsimp only
  rw [hclaim]
  exact fails_ok

theorem fails_fencedUpdate {message : String} {f : OutboxRow → OutboxRow}
    (htable : CountedTable table) (hf : ∀ row, (f row).attempt = row.attempt) :
    Fails (Expected reason) (fencedUpdate lease message f table) := by
  refine fails_bind (fails_update fun row hrow _ => decide_eq_true ?_) fun _ _ =>
    fails_bind (fails_require fun _ => expected_plain ⟨nofun, ?_⟩) fun _ _ => fails_ok
  · rw [hf row]
    exact (htable.counted row hrow).bounded
  · simp [violations, stale, classifyViolation]

theorem fails_completeOutbox {receipt : Digest32} {completedAtMs : Nat}
    (htable : CountedTable table) :
    Fails (Expected reason) (completeOutbox lease receipt completedAtMs table) :=
  fails_check (by decide) fun _ _ =>
    fails_check (by decide) fun _ _ =>
    fails_bind fails_toI64 fun _ _ => fails_bind fails_toI64 fun _ _ =>
    fails_fencedUpdate htable fun _ => rfl

variable {next : Nat} {dead : Digest32}

theorem fails_settleRetry {attempt : Nat} (htable : CountedTable table) : Fails (Expected reason)
      (settleRetry lease nowMs next maxAttempts attempt dead table) := by
  unfold settleRetry
  split
  · exact fails_bind (fails_fencedUpdate htable fun _ => rfl) fun _ _ => fails_ok
  · exact fails_bind (fails_fencedUpdate htable fun _ => rfl) fun _ _ => fails_ok

theorem fails_retryOrDeadLetterOutbox (htable : CountedTable table) : Fails (Expected reason)
      (retryOrDeadLetterOutbox lease nowMs next maxAttempts dead table) :=
  fails_check (by decide) fun _ _ =>
    fails_check (by decide) fun _ _ =>
    fails_bind fails_toI64 fun _ _ => fails_bind fails_toI64 fun _ _ =>
    fails_bind fails_toI64 fun _ _ =>
    fails_bind (fails_found (by decide) fun _ _ =>
      fails_check (by decide) fun _ _ => fails_ok)
      fun _ _ => fails_settleRetry htable

def DatabaseCall.Reuses (db : Database) : DatabaseCall → Prop
  | .commitCommand request => db.Reuses request
  | _ => False

theorem perform_fails {s : Store} (hs : Reachable database s) (call : DatabaseCall) :
    Fails (Expected (call.Reuses s.db)) (s.db.perform call) := by
  have htable := reachable_counted hs
  cases call with
  | bootstrapEntity => exact fails_bind fails_bootstrapEntity fun _ _ => fails_ok
  | commitCommand => exact fails_bind (fails_commitCommand hs id) fun _ _ => fails_ok
  | acquireAuthorityLease => exact fails_bind (fails_acquireAuthorityLease hs) fun _ _ => fails_ok
  | renewAuthorityLease => exact fails_bind (fails_renewAuthorityLease hs) fun _ _ => fails_ok
  | releaseAuthorityLease => exact fails_bind (fails_releaseAuthorityLease hs) fun _ _ => fails_ok
  | claimOutboxBatch => exact fails_bind (fails_claimOutboxBatch htable) fun _ _ => fails_ok
  | completeOutbox => exact fails_bind (fails_completeOutbox htable) fun _ _ => fails_ok
  | retryOrDeadLetterOutbox =>
    exact fails_bind (fails_retryOrDeadLetterOutbox htable) fun _ _ => fails_ok

end Errors

section Generations

variable {s t u : Store} {id : IntentId} {generation : Nat} {row row' : OutboxRow}
  {call : DatabaseCall}

def OutboxRow.LeasedAt (row : OutboxRow) (generation : Nat) : Prop :=
  row.state.value = 1 ∧ row.leaseGeneration = generation

structure OutboxRow.Past (row : OutboxRow) (generation : Nat) : Prop where
  begun : generation ≤ row.leaseGeneration
  ended : ¬ row.LeasedAt generation

theorem fences_leased {lease : OutboxLease} (h : lease.fences row = true) :
    row.state = .leased lease.owner ∧ row.leaseGeneration = lease.leaseGeneration := by
  simp only [OutboxLease.fences, Bool.and_eq_true, decide_eq_true_eq] at h
  exact ⟨h.1.2, h.2⟩

theorem OutboxRow.Moves.past (h : row.Moves call row') (hpast : row.Past generation) :
    row'.Past generation := by
  obtain ⟨hbegun, hended⟩ := hpast
  cases h with
  | same => exact ⟨hbegun, hended⟩
  | reaped | completed | retried | deadLettered => exact ⟨hbegun, fun h => nomatch h.1⟩
  | claimed => exact ⟨hbegun.trans (Nat.le_succ _), fun h => absurd h.2 (by
      change row.leaseGeneration + 1 ≠ generation
      omega)⟩

theorem OutboxRow.Moves.generation_le (h : row.Moves call row') :
    row.leaseGeneration ≤ row'.leaseGeneration := by
  cases h with
  | same | reaped | completed | retried | deadLettered => exact le_rfl
  | claimed => exact Nat.le_succ _

theorem OutboxRow.Moves.intentId (h : row.Moves call row') : row'.intentId = row.intentId := by
  cases h <;> rfl

theorem OutboxRow.Moves.final (h : row.Moves call row') (hfinal : 2 ≤ row.state.value) :
    row' = row := by
  have hunheld : ∀ lease : OutboxLease, ¬ lease.fences row = true := fun lease hheld => by
    rw [(fences_leased hheld).1] at hfinal
    exact Nat.not_succ_le_self 1 hfinal
  cases h with
  | same => rfl
  | reaped hexhausted =>
    rw [(exhausted_iff.mp hexhausted).1] at hfinal
    exact (Nat.not_succ_le_self 1 hfinal).elim
  | claimed hclaimable =>
    have hstate := (claimable_iff.mp hclaimable).1
    simp only [List.mem_cons, List.not_mem_nil, or_false] at hstate
    omega
  | completed hheld | retried hheld | deadLettered hheld => exact absurd hheld (hunheld _)

variable {e : Except DomainError DatabaseReply}

theorem step_moves (hs : Reachable database s) (hstep : StoreStep s (call, e) t) :
    OutboxMoved call s.db.outbox t.db.outbox := by
  have hlogged := reachable_logged hs
  have htable := reachable_counted hs
  cases hstep with
  | answered hperforms | lost _ hperforms =>
    exact performed_outbox hlogged htable (perform_ok hperforms)
  | refused | aborted => exact .same htable

theorem OutboxMoved.of_mem {table table' : List OutboxRow} (h : OutboxMoved call table table')
    (hrow : row ∈ table) : ∃ row' ∈ table', row.Moves call row' := by
  obtain ⟨added, moved, rfl, hmoves, -⟩ := h.parts
  obtain ⟨row', hrow', hmove⟩ := forall₂_target hmoves hrow
  exact ⟨row', List.mem_append_right _ hrow', hmove⟩

def Store.Finds (s : Store) (id : IntentId) (Q : OutboxRow → Prop) : Prop :=
  ∃ row ∈ s.db.outbox, row.intentId = id ∧ Q row

theorem Store.Finds.step {e : Except DomainError DatabaseReply} {Q Q' : OutboxRow → Prop}
    (hfinds : s.Finds id Q) (hs : Reachable database s) (hstep : StoreStep s (call, e) t)
    (hQ : ∀ row row', row.Moves call row' → Q row → Q' row') : t.Finds id Q' := by
  obtain ⟨row, hrow, hid, hrowQ⟩ := hfinds
  obtain ⟨row', hrow', hmoves⟩ := (step_moves hs hstep).of_mem hrow
  exact ⟨row', hrow', hmoves.intentId.trans hid, hQ row row' hmoves hrowQ⟩

variable {Q : OutboxRow → Prop} {events : List (DatabaseCall × Except DomainError DatabaseReply)}

theorem Store.Finds.run (hfinds : s.Finds id Q) (hs : Reachable database s)
    (hrun : Run database s events t) (hQ : ∀ call row row', row.Moves call row' → Q row → Q row') :
    t.Finds id Q := by
  have hboth : Reachable database t ∧ t.Finds id Q := by
    refine hrun.invariant (I := fun s => Reachable database s ∧ s.Finds id Q) ?_ ⟨hs, hfinds⟩
    rintro s ⟨call, e⟩ t ⟨hs, hfinds⟩ hstep
    exact ⟨hs.run (.single hstep), hfinds.step hs hstep (hQ call)⟩
  exact hboth.2

theorem Store.Finds.unique {Q' : OutboxRow → Prop} (hs : Reachable database s) (h : s.Finds id Q)
    (h' : s.Finds id Q') : ∃ row, Q row ∧ Q' row := by
  obtain ⟨row, hrow, hid, hQ⟩ := h
  obtain ⟨row', hrow', hid', hQ'⟩ := h'
  obtain rfl := same_row (reachable_counted hs).unique hrow hrow' (hid'.trans hid.symm)
  exact ⟨row', hQ, hQ'⟩

structure Concludes (id : IntentId) (generation : Nat) (s t : Store) : Prop where
  before : s.Finds id fun row => row.LeasedAt generation
  after : t.Finds id fun row => ¬ row.LeasedAt generation

theorem Concludes.past (hconcludes : Concludes id generation s t) (hs : Reachable database s)
    (hstep : StoreStep s (call, e) t) : t.Finds id fun row => row.Past generation := by
  have hbegun : t.Finds id fun row => generation ≤ row.leaseGeneration :=
    hconcludes.before.step hs hstep fun row row' hmoves hleased =>
      hleased.2.ge.trans hmoves.generation_le
  obtain ⟨row, hrow, hid, hnot⟩ := hconcludes.after
  obtain ⟨row', hrow', hid', hle⟩ := hbegun
  obtain rfl := same_row (reachable_counted (hs.run (.single hstep))).unique hrow hrow'
    (hid'.trans hid.symm)
  exact ⟨row', hrow', hid', hle, hnot⟩

theorem ends_once {v : Store} (hs : Reachable database s) (hstep : StoreStep s (call, e) t)
    (hconcludes : Concludes id generation s t) (hrun : Run database t events u) :
    ¬ Concludes id generation u v := by
  intro hagain
  have ht := hs.run (.single hstep)
  have hpast : u.Finds id fun row => row.Past generation :=
    (hconcludes.past hs hstep).run ht hrun fun call row row' hmoves => hmoves.past
  obtain ⟨row, hrow, hleased⟩ := hpast.unique (ht.run hrun) hagain.before
  exact hrow.ended hleased

end Generations

section Uniform

variable {maxAttempts : Nat} {s : Store}

def DatabaseCall.Uses (maxAttempts : Nat) : DatabaseCall → Prop
  | .claimOutboxBatch _ _ _ used _ => used = maxAttempts
  | .retryOrDeadLetterOutbox _ _ _ used _ => used = maxAttempts
  | _ => True

def uniform (maxAttempts : Nat) :
    System Store (DatabaseCall × Except DomainError DatabaseReply) where
  init s := s = .initial
  step s event t := event.1.Uses maxAttempts ∧ StoreStep s event t

theorem reachable_of_uniform (hs : Reachable (uniform maxAttempts) s) : Reachable database s := by
  refine hs.invariant (fun s hinit => .start hinit) fun s event t hreach hstep => ?_
  exact hreach.run (.single hstep.2)

theorem uniform_pending (hmax : 0 < maxAttempts) (hs : Reachable (uniform maxAttempts) s) :
    ∀ row ∈ s.db.outbox, row.state.value = 0 → row.attempt < maxAttempts := by
  have hboth : Reachable database s ∧
      ∀ row ∈ s.db.outbox, row.state.value = 0 → row.attempt < maxAttempts := by
    refine hs.invariant (I := fun s => Reachable database s ∧
      ∀ row ∈ s.db.outbox, row.state.value = 0 → row.attempt < maxAttempts) ?_ ?_
    · rintro s rfl
      exact ⟨.start rfl, nofun⟩
    · rintro s ⟨call, e⟩ t ⟨hreach, hpending⟩ ⟨huses, hstep⟩
      refine ⟨hreach.run (.single hstep), fun row' hrow' hstate => ?_⟩
      obtain ⟨added, moved, htable, hmoves, huntouched⟩ := (step_moves hreach hstep).parts
      rw [htable] at hrow'
      rcases List.mem_append.mp hrow' with hadded | hmoved
      · rw [(huntouched row' hadded).attempt]
        exact hmax
      · obtain ⟨row, hrow, hmove⟩ := forall₂_source hmoves hmoved
        cases hmove with
        | same => exact hpending row' hrow hstate
        | reaped | claimed | completed | deadLettered => cases hstate
        | retried _ hleft =>
          rw [← show _ = maxAttempts from huses]
          exact hleft
  exact hboth.2

theorem uniform_claim (hs : Reachable (uniform maxAttempts) s) {owner : NodeId}
    {nowMs duration limit : Nat}
    (hvalid : validateClaim owner duration maxAttempts limit = .ok ())
    (hexpires : nowMs + duration < 2 ^ 63)
    (hlimit : s.db.outbox.countP (OutboxRow.due nowMs) < limit) :
    ∃ batch db, s.db.perform (.claimOutboxBatch owner nowMs duration maxAttempts limit) =
      .ok (.batch batch, db) ∧ ∀ row ∈ s.db.outbox, row.due nowMs = true →
        row.reap nowMs ∈ db.outbox ∨ row.claim owner nowMs (nowMs + duration) ∈ db.outbox := by
  obtain ⟨batch, outbox, hclaim, hbatch⟩ :=
    claimOutboxBatch_claims (reachable_counted (reachable_of_uniform hs)) hvalid hexpires
  refine ⟨batch, { s.db with outbox }, ?_, fun row hrow hdue => ?_⟩
  · rw [Database.perform, hclaim]
    rfl
  · exact hbatch.finished hlimit row hrow hdue
      (uniform_pending (validateClaim_ok nowMs hvalid).positive hs row hrow)

end Uniform

structure Store.OutboxLawful (s : Store) : Prop where
  counted : ∀ row ∈ s.db.outbox, row.attempt = row.leaseGeneration ∧ row.attempt ≤ 32
  distinct : ∀ call batch db, s.db.perform call = .ok (.batch batch, db) →
    (batch.leases.map OutboxLease.id).Nodup
  moves : ∀ call e t, StoreStep s (call, e) t → ∀ row ∈ s.db.outbox, ∃ row' ∈ t.db.outbox,
    row'.intentId = row.intentId ∧ row.Moves call row' ∧ (2 ≤ row.state.value → row' = row)
  completes : ∀ lease receipt completedAtMs reply db,
    s.db.perform (.completeOutbox lease receipt completedAtMs) = .ok (reply, db) →
      ∃ row ∈ s.db.outbox, lease.fences row = true
  retries : ∀ lease nowMs next maxAttempts reason reply db,
    s.db.perform (.retryOrDeadLetterOutbox lease nowMs next maxAttempts reason) =
      .ok (reply, db) → ∃ row ∈ s.db.outbox, lease.fences row = true
  once : ∀ call e t id generation events u v, StoreStep s (call, e) t →
    Concludes id generation s t → Run database t events u → ¬ Concludes id generation u v
  violated : ∀ call e, s.db.perform call = .error e → e ∈ violations → call.Reuses s.db

theorem outbox_lawful {s : Store} (hs : Reachable database s) : s.OutboxLawful where
  counted row hrow :=
    ⟨((reachable_counted hs).counted row hrow).attempt,
      ((reachable_counted hs).counted row hrow).bounded⟩
  distinct call batch db hperforms := by
    cases perform_ok hperforms with
    | claimed hclaims => exact (claimOutboxBatch_batch (reachable_counted hs) hclaims).distinct
  moves call e t hstep row hrow := by
    obtain ⟨row', hrow', hmoves⟩ := (step_moves hs hstep).of_mem hrow
    exact ⟨row', hrow', hmoves.intentId, hmoves, hmoves.final⟩
  completes lease receipt completedAtMs reply db hperforms := by
    cases perform_ok hperforms with
    | completed hcompletes => exact (completeOutbox_settles hcompletes).held
  retries lease nowMs next maxAttempts reason reply db hperforms := by
    cases perform_ok hperforms with
    | retried hretries =>
      obtain ⟨f, hsettles, -⟩ := retryOrDeadLetterOutbox_settles (reachable_counted hs) hretries
      exact hsettles.held
  once call e t id generation events u v hstep hconcludes hrun := ends_once hs hstep hconcludes hrun
  violated call e hperforms := (perform_fails hs call e hperforms).2

theorem outbox_protocol :
    (∀ s, Reachable database s → s.OutboxLawful) ∧
      ∀ maxAttempts s, Reachable (uniform maxAttempts) s → ∀ owner nowMs duration limit,
        validateClaim owner duration maxAttempts limit = .ok () → nowMs + duration < 2 ^ 63 →
          s.db.outbox.countP (OutboxRow.due nowMs) < limit →
            ∃ batch db, s.db.perform (.claimOutboxBatch owner nowMs duration maxAttempts limit) =
              .ok (.batch batch, db) ∧ ∀ row ∈ s.db.outbox, row.due nowMs = true →
                row.reap nowMs ∈ db.outbox ∨
                  row.claim owner nowMs (nowMs + duration) ∈ db.outbox :=
  ⟨fun _ => outbox_lawful, fun _ _ hs _ _ _ _ => uniform_claim hs⟩

section Samples

def sampleRecorded : EntityId := ⟨Vector.replicate 16 1⟩

def sampleIntent : OutboxInput :=
  ⟨⟨Vector.replicate 16 5⟩, .notification, ⟨Vector.replicate 32 6⟩, 0⟩

def sampleRecording (command : UInt8) (revision : Nat) : CommitRequest where
  entity := sampleRecorded
  command := ⟨Vector.replicate 16 command⟩
  fingerprint := ⟨Vector.replicate 32 command⟩
  expectedRevision := revision
  authorityGeneration := 1
  nextState := ⟨Vector.replicate 32 7⟩
  committedAtMs := 10
  events := []
  outbox := [sampleIntent]

def sampleRecordings : List DatabaseCall :=
  [.bootstrapEntity sampleRecorded 1 ⟨Vector.replicate 32 7⟩ 10,
    .commitCommand (sampleRecording 2 0)]

def sampleHolder : NodeId := ⟨Vector.replicate 16 8⟩

def sampleGranted : OutboxLease :=
  ⟨sampleIntent.id, sampleRecorded, ⟨Vector.replicate 16 2⟩, .notification, sampleIntent.payload, 1, 1,
    sampleHolder, 1000⟩

def sampleRetried : List DatabaseCall :=
  sampleRecordings ++ [.claimOutboxBatch sampleHolder 0 1000 3 2,
    .retryOrDeadLetterOutbox sampleGranted 10 20 3 ⟨Vector.replicate 32 9⟩,
    .commitCommand { sampleRecording 3 1 with
      outbox := [{ sampleIntent with id := ⟨Vector.replicate 16 9⟩ }] }]

theorem outbox_protocol_sample :
    (Store.initial.after sampleRetried).db.outbox.map OutboxRow.attempt = [0, 1] ∧
    (Store.initial.after sampleRetried).OutboxLawful ∧
      ∃ batch db, (Store.initial.after sampleRetried).db.perform
        (.claimOutboxBatch sampleHolder 20 1000 3 3) = .ok (.batch batch, db) ∧
          ∀ row ∈ (Store.initial.after sampleRetried).db.outbox, row.due 20 = true →
            row.reap 20 ∈ db.outbox ∨ row.claim sampleHolder 20 (20 + 1000) ∈ db.outbox := by
  refine ⟨rfl, outbox_protocol.1 _ (reachable_after_calls _), ?_⟩
  have huses : ∀ call ∈ sampleRetried, call.Uses 3 := by
    unfold sampleRetried sampleRecordings
    simp [DatabaseCall.Uses]
  obtain ⟨events, hrun⟩ := run_after_calls (S := uniform 3)
    (fun call hcall _ _ _ hstep => ⟨huses call hcall, hstep⟩) .initial
  exact outbox_protocol.2 3 _ ((Reachable.start rfl).run hrun) _ _ _ _ rfl (by decide) (by decide)

theorem outbox_violated : ∃ s, Reachable database s ∧
    s.db.perform (.commitCommand (sampleRecording 3 1)) = .error (classifyViolation .unique) :=
  ⟨_, reachable_after_calls sampleRecordings, rfl⟩

end Samples

end PersistencePg
