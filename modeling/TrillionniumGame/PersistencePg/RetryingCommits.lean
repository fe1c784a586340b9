import TrillionniumGame.Foundation.Programs
import TrillionniumGame.PersistencePg.OutboxProtocol

namespace PersistencePg
open Checks Persistence Programs Runs Tables

structure RetryPolicy where
  maxAttempts : Nat
  totalBudget : Nat
  initialBackoff : Nat
  maximumBackoff : Nat

def retryPolicyInvalid : DomainError := invalid "database_retry_policy_invalid"

def retryBudgetExhausted : DomainError :=
  ⟨.unavailable, "database_retry_budget_exhausted", .safeBackoff⟩

def RetryPolicy.validate (policy : RetryPolicy) : Except DomainError RetryPolicy := do
  require (¬ (policy.maxAttempts = 0 ∨ policy.totalBudget = 0 ∨
    policy.maximumBackoff < policy.initialBackoff ∨ policy.totalBudget < policy.maximumBackoff))
    retryPolicyInvalid
  return policy

inductive RetryCall where
  | elapsed
  | jitter
  | sleep (delay : Nat)
  | commitCommand (request : CommitRequest) (operationBudget : Nat)

abbrev RetryCall.Answer : RetryCall → Type
  | .elapsed | .jitter => Nat
  | .sleep _ => Unit
  | .commitCommand _ _ => Except DomainError CommitOutcome

abbrev Retrying := Procedure RetryCall RetryCall.Answer DomainError

namespace Retrying

def ask (c : RetryCall) : Retrying c.Answer := Procedure.ask c

def jitteredBackoff (base : Nat) : Retrying Nat :=
  if base = 0 then pure 0
  else do
    let sequence ← ask .jitter
    let minimum := base / 2
    let width := base - minimum + 1
    return min (minimum + sequence % width) (2 ^ 64 - 1)

def pause (delay : Nat) : Retrying Unit :=
  if delay = 0 then pure () else ask (.sleep delay)

variable (policy : RetryPolicy)

def backOff (backoff : Nat) (error : DomainError) : Retrying Nat :=
  if error.retry = .safeBackoff then do
    let elapsed ← ask .elapsed
    let delay ← jitteredBackoff backoff
    pause (min delay (policy.totalBudget - elapsed))
    return min (backoff * 2) policy.maximumBackoff
  else pure backoff

def settle (again : DomainError → Retrying CommitOutcome) :
    Except DomainError CommitOutcome → Retrying CommitOutcome
  | .ok outcome => pure outcome
  | .error error =>
    if error.retry = .safeImmediate ∨ error.retry = .safeBackoff then again error
    else throw error

def attempt (request : CommitRequest)
    (again : DomainError → Retrying CommitOutcome) : Retrying CommitOutcome := do
  let started ← ask .elapsed
  if policy.totalBudget - started = 0 then throw retryBudgetExhausted
  else do
    let result ← ask (.commitCommand request (policy.totalBudget - started))
    let finished ← ask .elapsed
    if policy.totalBudget ≤ finished then throw retryBudgetExhausted else settle again result

def attempts (policy : RetryPolicy) (request : CommitRequest) :
    Nat → Nat → Retrying CommitOutcome
  | 0, _ => attempt policy request fun _ => throw retryBudgetExhausted
  | left + 1, backoff => attempt policy request fun error => do
    let backoff ← backOff policy backoff error
    attempts policy request left backoff

def executeWithMetrics (request : CommitRequest) :
    Retrying CommitOutcome := do
  let policy ← Procedure.reply policy.validate id
  attempts policy request (policy.maxAttempts - 1) policy.initialBackoff

end Retrying

structure Supervised where
  store : Store
  own : List (Database × Database)

inductive Committed (request : CommitRequest) (s : Store) :
    Except DomainError CommitOutcome → Store → Prop
  | answered {outcome : CommitOutcome} {db : Database}
      (performs : s.db.perform (.commitCommand request) = .ok (.outcome outcome, db)) :
      Committed request s (.ok outcome) (s.record (.commitCommand request) (.outcome outcome) db)
  | lost {outcome : CommitOutcome} {db : Database} (e : DomainError)
      (performs : s.db.perform (.commitCommand request) = .ok (.outcome outcome, db)) :
      Committed request s (.error e) (s.record (.commitCommand request) (.outcome outcome) db)
  | failed (e : DomainError) : Committed request s (.error e) s

def RetryAnswers : (c : RetryCall) → Supervised → c.Answer → Supervised → Prop
  | .elapsed, s, _, t | .jitter, s, _, t | .sleep _, s, _, t => s = t
  | .commitCommand request _, s, result, t =>
    Committed request s.store result t.store ∧ t.own = (s.store.db, t.store.db) :: s.own

def Store.RunsTo (s t : Store) : Prop := ∃ events, Run database s events t

theorem Store.RunsTo.refl (s : Store) : s.RunsTo s := ⟨[], .nil s⟩

theorem Store.RunsTo.trans {s t u : Store} (h : s.RunsTo t) (h' : t.RunsTo u) : s.RunsTo u := by
  obtain ⟨events, hrun⟩ := h
  obtain ⟨events', hrun'⟩ := h'
  exact ⟨_, hrun.append hrun'⟩

def supervision : Protocol Unit RetryCall RetryCall.Answer Supervised where
  answers _ := RetryAnswers
  inv s := Reachable database s.store
  moves s t := s.store.RunsTo t.store
  rely _ s t := s.store.RunsTo t.store ∧ t.own = s.own
  refl _ s := ⟨.refl s.store, rfl⟩
  trans _ _ _ _ h h' := ⟨h.1.trans h'.1, h'.2.trans h.2⟩
  within _ _ _ h := h.1

section Retries

variable {request : CommitRequest} {s t : Supervised} {policy : RetryPolicy}

def Store.Answers (s : Store) (request : CommitRequest) (receipt : CommitReceipt) : Prop :=
  s.Recorded request receipt ∧ ∀ t, s.RunsTo t →
    t.db.perform (.commitCommand request) = .ok (.outcome (.duplicate receipt), t.db)

variable {receipt : CommitReceipt}

theorem answers_of_recorded {s : Store} (hs : Reachable database s)
    (hvalid : validateRequest request = .ok ()) (h : s.Recorded request receipt) :
    s.Answers request receipt :=
  ⟨h, fun _ ⟨_, hrun⟩ => perform_repeated (hs.run hrun) hvalid (h.run hrun)⟩

theorem Store.Answers.runsTo {s t : Store} (h : s.Answers request receipt) (hst : s.RunsTo t) :
    t.Answers request receipt :=
  ⟨by
    obtain ⟨_, hrun⟩ := hst
    exact h.1.run hrun, fun u htu => h.2 u (hst.trans htu)⟩

variable {result : Except DomainError CommitOutcome}

theorem Committed.runsTo {s t : Store} (h : Committed request s result t) : s.RunsTo t := by
  cases h with
  | answered hperforms | lost _ hperforms => exact ⟨_, .single (.answered hperforms)⟩
  | failed => exact .refl s

theorem Committed.effect {s t : Store} (hs : Reachable database s)
    (h : Committed request s result t) :
    (t.db = s.db ∨ ∃ receipt, t.Answers request receipt) ∧
      ∀ outcome, result = .ok outcome → t.Recorded request outcome.receipt := by
  have hperformed : ∀ outcome db,
      s.db.perform (.commitCommand request) = .ok (.outcome outcome, db) →
      (s.record (.commitCommand request) (.outcome outcome) db).Answers request
        outcome.receipt := by
    intro outcome db hperforms
    obtain ⟨_, -, hcommit⟩ := perform_commit hperforms
    exact answers_of_recorded (hs.run (.single (.answered hperforms))) (commitCommand_valid hcommit)
      (perform_recorded hs hperforms)
  cases h with
  | answered hperforms =>
    have hanswers := hperformed _ _ hperforms
    exact ⟨.inr ⟨_, hanswers⟩, fun outcome h => Except.ok.inj h ▸ hanswers.1⟩
  | lost _ hperforms => exact ⟨.inr ⟨_, hperformed _ _ hperforms⟩, nofun⟩
  | failed => exact ⟨.inl rfl, nofun⟩

def Unharmed (request : CommitRequest) (s : Supervised) : Prop :=
  (∀ change ∈ s.own, change.2 = change.1) ∨ ∃ receipt, s.store.Answers request receipt

theorem stable_unharmed : supervision.Stable () (Unharmed request) := by
  rintro s t ⟨hruns, hown⟩ (hsame | ⟨receipt, hanswers⟩)
  · exact .inl (hown ▸ hsame)
  · exact .inr ⟨receipt, hanswers.runsTo hruns⟩

theorem unharmed_commit (hs : Reachable database s.store) (h : Unharmed request s)
    (hcommitted : Committed request s.store result t.store)
    (hown : t.own = (s.store.db, t.store.db) :: s.own) : Unharmed request t := by
  obtain hsame | hanswers := (hcommitted.effect hs).1
  · obtain hbefore | ⟨receipt, hanswers⟩ := h
    · exact .inl (hown ▸ List.forall_mem_cons.mpr ⟨hsame, hbefore⟩)
    · exact .inr ⟨receipt, hanswers.runsTo hcommitted.runsTo⟩
  · exact .inr hanswers

def Answered (request : CommitRequest) (outcome : CommitOutcome) (s : Supervised) : Prop :=
  s.store.Recorded request outcome.receipt

theorem stable_answered {outcome : CommitOutcome} :
    supervision.Stable () (Answered request outcome) := by
  rintro s t ⟨⟨events, hrun⟩, -⟩ hrecorded
  exact hrecorded.run hrun

abbrev Retries (request : CommitRequest) (x : Retrying CommitOutcome) : Prop :=
  Protocol.Triple supervision () (Unharmed request) x (Answered request)
    fun _ => Unharmed request

abbrev KeepsUnharmed (request : CommitRequest) {α : Type} (x : Retrying α) : Prop :=
  Protocol.Triple supervision () (Unharmed request) x (fun _ => Unharmed request)
    fun _ => Unharmed request

theorem keeps_self (hs : Reachable database s.store) : supervision.Keeps () s s :=
  ⟨hs, .refl s.store, fun _ hne => absurd rfl hne⟩

theorem asks_keeping {A : Supervised → Prop} {E : DomainError → Supervised → Prop} {c : RetryCall}
    (hA : supervision.Stable () A) (hc : ∀ s r t, RetryAnswers c s r t → s = t) :
    Protocol.Triple supervision () A (Retrying.ask c) (fun _ => A) E :=
  .ask hA (fun _ => hA) fun t ht h r u hanswer => by
    cases hc t r u hanswer
    exact ⟨keeps_self ht, h⟩

theorem keeps_pure {α : Type} {a : α} : KeepsUnharmed request (pure a : Retrying α) :=
  .pure stable_unharmed fun _ => id

theorem keeps_bind {α β : Type} {x : Retrying α} {f : α → Retrying β}
    (hx : KeepsUnharmed request x) (hf : ∀ a, KeepsUnharmed request (f a)) :
    KeepsUnharmed request (x >>= f) :=
  .bind hx hf fun _ => stable_unharmed

theorem keeps_elapsed : KeepsUnharmed request (Retrying.ask .elapsed) :=
  asks_keeping stable_unharmed fun _ _ _ h => h

theorem keeps_jitteredBackoff (base : Nat) :
    KeepsUnharmed request (Retrying.jitteredBackoff base) := by
  unfold Retrying.jitteredBackoff
  split
  · exact keeps_pure
  · exact keeps_bind (asks_keeping stable_unharmed fun _ _ _ h => h) fun _ => keeps_pure

theorem keeps_pause (delay : Nat) : KeepsUnharmed request (Retrying.pause delay) := by
  unfold Retrying.pause
  split
  · exact keeps_pure
  · exact asks_keeping stable_unharmed fun _ _ _ h => h

theorem keeps_backOff (backoff : Nat) (e : DomainError) :
    KeepsUnharmed request (Retrying.backOff policy backoff e) := by
  unfold Retrying.backOff
  split
  · exact keeps_bind keeps_elapsed fun _ => keeps_bind (keeps_jitteredBackoff backoff) fun _ =>
      keeps_bind (keeps_pause _) fun _ => keeps_pure
  · exact keeps_pure

structure Attempted (request : CommitRequest) (result : Except DomainError CommitOutcome)
    (s : Supervised) : Prop where
  unharmed : Unharmed request s
  answered : ∀ outcome, result = .ok outcome → Answered request outcome s

theorem stable_attempted : supervision.Stable () (Attempted request result) :=
  fun s t hst h => ⟨stable_unharmed s t hst h.unharmed,
    fun outcome hok => stable_answered s t hst (h.answered outcome hok)⟩

theorem triple_commit (budget : Nat) :
    Protocol.Triple supervision () (Unharmed request)
      (Retrying.ask (.commitCommand request budget)) (Attempted request)
      fun _ => Unharmed request :=
  .ask stable_unharmed (fun _ => stable_attempted) fun _ ht h _ _ ⟨hcommitted, hown⟩ =>
    ⟨⟨Reachable.run ht hcommitted.runsTo.choose_spec, hcommitted.runsTo,
        fun _ hne => absurd rfl hne⟩,
      unharmed_commit ht h hcommitted hown, (hcommitted.effect ht).2⟩

variable {again : DomainError → Retrying CommitOutcome}

theorem triple_settle (hagain : ∀ e, Retries request (again e))
    (result : Except DomainError CommitOutcome) :
    Protocol.Triple supervision () (Attempted request result) (Retrying.settle again result)
      (Answered request) fun _ => Unharmed request := by
  cases result with
  | ok outcome => exact .pure stable_answered fun _ h => h.answered outcome rfl
  | error e =>
    have hafter : Retries request
        (if e.retry = .safeImmediate ∨ e.retry = .safeBackoff then again e else throw e) := by
      split
      · exact hagain e
      · exact .throw stable_unharmed fun _ => id
    exact hafter.weaken (fun _ _ h => h.unharmed) (fun _ _ _ h => h) fun _ _ _ h => h

theorem triple_attempt (hagain : ∀ e, Retries request (again e)) :
    Retries request (Retrying.attempt policy request again) := by
  refine .bind keeps_elapsed (fun started => ?_) fun _ => stable_unharmed
  split
  · exact .throw stable_unharmed fun _ => id
  · refine .bind (triple_commit _) (fun result => ?_) fun _ => stable_unharmed
    refine .bind (asks_keeping stable_attempted fun _ _ _ h => h) (fun finished => ?_)
      fun _ => stable_unharmed
    split
    · exact .throw stable_unharmed fun _ h => h.unharmed
    · exact triple_settle hagain result

theorem triple_attempts (left backoff : Nat) :
    Retries request (Retrying.attempts policy request left backoff) := by
  induction left generalizing backoff with
  | zero => exact triple_attempt fun _ => .throw stable_unharmed fun _ => id
  | succ left ih =>
    exact triple_attempt fun e => .bind (keeps_backOff backoff e) ih fun _ => stable_unharmed

theorem triple_executeWithMetrics :
    Retries request (Retrying.executeWithMetrics policy request) := by
  refine .bind (B := fun _ => Unharmed request)
    (.reply (fun _ => stable_unharmed) (fun _ => stable_unharmed) (fun _ _ _ h => h)
      fun _ _ _ h => h) (fun _ => triple_attempts _ _) fun _ => stable_unharmed

end Retries

def ReceiptRow.sequences (row : ReceiptRow) : List Nat :=
  List.range' (row.lastEventSequence - row.eventCount + 1) row.eventCount

structure Store.Linear (s : Store) : Prop where
  revisions : ∀ head ∈ s.db.heads,
    ((s.db.receipts.filter fun row => row.entityId = head.entityId).map ReceiptRow.revision) =
      down head.revision
  sequences : ∀ head ∈ s.db.heads,
    ((s.db.events.filter fun row => row.entityId = head.entityId).map EventRow.sequence) =
      down head.lastEventSequence
  ranges : ∀ head ∈ s.db.heads,
    ((s.db.receipts.filter fun row => row.entityId = head.entityId).flatMap fun row =>
      row.sequences.reverse) = down head.lastEventSequence
  events : ∀ row ∈ s.db.receipts, ((s.db.events.filter fun event =>
    event.entityId = row.entityId ∧ event.commandId = row.commandId).map EventRow.sequence) =
      row.sequences.reverse
  first : ∀ row ∈ s.db.receipts, row.firstEventSequence = row.sequences.head?
  once : s.log.Pairwise fun later earlier =>
    ¬ (earlier.entity = later.entity ∧ earlier.request.command = later.request.command)
  refused : ∀ row ∈ s.db.receipts, ∀ request : CommitRequest, row.entityId = request.entity →
    row.commandId = request.command → row.fingerprint ≠ request.fingerprint → ∀ reply db,
      s.db.perform (.commitCommand request) ≠ .ok (reply, db)
  failed : ∀ request e t, StoreStep s (.commitCommand request, .error e) t →
    t.db = s.db ∨ ∃ receipt, t.Answers request receipt
  violated : ∀ call e, s.db.perform call = .error e → e ∈ violations → call.Reuses s.db

section Tables

variable {s : Store} {commit : Commit}

theorem receiptRow_sequences (commit : Commit) :
    commit.receiptRow.sequences = commit.sequences := by
  unfold ReceiptRow.sequences Commit.sequences Commit.receiptRow
  dsimp only
  rw [Nat.add_sub_cancel]

theorem filter_receipts (hlogged : s.Logged) (entity : EntityId) :
    (s.db.receipts.filter fun row => row.entityId = entity) =
      (s.history entity).log.map Commit.receiptRow := by
  rw [hlogged.receipts, List.filter_map]
  rfl

theorem history_head {entity : EntityId} {head : HeadRow} (hs : Reachable database s)
    (hhead : head ∈ s.db.heads) (hentity : head.entityId = entity) :
    (s.history entity).head = some head :=
  hentity ▸ (reachable_sound hs).head? hhead

theorem events_about (commit : Commit) {row : EventRow} (hrow : row ∈ commit.events.reverse) :
    row.entityId = commit.entity ∧ row.commandId = commit.request.command :=
  eventRows_about _ _ _ row (List.mem_reverse.mp hrow)

theorem filter_events (hlogged : s.Logged) (entity : EntityId) :
    (s.db.events.filter fun row => row.entityId = entity) =
      (s.history entity).log.flatMap fun commit => commit.events.reverse := by
  rw [hlogged.events, List.filter_flatMap]
  change _ = (s.log.filter fun commit => commit.entity = entity).flatMap _
  induction s.log with
  | nil => rfl
  | cons commit rest ih =>
    by_cases hentity : commit.entity = entity
    · rw [filter_here Commit.entity hentity, List.flatMap_cons, List.flatMap_cons, ih,
        List.filter_eq_self.mpr fun row hrow =>
          decide_eq_true ((events_about commit hrow).1.trans hentity)]
    · rw [filter_elsewhere Commit.entity hentity, List.flatMap_cons, ih,
        List.filter_eq_nil_iff.mpr fun row hrow hsame => hentity
          ((events_about commit hrow).1.symm.trans (of_decide_eq_true hsame)), List.nil_append]

theorem events_sequences (commit : Commit) :
    commit.events.reverse.map EventRow.sequence = commit.sequences.reverse := by
  rw [List.map_reverse, Commit.events, eventRows_sequences]
  rfl

theorem events_of_receipt (hlogged : s.Logged) (hcommit : commit ∈ s.log) :
    (s.db.events.filter fun row => row.entityId = commit.receiptRow.entityId ∧
      row.commandId = commit.receiptRow.commandId) = commit.events.reverse := by
  rw [hlogged.events, List.filter_flatMap]
  refine (flatMap_one hlogged.commands (fun _ _ h => ⟨h.1.symm, h.2.symm⟩) hcommit
    fun other _ hother => ?_).trans ?_
  · refine List.filter_eq_nil_iff.mpr fun row hrow hsame => hother ?_
    obtain ⟨hentity, hcommand⟩ := events_about other hrow
    obtain ⟨hentity', hcommand'⟩ := of_decide_eq_true hsame
    exact ⟨hentity.symm.trans hentity', hcommand.symm.trans hcommand'⟩
  · exact List.filter_eq_self.mpr fun row hrow => decide_eq_true (events_about commit hrow)

theorem receiptRow_first (commit : Commit) :
    commit.receiptRow.firstEventSequence = commit.receiptRow.sequences.head? := by
  rw [receiptRow_sequences, Commit.sequences, Commit.receiptRow]
  dsimp only [Commit.firstEventSequence]
  cases commit.request.events with
  | nil => rfl
  | cons event rest => exact if_neg (List.cons_ne_nil _ _)

theorem failed_effect (hs : Reachable database s) {request : CommitRequest} {e : DomainError}
    {t : Store} (hstep : StoreStep s (.commitCommand request, .error e) t) :
    t.db = s.db ∨ ∃ receipt, t.Answers request receipt := by
  generalize hevent : (DatabaseCall.commitCommand request,
    (Except.error e : Except DomainError DatabaseReply)) = event at hstep
  cases hstep with
  | answered => cases hevent
  | refused | aborted => exact .inl rfl
  | @lost call reply db source _ hperforms =>
    obtain ⟨rfl, -⟩ := Prod.mk.inj hevent
    obtain ⟨outcome, rfl, -⟩ := perform_commit hperforms
    exact (Committed.effect hs (.lost e hperforms)).1

theorem reachable_linear (hs : Reachable database s) : s.Linear where
  revisions head hhead := by
    rw [filter_receipts (reachable_logged hs), List.map_map]
    refine (history_numbered hs head.entityId).revisions.trans ?_
    rw [history_head hs hhead rfl]
    rfl
  sequences head hhead := by
    rw [filter_events (reachable_logged hs), List.map_flatMap]
    simp only [events_sequences]
    rw [(history_numbered hs head.entityId).sequences, history_head hs hhead rfl]
    rfl
  ranges head hhead := by
    rw [filter_receipts (reachable_logged hs), List.flatMap_map]
    simp only [receiptRow_sequences]
    rw [(history_numbered hs head.entityId).sequences, history_head hs hhead rfl]
    rfl
  events row hrow := by
    rw [(reachable_logged hs).receipts] at hrow
    obtain ⟨commit, hcommit, rfl⟩ := List.mem_map.mp hrow
    rw [events_of_receipt (reachable_logged hs) hcommit, events_sequences, receiptRow_sequences]
  first row hrow := by
    rw [(reachable_logged hs).receipts] at hrow
    obtain ⟨commit, -, rfl⟩ := List.mem_map.mp hrow
    exact receiptRow_first commit
  once := (reachable_logged hs).commands
  refused row hrow request hentity hcommand hother reply db hperforms := by
    rw [(reachable_logged hs).receipts] at hrow
    obtain ⟨commit, hcommit, rfl⟩ := List.mem_map.mp hrow
    obtain ⟨outcome, rfl, -⟩ := perform_commit hperforms
    have hrecorded : (s.record (.commitCommand request) (.outcome outcome) db).Recorded
        commit.request commit.receipt := ⟨commit, record_log hcommit, rfl, rfl, rfl, rfl⟩
    exact hother (recorded_unique (hs.run (.single (.answered hperforms))) hrecorded
      (perform_recorded hs hperforms) hentity hcommand).1
  failed request e t hstep := failed_effect hs hstep
  violated call e hperforms := (perform_fails hs call e hperforms).2

end Tables

theorem commands_logged :
    (∀ s, Reachable database s → s.Linear) ∧
    (∀ s₀ events s, database.init s₀ → Run database s₀ events s →
      ∀ (request request' : CommitRequest) (outcome outcome' : CommitOutcome),
        (DatabaseCall.commitCommand request, Except.ok (DatabaseReply.outcome outcome)) ∈ events →
        (DatabaseCall.commitCommand request', Except.ok (DatabaseReply.outcome outcome')) ∈
          events →
        request.entity = request'.entity → request.command = request'.command →
          request.fingerprint = request'.fingerprint ∧ outcome.receipt = outcome'.receipt) ∧
    ∀ policy request s, Reachable database s → supervision.Safe ()
      (Protocol.Ends (Answered request) fun _ => Unharmed request)
      (Retrying.executeWithMetrics policy request).run ⟨s, []⟩ := by
  refine ⟨fun s hs => reachable_linear hs, ?_, fun policy request s hs => ?_⟩
  · intro s₀ events s hstart hrun request request' outcome outcome' hevent hevent'
    exact recorded_unique ((Reachable.start hstart).run hrun)
      (answers_recorded hstart hrun hevent) (answers_recorded hstart hrun hevent')
  · exact triple_executeWithMetrics ⟨s, []⟩ hs (.inl nofun)

section Samples

def samplePlayed : EntityId := ⟨Vector.replicate 16 1⟩

def samplePlay : CommitRequest where
  entity := samplePlayed
  command := ⟨Vector.replicate 16 2⟩
  fingerprint := ⟨Vector.replicate 32 3⟩
  expectedRevision := 0
  authorityGeneration := 1
  nextState := ⟨Vector.replicate 32 4⟩
  committedAtMs := 20
  events := [⟨⟨Vector.replicate 16 5⟩, ⟨Vector.replicate 32 6⟩⟩]
  outbox := []

def sampleStart : List DatabaseCall :=
  [.bootstrapEntity samplePlayed 1 ⟨Vector.replicate 32 4⟩ 10]

def samplePlays : List DatabaseCall := sampleStart ++ [.commitCommand samplePlay]

def samplePlayedReceipt : CommitReceipt :=
  ⟨samplePlayed, ⟨Vector.replicate 16 2⟩, ⟨Vector.replicate 32 3⟩, 1, ⟨Vector.replicate 32 4⟩,
    some 1, 1, 1, []⟩

theorem commands_logged_sample :
    (Store.initial.after samplePlays).Linear ∧
      (CommitOutcome.applied samplePlayedReceipt).receipt =
        (CommitOutcome.duplicate samplePlayedReceipt).receipt ∧
      supervision.Safe () (Protocol.Ends (Answered samplePlay) fun _ => Unharmed samplePlay)
        (Retrying.executeWithMetrics ⟨3, 100, 1, 2⟩ samplePlay).run
        ⟨Store.initial.after samplePlays, []⟩ := by
  have hreach := reachable_after_calls samplePlays
  refine ⟨commands_logged.1 _ hreach, ?_, commands_logged.2.2 _ _ _ hreach⟩
  obtain ⟨events, hstart⟩ : ∃ events, Run database .initial events
      (Store.initial.after sampleStart) := run_after_calls (fun _ _ _ _ _ h => h) .initial
  have happlied : StoreStep (Store.initial.after sampleStart)
      (.commitCommand samplePlay, .ok (.outcome (.applied samplePlayedReceipt)))
      (Store.initial.after samplePlays) := .answered rfl
  have hrepeated : StoreStep (Store.initial.after samplePlays)
      (.commitCommand samplePlay, .ok (.outcome (.duplicate samplePlayedReceipt)))
      (Store.initial.after samplePlays) := .answered rfl
  have hrun : Run database .initial _ _ := (hstart.snoc happlied).snoc hrepeated
  exact (commands_logged.2.1 _ _ _ rfl hrun samplePlay samplePlay _ _
    (List.mem_append_left _ List.mem_concat_self) List.mem_concat_self rfl rfl).2

end Samples

end PersistencePg
