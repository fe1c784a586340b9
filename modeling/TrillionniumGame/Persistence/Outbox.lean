import TrillionniumGame.Persistence.LogIntegrity

namespace Persistence
open Checks FiniteMap Runs

structure OutboxRecord.Fenced (record : OutboxRecord) : Prop where
  generation : record.leaseGeneration =
    if record.state = .pending then record.attempt else record.attempt + 1
  leased : ∀ owner generation, record.state = .leased owner generation →
    generation = record.leaseGeneration
  attempt : record.attempt ≤ maxAttempts

def OutboxState.Terminal : OutboxState → Prop
  | .applied _ => True
  | .deadLetter _ => True
  | _ => False

theorem freshRecord_fenced (entity : EntityId) (command : CommandId) (item : OutboxInput) :
    (freshRecord entity command item).Fenced :=
  ⟨rfl, by simp [freshRecord], by simp [freshRecord]⟩

theorem OutboxRecord.Move.fenced {record record' : OutboxRecord} (h : record.Move record')
    (hf : record.Fenced) : record'.Fenced := by
  obtain ⟨hgeneration, hleased, hattempt⟩ := hf
  cases h with
  | same => exact ⟨hgeneration, hleased, hattempt⟩
  | lease owner hs =>
    refine ⟨?_, ?_, hattempt⟩
    · simp_all
    · rintro _ _ h
      cases h
      rfl
  | release owner generation hs hlt => exact ⟨by simp_all, by simp, hlt⟩
  | apply owner generation receipt hs | limit owner generation hs
  | deadLetter owner generation reason hs => exact ⟨by simp_all, by simp, hattempt⟩

theorem OutboxRecord.Move.terminal {record record' : OutboxRecord} (h : record.Move record')
    (ht : record.state.Terminal) : record' = record := by
  cases h with
  | same => rfl
  | lease _ hs | release _ _ hs | apply _ _ _ hs | limit _ _ hs | deadLetter _ _ _ hs =>
    simp [hs, OutboxState.Terminal] at ht

variable {h h' : History}

theorem Change.record (hc : Change h h') (id : IntentId) :
    (h.state.outbox.lookup id = none ∧
      ∃ entity command item, h'.state.outbox.lookup id = some (freshRecord entity command item)) ∨
    (h.state.outbox.lookup id = none ∧ h'.state.outbox.lookup id = none) ∨
    ∃ record record', h.state.outbox.lookup id = some record ∧
      h'.state.outbox.lookup id = some record' ∧ record.Move record' := by
  have hkeep : ∀ s : DurableState, s.outbox.lookup id = h.state.outbox.lookup id →
      (h.state.outbox.lookup id = none ∧ s.outbox.lookup id = none) ∨
      ∃ record record', h.state.outbox.lookup id = some record ∧
        s.outbox.lookup id = some record' ∧ record.Move record' := by
    intro s hs
    rw [hs]
    cases h.state.outbox.lookup id with
    | none => exact .inl ⟨rfl, rfl⟩
    | some record => exact .inr ⟨record, record, rfl, rfl, .same⟩
  cases hc with
  | same | bootstrap | takeover => exact .inr (hkeep _ rfl)
  | commit p head receipt s' _ _ hst =>
    have hlookup := hst.outbox id
    cases hf : p.intent.outbox.find? (·.id = id) with
    | none =>
      rw [hf] at hlookup
      exact .inr (hkeep s' hlookup)
    | some item =>
      have hid : item.id = id := by simpa using List.find?_some hf
      have hfresh := hst.fresh item (List.mem_of_find?_eq_some hf)
      rw [hf] at hlookup
      exact .inl ⟨Finmap.lookup_eq_none.mpr (hid ▸ hfresh), _, _, item, hlookup⟩
  | outbox changed record record' hrecord hmove =>
    by_cases hid : id = changed
    · subst hid
      exact .inr (.inr ⟨record, record', hrecord, Finmap.lookup_insert _, hmove⟩)
    · exact .inr (hkeep _ (Finmap.lookup_insert_of_ne _ hid))

def AllFenced (h : History) : Prop :=
  ∀ id record, h.state.outbox.lookup id = some record → record.Fenced

theorem allFenced_step (h : History) (op : Op) (h' : History) (hi : AllFenced h)
    (hs : store.step h op h') : AllFenced h' := by
  obtain ⟨hop, rfl⟩ := hs
  intro id record hrecord
  rcases (perform_change h op hop).record id with ⟨_, entity, command, item, hnew⟩ | ⟨_, hnone⟩ |
    ⟨before, after, hbefore, hafter, hmove⟩
  · cases hnew.symm.trans hrecord
    exact freshRecord_fenced entity command item
  · cases hnone.symm.trans hrecord
  · cases hafter.symm.trans hrecord
    exact hmove.fenced (hi id before hbefore)

theorem allFenced_of_reachable (hr : Reachable store h) : AllFenced h := by
  refine hr.invariant ?_ allFenced_step
  rintro _ rfl id record hrecord
  simp [History.empty, DurableState.empty] at hrecord

variable {id : IntentId}

theorem run_terminal {ops : List Op} (hr : Run store h ops h') {record : OutboxRecord}
    (hrecord : h.state.outbox.lookup id = some record) (ht : record.state.Terminal) :
    h'.state.outbox.lookup id = some record := by
  refine hr.invariant (I := fun k => k.state.outbox.lookup id = some record) ?_ hrecord
  rintro k op k' hk ⟨hop, rfl⟩
  rcases (perform_change k op hop).record id with ⟨hnone, _⟩ | ⟨hnone, _⟩ |
    ⟨before, after, hbefore, hafter, hmove⟩
  · simp [hk] at hnone
  · simp [hk] at hnone
  · cases hbefore.symm.trans hk
    rw [hafter, hmove.terminal ht]

variable {s : DurableState} {update : OutboxRecord → Except DomainError OutboxRecord}
  {e : DomainError}

theorem updateOutbox_error (h : (s.updateOutbox id update).1 = .error e) :
    e = outboxNotFound ∨
      ∃ record, s.outbox.lookup id = some record ∧ update record = .error e := by
  unfold DurableState.updateOutbox at h
  cases hl : s.outbox.lookup id with
  | none =>
    rw [hl] at h
    cases h
    exact .inl rfl
  | some record =>
    cases hu : update record with
    | error e' =>
      simp only [hl, hu] at h
      cases h
      exact .inr ⟨record, rfl, hu⟩
    | ok record' =>
      simp only [hl, hu] at h
      cases h

variable {owner : NodeId}

theorem lease_error {record : OutboxRecord} (h : record.lease owner = .error e) :
    e = outboxNotPending ∨ checkedAdd record.leaseGeneration 1 = none := by
  simp only [OutboxRecord.lease, bind_error, require_error, fetch_error] at h
  rcases h with ⟨_, rfl⟩ | ⟨_, _, ⟨hnone, _⟩ | ⟨_, _, h⟩⟩
  · exact .inl rfl
  · exact .inr hnone
  · cases h

theorem OutboxRecord.Fenced.leaseGeneration_lt {record : OutboxRecord} (h : record.Fenced) :
    record.leaseGeneration + 1 < 2 ^ 64 := by
  have hattempt : record.attempt ≤ 32 := h.attempt
  rw [h.generation]
  split <;> omega

theorem lease_no_overflow (hi : AllFenced h) (id : IntentId) (owner : NodeId) :
    (h.state.lease id owner).1 ≠ .error overflow := by
  intro he
  unfold DurableState.lease at he
  split at he
  · cases he
  · rcases updateOutbox_error he with h | ⟨record, hrecord, hu⟩
    · cases h
    · rcases lease_error hu with h | hnone
      · cases h
      · rw [checkedAdd_of_lt (hi id record hrecord).leaseGeneration_lt] at hnone
        cases hnone

def Op.finishing : Op → Option (IntentId × NodeId × Nat)
  | .apply id owner generation _ => some (id, owner, generation)
  | .retry id owner generation => some (id, owner, generation)
  | .deadLetter id owner generation _ => some (id, owner, generation)
  | _ => none

variable {target : IntentId} {generation : Nat}

theorem updateOutbox_lookup {record : OutboxRecord} (hrecord : s.outbox.lookup id = some record) :
    (s.updateOutbox id update).1 = update record ∧
      (s.updateOutbox id update).2.outbox.lookup id =
        some ((update record).toOption.getD record) := by
  rw [DurableState.updateOutbox, hrecord]
  cases hu : update record with
  | error e => simpa [hu, Except.toOption] using hrecord
  | ok record' => simp [hu, Except.toOption]

theorem updateOutbox_other (hother : id ≠ target) :
    (s.updateOutbox target update).2.outbox.lookup id = s.outbox.lookup id := by
  rw [DurableState.updateOutbox]
  split
  · rfl
  · split
    · rfl
    · exact Finmap.lookup_insert_of_ne _ hother

theorem updateOutbox_leased (hupdate : ∀ record record', update record = .ok record' →
      record' = record ∨ record.state = .leased owner generation) {record : OutboxRecord}
    (hrecord : s.outbox.lookup id = some record)
    (hchanged : (s.updateOutbox target update).2.outbox.lookup id ≠ some record) :
    id = target ∧ record.state = .leased owner generation := by
  by_cases hid : id = target
  · subst hid
    rw [(updateOutbox_lookup hrecord).2] at hchanged
    cases hu : update record with
    | error e => exact absurd (by rw [hu]; rfl) hchanged
    | ok record' =>
      refine ⟨rfl, (hupdate _ _ hu).resolve_left ?_⟩
      rintro rfl
      exact absurd (by rw [hu]; rfl) hchanged
  · exact absurd ((updateOutbox_other hid).trans hrecord) hchanged

theorem finishing_leased {op : Op} (hop : op.finishing = some (target, owner, generation))
    {record : OutboxRecord} (hrecord : h.state.outbox.lookup id = some record)
    (hchanged : (h.perform op).state.outbox.lookup id ≠ some record) :
    id = target ∧ record.state = .leased owner generation := by
  cases op with
  | apply _ _ _ receipt =>
    cases hop
    simp only [History.perform, DurableState.exec, DurableState.apply] at hchanged
    split at hchanged
    · exact absurd hrecord hchanged
    · exact updateOutbox_leased (fun _ _ hu => (apply_move hu).imp_right And.left) hrecord hchanged
  | retry =>
    cases hop
    exact updateOutbox_leased (fun _ _ hu => .inr (retry_move hu).1) hrecord hchanged
  | deadLetter _ _ _ reason =>
    cases hop
    simp only [History.perform, DurableState.exec, DurableState.deadLetter] at hchanged
    split at hchanged
    · exact absurd hrecord hchanged
    · exact updateOutbox_leased (fun _ _ hu => .inr (deadLetter_move hu).1) hrecord hchanged
  | bootstrap | prepare | commit | takeover | lease => cases hop

-- The reference model of the outbox state-model test. The test draws its two workers, its two
-- receipts and its two reasons from fixed tables; here they range over the whole types.
namespace OutboxModel

inductive Action where
  | lease (worker : NodeId)
  | retry (worker : NodeId)
  | apply (worker : NodeId) (receipt : Digest32)
  | deadLetter (worker : NodeId) (reason : Digest32)

inductive Phase where
  | pending
  | leased (worker : NodeId) (generation : Nat)
  | applied (receipt : Digest32)
  | deadLetter (reason : Digest32)
  | attemptLimit
  deriving DecidableEq

structure Model where
  attempt : Nat
  leaseGeneration : Nat
  phase : Phase
  tokens : NodeId → Option Nat

def Model.default : Model := ⟨0, 0, .pending, fun _ => none⟩

variable (m : Model)

def Model.requireFence (worker : NodeId) : Except String Unit := do
  let generation ← fetch (m.tokens worker) "outbox_lease_mismatch"
  require (m.phase = .leased worker generation) "outbox_lease_mismatch"

def Model.execute : Action → Except String Model
  | .lease worker => do
    require (m.phase = .pending) "outbox_not_pending"
    let leaseGeneration ← fetch (checkedAdd m.leaseGeneration 1) "bounded model generation"
    return { m with
      leaseGeneration
      phase := .leased worker leaseGeneration
      tokens := Function.update m.tokens worker (some leaseGeneration) }
  | .retry worker => do
    m.requireFence worker
    if m.attempt ≥ maxAttempts then return { m with phase := .attemptLimit }
    else
      let attempt ← fetch (checkedAdd m.attempt 1) "bounded model attempt"
      return { m with attempt, phase := .pending }
  | .apply worker receipt =>
    match m.phase with
    | .applied current =>
      if current = receipt then .ok m else .error "outbox_receipt_mismatch"
    | _ => do
      m.requireFence worker
      return { m with phase := .applied receipt }
  | .deadLetter worker reason => do
    m.requireFence worker
    return { m with phase := .deadLetter reason }

def Phase.render : Phase → OutboxState
  | .pending => .pending
  | .leased worker generation => .leased worker generation
  | .applied receipt => .applied receipt
  | .deadLetter reason => .deadLetter reason
  | .attemptLimit => .deadLetter outboxAttemptLimitReason

structure Model.Shows (m : Model) (record : OutboxRecord) : Prop where
  attempt : m.attempt = record.attempt
  leaseGeneration : m.leaseGeneration = record.leaseGeneration
  phase : m.phase.render = record.state
  token : ∀ owner generation, record.state = .leased owner generation →
    m.tokens owner = some generation

def Action.worker : Action → NodeId
  | .lease worker | .retry worker | .apply worker _ | .deadLetter worker _ => worker

-- The test draws no zero worker, receipt or reason: the model does not check for them.
def Action.named : Action → Bool
  | .lease worker => !worker.isZero
  | .retry _ => true
  | .apply _ value | .deadLetter _ value => !value.isZero

def Action.revise (generation : Nat) (record : OutboxRecord) :
    Action → Except DomainError OutboxRecord
  | .lease worker => record.lease worker
  | .retry worker => record.retry worker generation
  | .apply worker receipt => record.apply worker generation receipt
  | .deadLetter worker reason => record.deadLetter worker generation reason

def Action.answer (s : DurableState) (id : IntentId) (generation : Nat) :
    Action → Except DomainError OutboxRecord × DurableState
  | .lease worker => s.lease id worker
  | .retry worker => s.retry id worker generation
  | .apply worker receipt => s.apply id worker generation receipt
  | .deadLetter worker reason => s.deadLetter id worker generation reason

def actionOf : Op → Option (IntentId × Nat × Action)
  | .lease id owner => some (id, 0, .lease owner)
  | .apply id owner generation receipt => some (id, generation, .apply owner receipt)
  | .retry id owner generation => some (id, generation, .retry owner)
  | .deadLetter id owner generation reason => some (id, generation, .deadLetter owner reason)
  | _ => none

def Model.presenting (worker : NodeId) (generation : Nat) : Model :=
  { m with tokens := Function.update m.tokens worker (some generation) }

def Model.follow (id : IntentId) (m : Model) (op : Op) : Model :=
  match actionOf op with
  | some (target, generation, action) =>
    if target = id ∧ action.named then
      ((m.presenting action.worker generation).execute action).toOption.getD m
    else m
  | none => m

def Agrees (id : IntentId) (record : OutboxRecord)
    (answer : Except DomainError OutboxRecord × DurableState) (outcome : Except String Model) :
    Prop :=
  Same (fun next m => m.Shows next) (answer.1.mapError DomainError.reason) outcome ∧
    answer.2.outbox.lookup id = some (answer.1.toOption.getD record)

structure LockStep (h : History) (id : IntentId) (record : OutboxRecord) (m : Model) : Prop where
  held : ∀ action : Action, action.named →
    Agrees id record (action.answer h.state id ((m.tokens action.worker).getD 0))
      (m.execute action)
  presented : ∀ (action : Action) generation, action.named →
    Agrees id record (action.answer h.state id generation)
      ((m.presenting action.worker generation).execute action)
  unnamed : ∀ (action : Action) generation, ¬ action.named →
    ∃ reason, action.answer h.state id generation = (.error (invalid reason), h.state)
  followed : ∀ ops h', Run store h ops h' → ∃ record', h'.state.outbox.lookup id = some record' ∧
    (ops.foldl (Model.follow id) m).Shows record'
  others : ∀ op, (∀ generation action, actionOf op ≠ some (id, generation, action)) →
    m.follow id op = m ∧ (h.perform op).state.outbox.lookup id = some record

theorem default_shows (entity : EntityId) (command : CommandId) (item : OutboxInput) :
    Model.default.Shows (freshRecord entity command item) :=
  ⟨rfl, rfl, rfl, by simp [freshRecord]⟩

theorem requireFence_cases (worker : NodeId) :
    m.requireFence worker = .ok () ∨ m.requireFence worker = .error "outbox_lease_mismatch" := by
  rw [Model.requireFence]
  cases m.tokens worker with
  | none => exact .inr rfl
  | some generation => exact ite_eq_or_eq _ _ _

theorem requireFence_ok {m : Model} {worker : NodeId} : m.requireFence worker = .ok () ↔
    ∃ generation, m.tokens worker = some generation ∧ m.phase = .leased worker generation := by
  simp only [Model.requireFence, bind_ok, fetch_ok, require_ok]

theorem Model.Shows.leased {m : Model} {record : OutboxRecord} (h : m.Shows record)
    {worker : NodeId} {generation : Nat} :
    m.phase = .leased worker generation ↔ record.state = .leased worker generation := by
  rw [← h.phase]
  cases m.phase <;> simp [Phase.render]

theorem Model.Shows.same {m : Model} {record : OutboxRecord} (h : m.Shows record)
    (hf : record.Fenced) (tokens : NodeId → Option Nat) (action : Action) (generation : Nat)
    (hfence : ({ m with tokens } : Model).requireFence action.worker = .ok () ↔
      record.state = .leased action.worker generation) :
    Same (fun next m => m.Shows next)
      ((action.revise generation record).mapError DomainError.reason)
      (({ m with tokens } : Model).execute action) := by
  have hfenced : (leaseFence record action.worker generation).mapError DomainError.reason =
      ({ m with tokens } : Model).requireFence action.worker := by
    rcases requireFence_cases { m with tokens } action.worker with hok | herror
    · rw [hok, leaseFence, require_of (hfence.mp hok)]
      rfl
    · have hother : ¬ record.state = .leased action.worker generation := by
        rw [← hfence, herror]
        rintro ⟨⟩
      rw [herror, leaseFence, require, if_neg hother]
      rfl
  have hattempt := h.attempt
  have hgeneration := h.leaseGeneration
  cases action with
  | lease worker =>
    have hpending : record.state = .pending ↔ m.phase = .pending := by
      rw [← h.phase]
      cases m.phase <;> simp [Phase.render]
    rw [Action.revise, OutboxRecord.lease, Model.execute, mapError_bind, mapError_require,
      require_congr hpending]
    refine (Same.refl _).bind fun _ _ _ _ => ?_
    rw [← hgeneration, checkedAdd_of_lt (hgeneration ▸ hf.leaseGeneration_lt)]
    refine .agreed ⟨hattempt, rfl, rfl, fun _ _ hleased => ?_⟩
    cases hleased
    exact Function.update_self ..
  | retry worker =>
    dsimp only [Action.worker] at hfenced
    rw [Action.revise, OutboxRecord.retry, Model.execute, mapError_bind, hfenced]
    refine (Same.refl _).bind fun _ _ _ _ => ?_
    rw [hattempt]
    split
    · exact .agreed ⟨rfl, hgeneration, rfl, by rintro _ _ ⟨⟩⟩
    · next hroom =>
      have hlimit : record.attempt < 32 := Nat.lt_of_not_le hroom
      rw [checkedAdd_of_lt (by omega)]
      exact .agreed ⟨rfl, hgeneration, rfl, by rintro _ _ ⟨⟩⟩
  | apply worker receipt =>
    dsimp only [Action.worker] at hfenced
    have happly : ∀ phase, m.phase = phase → Same (fun next m => m.Shows next)
        ((leaseFence record worker generation >>= fun _ =>
          pure { record with state := .applied receipt }).mapError DomainError.reason)
        (({ m with tokens, phase } : Model).requireFence worker >>= fun _ =>
          pure { m with tokens, phase := .applied receipt }) := by
      rintro _ rfl
      rw [mapError_bind, hfenced]
      exact (Same.refl _).bind fun _ _ _ _ => .agreed ⟨hattempt, hgeneration, rfl, by rintro _ _ ⟨⟩⟩
    rw [Action.revise, OutboxRecord.apply, Model.execute, ← h.phase]
    cases hphase : m.phase with
    | applied current =>
      dsimp only [Phase.render]
      split
      · refine .agreed ⟨hattempt, hgeneration, hphase ▸ h.phase, ?_⟩
        rw [← h.phase, hphase]
        rintro _ _ ⟨⟩
      · exact .failed _
    | pending | leased | deadLetter | attemptLimit => exact happly _ hphase
  | deadLetter worker reason =>
    dsimp only [Action.worker] at hfenced
    rw [Action.revise, OutboxRecord.deadLetter, Model.execute, mapError_bind, hfenced]
    exact (Same.refl _).bind fun _ _ _ _ => .agreed ⟨hattempt, hgeneration, rfl, by rintro _ _ ⟨⟩⟩

theorem Model.Shows.presented {m : Model} {record : OutboxRecord} (h : m.Shows record)
    (hf : record.Fenced) (action : Action) (generation : Nat) :
    Same (fun next m => m.Shows next)
      ((action.revise generation record).mapError DomainError.reason)
      ((m.presenting action.worker generation).execute action) := by
  refine h.same hf _ action generation ?_
  rw [requireFence_ok, ← h.leased]
  simp

theorem Model.Shows.held {m : Model} {record : OutboxRecord} (h : m.Shows record)
    (hf : record.Fenced) (action : Action) :
    Same (fun next m => m.Shows next)
      ((action.revise ((m.tokens action.worker).getD 0) record).mapError DomainError.reason)
      (m.execute action) := by
  refine h.same hf m.tokens action _ ?_
  rw [requireFence_ok]
  constructor
  · rintro ⟨generation, htoken, hphase⟩
    rw [htoken, ← h.phase, hphase]
    rfl
  · intro hleased
    have htoken := h.token _ _ hleased
    refine ⟨_, htoken, ?_⟩
    exact h.leased.mpr hleased

section

variable {h h' : History} {id : IntentId} {record : OutboxRecord} {m : Model}

theorem answer_named {action : Action} (hnamed : action.named) (id : IntentId)
    (generation : Nat) : action.answer h.state id generation =
      h.state.updateOutbox id (action.revise generation ·) := by
  cases action with
  | lease | apply | deadLetter => exact if_neg (by simpa [Action.named] using hnamed)
  | retry => rfl

theorem answer_unnamed {action : Action} (hnamed : ¬ action.named) (id : IntentId)
    (generation : Nat) :
    ∃ reason, action.answer h.state id generation = (.error (invalid reason), h.state) := by
  cases action with
  | lease | apply | deadLetter => exact ⟨_, if_pos (by simpa [Action.named] using hnamed)⟩
  | retry => exact absurd rfl hnamed

theorem agrees_of (hrecord : h.state.outbox.lookup id = some record) {action : Action}
    (hnamed : action.named) {generation : Nat} {outcome : Except String Model}
    (hsame : Same (fun next m => m.Shows next)
      ((action.revise generation record).mapError DomainError.reason) outcome) :
    Agrees id record (action.answer h.state id generation) outcome := by
  rw [Agrees, answer_named hnamed, (updateOutbox_lookup hrecord).1]
  exact ⟨hsame, (updateOutbox_lookup hrecord).2⟩

theorem perform_answer {op : Op} {target : IntentId} {generation : Nat} {action : Action}
    (hop : actionOf op = some (target, generation, action)) :
    (h.perform op).state = (action.answer h.state target generation).2 := by
  cases op with
  | lease | apply | retry | deadLetter =>
    cases hop
    rfl
  | bootstrap | prepare | commit | takeover => cases hop

theorem perform_other {op : Op} (hrecord : h.state.outbox.lookup id = some record)
    (hother : ∀ generation action, actionOf op ≠ some (id, generation, action)) :
    (h.perform op).state.outbox.lookup id = some record := by
  cases hop : actionOf op with
  | some call =>
    obtain ⟨target, generation, action⟩ := call
    rw [perform_answer hop]
    by_cases hnamed : action.named
    · rw [answer_named hnamed, updateOutbox_other, hrecord]
      rintro rfl
      exact hother generation action hop
    · obtain ⟨reason, hanswer⟩ := answer_unnamed (h := h) hnamed target generation
      rw [hanswer, hrecord]
  | none =>
    cases op with
    | lease | apply | retry | deadLetter => cases hop
    | prepare => exact hrecord
    | bootstrap =>
      simp only [History.perform, DurableState.exec, DurableState.bootstrap]
      split_ifs <;> exact hrecord
    | commit p =>
      simp only [History.perform, DurableState.exec, DurableState.commit]
      split
      · split <;> exact hrecord
      · split
        · exact hrecord
        · next receipt s' hstage =>
          obtain ⟨head, hst⟩ := stage_ok hstage
          have hlookup := hst.outbox id
          cases hf : p.intent.outbox.find? (·.id = id) with
          | none =>
            rw [hf] at hlookup
            exact hlookup.trans hrecord
          | some item =>
            have hid : item.id = id := by simpa using List.find?_some hf
            exact absurd (mem_of_lookup hrecord)
              (hid ▸ hst.fresh item (List.mem_of_find?_eq_some hf))
    | takeover =>
      simp only [History.perform, DurableState.exec, DurableState.takeover]
      (repeat' split) <;> exact hrecord

theorem follow_other {op : Op}
    (hother : ∀ generation action, actionOf op ≠ some (id, generation, action)) :
    m.follow id op = m := by
  rw [Model.follow]
  cases hop : actionOf op with
  | none => rfl
  | some call =>
    obtain ⟨target, generation, action⟩ := call
    refine if_neg ?_
    rintro ⟨rfl, -⟩
    exact hother generation action hop

theorem followed_step (hi : AllFenced h) (hrecord : h.state.outbox.lookup id = some record)
    (hshows : m.Shows record) (op : Op) :
    ∃ record', (h.perform op).state.outbox.lookup id = some record' ∧
      (m.follow id op).Shows record' := by
  by_cases hother : ∀ generation action, actionOf op ≠ some (id, generation, action)
  · rw [follow_other hother]
    exact ⟨record, perform_other hrecord hother, hshows⟩
  · push Not at hother
    obtain ⟨generation, action, hop⟩ := hother
    rw [perform_answer hop, Model.follow, hop]
    by_cases hnamed : action.named
    · dsimp only
      rw [if_pos ⟨rfl, hnamed⟩, answer_named hnamed, (updateOutbox_lookup hrecord).2]
      refine ⟨_, rfl, ?_⟩
      have hsame := hshows.presented (hi id record hrecord) action generation
      generalize (m.presenting action.worker generation).execute action = outcome at hsame ⊢
      cases hu : action.revise generation record with
      | error e =>
        rw [hu] at hsame
        cases hsame
        exact hshows
      | ok record' =>
        rw [hu] at hsame
        cases hsame with
        | agreed hnext => exact hnext
    · obtain ⟨reason, hanswer⟩ := answer_unnamed (h := h) hnamed id generation
      dsimp only
      rw [if_neg fun hboth => hnamed hboth.2, hanswer]
      exact ⟨record, hrecord, hshows⟩

theorem followed_run (hi : AllFenced h) (hrecord : h.state.outbox.lookup id = some record)
    (hshows : m.Shows record) {ops : List Op} (hrun : Run store h ops h') :
    ∃ record', h'.state.outbox.lookup id = some record' ∧
      (ops.foldl (Model.follow id) m).Shows record' := by
  suffices AllFenced h' ∧ ∃ record', h'.state.outbox.lookup id = some record' ∧
      (ops.foldl (Model.follow id) m).Shows record' from this.2
  induction hrun with
  | nil => exact ⟨hi, record, hrecord, hshows⟩
  | snoc _ hstep ih =>
    obtain ⟨hk, current, hcurrent, hfollowed⟩ := ih
    refine ⟨allFenced_step _ _ _ hk hstep, ?_⟩
    obtain ⟨-, rfl⟩ := hstep
    rw [List.foldl_concat]
    exact followed_step hk hcurrent hfollowed _

theorem lockStep (hi : AllFenced h) (hrecord : h.state.outbox.lookup id = some record)
    (hshows : m.Shows record) : LockStep h id record m where
  held action hnamed := agrees_of hrecord hnamed (hshows.held (hi id record hrecord) action)
  presented action generation hnamed :=
    agrees_of hrecord hnamed (hshows.presented (hi id record hrecord) action generation)
  unnamed _ generation hnamed := answer_unnamed hnamed id generation
  followed _ _ hrun := followed_run hi hrecord hshows hrun
  others _ hother := ⟨follow_other hother, perform_other hrecord hother⟩

theorem created_shows {op : Op} (hop : op.Admissible) (hnone : h.state.outbox.lookup id = none)
    (hrecord : (h.perform op).state.outbox.lookup id = some record) :
    Model.default.Shows record := by
  rcases (perform_change h op hop).record id with ⟨-, entity, command, item, hnew⟩ | ⟨-, hnone'⟩ |
    ⟨before, -, hbefore, -, -⟩
  · cases hnew.symm.trans hrecord
    exact default_shows entity command item
  · cases hnone'.symm.trans hrecord
  · cases hbefore.symm.trans hnone

end

end OutboxModel

theorem outbox_worker_protocol {h : History} (hr : Reachable store h) :
    (∀ id record, h.state.outbox.lookup id = some record →
      record.leaseGeneration =
        (if record.state = .pending then record.attempt else record.attempt + 1) ∧
      record.attempt ≤ 32) ∧
    (∀ id owner, (h.state.lease id owner).1 ≠ .error overflow) ∧
    (∀ id record, h.state.outbox.lookup id = some record → record.state.Terminal →
      ∀ h' ops, Run store h ops h' → h'.state.outbox.lookup id = some record) ∧
    (∀ op target owner generation, op.finishing = some (target, owner, generation) →
      ∀ id record, h.state.outbox.lookup id = some record →
        (h.perform op).state.outbox.lookup id ≠ some record →
        id = target ∧ record.state = .leased owner generation) ∧
    (∀ id op record, op.Admissible → h.state.outbox.lookup id = none →
      (h.perform op).state.outbox.lookup id = some record →
      OutboxModel.Model.default.Shows record) ∧
    ∀ id record (m : OutboxModel.Model), h.state.outbox.lookup id = some record →
      m.Shows record → OutboxModel.LockStep h id record m := by
  have hi := allFenced_of_reachable hr
  refine ⟨fun id record hrecord => ?_, lease_no_overflow hi, ?_, ?_,
    fun _ _ _ => OutboxModel.created_shows, fun _ _ _ => OutboxModel.lockStep hi⟩
  · exact ⟨(hi id record hrecord).generation, (hi id record hrecord).attempt⟩
  · exact fun id record hrecord ht h' ops hrun => run_terminal hrun hrecord ht
  · exact fun op target owner generation hop id record => finishing_leased hop

def sampleWorker : NodeId := ⟨Vector.replicate 16 11⟩

def sampleLeased : History := sampleCommitted.perform (.lease sampleIntentId sampleWorker)

def sampleApplied : History :=
  sampleLeased.perform (.apply sampleIntentId sampleWorker 1 (sampleDigest 70))

def sampleRecord (state : OutboxState) : OutboxRecord :=
  ⟨sampleIntentId, sampleEntity, sampleIntent.command, .externalEffect, sampleDigest 8, 0, 1, state⟩

def sampleModel : OutboxModel.Model :=
  OutboxModel.Model.default.follow sampleIntentId (.lease sampleIntentId sampleWorker)

theorem outbox_worker_protocol_sample :
    OutboxModel.LockStep sampleLeased sampleIntentId (sampleRecord (.leased sampleWorker 1))
        sampleModel ∧
      (sampleLeased.state.retry sampleIntentId sampleWorker 0).1 = .error outboxLeaseMismatch ∧
      sampleApplied.state.outbox.lookup sampleIntentId =
        some (sampleRecord (.applied (sampleDigest 70))) ∧
      ∀ h' ops, Run store sampleApplied ops h' →
        h'.state.outbox.lookup sampleIntentId =
          some (sampleRecord (.applied (sampleDigest 70))) := by
  have hleased : Reachable store sampleLeased :=
    reachable_perform sample_committed_reachable trivial
  have happlied : Reachable store sampleApplied := reachable_perform hleased trivial
  have hfinished : sampleApplied.state.outbox.lookup sampleIntentId =
      some (sampleRecord (.applied (sampleDigest 70))) := by
    decide
  obtain ⟨-, -, -, -, -, hlockStep⟩ := outbox_worker_protocol hleased
  obtain ⟨-, -, hterminal, -⟩ := outbox_worker_protocol happlied
  refine ⟨hlockStep _ _ _ (by decide) ⟨rfl, rfl, rfl, ?_⟩, by decide, hfinished,
    hterminal _ _ hfinished trivial⟩
  intro owner generation hstate
  cases hstate
  rfl

end Persistence
