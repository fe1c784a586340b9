import Mathlib.Order.Interval.Finset.Nat
import TrillionniumGame.Foundation.Runs
import TrillionniumGame.Persistence.DurableState

namespace Persistence
open Checks FiniteMap Runs

inductive Op where
  | bootstrap (entity : EntityId) (authorityGeneration : Nat) (state : Digest32)
  | prepare (intent : CommandIntent)
  | commit (prepared : PreparedCommit)
  | takeover (entity : EntityId) (expectedGeneration : Nat)
  | lease (id : IntentId) (owner : NodeId)
  | apply (id : IntentId) (owner : NodeId) (generation : Nat) (receipt : Digest32)
  | retry (id : IntentId) (owner : NodeId) (generation : Nat)
  | deadLetter (id : IntentId) (owner : NodeId) (generation : Nat) (reason : Digest32)

def DurableState.exec (s : DurableState) : Op → DurableState
  | .bootstrap entity generation state => (s.bootstrap entity generation state).2
  | .prepare _ => s
  | .commit prepared => (s.commit prepared).2
  | .takeover entity generation => (s.takeover entity generation).2
  | .lease id owner => (s.lease id owner).2
  | .apply id owner generation receipt => (s.apply id owner generation receipt).2
  | .retry id owner generation => (s.retry id owner generation).2
  | .deadLetter id owner generation reason => (s.deadLetter id owner generation reason).2

-- The fields of `PreparedCommit` are private to the crate: a caller can only hold one that
-- some store's `prepare` returned.
def PreparedCommit.Issued (prepared : PreparedCommit) : Prop :=
  ∃ (s : DurableState) (intent : CommandIntent), s.prepare intent = .ok (.prepared prepared)

def Op.Admissible : Op → Prop
  | .commit prepared => prepared.Issued
  | _ => True

structure History where
  state : DurableState
  bootstrapped : EntityId → Option Digest32

def History.empty : History := ⟨.empty, fun _ => none⟩

def History.perform (h : History) (op : Op) : History where
  state := h.state.exec op
  bootstrapped := match op with
    | .bootstrap entity generation state =>
      if (h.state.bootstrap entity generation state).1.toBool then
        Function.update h.bootstrapped entity (some state)
      else h.bootstrapped
    | _ => h.bootstrapped

def store : System History Op where
  init h := h = .empty
  step h op h' := op.Admissible ∧ h' = h.perform op

theorem reachable_perform {h : History} (hr : Reachable store h) {op : Op} (hop : op.Admissible) :
    Reachable store (h.perform op) :=
  hr.run (Run.single ⟨hop, rfl⟩)

theorem sequenceAfter_ok {last count : Nat} {first : Option Nat}
    (h : DurableState.sequenceAfter last count = .ok first) :
    first = if count = 0 then none else some (last + 1) := by
  unfold DurableState.sequenceAfter at h
  split at h
  · next hz =>
    cases h
    simp [hz]
  · next hz =>
    cases hc : checkedAdd last 1 with
    | none => simp [hc, fetch, Except.map] at h
    | some next =>
      obtain ⟨_, rfl⟩ := checkedAdd_some.mp hc
      simp only [hc, fetch, Option.elim, Except.map, Except.ok.injEq] at h
      simp [hz, ← h]

variable {s : DurableState} {intent : CommandIntent} {p : PreparedCommit}

theorem prepare_prepared (h : s.prepare intent = .ok (.prepared p)) :
    validateIntent intent = .ok () ∧
    s.commands.lookup (intent.entity, intent.command) = none ∧
    ∃ head, s.entities.lookup intent.entity = some head ∧
      head.authorityGeneration = intent.authorityGeneration ∧
      head.revision = intent.expectedRevision ∧
      head.revision + 1 < 2 ^ 64 ∧
      head.lastSequence + intent.events.length < 2 ^ 64 ∧
      p = ⟨intent, head.revision + 1,
        if intent.events.length = 0 then none else some (head.lastSequence + 1),
        head.lastSequence + intent.events.length⟩ := by
  simp only [DurableState.prepare, bind_ok] at h
  obtain ⟨_, hv, h⟩ := h
  cases hc : s.commands.lookup (intent.entity, intent.command) with
  | some receipt =>
    simp only [hc, bind_ok] at h
    obtain ⟨_, _, h⟩ := h
    cases h
  | none =>
    simp only [hc, bind_ok, fence, require_ok, fetch_ok, checkedAdd_some] at h
    obtain ⟨head, hh, _, ⟨_, hg, hr⟩, _, _, next, ⟨hnext, rfl⟩, last, ⟨hlt, rfl⟩, first, hf, h⟩ := h
    refine ⟨hv, rfl, head, hh, hg, hr, hnext, hlt, ?_⟩
    cases h
    rw [sequenceAfter_ok hf]

def storedEvent (command : CommandId) (item : EventInput) : StoredEvent :=
  ⟨item.id, item.payload, command⟩

variable {entity : EntityId} {command : CommandId} {sequence : Nat}
  {events : Dict (EntityId × Nat) StoredEvent}

theorem insertEvents_ok {items : List EventInput} {last : Nat}
    {events' : Dict (EntityId × Nat) StoredEvent}
    (h : DurableState.insertEvents entity command items sequence events = .ok (last, events')) :
    last = sequence + items.length ∧
    ∀ key, events'.lookup key =
      if key.1 = entity ∧ sequence < key.2 ∧ key.2 ≤ sequence + items.length then
        (items[key.2 - sequence - 1]?).map fun item => ⟨item.id, item.payload, command⟩
      else events.lookup key := by
  induction items generalizing sequence events with
  | nil =>
    cases h
    refine ⟨rfl, fun key => ?_⟩
    rw [if_neg (by simp only [List.length_nil]; omega)]
  | cons item rest ih =>
    simp only [DurableState.insertEvents, bind_ok, fetch_ok, checkedAdd_some, require_ok] at h
    obtain ⟨next, ⟨_, rfl⟩, _, hfree, h⟩ := h
    obtain ⟨hlast, hlookup⟩ := ih h
    refine ⟨by simp only [List.length_cons]; omega, fun key => ?_⟩
    rw [hlookup key, lookup_insert_ite]
    obtain ⟨e, n⟩ := key
    simp only [Prod.mk.injEq, List.length_cons]
    by_cases he : e = entity
    · simp only [he, true_and]
      rcases Nat.lt_trichotomy n (sequence + 1) with hn | hn | hn
      · rw [if_neg (by omega), if_neg (by omega), if_neg (by omega)]
      · rw [if_neg (by omega), if_pos hn, if_pos (by omega)]
        simp [hn]
      · by_cases hle : n ≤ sequence + 1 + rest.length
        · rw [if_pos ⟨hn, hle⟩, if_pos (by omega)]
          have : n - sequence - 1 = (n - (sequence + 1) - 1) + 1 := by omega
          rw [this, List.getElem?_cons_succ]
        · rw [if_neg (by omega), if_neg (by omega), if_neg (by omega)]
    · simp [he]

theorem insertEvents_exists (command : CommandId) {items : List EventInput}
    (hfree : ∀ n, sequence < n → (entity, n) ∉ events) (hlt : sequence + items.length < 2 ^ 64) :
    ∃ last events',
      DurableState.insertEvents entity command items sequence events = .ok (last, events') := by
  induction items generalizing sequence events with
  | nil => exact ⟨sequence, events, rfl⟩
  | cons item rest ih =>
    simp only [List.length_cons] at hlt
    have hone : sequence + 1 < 2 ^ 64 := by omega
    have hfree' : ∀ n, sequence + 1 < n →
        (entity, n) ∉ events.insert (entity, sequence + 1) (storedEvent command item) := by
      intro n hn
      simp only [Finmap.mem_insert, Prod.mk.injEq, not_or]
      exact ⟨by omega, hfree n (by omega)⟩
    obtain ⟨last, events', hrest⟩ := ih hfree' (by omega)
    refine ⟨last, events', ?_⟩
    simp only [DurableState.insertEvents, bind_ok, fetch_ok, require_ok]
    exact ⟨_, checkedAdd_of_lt hone, (), hfree _ (by omega), hrest⟩

def freshRecord (entity : EntityId) (command : CommandId) (item : OutboxInput) : OutboxRecord :=
  ⟨item.id, entity, command, item.kind, item.payload, 0, 0, .pending⟩

variable {items : List OutboxInput} {outbox : Dict IntentId OutboxRecord}

theorem insertOutbox_ok {outbox' : Dict IntentId OutboxRecord} {ids : List IntentId}
    (h : DurableState.insertOutbox entity command items outbox = .ok (ids, outbox')) :
    ids = items.map (·.id) ∧ ids.Nodup ∧ (∀ id ∈ ids, id ∉ outbox) ∧
    ∀ id, outbox'.lookup id =
      match items.find? (·.id = id) with
      | some item => some (freshRecord entity command item)
      | none => outbox.lookup id := by
  induction items generalizing outbox ids with
  | nil =>
    cases h
    exact ⟨rfl, List.nodup_nil, by simp, fun id => rfl⟩
  | cons item rest ih =>
    simp only [DurableState.insertOutbox, bind_ok, require_ok, Prod.exists] at h
    obtain ⟨_, hfree, ids', out', hrest, h⟩ := h
    cases h
    obtain ⟨hids, hnodup, hnew, hlookup⟩ := ih hrest
    have hitem : item.id ∉ ids' := fun hmem => hnew _ hmem (by simp)
    refine ⟨by rw [hids, List.map_cons], List.nodup_cons.mpr ⟨hitem, hnodup⟩, ?_, fun id => ?_⟩
    · intro id hid
      rcases List.mem_cons.mp hid with rfl | hid
      · exact hfree
      · exact fun hmem => hnew id hid (by simp [hmem])
    · rw [hlookup id, List.find?_cons, lookup_insert_ite]
      by_cases hid : item.id = id
      · subst hid
        have hnone : rest.find? (·.id = item.id) = none := by
          rw [List.find?_eq_none]
          intro x hx
          have : x.id ∈ ids' := hids ▸ List.mem_map_of_mem hx
          simpa using fun he : x.id = item.id => hitem (he ▸ this)
        simp [hnone, freshRecord]
      · simp [hid, Ne.symm hid]

theorem insertOutbox_exists (entity : EntityId) (command : CommandId)
    (hnodup : (items.map (·.id)).Nodup) (hfree : ∀ item ∈ items, item.id ∉ outbox) :
    ∃ ids outbox', DurableState.insertOutbox entity command items outbox = .ok (ids, outbox') := by
  induction items generalizing outbox with
  | nil => exact ⟨[], outbox, rfl⟩
  | cons item rest ih =>
    simp only [List.map_cons, List.nodup_cons, List.mem_map, not_exists, not_and] at hnodup
    have hfree' : ∀ x ∈ rest, x.id ∉ outbox.insert item.id (freshRecord entity command item) := by
      intro x hx
      simp only [Finmap.mem_insert, not_or]
      exact ⟨hnodup.1 x hx, hfree x (List.mem_cons_of_mem _ hx)⟩
    obtain ⟨ids, outbox', hrest⟩ := ih hnodup.2 hfree'
    refine ⟨item.id :: ids, outbox', ?_⟩
    simp only [DurableState.insertOutbox, bind_ok, require_ok, Prod.exists]
    exact ⟨(), hfree item List.mem_cons_self, ids, outbox', hrest, rfl⟩

theorem uniqueIntents_ok {seen : List IntentId} (h : uniqueIntents items seen = .ok ()) :
    (items.map (·.id)).Nodup ∧ ∀ item ∈ items, item.id ∉ seen := by
  induction items generalizing seen with
  | nil => simp
  | cons item rest ih =>
    simp only [uniqueIntents, bind_ok, require_ok] at h
    obtain ⟨_, ⟨_, _, hitem⟩, hrest⟩ := h
    obtain ⟨hnodup, hseen⟩ := ih hrest
    refine ⟨List.nodup_cons.mpr ⟨?_, hnodup⟩, ?_⟩
    · intro hmem
      obtain ⟨x, hx, he⟩ := List.mem_map.mp hmem
      exact hseen x hx (by simp [he])
    · intro x hx
      rcases List.mem_cons.mp hx with rfl | hx
      · exact hitem
      · exact fun hmem => hseen x hx (List.mem_cons_of_mem _ hmem)

theorem validateIntent_nodup (h : validateIntent intent = .ok ()) :
    (intent.outbox.map (·.id)).Nodup := by
  simp only [validateIntent, bind_ok] at h
  obtain ⟨_, _, _, _, _, _, _, _, _, _, hu⟩ := h
  exact (uniqueIntents_ok hu).1

structure Staged (s : DurableState) (p : PreparedCommit) (head : EntityHead) (receipt : Receipt)
    (s' : DurableState) : Prop where
  lookup : s.entities.lookup p.intent.entity = some head
  generation : head.authorityGeneration = p.intent.authorityGeneration
  expected : head.revision = p.intent.expectedRevision
  revision : head.revision + 1 = p.nextRevision
  lastSequence : head.lastSequence + p.intent.events.length = p.lastSequence
  receipt_eq : receipt = ⟨p.intent.entity, p.intent.command, p.intent.fingerprint, p.nextRevision,
    p.intent.nextState, p.firstSequence, p.lastSequence, p.intent.events.length,
    p.intent.outbox.map (·.id)⟩
  nodup : (p.intent.outbox.map (·.id)).Nodup
  fresh : ∀ item ∈ p.intent.outbox, item.id ∉ s.outbox
  entities : s'.entities = s.entities.insert p.intent.entity
    ⟨p.nextRevision, p.lastSequence, p.intent.authorityGeneration, p.intent.nextState⟩
  commands : s'.commands = s.commands.insert (p.intent.entity, p.intent.command) receipt
  events : ∀ key, s'.events.lookup key =
    if key.1 = p.intent.entity ∧ head.lastSequence < key.2 ∧ key.2 ≤ p.lastSequence then
      (p.intent.events[key.2 - head.lastSequence - 1]?).map (storedEvent p.intent.command)
    else s.events.lookup key
  outbox : ∀ id, s'.outbox.lookup id =
    match p.intent.outbox.find? (·.id = id) with
    | some item => some (freshRecord p.intent.entity p.intent.command item)
    | none => s.outbox.lookup id

variable {receipt : Receipt} {s' : DurableState}

theorem stage_ok (h : s.stage p = .ok (receipt, s')) : ∃ head, Staged s p head receipt s' := by
  simp only [DurableState.stage, bind_ok, fence, require_ok, fetch_ok, checkedAdd_some,
    Prod.exists] at h
  obtain ⟨head, hh, _, ⟨_, hg, hr⟩, _, ⟨_, rfl⟩, _, hnext, _, hfree, last, events, hev, _, hlast,
    ids, outbox, hout, h⟩ := h
  cases h
  obtain ⟨hlen, hevents⟩ := insertEvents_ok hev
  obtain ⟨hids, hnodup, _, houtbox⟩ := insertOutbox_ok hout
  subst hids
  have hsum : head.lastSequence + p.intent.events.length = p.lastSequence := hlen ▸ hlast
  exact ⟨head, hh, hg, hr, hnext, hsum, rfl, hnodup, hfree, rfl, rfl,
    fun key => by rw [hevents key, hsum]; rfl, houtbox⟩

theorem Staged.mem_outbox {head : EntityHead} (h : Staged s p head receipt s') (id : IntentId) :
    id ∈ s'.outbox ↔ id ∈ receipt.outbox ∨ id ∈ s.outbox := by
  rw [Finmap.mem_iff, h.outbox id, h.receipt_eq]
  cases hf : p.intent.outbox.find? (·.id = id) with
  | some item =>
    have hid : item.id = id := by simpa using List.find?_some hf
    have hmem : id ∈ p.intent.outbox.map (·.id) :=
      hid ▸ List.mem_map_of_mem (List.mem_of_find?_eq_some hf)
    simp only [hmem, true_or, iff_true]
    exact ⟨_, rfl⟩
  | none =>
    have hmem : id ∉ p.intent.outbox.map (·.id) := by
      intro hmem
      obtain ⟨item, hi, he⟩ := List.mem_map.mp hmem
      simpa [he] using List.find?_eq_none.mp hf item hi
    simp only [hmem, false_or, Finmap.mem_iff]

inductive OutboxRecord.Move (record : OutboxRecord) : OutboxRecord → Prop
  | same : Move record record
  | lease (owner : NodeId) : record.state = .pending → record.leaseGeneration + 1 < 2 ^ 64 →
      Move record
        { record with
          leaseGeneration := record.leaseGeneration + 1
          state := .leased owner (record.leaseGeneration + 1) }
  | apply (owner : NodeId) (generation : Nat) (receipt : Digest32) :
      record.state = .leased owner generation →
      Move record { record with state := .applied receipt }
  | release (owner : NodeId) (generation : Nat) : record.state = .leased owner generation →
      record.attempt < maxAttempts →
      Move record { record with attempt := record.attempt + 1, state := .pending }
  | limit (owner : NodeId) (generation : Nat) : record.state = .leased owner generation →
      maxAttempts ≤ record.attempt →
      Move record { record with state := .deadLetter outboxAttemptLimitReason }
  | deadLetter (owner : NodeId) (generation : Nat) (reason : Digest32) :
      record.state = .leased owner generation →
      Move record { record with state := .deadLetter reason }

variable {record record' : OutboxRecord}

theorem OutboxRecord.Move.keeps (h : record.Move record') :
    record'.id = record.id ∧ record'.entity = record.entity ∧
      record'.command = record.command := by
  cases h <;> exact ⟨rfl, rfl, rfl⟩

variable {owner : NodeId}

theorem lease_move (h : record.lease owner = .ok record') : record.Move record' := by
  simp only [OutboxRecord.lease, bind_ok, require_ok, fetch_ok, checkedAdd_some] at h
  obtain ⟨_, hp, _, ⟨hlt, rfl⟩, h⟩ := h
  cases h
  exact .lease owner hp hlt

variable {generation : Nat}

theorem apply_move {receipt : Digest32} (h : record.apply owner generation receipt = .ok record') :
    record' = record ∨ record.state = .leased owner generation ∧ record.Move record' := by
  unfold OutboxRecord.apply at h
  split at h
  · split at h
    · cases h
      exact .inl rfl
    · cases h
  · simp only [leaseFence, bind_ok, require_ok] at h
    obtain ⟨_, hl, h⟩ := h
    cases h
    exact .inr ⟨hl, .apply owner generation receipt hl⟩

theorem retry_move (h : record.retry owner generation = .ok record') :
    record.state = .leased owner generation ∧ record.Move record' := by
  simp only [OutboxRecord.retry, leaseFence, bind_ok, require_ok] at h
  obtain ⟨_, hl, h⟩ := h
  refine ⟨hl, ?_⟩
  split at h
  · next hle =>
    cases h
    exact .limit owner generation hl hle
  · next hlt =>
    simp only [bind_ok, fetch_ok, checkedAdd_some] at h
    obtain ⟨_, ⟨_, rfl⟩, h⟩ := h
    cases h
    exact .release owner generation hl (not_le.mp hlt)

theorem deadLetter_move {reason : Digest32}
    (h : record.deadLetter owner generation reason = .ok record') :
    record.state = .leased owner generation ∧ record.Move record' := by
  simp only [OutboxRecord.deadLetter, leaseFence, bind_ok, require_ok] at h
  obtain ⟨_, hl, h⟩ := h
  cases h
  exact ⟨hl, .deadLetter owner generation reason hl⟩

inductive Change (h : History) : History → Prop
  | same : Change h h
  | bootstrap (entity : EntityId) (generation : Nat) (state : Digest32) :
      h.state.entities.lookup entity = none →
      Change h
        { state := { h.state with
            entities := h.state.entities.insert entity ⟨0, 0, generation, state⟩ }
          bootstrapped := Function.update h.bootstrapped entity (some state) }
  | commit (p : PreparedCommit) (head : EntityHead) (receipt : Receipt) (s' : DurableState) :
      p.Issued → h.state.commands.lookup (p.intent.entity, p.intent.command) = none →
      Staged h.state p head receipt s' → Change h { h with state := s' }
  | takeover (entity : EntityId) (head : EntityHead) :
      h.state.entities.lookup entity = some head →
      Change h
        { h with
          state := { h.state with
            entities := h.state.entities.insert entity
              { head with authorityGeneration := head.authorityGeneration + 1 } } }
  | outbox (id : IntentId) (record record' : OutboxRecord) :
      h.state.outbox.lookup id = some record → record.Move record' →
      Change h { h with state := { h.state with outbox := h.state.outbox.insert id record' } }

theorem updateOutbox_change (h : History) {id : IntentId}
    {update : OutboxRecord → Except DomainError OutboxRecord}
    (hmove : ∀ record record', update record = .ok record' → record.Move record') :
    Change h { h with state := (h.state.updateOutbox id update).2 } := by
  unfold DurableState.updateOutbox
  cases hl : h.state.outbox.lookup id with
  | none => exact .same
  | some record =>
    cases hu : update record with
    | error e => simpa [hu] using Change.same
    | ok record' => simpa [hu] using Change.outbox id record record' hl (hmove record record' hu)

theorem bootstrap_cases (s : DurableState) (entity : EntityId) (generation : Nat)
    (state : Digest32) :
    (∃ e, s.bootstrap entity generation state = (.error e, s)) ∨
    (s.entities.lookup entity = none ∧
      s.bootstrap entity generation state = (.ok ⟨0, 0, generation, state⟩,
        { s with entities := s.entities.insert entity ⟨0, 0, generation, state⟩ })) := by
  unfold DurableState.bootstrap
  split_ifs with _ _ hmem
  · exact .inl ⟨_, rfl⟩
  · exact .inl ⟨_, rfl⟩
  · exact .inl ⟨_, rfl⟩
  · exact .inr ⟨Finmap.lookup_eq_none.mpr hmem, rfl⟩

theorem perform_change (h : History) (op : Op) (hop : op.Admissible) :
    Change h (h.perform op) := by
  cases op with
  | bootstrap entity generation state =>
    simp only [History.perform, DurableState.exec]
    rcases bootstrap_cases h.state entity generation state with ⟨e, hb⟩ | ⟨hnone, hb⟩
    · simpa [hb, Except.toBool] using Change.same
    · simpa [hb, Except.toBool] using Change.bootstrap entity generation state hnone
  | prepare intent => exact .same
  | commit p =>
    simp only [History.perform, DurableState.exec, DurableState.commit]
    cases hc : h.state.commands.lookup (p.intent.entity, p.intent.command) with
    | some receipt => by_cases he : receipt.fingerprint = p.intent.fingerprint <;>
        simpa [he] using Change.same
    | none =>
      cases hs : h.state.stage p with
      | error e => simpa [hs] using Change.same
      | ok result =>
        obtain ⟨receipt, s'⟩ := result
        obtain ⟨head, hst⟩ := stage_ok hs
        simpa [hs] using Change.commit p head receipt s' hop hc hst
  | takeover entity generation =>
    simp only [History.perform, DurableState.exec, DurableState.takeover]
    cases hl : h.state.entities.lookup entity with
    | none => exact .same
    | some head =>
      by_cases hg : head.authorityGeneration = generation
      · subst hg
        cases ha : checkedAdd head.authorityGeneration 1 with
        | none => simpa [ha] using Change.same
        | some next =>
          obtain ⟨_, rfl⟩ := checkedAdd_some.mp ha
          simpa [ha] using Change.takeover entity head hl
      · simpa [hg] using Change.same
  | lease id owner =>
    simp only [History.perform, DurableState.exec, DurableState.lease]
    split
    · exact .same
    · exact updateOutbox_change h fun _ _ => lease_move
  | apply id owner generation receipt =>
    simp only [History.perform, DurableState.exec, DurableState.apply]
    split
    · exact .same
    · refine updateOutbox_change h fun record record' hu => ?_
      rcases apply_move hu with rfl | ⟨_, hmove⟩
      · exact .same
      · exact hmove
  | retry id owner generation =>
    exact updateOutbox_change h fun _ _ hu => (retry_move hu).2
  | deadLetter id owner generation reason =>
    simp only [History.perform, DurableState.exec, DurableState.deadLetter]
    split
    · exact .same
    · exact updateOutbox_change h fun _ _ hu => (deadLetter_move hu).2

end Persistence
