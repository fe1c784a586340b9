import TrillionniumGame.Persistence.CommitLog

namespace Persistence
open Checks FiniteMap Runs

def Receipt.Follows (receipt : Receipt) (last : Nat) : Prop :=
  receipt.firstSequence = (if receipt.eventCount = 0 then none else some (last + 1)) ∧
  receipt.lastSequence = last + receipt.eventCount

def Covers : Nat → List Receipt → Nat → Prop
  | last, [], upto => last = upto
  | last, receipt :: rest, upto => receipt.Follows last ∧ Covers receipt.lastSequence rest upto

theorem Covers.snoc {log : List Receipt} {last mid : Nat} {receipt : Receipt}
    (h : Covers last log mid) (hr : receipt.Follows mid) :
    Covers last (log ++ [receipt]) receipt.lastSequence := by
  induction log generalizing last with
  | nil =>
    cases h
    exact ⟨hr, rfl⟩
  | cons first rest ih => exact ⟨h.1, ih h.2⟩

def DurableState.receiptCount (s : DurableState) (entity : EntityId) : Nat :=
  (s.commands.keys.filter fun key => key.1 = entity).card

structure EntityLog (s : DurableState) (entity : EntityId) (start : Digest32) (head : EntityHead)
    (log : List Receipt) : Prop where
  mem : ∀ receipt, receipt ∈ log ↔
    ∃ command, s.commands.lookup (entity, command) = some receipt
  revisions : log.map (·.revision) = List.range' 1 head.revision
  covers : Covers 0 log head.lastSequence
  state : head.state = (log.getLast?.map (·.state)).getD start
  events : ∀ sequence, (entity, sequence) ∈ s.events ↔ 1 ≤ sequence ∧ sequence ≤ head.lastSequence
  count : s.receiptCount entity = head.revision

structure Integrity (h : History) : Prop where
  present : ∀ entity head, h.state.entities.lookup entity = some head →
    ∃ start log, h.bootstrapped entity = some start ∧ EntityLog h.state entity start head log
  absent : ∀ entity, h.state.entities.lookup entity = none →
    h.bootstrapped entity = none ∧ (∀ command, h.state.commands.lookup (entity, command) = none) ∧
    ∀ sequence, (entity, sequence) ∉ h.state.events
  keyed : ∀ key receipt, h.state.commands.lookup key = some receipt →
    receipt.entity = key.1 ∧ receipt.command = key.2
  nodup : ∀ key receipt, h.state.commands.lookup key = some receipt → receipt.outbox.Nodup
  listed : ∀ id record, h.state.outbox.lookup id = some record → record.id = id ∧
    ∃ receipt, h.state.commands.lookup (record.entity, record.command) = some receipt ∧
      id ∈ receipt.outbox
  stored : ∀ key receipt id, h.state.commands.lookup key = some receipt → id ∈ receipt.outbox →
    ∃ record, h.state.outbox.lookup id = some record ∧ (record.entity, record.command) = key

variable {s s' : DurableState} {entity : EntityId} {start : Digest32} {head head' : EntityHead}
  {log : List Receipt}

theorem EntityLog.congr (h : EntityLog s entity start head log)
    (hcommands : s'.commands = s.commands) (hevents : s'.events = s.events)
    (hrevision : head'.revision = head.revision) (hlast : head'.lastSequence = head.lastSequence)
    (hstate : head'.state = head.state) : EntityLog s' entity start head' log := by
  constructor
  · simpa only [hcommands] using h.mem
  · simpa only [hrevision] using h.revisions
  · simpa only [hlast] using h.covers
  · simpa only [hstate] using h.state
  · simpa only [hevents, hlast] using h.events
  · simpa only [DurableState.receiptCount, hcommands, hrevision] using h.count

theorem Integrity.empty : Integrity .empty := by
  constructor <;> simp [History.empty, DurableState.empty, Finmap.notMem_empty]

variable {p : PreparedCommit}

theorem PreparedCommit.Issued.firstSequence (h : p.Issued) {last : Nat}
    (hlast : last + p.intent.events.length = p.lastSequence) :
    p.firstSequence = if p.intent.events.length = 0 then none else some (last + 1) := by
  obtain ⟨s, intent, hp⟩ := h
  obtain ⟨_, _, head, _, _, _, _, _, rfl⟩ := prepare_prepared hp
  have : last = head.lastSequence := by simpa using hlast
  rw [this]

variable {receipt : Receipt}

section

variable (h : Staged s p head receipt s')
include h

theorem Staged.follows (hp : p.Issued) : receipt.Follows head.lastSequence := by
  rw [h.receipt_eq]
  exact ⟨hp.firstSequence h.lastSequence, h.lastSequence.symm⟩

theorem Staged.mem_events (key : EntityId × Nat) :
    key ∈ s'.events ↔ (key.1 = p.intent.entity ∧ head.lastSequence < key.2 ∧
      key.2 ≤ p.lastSequence) ∨ key ∈ s.events := by
  rw [Finmap.mem_iff, h.events key]
  split
  · next hin =>
    have hlt : key.2 - head.lastSequence - 1 < p.intent.events.length := by
      have := h.lastSequence
      omega
    simp [hin, List.getElem?_eq_getElem hlt]
  · next hout => simp [hout, Finmap.mem_iff]

theorem Staged.entityLog (hp : p.Issued)
    (hnew : s.commands.lookup (p.intent.entity, p.intent.command) = none)
    (hlog : EntityLog s p.intent.entity start head log) : EntityLog s' p.intent.entity start
      ⟨p.nextRevision, p.lastSequence, p.intent.authorityGeneration, p.intent.nextState⟩
      (log ++ [receipt]) := by
  constructor
  · intro r
    rw [h.commands]
    simp only [List.mem_append, List.mem_singleton, hlog.mem, lookup_insert_ite, Prod.mk.injEq,
      true_and]
    constructor
    · rintro (⟨command, hc⟩ | rfl)
      · have hne : command ≠ p.intent.command := by
          rintro rfl
          simp [hnew] at hc
        exact ⟨command, by simpa [hne] using hc⟩
      · exact ⟨p.intent.command, by simp⟩
    · rintro ⟨command, hc⟩
      split at hc
      · exact .inr (Option.some.inj hc).symm
      · exact .inl ⟨command, hc⟩
  · have hrev : receipt.revision = 1 + head.revision := by
      rw [h.receipt_eq, ← h.revision, Nat.add_comm]
    rw [List.map_append, hlog.revisions, ← h.revision, List.range'_concat]
    simp [hrev]
  · have hlast : receipt.lastSequence = p.lastSequence := by rw [h.receipt_eq]
    rw [← hlast]
    exact hlog.covers.snoc (h.follows hp)
  · simp [h.receipt_eq]
  · intro sequence
    rw [h.mem_events, hlog.events]
    have := h.lastSequence
    simp only [true_and]
    omega
  · have hcount := card_filter_insert s.commands (fun key => key.1 = p.intent.entity) receipt rfl hnew
    rw [DurableState.receiptCount, h.commands, hcount, ← h.revision, ← hlog.count]
    rfl

theorem Staged.otherLog (hne : entity ≠ p.intent.entity)
    (hlog : EntityLog s entity start head' log) : EntityLog s' entity start head' log := by
  constructor
  · intro r
    simp only [h.commands, lookup_insert_ite, Prod.mk.injEq, hne, false_and, if_false, hlog.mem]
  · exact hlog.revisions
  · exact hlog.covers
  · exact hlog.state
  · intro sequence
    simp only [h.mem_events, hne, false_and, false_or, hlog.events]
  · have hfilter := filter_insert_of_not s.commands (fun key => key.1 = entity)
      (k := (p.intent.entity, p.intent.command)) receipt (Ne.symm hne)
    rw [DurableState.receiptCount, h.commands, hfilter]
    exact hlog.count

end

variable {h : History}

theorem Integrity.bootstrap (hi : Integrity h) (generation : Nat) (state : Digest32)
    (hnone : h.state.entities.lookup entity = none) :
    Integrity
      { state := { h.state with
          entities := h.state.entities.insert entity ⟨0, 0, generation, state⟩ }
        bootstrapped := Function.update h.bootstrapped entity (some state) } := by
  obtain ⟨_, hcommands, hevents⟩ := hi.absent entity hnone
  refine ⟨?_, ?_, hi.keyed, hi.nodup, hi.listed, hi.stored⟩
  · intro e head he
    simp only [lookup_insert_ite] at he
    split at he
    · next heq =>
      subst heq
      cases he
      refine ⟨state, [], by simp, ?_⟩
      constructor
      · simp [hcommands]
      · rfl
      · rfl
      · rfl
      · intro sequence
        simp only [hevents, false_iff]
        omega
      · refine card_filter_eq_zero _ _ ?_
        rintro ⟨_, command⟩ rfl
        exact Finmap.lookup_eq_none.mp (hcommands command)
    · next hne =>
      obtain ⟨start, log, hb, hlog⟩ := hi.present e head he
      exact ⟨start, log, by simpa [hne] using hb, hlog.congr rfl rfl rfl rfl rfl⟩
  · intro e he
    simp only [lookup_insert_ite] at he
    split at he
    · cases he
    · next hne => simpa [hne] using hi.absent e he

theorem Integrity.commit (hi : Integrity h) (hp : p.Issued)
    (hnew : h.state.commands.lookup (p.intent.entity, p.intent.command) = none)
    (hst : Staged h.state p head receipt s') : Integrity { h with state := s' } := by
  have hcommand : ∀ key r, s'.commands.lookup key = some r →
      (key = (p.intent.entity, p.intent.command) ∧ r = receipt) ∨
      h.state.commands.lookup key = some r := by
    intro key r hr
    rw [hst.commands, lookup_insert_ite] at hr
    split at hr
    · next hkey => exact .inl ⟨hkey, (Option.some.inj hr).symm⟩
    · exact .inr hr
  have hold : ∀ key r, h.state.commands.lookup key = some r → s'.commands.lookup key = some r := by
    intro key r hr
    rw [hst.commands, lookup_insert_ite, if_neg, hr]
    rintro rfl
    simp [hnew] at hr
  have hreceipt : s'.commands.lookup (p.intent.entity, p.intent.command) = some receipt := by
    simp [hst.commands]
  refine ⟨?_, ?_, ?_, ?_, ?_, ?_⟩
  · intro e hd he
    simp only [hst.entities, lookup_insert_ite] at he
    split at he
    · next heq =>
      subst heq
      cases he
      obtain ⟨start, log, hb, hlog⟩ := hi.present _ head hst.lookup
      exact ⟨start, log ++ [receipt], hb, hst.entityLog hp hnew hlog⟩
    · next hne =>
      obtain ⟨start, log, hb, hlog⟩ := hi.present e hd he
      exact ⟨start, log, hb, hst.otherLog hne hlog⟩
  · intro e he
    simp only [hst.entities, lookup_insert_ite] at he
    split at he
    · cases he
    · next hne =>
      obtain ⟨hb, hc, hev⟩ := hi.absent e he
      refine ⟨hb, fun command => ?_, fun sequence => ?_⟩
      · simp [hst.commands, hne, hc]
      · simp [hst.mem_events, hne, hev]
  · intro key r hr
    rcases hcommand key r hr with ⟨rfl, rfl⟩ | hr
    · rw [hst.receipt_eq]
      exact ⟨rfl, rfl⟩
    · exact hi.keyed key r hr
  · intro key r hr
    rcases hcommand key r hr with ⟨rfl, rfl⟩ | hr
    · rw [hst.receipt_eq]
      exact hst.nodup
    · exact hi.nodup key r hr
  · intro id record hid
    simp only [hst.outbox id] at hid
    cases hf : p.intent.outbox.find? (·.id = id) with
    | some item =>
      simp only [hf, Option.some.injEq] at hid
      subst hid
      have heq : item.id = id := by simpa using List.find?_some hf
      refine ⟨heq, receipt, hreceipt, ?_⟩
      rw [hst.receipt_eq, ← heq]
      exact List.mem_map_of_mem (List.mem_of_find?_eq_some hf)
    | none =>
      simp only [hf] at hid
      obtain ⟨heq, r, hr, hmem⟩ := hi.listed id record hid
      exact ⟨heq, r, hold _ r hr, hmem⟩
  · intro key r id hr hmem
    rw [hst.outbox id]
    rcases hcommand key r hr with ⟨rfl, rfl⟩ | hr
    · cases hf : p.intent.outbox.find? (·.id = id) with
      | some item => exact ⟨_, rfl, rfl⟩
      | none =>
        rw [hst.receipt_eq] at hmem
        obtain ⟨item, hitem, rfl⟩ := List.mem_map.mp hmem
        simpa using List.find?_eq_none.mp hf item hitem
    · obtain ⟨record, hrecord, hkey⟩ := hi.stored key r id hr hmem
      have hf : p.intent.outbox.find? (·.id = id) = none := by
        rw [List.find?_eq_none]
        intro item hitem
        have := hst.fresh item hitem
        simp only [decide_eq_true_eq]
        rintro rfl
        exact this (mem_of_lookup hrecord)
      exact ⟨record, by simpa [hf] using hrecord, hkey⟩

theorem Integrity.takeover (hi : Integrity h) (generation : Nat)
    (hhead : h.state.entities.lookup entity = some head) :
    Integrity
      { h with
        state := { h.state with
          entities := h.state.entities.insert entity
            { head with authorityGeneration := generation } } } := by
  refine ⟨?_, ?_, hi.keyed, hi.nodup, hi.listed, hi.stored⟩
  · intro e hd he
    simp only [lookup_insert_ite] at he
    split at he
    · next heq =>
      subst heq
      cases he
      obtain ⟨start, log, hb, hlog⟩ := hi.present e head hhead
      exact ⟨start, log, hb, hlog.congr rfl rfl rfl rfl rfl⟩
    · obtain ⟨start, log, hb, hlog⟩ := hi.present e hd he
      exact ⟨start, log, hb, hlog.congr rfl rfl rfl rfl rfl⟩
  · intro e he
    simp only [lookup_insert_ite] at he
    split at he
    · cases he
    · exact hi.absent e he

variable {id : IntentId}

theorem Integrity.outbox (hi : Integrity h) {record record' : OutboxRecord}
    (hrecord : h.state.outbox.lookup id = some record) (hmove : record.Move record') :
    Integrity { h with state := { h.state with outbox := h.state.outbox.insert id record' } } := by
  obtain ⟨hid, hentity, hcommand⟩ := hmove.keeps
  refine ⟨?_, hi.absent, hi.keyed, hi.nodup, ?_, ?_⟩
  · intro e head he
    obtain ⟨start, log, hb, hlog⟩ := hi.present e head he
    exact ⟨start, log, hb, hlog.congr rfl rfl rfl rfl rfl⟩
  · intro i r hr
    simp only [lookup_insert_ite] at hr
    split at hr
    · next heq =>
      subst heq
      cases hr
      rw [hid, hentity, hcommand]
      exact hi.listed i record hrecord
    · exact hi.listed i r hr
  · intro key r i hr hmem
    obtain ⟨found, hfound, hkey⟩ := hi.stored key r i hr hmem
    simp only [lookup_insert_ite]
    split
    · next heq =>
      subst heq
      cases hrecord.symm.trans hfound
      exact ⟨record', rfl, by rw [hentity, hcommand, hkey]⟩
    · exact ⟨found, hfound, hkey⟩

variable {h' : History}

theorem Integrity.change (hi : Integrity h) (hc : Change h h') : Integrity h' := by
  cases hc with
  | same => exact hi
  | bootstrap entity generation state hnone => exact hi.bootstrap generation state hnone
  | commit p head receipt s' hp hnew hst => exact hi.commit hp hnew hst
  | takeover entity head hhead => exact hi.takeover _ hhead
  | outbox id record record' hrecord hmove => exact hi.outbox hrecord hmove

theorem integrity_step (h : History) (op : Op) (h' : History) (hi : Integrity h)
    (hs : store.step h op h') : Integrity h' := by
  obtain ⟨hop, rfl⟩ := hs
  exact hi.change (perform_change h op hop)

theorem integrity_of_reachable (hr : Reachable store h) : Integrity h := by
  refine hr.invariant (fun _ hinit => ?_) integrity_step
  cases hinit
  exact Integrity.empty

theorem Change.mem_outbox (hc : Change h h') (hid : id ∈ h.state.outbox) :
    id ∈ h'.state.outbox := by
  cases hc with
  | same | bootstrap | takeover => exact hid
  | commit p head receipt s' _ _ hst => exact (hst.mem_outbox id).mpr (.inr hid)
  | outbox => simp [hid]

variable {ops : List Op}

theorem run_mem_outbox (hr : Run store h ops h') (hid : id ∈ h.state.outbox) :
    id ∈ h'.state.outbox := by
  refine hr.invariant (I := fun k => id ∈ k.state.outbox) ?_ hid
  rintro k op k' hk ⟨hop, rfl⟩
  exact (perform_change k op hop).mem_outbox hk

theorem Integrity.listed_once (hi : Integrity h) (hid : id ∈ h.state.outbox) :
    ∃! key, ∃ receipt, h.state.commands.lookup key = some receipt ∧ id ∈ receipt.outbox := by
  obtain ⟨record, hrecord⟩ := Finmap.mem_iff.mp hid
  obtain ⟨_, receipt, hreceipt, hmem⟩ := hi.listed id record hrecord
  refine ⟨(record.entity, record.command), ⟨receipt, hreceipt, hmem⟩, ?_⟩
  rintro key ⟨r, hr, hr'⟩
  obtain ⟨found, hfound, hkey⟩ := hi.stored key r id hr hr'
  cases hrecord.symm.trans hfound
  exact hkey.symm

theorem durable_log_integrity {h : History} (hr : Reachable store h) :
    (∀ entity head, h.state.entities.lookup entity = some head →
      ∃ start log, h.bootstrapped entity = some start ∧
        EntityLog h.state entity start head log) ∧
    (∀ entity, h.state.entities.lookup entity = none →
      h.state.receiptCount entity = 0 ∧ h.state.eventCount entity = 0) ∧
    (∀ key receipt, h.state.commands.lookup key = some receipt → receipt.outbox.Nodup) ∧
    (∀ id ∈ h.state.outbox,
      ∃! key, ∃ receipt, h.state.commands.lookup key = some receipt ∧ id ∈ receipt.outbox) ∧
    ∀ h' ops, Run store h ops h' → ∀ id ∈ h.state.outbox, id ∈ h'.state.outbox := by
  have hi := integrity_of_reachable hr
  refine ⟨hi.present, fun entity he => ?_, hi.nodup, fun id => hi.listed_once,
    fun h' ops hrun id => run_mem_outbox hrun⟩
  obtain ⟨_, hcommands, hevents⟩ := hi.absent entity he
  refine ⟨card_filter_eq_zero _ _ ?_, card_filter_eq_zero _ _ ?_⟩
  · rintro ⟨_, command⟩ rfl
    exact Finmap.lookup_eq_none.mp (hcommands command)
  · rintro ⟨_, sequence⟩ rfl
    exact hevents sequence

def sampleEntity : EntityId := ⟨Vector.replicate 16 1⟩
def sampleDigest (byte : UInt8) : Digest32 := ⟨Vector.replicate 32 byte⟩
def sampleIntentId : IntentId := ⟨Vector.replicate 16 7⟩

def sampleIntent : CommandIntent where
  entity := sampleEntity
  command := ⟨Vector.replicate 16 2⟩
  fingerprint := sampleDigest 3
  expectedRevision := 0
  authorityGeneration := 1
  nextState := sampleDigest 4
  events := [⟨⟨Vector.replicate 16 5⟩, sampleDigest 6⟩]
  outbox := [⟨sampleIntentId, .externalEffect, sampleDigest 8⟩]

def samplePrepared : PreparedCommit := ⟨sampleIntent, 1, some 1, 1⟩

def sampleBootstrapped : History := History.empty.perform (.bootstrap sampleEntity 1 (sampleDigest 9))

def sampleCommitted : History := sampleBootstrapped.perform (.commit samplePrepared)

theorem sample_prepare :
    sampleBootstrapped.state.prepare sampleIntent = .ok (.prepared samplePrepared) := by
  decide

theorem sample_bootstrapped_reachable : Reachable store sampleBootstrapped :=
  reachable_perform (Reachable.start rfl) trivial

theorem sample_issued : samplePrepared.Issued := ⟨_, _, sample_prepare⟩

theorem sample_committed_reachable : Reachable store sampleCommitted :=
  reachable_perform sample_bootstrapped_reachable sample_issued

theorem durable_log_integrity_sample :
    ∃ start log, sampleCommitted.bootstrapped sampleEntity = some start ∧
      EntityLog sampleCommitted.state sampleEntity start ⟨1, 1, 1, sampleDigest 4⟩ log :=
  (durable_log_integrity sample_committed_reachable).1 _ _ (by decide)

def Advanced (entity : EntityId) (h h' : History) : Prop :=
  ∀ head, h.state.entities.lookup entity = some head →
    ∃ head', h'.state.entities.lookup entity = some head' ∧ head.revision ≤ head'.revision ∧
      (head'.revision = head.revision → head'.lastSequence = head.lastSequence)

theorem Advanced.refl (entity : EntityId) (h : History) : Advanced entity h h :=
  fun head hhead => ⟨head, hhead, le_rfl, fun _ => rfl⟩

theorem Advanced.trans {h'' : History} (k : Advanced entity h h') (k' : Advanced entity h' h'') :
    Advanced entity h h'' := by
  intro head hhead
  obtain ⟨head', hhead', hle, heq⟩ := k head hhead
  obtain ⟨head'', hhead'', hle', heq'⟩ := k' head' hhead'
  refine ⟨head'', hhead'', hle.trans hle', fun h => ?_⟩
  rw [heq' (by omega), heq (by omega)]

theorem Change.advanced (hc : Change h h') (entity : EntityId) : Advanced entity h h' := by
  cases hc with
  | same | outbox => exact .refl entity h
  | bootstrap created generation state hnone =>
    intro head hhead
    have hne : entity ≠ created := by
      rintro rfl
      simp [hnone] at hhead
    exact ⟨head, by simpa [hne] using hhead, le_rfl, fun _ => rfl⟩
  | commit p head receipt s' _ _ hst =>
    intro before hbefore
    by_cases he : entity = p.intent.entity
    · subst he
      cases hst.lookup.symm.trans hbefore
      have hrevision := hst.revision
      exact ⟨_, by rw [hst.entities, Finmap.lookup_insert], by simp only; omega,
        fun h => by simp only at h; omega⟩
    · exact ⟨before, by simpa [hst.entities, he] using hbefore, le_rfl, fun _ => rfl⟩
  | takeover taken head hhead =>
    intro before hbefore
    by_cases he : entity = taken
    · subst he
      cases hhead.symm.trans hbefore
      exact ⟨_, Finmap.lookup_insert _, le_rfl, fun _ => rfl⟩
    · exact ⟨before, by simpa [he] using hbefore, le_rfl, fun _ => rfl⟩

theorem run_advanced (hr : Run store h ops h') (entity : EntityId) : Advanced entity h h' := by
  refine hr.monotone (I := fun _ => True) (Advanced.refl entity)
    (fun _ _ _ => Advanced.trans) ?_ trivial
  rintro k op k' _ ⟨hop, rfl⟩
  exact ⟨trivial, (perform_change k op hop).advanced entity⟩

theorem stage_exists (hhead : s.entities.lookup p.intent.entity = some head)
    (hgeneration : head.authorityGeneration = p.intent.authorityGeneration)
    (hrevision : head.revision = p.intent.expectedRevision)
    (hnext : head.revision + 1 = p.nextRevision) (hnextlt : p.nextRevision < 2 ^ 64)
    (hlast : head.lastSequence + p.intent.events.length = p.lastSequence)
    (hlastlt : p.lastSequence < 2 ^ 64)
    (hevents : ∀ sequence, head.lastSequence < sequence → (p.intent.entity, sequence) ∉ s.events)
    (hnodup : (p.intent.outbox.map (·.id)).Nodup)
    (hfresh : ∀ item ∈ p.intent.outbox, item.id ∉ s.outbox) : ∃ result, s.stage p = .ok result := by
  obtain ⟨last, events, hinsert⟩ := insertEvents_exists p.intent.command hevents
    (hlast ▸ hlastlt : head.lastSequence + p.intent.events.length < 2 ^ 64)
  have hsequence : last = p.lastSequence := (insertEvents_ok hinsert).1.trans hlast
  obtain ⟨ids, outbox, houtbox⟩ :=
    insertOutbox_exists p.intent.entity p.intent.command hnodup hfresh
  simp only [DurableState.stage, bind_ok, fence, require_ok, fetch_ok]
  rw [exists_comm]
  exact ⟨head, _, hhead, (), ⟨(), hgeneration, hrevision⟩, _,
    checkedAdd_of_lt (hnext ▸ hnextlt), (), hnext, (), hfresh, (last, events), hinsert, (),
    hsequence, (ids, outbox), houtbox, rfl⟩

def fenceErrors : List DomainError :=
  [commandIdConflict, generationMismatch, revisionMismatch, outboxIntentAlreadyExists]

theorem fenceErrors_reason {e : DomainError} (h : e ∈ fenceErrors) :
    e.reason ≠ "prepared_commit_stale" ∧ e.reason ≠ "event_sequence_collision" := by
  revert e
  decide

theorem stage_fenced (hhead : s.entities.lookup p.intent.entity = some head)
    (hnext : p.nextRevision = p.intent.expectedRevision + 1) (hnextlt : p.nextRevision < 2 ^ 64)
    (hfenced : ¬ (head.authorityGeneration = p.intent.authorityGeneration ∧
      head.revision = p.intent.expectedRevision ∧
      ∀ item ∈ p.intent.outbox, item.id ∉ s.outbox)) : ∃ e ∈ fenceErrors, s.stage p = .error e := by
  simp only [DurableState.stage, hhead, fetch, Option.elim, bind, Except.bind, fence, require]
  by_cases hg : head.authorityGeneration = p.intent.authorityGeneration
  · by_cases hre : head.revision = p.intent.expectedRevision
    · have hfresh : ¬ ∀ item ∈ p.intent.outbox, item.id ∉ s.outbox := fun h =>
        hfenced ⟨hg, hre, h⟩
      refine ⟨outboxIntentAlreadyExists, by simp [fenceErrors], ?_⟩
      simp only [hg, hre, if_true, checkedAdd_of_lt (hnext ▸ hnextlt), hnext, hfresh, if_false]
    · exact ⟨revisionMismatch, by simp [fenceErrors], by simp only [hg, hre, if_true, if_false]⟩
  · exact ⟨generationMismatch, by simp [fenceErrors], by simp only [hg, if_false]⟩

structure Promised (s : DurableState) (p : PreparedCommit) (receipt : Receipt)
    (s' : DurableState) : Prop where
  revision : receipt.revision = p.nextRevision
  firstSequence : receipt.firstSequence = p.firstSequence
  lastSequence : receipt.lastSequence = p.lastSequence
  receipts : s'.commands = s.commands.insert (p.intent.entity, p.intent.command) receipt
  entities : s'.entities = s.entities.insert p.intent.entity
    ⟨p.nextRevision, p.lastSequence, p.intent.authorityGeneration, p.intent.nextState⟩
  events : ∀ key, key ∈ s'.events ↔ key ∈ s.events ∨
    ∃ first ∈ p.firstSequence, key.1 = p.intent.entity ∧ first ≤ key.2 ∧ key.2 ≤ p.lastSequence
  fresh : ∀ first ∈ p.firstSequence, ∀ sequence, first ≤ sequence →
    (p.intent.entity, sequence) ∉ s.events

theorem Integrity.events_le (hi : Integrity h)
    (hhead : h.state.entities.lookup entity = some head) {sequence : Nat}
    (hlt : head.lastSequence < sequence) : (entity, sequence) ∉ h.state.events := by
  obtain ⟨_, _, _, hlog⟩ := hi.present entity head hhead
  rw [hlog.events]
  omega

theorem Staged.promised (hi : Integrity h) (hst : Staged h.state p head receipt s')
    (hp : p.Issued) : Promised h.state p receipt s' := by
  have hfirst := hp.firstSequence hst.lastSequence
  have hlast := hst.lastSequence
  refine ⟨?_, ?_, ?_, hst.commands, hst.entities, fun key => ?_, fun first hmem sequence hle => ?_⟩
  · rw [hst.receipt_eq]
  · rw [hst.receipt_eq]
  · rw [hst.receipt_eq]
  · rw [hst.mem_events, or_comm, hfirst]
    refine or_congr_right ?_
    split
    · simp only [Option.mem_def, reduceCtorEq, false_and, exists_false, iff_false]
      omega
    · simp only [Option.mem_def, Option.some.injEq, exists_eq_left', Nat.succ_le_iff]
  · rw [hfirst] at hmem
    split at hmem
    · cases hmem
    · cases hmem
      exact hi.events_le hst.lookup hle

theorem stale_prepare_safe {h₀ h : History} {ops : List Op} {intent : CommandIntent}
    {p : PreparedCommit} (hr : Reachable store h₀)
    (hp : h₀.state.prepare intent = .ok (.prepared p)) (hrun : Run store h₀ ops h) :
    (∃ receipt, h.state.commands.lookup (intent.entity, intent.command) = some receipt ∧
      receipt.fingerprint = intent.fingerprint ∧ h.state.commit p = (.ok receipt, h.state)) ∨
    (∃ e, h.state.commit p = (.error e, h.state) ∧ e.reason ≠ "prepared_commit_stale" ∧
      e.reason ≠ "event_sequence_collision") ∨
    (∃ receipt s', h.state.commit p = (.ok receipt, s') ∧ Promised h.state p receipt s') := by
  have hissued : p.Issued := ⟨_, _, hp⟩
  obtain ⟨hvalid, _, head₀, hhead₀, _, hrev, hrevlt, hlastlt, hpeq⟩ := prepare_prepared hp
  obtain ⟨head, hhead, _, hsame⟩ := run_advanced hrun _ _ hhead₀
  have hi : Integrity h := integrity_of_reachable (hr.run hrun)
  have hintent : p.intent = intent := by rw [hpeq]
  rw [← hintent] at hhead hrev hvalid ⊢
  have hnext : p.nextRevision = p.intent.expectedRevision + 1 := by rw [← hrev, hpeq]
  have hnextlt : p.nextRevision < 2 ^ 64 := by rwa [hpeq]
  cases hc : h.state.commands.lookup (p.intent.entity, p.intent.command) with
  | some receipt =>
    by_cases he : receipt.fingerprint = p.intent.fingerprint
    · exact .inl ⟨receipt, rfl, he, by simp only [DurableState.commit, hc, he, if_true]⟩
    · refine .inr (.inl ⟨commandIdConflict, ?_, fenceErrors_reason (by simp [fenceErrors])⟩)
      simp only [DurableState.commit, hc, he, if_false]
  | none =>
    by_cases hfenced : head.authorityGeneration = p.intent.authorityGeneration ∧
        head.revision = p.intent.expectedRevision ∧
        ∀ item ∈ p.intent.outbox, item.id ∉ h.state.outbox
    · obtain ⟨hg, hre, hfresh⟩ := hfenced
      have hsequence : head.lastSequence = head₀.lastSequence := hsame (by rw [hre, hrev])
      have hlast : head.lastSequence + p.intent.events.length = p.lastSequence := by
        rw [hpeq, hsequence]
      obtain ⟨⟨receipt, s'⟩, hstage⟩ := stage_exists hhead hg hre (by rw [hnext, hre]) hnextlt hlast
        (by rwa [hpeq]) (fun sequence => hi.events_le hhead) (validateIntent_nodup hvalid) hfresh
      obtain ⟨_, hst⟩ := stage_ok hstage
      refine .inr (.inr ⟨receipt, s', ?_, hst.promised hi hissued⟩)
      simp only [DurableState.commit, hc, hstage]
    · obtain ⟨e, he, hstage⟩ := stage_fenced hhead hnext hnextlt hfenced
      refine .inr (.inl ⟨e, ?_, fenceErrors_reason he⟩)
      simp only [DurableState.commit, hc, hstage]

theorem stale_prepare_safe_sample :
    (∃ receipt, sampleCommitted.state.commands.lookup
        (sampleIntent.entity, sampleIntent.command) = some receipt ∧
      receipt.fingerprint = sampleIntent.fingerprint ∧
      sampleCommitted.state.commit samplePrepared = (.ok receipt, sampleCommitted.state)) ∨
    (∃ e, sampleCommitted.state.commit samplePrepared = (.error e, sampleCommitted.state) ∧
      e.reason ≠ "prepared_commit_stale" ∧ e.reason ≠ "event_sequence_collision") ∨
    (∃ receipt s', sampleCommitted.state.commit samplePrepared = (.ok receipt, s') ∧
      Promised sampleCommitted.state samplePrepared receipt s') :=
  stale_prepare_safe sample_bootstrapped_reachable sample_prepare
    (Run.single (S := store) (a := .commit samplePrepared) ⟨sample_issued, rfl⟩)

end Persistence
