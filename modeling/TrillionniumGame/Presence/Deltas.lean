import TrillionniumGame.Foundation.Runs
import TrillionniumGame.Presence.Routing

namespace Presence
open Checks FiniteMap Runs

def PresenceRecord.key (record : PresenceRecord) : PresenceKey := ⟨record.connection, record.stream⟩

def shown (record : PresenceRecord) : Option PresenceRecord :=
  if record.hidden then none else some record

variable {record : PresenceRecord}

theorem shown_eq {seen : PresenceRecord} :
    shown record = some seen ↔ record.hidden = false ∧ record = seen := by
  cases hhidden : record.hidden with
  | false | true => simp [shown, hhidden]

abbrev Visible := PresenceKey → Option PresenceRecord

structure Reports (before after : Visible) (delta : PresenceDelta) : Prop where
  joins : ∀ record ∈ delta.joins, after record.key = some record ∧
    (before record.key = none ∨ ∃ leave ∈ delta.leaves, leave.key = record.key)
  updates : ∀ record ∈ delta.updates, after record.key = some record ∧
    before record.key ≠ none ∧ ∀ leave ∈ delta.leaves, leave.key ≠ record.key
  leaves : ∀ record ∈ delta.leaves, before record.key = some record ∧
    (after record.key = none ∨ ∃ join ∈ delta.joins, join.key = record.key)
  same : ∀ key, (∀ record ∈ delta.joins, record.key ≠ key) →
    (∀ record ∈ delta.updates, record.key ≠ key) → (∀ record ∈ delta.leaves, record.key ≠ key) →
    after key = before key
  single : (delta.joins ++ delta.updates).length ≤ 1

theorem reports_idempotent (before : Visible) : Reports before before .idempotent where
  joins := nofun
  updates := nofun
  leaves := nofun
  same := fun _ _ _ _ => rfl
  single := Nat.zero_le 1

variable {before after : Visible} {revision : UInt64} {leaves : List PresenceRecord}
  {hiddenChanges : Nat}

theorem reports_leaves (gone : PresenceKey → Prop)
    (hleaves : ∀ record, record ∈ leaves ↔ gone record.key ∧ before record.key = some record)
    (hkeyed : ∀ key record, before key = some record → key = record.key)
    (hafter : ∀ key, (gone key → after key = none) ∧ (¬ gone key → after key = before key)) :
    Reports before after (.applied revision [] [] leaves hiddenChanges) where
  joins := nofun
  updates := nofun
  leaves := by
    intro record hrecord
    obtain ⟨hgone, hbefore⟩ := (hleaves record).mp hrecord
    exact ⟨hbefore, .inl ((hafter record.key).1 hgone)⟩
  same := by
    intro key _ _ hkept
    by_cases hgone : gone key
    · rw [(hafter key).1 hgone]
      cases hbefore : before key with
      | none => rfl
      | some record =>
        cases hkeyed key record hbefore
        exact absurd rfl (hkept record ((hleaves record).mpr ⟨hgone, hbefore⟩))
    · exact (hafter key).2 hgone
  single := Nat.zero_le 1

theorem reports_join (gone : PresenceKey → Prop)
    (hleaves : ∀ record, record ∈ leaves ↔ gone record.key ∧ before record.key = some record)
    (hkeyed : ∀ key record, before key = some record → key = record.key)
    (hfree : gone record.key ∨ before record.key = none)
    (hplaced : after record.key = shown record) (hafter : ∀ key, key ≠ record.key →
      (gone key → after key = none) ∧ (¬ gone key → after key = before key)) :
    Reports before after
      (.applied revision (if record.hidden then [] else [record]) [] leaves hiddenChanges) := by
  have hjoins : ∀ join, join ∈ (if record.hidden then [] else [record]) ↔
      record.hidden = false ∧ join = record := by
    intro join
    cases hhidden : record.hidden with
    | false | true => simp
  have hbefore : ∀ key seen, gone key → before key = some seen → ∃ leave ∈ leaves,
      leave.key = key := by
    intro key seen hgone hseen
    cases hkeyed key seen hseen
    exact ⟨seen, (hleaves seen).mpr ⟨hgone, hseen⟩, rfl⟩
  have hleft : before record.key = none ∨ ∃ leave ∈ leaves, leave.key = record.key := by
    rcases hfree with hgone | hnone
    · cases hseen : before record.key with
      | none => exact .inl rfl
      | some seen => exact .inr (hbefore _ seen hgone hseen)
    · exact .inl hnone
  refine ⟨fun join hjoin => ?_, nofun, fun leave hleave => ?_, fun key hjoin _ hkept => ?_, ?_⟩
  · obtain ⟨hhidden, rfl⟩ := (hjoins join).mp hjoin
    exact ⟨hplaced.trans (shown_eq.mpr ⟨hhidden, rfl⟩), hleft⟩
  · obtain ⟨hgone, hseen⟩ := (hleaves leave).mp hleave
    refine ⟨hseen, ?_⟩
    by_cases hkey : leave.key = record.key
    · by_cases hhidden : record.hidden = true
      · exact .inl (by rw [hkey, hplaced, shown, hhidden, if_pos rfl])
      · exact .inr ⟨record, (hjoins record).mpr ⟨by simpa using hhidden, rfl⟩, hkey.symm⟩
    · exact .inl ((hafter _ hkey).1 hgone)
  · have hnone : gone key → before key = none := by
      intro hgone
      cases hseen : before key with
      | none => rfl
      | some seen =>
        obtain ⟨leave, hleave, hsame⟩ := hbefore key seen hgone hseen
        exact absurd hsame (hkept leave hleave)
    by_cases hkey : key = record.key
    · subst hkey
      have hhidden : record.hidden = true := by
        by_contra hpublic
        exact hjoin record ((hjoins record).mpr ⟨by simpa using hpublic, rfl⟩) rfl
      rw [hplaced, shown, hhidden, if_pos rfl]
      rcases hfree with hgone | hseen
      · exact (hnone hgone).symm
      · exact hseen.symm
    · by_cases hgone : gone key
      · rw [(hafter key hkey).1 hgone, hnone hgone]
      · exact (hafter key hkey).2 hgone
  · cases record.hidden with
    | false => exact Nat.le_refl 1
    | true => exact Nat.zero_le 1

theorem reports_change {old new : PresenceRecord} (hkey : old.key = new.key)
    (hbefore : before old.key = shown old) (hplaced : after new.key = shown new)
    (hkeyed : ∀ key record, before key = some record → key = record.key)
    (hafter : ∀ key, key ≠ new.key → after key = before key) :
    Reports before after (classifyVisibilityChange revision old new) := by
  have hkept : ∀ key, key ≠ new.key →
      (key = new.key → after key = none) ∧ (¬ key = new.key → after key = before key) :=
    fun key hne => ⟨fun heq => absurd heq hne, hafter key⟩
  cases hold : old.hidden with
  | false =>
    have hseen : before new.key = some old := hkey ▸ hbefore.trans (shown_eq.mpr ⟨hold, rfl⟩)
    cases hnew : new.hidden with
    | false =>
      have hclassify : classifyVisibilityChange revision old new =
          .applied revision [] [new] [] 0 := by rw [classifyVisibilityChange, hold, hnew]
      have hupdated := hplaced.trans (shown_eq.mpr ⟨hnew, rfl⟩)
      rw [hclassify]
      refine ⟨List.forall_mem_nil _, fun record hrecord => ?_, List.forall_mem_nil _,
        fun key _ hupdate _ => ?_, Nat.le_refl 1⟩
      · cases List.mem_singleton.mp hrecord
        exact ⟨hupdated, by rw [hseen]; simp, List.forall_mem_nil _⟩
      · exact hafter key fun heq => hupdate new List.mem_cons_self heq.symm
    | true =>
      have hclassify : classifyVisibilityChange revision old new = .applied revision
          (if new.hidden then [] else [new]) [] [old] 0 := by
        rw [classifyVisibilityChange, hold, hnew]
        rfl
      rw [hclassify]
      have hleaves : ∀ record, record ∈ [old] ↔
          record.key = new.key ∧ before record.key = some record := by
        intro record
        rw [List.mem_singleton]
        constructor
        · rintro rfl
          exact ⟨hkey, hkey ▸ hseen⟩
        · rintro ⟨heq, hrecord⟩
          rw [heq, hseen] at hrecord
          exact (Option.some.inj hrecord).symm
      exact reports_join (· = new.key) hleaves hkeyed (.inl rfl) hplaced hkept
  | true =>
    have hseen : before new.key = none := by rw [← hkey, hbefore, shown, hold, if_pos rfl]
    have hclassify : ∃ hiddenChanges, classifyVisibilityChange revision old new =
        .applied revision (if new.hidden then [] else [new]) [] [] hiddenChanges := by
      cases hnew : new.hidden with
      | false => exact ⟨0, by rw [classifyVisibilityChange, hold, hnew]; rfl⟩
      | true => exact ⟨1, by rw [classifyVisibilityChange, hold, hnew]; rfl⟩
    obtain ⟨hiddenChanges, hclassify⟩ := hclassify
    rw [hclassify]
    have hleaves : ∀ record, record ∈ ([] : List PresenceRecord) ↔
        False ∧ before record.key = some record := by simp
    exact reports_join (fun _ => False) hleaves hkeyed (.inr hseen) hplaced
      fun key hne => ⟨False.elim, fun _ => hafter key hne⟩

def onStream (stream : StreamKey) (records : List PresenceRecord) : List PresenceRecord :=
  records.filter (·.stream = stream)

def PresenceDelta.apply (stream : StreamKey) (view : List PresenceRecord) (delta : PresenceDelta) :
    List PresenceRecord :=
  let kept := view.filter fun record =>
    (onStream stream delta.leaves).all fun leave => leave.connection ≠ record.connection
  let replaced := kept.map fun record =>
    ((onStream stream delta.updates).find? (·.connection = record.connection)).getD record
  replaced ++ onStream stream delta.joins

structure ViewOf (stream : StreamKey) (visible : Visible) (view : List PresenceRecord) : Prop where
  nodup : (view.map (·.connection)).Nodup
  mem : ∀ record, record ∈ view ↔ record.stream = stream ∧ visible record.key = some record

theorem mem_onStream {stream : StreamKey} {records : List PresenceRecord} :
    record ∈ onStream stream records ↔ record ∈ records ∧ record.stream = stream := by
  simp [onStream]

variable {a b : PresenceRecord}

theorem key_eq (hconnection : a.connection = b.connection) (hstream : a.stream = b.stream) :
    a.key = b.key := by
  rw [PresenceRecord.key, PresenceRecord.key, hconnection, hstream]

theorem key_connection (h : a.key = b.key) : a.connection = b.connection :=
  congrArg PresenceKey.connection h

theorem key_stream (h : a.key = b.key) : a.stream = b.stream :=
  congrArg PresenceKey.stream h

section

variable {stream : StreamKey} {before after : Visible} {view : List PresenceRecord}
  {delta : PresenceDelta}

def Remains (stream : StreamKey) (delta : PresenceDelta) (record : PresenceRecord) : Prop :=
  ∀ leave ∈ onStream stream delta.leaves, leave.connection ≠ record.connection

def replaced (stream : StreamKey) (delta : PresenceDelta) (record : PresenceRecord) :
    PresenceRecord :=
  ((onStream stream delta.updates).find? (·.connection = record.connection)).getD record

theorem mem_apply {record : PresenceRecord} : record ∈ delta.apply stream view ↔
    (∃ old ∈ view, Remains stream delta old ∧ replaced stream delta old = record) ∨
      record ∈ onStream stream delta.joins := by
  simp only [PresenceDelta.apply, List.mem_append, List.mem_map, List.mem_filter,
    List.all_eq_true, decide_eq_true_eq, and_assoc]
  rfl

theorem replaced_connection (record : PresenceRecord) :
    (replaced stream delta record).connection = record.connection := by
  unfold replaced
  cases hfound : (onStream stream delta.updates).find? (·.connection = record.connection) with
  | none => rfl
  | some update => simpa using List.find?_some hfound

theorem replaced_eq (stream : StreamKey) (delta : PresenceDelta) (record : PresenceRecord) :
    (replaced stream delta record ∈ onStream stream delta.updates) ∨
      (replaced stream delta record = record ∧
        ∀ update ∈ onStream stream delta.updates, update.connection ≠ record.connection) := by
  unfold replaced
  cases hfound : (onStream stream delta.updates).find? (·.connection = record.connection) with
  | none => exact .inr ⟨rfl, by simpa using List.find?_eq_none.mp hfound⟩
  | some update => exact .inl (List.mem_of_find?_eq_some hfound)

variable (h : Reports before after delta) (hview : ViewOf stream before view)
include h hview

theorem Reports.join_fresh {join old : PresenceRecord} (hjoin : join ∈ onStream stream delta.joins)
    (hold : old ∈ view) (hkept : Remains stream delta old) : old.connection ≠ join.connection := by
  intro hsame
  obtain ⟨hmem, hstream⟩ := mem_onStream.mp hjoin
  obtain ⟨hon, hseen⟩ := (hview.mem old).mp hold
  have hkey := key_eq hsame (hon.trans hstream.symm)
  rcases (h.joins join hmem).2 with hnone | ⟨leave, hleave, hleft⟩
  · rw [hkey, hnone] at hseen
    cases hseen
  · have hthere := key_eq (key_connection hleft) (key_stream hleft)
    exact hkept leave (mem_onStream.mpr ⟨hleave, (key_stream hleft).trans hstream⟩)
      (key_connection (hleft.trans hkey.symm))

variable (hkeyed : ∀ key record, before key = some record → key = record.key)
include hkeyed

theorem Reports.mem_apply (record : PresenceRecord) : record ∈ delta.apply stream view ↔
      record.stream = stream ∧ after record.key = some record := by
  rw [Presence.mem_apply]
  constructor
  · rintro (⟨old, hold, hkept, rfl⟩ | hjoin)
    · obtain ⟨hon, hseen⟩ := (hview.mem old).mp hold
      rcases replaced_eq stream delta old with hupdate | ⟨hsame, hnone⟩
      · obtain ⟨hmem, hstream⟩ := mem_onStream.mp hupdate
        exact ⟨hstream, (h.updates _ hmem).1⟩
      · rw [hsame]
        refine ⟨hon, ?_⟩
        rw [← hseen]
        refine h.same old.key (fun join hjoin heq => ?_) (fun update hupdate heq => ?_)
          fun leave hleave heq => ?_
        · exact h.join_fresh hview (mem_onStream.mpr ⟨hjoin, (key_stream heq).trans hon⟩) hold
            hkept (key_connection heq).symm
        · exact hnone update (mem_onStream.mpr ⟨hupdate, (key_stream heq).trans hon⟩)
            (key_connection heq)
        · exact hkept leave (mem_onStream.mpr ⟨hleave, (key_stream heq).trans hon⟩)
            (key_connection heq)
    · obtain ⟨hmem, hstream⟩ := mem_onStream.mp hjoin
      exact ⟨hstream, (h.joins record hmem).1⟩
  · rintro ⟨hstream, hseen⟩
    by_cases hjoined : ∃ join ∈ delta.joins, join.key = record.key
    · obtain ⟨join, hjoin, hkey⟩ := hjoined
      have hsame := (h.joins join hjoin).1
      rw [hkey, hseen] at hsame
      cases hsame
      exact .inr (mem_onStream.mpr ⟨hjoin, hstream⟩)
    · have hunleft : ∀ leave ∈ delta.leaves, leave.key ≠ record.key := by
        intro leave hleave hkey
        rcases (h.leaves leave hleave).2 with hnone | ⟨join, hjoin, hsame⟩
        · rw [hkey, hseen] at hnone
          cases hnone
        · exact hjoined ⟨join, hjoin, hsame.trans hkey⟩
      have hkept : ∀ old, old.connection = record.connection → Remains stream delta old := by
        intro old hsame leave hleave heq
        obtain ⟨hmem, hon⟩ := mem_onStream.mp hleave
        exact hunleft leave hmem (key_eq (heq.trans hsame) (hon.trans hstream.symm))
      by_cases hupdated : ∃ update ∈ delta.updates, update.key = record.key
      · obtain ⟨update, hupdate, hkey⟩ := hupdated
        have hsame := (h.updates update hupdate).1
        rw [hkey, hseen] at hsame
        cases hsame
        obtain ⟨old, hold⟩ := Option.ne_none_iff_exists'.mp (h.updates _ hupdate).2.1
        have hkey := hkeyed _ _ hold
        have hmem : old ∈ view :=
          (hview.mem old).mpr ⟨(key_stream hkey).symm.trans hstream, hkey ▸ hold⟩
        refine .inl ⟨old, hmem, hkept old (key_connection hkey).symm, ?_⟩
        rcases replaced_eq stream delta old with hreplaced | ⟨_, hnone⟩
        · obtain ⟨hreplacing, hon⟩ := mem_onStream.mp hreplaced
          have hafter := (h.updates _ hreplacing).1
          rw [key_eq ((replaced_connection old).trans (key_connection hkey).symm)
            (hon.trans hstream.symm), hseen] at hafter
          exact (Option.some.inj hafter).symm
        · exact absurd (key_connection hkey)
            (hnone _ (mem_onStream.mpr ⟨hupdate, hstream⟩))
      · have hsame := h.same record.key (fun join hjoin heq => hjoined ⟨join, hjoin, heq⟩)
          (fun update hupdate heq => hupdated ⟨update, hupdate, heq⟩) hunleft
        have hmem := (hview.mem record).mpr ⟨hstream, hsame.symm.trans hseen⟩
        refine .inl ⟨record, hmem, hkept record rfl, ?_⟩
        rcases replaced_eq stream delta record with hreplaced | ⟨heq, _⟩
        · obtain ⟨hreplacing, hon⟩ := mem_onStream.mp hreplaced
          exact absurd ⟨_, hreplacing, key_eq (replaced_connection record)
            (hon.trans hstream.symm)⟩ hupdated
        · exact heq

theorem Reports.viewed : ViewOf stream after (delta.apply stream view) where
  nodup := by
    have hconnections : (delta.apply stream view).map (·.connection) =
        ((view.filter fun record => (onStream stream delta.leaves).all fun leave =>
          leave.connection ≠ record.connection).map (·.connection)) ++
          (onStream stream delta.joins).map (·.connection) := by
      rw [PresenceDelta.apply, List.map_append, List.map_map]
      congr 1
      exact List.map_congr_left fun record _ => replaced_connection record
    have hjoins : (onStream stream delta.joins).length ≤ 1 := by
      have hsingle := h.single
      have hle := List.length_filter_le (fun record => decide (record.stream = stream)) delta.joins
      rw [List.length_append] at hsingle
      exact hle.trans (by omega)
    rw [hconnections, List.nodup_append']
    refine ⟨(List.filter_sublist.map _).nodup hview.nodup, ?_, ?_⟩
    · rcases hlist : onStream stream delta.joins with _ | ⟨join, _ | ⟨other, rest⟩⟩
      · exact List.nodup_nil
      · exact List.nodup_singleton _
      · rw [hlist] at hjoins
        simp at hjoins
    · intro connection hkept hjoin
      obtain ⟨old, hold, rfl⟩ := List.mem_map.mp hkept
      obtain ⟨join, hmem, hsame⟩ := List.mem_map.mp hjoin
      obtain ⟨hview', hall⟩ := List.mem_filter.mp hold
      exact h.join_fresh hview hmem hview' (by simpa [Remains] using hall) hsame.symm
  mem := h.mem_apply hview hkeyed

end

end Presence
