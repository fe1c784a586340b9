import TrillionniumGame.Presence.Deltas

namespace Presence
open Checks FiniteMap Runs

theorem sweep_leaves {text : String} {keys : List PresenceKey} {sweep swept : Sweep}
    (hnodup : keys.Nodup) (hrun : Sweep.run text sweep keys = .ok swept) (record : PresenceRecord) :
    record ∈ swept.leaves ↔ record ∈ sweep.leaves ∨
      ∃ key ∈ keys, sweep.entries.lookup key = some record ∧ record.hidden = false := by
  induction keys generalizing sweep with
  | nil =>
    cases hrun
    simp
  | cons key rest ih =>
    obtain ⟨hnotin, hrest⟩ := List.nodup_cons.mp hnodup
    rw [Sweep.run, bind_ok] at hrun
    obtain ⟨next, hremove, hrun⟩ := hrun
    rw [Sweep.remove, bind_ok] at hremove
    obtain ⟨removed, hremoved, hnext⟩ := hremove
    rw [fetch_ok] at hremoved
    have hentries : next.entries = sweep.entries.erase key := by
      cases hnext
      split
      · rfl
      · rfl
    have hleaves : record ∈ next.leaves ↔ record ∈ sweep.leaves ∨
        (record = removed ∧ removed.hidden = false) := by
      cases hnext
      cases hhidden : removed.hidden with
      | false | true => simp
    have hkept : ∀ key' ∈ rest, next.entries.lookup key' = sweep.entries.lookup key' := by
      intro key' hkey'
      have hother : key' ≠ key := fun heq => hnotin (heq ▸ hkey')
      rw [hentries, lookup_erase_ite, if_neg hother]
    rw [ih hrest hrun, hleaves, or_assoc]
    refine or_congr_right ⟨?_, ?_⟩
    · rintro (⟨rfl, hpublic⟩ | ⟨key', hkey', hlookup, hpublic⟩)
      · exact ⟨key, List.mem_cons_self, hremoved, hpublic⟩
      · exact ⟨key', List.mem_cons_of_mem _ hkey', hkept key' hkey' ▸ hlookup, hpublic⟩
    · rintro ⟨key', hkey', hlookup, hpublic⟩
      rcases List.mem_cons.mp hkey' with rfl | hin
      · rw [hremoved] at hlookup
        cases hlookup
        exact .inl ⟨rfl, hpublic⟩
      · exact .inr ⟨key', hin, (hkept key' hin).trans hlookup, hpublic⟩

theorem toNat_nextRevision {revision next : UInt64} (h : nextRevision revision = some next) :
    next.toNat = revision.toNat + 1 := by
  unfold nextRevision at h
  split at h
  · next hfits =>
    cases h
    rw [UInt64.toNat_add, UInt64.toNat_one, Nat.mod_eq_of_lt hfits]
  · cases h

namespace PresenceRouter

variable {r r' : PresenceRouter}

def visible (r : PresenceRouter) : Visible := fun key => (r.entries.lookup key).bind shown

theorem visible_eq {key : PresenceKey} {record : PresenceRecord} : r.visible key = some record ↔
    r.entries.lookup key = some record ∧ record.hidden = false := by
  rw [visible, Option.bind_eq_some_iff]
  constructor
  · rintro ⟨entry, hlookup, hshown⟩
    obtain ⟨hpublic, rfl⟩ := shown_eq.mp hshown
    exact ⟨hlookup, hpublic⟩
  · rintro ⟨hlookup, hpublic⟩
    exact ⟨record, hlookup, shown_eq.mpr ⟨hpublic, rfl⟩⟩

theorem Sound.visible_keyed (h : r.Sound) (key : PresenceKey) (record : PresenceRecord)
    (hseen : r.visible key = some record) : key = record.key :=
  h.keyed key record (visible_eq.mp hseen).1

inductive Mutated (r : PresenceRouter) : PresenceDelta → PresenceRouter → Prop
  | idempotent : Mutated r .idempotent r
  | applied {delta : PresenceDelta} {r' : PresenceRouter}
      (next : nextRevision r.revision = some r'.revision)
      (disposition : delta.disposition = .applied) (revision : delta.revision = some r'.revision)
      (changed : r'.connections ≠ r.connections ∨ r'.entries ≠ r.entries)
      (reports : Reports r.visible r'.visible delta) : Mutated r delta r'

variable (h : r.Sound)
include h

theorem Sound.replaced {key : PresenceKey} {existing record : PresenceRecord} {revision : UInt64}
    (hexisting : r.entries.lookup key = some existing) (hkey : record.key = key)
    (hdiffers : existing ≠ record) (hnext : nextRevision r.revision = some revision) :
    Mutated r (classifyVisibilityChange revision existing record)
      { r with revision, entries := r.entries.insert key record } := by
  have hold : key = existing.key := h.keyed key existing hexisting
  have hclassified : ∀ old new, (classifyVisibilityChange revision old new).disposition = .applied ∧
      (classifyVisibilityChange revision old new).revision = some revision := by
    intro old new
    unfold classifyVisibilityChange
    split <;> exact ⟨rfl, rfl⟩
  refine .applied hnext (hclassified _ _).1 (hclassified _ _).2 (.inr fun hsame => ?_) ?_
  · have hlookup := lookup_insert_ite r.entries key key record
    rw [show r.entries.insert key record = r.entries from hsame, if_pos rfl, hexisting] at hlookup
    exact hdiffers (Option.some.inj hlookup)
  · refine reports_change (hold.symm.trans hkey.symm) ?_ ?_ h.visible_keyed fun key' hne => ?_
    · rw [← hold, visible, hexisting, Option.bind_some]
    · rw [visible, lookup_insert_ite, if_pos hkey, Option.bind_some]
    · rw [visible, lookup_insert_ite, if_neg fun heq => hne (heq.trans hkey.symm), visible]

theorem Sound.swept {text : String} {keys : List PresenceKey} {swept : Sweep} {revision : UInt64}
    (hnodup : keys.Nodup) (hkeys : ∀ key ∈ keys, key ∈ r.entries) (hne : keys ≠ [])
    (hrun : Sweep.run text ⟨r.entries, [], 0⟩ keys = .ok swept)
    (hnext : nextRevision r.revision = some revision) :
    Mutated r (.applied revision [] [] swept.leaves swept.hiddenChanges)
      { r with revision, entries := swept.entries } := by
  obtain ⟨swept', hrun', hswept⟩ := swept_run text ⟨r.entries, [], 0⟩ keys hnodup hkeys
  rw [hrun] at hrun'
  cases hrun'
  refine .applied hnext rfl rfl (.inr fun hsame => ?_) (reports_leaves (· ∈ keys) ?_
    h.visible_keyed fun key => ⟨fun hgone => ?_, fun hkept => ?_⟩)
  · obtain ⟨key, hkey⟩ := List.exists_mem_of_ne_nil keys hne
    obtain ⟨record, hrecord⟩ := Finmap.mem_iff.mp (hkeys key hkey)
    have hlookup := hswept.lookup key
    rw [show swept.entries = r.entries from hsame, if_pos hkey, hrecord] at hlookup
    cases hlookup
  · intro record
    rw [sweep_leaves hnodup hrun]
    constructor
    · rintro (hnone | ⟨key, hkey, hseen⟩)
      · cases hnone
      · have hvisible : r.visible key = some record := visible_eq.mpr hseen
        cases h.visible_keyed key record hvisible
        exact ⟨hkey, hvisible⟩
    · rintro ⟨hkey, hseen⟩
      exact .inr ⟨record.key, hkey, visible_eq.mp hseen⟩
  · rw [visible, hswept.lookup, if_pos hgone, Option.bind_none]
  · rw [visible, hswept.lookup, if_neg hkept, visible]

theorem Sound.leave_mutated (request : LeavePresenceRequest) :
    Ensures (fun result => Mutated r result.1 result.2) (fun _ => True)
      (r.leavePresence request) := by
  unfold PresenceRouter.leavePresence
  rw [ensures_bind]
  refine (requireExactGeneration_ensures _ _).mono (fun _ _ _ => ?_) fun _ _ => trivial
  dsimp only
  split
  · exact .idempotent
  · next existing hexisting =>
    have hkeys : ∀ key ∈ [(⟨request.connection, request.stream⟩ : PresenceKey)],
        key ∈ r.entries := by simpa using mem_of_lookup hexisting
    have hrecord := requireRecordInvariants_ok.mpr
      ⟨h.keyed _ _ hexisting, h.established _ _ hexisting⟩
    rw [ensures_bind, hrecord, ensures_ok, ensures_bind, requireNextRevision, ensures_fetch]
    refine ⟨fun revision hnext => ?_, fun _ => trivial⟩
    obtain ⟨swept, hrun, -⟩ := swept_run "entry disappeared during leave" ⟨r.entries, [], 0⟩
      [⟨request.connection, request.stream⟩] (List.nodup_singleton _) hkeys
    rw [hrun, ensures_bind, ensures_ok]
    exact h.swept (List.nodup_singleton _) hkeys (List.cons_ne_nil _ _) hrun hnext

theorem Sound.remove_mutated (request : RemoveConnectionRequest) :
    Ensures (fun result => Mutated r result.1 result.2) (fun _ => True)
      (r.removeConnection request) := by
  unfold PresenceRouter.removeConnection
  rw [ensures_bind]
  refine (requireExactGeneration_ensures _ _).mono (fun _ _ _ => ?_) fun _ _ => trivial
  dsimp only
  split
  · exact .idempotent
  · next hsome =>
    rw [ensures_bind, requireNextRevision, ensures_fetch]
    refine ⟨fun revision hnext => ?_, fun _ => trivial⟩
    obtain ⟨swept, hrun, -⟩ := swept_connection (r := r)
      "entry disappeared during connection removal" request.connection
    rw [hrun, ensures_bind, ensures_ok]
    exact h.swept (nodup_keysForConnection _) (fun key hkey => (mem_keysForConnection.mp hkey).1)
      hsome hrun hnext

theorem Sound.update_mutated (request : UpdatePresenceRequest) :
    Ensures (fun result => Mutated r result.1 result.2) (fun _ => True)
      (r.updatePresence request) := by
  unfold PresenceRouter.updatePresence
  rw [ensures_bind]
  refine (requireExactGeneration_ensures _ _).mono (fun _ _ _ => ?_) fun _ _ => trivial
  rw [ensures_bind, ensures_fetch]
  refine ⟨fun existing hexisting => ?_, fun _ => trivial⟩
  have hrecord := requireRecordInvariants_ok.mpr
    ⟨h.keyed _ _ hexisting, h.established _ _ hexisting⟩
  rw [hrecord, ensures_bind, ensures_ok]
  split
  · exact .idempotent
  · next hdiffers =>
    rw [ensures_bind, requireNextRevision, ensures_fetch]
    refine ⟨fun revision hnext => ?_, fun _ => trivial⟩
    refine h.replaced hexisting (h.keyed _ _ hexisting).symm (fun hsame => hdiffers ?_) hnext
    rw [hsame]
    exact ⟨rfl, rfl⟩

theorem Sound.joinCurrent_mutated (request : JoinPresenceRequest) :
    Ensures (fun result => Mutated r result.1 result.2) (fun _ => True)
      (r.joinCurrent request) := by
  unfold PresenceRouter.joinCurrent
  dsimp only
  cases hexisting : r.entries.lookup ⟨request.connection, request.stream⟩ with
  | none =>
    dsimp only
    rw [ensures_bind, requireNextRevision, ensures_fetch]
    refine ⟨fun revision hnext => ?_, fun _ => trivial⟩
    have hunseen : r.visible (joinRecord request).key = none := by
      rw [visible, PresenceRecord.key, joinRecord, hexisting, Option.bind_none]
    have hleaves : ∀ record, record ∈ ([] : List PresenceRecord) ↔
        False ∧ r.visible record.key = some record := by simp
    refine .applied hnext rfl rfl (.inr fun hsame => ?_) (reports_join (fun _ => False) hleaves
      h.visible_keyed (.inr hunseen) ?_ fun key hne => ⟨False.elim, fun _ => ?_⟩)
    · have hlookup := Finmap.lookup_insert (a := (⟨request.connection, request.stream⟩ :
        PresenceKey)) (b := joinRecord request) r.entries
      rw [show r.entries.insert _ (joinRecord request) = r.entries from hsame, hexisting] at hlookup
      cases hlookup
    · exact congrArg (Option.bind · shown) (Finmap.lookup_insert r.entries)
    · exact congrArg (Option.bind · shown) (Finmap.lookup_insert_of_ne r.entries hne)
  | some existing =>
    dsimp only
    have hrecord := requireRecordInvariants_ok.mpr
      ⟨h.keyed _ _ hexisting, h.established _ _ hexisting⟩
    rw [ensures_bind, hrecord, ensures_ok]
    split
    · exact .idempotent
    · next hdiffers =>
      rw [ensures_bind, requireNextRevision, ensures_fetch]
      refine ⟨fun revision hnext => ?_, fun _ => trivial⟩
      refine h.replaced hexisting rfl (fun hsame => hdiffers ?_) hnext
      rw [hsame]
      exact ⟨rfl, rfl⟩

theorem Sound.joinAdvance_mutated {request : JoinPresenceRequest}
    (hadvance : generationAdvance (r.connections.lookup request.connection) request.generation) :
    Ensures (fun result => Mutated r result.1 result.2) (fun _ => True)
      (r.joinAdvance request) := by
  obtain ⟨swept, hrun, hswept⟩ := swept_connection (r := r)
    "entry disappeared during generation advance" request.connection
  unfold PresenceRouter.joinAdvance
  rw [h.recordsForConnection, ensures_bind, ensures_ok, ensures_bind, requireNextRevision,
    ensures_fetch]
  refine ⟨fun revision hnext => ?_, fun _ => trivial⟩
  rw [h.retired_keys, hrun, ensures_bind, ensures_ok]
  have hleaves : ∀ record, record ∈ swept.leaves ↔
      record.key.connection = request.connection ∧ r.visible record.key = some record := by
    intro record
    rw [sweep_leaves (nodup_keysForConnection _) hrun]
    constructor
    · rintro (hnone | ⟨key, hkey, hseen⟩)
      · cases hnone
      · have hvisible : r.visible key = some record := visible_eq.mpr hseen
        cases h.visible_keyed key record hvisible
        exact ⟨(mem_keysForConnection.mp hkey).2, hvisible⟩
    · rintro ⟨hconnection, hseen⟩
      have hlookup := visible_eq.mp hseen
      exact .inr ⟨record.key, mem_keysForConnection.mpr ⟨mem_of_lookup hlookup.1, hconnection⟩,
        hlookup⟩
  refine .applied hnext rfl rfl (.inl fun hsame => ?_) (reports_join
    (fun key => key.connection = request.connection) hleaves h.visible_keyed (.inl rfl) ?_
    fun key hne => ⟨fun hgone => ?_, fun hkept => ?_⟩)
  · have hlookup := lookup_insert_ite r.connections request.connection request.connection
      ⟨request.generation, request.identity⟩
    rw [show r.connections.insert request.connection _ = r.connections from hsame, if_pos rfl]
      at hlookup
    exact absurd (hadvance _ hlookup) (UInt64.lt_irrefl _)
  · exact congrArg (Option.bind · shown) (Finmap.lookup_insert swept.entries)
  · refine (congrArg (Option.bind · shown) (Finmap.lookup_insert_of_ne swept.entries hne)).trans ?_
    rw [hswept, if_pos hgone, Option.bind_none]
  · refine (congrArg (Option.bind · shown) (Finmap.lookup_insert_of_ne swept.entries hne)).trans ?_
    rw [hswept, if_neg hkept, visible]

theorem Sound.join_mutated (request : JoinPresenceRequest) :
    Ensures (fun result => Mutated r result.1 result.2) (fun _ => True)
      (r.joinPresence request) := by
  unfold PresenceRouter.joinPresence
  rw [ensures_bind]
  refine (admitGeneration_ensures request).mono (fun _ _ _ => ?_) fun _ _ => trivial
  split
  · next hadvance => exact h.joinAdvance_mutated hadvance
  · exact h.joinCurrent_mutated request

end PresenceRouter

inductive RouterRequest where
  | join (request : JoinPresenceRequest)
  | update (request : UpdatePresenceRequest)
  | leave (request : LeavePresenceRequest)
  | remove (request : RemoveConnectionRequest)

structure RouterCall where
  request : RouterRequest
  reply : Except PresenceError PresenceDelta

namespace PresenceRouter

variable {r r' : PresenceRouter}

def serve (r : PresenceRouter) : RouterRequest → Except PresenceError (PresenceDelta × PresenceRouter)
  | .join request => r.joinPresence request
  | .update request => r.updatePresence request
  | .leave request => r.leavePresence request
  | .remove request => r.removeConnection request

def respond (r : PresenceRouter) (request : RouterRequest) :
    Except PresenceError PresenceDelta × PresenceRouter :=
  match r.serve request with
  | .ok (delta, next) => (.ok delta, next)
  | .error error => (.error error, r)

def Misdated (r : PresenceRouter) : RouterRequest → Prop
  | .join request => ∃ current ∈ r.establishedGeneration request.connection,
      request.generation < current
  | .update request => r.establishedGeneration request.connection ≠ some request.generation
  | .leave request => r.establishedGeneration request.connection ≠ some request.generation
  | .remove request => r.establishedGeneration request.connection ≠ some request.generation

theorem requireExactGeneration_ok {connection : ConnectionRef} {generation : ConnectionGeneration}
    (h : r.requireExactGeneration connection generation = .ok ()) :
    r.establishedGeneration connection = some generation := by
  simp only [requireExactGeneration, bind_ok, fetch_ok, require_ok] at h
  obtain ⟨state, hstate, _, hnotless, hnotmore⟩ := h
  rw [UInt64.lt_iff_toNat_lt] at hnotless hnotmore
  have hsame : state.generation = generation := UInt64.toNat_inj.mp (by omega)
  rw [establishedGeneration, hstate, Option.map_some, hsame]

variable {request : RouterRequest}

theorem dated {result : PresenceDelta × PresenceRouter} (h : r.serve request = .ok result) :
    ¬ r.Misdated request := by
  cases request with
  | join request =>
    obtain ⟨_, hadmitted, _⟩ := bind_ok.mp h
    rintro ⟨current, hcurrent, hless⟩
    obtain ⟨state, hstate, rfl⟩ := Option.map_eq_some_iff.mp hcurrent
    exact ((admitGeneration_ensures request).of_ok hadmitted state hstate).1 hless
  | update request | leave request | remove request =>
    obtain ⟨_, hexact, _⟩ := bind_ok.mp h
    exact not_not_intro (requireExactGeneration_ok hexact)

variable {delta : PresenceDelta}

theorem Sound.mutated (h : r.Sound) (hserve : r.serve request = .ok (delta, r')) :
    Mutated r delta r' := by
  cases request with
  | join request => exact (h.join_mutated request).of_ok hserve
  | update request => exact (h.update_mutated request).of_ok hserve
  | leave request => exact (h.leave_mutated request).of_ok hserve
  | remove request => exact (h.remove_mutated request).of_ok hserve

def Later (r r' : PresenceRouter) : Prop :=
  ∀ connection, ∀ current ∈ r.establishedGeneration connection,
    ∃ later ∈ r'.establishedGeneration connection, current ≤ later

theorem later_of_connections (h : r'.connections = r.connections) : Later r r' := by
  intro connection current hcurrent
  refine ⟨current, ?_, UInt64.le_refl _⟩
  rw [establishedGeneration, h]
  exact hcurrent

theorem Joined.later {request : JoinPresenceRequest} (h : Joined r request r') : Later r r' := by
  intro connection current hcurrent
  obtain ⟨state, hstate, rfl⟩ := Option.map_eq_some_iff.mp hcurrent
  rw [establishedGeneration, h.connections]
  by_cases hconnection : connection = request.connection
  · subst hconnection
    rw [if_pos rfl]
    exact ⟨request.generation, rfl, UInt64.not_lt.mp (h.admitted state hstate).1⟩
  · rw [if_neg hconnection]
    exact ⟨state.generation, hcurrent, UInt64.le_refl _⟩

theorem Sound.served (h : r.Sound) (hserve : r.serve request = .ok (delta, r')) :
    r'.Sound ∧ Later r r' := by
  have hrerouted : Rerouted r r' → r'.Sound ∧ Later r r' := fun hrerouted =>
    ⟨hrerouted.sound, later_of_connections hrerouted.connections⟩
  cases request with
  | join request =>
    have hjoined := ((h.joinPresence request).of_ok hserve).2
    exact ⟨hjoined.sound h, hjoined.later⟩
  | update request => exact hrerouted ((h.updatePresence request).of_ok hserve)
  | leave request => exact hrerouted ((h.leavePresence request).of_ok hserve)
  | remove request =>
    exact hrerouted (((removeConnection_ensures request).of_ok hserve).rerouted h)

theorem respond_ok (h : r.respond request = (.ok delta, r')) :
    r.serve request = .ok (delta, r') := by
  unfold respond at h
  split at h
  · next hserve =>
    simp only [Prod.mk.injEq, Except.ok.injEq] at h
    rw [hserve, h.1, h.2]
  · cases h

theorem respond_error {error : PresenceError} (h : r.respond request = (.error error, r')) :
    r' = r := by
  unfold respond at h
  split at h
  · cases h
  · simp only [Prod.mk.injEq] at h
    exact h.2.symm

end PresenceRouter

def presenceRouter : System PresenceRouter RouterCall where
  init r := r = .new
  step r call r' := r.respond call.request = (call.reply, r')

def emitted (calls : List RouterCall) : List PresenceDelta :=
  calls.filterMap fun call => call.reply.toOption

def viewAfter (stream : StreamKey) (deltas : List PresenceDelta) : List PresenceRecord :=
  deltas.foldl (fun view delta => delta.apply stream view) []

structure Answered (r : PresenceRouter) (call : RouterCall) (r' : PresenceRouter) : Prop where
  applied : (∃ delta, call.reply = .ok delta ∧ delta.disposition = .applied ∧
      delta.revision = some r'.revision ∧ r'.revision.toNat = r.revision.toNat + 1) ↔
    r'.connections ≠ r.connections ∨ r'.entries ≠ r.entries
  unmoved : r'.connections = r.connections → r'.entries = r.entries →
    r' = r ∧ ∀ delta, call.reply = .ok delta → delta = .idempotent
  misdated : r.Misdated call.request → r' = r
  later : r.Later r'

section

open PresenceRouter

variable {r r' : PresenceRouter} {call : RouterCall} {delta : PresenceDelta}

theorem reports_public {before after : Visible} (h : Reports before after delta)
    (hpublic : ∀ key record, after key = some record → record.hidden = false) :
    ∀ record ∈ delta.joins ++ delta.updates, record.hidden = false := by
  intro record hrecord
  rcases List.mem_append.mp hrecord with hjoin | hupdate
  · exact hpublic _ _ (h.joins record hjoin).1
  · exact hpublic _ _ (h.updates record hupdate).1

theorem mutated_reports (h : Mutated r delta r') : Reports r.visible r'.visible delta := by
  cases h with
  | idempotent => exact reports_idempotent _
  | applied _ _ _ _ hreports => exact hreports

theorem answered (h : r.Sound) (hstep : presenceRouter.step r call r') : Answered r call r' := by
  obtain ⟨request, reply⟩ := call
  cases reply with
  | error error =>
    obtain rfl : r' = r := respond_error hstep
    exact ⟨by simp, fun _ _ => ⟨rfl, nofun⟩, fun _ => rfl, later_of_connections rfl⟩
  | ok delta =>
    have hserve := respond_ok hstep
    have hlater := (h.served hserve).2
    have hdated := dated hserve
    cases h.mutated hserve with
    | idempotent =>
      refine ⟨?_, fun _ _ => ⟨rfl, fun delta hdelta => (Except.ok.inj hdelta).symm⟩,
        fun hmisdated => absurd hmisdated hdated, hlater⟩
      constructor
      · rintro ⟨delta, hdelta, hdisposition, _⟩
        cases hdelta
        cases hdisposition
      · rintro (hchanged | hchanged)
        · exact absurd rfl hchanged
        · exact absurd rfl hchanged
    | applied hnext hdisposition hrevision hchanged _ =>
      refine ⟨?_, fun hconnections hentries => ?_, fun hmisdated => absurd hmisdated hdated, hlater⟩
      · exact ⟨fun _ => hchanged,
          fun _ => ⟨delta, rfl, hdisposition, hrevision, toNat_nextRevision hnext⟩⟩
      · rcases hchanged with hmoved | hmoved
        · exact absurd hconnections hmoved
        · exact absurd hentries hmoved

theorem emitted_snoc (calls : List RouterCall) (call : RouterCall) :
    emitted (calls ++ [call]) = emitted calls ++ call.reply.toOption.toList := by
  rw [emitted, List.filterMap_append, emitted]
  congr 1

structure Followed (r : PresenceRouter) (calls : List RouterCall) : Prop where
  sound : r.Sound
  view : ∀ stream, ViewOf stream r.visible (viewAfter stream (emitted calls))
  hidden : ∀ delta ∈ emitted calls, ∀ record ∈ delta.joins ++ delta.updates, record.hidden = false

theorem followed_new : Followed .new [] where
  sound := sound_new
  view := by
    intro stream
    refine ⟨List.nodup_nil, fun record => ?_⟩
    simp [viewAfter, emitted, PresenceRouter.visible, PresenceRouter.new]
  hidden := nofun

variable {calls : List RouterCall}

theorem Followed.next (h : Followed r calls) (hstep : presenceRouter.step r call r') :
    Followed r' (calls ++ [call]) := by
  obtain ⟨request, reply⟩ := call
  cases reply with
  | error error =>
    obtain rfl : r' = r := respond_error hstep
    have hsame : emitted (calls ++ [⟨request, .error error⟩]) = emitted calls := by
      rw [emitted_snoc]
      exact List.append_nil _
    exact ⟨h.sound, hsame ▸ h.view, hsame ▸ h.hidden⟩
  | ok delta =>
    have hserve := respond_ok hstep
    have hreports := mutated_reports (h.sound.mutated hserve)
    have hone : emitted (calls ++ [⟨request, .ok delta⟩]) = emitted calls ++ [delta] :=
      emitted_snoc calls _
    refine ⟨(h.sound.served hserve).1, fun stream => ?_, ?_⟩
    · rw [hone, viewAfter, List.foldl_append]
      exact hreports.viewed (h.view stream) h.sound.visible_keyed
    · rw [hone]
      intro delta' hdelta'
      rcases List.mem_append.mp hdelta' with hold | hnew
      · exact h.hidden delta' hold
      · cases List.mem_singleton.mp hnew
        exact reports_public hreports fun _ _ hseen => (visible_eq.mp hseen).2

theorem run_followed {start : PresenceRouter} (hinit : presenceRouter.init start)
    (hrun : Run presenceRouter start calls r) : Followed r calls := by
  induction hrun with
  | nil => exact hinit ▸ followed_new
  | snoc _ hstep ih => exact ih.next hstep

theorem snapshotOrder_connection {a b : PresenceRecord} (h : snapshotOrder a = snapshotOrder b) :
    a.connection = b.connection := by
  simp only [snapshotOrder, EmbeddingLike.apply_eq_iff_eq, Prod.mk.injEq] at h
  obtain ⟨_, hnode, hconnection⟩ := h
  rcases ha : a.connection with ⟨_, _⟩
  rcases hb : b.connection with ⟨_, _⟩
  simp_all

theorem sorted_eq {xs ys : List PresenceRecord} (hxs : (xs.map (·.connection)).Nodup)
    (hys : (ys.map (·.connection)).Nodup) (hsame : ∀ record, record ∈ xs ↔ record ∈ ys) :
    xs.insertionSort (fun a b => snapshotOrder a ≤ snapshotOrder b) =
      ys.insertionSort (fun a b => snapshotOrder a ≤ snapshotOrder b) := by
  have hnodup := List.Nodup.of_map _ hxs
  have hperm : xs.Perm ys := (List.perm_ext_iff_of_nodup hnodup (List.Nodup.of_map _ hys)).mpr hsame
  refine List.Perm.eq_of_pairwise (fun a b ha hb hab hba => ?_) (List.pairwise_insertionSort _ _)
    (List.pairwise_insertionSort _ _)
    ((List.perm_insertionSort _ _).trans (hperm.trans (List.perm_insertionSort _ _).symm))
  have hconnection := snapshotOrder_connection (le_antisymm hab hba)
  rw [List.mem_insertionSort] at ha hb
  exact List.inj_on_of_nodup_map hxs ha ((hsame b).mpr hb) hconnection

theorem snapshot_eq (h : r.Sound) {stream : StreamKey} {view : List PresenceRecord}
    (hview : ViewOf stream r.visible view) : r.snapshot stream .publicOnly =
      .ok (view.insertionSort fun a b => snapshotOrder a ≤ snapshotOrder b) := by
  obtain ⟨records, hrecords⟩ := h.snapshot stream .publicOnly
  have hmem := mem_snapshot hrecords
  unfold PresenceRouter.snapshot at hrecords ⊢
  rw [verifyInvariants_ok.mpr h] at hrecords ⊢
  cases hrecords
  have hentry : ∀ record, (∃ key, r.entries.lookup key = some record) ↔
      r.entries.lookup record.key = some record := by
    intro record
    constructor
    · rintro ⟨key, hlookup⟩
      cases h.keyed key record hlookup
      exact hlookup
    · exact fun hlookup => ⟨_, hlookup⟩
  refine congrArg Except.ok (sorted_eq ?_ hview.nodup fun record => ?_)
  · have hitems : ((items r.entries).map (·.2)).Nodup := by
      refine List.Nodup.map_on ?_ (List.Nodup.of_map (·.1) (items_keys r.entries ▸ nodup_ordered _))
      rintro ⟨key, record⟩ hitem ⟨key', record'⟩ hitem' heq
      obtain rfl : record = record' := heq
      rw [h.keyed key record (mem_items.mp hitem), h.keyed key' record (mem_items.mp hitem')]
    refine List.Nodup.map_on (fun a ha b hb hconnection => ?_) (hitems.filter _)
    rw [← List.mem_insertionSort (r := fun a b => snapshotOrder a ≤ snapshotOrder b)] at ha hb
    obtain ⟨hstream, _, hlookup⟩ := (hmem a).mp ha
    obtain ⟨hstream', _, hlookup'⟩ := (hmem b).mp hb
    rw [hentry] at hlookup hlookup'
    rw [key_eq hconnection (hstream.trans hstream'.symm), hlookup'] at hlookup
    exact (Option.some.inj hlookup).symm
  · rw [← List.mem_insertionSort (r := fun a b => snapshotOrder a ≤ snapshotOrder b), hmem,
      hview.mem, visible_eq, hentry]
    simp [and_comm]

end

theorem presence_deltas_faithful {start r : PresenceRouter} {calls : List RouterCall}
    (hinit : presenceRouter.init start) (hrun : Run presenceRouter start calls r) :
    (∀ stream, r.snapshot stream .publicOnly =
      .ok ((viewAfter stream (emitted calls)).insertionSort fun a b =>
        snapshotOrder a ≤ snapshotOrder b)) ∧
      (∀ delta ∈ emitted calls, ∀ record ∈ delta.joins ++ delta.updates,
        record.hidden = false) ∧
      ∀ call r', presenceRouter.step r call r' → Answered r call r' := by
  have hfollowed := run_followed hinit hrun
  exact ⟨fun stream => snapshot_eq hfollowed.sound (hfollowed.view stream), hfollowed.hidden,
    fun call r' hstep => answered hfollowed.sound hstep⟩

def sampleEntry (label : String) (generation : ConnectionGeneration) : JoinPresenceRequest where
  connection := ⟨"node", "c"⟩
  generation
  stream := ⟨1, Vector.replicate 16 1, Vector.replicate 16 2, label⟩
  identity := ⟨"u", "s", "name"⟩
  status := "on"
  hidden := false

def sampleAdvance : List RouterCall :=
  [⟨.join (sampleEntry "room" 1),
      .ok (.applied 1 [PresenceRouter.joinRecord (sampleEntry "room" 1)] [] [] 0)⟩,
    ⟨.join (sampleEntry "hall" 2),
      .ok (.applied 2 [PresenceRouter.joinRecord (sampleEntry "hall" 2)] []
        [PresenceRouter.joinRecord (sampleEntry "room" 1)] 0)⟩]

def sampleEntered : PresenceRouter :=
  (PresenceRouter.new.respond (.join (sampleEntry "room" 1))).2

def sampleAdvanced : PresenceRouter := (sampleEntered.respond (.join (sampleEntry "hall" 2))).2

theorem sample_advance : Run presenceRouter .new sampleAdvance sampleAdvanced := by
  have hroom : presenceRouter.step .new ⟨.join (sampleEntry "room" 1),
      .ok (.applied 1 [PresenceRouter.joinRecord (sampleEntry "room" 1)] [] [] 0)⟩
      sampleEntered := rfl
  exact (Run.single hroom).snoc rfl

theorem presence_deltas_faithful_sample :
    sampleAdvanced.snapshot (sampleEntry "room" 1).stream .publicOnly = .ok [] ∧
      sampleAdvanced.snapshot (sampleEntry "hall" 2).stream .publicOnly =
        .ok [PresenceRouter.joinRecord (sampleEntry "hall" 2)] := by
  have hfaithful := (presence_deltas_faithful rfl sample_advance).1
  exact ⟨(hfaithful _).trans (by decide +kernel), (hfaithful _).trans (by decide +kernel)⟩

end Presence
