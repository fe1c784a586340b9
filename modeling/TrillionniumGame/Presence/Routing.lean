import TrillionniumGame.Presence.Router

namespace Presence
open Checks FiniteMap

def PresenceError.Internal (error : PresenceError) : Prop :=
  ∃ text, error = .invariantViolation text

def External (error : PresenceError) : Prop := ¬ error.Internal

structure Swept (keys : List PresenceKey) (entries : Dict PresenceKey PresenceRecord)
    (sweep : Sweep) : Prop where
  lookup : ∀ key, sweep.entries.lookup key = if key ∈ keys then none else entries.lookup key

theorem swept_run (text : String) (sweep : Sweep) (keys : List PresenceKey) (hnodup : keys.Nodup)
    (hkeys : ∀ key ∈ keys, key ∈ sweep.entries) :
    ∃ swept, Sweep.run text sweep keys = .ok swept ∧ Swept keys sweep.entries swept := by
  induction keys generalizing sweep with
  | nil => exact ⟨sweep, rfl, ⟨fun key => by simp⟩⟩
  | cons key rest ih =>
    obtain ⟨removed, hremoved⟩ := Finmap.mem_iff.mp (hkeys key List.mem_cons_self)
    obtain ⟨hnotin, hrest⟩ := List.nodup_cons.mp hnodup
    have hstep : ∃ next, sweep.remove text key = .ok next ∧
        next.entries = sweep.entries.erase key := by
      unfold Sweep.remove
      rw [hremoved]
      refine ⟨_, rfl, ?_⟩
      split <;> rfl
    obtain ⟨next, hnext, hentries⟩ := hstep
    have hpresent : ∀ key' ∈ rest, key' ∈ next.entries := by
      intro key' hkey'
      have hne : key' ≠ key := fun heq => hnotin (heq ▸ hkey')
      rw [hentries, Finmap.mem_erase]
      exact ⟨hne, hkeys key' (List.mem_cons_of_mem _ hkey')⟩
    obtain ⟨swept, hrun, hswept⟩ := ih next hrest hpresent
    refine ⟨swept, ?_, ⟨?_⟩⟩
    · rw [Sweep.run, hnext]
      exact hrun
    · intro key'
      rw [hswept.lookup, hentries, lookup_erase_ite]
      by_cases hkey : key' = key
      · simp [hkey]
      · simp [hkey]

namespace PresenceRouter

structure Sound (r : PresenceRouter) : Prop where
  keyed : ∀ key record, r.entries.lookup key = some record →
    key = ⟨record.connection, record.stream⟩
  established : ∀ key record, r.entries.lookup key = some record →
    r.connections.lookup record.connection = some ⟨record.generation, record.identity⟩

variable {r r' : PresenceRouter} {key : PresenceKey}

theorem requireRecordInvariants_ok {record : PresenceRecord} :
    r.requireRecordInvariants key record = .ok () ↔ key = ⟨record.connection, record.stream⟩ ∧
      r.connections.lookup record.connection = some ⟨record.generation, record.identity⟩ := by
  obtain ⟨connection, stream⟩ := key
  unfold requireRecordInvariants
  simp only [bind_ok, require_ok, fetch_ok, PresenceKey.mk.injEq]
  constructor
  · rintro ⟨_, hkey, ⟨generation, identity⟩, hstate, _, rfl, rfl⟩
    exact ⟨hkey, hstate⟩
  · rintro ⟨hkey, hstate⟩
    exact ⟨(), hkey, _, hstate, (), rfl, rfl⟩

theorem verifyInvariants_ok : r.verifyInvariants = .ok () ↔ r.Sound := by
  unfold verifyInvariants
  rw [forM_ok]
  constructor
  · intro h
    have hrecord : ∀ key record, r.entries.lookup key = some record → _ := fun key record hlookup =>
      requireRecordInvariants_ok.mp (h (key, record) (mem_items.mpr hlookup))
    exact ⟨fun key record hlookup => (hrecord key record hlookup).1,
      fun key record hlookup => (hrecord key record hlookup).2⟩
  · rintro h ⟨key, record⟩ hitem
    have hlookup := mem_items.mp hitem
    exact requireRecordInvariants_ok.mpr ⟨h.keyed key record hlookup, h.established key record hlookup⟩

theorem sound_new : new.Sound := by
  refine ⟨?_, ?_⟩ <;> simp [new]

variable {connection : ConnectionRef}

theorem mem_entriesOf {entry : PresenceKey × PresenceRecord} :
    entry ∈ r.entriesOf connection ↔
      r.entries.lookup entry.1 = some entry.2 ∧ entry.1.connection = connection := by
  obtain ⟨key, record⟩ := entry
  simp only [entriesOf, List.mem_filter, mem_items, decide_eq_true_eq]

theorem nodup_keysForConnection (connection : ConnectionRef) :
    (r.keysForConnection connection).Nodup := by
  have hsub : (r.keysForConnection connection).Sublist ((items r.entries).map (·.1)) :=
    List.filter_sublist.map _
  refine hsub.nodup ?_
  rw [items_keys]
  exact nodup_ordered _

theorem mem_keysForConnection :
    key ∈ r.keysForConnection connection ↔ key ∈ r.entries ∧ key.connection = connection := by
  simp only [keysForConnection, List.mem_map, mem_entriesOf, Finmap.mem_iff]
  constructor
  · rintro ⟨⟨key', record⟩, ⟨hlookup, hconnection⟩, rfl⟩
    exact ⟨⟨record, hlookup⟩, hconnection⟩
  · rintro ⟨⟨record, hlookup⟩, hconnection⟩
    exact ⟨(key, record), ⟨hlookup, hconnection⟩, rfl⟩

theorem Sound.recordsForConnection (h : r.Sound) (connection : ConnectionRef) :
    r.recordsForConnection connection = .ok ((r.entriesOf connection).map (·.2)) := by
  have hforM : (r.entriesOf connection).forM
      (fun entry => r.requireRecordInvariants entry.1 entry.2) = .ok () := by
    rw [forM_ok]
    rintro ⟨key, record⟩ hentry
    have hlookup := (mem_entriesOf.mp hentry).1
    exact requireRecordInvariants_ok.mpr ⟨h.keyed _ _ hlookup, h.established _ _ hlookup⟩
  unfold PresenceRouter.recordsForConnection
  rw [hforM]
  rfl

theorem Sound.retired_keys (h : r.Sound) (connection : ConnectionRef) :
    ((r.entriesOf connection).map (·.2)).map
      (fun record => (⟨record.connection, record.stream⟩ : PresenceKey)) =
      r.keysForConnection connection := by
  rw [List.map_map, PresenceRouter.keysForConnection]
  refine List.map_congr_left ?_
  rintro ⟨key, record⟩ hentry
  exact (h.keyed key record (mem_entriesOf.mp hentry).1).symm

theorem swept_connection (text : String) (connection : ConnectionRef) :
    ∃ swept, Sweep.run text ⟨r.entries, [], 0⟩ (r.keysForConnection connection) = .ok swept ∧
      ∀ key, swept.entries.lookup key =
        if key.connection = connection then none else r.entries.lookup key := by
  obtain ⟨swept, hrun, hswept⟩ := swept_run text ⟨r.entries, [], 0⟩ _
    (nodup_keysForConnection connection) fun key hkey => (mem_keysForConnection.mp hkey).1
  refine ⟨swept, hrun, ?_⟩
  intro key
  rw [hswept.lookup]
  by_cases hconnection : key.connection = connection
  · by_cases hmem : key ∈ r.entries
    · rw [if_pos (mem_keysForConnection.mpr ⟨hmem, hconnection⟩), if_pos hconnection]
    · rw [if_neg fun hkey => hmem (mem_keysForConnection.mp hkey).1, if_pos hconnection]
      exact Finmap.lookup_eq_none.mpr hmem
  · rw [if_neg fun hkey => hconnection (mem_keysForConnection.mp hkey).2, if_neg hconnection]

structure Joined (r : PresenceRouter) (request : JoinPresenceRequest) (r' : PresenceRouter) :
    Prop where
  admitted : ∀ state ∈ r.connections.lookup request.connection,
    ¬ request.generation < state.generation ∧
      (request.generation = state.generation → request.identity = state.identity)
  connections : ∀ connection, r'.connections.lookup connection =
    if connection = request.connection then some ⟨request.generation, request.identity⟩
    else r.connections.lookup connection
  entries : ∀ key, r'.entries.lookup key =
    if key = ⟨request.connection, request.stream⟩ then some (joinRecord request)
    else if key.connection = request.connection ∧
        generationAdvance (r.connections.lookup request.connection) request.generation then none
    else r.entries.lookup key

theorem admitGeneration_ensures (request : JoinPresenceRequest) :
    Ensures (fun _ => ∀ state ∈ r.connections.lookup request.connection,
      ¬ request.generation < state.generation ∧
        (request.generation = state.generation → request.identity = state.identity))
      External (r.admitGeneration request) := by
  unfold admitGeneration
  cases hstate : r.connections.lookup request.connection with
  | none => simp [ensures_ok]
  | some state =>
    simp only [ensures_bind, ensures_require, Option.mem_def, Option.some.injEq, forall_eq']
    refine ⟨fun hold => ⟨fun hsame => ⟨hold, hsame⟩, fun _ => ?_⟩, fun _ => ?_⟩
    · simp [External, PresenceError.Internal]
    · simp [External, PresenceError.Internal]

theorem requireNextRevision_ensures : Ensures (fun _ => True) External r.requireNextRevision := by
  simp [requireNextRevision, ensures_fetch, External, PresenceError.Internal]

variable {request : JoinPresenceRequest}

theorem Sound.joinAdvance (h : r.Sound)
    (hadmitted : ∀ state ∈ r.connections.lookup request.connection,
      ¬ request.generation < state.generation ∧
        (request.generation = state.generation → request.identity = state.identity))
    (hadvance : generationAdvance (r.connections.lookup request.connection) request.generation) :
    Ensures (fun result => result.1.disposition = .applied ∧ Joined r request result.2) External
      (r.joinAdvance request) := by
  obtain ⟨swept, hrun, hswept⟩ := swept_connection (r := r)
    "entry disappeared during generation advance" request.connection
  unfold PresenceRouter.joinAdvance
  rw [h.recordsForConnection, ensures_bind, ensures_ok, ensures_bind]
  refine requireNextRevision_ensures.mono (fun revision _ _ => ?_) fun _ => id
  rw [h.retired_keys, hrun, ensures_bind, ensures_ok]
  refine ⟨rfl, hadmitted, ?_, ?_⟩
  · intro connection
    rw [lookup_insert_ite]
  · intro key
    rw [lookup_insert_ite, hswept]
    simp [hadvance]

theorem not_advance {current : Option ConnectionState} {generation : ConnectionGeneration}
    (h : ¬ generationAdvance current generation) :
    ∃ state, current = some state ∧ ¬ state.generation < generation := by
  cases current with
  | none => simp [generationAdvance] at h
  | some state => exact ⟨state, rfl, by simpa [generationAdvance] using h⟩

theorem Sound.joinCurrent (h : r.Sound)
    (hadmitted : ∀ state ∈ r.connections.lookup request.connection,
      ¬ request.generation < state.generation ∧
        (request.generation = state.generation → request.identity = state.identity))
    (hadvance : ¬ generationAdvance (r.connections.lookup request.connection) request.generation) :
    Ensures (fun result => (result.1.disposition = .idempotent → result.2 = r) ∧
      Joined r request result.2) External (r.joinCurrent request) := by
  obtain ⟨state, hstate, hnotless⟩ := not_advance hadvance
  obtain ⟨hnotmore, hidentity⟩ := hadmitted state hstate
  have hgeneration : request.generation = state.generation := by
    rw [UInt64.lt_iff_toNat_lt] at hnotless hnotmore
    exact UInt64.toNat_inj.mp (by omega)
  have hconnections : ∀ connection, r.connections.lookup connection =
      if connection = request.connection then some ⟨request.generation, request.identity⟩
      else r.connections.lookup connection := by
    intro connection
    split
    · next heq => rw [heq, hstate, hgeneration, hidentity hgeneration]
    · rfl
  have hinserted : ∀ revision, Joined r request { r with
      revision
      entries := r.entries.insert ⟨request.connection, request.stream⟩ (joinRecord request) } := by
    refine fun revision => ⟨hadmitted, hconnections, fun key => ?_⟩
    rw [lookup_insert_ite]
    simp [hadvance]
  unfold PresenceRouter.joinCurrent
  dsimp only
  cases hexisting : r.entries.lookup ⟨request.connection, request.stream⟩ with
  | none =>
    dsimp only
    rw [ensures_bind]
    refine requireNextRevision_ensures.mono (fun revision _ _ => ?_) fun _ => id
    exact ⟨fun hdisposition => (nomatch hdisposition), hinserted revision⟩
  | some existing =>
    have hkeyed := h.keyed _ _ hexisting
    have hestablished := h.established _ _ hexisting
    simp only [PresenceKey.mk.injEq] at hkeyed
    rw [← hkeyed.1, hstate, Option.some.injEq] at hestablished
    have hrecord := requireRecordInvariants_ok.mpr
      ⟨h.keyed _ _ hexisting, h.established _ _ hexisting⟩
    dsimp only
    rw [ensures_bind, hrecord, ensures_ok]
    split
    · next hsame =>
      refine ⟨fun _ => rfl, hadmitted, hconnections, fun key => ?_⟩
      have hrequested : existing = joinRecord request := by
        rw [hestablished] at hgeneration hidentity
        have hrequest := hidentity hgeneration
        obtain ⟨connection, generation, stream, identity, status, hidden⟩ := existing
        simp_all [joinRecord]
      split
      · next heq => rw [heq, hexisting, hrequested]
      · simp [hadvance]
    · rw [ensures_bind]
      refine requireNextRevision_ensures.mono (fun revision _ _ => ?_) fun _ => id
      refine ⟨fun hdisposition => ?_, hinserted revision⟩
      rcases existing with ⟨_, _, _, _, _, _ | _⟩ <;> rcases hhidden : request.hidden with _ | _ <;>
        simp [classifyVisibilityChange, joinRecord, hhidden, PresenceDelta.applied] at hdisposition

theorem Sound.joinPresence (h : r.Sound) (request : JoinPresenceRequest) :
    Ensures (fun result => (result.1.disposition = .idempotent → result.2 = r) ∧
      Joined r request result.2) External (r.joinPresence request) := by
  unfold PresenceRouter.joinPresence
  rw [ensures_bind]
  refine (admitGeneration_ensures request).mono (fun _ _ hadmitted => ?_) fun _ => id
  split
  · next hadvance =>
    refine (h.joinAdvance hadmitted hadvance).mono (fun result _ hjoined => ?_) fun _ => id
    refine ⟨fun hidempotent => ?_, hjoined.2⟩
    rw [hjoined.1] at hidempotent
    cases hidempotent
  · next hadvance => exact h.joinCurrent hadmitted hadvance

section

variable (hjoined : Joined r request r')
include hjoined

theorem Joined.sound (h : r.Sound) : r'.Sound := by
  have hold : ∀ key record, r'.entries.lookup key = some record →
      (key = ⟨request.connection, request.stream⟩ ∧ record = joinRecord request) ∨
      (r.entries.lookup key = some record ∧ (record.connection = request.connection →
        (⟨request.generation, request.identity⟩ : ConnectionState) =
          ⟨record.generation, record.identity⟩)) := by
    intro key record hlookup
    rw [hjoined.entries] at hlookup
    split at hlookup
    · next hkey => exact .inl ⟨hkey, (Option.some.injEq _ _ ▸ hlookup).symm⟩
    · split at hlookup
      · cases hlookup
      · next hkept =>
        refine .inr ⟨hlookup, fun hconnection => ?_⟩
        have hkey : key.connection = request.connection := by
          rw [h.keyed _ _ hlookup, hconnection]
        obtain ⟨state, hstate, hnotless⟩ := not_advance fun hadvance => hkept ⟨hkey, hadvance⟩
        obtain ⟨hnotmore, hidentity⟩ := hjoined.admitted state hstate
        have hgeneration : request.generation = state.generation := by
          rw [UInt64.lt_iff_toNat_lt] at hnotless hnotmore
          exact UInt64.toNat_inj.mp (by omega)
        have hestablished := h.established _ _ hlookup
        rw [hconnection, hstate, Option.some.injEq] at hestablished
        rw [← hestablished, hgeneration, hidentity hgeneration]
  refine ⟨?_, ?_⟩
  · intro key record hlookup
    rcases hold key record hlookup with ⟨hkey, rfl⟩ | ⟨hkept, _⟩
    · exact hkey
    · exact h.keyed key record hkept
  · intro key record hlookup
    rw [hjoined.connections]
    rcases hold key record hlookup with ⟨_, rfl⟩ | ⟨hkept, hsame⟩
    · exact if_pos rfl
    · split
      · next heq => rw [hsame heq]
      · exact h.established key record hkept

theorem Joined.keys_of_advance
    (hadvance : generationAdvance (r.connections.lookup request.connection) request.generation) :
    r'.entries.keys = insert ⟨request.connection, request.stream⟩
      (r.entries.keys.filter fun key => ¬ key.connection = request.connection) := by
  ext key
  rw [Finmap.mem_keys, Finmap.mem_iff, hjoined.entries, Finset.mem_insert, Finset.mem_filter,
    Finmap.mem_keys, Finmap.mem_iff]
  by_cases hkey : key = ⟨request.connection, request.stream⟩
  · simp [hkey]
  · by_cases hconnection : key.connection = request.connection
    · simp [hkey, hconnection, hadvance]
    · simp [hkey, hconnection]

theorem Joined.keys_of_current
    (hadvance : ¬ generationAdvance (r.connections.lookup request.connection) request.generation) :
    r'.entries.keys = insert ⟨request.connection, request.stream⟩ r.entries.keys := by
  ext key
  rw [Finmap.mem_keys, Finmap.mem_iff, hjoined.entries, Finset.mem_insert, Finmap.mem_keys,
    Finmap.mem_iff]
  by_cases hkey : key = ⟨request.connection, request.stream⟩
  · simp [hkey]
  · simp [hkey, hadvance]

theorem Joined.connection_keys :
    r'.connections.keys = insert request.connection r.connections.keys := by
  ext connection
  rw [Finmap.mem_keys, Finmap.mem_iff, hjoined.connections, Finset.mem_insert, Finmap.mem_keys,
    Finmap.mem_iff]
  by_cases hconnection : connection = request.connection
  · simp [hconnection]
  · simp [hconnection]

end

theorem length_keysForConnection (connection : ConnectionRef) :
    (r.keysForConnection connection).length =
      (r.entries.keys.filter fun key => key.connection = connection).card := by
  rw [← List.toFinset_card_of_nodup (nodup_keysForConnection connection)]
  congr 1
  ext key
  simp [mem_keysForConnection, Finmap.mem_keys]

theorem Sound.entryCountForConnection (h : r.Sound) (connection : ConnectionRef) :
    r.entryCountForConnection connection =
      .ok (r.entries.keys.filter fun key => key.connection = connection).card := by
  unfold PresenceRouter.entryCountForConnection
  rw [h.recordsForConnection, ← length_keysForConnection, keysForConnection]
  simp [bind, Except.bind, pure, Except.pure]

theorem mem_snapshot {stream : StreamKey} {visibility : SnapshotVisibility}
    {records : List PresenceRecord} (hsnapshot : r.snapshot stream visibility = .ok records)
    (record : PresenceRecord) : record ∈ records ↔ record.stream = stream ∧
      (visibility = .includeHidden ∨ record.hidden = false) ∧
      ∃ key, r.entries.lookup key = some record := by
  unfold snapshot at hsnapshot
  obtain ⟨_, _, hrecords⟩ := bind_ok.mp hsnapshot
  cases hrecords
  rw [List.mem_insertionSort, List.mem_filter, List.mem_map]
  constructor
  · rintro ⟨⟨⟨key, record⟩, hitem, rfl⟩, hvisible⟩
    have hboth := of_decide_eq_true hvisible
    exact ⟨hboth.1, hboth.2, key, mem_items.mp hitem⟩
  · rintro ⟨hstream, hvisible, key, hlookup⟩
    exact ⟨⟨(key, record), mem_items.mpr hlookup, rfl⟩, decide_eq_true ⟨hstream, hvisible⟩⟩

theorem Sound.snapshot (h : r.Sound) (stream : StreamKey) (visibility : SnapshotVisibility) :
    ∃ records, r.snapshot stream visibility = .ok records := by
  unfold PresenceRouter.snapshot
  rw [verifyInvariants_ok.mpr h]
  exact ⟨_, rfl⟩

structure Rerouted (r r' : PresenceRouter) : Prop where
  sound : r'.Sound
  connections : r'.connections = r.connections
  entries : ∀ key, key ∈ r'.entries → key ∈ r.entries

theorem Rerouted.refl (h : r.Sound) : Rerouted r r := ⟨h, rfl, fun _ => id⟩

theorem requireExactGeneration_ensures (connection : ConnectionRef)
    (received : ConnectionGeneration) :
    Ensures (fun _ => True) External (r.requireExactGeneration connection received) := by
  simp [requireExactGeneration, ensures_bind, ensures_fetch, ensures_require, External,
    PresenceError.Internal]

theorem Sound.updatePresence (h : r.Sound) (request : UpdatePresenceRequest) :
    Ensures (fun result => Rerouted r result.2) External (r.updatePresence request) := by
  unfold PresenceRouter.updatePresence
  rw [ensures_bind]
  refine (requireExactGeneration_ensures _ _).mono (fun _ _ _ => ?_) fun _ => id
  rw [ensures_bind, ensures_fetch]
  refine ⟨fun existing hexisting => ?_, fun _ => by simp [External, PresenceError.Internal]⟩
  have hkeyed := h.keyed _ _ hexisting
  have hestablished := h.established _ _ hexisting
  rw [requireRecordInvariants_ok.mpr ⟨hkeyed, hestablished⟩, ensures_bind, ensures_ok]
  split
  · exact .refl h
  · rw [ensures_bind]
    refine requireNextRevision_ensures.mono (fun revision _ _ => ?_) fun _ => id
    refine ⟨⟨?_, ?_⟩, rfl, ?_⟩
    · intro key record hlookup
      rw [lookup_insert_ite] at hlookup
      split at hlookup
      · next heq =>
        cases hlookup
        rw [heq]
        exact hkeyed
      · exact h.keyed key record hlookup
    · intro key record hlookup
      rw [lookup_insert_ite] at hlookup
      split at hlookup
      · cases hlookup
        exact hestablished
      · exact h.established key record hlookup
    · intro key hkey
      rcases Finmap.mem_insert.mp hkey with rfl | hold
      · exact mem_of_lookup hexisting
      · exact hold

theorem Sound.of_subset (h : r.Sound) (hconnections : r'.connections = r.connections)
    (hentries : ∀ key record, r'.entries.lookup key = some record →
      r.entries.lookup key = some record) : Rerouted r r' := by
  refine ⟨⟨fun key record hlookup => h.keyed key record (hentries key record hlookup), ?_⟩,
    hconnections, ?_⟩
  · intro key record hlookup
    rw [hconnections]
    exact h.established key record (hentries key record hlookup)
  · intro key hkey
    obtain ⟨record, hlookup⟩ := Finmap.mem_iff.mp hkey
    exact mem_of_lookup (hentries key record hlookup)

theorem Sound.leavePresence (h : r.Sound) (request : LeavePresenceRequest) :
    Ensures (fun result => Rerouted r result.2) External (r.leavePresence request) := by
  unfold PresenceRouter.leavePresence
  rw [ensures_bind]
  refine (requireExactGeneration_ensures _ _).mono (fun _ _ _ => ?_) fun _ => id
  dsimp only
  split
  · exact .refl h
  · next existing hexisting =>
    have hrecord := requireRecordInvariants_ok.mpr
      ⟨h.keyed _ _ hexisting, h.established _ _ hexisting⟩
    rw [ensures_bind, hrecord, ensures_ok, ensures_bind]
    refine requireNextRevision_ensures.mono (fun revision _ _ => ?_) fun _ => id
    obtain ⟨swept, hrun, hswept⟩ := swept_run "entry disappeared during leave" ⟨r.entries, [], 0⟩
      [⟨request.connection, request.stream⟩] (List.nodup_singleton _)
      (by simpa using mem_of_lookup hexisting)
    rw [hrun, ensures_bind, ensures_ok]
    refine h.of_subset rfl fun key record hlookup => ?_
    rw [hswept.lookup] at hlookup
    split at hlookup
    · cases hlookup
    · exact hlookup

structure Disconnected (r : PresenceRouter) (connection : ConnectionRef) (r' : PresenceRouter) :
    Prop where
  connections : r'.connections = r.connections
  entries : ∀ key, r'.entries.lookup key =
    if key.connection = connection then none else r.entries.lookup key

theorem Disconnected.rerouted (h : r.Sound) (hdisconnected : Disconnected r connection r') :
    Rerouted r r' := by
  refine h.of_subset hdisconnected.connections fun key record hlookup => ?_
  rw [hdisconnected.entries] at hlookup
  split at hlookup
  · cases hlookup
  · exact hlookup

theorem removeConnection_ensures (request : RemoveConnectionRequest) :
    Ensures (fun result => Disconnected r request.connection result.2) External
      (r.removeConnection request) := by
  unfold removeConnection
  rw [ensures_bind]
  refine (requireExactGeneration_ensures _ _).mono (fun _ _ _ => ?_) fun _ => id
  dsimp only
  split
  · next hnone =>
    refine ⟨rfl, fun key => ?_⟩
    split
    · next hconnection =>
      refine Finmap.lookup_eq_none.mpr fun hkey => ?_
      have hmem := mem_keysForConnection.mpr ⟨hkey, hconnection⟩
      rw [hnone] at hmem
      cases hmem
    · rfl
  · rw [ensures_bind]
    refine requireNextRevision_ensures.mono (fun revision _ _ => ?_) fun _ => id
    obtain ⟨swept, hrun, hswept⟩ := swept_connection (r := r)
      "entry disappeared during connection removal" request.connection
    rw [hrun, ensures_bind, ensures_ok]
    exact ⟨rfl, hswept⟩

end PresenceRouter

end Presence
