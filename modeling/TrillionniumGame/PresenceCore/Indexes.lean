import TrillionniumGame.PresenceCore.Router

namespace PresenceCore
open Calls Checks FiniteMap Runs
open Persistence (DomainError UserId)

def ConnectionRecord.identity (record : ConnectionRecord) :
    ConnectionId × SessionId × UserId × UInt64 :=
  (record.connection, record.session, record.user, record.userRevocationEpoch)

namespace RouterState

variable {r r' r'' : RouterState}

structure Indexed (r : RouterState) : Prop where
  named : ∀ c record, r.connections.lookup c = some record → record.connection = c
  keyed : ∀ key presence, r.presences.lookup key = some presence → presence.key = key
  sessions : Groups r.sessions (grouped r.connections fun _ record => record.session)
  users : Groups r.users (grouped r.connections fun _ record => record.user)
  streams : Groups r.streams (grouped r.presences fun key _ => key.stream)
  attached : ∀ key presence, r.presences.lookup key = some presence →
    ∃ record, r.connections.lookup presence.connection = some record ∧
      record.user = key.user ∧ record.session = key.session

structure Within (r : RouterState) : Prop where
  connections : r.connectionCount ≤ r.limits.maxConnections
  perSession : ∀ session, (members r.sessions session).card ≤ r.limits.maxConnectionsPerSession
  presences : r.presenceCount ≤ r.limits.maxPresences
  perStream : ∀ stream, (members r.streams stream).card ≤ r.limits.maxPresencesPerStream

structure Kept (r r' : RouterState) : Prop where
  same : r' = { r with connections := r'.connections }
  identity : ∀ c, (r'.connections.lookup c).map ConnectionRecord.identity =
    (r.connections.lookup c).map ConnectionRecord.identity

theorem Kept.refl (r : RouterState) : Kept r r := ⟨rfl, fun _ => rfl⟩

theorem Kept.trans (h : Kept r r') (h' : Kept r' r'') : Kept r r'' := by
  refine ⟨?_, fun c => (h'.identity c).trans (h.identity c)⟩
  rw [h'.same, h.same]

variable {c : ConnectionId} {record : ConnectionRecord}

theorem kept_setConnection {current : ConnectionRecord}
    (hcurrent : r.connections.lookup c = some current)
    (hsame : record.identity = current.identity) : Kept r (r.setConnection c record) := by
  refine ⟨rfl, fun c' => ?_⟩
  rw [setConnection, lookup_insert_ite]
  split
  · next heq => rw [heq, hcurrent, Option.map_some, Option.map_some, hsame]
  · rfl

variable {record' : ConnectionRecord}

theorem Kept.old (h : Kept r r') (hrecord : r'.connections.lookup c = some record') :
    ∃ record, r.connections.lookup c = some record ∧ record.identity = record'.identity := by
  have hidentity := h.identity c
  rw [hrecord, Option.map_some] at hidentity
  exact Option.map_eq_some_iff.mp hidentity.symm

theorem Kept.new (h : Kept r r') (hrecord : r.connections.lookup c = some record) :
    ∃ record', r'.connections.lookup c = some record' ∧ record'.identity = record.identity := by
  have hidentity := h.identity c
  rw [hrecord, Option.map_some] at hidentity
  exact Option.map_eq_some_iff.mp hidentity

theorem Kept.keys (h : Kept r r') : r'.connections.keys = r.connections.keys := by
  ext c
  rw [Finmap.mem_keys, Finmap.mem_keys, Finmap.mem_iff, Finmap.mem_iff]
  constructor
  · rintro ⟨record', hrecord'⟩
    obtain ⟨record, hrecord, _⟩ := h.old hrecord'
    exact ⟨record, hrecord⟩
  · rintro ⟨record, hrecord⟩
    obtain ⟨record', hrecord', _⟩ := h.new hrecord
    exact ⟨record', hrecord'⟩

theorem Kept.grouped {G : Type} (h : Kept r r') {group : ConnectionRecord → G}
    (hgroup : ∀ record record', record.identity = record'.identity → group record = group record')
    (c : ConnectionId) (g : G) : grouped r'.connections (fun _ record => group record) c g ↔
      grouped r.connections (fun _ record => group record) c g := by
  constructor
  · rintro ⟨record', hrecord', hg⟩
    obtain ⟨record, hrecord, hidentity⟩ := h.old hrecord'
    exact ⟨record, hrecord, (hgroup _ _ hidentity).trans hg⟩
  · rintro ⟨record, hrecord, hg⟩
    obtain ⟨record', hrecord', hidentity⟩ := h.new hrecord
    exact ⟨record', hrecord', (hgroup _ _ hidentity).trans hg⟩

theorem identity_session (h : record.identity = record'.identity) :
    record.session = record'.session := by
  simp only [ConnectionRecord.identity, Prod.mk.injEq] at h
  exact h.2.1

theorem identity_user (h : record.identity = record'.identity) : record.user = record'.user := by
  simp only [ConnectionRecord.identity, Prod.mk.injEq] at h
  exact h.2.2.1

theorem Kept.indexed (h : Kept r r') (hindexed : r.Indexed) : r'.Indexed where
  named := by
    intro c record' hrecord'
    obtain ⟨record, hrecord, hidentity⟩ := h.old hrecord'
    rw [← hindexed.named c record hrecord]
    exact (congrArg Prod.fst hidentity).symm
  keyed := by
    rw [h.same]
    exact hindexed.keyed
  sessions := by
    rw [congrArg RouterState.sessions h.same]
    exact hindexed.sessions.congr (h.grouped fun _ _ => identity_session)
  users := by
    rw [congrArg RouterState.users h.same]
    exact hindexed.users.congr (h.grouped fun _ _ => identity_user)
  streams := by
    rw [h.same]
    exact hindexed.streams
  attached := by
    intro key presence hpresence
    rw [congrArg RouterState.presences h.same] at hpresence
    obtain ⟨record, hrecord, huser, hsession⟩ := hindexed.attached key presence hpresence
    obtain ⟨record', hrecord', hidentity⟩ := h.new hrecord
    exact ⟨record', hrecord', (identity_user hidentity).trans huser,
      (identity_session hidentity).trans hsession⟩

theorem Kept.within (h : Kept r r') (hwithin : r.Within) : r'.Within := by
  obtain ⟨hconnections, hsessions, hpresences, hstreams⟩ := hwithin
  have hkeys := h.keys
  rw [connectionCount, ← hkeys] at hconnections
  have hsame := h.same
  refine ⟨?_, ?_, ?_, ?_⟩
  · rwa [connectionCount, congrArg RouterState.limits hsame]
  · rwa [congrArg RouterState.sessions hsame, congrArg RouterState.limits hsame]
  · rwa [presenceCount, congrArg RouterState.presences hsame, congrArg RouterState.limits hsame]
  · rwa [congrArg RouterState.streams hsame, congrArg RouterState.limits hsame]

variable {key : PresenceKey}

theorem removePresence_some {presence : PresenceRecord} :
    r.removePresence key = some (presence, r') ↔ r.presences.lookup key = some presence ∧
      r' = { r with
        presences := r.presences.erase key
        streams := expel r.streams key.stream key } := by
  simp only [removePresence, Option.bind_eq_bind, Option.bind_eq_some_iff, Option.pure_def,
    Option.some.injEq, Prod.mk.injEq]
  constructor
  · rintro ⟨found, hfound, rfl, rfl⟩
    exact ⟨hfound, rfl⟩
  · rintro ⟨hfound, rfl⟩
    exact ⟨presence, hfound, rfl, rfl⟩

def Streamed (r : RouterState) : Prop :=
  Groups r.streams (grouped r.presences fun key _ => key.stream)

structure Swept (keys : List PresenceKey) (r r' : RouterState) : Prop where
  same : r' = { r with presences := r'.presences, streams := r'.streams }
  presences : ∀ key, r'.presences.lookup key =
    if key ∈ keys then none else r.presences.lookup key
  streams : r.Streamed → r'.Streamed

theorem swept_removePresence (r : RouterState) (key : PresenceKey) :
    Swept [key] r ((r.removePresence key).elim r Prod.snd) := by
  cases hremoved : r.removePresence key with
  | none =>
    have hnone : r.presences.lookup key = none := by
      cases hpresence : r.presences.lookup key with
      | none => rfl
      | some presence => simp [removePresence, hpresence] at hremoved
    refine ⟨rfl, fun key' => ?_, id⟩
    split
    · next hmem =>
      rw [List.mem_singleton.mp hmem]
      exact hnone
    · rfl
  | some result =>
    obtain ⟨presence, r'⟩ := result
    obtain ⟨hpresence, rfl⟩ := removePresence_some.mp hremoved
    refine ⟨rfl, fun key' => ?_, fun hstreamed => Groups.erase hstreamed hpresence⟩
    simp only [Option.elim_some, lookup_erase_ite, List.mem_singleton]

theorem Swept.trans {keys keys' : List PresenceKey} (h : Swept keys r r')
    (h' : Swept keys' r' r'') : Swept (keys ++ keys') r r'' := by
  refine ⟨?_, fun key => ?_, fun hstreamed => h'.streams (h.streams hstreamed)⟩
  · rw [h'.same, h.same]
  · rw [h'.presences, h.presences]
    by_cases hlater : key ∈ keys'
    · rw [if_pos hlater, if_pos (List.mem_append_right _ hlater)]
    · rw [if_neg hlater]
      by_cases hfirst : key ∈ keys
      · rw [if_pos hfirst, if_pos (List.mem_append_left _ hfirst)]
      · rw [if_neg hfirst, if_neg]
        rw [List.mem_append, not_or]
        exact ⟨hfirst, hlater⟩

theorem swept_removePresences (r : RouterState) (keys : List PresenceKey) :
    Swept keys r (r.removePresences keys) := by
  induction keys generalizing r with
  | nil => exact ⟨rfl, fun _ => rfl, id⟩
  | cons key rest ih => exact (swept_removePresence r key).trans (ih _)

theorem Indexed.mem_keysOf (h : r.Indexed) : key ∈ (r.unlinked c record).keysOf c ↔
      ∃ presence, r.presences.lookup key = some presence ∧ presence.connection = c := by
  simp only [keysOf, List.mem_map, List.mem_filter, decide_eq_true_eq]
  constructor
  · rintro ⟨⟨key', presence⟩, ⟨hmem, hconnection⟩, hkey⟩
    have hpresence := mem_items.mp hmem
    obtain rfl : key' = key := (h.keyed key' presence hpresence).symm.trans hkey
    exact ⟨presence, hpresence, hconnection⟩
  · rintro ⟨presence, hpresence, hconnection⟩
    exact ⟨(key, presence), ⟨mem_items.mpr hpresence, hconnection⟩, h.keyed key presence hpresence⟩

structure Closed (cs : List ConnectionId) (r r' : RouterState) : Prop where
  limits : r'.limits = r.limits
  epochs : r'.userRevocationEpochs = r.userRevocationEpochs
  connections : ∀ c record, r'.connections.lookup c = some record ↔
    r.connections.lookup c = some record ∧ c ∉ cs
  presences : ∀ key presence, r'.presences.lookup key = some presence ↔
    r.presences.lookup key = some presence ∧ presence.connection ∉ cs

theorem Closed.refl (r : RouterState) : Closed [] r r :=
  ⟨rfl, rfl, fun _ _ => by simp, fun _ _ => by simp⟩

theorem Closed.trans {cs cs' : List ConnectionId} (h : Closed cs r r') (h' : Closed cs' r' r'') :
    Closed (cs ++ cs') r r'' := by
  refine ⟨h'.limits.trans h.limits, h'.epochs.trans h.epochs, fun c record => ?_,
    fun key presence => ?_⟩
  · rw [h'.connections, h.connections, List.mem_append, not_or, and_assoc]
  · rw [h'.presences, h.presences, List.mem_append, not_or, and_assoc]

theorem Indexed.swept (h : r.Indexed) (hrecord : r.connections.lookup c = some record)
    (hswept : Swept ((r.unlinked c record).keysOf c) (r.unlinked c record) r') :
    r'.Indexed ∧ Closed [c] r r' := by
  have hsame := hswept.same
  have hpresences : ∀ key presence, r'.presences.lookup key = some presence ↔
      r.presences.lookup key = some presence ∧ presence.connection ∉ [c] := by
    intro key presence
    rw [hswept.presences, List.mem_singleton]
    split
    · next hmem =>
      obtain ⟨found, hfound, hconnection⟩ := h.mem_keysOf.mp hmem
      simp only [reduceCtorEq, false_iff, not_and, not_not, hfound, Option.some.injEq]
      rintro rfl
      exact hconnection
    · next hmem =>
      refine ⟨fun hpresence => ⟨hpresence, fun heq => hmem ?_⟩, And.left⟩
      exact h.mem_keysOf.mpr ⟨presence, hpresence, heq⟩
  have hconnections : ∀ c' record', r'.connections.lookup c' = some record' ↔
      r.connections.lookup c' = some record' ∧ c' ∉ [c] := by
    intro c' record'
    rw [congrArg RouterState.connections hsame, unlinked, lookup_erase_ite, List.mem_singleton]
    split
    · next heq => simp [heq]
    · next hne => simp [hne]
  have hlimits : r'.limits = r.limits := by
    rw [hsame]
    rfl
  have hepochs : r'.userRevocationEpochs = r.userRevocationEpochs := by
    rw [hsame]
    rfl
  refine ⟨?_, hlimits, hepochs, hconnections, hpresences⟩
  refine ⟨fun c' record' hrecord' => ?_, fun key presence hpresence => ?_, ?_, ?_,
    hswept.streams h.streams, fun key presence hpresence => ?_⟩
  · exact h.named c' record' ((hconnections c' record').mp hrecord').1
  · exact h.keyed key presence ((hpresences key presence).mp hpresence).1
  · rw [congrArg RouterState.sessions hsame, congrArg RouterState.connections hsame]
    exact h.sessions.erase hrecord
  · rw [congrArg RouterState.users hsame, congrArg RouterState.connections hsame]
    exact h.users.erase hrecord
  · obtain ⟨hold, hother⟩ := (hpresences key presence).mp hpresence
    obtain ⟨holder, hholder, hscope⟩ := h.attached key presence hold
    exact ⟨holder, (hconnections _ holder).mpr ⟨hholder, hother⟩, hscope⟩

theorem Indexed.closed (h : r.Indexed) {closed : CloseResult}
    (hremoved : r.removeConnection c = some (closed, r')) : r'.Indexed ∧ Closed [c] r r' := by
  simp only [removeConnection, Option.bind_eq_bind, Option.bind_eq_some_iff, Option.pure_def,
    Option.some.injEq, Prod.mk.injEq] at hremoved
  obtain ⟨record, hrecord, -, rfl⟩ := hremoved
  exact h.swept hrecord (swept_removePresences _ _)

theorem Indexed.missing (h : r.Indexed) (hmissing : r.removeConnection c = none) :
    Closed [c] r r := by
  have hnone : r.connections.lookup c = none := by
    cases hrecord : r.connections.lookup c with
    | none => rfl
    | some record => simp [removeConnection, hrecord] at hmissing
  refine ⟨rfl, rfl, fun c' record => ?_, fun key presence => ?_⟩
  · rw [iff_self_and, List.mem_singleton]
    rintro hrecord rfl
    rw [hnone] at hrecord
    cases hrecord
  · rw [iff_self_and, List.mem_singleton]
    rintro hpresence rfl
    obtain ⟨record, hrecord, _⟩ := h.attached key presence hpresence
    rw [hnone] at hrecord
    cases hrecord

theorem Indexed.removeConnections (h : r.Indexed) (cs : List ConnectionId) :
    (r.removeConnections cs).2.Indexed ∧ Closed cs r (r.removeConnections cs).2 := by
  induction cs generalizing r with
  | nil => exact ⟨h, .refl r⟩
  | cons c rest ih =>
    rw [RouterState.removeConnections]
    cases hremoved : r.removeConnection c with
    | none =>
      obtain ⟨hindexed, hclosed⟩ := ih h
      exact ⟨hindexed, (h.missing hremoved).trans hclosed⟩
    | some result =>
      obtain ⟨closed, r'⟩ := result
      obtain ⟨hindexed', hclosed'⟩ := h.closed hremoved
      obtain ⟨hindexed, hclosed⟩ := ih hindexed'
      exact ⟨hindexed, hclosed'.trans hclosed⟩

theorem Within.shrunk (h : r.Within) (hindexed : r.Indexed) (hindexed' : r'.Indexed)
    (hlimits : r'.limits = r.limits)
    (hconnections : ∀ c record, r'.connections.lookup c = some record →
      r.connections.lookup c = some record)
    (hpresences : ∀ key presence, r'.presences.lookup key = some presence →
      r.presences.lookup key = some presence) : r'.Within where
  connections := by
    rw [hlimits]
    exact (Finset.card_le_card (keys_subset hconnections)).trans h.connections
  perSession := by
    intro session
    rw [hlimits]
    refine (Finset.card_le_card fun c hmem => ?_).trans (h.perSession session)
    obtain ⟨record, hrecord, hsession⟩ := (hindexed'.sessions.exact session c).mp hmem
    exact (hindexed.sessions.exact session c).mpr ⟨record, hconnections c record hrecord, hsession⟩
  presences := by
    rw [hlimits]
    exact (Finset.card_le_card (keys_subset hpresences)).trans h.presences
  perStream := by
    intro stream
    rw [hlimits]
    refine (Finset.card_le_card fun key hmem => ?_).trans (h.perStream stream)
    obtain ⟨presence, hpresence, hstream⟩ := (hindexed'.streams.exact stream key).mp hmem
    exact (hindexed.streams.exact stream key).mpr
      ⟨presence, hpresences key presence hpresence, hstream⟩

end RouterState

end PresenceCore
