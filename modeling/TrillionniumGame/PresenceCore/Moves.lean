import TrillionniumGame.PresenceCore.Indexes

namespace PresenceCore
open Calls Checks FiniteMap Runs
open Persistence (Bytes DomainError UserId)

namespace RouterState

variable {r r' : RouterState}

def Leaves {α : Type} (m : Op α) (r : RouterState) (effect : RouterState → Prop) : Prop :=
  Calls.Ensures m r (fun _ => effect) fun _ r' => r' = r

variable {α : Type} {effect : RouterState → Prop}

theorem Leaves.after {m : Op α} (h : Leaves m r effect) : (m r).2 = r ∨ effect (m r).2 := by
  have hresult := Calls.ensures_iff.mp h
  cases hreply : (m r).1 with
  | error e =>
    rw [hreply] at hresult
    exact .inl hresult
  | ok a =>
    rw [hreply] at hresult
    exact .inr hresult

theorem leaves_check {β : Type} {x : Except DomainError α} {f : α → Op β}
    (h : ∀ a, x = .ok a → Leaves (f a) r effect) : Leaves (check x >>= f) r effect := by
  rw [Leaves, Calls.ensures_bind, Calls.ensures_check]
  cases x with
  | error e => exact rfl
  | ok a => exact h a rfl

variable {f : RouterState → RouterState}

theorem leaves_write {a : α} (h : effect (f r)) : Leaves (do write f; return a) r effect := by
  rw [Leaves, Calls.ensures_bind, Calls.ensures_write, Calls.ensures_pure]
  exact h

theorem leaves_read {f : RouterState → Op α} (h : Leaves (f r) r effect) :
    Leaves (read >>= f) r effect := h

variable {node : NodeId} {generation : UInt64} {record : ConnectionRecord}

theorem fenced_ok {connection : ConnectionId} : r.fenced connection node generation = .ok record ↔
      r.connections.lookup connection = some record ∧ record.node = node ∧
        record.routeGeneration = generation := by
  simp only [fenced, routeFence, bind_ok, fetch_ok, require_ok]
  constructor
  · rintro ⟨found, hfound, _, ⟨_, hnode, hgeneration⟩, hrecord⟩
    cases hrecord
    exact ⟨hfound, hnode, hgeneration⟩
  · rintro ⟨hfound, hnode, hgeneration⟩
    exact ⟨record, hfound, (), ⟨(), hnode, hgeneration⟩, rfl⟩

structure Opened (request : OpenConnection) (r r' : RouterState) : Prop where
  room : r.connections.keys.card < r.limits.maxConnections
  fresh : request.connection ∉ r.connections
  epoch : (r.userRevocationEpochs.lookup request.user).getD request.userRevocationEpoch =
    request.userRevocationEpoch
  sessionRoom : (members r.sessions request.session).card < r.limits.maxConnectionsPerSession
  opened : r' = r.opened request

structure Joined (c : ConnectionId) (stream : StreamId) (r r' : RouterState)
    (record : ConnectionRecord) (presence : PresenceRecord) : Prop where
  room : r.presences.keys.card < r.limits.maxPresences
  live : r.connections.lookup c = some record
  key : presence.key = ⟨stream, record.user, record.session⟩
  holder : presence.connection = c
  fresh : presence.key ∉ r.presences
  streamRoom : (members r.streams stream).card < r.limits.maxPresencesPerStream
  joined : r' = r.joined presence

structure Left (c : ConnectionId) (node : NodeId) (generation : UInt64) (stream : StreamId)
    (r r' : RouterState) (record : ConnectionRecord) (presence : PresenceRecord) : Prop where
  fenced : r.fenced c node generation = .ok record
  held : r.presences.lookup ⟨stream, record.user, record.session⟩ = some presence
  left : Swept [⟨stream, record.user, record.session⟩] r r'

structure Edited (c : ConnectionId) (r r' : RouterState) (current record : ConnectionRecord) :
    Prop where
  live : r.connections.lookup c = some current
  edited : r' = r.setConnection c record
  identity : record.identity = current.identity

section

variable (r : RouterState)

theorem leaves_open (request : OpenConnection) : Leaves (open_ request) r (Opened request r) := by
  refine leaves_check fun _ _ => ?_
  refine leaves_check fun _ hroom => leaves_check fun _ hfresh => ?_
  refine leaves_check fun _ hepoch => leaves_check fun _ hsession => leaves_write ?_
  exact ⟨require_ok.mp hroom, require_ok.mp hfresh, require_ok.mp hepoch, require_ok.mp hsession,
    rfl⟩

variable (c : ConnectionId) (node : NodeId)

theorem leaves_rebind (generation : UInt64) (newNode : NodeId) :
    Leaves (rebind c node generation newNode) r
      fun r' => ∃ current record, Edited c r r' current record := by
  refine leaves_check fun _ _ => leaves_check fun current hcurrent => ?_
  refine leaves_check fun _ _ => leaves_write ?_
  exact ⟨current, _, (fenced_ok.mp hcurrent).1, rfl, rfl⟩

theorem leaves_touch (generation nowMs : UInt64) : Leaves (touch c node generation nowMs) r
      fun r' => ∃ current record, Edited c r r' current record := by
  refine leaves_check fun current hcurrent => leaves_check fun _ _ => leaves_write ?_
  exact ⟨current, _, (fenced_ok.mp hcurrent).1, rfl, rfl⟩

theorem leaves_reserveOutbound (generation bytes : UInt64) :
    Leaves (reserveOutbound c node generation bytes) r
      fun r' => ∃ current record, Edited c r r' current record := by
  refine leaves_check fun _ _ => leaves_check fun current hcurrent => ?_
  refine leaves_check fun _ _ => leaves_check fun _ _ => leaves_check fun _ _ => leaves_write ?_
  exact ⟨current, _, (fenced_ok.mp hcurrent).1, rfl, rfl⟩

theorem leaves_releaseOutbound (generation bytes : UInt64) :
    Leaves (releaseOutbound c node generation bytes) r
      fun r' => ∃ current record, Edited c r r' current record := by
  refine leaves_check fun _ _ => leaves_check fun current hcurrent => ?_
  refine leaves_check fun _ _ => leaves_check fun _ _ => leaves_write ?_
  exact ⟨current, _, (fenced_ok.mp hcurrent).1, rfl, rfl⟩

theorem leaves_join (request : JoinPresenceRequest) :
    Leaves (joinPresence request) r fun r' => ∃ record presence,
      Joined request.connection request.stream r r' record presence := by
  refine leaves_check fun _ _ => leaves_check fun _ _ => leaves_check fun _ hroom => ?_
  refine leaves_check fun record hrecord => leaves_check fun _ _ => leaves_check fun _ hfresh => ?_
  refine leaves_check fun _ hstream => leaves_write ?_
  exact ⟨record, _, require_ok.mp hroom, (fenced_ok.mp hrecord).1, rfl, rfl, require_ok.mp hfresh,
    require_ok.mp hstream, rfl⟩

end

variable {presence : PresenceRecord}

theorem swept_of_removed {key : PresenceKey} (h : r.removePresence key = some (presence, r')) :
    Swept [key] r r' := by
  have hswept := swept_removePresence r key
  rw [h] at hswept
  exact hswept

theorem leaves_leave (r : RouterState) (c : ConnectionId) (node : NodeId) (generation : UInt64)
    (stream : StreamId) : Leaves (leavePresence c node generation stream) r
      fun r' => ∃ record presence, Left c node generation stream r r' record presence := by
  refine leaves_check fun record hrecord => leaves_check fun result hresult => ?_
  obtain ⟨presence, r'⟩ := result
  have hremoved := fetch_ok.mp hresult
  refine leaves_write ⟨record, presence, hrecord, ?_, swept_of_removed hremoved⟩
  exact (removePresence_some.mp hremoved).1

theorem leaves_remove (r : RouterState) (cs : List ConnectionId)
    (h : effect (r.removeConnections cs).2) : Leaves (remove cs) r effect :=
  leaves_read (leaves_write h)

variable {cs : List ConnectionId}

theorem leaves_write_remove (h : effect ((f r).removeConnections cs).2) :
    Leaves (do write f; remove cs) r effect := by
  rw [Leaves, Calls.ensures_bind, Calls.ensures_write, remove, Calls.ensures_bind,
    Calls.ensures_read, Calls.ensures_bind, Calls.ensures_write, Calls.ensures_pure]
  exact h

theorem Indexed.leaves_close (h : r.Indexed) (c : ConnectionId) (node : NodeId)
    (generation : UInt64) : Leaves (closeConnection c node generation) r
      fun r' => r'.Indexed ∧ Closed [c] r r' := by
  refine leaves_check fun _ _ => leaves_check fun result hresult => leaves_write ?_
  obtain ⟨closed, r'⟩ := result
  exact h.closed (fetch_ok.mp hresult)

theorem Indexed.leaves_closeSession (h : r.Indexed) (session : SessionId) :
    Leaves (closeSession session) r fun r' => r'.Indexed ∧ ∃ cs, Closed cs r r' := by
  refine leaves_check fun _ _ => leaves_remove r _ ?_
  obtain ⟨hindexed, hclosed⟩ := h.removeConnections (ordered (members r.sessions session))
  exact ⟨hindexed, _, hclosed⟩

theorem Indexed.leaves_expireIdle (h : r.Indexed) (nowMs idleTimeoutMs : UInt64)
    (maxExpired : Nat) : Leaves (expireIdle nowMs idleTimeoutMs maxExpired) r
      fun r' => r'.Indexed ∧ ∃ cs, Closed cs r r' := by
  refine leaves_check fun _ _ => leaves_remove r _ ?_
  obtain ⟨hindexed, hclosed⟩ := h.removeConnections _
  exact ⟨hindexed, _, hclosed⟩

theorem kept_drain (node : NodeId) {entries : List (ConnectionId × ConnectionRecord)}
    (hnodup : (entries.map Prod.fst).Nodup)
    (hentries : ∀ entry ∈ entries, r.connections.lookup entry.1 = some entry.2) :
    Kept r (entries.foldl (drain · node) r) := by
  induction entries generalizing r with
  | nil => exact .refl r
  | cons entry rest ih =>
    obtain ⟨hnotin, hrest⟩ := List.nodup_cons.mp hnodup
    have hentry := hentries entry List.mem_cons_self
    have hother : ∀ other ∈ rest, r.connections.lookup other.1 = some other.2 := fun other hmem =>
      hentries other (List.mem_cons_of_mem _ hmem)
    rw [List.foldl_cons, drain]
    split
    · have hkept : Kept r (r.setConnection entry.1 { entry.2 with state := .draining }) :=
        kept_setConnection hentry rfl
      refine hkept.trans (ih hrest fun other hmem => ?_)
      have hne : other.1 ≠ entry.1 := fun heq => hnotin (heq ▸ List.mem_map_of_mem hmem)
      rw [setConnection, Finmap.lookup_insert_of_ne _ hne]
      exact hother other hmem
    · exact ih hrest hother

theorem leaves_beginNodeDrain (r : RouterState) (node : NodeId) :
    Leaves (beginNodeDrain node) r (Kept r) := by
  refine leaves_check fun _ _ => leaves_read (leaves_write ?_)
  refine kept_drain node ?_ fun entry hmem => mem_items.mp hmem
  have hkeys := nodup_ordered r.connections.keys
  rwa [← items_keys] at hkeys

variable {request : OpenConnection}

theorem Opened.indexed (h : Opened request r r') (hindexed : r.Indexed) : r'.Indexed := by
  obtain ⟨-, hfresh, -, -, rfl⟩ := h
  have hnone := Finmap.lookup_eq_none.mpr hfresh
  refine ⟨fun c record hrecord => ?_, hindexed.keyed,
    hindexed.sessions.insert hfresh request.record, hindexed.users.insert hfresh request.record,
    hindexed.streams, fun key presence hpresence => ?_⟩
  · rw [RouterState.opened, lookup_insert_ite] at hrecord
    split at hrecord
    · next heq =>
      rw [← Option.some.inj hrecord, heq]
      rfl
    · exact hindexed.named c record hrecord
  · obtain ⟨record, hrecord, hscope⟩ := hindexed.attached key presence hpresence
    have hne : presence.connection ≠ request.connection := by
      intro heq
      rw [heq, hnone] at hrecord
      cases hrecord
    exact ⟨record, (Finmap.lookup_insert_of_ne _ hne).trans hrecord, hscope⟩

theorem Opened.within (h : Opened request r r') (hwithin : r.Within) : r'.Within := by
  obtain ⟨hroom, hfresh, -, hsession, rfl⟩ := h
  refine ⟨?_, fun session => ?_, hwithin.presences, hwithin.perStream⟩
  · rw [connectionCount, RouterState.opened, card_keys_insert hfresh]
    exact hroom
  · rw [RouterState.opened, members_enroll]
    split
    · have hcard := Finset.card_insert_le request.connection (members r.sessions request.session)
      dsimp only
      omega
    · exact hwithin.perSession session

variable {c : ConnectionId} {stream : StreamId}

theorem Joined.indexed (h : Joined c stream r r' record presence) (hindexed : r.Indexed) :
    r'.Indexed := by
  obtain ⟨-, hlive, hkey, hholder, hfresh, -, rfl⟩ := h
  refine ⟨hindexed.named, fun key found hfound => ?_, hindexed.sessions, hindexed.users,
    hindexed.streams.insert hfresh presence, fun key found hfound => ?_⟩
  · rw [RouterState.joined, lookup_insert_ite] at hfound
    split at hfound
    · next heq => rw [← Option.some.inj hfound, heq]
    · exact hindexed.keyed key found hfound
  · rw [RouterState.joined, lookup_insert_ite] at hfound
    split at hfound
    · next heq =>
      cases hfound
      rw [heq, hkey, hholder]
      exact ⟨record, hlive, rfl, rfl⟩
    · exact hindexed.attached key found hfound

theorem Joined.within (h : Joined c stream r r' record presence) (hwithin : r.Within) :
    r'.Within := by
  obtain ⟨hroom, -, hkey, -, hfresh, hstream, rfl⟩ := h
  refine ⟨hwithin.connections, hwithin.perSession, ?_, fun stream' => ?_⟩
  · rw [presenceCount, RouterState.joined, card_keys_insert hfresh]
    exact hroom
  · rw [RouterState.joined, members_enroll]
    split
    · have hcard := Finset.card_insert_le presence.key (members r.streams presence.key.stream)
      rw [hkey] at hcard ⊢
      dsimp only at hcard ⊢
      omega
    · exact hwithin.perStream stream'

theorem Left.indexed (h : Left c node generation stream r r' record presence)
    (hindexed : r.Indexed) : r'.Indexed := by
  have hswept := h.left
  have hsame := hswept.same
  have hold : ∀ key found, r'.presences.lookup key = some found →
      r.presences.lookup key = some found := by
    intro key found hfound
    rw [hswept.presences] at hfound
    split at hfound
    · cases hfound
    · exact hfound
  refine ⟨?_, fun key found hfound => hindexed.keyed key found (hold key found hfound), ?_, ?_,
    hswept.streams hindexed.streams, fun key found hfound => ?_⟩
  · rw [hsame]
    exact hindexed.named
  · rw [hsame]
    exact hindexed.sessions
  · rw [hsame]
    exact hindexed.users
  · rw [hsame]
    exact hindexed.attached key found (hold key found hfound)

theorem Left.within (h : Left c node generation stream r r' record presence)
    (hindexed : r.Indexed) (hwithin : r.Within) : r'.Within := by
  have hsame := h.left.same
  refine hwithin.shrunk hindexed (h.indexed hindexed) (by rw [hsame]) ?_ fun key found hfound => ?_
  · rw [hsame]
    exact fun _ _ => id
  · rw [h.left.presences] at hfound
    split at hfound
    · cases hfound
    · exact hfound

theorem Closed.within (h : Closed cs r r') (hindexed : r.Indexed) (hindexed' : r'.Indexed)
    (hwithin : r.Within) : r'.Within :=
  hwithin.shrunk hindexed hindexed' h.limits
    (fun c record hrecord => ((h.connections c record).mp hrecord).1)
    fun key presence hpresence => ((h.presences key presence).mp hpresence).1

theorem Edited.kept {current : ConnectionRecord} (h : Edited c r r' current record) :
    Kept r r' := by
  rw [h.edited]
  exact kept_setConnection h.live h.identity

structure Revoked (user : UserId) (expectedEpoch newEpoch : UInt64) (r r' : RouterState) :
    Prop where
  newer : expectedEpoch < newEpoch
  current : (r.userRevocationEpochs.lookup user).getD 0 = expectedEpoch
  indexed : r'.Indexed
  closed : Closed (ordered (members r.users user))
    { r with userRevocationEpochs := r.userRevocationEpochs.insert user newEpoch } r'

theorem Indexed.leaves_revokeUser (h : r.Indexed) (user : UserId)
    (expectedEpoch newEpoch : UInt64) : Leaves (revokeUser user expectedEpoch newEpoch) r
      (Revoked user expectedEpoch newEpoch r) := by
  refine leaves_check fun _ hvalid => ?_
  have hmarked : Indexed { r with
      userRevocationEpochs := r.userRevocationEpochs.insert user newEpoch } :=
    ⟨h.named, h.keyed, h.sessions, h.users, h.streams, h.attached⟩
  obtain ⟨hindexed, hclosed⟩ := hmarked.removeConnections (ordered (members r.users user))
  refine leaves_read (leaves_check fun _ hcurrent => leaves_write_remove ?_)
  exact ⟨(require_ok.mp hvalid).2, require_ok.mp hcurrent, hindexed, hclosed⟩

end RouterState

def RouterCall.fence : RouterCall → Option ConnectionId
  | route connection _ _ => some connection
  | rebind connection _ _ _ => some connection
  | touch connection _ _ _ => some connection
  | joinPresence request => some request.connection
  | leavePresence connection _ _ _ => some connection
  | reserveOutbound connection _ _ _ => some connection
  | releaseOutbound connection _ _ _ => some connection
  | closeConnection connection _ _ => some connection
  | _ => none

namespace RouterState

variable {r r' : RouterState}

inductive Moved (r : RouterState) : RouterCall → RouterState → Prop
  | stayed (call : RouterCall) : Moved r call r
  | opened {request : OpenConnection} {r' : RouterState} (h : Opened request r r') :
      Moved r (.open_ request) r'
  | edited {call : RouterCall} {c : ConnectionId} {current record : ConnectionRecord}
      {r' : RouterState} (hfence : call.fence = some c) (h : Edited c r r' current record) :
      Moved r call r'
  | drained {node : NodeId} {r' : RouterState} (h : Kept r r') : Moved r (.beginNodeDrain node) r'
  | joined {request : JoinPresenceRequest} {record : ConnectionRecord} {presence : PresenceRecord}
      {r' : RouterState} (h : Joined request.connection request.stream r r' record presence) :
      Moved r (.joinPresence request) r'
  | left {c : ConnectionId} {node : NodeId} {generation : UInt64} {stream : StreamId}
      {record : ConnectionRecord} {presence : PresenceRecord} {r' : RouterState}
      (h : Left c node generation stream r r' record presence) :
      Moved r (.leavePresence c node generation stream) r'
  | closed {call : RouterCall} {cs : List ConnectionId} {r' : RouterState}
      (hfence : ∀ c, call.fence = some c → cs = [c]) (hindexed : r'.Indexed)
      (h : Closed cs r r') : Moved r call r'
  | revoked {user : UserId} {expectedEpoch newEpoch : UInt64} {r' : RouterState}
      (h : Revoked user expectedEpoch newEpoch r r') :
      Moved r (.revokeUser user expectedEpoch newEpoch) r'

variable {call : RouterCall}

theorem Leaves.moved {α : Type} {m : Op α} {effect : RouterState → Prop} (h : Leaves m r effect)
    (hafter : call.after r = (m r).2) (heffect : ∀ r', effect r' → Moved r call r') :
    Moved r call (call.after r) := by
  rw [hafter]
  rcases h.after with hsame | hdone
  · rw [hsame]
    exact .stayed call
  · exact heffect _ hdone

theorem moved_edited {c : ConnectionId} (hfence : call.fence = some c) (r' : RouterState) :
    (∃ current record, Edited c r r' current record) → Moved r call r' := by
  rintro ⟨current, record, h⟩
  exact .edited hfence h

theorem Indexed.moved (h : r.Indexed) (call : RouterCall) : Moved r call (call.after r) := by
  cases call with
  | open_ request => exact (leaves_open r request).moved rfl fun _ => .opened
  | route connection node generation | recipients stream => exact .stayed _
  | rebind connection node generation newNode =>
    exact (leaves_rebind r connection node generation newNode).moved rfl (moved_edited rfl)
  | touch connection node generation nowMs =>
    exact (leaves_touch r connection node generation nowMs).moved rfl (moved_edited rfl)
  | beginNodeDrain node => exact (leaves_beginNodeDrain r node).moved rfl fun _ => .drained
  | joinPresence request =>
    refine (leaves_join r request).moved rfl ?_
    rintro r' ⟨record, presence, hjoined⟩
    exact .joined hjoined
  | leavePresence connection node generation stream =>
    refine (leaves_leave r connection node generation stream).moved rfl ?_
    rintro r' ⟨record, presence, hleft⟩
    exact .left hleft
  | reserveOutbound connection node generation bytes =>
    exact (leaves_reserveOutbound r connection node generation bytes).moved rfl (moved_edited rfl)
  | releaseOutbound connection node generation bytes =>
    exact (leaves_releaseOutbound r connection node generation bytes).moved rfl (moved_edited rfl)
  | closeConnection connection node generation =>
    refine (h.leaves_close connection node generation).moved rfl ?_
    rintro r' ⟨hindexed, hclosed⟩
    exact .closed (fun c hfence => by rw [Option.some.inj hfence]) hindexed hclosed
  | closeSession session =>
    refine (h.leaves_closeSession session).moved rfl ?_
    rintro r' ⟨hindexed, cs, hclosed⟩
    exact .closed nofun hindexed hclosed
  | revokeUser user expectedEpoch newEpoch =>
    exact (h.leaves_revokeUser user expectedEpoch newEpoch).moved rfl fun _ => .revoked
  | expireIdle nowMs idleTimeoutMs maxExpired =>
    refine (h.leaves_expireIdle nowMs idleTimeoutMs maxExpired).moved rfl ?_
    rintro r' ⟨hindexed, cs, hclosed⟩
    exact .closed nofun hindexed hclosed

theorem Moved.indexed (h : Moved r call r') (hindexed : r.Indexed) : r'.Indexed := by
  cases h with
  | stayed => exact hindexed
  | opened h | drained h | joined h | left h => exact h.indexed hindexed
  | edited _ h => exact h.kept.indexed hindexed
  | closed _ hindexed' _ => exact hindexed'
  | revoked h => exact h.indexed

theorem Revoked.within {user : UserId} {expectedEpoch newEpoch : UInt64}
    (h : Revoked user expectedEpoch newEpoch r r') (hindexed : r.Indexed) (hwithin : r.Within) :
    r'.Within := by
  refine hwithin.shrunk hindexed h.indexed h.closed.limits ?_ ?_
  · exact fun c record hrecord => ((h.closed.connections c record).mp hrecord).1
  · exact fun key presence hpresence => ((h.closed.presences key presence).mp hpresence).1

theorem Moved.within (h : Moved r call r') (hindexed : r.Indexed) (hwithin : r.Within) :
    r'.Within := by
  cases h with
  | stayed => exact hwithin
  | opened h | drained h | joined h => exact h.within hwithin
  | edited _ h => exact h.kept.within hwithin
  | left h | revoked h => exact h.within hindexed hwithin
  | closed _ hindexed' h => exact h.within hindexed hindexed' hwithin

theorem indexed_new {limits : RouterLimits} (h : new limits = .ok r) : r.Indexed ∧ r.Within := by
  obtain ⟨_, _, hnew⟩ := bind_ok.mp h
  cases hnew
  have hnone : ∀ {A G V : Type} [DecidableEq A] {group : A → V → G} (a : A) (g : G),
      ¬ grouped (∅ : Dict A V) group a g := by
    rintro A G V _ group a g ⟨v, hv, _⟩
    cases hv
  refine ⟨⟨nofun, nofun, groups_empty hnone, groups_empty hnone, groups_empty hnone, nofun⟩, ?_⟩
  exact ⟨Nat.zero_le _, fun _ => Nat.zero_le _, Nat.zero_le _, fun _ => Nat.zero_le _⟩

theorem indexed_of_reachable (h : Reachable routing r) : r.Indexed ∧ r.Within := by
  refine h.invariant (fun r ⟨_, hnew⟩ => indexed_new hnew) ?_
  rintro r call r' ⟨hindexed, hwithin⟩ rfl
  have hmoved := hindexed.moved call
  exact ⟨hmoved.indexed hindexed, hmoved.within hindexed hwithin⟩

end RouterState

theorem presence_indexes_consistent : ∀ r, Reachable routing r →
    (∀ session c, c ∈ members r.sessions session ↔
      ∃ record, r.connections.lookup c = some record ∧ record.session = session) ∧
    (∀ user c, c ∈ members r.users user ↔
      ∃ record, r.connections.lookup c = some record ∧ record.user = user) ∧
    (∀ stream key, key ∈ members r.streams stream ↔
      ∃ presence, r.presences.lookup key = some presence ∧ key.stream = stream) ∧
    NoEmpty r.sessions ∧ NoEmpty r.users ∧ NoEmpty r.streams ∧
    (∀ key presence, r.presences.lookup key = some presence → presence.key = key ∧
      ∃ record, r.connections.lookup presence.connection = some record ∧
        record.connection = presence.connection ∧ record.user = key.user ∧
        record.session = key.session) ∧
    (r.connectionCount = r.connections.keys.card ∧ r.connectionCount ≤ r.limits.maxConnections) ∧
    (r.presenceCount = r.presences.keys.card ∧ r.presenceCount ≤ r.limits.maxPresences) ∧
    (∀ session, (members r.sessions session).card = (r.connections.keys.filter fun c =>
        (r.connections.lookup c).map ConnectionRecord.session = some session).card ∧
      (members r.sessions session).card ≤ r.limits.maxConnectionsPerSession) ∧
    ∀ stream, (members r.streams stream).card = (r.presences.keys.filter fun key =>
        key.stream = stream).card ∧
      (members r.streams stream).card ≤ r.limits.maxPresencesPerStream := by
  intro r hreachable
  obtain ⟨hindexed, hwithin⟩ := RouterState.indexed_of_reachable hreachable
  refine ⟨hindexed.sessions.exact, hindexed.users.exact, hindexed.streams.exact,
    hindexed.sessions.noEmpty, hindexed.users.noEmpty, hindexed.streams.noEmpty,
    fun key presence hpresence => ?_, ⟨rfl, hwithin.connections⟩, ⟨rfl, hwithin.presences⟩,
    fun session => ⟨hindexed.sessions.card session, hwithin.perSession session⟩,
    fun stream => ⟨?_, hwithin.perStream stream⟩⟩
  · obtain ⟨record, hrecord, hscope⟩ := hindexed.attached key presence hpresence
    exact ⟨hindexed.keyed key presence hpresence, record, hrecord, hindexed.named _ record hrecord,
      hscope⟩
  · rw [hindexed.streams.card]
    congr 1
    refine Finset.filter_congr fun key hkey => ?_
    obtain ⟨presence, hpresence⟩ := Finmap.mem_iff.mp (Finmap.mem_keys.mp hkey)
    simp [hpresence]

theorem reachable_after {r : RouterState} (h : Reachable routing r) (call : RouterCall) :
    Reachable routing (call.after r) := h.run (.single rfl)

def sampleBytes (value : UInt8) : Bytes 16 := Vector.replicate 16 value

def sampleLimits : RouterLimits := ⟨8, 2, 8, 4, 16, 2, 10⟩

def sampleStart : RouterState := ⟨sampleLimits, ∅, ∅, ∅, ∅, ∅, ∅⟩

def sampleOpen (connection session user : UInt8) : RouterCall :=
  .open_ ⟨⟨sampleBytes connection⟩, ⟨sampleBytes session⟩, ⟨sampleBytes user⟩, ⟨sampleBytes 1⟩,
    1, 0, 100⟩

def sampleJoin (connection stream : UInt8) : RouterCall :=
  .joinPresence ⟨⟨sampleBytes connection⟩, ⟨sampleBytes 1⟩, 1, ⟨sampleBytes stream⟩, "player",
    "ready", false, true⟩

def sampleRoom : RouterState :=
  (sampleJoin 1 9).after ((sampleOpen 2 1 1).after ((sampleOpen 1 1 1).after sampleStart))

theorem sample_reachable : Reachable routing sampleRoom := by
  have hstart : Reachable routing sampleStart := .start ⟨sampleLimits, rfl⟩
  exact reachable_after (reachable_after (reachable_after hstart _) _) _

theorem presence_indexes_consistent_sample :
    (members sampleRoom.sessions ⟨sampleBytes 1⟩).card ≤ 2 ∧ NoEmpty sampleRoom.streams := by
  obtain ⟨_, _, _, _, _, hstreams, _, _, _, hsessions, _⟩ :=
    presence_indexes_consistent sampleRoom sample_reachable
  exact ⟨(hsessions ⟨sampleBytes 1⟩).2, hstreams⟩

end PresenceCore
