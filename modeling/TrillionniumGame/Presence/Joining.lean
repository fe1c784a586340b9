import TrillionniumGame.Presence.Registry
import TrillionniumGame.Presence.Routing

namespace Presence
open Checks FiniteMap

def SessionRouteError.Internal (error : SessionRouteError) : Prop :=
  (∃ text, error = .invariantViolation text) ∨ ∃ inner, error = .presence inner ∧ inner.Internal

namespace SessionRouteRegistry

def External (error : SessionRouteError) : Prop := ¬ error.Internal

def Indexed (g : SessionRouteRegistry) (sessionId : SessionId) (connection : ConnectionRef) :
    Prop :=
  ∃ connections ∈ g.connectionsBySession.lookup sessionId, connection ∈ connections

structure Indexing (g : SessionRouteRegistry) : Prop where
  indexed : ∀ sessionId connection, g.Indexed sessionId connection ↔
    ∃ binding, g.bindings.lookup connection = some binding ∧ binding.sessionId = sessionId
  nonempty : ∀ sessionId connections, g.connectionsBySession.lookup sessionId = some connections →
    connections ≠ ∅

structure Linked (g : SessionRouteRegistry) : Prop where
  indexing : g.Indexing
  router : g.router.Sound
  bound : ∀ connection binding, g.bindings.lookup connection = some binding → ∃ identity,
    g.router.connections.lookup connection = some ⟨binding.connectionGeneration, identity⟩ ∧
      identity.sessionId = binding.sessionId
  routed : ∀ key, key ∈ g.router.entries → key.connection ∈ g.bindings
  fresh : ∀ connection binding, g.bindings.lookup connection = some binding →
    ∀ through ∈ g.revokedThrough.lookup binding.sessionId, through < binding.sessionGeneration

structure Within (g : SessionRouteRegistry) : Prop where
  active : g.bindings.keys.card ≤ g.limits.maxActiveConnections
  connections : g.router.connectionCount ≤ g.limits.maxTrackedConnections
  entries : g.router.entryCount ≤ g.limits.maxPresenceEntries
  highWaters : g.revokedThrough.keys.card ≤ g.limits.maxRevocationHighWaters
  sessions : g.trackedSessionCount ≤ g.limits.maxTrackedSessions
  perSession : ∀ sessionId connections,
    g.connectionsBySession.lookup sessionId = some connections →
    connections.card ≤ g.limits.maxConnectionsPerSession

structure Sound (g : SessionRouteRegistry) : Prop extends Linked g, Within g where
  checkpointed : ∀ checkpoint ∈ g.checkpoint, g.verifyCheckpoint checkpoint = .ok ()

variable {g g' : SessionRouteRegistry} {connection : ConnectionRef} {binding : SessionBinding}

theorem Linked.verifyBinding (h : g.Linked)
    (hlookup : g.bindings.lookup connection = some binding) :
    g.verifyBinding connection binding = .ok () := by
  obtain ⟨identity, hestablished, hidentity⟩ := h.bound connection binding hlookup
  have hindexed := (h.indexing.indexed binding.sessionId connection).mpr ⟨binding, hlookup, rfl⟩
  unfold SessionRouteRegistry.verifyBinding
  simp only [bind_ok, require_ok, fetch_ok]
  refine ⟨(), ?_, identity, ?_, (), hidentity, (), hindexed, h.fresh connection binding hlookup⟩
  · rw [PresenceRouter.establishedGeneration, hestablished]
    rfl
  · rw [PresenceRouter.establishedIdentity, hestablished]
    rfl

variable {sessionId : SessionId} {connections : Finset ConnectionRef}

theorem Sound.verifySession (h : g.Sound)
    (hlookup : g.connectionsBySession.lookup sessionId = some connections) :
    g.verifySession sessionId connections = .ok () := by
  unfold SessionRouteRegistry.verifySession
  simp only [bind_ok, require_ok]
  refine ⟨(), h.indexing.nonempty sessionId connections hlookup, (),
    h.perSession sessionId connections hlookup, ?_⟩
  rw [forM_ok]
  intro connection hmem
  obtain ⟨binding, hbinding, hsession⟩ := (h.indexing.indexed sessionId connection).mp
    ⟨connections, hlookup, mem_ordered.mp hmem⟩
  unfold verifyIndexed
  simp only [bind_ok, require_ok, fetch_ok]
  exact ⟨binding, hbinding, hsession⟩

theorem Sound.verifyInvariants (h : g.Sound) : g.verifyInvariants = .ok () := by
  unfold SessionRouteRegistry.verifyInvariants
  simp only [bind_ok, require_ok, ofRouter, mapError_ok]
  refine ⟨(), PresenceRouter.verifyInvariants_ok.mpr h.router, (), ?_, (), h.active, (),
    h.connections, (), h.entries, (), h.highWaters, (), h.sessions, (), ?_, ?_⟩
  · rw [forM_ok]
    intro checkpoint hmem
    exact h.checkpointed checkpoint (Option.mem_toList.mp hmem)
  · rw [forM_ok]
    rintro ⟨connection, binding⟩ hitem
    exact h.verifyBinding (mem_items.mp hitem)
  · rw [forM_ok]
    rintro ⟨sessionId, connections⟩ hitem
    exact h.verifySession (mem_items.mp hitem)

theorem removeBinding_bindings (connection connection' : ConnectionRef) :
    (g.removeBinding connection).bindings.lookup connection' =
      if connection' = connection then none else g.bindings.lookup connection' := by
  unfold removeBinding
  split
  · next hnone =>
    split
    · next heq => rw [heq, hnone]
    · rfl
  · rw [lookup_erase_ite]

theorem removeBinding_unindexed (hlookup : g.bindings.lookup connection = some binding) :
    g.removeBinding connection = { g with
      bindings := g.bindings.erase connection
      connectionsBySession := g.unindex binding.sessionId connection } := by
  unfold removeBinding
  rw [hlookup]

theorem lookup_unindex (sessionId : SessionId) (connection : ConnectionRef)
    (sessionId' : SessionId) : (g.unindex sessionId connection).lookup sessionId' =
      if sessionId' = sessionId then
        (g.connectionsBySession.lookup sessionId).bind fun connections =>
          if connections.erase connection = ∅ then none else some (connections.erase connection)
      else g.connectionsBySession.lookup sessionId' := by
  unfold unindex
  cases hlookup : g.connectionsBySession.lookup sessionId with
  | none =>
    dsimp only
    split
    · next heq => rw [heq, hlookup, Option.bind_none]
    · rfl
  | some connections =>
    dsimp only
    rw [Option.bind_some]
    split
    · rw [lookup_erase_ite]
    · rw [lookup_insert_ite]

variable {sessionId' : SessionId}

theorem unindexed
    (hlookup : (g.unindex sessionId connection).lookup sessionId' = some connections) :
    (sessionId' ≠ sessionId ∧ g.connectionsBySession.lookup sessionId' = some connections) ∨
      ∃ old, g.connectionsBySession.lookup sessionId' = some old ∧ sessionId' = sessionId ∧
        connections = old.erase connection ∧ connections ≠ ∅ := by
  rw [lookup_unindex] at hlookup
  split at hlookup
  · next heq =>
    obtain ⟨old, hold, hsome⟩ := Option.bind_eq_some_iff.mp hlookup
    split at hsome
    · cases hsome
    · next hne =>
      cases hsome
      exact .inr ⟨old, heq ▸ hold, heq, rfl, hne⟩
  · next hne => exact .inl ⟨hne, hlookup⟩

theorem mem_unindex {connection' : ConnectionRef} :
    (∃ connections ∈ (g.unindex sessionId connection).lookup sessionId',
      connection' ∈ connections) ↔
      g.Indexed sessionId' connection' ∧ ¬ (sessionId' = sessionId ∧ connection' = connection) := by
  constructor
  · rintro ⟨connections, hlookup, hmem⟩
    rcases unindexed hlookup with ⟨hne, hold⟩ | ⟨old, hold, rfl, rfl, _⟩
    · exact ⟨⟨connections, hold, hmem⟩, fun hboth => hne hboth.1⟩
    · obtain ⟨hne, hmem⟩ := Finset.mem_erase.mp hmem
      exact ⟨⟨old, hold, hmem⟩, fun hboth => hne hboth.2⟩
  · rintro ⟨⟨old, hold, hmem⟩, hother⟩
    rw [Option.mem_def] at hold
    by_cases hsession : sessionId' = sessionId
    · have herased := Finset.mem_erase.mpr ⟨fun heq => hother ⟨hsession, heq⟩, hmem⟩
      refine ⟨old.erase connection, ?_, herased⟩
      rw [lookup_unindex, if_pos hsession, ← hsession, hold, Option.bind_some,
        if_neg (Finset.ne_empty_of_mem herased)]
      rfl
    · refine ⟨old, ?_, hmem⟩
      rw [lookup_unindex, if_neg hsession, hold]
      rfl

theorem removeBinding_none (hlookup : g.bindings.lookup connection = none) :
    g.removeBinding connection = g := by
  unfold removeBinding
  rw [hlookup]

theorem Indexing.removeBinding (h : g.Indexing) (connection : ConnectionRef) :
    (g.removeBinding connection).Indexing := by
  cases hlookup : g.bindings.lookup connection with
  | none =>
    rw [removeBinding_none hlookup]
    exact h
  | some binding =>
    refine ⟨fun sessionId connection' => ?_, fun sessionId connections hsome => ?_⟩
    · rw [removeBinding_bindings, Indexed, removeBinding_unindexed hlookup, mem_unindex, h.indexed]
      by_cases hconnection : connection' = connection
      · rw [hconnection, if_pos rfl, hlookup]
        constructor
        · rintro ⟨⟨_, hbinding, rfl⟩, hother⟩
          rw [Option.some.inj hbinding] at hother
          exact absurd ⟨rfl, rfl⟩ hother
        · rintro ⟨_, hnone, _⟩
          cases hnone
      · simp [hconnection]
    · rw [removeBinding_unindexed hlookup] at hsome
      rcases unindexed hsome with ⟨_, hold⟩ | ⟨_, _, _, _, hne⟩
      · exact h.nonempty sessionId connections hold
      · exact hne

theorem insertBinding_bindings (connection connection' : ConnectionRef) (binding : SessionBinding) :
    (g.insertBinding connection binding).bindings.lookup connection' =
      if connection' = connection then some binding else g.bindings.lookup connection' :=
  lookup_insert_ite ..

theorem Indexing.insertBinding (h : g.Indexing) (hunbound : g.bindings.lookup connection = none)
    (binding : SessionBinding) : (g.insertBinding connection binding).Indexing := by
  have hlookup : ∀ sessionId, (g.insertBinding connection binding).connectionsBySession.lookup
      sessionId = if sessionId = binding.sessionId then
        some (insert connection ((g.connectionsBySession.lookup binding.sessionId).getD ∅))
      else g.connectionsBySession.lookup sessionId := fun sessionId => lookup_insert_ite ..
  have hgetD : ∀ connection', connection' ∈
      (g.connectionsBySession.lookup binding.sessionId).getD ∅ ↔
      g.Indexed binding.sessionId connection' := by
    intro connection'
    rw [Indexed]
    cases g.connectionsBySession.lookup binding.sessionId <;> simp
  refine ⟨fun sessionId connection' => ?_, fun sessionId connections hsome => ?_⟩
  · have hold := h.indexed sessionId connection'
    rw [insertBinding_bindings, Indexed, hlookup]
    by_cases hsession : sessionId = binding.sessionId
    · rw [if_pos hsession]
      simp only [Option.mem_def, Option.some.injEq, exists_eq_left', Finset.mem_insert, hgetD]
      by_cases hconnection : connection' = connection
      · simp [hconnection, hsession]
      · rw [← hsession, hold]
        simp [hconnection]
    · rw [if_neg hsession]
      by_cases hconnection : connection' = connection
      · rw [hconnection, if_pos rfl]
        rw [Indexed, hconnection, hunbound] at hold
        constructor
        · intro hindexed
          obtain ⟨_, hnone, _⟩ := hold.mp hindexed
          cases hnone
        · rintro ⟨_, hbinding, hsame⟩
          exact absurd (Option.some.inj hbinding ▸ hsame.symm) hsession
      · rw [if_neg hconnection]
        exact hold
  · rw [hlookup] at hsome
    split at hsome
    · rw [← Option.some.inj hsome]
      exact Finset.insert_ne_empty _ _
    · exact h.nonempty sessionId connections hsome

def trackedSessions (g : SessionRouteRegistry) : Finset SessionId :=
  g.revokedThrough.keys ∪ g.connectionsBySession.keys

theorem trackedSessionCount_eq : g.trackedSessionCount = g.trackedSessions.card := by
  have hdisjoint : Disjoint g.revokedThrough.keys
      (g.connectionsBySession.keys.filter fun s => g.revokedThrough.lookup s = none) := by
    rw [Finset.disjoint_left]
    intro s hrevoked hunrevoked
    exact Finmap.lookup_eq_none.mp (Finset.mem_filter.mp hunrevoked).2 (Finmap.mem_keys.mp hrevoked)
  rw [trackedSessionCount, ← Finset.card_union_of_disjoint hdisjoint]
  congr 1
  ext s
  simp only [trackedSessions, Finset.mem_union, Finset.mem_filter, Finmap.mem_keys,
    Finmap.lookup_eq_none]
  tauto

theorem mem_trackedSessions : sessionId ∈ g.trackedSessions ↔ g.tracked sessionId := by
  rw [trackedSessions, Finset.mem_union, Finmap.mem_keys, Finmap.mem_keys, tracked]
  exact or_comm

theorem Indexing.mem_index (h : g.Indexing) :
    sessionId ∈ g.connectionsBySession ↔ ∃ connection binding,
      g.bindings.lookup connection = some binding ∧ binding.sessionId = sessionId := by
  constructor
  · intro hmem
    obtain ⟨connections, hlookup⟩ := Finmap.mem_iff.mp hmem
    obtain ⟨connection, hconnection⟩ :=
      Finset.nonempty_iff_ne_empty.mpr (h.nonempty sessionId connections hlookup)
    exact ⟨connection, (h.indexed sessionId connection).mp ⟨connections, hlookup, hconnection⟩⟩
  · rintro ⟨connection, hbinding⟩
    obtain ⟨connections, hlookup, _⟩ := (h.indexed sessionId connection).mpr hbinding
    exact mem_of_lookup hlookup

theorem Indexing.mem_connections (h : g.Indexing)
    (hlookup : g.connectionsBySession.lookup sessionId = some connections)
    (connection : ConnectionRef) : connection ∈ connections ↔
      ∃ binding, g.bindings.lookup connection = some binding ∧ binding.sessionId = sessionId := by
  rw [← h.indexed, Indexed, hlookup]
  simp

structure Steady (g g' : SessionRouteRegistry) : Prop where
  limits : g'.limits = g.limits
  namespace_ : g'.namespace_ = g.namespace_
  checkpoint : g'.checkpoint = g.checkpoint
  revision : g.revision ≤ g'.revision

theorem Sound.checkpoints (h : g.Sound) (hsteady : Steady g g') :
    ∀ checkpoint ∈ g'.checkpoint, g'.verifyCheckpoint checkpoint = .ok () := by
  intro checkpoint hmem
  rw [hsteady.checkpoint] at hmem
  have hold := h.checkpointed checkpoint hmem
  unfold verifyCheckpoint at hold ⊢
  rw [require_ok] at hold ⊢
  rw [hsteady.namespace_]
  obtain ⟨hactive, hretired, hrevision, hdigests⟩ := hold
  exact ⟨hactive, hretired, UInt64.le_trans hrevision hsteady.revision, hdigests⟩

structure Shrunk (g g' : SessionRouteRegistry) : Prop extends Steady g g' where
  bindings : ∀ connection binding, g'.bindings.lookup connection = some binding →
    g.bindings.lookup connection = some binding
  revoked : g'.revokedThrough = g.revokedThrough
  connections : g'.router.connections = g.router.connections
  entries : ∀ key, key ∈ g'.router.entries → key ∈ g.router.entries

theorem Shrunk.refl (g : SessionRouteRegistry) : Shrunk g g :=
  ⟨⟨rfl, rfl, rfl, UInt64.le_refl _⟩, fun _ _ => id, rfl, rfl, fun _ => id⟩

theorem Shrunk.trans {g'' : SessionRouteRegistry} (h : Shrunk g g') (h' : Shrunk g' g'') :
    Shrunk g g'' where
  limits := h'.limits.trans h.limits
  namespace_ := h'.namespace_.trans h.namespace_
  checkpoint := h'.checkpoint.trans h.checkpoint
  revision := UInt64.le_trans h.revision h'.revision
  bindings := fun connection binding hlookup =>
    h.bindings connection binding (h'.bindings connection binding hlookup)
  revoked := h'.revoked.trans h.revoked
  connections := h'.connections.trans h.connections
  entries := fun key hkey => h.entries key (h'.entries key hkey)

theorem Shrunk.tracked (h : Shrunk g g') (hindexing : g.Indexing) (hindexing' : g'.Indexing) :
    g'.trackedSessions ⊆ g.trackedSessions := by
  intro sessionId
  rw [mem_trackedSessions, mem_trackedSessions, SessionRouteRegistry.tracked,
    SessionRouteRegistry.tracked, h.revoked, hindexing.mem_index, hindexing'.mem_index]
  rintro (⟨connection, binding, hlookup, hsession⟩ | hrevoked)
  · exact .inl ⟨connection, binding, h.bindings connection binding hlookup, hsession⟩
  · exact .inr hrevoked

theorem Within.shrunk (h : g.Within) (hindexing : g.Indexing) (hindexing' : g'.Indexing)
    (hshrunk : Shrunk g g') : g'.Within where
  active := by
    rw [hshrunk.limits]
    refine (Finset.card_le_card fun connection => ?_).trans h.active
    rw [Finmap.mem_keys, Finmap.mem_keys]
    intro hmem
    obtain ⟨binding, hlookup⟩ := Finmap.mem_iff.mp hmem
    exact mem_of_lookup (hshrunk.bindings connection binding hlookup)
  connections := by
    rw [hshrunk.limits, PresenceRouter.connectionCount, hshrunk.connections]
    exact h.connections
  entries := by
    rw [hshrunk.limits]
    refine (Finset.card_le_card fun key => ?_).trans h.entries
    rw [Finmap.mem_keys, Finmap.mem_keys]
    exact hshrunk.entries key
  highWaters := by
    rw [hshrunk.limits, hshrunk.revoked]
    exact h.highWaters
  sessions := by
    rw [hshrunk.limits, trackedSessionCount_eq]
    refine (Finset.card_le_card (hshrunk.tracked hindexing hindexing')).trans ?_
    rw [← trackedSessionCount_eq]
    exact h.sessions
  perSession := by
    intro sessionId connections hlookup
    obtain ⟨old, hold⟩ : ∃ old, g.connectionsBySession.lookup sessionId = some old := by
      refine Finmap.mem_iff.mp (hindexing.mem_index.mpr ?_)
      obtain ⟨connection, binding, hbinding, hsession⟩ :=
        hindexing'.mem_index.mp (mem_of_lookup hlookup)
      exact ⟨connection, binding, hshrunk.bindings connection binding hbinding, hsession⟩
    rw [hshrunk.limits]
    refine (Finset.card_le_card fun connection => ?_).trans (h.perSession sessionId old hold)
    rw [hindexing'.mem_connections hlookup, hindexing.mem_connections hold]
    rintro ⟨binding, hbinding, hsession⟩
    exact ⟨binding, hshrunk.bindings connection binding hbinding, hsession⟩

theorem Sound.shrunk (h : g.Sound) (hshrunk : Shrunk g g') (hindexing : g'.Indexing)
    (hrouter : g'.router.Sound) (hrouted : ∀ key, key ∈ g'.router.entries →
      key.connection ∈ g'.bindings) : g'.Sound where
  indexing := hindexing
  router := hrouter
  bound := by
    intro connection binding hlookup
    rw [hshrunk.connections]
    exact h.bound connection binding (hshrunk.bindings connection binding hlookup)
  routed := hrouted
  fresh := by
    intro connection binding hlookup
    rw [hshrunk.revoked]
    exact h.fresh connection binding (hshrunk.bindings connection binding hlookup)
  toWithin := h.toWithin.shrunk h.indexing hindexing hshrunk
  checkpointed := h.checkpoints hshrunk.toSteady

variable {router : PresenceRouter}

theorem Sound.rerouted (h : g.Sound) (hrerouted : PresenceRouter.Rerouted g.router router) :
    Sound { g with router } ∧ Shrunk g { g with router } := by
  have hshrunk : Shrunk g { g with router } :=
    ⟨⟨rfl, rfl, rfl, UInt64.le_refl _⟩, fun _ _ => id, rfl, hrerouted.connections,
      hrerouted.entries⟩
  refine ⟨h.shrunk hshrunk ⟨h.indexing.indexed, h.indexing.nonempty⟩ hrerouted.sound ?_, hshrunk⟩
  exact fun key hkey => h.routed key (hrerouted.entries key hkey)

theorem removeBinding_frame (connection : ConnectionRef) :
    ∃ bindings connectionsBySession, g.removeBinding connection =
      { g with bindings, connectionsBySession } := by
  cases hlookup : g.bindings.lookup connection with
  | none => exact ⟨_, _, removeBinding_none hlookup⟩
  | some binding => exact ⟨_, _, removeBinding_unindexed hlookup⟩

theorem Sound.disconnected (h : g.Sound)
    (hdisconnected : PresenceRouter.Disconnected g.router connection router) :
    Sound ({ g with router }.removeBinding connection) ∧
      Shrunk g ({ g with router }.removeBinding connection) := by
  obtain ⟨hsound, hshrunk⟩ := h.rerouted (hdisconnected.rerouted h.router)
  have hindexing := hsound.indexing.removeBinding connection
  have hbindings := removeBinding_bindings (g := { g with router }) connection
  obtain ⟨bindings, connectionsBySession, hframe⟩ :=
    removeBinding_frame (g := { g with router }) connection
  rw [hframe] at hindexing hbindings ⊢
  have hremoved : Shrunk { g with router } { g with router, bindings, connectionsBySession } := by
    refine ⟨⟨rfl, rfl, rfl, UInt64.le_refl _⟩, ?_, rfl, rfl, fun _ => id⟩
    intro connection' binding hlookup
    rw [hbindings] at hlookup
    split at hlookup
    · cases hlookup
    · exact hlookup
  refine ⟨hsound.shrunk hremoved hindexing hsound.router ?_, hshrunk.trans hremoved⟩
  intro key hkey
  have hrouted := hsound.routed key hkey
  obtain ⟨record, hrecord⟩ := Finmap.mem_iff.mp hkey
  rw [hdisconnected.entries] at hrecord
  split at hrecord
  · cases hrecord
  · next hother =>
    obtain ⟨binding, hbinding⟩ := Finmap.mem_iff.mp hrouted
    refine Finmap.mem_iff.mpr ⟨binding, ?_⟩
    rw [hbindings, if_neg hother]
    exact hbinding

theorem le_of_nextRevision {revision next : UInt64} (h : nextRevision revision = some next) :
    revision ≤ next := by
  unfold nextRevision at h
  split at h
  · next hbound =>
    rw [← Option.some.inj h, UInt64.le_iff_toNat_le, UInt64.toNat_add, UInt64.toNat_one]
    omega
  · cases h

theorem external_of_presence {error : PresenceError} (h : Presence.External error) :
    External (.presence error) := by
  rintro (⟨_, hsame⟩ | ⟨inner, hsame, hinner⟩)
  · cases hsame
  · cases hsame
    exact h hinner

variable {α : Type}

theorem ensures_ofRouter {Q : α → Prop} {x : Except PresenceError α}
    (h : Ensures Q Presence.External x) : Ensures Q External (ofRouter x) := by
  rw [ofRouter, ensures_mapError]
  exact h.mono (fun _ _ => id) fun _ he => external_of_presence he

variable {E : SessionRouteError → Prop}

theorem ensures_forM_option {o : Option α} {f : α → Except SessionRouteError Unit} {P : α → Prop}
    (h : ∀ a, Ensures (fun _ => P a) E (f a)) :
    Ensures (fun _ => ∀ a ∈ o, P a) E (o.toList.forM f) := by
  cases o with
  | none => exact fun a ha => nomatch ha
  | some a =>
    change Ensures _ E (f a >>= fun _ => pure ())
    rw [ensures_bind]
    refine (h a).mono (fun _ _ hp => ?_) fun _ => id
    rintro b hb
    rwa [← Option.some.inj hb]

structure Admitted (g : SessionRouteRegistry) (request : SessionJoinRequest) : Prop where
  fresh : ∀ through ∈ g.revokedThrough.lookup request.presence.identity.sessionId,
    through < request.sessionGeneration
  rebound : ∀ binding ∈ g.bindings.lookup request.presence.connection,
    ¬ request.presence.generation < binding.connectionGeneration ∧
      (¬ binding.connectionGeneration < request.presence.generation →
        binding.sessionId = request.presence.identity.sessionId)

theorem validateRebinding_ensures (connection : ConnectionRef)
    (connectionGeneration : ConnectionGeneration) (sessionId : SessionId)
    (sessionGeneration : SessionRouteGeneration) (binding : SessionBinding) :
    Ensures (fun _ => ¬ connectionGeneration < binding.connectionGeneration ∧
        (¬ binding.connectionGeneration < connectionGeneration → binding.sessionId = sessionId))
      External (validateRebinding connection connectionGeneration sessionId sessionGeneration
        binding) := by
  unfold validateRebinding
  rw [ensures_bind, ensures_require]
  refine ⟨fun hold => ?_, fun _ => ?_⟩
  · split
    · next hnewer => exact ⟨hold, fun hnot => absurd hnewer hnot⟩
    · rw [ensures_bind, ensures_require]
      refine ⟨fun hsame => ?_, fun _ => ?_⟩
      · rw [ensures_require]
        refine ⟨fun _ => ⟨hold, fun _ => hsame⟩, fun _ => ?_⟩
        simp [External, SessionRouteError.Internal]
      · simp [External, SessionRouteError.Internal]
  · simp [External, SessionRouteError.Internal, PresenceError.Internal]

theorem validateJoinBinding_ensures (request : SessionJoinRequest) :
    Ensures (fun _ => g.Admitted request) External (g.validateJoinBinding
      request.presence.connection request.presence.generation request.presence.identity.sessionId
      request.sessionGeneration) := by
  unfold validateJoinBinding
  rw [ensures_bind]
  have hfresh : ∀ through, Ensures (fun _ => through < request.sessionGeneration) External
      (require (¬ request.sessionGeneration ≤ through) (.sessionRevoked
        request.presence.identity.sessionId through request.sessionGeneration)) := by
    intro through
    rw [ensures_require]
    refine ⟨fun hnot => UInt64.not_le.mp hnot, fun _ => ?_⟩
    simp [External, SessionRouteError.Internal]
  refine (ensures_forM_option hfresh).mono (fun _ _ hfresh => ?_) fun _ => id
  refine (ensures_forM_option fun binding => validateRebinding_ensures _ _ _ _ binding).mono
    (fun _ _ hrebound => ?_) fun _ => id
  exact ⟨hfresh, hrebound⟩

structure Fits (g : SessionRouteRegistry) (request : SessionJoinRequest) : Prop where
  active : (insert request.presence.connection g.bindings.keys).card ≤
    g.limits.maxActiveConnections
  connections : (insert request.presence.connection g.router.connections.keys).card ≤
    g.limits.maxTrackedConnections
  sessions : (insert request.presence.identity.sessionId g.trackedSessions).card -
      (if generationAdvance (g.router.connections.lookup request.presence.connection)
          request.presence.generation ∧ g.exclusivelyReplaced request.presence.connection
            request.presence.identity.sessionId then 1 else 0) ≤ g.limits.maxTrackedSessions
  perSession : ∀ connections ∈ g.connectionsBySession.lookup request.presence.identity.sessionId,
    request.presence.connection ∈ connections ∨
      connections.card < g.limits.maxConnectionsPerSession
  retiring : generationAdvance (g.router.connections.lookup request.presence.connection)
      request.presence.generation →
    (insert ⟨request.presence.connection, request.presence.stream⟩ (g.router.entries.keys.filter
      fun key => ¬ key.connection = request.presence.connection)).card ≤ g.limits.maxPresenceEntries
  adding : ¬ generationAdvance (g.router.connections.lookup request.presence.connection)
      request.presence.generation →
    (insert ⟨request.presence.connection, request.presence.stream⟩ g.router.entries.keys).card ≤
      g.limits.maxPresenceEntries

theorem card_insert_le [DecidableEq α] (a : α) (s : Finset α) {p : Prop} [Decidable p]
    (h : p ↔ a ∈ s) : (insert a s).card = s.card + if p then 0 else 1 := by
  rw [Finset.card_insert_eq_ite]
  by_cases ha : a ∈ s
  · simp [ha, h]
  · simp [ha, h]

theorem ensures_checkedAdd {a b : Nat} {e : SessionRouteError} {Q : Nat → Prop}
    (hbound : a + b ≤ usizeMax) (h : Q (a + b)) : Ensures Q E (fetch (checkedAdd a b) e) := by
  rw [ensures_fetch, checkedAdd, if_pos hbound]
  exact ⟨fun _ hsome => Option.some.inj hsome ▸ h, fun hnone => nomatch hnone⟩

theorem external_resourceExhausted (resource : String) (limit : Nat) :
    External (.resourceExhausted resource limit) := by
  simp [External, SessionRouteError.Internal]

theorem advance_iff (connection : ConnectionRef) (generation : ConnectionGeneration) :
    (∀ current ∈ g.router.establishedGeneration connection, current < generation) ↔
      generationAdvance (g.router.connections.lookup connection) generation := by
  unfold PresenceRouter.establishedGeneration generationAdvance
  cases g.router.connections.lookup connection <;> simp

theorem exclusivelyReplaced_tracked {connection : ConnectionRef} {sessionId : SessionId}
    (h : g.exclusivelyReplaced connection sessionId) : 1 ≤ g.trackedSessions.card := by
  obtain ⟨previous, _, _, _, connections, hlookup, _⟩ := h
  refine Finset.card_pos.mpr ⟨previous.sessionId, mem_trackedSessions.mpr (.inl ?_)⟩
  exact mem_of_lookup hlookup

theorem Sound.projectedTrackedSessionCount (h : g.Sound) (connection : ConnectionRef)
    (sessionId : SessionId) (advance : Prop) [Decidable advance] :
    g.projectedTrackedSessionCount connection sessionId advance =
      .ok ((insert sessionId g.trackedSessions).card -
        (if advance ∧ g.exclusivelyReplaced connection sessionId then 1 else 0)) := by
  have hcard := card_insert_le sessionId g.trackedSessions
    (mem_trackedSessions : sessionId ∈ g.trackedSessions ↔ _).symm
  have hsessions := h.sessions
  have hlimit := g.limits.trackedSessions
  rw [trackedSessionCount_eq] at hsessions
  have hone : (if g.tracked sessionId then 0 else 1) ≤ 1 := by split <;> omega
  have hbound : g.trackedSessions.card + (if g.tracked sessionId then 0 else 1) ≤ usizeMax := by
    rw [usizeMax]
    omega
  have hadded : checkedAdd g.trackedSessions.card (if g.tracked sessionId then 0 else 1) =
      some (insert sessionId g.trackedSessions).card := by
    rw [checkedAdd, if_pos hbound, hcard]
  unfold SessionRouteRegistry.projectedTrackedSessionCount
  rw [trackedSessionCount_eq, hadded, fetch, Option.elim_some, ok_bind]
  split
  · next hreplaced =>
    have hpos := exclusivelyReplaced_tracked hreplaced.2
    have hle : 1 ≤ (insert sessionId g.trackedSessions).card := by omega
    rw [checkedSub, if_pos hle]
    rfl
  · rfl

variable {request : SessionJoinRequest}

theorem Sound.current (h : g.Sound) (hadmitted : g.Admitted request)
    (hadvance : ¬ generationAdvance (g.router.connections.lookup request.presence.connection)
      request.presence.generation) {key : PresenceKey} {record : PresenceRecord}
    (hlookup : g.router.entries.lookup key = some record)
    (hconnection : record.connection = request.presence.connection) :
    record.generation = request.presence.generation := by
  have hestablished := h.router.established key record hlookup
  have hrouted := h.routed key (mem_of_lookup hlookup)
  rw [h.router.keyed key record hlookup, hconnection] at hrouted
  obtain ⟨binding, hbinding⟩ := Finmap.mem_iff.mp hrouted
  obtain ⟨identity, hstate, _⟩ := h.bound _ binding hbinding
  obtain ⟨hnotmore, _⟩ := hadmitted.rebound binding hbinding
  obtain ⟨state, hsome, hnotless⟩ := PresenceRouter.not_advance hadvance
  rw [hconnection, hstate] at hestablished
  rw [hstate] at hsome
  cases hsome
  simp only [Option.some.injEq, ConnectionState.mk.injEq] at hestablished
  dsimp only at hnotless
  rw [UInt64.lt_iff_toNat_lt] at hnotless hnotmore
  rw [← hestablished.1]
  exact UInt64.toNat_inj.mp (by omega)

variable {advance : Prop}

theorem Sound.alreadyJoined (h : g.Sound) (hadmitted : g.Admitted request) [Decidable advance]
    (hcurrent : ¬ advance)
    (hadvance : ¬ generationAdvance (g.router.connections.lookup request.presence.connection)
      request.presence.generation) :
    ∃ joined, g.alreadyJoined request.presence advance = .ok joined ∧ (joined = true ↔
      ⟨request.presence.connection, request.presence.stream⟩ ∈ g.router.entries.keys) := by
  obtain ⟨records, hrecords⟩ := h.router.snapshot request.presence.stream .includeHidden
  have hok : g.alreadyJoined request.presence advance = .ok (records.any fun record =>
      record.connection = request.presence.connection &&
        record.generation = request.presence.generation) := by
    unfold SessionRouteRegistry.alreadyJoined
    rw [if_neg hcurrent, hrecords]
    rfl
  refine ⟨_, hok, ?_⟩
  rw [List.any_eq_true, Finmap.mem_keys]
  constructor
  · rintro ⟨record, hmem, hsame⟩
    rw [Bool.and_eq_true, decide_eq_true_eq, decide_eq_true_eq] at hsame
    obtain ⟨hstream, _, key, hlookup⟩ := (PresenceRouter.mem_snapshot hrecords record).mp hmem
    rw [← hsame.1, ← hstream, ← h.router.keyed key record hlookup]
    exact mem_of_lookup hlookup
  · intro hmem
    obtain ⟨record, hlookup⟩ := Finmap.mem_iff.mp hmem
    have hkeyed := h.router.keyed _ record hlookup
    simp only [PresenceKey.mk.injEq] at hkeyed
    have hgeneration := h.current hadmitted hadvance hlookup hkeyed.1.symm
    refine ⟨record, (PresenceRouter.mem_snapshot hrecords record).mpr
      ⟨hkeyed.2.symm, .inl rfl, _, hlookup⟩, ?_⟩
    rw [hkeyed.1, hgeneration]
    simp

theorem Sound.retiredEntries (h : g.Sound) (request : JoinPresenceRequest) [Decidable advance]
    (hadvance : advance) : g.retiredEntries request advance =
      .ok (g.router.entries.keys.filter fun key => key.connection = request.connection).card := by
  unfold SessionRouteRegistry.retiredEntries
  split
  · rw [h.router.entryCountForConnection]
    rfl
  · next hnone =>
    refine congrArg _ (Finset.card_eq_zero.mpr (Finset.filter_eq_empty_iff.mpr ?_)).symm
    intro key hkey hconnection
    obtain ⟨record, hlookup⟩ := Finmap.mem_iff.mp (Finmap.mem_keys.mp hkey)
    rw [h.router.keyed key record hlookup] at hconnection
    refine hnone ⟨hadvance, ?_⟩
    rw [PresenceRouter.establishedGeneration, ← hconnection,
      h.router.established key record hlookup]
    simp

def Exhausted (error : SessionRouteError) : Prop :=
  ∃ resource limit, error = .resourceExhausted resource limit

theorem external_of_exhausted {error : SessionRouteError} (h : Exhausted error) :
    External error := by
  obtain ⟨resource, limit, rfl⟩ := h
  exact external_resourceExhausted resource limit

structure EntriesFit (g : SessionRouteRegistry) (request : JoinPresenceRequest) : Prop where
  retiring : generationAdvance (g.router.connections.lookup request.connection)
      request.generation →
    (insert ⟨request.connection, request.stream⟩ (g.router.entries.keys.filter
      fun key => ¬ key.connection = request.connection)).card ≤ g.limits.maxPresenceEntries
  adding : ¬ generationAdvance (g.router.connections.lookup request.connection)
      request.generation →
    (insert ⟨request.connection, request.stream⟩ g.router.entries.keys).card ≤
      g.limits.maxPresenceEntries

theorem Sound.requirePresenceCapacity (h : g.Sound) (hadmitted : g.Admitted request)
    (advance : Prop) [Decidable advance] (hadvance : advance ↔ generationAdvance
      (g.router.connections.lookup request.presence.connection) request.presence.generation) :
    Ensures (fun _ => g.EntriesFit request.presence)
      (fun e => Exhausted e ∧ ¬ g.EntriesFit request.presence)
      (g.requirePresenceCapacity request.presence advance) := by
  have hentries := h.entries
  have hlimit := g.limits.presenceEntries
  rw [PresenceRouter.entryCount] at hentries
  unfold SessionRouteRegistry.requirePresenceCapacity
  by_cases hadvanced : advance
  · have hsplit := Finset.card_filter_add_card_filter_not (s := g.router.entries.keys)
      (fun key => key.connection = request.presence.connection)
    have hinsert : (insert (⟨request.presence.connection, request.presence.stream⟩ : PresenceKey)
        (g.router.entries.keys.filter fun key =>
          ¬ key.connection = request.presence.connection)).card = (g.router.entries.keys.filter
            fun key => ¬ key.connection = request.presence.connection).card + 1 :=
      Finset.card_insert_of_notMem (by simp)
    rw [h.retiredEntries _ hadvanced, ensures_bind, ensures_ok, SessionRouteRegistry.alreadyJoined,
      if_pos hadvanced, ensures_bind, ensures_ok, PresenceRouter.entryCount, checkedSub,
      if_pos (by omega), Option.bind_some, ensures_bind]
    refine ensures_checkedAdd ?_ ?_
    · rw [usizeMax]
      simp only [Bool.false_eq_true, if_false]
      omega
    · rw [ensures_require]
      simp only [Bool.false_eq_true, if_false]
      refine ⟨fun hfits => ⟨fun _ => ?_, fun hnot => absurd (hadvance.mp hadvanced) hnot⟩,
        fun hfull => ⟨⟨_, _, rfl⟩, fun hfits => ?_⟩⟩
      · rw [hinsert]
        omega
      · have hretiring := hfits.retiring (hadvance.mp hadvanced)
        omega
  · obtain ⟨joined, hok, hjoined⟩ := h.alreadyJoined hadmitted hadvanced fun hnot =>
      hadvanced (hadvance.mpr hnot)
    have hinsert := card_insert_le (⟨request.presence.connection, request.presence.stream⟩ :
      PresenceKey) g.router.entries.keys hjoined
    rw [SessionRouteRegistry.retiredEntries, if_neg fun hboth => hadvanced hboth.1, ensures_bind,
      ensures_ok, hok, ensures_bind, ensures_ok, PresenceRouter.entryCount, checkedSub,
      if_pos (by omega), Option.bind_some, ensures_bind]
    have hone : (if joined then 0 else 1) ≤ 1 := by split <;> omega
    refine ensures_checkedAdd ?_ ?_
    · rw [usizeMax]
      omega
    · rw [ensures_require]
      refine ⟨fun hfits => ⟨fun hyes => absurd (hadvance.mpr hyes) hadvanced, fun _ => ?_⟩,
        fun hfull => ⟨⟨_, _, rfl⟩, fun hfits => ?_⟩⟩
      · rw [hinsert]
        exact hfits
      · have hadding := hfits.adding fun hyes => hadvanced (hadvance.mpr hyes)
        rw [hinsert] at hadding
        exact hfull hadding

theorem Sound.requireJoinCapacity (h : g.Sound) (hadmitted : g.Admitted request) :
    Ensures (fun _ => g.Fits request) (fun e => Exhausted e ∧ ¬ g.Fits request)
      (g.requireJoinCapacity request) := by
  have hactive := h.active
  have hconnections := h.connections
  have hactiveLimit := g.limits.activeConnections
  have hconnectionsLimit := g.limits.trackedConnections
  rw [PresenceRouter.connectionCount] at hconnections
  have hbound := card_insert_le request.presence.connection g.bindings.keys
    (Finmap.mem_keys (s := g.bindings) (a := request.presence.connection)).symm
  have hestablished := card_insert_le (p := ¬ g.router.establishedGeneration
    request.presence.connection = none) request.presence.connection g.router.connections.keys (by
      rw [Finmap.mem_keys, PresenceRouter.establishedGeneration, Option.map_eq_none_iff,
        Finmap.lookup_eq_none, not_not])
  have hone : (if request.presence.connection ∈ g.bindings then 0 else 1) ≤ 1 := by split <;> omega
  unfold SessionRouteRegistry.requireJoinCapacity
  dsimp only
  rw [ensures_bind]
  refine ensures_checkedAdd (by rw [usizeMax]; omega) ?_
  rw [ensures_bind, ensures_require]
  refine ⟨fun hactive => ?_, fun hfull => ⟨⟨_, _, rfl⟩, fun hfits => ?_⟩⟩
  swap
  · exact hfull (hbound ▸ hfits.active)
  rw [ensures_bind, PresenceRouter.connectionCount]
  rw [ite_not] at hestablished
  refine ensures_checkedAdd ?_ ?_
  · have hone : (if g.router.establishedGeneration request.presence.connection = none then 1 else 0)
      ≤ 1 := by split <;> omega
    rw [usizeMax]
    omega
  rw [ensures_bind, ensures_require]
  refine ⟨fun hconnections => ?_, fun hfull => ⟨⟨_, _, rfl⟩, fun hfits => ?_⟩⟩
  swap
  · exact hfull (hestablished ▸ hfits.connections)
  rw [ensures_bind, h.projectedTrackedSessionCount, ensures_ok, ensures_bind, ensures_require]
  simp only [advance_iff]
  refine ⟨fun hsessions => ?_, fun hfull => ⟨⟨_, _, rfl⟩, fun hfits => hfull hfits.sessions⟩⟩
  rw [ensures_bind, requireSessionCapacity, ensures_require]
  refine ⟨fun hperSession => ?_, fun hfull => ⟨⟨_, _, rfl⟩, fun hfits => hfull hfits.perSession⟩⟩
  refine (h.requirePresenceCapacity hadmitted _ Iff.rfl).mono (fun _ _ hentries => ?_)
    fun _ he => ⟨he.1, fun hfits => he.2 ⟨hfits.retiring, hfits.adding⟩⟩
  refine ⟨?_, ?_, hsessions, hperSession, hentries.retiring, hentries.adding⟩
  · rw [hbound]
    exact hactive
  · rw [hestablished]
    exact hconnections

end SessionRouteRegistry

end Presence
