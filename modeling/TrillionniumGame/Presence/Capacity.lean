import TrillionniumGame.Presence.Routes

namespace Presence
open Calls Checks FiniteMap Runs

namespace PresenceRouter

variable {r : PresenceRouter} {request : JoinPresenceRequest}

def joined (r : PresenceRouter) (request : JoinPresenceRequest) : PresenceRouter :=
  { r with
    connections := r.connections.insert request.connection ⟨request.generation, request.identity⟩
    entries := (if generationAdvance (r.connections.lookup request.connection) request.generation
        then (r.keysForConnection request.connection).foldl (fun entries key => entries.erase key)
          r.entries
        else r.entries).insert ⟨request.connection, request.stream⟩ (joinRecord request) }

theorem lookup_foldl_erase (keys : List PresenceKey) (entries : Dict PresenceKey PresenceRecord)
    (key : PresenceKey) : (keys.foldl (fun entries key => entries.erase key) entries).lookup key =
      if key ∈ keys then none else entries.lookup key := by
  induction keys generalizing entries with
  | nil => simp
  | cons first rest ih =>
    rw [List.foldl_cons, ih, lookup_erase_ite]
    by_cases hfirst : key = first
    · simp [hfirst]
    · simp [hfirst]

theorem admitGeneration_ok (h : r.admitGeneration request = .ok ()) :
    ∀ state ∈ r.connections.lookup request.connection,
      ¬ request.generation < state.generation ∧
        (request.generation = state.generation → request.identity = state.identity) :=
  (admitGeneration_ensures request).of_ok h

theorem joined_spec (h : r.admitGeneration request = .ok ()) :
    Joined r request (r.joined request) := by
  refine ⟨admitGeneration_ok h, fun connection => ?_, fun key => ?_⟩
  · rw [joined, lookup_insert_ite]
  · rw [joined, lookup_insert_ite]
    split
    · rfl
    · split
      · next hadvance =>
        rw [lookup_foldl_erase]
        by_cases hmem : key ∈ r.entries
        · simp [mem_keysForConnection, hmem, hadvance]
        · simp [mem_keysForConnection, hmem, Finmap.lookup_eq_none.mpr hmem]
      · next hadvance => simp [hadvance]

variable {r' r'' : PresenceRouter}

theorem Joined.entries_eq (h : Joined r request r') (h' : Joined r request r'') :
    r'.entries = r''.entries :=
  Finmap.ext_lookup fun key => (h.entries key).trans (h'.entries key).symm

theorem Joined.connections_eq (h : Joined r request r') (h' : Joined r request r'') :
    r'.connections = r''.connections :=
  Finmap.ext_lookup fun connection =>
    (h.connections connection).trans (h'.connections connection).symm

end PresenceRouter

namespace SessionRouteRegistry

variable {g g' g'' : SessionRouteRegistry} {request : SessionJoinRequest}

def written (g : SessionRouteRegistry) (request : SessionJoinRequest) : SessionRouteRegistry :=
  ({ g with router := g.router.joined request.presence }.removeBinding
    request.presence.connection).insertBinding request.presence.connection (nextBinding request)

structure SameRoutes (g g' : SessionRouteRegistry) : Prop where
  limits : g'.limits = g.limits
  bindings : g'.bindings = g.bindings
  sessions : g'.connectionsBySession = g.connectionsBySession
  revoked : g'.revokedThrough = g.revokedThrough
  connections : g'.router.connections = g.router.connections
  entries : g'.router.entries = g.router.entries

theorem Indexing.sessions_eq (h : g.Indexing) (h' : g'.Indexing)
    (hbindings : g'.bindings = g.bindings) :
    g'.connectionsBySession = g.connectionsBySession := by
  have hsame : ∀ sessionId connection, g'.Indexed sessionId connection ↔
      g.Indexed sessionId connection := by
    intro sessionId connection
    rw [h.indexed, h'.indexed, hbindings]
  refine Finmap.ext_lookup fun sessionId => ?_
  cases hold : g.connectionsBySession.lookup sessionId with
  | none =>
    refine Finmap.lookup_eq_none.mpr fun hmem => ?_
    rw [h'.mem_index, hbindings, ← h.mem_index] at hmem
    exact Finmap.lookup_eq_none.mp hold hmem
  | some connections =>
    have hmem : sessionId ∈ g'.connectionsBySession := by
      rw [h'.mem_index, hbindings, ← h.mem_index]
      exact mem_of_lookup hold
    obtain ⟨connections', hnew⟩ := Finmap.mem_iff.mp hmem
    rw [hnew]
    congr 1
    ext connection
    rw [h.mem_connections hold, h'.mem_connections hnew, hbindings]

theorem Rebound.unique (h : Rebound g request g') (h' : Rebound g request g'') :
    SameRoutes g' g'' where
  limits := h'.steady.limits.trans h.steady.limits.symm
  bindings := Finmap.ext_lookup fun connection =>
    (h'.bindings connection).trans (h.bindings connection).symm
  sessions := h.indexing.sessions_eq h'.indexing (Finmap.ext_lookup fun connection =>
    (h'.bindings connection).trans (h.bindings connection).symm)
  revoked := h'.revoked.trans h.revoked.symm
  connections := h'.router.connections_eq h.router
  entries := h'.router.entries_eq h.router

theorem Sound.written (h : g.Sound) (hallowed : g.router.admitGeneration request.presence = .ok ()) :
    Rebound g request (g.written request) :=
  h.rebound (PresenceRouter.joined_spec hallowed)

theorem Rebound.revised (h : Rebound g request g') {revision : UInt64}
    (hle : g'.revision ≤ revision) : Rebound g request { g' with revision } :=
  ⟨⟨h.steady.limits, h.steady.namespace_, h.steady.checkpoint,
    UInt64.le_trans h.steady.revision hle⟩, h.revoked,
    ⟨h.indexing.indexed, h.indexing.nonempty⟩, h.bindings, h.router⟩

structure WithinLimits (g : SessionRouteRegistry) : Prop where
  active : g.bindings.keys.card ≤ g.limits.maxActiveConnections
  connections : g.router.connectionCount ≤ g.limits.maxTrackedConnections
  sessions : g.trackedSessionCount ≤ g.limits.maxTrackedSessions
  perSession : ∀ sessionId connections,
    g.connectionsBySession.lookup sessionId = some connections →
    connections.card ≤ g.limits.maxConnectionsPerSession
  entries : g.router.entryCount ≤ g.limits.maxPresenceEntries

theorem Rebound.kept (h : Rebound g request g') (hsound : g.Sound) (hadmitted : g.Admitted request)
    {sessionId : SessionId}
    (htracked : sessionId ∈ insert request.presence.identity.sessionId g.trackedSessions)
    (hlost : sessionId ∉ g'.trackedSessions) :
    generationAdvance (g.router.connections.lookup request.presence.connection)
        request.presence.generation ∧
      g.exclusivelyReplaced request.presence.connection request.presence.identity.sessionId ∧
      ∃ previous ∈ g.bindings.lookup request.presence.connection,
        previous.sessionId = sessionId := by
  rw [mem_trackedSessions, SessionRouteRegistry.tracked, h.revoked, h.indexing.mem_index,
    not_or] at hlost
  obtain ⟨hunbound, hunrevoked⟩ := hlost
  have hother : sessionId ≠ request.presence.identity.sessionId := by
    rintro rfl
    exact hunbound ⟨request.presence.connection, nextBinding request,
      (h.bindings _).trans (if_pos rfl), rfl⟩
  have htracked := mem_trackedSessions.mp (Finset.mem_of_mem_insert_of_ne htracked hother)
  rw [SessionRouteRegistry.tracked, hsound.indexing.mem_index] at htracked
  obtain ⟨connection, previous, hprevious, rfl⟩ := htracked.resolve_right hunrevoked
  have hmoved : ∀ other binding, g.bindings.lookup other = some binding →
      binding.sessionId = previous.sessionId → other = request.presence.connection := by
    intro other binding hlookup hsession
    by_contra hne
    exact hunbound ⟨other, binding, (h.bindings other).trans ((if_neg hne).trans hlookup), hsession⟩
  cases hmoved connection previous hprevious rfl
  obtain ⟨-, hrebound⟩ := hadmitted.rebound previous hprevious
  obtain ⟨identity, hstate, -⟩ := hsound.bound _ previous hprevious
  have hnewer : previous.connectionGeneration < request.presence.generation := by
    by_contra hnot
    exact hother (hrebound hnot)
  obtain ⟨connections, hconnections, hmem⟩ := (hsound.indexing.indexed previous.sessionId
    request.presence.connection).mpr ⟨previous, hprevious, rfl⟩
  have hone : connections.card = 1 := by
    refine Finset.card_eq_one.mpr ⟨request.presence.connection, ?_⟩
    refine Finset.eq_singleton_iff_unique_mem.mpr ⟨hmem, fun other hin => ?_⟩
    obtain ⟨binding, hlookup, hsession⟩ :=
      (hsound.indexing.mem_connections hconnections other).mp hin
    exact hmoved other binding hlookup hsession
  refine ⟨?_, ⟨previous, hprevious, hother, hunrevoked, connections, hconnections, hone, hmem⟩,
    previous, hprevious, rfl⟩
  rw [hstate]
  simpa [generationAdvance] using hnewer

theorem Rebound.sessions_le (h : Rebound g request g') (hsound : g.Sound)
    (hadmitted : g.Admitted request) :
    (insert request.presence.identity.sessionId g.trackedSessions).card -
      (if generationAdvance (g.router.connections.lookup request.presence.connection)
          request.presence.generation ∧ g.exclusivelyReplaced request.presence.connection
            request.presence.identity.sessionId then 1 else 0) ≤ g'.trackedSessions.card := by
  split
  · next hreplaced =>
    obtain ⟨previous, hprevious, -⟩ := hreplaced.2
    have hsubset : (insert request.presence.identity.sessionId g.trackedSessions).erase
        previous.sessionId ⊆ g'.trackedSessions := by
      intro sessionId hmem
      by_contra hlost
      obtain ⟨hne, hmem⟩ := Finset.mem_erase.mp hmem
      obtain ⟨-, -, other, hother, hsession⟩ := h.kept hsound hadmitted hmem hlost
      rw [Option.mem_def.mp hprevious] at hother
      exact hne (Option.some.inj hother ▸ hsession.symm)
    exact Finset.pred_card_le_card_erase.trans (Finset.card_le_card hsubset)
  · next hkeeps =>
    refine Finset.card_le_card fun sessionId hmem => ?_
    by_contra hlost
    obtain ⟨hadvance, hreplaced, -⟩ := h.kept hsound hadmitted hmem hlost
    exact hkeeps ⟨hadvance, hreplaced⟩

theorem Rebound.fits_iff (h : Rebound g request g') (hsound : g.Sound)
    (hadmitted : g.Admitted request) : g.Fits request ↔ g'.WithinLimits := by
  constructor
  · intro hfits
    have hafter := h.sound hsound hadmitted hfits
    exact ⟨hafter.active, hafter.connections, hafter.sessions, hafter.perSession, hafter.entries⟩
  · intro hwithin
    have hactive := hwithin.active
    have hconnections := hwithin.connections
    have hsessions := hwithin.sessions
    have hentries := hwithin.entries
    rw [h.keys, h.steady.limits] at hactive
    rw [PresenceRouter.connectionCount, h.router.connection_keys, h.steady.limits] at hconnections
    rw [trackedSessionCount_eq, h.steady.limits] at hsessions
    rw [PresenceRouter.entryCount, h.steady.limits] at hentries
    refine ⟨hactive, hconnections, (h.sessions_le hsound hadmitted).trans hsessions,
      fun connections hlookup => ?_, fun hadvance => ?_, fun hcurrent => ?_⟩
    · by_contra hfull
      rw [not_or] at hfull
      obtain ⟨connections', hnew, -⟩ := (h.indexing.indexed
        request.presence.identity.sessionId request.presence.connection).mpr
          ⟨nextBinding request, (h.bindings _).trans (if_pos rfl), rfl⟩
      have hsubset : insert request.presence.connection connections ⊆ connections' := by
        intro connection hmem
        rw [h.indexing.mem_connections hnew]
        rcases Finset.mem_insert.mp hmem with rfl | hin
        · exact ⟨nextBinding request, (h.bindings _).trans (if_pos rfl), rfl⟩
        · obtain ⟨binding, hbinding, hsession⟩ :=
            (hsound.indexing.mem_connections hlookup connection).mp hin
          have hne : connection ≠ request.presence.connection := fun heq => hfull.1 (heq ▸ hin)
          exact ⟨binding, (h.bindings connection).trans ((if_neg hne).trans hbinding), hsession⟩
      have hcard := Finset.card_le_card hsubset
      have hlimit := hwithin.perSession _ connections' hnew
      rw [Finset.card_insert_of_notMem hfull.1] at hcard
      rw [h.steady.limits] at hlimit
      omega
    · rw [← h.router.keys_of_advance hadvance]
      exact hentries
    · rw [← h.router.keys_of_current hcurrent]
      exact hentries

theorem verifyInvariants_other : Fails (fun e => ¬ Exhausted e) g.verifyInvariants := by
  have hviolation : ∀ text, ¬ Exhausted (.invariantViolation text) := by simp [Exhausted]
  have hchecked : ∀ {c : Prop} [Decidable c] {text},
      Fails (fun e => ¬ Exhausted e) (require c (.invariantViolation text)) :=
    fails_require fun _ => hviolation _
  have hforM : ∀ {α : Type} {f : α → Except SessionRouteError Unit} (xs : List α),
      (∀ x, Fails (fun e => ¬ Exhausted e) (f x)) → Fails (fun e => ¬ Exhausted e) (xs.forM f) := by
    intro α f xs hf
    induction xs with
    | nil => exact fails_ok
    | cons x xs ih => exact fails_bind (hf x) fun _ _ => ih
  refine fails_bind (fails_mapError fun _ _ => by simp [Exhausted]) fun _ _ => ?_
  refine fails_bind (hforM _ fun _ => hchecked) fun _ _ => ?_
  refine fails_bind hchecked fun _ _ => ?_
  refine fails_bind hchecked fun _ _ => ?_
  refine fails_bind hchecked fun _ _ => ?_
  refine fails_bind hchecked fun _ _ => ?_
  refine fails_bind hchecked fun _ _ => ?_
  refine fails_bind (hforM _ fun _ => ?_) fun _ _ => hforM _ fun _ => ?_
  · refine fails_bind hchecked fun _ _ => ?_
    refine fails_bind (fails_fetch fun _ => hviolation _) fun _ _ => ?_
    refine fails_bind hchecked fun _ _ => ?_
    refine fails_bind hchecked fun _ _ => ?_
    exact hchecked
  · refine fails_bind hchecked fun _ _ => ?_
    refine fails_bind hchecked fun _ _ => hforM _ fun _ => ?_
    exact fails_bind (fails_fetch fun _ => hviolation _) fun _ _ => hchecked

theorem install_rebound {candidate : SessionRouteRegistry} {changed : Bool}
    {presence : PresenceDelta} (hcandidate : Rebound g request candidate)
    (hrevision : candidate.revision = g.revision)
    (hkept : changed = false → presence.disposition = .idempotent → Rebound g request g) :
    Calls.Ensures (install candidate changed presence) g (fun _ g' => Rebound g request g')
      (fun e _ => ¬ Exhausted e) := by
  unfold install
  rw [Calls.ensures_bind, Calls.ensures_read]
  split
  · rw [Calls.ensures_bind, Calls.ensures_check, requireNextRevision, ensures_fetch]
    refine ⟨fun revision hnext => ?_, fun _ => by simp [Exhausted]⟩
    have hle := hrevision ▸ le_of_nextRevision hnext
    rw [Calls.ensures_bind, Calls.ensures_check]
    have hrevised := hcandidate.revised hle
    cases hverify : verifyInvariants { candidate with revision } with
    | error e => exact verifyInvariants_other _ hverify
    | ok _ =>
      rw [ensures_ok, Calls.ensures_bind, Calls.ensures_write, Calls.ensures_pure]
      exact hrevised
  · next hidempotent =>
    rw [Bool.or_eq_true, not_or, Bool.not_eq_true, decide_eq_true_eq] at hidempotent
    rw [Calls.ensures_pure]
    refine hkept hidempotent.1 ?_
    cases hdisposition : presence.disposition with
    | applied => exact absurd hdisposition hidempotent.2
    | idempotent => rfl

theorem joinPresence_exact (h : g.Sound)
    (hnamespace : g.requireNamespace request.namespace_ = .ok ())
    (hbinding : g.validateJoinBinding request.presence.connection request.presence.generation
      request.presence.identity.sessionId request.sessionGeneration = .ok ()) :
    Calls.Ensures (joinPresence request) g (fun _ g' => g.Fits request ∧ Rebound g request g')
      (fun e _ => Exhausted e ↔ ¬ g.Fits request) := by
  have hadmitted := (validateJoinBinding_ensures request).of_ok hbinding
  unfold SessionRouteRegistry.joinPresence
  rw [Calls.ensures_bind, Calls.ensures_read, Calls.ensures_bind, Calls.ensures_check,
    h.verifyInvariants, ensures_ok, Calls.ensures_bind, Calls.ensures_check, hnamespace, ensures_ok]
  dsimp only
  rw [Calls.ensures_bind, Calls.ensures_check, hbinding, ensures_ok, Calls.ensures_bind,
    Calls.ensures_check]
  refine (h.requireJoinCapacity hadmitted).mono (fun _ _ hfits => ?_)
    fun e he => iff_of_true he.1 he.2
  have hothers : ∀ {α : Type} {m : Method SessionRouteError SessionRouteRegistry α},
      Calls.Ensures m g (fun _ g' => Rebound g request g') (fun e _ => ¬ Exhausted e) →
      Calls.Ensures m g (fun _ g' => g.Fits request ∧ Rebound g request g')
        (fun e _ => Exhausted e ↔ ¬ g.Fits request) := fun hm r t hran =>
    (hm r t hran).mono (fun _ _ hrebound => ⟨hfits, hrebound⟩)
      fun _ he => iff_of_false he (not_not.mpr hfits)
  refine hothers ?_
  rw [Calls.ensures_bind, Calls.ensures_check, ofRouter, ensures_mapError]
  refine (h.router.joinPresence request.presence).mono (fun result _ hjoined => ?_)
    fun _ _ => by simp [Exhausted]
  obtain ⟨presence, router⟩ := result
  dsimp only
  split
  · next hchanged =>
    refine install_rebound (h.rebound hjoined.2) ?_ fun hsame => ?_
    · obtain ⟨_, _, hframe⟩ :=
        removeBinding_frame (g := { g with router }) request.presence.connection
      rw [hframe]
      rfl
    · exact absurd hchanged (of_decide_eq_false hsame)
  · next hsame =>
    refine install_rebound (h.unchanged hjoined.2 (not_not.mp hsame)) rfl fun _ hidempotent => ?_
    have hrouter : router = g.router := hjoined.1 hidempotent
    have hunchanged := h.unchanged hjoined.2 (not_not.mp hsame)
    rwa [hrouter] at hunchanged

structure CapacityExact (g : SessionRouteRegistry) (request : SessionJoinRequest) : Prop where
  exhausted : (∃ resource limit,
      (joinPresence request g).1 = .error (.resourceExhausted resource limit)) ↔
    ¬ (g.written request).WithinLimits
  written : ∀ delta g', Ran (joinPresence request) g (.ok delta) g' →
    SameRoutes (g.written request) g'

theorem join_capacity_exact (hreachable : Reachable sessionRoutes g)
    (hnamespace : g.requireNamespace request.namespace_ = .ok ())
    (hbinding : g.validateJoinBinding request.presence.connection request.presence.generation
      request.presence.identity.sessionId request.sessionGeneration = .ok ())
    (hallowed : g.router.admitGeneration request.presence = .ok ()) : CapacityExact g request := by
  have hsound := sound_of_reachable hreachable
  have hadmitted := (validateJoinBinding_ensures request).of_ok hbinding
  have hwritten := hsound.written hallowed
  have hexact := joinPresence_exact hsound hnamespace hbinding
  refine ⟨?_, fun delta g' hran => hwritten.unique (hexact _ _ hran).2⟩
  rw [← hwritten.fits_iff hsound hadmitted]
  have hanswer := Calls.ensures_iff.mp hexact
  cases hresult : (joinPresence request g).1 with
  | ok delta =>
    rw [hresult] at hanswer
    exact iff_of_false (fun ⟨_, _, herror⟩ => nomatch herror) (not_not.mpr hanswer.1)
  | error e =>
    rw [hresult] at hanswer
    refine Iff.trans ?_ hanswer
    simp only [Except.error.injEq]
    exact Iff.rfl

def tightLimits : SessionRouteLimits :=
  { SessionRouteLimits.default with maxPresenceEntries := 1, presenceEntries := by decide }

def tightRoom : SessionRouteRegistry :=
  (joinPresence (sampleJoin "room" 1) (withLimits tightLimits)).2

theorem tight_reachable : Reachable sessionRoutes tightRoom :=
  ⟨withLimits tightLimits, [.join (sampleJoin "room" 1) (.ok (sampleDelta "room" 1 1))],
    ⟨tightLimits, rfl⟩, .single rfl⟩

theorem join_capacity_exact_sample :
    (∃ resource limit, (joinPresence (sampleJoin "hall" 3) tightRoom).1 =
      .error (.resourceExhausted resource limit)) ∧
    CapacityExact tightRoom (sampleJoin "hall" 3) := by
  have hexact : CapacityExact tightRoom (sampleJoin "hall" 3) :=
    join_capacity_exact tight_reachable rfl rfl rfl
  exact ⟨⟨"presence_entries", 1, rfl⟩, hexact⟩

end SessionRouteRegistry

end Presence
