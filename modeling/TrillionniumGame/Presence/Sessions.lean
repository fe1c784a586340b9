import TrillionniumGame.Foundation.Runs
import TrillionniumGame.Presence.Joining

namespace Presence
open Checks FiniteMap

namespace SessionRouteRegistry

variable {g g' : SessionRouteRegistry}

def nextBinding (request : SessionJoinRequest) : SessionBinding where
  sessionId := request.presence.identity.sessionId
  sessionGeneration := request.sessionGeneration
  connectionGeneration := request.presence.generation

structure Rebound (g : SessionRouteRegistry) (request : SessionJoinRequest)
    (g' : SessionRouteRegistry) : Prop where
  steady : Steady g g'
  revoked : g'.revokedThrough = g.revokedThrough
  indexing : g'.Indexing
  bindings : ∀ connection, g'.bindings.lookup connection =
    if connection = request.presence.connection then some (nextBinding request)
    else g.bindings.lookup connection
  router : PresenceRouter.Joined g.router request.presence g'.router

variable {request : SessionJoinRequest}

section

variable (h : Rebound g request g')
include h

theorem Rebound.keys : g'.bindings.keys = insert request.presence.connection g.bindings.keys := by
  ext connection
  rw [Finmap.mem_keys, Finmap.mem_iff, h.bindings, Finset.mem_insert, Finmap.mem_keys,
    Finmap.mem_iff]
  by_cases hconnection : connection = request.presence.connection
  · simp [hconnection]
  · simp [hconnection]

theorem Rebound.old {connection : ConnectionRef} {binding : SessionBinding}
    (hlookup : g'.bindings.lookup connection = some binding) :
    (connection = request.presence.connection ∧ binding = nextBinding request) ∨
      (connection ≠ request.presence.connection ∧
        g.bindings.lookup connection = some binding) := by
  rw [h.bindings] at hlookup
  split at hlookup
  · next heq => exact .inl ⟨heq, (Option.some.inj hlookup).symm⟩
  · next hne => exact .inr ⟨hne, hlookup⟩

variable (hsound : g.Sound)
include hsound

theorem Rebound.linked (hadmitted : g.Admitted request) : g'.Linked where
  indexing := h.indexing
  router := h.router.sound hsound.router
  bound := by
    intro connection binding hlookup
    rw [h.router.connections]
    rcases h.old hlookup with ⟨rfl, rfl⟩ | ⟨hne, hold⟩
    · exact ⟨request.presence.identity, if_pos rfl, rfl⟩
    · rw [if_neg hne]
      exact hsound.bound connection binding hold
  routed := by
    intro key hkey
    obtain ⟨record, hrecord⟩ := Finmap.mem_iff.mp hkey
    rw [h.router.entries] at hrecord
    rw [Finmap.mem_iff, h.bindings]
    by_cases hconnection : key.connection = request.presence.connection
    · exact ⟨_, if_pos hconnection⟩
    · rw [if_neg hconnection]
      rw [if_neg fun heq => hconnection (by rw [heq]), if_neg fun hboth => hconnection hboth.1]
        at hrecord
      exact Finmap.mem_iff.mp (hsound.routed key (mem_of_lookup hrecord))
  fresh := by
    intro connection binding hlookup
    rw [h.revoked]
    rcases h.old hlookup with ⟨rfl, rfl⟩ | ⟨_, hold⟩
    · exact hadmitted.fresh
    · exact hsound.fresh connection binding hold

theorem Rebound.tracked :
    g'.trackedSessions ⊆ insert request.presence.identity.sessionId g.trackedSessions := by
  intro sessionId hmem
  rw [mem_trackedSessions, SessionRouteRegistry.tracked, h.revoked, h.indexing.mem_index] at hmem
  rw [Finset.mem_insert, mem_trackedSessions, SessionRouteRegistry.tracked,
    hsound.indexing.mem_index]
  rcases hmem with ⟨connection, binding, hlookup, hsession⟩ | hrevoked
  · rcases h.old hlookup with ⟨rfl, rfl⟩ | ⟨_, hold⟩
    · exact .inl hsession.symm
    · exact .inr (.inl ⟨connection, binding, hold, hsession⟩)
  · exact .inr (.inr hrevoked)

theorem Rebound.replaced {previous : SessionBinding}
    (hprevious : g.bindings.lookup request.presence.connection = some previous)
    (hother : previous.sessionId ≠ request.presence.identity.sessionId)
    (hunrevoked : previous.sessionId ∉ g.revokedThrough) {connections : Finset ConnectionRef}
    (hconnections : g.connectionsBySession.lookup previous.sessionId = some connections)
    (hone : connections.card = 1) : previous.sessionId ∉ g'.trackedSessions := by
  rw [mem_trackedSessions, SessionRouteRegistry.tracked, h.revoked, h.indexing.mem_index]
  rintro (⟨connection, binding, hlookup, hsession⟩ | hrevoked)
  · rcases h.old hlookup with ⟨rfl, rfl⟩ | ⟨hne, hold⟩
    · exact hother hsession.symm
    · have hmem := (hsound.indexing.mem_connections hconnections connection).mpr
        ⟨binding, hold, hsession⟩
      have hmem' := (hsound.indexing.mem_connections hconnections
        request.presence.connection).mpr ⟨previous, hprevious, rfl⟩
      exact hne (Finset.card_le_one.mp (le_of_eq hone) _ hmem _ hmem')
  · exact hunrevoked hrevoked

theorem Rebound.sessions (hfits : g.Fits request) :
    g'.trackedSessionCount ≤ g.limits.maxTrackedSessions := by
  have hsessions := hfits.sessions
  have hsubset := h.tracked hsound
  rw [trackedSessionCount_eq]
  split at hsessions
  · next hreplaced =>
    obtain ⟨previous, hprevious, hother, hunrevoked, connections, hconnections, hone, _⟩ :=
      hreplaced.2
    have hgone := h.replaced hsound hprevious hother hunrevoked hconnections hone
    have hmem : previous.sessionId ∈ g.trackedSessions :=
      mem_trackedSessions.mpr (.inl (mem_of_lookup hconnections))
    have herased : g'.trackedSessions ⊆
        (insert request.presence.identity.sessionId g.trackedSessions).erase previous.sessionId :=
      fun sessionId hsession =>
        Finset.mem_erase.mpr ⟨fun heq => hgone (heq ▸ hsession), hsubset hsession⟩
    have hcard := Finset.card_le_card herased
    rw [Finset.card_erase_of_mem (Finset.mem_insert_of_mem hmem)] at hcard
    omega
  · have hcard := Finset.card_le_card hsubset
    omega

theorem Rebound.perSession (hfits : g.Fits request) {sessionId : SessionId}
    {connections : Finset ConnectionRef}
    (hlookup : g'.connectionsBySession.lookup sessionId = some connections) :
    connections.card ≤ g.limits.maxConnectionsPerSession := by
  have hone := g.limits.connectionsPerSession.1
  have hsubset : connections ⊆ insert request.presence.connection
      ((g.connectionsBySession.lookup sessionId).getD ∅) := by
    intro connection hmem
    obtain ⟨binding, hbinding, hsession⟩ := (h.indexing.mem_connections hlookup connection).mp hmem
    rcases h.old hbinding with ⟨rfl, _⟩ | ⟨_, hold⟩
    · exact Finset.mem_insert_self _ _
    · obtain ⟨old, hsome, hin⟩ :=
        (hsound.indexing.indexed sessionId connection).mpr ⟨binding, hold, hsession⟩
      rw [Option.mem_def.mp hsome]
      exact Finset.mem_insert_of_mem hin
  have hcard := Finset.card_le_card hsubset
  cases hold : g.connectionsBySession.lookup sessionId with
  | none =>
    rw [hold] at hcard
    simp only [Option.getD_none, insert_empty_eq, Finset.card_singleton] at hcard
    omega
  | some old =>
    have hbound := hsound.perSession sessionId old hold
    rw [hold, Option.getD_some] at hcard
    by_cases hsame : sessionId = request.presence.identity.sessionId
    · rcases hfits.perSession old (hsame ▸ hold) with hin | hroom
      · rw [Finset.insert_eq_of_mem hin] at hcard
        exact hcard.trans hbound
      · have hinsert := Finset.card_insert_le request.presence.connection old
        omega
    · refine (Finset.card_le_card fun connection hmem => ?_).trans hbound
      obtain ⟨binding, hbinding, hsession⟩ :=
        (h.indexing.mem_connections hlookup connection).mp hmem
      rcases h.old hbinding with ⟨rfl, rfl⟩ | ⟨_, hkept⟩
      · exact absurd hsession.symm hsame
      · exact (hsound.indexing.mem_connections hold connection).mpr ⟨binding, hkept, hsession⟩

theorem Rebound.sound (hadmitted : g.Admitted request) (hfits : g.Fits request) : g'.Sound where
  toLinked := h.linked hsound hadmitted
  active := by
    rw [h.keys, h.steady.limits]
    exact hfits.active
  connections := by
    rw [PresenceRouter.connectionCount, h.router.connection_keys, h.steady.limits]
    exact hfits.connections
  entries := by
    rw [PresenceRouter.entryCount, h.steady.limits]
    by_cases hadvance : generationAdvance (g.router.connections.lookup request.presence.connection)
      request.presence.generation
    · rw [h.router.keys_of_advance hadvance]
      exact hfits.retiring hadvance
    · rw [h.router.keys_of_current hadvance]
      exact hfits.adding hadvance
  highWaters := by
    rw [h.revoked, h.steady.limits]
    exact hsound.highWaters
  sessions := by
    rw [h.steady.limits]
    exact h.sessions hsound hfits
  perSession := by
    intro sessionId connections hlookup
    rw [h.steady.limits]
    exact h.perSession hsound hfits hlookup
  checkpointed := hsound.checkpoints h.steady

end

def Refused (g : SessionRouteRegistry) (error : SessionRouteError) (g' : SessionRouteRegistry) :
    Prop :=
  g' = g ∧ External error

structure Advanced (g : SessionRouteRegistry) (granted : ConnectionRef → SessionBinding → Prop)
    (g' : SessionRouteRegistry) : Prop where
  sound : g'.Sound
  namespace_ : g'.namespace_ = g.namespace_
  bindings : ∀ connection binding, g'.bindings.lookup connection = some binding →
    g.bindings.lookup connection = some binding ∨ granted connection binding
  marks : ∀ sessionId, ∀ through ∈ g.revokedThrough.lookup sessionId,
    ∃ later ∈ g'.revokedThrough.lookup sessionId, through ≤ later

theorem Advanced.refl (h : g.Sound) (granted : ConnectionRef → SessionBinding → Prop) :
    Advanced g granted g :=
  ⟨h, rfl, fun _ _ hlookup => .inl hlookup, fun _ through hmark =>
    ⟨through, hmark, UInt64.le_refl _⟩⟩

def nothing : ConnectionRef → SessionBinding → Prop := fun _ _ => False

theorem Shrunk.advanced (h : Shrunk g g') (hsound : g'.Sound) : Advanced g nothing g' :=
  ⟨hsound, h.namespace_, fun connection binding hlookup => .inl (h.bindings connection binding hlookup),
    fun _ through hmark => ⟨through, h.revoked ▸ hmark, UInt64.le_refl _⟩⟩

variable {revision : UInt64}

theorem shrunk_revision (h : g.revision ≤ revision) : Shrunk g { g with revision } :=
  ⟨⟨rfl, rfl, rfl, h⟩, fun _ _ => id, rfl, rfl, fun _ => id⟩

theorem Sound.revised (h : g.Sound) (hle : g.revision ≤ revision) : Sound { g with revision } :=
  h.shrunk (shrunk_revision hle) ⟨h.indexing.indexed, h.indexing.nonempty⟩ h.router h.routed

theorem Advanced.revised {granted : ConnectionRef → SessionBinding → Prop}
    (h : Advanced g granted g') (hle : g'.revision ≤ revision) :
    Advanced g granted { g' with revision } :=
  ⟨h.sound.revised hle, h.namespace_, h.bindings, h.marks⟩

theorem requireNextRevision_ensures : Ensures (fun revision => g.revision ≤ revision) External
    g.requireNextRevision := by
  rw [requireNextRevision, ensures_fetch]
  refine ⟨fun _ hnext => le_of_nextRevision hnext, fun _ => ?_⟩
  simp [External, SessionRouteError.Internal]

theorem install_ensures {granted : ConnectionRef → SessionBinding → Prop}
    {candidate : SessionRouteRegistry} (hsound : g.Sound) (h : Advanced g granted candidate)
    (hrevision : candidate.revision = g.revision) (changed : Bool) (presence : PresenceDelta) :
    Calls.Ensures (install candidate changed presence) g (fun _ => Advanced g granted)
      (Refused g) := by
  unfold install
  rw [Calls.ensures_bind, Calls.ensures_read]
  split
  · rw [Calls.ensures_bind, Calls.ensures_check]
    refine requireNextRevision_ensures.mono (fun revision _ hle => ?_) fun _ he => ⟨rfl, he⟩
    have hrevised := h.revised (hrevision ▸ hle)
    rw [Calls.ensures_bind, Calls.ensures_check, hrevised.sound.verifyInvariants, ensures_ok,
      Calls.ensures_bind, Calls.ensures_write, Calls.ensures_pure]
    exact hrevised
  · rw [Calls.ensures_pure]
    exact .refl hsound granted

theorem requireNamespace_ensures (received : SessionRouteNamespace) :
    Ensures (fun _ => received = g.namespace_) External (g.requireNamespace received) := by
  rw [requireNamespace, ensures_require]
  refine ⟨fun hsame => hsame, fun _ => ?_⟩
  simp [External, SessionRouteError.Internal]

variable {router : PresenceRouter}

theorem Sound.rebound (h : g.Sound)
    (hjoined : PresenceRouter.Joined g.router request.presence router) :
    Rebound g request (({ g with router }.removeBinding request.presence.connection).insertBinding
      request.presence.connection (nextBinding request)) := by
  have hbindings := removeBinding_bindings (g := { g with router }) request.presence.connection
  have hindexing := (Indexing.removeBinding (g := { g with router })
    ⟨h.indexing.indexed, h.indexing.nonempty⟩ request.presence.connection)
  have hunbound : ({ g with router }.removeBinding request.presence.connection).bindings.lookup
      request.presence.connection = none := by rw [hbindings, if_pos rfl]
  have hinserted := hindexing.insertBinding hunbound (nextBinding request)
  have hlookup := insertBinding_bindings
    (g := { g with router }.removeBinding request.presence.connection) request.presence.connection
  obtain ⟨bindings, connectionsBySession, hframe⟩ :=
    removeBinding_frame (g := { g with router }) request.presence.connection
  rw [hframe] at hinserted hlookup hbindings ⊢
  refine ⟨⟨rfl, rfl, rfl, UInt64.le_refl _⟩, rfl, hinserted, ?_, hjoined⟩
  intro connection
  rw [hlookup, hbindings]
  split
  · rfl
  · rfl

theorem Sound.unchanged (h : g.Sound)
    (hjoined : PresenceRouter.Joined g.router request.presence router)
    (hsame : g.bindings.lookup request.presence.connection = some (nextBinding request)) :
    Rebound g request { g with router } := by
  refine ⟨⟨rfl, rfl, rfl, UInt64.le_refl _⟩, rfl, ⟨h.indexing.indexed, h.indexing.nonempty⟩, ?_,
    hjoined⟩
  intro connection
  split
  · next heq => rw [heq, hsame]
  · rfl

def granted (request : SessionJoinRequest) (connection : ConnectionRef)
    (binding : SessionBinding) : Prop :=
  connection = request.presence.connection ∧ binding = nextBinding request

theorem Rebound.advanced (h : Rebound g request g') (hsound : g'.Sound) :
    Advanced g (granted request) g' := by
  refine ⟨hsound, h.steady.namespace_, fun connection binding hlookup => ?_, ?_⟩
  · rcases h.old hlookup with hgranted | ⟨_, hold⟩
    · exact .inr hgranted
    · exact .inl hold
  · intro sessionId through hmark
    exact ⟨through, h.revoked ▸ hmark, UInt64.le_refl _⟩

theorem Sound.joinPresence (h : g.Sound) (request : SessionJoinRequest) :
    Calls.Ensures (joinPresence request) g (fun _ => Advanced g (granted request))
      (Refused g) := by
  unfold SessionRouteRegistry.joinPresence
  rw [Calls.ensures_bind, Calls.ensures_read, Calls.ensures_bind, Calls.ensures_check,
    h.verifyInvariants, ensures_ok, Calls.ensures_bind, Calls.ensures_check]
  refine (requireNamespace_ensures _).mono (fun _ _ _ => ?_) fun _ he => ⟨rfl, he⟩
  dsimp only
  rw [Calls.ensures_bind, Calls.ensures_check]
  refine (validateJoinBinding_ensures request).mono (fun _ _ hadmitted => ?_) fun _ he => ⟨rfl, he⟩
  rw [Calls.ensures_bind, Calls.ensures_check]
  refine (h.requireJoinCapacity hadmitted).mono (fun _ _ hfits => ?_)
    fun _ he => ⟨rfl, external_of_exhausted he.1⟩
  rw [Calls.ensures_bind, Calls.ensures_check]
  refine (ensures_ofRouter (h.router.joinPresence request.presence)).mono
    (fun result _ hjoined => ?_) fun _ he => ⟨rfl, he⟩
  obtain ⟨presence, router⟩ := result
  dsimp only
  split
  · have hrebound := h.rebound hjoined.2
    refine install_ensures h (hrebound.advanced (hrebound.sound h hadmitted hfits)) ?_ _ _
    obtain ⟨_, _, hframe⟩ :=
      removeBinding_frame (g := { g with router }) request.presence.connection
    rw [hframe]
    rfl
  · next hsame =>
    have hrebound := h.unchanged hjoined.2 (not_not.mp hsame)
    exact install_ensures h (hrebound.advanced (hrebound.sound h hadmitted hfits)) rfl _ _

theorem requireExactBinding_ensures (connection : ConnectionRef)
    (connectionGeneration : ConnectionGeneration) (sessionId : SessionId)
    (sessionGeneration : SessionRouteGeneration) :
    Ensures (fun _ => True) External
      (g.requireExactBinding connection connectionGeneration sessionId sessionGeneration) := by
  simp [requireExactBinding, ensures_bind, ensures_fetch, ensures_require, External,
    SessionRouteError.Internal, PresenceError.Internal]

theorem mutateFencedPresence_ensures (h : g.Sound) (namespace_ : SessionRouteNamespace)
    (connection : ConnectionRef) (connectionGeneration : ConnectionGeneration)
    (sessionId : SessionId) (sessionGeneration : SessionRouteGeneration) {unbind : Bool}
    {mutation : PresenceRouter → Except PresenceError (PresenceDelta × PresenceRouter)}
    (hmutation : Ensures (fun result => PresenceRouter.Rerouted g.router result.2 ∧ (unbind = true →
      PresenceRouter.Disconnected g.router connection result.2)) Presence.External
      (mutation g.router)) :
    Calls.Ensures (mutateFencedPresence namespace_ connection connectionGeneration sessionId
      sessionGeneration unbind mutation) g (fun _ => Advanced g nothing) (Refused g) := by
  unfold mutateFencedPresence
  rw [Calls.ensures_bind, Calls.ensures_read, Calls.ensures_bind, Calls.ensures_check]
  refine (requireNamespace_ensures _).mono (fun _ _ _ => ?_) fun _ he => ⟨rfl, he⟩
  rw [Calls.ensures_bind, Calls.ensures_check, h.verifyInvariants, ensures_ok, Calls.ensures_bind,
    Calls.ensures_check]
  refine (requireExactBinding_ensures _ _ _ _).mono (fun _ _ _ => ?_) fun _ he => ⟨rfl, he⟩
  rw [Calls.ensures_bind, Calls.ensures_check]
  refine (ensures_ofRouter hmutation).mono (fun result _ hresult => ?_) fun _ he => ⟨rfl, he⟩
  obtain ⟨presence, router⟩ := result
  dsimp only
  split
  · next hunbind =>
    obtain ⟨hsound, hshrunk⟩ := h.disconnected (hresult.2 hunbind)
    refine install_ensures h (hshrunk.advanced hsound) ?_ _ _
    obtain ⟨_, _, hframe⟩ := removeBinding_frame (g := { g with router }) connection
    rw [hframe]
  · obtain ⟨hsound, hshrunk⟩ := h.rerouted hresult.1
    exact install_ensures h (hshrunk.advanced hsound) rfl _ _

theorem Sound.updatePresence (h : g.Sound) (request : SessionRequest UpdatePresenceRequest) :
    Calls.Ensures (updatePresence request) g (fun _ => Advanced g nothing) (Refused g) :=
  mutateFencedPresence_ensures h _ _ _ _ _ ((h.router.updatePresence request.presence).mono
    (fun _ _ hrerouted => ⟨hrerouted, nofun⟩) fun _ => id)

theorem Sound.leavePresence (h : g.Sound) (request : SessionRequest LeavePresenceRequest) :
    Calls.Ensures (leavePresence request) g (fun _ => Advanced g nothing) (Refused g) :=
  mutateFencedPresence_ensures h _ _ _ _ _ ((h.router.leavePresence request.presence).mono
    (fun _ _ hrerouted => ⟨hrerouted, nofun⟩) fun _ => id)

theorem Sound.removeConnection (h : g.Sound) (request : SessionRequest RemoveConnectionRequest) :
    Calls.Ensures (removeConnection request) g (fun _ => Advanced g nothing) (Refused g) :=
  mutateFencedPresence_ensures h _ _ _ _ _
    ((PresenceRouter.removeConnection_ensures request.presence).mono
      (fun _ _ hdisconnected => ⟨hdisconnected.rerouted h.router, fun _ => hdisconnected⟩)
      fun _ => id)

theorem sweep_step (through : SessionRouteGeneration) (sweep : RevocationSweep)
    (h : sweep.candidate.Sound) {connection : ConnectionRef}
    (hbound : connection ∈ sweep.candidate.bindings) :
    Ensures (fun next => next.candidate.Sound ∧ Shrunk sweep.candidate next.candidate ∧
      next.candidate.revision = sweep.candidate.revision ∧
      (∀ other, other ≠ connection →
        next.candidate.bindings.lookup other = sweep.candidate.bindings.lookup other) ∧
      ∀ binding, next.candidate.bindings.lookup connection = some binding →
        through < binding.sessionGeneration) External (sweep.step through connection) := by
  obtain ⟨binding, hbinding⟩ := Finmap.mem_iff.mp hbound
  unfold RevocationSweep.step
  rw [hbinding, ensures_bind, ensures_fetch]
  refine ⟨fun found hfound => ?_, nofun⟩
  cases hfound
  split
  · next hnewer =>
    refine ⟨h, .refl _, rfl, fun _ _ => rfl, fun binding' hlookup => ?_⟩
    rw [hbinding] at hlookup
    exact Option.some.inj hlookup ▸ hnewer
  · rw [ensures_bind]
    refine (ensures_ofRouter (PresenceRouter.removeConnection_ensures _)).mono
      (fun result _ hdisconnected => ?_) fun _ => id
    obtain ⟨delta, router⟩ := result
    obtain ⟨hsound, hshrunk⟩ := h.disconnected hdisconnected
    have hbindings := removeBinding_bindings (g := { sweep.candidate with router }) connection
    refine ⟨hsound, hshrunk, ?_, fun other hother => ?_, fun binding' hlookup => ?_⟩
    · obtain ⟨_, _, hframe⟩ :=
        removeBinding_frame (g := { sweep.candidate with router }) connection
      rw [hframe]
    · rw [hbindings, if_neg hother]
    · rw [hbindings, if_pos rfl] at hlookup
      cases hlookup

theorem sweep_run (through : SessionRouteGeneration) (sweep : RevocationSweep)
    (h : sweep.candidate.Sound) (connections : List ConnectionRef) (hnodup : connections.Nodup)
    (hbound : ∀ connection ∈ connections, connection ∈ sweep.candidate.bindings) :
    Ensures (fun swept => swept.candidate.Sound ∧ Shrunk sweep.candidate swept.candidate ∧
      swept.candidate.revision = sweep.candidate.revision ∧
      ∀ connection ∈ connections, ∀ binding,
        swept.candidate.bindings.lookup connection = some binding →
        through < binding.sessionGeneration) External
      (RevocationSweep.run through sweep connections) := by
  induction connections generalizing sweep with
  | nil => exact ⟨h, .refl _, rfl, fun _ hmem => nomatch hmem⟩
  | cons connection rest ih =>
    obtain ⟨hnotin, hrest⟩ := List.nodup_cons.mp hnodup
    rw [RevocationSweep.run, ensures_bind]
    refine (sweep_step through sweep h (hbound connection List.mem_cons_self)).mono
      (fun next _ hnext => ?_) fun _ => id
    obtain ⟨hsound, hshrunk, hrevision, hothers, hgone⟩ := hnext
    have hbound' : ∀ other ∈ rest, other ∈ next.candidate.bindings := by
      intro other hother
      have hne : other ≠ connection := fun heq => hnotin (heq ▸ hother)
      rw [Finmap.mem_iff, hothers other hne]
      exact Finmap.mem_iff.mp (hbound other (List.mem_cons_of_mem _ hother))
    refine (ih next hsound hrest hbound').mono (fun swept _ hswept => ?_) fun _ => id
    obtain ⟨hsound', hshrunk', hrevision', hcovered⟩ := hswept
    refine ⟨hsound', hshrunk.trans hshrunk', hrevision'.trans hrevision, ?_⟩
    intro other hother binding hlookup
    rcases List.mem_cons.mp hother with rfl | hin
    · exact hgone binding (hshrunk'.bindings other binding hlookup)
    · exact hcovered other hin binding hlookup

variable {sessionId : SessionId}

theorem Sound.marked (h : g.Sound) {through : SessionRouteGeneration}
    (hnewer : ∀ connection binding, g.bindings.lookup connection = some binding →
      binding.sessionId = sessionId → through < binding.sessionGeneration)
    (htracked : (insert sessionId g.trackedSessions).card ≤ g.limits.maxTrackedSessions)
    (hmarks : (insert sessionId g.revokedThrough.keys).card ≤ g.limits.maxRevocationHighWaters) :
    Sound { g with revokedThrough := g.revokedThrough.insert sessionId through } where
  indexing := ⟨h.indexing.indexed, h.indexing.nonempty⟩
  router := h.router
  bound := h.bound
  routed := h.routed
  fresh := by
    intro connection binding hlookup mark hmark
    rw [Option.mem_def, lookup_insert_ite] at hmark
    split at hmark
    · next heq =>
      rw [← Option.some.inj hmark]
      exact hnewer connection binding hlookup heq
    · exact h.fresh connection binding hlookup mark hmark
  active := h.active
  connections := h.connections
  entries := h.entries
  highWaters := by
    rw [keys_insert]
    exact hmarks
  sessions := by
    rw [trackedSessionCount_eq]
    refine le_trans (le_of_eq (congrArg Finset.card ?_)) htracked
    rw [trackedSessions, trackedSessions, keys_insert, Finset.insert_union]
  perSession := h.perSession
  checkpointed :=
    h.checkpoints (⟨rfl, rfl, rfl, UInt64.le_refl _⟩ : Steady g
      { g with revokedThrough := g.revokedThrough.insert sessionId through })

theorem Sound.room (h : g.Sound)
    (hroom : g.tracked sessionId ∨ g.trackedSessionCount < g.limits.maxTrackedSessions) :
    (insert sessionId g.trackedSessions).card ≤ g.limits.maxTrackedSessions := by
  have hsessions := h.sessions
  rw [trackedSessionCount_eq] at hroom hsessions
  rcases hroom with htracked | hless
  · rwa [Finset.insert_eq_of_mem (mem_trackedSessions.mpr htracked)]
  · have hinsert := Finset.card_insert_le sessionId g.trackedSessions
    omega

theorem Sound.markRoom (h : g.Sound) (hroom : sessionId ∈ g.revokedThrough ∨
      g.revokedThrough.keys.card < g.limits.maxRevocationHighWaters) :
    (insert sessionId g.revokedThrough.keys).card ≤ g.limits.maxRevocationHighWaters := by
  have hmarks := h.highWaters
  rcases hroom with hmarked | hless
  · rwa [Finset.insert_eq_of_mem (Finmap.mem_keys.mpr hmarked)]
  · have hinsert := Finset.card_insert_le sessionId g.revokedThrough.keys
    omega

structure Revoked (g : SessionRouteRegistry) (request : SessionRevocationRequest)
    (g' : SessionRouteRegistry) : Prop where
  current : request.namespace_ = g.namespace_
  advanced : Advanced g nothing g'
  mark : ∃ through ∈ g'.revokedThrough.lookup request.sessionId,
    request.throughGeneration ≤ through

theorem Sound.mem_bindings (h : g.Sound) (sessionId : SessionId) (connection : ConnectionRef) :
    connection ∈ ordered ((g.connectionsBySession.lookup sessionId).getD ∅) ↔
      ∃ binding, g.bindings.lookup connection = some binding ∧ binding.sessionId = sessionId := by
  rw [mem_ordered, ← h.indexing.indexed, Indexed]
  cases g.connectionsBySession.lookup sessionId <;> simp

theorem Sound.revokeFresh (h : g.Sound) (request : SessionRevocationRequest)
    (hcurrent : request.namespace_ = g.namespace_)
    (hfresh : ∀ current ∈ g.revokedThrough.lookup request.sessionId,
      current ≤ request.throughGeneration) :
    Calls.Ensures (revokeFresh request) g (fun _ => Revoked g request) (Refused g) := by
  unfold SessionRouteRegistry.revokeFresh
  rw [Calls.ensures_bind, Calls.ensures_read, Calls.ensures_bind, Calls.ensures_check,
    requireTrackedSessionCapacity, ensures_require]
  refine ⟨fun hroom => ?_, fun _ => ⟨rfl, external_resourceExhausted _ _⟩⟩
  rw [Calls.ensures_bind, Calls.ensures_check, ensures_require]
  refine ⟨fun hmarkRoom => ?_, fun _ => ⟨rfl, external_resourceExhausted _ _⟩⟩
  dsimp only
  rw [Calls.ensures_bind, Calls.ensures_check]
  refine (sweep_run request.throughGeneration ⟨g, 0, [], 0⟩ h _ (nodup_ordered _)
    fun connection hmem => ?_).mono (fun swept _ hswept => ?_) fun _ he => ⟨rfl, he⟩
  · obtain ⟨binding, hlookup, _⟩ := (h.mem_bindings request.sessionId connection).mp hmem
    exact mem_of_lookup hlookup
  obtain ⟨hsound, hshrunk, hrevision, hcovered⟩ := hswept
  dsimp only at hshrunk hrevision
  rw [Calls.ensures_bind, Calls.ensures_check]
  refine requireNextRevision_ensures.mono (fun revision _ hle => ?_) fun _ he => ⟨rfl, he⟩
  have hnewer : ∀ connection binding,
      swept.candidate.bindings.lookup connection = some binding →
      binding.sessionId = request.sessionId →
      request.throughGeneration < binding.sessionGeneration := by
    intro connection binding hlookup hsession
    refine hcovered connection ?_ binding hlookup
    exact (h.mem_bindings request.sessionId connection).mpr
      ⟨binding, hshrunk.bindings connection binding hlookup, hsession⟩
  have htracked : (insert request.sessionId swept.candidate.trackedSessions).card ≤
      swept.candidate.limits.maxTrackedSessions := by
    rw [hshrunk.limits]
    refine (Finset.card_le_card (Finset.insert_subset_insert _ ?_)).trans (h.room hroom)
    exact hshrunk.tracked h.indexing hsound.indexing
  have hmarks : (insert request.sessionId swept.candidate.revokedThrough.keys).card ≤
      swept.candidate.limits.maxRevocationHighWaters := by
    rw [hshrunk.limits, hshrunk.revoked]
    exact h.markRoom hmarkRoom
  have hbelow : swept.candidate.revision ≤ revision := by
    rw [hrevision]
    exact hle
  have hmarked := (hsound.marked hnewer htracked hmarks).revised hbelow
  rw [Calls.ensures_bind, Calls.ensures_check, hmarked.verifyInvariants, ensures_ok,
    Calls.ensures_bind, Calls.ensures_write, Calls.ensures_pure]
  refine ⟨hcurrent, ⟨hmarked, hshrunk.namespace_, fun connection binding hlookup =>
    .inl (hshrunk.bindings connection binding hlookup), ?_⟩, ?_⟩
  · intro sessionId through hmark
    simp only [Option.mem_def, lookup_insert_ite, hshrunk.revoked]
    split
    · next heq => exact ⟨_, rfl, hfresh through (heq ▸ hmark)⟩
    · exact ⟨through, hmark, UInt64.le_refl _⟩
  · exact ⟨_, Finmap.lookup_insert _, UInt64.le_refl _⟩

theorem Sound.revokeSession (h : g.Sound) (request : SessionRevocationRequest) :
    Calls.Ensures (revokeSession request) g (fun _ => Revoked g request) (Refused g) := by
  unfold SessionRouteRegistry.revokeSession
  rw [Calls.ensures_bind, Calls.ensures_read, Calls.ensures_bind, Calls.ensures_check,
    h.verifyInvariants, ensures_ok, Calls.ensures_bind, Calls.ensures_check]
  refine (requireNamespace_ensures _).mono (fun _ _ hcurrent => ?_) fun _ he => ⟨rfl, he⟩
  split
  · next current hmark =>
    split
    · next hle =>
      rw [Calls.ensures_pure]
      exact ⟨hcurrent, .refl h _, current, hmark, hle⟩
    · next hnot =>
      refine h.revokeFresh request hcurrent fun mark hsome => ?_
      cases Option.mem_unique hmark hsome
      exact UInt64.le_of_lt (UInt64.not_le.mp hnot)
  · next hnone =>
    refine h.revokeFresh request hcurrent fun mark hsome => ?_
    rw [hnone] at hsome
    cases hsome

variable (limits : SessionRouteLimits)

theorem sound_empty (namespace_ : SessionRouteNamespace) (revision : UInt64)
    (checkpoint : Option SessionRouteCheckpoint)
    (h : ∀ c ∈ checkpoint, verifyCheckpoint { withLimits limits with namespace_, revision, checkpoint } c = .ok ()) :
    Sound { withLimits limits with namespace_, revision, checkpoint } where
  indexing := by
    refine ⟨?_, ?_⟩ <;> simp [withLimits, Indexed]
  router := PresenceRouter.sound_new
  bound := by simp [withLimits]
  routed := fun _ hkey => absurd hkey Finmap.notMem_empty
  fresh := by simp [withLimits]
  active := by simp [withLimits]
  connections := by simp [withLimits, PresenceRouter.connectionCount, PresenceRouter.new]
  entries := by simp [withLimits, PresenceRouter.entryCount, PresenceRouter.new]
  highWaters := by simp [withLimits]
  sessions := by simp [withLimits, trackedSessionCount]
  perSession := by simp [withLimits]
  checkpointed := h

theorem sound_withLimits : (withLimits limits).Sound :=
  sound_empty limits 1 0 none nofun

theorem requireNonzeroRolloverDigest_ensures (field : String) (digest : RouteDigest) :
    Ensures (fun _ => zeroDigest digest = false) External
      (requireNonzeroRolloverDigest field digest) := by
  rw [requireNonzeroRolloverDigest, ensures_require]
  refine ⟨fun hzero => hzero, fun _ => ?_⟩
  simp [External, SessionRouteError.Internal]

theorem fromCheckpoint_ensures (checkpoint : SessionRouteCheckpoint)
    (verifier : CheckpointVerifier) : Ensures (fun g => g.Sound ∧ g.bindings = ∅) External
      (fromCheckpoint limits checkpoint verifier) := by
  unfold fromCheckpoint
  rw [ensures_bind, ensures_require]
  refine ⟨fun hadvanced => ?_, fun _ => by simp [External, SessionRouteError.Internal]⟩
  rw [ensures_bind]
  refine (requireNonzeroRolloverDigest_ensures _ _).mono (fun _ _ hdigest => ?_) fun _ => id
  rw [ensures_bind]
  refine (requireNonzeroRolloverDigest_ensures _ _).mono (fun _ _ hbarrier => ?_) fun _ => id
  rw [ensures_bind, ensures_require]
  refine ⟨fun _ => ⟨sound_empty _ _ _ _ fun c hc => ?_, rfl⟩, fun _ => by
    simp [External, SessionRouteError.Internal]⟩
  cases hc
  unfold verifyCheckpoint
  rw [require_ok]
  exact ⟨rfl, hadvanced, UInt64.le_refl _, hdigest, hbarrier⟩

structure Proposed (g : SessionRouteRegistry) (nextNamespace : SessionRouteNamespace)
    (proof : SessionRouteRolloverProof) : Prop where
  advanced : g.namespace_ < nextNamespace
  retired : proof.retiredNamespace = g.namespace_
  next : proof.nextNamespace = nextNamespace
  digest : zeroDigest proof.checkpointDigest = false
  barrier : zeroDigest proof.producerBarrierDigest = false

theorem Sound.proposeRollover (h : g.Sound) (nextNamespace : SessionRouteNamespace)
    (checkpointDigest producerBarrierDigest : RouteDigest) :
    Ensures (Proposed g nextNamespace) External
      (g.proposeRollover nextNamespace checkpointDigest producerBarrierDigest) := by
  unfold SessionRouteRegistry.proposeRollover
  rw [ensures_bind, h.verifyInvariants, ensures_ok, ensures_bind, ensures_require]
  refine ⟨fun hadvanced => ?_, fun _ => by simp [External, SessionRouteError.Internal]⟩
  rw [ensures_bind]
  refine (requireNonzeroRolloverDigest_ensures _ _).mono (fun _ _ hdigest => ?_) fun _ => id
  rw [ensures_bind]
  refine (requireNonzeroRolloverDigest_ensures _ _).mono (fun _ _ hbarrier => ?_) fun _ => id
  exact ⟨hadvanced, rfl, rfl, hdigest, hbarrier⟩

structure RolledOver (g g' : SessionRouteRegistry) : Prop where
  sound : g'.Sound
  namespace_ : g.namespace_ < g'.namespace_
  bindings : g'.bindings = ∅

theorem Sound.rolloverNamespace (h : g.Sound) (proof : SessionRouteRolloverProof)
    (verifier : CheckpointVerifier) :
    Calls.Ensures (rolloverNamespace proof verifier) g (fun _ => RolledOver g) (Refused g) := by
  unfold SessionRouteRegistry.rolloverNamespace
  rw [Calls.ensures_bind, Calls.ensures_read, Calls.ensures_bind, Calls.ensures_check,
    h.verifyInvariants, ensures_ok, Calls.ensures_bind, Calls.ensures_check, ensures_require]
  refine ⟨fun hquiet => ?_, fun _ => ⟨rfl, by simp [External, SessionRouteError.Internal]⟩⟩
  rw [Calls.ensures_bind, Calls.ensures_check]
  refine (h.proposeRollover _ _ _).mono (fun expected _ hproposed => ?_) fun _ he => ⟨rfl, he⟩
  rw [Calls.ensures_bind, Calls.ensures_check, ensures_require]
  refine ⟨fun hsame => ?_, fun _ => ⟨rfl, by simp [External, SessionRouteError.Internal]⟩⟩
  subst hsame
  rw [Calls.ensures_bind, Calls.ensures_check, ensures_require]
  refine ⟨fun _ => ?_, fun _ => ⟨rfl, by simp [External, SessionRouteError.Internal]⟩⟩
  rw [Calls.ensures_bind, Calls.ensures_check]
  refine requireNextRevision_ensures.mono (fun revision _ _ => ?_) fun _ he => ⟨rfl, he⟩
  dsimp only
  rw [Calls.ensures_bind, Calls.ensures_write, Calls.ensures_bind, Calls.ensures_read,
    Calls.ensures_bind, Calls.ensures_check, hquiet.1, hquiet.2.1]
  have hsound := sound_empty g.limits proof.nextNamespace revision
    (some ⟨proof.retiredNamespace, proof.nextNamespace, revision, proof.routerRevision,
      proof.trackedConnections, proof.trackedSessions, proof.revocationHighWaters,
      proof.checkpointDigest, proof.producerBarrierDigest⟩) (by
    intro c hc
    cases hc
    unfold verifyCheckpoint
    rw [require_ok]
    refine ⟨rfl, ?_, UInt64.le_refl _, hproposed.digest, hproposed.barrier⟩
    rw [hproposed.retired]
    exact hproposed.advanced)
  have hrolled : RolledOver g _ := ⟨hsound, hproposed.advanced, rfl⟩
  exact ensures_of_ok hsound.verifyInvariants (Calls.ensures_pure.mpr hrolled)

end SessionRouteRegistry

end Presence
