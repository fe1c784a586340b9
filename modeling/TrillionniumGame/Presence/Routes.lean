import TrillionniumGame.Presence.Sessions

namespace Presence
open Calls Checks FiniteMap Runs

namespace SessionRouteRegistry

def replaceFromCheckpoint (limits : SessionRouteLimits) (checkpoint : SessionRouteCheckpoint)
    (verifier : CheckpointVerifier) : Method SessionRouteError SessionRouteRegistry Unit := do
  let fresh ← check (fromCheckpoint limits checkpoint verifier)
  write fun _ => fresh

end SessionRouteRegistry

open SessionRouteRegistry

inductive RegistryCall where
  | join (request : SessionJoinRequest) (reply : Except SessionRouteError SessionMutationDelta)
  | update (request : SessionRequest UpdatePresenceRequest)
      (reply : Except SessionRouteError SessionMutationDelta)
  | leave (request : SessionRequest LeavePresenceRequest)
      (reply : Except SessionRouteError SessionMutationDelta)
  | remove (request : SessionRequest RemoveConnectionRequest)
      (reply : Except SessionRouteError SessionMutationDelta)
  | revoke (request : SessionRevocationRequest)
      (reply : Except SessionRouteError SessionRevocationDelta)
  | propose (nextNamespace : SessionRouteNamespace)
      (checkpointDigest producerBarrierDigest : RouteDigest)
      (reply : Except SessionRouteError SessionRouteRolloverProof)
  | rollover (proof : SessionRouteRolloverProof) (verifier : CheckpointVerifier)
      (reply : Except SessionRouteError SessionRouteCheckpoint)
  | read (stream : StreamKey) (visibility : SnapshotVisibility)
      (reply : Except SessionRouteError (List PresenceRecord))
  | restore (limits : SessionRouteLimits) (checkpoint : SessionRouteCheckpoint)
      (verifier : CheckpointVerifier) (reply : Except SessionRouteError Unit)

namespace RegistryCall

def Answers (call : RegistryCall) (g g' : SessionRouteRegistry) : Prop :=
  match call with
  | join request reply => Ran (joinPresence request) g reply g'
  | update request reply => Ran (updatePresence request) g reply g'
  | leave request reply => Ran (leavePresence request) g reply g'
  | remove request reply => Ran (removeConnection request) g reply g'
  | revoke request reply => Ran (revokeSession request) g reply g'
  | propose nextNamespace checkpointDigest producerBarrierDigest reply =>
    Ran (check (g.proposeRollover nextNamespace checkpointDigest producerBarrierDigest)) g reply g'
  | rollover proof verifier reply => Ran (rolloverNamespace proof verifier) g reply g'
  | read stream visibility reply => Ran (check (g.snapshot stream visibility)) g reply g'
  | restore limits checkpoint verifier reply =>
    Ran (replaceFromCheckpoint limits checkpoint verifier) g reply g'

def errorOf {α : Type} : Except SessionRouteError α → Option SessionRouteError
  | .ok _ => none
  | .error error => some error

def error : RegistryCall → Option SessionRouteError
  | join _ reply => errorOf reply
  | update _ reply => errorOf reply
  | leave _ reply => errorOf reply
  | remove _ reply => errorOf reply
  | revoke _ reply => errorOf reply
  | propose _ _ _ reply => errorOf reply
  | rollover _ _ reply => errorOf reply
  | read _ _ reply => errorOf reply
  | restore _ _ _ reply => errorOf reply

def Grants (call : RegistryCall) (connection : ConnectionRef) (binding : SessionBinding) : Prop :=
  ∃ request delta, call = join request (.ok delta) ∧ granted request connection binding

def Restores (call : RegistryCall) : Prop :=
  ∃ limits checkpoint verifier, call = restore limits checkpoint verifier (.ok ())

end RegistryCall

def sessionRoutes : System SessionRouteRegistry RegistryCall where
  init g := ∃ limits, g = withLimits limits
  step g call g' := call.Answers g g'

namespace SessionRouteRegistry

variable {g g' : SessionRouteRegistry}

structure Outcome (g : SessionRouteRegistry) (call : RegistryCall) (g' : SessionRouteRegistry) :
    Prop where
  sound : g'.Sound
  external : ∀ error, call.error = some error → ¬ error.Internal
  bindings : ∀ connection binding, g'.bindings.lookup connection = some binding →
    g.bindings.lookup connection = some binding ∨ call.Grants connection binding
  marks : call.Restores ∨ g.namespace_ < g'.namespace_ ∨ (g'.namespace_ = g.namespace_ ∧
    ∀ sessionId, ∀ through ∈ g.revokedThrough.lookup sessionId,
      ∃ later ∈ g'.revokedThrough.lookup sessionId, through ≤ later)

variable {call : RegistryCall}

theorem Advanced.outcome (h : Advanced g call.Grants g')
    (hexternal : ∀ error, call.error = some error → ¬ error.Internal) : Outcome g call g' :=
  ⟨h.sound, hexternal, h.bindings, .inr (.inr ⟨h.namespace_, h.marks⟩)⟩

theorem Advanced.grants (h : Advanced g nothing g') : Advanced g call.Grants g' :=
  ⟨h.sound, h.namespace_, fun connection binding hlookup =>
    (h.bindings connection binding hlookup).imp id nofun, h.marks⟩

theorem outcome_of_ensures {α : Type} {m : Method SessionRouteError SessionRouteRegistry α}
    {reply : Except SessionRouteError α} {Q : α → SessionRouteRegistry → Prop} (h : g.Sound)
    (hcall : call.error = RegistryCall.errorOf reply) (hensures : Calls.Ensures m g Q (Refused g))
    (hran : Ran m g reply g') (hok : ∀ a, reply = .ok a → Q a g' →
      (∀ error, call.error = some error → ¬ error.Internal) → Outcome g call g') :
    Outcome g call g' := by
  have hresult := hensures reply g' hran
  cases reply with
  | ok a => exact hok a rfl hresult fun error herror => by rw [hcall] at herror; cases herror
  | error e =>
    obtain ⟨rfl, hexternal⟩ := hresult
    refine (Advanced.refl h nothing).grants.outcome fun error herror => ?_
    rw [hcall] at herror
    exact Option.some.inj herror ▸ hexternal

theorem Sound.snapshot (h : g.Sound) (stream : StreamKey) (visibility : SnapshotVisibility) :
    ∃ records, g.snapshot stream visibility = .ok records ∧
      g.router.snapshot stream visibility = .ok records := by
  obtain ⟨records, hrecords⟩ := h.router.snapshot stream visibility
  refine ⟨records, ?_, hrecords⟩
  unfold SessionRouteRegistry.snapshot
  rw [h.verifyInvariants, hrecords]
  rfl

theorem Sound.outcome (h : g.Sound) (hstep : sessionRoutes.step g call g') : Outcome g call g' := by
  cases call with
  | join request reply =>
    refine outcome_of_ensures h rfl (h.joinPresence request) hstep fun delta hreply hadvanced => ?_
    refine Advanced.outcome ⟨hadvanced.sound, hadvanced.namespace_, ?_, hadvanced.marks⟩
    intro connection binding hlookup
    refine (hadvanced.bindings connection binding hlookup).imp id fun hgranted => ?_
    exact ⟨request, delta, by rw [hreply], hgranted⟩
  | update request reply =>
    exact outcome_of_ensures h rfl (h.updatePresence request) hstep fun _ _ hadvanced =>
      hadvanced.grants.outcome
  | leave request reply =>
    exact outcome_of_ensures h rfl (h.leavePresence request) hstep fun _ _ hadvanced =>
      hadvanced.grants.outcome
  | remove request reply =>
    exact outcome_of_ensures h rfl (h.removeConnection request) hstep fun _ _ hadvanced =>
      hadvanced.grants.outcome
  | revoke request reply =>
    exact outcome_of_ensures h rfl (h.revokeSession request) hstep fun _ _ hrevoked =>
      hrevoked.advanced.grants.outcome
  | propose nextNamespace checkpointDigest producerBarrierDigest reply =>
    have hensures : Calls.Ensures (check (g.proposeRollover nextNamespace checkpointDigest
        producerBarrierDigest)) g (fun _ t => t = g) (Refused g) := by
      rw [Calls.ensures_check]
      exact (h.proposeRollover _ _ _).mono (fun _ _ _ => rfl) fun _ he => ⟨rfl, he⟩
    refine outcome_of_ensures h rfl hensures hstep fun _ _ hsame => ?_
    rw [hsame]
    exact (Advanced.refl h nothing).grants.outcome
  | rollover proof verifier reply =>
    refine outcome_of_ensures h rfl (h.rolloverNamespace proof verifier) hstep
      fun _ _ hrolled hexternal => ?_
    refine ⟨hrolled.sound, hexternal, fun connection binding hlookup => ?_,
      .inr (.inl hrolled.namespace_)⟩
    rw [hrolled.bindings] at hlookup
    cases hlookup
  | read stream visibility reply =>
    obtain ⟨records, hrecords, _⟩ := h.snapshot stream visibility
    have hensures : Calls.Ensures (check (g.snapshot stream visibility)) g (fun _ t => t = g)
        (Refused g) := by
      rw [Calls.ensures_check, hrecords, ensures_ok]
    refine outcome_of_ensures h rfl hensures hstep fun _ _ hsame => ?_
    rw [hsame]
    exact (Advanced.refl h nothing).grants.outcome
  | restore limits checkpoint verifier reply =>
    have hensures : Calls.Ensures (replaceFromCheckpoint limits checkpoint verifier) g
        (fun _ t => t.Sound ∧ t.bindings = ∅) (Refused g) := by
      unfold replaceFromCheckpoint
      rw [Calls.ensures_bind, Calls.ensures_check]
      refine (fromCheckpoint_ensures limits checkpoint verifier).mono (fun fresh _ hfresh => ?_)
        fun _ he => ⟨rfl, he⟩
      rw [Calls.ensures_write]
      exact hfresh
    refine outcome_of_ensures h rfl hensures hstep fun _ hreply hfresh hexternal => ?_
    refine ⟨hfresh.1, hexternal, fun connection binding hlookup => ?_,
      .inl ⟨limits, checkpoint, verifier, by rw [hreply]⟩⟩
    rw [hfresh.2] at hlookup
    cases hlookup

theorem sound_of_reachable (h : Reachable sessionRoutes g) : g.Sound := by
  refine h.invariant ?_ ?_
  · rintro _ ⟨limits, rfl⟩
    exact sound_withLimits limits
  · exact fun _ _ _ hsound hstep => (hsound.outcome hstep).sound

def NoOrphans (g : SessionRouteRegistry) : Prop :=
  ∀ key record, g.router.entries.lookup key = some record → ∃ binding,
    g.bindings.lookup record.connection = some binding ∧
      binding.sessionId = record.identity.sessionId ∧
      binding.connectionGeneration = record.generation ∧
      ∀ through ∈ g.revokedThrough.lookup binding.sessionId, through < binding.sessionGeneration

theorem Sound.noOrphans (h : g.Sound) : g.NoOrphans := by
  intro key record hlookup
  have hrouted := h.routed key (mem_of_lookup hlookup)
  rw [h.router.keyed key record hlookup] at hrouted
  obtain ⟨binding, hbinding⟩ := Finmap.mem_iff.mp hrouted
  obtain ⟨identity, hstate, hsession⟩ := h.bound _ binding hbinding
  have hestablished := h.router.established key record hlookup
  rw [hstate] at hestablished
  simp only [Option.some.injEq, ConnectionState.mk.injEq] at hestablished
  refine ⟨binding, hbinding, ?_, hestablished.1, h.fresh _ binding hbinding⟩
  rw [← hsession, hestablished.2]

variable {calls : List RegistryCall}

theorem bindings_granted {g₀ : SessionRouteRegistry} (hinit : sessionRoutes.init g₀)
    (hrun : Run sessionRoutes g₀ calls g) :
    ∀ connection binding, g.bindings.lookup connection = some binding →
      ∃ call ∈ calls, call.Grants connection binding := by
  induction hrun with
  | nil =>
    obtain ⟨limits, rfl⟩ := hinit
    exact fun connection binding hlookup => nomatch hlookup
  | @snoc t u calls call hrun hstep ih =>
    intro connection binding hlookup
    have hsound := sound_of_reachable ⟨g₀, calls, hinit, hrun⟩
    rcases (hsound.outcome hstep).bindings connection binding hlookup with hold | hgrants
    · obtain ⟨earlier, hmem, hgrants⟩ := ih connection binding hold
      exact ⟨earlier, List.mem_append_left _ hmem, hgrants⟩
    · exact ⟨call, List.mem_append_right _ List.mem_cons_self, hgrants⟩

def Holds (request : SessionRevocationRequest) (g : SessionRouteRegistry) : Prop :=
  request.namespace_ ≤ g.namespace_ ∧ (g.namespace_ = request.namespace_ →
    ∃ through ∈ g.revokedThrough.lookup request.sessionId, request.throughGeneration ≤ through)

variable {request : SessionRevocationRequest}

theorem Outcome.holds (h : Outcome g call g') (hcall : ¬ call.Restores) (hholds : Holds request g) :
    Holds request g' := by
  obtain ⟨hle, hmark⟩ := hholds
  rcases h.marks with hrestores | hrolled | ⟨hsame, hmarks⟩
  · exact absurd hrestores hcall
  · refine ⟨UInt64.le_trans hle (UInt64.le_of_lt hrolled), fun heq => ?_⟩
    rw [heq] at hrolled
    exact absurd hle (UInt64.not_le.mpr hrolled)
  · refine ⟨hsame ▸ hle, fun heq => ?_⟩
    obtain ⟨through, hthrough, hrevoked⟩ := hmark (hsame ▸ heq)
    obtain ⟨later, hlater, hthrough'⟩ := hmarks request.sessionId through hthrough
    exact ⟨later, hlater, UInt64.le_trans hrevoked hthrough'⟩

theorem Sound.holds_run (h : g.Sound) (hholds : Holds request g)
    (hrun : Run sessionRoutes g calls g') (hcalls : ∀ call ∈ calls, ¬ call.Restores) :
    g'.Sound ∧ Holds request g' := by
  induction hrun with
  | nil => exact ⟨h, hholds⟩
  | @snoc t u calls call hrun hstep ih =>
    obtain ⟨hsound, hheld⟩ := ih fun call hmem => hcalls call (List.mem_append_left _ hmem)
    have houtcome := hsound.outcome hstep
    refine ⟨houtcome.sound, houtcome.holds ?_ hheld⟩
    exact hcalls call (List.mem_append_right _ List.mem_cons_self)

theorem Sound.revoke_holds (h : g.Sound) {delta : SessionRevocationDelta}
    (hstep : sessionRoutes.step g (.revoke request (.ok delta)) g') :
    g'.Sound ∧ Holds request g' := by
  have hrevoked := h.revokeSession request _ _ hstep
  rw [ensures_ok] at hrevoked
  refine ⟨hrevoked.advanced.sound, ?_, fun _ => hrevoked.mark⟩
  rw [hrevoked.advanced.namespace_, hrevoked.current]
  exact UInt64.le_refl _

end SessionRouteRegistry

theorem no_orphan_or_revoked_routes :
    (∀ g, Reachable sessionRoutes g → g.NoOrphans ∧ ∀ call g', sessionRoutes.step g call g' →
      ∀ error, call.error = some error → ¬ error.Internal) ∧
    ∀ g₀ g before request delta after, sessionRoutes.init g₀ →
      Run sessionRoutes g₀ (before ++ .revoke request (.ok delta) :: after) g →
      (∀ call ∈ after, ¬ call.Restores) → g.namespace_ = request.namespace_ →
      ∀ stream visibility records, g.snapshot stream visibility = .ok records →
      ∀ record ∈ records, record.identity.sessionId = request.sessionId →
      ∃ binding, g.bindings.lookup record.connection = some binding ∧
        binding.sessionId = request.sessionId ∧
        binding.connectionGeneration = record.generation ∧
        request.throughGeneration < binding.sessionGeneration ∧
        ∃ call ∈ before ++ .revoke request (.ok delta) :: after,
          call.Grants record.connection binding := by
  refine ⟨fun g hreachable => ?_, ?_⟩
  · have hsound := sound_of_reachable hreachable
    exact ⟨hsound.noOrphans, fun call g' hstep => (hsound.outcome hstep).external⟩
  · intro g₀ g before request delta after hinit hrun hafter hnamespace stream visibility records
      hsnapshot record hmem hsession
    have hgranted := bindings_granted hinit hrun
    obtain ⟨t, hbefore, hrest⟩ := run_append.mp hrun
    obtain ⟨t', hrevoke, hlater⟩ := run_cons.mp hrest
    have hsound := sound_of_reachable ⟨g₀, before, hinit, hbefore⟩
    obtain ⟨hsound', hholds⟩ := hsound.revoke_holds hrevoke
    obtain ⟨hend, hheld⟩ := hsound'.holds_run hholds hlater hafter
    obtain ⟨through, hthrough, hle⟩ := hheld.2 hnamespace
    obtain ⟨records', hrecords', hrouter⟩ := hend.snapshot stream visibility
    cases Except.ok.inj (hsnapshot.symm.trans hrecords')
    obtain ⟨_, _, key, hlookup⟩ := (PresenceRouter.mem_snapshot hrouter record).mp hmem
    obtain ⟨binding, hbinding, hsame, hgeneration, hfresh⟩ := hend.noOrphans key record hlookup
    refine ⟨binding, hbinding, hsame.trans hsession, hgeneration, ?_, hgranted _ _ hbinding⟩
    have hnewer := hfresh through (by rw [hsame, hsession]; exact hthrough)
    exact UInt64.lt_of_le_of_lt hle hnewer

def sampleConnection : ConnectionRef := ⟨"node", "c"⟩

def sampleStream (label : String) : StreamKey :=
  ⟨1, Vector.replicate 16 1, Vector.replicate 16 2, label⟩

def sampleJoin (label : String) (sessionGeneration : SessionRouteGeneration) :
    SessionJoinRequest where
  namespace_ := 1
  presence := ⟨sampleConnection, 1, sampleStream label, ⟨"u", "s", "name"⟩, "on", false⟩
  sessionGeneration

def sampleRevocation : SessionRevocationRequest := ⟨1, "s", 2⟩

def sampleStart : SessionRouteRegistry := withLimits .default

def sampleRoom : SessionRouteRegistry := (joinPresence (sampleJoin "room" 1) sampleStart).2

def sampleHall : SessionRouteRegistry := (joinPresence (sampleJoin "hall" 3) sampleRoom).2

def sampleEnd : SessionRouteRegistry := (revokeSession sampleRevocation sampleHall).2

def sampleDelta (label : String) (sessionGeneration : SessionRouteGeneration) (revision : UInt64) :
    SessionMutationDelta :=
  ⟨.applied, some revision, .applied revision
    [PresenceRouter.joinRecord (sampleJoin label sessionGeneration).presence] [] [] 0⟩

def sampleRevoked : SessionRevocationDelta := ⟨.applied, some 3, 2, 0, [], 0⟩

def sampleBefore : List RegistryCall :=
  [.join (sampleJoin "room" 1) (.ok (sampleDelta "room" 1 1)),
    .join (sampleJoin "hall" 3) (.ok (sampleDelta "hall" 3 2))]

def sampleRecord : PresenceRecord := PresenceRouter.joinRecord (sampleJoin "room" 1).presence

theorem sample_init : sessionRoutes.init sampleStart := ⟨.default, rfl⟩

theorem sample_run : Run sessionRoutes sampleStart
    (sampleBefore ++ [.revoke sampleRevocation (.ok sampleRevoked)]) sampleEnd := by
  have hroom : sessionRoutes.step sampleStart
      (.join (sampleJoin "room" 1) (.ok (sampleDelta "room" 1 1))) sampleRoom := rfl
  have hhall : sessionRoutes.step sampleRoom
      (.join (sampleJoin "hall" 3) (.ok (sampleDelta "hall" 3 2))) sampleHall := rfl
  have hrevoke : sessionRoutes.step sampleHall
      (.revoke sampleRevocation (.ok sampleRevoked)) sampleEnd := rfl
  exact (Run.nil _ |>.snoc hroom |>.snoc hhall).snoc hrevoke

theorem sample_snapshot : sampleEnd.snapshot (sampleStream "room") .includeHidden =
    .ok [sampleRecord] := rfl

theorem sample_namespace : sampleEnd.namespace_ = sampleRevocation.namespace_ := rfl

theorem no_orphan_or_revoked_routes_sample :
    sampleEnd.NoOrphans ∧ ∃ binding,
      sampleEnd.bindings.lookup sampleConnection = some binding ∧
        2 < binding.sessionGeneration := by
  refine ⟨(no_orphan_or_revoked_routes.1 _ ⟨_, _, sample_init, sample_run⟩).1, ?_⟩
  obtain ⟨binding, hbinding, _, _, hnewer, _⟩ := no_orphan_or_revoked_routes.2 _ _ sampleBefore
    sampleRevocation sampleRevoked [] sample_init sample_run (by simp) sample_namespace _ _ _ sample_snapshot
    sampleRecord List.mem_cons_self rfl
  exact ⟨binding, hbinding, hnewer⟩

theorem revoked_generation_stays_routed :
    ¬ ∀ g₀ g before request delta after, sessionRoutes.init g₀ →
      Run sessionRoutes g₀ (before ++ .revoke request (.ok delta) :: after) g →
      (∀ call ∈ after, ¬ call.Restores) → g.namespace_ = request.namespace_ →
      ∀ stream visibility records, g.snapshot stream visibility = .ok records →
      ∀ record ∈ records, record.identity.sessionId = request.sessionId →
      ∃ joined delta', .join joined (.ok delta') ∈ before ++ .revoke request (.ok delta) :: after ∧
        joined.presence.connection = record.connection ∧
        joined.presence.generation = record.generation ∧
        joined.presence.stream = record.stream ∧
        request.throughGeneration < joined.sessionGeneration := by
  intro h
  obtain ⟨joined, delta, hmem, _, _, hstream, hnewer⟩ := h _ _ sampleBefore sampleRevocation
    sampleRevoked [] sample_init sample_run (by simp) sample_namespace _ _ _ sample_snapshot sampleRecord
    List.mem_cons_self rfl
  simp only [sampleBefore, List.cons_append, List.nil_append, List.mem_cons,
    RegistryCall.join.injEq, reduceCtorEq, List.not_mem_nil, or_false] at hmem
  rcases hmem with ⟨rfl, _⟩ | ⟨rfl, _⟩
  · exact absurd hnewer (by decide)
  · exact absurd hstream (by decide)

namespace PresenceRouter

def Kept (r r' : PresenceRouter) : Prop :=
  ∀ connection state, r.connections.lookup connection = some state → ∃ state',
    r'.connections.lookup connection = some state' ∧
      (state' = state ∨ state.generation < state'.generation)

variable {r r' : PresenceRouter}

theorem Kept.of_eq (h : r'.connections = r.connections) : Kept r r' :=
  fun _ state hstate => ⟨state, h ▸ hstate, .inl rfl⟩

theorem le_cases {a b : UInt64} (h : ¬ b < a) : b = a ∨ a < b := by
  rw [UInt64.lt_iff_toNat_lt] at h ⊢
  rw [← UInt64.toNat_inj]
  omega

theorem Joined.kept {request : JoinPresenceRequest} (h : Joined r request r') : Kept r r' := by
  intro connection state hstate
  rw [h.connections]
  by_cases hsame : connection = request.connection
  · subst hsame
    obtain ⟨hnotless, hidentity⟩ := h.admitted state hstate
    refine ⟨_, if_pos rfl, (le_cases hnotless).imp_left fun hgeneration => ?_⟩
    rw [hidentity hgeneration, hgeneration]
  · exact ⟨state, (if_neg hsame).trans hstate, .inl rfl⟩

end PresenceRouter

namespace SessionRouteRegistry
open PresenceRouter (Kept Joined)

variable {g g' : SessionRouteRegistry} {delta : SessionMutationDelta}

theorem install_router {candidate : SessionRouteRegistry} {changed : Bool}
    {presence : PresenceDelta} (h : Ran (install candidate changed presence) g (.ok delta) g') :
    g'.router = g.router ∨ g'.router = candidate.router := by
  rw [install, ran_read_bind] at h
  split at h
  · simp only [ran_check_bind, ran_write_bind, ran_pure] at h
    obtain ⟨revision, _, _, _, _, rfl⟩ := h
    exact .inr rfl
  · exact .inl (by rw [(ran_pure.mp h).2])

theorem join_router {request : SessionJoinRequest}
    (h : Ran (joinPresence request) g (.ok delta) g') :
    ∃ presence router, g.router.joinPresence request.presence = .ok (presence, router) ∧
      (g'.router = g.router ∨ g'.router = router) := by
  simp only [SessionRouteRegistry.joinPresence, ran_read_bind, ran_check_bind] at h
  obtain ⟨_, _, _, _, _, _, _, _, ⟨presence, router⟩, hrouter, h⟩ := h
  refine ⟨presence, router, mapError_ok.mp hrouter, (install_router h).imp_right fun hsame => ?_⟩
  rw [hsame]
  split
  · obtain ⟨_, _, hframe⟩ := removeBinding_frame (g := { g with router })
      request.presence.connection
    rw [hframe]
    rfl
  · rfl

variable {connection : ConnectionRef}

theorem fenced_router {namespace_ : SessionRouteNamespace}
    {connectionGeneration : ConnectionGeneration} {sessionId : SessionId}
    {sessionGeneration : SessionRouteGeneration} {unbind : Bool}
    {mutation : PresenceRouter → Except PresenceError (PresenceDelta × PresenceRouter)}
    (h : Ran (mutateFencedPresence namespace_ connection connectionGeneration sessionId
      sessionGeneration unbind mutation) g (.ok delta) g') :
    ∃ presence router, mutation g.router = .ok (presence, router) ∧
      (g'.router = g.router ∨ g'.router = router) := by
  simp only [mutateFencedPresence, ran_read_bind, ran_check_bind] at h
  obtain ⟨_, _, _, _, _, _, ⟨presence, router⟩, hrouter, h⟩ := h
  refine ⟨presence, router, mapError_ok.mp hrouter, (install_router h).imp_right fun hsame => ?_⟩
  rw [hsame]
  split
  · obtain ⟨_, _, hframe⟩ := removeBinding_frame (g := { g with router }) connection
    rw [hframe]
  · rfl

theorem sweep_connections {through : SessionRouteGeneration} {sweep swept : RevocationSweep}
    {connections : List ConnectionRef}
    (h : RevocationSweep.run through sweep connections = .ok swept) :
    swept.candidate.router.connections = sweep.candidate.router.connections := by
  induction connections generalizing sweep with
  | nil => rw [Except.ok.inj h]
  | cons connection rest ih =>
    obtain ⟨next, hstep, h⟩ := bind_ok.mp h
    rw [ih h]
    unfold RevocationSweep.step at hstep
    obtain ⟨binding, _, hstep⟩ := bind_ok.mp hstep
    split at hstep
    · rw [Except.ok.inj hstep]
    · obtain ⟨⟨delta, router⟩, hrouter, hstep⟩ := bind_ok.mp hstep
      have hremoved := (PresenceRouter.removeConnection_ensures _).of_ok (mapError_ok.mp hrouter)
      obtain ⟨_, _, hframe⟩ :=
        removeBinding_frame (g := { sweep.candidate with router }) connection
      rw [← Except.ok.inj hstep]
      dsimp only
      rw [hframe]
      exact hremoved.connections

variable {request : SessionRevocationRequest}

theorem fresh_connections {delta : SessionRevocationDelta}
    (h : Ran (revokeFresh request) g (.ok delta) g') :
    g'.router.connections = g.router.connections := by
  simp only [revokeFresh, ran_read_bind, ran_check_bind, ran_write_bind, ran_pure] at h
  obtain ⟨_, _, _, _, swept, hswept, _, _, _, _, _, rfl⟩ := h
  exact sweep_connections hswept

theorem revoke_connections {delta : SessionRevocationDelta}
    (h : Ran (revokeSession request) g (.ok delta) g') :
    g'.router.connections = g.router.connections := by
  simp only [SessionRouteRegistry.revokeSession, ran_read_bind, ran_check_bind] at h
  obtain ⟨_, _, _, _, h⟩ := h
  split at h
  · split at h
    · rw [(ran_pure.mp h).2]
    · exact fresh_connections h
  · exact fresh_connections h

theorem Kept.of_routers {router : PresenceRouter} (hkept : Kept g.router router)
    (h : g'.router = g.router ∨ g'.router = router) : Kept g.router g'.router := by
  rcases h with h | h
  · exact h ▸ .of_eq rfl
  · exact h ▸ hkept

theorem refused {α : Type} {m : Method SessionRouteError SessionRouteRegistry α} {e : SessionRouteError}
    {Q : α → SessionRouteRegistry → Prop} (hensures : Calls.Ensures m g Q (Refused g))
    (h : Ran m g (.error e) g') : Kept g.router g'.router := by
  obtain ⟨rfl, _⟩ := hensures _ _ h
  exact .of_eq rfl

theorem Sound.kept (h : g.Sound) {call : RegistryCall} (hstep : sessionRoutes.step g call g')
    (hcall : ¬ call.Restores) : Kept g.router g'.router ∨ g.namespace_ < g'.namespace_ ∧
      ∃ proof verifier checkpoint, call = .rollover proof verifier (.ok checkpoint) := by
  cases call with
  | join request reply =>
    refine .inl ?_
    cases reply with
    | error e => exact refused (h.joinPresence request) hstep
    | ok delta =>
      obtain ⟨_, _, hrouter, hsame⟩ := join_router hstep
      exact Kept.of_routers ((h.router.joinPresence _).of_ok hrouter).2.kept hsame
  | update request reply =>
    refine .inl ?_
    cases reply with
    | error e => exact refused (h.updatePresence request) hstep
    | ok delta =>
      obtain ⟨_, _, hrouter, hsame⟩ := fenced_router hstep
      exact Kept.of_routers (.of_eq ((h.router.updatePresence _).of_ok hrouter).connections) hsame
  | leave request reply =>
    refine .inl ?_
    cases reply with
    | error e => exact refused (h.leavePresence request) hstep
    | ok delta =>
      obtain ⟨_, _, hrouter, hsame⟩ := fenced_router hstep
      exact Kept.of_routers (.of_eq ((h.router.leavePresence _).of_ok hrouter).connections) hsame
  | remove request reply =>
    refine .inl ?_
    cases reply with
    | error e => exact refused (h.removeConnection request) hstep
    | ok delta =>
      obtain ⟨_, _, hrouter, hsame⟩ := fenced_router hstep
      have hremoved := (PresenceRouter.removeConnection_ensures _).of_ok hrouter
      exact Kept.of_routers (.of_eq hremoved.connections) hsame
  | revoke request reply =>
    refine .inl ?_
    cases reply with
    | error e => exact refused (h.revokeSession request) hstep
    | ok delta => exact .of_eq (revoke_connections hstep)
  | propose nextNamespace checkpointDigest producerBarrierDigest reply
  | read stream visibility reply =>
    have hsame : g = g' := congrArg Prod.snd hstep
    exact .inl (hsame ▸ .of_eq rfl)
  | rollover proof verifier reply =>
    have hrolled := h.rolloverNamespace proof verifier _ _ hstep
    cases reply with
    | error e => exact .inl (refused (h.rolloverNamespace proof verifier) hstep)
    | ok checkpoint => exact .inr ⟨hrolled.namespace_, proof, verifier, checkpoint, rfl⟩
  | restore limits checkpoint verifier reply =>
    cases reply with
    | ok u => exact absurd ⟨limits, checkpoint, verifier, rfl⟩ hcall
    | error e =>
      have hran : Ran (replaceFromCheckpoint limits checkpoint verifier) g (.error e) g' := hstep
      rw [replaceFromCheckpoint, ran_bind_error] at hran
      rcases hran with hfailed | ⟨_, _, _, hwrite⟩
      · have hsame : g = g' := congrArg Prod.snd hfailed
        exact .inl (hsame ▸ .of_eq rfl)
      · cases congrArg Prod.fst hwrite

def RemovedAt (g : SessionRouteRegistry) (connection : ConnectionRef) (state : ConnectionState) :
    Prop :=
  ∃ state', g.router.connections.lookup connection = some state' ∧
    (state' = state ∨ state.generation < state'.generation)

theorem Sound.removedAt_run {calls : List RegistryCall} {state : ConnectionState} (h : g.Sound)
    (hremoved : g.RemovedAt connection state) (hrun : Run sessionRoutes g calls g')
    (hcalls : ∀ call ∈ calls, ¬ call.Restores) :
    g'.Sound ∧ g.namespace_ ≤ g'.namespace_ ∧
      (g'.namespace_ = g.namespace_ → g'.RemovedAt connection state) := by
  induction hrun with
  | nil => exact ⟨h, UInt64.le_refl _, fun _ => hremoved⟩
  | @snoc t u calls call hrun hstep ih =>
    obtain ⟨hsound, hle, hheld⟩ := ih fun call hmem => hcalls call (List.mem_append_left _ hmem)
    have hcall := hcalls call (List.mem_append_right _ List.mem_cons_self)
    have houtcome := hsound.outcome hstep
    have hnamespace : t.namespace_ ≤ u.namespace_ := by
      rcases houtcome.marks with hrestores | hrolled | ⟨hsame, _⟩
      · exact absurd hrestores hcall
      · exact UInt64.le_of_lt hrolled
      · exact hsame ▸ UInt64.le_refl _
    refine ⟨houtcome.sound, UInt64.le_trans hle hnamespace, fun hsame => ?_⟩
    have htsame : t.namespace_ = g.namespace_ :=
      UInt64.le_antisymm (hsame ▸ hnamespace) hle
    rcases hsound.kept hstep hcall with hkept | ⟨hrolled, _⟩
    · obtain ⟨state', hstate', hor⟩ := hheld htsame
      obtain ⟨state'', hstate'', hor'⟩ := hkept connection state' hstate'
      refine ⟨state'', hstate'', ?_⟩
      rcases hor' with rfl | hless'
      · exact hor
      · rcases hor with rfl | hless
        · exact .inr hless'
        · exact .inr (UInt64.lt_trans hless hless')
    · rw [hsame, htsame] at hrolled
      exact absurd hrolled (UInt64.lt_irrefl _)

end SessionRouteRegistry

open SessionRouteRegistry

def RegistryCall.Removes (call : RegistryCall) (g g' : SessionRouteRegistry)
    (connection : ConnectionRef) (generation : ConnectionGeneration) : Prop :=
  ((∃ request delta, call = .remove request (.ok delta)) ∨
    ∃ request delta, call = .revoke request (.ok delta)) ∧
  (∃ binding, g.bindings.lookup connection = some binding ∧
    binding.connectionGeneration = generation) ∧ g'.bindings.lookup connection = none

theorem SessionRouteRegistry.Sound.removedAt {g g' : SessionRouteRegistry} {call : RegistryCall}
    {connection : ConnectionRef} {generation : ConnectionGeneration} (h : g.Sound)
    (hstep : sessionRoutes.step g call g') (hremoves : call.Removes g g' connection generation) :
    ∃ state, state.generation = generation ∧ g'.RemovedAt connection state := by
  obtain ⟨hcall, ⟨binding, hbinding, hgeneration⟩, _⟩ := hremoves
  obtain ⟨identity, hstate, _⟩ := h.bound connection binding hbinding
  have hrestores : ¬ call.Restores := by
    rintro ⟨limits, checkpoint, verifier, rfl⟩
    rcases hcall with ⟨_, _, hcall⟩ | ⟨_, _, hcall⟩
    · cases hcall
    · cases hcall
  refine ⟨⟨binding.connectionGeneration, identity⟩, hgeneration, ?_⟩
  rcases h.kept hstep hrestores with hkept | ⟨_, proof, verifier, checkpoint, rfl⟩
  · exact hkept connection _ hstate
  · rcases hcall with ⟨_, _, hcall⟩ | ⟨_, _, hcall⟩
    · cases hcall
    · cases hcall

def SessionJoinRequest.Reenters (request : SessionJoinRequest) (g : SessionRouteRegistry) : Prop :=
  g.router.connections.lookup request.presence.connection =
    some ⟨request.presence.generation, request.presence.identity⟩

theorem removed_connection_reentry :
    ∀ g₀ g g' t t' before call connection generation after request delta,
      sessionRoutes.init g₀ → Run sessionRoutes g₀ before g → sessionRoutes.step g call g' →
      call.Removes g g' connection generation → Run sessionRoutes g' after t →
      (∀ call ∈ after, ¬ call.Restores) → t.namespace_ = g'.namespace_ →
      sessionRoutes.step t (.join request (.ok delta)) t' →
      request.presence.connection = connection →
      (generation < request.presence.generation ↔
        ¬ (request.presence.generation = generation ∧ request.Reenters t)) := by
  intro g₀ g g' t t' before call connection generation after request delta hinit hbefore hstep
    hremoves hafter hcalls hnamespace hjoin hconnection
  have hsound := sound_of_reachable ⟨g₀, before, hinit, hbefore⟩
  obtain ⟨state, hgeneration, hremoved⟩ := hsound.removedAt hstep hremoves
  obtain ⟨hsound', _, hheld⟩ :=
    (hsound.outcome hstep).sound.removedAt_run hremoved hafter hcalls
  obtain ⟨state', hstate', hor⟩ := hheld hnamespace
  obtain ⟨_, _, hrouter, _⟩ := join_router hjoin
  have hjoined := ((hsound'.router.joinPresence _).of_ok hrouter).2
  rw [← hconnection] at hstate'
  obtain ⟨hnotless, hidentity⟩ := hjoined.admitted state' hstate'
  constructor
  · rintro hnewer ⟨rfl, _⟩
    exact absurd hnewer (UInt64.lt_irrefl _)
  · intro hfresh
    by_contra hnotnewer
    rcases hor with rfl | hless
    · rw [hgeneration] at hnotless
      have hsame := (PresenceRouter.le_cases hnotless).resolve_right hnotnewer
      refine hfresh ⟨hsame, ?_⟩
      have hgenerations := hsame.trans hgeneration.symm
      rw [SessionJoinRequest.Reenters, hstate', hidentity hgenerations, hgenerations]
    · rw [hgeneration] at hless
      exact hnotless (UInt64.lt_of_le_of_lt (UInt64.not_lt.mp hnotnewer) hless)

def sampleRemoval : SessionRequest RemoveConnectionRequest := ⟨1, ⟨sampleConnection, 1⟩, "s", 1⟩

def sampleRemoved : SessionRouteRegistry := (removeConnection sampleRemoval sampleRoom).2

def sampleLeave : SessionMutationDelta := ⟨.applied, some 2, .applied 2 [] [] [sampleRecord] 0⟩

def sampleBack : SessionRouteRegistry := (joinPresence (sampleJoin "room" 1) sampleRemoved).2

def sampleNewer : SessionJoinRequest :=
  { sampleJoin "room" 1 with presence := { (sampleJoin "room" 1).presence with generation := 2 } }

theorem sample_joined : Run sessionRoutes sampleStart
    [.join (sampleJoin "room" 1) (.ok (sampleDelta "room" 1 1))] sampleRoom := .single rfl

theorem sample_removed :
    sessionRoutes.step sampleRoom (.remove sampleRemoval (.ok sampleLeave)) sampleRemoved := rfl

theorem sample_removes : (RegistryCall.remove sampleRemoval (.ok sampleLeave)).Removes sampleRoom
    sampleRemoved sampleConnection 1 :=
  ⟨.inl ⟨_, _, rfl⟩, ⟨⟨"s", 1, 1⟩, rfl, rfl⟩, rfl⟩

theorem removed_connection_reentry_sample :
    (1 : ConnectionGeneration) < 2 ↔
      ¬ ((2 : ConnectionGeneration) = 1 ∧ sampleNewer.Reenters sampleRemoved) :=
  removed_connection_reentry _ _ _ _ _ _ _ sampleConnection 1 [] sampleNewer _ sample_init
    sample_joined sample_removed sample_removes (.nil _) (by simp) rfl rfl rfl

theorem removed_connection_resurrected :
    ¬ ∀ g₀ g g' t t' before call connection generation after request delta,
      sessionRoutes.init g₀ → Run sessionRoutes g₀ before g → sessionRoutes.step g call g' →
      call.Removes g g' connection generation → Run sessionRoutes g' after t →
      (∀ call ∈ after, ¬ call.Restores) → t.namespace_ = g'.namespace_ →
      sessionRoutes.step t (.join request (.ok delta)) t' →
      request.presence.connection = connection →
      generation < request.presence.generation := by
  intro h
  have hnewer := h _ _ _ _ sampleBack _ _ sampleConnection 1 [] (sampleJoin "room" 1)
    (sampleDelta "room" 1 3) sample_init sample_joined sample_removed sample_removes (.nil _)
    (by simp) rfl rfl rfl
  exact absurd hnewer (by decide)

end Presence
