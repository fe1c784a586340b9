import TrillionniumGame.Presence.Routes

namespace Presence
open Calls Checks FiniteMap Runs
open SessionRouteRegistry

namespace RegistryCall

def names : RegistryCall → List SessionRouteNamespace
  | join request _ => [request.namespace_]
  | update request _ => [request.namespace_]
  | leave request _ => [request.namespace_]
  | remove request _ => [request.namespace_]
  | revoke request _ => [request.namespace_]
  | propose nextNamespace _ _ _ => [nextNamespace]
  | rollover proof _ _ => [proof.retiredNamespace, proof.nextNamespace]
  | read _ _ _ => []
  | restore _ _ _ _ => []

def opens : RegistryCall → Option SessionRouteNamespace
  | rollover _ _ (.ok checkpoint) => some checkpoint.activeNamespace
  | _ => none

end RegistryCall

namespace SessionRouteRegistry

variable {g g' : SessionRouteRegistry}

theorem proposed {nextNamespace : SessionRouteNamespace}
    {checkpointDigest producerBarrierDigest : RouteDigest} {proof : SessionRouteRolloverProof}
    (h : g.proposeRollover nextNamespace checkpointDigest producerBarrierDigest = .ok proof) :
    Proposed g nextNamespace proof := by
  simp only [proposeRollover, requireNonzeroRolloverDigest, bind_ok, require_ok] at h
  obtain ⟨_, _, _, hadvanced, _, hdigest, _, hbarrier, hproof⟩ := h
  cases hproof
  exact ⟨hadvanced, rfl, rfl, hdigest, hbarrier⟩

structure Rolled (g : SessionRouteRegistry) (proof : SessionRouteRolloverProof)
    (checkpoint : SessionRouteCheckpoint) (g' : SessionRouteRegistry) : Prop where
  proposed : Proposed g proof.nextNamespace proof
  retired : checkpoint.retiredNamespace = g.namespace_
  active : checkpoint.activeNamespace = proof.nextNamespace
  digest : zeroDigest checkpoint.checkpointDigest = false
  barrier : zeroDigest checkpoint.producerBarrierDigest = false
  registry : g' = { withLimits g.limits with
    namespace_ := checkpoint.activeNamespace
    revision := checkpoint.registryRevision
    checkpoint := some checkpoint }

variable {proof : SessionRouteRolloverProof} {verifier : CheckpointVerifier}
  {checkpoint : SessionRouteCheckpoint}

theorem rolled (h : Ran (rolloverNamespace proof verifier) g (.ok checkpoint) g') :
    Rolled g proof checkpoint g' := by
  simp only [rolloverNamespace, ran_read_bind, ran_check_bind, ran_write_bind, ran_pure,
    require_ok] at h
  obtain ⟨_, _, _, hquiet, expected, hexpected, _, rfl, _, _, revision, _, _, _, rfl, rfl⟩ := h
  have hproposed := proposed hexpected
  refine ⟨hproposed, hproposed.retired, rfl, hproposed.digest, hproposed.barrier, ?_⟩
  rw [hquiet.1, hquiet.2.1]
  rfl

theorem Rolled.advanced (h : Rolled g proof checkpoint g') :
    checkpoint.retiredNamespace < checkpoint.activeNamespace := by
  rw [h.retired, h.active]
  exact h.proposed.advanced

theorem Rolled.restored (h : Rolled g proof checkpoint g') {verifier' : CheckpointVerifier}
    (hverifier : verifier'.verifyCheckpoint checkpoint = true) :
    fromCheckpoint g.limits checkpoint verifier' = .ok g' := by
  unfold fromCheckpoint requireNonzeroRolloverDigest
  rw [require_of h.advanced, ok_bind, require_of h.digest, ok_bind, require_of h.barrier, ok_bind,
    require_of hverifier, ok_bind, h.registry]
  rfl

structure Settled (g : SessionRouteRegistry) (call : RegistryCall) (g' : SessionRouteRegistry) :
    Prop where
  refused : call.error ≠ none → g' = g
  kept : call.opens = none → g'.namespace_ = g.namespace_
  opened : ∀ namespace_ ∈ call.opens, g'.namespace_ = namespace_ ∧ g.namespace_ < namespace_
  named : call.error = none → ∀ namespace_ ∈ call.names, g.namespace_ ≤ namespace_

variable {α : Type} {call : RegistryCall}

theorem settled_of_ensures {m : Method SessionRouteError SessionRouteRegistry α}
    {reply : Except SessionRouteError α} {Q : α → SessionRouteRegistry → Prop}
    (hensures : Calls.Ensures m g Q (Refused g)) (hran : Ran m g reply g')
    (hcall : call.error = RegistryCall.errorOf reply) (hopens : call.opens = none)
    (hok : ∀ a, reply = .ok a → Q a g' → g'.namespace_ = g.namespace_ ∧
      ∀ namespace_ ∈ call.names, g.namespace_ ≤ namespace_) : Settled g call g' := by
  have hresult := hensures reply g' hran
  cases reply with
  | ok a =>
    obtain ⟨hkept, hnamed⟩ := hok a rfl hresult
    refine ⟨fun hrefused => absurd hcall hrefused, fun _ => hkept, ?_, fun _ => hnamed⟩
    rw [hopens]
    exact nofun
  | error e =>
    obtain ⟨rfl, _⟩ := hresult
    refine ⟨fun _ => rfl, fun _ => rfl, ?_, fun hnone => ?_⟩
    · rw [hopens]
      exact nofun
    · rw [hcall] at hnone
      cases hnone

variable {received : SessionRouteNamespace}

theorem current {u : Unit} (h : g.requireNamespace received = .ok u) :
    received = g.namespace_ := require_ok.mp h

variable {delta : SessionMutationDelta}

theorem join_current {request : SessionJoinRequest}
    (h : Ran (joinPresence request) g (.ok delta) g') : request.namespace_ = g.namespace_ := by
  simp only [SessionRouteRegistry.joinPresence, ran_read_bind, ran_check_bind] at h
  obtain ⟨_, _, _, hcurrent, _⟩ := h
  exact current hcurrent

theorem fenced_current {namespace_ : SessionRouteNamespace} {connection : ConnectionRef}
    {connectionGeneration : ConnectionGeneration} {sessionId : SessionId}
    {sessionGeneration : SessionRouteGeneration} {unbind : Bool}
    {mutation : PresenceRouter → Except PresenceError (PresenceDelta × PresenceRouter)}
    (h : Ran (mutateFencedPresence namespace_ connection connectionGeneration sessionId
      sessionGeneration unbind mutation) g (.ok delta) g') : namespace_ = g.namespace_ := by
  simp only [mutateFencedPresence, ran_read_bind, ran_check_bind] at h
  obtain ⟨_, hcurrent, _⟩ := h
  exact current hcurrent

theorem settled_current {m : Method SessionRouteError SessionRouteRegistry α}
    {reply : Except SessionRouteError α} {granted : ConnectionRef → SessionBinding → Prop}
    (hensures : Calls.Ensures m g (fun _ => Advanced g granted) (Refused g))
    (hran : Ran m g reply g') (hcall : call.error = RegistryCall.errorOf reply)
    (hopens : call.opens = none) (hnames : call.names = [received])
    (hcurrent : ∀ a, Ran m g (.ok a) g' → received = g.namespace_) : Settled g call g' := by
  refine settled_of_ensures hensures hran hcall hopens fun a hreply hadvanced => ?_
  refine ⟨hadvanced.namespace_, fun namespace_ hmem => ?_⟩
  rw [hnames, List.mem_singleton] at hmem
  rw [hmem, hcurrent a (hreply ▸ hran)]
  exact UInt64.le_refl _

theorem Sound.settled_rollover (h : g.Sound) (proof : SessionRouteRolloverProof)
    (verifier : CheckpointVerifier) {reply : Except SessionRouteError SessionRouteCheckpoint}
    (hran : Ran (SessionRouteRegistry.rolloverNamespace proof verifier) g reply g') :
    Settled g (.rollover proof verifier reply) g' := by
  cases reply with
  | error e =>
    obtain ⟨rfl, _⟩ := h.rolloverNamespace proof verifier _ _ hran
    exact ⟨fun _ => rfl, fun _ => rfl, nofun, nofun⟩
  | ok checkpoint =>
    have hrolled := rolled hran
    refine ⟨fun hrefused => absurd rfl hrefused, nofun, fun namespace_ hopened => ?_,
      fun _ namespace_ hmem => ?_⟩
    · cases hopened
      refine ⟨by rw [hrolled.registry], ?_⟩
      rw [← hrolled.retired]
      exact hrolled.advanced
    · simp only [RegistryCall.names, List.mem_cons, List.not_mem_nil, or_false] at hmem
      rcases hmem with rfl | rfl
      · rw [hrolled.proposed.retired]
        exact UInt64.le_refl _
      · exact UInt64.le_of_lt hrolled.proposed.advanced

theorem Sound.settled_propose (h : g.Sound) (nextNamespace : SessionRouteNamespace)
    (checkpointDigest producerBarrierDigest : RouteDigest)
    {reply : Except SessionRouteError SessionRouteRolloverProof}
    (hran : Ran (check (g.proposeRollover nextNamespace checkpointDigest producerBarrierDigest)) g
      reply g') :
    Settled g (.propose nextNamespace checkpointDigest producerBarrierDigest reply) g' := by
  have hensures : Calls.Ensures (check (g.proposeRollover nextNamespace checkpointDigest
      producerBarrierDigest)) g (fun proof t => t = g ∧ Proposed g nextNamespace proof)
      (Refused g) := by
    rw [Calls.ensures_check]
    exact (h.proposeRollover _ _ _).mono (fun _ _ hproposed => ⟨rfl, hproposed⟩)
      fun _ he => ⟨rfl, he⟩
  refine settled_of_ensures hensures hran rfl rfl fun _ _ hdone => ?_
  refine ⟨by rw [hdone.1], fun namespace_ hmem => ?_⟩
  rw [List.mem_singleton.mp hmem]
  exact UInt64.le_of_lt hdone.2.advanced

theorem Sound.settled (h : g.Sound) {call : RegistryCall} (hstep : sessionRoutes.step g call g')
    (hcall : ¬ call.Restores) : Settled g call g' := by
  cases call with
  | join request reply =>
    exact settled_current (h.joinPresence request) hstep rfl rfl rfl fun _ => join_current
  | update request reply =>
    exact settled_current (h.updatePresence request) hstep rfl rfl rfl fun _ => fenced_current
  | leave request reply =>
    exact settled_current (h.leavePresence request) hstep rfl rfl rfl fun _ => fenced_current
  | remove request reply =>
    exact settled_current (h.removeConnection request) hstep rfl rfl rfl fun _ => fenced_current
  | revoke request reply =>
    refine settled_of_ensures (h.revokeSession request) hstep rfl rfl fun _ _ hrevoked => ?_
    refine ⟨hrevoked.advanced.namespace_, fun namespace_ hmem => ?_⟩
    rw [List.mem_singleton.mp hmem, hrevoked.current]
    exact UInt64.le_refl _
  | propose nextNamespace checkpointDigest producerBarrierDigest reply =>
    exact h.settled_propose _ _ _ hstep
  | rollover proof verifier reply => exact h.settled_rollover proof verifier hstep
  | read stream visibility reply =>
    obtain rfl : g = g' := congrArg Prod.snd hstep
    exact ⟨fun _ => rfl, fun _ => rfl, nofun, fun _ => nofun⟩
  | restore limits checkpoint verifier reply =>
    cases reply with
    | ok _ => exact absurd ⟨limits, checkpoint, verifier, rfl⟩ hcall
    | error e =>
      have hran : Ran (replaceFromCheckpoint limits checkpoint verifier) g (.error e) g' := hstep
      rcases ran_bind_error.mp hran with hfailed | ⟨_, _, _, hwritten⟩
      · obtain rfl : g = g' := congrArg Prod.snd hfailed
        exact ⟨fun _ => rfl, fun _ => rfl, nofun, nofun⟩
      · exact absurd hwritten (succeeds_write _ _ _ _)

def openings (g : SessionRouteRegistry) (calls : List RegistryCall) : List SessionRouteNamespace :=
  g.namespace_ :: calls.filterMap RegistryCall.opens

variable {xs : List SessionRouteNamespace}

theorem pairwise_snoc {last next : SessionRouteNamespace} (hpairwise : xs.Pairwise (· < ·))
    (hlast : xs.getLast? = some last) (hless : last < next) : (xs ++ [next]).Pairwise (· < ·) := by
  obtain ⟨earlier, rfl⟩ := List.getLast?_eq_some_iff.mp hlast
  refine List.pairwise_append.mpr ⟨hpairwise, List.pairwise_singleton _ _, ?_⟩
  intro namespace_ hmem later hlater
  rw [List.mem_singleton.mp hlater]
  rcases List.mem_append.mp hmem with hbefore | hself
  · refine UInt64.lt_trans ?_ hless
    exact (List.pairwise_append.mp hpairwise).2.2 _ hbefore _ List.mem_cons_self
  · rwa [List.mem_singleton.mp hself]

theorem Sound.openings_run {calls : List RegistryCall} (h : g.Sound)
    (hrun : Run sessionRoutes g calls g') (hcalls : ∀ call ∈ calls, ¬ call.Restores) :
    g'.Sound ∧ (openings g calls).Pairwise (· < ·) ∧
      (openings g calls).getLast? = some g'.namespace_ := by
  induction hrun with
  | nil => exact ⟨h, List.pairwise_singleton _ _, rfl⟩
  | @snoc t u calls call _ hstep ih =>
    obtain ⟨hsound, hpairwise, hlast⟩ :=
      ih fun call hmem => hcalls call (List.mem_append_left _ hmem)
    have hsettled := hsound.settled hstep
      (hcalls call (List.mem_append_right _ List.mem_cons_self))
    refine ⟨(hsound.outcome hstep).sound, ?_⟩
    rw [openings, List.filterMap_append, List.filterMap_cons, List.filterMap_nil,
      ← List.cons_append, ← openings]
    cases hopens : call.opens with
    | none =>
      rw [List.append_nil, hsettled.kept hopens]
      exact ⟨hpairwise, hlast⟩
    | some namespace_ =>
      obtain ⟨hnext, hless⟩ := hsettled.opened namespace_ hopens
      refine ⟨pairwise_snoc hpairwise hlast hless, ?_⟩
      rw [List.getLast?_append, hnext]
      rfl

theorem head_le_last {first last : SessionRouteNamespace}
    (hpairwise : (first :: xs).Pairwise (· < ·)) (hlast : (first :: xs).getLast? = some last) :
    first ≤ last := by
  rcases List.mem_cons.mp (List.mem_of_getLast? hlast) with rfl | hmem
  · exact UInt64.le_refl _
  · exact UInt64.le_of_lt ((List.pairwise_cons.mp hpairwise).1 _ hmem)

end SessionRouteRegistry

def SessionRouteRegistry.Forgets (g : SessionRouteRegistry) : Prop :=
  ∀ call g', sessionRoutes.step g call g' → (∃ namespace_ ∈ call.names, namespace_ < g.namespace_) →
    call.error ≠ none ∧ g' = g

theorem SessionRouteRegistry.Sound.forgets {g : SessionRouteRegistry} (h : g.Sound) :
    g.Forgets := by
  rintro call g' hstep ⟨namespace_, hmem, hless⟩
  have hcall : ¬ call.Restores := by
    rintro ⟨limits, checkpoint, verifier, rfl⟩
    cases hmem
  have hsettled := h.settled hstep hcall
  have hrefused : call.error ≠ none := fun hnone =>
    absurd hless (UInt64.not_lt.mpr (hsettled.named hnone namespace_ hmem))
  exact ⟨hrefused, hsettled.refused hrefused⟩

theorem rollover_equals_restore : ∀ g, Reachable sessionRoutes g →
    (∀ proof verifier checkpoint g', Ran (rolloverNamespace proof verifier) g (.ok checkpoint) g' →
      (∀ accepting : CheckpointVerifier, accepting.verifyCheckpoint checkpoint = true →
        fromCheckpoint g.limits checkpoint accepting = .ok g') ∧
      g.namespace_ < g'.namespace_ ∧
      ∀ calls t, Run sessionRoutes g' calls t → (∀ call ∈ calls, ¬ call.Restores) →
        g'.namespace_ ≤ t.namespace_ ∧ t.Forgets) ∧
    (∀ proof verifier error g', Ran (rolloverNamespace proof verifier) g (.error error) g' →
      g' = g) ∧
    ∀ calls t, Run sessionRoutes g calls t → (∀ call ∈ calls, ¬ call.Restores) →
      (openings g calls).Pairwise (· < ·) ∧ (openings g calls).getLast? = some t.namespace_ := by
  intro g hreachable
  have hsound := sound_of_reachable hreachable
  refine ⟨fun proof verifier checkpoint g' hran => ?_, fun proof verifier error g' hran => ?_,
    fun calls t hrun hcalls => (hsound.openings_run hrun hcalls).2⟩
  · have hrolled := rolled hran
    have hstep : sessionRoutes.step g (.rollover proof verifier (.ok checkpoint)) g' := hran
    refine ⟨fun accepting haccepts => hrolled.restored haccepts, ?_, fun calls t hrun hcalls => ?_⟩
    · rw [hrolled.registry, ← hrolled.retired]
      exact hrolled.advanced
    · obtain ⟨hlater, hpairwise, hlast⟩ :=
        (hsound.outcome hstep).sound.openings_run hrun hcalls
      exact ⟨head_le_last hpairwise hlast, hlater.forgets⟩
  · exact (hsound.rolloverNamespace proof verifier _ _ hran).1

def sampleBarrier : RouteDigest := Vector.replicate 32 7

def sampleVerifier : CheckpointVerifier := ⟨fun _ => true, fun _ => true⟩

def sampleRollover : SessionRouteRolloverProof :=
  ⟨1, 2, 0, 0, 0, 0, 0, sampleBarrier, sampleBarrier⟩

def sampleReentry : SessionJoinRequest := { sampleJoin "room" 1 with namespace_ := 2 }

def sampleQuiet : SessionRouteRegistry :=
  (revokeSession ⟨2, "s", 2⟩ (joinPresence sampleReentry
    (rolloverNamespace sampleRollover sampleVerifier sampleStart).2).2).2

theorem sample_quiet : Reachable sessionRoutes sampleQuiet := by
  have hopened := (Reachable.start sample_init).run (Run.single
    (a := RegistryCall.rollover sampleRollover sampleVerifier _) Prod.mk.eta.symm)
  have hjoined := hopened.run (Run.single (a := RegistryCall.join sampleReentry _) Prod.mk.eta.symm)
  exact hjoined.run (Run.single (a := RegistryCall.revoke ⟨2, "s", 2⟩ _) Prod.mk.eta.symm)

def sampleProof : SessionRouteRolloverProof := ⟨2, 3, 3, 2, 1, 1, 1, sampleBarrier, sampleBarrier⟩

def sampleCheckpoint : SessionRouteCheckpoint := ⟨2, 3, 4, 2, 1, 1, 1, sampleBarrier, sampleBarrier⟩

def sampleRolled : SessionRouteRegistry :=
  (rolloverNamespace sampleProof sampleVerifier sampleQuiet).2

theorem rollover_equals_restore_sample : sampleQuiet.revokedThrough.lookup "s" = some 2 ∧
    fromCheckpoint .default sampleCheckpoint sampleVerifier = .ok sampleRolled ∧
      (joinPresence (sampleJoin "room" 1) sampleRolled).2 = sampleRolled := by
  have hchecked : (rolloverNamespace sampleProof sampleVerifier sampleQuiet).1 =
      .ok sampleCheckpoint := by decide +kernel
  obtain ⟨hrestored, _, hlater⟩ := (rollover_equals_restore sampleQuiet sample_quiet).1
    sampleProof sampleVerifier sampleCheckpoint sampleRolled (Prod.ext hchecked rfl)
  refine ⟨by decide +kernel, hrestored sampleVerifier rfl, ?_⟩
  have hforgets : sampleRolled.Forgets :=
    (hlater [] sampleRolled (Run.nil _) (List.forall_mem_nil _)).2
  exact (hforgets (.join (sampleJoin "room" 1) _) _ Prod.mk.eta.symm
    ⟨1, List.mem_cons_self, by decide +kernel⟩).2

end Presence
