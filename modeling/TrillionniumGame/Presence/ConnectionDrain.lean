import TrillionniumGame.Presence.ConnectionLaws

namespace Presence
open Checks FiniteMap Runs Windows Words

namespace ConnectionCall

def addsWork : ConnectionCall → Bool
  | .enqueueInbound _ | .beginRequest _ | .admitImmediateResponse _ _ | .enqueueControl _
  | .enqueueOutbound none _ => true
  | _ => false

def settles : ConnectionCall → Bool
  | .popInbound | .popOutbound | .completeRequest _ | .cancelRequest _ => true
  | _ => false

def idle (a : ConnectionActor) : ConnectionCall → Bool
  | .beginDrain => true
  | .popInbound => a.inbound.isEmpty
  | .popOutbound => a.outbound.isEmpty
  | _ => false

end ConnectionCall

section Holds

variable {pending : Dict CorrelationId PendingRequest} {handle : RequestHandle}
  {request later : PendingRequest} {correlation : CorrelationId}

theorem Holds.of_update (h : Holds (pending.insert correlation later) handle)
    (hcurrent : pending.lookup correlation = some request) (hsame : later.handle = request.handle) :
    Holds pending handle := by
  have hback := h.update (Finmap.lookup_insert _) hsame.symm
  rwa [Finmap.insert_insert, insert_of_lookup hcurrent] at hback

theorem Holds.of_erase (h : Holds (pending.erase correlation) handle) : Holds pending handle := by
  obtain ⟨request, hlookup, hhandle⟩ := h
  rw [lookup_erase_ite] at hlookup
  split at hlookup
  · cases hlookup
  · exact ⟨request, hlookup, hhandle⟩

end Holds

def unanswered (pending : Dict CorrelationId PendingRequest) : Finset CorrelationId :=
  pending.keys.filter fun correlation =>
    (pending.lookup correlation).any fun request => request.responseSequence.isNone

section Unanswered

variable {pending pending' : Dict CorrelationId PendingRequest} {request : PendingRequest}
  {correlation : CorrelationId}

theorem mem_unanswered : correlation ∈ unanswered pending ↔
    ∃ request, pending.lookup correlation = some request ∧ request.responseSequence = none := by
  rw [unanswered, Finset.mem_filter, Finmap.mem_keys, Option.any_eq_true]
  constructor
  · rintro ⟨-, request, hlookup, hnone⟩
    exact ⟨request, hlookup, Option.isNone_iff_eq_none.mp hnone⟩
  · rintro ⟨request, hlookup, hnone⟩
    exact ⟨mem_of_lookup hlookup, request, hlookup, Option.isNone_iff_eq_none.mpr hnone⟩

theorem unanswered_insert (hresponse : request.responseSequence ≠ none) :
    unanswered (pending.insert correlation request) = (unanswered pending).erase correlation := by
  ext other
  rw [mem_unanswered, Finset.mem_erase, mem_unanswered, lookup_insert_ite]
  split
  · next heq =>
    refine iff_of_false ?_ fun h => h.1 heq
    rintro ⟨found, hfound, hnone⟩
    cases hfound
    exact hresponse hnone
  · next hne => exact (and_iff_right hne).symm

theorem unanswered_erase :
    unanswered (pending.erase correlation) = (unanswered pending).erase correlation := by
  ext other
  rw [mem_unanswered, Finset.mem_erase, mem_unanswered, lookup_erase_ite]
  split
  · next heq => exact iff_of_false nofun fun h => h.1 heq
  · next hne => exact (and_iff_right hne).symm

theorem unanswered_congr (h : ∀ correlation,
    (pending'.lookup correlation).map (·.responseSequence) =
      (pending.lookup correlation).map (·.responseSequence)) :
    unanswered pending' = unanswered pending := by
  have hsame : ∀ pending : Dict CorrelationId PendingRequest, ∀ correlation,
      correlation ∈ unanswered pending ↔
        (pending.lookup correlation).map (·.responseSequence) = some none := by
    intro pending correlation
    rw [mem_unanswered, Option.map_eq_some_iff]
  ext correlation
  rw [hsame, hsame, h]

end Unanswered

namespace ConnectionActor

variable {a a' : ConnectionActor} {l : ConnectionLedger} {call : ConnectionCall}
  {reply : ConnectionReply} {handle : RequestHandle} {request : PendingRequest}

def remaining (a : ConnectionActor) : Nat :=
  a.inbound.length + a.outbound.length + a.pending.keys.card + 2 * (unanswered a.pending).card

theorem unanswered_markDequeued (a : ConnectionActor) (frame : OutboundFrame) :
    unanswered (a.markDequeued frame) = unanswered a.pending := by
  rw [markDequeued]
  split
  · rfl
  · split
    · rfl
    · next current hhandle =>
      obtain ⟨hcurrent, rfl⟩ := requireHandle_ok.mp hhandle
      refine unanswered_congr fun correlation => ?_
      rw [lookup_insert_ite]
      split
      · next heq => rw [heq, hcurrent, Option.map_some, Option.map_some]
      · rfl

theorem remaining_takes (hqueue : a.inbound ≠ []) :
    ({ a with inbound := a.inbound.tail } : ConnectionActor).remaining < a.remaining := by
  have hlength := List.length_pos_of_ne_nil hqueue
  rw [remaining, remaining, List.length_tail]
  dsimp only
  omega

variable {frame : OutboundFrame} {rest : List OutboundFrame}

theorem remaining_pops (hqueue : a.outbound = frame :: rest) :
    ({ a with outbound := rest, pending := a.markDequeued frame } : ConnectionActor).remaining <
      a.remaining := by
  rw [remaining, remaining, hqueue]
  dsimp only
  rw [keys_markDequeued, unanswered_markDequeued, List.length_cons]
  omega

theorem remaining_responds (payload : List UInt8)
    (hcurrent : a.pending.lookup request.handle.correlation = some request)
    (hunanswered : request.responseSequence = none) :
    (a.withResponse request payload).remaining < a.remaining := by
  have hcard := Finset.card_erase_add_one (mem_unanswered.mpr ⟨request, hcurrent, hunanswered⟩)
  rw [remaining, remaining, withResponse]
  dsimp only
  rw [keys_insert_of_mem (mem_of_lookup hcurrent), unanswered_insert (Option.some_ne_none _),
    List.length_append, List.length_singleton]
  omega

theorem remaining_ends (hcurrent : a.pending.lookup request.handle.correlation = some request) :
    (a.without request.handle).remaining < a.remaining := by
  have hcard := card_keys_erase (mem_of_lookup hcurrent)
  have hfewer := Finset.card_erase_le (s := unanswered a.pending) (a := request.handle.correlation)
  rw [remaining, remaining, without]
  dsimp only
  rw [unanswered_erase]
  omega

theorem answer_fenced (hdraining : a.state = .draining) (hadds : call.addsWork = true) :
    a.answer call = (.error .draining, a) := by
  have hfence : a.requireOpen = .error .draining := by rw [requireOpen, hdraining]
  unfold ConnectionCall.addsWork at hadds
  split at hadds
  · rw [answer, perform, enqueueInbound, hfence]
    rfl
  · rw [answer, perform, beginRequest, requireRequestCapacity, hfence]
    rfl
  · rw [answer, perform, admitImmediateResponse, requireRequestCapacity, hfence]
    rfl
  · rw [answer, perform, enqueueControl, hfence]
    rfl
  · rw [answer, perform, enqueueOutbound, enqueueControl, hfence]
    rfl
  · cases hadds

structure Fenced (a a' : ConnectionActor) : Prop where
  inbound : a'.inbound <:+ a.inbound
  pending : ∀ handle, Holds a'.pending handle → Holds a.pending handle
  outbound : ∀ frame ∈ a'.outbound, frame ∈ a.outbound ∨
    ∃ handle, frame.requestHandle = some handle ∧ Holds a.pending handle

theorem fenced_pops (hqueue : a.outbound = frame :: rest) :
    Fenced a { a with outbound := rest, pending := a.markDequeued frame } := by
  refine ⟨List.suffix_rfl, ?_, fun other hmem => .inl (hqueue ▸ List.mem_cons_of_mem _ hmem)⟩
  intro handle hholds
  dsimp only at hholds
  rw [markDequeued] at hholds
  split at hholds
  · exact hholds
  · split at hholds
    · exact hholds
    · next current hhandle =>
      obtain ⟨hcurrent, rfl⟩ := requireHandle_ok.mp hhandle
      exact hholds.of_update hcurrent rfl

variable {payload : List UInt8}

theorem fenced_responds (hcurrent : a.pending.lookup request.handle.correlation = some request) :
    Fenced a (a.withResponse request payload) := by
  refine ⟨List.suffix_rfl, fun handle hholds => hholds.of_update hcurrent rfl, fun frame hmem => ?_⟩
  rcases List.mem_append.mp hmem with hold | hlast
  · exact .inl hold
  · cases List.mem_singleton.mp hlast
    exact .inr ⟨_, rfl, request, hcurrent, rfl⟩

inductive Drains (a : ConnectionActor) (call : ConnectionCall) : ConnectionActor → Prop
  | idles (hidle : call.idle a = true) : Drains a call a
  | proceeds (a' : ConnectionActor) (hstate : a'.state = .draining) (hfenced : Fenced a a')
      (hless : a'.remaining < a.remaining) : Drains a call a'
  | closes (hclose : call = .close) (hconverged : a.drainConverged = true) :
      Drains a call { a with state := .closed }

theorem drains_response {sequence : Nat} (hdraining : a.state = .draining)
    (h : a.enqueueResponse handle payload = .ok (sequence, a')) : Drains a call a' := by
  obtain ⟨request, hhandle, hunanswered, rfl, -⟩ := enqueueResponse_ok h
  obtain ⟨hcurrent, -⟩ := requireHandle_ok.mp hhandle
  exact .proceeds _ hdraining (fenced_responds hcurrent)
    (remaining_responds payload hcurrent hunanswered)

theorem drains_end (hdraining : a.state = .draining)
    (hhandle : a.requireHandle handle = .ok request) : Drains a call (a.without request.handle) :=
  .proceeds _ hdraining ⟨List.suffix_rfl, fun _ hholds => hholds.of_erase, fun _ hmem => .inl hmem⟩
    (remaining_ends (requireHandle_ok.mp hhandle).1)

theorem perform_drains (hdraining : a.state = .draining) (h : a.perform call = .ok (reply, a')) :
    Drains a call a' := by
  have hopen : call.addsWork = false := by
    by_contra hadds
    have hfenced := answer_fenced hdraining (Bool.eq_true_of_not_eq_false hadds)
    rw [answer, h] at hfenced
    cases (Prod.mk.inj hfenced).1
  cases call with
  | enqueueInbound frame | beginRequest correlation | admitImmediateResponse correlation payload
  | enqueueControl payload => cases hopen
  | popInbound =>
    obtain ⟨-, rfl⟩ := ok_inj h
    by_cases hqueue : a.inbound = []
    · have hsame : { a with inbound := a.inbound.tail } = a := by
        rw [hqueue, List.tail_nil, ← hqueue]
      change Drains a .popInbound { a with inbound := a.inbound.tail }
      rw [hsame]
      exact .idles (List.isEmpty_iff.mpr hqueue)
    · have hfenced : Fenced a { a with inbound := a.inbound.tail } :=
        ⟨List.tail_suffix _, fun _ => id, fun _ hmem => .inl hmem⟩
      exact .proceeds _ hdraining hfenced (remaining_takes hqueue)
  | enqueueResponse handle payload =>
    obtain ⟨sequence, hnext, -⟩ := replied h
    exact drains_response hdraining hnext
  | enqueueOutbound given payload =>
    obtain ⟨sequence, hnext, -⟩ := replied h
    cases given with
    | none => cases hopen
    | some handle => exact drains_response hdraining hnext
  | popOutbound =>
    cases hqueue : a.outbound with
    | nil =>
      rw [perform, popOutbound_nil hqueue] at h
      obtain ⟨-, rfl⟩ := ok_inj h
      exact .idles (List.isEmpty_iff.mpr hqueue)
    | cons frame rest =>
      rw [perform, popOutbound_cons hqueue] at h
      obtain ⟨-, rfl⟩ := ok_inj h
      exact .proceeds _ hdraining (fenced_pops hqueue) (remaining_pops hqueue)
  | completeRequest handle =>
    obtain ⟨request, hnext, -⟩ := replied h
    obtain ⟨hhandle, rfl, -⟩ := completeRequest_ok hnext
    exact drains_end hdraining hhandle
  | cancelRequest handle =>
    obtain ⟨request, hnext, -⟩ := replied h
    obtain ⟨hhandle, rfl, -⟩ := cancelRequest_ok hnext
    exact drains_end hdraining hhandle
  | beginDrain =>
    obtain ⟨hnext, -⟩ := replied_accepted h
    rw [beginDrain, hdraining] at hnext
    cases hnext
    exact .idles rfl
  | close =>
    obtain ⟨hnext, -⟩ := replied_accepted h
    rw [close, hdraining] at hnext
    dsimp only at hnext
    split at hnext
    · next hconverged =>
      cases hnext
      exact .closes rfl hconverged
    · cases hnext

theorem answer_of_perform (h : a.perform call = .ok (reply, a')) :
    a.answer call = (.ok reply, a') := by
  rw [answer, h]

theorem Sound.settles (h : a.Sound l) (hdraining : a.state = .draining)
    (hwork : a.drainConverged = false) : ∃ call reply a', call.settles = true ∧
      call.idle a = false ∧ a.perform call = .ok (reply, a') := by
  by_cases hinbound : a.inbound = []
  · cases hqueue : a.outbound with
    | cons frame rest =>
      exact ⟨.popOutbound, _, _, rfl, by rw [ConnectionCall.idle, hqueue]; rfl, rfl⟩
    | nil =>
      have hpending : a.pending ≠ ∅ := by
        intro hempty
        rw [drainConverged_iff.mpr ⟨hdraining, hinbound, hqueue, hempty⟩] at hwork
        cases hwork
      obtain ⟨correlation, hcorrelation⟩ : ∃ correlation, correlation ∈ a.pending := by
        by_contra hnone
        refine hpending (Finmap.ext_lookup fun correlation => ?_)
        rw [Finmap.lookup_empty]
        exact Finmap.lookup_eq_none.mpr fun hmem => hnone ⟨correlation, hmem⟩
      obtain ⟨request, hlookup⟩ := Finmap.mem_iff.mp hcorrelation
      have hcurrent := hlookup
      rw [← h.booked.keyed _ _ hlookup] at hcurrent
      have hhandle := requireHandle_ok.mpr ⟨hcurrent, rfl⟩
      have hstanding := h.booked.standing _ _ hlookup
      by_cases hresponse : request.responseSequence = none
      · refine ⟨.cancelRequest request.handle, .cancelled request, a.without request.handle, rfl,
          rfl, ?_⟩
        rw [perform, cancelRequest, hhandle, ok_bind, require_of hresponse]
        rfl
      · have hdequeued : request.responseDequeued = true := by
          rw [hstanding.dequeued]
          by_contra hunsent
          refine hresponse (hstanding.unanswered.mpr ?_)
          rwa [hqueue, List.append_nil]
        refine ⟨.completeRequest request.handle, .completed request, a.without request.handle, rfl,
          rfl, ?_⟩
        rw [perform, completeRequest, hhandle, ok_bind, require_of hdequeued]
        rfl
  · exact ⟨.popInbound, _, _, rfl, by simpa [ConnectionCall.idle] using hinbound, rfl⟩

theorem Sound.converges (h : a.Sound l) (hdraining : a.state = .draining) :
    ∃ entries a', Run connectionActors a entries a' ∧
      (∀ entry ∈ entries, entry.1.settles = true ∧ entry.2.isOk = true) ∧
      a'.drainConverged = true := by
  induction hcount : a.remaining using Nat.strong_induction_on generalizing a l with
  | _ count ih =>
    subst hcount
    cases hwork : a.drainConverged with
    | true => exact ⟨[], a, .nil a, List.forall_mem_nil _, hwork⟩
    | false =>
      obtain ⟨call, reply, b, hsettles, hbusy, hperform⟩ := h.settles hdraining hwork
      have hstep : connectionActors.step a (call, .ok reply) b := answer_of_perform hperform
      cases perform_drains hdraining hperform with
      | idles hidle => rw [hbusy] at hidle; cases hidle
      | closes hclose hconverged => rw [hwork] at hconverged; cases hconverged
      | proceeds _ hstate hfenced hless =>
        obtain ⟨entries, a', hrun, hentries, hconverged⟩ := ih _ hless (h.step hstep) hstate rfl
        exact ⟨_, a', .cons hstep hrun, List.forall_mem_cons.mpr ⟨⟨hsettles, rfl⟩, hentries⟩,
          hconverged⟩

theorem close_iff (hdraining : a.state = .draining) :
    (∃ a', a.answer .close = (.ok .accepted, a')) ↔ a.drainConverged = true := by
  rw [answer, perform, close, hdraining]
  dsimp only
  by_cases hconverged : a.drainConverged = true
  · rw [if_pos hconverged]
    exact iff_of_true ⟨_, rfl⟩ hconverged
  · rw [if_neg hconverged]
    refine iff_of_false ?_ hconverged
    rintro ⟨_, hanswer⟩
    cases hanswer

structure DrainLaw (a : ConnectionActor) : Prop where
  fenced : ∀ call, call.addsWork = true → a.answer call = (.error .draining, a)
  decreases : ∀ call reply a', a.answer call = (.ok reply, a') → Drains a call a'
  converges : ∃ entries a', Run connectionActors a entries a' ∧
    (∀ entry ∈ entries, entry.1.settles = true ∧ entry.2.isOk = true) ∧ a'.drainConverged = true
  closes : (∃ a', a.answer .close = (.ok .accepted, a')) ↔ a.drainConverged = true

theorem drain_terminates (h : Reachable connectionActors a) (hdraining : a.state = .draining) :
    DrainLaw a := by
  obtain ⟨fresh, entries, hinit, hrun⟩ := h
  have hsound := sound_run hinit hrun
  exact ⟨fun _ => answer_fenced hdraining, fun _ _ _ h => perform_drains hdraining (answer_ok h),
    hsound.converges hdraining, close_iff hdraining⟩

def sampleDraining : ConnectionActor := { sampleBusy 8 with state := .draining }

theorem sample_drained : Run connectionActors (sampleActor 8)
    [sampleEntry, (.beginDrain, .ok .accepted)] sampleDraining := by
  have hbegun : connectionActors.step (sampleActor 8) sampleEntry (sampleBusy 8) := rfl
  have hdrained :
      connectionActors.step (sampleBusy 8) (.beginDrain, .ok .accepted) sampleDraining := rfl
  exact .cons hbegun (.single hdrained)

theorem drain_terminates_sample : DrainLaw sampleDraining :=
  drain_terminates ⟨_, _, sample_init.1, sample_drained⟩ rfl

theorem drain_repeats : ¬ ∃ measure : ConnectionActor → Nat, ∀ a call reply a',
    Reachable connectionActors a → a.state = .draining → a.answer call = (.ok reply, a') →
      measure a' < measure a := by
  rintro ⟨measure, hmeasure⟩
  exact lt_irrefl _ (hmeasure sampleDraining .beginDrain .accepted sampleDraining
    ⟨_, _, sample_init.1, sample_drained⟩ rfl rfl)

end ConnectionActor

end Presence
