import Mathlib.Algebra.Order.BigOperators.Group.List
import Mathlib.Algebra.Order.Ring.Nat
import TrillionniumGame.Foundation.Sequences
import TrillionniumGame.Presence.ConnectionActor

namespace Presence
open Checks FiniteMap Runs Windows Words

def respondedTo (frames : List OutboundFrame) : List RequestHandle :=
  frames.filterMap fun frame => frame.requestHandle

theorem respondedTo_append (frames frames' : List OutboundFrame) :
    respondedTo (frames ++ frames') = respondedTo frames ++ respondedTo frames' :=
  List.filterMap_append

def Holds (pending : Dict CorrelationId PendingRequest) (handle : RequestHandle) : Prop :=
  ∃ request, pending.lookup handle.correlation = some request ∧ request.handle = handle

section Holds

variable {pending : Dict CorrelationId PendingRequest} {handle : RequestHandle}
  {request later : PendingRequest} {correlation : CorrelationId}

theorem Holds.insert_new (h : Holds pending handle) (hunknown : correlation ∉ pending) :
    Holds (pending.insert correlation request) handle := by
  obtain ⟨held, hlookup, hhandle⟩ := h
  have hne : handle.correlation ≠ correlation := fun heq => hunknown (heq ▸ mem_of_lookup hlookup)
  exact ⟨held, by rwa [Finmap.lookup_insert_of_ne _ hne], hhandle⟩

theorem Holds.update (h : Holds pending handle)
    (hcurrent : pending.lookup correlation = some request) (hsame : later.handle = request.handle) :
    Holds (pending.insert correlation later) handle := by
  obtain ⟨held, hlookup, hhandle⟩ := h
  by_cases heq : handle.correlation = correlation
  · rw [heq, hcurrent] at hlookup
    cases hlookup
    exact ⟨later, heq ▸ Finmap.lookup_insert _, hsame.trans hhandle⟩
  · exact ⟨held, by rwa [Finmap.lookup_insert_of_ne _ heq], hhandle⟩

theorem Holds.erase (h : Holds pending handle)
    (hcurrent : pending.lookup correlation = some request) (hne : handle ≠ request.handle) :
    Holds (pending.erase correlation) handle := by
  obtain ⟨held, hlookup, hhandle⟩ := h
  have hkey : handle.correlation ≠ correlation := by
    intro heq
    rw [heq, hcurrent] at hlookup
    cases hlookup
    exact hne hhandle.symm
  exact ⟨held, by rwa [Finmap.lookup_erase_ne hkey], hhandle⟩

end Holds

structure Standing (request : PendingRequest) (outbound : List OutboundFrame)
    (l : ConnectionLedger) : Prop where
  issued : request.handle ∈ l.issued
  uncompleted : request.handle ∉ l.completed
  uncancelled : request.handle ∉ l.cancelled
  unanswered : request.responseSequence = none ↔ request.handle ∉ respondedTo (l.popped ++ outbound)
  dequeued : request.responseDequeued = true ↔ request.handle ∈ respondedTo l.popped

structure Booked (pending : Dict CorrelationId PendingRequest) (outbound : List OutboundFrame)
    (l : ConnectionLedger) : Prop where
  keyed : ∀ correlation request, pending.lookup correlation = some request →
    request.handle.correlation = correlation
  standing : ∀ correlation request, pending.lookup correlation = some request →
    Standing request outbound l
  held : ∀ handle ∈ l.issued, handle ∉ l.completed → handle ∉ l.cancelled → Holds pending handle
  queued : ∀ handle ∈ respondedTo outbound, Holds pending handle
  once : (respondedTo (l.popped ++ outbound)).Nodup
  sent : ∀ handle ∈ respondedTo l.popped, handle ∈ l.issued
  ended : (l.completed ++ l.cancelled).Nodup
  completed : ∀ handle ∈ l.completed, handle ∈ respondedTo l.popped
  cancelled : ∀ handle ∈ l.cancelled, handle ∈ l.issued ∧
    handle ∉ respondedTo (l.popped ++ outbound)

namespace Booked

variable {pending : Dict CorrelationId PendingRequest} {outbound rest : List OutboundFrame}
  {l : ConnectionLedger} {handle : RequestHandle} {request : PendingRequest}
  {frame : OutboundFrame}

theorem empty : Booked ∅ [] .empty :=
  ⟨nofun, nofun, nofun, nofun, .nil, nofun, .nil, nofun, nofun⟩

theorem answered_issued (h : Booked pending outbound l)
    (hanswered : handle ∈ respondedTo (l.popped ++ outbound)) : handle ∈ l.issued := by
  rw [respondedTo_append] at hanswered
  rcases List.mem_append.mp hanswered with hpopped | hqueued
  · exact h.sent handle hpopped
  · obtain ⟨request, hlookup, rfl⟩ := h.queued handle hqueued
    exact (h.standing _ _ hlookup).issued

theorem completed_issued (h : Booked pending outbound l) (hcompleted : handle ∈ l.completed) :
    handle ∈ l.issued := h.sent handle (h.completed handle hcompleted)

variable {correlation : CorrelationId}

section

variable (h : Booked pending outbound l)
include h

theorem other (hlookup : pending.lookup correlation = some request)
    (hne : correlation ≠ handle.correlation) : request.handle ≠ handle := by
  rintro rfl
  exact hne (h.keyed _ _ hlookup).symm

theorem keyed_insert (later : PendingRequest) (correlation : CorrelationId)
    (request : PendingRequest)
    (hlookup : (pending.insert later.handle.correlation later).lookup correlation = some request) :
    request.handle.correlation = correlation := by
  rw [lookup_insert_ite] at hlookup
  split at hlookup
  · next heq =>
    cases hlookup
    exact heq.symm
  · exact h.keyed _ _ hlookup

theorem begins (hnew : handle ∉ l.issued) (hunknown : handle.correlation ∉ pending)
    (admittedAtSequence : Nat) :
    Booked (pending.insert handle.correlation ⟨handle, admittedAtSequence, none, false⟩) outbound
      { l with issued := l.issued ++ [handle] } := by
  have hsilent : handle ∉ respondedTo (l.popped ++ outbound) :=
    fun hmem => hnew (h.answered_issued hmem)
  refine ⟨h.keyed_insert ⟨handle, admittedAtSequence, none, false⟩, ?_, ?_,
    fun other hmem => (h.queued other hmem).insert_new hunknown, h.once, ?_, h.ended, h.completed,
    ?_⟩
  · intro correlation request hlookup
    rw [lookup_insert_ite] at hlookup
    split at hlookup
    · cases hlookup
      refine ⟨List.mem_append_right _ List.mem_cons_self, ?_, ?_, iff_of_true rfl hsilent,
        iff_of_false nofun ?_⟩
      · exact fun hmem => hnew (h.completed_issued hmem)
      · exact fun hmem => hnew (h.cancelled _ hmem).1
      · exact fun hmem => hnew (h.sent _ hmem)
    · have hstanding := h.standing _ _ hlookup
      exact ⟨List.mem_append_left _ hstanding.issued, hstanding.uncompleted, hstanding.uncancelled,
        hstanding.unanswered, hstanding.dequeued⟩
  · intro other hmem huncompleted huncancelled
    rcases List.mem_append.mp hmem with hold | hlast
    · exact (h.held other hold huncompleted huncancelled).insert_new hunknown
    · cases List.mem_singleton.mp hlast
      exact ⟨_, Finmap.lookup_insert _, rfl⟩
  · exact fun other hmem => List.mem_append_left _ (h.sent other hmem)
  · intro other hmem
    obtain ⟨hissued, hsilent⟩ := h.cancelled other hmem
    exact ⟨List.mem_append_left _ hissued, hsilent⟩

theorem responds (hcurrent : pending.lookup request.handle.correlation = some request)
    (hunanswered : request.responseSequence = none)
    (hframe : frame.requestHandle = some request.handle) (sequence : Nat) :
    Booked (pending.insert request.handle.correlation
      { request with responseSequence := some sequence }) (outbound ++ [frame]) l := by
  have hstanding := h.standing _ _ hcurrent
  have hsilent := hstanding.unanswered.mp hunanswered
  have hanswers : respondedTo [frame] = [request.handle] := List.filterMap_cons_some hframe
  have hsent : respondedTo (l.popped ++ (outbound ++ [frame])) =
      respondedTo (l.popped ++ outbound) ++ [request.handle] := by
    rw [← List.append_assoc, respondedTo_append, hanswers]
  refine ⟨h.keyed_insert { request with responseSequence := some sequence }, ?_, ?_, ?_, ?_, h.sent,
    h.ended, h.completed, ?_⟩
  · intro correlation current hlookup
    rw [lookup_insert_ite] at hlookup
    split at hlookup
    · cases hlookup
      refine ⟨hstanding.issued, hstanding.uncompleted, hstanding.uncancelled,
        iff_of_false nofun (not_not_intro ?_), hstanding.dequeued⟩
      rw [hsent]
      exact List.mem_append_right _ List.mem_cons_self
    · next hne =>
      have hother := h.standing _ _ hlookup
      refine ⟨hother.issued, hother.uncompleted, hother.uncancelled, ?_, hother.dequeued⟩
      rw [hother.unanswered, hsent, List.mem_append, List.mem_singleton,
        or_iff_left (h.other hlookup hne)]
  · exact fun other hmem huncompleted huncancelled =>
      (h.held other hmem huncompleted huncancelled).update hcurrent rfl
  · intro other hmem
    rw [respondedTo_append, hanswers] at hmem
    rcases List.mem_append.mp hmem with hold | hlast
    · exact (h.queued other hold).update hcurrent rfl
    · cases List.mem_singleton.mp hlast
      exact ⟨_, Finmap.lookup_insert _, rfl⟩
  · rw [hsent]
    exact h.once.append (List.nodup_singleton _) (List.disjoint_singleton.mpr hsilent)
  · intro other hmem
    refine ⟨(h.cancelled other hmem).1, ?_⟩
    rw [hsent, List.mem_append, not_or, List.mem_singleton]
    refine ⟨(h.cancelled other hmem).2, ?_⟩
    rintro rfl
    exact hstanding.uncancelled hmem

theorem controls (hframe : frame.requestHandle = none) :
    Booked pending (outbound ++ [frame]) l := by
  have hanswers : respondedTo [frame] = [] := List.filterMap_cons_none hframe
  have hsent :
      respondedTo (l.popped ++ (outbound ++ [frame])) = respondedTo (l.popped ++ outbound) := by
    rw [← List.append_assoc, respondedTo_append, hanswers, List.append_nil]
  refine ⟨h.keyed, ?_, h.held, ?_, ?_, h.sent, h.ended, h.completed, ?_⟩
  · intro correlation request hlookup
    have hstanding := h.standing _ _ hlookup
    exact ⟨hstanding.issued, hstanding.uncompleted, hstanding.uncancelled,
      hsent ▸ hstanding.unanswered, hstanding.dequeued⟩
  · intro handle hmem
    rw [respondedTo_append, hanswers, List.append_nil] at hmem
    exact h.queued handle hmem
  · rw [hsent]
    exact h.once
  · intro handle hmem
    rw [hsent]
    exact h.cancelled handle hmem

end

theorem pops (h : Booked pending (frame :: rest) l) {pending' : Dict CorrelationId PendingRequest}
    (hheld : ∀ handle, Holds pending handle → Holds pending' handle)
    (hlater : ∀ correlation request, pending'.lookup correlation = some request →
      ∃ current, pending.lookup correlation = some current ∧ request.handle = current.handle ∧
        request.responseSequence = current.responseSequence ∧
        (request.responseDequeued = true ↔
          current.responseDequeued = true ∨ frame.requestHandle = some current.handle)) :
    Booked pending' rest { l with popped := l.popped ++ [frame] } := by
  have hsent :
      respondedTo (l.popped ++ [frame] ++ rest) = respondedTo (l.popped ++ frame :: rest) := by
    rw [List.append_assoc, List.singleton_append]
  have hpopped : ∀ handle, handle ∈ respondedTo (l.popped ++ [frame]) ↔
      handle ∈ respondedTo l.popped ∨ frame.requestHandle = some handle := by
    intro handle
    rw [respondedTo_append, List.mem_append]
    refine or_congr_right ?_
    simp [respondedTo]
  refine ⟨?_, ?_, ?_, ?_, ?_, ?_, h.ended, ?_, ?_⟩
  · intro correlation request hlookup
    obtain ⟨current, hcurrent, hhandle, -⟩ := hlater _ _ hlookup
    rw [hhandle]
    exact h.keyed _ _ hcurrent
  · intro correlation request hlookup
    obtain ⟨current, hcurrent, hhandle, hresponse, hdequeued⟩ := hlater _ _ hlookup
    have hstanding := h.standing _ _ hcurrent
    rw [← hhandle] at hdequeued
    refine ⟨?_, ?_, ?_, ?_, ?_⟩
    · exact hhandle ▸ hstanding.issued
    · exact hhandle ▸ hstanding.uncompleted
    · exact hhandle ▸ hstanding.uncancelled
    · dsimp only
      rw [hresponse, hstanding.unanswered, hsent, hhandle]
    · rw [hdequeued, hpopped, hstanding.dequeued, hhandle]
  · exact fun handle hmem huncompleted huncancelled =>
      hheld handle (h.held handle hmem huncompleted huncancelled)
  · intro handle hmem
    refine hheld handle (h.queued handle ?_)
    rw [← List.singleton_append, respondedTo_append]
    exact List.mem_append_right _ hmem
  · dsimp only
    rw [hsent]
    exact h.once
  · intro handle hmem
    refine h.answered_issued ?_
    rw [← hsent, respondedTo_append]
    exact List.mem_append_left _ hmem
  · exact fun handle hmem => (hpopped handle).mpr (.inl (h.completed handle hmem))
  · intro handle hmem
    dsimp only
    rw [hsent]
    exact h.cancelled handle hmem

theorem standing_erase (h : Booked pending outbound l) {other : PendingRequest}
    (hlookup : (pending.erase request.handle.correlation).lookup correlation = some other) :
    pending.lookup correlation = some other ∧ other.handle ≠ request.handle := by
  rw [lookup_erase_ite] at hlookup
  split at hlookup
  · cases hlookup
  · next hne => exact ⟨hlookup, h.other hlookup hne⟩

theorem completes (h : Booked pending outbound l)
    (hcurrent : pending.lookup request.handle.correlation = some request)
    (hdequeued : request.responseDequeued = true) :
    Booked (pending.erase request.handle.correlation) outbound
      { l with completed := l.completed ++ [request.handle] } := by
  have hstanding := h.standing _ _ hcurrent
  have hpopped := hstanding.dequeued.mp hdequeued
  refine ⟨fun correlation other hlookup => h.keyed _ _ (h.standing_erase hlookup).1, ?_, ?_, ?_,
    h.once, h.sent, ?_, ?_, h.cancelled⟩
  · intro correlation other hlookup
    obtain ⟨hbefore, hne⟩ := h.standing_erase hlookup
    have hother := h.standing _ _ hbefore
    refine ⟨hother.issued, ?_, hother.uncancelled, hother.unanswered, hother.dequeued⟩
    rw [List.mem_append, not_or, List.mem_singleton]
    exact ⟨hother.uncompleted, hne⟩
  · intro handle hmem huncompleted huncancelled
    rw [List.mem_append, not_or, List.mem_singleton] at huncompleted
    exact (h.held handle hmem huncompleted.1 huncancelled).erase hcurrent huncompleted.2
  · intro handle hmem
    refine (h.queued handle hmem).erase hcurrent ?_
    rintro rfl
    have honce := h.once
    rw [respondedTo_append] at honce
    exact (List.nodup_append.mp honce).2.2 _ hpopped _ hmem rfl
  · dsimp only
    rw [List.append_assoc, List.singleton_append]
    refine List.nodup_middle.mpr (List.nodup_cons.mpr ⟨?_, h.ended⟩)
    rw [List.mem_append, not_or]
    exact ⟨hstanding.uncompleted, hstanding.uncancelled⟩
  · intro handle hmem
    rcases List.mem_append.mp hmem with hold | hlast
    · exact h.completed handle hold
    · cases List.mem_singleton.mp hlast
      exact hpopped

theorem cancels (h : Booked pending outbound l)
    (hcurrent : pending.lookup request.handle.correlation = some request)
    (hunanswered : request.responseSequence = none) :
    Booked (pending.erase request.handle.correlation) outbound
      { l with cancelled := l.cancelled ++ [request.handle] } := by
  have hstanding := h.standing _ _ hcurrent
  have hsilent := hstanding.unanswered.mp hunanswered
  refine ⟨fun correlation other hlookup => h.keyed _ _ (h.standing_erase hlookup).1, ?_, ?_, ?_,
    h.once, h.sent, ?_, h.completed, ?_⟩
  · intro correlation other hlookup
    obtain ⟨hbefore, hne⟩ := h.standing_erase hlookup
    have hother := h.standing _ _ hbefore
    refine ⟨hother.issued, hother.uncompleted, ?_, hother.unanswered, hother.dequeued⟩
    rw [List.mem_append, not_or, List.mem_singleton]
    exact ⟨hother.uncancelled, hne⟩
  · intro handle hmem huncompleted huncancelled
    rw [List.mem_append, not_or, List.mem_singleton] at huncancelled
    exact (h.held handle hmem huncompleted huncancelled.1).erase hcurrent huncancelled.2
  · intro handle hmem
    refine (h.queued handle hmem).erase hcurrent ?_
    rintro rfl
    rw [respondedTo_append] at hsilent
    exact hsilent (List.mem_append_right _ hmem)
  · dsimp only
    rw [← List.append_assoc]
    refine h.ended.append (List.nodup_singleton _) (List.disjoint_singleton.mpr ?_)
    rw [List.mem_append, not_or]
    exact ⟨hstanding.uncompleted, hstanding.uncancelled⟩
  · intro handle hmem
    rcases List.mem_append.mp hmem with hold | hlast
    · exact h.cancelled handle hold
    · cases List.mem_singleton.mp hlast
      exact ⟨hstanding.issued, hsilent⟩

end Booked

def ConnectionCall.handle : ConnectionCall → Option RequestHandle
  | .enqueueResponse handle _ | .enqueueOutbound (some handle) _ | .completeRequest handle
  | .cancelRequest handle => some handle
  | _ => none

theorem ConnectionActorConfig.validate_ok {c c' : ConnectionActorConfig} (h : c.validate = .ok c') :
    c' = c ∧ (c.inboundCapacity + c.outboundCapacity) * c.maxFrameBytes ≤
      maxConnectionActorBufferBytes := by
  simp only [validate, bind_ok, require_ok, fetch_ok, fits_some, exists_const] at h
  obtain ⟨-, -, -, -, -, slots, ⟨-, rfl⟩, retained, ⟨-, rfl⟩, hbudget, hresult⟩ := h
  exact ⟨(Except.ok.inj hresult).symm, hbudget⟩

namespace ConnectionActor

variable {a a' : ConnectionActor} {l l' : ConnectionLedger} {call : ConnectionCall}
  {handle : RequestHandle}

def heldBytes (a : ConnectionActor) : Nat :=
  (a.inbound.map (·.payload.length) ++ a.outbound.map (·.payload.length)).sum

structure Bounded (a : ConnectionActor) : Prop where
  budget : (a.config.inboundCapacity + a.config.outboundCapacity) * a.config.maxFrameBytes ≤
    maxConnectionActorBufferBytes
  inbound : a.inbound.length ≤ a.config.inboundCapacity
  outbound : a.outbound.length ≤ a.config.outboundCapacity
  pending : a.pending.keys.card ≤ a.config.pendingCapacity
  received : ∀ frame ∈ a.inbound, frame.payload.length ≤ a.config.maxFrameBytes
  queued : ∀ frame ∈ a.outbound, frame.payload.length ≤ a.config.maxFrameBytes

structure Sequenced (a : ConnectionActor) (l : ConnectionLedger) : Prop where
  writes : Counted (·.sequence) (l.popped ++ a.outbound)
  nextWrite : a.nextWriteSequence = (l.popped ++ a.outbound).length + 1
  requests : Counted (·.admittedAtSequence) l.issued
  nextRequest : a.nextRequestSequence = l.issued.length + 1

structure Sound (a : ConnectionActor) (l : ConnectionLedger) : Prop where
  bounded : a.Bounded
  sequenced : a.Sequenced l
  booked : Booked a.pending a.outbound l
  settled : a.state = .closed → a.inbound = [] ∧ a.outbound = [] ∧ a.pending = ∅

theorem drainConverged_iff : a.drainConverged = true ↔
    a.state = .draining ∧ a.inbound = [] ∧ a.outbound = [] ∧ a.pending = ∅ := by
  simp only [drainConverged, Bool.and_eq_true, beq_iff_eq, List.isEmpty_iff, and_assoc]

theorem keys_markDequeued (a : ConnectionActor) (frame : OutboundFrame) :
    (a.markDequeued frame).keys = a.pending.keys := by
  rw [markDequeued]
  split
  · rfl
  · split
    · rfl
    · next hhandle =>
      obtain ⟨hcurrent, rfl⟩ := requireHandle_ok.mp hhandle
      exact keys_insert_of_mem (mem_of_lookup hcurrent) _

theorem Bounded.moves (h : a.Bounded) (hmoves : Moves a l a' l') : a'.Bounded := by
  cases hmoves with
  | stays => exact h
  | receives frame hopened hsize hroom =>
    refine ⟨h.budget, ?_, h.outbound, h.pending, ?_, h.queued⟩
    · rw [List.length_append, List.length_singleton]
      exact hroom
    · exact List.forall_mem_append.mpr ⟨h.received, List.forall_mem_singleton.mpr hsize⟩
  | takes =>
    refine ⟨h.budget, ?_, h.outbound, h.pending, ?_, h.queued⟩
    · rw [List.length_tail]
      exact (Nat.sub_le _ _).trans h.inbound
    · exact fun frame hmem => h.received frame (List.mem_of_mem_tail hmem)
  | begins correlation hopened hunknown hroom =>
    refine ⟨h.budget, h.inbound, h.outbound, ?_, h.received, h.queued⟩
    rw [withRequest, card_keys_insert hunknown]
    exact hroom
  | responds request payload hunclosed hsize hroom hcurrent =>
    refine ⟨h.budget, h.inbound, ?_, ?_, h.received, ?_⟩
    · rw [withResponse, List.length_append, List.length_singleton]
      exact hroom
    · rw [withResponse, keys_insert_of_mem (mem_of_lookup hcurrent)]
      exact h.pending
    · exact List.forall_mem_append.mpr ⟨h.queued, List.forall_mem_singleton.mpr hsize⟩
  | controls payload hopened hsize hroom =>
    refine ⟨h.budget, h.inbound, ?_, h.pending, h.received, ?_⟩
    · rw [List.length_append, List.length_singleton]
      exact hroom
    · exact List.forall_mem_append.mpr ⟨h.queued, List.forall_mem_singleton.mpr hsize⟩
  | pops frame rest hqueue =>
    have houtbound := h.outbound
    have hqueued := h.queued
    rw [hqueue] at houtbound hqueued
    refine ⟨h.budget, h.inbound, Nat.le_of_succ_le houtbound, ?_, h.received, ?_⟩
    · dsimp only
      rw [keys_markDequeued]
      exact h.pending
    · exact (List.forall_mem_cons.mp hqueued).2
  | completes request hcurrent | cancels request hcurrent =>
    have hfewer := (card_keys_erase (mem_of_lookup hcurrent)).le.trans h.pending
    exact ⟨h.budget, h.inbound, h.outbound, Nat.le_of_succ_le hfewer, h.received, h.queued⟩
  | drains | closes => exact ⟨h.budget, h.inbound, h.outbound, h.pending, h.received, h.queued⟩

theorem Sequenced.sends (h : a.Sequenced l) (frame : OutboundFrame)
    (hframe : frame.sequence = a.nextWriteSequence) :
    Counted (·.sequence) (l.popped ++ (a.outbound ++ [frame])) ∧
      a.nextWriteSequence + 1 = (l.popped ++ (a.outbound ++ [frame])).length + 1 := by
  rw [← List.append_assoc]
  refine ⟨h.writes.snoc (hframe.trans h.nextWrite), ?_⟩
  rw [List.length_append, List.length_singleton, h.nextWrite]

theorem Sequenced.moves (h : a.Sequenced l) (hmoves : Moves a l a' l') : a'.Sequenced l' := by
  cases hmoves with
  | stays => exact h
  | receives | takes | completes | cancels | drains | closes =>
    exact ⟨h.writes, h.nextWrite, h.requests, h.nextRequest⟩
  | begins correlation =>
    refine ⟨h.writes, h.nextWrite, h.requests.snoc h.nextRequest, ?_⟩
    rw [withRequest, List.length_append, List.length_singleton, h.nextRequest]
  | responds request payload =>
    have hsends := h.sends ⟨_, some request.handle.correlation, some request.handle, payload⟩ rfl
    exact ⟨hsends.1, hsends.2, h.requests, h.nextRequest⟩
  | controls payload =>
    have hsends := h.sends ⟨_, none, none, payload⟩ rfl
    exact ⟨hsends.1, hsends.2, h.requests, h.nextRequest⟩
  | pops frame rest hqueue =>
    have hwrites := h.writes
    have hnext := h.nextWrite
    rw [hqueue, ← List.singleton_append, ← List.append_assoc] at hwrites hnext
    exact ⟨hwrites, hnext, h.requests, h.nextRequest⟩

theorem Sequenced.fresh (h : a.Sequenced l) (correlation : CorrelationId) :
    (a.fresh correlation).handle ∉ l.issued := by
  intro hmem
  have hbelow := h.requests.take_mem l.issued.length (a.fresh correlation).handle
    (by rwa [List.take_length])
  rw [ConnectionActor.fresh] at hbelow
  have hnext := h.nextRequest
  dsimp only at hbelow
  omega

theorem booked_pops (h : Booked a.pending a.outbound l) {frame : OutboundFrame}
    {rest : List OutboundFrame} (hqueue : a.outbound = frame :: rest) :
    Booked (a.markDequeued frame) rest { l with popped := l.popped ++ [frame] } := by
  rw [hqueue] at h
  cases hhandle : frame.requestHandle with
  | none =>
    rw [markDequeued, hhandle]
    refine h.pops (fun _ => id) fun correlation request hlookup => ?_
    exact ⟨request, hlookup, rfl, rfl, by simp [hhandle]⟩
  | some handle =>
    obtain ⟨current, hcurrent, rfl⟩ := h.queued handle
      (List.mem_filterMap.mpr ⟨frame, List.mem_cons_self, hhandle⟩)
    rw [markDequeued, hhandle]
    dsimp only
    rw [requireHandle_ok.mpr ⟨hcurrent, rfl⟩]
    refine h.pops (fun _ hholds => hholds.update hcurrent rfl) fun correlation request hlookup => ?_
    rw [lookup_insert_ite] at hlookup
    split at hlookup
    · next heq =>
      cases hlookup
      exact ⟨current, heq ▸ hcurrent, rfl, rfl, by simp [hhandle]⟩
    · next hne =>
      have hother := h.other hlookup hne
      exact ⟨request, hlookup, rfl, rfl, by simp [hhandle, hother.symm]⟩

theorem Sound.booked_moves (h : a.Sound l) (hmoves : Moves a l a' l') :
    Booked a'.pending a'.outbound l' := by
  cases hmoves with
  | stays | receives | takes | drains | closes => exact h.booked
  | begins correlation hopened hunknown =>
    exact h.booked.begins (h.sequenced.fresh correlation) hunknown _
  | responds request payload hunclosed hsize hroom hcurrent hunanswered =>
    exact h.booked.responds hcurrent hunanswered rfl _
  | controls => exact h.booked.controls rfl
  | pops frame rest hqueue => exact booked_pops h.booked hqueue
  | completes request hcurrent hdequeued => exact h.booked.completes hcurrent hdequeued
  | cancels request hcurrent hunanswered => exact h.booked.cancels hcurrent hunanswered

theorem Sound.settled_moves (h : a.Sound l) (hmoves : Moves a l a' l')
    (hclosed : a'.state = .closed) : a'.inbound = [] ∧ a'.outbound = [] ∧ a'.pending = ∅ := by
  cases hmoves with
  | stays => exact h.settled hclosed
  | receives frame hopened | begins correlation hopened | controls payload hopened =>
    exact nomatch hopened.symm.trans hclosed
  | takes =>
    obtain ⟨hinbound, hrest⟩ := h.settled hclosed
    exact ⟨congrArg List.tail hinbound, hrest⟩
  | responds request payload hunclosed => exact absurd hclosed hunclosed
  | pops frame rest hqueue => exact nomatch hqueue.symm.trans (h.settled hclosed).2.1
  | completes request hcurrent | cancels request hcurrent =>
    rw [(h.settled hclosed).2.2] at hcurrent
    cases hcurrent
  | drains => exact nomatch hclosed
  | closes hconverged => exact (drainConverged_iff.mp hconverged).2

theorem Sound.moves (h : a.Sound l) (hmoves : Moves a l a' l') : a'.Sound l' :=
  ⟨h.bounded.moves hmoves, h.sequenced.moves hmoves, h.booked_moves hmoves, h.settled_moves hmoves⟩

theorem Sound.step {entry : ConnectionEntry} (h : a.Sound l)
    (hstep : connectionActors.step a entry a') : a'.Sound (l.record entry.2) := by
  obtain ⟨b, m, hfirst, hsecond⟩ := moves_of_step hstep
  exact (h.moves hfirst).moves hsecond

theorem sound_new (h : connectionActors.init a) : a.Sound .empty := by
  obtain ⟨config, hnew⟩ := h
  simp only [new, bind_ok] at hnew
  obtain ⟨config', hvalid, hresult⟩ := hnew
  obtain ⟨rfl, hbudget⟩ := ConnectionActorConfig.validate_ok hvalid
  cases hresult
  refine ⟨⟨hbudget, Nat.zero_le _, Nat.zero_le _, Nat.zero_le _, List.forall_mem_nil _,
    List.forall_mem_nil _⟩, ⟨rfl, rfl, rfl, rfl⟩, .empty, nofun⟩

theorem sound_run {fresh : ConnectionActor} {entries : List ConnectionEntry}
    (hinit : connectionActors.init fresh) (hrun : Run connectionActors fresh entries a) :
    a.Sound (.of entries) := by
  induction hrun with
  | nil => exact sound_new hinit
  | @snoc _ _ entries entry _ hstep ih =>
    rw [ConnectionLedger.of_snoc]
    exact ih.step hstep

theorem Bounded.bytes (h : a.Bounded) : a.heldBytes ≤ maxConnectionActorBufferBytes := by
  have hsum : a.heldBytes ≤ (a.inbound.map (·.payload.length) ++
      a.outbound.map (·.payload.length)).length • a.config.maxFrameBytes := by
    refine List.sum_le_card_nsmul _ _ (List.forall_mem_append.mpr ⟨?_, ?_⟩)
    · exact List.forall_mem_map.mpr h.received
    · exact List.forall_mem_map.mpr h.queued
  rw [Nat.nsmul_eq_mul, List.length_append, List.length_map, List.length_map] at hsum
  exact hsum.trans ((Nat.mul_le_mul_right _ (Nat.add_le_add h.inbound h.outbound)).trans h.budget)

theorem holds_of_requireHandle {request : PendingRequest}
    (h : a.requireHandle handle = .ok request) : Holds a.pending handle := by
  obtain ⟨hcurrent, rfl⟩ := requireHandle_ok.mp h
  exact ⟨request, hcurrent, rfl⟩

theorem perform_holds {result : ConnectionReply × ConnectionActor}
    (hhandle : call.handle = some handle) (h : a.perform call = .ok result) :
    Holds a.pending handle := by
  unfold ConnectionCall.handle at hhandle
  split at hhandle
  any_goals
    cases hhandle
    obtain ⟨ended, hended, -⟩ := map_ok.mp h
  · exact holds_of_requireHandle (enqueueResponse_ok hended).choose_spec.1
  · exact holds_of_requireHandle (enqueueResponse_ok hended).choose_spec.1
  · exact holds_of_requireHandle (completeRequest_ok hended).1
  · exact holds_of_requireHandle (cancelRequest_ok hended).1
  · cases hhandle

theorem answer_refused (hhandle : call.handle = some handle) (hdead : ¬ Holds a.pending handle) :
    ∃ error, a.answer call = (.error error, a) := by
  cases hperform : a.perform call with
  | error error => exact ⟨error, by rw [answer, hperform]⟩
  | ok result => exact absurd (perform_holds hhandle hperform) hdead

structure ConnectionLaw (a : ConnectionActor) (l : ConnectionLedger) : Prop where
  numbered : l.popped.map (·.sequence) = List.range' 1 l.popped.length
  issued_once : l.issued.Nodup
  issued : ∀ handle, handle ∈ l.issued ↔
    Holds a.pending handle ∨ handle ∈ l.completed ++ l.cancelled
  ended : ∀ handle ∈ l.completed ++ l.cancelled, ¬ Holds a.pending handle
  ended_once : (l.completed ++ l.cancelled).Nodup
  answered_once : (respondedTo (l.popped ++ a.outbound)).Nodup
  sent_issued : ∀ handle ∈ respondedTo (l.popped ++ a.outbound), handle ∈ l.issued
  completed : ∀ handle ∈ l.completed, handle ∈ respondedTo l.popped
  cancelled : ∀ handle ∈ l.cancelled, handle ∉ respondedTo (l.popped ++ a.outbound)
  refused : ∀ call handle, call.handle = some handle → ¬ Holds a.pending handle →
    ∃ error, a.answer call = (.error error, a)
  queued : ∀ frame ∈ a.outbound, ∀ handle, frame.requestHandle = some handle →
    Holds a.pending handle
  bounds : a.inbound.length ≤ a.config.inboundCapacity ∧
    a.outbound.length ≤ a.config.outboundCapacity ∧
    a.pending.keys.card ≤ a.config.pendingCapacity
  frames : (∀ frame ∈ a.inbound, frame.payload.length ≤ a.config.maxFrameBytes) ∧
    ∀ frame ∈ a.outbound, frame.payload.length ≤ a.config.maxFrameBytes
  bytes : a.heldBytes ≤ maxConnectionActorBufferBytes
  closed : a.state = .closed → ∀ handle ∈ l.issued, handle ∈ l.completed ++ l.cancelled

theorem Sound.ended_gone (h : a.Sound l) (hended : handle ∈ l.completed ++ l.cancelled) :
    ¬ Holds a.pending handle := by
  rintro ⟨request, hlookup, rfl⟩
  have hstanding := h.booked.standing _ _ hlookup
  rcases List.mem_append.mp hended with hcompleted | hcancelled
  · exact hstanding.uncompleted hcompleted
  · exact hstanding.uncancelled hcancelled

theorem Sound.issued_iff (h : a.Sound l) : handle ∈ l.issued ↔
    Holds a.pending handle ∨ handle ∈ l.completed ++ l.cancelled := by
  constructor
  · intro hissued
    rw [or_iff_not_imp_right, List.mem_append, not_or]
    rintro ⟨huncompleted, huncancelled⟩
    exact h.booked.held handle hissued huncompleted huncancelled
  · rintro (⟨request, hlookup, rfl⟩ | hended)
    · exact (h.booked.standing _ _ hlookup).issued
    · rcases List.mem_append.mp hended with hcompleted | hcancelled
      · exact h.booked.completed_issued hcompleted
      · exact (h.booked.cancelled _ hcancelled).1

theorem connection_answers_once {fresh : ConnectionActor} {entries : List ConnectionEntry}
    (hinit : connectionActors.init fresh) (hrun : Run connectionActors fresh entries a) :
    ConnectionLaw a (.of entries) := by
  have h := sound_run hinit hrun
  refine ⟨h.sequenced.writes.left, h.sequenced.requests.nodup, fun _ => h.issued_iff,
    fun _ => h.ended_gone, h.booked.ended, h.booked.once, fun _ => h.booked.answered_issued,
    h.booked.completed, fun _ hmem => (h.booked.cancelled _ hmem).2,
    fun _ _ => answer_refused, ?_, ?_, ⟨h.bounded.received, h.bounded.queued⟩, h.bounded.bytes, ?_⟩
  · intro frame hmem handle hhandle
    exact h.booked.queued handle (List.mem_filterMap.mpr ⟨frame, hmem, hhandle⟩)
  · exact ⟨h.bounded.inbound, h.bounded.outbound, h.bounded.pending⟩
  · intro hclosed handle hissued
    refine (h.issued_iff.mp hissued).resolve_left ?_
    rintro ⟨request, hlookup, -⟩
    rw [(h.settled hclosed).2.2] at hlookup
    cases hlookup

def sampleActor (maxFrameBytes : Nat) : ConnectionActor :=
  ⟨⟨2, 2, 2, maxFrameBytes⟩, .opened, 1, 1, [], [], ∅⟩

def sampleCorrelation : CorrelationId := ⟨9, by decide⟩

def sampleEntry : ConnectionEntry :=
  (.beginRequest sampleCorrelation, .ok (.begun ⟨⟨sampleCorrelation, 1⟩, 1, none, false⟩))

def sampleBusy (maxFrameBytes : Nat) : ConnectionActor :=
  (sampleActor maxFrameBytes).withRequest sampleCorrelation

theorem sample_init :
    connectionActors.init (sampleActor 8) ∧ connectionActors.init (sampleActor 9) :=
  ⟨⟨⟨2, 2, 2, 8⟩, by decide⟩, ⟨⟨2, 2, 2, 9⟩, by decide⟩⟩

def secondCorrelation : CorrelationId := ⟨10, by decide⟩

def sampleCalls : List ConnectionCall :=
  [.beginRequest sampleCorrelation, .beginRequest secondCorrelation,
    .enqueueResponse ⟨sampleCorrelation, 1⟩ [1], .popOutbound,
    .completeRequest ⟨sampleCorrelation, 1⟩, .cancelRequest ⟨secondCorrelation, 2⟩,
    .beginRequest sampleCorrelation, .completeRequest ⟨sampleCorrelation, 1⟩,
    .enqueueResponse ⟨sampleCorrelation, 3⟩ [2], .popOutbound]

def sampleRun : List ConnectionEntry × ConnectionActor := trace answer (sampleActor 8) sampleCalls

theorem connection_answers_once_sample :
    ConnectionLaw sampleRun.2 (.of sampleRun.1) ∧
      (ConnectionLedger.of sampleRun.1).issued =
        [⟨sampleCorrelation, 1⟩, ⟨secondCorrelation, 2⟩, ⟨sampleCorrelation, 3⟩] ∧
      (ConnectionLedger.of sampleRun.1).completed = [⟨sampleCorrelation, 1⟩] ∧
      (ConnectionLedger.of sampleRun.1).cancelled = [⟨secondCorrelation, 2⟩] ∧
      (ConnectionLedger.of sampleRun.1).popped.map (·.sequence) = [1, 2] ∧
      ∃ error, sampleRun.2.answer (.completeRequest ⟨sampleCorrelation, 1⟩) =
        (.error error, sampleRun.2) := by
  have hrun : Run connectionActors (sampleActor 8) sampleRun.1 sampleRun.2 :=
    trace_run (fun _ _ => rfl) (sampleActor 8) sampleCalls
  have hlaw := connection_answers_once sample_init.1 hrun
  refine ⟨hlaw, rfl, rfl, rfl, rfl, hlaw.refused _ _ rfl (hlaw.ended _ ?_)⟩
  exact List.mem_append_left _ List.mem_cons_self

theorem foreign_handle_cancels :
    connectionActors.init (sampleActor 8) ∧ connectionActors.init (sampleActor 9) ∧
      Run connectionActors (sampleActor 8) [sampleEntry] (sampleBusy 8) ∧
      Run connectionActors (sampleActor 9) [sampleEntry] (sampleBusy 9) ∧
      (ConnectionLedger.of [sampleEntry]).issued = [⟨sampleCorrelation, 1⟩] ∧
      ((sampleBusy 8).answer (.cancelRequest ⟨sampleCorrelation, 1⟩)).2 ≠ sampleBusy 8 :=
  ⟨sample_init.1, sample_init.2, .single rfl, .single rfl, rfl, by decide⟩

end ConnectionActor

end Presence
