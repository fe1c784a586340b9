import TrillionniumGame.Foundation.FiniteMap
import TrillionniumGame.Foundation.Runs
import TrillionniumGame.Foundation.Words

namespace Presence
open Checks FiniteMap Words

def maxConnectionActorQueueItems : Nat := 65536
def maxConnectionActorFrameBytes : Nat := 4 * 1024 * 1024
def maxConnectionActorBufferBytes : Nat := 64 * 1024 * 1024

structure CorrelationId where
  value : UInt64
  positive : value ≠ 0
  deriving DecidableEq

structure RequestHandle where
  correlation : CorrelationId
  admittedAtSequence : Nat
  deriving DecidableEq

structure ConnectionActorConfig where
  inboundCapacity : Nat
  outboundCapacity : Nat
  pendingCapacity : Nat
  maxFrameBytes : Nat
  deriving DecidableEq

inductive ConnectionActorState where
  | opened | draining | closed
  deriving DecidableEq

structure InboundFrame where
  correlation : Option CorrelationId
  payload : List UInt8
  deriving DecidableEq

structure OutboundFrame where
  sequence : Nat
  correlation : Option CorrelationId
  requestHandle : Option RequestHandle
  payload : List UInt8
  deriving DecidableEq

structure PendingRequest where
  handle : RequestHandle
  admittedAtSequence : Nat
  responseSequence : Option Nat
  responseDequeued : Bool
  deriving DecidableEq

inductive ConnectionActorError where
  | invalidCapacity (field : String)
  | capacityTooLarge (field : String) (value maximum : Nat)
  | bufferBudgetOverflow
  | bufferBudgetExceeded (requested maximum : Nat)
  | zeroCorrelationId
  | frameTooLarge (limit actual : Nat)
  | inboundQueueFull (capacity : Nat)
  | outboundQueueFull (capacity : Nat)
  | pendingQueueFull (capacity : Nat)
  | duplicateCorrelation (correlation : CorrelationId)
  | unknownCorrelation (correlation : CorrelationId)
  | staleRequestHandle (correlation : CorrelationId)
      (currentAdmittedAtSequence receivedAdmittedAtSequence : Nat)
  | responseAlreadyQueued (correlation : CorrelationId)
  | responseNotDequeued (correlation : CorrelationId)
  | cannotCancelQueuedResponse (correlation : CorrelationId)
  | draining
  | closed
  | requestSequenceExhausted
  | writeSequenceExhausted
  | mustDrainBeforeClose
  | cannotCloseWithPendingWork
  deriving DecidableEq

def ConnectionActorConfig.validate (c : ConnectionActorConfig) :
    Except ConnectionActorError ConnectionActorConfig := do
  let queues := [("inbound_capacity", c.inboundCapacity), ("outbound_capacity", c.outboundCapacity),
    ("pending_capacity", c.pendingCapacity)]
  (queues ++ [("max_frame_bytes", c.maxFrameBytes)]).forM fun (field, value) =>
    require (value ≠ 0) (.invalidCapacity field)
  queues.forM fun (field, value) =>
    require (value ≤ maxConnectionActorQueueItems)
      (.capacityTooLarge field value maxConnectionActorQueueItems)
  require (c.maxFrameBytes ≤ maxConnectionActorFrameBytes)
    (.capacityTooLarge "max_frame_bytes" c.maxFrameBytes maxConnectionActorFrameBytes)
  let queueSlots ← fetch (fits 64 (c.inboundCapacity + c.outboundCapacity)) .bufferBudgetOverflow
  let retainedBytes ← fetch (fits 64 (queueSlots * c.maxFrameBytes)) .bufferBudgetOverflow
  require (retainedBytes ≤ maxConnectionActorBufferBytes)
    (.bufferBudgetExceeded retainedBytes maxConnectionActorBufferBytes)
  return c

structure ConnectionActor where
  config : ConnectionActorConfig
  state : ConnectionActorState
  nextRequestSequence : Nat
  nextWriteSequence : Nat
  inbound : List InboundFrame
  outbound : List OutboundFrame
  pending : Dict CorrelationId PendingRequest
  deriving DecidableEq

namespace ConnectionActor

def new (config : ConnectionActorConfig) : Except ConnectionActorError ConnectionActor := do
  let config ← config.validate
  return ⟨config, .opened, 1, 1, [], [], ∅⟩

variable (a : ConnectionActor)

def drainConverged : Bool :=
  a.state == .draining && a.inbound.isEmpty && a.outbound.isEmpty && a.pending == ∅

def requireOpen : Except ConnectionActorError Unit :=
  match a.state with
  | .opened => .ok ()
  | .draining => .error .draining
  | .closed => .error .closed

def requireNotClosed : Except ConnectionActorError Unit :=
  require (a.state ≠ .closed) .closed

def requireFrameSize (actual : Nat) : Except ConnectionActorError Unit :=
  require (actual ≤ a.config.maxFrameBytes) (.frameTooLarge a.config.maxFrameBytes actual)

def requireOutboundCapacity : Except ConnectionActorError Unit :=
  require (a.outbound.length < a.config.outboundCapacity)
    (.outboundQueueFull a.config.outboundCapacity)

variable (correlation : CorrelationId)

def requireRequestCapacity : Except ConnectionActorError Unit := do
  a.requireOpen
  require (correlation ∉ a.pending) (.duplicateCorrelation correlation)
  require (a.pending.keys.card < a.config.pendingCapacity)
    (.pendingQueueFull a.config.pendingCapacity)

variable (handle : RequestHandle)

def requireHandle : Except ConnectionActorError PendingRequest := do
  let current ← fetch (a.pending.lookup handle.correlation) (.unknownCorrelation handle.correlation)
  require (current.handle = handle) (.staleRequestHandle handle.correlation
    current.handle.admittedAtSequence handle.admittedAtSequence)
  return current

def enqueueInbound (frame : InboundFrame) : Except ConnectionActorError ConnectionActor := do
  a.requireOpen
  a.requireFrameSize frame.payload.length
  require (a.inbound.length < a.config.inboundCapacity)
    (.inboundQueueFull a.config.inboundCapacity)
  return { a with inbound := a.inbound ++ [frame] }

def popInbound : Option InboundFrame × ConnectionActor :=
  (a.inbound.head?, { a with inbound := a.inbound.tail })

def beginRequest :
    Except ConnectionActorError (PendingRequest × ConnectionActor) := do
  a.requireRequestCapacity correlation
  let admittedAtSequence := a.nextRequestSequence
  let nextRequestSequence ← fetch (fits 64 (admittedAtSequence + 1)) .requestSequenceExhausted
  let request : PendingRequest :=
    ⟨⟨correlation, admittedAtSequence⟩, admittedAtSequence, none, false⟩
  return (request, { a with
    pending := a.pending.insert correlation request
    nextRequestSequence })

variable (payload : List UInt8)

def admitImmediateResponse :
    Except ConnectionActorError (PendingRequest × ConnectionActor) := do
  a.requireRequestCapacity correlation
  a.requireOutboundCapacity
  a.requireFrameSize payload.length
  let admittedAtSequence := a.nextRequestSequence
  let nextRequestSequence ← fetch (fits 64 (admittedAtSequence + 1)) .requestSequenceExhausted
  let responseSequence := a.nextWriteSequence
  let nextWriteSequence ← fetch (fits 64 (responseSequence + 1)) .writeSequenceExhausted
  let handle : RequestHandle := ⟨correlation, admittedAtSequence⟩
  let request : PendingRequest := ⟨handle, admittedAtSequence, some responseSequence, false⟩
  return (request, { a with
    pending := a.pending.insert correlation request
    outbound := a.outbound ++ [⟨responseSequence, some correlation, some handle, payload⟩]
    nextRequestSequence
    nextWriteSequence })

def enqueueResponse :
    Except ConnectionActorError (Nat × ConnectionActor) := do
  a.requireNotClosed
  a.requireFrameSize payload.length
  a.requireOutboundCapacity
  let correlation := handle.correlation
  let current ← a.requireHandle handle
  require (current.responseSequence = none) (.responseAlreadyQueued correlation)
  let sequence := a.nextWriteSequence
  let nextWriteSequence ← fetch (fits 64 (sequence + 1)) .writeSequenceExhausted
  return (sequence, { a with
    outbound := a.outbound ++ [⟨sequence, some correlation, some handle, payload⟩]
    pending := a.pending.insert correlation { current with responseSequence := some sequence }
    nextWriteSequence })

def enqueueControl :
    Except ConnectionActorError (Nat × ConnectionActor) := do
  a.requireOpen
  a.requireFrameSize payload.length
  a.requireOutboundCapacity
  let sequence := a.nextWriteSequence
  let nextWriteSequence ← fetch (fits 64 (sequence + 1)) .writeSequenceExhausted
  return (sequence, { a with
    outbound := a.outbound ++ [⟨sequence, none, none, payload⟩]
    nextWriteSequence })

def enqueueOutbound (request : Option RequestHandle) (payload : List UInt8) :
    Except ConnectionActorError (Nat × ConnectionActor) :=
  match request with
  | some handle => a.enqueueResponse handle payload
  | none => a.enqueueControl payload

def markDequeued (frame : OutboundFrame) : Dict CorrelationId PendingRequest :=
  match frame.requestHandle with
  | none => a.pending
  | some handle =>
    match a.requireHandle handle with
    | .error _ => a.pending
    | .ok current => a.pending.insert handle.correlation { current with responseDequeued := true }

def popOutbound : Option OutboundFrame × ConnectionActor :=
  match a.outbound with
  | [] => (none, a)
  | frame :: rest => (some frame, { a with outbound := rest, pending := a.markDequeued frame })

def completeRequest :
    Except ConnectionActorError (PendingRequest × ConnectionActor) := do
  let current ← a.requireHandle handle
  require (current.responseDequeued = true) (.responseNotDequeued handle.correlation)
  return (current, { a with pending := a.pending.erase handle.correlation })

def cancelRequest :
    Except ConnectionActorError (PendingRequest × ConnectionActor) := do
  let current ← a.requireHandle handle
  require (current.responseSequence = none) (.cannotCancelQueuedResponse handle.correlation)
  return (current, { a with pending := a.pending.erase handle.correlation })

def beginDrain : Except ConnectionActorError ConnectionActor :=
  match a.state with
  | .opened => .ok { a with state := .draining }
  | .draining => .ok a
  | .closed => .error .closed

def close : Except ConnectionActorError ConnectionActor :=
  match a.state with
  | .opened => .error .mustDrainBeforeClose
  | .closed => .ok a
  | .draining =>
    if a.drainConverged then .ok { a with state := .closed } else .error .cannotCloseWithPendingWork

end ConnectionActor

inductive ConnectionCall where
  | enqueueInbound (frame : InboundFrame)
  | popInbound
  | beginRequest (correlation : CorrelationId)
  | admitImmediateResponse (correlation : CorrelationId) (payload : List UInt8)
  | enqueueResponse (handle : RequestHandle) (payload : List UInt8)
  | enqueueControl (payload : List UInt8)
  | enqueueOutbound (request : Option RequestHandle) (payload : List UInt8)
  | popOutbound
  | completeRequest (handle : RequestHandle)
  | cancelRequest (handle : RequestHandle)
  | beginDrain
  | close

inductive ConnectionReply where
  | accepted
  | received (frame : Option InboundFrame)
  | begun (request : PendingRequest)
  | queued (sequence : Nat)
  | popped (frame : Option OutboundFrame)
  | completed (request : PendingRequest)
  | cancelled (request : PendingRequest)

namespace ConnectionActor

def perform (a : ConnectionActor) :
    ConnectionCall → Except ConnectionActorError (ConnectionReply × ConnectionActor)
  | .enqueueInbound frame => (a.enqueueInbound frame).map (.accepted, ·)
  | .popInbound => .ok (a.popInbound.map .received id)
  | .beginRequest correlation => (a.beginRequest correlation).map (·.map .begun id)
  | .admitImmediateResponse correlation payload =>
    (a.admitImmediateResponse correlation payload).map (·.map .begun id)
  | .enqueueResponse handle payload => (a.enqueueResponse handle payload).map (·.map .queued id)
  | .enqueueControl payload => (a.enqueueControl payload).map (·.map .queued id)
  | .enqueueOutbound request payload => (a.enqueueOutbound request payload).map (·.map .queued id)
  | .popOutbound => .ok (a.popOutbound.map .popped id)
  | .completeRequest handle => (a.completeRequest handle).map (·.map .completed id)
  | .cancelRequest handle => (a.cancelRequest handle).map (·.map .cancelled id)
  | .beginDrain => a.beginDrain.map (.accepted, ·)
  | .close => a.close.map (.accepted, ·)

-- Every check of an operation comes before its first write: a refusal leaves the actor as it was.
def answer (a : ConnectionActor) (call : ConnectionCall) :
    Except ConnectionActorError ConnectionReply × ConnectionActor :=
  match a.perform call with
  | .error error => (.error error, a)
  | .ok (reply, next) => (.ok reply, next)

end ConnectionActor

open Runs

abbrev ConnectionEntry := ConnectionCall × Except ConnectionActorError ConnectionReply

def connectionActors : System ConnectionActor ConnectionEntry where
  init a := ∃ config, ConnectionActor.new config = .ok a
  step a entry a' := a.answer entry.1 = (entry.2, a')

structure ConnectionLedger where
  issued : List RequestHandle
  completed : List RequestHandle
  cancelled : List RequestHandle
  popped : List OutboundFrame

namespace ConnectionLedger

def empty : ConnectionLedger := ⟨[], [], [], []⟩

def record (l : ConnectionLedger) : Except ConnectionActorError ConnectionReply → ConnectionLedger
  | .ok (.begun request) => { l with issued := l.issued ++ [request.handle] }
  | .ok (.completed request) => { l with completed := l.completed ++ [request.handle] }
  | .ok (.cancelled request) => { l with cancelled := l.cancelled ++ [request.handle] }
  | .ok (.popped (some frame)) => { l with popped := l.popped ++ [frame] }
  | _ => l

def of (entries : List ConnectionEntry) : ConnectionLedger :=
  entries.foldl (fun l entry => l.record entry.2) empty

theorem of_snoc (entries : List ConnectionEntry) (entry : ConnectionEntry) :
    of (entries ++ [entry]) = (of entries).record entry.2 := List.foldl_concat _ _ _ _

end ConnectionLedger

namespace ConnectionActor

variable {a a' : ConnectionActor} {l : ConnectionLedger} {call : ConnectionCall}
  {handle : RequestHandle} {request : PendingRequest} {correlation : CorrelationId}
  {payload : List UInt8}

def withResponse (a : ConnectionActor) (request : PendingRequest) (payload : List UInt8) :
    ConnectionActor :=
  { a with
    outbound := a.outbound ++
      [⟨a.nextWriteSequence, some request.handle.correlation, some request.handle, payload⟩]
    pending := a.pending.insert request.handle.correlation
      { request with responseSequence := some a.nextWriteSequence }
    nextWriteSequence := a.nextWriteSequence + 1 }

def fresh (a : ConnectionActor) (correlation : CorrelationId) : PendingRequest :=
  ⟨⟨correlation, a.nextRequestSequence⟩, a.nextRequestSequence, none, false⟩

def withRequest (a : ConnectionActor) (correlation : CorrelationId) : ConnectionActor :=
  { a with
    pending := a.pending.insert correlation (a.fresh correlation)
    nextRequestSequence := a.nextRequestSequence + 1 }

def without (a : ConnectionActor) (handle : RequestHandle) : ConnectionActor :=
  { a with pending := a.pending.erase handle.correlation }

inductive Moves (a : ConnectionActor) (l : ConnectionLedger) :
    ConnectionActor → ConnectionLedger → Prop
  | stays : Moves a l a l
  | receives (frame : InboundFrame) (hopened : a.state = .opened)
      (hsize : frame.payload.length ≤ a.config.maxFrameBytes)
      (hroom : a.inbound.length < a.config.inboundCapacity) :
      Moves a l { a with inbound := a.inbound ++ [frame] } l
  | takes : Moves a l { a with inbound := a.inbound.tail } l
  | begins (correlation : CorrelationId) (hopened : a.state = .opened)
      (hunknown : correlation ∉ a.pending)
      (hroom : a.pending.keys.card < a.config.pendingCapacity) :
      Moves a l (a.withRequest correlation)
        { l with issued := l.issued ++ [(a.fresh correlation).handle] }
  | responds (request : PendingRequest) (payload : List UInt8) (hunclosed : a.state ≠ .closed)
      (hsize : payload.length ≤ a.config.maxFrameBytes)
      (hroom : a.outbound.length < a.config.outboundCapacity)
      (hcurrent : a.pending.lookup request.handle.correlation = some request)
      (hunanswered : request.responseSequence = none) :
      Moves a l (a.withResponse request payload) l
  | controls (payload : List UInt8) (hopened : a.state = .opened)
      (hsize : payload.length ≤ a.config.maxFrameBytes)
      (hroom : a.outbound.length < a.config.outboundCapacity) :
      Moves a l { a with
        outbound := a.outbound ++ [⟨a.nextWriteSequence, none, none, payload⟩]
        nextWriteSequence := a.nextWriteSequence + 1 } l
  | pops (frame : OutboundFrame) (rest : List OutboundFrame) (hqueue : a.outbound = frame :: rest) :
      Moves a l { a with outbound := rest, pending := a.markDequeued frame }
        { l with popped := l.popped ++ [frame] }
  | completes (request : PendingRequest)
      (hcurrent : a.pending.lookup request.handle.correlation = some request)
      (hdequeued : request.responseDequeued = true) :
      Moves a l (a.without request.handle)
        { l with completed := l.completed ++ [request.handle] }
  | cancels (request : PendingRequest)
      (hcurrent : a.pending.lookup request.handle.correlation = some request)
      (hunanswered : request.responseSequence = none) :
      Moves a l (a.without request.handle)
        { l with cancelled := l.cancelled ++ [request.handle] }
  | drains (hopened : a.state = .opened) : Moves a l { a with state := .draining } l
  | closes (hconverged : a.drainConverged = true) : Moves a l { a with state := .closed } l

theorem requireOpen_ok {u : Unit} : a.requireOpen = .ok u ↔ a.state = .opened := by
  rw [requireOpen]
  split
  · next hstate => exact iff_of_true rfl hstate
  · next hstate => simp [hstate]
  · next hstate => simp [hstate]

theorem requireHandle_ok : a.requireHandle handle = .ok request ↔
    a.pending.lookup request.handle.correlation = some request ∧ request.handle = handle := by
  simp only [requireHandle, bind_ok, fetch_ok, require_ok, exists_const]
  constructor
  · rintro ⟨current, hlookup, rfl, hresult⟩
    cases hresult
    exact ⟨hlookup, rfl⟩
  · rintro ⟨hlookup, rfl⟩
    exact ⟨request, hlookup, rfl, rfl⟩

theorem popOutbound_nil (hqueue : a.outbound = []) : a.popOutbound = (none, a) := by
  rw [popOutbound.eq_def, hqueue]

theorem popOutbound_cons {frame : OutboundFrame} {rest : List OutboundFrame}
    (hqueue : a.outbound = frame :: rest) : a.popOutbound =
      (some frame, { a with outbound := rest, pending := a.markDequeued frame }) := by
  rw [popOutbound.eq_def, hqueue]

theorem beginRequest_ok (h : a.beginRequest correlation = .ok (request, a'))
    (l : ConnectionLedger) : Moves a l a' { l with issued := l.issued ++ [request.handle] } := by
  simp only [beginRequest, requireRequestCapacity, bind_ok, require_ok, requireOpen_ok, fetch_ok,
    fits_some, exists_const] at h
  obtain ⟨⟨hopened, hunknown, hroom⟩, _, ⟨-, rfl⟩, hresult⟩ := h
  cases hresult
  exact .begins correlation hopened hunknown hroom

variable {sequence : Nat}

theorem enqueueResponse_ok (h : a.enqueueResponse handle payload = .ok (sequence, a')) :
    ∃ request, a.requireHandle handle = .ok request ∧ request.responseSequence = none ∧
      a' = a.withResponse request payload ∧ ∀ l, Moves a l a' l := by
  simp only [enqueueResponse, requireNotClosed, requireFrameSize, requireOutboundCapacity, bind_ok,
    require_ok, fetch_ok, fits_some, exists_const] at h
  obtain ⟨hunclosed, hsize, hroom, request, hhandle, hunanswered, _, ⟨-, rfl⟩, hresult⟩ := h
  cases hresult
  obtain ⟨hcurrent, rfl⟩ := requireHandle_ok.mp hhandle
  exact ⟨request, hhandle, hunanswered, rfl, fun l =>
    .responds request payload hunclosed hsize hroom hcurrent hunanswered⟩

theorem enqueueControl_ok (h : a.enqueueControl payload = .ok (sequence, a'))
    (l : ConnectionLedger) : Moves a l a' l := by
  simp only [enqueueControl, requireFrameSize, requireOutboundCapacity, bind_ok, require_ok,
    requireOpen_ok, fetch_ok, fits_some, exists_const] at h
  obtain ⟨hopened, hsize, hroom, _, ⟨-, rfl⟩, hresult⟩ := h
  cases hresult
  exact .controls payload hopened hsize hroom

theorem enqueueOutbound_ok {given : Option RequestHandle}
    (h : a.enqueueOutbound given payload = .ok (sequence, a')) (l : ConnectionLedger) :
    Moves a l a' l := by
  cases given with
  | none => exact enqueueControl_ok h l
  | some handle =>
    obtain ⟨request, -, -, -, hmoves⟩ := enqueueResponse_ok h
    exact hmoves l

theorem admitImmediateResponse_ok
    (h : a.admitImmediateResponse correlation payload = .ok (request, a')) (l : ConnectionLedger) :
    Moves a l (a.withRequest correlation) { l with issued := l.issued ++ [request.handle] } ∧
      Moves (a.withRequest correlation) { l with issued := l.issued ++ [request.handle] } a'
        { l with issued := l.issued ++ [request.handle] } := by
  simp only [admitImmediateResponse, requireRequestCapacity, requireFrameSize,
    requireOutboundCapacity, bind_ok, require_ok, requireOpen_ok, fetch_ok, fits_some,
    exists_const] at h
  obtain ⟨⟨hopened, hunknown, hpending⟩, houtbound, hsize, _, ⟨-, rfl⟩, _, ⟨-, rfl⟩, hresult⟩ := h
  obtain ⟨rfl, hactor⟩ := ok_inj hresult
  have hanswered : a' = (a.withRequest correlation).withResponse (a.fresh correlation) payload := by
    rw [← hactor, withResponse, withRequest, ConnectionActor.mk.injEq]
    exact ⟨rfl, rfl, rfl, rfl, rfl, rfl, (Finmap.insert_insert _).symm⟩
  refine ⟨.begins correlation hopened hunknown hpending, ?_⟩
  rw [hanswered]
  exact .responds _ payload (hopened ▸ nofun) hsize houtbound (Finmap.lookup_insert _) rfl

theorem completeRequest_ok (h : a.completeRequest handle = .ok (request, a')) :
    a.requireHandle handle = .ok request ∧ a' = a.without request.handle ∧
      ∀ l, Moves a l a' { l with completed := l.completed ++ [request.handle] } := by
  simp only [completeRequest, bind_ok, require_ok, exists_const] at h
  obtain ⟨current, hhandle, hdequeued, hresult⟩ := h
  obtain ⟨rfl, rfl⟩ := ok_inj hresult
  obtain ⟨hcurrent, rfl⟩ := requireHandle_ok.mp hhandle
  exact ⟨hhandle, rfl, fun l => .completes current hcurrent hdequeued⟩

theorem cancelRequest_ok (h : a.cancelRequest handle = .ok (request, a')) :
    a.requireHandle handle = .ok request ∧ a' = a.without request.handle ∧
      ∀ l, Moves a l a' { l with cancelled := l.cancelled ++ [request.handle] } := by
  simp only [cancelRequest, bind_ok, require_ok, exists_const] at h
  obtain ⟨current, hhandle, hunanswered, hresult⟩ := h
  obtain ⟨rfl, rfl⟩ := ok_inj hresult
  obtain ⟨hcurrent, rfl⟩ := requireHandle_ok.mp hhandle
  exact ⟨hhandle, rfl, fun l => .cancels current hcurrent hunanswered⟩

theorem enqueueInbound_ok {frame : InboundFrame} (h : a.enqueueInbound frame = .ok a')
    (l : ConnectionLedger) : Moves a l a' l := by
  simp only [enqueueInbound, requireFrameSize, bind_ok, require_ok, requireOpen_ok,
    exists_const] at h
  obtain ⟨hopened, hsize, hroom, hresult⟩ := h
  cases hresult
  exact .receives frame hopened hsize hroom

theorem beginDrain_ok (h : a.beginDrain = .ok a') (l : ConnectionLedger) : Moves a l a' l := by
  rw [beginDrain] at h
  split at h
  · next hopened =>
    cases h
    exact .drains hopened
  · cases h
    exact .stays
  · cases h

theorem close_ok (h : a.close = .ok a') (l : ConnectionLedger) : Moves a l a' l := by
  rw [close] at h
  split at h
  · cases h
  · cases h
    exact .stays
  · split at h
    · next hconverged =>
      cases h
      exact .closes hconverged
    · cases h

theorem answer_error {error : ConnectionActorError} (h : a.answer call = (.error error, a')) :
    a.perform call = .error error ∧ a' = a := by
  rw [answer] at h
  split at h
  · next hperform =>
    obtain ⟨herror, rfl⟩ := Prod.mk.inj h
    exact ⟨Except.error.inj herror ▸ hperform, rfl⟩
  · cases (Prod.mk.inj h).1

variable {reply : ConnectionReply}

theorem answer_ok (h : a.answer call = (.ok reply, a')) : a.perform call = .ok (reply, a') := by
  rw [answer] at h
  split at h
  · cases (Prod.mk.inj h).1
  · next hperform =>
    obtain ⟨hreply, rfl⟩ := Prod.mk.inj h
    exact Except.ok.inj hreply ▸ hperform

theorem replied {α : Type} {x : Except ConnectionActorError (α × ConnectionActor)}
    {f : α → ConnectionReply} (h : x.map (·.map f id) = .ok (reply, a')) :
    ∃ result, x = .ok (result, a') ∧ f result = reply := by
  obtain ⟨⟨result, next⟩, hx, hresult⟩ := map_ok.mp h
  obtain ⟨hreply, rfl⟩ := Prod.mk.inj hresult
  exact ⟨result, hx, hreply⟩

theorem replied_accepted {x : Except ConnectionActorError ConnectionActor}
    (h : x.map (ConnectionReply.accepted, ·) = .ok (reply, a')) :
    x = .ok a' ∧ .accepted = reply := by
  obtain ⟨next, hx, hresult⟩ := map_ok.mp h
  obtain ⟨hreply, rfl⟩ := Prod.mk.inj hresult
  exact ⟨hx, hreply⟩

theorem perform_ok (h : a.perform call = .ok (reply, a')) :
    ∃ b m, Moves a l b m ∧ Moves b m a' (l.record (.ok reply)) := by
  cases call with
  | enqueueInbound frame =>
    obtain ⟨hnext, rfl⟩ := replied_accepted h
    exact ⟨_, _, .stays, enqueueInbound_ok hnext l⟩
  | popInbound =>
    cases h
    exact ⟨_, _, .stays, .takes⟩
  | beginRequest correlation =>
    obtain ⟨request, hnext, rfl⟩ := replied h
    exact ⟨_, _, .stays, beginRequest_ok hnext l⟩
  | admitImmediateResponse correlation payload =>
    obtain ⟨request, hnext, rfl⟩ := replied h
    exact ⟨_, _, admitImmediateResponse_ok hnext l⟩
  | enqueueResponse handle payload =>
    obtain ⟨sequence, hnext, rfl⟩ := replied h
    obtain ⟨request, -, -, -, hmoves⟩ := enqueueResponse_ok hnext
    exact ⟨_, _, .stays, hmoves l⟩
  | enqueueControl payload =>
    obtain ⟨sequence, hnext, rfl⟩ := replied h
    exact ⟨_, _, .stays, enqueueControl_ok hnext l⟩
  | enqueueOutbound given payload =>
    obtain ⟨sequence, hnext, rfl⟩ := replied h
    exact ⟨_, _, .stays, enqueueOutbound_ok hnext l⟩
  | popOutbound =>
    cases hqueue : a.outbound with
    | nil =>
      rw [perform, popOutbound_nil hqueue] at h
      cases h
      exact ⟨_, _, .stays, .stays⟩
    | cons frame rest =>
      rw [perform, popOutbound_cons hqueue] at h
      cases h
      exact ⟨_, _, .stays, .pops frame rest hqueue⟩
  | completeRequest handle =>
    obtain ⟨request, hnext, rfl⟩ := replied h
    exact ⟨_, _, .stays, (completeRequest_ok hnext).2.2 l⟩
  | cancelRequest handle =>
    obtain ⟨request, hnext, rfl⟩ := replied h
    exact ⟨_, _, .stays, (cancelRequest_ok hnext).2.2 l⟩
  | beginDrain =>
    obtain ⟨hnext, rfl⟩ := replied_accepted h
    exact ⟨_, _, .stays, beginDrain_ok hnext l⟩
  | close =>
    obtain ⟨hnext, rfl⟩ := replied_accepted h
    exact ⟨_, _, .stays, close_ok hnext l⟩

theorem moves_of_step {entry : ConnectionEntry} (h : connectionActors.step a entry a') :
    ∃ b m, Moves a l b m ∧ Moves b m a' (l.record entry.2) := by
  obtain ⟨call, reply⟩ := entry
  cases reply with
  | error error =>
    obtain ⟨-, rfl⟩ := answer_error h
    exact ⟨_, _, .stays, .stays⟩
  | ok reply => exact perform_ok (answer_ok h)

end ConnectionActor

end Presence
