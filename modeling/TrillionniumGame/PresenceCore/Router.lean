import Mathlib.Data.Prod.Lex
import TrillionniumGame.Foundation.Paging
import TrillionniumGame.Foundation.Runs
import TrillionniumGame.Persistence.Contracts

namespace PresenceCore
open Calls Checks FiniteMap Runs
open Persistence (Bytes DomainError RetryClass StableCode UserId zeroBytes)

structure ConnectionId where
  bytes : Bytes 16

structure SessionId where
  bytes : Bytes 16
  deriving DecidableEq

structure NodeId where
  bytes : Bytes 16
  deriving DecidableEq

structure StreamId where
  bytes : Bytes 16
  deriving DecidableEq

def ConnectionId.isZero (id : ConnectionId) : Bool := zeroBytes id.bytes
def SessionId.isZero (id : SessionId) : Bool := zeroBytes id.bytes
def NodeId.isZero (id : NodeId) : Bool := zeroBytes id.bytes
def StreamId.isZero (id : StreamId) : Bool := zeroBytes id.bytes

def byteOrder (bytes : Bytes 16) : List Nat := bytes.toList.map (·.toNat)

theorem byteOrder_inj {x y : Bytes 16} (h : byteOrder x = byteOrder y) : x = y := by
  refine Vector.toList_inj.mp (List.map_injective_iff.mpr ?_ h)
  exact fun a b => UInt8.toNat_inj.mp

instance : LinearOrder ConnectionId := LinearOrder.lift' (fun id => byteOrder id.bytes) <| by
  rintro ⟨x⟩ ⟨y⟩ h
  exact congrArg ConnectionId.mk (byteOrder_inj h)

structure PresenceKey where
  stream : StreamId
  user : UserId
  session : SessionId

def PresenceKey.order (key : PresenceKey) : List Nat ×ₗ List Nat ×ₗ List Nat :=
  toLex (byteOrder key.stream.bytes,
    toLex (byteOrder key.user.bytes, byteOrder key.session.bytes))

instance : LinearOrder PresenceKey := LinearOrder.lift' PresenceKey.order <| by
  rintro ⟨⟨stream⟩, ⟨user⟩, ⟨session⟩⟩ ⟨⟨stream'⟩, ⟨user'⟩, ⟨session'⟩⟩ h
  simp only [PresenceKey.order, EmbeddingLike.apply_eq_iff_eq, Prod.mk.injEq] at h
  rw [byteOrder_inj h.1, byteOrder_inj h.2.1, byteOrder_inj h.2.2]

inductive ConnectionState where
  | connected
  | draining
  deriving DecidableEq

structure RouterLimits where
  maxConnections : Nat
  maxConnectionsPerSession : Nat
  maxPresences : Nat
  maxPresencesPerStream : Nat
  maxStatusBytes : Nat
  maxOutboundMessages : UInt32
  maxOutboundBytes : UInt64

def invalid (reason : String) : DomainError := ⟨.invalidArgument, reason, .never⟩
def unauthenticated (reason : String) : DomainError := ⟨.unauthenticated, reason, .never⟩
def exhausted (reason : String) : DomainError := ⟨.resourceExhausted, reason, .safeBackoff⟩
def connectionNotFound : DomainError := ⟨.notFound, "connection_not_found", .never⟩
def queueUnderflow : DomainError := ⟨.dataLoss, "outbound_queue_accounting_underflow", .never⟩
def overflow : DomainError := ⟨.outOfRange, "counter_overflow", .never⟩

def RouterLimits.validate (limits : RouterLimits) : Except DomainError Unit :=
  require (limits.maxConnections ≠ 0 ∧ limits.maxConnectionsPerSession ≠ 0 ∧
    limits.maxPresences ≠ 0 ∧ limits.maxPresencesPerStream ≠ 0 ∧ limits.maxStatusBytes ≠ 0 ∧
    limits.maxOutboundMessages ≠ 0 ∧ limits.maxOutboundBytes ≠ 0) (invalid "invalid_router_limits")

structure OpenConnection where
  connection : ConnectionId
  session : SessionId
  user : UserId
  node : NodeId
  routeGeneration : UInt64
  userRevocationEpoch : UInt64
  nowMs : UInt64

structure ConnectionRecord where
  connection : ConnectionId
  session : SessionId
  user : UserId
  node : NodeId
  routeGeneration : UInt64
  userRevocationEpoch : UInt64
  lastSeenMs : UInt64
  state : ConnectionState
  queuedMessages : UInt32
  queuedBytes : UInt64

def OpenConnection.record (request : OpenConnection) : ConnectionRecord where
  connection := request.connection
  session := request.session
  user := request.user
  node := request.node
  routeGeneration := request.routeGeneration
  userRevocationEpoch := request.userRevocationEpoch
  lastSeenMs := request.nowMs
  state := .connected
  queuedMessages := 0
  queuedBytes := 0

structure PresenceRecord where
  key : PresenceKey
  connection : ConnectionId
  username : String
  status : String
  hidden : Bool
  persistence : Bool

structure JoinPresenceRequest where
  connection : ConnectionId
  node : NodeId
  routeGeneration : UInt64
  stream : StreamId
  username : String
  status : String
  hidden : Bool
  persistence : Bool

structure RouteTarget where
  connection : ConnectionId
  session : SessionId
  user : UserId
  node : NodeId
  routeGeneration : UInt64

structure CloseResult where
  connection : ConnectionId
  removedPresences : Nat

structure RouterState where
  limits : RouterLimits
  connections : Dict ConnectionId ConnectionRecord
  sessions : Dict SessionId (Finset ConnectionId)
  users : Dict UserId (Finset ConnectionId)
  userRevocationEpochs : Dict UserId UInt64
  presences : Dict PresenceKey PresenceRecord
  streams : Dict StreamId (Finset PresenceKey)

def checkedAdd32 (a b : UInt32) : Option UInt32 :=
  if a.toNat + b.toNat < 2 ^ 32 then some (a + b) else none

def checkedSub32 (a b : UInt32) : Option UInt32 := if b ≤ a then some (a - b) else none

def checkedAdd64 (a b : UInt64) : Option UInt64 :=
  if a.toNat + b.toNat < 2 ^ 64 then some (a + b) else none

def checkedSub64 (a b : UInt64) : Option UInt64 := if b ≤ a then some (a - b) else none

def target (record : ConnectionRecord) : RouteTarget where
  connection := record.connection
  session := record.session
  user := record.user
  node := record.node
  routeGeneration := record.routeGeneration

def validateOpen (request : OpenConnection) : Except DomainError Unit :=
  require (request.connection.isZero = false ∧ request.session.isZero = false ∧
    request.user.isZero = false ∧ request.node.isZero = false ∧ request.routeGeneration ≠ 0)
    (invalid "invalid_connection_identity")

def routeFence (record : ConnectionRecord) (node : NodeId) (generation : UInt64) :
    Except DomainError Unit := do
  require (record.node = node) ⟨.aborted, "route_owner_mismatch", .resyncRequired⟩
  require (record.routeGeneration = generation)
    ⟨.aborted, "route_generation_mismatch", .resyncRequired⟩

namespace RouterState

def new (limits : RouterLimits) : Except DomainError RouterState := do
  limits.validate
  return ⟨limits, ∅, ∅, ∅, ∅, ∅, ∅⟩

variable (r : RouterState)

def connectionCount : Nat := r.connections.keys.card

def presenceCount : Nat := r.presences.keys.card

def fenced (connection : ConnectionId) (node : NodeId) (generation : UInt64) :
    Except DomainError ConnectionRecord := do
  let record ← fetch (r.connections.lookup connection) connectionNotFound
  routeFence record node generation
  return record

def setConnection (id : ConnectionId) (record : ConnectionRecord) : RouterState :=
  { r with connections := r.connections.insert id record }

def removePresence (key : PresenceKey) : Option (PresenceRecord × RouterState) := do
  let presence ← r.presences.lookup key
  return (presence, { r with
    presences := r.presences.erase key
    streams := expel r.streams key.stream key })

def removePresences (keys : List PresenceKey) : RouterState :=
  keys.foldl (fun r key => (r.removePresence key).elim r Prod.snd) r

def keysOf (connection : ConnectionId) : List PresenceKey :=
  ((items r.presences).filter fun entry => entry.2.connection = connection).map fun entry =>
    entry.2.key

def unlinked (connection : ConnectionId) (record : ConnectionRecord) : RouterState :=
  { r with
    connections := r.connections.erase connection
    sessions := expel r.sessions record.session connection
    users := expel r.users record.user connection }

def removeConnection (connection : ConnectionId) : Option (CloseResult × RouterState) := do
  let record ← r.connections.lookup connection
  let keys := (r.unlinked connection record).keysOf connection
  return (⟨connection, keys.length⟩, (r.unlinked connection record).removePresences keys)

def removeConnections : RouterState → List ConnectionId → List CloseResult × RouterState
  | r, [] => ([], r)
  | r, connection :: rest =>
    match r.removeConnection connection with
    | none => removeConnections r rest
    | some (closed, r') =>
      let (closes, r'') := removeConnections r' rest
      (closed :: closes, r'')

def recipients (stream : StreamId) : List RouteTarget :=
  (((ordered (members r.streams stream)).filterMap r.presences.lookup).filterMap fun presence =>
    r.connections.lookup presence.connection).map target

def orInsert (epochs : Dict UserId UInt64) (user : UserId) (epoch : UInt64) : Dict UserId UInt64 :=
  match epochs.lookup user with
  | some _ => epochs
  | none => epochs.insert user epoch

def opened (request : OpenConnection) : RouterState :=
  { r with
    userRevocationEpochs :=
      orInsert r.userRevocationEpochs request.user request.userRevocationEpoch
    connections := r.connections.insert request.connection request.record
    sessions := enroll r.sessions request.session request.connection
    users := enroll r.users request.user request.connection }

def joined (presence : PresenceRecord) : RouterState :=
  { r with
    presences := r.presences.insert presence.key presence
    streams := enroll r.streams presence.key.stream presence.key }

abbrev Op (α : Type) := Method DomainError RouterState α

def remove (connections : List ConnectionId) : Op (List CloseResult) := do
  let r ← read
  write fun r => (r.removeConnections connections).2
  return (r.removeConnections connections).1

def open_ (request : OpenConnection) : Op ConnectionRecord := do
  check (validateOpen request)
  let r ← read
  check (require (r.connections.keys.card < r.limits.maxConnections)
    (exhausted "connection_limit_exceeded"))
  check (require (request.connection ∉ r.connections)
    ⟨.alreadyExists, "connection_id_exists", .never⟩)
  let currentEpoch :=
    (r.userRevocationEpochs.lookup request.user).getD request.userRevocationEpoch
  check (require (currentEpoch = request.userRevocationEpoch)
    (unauthenticated "user_revocation_epoch_mismatch"))
  check (require ((members r.sessions request.session).card < r.limits.maxConnectionsPerSession)
    (exhausted "session_connection_limit_exceeded"))
  write (·.opened request)
  return request.record

def rebind (connection : ConnectionId) (node : NodeId) (generation : UInt64) (newNode : NodeId) :
    Op RouteTarget := do
  check (require (newNode.isZero = false) (invalid "invalid_node_id"))
  let r ← read
  let current ← check (r.fenced connection node generation)
  let nextGeneration ← check (fetch (checkedAdd64 current.routeGeneration 1) overflow)
  let record := { current with
    node := newNode, routeGeneration := nextGeneration, state := .connected }
  write (·.setConnection connection record)
  return target record

def touch (connection : ConnectionId) (node : NodeId) (generation nowMs : UInt64) :
    Op ConnectionRecord := do
  let r ← read
  let current ← check (r.fenced connection node generation)
  check (require (current.lastSeenMs ≤ nowMs) (invalid "heartbeat_time_regression"))
  let record := { current with lastSeenMs := nowMs }
  write (·.setConnection connection record)
  return record

def drain (r : RouterState) (node : NodeId) (entry : ConnectionId × ConnectionRecord) :
    RouterState :=
  if entry.2.node = node then r.setConnection entry.1 { entry.2 with state := .draining } else r

def beginNodeDrain (node : NodeId) : Op (List RouteTarget) := do
  check (require (node.isZero = false) (invalid "invalid_node_id"))
  let r ← read
  write fun r => (items r.connections).foldl (drain · node) r
  return ((items r.connections).filter fun entry => entry.2.node = node).map fun entry =>
    target entry.2

def joinPresence (request : JoinPresenceRequest) : Op PresenceRecord := do
  check (require (request.stream.isZero = false ∧ request.username ≠ "" ∧
    request.username.utf8ByteSize ≤ 128) (invalid "invalid_presence_identity"))
  let r ← read
  check (require (request.status.utf8ByteSize ≤ r.limits.maxStatusBytes)
    (exhausted "presence_status_limit_exceeded"))
  check (require (r.presences.keys.card < r.limits.maxPresences)
    (exhausted "presence_limit_exceeded"))
  let record ← check (r.fenced request.connection request.node request.routeGeneration)
  check (require (record.state = .connected)
    ⟨.failedPrecondition, "connection_draining", .safeBackoff⟩)
  let key : PresenceKey := ⟨request.stream, record.user, record.session⟩
  check (require (key ∉ r.presences) ⟨.alreadyExists, "presence_exists", .never⟩)
  check (require ((members r.streams request.stream).card < r.limits.maxPresencesPerStream)
    (exhausted "stream_presence_limit_exceeded"))
  let presence : PresenceRecord :=
    { key
      connection := request.connection
      username := request.username
      status := request.status
      hidden := request.hidden
      persistence := request.persistence }
  write (·.joined presence)
  return presence

variable (connection : ConnectionId) (node : NodeId)

def leavePresence (generation : UInt64) (stream : StreamId) : Op PresenceRecord := do
  let r ← read
  let record ← check (r.fenced connection node generation)
  let (presence, r') ← check (fetch (r.removePresence ⟨stream, record.user, record.session⟩)
    ⟨.notFound, "presence_not_found", .never⟩)
  write fun _ => r'
  return presence

def reserveOutbound (generation bytes : UInt64) : Op ConnectionRecord := do
  check (require (bytes ≠ 0) (invalid "outbound_bytes_must_be_positive"))
  let r ← read
  let current ← check (r.fenced connection node generation)
  let messages ← check (fetch (checkedAdd32 current.queuedMessages 1) overflow)
  let queuedBytes ← check (fetch (checkedAdd64 current.queuedBytes bytes) overflow)
  check (require (messages ≤ r.limits.maxOutboundMessages ∧
    queuedBytes ≤ r.limits.maxOutboundBytes) (exhausted "slow_consumer_budget_exceeded"))
  let record := { current with queuedMessages := messages, queuedBytes }
  write (·.setConnection connection record)
  return record

def releaseOutbound (generation bytes : UInt64) : Op ConnectionRecord := do
  check (require (bytes ≠ 0) (invalid "outbound_bytes_must_be_positive"))
  let r ← read
  let current ← check (r.fenced connection node generation)
  let messages ← check (fetch (checkedSub32 current.queuedMessages 1) queueUnderflow)
  let queuedBytes ← check (fetch (checkedSub64 current.queuedBytes bytes) queueUnderflow)
  let record := { current with queuedMessages := messages, queuedBytes }
  write (·.setConnection connection record)
  return record

def closeConnection (generation : UInt64) : Op CloseResult := do
  let r ← read
  let _ ← check (r.fenced connection node generation)
  let (closed, r') ← check (fetch (r.removeConnection connection) connectionNotFound)
  write fun _ => r'
  return closed

def closeSession (session : SessionId) : Op (List CloseResult) := do
  check (require (session.isZero = false) (invalid "invalid_session_id"))
  let r ← read
  remove (ordered (members r.sessions session))

def revokeUser (user : UserId) (expectedEpoch newEpoch : UInt64) : Op (List CloseResult) := do
  check (require (user.isZero = false ∧ expectedEpoch < newEpoch)
    (invalid "invalid_user_revocation"))
  let r ← read
  check (require ((r.userRevocationEpochs.lookup user).getD 0 = expectedEpoch)
    ⟨.aborted, "user_revocation_epoch_mismatch", .resyncRequired⟩)
  write fun r => { r with userRevocationEpochs := r.userRevocationEpochs.insert user newEpoch }
  remove (ordered (members r.users user))

def idle (nowMs idleTimeoutMs : UInt64) (record : ConnectionRecord) : Bool :=
  (checkedAdd64 record.lastSeenMs idleTimeoutMs).any (· ≤ nowMs)

def expireIdle (nowMs idleTimeoutMs : UInt64) (maxExpired : Nat) : Op (List CloseResult) := do
  check (require (idleTimeoutMs ≠ 0 ∧ maxExpired ≠ 0) (invalid "invalid_idle_expiry_policy"))
  let r ← read
  let expired := (items r.connections).filter fun entry => idle nowMs idleTimeoutMs entry.2
  remove ((expired.map Prod.fst).take maxExpired)

end RouterState

open RouterState

inductive RouterCall where
  | open_ (request : OpenConnection)
  | route (connection : ConnectionId) (node : NodeId) (generation : UInt64)
  | rebind (connection : ConnectionId) (node : NodeId) (generation : UInt64) (newNode : NodeId)
  | touch (connection : ConnectionId) (node : NodeId) (generation nowMs : UInt64)
  | beginNodeDrain (node : NodeId)
  | joinPresence (request : JoinPresenceRequest)
  | leavePresence (connection : ConnectionId) (node : NodeId) (generation : UInt64)
      (stream : StreamId)
  | reserveOutbound (connection : ConnectionId) (node : NodeId) (generation bytes : UInt64)
  | releaseOutbound (connection : ConnectionId) (node : NodeId) (generation bytes : UInt64)
  | closeConnection (connection : ConnectionId) (node : NodeId) (generation : UInt64)
  | closeSession (session : SessionId)
  | revokeUser (user : UserId) (expectedEpoch newEpoch : UInt64)
  | expireIdle (nowMs idleTimeoutMs : UInt64) (maxExpired : Nat)
  | recipients (stream : StreamId)

def RouterCall.after (call : RouterCall) (r : RouterState) : RouterState :=
  match call with
  | open_ request => (RouterState.open_ request r).2
  | route _ _ _ => r
  | rebind connection node generation newNode =>
    (RouterState.rebind connection node generation newNode r).2
  | touch connection node generation nowMs =>
    (RouterState.touch connection node generation nowMs r).2
  | beginNodeDrain node => (RouterState.beginNodeDrain node r).2
  | joinPresence request => (RouterState.joinPresence request r).2
  | leavePresence connection node generation stream =>
    (RouterState.leavePresence connection node generation stream r).2
  | reserveOutbound connection node generation bytes =>
    (RouterState.reserveOutbound connection node generation bytes r).2
  | releaseOutbound connection node generation bytes =>
    (RouterState.releaseOutbound connection node generation bytes r).2
  | closeConnection connection node generation =>
    (RouterState.closeConnection connection node generation r).2
  | closeSession session => (RouterState.closeSession session r).2
  | revokeUser user expectedEpoch newEpoch =>
    (RouterState.revokeUser user expectedEpoch newEpoch r).2
  | expireIdle nowMs idleTimeoutMs maxExpired =>
    (RouterState.expireIdle nowMs idleTimeoutMs maxExpired r).2
  | recipients _ => r

def routing : System RouterState RouterCall where
  init r := ∃ limits, RouterState.new limits = .ok r
  step r call r' := r' = call.after r

end PresenceCore
