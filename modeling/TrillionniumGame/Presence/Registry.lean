import TrillionniumGame.Presence.Router

namespace Presence
open Calls Checks FiniteMap

abbrev SessionRouteGeneration := UInt64
abbrev SessionRouteNamespace := UInt64

structure SessionRouteLimits where
  maxConnectionsPerSession : Nat
  maxActiveConnections : Nat
  maxTrackedConnections : Nat
  maxTrackedSessions : Nat
  maxRevocationHighWaters : Nat
  maxPresenceEntries : Nat
  connectionsPerSession : 1 ≤ maxConnectionsPerSession ∧ maxConnectionsPerSession ≤ 1024
  activeConnections : 1 ≤ maxActiveConnections ∧ maxActiveConnections ≤ 65536
  trackedConnections : 1 ≤ maxTrackedConnections ∧ maxTrackedConnections ≤ 131072
  trackedSessions : 1 ≤ maxTrackedSessions ∧ maxTrackedSessions ≤ 131072
  revocationHighWaters : 1 ≤ maxRevocationHighWaters ∧ maxRevocationHighWaters ≤ 131072
  presenceEntries : 1 ≤ maxPresenceEntries ∧ maxPresenceEntries ≤ 262144
  perSessionActive : maxConnectionsPerSession ≤ maxActiveConnections
  highWatersTracked : maxRevocationHighWaters ≤ maxTrackedSessions

def SessionRouteLimits.default : SessionRouteLimits where
  maxConnectionsPerSession := 1024
  maxActiveConnections := 16384
  maxTrackedConnections := 32768
  maxTrackedSessions := 32768
  maxRevocationHighWaters := 32768
  maxPresenceEntries := 65536
  connectionsPerSession := by decide
  activeConnections := by decide
  trackedConnections := by decide
  trackedSessions := by decide
  revocationHighWaters := by decide
  presenceEntries := by decide
  perSessionActive := by decide
  highWatersTracked := by decide

abbrev RouteDigest := Vector UInt8 32

def zeroDigest (digest : RouteDigest) : Bool := digest.toList.all (· = 0)

structure SessionRouteRolloverProof where
  retiredNamespace : SessionRouteNamespace
  nextNamespace : SessionRouteNamespace
  registryRevision : UInt64
  routerRevision : UInt64
  trackedConnections : Nat
  trackedSessions : Nat
  revocationHighWaters : Nat
  checkpointDigest : RouteDigest
  producerBarrierDigest : RouteDigest
  deriving DecidableEq

structure SessionRouteCheckpoint where
  retiredNamespace : SessionRouteNamespace
  activeNamespace : SessionRouteNamespace
  registryRevision : UInt64
  retiredRouterRevision : UInt64
  retiredTrackedConnections : Nat
  retiredTrackedSessions : Nat
  retiredRevocationHighWaters : Nat
  checkpointDigest : RouteDigest
  producerBarrierDigest : RouteDigest
  deriving DecidableEq

structure CheckpointVerifier where
  verifyRollover : SessionRouteRolloverProof → Bool
  verifyCheckpoint : SessionRouteCheckpoint → Bool

structure SessionJoinRequest where
  namespace_ : SessionRouteNamespace
  presence : JoinPresenceRequest
  sessionGeneration : SessionRouteGeneration

structure SessionRequest (Request : Type) where
  namespace_ : SessionRouteNamespace
  presence : Request
  sessionId : SessionId
  sessionGeneration : SessionRouteGeneration

structure SessionRevocationRequest where
  namespace_ : SessionRouteNamespace
  sessionId : SessionId
  throughGeneration : SessionRouteGeneration

structure SessionMutationDelta where
  disposition : MutationDisposition
  registryRevision : Option UInt64
  presence : PresenceDelta

structure SessionRevocationDelta where
  disposition : MutationDisposition
  registryRevision : Option UInt64
  revokedThrough : SessionRouteGeneration
  removedConnections : Nat
  leaves : List PresenceRecord
  hiddenChanges : Nat

inductive SessionRouteError where
  | namespaceMismatch (current received : SessionRouteNamespace)
  | namespaceNotAdvanced (current received : SessionRouteNamespace)
  | zeroRolloverDigest (field : String)
  | rolloverRequiresQuiescence
  | rolloverProofMismatch
  | rolloverVerificationFailed
  | checkpointVerificationFailed
  | resourceExhausted (resource : String) (limit : Nat)
  | sessionBindingMissing (connection : ConnectionRef)
  | sessionRevoked (sessionId : SessionId) (revokedThrough received : SessionRouteGeneration)
  | staleSessionGeneration (connection : ConnectionRef) (current received : SessionRouteGeneration)
  | sessionGenerationAhead (connection : ConnectionRef) (current received : SessionRouteGeneration)
  | sessionBindingConflict (connection : ConnectionRef) (currentSession receivedSession : SessionId)
  | revisionExhausted
  | invariantViolation (text : String)
  | presence (error : PresenceError)
  deriving DecidableEq

structure SessionBinding where
  sessionId : SessionId
  sessionGeneration : SessionRouteGeneration
  connectionGeneration : ConnectionGeneration
  deriving DecidableEq

structure SessionRouteRegistry where
  limits : SessionRouteLimits
  namespace_ : SessionRouteNamespace
  revision : UInt64
  checkpoint : Option SessionRouteCheckpoint
  router : PresenceRouter
  bindings : Dict ConnectionRef SessionBinding
  connectionsBySession : Dict SessionId (Finset ConnectionRef)
  revokedThrough : Dict SessionId SessionRouteGeneration

def ofRouter {α : Type} (x : Except PresenceError α) : Except SessionRouteError α :=
  x.mapError .presence

def requireNonzeroRolloverDigest (field : String) (digest : RouteDigest) :
    Except SessionRouteError Unit :=
  require (zeroDigest digest = false) (.zeroRolloverDigest field)

namespace SessionRouteRegistry

def withLimits (limits : SessionRouteLimits) : SessionRouteRegistry where
  limits
  namespace_ := 1
  revision := 0
  checkpoint := none
  router := .new
  bindings := ∅
  connectionsBySession := ∅
  revokedThrough := ∅

def fromCheckpoint (limits : SessionRouteLimits) (checkpoint : SessionRouteCheckpoint)
    (verifier : CheckpointVerifier) : Except SessionRouteError SessionRouteRegistry := do
  require (checkpoint.retiredNamespace < checkpoint.activeNamespace)
    (.namespaceNotAdvanced checkpoint.retiredNamespace checkpoint.activeNamespace)
  requireNonzeroRolloverDigest "checkpoint_digest" checkpoint.checkpointDigest
  requireNonzeroRolloverDigest "producer_barrier_digest" checkpoint.producerBarrierDigest
  require (verifier.verifyCheckpoint checkpoint = true) .checkpointVerificationFailed
  return { withLimits limits with
    namespace_ := checkpoint.activeNamespace
    revision := checkpoint.registryRevision
    checkpoint := some checkpoint }

variable (g : SessionRouteRegistry)

def trackedSessionCount : Nat :=
  g.revokedThrough.keys.card +
    (g.connectionsBySession.keys.filter fun s => g.revokedThrough.lookup s = none).card

def verifyCheckpoint (checkpoint : SessionRouteCheckpoint) : Except SessionRouteError Unit :=
  require (checkpoint.activeNamespace = g.namespace_ ∧
    checkpoint.retiredNamespace < checkpoint.activeNamespace ∧
    checkpoint.registryRevision ≤ g.revision ∧ zeroDigest checkpoint.checkpointDigest = false ∧
    zeroDigest checkpoint.producerBarrierDigest = false)
    (.invariantViolation "checkpoint does not bind active namespace")

def verifyBinding (connection : ConnectionRef) (binding : SessionBinding) :
    Except SessionRouteError Unit := do
  require (g.router.establishedGeneration connection = some binding.connectionGeneration)
    (.invariantViolation "binding generation differs from presence high-water generation")
  let identity ← fetch (g.router.establishedIdentity connection)
    (.invariantViolation "bound connection has no presence identity")
  require (identity.sessionId = binding.sessionId)
    (.invariantViolation "binding session differs from presence identity")
  require (∃ connections ∈ g.connectionsBySession.lookup binding.sessionId,
      connection ∈ connections)
    (.invariantViolation "connection binding is absent from session index")
  require (∀ generation ∈ g.revokedThrough.lookup binding.sessionId,
      generation < binding.sessionGeneration)
    (.invariantViolation "active connection is at or below session revocation high-water")

def verifyIndexed (sessionId : SessionId) (connection : ConnectionRef) :
    Except SessionRouteError Unit := do
  let binding ← fetch (g.bindings.lookup connection)
    (.invariantViolation "session index references an absent binding")
  require (binding.sessionId = sessionId)
    (.invariantViolation "session index points to a different session binding")

def verifySession (sessionId : SessionId) (connections : Finset ConnectionRef) :
    Except SessionRouteError Unit := do
  require (connections ≠ ∅) (.invariantViolation "session index contains an empty connection set")
  require (connections.card ≤ g.limits.maxConnectionsPerSession)
    (.invariantViolation "session index exceeds the configured connection limit")
  (ordered connections).forM (g.verifyIndexed sessionId)

def verifyInvariants : Except SessionRouteError Unit := do
  ofRouter g.router.verifyInvariants
  g.checkpoint.toList.forM g.verifyCheckpoint
  require (g.bindings.keys.card ≤ g.limits.maxActiveConnections)
    (.invariantViolation "active connection count exceeds configured capacity")
  require (g.router.connectionCount ≤ g.limits.maxTrackedConnections)
    (.invariantViolation "tracked connection count exceeds configured capacity")
  require (g.router.entryCount ≤ g.limits.maxPresenceEntries)
    (.invariantViolation "presence entry count exceeds configured capacity")
  require (g.revokedThrough.keys.card ≤ g.limits.maxRevocationHighWaters)
    (.invariantViolation "revocation high-water count exceeds configured capacity")
  require (g.trackedSessionCount ≤ g.limits.maxTrackedSessions)
    (.invariantViolation "tracked session count exceeds configured capacity")
  (items g.bindings).forM fun entry => g.verifyBinding entry.1 entry.2
  (items g.connectionsBySession).forM fun entry => g.verifySession entry.1 entry.2

def requireNextRevision : Except SessionRouteError UInt64 :=
  fetch (nextRevision g.revision) .revisionExhausted

def requireNamespace (received : SessionRouteNamespace) : Except SessionRouteError Unit :=
  require (received = g.namespace_) (.namespaceMismatch g.namespace_ received)

section

variable (connection : ConnectionRef)

def insertBinding (binding : SessionBinding) : SessionRouteRegistry :=
  { g with
    bindings := g.bindings.insert connection binding
    connectionsBySession := g.connectionsBySession.insert binding.sessionId
      (insert connection ((g.connectionsBySession.lookup binding.sessionId).getD ∅)) }

def unindex (sessionId : SessionId) (connection : ConnectionRef) :
    Dict SessionId (Finset ConnectionRef) :=
  match g.connectionsBySession.lookup sessionId with
  | none => g.connectionsBySession
  | some connections =>
    if connections.erase connection = ∅ then g.connectionsBySession.erase sessionId
    else g.connectionsBySession.insert sessionId (connections.erase connection)

def removeBinding (connection : ConnectionRef) : SessionRouteRegistry :=
  match g.bindings.lookup connection with
  | none => g
  | some binding =>
    { g with
      bindings := g.bindings.erase connection
      connectionsBySession := g.unindex binding.sessionId connection }

def proposeRollover (nextNamespace : SessionRouteNamespace)
    (checkpointDigest producerBarrierDigest : RouteDigest) :
    Except SessionRouteError SessionRouteRolloverProof := do
  g.verifyInvariants
  require (g.namespace_ < nextNamespace) (.namespaceNotAdvanced g.namespace_ nextNamespace)
  requireNonzeroRolloverDigest "checkpoint_digest" checkpointDigest
  requireNonzeroRolloverDigest "producer_barrier_digest" producerBarrierDigest
  return {
    retiredNamespace := g.namespace_
    nextNamespace
    registryRevision := g.revision
    routerRevision := g.router.revision
    trackedConnections := g.router.connectionCount
    trackedSessions := g.trackedSessionCount
    revocationHighWaters := g.revokedThrough.keys.card
    checkpointDigest
    producerBarrierDigest }

def snapshot (stream : StreamKey) (visibility : SnapshotVisibility) :
    Except SessionRouteError (List PresenceRecord) := do
  g.verifyInvariants
  ofRouter (g.router.snapshot stream visibility)

variable (connectionGeneration : ConnectionGeneration)

def requireExactBinding (sessionId : SessionId) (sessionGeneration : SessionRouteGeneration) :
    Except SessionRouteError Unit := do
  let binding ← fetch (g.bindings.lookup connection) (.sessionBindingMissing connection)
  require (¬ connectionGeneration < binding.connectionGeneration)
    (.presence (.staleGeneration connection binding.connectionGeneration connectionGeneration))
  require (¬ binding.connectionGeneration < connectionGeneration)
    (.presence (.generationAhead connection binding.connectionGeneration connectionGeneration))
  require (binding.sessionId = sessionId)
    (.sessionBindingConflict connection binding.sessionId sessionId)
  require (¬ sessionGeneration < binding.sessionGeneration)
    (.staleSessionGeneration connection binding.sessionGeneration sessionGeneration)
  require (¬ binding.sessionGeneration < sessionGeneration)
    (.sessionGenerationAhead connection binding.sessionGeneration sessionGeneration)

def validateRebinding (sessionId : SessionId) (sessionGeneration : SessionRouteGeneration)
    (binding : SessionBinding) : Except SessionRouteError Unit := do
  require (¬ connectionGeneration < binding.connectionGeneration)
    (.presence (.staleGeneration connection binding.connectionGeneration connectionGeneration))
  if binding.connectionGeneration < connectionGeneration then return ()
  else
    require (binding.sessionId = sessionId)
      (.sessionBindingConflict connection binding.sessionId sessionId)
    require (¬ sessionGeneration < binding.sessionGeneration)
      (.staleSessionGeneration connection binding.sessionGeneration sessionGeneration)

def validateJoinBinding (sessionId : SessionId) (sessionGeneration : SessionRouteGeneration) :
    Except SessionRouteError Unit := do
  (g.revokedThrough.lookup sessionId).toList.forM fun revokedThrough =>
    require (¬ sessionGeneration ≤ revokedThrough)
      (.sessionRevoked sessionId revokedThrough sessionGeneration)
  (g.bindings.lookup connection).toList.forM
    (validateRebinding connection connectionGeneration sessionId sessionGeneration)

def tracked (sessionId : SessionId) : Prop :=
  sessionId ∈ g.connectionsBySession ∨ sessionId ∈ g.revokedThrough

instance (sessionId : SessionId) : Decidable (g.tracked sessionId) := by
  unfold tracked
  infer_instance

def exclusivelyReplaced (sessionId : SessionId) : Prop :=
  ∃ previous ∈ g.bindings.lookup connection, previous.sessionId ≠ sessionId ∧
    previous.sessionId ∉ g.revokedThrough ∧
    ∃ connections ∈ g.connectionsBySession.lookup previous.sessionId,
      connections.card = 1 ∧ connection ∈ connections

end

instance (connection : ConnectionRef) (sessionId : SessionId) :
    Decidable (g.exclusivelyReplaced connection sessionId) := by
  unfold exclusivelyReplaced
  infer_instance

def projectedTrackedSessionCount (connection : ConnectionRef) (sessionId : SessionId)
    (advance : Prop) [Decidable advance] : Except SessionRouteError Nat := do
  let projected ← fetch (checkedAdd g.trackedSessionCount (if g.tracked sessionId then 0 else 1))
    (.invariantViolation "tracked session projection overflow")
  if advance ∧ g.exclusivelyReplaced connection sessionId then
    fetch (checkedSub projected 1)
      (.invariantViolation "tracked session replacement projection underflow")
  else return projected

def requireTrackedSessionCapacity (sessionId : SessionId) : Except SessionRouteError Unit :=
  require (g.tracked sessionId ∨ g.trackedSessionCount < g.limits.maxTrackedSessions)
    (.resourceExhausted "tracked_sessions" g.limits.maxTrackedSessions)

def requireSessionCapacity (connection : ConnectionRef) (sessionId : SessionId) :
    Except SessionRouteError Unit :=
  require (∀ connections ∈ g.connectionsBySession.lookup sessionId, connection ∈ connections ∨
      connections.card < g.limits.maxConnectionsPerSession)
    (.resourceExhausted "connections_per_session" g.limits.maxConnectionsPerSession)

variable (request : JoinPresenceRequest)

def retiredEntries (advance : Prop) [Decidable advance] : Except SessionRouteError Nat :=
  if advance ∧ g.router.establishedGeneration request.connection ≠ none then
    ofRouter (g.router.entryCountForConnection request.connection)
  else .ok 0

def alreadyJoined (advance : Prop) [Decidable advance] : Except SessionRouteError Bool :=
  if advance then .ok false
  else do
    let records ← ofRouter (g.router.snapshot request.stream .includeHidden)
    return records.any fun record =>
      record.connection = request.connection && record.generation = request.generation

def requirePresenceCapacity (advance : Prop) [Decidable advance] :
    Except SessionRouteError Unit := do
  let retiredEntries ← g.retiredEntries request advance
  let alreadyJoined ← g.alreadyJoined request advance
  let projected ← fetch ((checkedSub g.router.entryCount retiredEntries).bind fun value =>
      checkedAdd value (if alreadyJoined then 0 else 1))
    (.invariantViolation "presence entry projection overflow or underflow")
  require (projected ≤ g.limits.maxPresenceEntries)
    (.resourceExhausted "presence_entries" g.limits.maxPresenceEntries)

def requireJoinCapacity (request : SessionJoinRequest) : Except SessionRouteError Unit := do
  let connection := request.presence.connection
  let sessionId := request.presence.identity.sessionId
  let established := g.router.establishedGeneration connection
  let advance := ∀ current ∈ established, current < request.presence.generation
  let activeConnections ← fetch (checkedAdd g.bindings.keys.card
      (if connection ∈ g.bindings then 0 else 1))
    (.invariantViolation "active connection projection overflow")
  require (activeConnections ≤ g.limits.maxActiveConnections)
    (.resourceExhausted "active_connections" g.limits.maxActiveConnections)
  let trackedConnections ← fetch (checkedAdd g.router.connectionCount
      (if established = none then 1 else 0))
    (.invariantViolation "tracked connection projection overflow")
  require (trackedConnections ≤ g.limits.maxTrackedConnections)
    (.resourceExhausted "tracked_connections" g.limits.maxTrackedConnections)
  let trackedSessions ← g.projectedTrackedSessionCount connection sessionId advance
  require (trackedSessions ≤ g.limits.maxTrackedSessions)
    (.resourceExhausted "tracked_sessions" g.limits.maxTrackedSessions)
  g.requireSessionCapacity connection sessionId
  g.requirePresenceCapacity request.presence advance

def install (candidate : SessionRouteRegistry) (changed : Bool) (presence : PresenceDelta) :
    Method SessionRouteError SessionRouteRegistry SessionMutationDelta := do
  let g ← read
  if changed || presence.disposition = .applied then
    let revision ← check g.requireNextRevision
    let candidate := { candidate with revision }
    check candidate.verifyInvariants
    write fun _ => candidate
    return ⟨.applied, some revision, presence⟩
  else return ⟨.idempotent, none, presence⟩

def joinPresence (request : SessionJoinRequest) :
    Method SessionRouteError SessionRouteRegistry SessionMutationDelta := do
  let g ← read
  check g.verifyInvariants
  check (g.requireNamespace request.namespace_)
  let connection := request.presence.connection
  let sessionId := request.presence.identity.sessionId
  check (g.validateJoinBinding connection request.presence.generation sessionId
    request.sessionGeneration)
  check (g.requireJoinCapacity request)
  let nextBinding : SessionBinding :=
    ⟨sessionId, request.sessionGeneration, request.presence.generation⟩
  let bindingChanged := g.bindings.lookup connection ≠ some nextBinding
  let (presence, router) ← check (ofRouter (g.router.joinPresence request.presence))
  let candidate := { g with router }
  let candidate := if bindingChanged then
    (candidate.removeBinding connection).insertBinding connection nextBinding else candidate
  install candidate bindingChanged presence

def mutateFencedPresence (namespace_ : SessionRouteNamespace) (connection : ConnectionRef)
    (connectionGeneration : ConnectionGeneration) (sessionId : SessionId)
    (sessionGeneration : SessionRouteGeneration) (unbind : Bool)
    (mutation : PresenceRouter → Except PresenceError (PresenceDelta × PresenceRouter)) :
    Method SessionRouteError SessionRouteRegistry SessionMutationDelta := do
  let g ← read
  check (g.requireNamespace namespace_)
  check g.verifyInvariants
  check (g.requireExactBinding connection connectionGeneration sessionId sessionGeneration)
  let (presence, router) ← check (ofRouter (mutation g.router))
  let candidate := { g with router }
  let bindingRemoved := unbind && (candidate.bindings.lookup connection).isSome
  let candidate := if unbind then candidate.removeBinding connection else candidate
  install candidate bindingRemoved presence

def updatePresence (request : SessionRequest UpdatePresenceRequest) :
    Method SessionRouteError SessionRouteRegistry SessionMutationDelta :=
  mutateFencedPresence request.namespace_ request.presence.connection request.presence.generation
    request.sessionId request.sessionGeneration false (·.updatePresence request.presence)

def leavePresence (request : SessionRequest LeavePresenceRequest) :
    Method SessionRouteError SessionRouteRegistry SessionMutationDelta :=
  mutateFencedPresence request.namespace_ request.presence.connection request.presence.generation
    request.sessionId request.sessionGeneration false (·.leavePresence request.presence)

def removeConnection (request : SessionRequest RemoveConnectionRequest) :
    Method SessionRouteError SessionRouteRegistry SessionMutationDelta :=
  mutateFencedPresence request.namespace_ request.presence.connection request.presence.generation
    request.sessionId request.sessionGeneration true (·.removeConnection request.presence)

structure RevocationSweep where
  candidate : SessionRouteRegistry
  removedConnections : Nat
  leaves : List PresenceRecord
  hiddenChanges : Nat

def RevocationSweep.step (through : SessionRouteGeneration) (sweep : RevocationSweep)
    (connection : ConnectionRef) : Except SessionRouteError RevocationSweep := do
  let binding ← fetch (sweep.candidate.bindings.lookup connection)
    (.invariantViolation "session index references an absent connection binding")
  if through < binding.sessionGeneration then return sweep
  else
    let (delta, router) ← ofRouter (sweep.candidate.router.removeConnection
      ⟨connection, binding.connectionGeneration⟩)
    return {
      candidate := { sweep.candidate with router }.removeBinding connection
      removedConnections := saturatingAdd sweep.removedConnections 1
      leaves := sweep.leaves ++ delta.leaves
      hiddenChanges := saturatingAdd sweep.hiddenChanges delta.hiddenChanges }

def RevocationSweep.run (through : SessionRouteGeneration) :
    RevocationSweep → List ConnectionRef → Except SessionRouteError RevocationSweep
  | sweep, [] => .ok sweep
  | sweep, connection :: rest => do
    let next ← sweep.step through connection
    RevocationSweep.run through next rest

def revokeFresh (request : SessionRevocationRequest) :
    Method SessionRouteError SessionRouteRegistry SessionRevocationDelta := do
  let g ← read
  check (g.requireTrackedSessionCapacity request.sessionId)
  check (require (request.sessionId ∈ g.revokedThrough ∨
      g.revokedThrough.keys.card < g.limits.maxRevocationHighWaters)
    (.resourceExhausted "revocation_high_waters" g.limits.maxRevocationHighWaters))
  let connections := (g.connectionsBySession.lookup request.sessionId).getD ∅
  let sweep ← check (RevocationSweep.run request.throughGeneration ⟨g, 0, [], 0⟩
    (ordered connections))
  let revision ← check g.requireNextRevision
  let candidate := { sweep.candidate with
    revokedThrough := sweep.candidate.revokedThrough.insert request.sessionId
      request.throughGeneration
    revision }
  check candidate.verifyInvariants
  write fun _ => candidate
  return ⟨.applied, some revision, request.throughGeneration, sweep.removedConnections,
    sweep.leaves, sweep.hiddenChanges⟩

def revokeSession (request : SessionRevocationRequest) :
    Method SessionRouteError SessionRouteRegistry SessionRevocationDelta := do
  let g ← read
  check g.verifyInvariants
  check (g.requireNamespace request.namespace_)
  match g.revokedThrough.lookup request.sessionId with
  | some current =>
    if request.throughGeneration ≤ current then
      return ⟨.idempotent, none, current, 0, [], 0⟩
    else revokeFresh request
  | none => revokeFresh request

def rolloverNamespace (proof : SessionRouteRolloverProof) (verifier : CheckpointVerifier) :
    Method SessionRouteError SessionRouteRegistry SessionRouteCheckpoint := do
  let g ← read
  check g.verifyInvariants
  check (require (g.bindings = ∅ ∧ g.connectionsBySession = ∅ ∧ g.router.entryCount = 0)
    .rolloverRequiresQuiescence)
  let expected ← check (g.proposeRollover proof.nextNamespace proof.checkpointDigest
    proof.producerBarrierDigest)
  check (require (proof = expected) .rolloverProofMismatch)
  check (require (verifier.verifyRollover proof = true) .rolloverVerificationFailed)
  let revision ← check g.requireNextRevision
  let checkpoint : SessionRouteCheckpoint :=
    { retiredNamespace := proof.retiredNamespace
      activeNamespace := proof.nextNamespace
      registryRevision := revision
      retiredRouterRevision := proof.routerRevision
      retiredTrackedConnections := proof.trackedConnections
      retiredTrackedSessions := proof.trackedSessions
      retiredRevocationHighWaters := proof.revocationHighWaters
      checkpointDigest := proof.checkpointDigest
      producerBarrierDigest := proof.producerBarrierDigest }
  write fun g => { g with
    namespace_ := proof.nextNamespace
    revision
    checkpoint := some checkpoint
    router := .new
    revokedThrough := ∅ }
  let g ← read
  check g.verifyInvariants
  return checkpoint

end SessionRouteRegistry

end Presence
