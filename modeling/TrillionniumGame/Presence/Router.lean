import Mathlib.Data.Prod.Lex
import Mathlib.Data.String.Basic
import TrillionniumGame.Foundation.Paging

namespace Presence

abbrev SessionId := String

structure ConnectionRef where
  nodeId : String
  connectionId : String

structure StreamKey where
  mode : UInt8
  subject : Vector UInt8 16
  subcontext : Vector UInt8 16
  label : String

def byteValues (bytes : Vector UInt8 16) : List Nat := bytes.toList.map (·.toNat)

theorem byteValues_inj {x y : Vector UInt8 16} (h : byteValues x = byteValues y) : x = y := by
  refine Vector.toList_inj.mp (List.map_injective_iff.mpr ?_ h)
  exact fun a b => UInt8.toNat_inj.mp

def ConnectionRef.order (c : ConnectionRef) : String ×ₗ String := toLex (c.nodeId, c.connectionId)

def StreamKey.order (s : StreamKey) : Nat ×ₗ List Nat ×ₗ List Nat ×ₗ String :=
  toLex (s.mode.toNat, toLex (byteValues s.subject, toLex (byteValues s.subcontext, s.label)))

instance : LinearOrder ConnectionRef := LinearOrder.lift' ConnectionRef.order <| by
  intro c d h
  obtain ⟨⟩ := c
  obtain ⟨⟩ := d
  simpa [ConnectionRef.order] using h

instance : LinearOrder StreamKey := LinearOrder.lift' StreamKey.order <| by
  intro s t h
  obtain ⟨⟩ := s
  obtain ⟨⟩ := t
  simp only [StreamKey.order, EmbeddingLike.apply_eq_iff_eq, Prod.mk.injEq] at h
  obtain ⟨hmode, hsubject, hsubcontext, rfl⟩ := h
  rw [UInt8.toNat_inj.mp hmode, byteValues_inj hsubject, byteValues_inj hsubcontext]

structure PresenceIdentity where
  userId : String
  sessionId : SessionId
  username : String
  deriving DecidableEq

abbrev ConnectionGeneration := UInt64

structure JoinPresenceRequest where
  connection : ConnectionRef
  generation : ConnectionGeneration
  stream : StreamKey
  identity : PresenceIdentity
  status : String
  hidden : Bool

structure UpdatePresenceRequest where
  connection : ConnectionRef
  generation : ConnectionGeneration
  stream : StreamKey
  status : String
  hidden : Bool

structure LeavePresenceRequest where
  connection : ConnectionRef
  generation : ConnectionGeneration
  stream : StreamKey

structure RemoveConnectionRequest where
  connection : ConnectionRef
  generation : ConnectionGeneration

inductive SnapshotVisibility where
  | publicOnly
  | includeHidden
  deriving DecidableEq

structure PresenceRecord where
  connection : ConnectionRef
  generation : ConnectionGeneration
  stream : StreamKey
  identity : PresenceIdentity
  status : String
  hidden : Bool
  deriving DecidableEq

inductive MutationDisposition where
  | applied
  | idempotent
  deriving DecidableEq

structure PresenceDelta where
  disposition : MutationDisposition
  revision : Option UInt64
  joins : List PresenceRecord
  updates : List PresenceRecord
  leaves : List PresenceRecord
  hiddenChanges : Nat

def PresenceDelta.idempotent : PresenceDelta := ⟨.idempotent, none, [], [], [], 0⟩

variable (revision : UInt64)

def PresenceDelta.applied (joins updates leaves : List PresenceRecord)
    (hiddenChanges : Nat) : PresenceDelta :=
  ⟨.applied, some revision, joins, updates, leaves, hiddenChanges⟩

inductive PresenceError where
  | generationNotEstablished (connection : ConnectionRef) (received : ConnectionGeneration)
  | staleGeneration (connection : ConnectionRef) (current received : ConnectionGeneration)
  | generationAhead (connection : ConnectionRef) (current received : ConnectionGeneration)
  | identityConflict (connection : ConnectionRef) (existing received : PresenceIdentity)
  | presenceNotJoined (connection : ConnectionRef) (stream : StreamKey)
  | revisionExhausted
  | invariantViolation (text : String)
  deriving DecidableEq

def usizeMax : Nat := 2 ^ 64 - 1

def saturatingAdd (a b : Nat) : Nat := min (a + b) usizeMax

def checkedAdd (a b : Nat) : Option Nat := if a + b ≤ usizeMax then some (a + b) else none

def checkedSub (a b : Nat) : Option Nat := if b ≤ a then some (a - b) else none

def nextRevision : Option UInt64 :=
  if revision.toNat + 1 < 2 ^ 64 then some (revision + 1) else none

open Checks FiniteMap

structure PresenceKey where
  connection : ConnectionRef
  stream : StreamKey

instance : LinearOrder PresenceKey :=
  LinearOrder.lift' (fun key => toLex (key.connection, key.stream)) <| by
    intro x y h
    obtain ⟨⟩ := x
    obtain ⟨⟩ := y
    simpa using h

structure ConnectionState where
  generation : ConnectionGeneration
  identity : PresenceIdentity

structure PresenceRouter where
  revision : UInt64
  connections : Dict ConnectionRef ConnectionState
  entries : Dict PresenceKey PresenceRecord

def generationAdvance (current : Option ConnectionState) (received : ConnectionGeneration) : Prop :=
  ∀ state ∈ current, state.generation < received

instance (current : Option ConnectionState) (received : ConnectionGeneration) :
    Decidable (generationAdvance current received) := by
  unfold generationAdvance
  infer_instance

structure Sweep where
  entries : Dict PresenceKey PresenceRecord
  leaves : List PresenceRecord
  hiddenChanges : Nat

def Sweep.remove (text : String) (sweep : Sweep) (key : PresenceKey) : Except PresenceError Sweep := do
  let removed ← fetch (sweep.entries.lookup key) (.invariantViolation text)
  let entries := sweep.entries.erase key
  return if removed.hidden then
    { sweep with entries, hiddenChanges := saturatingAdd sweep.hiddenChanges 1 }
  else { sweep with entries, leaves := sweep.leaves ++ [removed] }

def Sweep.run (text : String) (sweep : Sweep) : List PresenceKey → Except PresenceError Sweep
  | [] => .ok sweep
  | key :: rest => do
    let next ← sweep.remove text key
    next.run text rest

def classifyVisibilityChange (old new : PresenceRecord) : PresenceDelta :=
  match old.hidden, new.hidden with
  | false, false => .applied revision [] [new] [] 0
  | false, true => .applied revision [] [] [old] 0
  | true, false => .applied revision [new] [] [] 0
  | true, true => .applied revision [] [] [] 1

def snapshotOrder (record : PresenceRecord) : String ×ₗ String ×ₗ String :=
  toLex (record.identity.sessionId,
    toLex (record.connection.nodeId, record.connection.connectionId))

namespace PresenceRouter

def new : PresenceRouter := ⟨0, ∅, ∅⟩

variable (r : PresenceRouter)

def entryCount : Nat := r.entries.keys.card

def connectionCount : Nat := r.connections.keys.card

variable (connection : ConnectionRef)

def establishedGeneration : Option ConnectionGeneration :=
  (r.connections.lookup connection).map (·.generation)

def establishedIdentity : Option PresenceIdentity :=
  (r.connections.lookup connection).map (·.identity)

def requireRecordInvariants (key : PresenceKey) (record : PresenceRecord) :
    Except PresenceError Unit := do
  require (key.connection = record.connection ∧ key.stream = record.stream)
    (.invariantViolation "presence key differs from stored record")
  let state ← fetch (r.connections.lookup record.connection)
    (.invariantViolation "stored record has no connection high-water state")
  require (state.generation = record.generation)
    (.invariantViolation "stored record generation differs from high-water generation")
  require (state.identity = record.identity)
    (.invariantViolation "record identity differs from generation-bound identity")

def verifyInvariants : Except PresenceError Unit :=
  (items r.entries).forM fun entry => r.requireRecordInvariants entry.1 entry.2

def entriesOf : List (PresenceKey × PresenceRecord) :=
  (items r.entries).filter fun entry => entry.1.connection = connection

def recordsForConnection :
    Except PresenceError (List PresenceRecord) := do
  (r.entriesOf connection).forM fun entry => r.requireRecordInvariants entry.1 entry.2
  return (r.entriesOf connection).map (·.2)

def entryCountForConnection : Except PresenceError Nat := do
  let records ← r.recordsForConnection connection
  return records.length

def keysForConnection : List PresenceKey :=
  (r.entriesOf connection).map (·.1)

def requireNextRevision : Except PresenceError UInt64 :=
  fetch (nextRevision r.revision) .revisionExhausted

def requireExactGeneration (received : ConnectionGeneration) :
    Except PresenceError Unit := do
  let state ← fetch (r.connections.lookup connection)
    (.generationNotEstablished connection received)
  require (¬ received < state.generation)
    (.staleGeneration connection state.generation received)
  require (¬ state.generation < received)
    (.generationAhead connection state.generation received)

variable (request : JoinPresenceRequest)

def admitGeneration : Except PresenceError Unit :=
  match r.connections.lookup request.connection with
  | none => .ok ()
  | some state => do
    require (¬ request.generation < state.generation)
      (.staleGeneration request.connection state.generation request.generation)
    require (request.generation = state.generation → request.identity = state.identity)
      (.identityConflict request.connection state.identity request.identity)

def joinRecord : PresenceRecord where
  connection := request.connection
  generation := request.generation
  stream := request.stream
  identity := request.identity
  status := request.status
  hidden := request.hidden

def joinAdvance :
    Except PresenceError (PresenceDelta × PresenceRouter) := do
  let retired ← r.recordsForConnection request.connection
  let revision ← r.requireNextRevision
  let sweep ← Sweep.run "entry disappeared during generation advance" ⟨r.entries, [], 0⟩
    (retired.map fun record => ⟨record.connection, record.stream⟩)
  let record := joinRecord request
  let joins := if record.hidden then [] else [record]
  let hiddenChanges :=
    if record.hidden then saturatingAdd sweep.hiddenChanges 1 else sweep.hiddenChanges
  return (.applied revision joins [] sweep.leaves hiddenChanges,
    { revision
      connections :=
        r.connections.insert request.connection ⟨request.generation, request.identity⟩
      entries := sweep.entries.insert ⟨request.connection, request.stream⟩ record })

def joinCurrent :
    Except PresenceError (PresenceDelta × PresenceRouter) :=
  let key : PresenceKey := ⟨request.connection, request.stream⟩
  let record := joinRecord request
  match r.entries.lookup key with
  | none => do
    let revision ← r.requireNextRevision
    let joins := if record.hidden then [] else [record]
    return (.applied revision joins [] [] (if record.hidden then 1 else 0),
      { r with revision, entries := r.entries.insert key record })
  | some existing => do
    r.requireRecordInvariants key existing
    if existing.status = request.status ∧ existing.hidden = request.hidden then
      return (.idempotent, r)
    else
      let revision ← r.requireNextRevision
      return (classifyVisibilityChange revision existing record,
        { r with revision, entries := r.entries.insert key record })

def joinPresence :
    Except PresenceError (PresenceDelta × PresenceRouter) := do
  r.admitGeneration request
  if generationAdvance (r.connections.lookup request.connection) request.generation then
    r.joinAdvance request
  else r.joinCurrent request

def updatePresence (request : UpdatePresenceRequest) :
    Except PresenceError (PresenceDelta × PresenceRouter) := do
  r.requireExactGeneration request.connection request.generation
  let key : PresenceKey := ⟨request.connection, request.stream⟩
  let existing ← fetch (r.entries.lookup key)
    (.presenceNotJoined request.connection request.stream)
  r.requireRecordInvariants key existing
  if existing.status = request.status ∧ existing.hidden = request.hidden then
    return (.idempotent, r)
  else
    let revision ← r.requireNextRevision
    let record := { existing with status := request.status, hidden := request.hidden }
    return (classifyVisibilityChange revision existing record,
      { r with revision, entries := r.entries.insert key record })

def leavePresence (request : LeavePresenceRequest) :
    Except PresenceError (PresenceDelta × PresenceRouter) := do
  r.requireExactGeneration request.connection request.generation
  let key : PresenceKey := ⟨request.connection, request.stream⟩
  match r.entries.lookup key with
  | none => return (.idempotent, r)
  | some existing =>
    r.requireRecordInvariants key existing
    let revision ← r.requireNextRevision
    let sweep ← Sweep.run "entry disappeared during leave" ⟨r.entries, [], 0⟩ [key]
    return (.applied revision [] [] sweep.leaves sweep.hiddenChanges,
      { r with revision, entries := sweep.entries })

def removeConnection (request : RemoveConnectionRequest) :
    Except PresenceError (PresenceDelta × PresenceRouter) := do
  r.requireExactGeneration request.connection request.generation
  let keys := r.keysForConnection request.connection
  if keys = [] then return (.idempotent, r)
  else
    let revision ← r.requireNextRevision
    let sweep ← Sweep.run "entry disappeared during connection removal" ⟨r.entries, [], 0⟩ keys
    return (.applied revision [] [] sweep.leaves sweep.hiddenChanges,
      { r with revision, entries := sweep.entries })

def snapshot (stream : StreamKey) (visibility : SnapshotVisibility) :
    Except PresenceError (List PresenceRecord) := do
  r.verifyInvariants
  let records := ((items r.entries).map (·.2)).filter fun record =>
    record.stream = stream ∧ (visibility = .includeHidden ∨ record.hidden = false)
  return records.insertionSort fun a b => snapshotOrder a ≤ snapshotOrder b

end PresenceRouter

end Presence
