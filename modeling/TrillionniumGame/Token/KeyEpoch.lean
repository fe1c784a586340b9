import TrillionniumGame.Foundation.Paging
import TrillionniumGame.Foundation.Words
import TrillionniumGame.Persistence.Contracts

namespace Token
open Checks FiniteMap Words
open Persistence (Bytes zeroBytes)

def maxOperationalKeyEpochs : Nat := 8

structure KeyEpoch where
  value : UInt64
  positive : value ≠ 0

instance : LinearOrder KeyEpoch := LinearOrder.lift' (fun epoch => epoch.value.toNat) <| by
  rintro ⟨x, _⟩ ⟨y, _⟩ h
  simp only [KeyEpoch.mk.injEq]
  exact UInt64.toNat_inj.mp h

def KeyEpoch.get (epoch : KeyEpoch) : Nat := epoch.value.toNat

@[ext]
structure KeyId where
  bytes : Bytes 16
  nonzero : zeroBytes bytes = false

instance : DecidableEq KeyId := fun _ _ => decidable_of_iff' _ KeyId.ext_iff

inductive KeyEpochState where
  | active
  | verifyOnly (retireAfter : Int)
  | retired (retiredAt : Int)
  | revoked (revokedAt : Int)
  deriving DecidableEq

structure KeyEpochRecord where
  epoch : KeyEpoch
  keyId : KeyId
  state : KeyEpochState
  activatedAt : Int
  deriving DecidableEq

structure KeyEpochArchiveCheckpoint where
  sequence : Nat
  previousArchiveDigest : Option (Bytes 32)
  archiveDigest : Bytes 32
  highestEpoch : KeyEpoch
  lastLifecycleTime : Int
  authorityLostEpoch : Option KeyEpoch
  active : Option KeyEpoch
  retainedRecords : List KeyEpochRecord
  archivedRecords : List KeyEpochRecord

structure KeyEpochArchiveVerifier where
  verifyCheckpoint : KeyEpochArchiveCheckpoint → Bool
  keyIdIsAbsent : KeyEpochArchiveCheckpoint → KeyId → Bool

inductive KeyEpochError where
  | zeroCapacity
  | capacityTooLarge (received maximum : Nat)
  | capacityExceeded (capacity : Nat)
  | alreadyInitialized
  | notInitialized
  | epochNotFound (epoch : KeyEpoch)
  | epochArchived (epoch : KeyEpoch) (archiveDigest : Bytes 32)
  | nonContiguousRotation (current received : KeyEpoch)
  | keyIdReused (keyId : KeyId)
  | activationTimeRegression (previous received : Int)
  | invalidOverlap
  | noActiveSigner
  | signerNotYetActive (epoch : KeyEpoch) (activatedAt observedAt : Int)
  | epochNotUsableForVerification (epoch : KeyEpoch)
  | epochRevoked (epoch : KeyEpoch)
  | revocationBeforeActivation (epoch : KeyEpoch) (activatedAt received : Int)
  | replacementRequiresRevokedEpoch (epoch : KeyEpoch)
  | epochTerminal (epoch : KeyEpoch)
  | zeroArchiveDigest
  | noTerminalEpochs
  | archiveVerificationRequired
  | archiveVerificationFailed
  | checkpointInvalid (message : String)
  | checkpointVerificationFailed
  | archiveSequenceExhausted

def validateCapacity (capacity : Nat) : Except KeyEpochError Unit := do
  require (capacity ≠ 0) .zeroCapacity
  require (capacity ≤ maxOperationalKeyEpochs) (.capacityTooLarge capacity maxOperationalKeyEpochs)

def terminalTime : KeyEpochState → Option Int
  | .retired retiredAt => some retiredAt
  | .revoked revokedAt => some revokedAt
  | .active | .verifyOnly _ => none

def isRevoked : KeyEpochState → Bool
  | .revoked _ => true
  | .active | .verifyOnly _ | .retired _ => false

structure SeenRecords where
  epochs : Finset KeyEpoch
  keyIds : Finset KeyId
  activeRecordCount : Nat

def SeenRecords.insert (seen : SeenRecords) (record : KeyEpochRecord) (message : String) :
    Except KeyEpochError SeenRecords := do
  require (record.epoch ∉ seen.epochs ∧ record.keyId ∉ seen.keyIds) (.checkpointInvalid message)
  return { seen with
    epochs := Insert.insert record.epoch seen.epochs
    keyIds := Insert.insert record.keyId seen.keyIds }

def checkArchivedRecord (lastLifecycleTime : Int) (seen : SeenRecords) (record : KeyEpochRecord) :
    Except KeyEpochError SeenRecords := do
  let terminalTime ← fetch (terminalTime record.state)
    (.checkpointInvalid "archive contains nonterminal record")
  require (record.activatedAt ≤ terminalTime)
    (.checkpointInvalid "terminal lifecycle time precedes activation")
  require (terminalTime ≤ lastLifecycleTime)
    (.checkpointInvalid "terminal lifecycle time exceeds the checkpoint high-water")
  seen.insert record "duplicate archived epoch or key id"

def checkRetainedRecord (seen : SeenRecords) (record : KeyEpochRecord) :
    Except KeyEpochError SeenRecords := do
  match record.state with
  | .active =>
    let activeRecordCount ← fetch (fits 64 (seen.activeRecordCount + 1))
      (.checkpointInvalid "active record count overflow")
    { seen with activeRecordCount }.insert record "duplicate retained epoch or key id"
  | .verifyOnly retireAfter =>
    require (record.activatedAt < retireAfter)
      (.checkpointInvalid "verify-only retirement does not follow activation")
    seen.insert record "duplicate retained epoch or key id"
  | .retired _ | .revoked _ =>
    .error (.checkpointInvalid "retained set contains terminal record")

def predecessorAuthenticated (sequence : Nat) (previousArchiveDigest : Option (Bytes 32)) :
    Except KeyEpochError Bool :=
  if sequence = 1 then
    match previousArchiveDigest with
    | none => .ok false
    | some _ => .error (.checkpointInvalid "first checkpoint cannot name a predecessor")
  else
    match previousArchiveDigest with
    | some digest => do
      require (zeroBytes digest = false)
        (.checkpointInvalid "predecessor archive digest must not be zero")
      return true
    | none => .error (.checkpointInvalid "chained checkpoint requires a predecessor digest")

def checkActiveBinding (checkpoint : KeyEpochArchiveCheckpoint) (activeRecordCount : Nat)
    (predecessorAuthenticated : Bool) : Except KeyEpochError Unit :=
  match checkpoint.active with
  | some active => do
    require (activeRecordCount = 1)
      (.checkpointInvalid "active checkpoint must retain exactly one active record")
    require (active = checkpoint.highestEpoch ∧ checkpoint.authorityLostEpoch = none ∧
        ∃ record ∈ checkpoint.retainedRecords, record.epoch = active ∧ record.state = .active)
      (.checkpointInvalid "active epoch binding is inconsistent")
  | none => do
    require (activeRecordCount = 0)
      (.checkpointInvalid "authority-loss checkpoint cannot retain an active record")
    require (checkpoint.authorityLostEpoch = some checkpoint.highestEpoch ∧
        ((∃ record ∈ checkpoint.archivedRecords, record.epoch = checkpoint.highestEpoch ∧
          isRevoked record.state = true) ∨ predecessorAuthenticated = true))
      (.checkpointInvalid "authority-loss checkpoint is inconsistent")

def validateCheckpointShape (checkpoint : KeyEpochArchiveCheckpoint) (capacity : Nat) :
    Except KeyEpochError Unit := do
  require (checkpoint.sequence ≠ 0) (.checkpointInvalid "zero archive sequence")
  require (zeroBytes checkpoint.archiveDigest = false) .zeroArchiveDigest
  require (checkpoint.archivedRecords ≠ []) .noTerminalEpochs
  require (checkpoint.retainedRecords.length ≤ capacity)
    (.checkpointInvalid "retained records exceed operational capacity")
  let seen ← checkpoint.archivedRecords.foldlM (checkArchivedRecord checkpoint.lastLifecycleTime)
    ⟨∅, ∅, 0⟩
  let seen ← checkpoint.retainedRecords.foldlM checkRetainedRecord seen
  let highestInBatch ← fetch (ordered seen.epochs).getLast? (.checkpointInvalid "empty checkpoint")
  require (highestInBatch ≤ checkpoint.highestEpoch)
    (.checkpointInvalid "checkpoint record exceeds the monotonic high-water")
  let predecessorAuthenticated ←
    predecessorAuthenticated checkpoint.sequence checkpoint.previousArchiveDigest
  require (¬ (highestInBatch < checkpoint.highestEpoch ∧ predecessorAuthenticated = false))
    (.checkpointInvalid "historical high-water requires an authenticated predecessor")
  require (∀ record ∈ checkpoint.retainedRecords ++ checkpoint.archivedRecords,
      record.activatedAt ≤ checkpoint.lastLifecycleTime)
    (.checkpointInvalid "lifecycle time precedes an activation")
  checkActiveBinding checkpoint seen.activeRecordCount predecessorAuthenticated

structure KeyEpochRegistry where
  capacity : Nat
  active : Option KeyEpoch
  records : Dict KeyEpoch KeyEpochRecord
  usedKeyIds : Finset KeyId
  highestEpoch : Option KeyEpoch
  lastLifecycleTime : Option Int
  authorityLostEpoch : Option KeyEpoch
  checkpoint : Option KeyEpochArchiveCheckpoint
  nextArchiveSequence : Nat

namespace KeyEpochRegistry

def withCapacity (capacity : Nat) : Except KeyEpochError KeyEpochRegistry := do
  validateCapacity capacity
  return ⟨capacity, none, ∅, ∅, none, none, none, none, 1⟩

def fromCheckpoint (capacity : Nat) (checkpoint : KeyEpochArchiveCheckpoint)
    (verifier : KeyEpochArchiveVerifier) : Except KeyEpochError KeyEpochRegistry := do
  validateCapacity capacity
  validateCheckpointShape checkpoint capacity
  require (verifier.verifyCheckpoint checkpoint = true) .checkpointVerificationFailed
  let nextArchiveSequence ← fetch (fits 64 (checkpoint.sequence + 1)) .archiveSequenceExhausted
  return { capacity
           active := checkpoint.active
           records := checkpoint.retainedRecords.foldl
             (fun records record => records.insert record.epoch record) ∅
           usedKeyIds := checkpoint.retainedRecords.foldl
             (fun usedKeyIds record => insert record.keyId usedKeyIds) ∅
           highestEpoch := some checkpoint.highestEpoch
           lastLifecycleTime := some checkpoint.lastLifecycleTime
           authorityLostEpoch := checkpoint.authorityLostEpoch
           checkpoint := some checkpoint
           nextArchiveSequence }

section

variable (r : KeyEpochRegistry)

def requireCapacity : Except KeyEpochError Unit :=
  require (r.records.keys.card < r.capacity) (.capacityExceeded r.capacity)

def activeRecord : Except KeyEpochError KeyEpochRecord := do
  let epoch ← fetch r.active .noActiveSigner
  let record ← fetch (r.records.lookup epoch) (.epochNotFound epoch)
  require (record.state = .active) .noActiveSigner
  return record

def install (next : KeyEpochRecord) : KeyEpochRegistry :=
  { r with
    records := r.records.insert next.epoch next
    usedKeyIds := insert next.keyId r.usedKeyIds
    active := some next.epoch
    highestEpoch := some next.epoch
    lastLifecycleTime := some next.activatedAt
    authorityLostEpoch := none }

def initializeEpoch (epoch : KeyEpoch) (keyId : KeyId) (activatedAt : Int) :
    Except KeyEpochError (KeyEpochRecord × KeyEpochRegistry) := do
  require (r.highestEpoch = none ∧ r.active = none ∧ r.records.keys = ∅) .alreadyInitialized
  r.requireCapacity
  let record : KeyEpochRecord := ⟨epoch, keyId, .active, activatedAt⟩
  return (record, r.install record)

def activeSignerAt (now : Int) : Except KeyEpochError KeyEpochRecord := do
  let record ← r.activeRecord
  require (record.activatedAt ≤ now) (.signerNotYetActive record.epoch record.activatedAt now)
  return record

def requireAbsent (nextKeyId : KeyId) (verifier : Option KeyEpochArchiveVerifier) :
    Except KeyEpochError Unit :=
  match r.checkpoint with
  | some checkpoint => do
    let verifier ← fetch verifier .archiveVerificationRequired
    require (verifier.verifyCheckpoint checkpoint = true) .archiveVerificationFailed
    require (verifier.keyIdIsAbsent checkpoint nextKeyId = true) (.keyIdReused nextKeyId)
  | none => .ok ()

def validateNextEpoch (currentEpoch : KeyEpoch) (previousTime : Int) (nextEpoch : KeyEpoch)
    (nextKeyId : KeyId) (activatedAt : Int) (verifier : Option KeyEpochArchiveVerifier) :
    Except KeyEpochError Unit := do
  let expected ← fetch (fits 64 (currentEpoch.get + 1)) (.nonContiguousRotation currentEpoch nextEpoch)
  require (nextEpoch.get = expected) (.nonContiguousRotation currentEpoch nextEpoch)
  require (nextKeyId ∉ r.usedKeyIds) (.keyIdReused nextKeyId)
  r.requireAbsent nextKeyId verifier
  require (previousTime < activatedAt) (.activationTimeRegression previousTime activatedAt)
  r.requireCapacity

end

-- `rotate` gives no verifier, `rotate_with_archive_verifier` gives one.
def rotateInner (r : KeyEpochRegistry) (nextEpoch : KeyEpoch) (nextKeyId : KeyId)
    (activatedAt previousRetireAfter : Int) (verifier : Option KeyEpochArchiveVerifier) :
    Except KeyEpochError (KeyEpochRecord × KeyEpochRegistry) := do
  let current ← r.activeRecord
  let highest ← fetch r.highestEpoch .notInitialized
  require (current.epoch = highest)
    (.checkpointInvalid "active epoch is not the monotonic high-water")
  let previousTime ← fetch r.lastLifecycleTime .notInitialized
  r.validateNextEpoch highest previousTime nextEpoch nextKeyId activatedAt verifier
  require (activatedAt < previousRetireAfter) .invalidOverlap
  let previous := { current with state := .verifyOnly previousRetireAfter }
  let next : KeyEpochRecord := ⟨nextEpoch, nextKeyId, .active, activatedAt⟩
  return (next, { r with records := r.records.insert current.epoch previous }.install next)

variable (r : KeyEpochRegistry) (nextEpoch : KeyEpoch) (nextKeyId : KeyId)

variable (activatedAt : Int)

def rotate (previousRetireAfter : Int) :
    Except KeyEpochError (KeyEpochRecord × KeyEpochRegistry) :=
  r.rotateInner nextEpoch nextKeyId activatedAt previousRetireAfter none

def rotateWithArchiveVerifier (previousRetireAfter : Int)
    (verifier : KeyEpochArchiveVerifier) :
    Except KeyEpochError (KeyEpochRecord × KeyEpochRegistry) :=
  r.rotateInner nextEpoch nextKeyId activatedAt previousRetireAfter (some verifier)

def installAfterRevocationInner (verifier : Option KeyEpochArchiveVerifier) :
    Except KeyEpochError (KeyEpochRecord × KeyEpochRegistry) := do
  require (r.active = none) .alreadyInitialized
  let highest ← fetch r.highestEpoch .notInitialized
  require (r.authorityLostEpoch = some highest) (.replacementRequiresRevokedEpoch highest)
  let previousTime ← fetch r.lastLifecycleTime .notInitialized
  r.validateNextEpoch highest previousTime nextEpoch nextKeyId activatedAt verifier
  let next : KeyEpochRecord := ⟨nextEpoch, nextKeyId, .active, activatedAt⟩
  return (next, r.install next)

def installAfterRevocation :
    Except KeyEpochError (KeyEpochRecord × KeyEpochRegistry) :=
  r.installAfterRevocationInner nextEpoch nextKeyId activatedAt none

def installAfterRevocationWithArchiveVerifier
    (verifier : KeyEpochArchiveVerifier) :
    Except KeyEpochError (KeyEpochRecord × KeyEpochRegistry) :=
  r.installAfterRevocationInner nextEpoch nextKeyId activatedAt (some verifier)

variable (epoch : KeyEpoch)

def archivedOrNotFound : KeyEpochError :=
  match r.checkpoint, r.highestEpoch with
  | some checkpoint, some highest =>
    if epoch ≤ highest then .epochArchived epoch checkpoint.archiveDigest else .epochNotFound epoch
  | _, _ => .epochNotFound epoch

def verificationKey (now : Int) : Except KeyEpochError KeyEpochRecord := do
  let record ← fetch (r.records.lookup epoch) (r.archivedOrNotFound epoch)
  require (record.activatedAt ≤ now) (.signerNotYetActive epoch record.activatedAt now)
  match record.state with
  | .active => return record
  | .verifyOnly retireAfter =>
    require (now ≤ retireAfter) (.epochNotUsableForVerification epoch)
    return record
  | .retired _ => .error (.epochNotUsableForVerification epoch)
  | .revoked _ => .error (.epochRevoked epoch)

def laterOf (time : Int) : Option Int → Int
  | none => time
  | some latest => max latest time

structure Retiring where
  records : Dict KeyEpoch KeyEpochRecord
  latestTerminalTime : Option Int
  changed : Nat

def retireRecord (now : Int) (retiring : Retiring) (item : KeyEpoch × KeyEpochRecord) : Retiring :=
  match item.2.state with
  | .verifyOnly retireAfter =>
    if retireAfter < now then
      { records := retiring.records.insert item.1 { item.2 with state := .retired retireAfter }
        latestTerminalTime := some (laterOf retireAfter retiring.latestTerminalTime)
        changed := retiring.changed + 1 }
    else retiring
  | .active | .retired _ | .revoked _ => retiring

def retireExpired (now : Int) : Nat × KeyEpochRegistry :=
  let retiring := (items r.records).foldl (retireRecord now) ⟨r.records, r.lastLifecycleTime, 0⟩
  (retiring.changed, { r with
    records := retiring.records
    lastLifecycleTime := retiring.latestTerminalTime })

def revoke (revokedAt : Int) :
    Except KeyEpochError (KeyEpochRecord × KeyEpochRegistry) := do
  let current ← fetch (r.records.lookup epoch) (.epochNotFound epoch)
  require (current.activatedAt ≤ revokedAt)
    (.revocationBeforeActivation epoch current.activatedAt revokedAt)
  match current.state with
  | .retired _ => .error (.epochTerminal epoch)
  | .revoked _ => return (current, r)
  | .active | .verifyOnly _ =>
    let next := { current with state := .revoked revokedAt }
    return (next, { r with
      records := r.records.insert epoch next
      lastLifecycleTime := some (laterOf revokedAt r.lastLifecycleTime)
      active := if r.active = some epoch then none else r.active
      authorityLostEpoch := if r.active = some epoch then some epoch else r.authorityLostEpoch })

def values : List KeyEpochRecord := (items r.records).map (·.2)

def terminalCheckpoint (archiveDigest : Bytes 32) :
    Except KeyEpochError KeyEpochArchiveCheckpoint := do
  require (zeroBytes archiveDigest = false) .zeroArchiveDigest
  let archivedRecords := r.values.filter fun record => (terminalTime record.state).isSome
  require (archivedRecords ≠ []) .noTerminalEpochs
  let retainedRecords := r.values.filter fun record => (terminalTime record.state).isNone
  let highestEpoch ← fetch r.highestEpoch .notInitialized
  let lastLifecycleTime ← fetch r.lastLifecycleTime .notInitialized
  return { sequence := r.nextArchiveSequence
           previousArchiveDigest := r.checkpoint.map (·.archiveDigest)
           archiveDigest
           highestEpoch
           lastLifecycleTime
           authorityLostEpoch := r.authorityLostEpoch
           active := r.active
           retainedRecords
           archivedRecords }

def archiveTerminal (archiveDigest : Bytes 32) (verifier : KeyEpochArchiveVerifier) :
    Except KeyEpochError (KeyEpochArchiveCheckpoint × KeyEpochRegistry) := do
  let checkpoint ← r.terminalCheckpoint archiveDigest
  validateCheckpointShape checkpoint r.capacity
  require (verifier.verifyCheckpoint checkpoint = true) .archiveVerificationFailed
  let nextArchiveSequence ← fetch (fits 64 (r.nextArchiveSequence + 1)) .archiveSequenceExhausted
  return (checkpoint, { r with
    records := checkpoint.archivedRecords.foldl (fun records record => records.erase record.epoch)
      r.records
    usedKeyIds := checkpoint.archivedRecords.foldl
      (fun usedKeyIds record => usedKeyIds.erase record.keyId) r.usedKeyIds
    checkpoint := some checkpoint
    nextArchiveSequence })

end KeyEpochRegistry

end Token
