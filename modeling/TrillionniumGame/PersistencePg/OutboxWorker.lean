import TrillionniumGame.Foundation.Programs
import TrillionniumGame.PersistencePg.Outbox

namespace PersistencePg
open Checks Directories Persistence Programs

def databaseRetryMaxAttempts : Nat := 5
def maxConsecutiveDatabaseFailures : Nat := 20

inductive WorkerError where
  | configuration (reason : String)
  | crypto (reason : String)
  | io
  | domain (error : DomainError)

structure WorkerConfig where
  node : NodeId
  batchSize : Nat
  leaseDurationMs : Nat
  maxAttempts : Nat
  maxBackoffMs : Nat
  hasNode : node.isZero = false
  batches : 1 ≤ batchSize ∧ batchSize ≤ 64
  durations : 1000 ≤ leaseDurationMs ∧ leaseDurationMs ≤ 10 * 60000
  attempts : 1 ≤ maxAttempts ∧ maxAttempts ≤ 32
  backoffs : 100 ≤ maxBackoffMs ∧ maxBackoffMs ≤ 24 * 60 * 60000

structure BatchReport where
  claimed : Nat
  completed : Nat
  retried : Nat
  deadLettered : Nat

structure DeliveryFailure where
  code : String

def encodeHex (bytes : List UInt8) : List Char :=
  bytes.flatMap fun byte => [Nat.digitChar (byte.toNat / 16), Nat.digitChar (byte.toNat % 16)]

def intentKindName : IntentKind → String
  | .broadcast => "broadcast"
  | .searchIndex => "search_index"
  | .notification => "notification"
  | .externalEffect => "external_effect"
  | .completion => "completion"

def asciiBytes (text : List Char) : List UInt8 := text.map fun c => UInt8.ofNat c.toNat

def spoolRecord (subject : OutboxSubject) : List UInt8 := asciiBytes <|
  "\x7b\"schema\":\"trillionnium.outbox-spool.v1\",\"intent_id\":\"".toList ++
  encodeHex subject.id.bytes.toList ++ "\",\"entity_id\":\"".toList ++
  encodeHex subject.entity.bytes.toList ++ "\",\"command_id\":\"".toList ++
  encodeHex subject.command.bytes.toList ++ "\",\"kind\":\"".toList ++
  (intentKindName subject.kind).toList ++ "\",\"payload_digest\":\"".toList ++
  encodeHex subject.payload.bytes.toList ++ "\"\x7d\n".toList

abbrev SpoolName := List Char

def finalName (id : IntentId) : SpoolName := encodeHex id.bytes.toList ++ ".json".toList

variable (config : WorkerConfig) (lease : OutboxLease)

def temporaryName : SpoolName :=
  '.' :: encodeHex lease.id.bytes.toList ++ '.' :: Nat.toDigits 10 lease.leaseGeneration ++
    '.' :: encodeHex lease.owner.bytes.toList ++ ".tmp".toList

inductive FileError where
  | alreadyExists | other

-- What a worker calls: the clock, the database, the spool directory, OpenSSL. `deliver` only
-- marks that `SpoolSink::deliver` has been entered.
inductive Call where
  | nowMillis
  | acquire
  | claimOutboxBatch (owner : NodeId) (nowMs leaseDurationMs maxAttempts limit : Nat)
  | completeOutbox (lease : OutboxLease) (receipt : Digest32) (completedAtMs : Nat)
  | retryOrDeadLetterOutbox (lease : OutboxLease) (nowMs nextAvailableAtMs maxAttempts : Nat)
      (deadReason : Digest32)
  | deliver (lease : OutboxLease)
  | createDirAll
  | pathExists (path : SpoolName)
  | symlinkMetadata (path : SpoolName)
  | read (path : SpoolName)
  | createNew (path : SpoolName)
  | openFile (path : SpoolName)
  | write (file position : Nat) (byte : UInt8)
  | syncAll (file : Nat)
  | hardLink (source target : SpoolName)
  | removeFile (path : SpoolName)
  | syncDirectory
  | sha256Delivery (input : List UInt8)
  | sha256Worker (input : List UInt8)

abbrev Call.Reply : Call → Type
  | .nowMillis => Except WorkerError Nat
  | .acquire => Except DomainError Unit
  | .claimOutboxBatch .. => Except DomainError OutboxClaimBatch
  | .completeOutbox .. => Except DomainError Unit
  | .retryOrDeadLetterOutbox .. => Except DomainError OutboxRetryOutcome
  | .deliver _ => Unit
  | .createDirAll => Except FileError Unit
  | .pathExists _ => Bool
  | .symlinkMetadata _ => Except FileError Bool
  | .read _ => Except FileError (List UInt8)
  | .createNew _ => Except FileError Nat
  | .openFile _ => Except FileError Nat
  | .write .. => Except FileError Unit
  | .syncAll _ => Except FileError Unit
  | .hardLink .. => Except FileError Unit
  | .removeFile _ => Except FileError Unit
  | .syncDirectory => Except FileError Unit
  | .sha256Delivery _ => Option Digest32
  | .sha256Worker _ => Option Digest32

abbrev Worker (ε α : Type) := Procedure Call Call.Reply ε α

def ask {ε : Type} (c : Call) : Worker ε c.Reply := Procedure.ask c

def failing {ε α : Type} (code : String) (reply : Except ε α) : Worker DeliveryFailure α :=
  Procedure.reply reply fun _ => ⟨code⟩

def verifyExistingFile (path : SpoolName) (expected : List UInt8) :
    Worker DeliveryFailure Unit := do
  let metadata ← ask (.symlinkMetadata path)
  let isFile ← failing "spool_read_failed" metadata
  let _ ← failing "spool_not_regular_file" (require (isFile = true) ())
  let contents ← ask (.read path)
  let actual ← failing "spool_read_failed" contents
  failing "spool_receipt_conflict" (require (actual = expected) ())

def writeAll (file : Nat) : Nat → List UInt8 → Worker DeliveryFailure Unit
  | _, [] => pure ()
  | position, byte :: rest => do
    let written ← ask (.write file position byte)
    failing "spool_write_failed" written
    writeAll file (position + 1) rest

def syncFile (file : Nat) : Worker DeliveryFailure Unit := do
  let synced ← ask (.syncAll file)
  failing "spool_sync_failed" synced

def reopenAndSync (path : SpoolName) : Worker DeliveryFailure Unit := do
  let opened ← ask (.openFile path)
  let file ← failing "spool_sync_failed" opened
  syncFile file

def prepareCreated (path : SpoolName) (expected : List UInt8) :
    Except FileError Nat → Worker DeliveryFailure Unit
  | .ok file => do
    writeAll file 0 expected
    syncFile file
  | .error .alreadyExists => do
    verifyExistingFile path expected
    reopenAndSync path
  | .error .other => throw ⟨"spool_create_failed"⟩

def prepareTemporaryFile (path : SpoolName) (expected : List UInt8) :
    Worker DeliveryFailure Unit := do
  let created ← ask (.createNew path)
  prepareCreated path expected created

def sha256Delivery (input : List UInt8) : Worker DeliveryFailure Digest32 := do
  let digest ← ask (.sha256Delivery input)
  failing "spool_digest_failed" (fetch digest ())

def confirm (finalPath : SpoolName) (record : List UInt8) : Worker DeliveryFailure Digest32 := do
  verifyExistingFile finalPath record
  sha256Delivery record

def settleLink (finalPath : SpoolName) (record : List UInt8) :
    Except FileError Unit → Worker DeliveryFailure Unit
  | .ok () => pure ()
  | .error .alreadyExists => verifyExistingFile finalPath record
  | .error .other => throw ⟨"spool_link_failed"⟩

def publish (finalPath temporaryPath : SpoolName) (record : List UInt8) :
    Worker DeliveryFailure Digest32 := do
  prepareTemporaryFile temporaryPath record
  let linked ← ask (.hardLink temporaryPath finalPath)
  settleLink finalPath record linked
  let _ ← ask (.removeFile temporaryPath)
  let synced ← ask .syncDirectory
  failing "spool_directory_sync_failed" synced
  confirm finalPath record

def deliver : Worker DeliveryFailure Digest32 := do
  ask (.deliver lease)
  let found ← ask (.pathExists (finalName lease.id))
  if found then confirm (finalName lease.id) (spoolRecord lease.subject)
  else publish (finalName lease.id) (temporaryName lease) (spoolRecord lease.subject)

def nowMillis : Worker WorkerError Nat := do
  let now ← ask .nowMillis
  Procedure.reply now id

def sha256Worker (input : List UInt8) : Worker WorkerError Digest32 := do
  let digest ← ask (.sha256Worker input)
  Procedure.reply (fetch digest ()) fun _ => .crypto "sha256_digest_failed"

def bigEndian (bytes : List UInt8) : Nat :=
  bytes.foldl (fun value byte => value * 256 + byte.toNat) 0

def u64BeBytes (value : Nat) : List UInt8 :=
  (List.range 8).map fun i => UInt8.ofNat (value / 256 ^ (7 - i))

def backoffBase (attempt maximumMs : Nat) : Nat :=
  max (min (100 * 2 ^ min (attempt - 1) 20) maximumMs) 1

def retryDelayMs (maximumMs : Nat) : Worker WorkerError Nat := do
  let base := backoffBase lease.attempt maximumMs
  let floor := max (base / 2) 1
  let width := base - floor + 1
  let digest ← sha256Worker (lease.id.bytes.toList ++ lease.owner.bytes.toList ++
    u64BeBytes lease.leaseGeneration)
  return floor + bigEndian (digest.bytes.toList.take 8) % width

def BatchReport.settled (report : BatchReport) : OutboxRetryOutcome → BatchReport
  | .pending .. => { report with retried := report.retried + 1 }
  | .deadLetter .. => { report with deadLettered := report.deadLettered + 1 }

def settleFailure (failure : DeliveryFailure)
    (report : BatchReport) : Worker WorkerError BatchReport := do
  let retryNowMs ← nowMillis
  let delayMs ← retryDelayMs lease config.maxBackoffMs
  let nextAvailableAtMs ← Procedure.reply (fetch (checkedAdd retryNowMs delayMs) ())
    fun _ => .configuration "retry_timestamp_overflow"
  let reason ← sha256Worker (asciiBytes failure.code.toList)
  let outcome ← ask (.retryOrDeadLetterOutbox lease retryNowMs nextAvailableAtMs
    config.maxAttempts reason)
  let outcome ← Procedure.reply outcome .domain
  return report.settled outcome

def settleDelivery (receipt : Digest32) (report : BatchReport) :
    Worker WorkerError BatchReport := do
  let completedAtMs ← nowMillis
  let completed ← ask (.completeOutbox lease receipt completedAtMs)
  Procedure.reply completed .domain
  return { report with completed := report.completed + 1 }

def settle (report : BatchReport) :
    Except DeliveryFailure Digest32 → Worker WorkerError BatchReport
  | .ok receipt => settleDelivery lease receipt report
  | .error failure => settleFailure config lease failure report

def processLease (report : BatchReport) :
    Worker WorkerError BatchReport := do
  let delivered ← Procedure.attempt (deliver lease)
  settle config lease report delivered

def processLeases (config : WorkerConfig) : List OutboxLease → BatchReport →
    Worker WorkerError BatchReport
  | [], report => pure report
  | lease :: rest, report => do
    let report ← processLease config lease report
    processLeases config rest report

def processOnceAttempt : Worker WorkerError BatchReport := do
  let nowMs ← nowMillis
  let acquired ← ask .acquire
  Procedure.reply acquired .domain
  let claimed ← ask (.claimOutboxBatch config.node nowMs config.leaseDurationMs
    config.maxAttempts config.batchSize)
  let batch ← Procedure.reply claimed .domain
  processLeases config batch.leases ⟨batch.leases.length, 0, 0, batch.reapedDeadLetters⟩

def retryableDatabaseError (retry : RetryClass) : Bool :=
  retry ∈ [RetryClass.safeImmediate, .safeBackoff]

def again (retry : Worker WorkerError BatchReport) :
    Except WorkerError BatchReport → Worker WorkerError BatchReport
  | .error (.domain error) =>
    if retryableDatabaseError error.retry then retry else throw (.domain error)
  | .error error => throw error
  | .ok report => pure report

def processOnceWith (config : WorkerConfig) : Nat → Worker WorkerError BatchReport
  | 0 => processOnceAttempt config
  | attempts + 1 => do
    let report ← Procedure.attempt (processOnceAttempt config)
    again (processOnceWith config attempts) report

def processOnce : Worker WorkerError BatchReport :=
  processOnceWith config (databaseRetryMaxAttempts - 1)

def openSpool : Worker WorkerError Unit := do
  let made ← ask .createDirAll
  Procedure.reply made fun _ => .io

def startUp : Worker WorkerError BatchReport := do
  openSpool
  processOnce config

open Runs

variable {W : Type} [DecidableEq W]

structure Shared (W : Type) where
  directory : Directory SpoolName UInt8
  outbox : List OutboxRow
  obtained : List (W × OutboxLease)
  tried : List (W × OutboxLease)
  waiting : W → List OutboxLease

namespace Shared

variable (s : Shared W)

def obtains (w : W) (batch : OutboxClaimBatch) : Shared W :=
  { s with
    obtained := s.obtained ++ batch.leases.map fun lease => (w, lease)
    waiting := Function.update s.waiting w batch.leases }

def tries (w : W) (lease : OutboxLease) : Shared W :=
  { s with
    tried := (w, lease) :: s.tried
    waiting := Function.update s.waiting w ((s.waiting w).erase lease) }

end Shared

-- A transaction that answers has run. One that fails may have run all the same.
inductive Transacts {α : Type} (run : Except DomainError (α × List OutboxRow))
    (table : List OutboxRow) : Except DomainError α → List OutboxRow → Prop
  | answered {a : α} {table' : List OutboxRow} (h : run = .ok (a, table')) :
      Transacts run table (.ok a) table'
  | lost {a : α} {table' : List OutboxRow} (e : DomainError) (h : run = .ok (a, table')) :
      Transacts run table (.error e) table'
  | failed (e : DomainError) : Transacts run table (.error e) table

theorem Transacts.table {α : Type} {run : Except DomainError (α × List OutboxRow)}
    {table table' : List OutboxRow} {r : Except DomainError α} (h : Transacts run table r table') :
    table' = table ∨ ∃ a, run = .ok (a, table') := by
  cases h with
  | answered hrun | lost _ hrun => exact .inr ⟨_, hrun⟩
  | failed => exact .inl rfl

inductive Effect (d d' : Directory SpoolName UInt8) :
    Except FileError Unit → Directory SpoolName UInt8 → Prop
  | done : Effect d d' (.ok ()) d'
  | lost (e : FileError) : Effect d d' (.error e) d'
  | failed (e : FileError) : Effect d d' (.error e) d

inductive Creates (d : Directory SpoolName UInt8) (path : SpoolName) :
    Except FileError Nat → Directory SpoolName UInt8 → Prop
  | created (present : d.present = true) (free : d.entries path = none) :
      Creates d path (.ok d.next) (d.create path)
  | taken (held : d.entries path ≠ none) : Creates d path (.error .alreadyExists) d
  | failed : Creates d path (.error .other) d

inductive Links (d : Directory SpoolName UInt8) (source target : SpoolName) :
    Except FileError Unit → Directory SpoolName UInt8 → Prop
  | linked {file : Nat} (held : d.entries source = some file) (free : d.entries target = none) :
      Links d source target (.ok ()) (d.link target file)
  | taken (held : d.entries target ≠ none) : Links d source target (.error .alreadyExists) d
  | failed : Links d source target (.error .other) d

def Answers (sha256 : List UInt8 → Digest32) (w : W) :
    (c : Call) → Shared W → c.Reply → Shared W → Prop
  | .nowMillis, s, _, t => t = s
  | .acquire, s, _, t => t = s
  | .claimOutboxBatch owner nowMs duration maxAttempts limit, s, r, t =>
    ∃ table, Transacts (claimOutboxBatch owner nowMs duration maxAttempts limit s.outbox) s.outbox
      r table ∧ t = match r with
        | .ok batch => { s with outbox := table }.obtains w batch
        | .error _ => { s with outbox := table }
  | .completeOutbox lease receipt completedAtMs, s, r, t =>
    ∃ table, Transacts ((completeOutbox lease receipt completedAtMs s.outbox).map ((), ·)) s.outbox
      r table ∧ t = { s with outbox := table }
  | .retryOrDeadLetterOutbox lease nowMs next maxAttempts reason, s, r, t =>
    ∃ table, Transacts (retryOrDeadLetterOutbox lease nowMs next maxAttempts reason s.outbox)
      s.outbox r table ∧ t = { s with outbox := table }
  | .deliver lease, s, _, t => t = s.tries w lease
  | .createDirAll, s, r, t =>
    ∃ d, Effect s.directory s.directory.make r d ∧ t = { s with directory := d }
  | .pathExists path, s, found, t =>
    t = s ∧ (found = true → s.directory.entries path ≠ none)
  | .symlinkMetadata path, s, r, t =>
    t = s ∧ ∀ isFile, r = .ok isFile → isFile = true ∧ s.directory.entries path ≠ none
  | .read path, s, r, t =>
    t = s ∧ ∀ contents, r = .ok contents → s.directory.read path = some contents
  | .createNew path, s, r, t =>
    ∃ d, Creates s.directory path r d ∧ t = { s with directory := d }
  | .openFile path, s, r, t =>
    t = s ∧ ∀ file, r = .ok file → s.directory.entries path = some file
  | .write file position byte, s, r, t =>
    ∃ d, Effect s.directory (s.directory.write file position byte) r d ∧
      t = { s with directory := d }
  | .syncAll file, s, r, t =>
    ∃ d, Effect s.directory (s.directory.syncFile file) r d ∧ t = { s with directory := d }
  | .hardLink source target, s, r, t =>
    ∃ d, Links s.directory source target r d ∧ t = { s with directory := d }
  | .removeFile path, s, r, t =>
    ∃ d, Effect s.directory (s.directory.remove path) r d ∧ t = { s with directory := d }
  | .syncDirectory, s, r, t =>
    ∃ d, Effect s.directory s.directory.sync r d ∧ t = { s with directory := d }
  | .sha256Delivery input, s, digest, t => t = s ∧ ∀ d, digest = some d → d = sha256 input
  | .sha256Worker input, s, digest, t => t = s ∧ ∀ d, digest = some d → d = sha256 input

abbrev Outcome := Except WorkerError BatchReport

structure Outboxes (W : Type) where
  world : World W Call Call.Reply Outcome (Shared W)
  failures : W → Nat

def afterPass (failures : Nat) : Outcome → Option Nat
  | .ok _ => some 0
  | .error (.domain _) =>
    if maxConsecutiveDatabaseFailures ≤ failures + 1 then none else some (failures + 1)
  | .error _ => none

structure OutboxRow.Fresh (row : OutboxRow) (table : List OutboxRow) : Prop where
  unused : ∀ held ∈ table, held.intentId ≠ row.intentId
  state : row.state = .pending
  attempt : row.attempt = 0
  generation : row.leaseGeneration = 0

inductive Event (W : Type) where
  | start (w : W)
  | act (w : W)
  | serve (w : W)
  | leave (w : W)
  | die (w : W)
  | powerLoss
  | insert (row : OutboxRow)

def Shared.powerLoss (s : Shared W) : Shared W := { s with directory := s.directory.powerLoss }

def Shared.insert (s : Shared W) (row : OutboxRow) : Shared W :=
  { s with outbox := row :: s.outbox }

section Steps

variable (answers : W → (c : Call) → Shared W → c.Reply → Shared W → Prop)
  (config : W → WorkerConfig)

inductive OutboxStep (s : Outboxes W) : Event W → Outboxes W → Prop
  | start {w : W} (idle : s.world.programs w = none) :
      OutboxStep s (.start w)
        ⟨s.world.set w (some (startUp (config w)).run), Function.update s.failures w 0⟩
  | act {w : W} {world : World W Call Call.Reply Outcome (Shared W)}
      (acts : World.Acts answers w s.world world) : OutboxStep s (.act w) { s with world }
  | serve {w : W} {outcome : Outcome} {failures : Nat}
      (ended : s.world.programs w = some (.done outcome))
      (goesOn : afterPass (s.failures w) outcome = some failures) :
      OutboxStep s (.serve w)
        ⟨s.world.set w (some (processOnce (config w)).run), Function.update s.failures w failures⟩
  | leave {w : W} {outcome : Outcome} (ended : s.world.programs w = some (.done outcome)) :
      OutboxStep s (.leave w) { s with world := s.world.set w none }
  | die {w : W} : OutboxStep s (.die w) { s with world := s.world.set w none }
  | powerLoss : OutboxStep s .powerLoss
      { s with world := ⟨s.world.shared.powerLoss, fun _ => none⟩ }
  | insert {row : OutboxRow} (fresh : row.Fresh s.world.shared.outbox) :
      OutboxStep s (.insert row)
        { s with world := { s.world with shared := s.world.shared.insert row } }

end Steps

def Outboxes.initial (anchored : Bool) : Outboxes W where
  world := ⟨⟨.empty anchored, [], [], [], fun _ => []⟩, fun _ => none⟩
  failures _ := 0

def outboxes (answers : W → (c : Call) → Shared W → c.Reply → Shared W → Prop)
    (config : W → WorkerConfig) : System (Outboxes W) (Event W) where
  init s := ∃ anchored, s = .initial anchored
  step := OutboxStep answers config

end PersistencePg
