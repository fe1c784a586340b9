import Mathlib.Data.Prod.Lex
import TrillionniumGame.PersistencePg.Sessions
import TrillionniumGame.Storage.Batches

namespace StoragePg

open Checks FiniteMap Paging Tables
open Identity (byteValues)
open Persistence (Bytes DomainError UserId)
open PersistencePg (Bytea asBytes classifyViolation dataLoss decodeBytes invalid query toI64
  transpose)
open Storage hiding applyWrite applyDelete applyOperation applyOperations

def maxListLimit : Nat := 100

structure ObjectRow where
  collection : String
  objectKey : String
  userId : Bytea
  valueBytes : Bytea
  versionDigest : Bytea
  readPermission : Int
  writePermission : Int
  updatedAtMs : Int

def trnmStorageObjects : Schema ObjectRow where
  check row := decide (
    (1 ≤ row.collection.length ∧ row.collection.length ≤ 128) ∧
    (1 ≤ row.objectKey.length ∧ row.objectKey.length ≤ 128) ∧ row.userId.length = 16 ∧
    row.valueBytes.length ≤ 1048576 ∧ row.versionDigest.length = 32 ∧
    (0 ≤ row.readPermission ∧ row.readPermission ≤ 2) ∧
    (0 ≤ row.writePermission ∧ row.writePermission ≤ 1) ∧ 0 ≤ row.updatedAtMs)
  clash row held := decide (held.collection = row.collection ∧ held.objectKey = row.objectKey ∧
    held.userId = row.userId)

def atKey (key : StorageObjectKey) (row : ObjectRow) : Bool :=
  row.collection = key.collection && row.objectKey = key.key &&
    row.userId = asBytes key.userId.bytes

def storageNotFound : DomainError := ⟨.notFound, "storage_object_not_found", .never⟩

def versionMismatch : DomainError :=
  ⟨.failedPrecondition, "storage_version_mismatch", .resyncRequired⟩

def writePermissionError : DomainError :=
  ⟨.permissionDenied, "storage_write_permission_denied", .never⟩

def readCode : ReadPermission → Int
  | .none => 0
  | .owner => 1
  | .publicRead => 2

def writeCode : WritePermission → Int
  | .none => 0
  | .owner => 1

def decodeReadPermission (code : Int) : Except DomainError ReadPermission :=
  if code = 0 then .ok .none
  else if code = 1 then .ok .owner
  else if code = 2 then .ok .publicRead
  else .error (dataLoss "invalid_storage_read_permission")

def decodeWritePermission (code : Int) : Except DomainError WritePermission :=
  if code = 0 then .ok .none
  else if code = 1 then .ok .owner
  else .error (dataLoss "invalid_storage_write_permission")

def newIntegrityDigest (value : IntegrityDigest) : Except DomainError IntegrityDigest := do
  require (Persistence.zeroBytes value.bytes = false) (invalid "invalid_storage_integrity_digest")
  return value

def newStorageObjectKey (collection key : String) (userId : UserId) :
    Except DomainError StorageObjectKey :=
  if hcollection : validComponent collection maxCollectionBytes = true then
    if hkey : validComponent key maxKeyBytes = true then
      .ok ⟨collection, key, userId, hcollection, hkey⟩
    else .error (invalid "invalid_storage_key")
  else .error (invalid "invalid_storage_collection")

def decodeStorageKey (collection objectKey : String) (userBytes : Bytea) :
    Except DomainError StorageObjectKey := do
  let user ← decodeBytes 16 "invalid_storage_user_id" userBytes
  (newStorageObjectKey collection objectKey ⟨user⟩).mapError fun _ =>
    dataLoss "invalid_storage_key_material"

def authorizeRead (actor : Actor) (object : StorageObject) : Except DomainError Unit :=
  have allowed : Bool := match actor with
    | .server => true
    | .user user =>
      object.readPermission = .publicRead ||
        (user = object.key.userId && object.readPermission = .owner)
  require (allowed = true) ⟨.permissionDenied, "storage_read_permission_denied", .never⟩

def authorizeWrite (actor : Actor) (key : StorageObjectKey) (existing : Option StorageObject) :
    Except DomainError Unit :=
  match actor with
  | .server => .ok ()
  | .user user => do
    require (¬ (user.isZero = true ∨ user ≠ key.userId)) writePermissionError
    require (¬ ∃ object ∈ existing, object.writePermission ≠ .owner) writePermissionError

def validateVersion (existing : Option StorageObject) (check : VersionCheck) :
    Except DomainError Unit :=
  match check with
  | .any => .ok ()
  | .mustNotExist =>
    if existing.isNone then .ok ()
    else .error ⟨.alreadyExists, "storage_object_already_exists", .never⟩
  | .exact expected =>
    match existing with
    | some object => if object.version = expected then .ok () else .error versionMismatch
    | none => .error versionMismatch

def validateStorageBatch (operations : List BatchOperation) : Except DomainError Unit := do
  require (¬ (operations = [] ∨ maxBatchOperations < operations.length))
    (invalid "invalid_storage_batch_size")
  require (operations.map BatchOperation.key).Nodup (invalid "duplicate_storage_key_in_batch")

def keyOrder (key : StorageObjectKey) : List Nat ×ₗ List Nat ×ₗ List Nat :=
  toLex ((utf8 key.collection).map UInt8.toNat,
    toLex ((utf8 key.key).map UInt8.toNat, byteValues key.userId.bytes))

def sortedKeys (operations : List BatchOperation) : List StorageObjectKey :=
  sortedBy keyOrder (operations.map BatchOperation.key).dedup

abbrev Staged := Dict StorageObjectKey (Option StorageObject)

section Digests
variable (sha256 : List UInt8 → Bytes 32)

def verifyStorageIntegrity (value : Bytea) (stored : IntegrityDigest) : Except DomainError Unit :=
  require (stored = integrityOf sha256 value) (dataLoss "storage_integrity_digest_mismatch")

def decodeStorageObject (key : StorageObjectKey) (row : ObjectRow) :
    Except DomainError StorageObject := do
  require (row.valueBytes.length ≤ maxValueBytes) (dataLoss "invalid_storage_value_bytes")
  let digest ← decodeBytes 32 "invalid_storage_integrity_digest" row.versionDigest
  let integrityDigest ← (newIntegrityDigest ⟨digest⟩).mapError fun _ =>
    dataLoss "invalid_storage_integrity_digest"
  verifyStorageIntegrity sha256 row.valueBytes integrityDigest
  let readPermission ← decodeReadPermission row.readPermission
  let writePermission ← decodeWritePermission row.writePermission
  return {
    key
    version := .fromValue row.valueBytes
    value := row.valueBytes
    integrityDigest, readPermission, writePermission }

def decodeListedStorageObject (collection : String) (row : ObjectRow) :
    Except DomainError StorageObject := do
  let key ← decodeStorageKey collection row.objectKey row.userId
  decodeStorageObject sha256 key row

section

variable (table : List ObjectRow)

def readStorageObject (actor : Actor) (key : StorageObjectKey) :
    Except DomainError StorageObject := do
  let row ← fetch (← query table (atKey key)) storageNotFound
  let object ← decodeStorageObject sha256 key row
  authorizeRead actor object
  return object

def loadForUpdate (key : StorageObjectKey) : Except DomainError (Option StorageObject) := do
  transpose (decodeStorageObject sha256 key) (← query table (atKey key))

def loadAll (table : List ObjectRow) : List StorageObjectKey → Except DomainError Staged
  | [] => .ok ∅
  | key :: rest => do
    let object ← loadForUpdate sha256 table key
    let staged ← loadAll table rest
    return staged.insert key object

def WriteOperation.row (operation : WriteOperation) (updatedAtMs : Int) : ObjectRow where
  collection := operation.key.collection
  objectKey := operation.key.key
  userId := asBytes operation.key.userId.bytes
  valueBytes := operation.value
  versionDigest := asBytes (integrityOf sha256 operation.value).bytes
  readPermission := readCode operation.readPermission
  writePermission := writeCode operation.writePermission
  updatedAtMs := updatedAtMs

def updateObject (operation : WriteOperation) (updatedAtMs : Int) (row : ObjectRow) : ObjectRow :=
  { row with
    valueBytes := operation.value
    versionDigest := asBytes (integrityOf sha256 operation.value).bytes
    readPermission := readCode operation.readPermission
    writePermission := writeCode operation.writePermission
    updatedAtMs := updatedAtMs }

def applyWrite (staged : Staged) (actor : Actor) (operation : WriteOperation) (updatedAtMs : Int) :
    Except DomainError (MutationReceipt × List ObjectRow × Staged) := do
  require (operation.value.length ≤ maxValueBytes) (invalid "invalid_storage_value")
  let previous ← fetch (staged.lookup operation.key) (dataLoss "storage_batch_lock_missing")
  authorizeWrite actor operation.key previous
  validateVersion previous operation.expected
  let version := ContentVersion.fromValue operation.value
  let integrityDigest := integrityOf sha256 operation.value
  require (¬ ∃ existing ∈ previous,
      existing.version = version ∧ existing.value ≠ operation.value)
    (dataLoss "storage_public_version_collision_or_integrity_mismatch")
  let (table, affected) ← (if previous.isSome then
      update trnmStorageObjects (atKey operation.key) (updateObject sha256 operation updatedAtMs)
        table
    else
      (insert trnmStorageObjects (WriteOperation.row sha256 operation updatedAtMs) table).map
        fun table => (table, 1)).mapError classifyViolation
  require (affected = 1) (dataLoss "storage_write_row_count_mismatch")
  let next : StorageObject := {
    key := operation.key
    value := operation.value
    version, integrityDigest
    readPermission := operation.readPermission
    writePermission := operation.writePermission }
  return (⟨operation.key, previous.map (·.version), some version⟩, table,
    staged.insert operation.key (some next))

def applyDelete (staged : Staged) (actor : Actor) (operation : DeleteOperation) :
    Except DomainError (MutationReceipt × List ObjectRow × Staged) := do
  let loaded ← fetch (staged.lookup operation.key) (dataLoss "storage_batch_lock_missing")
  let previous ← fetch loaded storageNotFound
  authorizeWrite actor operation.key (some previous)
  require (¬ ∃ expected ∈ operation.expectedVersion, expected ≠ previous.version) versionMismatch
  let deleted := table.countP (atKey operation.key)
  let table := table.filter fun row => !atKey operation.key row
  require (deleted = 1) (dataLoss "storage_delete_row_count_mismatch")
  return (⟨operation.key, some previous.version, none⟩, table, staged.insert operation.key none)

end

def applyOperation (actor : Actor) (updatedAtMs : Int) (table : List ObjectRow)
    (staged : Staged) : BatchOperation →
    Except DomainError (MutationReceipt × List ObjectRow × Staged)
  | .write write => applyWrite sha256 table staged actor write updatedAtMs
  | .delete delete => applyDelete table staged actor delete

def applyOperations (actor : Actor) (updatedAtMs : Int) : List ObjectRow → Staged →
    List BatchOperation → Except DomainError (List MutationReceipt × List ObjectRow)
  | table, _, [] => .ok ([], table)
  | table, staged, operation :: rest => do
    let (receipt, table, staged) ← applyOperation sha256 actor updatedAtMs table staged operation
    let (receipts, table) ← applyOperations actor updatedAtMs table staged rest
    return (receipt :: receipts, table)

def applyStorageBatch (table : List ObjectRow) (actor : Actor) (operations : List BatchOperation)
    (updatedAtMs : Nat) : Except DomainError (List MutationReceipt × List ObjectRow) := do
  validateStorageBatch operations
  let updatedAtMs ← toI64 updatedAtMs
  let staged ← loadAll sha256 table (sortedKeys operations)
  applyOperations sha256 actor updatedAtMs table staged operations

def afterStorageBatch (table : List ObjectRow) (actor : Actor) (operations : List BatchOperation)
    (updatedAtMs : Nat) : List ObjectRow :=
  match applyStorageBatch sha256 table actor operations updatedAtMs with
  | .ok (_, next) => next
  | .error _ => table

structure StorageListCursor where
  actor : Actor
  owner : Option UserId
  key : StorageObjectKey

def zeroActor : Actor → Bool
  | .server => false
  | .user user => user.isZero

def validateActorAndOwner (actor : Actor) (owner : Option UserId) : Except DomainError Unit := do
  require (zeroActor actor = false) (invalid "invalid_storage_actor")
  require (¬ ∃ user ∈ owner, user.isZero = true) (invalid "invalid_storage_owner")

def validateListRequest (actor : Actor) (collection : String) (owner : Option UserId)
    (after : Option StorageListCursor) (limit : Nat) : Except DomainError Unit := do
  require (validComponent collection maxCollectionBytes = true)
    (invalid "invalid_storage_collection")
  require (¬ (limit = 0 ∨ maxListLimit < limit)) (invalid "invalid_storage_list_limit")
  validateActorAndOwner actor owner
  require (¬ ∃ cursor ∈ after, cursor.actor ≠ actor ∨ cursor.owner ≠ owner ∨
      cursor.key.collection ≠ collection ∨ ∃ user ∈ owner, user ≠ cursor.key.userId)
    (invalid "storage_cursor_scope_mismatch")

def rowOrder (objectKey : String) (userId : Bytea) : List Nat ×ₗ List Nat :=
  toLex ((utf8 objectKey).map UInt8.toNat, userId.map UInt8.toNat)

def ObjectRow.order (row : ObjectRow) : List Nat ×ₗ List Nat := rowOrder row.objectKey row.userId

-- Both profiles' statements: the text columns are compared and ordered as UTF-8 bytes.
def storageListQuery (table : List ObjectRow) (collection : String) (owner : Option Bytea)
    (afterKey : String) (afterUser : Bytea) (actor : Option Bytea) (fetchLimit : Nat) :
    List ObjectRow :=
  let visible := table.filter fun row =>
    utf8 row.collection = utf8 collection && owner.all (row.userId = ·) &&
      rowOrder afterKey afterUser < row.order &&
      (actor.isNone || row.readPermission = 2 ||
        (actor.all (row.userId = ·) && row.readPermission = 1))
  (sortedBy ObjectRow.order visible).take fetchLimit

def finishStoragePage (objects : List StorageObject) (actor : Actor) (owner : Option UserId)
    (limit : Nat) : List StorageObject × Option StorageListCursor :=
  let (page, last) := cut objects limit
  (page, last.map fun object => ⟨actor, owner, object.key⟩)

def listStorageObjects (table : List ObjectRow) (actor : Actor) (collection : String)
    (owner : Option UserId) (after : Option StorageListCursor) (limit : Nat) :
    Except DomainError (List StorageObject × Option StorageListCursor) := do
  validateListRequest actor collection owner after limit
  let ownerBytes := owner.map fun user => asBytes user.bytes
  let actorBytes := match actor with
    | .server => none
    | .user user => some (asBytes user.bytes)
  let (afterKey, afterUser) := match after with
    | none => ("", List.replicate 16 0)
    | some cursor => (cursor.key.key, asBytes cursor.key.userId.bytes)
  let rows := storageListQuery table collection ownerBytes afterKey afterUser actorBytes (limit + 1)
  let objects ← rows.mapM (decodeListedStorageObject sha256 collection)
  return finishStoragePage objects actor owner limit

end Digests

end StoragePg
