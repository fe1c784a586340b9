import TrillionniumGame.Foundation.Md5
import TrillionniumGame.Identity.Registry

namespace Storage
open Checks
open Persistence (Bytes DomainError)

def utf8 (text : String) : List UInt8 := text.toUTF8.data.toList

def md5Shifts : List Nat :=
  [7, 12, 17, 22, 7, 12, 17, 22, 7, 12, 17, 22, 7, 12, 17, 22, 5, 9, 14, 20, 5, 9, 14, 20, 5, 9, 14,
  20, 5, 9, 14, 20, 4, 11, 16, 23, 4, 11, 16, 23, 4, 11, 16, 23, 4, 11, 16, 23, 6, 10, 15, 21, 6,
  10, 15, 21, 6, 10, 15, 21, 6, 10, 15, 21]

def md5Constants : List UInt32 :=
  [0xd76aa478, 0xe8c7b756, 0x242070db, 0xc1bdceee, 0xf57c0faf, 0x4787c62a, 0xa8304613, 0xfd469501,
  0x698098d8, 0x8b44f7af, 0xffff5bb1, 0x895cd7be, 0x6b901122, 0xfd987193, 0xa679438e, 0x49b40821,
  0xf61e2562, 0xc040b340, 0x265e5a51, 0xe9b6c7aa, 0xd62f105d, 0x02441453, 0xd8a1e681, 0xe7d3fbc8,
  0x21e1cde6, 0xc33707d6, 0xf4d50d87, 0x455a14ed, 0xa9e3e905, 0xfcefa3f8, 0x676f02d9, 0x8d2a4c8a,
  0xfffa3942, 0x8771f681, 0x6d9d6122, 0xfde5380c, 0xa4beea44, 0x4bdecfa9, 0xf6bb4b60, 0xbebfbc70,
  0x289b7ec6, 0xeaa127fa, 0xd4ef3085, 0x04881d05, 0xd9d4d039, 0xe6db99e5, 0x1fa27cf8, 0xc4ac5665,
  0xf4292244, 0x432aff97, 0xab9423a7, 0xfc93a039, 0x655b59c3, 0x8f0ccc92, 0xffeff47d, 0x85845dd1,
  0x6fa87e4f, 0xfe2ce6e0, 0xa3014314, 0x4e0811a1, 0xf7537e82, 0xbd3af235, 0x2ad7d2bb, 0xeb86d391]

structure Md5State where
  a : UInt32
  b : UInt32
  c : UInt32
  d : UInt32

def md5Initial : Md5State := ⟨0x67452301, 0xefcdab89, 0x98badcfe, 0x10325476⟩

def rotateLeft (word : UInt32) (shift : Nat) : UInt32 := ⟨word.toBitVec.rotateLeft shift⟩

def littleEndian32 (bytes : List UInt8) : UInt32 :=
  bytes.foldr (fun byte word => word * 256 + byte.toUInt32) 0

def littleEndianBytes (count value : Nat) : List UInt8 :=
  (List.range count).map fun index => (value / 256 ^ index).toUInt8

def md5Words (block : List UInt8) : List UInt32 :=
  (List.range 16).map fun index => littleEndian32 ((block.drop (4 * index)).take 4)

def md5Round (words : List UInt32) (state : Md5State) (index : Nat) (shift : Nat)
    (constant : UInt32) : Md5State :=
  let ⟨a, b, c, d⟩ := state
  let (function, wordIndex) :=
    if index < 16 then ((b &&& c) ||| (~~~b &&& d), index)
    else if index < 32 then ((d &&& b) ||| (~~~d &&& c), (5 * index + 1) % 16)
    else if index < 48 then (b ^^^ c ^^^ d, (3 * index + 5) % 16)
    else (c ^^^ (b ||| ~~~d), 7 * index % 16)
  let next := b + rotateLeft (a + function + constant + words.getD wordIndex 0) shift
  ⟨d, next, b, c⟩

def md5Block (state : Md5State) (block : List UInt8) : Md5State :=
  let rounds := (md5Shifts.zip md5Constants).zipIdx
  let final := rounds.foldl
    (fun current round => md5Round (md5Words block) current round.2 round.1.1 round.1.2) state
  ⟨state.a + final.a, state.b + final.b, state.c + final.c, state.d + final.d⟩

def md5Zeros (length : Nat) : Nat := (120 - length % 64) % 64

def md5Message (input : List UInt8) : List UInt8 :=
  let bitLength := input.length * 8 % 2 ^ 64
  let marked := input ++ [0x80]
  marked ++ List.replicate (md5Zeros marked.length) 0 ++ littleEndianBytes 8 bitLength

def md5Blocks (message : List UInt8) : List (List UInt8) :=
  (List.range (message.length / 64)).map fun index => (message.drop (64 * index)).take 64

def md5Digest (input : List UInt8) : List UInt8 :=
  let ⟨a, b, c, d⟩ := (md5Blocks (md5Message input)).foldl md5Block md5Initial
  [a, b, c, d].flatMap fun word => littleEndianBytes 4 word.toNat

def hex : List UInt8 := "0123456789abcdef".toUTF8.toList

def hexDigits (byte : UInt8) : List UInt8 :=
  [hex.getD (byte >>> 4).toNat 0, hex.getD (byte &&& 0x0f).toNat 0]

theorem md5Digest_length (input : List UInt8) : (md5Digest input).length = 16 := by
  simp [md5Digest, littleEndianBytes]

structure ContentVersion where
  bytes : Bytes 32
  deriving DecidableEq

namespace ContentVersion

def encoded (value : List UInt8) : List UInt8 := (md5Digest value).flatMap hexDigits

theorem encoded_length (value : List UInt8) : (encoded value).length = 32 := by
  have hpairs : ∀ bytes : List UInt8, (bytes.flatMap hexDigits).length = 2 * bytes.length := by
    intro bytes
    induction bytes with
    | nil => rfl
    | cons byte rest ih =>
      rw [List.flatMap_cons, List.length_append, ih, List.length_cons]
      simp only [hexDigits, List.length_cons, List.length_nil]
      omega
  rw [encoded, hpairs, md5Digest_length]

def fromValue (value : List UInt8) : ContentVersion :=
  ⟨⟨(encoded value).toArray, by simp [encoded_length]⟩⟩

def parse (value : String) : Except DomainError ContentVersion :=
  if h : (utf8 value).length = 32 ∧ ∀ byte ∈ utf8 value,
      48 ≤ byte ∧ byte ≤ 57 ∨ 97 ≤ byte ∧ byte ≤ 102 then
    .ok ⟨⟨(utf8 value).toArray, h.1⟩⟩
  else .error ⟨.invalidArgument, "invalid_storage_content_version", .never⟩

def asStr (version : ContentVersion) : Option String := String.fromUTF8? ⟨version.bytes.toArray⟩

end ContentVersion

end Storage

namespace NakamaVersion
open Checks
open Md5 (chunks)
open Persistence (Bytes)
open Storage (Md5State littleEndian32 littleEndianBytes rotateLeft utf8)

def rotations : List Nat :=
  [7, 12, 17, 22, 7, 12, 17, 22, 7, 12, 17, 22, 7, 12, 17, 22, 5, 9, 14, 20, 5, 9, 14, 20, 5, 9, 14,
  20, 5, 9, 14, 20, 4, 11, 16, 23, 4, 11, 16, 23, 4, 11, 16, 23, 4, 11, 16, 23, 6, 10, 15, 21, 6,
  10, 15, 21, 6, 10, 15, 21, 6, 10, 15, 21]

def roundConstants : List UInt32 :=
  [0xd76aa478, 0xe8c7b756, 0x242070db, 0xc1bdceee, 0xf57c0faf, 0x4787c62a, 0xa8304613, 0xfd469501,
  0x698098d8, 0x8b44f7af, 0xffff5bb1, 0x895cd7be, 0x6b901122, 0xfd987193, 0xa679438e, 0x49b40821,
  0xf61e2562, 0xc040b340, 0x265e5a51, 0xe9b6c7aa, 0xd62f105d, 0x02441453, 0xd8a1e681, 0xe7d3fbc8,
  0x21e1cde6, 0xc33707d6, 0xf4d50d87, 0x455a14ed, 0xa9e3e905, 0xfcefa3f8, 0x676f02d9, 0x8d2a4c8a,
  0xfffa3942, 0x8771f681, 0x6d9d6122, 0xfde5380c, 0xa4beea44, 0x4bdecfa9, 0xf6bb4b60, 0xbebfbc70,
  0x289b7ec6, 0xeaa127fa, 0xd4ef3085, 0x04881d05, 0xd9d4d039, 0xe6db99e5, 0x1fa27cf8, 0xc4ac5665,
  0xf4292244, 0x432aff97, 0xab9423a7, 0xfc93a039, 0x655b59c3, 0x8f0ccc92, 0xffeff47d, 0x85845dd1,
  0x6fa87e4f, 0xfe2ce6e0, 0xa3014314, 0x4e0811a1, 0xf7537e82, 0xbd3af235, 0x2ad7d2bb, 0xeb86d391]

def padZeros (padded : List UInt8) : List UInt8 :=
  if padded.length % 64 = 56 then padded else padZeros (padded ++ [0])
termination_by (120 - padded.length % 64) % 64
decreasing_by
  rw [List.length_append, List.length_singleton]
  omega

def padded (input : List UInt8) : List UInt8 :=
  let bitLength := input.length * 8 % 2 ^ 64
  padZeros (input ++ [0x80]) ++ littleEndianBytes 8 bitLength

def round (words : List UInt32) (state : Md5State) (index : Nat) : Md5State :=
  let ⟨a, b, c, d⟩ := state
  let (function, wordIndex) :=
    if index ≤ 15 then ((b &&& c) ||| (~~~b &&& d), index)
    else if index ≤ 31 then ((d &&& b) ||| (~~~d &&& c), (5 * index + 1) % 16)
    else if index ≤ 47 then (b ^^^ c ^^^ d, (3 * index + 5) % 16)
    else (c ^^^ (b ||| ~~~d), 7 * index % 16)
  let nextD := c
  let c := b
  let b := b + rotateLeft (a + function + roundConstants.getD index 0 + words.getD wordIndex 0)
    (rotations.getD index 0)
  let a := d
  let d := nextD
  ⟨a, b, c, d⟩

def digestBlock (state : Md5State) (block : List UInt8) : Md5State :=
  let words := (chunks 4 block).map littleEndian32
  let ⟨a, b, c, d⟩ := (List.range 64).foldl (round words) state
  ⟨state.a + a, state.b + b, state.c + c, state.d + d⟩

def md5 (input : List UInt8) : List UInt8 :=
  let ⟨a, b, c, d⟩ := (chunks 64 (padded input)).foldl digestBlock
    ⟨0x67452301, 0xefcdab89, 0x98badcfe, 0x10325476⟩
  littleEndianBytes 4 a.toNat ++ littleEndianBytes 4 b.toNat ++ littleEndianBytes 4 c.toNat ++
    littleEndianBytes 4 d.toNat

theorem md5_length (input : List UInt8) : (md5 input).length = 16 := by
  simp [md5, littleEndianBytes]

inductive VersionError where
  | invalidLength (actual : Nat)
  | invalidLowerHex
  deriving DecidableEq

def decodeLowerHex (value : UInt8) : Option UInt8 :=
  if 48 ≤ value ∧ value ≤ 57 then some (value - 48)
  else if 97 ≤ value ∧ value ≤ 102 then some (value - 97 + 10)
  else none

def decodePairs : List UInt8 → Except VersionError (List UInt8)
  | first :: second :: rest => do
    let high ← fetch (decodeLowerHex first) .invalidLowerHex
    let low ← fetch (decodeLowerHex second) .invalidLowerHex
    let output ← decodePairs rest
    return ((high <<< 4) ||| low) :: output
  | _ => .ok []

structure PublicStorageVersion where
  bytes : Bytes 16
  deriving DecidableEq

namespace PublicStorageVersion

def fromValue (value : List UInt8) : PublicStorageVersion :=
  ⟨⟨(md5 value).toArray, by simp [md5_length]⟩⟩

def parseHex (value : String) : Except VersionError PublicStorageVersion := do
  require (value.utf8ByteSize = 32) (.invalidLength value.utf8ByteSize)
  let output ← decodePairs (utf8 value)
  return ⟨Vector.ofFn fun index => output.getD index 0⟩

def hex : List Char := "0123456789abcdef".toList

def hexChars (byte : UInt8) : List Char :=
  [hex.getD (byte >>> 4).toNat '0', hex.getD (byte &&& 0x0f).toNat '0']

def toHex (version : PublicStorageVersion) : String :=
  String.ofList (version.bytes.toList.flatMap hexChars)

end PublicStorageVersion

inductive WriteCondition where
  | blind
  | createOnly
  | exact (version : PublicStorageVersion)
  deriving DecidableEq

namespace WriteCondition

def parseClientVersion (value : String) : Except VersionError WriteCondition :=
  if value = "" then .ok .blind
  else if value = "*" then .ok .createOnly
  else (PublicStorageVersion.parseHex value).map .exact

def allows (condition : WriteCondition) (current : Option PublicStorageVersion) : Bool :=
  match condition with
  | .blind => true
  | .createOnly => current.isNone
  | .exact expected => current = some expected

end WriteCondition

end NakamaVersion

namespace Storage
open Checks FiniteMap
open Identity (isControl)
open Persistence

def maxCollectionBytes : Nat := 128
def maxKeyBytes : Nat := 128
def maxValueBytes : Nat := 1024 * 1024
def maxBatchOperations : Nat := 100

inductive Actor where
  | server
  | user (userId : UserId)
  deriving DecidableEq

inductive ReadPermission where
  | none | owner | publicRead
  deriving DecidableEq

inductive WritePermission where
  | none | owner
  deriving DecidableEq

abbrev IntegrityDigest := Digest32

def validComponent (value : String) (maximum : Nat) : Bool :=
  value ≠ "" && value.utf8ByteSize ≤ maximum && !value.toList.any isControl &&
    value.toList.head? ≠ some '.'

structure StorageObjectKey where
  collection : String
  key : String
  userId : UserId
  validCollection : validComponent collection maxCollectionBytes = true
  validKey : validComponent key maxKeyBytes = true
  deriving DecidableEq

structure StorageObject where
  key : StorageObjectKey
  value : List UInt8
  version : ContentVersion
  integrityDigest : IntegrityDigest
  readPermission : ReadPermission
  writePermission : WritePermission

inductive VersionCheck where
  | any
  | mustNotExist
  | exact (version : ContentVersion)

structure WriteOperation where
  key : StorageObjectKey
  value : List UInt8
  expected : VersionCheck
  readPermission : ReadPermission
  writePermission : WritePermission

structure DeleteOperation where
  key : StorageObjectKey
  expectedVersion : Option ContentVersion

inductive BatchOperation where
  | write (operation : WriteOperation)
  | delete (operation : DeleteOperation)

def BatchOperation.key : BatchOperation → StorageObjectKey
  | .write operation => operation.key
  | .delete operation => operation.key

structure MutationReceipt where
  key : StorageObjectKey
  previousVersion : Option ContentVersion
  currentVersion : Option ContentVersion

abbrev Objects := Dict StorageObjectKey StorageObject

structure StorageState where
  objects : Objects

def StorageState.default : StorageState := ⟨∅⟩

def permissionError : DomainError := ⟨.permissionDenied, "storage_write_permission_denied", .never⟩
def versionError : DomainError := ⟨.failedPrecondition, "storage_version_mismatch", .resyncRequired⟩
def notFoundError : DomainError := ⟨.notFound, "storage_object_not_found", .never⟩

def validateValue (value : List UInt8) : Except DomainError Unit :=
  require (value.length ≤ maxValueBytes) ⟨.invalidArgument, "invalid_storage_value", .never⟩

def validateWriteActor (actor : Actor) (key : StorageObjectKey) (existing : Option StorageObject) :
    Except DomainError Unit :=
  match actor with
  | .server => .ok ()
  | .user userId => do
    require (userId.isZero = false ∧ userId = key.userId) permissionError
    require (∀ object ∈ existing, object.writePermission = .owner) permissionError

def validateVersionCheck (existing : Option StorageObject) (check : VersionCheck) :
    Except DomainError Unit :=
  match check with
  | .any => .ok ()
  | .mustNotExist =>
    require (existing = none) ⟨.alreadyExists, "storage_object_already_exists", .never⟩
  | .exact expected => require (existing.map (·.version) = some expected) versionError

def canRead (actor : Actor) (object : StorageObject) : Bool :=
  match actor with
  | .server => true
  | .user userId =>
    object.readPermission = .publicRead ||
      (userId = object.key.userId && object.readPermission = .owner)

def validateBatch (operations : List BatchOperation) : Except DomainError Unit := do
  require (operations ≠ [] ∧ operations.length ≤ maxBatchOperations)
    ⟨.invalidArgument, "invalid_storage_batch_size", .never⟩
  require (operations.map BatchOperation.key).Nodup
    ⟨.invalidArgument, "duplicate_storage_key_in_batch", .never⟩

def applyDelete (objects : Objects) (actor : Actor) (operation : DeleteOperation) :
    Except DomainError (MutationReceipt × Objects) := do
  let previous ← fetch (objects.lookup operation.key) notFoundError
  validateWriteActor actor operation.key (some previous)
  require (∀ expected ∈ operation.expectedVersion, previous.version = expected) versionError
  return (⟨operation.key, some previous.version, none⟩, objects.erase operation.key)

section Digests
variable (sha256 : List UInt8 → Bytes 32)

def integrityOf (value : List UInt8) : IntegrityDigest := ⟨sha256 value⟩

def verifyObjectIntegrity (object : StorageObject) : Except DomainError Unit :=
  require (object.integrityDigest = integrityOf sha256 object.value)
    ⟨.dataLoss, "storage_integrity_digest_mismatch", .never⟩

def checkCollision (object : StorageObject) (version : ContentVersion) (value : List UInt8) :
    Except DomainError Unit :=
  require (¬ (object.version = version ∧ object.value ≠ value))
    ⟨.dataLoss, "storage_public_version_collision_or_integrity_mismatch", .never⟩

def WriteOperation.object (operation : WriteOperation) : StorageObject where
  key := operation.key
  value := operation.value
  version := .fromValue operation.value
  integrityDigest := integrityOf sha256 operation.value
  readPermission := operation.readPermission
  writePermission := operation.writePermission

def applyWrite (objects : Objects) (actor : Actor) (operation : WriteOperation) :
    Except DomainError (MutationReceipt × Objects) := do
  validateValue operation.value
  let next := operation.object sha256
  let previous := objects.lookup operation.key
  validateWriteActor actor operation.key previous
  validateVersionCheck previous operation.expected
  previous.elim (.ok ()) fun object => do
    verifyObjectIntegrity sha256 object
    checkCollision object next.version operation.value
  return (⟨operation.key, previous.map (·.version), some next.version⟩,
    objects.insert operation.key next)

def applyOperation (objects : Objects) (actor : Actor) :
    BatchOperation → Except DomainError (MutationReceipt × Objects)
  | .write operation => applyWrite sha256 objects actor operation
  | .delete operation => applyDelete objects actor operation

def applyOperations (actor : Actor) :
    Objects → List BatchOperation → Except DomainError (List MutationReceipt × Objects)
  | staged, [] => .ok ([], staged)
  | staged, operation :: rest => do
    let (receipt, staged) ← applyOperation sha256 staged actor operation
    let (receipts, staged) ← applyOperations actor staged rest
    return (receipt :: receipts, staged)

namespace StorageState

variable (s : StorageState)

def read (actor : Actor) (key : StorageObjectKey) :
    Except DomainError StorageObject := do
  let object ← fetch (s.objects.lookup key) notFoundError
  require (canRead actor object = true)
    ⟨.permissionDenied, "storage_read_permission_denied", .never⟩
  verifyObjectIntegrity sha256 object
  return object

def applyBatch (actor : Actor) (operations : List BatchOperation) :
    Except DomainError (List MutationReceipt × StorageState) := do
  validateBatch operations
  let (receipts, staged) ← applyOperations sha256 actor s.objects operations
  return (receipts, ⟨staged⟩)

def afterBatch (actor : Actor) (operations : List BatchOperation) :
    StorageState :=
  match s.applyBatch sha256 actor operations with
  | .ok (_, next) => next
  | .error _ => s

end StorageState

end Digests

end Storage
