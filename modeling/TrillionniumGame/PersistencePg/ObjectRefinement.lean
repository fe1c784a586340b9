import TrillionniumGame.PersistencePg.Lineages
import TrillionniumGame.PersistencePg.ObjectStorage

namespace StoragePg

open Checks FiniteMap Paging Tables
open Identity (byteValues)
open Persistence (Bytes DomainError UserId)
open PersistencePg (Bytea asBytes asBytes_inj asBytes_length classifyViolation dataLoss decodeBytes
  decodeBytes_asBytes invalid query toI64 transpose)
open Storage hiding applyWrite applyDelete applyOperation applyOperations

theorem length_le_utf8 (text : String) : text.length ≤ text.utf8ByteSize := by
  have hsize : ∀ chars : List Char,
      chars.length ≤ (chars.flatMap String.utf8EncodeChar).length := by
    intro chars
    induction chars with
    | nil => exact Nat.le_refl 0
    | cons c rest ih =>
      rw [List.flatMap_cons, List.length_append, String.length_utf8EncodeChar, List.length_cons]
      have hpos := c.utf8Size_pos
      omega
  have hencode : text.toByteArray = (text.toList.flatMap String.utf8EncodeChar).toByteArray :=
    String.utf8Encode_toList.symm
  have hbytes : text.utf8ByteSize = (text.toList.flatMap String.utf8EncodeChar).length := by
    rw [String.utf8ByteSize, hencode, List.size_toByteArray]
  rw [hbytes, ← String.length_toList]
  exact hsize text.toList

theorem column_length {text : String} {maximum : Nat} (h : validComponent text maximum = true) :
    1 ≤ text.length ∧ text.length ≤ maximum := by
  simp only [validComponent, Bool.and_eq_true, decide_eq_true_eq] at h
  obtain ⟨⟨⟨hne, hsize⟩, -⟩, -⟩ := h
  refine ⟨?_, (length_le_utf8 text).trans hsize⟩
  rw [Nat.one_le_iff_ne_zero, Ne, ← String.length_toList, List.length_eq_zero_iff]
  exact fun hnil => hne (String.toList_eq_nil_iff.mp hnil)

theorem authorizeRead_eq (actor : Actor) (object : StorageObject) :
    authorizeRead actor object = require (canRead actor object = true)
      ⟨.permissionDenied, "storage_read_permission_denied", .never⟩ := by
  cases actor with
  | server => rfl
  | user user => rfl

theorem authorizeWrite_eq (actor : Actor) (key : StorageObjectKey)
    (existing : Option StorageObject) :
    authorizeWrite actor key existing = validateWriteActor actor key existing := by
  cases actor with
  | server => rfl
  | user user =>
    have howner : ¬ (user.isZero = true ∨ user ≠ key.userId) ↔
        user.isZero = false ∧ user = key.userId := by
      rw [not_or, Bool.not_eq_true, not_not]
    have hmay : (¬ ∃ object ∈ existing, object.writePermission ≠ .owner) ↔
        ∀ object ∈ existing, object.writePermission = .owner := by
      simp only [not_exists, not_and, not_not]
    simp only [authorizeWrite, validateWriteActor, require_congr howner, require_congr hmay]
    rfl

theorem validateVersion_eq (existing : Option StorageObject) (check : VersionCheck) :
    validateVersion existing check = validateVersionCheck existing check := by
  cases check with
  | any => rfl
  | mustNotExist => cases existing <;> rfl
  | exact expected =>
    cases existing with
    | none => rfl
    | some object => simp [validateVersion, validateVersionCheck, require, versionMismatch,
        versionError]

theorem validateStorageBatch_eq (operations : List BatchOperation) :
    validateStorageBatch operations = validateBatch operations := by
  have hsize : ¬ (operations = [] ∨ maxBatchOperations < operations.length) ↔
      operations ≠ [] ∧ operations.length ≤ maxBatchOperations := by
    rw [not_or, not_lt]
  simp only [validateStorageBatch, validateBatch, require_congr hsize]
  rfl

def rowOf (object : StorageObject) (updatedAtMs : Int) : ObjectRow where
  collection := object.key.collection
  objectKey := object.key.key
  userId := asBytes object.key.userId.bytes
  valueBytes := object.value
  versionDigest := asBytes object.integrityDigest.bytes
  readPermission := readCode object.readPermission
  writePermission := writeCode object.writePermission
  updatedAtMs := updatedAtMs

structure Sound (sha256 : List UInt8 → Bytes 32) (objects : Objects) : Prop where
  filed : objects.Filed sha256
  bounded : ∀ key object, objects.lookup key = some object → object.value.length ≤ maxValueBytes

def Nonzero (sha256 : List UInt8 → Bytes 32) (objects : Objects) : Prop :=
  ∀ key object, objects.lookup key = some object → Persistence.zeroBytes (sha256 object.value) = false

structure Holds (table : List ObjectRow) (objects : Objects) : Prop where
  rows : ∀ row ∈ table, ∃ object updatedAtMs, objects.lookup object.key = some object ∧
    row = rowOf object updatedAtMs
  stored : ∀ key object, objects.lookup key = some object →
    ∃ updatedAtMs, rowOf object updatedAtMs ∈ table
  unique : table.Pairwise fun row held => trnmStorageObjects.clash row held = false

section
variable {sha256 : List UInt8 → Bytes 32} {objects objects' : Objects} {table : List ObjectRow}
  {key : StorageObjectKey} {object : StorageObject} {actor : Actor} {updatedAtMs : Int}

theorem atKey_rowOf : atKey key (rowOf object updatedAtMs) = true ↔ object.key = key := by
  simp only [atKey, Bool.and_eq_true, decide_eq_true_eq]
  simp only [rowOf, asBytes_inj]
  constructor
  · rintro ⟨⟨hcollection, hkey⟩, huser⟩
    obtain ⟨⟨collection, name, user, hc, hk⟩, value, version, digest, reads, writes⟩ := object
    obtain ⟨collection', name', user', hc', hk'⟩ := key
    obtain ⟨bytes⟩ := user
    obtain ⟨bytes'⟩ := user'
    simp only at hcollection hkey huser
    subst hcollection hkey huser
    rfl
  · rintro rfl
    exact ⟨⟨rfl, rfl⟩, rfl⟩

theorem clash_iff {object' : StorageObject} {updatedAtMs' : Int} :
    trnmStorageObjects.clash (rowOf object updatedAtMs) (rowOf object' updatedAtMs') = true ↔
      object'.key = object.key := by
  refine Iff.trans ?_ (@atKey_rowOf object.key object' updatedAtMs')
  simp only [trnmStorageObjects, atKey, Bool.and_eq_true, decide_eq_true_eq, and_assoc]
  exact Iff.rfl

theorem decode_rowOf (hnonzero : Persistence.zeroBytes (sha256 object.value) = false)
    (hversion : object.version = .fromValue object.value)
    (hdigest : object.integrityDigest = integrityOf sha256 object.value)
    (hlength : object.value.length ≤ maxValueBytes) :
    decodeStorageObject sha256 object.key (rowOf object updatedAtMs) = .ok object := by
  have hdecode : decodeBytes 32 "invalid_storage_integrity_digest"
      (rowOf object updatedAtMs).versionDigest = .ok object.integrityDigest.bytes :=
    decodeBytes_asBytes _ _
  have hnew : newIntegrityDigest ⟨object.integrityDigest.bytes⟩ = .ok object.integrityDigest := by
    have hzero : Persistence.zeroBytes object.integrityDigest.bytes = false := by
      rw [hdigest]
      exact hnonzero
    rw [newIntegrityDigest, require_of hzero]
    rfl
  have hverify : verifyStorageIntegrity sha256 (rowOf object updatedAtMs).valueBytes
      object.integrityDigest = .ok () := require_of hdigest
  have hreads : decodeReadPermission (rowOf object updatedAtMs).readPermission =
      .ok object.readPermission := by
    simp only [rowOf]
    cases object.readPermission <;> rfl
  have hwrites : decodeWritePermission (rowOf object updatedAtMs).writePermission =
      .ok object.writePermission := by
    simp only [rowOf]
    cases object.writePermission <;> rfl
  rw [decodeStorageObject, require_of (show (rowOf object updatedAtMs).valueBytes.length ≤
    maxValueBytes from hlength), ok_bind, hdecode, ok_bind, hnew, Except.mapError, ok_bind, hverify,
    ok_bind, hreads, ok_bind, hwrites, ok_bind]
  obtain ⟨key, value, version, digest, reads, writes⟩ := object
  simp only at hversion
  subst hversion
  rfl

section

variable (h : Holds table objects)
include h

theorem Holds.at_most_one (key : StorageObjectKey) :
    table.Pairwise fun row row' => ¬ (atKey key row = true ∧ atKey key row' = true) := by
  refine h.unique.imp_of_mem ?_
  rintro row row' hrow hrow' hclash ⟨hat, hat'⟩
  obtain ⟨object, t, -, rfl⟩ := h.rows row hrow
  obtain ⟨object', t', -, rfl⟩ := h.rows row' hrow'
  rw [atKey_rowOf] at hat hat'
  rw [clash_iff.mpr (hat'.trans hat.symm)] at hclash
  cases hclash

theorem Holds.find_none (hnone : objects.lookup key = none) : table.find? (atKey key) = none := by
  rw [List.find?_eq_none]
  intro row hrow hat
  obtain ⟨object, t, hobject, rfl⟩ := h.rows row hrow
  rw [atKey_rowOf.mp hat, hnone] at hobject
  cases hobject

theorem Holds.find_some (hfiled : objects.Filed sha256)
    (hobject : objects.lookup key = some object) : ∃ updatedAtMs, rowOf object updatedAtMs ∈ table ∧
      table.find? (atKey key) = some (rowOf object updatedAtMs) := by
  obtain ⟨t, hrow⟩ := h.stored key object hobject
  refine ⟨t, hrow, ?_⟩
  have hat : atKey key (rowOf object t) = true := atKey_rowOf.mpr (hfiled key object hobject).1
  have hone := filter_unique (h.at_most_one key) hrow hat
  rw [← List.head?_filter, hone]
  rfl

theorem Holds.query (key : StorageObjectKey) :
    query table (atKey key) = .ok (table.find? (atKey key)) := by
  rw [PersistencePg.query, queryOpt_find (h.at_most_one key)]
  rfl

theorem Holds.loadForUpdate (hs : Sound sha256 objects)
    (hnonzero : Nonzero sha256 objects) (key : StorageObjectKey) :
    loadForUpdate sha256 table key = .ok (objects.lookup key) := by
  rw [StoragePg.loadForUpdate, h.query, ok_bind]
  cases hobject : objects.lookup key with
  | none =>
    rw [h.find_none hobject]
    rfl
  | some object =>
    obtain ⟨t, -, hfind⟩ := h.find_some hs.filed hobject
    obtain ⟨rfl, hversion, hdigest⟩ := hs.filed key object hobject
    rw [hfind, transpose, decode_rowOf (hnonzero _ _ hobject) hversion hdigest (hs.bounded _ _ hobject)]
    rfl

theorem Holds.loadAll (hs : Sound sha256 objects)
    (hnonzero : Nonzero sha256 objects)
    (keys : List StorageObjectKey) : ∃ staged, loadAll sha256 table keys = .ok staged ∧
      ∀ key ∈ keys, staged.lookup key = some (objects.lookup key) := by
  induction keys with
  | nil => exact ⟨∅, rfl, List.forall_mem_nil _⟩
  | cons key rest ih =>
    obtain ⟨staged, hstaged, hall⟩ := ih
    refine ⟨staged.insert key (objects.lookup key), ?_, fun key' hkey => ?_⟩
    · rw [StoragePg.loadAll, h.loadForUpdate hs hnonzero, ok_bind, hstaged]
      rfl
    · rw [lookup_insert_ite]
      split
      · next heq => rw [heq]
      · next hne => exact hall key' ((List.mem_cons.mp hkey).resolve_left hne)

theorem readStorageObject_eq (hs : Sound sha256 objects)
    (hnonzero : Nonzero sha256 objects) (actor : Actor)
    (key : StorageObjectKey) :
    readStorageObject sha256 table actor key = StorageState.read sha256 ⟨objects⟩ actor key := by
  rw [readStorageObject, h.query, ok_bind, StorageState.read]
  cases hobject : objects.lookup key with
  | none =>
    rw [h.find_none hobject]
    rfl
  | some object =>
    obtain ⟨t, -, hfind⟩ := h.find_some hs.filed hobject
    obtain ⟨rfl, hversion, hdigest⟩ := hs.filed key object hobject
    simp only [hfind, fetch, Option.elim_some, ok_bind,
      decode_rowOf (hnonzero _ _ hobject) hversion hdigest (hs.bounded _ _ hobject), authorizeRead_eq,
      verifyObjectIntegrity, require_of hdigest]

end

theorem check_rowOf (hlength : object.value.length ≤ maxValueBytes) (htime : 0 ≤ updatedAtMs) :
    trnmStorageObjects.check (rowOf object updatedAtMs) = true := by
  have hreads : 0 ≤ readCode object.readPermission ∧ readCode object.readPermission ≤ 2 := by
    cases object.readPermission <;> decide
  have hwrites : 0 ≤ writeCode object.writePermission ∧ writeCode object.writePermission ≤ 1 := by
    cases object.writePermission <;> decide
  exact decide_eq_true ⟨column_length object.key.validCollection,
    column_length object.key.validKey, asBytes_length _, hlength, asBytes_length _, hreads, hwrites,
    htime⟩

theorem Holds.replaced (h : Holds table objects) (hfiled : objects.Filed sha256)
    {existing next : StorageObject} (hobject : objects.lookup next.key = some existing)
    {f : ObjectRow → ObjectRow} (hf : ∀ t, existing.key = next.key →
      f (rowOf existing t) = rowOf next updatedAtMs) :
    Holds (assign (atKey next.key) f table) (objects.insert next.key next) := by
  have hkey := (hfiled _ _ hobject).1
  have hrow : ∀ row ∈ table, (if atKey next.key row then f row else row) =
      rowOf next updatedAtMs ∧ atKey next.key row = true ∨
      (if atKey next.key row then f row else row) = row ∧ atKey next.key row = false := by
    intro row hrow
    cases hat : atKey next.key row with
    | true =>
      obtain ⟨object, t, hlookup, rfl⟩ := h.rows row hrow
      rw [atKey_rowOf.mp hat, hobject] at hlookup
      cases hlookup
      exact .inl ⟨(if_pos rfl).trans (hf t hkey), rfl⟩
    | false => exact .inr ⟨if_neg Bool.false_ne_true, rfl⟩
  refine ⟨?_, ?_, ?_⟩
  · intro row' hrow'
    obtain ⟨row, hmem, rfl⟩ := mem_assign.mp hrow'
    rcases hrow row hmem with ⟨heq, -⟩ | ⟨heq, hat⟩
    · exact ⟨next, updatedAtMs, Finmap.lookup_insert _, heq⟩
    · obtain ⟨object, t, hlookup, hsame⟩ := h.rows row hmem
      refine ⟨object, t, ?_, heq.trans hsame⟩
      rw [Finmap.lookup_insert_of_ne _ fun hne => ?_, hlookup]
      rw [hsame, atKey_rowOf.mpr hne] at hat
      cases hat
  · intro key object hlookup
    rw [lookup_insert_ite] at hlookup
    split at hlookup
    · cases hlookup
      obtain ⟨t, hmem, -⟩ := h.find_some hfiled hobject
      refine ⟨updatedAtMs, mem_assign.mpr ⟨_, hmem, ?_⟩⟩
      exact (if_pos (atKey_rowOf.mpr hkey)).trans (hf t hkey)
    · next hne =>
      obtain ⟨t, hmem⟩ := h.stored key object hlookup
      refine ⟨t, mem_assign.mpr ⟨_, hmem, if_neg fun hat => hne ?_⟩⟩
      exact (hfiled _ _ hlookup).1.symm.trans (atKey_rowOf.mp hat)
  · have hclash : ∀ row ∈ table, ∀ held ∈ table,
        trnmStorageObjects.clash (if atKey next.key row then f row else row)
          (if atKey next.key held then f held else held) =
        trnmStorageObjects.clash row held := by
      have hcolumns : ∀ row ∈ table, ∃ object t, row = rowOf object t ∧
          ∃ object' t', (if atKey next.key row then f row else row) = rowOf object' t' ∧
            object'.key = object.key := by
        intro row hmem
        obtain ⟨object, t, hlookup, hsame⟩ := h.rows row hmem
        refine ⟨object, t, hsame, ?_⟩
        rcases hrow row hmem with ⟨heq, hat⟩ | ⟨heq, -⟩
        · exact ⟨next, updatedAtMs, heq, (atKey_rowOf.mp (hsame ▸ hat)).symm⟩
        · exact ⟨object, t, heq.trans hsame, rfl⟩
      intro row hmem held hheld
      obtain ⟨o, t, ho, o', t', ho', hk⟩ := hcolumns row hmem
      obtain ⟨q, u, hq, q', u', hq', hl⟩ := hcolumns held hheld
      rw [ho', hq', ho, hq, Bool.eq_iff_iff, clash_iff, clash_iff, hk, hl]
    rw [assign, List.pairwise_map]
    exact h.unique.imp_of_mem fun hmem hheld hno => (hclash _ hmem _ hheld).trans hno

theorem Holds.added (h : Holds table objects) {next : StorageObject}
    (hnone : objects.lookup next.key = none) :
    (∀ held ∈ table, trnmStorageObjects.clash (rowOf next updatedAtMs) held = false) ∧
      Holds (rowOf next updatedAtMs :: table) (objects.insert next.key next) := by
  have hother : ∀ object, objects.lookup object.key = some object → object.key ≠ next.key := by
    intro object hobject heq
    rw [heq, hnone] at hobject
    cases hobject
  have hfree : ∀ held ∈ table,
      trnmStorageObjects.clash (rowOf next updatedAtMs) held = false := by
    intro held hheld
    obtain ⟨object, t, hobject, rfl⟩ := h.rows held hheld
    rw [Bool.eq_false_iff, Ne, clash_iff]
    exact hother object hobject
  refine ⟨hfree, ⟨?_, ?_, List.pairwise_cons.mpr ⟨hfree, h.unique⟩⟩⟩
  · intro row hrow
    rcases List.mem_cons.mp hrow with rfl | hrow
    · exact ⟨next, updatedAtMs, Finmap.lookup_insert _, rfl⟩
    · obtain ⟨object, t, hobject, hsame⟩ := h.rows row hrow
      exact ⟨object, t, (Finmap.lookup_insert_of_ne _ (hother object hobject)).trans hobject, hsame⟩
  · intro key object hobject
    rw [lookup_insert_ite] at hobject
    split at hobject
    · cases hobject
      exact ⟨updatedAtMs, List.mem_cons_self⟩
    · obtain ⟨t, hrow⟩ := h.stored key object hobject
      exact ⟨t, List.mem_cons_of_mem _ hrow⟩

theorem Holds.deleted (h : Holds table objects) (hfiled : objects.Filed sha256)
    (hobject : objects.lookup key = some object) :
    table.countP (atKey key) = 1 ∧
      Holds (table.filter fun row => !atKey key row) (objects.erase key) := by
  obtain ⟨t, hrow, -⟩ := h.find_some hfiled hobject
  have hat : atKey key (rowOf object t) = true := atKey_rowOf.mpr (hfiled key object hobject).1
  have hone := filter_unique (h.at_most_one key) hrow hat
  refine ⟨by rw [List.countP_eq_length_filter, hone]; rfl, ⟨?_, ?_, h.unique.filter _⟩⟩
  · intro row hrow
    obtain ⟨hrow, hnot⟩ := List.mem_filter.mp hrow
    obtain ⟨object, t, hobject, rfl⟩ := h.rows row hrow
    refine ⟨object, t, ?_, rfl⟩
    rw [Finmap.lookup_erase_ne fun heq => ?_, hobject]
    rw [atKey_rowOf.mpr heq] at hnot
    cases hnot
  · intro key' object' hobject'
    rw [lookup_erase_ite] at hobject'
    split at hobject'
    · cases hobject'
    · next hne =>
      obtain ⟨t, hrow⟩ := h.stored key' object' hobject'
      refine ⟨t, List.mem_filter.mpr ⟨hrow, ?_⟩⟩
      rw [Bool.not_eq_true', Bool.eq_false_iff, Ne, atKey_rowOf]
      exact fun heq => hne ((hfiled _ _ hobject').1.symm.trans heq)

variable {staged : Staged}

def Stepped (staged : Staged) (key : StorageObjectKey) (a : MutationReceipt × Objects)
    (b : MutationReceipt × List ObjectRow × Staged) : Prop :=
  a.1 = b.1 ∧ Holds b.2.1 a.2 ∧ b.2.2 = staged.insert key (a.2.lookup key)

theorem collision_eq (hfiled : objects.Filed sha256) (version : ContentVersion)
    (value : List UInt8) :
    ((objects.lookup key).elim (.ok ()) fun object => do
        verifyObjectIntegrity sha256 object
        checkCollision object version value) =
      require (¬ ∃ existing ∈ objects.lookup key,
          existing.version = version ∧ existing.value ≠ value)
        (dataLoss "storage_public_version_collision_or_integrity_mismatch") := by
  cases hobject : objects.lookup key with
  | none => exact (require_of (by simp)).symm
  | some object =>
    obtain ⟨-, -, hdigest⟩ := hfiled key object hobject
    rw [Option.elim_some, verifyObjectIntegrity, require_of hdigest, ok_bind, checkCollision]
    exact require_congr (by simp)

theorem applyWrite_same (h : Holds table objects) (hs : Sound sha256 objects)
    (htime : 0 ≤ updatedAtMs) {operation : WriteOperation}
    (hstaged : staged.lookup operation.key = some (objects.lookup operation.key)) :
    Same (Stepped staged operation.key) (Storage.applyWrite sha256 objects actor operation)
      (applyWrite sha256 table staged actor operation updatedAtMs) := by
  unfold Storage.applyWrite applyWrite
  refine (Same.refl (validateValue operation.value)).bind fun _ _ hvalue _ => ?_
  have hlength : operation.value.length ≤ maxValueBytes := require_ok.mp hvalue
  rw [hstaged, fetch, Option.elim_some, ok_bind, authorizeWrite_eq, validateVersion_eq]
  refine (Same.refl _).bind fun _ _ _ _ => (Same.refl _).bind fun _ _ _ _ => ?_
  rw [collision_eq hs.filed]
  refine (Same.refl _).bind fun _ _ _ _ => ?_
  have hcheck : trnmStorageObjects.check (rowOf (operation.object sha256) updatedAtMs) = true :=
    check_rowOf hlength htime
  cases hobject : objects.lookup operation.key with
  | some existing =>
    have hf : ∀ t, existing.key = operation.key →
        updateObject sha256 operation updatedAtMs (rowOf existing t) =
          rowOf (operation.object sha256) updatedAtMs := by
      intro t hkey
      simp only [updateObject, rowOf, WriteOperation.object, hkey]
    obtain ⟨t, hrow, -⟩ := h.find_some hs.filed hobject
    have hat : atKey operation.key (rowOf existing t) = true :=
      atKey_rowOf.mpr (hs.filed _ _ hobject).1
    have hone := filter_unique (h.at_most_one operation.key) hrow hat
    have hupdate : update trnmStorageObjects (atKey operation.key)
        (updateObject sha256 operation updatedAtMs) table =
        .ok (assign (atKey operation.key) (updateObject sha256 operation updatedAtMs) table,
          1) := by
      refine update_ok.mpr ⟨?_, rfl, by rw [List.countP_eq_length_filter, hone]; rfl⟩
      intro row hmem
      rw [hone, List.mem_singleton] at hmem
      rw [hmem, hf t (hs.filed _ _ hobject).1]
      exact hcheck
    rw [Option.isSome_some, if_pos rfl, hupdate, Except.mapError, ok_bind]
    refine .agreed ⟨rfl, ?_, ?_⟩
    · exact @Holds.replaced _ _ _ _ h hs.filed existing (operation.object sha256) hobject _ hf
    · exact congrArg (staged.insert operation.key) (Finmap.lookup_insert objects).symm
  | none =>
    obtain ⟨hfree, hadded⟩ :
        (∀ held ∈ table, trnmStorageObjects.clash (rowOf (operation.object sha256) updatedAtMs)
          held = false) ∧ Holds (rowOf (operation.object sha256) updatedAtMs :: table)
            (objects.insert operation.key (operation.object sha256)) := h.added hobject
    have hinsert : insert trnmStorageObjects (WriteOperation.row sha256 operation updatedAtMs)
        table = .ok (rowOf (operation.object sha256) updatedAtMs :: table) :=
      insert_ok.mpr ⟨hcheck, hfree, rfl⟩
    rw [Option.isSome_none, if_neg Bool.false_ne_true, hinsert, Except.map, Except.mapError,
      ok_bind]
    refine .agreed ⟨rfl, hadded, ?_⟩
    exact congrArg (staged.insert operation.key) (Finmap.lookup_insert objects).symm

theorem applyDelete_same (h : Holds table objects) (hs : Sound sha256 objects)
    {operation : DeleteOperation}
    (hstaged : staged.lookup operation.key = some (objects.lookup operation.key)) :
    Same (Stepped staged operation.key) (Storage.applyDelete objects actor operation)
      (applyDelete table staged actor operation) := by
  unfold Storage.applyDelete applyDelete
  rw [hstaged, fetch, fetch, Option.elim_some, ok_bind]
  refine (Same.refl _).bind fun previous previous' hprevious heq => ?_
  subst heq
  have hobject := fetch_ok.mp hprevious
  have hexpected : (∀ expected ∈ operation.expectedVersion, previous.version = expected) ↔
      ¬ ∃ expected ∈ operation.expectedVersion, expected ≠ previous.version := by
    simp only [not_exists, not_and, not_not, eq_comm]
  rw [authorizeWrite_eq, require_congr hexpected]
  refine (Same.refl _).bind fun _ _ _ _ => (Same.refl _).bind fun _ _ _ _ => ?_
  obtain ⟨hcount, hdeleted⟩ := h.deleted hs.filed hobject
  dsimp only
  rw [require_of hcount, ok_bind]
  refine .agreed ⟨rfl, hdeleted, ?_⟩
  exact congrArg (staged.insert operation.key) (Finmap.lookup_erase _ objects).symm

variable {operation : BatchOperation}

theorem sound_of_ok {receipt : MutationReceipt} (hs : Sound sha256 objects)
    (h : Storage.applyOperation sha256 objects actor operation = .ok (receipt, objects')) :
    Sound sha256 objects' := by
  refine ⟨(wrote_of_ok h).filed hs.filed, ?_⟩
  intro key object hobject
  cases operation with
  | write write =>
    have hvalue : write.value.length ≤ maxValueBytes := by
      obtain ⟨_, hvalue, -⟩ := bind_ok.mp h
      exact require_ok.mp hvalue
    obtain ⟨-, rfl⟩ := applyWrite_ok h
    rw [lookup_insert_ite] at hobject
    split at hobject
    · cases hobject
      exact hvalue
    · exact hs.bounded _ _ hobject
  | delete delete =>
    obtain ⟨-, rfl⟩ := applyDelete_ok h
    rw [lookup_erase_ite] at hobject
    split at hobject
    · cases hobject
    · exact hs.bounded _ _ hobject

theorem applyOperation_same (h : Holds table objects) (hs : Sound sha256 objects)
    (htime : 0 ≤ updatedAtMs)
    (hstaged : staged.lookup operation.key = some (objects.lookup operation.key)) :
    Same (Stepped staged operation.key) (Storage.applyOperation sha256 objects actor operation)
      (applyOperation sha256 actor updatedAtMs table staged operation) := by
  cases operation with
  | write write => exact applyWrite_same h hs htime hstaged
  | delete delete => exact applyDelete_same h hs hstaged

variable {operations : List BatchOperation}

theorem applyOperations_same (h : Holds table objects) (hs : Sound sha256 objects)
    (htime : 0 ≤ updatedAtMs) (hstaged : ∀ operation ∈ operations,
      staged.lookup operation.key = some (objects.lookup operation.key)) :
    Same (fun a b => a.1 = b.1 ∧ Holds b.2 a.2)
      (Storage.applyOperations sha256 actor objects operations)
      (applyOperations sha256 actor updatedAtMs table staged operations) := by
  induction operations generalizing table objects staged with
  | nil => exact .agreed ⟨rfl, h⟩
  | cons operation rest ih =>
    refine (applyOperation_same h hs htime (hstaged operation List.mem_cons_self)).bind ?_
    rintro ⟨receipt, objects'⟩ ⟨receipt', table', staged'⟩ hok ⟨hreceipt, hholds, hnext⟩
    simp only at hreceipt hholds hnext
    subst hreceipt hnext
    refine (ih hholds (sound_of_ok hs hok) ?_).bind ?_
    · intro later hlater
      rw [lookup_insert_ite]
      split
      · next heq => rw [heq]
      · next hne =>
        rw [hstaged later (List.mem_cons_of_mem _ hlater), (wrote_of_ok hok).frame _ hne]
    · rintro ⟨receipts, final⟩ ⟨receipts', final'⟩ - ⟨hreceipts, hfinal⟩
      simp only at hreceipts hfinal
      subst hreceipts
      exact .agreed ⟨rfl, hfinal⟩

theorem mem_sortedKeys (h : operation ∈ operations) : operation.key ∈ sortedKeys operations :=
  mem_sortedBy.mpr (List.mem_dedup.mpr (List.mem_map_of_mem h))

variable {updatedAtMs : Nat}

theorem applyStorageBatch_same (h : Holds table objects) (hs : Sound sha256 objects)
    (hnonzero : Nonzero sha256 objects)
    (operations : List BatchOperation) (htime : updatedAtMs < 2 ^ 63) :
    Same (fun a b => a.1 = b.1 ∧ Holds b.2 a.2.objects)
      (StorageState.applyBatch sha256 ⟨objects⟩ actor operations)
      (applyStorageBatch sha256 table actor operations updatedAtMs) := by
  unfold StorageState.applyBatch applyStorageBatch
  rw [validateStorageBatch_eq]
  refine (Same.refl _).bind fun _ _ _ _ => ?_
  obtain ⟨staged, hload, hall⟩ := h.loadAll hs hnonzero (sortedKeys operations)
  rw [toI64, if_pos htime, ok_bind, hload, ok_bind, ← bind_pure (applyOperations _ _ _ _ _ _)]
  have hstaged : ∀ operation ∈ operations,
      staged.lookup operation.key = some (objects.lookup operation.key) :=
    fun operation hmem => hall _ (mem_sortedKeys hmem)
  refine (applyOperations_same h hs (Int.natCast_nonneg updatedAtMs) hstaged).bind ?_
  rintro ⟨receipts, final⟩ ⟨receipts', final'⟩ - ⟨hreceipts, hfinal⟩
  exact .agreed ⟨hreceipts, hfinal⟩

theorem sound_applyOperations {receipts : List MutationReceipt} (hs : Sound sha256 objects)
    (h : Storage.applyOperations sha256 actor objects operations = .ok (receipts, objects')) :
    Sound sha256 objects' := by
  induction operations generalizing objects receipts with
  | nil =>
    cases (ok_inj h).2
    exact hs
  | cons operation rest ih =>
    obtain ⟨⟨receipt, middle⟩, hfirst, h⟩ := bind_ok.mp h
    obtain ⟨⟨later, final⟩, hrest, h⟩ := bind_ok.mp h
    cases (ok_inj h).2
    exact ih (sound_of_ok hs hfirst) hrest

theorem sound_reachable {s : StorageState} (h : Runs.Reachable (storageStates sha256) s) :
    Sound sha256 s.objects := by
  refine h.invariant (I := fun s => Sound sha256 s.objects) ?_ ?_
  · rintro _ rfl
    refine ⟨fun key object h => ?_, fun key object h => ?_⟩ <;> cases h
  · rintro s ⟨actor, batch⟩ _ hs rfl
    rw [StorageState.afterBatch]
    split
    · next receipts next h => exact sound_applyOperations hs (StorageState.applyBatch_ok h).2
    · exact hs

theorem afterStorageBatch_holds (h : Holds table objects) (hs : Sound sha256 objects)
    (hnonzero : Nonzero sha256 objects)
    (operations : List BatchOperation) (htime : updatedAtMs < 2 ^ 63) :
    Holds (afterStorageBatch sha256 table actor operations updatedAtMs)
      (StorageState.afterBatch sha256 ⟨objects⟩ actor operations).objects := by
  have hsame : Same _ (StorageState.applyBatch sha256 ⟨objects⟩ actor operations) _ :=
    applyStorageBatch_same h hs hnonzero operations htime
  rw [afterStorageBatch, StorageState.afterBatch]
  generalize StorageState.applyBatch sha256 ⟨objects⟩ actor operations = x at hsame
  generalize applyStorageBatch sha256 table actor operations updatedAtMs = y at hsame
  cases hsame with
  | failed e => exact h
  | agreed hr => exact hr.2

end

end StoragePg
