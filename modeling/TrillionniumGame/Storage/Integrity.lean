import TrillionniumGame.Storage.Batches
import TrillionniumGame.Storage.VersionAgreement

namespace Storage
open Checks FiniteMap Persistence Runs

variable {sha256 : List UInt8 → Bytes 32} {objects objects' : Objects} {actor : Actor}
  {key : StorageObjectKey} {operation : BatchOperation} {batch : List BatchOperation}
  {receipts : List MutationReceipt} {s s' : StorageState} {e : DomainError}

def integrityError : DomainError := ⟨.dataLoss, "storage_integrity_digest_mismatch", .never⟩
def collisionError : DomainError :=
  ⟨.dataLoss, "storage_public_version_collision_or_integrity_mismatch", .never⟩
def existsError : DomainError := ⟨.alreadyExists, "storage_object_already_exists", .never⟩
def valueError : DomainError := ⟨.invalidArgument, "invalid_storage_value", .never⟩

def WriteOperation.Meets (operation : WriteOperation) (objects : Objects) : Prop :=
  match operation.expected with
  | .any => True
  | .mustNotExist => objects.lookup operation.key = none
  | .exact version => ∃ object, objects.lookup operation.key = some object ∧
      object.version = version

variable {operation : WriteOperation}

theorem WriteOperation.meets_congr
    (h : objects'.lookup operation.key = objects.lookup operation.key) :
    operation.Meets objects' ↔ operation.Meets objects := by
  rw [WriteOperation.Meets, WriteOperation.Meets, h]

theorem validateVersionCheck_ok :
    validateVersionCheck (objects.lookup operation.key) operation.expected = .ok () ↔
      operation.Meets objects := by
  rw [WriteOperation.Meets]
  cases operation.expected with
  | any => simp [validateVersionCheck]
  | mustNotExist | exact version => simp [validateVersionCheck, require_ok]

theorem validateVersionCheck_error
    (h : validateVersionCheck (objects.lookup operation.key) operation.expected = .error e) :
    ¬ operation.Meets objects ∧ (e = versionError ∨ e = existsError) := by
  refine ⟨fun hmeets => ?_, ?_⟩
  · rw [validateVersionCheck_ok.mpr hmeets] at h
    cases h
  · cases hexpected : operation.expected with
    | any =>
      rw [hexpected] at h
      cases h
    | mustNotExist =>
      rw [hexpected, validateVersionCheck, require_error] at h
      exact .inr h.2.symm
    | exact version =>
      rw [hexpected, validateVersionCheck, require_error] at h
      exact .inl h.2.symm

theorem validateWriteActor_error {existing : Option StorageObject}
    (h : validateWriteActor actor key existing = .error e) : e = permissionError := by
  cases actor with
  | server => cases h
  | user userId =>
    simp only [validateWriteActor, bind_error, require_error] at h
    rcases h with ⟨-, rfl⟩ | ⟨-, -, -, rfl⟩
    · rfl
    · rfl

theorem fromValue_inj {value value' : List UInt8}
    (h : ContentVersion.fromValue value = .fromValue value') :
    Md5.digest value = Md5.digest value' := by
  have hencoded : ContentVersion.encoded value = ContentVersion.encoded value' :=
    congrArg (fun version => version.bytes.toList) h
  have hdigest := decodePairs_hexDigits (md5Digest value)
  rw [ContentVersion.encoded, ContentVersion.encoded] at hencoded
  rw [hencoded, decodePairs_hexDigits] at hdigest
  rw [← md5Digest_eq, ← md5Digest_eq, Except.ok.inj hdigest]

def WriteOperation.Collides (operation : WriteOperation) (objects : Objects) : Prop :=
  ∃ object, objects.lookup operation.key = some object ∧ object.value ≠ operation.value ∧
    Md5.digest object.value = Md5.digest operation.value

theorem applyWrite_error (hfiled : objects.Filed sha256)
    (h : applyWrite sha256 objects actor operation = .error e) :
    e = valueError ∧ maxValueBytes < operation.value.length ∨
      e = permissionError ∧ ¬ MayWrite objects actor operation.key ∨
      (e = versionError ∨ e = existsError) ∧ ¬ operation.Meets objects ∨
      e = collisionError ∧ operation.Collides objects := by
  simp only [applyWrite, bind_error] at h
  rcases h with hvalue | ⟨-, -, hactor | ⟨-, -, hversion | ⟨-, -, hprevious | ⟨-, -, hdone⟩⟩⟩⟩
  · rw [validateValue, require_error] at hvalue
    exact .inl ⟨hvalue.2.symm, Nat.lt_of_not_le hvalue.1⟩
  · refine .inr (.inl ⟨validateWriteActor_error hactor, fun hallowed => ?_⟩)
    rw [validateWriteActor_ok.mpr hallowed] at hactor
    cases hactor
  · exact .inr (.inr (.inl (validateVersionCheck_error hversion).symm))
  · cases hobject : objects.lookup operation.key with
    | none =>
      rw [hobject] at hprevious
      cases hprevious
    | some object =>
      obtain ⟨-, hkept, hdigest⟩ := hfiled _ _ hobject
      rw [hobject] at hprevious
      simp only [Option.elim_some, bind_error, verifyObjectIntegrity, checkCollision,
        require_error, not_not] at hprevious
      rcases hprevious with ⟨hbroken, -⟩ | ⟨-, -, ⟨hsame, hdiffers⟩, rfl⟩
      · exact absurd hdigest hbroken
      · rw [hkept] at hsame
        exact .inr (.inr (.inr ⟨rfl, object, hobject, hdiffers, fromValue_inj hsame⟩))
  · cases hdone

theorem applyWrite_unmet (hfiled : objects.Filed sha256)
    (h : applyWrite sha256 objects actor operation = .error e)
    (hversion : e ≠ valueError ∧ e ≠ permissionError ∧ e ≠ collisionError) :
    ¬ operation.Meets objects := by
  obtain ⟨hvalue, hpermission, hcollision⟩ := hversion
  rcases applyWrite_error hfiled h with ⟨he, -⟩ | ⟨he, -⟩ | ⟨-, hmeets⟩ | ⟨he, -⟩
  · exact absurd he hvalue
  · exact absurd he hpermission
  · exact hmeets
  · exact absurd he hcollision

theorem applyDelete_error {operation : DeleteOperation}
    (h : applyDelete objects actor operation = .error e) :
    e = notFoundError ∨ e = permissionError ∨ e = versionError := by
  simp only [applyDelete, bind_error, fetch_error, require_error] at h
  rcases h with ⟨-, rfl⟩ | ⟨_, -, hactor | ⟨-, -, ⟨-, rfl⟩ | ⟨-, -, hdone⟩⟩⟩
  · exact .inl rfl
  · exact .inr (.inl (validateWriteActor_error hactor))
  · exact .inr (.inr rfl)
  · cases hdone

theorem applyOperations_error (hfiled : objects.Filed sha256)
    (hnodup : (batch.map BatchOperation.key).Nodup)
    (h : applyOperations sha256 actor objects batch = .error e) :
    ∃ operation ∈ batch, ∃ staged : Objects, staged.Filed sha256 ∧
      staged.lookup operation.key = objects.lookup operation.key ∧
      applyOperation sha256 staged actor operation = .error e := by
  induction batch generalizing objects with
  | nil => cases h
  | cons operation rest ih =>
    simp only [applyOperations, bind_error] at h
    rw [List.map_cons, List.nodup_cons] at hnodup
    rcases h with hfirst | ⟨⟨receipt, middle⟩, hfirst, hrest | ⟨_, -, hdone⟩⟩
    · exact ⟨operation, List.mem_cons_self, objects, hfiled, rfl, hfirst⟩
    · have hwrote := wrote_of_ok hfirst
      obtain ⟨operation', hmem, staged, hstaged, hsame, herror⟩ :=
        ih (hwrote.filed hfiled) hnodup.2 hrest
      have hne : operation'.key ≠ operation.key :=
        fun heq => hnodup.1 (heq ▸ List.mem_map_of_mem hmem)
      exact ⟨operation', List.mem_cons_of_mem _ hmem, staged, hstaged,
        hsame.trans (hwrote.frame _ hne), herror⟩
    · cases hdone

theorem applyWrite_refused (hfiled : objects.Filed sha256)
    (hvalue : operation.value.length ≤ maxValueBytes)
    (hallowed : MayWrite objects actor operation.key) :
    (applyWrite sha256 objects actor operation = .error versionError ∨
      applyWrite sha256 objects actor operation = .error existsError) ↔
      ¬ operation.Meets objects := by
  constructor
  · rintro (h | h)
    · exact applyWrite_unmet hfiled h (by decide)
    · exact applyWrite_unmet hfiled h (by decide)
  · intro hmeets
    have hfails : ∀ e, validateVersionCheck (objects.lookup operation.key) operation.expected =
        .error e → applyWrite sha256 objects actor operation = .error e := by
      intro e he
      simp only [applyWrite, bind_error]
      exact .inr ⟨(), require_ok.mpr hvalue, .inr ⟨(), validateWriteActor_ok.mpr hallowed, .inl he⟩⟩
    cases hcheck : validateVersionCheck (objects.lookup operation.key) operation.expected with
    | ok => exact absurd (validateVersionCheck_ok.mp hcheck) hmeets
    | error e =>
      rcases (validateVersionCheck_error hcheck).2 with rfl | rfl
      · exact .inl (hfails _ hcheck)
      · exact .inr (hfails _ hcheck)

theorem applyWrite_meets {receipt : MutationReceipt}
    (h : applyWrite sha256 objects actor operation = .ok (receipt, objects')) :
    operation.Meets objects := by
  simp only [applyWrite, bind_ok] at h
  obtain ⟨_, -, _, -, _, hversion, -⟩ := h
  exact validateVersionCheck_ok.mp hversion

namespace StorageState

theorem applyBatch_error (hfiled : s.objects.Filed sha256)
    (h : s.applyBatch sha256 actor batch = .error e) :
    e.code = .invalidArgument ∨ ∃ operation ∈ batch, ∃ staged : Objects, staged.Filed sha256 ∧
      staged.lookup operation.key = s.objects.lookup operation.key ∧
      applyOperation sha256 staged actor operation = .error e := by
  simp only [applyBatch, bind_error] at h
  rcases h with hinvalid | ⟨⟨⟩, hvalid, hoperations | ⟨_, -, hdone⟩⟩
  · simp only [validateBatch, bind_error, require_error] at hinvalid
    rcases hinvalid with ⟨-, rfl⟩ | ⟨-, -, -, rfl⟩
    · exact .inl rfl
    · exact .inl rfl
  · simp only [validateBatch, bind_ok, require_ok, exists_const] at hvalid
    exact .inr (applyOperations_error hfiled hvalid.2 hoperations)
  · cases hdone

structure ContentIntegrity (sha256 : List UInt8 → Bytes 32) (s : StorageState) : Prop where
  version : ∀ key object, s.objects.lookup key = some object →
    object.version.bytes.toList = (Md5.digest object.value).flatMap hexDigits
  digest : ∀ key object, s.objects.lookup key = some object →
    object.integrityDigest = ⟨sha256 object.value⟩
  reads : ∀ actor key, s.read sha256 actor key ≠ .error integrityError
  writes : ∀ actor batch, s.applyBatch sha256 actor batch ≠ .error integrityError
  refused : ∀ actor operation, operation.value.length ≤ maxValueBytes →
    MayWrite s.objects actor operation.key →
    ((applyWrite sha256 s.objects actor operation = .error versionError ∨
      applyWrite sha256 s.objects actor operation = .error existsError) ↔
      ¬ operation.Meets s.objects)
  checked : ∀ operation : WriteOperation,
    validateVersionCheck (s.objects.lookup operation.key) operation.expected = .ok () ↔
      operation.Meets s.objects
  met : ∀ actor batch receipts s', s.applyBatch sha256 actor batch = .ok (receipts, s') →
    ∀ operation, .write operation ∈ batch → operation.Meets s.objects
  collides : ∀ actor batch, s.applyBatch sha256 actor batch = .error collisionError →
    ∃ operation, .write operation ∈ batch ∧ operation.Collides s.objects

theorem content_integrity (hreach : Reachable (storageStates sha256) s) :
    ContentIntegrity sha256 s where
  version key object hobject := by
    rw [((filed hreach) key object hobject).2.1, ← md5Digest_eq]
    rfl
  digest key object hobject := ((filed hreach) key object hobject).2.2
  reads actor key h := by
    simp only [read, bind_error, fetch_error, fetch_ok, require_error, verifyObjectIntegrity] at h
    rcases h with ⟨-, he⟩ | ⟨object, hobject, ⟨-, he⟩ | ⟨-, -, ⟨hbroken, -⟩ | ⟨-, -, hdone⟩⟩⟩
    · exact absurd he (by decide)
    · exact absurd he (by decide)
    · exact hbroken ((filed hreach) key object hobject).2.2
    · cases hdone
  writes actor batch h := by
    rcases applyBatch_error (filed hreach) h with he | ⟨operation, -, staged, hstaged, -, herror⟩
    · cases he
    · cases operation with
      | write operation =>
        rcases applyWrite_error hstaged herror with ⟨he, -⟩ | ⟨he, -⟩ | ⟨he | he, -⟩ | ⟨he, -⟩ <;>
          exact absurd he (by decide)
      | delete operation =>
        rcases applyDelete_error herror with he | he | he <;> exact absurd he (by decide)
  refused actor operation hvalue hallowed := applyWrite_refused (filed hreach) hvalue hallowed
  checked _ := validateVersionCheck_ok
  met actor batch receipts s' h operation hmem := by
    obtain ⟨hnodup, hoperations⟩ := applyBatch_ok h
    obtain ⟨staged, receipt, next, hsame, hnext⟩ :=
      applyOperations_each hoperations hnodup _ hmem
    exact (WriteOperation.meets_congr hsame).mp (applyWrite_meets hnext)
  collides actor batch h := by
    rcases applyBatch_error (filed hreach) h with
      he | ⟨operation, hmem, staged, hstaged, hsame, herror⟩
    · cases he
    · cases operation with
      | write operation =>
        rcases applyWrite_error hstaged herror with ⟨he, -⟩ | ⟨he, -⟩ | ⟨he | he, -⟩ | ⟨-, hcollides⟩
        · exact absurd he (by decide)
        · exact absurd he (by decide)
        · exact absurd he (by decide)
        · exact absurd he (by decide)
        · obtain ⟨object, hobject, hvalues⟩ := hcollides
          exact ⟨operation, hmem, object, hsame ▸ hobject, hvalues⟩
      | delete operation =>
        rcases applyDelete_error herror with he | he | he <;> exact absurd he (by decide)

theorem content_integrity_sample : ContentIntegrity Sha256.digest sampleState :=
  content_integrity reachable_sampleState

end StorageState

end Storage
