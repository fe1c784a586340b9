import TrillionniumGame.Foundation.Runs
import TrillionniumGame.Foundation.Sha256
import TrillionniumGame.Storage.State

namespace Storage
open Checks FiniteMap Persistence Runs

section
variable {sha256 : List UInt8 → Bytes 32} {objects objects' : Objects} {actor : Actor}
  {key : StorageObjectKey} {operation : BatchOperation} {batch : List BatchOperation}
  {receipt : MutationReceipt} {receipts : List MutationReceipt} {s s' : StorageState}

def storageStates (sha256 : List UInt8 → Bytes 32) :
    System StorageState (Actor × List BatchOperation) where
  init s := s = .default
  step s call s' := s' = s.afterBatch sha256 call.1 call.2

def Objects.Filed (objects : Objects) (sha256 : List UInt8 → Bytes 32) : Prop :=
  ∀ key object, objects.lookup key = some object →
    object.key = key ∧ object.version = .fromValue object.value ∧
      object.integrityDigest = integrityOf sha256 object.value

def MayWrite (objects : Objects) (actor : Actor) (key : StorageObjectKey) : Prop :=
  ∀ userId, actor = .user userId → userId.isZero = false ∧ userId = key.userId ∧
    ∀ object, objects.lookup key = some object → object.writePermission = .owner

theorem mayWrite_congr (h : objects'.lookup key = objects.lookup key) :
    MayWrite objects' actor key ↔ MayWrite objects actor key := by
  simp only [MayWrite, h]

theorem validateWriteActor_ok :
    validateWriteActor actor key (objects.lookup key) = .ok () ↔ MayWrite objects actor key := by
  cases actor with
  | server => simp [validateWriteActor, MayWrite]
  | user userId =>
    simp only [validateWriteActor, bind_ok, require_ok, exists_const, MayWrite, Actor.user.injEq,
      forall_eq', Option.mem_def, and_assoc]

theorem applyWrite_ok {operation : WriteOperation}
    (h : applyWrite sha256 objects actor operation = .ok (receipt, objects')) :
    MayWrite objects actor operation.key ∧
      objects' = objects.insert operation.key (operation.object sha256) := by
  simp only [applyWrite, bind_ok] at h
  obtain ⟨⟨⟩, -, ⟨⟩, hactor, ⟨⟩, -, ⟨⟩, -, hresult⟩ := h
  exact ⟨validateWriteActor_ok.mp hactor, (ok_inj hresult).2.symm⟩

theorem applyDelete_ok {operation : DeleteOperation}
    (h : applyDelete objects actor operation = .ok (receipt, objects')) :
    MayWrite objects actor operation.key ∧ objects' = objects.erase operation.key := by
  simp only [applyDelete, bind_ok, fetch_ok, require_ok, exists_const] at h
  obtain ⟨previous, hprevious, ⟨⟩, hactor, -, hresult⟩ := h
  rw [← hprevious] at hactor
  exact ⟨validateWriteActor_ok.mp hactor, (ok_inj hresult).2.symm⟩

structure Wrote (sha256 : List UInt8 → Bytes 32) (objects objects' : Objects) (actor : Actor)
    (operation : BatchOperation) : Prop where
  allowed : MayWrite objects actor operation.key
  frame : ∀ key, key ≠ operation.key → objects'.lookup key = objects.lookup key
  filed : objects.Filed sha256 → objects'.Filed sha256

theorem wrote_of_ok (h : applyOperation sha256 objects actor operation = .ok (receipt, objects')) :
    Wrote sha256 objects objects' actor operation := by
  cases operation with
  | write operation =>
    obtain ⟨hallowed, rfl⟩ := applyWrite_ok h
    refine ⟨hallowed, fun key hne => Finmap.lookup_insert_of_ne _ hne, fun hfiled key object h => ?_⟩
    rw [lookup_insert_ite] at h
    split at h
    · next heq =>
      cases h
      exact ⟨heq.symm, rfl, rfl⟩
    · exact hfiled key object h
  | delete operation =>
    obtain ⟨hallowed, rfl⟩ := applyDelete_ok h
    refine ⟨hallowed, fun key hne => Finmap.lookup_erase_ne hne, fun hfiled key object h => ?_⟩
    rw [lookup_erase_ite] at h
    split at h
    · cases h
    · exact hfiled key object h

theorem applyOperations_cons {rest : List BatchOperation}
    (h : applyOperations sha256 actor objects (operation :: rest) = .ok (receipts, objects')) :
    ∃ middle later, Wrote sha256 objects middle actor operation ∧
      applyOperations sha256 actor middle rest = .ok (later, objects') := by
  simp only [applyOperations, bind_ok] at h
  obtain ⟨⟨receipt, middle⟩, hfirst, ⟨later, final⟩, hrest, hresult⟩ := h
  cases (ok_inj hresult).2
  exact ⟨middle, later, wrote_of_ok hfirst, hrest⟩

section

variable (h : applyOperations sha256 actor objects batch = .ok (receipts, objects'))
include h

theorem applyOperations_filed (hfiled : objects.Filed sha256) : objects'.Filed sha256 := by
  induction batch generalizing objects receipts with
  | nil =>
    cases (ok_inj h).2
    exact hfiled
  | cons operation rest ih =>
    obtain ⟨middle, later, hwrote, hrest⟩ := applyOperations_cons h
    exact ih hrest (hwrote.filed hfiled)

theorem applyOperations_frame (hkey : key ∉ batch.map BatchOperation.key) :
    objects'.lookup key = objects.lookup key := by
  induction batch generalizing objects receipts with
  | nil =>
    cases (ok_inj h).2
    rfl
  | cons operation rest ih =>
    obtain ⟨middle, later, hwrote, hrest⟩ := applyOperations_cons h
    rw [List.map_cons, List.mem_cons, not_or] at hkey
    exact (ih hrest hkey.2).trans (hwrote.frame key hkey.1)

theorem applyOperations_each (hnodup : (batch.map BatchOperation.key).Nodup) :
    ∀ operation ∈ batch, ∃ (staged : Objects) (receipt : MutationReceipt) (next : Objects),
      staged.lookup operation.key = objects.lookup operation.key ∧
        applyOperation sha256 staged actor operation = .ok (receipt, next) := by
  induction batch generalizing objects receipts with
  | nil => exact List.forall_mem_nil _
  | cons operation rest ih =>
    simp only [applyOperations, bind_ok] at h
    obtain ⟨⟨receipt, middle⟩, hfirst, ⟨later, final⟩, hrest, hresult⟩ := h
    cases (ok_inj hresult).2
    rw [List.map_cons, List.nodup_cons] at hnodup
    intro operation' hmem
    rcases List.mem_cons.mp hmem with rfl | hmem
    · exact ⟨objects, receipt, middle, rfl, hfirst⟩
    · have hne : operation'.key ≠ operation.key :=
        fun heq => hnodup.1 (heq ▸ List.mem_map_of_mem hmem)
      obtain ⟨staged, receipt', next, hsame, hnext⟩ := ih hrest hnodup.2 operation' hmem
      exact ⟨staged, receipt', next, hsame.trans ((wrote_of_ok hfirst).frame _ hne), hnext⟩

theorem applyOperations_allowed (hnodup : (batch.map BatchOperation.key).Nodup) :
    ∀ operation ∈ batch, MayWrite objects actor operation.key := by
  intro operation hmem
  obtain ⟨staged, receipt, next, hsame, hnext⟩ := applyOperations_each h hnodup operation hmem
  exact (mayWrite_congr hsame).mp (wrote_of_ok hnext).allowed

end

namespace StorageState

theorem applyBatch_ok (h : s.applyBatch sha256 actor batch = .ok (receipts, s')) :
    (batch.map BatchOperation.key).Nodup ∧
      applyOperations sha256 actor s.objects batch = .ok (receipts, s'.objects) := by
  simp only [applyBatch, validateBatch, bind_ok, require_ok, exists_const] at h
  obtain ⟨⟨-, hnodup⟩, ⟨receipts', staged⟩, hoperations, hresult⟩ := h
  cases hresult
  exact ⟨hnodup, hoperations⟩

theorem filed_afterBatch (hfiled : s.objects.Filed sha256) :
    (s.afterBatch sha256 actor batch).objects.Filed sha256 := by
  rw [afterBatch]
  split
  · next receipts next h => exact applyOperations_filed (applyBatch_ok h).2 hfiled
  · exact hfiled

theorem filed (hreach : Reachable (storageStates sha256) s) : s.objects.Filed sha256 := by
  refine hreach.invariant (I := fun s => s.objects.Filed sha256) ?_ ?_
  · rintro _ rfl key object h
    simp [default] at h
  · rintro s ⟨actor, batch⟩ _ hfiled rfl
    exact filed_afterBatch hfiled

theorem untouched (hkey : ¬ MayWrite s.objects actor key) :
    (s.afterBatch sha256 actor batch).objects.lookup key = s.objects.lookup key := by
  rw [afterBatch]
  split
  · next receipts next h =>
    obtain ⟨hnodup, hoperations⟩ := applyBatch_ok h
    refine applyOperations_frame hoperations fun hmem => ?_
    obtain ⟨operation, hoperation, rfl⟩ := List.mem_map.mp hmem
    exact hkey (applyOperations_allowed hoperations hnodup operation hoperation)
  · rfl

theorem read_ok {object : StorageObject} : s.read sha256 actor key = .ok object ↔
    s.objects.lookup key = some object ∧ canRead actor object = true ∧
      object.integrityDigest = integrityOf sha256 object.value := by
  simp only [read, bind_ok, fetch_ok, require_ok, verifyObjectIntegrity, exists_const]
  constructor
  · rintro ⟨found, hfound, hread, hdigest, hresult⟩
    cases hresult
    exact ⟨hfound, hread, hdigest⟩
  · rintro ⟨hfound, hread, hdigest⟩
    exact ⟨object, hfound, hread, hdigest, rfl⟩

structure PermissionLaw (sha256 : List UInt8 → Bytes 32) (s : StorageState) (actor : Actor)
    (key : StorageObjectKey) (batch : List BatchOperation) : Prop where
  reads : ∀ userId object, actor = .user userId → s.read sha256 actor key = .ok object →
    object.readPermission = .owner → userId.isZero = false ∧ userId = key.userId
  writes : ∀ userId receipts s', actor = .user userId →
    s.applyBatch sha256 actor batch = .ok (receipts, s') → ∀ operation ∈ batch,
    userId.isZero = false ∧ userId = operation.key.userId ∧
      ∀ object, s.objects.lookup operation.key = some object → object.writePermission = .owner
  untouched : ∀ key, ¬ MayWrite s.objects actor key →
    (s.afterBatch sha256 actor batch).objects.lookup key = s.objects.lookup key

def ReadsAsZeroOwner (s : StorageState) (actor : Actor) (key : StorageObjectKey) : Prop :=
  ∃ userId object, actor = .user userId ∧ userId.isZero = true ∧ key.userId = userId ∧
    s.objects.lookup key = some object ∧ object.readPermission = .owner

theorem permission_law (hreach : Reachable (storageStates sha256) s) :
    PermissionLaw sha256 s actor key batch ↔ ¬ ReadsAsZeroOwner s actor key := by
  have hfiled := filed hreach
  constructor
  · rintro hlaw ⟨userId, object, rfl, hzero, howner, hobject, hread⟩
    obtain ⟨hkey, -, hdigest⟩ := hfiled key object hobject
    have hcan : canRead (.user userId) object = true := by
      simp [canRead, hkey, howner, hread]
    have hnonzero := (hlaw.reads userId object rfl
      (read_ok.mpr ⟨hobject, hcan, hdigest⟩) hread).1
    rw [hzero] at hnonzero
    cases hnonzero
  · intro hsafe
    refine ⟨fun userId object hactor hread howner => ?_, ?_, fun key' hkey => untouched hkey⟩
    · obtain ⟨hobject, hcan, -⟩ := read_ok.mp hread
      obtain ⟨hkey, -, -⟩ := hfiled key object hobject
      have huser : userId = key.userId := by
        simpa [hactor, canRead, howner, hkey] using hcan
      refine ⟨?_, huser⟩
      cases hzero : userId.isZero with
      | false => rfl
      | true => exact absurd ⟨userId, object, hactor, hzero, huser.symm, hobject, howner⟩ hsafe
    · intro userId receipts s' hactor hbatch operation hoperation
      obtain ⟨hnodup, hoperations⟩ := applyBatch_ok hbatch
      exact applyOperations_allowed hoperations hnodup operation hoperation userId hactor

def zeroUser : UserId := ⟨.replicate 16 0⟩

def sampleKey : StorageObjectKey := ⟨"system", "config", zeroUser, by decide, by decide⟩

def sampleWrite : WriteOperation := ⟨sampleKey, [118, 49], .mustNotExist, .owner, .none⟩

def sampleOwner : UserId := ⟨.replicate 16 7⟩

def slotKey : StorageObjectKey := ⟨"inventory", "slot", sampleOwner, by decide, by decide⟩

def slotWrite : WriteOperation := ⟨slotKey, [118, 50], .any, .owner, .owner⟩

def sampleState : StorageState :=
  default.afterBatch Sha256.digest .server [.write sampleWrite, .write slotWrite]

theorem reachable_sampleState : Reachable (storageStates Sha256.digest) sampleState := by
  have hstep : (storageStates Sha256.digest).step default (.server,
    [.write sampleWrite, .write slotWrite]) sampleState := rfl
  exact Reachable.run (.start rfl) (Run.single hstep)

theorem sampleState_lookup :
    sampleState.objects.lookup sampleKey = some (sampleWrite.object Sha256.digest) := by
  rfl

theorem permission_law_sample :
    PermissionLaw Sha256.digest sampleState (.user sampleOwner) slotKey [.write slotWrite] ∧
      (sampleState.read Sha256.digest (.user sampleOwner) slotKey).isOk = true ∧
      (sampleState.applyBatch Sha256.digest (.user sampleOwner) [.write slotWrite]).isOk = true := by
  refine ⟨(permission_law reachable_sampleState).mpr ?_, by decide +kernel, by decide +kernel⟩
  rintro ⟨userId, object, huser, hzero, -⟩
  cases Actor.user.inj huser
  exact absurd hzero (by decide)

theorem zero_user_reads_system_object :
    Reachable (storageStates Sha256.digest) sampleState ∧
      sampleState.read Sha256.digest (.user zeroUser) sampleKey =
        .ok (sampleWrite.object Sha256.digest) ∧
      ¬ PermissionLaw Sha256.digest sampleState (.user zeroUser) sampleKey [] := by
  have hread : sampleState.read Sha256.digest (.user zeroUser) sampleKey =
      .ok (sampleWrite.object Sha256.digest) :=
    read_ok.mpr ⟨sampleState_lookup, by decide, rfl⟩
  refine ⟨reachable_sampleState, hread, fun hlaw => ?_⟩
  exact absurd (hlaw.reads zeroUser _ rfl hread rfl).1 (by decide)

end StorageState

end

section
variable {sha256 : List UInt8 → Bytes 32} {objects objects' next next' : Objects} {actor : Actor}
  {key : StorageObjectKey} {operation : BatchOperation} {batch batch' : List BatchOperation}
  {receipt : MutationReceipt} {receipts receipts' : List MutationReceipt}
  {found : Option StorageObject} {s s' : StorageState}

def Takes (sha256 : List UInt8 → Bytes 32) (objects : Objects) (actor : Actor)
    (operation : BatchOperation) (receipt : MutationReceipt) (found : Option StorageObject) : Prop :=
  ∃ next, applyOperation sha256 objects actor operation = .ok (receipt, next) ∧
    next.lookup operation.key = found

theorem takes_receipt (h : Takes sha256 objects actor operation receipt found) :
    receipt.key = operation.key := by
  obtain ⟨next, hnext, -⟩ := h
  cases operation with
  | write operation =>
    simp only [applyOperation, applyWrite, bind_ok] at hnext
    obtain ⟨-, -, -, -, -, -, -, -, hresult⟩ := hnext
    rw [← (ok_inj hresult).1]
    rfl
  | delete operation =>
    simp only [applyOperation, applyDelete, bind_ok] at hnext
    obtain ⟨_, -, _, -, _, -, hresult⟩ := hnext
    rw [← (ok_inj hresult).1]
    rfl

theorem takes_local (hkey : objects.lookup operation.key = objects'.lookup operation.key)
    (h : Takes sha256 objects actor operation receipt found) :
    Takes sha256 objects' actor operation receipt found := by
  obtain ⟨next, hnext, rfl⟩ := h
  cases operation with
  | write operation =>
    have hkey : objects.lookup operation.key = objects'.lookup operation.key := hkey
    simp only [applyOperation, applyWrite, bind_ok, hkey] at hnext
    obtain ⟨_, hvalue, _, hactor, _, hversion, _, hprevious, hresult⟩ := hnext
    cases hresult
    refine ⟨objects'.insert operation.key (operation.object sha256), ?_, ?_⟩
    · simp only [applyOperation, applyWrite, bind_ok]
      exact ⟨_, hvalue, _, hactor, _, hversion, _, hprevious, rfl⟩
    · simp only [BatchOperation.key, Finmap.lookup_insert]
  | delete operation =>
    have hkey : objects.lookup operation.key = objects'.lookup operation.key := hkey
    simp only [applyOperation, applyDelete, bind_ok, hkey] at hnext
    obtain ⟨_, hprevious, _, hactor, _, hversion, hresult⟩ := hnext
    cases hresult
    refine ⟨objects'.erase operation.key, ?_, ?_⟩
    · simp only [applyOperation, applyDelete, bind_ok]
      exact ⟨_, hprevious, _, hactor, _, hversion, rfl⟩
    · simp only [BatchOperation.key, Finmap.lookup_erase]

def BatchOperation.left (sha256 : List UInt8 → Bytes 32) : BatchOperation → Option StorageObject
  | .write operation => some (operation.object sha256)
  | .delete _ => none

theorem takes_left (h : applyOperation sha256 objects actor operation = .ok (receipt, next)) :
    next.lookup operation.key = operation.left sha256 := by
  cases operation with
  | write operation =>
    obtain ⟨-, rfl⟩ := applyWrite_ok h
    exact Finmap.lookup_insert _
  | delete operation =>
    obtain ⟨-, rfl⟩ := applyDelete_ok h
    exact Finmap.lookup_erase _ _

theorem takes_frame (h : applyOperation sha256 objects actor operation = .ok (receipt, next))
    (hkey : key ≠ operation.key) : next.lookup key = objects.lookup key :=
  (wrote_of_ok h).frame key hkey

theorem applyOperations_swap {operation' : BatchOperation} {rest : List BatchOperation}
    (hne : operation.key ≠ operation'.key)
    (h : applyOperations sha256 actor objects (operation :: operation' :: rest) =
      .ok (receipts, next)) :
    ∃ receipts', applyOperations sha256 actor objects (operation' :: operation :: rest) =
      .ok (receipts', next) ∧ receipts.Perm receipts' := by
  simp only [applyOperations, bind_ok] at h
  obtain ⟨⟨receipt, middle⟩, hfirst, ⟨_, _⟩, ⟨⟨receipt', last⟩, hsecond, ⟨later, final⟩, hrest,
    hresult⟩, hresult'⟩ := h
  cases hresult
  cases hresult'
  obtain ⟨middle', hfirst', hmiddle'⟩ := takes_local (takes_frame hfirst hne.symm)
    ⟨last, hsecond, rfl⟩
  obtain ⟨last', hsecond', hlast'⟩ := takes_local (takes_frame hfirst' hne).symm
    ⟨middle, hfirst, rfl⟩
  have hsame : last' = last := by
    refine Finmap.ext_lookup fun key => ?_
    by_cases hkey : key = operation.key
    · rw [hkey, hlast', takes_frame hsecond hne]
    · rw [takes_frame hsecond' hkey]
      by_cases hkey' : key = operation'.key
      · rw [hkey', hmiddle']
      · rw [takes_frame hfirst' hkey', takes_frame hsecond hkey', takes_frame hfirst hkey]
  subst hsame
  refine ⟨receipt' :: receipt :: later, ?_, .swap receipt' receipt later⟩
  simp only [applyOperations, bind_ok]
  exact ⟨_, hfirst', _, ⟨_, hsecond', _, hrest, rfl⟩, rfl⟩

theorem applyOperations_perm (hperm : batch.Perm batch')
    (hnodup : (batch.map BatchOperation.key).Nodup)
    (h : applyOperations sha256 actor objects batch = .ok (receipts, next)) :
    ∃ receipts', applyOperations sha256 actor objects batch' = .ok (receipts', next) ∧
      receipts.Perm receipts' := by
  induction hperm generalizing objects receipts with
  | nil => exact ⟨receipts, h, .refl receipts⟩
  | cons operation _ ih =>
    rw [List.map_cons, List.nodup_cons] at hnodup
    simp only [applyOperations, bind_ok] at h
    obtain ⟨⟨receipt, middle⟩, hfirst, ⟨later, final⟩, hrest, hresult⟩ := h
    cases hresult
    obtain ⟨later', hrest', hlater⟩ := ih hnodup.2 hrest
    refine ⟨receipt :: later', ?_, hlater.cons receipt⟩
    simp only [applyOperations, bind_ok]
    exact ⟨_, hfirst, _, hrest', rfl⟩
  | swap operation operation' rest =>
    rw [List.map_cons, List.map_cons, List.nodup_cons, List.mem_cons, not_or] at hnodup
    exact applyOperations_swap hnodup.1.1 h
  | trans hperm _ ih ih' =>
    obtain ⟨receipts', h', hreceipts⟩ := ih hnodup h
    obtain ⟨receipts'', h'', hreceipts'⟩ := ih' ((hperm.map _).nodup hnodup) h'
    exact ⟨receipts'', h'', hreceipts.trans hreceipts'⟩

theorem applyOperations_receipts
    (h : applyOperations sha256 actor objects batch = .ok (receipts, next)) :
    receipts.map MutationReceipt.key = batch.map BatchOperation.key := by
  induction batch generalizing objects receipts with
  | nil =>
    obtain ⟨rfl, -⟩ := ok_inj h
    rfl
  | cons operation rest ih =>
    simp only [applyOperations, bind_ok] at h
    obtain ⟨⟨receipt, middle⟩, hfirst, ⟨later, final⟩, hrest, hresult⟩ := h
    cases hresult
    rw [List.map_cons, List.map_cons, ih hrest, takes_receipt ⟨middle, hfirst, rfl⟩]

theorem applyOperations_left
    (h : applyOperations sha256 actor objects batch = .ok (receipts, next))
    (hnodup : (batch.map BatchOperation.key).Nodup) :
    ∀ operation ∈ batch, next.lookup operation.key = operation.left sha256 := by
  induction batch generalizing objects receipts with
  | nil => exact List.forall_mem_nil _
  | cons operation rest ih =>
    simp only [applyOperations, bind_ok] at h
    obtain ⟨⟨receipt, middle⟩, hfirst, ⟨later, final⟩, hrest, hresult⟩ := h
    cases hresult
    rw [List.map_cons, List.nodup_cons] at hnodup
    intro operation' hmem
    rcases List.mem_cons.mp hmem with rfl | hmem
    · rw [applyOperations_frame hrest hnodup.1, takes_left hfirst]
    · exact ih hrest hnodup.2 operation' hmem

def receiptFor (receipts : List MutationReceipt) (key : StorageObjectKey) : Option MutationReceipt :=
  receipts.find? fun receipt => receipt.key = key

theorem receiptFor_iff (hnodup : (receipts.map MutationReceipt.key).Nodup) :
    receiptFor receipts key = some receipt ↔ receipt ∈ receipts ∧ receipt.key = key := by
  constructor
  · intro h
    exact ⟨List.mem_of_find?_eq_some h, by simpa using List.find?_some h⟩
  · rintro ⟨hmem, rfl⟩
    cases hfound : receiptFor receipts receipt.key with
    | none => simpa using List.find?_eq_none.mp hfound receipt hmem
    | some other =>
      have hkey : other.key = receipt.key := by simpa using List.find?_some hfound
      rw [List.inj_on_of_nodup_map hnodup (List.mem_of_find?_eq_some hfound) hmem hkey]

theorem receiptFor_perm (hperm : receipts.Perm receipts')
    (hnodup : (receipts.map MutationReceipt.key).Nodup) :
    receiptFor receipts key = receiptFor receipts' key := by
  ext receipt
  rw [receiptFor_iff hnodup, receiptFor_iff ((hperm.map _).nodup hnodup), hperm.mem_iff]

namespace StorageState

theorem validateBatch_perm (hperm : batch.Perm batch') :
    validateBatch batch = .ok () ↔ validateBatch batch' = .ok () := by
  simp only [validateBatch, bind_ok, require_ok, exists_const, hperm.length_eq,
    (hperm.map BatchOperation.key).nodup_iff, ne_eq]
  rw [← List.length_eq_zero_iff, ← List.length_eq_zero_iff, hperm.length_eq]

theorem applyBatch_perm (hperm : batch.Perm batch')
    (h : s.applyBatch sha256 actor batch = .ok (receipts, s')) :
    ∃ receipts', s.applyBatch sha256 actor batch' = .ok (receipts', s') ∧
      ∀ key, receiptFor receipts key = receiptFor receipts' key := by
  have hoperations := applyBatch_ok h
  simp only [applyBatch, bind_ok] at h
  obtain ⟨⟨⟩, hvalid, -⟩ := h
  obtain ⟨receipts', hreceipts, hsame⟩ := applyOperations_perm hperm hoperations.1 hoperations.2
  refine ⟨receipts', ?_, fun key => receiptFor_perm hsame ?_⟩
  · simp only [applyBatch, bind_ok]
    exact ⟨(), (validateBatch_perm hperm).mp hvalid, _, hreceipts, rfl⟩
  · rw [applyOperations_receipts hoperations.2]
    exact hoperations.1

structure BatchLaw (sha256 : List UInt8 → Bytes 32) (s : StorageState) (actor : Actor)
    (batch batch' : List BatchOperation) : Prop where
  succeeds : (∃ done, s.applyBatch sha256 actor batch = .ok done) ↔
    ∃ done, s.applyBatch sha256 actor batch' = .ok done
  state : s.afterBatch sha256 actor batch = s.afterBatch sha256 actor batch'
  receipts : ∀ receipts receipts' next next',
    s.applyBatch sha256 actor batch = .ok (receipts, next) →
    s.applyBatch sha256 actor batch' = .ok (receipts', next') →
    ∀ key, receiptFor receipts key = receiptFor receipts' key
  whole : ∀ receipts next, s.applyBatch sha256 actor batch = .ok (receipts, next) →
    (∀ operation ∈ batch, next.objects.lookup operation.key = operation.left sha256) ∧
      ∀ key, key ∉ batch.map BatchOperation.key → next.objects.lookup key = s.objects.lookup key
  atomic : ∀ e, s.applyBatch sha256 actor batch = .error e → s.afterBatch sha256 actor batch = s

theorem batch_atomic_and_order_independent (hperm : batch.Perm batch') :
    BatchLaw sha256 s actor batch batch' := by
  have hforward : ∀ {batch batch' : List BatchOperation} {receipts next}, batch.Perm batch' →
      s.applyBatch sha256 actor batch = .ok (receipts, next) →
      ∃ receipts', s.applyBatch sha256 actor batch' = .ok (receipts', next) :=
    fun hperm h => (applyBatch_perm hperm h).imp fun _ h => h.1
  refine ⟨⟨?_, ?_⟩, ?_, ?_, ?_, ?_⟩
  · rintro ⟨⟨receipts, next⟩, h⟩
    obtain ⟨receipts', h'⟩ := hforward hperm h
    exact ⟨_, h'⟩
  · rintro ⟨⟨receipts, next⟩, h⟩
    obtain ⟨receipts', h'⟩ := hforward hperm.symm h
    exact ⟨_, h'⟩
  · simp only [afterBatch]
    cases h : s.applyBatch sha256 actor batch with
    | ok done =>
      obtain ⟨receipts', h'⟩ := hforward hperm h
      rw [h']
    | error e =>
      cases h' : s.applyBatch sha256 actor batch' with
      | ok done =>
        obtain ⟨receipts', h''⟩ := hforward hperm.symm h'
        rw [h] at h''
        cases h''
      | error e' => rfl
  · intro receipts receipts' next next' h h' key
    obtain ⟨receipts'', h'', hsame⟩ := applyBatch_perm hperm h
    rw [h'] at h''
    rw [hsame key, (ok_inj h'').1]
  · intro receipts next h
    obtain ⟨hnodup, hoperations⟩ := applyBatch_ok h
    exact ⟨applyOperations_left hoperations hnodup, fun key => applyOperations_frame hoperations⟩
  · intro e h
    rw [afterBatch, h]

def sampleBatch : List BatchOperation :=
  [.delete ⟨sampleKey, none⟩, .write ⟨⟨"inventory", "slot", zeroUser, by decide, by decide⟩,
    [118, 49], .any, .owner, .owner⟩]

theorem batch_atomic_and_order_independent_sample :
    BatchLaw Sha256.digest sampleState .server sampleBatch sampleBatch.reverse :=
  batch_atomic_and_order_independent (List.reverse_perm sampleBatch).symm

end StorageState

end

end Storage
