import TrillionniumGame.Foundation.Checks
import TrillionniumGame.Foundation.Runs
import TrillionniumGame.Persistence.Contracts

namespace Persistence
open Checks Runs

@[ext]
structure MigrationDigest where
  bytes : Bytes 32
  nonzero : zeroBytes bytes = false

instance : DecidableEq MigrationDigest := fun _ _ => decidable_of_iff' _ MigrationDigest.ext_iff

structure FenceEpoch where
  value : Nat
  positive : value ≠ 0
  deriving DecidableEq

structure MigrationIdentity where
  sourceSchema : MigrationDigest
  targetSchema : MigrationDigest
  mapping : MigrationDigest
  deriving DecidableEq

inductive AuthorityMode where
  | sourceOnly
  | fenced
  | canary (targetBasisPoints : Nat)
  | targetOnly
  | retired
  deriving DecidableEq

inductive MigrationPhase where
  | sourcePrimary
  | snapshotSealed
  | catchingUp
  | shadowVerified
  | writeFenced
  | canary (targetBasisPoints : Nat)
  | targetPrimary
  | sourceReadOnly
  | retired
  | rolledBack
  deriving DecidableEq

structure MigrationFence where
  identity : MigrationIdentity
  phase : MigrationPhase
  sourceCursor : Nat
  targetCursor : Nat
  snapshotDigest : Option MigrationDigest
  semanticDigest : Option MigrationDigest
  fenceEpoch : Option FenceEpoch
  cutoverReceipt : Option MigrationDigest
  sourceReadOnlyReceipt : Option MigrationDigest
  rollbackReceipt : Option MigrationDigest
  retirementReceipt : Option MigrationDigest
  verifiedCursor : Option Nat
  deriving DecidableEq

inductive MigrationFenceError where
  | zeroDigest
  | zeroFenceEpoch
  | invalidIdentity
  | invalidPhase (expected : String) (observed : MigrationPhase)
  | cursorRegression (side : String) (current received : Nat)
  | targetAheadOfSource (source target : Nat)
  | catchUpIncomplete (source target : Nat)
  | semanticMismatch
  | nonIncreasingFenceEpoch (current : Option FenceEpoch) (received : FenceEpoch)
  | invalidCanaryBasisPoints (value : Nat)
  | canaryRegression (current received : Nat)
  | canaryIncomplete (value : Nat)
  | receiptMissing (name : String)
  | retirementIsTerminal
  deriving DecidableEq

namespace MigrationFence

abbrev Outcome := Except MigrationFenceError Unit × MigrationFence

def new (identity : MigrationIdentity) : Except MigrationFenceError MigrationFence := do
  require (identity.sourceSchema ≠ identity.targetSchema) .invalidIdentity
  return ⟨identity, .sourcePrimary, 0, 0, none, none, none, none, none, none, none, none⟩

variable (f : MigrationFence)

def authorityMode : AuthorityMode :=
  match f.phase with
  | .sourcePrimary | .snapshotSealed | .catchingUp | .shadowVerified | .rolledBack => .sourceOnly
  | .writeFenced => .fenced
  | .canary targetBasisPoints => .canary targetBasisPoints
  | .targetPrimary | .sourceReadOnly => .targetOnly
  | .retired => .retired

def checked (checks : Except MigrationFenceError Unit) (next : MigrationFence) : Outcome :=
  match checks with
  | .error e => (.error e, f)
  | .ok () => (.ok (), next)

def requirePhase (expected : String) (phases : List MigrationPhase) :
    Except MigrationFenceError Unit :=
  require (f.phase ∈ phases) (.invalidPhase expected f.phase)

def requireIncreasingEpoch (epoch : FenceEpoch) : Except MigrationFenceError Unit :=
  require (∀ current ∈ f.fenceEpoch, current.value < epoch.value)
    (.nonIncreasingFenceEpoch f.fenceEpoch epoch)

def requireCurrentShadowVerification : Except MigrationFenceError Unit := do
  require (f.sourceCursor = f.targetCursor) (.catchUpIncomplete f.sourceCursor f.targetCursor)
  require (f.semanticDigest.isSome ∧ f.verifiedCursor = some f.sourceCursor)
    (.invalidPhase "current-cut shadow verification" f.phase)

def advanceSource (cursor : Nat) : Outcome :=
  if f.phase = .retired then (.error .retirementIsTerminal, f)
  else if cursor < f.sourceCursor then
    (.error (.cursorRegression "source" f.sourceCursor cursor), f)
  else if cursor = f.sourceCursor then (.ok (), f)
  else match f.phase with
    | .sourcePrimary | .snapshotSealed | .catchingUp | .rolledBack =>
      (.ok (), { f with sourceCursor := cursor })
    | .shadowVerified =>
      (.ok (), { f with
        sourceCursor := cursor
        semanticDigest := none
        verifiedCursor := none
        phase := .catchingUp })
    | _ => (.error (.invalidPhase "source-authoritative unfenced phase" f.phase), f)

def sealSnapshot (cursor : Nat) (digest : MigrationDigest) : Outcome :=
  match f.requirePhase "SourcePrimary" [.sourcePrimary] with
  | .error e => (.error e, f)
  | .ok () =>
    match f.advanceSource cursor with
    | (.error e, f) => (.error e, f)
    | (.ok (), f) =>
      (.ok (), { f with
        snapshotDigest := some digest
        semanticDigest := none
        verifiedCursor := none
        phase := .snapshotSealed })

def advanceTarget (cursor : Nat) : Outcome :=
  f.checked
    (do
      f.requirePhase "SnapshotSealed or CatchingUp" [.snapshotSealed, .catchingUp]
      require (f.targetCursor ≤ cursor) (.cursorRegression "target" f.targetCursor cursor)
      require (cursor ≤ f.sourceCursor) (.targetAheadOfSource f.sourceCursor cursor))
    { f with
      targetCursor := cursor
      semanticDigest := none
      verifiedCursor := none
      phase := .catchingUp }

def verifyShadow (sourceSemanticDigest targetSemanticDigest : MigrationDigest) : Outcome :=
  f.checked
    (do
      f.requirePhase "CatchingUp" [.catchingUp]
      require (f.sourceCursor = f.targetCursor) (.catchUpIncomplete f.sourceCursor f.targetCursor)
      require (sourceSemanticDigest = targetSemanticDigest) .semanticMismatch)
    { f with
      semanticDigest := some sourceSemanticDigest
      verifiedCursor := some f.sourceCursor
      phase := .shadowVerified }

def activateWriteFence (epoch : FenceEpoch) (fenceReceipt : MigrationDigest) : Outcome :=
  f.checked
    (do
      f.requirePhase "ShadowVerified" [.shadowVerified]
      f.requireCurrentShadowVerification
      f.requireIncreasingEpoch epoch
      require (zeroBytes fenceReceipt.bytes = false) (.receiptMissing "write-fence"))
    { f with fenceEpoch := some epoch, phase := .writeFenced }

def currentCanary : Except MigrationFenceError Nat :=
  match f.phase with
  | .writeFenced => .ok 0
  | .canary targetBasisPoints => .ok targetBasisPoints
  | observed => .error (.invalidPhase "WriteFenced or Canary" observed)

def setCanary (targetBasisPoints : Nat) : Outcome :=
  f.checked
    (do
      require (1 ≤ targetBasisPoints ∧ targetBasisPoints ≤ 10000)
        (.invalidCanaryBasisPoints targetBasisPoints)
      let current ← f.currentCanary
      f.requireCurrentShadowVerification
      require (current ≤ targetBasisPoints) (.canaryRegression current targetBasisPoints))
    { f with phase := .canary targetBasisPoints }

def promotableCanary : Except MigrationFenceError Nat :=
  match f.phase with
  | .canary targetBasisPoints => .ok targetBasisPoints
  | observed => .error (.invalidPhase "Canary at 10000 basis points" observed)

def promoteTarget (cutoverReceipt : MigrationDigest) : Outcome :=
  f.checked
    (do
      let value ← f.promotableCanary
      f.requireCurrentShadowVerification
      require (value = 10000) (.canaryIncomplete value))
    { f with cutoverReceipt := some cutoverReceipt, phase := .targetPrimary }

def markSourceReadOnly (receipt : MigrationDigest) : Outcome :=
  f.checked (f.requirePhase "TargetPrimary" [.targetPrimary])
    { f with sourceReadOnlyReceipt := some receipt, phase := .sourceReadOnly }

def retireSource (retirementReceipt : MigrationDigest) : Outcome :=
  f.checked (f.requirePhase "SourceReadOnly" [.sourceReadOnly])
    { f with retirementReceipt := some retirementReceipt, phase := .retired }

def resumeAfterRollback (sourceCursor : Nat) : Outcome :=
  f.checked
    (do
      f.requirePhase "RolledBack" [.rolledBack]
      require (f.sourceCursor ≤ sourceCursor)
        (.cursorRegression "source" f.sourceCursor sourceCursor))
    { f with
      sourceCursor
      targetCursor := 0
      semanticDigest := none
      verifiedCursor := none
      cutoverReceipt := none
      sourceReadOnlyReceipt := none
      retirementReceipt := none
      phase := .catchingUp }

def requireRollbackPhase : Except MigrationFenceError Unit :=
  match f.phase with
  | .writeFenced | .canary _ | .targetPrimary | .sourceReadOnly => .ok ()
  | observed =>
    .error (.invalidPhase "fenced, canary, target-primary or source-read-only" observed)

def rollback (rollbackEpoch : FenceEpoch) (rollbackReceipt : MigrationDigest) : Outcome :=
  f.checked
    (do
      require (f.phase ≠ .retired) .retirementIsTerminal
      f.requireRollbackPhase
      f.requireIncreasingEpoch rollbackEpoch)
    { f with
      fenceEpoch := some rollbackEpoch
      rollbackReceipt := some rollbackReceipt
      semanticDigest := none
      verifiedCursor := none
      phase := .rolledBack }

end MigrationFence

inductive MigrationOp where
  | advanceSource (cursor : Nat)
  | sealSnapshot (cursor : Nat) (digest : MigrationDigest)
  | advanceTarget (cursor : Nat)
  | verifyShadow (source target : MigrationDigest)
  | activateWriteFence (epoch : FenceEpoch) (fenceReceipt : MigrationDigest)
  | setCanary (targetBasisPoints : Nat)
  | promoteTarget (cutoverReceipt : MigrationDigest)
  | markSourceReadOnly (receipt : MigrationDigest)
  | retireSource (retirementReceipt : MigrationDigest)
  | resumeAfterRollback (sourceCursor : Nat)
  | rollback (epoch : FenceEpoch) (receipt : MigrationDigest)

def MigrationFence.exec (f : MigrationFence) : MigrationOp → MigrationFence.Outcome
  | .advanceSource cursor => f.advanceSource cursor
  | .sealSnapshot cursor digest => f.sealSnapshot cursor digest
  | .advanceTarget cursor => f.advanceTarget cursor
  | .verifyShadow source target => f.verifyShadow source target
  | .activateWriteFence epoch fenceReceipt => f.activateWriteFence epoch fenceReceipt
  | .setCanary targetBasisPoints => f.setCanary targetBasisPoints
  | .promoteTarget cutoverReceipt => f.promoteTarget cutoverReceipt
  | .markSourceReadOnly receipt => f.markSourceReadOnly receipt
  | .retireSource retirementReceipt => f.retireSource retirementReceipt
  | .resumeAfterRollback sourceCursor => f.resumeAfterRollback sourceCursor
  | .rollback epoch receipt => f.rollback epoch receipt

structure MigrationEntry where
  before : MigrationFence
  op : MigrationOp
  after : MigrationFence

structure MigrationRun where
  fence : MigrationFence
  log : List MigrationEntry

def MigrationRun.perform (r : MigrationRun) (op : MigrationOp) : MigrationRun :=
  match r.fence.exec op with
  | (.error _, fence) => ⟨fence, r.log⟩
  | (.ok (), fence) => ⟨fence, ⟨r.fence, op, fence⟩ :: r.log⟩

def migration : System MigrationRun MigrationOp where
  init r := ∃ identity, MigrationFence.new identity = .ok r.fence ∧ r.log = []
  step r op r' := r' = r.perform op

def MigrationOp.isRollback : MigrationOp → Bool
  | .rollback _ _ => true
  | _ => false

def MigrationOp.epoch : MigrationOp → Option FenceEpoch
  | .activateWriteFence epoch _ => some epoch
  | .rollback epoch _ => some epoch
  | _ => none

def sinceRollback (log : List MigrationEntry) : List MigrationEntry :=
  log.takeWhile fun entry => !entry.op.isRollback

def acceptedEpochs (log : List MigrationEntry) : List FenceEpoch :=
  log.filterMap fun entry => entry.op.epoch

def MigrationPhase.unverified : MigrationPhase → Prop
  | .sourcePrimary | .snapshotSealed | .catchingUp | .rolledBack => True
  | _ => False

def MigrationPhase.fenced : MigrationPhase → Prop
  | .writeFenced | .canary _ | .targetPrimary | .sourceReadOnly | .retired => True
  | _ => False

def MigrationPhase.promoted : MigrationPhase → Prop
  | .canary targetBasisPoints => targetBasisPoints = 10000
  | .targetPrimary | .sourceReadOnly | .retired => True
  | _ => False

structure MigrationFence.Verified (f : MigrationFence) : Prop where
  cursors : f.sourceCursor = f.targetCursor
  verified : f.verifiedCursor = some f.sourceCursor
  digest : f.semanticDigest.isSome

inductive Accepted (f : MigrationFence) : MigrationOp → MigrationFence → Prop
  | observe : f.phase ≠ .retired → Accepted f (.advanceSource f.sourceCursor) f
  | advance (cursor : Nat) : f.phase.unverified → f.sourceCursor < cursor →
      Accepted f (.advanceSource cursor) { f with sourceCursor := cursor }
  | reopen (cursor : Nat) : f.phase = .shadowVerified → f.sourceCursor < cursor →
      Accepted f (.advanceSource cursor)
        { f with
          sourceCursor := cursor
          semanticDigest := none
          verifiedCursor := none
          phase := .catchingUp }
  | sealSnapshot (cursor : Nat) (digest : MigrationDigest) : f.phase = .sourcePrimary →
      f.sourceCursor ≤ cursor →
      Accepted f (.sealSnapshot cursor digest)
        { f with
          sourceCursor := cursor
          snapshotDigest := some digest
          semanticDigest := none
          verifiedCursor := none
          phase := .snapshotSealed }
  | advanceTarget (cursor : Nat) : f.phase = .snapshotSealed ∨ f.phase = .catchingUp →
      f.targetCursor ≤ cursor → cursor ≤ f.sourceCursor →
      Accepted f (.advanceTarget cursor)
        { f with
          targetCursor := cursor
          semanticDigest := none
          verifiedCursor := none
          phase := .catchingUp }
  | verifyShadow (digest : MigrationDigest) : f.phase = .catchingUp →
      f.sourceCursor = f.targetCursor →
      Accepted f (.verifyShadow digest digest)
        { f with
          semanticDigest := some digest
          verifiedCursor := some f.sourceCursor
          phase := .shadowVerified }
  | activateWriteFence (epoch : FenceEpoch) (fenceReceipt : MigrationDigest) :
      f.phase = .shadowVerified → f.Verified →
      (∀ current ∈ f.fenceEpoch, current.value < epoch.value) →
      Accepted f (.activateWriteFence epoch fenceReceipt)
        { f with fenceEpoch := some epoch, phase := .writeFenced }
  | setCanary (targetBasisPoints : Nat) :
      (f.phase = .writeFenced ∨
        ∃ current, f.phase = .canary current ∧ current ≤ targetBasisPoints) →
      1 ≤ targetBasisPoints → targetBasisPoints ≤ 10000 → f.Verified →
      Accepted f (.setCanary targetBasisPoints) { f with phase := .canary targetBasisPoints }
  | promoteTarget (cutoverReceipt : MigrationDigest) : f.phase = .canary 10000 → f.Verified →
      Accepted f (.promoteTarget cutoverReceipt)
        { f with cutoverReceipt := some cutoverReceipt, phase := .targetPrimary }
  | markSourceReadOnly (receipt : MigrationDigest) : f.phase = .targetPrimary →
      Accepted f (.markSourceReadOnly receipt)
        { f with sourceReadOnlyReceipt := some receipt, phase := .sourceReadOnly }
  | retireSource (retirementReceipt : MigrationDigest) : f.phase = .sourceReadOnly →
      Accepted f (.retireSource retirementReceipt)
        { f with retirementReceipt := some retirementReceipt, phase := .retired }
  | resumeAfterRollback (sourceCursor : Nat) : f.phase = .rolledBack →
      f.sourceCursor ≤ sourceCursor →
      Accepted f (.resumeAfterRollback sourceCursor)
        { f with
          sourceCursor := sourceCursor
          targetCursor := 0
          semanticDigest := none
          verifiedCursor := none
          cutoverReceipt := none
          sourceReadOnlyReceipt := none
          retirementReceipt := none
          phase := .catchingUp }
  | rollback (epoch : FenceEpoch) (receipt : MigrationDigest) : f.phase.fenced →
      f.phase ≠ .retired → (∀ current ∈ f.fenceEpoch, current.value < epoch.value) →
      Accepted f (.rollback epoch receipt)
        { f with
          fenceEpoch := some epoch
          rollbackReceipt := some receipt
          semanticDigest := none
          verifiedCursor := none
          phase := .rolledBack }

section
variable {f f' next : MigrationFence}

variable {checks : Except MigrationFenceError Unit}

theorem checked_ok (h : f.checked checks next = (.ok (), f')) : checks = .ok () ∧ f' = next := by
  unfold MigrationFence.checked at h
  cases checks with
  | error e => cases h
  | ok u =>
    cases h
    exact ⟨rfl, rfl⟩

variable {e : MigrationFenceError}

theorem checked_error (h : f.checked checks next = (.error e, f')) : f' = f := by
  unfold MigrationFence.checked at h
  cases checks with
  | error e' =>
    cases h
    rfl
  | ok u => cases h

variable {u : Unit}

theorem requirePhase_ok {expected : String} {phases : List MigrationPhase} :
    f.requirePhase expected phases = .ok u ↔ f.phase ∈ phases :=
  require_ok

theorem requireIncreasingEpoch_ok {epoch : FenceEpoch} :
    f.requireIncreasingEpoch epoch = .ok u ↔
      ∀ current ∈ f.fenceEpoch, current.value < epoch.value :=
  require_ok

theorem requireCurrentShadowVerification_ok :
    f.requireCurrentShadowVerification = .ok u ↔ f.Verified := by
  simp only [MigrationFence.requireCurrentShadowVerification, bind_ok, require_ok]
  constructor
  · rintro ⟨_, hcursor, hdigest, hverified⟩
    exact ⟨hcursor, hverified, hdigest⟩
  · rintro ⟨hcursor, hverified, hdigest⟩
    exact ⟨(), hcursor, hdigest, hverified⟩

variable {cursor : Nat}

theorem advanceSource_accepted (h : f.advanceSource cursor = (.ok (), f')) :
    Accepted f (.advanceSource cursor) f' := by
  unfold MigrationFence.advanceSource at h
  split at h
  · cases h
  · next hretired =>
    split at h
    · cases h
    · next hle =>
      split at h
      · next heq =>
        cases h
        exact heq ▸ .observe hretired
      · next hne =>
        have hlt : f.sourceCursor < cursor := by omega
        split at h <;> rename_i hp <;> cases h
        · exact .advance cursor (by simp [hp, MigrationPhase.unverified]) hlt
        · exact .advance cursor (by simp [hp, MigrationPhase.unverified]) hlt
        · exact .advance cursor (by simp [hp, MigrationPhase.unverified]) hlt
        · exact .advance cursor (by simp [hp, MigrationPhase.unverified]) hlt
        · exact .reopen cursor hp hlt

theorem advanceSource_error (h : f.advanceSource cursor = (.error e, f')) : f' = f := by
  unfold MigrationFence.advanceSource at h
  split_ifs at h
  · cases h
    rfl
  · cases h
    rfl
  · cases h
  · split at h <;> cases h
    rfl

variable {digest : MigrationDigest}

theorem sealSnapshot_accepted (h : f.sealSnapshot cursor digest = (.ok (), f')) :
    Accepted f (.sealSnapshot cursor digest) f' := by
  unfold MigrationFence.sealSnapshot at h
  cases hp : f.requirePhase "SourcePrimary" [.sourcePrimary] with
  | error e =>
    rw [hp] at h
    cases h
  | ok u =>
    have hphase : f.phase = .sourcePrimary := by simpa using requirePhase_ok.mp hp
    rw [hp] at h
    cases ha : f.advanceSource cursor with
    | mk result mid =>
      cases result with
      | error e =>
        simp only [ha] at h
        cases h
      | ok u' =>
        simp only [ha] at h
        cases h
        cases advanceSource_accepted ha with
        | observe => exact .sealSnapshot _ digest hphase le_rfl
        | advance _ _ hlt => exact .sealSnapshot _ digest hphase hlt.le
        | reopen _ hs => simp [hphase] at hs

theorem sealSnapshot_error (h : f.sealSnapshot cursor digest = (.error e, f')) : f' = f := by
  unfold MigrationFence.sealSnapshot at h
  cases hp : f.requirePhase "SourcePrimary" [.sourcePrimary] with
  | error e' =>
    rw [hp] at h
    cases h
    rfl
  | ok u =>
    rw [hp] at h
    cases ha : f.advanceSource cursor with
    | mk result mid =>
      cases result with
      | error e' =>
        simp only [ha] at h
        cases h
        exact advanceSource_error ha
      | ok u' =>
        simp only [ha] at h
        cases h

theorem currentCanary_ok {current : Nat} (h : f.currentCanary = .ok current) :
    f.phase = .writeFenced ∧ current = 0 ∨ f.phase = .canary current := by
  unfold MigrationFence.currentCanary at h
  split at h
  · next hp =>
    cases h
    exact .inl ⟨hp, rfl⟩
  · next hp =>
    cases h
    exact .inr hp
  · cases h

theorem promotableCanary_ok {value : Nat} (h : f.promotableCanary = .ok value) :
    f.phase = .canary value := by
  unfold MigrationFence.promotableCanary at h
  split at h
  · next hp =>
    cases h
    exact hp
  · cases h

theorem requireRollbackPhase_ok (h : f.requireRollbackPhase = .ok u) : f.phase.fenced := by
  unfold MigrationFence.requireRollbackPhase at h
  split at h
  · next hp => simp [hp, MigrationPhase.fenced]
  · next hp => simp [hp, MigrationPhase.fenced]
  · next hp => simp [hp, MigrationPhase.fenced]
  · next hp => simp [hp, MigrationPhase.fenced]
  · cases h

variable {op : MigrationOp}

theorem exec_accepted (h : f.exec op = (.ok (), f')) : Accepted f op f' := by
  cases op with
  | advanceSource cursor => exact advanceSource_accepted h
  | sealSnapshot cursor digest => exact sealSnapshot_accepted h
  | advanceTarget cursor =>
    obtain ⟨hc, rfl⟩ := checked_ok h
    simp only [bind_ok, requirePhase_ok, require_ok] at hc
    obtain ⟨_, hphase, _, hle, hle'⟩ := hc
    exact .advanceTarget cursor (by simpa using hphase) hle hle'
  | verifyShadow source target =>
    obtain ⟨hc, rfl⟩ := checked_ok h
    simp only [bind_ok, requirePhase_ok, require_ok] at hc
    obtain ⟨_, hphase, _, hcursor, rfl⟩ := hc
    exact .verifyShadow source (by simpa using hphase) hcursor
  | activateWriteFence epoch fenceReceipt =>
    obtain ⟨hc, rfl⟩ := checked_ok h
    simp only [bind_ok, requirePhase_ok, requireCurrentShadowVerification_ok,
      requireIncreasingEpoch_ok] at hc
    obtain ⟨_, hphase, _, hverified, _, hepoch, _⟩ := hc
    exact .activateWriteFence epoch fenceReceipt (by simpa using hphase) hverified hepoch
  | setCanary targetBasisPoints =>
    obtain ⟨hc, rfl⟩ := checked_ok h
    simp only [bind_ok, require_ok, requireCurrentShadowVerification_ok] at hc
    obtain ⟨_, ⟨hone, hmax⟩, current, hcurrent, _, hverified, hle⟩ := hc
    refine .setCanary targetBasisPoints ?_ hone hmax hverified
    exact (currentCanary_ok hcurrent).imp And.left fun hp => ⟨current, hp, hle⟩
  | promoteTarget cutoverReceipt =>
    obtain ⟨hc, rfl⟩ := checked_ok h
    simp only [bind_ok, require_ok, requireCurrentShadowVerification_ok] at hc
    obtain ⟨_, hvalue, _, hverified, rfl⟩ := hc
    exact .promoteTarget cutoverReceipt (promotableCanary_ok hvalue) hverified
  | markSourceReadOnly receipt =>
    obtain ⟨hc, rfl⟩ := checked_ok h
    exact .markSourceReadOnly receipt (by simpa using requirePhase_ok.mp hc)
  | retireSource retirementReceipt =>
    obtain ⟨hc, rfl⟩ := checked_ok h
    exact .retireSource retirementReceipt (by simpa using requirePhase_ok.mp hc)
  | resumeAfterRollback sourceCursor =>
    obtain ⟨hc, rfl⟩ := checked_ok h
    simp only [bind_ok, requirePhase_ok, require_ok] at hc
    obtain ⟨_, hphase, hle⟩ := hc
    exact .resumeAfterRollback sourceCursor (by simpa using hphase) hle
  | rollback epoch receipt =>
    obtain ⟨hc, rfl⟩ := checked_ok h
    simp only [bind_ok, require_ok, requireIncreasingEpoch_ok] at hc
    obtain ⟨_, hretired, _, hphase, hepoch⟩ := hc
    exact .rollback epoch receipt (requireRollbackPhase_ok hphase) hretired hepoch

theorem exec_error (h : f.exec op = (.error e, f')) : f' = f := by
  cases op with
  | advanceSource cursor => exact advanceSource_error h
  | sealSnapshot cursor digest => exact sealSnapshot_error h
  | _ => exact checked_error h

end

theorem perform_cases (r : MigrationRun) (op : MigrationOp) :
    r.perform op = r ∨
      ∃ f', Accepted r.fence op f' ∧ r.perform op = ⟨f', ⟨r.fence, op, f'⟩ :: r.log⟩ := by
  unfold MigrationRun.perform
  cases he : r.fence.exec op with
  | mk result f' =>
    cases result with
    | error e =>
      rw [exec_error he]
      exact .inl rfl
    | ok u => exact .inr ⟨f', exec_accepted he, rfl⟩

theorem sinceRollback_cons {entry : MigrationEntry} {log : List MigrationEntry}
    (h : entry.op.isRollback = false) :
    sinceRollback (entry :: log) = entry :: sinceRollback log := by
  simp [sinceRollback, h]

structure Verifies (f : MigrationFence) (entry : MigrationEntry) : Prop where
  op : ∃ digest, entry.op = .verifyShadow digest digest ∧ f.semanticDigest = some digest
  source : entry.before.sourceCursor = f.sourceCursor
  target : entry.before.targetCursor = f.targetCursor

def Installs (f : MigrationFence) (entry : MigrationEntry) : Prop :=
  ∃ epoch receipt, entry.op = .activateWriteFence epoch receipt ∧ f.fenceEpoch = some epoch ∧
    ∀ current ∈ entry.before.fenceEpoch, current.value < epoch.value

def Promotes (entry : MigrationEntry) : Prop := entry.op = .setCanary 10000

structure MigrationRun.Safe (r : MigrationRun) : Prop where
  cursors : r.fence.targetCursor ≤ r.fence.sourceCursor
  verified : r.fence.phase = .shadowVerified → r.fence.Verified ∧
    ∃ verify, Verifies r.fence verify ∧ [verify].Sublist (sinceRollback r.log)
  fenced : r.fence.phase.fenced → r.fence.Verified ∧
    ∃ install verify, Installs r.fence install ∧ Verifies r.fence verify ∧
      [install, verify].Sublist (sinceRollback r.log)
  promoted : r.fence.phase.promoted → ∃ canary install verify, Promotes canary ∧
    Installs r.fence install ∧ Verifies r.fence verify ∧
    [canary, install, verify].Sublist (sinceRollback r.log)
  epochs : (acceptedEpochs r.log).Pairwise fun later earlier => earlier.value < later.value
  current : r.fence.fenceEpoch = (acceptedEpochs r.log).head?

variable {r : MigrationRun}

theorem MigrationRun.Safe.of_unverified (hphase : r.fence.phase.unverified)
    (hcursors : r.fence.targetCursor ≤ r.fence.sourceCursor)
    (hepochs : (acceptedEpochs r.log).Pairwise fun later earlier => earlier.value < later.value)
    (hcurrent : r.fence.fenceEpoch = (acceptedEpochs r.log).head?) : r.Safe := by
  refine ⟨hcursors, ?_, ?_, ?_, hepochs, hcurrent⟩ <;> intro h <;>
    cases hp : r.fence.phase <;>
    simp [hp, MigrationPhase.unverified, MigrationPhase.fenced, MigrationPhase.promoted]
      at hphase h

theorem MigrationRun.Safe.init {identity : MigrationIdentity}
    (h : MigrationFence.new identity = .ok r.fence) (hlog : r.log = []) : r.Safe := by
  simp only [MigrationFence.new, bind_ok, require_ok] at h
  obtain ⟨_, _, h⟩ := h
  obtain ⟨fence, log⟩ := r
  cases h
  cases hlog
  exact .of_unverified trivial le_rfl .nil rfl

theorem MigrationRun.Safe.epoch (hs : r.Safe) {epoch : FenceEpoch}
    (h : ∀ current ∈ r.fence.fenceEpoch, current.value < epoch.value) :
    (epoch :: acceptedEpochs r.log).Pairwise fun later earlier => earlier.value < later.value := by
  have hcurrent := hs.current
  have hepochs := hs.epochs
  cases hl : acceptedEpochs r.log with
  | nil => simp
  | cons last rest =>
    rw [hl] at hcurrent hepochs
    have hlast : last.value < epoch.value := h last hcurrent
    refine List.pairwise_cons.mpr ⟨fun earlier hearlier => ?_, hepochs⟩
    rcases List.mem_cons.mp hearlier with rfl | hrest
    · exact hlast
    · exact (List.rel_of_pairwise_cons hepochs hrest).trans hlast

variable {op : MigrationOp} {f' : MigrationFence}

theorem MigrationRun.Safe.keep (hs : r.Safe) (hrollback : op.isRollback = false)
    (hepoch : op.epoch = none) (hsource : f'.sourceCursor = r.fence.sourceCursor)
    (htarget : f'.targetCursor = r.fence.targetCursor)
    (hdigest : f'.semanticDigest = r.fence.semanticDigest)
    (hverified : f'.verifiedCursor = r.fence.verifiedCursor)
    (hfence : f'.fenceEpoch = r.fence.fenceEpoch)
    (hshadow : f'.phase = .shadowVerified → r.fence.phase = .shadowVerified)
    (hfenced : f'.phase.fenced → r.fence.phase.fenced)
    (hpromoted : f'.phase.promoted → r.fence.phase.promoted ∨
      op = .setCanary 10000 ∧ r.fence.phase.fenced) :
    MigrationRun.Safe ⟨f', ⟨r.fence, op, f'⟩ :: r.log⟩ := by
  have hcert : r.fence.Verified → f'.Verified := fun ⟨hcursors, hcut, hsome⟩ =>
    ⟨by rw [hsource, htarget, hcursors], by rw [hverified, hsource, hcut], by rwa [hdigest]⟩
  have hverify : ∀ verify, Verifies r.fence verify → Verifies f' verify :=
    fun verify ⟨hop, hcut, hcut'⟩ =>
      ⟨by rwa [hdigest], by rw [hcut, hsource], by rw [hcut', htarget]⟩
  have hinstall : ∀ install, Installs r.fence install → Installs f' install :=
    fun install hi => by rwa [Installs, hfence]
  have hsince : sinceRollback (⟨r.fence, op, f'⟩ :: r.log) =
      ⟨r.fence, op, f'⟩ :: sinceRollback r.log := sinceRollback_cons hrollback
  have hepochs : acceptedEpochs (⟨r.fence, op, f'⟩ :: r.log) = acceptedEpochs r.log := by
    simp [acceptedEpochs, hepoch]
  refine ⟨by rw [hsource, htarget]; exact hs.cursors, fun h => ?_, fun h => ?_, fun h => ?_,
    by rw [hepochs]; exact hs.epochs, by rw [hepochs, hfence]; exact hs.current⟩
  · obtain ⟨hc, verify, hv, hsub⟩ := hs.verified (hshadow h)
    exact ⟨hcert hc, verify, hverify _ hv, hsince ▸ hsub.cons _⟩
  · obtain ⟨hc, install, verify, hi, hv, hsub⟩ := hs.fenced (hfenced h)
    exact ⟨hcert hc, install, verify, hinstall _ hi, hverify _ hv, hsince ▸ hsub.cons _⟩
  · rcases hpromoted h with hp | ⟨hop, hf⟩
    · obtain ⟨canary, install, verify, hc, hi, hv, hsub⟩ := hs.promoted hp
      exact ⟨canary, install, verify, hc, hinstall _ hi, hverify _ hv, hsince ▸ hsub.cons _⟩
    · obtain ⟨_, install, verify, hi, hv, hsub⟩ := hs.fenced hf
      exact ⟨⟨r.fence, op, f'⟩, install, verify, hop, hinstall _ hi, hverify _ hv, hsince ▸ hsub.cons_cons _⟩

theorem MigrationRun.Safe.accepted (hs : r.Safe) (h : Accepted r.fence op f') :
    MigrationRun.Safe ⟨f', ⟨r.fence, op, f'⟩ :: r.log⟩ := by
  cases h with
  | observe => exact hs.keep rfl rfl rfl rfl rfl rfl rfl id id .inl
  | advance cursor hp hlt =>
    exact .of_unverified hp (hs.cursors.trans hlt.le) hs.epochs hs.current
  | reopen cursor _ hlt =>
    exact .of_unverified trivial (hs.cursors.trans hlt.le) hs.epochs hs.current
  | sealSnapshot cursor digest _ hle =>
    exact .of_unverified trivial (hs.cursors.trans hle) hs.epochs hs.current
  | advanceTarget cursor _ _ hle => exact .of_unverified trivial hle hs.epochs hs.current
  | resumeAfterRollback sourceCursor =>
    exact .of_unverified trivial (Nat.zero_le _) hs.epochs hs.current
  | rollback epoch receipt _ _ hepoch =>
    exact .of_unverified trivial hs.cursors (hs.epoch hepoch) rfl
  | verifyShadow digest hp hcursor =>
    refine ⟨hs.cursors, fun _ => ⟨⟨hcursor, rfl, rfl⟩, ?_⟩, False.elim, False.elim, hs.epochs,
      hs.current⟩
    rw [sinceRollback_cons rfl]
    refine ⟨_, ?_, (List.nil_sublist _).cons_cons _⟩
    exact ⟨⟨digest, rfl, rfl⟩, rfl, rfl⟩
  | activateWriteFence epoch fenceReceipt hp hverified hepoch =>
    obtain ⟨_, verify, hv, hsub⟩ := hs.verified hp
    refine ⟨hs.cursors, nofun, fun _ => ⟨?_, ?_⟩, False.elim, hs.epoch hepoch, rfl⟩
    · exact ⟨hverified.cursors, hverified.verified, hverified.digest⟩
    · rw [sinceRollback_cons rfl]
      refine ⟨_, verify, ?_, ⟨hv.op, hv.source, hv.target⟩, hsub.cons_cons _⟩
      exact ⟨epoch, fenceReceipt, rfl, rfl, hepoch⟩
  | setCanary targetBasisPoints hp hone hmax hverified =>
    have hfenced : r.fence.phase.fenced := by
      rcases hp with hp | ⟨current, hp, _⟩ <;> simp [hp, MigrationPhase.fenced]
    refine hs.keep rfl rfl rfl rfl rfl rfl rfl nofun (fun _ => hfenced) fun hpromoted => ?_
    exact .inr ⟨by rw [show targetBasisPoints = 10000 from hpromoted], hfenced⟩
  | promoteTarget cutoverReceipt hp | markSourceReadOnly receipt hp
  | retireSource retirementReceipt hp =>
    refine hs.keep rfl rfl rfl rfl rfl rfl rfl nofun (fun _ => ?_) fun _ => .inl ?_ <;>
      simp [hp, MigrationPhase.fenced, MigrationPhase.promoted]

theorem safe_of_reachable (hr : Reachable migration r) : r.Safe := by
  refine hr.invariant (fun r ⟨identity, hnew, hlog⟩ => .init hnew hlog) ?_
  rintro r op _ hs rfl
  rcases perform_cases r op with heq | ⟨f', ha, heq⟩
  · rwa [heq]
  · rw [heq]
    exact hs.accepted ha

theorem migration_authority_safe {r : MigrationRun} (hr : Reachable migration r) :
    r.fence.targetCursor ≤ r.fence.sourceCursor ∧
    (r.fence.phase.fenced → r.fence.sourceCursor = r.fence.targetCursor ∧
      r.fence.verifiedCursor = some r.fence.sourceCursor ∧ r.fence.semanticDigest.isSome ∧
      r.fence.fenceEpoch.isSome) ∧
    (r.fence.authorityMode = .targetOnly ∨ r.fence.authorityMode = .retired →
      ∃ canary install verify, Promotes canary ∧ Installs r.fence install ∧
        Verifies r.fence verify ∧ [canary, install, verify].Sublist (sinceRollback r.log)) ∧
    (acceptedEpochs r.log).Pairwise (fun later earlier => earlier.value < later.value) ∧
    ∀ op e f', r.fence.exec op = (.error e, f') → f' = r.fence := by
  have hs := safe_of_reachable hr
  refine ⟨hs.cursors, fun hf => ?_, fun hmode => hs.promoted ?_, hs.epochs,
    fun op e f' => exec_error⟩
  · obtain ⟨⟨hcursors, hverified, hdigest⟩, install, _, ⟨epoch, _, _, hepoch, _⟩, _⟩ := hs.fenced hf
    exact ⟨hcursors, hverified, hdigest, by simp [hepoch]⟩
  · cases hp : r.fence.phase <;>
      simp [MigrationFence.authorityMode, hp, MigrationPhase.promoted] at hmode ⊢

theorem run_perform (r : MigrationRun) (ops : List MigrationOp) :
    Run migration r ops (ops.foldl MigrationRun.perform r) := by
  induction ops generalizing r with
  | nil => exact Run.nil r
  | cons op rest ih => exact Run.cons rfl (ih (r.perform op))

def sampleMigrationDigest (byte : UInt8) (h : byte ≠ 0) : MigrationDigest where
  bytes := Vector.replicate 32 byte
  nonzero := by simpa [zeroBytes] using h

def sampleMigrationIdentity : MigrationIdentity where
  sourceSchema := sampleMigrationDigest 1 (by decide)
  targetSchema := sampleMigrationDigest 2 (by decide)
  mapping := sampleMigrationDigest 3 (by decide)

def sampleFence : MigrationFence :=
  ⟨sampleMigrationIdentity, .sourcePrimary, 0, 0, none, none, none, none, none, none, none, none⟩

def sampleCutover : List MigrationOp :=
  let digest := sampleMigrationDigest 4 (by decide)
  [.advanceSource 10, .sealSnapshot 10 digest, .advanceTarget 10, .verifyShadow digest digest,
    .activateWriteFence ⟨1, by decide⟩ digest, .setCanary 10000, .promoteTarget digest]

theorem sample_cutover_reachable :
    Reachable migration (sampleCutover.foldl MigrationRun.perform ⟨sampleFence, []⟩) :=
  ⟨⟨sampleFence, []⟩, sampleCutover, ⟨sampleMigrationIdentity, by decide, rfl⟩, run_perform _ _⟩

theorem migration_authority_safe_sample :
    let r := sampleCutover.foldl MigrationRun.perform ⟨sampleFence, []⟩
    ∃ canary install verify, Promotes canary ∧ Installs r.fence install ∧
      Verifies r.fence verify ∧ [canary, install, verify].Sublist (sinceRollback r.log) :=
  (migration_authority_safe sample_cutover_reachable).2.2.1 (.inl (by decide))

end Persistence
