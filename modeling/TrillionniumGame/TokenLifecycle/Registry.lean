import TrillionniumGame.Foundation.Runs
import TrillionniumGame.Token.SignerJournal

namespace TokenLifecycle
open Checks FiniteMap Words
open Token (KeyDomain)

def maxEpochsPerDomain : Nat := 8
def maxVerificationEpochsAtOnce : Nat := 2
def maxLifecycleAuditEvents : Nat := 256

structure KeyReference where
  domain : KeyDomain
  handle : String
  epoch : Option Nat
  deriving DecidableEq

inductive LifecycleError where
  | epochRequired
  | invalidWindow
  | windowAlreadySigningExpired
  | revisionMismatch (expected actual : Nat)
  | revisionExhausted
  | clockRegression (previous requested : Nat)
  | epochNotMonotonic (previous requested : Nat)
  | epochAlreadyExists (domain : KeyDomain) (epoch : Nat)
  | scheduleCapacityExceeded (domain : KeyDomain) (limit : Nat)
  | signingWindowOverlap (domain : KeyDomain)
  | verificationWindowLimitExceeded (domain : KeyDomain) (limit : Nat)
  | auditCapacityExceeded (limit : Nat)
  | epochUnknown (domain : KeyDomain) (epoch : Nat)
  | epochNotYetActive (domain : KeyDomain) (epoch : Nat)
  | epochSigningExpired (domain : KeyDomain) (epoch : Nat)
  | epochVerificationExpired (domain : KeyDomain) (epoch : Nat)
  | epochRevoked (domain : KeyDomain) (epoch : Nat)
  | epochRetirementNotAllowed (domain : KeyDomain) (epoch : Nat)
  | noSigningEpoch (domain : KeyDomain)
  | internalInvariant
  deriving DecidableEq

structure EpochWindow where
  key : KeyReference
  notBeforeUnix : Nat
  signUntilUnix : Nat
  verifyUntilUnix : Nat
  epochRequired : key.epoch.all (· == 0) = false
  ordered : notBeforeUnix < signUntilUnix ∧ signUntilUnix < verifyUntilUnix

namespace EpochWindow

variable (window : EpochWindow)

theorem epoch_isSome : window.key.epoch.isSome = true := by
  cases hepoch : window.key.epoch with
  | none => exact absurd window.epochRequired (by simp [hepoch])
  | some epoch => rfl

def domain (window : EpochWindow) : KeyDomain := window.key.domain
def epoch (window : EpochWindow) : Nat := window.key.epoch.get window.epoch_isSome

def canSignAt (atUnix : Nat) : Bool :=
  window.notBeforeUnix ≤ atUnix && atUnix < window.signUntilUnix

def canVerifyAt (atUnix : Nat) : Bool :=
  window.notBeforeUnix ≤ atUnix && atUnix < window.verifyUntilUnix

theorem key_epoch : window.key.epoch = some window.epoch :=
  (Option.some_get window.epoch_isSome).symm

theorem canSignAt_iff {window : EpochWindow} {atUnix : Nat} : window.canSignAt atUnix = true ↔
    window.notBeforeUnix ≤ atUnix ∧ atUnix < window.signUntilUnix := by
  simp [canSignAt]

end EpochWindow

inductive LifecycleAction where
  | installed | revoked | retired
  deriving DecidableEq

structure LifecycleAuditEvent where
  revision : Nat
  action : LifecycleAction
  domain : KeyDomain
  epoch : Nat
  atUnix : Nat

structure LifecycleMutation where
  revision : Nat
  applied : Bool

structure DomainLifecycleStatus where
  revision : Nat
  domain : KeyDomain
  highestEpochEver : Option Nat
  signingEpoch : Option Nat
  verificationEpochs : List Nat
  configuredEpochCount : Nat
  revokedEpochCount : Nat

structure EpochRecord where
  window : EpochWindow
  revokedAtUnix : Option Nat

namespace EpochRecord

variable (record : EpochRecord)

def isRevoked : Bool := record.revokedAtUnix.isSome

def signsAt (atUnix : Nat) : Bool :=
  !record.isRevoked && record.window.canSignAt atUnix

def verifiesAt (atUnix : Nat) : Bool :=
  !record.isRevoked && record.window.canVerifyAt atUnix

end EpochRecord

structure DomainSchedule where
  highestEpochEver : Option Nat
  epochs : Dict Nat EpochRecord

def DomainSchedule.default : DomainSchedule := ⟨none, ∅⟩

def intervalsOverlap (leftStart leftEnd rightStart rightEnd : Nat) : Bool :=
  leftStart < rightEnd && rightStart < leftEnd

namespace DomainSchedule

variable (schedule : DomainSchedule)

def values : List EpochRecord := (items schedule.epochs).map Prod.snd

def verificationWindows (candidate : EpochWindow) : List (Nat × Nat) :=
  (schedule.values.filter fun record => !record.isRevoked).map
      (fun record => (record.window.notBeforeUnix, record.window.verifyUntilUnix)) ++
    [(candidate.notBeforeUnix, candidate.verifyUntilUnix)]

def verificationOverlapExceeds (candidate : EpochWindow) : Bool :=
  let windows := schedule.verificationWindows candidate
  windows.any fun (sample, _) =>
    maxVerificationEpochsAtOnce < windows.countP fun (start, stop) => start ≤ sample && sample < stop

def signingOverlaps (window : EpochWindow) : Bool :=
  schedule.values.any fun existing =>
    !existing.isRevoked && intervalsOverlap window.notBeforeUnix window.signUntilUnix
      existing.window.notBeforeUnix existing.window.signUntilUnix

def checkInstall (window : EpochWindow) : Except LifecycleError Unit := do
  require (window.epoch ∉ schedule.epochs) (.epochAlreadyExists window.domain window.epoch)
  schedule.highestEpochEver.elim (.ok ()) fun previous =>
    require (previous < window.epoch) (.epochNotMonotonic previous window.epoch)
  require (schedule.epochs.keys.card < maxEpochsPerDomain)
    (.scheduleCapacityExceeded window.domain maxEpochsPerDomain)
  require (schedule.signingOverlaps window = false) (.signingWindowOverlap window.domain)
  require (schedule.verificationOverlapExceeds window = false)
    (.verificationWindowLimitExceeded window.domain maxVerificationEpochsAtOnce)

end DomainSchedule

structure KeyEpochRegistry where
  revision : Nat
  lastMutationUnix : Nat
  schedules : Dict KeyDomain DomainSchedule
  audit : List LifecycleAuditEvent

namespace KeyEpochRegistry

def default : KeyEpochRegistry := ⟨0, 0, ∅, []⟩

variable (r : KeyEpochRegistry)

section

variable (domain : KeyDomain)

def record (epoch : Nat) : Option EpochRecord :=
  (r.schedules.lookup domain).bind fun schedule => schedule.epochs.lookup epoch

variable (expectedRevision : Nat)

def validateRevision : Except LifecycleError Unit :=
  require (expectedRevision = r.revision) (.revisionMismatch expectedRevision r.revision)

variable (atUnix : Nat)

def validateClock : Except LifecycleError Unit :=
  require (r.lastMutationUnix ≤ atUnix) (.clockRegression r.lastMutationUnix atUnix)

def ensureAuditCapacity : Except LifecycleError Unit :=
  require (r.audit.length < maxLifecycleAuditEvents) (.auditCapacityExceeded maxLifecycleAuditEvents)

def nextRevision : Except LifecycleError Nat :=
  fetch (fits 64 (r.revision + 1)) .revisionExhausted

def preflightMutation : Except LifecycleError Nat := do
  r.validateRevision expectedRevision
  r.validateClock atUnix
  r.ensureAuditCapacity
  r.nextRevision

def commitMutation (revision atUnix : Nat) (action : LifecycleAction) (domain : KeyDomain)
    (epoch : Nat) : KeyEpochRegistry :=
  { r with
    revision := revision
    lastMutationUnix := atUnix
    audit := r.audit ++ [⟨revision, action, domain, epoch, atUnix⟩] }

def setSchedule (schedule : DomainSchedule) : KeyEpochRegistry :=
  { r with schedules := r.schedules.insert domain schedule }

def install (window : EpochWindow) (installedAtUnix : Nat) :
    Except LifecycleError (LifecycleMutation × KeyEpochRegistry) := do
  let nextRevision ← r.preflightMutation expectedRevision installedAtUnix
  require (installedAtUnix < window.signUntilUnix) .windowAlreadySigningExpired
  (r.schedules.lookup window.domain).elim (.ok ()) fun schedule => schedule.checkInstall window
  let schedule := (r.schedules.lookup window.domain).getD .default
  let installed : DomainSchedule :=
    ⟨some window.epoch, schedule.epochs.insert window.epoch ⟨window, none⟩⟩
  return (⟨nextRevision, true⟩, (r.setSchedule window.domain installed).commitMutation nextRevision
    installedAtUnix .installed window.domain window.epoch)

def revoke (domain : KeyDomain) (epoch : Nat) (revokedAtUnix : Nat) :
    Except LifecycleError (LifecycleMutation × KeyEpochRegistry) := do
  r.validateRevision expectedRevision
  r.validateClock revokedAtUnix
  let record ← fetch (r.record domain epoch) (.epochUnknown domain epoch)
  if record.isRevoked then return (⟨r.revision, false⟩, r) else do
    r.ensureAuditCapacity
    let nextRevision ← r.nextRevision
    let schedule ← fetch (r.schedules.lookup domain) .internalInvariant
    let record ← fetch (schedule.epochs.lookup epoch) .internalInvariant
    let revoked : DomainSchedule :=
      { schedule with
        epochs := schedule.epochs.insert epoch { record with revokedAtUnix := some revokedAtUnix } }
    return (⟨nextRevision, true⟩, (r.setSchedule domain revoked).commitMutation nextRevision
      revokedAtUnix .revoked domain epoch)

def retire (domain : KeyDomain) (epoch : Nat) (retiredAtUnix : Nat) :
    Except LifecycleError (LifecycleMutation × KeyEpochRegistry) := do
  let nextRevision ← r.preflightMutation expectedRevision retiredAtUnix
  let record ← fetch (r.record domain epoch) (.epochUnknown domain epoch)
  require (record.isRevoked ∨ record.window.verifyUntilUnix ≤ retiredAtUnix)
    (.epochRetirementNotAllowed domain epoch)
  let schedule ← fetch (r.schedules.lookup domain) .internalInvariant
  require (epoch ∈ schedule.epochs) .internalInvariant
  let remaining : DomainSchedule := { schedule with epochs := schedule.epochs.erase epoch }
  return (⟨nextRevision, true⟩, (r.setSchedule domain remaining).commitMutation nextRevision
    retiredAtUnix .retired domain epoch)

def entries (domain : KeyDomain) : List (Nat × EpochRecord) :=
  (r.schedules.lookup domain).elim [] fun schedule => items schedule.epochs

def signingKey : Except LifecycleError KeyReference :=
  match ((r.entries domain).map Prod.snd).filter (·.signsAt atUnix) with
  | [] => .error (.noSigningEpoch domain)
  | [selected] => .ok selected.window.key
  | _ => .error .internalInvariant

def verificationKey (epoch atUnix : Nat) : Except LifecycleError KeyReference := do
  let record ← fetch (r.record domain epoch) (.epochUnknown domain epoch)
  require (record.isRevoked = false) (.epochRevoked domain epoch)
  require (record.window.notBeforeUnix ≤ atUnix) (.epochNotYetActive domain epoch)
  require (atUnix < record.window.verifyUntilUnix) (.epochVerificationExpired domain epoch)
  return record.window.key

def assertSigningAllowed (epoch atUnix : Nat) : Except LifecycleError Unit := do
  let record ← fetch (r.record domain epoch) (.epochUnknown domain epoch)
  require (record.isRevoked = false) (.epochRevoked domain epoch)
  require (record.window.notBeforeUnix ≤ atUnix) (.epochNotYetActive domain epoch)
  require (atUnix < record.window.signUntilUnix) (.epochSigningExpired domain epoch)

def status : DomainLifecycleStatus :=
  let schedule := r.schedules.lookup domain
  { revision := r.revision
    domain := domain
    highestEpochEver := schedule.bind (·.highestEpochEver)
    signingEpoch := ((r.entries domain).find? (·.2.signsAt atUnix)).map Prod.fst
    verificationEpochs := (((r.entries domain).filter (·.2.verifiesAt atUnix)).map
      Prod.fst).insertionSort (· ≥ ·)
    configuredEpochCount := schedule.elim 0 (·.epochs.keys.card)
    revokedEpochCount := schedule.elim 0 fun schedule => schedule.values.countP (·.isRevoked) }

end

end KeyEpochRegistry

open Runs

inductive LifecycleCall where
  | install (expectedRevision : Nat) (window : EpochWindow) (installedAtUnix : Nat)
  | revoke (expectedRevision : Nat) (domain : KeyDomain) (epoch revokedAtUnix : Nat)
  | retire (expectedRevision : Nat) (domain : KeyDomain) (epoch retiredAtUnix : Nat)

namespace KeyEpochRegistry

variable {r : KeyEpochRegistry} {domain : KeyDomain} {epoch : Nat} {record : EpochRecord}

def perform (r : KeyEpochRegistry) :
    LifecycleCall → Except LifecycleError (LifecycleMutation × KeyEpochRegistry)
  | .install expectedRevision window installedAtUnix =>
    r.install expectedRevision window installedAtUnix
  | .revoke expectedRevision domain epoch revokedAtUnix =>
    r.revoke expectedRevision domain epoch revokedAtUnix
  | .retire expectedRevision domain epoch retiredAtUnix =>
    r.retire expectedRevision domain epoch retiredAtUnix

def after (r : KeyEpochRegistry) (call : LifecycleCall) : KeyEpochRegistry :=
  match r.perform call with
  | .ok (_, next) => next
  | .error _ => r

def highest (r : KeyEpochRegistry) (domain : KeyDomain) : Option Nat :=
  (r.schedules.lookup domain).bind (·.highestEpochEver)

theorem record_eq {schedule : DomainSchedule} (h : r.schedules.lookup domain = some schedule) :
    r.record domain epoch = schedule.epochs.lookup epoch := by
  rw [record, h, Option.bind_some]

theorem record_default (epoch : Nat) : r.record domain epoch =
    ((r.schedules.lookup domain).getD .default).epochs.lookup epoch := by
  rw [record]
  cases r.schedules.lookup domain with
  | none => rfl
  | some schedule => rfl

theorem mem_entries : (epoch, record) ∈ r.entries domain ↔ r.record domain epoch = some record := by
  rw [entries, KeyEpochRegistry.record]
  cases r.schedules.lookup domain with
  | none => simp
  | some schedule => exact mem_items

end KeyEpochRegistry

def keyLifecycles : System KeyEpochRegistry LifecycleCall where
  init r := r = .default
  step r call r' := r' = r.after call

structure Commits (r r' : KeyEpochRegistry) (action : LifecycleAction) (domain : KeyDomain)
    (epoch atUnix : Nat) (kept : Option EpochRecord) : Prop where
  room : r.audit.length < maxLifecycleAuditEvents
  revision : r'.revision = r.revision + 1
  clock : r.lastMutationUnix ≤ atUnix
  stamped : r'.lastMutationUnix = atUnix
  audit : r'.audit = r.audit ++ [⟨r.revision + 1, action, domain, epoch, atUnix⟩]
  record : ∀ domain' epoch', r'.record domain' epoch' =
    if domain' = domain ∧ epoch' = epoch then kept else r.record domain' epoch'

inductive Moved (r r' : KeyEpochRegistry) : Prop
  | installed (window : EpochWindow) (atUnix : Nat)
      (hcommits : Commits r r' .installed window.domain window.epoch atUnix (some ⟨window, none⟩))
      (hnew : r.record window.domain window.epoch = none)
      (hgrows : ∀ previous ∈ r.highest window.domain, previous < window.epoch)
      (hdisjoint : ∀ epoch record, r.record window.domain epoch = some record →
        record.isRevoked = false → intervalsOverlap window.notBeforeUnix window.signUntilUnix
          record.window.notBeforeUnix record.window.signUntilUnix = false)
      (hhighest : ∀ domain, r'.highest domain =
        if domain = window.domain then some window.epoch else r.highest domain)
  | revoked (domain : KeyDomain) (epoch atUnix : Nat) (record : EpochRecord)
      (hrecord : r.record domain epoch = some record) (hlive : record.isRevoked = false)
      (hcommits : Commits r r' .revoked domain epoch atUnix
        (some { record with revokedAtUnix := some atUnix }))
      (hhighest : ∀ domain, r'.highest domain = r.highest domain)
  | retired (domain : KeyDomain) (epoch atUnix : Nat) (record : EpochRecord)
      (hrecord : r.record domain epoch = some record)
      (hover : record.isRevoked ∨ record.window.verifyUntilUnix ≤ atUnix)
      (hcommits : Commits r r' .retired domain epoch atUnix none)
      (hhighest : ∀ domain, r'.highest domain = r.highest domain)

namespace KeyEpochRegistry

variable {r : KeyEpochRegistry} {domain : KeyDomain} {epoch atUnix expectedRevision : Nat}

theorem nextRevision_ok {next : Nat} (h : r.nextRevision = .ok next) : next = r.revision + 1 := by
  rw [nextRevision, fetch_ok, fits_some] at h
  exact h.2

theorem preflightMutation_ok {next : Nat}
    (h : r.preflightMutation expectedRevision atUnix = .ok next) :
    next = r.revision + 1 ∧ r.lastMutationUnix ≤ atUnix ∧
      r.audit.length < maxLifecycleAuditEvents := by
  simp only [preflightMutation, validateRevision, validateClock, ensureAuditCapacity, bind_ok,
    require_ok, exists_const] at h
  obtain ⟨-, hclock, hroom, hnext⟩ := h
  exact ⟨nextRevision_ok hnext, hclock, hroom⟩

theorem highest_setSchedule (schedule : DomainSchedule) (domain' : KeyDomain) :
    (r.setSchedule domain schedule).highest domain' =
      if domain' = domain then schedule.highestEpochEver else r.highest domain' := by
  rw [highest, setSchedule, lookup_insert_ite]
  split
  · rfl
  · rfl

theorem commits_setSchedule {action : LifecycleAction} {schedule : DomainSchedule}
    {kept : Option EpochRecord} (hroom : r.audit.length < maxLifecycleAuditEvents)
    (hclock : r.lastMutationUnix ≤ atUnix)
    (hepochs : ∀ epoch', schedule.epochs.lookup epoch' =
      if epoch' = epoch then kept else r.record domain epoch') :
    Commits r ((r.setSchedule domain schedule).commitMutation (r.revision + 1) atUnix action domain
      epoch) action domain epoch atUnix kept := by
  refine ⟨hroom, rfl, hclock, rfl, rfl, fun domain' epoch' => ?_⟩
  change ((r.schedules.insert domain schedule).lookup domain').bind _ = _
  rw [lookup_insert_ite]
  by_cases hdomain : domain' = domain
  · rw [if_pos hdomain, hdomain]
    simpa using hepochs epoch'
  · rw [if_neg hdomain, if_neg (fun h => hdomain h.1)]
    rfl

end KeyEpochRegistry

namespace DomainSchedule

variable {schedule : DomainSchedule} {window : EpochWindow}

theorem mem_values {record : EpochRecord} :
    record ∈ schedule.values ↔ ∃ epoch, schedule.epochs.lookup epoch = some record := by
  simp [values, mem_items]

theorem checkInstall_ok (h : schedule.checkInstall window = .ok ()) :
    schedule.epochs.lookup window.epoch = none ∧
      (∀ previous ∈ schedule.highestEpochEver, previous < window.epoch) ∧
      ∀ epoch record, schedule.epochs.lookup epoch = some record → record.isRevoked = false →
        intervalsOverlap window.notBeforeUnix window.signUntilUnix
          record.window.notBeforeUnix record.window.signUntilUnix = false := by
  simp only [checkInstall, bind_ok, require_ok, exists_const] at h
  obtain ⟨hfresh, ⟨⟩, hgrows, -, hdisjoint, -⟩ := h
  refine ⟨Finmap.lookup_eq_none.mpr hfresh, fun previous hprevious => ?_,
    fun epoch record hrecord hlive => ?_⟩
  · rw [Option.mem_def] at hprevious
    rw [hprevious] at hgrows
    exact require_ok.mp hgrows
  · simp only [signingOverlaps, List.any_eq_false, mem_values] at hdisjoint
    have hnot := hdisjoint record ⟨epoch, hrecord⟩
    simpa [hlive] using hnot

end DomainSchedule

namespace KeyEpochRegistry

variable {r r' : KeyEpochRegistry} {domain : KeyDomain} {epoch atUnix expectedRevision : Nat}
  {window : EpochWindow} {record : EpochRecord} {mutation : LifecycleMutation}

theorem install_commits (h : r.install expectedRevision window atUnix = .ok (mutation, r')) :
    Commits r r' .installed window.domain window.epoch atUnix (some ⟨window, none⟩) ∧
      (r.schedules.lookup window.domain).elim (.ok ()) (·.checkInstall window) = .ok () ∧
      ∀ domain, r'.highest domain =
        if domain = window.domain then some window.epoch else r.highest domain := by
  simp only [install, bind_ok, require_ok, exists_const] at h
  obtain ⟨next, hpreflight, -, ⟨⟩, hcheck, hresult⟩ := h
  obtain ⟨rfl, hclock, hroom⟩ := preflightMutation_ok hpreflight
  cases (ok_inj hresult).2
  refine ⟨commits_setSchedule hroom hclock fun epoch' => ?_, hcheck,
    fun domain => highest_setSchedule _ domain⟩
  rw [lookup_insert_ite, record_default]

theorem install_ok (h : r.install expectedRevision window atUnix = .ok (mutation, r')) :
    Moved r r' := by
  obtain ⟨hcommits, hcheck, hhighest⟩ := install_commits h
  have hchecked : r.record window.domain window.epoch = none ∧
      (∀ previous ∈ r.highest window.domain, previous < window.epoch) ∧
      ∀ epoch record, r.record window.domain epoch = some record → record.isRevoked = false →
        intervalsOverlap window.notBeforeUnix window.signUntilUnix
          record.window.notBeforeUnix record.window.signUntilUnix = false := by
    simp only [KeyEpochRegistry.record, highest]
    cases hschedule : r.schedules.lookup window.domain with
    | none => simp
    | some schedule =>
      rw [hschedule] at hcheck
      exact schedule.checkInstall_ok hcheck
  obtain ⟨hnew, hgrows, hdisjoint⟩ := hchecked
  exact .installed window atUnix hcommits hnew hgrows hdisjoint hhighest

theorem revoke_ok (h : r.revoke expectedRevision domain epoch atUnix = .ok (mutation, r')) :
    (∃ record, r.record domain epoch = some record ∧ record.isRevoked = true ∧ r' = r) ∨
      ∃ record, r.record domain epoch = some record ∧ record.isRevoked = false ∧
        Commits r r' .revoked domain epoch atUnix
          (some { record with revokedAtUnix := some atUnix }) ∧
        ∀ domain, r'.highest domain = r.highest domain := by
  simp only [revoke, validateRevision, validateClock, ensureAuditCapacity, bind_ok, require_ok,
    fetch_ok, exists_const] at h
  obtain ⟨-, hclock, record, hrecord, hrest⟩ := h
  split at hrest
  · next hrevoked => exact .inl ⟨record, hrecord, hrevoked, (ok_inj hrest).2.symm⟩
  · next hlive =>
    simp only [bind_ok, require_ok, fetch_ok, exists_const] at hrest
    obtain ⟨hroom, next, hnext, schedule, hschedule, record', hrecord', hresult⟩ := hrest
    cases nextRevision_ok hnext
    cases (ok_inj hresult).2
    obtain rfl : record = record' := Option.mem_unique hrecord ((record_eq hschedule).trans hrecord')
    refine .inr ⟨record, hrecord, by simpa using hlive,
      commits_setSchedule hroom hclock fun epoch' => ?_, fun domain' => ?_⟩
    · rw [lookup_insert_ite, record_eq hschedule]
    · refine (highest_setSchedule _ domain').trans ?_
      split
      · next heq => rw [heq, highest, hschedule, Option.bind_some]
      · rfl

theorem retire_ok (h : r.retire expectedRevision domain epoch atUnix = .ok (mutation, r')) :
    ∃ record, r.record domain epoch = some record ∧
      (record.isRevoked ∨ record.window.verifyUntilUnix ≤ atUnix) ∧
      Commits r r' .retired domain epoch atUnix none ∧
      ∀ domain, r'.highest domain = r.highest domain := by
  simp only [retire, bind_ok, require_ok, fetch_ok, exists_const] at h
  obtain ⟨next, hpreflight, record, hrecord, hover, schedule, hschedule, -, hresult⟩ := h
  obtain ⟨rfl, hclock, hroom⟩ := preflightMutation_ok hpreflight
  cases (ok_inj hresult).2
  refine ⟨record, hrecord, hover, commits_setSchedule hroom hclock fun epoch' => ?_,
    fun domain' => ?_⟩
  · rw [lookup_erase_ite, record_eq hschedule]
  · refine (highest_setSchedule _ domain').trans ?_
    split
    · next heq => rw [heq, highest, hschedule, Option.bind_some]
    · rfl

theorem perform_ok {call : LifecycleCall} (h : r.perform call = .ok (mutation, r')) :
    r' = r ∨ Moved r r' := by
  cases call with
  | install expectedRevision window installedAtUnix => exact .inr (install_ok h)
  | revoke expectedRevision domain epoch revokedAtUnix =>
    rcases revoke_ok h with ⟨-, -, -, hsame⟩ | ⟨record, hrecord, hlive, hcommits, hhighest⟩
    · exact .inl hsame
    · exact .inr (.revoked domain epoch revokedAtUnix record hrecord hlive hcommits hhighest)
  | retire expectedRevision domain epoch retiredAtUnix =>
    obtain ⟨record, hrecord, hover, hcommits, hhighest⟩ := retire_ok h
    exact .inr (.retired domain epoch retiredAtUnix record hrecord hover hcommits hhighest)

theorem moved_of_step {call : LifecycleCall} (h : keyLifecycles.step r call r') :
    r' = r ∨ Moved r r' := by
  have h' : r' = r.after call := h
  rw [after] at h'
  split at h'
  · next mutation next hperform => exact h' ▸ perform_ok hperform
  · exact .inl h'

end KeyEpochRegistry

end TokenLifecycle
