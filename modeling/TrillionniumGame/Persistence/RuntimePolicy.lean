import TrillionniumGame.Foundation.Checks
import TrillionniumGame.Foundation.Runs
import TrillionniumGame.Foundation.Words
import TrillionniumGame.Persistence.Contracts

namespace Persistence.RuntimePolicy
open Checks Runs Words

def u64Max : Nat := 2 ^ 64 - 1

def saturatingAdd (a b : Nat) : Nat := min (a + b) u64Max
def saturatingMul (a b : Nat) : Nat := min (a * b) u64Max

inductive PolicyError where
  | invalidRetryBudget | invalidCompletedAttempts | overflow
  deriving DecidableEq

structure RetryBudget where
  maximumAttempts : Nat
  baseBackoffMs : Nat
  maximumBackoffMs : Nat
  totalDeadlineMs : Nat
  word : totalDeadlineMs ≤ u64Max

namespace RetryBudget

def validate (b : RetryBudget) : Except PolicyError Unit :=
  require (¬ (b.maximumAttempts = 0 ∨ 16 < b.maximumAttempts ∨ b.baseBackoffMs = 0 ∨
    b.maximumBackoffMs < b.baseBackoffMs ∨ b.totalDeadlineMs = 0 ∨
    b.totalDeadlineMs ≤ b.maximumBackoffMs)) .invalidRetryBudget

def backoffMs (b : RetryBudget) (completedAttempts : Nat) : Nat :=
  let exponent := min (completedAttempts - 1) 20
  min (saturatingMul b.baseBackoffMs (1 <<< exponent)) b.maximumBackoffMs

end RetryBudget

inductive OperationClass where
  | readOnly | idempotentCommand | outboxReceiptApply | nonIdempotentExternalEffect

def OperationClass.automaticRetryAllowed : OperationClass → Bool
  | .readOnly | .idempotentCommand | .outboxReceiptApply => true
  | .nonIdempotentExternalEffect => false

structure RetryContext where
  completedAttempts : Nat
  elapsedMs : Nat
  cancelled : Bool
  operation : OperationClass

inductive RetryStopReason where
  | cancelled | operationNotIdempotent | errorNotRetryable | resyncRequired | attemptLimit
  | deadline
  deriving DecidableEq

inductive RetryDecision where
  | retry (nextAttempt delayMs : Nat)
  | stop (reason : RetryStopReason)
  deriving DecidableEq

def RetryBudget.delayMs (b : RetryBudget) (completedAttempts : Nat) :
    RetryClass → Except RetryStopReason Nat
  | .never => .error .errorNotRetryable
  | .resyncRequired => .error .resyncRequired
  | .safeImmediate => .ok 0
  | .safeBackoff => .ok (b.backoffMs completedAttempts)

def decideRetry (budget : RetryBudget) (error : DomainError) (context : RetryContext) :
    Except PolicyError RetryDecision := do
  budget.validate
  require (context.completedAttempts ≠ 0) .invalidCompletedAttempts
  if context.cancelled then return .stop .cancelled
  else if context.operation.automaticRetryAllowed = false then
    return .stop .operationNotIdempotent
  else match budget.delayMs context.completedAttempts error.retry with
    | .error reason => return .stop reason
    | .ok delayMs =>
      if budget.maximumAttempts ≤ context.completedAttempts then return .stop .attemptLimit
      else if budget.totalDeadlineMs ≤ saturatingAdd context.elapsedMs delayMs then
        return .stop .deadline
      else
        let nextAttempt ← fetch (fits 8 (context.completedAttempts + 1)) .overflow
        return .retry nextAttempt delayMs

variable {budget : RetryBudget} {error : DomainError} {context : RetryContext}
  {nextAttempt delayMs : Nat}

theorem validate_ok (h : budget.validate = .ok ()) : budget.maximumAttempts ≤ 16 ∧
    0 < budget.maximumAttempts ∧ budget.baseBackoffMs ≤ budget.maximumBackoffMs ∧
    budget.maximumBackoffMs < budget.totalDeadlineMs := by
  rw [RetryBudget.validate, require_ok] at h
  omega

structure Retries (budget : RetryBudget) (error : DomainError) (context : RetryContext)
    (nextAttempt delayMs : Nat) : Prop where
  valid : budget.validate = .ok ()
  allowed : context.operation.automaticRetryAllowed = true
  delay : budget.delayMs context.completedAttempts error.retry = .ok delayMs
  next : nextAttempt = context.completedAttempts + 1
  attempts : nextAttempt ≤ budget.maximumAttempts
  deadline : context.elapsedMs + delayMs < budget.totalDeadlineMs

theorem decideRetry_retries
    (h : decideRetry budget error context = .ok (.retry nextAttempt delayMs)) :
    Retries budget error context nextAttempt delayMs := by
  simp only [decideRetry, bind_ok, require_ok, exists_const] at h
  obtain ⟨⟨⟩, hvalid, -, h⟩ := h
  split at h
  · cases h
  split at h
  · cases h
  next hallowed =>
  split at h
  · cases h
  next delay hdelay =>
  split at h
  · cases h
  next hattempts =>
  split at h
  · cases h
  next hdeadline =>
  simp only [bind_ok, fetch_ok, fits_some] at h
  obtain ⟨next, ⟨-, rfl⟩, hretry⟩ := h
  cases hretry
  have hword := budget.word
  rw [saturatingAdd] at hdeadline
  exact ⟨hvalid, by simpa using hallowed, hdelay, rfl, by omega, by omega⟩

theorem decideRetry_no_overflow : decideRetry budget error context ≠ .error .overflow := by
  suffices hsafe : Ensures (fun _ => True) (· ≠ .overflow) (decideRetry budget error context) from
    fun h => hsafe.of_error h rfl
  rw [decideRetry, RetryBudget.validate]
  simp only [ensures_bind, ensures_require]
  refine ⟨fun hvalid => ⟨fun _ => ?_, fun _ => by decide⟩, fun _ => by decide⟩
  split
  · trivial
  split
  · trivial
  split
  · trivial
  split
  · trivial
  next hattempts =>
  split
  · trivial
  have hnext : fits 8 (context.completedAttempts + 1) = some (context.completedAttempts + 1) :=
    fits_some.mpr ⟨by omega, rfl⟩
  rw [hnext]
  trivial

theorem backoffMs_bounds (h : budget.validate = .ok ()) (completed : Nat) :
    budget.baseBackoffMs ≤ budget.backoffMs completed ∧
      budget.backoffMs completed ≤ budget.maximumBackoffMs := by
  have hpow : 1 ≤ 1 <<< min (completed - 1) 20 := by
    rw [Nat.one_shiftLeft]
    exact Nat.one_le_two_pow
  have hmul := Nat.mul_le_mul_left budget.baseBackoffMs hpow
  have hdeadline := budget.word
  have hvalid := validate_ok h
  rw [RetryBudget.backoffMs, saturatingMul]
  omega

theorem backoffMs_mono {m n : Nat} (h : m ≤ n) : budget.backoffMs m ≤ budget.backoffMs n := by
  have hpow : 1 <<< min (m - 1) 20 ≤ 1 <<< min (n - 1) 20 := by
    rw [Nat.one_shiftLeft, Nat.one_shiftLeft]
    exact Nat.pow_le_pow_right (by decide) (by omega)
  have hmul := Nat.mul_le_mul_left budget.baseBackoffMs hpow
  rw [RetryBudget.backoffMs, RetryBudget.backoffMs, saturatingMul, saturatingMul]
  omega

structure RetryRequest where
  error : DomainError
  elapsedMs : Nat
  cancelled : Bool

structure Retrying where
  completedAttempts : Nat
  waits : List (RetryClass × Nat)

def Retrying.waitedMs (s : Retrying) : Nat := (s.waits.map Prod.snd).sum

def retries (budget : RetryBudget) (operation : OperationClass) :
    System Retrying RetryRequest where
  init s := s = ⟨1, []⟩
  step s request s' := s.waitedMs ≤ request.elapsedMs ∧ ∃ nextAttempt delayMs,
    decideRetry budget request.error
        ⟨s.completedAttempts, request.elapsedMs, request.cancelled, operation⟩ =
      .ok (.retry nextAttempt delayMs) ∧
    s' = ⟨nextAttempt, s.waits ++ [(request.error.retry, delayMs)]⟩

structure Bounded (budget : RetryBudget) (operation : OperationClass) (s : Retrying) : Prop where
  attempts : s.completedAttempts ≤ budget.maximumAttempts
  waited : s.waitedMs < budget.totalDeadlineMs
  delays : ∀ wait ∈ s.waits, wait.1 = .safeImmediate ∧ wait.2 = 0 ∨
    wait.1 = .safeBackoff ∧ budget.baseBackoffMs ≤ wait.2 ∧ wait.2 ≤ budget.maximumBackoffMs
  grows : (s.waits.filter (·.1 = .safeBackoff)).Pairwise fun a b => a.2 ≤ b.2
  idempotent : operation.automaticRetryAllowed = false → s.waits = []

structure Waiting (budget : RetryBudget) (operation : OperationClass) (s : Retrying) : Prop
    extends Bounded budget operation s where
  earlier : ∀ wait ∈ s.waits, wait.1 = .safeBackoff →
    wait.2 ≤ budget.backoffMs s.completedAttempts

variable {operation : OperationClass} {s s' : Retrying} {request : RetryRequest}

theorem delayMs_ok {completed : Nat} {kind : RetryClass}
    (h : budget.delayMs completed kind = .ok delayMs) : kind = .safeImmediate ∧ delayMs = 0 ∨
      kind = .safeBackoff ∧ delayMs = budget.backoffMs completed := by
  cases kind with
  | never | resyncRequired => cases h
  | safeImmediate => exact .inl ⟨rfl, (Except.ok.inj h).symm⟩
  | safeBackoff => exact .inr ⟨rfl, (Except.ok.inj h).symm⟩

theorem retries_step (h : Waiting budget operation s)
    (hstep : (retries budget operation).step s request s') : Waiting budget operation s' := by
  obtain ⟨hwaited, next, delay, hdecide, rfl⟩ := hstep
  have hretries := decideRetry_retries hdecide
  have hbounds := backoffMs_bounds hretries.valid s.completedAttempts
  have hnext : next = s.completedAttempts + 1 := hretries.next
  have hraised : budget.backoffMs s.completedAttempts ≤ budget.backoffMs next :=
    backoffMs_mono (by omega)
  have hdeadline := hretries.deadline
  dsimp only at hdeadline
  refine ⟨⟨hretries.attempts, ?_, ?_, ?_, fun hnever => ?_⟩, ?_⟩
  · rw [Retrying.waitedMs, List.map_append, List.sum_append] at *
    simp only [List.map_cons, List.map_nil, List.sum_cons, List.sum_nil] at *
    omega
  · intro wait hwait
    rcases List.mem_append.mp hwait with hold | hnew
    · exact h.delays wait hold
    · cases List.mem_singleton.mp hnew
      rcases delayMs_ok hretries.delay with himmediate | ⟨hbackoff, rfl⟩
      · exact .inl himmediate
      · exact .inr ⟨hbackoff, hbounds⟩
  · rw [List.filter_append, List.pairwise_append]
    refine ⟨h.grows, List.Pairwise.filter _ (List.pairwise_singleton _ _), fun a ha b hb => ?_⟩
    obtain ⟨hold, hkind⟩ := List.mem_filter.mp ha
    obtain ⟨hnew, hkind'⟩ := List.mem_filter.mp hb
    cases List.mem_singleton.mp hnew
    rcases delayMs_ok hretries.delay with ⟨himmediate, -⟩ | ⟨-, rfl⟩
    · simp [himmediate] at hkind'
    · exact h.earlier a hold (by simpa using hkind)
  · have hallowed := hretries.allowed
    dsimp only at hallowed
    rw [hnever] at hallowed
    cases hallowed
  · intro wait hwait hkind
    rcases List.mem_append.mp hwait with hold | hnew
    · exact (h.earlier wait hold hkind).trans hraised
    · cases List.mem_singleton.mp hnew
      rcases delayMs_ok hretries.delay with ⟨himmediate, -⟩ | ⟨-, rfl⟩
      · rw [himmediate] at hkind
        cases hkind
      · exact hraised

theorem retry_policy_bounded (budget : RetryBudget) (hvalid : budget.validate = .ok ())
    (operation : OperationClass) :
    (∀ s, Reachable (retries budget operation) s → Bounded budget operation s) ∧
      ∀ error context, decideRetry budget error context ≠ .error .overflow := by
  obtain ⟨-, hattempts, hbackoff, hdeadline⟩ := validate_ok hvalid
  refine ⟨fun s hreachable => ?_, fun error context => decideRetry_no_overflow⟩
  have hwaiting : Waiting budget operation s := by
    refine hreachable.invariant (fun s hinit => ?_) fun _ _ _ => retries_step
    cases hinit
    exact ⟨⟨hattempts, Nat.zero_lt_of_lt hdeadline, nofun, .nil, fun _ => rfl⟩, nofun⟩
  exact hwaiting.toBounded

def sampleBudget : RetryBudget := ⟨4, 10, 100, 1000, by decide⟩

def sampleError (retry : RetryClass) : DomainError := ⟨.unavailable, "database_unavailable", retry⟩

def sampleRetrying : Retrying := ⟨4, [(.safeImmediate, 0), (.safeBackoff, 20), (.safeBackoff, 40)]⟩

theorem sample_retrying : Reachable (retries sampleBudget .readOnly) sampleRetrying := by
  have hwait : ∀ {s} retry elapsed next delay, Reachable (retries sampleBudget .readOnly) s →
      s.waitedMs ≤ elapsed → decideRetry sampleBudget (sampleError retry)
        ⟨s.completedAttempts, elapsed, false, .readOnly⟩ = .ok (.retry next delay) →
      Reachable (retries sampleBudget .readOnly) ⟨next, s.waits ++ [(retry, delay)]⟩ :=
    fun retry elapsed next delay h hwaited hdecide => h.run (Run.single
      (a := ⟨sampleError retry, elapsed, false⟩) ⟨hwaited, next, delay, hdecide, rfl⟩)
  have hfirst := hwait (s := ⟨1, []⟩) .safeImmediate 5 2 0 (.start rfl) (by decide) (by decide)
  have hsecond := hwait .safeBackoff 10 3 20 hfirst (by decide) (by decide)
  exact hwait .safeBackoff 35 4 40 hsecond (by decide) (by decide)

theorem retry_policy_bounded_sample : Bounded sampleBudget .readOnly sampleRetrying :=
  (retry_policy_bounded sampleBudget (by decide) .readOnly).1 _ sample_retrying

theorem immediate_retry_below_base : ¬ ∀ s, Reachable (retries sampleBudget .readOnly) s →
    ∀ wait ∈ s.waits, sampleBudget.baseBackoffMs ≤ wait.2 := fun h =>
  absurd (h _ sample_retrying _ List.mem_cons_self) (by decide)

end Persistence.RuntimePolicy
