import TrillionniumGame.Foundation.Paging
import TrillionniumGame.Foundation.Runs
import TrillionniumGame.Persistence.Contracts

namespace PersistencePg

open FiniteMap Persistence Runs

namespace Cancellation

def cancelNone : UInt8 := 0

def cancelDeadline : UInt8 := 1

def cancelShutdown : UInt8 := 2

def fetchAdd (count : Nat) : Nat := (count + 1) % 2 ^ 64

def fetchSub (count : Nat) : Nat := (count + (2 ^ 64 - 1)) % 2 ^ 64

structure PgPoolMetrics where
  inflightOperations : Nat := 0
  deadlineCancellations : Nat := 0
  shutdownCancellations : Nat := 0
  cancellationDeliveries : Nat := 0
  cancellationFailures : Nat := 0

def PgPoolMetrics.requested (m : PgPoolMetrics) (reason : UInt8) : PgPoolMetrics :=
  if reason = cancelDeadline then
    { m with deadlineCancellations := fetchAdd m.deadlineCancellations }
  else
    { m with shutdownCancellations := fetchAdd m.shutdownCancellations }

def PgPoolMetrics.settled (m : PgPoolMetrics) (delivered : Bool) : PgPoolMetrics :=
  if delivered then
    { m with cancellationDeliveries := fetchAdd m.cancellationDeliveries }
  else
    { m with cancellationFailures := fetchAdd m.cancellationFailures }

inductive Sent where
  | returned (delivered : Bool)
  | panicked

def Sent.delivered : Sent → Bool
  | .returned delivered => delivered
  | .panicked => false

def operationalError (reason : String) : DomainError := ⟨.unavailable, reason, .safeBackoff⟩

def operationDeadlineExceeded : DomainError :=
  ⟨.unavailable, "database_operation_deadline_exceeded", .safeBackoff⟩

def operationShutdownCancelled : DomainError :=
  ⟨.unavailable, "database_operation_shutdown_cancelled", .safeBackoff⟩

-- How `run_with_deadline` goes on once the operation is registered: its watcher could not
-- be spawned, or the operation has run, within its budget or past it.
inductive Ending (T : Type) where
  | unsupervised
  | finished (overdue : Bool) (result : Except DomainError T)

inductive Answer (T : Type) where
  | own (result : Except DomainError T)
  | refused (error : DomainError)
  deriving DecidableEq

def runWithDeadline {T : Type} (reason : UInt8) : Ending T → Answer T
  | .unsupervised => .refused (operationalError "database_deadline_supervisor_unavailable")
  | .finished overdue result =>
    if reason = cancelDeadline then .refused operationDeadlineExceeded
    else if reason = cancelShutdown then .refused operationShutdownCancelled
    else if overdue then .refused operationDeadlineExceeded
    else .own result

-- Where the owner of an operation stands: `register` is its atomic id and its locked
-- insertion, `complete` its locked removal and the retirement of the entry it took out.
inductive Stage (T : Type) where
  | reserved
  | collided
  | registered
  | removing (entry : Nat)
  | completed
  | answered (answer : Answer T)
  deriving DecidableEq

-- One call of `register`: the shared cells of its entry and the stage of its owner.
-- `locked` holds while a sender keeps the entry's mutex for its dispatch.
structure Operation (T : Type) where
  id : Nat
  reason : UInt8 := cancelNone
  retired : Bool := false
  locked : Bool := false
  dispatches : Nat := 0
  stage : Stage T := .reserved

inductive Phase where
  | looking
  | holding (entry : Nat)
  | dispatching (entry : Nat)
  | returned (answer : Option Bool)
  deriving DecidableEq

structure Request where
  id : Nat
  reason : UInt8
  phase : Phase := .looking

structure CancelState (T : Type) where
  nextId : Nat := 0
  entries : Dict Nat Nat := ∅
  metrics : PgPoolMetrics := {}
  operations : List (Operation T) := []
  requests : List Request := []

inductive Move (T : Type) where
  | reserve
  | register (operation : Nat)
  | request (id : Nat) (reason : UInt8)
  | cancelAllForShutdown
  | lookup (request : Nat)
  | dispatch (request : Nat)
  | settle (request : Nat) (sent : Sent)
  | remove (operation : Nat)
  | retire (operation : Nat)
  | answer (operation : Nat) (ending : Ending T)

namespace CancelState

variable {T : Type} (s : CancelState T)

def setOperation (i : Nat) (o : Operation T) : CancelState T :=
  { s with operations := s.operations.set i o }

def setPhase (k : Nat) (r : Request) (phase : Phase) : CancelState T :=
  { s with requests := s.requests.set k { r with phase := phase } }

def reserve : CancelState T :=
  if s.nextId + 1 < 2 ^ 64 then
    { s with
      nextId := s.nextId + 1
      operations := s.operations ++ [{ id := s.nextId + 1 }] }
  else s

def register (i : Nat) : Option (CancelState T) := do
  let o ← s.operations[i]?
  match o.stage with
  | .reserved =>
    match s.entries.lookup o.id with
    | some _ => return s.setOperation i { o with stage := .collided }
    | none =>
      return { s.setOperation i { o with stage := .registered } with
        entries := s.entries.insert o.id i
        metrics := { s.metrics with
          inflightOperations := fetchAdd s.metrics.inflightOperations } }
  | _ => failure

def request (id : Nat) (reason : UInt8) : CancelState T :=
  { s with requests := s.requests ++ [{ id, reason }] }

def cancelAllForShutdown : CancelState T :=
  { s with requests :=
      s.requests ++ (ordered s.entries.keys).map fun id => { id, reason := cancelShutdown } }

def lookup (s : CancelState T) (k : Nat) : Option (CancelState T) := do
  let r ← s.requests[k]?
  guard (r.phase = .looking)
  match s.entries.lookup r.id with
  | none => return s.setPhase k r (.returned none)
  | some i => return s.setPhase k r (.holding i)

def dispatch (k : Nat) : Option (CancelState T) := do
  let r ← s.requests[k]?
  match r.phase with
  | .holding i =>
    let o ← s.operations[i]?
    if r.reason ≠ cancelDeadline ∧ r.reason ≠ cancelShutdown then
      return s.setPhase k r (.returned none)
    guard (o.locked = false)
    if o.retired ∨ o.reason ≠ cancelNone then
      return s.setPhase k r (.returned none)
    return { (s.setPhase k r (.dispatching i)).setOperation i { o with
        reason := r.reason, locked := true, dispatches := o.dispatches + 1 } with
      metrics := s.metrics.requested r.reason }
  | _ => failure

def settle (k : Nat) (sent : Sent) : Option (CancelState T) := do
  let r ← s.requests[k]?
  match r.phase with
  | .dispatching i =>
    let o ← s.operations[i]?
    return { (s.setPhase k r (.returned (some sent.delivered))).setOperation i { o with
        locked := false } with
      metrics := s.metrics.settled sent.delivered }
  | _ => failure

def remove (i : Nat) : Option (CancelState T) := do
  let o ← s.operations[i]?
  match o.stage with
  | .registered =>
    match s.entries.lookup o.id with
    | none => return s.setOperation i { o with stage := .completed }
    | some j =>
      return { s.setOperation i { o with stage := .removing j } with
        entries := s.entries.erase o.id }
  | .completed | .answered _ =>
    match s.entries.lookup o.id with
    | none => return s
    | some j =>
      return { s.setOperation i { o with stage := .removing j } with
        entries := s.entries.erase o.id }
  | _ => failure

def retire (i : Nat) : Option (CancelState T) := do
  let o ← s.operations[i]?
  match o.stage with
  | .removing j =>
    let entry ← s.operations[j]?
    guard (entry.locked = false)
    let retired := s.setOperation j { entry with retired := true }
    let owner ← retired.operations[i]?
    return { retired.setOperation i { owner with stage := .completed } with
      metrics := { s.metrics with
        inflightOperations := fetchSub s.metrics.inflightOperations } }
  | _ => failure

def answer (i : Nat) (ending : Ending T) : Option (CancelState T) := do
  let o ← s.operations[i]?
  match o.stage with
  | .completed =>
    return s.setOperation i { o with stage := .answered (runWithDeadline o.reason ending) }
  | _ => failure

def step : Move T → Option (CancelState T)
  | .reserve => some s.reserve
  | .register i => s.register i
  | .request id reason => some (s.request id reason)
  | .cancelAllForShutdown => some s.cancelAllForShutdown
  | .lookup k => s.lookup k
  | .dispatch k => s.dispatch k
  | .settle k sent => s.settle k sent
  | .remove i => s.remove i
  | .retire i => s.retire i
  | .answer i ending => s.answer i ending

end CancelState

def cancelSystem (T : Type) : System (CancelState T) (Move T) where
  init s := s = {}
  step s m t := s.step m = some t

variable {count : Nat}

theorem fetchAdd_of_lt (h : count + 1 < 2 ^ 64) : fetchAdd count = count + 1 :=
  Nat.mod_eq_of_lt h

theorem fetchSub_of_pos (hpos : 0 < count) (h : count < 2 ^ 64) : fetchSub count = count - 1 := by
  unfold fetchSub
  omega

variable {α : Type} {k : Nat}

theorem getElem?_set_of_some {xs : List α} {a : α} (h : xs[k]? = some a) (b : α) (k' : Nat) :
    (xs.set k b)[k']? = if k' = k then some b else xs[k']? := by
  have hk : k < xs.length := (List.getElem?_eq_some_iff.mp h).1
  rw [List.getElem?_set]
  by_cases heq : k = k'
  · subst heq
    simp [hk]
  · simp [heq, Ne.symm heq]

theorem countP_set_of_some {xs : List α} {a : α} (h : xs[k]? = some a) (b : α) (p : α → Bool) :
    (xs.set k b).countP p + (if p a then 1 else 0) = xs.countP p + if p b then 1 else 0 := by
  obtain ⟨hk, rfl⟩ := List.getElem?_eq_some_iff.mp h
  have hpos : (if p xs[k] then 1 else 0) ≤ xs.countP p := by
    split
    · next hp => exact List.countP_pos_iff.mpr ⟨_, List.getElem_mem hk, hp⟩
    · exact Nat.zero_le _
  rw [List.countP_set hk]
  omega

variable {T : Type}

def Stage.over : Stage T → Bool
  | .completed | .answered _ => true
  | _ => false

def Operation.registered (o : Operation T) : Bool :=
  match o.stage with
  | .reserved | .collided => false
  | _ => true

def Operation.cancelled (o : Operation T) : Bool := o.reason != cancelNone

def Operation.inflight (o : Operation T) : Bool := o.registered && !o.retired

def Operation.Placed (i : Nat) (o : Operation T) : Prop :=
  match o.stage with
  | .reserved => o.retired = false ∧ o.cancelled = false
  | .collided => False
  | .registered => o.retired = false
  | .removing j => o.retired = false ∧ j = i
  | .completed => o.retired = true
  | .answered answer => o.retired = true ∧ ∀ result, answer = .own result → o.cancelled = false

structure Operation.Sound (i : Nat) (o : Operation T) : Prop where
  id : o.id = i + 1
  reason : o.reason = cancelNone ∨ o.reason = cancelDeadline ∨ o.reason = cancelShutdown
  dispatches : o.dispatches = if o.cancelled then 1 else 0
  locked : o.locked = true → o.cancelled = true ∧ o.retired = false
  placed : o.Placed i

variable {i : Nat} {o : Operation T}

theorem Operation.Sound.at (h : o.Sound i) {stage : Stage T} (hstage : o.stage = stage) :
    Operation.Placed i { o with stage := stage } := by
  subst hstage
  exact h.placed

theorem Operation.Sound.retired_of_over (h : o.Sound i) (hover : o.stage.over = true) :
    o.retired = true := by
  have hplaced := h.placed
  unfold Placed at hplaced
  cases hstage : o.stage <;> simp only [hstage, Stage.over] at hplaced hover
  case completed => exact hplaced
  case answered => exact hplaced.1
  all_goals cases hover

structure Sound (s : CancelState T) : Prop where
  nextId : s.operations.length = s.nextId ∧ s.nextId < 2 ^ 64
  operations : ∀ (i : Nat) (o : Operation T), s.operations[i]? = some o → o.Sound i
  entries : ∀ id i, s.entries.lookup id = some i ↔
    ∃ o : Operation T, s.operations[i]? = some o ∧ o.id = id ∧ o.stage = .registered
  held : ∀ (k : Nat) (r : Request) (i : Nat), s.requests[k]? = some r → r.phase = .holding i →
    ∃ o : Operation T, s.operations[i]? = some o ∧ o.registered = true
  running : ∀ (k : Nat) (r : Request) (i : Nat), s.requests[k]? = some r →
    r.phase = .dispatching i → ∃ o : Operation T, s.operations[i]? = some o ∧ o.locked = true
  locker : ∀ (i : Nat) (o : Operation T), s.operations[i]? = some o → o.locked = true →
    ∃ (k : Nat) (r : Request), s.requests[k]? = some r ∧ r.phase = .dispatching i
  alone : ∀ (k : Nat) (r : Request) (k' : Nat) (r' : Request) (i : Nat),
    s.requests[k]? = some r → s.requests[k']? = some r' →
    r.phase = .dispatching i → r'.phase = .dispatching i → k = k'
  inflight : s.metrics.inflightOperations = s.operations.countP Operation.inflight
  requested : s.metrics.deadlineCancellations + s.metrics.shutdownCancellations =
    s.operations.countP Operation.cancelled
  settled : s.metrics.cancellationDeliveries + s.metrics.cancellationFailures +
    s.operations.countP Operation.locked = s.operations.countP Operation.cancelled

inductive Moved (s : CancelState T) : CancelState T → Prop
  | stays : Moved s s
  | reserve (h : s.nextId + 1 < 2 ^ 64) : Moved s { s with
      nextId := s.nextId + 1
      operations := s.operations ++ [{ id := s.nextId + 1 }] }
  | register (i : Nat) (o : Operation T) (ho : s.operations[i]? = some o)
      (hstage : o.stage = .reserved) :
      Moved s { s.setOperation i { o with stage := .registered } with
        entries := s.entries.insert o.id i
        metrics := { s.metrics with
          inflightOperations := fetchAdd s.metrics.inflightOperations } }
  | request (rs : List Request) (h : ∀ r ∈ rs, r.phase = .looking) :
      Moved s { s with requests := s.requests ++ rs }
  | phase (k : Nat) (r : Request) (phase : Phase) (hr : s.requests[k]? = some r)
      (hfrom : ∀ i, r.phase ≠ .dispatching i) (hto : ∀ i, phase ≠ .dispatching i)
      (hheld : ∀ i, phase = .holding i →
        ∃ o : Operation T, s.operations[i]? = some o ∧ o.registered = true) :
      Moved s (s.setPhase k r phase)
  | dispatch (k : Nat) (r : Request) (i : Nat) (o : Operation T) (hr : s.requests[k]? = some r)
      (hphase : r.phase = .holding i) (ho : s.operations[i]? = some o)
      (hreason : r.reason = cancelDeadline ∨ r.reason = cancelShutdown)
      (hlocked : o.locked = false) (hretired : o.retired = false)
      (hnone : o.cancelled = false) :
      Moved s { (s.setPhase k r (.dispatching i)).setOperation i { o with
          reason := r.reason, locked := true, dispatches := o.dispatches + 1 } with
        metrics := s.metrics.requested r.reason }
  | settle (k : Nat) (r : Request) (i : Nat) (o : Operation T) (delivered : Bool)
      (hr : s.requests[k]? = some r) (hphase : r.phase = .dispatching i)
      (ho : s.operations[i]? = some o) :
      Moved s { (s.setPhase k r (.returned (some delivered))).setOperation i { o with
          locked := false } with
        metrics := s.metrics.settled delivered }
  | remove (i : Nat) (o : Operation T) (ho : s.operations[i]? = some o)
      (hstage : o.stage = .registered) :
      Moved s { s.setOperation i { o with stage := .removing i } with
        entries := s.entries.erase o.id }
  | retire (i : Nat) (o : Operation T) (ho : s.operations[i]? = some o)
      (hstage : o.stage = .removing i) (hlocked : o.locked = false) :
      Moved s { s.setOperation i { o with retired := true, stage := .completed } with
        metrics := { s.metrics with
          inflightOperations := fetchSub s.metrics.inflightOperations } }
  | answer (i : Nat) (o : Operation T) (ending : Ending T) (ho : s.operations[i]? = some o)
      (hstage : o.stage = .completed) :
      Moved s (s.setOperation i { o with
        stage := .answered (runWithDeadline o.reason ending) })

section
variable {s t : CancelState T}

variable {i : Nat}

theorem Sound.listed (hs : Sound s) {j : Nat} {o : Operation T} (ho : s.operations[i]? = some o)
    (hj : s.entries.lookup o.id = some j) : j = i ∧ o.stage = .registered := by
  obtain ⟨o', ho', hid, hstage⟩ := (hs.entries _ _).mp hj
  have hj : j = i := by
    have hjid := (hs.operations _ _ ho').id
    have hiid := (hs.operations _ _ ho).id
    omega
  subst hj
  cases Option.mem_unique ho ho'
  exact ⟨rfl, hstage⟩

theorem register_moved (hs : Sound s) (h : s.register i = some t) : Moved s t := by
  simp only [CancelState.register, Option.bind_eq_bind, Option.bind_eq_some_iff] at h
  obtain ⟨o, ho, h⟩ := h
  split at h
  · next hstage =>
    split at h
    · next j hj =>
      have hregistered := (hs.listed ho hj).2
      rw [hstage] at hregistered
      cases hregistered
    · cases h
      exact .register i o ho hstage
  · cases h

variable {k : Nat}

theorem lookup_moved (hs : Sound s) (h : s.lookup k = some t) : Moved s t := by
  simp only [CancelState.lookup, Option.bind_eq_bind, Option.bind_eq_some_iff,
    Option.guard_eq_some'] at h
  obtain ⟨r, hr, -, hphase, h⟩ := h
  split at h
  · cases h
    exact .phase k r _ hr (by simp [hphase]) (by simp) (by simp)
  · next i hi =>
    cases h
    refine .phase k r _ hr (by simp [hphase]) (by simp) ?_
    intro i' hi'
    cases Phase.holding.inj hi'
    obtain ⟨o, ho, -, hstage⟩ := (hs.entries _ _).mp hi
    exact ⟨o, ho, by simp [Operation.registered, hstage]⟩

theorem dispatch_moved (h : s.dispatch k = some t) : Moved s t := by
  simp only [CancelState.dispatch, Option.bind_eq_bind, Option.bind_eq_some_iff] at h
  obtain ⟨r, hr, h⟩ := h
  split at h
  · next i hphase =>
    have hrefused : Moved s (s.setPhase k r (.returned none)) :=
      .phase k r _ hr (by simp [hphase]) (by simp) (by simp)
    obtain ⟨o, ho, h⟩ := Option.bind_eq_some_iff.mp h
    split at h
    · cases h
      exact hrefused
    · next hreason =>
      simp only [Option.bind_eq_some_iff, Option.guard_eq_some'] at h
      obtain ⟨-, hlocked, h⟩ := h
      split at h
      · cases h
        exact hrefused
      · next hopen =>
        cases h
        have hreason' : r.reason = cancelDeadline ∨ r.reason = cancelShutdown := by
          by_contra hne
          exact hreason (not_or.mp hne)
        obtain ⟨hretired, hnone⟩ := not_or.mp hopen
        exact .dispatch k r i o hr hphase ho hreason' hlocked (by simpa using hretired)
          (by simpa [Operation.cancelled] using hnone)
  · cases h

theorem settle_moved {sent : Sent} (h : s.settle k sent = some t) : Moved s t := by
  simp only [CancelState.settle, Option.bind_eq_bind, Option.bind_eq_some_iff] at h
  obtain ⟨r, hr, h⟩ := h
  split at h
  · next i hphase =>
    obtain ⟨o, ho, h⟩ := Option.bind_eq_some_iff.mp h
    cases h
    exact .settle k r i o sent.delivered hr hphase ho
  · cases h

theorem remove_moved (hs : Sound s) (h : s.remove i = some t) : Moved s t := by
  simp only [CancelState.remove, Option.bind_eq_bind, Option.bind_eq_some_iff] at h
  obtain ⟨o, ho, h⟩ := h
  have hagain : o.stage.over = true → ∀ j, s.entries.lookup o.id ≠ some j := by
    intro hover j hj
    rw [(hs.listed ho hj).2] at hover
    cases hover
  split at h
  · next hstage =>
    split at h
    · next hmissing =>
      rw [(hs.entries o.id i).mpr ⟨o, ho, rfl, hstage⟩] at hmissing
      cases hmissing
    · next j hj =>
      cases h
      obtain rfl := (hs.listed ho hj).1
      exact .remove j o ho hstage
  · next hstage =>
    split at h
    · cases h
      exact .stays
    · next j hj => exact absurd hj (hagain (by rw [hstage]; rfl) j)
  · next hstage =>
    split at h
    · cases h
      exact .stays
    · next j hj => exact absurd hj (hagain (by rw [hstage]; rfl) j)
  · cases h

theorem retire_moved (hs : Sound s) (h : s.retire i = some t) : Moved s t := by
  simp only [CancelState.retire, Option.bind_eq_bind, Option.bind_eq_some_iff] at h
  obtain ⟨o, ho, h⟩ := h
  split at h
  · next j hstage =>
    obtain rfl := ((hs.operations _ _ ho).at hstage).2
    simp only [Option.bind_eq_some_iff, Option.guard_eq_some'] at h
    obtain ⟨entry, hentry, -, hlocked, owner, howner, h⟩ := h
    obtain rfl := Option.mem_unique ho hentry
    simp only [CancelState.setOperation, getElem?_set_of_some ho, if_true,
      Option.some.injEq] at howner
    cases h
    subst howner
    have hset := Moved.retire j o ho hstage hlocked
    simpa only [CancelState.setOperation, List.set_set] using hset
  · cases h

theorem answer_moved {ending : Ending T} (h : s.answer i ending = some t) : Moved s t := by
  simp only [CancelState.answer, Option.bind_eq_bind, Option.bind_eq_some_iff] at h
  obtain ⟨o, ho, h⟩ := h
  split at h
  · next hstage =>
    cases h
    exact .answer i o ending ho hstage
  · cases h

theorem step_moved (hs : Sound s) {m : Move T} (h : s.step m = some t) : Moved s t := by
  cases m with
  | reserve =>
    cases h
    unfold CancelState.reserve
    split
    · next hlt => exact .reserve hlt
    · exact .stays
  | register i => exact register_moved hs h
  | request id reason =>
    cases h
    exact .request [{ id, reason }] (by simp)
  | cancelAllForShutdown =>
    cases h
    refine .request _ ?_
    intro r hr
    obtain ⟨id, -, rfl⟩ := List.mem_map.mp hr
    rfl
  | lookup k => exact lookup_moved hs h
  | dispatch k => exact dispatch_moved h
  | settle k sent => exact settle_moved h
  | remove i => exact remove_moved hs h
  | retire i => exact retire_moved hs h
  | answer i ending => exact answer_moved h

end

end Cancellation

end PersistencePg
