import TrillionniumGame.PersistencePg.Cancellation

namespace PersistencePg

open FiniteMap Persistence Runs

namespace Cancellation

variable {T : Type}

section
variable {s : CancelState T} {i : Nat} {o : Operation T}

theorem sound_init : Sound ({} : CancelState T) := by
  constructor <;> simp

theorem countP_lt (hs : Sound s) (p : Operation T → Bool) :
    s.operations.countP p < 2 ^ 64 := by
  have hle := List.countP_le_length (p := p) (l := s.operations)
  have hlength := hs.nextId
  omega

theorem Sound.owner (hs : Sound s) (ho : s.operations[i]? = some o) (o' : Operation T)
    (hsound : o'.Sound i) (hlocked : o'.locked = o.locked) (hreason : o'.reason = o.reason)
    (hregistered : o'.registered = true) {entries : Dict Nat Nat} {inflight : Nat}
    (hentries : ∀ id j, entries.lookup id = some j ↔
      if j = i then id = o.id ∧ o'.stage = .registered else s.entries.lookup id = some j)
    (hinflight : inflight = (s.operations.set i o').countP Operation.inflight) :
    Sound { s.setOperation i o' with
      entries := entries
      metrics := { s.metrics with inflightOperations := inflight } } := by
  have hget := getElem?_set_of_some ho o'
  have hcount := countP_set_of_some ho o'
  have hid : o'.id = o.id := hsound.id.trans (hs.operations _ _ ho).id.symm
  have hcancelled : o'.cancelled = o.cancelled := by simp only [Operation.cancelled, hreason]
  constructor
  case nextId => simpa [CancelState.setOperation] using hs.nextId
  case operations =>
    intro j q hq
    simp only [CancelState.setOperation, hget] at hq
    split at hq
    · next hj =>
      cases hq
      exact hj ▸ hsound
    · exact hs.operations _ _ hq
  case entries =>
    intro id j
    simp only [CancelState.setOperation, hget, hentries]
    split
    · simp only [Option.some.injEq, exists_eq_left', hid, eq_comm]
    · exact hs.entries id j
  case held =>
    intro k r j hr hphase
    obtain ⟨q, hq, hold⟩ := hs.held k r j hr hphase
    simp only [CancelState.setOperation, hget]
    split
    · exact ⟨o', rfl, hregistered⟩
    · exact ⟨q, hq, hold⟩
  case running =>
    intro k r j hr hphase
    obtain ⟨q, hq, hold⟩ := hs.running k r j hr hphase
    simp only [CancelState.setOperation, hget]
    split
    · next hj =>
      subst hj
      cases Option.mem_unique ho hq
      exact ⟨o', rfl, hlocked.trans hold⟩
    · exact ⟨q, hq, hold⟩
  case locker =>
    intro j q hq hold
    simp only [CancelState.setOperation, hget] at hq
    split at hq
    · next hj =>
      subst hj
      cases hq
      exact hs.locker _ o ho (hlocked.symm.trans hold)
    · exact hs.locker j q hq hold
  case alone => exact hs.alone
  case inflight => exact hinflight
  case requested =>
    have h := hcount Operation.cancelled
    rw [hcancelled] at h
    have hsum := hs.requested
    simp only [CancelState.setOperation]
    omega
  case settled =>
    have h := hcount Operation.cancelled
    have hl := hcount Operation.locked
    rw [hcancelled] at h
    rw [hlocked] at hl
    have hsum := hs.settled
    simp only [CancelState.setOperation]
    omega

theorem sound_register (hs : Sound s) (ho : s.operations[i]? = some o)
    (hstage : o.stage = .reserved) :
    Sound { s.setOperation i { o with stage := .registered } with
      entries := s.entries.insert o.id i
      metrics := { s.metrics with
        inflightOperations := fetchAdd s.metrics.inflightOperations } } := by
  have hold := hs.operations _ _ ho
  obtain ⟨hretired, -⟩ : o.retired = false ∧ o.cancelled = false := hold.at hstage
  refine hs.owner ho { o with stage := .registered } ?_ rfl rfl rfl ?_ ?_
  · exact ⟨hold.id, hold.reason, hold.dispatches, hold.locked, hretired⟩
  · intro id j
    rw [lookup_insert_ite]
    by_cases hid : id = o.id
    · subst hid
      by_cases hj : j = i
      · simp [hj]
      · have hne : s.entries.lookup o.id ≠ some j := fun h => hj (hs.listed ho h).1
        simp [hj, Ne.symm hj, hne]
    · by_cases hj : j = i
      · subst hj
        have hne : s.entries.lookup id ≠ some j := by
          intro h
          obtain ⟨q, hq, hqid, -⟩ := (hs.entries _ _).mp h
          cases Option.mem_unique ho hq
          exact hid hqid.symm
        simp [hid, hne]
      · simp [hid, hj]
  · have hcount := countP_set_of_some ho { o with stage := .registered } Operation.inflight
    have hbefore : o.inflight = false := by simp [Operation.inflight, Operation.registered, hstage]
    have hafter : Operation.inflight (T := T) { o with stage := .registered } = true := by
      simp [Operation.inflight, Operation.registered, hretired]
    rw [hbefore, hafter] at hcount
    have hlt := List.countP_le_length (p := Operation.inflight)
      (l := s.operations.set i { o with stage := .registered })
    have hlength := hs.nextId
    have hinflight := hs.inflight
    rw [List.length_set] at hlt
    rw [fetchAdd_of_lt]
    · simp at hcount
      omega
    · simp at hcount
      omega

theorem sound_remove (hs : Sound s) (ho : s.operations[i]? = some o)
    (hstage : o.stage = .registered) :
    Sound { s.setOperation i { o with stage := .removing i } with
      entries := s.entries.erase o.id } := by
  have hold := hs.operations _ _ ho
  have hretired : o.retired = false := hold.at hstage
  refine hs.owner ho { o with stage := .removing i } ?_ rfl rfl rfl ?_ ?_
  · exact ⟨hold.id, hold.reason, hold.dispatches, hold.locked, hretired, rfl⟩
  · intro id j
    rw [lookup_erase_ite]
    by_cases hid : id = o.id
    · subst hid
      have hne : j ≠ i → s.entries.lookup o.id ≠ some j := fun hj h => hj (hs.listed ho h).1
      by_cases hj : j = i
      · simp [hj]
      · simp [hj, hne hj]
    · by_cases hj : j = i
      · subst hj
        have hne : s.entries.lookup id ≠ some j := by
          intro h
          obtain ⟨q, hq, hqid, -⟩ := (hs.entries _ _).mp h
          cases Option.mem_unique ho hq
          exact hid hqid.symm
        simp [hid, hne]
      · simp [hid, hj]
  · have hcount := countP_set_of_some ho { o with stage := .removing i } Operation.inflight
    have hbefore : o.inflight = true := by
      simp [Operation.inflight, Operation.registered, hstage, hretired]
    have hafter : Operation.inflight (T := T) { o with stage := .removing i } = true := by
      simp [Operation.inflight, Operation.registered, hretired]
    rw [hbefore, hafter] at hcount
    exact hs.inflight.trans (Nat.add_right_cancel hcount).symm

theorem entries_elsewhere (hs : Sound s) (ho : s.operations[i]? = some o)
    (hstage : o.stage ≠ .registered) {stage : Stage T} (hstage' : stage ≠ .registered)
    (id j : Nat) : s.entries.lookup id = some j ↔
      if j = i then id = o.id ∧ stage = .registered else s.entries.lookup id = some j := by
  split
  · next hj =>
    subst hj
    refine ⟨fun h => ?_, fun h => absurd h.2 hstage'⟩
    obtain ⟨q, hq, -, hregistered⟩ := (hs.entries _ _).mp h
    cases Option.mem_unique ho hq
    exact absurd hregistered hstage
  · exact Iff.rfl

theorem sound_retire (hs : Sound s) (ho : s.operations[i]? = some o)
    (hstage : o.stage = .removing i) (hlocked : o.locked = false) :
    Sound { s.setOperation i { o with retired := true, stage := .completed } with
      metrics := { s.metrics with
        inflightOperations := fetchSub s.metrics.inflightOperations } } := by
  have hold := hs.operations _ _ ho
  obtain ⟨hretired, -⟩ : o.retired = false ∧ i = i := hold.at hstage
  refine hs.owner ho { o with retired := true, stage := .completed } ?_ rfl rfl rfl
    (entries_elsewhere hs ho (by simp [hstage]) (by simp)) ?_
  · exact ⟨hold.id, hold.reason, hold.dispatches, fun h => absurd (hlocked.symm.trans h) (by simp),
      rfl⟩
  · have hcount := countP_set_of_some ho { o with retired := true, stage := .completed }
      Operation.inflight
    have hbefore : o.inflight = true := by
      simp [Operation.inflight, Operation.registered, hstage, hretired]
    have hafter : Operation.inflight (T := T) { o with
        retired := true, stage := .completed } = false := by
      simp [Operation.inflight]
    rw [hbefore, hafter] at hcount
    have hinflight := hs.inflight
    have hlt := countP_lt hs Operation.inflight
    have hpos : 0 < s.operations.countP Operation.inflight :=
      List.countP_pos_iff.mpr ⟨o, List.mem_of_getElem? ho, hbefore⟩
    rw [fetchSub_of_pos (by omega) (by omega)]
    simp at hcount
    omega

theorem own_of_runWithDeadline {reason : UInt8} {ending : Ending T} {result : Except DomainError T}
    (h : runWithDeadline reason ending = .own result) :
    reason ≠ cancelDeadline ∧ reason ≠ cancelShutdown := by
  unfold runWithDeadline at h
  split at h
  · cases h
  · split at h
    · cases h
    · next hdeadline =>
      split at h
      · cases h
      · next hshutdown => exact ⟨hdeadline, hshutdown⟩

theorem sound_answer (hs : Sound s) (ho : s.operations[i]? = some o)
    (hstage : o.stage = .completed) (ending : Ending T) :
    Sound (s.setOperation i { o with
      stage := .answered (runWithDeadline o.reason ending) }) := by
  have hold := hs.operations _ _ ho
  have hretired : o.retired = true := hold.at hstage
  refine hs.owner ho { o with stage := .answered (runWithDeadline o.reason ending) } ?_ rfl rfl rfl
    (entries_elsewhere hs ho (by simp [hstage]) (by simp)) ?_
  · refine ⟨hold.id, hold.reason, hold.dispatches, hold.locked, hretired, ?_⟩
    intro result hown
    obtain ⟨hdeadline, hshutdown⟩ := own_of_runWithDeadline hown
    rcases hold.reason with hreason | hreason | hreason
    · simp [Operation.cancelled, hreason]
    · exact absurd hreason hdeadline
    · exact absurd hreason hshutdown
  · have hcount := countP_set_of_some ho
      { o with stage := .answered (runWithDeadline o.reason ending) } Operation.inflight
    have hbefore : o.inflight = false := by simp [Operation.inflight, hretired]
    have hafter : Operation.inflight (T := T) { o with
        stage := .answered (runWithDeadline o.reason ending) } = false := by
      simp [Operation.inflight, hretired]
    rw [hbefore, hafter] at hcount
    exact hs.inflight.trans (Nat.add_right_cancel hcount).symm

theorem sound_request (hs : Sound s) {rs : List Request} (h : ∀ r ∈ rs, r.phase = .looking) :
    Sound { s with requests := s.requests ++ rs } := by
  have hold : ∀ (k : Nat) (r : Request), (s.requests ++ rs)[k]? = some r →
      r.phase = .looking ∨ s.requests[k]? = some r := by
    intro k r hr
    rcases lt_or_ge k s.requests.length with hk | hk
    · exact .inr (by rwa [List.getElem?_append_left hk] at hr)
    · rw [List.getElem?_append_right hk] at hr
      exact .inl (h r (List.mem_of_getElem? hr))
  constructor
  case nextId => exact hs.nextId
  case operations => exact hs.operations
  case entries => exact hs.entries
  case held =>
    intro k r i hr hphase
    rcases hold k r hr with hlooking | hr
    · rw [hlooking] at hphase
      cases hphase
    · exact hs.held k r i hr hphase
  case running =>
    intro k r i hr hphase
    rcases hold k r hr with hlooking | hr
    · rw [hlooking] at hphase
      cases hphase
    · exact hs.running k r i hr hphase
  case locker =>
    intro i o ho hlocked
    obtain ⟨k, r, hr, hphase⟩ := hs.locker i o ho hlocked
    exact ⟨k, r, by rw [List.getElem?_append_left (List.getElem?_eq_some_iff.mp hr).1, hr], hphase⟩
  case alone =>
    intro k r k' r' i hr hr' hphase hphase'
    rcases hold k r hr with hlooking | hr
    · rw [hlooking] at hphase
      cases hphase
    · rcases hold k' r' hr' with hlooking | hr'
      · rw [hlooking] at hphase'
        cases hphase'
      · exact hs.alone k r k' r' i hr hr' hphase hphase'
  case inflight => exact hs.inflight
  case requested => exact hs.requested
  case settled => exact hs.settled

variable {k : Nat} {r : Request}

theorem sound_phase (hs : Sound s) {phase : Phase} (hr : s.requests[k]? = some r)
    (hfrom : ∀ i, r.phase ≠ .dispatching i) (hto : ∀ i, phase ≠ .dispatching i)
    (hheld : ∀ i, phase = .holding i →
      ∃ o : Operation T, s.operations[i]? = some o ∧ o.registered = true) :
    Sound (s.setPhase k r phase) := by
  have hget := getElem?_set_of_some hr { r with phase := phase }
  have hold : ∀ (k' : Nat) (q : Request) (i : Nat), (s.setPhase k r phase).requests[k']? = some q →
      q.phase = .dispatching i → s.requests[k']? = some q := by
    intro k' q i hq hphase
    simp only [CancelState.setPhase, hget] at hq
    split at hq
    · cases hq
      exact absurd hphase (hto i)
    · exact hq
  constructor
  case nextId => exact hs.nextId
  case operations => exact hs.operations
  case entries => exact hs.entries
  case held =>
    intro k' q i hq hphase
    simp only [CancelState.setPhase, hget] at hq
    split at hq
    · cases hq
      exact hheld i hphase
    · exact hs.held k' q i hq hphase
  case running =>
    intro k' q i hq hphase
    exact hs.running k' q i (hold k' q i hq hphase) hphase
  case locker =>
    intro i o ho hlocked
    obtain ⟨k', q, hq, hphase⟩ := hs.locker i o ho hlocked
    refine ⟨k', q, ?_, hphase⟩
    have hne : k' ≠ k := by
      rintro rfl
      cases Option.mem_unique hr hq
      exact hfrom i hphase
    simp only [CancelState.setPhase, hget, if_neg hne, hq]
  case alone =>
    intro k' q k'' q' i hq hq' hphase hphase'
    exact hs.alone k' q k'' q' i (hold k' q i hq hphase) (hold k'' q' i hq' hphase') hphase hphase'
  case inflight => exact hs.inflight
  case requested => exact hs.requested
  case settled => exact hs.settled

variable {m : PgPoolMetrics}

theorem sum_requested (reason : UInt8)
    (h : m.deadlineCancellations + m.shutdownCancellations + 1 < 2 ^ 64) :
    (m.requested reason).deadlineCancellations + (m.requested reason).shutdownCancellations =
      m.deadlineCancellations + m.shutdownCancellations + 1 ∧
    (m.requested reason).inflightOperations = m.inflightOperations ∧
    (m.requested reason).cancellationDeliveries = m.cancellationDeliveries ∧
    (m.requested reason).cancellationFailures = m.cancellationFailures := by
  unfold PgPoolMetrics.requested
  split
  · refine ⟨?_, rfl, rfl, rfl⟩
    simp only [fetchAdd_of_lt (show m.deadlineCancellations + 1 < 2 ^ 64 by omega)]
    omega
  · refine ⟨?_, rfl, rfl, rfl⟩
    simp only [fetchAdd_of_lt (show m.shutdownCancellations + 1 < 2 ^ 64 by omega)]
    omega

theorem sum_settled (delivered : Bool)
    (h : m.cancellationDeliveries + m.cancellationFailures + 1 < 2 ^ 64) :
    (m.settled delivered).cancellationDeliveries + (m.settled delivered).cancellationFailures =
      m.cancellationDeliveries + m.cancellationFailures + 1 ∧
    (m.settled delivered).inflightOperations = m.inflightOperations ∧
    (m.settled delivered).deadlineCancellations = m.deadlineCancellations ∧
    (m.settled delivered).shutdownCancellations = m.shutdownCancellations := by
  unfold PgPoolMetrics.settled
  split
  · refine ⟨?_, rfl, rfl, rfl⟩
    simp only [fetchAdd_of_lt (show m.cancellationDeliveries + 1 < 2 ^ 64 by omega)]
    omega
  · refine ⟨?_, rfl, rfl, rfl⟩
    simp only [fetchAdd_of_lt (show m.cancellationFailures + 1 < 2 ^ 64 by omega)]
    omega

theorem Operation.Placed.again {o' : Operation T} (h : o.Placed i)
    (hregistered : o.registered = true) (hretired : o.retired = false)
    (hstage : o'.stage = o.stage) (hretired' : o'.retired = o.retired) : o'.Placed i := by
  unfold Placed at h ⊢
  rw [hstage, hretired']
  cases hst : o.stage <;> simp only [hst, registered] at h hregistered ⊢
  case registered => exact h
  case removing => exact h
  case completed => exact h
  case answered => exact absurd (hretired.symm.trans h.1) (by simp)
  all_goals cases hregistered

theorem Sound.exchange (hs : Sound s) (hr : s.requests[k]? = some r)
    (ho : s.operations[i]? = some o) {phase : Phase} {o' : Operation T} {metrics : PgPoolMetrics}
    (hsound : o'.Sound i) (hstage : o'.stage = o.stage) (hretired : o'.retired = o.retired)
    (hfrom : ∀ j, r.phase = .dispatching j → j = i) (hto : ∀ j, phase = .dispatching j → j = i)
    (hfree : ∀ (k' : Nat) (q : Request), s.requests[k']? = some q → k' ≠ k →
      q.phase ≠ .dispatching i)
    (hholding : ∀ j, phase ≠ .holding j) (hlocked : o'.locked = true ↔ phase = .dispatching i)
    (hinflight : metrics.inflightOperations = s.metrics.inflightOperations)
    (hrequested : metrics.deadlineCancellations + metrics.shutdownCancellations =
      (s.operations.set i o').countP Operation.cancelled)
    (hsettled : metrics.cancellationDeliveries + metrics.cancellationFailures +
      (s.operations.set i o').countP Operation.locked =
        (s.operations.set i o').countP Operation.cancelled) :
    Sound { (s.setPhase k r phase).setOperation i o' with metrics := metrics } := by
  have hget := getElem?_set_of_some ho o'
  have hgetr := getElem?_set_of_some hr { r with phase := phase }
  have hid : o'.id = o.id := hsound.id.trans (hs.operations _ _ ho).id.symm
  have hregistered : o'.registered = o.registered := by simp only [Operation.registered, hstage]
  constructor
  case nextId => simpa [CancelState.setOperation, CancelState.setPhase] using hs.nextId
  case operations =>
    intro j q hq
    simp only [CancelState.setOperation, CancelState.setPhase, hget] at hq
    split at hq
    · next hj =>
      cases hq
      exact hj ▸ hsound
    · exact hs.operations _ _ hq
  case entries =>
    intro id j
    refine (hs.entries id j).trans ?_
    simp only [CancelState.setOperation, CancelState.setPhase, hget]
    split
    · next hj =>
      subst hj
      simp only [ho, Option.some.injEq, exists_eq_left', hid, hstage]
    · exact Iff.rfl
  case held =>
    intro k' q j hq hphase
    simp only [CancelState.setOperation, CancelState.setPhase, hgetr, hget] at hq ⊢
    split at hq
    · cases hq
      exact absurd hphase (hholding j)
    · obtain ⟨q', hq', hold⟩ := hs.held k' q j hq hphase
      split
      · next hj =>
        subst hj
        cases Option.mem_unique ho hq'
        exact ⟨o', rfl, hregistered.trans hold⟩
      · exact ⟨q', hq', hold⟩
  case running =>
    intro k' q j hq hdispatching
    simp only [CancelState.setOperation, CancelState.setPhase, hgetr, hget] at hq ⊢
    split at hq
    · cases hq
      cases hto j hdispatching
      exact ⟨o', if_pos rfl, hlocked.mpr hdispatching⟩
    · next hne =>
      obtain ⟨q', hq', hold⟩ := hs.running k' q j hq hdispatching
      refine ⟨q', ?_, hold⟩
      rw [if_neg, hq']
      rintro rfl
      exact hfree k' q hq hne hdispatching
  case locker =>
    intro j q hq hold
    simp only [CancelState.setOperation, CancelState.setPhase, hgetr, hget] at hq ⊢
    split at hq
    · next hj =>
      cases hq
      exact ⟨k, _, if_pos rfl, hj ▸ hlocked.mp hold⟩
    · next hj =>
      obtain ⟨k', q', hq', hdispatching⟩ := hs.locker j q hq hold
      refine ⟨k', q', ?_, hdispatching⟩
      rw [if_neg, hq']
      rintro rfl
      cases Option.mem_unique hr hq'
      exact hj (hfrom j hdispatching)
  case alone =>
    intro k₁ r₁ k₂ r₂ j hr₁ hr₂ h₁ h₂
    simp only [CancelState.setOperation, CancelState.setPhase, hgetr] at hr₁ hr₂
    split at hr₁
    · next hk₁ =>
      cases hr₁
      cases hto j h₁
      split at hr₂
      · next hk₂ => exact hk₁.trans hk₂.symm
      · next hne => exact absurd h₂ (hfree _ _ hr₂ hne)
    · next hne =>
      split at hr₂
      · cases hr₂
        cases hto j h₂
        exact absurd h₁ (hfree _ _ hr₁ hne)
      · exact hs.alone _ _ _ _ j hr₁ hr₂ h₁ h₂
  case inflight =>
    have hcount := countP_set_of_some ho o' Operation.inflight
    have hsame : o'.inflight = o.inflight := by
      simp only [Operation.inflight, hregistered, hretired]
    rw [hsame] at hcount
    exact hinflight.trans (hs.inflight.trans (Nat.add_right_cancel hcount).symm)
  case requested => exact hrequested
  case settled => exact hsettled

theorem sound_dispatch (hs : Sound s) (hr : s.requests[k]? = some r)
    (hphase : r.phase = .holding i) (ho : s.operations[i]? = some o)
    (hreason : r.reason = cancelDeadline ∨ r.reason = cancelShutdown) (hlocked : o.locked = false)
    (hretired : o.retired = false) (hnone : o.cancelled = false) :
    Sound { (s.setPhase k r (.dispatching i)).setOperation i { o with
        reason := r.reason, locked := true, dispatches := o.dispatches + 1 } with
      metrics := s.metrics.requested r.reason } := by
  have hold := hs.operations _ _ ho
  have hregistered : o.registered = true := by
    obtain ⟨q, hq, hregistered⟩ := hs.held k r i hr hphase
    exact Option.mem_unique ho hq ▸ hregistered
  have hcancelled : Operation.cancelled (T := T) { o with
      reason := r.reason, locked := true, dispatches := o.dispatches + 1 } = true := by
    rcases hreason with h | h <;> simp [Operation.cancelled, h, cancelNone, cancelDeadline,
      cancelShutdown]
  have hcount := countP_set_of_some ho { o with
    reason := r.reason, locked := true, dispatches := o.dispatches + 1 }
  have hmore := hcount Operation.cancelled
  rw [hnone, hcancelled] at hmore
  have hmoreLocked := hcount Operation.locked
  rw [hlocked] at hmoreLocked
  have hbound : (s.operations.set i { o with
      reason := r.reason, locked := true, dispatches := o.dispatches + 1 }).countP
        Operation.cancelled < 2 ^ 64 := by
    refine lt_of_le_of_lt List.countP_le_length ?_
    rw [List.length_set, hs.nextId.1]
    exact hs.nextId.2
  have hrequested := hs.requested
  have hsettled := hs.settled
  simp at hmore hmoreLocked
  obtain ⟨hsum, hinflight, hdeliveries, hfailures⟩ :=
    sum_requested (m := s.metrics) r.reason (by omega)
  refine hs.exchange hr ho ?_ rfl rfl ?_ (fun j h => (Phase.dispatching.inj h).symm) ?_
    (fun _ h => by cases h) ⟨fun _ => rfl, fun _ => rfl⟩ hinflight (by omega) (by omega)
  · have hdispatches := hold.dispatches
    rw [hnone] at hdispatches
    refine ⟨hold.id, .inr hreason, ?_, fun _ => ⟨hcancelled, hretired⟩,
      hold.placed.again hregistered hretired rfl rfl⟩
    rw [hcancelled]
    simpa using hdispatches
  · intro j h
    rw [hphase] at h
    cases h
  · intro k' q hq _ hdispatching
    obtain ⟨o', ho', hlocked'⟩ := hs.running k' q i hq hdispatching
    cases Option.mem_unique ho ho'
    exact absurd (hlocked.symm.trans hlocked') (by simp)

theorem sound_settle (hs : Sound s) (hr : s.requests[k]? = some r)
    (hphase : r.phase = .dispatching i) (ho : s.operations[i]? = some o) (delivered : Bool) :
    Sound { (s.setPhase k r (.returned (some delivered))).setOperation i { o with
        locked := false } with
      metrics := s.metrics.settled delivered } := by
  have hold := hs.operations _ _ ho
  have hlocked : o.locked = true := by
    obtain ⟨q, hq, hlocked⟩ := hs.running k r i hr hphase
    exact Option.mem_unique ho hq ▸ hlocked
  have hcount := countP_set_of_some ho { o with locked := false }
  have hless := hcount Operation.locked
  rw [hlocked] at hless
  have hsame := Nat.add_right_cancel (hcount Operation.cancelled)
  have hsettled := hs.settled
  have hrequested := hs.requested
  have hbound := countP_lt hs Operation.cancelled
  simp at hless
  obtain ⟨hsum, hinflight, hdeadline, hshutdown⟩ :=
    sum_settled (m := s.metrics) delivered (by omega)
  refine hs.exchange hr ho ?_ rfl rfl ?_ (fun _ => nofun) ?_ (fun _ => nofun) ⟨nofun, nofun⟩
    hinflight (by omega) (by omega)
  · exact ⟨hold.id, hold.reason, hold.dispatches, fun h => (by cases h), hold.placed⟩
  · exact fun j h => (Phase.dispatching.inj (hphase.symm.trans h)).symm
  · exact fun k' q hq hne h => hne (hs.alone k' q k r i hq hr h hphase)

theorem sound_reserve (hs : Sound s) (h : s.nextId + 1 < 2 ^ 64) :
    Sound { s with
      nextId := s.nextId + 1
      operations := s.operations ++ [{ id := s.nextId + 1 }] } := by
  have hlength := hs.nextId.1
  have hget : ∀ (j : Nat) (q : Operation T), s.operations[j]? = some q →
      (s.operations ++ [{ id := s.nextId + 1 }])[j]? = some q := by
    intro j q hq
    rw [List.getElem?_append_left (List.getElem?_eq_some_iff.mp hq).1, hq]
  have hnew : ∀ (j : Nat) (q : Operation T),
      (s.operations ++ [{ id := s.nextId + 1 }])[j]? = some q →
      s.operations[j]? = some q ∨ j = s.nextId ∧ q = { id := s.nextId + 1 } := by
    intro j q hq
    rcases lt_or_ge j s.operations.length with hj | hj
    · exact .inl (by rwa [List.getElem?_append_left hj] at hq)
    · rw [List.getElem?_append_right hj, List.getElem?_singleton] at hq
      split at hq
      · exact .inr ⟨by omega, (Option.some.inj hq).symm⟩
      · cases hq
  have hcount : ∀ p : Operation T → Bool, p { id := s.nextId + 1 } = false →
      List.countP p (s.operations ++ [{ id := s.nextId + 1 }]) = s.operations.countP p := by
    intro p hp
    rw [List.countP_append, List.countP_singleton, hp]
    rfl
  constructor
  case nextId => exact ⟨by simp [hlength], h⟩
  case operations =>
    intro j q hq
    rcases hnew j q hq with hq | ⟨rfl, rfl⟩
    · exact hs.operations _ _ hq
    · exact ⟨rfl, .inl rfl, rfl, fun h => (by cases h), rfl, rfl⟩
  case entries =>
    intro id j
    refine (hs.entries id j).trans ⟨?_, ?_⟩
    · rintro ⟨q, hq, hrest⟩
      exact ⟨q, hget j q hq, hrest⟩
    · rintro ⟨q, hq, hid, hstage⟩
      rcases hnew j q hq with hq | ⟨rfl, rfl⟩
      · exact ⟨q, hq, hid, hstage⟩
      · cases hstage
  case held =>
    intro k r j hr hphase
    obtain ⟨q, hq, hregistered⟩ := hs.held k r j hr hphase
    exact ⟨q, hget j q hq, hregistered⟩
  case running =>
    intro k r j hr hphase
    obtain ⟨q, hq, hlocked⟩ := hs.running k r j hr hphase
    exact ⟨q, hget j q hq, hlocked⟩
  case locker =>
    intro j q hq hlocked
    rcases hnew j q hq with hq | ⟨rfl, rfl⟩
    · exact hs.locker j q hq hlocked
    · cases hlocked
  case alone => exact hs.alone
  case inflight => exact hs.inflight.trans (hcount _ rfl).symm
  case requested => exact hs.requested.trans (hcount _ rfl).symm
  case settled =>
    have hsettled := hs.settled
    simp only
    rw [hcount Operation.locked rfl, hcount Operation.cancelled rfl]
    exact hsettled

theorem sound_moved {t : CancelState T} (hs : Sound s) (h : Moved s t) : Sound t := by
  cases h with
  | stays => exact hs
  | reserve h => exact sound_reserve hs h
  | register i o ho hstage => exact sound_register hs ho hstage
  | request rs h => exact sound_request hs h
  | phase k r phase hr hfrom hto hheld => exact sound_phase hs hr hfrom hto hheld
  | dispatch k r i o hr hphase ho hreason hlocked hretired hnone =>
    exact sound_dispatch hs hr hphase ho hreason hlocked hretired hnone
  | settle k r i o delivered hr hphase ho => exact sound_settle hs hr hphase ho delivered
  | remove i o ho hstage => exact sound_remove hs ho hstage
  | retire i o ho hstage hlocked => exact sound_retire hs ho hstage hlocked
  | answer i o ending ho hstage => exact sound_answer hs ho hstage ending

end

variable {s : CancelState T}

theorem reachable_sound (h : Reachable (cancelSystem T) s) : Sound s := by
  refine h.invariant ?_ ?_
  · rintro s rfl
    exact sound_init
  · intro s m t hs hstep
    exact sound_moved hs (step_moved hs (show s.step m = some t from hstep))

def Kept (s t : CancelState T) : Prop :=
  ∀ (i : Nat) (o : Operation T), s.operations[i]? = some o →
    ∃ p : Operation T, t.operations[i]? = some p ∧ p.id = o.id ∧ (o.stage.over = true →
      p.stage.over = true ∧ p.dispatches = o.dispatches ∧ p.reason = o.reason)

theorem Kept.refl (s : CancelState T) : Kept s s :=
  fun _ o ho => ⟨o, ho, rfl, fun h => ⟨h, rfl, rfl⟩⟩

variable {t : CancelState T}

theorem Kept.trans {u : CancelState T} (h : Kept s t) (k : Kept t u) : Kept s u := by
  intro i o ho
  obtain ⟨p, hp, hid, hover⟩ := h i o ho
  obtain ⟨q, hq, hid', hover'⟩ := k i p hp
  refine ⟨q, hq, hid'.trans hid, fun ho => ?_⟩
  obtain ⟨hp, hdispatches, hreason⟩ := hover ho
  obtain ⟨hq, hdispatches', hreason'⟩ := hover' hp
  exact ⟨hq, hdispatches'.trans hdispatches, hreason'.trans hreason⟩

variable {i : Nat} {o : Operation T}

theorem kept_set {o' : Operation T} (ho : s.operations[i]? = some o)
    (ht : t.operations = s.operations.set i o') (hid : o'.id = o.id)
    (hover : o.stage.over = true →
      o'.stage.over = true ∧ o'.dispatches = o.dispatches ∧ o'.reason = o.reason) : Kept s t := by
  intro j q hq
  rw [ht, getElem?_set_of_some ho]
  split
  · next hj =>
    subst hj
    cases Option.mem_unique ho hq
    exact ⟨o', rfl, hid, hover⟩
  · exact ⟨q, hq, rfl, fun h => ⟨h, rfl, rfl⟩⟩

theorem moved_kept (hs : Sound s) (h : Moved s t) : Kept s t := by
  have hbusy : ∀ {o : Operation T} {stage : Stage T} {P : Prop}, o.stage = stage →
      stage.over = false → o.stage.over = true → P := by
    intro o stage P hstage hnot hover
    rw [hstage, hnot] at hover
    cases hover
  cases h with
  | stays | request rs h | phase k r phase hr hfrom hto hheld => exact .refl s
  | reserve h =>
    intro j q hq
    refine ⟨q, ?_, rfl, fun h => ⟨h, rfl, rfl⟩⟩
    rw [List.getElem?_append_left (List.getElem?_eq_some_iff.mp hq).1, hq]
  | register i o ho hstage | remove i o ho hstage | retire i o ho hstage hlocked =>
    exact kept_set ho rfl rfl (hbusy hstage rfl)
  | dispatch k r i o hr hphase ho hreason hlocked hretired hnone =>
    refine kept_set ho rfl rfl fun hover => ?_
    have hretired' := (hs.operations i o ho).retired_of_over hover
    exact absurd (hretired.symm.trans hretired') (by simp)
  | settle k r i o delivered hr hphase ho => exact kept_set ho rfl rfl fun h => ⟨h, rfl, rfl⟩
  | answer i o ending ho hstage => exact kept_set ho rfl rfl fun _ => ⟨rfl, rfl, rfl⟩

variable {ms : List (Move T)}

theorem run_kept (hs : Sound s) (h : Run (cancelSystem T) s ms t) : Kept s t := by
  refine h.monotone (R := Kept) Kept.refl (fun _ _ _ => Kept.trans) (I := Sound) ?_ hs
  intro s m t hs hstep
  have hmoved := step_moved hs (show s.step m = some t from hstep)
  exact ⟨sound_moved hs hmoved, moved_kept hs hmoved⟩

theorem Sound.dispatched (hs : Sound s) (ho : o ∈ s.operations) :
    o.stage ≠ .collided ∧ o.dispatches ≤ 1 ∧
      (o.reason ≠ cancelNone ↔ o.dispatches = 1) ∧
      ∀ result, o.stage = .answered (.own result) → o.dispatches = 0 := by
  obtain ⟨i, ho⟩ := List.mem_iff_getElem?.mp ho
  have hold := hs.operations i o ho
  have hcancelled : o.cancelled = true ↔ o.reason ≠ cancelNone := by simp [Operation.cancelled]
  rw [← hcancelled, hold.dispatches]
  refine ⟨fun hstage => hold.at hstage, ?_, ?_, ?_⟩
  · split <;> omega
  · split <;> simp_all
  · intro result hstage
    have hown := (hold.at hstage).2 result rfl
    rw [if_neg]
    simpa [Operation.cancelled] using hown

theorem Sound.idle (hs : Sound s) (h : ∀ r ∈ s.requests, ∀ i, r.phase ≠ .dispatching i) :
    s.operations.countP Operation.locked = 0 := by
  rw [List.countP_eq_zero]
  intro o ho hlocked
  obtain ⟨i, ho⟩ := List.mem_iff_getElem?.mp ho
  obtain ⟨k, r, hr, hphase⟩ := hs.locker i o ho hlocked
  exact h r (List.mem_of_getElem? hr) i hphase

theorem Sound.quiet (hs : Sound s) (ho : s.operations[i]? = some o) (hover : o.stage.over = true)
    {r : Request} (hr : r ∈ s.requests) : r.phase ≠ .dispatching i := by
  intro hphase
  obtain ⟨k, hr⟩ := List.mem_iff_getElem?.mp hr
  obtain ⟨q, hq, hlocked⟩ := hs.running k r i hr hphase
  cases Option.mem_unique ho hq
  have hold := hs.operations i o ho
  exact absurd ((hold.locked hlocked).2.symm.trans (hold.retired_of_over hover)) (by simp)

theorem cancellation_contained {s : CancelState T} (h : Reachable (cancelSystem T) s) :
    (∀ (i j : Nat) (o p : Operation T), s.operations[i]? = some o → s.operations[j]? = some p →
      o.id = p.id → i = j) ∧
    (∀ o ∈ s.operations, o.stage ≠ .collided ∧ o.dispatches ≤ 1 ∧
      (o.reason ≠ cancelNone ↔ o.dispatches = 1) ∧
      ∀ result, o.stage = .answered (.own result) → o.dispatches = 0) ∧
    (∀ (i : Nat) (o : Operation T), s.operations[i]? = some o → o.stage.over = true →
      ∀ r ∈ s.requests, r.phase ≠ .dispatching i) ∧
    (∀ ms t, Run (cancelSystem T) s ms t → Kept s t) ∧
    ((∀ r ∈ s.requests, ∀ i, r.phase ≠ .dispatching i) →
      s.metrics.deadlineCancellations + s.metrics.shutdownCancellations =
        s.metrics.cancellationDeliveries + s.metrics.cancellationFailures) ∧
    s.metrics.inflightOperations =
      s.operations.countP fun o => o.registered && !o.retired := by
  have hs := reachable_sound h
  refine ⟨?_, fun o => hs.dispatched, fun i o ho hover r => hs.quiet ho hover,
    fun ms t => run_kept hs, ?_, hs.inflight⟩
  · intro i j o p ho hp hid
    have hi := (hs.operations i o ho).id
    have hj := (hs.operations j p hp).id
    omega
  · intro hidle
    have hsettled := hs.settled
    rw [hs.idle hidle] at hsettled
    exact hs.requested.trans hsettled.symm

theorem reachable_of_moves (hs : Reachable (cancelSystem T) s)
    (h : ms.foldlM CancelState.step s = some t) : Reachable (cancelSystem T) t := by
  induction ms generalizing s with
  | nil =>
    cases h
    exact hs
  | cons m ms ih =>
    obtain ⟨u, hu, hrest⟩ := Option.bind_eq_some_iff.mp h
    exact ih (hs.run (Run.single hu)) hrest

def sampleMoves : List (Move Unit) :=
  [.reserve, .register 0, .reserve, .register 1, .cancelAllForShutdown, .lookup 0, .remove 0,
    .retire 0, .dispatch 0, .answer 0 (.finished false (.ok ())), .lookup 1, .dispatch 1,
    .request 2 cancelDeadline, .lookup 2, .remove 1, .settle 1 .panicked, .dispatch 2, .retire 1,
    .answer 1 (.finished false (.ok ()))]

def sampleState : CancelState Unit := (sampleMoves.foldlM CancelState.step {}).getD {}

theorem cancellation_contained_sample :
    (sampleState.operations.map fun o => (o.id, o.stage, o.dispatches)) =
      [(1, .answered (.own (.ok ())), 0), (2, .answered (.refused operationShutdownCancelled), 1)] ∧
    ∀ ms t, Run (cancelSystem Unit) sampleState ms t → Kept sampleState t := by
  have hreached : sampleMoves.foldlM CancelState.step {} = some sampleState := rfl
  have hreach := reachable_of_moves (Reachable.start rfl) hreached
  exact ⟨by decide, (cancellation_contained hreach).2.2.2.1⟩

end Cancellation

end PersistencePg
