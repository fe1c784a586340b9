import TrillionniumGame.Runtime.WorldCommand.Workers

namespace WorldCommand
open Checks FiniteMap GoText Runs

variable {Value : Type} {platform : Platform Value}

def Attempt.Clean (attempt : Attempt) : Prop :=
  attempt.finishedAtUnix = none ∧ attempt.failureKind = []

def Held (s : Store) (key : AttemptKey) : Prop :=
  ∀ r, s.reservations.lookup key.clientCommandID = some r → r.generation = key.generation →
    AttemptAt Attempt.Clean s key

variable {s : Store} {key : AttemptKey}

theorem Known.not_reserved (h : Known s key)
    (hreceipt : s.receipts.lookup key.clientCommandID = none)
    (hnone : s.reservations.lookup key.clientCommandID = none) :
    key.generation < Store.nextGeneration (s.retiredGenerations key.clientCommandID) := by
  rcases h with ⟨old, hlookup, _⟩ | ⟨_, hgone | ⟨retired, hmem, hle⟩⟩
  · rw [hnone] at hlookup
    cases hlookup
  · exact absurd hreceipt hgone
  · exact lt_of_le_of_lt hle (lt_nextGeneration hmem)

theorem Known.le_pending (h : Known s key) {r : Reservation}
    (hlookup : s.reservations.lookup key.clientCommandID = some r) :
    key.generation ≤ r.generation := by
  have horder := h.ordered hlookup
  omega

def Spares (s s' : Store) (key : AttemptKey) : Prop :=
  AttemptAt Attempt.Clean s key → AttemptAt Attempt.Clean s' key ∨
    ∀ r, s'.reservations.lookup key.clientCommandID = some r → r.generation ≠ key.generation

variable {s' : Store}

def Pending (s : Store) (key : AttemptKey) : Prop :=
  ∃ r, s.reservations.lookup key.clientCommandID = some r ∧ r.generation = key.generation

theorem Held.kept (h : Held s key) (hpending : Pending s' key → Pending s key)
    (hspares : Spares s s' key) : Held s' key := by
  intro r hlookup hgeneration
  obtain ⟨r', hlookup', hgeneration'⟩ := hpending ⟨r, hlookup, hgeneration⟩
  rcases hspares (h r' hlookup' hgeneration') with hclean | hother
  · exact hclean
  · exact absurd hgeneration (hother r hlookup)

theorem Change.pending (h : Change platform s s') (hknown : Known s key) (hpending : Pending s' key) :
    Pending s key := by
  have hinsert : ∀ (r : Reservation), s'.reservations =
      s.reservations.insert r.clientCommandID r → (key.clientCommandID = r.clientCommandID →
        r.generation = key.generation → Pending s key) → Pending s key := by
    intro r hreservations hnew
    obtain ⟨r', hlookup, hgeneration⟩ := hpending
    rw [hreservations, lookup_insert_ite] at hlookup
    split at hlookup
    · next hid =>
      rw [← Option.some.inj hlookup] at hgeneration
      exact hnew hid hgeneration
    · exact ⟨r', hlookup, hgeneration⟩
  have herase : ∀ id, s'.reservations = s.reservations.erase id → Pending s key := by
    intro id hreservations
    obtain ⟨r, hlookup, hgeneration⟩ := hpending
    rw [hreservations, lookup_erase_ite] at hlookup
    split at hlookup
    · cases hlookup
    · exact ⟨r, hlookup, hgeneration⟩
  cases h with
  | same => exact hpending
  | reserved version r hreceipt hnone hattempts hnext =>
    refine hinsert r rfl fun hid hgeneration => ?_
    rw [← hid] at hreceipt hnone hnext
    have hlt := hknown.not_reserved hreceipt hnone
    omega
  | begun version current now hlookup =>
    exact hinsert (WorldCommand.begun current now) rfl fun hid hgeneration =>
      ⟨current, hid ▸ hlookup, hgeneration⟩
  | noted version current failure now hlookup =>
    exact hinsert _ rfl fun hid hgeneration => ⟨current, hid ▸ hlookup, hgeneration⟩
  | closed version current index failure now hlookup =>
    exact hinsert (failed current current.attempts index failure now) rfl
      fun hid hgeneration => ⟨current, hid ▸ hlookup, hgeneration⟩
  | retired version current kind reason now hlookup
  | committed version current state receipt hlookup => exact herase _ rfl
  | takenOver version current reason now hlookup =>
    refine hinsert (successor platform current now) rfl fun hid hgeneration => ?_
    have hle := hknown.le_pending (hid ▸ hlookup)
    simp only [successor, Store.stamp] at hgeneration
    omega

theorem Spares.same (s : Store) (key : AttemptKey) : Spares s s key := fun h => .inl h

variable {id : GoString}

theorem Spares.erase (hreservations : s'.reservations = s.reservations.erase id)
    (key : AttemptKey) : Spares s s' key := by
  intro hclean
  by_cases hid : key.clientCommandID = id
  · refine .inr fun r hlookup => ?_
    rw [hreservations, lookup_erase_ite, if_pos hid] at hlookup
    cases hlookup
  · exact .inl (hclean.erase hreservations hid)

theorem takeover_spares (ho : Orderly s) (clientCommandID reason : GoString) (generation : Nat)
    (now : Time) (outcome : Except StoreError GoString) (key : AttemptKey) :
    Spares s (s.settle (s.takeover platform clientCommandID generation reason now) outcome).2
      key := by
  rcases takeover_settled platform s clientCommandID reason generation now outcome with
    hsame | ⟨version, current, hcurrent, hs'⟩
  · rw [hsame]
    exact .same s key
  · rw [hs']
    cases ho.keyed _ _ hcurrent
    intro hclean
    by_cases hid : key.clientCommandID = current.clientCommandID
    · refine .inr fun r hlookup => ?_
      obtain ⟨old, hold, hgeneration, _⟩ := hclean
      cases Option.mem_unique hold (hid ▸ hcurrent)
      rw [hid] at hlookup
      cases Option.mem_unique (Finmap.lookup_insert _) hlookup
      simp only [successor, Store.stamp]
      omega
    · exact .inl (hclean.insert (r := successor platform current now) rfl fun heq =>
        absurd heq.symm hid)

theorem abort_spares (s : Store) (clientCommandID reason : GoString) (generation : Nat) (now : Time)
    (outcome : Except StoreError GoString) (key : AttemptKey) :
    Spares s (s.settle (s.abort clientCommandID generation reason now) outcome).2 key := by
  rcases abort_settled s clientCommandID reason generation now outcome with
    hsame | ⟨version, current, _, hs'⟩
  · rw [hsame]
    exact .same s key
  · rw [hs']
    exact .erase rfl key

theorem commit_spares (s : Store) (reservation : Reservation) (verified : VerifiedTransition)
    (now : Time) (outcome : Except StoreError GoString) (key : AttemptKey) :
    Spares s (s.settle (s.commitWith platform reservation verified now) outcome).2 key := by
  rcases commit_settled platform s reservation verified now outcome with
    ⟨answer, h, _⟩ | ⟨version, current, _, h⟩ | ⟨version, current, state, receipt, _, h⟩
  · rw [h]
    exact .same s key
  · rw [h]
    exact .erase rfl key
  · rw [h]
    exact .erase rfl key

variable {w : Workers Value} {i : Nat} {x : Execution Value} {signal : Signal}

theorem Workers.Sound.spares (h : w.Sound) (hx : w.executions[i]? = some x)
    (htrespass : ¬ (WorkerEvent.proceed i signal).Trespasses w) (hother : x.began ≠ some key) :
    Spares w.store (x.proceed platform w.store signal).2 key := by
  have hstaged := h.staged i x hx
  obtain ⟨stage, began, committed⟩ := x
  cases signal with
  | context err =>
    cases stage with
    | prepared reservation => cases err <;> exact .same _ key
    | _ => exact .same _ key
  | response ctx result => cases stage <;> exact .same _ key
  | turn now outcome =>
    cases stage with
    | ready request =>
      exact fun hclean => .inl ((prepare_settled w.store request now outcome).2.2 _ key hclean)
    | cancelled reservation failure =>
      exact fun hclean => .inl (h.cancelled_keeps hx rfl htrespass hclean)
    | beginning reservation =>
      simp only [Execution.proceed]
      rcases begin_settled w.store reservation now outcome with
        ⟨e, hsettle⟩ | ⟨version, current, hcurrent, hsettle⟩
      · rw [hsettle]
        exact .same _ key
      · rw [hsettle]
        exact fun hclean => .inl (hclean.appended (r := begun current now)
          (hcurrent.own h.orderly) rfl rfl rfl rfl)
    | failing reservation failure =>
      simp only [Execution.proceed]
      rcases record_settled h.orderly reservation failure now outcome with
        hsame | ⟨version, _, hrecorded | hnoted⟩
      · rw [hsame]
        exact .same _ key
      · intro hclean
        rcases hrecorded.keeps h.orderly hclean with hkept | ⟨current, hcurrent, rfl⟩
        · exact .inl hkept
        · refine absurd ?_ hother
          rw [show began = some (attemptKey reservation) from hstaged.1.1, attemptKey,
            namedAttempt, if_neg hstaged.2, h.orderly.keyed _ _ hcurrent.lookup,
            hcurrent.generation]
      · exact fun hclean => .inl (hnoted.keeps h.orderly hclean)
    | committing reservation verified => exact commit_spares w.store reservation verified now outcome key
    | _ => exact .same _ key

def Stage.running : Stage Value → Option Reservation
  | .executing reservation | .committing reservation _ => some reservation
  | _ => none

variable {reservation : Reservation}

theorem Staged.running (h : Staged x) (hrunning : x.stage.running = some reservation) :
    x.began = some (attemptKey reservation) ∧ x.committed = none := by
  obtain ⟨stage, began, committed⟩ := x
  cases stage with
  | executing r | committing r verified =>
    cases hrunning
    exact h.1
  | _ => cases hrunning

theorem Workers.Sound.running (h : w.Sound) (hx : w.executions[i]? = some x)
    (hrunning : (x.proceed platform w.store signal).1.stage.running = some reservation) :
    AttemptAt Attempt.Clean (x.proceed platform w.store signal).2 (attemptKey reservation) ∨
      (x.stage.running = some reservation ∧ (x.proceed platform w.store signal).2 = w.store) := by
  obtain ⟨stage, began, committed⟩ := x
  cases signal with
  | context err =>
    cases stage with
    | prepared r => cases err <;> cases hrunning
    | executing r | committing r verified => exact .inr ⟨hrunning, rfl⟩
    | _ => cases hrunning
  | response ctx result =>
    cases stage with
    | executing r =>
      refine .inr ⟨?_, rfl⟩
      simp only [Execution.proceed, afterResponse] at hrunning
      cases result with
      | error err => cases hrunning
      | ok raw =>
        dsimp only at hrunning
        split at hrunning
        · cases hrunning
        · split at hrunning
          · cases hrunning
          · exact hrunning
    | committing r verified => exact .inr ⟨hrunning, rfl⟩
    | _ => cases hrunning
  | turn now outcome =>
    cases stage with
    | ready request =>
      simp only [Execution.proceed] at hrunning
      generalize w.store.settle (w.store.prepare platform request now) outcome = result at hrunning
      obtain ⟨_ | ⟨_ | r, _ | receipt⟩, s'⟩ := result <;> cases hrunning
    | beginning r =>
      simp only [Execution.proceed] at hrunning ⊢
      rcases begin_settled w.store r now outcome with
        ⟨e, hsettle⟩ | ⟨version, current, hcurrent, hsettle⟩
      · rw [hsettle] at hrunning
        cases hrunning
      · rw [hsettle] at hrunning ⊢
        cases hrunning
        rw [begun_key (h.orderly.numbered _ _ hcurrent.lookup)]
        exact .inl ⟨begun current now, Finmap.lookup_insert _, rfl,
          openAttempt (current.attempts.length + 1) now,
          List.mem_append_right _ List.mem_cons_self, rfl, rfl, rfl⟩
    | executing r => exact .inr ⟨hrunning, rfl⟩
    | committing r verified =>
      simp only [Execution.proceed, afterCommit] at hrunning
      split at hrunning
      · cases hrunning
      · split at hrunning
        · cases hrunning
        · cases hrunning
    | _ => cases hrunning

structure Wrote (s : Store) (x y : Execution Value) (s' : Store) : Prop where
  began : y.began = x.began
  writes : ∃ reservation current verified now receipt,
    x.stage.running = some reservation ∧ Written s reservation current verified now receipt ∧
    s'.receipts = s.receipts.insert current.clientCommandID receipt ∧ y.committed = some receipt

theorem record_receipts (ho : Orderly s) (reservation : Reservation) (failure : ExecutionError)
    (now : Time) (outcome : Except StoreError GoString) :
    (s.settle (s.recordFailure reservation (some failure) now) outcome).2.receipts =
      s.receipts := by
  rcases record_settled ho reservation failure now outcome with
    hsame | ⟨version, _, hclosed | hnoted⟩
  · rw [hsame]
  · obtain ⟨_, _, _, _, _, _, _, _, heq⟩ := hclosed.closes
    rw [heq]
    rfl
  · obtain ⟨_, _, heq⟩ := hnoted.notes
    rw [heq]
    rfl

theorem Workers.Sound.wrote (platform : Platform Value) {w : Workers Value} (h : w.Sound) {i : Nat} {x : Execution Value}
    (hx : w.executions[i]? = some x) (signal : Signal) :
    ((x.proceed platform w.store signal).2.receipts = w.store.receipts ∧
      ((x.proceed platform w.store signal).1.committed = none ∨
        (x.proceed platform w.store signal).1 = x)) ∨
      Wrote w.store x (x.proceed platform w.store signal).1
        (x.proceed platform w.store signal).2 := by
  have hstaged := h.staged i x hx
  obtain ⟨stage, began, committed⟩ := x
  cases signal with
  | context err =>
    cases stage with
    | prepared reservation => cases err <;> exact .inl ⟨rfl, .inl hstaged.2⟩
    | _ => exact .inl ⟨rfl, .inr rfl⟩
  | response ctx result =>
    cases stage with
    | executing reservation => exact .inl ⟨rfl, .inl hstaged.1.2⟩
    | _ => exact .inl ⟨rfl, .inr rfl⟩
  | turn now outcome =>
    cases stage with
    | ready request =>
      exact .inl ⟨(prepare_settled w.store request now outcome).2.1, .inl hstaged.2⟩
    | cancelled reservation failure =>
      exact .inl ⟨record_receipts h.orderly reservation failure now outcome, .inl hstaged.2⟩
    | beginning reservation =>
      simp only [Execution.proceed]
      rcases begin_settled w.store reservation now outcome with
        ⟨e, hsettle⟩ | ⟨version, current, _, hsettle⟩
      · rw [hsettle]
        exact .inl ⟨rfl, .inl hstaged.2⟩
      · rw [hsettle]
        exact .inl ⟨rfl, .inl hstaged.2⟩
    | failing reservation failure =>
      exact .inl ⟨record_receipts h.orderly reservation failure now outcome, .inl hstaged.1.2⟩
    | committing reservation verified =>
      simp only [Execution.proceed]
      rcases commit_settled platform w.store reservation verified now outcome with
        ⟨answer, hsettle, hwrote⟩ | ⟨version, current, _, hsettle⟩ |
        ⟨version, current, state, receipt, hwritten, hsettle⟩
      · rw [hsettle]
        exact .inl ⟨rfl, .inl hwrote⟩
      · rw [hsettle]
        exact .inl ⟨rfl, .inl rfl⟩
      · rw [hsettle]
        refine .inr ⟨rfl, reservation, current, verified, now, receipt, rfl, hwritten, rfl, ?_⟩
        exact if_pos hwritten.fresh
    | _ => exact .inl ⟨rfl, .inr rfl⟩

variable {y : Execution Value} {now : Time} {receipt : Receipt}

theorem Written.evidence (ho : Orderly s) {current : Reservation} {verified : VerifiedTransition}
    (h : Written s reservation current verified now receipt)
    (hheld : Held s (attemptKey reservation)) (hx : x.began = some (attemptKey reservation))
    (hy : y.began = x.began) : CommittedEvidence y receipt := by
  obtain ⟨r, hlookup, _, attempt, hmem, hnumber, hopen, hkind⟩ :=
    hheld current h.holds.lookup h.holds.generation
  cases Option.mem_unique h.holds.lookup hlookup
  refine ⟨latestAttemptNumber reservation, ?_, _, h.closes hmem, ?_⟩
  · rw [hy, hx, h.clientCommandID, h.generation, ho.keyed _ _ h.holds.lookup, h.holds.generation]
    rfl
  · have hactive : attempt.number = latestAttemptNumber reservation := hnumber
    rw [finishCommitted_active hactive hopen, h.disposition]
    dsimp only
    exact ⟨hactive, rfl, hkind, rfl, rfl⟩

structure Recorded (w₀ w : Workers Value) : Prop where
  sound : w.Sound
  held : ∀ (i : Nat) x reservation, w.executions[i]? = some x →
    x.stage.running = some reservation → Held w.store (attemptKey reservation)
  evident : Evident w₀ w

variable {w₀ : Workers Value}

theorem Evident.receipts (h : Evident w₀ w) (hreceipts : s'.receipts = w.store.receipts) :
    Evident w₀ ⟨s', w.executions⟩ := by
  refine ⟨fun i x receipt hx hcommitted => ?_, fun id receipt hlookup => ?_⟩
  · rw [hreceipts]
    exact h.committed i x receipt hx hcommitted
  · rw [hreceipts] at hlookup
    exact h.recorded id receipt hlookup

theorem Recorded.store (h : Recorded w₀ w) (hchange : Change platform w.store s')
    (hreceipts : s'.receipts = w.store.receipts) (hspares : ∀ key, Spares w.store s' key) :
    Recorded w₀ ⟨s', w.executions⟩ := by
  refine ⟨h.sound.store hchange, fun i x reservation hx hrunning => ?_,
    h.evident.receipts hreceipts⟩
  have hbegan := ((h.sound.staged i x hx).running hrunning).1
  exact (h.held i x reservation hx hrunning).kept
    (hchange.pending (h.sound.known i x _ hx hbegan)) (hspares _)

theorem Evident.kept (h : Evident w₀ w) (hx : w.executions[i]? = some x)
    (hreceipts : s'.receipts = w.store.receipts) (hy : y.committed = none ∨ y = x)
    (hidle : x.committed ≠ none → y = x) : Evident w₀ ⟨s', w.executions.set i y⟩ := by
  refine ⟨fun j z receipt hz hcommitted => ?_, fun id receipt hlookup => ?_⟩
  · rw [hreceipts]
    rcases getElem?_set_cases hx hz with ⟨_, rfl⟩ | ⟨_, hold⟩
    · rcases hy with hnone | rfl
      · cases hnone.symm.trans hcommitted
      · exact h.committed i _ receipt hx hcommitted
    · exact h.committed j z receipt hold hcommitted
  · rw [hreceipts] at hlookup
    rcases h.recorded id receipt hlookup with hold | ⟨j, z, hz, hcommitted⟩
    · exact .inl hold
    · refine .inr ⟨j, z, ?_, hcommitted⟩
      rw [List.getElem?_set]
      split
      · next heq =>
        subst heq
        cases Option.mem_unique hx hz
        rw [hidle (by rw [hcommitted]; exact Option.some_ne_none _),
          if_pos (List.getElem?_eq_some_iff.mp hx).1]
      · exact hz

theorem Evident.written (h : Evident w₀ w) (hx : w.executions[i]? = some x)
    (hid : receipt.clientCommandID = id) (hfresh : w.store.receipts.lookup id = none)
    (hreceipts : s'.receipts = w.store.receipts.insert id receipt) (hnone : x.committed = none)
    (hy : y.committed = some receipt) (hevidence : CommittedEvidence y receipt) :
    Evident w₀ ⟨s', w.executions.set i y⟩ := by
  have hi : i < w.executions.length := (List.getElem?_eq_some_iff.mp hx).1
  refine ⟨fun j z receipt' hz hcommitted => ?_, fun id' receipt' hlookup => ?_⟩
  · rw [hreceipts, lookup_insert_ite]
    rcases getElem?_set_cases hx hz with ⟨_, rfl⟩ | ⟨_, hold⟩
    · cases Option.mem_unique hy hcommitted
      exact ⟨if_pos hid, hevidence⟩
    · obtain ⟨hlookup, hother⟩ := h.committed j z receipt' hold hcommitted
      refine ⟨?_, hother⟩
      rw [if_neg]
      · exact hlookup
      · intro heq
        rw [heq, hfresh] at hlookup
        cases hlookup
  · rw [hreceipts, lookup_insert_ite] at hlookup
    split at hlookup
    · refine .inr ⟨i, y, List.getElem?_set_self hi, ?_⟩
      rw [hy, hlookup]
    · rcases h.recorded id' receipt' hlookup with hold | ⟨j, z, hz, hcommitted⟩
      · exact .inl hold
      · refine .inr ⟨j, z, ?_, hcommitted⟩
        rw [List.getElem?_set_ne]
        · exact hz
        · rintro rfl
          cases Option.mem_unique hx hz
          cases hnone.symm.trans hcommitted

theorem Staged.idle (h : Staged x) (hcommitted : x.committed ≠ none) (s : Store) (signal : Signal) :
    x.proceed platform s signal = (x, s) := by
  obtain ⟨stage, began, committed⟩ := x
  cases stage with
  | returned result => cases signal <;> rfl
  | ready | prepared | cancelled | beginning => exact absurd h.2 hcommitted
  | executing | failing | committing => exact absurd h.1.2 hcommitted

theorem Recorded.proceed (h : Recorded w₀ w) (hx : w.executions[i]? = some x)
    (htrespass : ¬ (WorkerEvent.proceed i signal).Trespasses w) :
    Recorded w₀ ⟨(x.proceed platform w.store signal).2,
      w.executions.set i (x.proceed platform w.store signal).1⟩ := by
  have hstaged := h.sound.staged i x hx
  have hproceeded := proceed_proceeded platform h.sound.orderly hstaged signal
  have hchange := hproceeded.change
  refine ⟨h.sound.proceeded hx hproceeded, fun j z reservation hz hrunning => ?_, ?_⟩
  · rcases getElem?_set_cases hx hz with ⟨rfl, rfl⟩ | ⟨hne, hold⟩
    · rcases h.sound.running hx hrunning with hclean | ⟨hsame, hstore⟩
      · exact fun _ _ _ => hclean
      · rw [hstore]
        exact h.held j x reservation hx hsame
    · have hbegan := ((h.sound.staged j z hold).running hrunning).1
      refine (h.held j z reservation hold hrunning).kept
        (hchange.pending (h.sound.known j z _ hold hbegan)) (h.sound.spares hx htrespass ?_)
      exact fun heq => hne (h.sound.distinct j i z x _ hold hx hbegan heq)
  · rcases h.sound.wrote platform hx signal with ⟨hreceipts, hy⟩ | hwrote
    · refine h.evident.kept hx hreceipts hy fun hcommitted => ?_
      rw [hstaged.idle hcommitted]
    · obtain ⟨reservation, current, verified, now, receipt, hrunning, hwritten, hreceipts, hy⟩ :=
        hwrote.writes
      obtain ⟨hbegan, hnone⟩ := hstaged.running hrunning
      exact h.evident.written hx hwritten.clientCommandID
        (by rw [h.sound.orderly.keyed _ _ hwritten.holds.lookup]; exact hwritten.fresh) hreceipts
        hnone hy (hwritten.evidence h.sound.orderly (h.held i x reservation hx hrunning) hbegan
          hwrote.began)

variable {e : WorkerEvent Value}

theorem Recorded.next (h : Recorded w₀ w) (htrespass : ¬ e.Trespasses w) :
    Recorded w₀ (w.next platform e) := by
  cases e with
  | execute request =>
    refine ⟨h.sound.next platform (.execute request),
      fun i x reservation hx hrunning => ?_, fun i x receipt hx hcommitted => ?_,
      fun id receipt hlookup => ?_⟩
    · rcases getElem?_concat_cases hx with hold | rfl
      · exact h.held i x reservation hold hrunning
      · cases hrunning
    · rcases getElem?_concat_cases hx with hold | rfl
      · exact h.evident.committed i x receipt hold hcommitted
      · cases hcommitted
    · rcases h.evident.recorded id receipt hlookup with hold | ⟨i, x, hx, hcommitted⟩
      · exact .inl hold
      · refine .inr ⟨i, x, ?_, hcommitted⟩
        exact (List.getElem?_append_left (List.getElem?_eq_some_iff.mp hx).1).trans hx
  | proceed i signal =>
    cases hx : w.executions[i]? with
    | none =>
      simp only [Workers.next, hx]
      exact h
    | some x =>
      rw [next_proceed hx]
      exact h.proceed hx htrespass
  | takeover clientCommandID generation reason now outcome =>
    refine h.store (takeover_change h.sound.orderly clientCommandID reason generation now outcome)
      ?_ (takeover_spares h.sound.orderly clientCommandID reason generation now outcome)
    rcases takeover_settled platform w.store clientCommandID reason generation now
      outcome with hsame | ⟨version, current, _, hs'⟩
    · rw [hsame]
    · rw [hs']
      rfl
  | abort clientCommandID generation reason now outcome =>
    refine h.store
      (abort_change platform h.sound.orderly clientCommandID reason generation now outcome) ?_
      (abort_spares w.store clientCommandID reason generation now outcome)
    rcases abort_settled w.store clientCommandID reason generation now outcome with
      hsame | ⟨version, current, _, hs'⟩
    · rw [hsame]
    · rw [hs']
      rfl

variable {events : List (WorkerEvent Value)}

theorem recorded_of_run (hinit : (workers platform).init w₀)
    (hrun : Run (orderlyWorkers platform) w₀ events w) : Recorded w₀ w := by
  refine hrun.invariant (I := Recorded w₀) ?_ ⟨sound_of_init hinit, ?_, ?_, fun _ _ h => .inl h⟩
  · rintro w e _ hrecorded ⟨rfl, htrespass⟩
    exact hrecorded.next htrespass
  · simp [hinit.1]
  · simp [hinit.1]

theorem attempt_evidence (platform : Platform Value) :
    (∀ w e, Reachable (workers platform) w →
      (RespectsAttempts w e (w.next platform e) ↔ ¬ e.Trespasses w)) ∧
    ∀ w₀ events w, (workers platform).init w₀ → Run (orderlyWorkers platform) w₀ events w →
      Evident w₀ w := by
  refine ⟨fun w e hreachable => ?_, fun w₀ events w hinit hrun => (recorded_of_run hinit hrun).evident⟩
  have hsound := Workers.sound_of_reachable hreachable
  exact ⟨fun hrespects htrespass => hsound.trespasses htrespass hrespects, hsound.respects⟩

def Workers.after (platform : Platform Value) (w : Workers Value)
    (events : List (WorkerEvent Value)) : Workers Value :=
  events.foldl (Workers.next platform) w

theorem run_after (w : Workers Value) (events : List (WorkerEvent Value)) :
    Run (workers platform) w events (w.after platform events) := by
  induction events generalizing w with
  | nil => exact .nil w
  | cons e rest ih => exact .cons rfl (ih (w.next platform e))

def Stage.cancelling : Stage Value → Option Reservation
  | .cancelled reservation _ => some reservation
  | _ => none

def Workers.calm (w : Workers Value) : Bool :=
  w.executions.all fun x => x.stage.cancelling.isNone

theorem Workers.not_trespasses (h : w.calm = true) (e : WorkerEvent Value) : ¬ e.Trespasses w := by
  rintro ⟨index, now, version, x, reservation, failure, _, hx, hstage, _⟩
  have hnone := List.all_eq_true.mp h x (List.mem_of_getElem? hx)
  rw [hstage] at hnone
  cases hnone

def Workers.staysCalm (platform : Platform Value) (w : Workers Value) :
    List (WorkerEvent Value) → Bool
  | [] => true
  | e :: rest => w.calm && (w.next platform e).staysCalm platform rest

theorem calm_after (h : w.staysCalm platform (events ++ [e]) = true) :
    (w.after platform events).calm = true := by
  induction events generalizing w with
  | nil => exact (Bool.and_eq_true_iff.mp h).1
  | cons first rest ih => exact ih (Bool.and_eq_true_iff.mp h).2

theorem orderly_after (h : w.staysCalm platform events = true) :
    Run (orderlyWorkers platform) w events (w.after platform events) := by
  induction events generalizing w with
  | nil => exact .nil w
  | cons e rest ih =>
    obtain ⟨hcalm, hrest⟩ := Bool.and_eq_true_iff.mp h
    exact .cons ⟨rfl, Workers.not_trespasses hcalm e⟩ (ih hrest)

theorem trespasses_of_open {index : Nat} {version : GoString}
    (hnow : now.isZero = false ∧ 0 ≤ now.unix)
    (h : ((w.executions[index]?.bind (·.stage.cancelling)).any w.store.namesOpenAttempt) = true) :
    (WorkerEvent.proceed index (.turn now (.ok version))).Trespasses w := by
  obtain ⟨reservation, hcancelling, hnamed⟩ := (Option.any_eq_true _ _).mp h
  obtain ⟨x, hx, hstage⟩ := Option.bind_eq_some_iff.mp hcancelling
  obtain ⟨stage, began, committed⟩ := x
  cases stage with
  | cancelled r failure =>
    obtain rfl := Option.some.inj hstage
    exact ⟨index, now, version, _, r, failure, rfl, hx, rfl, hnow, hnamed⟩
  | _ => cases hstage

def evidencePlatform : Platform GoString :=
  { samplePlatform with codec := { sampleCodec with verify := fun _ _ _ => .ok sampleVerified } }

def sampleWorkers : Workers GoString := ⟨(sampleStart 1).store, []⟩

def sampleTurn (index : Nat) (now : Int64) : WorkerEvent GoString :=
  .proceed index (.turn ⟨now, 0⟩ (.ok (str "2")))

def executingEvents : List (WorkerEvent GoString) :=
  [.execute (sampleRequest 1), sampleTurn 0 100, .proceed 0 (.context none), sampleTurn 0 101]

def committingEvents : List (WorkerEvent GoString) :=
  executingEvents ++ [.proceed 0 (.response none (.ok []))]

def cancelledEvents : List (WorkerEvent GoString) :=
  executingEvents ++
    [.execute (sampleRequest 1), sampleTurn 1 102, .proceed 1 (.context (some .canceled))]

theorem sample_workers : (workers evidencePlatform).init sampleWorkers :=
  ⟨rfl, .inl ⟨sampleInitial 1, str "1", bind_ok.mpr ⟨(), by decide +kernel, rfl⟩⟩⟩

def Workers.opens (w : Workers GoString) (index : Nat) : Bool :=
  (w.executions[index]?.bind (·.stage.cancelling)).any w.store.namesOpenAttempt

def Workers.committedKinds (w : Workers GoString) (index : Nat) : Option (List GoString) :=
  (w.executions[index]?.bind (·.committed)).map fun receipt =>
    receipt.attempts.map (·.failureKind)

theorem sample_runs :
    sampleWorkers.staysCalm evidencePlatform (committingEvents ++ [sampleTurn 0 102]) = true ∧
    (sampleWorkers.after evidencePlatform cancelledEvents).opens 1 = true ∧
    (sampleWorkers.after evidencePlatform (cancelledEvents ++ [sampleTurn 1 103,
      .proceed 0 (.response none (.ok [])), sampleTurn 0 104])).committedKinds 0 =
        some [failureCancelled] := by
  decide +kernel

theorem attempt_evidence_sample :
    RespectsAttempts (sampleWorkers.after evidencePlatform committingEvents) (sampleTurn 0 102)
      ((sampleWorkers.after evidencePlatform committingEvents).next evidencePlatform
        (sampleTurn 0 102)) ∧
    Evident sampleWorkers
      (sampleWorkers.after evidencePlatform (committingEvents ++ [sampleTurn 0 102])) := by
  obtain ⟨hsteps, hruns⟩ := attempt_evidence evidencePlatform
  have hcalm := sample_runs.1
  exact ⟨(hsteps _ _ ⟨_, _, sample_workers, run_after _ _⟩).mpr
      (Workers.not_trespasses (calm_after hcalm) _),
    hruns _ _ _ sample_workers (orderly_after hcalm)⟩

theorem cancelled_worker_closes_attempt :
    Reachable (workers evidencePlatform) (sampleWorkers.after evidencePlatform cancelledEvents) ∧
    ¬ RespectsAttempts (sampleWorkers.after evidencePlatform cancelledEvents) (sampleTurn 1 103)
      ((sampleWorkers.after evidencePlatform cancelledEvents).next evidencePlatform
        (sampleTurn 1 103)) ∧
    ((sampleWorkers.after evidencePlatform (cancelledEvents ++ [sampleTurn 1 103,
      .proceed 0 (.response none (.ok [])), sampleTurn 0 104])).executions[0]?.bind
        (·.committed)).map (fun receipt => receipt.attempts.map (·.failureKind)) =
          some [failureCancelled] := by
  have hreachable : Reachable (workers evidencePlatform)
      (sampleWorkers.after evidencePlatform cancelledEvents) :=
    ⟨_, _, sample_workers, run_after _ _⟩
  refine ⟨hreachable, (Workers.sound_of_reachable hreachable).trespasses ?_, sample_runs.2.2⟩
  exact trespasses_of_open (by decide) sample_runs.2.1

end WorldCommand
