import TrillionniumGame.Runtime.WorldCommand.Attempts

namespace WorldCommand
open Checks FiniteMap GoText Runs

variable {Value : Type} {platform : Platform Value}

structure Workers.Sound (w : Workers Value) : Prop where
  orderly : Orderly w.store
  staged : ∀ (i : Nat) x, w.executions[i]? = some x → Staged x
  known : ∀ (i : Nat) x key, w.executions[i]? = some x → x.began = some key → Known w.store key
  distinct : ∀ (i j : Nat) x y key, w.executions[i]? = some x → w.executions[j]? = some y →
    x.began = some key → y.began = some key → i = j

variable {α : Type} {i : Nat}

theorem getElem?_set_cases {xs : List α} {j : Nat} {x y z : α} (hx : xs[i]? = some x)
    (hz : (xs.set i y)[j]? = some z) : (j = i ∧ z = y) ∨ (j ≠ i ∧ xs[j]? = some z) := by
  rw [List.getElem?_set] at hz
  split at hz
  · next heq =>
    rw [if_pos (List.getElem?_eq_some_iff.mp hx).1] at hz
    exact .inl ⟨heq.symm, (Option.some.inj hz).symm⟩
  · next hne => exact .inr ⟨fun heq => hne heq.symm, hz⟩

theorem getElem?_concat_cases {xs : List α} {x y : α} (hx : (xs ++ [y])[i]? = some x) :
    xs[i]? = some x ∨ x = y := by
  rw [List.getElem?_append] at hx
  split at hx
  · exact .inl hx
  · exact .inr (List.mem_singleton.mp (List.mem_of_getElem? hx))

variable {w : Workers Value} {x : Execution Value} {s' : Store}

theorem Workers.Sound.proceeded (h : w.Sound) {y : Execution Value}
    (hx : w.executions[i]? = some x) (hy : Proceeded platform w.store x y s') :
    Workers.Sound ⟨s', w.executions.set i y⟩ := by
  have hfresh : ∀ j z key, j ≠ i → w.executions[j]? = some z → z.began = some key →
      y.began ≠ some key := by
    intro j z key hne hz hzkey hykey
    rcases hy.began with hsame | ⟨key', hkey', _, hunknown⟩
    · exact hne (h.distinct j i z x key hz hx hzkey (hsame ▸ hykey))
    · obtain rfl := Option.mem_unique hkey' hykey
      exact hunknown (h.known j z key' hz hzkey)
  refine ⟨hy.change.orderly h.orderly, ?_, ?_, ?_⟩
  · intro j z hz
    rcases getElem?_set_cases hx hz with ⟨_, rfl⟩ | ⟨_, hold⟩
    · exact hy.staged
    · exact h.staged j z hold
  · intro j z key hz hkey
    rcases getElem?_set_cases hx hz with ⟨_, rfl⟩ | ⟨_, hold⟩
    · rcases hy.began with hsame | ⟨key', hkey', hknown, _⟩
      · exact (h.known i x key hx (hsame ▸ hkey)).change hy.change
      · cases Option.mem_unique hkey' hkey
        exact hknown
    · exact (h.known j z key hold hkey).change hy.change
  · intro j k z z' key hz hz' hkey hkey'
    rcases getElem?_set_cases hx hz with ⟨rfl, rfl⟩ | ⟨hj, hold⟩
    · rcases getElem?_set_cases hx hz' with ⟨rfl, rfl⟩ | ⟨hk, hold'⟩
      · rfl
      · exact absurd hkey (hfresh k z' key hk hold' hkey')
    · rcases getElem?_set_cases hx hz' with ⟨rfl, rfl⟩ | ⟨hk, hold'⟩
      · exact absurd hkey' (hfresh j z key hj hold hkey)
      · exact h.distinct j k z z' key hold hold' hkey hkey'

theorem Workers.Sound.store (h : w.Sound) (hchange : Change platform w.store s') :
    Workers.Sound { w with store := s' } :=
  ⟨hchange.orderly h.orderly, h.staged,
    fun i x key hx hkey => (h.known i x key hx hkey).change hchange, h.distinct⟩

variable {s : Store}

theorem takeover_change (ho : Orderly s) (clientCommandID reason : GoString) (generation : Nat)
    (now : Time) (outcome : Except StoreError GoString) :
    Change platform s
      (s.settle (s.takeover platform clientCommandID generation reason now) outcome).2 := by
  rcases takeover_settled platform s clientCommandID reason generation now outcome with
    hsame | ⟨version, current, hcurrent, hs'⟩
  · rw [hsame]
    exact .same
  · rw [hs']
    cases ho.keyed _ _ hcurrent
    exact .takenOver version current reason now hcurrent

theorem abort_change (platform : Platform Value) (ho : Orderly s)
    (clientCommandID reason : GoString) (generation : Nat) (now : Time)
    (outcome : Except StoreError GoString) :
    Change platform s
      (s.settle (s.abort clientCommandID generation reason now) outcome).2 := by
  rcases abort_settled s clientCommandID reason generation now outcome with
    hsame | ⟨version, current, hcurrent, hs'⟩
  · rw [hsame]
    exact .same
  · rw [hs']
    cases ho.keyed _ _ hcurrent
    exact .retired version current _ _ now hcurrent

theorem Workers.Sound.next (h : w.Sound) (platform : Platform Value) (e : WorkerEvent Value) :
    (w.next platform e).Sound := by
  cases e with
  | execute request =>
    refine ⟨h.orderly, fun i x hx => ?_, fun i x key hx hkey => ?_,
      fun i j x y key hx hy hkey hkey' => ?_⟩
    · rcases getElem?_concat_cases hx with hold | rfl
      · exact h.staged i x hold
      · exact ⟨rfl, rfl⟩
    · rcases getElem?_concat_cases hx with hold | rfl
      · exact h.known i x key hold hkey
      · cases hkey
    · rcases getElem?_concat_cases hx with hold | rfl
      · rcases getElem?_concat_cases hy with hold' | rfl
        · exact h.distinct i j x y key hold hold' hkey hkey'
        · cases hkey'
      · cases hkey
  | proceed i signal =>
    simp only [Workers.next]
    cases hx : w.executions[i]? with
    | none => exact h
    | some x =>
      exact h.proceeded hx (proceed_proceeded platform h.orderly (h.staged i x hx) signal)
  | takeover clientCommandID generation reason now outcome =>
    exact h.store (takeover_change h.orderly clientCommandID reason generation now outcome)
  | abort clientCommandID generation reason now outcome =>
    exact h.store (abort_change platform h.orderly clientCommandID reason generation now outcome)

theorem validateAttemptsFrom_numbered {requireFinished : Bool} {attempts : List Attempt}
    {start : Nat} (h : validateAttemptsFrom requireFinished start attempts = .ok ()) :
    ∀ (i : Nat) attempt, attempts[i]? = some attempt → attempt.number = start + i + 1 := by
  induction attempts generalizing start with
  | nil => exact fun _ _ hget => nomatch hget
  | cons first rest ih =>
    simp only [validateAttemptsFrom, bind_ok] at h
    obtain ⟨_, hfirst, hrest⟩ := h
    simp only [validateAttempt, bind_ok, require_ok] at hfirst
    obtain ⟨_, ⟨hnumber, _⟩, _⟩ := hfirst
    rintro (_ | i) attempt hget
    · cases hget
      exact hnumber
    · rw [ih hrest i attempt hget]
      omega

variable {version : GoString}

theorem orderly_newStore {initial : MatchState} (h : newStore platform initial version = .ok s) :
    Orderly s := by
  simp only [newStore, bind_ok] at h
  obtain ⟨_, _, h⟩ := h
  cases h
  constructor <;> intro _ _ hlookup <;> cases hlookup

theorem orderly_openStore {json : DocumentJson} {payload : GoString}
    (h : openStore platform json payload version = .ok s) : Orderly s := by
  simp only [openStore, Document.validateLocked, bind_ok, require_ok] at h
  obtain ⟨_, _, document, _, _, ⟨_, _, _, _, _, hreservations, _⟩, h⟩ := h
  cases h
  have hvalid : ∀ id r, document.reservations.lookup id = some r →
      validateReservation platform id r = .ok () := fun id r hlookup =>
    hreservations id (Finmap.mem_keys.mpr (mem_of_lookup hlookup)) r hlookup
  simp only [validateReservation, validateAttempts, bind_ok, require_ok, liftError_ok] at hvalid
  refine ⟨fun id r hlookup => ?_, fun id r hlookup => ?_⟩
  · obtain ⟨_, ⟨hid, _⟩, _⟩ := hvalid id r hlookup
    exact hid.symm
  · obtain ⟨_, _, _, _, _, _, _, _, hattempts⟩ := hvalid id r hlookup
    intro i attempt hget
    rw [validateAttemptsFrom_numbered hattempts i attempt hget]
    omega

theorem sound_of_init (h : (workers platform).init w) : w.Sound := by
  obtain ⟨hnone, hstore⟩ := h
  have horderly : Orderly w.store := by
    rcases hstore with ⟨_, _, hnew⟩ | ⟨_, _, _, hopen⟩
    · exact orderly_newStore hnew
    · exact orderly_openStore hopen
  refine ⟨horderly, ?_, ?_, ?_⟩ <;> simp [hnone]

theorem Workers.sound_of_reachable (h : Reachable (workers platform) w) : w.Sound := by
  refine h.invariant (I := Workers.Sound) (fun _ hinit => sound_of_init hinit) ?_
  rintro w e _ hsound rfl
  exact hsound.next platform e

variable {P : Attempt → Prop} {reservation : Reservation} {failure : ExecutionError} {now : Time}
  {key : AttemptKey}

theorem Closed.keeps (h : Closed s reservation failure now version s') (ho : Orderly s)
    (hattempt : AttemptAt P s key) : AttemptAt P s' key ∨ ∃ current, Holds s reservation current ∧
      key = ⟨current.clientCommandID, current.generation, namedAttempt reservation current⟩ := by
  obtain ⟨current, index, attempt, hcurrent, hfound, hget, hnumber, _, rfl⟩ := h.closes
  have hown := hcurrent.own ho
  have hnumbered := ho.numbered _ _ hown
  obtain ⟨id, generation, number⟩ := key
  by_cases hnamed : (⟨id, generation, number⟩ : AttemptKey) =
    ⟨current.clientCommandID, current.generation, namedAttempt reservation current⟩
  · exact .inr ⟨current, hcurrent, hnamed⟩
  refine .inl (hattempt.insert (r := failed current current.attempts index failure now) rfl
    fun hid current' hlookup => ?_)
  obtain rfl : current.clientCommandID = id := hid
  cases Option.mem_unique hown hlookup
  refine ⟨rfl, fun old hmem hold hP => ?_⟩
  obtain ⟨j, hj⟩ := List.mem_iff_getElem?.mp hmem
  have hne : index ≠ j := by
    rintro rfl
    obtain ⟨current'', hlookup'', hgeneration, _⟩ := hattempt
    cases Option.mem_unique hown hlookup''
    rw [hj, Option.some.injEq] at hget
    refine hnamed ?_
    rw [← hnumber, ← hget]
    dsimp only at hold hgeneration
    rw [hold, hgeneration]
  refine ⟨old, List.mem_iff_getElem?.mpr ⟨j, ?_⟩, hold, hP⟩
  simp only [failed, List.getElem?_modify, hj, if_neg hne]
  rfl

theorem Closed.shuts (h : Closed s reservation failure now version s') (ho : Orderly s) :
    ∃ key, OpenAt s key ∧ ¬ OpenAt s' key := by
  obtain ⟨current, index, attempt, hcurrent, _, hget, hnumber, hopen, rfl⟩ := h.closes
  have hown := hcurrent.own ho
  have hnumbered := ho.numbered _ _ hown
  refine ⟨⟨current.clientCommandID, current.generation, attempt.number⟩,
    ⟨current, hown, rfl, attempt, List.mem_of_getElem? hget, rfl, hopen⟩, ?_⟩
  rintro ⟨r, hlookup, _, other, hmem, hsame, hotherOpen⟩
  obtain rfl : r = failed current current.attempts index failure now :=
    (Option.mem_unique (Finmap.lookup_insert _) hlookup).symm
  obtain ⟨j, hj⟩ := List.mem_iff_getElem?.mp hmem
  simp only [failed, List.getElem?_modify] at hj
  obtain ⟨old, hold, rfl⟩ := Option.map_eq_some_iff.mp hj
  have hindex := hnumbered index attempt hget
  have hold' := hnumbered j old hold
  split at hotherOpen
  · cases hotherOpen
  · next hne =>
    rw [if_neg hne] at hsame
    dsimp only at hsame
    omega

theorem Noted.keeps (h : Noted s reservation failure now version s') (ho : Orderly s)
    (hattempt : AttemptAt P s key) : AttemptAt P s' key := by
  obtain ⟨current, hcurrent, rfl⟩ := h.notes
  exact hattempt.appended (hcurrent.own ho) rfl rfl rfl rfl

theorem Closed.named (h : Closed s reservation failure now version s') :
    s.namesOpenAttempt reservation = true := by
  obtain ⟨current, index, _, hcurrent, hfound, _⟩ := h.closes
  unfold Store.namesOpenAttempt
  rw [requireReservation_ok.mpr hcurrent]
  change (findOpenAttempt current.attempts (namedAttempt reservation current)).toOption.isSome = true
  rw [hfound]
  rfl

theorem closed_of_named (ho : Orderly s) (hnamed : s.namesOpenAttempt reservation = true)
    (hnow : now.isZero = false ∧ 0 ≤ now.unix) (failure : ExecutionError) (version : GoString) :
    Closed s reservation failure now version
      (s.settle (s.recordFailure reservation (some failure) now) (.ok version)).2 := by
  unfold Store.namesOpenAttempt at hnamed
  cases hrequired : s.requireReservation reservation with
  | error e => simp [hrequired] at hnamed
  | ok current =>
    have hcurrent := requireReservation_ok.mp hrequired
    rw [hrequired] at hnamed
    change (findOpenAttempt current.attempts (namedAttempt reservation current)).toOption.isSome =
      true at hnamed
    cases hfound : findOpenAttempt current.attempts (namedAttempt reservation current) with
    | error e => simp [hfound, Except.toOption] at hnamed
    | ok index =>
      obtain ⟨attempt, hget, hnumber, hopen⟩ := findOpenAttempt_ok hfound
      rw [recordFailure_closes hcurrent (ho.numbered _ _ hcurrent.lookup) hnow hfound]
      exact ⟨hnow, current, index, attempt, hcurrent, hfound, hget, hnumber, hopen, rfl⟩

variable {verified : VerifiedTransition} {attempt : Attempt}

theorem Written.closes {current : Reservation} {receipt : Receipt}
    (h : Written s reservation current verified now receipt) (hmem : attempt ∈ current.attempts) :
    finishCommitted (latestAttemptNumber reservation) verified.disposition now attempt ∈
      receipt.attempts := by
  rw [h.attempts, committedReservation, finishCommittedAttempts,
    if_neg (List.ne_nil_of_mem hmem)]
  exact List.mem_map_of_mem hmem

variable {activeAttempt : Nat} {disposition : GoString}

theorem finishCommitted_other (hother : attempt.number ≠ activeAttempt)
    (hopen : attempt.finishedAtUnix = none) :
    finishCommitted activeAttempt disposition now attempt = { attempt with
      finishedAtUnix := some now.unix
      failureKind := failureSuperseded
      retryable := false
      detail := str "superseded by committed result" } := by
  rw [finishCommitted, if_neg hother, Attempt.close, hopen]
  rfl

theorem finishCommitted_active (hactive : attempt.number = activeAttempt)
    (hopen : attempt.finishedAtUnix = none) :
    finishCommitted activeAttempt disposition now attempt = { attempt with
      finishedAtUnix := some now.unix
      retryable := false
      detail := boundedDetail (str "committed " ++ disposition) } := by
  rw [finishCommitted, if_pos hactive, Attempt.close, hopen]
  rfl

theorem next_proceed (hx : w.executions[i]? = some x) (signal : Signal) :
    w.next platform (.proceed i signal) =
      ⟨(x.proceed platform w.store signal).2,
        w.executions.set i (x.proceed platform w.store signal).1⟩ := by
  simp only [Workers.next, hx]

theorem committing_entitled (ho : Orderly s) (now : Time) (outcome : Except StoreError GoString)
    (hopen : OpenAt s key)
    (hclosed : ¬ OpenAt (s.settle (s.commitWith platform reservation verified now) outcome).2 key) :
    attemptKey reservation = key ∨
      SupersededAt (s.settle (s.commitWith platform reservation verified now) outcome).2 key ∨
      RetiredStale (s.settle (s.commitWith platform reservation verified now) outcome).2 key := by
  rcases commit_settled platform s reservation verified now outcome with
    ⟨answer, h, _⟩ | ⟨version, current, hcurrent, h⟩ |
    ⟨version, current, state, receipt, hwritten, h⟩
  · rw [h] at hclosed
    exact absurd hopen hclosed
  · rw [h] at hclosed ⊢
    have hown := hcurrent.own ho
    by_cases hid : key.clientCommandID = current.clientCommandID
    · obtain ⟨r, hlookup, hgeneration, _⟩ := hopen
      cases Option.mem_unique hown (hid ▸ hlookup)
      refine .inr (.inr ⟨Store.retiredReservation current failureStale
        (str "stale authority or deterministic state")
        (str "stale authority or deterministic state") now, ?_, hgeneration, rfl⟩)
      have hretired := retiredGenerations_append s current.clientCommandID key.clientCommandID
        (Store.retiredReservation current failureStale
          (str "stale authority or deterministic state")
          (str "stale authority or deterministic state") now)
      rw [if_pos hid] at hretired
      have hmem := List.mem_append_right (s.retiredGenerations key.clientCommandID)
        (List.mem_singleton_self (Store.retiredReservation current failureStale
          (str "stale authority or deterministic state")
          (str "stale authority or deterministic state") now))
      rw [← hretired] at hmem
      exact hmem
    · exact absurd (hopen.erase rfl hid) hclosed
  · rw [h] at hclosed ⊢
    have hown := hwritten.holds.own ho
    by_cases hid : key.clientCommandID = current.clientCommandID
    · obtain ⟨r, hlookup, hgeneration, attempt, hmem, hnumber, hunfinished⟩ := hopen
      cases Option.mem_unique hown (hid ▸ hlookup)
      by_cases hactive : attempt.number = latestAttemptNumber reservation
      · refine .inl ?_
        obtain ⟨id, generation, number⟩ := key
        dsimp only at hid hgeneration hnumber
        rw [attemptKey, ← hwritten.holds.generation, hid, ← hgeneration, ← hnumber, hactive,
          ho.keyed _ _ hwritten.holds.lookup]
      · refine .inr (.inl ⟨receipt, ?_, hwritten.generation.trans hgeneration, _,
          hwritten.closes hmem, ?_⟩)
        · change (s.receipts.insert current.clientCommandID receipt).lookup key.clientCommandID = _
          rw [hid]
          exact Finmap.lookup_insert _
        · rw [finishCommitted_other hactive hunfinished]
          exact ⟨hnumber, rfl, rfl⟩
    · exact absurd (hopen.erase rfl hid) hclosed

theorem Workers.Sound.cancelled_keeps (h : w.Sound) {outcome : Except StoreError GoString}
    (hx : w.executions[i]? = some x) (hstage : x.stage = .cancelled reservation failure)
    (htrespass : ¬ (WorldCommand.WorkerEvent.proceed i (.turn now outcome)).Trespasses w)
    (hopen : AttemptAt P w.store key) :
    AttemptAt P (w.store.settle (w.store.recordFailure reservation (some failure) now) outcome).2
      key := by
  rcases record_settled h.orderly reservation failure now outcome with
    hsame | ⟨version, rfl, hclosed | hnoted⟩
  · rw [hsame]
    exact hopen
  · exact absurd ⟨i, now, version, x, reservation, failure, rfl, hx, hstage, hclosed.time,
      hclosed.named⟩ htrespass
  · exact hnoted.keeps h.orderly hopen

theorem Workers.Sound.entitled (h : w.Sound) (hx : w.executions[i]? = some x) {signal : Signal}
    (htrespass : ¬ (WorkerEvent.proceed i signal).Trespasses w) (hopen : OpenAt w.store key)
    (hclosed : ¬ OpenAt (x.proceed platform w.store signal).2 key) :
    x.began = some key ∨ ∃ reservation verified, x.stage = .committing reservation verified ∧
      (SupersededAt (x.proceed platform w.store signal).2 key ∨
        RetiredStale (x.proceed platform w.store signal).2 key) := by
  have hstaged := h.staged i x hx
  obtain ⟨stage, began, committed⟩ := x
  have hidle : (Execution.proceed platform w.store ⟨stage, began, committed⟩ signal).2 = w.store →
      False := fun hsame => hclosed (by rw [hsame]; exact hopen)
  cases signal with
  | context err =>
    cases stage with
    | prepared reservation => cases err <;> exact (hidle rfl).elim
    | _ => exact (hidle rfl).elim
  | response ctx result => cases stage <;> exact (hidle rfl).elim
  | turn now outcome =>
    cases stage with
    | ready request => exact absurd ((prepare_settled w.store request now outcome).2.2 _ key hopen) hclosed
    | prepared reservation | executing reservation | returned result => exact (hidle rfl).elim
    | cancelled reservation failure =>
      exact absurd (h.cancelled_keeps hx rfl htrespass hopen) hclosed
    | beginning reservation =>
      simp only [Execution.proceed] at hclosed hidle
      rcases begin_settled w.store reservation now outcome with
        ⟨e, hsettle⟩ | ⟨version, current, hcurrent, hsettle⟩
      · rw [hsettle] at hidle
        exact (hidle rfl).elim
      · rw [hsettle] at hclosed
        exact absurd (hopen.appended (r := begun current now) (hcurrent.own h.orderly) rfl rfl rfl
          rfl) hclosed
    | failing reservation failure =>
      refine .inl ?_
      rcases record_settled h.orderly reservation failure now outcome with
        hsame | ⟨version, _, hrecorded | hnoted⟩
      · exact (hidle hsame).elim
      · rcases hrecorded.keeps h.orderly hopen with hkept | ⟨current, hcurrent, rfl⟩
        · exact absurd hkept hclosed
        rw [show began = some (attemptKey reservation) from hstaged.1.1, attemptKey,
          namedAttempt, if_neg hstaged.2, h.orderly.keyed _ _ hcurrent.lookup,
          hcurrent.generation]
      · exact absurd (hnoted.keeps h.orderly hopen) hclosed
    | committing reservation verified =>
      rcases committing_entitled h.orderly now outcome hopen hclosed with hown | hother
      · exact .inl (hstaged.1.1.trans (congrArg some hown))
      · exact .inr ⟨reservation, verified, rfl, hother⟩

variable {e : WorkerEvent Value}

theorem Workers.Sound.respects (h : w.Sound) (htrespass : ¬ e.Trespasses w) :
    RespectsAttempts w e (w.next platform e) := by
  intro key hopen hclosed
  cases e with
  | execute request => exact absurd hopen hclosed
  | proceed i signal =>
    cases hx : w.executions[i]? with
    | none =>
      simp only [Workers.next, hx] at hclosed
      exact absurd hopen hclosed
    | some x =>
      rw [next_proceed hx] at hclosed ⊢
      exact .inl ⟨i, signal, x, rfl, hx, h.entitled hx htrespass hopen hclosed⟩
  | takeover clientCommandID generation reason now outcome =>
    refine .inr ⟨generation, reason, now, outcome, .inl ?_⟩
    rcases takeover_settled platform w.store clientCommandID reason generation now
      outcome with hsame | ⟨version, current, hcurrent, hs'⟩
    · simp only [Workers.next, hsame] at hclosed
      exact absurd hopen hclosed
    · by_contra hne
      have hother : key.clientCommandID ≠ clientCommandID := fun heq => hne (by rw [heq])
      simp only [Workers.next, hs'] at hclosed
      cases h.orderly.keyed _ _ hcurrent
      exact hclosed (hopen.insert (r := successor platform current now) rfl fun hid =>
        absurd hid.symm hother)
  | abort clientCommandID generation reason now outcome =>
    refine .inr ⟨generation, reason, now, outcome, .inr ?_⟩
    rcases abort_settled w.store clientCommandID reason generation now
      outcome with hsame | ⟨version, current, hcurrent, hs'⟩
    · simp only [Workers.next, hsame] at hclosed
      exact absurd hopen hclosed
    · by_contra hne
      have hother : key.clientCommandID ≠ clientCommandID := fun heq => hne (by rw [heq])
      simp only [Workers.next, hs'] at hclosed
      cases h.orderly.keyed _ _ hcurrent
      exact hclosed (hopen.erase rfl hother)

theorem Workers.Sound.trespasses (h : w.Sound) (htrespass : e.Trespasses w) :
    ¬ RespectsAttempts w e (w.next platform e) := by
  obtain ⟨i, now, version, x, reservation, failure, rfl, hx, hstage, hnow, hnamed⟩ := htrespass
  have hclosed := closed_of_named h.orderly hnamed hnow failure version
  obtain ⟨key, hopen, hshut⟩ := hclosed.shuts h.orderly
  have hstaged := h.staged i x hx
  intro hrespects
  have hnext : (w.next platform (.proceed i (.turn now (.ok version)))).store =
      (w.store.settle (w.store.recordFailure reservation (some failure) now) (.ok version)).2 := by
    rw [next_proceed hx]
    simp only [Execution.proceed, hstage]
  rcases hrespects key hopen (by rw [hnext]; exact hshut) with
    ⟨j, signal, y, hevent, hy, hown | ⟨_, _, hcommitting, _⟩⟩ | ⟨_, _, _, _, hevent | hevent⟩
  · cases hevent
    cases Option.mem_unique hx hy
    simp only [Staged, hstage] at hstaged
    cases hstaged.1.symm.trans hown
  · cases hevent
    cases Option.mem_unique hx hy
    cases hstage.symm.trans hcommitting
  · cases hevent
  · cases hevent

end WorldCommand
