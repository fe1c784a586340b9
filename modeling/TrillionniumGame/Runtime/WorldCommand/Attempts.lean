import TrillionniumGame.Runtime.WorldCommand.Serial

namespace WorldCommand
open Checks FiniteMap GoText Runs

variable {Value : Type} {platform : Platform Value}

def Numbered (attempts : List Attempt) : Prop :=
  ∀ (i : Nat) attempt, attempts[i]? = some attempt → attempt.number = i + 1

theorem numbered_nil : Numbered [] := fun _ _ h => nomatch h

variable {attempts : List Attempt} {attempt : Attempt}

theorem Numbered.append (h : Numbered attempts) (hnumber : attempt.number = attempts.length + 1) :
    Numbered (attempts ++ [attempt]) := by
  intro i a hget
  rw [List.getElem?_append] at hget
  split at hget
  · exact h i a hget
  · next hlt =>
    obtain ⟨hzero, hsome⟩ := List.getElem?_eq_some_iff.mp hget
    simp only [List.length_singleton, Nat.lt_one_iff] at hzero
    simp only [hzero, List.getElem_cons_zero] at hsome
    rw [← hsome, hnumber]
    omega

theorem Numbered.modify (h : Numbered attempts) (index : Nat) {f : Attempt → Attempt}
    (hf : ∀ a, (f a).number = a.number) : Numbered (attempts.modify index f) := by
  intro i a hget
  rw [List.getElem?_modify] at hget
  obtain ⟨old, hold, rfl⟩ := Option.map_eq_some_iff.mp hget
  split
  · rw [hf, h i old hold]
  · exact h i old hold

variable {r : Reservation}

theorem Numbered.latest (h : Numbered r.attempts) : latestAttemptNumber r = r.attempts.length := by
  unfold latestAttemptNumber
  rw [List.getLast?_eq_getElem?]
  cases hlast : r.attempts[r.attempts.length - 1]? with
  | none =>
    have hlength := List.getElem?_eq_none_iff.mp hlast
    simp only [Option.map_none, Option.getD_none]
    omega
  | some last =>
    have hlt := (List.getElem?_eq_some_iff.mp hlast).1
    have hnumber := h _ _ hlast
    simp only [Option.map_some, Option.getD_some]
    omega

inductive Settled {α : Type} (s : Store) (planned : Except StoreError (Plan α))
    (outcome : Except StoreError GoString) : Except StoreError α → Store → Prop
  | kept (answer : Except StoreError α) :
      (∀ a, answer = .ok a → planned = .ok (.done a)) → Settled s planned outcome answer s
  | written (candidate : Document) (answer : Except StoreError α) (version : GoString) :
      planned = .ok (.write candidate answer) → outcome = .ok version →
      Settled s planned outcome answer (s.installDocument version candidate)
  | committed (candidate : Document) (a : α) (version : GoString) :
      planned = .ok (.commit candidate a) → outcome = .ok version →
      Settled s planned outcome (.ok a) (s.installDocument version candidate)

theorem settled {α : Type} (s : Store) (planned : Except StoreError (Plan α))
    (outcome : Except StoreError GoString) :
    Settled s planned outcome (s.settle planned outcome).1 (s.settle planned outcome).2 := by
  match planned, outcome with
  | .error e, _ => exact .kept _ fun _ h => nomatch h
  | .ok (.done a), _ => exact .kept _ fun _ h => by rw [Except.ok.inj h]
  | .ok (.write candidate answer), .error e => exact .kept _ fun _ h => nomatch h
  | .ok (.write candidate answer), .ok version => exact .written candidate answer version rfl rfl
  | .ok (.commit candidate a), .error e => exact .kept _ fun _ h => nomatch h
  | .ok (.commit candidate a), .ok version =>
    unfold Store.settle
    dsimp only
    split
    · exact .kept _ fun _ h => nomatch h
    · exact .committed candidate a version rfl rfl

def openAttempt (number : Nat) (now : Time) : Attempt := ⟨number, now.unix, none, [], [], false⟩

inductive Change (platform : Platform Value) (s : Store) : Store → Prop
  | same : Change platform s s
  | reserved (version : GoString) (r : Reservation) :
      s.receipts.lookup r.clientCommandID = none → s.reservations.lookup r.clientCommandID = none →
      r.attempts = [] →
      r.generation = Store.nextGeneration (s.retiredGenerations r.clientCommandID) →
      Change platform s (s.installDocument version (s.putReservation r))
  | begun (version : GoString) (current : Reservation) (now : Time) :
      s.reservations.lookup current.clientCommandID = some current →
      Change platform s (s.installDocument version (s.putReservation (begun current now)))
  | noted (version : GoString) (current : Reservation) (failure : ExecutionError) (now : Time) :
      s.reservations.lookup current.clientCommandID = some current →
      Change platform s (s.installDocument version (s.putReservation { current with
        attempts := current.attempts ++
          [(openAttempt (current.attempts.length + 1) now).fail failure now]
        updatedAtUnix := now.unix }))
  | closed (version : GoString) (current : Reservation) (index : Nat) (failure : ExecutionError)
      (now : Time) :
      s.reservations.lookup current.clientCommandID = some current →
      Change platform s (s.installDocument version
        (s.putReservation (failed current current.attempts index failure now)))
  | retired (version : GoString) (current : Reservation) (kind : FailureKind) (reason : GoString)
      (now : Time) :
      s.reservations.lookup current.clientCommandID = some current →
      Change platform s (s.installDocument version (s.retireDocument current kind reason now))
  | takenOver (version : GoString) (current : Reservation) (reason : GoString) (now : Time) :
      s.reservations.lookup current.clientCommandID = some current →
      Change platform s (s.installDocument version
        { s.cloneDocument with
          reservations := s.reservations.insert current.clientCommandID
            (successor platform current now)
          retired := s.retired.insert current.clientCommandID
            (s.retiredGenerations current.clientCommandID ++ [takenOver current reason now]) })
  | committed (version : GoString) (current : Reservation) (state : MatchState)
      (receipt : Receipt) :
      s.reservations.lookup current.clientCommandID = some current →
      s.receipts.lookup current.clientCommandID = none →
      receipt.clientCommandID = current.clientCommandID →
      receipt.generation = current.generation →
      Change platform s (s.installDocument version
        { s.cloneDocument with
          state
          reservations := s.reservations.erase current.clientCommandID
          receipts := s.receipts.insert current.clientCommandID receipt })

structure Orderly (s : Store) : Prop where
  keyed : ∀ id r, s.reservations.lookup id = some r → r.clientCommandID = id
  numbered : ∀ id r, s.reservations.lookup id = some r → Numbered r.attempts

variable {s s' : Store}

theorem Orderly.insert (h : Orderly s)
    (hreservations : s'.reservations = s.reservations.insert r.clientCommandID r)
    (hnumbered : Numbered r.attempts) : Orderly s' := by
  refine ⟨fun id r' hlookup => ?_, fun id r' hlookup => ?_⟩
  · rw [hreservations, lookup_insert_ite] at hlookup
    split at hlookup
    · next heq => rw [heq, Option.some.inj hlookup]
    · exact h.keyed id r' hlookup
  · rw [hreservations, lookup_insert_ite] at hlookup
    split at hlookup
    · rw [← Option.some.inj hlookup]
      exact hnumbered
    · exact h.numbered id r' hlookup

variable {id : GoString}

theorem Orderly.erase (h : Orderly s) (hreservations : s'.reservations = s.reservations.erase id) :
    Orderly s' := by
  have hold : ∀ id' r, s'.reservations.lookup id' = some r →
      s.reservations.lookup id' = some r := by
    intro id' r hlookup
    rw [hreservations, lookup_erase_ite] at hlookup
    split at hlookup
    · cases hlookup
    · exact hlookup
  exact ⟨fun id' r hlookup => h.keyed id' r (hold id' r hlookup),
    fun id' r hlookup => h.numbered id' r (hold id' r hlookup)⟩

theorem Change.orderly (h : Change platform s s') (ho : Orderly s) : Orderly s' := by
  cases h with
  | same => exact ho
  | reserved version r _ _ hattempts _ =>
    exact ho.insert rfl (by rw [hattempts]; exact numbered_nil)
  | begun version current now hlookup =>
    exact ho.insert (r := WorldCommand.begun current now) rfl
      ((ho.numbered _ _ hlookup).append rfl)
  | noted version current failure now hlookup =>
    exact ho.insert rfl ((ho.numbered _ _ hlookup).append rfl)
  | closed version current index failure now hlookup =>
    exact ho.insert (r := failed current current.attempts index failure now) rfl
      ((ho.numbered _ _ hlookup).modify index fun _ => rfl)
  | retired | committed => exact ho.erase rfl
  | takenOver version current reason now hlookup =>
    exact ho.insert (r := successor platform current now) rfl numbered_nil

def Known (s : Store) (key : AttemptKey) : Prop :=
  (∃ r, s.reservations.lookup key.clientCommandID = some r ∧ (key.generation < r.generation ∨
    (key.generation = r.generation ∧ key.number ≤ r.attempts.length))) ∨
  (s.reservations.lookup key.clientCommandID = none ∧
    (s.receipts.lookup key.clientCommandID ≠ none ∨
      ∃ retired ∈ s.retiredGenerations key.clientCommandID, key.generation ≤ retired.generation))

variable {key : AttemptKey}

theorem Known.insert (h : Known s key)
    (hreservations : s'.reservations = s.reservations.insert r.clientCommandID r)
    (hreceipts : s'.receipts = s.receipts) (hretired : s'.retired = s.retired)
    (hnew : r.clientCommandID = key.clientCommandID → key.generation < r.generation ∨
      (key.generation = r.generation ∧ key.number ≤ r.attempts.length)) : Known s' key := by
  unfold Known
  rw [hreservations, lookup_insert_ite]
  split
  · next heq => exact .inl ⟨r, rfl, hnew heq.symm⟩
  · rcases h with hpending | ⟨hnone, hgone⟩
    · exact .inl hpending
    · refine .inr ⟨hnone, ?_⟩
      rw [hreceipts, Store.retiredGenerations, hretired]
      exact hgone

theorem Known.erase (h : Known s key) (hreservations : s'.reservations = s.reservations.erase id)
    (hreceipts : key.clientCommandID ≠ id → s'.receipts.lookup key.clientCommandID =
      s.receipts.lookup key.clientCommandID)
    (hretired : ∀ retired ∈ s.retiredGenerations key.clientCommandID,
      retired ∈ s'.retiredGenerations key.clientCommandID)
    (hgone : ∀ r, key.clientCommandID = id → s.reservations.lookup key.clientCommandID = some r →
      s'.receipts.lookup key.clientCommandID ≠ none ∨
        ∃ retired ∈ s'.retiredGenerations key.clientCommandID, r.generation ≤ retired.generation)
    (hkept : s.receipts.lookup key.clientCommandID ≠ none →
      s'.receipts.lookup key.clientCommandID ≠ none) : Known s' key := by
  unfold Known
  rw [hreservations, lookup_erase_ite]
  split
  · next heq =>
    refine .inr ⟨rfl, ?_⟩
    rcases h with ⟨r, hlookup, horder⟩ | ⟨_, hreceipt | ⟨retired, hmem, hle⟩⟩
    · rcases hgone r heq hlookup with hreceipt | ⟨retired, hmem, hle⟩
      · exact .inl hreceipt
      · exact .inr ⟨retired, hmem, by omega⟩
    · exact .inl (hkept hreceipt)
    · exact .inr ⟨retired, hretired retired hmem, hle⟩
  · next hne =>
    rcases h with hpending | ⟨hnone, hreceipt | ⟨retired, hmem, hle⟩⟩
    · exact .inl hpending
    · exact .inr ⟨hnone, .inl (by rw [hreceipts hne]; exact hreceipt)⟩
    · exact .inr ⟨hnone, .inr ⟨retired, hretired retired hmem, hle⟩⟩

theorem Known.ordered (h : Known s key)
    (hlookup : s.reservations.lookup key.clientCommandID = some r) :
    key.generation < r.generation ∨
      (key.generation = r.generation ∧ key.number ≤ r.attempts.length) := by
  rcases h with ⟨old, hold, horder⟩ | ⟨hnone, _⟩
  · exact Option.mem_unique hold hlookup ▸ horder
  · cases hlookup.symm.trans hnone

theorem Known.change (h : Known s key) (hchange : Change platform s s') : Known s' key := by
  cases hchange with
  | same => exact h
  | reserved version r hreceipt hnone _ hgeneration =>
    refine h.insert (r := r) rfl rfl rfl fun hid => .inl ?_
    rcases h with ⟨old, hlookup, _⟩ | ⟨_, hgone | ⟨retired, hmem, hle⟩⟩
    · rw [← hid, hnone] at hlookup
      cases hlookup
    · rw [← hid, hreceipt] at hgone
      exact absurd rfl hgone
    · rw [hgeneration, hid]
      exact lt_of_le_of_lt hle (lt_nextGeneration hmem)
  | begun version current now hlookup =>
    refine h.insert (r := WorldCommand.begun current now) rfl rfl rfl fun hid => ?_
    have horder := h.ordered (hid ▸ hlookup)
    simp only [WorldCommand.begun, List.length_append]
    omega
  | noted version current failure now hlookup =>
    refine h.insert rfl rfl rfl fun hid => ?_
    have horder := h.ordered (hid ▸ hlookup)
    simp only [List.length_append]
    omega
  | closed version current index failure now hlookup =>
    refine h.insert (r := failed current current.attempts index failure now) rfl rfl rfl
      fun hid => ?_
    have horder := h.ordered (hid ▸ hlookup)
    simp only [failed, List.length_modify]
    omega
  | retired version current kind reason now hlookup =>
    have hretired : ∀ id, (s.installDocument version
        (s.retireDocument current kind reason now)).retiredGenerations id =
          s.retiredGenerations id ++ if id = current.clientCommandID then
            [Store.retiredReservation current kind reason reason now] else [] :=
      fun id => retiredGenerations_append s current.clientCommandID id _
    refine h.erase rfl (fun _ => rfl) (fun retired hmem => ?_) (fun r hid hr => .inr ?_)
      fun hkept => hkept
    · rw [hretired]
      exact List.mem_append_left _ hmem
    · rw [hid, hlookup] at hr
      refine ⟨Store.retiredReservation current kind reason reason now, ?_, ?_⟩
      · rw [hretired, if_pos hid]
        exact List.mem_append_right _ List.mem_cons_self
      · rw [← Option.some.inj hr]
        exact le_refl _
  | takenOver version current reason now hlookup =>
    unfold Known
    simp only [Store.installDocument, lookup_insert_ite]
    split
    · next hid =>
      refine .inl ⟨_, rfl, ?_⟩
      have horder := h.ordered (hid ▸ hlookup)
      simp only [successor, Store.stamp]
      omega
    · next hid =>
      rcases h with hpending | ⟨hnone, hgone⟩
      · exact .inl hpending
      · refine .inr ⟨hnone, hgone.imp id fun hretired => ?_⟩
        simp only [Store.retiredGenerations, lookup_insert_ite, if_neg hid]
        exact hretired
  | committed version current state receipt hlookup hreceipt hid =>
    have hreceipts : ∀ id', (s.receipts.insert current.clientCommandID receipt).lookup id' =
        if id' = current.clientCommandID then some receipt else s.receipts.lookup id' :=
      fun id' => lookup_insert_ite ..
    refine h.erase rfl (fun hne => ?_) (fun _ => id) (fun r heq _ => .inl ?_) fun hkept => ?_
    · exact (hreceipts _).trans (if_neg hne)
    · intro hnone
      cases ((hreceipts _).trans (if_pos heq)).symm.trans hnone
    · intro hnone
      have hsome := (hreceipts key.clientCommandID).symm.trans hnone
      split at hsome
      · cases hsome
      · exact hkept hsome

variable {P : Attempt → Prop}

theorem AttemptAt.insert (h : AttemptAt P s key)
    (hreservations : s'.reservations = s.reservations.insert r.clientCommandID r)
    (hkept : r.clientCommandID = key.clientCommandID → ∀ current,
      s.reservations.lookup key.clientCommandID = some current →
      r.generation = current.generation ∧ ∀ attempt ∈ current.attempts,
        attempt.number = key.number → P attempt →
        ∃ attempt' ∈ r.attempts, attempt'.number = key.number ∧ P attempt') :
    AttemptAt P s' key := by
  obtain ⟨current, hlookup, hgeneration, attempt, hmem, hnumber, hattempt⟩ := h
  unfold AttemptAt
  rw [hreservations, lookup_insert_ite]
  split
  · next heq =>
    obtain ⟨hsame, hattempts⟩ := hkept heq.symm current hlookup
    exact ⟨r, rfl, hsame.trans hgeneration, hattempts attempt hmem hnumber hattempt⟩
  · exact ⟨current, hlookup, hgeneration, attempt, hmem, hnumber, hattempt⟩

theorem AttemptAt.erase (h : AttemptAt P s key)
    (hreservations : s'.reservations = s.reservations.erase id) (hne : key.clientCommandID ≠ id) :
    AttemptAt P s' key := by
  obtain ⟨current, hlookup, hrest⟩ := h
  refine ⟨current, ?_, hrest⟩
  rw [hreservations, lookup_erase_ite, if_neg hne]
  exact hlookup

variable {current : Reservation}

theorem AttemptAt.appended (h : AttemptAt P s key)
    (hlookup : s.reservations.lookup current.clientCommandID = some current)
    (hreservations : s'.reservations = s.reservations.insert r.clientCommandID r)
    (hid : r.clientCommandID = current.clientCommandID)
    (hgeneration : r.generation = current.generation)
    (hattempts : r.attempts = current.attempts ++ [attempt]) : AttemptAt P s' key := by
  refine h.insert hreservations fun heq current' hlookup' => ?_
  rw [← heq, hid, hlookup] at hlookup'
  cases hlookup'
  refine ⟨hgeneration, fun old hmem hnumber hold => ⟨old, ?_, hnumber, hold⟩⟩
  rw [hattempts]
  exact List.mem_append_left _ hmem

theorem prepare_settled (s : Store) (request : PrepareRequest Value) (now : Time)
    (outcome : Except StoreError GoString) :
    Change platform s (s.settle (s.prepare platform request now) outcome).2 ∧
      (s.settle (s.prepare platform request now) outcome).2.receipts = s.receipts ∧
      ∀ P key, AttemptAt P s key →
        AttemptAt P (s.settle (s.prepare platform request now) outcome).2 key := by
  have h := settled s (s.prepare platform request now) outcome
  generalize s.settle (s.prepare platform request now) outcome = result at h
  obtain ⟨answer, s'⟩ := result
  cases h with
  | kept => exact ⟨.same, rfl, fun _ _ => id⟩
  | written candidate answer version hplan =>
    obtain ⟨_, commandCanonical, _, ⟨_, _, _, hdone⟩ | ⟨_, _, _, _, hdone⟩ |
      ⟨stateValue, prepared, hfresh, hwrite⟩⟩ := prepare_ok hplan
    · cases hdone
    · cases hdone
    · cases hwrite
      refine ⟨.reserved version _ hfresh.receipt hfresh.reservation rfl rfl, rfl,
        fun P key hattempt => ?_⟩
      refine hattempt.insert
        (r := s.newReservation platform request commandCanonical prepared now)
        rfl fun hid current hlookup => ?_
      rw [← hid] at hlookup
      cases hfresh.reservation.symm.trans hlookup
  | committed candidate answer version hplan =>
    obtain ⟨_, commandCanonical, _, ⟨_, _, _, hdone⟩ | ⟨_, _, _, _, hdone⟩ |
      ⟨_, _, _, hwrite⟩⟩ := prepare_ok hplan
    · cases hdone
    · cases hdone
    · cases hwrite

theorem begin_settled (s : Store) (reservation : Reservation) (now : Time)
    (outcome : Except StoreError GoString) :
    (∃ e, s.settle (s.beginAttempt reservation now) outcome = (.error e, s)) ∨
      ∃ version current, Holds s reservation current ∧
        s.settle (s.beginAttempt reservation now) outcome =
          (.ok (begun current now), s.installDocument version (s.putReservation
            (begun current now))) := by
  have h := settled s (s.beginAttempt reservation now) outcome
  generalize s.settle (s.beginAttempt reservation now) outcome = result at h
  obtain ⟨answer, s'⟩ := result
  cases h with
  | kept _ hdone =>
    cases answer with
    | error e => exact .inl ⟨e, rfl⟩
    | ok r =>
      obtain ⟨_, _, _, hplan⟩ := beginAttempt_ok (hdone r rfl)
      cases hplan
  | written candidate answer version hplan =>
    obtain ⟨_, current, hcurrent, hplan⟩ := beginAttempt_ok hplan
    cases hplan
    exact .inr ⟨version, current, hcurrent, rfl⟩
  | committed candidate answer version hplan =>
    obtain ⟨_, _, _, hplan⟩ := beginAttempt_ok hplan
    cases hplan

def namedAttempt (reservation current : Reservation) : Nat :=
  if latestAttemptNumber reservation = 0 then latestAttemptNumber current
  else latestAttemptNumber reservation

structure Closed (s : Store) (reservation : Reservation) (failure : ExecutionError) (now : Time)
    (version : GoString) (s' : Store) : Prop where
  time : now.isZero = false ∧ 0 ≤ now.unix
  closes : ∃ current index attempt, Holds s reservation current ∧
    findOpenAttempt current.attempts (namedAttempt reservation current) = .ok index ∧
    current.attempts[index]? = some attempt ∧
    attempt.number = namedAttempt reservation current ∧ attempt.finishedAtUnix = none ∧
    s' = s.installDocument version
      (s.putReservation (failed current current.attempts index failure now))

structure Noted (s : Store) (reservation : Reservation) (failure : ExecutionError) (now : Time)
    (version : GoString) (s' : Store) : Prop where
  unnamed : latestAttemptNumber reservation = 0
  notes : ∃ current, Holds s reservation current ∧
    s' = s.installDocument version (s.putReservation { current with
      attempts := current.attempts ++
        [(openAttempt (current.attempts.length + 1) now).fail failure now]
      updatedAtUnix := now.unix })

variable {index : Nat}

theorem Numbered.findOpenAttempt (h : Numbered attempts) {number : Nat}
    (hfound : findOpenAttempt attempts number = .ok index) : number = index + 1 := by
  obtain ⟨attempt, hget, hnumber, _⟩ := findOpenAttempt_ok hfound
  rw [← hnumber]
  exact h index attempt hget

theorem ensureAttempt_cases (current : Reservation) (number : Nat) (now : Time) :
    (number ≠ 0 ∧ Store.ensureAttempt current number now = (number, current.attempts)) ∨
    (number = 0 ∧ (∃ last, current.attempts.getLast? = some last ∧ last.finishedAtUnix = none ∧
      Store.ensureAttempt current number now =
        (latestAttemptNumber current, current.attempts))) ∨
    (number = 0 ∧ (∀ last ∈ current.attempts.getLast?, last.finishedAtUnix ≠ none) ∧
      Store.ensureAttempt current number now = (current.attempts.length + 1,
        current.attempts ++ [openAttempt (current.attempts.length + 1) now])) := by
  unfold Store.ensureAttempt
  by_cases hzero : number = 0
  · rw [if_neg (not_not.mpr hzero)]
    cases hlast : current.attempts.getLast? with
    | none =>
      have hnil := List.getLast?_eq_none_iff.mp hlast
      refine .inr (.inr ⟨hzero, fun last hmem => (nomatch hmem), ?_⟩)
      rw [hnil]
      rfl
    | some last =>
      cases hfinished : last.finishedAtUnix with
      | none =>
        refine .inr (.inl ⟨hzero, last, rfl, hfinished, ?_⟩)
        simp [hfinished, latestAttemptNumber, hlast]
      | some finished =>
        refine .inr (.inr ⟨hzero, fun last' hmem => ?_, ?_⟩)
        · rw [← Option.some.inj hmem, hfinished]
          exact Option.some_ne_none _
        · simp [hfinished, openAttempt]
  · rw [if_pos hzero]
    exact .inl ⟨hzero, rfl⟩

theorem last_finished (h : Numbered current.attempts)
    (hlast : ∀ last ∈ current.attempts.getLast?, last.finishedAtUnix ≠ none) (index : Nat) :
    findOpenAttempt current.attempts (latestAttemptNumber current) ≠ .ok index := by
  intro hfound
  obtain ⟨attempt, hget, hnumber, hopen⟩ := findOpenAttempt_ok hfound
  have hindex := h.findOpenAttempt hfound
  rw [h.latest] at hindex
  refine hlast attempt ?_ hopen
  rw [List.getLast?_eq_getElem?, hindex, Nat.add_sub_cancel]
  exact hget

variable {reservation : Reservation} {now : Time}

theorem recordFailure_closes (hcurrent : Holds s reservation current)
    (hnumbered : Numbered current.attempts) (hnow : now.isZero = false ∧ 0 ≤ now.unix)
    (hfound : findOpenAttempt current.attempts (namedAttempt reservation current) = .ok index)
    (failure : ExecutionError) :
    s.recordFailure reservation (some failure) now = .ok (.write
      (s.putReservation (failed current current.attempts index failure now)) (.ok ())) := by
  have hensured : Store.ensureAttempt current (latestAttemptNumber reservation) now =
      (namedAttempt reservation current, current.attempts) := by
    unfold namedAttempt at hfound ⊢
    rcases ensureAttempt_cases current (latestAttemptNumber reservation) now with
      ⟨hnamed, h⟩ | ⟨hunnamed, _, _, _, h⟩ | ⟨hunnamed, hlast, _⟩
    · rw [if_neg hnamed]
      exact h
    · rw [if_pos hunnamed]
      exact h
    · rw [if_pos hunnamed] at hfound
      exact absurd hfound (last_finished hnumbered hlast index)
  simp only [Store.recordFailure, bind_ok, requireTime_ok, requireReservation_ok, fetch_ok]
  refine ⟨(), hnow, failure, rfl, current, hcurrent, index, ?_⟩
  rw [hensured]
  exact ⟨hfound, rfl⟩

theorem modify_appended (attempts : List Attempt) (attempt : Attempt) (f : Attempt → Attempt) :
    (attempts ++ [attempt]).modify attempts.length f = attempts ++ [f attempt] :=
  List.modifyTailIdx_add (List.modifyHead f) 0 attempts [attempt]

theorem record_settled (ho : Orderly s) (reservation : Reservation) (failure : ExecutionError)
    (now : Time) (outcome : Except StoreError GoString) :
    (s.settle (s.recordFailure reservation (some failure) now) outcome).2 = s ∨
      ∃ version, outcome = .ok version ∧
        (Closed s reservation failure now version
          (s.settle (s.recordFailure reservation (some failure) now) outcome).2 ∨
        Noted s reservation failure now version
          (s.settle (s.recordFailure reservation (some failure) now) outcome).2) := by
  have h := settled s (s.recordFailure reservation (some failure) now) outcome
  generalize s.settle (s.recordFailure reservation (some failure) now) outcome = result at h
  obtain ⟨answer, s'⟩ := result
  cases h with
  | kept => exact .inl rfl
  | committed candidate answer version hplan =>
    obtain ⟨_, _, _, _, _, _, _, _, _, _, hplan⟩ := recordFailure_ok hplan
    cases hplan
  | written candidate answer version hplan houtcome =>
    obtain ⟨hnow, _, current, number, attempts, index, hfailure, hcurrent, hensured, hfound, hplan⟩ :=
      recordFailure_ok hplan
    cases hplan
    cases hfailure
    have hnumbered := ho.numbered _ _ hcurrent.lookup
    refine .inr ⟨version, houtcome, ?_⟩
    have hclosed : attempts = current.attempts → number = namedAttempt reservation current →
        Closed s reservation failure now version (s.installDocument version
          (s.putReservation (failed current attempts index failure now))) := by
      rintro rfl rfl
      obtain ⟨attempt, hget, hnumber, hopen⟩ := findOpenAttempt_ok hfound
      exact ⟨hnow, current, index, attempt, hcurrent, hfound, hget, hnumber, hopen, rfl⟩
    rcases ensureAttempt_cases current (latestAttemptNumber reservation) now with
      ⟨hnamed, heq⟩ | ⟨hunnamed, _, _, _, heq⟩ | ⟨hunnamed, _, heq⟩
    · rw [heq, Prod.mk.injEq] at hensured
      exact .inl (hclosed hensured.2.symm (by rw [← hensured.1, namedAttempt, if_neg hnamed]))
    · rw [heq, Prod.mk.injEq] at hensured
      exact .inl (hclosed hensured.2.symm (by rw [← hensured.1, namedAttempt, if_pos hunnamed]))
    · rw [heq, Prod.mk.injEq] at hensured
      obtain ⟨rfl, rfl⟩ := hensured
      have hnumber : (openAttempt (current.attempts.length + 1) now).number =
          current.attempts.length + 1 := rfl
      have hindex := (hnumbered.append hnumber).findOpenAttempt hfound
      refine .inr ⟨hunnamed, current, hcurrent, ?_⟩
      obtain rfl : index = current.attempts.length := by omega
      refine congrArg (fun attempts => s.installDocument version (s.putReservation
        { current with attempts, updatedAtUnix := now.unix })) ?_
      exact modify_appended _ _ _

structure Written (s : Store) (reservation current : Reservation) (verified : VerifiedTransition)
    (now : Time) (receipt : Receipt) : Prop where
  holds : Holds s reservation current
  fresh : s.receipts.lookup reservation.clientCommandID = none
  clientCommandID : receipt.clientCommandID = current.clientCommandID
  generation : receipt.generation = current.generation
  disposition : receipt.disposition = verified.disposition
  attempts : receipt.attempts = (committedReservation current reservation verified now).attempts

theorem commit_settled (platform : Platform Value) (s : Store) (reservation : Reservation) (verified : VerifiedTransition)
    (now : Time) (outcome : Except StoreError GoString) :
    (∃ answer, s.settle (s.commitWith platform reservation verified now) outcome = (answer, s) ∧
      wrote s reservation answer = none) ∨
    (∃ version current, Holds s reservation current ∧
      s.settle (s.commitWith platform reservation verified now) outcome =
        (.error errStaleReservation, s.installDocument version (s.retireDocument current failureStale
          (str "stale authority or deterministic state") now))) ∨
    ∃ version current state receipt, Written s reservation current verified now receipt ∧
      s.settle (s.commitWith platform reservation verified now) outcome =
        (.ok receipt, s.installDocument version { s.cloneDocument with
          state
          reservations := s.reservations.erase current.clientCommandID
          receipts := s.receipts.insert current.clientCommandID receipt }) := by
  have h := settled s (s.commitWith platform reservation verified now) outcome
  generalize s.settle (s.commitWith platform reservation verified now) outcome = result at h
  obtain ⟨answer, s'⟩ := result
  cases h with
  | kept _ hdone =>
    refine .inl ⟨answer, rfl, ?_⟩
    cases answer with
    | error e => rfl
    | ok receipt =>
      obtain ⟨_, ⟨_, hreceipt, _, _⟩ | ⟨current, _, _, _, ⟨_, hplan⟩ | ⟨_, _, _, _, hplan⟩⟩⟩ :=
        commitWith_ok (hdone receipt rfl)
      · refine if_neg fun hnone => ?_
        cases hreceipt.symm.trans hnone
      · cases hplan
      · cases hplan
  | written candidate _ version hplan =>
    obtain ⟨_, ⟨_, _, _, hplan⟩ | ⟨current, _, hcurrent, _, ⟨_, hplan⟩ | ⟨_, _, _, _, hplan⟩⟩⟩ :=
      commitWith_ok hplan
    · cases hplan
    · cases hplan
      exact .inr (.inl ⟨version, current, hcurrent, rfl⟩)
    · cases hplan
  | committed candidate a version hplan =>
    obtain ⟨_, ⟨_, _, _, hplan⟩ | ⟨current, hnone, hcurrent, _, ⟨_, hplan⟩ |
      ⟨_, state, _, happly, hplan⟩⟩⟩ := commitWith_ok hplan
    · cases hplan
    · cases hplan
    · cases hplan
      obtain ⟨attempts, hattempts⟩ := committedReservation_eq current reservation verified now
      refine .inr (.inr ⟨version, current, state, a, ?_, ?_⟩)
      · have hreceipt : a.attempts = attempts ∧ a.disposition = verified.disposition ∧
            a.clientCommandID = current.clientCommandID ∧
            a.generation = current.generation := by
          rw [hattempts] at happly
          obtain ⟨_, _, _, _, _, _, _, _, _, _, _, _, rfl⟩ | ⟨_, _, _, _, _, rfl⟩ :=
            applyVerified_ok happly
          · exact ⟨rfl, rfl, rfl, rfl⟩
          · exact ⟨rfl, rfl, rfl, rfl⟩
        exact ⟨hcurrent, hnone, hreceipt.2.2.1, hreceipt.2.2.2, hreceipt.2.1, by
          rw [hattempts]
          exact hreceipt.1⟩
      · rw [hattempts]
        rfl

theorem takeover_settled (platform : Platform Value) (s : Store) (clientCommandID reason : GoString) (generation : Nat)
    (now : Time) (outcome : Except StoreError GoString) :
    (s.settle (s.takeover platform clientCommandID generation reason now) outcome).2 = s ∨
      ∃ version current, s.reservations.lookup clientCommandID = some current ∧
        (s.settle (s.takeover platform clientCommandID generation reason now) outcome).2 =
          s.installDocument version { s.cloneDocument with
            reservations := s.reservations.insert clientCommandID (successor platform current now)
            retired := s.retired.insert clientCommandID
              (s.retiredGenerations clientCommandID ++ [takenOver current reason now]) } := by
  have h := settled s (s.takeover platform clientCommandID generation reason now) outcome
  generalize s.settle (s.takeover platform clientCommandID generation reason now) outcome =
    result at h
  obtain ⟨answer, s'⟩ := result
  cases h with
  | kept => exact .inl rfl
  | written candidate answer version hplan =>
    obtain ⟨_, _, current, hcurrent, _, _, hplan⟩ := takeover_ok hplan
    cases hplan
    exact .inr ⟨version, current, hcurrent, rfl⟩
  | committed candidate answer version hplan =>
    obtain ⟨_, _, _, _, _, _, hplan⟩ := takeover_ok hplan
    cases hplan

theorem abort_settled (s : Store) (clientCommandID reason : GoString) (generation : Nat)
    (now : Time) (outcome : Except StoreError GoString) :
    (s.settle (s.abort clientCommandID generation reason now) outcome).2 = s ∨
      ∃ version current, s.reservations.lookup clientCommandID = some current ∧
        (s.settle (s.abort clientCommandID generation reason now) outcome).2 =
          s.installDocument version (s.retireDocument current failureOperatorAbort
            (str "operator abort: " ++ boundedDetail reason) now) := by
  have h := settled s (s.abort clientCommandID generation reason now) outcome
  generalize s.settle (s.abort clientCommandID generation reason now) outcome = result at h
  obtain ⟨answer, s'⟩ := result
  cases h with
  | kept => exact .inl rfl
  | written candidate answer version hplan =>
    obtain ⟨_, _, current, hcurrent, _, _, hplan⟩ := abort_ok hplan
    cases hplan
    exact .inr ⟨version, current, hcurrent, rfl⟩
  | committed candidate answer version hplan =>
    obtain ⟨_, _, _, _, _, _, hplan⟩ := abort_ok hplan
    cases hplan

def Staged (x : Execution Value) : Prop :=
  match x.stage with
  | .ready _ | .prepared _ | .cancelled _ _ | .beginning _ => x.began = none ∧ x.committed = none
  | .executing reservation | .failing reservation _ | .committing reservation _ =>
    (x.began = some (attemptKey reservation) ∧ x.committed = none) ∧
      latestAttemptNumber reservation ≠ 0
  | .returned _ => True

structure Proceeded (platform : Platform Value) (s : Store) (x y : Execution Value) (s' : Store) :
    Prop where
  change : Change platform s s'
  staged : Staged y
  began : y.began = x.began ∨ ∃ key, y.began = some key ∧ Known s' key ∧ ¬ Known s key

theorem Holds.own {input : Reservation} (h : Holds s input current) (ho : Orderly s) :
    s.reservations.lookup current.clientCommandID = some current := by
  rw [ho.keyed _ _ h.lookup]
  exact h.lookup

variable {failure : ExecutionError} {version : GoString}

theorem Closed.change (h : Closed s reservation failure now version s') (ho : Orderly s) :
    Change platform s s' := by
  obtain ⟨current, index, _, hcurrent, _, _, _, _, rfl⟩ := h.closes
  exact .closed version current index failure now (hcurrent.own ho)

theorem Noted.change (h : Noted s reservation failure now version s') (ho : Orderly s) :
    Change platform s s' := by
  obtain ⟨current, hcurrent, rfl⟩ := h.notes
  exact .noted version current failure now (hcurrent.own ho)

theorem record_change (ho : Orderly s) (reservation : Reservation) (failure : ExecutionError)
    (now : Time) (outcome : Except StoreError GoString) :
    Change platform s
      (s.settle (s.recordFailure reservation (some failure) now) outcome).2 := by
  rcases record_settled ho reservation failure now outcome with
    hsame | ⟨version, _, hclosed | hnoted⟩
  · rw [hsame]
    exact .same
  · exact hclosed.change ho
  · exact hnoted.change ho

theorem begun_key (h : Numbered current.attempts) (now : Time) :
    attemptKey (begun current now) =
      ⟨current.clientCommandID, current.generation, current.attempts.length + 1⟩ := by
  have hnumbered : Numbered (begun current now).attempts := h.append rfl
  rw [attemptKey, hnumbered.latest]
  simp [begun]

theorem proceed_proceeded (platform : Platform Value) (ho : Orderly s) {x : Execution Value}
    (hx : Staged x) (signal : Signal) :
    Proceeded platform s x (x.proceed platform s signal).1 (x.proceed platform s signal).2 := by
  obtain ⟨stage, began, committed⟩ := x
  cases signal with
  | context err =>
    cases stage with
    | prepared reservation =>
      cases err with
      | none | some err => exact ⟨.same, hx, .inl rfl⟩
    | _ => exact ⟨.same, hx, .inl rfl⟩
  | response ctx result =>
    cases stage with
    | executing reservation =>
      refine ⟨.same, ?_, .inl rfl⟩
      simp only [Execution.proceed, afterResponse]
      cases result with
      | error err => exact hx
      | ok raw =>
        dsimp only
        cases platform.codec.verify reservation.transition reservation.context raw with
        | error text => exact hx
        | ok verified =>
          dsimp only
          split
          · exact hx
          · exact hx
    | _ => exact ⟨.same, hx, .inl rfl⟩
  | turn now outcome =>
    cases stage with
    | ready request =>
      refine ⟨(prepare_settled s request now outcome).1, ?_, .inl rfl⟩
      simp only [Execution.proceed]
      generalize s.settle (s.prepare platform request now) outcome = result
      obtain ⟨_ | ⟨_ | reservation, _ | receipt⟩, s'⟩ := result
      · exact trivial
      · exact trivial
      · exact trivial
      · exact hx
      · exact trivial
    | prepared reservation | executing reservation | returned result => exact ⟨.same, hx, .inl rfl⟩
    | cancelled reservation failure | failing reservation failure =>
      exact ⟨record_change ho reservation failure now outcome, trivial, .inl rfl⟩
    | beginning reservation =>
      simp only [Execution.proceed]
      rcases begin_settled s reservation now outcome with ⟨e, h⟩ | ⟨version, current, hcurrent, h⟩
      · rw [h]
        exact ⟨.same, trivial, .inl rfl⟩
      · rw [h]
        have hnumbered := ho.numbered _ _ hcurrent.lookup
        have hown := hcurrent.own ho
        refine ⟨.begun version current now hown, ⟨⟨rfl, hx.2⟩, ?_⟩, .inr ⟨_, rfl, ?_, ?_⟩⟩
        · have hnumber : latestAttemptNumber (begun current now) = current.attempts.length + 1 :=
            congrArg AttemptKey.number (begun_key hnumbered now)
          omega
        · rw [begun_key hnumbered]
          refine .inl ⟨begun current now, Finmap.lookup_insert _, .inr ⟨rfl, ?_⟩⟩
          simp [begun]
        · rw [begun_key hnumbered]
          rintro (⟨r, hlookup, horder⟩ | ⟨hnone, _⟩)
          · cases Option.mem_unique hown hlookup
            dsimp only at horder
            omega
          · cases hown.symm.trans hnone
    | committing reservation verified =>
      simp only [Execution.proceed]
      rcases commit_settled platform s reservation verified now outcome with
        ⟨answer, h, hwrote⟩ | ⟨version, current, hcurrent, h⟩ |
        ⟨version, current, state, receipt, hwritten, h⟩
      · rw [h]
        refine ⟨.same, ?_, .inl rfl⟩
        cases answer with
        | ok receipt => exact trivial
        | error e =>
          simp only [afterCommit]
          split
          · exact trivial
          · exact ⟨⟨hx.1.1, rfl⟩, hx.2⟩
      · rw [h]
        exact ⟨.retired version current _ _ now (hcurrent.own ho), trivial, .inl rfl⟩
      · rw [h]
        have hown := hwritten.holds.own ho
        have hfresh := hwritten.fresh
        rw [← ho.keyed _ _ hwritten.holds.lookup] at hfresh
        exact ⟨.committed version current state receipt hown hfresh hwritten.clientCommandID
          hwritten.generation, trivial, .inl rfl⟩

end WorldCommand
