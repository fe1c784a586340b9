import TrillionniumGame.Foundation.Checks
import TrillionniumGame.Foundation.Runs
import TrillionniumGame.Foundation.Sequences
import TrillionniumGame.Foundation.Words
import TrillionniumGame.Persistence.Contracts

namespace Presence
open Checks Words
open Persistence (Bytes one_positive ones_nonzero zeroBytes)

def maxReconnectJournalCapacity : Nat := 65536

@[ext]
structure ReconnectJournalId where
  bytes : Bytes 16
  nonzero : zeroBytes bytes = false

instance : DecidableEq ReconnectJournalId := fun _ _ => decidable_of_iff' _ ReconnectJournalId.ext_iff

@[ext]
structure ReconnectStreamId where
  bytes : Bytes 32
  nonzero : zeroBytes bytes = false

instance : DecidableEq ReconnectStreamId := fun _ _ => decidable_of_iff' _ ReconnectStreamId.ext_iff

@[ext]
structure ReconnectSessionGeneration where
  value : UInt64
  positive : value ≠ 0

instance : DecidableEq ReconnectSessionGeneration := fun _ _ => decidable_of_iff' _ ReconnectSessionGeneration.ext_iff

@[ext]
structure ReconnectProducerEpoch where
  value : UInt64
  positive : value ≠ 0

instance : DecidableEq ReconnectProducerEpoch := fun _ _ => decidable_of_iff' _ ReconnectProducerEpoch.ext_iff

structure ReconnectIdentity where
  journalId : ReconnectJournalId
  streamId : ReconnectStreamId
  sessionGeneration : ReconnectSessionGeneration
  producerEpoch : ReconnectProducerEpoch
  deriving DecidableEq

structure ReconnectCursor where
  identity : ReconnectIdentity
  sequence : Nat
  tag : Bytes 32

abbrev ReconnectCursorAuthenticator := ReconnectIdentity → Nat → Bytes 32

structure ReconnectEvent where
  sequence : Nat
  digest : Bytes 32

structure ReconnectJournalConfig where
  capacity : Nat
  identity : ReconnectIdentity

inductive ReconnectJournalError where
  | zeroCapacity
  | capacityTooLarge (received maximum : Nat)
  | zeroDigest (field : String)
  | sequenceExhausted
  | cursorIdentityMismatch
  | cursorAuthenticationFailed
  | authenticatorReturnedZeroTag
  | cursorAhead (cursor latest : Nat)
  | cursorExpired (requestedNext oldestAvailable : Nat)
  | invariantViolation (message : String)

structure ReconnectJournal where
  config : ReconnectJournalConfig
  nextSequence : Nat
  events : List ReconnectEvent

def constantTimeEq (left right : Bytes 32) : Bool :=
  (left.toList.zip right.toList).foldl (fun difference pair => difference ||| (pair.1 ^^^ pair.2))
    (0 : UInt8) == 0

namespace ReconnectJournal

def new (config : ReconnectJournalConfig) : Except ReconnectJournalError ReconnectJournal := do
  require (config.capacity ≠ 0) .zeroCapacity
  require (config.capacity ≤ maxReconnectJournalCapacity)
    (.capacityTooLarge config.capacity maxReconnectJournalCapacity)
  return ⟨config, 1, []⟩

variable (j : ReconnectJournal)

def latestSequence : Nat := j.nextSequence - 1

def oldestSequence : Option Nat := j.events.head?.map (·.sequence)

def checkEvent (previous : Option Nat) (event : ReconnectEvent) :
    Except ReconnectJournalError (Option Nat) := do
  require (zeroBytes event.digest = false) (.invariantViolation "retained event has zero digest")
  require (∀ sequence ∈ previous, event.sequence = sequence + 1)
    (.invariantViolation "retained event sequences are not contiguous")
  return some event.sequence

def verifyInvariants : Except ReconnectJournalError Unit := do
  require (j.config.capacity ≠ 0 ∧ j.config.capacity ≤ maxReconnectJournalCapacity)
    (.invariantViolation "capacity is outside the validated range")
  require (j.events.length ≤ j.config.capacity)
    (.invariantViolation "retained event count exceeds capacity")
  let previous ← j.events.foldlM checkEvent none
  match previous with
  | some last =>
    require (last = j.latestSequence)
      (.invariantViolation "last retained sequence differs from producer high-water mark")
  | none =>
    require (j.latestSequence = 0)
      (.invariantViolation "empty journal has a nonzero high-water mark")

-- The event is written before the last check: a check that fails leaves it in the journal.
def append (digest : Bytes 32) :
    Except ReconnectJournalError ReconnectEvent × ReconnectJournal :=
  let ready : Except ReconnectJournalError Nat := do
    require (zeroBytes digest = false) (.zeroDigest "event_digest")
    j.verifyInvariants
    fetch (fits 64 (j.nextSequence + 1)) .sequenceExhausted
  match ready with
  | .error error => (.error error, j)
  | .ok next =>
    let retained := if j.events.length = j.config.capacity then j.events.tail else j.events
    let event : ReconnectEvent := ⟨j.nextSequence, digest⟩
    let written : ReconnectJournal := ⟨j.config, next, retained ++ [event]⟩
    (written.verifyInvariants.map fun _ => event, written)

variable (j : ReconnectJournal)

def issueCursor (sequence : Nat) (authenticator : ReconnectCursorAuthenticator) :
    Except ReconnectJournalError ReconnectCursor := do
  j.verifyInvariants
  let latest := j.latestSequence
  require (sequence ≤ latest) (.cursorAhead sequence latest)
  let tag := authenticator j.config.identity sequence
  require (zeroBytes tag = false) .authenticatorReturnedZeroTag
  return ⟨j.config.identity, sequence, tag⟩

def latestCursor (authenticator : ReconnectCursorAuthenticator) :
    Except ReconnectJournalError ReconnectCursor := j.issueCursor j.latestSequence authenticator

def replayAfter (cursor : ReconnectCursor) (authenticator : ReconnectCursorAuthenticator) :
    Except ReconnectJournalError (List ReconnectEvent) := do
  j.verifyInvariants
  require (cursor.identity = j.config.identity) .cursorIdentityMismatch
  let expectedTag := authenticator cursor.identity cursor.sequence
  require (zeroBytes expectedTag = false ∧ constantTimeEq expectedTag cursor.tag = true)
    .cursorAuthenticationFailed
  let latest := j.latestSequence
  require (cursor.sequence ≤ latest) (.cursorAhead cursor.sequence latest)
  if j.events = [] ∨ cursor.sequence = latest then
    return []
  let requestedNext ← fetch (fits 64 (cursor.sequence + 1)) .sequenceExhausted
  let oldest ← fetch j.oldestSequence (.invariantViolation "non-empty replay has no oldest event")
  require (oldest ≤ requestedNext) (.cursorExpired requestedNext oldest)
  return j.events.filter fun event => cursor.sequence < event.sequence

end ReconnectJournal

open Runs Windows

abbrev AppendCall := Bytes 32 × Except ReconnectJournalError ReconnectEvent

def reconnectJournals : System ReconnectJournal AppendCall where
  init j := ∃ config, ReconnectJournal.new config = .ok j
  step j call j' := j.append call.1 = (call.2, j')

def appended (calls : List AppendCall) : List ReconnectEvent :=
  calls.filterMap fun call => call.2.toOption

theorem appended_append (calls calls' : List AppendCall) :
    appended (calls ++ calls') = appended calls ++ appended calls' := List.filterMap_append

theorem constantTimeEq_iff {left right : Bytes 32} : constantTimeEq left right = true ↔ left = right := by
  have hfold : ∀ (pairs : List (UInt8 × UInt8)) (difference : UInt8),
      pairs.foldl (fun difference pair => difference ||| (pair.1 ^^^ pair.2)) difference = 0 ↔
        difference = 0 ∧ ∀ pair ∈ pairs, pair.1 = pair.2 := by
    intro pairs
    induction pairs with
    | nil => simp
    | cons pair rest ih =>
      intro difference
      rw [List.foldl_cons, ih, UInt8.or_eq_zero_iff, UInt8.xor_eq_zero_iff, List.forall_mem_cons,
        and_assoc]
  rw [constantTimeEq, beq_iff_eq, hfold]
  constructor
  · rintro ⟨-, hpairs⟩
    refine Vector.toList_inj.mp (List.ext_getElem (by simp) fun index hleft hright => ?_)
    have hindex : index < (left.toList.zip right.toList).length := by
      rw [List.length_zip]
      exact lt_min hleft hright
    have hpair := hpairs _ (List.getElem_mem hindex)
    rwa [List.getElem_zip] at hpair
  · rintro rfl
    refine ⟨rfl, fun pair hmem => ?_⟩
    obtain ⟨index, hindex, rfl⟩ := List.getElem_of_mem hmem
    rw [List.getElem_zip]

namespace ReconnectJournal

variable {j j' : ReconnectJournal} {log : List ReconnectEvent} {digest : Bytes 32}
  {reply : Except ReconnectJournalError ReconnectEvent} {cursor : ReconnectCursor}
  {authenticator : ReconnectCursorAuthenticator} {sequence : Nat}

structure Sound (j : ReconnectJournal) (log : List ReconnectEvent) : Prop where
  capacity : j.config.capacity ≠ 0 ∧ j.config.capacity ≤ maxReconnectJournalCapacity
  counted : Counted (·.sequence) log
  next : j.nextSequence = log.length + 1
  room : log.length + 1 < 2 ^ 64
  digests : ∀ event ∈ log, zeroBytes event.digest = false
  retained : j.events = log.rtake j.config.capacity

theorem sound_new {config : ReconnectJournalConfig} (h : new config = .ok j) : j.Sound [] := by
  simp only [new, bind_ok, require_ok, exists_const] at h
  obtain ⟨hpositive, hmaximum, hresult⟩ := h
  cases hresult
  exact ⟨⟨hpositive, hmaximum⟩, rfl, rfl, by decide, List.forall_mem_nil _, by rw [List.rtake_nil]⟩

theorem Sound.latest (h : j.Sound log) : j.latestSequence = log.length := by
  rw [latestSequence, h.next, Nat.add_sub_cancel]

variable {events : List ReconnectEvent}

theorem checkEvents_ok (previous : Option Nat) {first : Nat}
    (hsequences : events.map (·.sequence) = List.range' first events.length)
    (hprevious : ∀ sequence ∈ previous, first = sequence + 1)
    (hdigests : ∀ event ∈ events, zeroBytes event.digest = false) :
    events.foldlM checkEvent previous =
      .ok (if events.length = 0 then previous else some (first + events.length - 1)) := by
  induction events generalizing previous first with
  | nil => rfl
  | cons event rest ih =>
    rw [List.map_cons, List.length_cons, List.range'_succ, List.cons.injEq] at hsequences
    obtain ⟨hfirst, hrest⟩ := hsequences
    rw [List.forall_mem_cons] at hdigests
    have hevent : checkEvent previous event = .ok (some first) := by
      simp only [checkEvent, bind_ok, require_ok]
      exact ⟨(), hdigests.1, (), fun sequence hmem => hfirst ▸ hprevious sequence hmem,
        by rw [hfirst]; rfl⟩
    have hnext := ih (some first) hrest (by simp) hdigests.2
    rw [List.foldlM_cons, hevent]
    refine hnext.trans ?_
    rw [if_neg (by simp : ¬ (event :: rest).length = 0), List.length_cons]
    split
    · next hnil => rw [hnil]; rfl
    · congr 2
      omega

theorem Sound.sequences (h : j.Sound log) (kept : Nat) : (log.drop kept).map (·.sequence) =
    List.range' (kept + 1) (log.drop kept).length := by
  rw [List.map_drop, h.counted, List.drop_range', List.length_drop, Nat.mul_one, Nat.add_comm]

theorem Sound.verified (h : j.Sound log) : j.verifyInvariants = .ok () := by
  have hlength : j.events.length = min j.config.capacity log.length := by
    rw [h.retained, length_rtake]
  have hfold := checkEvents_ok none
    (h.sequences (log.length - j.config.capacity)) nofun
    fun event hmem => h.digests event (List.mem_of_mem_drop hmem)
  have hpositive := Nat.pos_of_ne_zero h.capacity.1
  have hevents : log.drop (log.length - j.config.capacity) = j.events := h.retained.symm
  rw [hevents] at hfold
  simp only [verifyInvariants, bind_ok, require_ok, hfold]
  refine ⟨(), h.capacity, (), by omega, _, rfl, ?_⟩
  split
  · next last hlast =>
    split at hlast
    · cases hlast
    · next hsome =>
      cases hlast
      rw [require_ok, h.latest]
      omega
  · next hnone =>
    split at hnone
    · next hnil =>
      rw [require_ok, h.latest]
      omega
    · cases hnone

theorem Sound.appends (h : j.Sound log) (hdigest : zeroBytes digest = false)
    (hroom : log.length + 2 < 2 ^ 64) :
    ReconnectJournal.Sound ⟨j.config, log.length + 2,
        (log ++ [ReconnectEvent.mk (log.length + 1) digest]).rtake j.config.capacity⟩
      (log ++ [⟨log.length + 1, digest⟩]) := by
  refine ⟨h.capacity, h.counted.snoc rfl, ?_, ?_, ?_, rfl⟩
  · rw [List.length_append, List.length_singleton]
  · rw [List.length_append, List.length_singleton]
    exact hroom
  · intro event hmem
    rcases List.mem_append.mp hmem with hold | hnew
    · exact h.digests event hold
    · cases List.mem_singleton.mp hnew
      exact hdigest

inductive Appends (j : ReconnectJournal) (log : List ReconnectEvent) :
    Except ReconnectJournalError ReconnectEvent → ReconnectJournal → Prop
  | refused (error : ReconnectJournalError)
      (herror : error = .zeroDigest "event_digest" ∨ error = .sequenceExhausted) :
      Appends j log (.error error) j
  | added (event : ReconnectEvent) (next : ReconnectJournal) (hsound : next.Sound (log ++ [event]))
      (hconfig : next.config = j.config) : Appends j log (.ok event) next

theorem Sound.append (h : j.Sound log) (happend : j.append digest = (reply, j')) :
    Appends j log reply j' := by
  rw [ReconnectJournal.append] at happend
  split at happend
  · next error hready =>
    cases happend
    simp only [bind_error, require_error, fetch_error, h.verified, reduceCtorEq, false_or] at hready
    rcases hready with ⟨-, rfl⟩ | ⟨-, -, -, -, -, rfl⟩
    · exact .refused _ (.inl rfl)
    · exact .refused _ (.inr rfl)
  · next next hready =>
    simp only [bind_ok, require_ok, fetch_ok, fits_some, exists_const, h.next] at hready
    obtain ⟨hdigest, ⟨⟩, -, hroom, rfl⟩ := hready
    have hsound := h.appends hdigest hroom
    dsimp only at happend
    rw [h.retained, rtake_snoc (Nat.pos_of_ne_zero h.capacity.1), h.next, hsound.verified] at happend
    cases happend
    exact .added _ _ hsound rfl

theorem Sound.step (h : j.Sound log) (hcall : reconnectJournals.step j (digest, reply) j') :
    j'.Sound (log ++ appended [(digest, reply)]) ∧ j'.config = j.config := by
  cases h.append hcall with
  | refused error =>
    rw [appended, List.filterMap_cons_none rfl, List.filterMap_nil, List.append_nil]
    exact ⟨h, rfl⟩
  | added event next hsound hconfig => exact ⟨hsound, hconfig⟩

variable {calls : List AppendCall}

theorem Sound.run (h : j.Sound log) (hrun : Run reconnectJournals j calls j') :
    j'.Sound (log ++ appended calls) ∧ j'.config = j.config := by
  induction hrun with
  | nil => exact ⟨by rwa [appended, List.filterMap_nil, List.append_nil], rfl⟩
  | @snoc _ _ calls call _ hstep ih =>
    obtain ⟨hsound, hconfig⟩ := ih
    obtain ⟨hsound', hconfig'⟩ := hsound.step hstep
    rw [List.append_assoc, ← appended_append] at hsound'
    exact ⟨hsound', hconfig'.trans hconfig⟩

theorem Sound.issueCursor_ok (h : j.Sound log) :
    j.issueCursor sequence authenticator = .ok cursor ↔ sequence ≤ log.length ∧
      zeroBytes (authenticator j.config.identity sequence) = false ∧
      cursor = ⟨j.config.identity, sequence, authenticator j.config.identity sequence⟩ := by
  simp only [issueCursor, bind_ok, require_ok, exists_const, h.verified, h.latest, true_and]
  refine and_congr_right fun _ => and_congr_right fun _ => ?_
  exact ⟨fun hresult => (Except.ok.inj hresult).symm, fun hcursor => congrArg Except.ok hcursor.symm⟩

def Retains (j : ReconnectJournal) (log : List ReconnectEvent) (sequence : Nat) : Prop :=
  ∀ event ∈ log, sequence < event.sequence → event ∈ j.events

theorem Sound.retains_iff (h : j.Sound log) (hsequence : sequence ≤ log.length) :
    j.Retains log sequence ↔ log.length - j.config.capacity ≤ sequence := by
  have hcapacity := Nat.pos_of_ne_zero h.capacity.1
  constructor
  · intro hretains
    by_contra hlost
    have hindex : sequence < log.length := by omega
    have hkept := hretains log[sequence] (List.getElem_mem hindex)
      (by rw [h.counted.getElem hindex]; omega)
    rw [h.retained] at hkept
    have hafter := h.counted.drop_mem _ _ hkept
    rw [h.counted.getElem hindex] at hafter
    omega
  · intro hkept event hmem hlater
    rw [h.retained]
    exact h.counted.mem_drop hmem (lt_of_le_of_lt hkept hlater)

theorem Sound.oldest (h : j.Sound log) (hnonempty : log ≠ []) :
    j.oldestSequence = some (log.length - j.config.capacity + 1) := by
  have hcapacity := Nat.pos_of_ne_zero h.capacity.1
  have hlength := List.length_pos_of_ne_nil hnonempty
  have hindex : log.length - j.config.capacity < log.length := by omega
  rw [oldestSequence, h.retained, List.rtake, List.head?_drop, List.getElem?_eq_getElem hindex,
    Option.map_some, h.counted.getElem hindex]

theorem Sound.replays (h : j.Sound log) (hidentity : cursor.identity = j.config.identity)
    (htag : cursor.tag = authenticator cursor.identity cursor.sequence)
    (hnonzero : zeroBytes cursor.tag = false) (hsequence : cursor.sequence ≤ log.length) :
    j.replayAfter cursor authenticator =
      if log.length - j.config.capacity ≤ cursor.sequence then .ok (log.drop cursor.sequence)
      else .error (.cursorExpired (cursor.sequence + 1) (log.length - j.config.capacity + 1)) := by
  have hauthentic : zeroBytes (authenticator cursor.identity cursor.sequence) = false ∧
      constantTimeEq (authenticator cursor.identity cursor.sequence) cursor.tag = true :=
    ⟨htag ▸ hnonzero, constantTimeEq_iff.mpr htag.symm⟩
  have hpositive := Nat.pos_of_ne_zero h.capacity.1
  rw [replayAfter, h.verified, ok_bind, require_of hidentity, ok_bind]
  dsimp only
  rw [require_of hauthentic, ok_bind, h.latest, require_of hsequence, ok_bind]
  split
  · next hdone =>
    have hlast : log.length ≤ cursor.sequence := by
      rcases hdone with hempty | hlatest
      · have hlength := length_rtake log j.config.capacity
        rw [← h.retained, hempty, List.length_nil] at hlength
        omega
      · omega
    rw [if_pos (by omega), List.drop_eq_nil_of_le hlast]
    rfl
  · next hmore =>
    have hbefore : cursor.sequence < log.length := by
      refine lt_of_le_of_ne hsequence fun heq => hmore (.inr heq)
    have hnext : fits 64 (cursor.sequence + 1) = some (cursor.sequence + 1) :=
      fits_some.mpr ⟨by have hroom := h.room; omega, rfl⟩
    rw [hnext, h.oldest (List.ne_nil_of_length_pos (by omega))]
    change (require _ _ >>= fun _ => _) = _
    split
    · next hkept =>
      rw [require_of (by omega), ok_bind, h.retained, List.rtake, h.counted.filter_drop hkept]
      rfl
    · next hlost =>
      rw [bind_error, require_error]
      exact .inl ⟨by omega, rfl⟩

def Unbroken (error : ReconnectJournalError) : Prop :=
  ∀ message, error ≠ .invariantViolation message

theorem Sound.append_unbroken {error : ReconnectJournalError} (h : j.Sound log)
    (happend : j.append digest = (.error error, j')) : Unbroken error := by
  cases h.append happend with
  | refused _ herror =>
    rcases herror with rfl | rfl
    · exact fun message => nofun
    · exact fun message => nofun

theorem Sound.issue_unbroken (h : j.Sound log) :
    Ensures (fun _ => True) Unbroken (j.issueCursor sequence authenticator) := by
  rw [issueCursor, h.verified, ok_bind]
  simp only [ensures_bind, ensures_require, ensures_pure]
  exact ⟨fun _ => ⟨fun _ => trivial, fun _ message => nofun⟩, fun _ message => nofun⟩

theorem Sound.replay_unbroken (h : j.Sound log) :
    Ensures (fun _ => True) Unbroken (j.replayAfter cursor authenticator) := by
  rw [replayAfter, h.verified, ok_bind]
  simp only [ensures_bind, ensures_require]
  refine ⟨fun _ => ⟨fun _ => ⟨fun _ => ?_, fun _ message => nofun⟩, fun _ message => nofun⟩,
    fun _ message => nofun⟩
  split
  · exact trivial
  · next hmore =>
    rw [not_or] at hmore
    obtain ⟨event, rest, hevents⟩ := List.exists_cons_of_ne_nil hmore.1
    have holdest : j.oldestSequence = some event.sequence := by
      rw [oldestSequence, hevents]
      rfl
    simp only [ensures_bind, ensures_fetch, ensures_require, ensures_pure, holdest]
    exact ⟨fun _ _ => ⟨fun _ _ => ⟨fun _ => trivial, fun _ message => nofun⟩, nofun⟩,
      fun _ message => nofun⟩

inductive Chained (authenticator : ReconnectCursorAuthenticator) :
    ReconnectJournal → ReconnectCursor → List AppendCall → ReconnectJournal →
      List ReconnectEvent → Prop
  | last {j j' : ReconnectJournal} {cursor : ReconnectCursor} {calls : List AppendCall}
      {events : List ReconnectEvent} (hrun : Run reconnectJournals j calls j')
      (hreplay : j'.replayAfter cursor authenticator = .ok events) :
      Chained authenticator j cursor calls j' events
  | more {j j' final : ReconnectJournal} {cursor cursor' : ReconnectCursor}
      {calls calls' : List AppendCall} {events events' : List ReconnectEvent}
      (hrun : Run reconnectJournals j calls j')
      (hreplay : j'.replayAfter cursor authenticator = .ok events)
      (hissue : j'.issueCursor ((events.getLast?.map (·.sequence)).getD cursor.sequence)
        authenticator = .ok cursor')
      (hchained : Chained authenticator j' cursor' calls' final events') :
      Chained authenticator j cursor (calls ++ calls') final (events ++ events')

structure Issued (authenticator : ReconnectCursorAuthenticator) (j : ReconnectJournal)
    (log : List ReconnectEvent) (cursor : ReconnectCursor) : Prop where
  identity : cursor.identity = j.config.identity
  tag : cursor.tag = authenticator cursor.identity cursor.sequence
  nonzero : zeroBytes cursor.tag = false
  issued : cursor.sequence ≤ log.length

theorem Sound.issued (h : j.Sound log) (hissue : j.issueCursor sequence authenticator = .ok cursor) :
    Issued authenticator j log cursor ∧ cursor.sequence = sequence := by
  obtain ⟨hsequence, hnonzero, rfl⟩ := h.issueCursor_ok.mp hissue
  exact ⟨⟨rfl, rfl, hnonzero, hsequence⟩, rfl⟩

theorem Issued.later {log' : List ReconnectEvent} (h : Issued authenticator j log cursor)
    (hconfig : j'.config = j.config) : Issued authenticator j' (log ++ log') cursor := by
  refine ⟨hconfig ▸ h.identity, h.tag, h.nonzero, ?_⟩
  rw [List.length_append]
  exact h.issued.trans (Nat.le_add_right _ _)

theorem Issued.replay (h : Issued authenticator j log cursor) (hsound : j.Sound log)
    (hreplay : j.replayAfter cursor authenticator = .ok events) :
    events = log.drop cursor.sequence := by
  rw [hsound.replays h.identity h.tag h.nonzero h.issued] at hreplay
  split at hreplay
  · exact (Except.ok.inj hreplay).symm
  · cases hreplay

theorem Sound.last_sequence (h : j.Sound log) (hsequence : sequence ≤ log.length) :
    ((log.drop sequence).getLast?.map (·.sequence)).getD sequence = log.length := by
  rw [List.getLast?_drop]
  split
  · next hdone =>
    rw [Option.map_none, Option.getD_none]
    omega
  · next hmore =>
    have hindex : log.length - 1 < log.length := by omega
    rw [List.getLast?_eq_getElem?, List.getElem?_eq_getElem hindex, Option.map_some,
      Option.getD_some, h.counted.getElem hindex]
    omega

theorem Issued.chained {final : ReconnectJournal} (hissued : Issued authenticator j log cursor)
    (hsound : j.Sound log) (h : Chained authenticator j cursor calls final events) :
    events = (log ++ appended calls).drop cursor.sequence := by
  induction h generalizing log with
  | last hrun hreplay =>
    obtain ⟨hsound', hconfig⟩ := hsound.run hrun
    exact (hissued.later hconfig).replay hsound' hreplay
  | @more _ j' _ cursor _ calls _ _ _ hrun hreplay hissue _ ih =>
    obtain ⟨hsound', hconfig⟩ := hsound.run hrun
    have hlater : Issued authenticator j' (log ++ appended calls) cursor := hissued.later hconfig
    cases hlater.replay hsound' hreplay
    rw [hsound'.last_sequence hlater.issued] at hissue
    obtain ⟨hissued', hlatest⟩ := hsound'.issued hissue
    rw [ih hissued' hsound', hlatest, List.drop_left, appended_append, ← List.append_assoc,
      List.drop_append_of_le_length hlater.issued]

structure ReplayLaw (authenticator : ReconnectCursorAuthenticator) (j j' : ReconnectJournal)
    (log log' : List ReconnectEvent) : Prop where
  counted : log'.map (·.sequence) = List.range' 1 log'.length
  latest : ∀ cursor, j.latestCursor authenticator = .ok cursor → cursor.sequence = log.length
  exact : ∀ sequence cursor, j.issueCursor sequence authenticator = .ok cursor →
    cursor.sequence = sequence ∧
    (j'.Retains log' sequence ↔
      j'.replayAfter cursor authenticator = .ok (log'.drop sequence)) ∧
    (¬ j'.Retains log' sequence ↔ ∃ oldest, j'.oldestSequence = some oldest ∧
      j'.replayAfter cursor authenticator = .error (.cursorExpired (sequence + 1) oldest))
  chained : ∀ sequence cursor calls final events, j.issueCursor sequence authenticator = .ok cursor →
    Chained authenticator j cursor calls final events →
    events = (log ++ appended calls).drop sequence
  unbroken : ∀ message, (∀ digest, (j'.append digest).1 ≠ .error (.invariantViolation message)) ∧
    (∀ sequence, j'.issueCursor sequence authenticator ≠ .error (.invariantViolation message)) ∧
    ∀ cursor, j'.replayAfter cursor authenticator ≠ .error (.invariantViolation message)

theorem Issued.exact (h : Issued authenticator j log cursor) (hsound : j.Sound log) :
    (j.Retains log cursor.sequence ↔
      j.replayAfter cursor authenticator = .ok (log.drop cursor.sequence)) ∧
    (¬ j.Retains log cursor.sequence ↔ ∃ oldest, j.oldestSequence = some oldest ∧
      j.replayAfter cursor authenticator =
        .error (.cursorExpired (cursor.sequence + 1) oldest)) := by
  rw [hsound.retains_iff h.issued, hsound.replays h.identity h.tag h.nonzero h.issued]
  split
  · next hkept =>
    exact ⟨iff_of_true hkept rfl, iff_of_false (not_not_intro hkept) fun ⟨_, _, herror⟩ => nomatch herror⟩
  · next hlost =>
    have hlength : log ≠ [] := by
      rintro rfl
      rw [List.length_nil] at hlost
      omega
    exact ⟨iff_of_false hlost nofun, iff_of_true hlost ⟨_, hsound.oldest hlength, rfl⟩⟩

theorem reconnect_replay_exact {j₀ : ReconnectJournal} {earlier later : List AppendCall}
    (hinit : reconnectJournals.init j₀) (hearlier : Run reconnectJournals j₀ earlier j)
    (hlater : Run reconnectJournals j later j') :
    ReplayLaw authenticator j j' (appended earlier) (appended (earlier ++ later)) := by
  obtain ⟨config, hnew⟩ := hinit
  obtain ⟨hsound, -⟩ := (sound_new hnew).run hearlier
  obtain ⟨hsound', hconfig⟩ := hsound.run hlater
  rw [List.nil_append] at hsound hsound'
  rw [appended_append]
  refine ⟨hsound'.counted, ?_, ?_, ?_, ?_⟩
  · intro cursor hissue
    rw [← hsound.latest]
    exact (hsound.issued hissue).2
  · intro sequence cursor hissue
    obtain ⟨hissued, rfl⟩ := hsound.issued hissue
    exact ⟨rfl, (hissued.later hconfig).exact hsound'⟩
  · intro sequence cursor calls final events hissue hchained
    obtain ⟨hissued, rfl⟩ := hsound.issued hissue
    exact hissued.chained hsound hchained
  · intro message
    refine ⟨fun digest herror => ?_, fun sequence herror => ?_, fun cursor herror => ?_⟩
    · exact hsound'.append_unbroken (Prod.ext herror rfl) message rfl
    · exact hsound'.issue_unbroken.of_error herror message rfl
    · exact hsound'.replay_unbroken.of_error herror message rfl

def sampleIdentity : ReconnectIdentity :=
  ⟨⟨.replicate 16 1, ones_nonzero⟩, ⟨.replicate 32 2, by decide⟩, ⟨1, one_positive⟩, ⟨1, one_positive⟩⟩

def sampleJournal : ReconnectJournal := ⟨⟨1, sampleIdentity⟩, 1, []⟩

def sampleAppend (sequence : Nat) : AppendCall := (.replicate 32 3, .ok ⟨sequence, .replicate 32 3⟩)

def sampleHolding (sequence : Nat) : ReconnectJournal :=
  ⟨⟨1, sampleIdentity⟩, sequence + 1, [⟨sequence, .replicate 32 3⟩]⟩

theorem reconnect_replay_exact_sample : ReplayLaw (fun _ _ => .replicate 32 4) (sampleHolding 1)
    (sampleHolding 2) (appended [sampleAppend 1]) (appended ([sampleAppend 1] ++ [sampleAppend 2])) := by
  have hinit : reconnectJournals.init sampleJournal := ⟨⟨1, sampleIdentity⟩, rfl⟩
  have hfirst : reconnectJournals.step sampleJournal (sampleAppend 1) (sampleHolding 1) := rfl
  have hsecond : reconnectJournals.step (sampleHolding 1) (sampleAppend 2) (sampleHolding 2) := rfl
  exact reconnect_replay_exact hinit (.single hfirst) (.single hsecond)

end ReconnectJournal

end Presence
