import TrillionniumGame.Runtime.Core.Preflight

namespace Nakama
open Checks Contract Core GoText Runs
open Core.Engine

structure StoredMatch where
  logicalMatchID : GoString
  externalMatchID : GoString
  runtimeGeneration : UInt64

structure ArchiveParticipant where
  participantSlot : UInt32
  authorizationID : GoString
  subjectUserID : GoString
  agentID : GoString
  joined : Bool
  lastCommandSequence : UInt64

structure ArchiveResponse where
  schema : GoString
  logicalMatchID : GoString
  externalMatchID : GoString
  runtimeGeneration : UInt64
  status : Status
  matchVersion : UInt64
  eventCount : UInt64
  afterSequence : UInt64
  nextAfterSequence : UInt64
  hasMore : Bool
  events : List MatchEvent
  roster : List RosterEntry
  participants : List ArchiveParticipant

inductive ArchiveError where
  | inconsistent | invalidCursor

def maximumArchivePageSize : UInt32 := 128

def archiveParticipant (e : Engine) (index : Fin 2) : ArchiveParticipant where
  participantSlot := (e.claim index).participantSlot
  authorizationID := (e.claim index).authorizationID
  subjectUserID := (e.claim index).subjectUserID
  agentID := (e.claim index).agentID
  joined := (e.participants index).joined
  lastCommandSequence := (e.participants index).lastCommandSequence

def archiveResponseFor (crypto : Crypto) (record : StoredMatch) (e : Engine)
    (afterSequence : UInt64) (limit : UInt32) : Except ArchiveError ArchiveResponse := do
  let eventCount := UInt64.ofNat e.events.length
  require (¬ (record.runtimeGeneration = 0 ∨ UInt64.ofNat e.events.length ≠ eventCount))
    .inconsistent
  require (¬ (eventCount < afterSequence ∨ limit = 0 ∨ maximumArchivePageSize < limit))
    .invalidCursor
  let page := (e.events.drop afterSequence.toNat).take limit.toNat
  let nextAfterSequence := (page.getLast?.map (·.sequence)).getD afterSequence
  return {
    schema := str "trnm.nakama.archive.v1"
    logicalMatchID := record.logicalMatchID
    externalMatchID := record.externalMatchID
    runtimeGeneration := record.runtimeGeneration
    status := e.status
    matchVersion := e.version
    eventCount
    afterSequence
    nextAfterSequence
    hasMore := nextAfterSequence < eventCount
    events := page
    roster := e.roster crypto
    participants := [archiveParticipant e 0, archiveParticipant e 1] }

-- A match in storage, and a caller who reads its archive page by page.
structure ArchiveReader where
  record : StoredMatch
  engine : Engine
  nextAfterSequence : UInt64
  events : List MatchEvent

inductive ArchiveStep (crypto : Crypto) (s : ArchiveReader) : ArchiveReader → Prop
  | perform (call : Call) :
      ArchiveStep crypto s { s with engine := (s.engine.perform crypto call).2 }
  | launch (externalMatchID : GoString) :
      ArchiveStep crypto s { s with record := { s.record with externalMatchID } }
  | resume (hgeneration : s.record.runtimeGeneration + 1 ≠ 0) :
      ArchiveStep crypto s { s with record :=
        ⟨s.record.logicalMatchID, [], s.record.runtimeGeneration + 1⟩ }
  | page (limit : UInt32) (r : ArchiveResponse)
      (hpage : archiveResponseFor crypto s.record s.engine s.nextAfterSequence limit = .ok r) :
      ArchiveStep crypto s { s with
        nextAfterSequence := r.nextAfterSequence, events := s.events ++ r.events }

def archiveReads (crypto : Crypto) : System ArchiveReader Unit where
  init s := (∃ options, newMatch crypto options = .ok s.engine) ∧
    s.record.runtimeGeneration = 1 ∧ s.nextAfterSequence = 0 ∧ s.events = []
  step s _ s' := ArchiveStep crypto s s'

variable {crypto : Crypto} {e e' : Engine} {as : List (Call × Reply)} {call : Call} {reply : Reply}
  {event : MatchEvent} {s s' : ArchiveReader} {limit : UInt32}

def Numbered (events : List MatchEvent) : Prop :=
  events.map (·.sequence.toNat) = List.range' 1 events.length

def Evidence (crypto : Crypto) (events : List MatchEvent) (roster : List RosterEntry)
    (c : MatchCompletedV1) : Prop :=
  eventRoot crypto events = .ok c.eventRoot ∧ rosterRoot crypto roster = .ok c.rosterRoot

structure Archived (crypto : Crypto) (e : Engine) : Prop where
  room : e.events.length ≤ 515
  numbered : Numbered e.events
  evidence : ∀ c, e.completion = some c → Evidence crypto e.events (e.roster crypto) c

theorem Numbered.snoc (h : Numbered e.events) (hroom : e.events.length ≤ 515)
    (hevent : event.sequence = nextSequence e) : Numbered (e.events ++ [event]) := by
  rw [Numbered, List.map_append, h, List.map_singleton, hevent, toNat_nextSequence hroom,
    List.length_append, List.length_singleton, List.range'_1_concat, Nat.add_comm]

theorem buildCompletion_evidence {facts : TerminalFacts} {events : List MatchEvent}
    {now : WorldCommand.Time} {c : MatchCompletedV1}
    (h : e.buildCompletion crypto facts events now = .ok c) :
    Evidence crypto events (e.roster crypto) c := by
  simp only [buildCompletion, signCompletion, bind_ok] at h
  obtain ⟨_, hroot, _, _, _, hroster, _, _, _, _, _, _, h⟩ := h
  cases h
  exact ⟨hroot, hroster⟩

theorem Archived.move (h : Archived crypto e) (hsound : Sound crypto as e)
    (hroom : e'.events.length ≤ 515) (hmove : Move crypto e call reply e') : Archived crypto e' := by
  have hopened {c : MatchCompletedV1} (hopen : e.status ≠ .completed)
      (hc : e.completion = some c) : False :=
    hopen (hsound.ending.mpr (by rw [hc]; exact Option.some_ne_none c))
  cases hmove with
  | failed | rejoined | replayed | recompleted => exact h
  | joined _ _ _ _ index status event _ hopen _ _ _ hevent =>
    exact ⟨hroom, h.numbered.snoc h.room (buildEvent_built hevent).sequence,
      fun c hc => (hopened hopen hc).elim⟩
  | applied _ _ _ r index fingerprint _ hauth _ _ hevent =>
    have hopen : e.status ≠ .completed := by
      rcases (authenticate_ok.mp hauth).1 with hstatus | hstatus <;> simp [hstatus]
    exact ⟨hroom, h.numbered.snoc h.room (buildEvent_built hevent).sequence,
      fun c hc => (hopened hopen hc).elim⟩
  | completed _ _ c _ event _ _ _ hevent hbuild =>
    refine ⟨hroom, h.numbered.snoc h.room (buildEvent_built hevent).sequence, fun c' hc => ?_⟩
    cases hc
    exact buildCompletion_evidence hbuild

theorem run_archived {options : NewMatchOptions} {e₀ : Engine}
    (hinit : newMatch crypto options = .ok e₀) (hrun : Run (engineSystem crypto) e₀ as e) :
    Archived crypto e := by
  induction hrun with
  | nil =>
    simp only [newMatch, bind_ok] at hinit
    obtain ⟨_, _, key, _, one, hone, two, htwo, _, _, hinit⟩ := hinit
    cases hinit
    obtain ⟨_, _, rfl⟩ := addParticipant_ok hone
    obtain ⟨_, _, rfl⟩ := addParticipant_ok htwo
    exact ⟨Nat.zero_le _, rfl, fun _ h => by cases h⟩
  | snoc hrun hstep ih =>
    have hsound := run_sound hrun (newMatch_sound hinit)
    have hlater := run_sound (hrun.snoc hstep) (newMatch_sound hinit)
    have hcounted := run_counted (hrun.snoc hstep) (newMatch_counted hinit)
    exact ih.move hsound (hcounted.room hlater.bounded) (perform_move hstep)

structure Reading (crypto : Crypto) (s : ArchiveReader) : Prop where
  durable : ∃ options e₀ as, newMatch crypto options = .ok e₀ ∧
    Run (engineSystem crypto) e₀ as s.engine
  generation : s.record.runtimeGeneration ≠ 0
  cursor : s.nextAfterSequence.toNat ≤ s.engine.events.length
  events : s.events = s.engine.events.take s.nextAfterSequence.toNat

theorem Reading.archived (h : Reading crypto s) : Archived crypto s.engine := by
  obtain ⟨options, e₀, as, hinit, hrun⟩ := h.durable
  exact run_archived hinit hrun

theorem Numbered.last {events : List MatchEvent} (h : Numbered events) {cursor : UInt64}
    (hcursor : cursor.toNat ≤ events.length) {limit : Nat} (hlimit : 0 < limit) :
    ((((events.drop cursor.toNat).take limit).getLast?.map (·.sequence)).getD cursor).toNat =
      min (cursor.toNat + limit) events.length := by
  have hlength : ((events.drop cursor.toNat).take limit).length =
      min limit (events.length - cursor.toNat) := by
    rw [List.length_take, List.length_drop]
  rw [List.getLast?_eq_getElem?, hlength]
  by_cases hmore : cursor.toNat < events.length
  · have hindex : cursor.toNat + (min limit (events.length - cursor.toNat) - 1) < events.length := by
      omega
    have hnumber := congrArg (·[cursor.toNat + (min limit (events.length - cursor.toNat) - 1)]?) h
    rw [List.getElem?_take_of_lt (by omega), List.getElem?_drop, List.getElem?_eq_getElem hindex]
    simp only [List.getElem?_map, List.getElem?_eq_getElem hindex, Option.map_some,
      List.getElem?_range' hindex, Option.some.injEq] at hnumber
    rw [Option.map_some, Option.getD_some]
    omega
  · rw [List.drop_eq_nil_of_le (by omega), List.take_nil]
    change cursor.toNat = _
    omega

structure Page (crypto : Crypto) (s : ArchiveReader) (limit : UInt32) (r : ArchiveResponse) :
    Prop where
  next : r.nextAfterSequence.toNat =
    min (s.nextAfterSequence.toNat + limit.toNat) s.engine.events.length
  events : s.events ++ r.events = s.engine.events.take r.nextAfterSequence.toNat
  hasMore : r.hasMore = true ↔ r.nextAfterSequence.toNat < s.engine.events.length
  roster : r.roster = s.engine.roster crypto
  limit : 0 < limit.toNat

theorem Reading.page {r : ArchiveResponse} (h : Reading crypto s)
    (hpage : archiveResponseFor crypto s.record s.engine s.nextAfterSequence limit = .ok r) :
    Page crypto s limit r := by
  have harchived := h.archived
  have hroom := harchived.room
  simp only [archiveResponseFor, bind_ok, require_ok] at hpage
  obtain ⟨-, -, -, hlimit, hpage⟩ := hpage
  cases hpage
  have hpositive : 0 < limit.toNat := Nat.pos_of_ne_zero fun hzero =>
    hlimit (.inr (.inl (UInt32.toNat_inj.mp hzero)))
  have hnext := harchived.numbered.last h.cursor hpositive
  refine ⟨hnext, ?_, ?_, rfl, hpositive⟩
  · dsimp only
    rw [hnext, h.events, ← List.take_add, List.take_eq_take_iff]
    omega
  · dsimp only
    rw [decide_eq_true_iff, UInt64.lt_iff_toNat_lt, UInt64.toNat_ofNat', Nat.mod_eq_of_lt (by omega)]

theorem Reading.reads (h : Reading crypto s) (hpositive : 1 ≤ limit)
    (hmaximum : limit ≤ maximumArchivePageSize) :
    ∃ r, archiveResponseFor crypto s.record s.engine s.nextAfterSequence limit = .ok r := by
  have hroom := h.archived.room
  have hcursor := h.cursor
  rw [archiveResponseFor]
  dsimp only
  rw [require_of, ok_bind, require_of]
  · exact ⟨_, rfl⟩
  · rw [UInt64.lt_iff_toNat_lt, UInt64.toNat_ofNat']
    rintro (hpast | rfl | hlarge)
    · omega
    · exact absurd hpositive (by decide)
    · exact absurd hlarge (UInt32.not_lt.mpr hmaximum)
  · exact fun hbad => hbad.elim h.generation fun hne => hne rfl

theorem Reading.step (h : Reading crypto s) (hstep : ArchiveStep crypto s s') :
    Reading crypto s' := by
  cases hstep with
  | perform call =>
    obtain ⟨options, e₀, as, hinit, hrun⟩ := h.durable
    have hgrows : s.engine.events <+: (s.engine.perform crypto call).2.events :=
      (perform_move (rfl : s.engine.perform crypto call = _)).extends.events
    obtain ⟨later, hlater⟩ := hgrows
    refine ⟨⟨options, e₀, _, hinit, hrun.snoc (a := (call, (s.engine.perform crypto call).1)) rfl⟩, h.generation, ?_, ?_⟩
    · dsimp only
      rw [← hlater, List.length_append]
      exact h.cursor.trans (Nat.le_add_right _ _)
    · dsimp only
      rw [← hlater, List.take_append_of_le_length h.cursor]
      exact h.events
  | launch externalMatchID => exact ⟨h.durable, h.generation, h.cursor, h.events⟩
  | resume hgeneration => exact ⟨h.durable, hgeneration, h.cursor, h.events⟩
  | page limit r hpage =>
    have hread := h.page hpage
    refine ⟨h.durable, h.generation, ?_, hread.events⟩
    dsimp only
    rw [hread.next]
    exact min_le_right _ _

theorem reachable_reading (h : Reachable (archiveReads crypto) s) : Reading crypto s := by
  refine h.invariant (fun s hinit => ?_) fun _ _ _ => Reading.step
  obtain ⟨⟨options, hnew⟩, hgeneration, hcursor, hevents⟩ := hinit
  refine ⟨⟨options, _, _, hnew, .nil _⟩, ?_, ?_, ?_⟩
  · rw [hgeneration]
    decide
  · rw [hcursor]
    exact Nat.zero_le _
  · rw [hcursor, hevents]
    rfl

structure Lossless (crypto : Crypto) (s : ArchiveReader) (r : ArchiveResponse) : Prop where
  progress : r.hasMore = true → s.nextAfterSequence < r.nextAfterSequence
  ends : r.hasMore = false ↔ r.nextAfterSequence.toNat = s.engine.events.length
  passed : s.events ++ r.events = s.engine.events.take r.nextAfterSequence.toNat
  numbered : Numbered (s.events ++ r.events)
  whole : r.hasMore = false → s.events ++ r.events = s.engine.events
  evidence : r.hasMore = false → ∀ c, s.engine.completion = some c →
    validateArchive crypto (s.events ++ r.events) = .ok () ∧
      Evidence crypto (s.events ++ r.events) r.roster c

theorem Reading.lossless {r : ArchiveResponse} (h : Reading crypto s)
    (hpage : archiveResponseFor crypto s.record s.engine s.nextAfterSequence limit = .ok r) :
    Lossless crypto s r := by
  have hread := h.page hpage
  have hnext := hread.next
  have hlimit := hread.limit
  have hends : r.hasMore = false ↔ r.nextAfterSequence.toNat = s.engine.events.length := by
    rw [← Bool.not_eq_true, hread.hasMore]
    omega
  have hwhole (hlast : r.hasMore = false) : s.events ++ r.events = s.engine.events := by
    rw [hread.events, hends.mp hlast, List.take_length]
  refine ⟨fun hmore => ?_, hends, hread.events, ?_, hwhole, fun hlast c hc => ?_⟩
  · have hless := hread.hasMore.mp hmore
    rw [UInt64.lt_iff_toNat_lt]
    omega
  · rw [hread.events, Numbered, List.map_take, h.archived.numbered, List.length_take,
      List.take_range'_of_length_ge (by omega)]
    congr 1
    omega
  · rw [hwhole hlast, hread.roster]
    have hevidence := h.archived.evidence c hc
    obtain ⟨⟨⟩, hvalid, -⟩ := bind_ok.mp hevidence.1
    exact ⟨hvalid, hevidence⟩

theorem archive_pages_lossless (crypto : Crypto) (s : ArchiveReader)
    (h : Reachable (archiveReads crypto) s) (limit : UInt32) (hpositive : 1 ≤ limit)
    (hmaximum : limit ≤ maximumArchivePageSize) :
    ∃ r, archiveResponseFor crypto s.record s.engine s.nextAfterSequence limit = .ok r ∧
      Lossless crypto s r := by
  have hreading := reachable_reading h
  obtain ⟨r, hpage⟩ := hreading.reads hpositive hmaximum
  exact ⟨r, hpage, hreading.lossless hpage⟩

theorem reachable_traced (h : Reachable (archiveReads crypto) s) (calls : List Call) :
    Reachable (archiveReads crypto)
      { s with engine := (trace (Engine.perform crypto) s.engine calls).2 } := by
  induction calls generalizing s with
  | nil => exact h
  | cons call calls ih => exact ih (h.run (.single (a := ()) (ArchiveStep.perform call)))

theorem archive_pages_lossless_sample : ∃ s r, Reachable (archiveReads sampleCrypto) s ∧
    s.engine.status = .completed ∧ s.engine.events.length = 4 ∧ s.events.length = 3 ∧
      archiveResponseFor sampleCrypto s.record s.engine s.nextAfterSequence 3 = .ok r ∧
        r.hasMore = false ∧ Lossless sampleCrypto s r := by
  obtain ⟨e₀, hinit, hplayed⟩ := ok_of_map sample_played
  obtain ⟨hstatus, hrest⟩ := Prod.mk.inj hplayed
  have hcount : (played e₀).2.events.length = 4 := (Prod.mk.inj hrest).1
  have hplay : Reachable (archiveReads sampleCrypto)
      ⟨⟨str "m-1", [], 1⟩, (played e₀).2, 0, []⟩ :=
    reachable_traced (.start (s := ⟨⟨str "m-1", [], 1⟩, e₀, 0, []⟩)
      ⟨⟨sampleOptions, hinit⟩, rfl, rfl, rfl⟩) (sampleJoins ++ sampleMoves)
  obtain ⟨first, hfirst, -⟩ :=
    archive_pages_lossless sampleCrypto _ hplay 3 (by decide) (by decide)
  have hread := hplay.run (.single (a := ()) (ArchiveStep.page 3 first hfirst))
  obtain ⟨second, hsecond, hlossless⟩ :=
    archive_pages_lossless sampleCrypto _ hread 3 (by decide) (by decide)
  have hthree := ((reachable_reading hplay).page hfirst).next
  have hfour := ((reachable_reading hread).page hsecond).next
  dsimp only at hthree hfour
  rw [hcount] at hthree hfour
  rw [hthree] at hfour
  refine ⟨_, second, hread, hstatus, hcount, ?_, hsecond, ?_, hlossless⟩
  · rw [(reachable_reading hread).events, List.length_take]
    dsimp only
    rw [hthree, hcount]
    rfl
  · refine hlossless.ends.mpr ?_
    dsimp only
    rw [hfour, hcount]
    rfl

end Nakama
