import TrillionniumGame.Runtime.Contract.Totality
import TrillionniumGame.Runtime.Core.Once

namespace Core
open Calls Checks Contract FiniteMap GoText Runs
open Engine
open WorldCommand (Time)

variable {crypto : Crypto} {e e' : Engine} {as : List (Call × Reply)} {now : Time}
  {index : Fin 2} {fingerprint : Digest}

def nextSequence (e : Engine) : UInt64 := UInt64.ofNat (e.events.length + 1)

structure Counted (e : Engine) : Prop where
  version : e.version = nextSequence e
  length : e.events.length ≤
    e.joinedCount + e.commands.keys.card + (if e.status = .completed then 1 else 0)

theorem joinedCount_le (e : Engine) : e.joinedCount ≤ 2 := by
  unfold joinedCount
  split <;> split <;> omega

theorem joinedCount_afterJoin {status : Status} {event : MatchEvent}
    (hnew : (e.participants index).joined = false) :
    (e.afterJoin index status event).joinedCount = e.joinedCount + 1 := by
  unfold joinedCount afterJoin
  fin_cases index
  · simp only [Fin.zero_eta, Fin.isValue] at hnew ⊢
    simp [hnew, Nat.add_comm]
  · simp only [Fin.mk_one, Fin.isValue] at hnew ⊢
    simp [hnew]

theorem nextSequence_snoc {event : MatchEvent} (h : e'.events = e.events ++ [event]) :
    nextSequence e' = nextSequence e + 1 := by
  rw [nextSequence, nextSequence, h, List.length_append, List.length_singleton, UInt64.ofNat_add]
  rfl

theorem joinedCount_afterApply (index : Fin 2) (record : CommandRecord) :
    (e.afterApply index record).joinedCount = e.joinedCount := by
  unfold joinedCount afterApply
  fin_cases index
  · simp
  · simp

theorem afterJoin_events (e : Engine) (index : Fin 2) (status : Status) (event : MatchEvent) :
    (e.afterJoin index status event).events = e.events ++ [event] := rfl

theorem afterApply_events (e : Engine) (index : Fin 2) (record : CommandRecord) :
    (e.afterApply index record).events = e.events ++ [record.event] := rfl

theorem afterComplete_events (e : Engine) (facts : TerminalFacts) (completion : MatchCompletedV1)
    (event : MatchEvent) : (e.afterComplete facts completion event).events = e.events ++ [event] :=
  rfl

theorem Counted.move {call : Call} {reply : Reply} (h : Counted e)
    (hmove : Move crypto e call reply e') : Counted e' := by
  cases hmove with
  | failed | rejoined | replayed | recompleted => exact h
  | joined _ _ _ _ index status event _ hopen _ hnew hstatus hevent =>
    have hversion := (buildEvent_ok hevent).2
    have hlength := h.length
    rw [if_neg hopen] at hlength
    refine ⟨?_, ?_⟩
    · rw [nextSequence_snoc (afterJoin_events e index status event), ← h.version]
      exact hversion
    · rw [joinedCount_afterJoin hnew]
      change (e.events ++ [event]).length ≤ e.joinedCount + 1 + e.commands.keys.card + _
      rw [List.length_append, List.length_singleton]
      omega
  | applied _ _ _ r index fingerprint _ hauth hlookup _ hevent =>
    have hversion := (buildEvent_ok hevent).2
    have hopen : e.status ≠ .completed := by
      rcases (authenticate_ok.mp hauth).1 with hstatus | hstatus <;> simp [hstatus]
    have hlength := h.length
    rw [if_neg hopen] at hlength
    refine ⟨?_, ?_⟩
    · rw [nextSequence_snoc (afterApply_events e index _), ← h.version]
      exact hversion
    · change (e.events ++ [r.event]).length ≤ _
      rw [List.length_append, List.length_singleton, joinedCount_afterApply, afterApply,
        card_keys_insert (Finmap.lookup_eq_none.mp hlookup)]
      omega
  | completed _ _ _ _ event _ hopen hactive hevent _ =>
    have hversion := (buildEvent_ok hevent).2
    have hlength := h.length
    rw [hactive] at hlength
    refine ⟨?_, ?_⟩
    · rw [nextSequence_snoc (afterComplete_events e _ _ event), ← h.version]
      exact hversion
    · change (e.events ++ [event]).length ≤ e.joinedCount + e.commands.keys.card + 1
      rw [List.length_append, List.length_singleton]
      simpa using hlength

theorem newMatch_counted {options : NewMatchOptions} (h : newMatch crypto options = .ok e) :
    Counted e := by
  simp only [newMatch, bind_ok] at h
  obtain ⟨_, _, key, _, one, hone, two, htwo, _, _, h⟩ := h
  cases h
  obtain ⟨_, _, rfl⟩ := addParticipant_ok hone
  obtain ⟨_, _, rfl⟩ := addParticipant_ok htwo
  exact ⟨rfl, Nat.zero_le _⟩

theorem run_counted {e₀ : Engine} (hrun : Run (engineSystem crypto) e₀ as e) (hinit : Counted e₀) :
    Counted e := by
  induction hrun with
  | nil => exact hinit
  | snoc _ hstep ih => exact ih.move (perform_move hstep)

theorem Counted.room (h : Counted e) (hcard : e.commands.keys.card ≤ maxCommandsPerMatch) :
    e.events.length ≤ 515 := by
  have hlength := h.length
  have hjoined := joinedCount_le e
  have hmax : e.commands.keys.card ≤ 512 := hcard
  split at hlength <;> omega

theorem toNat_nextSequence (h : e.events.length ≤ 515) :
    (nextSequence e).toNat = e.events.length + 1 := by
  rw [nextSequence, UInt64.toNat_ofNat']
  omega

structure Built (crypto : Crypto) (e : Engine) (eventType causationID : GoString) (now : Time)
    (slot : UInt32) (payloadType payload : GoString) (event : MatchEvent) : Prop where
  schema : event.schema = eventSchema
  eventID : canonicalEventID crypto e.matchID (nextSequence e) causationID = .ok event.eventID
  eventType : event.eventType = eventType
  matchID : event.matchID = e.matchID
  challengeID : event.challengeID = e.challengeID
  sequence : event.sequence = nextSequence e
  causationID : event.causationID = causationID
  time : event.occurredAtUnix = now.unix
  slot : event.participantSlot = slot
  version : event.matchVersion = e.version + 1
  payloadHash : event.payloadHash = newDigest crypto payload
  payloadType : event.payloadType = payloadType
  payload : event.payload = payload
  eventHash : computeEventHash crypto event = .ok event.eventHash
  later : ∀ last ∈ e.events.getLast?, last.occurredAtUnix ≤ now.unix

variable {eventType causationID payloadType payload : GoString} {slot : UInt32}
  {event : MatchEvent}

theorem buildEvent_built
    (h : e.buildEvent crypto eventType causationID now slot payloadType payload = .ok event) :
    Built crypto e eventType causationID now slot payloadType payload event := by
  simp only [buildEvent, sealEvent, bind_ok, require_ok, mapError_ok] at h
  obtain ⟨-, -, -, hlater, eventID, heventID, hash, hhash, h⟩ := h
  cases h
  exact ⟨rfl, heventID, rfl, rfl, rfl, rfl, rfl, rfl, rfl, rfl, rfl, rfl, rfl, hhash, hlater⟩

structure Titled (e : Engine) : Prop where
  matchID : IsText e.matchID
  logical : validateLogicalMatchID e.matchID = .ok ()
  challengeID : IsText e.challengeID

theorem buildEvent_exists (htitled : Titled e) (hcounted : Counted e)
    (hroom : e.events.length ≤ 515) (htype : IsText eventType) (hcausation : IsText causationID)
    (hslot : slot ≤ 2) (hpayloadType : IsText payloadType) (hpayload : payload ≠ [])
    (hsize : payload.length ≤ maxPayloadBytes) (hnow : now.isZero = false ∧ 0 ≤ now.unix)
    (hlater : ∀ last ∈ e.events.getLast?, last.occurredAtUnix ≤ now.unix) :
    ∃ event, e.buildEvent crypto eventType causationID now slot payloadType payload =
      .ok event := by
  have hsequence := toNat_nextSequence hroom
  have hpositive : nextSequence e ≠ 0 := by
    intro hzero
    rw [hzero] at hsequence
    exact absurd hsequence (Nat.succ_ne_zero _).symm
  have hversion : e.version + 1 ≠ 0 := by
    intro hzero
    have hnext := congrArg UInt64.toNat hzero
    rw [hcounted.version, Words.toNat_succ_of_lt (by omega)] at hnext
    exact absurd hnext (Nat.succ_ne_zero _)
  obtain ⟨b, hb⟩ := eventIDBytes_exists htitled.logical htitled.matchID hpositive hcausation
  have hid : canonicalEventID crypto e.matchID (nextSequence e) causationID =
      .ok (newDigest crypto b) := by
    rw [canonicalEventID, hb]
    rfl
  have hsealable : Sealable
      { schema := eventSchema
        eventID := newDigest crypto b
        eventType
        matchID := e.matchID
        challengeID := e.challengeID
        sequence := nextSequence e
        causationID
        occurredAtUnix := now.unix
        participantSlot := slot
        matchVersion := e.version + 1
        payloadType
        payload
        payloadHash := []
        eventHash := [] } :=
    ⟨rfl, isText_newDigest crypto b, htype, htitled.matchID, htitled.logical, htitled.challengeID,
      hcausation, hpayloadType, hpositive, hversion, hslot, hnow.2, hpayload, hsize⟩
  have hsealed : ∃ hash, sealEvent crypto _ = .ok _ := hsealable.seals
  obtain ⟨hash, hseal⟩ := hsealed
  rw [nextSequence] at hseal
  rw [buildEvent, require_of hnow, ok_bind, require_of hlater, ok_bind]
  change ∃ event, ((canonicalEventID crypto e.matchID (nextSequence e) causationID).mapError
    failure >>= _) = .ok event
  rw [hid]
  change ∃ event, (sealEvent crypto _).mapError failure = .ok event
  rw [hseal]
  exact ⟨_, rfl⟩

end Core
