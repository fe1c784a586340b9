import TrillionniumGame.Foundation.Runs
import TrillionniumGame.Runtime.Contract.Frames
import TrillionniumGame.Runtime.Core.Engine

namespace Core
open Calls Checks Contract FiniteMap GoText Runs
open WorldCommand (Time)

inductive Call where
  | join (userID authorizationID : GoString) (now : Time)
  | apply (userID : GoString) (command : CommandEnvelope) (now : Time)
  | complete (facts : TerminalFacts) (now : Time)

inductive Reply where
  | joined (result : JoinResult)
  | applied (result : ApplyResult)
  | completed (completion : MatchCompletedV1)
  | failed (f : Failure)

def Reply.of {α : Type} (make : α → Reply) : Except Failure α → Reply
  | .ok a => make a
  | .error f => .failed f

variable {crypto : Crypto}

namespace Engine

variable (e : Engine)

variable (crypto) in
def perform : Call → Reply × Engine
  | .join userID authorizationID now =>
    (join crypto userID authorizationID now e).map (Reply.of .joined) id
  | .apply userID command now => (applyCommand crypto userID command now e).map (Reply.of .applied) id
  | .complete facts now => (complete crypto facts now e).map (Reply.of .completed) id

def afterJoin (index : Fin 2) (status : Status) (event : MatchEvent) : Engine :=
  { e with
    status
    version := event.matchVersion
    participants := Function.update e.participants index
      { e.participants index with joined := true }
    events := e.events ++ [event] }

def afterApply (index : Fin 2) (record : CommandRecord) : Engine :=
  { e with
    status := .active
    version := record.event.matchVersion
    participants := Function.update e.participants index
      { e.participants index with lastCommandSequence := record.command.participantSequence }
    commands := e.commands.insert record.command.commandID record
    events := e.events ++ [record.event] }

def afterComplete (facts : TerminalFacts) (completion : MatchCompletedV1)
    (event : MatchEvent) : Engine :=
  { e with
    status := .completed
    version := event.matchVersion
    events := e.events ++ [event]
    terminalFacts := some facts
    completion := some completion }

end Engine

open Engine

variable {e e' : Engine} {userID : GoString} {now : Time}

theorem join_ok {authorizationID : GoString} {r : JoinResult}
    (h : Ran (join crypto userID authorizationID now) e (.ok r) e') :
    (r.replay = true ∧ e' = e) ∨
      ∃ index status event, r.replay = false ∧ e.status ≠ .completed ∧
        e.findParticipant authorizationID = .ok index ∧ (e.participants index).joined = false ∧
        joinedStatus (e.joinedCount + 1) = .ok status ∧
        e.buildEvent crypto (str "participant_joined") (e.claim index).authorizationID now
          (e.claim index).participantSlot (str "trnm.participant.joined.v1")
          (encodeJoinPayload (e.claim index).participantSlot (e.claim index).subjectUserID
            (e.claim index).authorizationID (e.claim index).agentID) = .ok event ∧
        e' = e.afterJoin index status event := by
  simp only [join, ran_bind, ran_read, ran_check, require_ok] at h
  obtain ⟨_, _, ⟨rfl, rfl⟩, _, _, ⟨hstatus, rfl⟩, index, _, ⟨hindex, rfl⟩, _, _, ⟨huser, rfl⟩, h⟩ := h
  by_cases hjoined : (e.participants index).joined = true
  · rw [if_pos hjoined, ran_pure] at h
    obtain ⟨rfl, rfl⟩ := h
    exact .inl ⟨rfl, rfl⟩
  · rw [if_neg hjoined] at h
    simp only [appendEvent, ran_bind, ran_read, ran_check, ran_write, ran_pure, require_ok] at h
    obtain ⟨_, _, ⟨_, rfl⟩, status, _, ⟨hnext, rfl⟩, event, _, happend, h⟩ := h
    obtain ⟨_, _, ⟨rfl, rfl⟩, event', _, ⟨hevent, rfl⟩, _, _, rfl, _, _, rfl, rfl, rfl⟩ := happend
    obtain ⟨_, _, rfl, _, _, rfl, _, _, ⟨rfl, rfl⟩, rfl, rfl⟩ := h
    exact .inr ⟨index, status, event', rfl, hstatus, hindex, by simpa using hjoined, hnext, hevent, rfl⟩

theorem apply_ok {command : CommandEnvelope} {r : ApplyResult}
    (h : Ran (applyCommand crypto userID command now) e (.ok r) e') :
    ∃ index fingerprint, e.authenticate crypto userID command = .ok (index, fingerprint) ∧
      ((∃ previous, e.commands.lookup command.commandID = some previous ∧
          previous.fingerprint = fingerprint ∧ r = ⟨true, previous.event, e.status, e.version⟩ ∧
          e' = e) ∨
        ∃ event, e.commands.lookup command.commandID = none ∧ r.replay = false ∧
          r.event = event ∧ e.checkNew index command now = .ok () ∧
          e.buildEvent crypto (str "agent_command_applied") command.commandID now
            (e.claim index).participantSlot command.payloadType command.payload = .ok event ∧
          e' = e.afterApply index ⟨command, fingerprint, event⟩) := by
  simp only [applyCommand, ran_bind, ran_read, ran_check] at h
  obtain ⟨_, _, ⟨rfl, rfl⟩, ⟨index, fingerprint⟩, _, ⟨hauth, rfl⟩, h⟩ := h
  refine ⟨index, fingerprint, hauth, ?_⟩
  cases hlookup : e.commands.lookup command.commandID with
  | some previous =>
    simp only [hlookup, ran_bind, ran_check, ran_pure, require_ok] at h
    obtain ⟨_, _, ⟨hsame, rfl⟩, rfl, rfl⟩ := h
    exact .inl ⟨previous, rfl, hsame, rfl, rfl⟩
  | none =>
    simp only [hlookup, ran_bind, ran_read, ran_check, ran_write, ran_pure] at h
    obtain ⟨_, _, ⟨hnew, rfl⟩, event, _, ⟨hevent, rfl⟩, slot, _, ⟨_, rfl⟩, _, _, ⟨_, rfl⟩, h⟩ := h
    obtain ⟨_, _, rfl, _, _, rfl, _, _, rfl, _, _, rfl, _, _, rfl, _, _, ⟨rfl, rfl⟩, rfl, rfl⟩ := h
    exact .inr ⟨event, rfl, rfl, rfl, hnew, hevent, rfl⟩

theorem complete_ok {facts : TerminalFacts} {c : MatchCompletedV1}
    (h : Ran (complete crypto facts now) e (.ok c) e') :
    ∃ factsBytes, facts.canonicalBytes = .ok factsBytes ∧
      ((e.completion = some c ∧ e.recordedFacts = factsBytes ∧ e' = e) ∨
        ∃ event, e.completion = none ∧ e.status = .active ∧
          e.buildEvent crypto (str "match_completed")
            (newDigest crypto (str "authority:complete:" ++ factsBytes)) now 0
            (str "trnm.match.terminal-facts.v1") factsBytes = .ok event ∧
          e.buildCompletion crypto facts (e.events ++ [event]) now = .ok c ∧
          e' = e.afterComplete facts c event) := by
  simp only [complete, ran_bind, ran_read, ran_check, mapError_ok] at h
  obtain ⟨_, _, ⟨rfl, rfl⟩, factsBytes, _, ⟨hfacts, rfl⟩, h⟩ := h
  refine ⟨factsBytes, hfacts, ?_⟩
  cases hcompletion : e.completion with
  | some completion =>
    simp only [hcompletion, ran_bind, ran_check, ran_pure, require_ok] at h
    obtain ⟨_, _, ⟨hsame, rfl⟩, rfl, rfl⟩ := h
    exact .inl ⟨rfl, hsame, rfl⟩
  | none =>
    simp only [hcompletion, ran_bind, ran_check, ran_write, ran_pure, require_ok, mapError_ok] at h
    obtain ⟨_, _, ⟨hactive, rfl⟩, _, _, ⟨_, rfl⟩, event, _, ⟨hevent, rfl⟩, completion, _,
      ⟨hbuild, rfl⟩, _, _, ⟨_, rfl⟩, h⟩ := h
    obtain ⟨_, _, rfl, _, _, rfl, _, _, rfl, _, _, rfl, _, _, rfl, rfl, rfl⟩ := h
    exact .inr ⟨event, rfl, hactive, hevent, hbuild, rfl⟩

theorem appendEvent_clean (eventType causationID : GoString) (now : Time) (slot : UInt32)
    (payloadType payload : GoString) :
    Clean (appendEvent crypto eventType causationID now slot payloadType payload) :=
  reads_read.bind fun _ => (reads_check _).bind fun _ =>
    ((succeeds_write _).bind fun _ => (succeeds_write _).bind fun _ => succeeds_pure _).clean

theorem join_clean (userID authorizationID : GoString) (now : Time) :
    Clean (join crypto userID authorizationID now) := by
  refine reads_read.bind fun e => (reads_check _).bind fun _ => (reads_check _).bind fun index =>
    (reads_check _).bind fun _ => ?_
  split
  · exact (succeeds_pure _).clean
  · refine (reads_check _).bind fun _ => (reads_check _).bind fun _ => ?_
    exact (appendEvent_clean _ _ _ _ _ _).bind fun _ => (succeeds_write _).bind fun _ =>
      (succeeds_write _).bind fun _ => succeeds_read.bind fun _ => succeeds_pure _

theorem apply_clean (userID : GoString) (command : CommandEnvelope) (now : Time) :
    Clean (applyCommand crypto userID command now) := by
  refine reads_read.bind fun e => (reads_check _).bind fun (index, fingerprint) => ?_
  dsimp only
  split
  · exact (reads_check _).bind fun _ => (succeeds_pure _).clean
  · refine (reads_check _).bind fun _ => (reads_check _).bind fun _ => (reads_check _).bind fun _ =>
      (reads_check _).bind fun _ => Succeeds.clean ?_
    exact (succeeds_write _).bind fun _ => (succeeds_write _).bind fun _ =>
      (succeeds_write _).bind fun _ => (succeeds_write _).bind fun _ =>
        (succeeds_write _).bind fun _ => succeeds_read.bind fun _ => succeeds_pure _

theorem complete_clean (facts : TerminalFacts) (now : Time) :
    Clean (complete crypto facts now) := by
  refine reads_read.bind fun e => (reads_check _).bind fun factsBytes => ?_
  split
  · exact (reads_check _).bind fun _ => (succeeds_pure _).clean
  · refine (reads_check _).bind fun _ => (reads_check _).bind fun _ => (reads_check _).bind fun _ =>
      (reads_check _).bind fun _ => (reads_check _).bind fun _ => Succeeds.clean ?_
    exact (succeeds_write _).bind fun _ => (succeeds_write _).bind fun _ =>
      (succeeds_write _).bind fun _ => (succeeds_write _).bind fun _ =>
        (succeeds_write _).bind fun _ => succeeds_pure _

inductive Move (crypto : Crypto) (e : Engine) : Call → Reply → Engine → Prop
  | failed (call : Call) (f : Failure) : Move crypto e call (.failed f) e
  | rejoined (userID authorizationID : GoString) (now : Time) (r : JoinResult)
      (hreplay : r.replay = true) : Move crypto e (.join userID authorizationID now) (.joined r) e
  | joined (userID authorizationID : GoString) (now : Time) (r : JoinResult) (index : Fin 2)
      (status : Status) (event : MatchEvent) (hreplay : r.replay = false)
      (hopen : e.status ≠ .completed) (hindex : e.findParticipant authorizationID = .ok index)
      (hnew : (e.participants index).joined = false)
      (hstatus : joinedStatus (e.joinedCount + 1) = .ok status)
      (hevent : e.buildEvent crypto (str "participant_joined") (e.claim index).authorizationID now
        (e.claim index).participantSlot (str "trnm.participant.joined.v1")
        (encodeJoinPayload (e.claim index).participantSlot (e.claim index).subjectUserID
          (e.claim index).authorizationID (e.claim index).agentID) = .ok event) :
      Move crypto e (.join userID authorizationID now) (.joined r) (e.afterJoin index status event)
  | replayed (userID : GoString) (command : CommandEnvelope) (now : Time) (index : Fin 2)
      (previous : CommandRecord)
      (hauth : e.authenticate crypto userID command = .ok (index, previous.fingerprint))
      (hlookup : e.commands.lookup command.commandID = some previous) :
      Move crypto e (.apply userID command now)
        (.applied ⟨true, previous.event, e.status, e.version⟩) e
  | applied (userID : GoString) (command : CommandEnvelope) (now : Time) (r : ApplyResult)
      (index : Fin 2) (fingerprint : Digest) (hreplay : r.replay = false)
      (hauth : e.authenticate crypto userID command = .ok (index, fingerprint))
      (hlookup : e.commands.lookup command.commandID = none)
      (hnew : e.checkNew index command now = .ok ())
      (hevent : e.buildEvent crypto (str "agent_command_applied") command.commandID now
        (e.claim index).participantSlot command.payloadType command.payload = .ok r.event) :
      Move crypto e (.apply userID command now) (.applied r)
        (e.afterApply index ⟨command, fingerprint, r.event⟩)
  | recompleted (facts : TerminalFacts) (now : Time) (c : MatchCompletedV1)
      (hfacts : facts.canonicalBytes = .ok e.recordedFacts) (hcompletion : e.completion = some c) :
      Move crypto e (.complete facts now) (.completed c) e
  | completed (facts : TerminalFacts) (now : Time) (c : MatchCompletedV1) (factsBytes : GoString)
      (event : MatchEvent) (hfacts : facts.canonicalBytes = .ok factsBytes)
      (hopen : e.completion = none) (hactive : e.status = .active)
      (hevent : e.buildEvent crypto (str "match_completed")
        (newDigest crypto (str "authority:complete:" ++ factsBytes)) now 0
        (str "trnm.match.terminal-facts.v1") factsBytes = .ok event)
      (hbuild : e.buildCompletion crypto facts (e.events ++ [event]) now = .ok c) :
      Move crypto e (.complete facts now) (.completed c) (e.afterComplete facts c event)

theorem perform_move {call : Call} {reply : Reply} (h : e.perform crypto call = (reply, e')) :
    Move crypto e call reply e' := by
  cases call with
  | join userID authorizationID now =>
    simp only [perform] at h
    rcases hran : join crypto userID authorizationID now e with ⟨f | r, t⟩
    · rw [hran] at h
      cases h
      obtain rfl := join_clean _ _ _ _ _ _ hran
      exact .failed _ f
    · rw [hran] at h
      cases h
      rcases join_ok hran with ⟨hreplay, rfl⟩ | ⟨index, status, event, hreplay, hopen, hindex, hnew,
        hstatus, hevent, rfl⟩
      · exact .rejoined userID authorizationID now r hreplay
      · exact .joined userID authorizationID now r index status event hreplay hopen hindex hnew
          hstatus hevent
  | apply userID command now =>
    simp only [perform] at h
    rcases hran : applyCommand crypto userID command now e with ⟨f | r, t⟩
    · rw [hran] at h
      cases h
      obtain rfl := apply_clean _ _ _ _ _ _ hran
      exact .failed _ f
    · rw [hran] at h
      cases h
      obtain ⟨index, fingerprint, hauth, ⟨previous, hlookup, rfl, rfl, rfl⟩ |
        ⟨event, hlookup, hreplay, rfl, hnew, hevent, rfl⟩⟩ := apply_ok hran
      · exact .replayed userID command now index previous hauth hlookup
      · exact .applied userID command now r index fingerprint hreplay hauth hlookup hnew hevent
  | complete facts now =>
    simp only [perform] at h
    rcases hran : complete crypto facts now e with ⟨f | c, t⟩
    · rw [hran] at h
      cases h
      obtain rfl := complete_clean _ _ _ _ _ hran
      exact .failed _ f
    · rw [hran] at h
      cases h
      obtain ⟨factsBytes, hfacts, ⟨hcompletion, rfl, rfl⟩ |
        ⟨event, hopen, hactive, hevent, hbuild, rfl⟩⟩ := complete_ok hran
      · exact .recompleted facts now c hfacts hcompletion
      · exact .completed facts now c factsBytes event hfacts hopen hactive hevent hbuild

variable (crypto) in
def engineSystem : System Engine (Call × Reply) where
  init e := ∃ options, newMatch crypto options = .ok e
  step e a e' := e.perform crypto a.1 = (a.2, e')

end Core
