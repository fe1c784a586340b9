import Mathlib.Tactic.FinCases
import TrillionniumGame.Foundation.Words
import TrillionniumGame.Runtime.Core.Steps

namespace Core
open Calls Checks Contract FiniteMap GoText Runs
open Engine
open WorldCommand (Time)

structure Application where
  userID : GoString
  command : CommandEnvelope
  event : MatchEvent

def application : Call × Reply → Option Application
  | (.apply userID command _, .applied r) =>
    if r.replay then none else some ⟨userID, command, r.event⟩
  | _ => none

def applications (as : List (Call × Reply)) : List Application := as.filterMap application

variable {crypto : Crypto} {e e' : Engine} {as : List (Call × Reply)}

theorem applications_snoc (a : Call × Reply) :
    applications (as ++ [a]) = applications as ++ (application a).toList := by
  rw [applications, applications, List.filterMap_append]
  cases h : application a <;> simp [h]

structure Extends (e e' : Engine) : Prop where
  matchID : e'.matchID = e.matchID
  challengeID : e'.challengeID = e.challengeID
  authorizations : ∀ i, (e'.participants i).authorization = (e.participants i).authorization
  joined : ∀ i, (e.participants i).joined = true → (e'.participants i).joined = true
  commands : ∀ id record, e.commands.lookup id = some record → e'.commands.lookup id = some record
  events : e.events <+: e'.events

theorem Extends.refl (e : Engine) : Extends e e :=
  ⟨rfl, rfl, fun _ => rfl, fun _ => id, fun _ _ => id, List.prefix_rfl⟩

theorem Extends.claim (h : Extends e e') (i : Fin 2) : e'.claim i = e.claim i :=
  congrArg SignedAuthorization.claim (h.authorizations i)

theorem Extends.findParticipant (h : Extends e e') (id : GoString) :
    e'.findParticipant id = e.findParticipant id := by
  rw [Engine.findParticipant, Engine.findParticipant, h.claim, h.claim]

theorem extends_afterJoin (index : Fin 2) (status : Status) (event : MatchEvent) :
    Extends e (e.afterJoin index status event) := by
  refine ⟨rfl, rfl, ?_, ?_, fun _ _ => id, List.prefix_append _ _⟩
  · intro i
    rcases eq_or_ne i index with rfl | hne
    · simp [afterJoin]
    · simp [afterJoin, hne]
  · intro i hi
    rcases eq_or_ne i index with rfl | hne
    · simp [afterJoin]
    · simpa [afterJoin, hne] using hi

variable {index : Fin 2}

theorem extends_afterApply {record : CommandRecord}
    (hnew : e.commands.lookup record.command.commandID = none) :
    Extends e (e.afterApply index record) := by
  refine ⟨rfl, rfl, ?_, ?_, ?_, List.prefix_append _ _⟩
  · intro i
    rcases eq_or_ne i index with rfl | hne
    · simp [afterApply]
    · simp [afterApply, hne]
  · intro i hi
    rcases eq_or_ne i index with rfl | hne
    · simpa [afterApply] using hi
    · simpa [afterApply, hne] using hi
  · intro id previous hprevious
    rw [afterApply, lookup_insert_ite, if_neg]
    · exact hprevious
    · rintro rfl
      rw [hnew] at hprevious
      cases hprevious

variable {call : Call} {reply : Reply}

theorem Move.extends (h : Move crypto e call reply e') : Extends e e' := by
  cases h with
  | failed | rejoined | replayed | recompleted => exact Extends.refl e
  | joined _ _ _ _ index status event => exact extends_afterJoin index status event
  | applied _ _ _ _ _ _ _ _ hlookup => exact extends_afterApply hlookup
  | completed => exact ⟨rfl, rfl, fun _ => rfl, fun _ => id, fun _ _ => id, List.prefix_append _ _⟩

variable {userID : GoString} {command : CommandEnvelope} {fingerprint : Digest}

theorem identify_ok :
    e.identify crypto userID command = .ok (index, fingerprint) ↔
      e.findParticipant command.authorizationID = .ok index ∧
        ((e.participants index).joined = true ∧ userID = (e.claim index).subjectUserID ∧
          command.matchID = e.matchID ∧ command.challengeID = e.challengeID ∧
          command.agentID = (e.claim index).agentID ∧
          command.agentKeyID = (e.claim index).agentKeyID ∧
          command.participantSlot = (e.claim index).participantSlot) ∧
        verifyCommand crypto command (e.claim index).agentPublicKey = .ok () ∧
        commandFingerprint crypto command = .ok fingerprint := by
  simp only [identify, bind_ok, require_ok, mapError_ok]
  constructor
  · rintro ⟨index', hindex, _, hids, _, hverify, fingerprint', hfingerprint, h⟩
    cases h
    exact ⟨hindex, hids, hverify, hfingerprint⟩
  · rintro ⟨hindex, hids, hverify, hfingerprint⟩
    exact ⟨index, hindex, (), hids, (), hverify, fingerprint, hfingerprint, rfl⟩

theorem Extends.identify (h : Extends e e')
    (hid : e.identify crypto userID command = .ok (index, fingerprint)) :
    e'.identify crypto userID command = .ok (index, fingerprint) := by
  obtain ⟨hindex, ⟨hjoined, hids⟩, hverify, hfingerprint⟩ := identify_ok.mp hid
  refine identify_ok.mpr ⟨?_, ⟨h.joined index hjoined, ?_⟩, ?_, hfingerprint⟩
  · rwa [h.findParticipant]
  · rwa [h.claim, h.matchID, h.challengeID]
  · rwa [h.claim]

theorem authenticate_ok {x : Fin 2 × Digest} :
    e.authenticate crypto userID command = .ok x ↔
      (e.status = .ready ∨ e.status = .active) ∧ e.identify crypto userID command = .ok x := by
  simp only [authenticate, bind_ok, require_ok]
  constructor
  · rintro ⟨_, _, _, hstatus, h⟩
    exact ⟨hstatus, h⟩
  · rintro ⟨hstatus, h⟩
    refine ⟨(), ?_, (), hstatus, h⟩
    rcases hstatus with hstatus | hstatus <;> simp [hstatus]

variable {now : Time} {event : MatchEvent}

theorem buildEvent_ok {eventType causationID payloadType payload : GoString} {slot : UInt32}
    (h : e.buildEvent crypto eventType causationID now slot payloadType payload = .ok event) :
    (∀ last ∈ e.events.getLast?, last.occurredAtUnix ≤ event.occurredAtUnix) ∧
      event.matchVersion = e.version + 1 := by
  simp only [buildEvent, sealEvent, bind_ok, require_ok, mapError_ok] at h
  obtain ⟨_, _, _, htime, _, _, _, _, h⟩ := h
  cases h
  exact ⟨htime, rfl⟩

def TimesOrdered (events : List MatchEvent) : Prop :=
  events.Pairwise fun a b => a.occurredAtUnix ≤ b.occurredAtUnix

theorem TimesOrdered.append {events : List MatchEvent} (h : TimesOrdered events)
    (hlast : ∀ last ∈ events.getLast?, last.occurredAtUnix ≤ event.occurredAtUnix) :
    TimesOrdered (events ++ [event]) := by
  refine List.pairwise_append.mpr ⟨h, List.pairwise_singleton _ _, ?_⟩
  intro a ha b hb
  cases List.mem_singleton.mp hb
  rcases List.eq_nil_or_concat events with rfl | ⟨front, last, rfl⟩
  · cases ha
  · rw [List.concat_eq_append] at h ha hlast
    have hend := hlast last (by simp)
    rcases List.mem_append.mp ha with ha | ha
    · exact Int64.le_trans ((List.pairwise_append.mp h).2.2 a ha last (by simp)) hend
    · rwa [List.mem_singleton.mp ha]

structure Sound (crypto : Crypto) (as : List (Call × Reply)) (e : Engine) : Prop where
  slots : ∀ i, slotIndex (e.claim i).participantSlot = .ok i
  early : e.status ≠ .active → e.status ≠ .completed → e.commands = ∅
  both : e.status ≠ .created → e.status ≠ .waiting → ∀ i, (e.participants i).joined = true
  ending : e.status = .completed ↔ e.completion ≠ none
  evidence : ∀ c, e.completion = some c → ∃ facts bytes, e.terminalFacts = some facts ∧
    facts.canonicalBytes = .ok bytes
  times : TimesOrdered e.events
  card : e.commands.keys.card = (applications as).length
  bounded : e.commands.keys.card ≤ maxCommandsPerMatch
  recorded : ∀ a ∈ applications as, ∃ index fingerprint,
    e.identify crypto a.userID a.command = .ok (index, fingerprint) ∧
      e.commands.lookup a.command.commandID = some ⟨a.command, fingerprint, a.event⟩
  distinct : ((applications as).map (·.command.commandID)).Nodup
  sequences : ∀ i, ((applications as).filter
      fun a => a.command.participantSlot = (e.claim i).participantSlot).map
        (·.command.participantSequence.toNat) =
    List.range' 1 (e.participants i).lastCommandSequence.toNat
  completions : ∀ facts now c, (Call.complete facts now, Reply.completed c) ∈ as →
    e.completion = some c ∧ e.terminalFacts = some facts

variable {a : Call × Reply}

theorem Sound.unchanged (h : Sound crypto as e) (ha : application a = none)
    (hcompletion : ∀ facts now c, (Call.complete facts now, Reply.completed c) = a →
      e.completion = some c ∧ e.terminalFacts = some facts) : Sound crypto (as ++ [a]) e := by
  have happlications : applications (as ++ [a]) = applications as := by
    rw [applications_snoc, ha, Option.toList_none, List.append_nil]
  refine ⟨h.slots, h.early, h.both, h.ending, h.evidence, h.times, ?_, h.bounded, ?_, ?_, ?_, ?_⟩
  · rw [happlications, h.card]
  · rw [happlications]
    exact h.recorded
  · rw [happlications]
    exact h.distinct
  · rw [happlications]
    exact h.sequences
  · intro facts now c hmem
    rcases List.mem_append.mp hmem with hmem | hmem
    · exact h.completions facts now c hmem
    · exact hcompletion facts now c (List.mem_singleton.mp hmem)

variable {status : Status}

theorem joinedStatus_ok {n : Nat} (h : joinedStatus n = .ok status) :
    n = 1 ∧ status = .waiting ∨ n = 2 ∧ status = .ready := by
  unfold joinedStatus at h
  split at h <;> cases h
  · exact .inl ⟨rfl, rfl⟩
  · exact .inr ⟨rfl, rfl⟩

theorem joined_other (hnew : (e.participants index).joined = false)
    (hcount : e.joinedCount + 1 = 2) (i : Fin 2) (hi : i ≠ index) :
    (e.participants i).joined = true := by
  unfold joinedCount at hcount
  fin_cases i <;> fin_cases index <;> simp_all

theorem Sound.afterJoin (h : Sound crypto as e) (ha : application a = none)
    (hlabel : ∀ facts now c, (Call.complete facts now, Reply.completed c) ≠ a)
    (hopen : e.status ≠ .completed) (hnew : (e.participants index).joined = false)
    (hstatus : joinedStatus (e.joinedCount + 1) = .ok status)
    (hevent : ∀ last ∈ e.events.getLast?, last.occurredAtUnix ≤ event.occurredAtUnix) :
    Sound crypto (as ++ [a]) (e.afterJoin index status event) := by
  have happlications : applications (as ++ [a]) = applications as := by
    rw [applications_snoc, ha, Option.toList_none, List.append_nil]
  have hextends : Extends e (e.afterJoin index status event) := extends_afterJoin _ _ _
  have hpending : e.commands = ∅ := by
    refine h.early ?_ hopen
    intro hactive
    have hjoined := h.both (by rw [hactive]; decide) (by rw [hactive]; decide) index
    rw [hnew] at hjoined
    cases hjoined
  have hnext : status ≠ .active ∧ status ≠ .completed ∧ status ≠ .created := by
    rcases joinedStatus_ok hstatus with ⟨_, rfl⟩ | ⟨_, rfl⟩ <;> decide
  have hnone : e.completion = none := by
    by_contra hsome
    exact hopen (h.ending.mpr hsome)
  refine ⟨?_, fun _ _ => hpending, ?_, ?_, h.evidence, h.times.append hevent, ?_, h.bounded, ?_, ?_,
    ?_, ?_⟩
  · intro i
    rw [hextends.claim]
    exact h.slots i
  · intro _ hwaiting i
    change status ≠ .waiting at hwaiting
    rcases joinedStatus_ok hstatus with ⟨_, rfl⟩ | ⟨hcount, _⟩
    · exact absurd rfl hwaiting
    · rcases eq_or_ne i index with rfl | hne
      · simp [Engine.afterJoin]
      · exact hextends.joined i (joined_other hnew hcount i hne)
  · exact ⟨fun hcompleted => absurd hcompleted hnext.2.1, fun hsome => absurd hnone hsome⟩
  · rw [happlications]
    exact h.card
  · rw [happlications]
    intro b hb
    obtain ⟨i, fingerprint, hidentify, hlookup⟩ := h.recorded b hb
    exact ⟨i, fingerprint, hextends.identify hidentify, hlookup⟩
  · rw [happlications]
    exact h.distinct
  · intro i
    have hlast : ((e.afterJoin index status event).participants i).lastCommandSequence =
        (e.participants i).lastCommandSequence := by
      rcases eq_or_ne i index with rfl | hne
      · simp [Engine.afterJoin]
      · simp [Engine.afterJoin, hne]
    rw [happlications, hextends.claim, hlast]
    exact h.sequences i
  · intro facts now c hmem
    rcases List.mem_append.mp hmem with hmem | hmem
    · exact h.completions facts now c hmem
    · exact absurd (List.mem_singleton.mp hmem) (hlabel facts now c)

variable {facts : TerminalFacts} {c : MatchCompletedV1}

theorem Sound.afterComplete {factsBytes : GoString} (h : Sound crypto as e)
    (hfacts : facts.canonicalBytes = .ok factsBytes) (hopen : e.completion = none)
    (hactive : e.status = .active)
    (hevent : ∀ last ∈ e.events.getLast?, last.occurredAtUnix ≤ event.occurredAtUnix) :
    Sound crypto (as ++ [(.complete facts now, .completed c)]) (e.afterComplete facts c event) := by
  have happlications :
      applications (as ++ [(.complete facts now, .completed c)]) = applications as := by
    rw [applications_snoc]
    exact List.append_nil _
  refine ⟨h.slots, fun _ hne => absurd rfl hne, ?_, ?_, ?_, h.times.append hevent, ?_, h.bounded, ?_,
    ?_, ?_, ?_⟩
  · intro _ _
    exact h.both (by rw [hactive]; decide) (by rw [hactive]; decide)
  · exact ⟨fun _ => Option.some_ne_none c, fun _ => rfl⟩
  · intro _ _
    exact ⟨facts, factsBytes, rfl, hfacts⟩
  · rw [happlications]
    exact h.card
  · rw [happlications]
    exact h.recorded
  · rw [happlications]
    exact h.distinct
  · rw [happlications]
    exact h.sequences
  · intro facts' now' c' hmem
    rcases List.mem_append.mp hmem with hmem | hmem
    · exact absurd (h.completions facts' now' c' hmem).1 (by simp [hopen])
    · have heq := List.mem_singleton.mp hmem
      simp only [Prod.mk.injEq, Call.complete.injEq, Reply.completed.injEq] at heq
      obtain ⟨⟨rfl, rfl⟩, rfl⟩ := heq
      exact ⟨rfl, rfl⟩

theorem checkNew_ok (h : e.checkNew index command now = .ok ()) :
    e.commands.keys.card < maxCommandsPerMatch ∧
      command.participantSequence = (e.participants index).lastCommandSequence + 1 ∧
      command.expectedMatchVersion = e.version := by
  simp only [checkNew, checkCommandQuota, bind_ok, require_ok] at h
  obtain ⟨_, ⟨_, hcard, _⟩, _, hsequence, _, hversion, _⟩ := h
  exact ⟨hcard, hsequence, hversion⟩

theorem range'_snoc (n : Nat) : List.range' 1 n ++ [n + 1] = List.range' 1 (n + 1) := by
  rw [List.range'_1_concat, Nat.add_comm]

theorem Sound.sequence_bound (h : Sound crypto as e) (i : Fin 2) :
    (e.participants i).lastCommandSequence.toNat ≤ e.commands.keys.card := by
  have hlength := congrArg List.length (h.sequences i)
  rw [List.length_map, List.length_range'] at hlength
  rw [← hlength, h.card]
  exact List.length_filter_le _ _

variable {r : ApplyResult}

theorem Sound.afterApply (h : Sound crypto as e) (hreplay : r.replay = false)
    (hauth : e.authenticate crypto userID command = .ok (index, fingerprint))
    (hlookup : e.commands.lookup command.commandID = none)
    (hnew : e.checkNew index command now = .ok ())
    (hevent : ∀ last ∈ e.events.getLast?, last.occurredAtUnix ≤ r.event.occurredAtUnix) :
    Sound crypto (as ++ [(.apply userID command now, .applied r)])
      (e.afterApply index ⟨command, fingerprint, r.event⟩) := by
  obtain ⟨hstatus, hidentify⟩ := authenticate_ok.mp hauth
  obtain ⟨hcard, hsequence, _⟩ := checkNew_ok hnew
  have hboth : ∀ i, (e.participants i).joined = true := by
    rcases hstatus with hstatus | hstatus
    · exact h.both (by rw [hstatus]; decide) (by rw [hstatus]; decide)
    · exact h.both (by rw [hstatus]; decide) (by rw [hstatus]; decide)
  have hextends : Extends e (e.afterApply index ⟨command, fingerprint, r.event⟩) :=
    extends_afterApply hlookup
  have hslot := (identify_ok.mp hidentify).2.1.2.2.2.2.2.2
  have happlications : applications (as ++ [(.apply userID command now, .applied r)]) =
      applications as ++ [⟨userID, command, r.event⟩] := by
    rw [applications_snoc, application, hreplay]
    rfl
  have hnone : e.completion = none := by
    by_contra hsome
    have hcompleted := h.ending.mpr hsome
    rw [hcompleted] at hstatus
    rcases hstatus with hstatus | hstatus <;> cases hstatus
  have hinsert : (e.commands.insert command.commandID ⟨command, fingerprint, r.event⟩).keys.card =
      e.commands.keys.card + 1 := by
    rw [keys_insert, Finset.card_insert_of_notMem]
    rwa [Finmap.mem_keys, ← Finmap.lookup_eq_none]
  refine ⟨?_, fun hne => absurd rfl hne, ?_, ?_, h.evidence, h.times.append hevent, ?_, ?_, ?_, ?_, ?_,
    ?_⟩
  · intro i
    rw [hextends.claim]
    exact h.slots i
  · intro _ _ i
    exact hextends.joined i (hboth i)
  · constructor
    · intro hcompleted
      cases hcompleted
    · intro hsome
      exact absurd hnone hsome
  · rw [happlications, List.length_append, ← h.card]
    exact hinsert
  · exact hinsert.trans_le hcard
  · rw [happlications]
    intro a ha
    rcases List.mem_append.mp ha with ha | ha
    · obtain ⟨i, previous, hid, hrecord⟩ := h.recorded a ha
      exact ⟨i, previous, hextends.identify hid, hextends.commands _ _ hrecord⟩
    · cases List.mem_singleton.mp ha
      exact ⟨index, fingerprint, hextends.identify hidentify, Finmap.lookup_insert _⟩
  · rw [happlications, List.map_append, List.nodup_append]
    refine ⟨h.distinct, List.nodup_singleton _, ?_⟩
    intro id hid id' hid' heq
    obtain ⟨a, ha, rfl⟩ := List.mem_map.mp hid
    cases List.mem_singleton.mp hid'
    obtain ⟨_, _, _, hrecord⟩ := h.recorded a ha
    rw [heq, hlookup] at hrecord
    cases hrecord
  · intro i
    rw [happlications, hextends.claim, List.filter_append, List.map_append, h.sequences i]
    rcases eq_or_ne i index with rfl | hne
    · have hbound := h.sequence_bound i
      have hlimit : maxCommandsPerMatch = 512 := rfl
      have hnext : ((e.participants i).lastCommandSequence + 1).toNat =
          (e.participants i).lastCommandSequence.toNat + 1 :=
        Words.toNat_succ_of_lt (by omega)
      simp only [hslot, Engine.afterApply, Function.update_self, decide_true, List.filter_cons,
        List.filter_nil, if_true, List.map_cons, List.map_nil, hsequence, hnext, range'_snoc]
    · have hother : command.participantSlot ≠ (e.claim i).participantSlot := by
        rw [hslot]
        intro heq
        have hindex := h.slots index
        rw [heq, h.slots i] at hindex
        exact hne (Except.ok.inj hindex)
      simp [Engine.afterApply, hother, hne]
  · intro facts now' c hmem
    rcases List.mem_append.mp hmem with hmem | hmem
    · exact h.completions facts now' c hmem
    · cases List.mem_singleton.mp hmem

theorem recordedFacts_eq (h : e.terminalFacts = some facts) {bytes : GoString}
    (hbytes : facts.canonicalBytes = .ok bytes) : e.recordedFacts = bytes := by
  rw [recordedFacts, h]
  simp [hbytes, Except.toOption]

theorem Sound.move (h : Sound crypto as e) (hmove : Move crypto e call reply e') :
    Sound crypto (as ++ [(call, reply)]) e' := by
  cases hmove with
  | failed f =>
    refine h.unchanged ?_ ?_
    · cases call <;> rfl
    · intro facts now c hlabel
      cases hlabel
  | rejoined userID authorizationID now r _ | replayed userID command now index previous _ _ =>
    refine h.unchanged rfl ?_
    intro facts now c hlabel
    cases hlabel
  | joined userID authorizationID now r index status event _ hopen _ hnew hstatus hevent =>
    refine h.afterJoin rfl ?_ hopen hnew hstatus (buildEvent_ok hevent).1
    intro facts now c hlabel
    cases hlabel
  | applied userID command now r index fingerprint hreplay hauth hlookup hnew hevent =>
    exact h.afterApply hreplay hauth hlookup hnew (buildEvent_ok hevent).1
  | recompleted facts now c hfacts hcompletion =>
    refine h.unchanged rfl ?_
    intro facts' now' c' hlabel
    cases hlabel
    obtain ⟨recorded, bytes, hterminal, hbytes⟩ := h.evidence c hcompletion
    rw [recordedFacts_eq hterminal hbytes] at hfacts
    exact ⟨hcompletion, hterminal.trans (congrArg some (facts_inj hbytes hfacts))⟩
  | completed facts now c factsBytes event hfacts hopen hactive hevent _ =>
    exact h.afterComplete hfacts hopen hactive (buildEvent_ok hevent).1

variable {authorization : SignedAuthorization}

theorem addParticipant_ok {now : Int64} (h : e.addParticipant crypto now authorization = .ok e') :
    ∃ index, slotIndex authorization.claim.participantSlot = .ok index ∧
      e' = e.setParticipant index { e.participants index with authorization } := by
  simp only [addParticipant, bind_ok] at h
  obtain ⟨_, _, index, hindex, _, _, h⟩ := h
  cases h
  exact ⟨index, hindex, rfl⟩

structure Blank (e : Engine) : Prop where
  status : e.status = .created
  commands : e.commands = ∅
  events : e.events = []
  completion : e.completion = none
  sequences : ∀ i, (e.participants i).lastCommandSequence = 0
  slots : ∀ i, (e.claim i).authorizationID ≠ [] → slotIndex (e.claim i).participantSlot = .ok i

theorem Blank.addParticipant {now : Int64} (h : Blank e)
    (hadded : e.addParticipant crypto now authorization = .ok e') : Blank e' := by
  obtain ⟨index, hindex, rfl⟩ := addParticipant_ok hadded
  refine ⟨h.status, h.commands, h.events, h.completion, ?_, ?_⟩
  · intro i
    rcases eq_or_ne i index with rfl | hne
    · simpa [setParticipant] using h.sequences i
    · simpa [setParticipant, hne] using h.sequences i
  · intro i hi
    rcases eq_or_ne i index with rfl | hne
    · simpa [setParticipant, Engine.claim] using hindex
    · simp only [setParticipant, Engine.claim, ne_eq, hne, not_false_eq_true,
        Function.update_of_ne] at hi ⊢
      exact h.slots i hi

theorem newMatch_sound {options : NewMatchOptions} (h : newMatch crypto options = .ok e) :
    Sound crypto [] e := by
  simp only [newMatch, validateConfiguration, bind_ok, require_ok] at h
  obtain ⟨_, _, key, _, one, hone, two, htwo, _, ⟨_, hids, _⟩, h⟩ := h
  cases h
  have hblank : Blank two := by
    refine Blank.addParticipant (Blank.addParticipant ?_ hone) htwo
    exact ⟨rfl, rfl, rfl, rfl, fun _ => rfl, fun i hi => absurd rfl hi⟩
  refine ⟨?_, fun _ _ => hblank.commands, fun hcreated => absurd hblank.status hcreated, ?_, ?_, ?_, ?_,
    ?_, ?_, ?_, ?_, ?_⟩
  · intro i
    refine hblank.slots i ?_
    fin_cases i
    · exact hids.1
    · exact hids.2
  · constructor
    · intro hcompleted
      rw [hblank.status] at hcompleted
      cases hcompleted
    · intro hsome
      exact absurd hblank.completion hsome
  · intro c hsome
    rw [hblank.completion] at hsome
    cases hsome
  · rw [TimesOrdered, hblank.events]
    exact List.Pairwise.nil
  · rw [hblank.commands]
    rfl
  · rw [hblank.commands]
    exact Nat.zero_le _
  · intro a ha
    cases ha
  · exact List.nodup_nil
  · intro i
    have hzero : (two.participants i).lastCommandSequence = 0 := hblank.sequences i
    rw [hzero]
    rfl
  · intro facts now c hmem
    cases hmem

theorem run_sound {e₀ : Engine} (hrun : Run (engineSystem crypto) e₀ as e)
    (hinit : Sound crypto [] e₀) : Sound crypto as e := by
  induction hrun with
  | nil => exact hinit
  | snoc _ hstep ih => exact ih.move (perform_move hstep)

def Reply.inert : Reply → Bool
  | .joined r => r.replay
  | .applied r => r.replay
  | .completed _ => false
  | .failed _ => true

structure AppliesOnce (crypto : Crypto) (as : List (Call × Reply)) (e : Engine) : Prop where
  distinct : ((applications as).map (·.command.commandID)).Nodup
  replays : e.status ≠ .completed → ∀ a ∈ applications as, ∀ command now,
    fingerprintBytes crypto command = fingerprintBytes crypto a.command →
    e.perform crypto (.apply a.userID command now) =
      (.applied ⟨true, a.event, e.status, e.version⟩, e)
  conflicts : ∀ a ∈ applications as, ∀ userID command now,
    command.commandID = a.command.commandID →
    fingerprintBytes crypto command ≠ fingerprintBytes crypto a.command →
    (∃ f, e.perform crypto (.apply userID command now) = (.failed f, e) ∧
      ((e.authenticate crypto userID command).isOk = true → f.sentinel = some .conflict)) ∨
    ∃ x y, fingerprintBytes crypto command = .ok x ∧ fingerprintBytes crypto a.command = .ok y ∧
      x ≠ y ∧ crypto.sha256 x = crypto.sha256 y
  sequences : ∀ slot, ((applications as).filter (·.command.participantSlot = slot)).map
      (·.command.participantSequence.toNat) =
    List.range' 1 ((applications as).filter (·.command.participantSlot = slot)).length
  inForce : ∀ userID command now r e', r.replay = false →
    e.perform crypto (.apply userID command now) = (.applied r, e') →
    command.expectedMatchVersion = e.version ∧ r.event.matchVersion = e.version + 1
  times : TimesOrdered e.events
  appendOnly : ∀ call, e.events <+: (e.perform crypto call).2.events
  completed : ∀ facts now c, (Call.complete facts now, Reply.completed c) ∈ as →
    ∀ facts' now', (facts' = facts →
        e.perform crypto (.complete facts' now') = (.completed c, e)) ∧
      (facts' ≠ facts → ∃ f, e.perform crypto (.complete facts' now') = (.failed f, e))
  unchanged : ∀ call, (e.perform crypto call).1.inert = true → (e.perform crypto call).2 = e

variable {previous : CommandRecord}

theorem apply_replayed (now : Time)
    (hauth : e.authenticate crypto userID command = .ok (index, previous.fingerprint))
    (hlookup : e.commands.lookup command.commandID = some previous) :
    e.perform crypto (.apply userID command now) =
      (.applied ⟨true, previous.event, e.status, e.version⟩, e) := by
  simp only [perform, applyCommand, bind_apply, read_apply, check_apply, pure_apply, hauth, hlookup,
    require, if_true]
  rfl

theorem apply_conflict (now : Time)
    (hauth : e.authenticate crypto userID command = .ok (index, fingerprint))
    (hlookup : e.commands.lookup command.commandID = some previous)
    (hne : previous.fingerprint ≠ fingerprint) :
    e.perform crypto (.apply userID command now) =
      (.failed (errConflict "command_id was reused with different signed bytes"), e) := by
  simp only [perform, applyCommand, bind_apply, read_apply, check_apply, hauth, hlookup,
    require, if_neg hne]
  rfl

theorem apply_refused {f : Failure} (now : Time)
    (hauth : e.authenticate crypto userID command = .error f) :
    e.perform crypto (.apply userID command now) = (.failed f, e) := by
  simp only [perform, applyCommand, bind_apply, read_apply, check_apply, hauth]
  rfl

theorem complete_again (now : Time) (hcompletion : e.completion = some c)
    (hfacts : facts.canonicalBytes = .ok e.recordedFacts) :
    e.perform crypto (.complete facts now) = (.completed c, e) := by
  simp only [perform, complete, bind_apply, read_apply, check_apply, pure_apply, hfacts,
    Except.mapError, hcompletion, require, if_true]
  rfl

theorem complete_refused (now : Time) (hcompletion : e.completion = some c)
    (hfacts : facts.canonicalBytes ≠ .ok e.recordedFacts) :
    ∃ f, e.perform crypto (.complete facts now) = (.failed f, e) := by
  cases hbytes : facts.canonicalBytes with
  | error text =>
    refine ⟨failure text, ?_⟩
    simp only [perform, complete, bind_apply, read_apply, check_apply, hbytes, Except.mapError]
    rfl
  | ok bytes =>
    have hne : e.recordedFacts ≠ bytes := by
      rintro rfl
      exact hfacts hbytes
    refine ⟨errConflict "completion facts differ from recorded evidence", ?_⟩
    simp only [perform, complete, bind_apply, read_apply, check_apply, hbytes, Except.mapError,
      hcompletion, require, if_neg hne]
    rfl

theorem fingerprint_ok (h : commandFingerprint crypto command = .ok fingerprint) :
    ∃ b, fingerprintBytes crypto command = .ok b ∧ fingerprint = newDigest crypto b := by
  simp only [commandFingerprint, bind_ok] at h
  obtain ⟨b, hb, h⟩ := h
  exact ⟨b, hb, (Except.ok.inj h).symm⟩

theorem Sound.replays (h : Sound crypto as e) (hopen : e.status ≠ .completed) {a : Application}
    (ha : a ∈ applications as) (now : Time)
    (hsame : fingerprintBytes crypto command = fingerprintBytes crypto a.command) :
    e.perform crypto (.apply a.userID command now) =
      (.applied ⟨true, a.event, e.status, e.version⟩, e) := by
  obtain ⟨index, fingerprint, hidentify, hlookup⟩ := h.recorded a ha
  obtain ⟨b, hb, _⟩ := fingerprint_ok (identify_ok.mp hidentify).2.2.2
  obtain rfl : command = a.command := fingerprint_inj (hsame.trans hb) hb
  have hactive : e.status = .active := by
    by_contra hne
    rw [h.early hne hopen] at hlookup
    cases hlookup
  exact apply_replayed now (authenticate_ok.mpr ⟨.inr hactive, hidentify⟩) hlookup

theorem Sound.conflicts (h : Sound crypto as e) {a : Application} (ha : a ∈ applications as)
    (userID : GoString) (now : Time) (hid : command.commandID = a.command.commandID)
    (hne : fingerprintBytes crypto command ≠ fingerprintBytes crypto a.command) :
    (∃ f, e.perform crypto (.apply userID command now) = (.failed f, e) ∧
      ((e.authenticate crypto userID command).isOk = true → f.sentinel = some .conflict)) ∨
    ∃ x y, fingerprintBytes crypto command = .ok x ∧ fingerprintBytes crypto a.command = .ok y ∧
      x ≠ y ∧ crypto.sha256 x = crypto.sha256 y := by
  obtain ⟨index, recorded, hidentify, hlookup⟩ := h.recorded a ha
  obtain ⟨y, hy, hrecorded⟩ := fingerprint_ok (identify_ok.mp hidentify).2.2.2
  cases hauth : e.authenticate crypto userID command with
  | error f => exact .inl ⟨f, apply_refused now hauth, fun hok => by cases hok⟩
  | ok x =>
    obtain ⟨index', fingerprint⟩ := x
    obtain ⟨x, hx, hfingerprint⟩ :=
      fingerprint_ok (identify_ok.mp (authenticate_ok.mp hauth).2).2.2.2
    rw [← hid] at hlookup
    by_cases hsame : recorded = fingerprint
    · refine .inr ⟨x, y, hx, hy, ?_, newDigest_eq ?_⟩
      · rintro rfl
        exact hne (hx.trans hy.symm)
      · rw [← hfingerprint, ← hrecorded, hsame]
    · exact .inl ⟨_, apply_conflict now hauth hlookup hsame, fun _ => rfl⟩

theorem Sound.counts (h : Sound crypto as e) (slot : UInt32) :
    ((applications as).filter (·.command.participantSlot = slot)).map
        (·.command.participantSequence.toNat) =
      List.range' 1 ((applications as).filter (·.command.participantSlot = slot)).length := by
  by_cases hslot : ∃ i, (e.claim i).participantSlot = slot
  · obtain ⟨i, rfl⟩ := hslot
    have hsequences := h.sequences i
    have hlength := congrArg List.length hsequences
    rw [List.length_map, List.length_range'] at hlength
    rw [hsequences, hlength]
  · have hnone : (applications as).filter (·.command.participantSlot = slot) = [] := by
      rw [List.filter_eq_nil_iff]
      intro a ha heq
      obtain ⟨index, _, hidentify, _⟩ := h.recorded a ha
      have hclaim := (identify_ok.mp hidentify).2.1.2.2.2.2.2.2
      exact hslot ⟨index, hclaim.symm.trans (of_decide_eq_true heq)⟩
    rw [hnone]
    rfl

theorem Sound.completed (h : Sound crypto as e)
    (hmem : (Call.complete facts now, Reply.completed c) ∈ as) (facts' : TerminalFacts)
    (now' : Time) :
    (facts' = facts → e.perform crypto (.complete facts' now') = (.completed c, e)) ∧
      (facts' ≠ facts → ∃ f, e.perform crypto (.complete facts' now') = (.failed f, e)) := by
  obtain ⟨hcompletion, hterminal⟩ := h.completions facts now c hmem
  obtain ⟨recorded, bytes, hrecorded, hbytes⟩ := h.evidence c hcompletion
  obtain rfl : facts = recorded := Option.mem_unique hterminal hrecorded
  have heq := recordedFacts_eq hrecorded hbytes
  constructor
  · rintro rfl
    exact complete_again now' hcompletion (by rw [hbytes, heq])
  · intro hne
    refine complete_refused now' hcompletion fun hsame => hne ?_
    rw [heq] at hsame
    exact facts_inj hsame hbytes

theorem Move.unchanged (h : Move crypto e call reply e') (hinert : reply.inert = true) :
    e' = e := by
  cases h with
  | failed | rejoined | replayed | recompleted => rfl
  | joined _ _ _ _ _ _ _ hreplay | applied _ _ _ _ _ _ hreplay =>
    exact absurd hinert (by simp [Reply.inert, hreplay])
  | completed => cases hinert

theorem applied_in_force (hreplay : r.replay = false)
    (h : e.perform crypto (.apply userID command now) = (.applied r, e')) :
    command.expectedMatchVersion = e.version ∧ r.event.matchVersion = e.version + 1 := by
  cases perform_move h with
  | replayed => cases hreplay
  | applied _ _ _ _ _ _ _ _ _ hnew hevent =>
    exact ⟨(checkNew_ok hnew).2.2, (buildEvent_ok hevent).2⟩

theorem commands_apply_once (crypto : Crypto) (options : NewMatchOptions) (e₀ e : Engine)
    (as : List (Call × Reply)) (hinit : newMatch crypto options = .ok e₀)
    (hrun : Run (engineSystem crypto) e₀ as e) : AppliesOnce crypto as e := by
  have h := run_sound hrun (newMatch_sound hinit)
  constructor
  · exact h.distinct
  · exact fun hopen a ha command now => h.replays hopen ha now
  · exact fun a ha userID command now => h.conflicts ha userID now
  · exact h.counts
  · exact fun userID command now r e' => applied_in_force
  · exact h.times
  · exact fun call => (perform_move (rfl : e.perform crypto call = _)).extends.events
  · exact fun facts now c hmem => h.completed hmem
  · exact fun call => (perform_move (rfl : e.perform crypto call = _)).unchanged

section
open DigestTable

def sampleIssuerKey : GoString :=
  bigEndian 0x8a88e3dd7409f195fd52db2d3cba5d72ca6709bf1d94121bf3748801b40f6f5c 32

def sampleAuthorityKey : GoString :=
  bigEndian 0xca93ac1705187071d67b83c7ff0efe8108e8ec4530575d7726879333dbdabe7c 32

def sampleClaim (number : String) (slot : UInt32) (agentKey : Nat) : AuthorizationClaim where
  schema := authorizationSchema
  authorizationID := str "auth-" ++ str number
  matchID := str "m-1"
  challengeID := str "c-1"
  agentID := str "agent-" ++ str number
  agentDID := str "did-" ++ str number
  agentKeyID := str "key-" ++ str number
  agentPublicKey := bigEndian agentKey 32
  subjectUserID := str "user-" ++ str number
  participantSlot := slot
  role := str "player"
  rulesetHash := goldenHash 1
  datasetHash := goldenHash 2
  challengeSnapshotHash := goldenHash 3
  issuedAtUnix := 10
  expiresAtUnix := 1000

def sampleAuthorization (number : String) (slot : UInt32) (agentKey r s : Nat) :
    SignedAuthorization where
  claim := sampleClaim number slot agentKey
  issuerKeyID := str "issuer"
  signature := bigEndian r 32 ++ bigEndian s 32

def sampleOne : SignedAuthorization := sampleAuthorization "1" 1
  0x8139770ea87d175f56a35466c34c7ecccb8d8a91b4ee37a25df60f5b8fc9b394
  0xd2a1da45c2a2b4ed0840e5b6a9f863efc579df8316f4dcdd270fbc6073d8204f
  0x8ffa3d4ec72738aae8a9fd51fc9565d89362f5e0ed2e15e9066b18b83bb65607

def sampleTwo : SignedAuthorization := sampleAuthorization "2" 2
  0xed4928c628d1c2c6eae90338905995612959273a5c63f93636c14614ac8737d1
  0x473a370272ddf55dd7111208bc0a79f7f993fd9b4848041947ca1672cb340520
  0x0d2ebee613ee1729848c71feb904937972011e43ec003cc740309b19a90c0309

def sampleCommand (payload : String) (r s : Nat) : CommandEnvelope where
  schema := commandSchema
  commandID := str "cmd-1"
  authorizationID := str "auth-1"
  matchID := str "m-1"
  challengeID := str "c-1"
  agentID := str "agent-1"
  participantSlot := 1
  participantSequence := 1
  expectedMatchVersion := 3
  issuedAtUnix := 20
  payloadType := str "trnm.move"
  payload := str payload
  payloadHash := newDigest goldenCrypto (str payload)
  agentKeyID := str "key-1"
  signature := bigEndian r 32 ++ bigEndian s 32

def moveCommand : CommandEnvelope := sampleCommand "go"
  0x1ba4dab5b24f28463a1d202b511c0fea97f7a7e424451e444cf6dacf15e8214f
  0x89d12c5dc4fddf33647e6bcf0e42db754744895b96e474c5c0f65de53a421000

def otherCommand : CommandEnvelope := sampleCommand "no"
  0xeb2bdf8fecd1cfad2d6e7441381542e7be0a07b564c8f7d1dfb3f5153c9ee7e6
  0x3207a4afbaef11ef5e7c52fc3af570f78748c52313295f38b646398922156f0d

-- The signatures are Ed25519's, under the keys of the seeds of 32 bytes 1, 2, 3 and 4.
def sampleSigned : List (GoString × Except String GoString × GoString) :=
  [sampleOne, sampleTwo].map (fun a =>
    (sampleIssuerKey, authorizationSigningBytes a.claim a.issuerKeyID, a.signature)) ++
  [moveCommand, otherCommand].map fun c =>
    (sampleOne.claim.agentPublicKey, c.signingBytes goldenCrypto, c.signature)

def sampleCrypto : Crypto where
  sha256 := Sha256.digest
  sign _ _ :=
    bigEndian 0xaf767dacbbf809ec38745f19bc27339f499de103ca3217a19d73f842b5fd6f37 32 ++
      bigEndian 0x6b85b9e83e51d6d7e1e39da3c4ed69f0981c9cbc57ccd9c306827397d0201402 32
  verify key message signature := sampleSigned.contains (key, .ok message, signature)
  publicKey seed := if seed = .replicate 32 4 then sampleAuthorityKey else []

def sampleOptions : NewMatchOptions where
  authorizations i := if i = 0 then sampleOne else sampleTwo
  trustedIssuerKeys := Finmap.singleton (str "issuer") sampleIssuerKey
  authorityKeyID := str "authority"
  authorityPrivateKey := .replicate 32 4 ++ sampleAuthorityKey
  now := ⟨20, 0⟩

def sampleJoins : List Call :=
  [.join (str "user-1") (str "auth-1") ⟨20, 0⟩, .join (str "user-2") (str "auth-2") ⟨30, 0⟩]

def sampleMoves : List Call :=
  [.apply (str "user-1") moveCommand ⟨30, 0⟩, .apply (str "user-1") moveCommand ⟨31, 0⟩,
    .apply (str "user-1") otherCommand ⟨32, 0⟩, .complete ⟨str "won", 1, goldenHash 4⟩ ⟨40, 0⟩,
    .complete ⟨str "won", 1, goldenHash 4⟩ ⟨41, 0⟩]

def Reply.sentinel : Reply → Option Sentinel
  | .failed f => f.sentinel
  | _ => none

theorem perform_run (crypto : Crypto) (e : Engine) (calls : List Call) :
    Run (engineSystem crypto) e (trace (Engine.perform crypto) e calls).1
      (trace (Engine.perform crypto) e calls).2 :=
  trace_run (fun _ _ => rfl) e calls

def played (e : Engine) : List (Call × Reply) × Engine :=
  trace (Engine.perform sampleCrypto) e (sampleJoins ++ sampleMoves)

theorem sample_played : ((newMatch sampleCrypto sampleOptions).toOption.map fun e =>
    ((played e).2.status, (played e).2.events.length,
      (played e).1.map fun a => (a.2.inert, a.2.sentinel))) =
    some (.completed, 4, [(false, none), (false, none), (false, none), (true, none),
      (true, some .conflict), (false, none), (false, none)]) := by
  decide +kernel

theorem commands_apply_once_sample : ∃ e₀ e as, newMatch sampleCrypto sampleOptions = .ok e₀ ∧
    Run (engineSystem sampleCrypto) e₀ as e ∧ e.status = .completed ∧ e.events.length = 4 ∧
      (as.map fun a => (a.2.inert, a.2.sentinel)) = [(false, none), (false, none), (false, none),
        (true, none), (true, some .conflict), (false, none), (false, none)] ∧
      AppliesOnce sampleCrypto as e := by
  obtain ⟨e₀, hinit, hplayed⟩ := ok_of_map sample_played
  have hrun : Run (engineSystem sampleCrypto) e₀ (played e₀).1 (played e₀).2 :=
    perform_run sampleCrypto e₀ (sampleJoins ++ sampleMoves)
  obtain ⟨hstatus, hrest⟩ := Prod.mk.inj hplayed
  obtain ⟨hevents, hreplies⟩ := Prod.mk.inj hrest
  exact ⟨e₀, (played e₀).2, (played e₀).1, hinit, hrun, hstatus, hevents, hreplies,
    commands_apply_once sampleCrypto sampleOptions e₀ _ _ hinit hrun⟩

end

end Core
