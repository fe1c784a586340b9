import TrillionniumGame.Runtime.Core.Events

namespace Core
open Calls Checks Contract FiniteMap GoText Runs
open Engine
open WorldCommand (Time)

structure CommandPreflight where
  replay : Bool
  event : Option MatchEvent
  fingerprint : Digest
  matchVersion : UInt64
  nextGlobalEventSequence : UInt64
  participantLastSequence : UInt64

def preflightCommand (crypto : Crypto) (userID : GoString) (command : CommandEnvelope)
    (now : Time) : Method Failure Engine CommandPreflight := do
  let e ← read
  let (index, fingerprint) ← check (e.authenticate crypto userID command)
  match e.commands.lookup command.commandID with
  | some previous =>
    check (require (previous.fingerprint = fingerprint)
      (errConflict "command_id was reused with different signed bytes"))
    return {
      replay := true
      event := some previous.event
      fingerprint
      matchVersion := e.version
      nextGlobalEventSequence := nextSequence e
      participantLastSequence := (e.participants index).lastCommandSequence }
  | none =>
    check (e.checkNew index command now)
    return {
      replay := false
      event := none
      fingerprint
      matchVersion := e.version
      nextGlobalEventSequence := nextSequence e
      participantLastSequence := (e.participants index).lastCommandSequence }

variable {crypto : Crypto} {e e' : Engine} {as : List (Call × Reply)} {userID : GoString}
  {command : CommandEnvelope} {now : Time} {index : Fin 2} {fingerprint : Digest}

theorem preflight_reads : Reads (preflightCommand crypto userID command now) := by
  intro e
  simp only [preflightCommand, bind_apply, read_apply, check_apply]
  cases e.authenticate crypto userID command with
  | error f => rfl
  | ok x =>
    dsimp only
    cases e.commands.lookup command.commandID with
    | some previous =>
      simp only [bind_apply, check_apply]
      cases require (previous.fingerprint = x.2) _ with
      | error f | ok _ => rfl
    | none =>
      simp only [bind_apply, check_apply]
      cases e.checkNew x.1 command now with
      | error f | ok _ => rfl

variable {p : CommandPreflight}

theorem preflight_ok :
    (preflightCommand crypto userID command now e).1 = .ok p ↔
      ∃ index fingerprint, e.authenticate crypto userID command = .ok (index, fingerprint) ∧
        ((∃ previous, e.commands.lookup command.commandID = some previous ∧
            previous.fingerprint = fingerprint ∧
            p = ⟨true, some previous.event, fingerprint, e.version, nextSequence e,
              (e.participants index).lastCommandSequence⟩) ∨
          (e.commands.lookup command.commandID = none ∧ e.checkNew index command now = .ok () ∧
            p = ⟨false, none, fingerprint, e.version, nextSequence e,
              (e.participants index).lastCommandSequence⟩)) := by
  have hran : (preflightCommand crypto userID command now e).1 = .ok p ↔
      Ran (preflightCommand crypto userID command now) e (.ok p) e := by
    rw [Ran, ← Prod.mk.eta (p := preflightCommand crypto userID command now e), preflight_reads e]
    simp
  rw [hran]
  simp only [preflightCommand, ran_bind, ran_read, ran_check]
  constructor
  · rintro ⟨_, _, ⟨rfl, rfl⟩, ⟨index, fingerprint⟩, _, ⟨hauth, rfl⟩, h⟩
    refine ⟨index, fingerprint, hauth, ?_⟩
    cases hlookup : e.commands.lookup command.commandID with
    | some previous =>
      simp only [hlookup, ran_bind, ran_check, ran_pure, require_ok] at h
      obtain ⟨_, _, ⟨hsame, rfl⟩, rfl, -⟩ := h
      exact .inl ⟨previous, rfl, hsame, rfl⟩
    | none =>
      simp only [hlookup, ran_bind, ran_check, ran_pure] at h
      obtain ⟨_, _, ⟨hnew, rfl⟩, rfl, -⟩ := h
      exact .inr ⟨rfl, hnew, rfl⟩
  · rintro ⟨index, fingerprint, hauth, h⟩
    refine ⟨_, _, ⟨rfl, rfl⟩, (index, fingerprint), _, ⟨hauth, rfl⟩, ?_⟩
    rcases h with ⟨previous, hlookup, hsame, rfl⟩ | ⟨hlookup, hnew, rfl⟩
    · simp only [hlookup, ran_bind, ran_check, ran_pure, require_ok]
      exact ⟨(), _, ⟨hsame, rfl⟩, trivial, rfl⟩
    · simp only [hlookup, ran_bind, ran_check, ran_pure]
      exact ⟨(), _, ⟨hnew, rfl⟩, trivial, rfl⟩

def capacityRefused : Failure :=
  errCapacity "candidate snapshot leaves insufficient completion reserve"

def Commits (crypto : Crypto) (e : Engine) (userID : GoString) (command : CommandEnvelope)
    (now : Time) : Prop :=
  (∃ r, (applyCommand crypto userID command now e).1 = .ok r) ∨
    (applyCommand crypto userID command now e).1 = .error capacityRefused

theorem commits_replay {previous : CommandRecord}
    (hauth : e.authenticate crypto userID command = .ok (index, previous.fingerprint))
    (hlookup : e.commands.lookup command.commandID = some previous) :
    Commits crypto e userID command now := by
  have happly := apply_replayed now hauth hlookup
  refine .inl ⟨⟨true, previous.event, e.status, e.version⟩, ?_⟩
  simp only [applyCommand, bind_apply, read_apply, check_apply, pure_apply, hauth, hlookup,
    require, if_true]

variable {f : Failure}

theorem capacity_error {p : Progress}
    (h : e.ensureSnapshotCapacity p completionSnapshotReserveBytes = .error f) :
    f = capacityRefused := by
  simp only [ensureSnapshotCapacity, bind_error, require_error] at h
  rcases h with ⟨hreserve, -⟩ | ⟨_, -, -, h⟩
  · exact absurd (by decide) hreserve
  · exact h.symm

theorem commits_new {event : MatchEvent} {slot : Fin 2}
    (hauth : e.authenticate crypto userID command = .ok (index, fingerprint))
    (hlookup : e.commands.lookup command.commandID = none)
    (hnew : e.checkNew index command now = .ok ())
    (hevent : e.buildEvent crypto (str "agent_command_applied") command.commandID now
      (e.claim index).participantSlot command.payloadType command.payload = .ok event)
    (hslot : slotIndex (e.claim index).participantSlot = .ok slot) :
    Commits crypto e userID command now := by
  unfold Commits
  simp only [applyCommand, bind_apply, read_apply, check_apply, hauth, hlookup, hnew, hevent, hslot]
  generalize hcapacity : e.ensureSnapshotCapacity _ _ = answer
  cases answer with
  | ok _ => exact .inl ⟨_, rfl⟩
  | error f => exact .inr (congrArg Except.error (capacity_error hcapacity))

theorem refused_early (hauth : e.authenticate crypto userID command = .ok (index, fingerprint))
    (hlookup : e.commands.lookup command.commandID = none)
    (hnew : e.checkNew index command now = .ok ())
    (hevent : e.buildEvent crypto (str "agent_command_applied") command.commandID now
      (e.claim index).participantSlot command.payloadType command.payload = .error f) :
    (applyCommand crypto userID command now e).1 = .error f := by
  simp only [applyCommand, bind_apply, read_apply, check_apply, hauth, hlookup, hnew, hevent]

theorem authenticate_other :
    Fails (· ≠ capacityRefused) (e.authenticate crypto userID command) := by
  have hsentinel : ∀ text, errAuthorization text ≠ capacityRefused := by
    simp [errAuthorization, capacityRefused, errCapacity]
  have hfind : Fails (· ≠ capacityRefused) (e.findParticipant command.authorizationID) := by
    unfold findParticipant
    split
    · exact fails_ok
    · split
      · exact fails_ok
      · exact fails_error (hsentinel _)
  refine fails_bind (fails_require fun _ => by decide) fun _ _ => ?_
  refine fails_bind (fails_require fun _ => by decide) fun _ _ => ?_
  refine fails_bind hfind fun _ _ => fails_bind (fails_require fun _ => by decide) fun _ _ => ?_
  refine fails_bind (fails_mapError fun _ _ => hsentinel _) fun _ _ => ?_
  refine fails_bind (fails_mapError fun text _ => ?_) fun _ _ => fails_ok
  simp [failure, capacityRefused, errCapacity]

theorem checkNew_other : Fails (· ≠ capacityRefused) (e.checkNew index command now) := by
  refine fails_bind ?_ fun _ _ => ?_
  · refine fails_bind (fails_require fun _ => by decide) fun _ _ => ?_
    refine fails_bind (fails_require fun _ => by decide) fun _ _ => ?_
    exact fails_require fun _ => by decide
  · refine fails_bind (fails_require fun _ => by decide) fun _ _ => ?_
    refine fails_bind (fails_require fun _ => by decide) fun _ _ => ?_
    exact fails_require fun _ => by decide

theorem preflight_refused (h : (preflightCommand crypto userID command now e).1 = .error f) :
    (applyCommand crypto userID command now e).1 = .error f ∧ f ≠ capacityRefused := by
  simp only [preflightCommand, bind_apply, read_apply, check_apply] at h
  simp only [applyCommand, bind_apply, read_apply, check_apply]
  cases hauth : e.authenticate crypto userID command with
  | error f' =>
    simp only [hauth] at h
    cases h
    exact ⟨rfl, authenticate_other _ hauth⟩
  | ok x =>
    simp only [hauth] at h
    cases hlookup : e.commands.lookup command.commandID with
    | some previous =>
      simp only [hlookup, bind_apply, check_apply] at h
      simp only [bind_apply, check_apply]
      cases hsame : require (previous.fingerprint = x.2)
        (errConflict "command_id was reused with different signed bytes") with
      | error f' =>
        simp only [hsame] at h
        cases h
        exact ⟨rfl, (require_error.mp hsame).2 ▸ by decide⟩
      | ok _ =>
        simp only [hsame, pure_apply] at h
        cases h
    | none =>
      simp only [hlookup, bind_apply, check_apply] at h
      simp only [bind_apply, check_apply]
      cases hnew : e.checkNew x.1 command now with
      | error f' =>
        simp only [hnew] at h
        cases h
        exact ⟨rfl, checkNew_other _ hnew⟩
      | ok _ =>
        simp only [hnew, pure_apply] at h
        cases h

structure Foretells (p : CommandPreflight) (r : ApplyResult) (command : CommandEnvelope)
    (e' : Engine) : Prop where
  replay : p.replay = r.replay
  event : p.event = if r.replay then some r.event else none
  recorded : ∃ record, e'.commands.lookup command.commandID = some record ∧
    record.fingerprint = p.fingerprint ∧ record.event = r.event
  sequence : r.replay = false → r.event.sequence = p.nextGlobalEventSequence
  matchVersion : r.replay = false → r.event.matchVersion = p.matchVersion + 1 ∧
    r.version = p.matchVersion + 1
  unchanged : r.replay = true → r.version = p.matchVersion

variable {r : ApplyResult}

theorem apply_version (h : Ran (applyCommand crypto userID command now) e (.ok r) e') :
    r.version = e'.version := by
  simp only [applyCommand, ran_bind, ran_read, ran_check] at h
  obtain ⟨_, _, ⟨rfl, rfl⟩, ⟨index, fingerprint⟩, _, ⟨hauth, rfl⟩, h⟩ := h
  cases hlookup : e.commands.lookup command.commandID with
  | some previous =>
    simp only [hlookup, ran_bind, ran_check, ran_pure] at h
    obtain ⟨_, _, ⟨_, rfl⟩, rfl, rfl⟩ := h
    rfl
  | none =>
    simp only [hlookup, ran_bind, ran_read, ran_check, ran_pure] at h
    obtain ⟨_, _, -, event, _, -, slot, _, -, _, _, -, h⟩ := h
    obtain ⟨_, _, -, _, _, -, _, _, -, _, _, -, _, _, -, _, _, ⟨rfl, rfl⟩, rfl, rfl⟩ := h
    rfl

theorem foretells (hp : (preflightCommand crypto userID command now e).1 = .ok p)
    (hr : Ran (applyCommand crypto userID command now) e (.ok r) e') :
    Foretells p r command e' := by
  obtain ⟨index, fingerprint, hauth, hp⟩ := preflight_ok.mp hp
  have hr' := hr
  obtain ⟨index', fingerprint', hauth', hr⟩ := apply_ok hr
  rw [hauth] at hauth'
  cases hauth'
  rcases hr with ⟨previous, hlookup, hsame, rfl, rfl⟩ | ⟨event, hlookup, hreplay, rfl, hnew, hevent,
    rfl⟩
  · rcases hp with ⟨previous', hlookup', -, rfl⟩ | ⟨hnone, -⟩
    · rw [hlookup] at hlookup'
      cases hlookup'
      exact ⟨rfl, rfl, ⟨previous, hlookup, hsame, rfl⟩, nofun, nofun, fun _ => rfl⟩
    · rw [hlookup] at hnone
      cases hnone
  · rcases hp with ⟨previous', hlookup', -⟩ | ⟨-, -, rfl⟩
    · rw [hlookup] at hlookup'
      cases hlookup'
    · have hbuilt := buildEvent_built hevent
      refine ⟨hreplay.symm, by rw [hreplay]; rfl, ⟨_, Finmap.lookup_insert _, rfl, rfl⟩,
        fun _ => hbuilt.sequence, fun _ => ⟨hbuilt.version, ?_⟩, fun hsame => ?_⟩
      · exact (apply_version hr').trans hbuilt.version
      · rw [hreplay] at hsame
        cases hsame

structure Agrees (crypto : Crypto) (e : Engine) (userID : GoString) (command : CommandEnvelope)
    (now : Time) : Prop where
  unchanged : (preflightCommand crypto userID command now e).2 = e
  succeeds : (∃ p, (preflightCommand crypto userID command now e).1 = .ok p) ↔
    Commits crypto e userID command now
  answers : ∀ p r e', (preflightCommand crypto userID command now e).1 = .ok p →
    Ran (applyCommand crypto userID command now) e (.ok r) e' → Foretells p r command e'

def BeforeLastEvent (crypto : Crypto) (e : Engine) (userID : GoString)
    (command : CommandEnvelope) (now : Time) : Prop :=
  (∃ index fingerprint, e.authenticate crypto userID command = .ok (index, fingerprint) ∧
    e.commands.lookup command.commandID = none ∧ e.checkNew index command now = .ok ()) ∧
  ∃ last ∈ e.events.getLast?, now.unix < last.occurredAtUnix

theorem buildEvent_late (crypto : Crypto) {eventType causationID payloadType payload : GoString}
    {slot : UInt32} {last : MatchEvent} (hlast : last ∈ e.events.getLast?)
    (hlate : now.unix < last.occurredAtUnix) :
    ∃ f, e.buildEvent crypto eventType causationID now slot payloadType payload = .error f ∧
      f ≠ capacityRefused := by
  by_cases hnow : now.isZero = false ∧ 0 ≤ now.unix
  · refine ⟨failure "event time cannot move backwards", ?_, by decide⟩
    have hback : ¬ ∀ last ∈ e.events.getLast?, last.occurredAtUnix ≤ now.unix := fun h =>
      Int64.not_le.mpr hlate (h last hlast)
    rw [buildEvent, require_of hnow, ok_bind, require, if_neg hback]
    rfl
  · refine ⟨failure "event time is invalid", ?_, by decide⟩
    rw [buildEvent, require, if_neg hnow]
    rfl

structure Valid (command : CommandEnvelope) : Prop where
  commandID : IsText command.commandID
  matchID : IsText command.matchID
  logical : validateLogicalMatchID command.matchID = .ok ()
  challengeID : IsText command.challengeID
  payloadType : IsText command.payloadType
  slot : command.participantSlot ≤ 2
  time : 0 ≤ command.issuedAtUnix
  payload : command.payload ≠ []
  payloadSize : command.payload.length ≤ maxPayloadBytes

theorem verifyCommand_valid {key : GoString} (h : verifyCommand crypto command key = .ok ()) :
    Valid command := by
  simp only [verifyCommand, CommandEnvelope.signingBytes, CommandEnvelope.validate, bind_ok,
    require_ok] at h
  obtain ⟨_, _, message, ⟨_, ⟨_, _, _, htexts, _, hslot, _, hlogical, _, _, _, htime, _, hpayload,
    _⟩, _⟩, _⟩ := h
  have htexts := validateTexts_iff.mp htexts
  simp only [List.forall_mem_cons] at htexts
  obtain ⟨hcommand, -, hmatch, hchallenge, -, htype, -⟩ := htexts
  refine ⟨hcommand, hmatch, hlogical, hchallenge, htype, ?_, htime, hpayload.1, hpayload.2⟩
  rcases hslot with hslot | hslot
  · rw [hslot]
    decide
  · rw [hslot]
    decide

theorem built_exists (hsound : Sound crypto as e) (hcounted : Counted e)
    (hauth : e.authenticate crypto userID command = .ok (index, fingerprint))
    (hnew : e.checkNew index command now = .ok ())
    (hlater : ∀ last ∈ e.events.getLast?, last.occurredAtUnix ≤ now.unix) :
    ∃ event, e.buildEvent crypto (str "agent_command_applied") command.commandID now
      (e.claim index).participantSlot command.payloadType command.payload = .ok event := by
  obtain ⟨-, hidentify⟩ := authenticate_ok.mp hauth
  obtain ⟨-, ⟨-, -, hmatch, hchallenge, -, -, hslot⟩, hverify, -⟩ := identify_ok.mp hidentify
  have hvalid := verifyCommand_valid hverify
  have hissued : now.isZero = false ∧ command.issuedAtUnix ≤ now.unix := by
    simp only [checkNew, bind_ok, require_ok] at hnew
    obtain ⟨-, -, -, -, -, -, hzero, -, hissued⟩ := hnew
    exact ⟨hzero, hissued⟩
  have htitled : Titled e :=
    ⟨hmatch ▸ hvalid.matchID, hmatch ▸ hvalid.logical, hchallenge ▸ hvalid.challengeID⟩
  refine buildEvent_exists htitled hcounted (hcounted.room hsound.bounded) ?_ hvalid.commandID
    (hslot ▸ hvalid.slot) hvalid.payloadType hvalid.payload hvalid.payloadSize ?_ hlater
  · exact isText_ascii (by decide +kernel) (by decide +kernel) (by decide +kernel)
  · exact ⟨hissued.1, Int64.le_trans hvalid.time hissued.2⟩

theorem preflight_agrees_iff (options : NewMatchOptions) (e₀ : Engine)
    (hinit : newMatch crypto options = .ok e₀) (hrun : Run (engineSystem crypto) e₀ as e) :
    Agrees crypto e userID command now ↔ ¬ BeforeLastEvent crypto e userID command now := by
  have hsound := run_sound hrun (newMatch_sound hinit)
  have hcounted := run_counted hrun (newMatch_counted hinit)
  constructor
  · rintro hagrees ⟨⟨index, fingerprint, hauth, hlookup, hnew⟩, last, hlast, hlate⟩
    obtain ⟨f, hevent, hother⟩ := buildEvent_late crypto hlast hlate
    have hrefused := refused_early hauth hlookup hnew hevent
    have hpasses := preflight_ok.mpr ⟨index, fingerprint, hauth, .inr ⟨hlookup, hnew, rfl⟩⟩
    rcases hagrees.succeeds.mp ⟨_, hpasses⟩ with ⟨r, hr⟩ | hcapacity
    · rw [hrefused] at hr
      cases hr
    · rw [hrefused] at hcapacity
      exact hother (Except.error.inj hcapacity)
  · intro hordered
    refine ⟨preflight_reads e, ⟨?_, ?_⟩, fun p r e' => foretells⟩
    · rintro ⟨p, hp⟩
      obtain ⟨index, fingerprint, hauth, hp⟩ := preflight_ok.mp hp
      rcases hp with ⟨previous, hlookup, rfl, -⟩ | ⟨hlookup, hnew, -⟩
      · exact commits_replay hauth hlookup
      · have hlater : ∀ last ∈ e.events.getLast?, last.occurredAtUnix ≤ now.unix := by
          intro last hlast
          by_contra hlate
          exact hordered ⟨⟨index, fingerprint, hauth, hlookup, hnew⟩, last, hlast,
            Int64.not_le.mp hlate⟩
        obtain ⟨event, hevent⟩ := built_exists hsound hcounted hauth hnew hlater
        exact commits_new hauth hlookup hnew hevent (hsound.slots index)
    · intro hcommits
      cases hp : (preflightCommand crypto userID command now e).1 with
      | ok p => exact ⟨p, rfl⟩
      | error f =>
        obtain ⟨hrefused, hother⟩ := preflight_refused hp
        rcases hcommits with ⟨r, hr⟩ | hcapacity
        · rw [hrefused] at hr
          cases hr
        · rw [hrefused] at hcapacity
          exact absurd (Except.error.inj hcapacity) hother

def joined (e : Engine) : Engine := (trace (Engine.perform sampleCrypto) e sampleJoins).2

theorem move_ready : ((newMatch sampleCrypto sampleOptions).toOption.map fun e =>
    let e := joined e
    (e.events.map (·.occurredAtUnix),
      (preflightCommand sampleCrypto (str "user-1") moveCommand ⟨25, 0⟩ e).1.isOk,
      match (applyCommand sampleCrypto (str "user-1") moveCommand ⟨25, 0⟩ e).1 with
      | .ok _ => none
      | .error f => some f)) =
    some ([20, 30], true, some (failure "event time cannot move backwards")) := by
  decide +kernel

theorem preflight_agrees_iff_sample : ∃ e₀ e as, newMatch sampleCrypto sampleOptions = .ok e₀ ∧
    Run (engineSystem sampleCrypto) e₀ as e ∧ e.events.map (·.occurredAtUnix) = [20, 30] ∧
      Agrees sampleCrypto e (str "user-1") moveCommand ⟨30, 0⟩ := by
  obtain ⟨e₀, hinit, hready⟩ := ok_of_map move_ready
  have hrun : Run (engineSystem sampleCrypto) e₀ _ (joined e₀) := perform_run _ e₀ sampleJoins
  have htimes := congrArg Prod.fst hready
  refine ⟨e₀, _, _, hinit, hrun, htimes, ?_⟩
  refine (preflight_agrees_iff sampleOptions e₀ hinit hrun).mpr ?_
  rintro ⟨-, last, hlast, hlate⟩
  have hthirty : last.occurredAtUnix = 30 := by
    have h := congrArg List.getLast? htimes
    rw [List.getLast?_map, Option.mem_def.mp hlast] at h
    exact Option.some.inj h
  rw [hthirty] at hlate
  exact absurd hlate (by decide)

theorem preflight_before_last_event : ∃ e₀ e as, newMatch sampleCrypto sampleOptions = .ok e₀ ∧
    Run (engineSystem sampleCrypto) e₀ as e ∧
      (∃ p, (preflightCommand sampleCrypto (str "user-1") moveCommand ⟨25, 0⟩ e).1 = .ok p) ∧
      (applyCommand sampleCrypto (str "user-1") moveCommand ⟨25, 0⟩ e).1 =
        .error (failure "event time cannot move backwards") ∧
      ¬ Agrees sampleCrypto e (str "user-1") moveCommand ⟨25, 0⟩ := by
  obtain ⟨e₀, hinit, hready⟩ := ok_of_map move_ready
  have hrun : Run (engineSystem sampleCrypto) e₀ _ (joined e₀) := perform_run _ e₀ sampleJoins
  have hready := congrArg Prod.snd hready
  have hpasses := ok_of_isOk (congrArg Prod.fst hready)
  have hrefused : (applyCommand sampleCrypto (str "user-1") moveCommand ⟨25, 0⟩
      (joined e₀)).1 =
        .error (failure "event time cannot move backwards") := by
    have h := congrArg Prod.snd hready
    dsimp only at h
    split at h
    · cases h
    · rename_i f happly
      rw [happly, Option.some.inj h]
  refine ⟨e₀, _, _, hinit, hrun, hpasses, hrefused, fun hagrees => ?_⟩
  rcases hagrees.succeeds.mp hpasses with ⟨r, hr⟩ | hcapacity
  · rw [hrefused] at hr
    cases hr
  · rw [hrefused] at hcapacity
    exact absurd (Except.error.inj hcapacity) (by decide)

end Core
