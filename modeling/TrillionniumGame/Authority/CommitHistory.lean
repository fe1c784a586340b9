import TrillionniumGame.Authority.MatchState
import TrillionniumGame.Foundation.Runs

namespace Authority
open Checks FiniteMap Persistence Runs

inductive MatchCall where
  | prepare (envelope : CommandEnvelope)
  | commit (pending : PendingCommand) (resultDigest : Digest32)
  | takeover (expectedGeneration : AuthorityGeneration)

structure MatchHistory where
  state : MatchState
  held : List PendingCommand
  commits : List (PendingCommand × CommandReceipt)

namespace MatchHistory

def perform (h : MatchHistory) : MatchCall → MatchHistory
  | .prepare envelope =>
    match h.state.prepare envelope with
    | .ok (.ready pending) => { h with held := pending :: h.held }
    | _ => h
  | .commit pending resultDigest =>
    match h.state.commit pending resultDigest with
    | .ok (receipt, state) =>
      if h.state.receipts.lookup pending.envelope.commandId = none then
        { h with state := state, commits := h.commits ++ [(pending, receipt)] }
      else { h with state := state }
    | .error _ => h
  | .takeover expectedGeneration =>
    match h.state.takeover expectedGeneration with
    | .ok (_, state) => { h with state := state }
    | .error _ => h

end MatchHistory

-- The fields of a pending command are private: a caller only holds what `prepare` returned.
def MatchCall.Admissible (call : MatchCall) (h : MatchHistory) : Prop :=
  match call with
  | .commit pending _ => pending ∈ h.held
  | _ => True

def matchHistories : System MatchHistory MatchCall where
  init h := ∃ generation, h = ⟨.new generation, [], []⟩
  step h call h' := call.Admissible h ∧ h' = h.perform call

inductive Moved (h : MatchHistory) : MatchHistory → Prop
  | stayed : Moved h h
  | prepared {pending : PendingCommand}
      (hzero : MatchState.rejectZeroIdentity pending.envelope = .ok ())
      (hversion : pending.baseVersion = pending.envelope.expectedVersion)
      (hgeneration : pending.baseGeneration = h.state.generation) :
      Moved h { h with held := pending :: h.held }
  | committed {pending : PendingCommand} {digest : Digest32} {receipt : CommandReceipt}
      {state : MatchState} (hheld : pending ∈ h.held)
      (hcommitted : Committed h.state pending digest receipt state) :
      Moved h { h with state := state, commits := h.commits ++ [(pending, receipt)] }
  | tookOver {generation : AuthorityGeneration}
      (hnext : generation.toNat = h.state.generation.toNat + 1) :
      Moved h { h with state := { h.state with generation := generation } }

variable {h h' : MatchHistory} {call : MatchCall} {calls : List MatchCall}

theorem moved_of_step (hstep : matchHistories.step h call h') : Moved h h' := by
  obtain ⟨hadmissible, rfl⟩ := hstep
  cases call with
  | prepare envelope =>
    rw [MatchHistory.perform]
    split
    · next pending hready =>
      obtain ⟨hzero, -, hversion, rfl⟩ := prepare_ready hready
      exact .prepared hzero hversion.symm rfl
    · exact .stayed
  | commit pending digest =>
    rw [MatchHistory.perform]
    split
    · next receipt state hok =>
      rcases commit_ok hok with ⟨hfound, rfl⟩ | hcommitted
      · rw [if_neg (by simp [hfound])]
        exact .stayed
      · rw [if_pos hcommitted.fresh]
        exact .committed hadmissible hcommitted
    · exact .stayed
  | takeover expected =>
    rw [MatchHistory.perform]
    split
    · next generation state hok =>
      obtain ⟨hnext, rfl⟩ := takeover_ok hok
      exact .tookOver hnext
    · exact .stayed

def committedBy (h : MatchHistory) (participant : ParticipantId) : List CommandReceipt :=
  (h.commits.map Prod.snd).filter fun receipt => receipt.participantId = participant

structure Sound (h : MatchHistory) : Prop where
  versions : h.commits.map (fun commit => commit.2.committedVersion.toNat) =
    List.range' 1 h.state.version.toNat
  bases : h.commits.map (fun commit => commit.1.baseVersion.toNat) =
    List.range' 0 h.state.version.toNat
  count : h.state.receipts.keys.card = h.state.version.toNat
  stored : ∀ id receipt, h.state.receipts.lookup id = some receipt ↔
    receipt ∈ h.commits.map Prod.snd ∧ receipt.commandId = id
  sequences : ∀ participant, (committedBy h participant).map (·.participantSequence.toNat) =
    List.range' 1 (h.state.currentSequence participant).toNat
  answers : ∀ commit ∈ h.commits, commit.1 ∈ h.held ∧
    commit.2.commandId = commit.1.envelope.commandId ∧ commit.2.Answers commit.1.envelope
  held : ∀ pending ∈ h.held, MatchState.rejectZeroIdentity pending.envelope = .ok () ∧
    pending.baseVersion = pending.envelope.expectedVersion ∧
    pending.baseGeneration.toNat ≤ h.state.generation.toNat

theorem reachable_perform (hreach : Reachable matchHistories h) (call : MatchCall)
    (hcall : call.Admissible h) : Reachable matchHistories (h.perform call) :=
  hreach.run (Run.single ⟨hcall, rfl⟩)

theorem sound_start (hinit : matchHistories.init h) : Sound h := by
  obtain ⟨generation, rfl⟩ := hinit
  refine ⟨rfl, rfl, rfl, fun id receipt => ?_, fun _ => rfl, nofun, nofun⟩
  simp [MatchState.new]

theorem map_snoc_range' {α : Type} {f : α → ℕ} {xs : List α} {x : α} {start n : ℕ}
    (hxs : xs.map f = List.range' start n) (hx : f x = start + n) :
    (xs ++ [x]).map f = List.range' start (n + 1) := by
  rw [List.map_append, hxs, List.range'_concat, List.map_singleton, hx, Nat.one_mul]

theorem Sound.committed (hsound : Sound h) {pending : PendingCommand} {digest : Digest32}
    {receipt : CommandReceipt} {state : MatchState} (hheld : pending ∈ h.held)
    (hcommitted : Committed h.state pending digest receipt state) :
    Sound { h with state := state, commits := h.commits ++ [(pending, receipt)] } := by
  obtain ⟨hfresh, hgeneration, hversion, hsequence, hnext, hwritten, hmoved⟩ := hcommitted
  have hid : receipt.commandId = pending.envelope.commandId := by rw [hwritten]
  have hparticipant : receipt.participantId = pending.envelope.participantId := by rw [hwritten]
  have hposition : receipt.participantSequence = pending.envelope.participantSequence := by
    rw [hwritten]
  have hanswers : receipt.Answers pending.envelope := by
    have hbase : receipt.baseVersion = pending.baseVersion := by rw [hwritten]
    have hprint : receipt.fingerprint = pending.envelope.fingerprint := by rw [hwritten]
    exact ⟨hprint, hparticipant, hposition, hbase.trans (hsound.held pending hheld).2.1⟩
  subst hmoved
  constructor
  case versions =>
    change _ = List.range' 1 receipt.committedVersion.toNat
    rw [hnext]
    exact map_snoc_range' hsound.versions (by rw [hnext, Nat.add_comm])
  case bases =>
    change _ = List.range' 0 receipt.committedVersion.toNat
    rw [hnext]
    exact map_snoc_range' hsound.bases (by rw [hversion, Nat.zero_add])
  case count =>
    change (h.state.receipts.insert _ receipt).keys.card = receipt.committedVersion.toNat
    rw [keys_insert, Finset.card_insert_of_notMem, hsound.count, hnext]
    rwa [Finmap.mem_keys, ← Finmap.lookup_eq_none]
  case stored =>
    intro id found
    change (h.state.receipts.insert _ receipt).lookup id = some found ↔ _
    rw [lookup_insert_ite, List.map_append, List.mem_append, List.map_singleton,
      List.mem_singleton]
    by_cases hsame : id = pending.envelope.commandId
    · rw [if_pos hsame]
      constructor
      · intro hfound
        cases hfound
        exact ⟨.inr rfl, hid.trans hsame.symm⟩
      · rintro ⟨hmem | rfl, hfound⟩
        · have hlookup := (hsound.stored id found).mpr ⟨hmem, hfound⟩
          rw [hsame, hfresh] at hlookup
          cases hlookup
        · rfl
    · rw [if_neg hsame, hsound.stored]
      constructor
      · rintro ⟨hmem, hfound⟩
        exact ⟨.inl hmem, hfound⟩
      · rintro ⟨hmem | rfl, hfound⟩
        · exact ⟨hmem, hfound⟩
        · exact absurd (hfound.symm.trans hid) hsame
  case sequences =>
    intro participant
    change (((h.commits ++ [(pending, receipt)]).map Prod.snd).filter _).map _ = List.range' 1
      (((h.state.participantSequences.insert _ _).lookup participant).getD 0).toNat
    rw [lookup_insert_ite, List.map_append, List.map_singleton, List.filter_append,
      List.filter_singleton]
    by_cases hsame : participant = pending.envelope.participantId
    · rw [if_pos hsame, Option.getD_some, hsequence]
      have hmine : decide (receipt.participantId = participant) = true :=
        decide_eq_true (hparticipant.trans hsame.symm)
      rw [hmine, cond_true, ← hsame]
      refine map_snoc_range' (hsound.sequences participant) ?_
      rw [hposition, hsequence, ← hsame, Nat.add_comm]
    · have hother : decide (receipt.participantId = participant) = false :=
        decide_eq_false fun heq => hsame (heq.symm.trans hparticipant)
      rw [if_neg hsame, hother, cond_false, List.append_nil]
      exact hsound.sequences participant
  case answers =>
    intro commit hcommit
    rcases List.mem_append.mp hcommit with hcommit | hcommit
    · exact hsound.answers commit hcommit
    · cases List.mem_singleton.mp hcommit
      exact ⟨hheld, hid, hanswers⟩
  case held => exact hsound.held

theorem Sound.moved (hsound : Sound h) (hmoved : Moved h h') : Sound h' := by
  cases hmoved with
  | stayed => exact hsound
  | committed hheld hcommitted => exact hsound.committed hheld hcommitted
  | @prepared pending hzero hversion hgeneration =>
    refine { hsound with answers := fun commit hcommit => ?_, held := fun found hfound => ?_ }
    · obtain ⟨hheld, hanswers⟩ := hsound.answers commit hcommit
      exact ⟨List.mem_cons_of_mem _ hheld, hanswers⟩
    · rcases List.mem_cons.mp hfound with rfl | hfound
      · exact ⟨hzero, hversion, by rw [hgeneration]⟩
      · exact hsound.held found hfound
  | tookOver hnext =>
    refine { hsound with held := fun found hfound => ?_ }
    obtain ⟨hzero, hversion, hle⟩ := hsound.held found hfound
    exact ⟨hzero, hversion, hle.trans (by rw [hnext]; exact Nat.le_succ _)⟩

theorem Sound.run (hrun : Run matchHistories h calls h') (hsound : Sound h) : Sound h' :=
  hrun.invariant (fun _ _ _ hs hstep => hs.moved (moved_of_step hstep)) hsound

theorem sound (hreach : Reachable matchHistories h) : Sound h :=
  hreach.invariant (fun _ hinit => sound_start hinit) fun _ _ _ hs hstep => hs.moved (moved_of_step hstep)

structure Since (start h : MatchHistory) : Prop where
  generation : start.state.generation.toNat ≤ h.state.generation.toNat
  commits : ∃ later, h.commits = start.commits ++ later ∧
    ∀ commit ∈ later, start.state.generation.toNat ≤ commit.1.baseGeneration.toNat

theorem Since.refl (h : MatchHistory) : Since h h :=
  ⟨le_rfl, [], (List.append_nil _).symm, nofun⟩

theorem Since.moved {start : MatchHistory} (hsince : Since start h) (hmoved : Moved h h') :
    Since start h' := by
  obtain ⟨hgeneration, later, hlater, hfloor⟩ := hsince
  cases hmoved with
  | stayed | prepared _ _ _ => exact ⟨hgeneration, later, hlater, hfloor⟩
  | tookOver hnext =>
    refine ⟨hgeneration.trans ?_, later, hlater, hfloor⟩
    rw [hnext]
    exact Nat.le_succ _
  | @committed pending digest receipt state hheld hcommitted =>
    refine ⟨?_, later ++ [(pending, receipt)], ?_, fun commit hcommit => ?_⟩
    · rw [hcommitted.moved]
      exact hgeneration
    · rw [hlater, List.append_assoc]
    · rcases List.mem_append.mp hcommit with hcommit | hcommit
      · exact hfloor commit hcommit
      · cases List.mem_singleton.mp hcommit
        rw [hcommitted.generation]
        exact hgeneration

theorem since (hrun : Run matchHistories h calls h') : Since h h' :=
  hrun.invariant (fun _ _ _ hs hstep => hs.moved (moved_of_step hstep)) (Since.refl h)

variable {commit : PendingCommand × CommandReceipt}

theorem Sound.replays (hsound : Sound h) (hcommit : commit ∈ h.commits)
    {envelope : CommandEnvelope} (hid : envelope.commandId = commit.2.commandId)
    (hanswers : commit.2.Answers envelope) : h.state.prepare envelope = .ok (.replay commit.2) := by
  obtain ⟨hheld, hown, hcommitted⟩ := hsound.answers commit hcommit
  obtain ⟨hzero, -, -⟩ := hsound.held _ hheld
  have hlookup := (hsound.stored envelope.commandId commit.2).mpr
    ⟨List.mem_map_of_mem hcommit, hid.symm⟩
  refine prepare_replay ?_ hlookup hanswers
  have hsame : MatchState.rejectZeroIdentity envelope =
      MatchState.rejectZeroIdentity commit.1.envelope := by
    simp only [MatchState.rejectZeroIdentity, hid, hown, ← hanswers.1, ← hanswers.2.1,
      hcommitted.1, hcommitted.2.1]
  rw [hsame, hzero]

theorem Sound.recommits (hsound : Sound h) (hcommit : commit ∈ h.commits) :
    h.state.commit commit.1 commit.2.resultDigest = .ok (commit.2, h.state) := by
  obtain ⟨hheld, hown, hanswers⟩ := hsound.answers commit hcommit
  obtain ⟨-, hversion, -⟩ := hsound.held _ hheld
  have hlookup := (hsound.stored commit.1.envelope.commandId commit.2).mpr
    ⟨List.mem_map_of_mem hcommit, hown⟩
  exact commit_replay hlookup hanswers hversion

structure CommitLog (h : MatchHistory) : Prop where
  count : h.state.receipts.keys.card = h.state.version.toNat
  stored : ∀ id receipt, h.state.receipts.lookup id = some receipt ↔
    receipt ∈ h.commits.map Prod.snd ∧ receipt.commandId = id
  versions : h.commits.map (fun commit => commit.2.committedVersion.toNat) =
    List.range' 1 h.state.version.toNat
  sequences : ∀ participant, (committedBy h participant).map (·.participantSequence.toNat) =
    List.range' 1 (h.state.currentSequence participant).toNat
  bases : (h.commits.map fun commit => commit.1.baseVersion).Nodup
  fenced : ∀ expected generation state, h.state.takeover expected = .ok (generation, state) →
    ∀ calls h', Run matchHistories { h with state := state } calls h' →
      ∃ later, h'.commits = h.commits ++ later ∧ ∀ commit ∈ later, commit.1 ∉ h.held
  replayed : ∀ calls h', Run matchHistories h calls h' → ∀ commit ∈ h.commits,
    (∀ envelope, envelope.commandId = commit.2.commandId → commit.2.Answers envelope →
      h'.state.prepare envelope = .ok (.replay commit.2)) ∧
    h'.state.commit commit.1 commit.2.resultDigest = .ok (commit.2, h'.state)

theorem match_commit_log (hreach : Reachable matchHistories h) : CommitLog h := by
  have hsound := sound hreach
  refine ⟨hsound.count, hsound.stored, hsound.versions, hsound.sequences, ?_, ?_, ?_⟩
  case refine_1 =>
    have hnodup : (h.commits.map fun commit => commit.1.baseVersion.toNat).Nodup := by
      rw [hsound.bases]
      exact List.nodup_range'
    rw [← Function.comp_def UInt64.toNat, ← List.map_map] at hnodup
    exact hnodup.of_map
  case refine_2 =>
    intro expected generation state hok calls h' hrun
    obtain ⟨hnext, rfl⟩ := takeover_ok hok
    obtain ⟨-, later, hlater, hfloor⟩ := since hrun
    refine ⟨later, hlater, fun commit hcommit hheld => ?_⟩
    have hold := (hsound.held _ hheld).2.2
    have hnew : generation.toNat ≤ _ := hfloor commit hcommit
    omega
  case refine_3 =>
    intro calls h' hrun commit hcommit
    obtain ⟨-, later, hlater, -⟩ := since hrun
    have hkept : commit ∈ h'.commits := hlater ▸ List.mem_append_left _ hcommit
    have hsound' := hsound.run hrun
    exact ⟨fun _ hid hanswers => hsound'.replays hkept hid hanswers, hsound'.recommits hkept⟩

def sampleEnvelope : CommandEnvelope where
  commandId := ⟨.replicate 16 1⟩
  participantId := ⟨.replicate 16 2⟩
  participantSequence := 1
  expectedVersion := 0
  authorityGeneration := 1
  fingerprint := ⟨.replicate 32 3⟩

def samplePending : PendingCommand := ⟨sampleEnvelope, 0, 1⟩

def sampleReceipt : CommandReceipt :=
  ⟨sampleEnvelope.commandId, sampleEnvelope.participantId, 1, sampleEnvelope.fingerprint, 0, 1, 1,
    ⟨.replicate 32 9⟩⟩

def sampleHistory : MatchHistory :=
  (((⟨.new 1, [], []⟩ : MatchHistory).perform (.prepare sampleEnvelope)).perform
    (.commit samplePending ⟨.replicate 32 9⟩)).perform (.takeover 1)

theorem match_commit_log_sample :
    sampleHistory.commits = [(samplePending, sampleReceipt)] ∧
      sampleHistory.state.generation = 2 ∧ CommitLog sampleHistory := by
  refine ⟨by decide, by decide, match_commit_log ?_⟩
  have hstart : Reachable matchHistories ⟨.new 1, [], []⟩ := .start ⟨1, rfl⟩
  have hprepared := reachable_perform hstart (.prepare sampleEnvelope) trivial
  refine reachable_perform (reachable_perform hprepared
    (.commit samplePending ⟨.replicate 32 9⟩) ?_) (.takeover 1) trivial
  change samplePending ∈ (MatchHistory.perform _ (.prepare sampleEnvelope)).held
  decide

end Authority
