import TrillionniumGame.Foundation.FiniteMap
import TrillionniumGame.Foundation.Words
import TrillionniumGame.Persistence.Contracts

namespace Authority
open Checks FiniteMap Persistence Words

structure ParticipantId where
  bytes : Bytes 16
  deriving DecidableEq

def ParticipantId.isZero (id : ParticipantId) : Bool := zeroBytes id.bytes

abbrev MatchVersion := UInt64
abbrev AuthorityGeneration := UInt64
abbrev ParticipantSequence := UInt64

def checkedNext (counter : UInt64) : Except DomainError UInt64 :=
  if counter.toNat + 1 < 2 ^ 64 then .ok (counter + 1)
  else .error ⟨.outOfRange, "counter_overflow", .never⟩

structure CommandEnvelope where
  commandId : CommandId
  participantId : ParticipantId
  participantSequence : ParticipantSequence
  expectedVersion : MatchVersion
  authorityGeneration : AuthorityGeneration
  fingerprint : Digest32
  deriving DecidableEq

structure PendingCommand where
  envelope : CommandEnvelope
  baseVersion : MatchVersion
  baseGeneration : AuthorityGeneration
  deriving DecidableEq

structure CommandReceipt where
  commandId : CommandId
  participantId : ParticipantId
  participantSequence : ParticipantSequence
  fingerprint : Digest32
  baseVersion : MatchVersion
  committedVersion : MatchVersion
  authorityGeneration : AuthorityGeneration
  resultDigest : Digest32
  deriving DecidableEq

inductive PrepareOutcome where
  | ready (pending : PendingCommand)
  | replay (receipt : CommandReceipt)

structure MatchState where
  version : MatchVersion
  generation : AuthorityGeneration
  participantSequences : Dict ParticipantId ParticipantSequence
  receipts : Dict CommandId CommandReceipt

namespace MatchState

def new (generation : AuthorityGeneration) : MatchState := ⟨0, generation, ∅, ∅⟩

def rejectZeroIdentity (envelope : CommandEnvelope) : Except DomainError Unit :=
  require (envelope.commandId.isZero = false ∧ envelope.participantId.isZero = false ∧
    envelope.fingerprint.isZero = false)
    ⟨.invalidArgument, "zero_identity_or_fingerprint", .never⟩

variable (s : MatchState)

def currentSequence (participant : ParticipantId) : ParticipantSequence :=
  (s.participantSequences.lookup participant).getD 0

def prepare (envelope : CommandEnvelope) : Except DomainError PrepareOutcome := do
  rejectZeroIdentity envelope
  match s.receipts.lookup envelope.commandId with
  | some receipt =>
    require (receipt.fingerprint = envelope.fingerprint ∧
      receipt.participantId = envelope.participantId ∧
      receipt.participantSequence = envelope.participantSequence ∧
      receipt.baseVersion = envelope.expectedVersion)
      ⟨.alreadyExists, "command_id_conflict", .never⟩
    return .replay receipt
  | none =>
    require (envelope.authorityGeneration = s.generation)
      ⟨.aborted, "stale_authority_generation", .resyncRequired⟩
    require (envelope.expectedVersion = s.version)
      ⟨.aborted, "stale_match_version", .resyncRequired⟩
    let expectedSequence ← checkedNext (s.currentSequence envelope.participantId)
    require (envelope.participantSequence = expectedSequence)
      ⟨.failedPrecondition, "participant_sequence_mismatch", .resyncRequired⟩
    return .ready ⟨envelope, s.version, s.generation⟩

def commit (pending : PendingCommand) (resultDigest : Digest32) :
    Except DomainError (CommandReceipt × MatchState) := do
  match s.receipts.lookup pending.envelope.commandId with
  | some receipt =>
    require (receipt.fingerprint = pending.envelope.fingerprint ∧
      receipt.participantId = pending.envelope.participantId ∧
      receipt.participantSequence = pending.envelope.participantSequence ∧
      receipt.baseVersion = pending.baseVersion ∧
      receipt.resultDigest = resultDigest)
      ⟨.alreadyExists, "command_commit_conflict", .never⟩
    return (receipt, s)
  | none =>
    require (pending.baseGeneration = s.generation)
      ⟨.aborted, "stale_pending_generation", .resyncRequired⟩
    require (pending.baseVersion = s.version)
      ⟨.aborted, "stale_pending_version", .resyncRequired⟩
    let nextSequence ← checkedNext (s.currentSequence pending.envelope.participantId)
    require (nextSequence = pending.envelope.participantSequence)
      ⟨.aborted, "stale_pending_participant_sequence", .resyncRequired⟩
    let committedVersion ← checkedNext s.version
    let receipt : CommandReceipt := {
      commandId := pending.envelope.commandId
      participantId := pending.envelope.participantId
      participantSequence := pending.envelope.participantSequence
      fingerprint := pending.envelope.fingerprint
      baseVersion := pending.baseVersion
      committedVersion := committedVersion
      authorityGeneration := s.generation
      resultDigest := resultDigest }
    return (receipt, { s with
      version := committedVersion
      participantSequences := s.participantSequences.insert pending.envelope.participantId
        pending.envelope.participantSequence
      receipts := s.receipts.insert pending.envelope.commandId receipt })

def takeover (expectedGeneration : AuthorityGeneration) :
    Except DomainError (AuthorityGeneration × MatchState) := do
  require (expectedGeneration = s.generation)
    ⟨.aborted, "takeover_generation_conflict", .resyncRequired⟩
  let generation ← checkedNext s.generation
  return (generation, { s with generation := generation })

end MatchState

theorem checkedNext_ok {counter next : UInt64} (h : checkedNext counter = .ok next) :
    next.toNat = counter.toNat + 1 := by
  unfold checkedNext at h
  split at h
  · next hfits =>
    cases h
    exact toNat_succ_of_lt hfits
  · cases h

def CommandReceipt.Answers (receipt : CommandReceipt) (envelope : CommandEnvelope) : Prop :=
  receipt.fingerprint = envelope.fingerprint ∧ receipt.participantId = envelope.participantId ∧
    receipt.participantSequence = envelope.participantSequence ∧
    receipt.baseVersion = envelope.expectedVersion

structure Committed (s : MatchState) (pending : PendingCommand) (resultDigest : Digest32)
    (receipt : CommandReceipt) (s' : MatchState) : Prop where
  fresh : s.receipts.lookup pending.envelope.commandId = none
  generation : pending.baseGeneration = s.generation
  version : pending.baseVersion = s.version
  sequence : pending.envelope.participantSequence.toNat =
    (s.currentSequence pending.envelope.participantId).toNat + 1
  committed : receipt.committedVersion.toNat = s.version.toNat + 1
  written : receipt = {
    commandId := pending.envelope.commandId
    participantId := pending.envelope.participantId
    participantSequence := pending.envelope.participantSequence
    fingerprint := pending.envelope.fingerprint
    baseVersion := pending.baseVersion
    committedVersion := receipt.committedVersion
    authorityGeneration := s.generation
    resultDigest := resultDigest }
  moved : s' = { s with
    version := receipt.committedVersion
    participantSequences := s.participantSequences.insert pending.envelope.participantId
      pending.envelope.participantSequence
    receipts := s.receipts.insert pending.envelope.commandId receipt }

variable {s s' : MatchState} {envelope : CommandEnvelope} {pending : PendingCommand}
  {receipt : CommandReceipt} {digest : Digest32}

theorem prepare_ready (h : s.prepare envelope = .ok (.ready pending)) :
    MatchState.rejectZeroIdentity envelope = .ok () ∧
    s.receipts.lookup envelope.commandId = none ∧ envelope.expectedVersion = s.version ∧
    pending = ⟨envelope, s.version, s.generation⟩ := by
  obtain ⟨⟨⟩, hzero, h⟩ := bind_ok.mp h
  cases hreceipt : s.receipts.lookup envelope.commandId with
  | some receipt =>
    simp only [hreceipt, bind_ok] at h
    obtain ⟨_, _, h⟩ := h
    cases h
  | none =>
    simp only [hreceipt, bind_ok, require_ok] at h
    obtain ⟨_, _, _, hversion, _, _, _, _, h⟩ := h
    cases h
    exact ⟨hzero, rfl, hversion, rfl⟩

theorem prepare_replay (hzero : MatchState.rejectZeroIdentity envelope = .ok ())
    (hreceipt : s.receipts.lookup envelope.commandId = some receipt)
    (hanswers : receipt.Answers envelope) : s.prepare envelope = .ok (.replay receipt) := by
  refine bind_ok.mpr ⟨(), hzero, ?_⟩
  rw [hreceipt]
  exact bind_ok.mpr ⟨(), require_ok.mpr hanswers, rfl⟩

theorem commit_ok (h : s.commit pending digest = .ok (receipt, s')) :
    s.receipts.lookup pending.envelope.commandId = some receipt ∧ s' = s ∨
      Committed s pending digest receipt s' := by
  unfold MatchState.commit at h
  split at h
  · next found hfound =>
    obtain ⟨_, _, h⟩ := bind_ok.mp h
    cases h
    exact .inl ⟨hfound, rfl⟩
  · next hfresh =>
    simp only [bind_ok, require_ok] at h
    obtain ⟨_, hgeneration, _, hversion, next, hnext, _, hsequence, version, hcommitted, h⟩ := h
    cases h
    refine .inr ⟨hfresh, hgeneration, hversion, ?_, checkedNext_ok hcommitted, rfl, rfl⟩
    rw [← hsequence, checkedNext_ok hnext]

theorem commit_replay (hreceipt : s.receipts.lookup pending.envelope.commandId = some receipt)
    (hanswers : receipt.Answers pending.envelope)
    (hversion : pending.baseVersion = pending.envelope.expectedVersion) :
    s.commit pending receipt.resultDigest = .ok (receipt, s) := by
  obtain ⟨hfingerprint, hparticipant, hsequence, hbase⟩ := hanswers
  unfold MatchState.commit
  rw [hreceipt]
  exact bind_ok.mpr ⟨(), require_ok.mpr ⟨hfingerprint, hparticipant, hsequence,
    hbase.trans hversion.symm, rfl⟩, rfl⟩

theorem takeover_ok {expected generation : AuthorityGeneration}
    (h : s.takeover expected = .ok (generation, s')) :
    generation.toNat = s.generation.toNat + 1 ∧ s' = { s with generation := generation } := by
  obtain ⟨⟨⟩, _, h⟩ := bind_ok.mp h
  obtain ⟨next, hnext, h⟩ := bind_ok.mp h
  cases h
  exact ⟨checkedNext_ok hnext, rfl⟩

end Authority
