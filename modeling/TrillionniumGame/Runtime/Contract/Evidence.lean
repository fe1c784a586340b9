import Mathlib.Data.List.Sort
import TrillionniumGame.Foundation.MerkleTree
import TrillionniumGame.Foundation.Sha256
import TrillionniumGame.Runtime.Contract.Digest

namespace Contract
open Checks DigestTable Framing GoText MerkleTree

section
structure EventCommitment where
  sequence : UInt64
  eventHash : Digest

def leafInput (commitment : EventCommitment) (eventHash : Vector UInt8 32) : GoString :=
  str "trnm_match_event_leaf_v1" ++ 0 :: (bigEndian commitment.sequence.toNat 8 ++ eventHash.toList)

def leafInputs : Nat → List EventCommitment → Except String (List GoString)
  | _, [] => .ok []
  | index, commitment :: rest => do
    require (commitment.sequence.toNat = index + 1)
      ("event sequence is not contiguous at index " ++ toString index)
    let eventHash ← (Digest.bytes commitment.eventHash).mapError
      ("event hash " ++ toString index ++ ": " ++ ·)
    let tail ← leafInputs (index + 1) rest
    return leafInput commitment eventHash :: tail

def nodeInput (left right : Vector UInt8 32) : GoString :=
  str "trnm_binary_merkle_node_v1" ++ 0 :: (left.toList ++ right.toList)

def eventRootFromCommitments (crypto : Crypto) (commitments : List EventCommitment) :
    Except String Digest := do
  require (commitments ≠ []) "cannot compute an event root for an empty archive"
  let leaves ← leafInputs 0 commitments
  let root ← fetch (top crypto.sha256 nodeInput leaves).head? "index out of range"
  return digestPrefix ++ hexEncode root

def rootInputs (crypto : Crypto) (commitments : List EventCommitment) : List GoString :=
  match leafInputs 0 commitments with
  | .ok leaves => allInputs crypto.sha256 nodeInput leaves
  | .error _ => []

variable {crypto : Crypto} {commitments : List EventCommitment} {index : Nat}
  {leaves : List GoString} {commitment : EventCommitment}

theorem leafInputs_cons :
    leafInputs index (commitment :: commitments) = .ok leaves ↔
      commitment.sequence.toNat = index + 1 ∧ ∃ raw tail,
        Digest.bytes commitment.eventHash = .ok raw ∧
        leafInputs (index + 1) commitments = .ok tail ∧
        leaves = leafInput commitment raw :: tail := by
  simp only [leafInputs, bind_ok, require_ok, mapError_ok]
  constructor
  · rintro ⟨_, hsequence, raw, hraw, tail, htail, h⟩
    exact ⟨hsequence, raw, tail, hraw, htail, (Except.ok.inj h).symm⟩
  · rintro ⟨hsequence, raw, tail, hraw, htail, rfl⟩
    exact ⟨(), hsequence, raw, hraw, tail, htail, rfl⟩

theorem mem_leafInputs (h : leafInputs index commitments = .ok leaves) (a : GoString) :
    a ∈ leaves ↔ ∃ i commitment raw, commitments[i]? = some commitment ∧
      commitment.sequence.toNat = index + i + 1 ∧
      Digest.bytes commitment.eventHash = .ok raw ∧ a = leafInput commitment raw := by
  induction commitments generalizing index leaves with
  | nil =>
    cases h
    simp
  | cons commitment rest ih =>
    obtain ⟨hsequence, raw, tail, hraw, htail, rfl⟩ := leafInputs_cons.mp h
    rw [List.mem_cons, ih htail]
    constructor
    · rintro (rfl | ⟨i, c, raw', hget, hseq, hraw', rfl⟩)
      · exact ⟨0, commitment, raw, rfl, hsequence, hraw, rfl⟩
      · exact ⟨i + 1, c, raw', hget, by omega, hraw', rfl⟩
    · rintro ⟨i, c, raw', hget, hseq, hraw', rfl⟩
      cases i with
      | zero =>
        cases hget
        rw [hraw] at hraw'
        exact .inl (by rw [Except.ok.inj hraw'])
      | succ i => exact .inr ⟨i, c, raw', hget, by omega, hraw', rfl⟩

variable {i : Nat}

theorem leafInputs_get (h : leafInputs index commitments = .ok leaves)
    (hget : commitments[i]? = some commitment) :
    commitment.sequence.toNat = index + i + 1 ∧
      ∃ raw, Digest.bytes commitment.eventHash = .ok raw := by
  induction commitments generalizing index leaves i with
  | nil => cases hget
  | cons first rest ih =>
    obtain ⟨hsequence, raw, tail, hraw, htail, rfl⟩ := leafInputs_cons.mp h
    cases i with
    | zero =>
      cases hget
      exact ⟨hsequence, raw, hraw⟩
    | succ i =>
      obtain ⟨hseq, hbytes⟩ := ih htail hget
      exact ⟨by omega, hbytes⟩

theorem leafInputs_ne_nil (h : leafInputs index commitments = .ok leaves) (hne : commitments ≠ []) :
    leaves ≠ [] := by
  cases commitments with
  | nil => exact absurd rfl hne
  | cons commitment rest =>
    obtain ⟨_, _, _, _, _, rfl⟩ := leafInputs_cons.mp h
    exact List.cons_ne_nil _ _

theorem leafInput_inj {c c' : EventCommitment} {raw raw' : Vector UInt8 32}
    (h : leafInput c raw = leafInput c' raw') : c.sequence = c'.sequence ∧ raw = raw' := by
  have hbody := (List.cons.inj (List.append_cancel_left h)).2
  obtain ⟨hsequence, hraw⟩ := bigEndian_peel c.sequence.toNat_lt c'.sequence.toNat_lt hbody
  exact ⟨UInt64.toNat_inj.mp hsequence, Vector.toList_inj.mp hraw⟩

def IsLeafInput (a : GoString) : Prop := ∃ c raw, a = leafInput c raw

theorem inputs_separated : Separated nodeInput IsLeafInput := by
  constructor
  · rintro a l r ⟨c, raw, rfl⟩ h
    have htag := (tag_peel (by decide +kernel) (by decide +kernel) h).1
    revert htag
    decide +kernel
  · intro l r l' r' h
    have hbody := (List.cons.inj (List.append_cancel_left h)).2
    obtain ⟨hl, hr⟩ := List.append_inj hbody (by simp)
    exact ⟨Vector.toList_inj.mp hl, Vector.toList_inj.mp hr⟩

theorem leafInputs_subset {xs ys : List EventCommitment} {ls ks : List GoString}
    (hx : leafInputs index xs = .ok ls) (hy : leafInputs index ys = .ok ks)
    (h : ∀ a, a ∈ ls → a ∈ ks) {c : EventCommitment} (hget : xs[i]? = some c) :
    ys[i]? = some c := by
  obtain ⟨hsequence, raw, hraw⟩ := leafInputs_get hx hget
  have hmem := h _ ((mem_leafInputs hx _).mpr ⟨i, c, raw, hget, hsequence, hraw, rfl⟩)
  obtain ⟨j, c', raw', hget', hsequence', hraw', hleaf⟩ := (mem_leafInputs hy _).mp hmem
  obtain ⟨hseq, rfl⟩ := leafInput_inj hleaf
  have hhash := bytes_inj hraw hraw'
  obtain ⟨sequence, eventHash⟩ := c
  obtain ⟨sequence', eventHash'⟩ := c'
  simp only at hseq hhash hsequence hsequence'
  subst hseq hhash
  have hij : j = i := by omega
  rwa [hij] at hget'

theorem eventRoot_ok {root : Digest} :
    eventRootFromCommitments crypto commitments = .ok root ↔
      commitments ≠ [] ∧ ∃ leaves raw, leafInputs 0 commitments = .ok leaves ∧
        (top crypto.sha256 nodeInput leaves).head? = some raw ∧
        root = digestPrefix ++ hexEncode raw := by
  simp only [eventRootFromCommitments, bind_ok, require_ok, fetch_ok]
  constructor
  · rintro ⟨_, hne, leaves, hleaves, raw, hraw, h⟩
    exact ⟨hne, leaves, raw, hleaves, hraw, (Except.ok.inj h).symm⟩
  · rintro ⟨hne, leaves, raw, hleaves, hraw, rfl⟩
    exact ⟨(), hne, leaves, hleaves, raw, hraw, rfl⟩

theorem event_root_commits (crypto : Crypto) (xs ys : List EventCommitment) (root : Digest)
    (hx : eventRootFromCommitments crypto xs = .ok root)
    (hy : eventRootFromCommitments crypto ys = .ok root) :
    xs = ys ∨ Collide crypto.sha256 (rootInputs crypto xs) (rootInputs crypto ys) := by
  obtain ⟨hxne, ls, raw, hls, htop, hroot⟩ := eventRoot_ok.mp hx
  obtain ⟨hyne, ks, raw', hks, htop', hroot'⟩ := eventRoot_ok.mp hy
  have hraw : raw = raw' := by
    have hbytes := bytes_hexEncode raw
    rw [← hroot, hroot', bytes_hexEncode] at hbytes
    exact (Except.ok.inj hbytes).symm
  have hleaf : ∀ a ∈ ls, IsLeafInput a := by
    intro a ha
    obtain ⟨_, c, raw, _, _, _, rfl⟩ := (mem_leafInputs hls a).mp ha
    exact ⟨c, raw, rfl⟩
  have hleaf' : ∀ a ∈ ks, IsLeafInput a := by
    intro a ha
    obtain ⟨_, c, raw, _, _, _, rfl⟩ := (mem_leafInputs hks a).mp ha
    exact ⟨c, raw, rfl⟩
  have hinputs : rootInputs crypto xs = allInputs crypto.sha256 nodeInput ls := by
    rw [rootInputs, hls]
  have hinputs' : rootInputs crypto ys = allInputs crypto.sha256 nodeInput ks := by
    rw [rootInputs, hks]
  rw [hinputs, hinputs']
  rcases inputs_separated.leaves_eq (leafInputs_ne_nil hls hxne) (leafInputs_ne_nil hks hyne)
    hleaf hleaf' (by rw [htop, htop', hraw]) with hmem | hcollide
  · refine .inl (List.ext_getElem? fun i => ?_)
    apply Option.ext
    intro c
    exact ⟨leafInputs_subset hls hks fun a => (hmem a).mp,
      leafInputs_subset hks hls fun a => (hmem a).mpr⟩
  · exact .inr hcollide

def goldenHash (n : Nat) : Digest := digestPrefix ++ hexEncode (digest n)

def goldenHashes : List Nat :=
  [0xebc9090e942b7f3881ec2603598cb1dbb968cec30caa9a3fcfdc1db14a723959,
    0x4c64a71d69d84df899b38b3c4f2606d57f0c29c4d66a868d29c2aac1a1003ebf,
    0x1ac0e70b5955d33529f4f7cffd339e62d4c464269ab507ca79ba6bbdf0525256]

def goldenRoot : Nat := 0x9b9c8f4f783923167f1039e97abb614528add576ab852a590dd0ee0600bb7075

def goldenCommitments : List EventCommitment :=
  [⟨1, goldenHash goldenHashes[0]⟩, ⟨2, goldenHash goldenHashes[1]⟩,
    ⟨3, goldenHash goldenHashes[2]⟩]

def goldenCrypto : Crypto where
  sha256 := Sha256.digest
  sign _ _ := []
  verify _ _ _ := false
  publicKey _ := []

theorem golden_root :
    eventRootFromCommitments goldenCrypto goldenCommitments = .ok (goldenHash goldenRoot) := by
  decide +kernel

theorem event_root_commits_golden :
    eventRootFromCommitments goldenCrypto goldenCommitments = .ok (goldenHash goldenRoot) ∧
      (goldenCommitments = goldenCommitments ∨
        Collide goldenCrypto.sha256 (rootInputs goldenCrypto goldenCommitments)
          (rootInputs goldenCrypto goldenCommitments)) :=
  ⟨golden_root, event_root_commits _ _ _ _ golden_root golden_root⟩

end

section
def eventSchema : GoString := str "trnm.match.event.v1"

def completionSchema : GoString := str "trnm.match.completed.v1"

structure MatchEvent where
  schema : GoString
  eventID : GoString
  eventType : GoString
  matchID : GoString
  challengeID : GoString
  sequence : UInt64
  causationID : GoString
  occurredAtUnix : Int64
  participantSlot : UInt32
  matchVersion : UInt64
  payloadType : GoString
  payload : GoString
  payloadHash : Digest
  eventHash : Digest

def MatchEvent.fields (e : MatchEvent) : List Field :=
  [.text e.schema, .text e.eventID, .text e.eventType, .text e.matchID, .text e.challengeID,
    .u64 e.sequence, .text e.causationID, i64 e.occurredAtUnix, .u32 e.participantSlot,
    .u64 e.matchVersion, .text e.payloadType, .text e.payload, .digest e.payloadHash]

section

variable (crypto : Crypto)

def MatchEvent.validateFacts (e : MatchEvent) : Except String Unit := do
  require (e.schema = eventSchema) "unsupported event schema"
  validateTexts [("event_id", e.eventID), ("event_type", e.eventType), ("match_id", e.matchID),
    ("challenge_id", e.challengeID), ("causation_id", e.causationID),
    ("payload_type", e.payloadType)]
  require (e.sequence ≠ 0 ∧ e.matchVersion ≠ 0) "event sequence and match version must be positive"
  validateLogicalMatchID e.matchID
  require (e.participantSlot ≤ 2) "event participant_slot must be 0, 1, or 2"
  require (0 ≤ e.occurredAtUnix ∧ e.payload ≠ [] ∧ e.payload.length ≤ maxPayloadBytes)
    "event time or payload is invalid"
  require (e.payloadHash = newDigest crypto e.payload) "event payload_hash does not match payload"

def MatchEvent.factsBytes (e : MatchEvent) : Except String GoString := do
  e.validateFacts crypto
  frame (str "trnm_match_event_v1") e.fields

def computeEventHash (event : MatchEvent) : Except String Digest := do
  let facts ← event.factsBytes crypto
  return newDigest crypto facts

def sealEvent (event : MatchEvent) : Except String MatchEvent := do
  let event := { event with payloadHash := newDigest crypto event.payload }
  let hash ← computeEventHash crypto event
  return { event with eventHash := hash }

def MatchEvent.validate (crypto : Crypto) (e : MatchEvent) : Except String Unit := do
  let hash ← computeEventHash crypto e
  (Digest.validate e.eventHash).mapError ("event_hash: " ++ ·)
  require (e.eventHash = hash) "event_hash does not match event facts"

def eventIDBytes (matchID : GoString) (sequence : UInt64) (causationID : GoString) :
    Except String GoString := do
  (validateLogicalMatchID matchID).mapError ("match_id: " ++ ·)
  require (sequence ≠ 0) "event sequence must be positive"
  validateText "causation_id" causationID
  frame (str "trnm_match_event_id_v1") [.text matchID, .text causationID, .u64 sequence]

def canonicalEventID (matchID : GoString) (sequence : UInt64) (causationID : GoString) :
    Except String GoString := do
  let encoded ← eventIDBytes matchID sequence causationID
  return newDigest crypto encoded

end

structure ArchiveScan where
  index : Nat := 0
  joinedSlots : List UInt32 := []
  seenEventIDs : List GoString := []
  seenEventHashes : List Digest := []
  commandCount : Nat := 0
  completionSeen : Bool := false
  previousTime : Int64 := 0

def ArchiveScan.applyType (scan : ArchiveScan) (total : Nat) (event : MatchEvent) :
    Except String ArchiveScan :=
  if event.eventType = str "participant_joined" then do
    require (scan.commandCount = 0 ∧ scan.completionSeen = false ∧ 1 ≤ event.participantSlot ∧
      event.participantSlot ≤ 2) "join event occurs outside the admission phase"
    require (event.participantSlot ∉ scan.joinedSlots) "participant slot joins more than once"
    require (event.payloadType = str "trnm.participant.joined.v1")
      "join event has an unexpected payload type"
    return { scan with joinedSlots := event.participantSlot :: scan.joinedSlots }
  else if event.eventType = str "agent_command_applied" then do
    require (1 ∈ scan.joinedSlots ∧ 2 ∈ scan.joinedSlots ∧ scan.completionSeen = false ∧
      1 ≤ event.participantSlot ∧ event.participantSlot ≤ 2)
      "command event occurs outside the active phase"
    return { scan with commandCount := scan.commandCount + 1 }
  else if event.eventType = str "match_completed" then do
    require (scan.completionSeen = false ∧ scan.index + 1 = total ∧ scan.commandCount ≠ 0 ∧
      event.participantSlot = 0) "completion event occurs outside the completion transition"
    require (event.payloadType = str "trnm.match.terminal-facts.v1")
      "completion event has an unexpected payload type"
    return { scan with completionSeen := true }
  else .error "unsupported event type"

-- Sequences and versions are compared as numbers: the index of an event is an `int`.
def ArchiveScan.step (crypto : Crypto) (matchID challengeID : GoString) (total : Nat)
    (scan : ArchiveScan) (event : MatchEvent) : Except String ArchiveScan := do
  require (event.matchID = matchID ∧ event.challengeID = challengeID)
    "archive match or challenge identity differs"
  require (event.sequence.toNat = scan.index + 1) "event sequence is not contiguous"
  require (event.matchVersion.toNat = scan.index + 2) "match_version must equal sequence plus one"
  require (scan.index = 0 ∨ scan.previousTime ≤ event.occurredAtUnix) "event time moves backwards"
  event.validate crypto
  let expectedEventID ← (canonicalEventID crypto event.matchID event.sequence
    event.causationID).mapError ("could not derive canonical event ID: " ++ ·)
  require (event.eventID = expectedEventID) "event ID is not canonically derived"
  require (event.eventID ∉ scan.seenEventIDs) "duplicate event ID"
  require (event.eventHash ∉ scan.seenEventHashes) "duplicate event hash"
  let next ← scan.applyType total event
  return { next with
    index := scan.index + 1
    seenEventIDs := event.eventID :: scan.seenEventIDs
    seenEventHashes := event.eventHash :: scan.seenEventHashes
    previousTime := event.occurredAtUnix }

def ArchiveScan.run (crypto : Crypto) (matchID challengeID : GoString) (total : Nat) :
    ArchiveScan → List MatchEvent → Except String ArchiveScan
  | scan, [] => .ok scan
  | scan, event :: rest => do
    let next ← (scan.step crypto matchID challengeID total event).mapError
      ("event " ++ toString scan.index ++ ": " ++ ·)
    ArchiveScan.run crypto matchID challengeID total next rest

def validateArchive (crypto : Crypto) : List MatchEvent → Except String Unit
  | [] => .error "event archive is empty"
  | first :: rest => do
    let _ ← ArchiveScan.run crypto first.matchID first.challengeID (rest.length + 1) {}
      (first :: rest)
    return ()

variable (crypto : Crypto)

def eventRoot (events : List MatchEvent) : Except String Digest := do
  validateArchive crypto events
  eventRootFromCommitments crypto (events.map fun event => ⟨event.sequence, event.eventHash⟩)

structure RosterEntry where
  participantSlot : UInt32
  subjectUserID : GoString
  agentID : GoString
  agentDID : GoString
  agentKeyID : GoString
  agentKeyHash : Digest
  role : GoString

def ordered (roster : List RosterEntry) : List RosterEntry :=
  roster.insertionSort fun a b => a.participantSlot ≤ b.participantSlot

def RosterEntry.validate (entry : RosterEntry) : Except String Unit := do
  validateTexts [("subject_user_id", entry.subjectUserID), ("agent_id", entry.agentID),
    ("agent_did", entry.agentDID), ("agent_key_id", entry.agentKeyID), ("role", entry.role)]
  (Digest.validate entry.agentKeyHash).mapError ("agent_key_hash: " ++ ·)

def RosterEntry.fields (entry : RosterEntry) : List Field :=
  [.u32 entry.participantSlot, .text entry.subjectUserID, .text entry.agentID,
    .text entry.agentDID, .text entry.agentKeyID, .digest entry.agentKeyHash, .text entry.role]

def rosterBytes (roster : List RosterEntry) : Except String GoString :=
  match ordered roster with
  | [one, two] => do
    require (one.participantSlot = 1 ∧ two.participantSlot = 2) "roster must contain slots 1 and 2"
    require (one.subjectUserID ≠ two.subjectUserID ∧ one.agentID ≠ two.agentID ∧
      one.agentDID ≠ two.agentDID ∧ one.agentKeyID ≠ two.agentKeyID ∧
      one.agentKeyHash ≠ two.agentKeyHash)
      "roster participants must have unique user, agent, DID, and key values"
    one.validate
    two.validate
    frame (str "trnm_match_roster_v1") (.u32 2 :: (one.fields ++ two.fields))
  | _ => .error "roster must contain exactly two participants"

def rosterRoot (roster : List RosterEntry) : Except String Digest := do
  let encoded ← rosterBytes roster
  return newDigest crypto encoded

def archiveFields (crypto : Crypto) : List MatchEvent → Except String (List Field)
  | [] => .ok []
  | event :: rest => do
    let facts ← event.factsBytes crypto
    let eventHash ← Digest.bytes event.eventHash
    let fields ← archiveFields crypto rest
    return .text facts :: .text eventHash.toList :: fields

def canonicalArchive (events : List MatchEvent) : Except String GoString := do
  validateArchive crypto events
  let fields ← archiveFields crypto events
  frame (str "trnm_match_event_archive_v1") (.u64 (UInt64.ofNat events.length) :: fields)

def archiveHash (events : List MatchEvent) : Except String Digest := do
  let archive ← canonicalArchive crypto events
  return newDigest crypto archive

structure TerminalFacts where
  resultCode : GoString
  winnerSlot : UInt32
  outcomeHash : Digest

def TerminalFacts.fields (f : TerminalFacts) : List Field :=
  [.text f.resultCode, .u32 f.winnerSlot, .digest f.outcomeHash]

def TerminalFacts.canonicalBytes (f : TerminalFacts) : Except String GoString := do
  validateText "result_code" f.resultCode
  require (f.winnerSlot ≤ 2) "winner_slot must be 0, 1, or 2"
  (Digest.validate f.outcomeHash).mapError ("outcome_hash: " ++ ·)
  frame (str "trnm_match_terminal_facts_v1") f.fields

structure MatchCompletedV1 where
  schema : GoString
  commitmentID : Digest
  matchID : GoString
  challengeID : GoString
  terminalFacts : TerminalFacts
  eventCount : UInt64
  eventRoot : Digest
  rosterRoot : Digest
  rulesetHash : Digest
  datasetHash : Digest
  challengeSnapshotHash : Digest
  archiveHash : Digest
  completedAtUnix : Int64
  authorityKeyID : GoString
  signature : GoString

def commitmentBytes (matchID : GoString) (eventRoot archiveHash : Digest) :
    Except String GoString := do
  validateLogicalMatchID matchID
  frame (str "trnm_match_commitment_id_v1") [.text matchID, .digest eventRoot, .digest archiveHash]

def commitmentID (matchID : GoString) (eventRoot archiveHash : Digest) : Except String Digest := do
  let encoded ← commitmentBytes matchID eventRoot archiveHash
  return newDigest crypto encoded

def MatchCompletedV1.fields (c : MatchCompletedV1) (terminalFacts : GoString) : List Field :=
  [.text c.schema, .digest c.commitmentID, .text c.matchID, .text c.challengeID,
    .text terminalFacts, .u64 c.eventCount, .digest c.eventRoot, .digest c.rosterRoot,
    .digest c.rulesetHash, .digest c.datasetHash, .digest c.challengeSnapshotHash,
    .digest c.archiveHash, i64 c.completedAtUnix, .text c.authorityKeyID]

def MatchCompletedV1.signingBytes (c : MatchCompletedV1) : Except String GoString := do
  require (c.schema = completionSchema ∧ c.eventCount ≠ 0 ∧ 0 ≤ c.completedAtUnix)
    "completion schema, event count, or time is invalid"
  validateTexts [("match_id", c.matchID), ("challenge_id", c.challengeID),
    ("authority_key_id", c.authorityKeyID)]
  validateLogicalMatchID c.matchID
  (Digest.validate c.commitmentID).mapError ("commitment_id: " ++ ·)
  let expectedCommitmentID ← Contract.commitmentID crypto c.matchID c.eventRoot c.archiveHash
  require (c.commitmentID = expectedCommitmentID)
    "commitment_id does not match match and archive roots"
  let terminalFacts ← c.terminalFacts.canonicalBytes.mapError ("terminal_facts: " ++ ·)
  frame (str "trnm_match_completed_signature_v1") (c.fields terminalFacts)

def signCompletion (completion : MatchCompletedV1) (privateKey : GoString) :
    Except String MatchCompletedV1 := do
  validateEd25519PrivateKey crypto privateKey "authority"
  let completion := { completion with signature := [] }
  let message ← completion.signingBytes crypto
  return { completion with signature := crypto.sign privateKey message }

def verifyCompletion (completion : MatchCompletedV1) (authorityPublicKey : GoString) :
    Except String Unit := do
  require (authorityPublicKey.length = publicKeySize ∧ completion.signature.length = signatureSize)
    "authority key or completion signature has invalid length"
  let message ← completion.signingBytes crypto
  require (crypto.verify authorityPublicKey message completion.signature = true)
    "completion signature verification failed"

end

end Contract
