import TrillionniumGame.Foundation.GoDecode

namespace Nakama
open Checks GoJson GoText JsonText

def named (s : String) : Name := s.toList

def canonicalBase64Field (name : Name) : Bool :=
  name ∈ [named "agent_public_key", named "signature", named "payload",
    named "core_snapshot_base64", named "authority_public_key_base64"]

def maxNestingDepth : Nat := 10000

mutual

def withinDepth : Nat → Tree → Bool
  | limit, .array items => decide (0 < limit) && itemsWithin (limit - 1) items
  | limit, .object members => decide (0 < limit) && membersWithin (limit - 1) members
  | _, _ => true

def itemsWithin : Nat → List Tree → Bool
  | _, [] => true
  | limit, item :: rest => withinDepth limit item && itemsWithin limit rest

def membersWithin : Nat → List (List Piece × Tree) → Bool
  | _, [] => true
  | limit, (_, value) :: rest => withinDepth limit value && membersWithin limit rest

end

def requireBase64 (fieldName : Name) (value : List Char) : Except String Unit :=
  match decodeBase64 true value with
  | none => .error (String.ofList fieldName ++ " is not canonical padded base64")
  | some decoded => require (base64 decoded = value)
      (String.ofList fieldName ++ " is not canonical padded base64")

mutual

def validateJSONValue (fieldName : Name) : Tree → Except String Unit
  | .object members => validateMembers [] members
  | .array items => validateItems fieldName items
  | .text pieces =>
    if canonicalBase64Field fieldName = true then requireBase64 fieldName (joinPieces pieces)
    else .ok ()
  | _ => .ok ()

def validateItems (fieldName : Name) : List Tree → Except String Unit
  | [] => .ok ()
  | item :: rest => do
    validateJSONValue fieldName item
    validateItems fieldName rest

def validateMembers (seen : List Name) : List (List Piece × Tree) → Except String Unit
  | [] => .ok ()
  | (pieces, value) :: rest => do
    require (joinPieces pieces ∉ seen) "duplicate JSON object member"
    validateJSONValue (joinPieces pieces) value
    validateMembers (joinPieces pieces :: seen) rest

end

-- Both passes read the text through the same scanner, so both see the one tree of it.
def decodeJSONStrict (dst : Dest) (raw : GoString) : Except String Held := do
  require (validString raw = true) "JSON is not valid UTF-8"
  let tree ← parseText (runes raw)
  validateJSONValue [] tree
  require (withinDepth maxNestingDepth tree = true) "exceeded max depth"
  decodeInto dst dst.zero tree

def authorizationClaim : Dest := .record [(named "schema", .text),
  (named "authorization_id", .text), (named "match_id", .text), (named "challenge_id", .text),
  (named "agent_id", .text), (named "agent_did", .text), (named "agent_key_id", .text),
  (named "agent_public_key", .bytes), (named "subject_user_id", .text),
  (named "participant_slot", .uint 32), (named "role", .text), (named "ruleset_hash", .text),
  (named "dataset_hash", .text), (named "challenge_snapshot_hash", .text),
  (named "issued_at_unix", .int 64), (named "expires_at_unix", .int 64)]

def signedAuthorization : Dest := .record [(named "claim", authorizationClaim),
  (named "issuer_key_id", .text), (named "signature", .bytes)]

def commandEnvelope : Dest := .record [(named "schema", .text), (named "command_id", .text),
  (named "authorization_id", .text), (named "match_id", .text), (named "challenge_id", .text),
  (named "agent_id", .text), (named "participant_slot", .uint 32),
  (named "participant_sequence", .uint 64), (named "expected_match_version", .uint 64),
  (named "issued_at_unix", .int 64), (named "payload_type", .text), (named "payload", .bytes),
  (named "payload_hash", .text), (named "agent_key_id", .text), (named "signature", .bytes)]

def terminalFacts : Dest := .record [(named "result_code", .text), (named "winner_slot", .uint 32),
  (named "outcome_hash", .text)]

def matchCompletedV1 : Dest := .record [(named "schema", .text), (named "commitment_id", .text),
  (named "match_id", .text), (named "challenge_id", .text), (named "terminal_facts", terminalFacts),
  (named "event_count", .uint 64), (named "event_root", .text), (named "roster_root", .text),
  (named "ruleset_hash", .text), (named "dataset_hash", .text),
  (named "challenge_snapshot_hash", .text), (named "archive_hash", .text),
  (named "completed_at_unix", .int 64), (named "authority_key_id", .text),
  (named "signature", .bytes)]

def storedMatch : Dest := .record [(named "schema", .text), (named "logical_match_id", .text),
  (named "core_snapshot_base64", .text), (named "snapshot_sha256", .text),
  (named "external_match_id", .text), (named "runtime_generation", .uint 64)]

def completeSignal : Dest := .record [(named "schema", .text), (named "action", .text),
  (named "logical_match_id", .text), (named "runtime_generation", .uint 64),
  (named "operator_token", .text), (named "facts", terminalFacts)]

def createMatchRequest : Dest := .record [(named "schema", .text), (named "operator_token", .text),
  (named "authorizations", .list signedAuthorization)]

def resumeMatchRequest : Dest := .record [(named "schema", .text), (named "operator_token", .text),
  (named "logical_match_id", .text)]

def evidenceRequest : Dest := .record [(named "schema", .text), (named "logical_match_id", .text),
  (named "authorization_id", .text), (named "operator_token", .text)]

def archiveRequest : Dest := .record [(named "schema", .text), (named "logical_match_id", .text),
  (named "after_sequence", .pointer (.uint 64)), (named "limit", .pointer (.uint 32)),
  (named "authorization_id", .pointer .text), (named "operator_token", .pointer .text)]

def completeMatchRequest : Dest := .record [(named "schema", .text),
  (named "operator_token", .text), (named "logical_match_id", .text),
  (named "facts", terminalFacts)]

def evidenceResponse : Dest := .record [(named "schema", .text), (named "logical_match_id", .text),
  (named "external_match_id", .text), (named "runtime_generation", .uint 64),
  (named "completion", matchCompletedV1), (named "authority_public_key_base64", .text)]

def worldCommandStatusRequest : Dest := .record [(named "schema", .text),
  (named "operator_token", .text), (named "logical_match_id", .text)]

def worldCommandAbortRequest : Dest := .record [(named "schema", .text),
  (named "operator_token", .text), (named "logical_match_id", .text),
  (named "client_command_id", .text), (named "generation", .uint 64), (named "reason", .text)]

def storedWorldCommand : Dest := .record [(named "schema", .text),
  (named "logical_match_id", .text), (named "snapshot_base64", .text),
  (named "snapshot_sha256", .text)]

def runtimeRecords : List Dest :=
  [commandEnvelope, signedAuthorization, storedMatch, completeSignal, createMatchRequest,
    resumeMatchRequest, evidenceRequest, archiveRequest, completeMatchRequest, evidenceResponse,
    worldCommandStatusRequest, worldCommandAbortRequest, storedWorldCommand]

def byteFields : List Name := [named "agent_public_key", named "signature", named "payload"]

def AssignedOnce (fields : List Field) (members : List Member) : Prop :=
  members.Pairwise fun one other =>
    ∀ field, fieldOf fields one.name = some field → fieldOf fields other.name ≠ some field

def ReadCanonically (fields : List Field) (members : List Member) : Prop :=
  ∀ member ∈ members, ∀ field, fieldOf fields member.name = some field → field.2 = .bytes →
    field.1 ∈ byteFields →
      ∃ pieces, member.2 = .text pieces ∧ canonicalBase64 (joinPieces pieces)

def DecodedStrictly (dst : Dest) (raw : GoString) : Prop :=
  ∀ tree, parseText (runes raw) = .ok tree → ∀ fields members, Meets dst tree fields members →
    AssignedOnce fields members ∧ ReadCanonically fields members

-- The spellings that the wire check sees through: letter case (with U+017F and U+212A) tells no two
-- members of an object apart, and a byte slice is text, in canonical base64 under other spellings.
def SpelledApart (members : List Member) : Prop :=
  (members.map fun member => foldName member.name).Nodup

def BytesAreText (fields : List Field) (members : List Member) : Prop :=
  ∀ name ∈ byteFields, (name, .bytes) ∈ fields → ∀ member ∈ members,
    foldName member.name = foldName name →
      ∃ pieces, member.2 = .text pieces ∧
        (member.name ≠ name → canonicalBase64 (joinPieces pieces))

def WrittenStrictly (dst : Dest) (raw : GoString) : Prop :=
  ∀ tree, parseText (runes raw) = .ok tree → ∀ fields members, Meets dst tree fields members →
    SpelledApart members ∧ BytesAreText fields members

variable {dst : Dest}

theorem runtimeRecords_distinct (h : dst ∈ runtimeRecords) : dst.distinct = true := by
  have hall : ∀ dst ∈ runtimeRecords, dst.distinct = true := by decide +kernel
  exact hall dst h

variable {fieldName : Name}

theorem requireBase64_ok {value : List Char} (h : requireBase64 fieldName value = .ok ()) :
    canonicalBase64 value := by
  unfold requireBase64 at h
  split at h
  · cases h
  case h_2 decoded _ => exact ⟨decoded, (require_ok.mp h).symm⟩

theorem validateItems_mem {items : List Tree} (h : validateItems fieldName items = .ok ())
    {item : Tree} (hmem : item ∈ items) : validateJSONValue fieldName item = .ok () := by
  induction items with
  | nil => cases hmem
  | cons first rest ih =>
    obtain ⟨⟨⟩, hfirst, hrest⟩ := bind_ok.mp h
    rcases List.mem_cons.mp hmem with rfl | hmem
    · exact hfirst
    · exact ih hrest hmem

variable {members : List Member}

theorem validateMembers_mem {seen : List Name} (h : validateMembers seen members = .ok ())
    {member : Member} (hmem : member ∈ members) :
    validateJSONValue member.name member.2 = .ok () := by
  induction members generalizing seen with
  | nil => cases hmem
  | cons first rest ih =>
    obtain ⟨⟨⟩, -, h⟩ := bind_ok.mp h
    obtain ⟨⟨⟩, hfirst, hrest⟩ := bind_ok.mp h
    rcases List.mem_cons.mp hmem with rfl | hmem
    · exact hfirst
    · exact ih hrest hmem

variable {tree : Tree}

theorem validated_of_meets {fields : List Field} (h : Meets dst tree fields members)
    (hvalid : validateJSONValue fieldName tree = .ok ()) : validateMembers [] members = .ok () := by
  induction h generalizing fieldName with
  | here _ => exact hvalid
  | item _ hmem _ ih => exact ih (validateItems_mem hvalid hmem)
  | member _ hmem _ _ ih => exact ih (validateMembers_mem hvalid hmem)

theorem decodeJSONStrict_ok {raw : GoString} {held : Held}
    (h : decodeJSONStrict dst raw = .ok held) (htree : parseText (runes raw) = .ok tree) :
    validateJSONValue [] tree = .ok () ∧ decodeInto dst dst.zero tree = .ok held := by
  obtain ⟨⟨⟩, -, h⟩ := bind_ok.mp h
  obtain ⟨found, hfound, h⟩ := bind_ok.mp h
  rw [htree] at hfound
  cases hfound
  obtain ⟨⟨⟩, hvalid, h⟩ := bind_ok.mp h
  obtain ⟨⟨⟩, -, h⟩ := bind_ok.mp h
  exact ⟨hvalid, h⟩

section
variable {fields : List Field} {members : List Member}

theorem assignedOnce_iff (hdistinct : (fields.map fun field => foldName field.1).Nodup)
    (hknown : ∀ member ∈ members, ∃ field, fieldOf fields member.name = some field) :
    AssignedOnce fields members ↔ SpelledApart members := by
  rw [SpelledApart, List.Nodup, List.pairwise_map]
  constructor
  · intro honce
    refine honce.imp_of_mem fun {one other} hone hother hapart hfold => ?_
    obtain ⟨field, hfield⟩ := hknown one hone
    obtain ⟨found, hfound⟩ := hknown other hother
    obtain rfl := (fieldOf_iff hdistinct hfield hfound).mpr hfold.symm
    exact hapart found hfield hfound
  · intro happart
    refine happart.imp_of_mem fun {one other} _ _ hfold field hone hother => ?_
    exact hfold (((fieldOf_iff hdistinct hone hother).mp rfl).symm)

theorem readCanonically_iff (hdistinct : (fields.map fun field => foldName field.1).Nodup)
    (hknown : ∀ member ∈ members, ∃ field, fieldOf fields member.name = some field)
    (hvalid : validateMembers [] members = .ok ()) :
    ReadCanonically fields members ↔ BytesAreText fields members := by
  constructor
  · intro hread name hname hmem member hmember hfold
    obtain ⟨field, hfield⟩ := hknown member hmember
    have hsame : field = (name, .bytes) := by
      refine List.inj_on_of_nodup_map hdistinct (fieldOf_mem hfield) hmem ?_
      rw [foldName_fieldOf hfield, hfold]
    subst hsame
    obtain ⟨pieces, htext, hcanonical⟩ := hread member hmember _ hfield rfl hname
    exact ⟨pieces, htext, fun _ => hcanonical⟩
  · intro htexts member hmember field hfield hbytes hname
    have hmem : (field.1, Dest.bytes) ∈ fields := hbytes ▸ fieldOf_mem hfield
    obtain ⟨pieces, htext, hspelled⟩ :=
      htexts field.1 hname hmem member hmember (foldName_fieldOf hfield).symm
    refine ⟨pieces, htext, ?_⟩
    by_cases hexact : member.name = field.1
    · have hchecked := validateMembers_mem hvalid hmember
      have hwire : canonicalBase64Field member.name = true := by
        have hall : ∀ name ∈ byteFields, canonicalBase64Field name = true := by decide
        exact hexact ▸ hall field.1 hname
      rw [htext, validateJSONValue, if_pos hwire] at hchecked
      exact requireBase64_ok hchecked
    · exact hspelled hexact

end

structure Accepted (fields : List Field) (members : List Member) : Prop where
  distinct : (fields.map fun field => foldName field.1).Nodup
  known : ∀ member ∈ members, ∃ field, fieldOf fields member.name = some field
  valid : validateMembers [] members = .ok ()

theorem accepted_of_meets {dst : Dest} (hdst : dst ∈ runtimeRecords) {raw : GoString} {held : Held}
    (h : decodeJSONStrict dst raw = .ok held) {tree : Tree}
    (htree : parseText (runes raw) = .ok tree) {fields : List Field} {members : List Member}
    (hmeets : Meets dst tree fields members) : Accepted fields members := by
  obtain ⟨hvalid, hdecode⟩ := decodeJSONStrict_ok h htree
  obtain ⟨before, values, hmembers⟩ := hmeets.decoded hdecode
  refine ⟨hmeets.distinct (runtimeRecords_distinct hdst), fun member hmember => ?_,
    validated_of_meets hmeets hvalid⟩
  obtain ⟨field, _, _, hfield, -⟩ := decodeMembers_mem hmembers hmember
  exact ⟨field, hfield⟩

theorem decoded_strictly_iff {dst : Dest} (hdst : dst ∈ runtimeRecords) {raw : GoString}
    {held : Held} (h : decodeJSONStrict dst raw = .ok held) :
    DecodedStrictly dst raw ↔ WrittenStrictly dst raw := by
  refine forall₂_congr fun tree htree => forall₃_congr fun fields members hmeets => ?_
  have haccepted := accepted_of_meets hdst h htree hmeets
  exact and_congr (assignedOnce_iff haccepted.distinct haccepted.known)
    (readCanonically_iff haccepted.distinct haccepted.known haccepted.valid)

theorem decodeJSONStrict_render (dst : Dest) (v : Value) :
    decodeJSONStrict dst (ofRunes v.render) = (do
      validateJSONValue [] v.tree
      require (withinDepth maxNestingDepth v.tree = true) "exceeded max depth"
      decodeInto dst dst.zero v.tree) := by
  rw [decodeJSONStrict, validString_ofRunes, runes_ofRunes, parseText_render]
  rfl

def sampleEnvelope : Value :=
  .object [(named "schema", .text (named "v1")), (named "Payload", .text (named "AQ=="))]

theorem sampleEnvelope_written :
    WrittenStrictly commandEnvelope (ofRunes sampleEnvelope.render) := by
  intro tree htree fields members hmeets
  rw [runes_ofRunes, parseText_render] at htree
  cases htree
  cases hmeets with
  | here hdest =>
    cases hdest
    refine ⟨by unfold SpelledApart; decide +kernel, fun name hname hbytes member hmember hfold => ?_⟩
    have hcanonical : requireBase64 [] (named "AQ==") = .ok () := by decide +kernel
    rcases List.mem_pair.mp hmember with rfl | rfl
    · clear hbytes
      exact absurd hfold (by revert name; decide +kernel)
    · exact ⟨_, rfl, fun _ => requireBase64_ok hcanonical⟩
  | member hdest hmem _ hinner =>
    rcases List.mem_pair.mp hmem with rfl | rfl <;> cases hinner

theorem sample_envelope_decoded_strictly :
    (∃ held, decodeJSONStrict commandEnvelope (ofRunes sampleEnvelope.render) = .ok held) ∧
      DecodedStrictly commandEnvelope (ofRunes sampleEnvelope.render) := by
  have hok : (decodeJSONStrict commandEnvelope (ofRunes sampleEnvelope.render)).isOk = true := by
    rw [decodeJSONStrict_render]
    decide +kernel
  obtain ⟨held, hheld⟩ := ok_of_isOk hok
  exact ⟨⟨held, hheld⟩,
    (decoded_strictly_iff (by simp [runtimeRecords]) hheld).mpr sampleEnvelope_written⟩

def respelledSignal : Value :=
  .object [(named "action", .text (named "cancel")), (named "Action", .text (named "complete"))]

theorem respelled_signal_decoded_twice :
    ¬ ∀ dst ∈ runtimeRecords, ∀ raw held, decodeJSONStrict dst raw = .ok held →
      DecodedStrictly dst raw := by
  intro hall
  have hok : (decodeJSONStrict completeSignal (ofRunes respelledSignal.render)).isOk = true := by
    rw [decodeJSONStrict_render]
    decide +kernel
  obtain ⟨held, hheld⟩ := ok_of_isOk hok
  have htree : parseText (runes (ofRunes respelledSignal.render)) = .ok respelledSignal.tree := by
    rw [runes_ofRunes, parseText_render]
  have hmeets : Meets completeSignal respelledSignal.tree _ _ := .here rfl
  have haccepted := accepted_of_meets (by simp [runtimeRecords]) hheld htree hmeets
  obtain ⟨honce, -⟩ := hall completeSignal (by simp [runtimeRecords]) _ held hheld _ htree _ _ hmeets
  have hapart := (assignedOnce_iff haccepted.distinct haccepted.known).mp honce
  exact absurd hapart (by unfold SpelledApart; decide +kernel)

end Nakama
