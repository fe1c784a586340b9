import TrillionniumGame.Runtime.Contract.Digest
import TrillionniumGame.Runtime.WorldTransition.Restore

namespace WorldTransition
open Checks GoText

def transitionHashDomain : GoString := str "trnm.world.transition.accepted.v1"
def outcomeHashDomain : GoString := str "trnm.world.outcome.v1"
def contextHashDomain : GoString := str "trnm.nakama.world.transition.context.v1"

def maxReplayBytes : Nat := 2 * 1024 * 1024
def maxOutcomeBytes : Nat := 512 * 1024

def stableErrorCodes : List GoString :=
  [str "invalid_contract_version", str "invalid_request", str "unknown_ruleset_revision",
    str "unknown_content_revision", str "payload_hash_mismatch", str "invalid_canonical_payload",
    str "forbidden_authority_surface", str "resource_budget_exceeded", str "invalid_command",
    str "domain_rejected", str "nondeterministic_output", str "internal_unavailable"]

def acceptedFields : List GoString :=
  [str "content_revision", str "contract_version", str "next_state", str "next_tick",
    str "outcome_material", str "previous_state_hash", str "replay_material", str "request_hash",
    str "ruleset_revision", str "transition_id", str "world_outcome_hash",
    str "world_transition_hash"]

def rejectedFields : List GoString :=
  [str "code", str "contract_version", str "detail", str "request_hash", str "retryable",
    str "transition_id"]

def requireHash (value : GoAny) (expected : GoString) (text : String) : Except String GoString := do
  let hash ← (requireHex64Value value text).mapError fun _ => errContract text
  require (hash = expected) (errContract text)
  return hash

def hasExactFields (object : List (GoString × GoAny)) (expected : List GoString) : Prop :=
  object.length = expected.length ∧ ∀ field ∈ object, field.1 ∈ expected

instance (object : List (GoString × GoAny)) (expected : List GoString) :
    Decidable (hasExactFields object expected) := inferInstanceAs (Decidable (_ ∧ _))

def boundedDetail (value : GoString) : Bool :=
  value ≠ [] && value.length ≤ 256 && validString value &&
    (runes value).all fun c => ¬ (c.toNat < 0x20 ∨ c.toNat = 0x7f)

inductive Disposition where
  | accepted
  | rejected
  deriving DecidableEq

structure Verified where
  context : AuthorityContext
  authorityContextFingerprint : GoString
  requestHash : GoString
  transitionID : GoString
  disposition : Disposition
  nextTick : Option Int64
  previousStateHash : Option GoString
  nextState : Option CanonicalPayload
  replayMaterial : Option CanonicalPayload
  outcomeMaterial : Option CanonicalPayload
  worldOutcomeHash : Option GoString
  worldTransitionHash : Option GoString
  errorCode : Option GoString
  retryable : Option Bool
  canonicalResult : GoString
  canonicalResultSHA256 : GoString

def acceptedFacts (result : List (GoString × GoAny)) : List (GoString × GoAny) :=
  ["content_revision", "contract_version", "next_state", "next_tick", "outcome_material",
    "previous_state_hash", "replay_material", "request_hash", "ruleset_revision", "transition_id",
    "world_outcome_hash"].map fun name => (str name, field result name)

def verifyIdentity (prepared : Prepared) (result : List (GoString × GoAny)) :
    Except String Unit := do
  require ((field result "contract_version").equalsText contractVersion = true)
    (errContract "result contract version mismatch")
  require ((field result "transition_id").equalsText prepared.transitionID = true)
    (errContract "result transition_id mismatch")

def requireNextTick (value : GoAny) (expectedTick : Int64) : Except String Int64 :=
  match value with
  | .int n => do
    require (expectedTick.toInt ≤ n) (errContract "next_tick is invalid or regresses")
    return Int64.ofInt n
  | _ => .error (errContract "next_tick is invalid or regresses")

def requireCode (value : GoAny) : Except String GoString := do
  let code ← requireText value "rejection code must be a string"
  require (code ∈ stableErrorCodes) (errContract "rejection code is not stable")
  return code

def requireRetryable (value : GoAny) (code : GoString) : Except String Bool :=
  match value with
  | .bool retryable => do
    require (retryable = decide (code = str "internal_unavailable"))
      (errContract "retryable disagrees with stable error catalogue")
    return retryable
  | _ => .error (errContract "retryable disagrees with stable error catalogue")

def requireDetail (value : GoAny) : Except String Unit :=
  match value with
  | .text detail =>
    require (boundedDetail detail = true) (errContract "rejection detail is not bounded text")
  | _ => .error (errContract "rejection detail is not bounded text")

section
variable (sha256 : GoString → Vector UInt8 32)

def AuthorityContext.fingerprint (c : AuthorityContext) : Except String GoString := do
  let binding ← c.binding
  domainHash sha256 contextHashDomain binding

def computeOutcomeHash (rulesetRevision contentRevision : GoString) (outcome : CanonicalPayload) :
    Except String GoString := do
  let binding ← canonicalJSON
    (.object
      [(str "content_revision", .text contentRevision),
        (str "outcome_payload_hash", .text outcome.sha256),
        (str "outcome_schema_id", .text outcome.schemaID),
        (str "ruleset_revision", .text rulesetRevision)]) false
  domainHash sha256 outcomeHashDomain binding

def verifyOutcome (context : AuthorityContext) (outcomeValue hashValue : GoAny) :
    Except String (Option (CanonicalPayload × GoString)) :=
  match outcomeValue with
  | .nil =>
    match hashValue with
    | .nil => .ok none
    | _ => .error (errContract "outcome hash present without outcome material")
  | outcomeValue => do
    let outcome ← payloadFromWire sha256 outcomeValue maxOutcomeBytes "outcome_material"
    let supplied ← requireHex64Value hashValue "world_outcome_hash"
    let expected ← computeOutcomeHash sha256 context.rulesetRevision context.contentRevision outcome
    require (supplied = expected) (errContract "world_outcome_hash mismatch")
    return some (outcome, supplied)

def verifyAccepted (prepared : Prepared) (result : List (GoString × GoAny))
    (canonical canonicalSHA : GoString) : Except String Verified := do
  let _ ← requireExactObject (.object result) acceptedFields "accepted World result"
  verifyIdentity prepared result
  require
    ((field result "ruleset_revision").equalsText prepared.context.rulesetRevision = true ∧
      (field result "content_revision").equalsText prepared.context.contentRevision = true)
    (errContract "accepted result revision mismatch")
  let requestHash ← requireHash (field result "request_hash") prepared.requestHash
    "request_hash mismatch"
  let previousStateHash ← requireHash (field result "previous_state_hash")
    prepared.previousStateHash "previous_state_hash mismatch"
  let nextTick ← requireNextTick (field result "next_tick") prepared.context.expectedTick
  let nextState ← payloadFromWire sha256 (field result "next_state") maxStateBytes "next_state"
  let replay ← payloadFromWire sha256 (field result "replay_material") maxReplayBytes
    "replay_material"
  let outcome ← verifyOutcome sha256 prepared.context (field result "outcome_material")
    (field result "world_outcome_hash")
  let transitionHash ← requireHex64Value (field result "world_transition_hash")
    "world_transition_hash"
  let canonicalFacts ← canonicalJSON (.object (acceptedFacts result)) false
  let expectedTransitionHash ← domainHash sha256 transitionHashDomain canonicalFacts
  require (transitionHash = expectedTransitionHash) (errContract "world_transition_hash mismatch")
  let fingerprint ← prepared.context.fingerprint sha256
  return {
    context := prepared.context
    authorityContextFingerprint := fingerprint
    requestHash := requestHash
    transitionID := prepared.transitionID
    disposition := .accepted
    nextTick := some nextTick
    previousStateHash := some previousStateHash
    nextState := some nextState
    replayMaterial := some replay
    outcomeMaterial := outcome.map (·.1)
    worldOutcomeHash := outcome.map (·.2)
    worldTransitionHash := some transitionHash
    errorCode := none
    retryable := none
    canonicalResult := canonical
    canonicalResultSHA256 := canonicalSHA }

def verifyRejected (prepared : Prepared) (result : List (GoString × GoAny))
    (canonical canonicalSHA : GoString) : Except String Verified := do
  let _ ← requireExactObject (.object result) rejectedFields "rejected World result"
  verifyIdentity prepared result
  let code ← requireCode (field result "code")
  let retryable ← requireRetryable (field result "retryable") code
  let requestHash ← requireHash (field result "request_hash") prepared.requestHash
    "rejection request_hash mismatch"
  requireDetail (field result "detail")
  let fingerprint ← prepared.context.fingerprint sha256
  return {
    context := prepared.context
    authorityContextFingerprint := fingerprint
    requestHash := requestHash
    transitionID := prepared.transitionID
    disposition := .rejected
    nextTick := none
    previousStateHash := none
    nextState := none
    replayMaterial := none
    outcomeMaterial := none
    worldOutcomeHash := none
    worldTransitionHash := none
    errorCode := some code
    retryable := some retryable
    canonicalResult := canonical
    canonicalResultSHA256 := canonicalSHA }

def requireRoot (value : GoAny) : Except String (List (GoString × GoAny)) :=
  match value with
  | .object fields => .ok fields
  | _ => .error (errContract "result root must be an object")

def resultLimit : Int := maxStateBytes + maxReplayBytes + maxOutcomeBytes + 16384

def verifyResult (prepared : Prepared) (raw : GoString) : Except String Verified := do
  let value ← (parseCanonical raw true resultLimit).mapError fun e => errContract ("result: " ++ e)
  let result ← requireRoot value
  let canonical ← canonicalJSON (.object result) true
  let canonicalSHA := sha256Hex sha256 canonical
  if hasExactFields result acceptedFields then
    verifyAccepted sha256 prepared result canonical canonicalSHA
  else if hasExactFields result rejectedFields then
    verifyRejected sha256 prepared result canonical canonicalSHA
  else do
    require (∀ field ∈ result, field.1 ∉ forbiddenAuthorityKeys)
      (errContract "result contains forbidden authority field")
    .error (errContract "result does not match accepted or rejected field set")

end

variable {sha256 : GoString → Vector UInt8 32} {value : GoAny}

theorem requireHash_ok {expected s : GoString} {text : String} :
    requireHash value expected text = .ok s ↔
      (value = .text s ∧ hex64Pattern s = true) ∧ s = expected := by
  simp only [requireHash, bind_ok, mapError_ok, requireHex64Value_ok, require_ok]
  constructor
  · rintro ⟨_, hvalue, _, hexpected, h⟩
    cases h
    exact ⟨hvalue, hexpected⟩
  · rintro ⟨hvalue, hexpected⟩
    exact ⟨s, hvalue, (), hexpected, rfl⟩

theorem requireNextTick_ok {expectedTick tick : Int64} (hvalue : Parsed value)
    (h : requireNextTick value expectedTick = .ok tick) :
    value = .int tick.toInt ∧ expectedTick ≤ tick := by
  obtain ⟨v, hv, rfl⟩ := hvalue
  cases v with
  | int n =>
    simp only [goValue, requireNextTick, bind_ok, require_ok] at h
    obtain ⟨_, hle, h⟩ := h
    cases h
    have hint : (Int64.ofInt n).toInt = n := Int64.toInt_ofInt_of_le hv.1 (by have := hv.2; omega)
    rw [goValue, Int64.le_iff_toInt_le, hint]
    exact ⟨rfl, hle⟩
  | _ => cases h

structure OutcomeBound (sha256 : GoString → Vector UInt8 32) (context : AuthorityContext)
    (outcomeValue hashValue : GoAny) (outcome : CanonicalPayload) (hash : GoString) : Prop where
  payload : PayloadOf sha256 maxOutcomeBytes outcome
  wire : outcomeValue = outcome.wire
  hashWire : hashValue = .text hash
  computed : computeOutcomeHash sha256 context.rulesetRevision context.contentRevision outcome =
    .ok hash

variable {context : AuthorityContext}

theorem verifyOutcome_ok {outcomeValue hashValue : GoAny}
    {found : Option (CanonicalPayload × GoString)} (hvalue : Parsed outcomeValue)
    (h : verifyOutcome sha256 context outcomeValue hashValue = .ok found) :
    (found = none ∧ outcomeValue = .nil ∧ hashValue = .nil) ∨ ∃ outcome hash,
      found = some (outcome, hash) ∧
        OutcomeBound sha256 context outcomeValue hashValue outcome hash := by
  rw [verifyOutcome.eq_def] at h
  split at h
  · split at h
    · exact .inl ⟨(Except.ok.inj h).symm, rfl, rfl⟩
    · cases h
  · simp only [bind_ok, payloadFromWire_ok hvalue, requireHex64Value_ok, require_ok] at h
    obtain ⟨outcome, ⟨hpayload, hwire⟩, supplied, ⟨hhash, _⟩, expected, hexpected, _, rfl, h⟩ := h
    exact .inr ⟨outcome, supplied, (Except.ok.inj h).symm, hpayload, hwire, hhash, hexpected⟩

structure ResultBound (sha256 : GoString → Vector UInt8 32) (prepared : Prepared)
    (result : List (GoString × GoAny)) (v : Verified) : Prop where
  requestHash : v.requestHash = prepared.requestHash ∧
    field result "request_hash" = .text prepared.requestHash
  transitionID : v.transitionID = prepared.transitionID ∧
    field result "transition_id" = .text prepared.transitionID
  previousStateHash : v.previousStateHash = some prepared.previousStateHash ∧
    field result "previous_state_hash" = .text prepared.previousStateHash
  rulesetRevision : field result "ruleset_revision" = .text prepared.context.rulesetRevision
  contentRevision : field result "content_revision" = .text prepared.context.contentRevision
  nextTick : ∃ tick, v.nextTick = some tick ∧ field result "next_tick" = .int tick.toInt ∧
    prepared.context.expectedTick ≤ tick
  nextState : ∃ state, v.nextState = some state ∧ field result "next_state" = state.wire ∧
    PayloadOf sha256 maxStateBytes state
  replayMaterial : ∃ replay, v.replayMaterial = some replay ∧
    field result "replay_material" = replay.wire ∧ PayloadOf sha256 maxReplayBytes replay
  outcomeMaterial :
    (v.outcomeMaterial = none ∧ v.worldOutcomeHash = none ∧
      field result "outcome_material" = .nil ∧ field result "world_outcome_hash" = .nil) ∨
    ∃ outcome hash, v.outcomeMaterial = some outcome ∧ v.worldOutcomeHash = some hash ∧
      OutcomeBound sha256 prepared.context (field result "outcome_material")
        (field result "world_outcome_hash") outcome hash
  transitionHash : ∃ facts, canonicalJSON (.object (acceptedFacts result)) false = .ok facts ∧
    v.worldTransitionHash = some (sha256Hex sha256 (hashMaterial transitionHashDomain facts)) ∧
    field result "world_transition_hash" =
      .text (sha256Hex sha256 (hashMaterial transitionHashDomain facts))

variable {fields : List (GoString × GoAny)}

theorem Parsed.field (h : Parsed (.object fields)) (name : String) :
    Parsed (field fields name) := by
  rw [WorldTransition.field]
  cases hlookup : fields.lookup (str name) with
  | none => exact ⟨.null, trivial, rfl⟩
  | some value =>
    obtain ⟨before, after, heq, _⟩ := List.lookup_eq_some_iff.mp hlookup
    exact h.fields.2 (str name, value) (by simp [heq])

variable {prepared : Prepared} {result : List (GoString × GoAny)}
  {canonical canonicalSHA : GoString} {v : Verified}

theorem verifyAccepted_ok (hparsed : Parsed (.object result))
    (h : verifyAccepted sha256 prepared result canonical canonicalSHA = .ok v) :
    ResultBound sha256 prepared result v ∧ result.map (·.1) = acceptedFields := by
  have hascending : Ascending acceptedFields := by decide
  simp only [verifyAccepted, verifyIdentity, bind_ok, require_ok, equalsText_iff, requireHash_ok,
    payloadFromWire_ok (hparsed.field _), requireHex64Value_ok,
    requireExactObject_ok hascending hparsed] at h
  obtain ⟨_, ⟨heq, hnames⟩, _, ⟨_, _, htransition⟩, _, ⟨hruleset, hcontent⟩, requestHash,
    ⟨⟨hrequest, _⟩, rfl⟩, previousStateHash, ⟨⟨hprevious, _⟩, rfl⟩, tick, htick, state,
    ⟨hstate, hstateWire⟩, replay, ⟨hreplay, hreplayWire⟩, outcome, houtcome, hash, ⟨hhash, _⟩,
    facts, hfacts, expected, hexpected, _, rfl, _, _, h⟩ := h
  obtain ⟨htickValue, hle⟩ := requireNextTick_ok (hparsed.field _) htick
  cases domainHash_ok hexpected
  cases heq
  cases h
  refine ⟨⟨⟨rfl, hrequest⟩, ⟨rfl, htransition⟩, ⟨rfl, hprevious⟩, hruleset, hcontent,
    ⟨tick, rfl, htickValue, hle⟩, ⟨state, rfl, hstateWire, hstate⟩,
    ⟨replay, rfl, hreplayWire, hreplay⟩, ?_, facts, hfacts, rfl, hhash⟩, hnames⟩
  rcases verifyOutcome_ok (hparsed.field _) houtcome with ⟨rfl, hnil, hnil'⟩ | ⟨p, s, rfl, hbound⟩
  · exact .inl ⟨rfl, rfl, hnil, hnil'⟩
  · exact .inr ⟨p, s, rfl, rfl, hbound⟩

theorem verifyRejected_ok
    (h : verifyRejected sha256 prepared result canonical canonicalSHA = .ok v) :
    v.disposition = .rejected := by
  simp only [verifyRejected, bind_ok] at h
  obtain ⟨_, _, _, _, _, _, _, _, _, _, _, _, _, _, h⟩ := h
  cases h
  rfl

theorem requireRoot_ok : requireRoot value = .ok result ↔ value = .object result := by
  cases value <;> simp [requireRoot]

variable {raw : GoString}

theorem verifyResult_accepted (h : verifyResult sha256 prepared raw = .ok v)
    (haccepted : v.disposition = .accepted) :
    ∃ result, parseCanonical raw true resultLimit = .ok (.object result) ∧
      ResultBound sha256 prepared result v ∧ result.map (·.1) = acceptedFields := by
  simp only [verifyResult, bind_ok, mapError_ok, requireRoot_ok] at h
  obtain ⟨_, hparse, result, rfl, canonical, _, h⟩ := h
  obtain ⟨hparsed, _⟩ := parsed_of_parse hparse
  split at h
  · exact ⟨result, hparse, verifyAccepted_ok hparsed h⟩
  · split at h
    · rw [verifyRejected_ok h] at haccepted
      cases haccepted
    · simp only [bind_ok] at h
      obtain ⟨_, _, h⟩ := h
      cases h

theorem accepted_split (h : result.map (·.1) = acceptedFields) : result = acceptedFacts result ++
      [(str "world_transition_hash", field result "world_transition_hash")] := by
  simp only [acceptedFields, List.map_eq_cons_iff, List.map_eq_nil_iff] at h
  obtain ⟨⟨_, a⟩, _, rfl, rfl, ⟨_, b⟩, _, rfl, rfl, ⟨_, c⟩, _, rfl, rfl, ⟨_, d⟩, _, rfl, rfl,
    ⟨_, e⟩, _, rfl, rfl, ⟨_, f⟩, _, rfl, rfl, ⟨_, g⟩, _, rfl, rfl, ⟨_, i⟩, _, rfl, rfl,
    ⟨_, j⟩, _, rfl, rfl, ⟨_, k⟩, _, rfl, rfl, ⟨_, l⟩, _, rfl, rfl, ⟨_, m⟩, _, rfl, rfl, rfl⟩ := h
  rfl

theorem Parsed.left {xs ys : List (GoString × GoAny)} (h : Parsed (.object (xs ++ ys))) :
    Parsed (.object xs) := by
  obtain ⟨v, hv, heq⟩ := h
  cases v with
  | object members =>
    have hmembers := GoAny.object.inj heq
    rw [goFields_eq] at hmembers
    obtain ⟨as, bs, rfl, rfl, _⟩ := List.append_eq_map_iff.mp hmembers
    have hless : List.Pairwise nameLess ((as ++ bs).map (·.1)) := hv.1
    have heach := fieldsCanonical_iff.mp hv.2
    rw [List.map_append] at hless
    refine ⟨.object as, ⟨(List.pairwise_append.mp hless).1, fieldsCanonical_iff.mpr
      fun field hfield => heach field (List.mem_append_left bs hfield)⟩, ?_⟩
    rw [goValue, goFields_eq]
  | _ => cases heq

theorem Parsed.inj {fields' : List (GoString × GoAny)} {b : GoString}
    (h : Parsed (.object fields)) (h' : Parsed (.object fields'))
    (hb : canonicalJSON (.object fields) false = .ok b)
    (hb' : canonicalJSON (.object fields') false = .ok b) : fields = fields' := by
  have hlimit : withinLimit (-1) b := fun h => absurd h.1 (by decide)
  have hparse := h.parse hb hlimit
  rw [h'.parse hb' hlimit] at hparse
  exact (GoAny.object.inj (Except.ok.inj hparse)).symm

theorem sha256Hex_inj {x y : GoString} (h : sha256Hex sha256 x = sha256Hex sha256 y) :
    sha256 x = sha256 y := by
  have hx := Contract.bytes_hexEncode (sha256 x)
  rw [sha256Hex, sha256Hex] at h
  rw [h, Contract.bytes_hexEncode] at hx
  exact (Except.ok.inj hx).symm

variable {depth : Nat}

theorem field_encodes {name : String} (h : ∃ b, appendCanonical depth (.object fields) = .ok b)
    (hmem : (str name, value) ∈ fields) : ∃ b, appendCanonical (depth + 1) value = .ok b :=
  (object_encodes.mp h).2.2 _ hmem

theorem text_encodes (h : depth ≤ maxCanonicalDepth) (s : GoString) :
    ∃ b, appendCanonical depth (.text s) = .ok b :=
  ⟨_, bind_ok.mpr ⟨(), require_ok.mpr h, rfl⟩⟩

theorem wire_encodes {p : CanonicalPayload} (hdepth : depth + 1 ≤ maxCanonicalDepth)
    (h : ∃ b, appendCanonical (depth + 1) p.value = .ok b) :
    ∃ b, appendCanonical depth p.wire = .ok b := by
  have hnames : payloadFields.all validString = true := by decide
  refine object_encodes.mpr ⟨by omega, hnames, ?_⟩
  simp only [List.forall_mem_cons]
  exact ⟨h, text_encodes hdepth _, text_encodes hdepth _, List.forall_mem_nil _⟩

variable {p : Prepared}

theorem prepare_over {state : CanonicalPayload} (hresult : ResultBound sha256 prepared result v)
    (hnames : result.map (·.1) = acceptedFields)
    (hraw : canonicalJSON (.object result) true = .ok raw) (hstate : v.nextState = some state)
    {previousSchemaID commandSchemaID : GoString} {previous command : GoAny}
    (h : prepare sha256 context previousSchemaID previous commandSchemaID command = .ok p) :
    ∃ p', prepare sha256 context state.schemaID state.value commandSchemaID command = .ok p' := by
  obtain ⟨rfl, previousPayload, commandPayload, hp, _, hcommand⟩ := prepare_ok.mp h
  obtain ⟨state', hstate', hwire, hpayload⟩ := hresult.nextState
  obtain rfl : state' = state := Option.mem_unique hstate' hstate
  have hencodes : ∃ b, appendCanonical 2 state'.value = .ok b := by
    have hmem : (str "next_state", state'.wire) ∈ result := by
      rw [accepted_split hnames, ← hwire]
      simp [acceptedFacts]
    simp only [canonicalJSON, bind_ok] at hraw
    obtain ⟨_, _, hraw⟩ := hraw
    exact field_encodes (field_encodes ⟨raw, hraw⟩ hmem) List.mem_cons_self
  have hcanonical := hp.canonical
  simp only [canonicalJSON, bind_ok, hp.request, requestObject] at hcanonical
  obtain ⟨_, _, hrequest⟩ := hcanonical
  obtain ⟨hdepth, hvalid, heach⟩ := object_encodes.mp ⟨_, hrequest⟩
  have hnext : ∃ b, appendCanonical 0
      (requestObject p.context p.transitionID p.commandID state' commandPayload) = .ok b := by
    refine object_encodes.mpr ⟨hdepth, hvalid, ?_⟩
    simp only [List.forall_mem_cons] at heach ⊢
    obtain ⟨h₁, h₂, h₃, h₄, _, h₆⟩ := heach
    exact ⟨h₁, h₂, h₃, h₄, wire_encodes (by decide) hencodes, h₆⟩
  obtain ⟨canonical, hnext⟩ := hnext
  have hdomain := hp.requestHash
  simp only [domainHash, bind_ok] at hdomain
  obtain ⟨_, hfirst, _, hsecond, _⟩ := hdomain
  refine ⟨{ p with
    request := requestObject p.context p.transitionID p.commandID state' commandPayload
    canonicalRequest := canonical
    requestHash := sha256Hex sha256 (hashMaterial requestHashDomain canonical)
    previousStateHash := state'.sha256 }, prepare_ok.mpr ⟨rfl, state', commandPayload, ?_,
      ⟨rfl, rfl⟩, hcommand⟩⟩
  exact ⟨hp.valid, hp.ids, hpayload, hp.command, rfl, hnext,
    bind_ok.mpr ⟨_, hfirst, bind_ok.mpr ⟨_, hsecond, rfl⟩⟩, rfl⟩

def transitionFacts (raw : GoString) : Except String GoString := do
  let value ← parseCanonical raw true resultLimit
  let result ← requireRoot value
  canonicalJSON (.object (acceptedFacts result)) false

theorem accepted_same {prepared' : Prepared} {raw' : GoString} {v' : Verified}
    (h : verifyResult sha256 prepared raw = .ok v) (haccepted : v.disposition = .accepted)
    (h' : verifyResult sha256 prepared' raw' = .ok v') (haccepted' : v'.disposition = .accepted)
    (hhash : v.worldTransitionHash = v'.worldTransitionHash) : ∃ facts facts',
      transitionFacts raw = .ok facts ∧ transitionFacts raw' = .ok facts' ∧
        sha256 (hashMaterial transitionHashDomain facts) =
          sha256 (hashMaterial transitionHashDomain facts') ∧ (facts = facts' → raw = raw') := by
  obtain ⟨result, hparse, hresult, hnames⟩ := verifyResult_accepted h haccepted
  obtain ⟨result', hparse', hresult', hnames'⟩ := verifyResult_accepted h' haccepted'
  obtain ⟨facts, hfacts, hv, hfield⟩ := hresult.transitionHash
  obtain ⟨facts', hfacts', hv', hfield'⟩ := hresult'.transitionHash
  have hhex := Option.mem_unique hv (hhash.trans hv')
  refine ⟨facts, facts', ?_, ?_, sha256Hex_inj hhex, ?_⟩
  · exact bind_ok.mpr ⟨_, hparse, bind_ok.mpr ⟨result, rfl, hfacts⟩⟩
  · exact bind_ok.mpr ⟨_, hparse', bind_ok.mpr ⟨result', rfl, hfacts'⟩⟩
  · rintro rfl
    obtain ⟨hparsed, hraw, _⟩ := parsed_of_parse hparse
    obtain ⟨hparsed', hraw', _⟩ := parsed_of_parse hparse'
    have hsplit := accepted_split hnames
    have hsplit' := accepted_split hnames'
    rw [hsplit] at hparsed
    rw [hsplit'] at hparsed'
    have hsame : result = result' := by
      rw [hsplit, hsplit', hparsed.left.inj hparsed'.left hfacts hfacts', hfield, hfield']
    rw [hsame] at hraw
    exact Except.ok.inj (hraw.symm.trans hraw')

def Made (sha256 : GoString → Vector UInt8 32) (p : Prepared) : Prop :=
  (∃ context stateSchemaID state commandSchemaID command,
    prepare sha256 context stateSchemaID state commandSchemaID command = .ok p) ∨
  ∃ context raw, preparedFromCanonicalRequest sha256 context raw = .ok p

-- What a prepared request records is what its canonical bytes say.
structure RequestBound (sha256 : GoString → Vector UInt8 32) (p : Prepared) : Prop where
  canonical : canonicalJSON p.request true = .ok p.canonicalRequest
  requestHash : p.requestHash = sha256Hex sha256 (hashMaterial requestHashDomain p.canonicalRequest)
  transitionID : p.request.member "transition_id" = .text p.transitionID
  previousStateHash :
    (p.request.member "previous_state").member "sha256" = .text p.previousStateHash
  rulesetRevision : p.request.member "ruleset_revision" = .text p.context.rulesetRevision
  contentRevision : p.request.member "content_revision" = .text p.context.contentRevision
  expectedTick : p.request.member "expected_tick" = .int p.context.expectedTick.toInt

theorem Made.bound (h : Made sha256 p) : RequestBound sha256 p := by
  have hof : ∃ state command, PreparedOf sha256 state command p := by
    rcases h with ⟨_, _, _, _, _, h⟩ | ⟨_, _, h⟩
    · obtain ⟨_, state, command, hof, _⟩ := prepare_ok.mp h
      exact ⟨state, command, hof⟩
    · exact (restore_ok.mp h).2.2.2
  obtain ⟨state, command, hof⟩ := hof
  refine ⟨hof.canonical, domainHash_ok hof.requestHash, ?_, ?_, ?_, ?_, ?_⟩
  · rw [hof.request]
    rfl
  · rw [hof.request, hof.previousState]
    rfl
  · rw [hof.request]
    rfl
  · rw [hof.request]
    rfl
  · rw [hof.request]
    rfl

theorem accepted_results_bound (sha256 : GoString → Vector UInt8 32) (prepared : Prepared)
    (hmade : Made sha256 prepared) (raw : GoString) (v : Verified)
    (h : verifyResult sha256 prepared raw = .ok v) (haccepted : v.disposition = .accepted) :
    RequestBound sha256 prepared ∧
    (∃ result, parseCanonical raw true resultLimit = .ok (.object result) ∧
      ResultBound sha256 prepared result v) ∧
    (∀ prepared' raw' v', verifyResult sha256 prepared' raw' = .ok v' →
      v'.disposition = .accepted → v.worldTransitionHash = v'.worldTransitionHash →
      ∃ facts facts', transitionFacts raw = .ok facts ∧ transitionFacts raw' = .ok facts' ∧
        sha256 (hashMaterial transitionHashDomain facts) =
          sha256 (hashMaterial transitionHashDomain facts') ∧ (facts = facts' → raw = raw')) ∧
    ∃ state, v.nextState = some state ∧
      ∀ context previousSchemaID previous commandSchemaID command p,
        prepare sha256 context previousSchemaID previous commandSchemaID command = .ok p →
        ∃ p', prepare sha256 context state.schemaID state.value commandSchemaID command =
          .ok p' := by
  obtain ⟨result, hparse, hresult, hnames⟩ := verifyResult_accepted h haccepted
  obtain ⟨_, hraw, _⟩ := parsed_of_parse hparse
  obtain ⟨state, hstate, _⟩ := hresult.nextState
  refine ⟨hmade.bound, ⟨result, hparse, hresult⟩, ?_, state, hstate, ?_⟩
  · exact fun prepared' raw' v' h' haccepted' => accepted_same h haccepted h' haccepted'
  · intro context previousSchemaID previous commandSchemaID command p hp
    exact prepare_over hresult hnames hraw hstate hp

def hexText (n : Nat) : GoAny := .text (hexEncode (DigestTable.digest n))

def acceptedResult : List (GoString × GoAny) :=
  [(str "content_revision", .text (str "c")),
    (str "contract_version", .text contractVersion),
    (str "next_state", .object
      [(str "canonical_json", .object [(str "a", .int 2)]), (str "schema_id", .text (str "state")),
        (str "sha256", hexText
          0x7e8059f495589fcd981232cc11d00b00da3802c01d688fa1cf1f6bed6e5bb33c)]),
    (str "next_tick", .int 4), (str "outcome_material", .nil),
    (str "previous_state_hash", hexText
      0x0023bec812146de3fca196d91bebd78288fd33697d6619b89831272b4a8f0ae0),
    (str "replay_material", .object
      [(str "canonical_json", .object []), (str "schema_id", .text (str "replay")),
        (str "sha256", hexText
          0x44136fa355b3678a1146ad16f7e8649e94fb4fc21fe77e8310c060f61caaff8a)]),
    (str "request_hash", hexText
      0xa730e8ba4b8b34f22d8bfb823ad55c3a282635ce3ac2691c85d229ef66fc63fd),
    (str "ruleset_revision", .text (str "r")),
    (str "transition_id", .text (str "wtx-53068ce0f78ba1e8ed907980b4f0e8ee51d50536c1d9ccf9")),
    (str "world_outcome_hash", .nil),
    (str "world_transition_hash", hexText
      0x2887774b789212877840af6ad1fd1b6cd251a77bd351e382da754a3d3043f4a6)]

def acceptedSample : GoString := (canonicalJSON (.object acceptedResult) true).toOption.getD []

theorem acceptedSample_encodes :
    canonicalJSON (.object acceptedResult) true = .ok acceptedSample := by
  decide +kernel

theorem accepted_results_bound_sample : ∃ p v state p',
    prepare Sha256.digest restartContext (str "state") restartState (str "command") (.object []) =
      .ok p ∧
    verifyResult Sha256.digest p acceptedSample = .ok v ∧ v.nextState = some state ∧
    prepare Sha256.digest restartContext state.schemaID state.value (str "command") (.object []) =
      .ok p' := by
  have hlimit : withinLimit resultLimit acceptedSample := by
    unfold withinLimit
    decide +kernel
  have hparse := parseCanonical_of_canonicalJSON (by decide +kernel) acceptedSample_encodes hlimit
  have hrun : (do
      let p ← prepare Sha256.digest restartContext (str "state") restartState (str "command")
        (.object [])
      let v ← verifyResult Sha256.digest p acceptedSample
      require (v.disposition = Disposition.accepted) "rejected").isOk = true := by
    simp only [verifyResult, hparse]
    decide +kernel
  obtain ⟨_, hok⟩ := ok_of_isOk hrun
  simp only [bind_ok, require_ok] at hok
  obtain ⟨p, hp, v, hv, haccepted⟩ := hok
  obtain ⟨_, _, _, state, hstate, hnext⟩ := accepted_results_bound Sha256.digest p
    (.inl ⟨_, _, _, _, _, hp⟩) acceptedSample v hv haccepted
  obtain ⟨p', hp'⟩ := hnext _ _ _ _ _ p hp
  exact ⟨p, v, state, p', hp, hv, hstate, hp'⟩

end WorldTransition
