import Mathlib.Algebra.Order.BigOperators.Group.List
import Mathlib.Algebra.Order.Group.Nat
import TrillionniumGame.Foundation.Sha256
import TrillionniumGame.Foundation.TextSizes
import TrillionniumGame.Runtime.WorldTransition.RoundTrip

namespace WorldTransition
open Checks GoJson GoText JsonText

def commandFields : List GoString := [str "command_id", str "payload"]

def payloadFields : List GoString := [str "canonical_json", str "schema_id", str "sha256"]

def field (object : List (GoString × GoAny)) (name : String) : GoAny :=
  (object.lookup (str name)).getD .nil

def GoAny.equalsText (s : GoString) : GoAny → Bool
  | .text value => value = s
  | _ => false

def GoAny.equalsInt (n : Int) : GoAny → Bool
  | .int value => value = n
  | _ => false

def requireText (value : GoAny) (text : String) : Except String GoString :=
  match value with
  | .text s => .ok s
  | _ => .error (errContract text)

def requireHex64Value (value : GoAny) (label : String) : Except String GoString :=
  match value with
  | .text s => do
    require (hex64Pattern s = true) (errContract (label ++ " must be lowercase 64-hex"))
    return s
  | _ => .error (errContract (label ++ " must be lowercase 64-hex"))

section
variable (sha256 : GoString → Vector UInt8 32)

def payloadFromWire (value : GoAny) (maximumBytes : Nat) (label : String) :
    Except String CanonicalPayload := do
  let object ← requireExactObject value payloadFields label
  let schemaID ← requireText (field object "schema_id") (label ++ ".schema_id must be a string")
  requireIdentifier schemaID (label ++ ".schema_id")
  let payload ← newCanonicalPayload sha256 (field object "canonical_json") schemaID maximumBytes
    label
  let supplied ← requireHex64Value (field object "sha256") (label ++ ".sha256")
  require (supplied = payload.sha256) (errContract (label ++ " payload hash mismatch"))
  return { payload with sha256 := supplied }

def preparedFromCanonicalRequest (context : AuthorityContext) (raw : GoString) :
    Except String Prepared := do
  context.validate
  let value ← (parseCanonical raw true (maxStateBytes + maxCommandBytes + 4096)).mapError
    fun e => errContract ("request: " ++ e)
  let request ← requireExactObject value requestFields "World request"
  require ((field request "contract_version").equalsText contractVersion = true)
    (errContract "contract version mismatch")
  require ((field request "ruleset_revision").equalsText context.rulesetRevision = true ∧
    (field request "content_revision").equalsText context.contentRevision = true)
    (errContract "request revision mismatch")
  require ((field request "expected_tick").equalsInt context.expectedTick.toInt = true)
    (errContract "request expected_tick mismatch")
  let binding ← context.binding
  let expectedTransitionID ← opaqueIdentifier sha256 (str "wtx-") transitionIDDomain binding
  let expectedCommandID ← opaqueIdentifier sha256 (str "wcmd-") commandIDDomain binding
  require ((field request "transition_id").equalsText expectedTransitionID = true)
    (errContract "transition_id is not bound to context")
  let commandObject ← requireExactObject (field request "command") commandFields "World command"
  require ((field commandObject "command_id").equalsText expectedCommandID = true)
    (errContract "command_id is not bound to context")
  let previousState ← payloadFromWire sha256 (field request "previous_state") maxStateBytes
    "previous_state"
  let _ ← payloadFromWire sha256 (field commandObject "payload") maxCommandBytes "command.payload"
  let canonical ← canonicalJSON (.object request) true
  let requestHash ← domainHash sha256 requestHashDomain canonical
  return ⟨context, .object request, canonical, requestHash, expectedTransitionID,
    expectedCommandID, previousState.sha256⟩

end

def Parsed (g : GoAny) : Prop := ∃ v, Canonical v ∧ g = goValue v

def Ascending (names : List GoString) : Prop :=
  names.Pairwise fun a b => bytesLess a b = true

instance (names : List GoString) : Decidable (Ascending names) :=
  inferInstanceAs (Decidable (List.Pairwise _ _))

theorem ascending_eq {xs ys : List GoString} (hxs : Ascending xs) (hys : Ascending ys)
    (h : ∀ name, name ∈ xs ↔ name ∈ ys) : xs = ys := by
  have hnodup : ∀ {names : List GoString}, Ascending names → names.Nodup := fun hnames =>
    hnames.imp fun hless heq => by
      rw [heq, bytesLess_irrefl] at hless
      cases hless
  refine List.Perm.eq_of_pairwise ?_ hxs hys
    ((List.perm_ext_iff_of_nodup (hnodup hxs) (hnodup hys)).mpr h)
  intro a b _ _ hab hba
  rw [bytesLess_asymm hab] at hba
  cases hba

theorem Parsed.fields {fields : List (GoString × GoAny)} (h : Parsed (.object fields)) :
    Ascending (fields.map (·.1)) ∧ ∀ field ∈ fields, Parsed field.2 := by
  obtain ⟨v, hv, heq⟩ := h
  cases v with
  | object members =>
    cases GoAny.object.inj heq
    obtain ⟨hless, hmembers⟩ := hv
    rw [goFields_eq]
    refine ⟨?_, ?_⟩
    · rw [List.map_map, Ascending, List.pairwise_map]
      exact List.pairwise_map.mp hless
    · intro field hfield
      obtain ⟨member, hmember, rfl⟩ := List.mem_map.mp hfield
      exact ⟨member.2, fieldsCanonical_iff.mp hmembers member hmember, rfl⟩
  | _ => cases heq

variable {value : GoAny} {label : String}

theorem requireExactObject_ok {expected : List GoString} {fields : List (GoString × GoAny)}
    (hexpected : Ascending expected) (hvalue : Parsed value) :
    requireExactObject value expected label = .ok fields ↔
      value = .object fields ∧ fields.map (·.1) = expected := by
  cases value with
  | object members =>
    simp only [requireExactObject, bind_ok, require_ok, GoAny.object.injEq]
    constructor
    · rintro ⟨_, hpresent, _, hallowed, h⟩
      cases h
      refine ⟨rfl, ascending_eq hvalue.fields.1 hexpected fun name => ⟨?_, hpresent name⟩⟩
      intro hname
      obtain ⟨member, hmember, rfl⟩ := List.mem_map.mp hname
      exact hallowed member hmember
    · rintro ⟨rfl, rfl⟩
      exact ⟨(), fun _ => id, (), fun _ h => List.mem_map_of_mem h, rfl⟩
  | _ =>
    refine iff_of_false (fun h => ?_) fun h => ?_
    · cases h
    · cases h.1

variable {s : GoString}

theorem requireText_ok {text : String} : requireText value text = .ok s ↔ value = .text s := by
  cases value <;> simp [requireText]

theorem requireHex64Value_ok :
    requireHex64Value value label = .ok s ↔ value = .text s ∧ hex64Pattern s = true := by
  cases value with
  | text value =>
    simp only [requireHex64Value, bind_ok, require_ok, GoAny.text.injEq]
    constructor
    · rintro ⟨_, hhex, h⟩
      cases h
      exact ⟨rfl, hhex⟩
    · rintro ⟨rfl, hhex⟩
      exact ⟨(), hhex, rfl⟩
  | _ =>
    refine iff_of_false (fun h => ?_) fun h => ?_
    · cases h
    · cases h.1

theorem equalsText_iff : value.equalsText s = true ↔ value = .text s := by
  cases value <;> simp [GoAny.equalsText]

theorem equalsInt_iff {n : Int} : value.equalsInt n = true ↔ value = .int n := by
  cases value <;> simp [GoAny.equalsInt]

variable {sha256 : GoString → Vector UInt8 32}

theorem sha256Hex_pattern (payload : GoString) :
    hex64Pattern (sha256Hex sha256 payload) = true := by
  have hall : ∀ n < 16, hexDigit n ∈ str "0123456789abcdef" := by decide
  have hdigits : ∀ b ∈ sha256Hex sha256 payload, b ∈ str "0123456789abcdef" := by
    intro b hb
    obtain ⟨byte, _, hmem⟩ := List.mem_flatMap.mp hb
    have hbyte := byte.toNat_lt
    rcases List.mem_pair.mp hmem with rfl | rfl
    · exact hall _ (by omega)
    · exact hall _ (by omega)
  have hlength : (sha256Hex sha256 payload).length = 64 := by
    rw [sha256Hex, hexEncode, List.length_flatMap]
    simp [hexByte]
  rw [hex64Pattern, Bool.and_eq_true, List.all_eq_true]
  exact ⟨fun b hb => decide_eq_true (hdigits b hb), decide_eq_true hlength⟩

variable {maximumBytes : Nat} {p : CanonicalPayload}

theorem payloadFromWire_ok (hvalue : Parsed value) :
    payloadFromWire sha256 value maximumBytes label = .ok p ↔
      PayloadOf sha256 maximumBytes p ∧ value = p.wire := by
  have hascending : Ascending payloadFields := by decide
  simp only [payloadFromWire, bind_ok, requireExactObject_ok hascending hvalue, requireText_ok,
    identifier_ok, newCanonicalPayload_ok, requireHex64Value_ok, require_ok]
  constructor
  · rintro ⟨fields, ⟨rfl, hnames⟩, schemaID, hschema, _, hidentifier, payload,
      ⟨hpayload, hpvalue, hpschema⟩, supplied, ⟨hsupplied, hhex⟩, _, heq, h⟩
    simp only [payloadFields, List.map_eq_cons_iff, List.map_eq_nil_iff] at hnames
    obtain ⟨⟨_, a⟩, _, rfl, rfl, ⟨_, b⟩, _, rfl, rfl, ⟨_, c⟩, _, rfl, rfl, rfl⟩ := hnames
    cases heq
    cases h
    refine ⟨hpayload, ?_⟩
    change b = .text schemaID at hschema
    change c = .text payload.sha256 at hsupplied
    rw [CanonicalPayload.wire, hpvalue, hpschema, hschema, hsupplied]
    rfl
  · rintro ⟨h, rfl⟩
    have hhex : hex64Pattern p.sha256 = true := by
      rw [h.hash]
      exact sha256Hex_pattern _
    exact ⟨_, ⟨rfl, rfl⟩, p.schemaID, rfl, (), h.identifier, p, ⟨h, rfl, rfl⟩, p.sha256,
      ⟨rfl, hhex⟩, (), rfl, rfl⟩

variable {raw : GoString}

theorem Parsed.parse {fields : List (GoString × GoAny)} {maximumBytes : Int}
    (h : Parsed (.object fields)) (hraw : canonicalJSON (.object fields) true = .ok raw)
    (hlimit : withinLimit maximumBytes raw) :
    parseCanonical raw true maximumBytes = .ok (.object fields) := by
  obtain ⟨v, hv, heq⟩ := h
  have hcontainer : v.container = true := by rw [← goValue_container, ← heq, GoAny.container]
  rw [heq, canonicalJSON_goValue hv hcontainer] at hraw
  exact parseCanonical_ok.mpr ⟨hlimit, v, textOf_of_rendered hv hcontainer hraw, heq⟩

theorem parsed_of_parse {maximumBytes : Int} {g : GoAny}
    (h : parseCanonical raw true maximumBytes = .ok g) :
    Parsed g ∧ canonicalJSON g true = .ok raw ∧ withinLimit maximumBytes raw := by
  obtain ⟨hlimit, v, hv, rfl⟩ := parseCanonical_ok.mp h
  have hfits : 0 + v.height ≤ maxCanonicalDepth := by
    have hheight := hv.height
    omega
  refine ⟨⟨v, hv.canonical, rfl⟩, ?_, hlimit⟩
  rw [canonicalJSON_goValue hv.canonical hv.container, rendered, if_pos hfits, hv.bytes]

theorem restore_ok {context : AuthorityContext} {p : Prepared} :
    preparedFromCanonicalRequest sha256 context raw = .ok p ↔
      (p.context = context ∧ p.canonicalRequest = raw) ∧
        withinLimit (maxStateBytes + maxCommandBytes + 4096) raw ∧
        Parsed p.request ∧ ∃ state command, PreparedOf sha256 state command p := by
  have hrequest : Ascending requestFields := by decide
  have hcommand : Ascending commandFields := by decide
  simp only [preparedFromCanonicalRequest, bind_ok, mapError_ok, require_ok, equalsText_iff,
    equalsInt_iff]
  constructor
  · rintro ⟨_, hvalid, value, hparse, request, hexact, _, hversion, _, ⟨hruleset, hcontent⟩, _,
      htick, binding, hbinding, transitionID, htransition, commandID, hid, _, hfield, object,
      hobject, _, hfield', state, hstate, command, hpayload, canonical, hcanonical, requestHash,
      hhash, h⟩
    obtain ⟨hparsed, hraw, hlimit⟩ := parsed_of_parse hparse
    obtain ⟨rfl, hnames⟩ := (requireExactObject_ok hrequest hparsed).mp hexact
    obtain rfl : raw = canonical := Except.ok.inj (hraw.symm.trans hcanonical)
    cases h
    simp only [requestFields, List.map_eq_cons_iff, List.map_eq_nil_iff] at hnames
    obtain ⟨⟨_, a⟩, _, rfl, rfl, ⟨_, b⟩, _, rfl, rfl, ⟨_, c⟩, _, rfl, rfl, ⟨_, d⟩, _, rfl, rfl,
      ⟨_, e⟩, _, rfl, rfl, ⟨_, f⟩, _, rfl, rfl, ⟨_, g⟩, _, rfl, rfl, rfl⟩ := hnames
    have heach := hparsed.fields.2
    simp only [List.forall_mem_cons] at heach
    obtain ⟨ha, _, _, _, he, _⟩ := heach
    change requireExactObject a commandFields _ = _ at hobject
    obtain ⟨rfl, hnames'⟩ := (requireExactObject_ok hcommand ha).mp hobject
    simp only [commandFields, List.map_eq_cons_iff, List.map_eq_nil_iff] at hnames'
    obtain ⟨⟨_, x⟩, _, rfl, rfl, ⟨_, y⟩, _, rfl, rfl, rfl⟩ := hnames'
    have hinner := ha.fields.2
    simp only [List.forall_mem_cons] at hinner
    obtain ⟨hsound, rfl⟩ := (payloadFromWire_ok he).mp hstate
    obtain ⟨hsound', rfl⟩ := (payloadFromWire_ok hinner.2.1).mp hpayload
    refine ⟨⟨rfl, rfl⟩, hlimit, hparsed, state, command, hvalid,
      ⟨binding, hbinding, htransition, hid⟩, hsound, hsound', ?_, hcanonical, hhash, rfl⟩
    change b = _ at hcontent
    change c = _ at hversion
    change d = _ at htick
    change f = _ at hruleset
    change g = _ at hfield
    change x = _ at hfield'
    rw [hcontent, hversion, htick, hruleset, hfield, hfield']
    rfl
  · rintro ⟨⟨rfl, rfl⟩, hlimit, hparsed, state, command, h⟩
    obtain ⟨binding, hbinding, htransition, hid⟩ := h.ids
    have hcanonical := h.canonical
    rw [h.request] at hparsed hcanonical
    have heach := hparsed.fields.2
    simp only [List.forall_mem_cons] at heach
    obtain ⟨ha, _, _, _, he, _⟩ := heach
    have hinner := ha.fields.2
    simp only [List.forall_mem_cons] at hinner
    refine ⟨(), h.valid, _, hparsed.parse hcanonical hlimit, _,
      (requireExactObject_ok hrequest hparsed).mpr ⟨rfl, rfl⟩, (), rfl, (), ⟨rfl, rfl⟩, (), rfl,
      binding, hbinding, p.transitionID, htransition, p.commandID, hid, (), rfl, _,
      (requireExactObject_ok hcommand ha).mpr ⟨rfl, rfl⟩, (), rfl, state,
      (payloadFromWire_ok he).mpr ⟨h.state, rfl⟩, command,
      (payloadFromWire_ok hinner.2.1).mpr ⟨h.command, rfl⟩, p.canonicalRequest, hcanonical,
      p.requestHash, h.requestHash, ?_⟩
    have hrequest := h.request
    rw [requestObject] at hrequest
    rw [← h.previousState, ← hrequest]
    rfl

def Portable (s : GoString) : Prop := ∀ b ∈ s, identifierByte b = true

instance (s : GoString) : Decidable (Portable s) :=
  inferInstanceAs (Decidable (∀ b ∈ s, identifierByte b = true))

theorem identifierByte_plain : ∀ {b : UInt8}, identifierByte b = true →
    b.toNat < 0x80 ∧ escapeCanonical (Char.ofNat b.toNat) = [Char.ofNat b.toNat] :=
  @(forall_byte (by decide +kernel))

theorem Portable.ascii (h : Portable s) : ∀ b ∈ s, b.toNat < 0x80 := fun b hb =>
  (identifierByte_plain (h b hb)).1

theorem Portable.normal (h : Portable s) : (GoAny.text s).normal = .text s :=
  congrArg GoAny.text (ofRunes_runes (validString_ascii h.ascii))

theorem Portable.quoted (h : Portable s) : (appendJSONString s).length = s.length + 2 := by
  have hrunes : runes s = s.map fun b => Char.ofNat b.toNat := by
    conv_lhs => rw [← ofRunes_ascii h.ascii]
    exact runes_ofRunes _
  have hescape : (runes s).flatMap escapeCanonical = runes s := by
    rw [hrunes, List.flatMap_map, List.map_eq_flatMap]
    exact List.flatMap_congr fun b hb => (identifierByte_plain (h b hb)).2
  rw [appendJSONString, hescape, ofRunes_append, ← List.singleton_append, ofRunes_append, hrunes,
    ofRunes_ascii h.ascii, List.length_append, List.length_append]
  have hquote : (ofRunes ['"']).length = 1 := by decide
  omega

theorem portable_identifier (h : identifierPattern s = true) : Portable s ∧ s.length ≤ 160 := by
  simp only [identifierPattern, Bool.and_eq_true, List.all_eq_true, decide_eq_true_eq] at h
  exact ⟨h.1.1, h.2⟩

theorem portable_hex64 (h : hex64Pattern s = true) : Portable s ∧ s.length = 64 := by
  have hall : ∀ b ∈ str "0123456789abcdef", identifierByte b = true := by decide
  simp only [hex64Pattern, Bool.and_eq_true, List.all_eq_true, decide_eq_true_eq] at h
  exact ⟨fun b hb => hall b (h.1 b hb), h.2⟩

theorem portable_hash (payload : GoString) :
    Portable (sha256Hex sha256 payload) ∧ (sha256Hex sha256 payload).length = 64 :=
  portable_hex64 (sha256Hex_pattern payload)

theorem portable_opaque {head domain binding id : GoString}
    (h : opaqueIdentifier sha256 head domain binding = .ok id) (hhead : Portable head)
    (hlength : head.length ≤ 5) : Portable id ∧ id.length ≤ 160 := by
  have hhash : Portable (sha256Hex sha256 (hashMaterial domain binding)) := (portable_hash _).1
  rw [opaqueIdentifier_ok h]
  refine ⟨fun b hb => ?_, ?_⟩
  · rcases List.mem_append.mp hb with hb | hb
    · exact hhead b hb
    · exact hhash b (List.mem_of_mem_take hb)
  · rw [List.length_append, List.length_take]
    omega

def requestTexts (p : Prepared) (state command : CanonicalPayload) : List GoString :=
  [p.context.contentRevision, p.context.rulesetRevision, p.transitionID, p.commandID,
    state.schemaID, state.sha256, command.schemaID, command.sha256]

theorem PreparedOf.texts {p : Prepared} {state command : CanonicalPayload}
    (h : PreparedOf sha256 state command p) :
    ∀ s ∈ requestTexts p state command, Portable s ∧ s.length ≤ 160 := by
  obtain ⟨binding, _, htransition, hid⟩ := h.ids
  obtain ⟨⟨_, _, _, hruleset, hcontent, _⟩, _⟩ := validate_ok.mp h.valid
  have hash : ∀ q : GoString, Portable (sha256Hex sha256 q) ∧ (sha256Hex sha256 q).length ≤ 160 :=
    fun q => ⟨(portable_hash q).1, (portable_hash q).2.trans_le (by decide)⟩
  simp only [requestTexts, List.forall_mem_cons, h.state.hash, h.command.hash]
  exact ⟨portable_identifier hcontent, portable_identifier hruleset,
    portable_opaque htransition (by decide) (by decide),
    portable_opaque hid (by decide) (by decide),
    portable_identifier h.state.identifier, hash _, portable_identifier h.command.identifier,
    hash _, List.forall_mem_nil _⟩

def CanonicalPayload.normal (p : CanonicalPayload) : CanonicalPayload :=
  { p with value := p.value.normal }

theorem normal_object {fields : List (GoString × GoAny)} (h : Ascending (fields.map (·.1))) :
    (GoAny.object fields).normal = .object (normalFields fields) := by
  refine congrArg GoAny.object (ascending_sorted ?_)
  rw [normalFields_eq, List.map_map]
  exact h

theorem normal_wire (hschema : Portable p.schemaID) (hsha : Portable p.sha256) :
    p.wire.normal = p.normal.wire := by
  have hnames : Ascending payloadFields := by decide
  have hfields : p.wire.normal = .object (normalFields _) := normal_object hnames
  rw [hfields]
  simp only [normalFields, hschema.normal, hsha.normal]
  rfl

theorem PreparedOf.normal_request {p : Prepared} {state command : CanonicalPayload}
    (h : PreparedOf sha256 state command p) : p.request.normal =
      requestObject p.context p.transitionID p.commandID state.normal command.normal := by
  have hnames : Ascending requestFields := by decide
  have hinner : Ascending commandFields := by decide
  have hversion : Portable contractVersion := by decide
  have htexts := h.texts
  simp only [requestTexts, List.forall_mem_cons] at htexts
  obtain ⟨hcontent, hruleset, htransition, hid, hs, hs', hc, hc', _⟩ := htexts
  have hcommand : (GoAny.object [(str "command_id", .text p.commandID),
      (str "payload", command.wire)]).normal = .object (normalFields _) := normal_object hinner
  have hfields : (requestObject p.context p.transitionID p.commandID state command).normal =
      .object (normalFields _) := normal_object hnames
  rw [h.request, hfields]
  simp only [normalFields, hcommand, hcontent.1.normal, hruleset.1.normal, htransition.1.normal,
    hid.1.normal, hversion.normal, normal_wire hs.1 hs'.1, normal_wire hc.1 hc'.1]
  rfl

theorem authorityFree_normal (v : GoAny) : authorityFree v.normal = authorityFree v := by
  have hitems : ∀ items, itemsAuthorityFree items = items.all authorityFree := by
    intro items
    induction items with
    | nil => rfl
    | cons item rest ih => rw [itemsAuthorityFree, ih, List.all_cons]
  have hfields : ∀ fields, fieldsAuthorityFree fields = fields.all fun field =>
      field.1 ∉ forbiddenAuthorityKeys && authorityFree field.2 := by
    intro fields
    induction fields with
    | nil => rfl
    | cons field rest ih => rw [fieldsAuthorityFree, ih, List.all_cons]
  induction v using GoAny.children with
  | leaf v hv =>
    cases v with
    | array | object => cases hv
    | _ => rfl
  | array items ih =>
    rw [GoAny.normal, authorityFree, authorityFree, hitems, hitems, normalItems_eq, List.all_map]
    rw [Bool.eq_iff_iff, List.all_eq_true, List.all_eq_true]
    refine forall₂_congr fun item hitem => ?_
    rw [Function.comp_apply, ih item hitem]
  | object fields ih =>
    rw [GoAny.normal, authorityFree, authorityFree, hfields, hfields, (sortFields_perm _).all_eq,
      normalFields_eq, List.all_map]
    rw [Bool.eq_iff_iff, List.all_eq_true, List.all_eq_true]
    refine forall₂_congr fun field hfield => ?_
    rw [Function.comp_apply, Prod.map_fst, Prod.map_snd, ih field hfield, id_eq]

theorem canonicalJSON_normal (v : GoAny) (root : Bool) :
    canonicalJSON v.normal root = canonicalJSON v root := by
  have hcontainer : v.normal.container = v.container := by cases v <;> rfl
  rw [canonicalJSON, canonicalJSON, hcontainer, canonical_normal]

theorem PayloadOf.normal (h : PayloadOf sha256 maximumBytes p) :
    PayloadOf sha256 maximumBytes p.normal where
  identifier := h.identifier
  authority := (authorityFree_normal p.value).trans h.authority
  canonical := (canonicalJSON_normal p.value true).trans h.canonical
  length := h.length
  hash := h.hash

theorem PreparedOf.normal {p : Prepared} {state command : CanonicalPayload}
    (h : PreparedOf sha256 state command p) :
    PreparedOf sha256 state.normal command.normal { p with request := p.request.normal } where
  valid := h.valid
  ids := h.ids
  state := h.state.normal
  command := h.command.normal
  request := h.normal_request
  canonical := (canonicalJSON_normal p.request true).trans h.canonical
  requestHash := h.requestHash
  previousState := h.previousState

def width (child : Except String GoString) : Nat := (child.toOption.getD []).length

theorem joinCanonical_width (children : List (Except String GoString)) :
    width (joinCanonical children) ≤ (children.map fun child => width child + 1).sum := by
  induction children with
  | nil => exact le_rfl
  | cons child rest ih =>
    rw [List.map_cons, List.sum_cons]
    cases rest with
    | nil => exact Nat.le_add_right _ _
    | cons next rest =>
      cases hjoin : joinCanonical (child :: next :: rest) with
      | error e => exact Nat.zero_le _
      | ok b =>
        rw [joinCanonical] at hjoin
        · simp only [bind_ok] at hjoin
          obtain ⟨head, rfl, tail, htail, h⟩ := hjoin
          cases h
          rw [htail] at ih
          have hcomma : (str ",").length = 1 := by decide
          change (head ++ str "," ++ tail).length ≤ head.length + 1 + _
          change tail.length ≤ _ at ih
          rw [List.length_append, List.length_append]
          omega
        · exact fun heq => List.cons_ne_nil _ _ heq

theorem canonicalField_width (name : GoString) (child : Except String GoString) :
    width (canonicalField (name, child)) ≤ (appendJSONString name).length + 1 + width child := by
  cases child with
  | error e => exact Nat.zero_le _
  | ok b =>
    have hcolon : (str ":").length = 1 := by decide
    change (appendJSONString name ++ str ":" ++ b).length ≤ _ + 1 + b.length
    rw [List.length_append, List.length_append]
    omega

variable (depth : Nat)

def fieldWidth (field : GoString × GoAny) : Nat :=
  (appendJSONString field.1).length + 2 + width (appendCanonical depth field.2)

theorem object_width (fields : List (GoString × GoAny)) :
    width (appendCanonical depth (.object fields)) ≤
      2 + (fields.map (fieldWidth (depth + 1))).sum := by
  cases hobject : appendCanonical depth (.object fields) with
  | error e => exact Nat.zero_le _
  | ok b =>
    simp only [appendCanonical, bind_ok] at hobject
    obtain ⟨_, _, _, _, inner, hinner, h⟩ := hobject
    cases h
    have hjoin := joinCanonical_width
      ((sortFields (canonicalFields (depth + 1) fields)).map canonicalField)
    rw [hinner, List.map_map] at hjoin
    have hsum : ((sortFields (canonicalFields (depth + 1) fields)).map
        ((fun child => width child + 1) ∘ canonicalField)).sum ≤
          (fields.map (fieldWidth (depth + 1))).sum := by
      rw [((sortFields_perm _).map _).sum_nat, canonicalFields_eq, List.map_map]
      refine List.sum_le_sum fun field _ => ?_
      have hfield := canonicalField_width field.1 (appendCanonical (depth + 1) field.2)
      change width (canonicalField (field.1, appendCanonical (depth + 1) field.2)) + 1 ≤
        (appendJSONString field.1).length + 2 + width (appendCanonical (depth + 1) field.2)
      omega
    have hopen : (str "\x7b").length = 1 := by decide
    have hclose : (str "\x7d").length = 1 := by decide
    change inner.length ≤ _ at hjoin
    change (str "\x7b" ++ inner ++ str "\x7d").length ≤ _
    rw [List.length_append, List.length_append]
    omega

theorem text_width (h : Portable s ∧ s.length ≤ 160) :
    width (appendCanonical depth (.text s)) ≤ 162 := by
  cases htext : appendCanonical depth (.text s) with
  | error e => exact Nat.zero_le _
  | ok b =>
    simp only [appendCanonical, bind_ok] at htext
    obtain ⟨_, _, htext⟩ := htext
    cases htext
    have hlength := h.1.quoted
    change (appendJSONString s).length ≤ 162
    omega

theorem int_width {n : Int64} (h : 0 ≤ n) : width (appendCanonical depth (.int n.toInt)) ≤ 20 := by
  have hnat : n.toInt = (n.toInt.toNat : Int) :=
    (Int.toNat_of_nonneg (Int64.le_iff_toInt_le.mp h)).symm
  have hdigits : ∀ c ∈ decimal n.toInt.toNat, c.utf8Size = 1 := by
    intro c hc
    have hdigit := decimal_digits _ c hc
    simp only [Char.isDigit, ge_iff_le, Bool.and_eq_true, decide_eq_true_eq] at hdigit
    exact Char.utf8Size_eq_one_iff.mpr
      (UInt32.le_iff_toNat_le.mpr ((UInt32.le_iff_toNat_le.mp hdigit.2).trans (by decide)))
  have hlength : (decimal n.toInt.toNat).length ≤ 20 := by
    have hlt := n.toInt_lt
    rw [decimal, Nat.length_toDigits_le_iff (by decide) (by decide)]
    omega
  have hones : (ofRunes (decimal n.toInt.toNat)).length = (decimal n.toInt.toNat).length := by
    rw [length_ofRunes, List.map_congr_left hdigits]
    simp
  rw [hnat]
  cases hint : appendCanonical depth (.int (n.toInt.toNat : Int)) with
  | error e => exact Nat.zero_le _
  | ok b =>
    simp only [appendCanonical, bind_ok] at hint
    obtain ⟨_, _, _, _, hint⟩ := hint
    cases hint
    exact hones.trans_le hlength

theorem value_width {v : GoAny} {b : GoString} (hv : v.wellFormed = true)
    (h : canonicalJSON v true = .ok b) : width (appendCanonical depth v) ≤ b.length := by
  obtain ⟨w, htext, hnormal⟩ := textOf_of_canonicalJSON hv h
  rw [Denotes.canonical ⟨htext.canonical, hnormal⟩, rendered, htext.bytes]
  split
  · exact le_rfl
  · exact Nat.zero_le _

theorem wire_width (h : PayloadOf sha256 maximumBytes p) (hvalue : p.value.wellFormed = true) :
    width (appendCanonical depth p.wire) ≤ maximumBytes + 400 := by
  have hobject := object_width depth [(str "canonical_json", p.value),
    (str "schema_id", .text p.schemaID), (str "sha256", .text p.sha256)]
  have hnames : ∀ name ∈ payloadFields, (appendJSONString name).length ≤ 16 := by decide +kernel
  have hhash : Portable p.sha256 ∧ p.sha256.length ≤ 160 := by
    rw [h.hash]
    exact ⟨(portable_hash _).1, (portable_hash _).2.trans_le (by decide)⟩
  have hwidth := value_width (depth + 1) hvalue h.canonical
  have hschema := text_width (depth + 1) (portable_identifier h.identifier)
  have hsha := text_width (depth + 1) hhash
  simp only [payloadFields, List.forall_mem_cons] at hnames
  simp only [fieldWidth, List.map_cons, List.map_nil, List.sum_cons, List.sum_nil] at hobject
  rw [CanonicalPayload.wire]
  have hlength := h.length
  omega

theorem PreparedOf.limit {p : Prepared} {state command : CanonicalPayload}
    (h : PreparedOf sha256 state command p) (hstate : state.value.wellFormed = true)
    (hcommand : command.value.wellFormed = true) :
    withinLimit (maxStateBytes + maxCommandBytes + 4096) p.canonicalRequest := by
  have htexts := h.texts
  simp only [requestTexts, List.forall_mem_cons] at htexts
  obtain ⟨hcontent, hruleset, htransition, hid, _⟩ := htexts
  have hnames : ∀ name ∈ requestFields ++ commandFields, (appendJSONString name).length ≤ 18 := by
    decide +kernel
  have hversion : Portable contractVersion ∧ contractVersion.length ≤ 160 := by decide +kernel
  have hinner := object_width 1 [(str "command_id", .text p.commandID),
    (str "payload", command.wire)]
  have houter := object_width 0 [(str "command", .object [(str "command_id", .text p.commandID),
      (str "payload", command.wire)]),
    (str "content_revision", .text p.context.contentRevision),
    (str "contract_version", .text contractVersion),
    (str "expected_tick", .int p.context.expectedTick.toInt),
    (str "previous_state", state.wire),
    (str "ruleset_revision", .text p.context.rulesetRevision),
    (str "transition_id", .text p.transitionID)]
  simp only [requestFields, commandFields, List.cons_append, List.nil_append,
    List.forall_mem_cons] at hnames
  simp only [fieldWidth, List.map_cons, List.map_nil, List.sum_cons, List.sum_nil,
    Nat.reduceAdd] at hinner houter
  have h₁ := text_width 1 hcontent
  have h₂ := text_width 1 hversion
  have h₃ := int_width 1 (validate_ok.mp h.valid).2.2.2
  have h₄ := wire_width 1 h.state hstate
  have h₅ := text_width 1 hruleset
  have h₆ := text_width 1 htransition
  have h₇ := text_width 2 hid
  have h₈ := wire_width 2 h.command hcommand
  have hcanonical := h.canonical
  simp only [canonicalJSON, bind_ok, h.request, requestObject] at hcanonical
  obtain ⟨_, _, hcanonical⟩ := hcanonical
  rw [hcanonical] at houter
  change p.canonicalRequest.length ≤ _ at houter
  rw [withinLimit]
  omega

theorem object_wellFormed {fields : List (GoString × GoAny)} (hnames : (fields.map (·.1)).Nodup)
    (h : ∀ field ∈ fields, field.2.wellFormed = true) :
    (GoAny.object fields).wellFormed = true := by
  rw [GoAny.wellFormed, Bool.and_eq_true]
  exact ⟨decide_eq_true hnames, fieldsWellFormed_iff.mpr h⟩

theorem wire_wellFormed (h : p.value.wellFormed = true) : p.wire.wellFormed = true := by
  have hnames : payloadFields.Nodup := by decide
  refine object_wellFormed hnames ?_
  simp [h, GoAny.wellFormed]

theorem request_wellFormed (context : AuthorityContext) (transitionID commandID : GoString)
    {state command : CanonicalPayload} (hstate : state.value.wellFormed = true)
    (hcommand : command.value.wellFormed = true) :
    (requestObject context transitionID commandID state command).wellFormed = true := by
  have hnames : requestFields.Nodup := by decide
  have hinner : commandFields.Nodup := by decide
  have hobject : (GoAny.object [(str "command_id", .text commandID),
      (str "payload", command.wire)]).wellFormed = true := by
    refine object_wellFormed hinner ?_
    simp [wire_wellFormed hcommand, GoAny.wellFormed]
  have htick : (GoAny.int context.expectedTick.toInt).wellFormed = true := by
    have hlow := context.expectedTick.le_toInt
    have hhigh := context.expectedTick.toInt_lt
    rw [GoAny.wellFormed, Bool.and_eq_true, decide_eq_true_eq, decide_eq_true_eq]
    omega
  refine object_wellFormed hnames ?_
  simp [hobject, htick, wire_wellFormed hstate, GoAny.wellFormed.eq_def (.text _)]

theorem PreparedOf.restores {p : Prepared} {state command : CanonicalPayload}
    (h : PreparedOf sha256 state command p) (hstate : state.value.wellFormed = true)
    (hcommand : command.value.wellFormed = true) :
    preparedFromCanonicalRequest sha256 p.context p.canonicalRequest =
      .ok { p with request := p.request.normal } := by
  have hwell := request_wellFormed p.context p.transitionID p.commandID hstate hcommand
  rw [← h.request] at hwell
  obtain ⟨v, htext, hnormal⟩ := textOf_of_canonicalJSON hwell h.canonical
  exact restore_ok.mpr ⟨⟨rfl, rfl⟩, h.limit hstate hcommand, ⟨v, htext.canonical, hnormal⟩,
    state.normal, command.normal, h.normal⟩

def GoAny.member (value : GoAny) (name : String) : GoAny :=
  match value with
  | .object fields => field fields name
  | _ => .nil

theorem prepared_requests_survive_restart (sha256 : GoString → Vector UInt8 32)
    (context : AuthorityContext) :
    (∀ stateSchemaID state commandSchemaID command p,
      state.wellFormed = true → command.wellFormed = true →
      prepare sha256 context stateSchemaID state commandSchemaID command = .ok p →
      ∃ p', preparedFromCanonicalRequest sha256 context p.canonicalRequest = .ok p' ∧
        p'.canonicalRequest = p.canonicalRequest ∧ p'.requestHash = p.requestHash ∧
        p'.transitionID = p.transitionID ∧ p'.commandID = p.commandID ∧
        p'.previousStateHash = p.previousStateHash) ∧
    ∀ raw p, preparedFromCanonicalRequest sha256 context raw = .ok p →
      let state := p.request.member "previous_state"
      let command := (p.request.member "command").member "payload"
      ∃ stateSchemaID commandSchemaID, state.member "schema_id" = .text stateSchemaID ∧
        command.member "schema_id" = .text commandSchemaID ∧
        prepare sha256 context stateSchemaID (state.member "canonical_json") commandSchemaID
          (command.member "canonical_json") = .ok p ∧
        p.canonicalRequest = raw := by
  refine ⟨?_, ?_⟩
  · intro stateSchemaID state commandSchemaID command p hstate hcommand hprepare
    obtain ⟨rfl, statePayload, commandPayload, h, ⟨rfl, _⟩, rfl, _⟩ := prepare_ok.mp hprepare
    exact ⟨_, h.restores hstate hcommand, rfl, rfl, rfl, rfl, rfl⟩
  · intro raw p hrestore state command
    obtain ⟨⟨rfl, rfl⟩, _, _, statePayload, commandPayload, h⟩ := restore_ok.mp hrestore
    have hstate : state = statePayload.wire := congrArg (GoAny.member · "previous_state") h.request
    have hcommand : command = commandPayload.wire :=
      congrArg (fun request => (request.member "command").member "payload") h.request
    rw [hstate, hcommand]
    exact ⟨statePayload.schemaID, commandPayload.schemaID, rfl, rfl,
      prepare_ok.mpr ⟨rfl, statePayload, commandPayload, h, ⟨rfl, rfl⟩, rfl, rfl⟩, rfl⟩

def restartContext : AuthorityContext :=
  ⟨str "m", str "g", List.replicate 64 0x61, 1, 2, str "k", str "r", str "c", 3⟩

def restartState : GoAny := .object [(str "b", .text [0xff]), (str "a", .int 1)]

theorem prepared_requests_survive_restart_sample : ∃ p p',
    prepare Sha256.digest restartContext (str "state") restartState (str "command") (.object []) =
      .ok p ∧
    preparedFromCanonicalRequest Sha256.digest restartContext p.canonicalRequest = .ok p' ∧
    p'.requestHash = p.requestHash ∧
    ∃ stateSchemaID commandSchemaID state command,
      prepare Sha256.digest restartContext stateSchemaID state commandSchemaID command =
        .ok p' := by
  obtain ⟨hrestart, hagain⟩ := prepared_requests_survive_restart Sha256.digest restartContext
  have hok : (prepare Sha256.digest restartContext (str "state") restartState (str "command")
      (.object [])).isOk = true := by
    decide +kernel
  obtain ⟨p, hp⟩ := ok_of_isOk hok
  obtain ⟨p', hp', _, hhash, _⟩ := hrestart _ _ _ _ p (by decide +kernel) (by decide +kernel) hp
  obtain ⟨stateSchemaID, commandSchemaID, _, _, hprepare, _⟩ := hagain _ p' hp'
  exact ⟨p, p', hp, hp', hhash, stateSchemaID, commandSchemaID, _, _, hprepare⟩

end WorldTransition
