import TrillionniumGame.Foundation.TextSizes
import TrillionniumGame.Runtime.Contract.Frames

namespace Contract
open Checks DigestTable Framing GoText

variable {crypto : Crypto} {name : String} {value : GoString}

structure IsText (value : GoString) : Prop where
  present : value ≠ []
  valid : validString value = true
  short : (runes value).length ≤ maxContractTextRunes
  noNul : 0 ∉ value

theorem validateText_iff : validateText name value = .ok () ↔ IsText value := by
  simp only [validateText, bind_ok, require_ok]
  constructor
  · rintro ⟨-, hpresent, -, hvalid, -, hshort, hnul⟩
    exact ⟨hpresent, hvalid, hshort, hnul⟩
  · rintro ⟨hpresent, hvalid, hshort, hnul⟩
    exact ⟨(), hpresent, (), hvalid, (), hshort, hnul⟩

theorem validateTexts_iff {fields : List (String × GoString)} :
    validateTexts fields = .ok () ↔ ∀ field ∈ fields, IsText field.2 := by
  rw [validateTexts, forM_ok]
  exact forall₂_congr fun _ _ => validateText_iff

theorem IsText.length_le (h : IsText value) : value.length ≤ 2048 := by
  have hle := length_le_runes h.valid
  have hshort : (runes value).length ≤ 512 := h.short
  omega

theorem isText_ascii (hpresent : value ≠ []) (hlength : value.length ≤ 512)
    (hbytes : ∀ byte ∈ value, 0 < byte.toNat ∧ byte.toNat < 0x80) : IsText value := by
  have hvalid : validString value = true := validString_ascii fun byte hbyte => (hbytes byte hbyte).2
  refine ⟨hpresent, hvalid, (runes_le_length hvalid).trans hlength, fun hzero => ?_⟩
  exact absurd (hbytes 0 hzero).1 (by decide)

theorem isText_hex (raw : Vector UInt8 32) : IsText (digestPrefix ++ hexEncode raw) := by
  have hdigit : ∀ n < 16, 0 < (hexDigit n).toNat ∧ (hexDigit n).toNat < 0x80 := by decide
  have hprefix : ∀ byte ∈ digestPrefix, 0 < byte.toNat ∧ byte.toNat < 0x80 := by decide +kernel
  have hlength : (digestPrefix ++ hexEncode raw).length = 71 := by
    rw [List.length_append, length_hexEncode]
    rfl
  refine isText_ascii (List.length_pos_iff.mp (by omega)) (by omega) fun byte hbyte => ?_
  rcases List.mem_append.mp hbyte with hbyte | hbyte
  · exact hprefix byte hbyte
  · obtain ⟨source, -, hbyte⟩ := List.mem_flatMap.mp hbyte
    have hsource := source.toNat_lt
    simp only [hexByte, List.mem_cons, List.not_mem_nil, or_false] at hbyte
    rcases hbyte with rfl | rfl
    · exact hdigit _ (by omega)
    · exact hdigit _ (by omega)

theorem isText_newDigest (crypto : Crypto) (data : GoString) : IsText (newDigest crypto data) :=
  isText_hex _

theorem validate_newDigest (crypto : Crypto) (data : GoString) :
    Digest.validate (newDigest crypto data) = .ok () := by
  rw [Digest.validate, bytes_newDigest]
  rfl

theorem validate_iff : Digest.validate value = .ok () ↔ ∃ raw, Digest.bytes value = .ok raw := by
  rw [Digest.validate, bind_ok]
  exact ⟨fun ⟨raw, hraw, _⟩ => ⟨raw, hraw⟩, fun ⟨raw, hraw⟩ => ⟨raw, hraw, rfl⟩⟩

def Field.Encodes (f : Field) : Prop := ∃ b, f.encode = .ok b

theorem text_encodes (h : value.length ≤ 4294967295) : (Field.text value).Encodes :=
  ⟨_, text_encode.mpr ⟨by omega, rfl⟩⟩

theorem IsText.encodes (h : IsText value) : (Field.text value).Encodes :=
  text_encodes (by have := h.length_le; omega)

theorem u32_encodes (value : UInt32) : (Field.u32 value).Encodes := ⟨_, rfl⟩

theorem u64_encodes (value : UInt64) : (Field.u64 value).Encodes := ⟨_, rfl⟩

theorem i64_encodes (value : Int64) : (i64 value).Encodes := ⟨_, rfl⟩

theorem digest_encodes (h : Digest.validate value = .ok ()) : (Field.digest value).Encodes := by
  obtain ⟨raw, hraw⟩ := validate_iff.mp h
  exact ⟨raw.toList, digest_encode.mpr ⟨raw, hraw, rfl⟩⟩

theorem frame_exists (domain : GoString) {fields : List Field} (h : ∀ f ∈ fields, f.Encodes) :
    ∃ b, frame domain fields = .ok b := by
  have hbody : ∃ body, encodeAll Field.encode fields = .ok body := by
    induction fields with
    | nil => exact ⟨[], rfl⟩
    | cons f rest ih =>
      obtain ⟨⟨head, hhead⟩, hrest⟩ := List.forall_mem_cons.mp h
      obtain ⟨tail, htail⟩ := ih hrest
      exact ⟨head ++ tail, encodeAll_cons.mpr ⟨head, tail, hhead, htail, rfl⟩⟩
  obtain ⟨body, hbody⟩ := hbody
  exact ⟨_, frame_ok.mpr ⟨body, hbody, rfl⟩⟩

theorem eventIDBytes_exists {matchID causationID : GoString} {sequence : UInt64}
    (hmatch : validateLogicalMatchID matchID = .ok ()) (htext : IsText matchID)
    (hsequence : sequence ≠ 0) (hcausation : IsText causationID) :
    ∃ b, eventIDBytes matchID sequence causationID = .ok b := by
  have hfields : ∀ f ∈ [.text matchID, .text causationID, .u64 sequence], Field.Encodes f := by
    simp only [List.forall_mem_cons]
    exact ⟨htext.encodes, hcausation.encodes, u64_encodes _, nofun⟩
  obtain ⟨b, hb⟩ := frame_exists (str "trnm_match_event_id_v1") hfields
  refine ⟨b, ?_⟩
  rw [eventIDBytes, hmatch]
  change (require _ _ >>= fun _ => _) = _
  rw [require_of hsequence, ok_bind, validateText_iff.mpr hcausation, ok_bind, hb]

structure Sealable (event : MatchEvent) : Prop where
  schema : event.schema = eventSchema
  eventID : IsText event.eventID
  eventType : IsText event.eventType
  matchID : IsText event.matchID
  logical : validateLogicalMatchID event.matchID = .ok ()
  challengeID : IsText event.challengeID
  causationID : IsText event.causationID
  payloadType : IsText event.payloadType
  sequence : event.sequence ≠ 0
  matchVersion : event.matchVersion ≠ 0
  slot : event.participantSlot ≤ 2
  time : 0 ≤ event.occurredAtUnix
  payload : event.payload ≠ []
  payloadSize : event.payload.length ≤ maxPayloadBytes

variable {event : MatchEvent}

theorem Sealable.validateFacts (h : Sealable event)
    (hhash : event.payloadHash = newDigest crypto event.payload) :
    event.validateFacts crypto = .ok () := by
  have htexts : ∀ field ∈ [("event_id", event.eventID), ("event_type", event.eventType),
      ("match_id", event.matchID), ("challenge_id", event.challengeID),
      ("causation_id", event.causationID), ("payload_type", event.payloadType)],
      IsText field.2 := by
    simp only [List.forall_mem_cons]
    exact ⟨h.eventID, h.eventType, h.matchID, h.challengeID, h.causationID, h.payloadType, nofun⟩
  rw [MatchEvent.validateFacts, require_of h.schema, ok_bind, validateTexts_iff.mpr htexts, ok_bind,
    require_of ⟨h.sequence, h.matchVersion⟩, ok_bind, h.logical, ok_bind, require_of h.slot,
    ok_bind, require_of ⟨h.time, h.payload, h.payloadSize⟩, ok_bind, require_of hhash]

theorem Sealable.factsBytes (h : Sealable event)
    (hhash : event.payloadHash = newDigest crypto event.payload) :
    ∃ facts, event.factsBytes crypto = .ok facts := by
  have hschema : IsText event.schema := by
    rw [h.schema]
    exact isText_ascii (by decide +kernel) (by decide +kernel) (by decide +kernel)
  have hpayload : (Field.text event.payload).Encodes := by
    have hsize : event.payload.length ≤ 65536 := h.payloadSize
    exact text_encodes (by omega)
  have hdigest : (Field.digest event.payloadHash).Encodes := by
    rw [hhash]
    exact digest_encodes (validate_newDigest crypto _)
  have hfields : ∀ f ∈ event.fields, f.Encodes := by
    simp only [MatchEvent.fields, List.forall_mem_cons]
    exact ⟨hschema.encodes, h.eventID.encodes, h.eventType.encodes, h.matchID.encodes,
      h.challengeID.encodes, u64_encodes _, h.causationID.encodes, i64_encodes _, u32_encodes _,
      u64_encodes _, h.payloadType.encodes, hpayload, hdigest, nofun⟩
  obtain ⟨facts, hfacts⟩ := frame_exists (str "trnm_match_event_v1") hfields
  refine ⟨facts, ?_⟩
  rw [MatchEvent.factsBytes, h.validateFacts hhash, ok_bind, hfacts]

theorem Sealable.seals (h : Sealable event) :
    ∃ hash, sealEvent crypto event =
      .ok { event with payloadHash := newDigest crypto event.payload, eventHash := hash } := by
  have hhashed : Sealable { event with payloadHash := newDigest crypto event.payload } :=
    ⟨h.schema, h.eventID, h.eventType, h.matchID, h.logical, h.challengeID, h.causationID,
      h.payloadType, h.sequence, h.matchVersion, h.slot, h.time, h.payload, h.payloadSize⟩
  have hframed : ∃ facts, MatchEvent.factsBytes crypto _ = .ok facts := hhashed.factsBytes rfl
  obtain ⟨facts, hfacts⟩ := hframed
  refine ⟨newDigest crypto facts, ?_⟩
  rw [sealEvent, computeEventHash, hfacts]
  rfl

end Contract
