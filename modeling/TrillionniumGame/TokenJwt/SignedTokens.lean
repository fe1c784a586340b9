import TrillionniumGame.TokenJwt.ClaimRules
import TrillionniumGame.TokenJwt.JsonAcceptance

namespace TokenJwt
open Checks Entries FiniteMap GoText
open GoJson (decimal)
open JsonText (decimal_digits)

section Segments

variable {token header payload signature : List UInt8}

theorem notMem_splitOn {α : Type} [DecidableEq α] {a : α} {xs piece : List α}
    (h : piece ∈ xs.splitOn a) : a ∉ piece := by
  induction xs generalizing piece with
  | nil =>
    rw [List.splitOn_nil, List.mem_singleton] at h
    exact h ▸ List.not_mem_nil
  | cons x rest ih =>
    rw [List.splitOn_cons_eq_if_modifyHead] at h
    split at h
    · rcases List.mem_cons.mp h with rfl | hrest
      · exact List.not_mem_nil
      · exact ih hrest
    · next hne =>
      obtain ⟨first, others, hcons⟩ := List.exists_cons_of_ne_nil (List.splitOn_ne_nil a rest)
      rw [hcons] at h ih
      rcases List.mem_cons.mp h with rfl | hothers
      · refine fun hmem => (List.mem_cons.mp hmem).elim (fun heq => hne ?_) (ih List.mem_cons_self)
        exact beq_iff_eq.mpr heq.symm
      · exact ih (List.mem_cons_of_mem _ hothers)

theorem segments_some : segments token = some (header, payload, signature) ↔
    token = header ++ ascii '.' :: (payload ++ ascii '.' :: signature) ∧
      ascii '.' ∉ header ∧ ascii '.' ∉ payload ∧ ascii '.' ∉ signature := by
  constructor
  · intro h
    unfold segments at h
    split at h
    · next hthree =>
      cases h
      have hpiece : ∀ piece ∈ [header, payload, signature], ascii '.' ∉ piece := fun piece hmem =>
        notMem_splitOn (hthree ▸ hmem)
      have hjoin : [ascii '.'].intercalate (token.splitOn (ascii '.')) = token :=
        List.intercalate_splitOn (ascii '.')
      rw [hthree] at hjoin
      refine ⟨by simpa using hjoin.symm, hpiece _ (by simp), hpiece _ (by simp), hpiece _ (by simp)⟩
    · cases h
  · rintro ⟨rfl, hh, hp, hs⟩
    rw [segments, List.splitOn_append_cons_self_of_not_mem hh,
      List.splitOn_append_cons_self_of_not_mem hp, List.splitOn_eq_singleton hs]

theorem dot_notMem_encode (bytes : List UInt8) : ascii '.' ∉ Base64url.encode bytes := fun h =>
  absurd (Base64url.encode_symbols h) (by decide)

theorem segments_encoded (headerBytes payloadBytes signatureBytes : List UInt8) :
    segments (Base64url.encode headerBytes ++ ascii '.' :: (Base64url.encode payloadBytes ++
      ascii '.' :: Base64url.encode signatureBytes)) =
        some (Base64url.encode headerBytes, Base64url.encode payloadBytes,
          Base64url.encode signatureBytes) :=
  segments_some.mpr ⟨rfl, dot_notMem_encode _, dot_notMem_encode _, dot_notMem_encode _⟩

end Segments

section KeyIds

theorem digitChar_of_isDigit {c : Char} (h : c.isDigit = true) :
    c.toNat - '0'.toNat < 10 ∧ Nat.digitChar (c.toNat - '0'.toNat) = c := by
  have hrange : 48 ≤ c.toNat ∧ c.toNat ≤ 57 := by
    simpa [Char.isDigit, UInt32.le_iff_toNat_le] using h
  have hall : ∀ n < 58, 48 ≤ n → n - '0'.toNat < 10 ∧ Nat.digitChar (n - '0'.toNat) = Char.ofNat n := by
    decide
  have hc := hall c.toNat (by omega) hrange.1
  rwa [Char.ofNat_toNat] at hc

theorem decimal_ofDigitChars {digits : List Char} (hne : digits ≠ [])
    (hdigits : ∀ c ∈ digits, c.isDigit = true)
    (hleading : 1 < digits.length → digits.head? ≠ some '0') :
    decimal (Nat.ofDigitChars 10 digits 0) = digits := by
  induction digits using List.reverseRecOn with
  | nil => exact absurd rfl hne
  | append_singleton front last ih =>
    have hlast := digitChar_of_isDigit (hdigits last (by simp))
    rw [Nat.ofDigitChars_append, Nat.ofDigitChars_cons, Nat.ofDigitChars_nil, decimal]
    rcases List.eq_nil_or_concat front with rfl | hfront
    · rw [Nat.ofDigitChars_nil, Nat.mul_zero, Nat.zero_add, Nat.toDigits_of_lt_base hlast.1,
        hlast.2]
      rfl
    · have hfront : front ≠ [] := by
        obtain ⟨xs, x, rfl⟩ := hfront
        simp
      have hhead : front.head? ≠ some '0' := by
        have hlength := List.length_pos_iff.mpr hfront
        have hall := hleading (by rw [List.length_append, List.length_singleton]; omega)
        rwa [List.head?_append_of_ne_nil _ hfront] at hall
      have hrest := ih hfront (fun c hc => hdigits c (List.mem_append_left _ hc)) fun _ => hhead
      have hpos : 0 < Nat.ofDigitChars 10 front 0 := by
        rcases Nat.eq_zero_or_pos (Nat.ofDigitChars 10 front 0) with hzero | hpos
        · rw [hzero] at hrest
          exact absurd (hrest ▸ rfl) hhead
        · exact hpos
      rw [← Nat.toDigits_append_toDigits (by decide) hpos hlast.1,
        Nat.toDigits_of_lt_base hlast.1, hlast.2]
      exact congrArg (· ++ [last]) hrest

theorem parseEpoch_some {rawEpoch : List Char} {epoch : UInt32} :
    parseEpoch rawEpoch = some epoch ↔ rawEpoch = decimal epoch.toNat ∧ epoch ≠ 0 := by
  have hlt := epoch.toNat_lt
  unfold parseEpoch
  constructor
  · intro h
    split at h
    · cases h
    next hform =>
    simp only [not_or, not_and, Bool.not_eq_false, List.all_eq_true] at hform
    obtain ⟨hne, hleading, hdigits⟩ := hform
    have hdecimal := decimal_ofDigitChars hne hdigits hleading
    dsimp only at h
    split at h
    · next hrange =>
      cases h
      have hnat : (UInt32.ofNat (Nat.ofDigitChars 10 rawEpoch 0)).toNat =
          Nat.ofDigitChars 10 rawEpoch 0 := UInt32.toNat_ofNat_of_lt' hrange.1
      refine ⟨by rw [hnat, hdecimal], fun hzero => hrange.2 ?_⟩
      rw [← hnat, hzero]
      rfl
    · cases h
  · rintro ⟨rfl, hne⟩
    have hpos : 0 < epoch.toNat := Nat.pos_of_ne_zero fun hzero => hne (UInt32.toNat_inj.mp hzero)
    obtain ⟨c, tail, hcons, hc⟩ := JsonText.decimal_head hpos
    have hform : ¬ (decimal epoch.toNat = [] ∨ (1 < (decimal epoch.toNat).length ∧
        (decimal epoch.toNat).head? = some '0') ∨
          (decimal epoch.toNat).all Char.isDigit = false) := by
      simp only [not_or, not_and, Bool.not_eq_false, List.all_eq_true]
      refine ⟨by simp [hcons], fun _ => by simp [hcons, hc], decimal_digits _⟩
    have hvalue : Nat.ofDigitChars 10 (decimal epoch.toNat) 0 = epoch.toNat :=
      Nat.ofDigitChars_ten_toDigits
    rw [if_neg hform]
    dsimp only
    rw [hvalue, if_pos ⟨hlt, hpos.ne'⟩, UInt32.ofNat_toNat]

def keyIdOf (epoch : UInt32) : List Char := epochKeyIdPrefix ++ decimal epoch.toNat

theorem keyIdEpoch_some {keyId : String} {epoch : UInt32} :
    keyIdEpoch keyId = some epoch ↔ keyId.toList = keyIdOf epoch ∧ epoch ≠ 0 := by
  unfold keyIdEpoch keyIdOf
  constructor
  · intro h
    split at h
    · next hprefix =>
      obtain ⟨hraw, hne⟩ := parseEpoch_some.mp h
      refine ⟨?_, hne⟩
      rw [← hraw, List.prefix_iff_eq_append.mp hprefix]
    · cases h
  · rintro ⟨hkey, hne⟩
    rw [if_pos ⟨_, hkey.symm⟩, hkey, List.drop_left]
    exact parseEpoch_some.mpr ⟨rfl, hne⟩

end KeyIds

section Header

variable {header : Object} {profile : VerificationProfile} {headerBytes : List UInt8}
  {route : TokenRoute}

theorem asObject_some {v : JsonValue} {object : Object} :
    v.asObject = some object ↔ v = .object object := by
  cases v <;> simp [JsonValue.asObject]

theorem asStr_some {v : JsonValue} {text : String} : v.asStr = some text ↔ v = .string text := by
  cases v <;> simp [JsonValue.asStr]

theorem mem_of_lookup {name : String} {value : JsonValue}
    (h : header.lookup name = some value) : (name, value) ∈ header := by
  obtain ⟨front, back, hsplit, -⟩ := List.lookup_eq_some_iff.mp h
  rw [hsplit]
  simp

def FieldsAllowed (header : Object) (profile : VerificationProfile) : Prop :=
  profile.rejectUnknownHeaderFields = true →
    ∀ entry ∈ header, entry.1 ∈ ["alg", "typ", "kid"]

def Critical (header : Object) : Prop :=
  "crit" ∈ header.map Prod.fst ∨ "b64" ∈ header.map Prod.fst

theorem rejectUnknownFields_ok {u : Unit} :
    rejectUnknownFields header profile = .ok u ↔ FieldsAllowed header profile := by
  obtain rfl : u = () := rfl
  unfold rejectUnknownFields FieldsAllowed
  cases profile.rejectUnknownHeaderFields with
  | false => simp
  | true =>
    rw [if_pos rfl, forM_ok]
    simp only [require_ok, forall_const]

structure Routes (header : Object) (profile : VerificationProfile) (route : TokenRoute) : Prop where
  fields : FieldsAllowed header profile
  algorithm : header.lookup "alg" = some (.string "HS256")
  type : ∀ value ∈ header.lookup "typ", value = .string "JWT"
  route : parseRoute header profile = .ok route

theorem parse_algorithm {limits : JsonLimits}
    (h : parse headerBytes limits = .ok (.object header))
    (halgorithm : header.lookup "alg" = some (.string "HS256")) :
    byteLength "HS256" ≤ headerBytes.length := by
  have hsize : byteLength "HS256" = 5 := by decide
  rw [hsize]
  cases header with
  | nil => cases halgorithm
  | cons entry rest => exact parse_object_length h

theorem readHeader_ok (hlength : headerBytes.length ≤ profile.maxHeaderBytes) :
    readHeader headerBytes profile = .ok route ↔
      ∃ header, parse headerBytes profile.jsonLimits = .ok (.object header) ∧
        ¬ Critical header ∧ Routes header profile route := by
  simp only [readHeader, validateHeaderFields, requiredString, bind_ok, mapError_ok, fetch_ok,
    require_ok, rejectUnknownFields_ok, whenSome_ok, asObject_some, asStr_some]
  constructor
  · rintro ⟨_, hparse, header, rfl, -, ⟨-, ⟨hcrit, hb64⟩, -, hfields, -⟩, algorithm,
      ⟨_, hlookup, _, rfl, -, -, halgorithm⟩, -, halg, -, htype, hroute⟩
    cases halgorithm
    exact ⟨header, hparse, not_or.mpr ⟨hcrit, hb64⟩, hfields, halg ▸ hlookup, htype, hroute⟩
  · rintro ⟨header, hparse, hcritical, hfields, hlookup, htype, hroute⟩
    obtain ⟨hcrit, hb64⟩ := not_or.mp hcritical
    have halg : "alg" ∈ header.map Prod.fst := List.mem_map_of_mem (mem_of_lookup hlookup)
    exact ⟨_, hparse, header, rfl, (), ⟨(), ⟨hcrit, hb64⟩, (), hfields, halg⟩, "HS256",
      ⟨_, hlookup, _, rfl, (), (parse_algorithm hparse hlookup).trans hlength, rfl⟩, (), rfl, (),
      htype, hroute⟩

end Header

section Signed

variable {hmac : HmacSha256} {token : List UInt8} {keys : KeyRing} {profile : VerificationProfile}
  {route : TokenRoute} {headerBytes payloadBytes : List UInt8} {key : SecretKey}

structure Signed (hmac : HmacSha256) (token : List UInt8) (keys : KeyRing)
    (profile : VerificationProfile) (route : TokenRoute) (headerBytes payloadBytes : List UInt8)
    (key : SecretKey) : Prop where
  assembled : token = assemble hmac key.bytes headerBytes payloadBytes
  short : token.length ≤ profile.maxTokenBytes
  header : headerBytes ≠ [] ∧ headerBytes.length ≤ profile.maxHeaderBytes
  payload : payloadBytes ≠ [] ∧ payloadBytes.length ≤ profile.maxPayloadBytes
  routed : readHeader headerBytes profile = .ok route
  keyed : keys.keyForRoute route = .ok key

theorem length_tag (tag : Vector UInt8 32) : tag.toList.length = signatureBytes := by
  rw [Vector.length_toList]
  rfl

theorem segments_assemble (hmac : HmacSha256) (key headerBytes payloadBytes : List UInt8) :
    segments (assemble hmac key headerBytes payloadBytes) =
      some (Base64url.encode headerBytes, Base64url.encode payloadBytes,
        Base64url.encode (hmacSha256 hmac key [Base64url.encode headerBytes, [ascii '.'],
          Base64url.encode payloadBytes]).toList) := segments_encoded _ _ _

theorem verifySigned_ok (h : verifySigned hmac token keys profile = .ok (route, payloadBytes)) :
    ∃ headerBytes key, Signed hmac token keys profile route headerBytes payloadBytes key := by
  simp only [verifySigned, bind_ok, require_ok, fetch_ok, mapError_ok] at h
  obtain ⟨-, hshort, ⟨headerSegment, payloadSegment, signatureSegment⟩, hsegments, -,
    ⟨hheader, hpayload, -⟩, headerBytes, hheaderBytes, route', hroute, key, hkey, signature,
    hsignature, -, -, -, htag, payloadBytes', hpayloadBytes, h⟩ := h
  cases h
  obtain ⟨rfl, hheaderLength⟩ := Base64url.encode_decode hheaderBytes
  obtain ⟨rfl, hpayloadLength⟩ := Base64url.encode_decode hpayloadBytes
  obtain ⟨rfl, -⟩ := Base64url.encode_decode hsignature
  refine ⟨headerBytes, key, ?_, hshort, ⟨?_, hheaderLength⟩, ⟨?_, hpayloadLength⟩, hroute, hkey⟩
  · rw [(segments_some.mp hsegments).1, htag]
    rfl
  · exact fun hnil => hheader (Base64url.encode_eq_nil.mpr hnil)
  · exact fun hnil => hpayload (Base64url.encode_eq_nil.mpr hnil)

theorem Signed.verifySigned (h : Signed hmac token keys profile route headerBytes payloadBytes key) :
    verifySigned hmac token keys profile = .ok (route, payloadBytes) := by
  obtain ⟨rfl, hshort, ⟨hheader, hheaderLength⟩, ⟨hpayload, hpayloadLength⟩, hroute, hkey⟩ := h
  have hsegments := segments_assemble hmac key.bytes headerBytes payloadBytes
  have hlength := length_tag (hmacSha256 hmac key.bytes [Base64url.encode headerBytes,
    [ascii '.'], Base64url.encode payloadBytes])
  have hnonempty : ∀ {bytes : List UInt8}, bytes ≠ [] → Base64url.encode bytes ≠ [] :=
    fun hne hnil => hne (Base64url.encode_eq_nil.mp hnil)
  have htag : (hmacSha256 hmac key.bytes [Base64url.encode headerBytes, [ascii '.'],
      Base64url.encode payloadBytes]).toList ≠ [] := fun hnil => by
    rw [hnil] at hlength
    cases hlength
  simp only [TokenJwt.verifySigned, bind_ok, require_ok, fetch_ok, mapError_ok]
  exact ⟨(), hshort, _, hsegments, (), ⟨hnonempty hheader, hnonempty hpayload, hnonempty htag⟩,
    headerBytes, Base64url.decode_encode hheaderLength, route, hroute, key, hkey, _,
    Base64url.decode_encode hlength.le, (), hlength, (), rfl, payloadBytes,
    Base64url.decode_encode hpayloadLength, rfl⟩

end Signed

end TokenJwt
