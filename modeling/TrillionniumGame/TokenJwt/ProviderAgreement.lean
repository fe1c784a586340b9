import TrillionniumGame.TokenJwt.Authenticity
import TrillionniumGame.TokenJwt.Provider

namespace JwtProvider
open Checks FiniteMap TokenJwt
open Token (KeyDomain)

section Provider

variable {hmac : HmacSha256} {provider : Hs256Provider} {key : KeyReference}
  {input bytes : List UInt8} {tag : Vector UInt8 32} {software : SoftwareHs256Provider}
  {decision : VerificationDecision}

theorem validateSigningInput_ok {u : Unit} :
    validateSigningInput input = .ok u ↔ input ≠ [] ∧ input.length ≤ maxSigningInputBytes := by
  simp only [validateSigningInput, bind_ok, require_ok]
  exact exists_const _

theorem toTag_some : toTag bytes = some tag ↔ bytes = tag.toList := by
  unfold toTag
  constructor
  · intro h
    split at h
    · cases h
      rfl
    · cases h
  · rintro rfl
    rw [dif_pos Vector.length_toList]
    rfl

theorem verifyExact_ok : verifyExact provider key input tag.toList = .ok decision ↔
    (input ≠ [] ∧ input.length ≤ maxSigningInputBytes) ∧
      provider.verify key input tag = .ok decision := by
  have htag : toTag tag.toList = some tag := toTag_some.mpr rfl
  simp only [verifyExact, bind_ok, validateSigningInput_ok, htag, fetch, Option.elim_some]
  constructor
  · rintro ⟨_, hinput, _, heq, h⟩
    exact ⟨hinput, Except.ok.inj heq ▸ h⟩
  · rintro ⟨hinput, h⟩
    exact ⟨(), hinput, tag, rfl, h⟩

theorem tag_ok : software.tag hmac key input = .ok tag ↔
    (input ≠ [] ∧ input.length ≤ maxSigningInputBytes) ∧
      ∃ material, software.keys.lookup (.ofReference key) = some material ∧
        hmac material.bytes input = tag := by
  simp only [SoftwareHs256Provider.tag, bind_ok, validateSigningInput_ok, fetch_ok]
  constructor
  · rintro ⟨_, hinput, material, hkey, h⟩
    exact ⟨hinput, material, hkey, Except.ok.inj h⟩
  · rintro ⟨hinput, material, hkey, rfl⟩
    exact ⟨(), hinput, material, hkey, rfl⟩

end Provider

section Authentication

variable {token : List UInt8} {profile : AuthenticationProfile} {resolver : KeyResolver}
  {provider : Hs256Provider} {header : Object} {headerBytes payloadBytes : List UInt8}
  {route : TokenRoute} {key : KeyReference} {direct : VerificationProfile}

structure SameSettings (direct : VerificationProfile) (profile : AuthenticationProfile) : Prop where
  token : direct.maxTokenBytes = profile.maxTokenBytes
  header : direct.maxHeaderBytes = profile.maxHeaderBytes
  payload : direct.maxPayloadBytes = profile.maxPayloadBytes
  below : profile.maxHeaderBytes < profile.maxTokenBytes ∧
    profile.maxPayloadBytes < profile.maxTokenBytes
  json : direct.jsonLimits = profile.jsonLimits
  legacy : direct.allowLegacyWithoutKeyId = profile.allowLegacyWithoutKeyId
  unknown : direct.rejectUnknownHeaderFields = profile.rejectUnknownHeaderFields

theorem route_eq (hsame : SameSettings direct profile) :
    JwtProvider.route header profile = .ok route ↔ parseRoute header direct = .ok route := by
  rw [JwtProvider.route, parseRoute, hsame.legacy]
  cases header.lookup "kid" with
  | none => cases profile.allowLegacyWithoutKeyId <;> simp
  | some value => cases value <;> simp [map_ok, fetch_ok]

theorem rejectUnknown_ok (hsame : SameSettings direct profile) {u : Unit} :
    rejectUnknown header profile = .ok u ↔ FieldsAllowed header direct := by
  obtain rfl : u = () := rfl
  unfold rejectUnknown FieldsAllowed
  rw [hsame.unknown]
  cases profile.rejectUnknownHeaderFields with
  | false => simp
  | true =>
    rw [if_pos rfl, forM_ok]
    simp only [require_ok, forall_const]

theorem validateType_ok {u : Unit} : validateType header = .ok u ↔
    ∀ value ∈ header.lookup "typ", value = .string "JWT" := by
  unfold validateType
  cases header.lookup "typ" with
  | none => simp
  | some value => simp [require_ok, asStr_some]

theorem algorithm_some {algorithm : String} :
    (header.lookup "alg").bind JsonValue.asStr = some algorithm ↔
      header.lookup "alg" = some (.string algorithm) := by
  cases header.lookup "alg" with
  | none => simp
  | some value => simp [asStr_some]

theorem headerRoute_ok (hsame : SameSettings direct profile) :
    headerRoute headerBytes profile = .ok route ↔
      ∃ header, parse headerBytes direct.jsonLimits = .ok (.object header) ∧
        Routes header direct route := by
  simp only [headerRoute, validateHeader, bind_ok, mapError_ok, fetch_ok, require_ok,
    asObject_some, rejectUnknown_ok hsame, algorithm_some, validateType_ok, route_eq hsame,
    hsame.json]
  constructor
  · rintro ⟨_, hparse, header, rfl, _, ⟨_, hfields, algorithm, halgorithm, _, rfl, htype⟩, hroute⟩
    exact ⟨header, hparse, hfields, halgorithm, htype, hroute⟩
  · rintro ⟨header, hparse, hfields, halgorithm, htype, hroute⟩
    exact ⟨_, hparse, header, rfl, (), ⟨(), hfields, _, halgorithm, (), rfl, htype⟩, hroute⟩

def signingInputOf (headerBytes payloadBytes : List UInt8) : List UInt8 :=
  Base64url.encode headerBytes ++ ascii '.' :: Base64url.encode payloadBytes

structure Authenticated (token : List UInt8) (profile : AuthenticationProfile)
    (resolver : KeyResolver) (provider : Hs256Provider) (route : TokenRoute) (key : KeyReference)
    (headerBytes payloadBytes : List UInt8) (tag : Vector UInt8 32) : Prop where
  valid : profile.validate = .ok ()
  joined : token = signingInputOf headerBytes payloadBytes ++
    ascii '.' :: Base64url.encode tag.toList
  short : token.length ≤ profile.maxTokenBytes
  header : headerBytes ≠ [] ∧ headerBytes.length ≤ profile.maxHeaderBytes
  payload : payloadBytes ≠ [] ∧ payloadBytes.length ≤ profile.maxPayloadBytes
  routed : headerRoute headerBytes profile = .ok route
  resolved : resolver profile.domain route = .ok key
  bounded : (signingInputOf headerBytes payloadBytes).length ≤ maxSigningInputBytes
  verified : provider.verify key (signingInputOf headerBytes payloadBytes) tag = .ok .accepted

theorem segments_joined (headerBytes payloadBytes : List UInt8) (tag : Vector UInt8 32) :
    segments (signingInputOf headerBytes payloadBytes ++ ascii '.' ::
      Base64url.encode tag.toList) = some (Base64url.encode headerBytes,
        Base64url.encode payloadBytes, Base64url.encode tag.toList) := by
  rw [signingInputOf, List.append_assoc]
  exact segments_encoded _ _ _

theorem authenticate_ok
    (h : authenticate token profile resolver provider = .ok ⟨route, key, payloadBytes⟩) :
    ∃ headerBytes tag, Authenticated token profile resolver provider route key headerBytes
      payloadBytes tag := by
  simp only [authenticate, bind_ok, require_ok, fetch_ok, mapError_ok] at h
  obtain ⟨_, hvalid, _, hshort, ⟨headerSegment, payloadSegment, signatureSegment⟩, hsegments, _,
    ⟨hheader, hpayload, -⟩, headerBytes, hheaderBytes, route', hroute, key', hkey, signature,
    hsignature, _, hlength, decision, hverify, _, rfl, payloadBytes', hpayloadBytes, h⟩ := h
  cases h
  obtain ⟨rfl, hheaderLength⟩ := Base64url.encode_decode hheaderBytes
  obtain ⟨rfl, hpayloadLength⟩ := Base64url.encode_decode hpayloadBytes
  obtain ⟨rfl, -⟩ := Base64url.encode_decode hsignature
  obtain ⟨tag, rfl⟩ : ∃ tag : Vector UInt8 32, signature = tag.toList :=
    ⟨⟨signature.toArray, hlength⟩, rfl⟩
  obtain ⟨⟨-, hbounded⟩, haccepted⟩ := verifyExact_ok.mp hverify
  refine ⟨headerBytes, tag, hvalid, ?_, hshort, ⟨?_, hheaderLength⟩, ⟨?_, hpayloadLength⟩, hroute,
    hkey, hbounded, haccepted⟩
  · rw [(segments_some.mp hsegments).1, signingInputOf, List.append_assoc]
    rfl
  · exact fun hnil => hheader (Base64url.encode_eq_nil.mpr hnil)
  · exact fun hnil => hpayload (Base64url.encode_eq_nil.mpr hnil)

theorem Authenticated.authenticate {tag : Vector UInt8 32} (h : Authenticated token profile
    resolver provider route key headerBytes payloadBytes tag) :
    authenticate token profile resolver provider = .ok ⟨route, key, payloadBytes⟩ := by
  obtain ⟨hvalid, rfl, hshort, ⟨hheader, hheaderLength⟩, ⟨hpayload, hpayloadLength⟩, hroute, hkey,
    hbounded, haccepted⟩ := h
  have hlength := length_tag tag
  have htag : tag.toList ≠ [] := fun hnil => by
    rw [hnil] at hlength
    cases hlength
  have hnonempty : ∀ {bytes : List UInt8}, bytes ≠ [] → Base64url.encode bytes ≠ [] :=
    fun hne hnil => hne (Base64url.encode_eq_nil.mp hnil)
  have hinput : signingInputOf headerBytes payloadBytes ≠ [] := by simp [signingInputOf]
  simp only [JwtProvider.authenticate, bind_ok, require_ok, fetch_ok, mapError_ok]
  exact ⟨(), hvalid, (), hshort, _, segments_joined _ _ _, (), ⟨hnonempty hheader,
    hnonempty hpayload, hnonempty htag⟩, headerBytes, Base64url.decode_encode hheaderLength, route,
    hroute, key, hkey, _, Base64url.decode_encode hlength.le, (), hlength, .accepted,
    verifyExact_ok.mpr ⟨⟨hinput, hbounded⟩, haccepted⟩, (), rfl, payloadBytes,
    Base64url.decode_encode hpayloadLength, rfl⟩

end Authentication

section Agreement

structure Serves (hmac : HmacSha256) (ring : KeyRing) (domain : KeyDomain)
    (resolver : KeyResolver) (provider : Hs256Provider) : Prop where
  held : ∀ route secret, ring.keyForRoute route = .ok secret → ∃ key,
    resolver domain route = .ok key ∧ ∀ input tag, input ≠ [] →
      input.length ≤ maxSigningInputBytes → provider.verify key input tag =
        .ok (if tag = hmac secret.bytes input then .accepted else .rejected)
  missing : ∀ route error, ring.keyForRoute route = .error error → ∀ key,
    resolver domain route = .ok key → ∀ input tag, provider.verify key input tag ≠ .ok .accepted

def tokenHeader (token : List UInt8) (maxHeaderBytes : Nat) (limits : JsonLimits) :
    Option Object := do
  let (headerSegment, _, _) ← segments token
  let headerBytes ← (Base64url.decode headerSegment maxHeaderBytes).toOption
  let header ← (parse headerBytes limits).toOption
  header.asObject

def signingInput (token : List UInt8) : Option (List UInt8) :=
  (segments token).map fun (headerSegment, payloadSegment, _) =>
    headerSegment ++ ascii '.' :: payloadSegment

variable {hmac : HmacSha256} {ring : KeyRing} {token : List UInt8} {direct : VerificationProfile}
  {profile : AuthenticationProfile} {resolver : KeyResolver} {provider : Hs256Provider}
  {header : Object} {headerBytes payloadBytes input : List UInt8} {route : TokenRoute}
  {key : KeyReference} {secret : SecretKey} {tag : Vector UInt8 32}

theorem assemble_eq (hmac : HmacSha256) (key headerBytes payloadBytes : List UInt8) :
    assemble hmac key headerBytes payloadBytes = signingInputOf headerBytes payloadBytes ++
      ascii '.' :: Base64url.encode (hmac key (signingInputOf headerBytes payloadBytes)).toList := by
  have hjoin : [Base64url.encode headerBytes, [ascii '.'], Base64url.encode payloadBytes].flatten =
      signingInputOf headerBytes payloadBytes := by simp [signingInputOf]
  rw [assemble, hmacSha256, hjoin, signingInputOf, List.append_assoc]
  rfl

theorem tokenHeader_joined {maxHeaderBytes : Nat} {limits : JsonLimits}
    (hlength : headerBytes.length ≤ maxHeaderBytes)
    (hparse : parse headerBytes limits = .ok (.object header)) :
    tokenHeader (signingInputOf headerBytes payloadBytes ++ ascii '.' ::
      Base64url.encode tag.toList) maxHeaderBytes limits = some header := by
  rw [tokenHeader, segments_joined]
  simp only [Option.bind_eq_bind, Option.bind_some, Base64url.decode_encode hlength,
    Except.toOption, hparse]
  rfl

theorem signingInput_joined (headerBytes payloadBytes : List UInt8) (tag : Vector UInt8 32) :
    signingInput (signingInputOf headerBytes payloadBytes ++ ascii '.' ::
      Base64url.encode tag.toList) = some (signingInputOf headerBytes payloadBytes) := by
  rw [signingInput, segments_joined]
  rfl

theorem length_signingInputOf (headerBytes payloadBytes : List UInt8) :
    (signingInputOf headerBytes payloadBytes).length ≤
      (headerBytes.length + payloadBytes.length) * 2 + 1 := by
  have hheader := Base64url.length_encode headerBytes
  have hpayload := Base64url.length_encode payloadBytes
  rw [signingInputOf, List.length_append, List.length_cons]
  omega

theorem signingInputOf_ne_nil (headerBytes payloadBytes : List UInt8) :
    signingInputOf headerBytes payloadBytes ≠ [] := by
  simp [signingInputOf]

theorem Serves.accepts (h : Serves hmac ring profile.domain resolver provider)
    (hresolved : resolver profile.domain route = .ok key) (hne : input ≠ [])
    (hlength : input.length ≤ maxSigningInputBytes)
    (hverified : provider.verify key input tag = .ok .accepted) :
    ∃ secret, ring.keyForRoute route = .ok secret ∧ tag = hmac secret.bytes input := by
  cases hkey : ring.keyForRoute route with
  | error error => exact absurd hverified (h.missing route error hkey key hresolved input tag)
  | ok secret =>
    obtain ⟨key', hresolved', hverify⟩ := h.held route secret hkey
    obtain rfl : key = key' := Except.ok.inj (hresolved.symm.trans hresolved')
    refine ⟨secret, rfl, ?_⟩
    have hdecision := Except.ok.inj (hverified.symm.trans (hverify input tag hne hlength))
    by_contra hother
    rw [if_neg hother] at hdecision
    cases hdecision

theorem uncritical_of_allowed (h : FieldsAllowed header direct)
    (hreject : direct.rejectUnknownHeaderFields = true) : ¬ Critical header := by
  have hmem : ∀ name ∈ header.map Prod.fst, name ∈ ["alg", "typ", "kid"] := by
    intro name hname
    obtain ⟨entry, hentry, rfl⟩ := List.mem_map.mp hname
    exact h hreject entry hentry
  rintro (hcrit | hb64)
  · exact absurd (hmem _ hcrit) (by decide)
  · exact absurd (hmem _ hb64) (by decide)

theorem Authenticated.signed (h : Authenticated token profile resolver provider route key
    headerBytes payloadBytes tag) (hsame : SameSettings direct profile)
    (hserves : Serves hmac ring profile.domain resolver provider)
    (hcritical : profile.rejectUnknownHeaderFields = true ∨
      ∀ header ∈ tokenHeader token profile.maxHeaderBytes profile.jsonLimits, ¬ Critical header) :
    ∃ secret, Signed hmac token ring direct route headerBytes payloadBytes secret := by
  obtain ⟨secret, hkey, htag⟩ := hserves.accepts h.resolved
    (signingInputOf_ne_nil headerBytes payloadBytes) h.bounded h.verified
  obtain ⟨header, hparse, hroutes⟩ := (headerRoute_ok hsame).mp h.routed
  have huncritical : ¬ Critical header := by
    rcases hcritical with hreject | huncritical
    · exact uncritical_of_allowed hroutes.fields (hsame.unknown.trans hreject)
    · refine huncritical header ?_
      rw [h.joined]
      exact tokenHeader_joined h.header.2 (hsame.json ▸ hparse)
  have hlength : headerBytes.length ≤ direct.maxHeaderBytes := hsame.header ▸ h.header.2
  refine ⟨secret, ?_, hsame.token ▸ h.short, ⟨h.header.1, hlength⟩,
    ⟨h.payload.1, hsame.payload ▸ h.payload.2⟩,
    (readHeader_ok hlength).mpr ⟨header, hparse, huncritical, hroutes⟩, hkey⟩
  rw [assemble_eq, ← htag]
  exact h.joined

theorem validate_of (hsame : SameSettings direct profile)
    (h : Signed hmac token ring direct route headerBytes payloadBytes secret) :
    profile.validate = .ok () := by
  have hheader := List.length_pos_iff.mpr h.header.1
  have hpayload := List.length_pos_iff.mpr h.payload.1
  have hheaderLength := hsame.header ▸ h.header.2
  have hpayloadLength := hsame.payload ▸ h.payload.2
  obtain ⟨hbelow, hbelow'⟩ := hsame.below
  exact require_of (by omega)

theorem authenticated_of (hsame : SameSettings direct profile)
    (hserves : Serves hmac ring profile.domain resolver provider)
    (h : Signed hmac token ring direct route headerBytes payloadBytes secret)
    (hbounded : ∀ input ∈ signingInput token, input.length ≤ maxSigningInputBytes) :
    ∃ key tag, Authenticated token profile resolver provider route key headerBytes payloadBytes
      tag := by
  obtain ⟨key, hresolved, hverify⟩ := hserves.held route secret h.keyed
  obtain ⟨header, hparse, -, hroutes⟩ := (readHeader_ok h.header.2).mp h.routed
  have hjoined := h.assembled
  rw [assemble_eq] at hjoined
  have hlength : (signingInputOf headerBytes payloadBytes).length ≤ maxSigningInputBytes := by
    refine hbounded _ ?_
    rw [hjoined]
    exact signingInput_joined headerBytes payloadBytes _
  refine ⟨key, _, validate_of hsame h, hjoined, hsame.token ▸ h.short,
    ⟨h.header.1, hsame.header ▸ h.header.2⟩, ⟨h.payload.1, hsame.payload ▸ h.payload.2⟩,
    (headerRoute_ok hsame).mpr ⟨header, hparse, hroutes⟩, hresolved, hlength, ?_⟩
  rw [hverify _ _ (signingInputOf_ne_nil headerBytes payloadBytes) hlength, if_pos rfl]

theorem direct_uncritical (h : Signed hmac token ring direct route headerBytes payloadBytes secret)
    (hheader : tokenHeader token direct.maxHeaderBytes direct.jsonLimits = some header) :
    ¬ Critical header := by
  obtain ⟨header', hparse, huncritical, -⟩ := (readHeader_ok h.header.2).mp h.routed
  rw [h.assembled, assemble_eq, tokenHeader_joined h.header.2 hparse] at hheader
  cases hheader
  exact huncritical

theorem Serves.of_software {domain : KeyDomain} {software : SoftwareHs256Provider}
    (hheld : ∀ route secret, ring.keyForRoute route = .ok secret → ∃ key material,
      resolver domain route = .ok key ∧
        software.keys.lookup (.ofReference key) = some material ∧ material.bytes = secret.bytes)
    (hmissing : ∀ route error, ring.keyForRoute route = .error error → ∀ key,
      resolver domain route = .ok key → software.keys.lookup (.ofReference key) = none) :
    Serves hmac ring domain resolver (software.provider hmac) := by
  have hverify : ∀ key input tag, (software.provider hmac).verify key input tag = (do
      let expected ← software.tag hmac key input
      return if expected = tag then .accepted else .rejected) := fun _ _ _ => rfl
  constructor
  · intro route secret hkey
    obtain ⟨key, material, hresolved, hlookup, hbytes⟩ := hheld route secret hkey
    refine ⟨key, hresolved, fun input tag hne hlength => ?_⟩
    have htag : software.tag hmac key input = .ok (hmac secret.bytes input) :=
      tag_ok.mpr ⟨⟨hne, hlength⟩, material, hlookup, by rw [hbytes]⟩
    rw [hverify, htag, ok_bind]
    simp only [eq_comm]
    rfl
  · intro route error hkey key hresolved input tag haccepted
    rw [hverify, bind_ok] at haccepted
    obtain ⟨expected, htag, -⟩ := haccepted
    obtain ⟨-, material, hlookup, -⟩ := tag_ok.mp htag
    rw [hmissing route error hkey key hresolved] at hlookup
    cases hlookup

theorem authenticators_agree (hmac : HmacSha256) (ring : KeyRing) (direct : VerificationProfile)
    (profile : AuthenticationProfile) (resolver : KeyResolver) (provider : Hs256Provider)
    (hsame : SameSettings direct profile)
    (hserves : Serves hmac ring profile.domain resolver provider) (token : List UInt8) :
    ((profile.rejectUnknownHeaderFields = true ∨
      ∀ header ∈ tokenHeader token profile.maxHeaderBytes profile.jsonLimits, ¬ Critical header) →
        ∀ route payload,
          (∃ key, authenticate token profile resolver provider = .ok ⟨route, key, payload⟩) ↔
            verifySigned hmac token ring direct = .ok (route, payload) ∧
              ∀ input ∈ signingInput token, input.length ≤ maxSigningInputBytes) ∧
    (∀ header ∈ tokenHeader token profile.maxHeaderBytes profile.jsonLimits, Critical header →
      (∀ route payload, verifySigned hmac token ring direct ≠ .ok (route, payload)) ∧
      (profile.rejectUnknownHeaderFields = true → ∀ accepted,
        authenticate token profile resolver provider ≠ .ok accepted)) := by
  refine ⟨fun hcritical route payload => ⟨?_, ?_⟩, fun header hheader hcritical => ⟨?_, ?_⟩⟩
  · rintro ⟨key, h⟩
    obtain ⟨headerBytes, tag, hauthenticated⟩ := authenticate_ok h
    obtain ⟨secret, hsigned⟩ := hauthenticated.signed hsame hserves hcritical
    refine ⟨hsigned.verifySigned, fun input hinput => ?_⟩
    rw [hauthenticated.joined, signingInput_joined] at hinput
    cases hinput
    exact hauthenticated.bounded
  · rintro ⟨h, hbounded⟩
    obtain ⟨headerBytes, secret, hsigned⟩ := verifySigned_ok h
    obtain ⟨key, tag, hauthenticated⟩ := authenticated_of hsame hserves hsigned hbounded
    exact ⟨key, hauthenticated.authenticate⟩
  · intro route payload h
    obtain ⟨headerBytes, secret, hsigned⟩ := verifySigned_ok h
    rw [← hsame.header, ← hsame.json] at hheader
    exact direct_uncritical hsigned hheader hcritical
  · rintro hreject ⟨route, key, payload⟩ h
    obtain ⟨headerBytes, tag, hauthenticated⟩ := authenticate_ok h
    obtain ⟨secret, hsigned⟩ := hauthenticated.signed hsame hserves (.inl hreject)
    rw [← hsame.header, ← hsame.json] at hheader
    exact direct_uncritical hsigned hheader hcritical

end Agreement

section Samples

def sampleReference : KeyReference := ⟨.accessToken, ⟨"software://keys/7", by decide⟩, some 7⟩

def sampleResolver : KeyResolver := fun _ route =>
  if route = .epoch 7 then .ok sampleReference else .error .unknownKey

def sampleSoftware : SoftwareHs256Provider :=
  ⟨Finmap.singleton (.ofReference sampleReference)
    ⟨List.replicate 32 0x0c, by rw [List.length_replicate]; decide⟩⟩

def sampleEpochRing : KeyRing where
  legacy := none
  epochKeys := (∅ : Dict UInt32 SecretKey).insert 7 (sampleKey 0x0c)
  activeEpoch := none
  positive := by simp [Finmap.notMem_empty]
  active := nofun

theorem sampleEpochRing_key {route : TokenRoute} {secret : SecretKey} :
    sampleEpochRing.keyForRoute route = .ok secret ↔ route = .epoch 7 ∧ secret = sampleKey 0x0c :=
  keyForRoute_sole rfl

theorem sample_serves (hmac : HmacSha256) : Serves hmac sampleEpochRing .accessToken sampleResolver
    (sampleSoftware.provider hmac) := by
  refine .of_software ?_ ?_
  · intro route secret hkey
    obtain ⟨rfl, rfl⟩ := sampleEpochRing_key.mp hkey
    exact ⟨sampleReference, _, if_pos rfl, Finmap.lookup_singleton_eq, rfl⟩
  · intro route error hkey key hresolved
    unfold sampleResolver at hresolved
    split at hresolved
    · next hroute =>
      rw [hroute, sampleEpochRing_key.mpr ⟨rfl, rfl⟩] at hkey
      cases hkey
    · cases hresolved

theorem sample_signed {hmac : HmacSha256} {direct : VerificationProfile} {payload : List UInt8}
    (hjson : direct.jsonLimits = .default) (hheader : direct.maxHeaderBytes = 1024)
    (hpayload : payload ≠ [] ∧ payload.length ≤ direct.maxPayloadBytes)
    (hshort : (JsonValue.object (headerOf (.epoch 7))).canonical.length + payload.length +
      signatureBytes < direct.maxTokenBytes / 2) :
    Signed hmac (assemble hmac (sampleKey 0x0c).bytes
      (JsonValue.object (headerOf (.epoch 7))).canonical payload) sampleEpochRing direct (.epoch 7)
        (JsonValue.object (headerOf (.epoch 7))).canonical payload (sampleKey 0x0c) := by
  have hlength := length_assemble hmac (sampleKey 0x0c).bytes
    (JsonValue.object (headerOf (.epoch 7))).canonical payload
  have hcanonical : (JsonValue.object (headerOf (.epoch 7))).canonical.length ≤
      direct.maxHeaderBytes := hheader ▸ (by decide)
  exact ⟨rfl, by omega, ⟨canonical_ne_nil _, hcanonical⟩, hpayload,
    readHeader_headerOf (hjson ▸ header_within (.inr rfl)) hcanonical (by decide : (7 : UInt32) ≠ 0),
    sampleEpochRing_key.mpr ⟨rfl, rfl⟩⟩

theorem authenticators_agree_sample : ∃ key, authenticate
    (sampleToken (.epoch 7) (sampleClaims ++ [("trnm_kep", .unsigned 7)]) 0x0c) .default
    sampleResolver (sampleSoftware.provider sampleHmac) = .ok ⟨.epoch 7, key,
      (JsonValue.object (sampleClaims ++ [("trnm_kep", .unsigned 7)])).canonical⟩ := by
  have hsame : SameSettings .default .default := ⟨rfl, rfl, rfl, by decide, rfl, rfl, rfl⟩
  have hsigned : Signed sampleHmac (sampleToken (.epoch 7)
      (sampleClaims ++ [("trnm_kep", .unsigned 7)]) 0x0c) sampleEpochRing .default (.epoch 7) _
        (JsonValue.object (sampleClaims ++ [("trnm_kep", .unsigned 7)])).canonical _ :=
    sample_signed rfl rfl ⟨canonical_ne_nil _, by decide⟩ (by decide)
  obtain ⟨hagree, -⟩ := authenticators_agree sampleHmac sampleEpochRing .default .default
    sampleResolver (sampleSoftware.provider sampleHmac) hsame (sample_serves sampleHmac)
      (sampleToken (.epoch 7) (sampleClaims ++ [("trnm_kep", .unsigned 7)]) 0x0c)
  refine (hagree (.inl rfl) _ _).mpr ⟨hsigned.verifySigned, fun input hinput => ?_⟩
  rw [hsigned.assembled, assemble_eq, signingInput_joined] at hinput
  cases hinput
  exact (length_signingInputOf _ _).trans (by decide)

def wideProfile : VerificationProfile :=
  { VerificationProfile.default with
    maxTokenBytes := 64 * 1024
    maxPayloadBytes := 32 * 1024
    rejectUnknownHeaderFields := false }

def wideSettings : AuthenticationProfile :=
  { AuthenticationProfile.default with
    maxTokenBytes := 64 * 1024
    maxPayloadBytes := 32 * 1024
    rejectUnknownHeaderFields := false }

def criticalHeader : Object := [("alg", .string "HS256"), ("crit", .array [.string "exp"]),
  ("kid", .string "trnm-kep-v1:7"), ("typ", .string "JWT")]

def wideHmac : HmacSha256 := fun _ input =>
  if 1000 < input.length then
    #v[70, 178, 23, 90, 220, 180, 96, 132, 146, 81, 231, 175, 23, 32, 112, 148, 163, 23, 189, 148,
      155, 215, 196, 247, 9, 76, 36, 55, 204, 29, 113, 180]
  else
    #v[60, 193, 118, 21, 94, 73, 12, 24, 28, 10, 227, 182, 251, 225, 71, 6, 80, 31, 138, 87, 117,
      251, 175, 203, 54, 0, 201, 38, 91, 112, 80, 66]

def longToken : List UInt8 := assemble wideHmac (sampleKey 0x0c).bytes
  (JsonValue.object (headerOf (.epoch 7))).canonical (List.replicate 24576 0)

def criticalToken : List UInt8 := assemble wideHmac (sampleKey 0x0c).bytes
  (JsonValue.object criticalHeader).canonical [ascii '{', ascii '}']

theorem longToken_refused (accepted : AuthenticatedJwt) : authenticate longToken wideSettings
    sampleResolver (sampleSoftware.provider wideHmac) ≠ .ok accepted := by
  obtain ⟨route, key, payloadBytes⟩ := accepted
  intro h
  obtain ⟨headerBytes, tag, hauthenticated⟩ := authenticate_ok h
  have hbounded := hauthenticated.bounded
  have hinput := signingInput_joined headerBytes payloadBytes tag
  rw [← hauthenticated.joined, longToken, assemble_eq, signingInput_joined] at hinput
  rw [← Option.some.inj hinput] at hbounded
  have hlong (header : List UInt8) {payload : List UInt8} (hlength : payload.length = 24576) :
      maxSigningInputBytes < (signingInputOf header payload).length := by
    have hpayload := (Base64url.length_sextets payload).2
    have hencode : (Base64url.encode payload).length = (Base64url.sextets payload).length :=
      List.length_map _
    have hlimit : maxSigningInputBytes = 32768 := rfl
    rw [signingInputOf, List.length_append, List.length_cons]
    unfold Base64url.decodedLength at hpayload
    omega
  exact absurd hbounded (Nat.not_le.mpr (hlong _ List.length_replicate))

theorem criticalToken_parsed : parse (JsonValue.object criticalHeader).canonical
    wideProfile.jsonLimits = .ok (.object criticalHeader) := by rfl

theorem criticalToken_accepted : ∃ key, authenticate criticalToken wideSettings sampleResolver
    (sampleSoftware.provider wideHmac) = .ok ⟨.epoch 7, key, [ascii '{', ascii '}']⟩ := by
  have hsame : SameSettings wideProfile wideSettings := ⟨rfl, rfl, rfl, by decide, rfl, rfl, rfl⟩
  have hroutes : Routes criticalHeader wideProfile (.epoch 7) := by
    refine ⟨nofun, rfl, ?_, rfl⟩
    rintro value ⟨⟩
    rfl
  have hlength := length_assemble wideHmac (sampleKey 0x0c).bytes
    (JsonValue.object criticalHeader).canonical [ascii '{', ascii '}']
  have hheader : (JsonValue.object criticalHeader).canonical.length ≤ 100 := by decide
  obtain ⟨key, hresolved, hverify⟩ := (sample_serves wideHmac).held (.epoch 7) (sampleKey 0x0c)
    (sampleEpochRing_key.mpr ⟨rfl, rfl⟩)
  have hbounded : (signingInputOf (JsonValue.object criticalHeader).canonical
      [ascii '{', ascii '}']).length ≤ maxSigningInputBytes :=
    (length_signingInputOf _ _).trans (by decide)
  have hauthenticated : Authenticated criticalToken wideSettings sampleResolver
      (sampleSoftware.provider wideHmac) (.epoch 7) key (JsonValue.object criticalHeader).canonical
      [ascii '{', ascii '}'] (wideHmac (sampleKey 0x0c).bytes (signingInputOf
        (JsonValue.object criticalHeader).canonical [ascii '{', ascii '}'])) := by
    refine ⟨rfl, assemble_eq _ _ _ _, hlength.trans (by decide), ⟨canonical_ne_nil _,
      hheader.trans (by decide)⟩, ⟨by simp, by decide⟩,
      (headerRoute_ok hsame).mpr ⟨_, criticalToken_parsed, hroutes⟩, hresolved, hbounded, ?_⟩
    rw [hverify _ _ (signingInputOf_ne_nil _ _) hbounded, if_pos rfl]
  exact ⟨key, hauthenticated.authenticate⟩

theorem criticalToken_refused (route : TokenRoute) (payload : List UInt8) :
    verifySigned wideHmac criticalToken sampleEpochRing wideProfile ≠ .ok (route, payload) := by
  intro h
  obtain ⟨headerBytes, secret, hsigned⟩ := verifySigned_ok h
  refine direct_uncritical hsigned ?_ (show Critical criticalHeader from .inl (by decide))
  rw [criticalToken, assemble_eq]
  exact tokenHeader_joined (by decide) criticalToken_parsed

theorem authenticators_differ :
    SameSettings wideProfile wideSettings ∧
    Serves wideHmac sampleEpochRing wideSettings.domain sampleResolver
      (sampleSoftware.provider wideHmac) ∧
    verifySigned wideHmac longToken sampleEpochRing wideProfile =
      .ok (.epoch 7, List.replicate 24576 0) ∧
    (∀ accepted, authenticate longToken wideSettings sampleResolver
      (sampleSoftware.provider wideHmac) ≠ .ok accepted) ∧
    (∃ key, authenticate criticalToken wideSettings sampleResolver
      (sampleSoftware.provider wideHmac) = .ok ⟨.epoch 7, key, [ascii '{', ascii '}']⟩) ∧
    ∀ route payload, verifySigned wideHmac criticalToken sampleEpochRing wideProfile ≠
      .ok (route, payload) := by
  have hlong : Signed wideHmac longToken sampleEpochRing wideProfile (.epoch 7)
      (JsonValue.object (headerOf (.epoch 7))).canonical (List.replicate 24576 0)
        (sampleKey 0x0c) := by
    refine sample_signed rfl rfl ⟨?_, ?_⟩ ?_
    · rw [← List.length_pos_iff, List.length_replicate]
      decide
    · rw [List.length_replicate]
      decide
    · rw [List.length_replicate]
      decide
  exact ⟨⟨rfl, rfl, rfl, by decide, rfl, rfl, rfl⟩, sample_serves wideHmac, hlong.verifySigned,
    longToken_refused, criticalToken_accepted, criticalToken_refused⟩

end Samples

end JwtProvider
