import TrillionniumGame.TokenJwt.SignedTokens

namespace TokenJwt
open Checks Entries FiniteMap GoText
open GoJson (decimal)

variable {hmac : HmacSha256} {token : List UInt8} {ring : KeyRing} {profile : VerificationProfile}
  {route : TokenRoute} {object signed : Object} {key : SecretKey} {now : Int64}
  {validated : ValidatedClaims} {headerBytes payloadBytes : List UInt8}

section Header

theorem headerOf_epoch (epoch : UInt32) : headerOf (.epoch epoch) =
    [("alg", .string "HS256"), ("kid", .string (String.ofList (keyIdOf epoch))),
      ("typ", .string "JWT")] := rfl

theorem headerOf_sorted (route : TokenRoute) : (JsonValue.object (headerOf route)).Sorted := by
  cases route with
  | legacy =>
    refine .object (List.pairwise_pair.mpr (by decide)) ?_
    simp [headerOf, JsonValue.Sorted.string]
  | epoch epoch =>
    rw [headerOf_epoch]
    refine .object ?_ (by simp [JsonValue.Sorted.string])
    refine .cons ?_ (List.pairwise_pair.mpr (show "kid" < "typ" by decide))
    simp only [List.forall_mem_cons]
    exact ⟨show "alg" < "kid" by decide, show "alg" < "typ" by decide, nofun⟩

theorem headerOf_normal (route : TokenRoute) :
    (JsonValue.object (headerOf route)).normal = .object (headerOf route) := by
  cases route with
  | legacy => rfl
  | epoch epoch => rfl

def Routable (profile : VerificationProfile) : TokenRoute → Prop
  | .legacy => profile.allowLegacyWithoutKeyId = true
  | .epoch epoch => epoch ≠ 0

theorem parseRoute_headerOf (h : Routable profile route) :
    parseRoute (headerOf route) profile = .ok route := by
  cases route with
  | legacy => exact if_pos h
  | epoch epoch =>
    have hkey : keyIdEpoch (String.ofList (keyIdOf epoch)) = some epoch :=
      keyIdEpoch_some.mpr ⟨String.toList_ofList, h⟩
    rw [headerOf_epoch, parseRoute, show List.lookup "kid" [("alg", JsonValue.string "HS256"),
      ("kid", .string (String.ofList (keyIdOf epoch))), ("typ", .string "JWT")] =
        some (.string (String.ofList (keyIdOf epoch))) from rfl]
    dsimp only
    rw [hkey]
    rfl

theorem routes_headerOf (h : Routable profile route) :
    Routes (headerOf route) profile route ∧ ¬ Critical (headerOf route) := by
  have hroute := parseRoute_headerOf h
  cases route with
  | legacy =>
    refine ⟨⟨fun _ => ?_, rfl, ?_, hroute⟩, by simp [Critical, headerOf]⟩
    · simp [headerOf]
    · rintro value ⟨⟩
      rfl
  | epoch epoch =>
    refine ⟨⟨fun _ => ?_, rfl, ?_, hroute⟩, by simp [Critical, headerOf_epoch]⟩
    · simp [headerOf_epoch]
    · rintro value ⟨⟩
      rfl

theorem readHeader_headerOf (hlimits : WithinLimits profile.jsonLimits (.object (headerOf route)))
    (hlength : (JsonValue.object (headerOf route)).canonical.length ≤ profile.maxHeaderBytes)
    (hroute : Routable profile route) :
    readHeader (JsonValue.object (headerOf route)).canonical profile = .ok route := by
  have hparse := parse_canonical (headerOf_sorted route) hlimits
  rw [headerOf_normal] at hparse
  obtain ⟨hroutes, hcritical⟩ := routes_headerOf hroute
  exact (readHeader_ok hlength).mpr ⟨headerOf route, hparse, hcritical, hroutes⟩

end Header

theorem keyForRoute_sole {epoch : UInt32} {secret : SecretKey}
    (h : KeyRing.new.insertEpochKey epoch key = .ok ring) :
    ring.keyForRoute route = .ok secret ↔ route = .epoch epoch ∧ secret = key := by
  unfold KeyRing.insertEpochKey at h
  split at h
  · cases h
  · cases h
    cases route with
    | legacy => simp [KeyRing.keyForRoute, KeyRing.new, fetch_ok]
    | epoch other =>
      simp only [KeyRing.keyForRoute, KeyRing.new, fetch_ok, lookup_insert_ite,
        TokenRoute.epoch.injEq]
      split
      · next heq => simp [heq, eq_comm]
      · next hne => simp [hne]

section Issuing

theorem canonical_ne_nil (v : JsonValue) : v.canonical ≠ [] := by
  obtain ⟨byte, tail, hcons, -⟩ := canonical_opens v
  rw [hcons]
  exact List.cons_ne_nil byte tail

variable {claims : JsonValue}

theorem issueWithRoute_signed (h : issueWithRoute hmac claims route key profile = .ok token)
    (hlimits : WithinLimits profile.jsonLimits (.object (headerOf route)))
    (hroute : Routable profile route) (hkey : ring.keyForRoute route = .ok key) :
    Signed hmac token ring profile route (JsonValue.object (headerOf route)).canonical
      claims.canonical key := by
  simp only [issueWithRoute, toCanonicalBytes_eq, bind_ok, mapError_ok, require_ok] at h
  obtain ⟨headerBytes, hheader, payloadBytes, hpayload, -, hshort, h⟩ := h
  split at hheader
  · next hheaderLength =>
    split at hpayload
    · next hpayloadLength =>
      cases hheader
      cases hpayload
      cases h
      exact ⟨rfl, hshort, ⟨canonical_ne_nil _, hheaderLength⟩, ⟨canonical_ne_nil _, hpayloadLength⟩,
        readHeader_headerOf hlimits hheaderLength hroute, hkey⟩
    · cases hpayload
  · cases hheader

theorem Signed.verify (h : Signed hmac token ring profile route headerBytes payloadBytes key)
    (hprofile : profile.validate = .ok ())
    (hparse : parse payloadBytes profile.jsonLimits = .ok (.object object))
    (hclaims : validateClaims object route profile now = .ok validated) :
    verify hmac token ring profile now = .ok ⟨validated, route, .object object⟩ := by
  simp only [TokenJwt.verify, bind_ok, mapError_ok, fetch_ok]
  exact ⟨(), hprofile, _, h.verifySigned, .object object, hparse, object, rfl, validated, hclaims,
    rfl⟩

theorem issued_verifies (hprofile : profile.validate = .ok ())
    (hissued : issueWithRoute hmac (.object signed) route key profile = .ok token)
    (hheader : WithinLimits profile.jsonLimits (.object (headerOf route)))
    (hroute : Routable profile route) (hkey : ring.keyForRoute route = .ok key)
    (hsorted : (JsonValue.object signed).Sorted)
    (hpayload : WithinLimits profile.jsonLimits (.object signed))
    (hclaims : validateClaims signed route profile now = .ok validated) :
    verify hmac token ring profile now =
      .ok ⟨validated, route, .object (normalFields signed)⟩ :=
  (issueWithRoute_signed hissued hheader hroute hkey).verify hprofile
    (parse_canonical hsorted hpayload) ((validateClaims_normal signed profile route now).trans hclaims)

theorem issueLegacy_ok (h : issueLegacy hmac claims key profile = .ok token) :
    profile.validate = .ok () ∧ (∃ object, claims = .object object) ∧
      issueWithRoute hmac claims .legacy key profile = .ok token := by
  simp only [issueLegacy, bind_ok, fetch_ok, asObject_some] at h
  obtain ⟨_, hprofile, object, hobject, -, -, h⟩ := h
  exact ⟨hprofile, ⟨object, hobject⟩, h⟩

variable {epoch : UInt32}

theorem issueEpoch_ok (h : issueEpoch hmac (.object object) epoch key profile = .ok token) :
    profile.validate = .ok () ∧ epoch ≠ 0 ∧ ∃ signed,
      claimsForEpoch object epoch profile = .ok signed ∧
        issueWithRoute hmac (.object signed) (.epoch epoch) key profile = .ok token := by
  simp only [issueEpoch, bind_ok, fetch_ok, require_ok, asObject_some] at h
  obtain ⟨_, hprofile, -, hepoch, object', hobject, signed, hsigned, h⟩ := h
  cases hobject
  exact ⟨hprofile, hepoch, signed, hsigned, h⟩

theorem claimsForEpoch_sorted (h : claimsForEpoch object epoch profile = .ok signed)
    (hsorted : (JsonValue.object object).Sorted) : (JsonValue.object signed).Sorted := by
  unfold claimsForEpoch at h
  split at h
  · simp only [bind_ok] at h
    obtain ⟨-, -, h⟩ := h
    cases h
    exact hsorted
  · cases h
    cases hsorted with
    | object hascending hvalues =>
      refine .object (hascending.insertEntry _ _) fun entry hentry => ?_
      rcases mem_insertEntry hentry with rfl | hold
      · exact .unsigned _
      · exact hvalues entry hold

theorem length_assemble (hmac : HmacSha256) (key headerBytes payloadBytes : List UInt8) :
    (assemble hmac key headerBytes payloadBytes).length ≤
      (headerBytes.length + payloadBytes.length + signatureBytes + 1) * 2 := by
  have hheader := Base64url.length_encode headerBytes
  have hpayload := Base64url.length_encode payloadBytes
  have htag := Base64url.length_encode (hmacSha256 hmac key [Base64url.encode headerBytes,
    [ascii '.'], Base64url.encode payloadBytes]).toList
  rw [length_tag] at htag
  simp only [assemble, List.length_append, List.length_cons]
  omega

theorem issueWithRoute_of
    (hheader : (JsonValue.object (headerOf route)).canonical.length ≤ profile.maxHeaderBytes)
    (hpayload : claims.canonical.length ≤ profile.maxPayloadBytes)
    (hshort : ((JsonValue.object (headerOf route)).canonical.length + claims.canonical.length +
      signatureBytes + 1) * 2 ≤ profile.maxTokenBytes) :
    issueWithRoute hmac claims route key profile = .ok (assemble hmac key.bytes
      (JsonValue.object (headerOf route)).canonical claims.canonical) := by
  simp only [issueWithRoute, toCanonicalBytes_eq, if_pos hheader, if_pos hpayload, bind_ok,
    mapError_ok, require_ok]
  exact ⟨_, rfl, _, rfl, (), (length_assemble hmac key.bytes _ _).trans hshort, rfl⟩

theorem issueLegacy_of (hprofile : profile.validate = .ok ())
    (hfree : profile.claims.keyEpoch ∉ object.map Prod.fst)
    (hissued : issueWithRoute hmac (.object object) .legacy key profile = .ok token) :
    issueLegacy hmac (.object object) key profile = .ok token := by
  rw [issueLegacy, hprofile, ok_bind, JsonValue.asObject, fetch, Option.elim_some, ok_bind,
    require_of hfree, ok_bind, hissued]

theorem issueEpoch_of (hprofile : profile.validate = .ok ()) (hepoch : epoch ≠ 0)
    (hsigned : claimsForEpoch object epoch profile = .ok signed)
    (hissued : issueWithRoute hmac (.object signed) (.epoch epoch) key profile = .ok token) :
    issueEpoch hmac (.object object) epoch key profile = .ok token := by
  rw [issueEpoch, hprofile, ok_bind, require_of hepoch, ok_bind, JsonValue.asObject, fetch,
    Option.elim_some, ok_bind, hsigned, ok_bind, hissued]

end Issuing

end TokenJwt
