import TrillionniumGame.TokenJwt.IssuedTokens

namespace TokenJwt
open Checks Entries FiniteMap GoText
open GoJson (decimal)

def RouteNamed (header : Object) (ring : KeyRing) (key : SecretKey) : TokenRoute → Prop
  | .legacy => header.lookup "kid" = none ∧ ring.legacy = some key
  | .epoch epoch =>
    (∃ keyId : String, header.lookup "kid" = some (.string keyId) ∧
      keyId.toList = epochKeyIdPrefix ++ decimal epoch.toNat) ∧
    ring.epochKeys.lookup epoch = some key

def EpochClaimed (claims : Object) (profile : VerificationProfile) : TokenRoute → Prop
  | .legacy => claims.lookup profile.claims.keyEpoch = none
  | .epoch epoch =>
    (claims.lookup profile.claims.keyEpoch = none → profile.requireEpochClaim = false) ∧
    ∀ value ∈ claims.lookup profile.claims.keyEpoch, value.asU64 = some epoch.toUInt64

def DateIn (claims : Object) (name : String) (within : Int → Prop) : Prop :=
  ∀ value ∈ claims.lookup name, ∃ date, value.asI64 = some date ∧ 0 ≤ date.toInt ∧
    within date.toInt

structure InWindow (claims : Object) (profile : VerificationProfile) (now : Int64) : Prop where
  expires : DateIn claims "exp" fun date => now.toInt < date + profile.clockSkewSeconds.toInt
  starts : DateIn claims "nbf" fun date => date ≤ now.toInt + profile.clockSkewSeconds.toInt
  issued : DateIn claims "iat" fun date => date ≤ now.toInt + profile.clockSkewSeconds.toInt
  required : (profile.requireExpiration = true → claims.lookup "exp" ≠ none) ∧
    (profile.requireIssuedAt = true → claims.lookup "iat" ≠ none)
  sums : ∀ date : Int64, (i128 date + i128 profile.clockSkewSeconds).toInt =
    date.toInt + profile.clockSkewSeconds.toInt
  lifetime : ∀ value ∈ claims.lookup "exp", ∀ value' ∈ claims.lookup "iat",
    ∀ expires ∈ value.asI64, ∀ issued ∈ value'.asI64, ∀ limit ∈ profile.maxLifetimeSeconds,
      (expires - issued).toInt = expires.toInt - issued.toInt ∧
        0 < expires.toInt - issued.toInt ∧ expires.toInt - issued.toInt ≤ limit.toNat

structure Authentic (hmac : HmacSha256) (token : List UInt8) (ring : KeyRing)
    (profile : VerificationProfile) (now : Int64) (verified : VerifiedToken)
    (headerBytes payloadBytes : List UInt8) (header claims : Object) (key : SecretKey) :
    Prop where
  segments : token.splitOn (ascii '.') = [Base64url.encode headerBytes,
    Base64url.encode payloadBytes, Base64url.encode (hmac key.bytes
      (Base64url.encode headerBytes ++ ascii '.' :: Base64url.encode payloadBytes)).toList]
  nonempty : ∀ segment ∈ token.splitOn (ascii '.'), segment ≠ []
  parsed : parse headerBytes profile.jsonLimits = .ok (.object header)
  route : RouteNamed header ring key verified.route
  decoded : parse payloadBytes profile.jsonLimits = .ok (.object claims)
  returned : verified.claims = .object claims
  epoch : EpochClaimed claims profile verified.route
  window : InWindow claims profile now

section

variable {hmac : HmacSha256} {token : List UInt8} {ring : KeyRing} {profile : VerificationProfile}
  {route : TokenRoute} {header claims : Object} {key : SecretKey} {now : Int64}
  {validated : ValidatedClaims} {verified : VerifiedToken} {headerBytes payloadBytes : List UInt8}

theorem routeNamed_of (hroute : parseRoute header profile = .ok route)
    (hkey : ring.keyForRoute route = .ok key) : RouteNamed header ring key route := by
  unfold parseRoute at hroute
  split at hroute
  · next hnone =>
    split at hroute
    · cases hroute
      exact ⟨hnone, fetch_ok.mp hkey⟩
    · cases hroute
  · next keyId hlookup =>
    obtain ⟨epoch, hepoch, rfl⟩ := map_ok.mp hroute
    obtain ⟨htext, -⟩ := keyIdEpoch_some.mp (fetch_ok.mp hepoch)
    exact ⟨⟨keyId, hlookup, htext⟩, fetch_ok.mp hkey⟩
  · cases hroute

theorem epochClaimed_of {u : Unit} (h : validateEpochClaim claims route profile = .ok u) :
    EpochClaimed claims profile route := by
  unfold validateEpochClaim at h
  cases route with
  | legacy =>
    cases hlookup : claims.lookup profile.claims.keyEpoch with
    | none => exact hlookup
    | some value =>
      rw [hlookup] at h
      cases h
  | epoch epoch =>
    cases hlookup : claims.lookup profile.claims.keyEpoch with
    | none =>
      rw [hlookup] at h
      refine ⟨fun _ => require_ok.mp h, fun value hvalue => ?_⟩
      rw [hlookup] at hvalue
      cases hvalue
    | some value =>
      rw [hlookup] at h
      simp only [epochClaimValue, bind_ok, fetch_ok, require_ok] at h
      obtain ⟨payload, hpayload, rfl⟩ := h
      refine ⟨fun hnone => ?_, fun value' hvalue => ?_⟩
      · rw [hlookup] at hnone
        cases hnone
      · rw [hlookup] at hvalue
        cases hvalue
        exact hpayload

variable {name : String} {required : Bool} {found : Option Int64}

theorem dateIn_of {within : Int → Prop} (h : numericDate claims name required = .ok found)
    (hwithin : ∀ date ∈ found, within date.toInt) : DateIn claims name within := by
  intro value hvalue
  cases found with
  | none =>
    rw [(numericDate_none.mp h).1] at hvalue
    cases hvalue
  | some date =>
    obtain ⟨value', hlookup, hdate, hpos⟩ := numericDate_some.mp h
    rw [hlookup] at hvalue
    cases hvalue
    exact ⟨date, hdate, hpos, hwithin date rfl⟩

theorem numericDate_mem {value : JsonValue} {date : Int64}
    (h : numericDate claims name required = .ok found) (hvalue : value ∈ claims.lookup name)
    (hdate : date ∈ value.asI64) : date ∈ found := by
  cases found with
  | none =>
    rw [(numericDate_none.mp h).1] at hvalue
    cases hvalue
  | some other =>
    obtain ⟨value', hlookup, hother, -⟩ := numericDate_some.mp h
    rw [hlookup] at hvalue
    cases hvalue
    rw [hother] at hdate
    exact hdate

theorem numericDate_required (h : numericDate claims name true = .ok found) :
    claims.lookup name ≠ none := by
  intro hnone
  rw [numericDate, hnone] at h
  cases h

theorem inWindow_of (h : validateClaims claims route profile now = .ok validated) :
    InWindow claims profile now := by
  simp only [validateClaims, bind_ok] at h
  obtain ⟨-, -, subject, -, username, -, tokenId, -, vars, -, expiresAt, hexpires, issuedAt,
    hissued, notBefore, hnotBefore, _, hwindow, -⟩ := h
  have hexpiresPos := numericDate_nonneg hexpires
  have hissuedPos := numericDate_nonneg hissued
  obtain ⟨hbefore, hstarted, hpast, hlifetime⟩ :=
    (validateWindow_ok hexpiresPos hissuedPos).mp hwindow
  refine ⟨dateIn_of hexpires hbefore, dateIn_of hnotBefore hstarted, dateIn_of hissued hpast,
    ⟨fun hrequired => ?_, fun hrequired => ?_⟩, fun date => i128_add date _, ?_⟩
  · exact numericDate_required (hrequired ▸ hexpires)
  · exact numericDate_required (hrequired ▸ hissued)
  · intro value hvalue value' hvalue' expires hdate issued hdate' limit hlimit
    have hmem := numericDate_mem hexpires hvalue hdate
    have hmem' := numericDate_mem hissued hvalue' hdate'
    obtain ⟨horder, hshort⟩ := hlifetime issued hmem' expires hmem limit hlimit
    exact ⟨sub_toInt (hexpiresPos expires hmem) (hissuedPos issued hmem'), by omega, hshort⟩

theorem verify_signed (h : verify hmac token ring profile now = .ok verified) :
    ∃ headerBytes payloadBytes key claims,
      Signed hmac token ring profile verified.route headerBytes payloadBytes key ∧
        parse payloadBytes profile.jsonLimits = .ok (.object claims) ∧
          verified.claims = .object claims ∧
            validateClaims claims verified.route profile now = .ok verified.toValidatedClaims := by
  simp only [verify, bind_ok, mapError_ok, fetch_ok, asObject_some] at h
  obtain ⟨-, -, ⟨route, payloadBytes⟩, hsigned, _, hparse, claims, rfl, validated, hclaims, h⟩ := h
  cases h
  obtain ⟨headerBytes, key, hsigned⟩ := verifySigned_ok hsigned
  exact ⟨headerBytes, payloadBytes, key, claims, hsigned, hparse, rfl, hclaims⟩

theorem validateClaims_epoch (h : validateClaims claims route profile now = .ok validated) :
    EpochClaimed claims profile route := by
  simp only [validateClaims, bind_ok] at h
  obtain ⟨_, hepoch, -⟩ := h
  exact epochClaimed_of hepoch

theorem splitOn_assemble (hmac : HmacSha256) (key headerBytes payloadBytes : List UInt8) :
    (assemble hmac key headerBytes payloadBytes).splitOn (ascii '.') =
      [Base64url.encode headerBytes, Base64url.encode payloadBytes, Base64url.encode
        (hmac key (Base64url.encode headerBytes ++ ascii '.' ::
          Base64url.encode payloadBytes)).toList] := by
  have hjoin : [Base64url.encode headerBytes, [ascii '.'], Base64url.encode payloadBytes].flatten =
      Base64url.encode headerBytes ++ ascii '.' :: Base64url.encode payloadBytes := by simp
  rw [assemble, List.splitOn_append_cons_self_of_not_mem (dot_notMem_encode _),
    List.splitOn_append_cons_self_of_not_mem (dot_notMem_encode _),
    List.splitOn_eq_singleton (dot_notMem_encode _), hmacSha256, hjoin]

theorem encode_ne_nil {bytes : List UInt8} (h : bytes ≠ []) : Base64url.encode bytes ≠ [] :=
  fun hnil => h (Base64url.encode_eq_nil.mp hnil)

theorem verify_authentic (h : verify hmac token ring profile now = .ok verified) :
    ∃ headerBytes payloadBytes header claims key,
      Authentic hmac token ring profile now verified headerBytes payloadBytes header claims key := by
  obtain ⟨headerBytes, payloadBytes, key, claims, hsigned, hpayload, hverified, hclaims⟩ :=
    verify_signed h
  obtain ⟨header, hheader, -, hroutes⟩ := (readHeader_ok hsigned.header.2).mp hsigned.routed
  have hsplit := splitOn_assemble hmac key.bytes headerBytes payloadBytes
  rw [← hsigned.assembled] at hsplit
  refine ⟨headerBytes, payloadBytes, header, claims, key, hsplit, ?_, hheader,
    routeNamed_of hroutes.route hsigned.keyed, hpayload, hverified, validateClaims_epoch hclaims,
    inWindow_of hclaims⟩
  rw [hsplit]
  simp only [List.forall_mem_cons]
  refine ⟨encode_ne_nil hsigned.header.1, encode_ne_nil hsigned.payload.1, encode_ne_nil ?_, nofun⟩
  intro hnil
  have hlength := congrArg List.length hnil
  rw [length_tag] at hlength
  cases hlength

theorem accepted_unique {token' payload payload' headerSegment payloadSegment signature signature'
      : List UInt8} {route' : TokenRoute}
    (h : verifySigned hmac token ring profile = .ok (route, payload))
    (h' : verifySigned hmac token' ring profile = .ok (route', payload'))
    (hsegments : segments token = some (headerSegment, payloadSegment, signature))
    (hsegments' : segments token' = some (headerSegment, payloadSegment, signature')) :
    token = token' := by
  obtain ⟨headerBytes, key, hsigned⟩ := verifySigned_ok h
  obtain ⟨headerBytes', key', hsigned'⟩ := verifySigned_ok h'
  rw [hsigned.assembled, segments_assemble] at hsegments
  rw [hsigned'.assembled, segments_assemble] at hsegments'
  simp only [Option.some.injEq, Prod.mk.injEq] at hsegments hsegments'
  obtain rfl : headerBytes = headerBytes' :=
    Base64url.encode_inj (hsegments.1.trans hsegments'.1.symm)
  obtain rfl : payload = payload' :=
    Base64url.encode_inj (hsegments.2.1.trans hsegments'.2.1.symm)
  obtain rfl : route = route' := Except.ok.inj (hsigned.routed.symm.trans hsigned'.routed)
  obtain rfl : key = key' := Except.ok.inj (hsigned.keyed.symm.trans hsigned'.keyed)
  rw [hsigned.assembled, hsigned'.assembled]

end

theorem jwt_authenticity (hmac : HmacSha256) (ring : KeyRing) (profile : VerificationProfile) :
    (∀ object key token now validated, (JsonValue.object object).Sorted →
      ring.legacy = some key → issueLegacy hmac (.object object) key profile = .ok token →
      WithinLimits profile.jsonLimits (.object (headerOf .legacy)) →
      WithinLimits profile.jsonLimits (.object object) →
      profile.allowLegacyWithoutKeyId = true →
      validateClaims object .legacy profile now = .ok validated →
        verify hmac token ring profile now =
          .ok ⟨validated, .legacy, .object (normalFields object)⟩) ∧
    (∀ object epoch key token signed now validated, (JsonValue.object object).Sorted →
      ring.epochKeys.lookup epoch = some key →
      issueEpoch hmac (.object object) epoch key profile = .ok token →
      claimsForEpoch object epoch profile = .ok signed →
      WithinLimits profile.jsonLimits (.object (headerOf (.epoch epoch))) →
      WithinLimits profile.jsonLimits (.object signed) →
      validateClaims signed (.epoch epoch) profile now = .ok validated →
        verify hmac token ring profile now =
          .ok ⟨validated, .epoch epoch, .object (normalFields signed)⟩) ∧
    (∀ token now verified, verify hmac token ring profile now = .ok verified →
      ∃ headerBytes payloadBytes header claims key, Authentic hmac token ring profile now verified
        headerBytes payloadBytes header claims key) ∧
    (∀ token token' now now' verified verified' header payload signature signature',
      verify hmac token ring profile now = .ok verified →
      verify hmac token' ring profile now' = .ok verified' →
      segments token = some (header, payload, signature) →
      segments token' = some (header, payload, signature') → token = token') := by
  refine ⟨?_, ?_, fun token now verified => verify_authentic, ?_⟩
  · intro object key token now validated hsorted hkey hissued hheader hpayload hallowed hclaims
    obtain ⟨hprofile, -, hissued⟩ := issueLegacy_ok hissued
    exact issued_verifies hprofile hissued hheader hallowed (fetch_ok.mpr hkey) hsorted hpayload
      hclaims
  · intro object epoch key token signed now validated hsorted hkey hissued hsigned hheader hpayload
      hclaims
    obtain ⟨hprofile, hepoch, signed', hsigned', hissued⟩ := issueEpoch_ok hissued
    obtain rfl : signed = signed' := Except.ok.inj (hsigned.symm.trans hsigned')
    exact issued_verifies hprofile hissued hheader hepoch (fetch_ok.mpr hkey)
      (claimsForEpoch_sorted hsigned hsorted) hpayload hclaims
  · intro token token' now now' verified verified' header payload signature signature' h h'
      hsegments hsegments'
    obtain ⟨_, _, _, _, hsigned, -⟩ := verify_signed h
    obtain ⟨_, _, _, _, hsigned', -⟩ := verify_signed h'
    exact accepted_unique hsigned.verifySigned hsigned'.verifySigned hsegments hsegments'

def sampleKey (byte : UInt8) : SecretKey :=
  ⟨List.replicate 32 byte, by rw [List.length_replicate]; decide⟩

def sampleRing : KeyRing where
  legacy := some (sampleKey 0x0b)
  epochKeys := Finmap.singleton 7 (sampleKey 0x0c)
  activeEpoch := some 7
  positive := by simp
  active := by simp

def sampleClaims : Object := [("exp", .integer 2000), ("iat", .integer 1000), ("sub", .string "a")]

def sampleHmac : HmacSha256 := fun key _ =>
  if key = (sampleKey 0x0b).bytes then
    #v[19, 99, 161, 157, 192, 14, 139, 191, 155, 2, 153, 99, 84, 191, 115, 128, 90, 185, 112, 69,
      27, 185, 0, 173, 89, 201, 26, 93, 232, 216, 3, 110]
  else
    #v[113, 118, 3, 125, 74, 82, 54, 62, 214, 146, 234, 16, 189, 172, 142, 25, 120, 57, 65, 223, 7,
      228, 5, 78, 43, 55, 30, 148, 162, 210, 51, 148]

def sampleToken (route : TokenRoute) (claims : Object) (byte : UInt8) : List UInt8 :=
  assemble sampleHmac (sampleKey byte).bytes (JsonValue.object (headerOf route)).canonical
    (JsonValue.object claims).canonical

theorem sample_within {claims : Object} (h : claims = sampleClaims ∨
    claims = sampleClaims ++ [("trnm_kep", .unsigned 7)]) :
    (JsonValue.object claims).Sorted ∧ WithinLimits .default (.object claims) := by
  have hleaf : ∀ entry ∈ sampleClaims ++ [("trnm_kep", .unsigned 7)],
      ShortString .default entry.1 ∧ entry.2.Sorted ∧ Fits .default entry.2 := by
    simp only [sampleClaims, List.cons_append, List.nil_append, List.forall_mem_cons]
    exact ⟨⟨by decide, .integer _, .integer _⟩, ⟨by decide, .integer _, .integer _⟩,
      ⟨by decide, .string _, .string (by decide)⟩, ⟨by decide, .unsigned _, .unsigned _⟩, nofun⟩
  have hascending : Ascending (sampleClaims ++ [("trnm_kep", .unsigned 7)]) := by
    simp only [sampleClaims, List.cons_append, List.nil_append, Ascending, List.pairwise_cons,
      List.forall_mem_cons]
    decide
  have hpart : claims.Sublist (sampleClaims ++ [("trnm_kep", .unsigned 7)]) := by
    rcases h with rfl | rfl
    · exact List.sublist_append_left _ _
    · exact .refl _
  have hentry := fun entry hentry => hleaf entry (hpart.subset hentry)
  refine ⟨.object (hascending.sublist hpart) fun entry he => (hentry entry he).2.1, ?_, ?_,
    .object (hpart.length_le.trans (by decide)) (fun entry he => (hentry entry he).1)
      fun entry he => (hentry entry he).2.2⟩
  · rcases h with rfl | rfl <;> decide
  · rcases h with rfl | rfl <;> decide

theorem header_within {route : TokenRoute} (h : route = .legacy ∨ route = .epoch 7) :
    WithinLimits .default (.object (headerOf route)) := by
  have hentry : ∀ entry ∈ headerOf route, ShortString .default entry.1 ∧ Fits .default entry.2 := by
    rcases h with rfl | rfl
    · simp only [headerOf, List.forall_mem_cons]
      exact ⟨⟨by decide, .string (by decide)⟩, ⟨by decide, .string (by decide)⟩, by simp⟩
    · simp only [headerOf_epoch, List.forall_mem_cons]
      exact ⟨⟨by decide, .string (by decide)⟩, ⟨by decide, .string (by decide)⟩,
        ⟨by decide, .string (by decide)⟩, by simp⟩
  refine ⟨?_, ?_, .object ?_ (fun entry he => (hentry entry he).1)
    fun entry he => (hentry entry he).2⟩
  · rcases h with rfl | rfl <;> decide
  · rcases h with rfl | rfl <;> decide
  · rcases h with rfl | rfl <;> decide

theorem jwt_authenticity_sample :
    (∃ verified, verify sampleHmac (sampleToken .legacy sampleClaims 0x0b) sampleRing .default
      1500 = .ok verified ∧ verified.route = .legacy ∧
        ∃ headerBytes payloadBytes header claims key, Authentic sampleHmac
          (sampleToken .legacy sampleClaims 0x0b) sampleRing .default 1500 verified headerBytes
            payloadBytes header claims key) ∧
    (∃ verified, verify sampleHmac (sampleToken (.epoch 7)
      (sampleClaims ++ [("trnm_kep", .unsigned 7)]) 0x0c) sampleRing .default 1500 =
        .ok verified ∧ verified.route = .epoch 7) ∧
    sampleToken .legacy sampleClaims 0x0b = sampleToken .legacy sampleClaims 0x0b := by
  obtain ⟨hlegacy, hepoch, haccepted, hunique⟩ :=
    jwt_authenticity sampleHmac sampleRing .default
  have hone : verify sampleHmac (sampleToken .legacy sampleClaims 0x0b) sampleRing .default 1500 =
      .ok _ :=
    hlegacy sampleClaims (sampleKey 0x0b) _ 1500 _ (sample_within (.inl rfl)).1 rfl
      (issueLegacy_of rfl (by decide) (issueWithRoute_of (by decide) (by decide) (by decide)))
      (header_within (.inl rfl)) (sample_within (.inl rfl)).2 rfl rfl
  have htwo : verify sampleHmac (sampleToken (.epoch 7)
      (sampleClaims ++ [("trnm_kep", .unsigned 7)]) 0x0c) sampleRing .default 1500 = .ok _ :=
    hepoch sampleClaims 7 (sampleKey 0x0c) _ _ 1500 _ (sample_within (.inl rfl)).1 rfl
      (issueEpoch_of rfl (by decide) rfl (issueWithRoute_of (by decide) (by decide) (by decide)))
      rfl (header_within (.inr rfl)) (sample_within (.inr rfl)).2 rfl
  exact ⟨⟨_, hone, rfl, haccepted _ _ _ hone⟩, ⟨_, htwo, rfl⟩,
    hunique _ _ _ _ _ _ _ _ _ _ hone hone (segments_assemble _ _ _ _) (segments_assemble _ _ _ _)⟩

end TokenJwt
