import TrillionniumGame.TokenCore.Policy

namespace TokenCore
open Checks FiniteMap Persistence Session

variable {ring : KeyRing} {role : KeyRole} {key : KeyDescriptor} {now : Int}

theorem uniqueKey_ok {keys : List KeyDescriptor} {noneReason multipleReason : String} :
    uniqueKey keys noneReason multipleReason = .ok key ↔ keys = [key] := by
  unfold uniqueKey
  split
  · simp
  · simp
  · next hseveral => exact iff_of_false nofun (hseveral key)

theorem role_of_get {epoch : UInt64} (h : ring.get role epoch = some key) :
    key.role = role ∧ key.epoch = epoch := by
  obtain ⟨hindex, -⟩ := ring.filed _ key h
  exact ⟨(congrArg KeyIndex.role hindex).symm, (congrArg KeyIndex.epoch hindex).symm⟩

theorem mem_values : key ∈ ring.values ↔ ring.get key.role key.epoch = some key := by
  constructor
  · intro h
    obtain ⟨⟨index, found⟩, hmem, rfl⟩ := List.mem_map.mp h
    have hlookup := mem_items.mp hmem
    obtain ⟨rfl, -⟩ := ring.filed index found hlookup
    exact hlookup
  · exact fun h => List.mem_map.mpr ⟨(⟨key.role, key.epoch⟩, key), mem_items.mpr h, rfl⟩

theorem nodup_values : ring.values.Nodup := by
  have hkeys : ((items ring.keys).map Prod.fst).Nodup := items_keys ring.keys ▸ nodup_ordered _
  refine hkeys.of_map.map_on ?_
  rintro ⟨index, found⟩ hfound ⟨index', _⟩ hfound' rfl
  rw [(ring.filed index found (mem_items.mp hfound)).1,
    (ring.filed index' found (mem_items.mp hfound')).1]

theorem eq_singleton_iff {keys : List KeyDescriptor} (hnodup : keys.Nodup) :
    keys = [key] ↔ key ∈ keys ∧ ∀ other ∈ keys, other = key := by
  constructor
  · rintro rfl
    simp
  · rintro ⟨hmem, hlone⟩
    refine List.perm_singleton.mp ((List.perm_ext_iff_of_nodup hnodup (List.nodup_singleton key)).mpr
      fun other => ?_)
    rw [List.mem_singleton]
    exact ⟨hlone other, fun h => h ▸ hmem⟩

theorem issueKey_ok (h : ring.issueKey role now = .ok key) :
    ring.get role key.epoch = some key := by
  have hmem := List.mem_filter.mp (uniqueKey_ok.mp h ▸ List.mem_singleton_self key)
  simp only [Bool.and_eq_true, decide_eq_true_eq] at hmem
  obtain ⟨hvalue, ⟨rfl, _⟩, _⟩ := hmem
  exact mem_values.mp hvalue

structure Usable (ring : KeyRing) (role : KeyRole) (now : Int) (key : KeyDescriptor) : Prop where
  held : ring.get role key.epoch = some key
  filed : key.role = role
  status : key.status = .active ∨ key.status = .verifyOnly
  window : key.notBefore ≤ now ∧ now < key.notAfter

structure Verifies (ring : KeyRing) (role : KeyRole) (profile : TokenProfile)
    (declaredEpoch : Option UInt64) (now : Int) (key : KeyDescriptor) : Prop
    extends Usable ring role now key where
  declared : profile = .trillionniumFamilyV1 → declaredEpoch = some key.epoch
  lone : profile = .nakamaV340Legacy → declaredEpoch = none ∧
    ∀ other, Usable ring role now other → other = key

theorem usable_iff {status : KeyStatus} :
    KeyRing.usable status = true ↔ status = .active ∨ status = .verifyOnly := by
  cases status <;> decide

theorem keyValid_iff : keyValid key now = true ↔ key.notBefore ≤ now ∧ now < key.notAfter := by
  rw [keyValid, Bool.and_eq_true, decide_eq_true_eq, decide_eq_true_eq]

theorem mem_usable : key ∈ ring.values.filter (fun key =>
    key.role = role && KeyRing.usable key.status && keyValid key now) ↔ Usable ring role now key := by
  rw [List.mem_filter, Bool.and_eq_true, Bool.and_eq_true, decide_eq_true_eq, usable_iff, keyValid_iff,
    mem_values]
  constructor
  · rintro ⟨hheld, ⟨rfl, hstatus⟩, hwindow⟩
    exact ⟨hheld, rfl, hstatus, hwindow⟩
  · rintro ⟨hheld, rfl, hstatus, hwindow⟩
    exact ⟨hheld, ⟨rfl, hstatus⟩, hwindow⟩

theorem verifyKey_ok {profile : TokenProfile} {declaredEpoch : Option UInt64} :
    ring.verifyKey role profile declaredEpoch now = .ok key ↔
      Verifies ring role profile declaredEpoch now key := by
  cases profile with
  | nakamaV340Legacy =>
    cases declaredEpoch with
    | some epoch => exact ⟨by rintro ⟨⟩, fun h => by cases (h.lone rfl).1⟩
    | none =>
      rw [KeyRing.verifyKey, uniqueKey_ok, eq_singleton_iff (nodup_values.filter _), mem_usable]
      simp only [mem_usable]
      exact ⟨fun h => ⟨h.1, by rintro ⟨⟩, fun _ => ⟨rfl, h.2⟩⟩, fun h => ⟨h.toUsable, (h.lone rfl).2⟩⟩
  | trillionniumFamilyV1 =>
    cases declaredEpoch with
    | none => exact ⟨by rintro ⟨⟩, fun h => by cases h.declared rfl⟩
    | some epoch =>
      simp only [KeyRing.verifyKey, bind_ok, fetch_ok, require_ok, usable_iff, keyValid_iff,
        exists_const]
      constructor
      · rintro ⟨found, hget, ⟨hstatus, hwindow⟩, hfound⟩
        cases hfound
        obtain ⟨hrole, rfl⟩ := role_of_get hget
        exact ⟨⟨hget, hrole, hstatus, hwindow⟩, fun _ => rfl, by rintro ⟨⟩⟩
      · rintro ⟨⟨hget, _, hstatus, hwindow⟩, hdeclared, _⟩
        cases Option.some.inj (hdeclared rfl)
        exact ⟨key, hget, ⟨hstatus, hwindow⟩, rfl⟩

theorem checkedI64_some {value result : Int} :
    checkedI64 value = some result ↔ (-2 ^ 63 ≤ value ∧ value < 2 ^ 63) ∧ value = result := by
  unfold checkedI64
  split
  · next h => simp only [h, and_self, true_and, Option.some.injEq]
  · next h => simp only [h, false_and, reduceCtorEq]

section Claims
variable {claims : TokenClaims} {kind : TokenKind} {profile : TokenProfile} {policy : TokenPolicy}

variable {mode mode' : ValidationMode}

theorem validateShape_mode (h : validateShape claims policy mode = .ok ()) :
    validateShape claims policy mode' = .ok () := by
  simp only [validateShape, bind_ok, require_ok] at h ⊢
  exact h

theorem validateProfile_mode (h : validateProfile claims profile mode = .ok ()) :
    validateProfile claims profile mode' = .ok () := by
  cases profile with
  | nakamaV340Legacy =>
    simp only [validateProfile, require_ok] at h ⊢
    exact h
  | trillionniumFamilyV1 =>
    simp only [validateProfile, bind_ok, fetch_ok, require_ok] at h ⊢
    exact h

theorem validateProfile_unique {profile' : TokenProfile}
    (h : validateProfile claims profile mode = .ok ())
    (h' : validateProfile claims profile' mode' = .ok ()) : profile = profile' := by
  cases profile <;> cases profile' <;>
    simp_all [validateProfile, bind_ok, fetch_ok, require_ok]

theorem validateLifetime_ok :
    validateLifetime claims kind policy mode = .ok () ↔
      claims.issuedAt < claims.expiresAt ∧
        (checkedI64 (claims.expiresAt - claims.issuedAt)).isSome = true ∧
        claims.expiresAt - claims.issuedAt ≤ policy.lifetime kind := by
  simp only [validateLifetime, bind_ok, require_ok, fetch_ok, checkedI64_some, exists_const,
    Option.isSome_iff_exists]
  constructor
  · rintro ⟨hlt, lifetime, ⟨hbounds, rfl⟩, hle⟩
    exact ⟨hlt, ⟨_, hbounds, rfl⟩, hle⟩
  · rintro ⟨hlt, ⟨_, hbounds, rfl⟩, hle⟩
    exact ⟨hlt, _, ⟨hbounds, rfl⟩, hle⟩

theorem validateTime_verify :
    validateTime claims now policy .verify = .ok () ↔
      (checkedI64 (now + policy.clockSkewSec)).isSome = true ∧
      claims.issuedAt ≤ now + policy.clockSkewSec ∧
      (checkedI64 (claims.expiresAt + policy.clockSkewSec)).isSome = true ∧
      now < claims.expiresAt + policy.clockSkewSec := by
  simp only [validateTime, bind_ok, require_ok, fetch_ok, checkedI64_some, exists_const,
    Option.isSome_iff_exists]
  constructor
  · rintro ⟨latest, ⟨hlatest, rfl⟩, hissued, valid, ⟨hvalid, rfl⟩, hnow⟩
    exact ⟨⟨_, hlatest, rfl⟩, hissued, ⟨_, hvalid, rfl⟩, hnow⟩
  · rintro ⟨⟨_, hlatest, rfl⟩, hissued, ⟨_, hvalid, rfl⟩, hnow⟩
    exact ⟨_, ⟨hlatest, rfl⟩, hissued, _, ⟨hvalid, rfl⟩, hnow⟩

theorem validateClaims_ok :
    validateClaims claims kind profile now policy mode = .ok () ↔
      validateShape claims policy mode = .ok () ∧ validateLifetime claims kind policy mode = .ok () ∧
      validateTime claims now policy mode = .ok () ∧ validateProfile claims profile mode = .ok () := by
  simp only [validateClaims, bind_ok]
  constructor
  · rintro ⟨⟨⟩, hshape, ⟨⟩, hlifetime, ⟨⟩, htime, hprofile⟩
    exact ⟨hshape, hlifetime, htime, hprofile⟩
  · rintro ⟨hshape, hlifetime, htime, hprofile⟩
    exact ⟨(), hshape, (), hlifetime, (), htime, hprofile⟩

variable {now' : Int}

theorem validateClaims_later (h : validateClaims claims kind profile now policy .issue = .ok ())
    (htime : validateTime claims now' policy .verify = .ok ()) :
    validateClaims claims kind profile now' policy .verify = .ok () := by
  obtain ⟨hshape, hlifetime, -, hprofile⟩ := validateClaims_ok.mp h
  exact validateClaims_ok.mpr ⟨validateShape_mode hshape,
    validateLifetime_ok.mpr (validateLifetime_ok.mp hlifetime), htime, validateProfile_mode hprofile⟩

variable {plan : SigningPlan}

theorem prepareIssue_ok (h : prepareIssue kind profile claims now policy ring = .ok plan) :
    policy.validate = .ok () ∧ validateClaims claims kind profile now policy .issue = .ok () ∧
    ∃ key, ring.issueKey (.ofKind kind) now = .ok key ∧
      (profile = .trillionniumFamilyV1 → claims.keyEpoch = some key.epoch ∧
        plan.emittedKeyEpoch = some key.epoch) ∧
      plan = ⟨.hs256, .ofKind kind, key.epoch, plan.emittedKeyEpoch, key.materialDigest, claims⟩ := by
  cases profile with
  | nakamaV340Legacy =>
    simp only [prepareIssue, bind_ok, require_ok] at h
    obtain ⟨⟨⟩, hpolicy, ⟨⟩, hclaims, key, hkey, ⟨⟩, _, h⟩ := h
    cases h
    exact ⟨hpolicy, hclaims, key, hkey, by simp, rfl⟩
  | trillionniumFamilyV1 =>
    simp only [prepareIssue, bind_ok, require_ok] at h
    obtain ⟨⟨⟩, hpolicy, ⟨⟩, hclaims, key, hkey, ⟨⟩, hepoch, h⟩ := h
    cases h
    exact ⟨hpolicy, hclaims, key, hkey, fun _ => ⟨hepoch, rfl⟩, rfl⟩

variable {declaredEpoch : Option UInt64}

theorem prepareVerification_ok {plan : VerificationPlan} :
    prepareVerification kind profile declaredEpoch now ring = .ok plan ↔
      ∃ key, Verifies ring (.ofKind kind) profile declaredEpoch now key ∧
        plan = ⟨.hs256, kind, profile, key.epoch, key.materialDigest⟩ := by
  simp only [prepareVerification, bind_ok, verifyKey_ok]
  constructor
  · rintro ⟨key, hkey, h⟩
    exact ⟨key, hkey, (Except.ok.inj h).symm⟩
  · rintro ⟨key, hkey, rfl⟩
    exact ⟨key, hkey, rfl⟩

variable {token : VerifiedToken}

theorem acceptVerifiedClaims_ok {plan : VerificationPlan} :
    acceptVerifiedClaims plan claims now policy = .ok token ↔
      policy.validate = .ok () ∧
      validateClaims claims plan.kind plan.profile now policy .verify = .ok () ∧
      (plan.profile = .trillionniumFamilyV1 → claims.keyEpoch = some plan.selectedKeyEpoch) ∧
      token = ⟨plan.kind, plan.profile, plan.selectedKeyEpoch, claims⟩ := by
  obtain ⟨algorithm, kind, profile, epoch, digest⟩ := plan
  cases profile with
  | nakamaV340Legacy =>
    simp only [acceptVerifiedClaims, bind_ok, require_ok]
    constructor
    · rintro ⟨⟨⟩, hpolicy, ⟨⟩, hclaims, _, _, h⟩
      exact ⟨hpolicy, hclaims, by rintro ⟨⟩, (Except.ok.inj h).symm⟩
    · rintro ⟨hpolicy, hclaims, _, rfl⟩
      obtain ⟨-, -, -, hprofile⟩ := validateClaims_ok.mp hclaims
      exact ⟨(), hpolicy, (), hclaims, (), (require_ok.mp hprofile).2.2, rfl⟩
  | trillionniumFamilyV1 =>
    simp only [acceptVerifiedClaims, bind_ok, require_ok]
    constructor
    · rintro ⟨⟨⟩, hpolicy, ⟨⟩, hclaims, _, hepoch, h⟩
      exact ⟨hpolicy, hclaims, fun _ => hepoch, (Except.ok.inj h).symm⟩
    · rintro ⟨hpolicy, hclaims, hepoch, rfl⟩
      exact ⟨(), hpolicy, (), hclaims, (), hepoch trivial, rfl⟩

variable {key : KeyDescriptor}

structure SigningKey (ring : KeyRing) (plan : SigningPlan) (key : KeyDescriptor) : Prop where
  held : ring.get plan.role plan.selectedKeyEpoch = some key
  material : key.materialDigest = plan.keyMaterialDigest

variable {ring' : KeyRing}

theorem issued_verifies
    (h : prepareIssue kind .trillionniumFamilyV1 claims now policy ring = .ok plan)
    (hkey : SigningKey ring' plan key) (husable : key.status = .active ∨ key.status = .verifyOnly)
    (hwindow : key.notBefore ≤ now' ∧ now' < key.notAfter)
    (htime : validateTime claims now' policy .verify = .ok ()) :
    ∃ verification, prepareVerification kind .trillionniumFamilyV1 plan.emittedKeyEpoch now' ring' =
        .ok verification ∧
      verification.selectedKeyEpoch = plan.selectedKeyEpoch ∧
      verification.keyMaterialDigest = plan.keyMaterialDigest ∧
      acceptVerifiedClaims verification claims now' policy =
        .ok ⟨kind, .trillionniumFamilyV1, plan.selectedKeyEpoch, claims⟩ := by
  obtain ⟨hpolicy, hclaims, signer, -, hfamily, hplan⟩ := prepareIssue_ok h
  obtain ⟨hepoch, hemitted⟩ := hfamily rfl
  obtain ⟨hheld, hmaterial⟩ := hkey
  rw [hplan] at hheld hmaterial ⊢
  obtain ⟨-, hsame⟩ := role_of_get hheld
  have hown : signer.epoch = key.epoch := hsame.symm
  rw [hown] at hheld hepoch hemitted ⊢
  refine ⟨⟨.hs256, kind, .trillionniumFamilyV1, key.epoch, key.materialDigest⟩, ?_, rfl, hmaterial,
    ?_⟩
  · rw [hemitted]
    exact prepareVerification_ok.mpr ⟨key, ⟨⟨hheld, (role_of_get hheld).1, husable, hwindow⟩,
      fun _ => rfl, nofun⟩, rfl⟩
  · exact acceptVerifiedClaims_ok.mpr ⟨hpolicy, validateClaims_later hclaims htime, fun _ => hepoch,
      rfl⟩

structure AcceptedToken (ring : KeyRing) (kind : TokenKind) (profile : TokenProfile)
    (declaredEpoch : Option UInt64) (verifiedAt : Int) (claims : TokenClaims) (acceptedAt : Int)
    (policy : TokenPolicy) (verification : VerificationPlan) (token : VerifiedToken)
    (key : KeyDescriptor) : Prop where
  verifies : Verifies ring (.ofKind kind) profile declaredEpoch verifiedAt key
  digest : verification.keyMaterialDigest = key.materialDigest
  named : profile = .trillionniumFamilyV1 → claims.keyEpoch = some key.epoch
  token : token = ⟨kind, profile, key.epoch, claims⟩
  started : claims.issuedAt < claims.expiresAt
  lifetime : claims.expiresAt - claims.issuedAt ≤ policy.lifetime kind
  issued : claims.issuedAt ≤ acceptedAt + policy.clockSkewSec
  unexpired : acceptedAt < claims.expiresAt + policy.clockSkewSec

variable {verification : VerificationPlan}

theorem accepted_token
    (h : prepareVerification kind profile declaredEpoch now ring = .ok verification)
    (haccept : acceptVerifiedClaims verification claims now' policy = .ok token) :
    ∃ key, AcceptedToken ring kind profile declaredEpoch now claims now' policy verification token
      key := by
  obtain ⟨key, hkey, rfl⟩ := prepareVerification_ok.mp h
  obtain ⟨-, hclaims, hnamed, htoken⟩ := acceptVerifiedClaims_ok.mp haccept
  obtain ⟨-, hlifetime, htime, -⟩ := validateClaims_ok.mp hclaims
  obtain ⟨hstarted, -, hle⟩ := validateLifetime_ok.mp hlifetime
  obtain ⟨-, hissued, -, hunexpired⟩ := validateTime_verify.mp htime
  exact ⟨key, hkey, rfl, hnamed, htoken, hstarted, hle, hissued, hunexpired⟩

def Accepts (ring : KeyRing) (kind : TokenKind) (plan : SigningPlan) (verifiedAt acceptedAt : Int)
    (policy : TokenPolicy) : Prop :=
  ∃ profile declaredEpoch verification token,
    prepareVerification kind profile declaredEpoch verifiedAt ring = .ok verification ∧
    verification.keyMaterialDigest = plan.keyMaterialDigest ∧
    acceptVerifiedClaims verification plan.claims acceptedAt policy = .ok token

structure Crosses (ring : KeyRing) (kind : TokenKind) (profile : TokenProfile)
    (signer : KeyDescriptor) (claims : TokenClaims) (verifiedAt acceptedAt : Int)
    (policy : TokenPolicy) (key : KeyDescriptor) : Prop where
  verifies : Verifies ring (.ofKind kind) profile claims.keyEpoch verifiedAt key
  material : key.materialDigest = signer.materialDigest
  lifetime : claims.expiresAt - claims.issuedAt ≤ policy.lifetime kind
  representable : (checkedI64 (acceptedAt + policy.clockSkewSec)).isSome = true ∧
    (checkedI64 (claims.expiresAt + policy.clockSkewSec)).isSome = true
  issued : claims.issuedAt ≤ acceptedAt + policy.clockSkewSec
  unexpired : acceptedAt < claims.expiresAt + policy.clockSkewSec

variable {kind' : TokenKind} {signer : KeyDescriptor} {acceptedAt : Int}

theorem accepts_iff (h : prepareIssue kind profile claims now policy ring = .ok plan)
    (hsigner : SigningKey ring plan signer) :
    Accepts ring' kind' plan now' acceptedAt policy ↔
      ∃ key, Crosses ring' kind' profile signer claims now' acceptedAt policy key := by
  obtain ⟨hpolicy, hclaims, _, -, -, hplan⟩ := prepareIssue_ok h
  have hown : plan.claims = claims := by rw [hplan]
  obtain ⟨hshape, hlifetime, -, hprofile⟩ := validateClaims_ok.mp hclaims
  obtain ⟨hstarted, hspan, -⟩ := validateLifetime_ok.mp hlifetime
  unfold Accepts
  rw [hown, ← hsigner.material]
  constructor
  · rintro ⟨profile', declaredEpoch, verification, token, hverify, hmaterial, haccept⟩
    obtain ⟨key, hkey, rfl⟩ := prepareVerification_ok.mp hverify
    obtain ⟨-, hvalid, hnamed, -⟩ := acceptVerifiedClaims_ok.mp haccept
    obtain ⟨-, hwithin, htime, hprofile'⟩ := validateClaims_ok.mp hvalid
    obtain rfl := validateProfile_unique hprofile hprofile'
    obtain ⟨hlatest, hissued, hend, hunexpired⟩ := validateTime_verify.mp htime
    -- the claims and the header name the same epoch under either profile
    have hdeclared : declaredEpoch = claims.keyEpoch := by
      cases profile with
      | nakamaV340Legacy => rw [(hkey.lone rfl).1, (require_ok.mp hprofile).2.2]
      | trillionniumFamilyV1 => rw [hkey.declared rfl, hnamed rfl]
    exact ⟨key, hdeclared ▸ hkey, hmaterial, (validateLifetime_ok.mp hwithin).2.2, ⟨hlatest, hend⟩,
      hissued, hunexpired⟩
  · rintro ⟨key, hkey, hmaterial, hwithin, ⟨hlatest, hend⟩, hissued, hunexpired⟩
    refine ⟨profile, _, _, _, prepareVerification_ok.mpr ⟨key, hkey, rfl⟩, hmaterial,
      acceptVerifiedClaims_ok.mpr ⟨hpolicy, validateClaims_ok.mpr ⟨validateShape_mode hshape,
        validateLifetime_ok.mpr ⟨hstarted, hspan, hwithin⟩,
        validateTime_verify.mpr ⟨hlatest, hissued, hend, hunexpired⟩,
        validateProfile_mode hprofile⟩, hkey.declared, rfl⟩⟩

theorem issued_tokens_and_accepted_tokens_agree (kind : TokenKind) (claims : TokenClaims) (now : Int)
    (policy : TokenPolicy) (ring : KeyRing) :
    (∀ plan, prepareIssue kind .trillionniumFamilyV1 claims now policy ring = .ok plan →
      plan.claims = claims ∧ ∀ (ring' : KeyRing) (key : KeyDescriptor) (now' : Int),
        SigningKey ring' plan key → key.status = .active ∨ key.status = .verifyOnly →
        key.notBefore ≤ now' ∧ now' < key.notAfter →
        (checkedI64 (now' + policy.clockSkewSec)).isSome = true →
        claims.issuedAt ≤ now' + policy.clockSkewSec →
        (checkedI64 (claims.expiresAt + policy.clockSkewSec)).isSome = true →
        now' < claims.expiresAt + policy.clockSkewSec →
        ∃ verification,
          prepareVerification kind .trillionniumFamilyV1 plan.emittedKeyEpoch now' ring' =
            .ok verification ∧
          verification.selectedKeyEpoch = plan.selectedKeyEpoch ∧
          verification.keyMaterialDigest = plan.keyMaterialDigest ∧
          acceptVerifiedClaims verification claims now' policy =
            .ok ⟨kind, .trillionniumFamilyV1, plan.selectedKeyEpoch, claims⟩) ∧
    (∀ (profile : TokenProfile) (declaredEpoch : Option UInt64) (now' : Int)
      (verification : VerificationPlan) (token : VerifiedToken),
      prepareVerification kind profile declaredEpoch now ring = .ok verification →
      acceptVerifiedClaims verification claims now' policy = .ok token →
      ∃ key, AcceptedToken ring kind profile declaredEpoch now claims now' policy verification token
        key) ∧
    (∀ (kind' : TokenKind) (profile : TokenProfile) (plan : SigningPlan),
      prepareIssue kind profile claims now policy ring = .ok plan → kind ≠ kind' →
      ∃ signer, SigningKey ring plan signer ∧ signer.role = .ofKind kind ∧
        ∀ (ring' : KeyRing) (verifiedAt acceptedAt : Int),
          (¬ Accepts ring' kind' plan verifiedAt acceptedAt policy ↔
            ∀ key, ¬ Crosses ring' kind' profile signer claims verifiedAt acceptedAt policy key) ∧
          ((∀ epoch key, ring'.get (.ofKind kind') epoch = some key →
            key.materialDigest ≠ signer.materialDigest) →
            ¬ Accepts ring' kind' plan verifiedAt acceptedAt policy)) := by
  refine ⟨fun plan h => ⟨?_, ?_⟩, ?_, ?_⟩
  · obtain ⟨-, -, key, -, -, hplan⟩ := prepareIssue_ok h
    rw [hplan]
  · intro ring' key now' hkey husable hwindow hnow hissued hexpires hunexpired
    exact issued_verifies h hkey husable hwindow
      (validateTime_verify.mpr ⟨hnow, hissued, hexpires, hunexpired⟩)
  · intro profile declaredEpoch now' verification token h haccept
    exact accepted_token h haccept
  · intro kind' profile plan h _
    obtain ⟨-, -, signer, hissue, -, hplan⟩ := prepareIssue_ok h
    have hheld := issueKey_ok hissue
    have hsigner : SigningKey ring plan signer := by
      rw [hplan]
      exact ⟨hheld, rfl⟩
    refine ⟨signer, hsigner, (role_of_get hheld).1, fun ring' verifiedAt acceptedAt => ?_⟩
    rw [accepts_iff h hsigner, not_exists]
    refine ⟨Iff.rfl, fun hdistinct key hcrosses => ?_⟩
    exact hdistinct key.epoch key hcrosses.verifies.held hcrosses.material

end Claims

def sampleKey : KeyDescriptor := ⟨.access, 7, .active, 900, 10000, ⟨.replicate 32 7⟩⟩

def sampleRing : KeyRing := (KeyRing.default.insert sampleKey).2

def sampleClaims : TokenClaims where
  tokenId := ⟨.replicate 16 1⟩
  userId := ⟨.replicate 16 2⟩
  username := "player"
  vars := ∅
  issuedAt := 1000
  expiresAt := 1300
  familyId := some ⟨.replicate 16 3⟩
  familyGeneration := some 4
  keyEpoch := some 7

def samplePlan : SigningPlan := ⟨.hs256, .access, 7, some 7, ⟨.replicate 32 7⟩, sampleClaims⟩

def refreshKey (material : UInt8) : KeyDescriptor :=
  ⟨.refresh, 7, .active, 900, 10000, ⟨.replicate 32 material⟩⟩

def pairedRing (material : UInt8) : KeyRing := (sampleRing.insert (refreshKey material)).2

theorem issued_tokens_and_accepted_tokens_agree_sample :
    (∃ verification,
      prepareVerification .access .trillionniumFamilyV1 (some 7) 1329 (pairedRing 8) =
        .ok verification ∧
      acceptVerifiedClaims verification sampleClaims 1329 .default =
        .ok ⟨.access, .trillionniumFamilyV1, 7, sampleClaims⟩) ∧
    ∀ verifiedAt acceptedAt,
      ¬ Accepts (pairedRing 8) .refresh samplePlan verifiedAt acceptedAt .default := by
  have hissue : prepareIssue .access .trillionniumFamilyV1 sampleClaims 1000 .default (pairedRing 8) =
      .ok samplePlan := by rfl
  have hkey : SigningKey (pairedRing 8) samplePlan sampleKey := ⟨by rfl, rfl⟩
  have hvalues : (pairedRing 8).values = [sampleKey, refreshKey 8] := by rfl
  obtain ⟨hagree, -, hapart⟩ := issued_tokens_and_accepted_tokens_agree .access sampleClaims 1000
    .default (pairedRing 8)
  constructor
  · obtain ⟨verification, hverify, -, -, haccept⟩ :=
      (hagree _ hissue).2 (pairedRing 8) sampleKey 1329 hkey (.inl rfl) (by decide)
        (by decide) (by decide) (by decide) (by decide)
    exact ⟨verification, hverify, haccept⟩
  · obtain ⟨signer, hsigner, -, hcrosses⟩ := hapart .refresh _ _ hissue nofun
    intro verifiedAt acceptedAt
    refine (hcrosses (pairedRing 8) verifiedAt acceptedAt).2 fun epoch key hkey => ?_
    obtain ⟨hrole, rfl⟩ := role_of_get hkey
    rw [← hrole, ← mem_values, hvalues, List.mem_pair] at hkey
    rw [hsigner.material]
    rcases hkey with rfl | rfl
    · cases hrole
    · decide

theorem shared_material_crosses_roles :
    (KeyRing.default.insert sampleKey).1 = .ok () ∧ (sampleRing.insert (refreshKey 7)).1 = .ok () ∧
      prepareIssue .access .trillionniumFamilyV1 sampleClaims 1000 .default (pairedRing 7) =
        .ok samplePlan ∧
      Accepts (pairedRing 7) .refresh samplePlan 1000 1000 .default :=
  ⟨rfl, rfl, rfl, .trillionniumFamilyV1, some 7,
    ⟨.hs256, .refresh, .trillionniumFamilyV1, 7, ⟨.replicate 32 7⟩⟩,
    ⟨.refresh, .trillionniumFamilyV1, 7, sampleClaims⟩, rfl, rfl, rfl⟩

end TokenCore
