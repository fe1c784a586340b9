import TrillionniumGame.TokenJwt.JsonRoundTrip
import TrillionniumGame.TokenJwt.Jwt

namespace TokenJwt
open Checks

namespace JsonValue

theorem asStr_normal (v : JsonValue) : v.normal.asStr = v.asStr := by
  cases v with
  | integer value =>
    rw [normal]
    split
    · rfl
    · rfl
  | _ => rfl

theorem asObject_normal (v : JsonValue) : v.normal.asObject = v.asObject.map normalFields := by
  cases v with
  | integer value =>
    rw [normal]
    split
    · rfl
    · rfl
  | _ => rfl

theorem asU64_normal (v : JsonValue) : v.normal.asU64 = v.asU64 := by
  cases v with
  | integer value =>
    rw [normal, asU64, toU64]
    split
    · rfl
    · next hneg => rw [asU64, toU64, if_neg hneg]
  | _ => rfl

theorem asI64_normal (v : JsonValue) : v.normal.asI64 = v.asI64 := by
  cases v with
  | integer value =>
    rw [normal]
    split
    · next hpos =>
      have hlt := value.toInt_lt
      have hnat : (UInt64.ofNat value.toInt.toNat).toNat = value.toInt.toNat :=
        UInt64.toNat_ofNat_of_lt' (by rw [UInt64.size]; omega)
      rw [asI64, asI64, hnat, if_pos (by omega), ← Int64.ofInt_eq_ofNat, Int.toNat_of_nonneg hpos,
        Int64.ofInt_toInt]
    · rfl
  | _ => rfl

end JsonValue

theorem lookup_normalFields (object : Object) (name : String) :
    List.lookup name (normalFields object) = (object.lookup name).map JsonValue.normal := by
  induction object with
  | nil => rfl
  | cons entry rest ih =>
    obtain ⟨key, value⟩ := entry
    rw [normalFields, List.lookup_cons, List.lookup_cons]
    split
    · rfl
    · exact ih

section Normal

variable (object : Object) (name : String) (limit : Nat) (profile : VerificationProfile)

theorem requiredString_normal :
    requiredString (normalFields object) name limit = requiredString object name limit := by
  rw [requiredString, requiredString, lookup_normalFields]
  cases object.lookup name with
  | none => rfl
  | some value => simp only [Option.map_some, fetch, Option.elim_some, ok_bind, value.asStr_normal]

theorem optionalString_normal :
    optionalString (normalFields object) name = optionalString object name := by
  rw [optionalString, optionalString, lookup_normalFields]
  cases object.lookup name with
  | none => rfl
  | some value => simp only [Option.map_some, value.asStr_normal]

theorem boundedOptionalString_normal : boundedOptionalString (normalFields object) name limit =
    boundedOptionalString object name limit := by
  rw [boundedOptionalString, boundedOptionalString, lookup_normalFields]
  cases object.lookup name with
  | none => rfl
  | some value => simp only [Option.map_some, value.asStr_normal]

theorem boundedRequiredString_normal : boundedRequiredString (normalFields object) name limit =
    boundedRequiredString object name limit := by
  rw [boundedRequiredString, boundedRequiredString, requiredString_normal]

theorem numericDate_normal (required : Bool) :
    numericDate (normalFields object) name required = numericDate object name required := by
  rw [numericDate, numericDate, lookup_normalFields]
  cases object.lookup name with
  | none => rfl
  | some value => simp only [Option.map_some, value.asI64_normal]

theorem mapM_asStr_normal (values : List JsonValue) :
    (normalItems values).mapM JsonValue.asStr = values.mapM JsonValue.asStr := by
  induction values with
  | nil => rfl
  | cons value rest ih => rw [normalItems, List.mapM_cons, List.mapM_cons, value.asStr_normal, ih]

theorem audienceValues_normal (value : JsonValue) :
    audienceValues value.normal = audienceValues value := by
  cases value with
  | integer value =>
    rw [JsonValue.normal]
    split
    · rfl
    · rfl
  | array values =>
    rw [JsonValue.normal, audienceValues, audienceValues, mapM_asStr_normal]
  | _ => rfl

theorem validateAudience_normal (value : Option JsonValue) :
    validateAudience (value.map JsonValue.normal) = validateAudience value := by
  cases value with
  | none => rfl
  | some value => rw [Option.map_some, validateAudience, validateAudience, audienceValues_normal]

theorem validateVariable_normal (object : Object) :
    (normalFields object).mapM (validateVariable profile) =
      object.mapM (validateVariable profile) := by
  induction object with
  | nil => rfl
  | cons entry rest ih =>
    obtain ⟨key, value⟩ := entry
    rw [normalFields, List.mapM_cons, List.mapM_cons, ih, validateVariable, validateVariable]
    dsimp only
    rw [value.asStr_normal]

theorem variablesOf_normal (value : JsonValue) :
    variablesOf value.normal name profile = variablesOf value name profile := by
  rw [variablesOf, variablesOf, value.asObject_normal]
  cases value.asObject with
  | none => rfl
  | some object =>
    simp only [Option.map_some, fetch, Option.elim_some, ok_bind]
    rw [validateVariable_normal, normalFields_eq, List.length_map]

theorem validateVariables_normal : validateVariables (normalFields object) profile =
    validateVariables object profile := by
  rw [validateVariables, validateVariables]
  cases profile.claims.vars with
  | none => rfl
  | some name =>
    dsimp only
    rw [lookup_normalFields]
    cases object.lookup name with
    | none => rfl
    | some value => exact variablesOf_normal name profile value

theorem epochClaimValue_normal (value : JsonValue) (header : UInt32) :
    epochClaimValue value.normal header profile = epochClaimValue value header profile := by
  rw [epochClaimValue, epochClaimValue, value.asU64_normal]

theorem validateEpochClaim_normal (route : TokenRoute) :
    validateEpochClaim (normalFields object) route profile =
      validateEpochClaim object route profile := by
  unfold validateEpochClaim
  rw [lookup_normalFields]
  cases object.lookup profile.claims.keyEpoch with
  | none => rfl
  | some value =>
    cases route with
    | legacy => rfl
    | epoch header => exact epochClaimValue_normal profile value header

theorem validateUsername_normal : validateUsername (normalFields object) profile =
    validateUsername object profile := by
  rw [validateUsername, validateUsername]
  cases profile.claims.username with
  | none => rfl
  | some name =>
    dsimp only
    rw [boundedRequiredString_normal, boundedOptionalString_normal]

theorem validateTokenId_normal : validateTokenId (normalFields object) profile =
    validateTokenId object profile := by
  rw [validateTokenId, validateTokenId]
  cases profile.claims.tokenId with
  | none => rfl
  | some name => exact boundedOptionalString_normal object name profile.maxTokenIdBytes

theorem validateClaims_normal (route : TokenRoute) (now : Int64) :
    validateClaims (normalFields object) route profile now =
      validateClaims object route profile now := by
  simp only [validateClaims, validateEpochClaim_normal, boundedRequiredString_normal,
    validateUsername_normal, validateTokenId_normal, validateVariables_normal, numericDate_normal,
    optionalString_normal, lookup_normalFields, validateAudience_normal]

end Normal

section Times

theorem i128_toInt (value : Int64) : (i128 value).toInt = value.toInt := by
  rw [i128, BitVec.toInt_signExtend_of_le (by decide)]
  rfl

theorem i128_add (a b : Int64) : (i128 a + i128 b).toInt = a.toInt + b.toInt := by
  have ha := a.le_toInt
  have hb := b.le_toInt
  have ha' := a.toInt_lt
  have hb' := b.toInt_lt
  rw [BitVec.toInt_add, i128_toInt, i128_toInt]
  exact Int.bmod_eq_of_le (by omega) (by omega)

theorem before_iff {now limit skew : Int64} :
    (i128 now).slt (i128 limit + i128 skew) = true ↔ now.toInt < limit.toInt + skew.toInt := by
  rw [BitVec.slt_iff_toInt_lt, i128_toInt, i128_add]

theorem since_iff {now start skew : Int64} :
    (i128 now + i128 skew).slt (i128 start) = false ↔ start.toInt ≤ now.toInt + skew.toInt := by
  rw [← Bool.not_eq_true, BitVec.slt_iff_toInt_lt, i128_toInt, i128_add, Int.not_lt]

theorem sub_toInt {a b : Int64} (ha : 0 ≤ a.toInt) (hb : 0 ≤ b.toInt) :
    (a - b).toInt = a.toInt - b.toInt := by
  have ha' := a.toInt_lt
  have hb' := b.toInt_lt
  rw [Int64.toInt_sub]
  exact Int.bmod_eq_of_le (by omega) (by omega)

theorem whenSome_ok {α : Type} {value : Option α} {check : α → Except JwtError Unit} {u : Unit} :
    whenSome value check = .ok u ↔ ∀ a ∈ value, check a = .ok () := by
  cases value with
  | none | some a => simp [whenSome]

variable {object : Object} {name : String} {required : Bool} {profile : VerificationProfile}
  {now : Int64} {expiresAt issuedAt notBefore : Option Int64}

theorem numericDate_none :
    numericDate object name required = .ok none ↔ object.lookup name = none ∧ required = false := by
  unfold numericDate
  cases object.lookup name with
  | none => cases required <;> simp
  | some value => simp [fetch_ok]

theorem numericDate_some {date : Int64} : numericDate object name required = .ok (some date) ↔
    ∃ value, object.lookup name = some value ∧ value.asI64 = some date ∧ 0 ≤ date.toInt := by
  unfold numericDate
  cases object.lookup name with
  | none => cases required <;> simp
  | some value => simp [fetch_ok, Option.filter_eq_some_iff]

theorem numericDate_nonneg {found : Option Int64}
    (h : numericDate object name required = .ok found) : ∀ date ∈ found, 0 ≤ date.toInt := by
  rintro date rfl
  obtain ⟨value, -, -, hdate⟩ := numericDate_some.mp h
  exact hdate

theorem validateLifetime_ok {u : Unit} (hexpires : ∀ date ∈ expiresAt, 0 ≤ date.toInt)
    (hissued : ∀ date ∈ issuedAt, 0 ≤ date.toInt) :
    validateLifetime profile issuedAt expiresAt = .ok u ↔
      ∀ issued ∈ issuedAt, ∀ expires ∈ expiresAt, ∀ limit ∈ profile.maxLifetimeSeconds,
        issued.toInt < expires.toInt ∧ expires.toInt - issued.toInt ≤ limit.toNat := by
  cases issuedAt with
  | none => simp [validateLifetime]
  | some issued =>
    cases expiresAt with
    | none => simp [validateLifetime]
    | some expires =>
      have hsub := sub_toInt (hexpires expires rfl) (hissued issued rfl)
      have hlt := (expires - issued).toInt_lt
      simp only [validateLifetime, whenSome_ok, bind_ok, require_ok, fetch_ok, toU64,
        Int64.lt_iff_toInt_lt, hsub, Option.mem_some_iff, forall_eq']
      refine forall₂_congr fun limit _ => ?_
      constructor
      · rintro ⟨-, horder, lifetime, hlifetime, hlimit⟩
        rw [if_pos (by omega)] at hlifetime
        cases hlifetime
        rw [UInt64.le_iff_toNat_le, UInt64.toNat_ofNat_of_lt' (by rw [UInt64.size]; omega)] at hlimit
        exact ⟨horder, by omega⟩
      · rintro ⟨horder, hlimit⟩
        refine ⟨(), horder, _, if_pos (by omega), ?_⟩
        rw [UInt64.le_iff_toNat_le, UInt64.toNat_ofNat_of_lt' (by rw [UInt64.size]; omega)]
        omega

theorem validateWindow_ok {u : Unit} (hexpires : ∀ date ∈ expiresAt, 0 ≤ date.toInt)
    (hissued : ∀ date ∈ issuedAt, 0 ≤ date.toInt) :
    validateWindow profile now expiresAt issuedAt notBefore = .ok u ↔
      (∀ date ∈ expiresAt, now.toInt < date.toInt + profile.clockSkewSeconds.toInt) ∧
      (∀ date ∈ notBefore, date.toInt ≤ now.toInt + profile.clockSkewSeconds.toInt) ∧
      (∀ date ∈ issuedAt, date.toInt ≤ now.toInt + profile.clockSkewSeconds.toInt) ∧
      ∀ issued ∈ issuedAt, ∀ expires ∈ expiresAt, ∀ limit ∈ profile.maxLifetimeSeconds,
        issued.toInt < expires.toInt ∧ expires.toInt - issued.toInt ≤ limit.toNat := by
  simp only [validateWindow, bind_ok, whenSome_ok, require_ok, before_iff, since_iff,
    validateLifetime_ok hexpires hissued, exists_and_left, exists_const]

end Times

end TokenJwt
