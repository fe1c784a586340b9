import Mathlib.Tactic.Ring
import TrillionniumGame.RealtimeWire.Protobuf

namespace RealtimeWire
open Checks Octets Reading Words
open GoText (validString)

section Varint

variable {input rest : List UInt8} {value result : Nat}

theorem mark_bits (value : Nat) :
    UInt8.ofNat value &&& 0x7f ||| 0x80 = UInt8.ofNat (value % 128 + 128) := by
  have hlow : (UInt8.ofNat value &&& 0x7f).toNat = value % 128 := by
    rw [toNat_and_127, UInt8.toNat_ofNat']
    omega
  rw [← UInt8.toNat_inj, toNat_or_128 (by omega), hlow, UInt8.toNat_ofNat']
  omega

theorem writeVarint_small (h : value < 128) : writeVarint value = [UInt8.ofNat value] := by
  rw [writeVarint, if_pos h]

theorem writeVarint_large (h : 128 ≤ value) :
    writeVarint value = UInt8.ofNat (value % 128 + 128) :: writeVarint (value / 128) := by
  rw [writeVarint, if_neg (by omega), mark_bits, Nat.shiftRight_eq_div_pow]

theorem varintLength_small (h : value < 128) : varintLength value = 1 := by
  rw [varintLength, if_pos h]

theorem varintLength_pos (value : Nat) : 0 < varintLength value := by
  rw [varintLength]
  split
  · exact Nat.one_pos
  · exact Nat.succ_pos _

theorem varintLength_large (h : 128 ≤ value) :
    varintLength value = varintLength (value / 128) + 1 := by
  rw [varintLength, if_neg (by omega), Nat.shiftRight_eq_div_pow]

theorem varintLength_eq {n : Nat} : varintLength value = n + 1 ↔
    value < 128 ^ (n + 1) ∧ (n = 0 ∨ 128 ^ n ≤ value) := by
  induction n generalizing value with
  | zero =>
    by_cases hvalue : value < 128
    · simp [varintLength_small hvalue, hvalue]
    · have hpositive := varintLength_pos (value / 128)
      rw [varintLength_large (by omega)]
      simp [hvalue, hpositive.ne']
  | succ n ih =>
    by_cases hvalue : value < 128
    · have hle : 128 ^ 1 ≤ 128 ^ (n + 1) := Nat.pow_le_pow_right (by decide) (by omega)
      rw [varintLength_small hvalue]
      omega
    · rw [varintLength_large (by omega), Nat.add_right_cancel_iff, ih, Nat.pow_succ 128 (n + 1),
        Nat.div_lt_iff_lt_mul (by decide), Nat.pow_succ 128 n, Nat.le_div_iff_mul_le (by decide)]
      refine and_congr_right fun _ => ?_
      have hpower : 0 < 128 ^ n := Nat.pow_pos (by decide)
      rcases Nat.eq_zero_or_pos n with rfl | hn
      · simp only [Nat.pow_zero]
        omega
      · omega

theorem length_writeVarint (value : Nat) : (writeVarint value).length = varintLength value := by
  induction value using Nat.strong_induction_on with
  | _ value ih =>
    by_cases hvalue : value < 128
    · rw [writeVarint_small hvalue, varintLength_small hvalue, List.length_singleton]
    · rw [writeVarint_large (by omega), varintLength_large (by omega), List.length_cons,
        ih (value / 128) (by omega)]

theorem accumulate {index low : Nat} (hvalue : value < 128 ^ index) :
    value ||| (low <<< (index * 7)) = value + low * 128 ^ index := by
  have hpower : 2 ^ (index * 7) = 128 ^ index := by rw [Nat.mul_comm, Nat.pow_mul]
  have hor := Nat.two_pow_add_eq_or_of_lt (i := index * 7) (b := value) (by rwa [hpower]) low
  rw [Nat.or_comm, Nat.shiftLeft_eq, Nat.mul_comm low, ← hor, hpower]
  ring

theorem cons_eq_writeVarint {byte : UInt8} {later : List UInt8} {high : Nat} :
    byte :: later = writeVarint high ++ rest ↔
      (byte.toNat < 128 ∧ high = byte.toNat ∧ later = rest) ∨
      (128 ≤ byte.toNat ∧ 128 ≤ high ∧ high % 128 + 128 = byte.toNat ∧
        later = writeVarint (high / 128) ++ rest) := by
  by_cases hhigh : high < 128
  · have hvalue : (UInt8.ofNat high).toNat = high := by
      rw [UInt8.toNat_ofNat']
      omega
    rw [writeVarint_small hhigh, List.singleton_append, List.cons.injEq, ← UInt8.toNat_inj, hvalue]
    constructor
    · rintro ⟨hbyte, hlater⟩
      exact .inl ⟨by omega, hbyte.symm, hlater⟩
    · rintro (⟨-, hbyte, hlater⟩ | ⟨-, hlarge, -⟩)
      · exact ⟨hbyte.symm, hlater⟩
      · omega
  · have hvalue : (UInt8.ofNat (high % 128 + 128)).toNat = high % 128 + 128 := by
      rw [UInt8.toNat_ofNat']
      omega
    rw [writeVarint_large (by omega), List.cons_append, List.cons.injEq, ← UInt8.toNat_inj, hvalue]
    constructor
    · rintro ⟨hbyte, hlater⟩
      exact .inr ⟨by omega, by omega, hbyte.symm, hlater⟩
    · rintro (⟨hsmall, hbyte, -⟩ | ⟨-, -, hbyte, hlater⟩)
      · omega
      · exact ⟨hbyte.symm, hlater⟩

theorem varint_bound {index low : Nat} (hindex : index ≤ 9) (hvalue : value < 128 ^ index)
    (hlow : low < 128) :
    value + low * 128 ^ index < 2 ^ 64 ↔ ¬ (index = 9 ∧ 1 < low) := by
  rcases Nat.lt_or_eq_of_le hindex with hless | rfl
  · have hpower : 128 ^ index ≤ 128 ^ 8 := Nat.pow_le_pow_right (by decide) (by omega)
    have hle : low * 128 ^ index ≤ 127 * 128 ^ 8 := Nat.mul_le_mul (by omega) hpower
    exact iff_of_true (by omega) (by omega)
  · omega

theorem readVarintRounds_ok {rounds index : Nat} (hrounds : index + rounds = 10)
    (hvalue : value < 128 ^ index) :
    readVarintRounds rounds index value input = .ok (result, rest) ↔
      ∃ high, input = writeVarint high ++ rest ∧ result = value + high * 128 ^ index ∧
        result < 2 ^ 64 ∧ (index = 0 ∨ high ≠ 0) := by
  induction rounds generalizing index value input with
  | zero =>
    refine iff_of_false nofun ?_
    rintro ⟨high, -, hresult, hbound, hhigh⟩
    obtain rfl : index = 10 := hrounds
    have hpositive := Nat.pos_of_ne_zero (hhigh.resolve_left (by decide))
    have hle := Nat.le_mul_of_pos_left (128 ^ 10) hpositive
    omega
  | succ rounds ih =>
    cases input with
    | nil =>
      refine iff_of_false nofun ?_
      rintro ⟨high, hinput, -⟩
      have hlength := congrArg List.length hinput
      have hpositive := varintLength_pos high
      rw [List.length_nil, List.length_append, length_writeVarint] at hlength
      omega
    | cons byte later =>
      have hgrowth : 128 ^ (index + 1) = 128 ^ index * 128 := Nat.pow_succ 128 index
      have hpower : 0 < 128 ^ index := Nat.pow_pos (by decide)
      have hbyte := byte.toNat_lt
      rw [readVarintRounds, bind_ok]
      simp only [require_ok, exists_const, accumulate hvalue, toNat_and_127, cons_eq_writeVarint,
        UInt8.lt_iff_toNat_lt]
      by_cases hlast : byte.toNat < 128
      · have hsum : byte.toNat * 128 ^ index ≤ 127 * 128 ^ index :=
          Nat.mul_le_mul_right _ (by omega)
        have hlength : index + 1 = varintLength (value + byte.toNat * 128 ^ index) ↔
            index = 0 ∨ byte.toNat ≠ 0 := by
          rw [eq_comm, varintLength_eq, and_iff_right (by omega)]
          refine or_congr_right ⟨?_, fun hbyte => ?_⟩
          · intro hle hzero
            rw [hzero] at hle
            omega
          · have hle := Nat.le_mul_of_pos_left (128 ^ index) (Nat.pos_of_ne_zero hbyte)
            omega
        rw [if_pos ((and_128_eq_zero byte).mpr hlast), Nat.mod_eq_of_lt hlast, bind_ok]
        simp only [require_ok, exists_const, hlength]
        constructor
        · rintro ⟨hguard, hminimal, hresult⟩
          cases hresult
          exact ⟨byte.toNat, .inl ⟨hlast, rfl, rfl⟩, rfl,
            (varint_bound (by omega) hvalue hlast).mpr hguard, hminimal⟩
        · rintro ⟨high, ⟨-, rfl, rfl⟩ | ⟨hmarked, -⟩, rfl, hbound, hminimal⟩
          · exact ⟨(varint_bound (by omega) hvalue hlast).mp hbound, hminimal, rfl⟩
          · omega
      · have hnext : value + byte.toNat % 128 * 128 ^ index < 128 ^ (index + 1) := by
          have hle : byte.toNat % 128 * 128 ^ index ≤ 127 * 128 ^ index :=
            Nat.mul_le_mul_right _ (by omega)
          omega
        rw [if_neg (mt (and_128_eq_zero byte).mp hlast), ih (by omega) hnext, hgrowth]
        constructor
        · rintro ⟨hguard, high, rfl, rfl, hbound, hminimal⟩
          have hhigh : 0 < high := Nat.pos_of_ne_zero (hminimal.resolve_left (Nat.succ_ne_zero _))
          refine ⟨byte.toNat % 128 + high * 128, .inr ⟨by omega, by omega, by omega, ?_⟩, ?_,
            hbound, .inr (by omega)⟩
          · congr 2
            omega
          · ring
        · rintro ⟨high, ⟨hsmall, -⟩ | ⟨-, hlarge, hlow, rfl⟩, rfl, hbound, -⟩
          · omega
          · have hsplit : high * 128 ^ index =
                byte.toNat % 128 * 128 ^ index + high / 128 * (128 ^ index * 128) := by
              have hhigh : high = byte.toNat % 128 + high / 128 * 128 := by omega
              rw [hhigh, Nat.add_mul]
              congr 1
              rw [← hhigh]
              ring
            refine ⟨?_, high / 128, rfl, by omega, hbound, .inr (by omega)⟩
            rintro ⟨rfl, -⟩
            omega

theorem readVarint_ok : readVarint input = .ok (result, rest) ↔
    input = writeVarint result ++ rest ∧ result < 2 ^ 64 := by
  rw [readVarint, readVarintRounds_ok (by decide) (by decide)]
  constructor
  · rintro ⟨high, hinput, rfl, hbound, -⟩
    rw [Nat.zero_add, Nat.pow_zero, Nat.mul_one] at hbound ⊢
    exact ⟨hinput, hbound⟩
  · rintro ⟨hinput, hbound⟩
    exact ⟨result, hinput, by rw [Nat.zero_add, Nat.pow_zero, Nat.mul_one], hbound, .inl rfl⟩

end Varint

section Fields

variable {input rest : List UInt8} {field wireType : Nat}

theorem readKey_ok : readKey input = .ok ((field, wireType), rest) ↔
    input = writeVarint (field * 8 + wireType) ++ rest ∧ 0 < field ∧ field < 2 ^ 32 ∧
      wireType < 8 := by
  simp only [readKey, bind_ok, fetch_ok, fits_some, require_ok, exists_const]
  constructor
  · rintro ⟨⟨key, later⟩, hkey, _, ⟨hfield, rfl⟩, hnonzero, hresult⟩
    obtain ⟨hboth, rfl⟩ := ok_inj hresult
    cases hboth
    obtain ⟨hinput, -⟩ := readVarint_ok.mp hkey
    have hlow : key &&& 7 = key % 8 := Nat.and_two_pow_sub_one_eq_mod key 3
    rw [Nat.shiftRight_eq_div_pow] at hfield hnonzero ⊢
    rw [hlow]
    refine ⟨?_, Nat.pos_of_ne_zero hnonzero, hfield, Nat.mod_lt _ (by decide)⟩
    rwa [show key / 2 ^ 3 * 8 + key % 8 = key by omega]
  · rintro ⟨hinput, hpositive, hfield, hwire⟩
    have hkey := readVarint_ok.mpr ⟨hinput, (by omega : field * 8 + wireType < 2 ^ 64)⟩
    have hlow : field * 8 + wireType &&& 7 = wireType := by
      have hmod := Nat.and_two_pow_sub_one_eq_mod (field * 8 + wireType) 3
      change field * 8 + wireType &&& 7 = _ at hmod
      omega
    refine ⟨_, hkey, field, ⟨?_, ?_⟩, hpositive.ne', by rw [hlow]; rfl⟩
    · rw [Nat.shiftRight_eq_div_pow]
      omega
    · rw [Nat.shiftRight_eq_div_pow]
      omega

theorem readLengthDelimited_ok {value : List UInt8} :
    readLengthDelimited input = .ok (value, rest) ↔
      input = writeVarint value.length ++ value ++ rest ∧ value.length ≤ maxEnvelopeBodyBytes := by
  simp only [readLengthDelimited, bind_ok, fetch_ok, fits_some, require_ok, exists_const]
  constructor
  · rintro ⟨⟨raw, later⟩, hraw, _, ⟨-, rfl⟩, hmaximum, hroom, hresult⟩
    cases hresult
    obtain ⟨hinput, -⟩ := readVarint_ok.mp hraw
    rw [List.length_take_of_le hroom, List.append_assoc, List.take_append_drop]
    exact ⟨hinput, hmaximum⟩
  · rintro ⟨hinput, hmaximum⟩
    have hbound : value.length < 2 ^ 64 := hmaximum.trans_lt (by decide)
    rw [List.append_assoc] at hinput
    refine ⟨_, readVarint_ok.mpr ⟨hinput, hbound⟩, value.length, ⟨hbound, rfl⟩, hmaximum, ?_, ?_⟩
    · rw [List.length_append]
      exact Nat.le_add_right _ _
    · rw [List.take_left, List.drop_left]
      rfl

structure ValidJson (value : List UInt8) : Prop where
  nonempty : value ≠ []
  bounded : value.length ≤ maxEnvelopeBodyBytes
  utf8 : validString value = true

theorem validateJsonBytes_ok {value : List UInt8} {u : Unit} :
    validateJsonBytes field value = .ok u ↔ ValidJson value := by
  simp only [validateJsonBytes, bind_ok, require_ok, exists_const]
  constructor
  · rintro ⟨⟨hnonempty, hbounded⟩, hutf8⟩
    exact ⟨hnonempty, hbounded, hutf8⟩
  · exact fun h => ⟨⟨h.nonempty, h.bounded⟩, h.utf8⟩

def jsonField (key : UInt8) (value : List UInt8) : List UInt8 :=
  key :: writeVarint value.length ++ value

def statusField (status : Nat) : List UInt8 := 0x08 :: writeVarint status

def ValidStatus (status : Nat) : Prop := 100 ≤ status ∧ status ≤ 599

theorem readKey_small (key : UInt8) (hpositive : 8 ≤ key.toNat) (hsmall : key.toNat < 128) :
    readKey input = .ok ((key.toNat / 8, key.toNat % 8), rest) ↔ input = key :: rest := by
  have hkey : key.toNat / 8 * 8 + key.toNat % 8 = key.toNat := by omega
  rw [readKey_ok, hkey, writeVarint_small hsmall, UInt8.ofNat_toNat, List.singleton_append]
  exact and_iff_left ⟨by omega, by omega, by omega⟩

theorem readCommandField_ok {request request' : Option (List UInt8)} :
    readCommandField request input = .ok (request', rest) ↔
      request = none ∧ ∃ value, ValidJson value ∧ request' = some value ∧
        input = jsonField 0x0a value ++ rest := by
  have hkey : ∀ later, readKey input = .ok ((1, 2), later) ↔ input = 0x0a :: later :=
    fun later => readKey_small 0x0a (by decide) (by decide)
  rw [readCommandField, bind_ok]
  constructor
  · rintro ⟨⟨key, later⟩, hread, h⟩
    dsimp only at h
    split at h
    · simp only [bind_ok, require_ok, validateJsonBytes_ok, exists_const] at h
      obtain ⟨hnone, ⟨value, after⟩, hvalue, hvalid, hresult⟩ := h
      cases hresult
      obtain ⟨rfl, -⟩ := readLengthDelimited_ok.mp hvalue
      exact ⟨hnone, value, hvalid, rfl, (hkey _).mp hread⟩
    · cases h
    · cases h
  · rintro ⟨rfl, value, hvalid, rfl, rfl⟩
    refine ⟨((1, 2), writeVarint value.length ++ value ++ rest), (hkey _).mpr rfl, ?_⟩
    simp only [bind_ok, require_ok, validateJsonBytes_ok, exists_const]
    exact ⟨trivial, (value, rest), readLengthDelimited_ok.mpr ⟨rfl, hvalid.bounded⟩, hvalid, rfl⟩

theorem readResponseField_ok {fields fields' : ResponseFields} :
    readResponseField fields input = .ok (fields', rest) ↔
      (fields.1 = none ∧ ∃ status, ValidStatus status ∧ fields' = (some status, fields.2) ∧
        input = statusField status ++ rest) ∨
      (fields.2 = none ∧ ∃ value, ValidJson value ∧ fields' = (fields.1, some value) ∧
        input = jsonField 0x12 value ++ rest) := by
  have hstatus : ∀ later, readKey input = .ok ((1, 0), later) ↔ input = 0x08 :: later :=
    fun later => readKey_small 0x08 (by decide) (by decide)
  have hbody : ∀ later, readKey input = .ok ((2, 2), later) ↔ input = 0x12 :: later :=
    fun later => readKey_small 0x12 (by decide) (by decide)
  rw [readResponseField, bind_ok]
  constructor
  · rintro ⟨⟨key, later⟩, hread, h⟩
    dsimp only at h
    split at h
    · simp only [bind_ok, require_ok, exists_const] at h
      obtain ⟨hnone, ⟨status, after⟩, hvarint, hvalid, hresult⟩ := h
      cases hresult
      obtain ⟨rfl, -⟩ := readVarint_ok.mp hvarint
      exact .inl ⟨hnone, status, hvalid, rfl, (hstatus _).mp hread⟩
    · cases h
    · simp only [bind_ok, require_ok, validateJsonBytes_ok, exists_const] at h
      obtain ⟨hnone, ⟨value, after⟩, hvalue, hvalid, hresult⟩ := h
      cases hresult
      obtain ⟨rfl, -⟩ := readLengthDelimited_ok.mp hvalue
      exact .inr ⟨hnone, value, hvalid, rfl, (hbody _).mp hread⟩
    · cases h
    · cases h
  · rintro (⟨hnone, status, hvalid, rfl, rfl⟩ | ⟨hnone, value, hvalid, rfl, rfl⟩)
    · refine ⟨((1, 0), writeVarint status ++ rest), (hstatus _).mpr rfl, ?_⟩
      simp only [bind_ok, require_ok, exists_const]
      have hsmall : status < 2 ^ 64 := hvalid.2.trans_lt (by decide)
      exact ⟨hnone, (status, rest), readVarint_ok.mpr ⟨rfl, hsmall⟩, hvalid, rfl⟩
    · refine ⟨((2, 2), writeVarint value.length ++ value ++ rest), (hbody _).mpr rfl, ?_⟩
      simp only [bind_ok, require_ok, validateJsonBytes_ok, exists_const]
      exact ⟨hnone, (value, rest), readLengthDelimited_ok.mpr ⟨rfl, hvalid.bounded⟩, hvalid, rfl⟩

end Fields

section Envelopes

variable {input output : List UInt8} {request : List UInt8}

theorem encodeAuthorityCommand_ok :
    encodeAuthorityCommand request = .ok output ↔
      ValidJson request ∧ output = jsonField 0x0a request := by
  simp only [encodeAuthorityCommand, bind_ok, validateJsonBytes_ok, fetch_ok, fits_some,
    exists_const]
  constructor
  · rintro ⟨hvalid, _, ⟨-, rfl⟩, hresult⟩
    exact ⟨hvalid, (Except.ok.inj hresult).symm⟩
  · rintro ⟨hvalid, rfl⟩
    exact ⟨hvalid, _, ⟨hvalid.bounded.trans_lt (by decide), rfl⟩, rfl⟩

variable {status : Nat} {body : List UInt8}

theorem encodeAuthorityResponse_ok :
    encodeAuthorityResponse status body = .ok output ↔ ValidStatus status ∧ ValidJson body ∧
      output = statusField status ++ jsonField 0x12 body := by
  simp only [encodeAuthorityResponse, bind_ok, require_ok, validateJsonBytes_ok, fetch_ok,
    fits_some, exists_const, List.append_assoc]
  constructor
  · rintro ⟨hstatus, hvalid, _, ⟨-, rfl⟩, hresult⟩
    exact ⟨hstatus, hvalid, (Except.ok.inj hresult).symm⟩
  · rintro ⟨hstatus, hvalid, rfl⟩
    exact ⟨hstatus, hvalid, _, ⟨hvalid.bounded.trans_lt (by decide), rfl⟩, rfl⟩

theorem commandFields_full {result : Option (List UInt8)} :
    commandFields.run (some request) input = .ok result ↔ input = [] ∧ some request = result := by
  rw [Reader.run_ok]
  refine or_iff_left ?_
  rintro ⟨request', rest, hstep, -⟩
  cases (readCommandField_ok.mp hstep).1

theorem decodeAuthorityCommand_ok :
    decodeAuthorityCommand input = .ok ⟨request⟩ ↔
      ValidJson request ∧ input = jsonField 0x0a request := by
  simp only [decodeAuthorityCommand, bind_ok, fetch_ok]
  constructor
  · rintro ⟨result, hrun, _, rfl, hresult⟩
    cases congrArg AuthorityCommandEnvelope.jsonRequest (Except.ok.inj hresult)
    rcases Reader.run_ok.mp hrun with ⟨-, hnone⟩ | ⟨request', rest, hstep, hrest⟩
    · cases hnone
    · obtain ⟨-, value, hvalid, rfl, rfl⟩ := readCommandField_ok.mp hstep
      obtain ⟨rfl, hvalue⟩ := commandFields_full.mp hrest
      cases hvalue
      exact ⟨hvalid, List.append_nil _⟩
  · rintro ⟨hvalid, rfl⟩
    have hstep : readCommandField none (jsonField 0x0a request) = .ok (some request, []) :=
      readCommandField_ok.mpr ⟨rfl, request, hvalid, rfl, (List.append_nil _).symm⟩
    exact ⟨some request, Reader.run_ok.mpr (.inr ⟨_, _, hstep, Reader.run_nil⟩), request, rfl, rfl⟩

theorem responseFields_full {result : ResponseFields} :
    responseFields.run (some status, some body) input = .ok result ↔
      input = [] ∧ (some status, some body) = result := by
  rw [Reader.run_ok]
  refine or_iff_left ?_
  rintro ⟨fields, rest, hstep, -⟩
  rcases readResponseField_ok.mp hstep with ⟨hnone, -⟩ | ⟨hnone, -⟩
  · cases hnone
  · cases hnone

theorem responseFields_body {status' : Nat} :
    responseFields.run (some status, none) input = .ok (some status', some body) ↔
      status = status' ∧ ValidJson body ∧ input = jsonField 0x12 body := by
  rw [Reader.run_ok]
  constructor
  · rintro (⟨-, hfields⟩ | ⟨fields, rest, hstep, hrest⟩)
    · cases hfields
    · rcases readResponseField_ok.mp hstep with ⟨hnone, -⟩ | ⟨-, value, hvalid, rfl, rfl⟩
      · cases hnone
      · obtain ⟨rfl, hfields⟩ := responseFields_full.mp hrest
        obtain ⟨hstatus, hbody⟩ := Prod.mk.inj hfields
        cases hbody
        exact ⟨Option.some.inj hstatus, hvalid, List.append_nil _⟩
  · rintro ⟨rfl, hvalid, rfl⟩
    have hstep : readResponseField (some status, none) (jsonField 0x12 body) =
        .ok ((some status, some body), []) :=
      readResponseField_ok.mpr (.inr ⟨rfl, body, hvalid, rfl, (List.append_nil _).symm⟩)
    exact .inr ⟨_, _, hstep, Reader.run_nil⟩

theorem responseFields_status {body' : List UInt8} :
    responseFields.run (none, some body) input = .ok (some status, some body') ↔
      body = body' ∧ ValidStatus status ∧ input = statusField status := by
  rw [Reader.run_ok]
  constructor
  · rintro (⟨-, hfields⟩ | ⟨fields, rest, hstep, hrest⟩)
    · cases hfields
    · rcases readResponseField_ok.mp hstep with ⟨-, value, hvalid, rfl, rfl⟩ | ⟨hnone, -⟩
      · obtain ⟨rfl, hfields⟩ := responseFields_full.mp hrest
        obtain ⟨hstatus, hbody⟩ := Prod.mk.inj hfields
        cases hstatus
        exact ⟨Option.some.inj hbody, hvalid, List.append_nil _⟩
      · cases hnone
  · rintro ⟨rfl, hvalid, rfl⟩
    have hstep : readResponseField (none, some body) (statusField status) =
        .ok ((some status, some body), []) :=
      readResponseField_ok.mpr (.inl ⟨rfl, status, hvalid, rfl, (List.append_nil _).symm⟩)
    exact .inr ⟨_, _, hstep, Reader.run_nil⟩

theorem decodeAuthorityResponse_ok :
    decodeAuthorityResponse input = .ok ⟨status, body⟩ ↔ ValidStatus status ∧ ValidJson body ∧
      (input = statusField status ++ jsonField 0x12 body ∨
        input = jsonField 0x12 body ++ statusField status) := by
  have hrun : decodeAuthorityResponse input = .ok ⟨status, body⟩ ↔
      responseFields.run (none, none) input = .ok (some status, some body) := by
    simp only [decodeAuthorityResponse, bind_ok, fetch_ok]
    constructor
    · rintro ⟨⟨given, given'⟩, hrun, _, rfl, _, rfl, hresult⟩
      obtain ⟨rfl, rfl⟩ := AuthorityResponseEnvelope.mk.inj (Except.ok.inj hresult)
      exact hrun
    · exact fun hrun => ⟨_, hrun, status, rfl, body, rfl, rfl⟩
  rw [hrun, Reader.run_ok]
  constructor
  · rintro (⟨-, hfields⟩ | ⟨fields, rest, hstep, hrest⟩)
    · cases hfields
    · rcases readResponseField_ok.mp hstep with
        ⟨-, value, hvalid, rfl, rfl⟩ | ⟨-, value, hvalid, rfl, rfl⟩
      · obtain ⟨rfl, hbody, rfl⟩ := responseFields_body.mp hrest
        exact ⟨hvalid, hbody, .inl rfl⟩
      · obtain ⟨rfl, hstatus, rfl⟩ := responseFields_status.mp hrest
        exact ⟨hstatus, hvalid, .inr rfl⟩
  · rintro ⟨hstatus, hbody, rfl | rfl⟩
    · have hstep : readResponseField (none, none) (statusField status ++ jsonField 0x12 body) =
          .ok ((some status, none), jsonField 0x12 body) :=
        readResponseField_ok.mpr (.inl ⟨rfl, status, hstatus, rfl, rfl⟩)
      exact .inr ⟨_, _, hstep, responseFields_body.mpr ⟨rfl, hbody, rfl⟩⟩
    · have hstep : readResponseField (none, none) (jsonField 0x12 body ++ statusField status) =
          .ok ((none, some body), statusField status) :=
        readResponseField_ok.mpr (.inr ⟨rfl, body, hbody, rfl, rfl⟩)
      exact .inr ⟨_, _, hstep, responseFields_status.mpr ⟨rfl, hstatus, rfl⟩⟩

theorem length_writeVarint_le {value n : Nat} (h : value < 128 ^ (n + 1)) :
    (writeVarint value).length ≤ n + 1 := by
  rw [length_writeVarint]
  obtain ⟨length, hlength⟩ := Nat.exists_eq_succ_of_ne_zero (varintLength_pos value).ne'
  rw [hlength]
  refine Nat.succ_le_succ ?_
  rcases (varintLength_eq.mp hlength).2 with rfl | hle
  · exact Nat.zero_le n
  · exact Nat.lt_succ_iff.mp ((Nat.pow_lt_pow_iff_right (by decide)).mp (hle.trans_lt h))

theorem ValidJson.length_field {value : List UInt8} (h : ValidJson value) (key : UInt8) :
    (jsonField key value).length ≤ maxEnvelopeBodyBytes + 4 := by
  have hbounded := h.bounded
  have hvarint : (writeVarint value.length).length ≤ 3 :=
    length_writeVarint_le (hbounded.trans_lt (by decide))
  rw [jsonField, List.length_append, List.length_cons]
  omega

theorem ValidStatus.length_field (h : ValidStatus status) : (statusField status).length ≤ 3 := by
  have hvarint : (writeVarint status).length ≤ 2 := length_writeVarint_le (h.2.trans_lt (by decide))
  rw [statusField, List.length_cons]
  omega

theorem encodeServerFrame_binary {payload : List UInt8} (h : payload.length ≤ maxPayloadBytes) :
    ∃ header, header.length ≤ 10 ∧ encodeServerFrame .binary payload = .ok (header ++ payload) := by
  have hlengths : ∀ length : List UInt8, length.length ≤ 9 →
      ((0x80 ||| Opcode.binary.value) :: length).length ≤ 10 := fun _ => Nat.succ_le_succ
  have hcontrol : ¬ (Opcode.binary.isControl = true ∧ 125 < payload.length) := fun h => nomatch h.1
  have htext : ¬ (Opcode.binary = .text ∧ validString payload = false) := fun h => nomatch h.1
  rw [encodeServerFrame, require_of h, ok_bind, require_of hcontrol, ok_bind, require_of htext,
    ok_bind]
  refine ⟨_, hlengths _ ?_, rfl⟩
  split
  · exact (by decide : 1 ≤ 9)
  · split
    · exact (by decide : 3 ≤ 9)
    · exact le_rfl

structure EnvelopeLaw : Prop where
  command : ∀ input request, decodeAuthorityCommand input = .ok ⟨request⟩ ↔
    encodeAuthorityCommand request = .ok input
  response : ∀ status body output, encodeAuthorityResponse status body = .ok output →
    decodeAuthorityResponse output = .ok ⟨status, body⟩
  orders : ∀ input status body, decodeAuthorityResponse input = .ok ⟨status, body⟩ ↔
    ValidStatus status ∧ ValidJson body ∧
      (input = statusField status ++ jsonField 0x12 body ∨
        input = jsonField 0x12 body ++ statusField status)
  sent : ∀ request, (∃ output, encodeAuthorityCommand request = .ok output) ↔ ValidJson request
  encoded : ∀ status body, (∃ output, encodeAuthorityResponse status body = .ok output) ↔
    ValidStatus status ∧ ValidJson body
  framed : ∀ output, ((∃ request, encodeAuthorityCommand request = .ok output) ∨
      ∃ status body, encodeAuthorityResponse status body = .ok output) →
    ∃ header, header.length ≤ 10 ∧ encodeServerFrame .binary output = .ok (header ++ output)

theorem envelopes_canonical : EnvelopeLaw where
  command := fun input request => by rw [decodeAuthorityCommand_ok, encodeAuthorityCommand_ok]
  response := by
    intro status body output h
    obtain ⟨hstatus, hbody, houtput⟩ := encodeAuthorityResponse_ok.mp h
    exact decodeAuthorityResponse_ok.mpr ⟨hstatus, hbody, .inl houtput⟩
  orders := fun _ _ _ => decodeAuthorityResponse_ok
  sent := by
    intro request
    constructor
    · rintro ⟨output, h⟩
      exact (encodeAuthorityCommand_ok.mp h).1
    · exact fun hrequest => ⟨_, encodeAuthorityCommand_ok.mpr ⟨hrequest, rfl⟩⟩
  encoded := by
    intro status body
    constructor
    · rintro ⟨output, h⟩
      obtain ⟨hstatus, hbody, -⟩ := encodeAuthorityResponse_ok.mp h
      exact ⟨hstatus, hbody⟩
    · rintro ⟨hstatus, hbody⟩
      exact ⟨_, encodeAuthorityResponse_ok.mpr ⟨hstatus, hbody, rfl⟩⟩
  framed := by
    rintro output (⟨request, h⟩ | ⟨status, body, h⟩)
    · obtain ⟨hrequest, rfl⟩ := encodeAuthorityCommand_ok.mp h
      refine encodeServerFrame_binary ((hrequest.length_field 0x0a).trans ?_)
      decide
    · obtain ⟨hstatus, hbody, rfl⟩ := encodeAuthorityResponse_ok.mp h
      refine encodeServerFrame_binary ?_
      have hlength := Nat.add_le_add hstatus.length_field (hbody.length_field 0x12)
      rw [List.length_append]
      exact hlength.trans (by decide)

end Envelopes

end RealtimeWire
