import Mathlib.Data.List.GetD
import TrillionniumGame.TokenJwt.Json

namespace TokenJwt
open Checks

inductive Base64UrlError where
  | invalidCharacter (index : Nat) (byte : UInt8)
  | invalidLength
  | nonCanonicalTrailingBits
  | decodedLengthExceeded (limit : Nat)

namespace Base64url

def alphabet : List UInt8 :=
  "ABCDEFGHIJKLMNOPQRSTUVWXYZabcdefghijklmnopqrstuvwxyz0123456789-_".toList.map ascii

def symbol (value : Nat) : UInt8 := alphabet.getD value 0

def sextets : List UInt8 → List Nat
  | [] => []
  | [first] =>
    let value := first.toNat * 2 ^ 16
    [value / 2 ^ 18 % 64, value / 2 ^ 12 % 64]
  | [first, second] =>
    let value := first.toNat * 2 ^ 16 + second.toNat * 2 ^ 8
    [value / 2 ^ 18 % 64, value / 2 ^ 12 % 64, value / 2 ^ 6 % 64]
  | first :: second :: third :: rest =>
    let value := first.toNat * 2 ^ 16 + second.toNat * 2 ^ 8 + third.toNat
    value / 2 ^ 18 % 64 :: value / 2 ^ 12 % 64 :: value / 2 ^ 6 % 64 :: value % 64 :: sextets rest

def encode (input : List UInt8) : List UInt8 := (sextets input).map symbol

def symbolValue (byte : UInt8) : Option Nat :=
  if ascii 'A' ≤ byte ∧ byte ≤ ascii 'Z' then some (byte.toNat - 65)
  else if ascii 'a' ≤ byte ∧ byte ≤ ascii 'z' then some (byte.toNat - 97 + 26)
  else if ascii '0' ≤ byte ∧ byte ≤ ascii '9' then some (byte.toNat - 48 + 52)
  else if byte = ascii '-' then some 62
  else if byte = ascii '_' then some 63
  else none

def decodeByte (index : Nat) (byte : UInt8) : Except Base64UrlError Nat :=
  fetch (symbolValue byte) (.invalidCharacter index byte)

def decodeBytes : Nat → List UInt8 → Except Base64UrlError (List Nat)
  | _, [] => .ok []
  | index, byte :: rest => do
    let value ← decodeByte index byte
    let values ← decodeBytes (index + 1) rest
    return value :: values

def decodeValues : List Nat → Except Base64UrlError (List UInt8)
  | [] => .ok []
  | [_] => .error .invalidLength
  | [first, second] => do
    require (second % 16 = 0) .nonCanonicalTrailingBits
    return [UInt8.ofNat (first * 4 + second / 16)]
  | [first, second, third] => do
    require (third % 4 = 0) .nonCanonicalTrailingBits
    return [UInt8.ofNat (first * 4 + second / 16), UInt8.ofNat (second * 16 + third / 4)]
  | first :: second :: third :: fourth :: rest => do
    let value := first * 2 ^ 18 + second * 2 ^ 12 + third * 2 ^ 6 + fourth
    let output ← decodeValues rest
    return UInt8.ofNat (value / 2 ^ 16) :: UInt8.ofNat (value / 2 ^ 8) :: UInt8.ofNat value ::
      output

def decodedLength (length : Nat) : Nat := length / 4 * 3 + (length % 4 - 1)

def decode (input : List UInt8) (maxDecodedLen : Nat) : Except Base64UrlError (List UInt8) := do
  require (input.length % 4 ≠ 1) .invalidLength
  require (decodedLength input.length ≤ maxDecodedLen) (.decodedLengthExceeded maxDecodedLen)
  let values ← decodeBytes 0 input
  decodeValues values

variable {bytes input : List UInt8} {values : List Nat} {value : Nat}

theorem symbolValue_symbol (h : value < 64) : symbolValue (symbol value) = some value := by
  have hall : ∀ value < 64, symbolValue (symbol value) = some value := by
    unfold symbol alphabet
    rw [String.toList_ofList]
    decide +kernel
  exact hall value h

variable {byte : UInt8}

theorem symbolValue_some (h : symbolValue byte = some value) :
    value < 64 ∧ symbol value = byte := by
  have hall : ∀ byte, ∀ value ∈ symbolValue byte, value < 64 ∧ symbol value = byte := by
    unfold symbol alphabet
    rw [String.toList_ofList]
    exact forall_byte (by decide +kernel)
  exact hall byte value h

theorem sextets_lt (bytes : List UInt8) : ∀ value ∈ sextets bytes, value < 64 := by
  induction bytes using sextets.induct with
  | case1 => exact fun _ => nofun
  | case2 first | case3 first second =>
    simp only [sextets, List.mem_cons, List.not_mem_nil, or_false]
    omega
  | case4 first second third rest ih =>
    simp only [sextets, List.mem_cons]
    rintro value (rfl | rfl | rfl | rfl | hrest)
    · omega
    · omega
    · omega
    · omega
    · exact ih value hrest

theorem length_sextets (bytes : List UInt8) :
    (sextets bytes).length % 4 ≠ 1 ∧ decodedLength (sextets bytes).length = bytes.length := by
  unfold decodedLength
  induction bytes using sextets.induct with
  | case1 => decide
  | case2 first | case3 first second => simp [sextets]
  | case4 first second third rest ih =>
    simp only [sextets, List.length_cons]
    omega

theorem decodeBytes_symbols (h : ∀ value ∈ values, value < 64) (index : Nat) :
    decodeBytes index (values.map symbol) = .ok values := by
  induction values generalizing index with
  | nil => rfl
  | cons value rest ih =>
    rw [List.forall_mem_cons] at h
    rw [List.map_cons, decodeBytes, decodeByte, symbolValue_symbol h.1, ih h.2]
    rfl

theorem decodeBytes_ok {index : Nat} (h : decodeBytes index input = .ok values) :
    (∀ value ∈ values, value < 64) ∧ values.map symbol = input := by
  induction input generalizing index values with
  | nil =>
    cases h
    exact ⟨fun _ => nofun, rfl⟩
  | cons byte rest ih =>
    simp only [decodeBytes, decodeByte, bind_ok, fetch_ok] at h
    obtain ⟨value, hbyte, found, hfound, h⟩ := h
    cases h
    obtain ⟨hlt, hsymbol⟩ := symbolValue_some hbyte
    obtain ⟨hall, hmap⟩ := ih hfound
    exact ⟨List.forall_mem_cons.mpr ⟨hlt, hall⟩, by rw [List.map_cons, hsymbol, hmap]⟩

theorem ofNat_eq (byte : UInt8) {n : Nat} (h : n % 256 = byte.toNat) : UInt8.ofNat n = byte :=
  UInt8.toNat_inj.mp (by rw [UInt8.toNat_ofNat', h])

theorem decodeValues_sextets (bytes : List UInt8) : decodeValues (sextets bytes) = .ok bytes := by
  induction bytes using sextets.induct with
  | case1 => rfl
  | case2 first =>
    have hfirst := first.toNat_lt
    rw [sextets, decodeValues, require_of (by omega), ok_bind, ofNat_eq first (by omega)]
    rfl
  | case3 first second =>
    have hfirst := first.toNat_lt
    have hsecond := second.toNat_lt
    rw [sextets, decodeValues, require_of (by omega), ok_bind, ofNat_eq first (by omega),
      ofNat_eq second (by omega)]
    rfl
  | case4 first second third rest ih =>
    have hfirst := first.toNat_lt
    have hsecond := second.toNat_lt
    have hthird := third.toNat_lt
    rw [sextets, decodeValues, ih, ok_bind, ofNat_eq first (by omega),
      ofNat_eq second (by omega), ofNat_eq third (by omega)]
    rfl

theorem decodeValues_ok (hvalues : ∀ value ∈ values, value < 64)
    (h : decodeValues values = .ok bytes) : sextets bytes = values := by
  induction values using decodeValues.induct generalizing bytes with
  | case1 =>
    cases h
    rfl
  | case2 value => cases h
  | case3 first second | case4 first second third =>
    simp only [List.forall_mem_cons] at hvalues
    simp only [decodeValues, bind_ok, require_ok] at h
    obtain ⟨-, htrailing, h⟩ := h
    cases h
    simp only [sextets, UInt8.toNat_ofNat', List.cons.injEq, and_true]
    omega
  | case5 first second third fourth rest ih =>
    simp only [List.forall_mem_cons] at hvalues
    simp only [decodeValues, bind_ok] at h
    obtain ⟨output, hrest, h⟩ := h
    cases h
    simp only [sextets, UInt8.toNat_ofNat', List.cons.injEq]
    refine ⟨by omega, by omega, by omega, by omega, ?_⟩
    exact ih hvalues.2.2.2.2 hrest

variable {maxDecodedLen : Nat}

theorem decode_encode (h : bytes.length ≤ maxDecodedLen) :
    decode (encode bytes) maxDecodedLen = .ok bytes := by
  obtain ⟨hlength, hdecoded⟩ := length_sextets bytes
  have hmap : (encode bytes).length = (sextets bytes).length := List.length_map _
  rw [decode, hmap, require_of hlength, ok_bind, hdecoded, require_of h, ok_bind, encode,
    decodeBytes_symbols (sextets_lt bytes), ok_bind, decodeValues_sextets]

theorem encode_decode (h : decode input maxDecodedLen = .ok bytes) :
    input = encode bytes ∧ bytes.length ≤ maxDecodedLen := by
  simp only [decode, bind_ok, require_ok] at h
  obtain ⟨-, -, -, hlength, values, hvalues, h⟩ := h
  obtain ⟨hlt, hmap⟩ := decodeBytes_ok hvalues
  have hsextets := decodeValues_ok hlt h
  have hinput : input = encode bytes := by rw [encode, hsextets, hmap]
  refine ⟨hinput, ?_⟩
  rwa [hinput, encode, List.length_map, (length_sextets bytes).2] at hlength

theorem encode_inj {bytes' : List UInt8} (h : encode bytes = encode bytes') : bytes = bytes' := by
  have hdecode := decode_encode (Nat.le_max_left bytes.length bytes'.length)
  rw [h, decode_encode (Nat.le_max_right bytes.length bytes'.length)] at hdecode
  exact (Except.ok.inj hdecode).symm

theorem encode_symbols (h : byte ∈ encode bytes) : byte ∈ alphabet := by
  obtain ⟨value, hvalue, rfl⟩ := List.mem_map.mp h
  have hlt : value < alphabet.length := sextets_lt bytes value hvalue
  rw [symbol, List.getD_eq_getElem _ _ hlt]
  exact List.getElem_mem hlt

theorem length_encode (bytes : List UInt8) :
    (encode bytes).length ≤ bytes.length * 2 := by
  rw [encode, List.length_map, ← (length_sextets bytes).2, decodedLength]
  have hone := (length_sextets bytes).1
  omega

theorem encode_eq_nil : encode bytes = [] ↔ bytes = [] := by
  rw [← List.length_eq_zero_iff, ← List.length_eq_zero_iff, encode, List.length_map,
    ← (length_sextets bytes).2, decodedLength]
  have hone := (length_sextets bytes).1
  omega

def spare (length : Nat) : Nat :=
  match length % 4 with
  | 2 => 16
  | 3 => 4
  | _ => 1

structure Canonical (input : List UInt8) : Prop where
  symbols : ∀ byte ∈ input, byte ∈ alphabet
  whole : input.length % 4 ≠ 1
  tail : ∀ byte ∈ input.getLast?, ∀ value, symbolValue byte = some value →
    value % spare input.length = 0

theorem symbolValue_of (h : byte ∈ alphabet) : ∃ value, symbolValue byte = some value := by
  have hall : ∀ byte ∈ alphabet, (symbolValue byte).isSome := by
    unfold alphabet
    rw [String.toList_ofList]
    decide +kernel
  exact Option.isSome_iff_exists.mp (hall byte h)

theorem decodeBytes_of (h : ∀ byte ∈ input, byte ∈ alphabet) (index : Nat) :
    ∃ values, decodeBytes index input = .ok values := by
  induction input generalizing index with
  | nil => exact ⟨[], rfl⟩
  | cons byte rest ih =>
    obtain ⟨hbyte, hrest⟩ := List.forall_mem_cons.mp h
    obtain ⟨value, hvalue⟩ := symbolValue_of hbyte
    obtain ⟨found, hfound⟩ := ih hrest (index + 1)
    refine ⟨value :: found, ?_⟩
    rw [decodeBytes, decodeByte, hvalue, hfound]
    rfl

theorem decodeValues_of (hwhole : values.length % 4 ≠ 1)
    (htail : ∀ value ∈ values.getLast?, value % spare values.length = 0) :
    ∃ bytes, decodeValues values = .ok bytes := by
  induction values using decodeValues.induct with
  | case1 => exact ⟨[], rfl⟩
  | case2 value => exact absurd rfl hwhole
  | case3 first second =>
    have hsecond : second % 16 = 0 := htail second rfl
    rw [decodeValues, require_of hsecond]
    exact ⟨_, rfl⟩
  | case4 first second third =>
    have hthird : third % 4 = 0 := htail third rfl
    rw [decodeValues, require_of hthird]
    exact ⟨_, rfl⟩
  | case5 first second third fourth rest ih =>
    have hlength : (first :: second :: third :: fourth :: rest).length % 4 = rest.length % 4 :=
      Nat.add_mod_right rest.length 4
    rw [hlength] at hwhole
    have hrest : ∀ value ∈ rest.getLast?, value % spare rest.length = 0 := by
      intro value hvalue
      have hlast := htail value (by simp [List.getLast?_cons, Option.mem_def.mp hvalue])
      rwa [spare, hlength] at hlast
    obtain ⟨output, houtput⟩ := ih hwhole hrest
    rw [decodeValues, houtput]
    exact ⟨_, rfl⟩

theorem sextets_tail (bytes : List UInt8) :
    ∀ value ∈ (sextets bytes).getLast?, value % spare (sextets bytes).length = 0 := by
  induction bytes using sextets.induct with
  | case1 => exact fun _ => nofun
  | case2 first =>
    rw [sextets, List.getLast?_cons_cons, List.getLast?_singleton]
    rintro value ⟨⟩
    have hlast : first.toNat * 2 ^ 16 / 2 ^ 12 % 64 % 16 = 0 := by omega
    exact hlast
  | case3 first second =>
    rw [sextets, List.getLast?_cons_cons, List.getLast?_cons_cons, List.getLast?_singleton]
    rintro value ⟨⟩
    have hlast : (first.toNat * 2 ^ 16 + second.toNat * 2 ^ 8) / 2 ^ 6 % 64 % 4 = 0 := by omega
    exact hlast
  | case4 first second third rest ih =>
    intro value hvalue
    cases hrest : sextets rest with
    | nil =>
      simp only [sextets, hrest, List.length_cons, List.length_nil]
      exact Nat.mod_one value
    | cons head tail =>
      simp only [sextets, hrest, List.getLast?_cons_cons] at hvalue
      rw [hrest] at ih
      have hlength : (sextets (first :: second :: third :: rest)).length % 4 =
          (head :: tail).length % 4 := by
        rw [sextets, hrest]
        exact Nat.add_mod_right (head :: tail).length 4
      rw [spare, hlength]
      exact ih value hvalue

theorem canonical_encode (bytes : List UInt8) : Canonical (encode bytes) := by
  refine ⟨fun byte => encode_symbols, ?_, ?_⟩
  · rw [encode, List.length_map]
    exact (length_sextets bytes).1
  · intro byte hbyte value hvalue
    rw [encode, List.getLast?_map, Option.mem_def, Option.map_eq_some_iff] at hbyte
    obtain ⟨place, hplace, rfl⟩ := hbyte
    have hlt := sextets_lt bytes place (List.mem_of_getLast? hplace)
    rw [symbolValue_symbol hlt] at hvalue
    cases hvalue
    rw [encode, List.length_map]
    exact sextets_tail bytes value hplace

theorem canonical_decode (h : Canonical input)
    (hlimit : decodedLength input.length ≤ maxDecodedLen) :
    ∃ bytes, decode input maxDecodedLen = .ok bytes := by
  obtain ⟨values, hvalues⟩ := decodeBytes_of h.symbols 0
  obtain ⟨hlt, hmap⟩ := decodeBytes_ok hvalues
  have hlength : values.length = input.length := by rw [← hmap, List.length_map]
  have htail : ∀ value ∈ values.getLast?, value % spare values.length = 0 := by
    intro value hvalue
    rw [hlength]
    refine h.tail (symbol value) ?_ value
      (symbolValue_symbol (hlt value (List.mem_of_getLast? hvalue)))
    rw [← hmap, List.getLast?_map, Option.mem_def.mp hvalue]
    rfl
  obtain ⟨bytes, hbytes⟩ := decodeValues_of (hlength ▸ h.whole) htail
  refine ⟨bytes, ?_⟩
  rw [decode, require_of h.whole, ok_bind, require_of hlimit, ok_bind, hvalues, ok_bind, hbytes]

theorem base64url_bijection :
    (∀ bytes maxDecodedLen, bytes.length ≤ maxDecodedLen →
      decode (encode bytes) maxDecodedLen = .ok bytes) ∧
    (∀ input maxDecodedLen bytes, decode input maxDecodedLen = .ok bytes → encode bytes = input) ∧
    (∀ input maxDecodedLen, (∃ bytes, decode input maxDecodedLen = .ok bytes) ↔
      Canonical input ∧ decodedLength input.length ≤ maxDecodedLen) := by
  refine ⟨fun _ _ => decode_encode, fun _ _ _ h => (encode_decode h).1.symm, ?_⟩
  intro input maxDecodedLen
  constructor
  · rintro ⟨bytes, hbytes⟩
    obtain ⟨rfl, hlength⟩ := encode_decode hbytes
    refine ⟨canonical_encode bytes, ?_⟩
    rwa [encode, List.length_map, (length_sextets bytes).2]
  · rintro ⟨hcanonical, hlimit⟩
    exact canonical_decode hcanonical hlimit

theorem base64url_bijection_sample :
    decode (encode [0xfb, 0xff]) 2 = .ok [0xfb, 0xff] ∧
    encode [0x66] = [ascii 'Z', ascii 'g'] ∧
    ¬ ∃ bytes, decode [ascii 'Z', ascii 'h'] 64 = .ok bytes := by
  obtain ⟨hdecode, hencode, haccepts⟩ := base64url_bijection
  refine ⟨hdecode _ _ (by decide), hencode _ 1 _ rfl, fun hread => ?_⟩
  obtain ⟨hcanonical, -⟩ := (haccepts [ascii 'Z', ascii 'h'] 64).mp hread
  have htail : 33 % 16 = 0 := hcanonical.tail (ascii 'h') rfl 33 rfl
  exact absurd htail (by decide)

end Base64url

end TokenJwt
