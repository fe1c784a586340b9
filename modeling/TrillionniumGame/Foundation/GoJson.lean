import Mathlib.Algebra.Order.Ring.Int
import Mathlib.Data.List.DropRight

namespace GoText

abbrev GoString := List UInt8

instance : LawfulBEq GoString := inferInstance

def str (s : String) : GoString := s.toUTF8.data.toList

def decodeRune : GoString → Option Char
  | [] => none
  | byte :: rest =>
    if byte.toNat < 0x80 then some (Char.ofNat byte.toNat)
    else ((byte :: rest).take 4).toByteArray.utf8DecodeChar? 0

-- The steps of a `range` over the string: a character with its bytes, or one byte that starts
-- none, which Go reads as U+FFFD.
def segmentsFrom : Nat → GoString → List (Option Char × GoString)
  | _, [] => []
  | 0, _ => []
  | fuel + 1, byte :: rest =>
    match decodeRune (byte :: rest) with
    | some c =>
      (some c, (byte :: rest).take c.utf8Size) ::
        segmentsFrom fuel ((byte :: rest).drop c.utf8Size)
    | none => (none, [byte]) :: segmentsFrom fuel rest

def segments (s : GoString) : List (Option Char × GoString) := segmentsFrom s.length s

def validString (s : GoString) : Bool := (segments s).all fun segment => segment.1.isSome

def runeError : Char := '\uFFFD'

def runes (s : GoString) : List Char := (segments s).map fun segment => segment.1.getD runeError

def ofRunes (cs : List Char) : GoString := cs.flatMap String.utf8EncodeChar

def isSpace (c : Char) : Bool :=
  c.toNat ∈ [0x09, 0x0A, 0x0B, 0x0C, 0x0D, 0x20, 0x85, 0xA0, 0x1680, 0x2028, 0x2029, 0x202F,
    0x205F, 0x3000] || (0x2000 ≤ c.toNat && c.toNat ≤ 0x200A)

def spaceSegment (segment : Option Char × GoString) : Bool := segment.1.any isSpace

def trimSpace (s : GoString) : GoString :=
  (((segments s).dropWhile spaceSegment).rdropWhile spaceSegment).flatMap (·.2)

def blank (s : GoString) : Bool := trimSpace s = []

-- `strings.Map`: a byte that starts no character comes out as an encoded U+FFFD.
def mapRunes (f : Char → Char) (s : GoString) : GoString := ofRunes ((runes s).map f)

def hexDigit (n : Nat) : UInt8 := UInt8.ofNat (if n < 10 then 0x30 + n else 0x57 + n)

def hexByte (b : UInt8) : GoString := [hexDigit (b.toNat / 16), hexDigit (b.toNat % 16)]

def hexEncode (digest : Vector UInt8 32) : GoString := digest.toList.flatMap hexByte

theorem encode_ascii {byte : UInt8} (h : byte.toNat < 0x80) :
    String.utf8EncodeChar (Char.ofNat byte.toNat) = [byte] := by
  have hall : ∀ n < 0x80, String.utf8EncodeChar (Char.ofNat n) = [UInt8.ofNat n] := by
    decide +kernel
  rw [hall _ h, UInt8.ofNat_toNat]

theorem decodeRune_eq (bytes : GoString) :
    decodeRune bytes = (bytes.take 4).toByteArray.utf8DecodeChar? 0 := by
  cases bytes with
  | nil => decide
  | cons byte rest =>
    by_cases h : byte.toNat < 0x80
    · have htake : (byte :: rest).take 4 =
          String.utf8EncodeChar (Char.ofNat byte.toNat) ++ rest.take 3 := by
        rw [encode_ascii h]
        rfl
      rw [htake, List.toByteArray_append, ByteArray.utf8DecodeChar?_utf8EncodeChar_append]
      exact if_pos h
    · exact if_neg h

theorem decodeRune_encode (c : Char) (rest : GoString) :
    decodeRune (String.utf8EncodeChar c ++ rest) = some c := by
  have hlen : (String.utf8EncodeChar c).length ≤ 4 := by
    rw [String.length_utf8EncodeChar]
    exact c.utf8Size_le_four
  rw [decodeRune_eq, List.take_append, List.take_of_length_le hlen, List.toByteArray_append]
  exact ByteArray.utf8DecodeChar?_utf8EncodeChar_append

theorem segmentsFrom_encode (c : Char) (rest : GoString) (fuel : Nat) :
    segmentsFrom (fuel + 1) (String.utf8EncodeChar c ++ rest) =
      (some c, String.utf8EncodeChar c) :: segmentsFrom fuel rest := by
  have hlen : (String.utf8EncodeChar c).length = c.utf8Size := String.length_utf8EncodeChar c
  have hne : String.utf8EncodeChar c ++ rest ≠ [] := by
    have := c.utf8Size_pos
    intro h
    have := congrArg List.length h
    simp only [List.length_append, List.length_nil] at this
    omega
  obtain ⟨byte, tail, hcons⟩ := List.exists_cons_of_ne_nil hne
  have hdecode := decodeRune_encode c rest
  rw [hcons] at hdecode ⊢
  simp only [segmentsFrom, hdecode]
  rw [← hcons, ← hlen, List.take_left, List.drop_left]

variable (cs : List Char)

theorem str_ofList : str (String.ofList cs) = ofRunes cs := by
  simp [str, ofRunes, String.toUTF8, String.toByteArray_ofList, List.utf8Encode]

theorem ofRunes_append (cs ds : List Char) : ofRunes (cs ++ ds) = ofRunes cs ++ ofRunes ds :=
  List.flatMap_append

theorem segmentsFrom_ofRunes (fuel : Nat) (h : (ofRunes cs).length ≤ fuel) :
    segmentsFrom fuel (ofRunes cs) = cs.map fun c => (some c, String.utf8EncodeChar c) := by
  induction cs generalizing fuel with
  | nil => cases fuel <;> rfl
  | cons c rest ih =>
    have hpos := c.utf8Size_pos
    have hlen : (String.utf8EncodeChar c).length = c.utf8Size := String.length_utf8EncodeChar c
    simp only [ofRunes, List.flatMap_cons, List.length_append] at h ⊢
    cases fuel with
    | zero => omega
    | succ fuel =>
      rw [segmentsFrom_encode, List.map_cons]
      exact congrArg _ (ih fuel (by simp only [ofRunes]; omega))

theorem segments_ofRunes :
    segments (ofRunes cs) = cs.map fun c => (some c, String.utf8EncodeChar c) :=
  segmentsFrom_ofRunes cs _ le_rfl

theorem validString_ofRunes : validString (ofRunes cs) = true := by
  simp [validString, segments_ofRunes]

theorem runes_ofRunes : runes (ofRunes cs) = cs := by
  simp [runes, segments_ofRunes, Function.comp_def]

theorem flatMap_segment :
    (cs.map fun c => (some c, String.utf8EncodeChar c)).flatMap (·.2) = ofRunes cs := by
  rw [List.flatMap_map]
  rfl

theorem take_of_decodeRune {bytes : GoString} {c : Char} (h : decodeRune bytes = some c) :
    bytes.take c.utf8Size = String.utf8EncodeChar c := by
  rw [decodeRune_eq] at h
  obtain ⟨tail, htail⟩ := ByteArray.exists_of_utf8DecodeChar?_eq_some h
  have hdata : bytes.take 4 = String.utf8EncodeChar c ++ tail.data.toList := by
    have := congrArg (fun b : ByteArray => b.data.toList) htail
    simpa using this
  have hlen : (String.utf8EncodeChar c).length = c.utf8Size := String.length_utf8EncodeChar c
  have hmin : min c.utf8Size 4 = c.utf8Size := min_eq_left c.utf8Size_le_four
  rw [← hmin, ← List.take_take, hdata, ← hlen, List.take_left]

theorem segmentsFrom_flatten (s : GoString) (fuel : Nat) (h : s.length ≤ fuel) :
    (segmentsFrom fuel s).flatMap (·.2) = s := by
  induction fuel generalizing s with
  | zero =>
    rw [List.length_eq_zero_iff.mp (Nat.le_zero.mp h)]
    rfl
  | succ fuel ih =>
    cases s with
    | nil => rfl
    | cons byte rest =>
      simp only [List.length_cons] at h
      unfold segmentsFrom
      cases hd : decodeRune (byte :: rest) with
      | none =>
        simp only [List.flatMap_cons, List.singleton_append]
        rw [ih rest (by omega)]
      | some c =>
        have hpos := c.utf8Size_pos
        have hdrop : ((byte :: rest).drop c.utf8Size).length ≤ fuel := by
          simp only [List.length_drop, List.length_cons]
          omega
        simp only [List.flatMap_cons]
        rw [ih _ hdrop, List.take_append_drop]

theorem segmentsFrom_char (s : GoString) (fuel : Nat) (segment : Option Char × GoString)
    (h : segment ∈ segmentsFrom fuel s) (c : Char) (hc : segment.1 = some c) :
    segment.2 = String.utf8EncodeChar c := by
  induction fuel generalizing s with
  | zero => cases s <;> simp [segmentsFrom] at h
  | succ fuel ih =>
    cases s with
    | nil => simp [segmentsFrom] at h
    | cons byte rest =>
      unfold segmentsFrom at h
      cases hd : decodeRune (byte :: rest) with
      | none =>
        rw [hd] at h
        rcases List.mem_cons.mp h with rfl | h
        · simp at hc
        · exact ih rest h
      | some c' =>
        rw [hd] at h
        rcases List.mem_cons.mp h with rfl | h
        · cases hc
          exact take_of_decodeRune hd
        · exact ih _ h

theorem segments_of_valid {s : GoString} (h : validString s = true) :
    segments s = (runes s).map fun c => (some c, String.utf8EncodeChar c) := by
  rw [runes, List.map_map]
  refine (List.map_id _).symm.trans (List.map_congr_left fun segment hmem => ?_)
  obtain ⟨c, hc⟩ := Option.isSome_iff_exists.mp (List.all_eq_true.mp h segment hmem)
  have hbytes := segmentsFrom_char s _ segment hmem c hc
  obtain ⟨rune, bytes⟩ := segment
  simp only at hc hbytes
  subst hc hbytes
  rfl

theorem ofRunes_runes {s : GoString} (h : validString s = true) : ofRunes (runes s) = s := by
  have hflat := segmentsFrom_flatten s s.length le_rfl
  change (segments s).flatMap (·.2) = s at hflat
  rwa [segments_of_valid h, flatMap_segment] at hflat

theorem ofRunes_inj {cs ds : List Char} (h : ofRunes cs = ofRunes ds) : cs = ds := by
  rw [← runes_ofRunes cs, h, runes_ofRunes]

end GoText

namespace GoJson
open GoText

inductive Json where
  | null
  | bool (value : Bool)
  | int (value : Int)
  | text (value : GoString)
  | bytes (value : GoString)
  | array (items : List Json)
  | object (fields : List (GoString × Json))

def hexDigits : List Char := 
  ['0', '1', '2', '3', '4', '5', '6', '7', '8', '9', 'a', 'b', 'c', 'd', 'e', 'f']

def hexChar (n : Nat) : Char := hexDigits.getD n '0'

def escapeRune : Option Char → List Char
  | none => ['\\', 'u', 'f', 'f', 'f', 'd']
  | some c =>
    if c = '"' ∨ c = '\\' then ['\\', c]
    else if c = '\x08' then ['\\', 'b']
    else if c = '\x0c' then ['\\', 'f']
    else if c = '\n' then ['\\', 'n']
    else if c = '\r' then ['\\', 'r']
    else if c = '\t' then ['\\', 't']
    else if c.toNat < 0x20 ∨ c = '<' ∨ c = '>' ∨ c = '&' then
      ['\\', 'u', '0', '0', hexChar (c.toNat / 16), hexChar (c.toNat % 16)]
    else if c = '\u2028' ∨ c = '\u2029' then ['\\', 'u', '2', '0', '2', hexChar (c.toNat % 16)]
    else [c]

def quoted (s : GoString) : List Char :=
  '"' :: (segments s).flatMap (fun segment => escapeRune segment.1) ++ ['"']

def decimal (n : Nat) : List Char := Nat.toDigits 10 n

def integer : Int → List Char
  | .ofNat n => decimal n
  | .negSucc n => '-' :: decimal (n + 1)

def base64Alphabet : List Char :=
  ['A', 'B', 'C', 'D', 'E', 'F', 'G', 'H', 'I', 'J', 'K', 'L', 'M', 'N', 'O', 'P', 'Q', 'R',
    'S', 'T', 'U', 'V', 'W', 'X', 'Y', 'Z', 'a', 'b', 'c', 'd', 'e', 'f', 'g', 'h', 'i', 'j',
    'k', 'l', 'm', 'n', 'o', 'p', 'q', 'r', 's', 't', 'u', 'v', 'w', 'x', 'y', 'z', '0', '1',
    '2', '3', '4', '5', '6', '7', '8', '9', '+', '/']

def base64Char (n : Nat) : Char := base64Alphabet.getD n 'A'

def base64 : List UInt8 → List Char
  | [] => []
  | [a] => [base64Char (a.toNat / 4), base64Char (a.toNat % 4 * 16), '=', '=']
  | [a, b] =>
    [base64Char (a.toNat / 4), base64Char (a.toNat % 4 * 16 + b.toNat / 16),
      base64Char (b.toNat % 16 * 4), '=']
  | a :: b :: c :: rest =>
    base64Char (a.toNat / 4) :: base64Char (a.toNat % 4 * 16 + b.toNat / 16) ::
      base64Char (b.toNat % 16 * 4 + c.toNat / 64) :: base64Char (c.toNat % 64) :: base64 rest

mutual

def render : Json → List Char
  | .null => ['n', 'u', 'l', 'l']
  | .bool value => if value then ['t', 'r', 'u', 'e'] else ['f', 'a', 'l', 's', 'e']
  | .int value => integer value
  | .text value => quoted value
  | .bytes value => '"' :: base64 value ++ ['"']
  | .array items => '[' :: renderItems items ++ [']']
  | .object fields => '{' :: renderFields fields ++ ['}']

def renderItems : List Json → List Char
  | [] => []
  | [item] => render item
  | item :: rest => render item ++ ',' :: renderItems rest

def renderFields : List (GoString × Json) → List Char
  | [] => []
  | [field] => renderField field
  | field :: rest => renderField field ++ ',' :: renderFields rest

def renderField : GoString × Json → List Char
  | (name, value) => quoted name ++ ':' :: render value

end

def marshal (value : Json) : GoString := ofRunes (render value)

theorem decimal_inj {m n : Nat} (h : decimal m = decimal n) : m = n := by
  rw [← Nat.ofDigitChars_ten_toDigits (n := m), ← Nat.ofDigitChars_ten_toDigits (n := n)]
  exact congrArg (Nat.ofDigitChars 10 · 0) h


def base64Value (c : Char) : Option Nat :=
  if c ∈ base64Alphabet then some (base64Alphabet.idxOf c) else none

-- One padded quantum after another; a strict decoder wants the bits that padding hides to be zero.
def decodeQuanta (strict : Bool) : List Char → Option (List UInt8)
  | [] => some []
  | [a, b, '=', '='] => do
    let a ← base64Value a
    let b ← base64Value b
    if strict = true ∧ b % 16 ≠ 0 then none
    else some [UInt8.ofNat (a * 4 + b / 16)]
  | [a, b, c, '='] => do
    let a ← base64Value a
    let b ← base64Value b
    let c ← base64Value c
    if strict = true ∧ c % 4 ≠ 0 then none
    else some [UInt8.ofNat (a * 4 + b / 16), UInt8.ofNat (b % 16 * 16 + c / 4)]
  | a :: b :: c :: d :: rest => do
    let a ← base64Value a
    let b ← base64Value b
    let c ← base64Value c
    let d ← base64Value d
    let bytes ← decodeQuanta strict rest
    return UInt8.ofNat (a * 4 + b / 16) :: UInt8.ofNat (b % 16 * 16 + c / 4) ::
      UInt8.ofNat (c % 4 * 64 + d) :: bytes
  | _ => none

-- The decoder passes over the characters of a line break, wherever they stand.
def decodeBase64 (strict : Bool) (text : List Char) : Option (List UInt8) :=
  decodeQuanta strict (text.filter fun c => c ∉ ['\r', '\n'])

def canonicalBase64 (text : List Char) : Prop := ∃ bytes, text = base64 bytes

end GoJson
