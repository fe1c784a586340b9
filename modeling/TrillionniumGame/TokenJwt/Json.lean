import Mathlib.Data.String.Basic
import TrillionniumGame.Foundation.JsonTree
import TrillionniumGame.Foundation.Sequences

namespace TokenJwt
open Checks Entries
open GoText (decodeRune ofRunes validString)

-- A `BTreeMap` is the list of its entries.
inductive JsonValue where
  | null
  | bool (value : Bool)
  | integer (value : Int64)
  | unsigned (value : UInt64)
  | string (value : String)
  | array (values : List JsonValue)
  | object (values : List (String × JsonValue))

structure JsonLimits where
  maxDepth : Nat
  maxNodes : Nat
  maxStringBytes : Nat
  maxCollectionLen : Nat

def JsonLimits.default : JsonLimits := ⟨16, 2048, 16 * 1024, 256⟩

inductive JsonErrorKind where
  | invalidUtf8 | unexpectedEnd
  | unexpectedByte (byte : UInt8)
  | invalidLiteral | invalidEscape | invalidUnicodeEscape | loneSurrogate
  | duplicateKey (key : String)
  | leadingZero | floatForbidden | numberOutOfRange
  | depthExceeded (limit : Nat)
  | nodeCountExceeded (limit : Nat)
  | stringLengthExceeded (limit : Nat)
  | collectionLengthExceeded (limit : Nat)
  | trailingData

structure JsonError where
  offset : Nat
  kind : JsonErrorKind

inductive JsonEncodeError where
  | outputLengthExceeded (limit : Nat)

def usizeMax : Nat := 2 ^ 64 - 1

def ascii (c : Char) : UInt8 := UInt8.ofNat c.toNat

structure Cursor where
  rest : List UInt8
  offset : Nat
  nodes : Nat

namespace Cursor

variable (c : Cursor)

def error (kind : JsonErrorKind) : JsonError := ⟨c.offset, kind⟩

def skip (count : Nat) : Cursor :=
  { c with
    rest := c.rest.drop count
    offset := c.offset + count }

def isWhitespace (byte : UInt8) : Bool :=
  byte = ascii ' ' || byte = ascii '\n' || byte = ascii '\r' || byte = ascii '\t'

def skipWhitespace : Cursor := c.skip (c.rest.takeWhile isWhitespace).length

def consumeIf (expected : Char) : Bool × Cursor :=
  if c.rest.head? = some (ascii expected) then (true, c.skip 1) else (false, c)

def expect (expected : Char) : Except JsonError Cursor :=
  match c.rest with
  | [] => .error (c.error .unexpectedEnd)
  | byte :: _ =>
    if byte = ascii expected then .ok (c.skip 1) else .error (c.error (.unexpectedByte byte))

def consumeLiteral (expected : List Char) : Except JsonError Cursor :=
  if c.rest.take expected.length = expected.map ascii then .ok (c.skip expected.length)
  else .error (c.error .invalidLiteral)

end Cursor

def hexDigitValue (byte : UInt8) : Option Nat :=
  if ascii '0' ≤ byte ∧ byte ≤ ascii '9' then some (byte.toNat - 48)
  else if ascii 'a' ≤ byte ∧ byte ≤ ascii 'f' then some (byte.toNat - 97 + 10)
  else if ascii 'A' ≤ byte ∧ byte ≤ ascii 'F' then some (byte.toNat - 65 + 10)
  else none

def parseHexU16 (c : Cursor) : Except JsonError (Nat × Cursor) := do
  require (4 ≤ c.rest.length) (c.error .unexpectedEnd)
  let digits ← fetch ((c.rest.take 4).mapM hexDigitValue) (c.error .invalidUnicodeEscape)
  return (digits.foldl (fun value digit => value * 16 + digit) 0, c.skip 4)

def charFromU32 (scalar : Nat) : Option Char :=
  if scalar.isValidChar then some (Char.ofNat scalar) else none

def parseScalar (first : Nat) (c : Cursor) : Except JsonError (Nat × Cursor) :=
  if 0xd800 ≤ first ∧ first ≤ 0xdbff then do
    require (c.rest.take 2 = [ascii '\\', ascii 'u']) (c.error .loneSurrogate)
    let (second, c) ← parseHexU16 (c.skip 2)
    require (0xdc00 ≤ second ∧ second ≤ 0xdfff) (c.error .loneSurrogate)
    return (0x10000 + (first - 0xd800) * 1024 + (second - 0xdc00), c)
  else do
    require (¬ (0xdc00 ≤ first ∧ first ≤ 0xdfff)) (c.error .loneSurrogate)
    return (first, c)

def parseUnicodeEscape (c : Cursor) : Except JsonError (Char × Cursor) := do
  let (first, c) ← parseHexU16 c
  let (scalar, c) ← parseScalar first c
  let character ← fetch (charFromU32 scalar) (c.error .invalidUnicodeEscape)
  return (character, c)

def simpleEscape (byte : UInt8) : Option Char :=
  if byte = ascii '"' then some '"'
  else if byte = ascii '\\' then some '\\'
  else if byte = ascii '/' then some '/'
  else if byte = ascii 'b' then some '\x08'
  else if byte = ascii 'f' then some '\x0c'
  else if byte = ascii 'n' then some '\n'
  else if byte = ascii 'r' then some '\r'
  else if byte = ascii 't' then some '\t'
  else none

def parseChar (c : Cursor) : Except JsonError (Option Char × Cursor) :=
  match c.rest with
  | [] => .error (c.error .unexpectedEnd)
  | byte :: tail =>
    if byte = ascii '"' then .ok (none, c.skip 1)
    else if byte = ascii '\\' then
      match tail with
      | [] => .error ((c.skip 1).error .unexpectedEnd)
      | escaped :: _ =>
        if escaped = ascii 'u' then do
          let (character, c) ← parseUnicodeEscape (c.skip 2)
          return (some character, c)
        else do
          let character ← fetch (simpleEscape escaped) ((c.skip 2).error .invalidEscape)
          return (some character, c.skip 2)
    else if byte.toNat < 0x20 then .error (c.error (.unexpectedByte byte))
    else do
      let character ← fetch (decodeRune (byte :: tail)) (c.error .unexpectedEnd)
      return (some character, c.skip character.utf8Size)

def parseChars (limits : JsonLimits) : Nat → List Char → Cursor →
    Except JsonError (List Char × Cursor)
  | 0, _, c => .error (c.error .unexpectedEnd)
  | fuel + 1, output, c => do
    match ← parseChar c with
    | (none, c) => return (output, c)
    | (some character, c) =>
      require ((ofRunes (output ++ [character])).length ≤ limits.maxStringBytes)
        (c.error (.stringLengthExceeded limits.maxStringBytes))
      parseChars limits fuel (output ++ [character]) c

variable (limits : JsonLimits)

def parseString (c : Cursor) : Except JsonError (String × Cursor) := do
  let c ← c.expect '"'
  let (output, c) ← parseChars limits (c.rest.length + 1) [] c
  return (String.ofList output, c)

def isDigit (byte : UInt8) : Bool := ascii '0' ≤ byte && byte ≤ ascii '9'

def digitsOf (first : UInt8) (c : Cursor) : Except JsonError (List UInt8) :=
  if first = ascii '0' then do
    require (∀ next ∈ (c.skip 1).rest.head?, isDigit next = false) ((c.skip 1).error .leadingZero)
    return [first]
  else do
    require (isDigit first = true) (c.error (.unexpectedByte first))
    return c.rest.takeWhile isDigit

def decimalValue (digits : List UInt8) : Nat :=
  Nat.ofDigitChars 10 (digits.map fun digit => Char.ofNat digit.toNat) 0

def parseDigits (c : Cursor) : Except JsonError (List UInt8 × Cursor) := do
  let first ← fetch c.rest.head? (c.error .unexpectedEnd)
  let digits ← digitsOf first c
  let c := c.skip digits.length
  require (∀ next ∈ c.rest.head?, next ∉ [ascii '.', ascii 'e', ascii 'E'])
    (c.error .floatForbidden)
  return (digits, c)

def parseNumber (c : Cursor) : Except JsonError (JsonValue × Cursor) := do
  let (negative, c) := c.consumeIf '-'
  let (digits, c) ← parseDigits c
  if negative then do
    require (decimalValue digits ≤ 2 ^ 63) (c.error .numberOutOfRange)
    return (.integer (Int64.ofInt (-decimalValue digits)), c)
  else do
    require (decimalValue digits < 2 ^ 64) (c.error .numberOutOfRange)
    return (.unsigned (UInt64.ofNat (decimalValue digits)), c)

abbrev ValueParser := Cursor → Except JsonError (JsonValue × Cursor)

def parseElements (limits : JsonLimits) (parseValue : ValueParser) : Nat → List JsonValue →
    Cursor → Except JsonError (List JsonValue × Cursor)
  | 0, _, c => .error (c.error (.collectionLengthExceeded limits.maxCollectionLen))
  | room + 1, values, c => do
    let (value, c) ← parseValue c
    let (closed, c) := c.skipWhitespace.consumeIf ']'
    if closed then return (values ++ [value], c)
    else
      let c ← c.expect ','
      parseElements limits parseValue room (values ++ [value]) c.skipWhitespace

def parseArray (parseValue : ValueParser) (c : Cursor) : Except JsonError (JsonValue × Cursor) :=
  let (closed, c) := (c.skip 1).skipWhitespace.consumeIf ']'
  if closed then .ok (.array [], c)
  else do
    let (values, c) ← parseElements limits parseValue limits.maxCollectionLen [] c
    return (.array values, c)

def parseEntry (parseValue : ValueParser) (values : List (String × JsonValue)) (c : Cursor) :
    Except JsonError (List (String × JsonValue) × Cursor) := do
  let keyOffset := c.offset
  let (key, c) ← parseString limits c
  let c ← c.skipWhitespace.expect ':'
  let (value, c) ← parseValue c.skipWhitespace
  let (values, replaced) := insertEntry key value values
  require (replaced = false) ⟨keyOffset, .duplicateKey key⟩
  return (values, c)

def parseEntries (limits : JsonLimits) (parseValue : ValueParser) : Nat →
    List (String × JsonValue) → Cursor → Except JsonError (List (String × JsonValue) × Cursor)
  | 0, _, c => .error (c.error (.collectionLengthExceeded limits.maxCollectionLen))
  | room + 1, values, c => do
    let (values, c) ← parseEntry limits parseValue values c
    let (closed, c) := c.skipWhitespace.consumeIf '}'
    if closed then return (values, c)
    else
      let c ← c.expect ','
      parseEntries limits parseValue room values c.skipWhitespace

def parseObject (parseValue : ValueParser) (c : Cursor) : Except JsonError (JsonValue × Cursor) :=
  let (closed, c) := (c.skip 1).skipWhitespace.consumeIf '}'
  if closed then .ok (.object [], c)
  else do
    let (values, c) ← parseEntries limits parseValue limits.maxCollectionLen [] c
    return (.object values, c)

def countNode (c : Cursor) : Except JsonError Cursor := do
  let c := { c with nodes := min (c.nodes + 1) usizeMax }
  require (c.nodes ≤ limits.maxNodes) (c.error (.nodeCountExceeded limits.maxNodes))
  return c

def parseNode (parseInner : ValueParser) (byte : UInt8) : ValueParser :=
  fun c =>
    if byte = ascii 'n' then do
      let c ← c.consumeLiteral ['n', 'u', 'l', 'l']
      return (.null, c)
    else if byte = ascii 't' then do
      let c ← c.consumeLiteral ['t', 'r', 'u', 'e']
      return (.bool true, c)
    else if byte = ascii 'f' then do
      let c ← c.consumeLiteral ['f', 'a', 'l', 's', 'e']
      return (.bool false, c)
    else if byte = ascii '"' then do
      let (value, c) ← parseString limits c
      return (.string value, c)
    else if byte = ascii '[' then parseArray limits parseInner c
    else if byte = ascii '{' then parseObject limits parseInner c
    else if byte = ascii '-' ∨ isDigit byte = true then parseNumber c
    else .error (c.error (.unexpectedByte byte))

def parseValue (limits : JsonLimits) : Nat → ValueParser
  | 0, c => .error (c.error (.depthExceeded limits.maxDepth))
  | levels + 1, c => do
    let c ← countNode limits c
    let c := c.skipWhitespace
    let byte ← fetch c.rest.head? (c.error .unexpectedEnd)
    parseNode limits (parseValue limits levels) byte c

def parse (input : List UInt8) (limits : JsonLimits) : Except JsonError JsonValue := do
  require (validString input = true) ⟨0, .invalidUtf8⟩
  let (value, c) ← parseValue limits (limits.maxDepth + 1) (Cursor.mk input 0 0).skipWhitespace
  let c := c.skipWhitespace
  require (c.rest = []) (c.error .trailingData)
  return value

abbrev Encoder := List UInt8 → Except JsonEncodeError (List UInt8)

def pushByte (limit : Nat) (byte : Char) : Encoder := fun output => do
  require (output.length < limit) (.outputLengthExceeded limit)
  return output ++ [ascii byte]

def pushBytes (limit : Nat) (bytes : List UInt8) : Encoder := fun output => do
  require (output.length + bytes.length ≤ limit) (.outputLengthExceeded limit)
  return output ++ bytes

def hexDigit (value : Nat) : UInt8 :=
  if value ≤ 9 then UInt8.ofNat (48 + value) else UInt8.ofNat (97 + value - 10)

def encodeChar (character : Char) : List UInt8 :=
  if character = '"' then [ascii '\\', ascii '"']
  else if character = '\\' then [ascii '\\', ascii '\\']
  else if character = '\x08' then [ascii '\\', ascii 'b']
  else if character = '\x0c' then [ascii '\\', ascii 'f']
  else if character = '\n' then [ascii '\\', ascii 'n']
  else if character = '\r' then [ascii '\\', ascii 'r']
  else if character = '\t' then [ascii '\\', ascii 't']
  else if character.toNat ≤ 0x1f then
    [ascii '\\', ascii 'u', ascii '0', ascii '0', hexDigit (character.toNat / 16 % 16),
      hexDigit (character.toNat % 16)]
  else String.utf8EncodeChar character

def encodeString (limit : Nat) (value : String) : Encoder := fun output => do
  let output ← pushByte limit '"' output
  let output ← value.toList.foldlM
    (fun output character => pushBytes limit (encodeChar character) output) output
  pushByte limit '"' output

def decimalText (value : Int) : List UInt8 :=
  match value with
  | .ofNat n => (Nat.toDigits 10 n).map ascii
  | .negSucc n => ascii '-' :: (Nat.toDigits 10 (n + 1)).map ascii

def separate (limit : Nat) (first : Bool) : Encoder :=
  if first then .ok else pushByte limit ','

mutual

def encodeValue (limit : Nat) : JsonValue → Encoder
  | .null, output => pushBytes limit (['n', 'u', 'l', 'l'].map ascii) output
  | .bool true, output => pushBytes limit (['t', 'r', 'u', 'e'].map ascii) output
  | .bool false, output => pushBytes limit (['f', 'a', 'l', 's', 'e'].map ascii) output
  | .integer value, output => pushBytes limit (decimalText value.toInt) output
  | .unsigned value, output => pushBytes limit (decimalText value.toNat) output
  | .string value, output => encodeString limit value output
  | .array values, output => do
    let output ← pushByte limit '[' output
    let output ← encodeItems limit true values output
    pushByte limit ']' output
  | .object values, output => do
    let output ← pushByte limit '{' output
    let output ← encodeFields limit true values output
    pushByte limit '}' output

def encodeItems (limit : Nat) (first : Bool) : List JsonValue → Encoder
  | [], output => .ok output
  | value :: rest, output => do
    let output ← separate limit first output
    let output ← encodeValue limit value output
    encodeItems limit false rest output

def encodeFields (limit : Nat) (first : Bool) : List (String × JsonValue) → Encoder
  | [], output => .ok output
  | (key, value) :: rest, output => do
    let output ← separate limit first output
    let output ← encodeString limit key output
    let output ← pushByte limit ':' output
    let output ← encodeValue limit value output
    encodeFields limit false rest output

end

def toCanonicalBytes (value : JsonValue) (maxOutputBytes : Nat) :
    Except JsonEncodeError (List UInt8) := encodeValue maxOutputBytes value []

open GoText JsonText
open GoJson (decimal integer)

theorem JsonValue.children {P : JsonValue → Prop} (null : P .null) (bool : ∀ b, P (.bool b))
    (integer : ∀ n, P (.integer n)) (unsigned : ∀ n, P (.unsigned n)) (string : ∀ s, P (.string s))
    (array : ∀ values, (∀ value ∈ values, P value) → P (.array values))
    (object : ∀ values : List (String × JsonValue), (∀ entry ∈ values, P entry.2) →
      P (.object values)) (v : JsonValue) : P v :=
  @JsonValue.rec P (fun values => ∀ value ∈ values, P value)
    (fun values => ∀ entry ∈ values, P entry.2) (fun entry => P entry.2)
    null bool integer unsigned string array object
    (List.forall_mem_nil _) forall_cons
    (List.forall_mem_nil _) forall_cons (fun _ _ => id) v

mutual

def JsonValue.plain : JsonValue → Value
  | .null => .null
  | .bool value => .bool value
  | .integer value => .int value.toInt
  | .unsigned value => .int value.toNat
  | .string value => .text value.toList
  | .array values => .array (plainItems values)
  | .object values => .object (plainFields values)

def plainItems : List JsonValue → List Value
  | [] => []
  | value :: rest => value.plain :: plainItems rest

def plainFields : List (String × JsonValue) → List (List Char × Value)
  | [] => []
  | (key, value) :: rest => (key.toList, value.plain) :: plainFields rest

end

theorem plainItems_eq (values : List JsonValue) :
    plainItems values = values.map JsonValue.plain :=
  eq_map rfl (fun _ _ => rfl) values

theorem plainFields_eq (values : List (String × JsonValue)) :
    plainFields values = values.map fun entry => (entry.1.toList, entry.2.plain) :=
  eq_map rfl (fun _ _ => rfl) values

def JsonValue.canonical (v : JsonValue) : List UInt8 := ofRunes v.plain.render

theorem ofRunes_cons {c : Char} (h : c.toNat < 0x80) (cs : List Char) :
    ofRunes (c :: cs) = ascii c :: ofRunes cs := by
  have hbyte : (ascii c).toNat = c.toNat := by
    rw [ascii, UInt8.toNat_ofNat']
    exact Nat.mod_eq_of_lt (by omega)
  have hencode : String.utf8EncodeChar c = [ascii c] := by
    have hone : String.utf8EncodeChar (Char.ofNat (ascii c).toNat) = [ascii c] :=
      encode_ascii (by omega)
    rwa [hbyte, Char.ofNat_toNat] at hone
  rw [ofRunes, List.flatMap_cons, hencode]
  rfl

theorem ofRunes_ascii {cs : List Char} (h : ∀ c ∈ cs, c.toNat < 0x80) :
    ofRunes cs = cs.map ascii := by
  induction cs with
  | nil => rfl
  | cons c rest ih =>
    rw [List.forall_mem_cons] at h
    rw [ofRunes_cons h.1, ih h.2, List.map_cons]

theorem ofRunes_enclosed {opening closing : Char} (hopening : opening.toNat < 0x80)
    (hclosing : closing.toNat < 0x80) (cs : List Char) :
    ofRunes (opening :: cs ++ [closing]) = [ascii opening] ++ (ofRunes cs ++ [ascii closing]) := by
  rw [List.cons_append, ofRunes_cons hopening, ofRunes_append, ofRunes_cons hclosing]
  rfl

theorem encodeChar_eq (c : Char) : encodeChar c = ofRunes (escape c) := by
  by_cases hlow : c.toNat < 0x20
  · have hall : ∀ n < 0x20, encodeChar (Char.ofNat n) = ofRunes (escape (Char.ofNat n)) := by
      decide +kernel
    have hc := hall _ hlow
    rwa [Char.ofNat_toNat] at hc
  have hnot : ∀ d : Char, d.toNat < 0x20 → c ≠ d := fun d hd heq => hlow (heq ▸ hd)
  have hcontrol : ¬ c.toNat ≤ 0x1f := by omega
  by_cases hquote : c = '"'
  · subst hquote
    decide
  by_cases hslash : c = '\\'
  · subst hslash
    decide
  rw [encodeChar, if_neg hquote, if_neg hslash, if_neg (hnot _ (by decide)),
    if_neg (hnot _ (by decide)), if_neg (hnot _ (by decide)), if_neg (hnot _ (by decide)),
    if_neg (hnot _ (by decide)), if_neg hcontrol, escape, if_neg (not_or.mpr ⟨hquote, hslash⟩),
    if_neg (hnot _ (by decide)), if_neg (hnot _ (by decide)), if_neg (hnot _ (by decide)),
    if_neg (hnot _ (by decide)), if_neg (hnot _ (by decide)), if_neg hlow, ofRunes,
    List.flatMap_singleton]

theorem digit_ascii {c : Char} (h : c.isDigit = true) : c.toNat < 0x80 := by
  simp only [Char.isDigit, Bool.and_eq_true, decide_eq_true_eq] at h
  exact lt_of_le_of_lt (UInt32.le_iff_toNat_le.mp h.2) (by decide)

theorem integer_ascii (value : Int) : ∀ c ∈ integer value, c.toNat < 0x80 := by
  have hdigits : ∀ n, ∀ c ∈ decimal n, c.toNat < 0x80 := fun n c hc =>
    digit_ascii (decimal_digits n c hc)
  cases value with
  | ofNat n => exact hdigits n
  | negSucc n => exact List.forall_mem_cons.mpr ⟨by decide, hdigits (n + 1)⟩

theorem decimalText_eq (value : Int) : decimalText value = ofRunes (integer value) := by
  rw [ofRunes_ascii (integer_ascii value)]
  cases value <;> rfl

def Writes (limit : Nat) (encoder : Encoder) (bytes : List UInt8) : Prop :=
  ∀ output : List UInt8, output.length ≤ limit → encoder output =
    if output.length + bytes.length ≤ limit then .ok (output ++ bytes)
    else .error (.outputLengthExceeded limit)

variable {limit : Nat} {encoder encoder' : Encoder} {bytes bytes' : List UInt8}

theorem Writes.nil : Writes limit Except.ok [] := by
  intro output houtput
  rw [if_pos (by simpa using houtput), List.append_nil]

theorem Writes.bind (h : Writes limit encoder bytes) (h' : Writes limit encoder' bytes') :
    Writes limit (fun output => encoder output >>= encoder') (bytes ++ bytes') := by
  intro output houtput
  dsimp only
  rw [h output houtput, List.length_append]
  by_cases hfits : output.length + bytes.length ≤ limit
  · rw [if_pos hfits, ok_bind, h' _ (by rwa [List.length_append]), List.length_append,
      Nat.add_assoc, List.append_assoc]
  · rw [if_neg hfits, if_neg (by omega)]
    rfl

theorem writes_pushBytes (bytes : List UInt8) : Writes limit (pushBytes limit bytes) bytes := by
  intro output _
  unfold pushBytes require
  split
  · rfl
  · rfl

theorem writes_pushByte (c : Char) : Writes limit (pushByte limit c) [ascii c] := by
  intro output _
  unfold pushByte require
  rw [List.length_singleton]
  by_cases hroom : output.length < limit
  · rw [if_pos hroom, if_pos (by omega)]
    rfl
  · rw [if_neg hroom, if_neg (by omega)]
    rfl

theorem writes_chars (cs : List Char) : Writes limit
    (cs.foldlM fun output character => pushBytes limit (encodeChar character) output)
    (ofRunes (cs.flatMap escape)) := by
  induction cs with
  | nil => exact .nil
  | cons c rest ih =>
    rw [List.flatMap_cons, ofRunes_append, ← encodeChar_eq]
    exact (writes_pushBytes (encodeChar c)).bind ih

theorem writes_string (value : String) :
    Writes limit (encodeString limit value) (ofRunes (quote value.toList)) := by
  rw [quote, ofRunes_enclosed (by decide) (by decide)]
  exact (writes_pushByte '"').bind ((writes_chars value.toList).bind (writes_pushByte '"'))

theorem commas_eq (part : List Char) (rest : List (List Char)) :
    commas (part :: rest) = part ++ rest.flatMap fun next => ',' :: next := by
  induction rest generalizing part with
  | nil => simp [commas]
  | cons next rest ih => rw [commas_cons part (by simp), ih next, List.flatMap_cons]; rfl

def listed (first : Bool) (parts : List (List Char)) : List Char :=
  if first then commas parts else parts.flatMap fun next => ',' :: next

theorem listed_cons (first : Bool) (part : List Char) (rest : List (List Char)) :
    listed first (part :: rest) =
      (if first then [] else [',']) ++ (part ++ listed false rest) := by
  cases first with
  | true => exact commas_eq part rest
  | false => rw [listed, if_neg (by simp), List.flatMap_cons]; rfl

theorem writes_separate (first : Bool) :
    Writes limit (separate limit first) (ofRunes (if first then [] else [','])) := by
  cases first with
  | true => exact .nil
  | false => exact writes_pushByte ','

theorem writes_items {values : List JsonValue}
    (h : ∀ value ∈ values, Writes limit (encodeValue limit value) value.canonical)
    (first : Bool) : Writes limit (encodeItems limit first values)
      (ofRunes (listed first (renderItems (plainItems values)))) := by
  induction values generalizing first with
  | nil =>
    cases first with
    | true | false => exact .nil
  | cons value rest ih =>
    rw [List.forall_mem_cons] at h
    rw [plainItems, renderItems, listed_cons, ofRunes_append, ofRunes_append]
    exact (writes_separate first).bind (h.1.bind (ih h.2 false))

theorem writes_fields {values : List (String × JsonValue)}
    (h : ∀ entry ∈ values, Writes limit (encodeValue limit entry.2) entry.2.canonical)
    (first : Bool) : Writes limit (encodeFields limit first values)
      (ofRunes (listed first (renderMembers (plainFields values)))) := by
  induction values generalizing first with
  | nil =>
    cases first with
    | true | false => exact .nil
  | cons entry rest ih =>
    obtain ⟨key, value⟩ := entry
    rw [List.forall_mem_cons] at h
    rw [plainFields, renderMembers, listed_cons, ofRunes_append, List.append_assoc,
      List.cons_append, ofRunes_append, ofRunes_cons (by decide), ofRunes_append]
    exact (writes_separate first).bind ((writes_string key).bind
      ((writes_pushByte ':').bind (h.1.bind (ih h.2 false))))

theorem writes_value (v : JsonValue) : Writes limit (encodeValue limit v) v.canonical := by
  induction v using JsonValue.children with
  | null => exact writes_pushBytes _
  | bool value =>
    cases value with
    | true | false => exact writes_pushBytes _
  | integer value | unsigned value =>
    rw [JsonValue.canonical, JsonValue.plain, Value.render, ← decimalText_eq]
    exact writes_pushBytes _
  | string value => exact writes_string value
  | array values ih =>
    rw [JsonValue.canonical, JsonValue.plain, Value.render,
      ofRunes_enclosed (by decide) (by decide)]
    exact (writes_pushByte '[').bind ((writes_items ih true).bind (writes_pushByte ']'))
  | object values ih =>
    rw [JsonValue.canonical, JsonValue.plain, Value.render,
      ofRunes_enclosed (by decide) (by decide)]
    exact (writes_pushByte '{').bind ((writes_fields ih true).bind (writes_pushByte '}'))

theorem toCanonicalBytes_eq (v : JsonValue) (maxOutputBytes : Nat) :
    toCanonicalBytes v maxOutputBytes =
      if v.canonical.length ≤ maxOutputBytes then .ok v.canonical
      else .error (.outputLengthExceeded maxOutputBytes) := by
  have hvalue : Writes maxOutputBytes (encodeValue maxOutputBytes v) v.canonical := writes_value v
  have hwrites := hvalue [] (Nat.zero_le _)
  rwa [List.length_nil, Nat.zero_add, List.nil_append] at hwrites

end TokenJwt
