import TrillionniumGame.TokenJwt.JsonAcceptance

namespace TokenJwt.Reader
open Checks Entries GoText

-- Where a reading of the input may stop: with an error of the parser, at one of its `expect`
-- calls, at an offset inside a character, or because it was not given steps enough.
inductive Stop where
  | error (error : JsonError)
  | expectFailed | offBoundary | exhausted

def lift {α : Type} (x : Except JsonError α) : Except Stop α := x.mapError .error

def startsChar (rest : List UInt8) : Prop :=
  ∀ byte ∈ rest.head?, ¬ (0x80 ≤ byte.toNat ∧ byte.toNat < 0xc0)

instance (rest : List UInt8) : Decidable (startsChar rest) := by
  unfold startsChar
  infer_instance

def onBoundary (c : Cursor) : Except Stop Unit := require (startsChar c.rest) .offBoundary

def readChar (c : Cursor) : Except Stop (Option Char × Cursor) := do
  onBoundary c
  require ((∃ byte ∈ c.rest.head?, 0x80 ≤ byte.toNat) → validString c.rest = true) .expectFailed
  lift (parseChar c)

def readChars (limits : JsonLimits) : Nat → List Char → Cursor →
    Except Stop (List Char × Cursor)
  | 0, _, _ => .error .exhausted
  | fuel + 1, output, c => do
    match ← readChar c with
    | (none, c) => return (output, c)
    | (some character, c) =>
      lift <| require ((ofRunes (output ++ [character])).length ≤ limits.maxStringBytes)
        (c.error (.stringLengthExceeded limits.maxStringBytes))
      readChars limits fuel (output ++ [character]) c

variable (limits : JsonLimits)

def readString (c : Cursor) : Except Stop (String × Cursor) := do
  let c ← lift (c.expect '"')
  let (output, c) ← readChars limits (c.rest.length + 1) [] c
  return (String.ofList output, c)

def readNumber (c : Cursor) : Except Stop (JsonValue × Cursor) := do
  let (_, next) ← lift (parseDigits (c.consumeIf '-').2)
  require (validString (c.rest.take (next.offset - c.offset)) = true) .expectFailed
  lift (parseNumber c)

abbrev ValueReader := Cursor → Except Stop (JsonValue × Cursor)

def checkRoom (length : Nat) (c : Cursor) : Except Stop Unit :=
  lift <| require (length < limits.maxCollectionLen)
    (c.error (.collectionLengthExceeded limits.maxCollectionLen))

def readElements (limits : JsonLimits) (inner : ValueReader) : Nat → List JsonValue →
    Cursor → Except Stop (List JsonValue × Cursor)
  | 0, _, _ => .error .exhausted
  | fuel + 1, values, c => do
    checkRoom limits values.length c
    let (value, c) ← inner c
    let (closed, c) := c.skipWhitespace.consumeIf ']'
    if closed then return (values ++ [value], c)
    else
      let c ← lift (c.expect ',')
      readElements limits inner fuel (values ++ [value]) c.skipWhitespace

variable (inner : ValueReader)

def readArray (c : Cursor) : Except Stop (JsonValue × Cursor) :=
  let (closed, c) := (c.skip 1).skipWhitespace.consumeIf ']'
  if closed then .ok (.array [], c)
  else do
    let (values, c) ← readElements limits inner (c.rest.length + 1) [] c
    return (.array values, c)

def readEntry (values : List (String × JsonValue)) (c : Cursor) :
    Except Stop (List (String × JsonValue) × Cursor) := do
  onBoundary c
  let keyOffset := c.offset
  let (key, c) ← readString limits c
  let c ← lift (c.skipWhitespace.expect ':')
  let (value, c) ← inner c.skipWhitespace
  let (values, replaced) := insertEntry key value values
  lift (require (replaced = false) ⟨keyOffset, .duplicateKey key⟩)
  return (values, c)

def readEntries (limits : JsonLimits) (inner : ValueReader) : Nat →
    List (String × JsonValue) → Cursor → Except Stop (List (String × JsonValue) × Cursor)
  | 0, _, _ => .error .exhausted
  | fuel + 1, values, c => do
    checkRoom limits values.length c
    let (values, c) ← readEntry limits inner values c
    let (closed, c) := c.skipWhitespace.consumeIf '}'
    if closed then return (values, c)
    else
      let c ← lift (c.expect ',')
      readEntries limits inner fuel values c.skipWhitespace

def readObject (c : Cursor) : Except Stop (JsonValue × Cursor) :=
  let (closed, c) := (c.skip 1).skipWhitespace.consumeIf '}'
  if closed then .ok (.object [], c)
  else do
    let (values, c) ← readEntries limits inner (c.rest.length + 1) [] c
    return (.object values, c)

def readNode (byte : UInt8) : ValueReader :=
  fun c =>
    if byte = ascii 'n' then do
      let c ← lift (c.consumeLiteral ['n', 'u', 'l', 'l'])
      return (.null, c)
    else if byte = ascii 't' then do
      let c ← lift (c.consumeLiteral ['t', 'r', 'u', 'e'])
      return (.bool true, c)
    else if byte = ascii 'f' then do
      let c ← lift (c.consumeLiteral ['f', 'a', 'l', 's', 'e'])
      return (.bool false, c)
    else if byte = ascii '"' then do
      let (value, c) ← readString limits c
      return (.string value, c)
    else if byte = ascii '[' then readArray limits inner c
    else if byte = ascii '{' then readObject limits inner c
    else if byte = ascii '-' ∨ isDigit byte = true then readNumber c
    else .error (.error (c.error (.unexpectedByte byte)))

def readAt (depth : Nat) (inner : ValueReader) : ValueReader := fun c => do
  onBoundary c
  lift (require (depth ≤ limits.maxDepth) (c.error (.depthExceeded limits.maxDepth)))
  let c ← lift (countNode limits c)
  let c := c.skipWhitespace
  let byte ← lift (fetch c.rest.head? (c.error .unexpectedEnd))
  readNode limits inner byte c

def readValue (limits : JsonLimits) : Nat → Nat → ValueReader
  | 0, depth => readAt limits depth fun _ => .error .exhausted
  | calls + 1, depth => readAt limits depth (readValue limits calls (depth + 1))

def read (calls : Nat) (input : List UInt8) (limits : JsonLimits) : Except Stop JsonValue := do
  lift (require (validString input = true) ⟨0, .invalidUtf8⟩)
  let (value, c) ← readValue limits calls 0 (Cursor.mk input 0 0).skipWhitespace
  let c := c.skipWhitespace
  lift (require (c.rest = []) (c.error .trailingData))
  return value

end TokenJwt.Reader
