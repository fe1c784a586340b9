import TrillionniumGame.TokenJwt.Json

namespace TokenJwt
open Checks Entries GoText JsonText
open GoJson (decimal integer)

section
variable {limits : JsonLimits} {rest : List UInt8} {offset nodes : Nat}

def Reads {α : Type} (parser : Cursor → Except JsonError (α × Cursor)) (bytes : List UInt8) (a : α)
    (rest : List UInt8) : Prop :=
  ∀ offset nodes, parser ⟨bytes ++ rest, offset, nodes⟩ =
    .ok (a, ⟨rest, offset + bytes.length, nodes⟩)

theorem skip_append (bytes rest : List UInt8) (offset nodes : Nat) :
    (Cursor.mk (bytes ++ rest) offset nodes).skip bytes.length =
      ⟨rest, offset + bytes.length, nodes⟩ := by
  simp [Cursor.skip]

variable {byte : UInt8}

theorem skipWhitespace_of (h : Cursor.isWhitespace byte = false) (tail : List UInt8) :
    (Cursor.mk (byte :: tail) offset nodes).skipWhitespace = ⟨byte :: tail, offset, nodes⟩ := by
  rw [Cursor.skipWhitespace, List.takeWhile_cons_of_neg (by simp [h])]
  rfl

theorem consumeIf_same (c : Char) (tail : List UInt8) :
    (Cursor.mk (ascii c :: tail) offset nodes).consumeIf c = (true, ⟨tail, offset + 1, nodes⟩) :=
  if_pos rfl

variable {c : Char}

theorem consumeIf_other (h : byte ≠ ascii c) (tail : List UInt8) :
    (Cursor.mk (byte :: tail) offset nodes).consumeIf c =
      (false, ⟨byte :: tail, offset, nodes⟩) :=
  if_neg fun heq => h (Option.some.inj heq)

theorem expect_same (c : Char) (tail : List UInt8) :
    (Cursor.mk (ascii c :: tail) offset nodes).expect c = .ok ⟨tail, offset + 1, nodes⟩ :=
  if_pos rfl

variable {n : Nat}

theorem hexDigitValue_hexDigit (h : n < 16) : hexDigitValue (hexDigit n) = some n := by
  have hall : ∀ n < 16, hexDigitValue (hexDigit n) = some n := by decide
  exact hall n h

theorem reads_hex {a b : Nat} (ha : a < 16) (hb : b < 16) (rest : List UInt8) :
    Reads parseHexU16 [ascii '0', ascii '0', hexDigit a, hexDigit b] (a * 16 + b) rest := by
  intro offset nodes
  have hdigits : ([ascii '0', ascii '0', hexDigit a, hexDigit b]).mapM hexDigitValue =
      some [0, 0, a, b] := by
    simp [hexDigitValue_hexDigit ha, hexDigitValue_hexDigit hb,
      show hexDigitValue (ascii '0') = some 0 by decide]
  unfold parseHexU16
  rw [require_of (by simp), ok_bind, List.take_append_of_le_length (by simp), List.take_of_length_le
    (by simp), hdigits, fetch, Option.elim_some, ok_bind]
  simp [Cursor.skip, pure, Except.pure]

variable {character : Char}

theorem reads_unicode (hlow : character.toNat < 0x20) (rest : List UInt8) :
    Reads parseUnicodeEscape [ascii '0', ascii '0', hexDigit (character.toNat / 16 % 16),
      hexDigit (character.toNat % 16)] character rest := by
  intro offset nodes
  have hvalue : character.toNat / 16 % 16 * 16 + character.toNat % 16 = character.toNat := by omega
  have hfirst : ¬ (0xd800 ≤ character.toNat ∧ character.toNat ≤ 0xdbff) := by omega
  have hsecond : ¬ (0xdc00 ≤ character.toNat ∧ character.toNat ≤ 0xdfff) := by omega
  have hscalar : charFromU32 character.toNat = some character := by
    rw [charFromU32, if_pos (show character.toNat.isValidChar from character.valid),
      Char.ofNat_toNat]
  rw [parseUnicodeEscape, reads_hex (Nat.mod_lt _ (by decide)) (Nat.mod_lt _ (by decide)), ok_bind]
  dsimp only
  rw [hvalue, parseScalar, if_neg hfirst, require_of hsecond, ok_bind]
  dsimp only [pure, Except.pure]
  rw [ok_bind]
  dsimp only
  rw [hscalar]
  rfl

theorem head_plain (hhigh : 0x20 ≤ character.toNat) (hquote : character ≠ '"')
    (hslash : character ≠ '\\') : ∃ byte tail, String.utf8EncodeChar character = byte :: tail ∧
      byte ≠ ascii '"' ∧ byte ≠ ascii '\\' ∧ ¬ byte.toNat < 0x20 := by
  have hdecode := decodeRune_encode character []
  rw [List.append_nil] at hdecode
  obtain ⟨byte, tail, hcons⟩ := List.exists_cons_of_ne_nil
    (@String.utf8EncodeChar_ne_nil character)
  rw [hcons] at hdecode
  refine ⟨byte, tail, hcons, ?_⟩
  by_cases hascii : byte.toNat < 0x80
  · rw [decodeRune, if_pos hascii] at hdecode
    cases hdecode
    have hvalid : byte.toNat.isValidChar := .inl (by omega)
    have hbyte : (Char.ofNat byte.toNat).toNat = byte.toNat := by
      rw [Char.toNat, Char.ofNat, dif_pos hvalid]
      rfl
    rw [hbyte] at hhigh
    refine ⟨?_, ?_, not_lt.mpr hhigh⟩
    · rintro rfl
      exact hquote (by decide)
    · rintro rfl
      exact hslash (by decide)
  · refine ⟨?_, ?_, by omega⟩
    · rintro rfl
      exact hascii (by decide)
    · rintro rfl
      exact hascii (by decide)

theorem reads_char (character : Char) (rest : List UInt8) :
    Reads parseChar (encodeChar character) (some character) rest := by
  intro offset nodes
  unfold encodeChar
  split
  · next h =>
    subst h
    rfl
  split
  · next h =>
    subst h
    rfl
  split
  · next h =>
    subst h
    rfl
  split
  · next h =>
    subst h
    rfl
  split
  · next h =>
    subst h
    rfl
  split
  · next h =>
    subst h
    rfl
  split
  · next h =>
    subst h
    rfl
  split
  · next hcontrol =>
    have hlow : character.toNat < 0x20 := by omega
    have hunicode := reads_unicode hlow rest (offset + 2) nodes
    have hescape : parseChar (Cursor.mk (ascii '\\' :: ascii 'u' :: ([ascii '0', ascii '0',
        hexDigit (character.toNat / 16 % 16), hexDigit (character.toNat % 16)] ++ rest))
        offset nodes) = parseUnicodeEscape (Cursor.mk ([ascii '0', ascii '0',
        hexDigit (character.toNat / 16 % 16), hexDigit (character.toNat % 16)] ++ rest)
        (offset + 2) nodes) >>= fun answer => pure (some answer.1, answer.2) := rfl
    exact hescape.trans (by rw [hunicode]; rfl)
  · next hquote hslash _ _ _ _ _ hhigh =>
    obtain ⟨byte, tail, hcons, hq, hs, hb⟩ := head_plain (by omega) hquote hslash
    have hdecode := decodeRune_encode character rest
    rw [hcons, List.cons_append] at hdecode
    rw [hcons, List.cons_append, parseChar]
    dsimp only
    rw [if_neg hq, if_neg hs, if_neg hb, hdecode, fetch, Option.elim_some, ok_bind,
      ← String.length_utf8EncodeChar, hcons, ← List.cons_append, skip_append]
    rfl

theorem encodeChar_pos (character : Char) : 0 < (encodeChar character).length := by
  refine List.length_pos_iff.mpr fun hnil => ?_
  have hread := reads_char character [] 0 0
  rw [hnil] at hread
  cases hread

theorem length_chars (cs : List Char) : cs.length ≤ (cs.flatMap encodeChar).length := by
  induction cs with
  | nil => exact Nat.le_refl 0
  | cons c rest ih =>
    have hpos := encodeChar_pos c
    rw [List.flatMap_cons, List.length_append, List.length_cons]
    omega

theorem reads_chars (cs output : List Char) {fuel : Nat} (hfuel : cs.length < fuel)
    (hbytes : (ofRunes (output ++ cs)).length ≤ limits.maxStringBytes) (rest : List UInt8) :
    Reads (parseChars limits fuel output) (cs.flatMap encodeChar ++ [ascii '"']) (output ++ cs)
      rest := by
  induction cs generalizing output fuel with
  | nil =>
    obtain ⟨fuel, rfl⟩ : ∃ n, fuel = n + 1 := ⟨fuel - 1, by omega⟩
    intro offset nodes
    rw [List.append_nil]
    rfl
  | cons c cs ih =>
    obtain ⟨fuel, rfl⟩ : ∃ n, fuel = n + 1 := ⟨fuel - 1, by omega⟩
    rw [List.length_cons] at hfuel
    have hassoc : output ++ c :: cs = (output ++ [c]) ++ cs := by simp
    have hstep : (ofRunes (output ++ [c])).length ≤ limits.maxStringBytes := by
      rw [hassoc, ofRunes_append, List.length_append] at hbytes
      omega
    have hrest : Reads (parseChars limits fuel (output ++ [c]))
        (cs.flatMap encodeChar ++ [ascii '"']) (output ++ c :: cs) rest := by
      rw [hassoc]
      exact ih (output ++ [c]) (by omega) (hassoc ▸ hbytes)
    intro offset nodes
    rw [List.flatMap_cons, List.append_assoc (encodeChar c) _ [_],
      List.append_assoc (encodeChar c), parseChars, reads_char, ok_bind]
    dsimp only
    rw [require_of hstep, ok_bind, hrest]
    simp only [List.length_append, Nat.add_assoc]

theorem chars_text (cs : List Char) : ofRunes (cs.flatMap escape) = cs.flatMap encodeChar := by
  induction cs with
  | nil => rfl
  | cons c rest ih => rw [List.flatMap_cons, ofRunes_append, List.flatMap_cons, ih, encodeChar_eq]

theorem quote_text (cs : List Char) :
    ofRunes (quote cs) = ascii '"' :: (cs.flatMap encodeChar ++ [ascii '"']) := by
  rw [quote, ofRunes_enclosed (by decide) (by decide), chars_text]
  rfl

theorem reads_string {value : String}
    (hbytes : (ofRunes value.toList).length ≤ limits.maxStringBytes) (rest : List UInt8) :
    Reads (parseString limits) (ofRunes (quote value.toList)) value rest := by
  intro offset nodes
  have hlength := length_chars value.toList
  rw [quote_text, List.cons_append, parseString, expect_same, ok_bind, reads_chars value.toList []
    (by simp only [List.length_append]; omega) hbytes, ok_bind]
  dsimp only
  rw [List.nil_append, String.ofList_toList, List.length_cons, Nat.add_right_comm, Nat.add_assoc]
  rfl

def EndsValue (rest : List UInt8) : Prop :=
  ∀ byte ∈ rest.head?, byte ∈ [ascii ',', ascii ']', ascii '}']

theorem EndsValue.not_digit (h : EndsValue rest) :
    ∀ byte ∈ rest.head?, isDigit byte = false ∧ byte ∉ [ascii '.', ascii 'e', ascii 'E'] := by
  intro byte hbyte
  have hall : ∀ byte ∈ [ascii ',', ascii ']', ascii '}'],
      isDigit byte = false ∧ byte ∉ [ascii '.', ascii 'e', ascii 'E'] := by decide
  exact hall byte (h byte hbyte)

theorem digit_byte (h : c.isDigit = true) :
    isDigit (ascii c) = true ∧ Char.ofNat (ascii c).toNat = c := by
  have hlt : c.toNat < 0x80 := digit_ascii h
  have hall : ∀ n < 0x80, (Char.ofNat n).isDigit = true →
      isDigit (ascii (Char.ofNat n)) = true ∧
        Char.ofNat (ascii (Char.ofNat n)).toNat = Char.ofNat n := by decide +kernel
  have hc := hall _ hlt
  rw [Char.ofNat_toNat] at hc
  exact hc h

theorem decimalValue_decimal (n : Nat) : decimalValue ((decimal n).map ascii) = n := by
  have hback : ((decimal n).map ascii).map (fun digit => Char.ofNat digit.toNat) = decimal n := by
    rw [List.map_map]
    refine (List.map_congr_left fun c hc => ?_).trans (List.map_id _)
    exact (digit_byte (decimal_digits n c hc)).2
  rw [decimalValue, hback]
  exact Nat.ofDigitChars_ten_toDigits

theorem digitsOf_decimal (offset nodes n : Nat) (hrest : EndsValue rest) : ∃ first tail,
    (decimal n).map ascii = first :: tail ∧ isDigit first = true ∧
      digitsOf first ⟨(decimal n).map ascii ++ rest, offset, nodes⟩ =
        .ok ((decimal n).map ascii) := by
  rcases Nat.eq_zero_or_pos n with rfl | hpos
  · refine ⟨ascii '0', [], rfl, by decide, ?_⟩
    have hnext : ∀ next ∈ ((Cursor.mk ((decimal 0).map ascii ++ rest) offset nodes).skip
        1).rest.head?, isDigit next = false := fun next hnext => (hrest.not_digit next hnext).1
    rw [digitsOf, if_pos rfl, require_of hnext]
    rfl
  · obtain ⟨c, tail, hcons, hzero⟩ := decimal_head hpos
    have hdigit := (digit_byte (decimal_digits n c (by rw [hcons]; exact List.mem_cons_self)))
    have hne : ascii c ≠ ascii '0' := by
      intro heq
      have hback := hdigit.2
      rw [heq] at hback
      exact hzero hback.symm
    refine ⟨ascii c, tail.map ascii, by rw [hcons, List.map_cons], hdigit.1, ?_⟩
    have hall : ∀ byte ∈ (decimal n).map ascii, isDigit byte = true := by
      intro byte hbyte
      obtain ⟨d, hd, rfl⟩ := List.mem_map.mp hbyte
      exact (digit_byte (decimal_digits n d hd)).1
    have hstop : rest.takeWhile isDigit = [] := by
      cases rest with
      | nil => rfl
      | cons byte tail =>
        exact List.takeWhile_cons_of_neg (by simp [(hrest.not_digit byte rfl).1])
    rw [digitsOf, if_neg hne, require_of hdigit.1, ok_bind,
      List.takeWhile_append_of_pos hall, hstop, List.append_nil]
    rfl

theorem reads_digits (n : Nat) (hrest : EndsValue rest) :
    Reads parseDigits ((decimal n).map ascii) ((decimal n).map ascii) rest := by
  intro offset nodes
  obtain ⟨first, tail, hcons, -, hdigits⟩ := digitsOf_decimal offset nodes n hrest
  have hhead : ((decimal n).map ascii ++ rest).head? = some first := by
    rw [hcons]
    rfl
  have hplain : ∀ next ∈ (Cursor.mk rest (offset + ((decimal n).map ascii).length)
      nodes).rest.head?, next ∉ [ascii '.', ascii 'e', ascii 'E'] :=
    fun next hnext => (hrest.not_digit next hnext).2
  rw [parseDigits, hhead, fetch, Option.elim_some, ok_bind, hdigits, ok_bind, skip_append]
  dsimp only
  rw [require_of hplain]
  rfl

theorem reads_unsigned (hn : n < 2 ^ 64) (hrest : EndsValue rest) :
    Reads parseNumber ((decimal n).map ascii) (.unsigned (UInt64.ofNat n)) rest := by
  intro offset nodes
  obtain ⟨first, tail, hcons, hdigit, -⟩ := digitsOf_decimal offset nodes n hrest
  have hpositive : (Cursor.mk ((decimal n).map ascii ++ rest) offset nodes).consumeIf '-' =
      (false, ⟨(decimal n).map ascii ++ rest, offset, nodes⟩) := by
    rw [hcons]
    refine consumeIf_other ?_ _
    rintro rfl
    exact absurd hdigit (by decide)
  rw [parseNumber, hpositive]
  dsimp only
  rw [reads_digits n hrest, ok_bind]
  dsimp only
  rw [if_neg (by decide), decimalValue_decimal, require_of hn]
  rfl

theorem reads_negative (hn : n ≤ 2 ^ 63) (hrest : EndsValue rest) :
    Reads parseNumber (ascii '-' :: (decimal n).map ascii) (.integer (Int64.ofInt (-n))) rest := by
  intro offset nodes
  rw [List.cons_append, parseNumber, consumeIf_same]
  dsimp only
  rw [reads_digits n hrest, ok_bind]
  dsimp only
  rw [if_pos rfl, decimalValue_decimal, require_of hn, List.length_cons, Nat.add_assoc,
    Nat.add_comm 1]
  rfl

end

section
mutual

def JsonValue.normal : JsonValue → JsonValue
  | .integer value =>
    if 0 ≤ value.toInt then .unsigned (UInt64.ofNat value.toInt.toNat) else .integer value
  | .array values => .array (normalItems values)
  | .object values => .object (normalFields values)
  | value => value

def normalItems : List JsonValue → List JsonValue
  | [] => []
  | value :: rest => value.normal :: normalItems rest

def normalFields : List (String × JsonValue) → List (String × JsonValue)
  | [] => []
  | (key, value) :: rest => (key, value.normal) :: normalFields rest

end

mutual

def JsonValue.height : JsonValue → Nat
  | .array values => itemsHeight values
  | .object values => fieldsHeight values
  | _ => 0

def itemsHeight : List JsonValue → Nat
  | [] => 0
  | value :: rest => max (value.height + 1) (itemsHeight rest)

def fieldsHeight : List (String × JsonValue) → Nat
  | [] => 0
  | (_, value) :: rest => max (value.height + 1) (fieldsHeight rest)

end

mutual

def JsonValue.nodeCount : JsonValue → Nat
  | .array values => 1 + itemsCount values
  | .object values => 1 + fieldsCount values
  | _ => 1

def itemsCount : List JsonValue → Nat
  | [] => 0
  | value :: rest => value.nodeCount + itemsCount rest

def fieldsCount : List (String × JsonValue) → Nat
  | [] => 0
  | (_, value) :: rest => value.nodeCount + fieldsCount rest

end

-- What a `BTreeMap` promises, at every depth.
inductive JsonValue.Sorted : JsonValue → Prop
  | null : Sorted .null
  | bool (value : Bool) : Sorted (.bool value)
  | integer (value : Int64) : Sorted (.integer value)
  | unsigned (value : UInt64) : Sorted (.unsigned value)
  | string (value : String) : Sorted (.string value)
  | array {values : List JsonValue} : (∀ value ∈ values, Sorted value) → Sorted (.array values)
  | object {values : List (String × JsonValue)} : Ascending values →
      (∀ entry ∈ values, Sorted entry.2) → Sorted (.object values)

def ShortString (limits : JsonLimits) (value : String) : Prop :=
  (ofRunes value.toList).length ≤ limits.maxStringBytes

instance (limits : JsonLimits) (value : String) : Decidable (ShortString limits value) :=
  inferInstanceAs (Decidable (_ ≤ _))

inductive Fits (limits : JsonLimits) : JsonValue → Prop
  | null : Fits limits .null
  | bool (value : Bool) : Fits limits (.bool value)
  | integer (value : Int64) : Fits limits (.integer value)
  | unsigned (value : UInt64) : Fits limits (.unsigned value)
  | string {value : String} : ShortString limits value → Fits limits (.string value)
  | array {values : List JsonValue} : values.length ≤ limits.maxCollectionLen →
      (∀ value ∈ values, Fits limits value) → Fits limits (.array values)
  | object {values : List (String × JsonValue)} : values.length ≤ limits.maxCollectionLen →
      (∀ entry ∈ values, ShortString limits entry.1) →
        (∀ entry ∈ values, Fits limits entry.2) → Fits limits (.object values)

structure WithinLimits (limits : JsonLimits) (v : JsonValue) : Prop where
  depth : v.height ≤ limits.maxDepth
  nodes : min v.nodeCount usizeMax ≤ limits.maxNodes
  fits : Fits limits v

variable {limits : JsonLimits} {rest : List UInt8} {offset nodes levels : Nat}

theorem normalItems_eq (values : List JsonValue) :
    normalItems values = values.map JsonValue.normal :=
  eq_map rfl (fun _ _ => rfl) values

theorem normalFields_eq (values : List (String × JsonValue)) :
    normalFields values = values.map fun entry => (entry.1, entry.2.normal) :=
  eq_map rfl (fun _ _ => rfl) values

theorem plain_normal (v : JsonValue) : v.normal.plain = v.plain := by
  induction v using JsonValue.children with
  | integer value =>
    rw [JsonValue.normal]
    split
    · next hpos =>
      have hlt := value.toInt_lt
      rw [JsonValue.plain, JsonValue.plain, UInt64.toNat_ofNat', Nat.mod_eq_of_lt (by omega),
        Int.toNat_of_nonneg hpos]
    · rfl
  | array values ih =>
    rw [JsonValue.normal, JsonValue.plain, JsonValue.plain, normalItems_eq, plainItems_eq,
      plainItems_eq, List.map_map]
    exact congrArg _ (List.map_congr_left ih)
  | object values ih =>
    rw [JsonValue.normal, JsonValue.plain, JsonValue.plain, normalFields_eq, plainFields_eq,
      plainFields_eq, List.map_map]
    refine congrArg _ (List.map_congr_left fun entry hentry => ?_)
    exact congrArg (Prod.mk entry.1.toList) (ih entry hentry)
  | _ => rfl

theorem canonical_normal (v : JsonValue) : v.normal.canonical = v.canonical := by
  rw [JsonValue.canonical, plain_normal, JsonValue.canonical]

theorem render_opens (v : JsonValue) : ∃ c tail, v.plain.render = c :: tail ∧
    (c ∈ ['n', 't', 'f', '"', '[', '{', '-'] ∨ c.isDigit = true) := by
  cases v with
  | null => exact ⟨'n', _, rfl, .inl (by decide)⟩
  | bool value =>
    cases value with
    | true => exact ⟨'t', _, rfl, .inl (by decide)⟩
    | false => exact ⟨'f', _, rfl, .inl (by decide)⟩
  | integer value =>
    obtain ⟨c, tail, hcons, hc⟩ := integer_opens value.toInt
    exact ⟨c, tail, hcons, hc.imp_left (by rintro rfl; decide)⟩
  | unsigned value =>
    obtain ⟨c, tail, hcons, hc⟩ := integer_opens value.toNat
    exact ⟨c, tail, hcons, hc.imp_left (by rintro rfl; decide)⟩
  | string value => exact ⟨'"', _, rfl, .inl (by decide)⟩
  | array values => exact ⟨'[', _, rfl, .inl (by decide)⟩
  | object values => exact ⟨'{', _, rfl, .inl (by decide)⟩

theorem canonical_opens (v : JsonValue) : ∃ byte tail, v.canonical = byte :: tail ∧
    Cursor.isWhitespace byte = false ∧ byte ≠ ascii ']' ∧ byte ≠ ascii '}' := by
  obtain ⟨c, tail, hcons, hc⟩ := render_opens v
  have hlt : c.toNat < 0x80 := by
    rcases hc with hmem | hdigit
    · have hall : ∀ c ∈ ['n', 't', 'f', '"', '[', '{', '-'], c.toNat < 0x80 := by decide
      exact hall c hmem
    · exact digit_ascii hdigit
  have hall : ∀ n < 0x80, (Char.ofNat n ∈ ['n', 't', 'f', '"', '[', '{', '-'] ∨
      (Char.ofNat n).isDigit = true) → Cursor.isWhitespace (ascii (Char.ofNat n)) = false ∧
        ascii (Char.ofNat n) ≠ ascii ']' ∧ ascii (Char.ofNat n) ≠ ascii '}' := by
    decide +kernel
  refine ⟨ascii c, ofRunes tail, ?_, ?_⟩
  · rw [JsonValue.canonical, hcons, ofRunes_cons hlt]
  · have hfacts := hall _ hlt
    rw [Char.ofNat_toNat] at hfacts
    exact hfacts hc

variable {byte : UInt8}

theorem parseValue_node (hspace : Cursor.isWhitespace byte = false)
    (hnodes : min (nodes + 1) usizeMax ≤ limits.maxNodes) (tail : List UInt8) :
    parseValue limits (levels + 1) ⟨byte :: tail, offset, nodes⟩ =
      parseNode limits (parseValue limits levels) byte
        ⟨byte :: tail, offset, min (nodes + 1) usizeMax⟩ := by
  have hcounted : countNode limits ⟨byte :: tail, offset, nodes⟩ =
      .ok ⟨byte :: tail, offset, min (nodes + 1) usizeMax⟩ := by
    rw [countNode]
    dsimp only
    rw [require_of hnodes]
    rfl
  rw [parseValue, hcounted, ok_bind]
  dsimp only
  rw [skipWhitespace_of hspace]
  rfl

def ReadsBack (limits : JsonLimits) (v : JsonValue) : Prop :=
  ∀ levels rest offset nodes, v.height < levels →
    min (nodes + v.nodeCount) usizeMax ≤ limits.maxNodes → EndsValue rest →
      parseValue limits levels ⟨v.canonical ++ rest, offset, nodes⟩ =
        .ok (v.normal, ⟨rest, offset + v.canonical.length, min (nodes + v.nodeCount) usizeMax⟩)

variable {v : JsonValue} {tail : List UInt8}

theorem readsBack_leaf (hcount : v.nodeCount = 1) (hcanonical : v.canonical = byte :: tail)
    (hspace : Cursor.isWhitespace byte = false) (h : ∀ inner rest, EndsValue rest →
      Reads (parseNode limits inner byte) v.canonical v.normal rest) : ReadsBack limits v := by
  intro levels rest offset nodes hheight hnodes hrest
  obtain ⟨levels, rfl⟩ : ∃ n, levels = n + 1 := ⟨levels - 1, by omega⟩
  rw [hcount] at hnodes ⊢
  rw [hcanonical, List.cons_append, parseValue_node hspace hnodes, ← List.cons_append,
    ← hcanonical]
  exact h _ rest hrest offset _

theorem readsBack_word (v : JsonValue) (word : List Char) (hcount : v.nodeCount = 1)
    (hword : v.canonical = word.map ascii) (hcons : v.canonical = byte :: tail)
    (hspace : Cursor.isWhitespace byte = false)
    (hnode : ∀ inner c, parseNode limits inner byte c = do
      let c ← c.consumeLiteral word
      return (v.normal, c)) : ReadsBack limits v := by
  refine readsBack_leaf hcount hcons hspace fun inner rest _ offset nodes => ?_
  have htake : (v.canonical ++ rest).take word.length = word.map ascii := by
    rw [hword]
    exact List.take_left' (List.length_map _)
  rw [hnode, Cursor.consumeLiteral, if_pos htake, ← List.length_map (f := ascii), ← hword,
    skip_append]
  rfl

theorem readsBack_scalar (h : v ∈ [JsonValue.null, .bool true, .bool false]) :
    ReadsBack limits v := by
  simp only [List.mem_cons, List.not_mem_nil, or_false] at h
  rcases h with rfl | rfl | rfl
  · exact readsBack_word _ ['n', 'u', 'l', 'l'] rfl rfl rfl (by decide) fun _ _ => rfl
  · exact readsBack_word _ ['t', 'r', 'u', 'e'] rfl rfl rfl (by decide) fun _ _ => rfl
  · exact readsBack_word _ ['f', 'a', 'l', 's', 'e'] rfl rfl rfl (by decide) fun _ _ => rfl

theorem readsBack_string {value : String} (hshort : ShortString limits value) :
    ReadsBack limits (.string value) := by
  have hcanonical : (JsonValue.string value).canonical = ofRunes (quote value.toList) := rfl
  refine readsBack_leaf rfl (hcanonical.trans (quote_text _)) (by decide) ?_
  intro inner rest _ offset nodes
  have hread := reads_string hshort rest offset nodes
  exact congrArg (· >>= fun answer => pure (JsonValue.string answer.1, answer.2)) hread

theorem parseNode_number (limits : JsonLimits) (h : byte = ascii '-' ∨ isDigit byte = true) :
    Cursor.isWhitespace byte = false ∧
      ∀ inner, parseNode limits inner byte = parseNumber := by
  have hall : ∀ byte, byte = ascii '-' ∨ isDigit byte = true →
      Cursor.isWhitespace byte = false ∧ byte ≠ ascii 'n' ∧ byte ≠ ascii 't' ∧ byte ≠ ascii 'f' ∧
        byte ≠ ascii '"' ∧ byte ≠ ascii '[' ∧ byte ≠ ascii '{' :=
    forall_byte (by decide +kernel)
  obtain ⟨hspace, hn, ht, hf, hquote, hlist, hobject⟩ := hall byte h
  refine ⟨hspace, fun inner => funext fun c => ?_⟩
  rw [parseNode, if_neg hn, if_neg ht, if_neg hf, if_neg hquote, if_neg hlist, if_neg hobject,
    if_pos h]

theorem readsBack_number {n : Int} (hplain : v.plain = .int n) (hcount : v.nodeCount = 1)
    (hlow : -(2 ^ 63) ≤ n) (hhigh : n < 2 ^ 64)
    (hnormal : v.normal = if 0 ≤ n then .unsigned (UInt64.ofNat n.toNat)
      else .integer (Int64.ofInt n)) : ReadsBack limits v := by
  have hcanonical : v.canonical = decimalText n := by
    rw [JsonValue.canonical, hplain, Value.render, decimalText_eq]
  cases n with
  | ofNat n =>
    have htext : v.canonical = (decimal n).map ascii := hcanonical
    have hends : EndsValue [] := by simp [EndsValue]
    obtain ⟨first, tail, hcons, hdigit, -⟩ := digitsOf_decimal 0 0 n hends
    obtain ⟨hspace, hnode⟩ := parseNode_number limits (.inr hdigit)
    refine readsBack_leaf hcount (htext.trans hcons) hspace fun inner rest hrest => ?_
    rw [hnode, htext, hnormal]
    exact reads_unsigned (Int.ofNat_lt.mp hhigh) hrest
  | negSucc n =>
    have htext : v.canonical = ascii '-' :: (decimal (n + 1)).map ascii := hcanonical
    obtain ⟨hspace, hnode⟩ := parseNode_number limits (.inl rfl)
    refine readsBack_leaf hcount htext hspace fun inner rest hrest => ?_
    rw [hnode, htext, hnormal]
    exact reads_negative (by omega) hrest

theorem readsBack_integer (value : Int64) : ReadsBack limits (.integer value) := by
  have hlow := value.le_toInt
  have hhigh := value.toInt_lt
  refine readsBack_number (n := value.toInt) rfl rfl hlow (by omega) ?_
  rw [JsonValue.normal, Int64.ofInt_toInt]

theorem readsBack_unsigned (value : UInt64) : ReadsBack limits (.unsigned value) := by
  have hhigh := value.toNat_lt
  refine readsBack_number (n := value.toNat) rfl rfl (by omega) (by omega) ?_
  rw [if_pos (Int.natCast_nonneg _), Int.toNat_natCast, UInt64.ofNat_toNat]
  rfl

variable {n : Nat}

theorem itemsHeight_lt {values : List JsonValue} :
    itemsHeight values < n + 1 ↔ ∀ value ∈ values, value.height < n := by
  induction values with
  | nil => simp [itemsHeight]
  | cons value rest ih =>
    rw [itemsHeight, List.forall_mem_cons, ← ih]
    omega

theorem fieldsHeight_lt {values : List (String × JsonValue)} :
    fieldsHeight values < n + 1 ↔ ∀ entry ∈ values, entry.2.height < n := by
  induction values with
  | nil => simp [fieldsHeight]
  | cons entry rest ih =>
    rw [fieldsHeight, List.forall_mem_cons, ← ih]
    omega

end

end TokenJwt
