import TrillionniumGame.Foundation.TextSizes
import TrillionniumGame.TokenJwt.JsonReader

namespace TokenJwt.Reader
open Checks Entries GoText

variable {input rest tail : List UInt8} {c c' : Cursor}
  {α β : Type}

theorem startsChar_encode (character : Char) (rest : List UInt8) :
    startsChar (String.utf8EncodeChar character ++ rest) := by
  have hfirst : ∀ byte : UInt8, byte.IsUTF8FirstByte → ¬ (0x80 ≤ byte.toNat ∧ byte.toNat < 0xc0) :=
    forall_byte (by decide +kernel)
  intro byte hbyte
  have hhead := UInt8.isUTF8FirstByte_getElem_zero_utf8EncodeChar (c := character)
  rw [List.head?_append_of_ne_nil _ String.utf8EncodeChar_ne_nil, Option.mem_def,
    List.head?_eq_getElem?] at hbyte
  obtain ⟨hpos, hget⟩ := List.getElem?_eq_some_iff.mp hbyte
  rw [hget] at hhead
  exact hfirst byte hhead

def At (input : List UInt8) (c : Cursor) : Prop :=
  ∃ before after, input = ofRunes (before ++ after) ∧ c.rest = ofRunes after ∧
    c.offset = (ofRunes before).length

structure CharBoundary (input : List UInt8) (offset : Nat) : Prop where
  inside : offset ≤ input.length
  starts : startsChar (input.drop offset)

def Located (input : List UInt8) (e : JsonError) : Prop :=
  e.kind = .invalidEscape ∨ CharBoundary input e.offset

theorem At.startsChar (h : At input c) : startsChar c.rest := by
  obtain ⟨before, after, -, hrest, -⟩ := h
  rw [hrest]
  cases after with
  | nil => exact nofun
  | cons character after => exact startsChar_encode character (ofRunes after)

theorem At.boundary (h : At input c) : CharBoundary input c.offset := by
  have hstarts := h.startsChar
  obtain ⟨before, after, rfl, hrest, hoffset⟩ := h
  rw [ofRunes_append, hoffset]
  refine ⟨?_, ?_⟩
  · rw [List.length_append]
    exact Nat.le_add_right _ _
  · rwa [List.drop_left, ← hrest]

theorem At.located (h : At input c) (kind : JsonErrorKind) : Located input (c.error kind) :=
  .inr h.boundary

theorem At.valid (h : At input c) : validString c.rest = true := by
  obtain ⟨before, after, -, hrest, -⟩ := h
  rw [hrest]
  exact validString_ofRunes after

variable {character : Char}

theorem At.char (h : At input c) (hchar : decodeRune c.rest = some character) :
    At input (c.skip character.utf8Size) := by
  obtain ⟨before, after, hinput, hrest, hoffset⟩ := h
  cases after with
  | nil =>
    rw [hrest] at hchar
    cases hchar
  | cons first after =>
    have hcons : c.rest = String.utf8EncodeChar first ++ ofRunes after := hrest
    rw [hcons, decodeRune_encode] at hchar
    obtain rfl := Option.some.inj hchar
    have hsize := String.length_utf8EncodeChar first
    refine ⟨before ++ [first], after, ?_, ?_, ?_⟩
    · rw [hinput, List.append_assoc, List.singleton_append]
    · rw [Cursor.skip, hcons, ← hsize, List.drop_left]
    · have hone : ofRunes [first] = String.utf8EncodeChar first := List.append_nil _
      rw [ofRunes_append, List.length_append, hone, hsize, Cursor.skip, hoffset]

theorem At.byte (h : At input c) {byte : UInt8} (hrest : c.rest = byte :: tail) (hbyte : byte.toNat < 0x80) :
    At input (c.skip 1) := by
  have hchar : decodeRune c.rest = some (Char.ofNat byte.toNat) := by
    rw [hrest, decodeRune, if_pos hbyte]
  have hsize : (Char.ofNat byte.toNat).utf8Size = 1 := by
    rw [← String.length_utf8EncodeChar, encode_ascii hbyte]
    rfl
  have hskip := h.char hchar
  rwa [hsize] at hskip

theorem At.bytes (h : At input c) {count : Nat} (hcount : count ≤ c.rest.length)
    (hbytes : ∀ byte ∈ c.rest.take count, byte.toNat < 0x80) : At input (c.skip count) := by
  induction count generalizing c with
  | zero => exact h
  | succ count ih =>
    cases hrest : c.rest with
    | nil =>
      rw [hrest] at hcount
      cases hcount
    | cons byte tail =>
      rw [hrest, List.take_succ_cons, List.forall_mem_cons] at hbytes
      rw [hrest] at hcount
      have htail : (c.skip 1).rest = tail := by
        rw [Cursor.skip, hrest]
        rfl
      have hnext := ih (h.byte hrest hbytes.1)
        (htail ▸ Nat.le_of_succ_le_succ hcount) (htail ▸ hbytes.2)
      rwa [skip_skip, Nat.add_comm] at hnext

theorem At.nodes (h : At input c) (nodes : Nat) : At input { c with nodes := nodes } := h

theorem At.skipWhitespace (h : At input c) : At input c.skipWhitespace := by
  have hspace : ∀ byte, Cursor.isWhitespace byte = true → byte.toNat < 0x80 :=
    forall_byte (by decide +kernel)
  have htake : c.rest.take (c.rest.takeWhile Cursor.isWhitespace).length =
      c.rest.takeWhile Cursor.isWhitespace :=
    (List.prefix_iff_eq_take.mp (List.takeWhile_prefix _)).symm
  refine h.bytes (List.takeWhile_prefix _).length_le fun byte hbyte => ?_
  rw [htake] at hbyte
  exact hspace byte (List.mem_takeWhile_imp hbyte)

variable {expected : Char}

theorem At.consumeIf (h : At input c) (hascii : (ascii expected).toNat < 0x80) :
    At input (c.consumeIf expected).2 := by
  unfold Cursor.consumeIf
  split
  · next hhead =>
    obtain ⟨tail, hrest⟩ := List.head?_eq_some_iff.mp hhead
    exact h.byte hrest hascii
  · exact h

def Steady (input : List UInt8) (x : Except JsonError (α × Cursor)) : Prop :=
  Ensures (fun p => At input p.2) (Located input) x

variable {Q : β → Prop}

theorem Steady.bind {x : Except JsonError (α × Cursor)} {f : α × Cursor → Except JsonError β}
    (h : Steady input x) (hf : ∀ a c', At input c' → Ensures Q (Located input) (f (a, c'))) :
    Ensures Q (Located input) (x >>= f) :=
  ensures_bind.mpr (h.mono (fun p _ hp => hf p.1 p.2 hp) fun _ => id)

theorem expect_steady (h : At input c) (hascii : (ascii expected).toNat < 0x80) :
    Ensures (fun c' => At input c' ∧ c'.rest.length < c.rest.length) (Located input)
      (c.expect expected) := by
  unfold Cursor.expect
  split
  · exact h.located _
  · next byte tail hrest =>
    split
    · next hbyte =>
      refine ⟨h.byte hrest (hbyte ▸ hascii), ?_⟩
      rw [Cursor.skip, hrest]
      exact Nat.lt_succ_self _
    · exact h.located _

theorem consumeLiteral_steady (h : At input c) {expected : List Char} (hne : expected ≠ [])
    (hascii : ∀ character ∈ expected, (ascii character).toNat < 0x80) :
    Ensures (fun c' => At input c' ∧ c'.rest.length < c.rest.length) (Located input)
      (c.consumeLiteral expected) := by
  unfold Cursor.consumeLiteral
  split
  · next htake =>
    have hpos := List.length_pos_iff.mpr hne
    have hlength : (c.rest.take expected.length).length = expected.length := by
      rw [htake, List.length_map]
    rw [List.length_take] at hlength
    refine ⟨h.bytes (by omega) fun byte hbyte => ?_, ?_⟩
    · rw [htake] at hbyte
      obtain ⟨character, hcharacter, rfl⟩ := List.mem_map.mp hbyte
      exact hascii character hcharacter
    · rw [Cursor.skip, List.length_drop]
      omega
  · exact h.located _

theorem hexDigit_ascii {byte : UInt8} {value : Nat} (h : hexDigitValue byte = some value) : byte.toNat < 0x80 := by
  have hall : ∀ byte, (hexDigitValue byte).isSome → byte.toNat < 0x80 :=
    forall_byte (by decide +kernel)
  exact hall byte (Option.isSome_of_mem h)

theorem mapM_hexDigits {bytes : List UInt8} {values : List Nat}
    (h : bytes.mapM hexDigitValue = some values) : ∀ byte ∈ bytes, byte.toNat < 0x80 := by
  induction bytes generalizing values with
  | nil => exact fun _ => nofun
  | cons byte rest ih =>
    simp only [List.mapM_cons, Option.bind_eq_bind, Option.bind_eq_some_iff] at h
    obtain ⟨value, hvalue, more, hmore, -⟩ := h
    exact List.forall_mem_cons.mpr ⟨hexDigit_ascii hvalue, ih hmore⟩

theorem parseHexU16_steady (h : At input c) : Steady input (parseHexU16 c) := by
  refine ensures_bind.mpr (ensures_require.mpr ⟨fun hlength => ?_, fun _ => h.located _⟩)
  refine ensures_bind.mpr (ensures_fetch.mpr ⟨fun digits hdigits => ?_, fun _ => h.located _⟩)
  exact h.bytes hlength (mapM_hexDigits hdigits)

theorem parseScalar_steady (h : At input c) (first : Nat) :
    Steady input (parseScalar first c) := by
  unfold parseScalar
  split
  · refine ensures_bind.mpr (ensures_require.mpr ⟨fun hescape => ?_, fun _ => h.located _⟩)
    have hlength : (c.rest.take 2).length = 2 := by rw [hescape]; rfl
    rw [List.length_take] at hlength
    have hsecond : At input (c.skip 2) := by
      refine h.bytes (by omega) ?_
      rw [hescape]
      decide
    refine (parseHexU16_steady hsecond).bind fun second c₁ hnext => ?_
    exact ensures_bind.mpr (ensures_require.mpr ⟨fun _ => hnext, fun _ => hnext.located _⟩)
  · exact ensures_bind.mpr (ensures_require.mpr ⟨fun _ => h, fun _ => h.located _⟩)

theorem parseUnicodeEscape_steady (h : At input c) : Steady input (parseUnicodeEscape c) := by
  refine (parseHexU16_steady h).bind fun first c₁ hfirst => ?_
  refine (parseScalar_steady hfirst first).bind fun scalar c₂ hscalar => ?_
  exact ensures_bind.mpr (ensures_fetch.mpr ⟨fun _ _ => hscalar, fun _ => hscalar.located _⟩)

theorem simpleEscape_ascii {byte : UInt8} (h : simpleEscape byte = some character) :
    byte.toNat < 0x80 := by
  have hall : ∀ byte, (simpleEscape byte).isSome → byte.toNat < 0x80 :=
    forall_byte (by decide +kernel)
  exact hall byte (Option.isSome_of_mem h)

theorem At.escape (h : At input c) {escaped : UInt8}
    (hrest : c.rest = ascii '\\' :: escaped :: tail) (hescaped : escaped.toNat < 0x80) :
    At input (c.skip 2) := by
  refine h.bytes (by rw [hrest]; exact Nat.le_add_left 2 tail.length) ?_
  rw [hrest]
  exact List.forall_mem_cons.mpr ⟨by decide, List.forall_mem_singleton.mpr hescaped⟩

theorem parseChar_steady (h : At input c) : Steady input (parseChar c) := by
  unfold parseChar
  split
  · exact h.located _
  next byte tail hrest =>
  split
  · next hquote => exact h.byte hrest (hquote ▸ by decide)
  split
  · next hescape =>
    subst hescape
    split
    · exact (h.byte hrest (by decide)).located _
    · next escaped tail =>
      split
      · next hunicode =>
        have hmoved := h.escape hrest (hunicode ▸ by decide)
        exact (parseUnicodeEscape_steady hmoved).bind fun _ _ => id
      · refine ensures_bind.mpr (ensures_fetch.mpr ⟨fun _ hsimple => ?_, fun _ => .inl rfl⟩)
        exact h.escape hrest (simpleEscape_ascii hsimple)
  split
  · exact h.located _
  · refine ensures_bind.mpr (ensures_fetch.mpr ⟨fun character hchar => ?_, fun _ => h.located _⟩)
    exact h.char (hrest ▸ hchar)

theorem isDigit_ascii : ∀ {byte : UInt8}, isDigit byte = true → byte.toNat < 0x80 :=
  @(forall_byte (by decide +kernel))

structure Digits (c : Cursor) (digits : List UInt8) : Prop where
  read : c.rest.take digits.length = digits
  decimal : ∀ digit ∈ digits, isDigit digit = true
  some : digits ≠ []

theorem digitsOf_reads (h : At input c) {first : UInt8} (hfirst : c.rest.head? = some first) :
    Ensures (Digits c) (Located input) (digitsOf first c) := by
  obtain ⟨tail, hrest⟩ := List.head?_eq_some_iff.mp hfirst
  unfold digitsOf
  split
  · next hzero =>
    have hmoved := h.byte hrest (hzero ▸ by decide)
    refine ensures_bind.mpr (ensures_require.mpr ⟨fun _ => ?_, fun _ => hmoved.located _⟩)
    refine ⟨by rw [hrest]; rfl, List.forall_mem_singleton.mpr (hzero ▸ by decide), by simp⟩
  · refine ensures_bind.mpr (ensures_require.mpr ⟨fun hdigit => ?_, fun _ => h.located _⟩)
    refine ⟨?_, fun _ => List.mem_takeWhile_imp, ?_⟩
    · exact (List.prefix_iff_eq_take.mp (List.takeWhile_prefix _)).symm
    · rw [hrest, List.takeWhile_cons_of_pos hdigit]
      exact List.cons_ne_nil _ _

variable {digits : List UInt8}

theorem Digits.length_le (h : Digits c digits) : digits.length ≤ c.rest.length := by
  have hlength := congrArg List.length h.read
  rw [List.length_take] at hlength
  omega

theorem Digits.at (h : Digits c digits) (hat : At input c) : At input (c.skip digits.length) := by
  refine hat.bytes h.length_le fun byte hbyte => ?_
  rw [h.read] at hbyte
  exact isDigit_ascii (h.decimal byte hbyte)

theorem parseDigits_reads (h : At input c) :
    Ensures (fun p => Digits c p.1 ∧ p.2 = c.skip p.1.length) (Located input) (parseDigits c) := by
  refine ensures_bind.mpr (ensures_fetch.mpr ⟨fun first hfirst => ?_, fun _ => h.located _⟩)
  refine ensures_bind.mpr ((digitsOf_reads h hfirst).mono (fun digits _ hdigits => ?_) fun _ => id)
  refine ensures_bind.mpr (ensures_require.mpr ⟨fun _ => ⟨hdigits, rfl⟩, fun _ => ?_⟩)
  exact (hdigits.at h).located _

theorem parseNumber_steady (h : At input c) :
    Ensures (fun p => At input p.2 ∧ p.2.rest.length < c.rest.length) (Located input)
      (parseNumber c) := by
  have hsign : At input (c.consumeIf '-').2 := h.consumeIf (by decide)
  have hskips := (consumeIf_skips c '-').length
  unfold parseNumber
  generalize c.consumeIf '-' = sign at hsign hskips ⊢
  obtain ⟨negative, c₁⟩ := sign
  refine ensures_bind.mpr ((parseDigits_reads hsign).mono ?_ fun _ => id)
  rintro ⟨digits, c₂⟩ - ⟨hdigits, hend⟩
  dsimp only at hdigits hend
  subst hend
  have hmoved := hdigits.at hsign
  have hshorter : (c₁.skip digits.length).rest.length < c.rest.length := by
    have hsome := List.length_pos_iff.mpr hdigits.some
    have hle := hdigits.length_le
    rw [Cursor.skip, List.length_drop]
    dsimp only at hskips
    omega
  dsimp only
  split
  · exact ensures_bind.mpr (ensures_require.mpr
      ⟨fun _ => ⟨hmoved, hshorter⟩, fun _ => hmoved.located _⟩)
  · exact ensures_bind.mpr (ensures_require.mpr
      ⟨fun _ => ⟨hmoved, hshorter⟩, fun _ => hmoved.located _⟩)

theorem number_ascii (h : Digits (c.consumeIf '-').2 digits) :
    ∀ byte ∈ c.rest.take (((c.consumeIf '-').2.skip digits.length).offset - c.offset),
      byte.toNat < 0x80 := by
  have hdigits : ∀ byte ∈ digits, byte.toNat < 0x80 := fun byte hbyte =>
    isDigit_ascii (h.decimal byte hbyte)
  have hread := h.read
  unfold Cursor.consumeIf at hread ⊢
  split at hread
  · next hhead =>
    obtain ⟨tail, hrest⟩ := List.head?_eq_some_iff.mp hhead
    rw [if_pos hhead]
    have hcount : ((c.skip 1).skip digits.length).offset - c.offset = digits.length + 1 := by
      rw [skip_skip, Cursor.skip]
      dsimp only
      omega
    rw [Cursor.skip, hrest] at hread
    have htail : tail.take digits.length = digits := hread
    rw [hcount, hrest, List.take_succ_cons, htail]
    exact List.forall_mem_cons.mpr ⟨by decide, hdigits⟩
  · next hhead =>
    rw [if_neg hhead]
    have hcount : (c.skip digits.length).offset - c.offset = digits.length :=
      Nat.add_sub_cancel_left _ _
    rw [hcount, hread]
    exact hdigits

def Reports (input : List UInt8) : Stop → Prop
  | .error e => Located input e
  | .expectFailed | .offBoundary | .exhausted => False

def Sound (input : List UInt8) (c : Cursor) (x : Except Stop (α × Cursor)) : Prop :=
  Ensures (fun p => At input p.2 ∧ p.2.rest.length < c.rest.length) (Reports input) x

theorem lift_sound {Q : α → Prop} {x : Except JsonError α} (h : Ensures Q (Located input) x) :
    Ensures Q (Reports input) (lift x) :=
  ensures_mapError.mpr h

theorem Sound.bind {x : Except Stop (α × Cursor)} {f : α × Cursor → Except Stop β}
    (h : Sound input c x) (hf : ∀ a c', At input c' → c'.rest.length < c.rest.length →
      Ensures Q (Reports input) (f (a, c'))) : Ensures Q (Reports input) (x >>= f) :=
  ensures_bind.mpr (h.mono (fun p _ hp => hf p.1 p.2 hp.1 hp.2) fun _ => id)

theorem readChar_sound (h : At input c) : Sound input c (readChar c) := by
  rw [readChar, onBoundary, require_of h.startsChar, ok_bind, require_of fun _ => h.valid, ok_bind]
  refine lift_sound ((parseChar_steady h).mono ?_ fun _ => id)
  exact fun p hp hat => ⟨hat, (parseChar_skips hp).2⟩

variable {limits : JsonLimits}

theorem readChars_sound {fuel : Nat} (h : At input c) (hfuel : c.rest.length < fuel)
    (output : List Char) : Sound input c (readChars limits fuel output c) := by
  induction fuel generalizing c output with
  | zero => exact absurd hfuel (Nat.not_lt_zero _)
  | succ fuel ih =>
    rw [readChars]
    refine (readChar_sound h).bind fun character c₁ hat hshorter => ?_
    cases character with
    | none => exact ⟨hat, hshorter⟩
    | some character =>
      refine ensures_bind.mpr (lift_sound (ensures_require.mpr ⟨fun _ => ?_, fun _ => ?_⟩))
      · refine (ih hat (by omega) _).mono (fun p _ hp => ⟨hp.1, ?_⟩) fun _ => id
        exact hp.2.trans hshorter
      · exact hat.located _

theorem readString_sound (h : At input c) : Sound input c (readString limits c) := by
  refine ensures_bind.mpr (lift_sound ((expect_steady h (by decide)).mono ?_ fun _ => id))
  rintro c₁ - ⟨hat, hshorter⟩
  refine (readChars_sound hat (Nat.lt_succ_self _) []).bind fun output c₂ hlast hless => ?_
  exact ⟨hlast, hless.trans hshorter⟩

theorem readNumber_sound (h : At input c) : Sound input c (readNumber c) := by
  have hsign : At input (c.consumeIf '-').2 := h.consumeIf (by decide)
  refine ensures_bind.mpr (lift_sound ((parseDigits_reads hsign).mono ?_ fun _ => id))
  rintro ⟨digits, c₁⟩ - ⟨hdigits, hend⟩
  dsimp only at hdigits hend
  subst hend
  dsimp only
  rw [require_of (validString_ascii (number_ascii hdigits)), ok_bind]
  exact lift_sound (parseNumber_steady h)

theorem closing_at (h : At input c) (close : Char) (hascii : (ascii close).toNat < 0x80) :
    At input (c.skipWhitespace.consumeIf close).2 ∧
      (c.skipWhitespace.consumeIf close).2.rest.length ≤ c.rest.length :=
  ⟨h.skipWhitespace.consumeIf hascii,
    ((skipWhitespace_skips c).trans (consumeIf_skips _ close)).length⟩

theorem checkRoom_sound (h : At input c) (length : Nat) :
    Ensures (fun _ => True) (Reports input) (checkRoom limits length c) :=
  lift_sound (ensures_require.mpr ⟨fun _ => trivial, fun _ => h.located _⟩)

variable {c₀ : Cursor} {f : Cursor → Except Stop (α × Cursor)}

theorem closing_sound {close : Char} {a : α} (h : At input c)
    (hshorter : c.rest.length < c₀.rest.length) (hclose : (ascii close).toNat < 0x80)
    (hf : ∀ c', At input c' → c'.rest.length < c₀.rest.length → Sound input c₀ (f c')) :
    Sound input c₀ (
      let (closed, c) := c.skipWhitespace.consumeIf close
      if closed then .ok (a, c) else f c) := by
  obtain ⟨hclosed, hlength⟩ := closing_at h close hclose
  generalize c.skipWhitespace.consumeIf close = closing at hclosed hlength ⊢
  obtain ⟨closed, c₁⟩ := closing
  dsimp only at hclosed hlength ⊢
  split
  · exact ⟨hclosed, hlength.trans_lt hshorter⟩
  · exact hf c₁ hclosed (hlength.trans_lt hshorter)

theorem comma_sound (h : At input c) (hshorter : c.rest.length < c₀.rest.length)
    (hf : ∀ c', At input c' → c'.rest.length < c.rest.length → Sound input c' (f c')) :
    Sound input c₀ (do
      let c ← lift (c.expect ',')
      f c.skipWhitespace) := by
  refine ensures_bind.mpr (lift_sound ((expect_steady h (by decide)).mono ?_ fun _ => id))
  rintro c₁ - ⟨hcomma, hless⟩
  have hspace := (skipWhitespace_skips c₁).length
  refine (hf _ hcomma.skipWhitespace (by omega)).mono (fun p _ hp => ⟨hp.1, ?_⟩) fun _ => id
  have hlast := hp.2
  omega

theorem opened_sound (h : At input c) {opener close : Char} {a : α}
    (hrest : c.rest = ascii opener :: tail) (hopener : (ascii opener).toNat < 0x80)
    (hclose : (ascii close).toNat < 0x80) (hf : ∀ c', At input c' → Sound input c' (f c')) :
    Sound input c (
      let (closed, c) := (c.skip 1).skipWhitespace.consumeIf close
      if closed then .ok (a, c) else f c) := by
  refine closing_sound (h.byte hrest hopener) ?_ hclose fun c₁ hopened hless => ?_
  · rw [Cursor.skip, hrest]
    exact Nat.lt_succ_self _
  · exact (hf c₁ hopened).mono (fun p _ hp => ⟨hp.1, hp.2.trans hless⟩) fun _ => id

section Collections

variable {inner : ValueReader} (hinner : ∀ {c}, At input c → Sound input c (inner c))
include hinner

theorem readElements_sound {fuel : Nat} (h : At input c) (hfuel : c.rest.length < fuel)
    (values : List JsonValue) : Sound input c (readElements limits inner fuel values c) := by
  induction fuel generalizing c values with
  | zero => exact absurd hfuel (Nat.not_lt_zero _)
  | succ fuel ih =>
    refine ensures_bind.mpr ((checkRoom_sound h values.length).mono (fun _ _ _ => ?_) fun _ => id)
    refine (hinner h).bind fun value c₁ hvalue hshorter => ?_
    exact closing_sound hvalue hshorter (by decide) fun c₂ hclosed hless =>
      comma_sound hclosed hless fun _ hnext hlast => ih hnext (by omega) _

theorem readArray_sound (h : At input c) (hrest : c.rest = ascii '[' :: tail) :
    Sound input c (readArray limits inner c) :=
  opened_sound h hrest (by decide) (by decide) fun _ hopened =>
    (readElements_sound hinner hopened (Nat.lt_succ_self _) []).bind fun _ _ => And.intro

theorem readEntry_sound (h : At input c) (values : List (String × JsonValue)) :
    Sound input c (readEntry limits inner values c) := by
  rw [readEntry, onBoundary, require_of h.startsChar, ok_bind]
  refine (readString_sound h).bind fun key c₁ hkey hshorter => ?_
  refine ensures_bind.mpr (lift_sound
    ((expect_steady hkey.skipWhitespace (by decide)).mono ?_ fun _ => id))
  rintro c₂ - ⟨hcolon, hless⟩
  have hspace := (skipWhitespace_skips c₁).length
  have hspace' := (skipWhitespace_skips c₂).length
  refine (hinner hcolon.skipWhitespace).bind fun value c₃ hvalue hlast => ?_
  refine ensures_bind.mpr (lift_sound (ensures_require.mpr ⟨fun _ => ⟨hvalue, ?_⟩, fun _ => ?_⟩))
  · dsimp only
    omega
  · exact .inr h.boundary

theorem readEntries_sound {fuel : Nat} (h : At input c) (hfuel : c.rest.length < fuel)
    (values : List (String × JsonValue)) :
    Sound input c (readEntries limits inner fuel values c) := by
  induction fuel generalizing c values with
  | zero => exact absurd hfuel (Nat.not_lt_zero _)
  | succ fuel ih =>
    refine ensures_bind.mpr ((checkRoom_sound h values.length).mono (fun _ _ _ => ?_) fun _ => id)
    refine (readEntry_sound hinner h values).bind fun found c₁ hentry hshorter => ?_
    exact closing_sound hentry hshorter (by decide) fun c₂ hclosed hless =>
      comma_sound hclosed hless fun _ hnext hlast => ih hnext (by omega) _

theorem readObject_sound (h : At input c) (hrest : c.rest = ascii '{' :: tail) :
    Sound input c (readObject limits inner c) :=
  opened_sound h hrest (by decide) (by decide) fun _ hopened =>
    (readEntries_sound hinner hopened (Nat.lt_succ_self _) []).bind fun _ _ => And.intro

theorem readNode_sound (h : At input c) {byte : UInt8} (hbyte : c.rest.head? = some byte) :
    Sound input c (readNode limits inner byte c) := by
  obtain ⟨tail, hrest⟩ := List.head?_eq_some_iff.mp hbyte
  have hword : ∀ {expected : List Char} {value : JsonValue}, expected ≠ [] →
      (∀ character ∈ expected, (ascii character).toNat < 0x80) →
      Sound input c (do
        let c ← lift (c.consumeLiteral expected)
        return (value, c)) := fun hne hascii =>
    ensures_bind.mpr (lift_sound (consumeLiteral_steady h hne hascii))
  unfold readNode
  split
  · exact hword (List.cons_ne_nil _ _) (by decide)
  split
  · exact hword (List.cons_ne_nil _ _) (by decide)
  split
  · exact hword (List.cons_ne_nil _ _) (by decide)
  split
  · exact (readString_sound h).bind fun _ _ hat hless => ⟨hat, hless⟩
  split
  · next hopen => exact readArray_sound hinner h (hopen ▸ hrest)
  split
  · next hopen => exact readObject_sound hinner h (hopen ▸ hrest)
  split
  · exact readNumber_sound h
  · exact h.located _

end Collections

theorem countNode_at (h : At input c) :
    Ensures (fun c' => At input c' ∧ c'.rest = c.rest) (Located input) (countNode limits c) :=
  ensures_bind.mpr (ensures_require.mpr ⟨fun _ => ⟨h, rfl⟩, fun _ => .inr h.boundary⟩)

theorem readAt_sound {depth : Nat} {inner : ValueReader} (h : At input c)
    (hinner : depth ≤ limits.maxDepth → ∀ {c}, At input c → Sound input c (inner c)) :
    Sound input c (readAt limits depth inner c) := by
  rw [readAt, onBoundary, require_of h.startsChar, ok_bind]
  refine ensures_bind.mpr (lift_sound (ensures_require.mpr ⟨fun hdepth => ?_, fun _ =>
    h.located _⟩))
  refine ensures_bind.mpr (lift_sound ((countNode_at h).mono ?_ fun _ => id))
  rintro c₁ - ⟨hcounted, hsame⟩
  have hspace := (skipWhitespace_skips c₁).length
  rw [hsame] at hspace
  refine ensures_bind.mpr (lift_sound (ensures_fetch.mpr ⟨fun byte hbyte => ?_, fun _ =>
    hcounted.skipWhitespace.located _⟩))
  refine (readNode_sound (hinner hdepth) hcounted.skipWhitespace hbyte).mono
    (fun p _ hp => ⟨hp.1, hp.2.trans_le hspace⟩) fun _ => id

theorem readValue_sound {calls depth : Nat} (hcalls : limits.maxDepth < calls + depth)
    (h : At input c) : Sound input c (readValue limits calls depth c) := by
  induction calls generalizing depth c with
  | zero => exact readAt_sound h fun hdepth => absurd hdepth (by omega)
  | succ calls ih => exact readAt_sound h fun _ => ih (by omega)

theorem read_sound (input : List UInt8) (limits : JsonLimits) :
    Ensures (fun _ => True) (fun stop => ∃ e, stop = .error e ∧
      (e.kind = .invalidUtf8 ∨ Located input e)) (read (limits.maxDepth + 1) input limits) := by
  refine ensures_bind.mpr (ensures_mapError.mpr (ensures_require.mpr
    ⟨fun hvalid => ?_, fun _ => ⟨_, rfl, .inl rfl⟩⟩))
  have hstart : At input ⟨input, 0, 0⟩ :=
    ⟨[], runes input, (ofRunes_runes hvalid).symm, (ofRunes_runes hvalid).symm, rfl⟩
  have hreports : ∀ stop, Reports input stop → ∃ e, stop = .error e ∧
      (e.kind = .invalidUtf8 ∨ Located input e) := by
    rintro (e | _ | _ | _) hstop
    · exact ⟨e, rfl, .inr hstop⟩
    all_goals cases hstop
  have hsound : Sound input _ (readValue limits (limits.maxDepth + 1) 0 _) :=
    readValue_sound (Nat.lt_succ_self _) hstart.skipWhitespace
  refine ensures_bind.mpr (hsound.mono ?_ hreports)
  rintro ⟨value, c₁⟩ - ⟨hat, -⟩
  refine ensures_bind.mpr (ensures_mapError.mpr (ensures_require.mpr ⟨fun _ => trivial, fun _ => ?_⟩))
  exact ⟨_, rfl, .inr (hat.skipWhitespace.located _)⟩

structure Erases (x : Except Stop α) (y : Except JsonError α) : Prop where
  value : ∀ a, x = .ok a → y = .ok a
  error : ∀ e, x = .error (.error e) → y = .error e

theorem erases_lift (y : Except JsonError α) : Erases (lift y) y := by
  cases y with
  | error e => exact ⟨fun _ => nofun, fun _ h => by cases h; rfl⟩
  | ok a => exact ⟨fun _ h => by cases h; rfl, fun _ => nofun⟩

theorem erases_pure (a : α) : Erases (pure a) (pure a) := erases_lift (.ok a)

def Stop.reported : Stop → Bool
  | .error _ => true
  | .expectFailed | .offBoundary | .exhausted => false

variable {stop : Stop}

theorem erases_stop (h : stop.reported = false) (y : Except JsonError α) :
    Erases (.error stop) y := by
  refine ⟨fun _ => nofun, fun e he => ?_⟩
  cases he
  cases h

variable {x : Except Stop α} {y : Except JsonError α}

theorem Erases.bind {f : α → Except Stop β} {g : α → Except JsonError β} (h : Erases x y)
    (hf : ∀ a, y = .ok a → Erases (f a) (g a)) : Erases (x >>= f) (y >>= g) := by
  refine ⟨fun b hb => ?_, fun e he => ?_⟩
  · obtain ⟨a, ha, hb⟩ := bind_ok.mp hb
    exact bind_ok.mpr ⟨a, h.value a ha, (hf a (h.value a ha)).value b hb⟩
  · rcases bind_error.mp he with he | ⟨a, ha, he⟩
    · exact bind_error.mpr (.inl (h.error e he))
    · exact bind_error.mpr (.inr ⟨a, h.value a ha, (hf a (h.value a ha)).error e he⟩)

theorem erases_check {p : Prop} [Decidable p] (hstop : stop.reported = false) (h : Erases x y) :
    Erases (require p stop >>= fun _ => x) y := by
  unfold require
  split
  · exact h
  · exact erases_stop hstop y

theorem readChar_erases : Erases (readChar c) (parseChar c) :=
  erases_check rfl (erases_check rfl (erases_lift _))

theorem readChars_erases {fuel : Nat} (output : List Char) :
    Erases (readChars limits fuel output c) (parseChars limits fuel output c) := by
  induction fuel generalizing c output with
  | zero => exact erases_stop rfl _
  | succ fuel ih =>
    refine readChar_erases.bind fun p _ => ?_
    obtain ⟨character, c₁⟩ := p
    cases character with
    | none => exact erases_pure _
    | some character => exact (erases_lift _).bind fun _ _ => ih _

theorem readString_erases : Erases (readString limits c) (parseString limits c) :=
  (erases_lift _).bind fun _ _ => (readChars_erases []).bind fun _ _ => erases_pure _

theorem readNumber_erases : Erases (readNumber c) (parseNumber c) := by
  cases hdigits : parseDigits (c.consumeIf '-').2 with
  | ok p =>
    rw [readNumber, hdigits]
    exact erases_check rfl (erases_lift _)
  | error e =>
    have hnumber : parseNumber c = .error e := bind_error.mpr (.inl hdigits)
    rw [readNumber, hdigits, hnumber]
    exact erases_lift (.error e)

theorem parseEntry_length {parser : ValueParser} {values found : List (String × JsonValue)} {c' : Cursor}
    (h : parseEntry limits parser values c = .ok (found, c')) :
    found.length = values.length + 1 := by
  rw [parseEntry] at h
  obtain ⟨⟨key, c₁⟩, -, h⟩ := bind_ok.mp h
  obtain ⟨c₂, -, h⟩ := bind_ok.mp h
  obtain ⟨⟨value, c₃⟩, -, h⟩ := bind_ok.mp h
  obtain ⟨_, hnew, h⟩ := bind_ok.mp h
  cases h
  exact (insertEntry_perm (require_ok.mp hnew)).length_eq

section Collections

variable {inner : ValueReader} {parser : ValueParser} (hinner : ∀ c, Erases (inner c) (parser c))
include hinner

theorem readElements_erases {fuel room : Nat} {values : List JsonValue}
    (hroom : room = limits.maxCollectionLen - values.length) :
    Erases (readElements limits inner fuel values c) (parseElements limits parser room values c) := by
  induction fuel generalizing c values room with
  | zero => exact erases_stop rfl _
  | succ fuel ih =>
    rw [readElements, checkRoom]
    cases room with
    | zero =>
      have hfull : ¬ values.length < limits.maxCollectionLen := by omega
      rw [require, if_neg hfull]
      exact erases_lift (.error _)
    | succ room =>
      rw [require_of (by omega)]
      refine (hinner c).bind fun p _ => ?_
      dsimp only
      split
      · exact erases_pure _
      · refine (erases_lift _).bind fun c₃ _ => ih ?_
        rw [List.length_append, List.length_singleton]
        omega

theorem readArray_erases : Erases (readArray limits inner c) (parseArray limits parser c) := by
  unfold readArray parseArray
  dsimp only
  split
  · exact erases_pure _
  · exact (readElements_erases hinner rfl).bind fun _ _ => erases_pure _

theorem readEntry_erases (values : List (String × JsonValue)) :
    Erases (readEntry limits inner values c) (parseEntry limits parser values c) := by
  refine erases_check rfl (readString_erases.bind fun p _ => (erases_lift _).bind fun c₁ _ => ?_)
  exact (hinner _).bind fun q _ => (erases_lift _).bind fun _ _ => erases_pure _

theorem readEntries_erases {fuel room : Nat} {values : List (String × JsonValue)}
    (hroom : room = limits.maxCollectionLen - values.length) :
    Erases (readEntries limits inner fuel values c) (parseEntries limits parser room values c) := by
  induction fuel generalizing c values room with
  | zero => exact erases_stop rfl _
  | succ fuel ih =>
    rw [readEntries, checkRoom]
    cases room with
    | zero =>
      have hfull : ¬ values.length < limits.maxCollectionLen := by omega
      rw [require, if_neg hfull]
      exact erases_lift (.error _)
    | succ room =>
      rw [require_of (by omega)]
      refine (readEntry_erases hinner values).bind fun p hentry => ?_
      have hlength := parseEntry_length hentry
      dsimp only
      split
      · exact erases_pure _
      · exact (erases_lift _).bind fun _ _ => ih (by omega)

theorem readObject_erases : Erases (readObject limits inner c) (parseObject limits parser c) := by
  unfold readObject parseObject
  dsimp only
  split
  · exact erases_pure _
  · exact (readEntries_erases hinner rfl).bind fun _ _ => erases_pure _

theorem readNode_erases (byte : UInt8) :
    Erases (readNode limits inner byte c) (parseNode limits parser byte c) := by
  unfold readNode parseNode
  split
  · exact (erases_lift _).bind fun _ _ => erases_pure _
  split
  · exact (erases_lift _).bind fun _ _ => erases_pure _
  split
  · exact (erases_lift _).bind fun _ _ => erases_pure _
  split
  · exact readString_erases.bind fun _ _ => erases_pure _
  split
  · exact readArray_erases hinner
  split
  · exact readObject_erases hinner
  split
  · exact readNumber_erases
  · exact erases_lift (.error _)

end Collections

theorem readAt_erases {inner : ValueReader} {depth levels : Nat}
    (hlevels : levels = limits.maxDepth + 1 - depth)
    (hinner : ∀ c, Erases (inner c) (parseValue limits (levels - 1) c)) :
    Erases (readAt limits depth inner c) (parseValue limits levels c) := by
  refine erases_check rfl ?_
  cases levels with
  | zero =>
    have hdeep : ¬ depth ≤ limits.maxDepth := by omega
    rw [require, if_neg hdeep]
    exact erases_lift (.error _)
  | succ levels =>
    rw [require_of (by omega)]
    change Erases (lift (countNode limits c) >>= _) _
    refine (erases_lift _).bind fun c₁ _ => (erases_lift _).bind fun byte _ => ?_
    exact readNode_erases hinner byte

theorem readValue_erases {calls depth levels : Nat}
    (hlevels : levels = limits.maxDepth + 1 - depth) :
    Erases (readValue limits calls depth c) (parseValue limits levels c) := by
  induction calls generalizing c depth levels with
  | zero => exact readAt_erases hlevels fun _ => erases_stop rfl _
  | succ calls ih => exact readAt_erases hlevels fun _ => ih (by omega)

theorem read_erases (calls : Nat) (input : List UInt8) (limits : JsonLimits) :
    Erases (read calls input limits) (parse input limits) :=
  (erases_lift _).bind fun _ _ => (readValue_erases rfl).bind fun _ _ =>
    (erases_lift _).bind fun _ _ => erases_pure _

-- No `expect` fires, no step starts inside a character, and `maxDepth + 1` calls of `parse_value`
-- below the first one are enough.
theorem json_parser_safe (input : List UInt8) (limits : JsonLimits) :
    read (limits.maxDepth + 1) input limits = lift (parse input limits) ∧
    (∀ e, parse input limits = .error e → e.kind ≠ .invalidUtf8 → e.kind ≠ .invalidEscape →
      CharBoundary input e.offset) ∧
    (∀ v, parse input limits = .ok v → v.Sorted ∧ WithinLimits limits v) := by
  have hsound := read_sound input limits
  have herases := read_erases (limits.maxDepth + 1) input limits
  have hsame : read (limits.maxDepth + 1) input limits = lift (parse input limits) := by
    cases hread : read (limits.maxDepth + 1) input limits with
    | ok v =>
      rw [herases.value v hread]
      rfl
    | error stop =>
      obtain ⟨e, rfl, -⟩ := hsound.of_error hread
      rw [herases.error e hread]
      rfl
  refine ⟨hsame, fun e hparse hutf8 hescape => ?_, fun v hparse => parse_ok hparse⟩
  rw [hparse] at hsame
  obtain ⟨_, herror, hlocated⟩ := hsound.of_error hsame
  cases herror
  rcases hlocated with h | h | h
  · exact absurd h hutf8
  · exact absurd h hescape
  · exact h

def accentText : List UInt8 := [ascii '"', 0xc3, 0xa9, ascii '"']

theorem json_parser_safe_sample :
    read (JsonLimits.default.maxDepth + 1) accentText .default = .ok (.string "é") ∧
    (JsonValue.string "é").Sorted ∧ WithinLimits .default (.string "é") := by
  obtain ⟨hread, -, haccepted⟩ := json_parser_safe accentText .default
  have hparse : parse accentText .default = .ok (.string "é") := rfl
  rw [hparse] at hread
  exact ⟨hread, haccepted _ hparse⟩

def accentEscape : List UInt8 := [ascii '"', ascii '\\', 0xc3, 0xa9, ascii '"']

theorem escape_inside_char :
    read (JsonLimits.default.maxDepth + 1) accentEscape .default =
      .error (.error ⟨3, .invalidEscape⟩) ∧
    ¬ CharBoundary accentEscape 3 := by
  refine ⟨rfl, fun h => ?_⟩
  exact h.starts 0xa9 rfl (by decide)

end TokenJwt.Reader
