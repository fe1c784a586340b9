import TrillionniumGame.TokenJwt.JsonRoundTrip

namespace TokenJwt
open Checks Entries GoText JsonText

section
variable {limits : JsonLimits} {levels offset nodes : Nat} {tail : List UInt8}

def itemsText (first : Bool) (values : List JsonValue) : List UInt8 :=
  ofRunes (listed first (renderItems (plainItems values)))

def fieldsText (first : Bool) (values : List (String × JsonValue)) : List UInt8 :=
  ofRunes (listed first (renderMembers (plainFields values)))

def entryText (entry : String × JsonValue) : List UInt8 :=
  ofRunes (quote entry.1.toList) ++ ascii ':' :: entry.2.canonical

theorem itemsText_first (value : JsonValue) (rest : List JsonValue) :
    itemsText true (value :: rest) = value.canonical ++ itemsText false rest := by
  rw [itemsText, plainItems, renderItems, listed_cons, ofRunes_append, ofRunes_append]
  rfl

theorem itemsText_next (value : JsonValue) (rest : List JsonValue) :
    itemsText false (value :: rest) = ascii ',' :: itemsText true (value :: rest) := by
  rw [itemsText_first, itemsText, plainItems, renderItems, listed_cons, ofRunes_append,
    ofRunes_append]
  rfl

variable (entry : String × JsonValue) (rest : List (String × JsonValue))

theorem fieldsText_first :
    fieldsText true (entry :: rest) = entryText entry ++ fieldsText false rest := by
  rw [fieldsText, plainFields, renderMembers, listed_cons, ofRunes_append, ofRunes_append,
    ofRunes_append, ofRunes_cons (by decide), entryText]
  rfl

theorem fieldsText_next :
    fieldsText false (entry :: rest) = ascii ',' :: fieldsText true (entry :: rest) := by
  rw [fieldsText_first, fieldsText, plainFields, renderMembers, listed_cons, ofRunes_append,
    ofRunes_append, ofRunes_append, ofRunes_cons (by decide), entryText]
  rfl

theorem skipWhitespace_opens {bytes : List UInt8}
    (h : ∃ byte tail, bytes = byte :: tail ∧ Cursor.isWhitespace byte = false) :
    (Cursor.mk (bytes ++ tail) offset nodes).skipWhitespace = ⟨bytes ++ tail, offset, nodes⟩ := by
  obtain ⟨byte, more, rfl, hspace⟩ := h
  exact skipWhitespace_of hspace (more ++ tail)

theorem itemsText_opens (value : JsonValue) (rest : List JsonValue) : ∃ byte tail,
    itemsText true (value :: rest) = byte :: tail ∧ Cursor.isWhitespace byte = false ∧
      byte ≠ ascii ']' := by
  obtain ⟨byte, tail, hcons, hspace, hclose, -⟩ := canonical_opens value
  rw [itemsText_first, hcons]
  exact ⟨byte, _, rfl, hspace, hclose⟩

theorem fieldsText_opens : ∃ tail, fieldsText true (entry :: rest) = ascii '"' :: tail := by
  rw [fieldsText_first, entryText, quote_text]
  exact ⟨_, rfl⟩

theorem ends_comma : EndsValue (ascii ',' :: tail) := by
  intro byte hbyte
  cases hbyte
  decide

theorem ends_close {close : Char} (h : close = ']' ∨ close = '}') :
    EndsValue (ascii close :: tail) := by
  intro byte hbyte
  cases hbyte
  rcases h with rfl | rfl
  · decide
  · decide

theorem consume_close {close : Char} (h : close = ']' ∨ close = '}') :
    (Cursor.mk (ascii close :: tail) offset nodes).skipWhitespace.consumeIf close =
      (true, ⟨tail, offset + 1, nodes⟩) := by
  rw [skipWhitespace_of (by rcases h with rfl | rfl <;> decide), consumeIf_same]

theorem consume_comma {close : Char} (h : close = ']' ∨ close = '}') :
    (Cursor.mk (ascii ',' :: tail) offset nodes).skipWhitespace.consumeIf close =
      (false, ⟨ascii ',' :: tail, offset, nodes⟩) := by
  rw [skipWhitespace_of (by decide),
    consumeIf_other (by rcases h with rfl | rfl <;> decide)]

variable {room : Nat}

theorem reads_elements {value : JsonValue} {rest : List JsonValue}
    (h : ∀ v ∈ value :: rest, ReadsBack limits v ∧ v.height < levels) (hroom : rest.length < room)
    (values : List JsonValue) (offset nodes : Nat)
    (hnodes : min (nodes + itemsCount (value :: rest)) usizeMax ≤ limits.maxNodes) :
    parseElements limits (parseValue limits levels) room values
      ⟨itemsText true (value :: rest) ++ ascii ']' :: tail, offset, nodes⟩ =
        .ok (values ++ normalItems (value :: rest),
          ⟨tail, offset + (itemsText true (value :: rest)).length + 1,
            min (nodes + itemsCount (value :: rest)) usizeMax⟩) := by
  induction rest generalizing value values room offset nodes with
  | nil =>
    obtain ⟨room, rfl⟩ : ∃ n, room = n + 1 := ⟨room - 1, by omega⟩
    obtain ⟨⟨hread, hheight⟩, -⟩ := List.forall_mem_cons.mp h
    rw [itemsCount, itemsCount, Nat.add_zero] at hnodes ⊢
    have htext : itemsText true [value] = value.canonical := by
      rw [itemsText_first]
      exact List.append_nil _
    rw [parseElements, htext, hread levels _ offset nodes hheight hnodes (ends_close (.inl rfl)),
      ok_bind]
    dsimp only
    rw [consume_close (.inl rfl)]
    rfl
  | cons next rest ih =>
    rw [List.length_cons] at hroom
    obtain ⟨room, rfl⟩ : ∃ n, room = n + 1 := ⟨room - 1, by omega⟩
    obtain ⟨⟨hread, hheight⟩, hrest⟩ := List.forall_mem_cons.mp h
    have hcount : itemsCount (value :: next :: rest) =
        value.nodeCount + itemsCount (next :: rest) := rfl
    have hsum : min (min (nodes + value.nodeCount) usizeMax + itemsCount (next :: rest)) usizeMax =
        min (nodes + itemsCount (value :: next :: rest)) usizeMax := by omega
    have hnext := ih hrest (show rest.length < room by omega) (values ++ [value.normal])
      (offset + value.canonical.length + 1) (min (nodes + value.nodeCount) usizeMax)
      (by rw [hsum]; exact hnodes)
    obtain ⟨byte, more, hcons, hspace, -⟩ := itemsText_opens next rest
    rw [itemsText_first, itemsText_next, List.append_assoc, List.cons_append, parseElements,
      hread levels _ offset nodes hheight (by omega) ends_comma, ok_bind]
    dsimp only
    rw [consume_comma (.inl rfl)]
    dsimp only
    rw [if_neg (by decide), expect_same, ok_bind, skipWhitespace_opens ⟨byte, more, hcons, hspace⟩,
      hnext, hsum, List.append_assoc, List.length_append, List.length_cons]
    simp only [normalItems, List.singleton_append, Nat.add_assoc, Nat.add_comm 1]

variable {entry : String × JsonValue} {values : List (String × JsonValue)}

theorem reads_entry (hread : ReadsBack limits entry.2) (hheight : entry.2.height < levels)
    (hkey : ShortString limits entry.1) (hlast : ∀ earlier ∈ values, earlier.1 < entry.1)
    {rest : List UInt8} (hrest : EndsValue rest) (offset nodes : Nat)
    (hnodes : min (nodes + entry.2.nodeCount) usizeMax ≤ limits.maxNodes) :
    parseEntry limits (parseValue limits levels) values
      ⟨entryText entry ++ rest, offset, nodes⟩ =
        .ok (values ++ [(entry.1, entry.2.normal)],
          ⟨rest, offset + (entryText entry).length,
            min (nodes + entry.2.nodeCount) usizeMax⟩) := by
  obtain ⟨key, value⟩ := entry
  obtain ⟨byte, more, hcons, hspace, -⟩ := canonical_opens value
  rw [entryText, List.append_assoc, List.cons_append, parseEntry]
  dsimp only
  rw [reads_string hkey, ok_bind]
  dsimp only
  rw [skipWhitespace_of (by decide), expect_same, ok_bind,
    skipWhitespace_opens ⟨byte, more, hcons, hspace⟩,
    hread levels rest _ nodes hheight hnodes hrest, ok_bind]
  dsimp only
  rw [insertEntry_last hlast]
  dsimp only
  rw [require_of rfl, List.length_append, List.length_cons]
  simp only [Nat.add_assoc, Nat.add_comm 1]
  rfl

variable {rest : List (String × JsonValue)}

theorem sorted_last (h : Ascending (values ++ normalFields (entry :: rest))) :
    ∀ earlier ∈ values, earlier.1 < entry.1 := by
  intro earlier hearlier
  exact (List.pairwise_append.mp h).2.2 earlier hearlier (entry.1, entry.2.normal)
    List.mem_cons_self

theorem reads_entries
    (h : ∀ e ∈ entry :: rest, ReadsBack limits e.2 ∧ e.2.height < levels ∧ ShortString limits e.1)
    (hroom : rest.length < room) (values : List (String × JsonValue))
    (hsorted : Ascending (values ++ normalFields (entry :: rest))) (offset nodes : Nat)
    (hnodes : min (nodes + fieldsCount (entry :: rest)) usizeMax ≤ limits.maxNodes) :
    parseEntries limits (parseValue limits levels) room values
      ⟨fieldsText true (entry :: rest) ++ ascii '}' :: tail, offset, nodes⟩ =
        .ok (values ++ normalFields (entry :: rest),
          ⟨tail, offset + (fieldsText true (entry :: rest)).length + 1,
            min (nodes + fieldsCount (entry :: rest)) usizeMax⟩) := by
  induction rest generalizing entry values room offset nodes with
  | nil =>
    obtain ⟨room, rfl⟩ : ∃ n, room = n + 1 := ⟨room - 1, by omega⟩
    obtain ⟨⟨hread, hheight, hkey⟩, -⟩ := List.forall_mem_cons.mp h
    have hlast := sorted_last hsorted
    have htext : fieldsText true [entry] = entryText entry := by
      rw [fieldsText_first]
      exact List.append_nil _
    rw [fieldsCount, fieldsCount, Nat.add_zero] at hnodes ⊢
    rw [parseEntries, htext, reads_entry hread hheight hkey hlast (ends_close (.inr rfl)) offset
      nodes hnodes, ok_bind]
    dsimp only
    rw [consume_close (.inr rfl)]
    rfl
  | cons next rest ih =>
    rw [List.length_cons] at hroom
    obtain ⟨room, rfl⟩ : ∃ n, room = n + 1 := ⟨room - 1, by omega⟩
    obtain ⟨⟨hread, hheight, hkey⟩, hrest⟩ := List.forall_mem_cons.mp h
    have hlast := sorted_last hsorted
    have hcount : fieldsCount (entry :: next :: rest) =
        entry.2.nodeCount + fieldsCount (next :: rest) := rfl
    have hsum : min (min (nodes + entry.2.nodeCount) usizeMax + fieldsCount (next :: rest))
        usizeMax = min (nodes + fieldsCount (entry :: next :: rest)) usizeMax := by omega
    have hmore : Ascending (values ++ [(entry.1, entry.2.normal)] ++
        normalFields (next :: rest)) := by
      rw [List.append_assoc]
      exact hsorted
    have hnext := ih hrest (show rest.length < room by omega) _ hmore
      (offset + (entryText entry).length + 1) (min (nodes + entry.2.nodeCount) usizeMax)
      (by rw [hsum]; exact hnodes)
    obtain ⟨more, hopens⟩ := fieldsText_opens next rest
    rw [fieldsText_first, fieldsText_next, List.append_assoc, List.cons_append, parseEntries,
      reads_entry hread hheight hkey hlast ends_comma offset nodes (by omega), ok_bind]
    dsimp only
    rw [consume_comma (.inr rfl)]
    dsimp only
    rw [if_neg (by decide), expect_same, ok_bind,
      skipWhitespace_opens ⟨_, more, hopens, by decide⟩, hnext, hsum, List.append_assoc,
      List.length_append, List.length_cons]
    simp only [normalFields, List.singleton_append, Nat.add_assoc, Nat.add_comm 1]

theorem array_text (values : List JsonValue) : (JsonValue.array values).canonical =
    ascii '[' :: (itemsText true values ++ [ascii ']']) := by
  rw [JsonValue.canonical, JsonValue.plain, Value.render, ofRunes_enclosed (by decide) (by decide)]
  rfl

theorem object_text (values : List (String × JsonValue)) : (JsonValue.object values).canonical =
    ascii '{' :: (fieldsText true values ++ [ascii '}']) := by
  rw [JsonValue.canonical, JsonValue.plain, Value.render, ofRunes_enclosed (by decide) (by decide)]
  rfl

theorem enter_collection {text : List UInt8} {first : UInt8} {close : Char}
    (h : ∃ byte more, text = byte :: more ∧ Cursor.isWhitespace byte = false ∧ byte ≠ ascii close) :
    ((Cursor.mk (first :: (text ++ tail)) offset nodes).skip 1).skipWhitespace.consumeIf close =
      (false, ⟨text ++ tail, offset + 1, nodes⟩) := by
  obtain ⟨byte, more, rfl, hspace, hclose⟩ := h
  exact (congrArg (·.consumeIf close) (skipWhitespace_of hspace (more ++ tail))).trans
    (consumeIf_other hclose _)

theorem readsBack_array {values : List JsonValue} (h : ∀ v ∈ values, ReadsBack limits v)
    (hlength : values.length ≤ limits.maxCollectionLen) : ReadsBack limits (.array values) := by
  intro levels rest offset nodes hheight hnodes _
  obtain ⟨levels, rfl⟩ : ∃ n, levels = n + 1 := ⟨levels - 1, by omega⟩
  rw [JsonValue.height, itemsHeight_lt] at hheight
  rw [JsonValue.nodeCount] at hnodes ⊢
  rw [array_text, List.cons_append, List.append_assoc, parseValue_node (by decide) (by omega)]
  change parseArray limits _ _ = _
  cases values with
  | nil => rfl
  | cons value more =>
    have hsum : min (min (nodes + 1) usizeMax + itemsCount (value :: more)) usizeMax =
        min (nodes + (1 + itemsCount (value :: more))) usizeMax := by omega
    rw [parseArray, enter_collection (itemsText_opens value more)]
    dsimp only
    rw [if_neg (by decide), List.singleton_append, reads_elements
      (fun v hv => ⟨h v hv, hheight v hv⟩) hlength [] (offset + 1)
      (min (nodes + 1) usizeMax) (by omega), ok_bind, hsum]
    dsimp only
    rw [List.nil_append, List.length_cons, List.length_append, List.length_singleton]
    simp only [Nat.add_assoc, Nat.add_comm 1, JsonValue.normal]
    rfl

theorem readsBack_object (h : ∀ entry ∈ values, ReadsBack limits entry.2)
    (hsorted : Ascending values) (hkeys : ∀ entry ∈ values, ShortString limits entry.1)
    (hlength : values.length ≤ limits.maxCollectionLen) : ReadsBack limits (.object values) := by
  intro levels rest offset nodes hheight hnodes _
  obtain ⟨levels, rfl⟩ : ∃ n, levels = n + 1 := ⟨levels - 1, by omega⟩
  rw [JsonValue.height, fieldsHeight_lt] at hheight
  rw [JsonValue.nodeCount] at hnodes ⊢
  rw [object_text, List.cons_append, List.append_assoc, parseValue_node (by decide) (by omega)]
  change parseObject limits _ _ = _
  cases values with
  | nil => rfl
  | cons entry more =>
    have hsum : min (min (nodes + 1) usizeMax + fieldsCount (entry :: more)) usizeMax =
        min (nodes + (1 + fieldsCount (entry :: more))) usizeMax := by omega
    have hnormal : Ascending ([] ++ normalFields (entry :: more)) := by
      rw [List.nil_append, normalFields_eq]
      exact List.pairwise_map.mpr hsorted
    obtain ⟨text, hopens⟩ := fieldsText_opens entry more
    rw [parseObject, enter_collection ⟨_, text, hopens, by decide, by decide⟩]
    dsimp only
    rw [if_neg (by decide), List.singleton_append, reads_entries
      (fun e he => ⟨h e he, hheight e he, hkeys e he⟩) hlength [] hnormal
      (offset + 1) (min (nodes + 1) usizeMax) (by omega), ok_bind, hsum]
    dsimp only
    rw [List.nil_append, List.length_cons, List.length_append, List.length_singleton]
    simp only [Nat.add_assoc, Nat.add_comm 1, JsonValue.normal]
    rfl

theorem readsBack (v : JsonValue) (hsorted : v.Sorted) (hfits : Fits limits v) :
    ReadsBack limits v := by
  induction v using JsonValue.children with
  | null => exact readsBack_scalar (by simp)
  | bool value =>
    cases value with
    | true | false => exact readsBack_scalar (by simp)
  | integer value => exact readsBack_integer value
  | unsigned value => exact readsBack_unsigned value
  | string value =>
    cases hfits with
    | string hshort => exact readsBack_string hshort
  | array values ih =>
    cases hsorted with
    | array hvalues =>
      cases hfits with
      | array hlength hfit =>
        exact readsBack_array (fun v hv => ih v hv (hvalues v hv) (hfit v hv)) hlength
  | object values ih =>
    cases hsorted with
    | object hascending hvalues =>
      cases hfits with
      | object hlength hkeys hfit =>
        exact readsBack_object (fun e he => ih e he (hvalues e he) (hfit e he)) hascending hkeys
          hlength

theorem parse_canonical {v : JsonValue} (hsorted : v.Sorted) (h : WithinLimits limits v) :
    parse v.canonical limits = .ok v.normal := by
  obtain ⟨byte, more, hcons, hspace, -⟩ := canonical_opens v
  have hread := readsBack v hsorted h.fits (limits.maxDepth + 1) [] 0 0
    (Nat.lt_succ_of_le h.depth) (by rw [Nat.zero_add]; exact h.nodes) nofun
  have hopens : (Cursor.mk (v.canonical ++ []) 0 0).skipWhitespace = ⟨v.canonical ++ [], 0, 0⟩ :=
    skipWhitespace_opens ⟨byte, more, hcons, hspace⟩
  rw [List.append_nil] at hread hopens
  have hvalid : validString v.canonical = true := validString_ofRunes _
  rw [parse, require_of hvalid, ok_bind, hopens, hread]
  rfl

end

section
variable {limits : JsonLimits} {levels : Nat} {c c' : Cursor}

def Skips (c c' : Cursor) : Prop := ∃ count, c' = c.skip count

theorem skip_skip (c : Cursor) (a b : Nat) : (c.skip a).skip b = c.skip (a + b) := by
  simp [Cursor.skip, Nat.add_assoc]

theorem Skips.refl (c : Cursor) : Skips c c := ⟨0, rfl⟩

theorem Skips.trans {c'' : Cursor} (h : Skips c c') (h' : Skips c' c'') : Skips c c'' := by
  obtain ⟨a, rfl⟩ := h
  obtain ⟨b, rfl⟩ := h'
  exact ⟨a + b, skip_skip c a b⟩

theorem Skips.nodes (h : Skips c c') : c'.nodes = c.nodes := by
  obtain ⟨count, rfl⟩ := h
  rfl

theorem Skips.length (h : Skips c c') : c'.rest.length ≤ c.rest.length := by
  obtain ⟨count, rfl⟩ := h
  rw [Cursor.skip, List.length_drop]
  exact Nat.sub_le _ _

theorem skipWhitespace_skips (c : Cursor) : Skips c c.skipWhitespace := ⟨_, rfl⟩

theorem consumeIf_skips (c : Cursor) (expected : Char) : Skips c (c.consumeIf expected).2 := by
  unfold Cursor.consumeIf
  split
  · exact ⟨1, rfl⟩
  · exact .refl c

theorem expect_shorter {expected : Char} (h : c.expect expected = .ok c') :
    Skips c c' ∧ c'.rest.length < c.rest.length := by
  unfold Cursor.expect at h
  split at h
  · cases h
  next byte tail hrest =>
  split at h
  · cases h
    refine ⟨⟨1, rfl⟩, ?_⟩
    rw [Cursor.skip, hrest]
    exact Nat.lt_succ_self _
  · cases h

theorem expect_skips {expected : Char} (h : c.expect expected = .ok c') : Skips c c' :=
  (expect_shorter h).1

theorem closing_shorter {close : Char} {closed : Bool}
    (h : c.skipWhitespace.consumeIf close = (closed, c')) :
    Skips c c' ∧ (closed = true → c'.rest.length < c.rest.length) := by
  have hskips := consumeIf_skips c.skipWhitespace close
  rw [h] at hskips
  refine ⟨(skipWhitespace_skips c).trans hskips, fun hclosed => ?_⟩
  refine lt_of_lt_of_le ?_ (skipWhitespace_skips c).length
  unfold Cursor.consumeIf at h
  split at h
  · next hhead =>
    obtain ⟨tail, hrest⟩ := List.head?_eq_some_iff.mp hhead
    cases h
    rw [Cursor.skip, hrest]
    exact Nat.lt_succ_self _
  · cases h
    cases hclosed

theorem consumeLiteral_skips {expected : List Char} (h : c.consumeLiteral expected = .ok c') :
    Skips c c' := by
  unfold Cursor.consumeLiteral at h
  split at h
  · cases h
    exact ⟨_, rfl⟩
  · cases h

theorem parseHexU16_skips {n : Nat} (h : parseHexU16 c = .ok (n, c')) : Skips c c' := by
  simp only [parseHexU16, bind_ok] at h
  obtain ⟨-, -, digits, -, h⟩ := h
  cases h
  exact ⟨4, rfl⟩

theorem parseScalar_skips {first n : Nat} (h : parseScalar first c = .ok (n, c')) : Skips c c' := by
  unfold parseScalar at h
  split at h
  · simp only [bind_ok] at h
    obtain ⟨-, -, ⟨second, c₂⟩, hsecond, -, -, h⟩ := h
    obtain ⟨-, rfl⟩ := ok_inj h
    exact Skips.trans ⟨2, rfl⟩ (parseHexU16_skips hsecond)
  · simp only [bind_ok] at h
    obtain ⟨-, -, h⟩ := h
    cases h
    exact .refl c

theorem parseUnicodeEscape_skips {character : Char}
    (h : parseUnicodeEscape c = .ok (character, c')) : Skips c c' := by
  simp only [parseUnicodeEscape, bind_ok] at h
  obtain ⟨⟨first, c₁⟩, hfirst, ⟨scalar, c₂⟩, hscalar, character', -, h⟩ := h
  cases h
  exact (parseHexU16_skips hfirst).trans (parseScalar_skips hscalar)

theorem parseChar_skips {character : Option Char} (h : parseChar c = .ok (character, c')) :
    Skips c c' ∧ c'.rest.length < c.rest.length := by
  have hstep : ∀ count, 0 < count → c.rest ≠ [] → Skips (c.skip count) c' →
      Skips c c' ∧ c'.rest.length < c.rest.length := by
    intro count hcount hne hskips
    refine ⟨Skips.trans ⟨count, rfl⟩ hskips, hskips.length.trans_lt ?_⟩
    have hpos := List.length_pos_iff.mpr hne
    rw [Cursor.skip, List.length_drop]
    omega
  unfold parseChar at h
  split at h
  · cases h
  next byte tail hrest =>
  have hne : c.rest ≠ [] := hrest ▸ List.cons_ne_nil byte tail
  split at h
  · cases h
    exact hstep 1 (by omega) hne (.refl _)
  split at h
  · split at h
    · cases h
    · split at h
      · simp only [bind_ok] at h
        obtain ⟨⟨found, c₁⟩, hescape, h⟩ := h
        cases h
        exact hstep 2 (by omega) hne (parseUnicodeEscape_skips hescape)
      · simp only [bind_ok] at h
        obtain ⟨found, -, h⟩ := h
        cases h
        exact hstep 2 (by omega) hne (.refl _)
  split at h
  · cases h
  · simp only [bind_ok] at h
    obtain ⟨found, -, h⟩ := h
    cases h
    exact hstep found.utf8Size found.utf8Size_pos hne (.refl _)

theorem parseChars_ok {fuel : Nat} {output found : List Char}
    (h : parseChars limits fuel output c = .ok (found, c'))
    (hbytes : (ofRunes output).length ≤ limits.maxStringBytes) :
    (ofRunes found).length ≤ limits.maxStringBytes ∧ Skips c c' := by
  induction fuel generalizing output c with
  | zero => cases h
  | succ fuel ih =>
    simp only [parseChars, bind_ok] at h
    obtain ⟨⟨character, c₁⟩, hchar, h⟩ := h
    have hskips := (parseChar_skips hchar).1
    cases character with
    | none =>
      cases h
      exact ⟨hbytes, hskips⟩
    | some character =>
      simp only [bind_ok, require_ok] at h
      obtain ⟨-, hroom, h⟩ := h
      obtain ⟨hfound, hrest⟩ := ih h hroom
      exact ⟨hfound, hskips.trans hrest⟩

theorem parseString_ok {value : String} (h : parseString limits c = .ok (value, c')) :
    ShortString limits value ∧ Skips c c' := by
  simp only [parseString, bind_ok] at h
  obtain ⟨c₁, hquote, ⟨output, c₂⟩, hchars, h⟩ := h
  cases h
  obtain ⟨hbytes, hskips⟩ := parseChars_ok hchars (Nat.zero_le _)
  refine ⟨?_, (expect_skips hquote).trans hskips⟩
  rwa [ShortString, String.toList_ofList]

theorem parseString_shorter {value : String} (h : parseString limits c = .ok (value, c')) :
    c'.rest.length + 2 ≤ c.rest.length := by
  simp only [parseString, parseChars, bind_ok] at h
  obtain ⟨c₁, hquote, ⟨output, c₂⟩, ⟨⟨character, c₃⟩, hchar, hchars⟩, h⟩ := h
  cases h
  have hopen := (expect_shorter hquote).2
  have hless := (parseChar_skips hchar).2
  dsimp only
  cases character with
  | none =>
    cases hchars
    omega
  | some character =>
    simp only [bind_ok, require_ok] at hchars
    obtain ⟨-, hroom, hchars⟩ := hchars
    have hlast := (parseChars_ok hchars hroom).2.length
    omega

theorem parseDigits_skips {digits : List UInt8} (h : parseDigits c = .ok (digits, c')) :
    Skips c c' := by
  simp only [parseDigits, bind_ok] at h
  obtain ⟨first, -, found, -, -, -, h⟩ := h
  cases h
  exact ⟨digits.length, rfl⟩

theorem parseNumber_ok {v : JsonValue} (h : parseNumber c = .ok (v, c')) :
    ((∃ n, v = .integer n) ∨ ∃ n, v = .unsigned n) ∧ Skips c c' := by
  have hsign := consumeIf_skips c '-'
  unfold parseNumber at h
  generalize c.consumeIf '-' = sign at h hsign
  obtain ⟨negative, c₁⟩ := sign
  obtain ⟨⟨digits, c₂⟩, hdigits, h⟩ := bind_ok.mp h
  have hskips := hsign.trans (parseDigits_skips hdigits)
  dsimp only at h
  split at h
  · simp only [bind_ok] at h
    obtain ⟨-, -, h⟩ := h
    cases h
    exact ⟨.inl ⟨_, rfl⟩, hskips⟩
  · simp only [bind_ok] at h
    obtain ⟨-, -, h⟩ := h
    cases h
    exact ⟨.inr ⟨_, rfl⟩, hskips⟩

structure Accepts (limits : JsonLimits) (levels : Nat) (c : Cursor) (v : JsonValue) (c' : Cursor) :
    Prop where
  sorted : v.Sorted
  fits : Fits limits v
  height : v.height < levels
  nodes : c'.nodes = min (c.nodes + v.nodeCount) usizeMax
  room : c'.nodes ≤ limits.maxNodes

theorem itemsCount_eq (values : List JsonValue) :
    itemsCount values = (values.map JsonValue.nodeCount).sum := by
  induction values with
  | nil => rfl
  | cons value rest ih => rw [itemsCount, ih, List.map_cons, List.sum_cons]

theorem fieldsCount_eq (values : List (String × JsonValue)) :
    fieldsCount values = (values.map fun entry => entry.2.nodeCount).sum := by
  induction values with
  | nil => rfl
  | cons entry rest ih => rw [fieldsCount, ih, List.map_cons, List.sum_cons]

-- An object that is not empty takes at least its braces, two quotes and a colon.
structure Shorter (c : Cursor) (v : JsonValue) (c' : Cursor) : Prop where
  length : c'.rest.length ≤ c.rest.length
  object : ∀ entry rest, v = .object (entry :: rest) → c'.rest.length + 5 ≤ c.rest.length

structure GoodEntry (limits : JsonLimits) (levels : Nat) (entry : String × JsonValue) : Prop where
  key : ShortString limits entry.1
  sorted : entry.2.Sorted
  fits : Fits limits entry.2
  height : entry.2.height < levels

section Collections

variable {inner : ValueParser}
  (hinner : ∀ {c v c'}, inner c = .ok (v, c') → Accepts limits levels c v c' ∧ Shorter c v c')
  {room : Nat}
include hinner

theorem parseElements_ok {values found : List JsonValue}
    (h : parseElements limits inner room values c = .ok (found, c'))
    (hgood : ∀ v ∈ values, v.Sorted ∧ Fits limits v ∧ v.height < levels) :
    (∀ v ∈ found, v.Sorted ∧ Fits limits v ∧ v.height < levels) ∧
      found.length ≤ values.length + room ∧ c'.rest.length ≤ c.rest.length ∧
        c'.nodes ≤ limits.maxNodes ∧ ∃ count, itemsCount found = itemsCount values + count ∧
          c'.nodes = min (c.nodes + count) usizeMax := by
  induction room generalizing values c with
  | zero => cases h
  | succ room ih =>
    rw [parseElements] at h
    obtain ⟨⟨value, c₁⟩, hvalue, h⟩ := bind_ok.mp h
    obtain ⟨hone, hshorter⟩ := hinner hvalue
    have hread := hshorter.length
    have hclose := (skipWhitespace_skips c₁).trans (consumeIf_skips _ ']')
    have hgood' : ∀ v ∈ values ++ [value], v.Sorted ∧ Fits limits v ∧ v.height < levels := by
      intro v hv
      rcases List.mem_append.mp hv with hv | hv
      · exact hgood v hv
      · exact List.mem_singleton.mp hv ▸ ⟨hone.sorted, hone.fits, hone.height⟩
    have hcount : itemsCount (values ++ [value]) = itemsCount values + value.nodeCount := by
      simp [itemsCount_eq]
    have hlength : (values ++ [value]).length = values.length + 1 := List.length_append
    dsimp only at h
    generalize c₁.skipWhitespace.consumeIf ']' = closing at h hclose
    obtain ⟨closed, c₂⟩ := closing
    dsimp only at h hclose
    split at h
    · cases h
      exact ⟨hgood', by omega, hclose.length.trans hread, hclose.nodes ▸ hone.room,
        value.nodeCount, hcount, hclose.nodes.trans hone.nodes⟩
    · obtain ⟨c₃, hcomma, h⟩ := bind_ok.mp h
      have hmoved := (hclose.trans (expect_skips hcomma)).trans (skipWhitespace_skips c₃)
      obtain ⟨hall, hroom, hless, hnodes, count, hsum, hlast⟩ := ih h hgood'
      refine ⟨hall, by omega, (hless.trans hmoved.length).trans hread, hnodes,
        value.nodeCount + count, by omega, ?_⟩
      rw [hlast, hmoved.nodes, hone.nodes]
      omega

variable {v : JsonValue}

theorem parseArray_ok (h : parseArray limits inner c = .ok (v, c'))
    (hroom : c.nodes ≤ limits.maxNodes) (hsize : c.nodes ≤ usizeMax) :
    Shorter c v c' ∧ v.Sorted ∧ Fits limits v ∧ v.height < levels + 1 ∧
      c'.nodes = min (c.nodes + (v.nodeCount - 1)) usizeMax ∧ c'.nodes ≤ limits.maxNodes := by
  have hopen : Skips c ((c.skip 1).skipWhitespace.consumeIf ']').2 :=
    Skips.trans ⟨1, rfl⟩ ((skipWhitespace_skips _).trans (consumeIf_skips _ _))
  rw [parseArray] at h
  generalize (c.skip 1).skipWhitespace.consumeIf ']' = opening at h hopen
  obtain ⟨closed, c₁⟩ := opening
  have hkept := hopen.nodes
  dsimp only at h hkept
  split at h
  · cases h
    refine ⟨⟨hopen.length, nofun⟩, .array nofun, .array (Nat.zero_le _) nofun, Nat.succ_pos _, ?_,
      hkept ▸ hroom⟩
    rw [hkept]
    exact (Nat.min_eq_left hsize).symm
  · obtain ⟨⟨values, c₂⟩, hvalues, h⟩ := bind_ok.mp h
    cases h
    obtain ⟨hall, hlength, hless, hnodes, count, hsum, hlast⟩ :=
      parseElements_ok hinner hvalues nofun
    refine ⟨⟨hless.trans hopen.length, nofun⟩, .array fun v hv => (hall v hv).1,
      .array (by simpa using hlength) fun v hv => (hall v hv).2.1, ?_, ?_, hnodes⟩
    · exact itemsHeight_lt.mpr fun v hv => (hall v hv).2.2
    · rw [hlast, hkept, JsonValue.nodeCount, hsum, itemsCount, Nat.zero_add,
        Nat.add_sub_cancel_left]

variable {values found : List (String × JsonValue)}

theorem parseEntry_ok (h : parseEntry limits inner values c = .ok (found, c'))
    (hsorted : Ascending values) (hgood : ∀ entry ∈ values, GoodEntry limits levels entry) :
    Ascending found ∧ (∀ entry ∈ found, GoodEntry limits levels entry) ∧
      found.length = values.length + 1 ∧ c'.rest.length + 3 ≤ c.rest.length ∧
        c'.nodes ≤ limits.maxNodes ∧ ∃ count, fieldsCount found = fieldsCount values + count ∧
          c'.nodes = min (c.nodes + count) usizeMax := by
  rw [parseEntry] at h
  obtain ⟨⟨key, c₁⟩, hkey, h⟩ := bind_ok.mp h
  obtain ⟨c₂, hcolon, h⟩ := bind_ok.mp h
  obtain ⟨⟨value, c₃⟩, hvalue, h⟩ := bind_ok.mp h
  obtain ⟨_, hnew, h⟩ := bind_ok.mp h
  cases h
  obtain ⟨hshort, hskips⟩ := parseString_ok hkey
  obtain ⟨hcolons, hless⟩ := expect_shorter hcolon
  have hmoved := (((hskips.trans (skipWhitespace_skips c₁)).trans hcolons).trans
    (skipWhitespace_skips c₂)).nodes
  obtain ⟨hone, hshorter⟩ := hinner hvalue
  have hperm := insertEntry_perm (require_ok.mp hnew)
  refine ⟨hsorted.insertEntry key value, fun entry hentry => ?_, hperm.length_eq, ?_, hone.room,
    value.nodeCount, ?_, ?_⟩
  · rcases mem_insertEntry hentry with rfl | hold
    · exact ⟨hshort, hone.sorted, hone.fits, hone.height⟩
    · exact hgood entry hold
  · have hstring := parseString_shorter hkey
    have hspace := (skipWhitespace_skips c₁).length
    have hspace' := (skipWhitespace_skips c₂).length
    have hlast := hshorter.length
    omega
  · rw [fieldsCount_eq, (hperm.map _).sum_nat, List.map_cons, List.sum_cons, fieldsCount_eq,
      Nat.add_comm]
  · rw [hone.nodes, hmoved]

theorem parseEntries_ok (h : parseEntries limits inner room values c = .ok (found, c'))
    (hsorted : Ascending values) (hgood : ∀ entry ∈ values, GoodEntry limits levels entry) :
    Ascending found ∧ (∀ entry ∈ found, GoodEntry limits levels entry) ∧
      found.length ≤ values.length + room ∧ c'.rest.length + 4 ≤ c.rest.length ∧
        c'.nodes ≤ limits.maxNodes ∧ ∃ count, fieldsCount found = fieldsCount values + count ∧
          c'.nodes = min (c.nodes + count) usizeMax := by
  induction room generalizing values c with
  | zero => cases h
  | succ room ih =>
    rw [parseEntries] at h
    obtain ⟨⟨values', c₁⟩, hentry, h⟩ := bind_ok.mp h
    obtain ⟨hsorted', hgood', hlength, hread, hroom, count, hcount, hnodes⟩ :=
      parseEntry_ok hinner hentry hsorted hgood
    dsimp only at h
    cases hclosing : c₁.skipWhitespace.consumeIf '}' with
    | mk closed c₂ =>
      obtain ⟨hclose, hless⟩ := closing_shorter hclosing
      rw [hclosing] at h
      dsimp only at h
      split at h
      · next hclosed =>
        cases h
        have hlast := hless hclosed
        exact ⟨hsorted', hgood', by omega, by omega, hclose.nodes ▸ hroom, count, hcount,
          hclose.nodes.trans hnodes⟩
      · obtain ⟨c₃, hcomma, h⟩ := bind_ok.mp h
        have hmoved := (hclose.trans (expect_skips hcomma)).trans (skipWhitespace_skips c₃)
        obtain ⟨hall, hgood'', hlength', hread', hroom', more, hsum, hlast⟩ := ih h hsorted' hgood'
        have hkept := hmoved.length
        refine ⟨hall, hgood'', by omega, by omega, hroom', count + more, by omega, ?_⟩
        rw [hlast, hmoved.nodes, hnodes]
        omega

theorem parseObject_ok (h : parseObject limits inner c = .ok (v, c')) (hopen : c.rest ≠ [])
    (hroom : c.nodes ≤ limits.maxNodes) (hsize : c.nodes ≤ usizeMax) :
    Shorter c v c' ∧ v.Sorted ∧ Fits limits v ∧ v.height < levels + 1 ∧
      c'.nodes = min (c.nodes + (v.nodeCount - 1)) usizeMax ∧ c'.nodes ≤ limits.maxNodes := by
  have hskips : Skips c ((c.skip 1).skipWhitespace.consumeIf '}').2 :=
    Skips.trans ⟨1, rfl⟩ ((skipWhitespace_skips _).trans (consumeIf_skips _ _))
  rw [parseObject] at h
  have hinside := ((skipWhitespace_skips (c.skip 1)).trans (consumeIf_skips _ '}')).length
  generalize (c.skip 1).skipWhitespace.consumeIf '}' = opening at h hskips hinside
  obtain ⟨closed, c₁⟩ := opening
  have hkept := hskips.nodes
  dsimp only at h hkept
  split at h
  · cases h
    refine ⟨⟨hskips.length, nofun⟩, .object .nil nofun, .object (Nat.zero_le _) nofun nofun,
      Nat.succ_pos _, ?_, hkept ▸ hroom⟩
    rw [hkept]
    exact (Nat.min_eq_left hsize).symm
  · obtain ⟨⟨values, c₂⟩, hvalues, h⟩ := bind_ok.mp h
    cases h
    obtain ⟨hsorted, hall, hlength, hread, hnodes, count, hsum, hlast⟩ :=
      parseEntries_ok hinner hvalues .nil nofun
    have hpos := List.length_pos_iff.mpr hopen
    have hfive : c₂.rest.length + 5 ≤ c.rest.length := by
      rw [Cursor.skip, List.length_drop] at hinside
      dsimp only at hinside
      omega
    refine ⟨⟨(Nat.le_add_right _ 5).trans hfive, fun _ _ _ => hfive⟩,
      .object hsorted fun e he => (hall e he).sorted, .object (by simpa using hlength)
        (fun e he => (hall e he).key) fun e he => (hall e he).fits, ?_, ?_, hnodes⟩
    · exact fieldsHeight_lt.mpr fun e he => (hall e he).height
    · rw [hlast, hkept, JsonValue.nodeCount, hsum, fieldsCount, Nat.zero_add,
        Nat.add_sub_cancel_left]

end Collections

variable {v : JsonValue}

theorem parseNode_ok {inner : ValueParser}
    (hinner : ∀ {c v c'}, inner c = .ok (v, c') → Accepts limits levels c v c' ∧ Shorter c v c')
    {byte : UInt8} (h : parseNode limits inner byte c = .ok (v, c')) (hopen : c.rest ≠ [])
    (hroom : c.nodes ≤ limits.maxNodes) (hsize : c.nodes ≤ usizeMax) :
    Shorter c v c' ∧ v.Sorted ∧ Fits limits v ∧ v.height < levels + 1 ∧
      c'.nodes = min (c.nodes + (v.nodeCount - 1)) usizeMax ∧ c'.nodes ≤ limits.maxNodes := by
  have hleaf : ∀ {v}, Skips c c' → v.nodeCount = 1 → v.height = 0 → v.Sorted → Fits limits v →
      Shorter c v c' ∧ v.Sorted ∧ Fits limits v ∧ v.height < levels + 1 ∧
        c'.nodes = min (c.nodes + (v.nodeCount - 1)) usizeMax ∧ c'.nodes ≤ limits.maxNodes := by
    intro v hskips hcount hheight hsorted hfits
    have hobject : ∀ entry rest, v ≠ .object (entry :: rest) := by
      rintro entry rest rfl
      rw [JsonValue.height, fieldsHeight] at hheight
      omega
    rw [hcount, hheight, hskips.nodes]
    exact ⟨⟨hskips.length, fun entry rest heq => absurd heq (hobject entry rest)⟩, hsorted, hfits,
      Nat.succ_pos _, (Nat.min_eq_left hsize).symm, hroom⟩
  unfold parseNode at h
  split at h
  · obtain ⟨c₁, hword, h⟩ := bind_ok.mp h
    cases h
    exact hleaf (consumeLiteral_skips hword) rfl rfl .null .null
  split at h
  · obtain ⟨c₁, hword, h⟩ := bind_ok.mp h
    cases h
    exact hleaf (consumeLiteral_skips hword) rfl rfl (.bool _) (.bool _)
  split at h
  · obtain ⟨c₁, hword, h⟩ := bind_ok.mp h
    cases h
    exact hleaf (consumeLiteral_skips hword) rfl rfl (.bool _) (.bool _)
  split at h
  · obtain ⟨⟨value, c₁⟩, hstring, h⟩ := bind_ok.mp h
    cases h
    obtain ⟨hshort, hskips⟩ := parseString_ok hstring
    exact hleaf hskips rfl rfl (.string _) (.string hshort)
  split at h
  · exact parseArray_ok hinner h hroom hsize
  split at h
  · exact parseObject_ok hinner h hopen hroom hsize
  split at h
  · obtain ⟨hkind, hskips⟩ := parseNumber_ok h
    rcases hkind with ⟨n, rfl⟩ | ⟨n, rfl⟩
    · exact hleaf hskips rfl rfl (.integer n) (.integer n)
    · exact hleaf hskips rfl rfl (.unsigned n) (.unsigned n)
  · cases h

theorem nodeCount_pos (v : JsonValue) : 0 < v.nodeCount := by
  cases v with
  | array values | object values => exact Nat.add_pos_left Nat.one_pos _
  | _ => exact Nat.one_pos

theorem parseValue_ok (h : parseValue limits levels c = .ok (v, c')) :
    Accepts limits levels c v c' ∧ Shorter c v c' := by
  induction levels generalizing c v c' with
  | zero => cases h
  | succ levels ih =>
    simp only [parseValue, countNode, bind_ok, require_ok, fetch_ok] at h
    obtain ⟨c₁, ⟨-, hroom, hc₁⟩, byte, hbyte, h⟩ := h
    cases hc₁
    obtain ⟨hshorter, hsorted, hfits, hheight, hnodes, hlast⟩ :=
      parseNode_ok ih h (List.ne_nil_of_mem (List.mem_of_head? hbyte)) hroom
        (Nat.min_le_right _ _)
    have hstart := (skipWhitespace_skips { c with nodes := min (c.nodes + 1) usizeMax }).length
    have hpos := nodeCount_pos v
    have hcounted : (Cursor.skipWhitespace { c with
      nodes := min (c.nodes + 1) usizeMax }).nodes = min (c.nodes + 1) usizeMax := rfl
    exact ⟨⟨hsorted, hfits, hheight, by omega, hlast⟩, hshorter.length.trans hstart,
      fun entry rest heq => (hshorter.object entry rest heq).trans hstart⟩

theorem parse_ok {input : List UInt8} (h : parse input limits = .ok v) :
    v.Sorted ∧ WithinLimits limits v := by
  simp only [parse, bind_ok] at h
  obtain ⟨-, -, ⟨value, c₁⟩, hvalue, -, -, h⟩ := h
  cases h
  have haccepts := (parseValue_ok hvalue).1
  have hstart := (skipWhitespace_skips ⟨input, 0, 0⟩).nodes
  refine ⟨haccepts.sorted, Nat.le_of_lt_succ haccepts.height, ?_, haccepts.fits⟩
  have hroom := haccepts.room
  rwa [haccepts.nodes, hstart, Nat.zero_add] at hroom

theorem parse_object_length {input : List UInt8} {entry : String × JsonValue}
    {rest : List (String × JsonValue)} (h : parse input limits = .ok (.object (entry :: rest))) :
    5 ≤ input.length := by
  simp only [parse, bind_ok] at h
  obtain ⟨-, -, ⟨value, c₁⟩, hvalue, -, -, h⟩ := h
  cases h
  have hobject := (parseValue_ok hvalue).2.object entry rest rfl
  have hstart := (skipWhitespace_skips ⟨input, 0, 0⟩).length
  dsimp only at hstart
  omega

end

section
theorem exists_bound {α : Type} {P : Nat → α → Prop} {xs : List α}
    (h : ∀ x ∈ xs, ∃ bound, ∀ n ≥ bound, P n x) : ∃ bound, ∀ n ≥ bound, ∀ x ∈ xs, P n x := by
  induction xs with
  | nil => exact ⟨0, fun _ _ => nofun⟩
  | cons x rest ih =>
    obtain ⟨⟨a, ha⟩, hrest⟩ := List.forall_mem_cons.mp h
    obtain ⟨b, hb⟩ := ih hrest
    refine ⟨max a b, fun n hn => List.forall_mem_cons.mpr ⟨ha n ?_, hb n ?_⟩⟩
    · exact (Nat.le_max_left a b).trans hn
    · exact (Nat.le_max_right a b).trans hn

def ample (n : Nat) : JsonLimits := ⟨n, n, n, n⟩

theorem fits_ample (v : JsonValue) : ∃ bound, ∀ n ≥ bound, Fits (ample n) v := by
  induction v using JsonValue.children with
  | null => exact ⟨0, fun _ _ => .null⟩
  | bool value => exact ⟨0, fun _ _ => .bool value⟩
  | integer value => exact ⟨0, fun _ _ => .integer value⟩
  | unsigned value => exact ⟨0, fun _ _ => .unsigned value⟩
  | string value => exact ⟨_, fun _ hn => .string hn⟩
  | array values ih =>
    obtain ⟨bound, hbound⟩ := exists_bound ih
    refine ⟨max values.length bound, fun n hn => .array ?_ (hbound n ?_)⟩
    · exact (Nat.le_max_left _ _).trans hn
    · exact (Nat.le_max_right _ _).trans hn
  | object values ih =>
    obtain ⟨bound, hbound⟩ := exists_bound ih
    have hkeys : ∃ bound, ∀ n ≥ bound, ∀ entry ∈ values, ShortString (ample n) entry.1 :=
      exists_bound fun entry _ => ⟨_, fun _ => id⟩
    obtain ⟨keys, hkeys⟩ := hkeys
    refine ⟨max values.length (max bound keys), fun n hn =>
      .object ?_ (hkeys n ?_) (hbound n ?_)⟩
    · exact (Nat.le_max_left _ _).trans hn
    · exact ((Nat.le_max_right _ _).trans (Nat.le_max_right _ _)).trans hn
    · exact ((Nat.le_max_left _ _).trans (Nat.le_max_right _ _)).trans hn

theorem within_ample (v : JsonValue) : ∃ bound, ∀ n ≥ bound, WithinLimits (ample n) v := by
  obtain ⟨bound, hbound⟩ := fits_ample v
  refine ⟨max bound (max v.height v.nodeCount), fun n hn => ⟨?_, ?_, hbound n ?_⟩⟩
  · exact ((Nat.le_max_left _ _).trans (Nat.le_max_right _ _)).trans hn
  · exact (Nat.min_le_left _ _).trans
      (((Nat.le_max_right _ _).trans (Nat.le_max_right _ _)).trans hn)
  · exact (Nat.le_max_left _ _).trans hn

theorem normal_sorted {v : JsonValue} (h : v.Sorted) : v.normal.Sorted := by
  obtain ⟨bound, hbound⟩ := within_ample v
  exact (parse_ok (parse_canonical h (hbound bound le_rfl))).1

theorem canonical_inj {v v' : JsonValue} (h : v.Sorted) (h' : v'.Sorted) :
    v.canonical = v'.canonical ↔ v.normal = v'.normal := by
  constructor
  · intro heq
    obtain ⟨a, ha⟩ := within_ample v
    obtain ⟨b, hb⟩ := within_ample v'
    have hread := parse_canonical h (ha (max a b) (Nat.le_max_left a b))
    rw [heq, parse_canonical h' (hb (max a b) (Nat.le_max_right a b))] at hread
    exact (Except.ok.inj hread).symm
  · intro heq
    rw [← canonical_normal v, heq, canonical_normal]

theorem toCanonicalBytes_ok {v : JsonValue} {maxOutputBytes : Nat} {bytes : List UInt8}
    (h : toCanonicalBytes v maxOutputBytes = .ok bytes) : bytes = v.canonical := by
  rw [toCanonicalBytes_eq] at h
  split at h
  · exact (Except.ok.inj h).symm
  · cases h

def Encodes (v : JsonValue) (bytes : List UInt8) : Prop :=
  ∀ maxOutputBytes, toCanonicalBytes v maxOutputBytes =
    if bytes.length ≤ maxOutputBytes then .ok bytes
    else .error (.outputLengthExceeded maxOutputBytes)

theorem json_round_trip :
    (∀ v : JsonValue, v.Sorted → ∃ bytes, Encodes v bytes ∧ v.normal.Sorted ∧
      ∀ limits, WithinLimits limits v → parse bytes limits = .ok v.normal) ∧
    (∀ limits input v, parse input limits = .ok v → ∃ bytes, Encodes v bytes ∧
      ∃ v', parse bytes limits = .ok v' ∧ Encodes v' bytes) ∧
    (∀ v v' : JsonValue, v.Sorted → v'.Sorted → ∀ maxOutputBytes maxOutputBytes' bytes bytes',
      toCanonicalBytes v maxOutputBytes = .ok bytes →
        toCanonicalBytes v' maxOutputBytes' = .ok bytes' →
          (bytes = bytes' ↔ v.normal = v'.normal)) := by
  refine ⟨fun v hsorted => ?_, fun limits input v hinput => ?_, ?_⟩
  · exact ⟨v.canonical, toCanonicalBytes_eq v, normal_sorted hsorted,
      fun limits hlimits => parse_canonical hsorted hlimits⟩
  · obtain ⟨hsorted, hlimits⟩ := parse_ok hinput
    refine ⟨v.canonical, toCanonicalBytes_eq v, v.normal, parse_canonical hsorted hlimits, ?_⟩
    rw [← canonical_normal]
    exact toCanonicalBytes_eq v.normal
  · intro v v' hsorted hsorted' _ _ bytes bytes' hbytes hbytes'
    rw [toCanonicalBytes_ok hbytes, toCanonicalBytes_ok hbytes']
    exact canonical_inj hsorted hsorted'

theorem json_round_trip_sample :
    (∃ bytes, Encodes (.object [("a", .integer 5), ("b", .array [.string "\n"])]) bytes ∧
      parse bytes .default = .ok (.object [("a", .unsigned 5), ("b", .array [.string "\n"])])) ∧
    (∃ bytes, Encodes (.integer 0) bytes ∧
      ∃ v, parse bytes .default = .ok v ∧ Encodes v bytes) ∧
    ([ascii '5'] = [ascii '5'] ↔ (JsonValue.integer 5).normal = (JsonValue.unsigned 5).normal) := by
  obtain ⟨hread, haccepted, hequal⟩ := json_round_trip
  have hsorted : (JsonValue.object [("a", .integer 5), ("b", .array [.string "\n"])]).Sorted := by
    refine .object (List.pairwise_pair.mpr (by decide)) ?_
    simp [JsonValue.Sorted.integer, JsonValue.Sorted.array, JsonValue.Sorted.string]
  have hfits : Fits .default (.object [("a", .integer 5), ("b", .array [.string "\n"])]) := by
    refine .object (by decide) ?_ ?_
    · simp only [List.forall_mem_cons]
      exact ⟨by decide, by decide, nofun⟩
    · simp only [List.forall_mem_cons]
      exact ⟨.integer 5, .array (by decide) (List.forall_mem_singleton.mpr (.string (by decide))),
        nofun⟩
  refine ⟨?_, ?_, ?_⟩
  · obtain ⟨bytes, hbytes, -, hparse⟩ := hread _ hsorted
    exact ⟨bytes, hbytes, hparse .default ⟨by decide, by decide, hfits⟩⟩
  · exact haccepted .default [ascii '-', ascii '0'] (.integer 0) rfl
  · exact hequal _ _ (.integer 5) (.unsigned 5) 1 1 _ _ rfl rfl

end

end TokenJwt
