import TrillionniumGame.Foundation.GoJson

namespace GoText

variable {s : GoString} {cs : List Char}

theorem ofRunes_ascii (h : ∀ byte ∈ s, byte.toNat < 0x80) :
    ofRunes (s.map fun byte => Char.ofNat byte.toNat) = s := by
  induction s with
  | nil => rfl
  | cons byte rest ih =>
    obtain ⟨hbyte, hrest⟩ := List.forall_mem_cons.mp h
    rw [List.map_cons, ofRunes, List.flatMap_cons, encode_ascii hbyte]
    exact congrArg (byte :: ·) (ih hrest)

theorem validString_ascii (h : ∀ byte ∈ s, byte.toNat < 0x80) : validString s = true := by
  rw [← ofRunes_ascii h]
  exact validString_ofRunes _

theorem length_ofRunes (cs : List Char) : (ofRunes cs).length = (cs.map Char.utf8Size).sum := by
  induction cs with
  | nil => rfl
  | cons c rest ih =>
    rw [ofRunes, List.flatMap_cons, List.length_append, String.length_utf8EncodeChar]
    exact congrArg (c.utf8Size + ·) ih

theorem length_le_ofRunes (cs : List Char) : cs.length ≤ (ofRunes cs).length := by
  rw [length_ofRunes]
  induction cs with
  | nil => exact le_rfl
  | cons c rest ih =>
    have hpos := c.utf8Size_pos
    rw [List.map_cons, List.sum_cons, List.length_cons]
    omega

theorem ofRunes_le (cs : List Char) : (ofRunes cs).length ≤ 4 * cs.length := by
  rw [length_ofRunes]
  induction cs with
  | nil => exact le_rfl
  | cons c rest ih =>
    have hmax := c.utf8Size_le_four
    rw [List.map_cons, List.sum_cons, List.length_cons]
    omega

theorem runes_le_length (h : validString s = true) : (runes s).length ≤ s.length := by
  have hle := length_le_ofRunes (runes s)
  rwa [ofRunes_runes h] at hle

theorem length_le_runes (h : validString s = true) : s.length ≤ 4 * (runes s).length := by
  have hle := ofRunes_le (runes s)
  rwa [ofRunes_runes h] at hle

end GoText
