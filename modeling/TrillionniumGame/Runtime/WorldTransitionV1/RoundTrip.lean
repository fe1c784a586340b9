import TrillionniumGame.Runtime.WorldTransition.RoundTrip
import TrillionniumGame.Runtime.WorldTransitionV1.Adapter

namespace WorldTransitionV1
open Checks GoJson GoText JsonText
open WorldTransition (bytesLess bytesLess_irrefl bytesLess_trans bytesLess_asymm
  bytesLess_trichotomy Canonical ItemsCanonical FieldsCanonical itemsCanonical_iff
  fieldsCanonical_iff nameLess TextOf sorted_pairwise exists_map)

def codes (cs : List Char) : PyString := cs.map Char.toNat

mutual

def pyValue : Value → PyValue
  | .null => .none
  | .bool value => .bool value
  | .int value => .int value
  | .text chars => .str (codes chars)
  | .array items => .list (pyItems items)
  | .object fields => .dict (pyFields fields)

def pyItems : List Value → List PyValue
  | [] => []
  | item :: rest => pyValue item :: pyItems rest

def pyFields : List (List Char × Value) → List (PyString × PyValue)
  | [] => []
  | (name, value) :: rest => (codes name, pyValue value) :: pyFields rest

end

mutual

def loadedValue : Value → Loaded
  | .null => .none
  | .bool value => .bool value
  | .int value => .int value
  | .text chars => .str (codes chars)
  | .array items => .list (loadedItems items)
  | .object fields => .pairs (loadedFields fields)

def loadedItems : List Value → List Loaded
  | [] => []
  | item :: rest => loadedValue item :: loadedItems rest

def loadedFields : List (List Char × Value) → List (PyString × Loaded)
  | [] => []
  | (name, value) :: rest => (codes name, loadedValue value) :: loadedFields rest

end

mutual

def PyValue.normal : PyValue → PyValue
  | .list items => .list (normalItems items)
  | .dict items => .dict (sortItems (normalFields items))
  | v => v

def normalItems : List PyValue → List PyValue
  | [] => []
  | item :: rest => item.normal :: normalItems rest

def normalFields : List (PyString × PyValue) → List (PyString × PyValue)
  | [] => []
  | (key, value) :: rest => (key, value.normal) :: normalFields rest

end

def Denotes (p : PyValue) (v : Value) : Prop := Canonical v ∧ p.normal = pyValue v

theorem PyValue.children {P : PyValue → Prop} (leaf : ∀ v : PyValue, v.container = false → P v)
    (list : ∀ items, (∀ item ∈ items, P item) → P (.list items))
    (dict : ∀ items : List (PyString × PyValue), (∀ item ∈ items, P item.2) → P (.dict items))
    (v : PyValue) : P v :=
  @PyValue.rec P (fun items => ∀ item ∈ items, P item)
    (fun items => ∀ item ∈ items, P item.2) (fun item => P item.2)
    (leaf .none rfl) (fun value => leaf (.bool value) rfl) (fun value => leaf (.int value) rfl)
    (fun value => leaf (.str value) rfl) list dict (leaf .other rfl)
    (List.forall_mem_nil _) forall_cons
    (List.forall_mem_nil _) forall_cons (fun _ _ => id) v

theorem Loaded.children {P : Loaded → Prop}
    (none : P .none) (bool : ∀ value, P (.bool value)) (int : ∀ value, P (.int value))
    (str : ∀ value, P (.str value)) (list : ∀ items, (∀ item ∈ items, P item) → P (.list items))
    (pairs : ∀ items : List (PyString × Loaded), (∀ item ∈ items, P item.2) → P (.pairs items))
    (v : Loaded) : P v :=
  @Loaded.rec P (fun items => ∀ item ∈ items, P item)
    (fun items => ∀ item ∈ items, P item.2) (fun item => P item.2)
    none bool int str list pairs
    (List.forall_mem_nil _) forall_cons
    (List.forall_mem_nil _) forall_cons (fun _ _ => id) v

theorem pyItems_eq (items : List Value) : pyItems items = items.map pyValue :=
  eq_map rfl (fun _ _ => rfl) items

theorem pyFields_eq (fields : List (List Char × Value)) :
    pyFields fields = fields.map (Prod.map codes pyValue) :=
  eq_map rfl (fun _ _ => rfl) fields

theorem encodeItems_eq (depth : Nat) (items : List PyValue) :
    encodeItems depth items = items.map (encode depth) :=
  eq_map rfl (fun _ _ => rfl) items

theorem encodeFields_eq (depth : Nat) (items : List (PyString × PyValue)) :
    encodeFields depth items = items.map (Prod.map id (encode depth)) :=
  eq_map rfl (fun _ _ => rfl) items

theorem normalItems_eq (items : List PyValue) : normalItems items = items.map PyValue.normal :=
  eq_map rfl (fun _ _ => rfl) items

theorem normalFields_eq (items : List (PyString × PyValue)) :
    normalFields items = items.map (Prod.map id PyValue.normal) :=
  eq_map rfl (fun _ _ => rfl) items

theorem pyValue_container (v : Value) : (pyValue v).container = v.container := by
  cases v <;> rfl

theorem map_ofNat_codes (cs : List Char) : (codes cs).map Char.ofNat = cs := by
  rw [codes, List.map_map]
  exact (List.map_congr_left fun c _ => Char.ofNat_toNat c).trans (List.map_id cs)

theorem utf8_codes (cs : List Char) : utf8 (codes cs) = ofRunes cs := by
  rw [utf8, map_ofNat_codes]

theorem encodable_codes (cs : List Char) : encodable (codes cs) = true := by
  rw [encodable, codes, List.all_map]
  exact List.all_eq_true.mpr fun c _ => decide_eq_true c.valid

theorem toNat_ofNat {n : Nat} (h : n.isValidChar) : (Char.ofNat n).toNat = n := by
  rw [Char.ofNat, dif_pos h]
  rfl

theorem codes_of_encodable {s : PyString} (h : encodable s = true) :
    codes (s.map Char.ofNat) = s := by
  rw [codes, List.map_map]
  refine (List.map_congr_left fun n hn => ?_).trans (List.map_id s)
  exact toNat_ofNat (of_decide_eq_true (List.all_eq_true.mp h n hn))

theorem escapeCode_char (c : Char) : escapeCode c.toNat = codes (escape c) := by
  have hall : ∀ n < 0x80, escapeCode n = codes (escape (Char.ofNat n)) := by decide +kernel
  by_cases hascii : c.toNat < 0x80
  · have h := hall _ hascii
    rwa [Char.ofNat_toNat] at h
  · have hne : ∀ d : Char, d.toNat < 0x80 → c ≠ d := by
      rintro d hd rfl
      exact hascii hd
    rw [escapeCode, if_neg (by omega), if_neg (by omega), if_neg (by omega), if_neg (by omega),
      if_neg (by omega), if_neg (by omega), if_neg (by omega)]
    rw [escape, if_neg (not_or.mpr ⟨hne _ (by decide), hne _ (by decide)⟩), if_neg (hne _ (by decide)),
      if_neg (hne _ (by decide)), if_neg (hne _ (by decide)), if_neg (hne _ (by decide)),
      if_neg (hne _ (by decide)), if_neg (by omega)]
    rfl

theorem encodeString_codes (cs : List Char) : encodeString (codes cs) = codes (quote cs) := by
  have hbody : (codes cs).flatMap escapeCode = codes (cs.flatMap escape) := by
    rw [codes, codes, List.flatMap_map, List.map_flatMap]
    exact List.flatMap_congr fun c _ => escapeCode_char c
  rw [encodeString, hbody]
  simp only [codes, quote, List.map_append]
  rfl

variable {α : Type}

theorem sortItems_ascending {items : List (PyString × α)}
    (h : (items.map (·.1)).Pairwise fun a b => bytesLess (utf8 a) (utf8 b) = true) :
    sortItems items = items :=
  List.Pairwise.insertionSort_eq ((List.pairwise_map.mp h).imp fun hless => bytesLess_asymm hless)

theorem sortItems_idem (items : List (PyString × α)) :
    sortItems (sortItems items) = sortItems items :=
  List.Pairwise.insertionSort_eq (sorted_pairwise (fun item => utf8 item.1) items)

theorem sortItems_map {β : Type} (f : α → β) (items : List (PyString × α)) :
    sortItems (items.map (Prod.map id f)) = (sortItems items).map (Prod.map id f) :=
  (List.map_insertionSort (fun a b : PyString × α => bytesLess (utf8 b.1) (utf8 a.1) = false)
    (fun a b : PyString × β => bytesLess (utf8 b.1) (utf8 a.1) = false) (Prod.map id f) items
    fun _ _ _ _ => Iff.rfl).symm

theorem sortItems_perm (items : List (PyString × α)) : (sortItems items).Perm items :=
  List.perm_insertionSort _ items

theorem encode_normal (p : PyValue) (depth : Nat) : encode depth p.normal = encode depth p := by
  induction p using PyValue.children generalizing depth with
  | leaf p hp =>
    cases p with
    | list | dict => cases hp
    | _ => rfl
  | list items ih =>
    have hitems : encodeItems (depth + 1) (normalItems items) = encodeItems (depth + 1) items := by
      rw [encodeItems_eq, encodeItems_eq, normalItems_eq, List.map_map]
      exact List.map_congr_left fun item hitem => ih item hitem (depth + 1)
    simp only [PyValue.normal, encode, hitems]
  | dict items ih =>
    have hitems : encodeFields (depth + 1) (normalFields items) = encodeFields (depth + 1) items := by
      rw [encodeFields_eq, encodeFields_eq, normalFields_eq, List.map_map]
      refine List.map_congr_left fun item hitem => ?_
      exact congrArg (Prod.mk item.1) (ih item hitem (depth + 1))
    have hsorted : sortItems (encodeFields (depth + 1) (sortItems (normalFields items))) =
        sortItems (encodeFields (depth + 1) items) := by
      rw [← hitems, encodeFields_eq, encodeFields_eq, sortItems_map, sortItems_map, sortItems_idem]
    have hvalid : (sortItems (normalFields items)).all (fun item => encodable item.1) =
        items.all fun item => encodable item.1 := by
      rw [(sortItems_perm _).all_eq, normalFields_eq, List.all_map]
      rfl
    simp only [PyValue.normal, encode, hsorted, hvalid]

def depthError : String := "canonical nesting depth exceeds 128"

def rendered (depth : Nat) (v : Value) : Except String PyString :=
  if depth + v.height ≤ maxCanonicalDepth then .ok (codes v.render) else .error depthError

theorem collect_rendered (parts : List (Bool × List Char)) :
    collect (parts.map fun part => if part.1 then .ok (codes part.2) else .error depthError) =
    if parts.all (·.1) then .ok (parts.map fun part => codes part.2) else .error depthError := by
  induction parts with
  | nil => rfl
  | cons part rest ih =>
    obtain ⟨fits, text⟩ := part
    rw [List.map_cons, collect, ih]
    cases fits with
    | false => rfl
    | true =>
      have hall : (((true, text) :: rest).all (·.1)) = rest.all (·.1) := rfl
      rw [hall]
      cases rest.all (·.1) with
      | false | true => rfl

theorem joinCommas_codes (parts : List (List Char)) :
    joinCommas (parts.map codes) = codes (commas parts) := by
  induction parts with
  | nil => rfl
  | cons part rest ih =>
    cases rest with
    | nil => rfl
    | cons next rest =>
      rw [commas_cons _ (List.cons_ne_nil _ _), List.map_cons, joinCommas, ih]
      · simp only [codes, List.map_append, List.map_cons, List.append_assoc]
        rfl
      · exact fun heq => List.cons_ne_nil _ _ heq

variable {depth : Nat}

variable {p : PyValue} {v : Value}

theorem encode_checked (h : depth ≤ maxCanonicalDepth → encode depth p = rendered depth v) :
    encode depth p = rendered depth v := by
  by_cases hdepth : depth ≤ maxCanonicalDepth
  · exact h hdepth
  · rw [encode.eq_def, rendered, if_neg (by omega)]
    exact bind_error.mpr (.inl (require_error.mpr ⟨hdepth, rfl⟩))

def joinedCodes (parts : List (Except String PyString)) : Except String PyString :=
  joinCommas <$> collect parts

theorem joinedCodes_rendered (parts : List (Bool × List Char)) :
    joinedCodes (parts.map fun part => if part.1 then .ok (codes part.2) else .error depthError) =
    if parts.all (·.1) then .ok (codes (commas (parts.map (·.2)))) else .error depthError := by
  rw [joinedCodes, collect_rendered, ← joinCommas_codes, List.map_map]
  split
  · rfl
  · rfl

theorem enclosed_codes {opener closer : PyString} (parts : List (Except String PyString)) :
    (do
      let parts ← collect parts
      return opener ++ joinCommas parts ++ closer) = (do
      let inner ← joinedCodes parts
      return opener ++ inner ++ closer) := by
  rw [joinedCodes]
  cases collect parts <;> rfl

theorem rendered_list (items : List Value) (hdepth : depth ≤ maxCanonicalDepth) :
    (do
      let parts ← collect (items.map (rendered (depth + 1)))
      return ascii "[" ++ joinCommas parts ++ ascii "]") = rendered depth (.array items) := by
  rw [enclosed_codes, joined_parts (f := rendered (depth + 1)) joinedCodes_rendered (fun _ => rfl)
    (fun _ => itemsHeight_le) hdepth, rendered, Value.height, Value.render, renderItems_eq]
  split
  · simp only [codes, List.map_cons, List.map_append]
    rfl
  · rfl

theorem rendered_dict (fields : List (List Char × Value)) (hdepth : depth ≤ maxCanonicalDepth) :
    (do
      let parts ← collect (fields.map fun field =>
        encodeField (codes field.1, rendered (depth + 1) field.2))
      return ascii "\x7b" ++ joinCommas parts ++ ascii "\x7d") =
    rendered depth (.object fields) := by
  have hfield : ∀ field : List Char × Value,
      encodeField (codes field.1, rendered (depth + 1) field.2) =
        if depth + 1 + field.2.height ≤ maxCanonicalDepth then
          .ok (codes (quote field.1 ++ ':' :: field.2.render)) else .error depthError := by
    intro field
    rw [encodeField, rendered, encodeString_codes]
    split
    · refine congrArg Except.ok ?_
      simp only [codes, List.map_append, List.map_cons, List.append_assoc]
      rfl
    · rfl
  rw [enclosed_codes, joined_parts joinedCodes_rendered hfield (fun _ => fieldsHeight_le) hdepth,
    rendered, Value.height, Value.render, renderMembers_eq]
  split
  · simp only [codes, List.map_cons, List.map_append]
    rfl
  · rfl

theorem encode_pyValue (v : Value) (h : Canonical v) (depth : Nat) :
    encode depth (pyValue v) = rendered depth v := by
  induction v using Value.children generalizing depth with
  | leaf v hleaf =>
    refine encode_checked fun hdepth => ?_
    have hchecked : require (depth ≤ maxCanonicalDepth) depthError = .ok () :=
      require_ok.mpr hdepth
    have hrendered : rendered depth v = .ok (codes v.render) := by
      cases v with
      | array | object => cases hleaf
      | _ => exact if_pos hdepth
    rw [hrendered]
    cases v with
    | null => exact bind_ok.mpr ⟨(), hchecked, rfl⟩
    | bool value => cases value <;> exact bind_ok.mpr ⟨(), hchecked, rfl⟩
    | int value => exact bind_ok.mpr ⟨(), hchecked, bind_ok.mpr ⟨(), require_ok.mpr h, rfl⟩⟩
    | text chars =>
      refine bind_ok.mpr ⟨(), hchecked, ?_⟩
      exact congrArg Except.ok (encodeString_codes chars)
    | array | object => cases hleaf
  | array items ih =>
    refine encode_checked fun hdepth => ?_
    have hitems : encodeItems (depth + 1) (pyItems items) = items.map (rendered (depth + 1)) := by
      rw [encodeItems_eq, pyItems_eq, List.map_map]
      exact List.map_congr_left fun item hitem =>
        ih item hitem (itemsCanonical_iff.mp h item hitem) (depth + 1)
    rw [pyValue, encode, hitems, require, if_pos hdepth, ← rendered_list items hdepth]
    rfl
  | object fields ih =>
    refine encode_checked fun hdepth => ?_
    have hfields : encodeFields (depth + 1) (pyFields fields) =
        fields.map fun field => (codes field.1, rendered (depth + 1) field.2) := by
      rw [encodeFields_eq, pyFields_eq, List.map_map]
      refine List.map_congr_left fun field hfield => ?_
      exact congrArg (Prod.mk (codes field.1))
        (ih field hfield (fieldsCanonical_iff.mp h.2 field hfield) (depth + 1))
    have hsorted : sortItems (encodeFields (depth + 1) (pyFields fields)) =
        encodeFields (depth + 1) (pyFields fields) := by
      refine sortItems_ascending ?_
      rw [hfields, List.map_map]
      refine List.pairwise_map.mpr ((List.pairwise_map.mp h.1).imp fun hless => ?_)
      rw [Function.comp_apply, Function.comp_apply, utf8_codes, utf8_codes]
      exact hless
    have hvalid : (pyFields fields).all (fun item => encodable item.1) = true := by
      rw [pyFields_eq, List.all_map]
      exact List.all_eq_true.mpr fun field _ => encodable_codes field.1
    rw [pyValue, encode, hsorted, hfields, List.map_map, require, if_pos hdepth, require,
      if_pos hvalid, ← rendered_dict fields hdepth]
    rfl

theorem Denotes.encode (h : Denotes p v) (depth : Nat) : encode depth p = rendered depth v := by
  rw [← encode_normal, h.2, encode_pyValue v h.1]

theorem joinUnits_map (cs : List Char) : joinUnits (cs.map piece) = codes cs := by
  induction cs with
  | nil => rfl
  | cons c cs ih =>
    rw [List.map_cons]
    rcases says_piece c with hc | ⟨n, hc, hhigh, hlone⟩
    · rw [hc, joinUnits, ih]
      rfl
    · have hn : c.toNat = n := by
        unfold piece at hc
        split at hc
        · exact Piece.unit.inj hc
        · cases hc
      rw [hc]
      cases hrest : cs.map piece with
      | nil =>
        rw [hrest] at ih
        rw [codes, List.map_cons, hn]
        exact congrArg (n :: ·) ih
      | cons next rest =>
        rw [hrest] at ih
        cases next with
        | char d =>
          rw [joinUnits, codes, List.map_cons, hn]
          exact congrArg (n :: ·) ih
        | unit m =>
          rw [joinUnits, if_neg (by simp [hhigh]), ih, codes, codes, List.map_cons, hn]

theorem loadNumber_integer {value : Int}
    (h : -9223372036854775808 ≤ value ∧ value ≤ 9223372036854775807) :
    loadNumber (integer value) = .ok (.int value) := by
  have hplain : ¬ ('.' ∈ integer value ∨ 'e' ∈ integer value ∨ 'E' ∈ integer value) := by
    have hnone := WorldTransition.integer_plain value
    rintro (hmem | hmem | hmem)
    · exact hnone _ hmem (by simp)
    · exact hnone _ hmem (by simp)
    · exact hnone _ hmem (by simp)
  rw [loadNumber, if_neg hplain]
  refine bind_ok.mpr ⟨(), require_ok.mpr (WorldTransition.integer_leading value).1, ?_⟩
  rw [parseInt_integer]
  exact bind_ok.mpr ⟨(), require_ok.mpr h, rfl⟩

theorem load_tree (v : Value) (h : Canonical v) : load v.tree = .ok (loadedValue v) := by
  induction v using Value.children with
  | leaf v hleaf =>
    cases v with
    | int value => exact loadNumber_integer h
    | text chars => exact congrArg (fun s => Except.ok (Loaded.str s)) (joinUnits_map chars)
    | array | object => cases hleaf
    | _ => rfl
  | array items ih =>
    refine bind_ok.mpr ⟨loadedItems items, ?_, rfl⟩
    have hitems := itemsCanonical_iff.mp h
    clear h
    induction items with
    | nil => rfl
    | cons item rest ihrest =>
      rw [List.forall_mem_cons] at ih hitems
      exact bind_ok.mpr ⟨_, ih.1 hitems.1, bind_ok.mpr ⟨_, ihrest ih.2 hitems.2, rfl⟩⟩
  | object fields ih =>
    refine bind_ok.mpr ⟨loadedFields fields, ?_, rfl⟩
    have hfields := fieldsCanonical_iff.mp h.2
    clear h
    induction fields with
    | nil => rfl
    | cons field rest ihrest =>
      obtain ⟨name, value⟩ := field
      rw [List.forall_mem_cons] at ih hfields
      rw [memberTrees, loadPairs, joinUnits_map]
      exact bind_ok.mpr ⟨_, ih.1 hfields.1, bind_ok.mpr ⟨_, ihrest ih.2 hfields.2, rfl⟩⟩

def Materializes (v : Value) : Prop :=
  ∀ depth, Canonical v → depth + v.height ≤ maxCanonicalDepth →
    materialize depth (loadedValue v) = .ok (pyValue v)

theorem materializeItems_loaded {items : List Value} (hback : ∀ item ∈ items, Materializes item)
    (h : ∀ item ∈ items, Canonical item)
    (hfits : ∀ item ∈ items, depth + item.height ≤ maxCanonicalDepth) :
    materializeItems depth (loadedItems items) = .ok (pyItems items) := by
  induction items with
  | nil => rfl
  | cons item rest ih =>
    rw [List.forall_mem_cons] at hback h hfits
    rw [loadedItems, materializeItems, pyItems]
    refine bind_ok.mpr ⟨_, hback.1 depth h.1 hfits.1, ?_⟩
    exact bind_ok.mpr ⟨_, ih hback.2 h.2 hfits.2, rfl⟩

theorem materializePairs_loaded {fields : List (List Char × Value)}
    (hback : ∀ field ∈ fields, Materializes field.2) (h : ∀ field ∈ fields, Canonical field.2)
    (hfits : ∀ field ∈ fields, depth + field.2.height ≤ maxCanonicalDepth)
    (hascending : (fields.map (·.1)).Pairwise nameLess) {seen : List PyString}
    (hseen : ∀ key ∈ seen, ∀ field ∈ fields, bytesLess (utf8 key) (ofRunes field.1) = true) :
    materializePairs depth seen (loadedFields fields) = .ok (pyFields fields) := by
  induction fields generalizing seen with
  | nil => rfl
  | cons field rest ih =>
    obtain ⟨name, value⟩ := field
    rw [List.forall_mem_cons] at hback h hfits
    rw [List.map_cons, List.pairwise_cons] at hascending
    have hless : ∀ previous ∈ seen, bytesLess (utf8 previous) (ofRunes name) = true :=
      fun previous hprevious => hseen previous hprevious (name, value) (by simp)
    rw [loadedFields, materializePairs, pyFields]
    refine bind_ok.mpr ⟨(), require_ok.mpr fun hmem => ?_, ?_⟩
    · have hself := hless _ hmem
      rw [utf8_codes, bytesLess_irrefl] at hself
      cases hself
    refine bind_ok.mpr ⟨ofRunes name, ?_, ?_⟩
    · rw [encodeUtf8, utf8_codes]
      exact bind_ok.mpr ⟨(), require_ok.mpr (encodable_codes name), rfl⟩
    refine bind_ok.mpr ⟨(), require_ok.mpr fun previous hprevious =>
      hless previous (List.mem_of_mem_head? hprevious), ?_⟩
    refine bind_ok.mpr ⟨_, hback.1 depth h.1 hfits.1, ?_⟩
    refine bind_ok.mpr ⟨_, ih hback.2 h.2 hfits.2 hascending.2 ?_, rfl⟩
    refine List.forall_mem_cons.mpr ⟨fun other hother => ?_, fun previous hprevious other hother =>
      hseen previous hprevious other (List.mem_cons_of_mem _ hother)⟩
    rw [utf8_codes]
    exact hascending.1 _ (List.mem_map_of_mem hother)

theorem materialize_loaded (v : Value) : Materializes v := by
  induction v using Value.children with
  | leaf v hleaf =>
    intro depth hv hdepth
    have hchecked : require (depth ≤ maxCanonicalDepth) depthError = .ok () :=
      require_ok.mpr (by omega)
    cases v with
    | int value => exact bind_ok.mpr ⟨(), hchecked, bind_ok.mpr ⟨(), require_ok.mpr hv, rfl⟩⟩
    | array | object => cases hleaf
    | _ => exact bind_ok.mpr ⟨(), hchecked, rfl⟩
  | array items ih =>
    intro depth hv hdepth
    rw [Value.height] at hdepth
    refine bind_ok.mpr ⟨(), require_ok.mpr (by omega), ?_⟩
    exact bind_ok.mpr
      ⟨_, materializeItems_loaded ih (itemsCanonical_iff.mp hv) (children_fit (fun _ => itemsHeight_le) hdepth), rfl⟩
  | object fields ih =>
    intro depth hv hdepth
    rw [Value.height] at hdepth
    refine bind_ok.mpr ⟨(), require_ok.mpr (by omega), ?_⟩
    exact bind_ok.mpr ⟨_, materializePairs_loaded ih (fieldsCanonical_iff.mp hv.2)
      (children_fit (fun _ => fieldsHeight_le) hdepth) hv.1 (List.forall_mem_nil _), rfl⟩

mutual

-- What `_materialize` lets through: strings may still hold lone surrogates.
def Materialized : PyValue → Prop
  | .int value => -9223372036854775808 ≤ value ∧ value ≤ 9223372036854775807
  | .list items => ItemsMaterialized items
  | .dict items => ((∀ key ∈ items.map (·.1), encodable key = true) ∧
      (items.map (·.1)).Pairwise fun a b => bytesLess (utf8 a) (utf8 b) = true) ∧
        FieldsMaterialized items
  | .other => False
  | _ => True

def ItemsMaterialized : List PyValue → Prop
  | [] => True
  | item :: rest => Materialized item ∧ ItemsMaterialized rest

def FieldsMaterialized : List (PyString × PyValue) → Prop
  | [] => True
  | (_, value) :: rest => Materialized value ∧ FieldsMaterialized rest

end

theorem itemsMaterialized_iff {items : List PyValue} :
    ItemsMaterialized items ↔ ∀ item ∈ items, Materialized item := by
  induction items with
  | nil => simp [ItemsMaterialized]
  | cons item rest ih => simp [ItemsMaterialized, ih]

theorem fieldsMaterialized_iff {items : List (PyString × PyValue)} :
    FieldsMaterialized items ↔ ∀ item ∈ items, Materialized item.2 := by
  induction items with
  | nil => simp [FieldsMaterialized]
  | cons item rest ih => simp [FieldsMaterialized, ih]

theorem materializeItems_ok {items : List Loaded}
    (h : ∀ item ∈ items, ∀ p, materialize depth item = .ok p → Materialized p)
    {values : List PyValue} (hvalues : materializeItems depth items = .ok values) :
    ItemsMaterialized values := by
  induction items generalizing values with
  | nil =>
    cases hvalues
    trivial
  | cons item rest ih =>
    rw [List.forall_mem_cons] at h
    simp only [materializeItems, bind_ok] at hvalues
    obtain ⟨p, hp, ps, hps, heq⟩ := hvalues
    cases heq
    exact ⟨h.1 p hp, ih h.2 hps⟩

theorem materializePairs_ok {items : List (PyString × Loaded)}
    (h : ∀ item ∈ items, ∀ p, materialize depth item.2 = .ok p → Materialized p)
    {seen : List PyString} {values : List (PyString × PyValue)}
    (hvalues : materializePairs depth seen items = .ok values) :
    (∀ key ∈ values.map (·.1), encodable key = true) ∧
      ((values.map (·.1)).Pairwise fun a b => bytesLess (utf8 a) (utf8 b) = true) ∧
      (∀ previous ∈ seen.head?, ∀ key ∈ values.map (·.1),
        bytesLess (utf8 previous) (utf8 key) = true) ∧ FieldsMaterialized values := by
  induction items generalizing seen values with
  | nil =>
    cases hvalues
    exact ⟨by simp, .nil, by simp, trivial⟩
  | cons item rest ih =>
    obtain ⟨key, item⟩ := item
    rw [List.forall_mem_cons] at h
    simp only [materializePairs, encodeUtf8, bind_ok, require_ok] at hvalues
    obtain ⟨_, _, keyBytes, ⟨_, hencodable, hbytes⟩, _, hless, p, hp, ps, hps, heq⟩ := hvalues
    cases heq
    cases hbytes
    obtain ⟨hkeys, hascending, hfirst, hrest⟩ := ih h.2 hps
    have hhead : ∀ other ∈ ps.map (·.1), bytesLess (utf8 key) (utf8 other) = true := hfirst key rfl
    refine ⟨List.forall_mem_cons.mpr ⟨hencodable, hkeys⟩, List.pairwise_cons.mpr ⟨hhead, hascending⟩,
      fun previous hprevious => ?_, h.1 p hp, hrest⟩
    have hprev := hless previous hprevious
    exact List.forall_mem_cons.mpr ⟨hprev, fun other hother => bytesLess_trans hprev (hhead other hother)⟩

theorem materialize_ok (l : Loaded) (h : materialize depth l = .ok p) : Materialized p := by
  induction l using Loaded.children generalizing depth p with
  | none | bool | str =>
    simp only [materialize, bind_ok] at h
    obtain ⟨_, _, h⟩ := h
    cases h
    trivial
  | int value =>
    simp only [materialize, bind_ok, require_ok] at h
    obtain ⟨_, _, _, hrange, h⟩ := h
    cases h
    exact hrange
  | list items ih =>
    simp only [materialize, bind_ok] at h
    obtain ⟨_, _, values, hvalues, h⟩ := h
    cases h
    exact materializeItems_ok (fun item hitem p => ih item hitem) hvalues
  | pairs items ih =>
    simp only [materialize, bind_ok] at h
    obtain ⟨_, _, values, hvalues, h⟩ := h
    cases h
    obtain ⟨hkeys, hascending, _, hrest⟩ :=
      materializePairs_ok (fun item hitem p => ih item hitem) hvalues
    exact ⟨⟨hkeys, hascending⟩, hrest⟩

theorem collect_each {ε α : Type} {children : List (Except ε α)} {parts : List α}
    (h : collect children = .ok parts) : ∀ child ∈ children, ∃ part ∈ parts, child = .ok part := by
  induction children generalizing parts with
  | nil => simp
  | cons child rest ih =>
    simp only [collect, bind_ok] at h
    obtain ⟨part, hchild, parts, hrest, heq⟩ := h
    cases heq
    refine List.forall_mem_cons.mpr ⟨⟨part, by simp, hchild⟩, fun other hother => ?_⟩
    obtain ⟨part', hmem, hsome⟩ := ih hrest other hother
    exact ⟨part', List.mem_cons_of_mem _ hmem, hsome⟩

theorem encodable_append {s t : PyString} :
    encodable (s ++ t) = true ↔ encodable s = true ∧ encodable t = true := by
  rw [encodable, List.all_append, Bool.and_eq_true]
  rfl

theorem encodable_joinCommas {parts : List PyString} (h : encodable (joinCommas parts) = true) :
    ∀ part ∈ parts, encodable part = true := by
  induction parts with
  | nil => simp
  | cons part rest ih =>
    cases rest with
    | nil => exact List.forall_mem_singleton.mpr h
    | cons next rest =>
      rw [joinCommas, encodable_append, encodable_append] at h
      · exact List.forall_mem_cons.mpr ⟨h.1.1, ih h.2⟩
      · exact fun heq => List.cons_ne_nil _ _ heq

theorem encodable_encodeString {s : PyString} (h : encodable (encodeString s) = true) :
    encodable s = true := by
  rw [encodeString, encodable_append, encodable_append] at h
  refine List.all_eq_true.mpr fun n hn => decide_eq_true ?_
  by_cases hlow : n < 0x20
  · exact .inl (by omega)
  · have hmem : n ∈ s.flatMap escapeCode := by
      refine List.mem_flatMap.mpr ⟨n, hn, ?_⟩
      unfold escapeCode
      by_cases hquote : n = 0x22 ∨ n = 0x5c
      · rw [if_pos hquote]
        simp
      · rw [if_neg hquote, if_neg (by omega), if_neg (by omega), if_neg (by omega),
          if_neg (by omega), if_neg (by omega), if_neg (by omega)]
        simp
    exact of_decide_eq_true (List.all_eq_true.mp h.1.2 n hmem)

theorem value_of_encode (p : PyValue) (h : Materialized p) {text : PyString}
    (hencode : encode depth p = .ok text) (hscalar : encodable text = true) :
    ∃ v, Canonical v ∧ pyValue v = p := by
  induction p using PyValue.children generalizing depth text with
  | leaf p hleaf =>
    cases p with
    | none => exact ⟨.null, trivial, rfl⟩
    | bool value => exact ⟨.bool value, trivial, rfl⟩
    | int value => exact ⟨.int value, h, rfl⟩
    | str value =>
      simp only [encode, bind_ok] at hencode
      obtain ⟨_, _, hencode⟩ := hencode
      cases hencode
      refine ⟨.text (value.map Char.ofNat), trivial, ?_⟩
      rw [pyValue, codes_of_encodable (encodable_encodeString hscalar)]
    | list | dict => cases hleaf
    | other => exact h.elim
  | list items ih =>
    simp only [encode, bind_ok] at hencode
    obtain ⟨_, _, parts, hparts, hencode⟩ := hencode
    cases hencode
    rw [encodable_append, encodable_append] at hscalar
    have hscalars := encodable_joinCommas hscalar.1.2
    rw [encodeItems_eq] at hparts
    have hitems : ∀ item ∈ items, ∃ v, Canonical v ∧ pyValue v = item := by
      intro item hitem
      obtain ⟨part, hpart, hsome⟩ := collect_each hparts _ (List.mem_map_of_mem hitem)
      exact ih item hitem (itemsMaterialized_iff.mp h item hitem) hsome (hscalars part hpart)
    obtain ⟨values, hmap, hvalues⟩ := exists_map hitems
    refine ⟨.array values, itemsCanonical_iff.mpr hvalues, ?_⟩
    rw [pyValue, pyItems_eq, hmap]
  | dict items ih =>
    simp only [encode, bind_ok] at hencode
    obtain ⟨_, _, _, _, parts, hparts, hencode⟩ := hencode
    cases hencode
    rw [encodable_append, encodable_append] at hscalar
    have hscalars := encodable_joinCommas hscalar.1.2
    obtain ⟨⟨hkeys, hascending⟩, hmaterialized⟩ := h
    rw [encodeFields_eq] at hparts
    have hfields : ∀ item ∈ items, ∃ field : List Char × Value,
        Canonical field.2 ∧ Prod.map codes pyValue field = item := by
      intro item hitem
      have hmem := (sortItems_perm _).mem_iff.mpr
        (List.mem_map_of_mem (f := Prod.map id (encode (depth + 1))) hitem)
      obtain ⟨part, hpart, hsome⟩ := collect_each hparts _ (List.mem_map_of_mem hmem)
      simp only [encodeField, bind_ok] at hsome
      obtain ⟨value, hvalue, hpartEq⟩ := hsome
      have hpartScalar := hscalars part hpart
      rw [← Except.ok.inj hpartEq, encodable_append] at hpartScalar
      obtain ⟨v, hv, hpy⟩ := ih item hitem (fieldsMaterialized_iff.mp hmaterialized item hitem)
        hvalue hpartScalar.2
      have hkey := codes_of_encodable (hkeys item.1 (List.mem_map_of_mem hitem))
      exact ⟨(item.1.map Char.ofNat, v), hv, Prod.ext hkey hpy⟩
    obtain ⟨values, hmap, hvalues⟩ := exists_map hfields
    refine ⟨.object values, ⟨?_, fieldsCanonical_iff.mpr hvalues⟩, ?_⟩
    · rw [← hmap, List.map_map] at hascending
      refine List.pairwise_map.mpr ((List.pairwise_map.mp hascending).imp fun hless => ?_)
      simp only [Function.comp_apply, Prod.map_fst, utf8_codes] at hless
      exact hless
    · rw [pyValue, pyFields_eq, hmap]

theorem canonicalDumps_pyValue {v : Value} (h : Canonical v) (hcontainer : v.container = true) :
    canonicalDumps (pyValue v) true = rendered 0 v := by
  rw [canonicalDumps, pyValue_container, hcontainer, encode_pyValue v h]
  rfl

theorem loadsCanonical_ok {raw : GoString} {maximumBytes : Option Int} :
    loadsCanonical raw true maximumBytes = .ok p ↔
      (∀ maximum ∈ maximumBytes, (raw.length : Int) ≤ maximum) ∧
        ∃ v, TextOf raw v ∧ p = pyValue v := by
  simp only [loadsCanonical, bind_ok, require_ok]
  constructor
  · rintro ⟨_, hvalid, _, _, _, hlimit, t, _, l, _, value, hvalue, canonical, hcanonical, _,
      htext, h⟩
    obtain rfl := Except.ok.inj h
    rw [ofRunes_runes hvalid] at hlimit
    have hscalar : encodable canonical = true := by
      rw [htext]
      exact encodable_codes (runes raw)
    simp only [canonicalDumps, bind_ok, require_ok] at hcanonical
    obtain ⟨_, hcontainer, hencode⟩ := hcanonical
    obtain ⟨v, hv, rfl⟩ := value_of_encode value (materialize_ok l hvalue) hencode hscalar
    rw [encode_pyValue v hv, rendered] at hencode
    split at hencode
    · next hfits =>
      rw [pyValue_container] at hcontainer
      have hrender : codes v.render = codes (runes raw) :=
        (Except.ok.inj hencode).trans htext
      have hchars : v.render = runes raw := by
        rw [← map_ofNat_codes v.render, hrender, map_ofNat_codes]
      rw [Nat.zero_add] at hfits
      exact ⟨hlimit, v, ⟨hv, hcontainer.resolve_left (by simp), hfits,
        by rw [hchars, ofRunes_runes hvalid]⟩, rfl⟩
    · cases hencode
  · rintro ⟨hlimit, v, ⟨hv, hopen, hheight, hraw⟩, rfl⟩
    have hrunes : runes raw = v.render := by rw [hraw, runes_ofRunes]
    have hvalid : validString raw = true := by
      rw [hraw]
      exact validString_ofRunes v.render
    have hfits : 0 + v.height ≤ maxCanonicalDepth := (Nat.zero_add _).trans_le hheight
    refine ⟨(), hvalid, (), ?_, (), ?_, v.tree, ?_, loadedValue v, load_tree v hv, pyValue v,
      materialize_loaded v 0 hv hfits, codes v.render, ?_, (), ?_, rfl⟩
    · rw [hrunes]
      cases v with
      | array items | object fields => exact fun heq => absurd (Option.some.inj heq) (by decide)
      | _ => cases hopen
    · rw [ofRunes_runes hvalid]
      exact hlimit
    · rw [hrunes]
      exact parseText_render v
    · rw [canonicalDumps_pyValue hv hopen, rendered, if_pos hfits]
    · rw [hrunes]
      rfl

end WorldTransitionV1
