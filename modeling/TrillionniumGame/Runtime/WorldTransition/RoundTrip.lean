import TrillionniumGame.Runtime.WorldTransition.Prepare

namespace WorldTransition
open Checks GoJson GoText JsonText

mutual

def GoAny.wellFormed : GoAny → Bool
  | .int value => -9223372036854775808 ≤ value && value ≤ 18446744073709551615
  | .array items => itemsWellFormed items
  | .object fields => (fields.map (·.1)).Nodup && fieldsWellFormed fields
  | _ => true

def itemsWellFormed : List GoAny → Bool
  | [] => true
  | item :: rest => item.wellFormed && itemsWellFormed rest

def fieldsWellFormed : List (GoString × GoAny) → Bool
  | [] => true
  | (_, value) :: rest => value.wellFormed && fieldsWellFormed rest

end

mutual

def GoAny.normal : GoAny → GoAny
  | .text value => .text (ofRunes (runes value))
  | .array items => .array (normalItems items)
  | .object fields => .object (sortFields (normalFields fields))
  | v => v

def normalItems : List GoAny → List GoAny
  | [] => []
  | item :: rest => item.normal :: normalItems rest

def normalFields : List (GoString × GoAny) → List (GoString × GoAny)
  | [] => []
  | (name, value) :: rest => (name, value.normal) :: normalFields rest

end

theorem canonicalItems_eq (depth : Nat) (items : List GoAny) :
    canonicalItems depth items = items.map (appendCanonical depth) :=
  eq_map rfl (fun _ _ => rfl) items

theorem canonicalFields_eq (depth : Nat) (fields : List (GoString × GoAny)) :
    canonicalFields depth fields = fields.map (Prod.map id (appendCanonical depth)) :=
  eq_map rfl (fun _ _ => rfl) fields

theorem normalItems_eq (items : List GoAny) : normalItems items = items.map GoAny.normal :=
  eq_map rfl (fun _ _ => rfl) items

theorem normalFields_eq (fields : List (GoString × GoAny)) :
    normalFields fields = fields.map (Prod.map id GoAny.normal) :=
  eq_map rfl (fun _ _ => rfl) fields

theorem itemsWellFormed_iff {items : List GoAny} :
    itemsWellFormed items = true ↔ ∀ item ∈ items, item.wellFormed = true := by
  induction items with
  | nil => simp [itemsWellFormed]
  | cons item rest ih => simp [itemsWellFormed, ih]

theorem fieldsWellFormed_iff {fields : List (GoString × GoAny)} :
    fieldsWellFormed fields = true ↔ ∀ field ∈ fields, field.2.wellFormed = true := by
  induction fields with
  | nil => simp [fieldsWellFormed]
  | cons field rest ih => simp [fieldsWellFormed, ih]

theorem GoAny.children {P : GoAny → Prop} (leaf : ∀ v : GoAny, v.container = false → P v)
    (array : ∀ items, (∀ item ∈ items, P item) → P (.array items))
    (object : ∀ fields : List (GoString × GoAny), (∀ field ∈ fields, P field.2) →
      P (.object fields)) (v : GoAny) : P v :=
  @GoAny.rec P (fun items => ∀ item ∈ items, P item)
    (fun fields => ∀ field ∈ fields, P field.2) (fun field => P field.2)
    (leaf .nil rfl) (fun value => leaf (.bool value) rfl) (fun value => leaf (.text value) rfl)
    (fun value => leaf (.int value) rfl) array object (leaf .other rfl)
    (List.forall_mem_nil _) forall_cons
    (List.forall_mem_nil _) forall_cons (fun _ _ => id) v

theorem bytesLess_trichotomy (a b : GoString) :
    bytesLess a b = true ∨ a = b ∨ bytesLess b a = true := by
  induction a generalizing b with
  | nil => cases b <;> simp [bytesLess]
  | cons x xs ih =>
    cases b with
    | nil => simp [bytesLess]
    | cons y ys =>
      simp only [bytesLess, Bool.or_eq_true, Bool.and_eq_true, decide_eq_true_eq, List.cons.injEq]
      rcases lt_trichotomy x.toNat y.toNat with h | h | h
      · exact .inl (.inl h)
      · obtain rfl : x = y := UInt8.toNat_inj.mp h
        rcases ih ys with h | h | h
        · exact .inl (.inr ⟨rfl, h⟩)
        · exact .inr (.inl ⟨rfl, h⟩)
        · exact .inr (.inr (.inr ⟨rfl, h⟩))
      · exact .inr (.inr (.inl h))

variable {a b : GoString}

theorem bytesLess_trans {c : GoString} (hab : bytesLess a b = true) (hbc : bytesLess b c = true) :
    bytesLess a c = true := by
  induction a generalizing b c with
  | nil =>
    cases b with
    | nil => simp [bytesLess] at hab
    | cons y ys =>
      cases c with
      | nil => simp [bytesLess] at hbc
      | cons z zs => rfl
  | cons x xs ih =>
    cases b with
    | nil => simp [bytesLess] at hab
    | cons y ys =>
      cases c with
      | nil => simp [bytesLess] at hbc
      | cons z zs =>
        simp only [bytesLess, Bool.or_eq_true, Bool.and_eq_true, decide_eq_true_eq] at hab hbc ⊢
        rcases hab with hab | ⟨hxy, hab⟩
        · rcases hbc with hbc | ⟨hyz, _⟩
          · exact .inl (by omega)
          · exact .inl (by omega)
        · rcases hbc with hbc | ⟨hyz, hbc⟩
          · exact .inl (by omega)
          · exact .inr ⟨by omega, ih hab hbc⟩

theorem bytesLess_irrefl (a : GoString) : bytesLess a a = false := by
  induction a with
  | nil => rfl
  | cons x xs ih => simp [bytesLess, ih]

theorem bytesLess_asymm (h : bytesLess a b = true) : bytesLess b a = false := by
  by_contra hba
  have hself := bytesLess_trans h (by simpa using hba)
  rw [bytesLess_irrefl] at hself
  exact absurd hself (by simp)

variable {α : Type}

theorem sorted_pairwise (key : α → GoString) (xs : List α) :
    (xs.insertionSort fun a b => bytesLess (key b) (key a) = false).Pairwise fun a b =>
      bytesLess (key b) (key a) = false := by
  have htotal : Std.Total fun a b : α => bytesLess (key b) (key a) = false := by
    constructor
    intro a b
    rcases bytesLess_trichotomy (key a) (key b) with h | h | h
    · exact .inl (bytesLess_asymm h)
    · exact .inl (by rw [h]; exact bytesLess_irrefl _)
    · exact .inr (bytesLess_asymm h)
  have htrans : IsTrans α fun a b => bytesLess (key b) (key a) = false := by
    constructor
    intro a b c hab hbc
    rcases bytesLess_trichotomy (key a) (key b) with h | h | h
    · rcases bytesLess_trichotomy (key b) (key c) with k | k | k
      · exact bytesLess_asymm (bytesLess_trans h k)
      · exact k ▸ hab
      · simp [hbc] at k
    · exact h ▸ hbc
    · simp [hab] at h
  exact List.pairwise_insertionSort _ xs

theorem sortFields_pairwise (fields : List (GoString × α)) :
    (sortFields fields).Pairwise fun a b => bytesLess b.1 a.1 = false :=
  sorted_pairwise (·.1) fields

theorem sortFields_map {β : Type} (f : α → β) (fields : List (GoString × α)) :
    sortFields (fields.map (Prod.map id f)) = (sortFields fields).map (Prod.map id f) :=
  (List.map_insertionSort (fun a b : GoString × α => bytesLess b.1 a.1 = false)
    (fun a b : GoString × β => bytesLess b.1 a.1 = false) (Prod.map id f) fields
    fun _ _ _ _ => Iff.rfl).symm

theorem sortFields_idem (fields : List (GoString × α)) :
    sortFields (sortFields fields) = sortFields fields :=
  List.Pairwise.insertionSort_eq (sortFields_pairwise fields)

theorem sortFields_perm (fields : List (GoString × α)) : (sortFields fields).Perm fields :=
  List.perm_insertionSort _ fields

theorem sortFields_ascending {fields : List (GoString × α)} (h : (fields.map (·.1)).Nodup) :
    (sortFields fields).Pairwise fun a b => bytesLess a.1 b.1 = true := by
  have hnames : ((sortFields fields).map (·.1)).Nodup :=
    ((sortFields_perm fields).map (·.1)).nodup_iff.mpr h
  have hnodup : (sortFields fields).Pairwise fun a b => a.1 ≠ b.1 := List.pairwise_map.mp hnames
  refine ((sortFields_pairwise fields).and hnodup).imp ?_
  rintro a b ⟨hle, hne⟩
  rcases bytesLess_trichotomy a.1 b.1 with h | h | h
  · exact h
  · exact absurd h hne
  · simp [hle] at h

theorem canonical_normal (v : GoAny) (depth : Nat) :
    appendCanonical depth v.normal = appendCanonical depth v := by
  induction v using GoAny.children generalizing depth with
  | leaf v hv =>
    cases v with
    | text value =>
      simp only [GoAny.normal, appendCanonical, appendJSONString, runes_ofRunes]
    | array items | object fields => simp [GoAny.container] at hv
    | _ => rfl
  | array items ih =>
    have hitems : canonicalItems (depth + 1) (normalItems items) =
        canonicalItems (depth + 1) items := by
      rw [canonicalItems_eq, canonicalItems_eq, normalItems_eq, List.map_map]
      exact List.map_congr_left fun item hitem => ih item hitem (depth + 1)
    simp only [GoAny.normal, appendCanonical, hitems]
  | object fields ih =>
    have hfields : canonicalFields (depth + 1) (normalFields fields) =
        canonicalFields (depth + 1) fields := by
      rw [canonicalFields_eq, canonicalFields_eq, normalFields_eq, List.map_map]
      refine List.map_congr_left fun field hfield => ?_
      exact congrArg (Prod.mk field.1) (ih field hfield (depth + 1))
    have hsorted : sortFields (canonicalFields (depth + 1) (sortFields (normalFields fields))) =
        sortFields (canonicalFields (depth + 1) fields) := by
      rw [← hfields, canonicalFields_eq, canonicalFields_eq, sortFields_map, sortFields_map,
        sortFields_idem]
    have hvalid : (sortFields (normalFields fields)).all (fun field => validString field.1) =
        fields.all fun field => validString field.1 := by
      rw [(sortFields_perm _).all_eq, normalFields_eq, List.all_map]
      rfl
    simp only [GoAny.normal, appendCanonical, hsorted, hvalid]

def nameLess (a b : List Char) : Prop := bytesLess (ofRunes a) (ofRunes b) = true

mutual

def Canonical : Value → Prop
  | .int value => -9223372036854775808 ≤ value ∧ value ≤ 9223372036854775807
  | .array items => ItemsCanonical items
  | .object fields => (fields.map (·.1)).Pairwise nameLess ∧ FieldsCanonical fields
  | _ => True

def ItemsCanonical : List Value → Prop
  | [] => True
  | item :: rest => Canonical item ∧ ItemsCanonical rest

def FieldsCanonical : List (List Char × Value) → Prop
  | [] => True
  | (_, value) :: rest => Canonical value ∧ FieldsCanonical rest

end

mutual

def goValue : Value → GoAny
  | .null => .nil
  | .bool value => .bool value
  | .int value => .int value
  | .text chars => .text (ofRunes chars)
  | .array items => .array (goItems items)
  | .object fields => .object (goFields fields)

def goItems : List Value → List GoAny
  | [] => []
  | item :: rest => goValue item :: goItems rest

def goFields : List (List Char × Value) → List (GoString × GoAny)
  | [] => []
  | (name, value) :: rest => (ofRunes name, goValue value) :: goFields rest

end

variable {items : List Value}

theorem itemsCanonical_iff : ItemsCanonical items ↔ ∀ item ∈ items, Canonical item := by
  induction items with
  | nil => simp [ItemsCanonical]
  | cons item rest ih => simp [ItemsCanonical, ih]

variable {fields : List (List Char × Value)}

theorem fieldsCanonical_iff : FieldsCanonical fields ↔ ∀ field ∈ fields, Canonical field.2 := by
  induction fields with
  | nil => simp [FieldsCanonical]
  | cons field rest ih => simp [FieldsCanonical, ih]

theorem goItems_eq (items : List Value) : goItems items = items.map goValue :=
  eq_map rfl (fun _ _ => rfl) items

theorem goFields_eq (fields : List (List Char × Value)) :
    goFields fields = fields.map (Prod.map ofRunes goValue) :=
  eq_map rfl (fun _ _ => rfl) fields

theorem goValue_container (v : Value) : (goValue v).container = v.container := by
  cases v <;> rfl

theorem ascending_sorted {α : Type} {fields : List (GoString × α)}
    (h : (fields.map (·.1)).Pairwise fun a b => bytesLess a b = true) :
    sortFields fields = fields :=
  List.Pairwise.insertionSort_eq ((List.pairwise_map.mp h).imp fun hless => bytesLess_asymm hless)

theorem appendJSONString_ofRunes (cs : List Char) :
    appendJSONString (ofRunes cs) = ofRunes (quote cs) := by
  rw [appendJSONString, runes_ofRunes]
  rfl

def depthError : String := errCanonicalJSON "nesting depth exceeds 128"

def rendered (depth : Nat) (v : Value) : Except String GoString :=
  if depth + v.height ≤ maxCanonicalDepth then .ok (ofRunes v.render) else .error depthError

theorem ofRunes_cons (c : Char) (cs : List Char) : ofRunes (c :: cs) = ofRunes [c] ++ ofRunes cs :=
  ofRunes_append [c] cs

theorem joinCanonical_rendered (parts : List (Bool × List Char)) :
    joinCanonical (parts.map fun part =>
      if part.1 then .ok (ofRunes part.2) else .error depthError) =
    if parts.all (·.1) then .ok (ofRunes (commas (parts.map (·.2)))) else .error depthError := by
  induction parts with
  | nil => rfl
  | cons part rest ih =>
    obtain ⟨fits, text⟩ := part
    cases rest with
    | nil => cases fits <;> rfl
    | cons next rest =>
      rw [List.map_cons, joinCanonical, ih]
      · have hcommas : commas (((fits, text) :: next :: rest).map (·.2)) =
            text ++ ',' :: commas ((next :: rest).map (·.2)) := rfl
        rw [hcommas, ofRunes_append, ofRunes_cons]
        cases fits with
        | false => rfl
        | true =>
          have hall : (((true, text) :: next :: rest).all (·.1)) = ((next :: rest).all (·.1)) := rfl
          rw [hall]
          cases (next :: rest).all (·.1) with
          | false => rfl
          | true => exact congrArg Except.ok (List.append_assoc _ _ _)
      · exact fun heq => List.cons_ne_nil _ _ heq

variable {depth : Nat}

variable {g : GoAny} {v : Value}

theorem appendCanonical_checked
    (h : depth ≤ maxCanonicalDepth → appendCanonical depth g = rendered depth v) :
    appendCanonical depth g = rendered depth v := by
  by_cases hdepth : depth ≤ maxCanonicalDepth
  · exact h hdepth
  · rw [appendCanonical.eq_def, rendered, if_neg (by omega)]
    exact bind_error.mpr (.inl (require_error.mpr ⟨hdepth, rfl⟩))

theorem rendered_array (items : List Value) (hdepth : depth ≤ maxCanonicalDepth) :
    (do
      let inner ← joinCanonical (items.map (rendered (depth + 1)))
      return str "[" ++ inner ++ str "]") = rendered depth (.array items) := by
  rw [joined_parts (f := rendered (depth + 1)) joinCanonical_rendered (fun _ => rfl)
    (fun _ => itemsHeight_le) hdepth, rendered, Value.height, Value.render, renderItems_eq]
  split
  · rw [List.cons_append, ofRunes_cons, ofRunes_append, ← List.append_assoc]
    rfl
  · rfl

theorem rendered_object (fields : List (List Char × Value)) (hdepth : depth ≤ maxCanonicalDepth) :
    (do
      let inner ← joinCanonical (fields.map fun field =>
        canonicalField (ofRunes field.1, rendered (depth + 1) field.2))
      return str "\x7b" ++ inner ++ str "\x7d") = rendered depth (.object fields) := by
  have hfield : ∀ field : List Char × Value,
      canonicalField (ofRunes field.1, rendered (depth + 1) field.2) =
        if depth + 1 + field.2.height ≤ maxCanonicalDepth then
          .ok (ofRunes (quote field.1 ++ ':' :: field.2.render)) else .error depthError := by
    intro field
    rw [canonicalField, rendered, appendJSONString_ofRunes, ofRunes_append, ofRunes_cons,
      ← List.append_assoc]
    split
    · rfl
    · rfl
  rw [joined_parts joinCanonical_rendered hfield (fun _ => fieldsHeight_le) hdepth, rendered,
    Value.height, Value.render, renderMembers_eq]
  split
  · rw [List.cons_append, ofRunes_cons, ofRunes_append, ← List.append_assoc]
    rfl
  · rfl

theorem append_goValue (v : Value) (h : Canonical v) (depth : Nat) :
    appendCanonical depth (goValue v) = rendered depth v := by
  induction v using Value.children generalizing depth with
  | leaf v hleaf =>
    refine appendCanonical_checked fun hdepth => ?_
    have hchecked : require (depth ≤ maxCanonicalDepth)
        (errCanonicalJSON "nesting depth exceeds 128") = .ok () := require_ok.mpr hdepth
    have hrendered : rendered depth v = .ok (ofRunes v.render) := by
      cases v with
      | array | object => cases hleaf
      | _ => exact if_pos hdepth
    rw [hrendered]
    cases v with
    | null => exact bind_ok.mpr ⟨(), hchecked, rfl⟩
    | bool value => cases value <;> exact bind_ok.mpr ⟨(), hchecked, rfl⟩
    | int value => exact bind_ok.mpr ⟨(), hchecked, bind_ok.mpr ⟨(), require_ok.mpr h.2, rfl⟩⟩
    | text chars =>
      refine bind_ok.mpr ⟨(), hchecked, ?_⟩
      exact congrArg Except.ok (appendJSONString_ofRunes chars)
    | array | object => cases hleaf
  | array items ih =>
    refine appendCanonical_checked fun hdepth => ?_
    have hitems : canonicalItems (depth + 1) (goItems items) =
        items.map (rendered (depth + 1)) := by
      rw [canonicalItems_eq, goItems_eq, List.map_map]
      exact List.map_congr_left fun item hitem =>
        ih item hitem (itemsCanonical_iff.mp h item hitem) (depth + 1)
    rw [goValue, appendCanonical, hitems, require, if_pos hdepth, ← rendered_array items hdepth]
    rfl
  | object fields ih =>
    refine appendCanonical_checked fun hdepth => ?_
    have hfields : canonicalFields (depth + 1) (goFields fields) =
        fields.map fun field => (ofRunes field.1, rendered (depth + 1) field.2) := by
      rw [canonicalFields_eq, goFields_eq, List.map_map]
      refine List.map_congr_left fun field hfield => ?_
      exact congrArg (Prod.mk (ofRunes field.1))
        (ih field hfield (fieldsCanonical_iff.mp h.2 field hfield) (depth + 1))
    have hsorted : sortFields (canonicalFields (depth + 1) (goFields fields)) =
        canonicalFields (depth + 1) (goFields fields) := by
      refine ascending_sorted ?_
      rw [hfields, List.map_map]
      exact List.pairwise_map.mpr (List.pairwise_map.mp h.1)
    have hvalid : (goFields fields).all (fun field => validString field.1) = true := by
      rw [goFields_eq, List.all_map]
      exact List.all_eq_true.mpr fun field _ => validString_ofRunes field.1
    rw [goValue, appendCanonical, hsorted, hfields, List.map_map, require, if_pos hdepth, require,
      if_pos hvalid, ← rendered_object fields hdepth]
    rfl

theorem exists_map {α β : Type} {f : α → β} {P : α → Prop} {ys : List β}
    (h : ∀ y ∈ ys, ∃ x, P x ∧ f x = y) : ∃ xs : List α, xs.map f = ys ∧ ∀ x ∈ xs, P x := by
  induction ys with
  | nil => exact ⟨[], rfl, by simp⟩
  | cons y ys ih =>
    obtain ⟨x, hx, rfl⟩ := h y (by simp)
    obtain ⟨xs, rfl, hxs⟩ := ih fun y hy => h y (List.mem_cons_of_mem _ hy)
    exact ⟨x :: xs, rfl, List.forall_mem_cons.mpr ⟨hx, hxs⟩⟩

theorem joinCanonical_each {children : List (Except String GoString)} :
    (∃ b, joinCanonical children = .ok b) ↔ ∀ child ∈ children, ∃ text, child = .ok text := by
  induction children with
  | nil => exact iff_of_true ⟨[], rfl⟩ (List.forall_mem_nil _)
  | cons child rest ih =>
    cases rest with
    | nil => rw [joinCanonical, List.forall_mem_singleton]
    | cons next rest =>
      rw [joinCanonical, List.forall_mem_cons, ← ih]
      · simp only [bind_ok]
        constructor
        · rintro ⟨_, text, htext, tail, htail, _⟩
          exact ⟨⟨text, htext⟩, tail, htail⟩
        · rintro ⟨⟨text, htext⟩, tail, htail⟩
          exact ⟨_, text, htext, tail, htail, rfl⟩
      · exact fun heq => List.cons_ne_nil _ _ heq

theorem object_encodes {fields : List (GoString × GoAny)} :
    (∃ b, appendCanonical depth (.object fields) = .ok b) ↔ depth ≤ maxCanonicalDepth ∧
      fields.all (fun field => validString field.1) = true ∧
      ∀ field ∈ fields, ∃ text, appendCanonical (depth + 1) field.2 = .ok text := by
  have heach : (∃ inner, joinCanonical ((sortFields (canonicalFields (depth + 1) fields)).map
      canonicalField) = .ok inner) ↔
        ∀ field ∈ fields, ∃ text, appendCanonical (depth + 1) field.2 = .ok text := by
    rw [joinCanonical_each, List.forall_mem_map, canonicalFields_eq]
    simp only [(sortFields_perm _).mem_iff]
    rw [List.forall_mem_map]
    refine forall₂_congr fun field _ => ?_
    simp only [canonicalField, bind_ok]
    exact ⟨fun ⟨_, text, htext, _⟩ => ⟨text, htext⟩, fun ⟨text, htext⟩ => ⟨_, text, htext, rfl⟩⟩
  simp only [← heach, appendCanonical, bind_ok, require_ok]
  constructor
  · rintro ⟨_, _, hdepth, _, hnames, inner, hinner, _⟩
    exact ⟨hdepth, hnames, inner, hinner⟩
  · rintro ⟨hdepth, hnames, inner, hinner⟩
    exact ⟨_, (), hdepth, (), hnames, inner, hinner, rfl⟩

def Denotes (g : GoAny) (v : Value) : Prop := Canonical v ∧ g.normal = goValue v

theorem denotes_of_canonical (g : GoAny) (hg : g.wellFormed = true) {b : GoString}
    (h : appendCanonical depth g = .ok b) : ∃ v, Denotes g v := by
  induction g using GoAny.children generalizing depth b with
  | leaf g hleaf =>
    cases g with
    | nil => exact ⟨.null, trivial, rfl⟩
    | bool value => exact ⟨.bool value, trivial, rfl⟩
    | text value => exact ⟨.text (runes value), trivial, rfl⟩
    | int value =>
      simp only [appendCanonical, bind_ok, require_ok] at h
      obtain ⟨_, _, _, hmax, _⟩ := h
      simp only [GoAny.wellFormed, Bool.and_eq_true, decide_eq_true_eq] at hg
      exact ⟨.int value, ⟨hg.1, hmax⟩, rfl⟩
    | array | object => cases hleaf
    | other =>
      simp only [appendCanonical, bind_ok] at h
      obtain ⟨_, _, h⟩ := h
      cases h
  | array items ih =>
    simp only [appendCanonical, bind_ok] at h
    obtain ⟨_, _, inner, hinner, _⟩ := h
    have heach := joinCanonical_each.mp ⟨inner, hinner⟩
    rw [canonicalItems_eq] at heach
    have hitems : ∀ y ∈ items.map GoAny.normal, ∃ v, Canonical v ∧ goValue v = y := by
      intro y hy
      obtain ⟨item, hitem, rfl⟩ := List.mem_map.mp hy
      obtain ⟨text, htext⟩ := heach _ (List.mem_map_of_mem hitem)
      obtain ⟨v, hv, hnormal⟩ := ih item hitem (itemsWellFormed_iff.mp hg item hitem) htext
      exact ⟨v, hv, hnormal.symm⟩
    obtain ⟨values, hmap, hvalues⟩ := exists_map hitems
    refine ⟨.array values, itemsCanonical_iff.mpr hvalues, ?_⟩
    rw [GoAny.normal, normalItems_eq, ← hmap, goValue, goItems_eq]
  | object fields ih =>
    obtain ⟨_, hnames, heach⟩ := object_encodes.mp ⟨b, h⟩
    simp only [GoAny.wellFormed, Bool.and_eq_true, decide_eq_true_eq] at hg
    have hfields : ∀ y ∈ sortFields (normalFields fields), ∃ field : List Char × Value,
        Canonical field.2 ∧ Prod.map ofRunes goValue field = y := by
      intro y hy
      rw [normalFields_eq] at hy
      obtain ⟨field, hfield, rfl⟩ := List.mem_map.mp ((sortFields_perm _).mem_iff.mp hy)
      obtain ⟨text, htext⟩ := heach field hfield
      obtain ⟨v, hv, hnormal⟩ := ih field hfield (fieldsWellFormed_iff.mp hg.2 field hfield) htext
      have hname := ofRunes_runes (List.all_eq_true.mp hnames field hfield)
      exact ⟨(runes field.1, v), hv, Prod.ext hname hnormal.symm⟩
    obtain ⟨values, hmap, hvalues⟩ := exists_map hfields
    have hnodup : ((normalFields fields).map (·.1)).Nodup := by
      rw [normalFields_eq, List.map_map]
      exact hg.1
    have hascending := sortFields_ascending hnodup
    rw [← hmap] at hascending
    have hless := List.pairwise_map.mp hascending
    refine ⟨.object values, ⟨?_, fieldsCanonical_iff.mpr hvalues⟩, ?_⟩
    · exact List.pairwise_map.mpr hless
    · rw [GoAny.normal, ← hmap, goValue, goFields_eq]

theorem Denotes.canonical (h : Denotes g v) (depth : Nat) :
    appendCanonical depth g = rendered depth v := by
  rw [← canonical_normal, h.2, append_goValue v h.1]

theorem integer_plain (value : Int) : ∀ c ∈ integer value, c ∉ ['.', 'e', 'E', '+'] := by
  have hdigit : ∀ n, ∀ c ∈ decimal n, c ∉ ['.', 'e', 'E', '+'] := by
    intro n c hc hmem
    have hisDigit := decimal_digits n c hc
    simp only [List.mem_cons, List.not_mem_nil, or_false] at hmem
    rcases hmem with rfl | rfl | rfl | rfl <;> simp at hisDigit
  cases value with
  | ofNat n => exact hdigit n
  | negSucc n =>
    intro c hc
    rcases List.mem_cons.mp hc with rfl | hc
    · decide
    · exact hdigit _ c hc

theorem integer_leading (value : Int) : integer value ≠ ['-', '0'] ∧
    ¬ ((integer value).head? = some '0' ∧ 1 < (integer value).length) ∧
      ¬ (2 < (integer value).length ∧ (integer value).take 2 = ['-', '0']) := by
  cases value with
  | ofNat n =>
    rcases Nat.eq_zero_or_pos n with rfl | hpos
    · decide
    · obtain ⟨c, tail, hdecimal, hc⟩ := decimal_head hpos
      have hdigit := decimal_digits n c (by simp [hdecimal])
      have hminus : c ≠ '-' := by
        rintro rfl
        simp at hdigit
      simp [integer, hdecimal, hc, hminus]
  | negSucc n =>
    obtain ⟨c, tail, hdecimal, hc⟩ := decimal_head (Nat.succ_pos n)
    have hinteger : integer (.negSucc n) = '-' :: c :: tail := congrArg ('-' :: ·) hdecimal
    simp [hinteger, hc]

theorem parseNumber_integer {value : Int}
    (h : -9223372036854775808 ≤ value ∧ value ≤ 9223372036854775807) :
    parseNumber (integer value) = .ok (.int value) := by
  obtain ⟨hzero, hleading⟩ := integer_leading value
  obtain ⟨c, tail, hcons, _⟩ := integer_opens value
  refine bind_ok.mpr ⟨(), require_ok.mpr hzero, ?_⟩
  refine bind_ok.mpr ⟨(), require_ok.mpr ⟨by simp [hcons], integer_plain value⟩, ?_⟩
  refine bind_ok.mpr ⟨(), require_ok.mpr hleading, ?_⟩
  rw [parseInt_integer]
  exact bind_ok.mpr ⟨(), require_ok.mpr h, rfl⟩

def ParsesBack (v : Value) : Prop :=
  ∀ depth, Canonical v → depth + v.height ≤ maxCanonicalDepth →
    parseJSONValue depth v.tree = .ok (goValue v)

theorem parseElements_trees (hback : ∀ item ∈ items, ParsesBack item)
    (h : ∀ item ∈ items, Canonical item)
    (hfits : ∀ item ∈ items, depth + item.height ≤ maxCanonicalDepth) :
    parseElements depth (itemTrees items) = .ok (goItems items) := by
  induction items with
  | nil => rfl
  | cons item rest ih =>
    rw [List.forall_mem_cons] at hback h hfits
    rw [itemTrees, parseElements, goItems]
    refine bind_ok.mpr ⟨_, hback.1 depth h.1 hfits.1, ?_⟩
    exact bind_ok.mpr ⟨_, ih hback.2 h.2 hfits.2, rfl⟩

variable {seen : List GoString}

theorem parseFields_trees (hback : ∀ field ∈ fields, ParsesBack field.2)
    (h : ∀ field ∈ fields, Canonical field.2)
    (hfits : ∀ field ∈ fields, depth + field.2.height ≤ maxCanonicalDepth)
    (hascending : (fields.map (·.1)).Pairwise nameLess)
    (hseen : ∀ name ∈ seen, ∀ field ∈ fields, bytesLess name (ofRunes field.1) = true) :
    parseFields depth seen (memberTrees fields) = .ok (goFields fields) := by
  induction fields generalizing seen with
  | nil => rfl
  | cons field rest ih =>
    obtain ⟨name, value⟩ := field
    rw [List.forall_mem_cons] at hback h hfits
    rw [List.map_cons, List.pairwise_cons] at hascending
    have hless : ∀ previous ∈ seen, bytesLess previous (ofRunes name) = true :=
      fun previous hprevious => hseen previous hprevious (name, value) (by simp)
    rw [memberTrees, parseFields, goFields, joinPieces_map]
    refine bind_ok.mpr ⟨(), require_ok.mpr fun hmem => ?_, ?_⟩
    · have hself := hless _ hmem
      rw [bytesLess_irrefl] at hself
      cases hself
    refine bind_ok.mpr ⟨(), require_ok.mpr fun previous hprevious =>
      hless previous (List.mem_of_mem_head? hprevious), ?_⟩
    refine bind_ok.mpr ⟨_, hback.1 depth h.1 hfits.1, ?_⟩
    refine bind_ok.mpr ⟨_, ih hback.2 h.2 hfits.2 hascending.2 ?_, rfl⟩
    refine List.forall_mem_cons.mpr ⟨fun other hother => ?_, fun previous hprevious other hother =>
      hseen previous hprevious other (List.mem_cons_of_mem _ hother)⟩
    exact hascending.1 _ (List.mem_map_of_mem hother)

theorem parseJSONValue_tree (v : Value) : ParsesBack v := by
  induction v using Value.children with
  | leaf v hleaf =>
    intro depth hv hdepth
    have hchecked : require (depth ≤ maxCanonicalDepth)
        (errCanonicalJSON "nesting depth exceeds 128") = .ok () := require_ok.mpr (by omega)
    cases v with
    | int value => exact bind_ok.mpr ⟨(), hchecked, parseNumber_integer hv⟩
    | text chars =>
      refine bind_ok.mpr ⟨(), hchecked, ?_⟩
      exact congrArg (fun cs => Except.ok (GoAny.text (ofRunes cs))) (joinPieces_map chars)
    | array | object => cases hleaf
    | _ => exact bind_ok.mpr ⟨(), hchecked, rfl⟩
  | array items ih =>
    intro depth hv hdepth
    rw [Value.height] at hdepth
    refine bind_ok.mpr ⟨(), require_ok.mpr (by omega), ?_⟩
    exact bind_ok.mpr
      ⟨_, parseElements_trees ih (itemsCanonical_iff.mp hv) (children_fit (fun _ => itemsHeight_le) hdepth), rfl⟩
  | object fields ih =>
    intro depth hv hdepth
    rw [Value.height] at hdepth
    refine bind_ok.mpr ⟨(), require_ok.mpr (by omega), ?_⟩
    exact bind_ok.mpr ⟨_, parseFields_trees ih (fieldsCanonical_iff.mp hv.2) (children_fit (fun _ => fieldsHeight_le) hdepth)
      hv.1 (List.forall_mem_nil _), rfl⟩

def ParsedAs (depth : Nat) (g : GoAny) (v : Value) : Prop :=
  Canonical v ∧ depth + v.height ≤ maxCanonicalDepth ∧ g = goValue v

theorem parseElements_ok {items : List Tree}
    (h : ∀ item ∈ items, ∀ g, parseJSONValue depth item = .ok g → ∃ v, ParsedAs depth g v)
    {values : List GoAny} (hparse : parseElements depth items = .ok values) :
    ∃ vs : List Value, values = goItems vs ∧
      ∀ v ∈ vs, Canonical v ∧ depth + v.height ≤ maxCanonicalDepth := by
  induction items generalizing values with
  | nil => exact ⟨[], (Except.ok.inj hparse).symm, by simp⟩
  | cons item rest ih =>
    rw [List.forall_mem_cons] at h
    simp only [parseElements, bind_ok] at hparse
    obtain ⟨g, hitem, gs, hrest, heq⟩ := hparse
    obtain ⟨v, hv, hfits, rfl⟩ := h.1 g hitem
    obtain ⟨vs, rfl, hvs⟩ := ih h.2 hrest
    exact ⟨v :: vs, (Except.ok.inj heq).symm, List.forall_mem_cons.mpr ⟨⟨hv, hfits⟩, hvs⟩⟩

theorem parseFields_ok {members : List (List Piece × Tree)}
    (h : ∀ member ∈ members, ∀ g, parseJSONValue depth member.2 = .ok g → ∃ v, ParsedAs depth g v)
    {fields : List (GoString × GoAny)} (hparse : parseFields depth seen members = .ok fields) :
    ∃ vs : List (List Char × Value), fields = goFields vs ∧
      (∀ field ∈ vs, Canonical field.2 ∧ depth + field.2.height ≤ maxCanonicalDepth) ∧
      (vs.map (·.1)).Pairwise nameLess ∧
      ∀ previous ∈ seen.head?, ∀ field ∈ vs, bytesLess previous (ofRunes field.1) = true := by
  induction members generalizing seen fields with
  | nil => exact ⟨[], (Except.ok.inj hparse).symm, by simp, .nil, by simp⟩
  | cons member rest ih =>
    obtain ⟨pieces, item⟩ := member
    rw [List.forall_mem_cons] at h
    simp only [parseFields, bind_ok, require_ok] at hparse
    obtain ⟨_, _, _, hless, g, hitem, gs, hrest, heq⟩ := hparse
    obtain ⟨v, hv, hfits, rfl⟩ := h.1 g hitem
    obtain ⟨vs, rfl, hvs, hascending, hfirst⟩ := ih h.2 hrest
    have hhead : ∀ field ∈ vs, nameLess (joinPieces pieces) field.1 := hfirst _ rfl
    refine ⟨(joinPieces pieces, v) :: vs, (Except.ok.inj heq).symm,
      List.forall_mem_cons.mpr ⟨⟨hv, hfits⟩, hvs⟩, ?_, fun previous hprevious => ?_⟩
    · rw [List.map_cons, List.pairwise_cons]
      exact ⟨List.forall_mem_map.mpr hhead, hascending⟩
    · have hprev := hless previous hprevious
      exact List.forall_mem_cons.mpr ⟨hprev, fun field hfield =>
        bytesLess_trans hprev (hhead field hfield)⟩

theorem parseJSONValue_ok (t : Tree) (h : parseJSONValue depth t = .ok g) :
    ∃ v, ParsedAs depth g v := by
  induction t using Tree.children generalizing depth g with
  | leaf t hleaf =>
    rw [parseJSONValue.eq_def] at h
    simp only [bind_ok, require_ok] at h
    obtain ⟨_, hdepth, h⟩ := h
    cases t with
    | null => exact ⟨.null, trivial, hdepth, (Except.ok.inj h).symm⟩
    | bool value => exact ⟨.bool value, trivial, hdepth, (Except.ok.inj h).symm⟩
    | text pieces => exact ⟨.text (joinPieces pieces), trivial, hdepth, (Except.ok.inj h).symm⟩
    | number raw =>
      simp only [parseNumber, bind_ok, require_ok] at h
      obtain ⟨_, _, _, _, _, _, _, hrange, h⟩ := h
      exact ⟨.int (parseInt raw), hrange, hdepth, (Except.ok.inj h).symm⟩
    | array | object => cases hleaf
  | array items ih =>
    simp only [parseJSONValue, bind_ok, require_ok] at h
    obtain ⟨_, hdepth, values, hvalues, h⟩ := h
    obtain ⟨vs, rfl, hvs⟩ := parseElements_ok (fun item hitem g => ih item hitem) hvalues
    have hheight : itemsHeight vs ≤ maxCanonicalDepth - depth := itemsHeight_le.mpr fun v hv => by
      have := (hvs v hv).2
      omega
    refine ⟨.array vs, itemsCanonical_iff.mpr fun v hv => (hvs v hv).1, ?_,
      (Except.ok.inj h).symm⟩
    rw [Value.height]
    omega
  | object members ih =>
    simp only [parseJSONValue, bind_ok, require_ok] at h
    obtain ⟨_, hdepth, fields, hfields, h⟩ := h
    obtain ⟨vs, rfl, hvs, hascending, _⟩ :=
      parseFields_ok (fun member hmember g => ih member hmember) hfields
    have hheight : fieldsHeight vs ≤ maxCanonicalDepth - depth := fieldsHeight_le.mpr fun v hv => by
      have := (hvs v hv).2
      omega
    refine ⟨.object vs, ⟨hascending, fieldsCanonical_iff.mpr fun v hv => (hvs v hv).1⟩, ?_,
      (Except.ok.inj h).symm⟩
    rw [Value.height]
    omega

def withinLimit (maximumBytes : Int) (raw : GoString) : Prop :=
  ¬ (0 ≤ maximumBytes ∧ maximumBytes < raw.length)

structure TextOf (raw : GoString) (v : Value) : Prop where
  canonical : Canonical v
  container : v.container = true
  height : v.height ≤ maxCanonicalDepth
  bytes : raw = ofRunes v.render

theorem canonicalJSON_goValue (h : Canonical v) (hcontainer : v.container = true) :
    canonicalJSON (goValue v) true = rendered 0 v := by
  rw [canonicalJSON, goValue_container, hcontainer, append_goValue v h]
  rfl

theorem no_byteOrderMark (h : v.container = true) : ¬ byteOrderMark <+: ofRunes v.render := by
  rintro ⟨rest, heq⟩
  cases v with
  | array items | object fields => exact absurd (List.cons.inj heq).1 (by decide)
  | _ => cases h

variable {raw : GoString} {maximumBytes : Int}

theorem parseCanonical_ok :
    parseCanonical raw true maximumBytes = .ok g ↔
      withinLimit maximumBytes raw ∧ ∃ v, TextOf raw v ∧ g = goValue v := by
  simp only [parseCanonical, bind_ok, require_ok, mapError_ok]
  constructor
  · rintro ⟨_, hlimit, _, _, _, _, t, _, value, hvalue, _, hcontainer, canonical, hcanonical, _,
      hraw, h⟩
    cases h
    obtain ⟨v, hv, hfits, rfl⟩ := parseJSONValue_ok t hvalue
    rw [goValue_container] at hcontainer
    have hopen : v.container = true := hcontainer.resolve_left (by simp)
    rw [canonicalJSON_goValue hv hopen, rendered, if_pos hfits] at hcanonical
    refine ⟨hlimit, v, ⟨hv, hopen, by omega, ?_⟩, rfl⟩
    rw [hraw, ← Except.ok.inj hcanonical]
  · rintro ⟨hlimit, v, ⟨hv, hopen, hheight, hraw⟩, rfl⟩
    have hfits : 0 + v.height ≤ maxCanonicalDepth := by omega
    refine ⟨(), hlimit, (), ?_, (), ?_, v.tree, ?_, goValue v, parseJSONValue_tree v 0 hv hfits,
      (), .inr (by rw [goValue_container, hopen]), raw, ?_, (), rfl, rfl⟩
    · rw [hraw]
      exact validString_ofRunes v.render
    · rw [hraw]
      exact no_byteOrderMark hopen
    · rw [hraw, runes_ofRunes]
      exact parseText_render v
    · rw [canonicalJSON_goValue hv hopen, rendered, if_pos hfits, hraw]

theorem textOf_of_rendered (hv : Canonical v) (hcontainer : v.container = true)
    (h : rendered 0 v = .ok raw) : TextOf raw v := by
  rw [rendered] at h
  by_cases hfits : 0 + v.height ≤ maxCanonicalDepth
  · rw [if_pos hfits] at h
    exact ⟨hv, hcontainer, by omega, (Except.ok.inj h).symm⟩
  · rw [if_neg hfits] at h
    cases h

theorem textOf_of_canonicalJSON (hg : g.wellFormed = true) (h : canonicalJSON g true = .ok raw) :
    ∃ v, TextOf raw v ∧ g.normal = goValue v := by
  simp only [canonicalJSON, bind_ok, require_ok] at h
  obtain ⟨_, hroot, hencode⟩ := h
  obtain ⟨v, hv⟩ := denotes_of_canonical g hg hencode
  have hcontainer : v.container = true := by
    have hnormal : g.normal.container = g.container := by cases g <;> rfl
    rw [← goValue_container, ← hv.2, hnormal]
    exact hroot.resolve_left (by simp)
  rw [hv.canonical] at hencode
  exact ⟨v, textOf_of_rendered hv.1 hcontainer hencode, hv.2⟩

theorem parseCanonical_of_canonicalJSON (hg : g.wellFormed = true)
    (h : canonicalJSON g true = .ok raw) (hlimit : withinLimit maximumBytes raw) :
    parseCanonical raw true maximumBytes = .ok g.normal := by
  obtain ⟨v, htext, hnormal⟩ := textOf_of_canonicalJSON hg h
  exact parseCanonical_ok.mpr ⟨hlimit, v, htext, hnormal⟩

end WorldTransition
