import TrillionniumGame.Runtime.WorldTransition.Restore
import TrillionniumGame.Runtime.WorldTransitionV1.RoundTrip

namespace WorldTransitionV1
open Checks GoJson GoText JsonText
open WorldTransition (bytesLess Canonical nameLess AuthorityContext identifierPattern hex64Pattern
  GoAny)

def SameText (g : GoString) (p : PyString) : Prop := ∃ cs, g = ofRunes cs ∧ p = codes cs

theorem codes_inj {cs ds : List Char} (h : codes cs = codes ds) : cs = ds := by
  rw [← map_ofNat_codes cs, h, map_ofNat_codes]

namespace SameText

variable {a b : GoString} {p q : PyString}

theorem eq_iff (ha : SameText a p) (hb : SameText b q) : a = b ↔ p = q := by
  obtain ⟨cs, rfl, rfl⟩ := ha
  obtain ⟨ds, rfl, rfl⟩ := hb
  exact ⟨fun h => congrArg codes (ofRunes_inj h), fun h => congrArg ofRunes (codes_inj h)⟩

theorem literal (s : String) : SameText (str s) (ascii s) := by
  refine ⟨s.toList, ?_, rfl⟩
  rw [← str_ofList, String.ofList_toList]

theorem append (ha : SameText a p) (hb : SameText b q) : SameText (a ++ b) (p ++ q) := by
  obtain ⟨cs, rfl, rfl⟩ := ha
  obtain ⟨ds, rfl, rfl⟩ := hb
  exact ⟨cs ++ ds, List.flatMap_append.symm, List.map_append.symm⟩

variable {g : GoString}

theorem encode (h : SameText g p) : encodeUtf8 p = .ok g := by
  obtain ⟨cs, rfl, rfl⟩ := h
  refine bind_ok.mpr ⟨(), require_ok.mpr (encodable_codes cs), ?_⟩
  rw [utf8_codes]
  rfl

theorem of_ascii (h : ∀ b ∈ g, b.toNat < 0x80) : SameText g (g.map UInt8.toNat) := by
  induction g with
  | nil => exact ⟨[], rfl, rfl⟩
  | cons b rest ih =>
    rw [List.forall_mem_cons] at h
    obtain ⟨cs, hcs, hcodes⟩ := ih h.2
    refine ⟨Char.ofNat b.toNat :: cs, ?_, ?_⟩
    · rw [ofRunes, List.flatMap_cons, encode_ascii h.1]
      exact congrArg (b :: ·) hcs
    · have hvalid : b.toNat.isValidChar := .inl (by omega)
      rw [List.map_cons, hcodes, codes, codes, List.map_cons, toNat_ofNat hvalid]

theorem ascii_char {c : Char} (h : ∀ b ∈ String.utf8EncodeChar c, b.toNat < 0x80) :
    c.toNat < 0x80 := by
  have hdecode := decodeRune_encode c []
  rw [List.append_nil] at hdecode
  cases hbytes : String.utf8EncodeChar c with
  | nil =>
    rw [hbytes] at hdecode
    cases hdecode
  | cons b rest =>
    rw [hbytes] at h hdecode
    have hb := h b (by simp)
    rw [decodeRune, if_pos hb] at hdecode
    have hvalid : b.toNat.isValidChar := .inl (by omega)
    rw [← Option.some.inj hdecode, toNat_ofNat hvalid]
    exact hb

theorem bytes_ascii (h : SameText g p) (hp : ∀ n ∈ p, n < 0x80) : p = g.map UInt8.toNat := by
  obtain ⟨cs, rfl, rfl⟩ := h
  induction cs with
  | nil => rfl
  | cons c cs ih =>
    rw [codes, List.map_cons, List.forall_mem_cons] at hp
    have hbyte : (UInt8.ofNat c.toNat).toNat = c.toNat := by
      rw [UInt8.toNat_ofNat']
      omega
    have hchar := @encode_ascii (UInt8.ofNat c.toNat) (by omega)
    rw [hbyte, Char.ofNat_toNat] at hchar
    rw [ofRunes, List.flatMap_cons, hchar, codes, List.map_cons, List.singleton_append,
      List.map_cons, hbyte]
    exact congrArg (c.toNat :: ·) (ih hp.2)

theorem codes_ascii (h : SameText g p) (hg : ∀ b ∈ g, b.toNat < 0x80) : p = g.map UInt8.toNat := by
  refine bytes_ascii h ?_
  obtain ⟨cs, rfl, rfl⟩ := h
  intro n hn
  obtain ⟨c, hc, rfl⟩ := List.mem_map.mp hn
  exact ascii_char fun b hb => hg b (List.mem_flatMap.mpr ⟨c, hc, hb⟩)

theorem test_eq {P : GoString → Bool} {Q : PyString → Bool}
    (hP : ∀ {g}, P g = true → ∀ b ∈ g, b.toNat < 0x80)
    (hQ : ∀ {p}, Q p = true → ∀ n ∈ p, n < 0x80) (hsame : ∀ g, Q (g.map UInt8.toNat) = P g)
    (h : SameText g p) : P g = Q p := by
  refine Bool.eq_iff_iff.mpr ⟨fun hg => ?_, fun hp => ?_⟩
  · rw [h.codes_ascii (hP hg), hsame]
    exact hg
  · rw [h.bytes_ascii (hQ hp), hsame] at hp
    exact hp

theorem identifier_eq (h : SameText g p) : identifierPattern g = identifier p := by
  refine test_eq (fun hg b hb => ?_) (fun hp n hn => ?_) (fun g => ?_) h
  · exact (WorldTransition.portable_identifier hg).1.ascii b hb
  · simp only [identifier, Bool.and_eq_true, List.all_eq_true] at hp
    have hcode := hp.1.1 n hn
    simp only [identifierCode, Bool.or_eq_true, Bool.and_eq_true, decide_eq_true_eq] at hcode
    rcases hcode with ((hrange | hrange) | hrange) | hmem
    · omega
    · omega
    · omega
    · have hall : ∀ n ∈ ascii "._:/+@-", n < 0x80 := by decide
      exact hall n hmem
  · have hcode : ∀ b : UInt8, identifierCode b.toNat = WorldTransition.identifierByte b := by
      exact forall_byte (by decide +kernel)
    rw [identifier, identifierPattern, List.all_map, List.length_map]
    exact congrArg (fun x => x && decide (1 ≤ g.length) && decide (g.length ≤ 160))
      (congrArg g.all (funext hcode))

theorem hex64_eq (h : SameText g p) : hex64Pattern g = hex64 p := by
  refine test_eq (fun hg b hb => ?_) (fun hp n hn => ?_) (fun g => ?_) h
  · exact (WorldTransition.portable_hex64 hg).1.ascii b hb
  · simp only [hex64, Bool.and_eq_true, List.all_eq_true, decide_eq_true_eq] at hp
    have hall : ∀ n ∈ ascii "0123456789abcdef", n < 0x80 := by decide
    exact hall n (hp.1 n hn)
  · have hdigit : ∀ b : UInt8, decide (b.toNat ∈ ascii "0123456789abcdef") =
        decide (b ∈ str "0123456789abcdef") := by
      unfold ascii
      rw [String.toList_ofList, str_ofList]
      exact forall_byte (by decide +kernel)
    rw [hex64, hex64Pattern, List.all_map, List.length_map]
    exact congrArg (fun x => x && decide (g.length = 64)) (congrArg g.all (funext hdigit))

end SameText

theorem go_itemsAuthorityFree (items : List GoAny) : WorldTransition.itemsAuthorityFree items =
    items.all WorldTransition.authorityFree := by
  induction items with
  | nil => rfl
  | cons item rest ih => exact congrArg (WorldTransition.authorityFree item && ·) ih

theorem go_fieldsAuthorityFree (fields : List (GoString × GoAny)) :
    WorldTransition.fieldsAuthorityFree fields = fields.all fun field =>
      field.1 ∉ WorldTransition.forbiddenAuthorityKeys &&
        WorldTransition.authorityFree field.2 := by
  induction fields with
  | nil => rfl
  | cons field rest ih => exact congrArg (_ && ·) ih

theorem itemsAuthorityFree_eq (items : List PyValue) :
    itemsAuthorityFree items = items.all authorityFree := by
  induction items with
  | nil => rfl
  | cons item rest ih => exact congrArg (authorityFree item && ·) ih

theorem fieldsAuthorityFree_eq (items : List (PyString × PyValue)) :
    fieldsAuthorityFree items = items.all fun item =>
      item.1 ∉ forbiddenWorldAuthorityKeys && authorityFree item.2 := by
  induction items with
  | nil => rfl
  | cons item rest ih => exact congrArg (_ && ·) ih

theorem all_congr {α : Type} {xs : List α} {p q : α → Bool} (h : ∀ x ∈ xs, p x = q x) :
    xs.all p = xs.all q := by
  induction xs with
  | nil => rfl
  | cons x xs ih =>
    rw [List.forall_mem_cons] at h
    rw [List.all_cons, List.all_cons, h.1, ih h.2]

theorem go_authorityFree_normal (g : GoAny) :
    WorldTransition.authorityFree g.normal = WorldTransition.authorityFree g := by
  induction g using GoAny.children with
  | leaf g hleaf =>
    cases g with
    | array | object => cases hleaf
    | _ => rfl
  | array items ih =>
    rw [GoAny.normal, WorldTransition.authorityFree, WorldTransition.authorityFree,
      WorldTransition.normalItems_eq, go_itemsAuthorityFree, go_itemsAuthorityFree, List.all_map]
    exact all_congr ih
  | object fields ih =>
    rw [GoAny.normal, WorldTransition.authorityFree, WorldTransition.authorityFree,
      go_fieldsAuthorityFree, go_fieldsAuthorityFree,
      (WorldTransition.sortFields_perm _).all_eq, WorldTransition.normalFields_eq, List.all_map]
    exact all_congr fun field hfield => congrArg (_ && ·) (ih field hfield)

theorem authorityFree_normal (p : PyValue) : authorityFree p.normal = authorityFree p := by
  induction p using PyValue.children with
  | leaf p hleaf =>
    cases p with
    | list | dict => cases hleaf
    | _ => rfl
  | list items ih =>
    rw [PyValue.normal, authorityFree, authorityFree, normalItems_eq, itemsAuthorityFree_eq,
      itemsAuthorityFree_eq, List.all_map]
    exact all_congr ih
  | dict items ih =>
    rw [PyValue.normal, authorityFree, authorityFree, fieldsAuthorityFree_eq,
      fieldsAuthorityFree_eq, (sortItems_perm _).all_eq, normalFields_eq, List.all_map]
    exact all_congr fun item hitem => congrArg (_ && ·) (ih item hitem)

theorem mem_literals {names : List String} {g : GoString} {p : PyString} (h : SameText g p) :
    g ∈ names.map str ↔ p ∈ names.map ascii := by
  rw [List.mem_map, List.mem_map]
  refine exists_congr fun name => and_congr_right fun _ => ?_
  rw [eq_comm, h.eq_iff (.literal name), eq_comm]

def forbiddenNames : List String :=
  ["nakama_session_token", "nakama_private_key", "match_authority_private_key",
    "canonical_archive_root", "chain_finality", "chain_app_hash", "match_completed_v1",
    "participant_admission_receipt", "global_event_cursor", "participant_roster",
    "participant_roles", "completion_signature", "authority_key_id", "wallet_balance"]

theorem forbidden_iff {g : GoString} {p : PyString} (h : SameText g p) :
    g ∈ WorldTransition.forbiddenAuthorityKeys ↔ p ∈ forbiddenWorldAuthorityKeys :=
  @mem_literals forbiddenNames g p h

theorem authorityFree_value (v : Value) :
    WorldTransition.authorityFree (WorldTransition.goValue v) = authorityFree (pyValue v) := by
  induction v using Value.children with
  | leaf v hleaf =>
    cases v with
    | array | object => cases hleaf
    | _ => rfl
  | array items ih =>
    rw [WorldTransition.goValue, pyValue, WorldTransition.authorityFree, authorityFree,
      go_itemsAuthorityFree, itemsAuthorityFree_eq, WorldTransition.goItems_eq, pyItems_eq,
      List.all_map, List.all_map]
    exact all_congr ih
  | object fields ih =>
    rw [WorldTransition.goValue, pyValue, WorldTransition.authorityFree, authorityFree,
      go_fieldsAuthorityFree, fieldsAuthorityFree_eq, WorldTransition.goFields_eq, pyFields_eq,
      List.all_map, List.all_map]
    refine all_congr fun field hfield => ?_
    have hname : ofRunes field.1 ∈ WorldTransition.forbiddenAuthorityKeys ↔
        codes field.1 ∈ forbiddenWorldAuthorityKeys := forbidden_iff ⟨field.1, rfl, rfl⟩
    exact congrArg₂ (· && ·) (decide_eq_decide.mpr (not_congr hname)) (ih field hfield)

def SameValue (g : GoAny) (p : PyValue) : Prop := ∃ v, WorldTransition.Denotes g v ∧ Denotes p v

def SameField (g : GoString × GoAny) (p : PyString × PyValue) : Prop :=
  SameText g.1 p.1 ∧ SameValue g.2 p.2

def sortNames (fields : List (List Char × Value)) : List (List Char × Value) :=
  fields.insertionSort fun a b => bytesLess (ofRunes b.1) (ofRunes a.1) = false

theorem sortNames_perm (fields : List (List Char × Value)) : (sortNames fields).Perm fields :=
  List.perm_insertionSort _ fields

namespace SameValue

theorem text {g : GoString} {p : PyString} (h : SameText g p) : SameValue (.text g) (.str p) := by
  obtain ⟨cs, rfl, rfl⟩ := h
  refine ⟨.text cs, ⟨trivial, ?_⟩, trivial, rfl⟩
  rw [GoAny.normal, runes_ofRunes]
  rfl

theorem int {n : Int} (h : -9223372036854775808 ≤ n ∧ n ≤ 9223372036854775807) :
    SameValue (.int n) (.int n) := ⟨.int n, ⟨h, rfl⟩, h, rfl⟩

variable {g : GoAny} {p : PyValue}

theorem authority_eq (h : SameValue g p) : WorldTransition.authorityFree g = authorityFree p := by
  obtain ⟨v, hg, hp⟩ := h
  rw [← go_authorityFree_normal, ← authorityFree_normal, hg.2, hp.2, authorityFree_value]

variable {gs : List (GoString × GoAny)} {ps : List (PyString × PyValue)}

theorem fields (h : List.Forall₂ SameField gs ps) : ∃ vs : List (List Char × Value),
      WorldTransition.normalFields gs = WorldTransition.goFields vs ∧
        normalFields ps = pyFields vs ∧ WorldTransition.FieldsCanonical vs := by
  induction h with
  | nil => exact ⟨[], rfl, rfl, trivial⟩
  | @cons g p gs ps hhead _ ih =>
    obtain ⟨⟨cs, hgname, hpname⟩, v, hg, hp⟩ := hhead
    obtain ⟨vs, hgs, hps, hcanonical⟩ := ih
    refine ⟨(cs, v) :: vs, ?_, ?_, hg.1, hcanonical⟩
    · rw [WorldTransition.normalFields, WorldTransition.goFields, hgs, hgname, hg.2]
    · rw [normalFields, pyFields, hps, hpname, hp.2]

theorem items {gs : List GoAny} {ps : List PyValue} (h : List.Forall₂ SameValue gs ps) :
    ∃ vs : List Value, WorldTransition.normalItems gs = WorldTransition.goItems vs ∧
      normalItems ps = pyItems vs ∧ WorldTransition.ItemsCanonical vs := by
  induction h with
  | nil => exact ⟨[], rfl, rfl, trivial⟩
  | cons hhead _ ih =>
    obtain ⟨v, hg, hp⟩ := hhead
    obtain ⟨vs, hgs, hps, hcanonical⟩ := ih
    refine ⟨v :: vs, ?_, ?_, hg.1, hcanonical⟩
    · rw [WorldTransition.normalItems, WorldTransition.goItems, hgs, hg.2]
    · rw [normalItems, pyItems, hps, hp.2]

theorem array {gs : List GoAny} {ps : List PyValue} (h : List.Forall₂ SameValue gs ps) :
    SameValue (.array gs) (.list ps) := by
  obtain ⟨vs, hgs, hps, hcanonical⟩ := items h
  refine ⟨.array vs, ⟨hcanonical, ?_⟩, hcanonical, ?_⟩
  · rw [GoAny.normal, hgs, WorldTransition.goValue]
  · rw [PyValue.normal, hps, pyValue]

theorem object (h : List.Forall₂ SameField gs ps) (hnames : (gs.map (·.1)).Nodup) :
    SameValue (.object gs) (.dict ps) := by
  obtain ⟨vs, hgs, hps, hcanonical⟩ := fields h
  have hgo : WorldTransition.sortFields (WorldTransition.goFields vs) =
      WorldTransition.goFields (sortNames vs) := by
    rw [WorldTransition.goFields_eq, WorldTransition.goFields_eq]
    exact (List.map_insertionSort _ _ (Prod.map ofRunes WorldTransition.goValue) vs
      fun _ _ _ _ => Iff.rfl).symm
  have hpython : sortItems (pyFields vs) = pyFields (sortNames vs) := by
    rw [pyFields_eq, pyFields_eq]
    refine (List.map_insertionSort _ _ (Prod.map codes pyValue) vs fun a _ b _ => ?_).symm
    rw [Prod.map_fst, Prod.map_fst, utf8_codes, utf8_codes]
  have hascending : ((sortNames vs).map (·.1)).Pairwise nameLess := by
    have hnodup : ((WorldTransition.goFields vs).map (·.1)).Nodup := by
      rw [← hgs, WorldTransition.normalFields_eq, List.map_map]
      exact hnames
    have hsorted := WorldTransition.sortFields_ascending hnodup
    rw [hgo, WorldTransition.goFields_eq] at hsorted
    exact List.pairwise_map.mpr ((List.pairwise_map.mp hsorted).imp fun hlt => hlt)
  have hvalues : WorldTransition.FieldsCanonical (sortNames vs) := by
    rw [WorldTransition.fieldsCanonical_iff] at hcanonical ⊢
    exact fun field hfield => hcanonical field ((sortNames_perm vs).mem_iff.mp hfield)
  refine ⟨.object (sortNames vs), ⟨⟨hascending, hvalues⟩, ?_⟩, ⟨hascending, hvalues⟩, ?_⟩
  · rw [GoAny.normal, hgs, hgo, WorldTransition.goValue]
  · rw [PyValue.normal, hps, hpython, pyValue]

theorem container_eq (h : SameValue g p) : g.container = p.container := by
  obtain ⟨v, hg, hp⟩ := h
  have hgo : g.normal.container = g.container := by cases g <;> rfl
  have hpy : p.normal.container = p.container := by cases p <;> rfl
  rw [← hgo, ← hpy, hg.2, hp.2, WorldTransition.goValue_container, pyValue_container]

theorem encode (h : SameValue g p) :
    (WorldTransition.appendCanonical 0 g = .error WorldTransition.depthError ∧
      encode 0 p = .error depthError) ∨
    ∃ cs, WorldTransition.appendCanonical 0 g = .ok (ofRunes cs) ∧ encode 0 p = .ok (codes cs) := by
  obtain ⟨v, hg, hp⟩ := h
  rw [hg.canonical, hp.encode]
  by_cases hfits : 0 + v.height ≤ maxCanonicalDepth
  · exact .inr ⟨v.render, if_pos hfits, if_pos hfits⟩
  · exact .inl ⟨if_neg hfits, if_neg hfits⟩

theorem canonical (h : SameValue g p) (rootContainer : Bool) :
    Agree SameText (WorldTransition.canonicalJSON g rootContainer)
      (canonicalDumps p rootContainer) := by
  refine (Agree.require _ _ (by rw [h.container_eq])).bind fun _ _ _ _ _ => ?_
  rcases h.encode with ⟨hgo, hpython⟩ | ⟨cs, hgo, hpython⟩
  · rw [hgo, hpython]
    exact .failed _ _
  · rw [hgo, hpython]
    exact .agreed ⟨cs, rfl, rfl⟩

end SameValue

mutual

def JsonValue : Value → Prop
  | .int value => -9223372036854775808 ≤ value ∧ value ≤ 9223372036854775807
  | .array items => JsonItems items
  | .object fields => (fields.map (·.1)).Nodup ∧ JsonFields fields
  | _ => True

def JsonItems : List Value → Prop
  | [] => True
  | item :: rest => JsonValue item ∧ JsonItems rest

def JsonFields : List (List Char × Value) → Prop
  | [] => True
  | (_, value) :: rest => JsonValue value ∧ JsonFields rest

end

theorem items_same {items : List Value}
    (h : ∀ item ∈ items, JsonValue item → SameValue (WorldTransition.goValue item) (pyValue item))
    (hitems : JsonItems items) :
    List.Forall₂ SameValue (WorldTransition.goItems items) (pyItems items) := by
  induction items with
  | nil => exact .nil
  | cons item rest ih =>
    rw [List.forall_mem_cons] at h
    exact .cons (h.1 hitems.1) (ih h.2 hitems.2)

theorem fields_same {fields : List (List Char × Value)}
    (h : ∀ field ∈ fields, JsonValue field.2 →
      SameValue (WorldTransition.goValue field.2) (pyValue field.2))
    (hfields : JsonFields fields) :
    List.Forall₂ SameField (WorldTransition.goFields fields) (pyFields fields) := by
  induction fields with
  | nil => exact .nil
  | cons field rest ih =>
    rw [List.forall_mem_cons] at h
    exact .cons ⟨⟨field.1, rfl, rfl⟩, h.1 hfields.1⟩ (ih h.2 hfields.2)

theorem JsonValue.same (v : Value) (h : JsonValue v) :
    SameValue (WorldTransition.goValue v) (pyValue v) := by
  induction v using Value.children with
  | leaf v hleaf =>
    cases v with
    | array | object => cases hleaf
    | null => exact ⟨.null, ⟨trivial, rfl⟩, trivial, rfl⟩
    | bool value => exact ⟨.bool value, ⟨trivial, rfl⟩, trivial, rfl⟩
    | int value => exact .int h
    | text chars => exact .text ⟨chars, rfl, rfl⟩
  | array items ih => exact .array (items_same ih h)
  | object fields ih =>
    refine .object (fields_same ih h.2) ?_
    have hinjective : Function.Injective ofRunes := fun _ _ => ofRunes_inj
    have hnodup := h.1.map hinjective
    rw [List.map_map] at hnodup
    rw [WorldTransition.goFields_eq, List.map_map]
    exact hnodup

structure HashDomain (g : GoString) (p : PyString) : Prop where
  same : SameText g p
  go : (g ≠ [] ∧ validString g = true) ∧ ∀ r ∈ runes g, r.toNat ≤ 0x7f ∧ r ≠ '\n' ∧ r ≠ '\r'
  python : p ≠ [] ∧ (∀ n ∈ p, n < 0x80) ∧ 0x0a ∉ p

theorem requestHashDomain_same : HashDomain WorldTransition.requestHashDomain requestHashDomain :=
  ⟨.literal _, by decide, by decide⟩

theorem transitionIdDomain_same : HashDomain WorldTransition.transitionIDDomain transitionIdDomain :=
  ⟨.literal _, by decide, by decide⟩

theorem commandIdDomain_same : HashDomain WorldTransition.commandIDDomain commandIdDomain :=
  ⟨.literal _, by decide, by decide⟩

structure SameContext (g : AuthorityContext) (p : NakamaAuthorityContext) : Prop where
  matchId : SameText g.matchID p.matchId
  authorizationId : SameText g.authorizationID p.authorizationId
  participantRosterHash : SameText g.participantRosterHash p.participantRosterHash
  matchVersion : p.matchVersion = g.matchVersion.toInt
  globalEventSequence : p.globalEventSequence = g.globalEventSequence.toInt
  commandIdempotencyKey : SameText g.commandIdempotencyKey p.commandIdempotencyKey
  rulesetRevision : SameText g.rulesetRevision p.rulesetRevision
  contentRevision : SameText g.contentRevision p.contentRevision
  expectedTick : p.expectedTick = g.expectedTick.toInt

variable {s t : PyString} {label : String}

theorem identifier_ok : requireIdentifier (.str s) label = .ok t ↔ identifier s = true ∧ s = t := by
  simp only [requireIdentifier, bind_ok, require_ok, exists_const]
  exact and_congr_right fun _ => ⟨Except.ok.inj, congrArg Except.ok⟩

theorem hex64_ok : requireHex64 (.str s) label = .ok t ↔ hex64 s = true ∧ s = t := by
  simp only [requireHex64, bind_ok, require_ok, exists_const]
  exact and_congr_right fun _ => ⟨Except.ok.inj, congrArg Except.ok⟩

variable {m : Int}

theorem i64_ok {n : Int} :
    requireI64Nonnegative (.int m) label = .ok n ↔ (0 ≤ m ∧ m ≤ maxI64) ∧ m = n := by
  simp only [requireI64Nonnegative, bind_ok, require_ok, exists_const]
  exact and_congr_right fun _ => ⟨Except.ok.inj, congrArg Except.ok⟩

theorem validate_ok {c : NakamaAuthorityContext} {u : Unit} : c.validate = .ok u ↔
    (identifier c.matchId = true ∧ identifier c.authorizationId = true ∧
      identifier c.commandIdempotencyKey = true ∧ identifier c.rulesetRevision = true ∧
      identifier c.contentRevision = true ∧ hex64 c.participantRosterHash = true) ∧
    (0 ≤ c.matchVersion ∧ c.matchVersion ≤ maxI64) ∧
    (0 ≤ c.globalEventSequence ∧ c.globalEventSequence ≤ maxI64) ∧
    (0 ≤ c.expectedTick ∧ c.expectedTick ≤ maxI64) := by
  simp only [NakamaAuthorityContext.validate, bind_ok, identifier_ok, hex64_ok, i64_ok]
  constructor
  · rintro ⟨_, ⟨h1, _⟩, _, ⟨h2, _⟩, _, ⟨h3, _⟩, _, ⟨h4, _⟩, _, ⟨h5, _⟩, _, ⟨h6, _⟩, _, ⟨h7, _⟩, _,
      ⟨h8, _⟩, _, ⟨h9, _⟩, _⟩
    exact ⟨⟨h1, h2, h6, h7, h8, h3⟩, h4, h5, h9⟩
  · rintro ⟨⟨h1, h2, h6, h7, h8, h3⟩, h4, h5, h9⟩
    exact ⟨_, ⟨h1, rfl⟩, _, ⟨h2, rfl⟩, _, ⟨h3, rfl⟩, _, ⟨h4, rfl⟩, _, ⟨h5, rfl⟩, _, ⟨h6, rfl⟩, _,
      ⟨h7, rfl⟩, _, ⟨h8, rfl⟩, _, ⟨h9, rfl⟩, rfl⟩

theorem int64_range (n : Int64) :
    -9223372036854775808 ≤ n.toInt ∧ n.toInt ≤ 9223372036854775807 := by
  have hlt := n.toInt_lt
  have hle := n.le_toInt
  omega

theorem counter_iff {n : Int64} (h : m = n.toInt) : 0 ≤ n ↔ 0 ≤ m ∧ m ≤ maxI64 := by
  have hrange := int64_range n
  rw [Int64.le_iff_toInt_le, h, maxI64]
  exact ⟨fun hn => ⟨hn, by omega⟩, fun hn => hn.1⟩

theorem SameValue.int64 (n : Int64) (h : m = n.toInt) : SameValue (.int n.toInt) (.int m) := by
  rw [h]
  exact .int (int64_range n)

theorem bindingNames_nodup : [str "authorization_id", str "command_idempotency_key",
    str "content_revision", str "expected_tick", str "global_event_sequence", str "match_id",
    str "match_version", str "participant_roster_hash", str "ruleset_revision"].Nodup := by
  decide

theorem payloadNames_nodup : WorldTransition.payloadFields.Nodup := by decide

theorem commandNames_nodup : WorldTransition.commandFields.Nodup := by decide

theorem requestFields_nodup : WorldTransition.requestFields.Nodup := by decide

namespace SameContext
variable {g : AuthorityContext} {p : NakamaAuthorityContext}

theorem validate (h : SameContext g p) : Agree (fun _ _ => True) g.validate p.validate := by
  have hiff : g.validate = .ok () ↔ p.validate = .ok () := by
    rw [WorldTransition.validate_ok, validate_ok, h.matchId.identifier_eq,
      h.authorizationId.identifier_eq, h.commandIdempotencyKey.identifier_eq,
      h.rulesetRevision.identifier_eq, h.contentRevision.identifier_eq,
      h.participantRosterHash.hex64_eq, counter_iff h.matchVersion,
      counter_iff h.globalEventSequence, counter_iff h.expectedTick]
  exact .of_ok ⟨fun hg => ⟨(), hiff.mp hg.choose_spec⟩, fun hp => ⟨(), hiff.mpr hp.choose_spec⟩⟩
    fun _ _ _ _ => trivial

theorem material (h : SameContext g p) : SameValue g.material p.material := by
  refine .object ?_ bindingNames_nodup
  refine .cons ⟨.literal _, .text h.authorizationId⟩ ?_
  refine .cons ⟨.literal _, .text h.commandIdempotencyKey⟩ ?_
  refine .cons ⟨.literal _, .text h.contentRevision⟩ ?_
  refine .cons ⟨.literal _, .int64 _ h.expectedTick⟩ ?_
  refine .cons ⟨.literal _, .int64 _ h.globalEventSequence⟩ ?_
  refine .cons ⟨.literal _, .text h.matchId⟩ ?_
  refine .cons ⟨.literal _, .int64 _ h.matchVersion⟩ ?_
  refine .cons ⟨.literal _, .text h.participantRosterHash⟩ ?_
  exact .cons ⟨.literal _, .text h.rulesetRevision⟩ .nil

theorem binding (h : SameContext g p) : Agree SameText g.binding p.canonicalAuthorityBinding :=
  h.validate.bind fun _ _ _ _ _ => h.material.canonical false

end SameContext

variable (sha256 : GoString → Vector UInt8 32)

theorem sha256Hex_same (payload : GoString) :
    SameText (WorldTransition.sha256Hex sha256 payload) (sha256Hex sha256 payload) :=
  .of_ascii (WorldTransition.portable_hash payload).1.ascii

variable {d c : GoString} {d' c' : PyString}

theorem HashDomain.hash (hd : HashDomain d d') (hc : SameText c c') :
    ∃ g p, WorldTransition.domainHash sha256 d c = .ok g ∧
      domainHash sha256 d' c' = .ok p ∧
        (∀ n, SameText (g.take n) (p.take n)) ∧ SameText g p := by
  obtain ⟨cs, hcs, hcodes⟩ := hd.same
  have hutf8 : utf8 d' = d := by rw [hcodes, utf8_codes, hcs]
  refine ⟨_, _, bind_ok.mpr ⟨(), require_ok.mpr hd.go.1, bind_ok.mpr ⟨(), require_ok.mpr hd.go.2,
    rfl⟩⟩, bind_ok.mpr ⟨(), require_ok.mpr hd.python, bind_ok.mpr ⟨_, hc.encode, rfl⟩⟩,
    fun n => ?_, ?_⟩
  · rw [hutf8, sha256Hex, ← List.map_take]
    exact .of_ascii fun b hb => (WorldTransition.portable_hash _).1.ascii b (List.mem_of_mem_take hb)
  · rw [hutf8]
    exact sha256Hex_same sha256 _

theorem opaqueIdentifier_same (head : String) (hd : HashDomain d d') (hc : SameText c c') :
    Agree SameText (WorldTransition.opaqueIdentifier sha256 (str head) d c)
      (opaqueIdentifier sha256 (ascii head) d' c') := by
  obtain ⟨g, p, hg, hp, htake, _⟩ := hd.hash sha256 hc
  rw [WorldTransition.opaqueIdentifier, opaqueIdentifier, hg, hp]
  exact .agreed ((SameText.literal head).append (htake 48))

theorem domainHash_same (hd : HashDomain d d') (hc : SameText c c') :
    Agree SameText (WorldTransition.domainHash sha256 d c) (domainHash sha256 d' c') := by
  obtain ⟨g, p, hg, hp, _, hsame⟩ := hd.hash sha256 hc
  rw [hg, hp]
  exact .agreed hsame

structure SamePayload (g : WorldTransition.CanonicalPayload) (p : CanonicalPayload) : Prop where
  schemaId : SameText g.schemaID p.schemaId
  value : SameValue g.value p.canonicalJson
  sha256 : SameText g.sha256 p.sha256
  bytes : g.canonicalJSON = p.canonicalBytes

theorem SamePayload.wire {g : WorldTransition.CanonicalPayload} {p : CanonicalPayload}
    (h : SamePayload g p) : SameValue g.wire p.toWire := by
  refine .object ?_ payloadNames_nodup
  refine .cons ⟨.literal _, h.value⟩ ?_
  refine .cons ⟨.literal _, .text h.schemaId⟩ ?_
  exact .cons ⟨.literal _, .text h.sha256⟩ .nil

theorem requireIdentifier_same {g : GoString} {p : PyString} (h : SameText g p) (label : String) :
    Agree (fun _ s => s = p) (WorldTransition.requireIdentifier g label)
      (requireIdentifier (.str p) label) := by
  refine .of_ok ⟨?_, ?_⟩ fun _ s _ hs => (identifier_ok.mp hs).2.symm
  · rintro ⟨u, hu⟩
    exact ⟨p, identifier_ok.mpr ⟨h.identifier_eq ▸ WorldTransition.identifier_ok.mp hu, rfl⟩⟩
  · rintro ⟨s, hs⟩
    exact ⟨(), WorldTransition.identifier_ok.mpr (h.identifier_eq ▸ (identifier_ok.mp hs).1)⟩

variable {g : GoAny} {p : PyValue}

theorem fromValue_same {schemaID : GoString} {schemaId : PyString} (hvalue : SameValue g p)
    (hschema : SameText schemaID schemaId) (maximumBytes : Nat) (label : String) :
    Agree SamePayload (WorldTransition.newCanonicalPayload sha256 g schemaID maximumBytes label)
      (CanonicalPayload.fromValue sha256 p schemaId maximumBytes label) := by
  refine (requireIdentifier_same hschema _).bind fun _ _ _ _ _ => ?_
  refine (Agree.require _ _ (by rw [hvalue.authority_eq])).bind fun _ _ _ _ _ => ?_
  refine ((hvalue.canonical true).mapError _).bind fun canonical text _ _ hbytes => ?_
  rw [hbytes.encode]
  refine (Agree.require _ _ Iff.rfl).bind fun _ _ _ _ _ => ?_
  exact .agreed ⟨hschema, hvalue, sha256Hex_same sha256 canonical, rfl⟩

structure SamePrepared (g : WorldTransition.Prepared) (p : PreparedWorldTransition) : Prop where
  context : SameContext g.context p.context
  canonicalRequest : SameText g.canonicalRequest p.canonicalRequest
  requestHash : SameText g.requestHash p.requestHash
  transitionId : SameText g.transitionID p.transitionId
  commandId : SameText g.commandID p.commandId
  previousStateHash : SameText g.previousStateHash p.previousStateHash

variable {context : AuthorityContext} {context' : NakamaAuthorityContext}

theorem request_same (hcontext : SameContext context context') {transitionID commandID : GoString}
    {transitionId commandId : PyString} (htransition : SameText transitionID transitionId)
    (hcommand : SameText commandID commandId)
    {statePayload commandPayload : WorldTransition.CanonicalPayload}
    {statePayload' commandPayload' : CanonicalPayload}
    (hstate : SamePayload statePayload statePayload')
    (hpayload : SamePayload commandPayload commandPayload') :
    SameValue (WorldTransition.requestObject context transitionID commandID statePayload
        commandPayload)
      (.dict (requestItems context' transitionId commandId statePayload' commandPayload')) := by
  refine .object ?_ requestFields_nodup
  refine .cons ⟨.literal _, .object (.cons ⟨.literal _, .text hcommand⟩
    (.cons ⟨.literal _, hpayload.wire⟩ .nil)) commandNames_nodup⟩ ?_
  refine .cons ⟨.literal _, .text hcontext.contentRevision⟩ ?_
  refine .cons ⟨.literal _, .text (.literal _)⟩ ?_
  refine .cons ⟨.literal _, .int64 _ hcontext.expectedTick⟩ ?_
  refine .cons ⟨.literal _, hstate.wire⟩ ?_
  refine .cons ⟨.literal _, .text hcontext.rulesetRevision⟩ ?_
  exact .cons ⟨.literal _, .text htransition⟩ .nil

theorem prepare_same {stateSchemaID commandSchemaID : GoString}
    {stateSchemaId commandSchemaId : PyString} {state command : GoAny} {state' command' : PyValue}
    (hcontext : SameContext context context')
    (hstateSchema : SameText stateSchemaID stateSchemaId) (hstate : SameValue state state')
    (hcommandSchema : SameText commandSchemaID commandSchemaId)
    (hcommand : SameValue command command') :
    Agree SamePrepared
      (WorldTransition.prepare sha256 context stateSchemaID state commandSchemaID command)
      (prepareWorldTransition sha256 context' stateSchemaId state' commandSchemaId command') := by
  refine hcontext.validate.bind fun _ _ _ _ _ => ?_
  refine hcontext.binding.bind fun binding binding' _ _ hbinding => ?_
  refine (opaqueIdentifier_same sha256 _ transitionIdDomain_same hbinding).bind
    fun transitionID transitionId _ _ htransition => ?_
  refine (opaqueIdentifier_same sha256 _ commandIdDomain_same hbinding).bind
    fun commandID commandId _ _ hid => ?_
  refine (fromValue_same sha256 hstate hstateSchema _ _).bind fun statePayload statePayload' _ _
    hstatePayload => ?_
  refine (fromValue_same sha256 hcommand hcommandSchema _ _).bind fun commandPayload
    commandPayload' _ _ hcommandPayload => ?_
  have hrequest := request_same hcontext htransition hid hstatePayload hcommandPayload
  have hgo : WorldTransition.requireExactObject (WorldTransition.requestObject context transitionID
      commandID statePayload commandPayload) WorldTransition.requestFields "World request" = .ok _ :=
    bind_ok.mpr ⟨(), require_ok.mpr fun _ => id, bind_ok.mpr ⟨(), require_ok.mpr fun _ hmem =>
      List.mem_map_of_mem hmem, rfl⟩⟩
  have hpython : hasFields (requestItems context' transitionId commandId statePayload'
      commandPayload') requestFields := ⟨fun _ => id, fun _ => id⟩
  have hfields : Agree (fun _ _ => True) (WorldTransition.requireExactObject
      (WorldTransition.requestObject context transitionID commandID statePayload commandPayload)
      WorldTransition.requestFields "World request")
      (require (hasFields (requestItems context' transitionId commandId statePayload'
        commandPayload') requestFields) "internal request field set drift") :=
    .of_ok ⟨fun _ => ⟨(), require_ok.mpr hpython⟩, fun _ => ⟨_, hgo⟩⟩ fun _ _ _ _ => trivial
  refine hfields.bind fun _ _ _ _ _ => ?_
  refine (hrequest.canonical true).bind fun canonical text _ _ hcanonical => ?_
  refine (domainHash_same sha256 requestHashDomain_same hcanonical).bind fun hash hash' _ _ hhash =>
    .agreed ?_
  exact ⟨hcontext, hcanonical, hhash, htransition, hid, hstatePayload.sha256⟩

def goLimit (limit : Option Nat) : Int := limit.elim (-1) Int.ofNat

theorem withinLimit_iff {limit : Option Nat} {raw : GoString} :
    WorldTransition.withinLimit (goLimit limit) raw ↔
      ∀ maximum ∈ limit.map Int.ofNat, (raw.length : Int) ≤ maximum := by
  cases limit with
  | none | some maximum => simp [goLimit, WorldTransition.withinLimit]

def SameParsed (raw : GoString) (g : GoAny) (p : PyValue) : Prop :=
  ∃ v, WorldTransition.TextOf raw v ∧ g = WorldTransition.goValue v ∧ p = pyValue v

theorem parse_same (limit : Option Nat) (raw : GoString) :
    Agree (SameParsed raw) (WorldTransition.parseCanonical raw true (goLimit limit))
      (loadsCanonical raw true (limit.map Int.ofNat)) := by
  refine .of_ok ⟨?_, ?_⟩ fun g p hg hp => ?_
  · rintro ⟨g, hg⟩
    obtain ⟨hlimit, v, htext, _⟩ := WorldTransition.parseCanonical_ok.mp hg
    exact ⟨pyValue v, loadsCanonical_ok.mpr ⟨withinLimit_iff.mp hlimit, v, htext, rfl⟩⟩
  · rintro ⟨p, hp⟩
    obtain ⟨hlimit, v, htext, _⟩ := loadsCanonical_ok.mp hp
    exact ⟨_, WorldTransition.parseCanonical_ok.mpr ⟨withinLimit_iff.mpr hlimit, v, htext, rfl⟩⟩
  · obtain ⟨hlimit, v, htext, rfl⟩ := loadsCanonical_ok.mp hp
    have hparse := WorldTransition.parseCanonical_ok.mpr ⟨withinLimit_iff.mpr hlimit, v, htext, rfl⟩
    exact ⟨v, htext, Except.ok.inj (hg.symm.trans hparse), rfl⟩

theorem dumps_same (h : SameValue g p) {rootContainer : Bool}
    (hroot : rootContainer = false ∨ g.container = true) :
    (WorldTransition.canonicalJSON g rootContainer = .error WorldTransition.depthError ∧
      canonicalDumps p rootContainer = .error depthError) ∨
    ∃ cs, WorldTransition.canonicalJSON g rootContainer = .ok (ofRunes cs) ∧
      canonicalDumps p rootContainer = .ok (codes cs) := by
  have hpython : rootContainer = false ∨ p.container = true := h.container_eq ▸ hroot
  rw [WorldTransition.canonicalJSON, canonicalDumps, require, if_pos hroot, require,
    if_pos hpython]
  exact h.encode

theorem one_canonical_format (sha256 : GoString → Vector UInt8 32) :
    (∀ raw maximumBytes g, WorldTransition.parseCanonical raw true maximumBytes = .ok g →
      WorldTransition.canonicalJSON g true = .ok raw) ∧
    (∀ raw maximumBytes g, GoAny.wellFormed g = true →
      WorldTransition.canonicalJSON g true = .ok raw →
      WorldTransition.withinLimit maximumBytes raw →
      WorldTransition.parseCanonical raw true maximumBytes = .ok g.normal) ∧
    (∀ limit raw, Agree (SameParsed raw)
      (WorldTransition.parseCanonical raw true (goLimit limit))
      (loadsCanonical raw true (limit.map Int.ofNat))) ∧
    (∀ v, JsonValue v → SameValue (WorldTransition.goValue v) (pyValue v)) ∧
    (∀ g p rootContainer, SameValue g p → rootContainer = false ∨ g.container = true →
      (WorldTransition.canonicalJSON g rootContainer = .error WorldTransition.depthError ∧
        canonicalDumps p rootContainer = .error depthError) ∨
      ∃ cs, WorldTransition.canonicalJSON g rootContainer = .ok (ofRunes cs) ∧
        canonicalDumps p rootContainer = .ok (codes cs)) ∧
    ∀ context context' stateSchemaID stateSchemaId commandSchemaID commandSchemaId state state'
      command command', SameContext context context' → SameText stateSchemaID stateSchemaId →
      SameValue state state' → SameText commandSchemaID commandSchemaId →
      SameValue command command' →
      Agree SamePrepared
        (WorldTransition.prepare sha256 context stateSchemaID state commandSchemaID command)
        (prepareWorldTransition sha256 context' stateSchemaId state' commandSchemaId
          command') := by
  refine ⟨fun raw maximumBytes g h => ?_, fun raw maximumBytes g hg h hlimit =>
    WorldTransition.parseCanonical_of_canonicalJSON hg h hlimit, parse_same, JsonValue.same,
    fun g p rootContainer h hroot => dumps_same h hroot, ?_⟩
  · obtain ⟨_, v, ⟨hv, hcontainer, hheight, hraw⟩, rfl⟩ := WorldTransition.parseCanonical_ok.mp h
    have hfits : 0 + v.height ≤ WorldTransition.maxCanonicalDepth := by omega
    rw [WorldTransition.canonicalJSON_goValue hv hcontainer, WorldTransition.rendered,
      if_pos hfits, hraw]
  · intro context context' stateSchemaID stateSchemaId commandSchemaID commandSchemaId state state'
      command command' hcontext hstateSchema hstate hcommandSchema hcommand
    exact prepare_same sha256 hcontext hstateSchema hstate hcommandSchema hcommand

def sampleContext : AuthorityContext :=
  ⟨str "match", str "grant", List.replicate 64 0x61, 1, 2, str "key", str "rules", str "content", 3⟩

def sampleContextV1 : NakamaAuthorityContext :=
  ⟨ascii "match", ascii "grant", List.replicate 64 0x61, 1, 2, ascii "key", ascii "rules",
    ascii "content", 3⟩

def sampleState : Value :=
  .object [("z".toList, .text ['\n', '\x01']), ("a".toList, .int 9223372036854775807)]

def sampleHash (_ : GoString) : Vector UInt8 32 := .replicate 32 7

theorem sampleContext_same : SameContext sampleContext sampleContextV1 where
  matchId := .literal _
  authorizationId := .literal _
  participantRosterHash := .of_ascii (by decide)
  matchVersion := rfl
  globalEventSequence := rfl
  commandIdempotencyKey := .literal _
  rulesetRevision := .literal _
  contentRevision := .literal _
  expectedTick := rfl

theorem one_canonical_format_sample :
    (∃ g p, WorldTransition.prepare sampleHash sampleContext (str "state.v1")
        (WorldTransition.goValue sampleState) (str "command.v1") (.object []) = .ok g ∧
      prepareWorldTransition sampleHash sampleContextV1 (ascii "state.v1") (pyValue sampleState)
        (ascii "command.v1") (.dict []) = .ok p ∧ SamePrepared g p) ∧
    WorldTransition.canonicalJSON (.object []) true = .ok (str "\x7b\x7d") := by
  obtain ⟨hparsed, _, _, hsame, _, hprepare⟩ := one_canonical_format sampleHash
  refine ⟨?_, hparsed (str "\x7b\x7d") 2 _ rfl⟩
  have hok : (WorldTransition.prepare sampleHash sampleContext (str "state.v1")
      (WorldTransition.goValue sampleState) (str "command.v1") (.object [])).isOk = true := by
    decide +kernel
  have hstate := hsame sampleState (by simp [JsonValue, JsonFields, sampleState])
  have hagree := hprepare _ _ _ _ _ _ _ _ _ _ sampleContext_same (.literal "state.v1") hstate
    (.literal "command.v1") (hsame (.object []) ⟨.nil, trivial⟩)
  cases hg : WorldTransition.prepare sampleHash sampleContext (str "state.v1")
      (WorldTransition.goValue sampleState) (str "command.v1") (.object []) with
  | error e =>
    rw [hg] at hok
    cases hok
  | ok g =>
    obtain ⟨p, hp, hprepared⟩ := hagree.ok_left hg
    exact ⟨g, p, rfl, hp, hprepared⟩

end WorldTransitionV1
