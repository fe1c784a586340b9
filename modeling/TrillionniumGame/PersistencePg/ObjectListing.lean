import Mathlib.Data.Set.Finite.List
import TrillionniumGame.PersistencePg.ObjectRefinement

namespace StoragePg

open Checks FiniteMap Paging Runs Tables
open Identity (byteValues)
open Persistence (Bytes DomainError UserId)
open PersistencePg (Bytea asBytes asBytes_inj asBytes_length decodeBytes decodeBytes_asBytes)
open Storage hiding applyWrite applyDelete applyOperation applyOperations

def keyPosition (key : StorageObjectKey) : List Nat ×ₗ List Nat :=
  rowOrder key.key (asBytes key.userId.bytes)

def position (object : StorageObject) : List Nat ×ₗ List Nat := keyPosition object.key

structure Listing where
  actor : Actor
  collection : String
  owner : Option UserId
  limit : Nat

structure Listing.Valid (l : Listing) : Prop where
  collection : validComponent l.collection maxCollectionBytes = true
  actor : zeroActor l.actor = false
  owner : ∀ user ∈ l.owner, user.isZero = false
  limit : 0 < l.limit ∧ l.limit ≤ maxListLimit

variable (l : Listing)

def Listing.InScope (key : StorageObjectKey) : Prop :=
  key.collection = l.collection ∧ ∀ user ∈ l.owner, user = key.userId

def Listing.visible (objects : Objects) : Set StorageObject :=
  { object | objects.lookup object.key = some object ∧ l.InScope object.key ∧
    canRead l.actor object = true }

def Listing.page (sha256 : List UInt8 → Bytes 32) (table : List ObjectRow)
    (after : Option StorageListCursor) :
    Except DomainError (List StorageObject × Option StorageListCursor) :=
  listStorageObjects sha256 table l.actor l.collection l.owner after l.limit

def Listing.follow (l : Listing) (sha256 : List UInt8 → Bytes 32) :
    List (List ObjectRow) → Option StorageListCursor →
    Except DomainError (List (List StorageObject) × Option StorageListCursor)
  | [], after => .ok ([], after)
  | table :: later, after => do
    let (page, next) ← l.page sha256 table after
    match next with
    | none => return ([page], none)
    | some cursor =>
      let (pages, final) ← l.follow sha256 later (some cursor)
      return (page :: pages, final)

theorem map_toNat_inj {bytes bytes' : List UInt8}
    (h : bytes.map UInt8.toNat = bytes'.map UInt8.toNat) : bytes = bytes' :=
  List.map_injective_iff.mpr (fun _ _ => UInt8.toNat_inj.mp) h

theorem utf8_inj {text text' : String} (h : utf8 text = utf8 text') : text = text' := by
  have hdata : text.toUTF8.data = text'.toUTF8.data := Array.toList_inj.mp h
  exact String.toByteArray_inj.mp (ByteArray.ext hdata)

theorem rowOrder_inj {name name' : String} {user user' : Bytea}
    (h : rowOrder name user = rowOrder name' user') : name = name' ∧ user = user' := by
  have hpair := Prod.mk.inj (toLex.injective h)
  exact ⟨utf8_inj (map_toNat_inj hpair.1), map_toNat_inj hpair.2⟩

theorem keyPosition_inj {key key' : StorageObjectKey}
    (hcollection : key.collection = key'.collection)
    (h : keyPosition key = keyPosition key') : key = key' := by
  obtain ⟨hname, huser⟩ := rowOrder_inj h
  obtain ⟨collection, name, ⟨bytes⟩, hc, hk⟩ := key
  obtain ⟨collection', name', ⟨bytes'⟩, hc', hk'⟩ := key'
  rw [asBytes_inj] at huser
  simp only at hcollection hname huser
  subst hcollection hname huser
  rfl

theorem utf8_ne_nil {text : String} (h : text ≠ "") : utf8 text ≠ [] := by
  intro hnil
  exact h (utf8_inj (hnil.trans rfl))

theorem start_lt (key : StorageObjectKey) :
    rowOrder "" (List.replicate 16 0) < keyPosition key := by
  have hne : key.key ≠ "" := by
    have hvalid := key.validKey
    simp only [validComponent, Bool.and_eq_true, decide_eq_true_eq] at hvalid
    exact hvalid.1.1.1
  refine Prod.Lex.toLex_lt_toLex.mpr (.inl ?_)
  cases hbytes : utf8 key.key with
  | nil => exact absurd hbytes (utf8_ne_nil hne)
  | cons byte rest =>
    rw [show utf8 "" = [] from rfl]
    exact List.nil_lt_cons _ _

def Listing.Fits (cursor : StorageListCursor) : Prop :=
  cursor.actor = l.actor ∧ cursor.owner = l.owner ∧ l.InScope cursor.key

theorem Listing.Valid.accepted {l : Listing} (hl : l.Valid) {after : Option StorageListCursor}
    (hafter : ∀ cursor ∈ after, l.Fits cursor) :
    validateListRequest l.actor l.collection l.owner after l.limit = .ok () := by
  have hlimit : ¬ (l.limit = 0 ∨ maxListLimit < l.limit) := by
    have hbounds := hl.limit
    omega
  have howner : ¬ ∃ user ∈ l.owner, user.isZero = true := by
    rintro ⟨user, huser, hzero⟩
    rw [hl.owner user huser] at hzero
    cases hzero
  have hcursor : ¬ ∃ cursor ∈ after, cursor.actor ≠ l.actor ∨ cursor.owner ≠ l.owner ∨
      cursor.key.collection ≠ l.collection ∨ ∃ user ∈ l.owner, user ≠ cursor.key.userId := by
    rintro ⟨cursor, hmem, hbad⟩
    obtain ⟨hactor, hscope, hcollection, husers⟩ := hafter cursor hmem
    rcases hbad with hbad | hbad | hbad | ⟨user, huser, hbad⟩
    · exact hbad hactor
    · exact hbad hscope
    · exact hbad hcollection
    · exact hbad (husers user huser)
  rw [validateListRequest, require_of hl.collection, ok_bind, require_of hlimit, ok_bind,
    validateActorAndOwner, require_of hl.actor, ok_bind, require_of howner, ok_bind,
    require_of hcursor]

section
variable {sha256 : List UInt8 → Bytes 32} {objects : Objects} {table : List ObjectRow}
  {object : StorageObject} {l : Listing} {after : Option StorageListCursor}

theorem decodeListed_rowOf (hs : Sound sha256 objects)
    (hnonzero : Nonzero sha256 objects)
    (hobject : objects.lookup object.key = some object) (updatedAtMs : Int) :
    decodeListedStorageObject sha256 object.key.collection (rowOf object updatedAtMs) =
      .ok object := by
  have hkey : decodeStorageKey object.key.collection (rowOf object updatedAtMs).objectKey
      (rowOf object updatedAtMs).userId = .ok object.key := by
    rw [decodeStorageKey, rowOf, decodeBytes_asBytes, ok_bind, newStorageObjectKey,
      dif_pos object.key.validCollection, dif_pos object.key.validKey]
    rfl
  obtain ⟨-, hversion, hdigest⟩ := hs.filed _ _ hobject
  rw [decodeListedStorageObject, hkey, ok_bind]
  exact decode_rowOf (hnonzero _ _ hobject) hversion hdigest (hs.bounded _ _ hobject)

theorem readable_rowOf (actor : Actor) (object : StorageObject) (updatedAtMs : Int) :
    let actorBytes := match actor with
      | .server => none
      | .user user => some (asBytes user.bytes)
    (actorBytes.isNone || (rowOf object updatedAtMs).readPermission = 2 ||
      (actorBytes.all ((rowOf object updatedAtMs).userId = ·) &&
        (rowOf object updatedAtMs).readPermission = 1)) = canRead actor object := by
  cases actor with
  | server => rfl
  | user user =>
    have huser : asBytes object.key.userId.bytes = asBytes user.bytes ↔
        user = object.key.userId := by
      rw [asBytes_inj, eq_comm]
      exact ⟨fun h => congrArg UserId.mk h, congrArg UserId.bytes⟩
    have hpublic : readCode object.readPermission = 2 ↔ object.readPermission = .publicRead := by
      cases object.readPermission <;> decide
    have howner : readCode object.readPermission = 1 ↔ object.readPermission = .owner := by
      cases object.readPermission <;> decide
    dsimp only
    rw [Bool.eq_iff_iff]
    simp only [canRead, Option.isNone_some, Bool.false_or, Option.all_some, Bool.or_eq_true,
      Bool.and_eq_true, decide_eq_true_eq]
    exact or_congr hpublic (and_congr huser howner)

def Listing.selects (l : Listing) (after : Option StorageListCursor) (row : ObjectRow) : Bool :=
  let afterRow := match after with
    | none => ("", List.replicate 16 0)
    | some cursor => (cursor.key.key, asBytes cursor.key.userId.bytes)
  let actorBytes := match l.actor with
    | .server => none
    | .user user => some (asBytes user.bytes)
  utf8 row.collection = utf8 l.collection &&
    (l.owner.map fun user => asBytes user.bytes).all (row.userId = ·) &&
    rowOrder afterRow.1 afterRow.2 < row.order &&
    (actorBytes.isNone || row.readPermission = 2 ||
      (actorBytes.all (row.userId = ·) && row.readPermission = 1))

theorem selects_rowOf {updatedAtMs : Int} : l.selects after (rowOf object updatedAtMs) = true ↔
    (l.InScope object.key ∧ canRead l.actor object = true) ∧
      ∀ cursor ∈ after, keyPosition cursor.key < position object := by
  have hcollection : utf8 object.key.collection = utf8 l.collection ↔
      object.key.collection = l.collection := ⟨utf8_inj, congrArg utf8⟩
  have howner : ((l.owner.map fun user => asBytes user.bytes).all
      ((rowOf object updatedAtMs).userId = ·)) = true ↔
      ∀ user ∈ l.owner, user = object.key.userId := by
    cases l.owner with
    | none => simp
    | some user =>
      simp only [rowOf, Option.map_some, Option.all_some, decide_eq_true_eq, asBytes_inj,
        Option.mem_def, Option.some.injEq, forall_eq']
      exact ⟨fun h => congrArg UserId.mk h.symm, fun h => congrArg UserId.bytes h.symm⟩
  have hpast : (let afterRow : String × Bytea := match after with
        | none => ("", List.replicate 16 0)
        | some cursor => (cursor.key.key, asBytes cursor.key.userId.bytes)
      rowOrder afterRow.1 afterRow.2 < (rowOf object updatedAtMs).order) ↔
      ∀ cursor ∈ after, keyPosition cursor.key < position object := by
    cases after with
    | none => exact iff_of_true (start_lt object.key) (by simp)
    | some cursor =>
      simp only [Option.mem_def, Option.some.injEq, forall_eq']
      exact Iff.rfl
  have hread := readable_rowOf l.actor object updatedAtMs
  dsimp only at hread hpast
  simp only [Listing.selects, Bool.and_eq_true, hread, howner, decide_eq_true_eq, hpast]
  rw [show (rowOf object updatedAtMs).collection = object.key.collection from rfl, hcollection,
    Listing.InScope]
  tauto

theorem Holds.selected (h : Holds table objects) {row : ObjectRow}
    (hrow : row ∈ table.filter (l.selects after)) : ∃ object updatedAtMs,
      row = rowOf object updatedAtMs ∧ object ∈ l.visible objects ∧
        ∀ cursor ∈ after, keyPosition cursor.key < position object := by
  obtain ⟨hmem, hselects⟩ := List.mem_filter.mp hrow
  obtain ⟨object, t, hobject, rfl⟩ := h.rows row hmem
  obtain ⟨⟨hscope, hread⟩, hpast⟩ := selects_rowOf.mp hselects
  exact ⟨object, t, rfl, ⟨hobject, hscope, hread⟩, hpast⟩

theorem Holds.ordered (h : Holds table objects) :
    (sortedBy ObjectRow.order (table.filter (l.selects after))).Pairwise
      fun row row' => row.order < row'.order := by
  have hne : (table.filter (l.selects after)).Pairwise fun row row' => row.order ≠ row'.order := by
    refine (h.unique.filter _).imp_of_mem fun {row row'} hrow hrow' hclash heq => ?_
    obtain ⟨object, t, rfl, ⟨-, hscope, -⟩, -⟩ := h.selected hrow
    obtain ⟨object', t', rfl, ⟨-, hscope', -⟩, -⟩ := h.selected hrow'
    have hkey := keyPosition_inj (hscope.1.trans hscope'.1.symm) heq
    rw [clash_iff.mpr hkey.symm] at hclash
    cases hclash
  have hsorted := (List.perm_insertionSort (fun a b : ObjectRow => a.order ≤ b.order)
    (table.filter (l.selects after))).symm.pairwise hne fun hxy hyx => hxy hyx.symm
  exact ((pairwise_sortedBy _).and hsorted).imp fun hboth => lt_of_le_of_ne hboth.1 hboth.2

theorem page_remaining (hl : l.Valid) (h : Holds table objects) (hs : Sound sha256 objects)
    (hnonzero : Nonzero sha256 objects)
    (hafter : ∀ cursor ∈ after, l.Fits cursor) :
    ∃ rest, Remaining position (l.visible objects) (after.map fun cursor => keyPosition cursor.key)
        rest ∧
      l.page sha256 table after = .ok ((cut rest l.limit).1,
        (cut rest l.limit).2.map fun object => ⟨l.actor, l.owner, object.key⟩) := by
  have hdecode : ∀ object updatedAtMs, object ∈ l.visible objects →
      decodeListedStorageObject sha256 l.collection (rowOf object updatedAtMs) = .ok object := by
    rintro object t ⟨hobject, hscope, -⟩
    rw [← hscope.1]
    exact decodeListed_rowOf hs hnonzero hobject t
  obtain ⟨rest, hrest⟩ : ∃ rest, (sortedBy ObjectRow.order (table.filter (l.selects after))).mapM
      (decodeListedStorageObject sha256 l.collection) = .ok rest := by
    refine mapM_exists fun row hrow => ?_
    obtain ⟨object, t, rfl, hvisible, -⟩ := h.selected (mem_sortedBy.mp hrow)
    exact ⟨object, hdecode object t hvisible⟩
  refine ⟨rest, ⟨?_, fun object => ?_⟩, ?_⟩
  · have horders : (sortedBy ObjectRow.order (table.filter (l.selects after))).map
        ObjectRow.order = rest.map position := by
      refine map_mapM hrest fun row hrow object hok => ?_
      obtain ⟨object', t, rfl, hvisible, -⟩ := h.selected (mem_sortedBy.mp hrow)
      rw [hdecode object' t hvisible] at hok
      exact congrArg position (Except.ok.inj hok)
    rw [← List.pairwise_map, ← horders, List.pairwise_map]
    exact h.ordered
  · rw [mem_mapM hrest]
    constructor
    · rintro ⟨row, hrow, hok⟩
      obtain ⟨object', t, rfl, hvisible, hpast⟩ := h.selected (mem_sortedBy.mp hrow)
      rw [hdecode object' t hvisible] at hok
      obtain rfl := Except.ok.inj hok
      refine ⟨hvisible, fun p hp => ?_⟩
      obtain ⟨cursor, hcursor, rfl⟩ := Option.mem_map.mp hp
      exact hpast cursor hcursor
    · rintro ⟨hvisible, hpast⟩
      obtain ⟨t, hrow⟩ := h.stored _ _ hvisible.1
      refine ⟨rowOf object t, mem_sortedBy.mpr (List.mem_filter.mpr ⟨hrow, ?_⟩),
        hdecode object t hvisible⟩
      exact selects_rowOf.mpr ⟨hvisible.2, fun cursor hcursor =>
        hpast _ (Option.mem_map_of_mem _ hcursor)⟩
  · have hquery : l.page sha256 table after = (do
        let objects ← ((sortedBy ObjectRow.order (table.filter (l.selects after))).take
          (l.limit + 1)).mapM (decodeListedStorageObject sha256 l.collection)
        return finishStoragePage objects l.actor l.owner l.limit) := by
      unfold Listing.page listStorageObjects
      rw [hl.accepted hafter, ok_bind]
      cases after <;> rfl
    rw [hquery, mapM_take hrest, ok_bind, finishStoragePage, cut_take]
    rfl

end

structure Moment (sha256 : List UInt8 → Bytes 32) where
  objects : Objects
  table : List ObjectRow
  sound : Sound sha256 objects
  nonzero : Nonzero sha256 objects
  holds : Holds table objects

section
variable {sha256 : List UInt8 → Bytes 32} {l : Listing} {after : Option StorageListCursor}
  {moments : List (Moment sha256)}

def Listing.reads (l : Listing) (moments : List (Moment sha256))
    (pages : List (List StorageObject)) : List (Set StorageObject × List StorageObject) :=
  (moments.map fun m => l.visible m.objects).zip pages

structure Listing.Follows (l : Listing) (moments : List (Moment sha256))
    (after : Option StorageListCursor) (pages : List (List StorageObject))
    (final : Option StorageListCursor) : Prop where
  answered : l.follow sha256 (moments.map Moment.table) after = .ok (pages, final)
  within : pages.length ≤ moments.length
  followed : Followed position (after.map fun cursor => keyPosition cursor.key)
    (l.reads moments pages) (final.map fun cursor => keyPosition cursor.key)
  going : final ≠ none → pages.length = moments.length ∧ ∀ page ∈ pages, page ≠ []

theorem visible_fits {objects : Objects} {object : StorageObject}
    (h : object ∈ l.visible objects) : l.Fits ⟨l.actor, l.owner, object.key⟩ := ⟨rfl, rfl, h.2.1⟩

variable {table : List ObjectRow} {later : List (List ObjectRow)} {page : List StorageObject}

theorem follow_done (h : l.page sha256 table after = .ok (page, none)) :
    l.follow sha256 (table :: later) after = .ok ([page], none) := by
  rw [Listing.follow, h]
  rfl

variable {pages : List (List StorageObject)}

theorem follow_going {cursor : StorageListCursor} {final : Option StorageListCursor}
    (h : l.page sha256 table after = .ok (page, some cursor))
    (hlater : l.follow sha256 later (some cursor) = .ok (pages, final)) :
    l.follow sha256 (table :: later) after = .ok (page :: pages, final) := by
  rw [Listing.follow, h, ok_bind]
  dsimp only
  rw [hlater]
  rfl

theorem follows (hl : l.Valid) (m : Moment sha256) (hafter : ∀ cursor ∈ after, l.Fits cursor) :
    ∃ pages final, l.Follows (m :: moments) after pages final := by
  induction moments generalizing m after with
  | nil =>
    obtain ⟨rest, hrest, hpage⟩ := page_remaining hl m.holds m.sound m.nonzero hafter
    have hlast := Followed.last hrest hl.limit.1
    cases hcut : (cut rest l.limit).2 with
    | none =>
      rw [hcut] at hpage hlast
      exact ⟨[(cut rest l.limit).1], none, follow_done hpage, Nat.le_refl 1, hlast,
        fun h => (h rfl).elim⟩
    | some object =>
      rw [hcut] at hpage hlast
      refine ⟨[(cut rest l.limit).1], some _, follow_going hpage rfl, Nat.le_refl 1, hlast,
        fun _ => ⟨rfl, ?_⟩⟩
      rintro page hmem rfl
      have hin := cut_last_mem hcut
      rw [← List.mem_singleton.mp hmem] at hin
      cases hin
  | cons m' moments ih =>
    obtain ⟨rest, hrest, hpage⟩ := page_remaining hl m.holds m.sound m.nonzero hafter
    cases hcut : (cut rest l.limit).2 with
    | none =>
      have hlast := Followed.last hrest hl.limit.1
      rw [hcut] at hpage hlast
      exact ⟨[(cut rest l.limit).1], none, follow_done hpage, Nat.le_add_left 1 _, hlast,
        fun h => (h rfl).elim⟩
    | some object =>
      rw [hcut] at hpage
      have hin := cut_last_mem hcut
      have hvisible := ((hrest.mem object).mp (cut_subset hin)).1
      have hfits : ∀ cursor ∈ some (⟨l.actor, l.owner, object.key⟩ : StorageListCursor),
          l.Fits cursor := by
        rintro cursor hcursor
        obtain rfl := Option.some.inj hcursor
        exact visible_fits hvisible
      obtain ⟨pages, final, hanswered, hwithin, hfollowed, hgoing⟩ := ih m' hfits
      refine ⟨(cut rest l.limit).1 :: pages, final, follow_going hpage hanswered,
        Nat.succ_le_succ hwithin, Followed.more hrest hl.limit.1 ?_ hfollowed, fun hne => ?_⟩
      · rw [hcut]
        rfl
      · obtain ⟨hlength, hall⟩ := hgoing hne
        refine ⟨congrArg Nat.succ hlength, List.forall_mem_cons.mpr ⟨?_, hall⟩⟩
        rintro hnil
        rw [hnil] at hin
        cases hin

theorem listed_reads (h : pages.length ≤ moments.length) :
    listed (l.reads moments pages) = pages.flatten := by
  rw [listed, List.flatMap_def, Listing.reads, List.map_snd_zip]
  rwa [List.length_map]

theorem positions_finite : (Set.range keyPosition).Finite := by
  have hbytes : Finite UInt8 := Finite.of_injective UInt8.toFin fun _ _ h => UInt8.toFin_inj.mp h
  have hbounded : ((fun pair : List UInt8 × List UInt8 =>
      (toLex (pair.1.map UInt8.toNat, pair.2.map UInt8.toNat) : List Nat ×ₗ List Nat)) ''
      ({name | name.length ≤ 128} ×ˢ {user | user.length ≤ 16})).Finite :=
    ((List.finite_length_le UInt8 128).prod (List.finite_length_le UInt8 16)).image _
  refine hbounded.subset ?_
  rintro _ ⟨key, rfl⟩
  refine ⟨(utf8 key.key, asBytes key.userId.bytes), ⟨?_, ?_⟩, rfl⟩
  · have hvalid := key.validKey
    simp only [validComponent, Bool.and_eq_true, decide_eq_true_eq] at hvalid
    exact hvalid.1.1.2
  · exact (asBytes_length _).le

theorem length_le_flatten {α : Type} {pages : List (List α)} (h : ∀ page ∈ pages, page ≠ []) :
    pages.length ≤ pages.flatten.length := by
  induction pages with
  | nil => exact Nat.le_refl 0
  | cons page rest ih =>
    have hpos := List.length_pos_iff.mpr (h page List.mem_cons_self)
    have hrest := ih fun page hpage => h page (List.mem_cons_of_mem _ hpage)
    rw [List.flatten_cons, List.length_append, List.length_cons]
    omega

theorem listing_ends (hl : l.Valid) (moment : Nat → Moment sha256) :
    ∃ count pages, l.Follows ((List.range count).map moment) none pages none := by
  let bound := positions_finite.toFinset.card
  obtain ⟨pages, final, hfollows⟩ : ∃ pages final, l.Follows
      (moment 0 :: ((List.range (bound + 1)).map moment).tail) none pages final :=
    follows hl (moment 0) nofun
  have hcons : moment 0 :: ((List.range (bound + 1)).map moment).tail =
      (List.range (bound + 1)).map moment := by
    rw [List.range_succ_eq_map]
    rfl
  rw [hcons] at hfollows
  cases hfinal : final with
  | none => exact ⟨bound + 1, pages, hfinal ▸ hfollows⟩
  | some cursor =>
    obtain ⟨hlength, hall⟩ := hfollows.going (by simp [hfinal])
    have hordered := hfollows.followed.ordered
    rw [listed_reads hfollows.within, ← List.pairwise_map (f := position)] at hordered
    have hnodup : (pages.flatten.map position).Nodup := hordered.imp fun hlt => hlt.ne
    have hsub : (pages.flatten.map position).toFinset ⊆ positions_finite.toFinset := by
      intro p hp
      obtain ⟨object, -, rfl⟩ := List.mem_map.mp (List.mem_toFinset.mp hp)
      exact positions_finite.mem_toFinset.mpr ⟨object.key, rfl⟩
    have hcard := Finset.card_le_card hsub
    rw [List.toFinset_card_of_nodup hnodup, List.length_map] at hcard
    have hmany := length_le_flatten hall
    rw [hlength, List.length_map, List.length_range] at hmany
    exact absurd (hmany.trans hcard) (Nat.not_succ_le_self bound)

end

section
variable {sha256 : List UInt8 → Bytes 32}

theorem storage_refined :
    (∀ s table actor operations updatedAtMs, Reachable (storageStates sha256) s →
      Nonzero sha256 s.objects → Holds table s.objects → updatedAtMs < 2 ^ 63 →
      (applyStorageBatch sha256 table actor operations updatedAtMs).map Prod.fst =
          (s.applyBatch sha256 actor operations).map Prod.fst ∧
        Holds (afterStorageBatch sha256 table actor operations updatedAtMs)
          (s.afterBatch sha256 actor operations).objects) ∧
    (∀ s table actor key, Reachable (storageStates sha256) s → Nonzero sha256 s.objects →
      Holds table s.objects → readStorageObject sha256 table actor key = s.read sha256 actor key) ∧
    ∀ (l : Listing) (state : Nat → StorageState) (table : Nat → List ObjectRow), l.Valid →
      (∀ n, Reachable (storageStates sha256) (state n) ∧ Nonzero sha256 (state n).objects ∧
        Holds (table n) (state n).objects) →
      ∃ count pages, l.follow sha256 ((List.range count).map table) none = .ok (pages, none) ∧
        (pages.flatten.Pairwise fun a b => position a < position b) ∧
        (∀ i page, pages[i]? = some page → ∀ object ∈ page, l.InScope object.key ∧
          (state i).read sha256 l.actor object.key = .ok object) ∧
        ∀ object, l.InScope object.key →
          (∀ i < pages.length, (state i).read sha256 l.actor object.key = .ok object) →
          object ∈ pages.flatten := by
  refine ⟨?_, ?_, ?_⟩
  · intro s table actor operations updatedAtMs hreach hnonzero hholds htime
    have hs := sound_reachable hreach
    refine ⟨?_, afterStorageBatch_holds hholds hs hnonzero operations htime⟩
    exact ((applyStorageBatch_same hholds hs hnonzero operations htime).map_eq
      fun a b hr => hr.1).symm
  · intro s table actor key hreach hnonzero hholds
    exact readStorageObject_eq hholds (sound_reachable hreach) hnonzero actor key
  · intro l state table hl hmoments
    let moment : Nat → Moment sha256 := fun n =>
      ⟨(state n).objects, table n, sound_reachable (hmoments n).1, (hmoments n).2.1, (hmoments n).2.2⟩
    obtain ⟨count, pages, hanswered, hwithin, hfollowed, -⟩ := listing_ends hl moment
    have hread : ∀ i object, object ∈ l.visible (state i).objects ↔
        l.InScope object.key ∧ (state i).read sha256 l.actor object.key = .ok object := by
      intro i object
      rw [StorageState.read_ok]
      constructor
      · rintro ⟨hobject, hscope, hread⟩
        exact ⟨hscope, hobject, hread, ((sound_reachable (hmoments i).1).filed _ _ hobject).2.2⟩
      · rintro ⟨hscope, hobject, hread, -⟩
        exact ⟨hobject, hscope, hread⟩
    have hat : ∀ i present page,
        (l.reads ((List.range count).map moment) pages)[i]? = some (present, page) ↔
          present = l.visible (state i).objects ∧ pages[i]? = some page := by
      intro i present page
      rw [List.length_map, List.length_range] at hwithin
      rw [Listing.reads, List.getElem?_zip_eq_some, List.map_map, List.getElem?_map]
      constructor
      · rintro ⟨hpresent, hpage⟩
        obtain ⟨j, hj, rfl⟩ := Option.map_eq_some_iff.mp hpresent
        obtain ⟨_, rfl⟩ := List.getElem?_eq_some_iff.mp hj
        exact ⟨by rw [List.getElem_range]; rfl, hpage⟩
      · rintro ⟨rfl, hpage⟩
        have hi := (List.getElem?_eq_some_iff.mp hpage).1
        rw [List.getElem?_range (hi.trans_le hwithin)]
        exact ⟨rfl, hpage⟩
    have hmem : ∀ read ∈ l.reads ((List.range count).map moment) pages, ∃ i < pages.length,
        read.1 = l.visible (state i).objects ∧ pages[i]? = some read.2 := by
      rintro ⟨present, page⟩ hread
      obtain ⟨i, hi⟩ := List.mem_iff_getElem?.mp hread
      obtain ⟨hpresent, hpage⟩ := (hat i present page).mp hi
      exact ⟨i, (List.getElem?_eq_some_iff.mp hpage).1, hpresent, hpage⟩
    rw [List.map_map] at hanswered
    refine ⟨count, pages, hanswered, ?_, ?_, ?_⟩
    · rw [← listed_reads hwithin]
      exact hfollowed.ordered
    · intro i page hpage object hobject
      have hin := List.mem_iff_getElem?.mpr ⟨i, (hat i _ page).mpr ⟨rfl, hpage⟩⟩
      exact (hread i object).mp (hfollowed.listed_present _ hin object hobject)
    · intro object hscope huntouched
      obtain ⟨read, hin, a, ha, hpresent, hposition⟩ := hfollowed.complete rfl
        (k := position object) nofun fun read hin => by
          obtain ⟨i, hi, hpresent, -⟩ := hmem read hin
          exact ⟨object, hpresent ▸ (hread i object).mpr ⟨hscope, huntouched i hi⟩, rfl⟩
      obtain ⟨i, hi, hvisible, hpage⟩ := hmem read hin
      rw [hvisible] at hpresent
      have hkey := keyPosition_inj (hpresent.2.1.1.trans hscope.1.symm) hposition
      have hsame := (StorageState.read_ok.mp (huntouched i hi)).1
      rw [← hkey, hpresent.1] at hsame
      rw [← Option.some.inj hsame]
      exact List.mem_flatten.mpr ⟨read.2, List.mem_of_getElem? hpage, ha⟩

end

section Samples

open Storage.StorageState (reachable_sampleState sampleKey sampleOwner sampleState sampleWrite
  slotKey slotWrite zeroUser)

def sampleTable : List ObjectRow :=
  afterStorageBatch Sha256.digest [] .server [.write sampleWrite, .write slotWrite] 5

def bagWrite : WriteOperation :=
  ⟨{ slotKey with key := "bag", validKey := by decide }, [118, 51], .any, .owner, .owner⟩

def bagState : StorageState :=
  sampleState.afterBatch Sha256.digest (.user sampleOwner) [.write bagWrite]

def bagTable : List ObjectRow :=
  afterStorageBatch Sha256.digest sampleTable (.user sampleOwner) [.write bagWrite] 6

def ownListing : Listing := ⟨.user sampleOwner, "inventory", some sampleOwner, 1⟩

theorem Nonzero.insert {sha256 : List UInt8 → Bytes 32} {objects : Objects}
    {object : StorageObject} (h : Nonzero sha256 objects) (key : StorageObjectKey)
    (hobject : Persistence.zeroBytes (sha256 object.value) = false) :
    Nonzero sha256 (objects.insert key object) := by
  intro key' object' hlookup
  rw [lookup_insert_ite] at hlookup
  split at hlookup
  · exact Option.some.inj hlookup ▸ hobject
  · exact h key' object' hlookup

theorem nonzero_empty {sha256 : List UInt8 → Bytes 32} : Nonzero sha256 ∅ := by
  intro key object h
  cases h

theorem nonzero_sampleState : Nonzero Sha256.digest sampleState.objects :=
  (nonzero_empty.insert sampleKey (by decide +kernel)).insert slotKey (by decide +kernel)

theorem nonzero_bagState : Nonzero Sha256.digest bagState.objects :=
  nonzero_sampleState.insert bagWrite.key (by decide +kernel)

theorem holds_default : Holds [] StorageState.default.objects :=
  ⟨List.forall_mem_nil _, nofun, .nil⟩

theorem sample_holds : Holds sampleTable sampleState.objects :=
  afterStorageBatch_holds holds_default (sound_reachable (.start rfl)) nonzero_empty _ (by decide)

theorem storage_refined_sample : Holds bagTable bagState.objects ∧
    readStorageObject Sha256.digest bagTable (.user sampleOwner) slotKey =
      .ok (slotWrite.object Sha256.digest) ∧
    ∃ count pages, ownListing.follow Sha256.digest ((List.range count).map fun _ => bagTable) none =
        .ok (pages, none) ∧
      slotWrite.object Sha256.digest ∈ pages.flatten ∧
      bagWrite.object Sha256.digest ∈ pages.flatten := by
  obtain ⟨hbatch, hread, hlist⟩ := @storage_refined Sha256.digest
  have hholds := (hbatch sampleState sampleTable (.user sampleOwner) [.write bagWrite] 6
    reachable_sampleState nonzero_sampleState sample_holds (by decide)).2
  have hstep : (storageStates Sha256.digest).step sampleState
    (.user sampleOwner, [.write bagWrite]) bagState := rfl
  have hreach := reachable_sampleState.run (.single hstep)
  obtain ⟨count, pages, hpages, -, -, hlisted⟩ := hlist ownListing (fun _ => bagState)
    (fun _ => bagTable) ⟨by decide, by decide, by decide, by decide⟩
    fun _ => ⟨hreach, nonzero_bagState, hholds⟩
  refine ⟨hholds, (hread bagState bagTable _ slotKey hreach nonzero_bagState hholds).trans ?_,
    count, pages, hpages, hlisted _ ⟨rfl, by decide⟩ fun _ _ => ?_,
    hlisted _ ⟨rfl, by decide⟩ fun _ _ => ?_⟩
  all_goals exact StorageState.read_ok.mpr ⟨rfl, by decide, rfl⟩

theorem late_write_refused :
    Reachable (storageStates Sha256.digest) .default ∧ Holds [] StorageState.default.objects ∧
      applyStorageBatch Sha256.digest [] .server [.write sampleWrite] (2 ^ 63) =
        .error PersistencePg.counterOverflow ∧
      (StorageState.default.applyBatch Sha256.digest .server [.write sampleWrite]).isOk = true ∧
      Reachable (storageStates Sha256.digest) sampleState ∧ Holds sampleTable sampleState.objects ∧
      (⟨.server, "system", some zeroUser, 1⟩ : Listing).page Sha256.digest sampleTable none =
        .error (PersistencePg.invalid "invalid_storage_owner") ∧
      sampleState.read Sha256.digest .server sampleKey = .ok (sampleWrite.object Sha256.digest) :=
  ⟨.start rfl, holds_default, rfl, rfl, reachable_sampleState, sample_holds, rfl,
    StorageState.read_ok.mpr ⟨rfl, rfl, rfl⟩⟩

end Samples

end StoragePg
