import TrillionniumGame.PersistencePg.Sessions

namespace PersistencePg
open Checks Persistence Session Tables

structure Link where
  token : RefreshTokenCredential
  issuedAtMs : Nat

structure Ending where
  reason : RevocationReason
  endedAtMs : Nat

@[ext]
structure Lineage where
  family : SessionFamilyId
  user : UserId
  createdAtMs : Nat
  last : Link
  past : List Link
  ending : Option Ending
  named : family.isZero = false ∧ user.isZero = false
  ordered : (last :: past).Pairwise fun newer older => older.issuedAtMs ≤ newer.issuedAtMs
  created : ∀ link ∈ last :: past, createdAtMs ≤ link.issuedAtMs
  distinct : (last :: past).Pairwise fun newer older => older.token.id ≠ newer.token.id
  closed : ∀ e ∈ ending, last.issuedAtMs ≤ e.endedAtMs
  counted : past.length < 2 ^ 63

structure Held where
  generation : Nat
  token : RefreshTokenCredential
  issuedAtMs : Nat
  consumedAtMs : Option Nat

def spent (successor : Nat) : List Link → List Held
  | [] => []
  | link :: older =>
    ⟨older.length, link.token, link.issuedAtMs, some successor⟩ :: spent link.issuedAtMs older

namespace Held

def state (t : Held) : Int := if t.consumedAtMs = none then 0 else 1

def row (family : SessionFamilyId) (t : Held) : TokenRow :=
  ⟨asBytes family.bytes, asBytes t.token.id.bytes, asBytes t.token.digest.bytes, t.generation,
    t.state, t.issuedAtMs, t.consumedAtMs.map Nat.cast⟩

def snapshot (t : Held) : RefreshTokenSnapshot :=
  ⟨t.generation, t.state, t.issuedAtMs, t.consumedAtMs⟩

end Held

namespace Lineage

variable (L : Lineage)

def newest : Held :=
  ⟨L.past.length, L.last.token, L.last.issuedAtMs, L.ending.map Ending.endedAtMs⟩

def held : List Held := L.newest :: spent L.last.issuedAtMs L.past

def record : SessionFamilyRecord :=
  ⟨L.family, L.user, L.past.length, if L.ending = none then some L.last.token.id else none,
    L.ending.map Ending.reason, L.createdAtMs,
    (L.ending.map Ending.endedAtMs).getD L.last.issuedAtMs⟩

def familyRow : FamilyRow :=
  ⟨asBytes L.family.bytes, asBytes L.user.bytes, L.past.length,
    L.record.activeToken.map fun id => asBytes id.bytes,
    L.record.revokedReason.map revocationReasonCode, L.createdAtMs, L.record.updatedAtMs⟩

def tokenRows : List TokenRow := L.held.map (Held.row L.family)

def extend (link : Link) (hopen : L.ending = none) (hlater : L.last.issuedAtMs ≤ link.issuedAtMs)
    (hfresh : ∀ old ∈ L.last :: L.past, old.token.id ≠ link.token.id)
    (hroom : L.past.length + 1 < 2 ^ 63) : Lineage where
  family := L.family
  user := L.user
  createdAtMs := L.createdAtMs
  last := link
  past := L.last :: L.past
  ending := L.ending
  named := L.named
  ordered := by
    refine List.pairwise_cons.mpr ⟨fun old hold => ?_, L.ordered⟩
    rcases List.mem_cons.mp hold with rfl | hpast
    · exact hlater
    · exact ((List.pairwise_cons.mp L.ordered).1 old hpast).trans hlater
  created := by
    refine List.forall_mem_cons.mpr ⟨?_, L.created⟩
    exact (L.created L.last List.mem_cons_self).trans hlater
  distinct := List.pairwise_cons.mpr ⟨hfresh, L.distinct⟩
  closed := by simp [hopen]
  counted := hroom

def finish (e : Ending) (hlater : L.last.issuedAtMs ≤ e.endedAtMs) : Lineage :=
  { L with
    ending := some e
    closed := fun _ he => Option.some.inj he ▸ hlater }

theorem spent_token (successor : Nat) (links : List Link) :
    (spent successor links).map Held.token = links.map Link.token := by
  induction links generalizing successor with
  | nil => rfl
  | cons link older ih => simp only [spent, List.map_cons, ih]

variable {successor : Nat} {links : List Link} {t : Held}

theorem spent_state (ht : t ∈ spent successor links) :
    t.state = 1 ∧ ∃ consumed, t.consumedAtMs = some consumed := by
  induction links generalizing successor with
  | nil => cases ht
  | cons link older ih =>
    rcases List.mem_cons.mp ht with rfl | hrest
    · exact ⟨rfl, successor, rfl⟩
    · exact ih hrest

theorem spent_times
    (hordered : links.Pairwise fun newer older => older.issuedAtMs ≤ newer.issuedAtMs)
    (hsuccessor : ∀ link ∈ links, link.issuedAtMs ≤ successor) (ht : t ∈ spent successor links) :
    ∀ consumed ∈ t.consumedAtMs, t.issuedAtMs ≤ consumed ∧ consumed ≤ successor := by
  induction links generalizing successor with
  | nil => cases ht
  | cons link older ih =>
    obtain ⟨hlink, holder⟩ := List.pairwise_cons.mp hordered
    rcases List.mem_cons.mp ht with rfl | hrest
    · rintro consumed hconsumed
      cases hconsumed
      exact ⟨hsuccessor link List.mem_cons_self, le_rfl⟩
    · intro consumed hconsumed
      obtain ⟨hissued, hle⟩ := ih holder hlink hrest consumed hconsumed
      exact ⟨hissued, hle.trans (hsuccessor link List.mem_cons_self)⟩

theorem spent_generation (successor : Nat) (links : List Link) :
    (spent successor links).map Held.generation = (List.range links.length).reverse := by
  induction links generalizing successor with
  | nil => rfl
  | cons link older ih =>
    rw [spent, List.map_cons, ih, List.length_cons, List.range_succ, List.reverse_append]
    rfl

theorem spent_lt (ht : t ∈ spent successor links) : t.generation < links.length := by
  have hmem : t.generation ∈ (spent successor links).map Held.generation := List.mem_map_of_mem ht
  rw [spent_generation, List.mem_reverse] at hmem
  exact List.mem_range.mp hmem

theorem spent_newest (ht : t ∈ spent successor links) (hnewest : t.generation + 1 = links.length) :
    t.consumedAtMs = some successor := by
  cases links with
  | nil => cases ht
  | cons link older =>
    rcases List.mem_cons.mp ht with rfl | hrest
    · rfl
    · have hlt := spent_lt hrest
      rw [List.length_cons] at hnewest
      omega

variable {t' : Held}

theorem spent_chained (ht : t ∈ spent successor links) (ht' : t' ∈ spent successor links)
    (hnext : t'.generation = t.generation + 1) : t.consumedAtMs = some t'.issuedAtMs := by
  induction links generalizing successor with
  | nil => cases ht
  | cons link older ih =>
    rcases List.mem_cons.mp ht with rfl | hrest
    · -- The newest token has no successor among these.
      have hlt := spent_lt ht'
      rw [hnext] at hlt
      exact absurd hlt (lt_irrefl _)
    · rcases List.mem_cons.mp ht' with rfl | hrest'
      · exact spent_newest hrest hnext.symm
      · exact ih hrest hrest'

variable (L : Lineage)

theorem held_chained (ht : t ∈ L.held) (ht' : t' ∈ L.held)
    (hnext : t'.generation = t.generation + 1) :
    t.state = 1 ∧ t.consumedAtMs = some t'.issuedAtMs := by
  have hspent : t ∈ spent L.last.issuedAtMs L.past := by
    rcases List.mem_cons.mp ht with rfl | hspent
    · rcases List.mem_cons.mp ht' with rfl | hspent'
      · exact absurd hnext (Nat.succ_ne_self _).symm
      · have hlt := spent_lt hspent'
        rw [hnext] at hlt
        exact absurd hlt (Nat.not_lt.mpr (Nat.le_succ _))
    · exact hspent
  refine ⟨(spent_state hspent).1, ?_⟩
  rcases List.mem_cons.mp ht' with rfl | hspent'
  · exact spent_newest hspent hnext.symm
  · exact spent_chained hspent hspent' hnext

theorem held_token : L.held.map Held.token = (L.last :: L.past).map Link.token := by
  rw [held, List.map_cons, spent_token]
  rfl

theorem held_generation :
    L.held.map Held.generation = (List.range (L.past.length + 1)).reverse := by
  rw [held, List.map_cons, spent_generation, List.range_succ, List.reverse_append]
  rfl

theorem held_ids : (L.held.map fun t => t.token.id).Nodup := by
  have hids : (L.held.map fun t => t.token.id) =
      (L.last :: L.past).map fun link => link.token.id := by
    calc (L.held.map fun t => t.token.id)
        = (L.held.map Held.token).map RefreshTokenCredential.id := by
          rw [List.map_map]
          rfl
      _ = (L.last :: L.past).map fun link => link.token.id := by
          rw [held_token, List.map_map]
          rfl
  rw [hids, List.Nodup, List.pairwise_map]
  exact L.distinct.imp Ne.symm

theorem past_issued {link : Link} (hlink : link ∈ L.past) : link.issuedAtMs ≤ L.last.issuedAtMs :=
  (List.pairwise_cons.mp L.ordered).1 link hlink

theorem held_times (ht : t ∈ L.held) : ∀ consumed ∈ t.consumedAtMs, t.issuedAtMs ≤ consumed := by
  intro consumed hconsumed
  rcases List.mem_cons.mp ht with rfl | hspent
  · obtain ⟨e, he, rfl⟩ := Option.map_eq_some_iff.mp hconsumed
    exact L.closed e he
  · exact (spent_times (List.pairwise_cons.mp L.ordered).2 (fun _ => L.past_issued) hspent
      consumed hconsumed).1

theorem held_created (ht : t ∈ L.held) : L.createdAtMs ≤ t.issuedAtMs := by
  have hissued : L.held.map Held.issuedAtMs = (L.last :: L.past).map Link.issuedAtMs := by
    rw [held, List.map_cons, List.map_cons]
    congr 1
    generalize L.last.issuedAtMs = successor
    induction L.past generalizing successor with
    | nil => rfl
    | cons link older ih => simp only [spent, List.map_cons, ih]
  obtain ⟨link, hlink, heq⟩ := List.mem_map.mp (hissued ▸ List.mem_map_of_mem ht)
  rw [← heq]
  exact L.created link hlink

theorem held_injective (ht : t ∈ L.held) (ht' : t' ∈ L.held) (hid : t.token.id = t'.token.id) :
    t = t' :=
  List.inj_on_of_nodup_map L.held_ids ht ht' hid

theorem consumed_iff (hopen : L.ending = none) (ht : t ∈ L.held) :
    t.state = 1 ↔ t ∈ spent L.last.issuedAtMs L.past := by
  rcases List.mem_cons.mp ht with rfl | hspent
  · refine ⟨fun hstate => ?_, fun hspent => (spent_state hspent).1⟩
    simp [Held.state, newest, hopen] at hstate
  · exact ⟨fun _ => hspent, fun _ => (spent_state hspent).1⟩

end Lineage

theorem asBytes_inj {n : Nat} {a b : Bytes n} : asBytes a = asBytes b ↔ a = b := Vector.toList_inj

theorem asBytes_length {n : Nat} (a : Bytes n) : (asBytes a).length = n := Vector.length_toList

theorem decodeBytes_asBytes {n : Nat} (reason : String) (a : Bytes n) :
    decodeBytes n reason (asBytes a) = .ok a := by
  rw [decodeBytes, dif_pos (asBytes_length a)]
  exact congrArg Except.ok (Vector.toList_inj.mp rfl)

theorem fromI64_cast (value : Nat) (reason : String) : fromI64 value reason = .ok value :=
  if_pos (Int.natCast_nonneg value)

theorem transpose_map {α β γ : Type} {decode : β → Except DomainError γ} {f : α → β} {g : α → γ}
    (o : Option α) (h : ∀ a ∈ o, decode (f a) = .ok (g a)) :
    transpose decode (o.map f) = .ok (o.map g) := by
  cases o with
  | none => rfl
  | some a => rw [Option.map_some, transpose, h a rfl]; rfl

theorem decodeRevocationReason_code (reason : RevocationReason) :
    decodeRevocationReason (revocationReasonCode reason) = .ok reason := by
  cases reason <;> rfl

theorem decodeSessionFamilyId_asBytes (family : SessionFamilyId) :
    decodeSessionFamilyId (asBytes family.bytes) = .ok family := by
  rw [decodeSessionFamilyId, decodeBytes_asBytes]
  rfl

theorem decodeFamily_familyRow (L : Lineage) :
    decodeFamily L.family L.familyRow = .ok L.record := by
  unfold decodeFamily decodeUserId Lineage.familyRow
  dsimp only
  rw [decodeBytes_asBytes, fromI64_cast, fromI64_cast, fromI64_cast,
    transpose_map (g := id), transpose_map (g := id)]
  · simp only [Option.map_id_fun, id_eq]
    rfl
  · exact fun reason _ => decodeRevocationReason_code reason
  · intro token _
    rw [decodeRefreshTokenId, decodeBytes_asBytes]
    rfl

theorem decodeSnapshot_row {t : Held} (h : ∀ consumed ∈ t.consumedAtMs, t.issuedAtMs ≤ consumed)
    (family : SessionFamilyId) (generation issued consumed : String) :
    decodeSnapshot generation issued consumed (t.row family) = .ok t.snapshot := by
  have hvalid : validateRefreshTokenSnapshot t.snapshot = .ok () := by
    unfold validateRefreshTokenSnapshot
    cases hconsumed : t.consumedAtMs with
    | none => exact if_pos ⟨by simp [Held.snapshot, Held.state, hconsumed, tokenStateActive],
        hconsumed⟩
    | some at' =>
      rw [if_neg, if_pos]
      · exact ⟨by simp [Held.snapshot, Held.state, hconsumed, tokenStateConsumed], at', hconsumed,
          h at' hconsumed⟩
      · rintro ⟨-, hnone⟩
        simp [Held.snapshot, hconsumed] at hnone
  unfold decodeSnapshot Held.row
  dsimp only
  rw [fromI64_cast, fromI64_cast, transpose_map (g := id)]
  · simp only [Option.map_id_fun, id_eq, ok_bind]
    exact (congrArg (· >>= fun _ => pure t.snapshot) hvalid).trans rfl
  · exact fun value _ => fromI64_cast value _

structure Holds (db : SessionTables) (lineages : List Lineage) : Prop where
  families : db.families = lineages.map Lineage.familyRow
  distinct : (lineages.map Lineage.family).Nodup
  tokens : ∀ L ∈ lineages,
    (db.tokens.filter fun row => row.familyId == asBytes L.family.bytes) = L.tokenRows
  owned : ∀ row ∈ db.tokens, ∃ L ∈ lineages, row.familyId = asBytes L.family.bytes
  digests : (db.tokens.map TokenRow.tokenDigest).Nodup

theorem names_row {credential : RefreshTokenCredential} {t : Held} {family : SessionFamilyId} :
    SessionTables.names credential (t.row family) = true ↔ t.token = credential := by
  obtain ⟨⟨id⟩, ⟨digest⟩⟩ := credential
  obtain ⟨generation, ⟨⟨id'⟩, ⟨digest'⟩⟩, issued, consumed⟩ := t
  simp [SessionTables.names, Held.row, asBytes_inj]

theorem family_bytes_inj {family family' : SessionFamilyId} :
    asBytes family.bytes = asBytes family'.bytes ↔ family = family' := by
  rw [asBytes_inj, SessionFamilyId.mk.injEq]

namespace Holds

variable {db : SessionTables} {lineages : List Lineage} {L L' : Lineage} {t t' : Held}
  {family : SessionFamilyId}

section

variable (h : Holds db lineages)
include h

theorem unique_family (hL : L ∈ lineages) (hL' : L' ∈ lineages) (hfamily : L.family = L'.family) :
    L = L' :=
  List.inj_on_of_nodup_map h.distinct hL hL' hfamily

theorem find_family (hL : L ∈ lineages) :
    lineages.find? (fun L' => L'.family = L.family) = some L :=
  find_unique hL (decide_eq_true rfl) fun _ hL' hfamily =>
    h.unique_family hL' hL (of_decide_eq_true hfamily)

theorem query_family (family : SessionFamilyId) :
    query db.families (fun row => row.familyId == asBytes family.bytes) =
      .ok ((lineages.find? fun L => L.family = family).map Lineage.familyRow) := by
  have hsame : (fun L : Lineage => L.familyRow.familyId == asBytes family.bytes) =
      fun L => decide (L.family = family) := by
    funext L
    refine Bool.eq_iff_iff.mpr (beq_iff_eq.trans ?_)
    exact family_bytes_inj.trans decide_eq_true_iff.symm
  rw [query, queryOpt_find, h.families, List.find?_map]
  · exact congrArg (fun p => Except.ok ((lineages.find? p).map Lineage.familyRow)) hsame
  · rw [h.families, List.pairwise_map]
    refine (List.pairwise_map.mp h.distinct).imp ?_
    rintro L L' hne ⟨hL, hL'⟩
    rw [beq_iff_eq] at hL hL'
    exact hne (family_bytes_inj.mp (hL.trans hL'.symm))

theorem query_own_family (hL : L ∈ lineages) :
    query db.families (fun row => row.familyId == asBytes L.family.bytes) =
      .ok (some L.familyRow) := by
  rw [h.query_family, h.find_family hL]
  rfl

theorem row_mem (hL : L ∈ lineages) (ht : t ∈ L.held) : t.row L.family ∈ db.tokens := by
  have hrow : t.row L.family ∈ L.tokenRows := List.mem_map_of_mem ht
  rw [← h.tokens L hL] at hrow
  exact List.mem_of_mem_filter hrow

theorem row_cases {row : TokenRow} (hrow : row ∈ db.tokens) :
    ∃ L ∈ lineages, ∃ t ∈ L.held, t.row L.family = row := by
  obtain ⟨L, hL, hfamily⟩ := h.owned row hrow
  have hmem : row ∈ L.tokenRows := by
    rw [← h.tokens L hL]
    exact List.mem_filter.mpr ⟨hrow, beq_iff_eq.mpr hfamily⟩
  obtain ⟨t, ht, heq⟩ := List.mem_map.mp hmem
  exact ⟨L, hL, t, ht, heq⟩

theorem digest_injective {row row' : TokenRow} (hrow : row ∈ db.tokens) (hrow' : row' ∈ db.tokens)
    (hdigest : row.tokenDigest = row'.tokenDigest) : row = row' :=
  List.inj_on_of_nodup_map h.digests hrow hrow' hdigest

theorem names_pairwise (p : TokenRow → Bool) (credential : RefreshTokenCredential)
    (hp : ∀ row, p row = true → SessionTables.names credential row = true) :
    db.tokens.Pairwise fun row row' => ¬ (p row = true ∧ p row' = true) := by
  refine (List.pairwise_map.mp h.digests).imp ?_
  rintro row row' hne ⟨hrow, hrow'⟩
  have hnamed := hp row hrow
  have hnamed' := hp row' hrow'
  simp only [SessionTables.names, Bool.and_eq_true, beq_iff_eq] at hnamed hnamed'
  exact hne (hnamed.2.trans hnamed'.2.symm)

theorem query_names (hL : L ∈ lineages) (ht : t ∈ L.held) :
    query db.tokens (SessionTables.names t.token) = .ok (some (t.row L.family)) := by
  rw [query, queryOpt_find (h.names_pairwise _ t.token fun _ => id),
    find_unique (h.row_mem hL ht) (names_row.mpr rfl)]
  · rfl
  · intro row hrow hnamed
    simp only [SessionTables.names, Bool.and_eq_true, beq_iff_eq] at hnamed
    exact h.digest_injective hrow (h.row_mem hL ht) hnamed.2

theorem query_names_none {credential : RefreshTokenCredential}
    (hnone : ∀ L ∈ lineages, ∀ t ∈ L.held, t.token ≠ credential) :
    query db.tokens (SessionTables.names credential) = .ok none := by
  rw [query, queryOpt_find (h.names_pairwise _ credential fun _ => id), List.find?_eq_none.mpr]
  · rfl
  · intro row hrow hnamed
    obtain ⟨L, hL, t, ht, rfl⟩ := h.row_cases hrow
    exact hnone L hL t ht (names_row.mp hnamed)

theorem query_namesIn (hL : L ∈ lineages) (credential : RefreshTokenCredential) :
    query db.tokens (SessionTables.namesIn L.family credential) =
      .ok ((L.held.find? fun t => t.token = credential).map (Held.row L.family)) := by
  have hfind : db.tokens.find? (SessionTables.namesIn L.family credential) =
      (L.held.find? fun t => t.token = credential).map (Held.row L.family) := by
    calc db.tokens.find? (SessionTables.namesIn L.family credential)
        = (db.tokens.filter fun row => row.familyId == asBytes L.family.bytes).find?
            (SessionTables.names credential) := by
          rw [List.find?_filter]
          congr 1
          funext row
          exact Bool.eq_iff_iff.mpr (by simp [SessionTables.namesIn])
      _ = (L.held.map (Held.row L.family)).find? (SessionTables.names credential) := by
          rw [h.tokens L hL]
          rfl
      _ = (L.held.find? fun t => t.token = credential).map (Held.row L.family) := by
          rw [List.find?_map]
          congr 2
          funext t
          exact Bool.eq_iff_iff.mpr (names_row.trans decide_eq_true_iff.symm)
  rw [query, queryOpt_find, hfind]
  · rfl
  · refine h.names_pairwise _ credential fun row hrow => ?_
    exact (Bool.and_eq_true_iff.mp hrow).2

end

theorem find_held (ht : t ∈ L.held) : L.held.find? (fun t' => t'.token = t.token) = some t :=
  find_unique ht (decide_eq_true rfl) fun _ ht' htoken =>
    L.held_injective ht' ht (congrArg _ (of_decide_eq_true htoken))

theorem unique_token (h : Holds db lineages) (hL : L ∈ lineages) (hL' : L' ∈ lineages)
    (ht : t ∈ L.held) (ht' : t' ∈ L'.held) (htoken : t.token = t'.token) : L = L' ∧ t = t' := by
  have hrow : t.row L.family = t'.row L'.family :=
    h.digest_injective (h.row_mem hL ht) (h.row_mem hL' ht')
      (congrArg (fun token : RefreshTokenCredential => asBytes token.digest.bytes) htoken)
  cases h.unique_family hL hL' (family_bytes_inj.mp (congrArg TokenRow.familyId hrow))
  exact ⟨rfl, L.held_injective ht ht' (congrArg _ htoken)⟩

end Holds

def swap (lineages : List Lineage) (L' : Lineage) : List Lineage :=
  lineages.map fun L => if L.family = L'.family then L' else L

def ownRow (family : SessionFamilyId) (row : TokenRow) : Bool :=
  row.familyId == asBytes family.bytes

variable {db db' : SessionTables} {lineages : List Lineage} {L L' M : Lineage} {t : Held}

theorem mem_swap (hL : L ∈ lineages) (hfamily : L'.family = L.family) :
    M ∈ swap lineages L' ↔ M = L' ∨ M ∈ lineages ∧ M.family ≠ L.family := by
  unfold swap
  rw [List.mem_map]
  constructor
  · rintro ⟨M', hM', rfl⟩
    split
    · exact .inl rfl
    · next hne => exact .inr ⟨hM', hfamily ▸ hne⟩
  · rintro (rfl | ⟨hM, hne⟩)
    · exact ⟨L, hL, if_pos hfamily.symm⟩
    · exact ⟨M, hM, if_neg (hfamily ▸ hne)⟩

theorem mem_swap_self (hL : L ∈ lineages) (hfamily : L'.family = L.family) :
    L' ∈ swap lineages L' := (mem_swap hL hfamily).mpr (.inl rfl)

theorem mem_swap_of_ne (hM : M ∈ lineages) (hne : M.family ≠ L'.family) :
    M ∈ swap lineages L' := List.mem_map.mpr ⟨M, hM, if_neg hne⟩

theorem swap_family (lineages : List Lineage) (L' : Lineage) :
    (swap lineages L').map Lineage.family = lineages.map Lineage.family := by
  rw [swap, List.map_map]
  refine List.map_congr_left fun M _ => ?_
  dsimp only [Function.comp]
  split
  · next heq => exact heq.symm
  · rfl

theorem familyRow_check (L : Lineage) : trnmSessionFamilies.check L.familyRow = true := by
  have htimes : L.createdAtMs ≤ L.record.updatedAtMs := by
    have hcreated := L.created L.last List.mem_cons_self
    cases hending : L.ending with
    | none => simpa [Lineage.record, hending] using hcreated
    | some e => simpa [Lineage.record, hending] using hcreated.trans (L.closed e hending)
  refine decide_eq_true ⟨asBytes_length _, asBytes_length _, Int.natCast_nonneg _, ?_, ?_,
    Int.natCast_nonneg _, Int.ofNat_le.mpr htimes, ?_⟩
  · intro token htoken
    obtain ⟨id, -, rfl⟩ := Option.map_eq_some_iff.mp htoken
    exact asBytes_length _
  · intro code hcode
    obtain ⟨reason, -, rfl⟩ := Option.map_eq_some_iff.mp hcode
    cases reason <;> decide
  · cases hending : L.ending with
    | none => exact .inl (by simp [Lineage.familyRow, Lineage.record, hending])
    | some e => exact .inr (by simp [Lineage.familyRow, Lineage.record, hending])

theorem row_check (family : SessionFamilyId) :
    trnmRefreshTokens.check (t.row family) = true ↔
      ∀ consumed ∈ t.consumedAtMs, t.issuedAtMs ≤ consumed := by
  rw [trnmRefreshTokens, decide_eq_true_iff]
  cases hconsumed : t.consumedAtMs with
  | none | some consumed => simp [Held.row, Held.state, hconsumed, asBytes_length]

theorem filter_row_cons (t : Held) (family : SessionFamilyId) (tokens : List TokenRow) :
    (t.row family :: tokens).filter (ownRow family) =
      t.row family :: tokens.filter (ownRow family) :=
  List.filter_cons_of_pos (beq_iff_eq.mpr rfl)

theorem filter_row_cons_of_ne (t : Held) {family family' : SessionFamilyId}
    (hne : family' ≠ family) (tokens : List TokenRow) :
    (t.row family :: tokens).filter (ownRow family') = tokens.filter (ownRow family') :=
  List.filter_cons_of_neg fun hown => hne (family_bytes_inj.mp (beq_iff_eq.mp hown)).symm

namespace Holds

theorem swap (h : Holds db lineages) (hL : L ∈ lineages) (hfamily : L'.family = L.family)
    (hfamilies : db'.families = (PersistencePg.swap lineages L').map Lineage.familyRow)
    (htokens : db'.tokens.filter (ownRow L.family) = L'.tokenRows)
    (hothers : ∀ family ≠ L.family,
      db'.tokens.filter (ownRow family) = db.tokens.filter (ownRow family))
    (hdigests : (db'.tokens.map TokenRow.tokenDigest).Nodup)
    (howned : ∀ row ∈ db'.tokens, ∃ M ∈ lineages, row.familyId = asBytes M.family.bytes) :
    Holds db' (PersistencePg.swap lineages L') where
  families := hfamilies
  distinct := by
    rw [swap_family]
    exact h.distinct
  tokens M hM := by
    rcases (mem_swap hL hfamily).mp hM with rfl | ⟨hM, hne⟩
    · rw [hfamily]
      exact htokens
    · exact (hothers M.family hne).trans (h.tokens M hM)
  owned row hrow := by
    obtain ⟨M, hM, hrow⟩ := howned row hrow
    by_cases hsame : M.family = L.family
    · exact ⟨L', mem_swap_self hL hfamily, by rw [hrow, hsame, hfamily]⟩
    · exact ⟨M, (mem_swap hL hfamily).mpr (.inr ⟨hM, hsame⟩), hrow⟩
  digests := hdigests

variable {p : FamilyRow → Bool} {f : FamilyRow → FamilyRow} {q : TokenRow → Bool}
  {g : TokenRow → TokenRow} (h : Holds db lineages) (hL : L ∈ lineages)
include h hL

theorem updateFamilies (L' : Lineage) (hfamily : L'.family = L.family) (tokens : List TokenRow)
    (hp : ∀ row, p row = true → row.familyId = asBytes L.family.bytes) (hown : p L.familyRow = true)
    (hf : f L.familyRow = L'.familyRow) : SessionTables.updateFamilies p f ⟨db.families, tokens⟩ =
      .ok (⟨(PersistencePg.swap lineages L').map Lineage.familyRow, tokens⟩, 1) := by
  have hpair : db.families.Pairwise fun row row' => ¬ (p row = true ∧ p row' = true) := by
    rw [h.families, List.pairwise_map]
    refine (List.pairwise_map.mp h.distinct).imp ?_
    rintro M M' hne ⟨hM, hM'⟩
    exact hne (family_bytes_inj.mp ((hp _ hM).trans (hp _ hM').symm))
  have hmem : L.familyRow ∈ db.families := by
    rw [h.families]
    exact List.mem_map_of_mem hL
  have hone := filter_unique hpair hmem hown
  have hassign : assign p f db.families =
      (PersistencePg.swap lineages L').map Lineage.familyRow := by
    rw [h.families, assign, PersistencePg.swap, List.map_map, List.map_map]
    refine List.map_congr_left fun M hM => ?_
    dsimp only [Function.comp]
    by_cases heq : M.family = L.family
    · cases h.unique_family hM hL heq
      rw [if_pos hown, if_pos hfamily.symm, hf]
    · rw [if_neg fun hpM => heq (family_bytes_inj.mp (hp _ hpM)), if_neg (hfamily ▸ heq)]
  have hupdate : update trnmSessionFamilies p f db.families =
      .ok ((PersistencePg.swap lineages L').map Lineage.familyRow, 1) := by
    refine update_ok.mpr ⟨?_, hassign, ?_⟩
    · rw [hone]
      intro row hrow
      rw [List.mem_singleton.mp hrow, hf]
      exact familyRow_check L'
    · rw [List.countP_eq_length_filter, hone]
      rfl
  rw [SessionTables.updateFamilies, hupdate]
  rfl

variable
  (hq : ∀ row, q row = true → row.familyId = asBytes L.family.bytes ∧ row.tokenId = asBytes L.last.token.id.bytes)
  (hnewest : q (L.newest.row L.family) = true)
include hq hnewest

theorem filter_newest : db.tokens.filter q = [L.newest.row L.family] := by
  rw [← filter_within (q := ownRow L.family) fun row hrow => beq_iff_eq.mpr (hq row hrow).1]
  rw [show db.tokens.filter (ownRow L.family) = L.tokenRows from h.tokens L hL]
  refine filter_unique ?_ (List.mem_map_of_mem List.mem_cons_self) hnewest
  rw [Lineage.tokenRows, List.pairwise_map]
  refine (List.pairwise_map.mp L.held_ids).imp ?_
  rintro t t' hne ⟨ht, ht'⟩
  have hid := (hq _ ht).2.trans (hq _ ht').2.symm
  exact hne (congrArg RefreshTokenId.mk (asBytes_inj.mp hid))

theorem updateTokens_check (hbad : trnmRefreshTokens.check (g (L.newest.row L.family)) = false) :
    db.updateTokens q g = .error (classifyViolation .check) := by
  have hmem : L.newest.row L.family ∈ db.tokens.filter q := by
    rw [h.filter_newest hL hq hnewest]
    exact List.mem_cons_self
  rw [SessionTables.updateTokens, update_check hmem hbad]
  rfl

theorem updateTokens
    (hkeeps : ∀ row, (g row).familyId = row.familyId ∧ (g row).tokenDigest = row.tokenDigest)
    (hgood : trnmRefreshTokens.check (g (L.newest.row L.family)) = true) :
    ∃ tokens, db.updateTokens q g = .ok (⟨db.families, tokens⟩, 1) ∧
      tokens.filter (ownRow L.family) = g (L.newest.row L.family) ::
        (spent L.last.issuedAtMs L.past).map (Held.row L.family) ∧
      (∀ family ≠ L.family, tokens.filter (ownRow family) = db.tokens.filter (ownRow family)) ∧
      tokens.map TokenRow.tokenDigest = db.tokens.map TokenRow.tokenDigest ∧
      ∀ row ∈ tokens, ∃ M ∈ lineages, row.familyId = asBytes M.family.bytes := by
  have hone := h.filter_newest hL hq hnewest
  have hupdate : update trnmRefreshTokens q g db.tokens = .ok (assign q g db.tokens, 1) := by
    refine update_ok.mpr ⟨?_, rfl, ?_⟩
    · rw [hone]
      intro row hrow
      rw [List.mem_singleton.mp hrow]
      exact hgood
    · rw [List.countP_eq_length_filter, hone]
      rfl
  have hown : ∀ family row, ownRow family (g row) = ownRow family row := by
    intro family row
    rw [ownRow, ownRow, (hkeeps row).1]
  refine ⟨assign q g db.tokens, ?_, ?_, ?_, map_assign fun row => (hkeeps row).2, ?_⟩
  · rw [SessionTables.updateTokens, hupdate]
    rfl
  · rw [filter_assign (hown _),
      show db.tokens.filter (ownRow L.family) = L.tokenRows from h.tokens L hL]
    rw [Lineage.tokenRows, Lineage.held, List.map_cons, assign, List.map_cons, if_pos hnewest]
    congr 1
    refine assign_eq_self fun row hrow => ?_
    obtain ⟨t, ht, rfl⟩ := List.mem_map.mp hrow
    refine Bool.eq_false_iff.mpr fun hrow => ?_
    have hids := (List.nodup_cons.mp L.held_ids).1
    refine hids (List.mem_map.mpr ⟨t, ht, ?_⟩)
    exact congrArg RefreshTokenId.mk (asBytes_inj.mp (hq _ hrow).2)
  · intro family hne
    refine assign_outside (fun row hrow => ?_) (hown family)
    refine Bool.eq_false_iff.mpr fun hfamily => hne ?_
    exact family_bytes_inj.mp ((beq_iff_eq.mp hfamily).symm.trans (hq row hrow).1)
  · intro row hrow
    obtain ⟨held, hheld, rfl⟩ := mem_assign.mp hrow
    obtain ⟨M, hM, hfamily⟩ := h.owned held hheld
    refine ⟨M, hM, ?_⟩
    split
    · rw [(hkeeps held).1]
      exact hfamily
    · exact hfamily

end Holds

end PersistencePg
