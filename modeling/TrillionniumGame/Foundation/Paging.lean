import Mathlib.Data.List.Sort
import TrillionniumGame.Foundation.FiniteMap

namespace FiniteMap

variable {K V : Type} [LinearOrder K]

theorem insertionSort_perm {xs ys : List K} (h : xs.Perm ys) :
    xs.insertionSort (· ≤ ·) = ys.insertionSort (· ≤ ·) :=
  (((List.perm_insertionSort _ xs).trans h).trans (List.perm_insertionSort _ ys).symm).eq_of_pairwise
    (fun _ _ _ _ => le_antisymm) (List.pairwise_insertionSort _ _) (List.pairwise_insertionSort _ _)

def ordered (s : Finset K) : List K :=
  Quot.liftOn s.val (fun xs => xs.insertionSort (· ≤ ·)) fun _ _ => insertionSort_perm

theorem ordered_perm (s : Finset K) : (ordered s : Multiset K) = s.val := by
  obtain ⟨xs, hxs⟩ := Quot.exists_rep s.val
  rw [ordered, ← hxs]
  exact Quot.sound (List.perm_insertionSort _ xs)

theorem mem_ordered {s : Finset K} {k : K} : k ∈ ordered s ↔ k ∈ s := by
  rw [← Multiset.mem_coe, ordered_perm, Finset.mem_val]

theorem nodup_ordered (s : Finset K) : (ordered s).Nodup := by
  rw [← Multiset.coe_nodup, ordered_perm]
  exact s.nodup

theorem pairwise_ordered (s : Finset K) : (ordered s).Pairwise (· ≤ ·) := by
  obtain ⟨xs, hxs⟩ := Quot.exists_rep s.val
  rw [ordered, ← hxs]
  exact List.pairwise_insertionSort _ xs

theorem getLast_ordered {s : Finset K} {m : K} :
    (ordered s).getLast? = some m ↔ m ∈ s ∧ ∀ k ∈ s, k ≤ m := by
  have hle : ∀ {m}, (ordered s).getLast? = some m → m ∈ s ∧ ∀ k ∈ s, k ≤ m := by
    intro m hm
    obtain ⟨before, hbefore⟩ := List.getLast?_eq_some_iff.mp hm
    have hsorted := pairwise_ordered s
    rw [hbefore, List.pairwise_append] at hsorted
    refine ⟨mem_ordered.mp (hbefore ▸ List.mem_append_right _ List.mem_cons_self), ?_⟩
    intro k hk
    rw [← mem_ordered, hbefore] at hk
    rcases List.mem_append.mp hk with hk | hk
    · exact hsorted.2.2 k hk m List.mem_cons_self
    · exact (List.mem_singleton.mp hk).le
  refine ⟨hle, fun ⟨hmem, hmax⟩ => ?_⟩
  cases hlast : (ordered s).getLast? with
  | none =>
    rw [List.getLast?_eq_none_iff] at hlast
    exact absurd (mem_ordered.mpr hmem) (hlast ▸ List.not_mem_nil)
  | some last =>
    obtain ⟨hin, hupper⟩ := hle hlast
    rw [le_antisymm (hmax last hin) (hupper m hmem)]

def items (m : Dict K V) : List (K × V) :=
  (ordered m.keys).filterMap fun k => (m.lookup k).map fun v => (k, v)

theorem mem_items {m : Dict K V} {k : K} {v : V} : (k, v) ∈ items m ↔ m.lookup k = some v := by
  simp only [items, List.mem_filterMap, mem_ordered, Finmap.mem_keys, Option.map_eq_some_iff,
    Prod.mk.injEq]
  constructor
  · rintro ⟨k', _, v', hlookup, rfl, rfl⟩
    exact hlookup
  · intro h
    exact ⟨k, mem_of_lookup h, v, h, rfl, rfl⟩

theorem items_keys (m : Dict K V) : (items m).map (·.1) = ordered m.keys := by
  have hall : ∀ ks : List K, (∀ k ∈ ks, k ∈ m) →
      (ks.filterMap fun k => (m.lookup k).map fun v => (k, v)).map (·.1) = ks := by
    intro ks hks
    induction ks with
    | nil => rfl
    | cons k rest ih =>
      obtain ⟨v, hv⟩ := Finmap.mem_iff.mp (hks k List.mem_cons_self)
      rw [List.filterMap_cons_some (by rw [hv]; rfl), List.map_cons,
        ih fun k' hk' => hks k' (List.mem_cons_of_mem _ hk')]
  exact hall _ fun k hk => Finmap.mem_keys.mp (mem_ordered.mp hk)

end FiniteMap

namespace Paging

def sorted {κ : Type} [LinearOrder κ] (values : Multiset κ) : List κ :=
  Quot.liftOn values (fun xs => xs.insertionSort (· ≤ ·)) fun _ _ => FiniteMap.insertionSort_perm

def sortedBy {α κ : Type} [LinearOrder κ] (key : α → κ) (values : List α) : List α :=
  values.insertionSort fun a b => key a ≤ key b

def cut {α : Type} (values : List α) (limit : Nat) : List α × Option α :=
  (values.take limit, if limit < values.length then (values.take limit).getLast? else none)

theorem cut_take {α : Type} (values : List α) (limit : Nat) :
    cut (values.take (limit + 1)) limit = cut values limit := by
  have htake : (values.take (limit + 1)).take limit = values.take limit := by
    rw [List.take_take, Nat.min_eq_left (Nat.le_succ limit)]
  have hmore : limit < (values.take (limit + 1)).length ↔ limit < values.length := by
    rw [List.length_take]
    omega
  simp only [cut, htake, hmore]

section Sorted
variable {κ : Type} [LinearOrder κ] {values : Multiset κ}

theorem sorted_perm (values : Multiset κ) : (sorted values : Multiset κ) = values := by
  obtain ⟨xs, hxs⟩ := Quot.exists_rep values
  rw [sorted, ← hxs]
  exact Quot.sound (List.perm_insertionSort _ xs)

theorem mem_sorted {k : κ} : k ∈ sorted values ↔ k ∈ values := by
  rw [← Multiset.mem_coe, sorted_perm]

theorem pairwise_sorted (h : values.Nodup) : (sorted values).Pairwise (· < ·) := by
  have hle : (sorted values).Pairwise (· ≤ ·) := by
    obtain ⟨xs, hxs⟩ := Quot.exists_rep values
    rw [sorted, ← hxs]
    exact List.pairwise_insertionSort _ xs
  rw [← sorted_perm values, Multiset.coe_nodup] at h
  exact (hle.and h).imp fun hlt => lt_of_le_of_ne hlt.1 hlt.2

variable {α : Type}

theorem mem_sortedBy {key : α → κ} {values : List α} {a : α} :
    a ∈ sortedBy key values ↔ a ∈ values := List.mem_insertionSort _

theorem nodup_sortedBy {key : α → κ} {values : List α} (h : values.Nodup) :
    (sortedBy key values).Nodup := (List.perm_insertionSort _ values).nodup_iff.mpr h

theorem pairwise_sortedBy {key : α → κ} (values : List α) :
    (sortedBy key values).Pairwise fun a b => key a ≤ key b := by
  have htotal : Std.Total fun a b : α => key a ≤ key b := ⟨fun _ _ => le_total _ _⟩
  have htrans : IsTrans α fun a b => key a ≤ key b := ⟨fun _ _ _ => le_trans⟩
  exact List.pairwise_insertionSort _ values

theorem sortedBy_of_perm {key : α → κ} {values ordered : List α} (hperm : values.Perm ordered)
    (h : ordered.Pairwise fun a b => key a < key b) : sortedBy key values = ordered := by
  have hinj : ∀ a ∈ ordered, ∀ b ∈ ordered, key a = key b → a = b :=
    fun a ha b hb hkey => List.inj_on_of_nodup_map
      (List.pairwise_map.mpr (h.imp fun hlt => hlt.ne)) ha hb hkey
  have hsorted := (List.perm_insertionSort (fun a b => key a ≤ key b) values).trans hperm
  refine List.Perm.eq_of_pairwise (fun a b ha hb hab hba => ?_) (pairwise_sortedBy values)
    (h.imp le_of_lt) hsorted
  exact hinj a (hsorted.subset ha) b hb (le_antisymm hab hba)

end Sorted

section Follow
variable {α κ : Type} [LinearOrder κ] {key : α → κ}

structure Remaining (key : α → κ) (present : Set α) (after : Option κ) (rest : List α) : Prop where
  ordered : rest.Pairwise fun a b => key a < key b
  mem : ∀ a, a ∈ rest ↔ a ∈ present ∧ ∀ position ∈ after, position < key a

inductive Followed (key : α → κ) :
    Option κ → List (Set α × List α) → Option κ → Prop
  | last {present : Set α} {after : Option κ} {rest : List α} {limit : Nat}
      (hrest : Remaining key present after rest) (hlimit : 0 < limit) :
      Followed key after [(present, (cut rest limit).1)] ((cut rest limit).2.map key)
  | more {present : Set α} {after : Option κ} {rest : List α} {limit : Nat} {position : κ}
      {reads : List (Set α × List α)} {final : Option κ} (hrest : Remaining key present after rest)
      (hlimit : 0 < limit) (hnext : (cut rest limit).2.map key = some position)
      (hreads : Followed key (some position) reads final) :
      Followed key after ((present, (cut rest limit).1) :: reads) final

def listed (reads : List (Set α × List α)) : List α := reads.flatMap (·.2)

variable {present : Set α} {after final : Option κ} {rest : List α} {limit : Nat} {position : κ}
  {reads : List (Set α × List α)}

omit [LinearOrder κ] in
theorem cut_last_mem {last : α} (h : (cut rest limit).2 = some last) : last ∈ (cut rest limit).1 := by
  rw [cut] at h ⊢
  dsimp only at h ⊢
  split at h
  · exact List.mem_of_getLast? h
  · cases h

theorem cut_subset : (cut rest limit).1 ⊆ rest := List.take_subset limit rest

omit [LinearOrder κ] in
theorem cut_none (h : (cut rest limit).2.map key = none) (hlimit : 0 < limit) :
    (cut rest limit).1 = rest := by
  rw [cut, Option.map_eq_none_iff] at h
  dsimp only at h
  split at h
  · next hmore =>
    rw [List.getLast?_eq_none_iff, List.take_eq_nil_iff] at h
    rcases h with rfl | rfl
    · exact absurd hlimit (Nat.lt_irrefl 0)
    · exact absurd hmore (Nat.not_lt_zero _)
  · next hall => exact List.take_of_length_le (Nat.le_of_not_lt hall)

theorem cut_some (hordered : rest.Pairwise fun a b => key a < key b)
    (h : (cut rest limit).2.map key = some position) {a : α} (ha : a ∈ rest) :
    a ∈ (cut rest limit).1 ↔ key a ≤ position := by
  obtain ⟨last, hlast, rfl⟩ := Option.map_eq_some_iff.mp h
  rw [cut] at hlast ⊢
  dsimp only at hlast ⊢
  split at hlast
  · obtain ⟨before, hbefore⟩ := List.getLast?_eq_some_iff.mp hlast
    have hsplit := hordered
    rw [← List.take_append_drop limit rest, List.pairwise_append] at hsplit
    obtain ⟨htake, -, hcross⟩ := hsplit
    have hin : last ∈ rest.take limit := hbefore ▸ List.mem_append_right _ List.mem_cons_self
    constructor
    · intro htaken
      rw [hbefore, List.pairwise_append] at htake
      rw [hbefore] at htaken
      rcases List.mem_append.mp htaken with hearlier | hsame
      · exact (htake.2.2 a hearlier last List.mem_cons_self).le
      · exact (List.mem_singleton.mp hsame ▸ le_refl _)
    · intro hle
      rw [← List.take_append_drop limit rest] at ha
      rcases List.mem_append.mp ha with htaken | hdropped
      · exact htaken
      · exact absurd (hcross last hin a hdropped) hle.not_gt
  · cases hlast

variable (h : Followed key after reads final)
include h

theorem Followed.past : ∀ a ∈ listed reads, ∀ position ∈ after, position < key a := by
  induction h with
  | last hrest hlimit =>
    intro a ha
    rw [listed, List.flatMap_singleton] at ha
    exact ((hrest.mem a).mp (cut_subset ha)).2
  | @more present after rest limit next reads final hrest hlimit hnext hreads ih =>
    intro a ha position hposition
    rw [listed, List.flatMap_cons] at ha
    rcases List.mem_append.mp ha with hfirst | hlater
    · exact ((hrest.mem a).mp (cut_subset hfirst)).2 position hposition
    · obtain ⟨last, hlast, hkey⟩ := Option.map_eq_some_iff.mp hnext
      have hbefore := ((hrest.mem last).mp (cut_subset (cut_last_mem hlast))).2 position hposition
      exact (hkey ▸ hbefore).trans (ih a hlater next rfl)

theorem Followed.ordered : (listed reads).Pairwise fun a b => key a < key b := by
  induction h with
  | last hrest hlimit =>
    rw [listed, List.flatMap_singleton]
    exact hrest.ordered.sublist (List.take_sublist _ _)
  | more hrest hlimit hnext hreads ih =>
    rw [listed, List.flatMap_cons, List.pairwise_append]
    refine ⟨hrest.ordered.sublist (List.take_sublist _ _), ih, fun a ha b hb => ?_⟩
    have hle := (cut_some hrest.ordered hnext (cut_subset ha)).mp ha
    exact hle.trans_lt (hreads.past b hb _ rfl)

theorem Followed.complete (hfinal : final = none) {k : κ}
    (hafter : ∀ position ∈ after, position < k)
    (hpresent : ∀ read ∈ reads, ∃ a ∈ read.1, key a = k) :
    ∃ read ∈ reads, ∃ a ∈ read.2, a ∈ read.1 ∧ key a = k := by
  induction h with
  | last hrest hlimit =>
    obtain ⟨a, ha, rfl⟩ := hpresent _ List.mem_cons_self
    refine ⟨_, List.mem_cons_self, a, ?_, ha, rfl⟩
    rw [cut_none hfinal hlimit]
    exact (hrest.mem a).mpr ⟨ha, hafter⟩
  | @more present after rest limit next reads final hrest hlimit hnext hreads ih =>
    obtain ⟨a, ha, rfl⟩ := hpresent _ List.mem_cons_self
    by_cases hle : key a ≤ next
    · refine ⟨_, List.mem_cons_self, a, ?_, ha, rfl⟩
      exact (cut_some hrest.ordered hnext ((hrest.mem a).mpr ⟨ha, hafter⟩)).mpr hle
    · obtain ⟨read, hread, hlisted⟩ := ih hfinal
        (fun position hposition => Option.some.inj hposition ▸ lt_of_not_ge hle)
        fun read hread => hpresent read (List.mem_cons_of_mem _ hread)
      exact ⟨read, List.mem_cons_of_mem _ hread, hlisted⟩

theorem Followed.listed_present : ∀ read ∈ reads, ∀ a ∈ read.2, a ∈ read.1 := by
  induction h with
  | last hrest hlimit =>
    intro read hread a ha
    cases List.mem_singleton.mp hread
    exact ((hrest.mem a).mp (cut_subset ha)).1
  | more hrest hlimit hnext hreads ih =>
    intro read hread a ha
    rcases List.mem_cons.mp hread with rfl | hlater
    · exact ((hrest.mem a).mp (cut_subset ha)).1
    · exact ih read hlater a ha

end Follow

end Paging
