import Mathlib.Data.List.Chain
import Mathlib.Data.List.DropRight
import Mathlib.Data.List.Nodup
import Mathlib.Data.List.Perm.Basic
import Mathlib.Order.Lattice

namespace Entries

variable {K V : Type} [LinearOrder K]

def insertEntry (key : K) (value : V) : List (K × V) → List (K × V) × Bool
  | [] => ([(key, value)], false)
  | (k, v) :: rest =>
    if key < k then ((key, value) :: (k, v) :: rest, false)
    else if key = k then ((key, value) :: rest, true)
    else
      let (rest, found) := insertEntry key value rest
      ((k, v) :: rest, found)

def Ascending (entries : List (K × V)) : Prop := entries.Pairwise fun a b => a.1 < b.1

variable {entries : List (K × V)} {key : K} {value : V}

theorem insertEntry_last (h : ∀ entry ∈ entries, entry.1 < key) :
    insertEntry key value entries = (entries ++ [(key, value)], false) := by
  induction entries with
  | nil => rfl
  | cons entry rest ih =>
    obtain ⟨k, v⟩ := entry
    have hk : k < key := h (k, v) List.mem_cons_self
    rw [insertEntry, if_neg hk.asymm, if_neg hk.ne', ih fun entry hentry =>
      h entry (List.mem_cons_of_mem _ hentry)]
    rfl

theorem mem_insertEntry {entry : K × V} (h : entry ∈ (insertEntry key value entries).1) :
    entry = (key, value) ∨ entry ∈ entries := by
  induction entries with
  | nil => exact .inl (List.mem_singleton.mp h)
  | cons head rest ih =>
    obtain ⟨k, v⟩ := head
    rw [insertEntry] at h
    split at h
    · exact List.mem_cons.mp h
    · split at h
      · rcases List.mem_cons.mp h with rfl | hrest
        · exact .inl rfl
        · exact .inr (List.mem_cons_of_mem _ hrest)
      · rcases List.mem_cons.mp h with rfl | hrest
        · exact .inr List.mem_cons_self
        · exact (ih hrest).imp_right (List.mem_cons_of_mem _)

theorem Ascending.insertEntry (h : Ascending entries) (key : K) (value : V) :
    Ascending (insertEntry key value entries).1 := by
  induction entries with
  | nil => exact List.pairwise_singleton _ _
  | cons head rest ih =>
    obtain ⟨k, v⟩ := head
    obtain ⟨hhead, hrest⟩ := List.pairwise_cons.mp h
    rw [Entries.insertEntry]
    split
    · next hlt =>
      refine List.pairwise_cons.mpr ⟨fun entry hentry => ?_, h⟩
      rcases List.mem_cons.mp hentry with rfl | hmem
      · exact hlt
      · exact hlt.trans (hhead entry hmem)
    · next hge =>
      split
      · next heq => exact List.pairwise_cons.mpr ⟨fun entry hmem => heq ▸ hhead entry hmem, hrest⟩
      · next hne =>
        refine List.pairwise_cons.mpr ⟨fun entry hentry => ?_, ih hrest⟩
        rcases mem_insertEntry hentry with rfl | hmem
        · exact lt_of_le_of_ne (not_lt.mp hge) (Ne.symm hne)
        · exact hhead entry hmem

theorem insertEntry_perm (h : (insertEntry key value entries).2 = false) :
    (insertEntry key value entries).1.Perm ((key, value) :: entries) := by
  induction entries with
  | nil => exact List.Perm.refl _
  | cons head rest ih =>
    obtain ⟨k, v⟩ := head
    rw [insertEntry] at h ⊢
    split at h
    · next hlt =>
      rw [if_pos hlt]
    · next hge =>
      rw [if_neg hge]
      split at h
      · cases h
      · next hne =>
        rw [if_neg hne]
        exact ((ih h).cons (k, v)).trans (List.Perm.swap _ _ _)

end Entries

namespace Windows

variable {α : Type} {f : α → ℕ} {xs : List α} {x : α} {capacity : ℕ}

def Counted (f : α → ℕ) (xs : List α) : Prop := xs.map f = List.range' 1 xs.length

theorem Counted.snoc (h : Counted f xs) (hx : f x = xs.length + 1) : Counted f (xs ++ [x]) := by
  rw [Counted, List.map_append, h, List.length_append, List.map_singleton, hx,
    List.length_singleton, List.range'_concat, Nat.one_mul, Nat.add_comm 1]

theorem Counted.left {ys : List α} (h : Counted f (xs ++ ys)) : Counted f xs := by
  rw [Counted, List.map_append, List.length_append, ← List.range'_append, Nat.one_mul] at h
  exact List.append_inj_left h (by rw [List.length_map, List.length_range'])

section

variable (h : Counted f xs)
include h

theorem Counted.nodup : xs.Nodup := by
  have hmap : (xs.map f).Nodup := by
    rw [h]
    exact List.nodup_range'
  exact hmap.of_map f

theorem Counted.getElem {index : ℕ} (hindex : index < xs.length) : f xs[index] = index + 1 := by
  have hmap : (xs.map f)[index]? = (List.range' 1 xs.length)[index]? := congrArg (·[index]?) h
  rw [List.getElem?_map, List.getElem?_eq_getElem hindex, List.getElem?_range' hindex] at hmap
  have hvalue := Option.some.inj hmap
  omega

theorem Counted.drop_mem (start : ℕ) : ∀ x ∈ xs.drop start, start < f x := by
  intro x hx
  obtain ⟨index, hindex, rfl⟩ := List.getElem_of_mem hx
  rw [List.length_drop] at hindex
  rw [List.getElem_drop, h.getElem (by omega)]
  omega

theorem Counted.take_mem (start : ℕ) : ∀ x ∈ xs.take start, f x ≤ start := by
  intro x hx
  obtain ⟨index, hindex, rfl⟩ := List.getElem_of_mem hx
  rw [List.length_take] at hindex
  rw [List.getElem_take, h.getElem (by omega)]
  omega

theorem Counted.mem_drop {start : ℕ} (hx : x ∈ xs) (hlater : start < f x) : x ∈ xs.drop start := by
  rw [← List.take_append_drop start xs] at hx
  rcases List.mem_append.mp hx with hbefore | hafter
  · have hle := h.take_mem start x hbefore
    omega
  · exact hafter

theorem Counted.filter_drop {kept start : ℕ} (hle : kept ≤ start) :
    (xs.drop kept).filter (fun x => start < f x) = xs.drop start := by
  have hsplit : xs.drop kept = (xs.take start).drop kept ++ xs.drop start := by
    rw [List.drop_take, ← Nat.add_sub_cancel' hle, ← List.drop_drop, Nat.add_sub_cancel_left,
      List.take_append_drop]
  have hbefore : ((xs.take start).drop kept).filter (fun x => start < f x) = [] := by
    refine List.filter_eq_nil_iff.mpr fun x hx => ?_
    simpa using h.take_mem start x (List.mem_of_mem_drop hx)
  have hafter : (xs.drop start).filter (fun x => start < f x) = xs.drop start := by
    refine List.filter_eq_self.mpr fun x hx => ?_
    simpa using h.drop_mem start x hx
  rw [hsplit, List.filter_append, hbefore, hafter, List.nil_append]

end

theorem length_rtake (xs : List α) (capacity : ℕ) :
    (xs.rtake capacity).length = min capacity xs.length := by
  rw [List.rtake, List.length_drop]
  omega

theorem rtake_snoc (hcapacity : 0 < capacity) :
    (if (xs.rtake capacity).length = capacity then (xs.rtake capacity).tail
      else xs.rtake capacity) ++ [x] = (xs ++ [x]).rtake capacity := by
  rw [length_rtake]
  split
  · next hfull =>
    obtain ⟨less, rfl⟩ := Nat.exists_eq_succ_of_ne_zero hcapacity.ne'
    rw [List.rtake_concat_succ, List.rtake, List.rtake, List.tail_drop]
    congr 2
    omega
  · next hroom =>
    rw [List.rtake, List.rtake, List.length_append, List.length_singleton,
      Nat.sub_eq_zero_of_le (by omega), Nat.sub_eq_zero_of_le (by omega), List.drop_zero,
      List.drop_zero]

end Windows

namespace History

variable {ε σ : Type*} {before after : ε → σ}

def Linked (before after : ε → σ) : σ → List ε → σ → Prop
  | s, [], t => s = t
  | s, e :: es, t => before e = s ∧ Linked before after (after e) es t

theorem linked_snoc {s t : σ} {es : List ε} {e : ε} :
    Linked before after s (es ++ [e]) t ↔ Linked before after s es (before e) ∧ after e = t := by
  induction es generalizing s with
  | nil => exact ⟨fun ⟨h, k⟩ => ⟨h.symm, k⟩, fun ⟨h, k⟩ => ⟨h.symm, k⟩⟩
  | cons e' es ih =>
    constructor
    · rintro ⟨hb, hl⟩
      exact ⟨⟨hb, (ih.mp hl).1⟩, (ih.mp hl).2⟩
    · rintro ⟨⟨hb, hl⟩, ha⟩
      exact ⟨hb, ih.mpr ⟨hl, ha⟩⟩

variable {s t : σ} {es : List ε}

theorem Linked.isChain {R : σ → σ → Prop} (h : Linked before after s es t)
    (hstep : ∀ e ∈ es, R (before e) (after e)) : List.IsChain R (s :: es.map after) := by
  induction es generalizing s with
  | nil => exact List.isChain_singleton s
  | cons e es ih =>
    obtain ⟨rfl, hl⟩ := h
    rw [List.map_cons, List.isChain_cons_cons]
    exact ⟨hstep e (by simp), ih hl fun e' he' => hstep e' (List.mem_cons_of_mem _ he')⟩

theorem Linked.last_mem (h : Linked before after s es t) : t ∈ s :: es.map after := by
  induction es generalizing s with
  | nil => exact List.mem_singleton.mpr h.symm
  | cons e es ih => exact List.mem_cons_of_mem _ (ih h.2)

variable {f : σ → ℕ}

theorem Linked.tally {p : ε → Prop} [DecidablePred p] (h : Linked before after s es t)
    (hstep : ∀ e ∈ es, f (after e) = f (before e) + if p e then 1 else 0) :
    f t = f s + (es.filter p).length := by
  induction es generalizing s with
  | nil => exact congrArg f h.symm
  | cons e es ih =>
    obtain ⟨rfl, hl⟩ := h
    have hfirst := hstep e (by simp)
    rw [ih hl fun e' he' => hstep e' (List.mem_cons_of_mem _ he'), hfirst, List.filter_cons]
    by_cases hp : p e
    · simp only [hp, if_true, decide_true, List.length_cons]
      omega
    · simp [hp]

theorem Linked.count (h : Linked before after s es t)
    (hstep : ∀ e ∈ es, f (after e) = f (before e) + 1) : f t = f s + es.length := by
  simpa using h.tally (p := fun _ => True) hstep

theorem Linked.count_mod {m : ℕ} (h : Linked before after s es t)
    (hstep : ∀ e ∈ es, f (after e) = (f (before e) + 1) % m) : f t % m = (f s + es.length) % m := by
  induction es generalizing s with
  | nil =>
    obtain rfl : s = t := h
    rfl
  | cons e es ih =>
    obtain ⟨rfl, hl⟩ := h
    rw [ih hl fun e' he' => hstep e' (List.mem_cons_of_mem _ he'), hstep e (by simp),
      Nat.mod_add_mod, List.length_cons]
    congr 1
    omega

variable (h : Linked before after s es t)
include h

theorem Linked.positions (hstep : ∀ e ∈ es, f (after e) = f (before e) + 1) :
    es.map (fun e => f (before e)) = List.range' (f s) es.length := by
  induction es generalizing s with
  | nil => rfl
  | cons e es ih =>
    obtain ⟨rfl, hl⟩ := h
    rw [List.map_cons, List.length_cons, List.range'_succ,
      ih hl fun e' he' => hstep e' (List.mem_cons_of_mem _ he'), hstep e (by simp)]

theorem Linked.eq_last_or_lt (hstep : ∀ e ∈ es, f (before e) < f (after e)) :
    ∀ u ∈ s :: es.map after, u = t ∨ f u < f t := by
  induction es generalizing s with
  | nil =>
    intro u hu
    exact .inl ((List.mem_singleton.mp hu).trans h)
  | cons e es ih =>
    obtain ⟨rfl, hl⟩ := h
    have hrest := ih hl fun e' he' => hstep e' (List.mem_cons_of_mem _ he')
    intro u hu
    rcases List.mem_cons.mp hu with rfl | hu
    · have hfirst := hstep e (by simp)
      rcases hrest (after e) (by simp) with heq | hlt
      · exact .inr (heq ▸ hfirst)
      · exact .inr (hfirst.trans hlt)
    · exact hrest u hu

theorem Linked.eq_last (hstep : ∀ e ∈ es, f (before e) < f (after e)) {u : σ}
    (hu : u ∈ s :: es.map after) (heq : f u = f t) : u = t :=
  (h.eq_last_or_lt hstep u hu).resolve_right heq.not_lt

end History
