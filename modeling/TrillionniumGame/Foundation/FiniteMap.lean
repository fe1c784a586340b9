import Mathlib.Algebra.BigOperators.Group.Finset.Basic
import Mathlib.Data.Finmap
import TrillionniumGame.Foundation.Checks

namespace FiniteMap

section
abbrev Dict (K V : Type) := Finmap fun _ : K => V

variable {K V : Type} [DecidableEq K]

variable (m : Dict K V)

theorem lookup_insert_ite (k k' : K) (v : V) :
    (m.insert k v).lookup k' = if k' = k then some v else m.lookup k' := by
  split
  · next h => rw [h, Finmap.lookup_insert]
  · next h => rw [Finmap.lookup_insert_of_ne _ h]

theorem lookup_erase_ite (k k' : K) :
    (m.erase k).lookup k' = if k' = k then none else m.lookup k' := by
  split
  · next h => rw [h, Finmap.lookup_erase]
  · next h => rw [Finmap.lookup_erase_ne h]

theorem keys_insert (k : K) (v : V) :
    (m.insert k v).keys = insert k m.keys := by
  ext x
  simp [Finmap.mem_keys]

theorem mem_of_lookup {m : Dict K V} {k : K} {v : V} (h : m.lookup k = some v) : k ∈ m :=
  Finmap.mem_of_lookup_eq_some h

theorem card_filter_insert (p : K → Prop) [DecidablePred p] {k : K} (v : V)
    (hp : p k) (hk : m.lookup k = none) :
    ((m.insert k v).keys.filter p).card = (m.keys.filter p).card + 1 := by
  rw [keys_insert, Finset.filter_insert, if_pos hp, Finset.card_insert_of_notMem]
  simp [Finmap.mem_keys, ← Finmap.lookup_eq_none, hk]

theorem filter_insert_of_not (p : K → Prop) [DecidablePred p] {k : K} (v : V)
    (hp : ¬ p k) : (m.insert k v).keys.filter p = m.keys.filter p := by
  rw [keys_insert, Finset.filter_insert, if_neg hp]

omit [DecidableEq K] in
theorem card_filter_eq_zero (p : K → Prop) [DecidablePred p]
    (h : ∀ k, p k → k ∉ m) : (m.keys.filter p).card = 0 := by
  rw [Finset.card_eq_zero, Finset.filter_eq_empty_iff]
  exact fun k hk hp => h k hp (Finmap.mem_keys.mp hk)

end

section
variable {K V : Type} [DecidableEq K]

def Each (m : Dict K V) (p : K → V → Prop) : Prop := ∀ k ∈ m.keys, ∀ v ∈ m.lookup k, p k v

instance (m : Dict K V) (p : K → V → Prop) [∀ k v, Decidable (p k v)] : Decidable (Each m p) := by
  unfold Each
  infer_instance

variable {m : Dict K V} {p : K → V → Prop}

theorem each_iff : Each m p ↔ ∀ k v, m.lookup k = some v → p k v := by
  constructor
  · intro h k v hlookup
    exact h k (Finmap.mem_keys.mpr (mem_of_lookup hlookup)) v hlookup
  · intro h k _ v hv
    exact h k v hv

variable {k : K} {v : V}

theorem each_insert (h : ∀ k' v', m.lookup k' = some v' → k' ≠ k → p k' v') (hv : p k v) :
    Each (m.insert k v) p := by
  refine each_iff.mpr fun k' v' hlookup => ?_
  rw [lookup_insert_ite] at hlookup
  split at hlookup
  · next heq =>
    cases hlookup
    exact heq ▸ hv
  · next hne => exact h k' v' hlookup hne

theorem insert_of_lookup (h : m.lookup k = some v) : m.insert k v = m := by
  refine Finmap.ext_lookup fun k' => ?_
  rw [lookup_insert_ite]
  split
  · next heq => rw [heq, h]
  · rfl

end

section
variable {K V α : Type} [DecidableEq K] {f : α → K} {g : α → V}

theorem lookup_foldl_insert_of_notMem {xs : List α} {k : K} (h : k ∉ xs.map f) (m : Dict K V) :
    (xs.foldl (fun m x => m.insert (f x) (g x)) m).lookup k = m.lookup k := by
  induction xs generalizing m with
  | nil => rfl
  | cons x rest ih =>
    rw [List.map_cons, List.mem_cons, not_or] at h
    rw [List.foldl_cons, ih h.2, Finmap.lookup_insert_of_ne _ h.1]

theorem lookup_foldl_insert {xs : List α} (hnodup : (xs.map f).Nodup) {x : α} (hx : x ∈ xs)
    (m : Dict K V) : (xs.foldl (fun m x => m.insert (f x) (g x)) m).lookup (f x) = some (g x) := by
  induction xs generalizing m with
  | nil => cases hx
  | cons y rest ih =>
    rw [List.map_cons, List.nodup_cons] at hnodup
    rw [List.foldl_cons]
    rcases List.mem_cons.mp hx with rfl | hrest
    · rw [lookup_foldl_insert_of_notMem hnodup.1, Finmap.lookup_insert]
    · exact ih hnodup.2 hrest _

theorem lookup_foldl_erase (xs : List α) (m : Dict K V) (k : K) :
    (xs.foldl (fun m x => m.erase (f x)) m).lookup k =
      if k ∈ xs.map f then none else m.lookup k := by
  induction xs generalizing m with
  | nil => simp
  | cons x rest ih =>
    rw [List.foldl_cons, ih, lookup_erase_ite, List.map_cons]
    by_cases hrest : k ∈ rest.map f
    · rw [if_pos hrest, if_pos (List.mem_cons_of_mem _ hrest)]
    · rw [if_neg hrest]
      by_cases hk : k = f x
      · rw [if_pos hk, if_pos (List.mem_cons.mpr (.inl hk))]
      · rw [if_neg hk, if_neg (by simp only [List.mem_cons, hk, hrest, or_self, not_false_eq_true])]

theorem mem_foldl_insert (xs : List α) (s : Finset K) (k : K) :
    k ∈ xs.foldl (fun s x => insert (f x) s) s ↔ k ∈ s ∨ k ∈ xs.map f := by
  induction xs generalizing s with
  | nil => simp
  | cons x rest ih =>
    rw [List.foldl_cons, ih, Finset.mem_insert, List.map_cons, List.mem_cons]
    constructor
    · rintro ((hk | hk) | hk)
      · exact .inr (.inl hk)
      · exact .inl hk
      · exact .inr (.inr hk)
    · rintro (hk | hk | hk)
      · exact .inl (.inr hk)
      · exact .inl (.inl hk)
      · exact .inr hk

theorem mem_foldl_erase (xs : List α) (s : Finset K) (k : K) :
    k ∈ xs.foldl (fun s x => s.erase (f x)) s ↔ k ∈ s ∧ k ∉ xs.map f := by
  induction xs generalizing s with
  | nil => simp
  | cons x rest ih =>
    rw [List.foldl_cons, ih, Finset.mem_erase, List.map_cons, List.mem_cons, not_or]
    constructor
    · rintro ⟨⟨hne, hk⟩, hrest⟩
      exact ⟨hk, hne, hrest⟩
    · rintro ⟨hk, hne, hrest⟩
      exact ⟨⟨hne, hk⟩, hrest⟩

end

section
variable {A K : Type} [DecidableEq A]

def Inverse (owner : Dict A K) (holds : K → A → Prop) : Prop :=
  ∀ a k, owner.lookup a = some k ↔ holds k a

variable {owner : Dict A K} {holds holds' : K → A → Prop}

theorem Inverse.congr (h : Inverse owner holds) (hsame : ∀ k a, holds' k a ↔ holds k a) :
    Inverse owner holds' := fun a k => (h a k).trans (hsame k a).symm

variable {a : A}

theorem Inverse.free (h : Inverse owner holds) : owner.lookup a = none ↔ ∀ k, ¬ holds k a := by
  rw [Option.eq_none_iff_forall_ne_some]
  exact forall_congr' fun k => not_congr (h a k)

theorem Inverse.insert (h : Inverse owner holds) (hfree : owner.lookup a = none) (k : K) :
    Inverse (owner.insert a k) fun k' a' => holds k' a' ∨ k' = k ∧ a' = a := by
  intro a' k'
  rw [lookup_insert_ite]
  split
  · next heq =>
    subst heq
    have hnone := h.free.mp hfree k'
    simp only [Option.some.injEq, hnone, false_or, and_true]
    exact eq_comm
  · next hne => simp [h a' k', hne]

theorem Inverse.erase (h : Inverse owner holds) (a : A) :
    Inverse (owner.erase a) fun k' a' => holds k' a' ∧ a' ≠ a := by
  intro a' k'
  rw [lookup_erase_ite]
  split
  · next heq => simp [heq]
  · next hne => simp [h a' k', hne]

theorem Inverse.unique (h : Inverse owner holds) {k k' : K} (hk : holds k a) (hk' : holds k' a) :
    k = k' := by
  have hfound := (h a k).mpr hk
  rw [(h a k').mpr hk'] at hfound
  exact (Option.some.inj hfound).symm

def Unowned (owner : Dict A K) (s : Finset A) : Prop := ∀ a ∈ s, owner.lookup a = none

variable {s : Finset A}

theorem Unowned.insert (h : Unowned owner s) (ha : a ∉ s) (k : K) :
    Unowned (owner.insert a k) s := by
  intro a' ha'
  have hne : a' ≠ a := fun heq => ha (heq ▸ ha')
  rw [Finmap.lookup_insert_of_ne _ hne]
  exact h a' ha'

theorem Unowned.erase (h : Unowned owner s) (a : A) : Unowned (owner.erase a) s := by
  intro a' ha'
  rw [lookup_erase_ite, h a' ha', ite_self]

end

section
variable {K : Type} [DecidableEq K] {m m' : Dict K Nat} {k : K} {v old : Nat}

def total (m : Dict K Nat) : Nat := m.keys.sum fun k => (m.lookup k).getD 0

theorem total_empty : total (∅ : Dict K Nat) = 0 := by simp [total]

def rest (m : Dict K Nat) (k : K) : Nat := (m.keys.erase k).sum fun k => (m.lookup k).getD 0

theorem total_of_lookup (h : m.lookup k = some v) : total m = v + rest m k := by
  have hk : k ∈ m.keys := Finmap.mem_keys.mpr (mem_of_lookup h)
  have hsum := Finset.add_sum_erase m.keys (fun k => (m.lookup k).getD 0) hk
  rw [h] at hsum
  exact hsum.symm

theorem total_of_notMem (h : k ∉ m) : total m = rest m k := by
  rw [total, rest, Finset.erase_eq_of_notMem fun hk => h (Finmap.mem_keys.mp hk)]

theorem rest_congr (hsame : ∀ k', k' ≠ k → m'.lookup k' = m.lookup k') : rest m' k = rest m k := by
  have hkeys : m'.keys.erase k = m.keys.erase k := by
    ext k'
    simp only [Finset.mem_erase, Finmap.mem_keys, Finmap.mem_iff]
    constructor
    · rintro ⟨hne, hk'⟩
      exact ⟨hne, hsame k' hne ▸ hk'⟩
    · rintro ⟨hne, hk'⟩
      exact ⟨hne, (hsame k' hne).symm ▸ hk'⟩
  rw [rest, rest, hkeys]
  exact Finset.sum_congr rfl fun k' hk' => by rw [hsame k' (Finset.mem_erase.mp hk').1]

theorem rest_insert (m : Dict K Nat) (k : K) (v : Nat) : rest (m.insert k v) k = rest m k :=
  rest_congr fun _ hne => Finmap.lookup_insert_of_ne m hne

theorem total_insert_new (h : k ∉ m) (v : Nat) : total (m.insert k v) = total m + v := by
  rw [total_of_lookup (Finmap.lookup_insert m), rest_insert, total_of_notMem h, Nat.add_comm]

theorem total_insert (h : m.lookup k = some old) (v : Nat) :
    total (m.insert k v) + old = total m + v := by
  rw [total_of_lookup (Finmap.lookup_insert m), rest_insert, total_of_lookup h]
  omega

theorem total_erase (h : m.lookup k = some old) : total (m.erase k) + old = total m := by
  have hrest : rest (m.erase k) k = rest m k := rest_congr fun _ hne => Finmap.lookup_erase_ne hne
  rw [total_of_notMem (Finmap.notMem_erase_self), hrest, total_of_lookup h, Nat.add_comm]

variable {V : Type}

theorem card_keys_insert {m : Dict K V} (h : k ∉ m) (v : V) :
    (m.insert k v).keys.card = m.keys.card + 1 := by
  rw [keys_insert, Finset.card_insert_of_notMem fun hk => h (Finmap.mem_keys.mp hk)]

theorem keys_insert_of_mem {m : Dict K V} (h : k ∈ m) (v : V) : (m.insert k v).keys = m.keys := by
  rw [keys_insert, Finset.insert_eq_of_mem (Finmap.mem_keys.mpr h)]

theorem keys_erase (m : Dict K V) (k : K) : (m.erase k).keys = m.keys.erase k := by
  ext k'
  simp [Finmap.mem_keys]

theorem card_keys_erase {m : Dict K V} (h : k ∈ m) : (m.erase k).keys.card + 1 = m.keys.card := by
  rw [keys_erase, Finset.card_erase_add_one (Finmap.mem_keys.mpr h)]

end

section
variable {A G V : Type} [DecidableEq A] [DecidableEq G] (index : Dict G (Finset A))

def members (g : G) : Finset A := (index.lookup g).getD ∅

def enroll (g : G) (a : A) : Dict G (Finset A) :=
  index.insert g (insert a (members index g))

def expel (g : G) (a : A) : Dict G (Finset A) :=
  match index.lookup g with
  | none => index
  | some held => if held.erase a = ∅ then index.erase g else index.insert g (held.erase a)

def NoEmpty (index : Dict G (Finset A)) : Prop := ∀ g held, index.lookup g = some held → held ≠ ∅

variable {index : Dict G (Finset A)} {g g' : G} {a : A}

theorem members_enroll (index : Dict G (Finset A)) (g g' : G) (a : A) :
    members (enroll index g a) g' =
      if g' = g then insert a (members index g) else members index g' := by
  rw [members, enroll, lookup_insert_ite]
  split
  · rfl
  · rfl

theorem members_expel (index : Dict G (Finset A)) (g g' : G) (a : A) :
    members (expel index g a) g' =
      if g' = g then (members index g).erase a else members index g' := by
  unfold expel members
  cases hheld : index.lookup g with
  | none =>
    dsimp only
    split
    · next heq =>
      rw [heq, hheld]
      rfl
    · rfl
  | some held =>
    dsimp only
    by_cases hempty : held.erase a = ∅
    · rw [if_pos hempty, lookup_erase_ite]
      split
      · exact hempty.symm
      · rfl
    · rw [if_neg hempty, lookup_insert_ite]
      split
      · rfl
      · rfl

theorem NoEmpty.enroll (h : NoEmpty index) (g : G) (a : A) : NoEmpty (enroll index g a) := by
  intro g' held hheld
  rw [FiniteMap.enroll, lookup_insert_ite] at hheld
  split at hheld
  · rw [← Option.some.inj hheld]
    exact Finset.insert_ne_empty _ _
  · exact h g' held hheld

theorem NoEmpty.expel (h : NoEmpty index) (g : G) (a : A) : NoEmpty (expel index g a) := by
  intro g' held hheld
  unfold FiniteMap.expel at hheld
  split at hheld
  · exact h g' held hheld
  · next hold _ =>
    split at hheld
    · rw [lookup_erase_ite] at hheld
      split at hheld
      · cases hheld
      · exact h g' held hheld
    · next hne =>
      rw [lookup_insert_ite] at hheld
      split at hheld
      · rw [← Option.some.inj hheld]
        exact hne
      · exact h g' held hheld

structure Groups (index : Dict G (Finset A)) (belongs : A → G → Prop) : Prop where
  exact : ∀ g a, a ∈ members index g ↔ belongs a g
  noEmpty : NoEmpty index

variable {belongs belongs' : A → G → Prop}

omit [DecidableEq A] in
theorem groups_empty (h : ∀ a g, ¬ belongs a g) : Groups (∅ : Dict G (Finset A)) belongs where
  exact g a := by simp [members, h a g]
  noEmpty g held hheld := by simp at hheld

omit [DecidableEq A] in
theorem Groups.congr (h : Groups index belongs) (hsame : ∀ a g, belongs' a g ↔ belongs a g) :
    Groups index belongs' :=
  ⟨fun g a => (h.exact g a).trans (hsame a g).symm, h.noEmpty⟩

theorem Groups.enroll (h : Groups index belongs) (g : G) (a : A) :
    Groups (enroll index g a) fun a' g' => belongs a' g' ∨ a' = a ∧ g' = g where
  exact g' a' := by
    rw [members_enroll]
    split
    · next heq =>
      subst heq
      rw [Finset.mem_insert, h.exact]
      tauto
    · next hne =>
      rw [h.exact]
      tauto
  noEmpty := h.noEmpty.enroll g a

theorem Groups.expel (h : Groups index belongs) (g : G) (a : A) :
    Groups (expel index g a) fun a' g' => belongs a' g' ∧ ¬ (a' = a ∧ g' = g) where
  exact g' a' := by
    rw [members_expel]
    split
    · next heq =>
      subst heq
      rw [Finset.mem_erase, h.exact]
      tauto
    · next hne =>
      rw [h.exact]
      tauto
  noEmpty := h.noEmpty.expel g a

omit [DecidableEq A] in

def grouped (m : Dict A V) (group : A → V → G) (a : A) (g : G) : Prop :=
  ∃ v, m.lookup a = some v ∧ group a v = g

variable {m m' : Dict A V} {group : A → V → G} {v : V}

omit [DecidableEq G] in
theorem grouped_insert (hfree : a ∉ m) (v : V) (a' : A) (g : G) :
    grouped (m.insert a v) group a' g ↔ grouped m group a' g ∨ a' = a ∧ g = group a v := by
  unfold grouped
  rw [lookup_insert_ite]
  split
  · next heq =>
    subst heq
    have hnone := Finmap.lookup_eq_none.mpr hfree
    simp [hnone, eq_comm]
  · next hne => simp [hne]

omit [DecidableEq G] in
theorem grouped_erase (hv : m.lookup a = some v) (a' : A) (g : G) :
    grouped (m.erase a) group a' g ↔
      grouped m group a' g ∧ ¬ (a' = a ∧ g = group a v) := by
  unfold grouped
  rw [lookup_erase_ite]
  split
  · next heq =>
    subst heq
    simp [hv, eq_comm]
  · next hne => simp [hne]

theorem Groups.insert (h : Groups index (grouped m group)) (hfree : a ∉ m) (v : V) :
    Groups (FiniteMap.enroll index (group a v) a) (grouped (m.insert a v) group) :=
  (h.enroll (group a v) a).congr fun a' g => grouped_insert hfree v a' g

theorem Groups.erase (h : Groups index (grouped m group)) (hv : m.lookup a = some v) :
    Groups (FiniteMap.expel index (group a v) a) (grouped (m.erase a) group) :=
  (h.expel (group a v) a).congr fun a' g => grouped_erase hv a' g

theorem Groups.card (h : Groups index (grouped m group)) (g : G) :
    (members index g).card =
      (m.keys.filter fun a => (m.lookup a).map (group a) = some g).card := by
  congr 1
  ext a
  rw [h.exact, Finset.mem_filter, Finmap.mem_keys, Finmap.mem_iff, Option.map_eq_some_iff]
  constructor
  · rintro ⟨v, hv, hg⟩
    exact ⟨⟨v, hv⟩, v, hv, hg⟩
  · rintro ⟨_, v, hv, hg⟩
    exact ⟨v, hv, hg⟩

theorem keys_subset (h : ∀ a v, m'.lookup a = some v → m.lookup a = some v) : m'.keys ⊆ m.keys := by
  intro a ha
  obtain ⟨v, hv⟩ := Finmap.mem_iff.mp (Finmap.mem_keys.mp ha)
  exact Finmap.mem_keys.mpr (mem_of_lookup (h a v hv))

end

end FiniteMap
