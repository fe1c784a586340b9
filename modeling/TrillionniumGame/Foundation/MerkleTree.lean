import Mathlib.Data.List.Basic

namespace MerkleTree

variable {A D E F : Type}

def pairUp (join : D → D → E) : List D → List E
  | [] => []
  | [d] => [join d d]
  | l :: r :: rest => join l r :: pairUp join rest

def climb (join : D → D → D) : Nat → List D → List D
  | 0, level => level
  | fuel + 1, level => if 1 < level.length then climb join fuel (pairUp join level) else level

theorem length_pairUp (join : D → D → E) (level : List D) :
    (pairUp join level).length = (level.length + 1) / 2 := by
  induction level using pairUp.induct with
  | case1 | case2 d => simp [pairUp]
  | case3 l r rest ih =>
    simp only [pairUp, List.length_cons, ih]
    omega

theorem map_pairUp (f : E → F) (join : D → D → E) (level : List D) :
    (pairUp join level).map f = pairUp (fun l r => f (join l r)) level := by
  induction level using pairUp.induct with
  | case1 => rfl
  | case2 d => rfl
  | case3 l r rest ih => rw [pairUp, pairUp, List.map_cons, ih]

theorem pairUp_map (f : E → D) (join : D → D → F) (level : List E) :
    pairUp join (level.map f) = pairUp (fun l r => join (f l) (f r)) level := by
  induction level using pairUp.induct with
  | case1 => rfl
  | case2 d => rfl
  | case3 l r rest ih => simp only [List.map_cons, pairUp, ih]

variable {fuel : Nat}

theorem length_climb (join : D → D → D) {level : List D} (hne : level ≠ [])
    (hfuel : level.length ≤ fuel + 1) : (climb join fuel level).length = 1 := by
  have hpos := List.length_pos_iff.mpr hne
  induction fuel generalizing level with
  | zero =>
    rw [climb]
    omega
  | succ fuel ih =>
    have hlength := length_pairUp join level
    rw [climb]
    split
    · refine ih (List.ne_nil_of_length_pos ?_) ?_ ?_ <;> omega
    · omega

theorem climb_map {f : E → D} {join : E → E → E} {join' : D → D → D}
    (hf : ∀ l r, f (join l r) = join' (f l) (f r)) (fuel : Nat) (level : List E) :
    (climb join fuel level).map f = climb join' fuel (level.map f) := by
  induction fuel generalizing level with
  | zero => rfl
  | succ fuel ih =>
    rw [climb, climb, List.length_map, pairUp_map]
    split
    · rw [ih, map_pairUp]
      simp only [hf]
    · rfl

inductive Tree (A : Type) where
  | leaf (input : A)
  | node (left right : Tree A)

variable (hash : A → D) (node : D → D → A)

def Tree.root : Tree A → D
  | .leaf input => hash input
  | .node left right => hash (node left.root right.root)

def Tree.leaves : Tree A → List A
  | .leaf input => [input]
  | .node left right => left.leaves ++ right.leaves

def Tree.inputs : Tree A → List A
  | .leaf input => [input]
  | .node left right => node (left.root hash node) (right.root hash node) :: left.inputs ++ right.inputs

def climbInputs : Nat → List D → List A
  | 0, _ => []
  | fuel + 1, level =>
    if 1 < level.length then
      pairUp node level ++ climbInputs fuel ((pairUp node level).map hash)
    else []

def Collide (xs ys : List A) : Prop := ∃ x ∈ xs, ∃ y ∈ ys, x ≠ y ∧ hash x = hash y

variable {hash node}

variable {xs ys : List A}

theorem Collide.mono {xs' ys' : List A} (h : Collide hash xs ys) (hx : xs ⊆ xs') (hy : ys ⊆ ys') :
    Collide hash xs' ys' := by
  obtain ⟨x, hmem, y, hmem', hne, heq⟩ := h
  exact ⟨x, hx hmem, y, hy hmem', hne, heq⟩

theorem eq_or_collide {x y : A} (hx : x ∈ xs) (hy : y ∈ ys) (h : hash x = hash y) :
    x = y ∨ Collide hash xs ys := by
  by_cases hne : x = y
  · exact .inl hne
  · exact .inr ⟨x, hx, y, hy, hne, h⟩

structure Separated (node : D → D → A) (IsLeaf : A → Prop) : Prop where
  apart : ∀ {a l r}, IsLeaf a → a ≠ node l r
  inj : ∀ {l r l' r'}, node l r = node l' r' → l = l' ∧ r = r'

variable {IsLeaf : A → Prop}

theorem Separated.tree_inj (h : Separated node IsLeaf) {s t : Tree A}
    (hs : ∀ a ∈ s.leaves, IsLeaf a) (ht : ∀ a ∈ t.leaves, IsLeaf a)
    (heq : s.root hash node = t.root hash node) :
    s = t ∨ Collide hash (s.inputs hash node) (t.inputs hash node) := by
  induction s generalizing t with
  | leaf a =>
    cases t with
    | leaf b =>
      rcases eq_or_collide (List.mem_singleton_self a) (List.mem_singleton_self b) heq with rfl | hc
      · exact .inl rfl
      · exact .inr hc
    | node l r =>
      have ha : IsLeaf a := hs a (List.mem_singleton_self a)
      exact .inr ⟨a, by simp [Tree.inputs], _, by simp [Tree.inputs], h.apart ha, heq⟩
  | node l r ihl ihr =>
    cases t with
    | leaf b =>
      have hb : IsLeaf b := ht b (List.mem_singleton_self b)
      exact .inr ⟨_, by simp [Tree.inputs], b, by simp [Tree.inputs], (h.apart hb).symm, heq⟩
    | node l' r' =>
      simp only [Tree.leaves, List.mem_append] at hs ht
      rcases eq_or_collide (List.mem_cons_self (l := (l.inputs hash node ++ r.inputs hash node)))
        (List.mem_cons_self (l := (l'.inputs hash node ++ r'.inputs hash node))) heq with hnode | hc
      · obtain ⟨hleft, hright⟩ := h.inj hnode
        rcases ihl (fun a ha => hs a (.inl ha)) (fun a ha => ht a (.inl ha)) hleft with rfl | hc
        · rcases ihr (fun a ha => hs a (.inr ha)) (fun a ha => ht a (.inr ha)) hright with rfl | hc
          · exact .inl rfl
          · refine .inr (hc.mono ?_ ?_) <;> exact List.subset_append_right _ _
        · refine .inr (hc.mono ?_ ?_) <;>
            exact List.Subset.trans (List.subset_append_left _ _) (List.subset_cons_self _ _)
      · exact .inr hc

variable {a : A} {ts : List (Tree A)}

theorem mem_leaves_pairUp : (∃ t ∈ pairUp Tree.node ts, a ∈ t.leaves) ↔ ∃ t ∈ ts, a ∈ t.leaves := by
  induction ts using pairUp.induct with
  | case1 => rfl
  | case2 t => simp [pairUp, Tree.leaves]
  | case3 l r rest ih =>
    simp only [pairUp, List.exists_mem_cons_iff, Tree.leaves, List.mem_append, ih, or_assoc]

theorem mem_leaves_climb :
    (∃ t ∈ climb Tree.node fuel ts, a ∈ t.leaves) ↔ ∃ t ∈ ts, a ∈ t.leaves := by
  induction fuel generalizing ts with
  | zero => rfl
  | succ fuel ih =>
    rw [climb]
    split
    · rw [ih, mem_leaves_pairUp]
    · rfl

theorem mem_inputs_pairUp (h : ∃ t ∈ pairUp Tree.node ts, a ∈ t.inputs hash node) :
    a ∈ pairUp node (ts.map (Tree.root hash node)) ∨ ∃ t ∈ ts, a ∈ t.inputs hash node := by
  induction ts using pairUp.induct with
  | case1 => simp [pairUp] at h
  | case2 t =>
    obtain ⟨_, hmem, ha⟩ := h
    cases List.mem_singleton.mp hmem
    simp only [Tree.inputs, List.cons_append, List.mem_cons, List.mem_append, or_self] at ha
    rcases ha with hnode | hold
    · exact .inl (hnode ▸ List.mem_cons_self)
    · exact .inr ⟨t, List.mem_singleton_self t, hold⟩
  | case3 l r rest ih =>
    rw [List.map_cons, List.map_cons, pairUp, List.mem_cons]
    obtain ⟨t, hmem, ha⟩ := h
    rcases List.mem_cons.mp hmem with rfl | hrest
    · simp only [Tree.inputs, List.cons_append, List.mem_cons, List.mem_append] at ha
      rcases ha with hnode | hleft | hright
      · exact .inl (.inl hnode)
      · exact .inr ⟨l, by simp, hleft⟩
      · exact .inr ⟨r, by simp, hright⟩
    · rcases ih ⟨t, hrest, ha⟩ with hpair | ⟨t', hmem', ha'⟩
      · exact .inl (.inr hpair)
      · exact .inr ⟨t', by simp [hmem'], ha'⟩

theorem mem_inputs_climb (h : ∃ t ∈ climb Tree.node fuel ts, a ∈ t.inputs hash node) :
    a ∈ climbInputs hash node fuel (ts.map (Tree.root hash node)) ∨
      ∃ t ∈ ts, a ∈ t.inputs hash node := by
  induction fuel generalizing ts with
  | zero => exact .inr h
  | succ fuel ih =>
    rw [climb] at h
    rw [climbInputs, List.length_map]
    split
    · next hlength =>
      rw [if_pos hlength] at h
      have hroots : (pairUp Tree.node ts).map (Tree.root hash node) =
          (pairUp node (ts.map (Tree.root hash node))).map hash := by
        rw [map_pairUp, map_pairUp, pairUp_map]
        rfl
      rcases ih h with habove | hlevel
      · rw [hroots] at habove
        exact .inl (List.mem_append_right _ habove)
      · rcases mem_inputs_pairUp hlevel with hpair | hold
        · exact .inl (List.mem_append_left _ hpair)
        · exact .inr hold
    · next hlength =>
      rw [if_neg hlength] at h
      exact .inr h

variable (hash node) in
def allInputs (leaves : List A) : List A :=
  leaves ++ climbInputs hash node leaves.length (leaves.map hash)

variable (hash node) in
def top (leaves : List A) : List D :=
  climb (fun l r => hash (node l r)) leaves.length (leaves.map hash)

variable (hash node) in
theorem top_tree {leaves : List A} (hne : leaves ≠ []) :
    ∃ t : Tree A, top hash node leaves = [t.root hash node] ∧
      (∀ a, a ∈ t.leaves ↔ a ∈ leaves) ∧
      t.inputs hash node ⊆ allInputs hash node leaves := by
  have hlength : (climb Tree.node leaves.length (leaves.map Tree.leaf)).length = 1 := by
    refine length_climb _ ?_ ?_
    · rwa [ne_eq, List.map_eq_nil_iff]
    · rw [List.length_map]
      omega
  obtain ⟨t, ht⟩ := List.length_eq_one_iff.mp hlength
  have hroots : (leaves.map Tree.leaf).map (Tree.root hash node) = leaves.map hash := by
    rw [List.map_map]
    rfl
  refine ⟨t, ?_, ?_, ?_⟩
  · have hclimb : (climb Tree.node leaves.length (leaves.map Tree.leaf)).map (Tree.root hash node) =
        climb (fun l r => hash (node l r)) leaves.length
          ((leaves.map Tree.leaf).map (Tree.root hash node)) :=
      climb_map (fun _ _ => rfl) _ _
    rw [ht, hroots] at hclimb
    exact hclimb.symm
  · intro a
    have hleaves : (∃ t ∈ climb Tree.node leaves.length (leaves.map Tree.leaf), a ∈ t.leaves) ↔
        ∃ t ∈ leaves.map Tree.leaf, a ∈ t.leaves := mem_leaves_climb
    rw [ht] at hleaves
    simpa [Tree.leaves] using hleaves
  · intro a ha
    have hmem : ∃ t ∈ climb Tree.node leaves.length (leaves.map Tree.leaf),
        a ∈ t.inputs hash node := ⟨t, ht ▸ List.mem_singleton_self t, ha⟩
    rcases mem_inputs_climb hmem with habove | hleaf
    · rw [hroots] at habove
      exact List.mem_append_right _ habove
    · obtain ⟨leaf, hleaf, hinput⟩ := hleaf
      obtain ⟨b, hb, rfl⟩ := List.mem_map.mp hleaf
      cases List.mem_singleton.mp hinput
      exact List.mem_append_left _ hb

theorem Separated.leaves_eq (h : Separated node IsLeaf) (hx : xs ≠ []) (hy : ys ≠ [])
    (hxs : ∀ a ∈ xs, IsLeaf a) (hys : ∀ a ∈ ys, IsLeaf a)
    (heq : (top hash node xs).head? = (top hash node ys).head?) :
    (∀ a, a ∈ xs ↔ a ∈ ys) ∨ Collide hash (allInputs hash node xs) (allInputs hash node ys) := by
  obtain ⟨s, hs, hsleaves, hsinputs⟩ := top_tree hash node hx
  obtain ⟨t, ht, htleaves, htinputs⟩ := top_tree hash node hy
  rw [hs, ht, List.head?_cons, List.head?_cons, Option.some.injEq] at heq
  have hleaf : ∀ a ∈ s.leaves, IsLeaf a := fun a ha => hxs a ((hsleaves a).mp ha)
  have hleaf' : ∀ a ∈ t.leaves, IsLeaf a := fun a ha => hys a ((htleaves a).mp ha)
  rcases h.tree_inj hleaf hleaf' heq with rfl | hc
  · exact .inl fun a => (hsleaves a).symm.trans (htleaves a)
  · exact .inr (hc.mono hsinputs htinputs)

end MerkleTree
