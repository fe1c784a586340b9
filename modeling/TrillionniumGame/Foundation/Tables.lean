import Mathlib.Data.List.Nodup
import TrillionniumGame.Foundation.Checks

namespace Tables
open Checks

variable {R : Type}

inductive Violation where
  | check | unique | foreignKey

structure Schema (R : Type) where
  check : R → Bool
  clash : R → R → Bool

def queryOpt (table : List R) (p : R → Bool) : Except Unit (Option R) :=
  match table.filter p with
  | [] => .ok none
  | [row] => .ok (some row)
  | _ => .error ()

def insert (schema : Schema R) (row : R) (table : List R) : Except Violation (List R) := do
  require (schema.check row) .check
  require (table.all fun held => !schema.clash row held) .unique
  return row :: table

def assign (p : R → Bool) (f : R → R) (table : List R) : List R :=
  table.map fun row => if p row then f row else row

def update (schema : Schema R) (p : R → Bool) (f : R → R) (table : List R) :
    Except Violation (List R × Nat) := do
  require ((table.filter p).all fun row => schema.check (f row)) .check
  return (assign p f table, table.countP p)

variable {schema : Schema R} {table table' : List R} {p q : R → Bool} {f : R → R} {row : R}

theorem filter_unique (h : table.Pairwise fun row row' => ¬ (p row = true ∧ p row' = true))
    (hrow : row ∈ table) (hp : p row = true) : table.filter p = [row] := by
  have hmem : row ∈ table.filter p := List.mem_filter.mpr ⟨hrow, hp⟩
  match hrows : table.filter p with
  | [] =>
    rw [hrows] at hmem
    cases hmem
  | [row'] =>
    rw [hrows, List.mem_singleton] at hmem
    rw [hmem]
  | row' :: row'' :: rest =>
    have hpair := h.filter p
    have hall : ∀ r ∈ table.filter p, p r = true := fun r hr => (List.mem_filter.mp hr).2
    rw [hrows] at hpair hall
    exact absurd ⟨hall row' (by simp), hall row'' (by simp)⟩
      ((List.pairwise_cons.mp hpair).1 row'' (by simp))

theorem queryOpt_find (h : table.Pairwise fun row row' => ¬ (p row = true ∧ p row' = true)) :
    queryOpt table p = .ok (table.find? p) := by
  rw [queryOpt, ← List.head?_filter]
  cases hrows : table.filter p with
  | nil => rfl
  | cons row rest =>
    have hmem := List.mem_filter.mp (hrows ▸ List.mem_cons_self : row ∈ table.filter p)
    have hone := filter_unique h hmem.1 hmem.2
    rw [hrows] at hone
    rw [hone]
    rfl

theorem find_unique (hrow : row ∈ table) (hp : p row = true)
    (hunique : ∀ row' ∈ table, p row' = true → row' = row) : table.find? p = some row := by
  cases hfound : table.find? p with
  | none => exact absurd hp (List.find?_eq_none.mp hfound row hrow)
  | some row' =>
    rw [hunique row' (List.mem_of_find?_eq_some hfound) (List.find?_some hfound)]

theorem insert_ok : insert schema row table = .ok table' ↔
    schema.check row = true ∧ (∀ held ∈ table, schema.clash row held = false) ∧
      row :: table = table' := by
  unfold insert
  constructor
  · intro h
    obtain ⟨_, hcheck, h⟩ := bind_ok.mp h
    obtain ⟨_, hfree, h⟩ := bind_ok.mp h
    have hall := List.all_eq_true.mp (require_ok.mp hfree)
    exact ⟨require_ok.mp hcheck, fun held hheld => by simpa using hall held hheld,
      Except.ok.inj h⟩
  · rintro ⟨hcheck, hfree, rfl⟩
    rw [require_of hcheck, ok_bind, require_of, ok_bind]
    · rfl
    · exact List.all_eq_true.mpr fun held hheld => by simp [hfree held hheld]

theorem update_ok {count : Nat} : update schema p f table = .ok (table', count) ↔
    (∀ row ∈ table.filter p, schema.check (f row) = true) ∧ assign p f table = table' ∧
      table.countP p = count := by
  unfold update
  constructor
  · intro h
    obtain ⟨_, hcheck, h⟩ := bind_ok.mp h
    have hpair := Except.ok.inj h
    exact ⟨List.all_eq_true.mp (require_ok.mp hcheck), congrArg Prod.fst hpair,
      congrArg Prod.snd hpair⟩
  · rintro ⟨hcheck, rfl, rfl⟩
    rw [require_of (List.all_eq_true.mpr hcheck), ok_bind]
    rfl

theorem update_check (hrow : row ∈ table.filter p) (hbad : schema.check (f row) = false) :
    update schema p f table = .error .check := by
  unfold update
  rw [require, if_neg]
  · rfl
  · intro hall
    rw [List.all_eq_true.mp hall row hrow] at hbad
    cases hbad

theorem mem_assign {row' : R} : row' ∈ assign p f table ↔
    ∃ row ∈ table, (if p row then f row else row) = row' := List.mem_map

theorem assign_eq_self (h : ∀ row ∈ table, p row = false) : assign p f table = table := by
  rw [assign]
  refine (List.map_congr_left fun row hrow => ?_).trans (List.map_id table)
  rw [h row hrow]
  rfl

theorem find?_assign (hkeeps : ∀ row, q (f row) = q row) :
    (assign p f table).find? q =
      (table.find? q).map fun row => if p row then f row else row := by
  have hsame : (q ∘ fun row => if p row then f row else row) = q := by
    funext row
    dsimp only [Function.comp]
    split
    · exact hkeeps row
    · rfl
  rw [assign, List.find?_map, hsame]

theorem filter_assign (hkeeps : ∀ row, q (f row) = q row) :
    (assign p f table).filter q = assign p f (table.filter q) := by
  rw [assign, assign, List.filter_map]
  congr 1
  refine List.filter_congr fun row _ => ?_
  dsimp only [Function.comp]
  split
  · exact hkeeps row
  · rfl

theorem map_assign {K : Type} {key : R → K} (hkeeps : ∀ row, key (f row) = key row) :
    (assign p f table).map key = table.map key := by
  rw [assign, List.map_map]
  refine List.map_congr_left fun row _ => ?_
  dsimp only [Function.comp]
  split
  · exact hkeeps row
  · rfl

theorem filter_within (hwithin : ∀ row, p row = true → q row = true) :
    (table.filter q).filter p = table.filter p := by
  rw [List.filter_filter]
  refine List.filter_congr fun row _ => ?_
  cases hp : p row with
  | false => rfl
  | true => rw [hwithin row hp, Bool.true_and]

theorem assign_outside (houtside : ∀ row, p row = true → q row = false)
    (hkeeps : ∀ row, q (f row) = q row) : (assign p f table).filter q = table.filter q := by
  rw [filter_assign hkeeps]
  refine assign_eq_self fun row hrow => ?_
  have hq := (List.mem_filter.mp hrow).2
  cases hp : p row with
  | false => rfl
  | true =>
    rw [houtside row hp] at hq
    cases hq

end Tables
