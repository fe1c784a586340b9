import Mathlib.Data.List.Basic

namespace Calls

def Method (ε σ α : Type) : Type := σ → Except ε α × σ

variable {ε σ α β : Type}

instance : Monad (Method ε σ) where
  pure a := fun s => (.ok a, s)
  bind m f := fun s =>
    match m s with
    | (.ok a, t) => f a t
    | (.error e, t) => (.error e, t)

def read : Method ε σ σ := fun s => (.ok s, s)

def write (f : σ → σ) : Method ε σ Unit := fun s => (.ok (), f s)

def check (x : Except ε α) : Method ε σ α := fun s => (x, s)

def Ran (m : Method ε σ α) (s : σ) (r : Except ε α) (t : σ) : Prop := m s = (r, t)

variable {m : Method ε σ α} {f : α → Method ε σ β} {s t : σ} {a : α} {b : β} {e : ε}

theorem bind_apply (s : σ) : (m >>= f) s =
    match m s with
    | (.ok a, t) => f a t
    | (.error e, t) => (.error e, t) := rfl

theorem read_apply (s : σ) : (read : Method ε σ σ) s = (.ok s, s) := rfl

theorem check_apply (x : Except ε α) (s : σ) : (check x : Method ε σ α) s = (x, s) := rfl

theorem pure_apply (a : α) (s : σ) : (pure a : Method ε σ α) s = (.ok a, s) := rfl

theorem ran_pure {a' : α} : Ran (pure a : Method ε σ α) s (.ok a') t ↔ a = a' ∧ s = t := by
  simp [Ran, pure]

theorem ran_read {s' : σ} : Ran (read : Method ε σ σ) s (.ok s') t ↔ s = s' ∧ s = t := by
  simp [Ran, read]

theorem ran_write {g : σ → σ} {u : Unit} : Ran (write g : Method ε σ Unit) s (.ok u) t ↔ g s = t := by
  simp [Ran, write]

theorem ran_check {x : Except ε α} : Ran (check x : Method ε σ α) s (.ok a) t ↔
    x = .ok a ∧ s = t := by
  simp [Ran, check]

theorem ran_bind : Ran (m >>= f) s (.ok b) t ↔
    ∃ a u, Ran m s (.ok a) u ∧ Ran (f a) u (.ok b) t := by
  unfold Ran
  rw [bind_apply]
  rcases m s with ⟨r | a, u⟩
  · simp
  · constructor
    · intro h
      exact ⟨a, u, rfl, h⟩
    · rintro ⟨a', u', h, hf⟩
      simp only [Prod.mk.injEq, Except.ok.injEq] at h
      obtain ⟨rfl, rfl⟩ := h
      exact hf

theorem ran_read_bind {f : σ → Method ε σ β} :
    Ran (read >>= f) s (.ok b) t ↔ Ran (f s) s (.ok b) t := Iff.rfl

theorem ran_check_bind {x : Except ε α} :
    Ran (check x >>= f) s (.ok b) t ↔ ∃ a, x = .ok a ∧ Ran (f a) s (.ok b) t := by
  rw [ran_bind]
  constructor
  · rintro ⟨a, _, hcheck, h⟩
    obtain ⟨rfl, rfl⟩ := ran_check.mp hcheck
    exact ⟨a, rfl, h⟩
  · rintro ⟨a, rfl, h⟩
    exact ⟨a, s, ran_check.mpr ⟨rfl, rfl⟩, h⟩

theorem ran_write_bind {g : σ → σ} {f : Unit → Method ε σ β} :
    Ran (write g >>= f) s (.ok b) t ↔ Ran (f ()) (g s) (.ok b) t := Iff.rfl

def Clean (m : Method ε σ α) : Prop := ∀ s e t, Ran m s (.error e) t → t = s

def Reads (m : Method ε σ α) : Prop := ∀ s, (m s).2 = s

def Succeeds (m : Method ε σ α) : Prop := ∀ s e t, ¬ Ran m s (.error e) t

theorem reads_read : Reads (read : Method ε σ σ) := fun _ => rfl

theorem reads_check (x : Except ε α) : Reads (check x : Method ε σ α) := fun _ => rfl

theorem succeeds_pure (a : α) : Succeeds (pure a : Method ε σ α) := by
  intro s e t h
  simp [Ran, pure] at h

theorem succeeds_read : Succeeds (read : Method ε σ σ) := by
  intro s e t h
  simp [Ran, read] at h

theorem succeeds_write (g : σ → σ) : Succeeds (write g : Method ε σ Unit) := by
  intro s e t h
  simp [Ran, write] at h

theorem ran_bind_error : Ran (m >>= f) s (.error e) t ↔
    Ran m s (.error e) t ∨ ∃ a u, Ran m s (.ok a) u ∧ Ran (f a) u (.error e) t := by
  unfold Ran
  rw [bind_apply]
  rcases m s with ⟨r | a, u⟩
  · simp
  · constructor
    · intro h
      exact .inr ⟨a, u, rfl, h⟩
    · rintro (h | ⟨a', u', h, hf⟩)
      · cases h
      · simp only [Prod.mk.injEq, Except.ok.injEq] at h
        obtain ⟨rfl, rfl⟩ := h
        exact hf

theorem Succeeds.bind (hm : Succeeds m) (hf : ∀ a, Succeeds (f a)) : Succeeds (m >>= f) := by
  intro s e t h
  rcases ran_bind_error.mp h with hfail | ⟨a, u, _, hfail⟩
  · exact hm s e t hfail
  · exact hf a u e t hfail

theorem Succeeds.clean (h : Succeeds m) : Clean m := fun s e t hfail => (h s e t hfail).elim

theorem Reads.clean (h : Reads m) : Clean m := by
  intro s e t hfail
  have hstate := h s
  rw [hfail] at hstate
  exact hstate

theorem Reads.bind (hm : Reads m) (hf : ∀ a, Clean (f a)) : Clean (m >>= f) := by
  intro s e t h
  rcases ran_bind_error.mp h with hfail | ⟨a, u, hran, hfail⟩
  · exact hm.clean s e t hfail
  · have hstate := hm s
    rw [hran] at hstate
    obtain rfl : u = s := hstate
    exact hf a u e t hfail

theorem Clean.bind (hm : Clean m) (hf : ∀ a, Succeeds (f a)) : Clean (m >>= f) := by
  intro s e t h
  rcases ran_bind_error.mp h with hfail | ⟨a, u, _, hfail⟩
  · exact hm s e t hfail
  · exact (hf a u e t hfail).elim

end Calls

namespace Checks

variable {ε α β : Type}

instance (priority := high) forallMemOption {p : α → Prop} [DecidablePred p] (o : Option α) :
    Decidable (∀ a ∈ o, p a) := o.decidableForallMem

instance (priority := high) forallMemList {p : α → Prop} [DecidablePred p] (xs : List α) :
    Decidable (∀ a ∈ xs, p a) := xs.decidableBAll p

theorem forall_byte {P : UInt8 → Prop} (h : ∀ n < 256, P (UInt8.ofNat n)) (byte : UInt8) :
    P byte :=
  UInt8.ofNat_toNat (x := byte) ▸ h byte.toNat byte.toNat_lt

def require (c : Prop) [Decidable c] (e : ε) : Except ε Unit := if c then .ok () else .error e

theorem require_ok {c : Prop} [Decidable c] {e : ε} {u : Unit} : require c e = .ok u ↔ c := by
  unfold require
  split <;> simp [*]

theorem require_error {c : Prop} [Decidable c] {e e' : ε} :
    require c e = .error e' ↔ ¬ c ∧ e = e' := by
  unfold require
  split <;> simp [*]

theorem require_of {c : Prop} [Decidable c] {e : ε} (h : c) : require c e = .ok () := if_pos h

theorem ok_bind {a : α} {f : α → Except ε β} : (.ok a >>= f) = f a := rfl

theorem ok_inj {a a' : α} {b b' : β} (h : (.ok (a, b) : Except ε (α × β)) = .ok (a', b')) :
    a = a' ∧ b = b' :=
  Prod.mk.inj (Except.ok.inj h)

theorem forall_cons {Q : α → Prop} (x : α) (xs : List α) (hx : Q x) (hxs : ∀ y ∈ xs, Q y) :
    ∀ y ∈ x :: xs, Q y :=
  List.forall_mem_cons.mpr ⟨hx, hxs⟩

theorem eq_map {g : List α → List β} {f : α → β} (hnil : g [] = [])
    (hcons : ∀ x xs, g (x :: xs) = f x :: g xs) (xs : List α) : g xs = xs.map f := by
  induction xs with
  | nil => exact hnil
  | cons x xs ih => rw [hcons, ih, List.map_cons]

theorem bind_ok {x : Except ε α} {f : α → Except ε β} {b : β} :
    (x >>= f) = .ok b ↔ ∃ a, x = .ok a ∧ f a = .ok b := by
  cases x with
  | error e | ok a => simp [bind, Except.bind]

theorem bind_error {x : Except ε α} {f : α → Except ε β} {e : ε} :
    (x >>= f) = .error e ↔ x = .error e ∨ ∃ a, x = .ok a ∧ f a = .error e := by
  cases x with
  | error e' | ok a => simp [bind, Except.bind]

def fetch (x : Option α) (e : ε) : Except ε α := x.elim (.error e) .ok

theorem fetch_ok {x : Option α} {e : ε} {a : α} : fetch x e = .ok a ↔ x = some a := by
  cases x <;> simp [fetch]

theorem fetch_error {x : Option α} {e e' : ε} : fetch x e = .error e' ↔ x = none ∧ e = e' := by
  cases x <;> simp [fetch]

theorem mapError_ok {ε' : Type} {f : ε → ε'} {x : Except ε α} {a : α} :
    x.mapError f = .ok a ↔ x = .ok a := by
  cases x <;> simp [Except.mapError]

theorem mapError_bind {ε' : Type} {g : ε → ε'} {x : Except ε α} {f : α → Except ε β} :
    (x >>= f).mapError g = x.mapError g >>= fun a => (f a).mapError g := by
  cases x <;> rfl

theorem mapError_require {ε' : Type} {g : ε → ε'} {c : Prop} [Decidable c] {e : ε} :
    (require c e).mapError g = require c (g e) := by
  unfold require
  split <;> rfl

theorem map_ok {f : α → β} {x : Except ε α} {b : β} :
    x.map f = .ok b ↔ ∃ a, x = .ok a ∧ f a = b := by
  cases x <;> simp [Except.map]

theorem ok_of_map {f : α → β} {x : Except ε α} {b : β} (h : x.toOption.map f = some b) :
    ∃ a, x = .ok a ∧ f a = b := by
  cases x with
  | error e => cases h
  | ok a => exact ⟨a, rfl, Option.some.inj h⟩

theorem ok_of_isOk {x : Except ε α} (h : x.isOk = true) : ∃ a, x = .ok a := by
  cases x with
  | error e => cases h
  | ok a => exact ⟨a, rfl⟩

end Checks

namespace Checks

variable {ε α σ : Type} {x : Except ε (α × σ)} {s t : σ} {a : α} {e : ε}

def answer (x : Except ε (α × σ)) (s : σ) : Except ε α × σ :=
  match x with
  | .ok (a, t) => (.ok a, t)
  | .error e => (.error e, s)

theorem answer_ok : answer x s = (.ok a, t) ↔ x = .ok (a, t) := by
  unfold answer
  split
  · simp
  · simp

theorem answer_error : answer x s = (.error e, t) ↔ x = .error e ∧ s = t := by
  unfold answer
  split
  · simp
  · simp

end Checks

namespace Checks

inductive Agree {ε δ α β : Type} (R : α → β → Prop) : Except ε α → Except δ β → Prop
  | failed (e : ε) (d : δ) : Agree R (.error e) (.error d)
  | agreed {a : α} {b : β} : R a b → Agree R (.ok a) (.ok b)

variable {ε δ α β α' β' : Type} {R : α → β → Prop} {S : α' → β' → Prop}
  {x : Except ε α} {y : Except δ β}

theorem Agree.bind {f : α → Except ε α'} {g : β → Except δ β'} (h : Agree R x y)
    (hnext : ∀ a b, x = .ok a → y = .ok b → R a b → Agree S (f a) (g b)) :
    Agree S (x >>= f) (y >>= g) := by
  cases h with
  | failed e d => exact .failed e d
  | agreed hr => exact hnext _ _ rfl rfl hr

theorem Agree.of_ok (h : (∃ a, x = .ok a) ↔ ∃ b, y = .ok b)
    (hr : ∀ a b, x = .ok a → y = .ok b → R a b) : Agree R x y := by
  cases x with
  | error e =>
    cases y with
    | error d => exact .failed e d
    | ok b =>
      obtain ⟨a, ha⟩ := h.mpr ⟨b, rfl⟩
      cases ha
  | ok a =>
    obtain ⟨b, hb⟩ := h.mp ⟨a, rfl⟩
    rw [hb]
    exact .agreed (hr a b rfl hb)

theorem Agree.require {c d : Prop} [Decidable c] [Decidable d] (e : ε) (e' : δ) (h : c ↔ d) :
    Agree (fun _ _ => c) (Checks.require c e) (Checks.require d e') := by
  unfold Checks.require
  by_cases hc : c
  · rw [if_pos hc, if_pos (h.mp hc)]
    exact .agreed hc
  · rw [if_neg hc, if_neg fun hd => hc (h.mpr hd)]
    exact .failed e e'

theorem Agree.mapError {ε' : Type} (f : ε → ε') (h : Agree R x y) : Agree R (x.mapError f) y := by
  cases h with
  | failed e d => exact .failed (f e) d
  | agreed hr => exact .agreed hr

theorem Agree.ok_left (h : Agree R x y) {a : α} (hx : x = .ok a) : ∃ b, y = .ok b ∧ R a b := by
  cases h with
  | failed e d => cases hx
  | agreed hr => exact ⟨_, rfl, Except.ok.inj hx ▸ hr⟩

end Checks

namespace Checks

inductive Same {ε α β : Type} (R : α → β → Prop) : Except ε α → Except ε β → Prop
  | failed (e : ε) : Same R (.error e) (.error e)
  | agreed {a : α} {b : β} : R a b → Same R (.ok a) (.ok b)

variable {ε α β α' β' : Type} {R : α → β → Prop} {S : α' → β' → Prop} {x : Except ε α}
  {y : Except ε β}

theorem Same.bind {f : α → Except ε α'} {g : β → Except ε β'} (h : Same R x y)
    (hnext : ∀ a b, x = .ok a → R a b → Same S (f a) (g b)) : Same S (x >>= f) (y >>= g) := by
  cases h with
  | failed e => exact .failed e
  | agreed hr => exact hnext _ _ rfl hr

theorem Same.refl (x : Except ε α) : Same Eq x x := by
  cases x with
  | error e => exact .failed e
  | ok a => exact .agreed rfl

theorem Same.map_eq {γ : Type} {f : α → γ} {g : β → γ} (h : Same R x y)
    (heq : ∀ a b, R a b → f a = g b) : x.map f = y.map g := by
  cases h with
  | failed e => rfl
  | agreed hr => exact congrArg Except.ok (heq _ _ hr)

theorem require_congr {c d : Prop} [Decidable c] [Decidable d] {e : ε} (h : c ↔ d) :
    require c e = require d e := by
  unfold require
  by_cases hc : c
  · rw [if_pos hc, if_pos (h.mp hc)]
  · rw [if_neg hc, if_neg fun hd => hc (h.mpr hd)]

end Checks

namespace Checks

variable {ε α β γ : Type} {f : α → Except ε β} {xs : List α} {ys : List β}

theorem mapM_cons_ok {a : α} : (a :: xs).mapM f = .ok ys ↔
    ∃ b rest, f a = .ok b ∧ xs.mapM f = .ok rest ∧ b :: rest = ys := by
  rw [List.mapM_cons, bind_ok]
  constructor
  · rintro ⟨b, hb, h⟩
    obtain ⟨rest, hrest, h⟩ := bind_ok.mp h
    exact ⟨b, rest, hb, hrest, Except.ok.inj h⟩
  · rintro ⟨b, rest, hb, hrest, rfl⟩
    exact ⟨b, hb, bind_ok.mpr ⟨rest, hrest, rfl⟩⟩

theorem mapM_exists (h : ∀ a ∈ xs, ∃ b, f a = .ok b) : ∃ ys, xs.mapM f = .ok ys := by
  induction xs with
  | nil => exact ⟨[], rfl⟩
  | cons a xs ih =>
    obtain ⟨b, hb⟩ := h a List.mem_cons_self
    obtain ⟨rest, hrest⟩ := ih fun a ha => h a (List.mem_cons_of_mem _ ha)
    exact ⟨b :: rest, mapM_cons_ok.mpr ⟨b, rest, hb, hrest, rfl⟩⟩

theorem mem_mapM (h : xs.mapM f = .ok ys) {b : β} : b ∈ ys ↔ ∃ a ∈ xs, f a = .ok b := by
  induction xs generalizing ys with
  | nil =>
    obtain rfl : [] = ys := Except.ok.inj h
    simp
  | cons a xs ih =>
    obtain ⟨b', rest, hb, hrest, rfl⟩ := mapM_cons_ok.mp h
    rw [List.mem_cons, ih hrest, List.exists_mem_cons_iff, hb, Except.ok.injEq, eq_comm]

theorem map_mapM {p : α → γ} {q : β → γ} (h : xs.mapM f = .ok ys)
    (hsame : ∀ a ∈ xs, ∀ b, f a = .ok b → p a = q b) : xs.map p = ys.map q := by
  induction xs generalizing ys with
  | nil =>
    obtain rfl : [] = ys := Except.ok.inj h
    rfl
  | cons a xs ih =>
    obtain ⟨b, rest, hb, hrest, rfl⟩ := mapM_cons_ok.mp h
    rw [List.map_cons, List.map_cons, hsame a List.mem_cons_self b hb,
      ih hrest fun a ha => hsame a (List.mem_cons_of_mem _ ha)]

theorem mapM_take (h : xs.mapM f = .ok ys) (count : Nat) :
    (xs.take count).mapM f = .ok (ys.take count) := by
  induction xs generalizing ys count with
  | nil =>
    obtain rfl : [] = ys := Except.ok.inj h
    rw [List.take_nil, List.take_nil]
    rfl
  | cons a xs ih =>
    obtain ⟨b, rest, hb, hrest, rfl⟩ := mapM_cons_ok.mp h
    cases count with
    | zero => rfl
    | succ count => exact mapM_cons_ok.mpr ⟨b, _, hb, ih hrest count, rfl⟩

end Checks

namespace Checks

variable {ε ε' α β : Type}

def Ensures (Q : α → Prop) (E : ε → Prop) : Except ε α → Prop
  | .ok a => Q a
  | .error e => E e

variable {Q Q' : α → Prop} {R : β → Prop} {E E' : ε → Prop}

theorem ensures_ok {a : α} : Ensures Q E (.ok a) ↔ Q a := Iff.rfl

theorem ensures_pure {a : α} : Ensures Q E (pure a) ↔ Q a := Iff.rfl

theorem ensures_of_ok {x : Except ε α} {a : α} (hx : x = .ok a) (h : Q a) : Ensures Q E x := by
  rw [hx]
  exact h

theorem ensures_error {e : ε} : Ensures Q E (.error e) ↔ E e := Iff.rfl

theorem ensures_bind {x : Except ε α} {f : α → Except ε β} :
    Ensures R E (x >>= f) ↔ Ensures (fun a => Ensures R E (f a)) E x := by
  cases x with
  | error e | ok a => exact Iff.rfl

theorem ensures_require {c : Prop} [Decidable c] {e : ε} {Q : Unit → Prop} :
    Ensures Q E (require c e) ↔ (c → Q ()) ∧ (¬ c → E e) := by
  unfold require
  split
  · next h => simp [h, ensures_ok]
  · next h => simp [h, ensures_error]

theorem ensures_fetch {x : Option α} {e : ε} :
    Ensures Q E (fetch x e) ↔ (∀ a, x = some a → Q a) ∧ (x = none → E e) := by
  cases x with
  | none => simp [fetch, ensures_error]
  | some a => simp [fetch, ensures_ok]

theorem Ensures.mono {x : Except ε α} (h : Ensures Q E x) (hQ : ∀ a, x = .ok a → Q a → Q' a)
    (hE : ∀ e, E e → E' e) : Ensures Q' E' x := by
  cases x with
  | error e => exact hE e h
  | ok a => exact hQ a rfl h

theorem ensures_mapError {f : ε → ε'} {x : Except ε α} {E : ε' → Prop} :
    Ensures Q E (x.mapError f) ↔ Ensures Q (fun e => E (f e)) x := by
  cases x with
  | error e | ok a => exact Iff.rfl

theorem ensures_map {f : α → β} {x : Except ε α} :
    Ensures R E (x.map f) ↔ Ensures (fun a => R (f a)) E x := by
  cases x with
  | error e | ok a => exact Iff.rfl

theorem Ensures.of_ok {x : Except ε α} {a : α} (h : Ensures Q E x) (hx : x = .ok a) : Q a := by
  rw [hx] at h
  exact h

theorem Ensures.of_error {x : Except ε α} {e : ε} (h : Ensures Q E x) (hx : x = .error e) : E e := by
  rw [hx] at h
  exact h

def Fails (E : ε → Prop) (x : Except ε α) : Prop := ∀ e, x = .error e → E e

theorem fails_ok {a : α} : Fails E (.ok a : Except ε α) := nofun

theorem fails_error {e : ε} (h : E e) : Fails E (.error e : Except ε α) := by
  rintro e' he
  exact Except.error.inj he ▸ h

theorem fails_bind {x : Except ε α} {f : α → Except ε β} (hx : Fails E x)
    (hf : ∀ a, x = .ok a → Fails E (f a)) : Fails E (x >>= f) := by
  intro e he
  rcases bind_error.mp he with hx' | ⟨a, ha, hf'⟩
  · exact hx e hx'
  · exact hf a ha e hf'

theorem fails_require {c : Prop} [Decidable c] {e : ε} (h : ¬ c → E e) : Fails E (require c e) := by
  intro e' he'
  obtain ⟨hc, rfl⟩ := require_error.mp he'
  exact h hc

theorem fails_fetch {x : Option α} {e : ε} (h : x = none → E e) : Fails E (fetch x e) := by
  intro e' he'
  obtain ⟨hx, rfl⟩ := fetch_error.mp he'
  exact h hx

theorem fails_mapError {f : ε → ε'} {x : Except ε α} {E : ε' → Prop}
    (h : Fails (fun e => E (f e)) x) : Fails E (x.mapError f) := by
  cases x with
  | error e => exact fails_error (h e rfl)
  | ok a => exact fails_ok

theorem fails_map {f : α → β} {x : Except ε α} (h : Fails E x) : Fails E (x.map f) := by
  cases x with
  | error e => exact fails_error (h e rfl)
  | ok a => exact fails_ok

theorem forM_ok {f : α → Except ε Unit} {xs : List α} :
    xs.forM f = .ok () ↔ ∀ a ∈ xs, f a = .ok () := by
  induction xs with
  | nil => simp [pure, Except.pure]
  | cons a rest ih =>
    change (f a >>= fun _ => rest.forM f) = .ok () ↔ _
    rw [bind_ok, List.forall_mem_cons, ← ih]
    constructor
    · rintro ⟨⟨⟩, ha, hrest⟩
      exact ⟨ha, hrest⟩
    · rintro ⟨ha, hrest⟩
      exact ⟨(), ha, hrest⟩

end Checks

namespace Calls

variable {ε σ α β : Type}

def Ensures (m : Method ε σ α) (s : σ) (Q : α → σ → Prop) (E : ε → σ → Prop) : Prop :=
  ∀ r t, Ran m s r t → Checks.Ensures (fun a => Q a t) (fun e => E e t) r

variable {m : Method ε σ α} {f : α → Method ε σ β} {s t : σ} {Q : α → σ → Prop}
  {R : β → σ → Prop} {E : ε → σ → Prop}

theorem ensures_iff : Ensures m s Q E ↔
    Checks.Ensures (fun a => Q a (m s).2) (fun e => E e (m s).2) (m s).1 := by
  constructor
  · intro h
    exact h _ _ rfl
  · rintro h r t hran
    rw [Ran] at hran
    simpa [hran] using h

theorem ensures_pure {a : α} : Ensures (pure a) s Q E ↔ Q a s := ensures_iff

theorem ensures_read {Q : σ → σ → Prop} : Ensures (read : Method ε σ σ) s Q E ↔ Q s s :=
  ensures_iff

theorem ensures_write {g : σ → σ} {Q : Unit → σ → Prop} :
    Ensures (write g : Method ε σ Unit) s Q E ↔ Q () (g s) := ensures_iff

theorem ensures_check {x : Except ε α} : Ensures (check x) s Q E ↔
    Checks.Ensures (fun a => Q a s) (fun e => E e s) x := ensures_iff

theorem ensures_bind : Ensures (m >>= f) s R E ↔ Ensures m s (fun a t => Ensures (f a) t R E) E := by
  rw [ensures_iff, ensures_iff, bind_apply]
  rcases m s with ⟨e | a, t⟩
  · exact Iff.rfl
  · exact ensures_iff.symm

end Calls
