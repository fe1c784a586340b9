import Mathlib.Data.List.Basic

namespace Directories

variable {N B : Type}

theorem overwrite_prefix {old whole rest : List B} {b : B} {position : Nat} (hold : old <+: whole)
    (hfrom : whole.take position <+: old) (hnext : whole.drop position = b :: rest) :
    old <+: old.take position ++ b :: old.drop (position + 1) ∧
      old.take position ++ b :: old.drop (position + 1) <+: whole ∧
        whole.take (position + 1) <+: old.take position ++ b :: old.drop (position + 1) := by
  have hwhole : whole.take (position + 1) = whole.take position ++ [b] := by
    rw [List.take_add, hnext]
    rfl
  have hlength : position < whole.length := by
    have hdrop := congrArg List.length hnext
    rw [List.length_drop, List.length_cons] at hdrop
    omega
  have hreaches : position ≤ old.length := by
    have hle := hfrom.length_le
    rw [List.length_take] at hle
    omega
  obtain ⟨n, rfl⟩ : ∃ n, old = whole.take n := ⟨old.length, List.prefix_iff_eq_take.mp hold⟩
  rw [List.length_take] at hreaches
  have htake : (whole.take n).take position = whole.take position := by
    rw [List.take_take, Nat.min_eq_left (by omega)]
  have hdrop : ∀ m, (whole.take n).drop m = (whole.drop m).take (n - m) := fun m =>
    List.drop_take
  rcases Nat.eq_or_lt_of_le (show position ≤ n by omega) with rfl | hlt
  · have hend : (whole.take position).drop (position + 1) = [] := by
      rw [hdrop, Nat.sub_eq_zero_of_le (Nat.le_succ _), List.take_zero]
    rw [htake, hend, ← hwhole]
    exact ⟨List.take_prefix_take_left (Nat.le_succ _), List.take_prefix _ _, List.prefix_refl _⟩
  · have hsame : (whole.take n).take position ++ b :: (whole.take n).drop (position + 1) =
        whole.take n := by
      have hsplit : (whole.take n).drop position = b :: (whole.take n).drop (position + 1) := by
        rw [← List.drop_drop, hdrop, hnext]
        obtain ⟨m, hm⟩ : ∃ m, n - position = m + 1 := ⟨n - position - 1, by omega⟩
        rw [hm]
        rfl
      rw [← hsplit, List.take_append_drop]
    rw [hsame]
    exact ⟨List.prefix_refl _, List.take_prefix _ _, List.take_prefix_take_left hlt⟩

structure Directory (N B : Type) where
  present : Bool
  anchored : Bool
  entries : N → Option Nat
  synced : N → Option Nat
  contents : Nat → List B
  saved : Nat → List B
  origin : Nat → Option N
  next : Nat

namespace Directory

variable (d : Directory N B)

def empty (anchored : Bool) : Directory N B where
  present := anchored
  anchored := anchored
  entries _ := none
  synced _ := none
  contents _ := []
  saved _ := []
  origin _ := none
  next := 0

def read (name : N) : Option (List B) := (d.entries name).map d.contents

def make : Directory N B := { d with present := true }

def write (file position : Nat) (b : B) : Directory N B :=
  { d with
    contents := Function.update d.contents file
      ((d.contents file).take position ++ b :: (d.contents file).drop (position + 1)) }

def syncFile (file : Nat) : Directory N B :=
  { d with saved := Function.update d.saved file (d.contents file) }

def sync : Directory N B := { d with synced := d.entries }

def powerLoss : Directory N B :=
  { d with
    present := d.anchored
    entries := fun name => if d.anchored then d.synced name else none
    synced := fun name => if d.anchored then d.synced name else none
    contents := d.saved }

def Durable (name : N) (bytes : List B) : Prop := d.powerLoss.read name = some bytes

section Names

variable [DecidableEq N]

def create (name : N) : Directory N B :=
  { d with
    entries := Function.update d.entries name (some d.next)
    contents := Function.update d.contents d.next []
    saved := Function.update d.saved d.next []
    origin := Function.update d.origin d.next (some name)
    next := d.next + 1 }

def link (name : N) (file : Nat) : Directory N B :=
  { d with entries := Function.update d.entries name (some file) }

def remove (name : N) : Directory N B :=
  { d with entries := Function.update d.entries name none }

variable {d : Directory N B} {name other : N} {file : Nat}

theorem create_entries_new : (d.create name).entries name = some d.next :=
  Function.update_self _ _ _

theorem create_entries_old (h : other ≠ name) : (d.create name).entries other = d.entries other :=
  Function.update_of_ne h _ _

theorem create_contents_new : (d.create name).contents d.next = [] := Function.update_self _ _ _

theorem create_saved_new : (d.create name).saved d.next = [] := Function.update_self _ _ _

theorem create_origin_new : (d.create name).origin d.next = some name := Function.update_self _ _ _

theorem create_contents_old (h : file < d.next) :
    (d.create name).contents file = d.contents file :=
  Function.update_of_ne (Nat.ne_of_lt h) _ _

theorem create_saved_old (h : file < d.next) : (d.create name).saved file = d.saved file :=
  Function.update_of_ne (Nat.ne_of_lt h) _ _

theorem create_origin_old (h : file < d.next) : (d.create name).origin file = d.origin file :=
  Function.update_of_ne (Nat.ne_of_lt h) _ _

theorem link_same : (d.link name file).entries name = some file := Function.update_self _ _ _

theorem link_other (h : other ≠ name) : (d.link name file).entries other = d.entries other :=
  Function.update_of_ne h _ _

theorem remove_same : (d.remove name).entries name = none := Function.update_self _ _ _

theorem remove_other (h : other ≠ name) : (d.remove name).entries other = d.entries other :=
  Function.update_of_ne h _ _

end Names

theorem write_same (d : Directory N B) (file position : Nat) (b : B) :
    (d.write file position b).contents file =
      (d.contents file).take position ++ b :: (d.contents file).drop (position + 1) :=
  Function.update_self _ _ _

theorem write_other {d : Directory N B} {file made : Nat} (h : made ≠ file) (position : Nat)
    (b : B) : (d.write file position b).contents made = d.contents made :=
  Function.update_of_ne h _ _

theorem syncFile_same (d : Directory N B) (file : Nat) :
    (d.syncFile file).saved file = d.contents file :=
  Function.update_self _ _ _

theorem syncFile_other {d : Directory N B} {file made : Nat} (h : made ≠ file) :
    (d.syncFile file).saved made = d.saved made :=
  Function.update_of_ne h _ _

variable {d}

theorem durable_iff {name : N} {bytes : List B} : d.Durable name bytes ↔
    d.anchored = true ∧ ∃ file, d.synced name = some file ∧ d.saved file = bytes := by
  cases hanchored : d.anchored with
  | true | false => simp [Durable, read, powerLoss, hanchored]

end Directory

end Directories

namespace Programs

inductive Program (C : Type) (R : C → Type) (α : Type) where
  | done (a : α)
  | call (c : C) (next : R c → Program C R α)

variable {W C σ α β ε : Type} {R : C → Type}

namespace Program

def bind : Program C R α → (α → Program C R β) → Program C R β
  | .done a, f => f a
  | .call c next, f => .call c fun r => (next r).bind f

instance : Monad (Program C R) where
  pure := .done
  bind := bind

def ask (c : C) : Program C R (R c) := .call c .done

def Only (ok : C → Prop) : Program C R α → Prop
  | .done _ => True
  | .call c next => ok c ∧ ∀ r, (next r).Only ok

theorem Only.bind {ok : C → Prop} {p : Program C R α} {f : α → Program C R β} (h : p.Only ok)
    (hf : ∀ a, (f a).Only ok) : (p >>= f).Only ok := by
  induction p with
  | done a => exact hf a
  | call c next ih => exact ⟨h.1, fun r => ih r (h.2 r)⟩

end Program

abbrev Procedure (C : Type) (R : C → Type) (ε α : Type) := ExceptT ε (Program C R) α

namespace Procedure

def ask (c : C) : Procedure C R ε (R c) := ExceptT.lift (Program.ask c)

def attempt {ε' : Type} (x : Procedure C R ε α) : Procedure C R ε' (Except ε α) :=
  ExceptT.lift x.run

def reply {ε' : Type} (r : Except ε' α) (e : ε' → ε) : Procedure C R ε α :=
  ExceptT.mk (pure (r.mapError e))

variable {ok : C → Prop} {x : Procedure C R ε α} {f : α → Procedure C R ε β}

theorem only_bind (h : x.run.Only ok) (hf : ∀ a, (f a).run.Only ok) : (x >>= f).run.Only ok :=
  Program.Only.bind h fun r => match r with
    | .ok a => hf a
    | .error _ => trivial

theorem only_ask {c : C} {f : R c → Procedure C R ε β} (h : ok c) (hf : ∀ r, (f r).run.Only ok) :
    (ask c >>= f).run.Only ok :=
  ⟨h, hf⟩

end Procedure

-- What the calls of the parties do to what they share: what always holds of it, how it moves
-- under any of them, and what each party can count on while the others run.
structure Protocol (W C : Type) (R : C → Type) (σ : Type) where
  answers : W → (c : C) → σ → R c → σ → Prop
  inv : σ → Prop
  moves : σ → σ → Prop
  rely : W → σ → σ → Prop
  refl : ∀ w s, rely w s s
  trans : ∀ w {s t u}, rely w s t → rely w t u → rely w s u
  within : ∀ w {s t}, rely w s t → moves s t

namespace Protocol

variable (P : Protocol W C R σ)

structure Keeps (w : W) (s t : σ) : Prop where
  inv : P.inv t
  moves : P.moves s t
  others : ∀ w', w' ≠ w → P.rely w' s t

def Safe (w : W) (Q : α → σ → Prop) : Program C R α → σ → Prop
  | .done a, s => ∀ t, P.inv t → P.rely w s t → Q a t
  | .call c next, s => ∀ t, P.inv t → P.rely w s t → ∀ r u, P.answers w c t r u →
      P.Keeps w t u ∧ Safe w Q (next r) u

def Stable (w : W) (A : σ → Prop) : Prop := ∀ s t, P.rely w s t → A s → A t

def Lasting (A : σ → Prop) : Prop := ∀ s t, P.moves s t → A s → A t

variable {P} {w : W} {Q Q' : α → σ → Prop} {p : Program C R α} {s t : σ}

theorem Lasting.stable {A : σ → Prop} (h : P.Lasting A) (w : W) : P.Stable w A :=
  fun s t hst => h s t (P.within w hst)

theorem Safe.rely (h : P.Safe w Q p s) (hst : P.rely w s t) : P.Safe w Q p t := by
  cases p with
  | done a | call c next => exact fun u hu htu => h u hu (P.trans w hst htu)

theorem Safe.mono (h : P.Safe w Q p s) (hQ : ∀ a t, P.inv t → Q a t → Q' a t) :
    P.Safe w Q' p s := by
  induction p generalizing s with
  | done a => exact fun t ht hst => hQ a t ht (h t ht hst)
  | call c next ih =>
    intro t ht hst r u hanswer
    obtain ⟨hkeeps, hnext⟩ := h t ht hst r u hanswer
    exact ⟨hkeeps, ih r hnext⟩

theorem Safe.frame {A : σ → Prop} (hA : P.Lasting A) (h : P.Safe w Q p s) (hs : A s) :
    P.Safe w (fun a t => Q a t ∧ A t) p s := by
  induction p generalizing s with
  | done a => exact fun t ht hst => ⟨h t ht hst, hA.stable w s t hst hs⟩
  | call c next ih =>
    intro t ht hst r u hanswer
    obtain ⟨hkeeps, hnext⟩ := h t ht hst r u hanswer
    exact ⟨hkeeps, ih r hnext (hA t u hkeeps.moves (hA.stable w s t hst hs))⟩

theorem safe_done {a : α} (hQ : P.Stable w (Q a)) (h : Q a s) : P.Safe w Q (.done a) s :=
  fun t _ hst => hQ s t hst h

theorem safe_bind {f : α → Program C R β} {Q : β → σ → Prop} (hs : P.inv s)
    (h : P.Safe w (fun a t => P.Safe w Q (f a) t) p s) : P.Safe w Q (p >>= f) s := by
  induction p generalizing s with
  | done a => exact h s hs (P.refl w s)
  | call c next ih =>
    intro t ht hst r u hanswer
    obtain ⟨hkeeps, hnext⟩ := h t ht hst r u hanswer
    exact ⟨hkeeps, ih r hkeeps.inv hnext⟩

def Ends (B : α → σ → Prop) (E : ε → σ → Prop) : Except ε α → σ → Prop
  | .ok a, t => B a t
  | .error e, t => E e t

def Triple (P : Protocol W C R σ) (w : W) (A : σ → Prop) (x : Procedure C R ε α)
    (B : α → σ → Prop) (E : ε → σ → Prop) : Prop :=
  ∀ s, P.inv s → A s → P.Safe w (Ends B E) x.run s

variable {A A' : σ → Prop} {B : α → σ → Prop} {B' : β → σ → Prop} {E : ε → σ → Prop}
  {x : Procedure C R ε α} {f : α → Procedure C R ε β}

theorem Triple.bind (h : Triple P w A x B E) (hf : ∀ a, Triple P w (B a) (f a) B' E)
    (hE : ∀ e, P.Stable w (E e)) : Triple P w A (x >>= f) B' E := by
  intro s hs hA
  refine safe_bind hs ((h s hs hA).mono fun r t ht hr => ?_)
  cases r with
  | ok a => exact hf a t ht hr
  | error e => exact safe_done (hE e) hr

theorem Triple.ask {c : C} {B : R c → σ → Prop} (hA : P.Stable w A)
    (hB : ∀ r, P.Stable w (B r)) (h : ∀ t, P.inv t → A t → ∀ r u, P.answers w c t r u →
      P.Keeps w t u ∧ B r u) : Triple P w A (Procedure.ask c) B E := by
  intro s _ hs t ht hst r u hanswer
  obtain ⟨hkeeps, hr⟩ := h t ht (hA s t hst hs) r u hanswer
  exact ⟨hkeeps, safe_done (hB r) hr⟩

theorem Triple.pure {a : α} (hB : P.Stable w (B a)) (h : ∀ s, A s → B a s) :
    Triple P w A (Pure.pure a) B E :=
  fun s _ hs => safe_done hB (h s hs)

theorem Triple.attempt {ε' : Type} {E' : ε' → σ → Prop}
    {f : Except ε α → Procedure C R ε' β} (h : Triple P w A x B E)
    (hf : ∀ r, Triple P w (Ends B E r) (f r) B' E') :
    Triple P w A (Procedure.attempt x >>= f) B' E' := by
  intro s hs hA
  refine safe_bind hs (safe_bind hs ((h s hs hA).mono fun r t ht hr => ?_))
  exact fun u hu htu => (hf r t ht hr).rely htu

theorem Triple.reply {ε' : Type} {r : Except ε' α} {e : ε' → ε} (hB : ∀ a, P.Stable w (B a))
    (hE : ∀ e, P.Stable w (E e)) (hok : ∀ a, r = .ok a → ∀ s, A s → B a s)
    (herror : ∀ e', r = .error e' → ∀ s, A s → E (e e') s) :
    Triple P w A (Procedure.reply r e) B E := by
  intro s _ hs
  cases r with
  | ok a => exact safe_done (hB a) (hok a rfl s hs)
  | error e' => exact safe_done (hE (e e')) (herror e' rfl s hs)

theorem Triple.throw {e : ε} (hE : P.Stable w (E e)) (h : ∀ s, A s → E e s) :
    Triple P w A (MonadExcept.throw e : Procedure C R ε α) B E :=
  fun s _ hs => safe_done hE (h s hs)

theorem Triple.only {ok : C → Prop} (hx : Program.Only ok x.run) (hA : P.Stable w A)
    (h : ∀ c, ok c → ∀ t, P.inv t → A t → ∀ r u, P.answers w c t r u → P.Keeps w t u ∧ A u) :
    Triple P w A x (fun _ => A) fun _ => A := by
  have hprogram : ∀ (p : Program C R (Except ε α)) (s : σ), p.Only ok → A s →
      P.Safe w (Ends (fun _ => A) fun _ => A) p s := by
    intro p
    induction p with
    | done a =>
      intro s _ hs
      cases a with
      | ok a | error e => exact safe_done hA hs
    | call c next ih =>
      intro s hp hs t ht hst r u hanswer
      obtain ⟨hkeeps, hu⟩ := h c hp.1 t ht (hA s t hst hs) r u hanswer
      exact ⟨hkeeps, ih r u (hp.2 r) hu⟩
  exact fun s _ hs => hprogram x.run s hx hs

theorem Triple.weaken {B₁ : α → σ → Prop} {E₁ : ε → σ → Prop} (h : Triple P w A x B E)
    (hA : ∀ s, P.inv s → A' s → A s) (hB : ∀ a s, P.inv s → B a s → B₁ a s)
    (hE : ∀ e s, P.inv s → E e s → E₁ e s) : Triple P w A' x B₁ E₁ := by
  intro s hs hA'
  refine (h s hs (hA s hs hA')).mono fun r t ht hr => ?_
  cases r with
  | ok a => exact hB a t ht hr
  | error e => exact hE e t ht hr

theorem Triple.frame {F : σ → Prop} (hF : P.Lasting F) (h : Triple P w A x B E) :
    Triple P w (fun s => A s ∧ F s) x (fun a s => B a s ∧ F s) fun e s => E e s ∧ F s := by
  intro s hs hA
  refine ((h s hs hA.1).frame hF hA.2).mono fun r t _ hr => ?_
  cases r with
  | ok a | error e => exact hr

end Protocol

inductive Executes (answers : W → (c : C) → σ → R c → σ → Prop) (w : W) :
    Program C R α → σ → Program C R α → σ → Prop
  | here {p : Program C R α} {s : σ} : Executes answers w p s p s
  | step {p q : Program C R α} {s t u : σ} {c : C} {next : R c → Program C R α} (r : R c)
      (program : p = .call c next) (answer : answers w c s r t)
      (rest : Executes answers w (next r) t q u) : Executes answers w p s q u

section Executes

variable {answers answers' : W → (c : C) → σ → R c → σ → Prop} {w : W} {p q : Program C R α}
  {s t u : σ} {x : Procedure C R ε α} {f : α → Procedure C R ε β} {q' : Program C R (Except ε β)}

theorem Executes.trans {r : Program C R α} (h : Executes answers w p s q t)
    (h' : Executes answers w q t r u) : Executes answers w p s r u := by
  induction h with
  | here => exact h'
  | step r hprogram hanswer _ ih => exact .step r hprogram hanswer (ih h')

theorem Executes.mono (h : Executes answers w p s q t)
    (hanswers : ∀ c s r t, answers w c s r t → answers' w c s r t) :
    Executes answers' w p s q t := by
  induction h with
  | here => exact .here
  | step r hprogram hanswer _ ih => exact .step r hprogram (hanswers _ _ _ _ hanswer) ih

theorem Executes.within (h : Executes answers w p s q t) (f : α → Program C R β) :
    Executes answers w (p >>= f) s (q >>= f) t := by
  induction h with
  | here => exact .here
  | step r hprogram hanswer _ ih =>
    subst hprogram
    exact .step r rfl hanswer ih

theorem Executes.bind {a : α} (h : Executes answers w x.run s (.done (.ok a)) t)
    (h' : Executes answers w (f a).run t q' u) : Executes answers w (x >>= f).run s q' u :=
  (h.within (ExceptT.bindCont f)).trans h'

theorem Executes.attempt {ε' : Type} {r : Except ε α} {f : Except ε α → Procedure C R ε' β}
    {q' : Program C R (Except ε' β)} (h : Executes answers w x.run s (.done r) t)
    (h' : Executes answers w (f r).run t q' u) :
    Executes answers w (Procedure.attempt x >>= f).run s q' u := by
  have hlift : Executes answers w (Procedure.attempt x : Procedure C R ε' (Except ε α)).run s
      (.done (.ok r)) t := h.within fun r => Program.done (Except.ok r)
  exact hlift.bind h'

theorem Executes.reply {ε' : Type} {r : Except ε' α} {e : ε' → ε} {a : α} (hr : r = .ok a)
    (h : Executes answers w (f a).run s q' t) :
    Executes answers w (Procedure.reply r e >>= f).run s q' t := by
  subst hr
  exact .bind .here h

theorem Executes.ask {c : C} {r : R c} {f : R c → Procedure C R ε β} (h : answers w c s r t)
    (h' : Executes answers w (f r).run t q' u) :
    Executes answers w (Procedure.ask c >>= f).run s q' u :=
  .step r rfl h h'

end Executes

structure World (W C : Type) (R : C → Type) (α σ : Type) where
  shared : σ
  programs : W → Option (Program C R α)

namespace World

structure Held (P : Protocol W C R σ) (Q : W → α → σ → Prop) (world : World W C R α σ) : Prop where
  inv : P.inv world.shared
  safe : ∀ w p, world.programs w = some p → P.Safe w (Q w) p world.shared

variable {P : Protocol W C R σ} {Q : W → α → σ → Prop} {world world' : World W C R α σ} {w : W}

theorem Held.change (h : Held P Q world) {t : σ} (ht : P.inv t)
    (hrely : ∀ w, world.programs w ≠ none → P.rely w world.shared t) :
    Held P Q { world with shared := t } :=
  ⟨ht, fun w p hp => (h.safe w p hp).rely (hrely w (hp ▸ Option.some_ne_none p))⟩

theorem Held.ended (h : Held P Q world) {a : α} (hdone : world.programs w = some (.done a)) :
    Q w a world.shared :=
  h.safe w _ hdone _ h.inv (P.refl w _)

variable [DecidableEq W]

def set (world : World W C R α σ) (w : W) (p : Option (Program C R α)) : World W C R α σ :=
  { world with programs := Function.update world.programs w p }

inductive Acts (answers : W → (c : C) → σ → R c → σ → Prop) (w : W) (world : World W C R α σ) :
    World W C R α σ → Prop
  | call {c : C} {next : R c → Program C R α} {r : R c} {t : σ}
      (hprogram : world.programs w = some (.call c next))
      (hanswer : answers w c world.shared r t) :
      Acts answers w world ({ world with shared := t }.set w (some (next r)))

theorem set_programs (p : Option (Program C R α)) (w' : W) :
    (world.set w p).programs w' = if w' = w then p else world.programs w' := by
  rw [World.set]
  exact Function.update_apply _ _ _ _

theorem Held.set (h : Held P Q world) {p : Option (Program C R α)}
    (hp : ∀ q, p = some q → P.Safe w (Q w) q world.shared) : Held P Q (world.set w p) := by
  refine ⟨h.inv, fun w' q hq => ?_⟩
  rw [set_programs] at hq
  split at hq
  · next hw =>
    subst hw
    exact hp q hq
  · exact h.safe w' q hq

theorem Held.acts (h : Held P Q world) (hacts : Acts P.answers w world world') :
    Held P Q world' := by
  cases hacts with
  | call hprogram hanswer =>
    obtain ⟨⟨hinv, -, hothers⟩, hnext⟩ :=
      h.safe w _ hprogram _ h.inv (P.refl w _) _ _ hanswer
    refine ⟨hinv, fun w' q hq => ?_⟩
    rw [set_programs] at hq
    split at hq
    · next hw =>
      subst hw
      exact Option.some.inj hq ▸ hnext
    · next hw => exact (h.safe w' q hq).rely (hothers w' hw)

end World

end Programs
