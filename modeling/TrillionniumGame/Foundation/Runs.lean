import Mathlib.Data.List.Chain

namespace Runs

structure System (σ α : Type*) where
  init : σ → Prop
  step : σ → α → σ → Prop

variable {σ τ α β : Type*}

inductive Run (S : System σ α) : σ → List α → σ → Prop
  | nil (s : σ) : Run S s [] s
  | snoc {s t u : σ} {as : List α} {a : α} :
      Run S s as t → S.step t a u → Run S s (as ++ [a]) u

def Reachable (S : System σ α) (s : σ) : Prop := ∃ s₀ as, S.init s₀ ∧ Run S s₀ as s

variable {S : System σ α}

theorem Run.single {s t : σ} {a : α} (h : S.step s a t) : Run S s [a] t :=
  Run.snoc (Run.nil s) h

theorem Run.append {s t u : σ} {as bs : List α} (h : Run S s as t) (k : Run S t bs u) :
    Run S s (as ++ bs) u := by
  induction k with
  | nil => simpa using h
  | snoc _ hs ih =>
    rw [← List.append_assoc]
    exact Run.snoc ih hs

theorem Run.cons {s t u : σ} {a : α} {as : List α} (h : S.step s a t) (k : Run S t as u) :
    Run S s (a :: as) u :=
  (Run.single h).append k

theorem run_snoc {s u : σ} {as : List α} {a : α} :
    Run S s (as ++ [a]) u ↔ ∃ t, Run S s as t ∧ S.step t a u := by
  constructor
  · intro h
    generalize hbs : as ++ [a] = bs at h
    cases h with
    | nil => simp at hbs
    | snoc hrun hstep =>
      obtain ⟨rfl, hlast⟩ := List.append_inj' hbs rfl
      cases List.singleton_inj.mp hlast
      exact ⟨_, hrun, hstep⟩
  · rintro ⟨t, hrun, hstep⟩
    exact Run.snoc hrun hstep

theorem run_nil {s u : σ} : Run S s [] u ↔ s = u := by
  constructor
  · intro h
    generalize hbs : ([] : List α) = bs at h
    cases h with
    | nil => rfl
    | snoc hrun hstep => simp at hbs
  · rintro rfl
    exact Run.nil s

theorem run_append {s u : σ} {as bs : List α} :
    Run S s (as ++ bs) u ↔ ∃ t, Run S s as t ∧ Run S t bs u := by
  constructor
  · intro h
    induction bs using List.reverseRecOn generalizing u with
    | nil => exact ⟨u, by simpa using h, Run.nil u⟩
    | append_singleton bs b ih =>
      rw [← List.append_assoc, run_snoc] at h
      obtain ⟨t, hrun, hstep⟩ := h
      obtain ⟨t', hleft, hright⟩ := ih hrun
      exact ⟨t', hleft, Run.snoc hright hstep⟩
  · rintro ⟨t, hleft, hright⟩
    exact hleft.append hright

theorem run_cons {s u : σ} {a : α} {as : List α} :
    Run S s (a :: as) u ↔ ∃ t, S.step s a t ∧ Run S t as u := by
  have hsingle : ∀ t, Run S s [a] t ↔ S.step s a t := by
    intro t
    rw [← List.nil_append [a], run_snoc]
    simp [run_nil]
  rw [← List.singleton_append, run_append]
  simp [hsingle]

theorem Reachable.start {s : σ} (h : S.init s) : Reachable S s := ⟨s, [], h, Run.nil s⟩

theorem Reachable.run {s t : σ} {as : List α} (h : Reachable S s) (k : Run S s as t) :
    Reachable S t := by
  obtain ⟨s₀, bs, hi, hr⟩ := h
  exact ⟨s₀, bs ++ as, hi, hr.append k⟩

theorem Run.invariant {I : σ → Prop} {s t : σ} {as : List α}
    (hstep : ∀ s a t, I s → S.step s a t → I t) (h : Run S s as t) (hs : I s) : I t := by
  induction h with
  | nil => exact hs
  | snoc _ hk ih => exact hstep _ _ _ ih hk

theorem Reachable.invariant {I : σ → Prop} (hinit : ∀ s, S.init s → I s)
    (hstep : ∀ s a t, I s → S.step s a t → I t) {s : σ} (h : Reachable S s) : I s := by
  obtain ⟨s₀, as, hi, hr⟩ := h
  exact hr.invariant hstep (hinit s₀ hi)

theorem Run.monotone {R : σ → σ → Prop} (hrefl : ∀ s, R s s)
    (htrans : ∀ s t u, R s t → R t u → R s u) {I : σ → Prop}
    (hstep : ∀ s a t, I s → S.step s a t → I t ∧ R s t)
    {s t : σ} {as : List α} (h : Run S s as t) (hs : I s) : R s t := by
  suffices I t ∧ R s t from this.2
  induction h with
  | nil => exact ⟨hs, hrefl _⟩
  | snoc _ hk ih =>
    obtain ⟨hi, hr⟩ := ih
    obtain ⟨hi', hr'⟩ := hstep _ _ _ hi hk
    exact ⟨hi', htrans _ _ _ hr hr'⟩

variable {ρ : Type*} {answer : σ → α → ρ × σ}

def trace (answer : σ → α → ρ × σ) : σ → List α → List (α × ρ) × σ
  | s, [] => ([], s)
  | s, call :: calls =>
    match answer s call with
    | (reply, next) =>
      match trace answer next calls with
      | (entries, last) => ((call, reply) :: entries, last)

theorem trace_run {S : System σ (α × ρ)}
    (hstep : ∀ s call, S.step s (call, (answer s call).1) (answer s call).2) (s : σ)
    (calls : List α) : Run S s (trace answer s calls).1 (trace answer s calls).2 := by
  induction calls generalizing s with
  | nil => exact .nil s
  | cons call calls ih => exact .cons (hstep s call) (ih _)

end Runs

namespace Timelines
open Runs

structure Machine (σ α κ : Type*) where
  init : σ → Prop
  step : List (α × σ) → σ → α → σ → Prop
  saved : α → Option κ
  restored : κ → σ → Prop

structure Save (σ α κ : Type*) where
  key : κ
  state : σ
  history : List (α × σ)

structure Timeline (σ α κ : Type*) where
  state : σ
  history : List (α × σ)
  saves : List (Save σ α κ)

inductive Event (α κ : Type*) where
  | act (action : α)
  | restore (key : κ)

variable {σ α κ : Type*}

def Machine.saves (M : Machine σ α κ) (action : α) (state : σ) (history : List (α × σ)) :
    List (Save σ α κ) :=
  ((M.saved action).map fun key => ⟨key, state, history⟩).toList

def Machine.timelines (M : Machine σ α κ) : System (Timeline σ α κ) (Event α κ) where
  init T := M.init T.state ∧ T.history = [] ∧ T.saves = []
  step T event T' :=
    match event with
    | .act action => M.step T.history T.state action T'.state ∧
        T'.history = T.history ++ [(action, T'.state)] ∧
        T'.saves = T.saves ++ M.saves action T'.state T'.history
    | .restore key => M.restored key T'.state ∧
        (∃ save ∈ T.saves, save.key = key ∧ T'.history = save.history) ∧ T'.saves = T.saves

variable {M : Machine σ α κ}

theorem Machine.invariant {I : σ → List (α × σ) → Prop} {P : κ → σ → Prop}
    (hinit : ∀ state, M.init state → I state [])
    (hstep : ∀ history state action state', I state history → M.step history state action state' →
      I state' (history ++ [(action, state')]) ∧ ∀ key ∈ M.saved action, P key state')
    (hrestore : ∀ history state key state', I state history → P key state → M.restored key state' →
      I state' history)
    {T : Timeline σ α κ} (h : Reachable M.timelines T) : I T.state T.history := by
  suffices I T.state T.history ∧ ∀ save ∈ T.saves, I save.state save.history ∧ P save.key save.state
    from this.1
  refine h.invariant (I := fun T => I T.state T.history ∧ ∀ save ∈ T.saves,
    I save.state save.history ∧ P save.key save.state)
    (fun start hstart => ?_) fun before event after hbefore hevent => ?_
  · obtain ⟨hstate, hhistory, hsaves⟩ := hstart
    rw [hhistory, hsaves]
    exact ⟨hinit _ hstate, nofun⟩
  · obtain ⟨hcurrent, hsaves⟩ := hbefore
    cases event with
    | act action =>
      obtain ⟨hact, hhistory, hsaved⟩ := hevent
      obtain ⟨hnext, hkeys⟩ := hstep _ _ _ _ hcurrent hact
      rw [hhistory, hsaved]
      refine ⟨hnext, fun save hsave => ?_⟩
      rcases List.mem_append.mp hsave with hold | hnew
      · exact hsaves save hold
      · unfold Machine.saves at hnew
        obtain ⟨key, hkey, rfl⟩ := Option.map_eq_some_iff.mp (Option.mem_toList.mp hnew)
        dsimp only
        rw [hhistory]
        exact ⟨hnext, hkeys key hkey⟩
    | restore key =>
      obtain ⟨hrestored, ⟨save, hsave, rfl, hhistory⟩, hsame⟩ := hevent
      obtain ⟨hold, hkey⟩ := hsaves save hsave
      rw [hhistory, hsame]
      exact ⟨hrestore _ _ _ _ hold hkey hrestored, hsaves⟩

def Timeline.acted (T : Timeline σ α κ) (M : Machine σ α κ) (action : α) (state : σ) :
    Timeline σ α κ :=
  let history := T.history ++ [(action, state)]
  ⟨state, history, T.saves ++ M.saves action state history⟩

def Timeline.back (T : Timeline σ α κ) (save : Save σ α κ) (state : σ) : Timeline σ α κ :=
  ⟨state, save.history, T.saves⟩

theorem Machine.acts {T : Timeline σ α κ} {action : α} {state : σ}
    (h : M.step T.history T.state action state) :
    Run M.timelines T [.act action] (T.acted M action state) :=
  .single ⟨h, rfl, rfl⟩

theorem Machine.restores {T : Timeline σ α κ} {save : Save σ α κ} {state : σ}
    (hsave : save ∈ T.saves) (h : M.restored save.key state) :
    Run M.timelines T [.restore save.key] (T.back save state) :=
  .single ⟨h, ⟨save, hsave, rfl, rfl⟩, rfl⟩

def Timeline.played (T : Timeline σ α κ) (M : Machine σ α κ) (steps : List (α × σ)) :
    Timeline σ α κ :=
  steps.foldl (fun T step => T.acted M step.1 step.2) T

def Machine.Plays (M : Machine σ α κ) : List (α × σ) → σ → List (α × σ) → Prop
  | _, _, [] => True
  | history, state, step :: rest =>
    M.step history state step.1 step.2 ∧ M.Plays (history ++ [step]) step.2 rest

theorem Machine.plays {T : Timeline σ α κ} {steps : List (α × σ)}
    (h : M.Plays T.history T.state steps) :
    Run M.timelines T (steps.map fun step => .act step.1) (T.played M steps) := by
  induction steps generalizing T with
  | nil => exact .nil T
  | cons step rest ih =>
    obtain ⟨hstep, hrest⟩ := h
    exact (Machine.acts hstep).append (ih hrest)

end Timelines
