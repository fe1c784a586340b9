import TrillionniumGame.PersistencePg.Outbox

namespace PersistencePg
open Checks Persistence Tables

namespace OutboxRow

def reap (nowMs : Nat) (row : OutboxRow) : OutboxRow :=
  { row with
    state := .deadLetter expiredAttemptExhaustedReason
    updatedAtMs := nowMs }

def claim (owner : NodeId) (nowMs leaseExpiresAtMs : Nat) (row : OutboxRow) : OutboxRow :=
  { row with
    state := .leased owner
    attempt := row.attempt + 1
    leaseGeneration := row.leaseGeneration + 1
    availableAtMs := leaseExpiresAtMs
    updatedAtMs := nowMs }

def handOut (owner : NodeId) (leaseExpiresAtMs : Nat) (row : OutboxRow) : OutboxLease where
  id := row.intentId
  entity := row.entityId
  command := row.commandId
  kind := row.kind
  payload := row.payloadDigest
  attempt := row.attempt + 1
  leaseGeneration := row.leaseGeneration + 1
  owner := owner
  leaseExpiresAtMs := leaseExpiresAtMs

structure Counted (row : OutboxRow) : Prop where
  attempt : row.attempt = row.leaseGeneration
  bounded : row.attempt ≤ 32

end OutboxRow

structure CountedTable (table : List OutboxRow) : Prop where
  unique : (table.map OutboxRow.intentId).Nodup
  counted : ∀ row ∈ table, row.Counted

def named (id : IntentId) (row : OutboxRow) : Bool := row.intentId = id

theorem named_iff {id : IntentId} {row : OutboxRow} : named id row = true ↔ row.intentId = id :=
  decide_eq_true_iff

variable {nowMs expires maxAttempts limit : Nat} {owner : NodeId} {table : List OutboxRow}
  {row : OutboxRow} {p q : OutboxRow → Bool} {f g : OutboxRow → OutboxRow}

theorem selectFirst_none (h : selectFirst p table = none) : ∀ row ∈ table, p row = false := by
  have hfold : ∀ {step : Option OutboxRow → OutboxRow → Option OutboxRow},
      (∀ first row, step first row ≠ none) → ∀ rows, rows.foldl step none = none → rows = [] := by
    intro step hstep rows h
    rcases List.eq_nil_or_concat' rows with rfl | ⟨front, last, rfl⟩
    · rfl
    · rw [List.foldl_concat] at h
      exact absurd h (hstep _ _)
  unfold selectFirst at h
  have hnil := hfold (fun first row => by
    cases first with
    | none => exact Option.some_ne_none row
    | some held => dsimp only; split <;> exact Option.some_ne_none _) _ h
  exact fun row hrow => Bool.eq_false_iff.mpr fun hp =>
    List.not_mem_nil (hnil ▸ List.mem_filter.mpr ⟨hrow, hp⟩)

section One

variable (hunique : (table.map OutboxRow.intentId).Nodup) (hrow : row ∈ table)
include hunique hrow

theorem same_row {held : OutboxRow} (hheld : held ∈ table) (hid : held.intentId = row.intentId) :
    held = row :=
  List.inj_on_of_nodup_map hunique hheld hrow hid

theorem assign_row (hp : p row = true) (hid : ∀ held, p held = true → held.intentId = row.intentId)
    (hf : f row = g row) : assign p f table = assign (named row.intentId) g table := by
  refine List.map_congr_left fun held hheld => ?_
  by_cases hnamed : held.intentId = row.intentId
  · cases same_row hunique hrow hheld hnamed
    rw [if_pos hp, if_pos (named_iff.mpr rfl), hf]
  · rw [if_neg fun h => hnamed (hid held h), if_neg fun h => hnamed (named_iff.mp h)]

theorem countP_row (hp : p row = true)
    (hid : ∀ held, p held = true → held.intentId = row.intentId) : table.countP p = 1 := by
  rw [List.countP_eq_length_filter, filter_unique ?_ hrow hp]
  · rfl
  · refine (List.pairwise_map.mp hunique).imp fun hne hboth => hne ?_
    exact (hid _ hboth.1).trans (hid _ hboth.2).symm

theorem countP_assign_row (hq : q row = true) (hwritten : q (f row) = false) :
    (assign (named row.intentId) f table).countP q + 1 = table.countP q := by
  induction table with
  | nil => cases hrow
  | cons first rest ih =>
    obtain ⟨hfirst, hrest⟩ := List.nodup_cons.mp hunique
    rcases List.mem_cons.mp hrow with rfl | hmem
    · have hsame : assign (named row.intentId) f rest = rest :=
        assign_eq_self fun held hheld => decide_eq_false fun hid =>
          hfirst (hid ▸ List.mem_map_of_mem hheld)
      have hassign : assign (named row.intentId) f (row :: rest) = f row :: rest :=
        congrArg₂ _ (if_pos (named_iff.mpr rfl)) hsame
      rw [hassign, List.countP_cons_of_neg (by rw [hwritten]; exact Bool.false_ne_true),
        List.countP_cons_of_pos hq]
    · have hother : named row.intentId first = false := decide_eq_false fun hid =>
        hfirst (hid ▸ List.mem_map_of_mem hmem)
      have hassign : assign (named row.intentId) f (first :: rest) =
          first :: assign (named row.intentId) f rest :=
        congrArg₂ _ (if_neg (by rw [hother]; exact Bool.false_ne_true)) rfl
      rw [hassign, List.countP_cons, List.countP_cons, ← ih hrest hmem]
      omega

end One

section Written

theorem CountedTable.assign (htable : CountedTable table)
    (hid : ∀ row, (f row).intentId = row.intentId)
    (hcounted : ∀ row ∈ table, p row = true → row.Counted → (f row).Counted) :
    CountedTable (assign p f table) := by
  refine ⟨?_, fun row' hrow' => ?_⟩
  · rw [map_assign hid]
    exact htable.unique
  · obtain ⟨row, hrow, rfl⟩ := mem_assign.mp hrow'
    split
    · next hp => exact hcounted row hrow hp (htable.counted row hrow)
    · exact htable.counted row hrow

theorem reap_settled (nowMs maxAttempts : Nat) (row : OutboxRow) :
    (row.reap nowMs).exhausted nowMs maxAttempts = false := rfl

theorem claim_settled (owner : NodeId) (maxAttempts : Nat) (row : OutboxRow)
    (hexpires : nowMs < expires) :
    (row.claim owner nowMs expires).claimable nowMs maxAttempts = false := by
  unfold OutboxRow.claimable
  rw [decide_eq_false (show ¬ (row.claim owner nowMs expires).availableAtMs ≤ nowMs from
    Nat.not_le_of_lt hexpires), Bool.and_false, Bool.false_and]

theorem exhausted_iff : row.exhausted nowMs maxAttempts = true ↔
    row.state.value = 1 ∧ row.availableAtMs ≤ nowMs ∧ maxAttempts ≤ row.attempt := by
  simp only [OutboxRow.exhausted, Bool.and_eq_true, decide_eq_true_eq, and_assoc]

theorem claimable_iff : row.claimable nowMs maxAttempts = true ↔
    row.state.value ∈ [0, 1] ∧ row.availableAtMs ≤ nowMs ∧ row.attempt < maxAttempts := by
  simp only [OutboxRow.claimable, Bool.and_eq_true, decide_eq_true_eq, and_assoc]

theorem reapOne_eq (htable : CountedTable table) (hrow : row ∈ table)
    (hexhausted : row.exhausted nowMs maxAttempts = true) (hmax : 0 < maxAttempts) :
    reapOne nowMs maxAttempts row table =
      .ok (assign (named row.intentId) (.reap nowMs) table) := by
  obtain ⟨hattempt, hbounded⟩ := htable.counted row hrow
  have hexhausts := (exhausted_iff.mp hexhausted).2.2
  let p (held : OutboxRow) := held.intentId = row.intentId && held.exhausted nowMs maxAttempts &&
    held.leaseGeneration = row.leaseGeneration && held.attempt = row.attempt
  have hp : p row = true := by
    simp only [p, hexhausted, decide_true, Bool.and_self]
  have hid : ∀ held, p held = true → held.intentId = row.intentId := fun held hheld => by
    simp only [p, Bool.and_eq_true, decide_eq_true_eq] at hheld
    exact hheld.1.1.1
  have hupdate : updateOutbox p (.reap nowMs) table =
      .ok (assign (named row.intentId) (.reap nowMs) table, 1) :=
    updateOutbox_ok.mpr ⟨fun held hheld =>
        (htable.counted held (List.mem_filter.mp hheld).1).bounded,
      assign_row htable.unique hrow hp hid rfl, countP_row htable.unique hrow hp hid⟩
  unfold reapOne
  rw [require_of (by omega), ok_bind]
  change updateOutbox p (.reap nowMs) table >>= _ = _
  rw [hupdate]
  rfl

theorem claimOne_eq (htable : CountedTable table) (hrow : row ∈ table)
    (hbounded : row.attempt < 32) :
    claimOne owner nowMs expires row table =
      .ok (row.handOut owner expires,
        assign (named row.intentId) (.claim owner nowMs expires) table) := by
  obtain ⟨hattempt, -⟩ := htable.counted row hrow
  let p (held : OutboxRow) := held.intentId = row.intentId && held.state.value = row.state.value &&
    held.leaseGeneration = row.leaseGeneration
  let f (held : OutboxRow) : OutboxRow := { held with
    state := .leased owner
    attempt := row.attempt + 1
    leaseGeneration := row.leaseGeneration + 1
    availableAtMs := expires
    updatedAtMs := nowMs }
  have hp : p row = true := by
    simp only [p, decide_true, Bool.and_self]
  have hid : ∀ held, p held = true → held.intentId = row.intentId := fun held hheld => by
    simp only [p, Bool.and_eq_true, decide_eq_true_eq] at hheld
    exact hheld.1.1
  have hupdate : updateOutbox p f table =
      .ok (assign (named row.intentId) (.claim owner nowMs expires) table, 1) :=
    updateOutbox_ok.mpr ⟨fun _ _ => hbounded,
      assign_row htable.unique hrow hp hid rfl, countP_row htable.unique hrow hp hid⟩
  have hgeneration : toI64 (row.leaseGeneration + 1) = .ok (row.leaseGeneration + 1 : Nat) :=
    if_pos (by omega)
  change (toI64 (row.leaseGeneration + 1) >>= fun _ => updateOutbox p f table >>= _) = _
  rw [hgeneration, ok_bind, hupdate]
  rfl

end Written

section Loops

inductive Reaps (nowMs maxAttempts : Nat) (row : OutboxRow) : OutboxRow → Prop
  | same : Reaps nowMs maxAttempts row row
  | reaped (exhausted : row.exhausted nowMs maxAttempts = true) :
      Reaps nowMs maxAttempts row (row.reap nowMs)

inductive Claims (owner : NodeId) (nowMs expires maxAttempts : Nat) (row : OutboxRow) :
    OutboxRow → Prop
  | same : Claims owner nowMs expires maxAttempts row row
  | claimed (claimable : row.claimable nowMs maxAttempts = true) :
      Claims owner nowMs expires maxAttempts row (row.claim owner nowMs expires)

theorem forall₂_assign_row {R : OutboxRow → OutboxRow → Prop} (htable : CountedTable table)
    (hrow : row ∈ table) (hsame : ∀ row, R row row) (h : R row (f row)) :
    List.Forall₂ R table (assign (named row.intentId) f table) :=
  forall₂_assign hsame fun held hheld hnamed => by
    cases same_row htable.unique hrow hheld (named_iff.mp hnamed)
    exact h

structure Reaping (nowMs maxAttempts limit : Nat) (table : List OutboxRow) (reaped : Nat)
    (table' : List OutboxRow) : Prop where
  counted : CountedTable table'
  moves : List.Forall₂ (Reaps nowMs maxAttempts) table table'
  finished : table.countP (OutboxRow.exhausted nowMs maxAttempts) < limit →
    ∀ row ∈ table', row.exhausted nowMs maxAttempts = false

theorem reapExpiredExhausted_reaps (nowMs limit : Nat) (htable : CountedTable table)
    (hmax : 0 < maxAttempts) :
    ∃ reaped table', reapExpiredExhausted nowMs maxAttempts limit table = .ok (reaped, table') ∧
      Reaping nowMs maxAttempts limit table reaped table' := by
  induction limit generalizing table with
  | zero =>
    exact ⟨0, table, rfl, htable, List.forall₂_same.mpr fun _ _ => .same,
      fun h => absurd h (Nat.not_lt_zero _)⟩
  | succ limit ih =>
    cases hselected : selectFirst (·.exhausted nowMs maxAttempts) table with
    | none =>
      refine ⟨0, table, ?_, htable, List.forall₂_same.mpr fun _ _ => .same,
        fun _ => selectFirst_none hselected⟩
      rw [reapExpiredExhausted, hselected]
    | some row =>
      obtain ⟨hrow, hexhausted⟩ := selectFirst_some hselected
      have htable₁ : CountedTable (assign (named row.intentId) (.reap nowMs) table) :=
        htable.assign (fun _ => rfl) fun _ _ _ h => ⟨h.attempt, h.bounded⟩
      obtain ⟨reaped, table', hloop, hcounted, hmoves, hfinished⟩ := ih htable₁
      refine ⟨reaped + 1, table', ?_, hcounted, ?_, fun hlimit => hfinished ?_⟩
      · rw [reapExpiredExhausted, hselected]
        dsimp only
        rw [reapOne_eq htable hrow hexhausted hmax, ok_bind, hloop]
        rfl
      · refine forall₂_trans (fun row row' row'' h h' => ?_)
          (forall₂_assign_row htable hrow (fun _ => Reaps.same) (.reaped hexhausted)) hmoves
        cases h with
        | same => exact h'
        | reaped hexhausted =>
          cases h' with
          | same => exact .reaped hexhausted
          | reaped hagain => cases hagain
      · have hless := countP_assign_row htable.unique hrow hexhausted
          (reap_settled nowMs maxAttempts row)
        omega

structure Claiming (owner : NodeId) (nowMs expires maxAttempts limit : Nat)
    (table : List OutboxRow) (leases : List OutboxLease) (table' : List OutboxRow) : Prop where
  counted : CountedTable table'
  moves : List.Forall₂ (Claims owner nowMs expires maxAttempts) table table'
  handedOut : ∀ lease ∈ leases, ∃ row ∈ table, row.claimable nowMs maxAttempts = true ∧
    lease = row.handOut owner expires
  distinct : (leases.map OutboxLease.id).Nodup
  finished : table.countP (OutboxRow.claimable nowMs maxAttempts) < limit →
    ∀ row ∈ table', row.claimable nowMs maxAttempts = false

theorem claimable_kept (hexpires : nowMs < expires) {held : OutboxRow}
    (hheld : held ∈ assign (named row.intentId) (.claim owner nowMs expires) table)
    (hclaimable : held.claimable nowMs maxAttempts = true) :
    held ∈ table ∧ held.intentId ≠ row.intentId := by
  obtain ⟨before, hbefore, rfl⟩ := mem_assign.mp hheld
  by_cases hnamed : before.intentId = row.intentId
  · rw [if_pos (named_iff.mpr hnamed),
      claim_settled owner maxAttempts before hexpires] at hclaimable
    cases hclaimable
  · rw [if_neg fun h => hnamed (named_iff.mp h)]
    exact ⟨hbefore, hnamed⟩

theorem claimRows_claims (owner : NodeId) (limit : Nat) (htable : CountedTable table)
    (hmax : maxAttempts ≤ 32) (hexpires : nowMs < expires) :
    ∃ leases table', claimRows owner nowMs expires maxAttempts limit table =
      .ok (leases, table') ∧
        Claiming owner nowMs expires maxAttempts limit table leases table' := by
  induction limit generalizing table with
  | zero =>
    exact ⟨[], table, rfl, htable, List.forall₂_same.mpr fun _ _ => .same, nofun, List.nodup_nil,
      fun h => absurd h (Nat.not_lt_zero _)⟩
  | succ limit ih =>
    cases hselected : selectFirst (·.claimable nowMs maxAttempts) table with
    | none =>
      refine ⟨[], table, ?_, htable, List.forall₂_same.mpr fun _ _ => .same, nofun,
        List.nodup_nil, fun _ => selectFirst_none hselected⟩
      rw [claimRows, hselected]
    | some row =>
      obtain ⟨hrow, hclaimable⟩ := selectFirst_some hselected
      have hbounded : row.attempt < 32 := (claimable_iff.mp hclaimable).2.2.trans_le hmax
      have htable₁ : CountedTable
          (assign (named row.intentId) (.claim owner nowMs expires) table) :=
        htable.assign (fun _ => rfl) fun held hheld hnamed h => by
          cases same_row htable.unique hrow hheld (named_iff.mp hnamed)
          exact ⟨congrArg (· + 1) h.attempt, hbounded⟩
      obtain ⟨leases, table', hloop, hcounted, hmoves, hhanded, hdistinct, hfinished⟩ := ih htable₁
      refine ⟨row.handOut owner expires :: leases, table', ?_, hcounted, ?_, ?_, ?_,
        fun hlimit => hfinished ?_⟩
      · rw [claimRows, hselected]
        dsimp only
        rw [claimOne_eq htable hrow hbounded, ok_bind, hloop]
        rfl
      · refine forall₂_trans (fun row row' row'' h h' => ?_)
          (forall₂_assign_row htable hrow (fun _ => Claims.same) (.claimed hclaimable)) hmoves
        cases h with
        | same => exact h'
        | claimed hclaimed =>
          cases h' with
          | same => exact .claimed hclaimed
          | claimed hagain =>
            rw [claim_settled owner maxAttempts row hexpires] at hagain
            cases hagain
      · refine List.forall_mem_cons.mpr ⟨⟨row, hrow, hclaimable, rfl⟩, fun lease hlease => ?_⟩
        obtain ⟨held, hheld, hclaimed, rfl⟩ := hhanded lease hlease
        exact ⟨held, (claimable_kept hexpires hheld hclaimed).1, hclaimed, rfl⟩
      · refine List.nodup_cons.mpr ⟨fun hmem => ?_, hdistinct⟩
        obtain ⟨lease, hlease, hid⟩ := List.mem_map.mp hmem
        obtain ⟨held, hheld, hclaimed, rfl⟩ := hhanded lease hlease
        exact (claimable_kept hexpires hheld hclaimed).2 hid
      · have hless := countP_assign_row htable.unique hrow hclaimable
          (claim_settled owner maxAttempts row hexpires)
        omega

end Loops

section Batch

variable {duration : Nat}

def OutboxRow.due (nowMs : Nat) (row : OutboxRow) : Bool :=
  row.state.value ∈ [0, 1] && row.availableAtMs ≤ nowMs

inductive Processed (owner : NodeId) (nowMs expires maxAttempts : Nat) (row : OutboxRow) :
    OutboxRow → Prop
  | same : Processed owner nowMs expires maxAttempts row row
  | reaped (exhausted : row.exhausted nowMs maxAttempts = true) :
      Processed owner nowMs expires maxAttempts row (row.reap nowMs)
  | claimed (claimable : row.claimable nowMs maxAttempts = true) :
      Processed owner nowMs expires maxAttempts row (row.claim owner nowMs expires)

theorem processed_of {row' row'' : OutboxRow} (h : Reaps nowMs maxAttempts row row')
    (h' : Claims owner nowMs expires maxAttempts row' row'') :
    Processed owner nowMs expires maxAttempts row row'' := by
  cases h with
  | same =>
    cases h' with
    | same => exact .same
    | claimed hclaimable => exact .claimed hclaimable
  | reaped hexhausted =>
    cases h' with
    | same => exact .reaped hexhausted
    | claimed hclaimable => cases hclaimable

variable {R : OutboxRow → OutboxRow → Prop} {table' : List OutboxRow}

theorem forall₂_target (h : List.Forall₂ R table table') (hrow : row ∈ table) :
    ∃ row' ∈ table', R row row' := by
  induction h with
  | nil => cases hrow
  | cons hfirst _ ih =>
    rcases List.mem_cons.mp hrow with rfl | hrest
    · exact ⟨_, List.mem_cons_self, hfirst⟩
    · obtain ⟨row', hmem, hR⟩ := ih hrest
      exact ⟨row', List.mem_cons_of_mem _ hmem, hR⟩

theorem countP_le_of_forall₂ (h : List.Forall₂ R table table')
    (hq : ∀ row row', R row row' → q row' = true → p row = true) :
    table'.countP q ≤ table.countP p := by
  induction h with
  | nil => exact le_rfl
  | @cons row row' rest rest' hfirst _ ih =>
    rw [List.countP_cons, List.countP_cons]
    have hle : (if q row' = true then 1 else 0) ≤ if p row = true then 1 else 0 := by
      split
      · next hq' => rw [if_pos (hq row row' hfirst hq')]
      · exact Nat.zero_le _
    exact Nat.add_le_add ih hle

theorem due_iff : row.due nowMs = true ↔ row.state.value ∈ [0, 1] ∧ row.availableAtMs ≤ nowMs := by
  simp only [OutboxRow.due, Bool.and_eq_true, decide_eq_true_eq]

theorem due_of_claimable (h : row.claimable nowMs maxAttempts = true) : row.due nowMs = true := by
  obtain ⟨hstate, htime, -⟩ := claimable_iff.mp h
  exact due_iff.mpr ⟨hstate, htime⟩

theorem due_of_exhausted (h : row.exhausted nowMs maxAttempts = true) : row.due nowMs = true := by
  obtain ⟨hstate, htime, -⟩ := exhausted_iff.mp h
  exact due_iff.mpr ⟨List.mem_cons_of_mem _ (List.mem_singleton.mpr hstate), htime⟩

theorem not_left_due (hdue : row.due nowMs = true)
    (hpending : row.state.value = 0 → row.attempt < maxAttempts)
    (hexhausted : row.exhausted nowMs maxAttempts = false) :
    ¬ row.claimable nowMs maxAttempts = false := by
  obtain ⟨hstate, htime⟩ := due_iff.mp hdue
  intro hleft
  have hmany : maxAttempts ≤ row.attempt := Nat.le_of_not_lt fun hfew =>
    Bool.eq_false_iff.mp hleft (claimable_iff.mpr ⟨hstate, htime, hfew⟩)
  rcases List.mem_cons.mp hstate with hzero | hone
  · exact absurd (hpending hzero) (Nat.not_lt_of_le hmany)
  · exact Bool.eq_false_iff.mp hexhausted
      (exhausted_iff.mpr ⟨List.mem_singleton.mp hone, htime, hmany⟩)

structure ValidClaim (nowMs duration maxAttempts : Nat) : Prop where
  positive : 0 < maxAttempts
  bounded : maxAttempts ≤ 32
  duration : nowMs < nowMs + duration

theorem validateClaim_ok (nowMs : Nat)
    (h : validateClaim owner duration maxAttempts limit = .ok ()) :
    ValidClaim nowMs duration maxAttempts := by
  have hvalid := require_ok.mp h
  simp only [not_or, maxOutboxAttempts] at hvalid
  obtain ⟨-, hduration, hpositive, hbounded, -⟩ := hvalid
  exact ⟨Nat.pos_of_ne_zero hpositive, Nat.le_of_not_lt hbounded,
    Nat.lt_add_of_pos_right (Nat.pos_of_ne_zero hduration)⟩

structure ClaimedBatch (owner : NodeId) (nowMs expires maxAttempts limit : Nat)
    (table : List OutboxRow) (batch : OutboxClaimBatch) (table' : List OutboxRow) : Prop where
  counted : CountedTable table'
  moves : List.Forall₂ (Processed owner nowMs expires maxAttempts) table table'
  distinct : (batch.leases.map OutboxLease.id).Nodup
  finished : table.countP (OutboxRow.due nowMs) < limit → ∀ row ∈ table, row.due nowMs = true →
    (row.state.value = 0 → row.attempt < maxAttempts) →
      row.reap nowMs ∈ table' ∨ row.claim owner nowMs expires ∈ table'

theorem claimOutboxBatch_claims (htable : CountedTable table)
    (hvalid : validateClaim owner duration maxAttempts limit = .ok ())
    (hexpires : nowMs + duration < 2 ^ 63) :
    ∃ batch table', claimOutboxBatch owner nowMs duration maxAttempts limit table =
      .ok (batch, table') ∧
        ClaimedBatch owner nowMs (nowMs + duration) maxAttempts limit table batch table' := by
  obtain ⟨hpositive, hbounded, hduration⟩ := validateClaim_ok nowMs hvalid
  obtain ⟨reaped, table₁, hreap, hcounted₁, hmoves₁, hfinished₁⟩ :=
    reapExpiredExhausted_reaps nowMs limit htable hpositive
  obtain ⟨leases, table₂, hclaim, hcounted₂, hmoves₂, hhanded, hdistinct, hfinished₂⟩ :=
    claimRows_claims owner limit hcounted₁ hbounded hduration
  have hadd : fetch (checkedAdd nowMs duration) counterOverflow = .ok (nowMs + duration) :=
    fetch_ok.mpr (checkedAdd_of_lt (by omega))
  have hnow : toI64 nowMs = .ok (nowMs : Int) := if_pos (by omega)
  have hthen : toI64 (nowMs + duration) = .ok ((nowMs + duration : Nat) : Int) := if_pos hexpires
  refine ⟨⟨leases, reaped⟩, table₂, ?_, hcounted₂, ?_, hdistinct, ?_⟩
  · rw [claimOutboxBatch, hvalid, ok_bind, hadd, ok_bind, hnow, ok_bind, hthen, ok_bind, hreap,
      ok_bind]
    dsimp only
    rw [hclaim]
    rfl
  · exact forall₂_trans (fun row row' row'' (h : Reaps nowMs maxAttempts row row') h' =>
      processed_of h h') hmoves₁ hmoves₂
  · intro hlimit row hrow hdue hpending
    have hle : table₁.countP (OutboxRow.claimable nowMs maxAttempts) ≤
        table.countP (OutboxRow.due nowMs) := by
      refine countP_le_of_forall₂ hmoves₁ fun held held' h hclaimable => ?_
      cases h with
      | same => exact due_of_claimable hclaimable
      | reaped => cases hclaimable
    have hle' : table.countP (OutboxRow.exhausted nowMs maxAttempts) ≤
        table.countP (OutboxRow.due nowMs) :=
      List.countP_mono_left fun held _ hexhausted => due_of_exhausted hexhausted
    obtain ⟨row', hrow', hreaps⟩ := forall₂_target hmoves₁ hrow
    obtain ⟨row'', hrow'', hclaims⟩ := forall₂_target hmoves₂ hrow'
    have hsettled := hfinished₁ (hle'.trans_lt hlimit) row' hrow'
    cases hreaps with
    | reaped =>
      cases hclaims with
      | same => exact .inl hrow''
      | claimed hclaimable => cases hclaimable
    | same =>
      cases hclaims with
      | claimed => exact .inr hrow''
      | same =>
        have hleft := hfinished₂ (hle.trans_lt hlimit) row hrow''
        exact absurd hleft (not_left_due hdue hpending hsettled)

variable {batch : OutboxClaimBatch}

theorem claimOutboxBatch_valid
    (h : claimOutboxBatch owner nowMs duration maxAttempts limit table = .ok (batch, table')) :
    validateClaim owner duration maxAttempts limit = .ok () ∧ nowMs + duration < 2 ^ 63 := by
  simp only [claimOutboxBatch, bind_ok, fetch_ok, checkedAdd_some] at h
  obtain ⟨_, hvalid, expires, ⟨-, rfl⟩, -, -, _, hexpires, -⟩ := h
  exact ⟨hvalid, lt_of_toI64 hexpires⟩

theorem claimOutboxBatch_batch (htable : CountedTable table)
    (h : claimOutboxBatch owner nowMs duration maxAttempts limit table = .ok (batch, table')) :
    ClaimedBatch owner nowMs (nowMs + duration) maxAttempts limit table batch table' := by
  obtain ⟨hvalid, hexpires⟩ := claimOutboxBatch_valid h
  obtain ⟨batch', table'', hok, hclaimed⟩ := claimOutboxBatch_claims htable hvalid hexpires
  obtain ⟨rfl, rfl⟩ := ok_inj (hok.symm.trans h)
  exact hclaimed

end Batch

end PersistencePg
