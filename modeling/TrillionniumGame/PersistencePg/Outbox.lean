import TrillionniumGame.Persistence.DurableState
import TrillionniumGame.PersistencePg.Sessions

namespace PersistencePg
open Checks Persistence Tables

def maxClaimBatch : Nat := 64
def maxOutboxAttempts : Nat := 32

def expiredAttemptExhaustedReason : Digest32 := ⟨#v[
  0xc5, 0x7f, 0x69, 0xb9, 0xf6, 0x7d, 0xdf, 0x67, 0xd5, 0xd6, 0xa4, 0x9b, 0x45, 0x27, 0xaf, 0x2e,
  0x17, 0xad, 0x31, 0x3b, 0xfb, 0xc2, 0xf8, 0x39, 0x7b, 0x5f, 0x91, 0x20, 0x54, 0x1b, 0xe2, 0x5a]⟩

inductive OutboxRowState where
  | pending
  | leased (owner : NodeId)
  | applied (receipt : Digest32)
  | deadLetter (reason : Digest32)
  deriving DecidableEq

structure OutboxRow where
  intentId : IntentId
  entityId : EntityId
  commandId : CommandId
  kind : IntentKind
  payloadDigest : Digest32
  attempt : Nat
  leaseGeneration : Nat
  state : OutboxRowState
  availableAtMs : Nat
  updatedAtMs : Nat
  deriving DecidableEq

structure OutboxLease where
  id : IntentId
  entity : EntityId
  command : CommandId
  kind : IntentKind
  payload : Digest32
  attempt : Nat
  leaseGeneration : Nat
  owner : NodeId
  leaseExpiresAtMs : Nat
  deriving DecidableEq

structure OutboxClaimBatch where
  leases : List OutboxLease
  reapedDeadLetters : Nat

inductive OutboxRetryOutcome where
  | pending (nextAvailableAtMs attempt : Nat)
  | deadLetter (attempt : Nat) (reason : Digest32)

def OutboxRowState.value : OutboxRowState → Nat
  | .pending => 0
  | .leased _ => 1
  | .applied _ => 2
  | .deadLetter _ => 3

def trnmOutbox : Schema OutboxRow where
  check row := decide (row.attempt ≤ 32)
  clash row held := decide (held.intentId = row.intentId)

def updateOutbox (p : OutboxRow → Bool) (f : OutboxRow → OutboxRow) (table : List OutboxRow) :
    Except DomainError (List OutboxRow × Nat) :=
  (update trnmOutbox p f table).mapError classifyViolation

def stale (reason : String) : DomainError := ⟨.aborted, reason, .safeImmediate⟩

def OutboxRow.precedes (row row' : OutboxRow) : Bool :=
  row.availableAtMs < row'.availableAtMs ||
    row.availableAtMs = row'.availableAtMs &&
      row.intentId.bytes.toList < row'.intentId.bytes.toList

def selectFirst (p : OutboxRow → Bool) (table : List OutboxRow) : Option OutboxRow :=
  (table.filter p).foldl (fun first row => match first with
    | none => some row
    | some held => if row.precedes held then some row else some held) none

def OutboxRow.exhausted (nowMs maxAttempts : Nat) (row : OutboxRow) : Bool :=
  row.state.value = 1 && row.availableAtMs ≤ nowMs && maxAttempts ≤ row.attempt

def OutboxRow.claimable (nowMs maxAttempts : Nat) (row : OutboxRow) : Bool :=
  row.state.value ∈ [0, 1] && row.availableAtMs ≤ nowMs && row.attempt < maxAttempts

def validateClaim (owner : NodeId) (leaseDurationMs maxAttempts limit : Nat) :
    Except DomainError Unit :=
  require (¬ (owner.isZero ∨ leaseDurationMs = 0 ∨ maxAttempts = 0 ∨
    maxOutboxAttempts < maxAttempts ∨ limit = 0 ∨ maxClaimBatch < limit))
    (invalid "invalid_outbox_claim")

def reapOne (nowMs maxAttempts : Nat) (row : OutboxRow) (table : List OutboxRow) :
    Except DomainError (List OutboxRow) := do
  require (¬ (row.leaseGeneration = 0 ∨ row.attempt = 0 ∨ row.attempt < maxAttempts))
    (dataLoss "invalid_expired_outbox_lease")
  let p (held : OutboxRow) := held.intentId = row.intentId && held.exhausted nowMs maxAttempts &&
    held.leaseGeneration = row.leaseGeneration && held.attempt = row.attempt
  let (table, updated) ← updateOutbox p (fun held => { held with
    state := .deadLetter expiredAttemptExhaustedReason
    updatedAtMs := nowMs }) table
  require (updated = 1) (stale "outbox_reap_compare_and_swap_failed")
  return table

def reapExpiredExhausted (nowMs maxAttempts : Nat) : Nat → List OutboxRow →
    Except DomainError (Nat × List OutboxRow)
  | 0, table => .ok (0, table)
  | limit + 1, table =>
    match selectFirst (·.exhausted nowMs maxAttempts) table with
    | none => .ok (0, table)
    | some row => do
      let table ← reapOne nowMs maxAttempts row table
      let (reaped, table) ← reapExpiredExhausted nowMs maxAttempts limit table
      return (reaped + 1, table)

def claimOne (owner : NodeId) (nowMs leaseExpiresAtMs : Nat) (row : OutboxRow)
    (table : List OutboxRow) : Except DomainError (OutboxLease × List OutboxRow) := do
  let generation := row.leaseGeneration + 1
  let _ ← toI64 generation
  let p (held : OutboxRow) := held.intentId = row.intentId && held.state.value = row.state.value &&
    held.leaseGeneration = row.leaseGeneration
  let (table, updated) ← updateOutbox p (fun held => { held with
    state := .leased owner
    attempt := row.attempt + 1
    leaseGeneration := generation
    availableAtMs := leaseExpiresAtMs
    updatedAtMs := nowMs }) table
  require (updated = 1) (stale "outbox_claim_compare_and_swap_failed")
  return ({ id := row.intentId, entity := row.entityId, command := row.commandId, kind := row.kind,
            payload := row.payloadDigest, attempt := row.attempt + 1, leaseGeneration := generation,
            owner, leaseExpiresAtMs }, table)

def claimRows (owner : NodeId) (nowMs leaseExpiresAtMs maxAttempts : Nat) : Nat →
    List OutboxRow → Except DomainError (List OutboxLease × List OutboxRow)
  | 0, table => .ok ([], table)
  | limit + 1, table =>
    match selectFirst (·.claimable nowMs maxAttempts) table with
    | none => .ok ([], table)
    | some row => do
      let (lease, table) ← claimOne owner nowMs leaseExpiresAtMs row table
      let (leases, table) ← claimRows owner nowMs leaseExpiresAtMs maxAttempts limit table
      return (lease :: leases, table)

def claimOutboxBatch (owner : NodeId) (nowMs leaseDurationMs maxAttempts limit : Nat)
    (table : List OutboxRow) : Except DomainError (OutboxClaimBatch × List OutboxRow) := do
  validateClaim owner leaseDurationMs maxAttempts limit
  let leaseExpiresAtMs ← fetch (checkedAdd nowMs leaseDurationMs) counterOverflow
  let _ ← toI64 nowMs
  let _ ← toI64 leaseExpiresAtMs
  let (reaped, table) ← reapExpiredExhausted nowMs maxAttempts limit table
  let (leases, table) ← claimRows owner nowMs leaseExpiresAtMs maxAttempts limit table
  return (⟨leases, reaped⟩, table)

def validateLease (lease : OutboxLease) : Except DomainError Unit :=
  require (¬ (lease.id.isZero ∨ lease.entity.isZero ∨ lease.command.isZero ∨
    lease.payload.isZero ∨ lease.owner.isZero ∨ lease.attempt = 0 ∨ lease.leaseGeneration = 0))
    (invalid "invalid_outbox_lease")

section

variable (lease : OutboxLease)

def OutboxLease.fences (row : OutboxRow) : Bool :=
  row.intentId = lease.id && row.state = .leased lease.owner &&
    row.leaseGeneration = lease.leaseGeneration

def fencedUpdate (reason : String) (f : OutboxRow → OutboxRow) (table : List OutboxRow) :
    Except DomainError (List OutboxRow) := do
  let (table, updated) ← updateOutbox lease.fences f table
  require (updated = 1) (stale reason)
  return table

def completeOutbox (receipt : Digest32) (completedAtMs : Nat) (table : List OutboxRow) :
    Except DomainError (List OutboxRow) := do
  validateLease lease
  require (receipt.isZero = false) (invalid "invalid_outbox_receipt")
  let _ ← toI64 lease.leaseGeneration
  let _ ← toI64 completedAtMs
  fencedUpdate lease "outbox_complete_stale_lease" (fun row => { row with
    state := .applied receipt
    updatedAtMs := completedAtMs }) table

def loadFencedAttempt (table : List OutboxRow) : Except DomainError Nat := do
  let row ← fetch (table.find? lease.fences) (stale "outbox_retry_stale_lease")
  require (row.attempt ≠ 0 ∧ row.attempt = lease.attempt) (stale "outbox_retry_attempt_mismatch")
  return row.attempt

def settleRetry (nowMs nextAvailableAtMs maxAttempts attempt : Nat) (deadReason : Digest32)
    (table : List OutboxRow) : Except DomainError (OutboxRetryOutcome × List OutboxRow) :=
  if maxAttempts ≤ attempt then do
    let table ← fencedUpdate lease "outbox_dead_letter_stale_lease" (fun row => { row with
      state := .deadLetter deadReason
      updatedAtMs := nowMs }) table
    return (.deadLetter attempt deadReason, table)
  else do
    let table ← fencedUpdate lease "outbox_retry_stale_lease" (fun row => { row with
      state := .pending
      availableAtMs := nextAvailableAtMs
      updatedAtMs := nowMs }) table
    return (.pending nextAvailableAtMs attempt, table)

def retryOrDeadLetterOutbox (nowMs nextAvailableAtMs maxAttempts : Nat) (deadReason : Digest32)
    (table : List OutboxRow) : Except DomainError (OutboxRetryOutcome × List OutboxRow) := do
  validateLease lease
  require (¬ (maxAttempts = 0 ∨ maxOutboxAttempts < maxAttempts ∨ lease.attempt = 0 ∨
    nextAvailableAtMs < nowMs ∨ deadReason.isZero)) (invalid "invalid_outbox_retry_transition")
  let _ ← toI64 lease.leaseGeneration
  let _ ← toI64 nowMs
  let _ ← toI64 nextAvailableAtMs
  let attempt ← loadFencedAttempt lease table
  settleRetry lease nowMs nextAvailableAtMs maxAttempts attempt deadReason table

structure OutboxSubject where
  id : IntentId
  entity : EntityId
  command : CommandId
  kind : IntentKind
  payload : Digest32

def OutboxRow.subject (row : OutboxRow) : OutboxSubject :=
  ⟨row.intentId, row.entityId, row.commandId, row.kind, row.payloadDigest⟩

def OutboxLease.subject : OutboxSubject :=
  ⟨lease.id, lease.entity, lease.command, lease.kind, lease.payload⟩

end

structure OutboxLease.Grants (lease : OutboxLease) (row : OutboxRow) : Prop where
  subject : lease.subject = row.subject
  state : row.state = .leased lease.owner
  generation : row.leaseGeneration = lease.leaseGeneration
  attempt : row.attempt = lease.attempt
  expires : row.availableAtMs = lease.leaseExpiresAtMs

inductive Reaped (nowMs maxAttempts : Nat) (row : OutboxRow) : OutboxRow → Prop
  | same : Reaped nowMs maxAttempts row row
  | dead {row' : OutboxRow} (subject : row'.subject = row.subject)
      (exhausted : row.exhausted nowMs maxAttempts = true)
      (state : row'.state = .deadLetter expiredAttemptExhaustedReason) :
      Reaped nowMs maxAttempts row row'

inductive Leased (leases : List OutboxLease) (row : OutboxRow) : OutboxRow → Prop
  | same : Leased leases row row
  | granted {row' : OutboxRow} {lease : OutboxLease} (subject : row'.subject = row.subject)
      (mem : lease ∈ leases) (grants : lease.Grants row') : Leased leases row row'

def Claimed (nowMs maxAttempts : Nat) (leases : List OutboxLease) (row row' : OutboxRow) : Prop :=
  ∃ held, Reaped nowMs maxAttempts row held ∧ Leased leases held row'

variable {nowMs maxAttempts limit : Nat} {leases : List OutboxLease} {lease : OutboxLease}
  {table table' : List OutboxRow} {row row' row'' : OutboxRow}

theorem lt_of_toI64 {value : Nat} {i : Int} (h : toI64 value = .ok i) : value < 2 ^ 63 := by
  unfold toI64 at h
  split at h
  · assumption
  · cases h

variable {R : OutboxRow → OutboxRow → Prop} {p : OutboxRow → Bool} {f : OutboxRow → OutboxRow}

theorem forall₂_assign (hsame : ∀ row, R row row)
    (h : ∀ row ∈ table, p row = true → R row (f row)) :
    List.Forall₂ R table (assign p f table) := by
  rw [assign, List.forall₂_map_right_iff, List.forall₂_same]
  intro row hrow
  split
  · next hp => exact h row hrow hp
  · exact hsame row

theorem Reaped.trans (h : Reaped nowMs maxAttempts row row')
    (h' : Reaped nowMs maxAttempts row' row'') : Reaped nowMs maxAttempts row row'' := by
  cases h with
  | same => exact h'
  | dead hsubject hexhausted hstate =>
    cases h' with
    | same => exact .dead hsubject hexhausted hstate
    | dead hsubject' hexhausted' hstate' =>
      exact .dead (hsubject'.trans hsubject) hexhausted hstate'

theorem Leased.trans {more : List OutboxLease} (h : Leased leases row row')
    (h' : Leased more row' row'') : Leased (leases ++ more) row row'' := by
  cases h' with
  | same =>
    cases h with
    | same => exact .same
    | granted hsubject hmem hgrants =>
      exact .granted hsubject (List.mem_append_left _ hmem) hgrants
  | granted hsubject hmem hgrants =>
    refine .granted (hsubject.trans ?_) (List.mem_append_right _ hmem) hgrants
    cases h with
    | same => rfl
    | granted hsubject' _ _ => exact hsubject'

theorem Reaped.subject (h : Reaped nowMs maxAttempts row row') : row'.subject = row.subject := by
  cases h with
  | same => rfl
  | dead hsubject _ _ => exact hsubject

theorem Leased.subject (h : Leased leases row row') : row'.subject = row.subject := by
  cases h with
  | same => rfl
  | granted hsubject _ _ => exact hsubject

theorem Claimed.subject (h : Claimed nowMs maxAttempts leases row row') :
    row'.subject = row.subject := by
  obtain ⟨held, hreaped, hleased⟩ := h
  exact hleased.subject.trans hreaped.subject

theorem forall₂_trans {S T : OutboxRow → OutboxRow → Prop}
    (h : ∀ row row' row'', R row row' → S row' row'' → T row row'') {middle : List OutboxRow}
    (hR : List.Forall₂ R table middle) (hS : List.Forall₂ S middle table') :
    List.Forall₂ T table table' := by
  induction hR generalizing table' with
  | nil =>
    cases hS
    exact .nil
  | cons hrow _ ih =>
    cases hS with
    | cons hrow' hrest => exact .cons (h _ _ _ hrow hrow') (ih hrest)

theorem selectFirst_some (h : selectFirst p table = some row) : row ∈ table ∧ p row = true := by
  have hfold : ∀ (rows : List OutboxRow) (first : Option OutboxRow),
      rows.foldl (fun first row => match first with
        | none => some row
        | some held => if row.precedes held then some row else some held) first = some row →
      row ∈ rows ∨ first = some row := by
    intro rows
    induction rows with
    | nil => exact fun first h => .inr h
    | cons next rest ih =>
      intro first hfold
      rcases ih _ hfold with hmem | hfirst
      · exact .inl (List.mem_cons_of_mem _ hmem)
      · cases first with
        | none => exact .inl (Option.some.inj hfirst ▸ List.mem_cons_self)
        | some held =>
          dsimp only at hfirst
          split at hfirst
          · exact .inl (Option.some.inj hfirst ▸ List.mem_cons_self)
          · exact .inr hfirst
  rcases hfold _ none h with hmem | hnone
  · exact List.mem_filter.mp hmem
  · cases hnone

theorem updateOutbox_ok {updated : Nat} :
    updateOutbox p f table = .ok (table', updated) ↔
      (∀ row ∈ table.filter p, (f row).attempt ≤ 32) ∧ assign p f table = table' ∧
        table.countP p = updated := by
  rw [updateOutbox, mapError_ok, update_ok]
  exact and_congr_left' (forall₂_congr fun _ _ => decide_eq_true_iff)

theorem reapOne_ok (h : reapOne nowMs maxAttempts row table = .ok table') :
    List.Forall₂ (Reaped nowMs maxAttempts) table table' := by
  simp only [reapOne, bind_ok, require_ok, Prod.exists, updateOutbox_ok] at h
  obtain ⟨-, -, _, _, ⟨-, rfl, -⟩, -, -, h⟩ := h
  cases h
  refine forall₂_assign (fun _ => .same) fun held _ hp => .dead rfl ?_ rfl
  simp only [Bool.and_eq_true] at hp
  exact hp.1.1.2

theorem reapExpiredExhausted_ok {reaped : Nat}
    (h : reapExpiredExhausted nowMs maxAttempts limit table = .ok (reaped, table')) :
    List.Forall₂ (Reaped nowMs maxAttempts) table table' := by
  induction limit generalizing table reaped with
  | zero =>
    cases h
    exact List.forall₂_same.mpr fun _ _ => .same
  | succ limit ih =>
    rw [reapExpiredExhausted] at h
    split at h
    · cases h
      exact List.forall₂_same.mpr fun _ _ => .same
    · simp only [bind_ok] at h
      obtain ⟨table₁, hone, ⟨reaped', table₂⟩, hrest, h⟩ := h
      cases h
      exact forall₂_trans (fun _ _ _ h h' => h.trans h') (reapOne_ok hone) (ih hrest)

variable {owner : NodeId} {expires : Nat}

theorem claimOne_ok (h : claimOne owner nowMs expires row table = .ok (lease, table'))
    (hrow : row ∈ table) (hunique : (table.map OutboxRow.intentId).Nodup) :
    List.Forall₂ (Leased [lease]) table table' ∧ lease.subject = row.subject ∧
      lease.owner = owner := by
  simp only [claimOne, bind_ok, require_ok, Prod.exists, updateOutbox_ok] at h
  obtain ⟨-, -, _, _, ⟨-, rfl, -⟩, -, -, h⟩ := h
  cases h
  refine ⟨forall₂_assign (fun _ => .same) fun held hheld hp => ?_, rfl, rfl⟩
  simp only [Bool.and_eq_true, decide_eq_true_eq] at hp
  have hsame : held = row := List.inj_on_of_nodup_map hunique hheld hrow hp.1.1
  subst hsame
  exact .granted rfl List.mem_cons_self ⟨rfl, rfl, rfl, rfl, rfl⟩

theorem forall₂_ids (hsubject : ∀ row row', R row row' → row'.subject = row.subject)
    (h : List.Forall₂ R table table') :
    table'.map OutboxRow.subject = table.map OutboxRow.subject := by
  induction h with
  | nil => rfl
  | cons hrow _ ih => rw [List.map_cons, List.map_cons, hsubject _ _ hrow, ih]

theorem forall₂_unique (hsubject : ∀ row row', R row row' → row'.subject = row.subject)
    (h : List.Forall₂ R table table') (hunique : (table.map OutboxRow.intentId).Nodup) :
    (table'.map OutboxRow.intentId).Nodup := by
  have hids : ∀ rows : List OutboxRow,
      rows.map OutboxRow.intentId = (rows.map OutboxRow.subject).map OutboxSubject.id :=
    fun rows => (List.map_map (f := OutboxRow.subject) (g := OutboxSubject.id)).symm
  rw [hids, forall₂_ids hsubject h, ← hids]
  exact hunique

theorem claimRows_ok
    (h : claimRows owner nowMs expires maxAttempts limit table = .ok (leases, table'))
    (hunique : (table.map OutboxRow.intentId).Nodup) :
    List.Forall₂ (Leased leases) table table' ∧
      ∀ lease ∈ leases, lease.subject ∈ table.map OutboxRow.subject := by
  induction limit generalizing table leases with
  | zero =>
    cases h
    exact ⟨List.forall₂_same.mpr fun _ _ => .same, nofun⟩
  | succ limit ih =>
    rw [claimRows] at h
    split at h
    · cases h
      exact ⟨List.forall₂_same.mpr fun _ _ => .same, nofun⟩
    · next row hselected =>
      simp only [bind_ok] at h
      obtain ⟨⟨lease, table₁⟩, hone, ⟨leases', table₂⟩, hrest, h⟩ := h
      cases h
      have hrow := (selectFirst_some hselected).1
      obtain ⟨hmoved, hsubject, -⟩ := claimOne_ok hone hrow hunique
      obtain ⟨hmore, hleases⟩ :=
        ih hrest (forall₂_unique (fun _ _ => Leased.subject) hmoved hunique)
      refine ⟨forall₂_trans (fun _ _ _ h h' => h.trans h') hmoved hmore,
        List.forall_mem_cons.mpr ⟨?_, ?_⟩⟩
      · rw [hsubject]
        exact List.mem_map_of_mem hrow
      · rwa [forall₂_ids (fun _ _ => Leased.subject) hmoved] at hleases

theorem claimOutboxBatch_ok {duration : Nat} {batch : OutboxClaimBatch}
    (h : claimOutboxBatch owner nowMs duration maxAttempts limit table = .ok (batch, table'))
    (hunique : (table.map OutboxRow.intentId).Nodup) :
    List.Forall₂ (Claimed nowMs maxAttempts batch.leases) table table' ∧
      ∀ lease ∈ batch.leases, lease.subject ∈ table.map OutboxRow.subject := by
  simp only [claimOutboxBatch, bind_ok] at h
  obtain ⟨-, -, expires, -, -, -, -, -, ⟨reaped, table₁⟩, hreap, ⟨leases, table₂⟩, hclaim, h⟩ := h
  cases h
  have hreaped := reapExpiredExhausted_ok hreap
  obtain ⟨hleased, hleases⟩ :=
    claimRows_ok hclaim (forall₂_unique (fun _ _ => Reaped.subject) hreaped hunique)
  refine ⟨forall₂_trans (fun _ held _ h h' => ⟨held, h, h'⟩) hreaped hleased, ?_⟩
  rwa [forall₂_ids (fun _ _ => Reaped.subject) hreaped] at hleases

inductive Fenced (lease : OutboxLease) (state : OutboxRowState → Prop) (row : OutboxRow) :
    OutboxRow → Prop
  | same : Fenced lease state row row
  | settled {row' : OutboxRow} (subject : row'.subject = row.subject)
      (id : row.intentId = lease.id) (leased : row.state = .leased lease.owner)
      (settles : state row'.state) : Fenced lease state row row'

variable {state : OutboxRowState → Prop}

theorem Fenced.subject (h : Fenced lease state row row') : row'.subject = row.subject := by
  cases h with
  | same => rfl
  | settled hsubject _ _ _ => exact hsubject

theorem fencedUpdate_ok {reason : String} (h : fencedUpdate lease reason f table = .ok table')
    (hsubject : ∀ row, (f row).subject = row.subject) (hstate : ∀ row, state (f row).state) :
    List.Forall₂ (Fenced lease state) table table' := by
  simp only [fencedUpdate, bind_ok, Prod.exists, updateOutbox_ok] at h
  obtain ⟨_, _, ⟨-, rfl, -⟩, -, -, h⟩ := h
  cases h
  refine forall₂_assign (fun _ => .same) fun row _ hp => ?_
  simp only [OutboxLease.fences, Bool.and_eq_true, decide_eq_true_eq] at hp
  exact .settled (hsubject row) hp.1.1 hp.1.2 (hstate row)

theorem completeOutbox_ok {receipt : Digest32} {completedAtMs : Nat}
    (h : completeOutbox lease receipt completedAtMs table = .ok table') :
    List.Forall₂ (Fenced lease fun state => state = .applied receipt) table table' := by
  simp only [completeOutbox, bind_ok] at h
  obtain ⟨-, -, -, -, -, -, -, -, h⟩ := h
  exact fencedUpdate_ok h (fun _ => rfl) fun _ => rfl

theorem retryOrDeadLetterOutbox_ok {next : Nat} {reason : Digest32} {outcome : OutboxRetryOutcome}
    (h : retryOrDeadLetterOutbox lease nowMs next maxAttempts reason table =
      .ok (outcome, table')) :
    List.Forall₂ (Fenced lease fun state => state = .pending ∨ state = .deadLetter reason)
      table table' := by
  simp only [retryOrDeadLetterOutbox, bind_ok] at h
  obtain ⟨-, -, -, -, -, -, -, -, -, -, attempt, -, h⟩ := h
  unfold settleRetry at h
  split at h
  · obtain ⟨table₁, hupdate, h⟩ := bind_ok.mp h
    cases h
    exact fencedUpdate_ok hupdate (fun _ => rfl) fun _ => .inr rfl
  · obtain ⟨table₁, hupdate, h⟩ := bind_ok.mp h
    cases h
    exact fencedUpdate_ok hupdate (fun _ => rfl) fun _ => .inl rfl

theorem forall₂_source (h : List.Forall₂ R table table') (hrow' : row' ∈ table') :
    ∃ row ∈ table, R row row' := by
  induction h with
  | nil => cases hrow'
  | cons hrow _ ih =>
    rcases List.mem_cons.mp hrow' with rfl | hrest
    · exact ⟨_, List.mem_cons_self, hrow⟩
    · obtain ⟨row, hmem, hR⟩ := ih hrest
      exact ⟨row, List.mem_cons_of_mem _ hmem, hR⟩

end PersistencePg
