import TrillionniumGame.PersistencePg.SpoolRuns

namespace PersistencePg
open Checks Directories Persistence Programs Protocol Runs

section
variable {W : Type}

def EndsPass (c : WorkerConfig) : (call : Call) → call.Reply → Prop
  | .nowMillis, reply => match reply with
    | .ok now => 2 ^ 64 ≤ now + c.maxBackoffMs
    | .error _ => True
  | .completeOutbox .., reply => reply ≠ .ok ()
  | .retryOrDeadLetterOutbox .., reply => ∀ outcome, reply ≠ .ok outcome
  | .sha256Worker _, reply => reply = none
  | _, _ => False

def ClaimAnswered (s t : Shared W) : (c : Call) → c.Reply → Prop
  | .claimOutboxBatch .., reply => (∀ batch, reply ≠ .ok batch) → t = s
  | _, _ => True

def SparesWaiting (s : Shared W) : Call → Prop
  | .claimOutboxBatch _ nowMs _ maxAttempts _ =>
    ∀ w, ∀ lease ∈ s.waiting w, lease.leaseExpiresAtMs ≤ nowMs → maxAttempts ≤ lease.attempt →
      ∃ w' held, (w', held) ∈ s.tried ∧ held.id = lease.id
  | _ => True

variable [DecidableEq W]

def ClaimedAnswers (sha256 : List UInt8 → Digest32) (w : W) (c : Call) (s : Shared W) (r : c.Reply)
    (t : Shared W) : Prop :=
  Answers sha256 w c s r t ∧ ClaimAnswered s t c r

structure DutyAnswers (sha256 : List UInt8 → Digest32) (config : W → WorkerConfig) (w : W)
    (c : Call) (s : Shared W) (r : c.Reply) (t : Shared W) : Prop where
  answers : ClaimedAnswers sha256 w c s r t
  late : EndsPass (config w) c r → s.waiting w = []
  spares : SparesWaiting s c

structure DutyInv (s : Shared W) : Prop where
  unique : (s.outbox.map OutboxRow.intentId).Nodup
  leased : ∀ row ∈ s.outbox, ∀ owner, row.state = .leased owner →
    ∃ w lease, (w, lease) ∈ s.obtained ∧ lease.Grants row
  obtained : ∀ w lease, (w, lease) ∈ s.obtained → (w, lease) ∈ s.tried ∨ lease ∈ s.waiting w
  dead : ∀ row ∈ s.outbox, ∀ reason, row.state = .deadLetter reason →
    ∃ w lease, (w, lease) ∈ s.tried ∧ lease.id = row.intentId

def TriesMore (s t : Shared W) : Prop := ∀ tried ∈ s.tried, tried ∈ t.tried

def dutyProtocol (sha256 : List UInt8 → Digest32) (config : W → WorkerConfig) :
    Protocol W Call Call.Reply (Shared W) where
  answers := DutyAnswers sha256 config
  inv := DutyInv
  moves := TriesMore
  rely w s t := TriesMore s t ∧ t.waiting w = s.waiting w
  refl _ _ := ⟨fun _ => id, rfl⟩
  trans _ _ _ _ h h' := ⟨fun tried htried => h'.1 tried (h.1 tried htried), h'.2.trans h.2⟩
  within _ _ _ h := h.1

def Left (w : W) (rest : List OutboxLease) (s : Shared W) : Prop := s.waiting w = rest

def Tried (w : W) (lease : OutboxLease) (rest : List OutboxLease) (s : Shared W) : Prop :=
  s.waiting w = rest ∧ (w, lease) ∈ s.tried

variable {sha256 : List UInt8 → Digest32} {config : W → WorkerConfig} {w : W} {s t : Shared W}
  {lease : OutboxLease} {rest : List OutboxLease}

theorem keeps_same (hinv : DutyInv t) (htried : t.tried = s.tried)
    (hwaiting : t.waiting = s.waiting) : (dutyProtocol sha256 config).Keeps w s t where
  inv := hinv
  moves _ h := htried ▸ h
  others _ _ := ⟨fun _ h => htried ▸ h, congrFun hwaiting _⟩

theorem stable_left : (dutyProtocol sha256 config).Stable w (Left w rest) :=
  fun _ _ hst hs => hst.2.trans hs

theorem stable_tried : (dutyProtocol sha256 config).Stable w (Tried w lease rest) :=
  fun _ _ hst hs => ⟨hst.2.trans hs.1, hst.1 _ hs.2⟩

theorem triple_ask {ε : Type} {c : Call} {A : Shared W → Prop} {B : c.Reply → Shared W → Prop}
    {E : ε → Shared W → Prop} (hA : (dutyProtocol sha256 config).Stable w A)
    (hB : ∀ r, (dutyProtocol sha256 config).Stable w (B r))
    (h : ∀ t, DutyInv t → A t → ∀ r u, DutyAnswers sha256 config w c t r u →
      (dutyProtocol sha256 config).Keeps w t u ∧ B r u) :
    Triple (dutyProtocol sha256 config) w A (ask c : Worker ε c.Reply) B E :=
  Triple.ask hA hB h

section Delivery

def Call.Spools : Call → Prop
  | .nowMillis | .acquire | .claimOutboxBatch .. | .completeOutbox .. => False
  | .retryOrDeadLetterOutbox .. | .deliver _ | .sha256Worker _ => False
  | _ => True

theorem answers_spools {c : Call} {r : c.Reply} (hc : c.Spools)
    (h : Answers sha256 w c s r t) : ∃ d, t = { s with directory := d } := by
  cases c with
  | nowMillis | acquire | claimOutboxBatch | completeOutbox | retryOrDeadLetterOutbox | deliver
  | sha256Worker => exact hc.elim
  | createDirAll | createNew | write | syncAll | hardLink | removeFile | syncDirectory =>
    obtain ⟨d, -, rfl⟩ := h
    exact ⟨d, rfl⟩
  | pathExists | symlinkMetadata | read | openFile | sha256Delivery => exact ⟨_, h.1⟩

variable (path : SpoolName)

theorem only_verifyExistingFile (expected : List UInt8) :
    (verifyExistingFile path expected).run.Only Call.Spools := by
  refine Procedure.only_ask trivial fun metadata => ?_
  refine Procedure.only_bind trivial fun isFile => Procedure.only_bind trivial fun _ => ?_
  refine Procedure.only_ask trivial fun contents => Procedure.only_bind trivial fun _ => ?_
  exact trivial

theorem only_writeAll (file position : Nat) (rest : List UInt8) :
    (writeAll file position rest).run.Only Call.Spools := by
  induction rest generalizing position with
  | nil => exact trivial
  | cons byte rest ih =>
    refine Procedure.only_ask trivial fun written => ?_
    exact Procedure.only_bind trivial fun _ => ih (position + 1)

theorem only_syncFile (file : Nat) : (syncFile file).run.Only Call.Spools :=
  Procedure.only_ask trivial fun _ => trivial

theorem only_prepareTemporaryFile (expected : List UInt8) :
    (prepareTemporaryFile path expected).run.Only Call.Spools := by
  refine Procedure.only_ask trivial fun created => ?_
  match created with
  | .ok file =>
    exact Procedure.only_bind (only_writeAll file 0 expected) fun _ => only_syncFile file
  | .error .alreadyExists =>
    refine Procedure.only_bind (only_verifyExistingFile path expected) fun _ => ?_
    refine Procedure.only_ask trivial fun opened => ?_
    exact Procedure.only_bind trivial only_syncFile
  | .error .other => exact trivial

theorem only_confirm (record : List UInt8) : (confirm path record).run.Only Call.Spools :=
  Procedure.only_bind (only_verifyExistingFile path record) fun _ =>
    Procedure.only_ask trivial fun _ => trivial

theorem only_settleLink (record : List UInt8) (linked : Except FileError Unit) :
    (settleLink path record linked).run.Only Call.Spools := by
  match linked with
  | .ok () => exact trivial
  | .error .alreadyExists => exact only_verifyExistingFile path record
  | .error .other => exact trivial

theorem only_publish (finalPath temporaryPath : SpoolName) (record : List UInt8) :
    (publish finalPath temporaryPath record).run.Only Call.Spools := by
  refine Procedure.only_bind (only_prepareTemporaryFile temporaryPath record) fun _ => ?_
  refine Procedure.only_ask trivial fun linked => ?_
  refine Procedure.only_bind (only_settleLink finalPath record linked) fun _ => ?_
  refine Procedure.only_ask trivial fun _ => Procedure.only_ask trivial fun synced => ?_
  exact Procedure.only_bind trivial fun _ => only_confirm finalPath record

theorem triple_spools {ε α : Type} {x : Worker ε α} {A : Shared W → Prop}
    (hx : x.run.Only Call.Spools) (hA : (dutyProtocol sha256 config).Stable w A)
    (hdirectory : ∀ s d, A s → A { s with directory := d }) :
    Triple (dutyProtocol sha256 config) w A x (fun _ => A) fun _ => A := by
  refine Triple.only hx hA fun c hc t ht hAt r u hanswer => ?_
  obtain ⟨d, rfl⟩ := answers_spools hc hanswer.answers.1
  exact ⟨keeps_same ⟨ht.unique, ht.leased, ht.obtained, ht.dead⟩ rfl rfl, hdirectory t d hAt⟩

theorem tries_first (h : s.waiting w = lease :: rest) : (s.tries w lease).waiting w = rest := by
  refine (Function.update_self _ _ _).trans ?_
  rw [h, List.erase_cons_head]

theorem tries_other {w' : W} (hw : w' ≠ w) : (s.tries w lease).waiting w' = s.waiting w' :=
  Function.update_of_ne hw _ _

theorem triple_deliver : Triple (dutyProtocol sha256 config) w (Left w (lease :: rest))
    (deliver lease) (fun _ => Tried w lease rest) fun _ => Tried w lease rest := by
  refine .bind (triple_ask (c := .deliver lease) (B := fun _ => Tried w lease rest) stable_left
    (fun _ => stable_tried) ?_) (fun _ => ?_) fun _ => stable_tried
  · rintro t hinv ht r u ⟨⟨rfl, -⟩, -, -⟩
    have hrest := tries_first ht
    refine ⟨⟨⟨hinv.unique, hinv.leased, ?_, ?_⟩, ?_, ?_⟩, hrest, List.mem_cons_self⟩
    · intro w' lease' hobtained
      rcases hinv.obtained w' lease' hobtained with htried | hwaiting
      · exact .inl (List.mem_cons_of_mem _ htried)
      · by_cases hw : w' = w
        · subst hw
          rw [ht] at hwaiting
          rcases List.mem_cons.mp hwaiting with rfl | hmem
          · exact .inl List.mem_cons_self
          · exact .inr (hrest ▸ hmem)
        · exact .inr ((tries_other hw).symm ▸ hwaiting)
    · intro row hrow reason hstate
      obtain ⟨w', held, htried, hid⟩ := hinv.dead row hrow reason hstate
      exact ⟨w', held, List.mem_cons_of_mem _ htried, hid⟩
    · exact fun tried htried => List.mem_cons_of_mem _ htried
    · exact fun w' hw => ⟨fun tried htried => List.mem_cons_of_mem _ htried, tries_other hw⟩
  · have hspools : ∀ found : Bool, (if found
        then confirm (finalName lease.id) (spoolRecord lease.subject)
        else publish (finalName lease.id) (temporaryName lease)
          (spoolRecord lease.subject)).run.Only Call.Spools := by
      intro found
      split
      · exact only_confirm _ _
      · exact only_publish _ _ _
    exact triple_spools (Procedure.only_ask trivial hspools) stable_tried fun _ _ => id

end Delivery

section Settling

variable {A : Shared W → Prop}

theorem triple_now (hA : (dutyProtocol sha256 config).Stable w A) :
    Triple (dutyProtocol sha256 config) w A nowMillis
      (fun now s => A s ∧ (2 ^ 64 ≤ now + (config w).maxBackoffMs → Left w [] s))
      fun _ => Left w [] := by
  have hB : ∀ P : Prop, (dutyProtocol sha256 config).Stable w fun s => A s ∧ (P → Left w [] s) :=
    fun P s t hst hs => ⟨hA s t hst hs.1, fun h => stable_left s t hst (hs.2 h)⟩
  refine .bind (triple_ask (c := .nowMillis)
    (B := fun r s => A s ∧ (EndsPass (config w) .nowMillis r → Left w [] s)) hA (fun _ => hB _) ?_)
    (fun now => ?_) fun _ => stable_left
  · rintro t hinv ht r u ⟨⟨rfl, -⟩, hlate, -⟩
    exact ⟨keeps_same hinv rfl rfl, ht, hlate⟩
  · refine .reply (fun _ => hB _) (fun _ => stable_left) (fun now hnow s hs => ?_)
      fun e he s hs => ?_
    · subst hnow
      exact hs
    · subst he
      exact hs.2 trivial

theorem triple_sha256Worker (hA : (dutyProtocol sha256 config).Stable w A) (input : List UInt8) :
    Triple (dutyProtocol sha256 config) w A (sha256Worker input) (fun _ => A)
      fun _ => Left w [] := by
  have hB : ∀ P : Prop, (dutyProtocol sha256 config).Stable w fun s => A s ∧ (P → Left w [] s) :=
    fun P s t hst hs => ⟨hA s t hst hs.1, fun h => stable_left s t hst (hs.2 h)⟩
  refine .bind (triple_ask (c := .sha256Worker input)
    (B := fun r s => A s ∧ (r = none → Left w [] s)) hA (fun _ => hB _) ?_) (fun digest => ?_)
    fun _ => stable_left
  · rintro t hinv ht r u ⟨⟨⟨rfl, -⟩, -⟩, hlate, -⟩
    exact ⟨keeps_same hinv rfl rfl, ht, hlate⟩
  · exact .reply (fun _ => hA) (fun _ => stable_left) (fun _ _ s hs => hs.1)
      fun e he s hs => hs.2 (fetch_error.mp he).1

theorem backoffBase_le (attempt : Nat) {maximumMs : Nat} (h : 1 ≤ maximumMs) :
    backoffBase attempt maximumMs ≤ maximumMs :=
  max_le (min_le_right _ _) h

theorem within_width {base floor : Nat} (h : floor ≤ base) (n : Nat) :
    floor + n % (base - floor + 1) ≤ base := by
  have hmod := Nat.mod_lt n (show 0 < base - floor + 1 from Nat.succ_pos _)
  omega

theorem triple_retryDelayMs (hA : (dutyProtocol sha256 config).Stable w A) :
    Triple (dutyProtocol sha256 config) w A (retryDelayMs lease (config w).maxBackoffMs)
      (fun delay s => A s ∧ delay ≤ (config w).maxBackoffMs) fun _ => Left w [] := by
  refine .bind (triple_sha256Worker hA _) (fun digest => .pure ?_ fun s hs => ⟨hs, ?_⟩)
    fun _ => stable_left
  · exact fun s t hst hs => ⟨hA s t hst hs.1, hs.2⟩
  · have hbase := backoffBase_le lease.attempt
      (show 1 ≤ (config w).maxBackoffMs from le_trans (by decide) (config w).backoffs.1)
    refine le_trans (within_width (max_le (Nat.div_le_self _ 2) ?_) _) hbase
    exact le_max_right _ _

omit [DecidableEq W] in
theorem DutyInv.fenced {state : OutboxRowState → Prop} {table : List OutboxRow} (h : DutyInv s)
    (htried : (w, lease) ∈ s.tried) (hrows : List.Forall₂ (Fenced lease state) s.outbox table)
    (hleased : ∀ owner, ¬ state (.leased owner)) : DutyInv { s with outbox := table } where
  unique := forall₂_unique (fun _ _ => Fenced.subject) hrows h.unique
  leased row' hrow' owner hstate := by
    obtain ⟨row, hrow, hfenced⟩ := forall₂_source hrows hrow'
    cases hfenced with
    | same => exact h.leased _ hrow owner hstate
    | settled _ _ _ hsettles => exact absurd (hstate ▸ hsettles) (hleased owner)
  obtained := h.obtained
  dead row' hrow' reason hstate := by
    obtain ⟨row, hrow, hfenced⟩ := forall₂_source hrows hrow'
    cases hfenced with
    | same => exact h.dead _ hrow reason hstate
    | settled hsubject hid _ _ =>
      exact ⟨w, lease, htried, (hid.symm.trans (congrArg OutboxSubject.id hsubject.symm))⟩

theorem triple_settleDelivery (receipt : Digest32) (report : BatchReport) :
    Triple (dutyProtocol sha256 config) w (Tried w lease rest) (settleDelivery lease receipt report)
      (fun _ => Left w rest) fun _ => Left w [] := by
  refine .bind (triple_now stable_tried) (fun completedAtMs => ?_) fun _ => stable_left
  refine .bind (B := fun r s => Left w rest s ∧ (r ≠ .ok () → Left w [] s))
    ((triple_ask (c := .completeOutbox lease receipt completedAtMs) stable_tried
      (fun r s t hst hs => ⟨stable_left s t hst hs.1, fun h => stable_left s t hst (hs.2 h)⟩)
      ?_).weaken (fun _ _ hs => hs.1) (fun _ _ _ h => h) fun _ _ _ h => h) (fun completed => ?_)
    fun _ => stable_left
  · rintro t hinv ht r u ⟨⟨⟨table, htransacts, rfl⟩, -⟩, hlate, -⟩
    refine ⟨keeps_same ?_ rfl rfl, ht.1, hlate⟩
    rcases htransacts.table with rfl | ⟨a, hrun⟩
    · exact hinv
    obtain ⟨table', hcomplete, hpair⟩ := map_ok.mp hrun
    cases (Prod.mk.inj hpair).2
    exact hinv.fenced ht.2 (completeOutbox_ok hcomplete) nofun
  · refine .bind (.reply (B := fun _ => Left w rest) (fun _ => stable_left) (fun _ => stable_left)
      (fun _ _ s hs => hs.1) fun e he s hs => hs.2 fun h => ?_)
      (fun _ => .pure stable_left fun _ => id) fun _ => stable_left
    cases he.symm.trans h

theorem triple_settleFailure (failure : DeliveryFailure) (report : BatchReport) :
    Triple (dutyProtocol sha256 config) w (Tried w lease rest)
      (settleFailure (config w) lease failure report)
      (fun _ => Left w rest) fun _ => Left w [] := by
  have hB : ∀ P : Prop, (dutyProtocol sha256 config).Stable w
      fun s => Tried w lease rest s ∧ (P → Left w [] s) :=
    fun P s t hst hs => ⟨stable_tried s t hst hs.1, fun h => stable_left s t hst (hs.2 h)⟩
  refine .bind (triple_now stable_tried) (fun retryNowMs => ?_) fun _ => stable_left
  refine .bind (triple_retryDelayMs (hB _)) (fun delayMs => ?_) fun _ => stable_left
  refine .bind (.reply (B := fun _ => Tried w lease rest) (fun _ => stable_tried)
    (fun _ => stable_left) (fun _ _ s hs => hs.1.1) fun e he s hs => hs.1.2 ?_)
    (fun nextAvailableAtMs => ?_) fun _ => stable_left
  · have hnone := (fetch_error.mp he).1
    by_contra hfits
    rw [checkedAdd_of_lt (by have hdelay := hs.2; omega)] at hnone
    cases hnone
  refine .bind (triple_sha256Worker stable_tried _) (fun reason => ?_) fun _ => stable_left
  refine .bind (triple_ask (c := .retryOrDeadLetterOutbox lease retryNowMs nextAvailableAtMs
    (config w).maxAttempts reason)
    (B := fun r s => Left w rest s ∧ ((∀ outcome, r ≠ .ok outcome) → Left w [] s)) stable_tried
    (fun r s t hst hs => ⟨stable_left s t hst hs.1, fun h => stable_left s t hst (hs.2 h)⟩) ?_)
    (fun outcome => ?_) fun _ => stable_left
  · rintro t hinv ht r u ⟨⟨⟨table, htransacts, rfl⟩, -⟩, hlate, -⟩
    refine ⟨keeps_same ?_ rfl rfl, ht.1, hlate⟩
    rcases htransacts.table with rfl | ⟨a, hrun⟩
    · exact hinv
    · exact hinv.fenced ht.2 (retryOrDeadLetterOutbox_ok hrun) (by rintro owner (h | h) <;> cases h)
  · refine .bind (.reply (B := fun _ => Left w rest) (fun _ => stable_left) (fun _ => stable_left)
      (fun _ _ s hs => hs.1) fun e he s hs => hs.2 fun _ h => ?_)
      (fun _ => .pure stable_left fun _ => id) fun _ => stable_left
    cases he.symm.trans h

theorem triple_processLease (report : BatchReport) :
    Triple (dutyProtocol sha256 config) w (Left w (lease :: rest))
      (processLease (config w) lease report) (fun _ => Left w rest) fun _ => Left w [] := by
  refine Triple.attempt triple_deliver fun delivered => ?_
  cases delivered with
  | ok receipt => exact triple_settleDelivery receipt report
  | error failure => exact triple_settleFailure failure report

theorem triple_processLeases (leases : List OutboxLease) (report : BatchReport) :
    Triple (dutyProtocol sha256 config) w (Left w leases)
      (processLeases (config w) leases report) (fun _ => Left w []) fun _ => Left w [] := by
  induction leases generalizing report with
  | nil => exact .pure stable_left fun _ => id
  | cons lease rest ih =>
    exact .bind (triple_processLease report) (fun report => ih report) fun _ => stable_left

end Settling

end

section
variable {W : Type} [DecidableEq W] {sha256 : List UInt8 → Digest32} {config : W → WorkerConfig}
  {w : W} {s : Shared W}

theorem obtains_same (batch : OutboxClaimBatch) : (s.obtains w batch).waiting w = batch.leases :=
  Function.update_self _ _ _

theorem obtains_other {w' : W} (hw : w' ≠ w) (batch : OutboxClaimBatch) :
    (s.obtains w batch).waiting w' = s.waiting w' :=
  Function.update_of_ne hw _ _

theorem DutyInv.claim {nowMs duration maxAttempts limit : Nat} {owner : NodeId}
    {batch : OutboxClaimBatch} {table : List OutboxRow} (h : DutyInv s) (hidle : Left w [] s)
    (hspares : SparesWaiting s (.claimOutboxBatch owner nowMs duration maxAttempts limit))
    (hrun : claimOutboxBatch owner nowMs duration maxAttempts limit s.outbox = .ok (batch, table)) :
    DutyInv ({ s with outbox := table }.obtains w batch) := by
  obtain ⟨hrows, -⟩ := claimOutboxBatch_ok hrun h.unique
  have hkept : ∀ w' lease, (w', lease) ∈ s.obtained →
      (w', lease) ∈ s.obtained ++ batch.leases.map fun lease => (w, lease) :=
    fun _ _ hmem => List.mem_append_left _ hmem
  refine ⟨forall₂_unique (fun _ _ => Claimed.subject) hrows h.unique, ?_, ?_, ?_⟩
  · intro row' hrow' owner' hstate
    obtain ⟨row, hrow, held, hreaped, hleased⟩ := forall₂_source hrows hrow'
    cases hleased with
    | same =>
      cases hreaped with
      | same =>
        obtain ⟨w', lease, hmem, hgrants⟩ := h.leased _ hrow owner' hstate
        exact ⟨w', lease, hkept _ _ hmem, hgrants⟩
      | dead _ _ hdead =>
        rw [hstate] at hdead
        cases hdead
    | granted _ hmem hgrants =>
      exact ⟨w, _, List.mem_append_right _ (List.mem_map_of_mem hmem), hgrants⟩
  · intro w' lease hmem
    rcases List.mem_append.mp hmem with hold | hnew
    · rcases h.obtained w' lease hold with htried | hwaiting
      · exact .inl htried
      · by_cases hw : w' = w
        · subst hw
          rw [hidle] at hwaiting
          cases hwaiting
        · exact .inr ((obtains_other hw batch).symm ▸ hwaiting)
    · obtain ⟨held, hheld, hpair⟩ := List.mem_map.mp hnew
      cases hpair
      have hsame := obtains_same (w := w) (s := { s with outbox := table }) batch
      exact .inr (hsame.symm ▸ hheld)
  · intro row' hrow' reason hstate
    obtain ⟨row, hrow, held, hreaped, hleased⟩ := forall₂_source hrows hrow'
    cases hleased with
    | granted _ _ hgrants =>
      have hleased := hgrants.state
      rw [hstate] at hleased
      cases hleased
    | same =>
      cases hreaped with
      | same => exact h.dead _ hrow reason hstate
      | dead hsubject hexhausted _ =>
        have hid : row'.intentId = row.intentId := congrArg OutboxSubject.id hsubject
        simp only [OutboxRow.exhausted, Bool.and_eq_true, decide_eq_true_eq] at hexhausted
        obtain ⟨⟨hvalue, hexpired⟩, hattempt⟩ := hexhausted
        obtain ⟨owner', hleased⟩ : ∃ owner', row.state = .leased owner' := by
          cases hrowState : row.state with
          | leased owner' => exact ⟨owner', rfl⟩
          | pending | applied _ | deadLetter _ =>
            rw [hrowState] at hvalue
            cases hvalue
        obtain ⟨w', lease, hmem, hgrants⟩ := h.leased row hrow owner' hleased
        have hlease : lease.id = row.intentId := congrArg OutboxSubject.id hgrants.subject
        rw [hid, ← hlease]
        rcases h.obtained w' lease hmem with htried | hwaiting
        · exact ⟨w', lease, htried, rfl⟩
        · exact hspares w' lease hwaiting (hgrants.expires ▸ hexpired) (hgrants.attempt ▸ hattempt)

omit [DecidableEq W] in
theorem DutyInv.insert {row : OutboxRow} (h : DutyInv s) (hfresh : row.Fresh s.outbox) :
    DutyInv (s.insert row) := by
  refine ⟨?_, ?_, h.obtained, ?_⟩
  · refine List.nodup_cons.mpr ⟨fun hmem => ?_, h.unique⟩
    obtain ⟨held, hheld, hid⟩ := List.mem_map.mp hmem
    exact hfresh.unused held hheld hid
  · intro held hheld owner hstate
    rcases List.mem_cons.mp hheld with rfl | hold
    · cases hfresh.state.symm.trans hstate
    · exact h.leased held hold owner hstate
  · intro held hheld reason hstate
    rcases List.mem_cons.mp hheld with rfl | hold
    · cases hfresh.state.symm.trans hstate
    · exact h.dead held hold reason hstate

theorem triple_processOnceAttempt : Triple (dutyProtocol sha256 config) w (Left w [])
    (processOnceAttempt (config w)) (fun _ => Left w []) fun _ => Left w [] := by
  refine .bind (Triple.weaken (triple_now stable_left) (fun _ _ => id) (fun _ _ _ h => h.1)
    fun _ _ _ h => h) (fun nowMs => ?_) fun _ => stable_left
  refine .bind (triple_ask (c := .acquire) (B := fun _ => Left w []) stable_left
    (fun _ => stable_left) ?_) (fun acquired => ?_) fun _ => stable_left
  · rintro t hinv ht r u ⟨⟨rfl, -⟩, -, -⟩
    exact ⟨keeps_same hinv rfl rfl, ht⟩
  refine .bind (.reply (B := fun _ => Left w []) (fun _ => stable_left) (fun _ => stable_left)
    (fun _ _ s hs => hs) fun _ _ s hs => hs) (fun _ => ?_) fun _ => stable_left
  have hclaimed : ∀ r : Except DomainError OutboxClaimBatch, (dutyProtocol sha256 config).Stable w
      fun s => (∀ batch, r = .ok batch → Left w batch.leases s) ∧
        ((∀ batch, r ≠ .ok batch) → Left w [] s) :=
    fun r s t hst hs => ⟨fun batch hr => stable_left s t hst (hs.1 batch hr),
      fun hr => stable_left s t hst (hs.2 hr)⟩
  refine .bind (triple_ask (c := .claimOutboxBatch (config w).node nowMs (config w).leaseDurationMs
    (config w).maxAttempts (config w).batchSize)
    (B := fun r s => (∀ batch, r = .ok batch → Left w batch.leases s) ∧
      ((∀ batch, r ≠ .ok batch) → Left w [] s)) stable_left hclaimed ?_)
    (fun claimed => ?_) fun _ => stable_left
  · rintro t hinv ht r u ⟨⟨⟨table, htransacts, hu⟩, hanswered⟩, -, hspares⟩
    cases htransacts with
    | @answered batch _ hrun =>
      subst hu
      refine ⟨⟨hinv.claim ht hspares hrun, fun _ => id, fun w' hw => ⟨fun _ => id, ?_⟩⟩, ?_, ?_⟩
      · exact obtains_other hw batch
      · intro batch' hr
        cases hr
        exact obtains_same batch
      · exact fun hr => absurd rfl (hr batch)
    | lost | failed =>
      cases hanswered nofun
      exact ⟨keeps_same hinv rfl rfl, nofun, fun _ => ht⟩
  · refine .bind (.reply (B := fun batch => Left w batch.leases) (fun _ => stable_left)
      (fun _ => stable_left) (fun batch hr s hs => hs.1 batch hr)
      fun e he s hs => hs.2 fun _ h => ?_)
      (fun batch => triple_processLeases batch.leases _) fun _ => stable_left
    cases he.symm.trans h

theorem triple_again {retry : Worker WorkerError BatchReport}
    (h : Triple (dutyProtocol sha256 config) w (Left w []) retry (fun _ => Left w [])
      fun _ => Left w []) (outcome : Outcome) :
    Triple (dutyProtocol sha256 config) w (Left w []) (again retry outcome) (fun _ => Left w [])
      fun _ => Left w [] := by
  match outcome with
  | .ok report => exact .pure stable_left fun _ => id
  | .error (.domain error) =>
    rw [again]
    split
    · exact h
    · exact .throw stable_left fun _ => id
  | .error (.configuration _) => exact .throw stable_left fun _ => id
  | .error (.crypto _) => exact .throw stable_left fun _ => id
  | .error .io => exact .throw stable_left fun _ => id

theorem triple_processOnceWith (attempts : Nat) :
    Triple (dutyProtocol sha256 config) w (Left w []) (processOnceWith (config w) attempts)
      (fun _ => Left w []) fun _ => Left w [] := by
  induction attempts with
  | zero => exact triple_processOnceAttempt
  | succ attempts ih =>
    refine Triple.attempt triple_processOnceAttempt fun outcome => ?_
    refine (triple_again ih outcome).weaken (fun s _ hs => ?_) (fun _ _ _ h => h) fun _ _ _ h => h
    cases outcome with
    | ok report | error e => exact hs

theorem triple_startUp : Triple (dutyProtocol sha256 config) w (Left w [])
    (startUp (config w)) (fun _ => Left w []) fun _ => Left w [] := by
  refine .bind (triple_spools ?_ stable_left fun _ _ => id)
    (fun _ => triple_processOnceWith _) fun _ => stable_left
  exact Procedure.only_ask trivial fun _ => trivial

variable {a b : Outboxes W} {event : Event W} {events : List (Event W)}

def Event.Spares : Event W → Prop
  | .die _ | .powerLoss => False
  | _ => True

structure DutyHeld (sha256 : List UInt8 → Digest32) (config : W → WorkerConfig) (a : Outboxes W) :
    Prop where
  held : World.Held (dutyProtocol sha256 config) (fun w _ => Left w []) a.world
  idle : ∀ w, a.world.programs w = none → Left w [] a.world.shared

theorem DutyHeld.set (h : DutyHeld sha256 config a) (hleft : Left w [] a.world.shared)
    {x : Worker WorkerError BatchReport} (hx : Triple (dutyProtocol sha256 config) w (Left w []) x
      (fun _ => Left w []) fun _ => Left w []) (failures : W → Nat) :
    DutyHeld sha256 config ⟨a.world.set w (some x.run), failures⟩ := by
  refine ⟨h.held.set fun q hq => ?_, fun w' hw' => ?_⟩
  · cases hq
    refine (hx a.world.shared h.held.inv hleft).mono fun r t _ hr => ?_
    cases r with
    | ok report | error e => exact hr
  · rw [World.set_programs] at hw'
    split at hw'
    · cases hw'
    · exact h.idle w' hw'

theorem DutyHeld.ended (h : DutyHeld sha256 config a) {outcome : Outcome}
    (hdone : a.world.programs w = some (.done outcome)) : Left w [] a.world.shared :=
  World.Held.ended h.held hdone

theorem dutyHeld_step (h : DutyHeld sha256 config a) (hevent : event.Spares)
    (hstep : OutboxStep (DutyAnswers sha256 config) config a event b) :
    DutyHeld sha256 config b := by
  cases hstep with
  | start hidle => exact h.set (h.idle _ hidle) triple_startUp _
  | act hacts =>
    refine ⟨h.held.acts hacts, fun w' hw' => ?_⟩
    cases hacts with
    | call hprogram hanswer =>
      have hkeeps := (h.held.safe _ _ hprogram _ h.held.inv
        ((dutyProtocol sha256 config).refl _ _) _ _ hanswer).1
      rw [World.set_programs] at hw'
      split at hw'
      · cases hw'
      · next hw => exact stable_left _ _ (hkeeps.others w' hw) (h.idle w' hw')
  | serve hended _ => exact h.set (h.ended hended) (triple_processOnceWith _) _
  | leave hended =>
    refine ⟨h.held.set nofun, fun w' hw' => ?_⟩
    rw [World.set_programs] at hw'
    split at hw'
    · next hw =>
      subst hw
      exact h.ended hended
    · exact h.idle w' hw'
  | die | powerLoss => exact hevent.elim
  | insert hfresh =>
    exact ⟨h.held.change (h.held.inv.insert hfresh) fun _ _ => ⟨fun _ => id, rfl⟩, h.idle⟩

theorem dutyHeld_run (h : Run (outboxes (DutyAnswers sha256 config) config) a events b)
    (hevents : ∀ event ∈ events, event.Spares) (ha : DutyHeld sha256 config a) :
    DutyHeld sha256 config b := by
  induction h with
  | nil => exact ha
  | snoc _ hstep ih =>
    obtain ⟨hbefore, hlast⟩ := List.forall_mem_append.mp hevents
    exact dutyHeld_step (ih hbefore) (hlast _ List.mem_cons_self) hstep

omit [DecidableEq W] in
theorem dutyInv_empty (anchored : Bool) :
    DutyInv (W := W) (Outboxes.initial anchored).world.shared where
  unique := List.nodup_nil
  leased _ h := nomatch h
  obtained _ _ h := nomatch h
  dead _ h := nomatch h

structure NoneUntried (a : Outboxes W) : Prop where
  dead : ∀ row ∈ a.world.shared.outbox, ∀ reason, row.state = .deadLetter reason →
    ∃ w lease, (w, lease) ∈ a.world.shared.tried ∧ lease.id = row.intentId
  leases : ∀ w lease, (w, lease) ∈ a.world.shared.obtained →
    (w, lease) ∈ a.world.shared.tried ∨
      lease ∈ a.world.shared.waiting w ∧ ∃ c next, a.world.programs w = some (.call c next)

theorem DutyHeld.noneUntried (h : DutyHeld sha256 config a) : NoneUntried a := by
  refine ⟨h.held.inv.dead, fun w lease hobtained => ?_⟩
  rcases h.held.inv.obtained w lease hobtained with htried | hwaiting
  · exact .inl htried
  · refine .inr ⟨hwaiting, ?_⟩
    cases hprogram : a.world.programs w with
    | none => exact absurd hwaiting (h.idle w hprogram ▸ List.not_mem_nil)
    | some p =>
      cases p with
      | done outcome => exact absurd hwaiting (h.ended hprogram ▸ List.not_mem_nil)
      | call c next => exact ⟨c, next, rfl⟩

theorem no_record_untried {anchored : Bool}
    (h : Run (outboxes (DutyAnswers sha256 config) config) (.initial anchored) events a)
    (hevents : ∀ event ∈ events, event.Spares) : NoneUntried a :=
  (dutyHeld_run h hevents ⟨⟨dutyInv_empty anchored, nofun⟩, fun _ _ => rfl⟩).noneUntried

section Samples

variable {answers : W → (c : Call) → Shared W → c.Reply → Shared W → Prop} {t : Shared W}
  {lease : OutboxLease}

omit [DecidableEq W] in
theorem executes_deliver_failing (htried : answers w (.deliver lease) s () t)
    (hmissing : answers w (.pathExists (finalName lease.id)) t false t)
    (hfailed : answers w (.createNew (temporaryName lease)) t (.error .other) t) :
    Executes answers w (deliver lease).run s (.done (.error ⟨"spool_create_failed"⟩)) t := by
  refine Executes.ask htried (Executes.ask hmissing ?_)
  have hthrown : Executes answers w
      (prepareTemporaryFile (temporaryName lease) (spoolRecord lease.subject)).run t
      (.done (.error ⟨"spool_create_failed"⟩)) t := Executes.ask hfailed .here
  exact hthrown.within _

def retryDelay (c : WorkerConfig) (lease : OutboxLease) (digest : Digest32) : Nat :=
  let base := backoffBase lease.attempt c.maxBackoffMs
  max (base / 2) 1 + bigEndian (digest.bytes.toList.take 8) % (base - max (base / 2) 1 + 1)

omit [DecidableEq W] in
theorem executes_settleFailure {c : WorkerConfig} {now next : Nat} {digest : Digest32}
    {r : Except DomainError OutboxRetryOutcome} (failure : DeliveryFailure) (report : BatchReport)
    (hnow : answers w .nowMillis s (.ok now) s)
    (hdigest : ∀ input, answers w (.sha256Worker input) s (some digest) s)
    (hnext : checkedAdd now (retryDelay c lease digest) = some next)
    (hretried : answers w (.retryOrDeadLetterOutbox lease now next c.maxAttempts digest) s r t) :
    Executes answers w (settleFailure c lease failure report).run s
      (.done ((r.mapError .domain).map report.settled)) t := by
  refine Executes.bind (Executes.ask hnow .here) ?_
  have hdelay : Executes answers w (retryDelayMs lease c.maxBackoffMs).run s
      (.done (.ok (retryDelay c lease digest))) s :=
    Executes.bind (Executes.ask (hdigest _) .here) .here
  refine Executes.bind hdelay (Executes.reply (fetch_ok.mpr hnext) ?_)
  refine Executes.bind (Executes.ask (hdigest _) .here) (Executes.ask hretried ?_)
  cases r with
  | ok outcome => exact .here
  | error e => exact .here

omit [DecidableEq W] in
theorem spares_pass (n : Nat) :
    ∀ event ∈ Event.start w :: List.replicate n (.act w), event.Spares := by
  intro event hevent
  rcases List.mem_cons.mp hevent with rfl | hact
  · trivial
  · cases List.eq_of_mem_replicate hact
    trivial

def sampleLoop (_ : Unit) : WorkerConfig :=
  { sampleWorker () with
    batchSize := 2
    maxAttempts := 1
    batches := by decide
    attempts := by decide }

def sampleTried : Shared Unit := sampleClaimed.tries () (sampleLease 1)

def sampleDead : OutboxRow := { sampleLeased 1 with state := .deadLetter sampleReceipt }

theorem no_record_untried_sample : ∃ events a,
    Run (outboxes (DutyAnswers sampleDigestOf sampleLoop) sampleLoop) (.initial true) events a ∧
      a.world.shared.outbox = [sampleDead] ∧ NoneUntried a := by
  have hclaimed : DutyAnswers sampleDigestOf sampleLoop ()
      (.claimOutboxBatch (sampleLoop ()).node 0 1000 1 2) sampleOpened
      (.ok ⟨[sampleLease 1], 0⟩) sampleClaimed :=
    ⟨⟨⟨[sampleLeased 1], .answered rfl, rfl⟩, fun h => absurd rfl (h _)⟩, nofun, nofun⟩
  have hdelivered : Executes (DutyAnswers sampleDigestOf sampleLoop) ()
      (deliver (sampleLease 1)).run sampleClaimed (.done (.error ⟨"spool_create_failed"⟩))
      sampleTried :=
    executes_deliver_failing ⟨⟨rfl, trivial⟩, nofun, trivial⟩
      ⟨⟨⟨rfl, nofun⟩, trivial⟩, nofun, trivial⟩
      ⟨⟨⟨_, .failed, rfl⟩, trivial⟩, nofun, trivial⟩
  have hretried : DutyAnswers sampleDigestOf sampleLoop ()
      (.retryOrDeadLetterOutbox (sampleLease 1) 0
        (retryDelay (sampleLoop ()) (sampleLease 1) sampleReceipt) 1 sampleReceipt) sampleTried
      (.ok (.deadLetter 1 sampleReceipt)) { sampleTried with outbox := [sampleDead] } :=
    ⟨⟨⟨[sampleDead], .answered rfl, rfl⟩, trivial⟩, fun h => absurd rfl (h _), trivial⟩
  have hnow : ∀ s : Shared Unit, DutyAnswers sampleDigestOf sampleLoop () .nowMillis s (.ok 0) s :=
    fun s => ⟨⟨rfl, trivial⟩, fun h => absurd h (show ¬ 2 ^ 64 ≤ 0 + 30000 by decide), trivial⟩
  have hsettled := executes_settleFailure (c := sampleLoop ()) ⟨"spool_create_failed"⟩
    ⟨1, 0, 0, 0⟩ (hnow sampleTried)
    (fun _ => ⟨⟨⟨rfl, fun _ h => (Option.some.inj h).symm⟩, trivial⟩, nofun, trivial⟩)
    (checkedAdd_some.mpr ⟨by decide, Nat.zero_add _⟩) hretried
  have hpass := executes_processOnceAttempt (hnow sampleOpened)
    ⟨⟨rfl, trivial⟩, nofun, trivial⟩ hclaimed
    (Executes.bind (Executes.attempt hdelivered hsettled) .here)
  obtain ⟨n, hrun⟩ := run_start sampleLoop (a := sampleInserted) rfl
    (executes_startUp ⟨⟨⟨_, .done, rfl⟩, trivial⟩, nofun, trivial⟩ (executes_processOnce hpass))
  have hboth := (sample_insert sampleLoop).append hrun
  refine ⟨_, _, hboth, rfl, no_record_untried hboth ?_⟩
  exact List.forall_mem_append.mpr ⟨List.forall_mem_singleton.mpr trivial, spares_pass n⟩

def sampleSecond : OutboxRow := { sampleRow with intentId := ⟨Vector.replicate 16 6⟩ }

def sampleSecondLease : OutboxLease := { sampleLease 1 with id := sampleSecond.intentId }

def sampleBothInserted : Outboxes Unit :=
  { sampleInserted with
    world := ⟨sampleInserted.world.shared.insert sampleSecond, fun _ => none⟩ }

def sampleBothOpened : Shared Unit := { sampleOpened with outbox := [sampleSecond, sampleRow] }

def sampleBothClaimed : Shared Unit :=
  { sampleBothOpened with
    outbox := [{ sampleLeased 1 with intentId := sampleSecond.intentId }, sampleLeased 1]
    }.obtains () ⟨[sampleLease 1, sampleSecondLease], 0⟩

def sampleGivenUp (row : OutboxRow) : OutboxRow :=
  { row with
    state := .deadLetter expiredAttemptExhaustedReason
    updatedAtMs := 1000 }

def sampleBothReaped : Shared Unit :=
  { sampleBothClaimed.tries () (sampleLease 1) with
    outbox := sampleBothClaimed.outbox.map sampleGivenUp }.obtains () ⟨[], 2⟩

theorem record_given_up_untried : ∃ events a,
    Run (outboxes (ClaimedAnswers sampleDigestOf) sampleLoop) (.initial true) events a ∧
      (∀ event ∈ events, event.Spares) ∧ ¬ NoneUntried a := by
  have hclaimed : ClaimedAnswers sampleDigestOf ()
      (.claimOutboxBatch (sampleLoop ()).node 0 1000 1 2) sampleBothOpened
      (.ok ⟨[sampleLease 1, sampleSecondLease], 0⟩) sampleBothClaimed :=
    ⟨⟨sampleBothClaimed.outbox, .answered rfl, rfl⟩, fun h => absurd rfl (h _)⟩
  have hdelivered : Executes (ClaimedAnswers sampleDigestOf) () (deliver (sampleLease 1)).run
      sampleBothClaimed (.done (.error ⟨"spool_create_failed"⟩))
      (sampleBothClaimed.tries () (sampleLease 1)) :=
    executes_deliver_failing ⟨rfl, trivial⟩ ⟨⟨rfl, nofun⟩, trivial⟩ ⟨⟨_, .failed, rfl⟩, trivial⟩
  have hretried : ClaimedAnswers sampleDigestOf ()
      (.retryOrDeadLetterOutbox (sampleLease 1) 0
        (retryDelay (sampleLoop ()) (sampleLease 1) sampleReceipt) 1 sampleReceipt)
      (sampleBothClaimed.tries () (sampleLease 1)) (.error transportFailure)
      (sampleBothClaimed.tries () (sampleLease 1)) :=
    ⟨⟨_, .failed _, rfl⟩, trivial⟩
  have hsettled := executes_settleFailure (c := sampleLoop ()) ⟨"spool_create_failed"⟩
    ⟨2, 0, 0, 0⟩ ⟨rfl, trivial⟩
    (fun _ => ⟨⟨rfl, fun _ h => (Option.some.inj h).symm⟩, trivial⟩)
    (checkedAdd_some.mpr ⟨by decide, Nat.zero_add _⟩) hretried
  have hprocessed : Executes (ClaimedAnswers sampleDigestOf) ()
      (processLease (sampleLoop ()) (sampleLease 1) ⟨2, 0, 0, 0⟩).run sampleBothClaimed
      (.done (.error (.domain transportFailure))) (sampleBothClaimed.tries () (sampleLease 1)) :=
    Executes.attempt hdelivered hsettled
  have hfirst : Executes (ClaimedAnswers sampleDigestOf) () (processOnceAttempt (sampleLoop ())).run
      sampleBothOpened (.done (.error (.domain transportFailure)))
      (sampleBothClaimed.tries () (sampleLease 1)) :=
    executes_processOnceAttempt ⟨rfl, trivial⟩ ⟨rfl, trivial⟩ hclaimed
      (hprocessed.within _)
  have hreaped : ClaimedAnswers sampleDigestOf ()
      (.claimOutboxBatch (sampleLoop ()).node 1000 1000 1 2)
      (sampleBothClaimed.tries () (sampleLease 1)) (.ok ⟨[], 2⟩) sampleBothReaped :=
    ⟨⟨sampleBothReaped.outbox, .answered rfl, rfl⟩, fun h => absurd rfl (h _)⟩
  have hsecond : Executes (ClaimedAnswers sampleDigestOf) ()
      (processOnceAttempt (sampleLoop ())).run
      (sampleBothClaimed.tries () (sampleLease 1)) (.done (.ok ⟨0, 0, 0, 2⟩)) sampleBothReaped :=
    executes_processOnceAttempt ⟨rfl, trivial⟩ ⟨rfl, trivial⟩ hreaped .here
  have hpass : Executes (ClaimedAnswers sampleDigestOf) () (processOnce (sampleLoop ())).run
      sampleBothOpened (.done (.ok ⟨0, 0, 0, 2⟩)) sampleBothReaped :=
    Executes.attempt hfirst (Executes.attempt hsecond .here)
  have hinsert : Run (outboxes (ClaimedAnswers sampleDigestOf) sampleLoop) sampleInserted
      [.insert sampleSecond] sampleBothInserted :=
    .single (.insert ⟨by decide, rfl, rfl, rfl⟩)
  obtain ⟨n, hrun⟩ := run_start sampleLoop (a := sampleBothInserted) rfl
    (executes_startUp ⟨⟨_, .done, rfl⟩, trivial⟩ hpass)
  refine ⟨_, _, ((sample_insert sampleLoop).append hinsert).append hrun, ?_, fun huntried => ?_⟩
  · refine List.forall_mem_append.mpr ⟨?_, spares_pass n⟩
    exact List.forall_mem_append.mpr
      ⟨List.forall_mem_singleton.mpr trivial, List.forall_mem_singleton.mpr trivial⟩
  · obtain ⟨w, lease, htried, hid⟩ := huntried.dead _ List.mem_cons_self _ rfl
    cases (Prod.mk.inj (List.mem_singleton.mp htried)).2
    exact absurd hid (by decide)

end Samples

end

end PersistencePg
