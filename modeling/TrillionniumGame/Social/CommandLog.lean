import TrillionniumGame.Social.Invariants

namespace Social
open Checks FiniteMap Runs
open Identity (AccountId)

def ReceiptOutcome.kind : ReceiptOutcome → OperationKind
  | .friendRequestSent => .sendFriendRequest
  | .friendRequestAccepted => .acceptFriendRequest
  | .friendRemoved => .removeFriend
  | .userBlocked => .blockUser
  | .userUnblocked => .unblockUser
  | .groupCreated => .createGroup
  | .groupJoined | .groupJoinRequested => .joinGroup
  | .groupJoinApproved => .approveGroupJoin
  | .groupRoleChanged => .changeGroupRole
  | .groupLeft => .leaveGroup
  | .groupMemberBanned => .banGroupMember
  | .groupMemberUnbanned => .unbanGroupMember
  | .chatMessageSent => .sendGroupMessage
  | .notificationCreated => .createNotification
  | .notificationMarkedRead => .markNotificationRead
  | .notificationDeleted => .deleteNotification

theorem kind_of_mem {kind : OperationKind} {outcome : ReceiptOutcome}
    (h : outcome ∈ kind.outcomes) : outcome.kind = kind := by
  have hall : ∀ outcome ∈ kind.outcomes, outcome.kind = kind := by
    cases kind <;> decide
  exact hall outcome h

namespace SocialRegistry

variable {r r' m : SocialRegistry} {command : SocialCommandId} {fingerprint : CommandFingerprint}
  {operation : SocialOperation} {outcome : ReceiptOutcome} {intents : List OutboxIntentPayload}
  {receipt : CommandReceipt} {request : SocialRequest} {requests : List SocialRequest}

theorem Effect.allowed (h : Effect r operation m outcome intents) :
    outcome ∈ operation.kind.outcomes := by
  cases h with
  | requested | accepted | unfriended | blocked | unblocked | created | posted | notified
  | markedRead | deleted => exact List.mem_cons_self
  | moved operation groupId group group' outcome intents hgroup hmove =>
    cases hmove with
    | joined => exact List.mem_cons_self
    | asked => exact List.mem_cons_of_mem _ List.mem_cons_self
    | approved | roleChanged | left | banned | unbanned => exact List.mem_cons_self

def revisionOf (r : SocialRegistry) (command : SocialCommandId) : Nat :=
  (r.receipts.lookup command).elim 0 (·.revision)

structure Logged (r : SocialRegistry) : Prop where
  counted : r.revision = r.receipts.keys.card
  revisions : Set.BijOn r.revisionOf {command | command ∈ r.receipts} (Set.Icc 1 r.revision)

theorem logged_new (config : SocialConfig) : Logged (.new config) := by
  refine ⟨rfl, ?_⟩
  have hempty : {command : SocialCommandId | command ∈ (∅ : Dict SocialCommandId CommandReceipt)} = ∅ :=
    Set.eq_empty_of_forall_notMem fun command => Finmap.notMem_empty
  have hnone : Set.Icc 1 0 = (∅ : Set Nat) := Set.Icc_eq_empty (by decide)
  change Set.BijOn _ {command : SocialCommandId | command ∈ (∅ : Dict SocialCommandId CommandReceipt)}
    (Set.Icc 1 0)
  rw [hempty, hnone]
  exact Set.bijOn_empty _

theorem Logged.stepped (h : Logged r) (hstep : Stepped r request r') : Logged r' := by
  cases hstep with
  | stayed => exact h
  | registered => exact ⟨h.counted, h.revisions⟩
  | applied command fingerprint operation m outcome intents outbox hfresh heffect houtbox hlawful =>
    have hreceipts := heffect.candidate.receipts
    have hnew : command ∉ r.receipts := Finmap.lookup_eq_none.mp hfresh
    generalize hcompletion : r.completionOf command fingerprint operation outcome intents = completion
    have hcommand : completion.command = command := by rw [← hcompletion]; rfl
    have hrevision : completion.revision = r.revision + 1 := by rw [← hcompletion]; rfl
    have hsettled : (m.settled completion outbox).receipts =
        r.receipts.insert command completion.receipt := by
      rw [settled, hreceipts, hcommand]
    constructor
    · rw [hsettled, keys_insert, Finset.card_insert_of_notMem (Finmap.mem_keys.not.mpr hnew),
        ← h.counted]
      exact hrevision
    · have hself : (m.settled completion outbox).revisionOf command = r.revision + 1 := by
        rw [revisionOf, hsettled, Finmap.lookup_insert]
        exact hrevision
      have hkept : Set.EqOn r.revisionOf (m.settled completion outbox).revisionOf
          {command | command ∈ r.receipts} := by
        intro other hother
        have hne : other ≠ command := fun heq => hnew (heq ▸ hother)
        rw [revisionOf, revisionOf, hsettled, Finmap.lookup_insert_of_ne _ hne]
      have hkeys : {other | other ∈ (m.settled completion outbox).receipts} =
          insert command {other | other ∈ r.receipts} := by
        ext other
        rw [hsettled]
        exact Finmap.mem_insert
      have hrange : Set.Icc 1 (m.settled completion outbox).revision =
          insert ((m.settled completion outbox).revisionOf command) (Set.Icc 1 r.revision) := by
        rw [hself]
        ext revision
        change 1 ≤ revision ∧ revision ≤ completion.revision ↔ _
        rw [hrevision, Set.mem_insert_iff, Set.mem_Icc]
        omega
      rw [hkeys, hrange]
      refine (h.revisions.congr hkept).insert ?_
      rw [hself, Set.mem_Icc]
      omega

structure Appended (r r' : SocialRegistry) : Prop where
  receipts : ∀ command receipt, r.receipts.lookup command = some receipt →
    r'.receipts.lookup command = some receipt
  outbox : ∀ id intent, r.outbox.lookup id = some intent → r'.outbox.lookup id = some intent

theorem Appended.refl (r : SocialRegistry) : Appended r r := ⟨fun _ _ => id, fun _ _ => id⟩

theorem Appended.trans {s : SocialRegistry} (h : Appended r s) (h' : Appended s r') :
    Appended r r' :=
  ⟨fun command receipt hfound => h'.receipts command receipt (h.receipts command receipt hfound),
    fun id intent hfound => h'.outbox id intent (h.outbox id intent hfound)⟩

theorem Stepped.appended (h : Stepped r request r') (hlawful : Lawful r) : Appended r r' := by
  cases h with
  | stayed => exact .refl r
  | registered => exact ⟨fun _ _ => id, fun _ _ => id⟩
  | applied command fingerprint operation m outcome intents outbox hfresh heffect houtbox =>
    obtain ⟨-, hreceipts, houtboxes⟩ := heffect.candidate
    have hother : ∀ {other receipt}, r.receipts.lookup other = some receipt → other ≠ command := by
      rintro other receipt hfound rfl
      rw [hfresh] at hfound
      cases hfound
    refine ⟨fun other receipt hfound => ?_, fun id intent hintent => ?_⟩
    · dsimp only [settled, completionOf]
      rw [hreceipts, Finmap.lookup_insert_of_ne _ (hother hfound), hfound]
    · obtain ⟨receipt, hreceipt, -⟩ := (hlawful.owned id).mp (mem_of_lookup hintent)
      refine ((hlawful.affected heffect).intents_settled (heffect.ready hlawful fingerprint hfresh)
        houtbox id intent).mpr (.inl ⟨hother hreceipt, ?_⟩)
      rw [houtboxes, hintent]

theorem Lawful.appended (h : Lawful r) (hrun : Run socialRegistry r requests r') : Appended r r' := by
  induction hrun with
  | nil => exact .refl r
  | snoc hrun hstep ih =>
    have hlawful := h.run hrun
    exact ih.trans ((hlawful.step hstep).appended hlawful)

theorem logged_of_reachable (h : Reachable socialRegistry r) : Logged r := by
  have hboth : Lawful r ∧ Logged r := by
    refine h.invariant (I := fun r => Lawful r ∧ Logged r) (fun r hinit => ?_)
      fun r request r' hboth hstep => ?_
    · obtain ⟨config, rfl⟩ := hinit
      exact ⟨lawful_new config, logged_new config⟩
    · obtain ⟨hlawful, hlogged⟩ := hboth
      have hstepped := hlawful.step hstep
      exact ⟨hlawful.stepped hstepped, hlogged.stepped hstepped⟩
  exact hboth.2

theorem submit_eq (r : SocialRegistry) (command : SocialCommandId) (fingerprint : CommandFingerprint)
    (operation : SocialOperation) : ∃ apply, r.submit command fingerprint operation =
      r.unlessApplied command fingerprint operation.actor operation.kind.outcomes apply := by
  cases operation <;> exact ⟨_, rfl⟩

theorem submit_replayed (hfound : r.receipts.lookup command = some receipt)
    (hfingerprint : receipt.fingerprint = fingerprint) (hactor : receipt.actor = operation.actor)
    (houtcome : receipt.outcome ∈ operation.kind.outcomes) :
    r.submit command fingerprint operation = .ok (receipt, r) := by
  obtain ⟨apply, happly⟩ := submit_eq r command fingerprint operation
  rw [happly, unlessApplied, existingReceipt, hfound]
  exact bind_ok.mpr ⟨some receipt, bind_ok.mpr ⟨(), require_ok.mpr hfingerprint, bind_ok.mpr
    ⟨(), require_ok.mpr hactor, bind_ok.mpr ⟨(), require_ok.mpr houtcome, rfl⟩⟩⟩, rfl⟩

theorem submit_rejected (hfound : r.receipts.lookup command = some receipt)
    (hother : ¬ (receipt.fingerprint = fingerprint ∧ receipt.actor = operation.actor ∧
      receipt.outcome ∈ operation.kind.outcomes)) :
    ∃ error, r.submit command fingerprint operation = .error error ∧ error.code = .conflict := by
  obtain ⟨apply, happly⟩ := submit_eq r command fingerprint operation
  have hensures : Ensures (fun result => result ≠ none ∧ False) (·.code = .conflict)
      (r.existingReceipt command fingerprint operation.actor operation.kind.outcomes) := by
    rw [existingReceipt, hfound]
    simp only [ensures_bind, ensures_require, ensures_pure]
    exact ⟨fun hfingerprint => ⟨fun hactor => ⟨fun houtcome =>
      absurd ⟨hfingerprint, hactor, houtcome⟩ hother, fun _ => trivial⟩, fun _ => trivial⟩,
      fun _ => trivial⟩
  cases hexisting : r.existingReceipt command fingerprint operation.actor operation.kind.outcomes with
  | ok result => exact (hensures.of_ok hexisting).2.elim
  | error error =>
    refine ⟨error, ?_, hensures.of_error hexisting⟩
    rw [happly, unlessApplied, hexisting]
    rfl

theorem Lawful.submitted (h : Lawful r)
    (hok : r.submit command fingerprint operation = .ok (receipt, r')) :
    r'.receipts.lookup command = some receipt ∧ receipt.fingerprint = fingerprint ∧
      receipt.actor = operation.actor ∧ receipt.outcome ∈ operation.kind.outcomes := by
  cases (submit_sure h operation).of_ok hok with
  | replayed receipt hfound hsame => exact ⟨hfound, hsame⟩
  | applied m outcome intents outbox hfresh heffect =>
    exact ⟨Finmap.lookup_insert _, rfl, rfl, heffect.allowed⟩

theorem after_submit (hok : r.submit command fingerprint operation = .ok (receipt, r')) :
    r.after (.submit command fingerprint operation) = r' := by
  rw [after, serve, hok]
  rfl

theorem after_rejected {error : SocialError}
    (herror : r.submit command fingerprint operation = .error error) :
    r.after (.submit command fingerprint operation) = r := by
  rw [after, serve, herror]
  rfl

end SocialRegistry

open SocialRegistry

structure CommandLog (r : SocialRegistry) : Prop where
  counted : r.revision = r.receipts.keys.card
  revisions : Set.BijOn r.revisionOf {command | command ∈ r.receipts} (Set.Icc 1 r.revision)
  appendOnly : ∀ requests r', Run socialRegistry r requests r' → Appended r r'
  owned : ∀ command receipt, r.receipts.lookup command = some receipt →
    ∀ ordinal, (⟨command, ordinal⟩ : OutboxIntentId) ∈ r.outbox ↔
      1 ≤ ordinal ∧ ordinal ≤ receipt.outboxCount
  owners : ∀ id ∈ r.outbox, id.command ∈ r.receipts
  once : ∀ command ∈ r.receipts, ∀ requests r', Run socialRegistry r requests r' →
    ∀ fingerprint operation, r'.after (.submit command fingerprint operation) = r'
  replayed : ∀ command fingerprint operation receipt r₁,
    r.submit command fingerprint operation = .ok (receipt, r₁) →
    ∀ requests r', Run socialRegistry r₁ requests r' → ∀ fingerprint' operation',
      if fingerprint' = fingerprint ∧ operation'.actor = operation.actor ∧
          operation'.kind = operation.kind then
        r'.submit command fingerprint' operation' = .ok (receipt, r')
      else ∃ error, r'.submit command fingerprint' operation' = .error error ∧ error.code = .conflict

theorem command_log {r : SocialRegistry} (hreach : Reachable socialRegistry r) : CommandLog r := by
  have h := lawful_of_reachable hreach
  obtain ⟨hcounted, hrevisions⟩ := logged_of_reachable hreach
  refine ⟨hcounted, hrevisions, fun requests r' hrun => h.appended hrun, ?_, ?_, ?_, ?_⟩
  · intro command receipt hreceipt ordinal
    refine (h.owned ⟨command, ordinal⟩).trans ⟨?_, fun hrange => ⟨receipt, hreceipt, hrange⟩⟩
    rintro ⟨found, hfound, hrange⟩
    cases Option.mem_unique hreceipt hfound
    exact hrange
  · intro id hid
    obtain ⟨receipt, hreceipt, -⟩ := (h.owned id).mp hid
    exact mem_of_lookup hreceipt
  · intro command hcommand requests r' hrun fingerprint operation
    obtain ⟨receipt, hreceipt⟩ := Finmap.mem_iff.mp hcommand
    have hfound := (h.appended hrun).receipts command receipt hreceipt
    by_cases hsame : receipt.fingerprint = fingerprint ∧ receipt.actor = operation.actor ∧
        receipt.outcome ∈ operation.kind.outcomes
    · exact after_submit (submit_replayed hfound hsame.1 hsame.2.1 hsame.2.2)
    · obtain ⟨error, herror, -⟩ := submit_rejected hfound hsame
      exact after_rejected herror
  · intro command fingerprint operation receipt r₁ hok requests r' hrun fingerprint' operation'
    obtain ⟨hstored, hfingerprint, hactor, houtcome⟩ := h.submitted hok
    have hstep : socialRegistry.step r (.submit command fingerprint operation) r₁ := after_submit hok
    have hfound := ((h.stepped (h.step hstep)).appended hrun).receipts command receipt hstored
    split
    · next hsame =>
      obtain ⟨rfl, hactor', hkind⟩ := hsame
      exact submit_replayed hfound hfingerprint (hactor.trans hactor'.symm) (hkind ▸ houtcome)
    · next hother =>
      refine submit_rejected hfound fun hsame => hother ⟨?_, ?_, ?_⟩
      · exact hsame.1.symm.trans hfingerprint
      · exact hsame.2.1.symm.trans hactor
      · exact (kind_of_mem hsame.2.2).symm.trans (kind_of_mem houtcome)

theorem command_log_sample : (served sampleRequests).receipts.keys.card = 3 ∧
    (⟨sampleId 2 (by decide), 1⟩ : OutboxIntentId) ∈ (served sampleRequests).outbox ∧
    CommandLog (served sampleRequests) :=
  ⟨by decide +kernel, by decide +kernel, command_log (reachable_served sampleRequests)⟩

end Social
