import TrillionniumGame.Social.Effects

namespace Social
open Checks FiniteMap Words Runs
open Identity (AccountId)

namespace SocialRegistry

variable {r m : SocialRegistry} {command : SocialCommandId} {fingerprint : CommandFingerprint}
  {operation : SocialOperation} {outcome : ReceiptOutcome} {intents : List OutboxIntentPayload}
  {account actor target : AccountId} {groupId : GroupId} {group : GroupRecord} {answer : Answer}

inductive Answered (r : SocialRegistry) (command : SocialCommandId)
    (fingerprint : CommandFingerprint) (operation : SocialOperation) :
    CommandReceipt × SocialRegistry → Prop
  | replayed (receipt : CommandReceipt) (hfound : r.receipts.lookup command = some receipt)
      (hsame : receipt.fingerprint = fingerprint ∧ receipt.actor = operation.actor ∧
        receipt.outcome ∈ operation.kind.outcomes) :
      Answered r command fingerprint operation (receipt, r)
  | applied (m : SocialRegistry) (outcome : ReceiptOutcome) (intents : List OutboxIntentPayload)
      (outbox : Dict OutboxIntentId OutboxIntent) (hfresh : r.receipts.lookup command = none)
      (heffect : Effect r operation m outcome intents)
      (houtbox : insertIntents command m.outbox 0 intents = .ok outbox)
      (hlawful : Lawful
        (m.settled (r.completionOf command fingerprint operation outcome intents) outbox)) :
      Answered r command fingerprint operation
        ((r.completionOf command fingerprint operation outcome intents).receipt,
          m.settled (r.completionOf command fingerprint operation outcome intents) outbox)

def Sure (r : SocialRegistry) (command : SocialCommandId) (fingerprint : CommandFingerprint)
    (operation : SocialOperation) (answer : Answer) : Prop :=
  Ensures (Answered r command fingerprint operation) Sound answer

theorem sure_finish (h : Lawful r) (hfresh : r.receipts.lookup command = none)
    (heffect : Effect r operation m outcome intents) :
    Sure r command fingerprint operation
      (r.finishCommand m (r.completionOf command fingerprint operation outcome intents)) :=
  finish_ensures heffect.candidate (h.affected heffect) (heffect.ready h fingerprint hfresh)
    fun outbox houtbox hlawful => .applied m outcome intents outbox hfresh heffect houtbox hlawful

theorem sure_unlessApplied {allowed : List ReceiptOutcome} (hactor : operation.actor = actor)
    (hallowed : operation.kind.outcomes = allowed)
    (h : r.receipts.lookup command = none → Sure r command fingerprint operation answer) :
    Sure r command fingerprint operation
      (r.unlessApplied command fingerprint actor allowed answer) := by
  subst hactor hallowed
  rw [Sure, unlessApplied, ensures_bind, existingReceipt]
  split
  · next hnone => exact h hnone
  · next receipt hfound =>
    simp only [ensures_bind, ensures_require]
    exact ⟨fun hfingerprint => ⟨fun hactor => ⟨fun houtcome =>
      .replayed receipt hfound ⟨hfingerprint, hactor, houtcome⟩, fun _ => ⟨by decide, by decide⟩⟩,
      fun _ => ⟨by decide, by decide⟩⟩, fun _ => ⟨by decide, by decide⟩⟩

variable {error : SocialError}

theorem sure_require {c : Prop} [Decidable c]
    (h : c → Sure r command fingerprint operation answer) (herror : Sound error) :
    Sure r command fingerprint operation (require c error >>= fun _ => answer) := by
  rw [Sure, ensures_bind, ensures_require]
  exact ⟨h, fun _ => herror⟩

theorem sure_fetch {α : Type} {x : Option α} {f : α → Answer}
    (h : ∀ a, x = some a → Sure r command fingerprint operation (f a))
    (herror : x = none → Sound error) :
    Sure r command fingerprint operation (fetch x error >>= f) := by
  rw [Sure, ensures_bind, ensures_fetch]
  exact ⟨h, herror⟩

theorem sure_known (h : account ∈ r.users → Sure r command fingerprint operation answer) :
    Sure r command fingerprint operation (r.ensureKnownUser account >>= fun _ => answer) :=
  sure_require h ⟨nofun, by decide⟩

theorem pair_ensures : Ensures (fun pair => pair.Joins actor target) Sound
    (UserPair.new actor target) := by
  cases hnew : UserPair.new actor target with
  | ok pair => exact UserPair.new_ok hnew
  | error error =>
    rw [UserPair.new] at hnew
    split at hnew
    · cases hnew
    · split at hnew
      · cases hnew
      · cases Except.error.inj hnew
        exact ⟨by decide, by decide⟩

theorem sure_pair {f : UserPair → Answer}
    (h : ∀ pair, pair.Joins actor target → Sure r command fingerprint operation (f pair)) :
    Sure r command fingerprint operation (UserPair.new actor target >>= f) := by
  rw [Sure, ensures_bind]
  exact pair_ensures.mono (fun pair _ hjoins => h pair hjoins) fun _ => id

theorem sure_capacity (h : Roomy r actor target → Sure r command fingerprint operation answer) :
    Sure r command fingerprint operation
      (r.ensureRelationshipCapacity actor target >>= fun _ => answer) :=
  sure_require h ⟨nofun, by decide⟩

variable {value : Nat} {reason : String} {f : Nat → Answer}

theorem sure_next (hreason : reason ≠ "message_sequence_overflow")
    (h : Sure r command fingerprint operation (f (value + 1))) :
    Sure r command fingerprint operation (nextRevision value reason >>= f) := by
  refine sure_fetch (fun next hnext => ?_) fun _ => ⟨?_, hreason⟩
  · rw [(fits_some.mp hnext).2]
    exact h
  · intro heq
    cases (SocialError.mk.inj heq).1

theorem sure_small (hsmall : value + 1 < 2 ^ 64)
    (h : Sure r command fingerprint operation (f (value + 1))) :
    Sure r command fingerprint operation (nextRevision value reason >>= f) := by
  rw [nextRevision_ok hsmall]
  exact h

theorem sure_revision (h : Sure r command fingerprint operation (f (r.revision + 1))) :
    Sure r command fingerprint operation (r.nextCommandRevision >>= f) :=
  sure_next (by decide) h

theorem sure_group {f : GroupRecord → Answer}
    (h : ∀ group, r.groups.lookup groupId = some group →
      Sure r command fingerprint operation (f group)) :
    Sure r command fingerprint operation (r.requireGroup groupId >>= f) :=
  sure_fetch h fun _ => ⟨nofun, by decide⟩

theorem sure_role {minimum : GroupRole} {f : GroupRole → Answer}
    (h : ∀ role, group.members.lookup actor = some role → minimum.rank ≤ role.rank →
      Sure r command fingerprint operation (f role)) :
    Sure r command fingerprint operation (requireGroupRole group actor minimum >>= f) := by
  rw [Sure, ensures_bind, requireGroupRole]
  simp only [ensures_bind, ensures_fetch, ensures_require, ensures_pure]
  exact ⟨fun role hrole => ⟨h role hrole, fun _ => ⟨by decide, by decide⟩⟩, fun _ => ⟨by decide, by decide⟩⟩

theorem sure_update {change : GroupRecord → GroupRecord} {f : SocialRegistry → Answer}
    (hgroup : r.groups.lookup groupId = some group)
    (h : Sure r command fingerprint operation
      (f { r with groups := r.groups.insert groupId (change group) })) :
    Sure r command fingerprint operation (r.updateGroup groupId change >>= f) := by
  rw [updateGroup, hgroup]
  exact h

theorem relationship_ensures : Ensures (fun _ => True) Sound (r.relationship actor target) := by
  simp only [relationship, ensureKnownUser, ensures_bind, ensures_require, ensures_pure]
  refine ⟨fun _ => ⟨fun _ => ?_, fun _ => ⟨by decide, by decide⟩⟩, fun _ => ⟨by decide, by decide⟩⟩
  exact pair_ensures.mono (fun _ _ _ => trivial) fun _ => id

theorem sure_requestable
    (h : r.hasRelationshipPair actor target = false → Sure r command fingerprint operation answer) :
    Sure r command fingerprint operation
      (r.relationship actor target >>= fun view => requestable view >>= fun _ => answer) := by
  rw [Sure, ensures_bind]
  refine relationship_ensures.mono (fun view hview _ => ?_) fun _ => id
  cases view with
  | none => exact h (relationship_none hview)
  | outgoingRequest | incomingRequest | friends | blockedBySelf | blockedByOther
  | mutuallyBlocked => exact ⟨nofun, by decide⟩

section

variable (h : Lawful r)
include h

theorem sendFriendRequest_sure : Sure r command fingerprint
    (.sendFriendRequest actor target) (r.sendFriendRequest command fingerprint actor target) := by
  refine sure_unlessApplied rfl rfl fun hfresh => sure_known fun hactor => sure_known fun htarget => ?_
  refine sure_pair fun pair hjoins => sure_requestable fun hnone => sure_capacity fun hroom => ?_
  exact sure_revision (sure_finish h hfresh
    (.requested actor target hjoins.ne hactor htarget hnone hroom))

theorem acceptFriendRequest_sure : Sure r command fingerprint
    (.acceptFriendRequest actor target) (r.acceptFriendRequest command fingerprint actor target) := by
  refine sure_unlessApplied rfl rfl fun hfresh => sure_known fun hactor => sure_known fun htarget => ?_
  refine sure_pair fun pair hjoins => sure_require (fun _ => ?_) ⟨nofun, by decide⟩
  refine sure_require (fun hrequest => sure_revision ?_) ⟨nofun, by decide⟩
  exact sure_finish h hfresh (.accepted actor target pair hjoins hactor hrequest)

theorem removeFriend_sure : Sure r command fingerprint
    (.removeFriend actor target) (r.removeFriend command fingerprint actor target) := by
  refine sure_unlessApplied rfl rfl fun hfresh => sure_known fun hactor => sure_known fun htarget => ?_
  refine sure_pair fun pair hjoins => sure_require (fun _ => sure_revision ?_) ⟨nofun, by decide⟩
  exact sure_finish h hfresh (.unfriended actor target pair hactor)

theorem blockUser_sure : Sure r command fingerprint
    (.blockUser actor target) (r.blockUser command fingerprint actor target) := by
  refine sure_unlessApplied rfl rfl fun hfresh => sure_known fun hactor => sure_known fun htarget => ?_
  refine sure_pair fun pair hjoins => sure_require (fun _ => sure_capacity fun hroom => ?_)
    ⟨nofun, by decide⟩
  exact sure_revision (sure_finish h hfresh (.blocked actor target pair hjoins hactor htarget hroom))

theorem unblockUser_sure : Sure r command fingerprint
    (.unblockUser actor target) (r.unblockUser command fingerprint actor target) := by
  refine sure_unlessApplied rfl rfl fun hfresh => sure_known fun hactor => sure_known fun htarget => ?_
  refine sure_pair fun pair hjoins => sure_require (fun _ => sure_revision ?_) ⟨nofun, by decide⟩
  exact sure_finish h hfresh (.unblocked actor target hactor)

theorem createGroup_sure (request : CreateGroupRequest) : Sure r command fingerprint
    (.createGroup request) (r.createGroup command fingerprint request) := by
  refine sure_unlessApplied rfl rfl fun hfresh => sure_known fun hcreator => ?_
  refine sure_require (fun hroom => sure_require (fun hnew => ?_) ⟨nofun, by decide⟩)
    ⟨nofun, by decide⟩
  refine sure_require (fun hlimit => sure_revision ?_) ⟨nofun, by decide⟩
  exact sure_finish h hfresh (.created request hcreator hroom hnew hlimit)

theorem joinGroup_sure : Sure r command fingerprint (.joinGroup groupId actor)
    (r.joinGroup command fingerprint groupId actor) := by
  refine sure_unlessApplied rfl rfl fun hfresh => sure_known fun hactor => sure_group fun group hgroup => ?_
  refine sure_require (fun hnew => sure_require (fun hasked => ?_) ⟨nofun, by decide⟩)
    ⟨nofun, by decide⟩
  refine sure_require (fun hfree => sure_require (fun hclosed => ?_) ⟨nofun, by decide⟩)
    ⟨nofun, by decide⟩
  refine sure_require (fun hroom => sure_next (by decide) (sure_revision ?_)) ⟨nofun, by decide⟩
  rw [hgroup]
  change Sure _ _ _ _ (applyJoinMode groupId actor group >>= _)
  rw [applyJoinMode]
  split
  · next hmode =>
    have hless := Nat.lt_of_not_le fun hle => hroom ⟨hmode, hle⟩
    exact sure_finish h hfresh
      (.moved _ groupId group _ _ _ hgroup (.joined actor _ hactor hnew hasked hfree hless))
  · exact sure_finish h hfresh
      (.moved _ groupId group _ _ _ hgroup (.asked actor _ hactor hnew hfree))
  · next hmode => exact absurd hmode hclosed

theorem approveGroupJoin_sure : Sure r command fingerprint
    (.approveGroupJoin groupId actor target)
    (r.approveGroupJoin command fingerprint groupId actor target) := by
  refine sure_unlessApplied rfl rfl fun hfresh => sure_known fun hactor => sure_known fun htarget => ?_
  refine sure_group fun group hgroup => sure_role fun role hrole hrank => ?_
  refine sure_require (fun hasked => sure_require (fun hroom => ?_) ⟨nofun, by decide⟩)
    ⟨nofun, by decide⟩
  refine sure_next (by decide) (sure_revision (sure_update hgroup ?_))
  exact sure_finish h hfresh (.moved _ groupId group _ _ _ hgroup
    (.approved actor target _ ⟨hactor, htarget⟩ ⟨role, hrole, hrank⟩ hasked hroom))

theorem changeGroupRole_sure (role : GroupRole) : Sure r command fingerprint
    (.changeGroupRole groupId actor target role)
    (r.changeGroupRole command fingerprint groupId actor target role) := by
  refine sure_unlessApplied rfl rfl fun hfresh => sure_known fun hactor => sure_known fun htarget => ?_
  refine sure_group fun group hgroup => sure_role fun actorRole hrole hrank => ?_
  refine sure_fetch (fun current hcurrent => ?_) fun _ => ⟨nofun, by decide⟩
  refine sure_require (fun _ => sure_require (fun hlast => ?_) ⟨nofun, by decide⟩)
    ⟨nofun, by decide⟩
  refine sure_next (by decide) (sure_revision (sure_update hgroup ?_))
  exact sure_finish h hfresh (.moved _ groupId group _ _ _ hgroup
    (.roleChanged actor target current role _ ⟨hactor, htarget⟩ ⟨actorRole, hrole, hrank⟩ hcurrent hlast))

theorem leaveGroup_sure : Sure r command fingerprint (.leaveGroup groupId actor)
    (r.leaveGroup command fingerprint groupId actor) := by
  refine sure_unlessApplied rfl rfl fun hfresh => sure_known fun hactor => sure_group fun group hgroup => ?_
  refine sure_fetch (fun current hcurrent => ?_) fun _ => ⟨nofun, by decide⟩
  refine sure_require (fun hlast => ?_) ⟨nofun, by decide⟩
  refine sure_next (by decide) (sure_revision (sure_update hgroup ?_))
  exact sure_finish h hfresh
    (.moved _ groupId group _ _ _ hgroup (.left actor current _ hactor hcurrent hlast))

end

theorem sure_bannable {actorRole : GroupRole}
    (h : group.members.lookup target ≠ some .superadmin →
      Sure r command fingerprint operation answer) :
    Sure r command fingerprint operation
      (bannable group actorRole target >>= fun _ => answer) := by
  rw [bannable]
  split
  · next targetRole hrole =>
    refine sure_require (fun hbelow => h fun hsuper => hbelow (.inl ?_)) ⟨nofun, by decide⟩
    exact Option.mem_unique hrole hsuper
  · next hnone =>
    refine sure_require (fun _ => h fun hsuper => ?_) ⟨nofun, by decide⟩
    rw [hnone] at hsuper
    cases hsuper

theorem banGroupMember_sure (h : Lawful r) : Sure r command fingerprint
    (.banGroupMember groupId actor target)
    (r.banGroupMember command fingerprint groupId actor target) := by
  refine sure_unlessApplied rfl rfl fun hfresh => sure_known fun hactor => sure_known fun htarget => ?_
  refine sure_require (fun _ => sure_group fun group hgroup => ?_) ⟨nofun, by decide⟩
  refine sure_role fun role hrole hrank => sure_require (fun _ => ?_) ⟨nofun, by decide⟩
  refine sure_bannable fun hbelow => sure_next (by decide) (sure_revision (sure_update hgroup ?_))
  exact sure_finish h hfresh (.moved _ groupId group _ _ _ hgroup
    (.banned actor target _ ⟨hactor, htarget⟩ ⟨role, hrole, hrank⟩ hbelow))

theorem unbanGroupMember_sure (h : Lawful r) : Sure r command fingerprint
    (.unbanGroupMember groupId actor target)
    (r.unbanGroupMember command fingerprint groupId actor target) := by
  refine sure_unlessApplied rfl rfl fun hfresh => sure_known fun hactor => sure_known fun htarget => ?_
  refine sure_group fun group hgroup => sure_role fun role hrole hrank => ?_
  refine sure_require (fun _ => ?_) ⟨nofun, by decide⟩
  refine sure_next (by decide) (sure_revision (sure_update hgroup ?_))
  exact sure_finish h hfresh (.moved _ groupId group _ _ _ hgroup
    (.unbanned actor target _ ⟨hactor, htarget⟩ ⟨role, hrole, hrank⟩))

theorem sendGroupMessage_sure (h : Lawful r) (request : SendGroupMessageRequest) :
    Sure r command fingerprint (.sendGroupMessage request)
      (r.sendGroupMessage command fingerprint request) := by
  refine sure_unlessApplied rfl rfl fun hfresh => sure_known fun hsender => sure_group fun group hgroup => ?_
  obtain ⟨messages, hhistory⟩ := h.histories request.group group hgroup
  refine sure_require (fun hmember => sure_require (fun hlength => ?_) ⟨nofun, by decide⟩)
    ⟨nofun, by decide⟩
  rw [hhistory.stored]
  refine sure_require (fun hroom => sure_require (fun hnew => ?_) ⟨nofun, by decide⟩)
    ⟨nofun, by decide⟩
  have hmax := r.config.messages.2
  have hsmall : group.nextMessageSequence + 1 < 2 ^ 64 := by
    have := hroom.trans_le hmax
    rw [hardMaxMessagesPerGroup] at this
    rw [hhistory.next]
    omega
  refine sure_small hsmall (sure_revision (sure_update hgroup ?_))
  exact sure_finish h hfresh
    (.posted request group messages hsender hgroup hmember hlength hhistory.stored hroom hnew)

theorem createNotification_sure (h : Lawful r) (request : CreateNotificationRequest) :
    Sure r command fingerprint (.createNotification request)
      (r.createNotification command fingerprint request) := by
  refine sure_unlessApplied rfl rfl fun hfresh => sure_known fun hrecipient => ?_
  refine sure_require (fun hsender => sure_require (fun hshort => ?_) ⟨nofun, by decide⟩)
    ⟨nofun, by decide⟩
  refine sure_require (fun hnew => sure_require (fun hroom => ?_) ⟨nofun, by decide⟩)
    ⟨nofun, by decide⟩
  exact sure_revision (sure_finish h hfresh
    (.notified request _ rfl hrecipient hsender hshort hnew hroom))

theorem sure_notification {recipient : AccountId} {notification : NotificationId} {answer : Answer}
    (h : ∀ records record, r.notifications.lookup recipient = some records →
      records.lookup notification = some record → Sure r command fingerprint operation answer) :
    Sure r command fingerprint operation
      (fetch (r.findNotification recipient notification) ⟨.notFound, "notification_not_found"⟩ >>=
        fun _ => answer) := by
  refine sure_fetch (fun record hrecord => ?_) fun _ => ⟨nofun, by decide⟩
  obtain ⟨records, hrecords, hrecord⟩ := Option.bind_eq_some_iff.mp hrecord
  exact h records record hrecords hrecord

theorem markNotificationRead_sure (h : Lawful r) (notification : NotificationId) :
    Sure r command fingerprint (.markNotificationRead actor notification)
      (r.markNotificationRead command fingerprint actor notification) := by
  refine sure_unlessApplied rfl rfl fun hfresh => sure_known fun hrecipient => ?_
  refine sure_notification fun records record hrecords hrecord => sure_revision ?_
  rw [hrecords]
  change Sure _ _ _ _ (fetch (records.lookup notification) _ >>= _)
  rw [hrecord]
  exact sure_finish h hfresh
    (.markedRead actor notification records record hrecipient hrecords hrecord)

theorem deleteNotification_sure (h : Lawful r) (notification : NotificationId) :
    Sure r command fingerprint (.deleteNotification actor notification)
      (r.deleteNotification command fingerprint actor notification) := by
  refine sure_unlessApplied rfl rfl fun hfresh => sure_known fun hrecipient => ?_
  refine sure_notification fun records record hrecords hrecord => sure_revision ?_
  rw [hrecords]
  exact sure_finish h hfresh (.deleted actor notification records hrecipient hrecords)

theorem submit_sure (h : Lawful r) (operation : SocialOperation) :
    Sure r command fingerprint operation (r.submit command fingerprint operation) := by
  cases operation with
  | sendFriendRequest => exact sendFriendRequest_sure h
  | acceptFriendRequest => exact acceptFriendRequest_sure h
  | removeFriend => exact removeFriend_sure h
  | blockUser => exact blockUser_sure h
  | unblockUser => exact unblockUser_sure h
  | createGroup => exact createGroup_sure h _
  | joinGroup => exact joinGroup_sure h
  | approveGroupJoin => exact approveGroupJoin_sure h
  | changeGroupRole => exact changeGroupRole_sure h _
  | leaveGroup => exact leaveGroup_sure h
  | banGroupMember => exact banGroupMember_sure h
  | unbanGroupMember => exact unbanGroupMember_sure h
  | sendGroupMessage => exact sendGroupMessage_sure h _
  | createNotification => exact createNotification_sure h _
  | markNotificationRead => exact markNotificationRead_sure h _
  | deleteNotification => exact deleteNotification_sure h _

end SocialRegistry

open Persistence (ones_nonzero threes_nonzero twos_nonzero zeroBytes)

def RelationshipView.mirror : RelationshipView → RelationshipView
  | .outgoingRequest => .incomingRequest
  | .incomingRequest => .outgoingRequest
  | .blockedBySelf => .blockedByOther
  | .blockedByOther => .blockedBySelf
  | .none => .none
  | .friends => .friends
  | .mutuallyBlocked => .mutuallyBlocked

namespace SocialRegistry

variable {r r' : SocialRegistry} {request : SocialRequest} {account : AccountId}

inductive Stepped (r : SocialRegistry) : SocialRequest → SocialRegistry → Prop
  | stayed (request : SocialRequest) : Stepped r request r
  | registered (account : AccountId) (hnew : account ∉ r.users)
      (hroom : r.users.card < r.limits.maxUsers) :
      Stepped r (.registerUser account) { r with users := insert account r.users }
  | applied (command : SocialCommandId) (fingerprint : CommandFingerprint)
      (operation : SocialOperation) (m : SocialRegistry) (outcome : ReceiptOutcome)
      (intents : List OutboxIntentPayload) (outbox : Dict OutboxIntentId OutboxIntent)
      (hfresh : r.receipts.lookup command = none) (heffect : Effect r operation m outcome intents)
      (houtbox : insertIntents command m.outbox 0 intents = .ok outbox)
      (hlawful : Lawful
        (m.settled (r.completionOf command fingerprint operation outcome intents) outbox)) :
      Stepped r (.submit command fingerprint operation)
        (m.settled (r.completionOf command fingerprint operation outcome intents) outbox)

theorem registerUser_ensures (h : Lawful r) :
    Ensures (fun result => Stepped r (.registerUser account) result.2) Sound
      (r.registerUser account) := by
  rw [registerUser]
  split
  · exact .stayed _
  · next hnew =>
    simp only [ensures_bind, ensures_require]
    refine ⟨fun hroom => ?_, fun _ => ⟨by decide, by decide⟩⟩
    exact ensures_of_ok (h.registered hnew hroom).valid (.registered account hnew hroom)

theorem serve_ensures (h : Lawful r) (request : SocialRequest) :
    Ensures (fun result => Stepped r request result.2) Sound (r.serve request) := by
  cases request with
  | registerUser account =>
    have hregister : Ensures _ _ (r.registerUser account) := registerUser_ensures h
    rw [serve]
    cases hanswer : r.registerUser account with
    | error error => exact hregister.of_error hanswer
    | ok result => exact hregister.of_ok hanswer
  | submit command fingerprint operation =>
    have hsubmit : Sure r command fingerprint operation _ := submit_sure h operation
    rw [serve]
    cases hanswer : r.submit command fingerprint operation with
    | error error => exact hsubmit.of_error hanswer
    | ok result =>
      cases hsubmit.of_ok hanswer with
      | replayed receipt hfound hsame => exact .stayed _
      | applied m outcome intents outbox hfresh heffect houtbox hlawful =>
        exact .applied command fingerprint operation m outcome intents outbox hfresh heffect houtbox
          hlawful

theorem Lawful.step (h : Lawful r) (hstep : socialRegistry.step r request r') :
    Stepped r request r' := by
  obtain rfl : r.after request = r' := hstep
  have hserve := serve_ensures h request
  rw [after]
  split
  · next result hanswer => exact hserve.of_ok hanswer
  · exact .stayed request

theorem Lawful.stepped (h : Lawful r) (hstep : Stepped r request r') : Lawful r' := by
  cases hstep with
  | stayed => exact h
  | registered account hnew hroom => exact h.registered hnew hroom
  | applied command fingerprint operation m outcome intents outbox hfresh heffect houtbox hlawful =>
    exact hlawful

theorem lawful_of_reachable (h : Reachable socialRegistry r) : Lawful r := by
  refine h.invariant (fun r hinit => ?_) fun r request r' hlawful hstep => ?_
  · obtain ⟨config, rfl⟩ := hinit
    exact lawful_new config
  · exact hlawful.stepped (hlawful.step hstep)

theorem Lawful.run (h : Lawful r) {requests : List SocialRequest}
    (hrun : Run socialRegistry r requests r') : Lawful r' := by
  induction hrun with
  | nil => exact h
  | snoc _ hstep ih => exact ih.stepped (ih.step hstep)

theorem Graph.mirrored (h : Graph r) {a b : AccountId} {view : RelationshipView}
    (hview : r.relationship a b = .ok view) : r.relationship b a = .ok view.mirror := by
  simp only [relationship, bind_ok, require_ok, ensureKnownUser, exists_const] at hview ⊢
  obtain ⟨ha, hb, pair, hpair, hview⟩ := hview
  refine ⟨hb, ha, pair, (UserPair.new_ok hpair).symm.new, ?_⟩
  have hinverse := fun hin : (a, b) ∈ r.friendRequests => (h.requests a b hin).2.2.2
  have hresult := Except.ok.inj hview
  refine congrArg Except.ok ?_
  rw [← hresult]
  by_cases hblock : (a, b) ∈ r.blocks
  · by_cases hblock' : (b, a) ∈ r.blocks
    · simp [hblock, hblock', RelationshipView.mirror]
    · simp [hblock, hblock', RelationshipView.mirror]
  · by_cases hblock' : (b, a) ∈ r.blocks
    · simp [hblock, hblock', RelationshipView.mirror]
    · by_cases hfriends : pair ∈ r.friendships
      · simp [hblock, hblock', hfriends, RelationshipView.mirror]
      · by_cases hout : (a, b) ∈ r.friendRequests
        · simp [hblock, hblock', hfriends, hout, hinverse hout, RelationshipView.mirror]
        · by_cases hin : (b, a) ∈ r.friendRequests
          · simp [hblock, hblock', hfriends, hout, hin, RelationshipView.mirror]
          · simp [hblock, hblock', hfriends, hout, hin, RelationshipView.mirror]

theorem Lawful.listGroupMessages_sound (h : Lawful r) (group : GroupId)
    (cursor : Option MessageCursor) (limit : Nat) :
    Ensures (fun _ => True) Sound (r.listGroupMessages group cursor limit) := by
  simp only [listGroupMessages, validatePageLimit, requireGroup, ensures_bind, ensures_require,
    ensures_fetch, ensures_pure]
  refine ⟨fun _ => ⟨fun record hrecord => ?_, fun _ => ⟨by decide, by decide⟩⟩,
    fun _ => ⟨by decide, by decide⟩⟩
  obtain ⟨messages, hhistory⟩ := h.histories group record hrecord
  have hstored : Ensures (fun _ => True) Sound
      (fetch (r.messages.lookup group) invariantError) := by
    rw [hhistory.stored]
    exact trivial
  rw [ensures_fetch] at hstored
  cases cursor with
  | none => exact ⟨fun _ _ => trivial, hstored.2⟩
  | some cursor =>
    simp only [messageCursorAfter, ensures_bind, ensures_require, ensures_pure]
    exact ⟨fun _ => ⟨fun _ => ⟨fun _ _ => trivial, hstored.2⟩, fun _ => ⟨by decide, by decide⟩⟩,
      fun _ => ⟨by decide, by decide⟩⟩

end SocialRegistry

open SocialRegistry

structure GroupUpheld (r : SocialRegistry) (groupId : GroupId) (group : GroupRecord) : Prop where
  id : group.id = groupId
  known : group.members.keys ∪ group.joinRequests ∪ group.banned ⊆ r.users
  membersApart : Disjoint group.members.keys (group.joinRequests ∪ group.banned)
  requestersApart : Disjoint group.joinRequests group.banned
  led : ∃ account, group.members.lookup account = some .superadmin
  capacity : group.members.keys.card ≤ group.maxMembers ∧
    group.maxMembers ≤ r.limits.maxGroupMembers
  history : ∃ messages, r.messages.lookup groupId = some messages ∧
    messages.length ≤ r.limits.maxMessagesPerGroup ∧
    group.nextMessageSequence = messages.length + 1 ∧
    messages.map (·.sequence) = List.range' 1 messages.length ∧ (messages.map (·.id)).Nodup ∧
    ∀ message ∈ messages, message.group = groupId ∧ message.sender ∈ r.users ∧
      message.body.len ≤ r.limits.maxMessageBytes

structure Upheld (r : SocialRegistry) : Prop where
  faultless : ∀ request error, r.serve request = .error error →
    error ≠ invariantError ∧ error.reason ≠ "message_sequence_overflow"
  readable : ∀ group cursor limit, r.listGroupMessages group cursor limit ≠ .error invariantError
  valid : r.validateInvariants = .ok ()
  mirrored : ∀ a b view, r.relationship a b = .ok view → r.relationship b a = .ok view.mirror
  relations : ∀ account ∈ r.users,
    (r.relationshipPeers account).card ≤ r.limits.maxRelationshipsPerUser
  groups : ∀ id group, r.groups.lookup id = some group → GroupUpheld r id group
  histories : r.messages.keys = r.groups.keys
  inboxes : ∀ recipient records, r.notifications.lookup recipient = some records →
    recipient ∈ r.users ∧ records.keys.card ≤ r.limits.maxNotificationsPerUser ∧
    ∀ id record, records.lookup id = some record → record.id = id ∧ record.recipient = recipient ∧
      record.subject.len ≤ r.limits.maxNotificationTextBytes ∧
      record.content.len ≤ r.limits.maxNotificationTextBytes
  receipts : ∀ command receipt, r.receipts.lookup command = some receipt → receipt.command = command
  outbox : ∀ id intent, r.outbox.lookup id = some intent → intent.id = id ∧ id.command ∈ r.receipts
  capacity : r.users.card ≤ r.limits.maxUsers ∧ r.groups.keys.card ≤ r.limits.maxGroups ∧
    r.receipts.keys.card ≤ r.limits.maxReceipts ∧ r.outbox.keys.card ≤ r.limits.maxOutboxIntents

theorem groupUpheld {r : SocialRegistry} (h : Lawful r) {groupId : GroupId} {group : GroupRecord}
    (hgroup : r.groups.lookup groupId = some group) : GroupUpheld r groupId group := by
  obtain ⟨hshape, hpeople⟩ := groupHolds_iff.mp (h.groups groupId group hgroup)
  obtain ⟨messages, hhistory⟩ := h.histories groupId group hgroup
  refine ⟨hshape.id, ?_, ?_, ?_, hpeople.led, ⟨hpeople.room, hshape.limit.2⟩, messages,
    hhistory.stored, hhistory.room, hhistory.next, hhistory.numbered.sequences, hhistory.numbered.ids,
    fun message hmessage => ?_⟩
  · refine Finset.union_subset (Finset.union_subset (fun account hin => ?_) fun account hin => ?_)
      hpeople.banned
    · exact (hpeople.members account (Finmap.mem_keys.mp hin)).1
    · exact (hpeople.requests account hin).1
  · refine Finset.disjoint_left.mpr fun account hmember hother => ?_
    obtain ⟨-, hrequest, hban⟩ := hpeople.members account (Finmap.mem_keys.mp hmember)
    exact (Finset.mem_union.mp hother).elim hrequest hban
  · exact Finset.disjoint_left.mpr fun account hrequest => (hpeople.requests account hrequest).2
  · obtain ⟨howner, hsender, -, hlength⟩ := hhistory.holds message hmessage
    exact ⟨howner, hsender, hlength⟩

theorem social_invariants_inductive {r : SocialRegistry} (hreach : Reachable socialRegistry r) :
    Upheld r := by
  have h := lawful_of_reachable hreach
  refine ⟨fun request error herror => (serve_ensures h request).of_error herror,
    fun group cursor limit herror => ?_, h.valid, fun a b view hview => h.graph.graph.mirrored hview,
    h.graph.graph.room, fun id group hgroup => groupUpheld h hgroup, ?_,
    fun recipient records hrecords => ?_, fun command receipt hreceipt => ?_,
    fun id intent hintent => ?_, h.sizes⟩
  · exact ((h.listGroupMessages_sound group cursor limit).of_error herror).1 rfl
  · ext id
    rw [Finmap.mem_keys, Finmap.mem_keys]
    constructor
    · intro hid
      obtain ⟨messages, hmessages⟩ := Finmap.mem_iff.mp hid
      exact h.messages id messages hmessages
    · intro hid
      obtain ⟨group, hgroup⟩ := Finmap.mem_iff.mp hid
      obtain ⟨messages, hhistory⟩ := h.histories id group hgroup
      exact mem_of_lookup hhistory.stored
  · obtain ⟨hrecipient, hcard, hholds⟩ := h.inboxes recipient records hrecords
    refine ⟨hrecipient, hcard, fun id record hrecord => ?_⟩
    obtain ⟨hid, howner, -, -, -, -, hsubject, hcontent, -⟩ := each_iff.mp hholds id record hrecord
    exact ⟨hid, howner, hsubject, hcontent⟩
  · exact (h.receipts command receipt hreceipt).1
  · obtain ⟨receipt, hreceipt, -⟩ := (h.owned id).mp (mem_of_lookup hintent)
    exact ⟨(h.outbox id intent hintent).2.1, mem_of_lookup hreceipt⟩

theorem run_foldl (r : SocialRegistry) (requests : List SocialRequest) :
    Run socialRegistry r requests (requests.foldl SocialRegistry.after r) := by
  induction requests generalizing r with
  | nil => exact .nil r
  | cons request rest ih => exact .cons rfl (ih (r.after request))

def served (requests : List SocialRequest) : SocialRegistry :=
  requests.foldl SocialRegistry.after (.new .default)

theorem reachable_served (requests : List SocialRequest) :
    Reachable socialRegistry (served requests) :=
  ⟨_, requests, ⟨.default, rfl⟩, run_foldl _ requests⟩

def sampleMember (byte : UInt8) (h : zeroBytes (Vector.replicate 16 byte) = false) : AccountId :=
  ⟨Vector.replicate 16 byte, h⟩

def sampleId (byte : UInt8) (h : zeroBytes (Vector.replicate 16 byte) = false) : BoundedId 16 :=
  ⟨Vector.replicate 16 byte, h⟩

theorem samplePrint_nonzero : zeroBytes (Vector.replicate 32 1) = false := by decide

def samplePrint : CommandFingerprint := ⟨Vector.replicate 32 1, samplePrint_nonzero⟩

def sampleRequests : List SocialRequest :=
  [.registerUser (sampleMember 1 ones_nonzero), .registerUser (sampleMember 2 twos_nonzero),
    .submit (sampleId 1 ones_nonzero) samplePrint (.createGroup ⟨sampleId 1 ones_nonzero,
      sampleMember 1 ones_nonzero, ⟨"guild", by decide +kernel⟩, .open, 2⟩),
    .submit (sampleId 2 twos_nonzero) samplePrint
      (.joinGroup (sampleId 1 ones_nonzero) (sampleMember 2 twos_nonzero)),
    .submit (sampleId 3 threes_nonzero) samplePrint (.banGroupMember (sampleId 1 ones_nonzero)
      (sampleMember 1 ones_nonzero) (sampleMember 2 twos_nonzero))]

theorem social_invariants_inductive_sample :
    (served sampleRequests).revision = 3 ∧ Upheld (served sampleRequests) :=
  ⟨by decide +kernel, social_invariants_inductive (reachable_served sampleRequests)⟩

end Social
