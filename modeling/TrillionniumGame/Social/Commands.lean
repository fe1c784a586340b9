import Mathlib.Data.Prod.Lex
import TrillionniumGame.Foundation.Runs
import TrillionniumGame.Social.Registry

namespace Social
open Checks FiniteMap
open Identity (AccountId)

namespace SocialRegistry

def registerUser (r : SocialRegistry) (account : AccountId) : Except SocialError (Bool × SocialRegistry) :=
  if account ∈ r.users then .ok (false, r)
  else do
    require (r.users.card < r.limits.maxUsers) ⟨.resourceExhausted, "user_capacity_exhausted"⟩
    let candidate := { r with users := insert account r.users }
    candidate.validateInvariants
    return (true, candidate)

def relationship (r : SocialRegistry) (actor other : AccountId) :
    Except SocialError RelationshipView := do
  r.ensureKnownUser actor
  r.ensureKnownUser other
  let pair ← UserPair.new actor other
  let actorBlocks : Bool := (actor, other) ∈ r.blocks
  let otherBlocks : Bool := (other, actor) ∈ r.blocks
  return if actorBlocks && otherBlocks then .mutuallyBlocked
    else if actorBlocks then .blockedBySelf
    else if otherBlocks then .blockedByOther
    else if pair ∈ r.friendships then .friends
    else if (actor, other) ∈ r.friendRequests then .outgoingRequest
    else if (other, actor) ∈ r.friendRequests then .incomingRequest
    else .none

def requestable : RelationshipView → Except SocialError Unit
  | .none => .ok ()
  | .incomingRequest => .error ⟨.failedPrecondition, "inverse_friend_request_pending"⟩
  | .outgoingRequest => .error ⟨.alreadyExists, "friend_request_exists"⟩
  | .friends => .error ⟨.alreadyExists, "friendship_exists"⟩
  | .blockedBySelf | .blockedByOther | .mutuallyBlocked =>
    .error ⟨.permissionDenied, "relationship_blocked"⟩

section Commands
variable (r : SocialRegistry) (command : SocialCommandId) (fingerprint : CommandFingerprint)

def sendFriendRequest (actor target : AccountId) : Answer :=
  r.unlessApplied command fingerprint actor [.friendRequestSent] do
    r.ensureKnownUser actor
    r.ensureKnownUser target
    let _ ← UserPair.new actor target
    requestable (← r.relationship actor target)
    r.ensureRelationshipCapacity actor target
    let revision ← r.nextCommandRevision
    r.finishCommand { r with friendRequests := insert (actor, target) r.friendRequests }
      ⟨command, fingerprint, actor, revision, .friendRequestSent, [.friendRequest actor target]⟩

def acceptFriendRequest (actor requester : AccountId) : Answer :=
  r.unlessApplied command fingerprint actor [.friendRequestAccepted] do
    r.ensureKnownUser actor
    r.ensureKnownUser requester
    let pair ← UserPair.new actor requester
    require (¬ ((actor, requester) ∈ r.blocks ∨ (requester, actor) ∈ r.blocks))
      ⟨.permissionDenied, "relationship_blocked"⟩
    require ((requester, actor) ∈ r.friendRequests) ⟨.notFound, "friend_request_not_found"⟩
    let revision ← r.nextCommandRevision
    r.finishCommand
      { r with
        friendRequests := r.friendRequests.erase (requester, actor)
        friendships := insert pair r.friendships }
      ⟨command, fingerprint, actor, revision, .friendRequestAccepted,
        [.friendAccepted actor requester]⟩

def removeFriend (actor target : AccountId) : Answer :=
  r.unlessApplied command fingerprint actor [.friendRemoved] do
    r.ensureKnownUser actor
    r.ensureKnownUser target
    let pair ← UserPair.new actor target
    require (pair ∈ r.friendships) ⟨.notFound, "friendship_not_found"⟩
    let revision ← r.nextCommandRevision
    r.finishCommand { r with friendships := r.friendships.erase pair }
      ⟨command, fingerprint, actor, revision, .friendRemoved, []⟩

def blockUser (actor target : AccountId) : Answer :=
  r.unlessApplied command fingerprint actor [.userBlocked] do
    r.ensureKnownUser actor
    r.ensureKnownUser target
    let pair ← UserPair.new actor target
    require ((actor, target) ∉ r.blocks) ⟨.alreadyExists, "block_exists"⟩
    r.ensureRelationshipCapacity actor target
    let revision ← r.nextCommandRevision
    r.finishCommand
      { r with
        friendships := r.friendships.erase pair
        friendRequests := (r.friendRequests.erase (actor, target)).erase (target, actor)
        blocks := insert (actor, target) r.blocks }
      ⟨command, fingerprint, actor, revision, .userBlocked, []⟩

def unblockUser (actor target : AccountId) : Answer :=
  r.unlessApplied command fingerprint actor [.userUnblocked] do
    r.ensureKnownUser actor
    r.ensureKnownUser target
    let _ ← UserPair.new actor target
    require ((actor, target) ∈ r.blocks) ⟨.notFound, "block_not_found"⟩
    let revision ← r.nextCommandRevision
    r.finishCommand { r with blocks := r.blocks.erase (actor, target) }
      ⟨command, fingerprint, actor, revision, .userUnblocked, []⟩

end Commands

end SocialRegistry

open Words

namespace SocialRegistry

def requireGroup (r : SocialRegistry) (group : GroupId) : Except SocialError GroupRecord :=
  fetch (r.groups.lookup group) ⟨.notFound, "group_not_found"⟩

def updateGroup (r : SocialRegistry) (groupId : GroupId) (change : GroupRecord → GroupRecord) :
    Except SocialError SocialRegistry := do
  let candidateGroup ← fetch (r.groups.lookup groupId) invariantError
  return { r with groups := r.groups.insert groupId (change candidateGroup) }

def applyJoinMode (groupId : GroupId) (actor : AccountId) (group : GroupRecord) :
    Except SocialError (GroupRecord × ReceiptOutcome × List OutboxIntentPayload) :=
  match group.joinMode with
  | .open => .ok ({ group with members := group.members.insert actor .member }, .groupJoined,
      [.groupJoinAccepted groupId actor actor])
  | .adminApproval => .ok ({ group with joinRequests := insert actor group.joinRequests },
      .groupJoinRequested, [.groupJoinRequested groupId actor])
  | .closed => .error invariantError

section Commands
variable (r : SocialRegistry) (command : SocialCommandId) (fingerprint : CommandFingerprint)

def createGroup (request : CreateGroupRequest) : Answer :=
  r.unlessApplied command fingerprint request.creator [.groupCreated] do
    r.ensureKnownUser request.creator
    require (r.groups.keys.card < r.limits.maxGroups)
      ⟨.resourceExhausted, "group_capacity_exhausted"⟩
    require (request.group ∉ r.groups) ⟨.alreadyExists, "group_exists"⟩
    require (request.maxMembers ≠ 0 ∧ request.maxMembers ≤ r.limits.maxGroupMembers)
      ⟨.invalidArgument, "group_max_members_invalid"⟩
    let revision ← r.nextCommandRevision
    let group : GroupRecord := ⟨request.group, request.name, request.joinMode, request.maxMembers, 1,
      Finmap.singleton request.creator .superadmin, ∅, ∅, 1⟩
    r.finishCommand
      { r with
        groups := r.groups.insert request.group group
        messages := r.messages.insert request.group [] }
      ⟨command, fingerprint, request.creator, revision, .groupCreated, []⟩

variable (groupId : GroupId)

variable (actor : AccountId)

def joinGroup : Answer :=
  r.unlessApplied command fingerprint actor [.groupJoined, .groupJoinRequested] do
    r.ensureKnownUser actor
    let group ← r.requireGroup groupId
    require (actor ∉ group.members) ⟨.alreadyExists, "group_member_exists"⟩
    require (actor ∉ group.joinRequests) ⟨.alreadyExists, "group_join_request_exists"⟩
    require (actor ∉ group.banned) ⟨.permissionDenied, "group_member_banned"⟩
    require (group.joinMode ≠ .closed) ⟨.permissionDenied, "group_closed"⟩
    require (¬ (group.joinMode = .open ∧ group.maxMembers ≤ group.members.keys.card))
      ⟨.resourceExhausted, "group_member_capacity_exhausted"⟩
    let groupRevision ← nextRevision group.revision "group_revision_overflow"
    let revision ← r.nextCommandRevision
    let candidateGroup ← fetch (r.groups.lookup groupId) invariantError
    let (admitted, outcome, intents) ← applyJoinMode groupId actor candidateGroup
    r.finishCommand
      { r with groups := r.groups.insert groupId { admitted with revision := groupRevision } }
      ⟨command, fingerprint, actor, revision, outcome, intents⟩

variable (target : AccountId)

def approveGroupJoin : Answer :=
  r.unlessApplied command fingerprint actor [.groupJoinApproved] do
    r.ensureKnownUser actor
    r.ensureKnownUser target
    let group ← r.requireGroup groupId
    let _ ← requireGroupRole group actor .admin
    require (target ∈ group.joinRequests) ⟨.notFound, "group_join_request_not_found"⟩
    require (group.members.keys.card < group.maxMembers)
      ⟨.resourceExhausted, "group_member_capacity_exhausted"⟩
    let groupRevision ← nextRevision group.revision "group_revision_overflow"
    let revision ← r.nextCommandRevision
    let candidate ← r.updateGroup groupId fun group =>
      { group with
        joinRequests := group.joinRequests.erase target
        members := group.members.insert target .member
        revision := groupRevision }
    r.finishCommand candidate ⟨command, fingerprint, actor, revision, .groupJoinApproved,
      [.groupJoinAccepted groupId actor target]⟩

def changeGroupRole (role : GroupRole) : Answer :=
  r.unlessApplied command fingerprint actor [.groupRoleChanged] do
    r.ensureKnownUser actor
    r.ensureKnownUser target
    let group ← r.requireGroup groupId
    let _ ← requireGroupRole group actor .superadmin
    let current ← fetch (group.members.lookup target) ⟨.notFound, "group_member_not_found"⟩
    require (current ≠ role) ⟨.alreadyExists, "group_role_unchanged"⟩
    require (¬ (current = .superadmin ∧ role ≠ .superadmin ∧ superadminCount group = 1))
      ⟨.failedPrecondition, "last_superadmin_cannot_be_demoted"⟩
    let groupRevision ← nextRevision group.revision "group_revision_overflow"
    let revision ← r.nextCommandRevision
    let candidate ← r.updateGroup groupId fun group =>
      { group with members := group.members.insert target role, revision := groupRevision }
    r.finishCommand candidate ⟨command, fingerprint, actor, revision, .groupRoleChanged,
      [.groupRoleChanged groupId actor target role]⟩

def leaveGroup : Answer :=
  r.unlessApplied command fingerprint actor [.groupLeft] do
    r.ensureKnownUser actor
    let group ← r.requireGroup groupId
    let role ← fetch (group.members.lookup actor) ⟨.notFound, "group_member_not_found"⟩
    require (¬ (role = .superadmin ∧ superadminCount group = 1))
      ⟨.failedPrecondition, "last_superadmin_cannot_leave"⟩
    let groupRevision ← nextRevision group.revision "group_revision_overflow"
    let revision ← r.nextCommandRevision
    let candidate ← r.updateGroup groupId fun group =>
      { group with members := group.members.erase actor, revision := groupRevision }
    r.finishCommand candidate ⟨command, fingerprint, actor, revision, .groupLeft, []⟩

def bannable (group : GroupRecord) (actorRole : GroupRole) (target : AccountId) :
    Except SocialError Unit :=
  match group.members.lookup target with
  | some targetRole =>
    require (¬ (targetRole = .superadmin ∨ actorRole.rank ≤ targetRole.rank))
      ⟨.permissionDenied, "group_role_cannot_ban_target"⟩
  | none =>
    require (target ∈ group.joinRequests) ⟨.notFound, "group_member_or_request_not_found"⟩

def banGroupMember : Answer :=
  r.unlessApplied command fingerprint actor [.groupMemberBanned] do
    r.ensureKnownUser actor
    r.ensureKnownUser target
    require (actor ≠ target) ⟨.invalidArgument, "group_self_ban_forbidden"⟩
    let group ← r.requireGroup groupId
    let actorRole ← requireGroupRole group actor .admin
    require (target ∉ group.banned) ⟨.alreadyExists, "group_ban_exists"⟩
    bannable group actorRole target
    let groupRevision ← nextRevision group.revision "group_revision_overflow"
    let revision ← r.nextCommandRevision
    let candidate ← r.updateGroup groupId fun group =>
      { group with
        members := group.members.erase target
        joinRequests := group.joinRequests.erase target
        banned := insert target group.banned
        revision := groupRevision }
    r.finishCommand candidate ⟨command, fingerprint, actor, revision, .groupMemberBanned, []⟩

def unbanGroupMember : Answer :=
  r.unlessApplied command fingerprint actor [.groupMemberUnbanned] do
    r.ensureKnownUser actor
    r.ensureKnownUser target
    let group ← r.requireGroup groupId
    let _ ← requireGroupRole group actor .admin
    require (target ∈ group.banned) ⟨.notFound, "group_ban_not_found"⟩
    let groupRevision ← nextRevision group.revision "group_revision_overflow"
    let revision ← r.nextCommandRevision
    let candidate ← r.updateGroup groupId fun group =>
      { group with banned := group.banned.erase target, revision := groupRevision }
    r.finishCommand candidate ⟨command, fingerprint, actor, revision, .groupMemberUnbanned, []⟩

end Commands

end SocialRegistry

open Paging

namespace SocialRegistry

section Commands
variable (r : SocialRegistry) (command : SocialCommandId) (fingerprint : CommandFingerprint)

def sendGroupMessage (request : SendGroupMessageRequest) : Answer :=
  r.unlessApplied command fingerprint request.sender [.chatMessageSent] do
    r.ensureKnownUser request.sender
    let group ← r.requireGroup request.group
    require (request.sender ∈ group.members)
      ⟨.permissionDenied, "group_message_sender_not_member"⟩
    require (request.body.len ≤ r.limits.maxMessageBytes)
      ⟨.invalidArgument, "message_body_exceeds_profile_limit"⟩
    let currentMessages ← fetch (r.messages.lookup request.group) invariantError
    require (currentMessages.length < r.limits.maxMessagesPerGroup)
      ⟨.resourceExhausted, "group_message_capacity_exhausted"⟩
    require (∀ message ∈ currentMessages, message.id ≠ request.message)
      ⟨.alreadyExists, "message_id_exists"⟩
    let sequence := group.nextMessageSequence
    let nextSequence ← nextRevision sequence "message_sequence_overflow"
    let revision ← r.nextCommandRevision
    let message : ChatMessage := ⟨request.message, request.group, request.sender, sequence,
      request.body⟩
    let candidate ← r.updateGroup request.group fun group =>
      { group with nextMessageSequence := nextSequence }
    r.finishCommand
      { candidate with messages := r.messages.insert request.group (currentMessages ++ [message]) }
      ⟨command, fingerprint, request.sender, revision, .chatMessageSent,
        [.chatMessage request.group request.message request.sender sequence request.body]⟩

def createNotification (request : CreateNotificationRequest) : Answer :=
  r.unlessApplied command fingerprint (request.sender.getD request.recipient)
      [.notificationCreated] do
    r.ensureKnownUser request.recipient
    require (∀ sender ∈ request.sender, sender ∈ r.users)
      ⟨.notFound, "social_user_not_registered"⟩
    require (request.subject.len ≤ r.limits.maxNotificationTextBytes ∧
        request.content.len ≤ r.limits.maxNotificationTextBytes)
      ⟨.invalidArgument, "notification_text_exceeds_profile_limit"⟩
    let records := (r.notifications.lookup request.recipient).getD ∅
    require (request.notification ∉ records) ⟨.alreadyExists, "notification_id_exists"⟩
    require (records.keys.card < r.limits.maxNotificationsPerUser)
      ⟨.resourceExhausted, "notification_capacity_exhausted"⟩
    let revision ← r.nextCommandRevision
    let record : NotificationRecord := ⟨request.notification, request.sender, request.recipient,
      request.kind, request.subject, request.content, revision, false⟩
    r.finishCommand
      { r with notifications :=
          r.notifications.insert request.recipient (records.insert request.notification record) }
      ⟨command, fingerprint, request.sender.getD request.recipient, revision, .notificationCreated,
        [.notificationDelivery request.sender request.recipient request.notification request.kind
          request.subject request.content revision]⟩

variable (recipient : AccountId)

variable (notification : NotificationId)

def findNotification :
    Option NotificationRecord :=
  (r.notifications.lookup recipient).bind fun records => records.lookup notification

def markNotificationRead : Answer :=
  r.unlessApplied command fingerprint recipient [.notificationMarkedRead] do
    r.ensureKnownUser recipient
    let _ ← fetch (r.findNotification recipient notification)
      ⟨.notFound, "notification_not_found"⟩
    let revision ← r.nextCommandRevision
    let records ← fetch (r.notifications.lookup recipient) invariantError
    let record ← fetch (records.lookup notification) invariantError
    r.finishCommand
      { r with notifications :=
          r.notifications.insert recipient (records.insert notification { record with read := true }) }
      ⟨command, fingerprint, recipient, revision, .notificationMarkedRead, []⟩

def deleteNotification : Answer :=
  r.unlessApplied command fingerprint recipient [.notificationDeleted] do
    r.ensureKnownUser recipient
    let _ ← fetch (r.findNotification recipient notification)
      ⟨.notFound, "notification_not_found"⟩
    let revision ← r.nextCommandRevision
    let records ← fetch (r.notifications.lookup recipient) invariantError
    let records := records.erase notification
    r.finishCommand
      { r with notifications :=
          if records = ∅ then r.notifications.erase recipient
          else r.notifications.insert recipient records }
      ⟨command, fingerprint, recipient, revision, .notificationDeleted, []⟩

end Commands

section Lists
variable (r : SocialRegistry)

def friendCursorAfter (owner : AccountId) : Option FriendCursor → Except SocialError (Option AccountId)
  | some cursor => do
    require (cursor.owner = owner) ⟨.invalidArgument, "friend_cursor_owner_mismatch"⟩
    return some cursor.after
  | none => .ok none

def listFriends (owner : AccountId) (cursor : Option FriendCursor) (limit : Nat) :
    Except SocialError FriendPage := do
  r.ensureKnownUser owner
  validatePageLimit limit
  let after ← friendCursorAfter owner cursor
  let values := sorted <| (r.friendships.val.filterMap (·.other owner)).filter
    fun account => ∀ minimum ∈ after, minimum < account
  return ⟨(cut values limit).1, (cut values limit).2.map fun last => ⟨owner, last⟩⟩

def messageCursorAfter (groupId : GroupId) (group : GroupRecord) :
    Option MessageCursor → Except SocialError Nat
  | some cursor => do
    require (cursor.group = groupId) ⟨.invalidArgument, "message_cursor_group_mismatch"⟩
    require (cursor.sequence < group.nextMessageSequence) ⟨.invalidArgument, "message_cursor_ahead"⟩
    return cursor.sequence
  | none => .ok 0

def listGroupMessages (groupId : GroupId) (cursor : Option MessageCursor) (limit : Nat) :
    Except SocialError MessagePage := do
  validatePageLimit limit
  let group ← r.requireGroup groupId
  let after ← messageCursorAfter groupId group cursor
  let messages ← fetch (r.messages.lookup groupId) invariantError
  let values := messages.filter fun message => after < message.sequence
  return ⟨(cut values limit).1, (cut values limit).2.map fun message => ⟨groupId, message.sequence⟩⟩

def notificationCursorAfter (recipient : AccountId) :
    Option NotificationCursor → Except SocialError Nat
  | some cursor => do
    require (cursor.recipient = recipient)
      ⟨.invalidArgument, "notification_cursor_recipient_mismatch"⟩
    require (cursor.sequence ≤ r.revision) ⟨.invalidArgument, "notification_cursor_ahead"⟩
    return cursor.sequence
  | none => .ok 0

def inbox (recipient : AccountId) : List NotificationRecord :=
  (items ((r.notifications.lookup recipient).getD ∅)).map (·.2)

def listNotifications (recipient : AccountId) (cursor : Option NotificationCursor) (limit : Nat) :
    Except SocialError NotificationPage := do
  r.ensureKnownUser recipient
  validatePageLimit limit
  let after ← r.notificationCursorAfter recipient cursor
  let values := sortedBy (fun record => toLex (record.sequence, record.id))
    ((r.inbox recipient).filter fun record => after < record.sequence)
  return ⟨(cut values limit).1, (cut values limit).2.map fun record => ⟨recipient, record.sequence⟩⟩

end Lists

end SocialRegistry

open Runs

inductive OperationKind where
  | sendFriendRequest | acceptFriendRequest | removeFriend | blockUser | unblockUser | createGroup
  | joinGroup | approveGroupJoin | changeGroupRole | leaveGroup | banGroupMember | unbanGroupMember
  | sendGroupMessage | createNotification | markNotificationRead | deleteNotification
  deriving DecidableEq

def OperationKind.outcomes : OperationKind → List ReceiptOutcome
  | .sendFriendRequest => [.friendRequestSent]
  | .acceptFriendRequest => [.friendRequestAccepted]
  | .removeFriend => [.friendRemoved]
  | .blockUser => [.userBlocked]
  | .unblockUser => [.userUnblocked]
  | .createGroup => [.groupCreated]
  | .joinGroup => [.groupJoined, .groupJoinRequested]
  | .approveGroupJoin => [.groupJoinApproved]
  | .changeGroupRole => [.groupRoleChanged]
  | .leaveGroup => [.groupLeft]
  | .banGroupMember => [.groupMemberBanned]
  | .unbanGroupMember => [.groupMemberUnbanned]
  | .sendGroupMessage => [.chatMessageSent]
  | .createNotification => [.notificationCreated]
  | .markNotificationRead => [.notificationMarkedRead]
  | .deleteNotification => [.notificationDeleted]

inductive SocialOperation where
  | sendFriendRequest (actor target : AccountId)
  | acceptFriendRequest (actor requester : AccountId)
  | removeFriend (actor target : AccountId)
  | blockUser (actor target : AccountId)
  | unblockUser (actor target : AccountId)
  | createGroup (request : CreateGroupRequest)
  | joinGroup (group : GroupId) (actor : AccountId)
  | approveGroupJoin (group : GroupId) (actor target : AccountId)
  | changeGroupRole (group : GroupId) (actor target : AccountId) (role : GroupRole)
  | leaveGroup (group : GroupId) (actor : AccountId)
  | banGroupMember (group : GroupId) (actor target : AccountId)
  | unbanGroupMember (group : GroupId) (actor target : AccountId)
  | sendGroupMessage (request : SendGroupMessageRequest)
  | createNotification (request : CreateNotificationRequest)
  | markNotificationRead (recipient : AccountId) (notification : NotificationId)
  | deleteNotification (recipient : AccountId) (notification : NotificationId)

namespace SocialOperation

def kind : SocialOperation → OperationKind
  | sendFriendRequest .. => .sendFriendRequest
  | acceptFriendRequest .. => .acceptFriendRequest
  | removeFriend .. => .removeFriend
  | blockUser .. => .blockUser
  | unblockUser .. => .unblockUser
  | createGroup .. => .createGroup
  | joinGroup .. => .joinGroup
  | approveGroupJoin .. => .approveGroupJoin
  | changeGroupRole .. => .changeGroupRole
  | leaveGroup .. => .leaveGroup
  | banGroupMember .. => .banGroupMember
  | unbanGroupMember .. => .unbanGroupMember
  | sendGroupMessage .. => .sendGroupMessage
  | createNotification .. => .createNotification
  | markNotificationRead .. => .markNotificationRead
  | deleteNotification .. => .deleteNotification

def actor : SocialOperation → AccountId
  | sendFriendRequest actor _ | acceptFriendRequest actor _ | removeFriend actor _
  | blockUser actor _ | unblockUser actor _ | joinGroup _ actor | approveGroupJoin _ actor _
  | changeGroupRole _ actor _ _ | leaveGroup _ actor | banGroupMember _ actor _
  | unbanGroupMember _ actor _ | markNotificationRead actor _ | deleteNotification actor _ => actor
  | createGroup request => request.creator
  | sendGroupMessage request => request.sender
  | createNotification request => request.sender.getD request.recipient

end SocialOperation

inductive SocialRequest where
  | registerUser (account : AccountId)
  | submit (command : SocialCommandId) (fingerprint : CommandFingerprint)
      (operation : SocialOperation)

namespace SocialRegistry

def submit (r : SocialRegistry) (command : SocialCommandId) (fingerprint : CommandFingerprint) :
    SocialOperation → Answer
  | .sendFriendRequest actor target => r.sendFriendRequest command fingerprint actor target
  | .acceptFriendRequest actor requester =>
    r.acceptFriendRequest command fingerprint actor requester
  | .removeFriend actor target => r.removeFriend command fingerprint actor target
  | .blockUser actor target => r.blockUser command fingerprint actor target
  | .unblockUser actor target => r.unblockUser command fingerprint actor target
  | .createGroup request => r.createGroup command fingerprint request
  | .joinGroup group actor => r.joinGroup command fingerprint group actor
  | .approveGroupJoin group actor target => r.approveGroupJoin command fingerprint group actor target
  | .changeGroupRole group actor target role =>
    r.changeGroupRole command fingerprint group actor target role
  | .leaveGroup group actor => r.leaveGroup command fingerprint group actor
  | .banGroupMember group actor target => r.banGroupMember command fingerprint group actor target
  | .unbanGroupMember group actor target => r.unbanGroupMember command fingerprint group actor target
  | .sendGroupMessage request => r.sendGroupMessage command fingerprint request
  | .createNotification request => r.createNotification command fingerprint request
  | .markNotificationRead recipient notification =>
    r.markNotificationRead command fingerprint recipient notification
  | .deleteNotification recipient notification =>
    r.deleteNotification command fingerprint recipient notification

-- What a call answers: `none` where it is a registration.
def serve (r : SocialRegistry) :
    SocialRequest → Except SocialError (Option CommandReceipt × SocialRegistry)
  | .registerUser account => (r.registerUser account).map fun result => (none, result.2)
  | .submit command fingerprint operation =>
    (r.submit command fingerprint operation).map fun result => (some result.1, result.2)

def after (r : SocialRegistry) (request : SocialRequest) : SocialRegistry :=
  match r.serve request with
  | .ok result => result.2
  | .error _ => r

end SocialRegistry

def socialRegistry : System SocialRegistry SocialRequest where
  init r := ∃ config, r = .new config
  step r request r' := r.after request = r'

end Social
