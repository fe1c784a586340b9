import TrillionniumGame.Foundation.Words
import TrillionniumGame.Identity.Registry

namespace Social
open Checks FiniteMap Words
open Identity (AccountId byteValues byteValues_inj isControl trimmedText)
open Persistence (Bytes zeroBytes)

def maxGroupNameBytes : Nat := 256
def maxMessageBytes : Nat := 16384
def maxNotificationTextBytes : Nat := 16384
def maxPageSize : Nat := 1000
def hardMaxUsers : Nat := 1000000
def hardMaxRelationshipsPerUser : Nat := 100000
def hardMaxGroups : Nat := 1000000
def hardMaxGroupMembers : Nat := 100000
def hardMaxMessagesPerGroup : Nat := 1000000
def hardMaxNotificationsPerUser : Nat := 1000000
def hardMaxReceipts : Nat := 4000000
def hardMaxOutboxIntents : Nat := 8000000

inductive SocialErrorCode where
  | invalidArgument | notFound | alreadyExists | failedPrecondition | permissionDenied
  | resourceExhausted | conflict | outOfRange | dataLoss
  deriving DecidableEq

structure SocialError where
  code : SocialErrorCode
  reason : String
  deriving DecidableEq

structure BoundedId (size : Nat) where
  bytes : Bytes size
  nonzero : zeroBytes bytes = false

instance {size : Nat} : LinearOrder (BoundedId size) :=
  LinearOrder.lift' (fun id => byteValues id.bytes) <| by
    rintro ⟨x, _⟩ ⟨y, _⟩ h
    simp only [BoundedId.mk.injEq]
    exact byteValues_inj h

abbrev SocialCommandId := BoundedId 16
abbrev CommandFingerprint := BoundedId 32
abbrev GroupId := BoundedId 16
abbrev MessageId := BoundedId 16
abbrev NotificationId := BoundedId 16

structure GroupName where
  value : String
  valid : trimmedText maxGroupNameBytes value = true

structure MessageBody where
  bytes : List UInt8
  valid : bytes ≠ [] ∧ bytes.length ≤ maxMessageBytes
  deriving DecidableEq

structure NotificationText where
  value : String
  valid : (value ≠ "" && value.utf8ByteSize ≤ maxNotificationTextBytes &&
    !value.toList.any isControl) = true
  deriving DecidableEq

def MessageBody.len (body : MessageBody) : Nat := body.bytes.length
def NotificationText.len (text : NotificationText) : Nat := text.value.utf8ByteSize

structure SocialLimits where
  maxUsers : Nat
  maxRelationshipsPerUser : Nat
  maxGroups : Nat
  maxGroupMembers : Nat
  maxMessagesPerGroup : Nat
  maxMessageBytes : Nat
  maxNotificationsPerUser : Nat
  maxNotificationTextBytes : Nat
  maxReceipts : Nat
  maxOutboxIntents : Nat

def validLimit (value maximum : Nat) : Prop := 0 < value ∧ value ≤ maximum

instance (value maximum : Nat) : Decidable (validLimit value maximum) := by
  unfold validLimit
  infer_instance

structure SocialConfig where
  limits : SocialLimits
  users : validLimit limits.maxUsers hardMaxUsers
  relationships : validLimit limits.maxRelationshipsPerUser hardMaxRelationshipsPerUser
  groups : validLimit limits.maxGroups hardMaxGroups
  members : validLimit limits.maxGroupMembers hardMaxGroupMembers
  messages : validLimit limits.maxMessagesPerGroup hardMaxMessagesPerGroup
  messageBytes : validLimit limits.maxMessageBytes Social.maxMessageBytes
  notifications : validLimit limits.maxNotificationsPerUser hardMaxNotificationsPerUser
  notificationBytes : validLimit limits.maxNotificationTextBytes Social.maxNotificationTextBytes
  receipts : validLimit limits.maxReceipts hardMaxReceipts
  intents : validLimit limits.maxOutboxIntents hardMaxOutboxIntents

def SocialConfig.default : SocialConfig where
  limits := ⟨100000, 10000, 100000, 10000, 100000, 4096, 100000, 4096, 1000000, 2000000⟩
  users := by decide
  relationships := by decide
  groups := by decide
  members := by decide
  messages := by decide
  messageBytes := by decide
  notifications := by decide
  notificationBytes := by decide
  receipts := by decide
  intents := by decide

inductive RelationshipView where
  | none | outgoingRequest | incomingRequest | friends | blockedBySelf | blockedByOther
  | mutuallyBlocked

structure UserPair where
  low : AccountId
  high : AccountId
  ordered : low < high
  deriving DecidableEq

namespace UserPair

def new (first second : AccountId) : Except SocialError UserPair :=
  if hlow : first < second then .ok ⟨first, second, hlow⟩
  else if hhigh : second < first then .ok ⟨second, first, hhigh⟩
  else .error ⟨.invalidArgument, "self_relationship_forbidden"⟩

def other (pair : UserPair) (account : AccountId) : Option AccountId :=
  if account = pair.low then some pair.high
  else if account = pair.high then some pair.low
  else none

end UserPair

structure FriendCursor where
  owner : AccountId
  after : AccountId

structure FriendPage where
  items : List AccountId
  next : Option FriendCursor

inductive GroupJoinMode where
  | open | adminApproval | closed
  deriving DecidableEq

inductive GroupRole where
  | superadmin | admin | member
  deriving DecidableEq

def GroupRole.rank : GroupRole → Nat
  | .member => 1
  | .admin => 2
  | .superadmin => 3

structure CreateGroupRequest where
  group : GroupId
  creator : AccountId
  name : GroupName
  joinMode : GroupJoinMode
  maxMembers : Nat

structure GroupRecord where
  id : GroupId
  name : GroupName
  joinMode : GroupJoinMode
  maxMembers : Nat
  revision : Nat
  members : Dict AccountId GroupRole
  joinRequests : Finset AccountId
  banned : Finset AccountId
  nextMessageSequence : Nat

structure SendGroupMessageRequest where
  group : GroupId
  sender : AccountId
  message : MessageId
  body : MessageBody

structure ChatMessage where
  id : MessageId
  group : GroupId
  sender : AccountId
  sequence : Nat
  body : MessageBody
  deriving DecidableEq

structure MessageCursor where
  group : GroupId
  sequence : Nat

structure MessagePage where
  items : List ChatMessage
  next : Option MessageCursor

inductive NotificationKind where
  | friendRequest | friendAccepted | groupJoinRequested | groupJoinAccepted | groupRoleChanged
  | chatMention
  | custom (kind : UInt16)
  deriving DecidableEq

structure CreateNotificationRequest where
  sender : Option AccountId
  recipient : AccountId
  notification : NotificationId
  kind : NotificationKind
  subject : NotificationText
  content : NotificationText

structure NotificationRecord where
  id : NotificationId
  sender : Option AccountId
  recipient : AccountId
  kind : NotificationKind
  subject : NotificationText
  content : NotificationText
  sequence : Nat
  read : Bool
  deriving DecidableEq

structure NotificationCursor where
  recipient : AccountId
  sequence : Nat
  deriving DecidableEq

structure NotificationPage where
  items : List NotificationRecord
  next : Option NotificationCursor

inductive ReceiptOutcome where
  | friendRequestSent | friendRequestAccepted | friendRemoved | userBlocked | userUnblocked
  | groupCreated | groupJoined | groupJoinRequested | groupJoinApproved | groupRoleChanged
  | groupLeft | groupMemberBanned | groupMemberUnbanned | chatMessageSent | notificationCreated
  | notificationMarkedRead | notificationDeleted
  deriving DecidableEq

structure CommandReceipt where
  command : SocialCommandId
  fingerprint : CommandFingerprint
  actor : AccountId
  revision : Nat
  outcome : ReceiptOutcome
  outboxCount : Nat

structure OutboxIntentId where
  command : SocialCommandId
  ordinal : Nat
  deriving DecidableEq

inductive OutboxIntentPayload where
  | friendRequest (requester target : AccountId)
  | friendAccepted (accepter requester : AccountId)
  | groupJoinRequested (group : GroupId) (requester : AccountId)
  | groupJoinAccepted (group : GroupId) (actor member : AccountId)
  | groupRoleChanged (group : GroupId) (actor member : AccountId) (role : GroupRole)
  | chatMessage (group : GroupId) (message : MessageId) (sender : AccountId) (sequence : Nat)
      (body : MessageBody)
  | notificationDelivery (sender : Option AccountId) (recipient : AccountId)
      (notification : NotificationId) (kind : NotificationKind) (subject content : NotificationText)
      (sequence : Nat)

def OutboxIntentPayload.matchesReceipt (receipt : CommandReceipt) : OutboxIntentPayload → Bool
  | .friendRequest requester _ =>
    receipt.outcome = .friendRequestSent && receipt.actor = requester
  | .friendAccepted accepter _ =>
    receipt.outcome = .friendRequestAccepted && receipt.actor = accepter
  | .groupJoinRequested _ requester =>
    receipt.outcome = .groupJoinRequested && receipt.actor = requester
  | .groupJoinAccepted _ actor member =>
    (receipt.outcome = .groupJoined || receipt.outcome = .groupJoinApproved) &&
      receipt.actor = actor && (receipt.outcome ≠ .groupJoined || actor = member)
  | .groupRoleChanged _ actor _ _ =>
    receipt.outcome = .groupRoleChanged && receipt.actor = actor
  | .chatMessage _ _ sender _ _ => receipt.outcome = .chatMessageSent && receipt.actor = sender
  | .notificationDelivery sender recipient _ _ _ _ _ =>
    receipt.outcome = .notificationCreated && receipt.actor = sender.getD recipient

structure OutboxIntent where
  id : OutboxIntentId
  payload : OutboxIntentPayload

structure CommandCompletion where
  command : SocialCommandId
  fingerprint : CommandFingerprint
  actor : AccountId
  revision : Nat
  outcome : ReceiptOutcome
  intents : List OutboxIntentPayload

structure SocialRegistry where
  config : SocialConfig
  revision : Nat
  users : Finset AccountId
  friendships : Finset UserPair
  friendRequests : Finset (AccountId × AccountId)
  blocks : Finset (AccountId × AccountId)
  groups : Dict GroupId GroupRecord
  messages : Dict GroupId (List ChatMessage)
  notifications : Dict AccountId (Dict NotificationId NotificationRecord)
  receipts : Dict SocialCommandId CommandReceipt
  outbox : Dict OutboxIntentId OutboxIntent

open Persistence (checkedAdd)

def invariantError : SocialError := ⟨.dataLoss, "social_invariant_violation"⟩

def validatePageLimit (limit : Nat) : Except SocialError Unit :=
  require (limit ≠ 0 ∧ limit ≤ maxPageSize) ⟨.invalidArgument, "page_limit_invalid"⟩

def nextRevision (value : Nat) (reason : String) : Except SocialError Nat :=
  fetch (fits 64 (value + 1)) ⟨.outOfRange, reason⟩

variable (group : GroupRecord)

def requireGroupRole (actor : AccountId) (minimum : GroupRole) :
    Except SocialError GroupRole := do
  let role ← fetch (group.members.lookup actor) ⟨.permissionDenied, "group_actor_not_member"⟩
  require (minimum.rank ≤ role.rank) ⟨.permissionDenied, "group_role_insufficient"⟩
  return role

def superadmins : Finset AccountId :=
  group.members.keys.filter fun account => group.members.lookup account = some .superadmin

def superadminCount : Nat := (superadmins group).card

abbrev Answer := Except SocialError (CommandReceipt × SocialRegistry)

namespace SocialRegistry

def new (config : SocialConfig) : SocialRegistry := ⟨config, 0, ∅, ∅, ∅, ∅, ∅, ∅, ∅, ∅, ∅⟩

def limits (r : SocialRegistry) : SocialLimits := r.config.limits

variable (r : SocialRegistry)

variable (account : AccountId)

def ensureKnownUser : Except SocialError Unit :=
  require (account ∈ r.users) ⟨.notFound, "social_user_not_registered"⟩

def areFriends (first second : AccountId) : Bool :=
  match UserPair.new first second with
  | .ok pair => pair ∈ r.friendships
  | .error _ => false

def edgePeers (edge : AccountId × AccountId) : Finset AccountId :=
  if edge.1 = account then {edge.2} else if edge.2 = account then {edge.1} else ∅

def friendsOf : Finset AccountId :=
  r.friendships.biUnion fun pair => (pair.other account).toFinset

def relationshipPeers : Finset AccountId :=
  r.friendsOf account ∪ r.friendRequests.biUnion (edgePeers account) ∪
    r.blocks.biUnion (edgePeers account)

def hasRelationshipPair (first second : AccountId) : Bool :=
  r.areFriends first second || (first, second) ∈ r.friendRequests ||
    (second, first) ∈ r.friendRequests || (first, second) ∈ r.blocks || (second, first) ∈ r.blocks

def ensureRelationshipCapacity (first second : AccountId) : Except SocialError Unit :=
  require (r.hasRelationshipPair first second = true ∨
      ((r.relationshipPeers first).card < r.limits.maxRelationshipsPerUser ∧
        (r.relationshipPeers second).card < r.limits.maxRelationshipsPerUser))
    ⟨.resourceExhausted, "relationship_capacity_exhausted"⟩

section Invariants
def SizesHold : Prop :=
  r.users.card ≤ r.limits.maxUsers ∧ r.groups.keys.card ≤ r.limits.maxGroups ∧
    r.receipts.keys.card ≤ r.limits.maxReceipts ∧ r.outbox.keys.card ≤ r.limits.maxOutboxIntents

def FriendshipHolds (pair : UserPair) : Prop :=
  pair.low ∈ r.users ∧ pair.high ∈ r.users ∧
    (pair.low, pair.high) ∉ r.friendRequests ∧ (pair.high, pair.low) ∉ r.friendRequests ∧
    (pair.low, pair.high) ∉ r.blocks ∧ (pair.high, pair.low) ∉ r.blocks

variable (edge : AccountId × AccountId)

def EdgeHolds : Prop :=
  edge.1 ≠ edge.2 ∧ edge.1 ∈ r.users ∧ edge.2 ∈ r.users ∧ r.areFriends edge.1 edge.2 = false

def RequestHolds : Prop :=
  r.EdgeHolds edge ∧ edge ∉ r.blocks ∧ (edge.2, edge.1) ∉ r.blocks ∧
    (edge.2, edge.1) ∉ r.friendRequests

def BlockHolds : Prop :=
  r.EdgeHolds edge ∧ edge ∉ r.friendRequests ∧ (edge.2, edge.1) ∉ r.friendRequests

def GraphHolds : Prop :=
  (∀ pair ∈ r.friendships, r.FriendshipHolds pair) ∧
    (∀ edge ∈ r.friendRequests, r.RequestHolds edge) ∧ (∀ edge ∈ r.blocks, r.BlockHolds edge) ∧
    ∀ account ∈ r.users, (r.relationshipPeers account).card ≤ r.limits.maxRelationshipsPerUser

variable (groupId : GroupId)

def GroupHolds (group : GroupRecord) : Prop :=
  (group.id = groupId ∧ group.maxMembers ≠ 0 ∧ group.maxMembers ≤ r.limits.maxGroupMembers ∧
      group.members.keys ≠ ∅ ∧ group.members.keys.card ≤ group.maxMembers ∧
      superadminCount group ≠ 0 ∧ group.nextMessageSequence ≠ 0) ∧
    (∀ account ∈ group.members.keys,
      account ∈ r.users ∧ account ∉ group.joinRequests ∧ account ∉ group.banned) ∧
    (∀ account ∈ group.joinRequests, account ∈ r.users ∧ account ∉ group.banned) ∧
    ∀ account ∈ group.banned, account ∈ r.users

def MessageHolds (message : ChatMessage) : Prop :=
  message.group = groupId ∧ message.sender ∈ r.users ∧ message.body.bytes ≠ [] ∧
    message.body.len ≤ r.limits.maxMessageBytes

def NotificationHolds (recipient : AccountId) (id : NotificationId) (record : NotificationRecord) :
    Prop :=
  record.id = id ∧ record.recipient = recipient ∧ record.sequence ≠ 0 ∧
    record.sequence ≤ r.revision ∧ record.subject.value ≠ "" ∧ record.content.value ≠ "" ∧
    record.subject.len ≤ r.limits.maxNotificationTextBytes ∧
    record.content.len ≤ r.limits.maxNotificationTextBytes ∧ ∀ sender ∈ record.sender, sender ∈ r.users

def InboxHolds (recipient : AccountId) (records : Dict NotificationId NotificationRecord) : Prop :=
  recipient ∈ r.users ∧ records.keys.card ≤ r.limits.maxNotificationsPerUser ∧
    Each records (r.NotificationHolds recipient)

def intentCount (command : SocialCommandId) : Nat :=
  (r.outbox.keys.filter fun id => (r.outbox.lookup id).any (·.id.command = command)).card

def ReceiptHolds (command : SocialCommandId) (receipt : CommandReceipt) : Prop :=
  receipt.command = command ∧ receipt.actor ∈ r.users ∧ receipt.revision ≠ 0 ∧
    receipt.revision ≤ r.revision ∧ r.intentCount command = receipt.outboxCount

def storedMessage (group : GroupId) (message : MessageId) : Option ChatMessage :=
  (r.messages.lookup group).bind fun messages => messages.find? (·.id = message)

def PayloadHolds (receipt : CommandReceipt) : OutboxIntentPayload → Prop
  | .friendRequest requester target => requester ∈ r.users ∧ target ∈ r.users ∧ requester ≠ target
  | .friendAccepted accepter requester =>
    accepter ∈ r.users ∧ requester ∈ r.users ∧ accepter ≠ requester
  | .groupJoinRequested group requester => requester ∈ r.users ∧ group ∈ r.groups
  | .groupJoinAccepted group actor member => actor ∈ r.users ∧ member ∈ r.users ∧ group ∈ r.groups
  | .groupRoleChanged group actor member _ => actor ∈ r.users ∧ member ∈ r.users ∧ group ∈ r.groups
  | .chatMessage group message sender sequence body =>
    sender ∈ r.users ∧ sequence ≠ 0 ∧ body.bytes ≠ [] ∧ body.len ≤ r.limits.maxMessageBytes ∧
      (r.storedMessage group message).any (fun stored => stored.group = group ∧
        stored.sender = sender ∧ stored.sequence = sequence ∧ stored.body.bytes = body.bytes) = true
  | .notificationDelivery sender recipient _ _ subject content sequence =>
    recipient ∈ r.users ∧ (∀ account ∈ sender, account ∈ r.users) ∧ sequence = receipt.revision ∧
      subject.value ≠ "" ∧ content.value ≠ "" ∧ subject.len ≤ r.limits.maxNotificationTextBytes ∧
      content.len ≤ r.limits.maxNotificationTextBytes

def IntentHolds (id : OutboxIntentId) (intent : OutboxIntent) : Prop :=
  (r.receipts.lookup id.command).any (fun receipt => intent.payload.matchesReceipt receipt) = true ∧
    intent.id = id ∧ id.ordinal ≠ 0 ∧
    ∀ receipt ∈ r.receipts.lookup id.command, r.PayloadHolds receipt intent.payload

instance : Decidable r.SizesHold := by unfold SizesHold; infer_instance
instance (pair : UserPair) : Decidable (r.FriendshipHolds pair) := by
  unfold FriendshipHolds; infer_instance
instance (edge : AccountId × AccountId) : Decidable (r.EdgeHolds edge) := by
  unfold EdgeHolds; infer_instance
instance (edge : AccountId × AccountId) : Decidable (r.RequestHolds edge) := by
  unfold RequestHolds; infer_instance
instance (edge : AccountId × AccountId) : Decidable (r.BlockHolds edge) := by
  unfold BlockHolds; infer_instance
instance : Decidable r.GraphHolds := by unfold GraphHolds; infer_instance
instance (groupId : GroupId) (group : GroupRecord) : Decidable (r.GroupHolds groupId group) := by
  unfold GroupHolds; infer_instance
instance (groupId : GroupId) (message : ChatMessage) : Decidable (r.MessageHolds groupId message) := by
  unfold MessageHolds; infer_instance
instance (recipient : AccountId) (id : NotificationId) (record : NotificationRecord) :
    Decidable (r.NotificationHolds recipient id record) := by
  unfold NotificationHolds; infer_instance
instance (recipient : AccountId) (records : Dict NotificationId NotificationRecord) :
    Decidable (r.InboxHolds recipient records) := by
  unfold InboxHolds; infer_instance
instance (command : SocialCommandId) (receipt : CommandReceipt) :
    Decidable (r.ReceiptHolds command receipt) := by
  unfold ReceiptHolds; infer_instance
instance (receipt : CommandReceipt) (payload : OutboxIntentPayload) :
    Decidable (r.PayloadHolds receipt payload) := by
  cases payload <;> unfold PayloadHolds <;> infer_instance
instance (id : OutboxIntentId) (intent : OutboxIntent) : Decidable (r.IntentHolds id intent) := by
  unfold IntentHolds; infer_instance

def validateMessages (groupId : GroupId) :
    List ChatMessage → Nat → Finset MessageId → Except SocialError Nat
  | [], expected, _ => .ok expected
  | message :: rest, expected, seen => do
    require (r.MessageHolds groupId message ∧ message.sequence = expected ∧ message.id ∉ seen)
      invariantError
    let next ← nextRevision expected "message_sequence_overflow"
    validateMessages groupId rest next (insert message.id seen)

def validateGroup (group : GroupRecord) : Except SocialError Unit := do
  require (r.GroupHolds groupId group) invariantError
  let messages ← fetch (r.messages.lookup groupId) invariantError
  require (messages.length ≤ r.limits.maxMessagesPerGroup) invariantError
  let expected ← r.validateMessages groupId messages 1 ∅
  require (group.nextMessageSequence = expected) invariantError

def validateInvariants : Except SocialError Unit := do
  require r.SizesHold invariantError
  require r.GraphHolds invariantError
  (items r.groups).forM fun entry => r.validateGroup entry.1 entry.2
  require (∀ group ∈ r.messages.keys, group ∈ r.groups) invariantError
  require (Each r.notifications r.InboxHolds) invariantError
  require (Each r.receipts r.ReceiptHolds) invariantError
  require (Each r.outbox r.IntentHolds) invariantError

end Invariants

def nextCommandRevision (r : SocialRegistry) : Except SocialError Nat :=
  nextRevision r.revision "social_revision_overflow"

def existingReceipt (r : SocialRegistry) (command : SocialCommandId)
    (fingerprint : CommandFingerprint) (actor : AccountId) (allowedOutcomes : List ReceiptOutcome) :
    Except SocialError (Option CommandReceipt) :=
  match r.receipts.lookup command with
  | none => .ok none
  | some receipt => do
    require (receipt.fingerprint = fingerprint) ⟨.conflict, "social_command_fingerprint_mismatch"⟩
    require (receipt.actor = actor) ⟨.conflict, "social_command_actor_mismatch"⟩
    require (receipt.outcome ∈ allowedOutcomes) ⟨.conflict, "social_command_operation_mismatch"⟩
    return some receipt

def unlessApplied (r : SocialRegistry) (command : SocialCommandId) (fingerprint : CommandFingerprint)
    (actor : AccountId) (allowedOutcomes : List ReceiptOutcome) (apply : Answer) : Answer := do
  match ← r.existingReceipt command fingerprint actor allowedOutcomes with
  | some receipt => return (receipt, r)
  | none => apply

def insertIntents (command : SocialCommandId) :
    Dict OutboxIntentId OutboxIntent → Nat → List OutboxIntentPayload →
      Except SocialError (Dict OutboxIntentId OutboxIntent)
  | outbox, _, [] => .ok outbox
  | outbox, index, payload :: rest => do
    let ordinal ← fetch (fits 16 (index + 1)) ⟨.outOfRange, "outbox_ordinal_overflow"⟩
    insertIntents command (outbox.insert ⟨command, ordinal⟩ ⟨⟨command, ordinal⟩, payload⟩) (index + 1)
      rest

def finishCommand (r candidate : SocialRegistry) (completion : CommandCompletion) : Answer := do
  require (r.receipts.keys.card < r.limits.maxReceipts)
    ⟨.resourceExhausted, "receipt_capacity_exhausted"⟩
  let projectedOutbox ← fetch (checkedAdd r.outbox.keys.card completion.intents.length)
    ⟨.outOfRange, "outbox_capacity_overflow"⟩
  require (projectedOutbox ≤ r.limits.maxOutboxIntents)
    ⟨.resourceExhausted, "outbox_capacity_exhausted"⟩
  let outboxCount ← fetch (fits 16 completion.intents.length)
    ⟨.outOfRange, "outbox_ordinal_overflow"⟩
  let receipt : CommandReceipt := ⟨completion.command, completion.fingerprint, completion.actor,
    completion.revision, completion.outcome, outboxCount⟩
  let outbox ← insertIntents completion.command candidate.outbox 0 completion.intents
  let candidate := { candidate with
    revision := completion.revision
    receipts := candidate.receipts.insert completion.command receipt
    outbox := outbox }
  candidate.validateInvariants
  return (receipt, candidate)

end SocialRegistry

end Social
