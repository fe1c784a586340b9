import TrillionniumGame.Social.Graph

namespace Social
open Checks FiniteMap
open Identity (AccountId)

theorem NotificationText.nonempty (text : NotificationText) : text.value ≠ "" := by
  have hvalid := text.valid
  simp only [Bool.and_eq_true, decide_eq_true_eq] at hvalid
  exact hvalid.1.1

namespace SocialRegistry

variable {r m : SocialRegistry} {receipt : CommandReceipt} {payload : OutboxIntentPayload}

structure Extends (r m : SocialRegistry) : Prop where
  config : m.config = r.config
  users : r.users ⊆ m.users
  groups : ∀ group ∈ r.groups, group ∈ m.groups
  messages : ∀ group message stored, r.storedMessage group message = some stored →
    m.storedMessage group message = some stored

theorem PayloadHolds.mono (h : r.PayloadHolds receipt payload) (hm : Extends r m) :
    m.PayloadHolds receipt payload := by
  have hlimits : m.limits = r.limits := by rw [limits, limits, hm.config]
  cases payload with
  | friendRequest requester target | friendAccepted accepter requester =>
    exact ⟨hm.users h.1, hm.users h.2.1, h.2.2⟩
  | groupJoinRequested group requester => exact ⟨hm.users h.1, hm.groups group h.2⟩
  | groupJoinAccepted group actor member | groupRoleChanged group actor member role =>
    exact ⟨hm.users h.1, hm.users h.2.1, hm.groups group h.2.2⟩
  | chatMessage group message sender sequence body =>
    obtain ⟨hsender, hsequence, hbody, hlength, hstored⟩ := h
    refine ⟨hm.users hsender, hsequence, hbody, hlimits ▸ hlength, ?_⟩
    cases hfound : r.storedMessage group message with
    | none =>
      rw [hfound] at hstored
      cases hstored
    | some stored =>
      rw [hm.messages group message stored hfound]
      rw [hfound] at hstored
      exact hstored
  | notificationDelivery sender recipient notification kind subject content sequence =>
    obtain ⟨hrecipient, hsender, hsequence, hsubject, hcontent, hlengths⟩ := h
    exact ⟨hm.users hrecipient, fun account haccount => hm.users (hsender account haccount), hsequence,
      hsubject, hcontent, hlimits ▸ hlengths⟩

theorem Lawful.outbox_kept (h : Lawful r) (hm : Extends r m) (hreceipts : m.receipts = r.receipts)
    (id : OutboxIntentId) (intent : OutboxIntent) (hintent : r.outbox.lookup id = some intent) :
    m.IntentHolds id intent := by
  obtain ⟨hmatches, hid, hordinal, hpayload⟩ := h.outbox id intent hintent
  rw [IntentHolds, hreceipts]
  exact ⟨hmatches, hid, hordinal, fun receipt hreceipt => (hpayload receipt hreceipt).mono hm⟩

theorem Lawful.graph_changed (h : Lawful r) {friendships : Finset UserPair}
    {friendRequests blocks : Finset (AccountId × AccountId)}
    (hgraph : Graph { r with
      friendships := friendships, friendRequests := friendRequests, blocks := blocks }) :
    Lawful { r with
      friendships := friendships, friendRequests := friendRequests, blocks := blocks } := by
  refine ⟨h.sizes, hgraph.holds, h.groups, fun id group hgroup => ?_, h.messages, h.inboxes,
    h.receipts, h.owned, h.outbox_kept ⟨rfl, Finset.Subset.refl _, fun _ => id, fun _ _ _ => id⟩ rfl⟩
  obtain ⟨messages, hhistory⟩ := h.histories id group hgroup
  exact ⟨messages, hhistory.1, hhistory.2, hhistory.3, hhistory.4, hhistory.5⟩

theorem Lawful.registered (h : Lawful r) {account : AccountId} (hnew : account ∉ r.users)
    (hroom : r.users.card < r.limits.maxUsers) :
    Lawful { r with users := insert account r.users } := by
  obtain ⟨-, hgroups, hreceipts, hintents⟩ := h.sizes
  have hmore := Finset.subset_insert account r.users
  refine ⟨⟨(Finset.card_insert_le _ _).trans hroom, hgroups, hreceipts, hintents⟩,
    (h.graph.graph.registered hnew).holds, fun id group hgroup => ?_, fun id group hgroup => ?_,
    h.messages, fun recipient records hrecords => ?_, fun command receipt hreceipt => ?_, h.owned,
    h.outbox_kept ⟨rfl, hmore, fun _ => id, fun _ _ _ => id⟩ rfl⟩
  · obtain ⟨hshape, hpeople⟩ := groupHolds_iff.mp (h.groups id group hgroup)
    refine groupHolds_iff.mpr ⟨⟨hshape.1, hshape.2, hshape.3⟩, hpeople.room, hpeople.led,
      fun account haccount => ?_, fun account haccount => ?_,
      fun account haccount => hmore (hpeople.banned account haccount)⟩
    · obtain ⟨hin, hrest⟩ := hpeople.members account haccount
      exact ⟨hmore hin, hrest⟩
    · obtain ⟨hin, hrest⟩ := hpeople.requests account haccount
      exact ⟨hmore hin, hrest⟩
  · obtain ⟨messages, hhistory⟩ := h.histories id group hgroup
    refine ⟨messages, hhistory.1, hhistory.2, fun message hmessage => ?_, hhistory.4, hhistory.5⟩
    obtain ⟨howner, hsender, hrest⟩ := hhistory.holds message hmessage
    exact ⟨howner, hmore hsender, hrest⟩
  · obtain ⟨hrecipient, hcard, hholds⟩ := h.inboxes recipient records hrecords
    refine ⟨hmore hrecipient, hcard, each_iff.mpr fun id record hrecord => ?_⟩
    obtain ⟨hid, howner, hnonzero, hrevision, hsubject, hcontent, hshort, hshort', hsender⟩ :=
      each_iff.mp hholds id record hrecord
    exact ⟨hid, howner, hnonzero, hrevision, hsubject, hcontent, hshort, hshort',
      fun sender hin => hmore (hsender sender hin)⟩
  · obtain ⟨hcommand, hactor, hrest⟩ := h.receipts command receipt hreceipt
    exact ⟨hcommand, hmore hactor, hrest⟩

theorem Lawful.inboxes_changed (h : Lawful r)
    {notifications : Dict AccountId (Dict NotificationId NotificationRecord)}
    (hinboxes : ∀ recipient records, notifications.lookup recipient = some records →
      r.InboxHolds recipient records) :
    Lawful { r with notifications := notifications } := by
  refine ⟨h.sizes, h.graph, h.groups, fun id group hgroup => ?_, h.messages, hinboxes, h.receipts,
    h.owned, h.outbox_kept ⟨rfl, Finset.Subset.refl _, fun _ => id, fun _ _ _ => id⟩ rfl⟩
  obtain ⟨messages, hhistory⟩ := h.histories id group hgroup
  exact ⟨messages, hhistory.1, hhistory.2, hhistory.3, hhistory.4, hhistory.5⟩

variable {groupId : GroupId} {group : GroupRecord} {messages : List ChatMessage}

theorem Lawful.group_changed (h : Lawful r) {groups : Dict GroupId GroupRecord}
    {history : Dict GroupId (List ChatMessage)} (hgroups : groups = r.groups.insert groupId group)
    (hhistory : history = r.messages.insert groupId messages)
    (hsize : (groups.keys).card ≤ r.limits.maxGroups) (hholds : r.GroupHolds groupId group)
    (hmessages : History { r with groups := groups, messages := history } groupId group messages)
    (hstored : ∀ message stored, r.storedMessage groupId message = some stored →
      messages.find? (·.id = message) = some stored) :
    Lawful { r with groups := groups, messages := history } := by
  obtain ⟨husers, -, hreceipts, hintents⟩ := h.sizes
  refine ⟨⟨husers, hsize, hreceipts, hintents⟩, h.graph, fun id other hother => ?_,
    fun id other hother => ?_, fun id found hfound => ?_, h.inboxes, h.receipts, h.owned,
    h.outbox_kept ⟨rfl, Finset.Subset.refl _, fun id hid => ?_, fun id message stored hfound => ?_⟩
      rfl⟩
  · dsimp only at hother
    rw [hgroups, lookup_insert_ite] at hother
    split at hother
    · next heq =>
      cases hother
      exact heq ▸ hholds
    · exact h.groups id other hother
  · dsimp only at hother
    rw [hgroups, lookup_insert_ite] at hother
    split at hother
    · next heq =>
      subst heq
      cases hother
      exact ⟨messages, hmessages⟩
    · next hne =>
      obtain ⟨found, hold⟩ := h.histories id other hother
      refine ⟨found, ?_, hold.2, hold.3, hold.4, hold.5⟩
      dsimp only
      rw [hhistory, Finmap.lookup_insert_of_ne _ hne, hold.stored]
  · dsimp only at hfound ⊢
    rw [hhistory, lookup_insert_ite] at hfound
    rw [hgroups, Finmap.mem_insert]
    split at hfound
    · next heq => exact .inl heq
    · exact .inr (h.messages id found hfound)
  · dsimp only
    rw [hgroups, Finmap.mem_insert]
    exact .inr hid
  · rw [storedMessage] at hfound ⊢
    dsimp only
    rw [hhistory, lookup_insert_ite]
    split
    · next heq =>
      subst heq
      exact hstored message stored hfound
    · exact hfound

inductive Effect (r : SocialRegistry) :
    SocialOperation → SocialRegistry → ReceiptOutcome → List OutboxIntentPayload → Prop
  | requested (actor target : AccountId) (hne : actor ≠ target) (hactor : actor ∈ r.users)
      (htarget : target ∈ r.users) (hnone : r.hasRelationshipPair actor target = false)
      (hroom : Roomy r actor target) :
      Effect r (.sendFriendRequest actor target)
        { r with friendRequests := insert (actor, target) r.friendRequests }
        .friendRequestSent [.friendRequest actor target]
  | accepted (actor requester : AccountId) (pair : UserPair) (hjoins : pair.Joins actor requester)
      (hactor : actor ∈ r.users) (hrequest : (requester, actor) ∈ r.friendRequests) :
      Effect r (.acceptFriendRequest actor requester)
        { r with
          friendRequests := r.friendRequests.erase (requester, actor)
          friendships := insert pair r.friendships }
        .friendRequestAccepted [.friendAccepted actor requester]
  | unfriended (actor target : AccountId) (pair : UserPair) (hactor : actor ∈ r.users) :
      Effect r (.removeFriend actor target) { r with friendships := r.friendships.erase pair }
        .friendRemoved []
  | blocked (actor target : AccountId) (pair : UserPair) (hjoins : pair.Joins actor target)
      (hactor : actor ∈ r.users) (htarget : target ∈ r.users) (hroom : Roomy r actor target) :
      Effect r (.blockUser actor target)
        { r with
          friendships := r.friendships.erase pair
          friendRequests := (r.friendRequests.erase (actor, target)).erase (target, actor)
          blocks := insert (actor, target) r.blocks }
        .userBlocked []
  | unblocked (actor target : AccountId) (hactor : actor ∈ r.users) :
      Effect r (.unblockUser actor target) { r with blocks := r.blocks.erase (actor, target) }
        .userUnblocked []
  | created (request : CreateGroupRequest) (hcreator : request.creator ∈ r.users)
      (hroom : r.groups.keys.card < r.limits.maxGroups) (hnew : request.group ∉ r.groups)
      (hlimit : request.maxMembers ≠ 0 ∧ request.maxMembers ≤ r.limits.maxGroupMembers) :
      Effect r (.createGroup request)
        { r with
          groups := r.groups.insert request.group ⟨request.group, request.name, request.joinMode,
            request.maxMembers, 1, Finmap.singleton request.creator .superadmin, ∅, ∅, 1⟩
          messages := r.messages.insert request.group [] }
        .groupCreated []
  | moved (operation : SocialOperation) (groupId : GroupId) (group group' : GroupRecord)
      (outcome : ReceiptOutcome) (intents : List OutboxIntentPayload)
      (hgroup : r.groups.lookup groupId = some group)
      (hmove : GroupMove r.users groupId group operation group' outcome intents) :
      Effect r operation { r with groups := r.groups.insert groupId group' } outcome intents
  | posted (request : SendGroupMessageRequest) (group : GroupRecord) (messages : List ChatMessage)
      (hsender : request.sender ∈ r.users) (hgroup : r.groups.lookup request.group = some group)
      (hmember : request.sender ∈ group.members)
      (hlength : request.body.len ≤ r.limits.maxMessageBytes)
      (hstored : r.messages.lookup request.group = some messages)
      (hroom : messages.length < r.limits.maxMessagesPerGroup)
      (hnew : ∀ message ∈ messages, message.id ≠ request.message) :
      Effect r (.sendGroupMessage request)
        { r with
          groups := r.groups.insert request.group
            { group with nextMessageSequence := group.nextMessageSequence + 1 }
          messages := r.messages.insert request.group (messages ++ [⟨request.message, request.group,
            request.sender, group.nextMessageSequence, request.body⟩]) }
        .chatMessageSent [.chatMessage request.group request.message request.sender
          group.nextMessageSequence request.body]
  | notified (request : CreateNotificationRequest)
      (records : Dict NotificationId NotificationRecord)
      (hrecords : (r.notifications.lookup request.recipient).getD ∅ = records)
      (hrecipient : request.recipient ∈ r.users)
      (hsender : ∀ sender ∈ request.sender, sender ∈ r.users)
      (hshort : request.subject.len ≤ r.limits.maxNotificationTextBytes ∧
        request.content.len ≤ r.limits.maxNotificationTextBytes)
      (hnew : request.notification ∉ records)
      (hroom : records.keys.card < r.limits.maxNotificationsPerUser) :
      Effect r (.createNotification request)
        { r with notifications :=
            r.notifications.insert request.recipient (records.insert request.notification
              ⟨request.notification, request.sender, request.recipient, request.kind,
                request.subject, request.content, r.revision + 1, false⟩) }
        .notificationCreated [.notificationDelivery request.sender request.recipient
          request.notification request.kind request.subject request.content (r.revision + 1)]
  | markedRead (recipient : AccountId) (notification : NotificationId)
      (records : Dict NotificationId NotificationRecord) (record : NotificationRecord)
      (hrecipient : recipient ∈ r.users) (hrecords : r.notifications.lookup recipient = some records)
      (hrecord : records.lookup notification = some record) :
      Effect r (.markNotificationRead recipient notification)
        { r with notifications :=
            r.notifications.insert recipient (records.insert notification { record with read := true }) }
        .notificationMarkedRead []
  | deleted (recipient : AccountId) (notification : NotificationId)
      (records : Dict NotificationId NotificationRecord) (hrecipient : recipient ∈ r.users)
      (hrecords : r.notifications.lookup recipient = some records) :
      Effect r (.deleteNotification recipient notification)
        { r with notifications :=
            if records.erase notification = ∅ then r.notifications.erase recipient
            else r.notifications.insert recipient (records.erase notification) }
        .notificationDeleted []

variable {operation : SocialOperation} {outcome : ReceiptOutcome}
  {intents : List OutboxIntentPayload}

theorem Effect.candidate (h : Effect r operation m outcome intents) : Candidate r m := by
  cases h with
  | requested | accepted | unfriended | blocked | unblocked | created | moved | posted | notified
  | markedRead | deleted => exact ⟨rfl, rfl, rfl⟩

theorem Lawful.created (h : Lawful r) {request : CreateGroupRequest}
    (hcreator : request.creator ∈ r.users) (hroom : r.groups.keys.card < r.limits.maxGroups)
    (hnew : request.group ∉ r.groups)
    (hlimit : request.maxMembers ≠ 0 ∧ request.maxMembers ≤ r.limits.maxGroupMembers) :
    Lawful { r with
      groups := r.groups.insert request.group ⟨request.group, request.name, request.joinMode,
        request.maxMembers, 1, Finmap.singleton request.creator .superadmin, ∅, ∅, 1⟩
      messages := r.messages.insert request.group [] } := by
  have hsize : Finmap.keys (Finmap.singleton request.creator .superadmin : Dict AccountId GroupRole) =
      {request.creator} := Finmap.keys_singleton _ _
  refine h.group_changed rfl rfl ?_ (groupHolds_iff.mpr ⟨⟨rfl, hlimit, Nat.one_ne_zero⟩, ?_⟩)
    ⟨Finmap.lookup_insert _, Nat.zero_le _, nofun, ⟨rfl, List.nodup_nil⟩, rfl⟩ ?_
  · rw [keys_insert]
    exact (Finset.card_insert_le _ _).trans hroom
  · refine ⟨?_, ⟨request.creator, Finmap.lookup_singleton_eq⟩, fun account haccount => ?_, nofun, nofun⟩
    · dsimp only
      rw [hsize, Finset.card_singleton]
      exact Nat.pos_of_ne_zero hlimit.1
    · have heq : account = request.creator := (Finmap.mem_singleton ..).mp haccount
      exact ⟨heq ▸ hcreator, Finset.notMem_empty _, Finset.notMem_empty _⟩
  · intro message stored hfound
    rw [storedMessage] at hfound
    cases hmessages : r.messages.lookup request.group with
    | none =>
      rw [hmessages] at hfound
      cases hfound
    | some messages => exact absurd (h.messages _ messages hmessages) hnew

theorem Lawful.moved (h : Lawful r) {group' : GroupRecord}
    (hgroup : r.groups.lookup groupId = some group)
    (hmove : GroupMove r.users groupId group operation group' outcome intents) :
    Lawful { r with groups := r.groups.insert groupId group' } := by
  obtain ⟨messages, hhistory⟩ := h.histories groupId group hgroup
  obtain ⟨hshape, hpeople⟩ := groupHolds_iff.mp (h.groups groupId group hgroup)
  obtain ⟨hshape', hnext⟩ := hshape.moved hmove
  have hsame := (insert_of_lookup hhistory.stored).symm
  refine h.group_changed rfl hsame ?_ (groupHolds_iff.mpr ⟨hshape', hpeople.moved hmove⟩)
    ⟨hhistory.stored, hhistory.room, hhistory.holds, hhistory.numbered, hnext.trans hhistory.next⟩ ?_
  · rw [keys_insert, Finset.insert_eq_self.mpr (Finmap.mem_keys.mpr (mem_of_lookup hgroup))]
    exact h.sizes.2.1
  · intro message stored hfound
    rw [storedMessage, hhistory.stored] at hfound
    exact hfound

theorem Numbered.append {message : ChatMessage} (h : Numbered messages)
    (hsequence : message.sequence = messages.length + 1)
    (hnew : ∀ earlier ∈ messages, earlier.id ≠ message.id) : Numbered (messages ++ [message]) := by
  constructor
  · rw [List.map_append, h.sequences, List.length_append, List.length_singleton, List.map_singleton,
      hsequence, List.range'_1_concat, Nat.add_comm 1]
  · rw [List.map_append, List.map_singleton, List.nodup_append]
    refine ⟨h.ids, List.nodup_singleton _, fun id hid last hlast => ?_⟩
    obtain ⟨earlier, hearlier, rfl⟩ := List.mem_map.mp hid
    rw [List.mem_singleton.mp hlast]
    exact hnew earlier hearlier

theorem Lawful.posted (h : Lawful r) {request : SendGroupMessageRequest}
    (hsender : request.sender ∈ r.users) (hgroup : r.groups.lookup request.group = some group)
    (hlength : request.body.len ≤ r.limits.maxMessageBytes)
    (hstored : r.messages.lookup request.group = some messages)
    (hroom : messages.length < r.limits.maxMessagesPerGroup)
    (hnew : ∀ message ∈ messages, message.id ≠ request.message) :
    Lawful { r with
      groups := r.groups.insert request.group
        { group with nextMessageSequence := group.nextMessageSequence + 1 }
      messages := r.messages.insert request.group (messages ++ [⟨request.message, request.group,
        request.sender, group.nextMessageSequence, request.body⟩]) } := by
  obtain ⟨found, hhistory⟩ := h.histories request.group group hgroup
  cases Option.mem_unique hstored hhistory.stored
  obtain ⟨hshape, hpeople⟩ := groupHolds_iff.mp (h.groups request.group group hgroup)
  refine h.group_changed rfl rfl ?_ (groupHolds_iff.mpr ⟨⟨hshape.id, hshape.limit, Nat.succ_ne_zero _⟩,
    ⟨hpeople.room, hpeople.led, hpeople.members, hpeople.requests, hpeople.banned⟩⟩)
    ⟨Finmap.lookup_insert _, ?_, ?_, hhistory.numbered.append hhistory.next hnew, ?_⟩ ?_
  · rw [keys_insert, Finset.insert_eq_self.mpr (Finmap.mem_keys.mpr (mem_of_lookup hgroup))]
    exact h.sizes.2.1
  · rw [List.length_append, List.length_singleton]
    exact hroom
  · intro message hmessage
    rcases List.mem_append.mp hmessage with hold | hlast
    · exact hhistory.holds message hold
    · rw [List.mem_singleton.mp hlast]
      exact ⟨rfl, hsender, request.body.valid.1, hlength⟩
  · rw [List.length_append, List.length_singleton, hhistory.next]
  · intro message stored hfound
    rw [storedMessage, hstored] at hfound
    rw [List.find?_append]
    exact Option.or_eq_some_iff.mpr (.inl hfound)

variable {recipient : AccountId} {records : Dict NotificationId NotificationRecord}

theorem Lawful.inbox_changed (h : Lawful r) (hholds : r.InboxHolds recipient records) :
    Lawful { r with notifications := r.notifications.insert recipient records } := by
  refine h.inboxes_changed fun owner found hfound => ?_
  rw [lookup_insert_ite] at hfound
  split at hfound
  · next heq =>
    cases hfound
    exact heq ▸ hholds
  · exact h.inboxes owner found hfound

theorem InboxHolds.inserted {id : NotificationId} {record : NotificationRecord}
    (hrecipient : recipient ∈ r.users)
    (hroom : (records.insert id record).keys.card ≤ r.limits.maxNotificationsPerUser)
    (hholds : ∀ id record, records.lookup id = some record → r.NotificationHolds recipient id record)
    (hrecord : r.NotificationHolds recipient id record) :
    r.InboxHolds recipient (records.insert id record) :=
  ⟨hrecipient, hroom, each_insert (fun id' record' hfound _ => hholds id' record' hfound) hrecord⟩

theorem Lawful.inbox_holds (h : Lawful r)
    (hrecords : (r.notifications.lookup recipient).getD ∅ = records) (id : NotificationId)
    (record : NotificationRecord) (hrecord : records.lookup id = some record) :
    r.NotificationHolds recipient id record := by
  cases hfound : r.notifications.lookup recipient with
  | none =>
    rw [hfound, Option.getD_none] at hrecords
    rw [← hrecords, Finmap.lookup_empty] at hrecord
    cases hrecord
  | some found =>
    rw [hfound, Option.getD_some] at hrecords
    obtain ⟨-, -, hholds⟩ := h.inboxes recipient found hfound
    exact each_iff.mp hholds id record (hrecords ▸ hrecord)

theorem Lawful.affected (h : Lawful r) (heffect : Effect r operation m outcome intents) :
    Lawful { m with revision := r.revision + 1 } := by
  have hlater := h.later (Nat.le_succ r.revision)
  cases heffect with
  | requested actor target hne hactor htarget hnone hroom =>
    exact hlater.graph_changed (hlater.graph.graph.requested hne hactor htarget hnone hroom)
  | accepted actor requester pair hjoins hactor hrequest =>
    exact hlater.graph_changed (hlater.graph.graph.accepted hjoins hrequest)
  | unfriended actor target pair hactor => exact hlater.graph_changed hlater.graph.graph.unfriended
  | blocked actor target pair hjoins hactor htarget hroom =>
    exact hlater.graph_changed (hlater.graph.graph.blocked hactor htarget hjoins hroom)
  | unblocked actor target hactor => exact hlater.graph_changed hlater.graph.graph.unblocked
  | created request hcreator hroom hnew hlimit => exact hlater.created hcreator hroom hnew hlimit
  | moved operation groupId group group' outcome intents hgroup hmove =>
    exact hlater.moved hgroup hmove
  | posted request group messages hsender hgroup hmember hlength hstored hroom hnew =>
    exact hlater.posted hsender hgroup hlength hstored hroom hnew
  | notified request records hrecords hrecipient hsender hshort hnew hroom =>
    refine hlater.inbox_changed (.inserted hrecipient ?_ (hlater.inbox_holds hrecords) ?_)
    · rw [keys_insert]
      exact (Finset.card_insert_le _ _).trans hroom
    · exact ⟨rfl, rfl, Nat.succ_ne_zero _, le_rfl, request.subject.nonempty,
        request.content.nonempty, hshort.1, hshort.2, hsender⟩
  | markedRead recipient notification records record hrecipient hrecords hrecord =>
    obtain ⟨-, hcard, hholds⟩ := hlater.inboxes recipient records hrecords
    have hall := each_iff.mp hholds
    refine hlater.inbox_changed (.inserted hrecipient ?_ hall (hall notification record hrecord))
    rw [keys_insert, Finset.insert_eq_self.mpr (Finmap.mem_keys.mpr (mem_of_lookup hrecord))]
    exact hcard
  | deleted recipient notification records hrecipient hrecords =>
    obtain ⟨-, hcard, hholds⟩ := hlater.inboxes recipient records hrecords
    split
    · refine hlater.inboxes_changed fun owner found hfound => ?_
      rw [lookup_erase_ite] at hfound
      split at hfound
      · cases hfound
      · exact hlater.inboxes owner found hfound
    · refine hlater.inbox_changed ⟨hrecipient, ?_, each_iff.mpr fun id record hrecord => ?_⟩
      · rw [Finmap.keys_erase]
        exact Finset.card_erase_le.trans hcard
      · rw [lookup_erase_ite] at hrecord
        split at hrecord
        · cases hrecord
        · exact each_iff.mp hholds id record hrecord

def completionOf (r : SocialRegistry) (command : SocialCommandId) (fingerprint : CommandFingerprint)
    (operation : SocialOperation) (outcome : ReceiptOutcome) (intents : List OutboxIntentPayload) :
    CommandCompletion :=
  ⟨command, fingerprint, operation.actor, r.revision + 1, outcome, intents⟩

variable (h : Effect r operation m outcome intents)
include h

theorem Effect.actor_mem : operation.actor ∈ m.users := by
  cases h with
  | requested actor target hne hactor | accepted actor requester pair hjoins hactor
  | unfriended actor target pair hactor | blocked actor target pair hjoins hactor
  | unblocked actor target hactor => exact hactor
  | created request hcreator => exact hcreator
  | moved operation groupId group group' outcome intents hgroup hmove =>
    cases hmove with
    | joined actor revision hknown | asked actor revision hknown
    | left actor current revision hknown => exact hknown
    | approved actor target revision hknown | roleChanged actor target current role revision hknown
    | banned actor target revision hknown | unbanned actor target revision hknown => exact hknown.1
  | posted request group messages hsender => exact hsender
  | notified request records hrecords hrecipient hsender =>
    change request.sender.getD request.recipient ∈ r.users
    cases hcase : request.sender with
    | none => exact hrecipient
    | some sender => exact hsender sender hcase
  | markedRead recipient notification records record hrecipient
  | deleted recipient notification records hrecipient => exact hrecipient

theorem Effect.payloads (hlawful : Lawful r) (hactor : receipt.actor = operation.actor)
    (hrevision : receipt.revision = r.revision + 1) (houtcome : receipt.outcome = outcome) :
    ∀ payload ∈ intents, payload.matchesReceipt receipt = true ∧ m.PayloadHolds receipt payload := by
  cases h with
  | requested actor target hne hknown htarget =>
    refine List.forall_mem_singleton.mpr ⟨?_, hknown, htarget, hne⟩
    simp [OutboxIntentPayload.matchesReceipt, hactor, houtcome, SocialOperation.actor]
  | accepted actor requester pair hjoins hknown hrequest =>
    obtain ⟨⟨hne, hrequester, -⟩, -⟩ := hlawful.graph.graph.requests requester actor hrequest
    refine List.forall_mem_singleton.mpr ⟨?_, hknown, hrequester, hne.symm⟩
    simp [OutboxIntentPayload.matchesReceipt, hactor, houtcome, SocialOperation.actor]
  | unfriended | blocked | unblocked | created | markedRead | deleted => exact List.forall_mem_nil _
  | moved operation groupId group group' outcome intents hgroup hmove =>
    have hin : groupId ∈ r.groups.insert groupId group' := Finmap.mem_insert.mpr (.inl rfl)
    cases hmove with
    | joined actor revision hknown =>
      refine List.forall_mem_singleton.mpr ⟨?_, hknown, hknown, hin⟩
      simp [OutboxIntentPayload.matchesReceipt, hactor, houtcome, SocialOperation.actor]
    | asked actor revision hknown =>
      refine List.forall_mem_singleton.mpr ⟨?_, hknown, hin⟩
      simp [OutboxIntentPayload.matchesReceipt, hactor, houtcome, SocialOperation.actor]
    | approved actor target revision hknown
    | roleChanged actor target current role revision hknown =>
      refine List.forall_mem_singleton.mpr ⟨?_, hknown.1, hknown.2, hin⟩
      simp [OutboxIntentPayload.matchesReceipt, hactor, houtcome, SocialOperation.actor]
    | left | banned | unbanned => exact List.forall_mem_nil _
  | posted request group messages hsender hgroup hmember hlength hstored hroom hnew =>
    obtain ⟨hshape, -⟩ := groupHolds_iff.mp (hlawful.groups request.group group hgroup)
    have hnone : messages.find? (·.id = request.message) = none :=
      List.find?_eq_none.mpr fun message hmessage => by simpa using hnew message hmessage
    refine List.forall_mem_singleton.mpr ⟨?_, hsender, hshape.next, request.body.valid.1, hlength, ?_⟩
    · simp [OutboxIntentPayload.matchesReceipt, hactor, houtcome, SocialOperation.actor]
    · rw [storedMessage, Finmap.lookup_insert, Option.bind_some, List.find?_append, hnone]
      simp
  | notified request records hrecords hrecipient hsender hshort hnew hroom =>
    refine List.forall_mem_singleton.mpr ⟨?_, hrecipient, hsender, hrevision.symm,
      request.subject.nonempty, request.content.nonempty, hshort⟩
    simp [OutboxIntentPayload.matchesReceipt, hactor, houtcome, SocialOperation.actor]

theorem Effect.ready (hlawful : Lawful r) {command : SocialCommandId}
    (fingerprint : CommandFingerprint) (hfresh : r.receipts.lookup command = none) :
    Ready m (r.completionOf command fingerprint operation outcome intents) :=
  ⟨by rw [h.candidate.receipts]; exact hfresh, Nat.succ_ne_zero _, h.actor_mem,
    h.payloads hlawful rfl rfl rfl⟩

end SocialRegistry

end Social
