import TrillionniumGame.Social.Invariants

namespace Social
open Checks FiniteMap Runs Paging
open Identity (AccountId)

namespace SocialRegistry

inductive Session {C α : Type}
    (list : SocialRegistry → Option C → Nat → Except SocialError (List α × Option C)) :
    Option C → SocialRegistry → List (SocialRegistry × List α) → Option C → Prop
  | last {cursor next : Option C} {r : SocialRegistry} {limit : Nat} {values : List α}
      (hpage : list r cursor limit = .ok (values, next)) :
      Session list cursor r [(r, values)] next
  | more {cursor final : Option C} {next : C} {r r' : SocialRegistry} {limit : Nat}
      {values : List α} {requests : List SocialRequest} {reads : List (SocialRegistry × List α)}
      (hpage : list r cursor limit = .ok (values, some next))
      (hrun : Run socialRegistry r requests r') (hreads : Session list (some next) r' reads final) :
      Session list cursor r ((r, values) :: reads) final

section Sessions
variable {C α κ : Type} [LinearOrder κ]
  {list : SocialRegistry → Option C → Nat → Except SocialError (List α × Option C)} {key : α → κ}
  {position : C → κ} {present : SocialRegistry → Set α} {cursor final : Option C}
  {r : SocialRegistry} {reads : List (SocialRegistry × List α)}

def Pages (list : SocialRegistry → Option C → Nat → Except SocialError (List α × Option C))
    (key : α → κ) (position : C → κ) (present : SocialRegistry → Set α) (r : SocialRegistry) : Prop :=
  ∀ cursor limit values next, list r cursor limit = .ok (values, next) → 0 < limit ∧
    ∃ rest, Remaining key (present r) (cursor.map position) rest ∧ values = (cut rest limit).1 ∧
      next.map position = (cut rest limit).2.map key

variable (h : Session list cursor r reads final)
include h

theorem Session.run : ∀ read ∈ reads, ∃ requests, Run socialRegistry r requests read.1 := by
  induction h with
  | last hpage =>
    intro read hread
    cases List.mem_singleton.mp hread
    exact ⟨[], .nil _⟩
  | more hpage hrun hreads ih =>
    intro read hread
    rcases List.mem_cons.mp hread with rfl | hlater
    · exact ⟨[], .nil _⟩
    · obtain ⟨requests, hrest⟩ := ih read hlater
      exact ⟨_, hrun.append hrest⟩

theorem Session.followed (hreach : Reachable socialRegistry r)
    (hpages : ∀ r, Reachable socialRegistry r → Pages list key position present r) :
    Followed key (cursor.map position) (reads.map fun read => (present read.1, read.2))
      (final.map position) := by
  induction h with
  | last hpage =>
    obtain ⟨hlimit, rest, hrest, rfl, hnext⟩ := hpages _ hreach _ _ _ _ hpage
    rw [hnext]
    exact .last hrest hlimit
  | more hpage hrun hreads ih =>
    obtain ⟨hlimit, rest, hrest, rfl, hnext⟩ := hpages _ hreach _ _ _ _ hpage
    exact .more hrest hlimit hnext.symm (ih (hreach.run hrun))

theorem Session.pairwise (hreach : Reachable socialRegistry r)
    (hpages : ∀ r, Reachable socialRegistry r → Pages list key position present r) :
    (reads.flatMap (·.2)).Pairwise fun a b => key a < key b := by
  have hordered := (h.followed hreach hpages).ordered
  rwa [listed, List.flatMap_map] at hordered

theorem Session.listed_present (hreach : Reachable socialRegistry r)
    (hpages : ∀ r, Reachable socialRegistry r → Pages list key position present r) :
    ∀ read ∈ reads, ∀ a ∈ read.2, a ∈ present read.1 := fun _ hread a ha =>
  (h.followed hreach hpages).listed_present _ (List.mem_map_of_mem hread) a ha

theorem Session.runs :
    reads.Pairwise fun earlier later => ∃ requests, Run socialRegistry earlier.1 requests later.1 := by
  induction h with
  | last hpage => exact List.pairwise_singleton _ _
  | more hpage hrun hreads ih =>
    refine List.pairwise_cons.mpr ⟨fun read hread => ?_, ih⟩
    obtain ⟨requests, hrest⟩ := hreads.run read hread
    exact ⟨_, hrun.append hrest⟩

end Sessions

variable {r r' : SocialRegistry} {request : SocialRequest} {owner : AccountId} {group : GroupId}

def friendPages (owner : AccountId) (r : SocialRegistry) (cursor : Option FriendCursor)
    (limit : Nat) : Except SocialError (List AccountId × Option FriendCursor) :=
  (r.listFriends owner cursor limit).map fun page => (page.items, page.next)

def messagePages (group : GroupId) (r : SocialRegistry) (cursor : Option MessageCursor)
    (limit : Nat) : Except SocialError (List ChatMessage × Option MessageCursor) :=
  (r.listGroupMessages group cursor limit).map fun page => (page.items, page.next)

def notificationPages (recipient : AccountId) (r : SocialRegistry)
    (cursor : Option NotificationCursor) (limit : Nat) :
    Except SocialError (List NotificationRecord × Option NotificationCursor) :=
  (r.listNotifications recipient cursor limit).map fun page => (page.items, page.next)

theorem validatePageLimit_ok {limit : Nat} {u : Unit} (h : validatePageLimit limit = .ok u) :
    0 < limit := Nat.pos_of_ne_zero (require_ok.mp h).1

def friendSet (owner : AccountId) (r : SocialRegistry) : Set AccountId :=
  {account | r.areFriends owner account = true}

theorem friend_pages (owner : AccountId) (r : SocialRegistry) :
    Pages (friendPages owner) id FriendCursor.after (friendSet owner) r := by
  intro cursor limit values next hpage
  obtain ⟨page, hpage, heq⟩ := map_ok.mp hpage
  simp only [listFriends, bind_ok, ensureKnownUser, require_ok, exists_const] at hpage
  obtain ⟨-, ⟨⟩, hlimit, after, hafter, hresult⟩ := hpage
  cases hresult
  cases heq
  have hcursor : cursor.map FriendCursor.after = after := by
    cases cursor with
    | none => exact Except.ok.inj hafter
    | some cursor =>
      obtain ⟨-, -, hafter⟩ := bind_ok.mp hafter
      exact Except.ok.inj hafter
  refine ⟨validatePageLimit_ok hlimit, _, ⟨?_, fun account => ?_⟩, rfl, ?_⟩
  · refine pairwise_sorted (Multiset.Nodup.filter _ (Multiset.Nodup.filterMap _ ?_ r.friendships.nodup))
    intro pair pair' account hpair hpair'
    exact (UserPair.other_iff.mp hpair).unique (UserPair.other_iff.mp hpair')
  · rw [mem_sorted, Multiset.mem_filter, Multiset.mem_filterMap, hcursor, friendSet, Set.mem_ofPred_eq,
      areFriends_iff]
    simp only [UserPair.other_iff, Finset.mem_val, id_eq]
  · rw [Option.map_map]
    rfl

def historySet (group : GroupId) (r : SocialRegistry) : Set ChatMessage :=
  {message | message ∈ (r.messages.lookup group).getD []}

variable {messages : List ChatMessage}

theorem Numbered.pairwise (h : Numbered messages) :
    messages.Pairwise fun a b => a.sequence < b.sequence := by
  rw [← List.pairwise_map (f := ChatMessage.sequence) (R := fun a b => a < b), h.sequences]
  exact List.pairwise_lt_range'

theorem Numbered.positive (h : Numbered messages) {message : ChatMessage}
    (hmessage : message ∈ messages) :
    1 ≤ message.sequence ∧ message.sequence ≤ messages.length := by
  have hin := List.mem_map_of_mem (f := ChatMessage.sequence) hmessage
  rw [h.sequences, List.mem_range'_1] at hin
  omega

theorem message_pages (group : GroupId) (h : Lawful r) :
    Pages (messagePages group) ChatMessage.sequence MessageCursor.sequence (historySet group) r := by
  intro cursor limit values next hpage
  obtain ⟨page, hpage, heq⟩ := map_ok.mp hpage
  simp only [listGroupMessages, bind_ok, requireGroup, fetch_ok] at hpage
  obtain ⟨⟨⟩, hlimit, record, hrecord, after, hafter, messages, hmessages, hresult⟩ := hpage
  cases hresult
  cases heq
  obtain ⟨found, hhistory⟩ := h.histories group record hrecord
  cases Option.mem_unique hmessages hhistory.stored
  have hcursor : cursor.map MessageCursor.sequence = some after ∨ (cursor = none ∧ after = 0) := by
    cases cursor with
    | none => exact .inr ⟨rfl, (Except.ok.inj hafter).symm⟩
    | some cursor =>
      simp only [messageCursorAfter, bind_ok, require_ok, exists_const] at hafter
      obtain ⟨-, -, hafter⟩ := hafter
      exact .inl (congrArg some (Except.ok.inj hafter))
  refine ⟨validatePageLimit_ok hlimit, _, ⟨?_, fun message => ?_⟩, rfl, ?_⟩
  · exact hhistory.numbered.pairwise.filter _
  · rw [List.mem_filter, decide_eq_true_eq, historySet, Set.mem_ofPred_eq, hmessages, Option.getD_some]
    refine and_congr_right fun hmessage => ?_
    rcases hcursor with hcursor | ⟨rfl, rfl⟩
    · rw [hcursor]
      exact ⟨fun hlt position hposition => Option.some.inj hposition ▸ hlt, fun hall => hall after rfl⟩
    · exact ⟨fun _ => by simp, fun _ => (hhistory.numbered.positive hmessage).1⟩
  · rw [Option.map_map]
    rfl

def Sequenced (r : SocialRegistry) : Prop :=
  ∀ recipient id id' record record', r.findNotification recipient id = some record →
    r.findNotification recipient id' = some record' → record.sequence = record'.sequence → id = id'

variable {recipient : AccountId} {id : NotificationId} {record : NotificationRecord}

theorem Lawful.notification (h : Lawful r)
    (hfound : r.findNotification recipient id = some record) :
    r.NotificationHolds recipient id record := by
  obtain ⟨records, hrecords, hrecord⟩ := Option.bind_eq_some_iff.mp hfound
  obtain ⟨-, -, hholds⟩ := h.inboxes recipient records hrecords
  exact each_iff.mp hholds id record hrecord

structure Delivered (r r' : SocialRegistry) : Prop where
  revision : r.revision ≤ r'.revision
  records : ∀ recipient id record, r'.findNotification recipient id = some record →
    (∃ earlier, r.findNotification recipient id = some earlier ∧
      earlier.sequence = record.sequence) ∨ r.revision < record.sequence

theorem Delivered.refl (r : SocialRegistry) : Delivered r r :=
  ⟨le_rfl, fun _ _ record hfound => .inl ⟨record, hfound, rfl⟩⟩

variable {s : SocialRegistry}

theorem Delivered.trans (h : Delivered r s) (h' : Delivered s r') : Delivered r r' := by
  refine ⟨h.revision.trans h'.revision, fun recipient id record hfound => ?_⟩
  rcases h'.records recipient id record hfound with ⟨earlier, hearlier, hsame⟩ | hnew
  · rcases h.records recipient id earlier hearlier with ⟨first, hfirst, hsame'⟩ | hnew
    · exact .inl ⟨first, hfirst, hsame'.trans hsame⟩
    · exact .inr (hsame ▸ hnew)
  · exact .inr (h.revision.trans_lt hnew)

theorem findNotification_insert {owner : AccountId}
    {records : Dict NotificationId NotificationRecord} :
    SocialRegistry.findNotification { r with
      notifications := r.notifications.insert owner records } recipient id =
        if recipient = owner then records.lookup id else r.findNotification recipient id := by
  rw [findNotification, findNotification, lookup_insert_ite]
  split <;> rfl

theorem findNotification_getD :
    ((r.notifications.lookup recipient).getD ∅).lookup id = r.findNotification recipient id := by
  rw [findNotification]
  cases r.notifications.lookup recipient with
  | none => exact Finmap.lookup_empty id
  | some records => rfl

theorem Effect.noted {m : SocialRegistry} {operation : SocialOperation} {outcome : ReceiptOutcome}
    {intents : List OutboxIntentPayload} (h : Effect r operation m outcome intents)
    (hfound : m.findNotification recipient id = some record) :
    (∃ earlier, r.findNotification recipient id = some earlier ∧
      earlier.sequence = record.sequence) ∨
    ∃ request, operation = .createNotification request ∧ request.notification = id ∧
      record.sequence = r.revision + 1 := by
  cases h with
  | requested | accepted | unfriended | blocked | unblocked | created | moved | posted =>
    exact .inl ⟨record, hfound, rfl⟩
  | notified request records hrecords =>
    rw [findNotification_insert] at hfound
    split at hfound
    · next howner =>
      subst howner
      rw [lookup_insert_ite] at hfound
      split at hfound
      · next hid =>
        cases hfound
        exact .inr ⟨request, rfl, hid.symm, rfl⟩
      · rw [← hrecords, findNotification_getD] at hfound
        exact .inl ⟨record, hfound, rfl⟩
    · exact .inl ⟨record, hfound, rfl⟩
  | markedRead owner notification records marked howner hrecords hmarked =>
    rw [findNotification_insert] at hfound
    split at hfound
    · next heq =>
      subst heq
      have hsame : ∀ id, r.findNotification recipient id = records.lookup id := by
        intro id
        rw [findNotification, hrecords, Option.bind_some]
      rw [lookup_insert_ite] at hfound
      split at hfound
      · next hid =>
        cases hfound
        exact .inl ⟨marked, by rw [hsame, hid, hmarked], rfl⟩
      · exact .inl ⟨record, by rw [hsame, hfound], rfl⟩
    · exact .inl ⟨record, hfound, rfl⟩
  | deleted owner notification records howner hrecords =>
    refine .inl ⟨record, ?_, rfl⟩
    rw [findNotification] at hfound ⊢
    dsimp only at hfound
    split at hfound
    · rw [lookup_erase_ite] at hfound
      split at hfound
      · cases hfound
      · exact hfound
    · rw [lookup_insert_ite] at hfound
      split at hfound
      · next heq =>
        rw [Option.bind_some, lookup_erase_ite] at hfound
        rw [heq, hrecords, Option.bind_some]
        split at hfound
        · cases hfound
        · exact hfound
      · exact hfound

theorem Stepped.delivered (h : Stepped r request r') : Delivered r r' := by
  cases h with
  | stayed => exact .refl r
  | registered => exact ⟨le_rfl, fun _ _ record hfound => .inl ⟨record, hfound, rfl⟩⟩
  | applied command fingerprint operation m outcome intents outbox hfresh heffect =>
    refine ⟨Nat.le_succ _, fun recipient id record hfound => ?_⟩
    rcases heffect.noted hfound with hold | ⟨-, -, -, hnew⟩
    · exact .inl hold
    · exact .inr (hnew ▸ Nat.lt_succ_self _)

theorem Stepped.sequenced (h : Stepped r request r') (hlawful : Lawful r) (hold : Sequenced r) :
    Sequenced r' := by
  cases h with
  | stayed | registered => exact hold
  | applied command fingerprint operation m outcome intents outbox hfresh heffect =>
    intro recipient id id' record record' hfound hfound' hsame
    have hbelow : ∀ {id earlier}, r.findNotification recipient id = some earlier →
        earlier.sequence ≤ r.revision := fun hearlier => (hlawful.notification hearlier).2.2.2.1
    rcases heffect.noted hfound with ⟨earlier, hearlier, hkept⟩ | ⟨creation, hcreates, hid, hnew⟩
    · have hle := hbelow hearlier
      rcases heffect.noted hfound' with ⟨earlier', hearlier', hkept'⟩ | ⟨-, -, -, hnew'⟩
      · exact hold recipient id id' earlier earlier' hearlier hearlier'
          (hkept.trans (hsame.trans hkept'.symm))
      · omega
    · rcases heffect.noted hfound' with ⟨earlier', hearlier', hkept'⟩ | ⟨creation', hcreates', hid', -⟩
      · have hle := hbelow hearlier'
        omega
      · rw [hcreates] at hcreates'
        cases SocialOperation.createNotification.inj hcreates'
        exact hid.symm.trans hid'

variable {requests : List SocialRequest}

theorem Lawful.delivered (h : Lawful r) (hrun : Run socialRegistry r requests r') :
    Delivered r r' := by
  induction hrun with
  | nil => exact .refl r
  | snoc hrun hstep ih => exact ih.trans ((h.run hrun).step hstep).delivered

theorem sequenced_of_reachable (h : Reachable socialRegistry r) : Sequenced r := by
  have hboth : Lawful r ∧ Sequenced r := by
    refine h.invariant (I := fun r => Lawful r ∧ Sequenced r) (fun r hinit => ?_)
      fun r request r' hboth hstep => ?_
    · obtain ⟨config, rfl⟩ := hinit
      refine ⟨lawful_new config, fun recipient id id' record record' hfound => ?_⟩
      rw [findNotification] at hfound
      cases hfound
    · obtain ⟨hlawful, hsequenced⟩ := hboth
      have hstepped := hlawful.step hstep
      exact ⟨hlawful.stepped hstepped, hstepped.sequenced hlawful hsequenced⟩
  exact hboth.2

structure Grown (r r' : SocialRegistry) : Prop where
  users : r.users ⊆ r'.users
  histories : ∀ group messages, r.messages.lookup group = some messages →
    ∃ more, r'.messages.lookup group = some (messages ++ more)

theorem Grown.refl (r : SocialRegistry) : Grown r r :=
  ⟨Finset.Subset.refl _, fun _ messages hfound => ⟨[], by rw [hfound, List.append_nil]⟩⟩

theorem Grown.trans (h : Grown r s) (h' : Grown s r') : Grown r r' := by
  refine ⟨h.users.trans h'.users, fun group messages hfound => ?_⟩
  obtain ⟨more, hmore⟩ := h.histories group messages hfound
  obtain ⟨rest, hrest⟩ := h'.histories group _ hmore
  exact ⟨more ++ rest, by rw [hrest, List.append_assoc]⟩

theorem Grown.same {r r' : SocialRegistry} (husers : r.users ⊆ r'.users)
    (hmessages : r'.messages = r.messages) : Grown r r' :=
  ⟨husers, fun _ messages hfound => ⟨[], by rw [hmessages, hfound, List.append_nil]⟩⟩

theorem Stepped.grown (h : Stepped r request r') (hlawful : Lawful r) : Grown r r' := by
  cases h with
  | stayed => exact .refl r
  | registered account => exact .same (Finset.subset_insert _ _) rfl
  | applied command fingerprint operation m outcome intents outbox hfresh heffect =>
    have hsame := Finset.Subset.refl r.users
    cases heffect with
    | requested | accepted | unfriended | blocked | unblocked | moved | notified | markedRead
    | deleted => exact .same hsame rfl
    | created request hcreator hroom hnew =>
      refine ⟨hsame, fun group messages hfound => ⟨[], ?_⟩⟩
      have hne : group ≠ request.group := by
        rintro rfl
        exact hnew (hlawful.messages _ messages hfound)
      dsimp only [settled]
      rw [Finmap.lookup_insert_of_ne _ hne, hfound, List.append_nil]
    | posted request record messages hsender hgroup hmember hlength hstored =>
      refine ⟨hsame, fun group found hfound => ?_⟩
      dsimp only [settled]
      rw [lookup_insert_ite]
      split
      · next heq =>
        subst heq
        cases Option.mem_unique hstored hfound
        exact ⟨_, rfl⟩
      · exact ⟨[], by rw [hfound, List.append_nil]⟩

theorem Lawful.grown (h : Lawful r) (hrun : Run socialRegistry r requests r') : Grown r r' := by
  induction hrun with
  | nil => exact .refl r
  | snoc hrun hstep ih =>
    have hlawful := h.run hrun
    exact ih.trans ((hlawful.step hstep).grown hlawful)

end SocialRegistry

open Persistence (ones_nonzero threes_nonzero twos_nonzero zeroBytes)

namespace SocialRegistry

variable {r r' : SocialRegistry} {recipient : AccountId} {group : GroupId}

def inboxSet (recipient : AccountId) (r : SocialRegistry) : Set NotificationRecord :=
  {record | ∃ id, r.findNotification recipient id = some record}

variable {record : NotificationRecord}

theorem mem_inbox : record ∈ r.inbox recipient ↔ record ∈ inboxSet recipient r := by
  rw [inbox, List.mem_map, inboxSet, Set.mem_ofPred_eq]
  constructor
  · rintro ⟨⟨id, found⟩, hentry, rfl⟩
    exact ⟨id, findNotification_getD.symm.trans (mem_items.mp hentry)⟩
  · rintro ⟨id, hfound⟩
    exact ⟨(id, record), mem_items.mpr (findNotification_getD.trans hfound), rfl⟩

variable {record' : NotificationRecord}

theorem Lawful.same_notification (h : Lawful r) (hrecord : record ∈ inboxSet recipient r)
    (hrecord' : record' ∈ inboxSet recipient r) (hid : record.id = record'.id) :
    record = record' := by
  obtain ⟨id, hfound⟩ := hrecord
  obtain ⟨id', hfound'⟩ := hrecord'
  rw [(h.notification hfound).1, (h.notification hfound').1] at hid
  subst hid
  exact Option.mem_unique hfound hfound'

theorem Lawful.nodup_inbox (h : Lawful r) (recipient : AccountId) : (r.inbox recipient).Nodup := by
  have hids : (r.inbox recipient).map (·.id) =
      (items ((r.notifications.lookup recipient).getD ∅)).map (·.1) := by
    rw [inbox, List.map_map]
    refine List.map_congr_left fun entry hentry => ?_
    exact (h.notification (findNotification_getD.symm.trans (mem_items.mp hentry))).1
  refine List.Nodup.of_map (·.id) ?_
  rw [hids, items_keys]
  exact nodup_ordered _

theorem Lawful.same_sequence (h : Lawful r) (hsequenced : Sequenced r)
    (hrecord : record ∈ inboxSet recipient r) (hrecord' : record' ∈ inboxSet recipient r)
    (hsame : record.sequence = record'.sequence) : record = record' := by
  refine h.same_notification hrecord hrecord' ?_
  obtain ⟨id, hfound⟩ := hrecord
  obtain ⟨id', hfound'⟩ := hrecord'
  rw [(h.notification hfound).1, (h.notification hfound').1]
  exact hsequenced recipient id id' record record' hfound hfound' hsame

theorem notification_pages (recipient : AccountId) (h : Lawful r) (hsequenced : Sequenced r) :
    Pages (notificationPages recipient) NotificationRecord.sequence NotificationCursor.sequence
      (inboxSet recipient) r := by
  intro cursor limit values next hpage
  obtain ⟨page, hpage, heq⟩ := map_ok.mp hpage
  simp only [listNotifications, bind_ok, ensureKnownUser, require_ok, exists_const] at hpage
  obtain ⟨-, ⟨⟩, hlimit, after, hafter, hresult⟩ := hpage
  cases hresult
  cases heq
  have hcursor : cursor.map NotificationCursor.sequence = some after ∨ (cursor = none ∧ after = 0) := by
    cases cursor with
    | none => exact .inr ⟨rfl, (Except.ok.inj hafter).symm⟩
    | some cursor =>
      simp only [notificationCursorAfter, bind_ok, require_ok, exists_const] at hafter
      obtain ⟨-, -, hafter⟩ := hafter
      exact .inl (congrArg some (Except.ok.inj hafter))
  have hmem : ∀ record, record ∈ (r.inbox recipient).filter (fun record => after < record.sequence) ↔
      record ∈ inboxSet recipient r ∧ after < record.sequence := by
    intro record
    rw [List.mem_filter, decide_eq_true_eq, mem_inbox]
  refine ⟨validatePageLimit_ok hlimit, _, ⟨?_, fun record => ?_⟩, rfl, ?_⟩
  · have hfiltered := (h.nodup_inbox recipient).filter fun record => decide (after < record.sequence)
    refine ((pairwise_sortedBy _).and (nodup_sortedBy hfiltered)).imp_of_mem fun ha hb hboth => ?_
    rcases Prod.Lex.toLex_le_toLex.mp hboth.1 with hlt | ⟨heq, -⟩
    · exact hlt
    · have ha' := ((hmem _).mp (mem_sortedBy.mp ha)).1
      have hb' := ((hmem _).mp (mem_sortedBy.mp hb)).1
      exact absurd (h.same_sequence hsequenced ha' hb' heq) hboth.2
  · rw [mem_sortedBy, hmem]
    refine and_congr_right fun hin => ?_
    rcases hcursor with hcursor | ⟨rfl, rfl⟩
    · rw [hcursor]
      exact ⟨fun hlt position hposition => Option.some.inj hposition ▸ hlt, fun hall => hall after rfl⟩
    · obtain ⟨id, hfound⟩ := hin
      exact ⟨fun _ => by simp, fun _ => Nat.pos_of_ne_zero (h.notification hfound).2.2.1⟩
  · rw [Option.map_map]
    rfl

-- What a reader gets who follows the cursors of a list from its first page on, whatever is served
-- in between: an item is told from the others by its identity, which gives its place in the list.
structure Paged {C α κ ι : Type} [LinearOrder κ] [DecidableEq ι]
    (list : SocialRegistry → Option C → Nat → Except SocialError (List α × Option C)) (key : α → κ)
    (identity : α → ι) (present : SocialRegistry → Set α) (r : SocialRegistry) : Prop where
  ordered : ∀ reads final, Session list none r reads final →
    (reads.flatMap (·.2)).Pairwise fun a b => key a < key b
  once : ∀ reads final, Session list none r reads final →
    ((reads.flatMap (·.2)).map identity).Nodup
  complete : ∀ reads, Session list none r reads none → ∀ item,
    (∀ read ∈ reads, ∃ a ∈ present read.1, identity a = item) →
    ((reads.flatMap (·.2)).map identity).count item = 1
  accepted : ∀ cursor limit values next, list r cursor limit = .ok (values, some next) →
    ∀ requests r', Run socialRegistry r requests r' → ∀ limit', limit' ≠ 0 → limit' ≤ maxPageSize →
    ∃ page, list r' (some next) limit' = .ok page

section Paged
variable {C α κ ι : Type} [LinearOrder κ] [DecidableEq ι]
  {list : SocialRegistry → Option C → Nat → Except SocialError (List α × Option C)} {key : α → κ}
  {position : C → κ} {identity : α → ι} {present : SocialRegistry → Set α}

theorem Pages.next_mem (h : Pages list key position present r) {cursor : Option C} {limit : Nat}
    {values : List α} {next : C} (hpage : list r cursor limit = .ok (values, some next)) :
    ∃ a ∈ present r, key a = position next := by
  obtain ⟨-, rest, hrest, -, hnext⟩ := h cursor limit values (some next) hpage
  obtain ⟨last, hlast, hkey⟩ := Option.map_eq_some_iff.mp hnext.symm
  exact ⟨last, ((hrest.mem last).mp (cut_subset (cut_last_mem hlast))).1, hkey⟩

theorem paged (hreach : Reachable socialRegistry r)
    (hpages : ∀ r, Reachable socialRegistry r → Pages list key position present r)
    (hkey : ∀ a b, identity a = identity b → key a = key b)
    (hidentity : ∀ r, Reachable socialRegistry r → ∀ a ∈ present r, ∀ b ∈ present r, key a = key b →
      identity a = identity b)
    (haccepted : ∀ cursor limit values next, list r cursor limit = .ok (values, some next) →
      ∀ requests r', Run socialRegistry r requests r' → ∀ limit', limit' ≠ 0 →
        limit' ≤ maxPageSize → ∃ page, list r' (some next) limit' = .ok page) :
    Paged list key identity present r := by
  have hordered : ∀ reads final, Session list none r reads final →
      (reads.flatMap (·.2)).Pairwise fun a b => key a < key b :=
    fun reads final hsession => hsession.pairwise hreach hpages
  have honce : ∀ reads final, Session list none r reads final →
      ((reads.flatMap (·.2)).map identity).Nodup := by
    intro reads final hsession
    rw [List.Nodup, List.pairwise_map]
    exact (hordered reads final hsession).imp fun hlt heq => hlt.ne (hkey _ _ heq)
  refine ⟨hordered, honce, fun reads hsession item hpresent => ?_, haccepted⟩
  refine List.count_eq_one_of_mem (honce reads none hsession) ?_
  obtain ⟨first, hfirst, hitem⟩ : ∃ a, identity a = item ∧ ∀ read ∈ reads,
      ∃ b ∈ present read.1, key b = key a := by
    have hsome : ∃ read, read ∈ reads := by
      cases hsession with
      | last hpage => exact ⟨_, List.mem_cons_self⟩
      | more hpage hrun hreads => exact ⟨_, List.mem_cons_self⟩
    obtain ⟨read, hread⟩ := hsome
    obtain ⟨a, -, ha⟩ := hpresent read hread
    refine ⟨a, ha, fun read hread => ?_⟩
    obtain ⟨b, hb, hitem⟩ := hpresent read hread
    exact ⟨b, hb, hkey b a (hitem.trans ha.symm)⟩
  have hfollowed := hsession.followed hreach hpages
  obtain ⟨entry, hentry, a, ha, hin, hsame⟩ := hfollowed.complete rfl nofun fun entry hentry => by
    obtain ⟨read, hread, rfl⟩ := List.mem_map.mp hentry
    exact hitem read hread
  obtain ⟨read, hread, rfl⟩ := List.mem_map.mp hentry
  obtain ⟨b, hb, hb'⟩ := hpresent read hread
  obtain ⟨requests, hrun⟩ := hsession.run read hread
  have hidentical := hidentity read.1 (hreach.run hrun) a hin b hb
    (hsame.trans (hkey first b (hfirst.trans hb'.symm)))
  rw [hb'] at hidentical
  exact List.mem_map.mpr ⟨a, List.mem_flatMap.mpr ⟨read, hread, ha⟩, hidentical⟩

end Paged

theorem friends_paged (hreach : Reachable socialRegistry r) (owner : AccountId) :
    Paged (friendPages owner) id id (friendSet owner) r := by
  refine paged hreach (fun r _ => friend_pages owner r) (fun _ _ => id) (fun _ _ _ _ _ _ => id) ?_
  intro cursor limit values next hpage requests r' hrun limit' hnonzero hmax
  obtain ⟨page, hpage, heq⟩ := map_ok.mp hpage
  simp only [listFriends, bind_ok, ensureKnownUser, require_ok, exists_const] at hpage
  obtain ⟨hknown, ⟨⟩, -, after, -, hresult⟩ := hpage
  cases hresult
  obtain ⟨last, -, rfl⟩ := Option.map_eq_some_iff.mp (Prod.mk.inj heq).2
  have hknown' := ((lawful_of_reachable hreach).grown hrun).users hknown
  refine ⟨_, map_ok.mpr ⟨_, bind_ok.mpr ⟨(), require_ok.mpr hknown', bind_ok.mpr
    ⟨(), require_ok.mpr ⟨hnonzero, hmax⟩, bind_ok.mpr ⟨some last, ?_, rfl⟩⟩⟩, rfl⟩⟩
  exact bind_ok.mpr ⟨(), require_ok.mpr rfl, rfl⟩

variable {messages : List ChatMessage} {message : ChatMessage}

theorem historySet_eq (hstored : r.messages.lookup group = some messages) :
    message ∈ historySet group r ↔ message ∈ messages := by
  rw [historySet, Set.mem_ofPred_eq, hstored, Option.getD_some]

theorem Numbered.unique (h : Numbered messages) {message' : ChatMessage}
    (hmessage : message ∈ messages) (hmessage' : message' ∈ messages)
    (hsame : message.sequence = message'.sequence) : message = message' := by
  refine List.inj_on_of_nodup_map (f := ChatMessage.sequence) ?_ hmessage hmessage' hsame
  rw [h.sequences]
  exact List.nodup_range'

theorem Lawful.history_of_mem (h : Lawful r) (hin : message ∈ historySet group r) :
    ∃ record messages,
      r.groups.lookup group = some record ∧ History r group record messages ∧ message ∈ messages := by
  cases hstored : r.messages.lookup group with
  | none =>
    rw [historySet, Set.mem_ofPred_eq, hstored, Option.getD_none] at hin
    cases hin
  | some messages =>
    obtain ⟨record, hrecord⟩ := Finmap.mem_iff.mp (h.messages group messages hstored)
    obtain ⟨found, hhistory⟩ := h.histories group record hrecord
    cases Option.mem_unique hstored hhistory.stored
    exact ⟨record, messages, hrecord, hhistory, (historySet_eq hstored).mp hin⟩

variable (hreach : Reachable socialRegistry r)
include hreach

theorem messages_paged (group : GroupId) :
    Paged (messagePages group) ChatMessage.sequence id (historySet group) r := by
  have h := lawful_of_reachable hreach
  refine paged hreach (fun r hreach => message_pages group (lawful_of_reachable hreach))
    (fun _ _ => congrArg _) ?_ ?_
  · intro r hreach a ha b hb hsame
    obtain ⟨record, messages, -, hhistory, ha⟩ := (lawful_of_reachable hreach).history_of_mem ha
    exact hhistory.numbered.unique ha ((historySet_eq hhistory.stored).mp hb) hsame
  · intro cursor limit values next hpage requests r' hrun limit' hnonzero hmax
    obtain ⟨last, hlast, hposition⟩ := (message_pages group h).next_mem hpage
    obtain ⟨record, messages, -, hhistory, hin⟩ := h.history_of_mem hlast
    obtain ⟨-, hnumber⟩ := hhistory.numbered.positive hin
    obtain ⟨more, hmore⟩ := (h.grown hrun).histories group messages hhistory.stored
    have h' := h.run hrun
    obtain ⟨record', hrecord'⟩ := Finmap.mem_iff.mp (h'.messages group _ hmore)
    obtain ⟨found, hhistory'⟩ := h'.histories group record' hrecord'
    cases Option.mem_unique hmore hhistory'.stored
    have hbelow : next.sequence < record'.nextMessageSequence := by
      rw [hhistory'.next, List.length_append, ← hposition]
      omega
    obtain ⟨page, hpage, heq⟩ := map_ok.mp hpage
    simp only [listGroupMessages, bind_ok, requireGroup, fetch_ok] at hpage
    obtain ⟨⟨⟩, -, _, -, after, -, found, -, hresult⟩ := hpage
    cases hresult
    obtain ⟨message, -, rfl⟩ := Option.map_eq_some_iff.mp (Prod.mk.inj heq).2
    refine ⟨_, map_ok.mpr ⟨_, bind_ok.mpr ⟨(), require_ok.mpr ⟨hnonzero, hmax⟩, bind_ok.mpr
      ⟨record', fetch_ok.mpr hrecord', bind_ok.mpr ⟨message.sequence, ?_, bind_ok.mpr
      ⟨_, fetch_ok.mpr hmore, rfl⟩⟩⟩⟩, rfl⟩⟩
    exact bind_ok.mpr ⟨(), require_ok.mpr rfl, bind_ok.mpr ⟨(), require_ok.mpr hbelow, rfl⟩⟩

theorem notifications_paged (recipient : AccountId) :
    Paged (notificationPages recipient) NotificationRecord.sequence
      (fun record => (record.id, record.sequence)) (inboxSet recipient) r := by
  have h := lawful_of_reachable hreach
  have hsequenced := sequenced_of_reachable hreach
  refine paged hreach (fun r hreach => notification_pages recipient (lawful_of_reachable hreach)
    (sequenced_of_reachable hreach)) (fun _ _ heq => (Prod.mk.inj heq).2) ?_ ?_
  · intro r hreach a ha b hb hsame
    rw [(lawful_of_reachable hreach).same_sequence (sequenced_of_reachable hreach) ha hb hsame]
  · intro cursor limit values next hpage requests r' hrun limit' hnonzero hmax
    obtain ⟨last, ⟨id, hlast⟩, hposition⟩ := (notification_pages recipient h hsequenced).next_mem hpage
    have hbelow : next.sequence ≤ r'.revision := by
      rw [← hposition]
      exact (h.notification hlast).2.2.2.1.trans (h.delivered hrun).revision
    obtain ⟨page, hpage, heq⟩ := map_ok.mp hpage
    simp only [listNotifications, bind_ok, ensureKnownUser, require_ok, exists_const] at hpage
    obtain ⟨hknown, ⟨⟩, -, after, -, hresult⟩ := hpage
    cases hresult
    obtain ⟨record, -, rfl⟩ := Option.map_eq_some_iff.mp (Prod.mk.inj heq).2
    have hknown' := (h.grown hrun).users hknown
    refine ⟨_, map_ok.mpr ⟨_, bind_ok.mpr ⟨(), require_ok.mpr hknown', bind_ok.mpr
      ⟨(), require_ok.mpr ⟨hnonzero, hmax⟩, bind_ok.mpr ⟨record.sequence, ?_, rfl⟩⟩⟩, rfl⟩⟩
    exact bind_ok.mpr ⟨(), require_ok.mpr rfl, bind_ok.mpr ⟨(), require_ok.mpr hbelow, rfl⟩⟩

theorem message_listed_once {reads : List (SocialRegistry × List ChatMessage)}
    {cursor final : Option MessageCursor}
    (hsession : Session (messagePages group) cursor r reads final) :
    ((reads.flatMap (·.2)).map (·.id)).Nodup := by
  have hpages := fun r hreach => message_pages group (r := r) (lawful_of_reachable hreach)
  have hpresent := hsession.listed_present hreach hpages
  have hdistinct : ∀ {s}, Reachable socialRegistry s → ∀ {message message'},
      message ∈ historySet group s → message' ∈ historySet group s →
      message.sequence < message'.sequence → message.id ≠ message'.id := by
    intro s hs message message' hin hin' hlt hid
    obtain ⟨record, messages, -, hhistory, hmessage⟩ := (lawful_of_reachable hs).history_of_mem hin
    have hmessage' := (historySet_eq hhistory.stored).mp hin'
    have hsame := List.inj_on_of_nodup_map hhistory.numbered.ids hmessage hmessage' hid
    rw [hsame] at hlt
    exact Nat.lt_irrefl _ hlt
  have hreached : ∀ read ∈ reads, Reachable socialRegistry read.1 := by
    intro read hread
    obtain ⟨requests, hrun⟩ := hsession.run read hread
    exact hreach.run hrun
  obtain ⟨hwithin, hacross⟩ := List.pairwise_flatMap.mp (hsession.pairwise hreach hpages)
  rw [List.Nodup, List.pairwise_map]
  refine List.pairwise_flatMap.mpr ⟨fun read hread => ?_, ?_⟩
  · refine (hwithin read hread).imp_of_mem fun hmessage hmessage' hlt => ?_
    exact hdistinct (hreached read hread) (hpresent read hread _ hmessage)
      (hpresent read hread _ hmessage') hlt
  · refine (hacross.and hsession.runs).imp_of_mem fun hearlier hlater hboth => ?_
    intro message hmessage message' hmessage'
    obtain ⟨hless, requests, hrun⟩ := hboth
    have hs := hreached _ hearlier
    have hin := hpresent _ hearlier message hmessage
    obtain ⟨record, messages, -, hhistory, hold⟩ := (lawful_of_reachable hs).history_of_mem hin
    obtain ⟨more, hmore⟩ := ((lawful_of_reachable hs).grown hrun).histories group messages
      hhistory.stored
    exact hdistinct (hreached _ hlater) ((historySet_eq hmore).mpr (List.mem_append_left _ hold))
      (hpresent _ hlater message' hmessage') (hless message hmessage message' hmessage')

theorem notification_listed_anew {reads : List (SocialRegistry × List NotificationRecord)}
    {cursor final : Option NotificationCursor}
    (hsession : Session (notificationPages recipient) cursor r reads final) :
    reads.Pairwise fun earlier later => ∀ record ∈ earlier.2, ∀ record' ∈ later.2,
      record.id = record'.id → earlier.1.revision < record'.sequence := by
  have hpages := fun r hreach => notification_pages (r := r) recipient (lawful_of_reachable hreach)
    (sequenced_of_reachable hreach)
  have hpresent := hsession.listed_present hreach hpages
  have hreached : ∀ read ∈ reads, Reachable socialRegistry read.1 := by
    intro read hread
    obtain ⟨requests, hrun⟩ := hsession.run read hread
    exact hreach.run hrun
  obtain ⟨-, hacross⟩ := List.pairwise_flatMap.mp (hsession.pairwise hreach hpages)
  refine (hacross.and hsession.runs).imp_of_mem fun hearlier hlater hboth => ?_
  intro record hrecord record' hrecord' hid
  obtain ⟨hless, requests, hrun⟩ := hboth
  have h := lawful_of_reachable (hreached _ hearlier)
  have h' := lawful_of_reachable (hreached _ hlater)
  obtain ⟨id, hfound⟩ := hpresent _ hearlier record hrecord
  obtain ⟨id', hfound'⟩ := hpresent _ hlater record' hrecord'
  rw [(h.notification hfound).1, (h'.notification hfound').1] at hid
  subst hid
  rcases (h.delivered hrun).records recipient id record' hfound' with ⟨first, hfirst, hsame⟩ | hnew
  · cases Option.mem_unique hfound hfirst
    exact absurd hsame (hless record hrecord record' hrecord').ne
  · exact hnew

end SocialRegistry

open SocialRegistry

structure PagesSurvive (r : SocialRegistry) : Prop where
  friends : ∀ owner, Paged (friendPages owner) id id (friendSet owner) r
  messages : ∀ group, Paged (messagePages group) ChatMessage.sequence id (historySet group) r
  notifications : ∀ recipient, Paged (notificationPages recipient) NotificationRecord.sequence
    (fun record => (record.id, record.sequence)) (inboxSet recipient) r
  messageOnce : ∀ group reads final, Session (messagePages group) none r reads final →
    ((reads.flatMap (·.2)).map (·.id)).Nodup
  notificationAnew : ∀ recipient reads final,
    Session (notificationPages recipient) none r reads final →
    reads.Pairwise fun earlier later => ∀ record ∈ earlier.2, ∀ record' ∈ later.2,
      record.id = record'.id → earlier.1.revision < record'.sequence

theorem social_pages_survive_mutation {r : SocialRegistry} (hreach : Reachable socialRegistry r) :
    PagesSurvive r :=
  ⟨friends_paged hreach, messages_paged hreach, notifications_paged hreach,
    fun _ _ _ hsession => message_listed_once hreach hsession,
    fun _ _ _ hsession => notification_listed_anew hreach hsession⟩

def sampleNotice (byte : UInt8) (h : zeroBytes (Vector.replicate 16 byte) = false) :
    CreateNotificationRequest :=
  ⟨none, sampleMember 1 ones_nonzero, sampleId byte h, .chatMention, ⟨"subject", by decide +kernel⟩,
    ⟨"content", by decide +kernel⟩⟩

def sampleInbox : SocialRegistry := served
  [.registerUser (sampleMember 1 ones_nonzero),
    .submit (sampleId 1 ones_nonzero) samplePrint (.createNotification (sampleNotice 1 ones_nonzero)),
    .submit (sampleId 2 twos_nonzero) samplePrint (.createNotification (sampleNotice 2 twos_nonzero))]

theorem social_pages_survive_mutation_sample : sampleInbox.revision = 2 ∧ PagesSurvive sampleInbox :=
  ⟨by decide +kernel, social_pages_survive_mutation (reachable_served _)⟩

def sampleRenewal : List SocialRequest :=
  [.submit (sampleId 3 threes_nonzero) samplePrint
      (.deleteNotification (sampleMember 1 ones_nonzero) (sampleId 1 ones_nonzero)),
    .submit (sampleId 4 (by decide)) samplePrint (.createNotification (sampleNotice 1 ones_nonzero))]

def sampleRecord (byte : UInt8) (h : zeroBytes (Vector.replicate 16 byte) = false)
    (sequence : Nat) : NotificationRecord :=
  ⟨sampleId byte h, none, sampleMember 1 ones_nonzero, .chatMention, ⟨"subject", by decide +kernel⟩,
    ⟨"content", by decide +kernel⟩, sequence, false⟩

theorem renewed_notification_listed_twice :
    ¬ ∀ r recipient reads final, Reachable socialRegistry r →
      Session (notificationPages recipient) none r reads final →
      ((reads.flatMap (·.2)).map (·.id)).Nodup := by
  intro h
  have hfirst : notificationPages (sampleMember 1 (by decide)) sampleInbox none 1 =
      .ok ([sampleRecord 1 (by decide) 1], some ⟨sampleMember 1 (by decide), 1⟩) := by decide +kernel
  have hsecond : notificationPages (sampleMember 1 (by decide))
      (sampleRenewal.foldl SocialRegistry.after sampleInbox) (some ⟨sampleMember 1 (by decide), 1⟩) 2 =
      .ok ([sampleRecord 2 (by decide) 2, sampleRecord 1 (by decide) 4], none) := by decide +kernel
  have hnodup := h _ _ _ _ (reachable_served _) (.more hfirst (run_foldl _ sampleRenewal) (.last hsecond))
  exact absurd hnodup (by decide +kernel)

end Social
