import Mathlib.Order.Interval.Finset.Nat
import TrillionniumGame.Social.Commands

namespace Social
open Checks FiniteMap Words
open Identity (AccountId)
open Persistence (checkedAdd)

theorem nextRevision_ok {value : Nat} {reason : String} (h : value + 1 < 2 ^ 64) :
    nextRevision value reason = .ok (value + 1) :=
  fetch_ok.mpr (fits_some.mpr ⟨h, rfl⟩)

theorem mem_superadmins {group : GroupRecord} {account : AccountId} :
    account ∈ superadmins group ↔ group.members.lookup account = some .superadmin := by
  rw [superadmins, Finset.mem_filter, Finmap.mem_keys]
  constructor
  · exact And.right
  · intro h
    exact ⟨mem_of_lookup h, h⟩

theorem superadminCount_ne_zero {group : GroupRecord} :
    superadminCount group ≠ 0 ↔ ∃ account, group.members.lookup account = some .superadmin := by
  rw [superadminCount, Finset.card_ne_zero]
  exact exists_congr fun account => mem_superadmins

namespace SocialRegistry

variable {r : SocialRegistry} {groupId : GroupId} {group : GroupRecord}

structure Numbered (messages : List ChatMessage) : Prop where
  sequences : messages.map (·.sequence) = List.range' 1 messages.length
  ids : (messages.map (·.id)).Nodup

structure History (r : SocialRegistry) (groupId : GroupId) (group : GroupRecord)
    (messages : List ChatMessage) : Prop where
  stored : r.messages.lookup groupId = some messages
  room : messages.length ≤ r.limits.maxMessagesPerGroup
  holds : ∀ message ∈ messages, r.MessageHolds groupId message
  numbered : Numbered messages
  next : group.nextMessageSequence = messages.length + 1

def Owned (r : SocialRegistry) : Prop :=
  ∀ id : OutboxIntentId, id ∈ r.outbox ↔
    ∃ receipt, r.receipts.lookup id.command = some receipt ∧ 1 ≤ id.ordinal ∧
      id.ordinal ≤ receipt.outboxCount

def Signed (r : SocialRegistry) (command : SocialCommandId) (receipt : CommandReceipt) : Prop :=
  receipt.command = command ∧ receipt.actor ∈ r.users ∧ receipt.revision ≠ 0 ∧
    receipt.revision ≤ r.revision

structure Lawful (r : SocialRegistry) : Prop where
  sizes : r.SizesHold
  graph : r.GraphHolds
  groups : ∀ id group, r.groups.lookup id = some group → r.GroupHolds id group
  histories : ∀ id group, r.groups.lookup id = some group → ∃ messages, History r id group messages
  messages : ∀ id messages, r.messages.lookup id = some messages → id ∈ r.groups
  inboxes : ∀ recipient records, r.notifications.lookup recipient = some records →
    r.InboxHolds recipient records
  receipts : ∀ command receipt, r.receipts.lookup command = some receipt → Signed r command receipt
  owned : Owned r
  outbox : ∀ id intent, r.outbox.lookup id = some intent → r.IntentHolds id intent

theorem validateMessages_ok {messages : List ChatMessage} {expected : Nat} {seen : Finset MessageId}
    (hholds : ∀ message ∈ messages, r.MessageHolds groupId message)
    (hsequences : messages.map (·.sequence) = List.range' expected messages.length)
    (hids : (messages.map (·.id)).Nodup) (hseen : ∀ message ∈ messages, message.id ∉ seen)
    (hsmall : expected + messages.length < 2 ^ 64) :
    r.validateMessages groupId messages expected seen = .ok (expected + messages.length) := by
  induction messages generalizing expected seen with
  | nil => rfl
  | cons message rest ih =>
    rw [List.map_cons, List.length_cons, List.range'_succ, List.cons.injEq] at hsequences
    rw [List.map_cons, List.nodup_cons] at hids
    rw [List.length_cons] at hsmall
    have hunseen : ∀ later ∈ rest, later.id ∉ insert message.id seen := by
      intro later hlater hin
      rcases Finset.mem_insert.mp hin with heq | hold
      · exact hids.1 (heq ▸ List.mem_map_of_mem hlater)
      · exact hseen later (List.mem_cons_of_mem _ hlater) hold
    have hrest := ih (fun later hlater => hholds later (List.mem_cons_of_mem _ hlater)) hsequences.2
      hids.2 hunseen (by omega)
    refine bind_ok.mpr ⟨(), require_ok.mpr ⟨hholds message List.mem_cons_self, hsequences.1,
      hseen message List.mem_cons_self⟩, bind_ok.mpr ⟨expected + 1, nextRevision_ok (by omega), ?_⟩⟩
    rw [hrest, List.length_cons]
    congr 1
    omega

theorem Lawful.valid_group (h : Lawful r) (hgroup : r.groups.lookup groupId = some group) :
    r.validateGroup groupId group = .ok () := by
  obtain ⟨messages, hhistory⟩ := h.histories groupId group hgroup
  have hroom := hhistory.room
  have hmax := r.config.messages.2
  have hsmall : 1 + messages.length < 2 ^ 64 := by
    rw [hardMaxMessagesPerGroup] at hmax
    have := hroom.trans hmax
    omega
  have hmessages := validateMessages_ok hhistory.holds hhistory.numbered.sequences
    hhistory.numbered.ids (fun _ _ => Finset.notMem_empty _) hsmall
  refine bind_ok.mpr ⟨(), require_ok.mpr (h.groups groupId group hgroup), bind_ok.mpr ⟨messages,
    fetch_ok.mpr hhistory.stored, bind_ok.mpr ⟨(), require_ok.mpr hroom, bind_ok.mpr
    ⟨_, hmessages, require_ok.mpr ?_⟩⟩⟩⟩
  rw [hhistory.next, Nat.add_comm]

theorem Lawful.intentCount_eq (h : Lawful r) {command : SocialCommandId} {receipt : CommandReceipt}
    (hreceipt : r.receipts.lookup command = some receipt) :
    r.intentCount command = receipt.outboxCount := by
  have hids : (r.outbox.keys.filter fun id => (r.outbox.lookup id).any (·.id.command = command)) =
      (Finset.Icc 1 receipt.outboxCount).image fun ordinal => ⟨command, ordinal⟩ := by
    ext ⟨owner, ordinal⟩
    rw [Finset.mem_filter, Finmap.mem_keys, Finset.mem_image]
    constructor
    · rintro ⟨hin, hany⟩
      obtain ⟨intent, hintent⟩ := Finmap.mem_iff.mp hin
      rw [hintent, Option.any_some, decide_eq_true_eq, (h.outbox _ intent hintent).2.1] at hany
      obtain ⟨found, hfound, hone, hcount⟩ := (h.owned _).mp hin
      obtain rfl : owner = command := hany
      cases Option.mem_unique hreceipt hfound
      exact ⟨ordinal, Finset.mem_Icc.mpr ⟨hone, hcount⟩, rfl⟩
    · rintro ⟨position, hposition, heq⟩
      obtain ⟨rfl, rfl⟩ := (OutboxIntentId.mk.injEq ..).mp heq
      obtain ⟨hone, hcount⟩ := Finset.mem_Icc.mp hposition
      have hin := (h.owned ⟨command, position⟩).mpr ⟨receipt, hreceipt, hone, hcount⟩
      obtain ⟨intent, hintent⟩ := Finmap.mem_iff.mp hin
      refine ⟨hin, ?_⟩
      rw [hintent, Option.any_some, decide_eq_true_eq, (h.outbox _ intent hintent).2.1]
  rw [intentCount, hids, Finset.card_image_of_injective, Nat.card_Icc, Nat.add_sub_cancel]
  exact fun _ _ heq => ((OutboxIntentId.mk.injEq ..).mp heq).2

theorem Lawful.valid (h : Lawful r) : r.validateInvariants = .ok () := by
  refine bind_ok.mpr ⟨(), require_ok.mpr h.sizes, bind_ok.mpr ⟨(), require_ok.mpr h.graph,
    bind_ok.mpr ⟨(), forM_ok.mpr ?_, bind_ok.mpr ⟨(), require_ok.mpr ?_, bind_ok.mpr
    ⟨(), require_ok.mpr (each_iff.mpr h.inboxes), bind_ok.mpr
    ⟨(), require_ok.mpr (each_iff.mpr ?_), require_ok.mpr (each_iff.mpr h.outbox)⟩⟩⟩⟩⟩⟩
  · rintro ⟨id, group⟩ hentry
    exact h.valid_group (mem_items.mp hentry)
  · intro id hid
    obtain ⟨messages, hmessages⟩ := Finmap.mem_iff.mp (Finmap.mem_keys.mp hid)
    exact h.messages id messages hmessages
  · intro command receipt hreceipt
    obtain ⟨hcommand, hactor, hnonzero, hrevision⟩ := h.receipts command receipt hreceipt
    exact ⟨hcommand, hactor, hnonzero, hrevision, h.intentCount_eq hreceipt⟩

theorem lawful_new (config : SocialConfig) : Lawful (.new config) := by
  have hempty : ∀ {K V : Type} [DecidableEq K] (k : K) (v : V),
      (∅ : Dict K V).lookup k ≠ some v := by
    intro K V _ k v h
    rw [Finmap.lookup_empty] at h
    cases h
  refine ⟨⟨Nat.zero_le _, Nat.zero_le _, Nat.zero_le _, Nat.zero_le _⟩, ⟨?_, ?_, ?_, ?_⟩,
    fun _ _ h => absurd h (hempty _ _), fun _ _ h => absurd h (hempty _ _),
    fun _ _ h => absurd h (hempty _ _), fun _ _ h => absurd h (hempty _ _),
    fun _ _ h => absurd h (hempty _ _), fun id => ⟨fun hin => ?_, fun ⟨_, hfound, _⟩ => ?_⟩,
    fun _ _ h => absurd h (hempty _ _)⟩
  · exact fun _ h => absurd h (Finset.notMem_empty _)
  · exact fun _ h => absurd h (Finset.notMem_empty _)
  · exact fun _ h => absurd h (Finset.notMem_empty _)
  · exact fun _ h => absurd h (Finset.notMem_empty _)
  · exact absurd hin (Finmap.notMem_empty)
  · exact absurd hfound (hempty _ _)

theorem Lawful.later (h : Lawful r) {revision : Nat} (hle : r.revision ≤ revision) :
    Lawful { r with revision := revision } := by
  refine ⟨h.sizes, h.graph, h.groups, fun id group hgroup => ?_, h.messages,
    fun recipient records hrecords => ?_, fun command receipt hreceipt => ?_, h.owned, h.outbox⟩
  · obtain ⟨messages, hhistory⟩ := h.histories id group hgroup
    exact ⟨messages, hhistory.1, hhistory.2, hhistory.3, hhistory.4, hhistory.5⟩
  · obtain ⟨hrecipient, hroom, hholds⟩ := h.inboxes recipient records hrecords
    refine ⟨hrecipient, hroom, each_iff.mpr fun id record hrecord => ?_⟩
    obtain ⟨hid, howner, hnonzero, hrevision, hrest⟩ := each_iff.mp hholds id record hrecord
    exact ⟨hid, howner, hnonzero, hrevision.trans hle, hrest⟩
  · obtain ⟨hcommand, hactor, hnonzero, hrevision⟩ := h.receipts command receipt hreceipt
    exact ⟨hcommand, hactor, hnonzero, hrevision.trans hle⟩

end SocialRegistry

open Persistence (checkedAdd_some)

def CommandCompletion.receipt (completion : CommandCompletion) : CommandReceipt :=
  ⟨completion.command, completion.fingerprint, completion.actor, completion.revision,
    completion.outcome, completion.intents.length⟩

namespace SocialRegistry

variable {r m : SocialRegistry} {command : SocialCommandId} {completion : CommandCompletion}
  {outbox outbox' : Dict OutboxIntentId OutboxIntent} {intents : List OutboxIntentPayload}
  {index : Nat}

theorem insertIntents_succeeds (outbox : Dict OutboxIntentId OutboxIntent) (index : Nat)
    (hsmall : index + intents.length < 2 ^ 16) :
    ∃ outbox', insertIntents command outbox index intents = .ok outbox' := by
  induction intents generalizing outbox index with
  | nil => exact ⟨outbox, rfl⟩
  | cons payload rest ih =>
    rw [List.length_cons] at hsmall
    obtain ⟨outbox', hrest⟩ := ih (outbox.insert ⟨command, index + 1⟩ ⟨⟨command, index + 1⟩, payload⟩)
      (index + 1) (by omega)
    exact ⟨outbox', bind_ok.mpr ⟨index + 1, fetch_ok.mpr (fits_some.mpr ⟨by omega, rfl⟩), hrest⟩⟩

theorem insertIntents_card (h : insertIntents command outbox index intents = .ok outbox') :
    outbox'.keys.card ≤ outbox.keys.card + intents.length := by
  induction intents generalizing outbox index with
  | nil =>
    cases h
    exact le_rfl
  | cons payload rest ih =>
    obtain ⟨ordinal, -, hrest⟩ := bind_ok.mp h
    have hcard := ih hrest
    rw [keys_insert] at hcard
    have hone := Finset.card_insert_le (⟨command, ordinal⟩ : OutboxIntentId) outbox.keys
    rw [List.length_cons]
    omega

theorem insertIntents_lookup (h : insertIntents command outbox index intents = .ok outbox')
    (id : OutboxIntentId) : outbox'.lookup id =
      if id.command = command ∧ index < id.ordinal ∧ id.ordinal ≤ index + intents.length then
        (intents[id.ordinal - (index + 1)]?).map (⟨id, ·⟩)
      else outbox.lookup id := by
  induction intents generalizing outbox index with
  | nil =>
    cases h
    rw [if_neg]
    rintro ⟨-, hlow, hhigh⟩
    exact absurd hlow (by simpa using hhigh)
  | cons payload rest ih =>
    obtain ⟨ordinal, hordinal, hrest⟩ := bind_ok.mp h
    cases (fits_some.mp (fetch_ok.mp hordinal)).2
    rw [ih hrest, lookup_insert_ite, List.length_cons]
    by_cases hlater : id.command = command ∧ index + 1 < id.ordinal ∧
        id.ordinal ≤ index + 1 + rest.length
    · obtain ⟨hcommand, hlow, hhigh⟩ := hlater
      have hposition : id.ordinal - (index + 1) = id.ordinal - (index + 1 + 1) + 1 := by omega
      rw [if_pos ⟨hcommand, hlow, hhigh⟩, if_pos ⟨hcommand, by omega, by omega⟩, hposition,
        List.getElem?_cons_succ]
    · rw [if_neg hlater]
      by_cases hhere : id = ⟨command, index + 1⟩
      · subst hhere
        rw [if_pos rfl, if_pos ⟨rfl, Nat.lt_succ_self _, by dsimp only; omega⟩, Nat.sub_self]
        rfl
      · rw [if_neg hhere, if_neg]
        rintro ⟨hcommand, hlow, hhigh⟩
        have hordinal' : id.ordinal = index + 1 := by
          by_contra hne
          exact hlater ⟨hcommand, by omega, by omega⟩
        obtain ⟨owner, position⟩ := id
        exact hhere ((OutboxIntentId.mk.injEq ..).mpr ⟨hcommand, hordinal'⟩)

def settled (m : SocialRegistry) (completion : CommandCompletion)
    (outbox : Dict OutboxIntentId OutboxIntent) : SocialRegistry :=
  { m with
    revision := completion.revision
    receipts := m.receipts.insert completion.command completion.receipt
    outbox := outbox }

structure Ready (m : SocialRegistry) (completion : CommandCompletion) : Prop where
  fresh : m.receipts.lookup completion.command = none
  revision : completion.revision ≠ 0
  actor : completion.actor ∈ m.users
  payloads : ∀ payload ∈ completion.intents,
    payload.matchesReceipt completion.receipt = true ∧ m.PayloadHolds completion.receipt payload

theorem Lawful.intents_settled (h : Lawful { m with revision := completion.revision })
    (hready : Ready m completion)
    (houtbox : insertIntents completion.command m.outbox 0 completion.intents = .ok outbox)
    (id : OutboxIntentId) (intent : OutboxIntent) : outbox.lookup id = some intent ↔
      (id.command ≠ completion.command ∧ m.outbox.lookup id = some intent) ∨
        (id.command = completion.command ∧ 1 ≤ id.ordinal ∧
          ∃ payload, completion.intents[id.ordinal - 1]? = some payload ∧ intent = ⟨id, payload⟩) := by
  have hold : id.command = completion.command → m.outbox.lookup id = none := by
    intro hcommand
    rw [Finmap.lookup_eq_none]
    intro hin
    obtain ⟨receipt, hreceipt, -⟩ := (h.owned id).mp hin
    rw [hcommand] at hreceipt
    exact absurd (hready.fresh.symm.trans hreceipt) nofun
  rw [insertIntents_lookup houtbox]
  by_cases hcommand : id.command = completion.command
  · by_cases hrange : 0 < id.ordinal ∧ id.ordinal ≤ 0 + completion.intents.length
    · rw [if_pos ⟨hcommand, hrange⟩, Option.map_eq_some_iff]
      constructor
      · rintro ⟨payload, hpayload, rfl⟩
        exact .inr ⟨hcommand, hrange.1, payload, by simpa using hpayload, rfl⟩
      · rintro (⟨hne, -⟩ | ⟨-, -, payload, hpayload, rfl⟩)
        · exact absurd hcommand hne
        · exact ⟨payload, by simpa using hpayload, rfl⟩
    · rw [if_neg (fun hin => hrange hin.2), hold hcommand]
      constructor
      · nofun
      · rintro (⟨hne, -⟩ | ⟨-, hone, payload, hpayload, rfl⟩)
        · exact absurd hcommand hne
        · obtain ⟨hlt, -⟩ := List.getElem?_eq_some_iff.mp hpayload
          exact absurd ⟨hone, by omega⟩ hrange
  · rw [if_neg (fun hin => hcommand hin.1)]
    constructor
    · exact fun hfound => .inl ⟨hcommand, hfound⟩
    · rintro (⟨-, hfound⟩ | ⟨heq, -⟩)
      · exact hfound
      · exact absurd heq hcommand

theorem Lawful.owned_settled (h : Lawful { m with revision := completion.revision })
    (hready : Ready m completion)
    (houtbox : insertIntents completion.command m.outbox 0 completion.intents = .ok outbox) :
    Owned (m.settled completion outbox) := by
  intro id
  dsimp only [settled]
  rw [Finmap.mem_iff]
  simp only [h.intents_settled hready houtbox, lookup_insert_ite]
  by_cases hcommand : id.command = completion.command
  · simp only [hcommand, ne_eq, not_true, false_and, false_or, true_and, if_true]
    constructor
    · rintro ⟨intent, hone, payload, hpayload, -⟩
      obtain ⟨hlt, -⟩ := List.getElem?_eq_some_iff.mp hpayload
      exact ⟨completion.receipt, rfl, hone, by change id.ordinal ≤ completion.intents.length; omega⟩
    · rintro ⟨receipt, hreceipt, hone, hcount⟩
      cases hreceipt
      have hlt : id.ordinal - 1 < completion.intents.length := by
        have : id.ordinal ≤ completion.intents.length := hcount
        omega
      exact ⟨_, hone, _, List.getElem?_eq_getElem hlt, rfl⟩
  · simp only [hcommand, ne_eq, not_false_eq_true, true_and, false_and, or_false, if_false]
    exact Finmap.mem_iff.symm.trans (h.owned id)

theorem Lawful.settled (h : Lawful { m with revision := completion.revision })
    (hready : Ready m completion) (hreceipts : m.receipts.keys.card < m.limits.maxReceipts)
    (hintents : m.outbox.keys.card + completion.intents.length ≤ m.limits.maxOutboxIntents)
    (houtbox : insertIntents completion.command m.outbox 0 completion.intents = .ok outbox) :
    Lawful (m.settled completion outbox) := by
  obtain ⟨husers, hgroups, -, -⟩ := h.sizes
  refine ⟨⟨husers, hgroups, ?_, (insertIntents_card houtbox).trans hintents⟩, h.graph, h.groups,
    fun id group hgroup => ?_, h.messages, h.inboxes, fun command receipt hreceipt => ?_,
    h.owned_settled hready houtbox, fun id intent hintent => ?_⟩
  · dsimp only [SocialRegistry.settled]
    rw [keys_insert]
    exact (Finset.card_insert_le _ _).trans hreceipts
  · obtain ⟨messages, hhistory⟩ := h.histories id group hgroup
    exact ⟨messages, hhistory.1, hhistory.2, hhistory.3, hhistory.4, hhistory.5⟩
  · dsimp only [SocialRegistry.settled] at hreceipt
    rw [lookup_insert_ite] at hreceipt
    split at hreceipt
    · next heq =>
      cases hreceipt
      exact ⟨heq.symm, hready.actor, hready.revision, le_rfl⟩
    · exact h.receipts command receipt hreceipt
  · dsimp only [SocialRegistry.settled] at hintent
    rcases (h.intents_settled hready houtbox id intent).mp hintent with ⟨hne, hold⟩ | hnew
    · obtain ⟨hmatches, hid, hordinal, hpayload⟩ := h.outbox id intent hold
      rw [IntentHolds]
      dsimp only [SocialRegistry.settled]
      rw [lookup_insert_ite, if_neg hne]
      exact ⟨hmatches, hid, hordinal, hpayload⟩
    · obtain ⟨hcommand, hone, payload, hposition, rfl⟩ := hnew
      obtain ⟨hmatches, hpayload⟩ := hready.payloads payload (List.mem_of_getElem? hposition)
      rw [IntentHolds]
      dsimp only [SocialRegistry.settled]
      rw [hcommand, Finmap.lookup_insert]
      refine ⟨hmatches, rfl, by omega, fun receipt hreceipt => ?_⟩
      cases hreceipt
      exact hpayload

def Sound (error : SocialError) : Prop :=
  error ≠ invariantError ∧ error.reason ≠ "message_sequence_overflow"

structure Candidate (r m : SocialRegistry) : Prop where
  config : m.config = r.config
  receipts : m.receipts = r.receipts
  outbox : m.outbox = r.outbox

theorem finish_ensures {Q : CommandReceipt × SocialRegistry → Prop} (hm : Candidate r m)
    (h : Lawful { m with revision := completion.revision }) (hready : Ready m completion)
    (hQ : ∀ outbox, insertIntents completion.command m.outbox 0 completion.intents = .ok outbox →
      Lawful (m.settled completion outbox) → Q (completion.receipt, m.settled completion outbox)) :
    Ensures Q Sound (r.finishCommand m completion) := by
  simp only [finishCommand, ensures_bind, ensures_require, ensures_fetch]
  refine ⟨fun hreceipts => ⟨fun projected hprojected => ⟨fun hintents => ⟨fun count hcount => ?_,
    fun _ => ⟨nofun, by decide⟩⟩, fun _ => ⟨nofun, by decide⟩⟩, fun _ => ⟨nofun, by decide⟩⟩,
    fun _ => ⟨nofun, by decide⟩⟩
  obtain ⟨hsmall, rfl⟩ := fits_some.mp hcount
  obtain ⟨outbox, houtbox⟩ := insertIntents_succeeds m.outbox 0 (by rw [Nat.zero_add]; exact hsmall)
  obtain ⟨-, rfl⟩ := checkedAdd_some.mp hprojected
  have hlimits : m.limits = r.limits := by rw [limits, limits, hm.config]
  have hlawful := h.settled hready (by rw [hm.receipts, hlimits]; exact hreceipts)
    (by rw [hm.outbox, hlimits]; exact hintents) houtbox
  exact ensures_of_ok houtbox (ensures_of_ok hlawful.valid (hQ outbox houtbox hlawful))

end SocialRegistry

end Social
