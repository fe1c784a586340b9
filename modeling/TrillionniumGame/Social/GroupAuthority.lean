import TrillionniumGame.Social.Invariants

namespace Social
open Checks FiniteMap Runs
open Identity (AccountId)

namespace GroupMove

variable {users : Finset AccountId} {groupId : GroupId} {group group' : GroupRecord}
  {operation : SocialOperation} {outcome : ReceiptOutcome} {intents : List OutboxIntentPayload}
  {account : AccountId} {role : GroupRole}
  (hmove : GroupMove users groupId group operation group' outcome intents)
include hmove

theorem risen (hold : group.members.lookup account ≠ some role)
    (hnow : group'.members.lookup account = some role)
    (habove : GroupRole.member.rank < role.rank) :
    ∃ actor, operation = .changeGroupRole groupId actor account role ∧
      group.members.lookup actor = some .superadmin := by
  have hmember : some GroupRole.member ≠ some role := by
    intro heq
    rw [← Option.some.inj heq] at habove
    exact Nat.lt_irrefl _ habove
  cases hmove with
  | joined actor | approved actor target =>
    dsimp only at hnow
    rw [lookup_insert_ite] at hnow
    split at hnow
    · exact absurd hnow hmember
    · exact absurd hnow hold
  | asked | unbanned => exact absurd hnow hold
  | roleChanged actor target current changed revision hknown hrole =>
    dsimp only at hnow
    rw [lookup_insert_ite] at hnow
    split at hnow
    · next heq =>
      cases hnow
      exact ⟨actor, by rw [heq], holds_superadmin.mp hrole⟩
    · exact absurd hnow hold
  | left actor | banned actor target =>
    dsimp only at hnow
    rw [lookup_erase_ite] at hnow
    split at hnow
    · cases hnow
    · exact absurd hnow hold

theorem fallen (hpeople : People users group)
    (hold : group.members.lookup account = some .superadmin)
    (hnow : group'.members.lookup account ≠ some .superadmin) :
    operation = .leaveGroup groupId account ∨
      ∃ actor role, operation = .changeGroupRole groupId actor account role ∧
        group.members.lookup actor = some .superadmin := by
  cases hmove with
  | joined actor revision hknown hnew =>
    dsimp only at hnow
    rw [lookup_insert_ite] at hnow
    split at hnow
    · next heq => exact absurd (heq ▸ mem_of_lookup hold) hnew
    · exact absurd hold hnow
  | asked | unbanned => exact absurd hold hnow
  | approved actor target revision hknown hrole hasked =>
    dsimp only at hnow
    rw [lookup_insert_ite] at hnow
    split at hnow
    · next heq =>
      exact absurd (heq ▸ hasked) (hpeople.members account (mem_of_lookup hold)).2.1
    · exact absurd hold hnow
  | roleChanged actor target current changed revision hknown hrole =>
    dsimp only at hnow
    rw [lookup_insert_ite] at hnow
    split at hnow
    · next heq => exact .inr ⟨actor, changed, by rw [heq], holds_superadmin.mp hrole⟩
    · exact absurd hold hnow
  | left actor =>
    dsimp only at hnow
    rw [lookup_erase_ite] at hnow
    split at hnow
    · next heq => exact .inl (by rw [heq])
    · exact absurd hold hnow
  | banned actor target revision hknown hrole hbelow =>
    dsimp only at hnow
    rw [lookup_erase_ite] at hnow
    split at hnow
    · next heq => exact absurd (heq ▸ hold) hbelow
    · exact absurd hold hnow

theorem pardoned (hold : account ∈ group.banned) (hnow : account ∉ group'.banned) :
    ∃ actor, operation = .unbanGroupMember groupId actor account ∧ Holds group actor .admin := by
  cases hmove with
  | joined | asked | approved | roleChanged | left => exact absurd hold hnow
  | banned => exact absurd (Finset.mem_insert_of_mem hold) hnow
  | unbanned actor target revision hknown hrole =>
    by_cases heq : account = target
    · exact ⟨actor, by rw [heq], hrole⟩
    · exact absurd (Finset.mem_erase.mpr ⟨heq, hold⟩) hnow

end GroupMove

namespace SocialRegistry

variable {r r' : SocialRegistry} {request : SocialRequest} {groupId : GroupId}
  {account : AccountId} {role : GroupRole} {requests : List SocialRequest}

inductive Regrouped (r : SocialRegistry) : SocialRequest → Dict GroupId GroupRecord → Prop
  | same (request : SocialRequest) : Regrouped r request r.groups
  | created (command : SocialCommandId) (fingerprint : CommandFingerprint)
      (request : CreateGroupRequest) (group : GroupRecord) (hnew : request.group ∉ r.groups)
      (hmembers : group.members = Finmap.singleton request.creator .superadmin) :
      Regrouped r (.submit command fingerprint (.createGroup request))
        (r.groups.insert request.group group)
  | moved (command : SocialCommandId) (fingerprint : CommandFingerprint)
      (operation : SocialOperation) (groupId : GroupId) (group group' : GroupRecord)
      (outcome : ReceiptOutcome) (intents : List OutboxIntentPayload)
      (hgroup : r.groups.lookup groupId = some group)
      (hmove : GroupMove r.users groupId group operation group' outcome intents) :
      Regrouped r (.submit command fingerprint operation) (r.groups.insert groupId group')
  | posted (request : SocialRequest) (groupId : GroupId) (group : GroupRecord) (next : Nat)
      (hgroup : r.groups.lookup groupId = some group) :
      Regrouped r request (r.groups.insert groupId { group with nextMessageSequence := next })

theorem Stepped.regrouped (h : Stepped r request r') : Regrouped r request r'.groups := by
  cases h with
  | stayed | registered => exact .same _
  | applied command fingerprint operation m outcome intents outbox hfresh heffect =>
    cases heffect with
    | requested | accepted | unfriended | blocked | unblocked | notified | markedRead | deleted =>
      exact .same _
    | created request hcreator hroom hnew =>
      exact .created command fingerprint request _ hnew rfl
    | moved operation groupId group group' outcome intents hgroup hmove =>
      exact .moved command fingerprint operation groupId group group' outcome intents hgroup hmove
    | posted request group messages hsender hgroup => exact .posted _ request.group group _ hgroup

def roleOf (r : SocialRegistry) (groupId : GroupId) (account : AccountId) : Option GroupRole :=
  (r.groups.lookup groupId).bind fun group => group.members.lookup account

def bannedFrom (r : SocialRegistry) (groupId : GroupId) : Finset AccountId :=
  (r.groups.lookup groupId).elim ∅ (·.banned)

def requestersOf (r : SocialRegistry) (groupId : GroupId) : Finset AccountId :=
  (r.groups.lookup groupId).elim ∅ (·.joinRequests)

variable {group : GroupRecord}

theorem roleOf_eq (hgroup : r.groups.lookup groupId = some group) :
    r.roleOf groupId account = group.members.lookup account := by
  rw [roleOf, hgroup, Option.bind_some]

variable {other : GroupId} {groups : Dict GroupId GroupRecord}

theorem roleOf_insert (hgroups : r'.groups = groups.insert other group) :
    r'.roleOf groupId account =
      if groupId = other then group.members.lookup account
      else (groups.lookup groupId).bind fun group => group.members.lookup account := by
  rw [roleOf, hgroups, lookup_insert_ite]
  split <;> rfl

theorem Stepped.risen (h : Stepped r request r') (hold : r.roleOf groupId account ≠ some role)
    (hnow : r'.roleOf groupId account = some role) (habove : GroupRole.member.rank < role.rank) :
    (∃ command fingerprint creation, request = .submit command fingerprint (.createGroup creation) ∧
      creation.group = groupId ∧ creation.creator = account ∧ groupId ∉ r.groups) ∨
    ∃ command fingerprint actor, request = .submit command fingerprint
      (.changeGroupRole groupId actor account role) ∧ r.roleOf groupId actor = some .superadmin := by
  have hregrouped := h.regrouped
  generalize hgroups : r'.groups = groups at hregrouped
  cases hregrouped with
  | same =>
    rw [roleOf, hgroups] at hnow
    exact absurd hnow hold
  | created command fingerprint creation group hnew hmembers =>
    rw [roleOf_insert hgroups] at hnow
    split at hnow
    · next heq =>
      rw [hmembers] at hnow
      have hcreator : account = creation.creator :=
        (Finmap.mem_singleton ..).mp (mem_of_lookup hnow)
      exact .inl ⟨command, fingerprint, creation, rfl, heq.symm, hcreator.symm, heq ▸ hnew⟩
    · exact absurd hnow hold
  | moved command fingerprint operation other group group' outcome intents hgroup hmove =>
    rw [roleOf_insert hgroups] at hnow
    split at hnow
    · next heq =>
      subst heq
      rw [roleOf_eq hgroup] at hold
      obtain ⟨actor, rfl, hactor⟩ := hmove.risen hold hnow habove
      exact .inr ⟨command, fingerprint, actor, rfl, by rw [roleOf_eq hgroup, hactor]⟩
    · exact absurd hnow hold
  | posted request other group next hgroup =>
    rw [roleOf_insert hgroups] at hnow
    split at hnow
    · next heq =>
      subst heq
      rw [roleOf_eq hgroup] at hold
      exact absurd hnow hold
    · exact absurd hnow hold

theorem Stepped.fallen (h : Stepped r request r') (hlawful : Lawful r)
    (hold : r.roleOf groupId account = some .superadmin)
    (hnow : r'.roleOf groupId account ≠ some .superadmin) :
    (∃ command fingerprint,
      request = .submit command fingerprint (.leaveGroup groupId account)) ∨
    ∃ command fingerprint actor role, request = .submit command fingerprint
      (.changeGroupRole groupId actor account role) ∧ r.roleOf groupId actor = some .superadmin := by
  have hregrouped := h.regrouped
  generalize hgroups : r'.groups = groups at hregrouped
  cases hregrouped with
  | same =>
    rw [roleOf, hgroups] at hnow
    exact absurd hold hnow
  | created command fingerprint creation group hnew =>
    rw [roleOf_insert hgroups] at hnow
    split at hnow
    · next heq =>
      obtain ⟨found, hfound, -⟩ := Option.bind_eq_some_iff.mp hold
      exact absurd (heq ▸ mem_of_lookup hfound) hnew
    · exact absurd hold hnow
  | moved command fingerprint operation other group group' outcome intents hgroup hmove =>
    rw [roleOf_insert hgroups] at hnow
    split at hnow
    · next heq =>
      subst heq
      rw [roleOf_eq hgroup] at hold
      obtain ⟨-, hpeople⟩ := groupHolds_iff.mp (hlawful.groups groupId group hgroup)
      rcases hmove.fallen hpeople hold hnow with rfl | ⟨actor, role, rfl, hactor⟩
      · exact .inl ⟨command, fingerprint, rfl⟩
      · exact .inr ⟨command, fingerprint, actor, role, rfl, by rw [roleOf_eq hgroup, hactor]⟩
    · exact absurd hold hnow
  | posted request other group next hgroup =>
    rw [roleOf_insert hgroups] at hnow
    split at hnow
    · next heq =>
      subst heq
      rw [roleOf_eq hgroup] at hold
      exact absurd hold hnow
    · exact absurd hold hnow

theorem bannedFrom_eq (hgroup : r.groups.lookup groupId = some group) :
    r.bannedFrom groupId = group.banned := by
  rw [bannedFrom, hgroup, Option.elim_some]

theorem bannedFrom_mem (h : account ∈ r.bannedFrom groupId) :
    ∃ group, r.groups.lookup groupId = some group ∧ account ∈ group.banned := by
  cases hgroup : r.groups.lookup groupId with
  | none =>
    rw [bannedFrom, hgroup] at h
    exact absurd h (Finset.notMem_empty _)
  | some group => exact ⟨group, rfl, bannedFrom_eq hgroup ▸ h⟩

theorem bannedFrom_insert (hgroups : r'.groups = groups.insert other group) :
    r'.bannedFrom groupId =
      if groupId = other then group.banned else (groups.lookup groupId).elim ∅ (·.banned) := by
  rw [bannedFrom, hgroups, lookup_insert_ite]
  split <;> rfl

def Unbans (r : SocialRegistry) (groupId : GroupId) (account : AccountId) (request : SocialRequest) :
    Prop :=
  ∃ command fingerprint actor role, request = .submit command fingerprint
    (.unbanGroupMember groupId actor account) ∧ r.roleOf groupId actor = some role ∧
      GroupRole.admin.rank ≤ role.rank

theorem Stepped.pardoned (h : Stepped r request r') (hold : account ∈ r.bannedFrom groupId)
    (hnow : account ∉ r'.bannedFrom groupId) : Unbans r groupId account request := by
  have hregrouped := h.regrouped
  generalize hgroups : r'.groups = groups at hregrouped
  cases hregrouped with
  | same =>
    rw [bannedFrom, hgroups] at hnow
    exact absurd hold hnow
  | created command fingerprint creation group hnew =>
    rw [bannedFrom_insert hgroups] at hnow
    split at hnow
    · next heq =>
      obtain ⟨found, hfound, -⟩ := bannedFrom_mem hold
      exact absurd (heq ▸ mem_of_lookup hfound) hnew
    · exact absurd hold hnow
  | moved command fingerprint operation other group group' outcome intents hgroup hmove =>
    rw [bannedFrom_insert hgroups] at hnow
    split at hnow
    · next heq =>
      subst heq
      rw [bannedFrom_eq hgroup] at hold
      obtain ⟨actor, rfl, role, hrole, hrank⟩ := hmove.pardoned hold hnow
      exact ⟨command, fingerprint, actor, role, rfl, by rw [roleOf_eq hgroup, hrole], hrank⟩
    · exact absurd hold hnow
  | posted request other group next hgroup =>
    rw [bannedFrom_insert hgroups] at hnow
    split at hnow
    · next heq =>
      subst heq
      rw [bannedFrom_eq hgroup] at hold
      exact absurd hold hnow
    · exact absurd hold hnow

theorem banned_until (h : Lawful r) (hban : account ∈ r.bannedFrom groupId)
    (hrun : Run socialRegistry r requests r') : account ∈ r'.bannedFrom groupId ∨
      ∃ before request rest s, requests = before ++ request :: rest ∧
        Run socialRegistry r before s ∧ Unbans s groupId account request := by
  induction hrun with
  | nil => exact .inl hban
  | @snoc t u requests request hrun hstep ih =>
    rcases ih with hstill | ⟨before, earlier, rest, s, rfl, hbefore, hunbans⟩
    · by_cases hnow : account ∈ u.bannedFrom groupId
      · exact .inl hnow
      · exact .inr ⟨requests, request, [], t, rfl, hrun,
          ((h.run hrun).step hstep).pardoned hstill hnow⟩
    · exact .inr ⟨before, earlier, rest ++ [request], s, by simp, hbefore, hunbans⟩

theorem Lawful.banned_apart (h : Lawful r) (hban : account ∈ r.bannedFrom groupId) :
    r.roleOf groupId account = none ∧ account ∉ r.requestersOf groupId := by
  obtain ⟨group, hgroup, hbanned⟩ := bannedFrom_mem hban
  obtain ⟨-, hpeople⟩ := groupHolds_iff.mp (h.groups groupId group hgroup)
  refine ⟨?_, fun hrequest => ?_⟩
  · rw [roleOf_eq hgroup, Finmap.lookup_eq_none]
    exact fun hmember => (hpeople.members account hmember).2.2 hbanned
  · rw [requestersOf, hgroup, Option.elim_some] at hrequest
    exact (hpeople.requests account hrequest).2 hbanned

def Replays (r : SocialRegistry) (command : SocialCommandId) (answer : Answer) : Prop :=
  ∀ receipt r', answer = .ok (receipt, r') → r' = r ∧ r.receipts.lookup command = some receipt

theorem Lawful.banned_cannot_join (h : Lawful r) (hban : account ∈ r.bannedFrom groupId)
    (command : SocialCommandId) (fingerprint : CommandFingerprint) :
    Replays r command (r.joinGroup command fingerprint groupId account) := by
  intro receipt r' hok
  obtain ⟨group, hgroup, hbanned⟩ := bannedFrom_mem hban
  cases (joinGroup_sure h).of_ok hok with
  | replayed receipt hfound => exact ⟨rfl, hfound⟩
  | applied m outcome intents outbox hfresh heffect =>
    cases heffect with
    | moved operation other found group' outcome intents hfound hmove =>
      cases hmove with
      | joined actor revision hknown hnew hasked hfree | asked actor revision hknown hnew hfree =>
        cases Option.mem_unique hgroup hfound
        exact absurd hbanned hfree

theorem Lawful.banned_cannot_post (h : Lawful r) {request : SendGroupMessageRequest}
    (hban : request.sender ∈ r.bannedFrom request.group) (command : SocialCommandId)
    (fingerprint : CommandFingerprint) :
    Replays r command (r.sendGroupMessage command fingerprint request) := by
  intro receipt r' hok
  cases (sendGroupMessage_sure h request).of_ok hok with
  | replayed receipt hfound => exact ⟨rfl, hfound⟩
  | applied m outcome intents outbox hfresh heffect =>
    cases heffect with
    | moved operation groupId group group' outcome intents hgroup hmove => cases hmove
    | posted request group messages hsender hgroup hmember =>
      obtain ⟨hnone, -⟩ := h.banned_apart hban
      rw [roleOf_eq hgroup, Finmap.lookup_eq_none] at hnone
      exact absurd hmember hnone

end SocialRegistry

open SocialRegistry

structure Governed (r : SocialRegistry) : Prop where
  risen : ∀ request groupId account role, r.roleOf groupId account ≠ some role →
    (r.after request).roleOf groupId account = some role → GroupRole.member.rank < role.rank →
    (∃ command fingerprint creation, request = .submit command fingerprint (.createGroup creation) ∧
      creation.group = groupId ∧ creation.creator = account ∧ groupId ∉ r.groups) ∨
    ∃ command fingerprint actor, request = .submit command fingerprint
      (.changeGroupRole groupId actor account role) ∧ r.roleOf groupId actor = some .superadmin
  fallen : ∀ request groupId account, r.roleOf groupId account = some .superadmin →
    (r.after request).roleOf groupId account ≠ some .superadmin →
    (∃ command fingerprint, request = .submit command fingerprint (.leaveGroup groupId account)) ∨
    ∃ command fingerprint actor role, request = .submit command fingerprint
      (.changeGroupRole groupId actor account role) ∧ r.roleOf groupId actor = some .superadmin
  apart : ∀ groupId, ∀ account ∈ r.bannedFrom groupId,
    r.roleOf groupId account = none ∧ account ∉ r.requestersOf groupId
  joinless : ∀ groupId, ∀ account ∈ r.bannedFrom groupId, ∀ command fingerprint,
    Replays r command (r.joinGroup command fingerprint groupId account)
  postless : ∀ request : SendGroupMessageRequest, request.sender ∈ r.bannedFrom request.group →
    ∀ command fingerprint, Replays r command (r.sendGroupMessage command fingerprint request)
  lasting : ∀ groupId, ∀ account ∈ r.bannedFrom groupId, ∀ requests r',
    Run socialRegistry r requests r' → account ∈ r'.bannedFrom groupId ∨
      ∃ before request rest s, requests = before ++ request :: rest ∧
        Run socialRegistry r before s ∧ Unbans s groupId account request
  led : ∀ groupId ∈ r.groups, ∃ account, r.roleOf groupId account = some .superadmin

theorem group_authority_over_runs {r : SocialRegistry} (hreach : Reachable socialRegistry r) :
    Governed r := by
  have h := lawful_of_reachable hreach
  have hstep := fun request => (h.step rfl : Stepped r request (r.after request))
  refine ⟨fun request groupId account role hold hnow habove => ?_,
    fun request groupId account hold hnow => ?_, fun groupId account hban => h.banned_apart hban,
    fun groupId account hban => h.banned_cannot_join hban, fun request hban => h.banned_cannot_post hban,
    fun groupId account hban requests r' hrun => banned_until h hban hrun, fun groupId hin => ?_⟩
  · exact (hstep request).risen hold hnow habove
  · exact (hstep request).fallen h hold hnow
  · obtain ⟨group, hgroup⟩ := Finmap.mem_iff.mp hin
    obtain ⟨-, hpeople⟩ := groupHolds_iff.mp (h.groups groupId group hgroup)
    obtain ⟨leader, hleader⟩ := hpeople.led
    exact ⟨leader, by rw [roleOf_eq hgroup, hleader]⟩

theorem group_authority_over_runs_sample :
    sampleMember 2 (by decide) ∈ (served sampleRequests).bannedFrom (sampleId 1 (by decide)) ∧
      (served sampleRequests).roleOf (sampleId 1 (by decide)) (sampleMember 1 (by decide)) =
        some .superadmin ∧ Governed (served sampleRequests) :=
  ⟨by decide +kernel, by decide +kernel, group_authority_over_runs (reachable_served sampleRequests)⟩

end Social
