import TrillionniumGame.Social.Completion

namespace Social
open Checks FiniteMap
open Identity (AccountId)

namespace UserPair

variable {pair pair' : UserPair} {a b c d : AccountId}

def Joins (pair : UserPair) (a b : AccountId) : Prop :=
  (pair.low = a ∧ pair.high = b) ∨ (pair.low = b ∧ pair.high = a)

theorem Joins.symm (h : pair.Joins a b) : pair.Joins b a := Or.symm h

theorem joins_comm : pair.Joins a b ↔ pair.Joins b a := ⟨Joins.symm, Joins.symm⟩

theorem Joins.ne (h : pair.Joins a b) : a ≠ b := by
  have hne := ne_of_lt pair.ordered
  rcases h with ⟨rfl, rfl⟩ | ⟨rfl, rfl⟩
  · exact hne
  · exact hne.symm

theorem Joins.unique (h : pair.Joins a b) (h' : pair'.Joins a b) : pair = pair' := by
  obtain ⟨low, high, hlt⟩ := pair
  obtain ⟨low', high', hlt'⟩ := pair'
  rcases h with ⟨rfl, rfl⟩ | ⟨rfl, rfl⟩
  · rcases h' with ⟨rfl, rfl⟩ | ⟨rfl, rfl⟩
    · rfl
    · exact absurd hlt hlt'.asymm
  · rcases h' with ⟨rfl, rfl⟩ | ⟨rfl, rfl⟩
    · exact absurd hlt hlt'.asymm
    · rfl

theorem Joins.ends (h : pair.Joins a b) (h' : pair.Joins c d) :
    (c = a ∧ d = b) ∨ (c = b ∧ d = a) := by
  rcases h with ⟨rfl, rfl⟩ | ⟨rfl, rfl⟩
  · rcases h' with ⟨rfl, rfl⟩ | ⟨rfl, rfl⟩
    · exact .inl ⟨rfl, rfl⟩
    · exact .inr ⟨rfl, rfl⟩
  · rcases h' with ⟨rfl, rfl⟩ | ⟨rfl, rfl⟩
    · exact .inr ⟨rfl, rfl⟩
    · exact .inl ⟨rfl, rfl⟩

theorem new_ok (h : new a b = .ok pair) : pair.Joins a b := by
  rw [new] at h
  split at h
  · cases h
    exact .inl ⟨rfl, rfl⟩
  · split at h
    · cases h
      exact .inr ⟨rfl, rfl⟩
    · cases h

theorem Joins.new (h : pair.Joins a b) : new a b = .ok pair := by
  cases hnew : UserPair.new a b with
  | ok pair' => rw [h.unique (new_ok hnew)]
  | error error =>
    rw [UserPair.new] at hnew
    rcases lt_or_gt_of_ne h.ne with hlt | hlt
    · rw [dif_pos hlt] at hnew
      cases hnew
    · rw [dif_neg hlt.asymm, dif_pos hlt] at hnew
      cases hnew

theorem other_iff : pair.other a = some b ↔ pair.Joins a b := by
  have hne := ne_of_lt pair.ordered
  rw [other, Joins]
  split
  · next hlow =>
    subst hlow
    simp [hne.symm, eq_comm]
  · next hlow =>
    split
    · next hhigh =>
      subst hhigh
      simp [Ne.symm hlow]
    · next hhigh => simp [Ne.symm hlow, Ne.symm hhigh]

end UserPair

namespace SocialRegistry

variable {r : SocialRegistry} {a b : AccountId} {pair : UserPair}

theorem areFriends_iff : r.areFriends a b = true ↔ ∃ pair ∈ r.friendships, pair.Joins a b := by
  rw [areFriends]
  constructor
  · intro h
    cases hnew : UserPair.new a b with
    | error error => rw [hnew] at h; cases h
    | ok pair =>
      rw [hnew] at h
      exact ⟨pair, of_decide_eq_true h, UserPair.new_ok hnew⟩
  · rintro ⟨pair, hpair, hjoins⟩
    rw [hjoins.new]
    exact decide_eq_true hpair

theorem areFriends_comm : r.areFriends a b = true ↔ r.areFriends b a = true := by
  simp only [areFriends_iff]
  exact exists_congr fun pair => and_congr_right fun _ => UserPair.joins_comm

theorem areFriends_insert : SocialRegistry.areFriends { r with
    friendships := insert pair r.friendships } a b = true ↔
      pair.Joins a b ∨ r.areFriends a b = true := by
  simp only [areFriends_iff, Finset.mem_insert, or_and_right, exists_or, exists_eq_left]

theorem areFriends_erase : SocialRegistry.areFriends { r with
    friendships := r.friendships.erase pair } a b = true ↔
      ¬ pair.Joins a b ∧ r.areFriends a b = true := by
  simp only [areFriends_iff, Finset.mem_erase]
  constructor
  · rintro ⟨found, ⟨hne, hfound⟩, hjoins⟩
    exact ⟨fun hpair => hne (hjoins.unique hpair), found, hfound, hjoins⟩
  · rintro ⟨hpair, found, hfound, hjoins⟩
    exact ⟨found, ⟨fun heq => hpair (heq ▸ hjoins), hfound⟩, hjoins⟩

theorem mem_edgePeers {edge : AccountId × AccountId} :
    b ∈ edgePeers a edge ↔ edge = (a, b) ∨ edge = (b, a) := by
  obtain ⟨source, target⟩ := edge
  rw [edgePeers]
  dsimp only
  split
  · next heq =>
    subst heq
    simp only [Finset.mem_singleton, Prod.mk.injEq, true_and]
    constructor
    · exact fun h => .inl h.symm
    · rintro (h | ⟨rfl, rfl⟩)
      · exact h.symm
      · rfl
  · next hsource =>
    split
    · next heq =>
      subst heq
      simp [hsource, eq_comm]
    · next htarget => simp [hsource, htarget]

theorem mem_relationshipPeers :
    b ∈ r.relationshipPeers a ↔ r.hasRelationshipPair a b = true := by
  have hfriends : b ∈ r.friendsOf a ↔ r.areFriends a b = true := by
    simp only [friendsOf, Finset.mem_biUnion, Option.mem_toFinset, Option.mem_def,
      UserPair.other_iff, areFriends_iff]
  have hedges : ∀ edges : Finset (AccountId × AccountId),
      b ∈ edges.biUnion (edgePeers a) ↔ (a, b) ∈ edges ∨ (b, a) ∈ edges := by
    intro edges
    simp only [Finset.mem_biUnion, mem_edgePeers, and_or_left, exists_or, exists_eq_right]
  simp only [relationshipPeers, Finset.mem_union, hfriends, hedges, hasRelationshipPair,
    Bool.or_eq_true, decide_eq_true_eq, or_assoc]

structure Graph (r : SocialRegistry) : Prop where
  friends : ∀ a b, r.areFriends a b = true →
    (a ∈ r.users ∧ b ∈ r.users) ∧ (a, b) ∉ r.friendRequests ∧ (a, b) ∉ r.blocks
  requests : ∀ a b, (a, b) ∈ r.friendRequests → (a ≠ b ∧ a ∈ r.users ∧ b ∈ r.users) ∧
    (a, b) ∉ r.blocks ∧ (b, a) ∉ r.blocks ∧ (b, a) ∉ r.friendRequests
  blocks : ∀ a b, (a, b) ∈ r.blocks → a ≠ b ∧ a ∈ r.users ∧ b ∈ r.users
  room : ∀ a ∈ r.users, (r.relationshipPeers a).card ≤ r.limits.maxRelationshipsPerUser

theorem GraphHolds.graph (h : r.GraphHolds) : Graph r := by
  obtain ⟨hfriends, hrequests, hblocks, hroom⟩ := h
  refine ⟨fun a b hab => ?_, fun a b hab => ?_, fun a b hab => ?_, hroom⟩
  · obtain ⟨pair, hpair, hjoins⟩ := areFriends_iff.mp hab
    obtain ⟨hlow, hhigh, hrequest, hrequest', hblock, hblock'⟩ := hfriends pair hpair
    rcases hjoins with ⟨rfl, rfl⟩ | ⟨rfl, rfl⟩
    · exact ⟨⟨hlow, hhigh⟩, hrequest, hblock⟩
    · exact ⟨⟨hhigh, hlow⟩, hrequest', hblock'⟩
  · obtain ⟨⟨hne, ha, hb, -⟩, hblock, hblock', hrequest⟩ := hrequests (a, b) hab
    exact ⟨⟨hne, ha, hb⟩, hblock, hblock', hrequest⟩
  · obtain ⟨⟨hne, ha, hb, -⟩, -⟩ := hblocks (a, b) hab
    exact ⟨hne, ha, hb⟩

theorem Graph.holds (h : Graph r) : r.GraphHolds := by
  have hunfriendly : ∀ a b, (a, b) ∈ r.friendRequests ∨ (a, b) ∈ r.blocks →
      r.areFriends a b = false := by
    intro a b hab
    by_contra hfriends
    obtain ⟨-, hrequest, hblock⟩ := h.friends a b (Bool.eq_true_of_not_eq_false hfriends)
    exact hab.elim hrequest hblock
  refine ⟨fun pair hpair => ?_, fun edge hedge => ?_, fun edge hedge => ?_, h.room⟩
  · obtain ⟨⟨hlow, hhigh⟩, hrequest, hblock⟩ :=
      h.friends pair.low pair.high (areFriends_iff.mpr ⟨pair, hpair, .inl ⟨rfl, rfl⟩⟩)
    obtain ⟨-, hrequest', hblock'⟩ :=
      h.friends pair.high pair.low (areFriends_iff.mpr ⟨pair, hpair, .inr ⟨rfl, rfl⟩⟩)
    exact ⟨hlow, hhigh, hrequest, hrequest', hblock, hblock'⟩
  · obtain ⟨⟨hne, ha, hb⟩, hblock, hblock', hrequest⟩ := h.requests edge.1 edge.2 hedge
    exact ⟨⟨hne, ha, hb, hunfriendly _ _ (.inl hedge)⟩, hblock, hblock', hrequest⟩
  · obtain ⟨hne, ha, hb⟩ := h.blocks edge.1 edge.2 hedge
    exact ⟨⟨hne, ha, hb, hunfriendly _ _ (.inr hedge)⟩,
      fun hrequest => (h.requests _ _ hrequest).2.1 hedge,
      fun hrequest => (h.requests _ _ hrequest).2.2.1 hedge⟩

theorem related_iff : r.hasRelationshipPair a b = true ↔ r.areFriends a b = true ∨
    ((a, b) ∈ r.friendRequests ∨ (b, a) ∈ r.friendRequests) ∨
      (a, b) ∈ r.blocks ∨ (b, a) ∈ r.blocks := by
  simp only [hasRelationshipPair, Bool.or_eq_true, decide_eq_true_eq, or_assoc]

theorem related_comm : r.hasRelationshipPair a b = true ↔ r.hasRelationshipPair b a = true := by
  simp only [related_iff, areFriends_comm (a := a), or_comm]

theorem relationship_none (h : r.relationship a b = .ok .none) :
    r.hasRelationshipPair a b = false := by
  simp only [relationship, bind_ok, require_ok, ensureKnownUser, exists_const] at h
  obtain ⟨-, -, pair, hpair, hview⟩ := h
  replace hview := Except.ok.inj hview
  by_contra hrelated
  rw [Bool.not_eq_false, related_iff, areFriends_iff] at hrelated
  split at hview
  · cases hview
  · next hmutual =>
    split at hview
    · cases hview
    · next hactor =>
      split at hview
      · cases hview
      · next hother =>
        split at hview
        · cases hview
        · next hfriends =>
          split at hview
          · cases hview
          · next hout =>
            split at hview
            · cases hview
            · next hin =>
              rw [decide_eq_true_eq] at hactor hother
              rcases hrelated with ⟨found, hfound, hjoins⟩ | (hreq | hreq) | hblock | hblock
              · exact hfriends ((UserPair.new_ok hpair).unique hjoins ▸ hfound)
              · exact hout hreq
              · exact hin hreq
              · exact hactor hblock
              · exact hother hblock

def Roomy (r : SocialRegistry) (a b : AccountId) : Prop :=
  r.hasRelationshipPair a b = true ∨
    ((r.relationshipPeers a).card < r.limits.maxRelationshipsPerUser ∧
      (r.relationshipPeers b).card < r.limits.maxRelationshipsPerUser)

section Changes
variable {m : SocialRegistry} {x y : AccountId}

variable (h : Graph r)
include h

theorem Graph.peers_room (husers : m.users = r.users) (hconfig : m.config = r.config)
    (hroom : Roomy r x y)
    (hrelated : ∀ a b, m.hasRelationshipPair a b = true → r.hasRelationshipPair a b = true ∨ (a = x ∧ b = y) ∨ (a = y ∧ b = x)) :
    ∀ a ∈ m.users, (m.relationshipPeers a).card ≤ m.limits.maxRelationshipsPerUser := by
  intro a ha
  have hmax : m.limits = r.limits := by rw [limits, limits, hconfig]
  have hold := h.room a (husers ▸ ha)
  rw [hmax]
  by_cases hsub : m.relationshipPeers a ⊆ r.relationshipPeers a
  · exact (Finset.card_le_card hsub).trans hold
  · rcases hroom with hxy | ⟨hx, hy⟩
    · refine absurd (fun b hb => ?_) hsub
      rw [mem_relationshipPeers] at hb ⊢
      rcases hrelated a b hb with hin | ⟨rfl, rfl⟩ | ⟨rfl, rfl⟩
      · exact hin
      · exact hxy
      · exact related_comm.mp hxy
    · have hone : ∀ c, m.relationshipPeers a ⊆ insert c (r.relationshipPeers a) →
          (r.relationshipPeers a).card < r.limits.maxRelationshipsPerUser →
          (m.relationshipPeers a).card ≤ r.limits.maxRelationshipsPerUser := by
        intro c hinsert hless
        exact (Finset.card_le_card hinsert).trans ((Finset.card_insert_le _ _).trans hless)
      by_cases hax : a = x
      · subst hax
        refine hone y (fun b hb => ?_) hx
        rw [mem_relationshipPeers] at hb
        rw [Finset.mem_insert, mem_relationshipPeers]
        rcases hrelated a b hb with hin | ⟨-, rfl⟩ | ⟨rfl, rfl⟩
        · exact .inr hin
        · exact .inl rfl
        · exact .inl rfl
      · by_cases hay : a = y
        · subst hay
          refine hone x (fun b hb => ?_) hy
          rw [mem_relationshipPeers] at hb
          rw [Finset.mem_insert, mem_relationshipPeers]
          rcases hrelated a b hb with hin | ⟨rfl, -⟩ | ⟨-, rfl⟩
          · exact .inr hin
          · exact absurd rfl hax
          · exact .inl rfl
        · refine absurd (fun b hb => ?_) hsub
          rw [mem_relationshipPeers] at hb ⊢
          rcases hrelated a b hb with hin | ⟨rfl, -⟩ | ⟨rfl, -⟩
          · exact hin
          · exact absurd rfl hax
          · exact absurd rfl hay

theorem Graph.requested (hne : x ≠ y) (hx : x ∈ r.users) (hy : y ∈ r.users)
    (hnone : r.hasRelationshipPair x y = false) (hroom : Roomy r x y) :
    Graph { r with friendRequests := insert (x, y) r.friendRequests } := by
  rw [← Bool.not_eq_true, related_iff] at hnone
  push Not at hnone
  obtain ⟨hfriends, ⟨hreq, hreq'⟩, hblock, hblock'⟩ := hnone
  refine ⟨fun a b hab => ?_, fun a b hab => ?_, h.blocks, h.peers_room rfl rfl hroom ?_⟩
  · obtain ⟨husers, hout, hfree⟩ := h.friends a b hab
    refine ⟨husers, fun hin => ?_, hfree⟩
    rcases Finset.mem_insert.mp hin with heq | hold
    · cases heq
      exact hfriends hab
    · exact hout hold
  · rcases Finset.mem_insert.mp hab with heq | hold
    · cases heq
      refine ⟨⟨hne, hx, hy⟩, hblock, hblock', fun hin => ?_⟩
      rcases Finset.mem_insert.mp hin with heq | hin
      · exact hne (Prod.mk.inj heq).1.symm
      · exact hreq' hin
    · obtain ⟨hends, hfree, hfree', hinverse⟩ := h.requests a b hold
      refine ⟨hends, hfree, hfree', fun hin => ?_⟩
      rcases Finset.mem_insert.mp hin with heq | hin
      · cases heq
        exact hreq' hold
      · exact hinverse hin
  · intro a b hab
    rw [related_iff] at hab ⊢
    simp only [Finset.mem_insert, Prod.mk.injEq] at hab
    have hsame : SocialRegistry.areFriends { r with
      friendRequests := insert (x, y) r.friendRequests } a b = r.areFriends a b := rfl
    rw [hsame] at hab
    rcases hab with hab | ((hnew | hab) | hnew | hab) | hab
    · exact .inl (.inl hab)
    · exact .inr (.inl hnew)
    · exact .inl (.inr (.inl (.inl hab)))
    · exact .inr (.inr hnew.symm)
    · exact .inl (.inr (.inl (.inr hab)))
    · exact .inl (.inr (.inr hab))

theorem Graph.accepted (hjoins : pair.Joins x y) (hrequest : (y, x) ∈ r.friendRequests) :
    Graph { r with
      friendRequests := r.friendRequests.erase (y, x)
      friendships := insert pair r.friendships } := by
  obtain ⟨⟨hne, hy, hx⟩, hblock, hblock', hinverse⟩ := h.requests y x hrequest
  have hfriends : ∀ a b, SocialRegistry.areFriends { r with
      friendRequests := r.friendRequests.erase (y, x)
      friendships := insert pair r.friendships } a b = true ↔
        pair.Joins a b ∨ r.areFriends a b = true := fun a b => areFriends_insert
  have hroom : Roomy r x y := .inl (related_iff.mpr (.inr (.inl (.inr hrequest))))
  refine ⟨fun a b hab => ?_, fun a b hab => ?_, h.blocks, h.peers_room rfl rfl hroom ?_⟩
  · rcases (hfriends a b).mp hab with hnew | hold
    · rcases hjoins.ends hnew with ⟨rfl, rfl⟩ | ⟨rfl, rfl⟩
      · exact ⟨⟨hx, hy⟩, fun hin => hinverse (Finset.mem_of_mem_erase hin), hblock'⟩
      · exact ⟨⟨hy, hx⟩, Finset.notMem_erase _ _, hblock⟩
    · obtain ⟨husers, hout, hfree⟩ := h.friends a b hold
      exact ⟨husers, fun hin => hout (Finset.mem_of_mem_erase hin), hfree⟩
  · obtain ⟨hends, hfree, hfree', hout⟩ := h.requests a b (Finset.mem_of_mem_erase hab)
    exact ⟨hends, hfree, hfree', fun hin => hout (Finset.mem_of_mem_erase hin)⟩
  · intro a b hab
    rw [related_iff, hfriends] at hab
    simp only [Finset.mem_erase] at hab
    rw [related_iff]
    rcases hab with (hnew | hab) | (⟨-, hab⟩ | ⟨-, hab⟩) | hab
    · exact .inr (hjoins.ends hnew)
    · exact .inl (.inl hab)
    · exact .inl (.inr (.inl (.inl hab)))
    · exact .inl (.inr (.inl (.inr hab)))
    · exact .inl (.inr (.inr hab))

theorem Graph.unfriended : Graph { r with friendships := r.friendships.erase pair } := by
  have hfriends : ∀ a b, SocialRegistry.areFriends { r with
      friendships := r.friendships.erase pair } a b = true → r.areFriends a b = true :=
    fun a b hab => (areFriends_erase.mp hab).2
  refine ⟨fun a b hab => h.friends a b (hfriends a b hab), h.requests, h.blocks, fun a ha => ?_⟩
  refine (Finset.card_le_card fun b hb => ?_).trans (h.room a ha)
  rw [mem_relationshipPeers, related_iff] at hb ⊢
  exact hb.imp_left (hfriends a b)

theorem Graph.blocked (hx : x ∈ r.users) (hy : y ∈ r.users) (hjoins : pair.Joins x y)
    (hroom : Roomy r x y) : Graph { r with
      friendships := r.friendships.erase pair
      friendRequests := (r.friendRequests.erase (x, y)).erase (y, x)
      blocks := insert (x, y) r.blocks } := by
  have hfriends : ∀ a b, SocialRegistry.areFriends { r with
      friendships := r.friendships.erase pair
      friendRequests := (r.friendRequests.erase (x, y)).erase (y, x)
      blocks := insert (x, y) r.blocks } a b = true ↔
        ¬ pair.Joins a b ∧ r.areFriends a b = true := fun a b => areFriends_erase
  have hrequests : ∀ a b, (a, b) ∈ (r.friendRequests.erase (x, y)).erase (y, x) ↔
      ((a, b) ≠ (y, x) ∧ (a, b) ≠ (x, y)) ∧ (a, b) ∈ r.friendRequests := by
    intro a b
    rw [Finset.mem_erase, Finset.mem_erase, and_assoc]
  refine ⟨fun a b hab => ?_, fun a b hab => ?_, fun a b hab => ?_, h.peers_room rfl rfl hroom ?_⟩
  · obtain ⟨hother, hold⟩ := (hfriends a b).mp hab
    obtain ⟨husers, hout, hfree⟩ := h.friends a b hold
    refine ⟨husers, fun hin => hout ((hrequests a b).mp hin).2, fun hin => ?_⟩
    rcases Finset.mem_insert.mp hin with heq | hin
    · cases heq
      exact hother hjoins
    · exact hfree hin
  · obtain ⟨⟨hne, hne'⟩, hold⟩ := (hrequests a b).mp hab
    obtain ⟨hends, hfree, hfree', hout⟩ := h.requests a b hold
    refine ⟨hends, fun hin => ?_, fun hin => ?_, fun hin => hout ((hrequests b a).mp hin).2⟩
    · exact (Finset.mem_insert.mp hin).elim hne' hfree
    · rcases Finset.mem_insert.mp hin with heq | hin
      · cases heq
        exact hne rfl
      · exact hfree' hin
  · rcases Finset.mem_insert.mp hab with heq | hold
    · cases heq
      exact ⟨hjoins.ne, hx, hy⟩
    · exact h.blocks a b hold
  · intro a b hab
    rw [related_iff, hfriends] at hab
    simp only [Finset.mem_erase, Finset.mem_insert, Prod.mk.injEq] at hab
    rw [related_iff]
    rcases hab with ⟨-, hab⟩ | (⟨-, -, hab⟩ | ⟨-, -, hab⟩) | (hnew | hab) | hnew | hab
    · exact .inl (.inl hab)
    · exact .inl (.inr (.inl (.inl hab)))
    · exact .inl (.inr (.inl (.inr hab)))
    · exact .inr (.inl hnew)
    · exact .inl (.inr (.inr (.inl hab)))
    · exact .inr (.inr hnew.symm)
    · exact .inl (.inr (.inr (.inr hab)))

theorem Graph.unblocked : Graph { r with blocks := r.blocks.erase (x, y) } := by
  refine ⟨fun a b hab => ?_, fun a b hab => ?_, fun a b hab => ?_, fun a ha => ?_⟩
  · obtain ⟨husers, hout, hfree⟩ := h.friends a b hab
    exact ⟨husers, hout, fun hin => hfree (Finset.mem_of_mem_erase hin)⟩
  · obtain ⟨hends, hfree, hfree', hout⟩ := h.requests a b hab
    exact ⟨hends, fun hin => hfree (Finset.mem_of_mem_erase hin),
      fun hin => hfree' (Finset.mem_of_mem_erase hin), hout⟩
  · exact h.blocks a b (Finset.mem_of_mem_erase hab)
  · refine (Finset.card_le_card fun b hb => ?_).trans (h.room a ha)
    rw [mem_relationshipPeers, related_iff] at hb ⊢
    simp only [Finset.mem_erase] at hb
    exact hb.imp_right (Or.imp_right (Or.imp And.right And.right))

theorem Graph.registered {account : AccountId} (hnew : account ∉ r.users) :
    Graph { r with users := insert account r.users } := by
  refine ⟨fun a b hab => ?_, fun a b hab => ?_, fun a b hab => ?_, fun a ha => ?_⟩
  · obtain ⟨⟨ha, hb⟩, hrest⟩ := h.friends a b hab
    exact ⟨⟨Finset.mem_insert_of_mem ha, Finset.mem_insert_of_mem hb⟩, hrest⟩
  · obtain ⟨⟨hne, ha, hb⟩, hrest⟩ := h.requests a b hab
    exact ⟨⟨hne, Finset.mem_insert_of_mem ha, Finset.mem_insert_of_mem hb⟩, hrest⟩
  · obtain ⟨hne, ha, hb⟩ := h.blocks a b hab
    exact ⟨hne, Finset.mem_insert_of_mem ha, Finset.mem_insert_of_mem hb⟩
  · rcases Finset.mem_insert.mp ha with rfl | hold
    · suffices hempty : r.relationshipPeers a = ∅ by
        change (r.relationshipPeers a).card ≤ _
        rw [hempty]
        exact Nat.zero_le _
      refine Finset.eq_empty_of_forall_notMem fun b hb => hnew ?_
      rw [mem_relationshipPeers, related_iff] at hb
      rcases hb with hfriends | (hreq | hreq) | hblock | hblock
      · exact (h.friends a b hfriends).1.1
      · exact (h.requests a b hreq).1.2.1
      · exact (h.requests b a hreq).1.2.2
      · exact (h.blocks a b hblock).2.1
      · exact (h.blocks b a hblock).2.2
    · exact h.room a hold

end Changes

end SocialRegistry

def Holds (group : GroupRecord) (account : AccountId) (minimum : GroupRole) : Prop :=
  ∃ role, group.members.lookup account = some role ∧ minimum.rank ≤ role.rank

theorem holds_superadmin {group : GroupRecord} {account : AccountId} :
    Holds group account .superadmin ↔ group.members.lookup account = some .superadmin := by
  constructor
  · rintro ⟨role, hrole, hrank⟩
    cases role with
    | superadmin => exact hrole
    | admin | member => exact absurd hrank (by decide)
  · exact fun h => ⟨.superadmin, h, le_rfl⟩

inductive GroupMove (users : Finset AccountId) (groupId : GroupId) (group : GroupRecord) :
    SocialOperation → GroupRecord → ReceiptOutcome → List OutboxIntentPayload → Prop
  | joined (actor : AccountId) (revision : Nat) (hknown : actor ∈ users)
      (hnew : actor ∉ group.members) (hasked : actor ∉ group.joinRequests)
      (hfree : actor ∉ group.banned) (hroom : group.members.keys.card < group.maxMembers) :
      GroupMove users groupId group (.joinGroup groupId actor)
        { group with members := group.members.insert actor .member, revision := revision }
        .groupJoined [.groupJoinAccepted groupId actor actor]
  | asked (actor : AccountId) (revision : Nat) (hknown : actor ∈ users)
      (hnew : actor ∉ group.members) (hfree : actor ∉ group.banned) :
      GroupMove users groupId group (.joinGroup groupId actor)
        { group with joinRequests := insert actor group.joinRequests, revision := revision }
        .groupJoinRequested [.groupJoinRequested groupId actor]
  | approved (actor target : AccountId) (revision : Nat) (hknown : actor ∈ users ∧ target ∈ users)
      (hrole : Holds group actor .admin) (hasked : target ∈ group.joinRequests)
      (hroom : group.members.keys.card < group.maxMembers) :
      GroupMove users groupId group (.approveGroupJoin groupId actor target)
        { group with
          joinRequests := group.joinRequests.erase target
          members := group.members.insert target .member
          revision := revision }
        .groupJoinApproved [.groupJoinAccepted groupId actor target]
  | roleChanged (actor target : AccountId) (current role : GroupRole) (revision : Nat)
      (hknown : actor ∈ users ∧ target ∈ users) (hrole : Holds group actor .superadmin)
      (hcurrent : group.members.lookup target = some current)
      (hlast : ¬ (current = .superadmin ∧ role ≠ .superadmin ∧ superadminCount group = 1)) :
      GroupMove users groupId group (.changeGroupRole groupId actor target role)
        { group with members := group.members.insert target role, revision := revision }
        .groupRoleChanged [.groupRoleChanged groupId actor target role]
  | left (actor : AccountId) (current : GroupRole) (revision : Nat) (hknown : actor ∈ users)
      (hcurrent : group.members.lookup actor = some current)
      (hlast : ¬ (current = .superadmin ∧ superadminCount group = 1)) :
      GroupMove users groupId group (.leaveGroup groupId actor)
        { group with members := group.members.erase actor, revision := revision } .groupLeft []
  | banned (actor target : AccountId) (revision : Nat) (hknown : actor ∈ users ∧ target ∈ users)
      (hrole : Holds group actor .admin)
      (hbelow : group.members.lookup target ≠ some .superadmin) :
      GroupMove users groupId group (.banGroupMember groupId actor target)
        { group with
          members := group.members.erase target
          joinRequests := group.joinRequests.erase target
          banned := insert target group.banned
          revision := revision } .groupMemberBanned []
  | unbanned (actor target : AccountId) (revision : Nat) (hknown : actor ∈ users ∧ target ∈ users)
      (hrole : Holds group actor .admin) :
      GroupMove users groupId group (.unbanGroupMember groupId actor target)
        { group with banned := group.banned.erase target, revision := revision }
        .groupMemberUnbanned []

structure People (users : Finset AccountId) (group : GroupRecord) : Prop where
  room : group.members.keys.card ≤ group.maxMembers
  led : ∃ account, group.members.lookup account = some .superadmin
  members : ∀ account ∈ group.members,
    account ∈ users ∧ account ∉ group.joinRequests ∧ account ∉ group.banned
  requests : ∀ account ∈ group.joinRequests, account ∈ users ∧ account ∉ group.banned
  banned : ∀ account ∈ group.banned, account ∈ users

variable {users : Finset AccountId} {groupId : GroupId} {group group' : GroupRecord}
  {operation : SocialOperation} {outcome : ReceiptOutcome} {intents : List OutboxIntentPayload}
  {account actor target : AccountId}

theorem other_superadmin (h : superadminCount group ≠ 1)
    (htarget : group.members.lookup target = some .superadmin) :
    ∃ account, account ≠ target ∧ group.members.lookup account = some .superadmin := by
  have hpositive : superadminCount group ≠ 0 := superadminCount_ne_zero.mpr ⟨target, htarget⟩
  have hmany : 1 < (superadmins group).card := by
    rw [superadminCount] at h hpositive
    omega
  obtain ⟨account, haccount, hne⟩ := Finset.exists_mem_ne hmany target
  exact ⟨account, hne, mem_superadmins.mp haccount⟩

namespace People

variable (h : People users group)
include h

theorem joined (revision : Nat) (hknown : actor ∈ users) (hnew : actor ∉ group.members)
    (hasked : actor ∉ group.joinRequests) (hfree : actor ∉ group.banned)
    (hroom : group.members.keys.card < group.maxMembers) : People users
      { group with members := group.members.insert actor .member, revision := revision } := by
  obtain ⟨leader, hleader⟩ := h.led
  refine ⟨?_, ⟨leader, ?_⟩, fun account haccount => ?_, h.requests, h.banned⟩
  · dsimp only
    rw [keys_insert]
    exact (Finset.card_insert_le _ _).trans hroom
  · have hne : leader ≠ actor := fun heq => hnew (heq ▸ mem_of_lookup hleader)
    dsimp only
    rw [Finmap.lookup_insert_of_ne _ hne, hleader]
  · rcases Finmap.mem_insert.mp haccount with rfl | hold
    · exact ⟨hknown, hasked, hfree⟩
    · exact h.members account hold

theorem asked (revision : Nat) (hknown : actor ∈ users) (hnew : actor ∉ group.members)
    (hfree : actor ∉ group.banned) : People users
      { group with joinRequests := insert actor group.joinRequests, revision := revision } := by
  refine ⟨h.room, h.led, fun account haccount => ?_, fun account haccount => ?_, h.banned⟩
  · obtain ⟨hin, hout, hnot⟩ := h.members account haccount
    refine ⟨hin, fun hasked => ?_, hnot⟩
    rcases Finset.mem_insert.mp hasked with rfl | hold
    · exact hnew haccount
    · exact hout hold
  · rcases Finset.mem_insert.mp haccount with rfl | hold
    · exact ⟨hknown, hfree⟩
    · exact h.requests account hold

theorem approved (revision : Nat) (hasked : target ∈ group.joinRequests)
    (hroom : group.members.keys.card < group.maxMembers) : People users { group with
      joinRequests := group.joinRequests.erase target
      members := group.members.insert target .member
      revision := revision } := by
  obtain ⟨leader, hleader⟩ := h.led
  obtain ⟨hknown, hfree⟩ := h.requests target hasked
  have hnew : target ∉ group.members := fun hin => (h.members target hin).2.1 hasked
  refine ⟨?_, ⟨leader, ?_⟩, fun account haccount => ?_, fun account haccount => ?_, h.banned⟩
  · dsimp only
    rw [keys_insert]
    exact (Finset.card_insert_le _ _).trans hroom
  · have hne : leader ≠ target := fun heq => hnew (heq ▸ mem_of_lookup hleader)
    dsimp only
    rw [Finmap.lookup_insert_of_ne _ hne, hleader]
  · rcases Finmap.mem_insert.mp haccount with rfl | hold
    · exact ⟨hknown, Finset.notMem_erase _ _, hfree⟩
    · obtain ⟨hin, hout, hnot⟩ := h.members account hold
      exact ⟨hin, fun hrequest => hout (Finset.mem_of_mem_erase hrequest), hnot⟩
  · exact h.requests account (Finset.mem_of_mem_erase haccount)

theorem roleChanged {current role : GroupRole} (revision : Nat)
    (hcurrent : group.members.lookup target = some current)
    (hlast : ¬ (current = .superadmin ∧ role ≠ .superadmin ∧ superadminCount group = 1)) :
    People users
      { group with members := group.members.insert target role, revision := revision } := by
  have hmember := mem_of_lookup hcurrent
  refine ⟨?_, ?_, fun account haccount => ?_, h.requests, h.banned⟩
  · dsimp only
    rw [keys_insert, Finset.insert_eq_self.mpr (Finmap.mem_keys.mpr hmember)]
    exact h.room
  · dsimp only
    by_cases hrole : role = .superadmin
    · exact ⟨target, by rw [Finmap.lookup_insert, hrole]⟩
    · have hother : ∃ leader, leader ≠ target ∧ group.members.lookup leader = some .superadmin := by
        by_cases hsuper : current = .superadmin
        · exact other_superadmin (fun hone => hlast ⟨hsuper, hrole, hone⟩) (hsuper ▸ hcurrent)
        · obtain ⟨leader, hleader⟩ := h.led
          refine ⟨leader, fun heq => hsuper ?_, hleader⟩
          rw [heq, hcurrent] at hleader
          exact Option.some.inj hleader
      obtain ⟨leader, hne, hleader⟩ := hother
      exact ⟨leader, by rw [Finmap.lookup_insert_of_ne _ hne, hleader]⟩
  · rcases Finmap.mem_insert.mp haccount with rfl | hold
    · exact h.members account hmember
    · exact h.members account hold

theorem left {current : GroupRole} (revision : Nat)
    (hcurrent : group.members.lookup actor = some current)
    (hlast : ¬ (current = .superadmin ∧ superadminCount group = 1)) : People users
      { group with members := group.members.erase actor, revision := revision } := by
  refine ⟨?_, ?_, fun account haccount => ?_, h.requests, h.banned⟩
  · dsimp only
    rw [Finmap.keys_erase]
    exact Finset.card_erase_le.trans h.room
  · dsimp only
    have hother : ∃ leader, leader ≠ actor ∧ group.members.lookup leader = some .superadmin := by
      by_cases hsuper : current = .superadmin
      · exact other_superadmin (fun hone => hlast ⟨hsuper, hone⟩) (hsuper ▸ hcurrent)
      · obtain ⟨leader, hleader⟩ := h.led
        refine ⟨leader, fun heq => hsuper ?_, hleader⟩
        rw [heq, hcurrent] at hleader
        exact Option.some.inj hleader
    obtain ⟨leader, hne, hleader⟩ := hother
    exact ⟨leader, by rw [Finmap.lookup_erase_ne hne, hleader]⟩
  · exact h.members account (Finmap.mem_erase.mp haccount).2

theorem bannedFrom (revision : Nat) (hknown : target ∈ users)
    (hbelow : group.members.lookup target ≠ some .superadmin) : People users { group with
      members := group.members.erase target
      joinRequests := group.joinRequests.erase target
      banned := insert target group.banned
      revision := revision } := by
  obtain ⟨leader, hleader⟩ := h.led
  refine ⟨?_, ⟨leader, ?_⟩, fun account haccount => ?_, fun account haccount => ?_,
    fun account haccount => ?_⟩
  · dsimp only
    rw [Finmap.keys_erase]
    exact Finset.card_erase_le.trans h.room
  · have hne : leader ≠ target := fun heq => hbelow (heq ▸ hleader)
    dsimp only
    rw [Finmap.lookup_erase_ne hne, hleader]
  · obtain ⟨hne, hmember⟩ := Finmap.mem_erase.mp haccount
    obtain ⟨hin, hout, hnot⟩ := h.members account hmember
    exact ⟨hin, fun hrequest => hout (Finset.mem_of_mem_erase hrequest),
      fun hban => (Finset.mem_insert.mp hban).elim hne hnot⟩
  · obtain ⟨hne, hrequest⟩ := Finset.mem_erase.mp haccount
    obtain ⟨hin, hnot⟩ := h.requests account hrequest
    exact ⟨hin, fun hban => (Finset.mem_insert.mp hban).elim hne hnot⟩
  · rcases Finset.mem_insert.mp haccount with rfl | hold
    · exact hknown
    · exact h.banned account hold

theorem unbanned (revision : Nat) :
    People users { group with banned := group.banned.erase target, revision := revision } := by
  refine ⟨h.room, h.led, fun account haccount => ?_, fun account haccount => ?_,
    fun account haccount => h.banned account (Finset.mem_of_mem_erase haccount)⟩
  · obtain ⟨hin, hout, hnot⟩ := h.members account haccount
    exact ⟨hin, hout, fun hban => hnot (Finset.mem_of_mem_erase hban)⟩
  · obtain ⟨hin, hnot⟩ := h.requests account haccount
    exact ⟨hin, fun hban => hnot (Finset.mem_of_mem_erase hban)⟩

theorem moved (hmove : GroupMove users groupId group operation group' outcome intents) :
    People users group' := by
  cases hmove with
  | joined actor revision hknown hnew hasked hfree hroom =>
    exact h.joined revision hknown hnew hasked hfree hroom
  | asked actor revision hknown hnew hfree => exact h.asked revision hknown hnew hfree
  | approved actor target revision hknown hrole hasked hroom => exact h.approved revision hasked hroom
  | roleChanged actor target current role revision hknown hrole hcurrent hlast =>
    exact h.roleChanged revision hcurrent hlast
  | left actor current revision hknown hcurrent hlast => exact h.left revision hcurrent hlast
  | banned actor target revision hknown hrole hbelow => exact h.bannedFrom revision hknown.2 hbelow
  | unbanned actor target revision hknown hrole => exact h.unbanned revision

end People

namespace SocialRegistry

variable {r : SocialRegistry}

structure Shaped (r : SocialRegistry) (groupId : GroupId) (group : GroupRecord) : Prop where
  id : group.id = groupId
  limit : group.maxMembers ≠ 0 ∧ group.maxMembers ≤ r.limits.maxGroupMembers
  next : group.nextMessageSequence ≠ 0

theorem groupHolds_iff :
    r.GroupHolds groupId group ↔ Shaped r groupId group ∧ People r.users group := by
  constructor
  · rintro ⟨⟨hid, hnonzero, hlimit, -, hroom, hsuper, hnext⟩, hmembers, hrequests, hbanned⟩
    exact ⟨⟨hid, ⟨hnonzero, hlimit⟩, hnext⟩, hroom, superadminCount_ne_zero.mp hsuper,
      fun account haccount => hmembers account (Finmap.mem_keys.mpr haccount), hrequests, hbanned⟩
  · rintro ⟨⟨hid, ⟨hnonzero, hlimit⟩, hnext⟩, hpeople⟩
    obtain ⟨leader, hleader⟩ := hpeople.led
    refine ⟨⟨hid, hnonzero, hlimit, fun hempty => ?_, hpeople.room,
      superadminCount_ne_zero.mpr hpeople.led, hnext⟩,
      fun account haccount => hpeople.members account (Finmap.mem_keys.mp haccount),
      hpeople.requests, hpeople.banned⟩
    exact Finset.notMem_empty leader (hempty ▸ Finmap.mem_keys.mpr (mem_of_lookup hleader))

theorem Shaped.moved (h : Shaped r groupId group)
    (hmove : GroupMove users groupId group operation group' outcome intents) :
    Shaped r groupId group' ∧ group'.nextMessageSequence = group.nextMessageSequence := by
  cases hmove with
  | joined | asked | approved | roleChanged | left | banned | unbanned =>
    exact ⟨⟨h.id, h.limit, h.next⟩, rfl⟩

end SocialRegistry

end Social
