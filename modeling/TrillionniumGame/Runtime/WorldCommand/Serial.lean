import TrillionniumGame.Foundation.Sha256
import TrillionniumGame.Foundation.Sequences
import TrillionniumGame.Foundation.Words
import TrillionniumGame.Runtime.WorldCommand.Chain

namespace WorldCommand
open Checks FiniteMap GoText History Runs Words WorldTransition

variable {Value : Type} {platform : Platform Value}

def Store.generations (s : Store) (id : GoString) : List Nat :=
  (s.retiredGenerations id).map (·.generation) ++
    ((s.reservations.lookup id).toList.map (·.generation) ++
      (s.receipts.lookup id).toList.map (·.generation))

structure Advance (platform : Platform Value) (a : Accepted) : Prop where
  prepared : PreparedFrom platform a.before a.reservation
  matchVersion : a.after.matchVersion.toNat = a.before.matchVersion.toNat + 1
  eventSequence :
    a.after.nextGlobalEventSequence.toNat = a.before.nextGlobalEventSequence.toNat + 1
  stateRevision : a.after.stateRevision = a.before.stateRevision + 1
  tick : a.before.tick ≤ a.after.tick
  participant : ∀ p, (a.after.participantSequence p).toNat =
    (a.before.participantSequence p).toNat + if a.reservation.participantID = p then 1 else 0
  receipted : Receipted a

def Chain.states (c : Chain) : List MatchState := c.initial :: c.accepted.map (·.after)

def Chain.Linked (c : Chain) : Prop :=
  History.Linked (·.before) (·.after) c.initial c.accepted c.store.state

structure Sound (platform : Platform Value) (c : Chain) : Prop where
  keyed : c.Keyed
  exclusive : ∀ id receipt, c.store.receipts.lookup id = some receipt →
    c.store.reservations.lookup id = none
  generations : ∀ id, (c.store.generations id).Pairwise (· < ·)
  linked : c.Linked
  advance : ∀ a ∈ c.accepted, Advance platform a
  pending : ∀ id r, c.store.reservations.lookup id = some r →
    ∃ state ∈ c.states, PreparedFrom platform state r
  recorded : ∀ id receipt, c.store.receipts.lookup id = some receipt →
    receipt.clientCommandID = id ∧
      (receipt.disposition = dispositionAccepted → ∃ a ∈ c.accepted, a.receipt = receipt)
  kept : ∀ a ∈ c.accepted,
    c.store.receipts.lookup a.receipt.clientCommandID = some a.receipt
  distinct : (c.accepted.map (·.receipt.clientCommandID)).Nodup

theorem participantSequence_accepted (state : MatchState) (current : Reservation)
    (verified : VerifiedTransition) (nextTick : Int64) (nextStateHash p : GoString) :
    (Store.acceptedState state current verified nextTick nextStateHash).participantSequence p =
      if p = current.participantID then current.participantSequence
      else state.participantSequence p := by
  simp only [MatchState.participantSequence, Store.acceptedState, lookup_insert_ite]
  split
  · rfl
  · rfl

theorem PreparedFrom.advance {state : MatchState} {current : Reservation} {receipt : Receipt}
    {verified : VerifiedTransition} {nextTick : Int64} {nextStateHash : GoString}
    (h : PreparedFrom platform state current) (htick : state.tick ≤ nextTick)
    (hreceipt : Receipted ⟨current, receipt, state,
      Store.acceptedState state current verified nextTick nextStateHash⟩) :
    Advance platform ⟨current, receipt, state,
      Store.acceptedState state current verified nextTick nextStateHash⟩ where
  prepared := h
  matchVersion := by
    have hlt := toUInt64_lt h.matchVersion.1
    rw [h.matchVersion.2] at hlt
    exact toNat_succ_of_lt (by omega)
  eventSequence := by
    have hlt := toUInt64_lt h.eventSequence.1
    rw [h.eventSequence.2] at hlt
    exact toNat_succ_of_lt (by omega)
  stateRevision := rfl
  tick := htick
  participant p := by
    rw [participantSequence_accepted]
    by_cases hp : p = current.participantID
    · have hsequence := h.sequence
      have hne := h.positive
      rw [hsequence] at hne
      rw [if_pos hp, if_pos hp.symm, hsequence, hp]
      exact toNat_succ_of_ne hne
    · rw [if_neg hp, if_neg (Ne.symm hp), Nat.add_zero]
  receipted := hreceipt

theorem lt_nextGeneration {retired : List Reservation} {r : Reservation} (h : r ∈ retired) :
    r.generation < Store.nextGeneration retired := by
  suffices ∀ n, n ≤ retired.foldl (fun generation reservation =>
      if reservation.generation ≥ generation then reservation.generation + 1 else generation) n ∧
      ∀ r ∈ retired, r.generation < retired.foldl (fun generation reservation =>
        if reservation.generation ≥ generation then reservation.generation + 1
        else generation) n from (this 1).2 r h
  clear h
  induction retired with
  | nil => exact fun n => ⟨le_rfl, by simp⟩
  | cons head rest ih =>
    intro n
    obtain ⟨hle, hlt⟩ := ih (if head.generation ≥ n then head.generation + 1 else n)
    rw [List.foldl_cons]
    refine ⟨le_trans ?_ hle, ?_⟩
    · split <;> omega
    · intro r hr
      rcases List.mem_cons.mp hr with rfl | hr
      · refine lt_of_lt_of_le ?_ hle
        split <;> omega
      · exact hlt r hr

def Extends (gs gs' : List Nat) : Prop := gs' = gs ∨ ∃ g, gs' = gs ++ [g] ∧ ∀ g' ∈ gs, g' < g

theorem Extends.pairwise {gs gs' : List Nat} (h : Extends gs gs') (hp : gs.Pairwise (· < ·)) :
    gs'.Pairwise (· < ·) := by
  rcases h with rfl | ⟨g, rfl, hlt⟩
  · exact hp
  · rw [List.pairwise_append]
    exact ⟨hp, List.pairwise_singleton _ _, fun a ha b hb => List.mem_singleton.mp hb ▸ hlt a ha⟩

theorem Extends.isPrefix {gs gs' : List Nat} (h : Extends gs gs') : gs <+: gs' := by
  rcases h with rfl | ⟨g, rfl, _⟩
  · exact List.prefix_rfl
  · exact List.prefix_append _ _

section
variable {c c' : Chain}

theorem retiredGenerations_append (s : Store) (key id : GoString) (r : Reservation) :
    ((s.retired.insert key (s.retiredGenerations key ++ [r])).lookup id).getD [] =
      s.retiredGenerations id ++ if id = key then [r] else [] := by
  rw [lookup_insert_ite]
  split
  · next h => simp [h]
  · simp [Store.retiredGenerations]

variable {s : Store} {id : GoString}

theorem generations_of_lookups {s' : Store}
    (hreservations : s'.reservations.lookup id = s.reservations.lookup id)
    (hreceipts : s'.receipts.lookup id = s.receipts.lookup id)
    (hretired : s'.retiredGenerations id = s.retiredGenerations id) :
    s'.generations id = s.generations id := by
  unfold Store.generations
  rw [hreservations, hreceipts, hretired]

theorem generations_pending {r : Reservation} (hreservation : s.reservations.lookup id = some r)
    (hreceipt : s.receipts.lookup id = none) :
    s.generations id = (s.retiredGenerations id).map (·.generation) ++ [r.generation] := by
  simp [Store.generations, hreservation, hreceipt]

theorem generations_closed (receipt : Receipt) (hreservation : s.reservations.lookup id = none)
    (hreceipt : s.receipts.lookup id = some receipt) :
    s.generations id = (s.retiredGenerations id).map (·.generation) ++ [receipt.generation] := by
  simp [Store.generations, hreservation, hreceipt]

theorem generations_idle (hreservation : s.reservations.lookup id = none)
    (hreceipt : s.receipts.lookup id = none) :
    s.generations id = (s.retiredGenerations id).map (·.generation) := by
  simp [Store.generations, hreservation, hreceipt]

variable {current : Reservation}

theorem Sound.receipt_of_pending (hs : Sound platform c) (h : c.Pending current) :
    c.store.receipts.lookup current.clientCommandID = none := by
  cases hr : c.store.receipts.lookup current.clientCommandID with
  | none => rfl
  | some receipt => cases (hs.exclusive _ _ hr).symm.trans h

theorem receipted_generations {receipt : Receipt} (hpending : c.Pending current)
    (hnone : c.store.receipts.lookup current.clientCommandID = none)
    (hgeneration : receipt.generation = current.generation)
    (hreservations : s.reservations = c.store.reservations.erase current.clientCommandID)
    (hreceipts : s.receipts = c.store.receipts.insert current.clientCommandID receipt)
    (hretired : s.retired = c.store.retired) (id : GoString) :
    s.generations id = c.store.generations id := by
  have hgens : s.retiredGenerations id = c.store.retiredGenerations id := by
    rw [Store.retiredGenerations, hretired, Store.retiredGenerations]
  by_cases hid : id = current.clientCommandID
  · subst hid
    rw [generations_pending hpending hnone, generations_closed receipt ?_ ?_, hgens,
      hgeneration]
    · rw [hreservations, Finmap.lookup_erase]
    · rw [hreceipts, Finmap.lookup_insert]
  · refine generations_of_lookups ?_ ?_ hgens
    · rw [hreservations, Finmap.lookup_erase_ne hid]
    · rw [hreceipts, Finmap.lookup_insert_of_ne _ hid]

theorem Move.generations (h : Move platform c c') (hs : Sound platform c) (id : GoString) :
    Extends (c.store.generations id) (c'.store.generations id) := by
  cases h with
  | same => exact .inl rfl
  | reserve version r hreceipt hreservation hgeneration hprepared =>
    by_cases hid : id = r.clientCommandID
    · subst hid
      refine .inr ⟨r.generation, ?_, ?_⟩
      · rw [generations_idle hreservation hreceipt]
        exact generations_pending (Finmap.lookup_insert _) hreceipt
      · intro g hg
        rw [generations_idle hreservation hreceipt, List.mem_map] at hg
        obtain ⟨r', hr', rfl⟩ := hg
        rw [hgeneration]
        exact lt_nextGeneration hr'
    · exact .inl (generations_of_lookups (Finmap.lookup_insert_of_ne _ hid) rfl rfl)
  | update version current attempts updatedAtUnix hpending =>
    have hnone := hs.receipt_of_pending hpending
    refine .inl ?_
    by_cases hid : id = current.clientCommandID
    · subst hid
      rw [generations_pending hpending hnone]
      refine Eq.trans (generations_pending (Finmap.lookup_insert _) hnone) ?_
      rfl
    · exact generations_of_lookups (Finmap.lookup_insert_of_ne _ hid) rfl rfl
  | retire version current kind reason now hpending =>
    have hnone := hs.receipt_of_pending hpending
    have hretired := retiredGenerations_append c.store current.clientCommandID id
      (Store.retiredReservation current kind reason reason now)
    refine .inl ?_
    by_cases hid : id = current.clientCommandID
    · subst hid
      rw [if_pos rfl] at hretired
      rw [generations_pending hpending hnone]
      refine Eq.trans (generations_idle (Finmap.lookup_erase _ _) hnone) ?_
      refine (congrArg (List.map (·.generation)) hretired).trans ?_
      rw [List.map_append]
      rfl
    · rw [if_neg hid, List.append_nil] at hretired
      exact generations_of_lookups (Finmap.lookup_erase_ne hid) rfl hretired
  | takeover version current reason now hpending =>
    have hnone := hs.receipt_of_pending hpending
    have hretired := retiredGenerations_append c.store current.clientCommandID id
      (takenOver current reason now)
    by_cases hid : id = current.clientCommandID
    · subst hid
      rw [if_pos rfl] at hretired
      have hold := generations_pending hpending hnone
      refine .inr ⟨current.generation + 1, ?_, ?_⟩
      · rw [hold]
        refine Eq.trans (generations_pending (Finmap.lookup_insert _) hnone) ?_
        refine congrArg (· ++ [current.generation + 1]) ?_
        refine (congrArg (List.map (·.generation)) hretired).trans ?_
        rw [List.map_append]
        rfl
      · intro g hg
        have hpairs := hs.generations current.clientCommandID
        rw [hold, List.pairwise_append] at hpairs
        rw [hold, List.mem_append, List.mem_singleton] at hg
        rcases hg with hg | rfl
        · have hlt := hpairs.2.2 g hg current.generation (by simp)
          omega
        · omega
    · rw [if_neg hid, List.append_nil] at hretired
      exact .inl (generations_of_lookups (Finmap.lookup_insert_of_ne _ hid) rfl hretired)
  | reject version current receipt hpending hnone hid' hgeneration hdisposition =>
    refine .inl (receipted_generations hpending hnone hgeneration ?_ ?_ ?_ id) <;> rfl
  | accept version current receipt verified nextTick nextStateHash hpending hnone hfence htick
      hreceipted =>
    refine .inl (receipted_generations hpending hnone hreceipted.generation ?_ ?_ ?_ id) <;> rfl

theorem Move.keyed (h : Move platform c c') (hs : Sound platform c) : c'.Keyed := by
  have hinsert : ∀ (current r : Reservation), r.clientCommandID = current.clientCommandID →
      ∀ key r', (c.store.reservations.insert current.clientCommandID r).lookup key = some r' →
        r'.clientCommandID = key := by
    intro current r heq key r' hlookup
    rw [lookup_insert_ite] at hlookup
    split at hlookup
    · next hkey =>
      cases hlookup
      rw [heq, hkey]
    · exact hs.keyed key r' hlookup
  have herase : ∀ id key r', (c.store.reservations.erase id).lookup key = some r' →
      r'.clientCommandID = key := by
    intro id key r' hlookup
    rw [lookup_erase_ite] at hlookup
    split at hlookup
    · cases hlookup
    · exact hs.keyed key r' hlookup
  cases h with
  | same => exact hs.keyed
  | reserve version r => exact hinsert r r rfl
  | update version current | takeover version current => exact hinsert current _ rfl
  | retire version current | reject version current | accept version current =>
    exact herase current.clientCommandID

theorem Move.exclusive (h : Move platform c c') (hs : Sound platform c) :
    ∀ id receipt, c'.store.receipts.lookup id = some receipt →
      c'.store.reservations.lookup id = none := by
  have hinsert : ∀ key r, c.store.receipts.lookup key = none → ∀ id receipt,
      c.store.receipts.lookup id = some receipt →
        (c.store.reservations.insert key r).lookup id = none := by
    intro key r hnone id receipt hreceipt
    rw [Finmap.lookup_insert_of_ne]
    · exact hs.exclusive id receipt hreceipt
    · rintro rfl
      cases hnone.symm.trans hreceipt
  have herase : ∀ key id, c.store.reservations.lookup id = none →
      (c.store.reservations.erase key).lookup id = none := by
    intro key id hnone
    rw [lookup_erase_ite]
    split
    · rfl
    · exact hnone
  have hclose : ∀ key receipt id receipt',
      (c.store.receipts.insert key receipt).lookup id = some receipt' →
        (c.store.reservations.erase key).lookup id = none := by
    intro key receipt id receipt' hlookup
    rw [lookup_insert_ite] at hlookup
    by_cases hid : id = key
    · rw [hid, Finmap.lookup_erase]
    · rw [if_neg hid] at hlookup
      exact herase key id (hs.exclusive id receipt' hlookup)
  cases h with
  | same => exact hs.exclusive
  | reserve version r hnone => exact hinsert _ _ hnone
  | update version current _ _ hpending | takeover version current _ _ hpending =>
    exact hinsert current.clientCommandID _ (hs.receipt_of_pending hpending)
  | retire version current =>
    exact fun id receipt hlookup =>
      herase current.clientCommandID id (hs.exclusive id receipt hlookup)
  | reject version current receipt | accept version current receipt =>
    exact hclose current.clientCommandID receipt

theorem PreparedFrom.of_same {state : MatchState} {r r' : Reservation}
    (h : PreparedFrom platform state r) (hfence : r'.fence = r.fence)
    (hparticipant : r'.participantID = r.participantID)
    (hsequence : r'.participantSequence = r.participantSequence) (hcontext : r'.context = r.context)
    (hschema : r'.commandSchemaID = r.commandSchemaID) (htransition : r'.transition = r.transition) :
    PreparedFrom platform state r' := by
  obtain ⟨h1, h2, h3, h4, h5, h6, h7⟩ := h
  refine ⟨?_, ?_, ?_, ?_, ?_, ?_, ?_⟩
  · rw [hfence, hparticipant, h1]
  · rw [hsequence, hparticipant, h2]
  · rwa [hsequence]
  · rwa [hcontext]
  · rwa [hcontext]
  · rwa [hcontext]
  · rwa [hcontext, hschema, htransition]

theorem Sound.states_last (hs : Sound platform c) : c.store.state ∈ c.states :=
  hs.linked.last_mem

theorem Move.pending (h : Move platform c c') (hs : Sound platform c) :
    ∀ id r, c'.store.reservations.lookup id = some r →
      ∃ state ∈ c'.states, PreparedFrom platform state r := by
  have hinsert : ∀ key r, (∃ state ∈ c.states, PreparedFrom platform state r) → ∀ id r',
      (c.store.reservations.insert key r).lookup id = some r' →
        ∃ state ∈ c.states, PreparedFrom platform state r' := by
    intro key r hr id r' hlookup
    rw [lookup_insert_ite] at hlookup
    split at hlookup
    · cases hlookup
      exact hr
    · exact hs.pending id r' hlookup
  have herase : ∀ key id r', (c.store.reservations.erase key).lookup id = some r' →
      ∃ state ∈ c.states, PreparedFrom platform state r' := by
    intro key id r' hlookup
    rw [lookup_erase_ite] at hlookup
    split at hlookup
    · cases hlookup
    · exact hs.pending id r' hlookup
  cases h with
  | same => exact hs.pending
  | reserve version r _ _ _ hprepared => exact hinsert _ r ⟨_, hs.states_last, hprepared⟩
  | update version current attempts updatedAtUnix hpending
  | takeover version current reason now hpending =>
    obtain ⟨state, hmem, hprepared⟩ := hs.pending _ _ hpending
    exact hinsert _ _ ⟨state, hmem, hprepared.of_same rfl rfl rfl rfl rfl rfl⟩
  | retire version current | reject version current => exact herase current.clientCommandID
  | accept version current receipt verified nextTick nextStateHash =>
    intro id r hlookup
    obtain ⟨state, hmem, hprepared⟩ := herase current.clientCommandID id r hlookup
    refine ⟨state, ?_, hprepared⟩
    simp only [Chain.states, Chain.accept, List.map_append, List.mem_cons,
      List.mem_append] at hmem ⊢
    rcases hmem with hmem | hmem
    · exact .inl hmem
    · exact .inr (.inl hmem)

theorem Sound.prepared_current (hs : Sound platform c) (hpending : c.Pending current)
    (hfence : c.store.currentFence current.participantID = current.fence) :
    PreparedFrom platform c.store.state current := by
  obtain ⟨state, hmem, hprepared⟩ := hs.pending _ _ hpending
  have hversion : state.matchVersion = c.store.state.matchVersion := by
    have heq := hprepared.fence.symm.trans hfence.symm
    exact congrArg Fence.matchVersion heq
  have hstate : state = c.store.state := by
    refine hs.linked.eq_last (f := fun state => state.matchVersion.toNat) ?_ hmem
      (congrArg UInt64.toNat hversion)
    intro a ha
    have hadvance := (hs.advance a ha).matchVersion
    omega
  rwa [← hstate]

variable (h : Move platform c c')
include h

theorem Move.history (hs : Sound platform c) :
    c'.Linked ∧ ∀ a ∈ c'.accepted, Advance platform a := by
  cases h with
  | accept version current receipt verified nextTick nextStateHash hpending hnone hfence htick
      hreceipted =>
    refine ⟨linked_snoc.mpr ⟨hs.linked, rfl⟩, ?_⟩
    intro a ha
    rcases List.mem_append.mp ha with ha | ha
    · exact hs.advance a ha
    · cases List.mem_singleton.mp ha
      exact (hs.prepared_current hpending hfence).advance htick hreceipted
  | _ => exact ⟨hs.linked, hs.advance⟩

theorem Move.receipts : ∀ id receipt, c.store.receipts.lookup id = some receipt →
      c'.store.receipts.lookup id = some receipt := by
  have hinsert : ∀ key receipt, c.store.receipts.lookup key = none → ∀ id receipt',
      c.store.receipts.lookup id = some receipt' →
        (c.store.receipts.insert key receipt).lookup id = some receipt' := by
    intro key receipt hnone id receipt' hlookup
    rw [Finmap.lookup_insert_of_ne]
    · exact hlookup
    · rintro rfl
      cases hnone.symm.trans hlookup
  cases h with
  | reject version current receipt _ hnone | accept version current receipt _ _ _ _ hnone =>
    exact hinsert _ receipt hnone
  | _ => exact fun _ _ => id

theorem Move.recorded (hs : Sound platform c) :
    ∀ id receipt, c'.store.receipts.lookup id = some receipt →
      receipt.clientCommandID = id ∧
        (receipt.disposition = dispositionAccepted → ∃ a ∈ c'.accepted, a.receipt = receipt) := by
  cases h with
  | reject version current receipt hpending hnone hkey hgeneration hdisposition =>
    intro id receipt' hlookup
    simp only [Chain.next, Store.installDocument, lookup_insert_ite] at hlookup
    split at hlookup
    · next hid =>
      cases hlookup
      exact ⟨hkey.trans hid.symm, fun haccepted => absurd haccepted hdisposition⟩
    · exact hs.recorded id receipt' hlookup
  | accept version current receipt verified nextTick nextStateHash hpending hnone hfence htick
      hreceipted =>
    intro id receipt' hlookup
    simp only [Chain.accept, Store.installDocument, lookup_insert_ite] at hlookup
    simp only [Chain.accept, List.mem_append, List.mem_singleton]
    split at hlookup
    · next hid =>
      cases hlookup
      exact ⟨hreceipted.clientCommandID.trans hid.symm, fun _ => ⟨_, .inr rfl, rfl⟩⟩
    · obtain ⟨hkey, hrecorded⟩ := hs.recorded id receipt' hlookup
      refine ⟨hkey, fun haccepted => ?_⟩
      obtain ⟨a, ha, heq⟩ := hrecorded haccepted
      exact ⟨a, .inl ha, heq⟩
  | _ => exact hs.recorded

theorem Move.kept (hs : Sound platform c) :
    (∀ a ∈ c'.accepted, c'.store.receipts.lookup a.receipt.clientCommandID = some a.receipt) ∧
      (c'.accepted.map (·.receipt.clientCommandID)).Nodup := by
  have hkeep := h.receipts
  cases h with
  | reject => exact ⟨fun a ha => hkeep _ _ (hs.kept a ha), hs.distinct⟩
  | accept version current receipt verified nextTick nextStateHash hpending hnone hfence htick
      hreceipted =>
    constructor
    · intro a ha
      rcases List.mem_append.mp ha with ha | ha
      · exact hkeep _ _ (hs.kept a ha)
      · cases List.mem_singleton.mp ha
        rw [hreceipted.clientCommandID]
        exact Finmap.lookup_insert _
    · have hfresh : receipt.clientCommandID ∉ c.accepted.map (·.receipt.clientCommandID) := by
        intro hmem
        obtain ⟨a, ha, heq⟩ := List.mem_map.mp hmem
        have hlookup := hs.kept a ha
        rw [heq, hreceipted.clientCommandID] at hlookup
        cases hnone.symm.trans hlookup
      rw [Chain.accept, List.map_append, List.nodup_append]
      refine ⟨hs.distinct, List.nodup_singleton _, fun a ha b hb => ?_⟩
      cases List.mem_singleton.mp hb
      rintro rfl
      exact hfresh ha
  | _ => exact ⟨hs.kept, hs.distinct⟩

theorem Move.sound (hs : Sound platform c) : Sound platform c' where
  keyed := h.keyed hs
  exclusive := h.exclusive hs
  generations id := (h.generations hs id).pairwise (hs.generations id)
  linked := (h.history hs).1
  advance := (h.history hs).2
  pending := h.pending hs
  recorded := h.recorded hs
  kept := (h.kept hs).1
  distinct := (h.kept hs).2

end

structure StaleRetirement (platform : Platform Value) (s : Store) (op : Op Value)
    (outcome : Except StoreError GoString) (e : StoreError) : Prop where
  stale : e = errStaleReservation
  retired : ∃ reservation verified now current version,
    op = .commitWith reservation verified now ∧ s.requireReservation reservation = .ok current ∧
    s.fenceMatches current = false ∧ outcome = .ok version ∧
    (s.perform platform op outcome).2 = s.installDocument version
      (s.retireDocument current failureStale (str "stale authority or deterministic state") now)

structure Serial (platform : Platform Value) (c : Chain) : Prop where
  receipts : ∀ receipt, (∃ id, c.store.receipts.lookup id = some receipt ∧
    receipt.disposition = dispositionAccepted) ↔ ∃ a ∈ c.accepted, a.receipt = receipt
  distinct : (c.accepted.map (·.receipt)).Nodup
  matchVersion :
    c.store.state.matchVersion.toNat = c.initial.matchVersion.toNat + c.accepted.length
  nextGlobalEventSequence : c.store.state.nextGlobalEventSequence.toNat =
    c.initial.nextGlobalEventSequence.toNat + c.accepted.length
  stateRevision :
    c.store.state.stateRevision.toNat = c.initial.stateRevision.toNat + c.accepted.length
  eventSequences : c.accepted.map (fun a => a.receipt.eventSequence.map (·.toNat)) =
    (List.range' c.initial.nextGlobalEventSequence.toNat c.accepted.length).map some
  participants : ∀ p, (c.store.state.participantSequence p).toNat =
    (c.initial.participantSequence p).toNat +
      (c.accepted.filter (·.reservation.participantID = p)).length
  linked : c.Linked
  prepared : ∀ a ∈ c.accepted, Receipted a ∧ PreparedFrom platform a.before a.reservation
  ticks : c.states.IsChain (·.tick ≤ ·.tick)
  keyed : ∀ id receipt, c.store.receipts.lookup id = some receipt → receipt.clientCommandID = id
  exclusive : ∀ id receipt, c.store.receipts.lookup id = some receipt →
    c.store.reservations.lookup id = none
  generations : ∀ id, (c.store.generations id).Pairwise (· < ·)
  lasting : ∀ steps c', Run (chain platform) c steps c' →
    (∀ id receipt, c.store.receipts.lookup id = some receipt →
      c'.store.receipts.lookup id = some receipt) ∧
    ∀ id, c.store.generations id <+: c'.store.generations id
  unchanged : ∀ op outcome e, (c.store.perform platform op outcome).1 = .error e →
    (c.store.perform platform op outcome).2 = c.store ∨
      StaleRetirement platform c.store op outcome e

variable {α : Type} {e : StoreError}

theorem answer_error {result : Except StoreError α × Store} :
    (Store.answer result).1 = .error e ↔ result.1 = .error e := by
  obtain ⟨x, s⟩ := result
  cases x <;> simp [Store.answer, Except.map]

variable {s : Store} {outcome : Except StoreError GoString}

theorem settle_error {planned : Except StoreError (Plan α)}
    (h : (s.settle planned outcome).1 = .error e) :
    (s.settle planned outcome).2 = s ∨ ∃ candidate version,
      planned = .ok (.write candidate (.error e)) ∧ outcome = .ok version ∧
      (s.settle planned outcome).2 = s.installDocument version candidate := by
  match planned, outcome with
  | .error _, _ => exact .inl rfl
  | .ok (.done _), _ => exact .inl rfl
  | .ok (.write candidate answer), .error _ => exact .inl rfl
  | .ok (.write candidate answer), .ok version =>
    obtain rfl : answer = .error e := h
    exact .inr ⟨candidate, version, rfl, rfl, rfl⟩
  | .ok (.commit candidate answer), .error _ => exact .inl rfl
  | .ok (.commit candidate answer), .ok version =>
    by_cases hversion : version = []
    · exact .inl (by simp [Store.settle, hversion])
    · simp [Store.settle, hversion] at h

theorem perform_error {op : Op Value} (h : (s.perform platform op outcome).1 = .error e) :
    (s.perform platform op outcome).2 = s ∨ StaleRetirement platform s op outcome e := by
  cases op with
  | prepare request now =>
    rcases settle_error (answer_error.mp h) with hsame | ⟨_, _, hplan, _⟩
    · exact .inl hsame
    · obtain ⟨_, _, _, ⟨_, _, _, h⟩ | ⟨_, _, _, _, h⟩ | ⟨_, _, _, h⟩⟩ := prepare_ok hplan <;>
        cases h
  | beginAttempt reservation now =>
    rcases settle_error (answer_error.mp h) with hsame | ⟨_, _, hplan, _⟩
    · exact .inl hsame
    · obtain ⟨_, _, _, h⟩ := beginAttempt_ok hplan
      cases h
  | recordFailure reservation failure now =>
    rcases settle_error (answer_error.mp h) with hsame | ⟨_, _, hplan, _⟩
    · exact .inl hsame
    · obtain ⟨_, _, _, _, _, _, _, _, _, _, h⟩ := recordFailure_ok hplan
      cases h
  | commitWith reservation verified now =>
    rcases settle_error (answer_error.mp h) with hsame | ⟨candidate, version, hplan, hok, hstore⟩
    · exact .inl hsame
    · obtain ⟨_, ⟨_, _, _, h⟩ | ⟨current, _, hcurrent, _, ⟨hstale, h⟩ | ⟨_, _, _, _, h⟩⟩⟩ :=
        commitWith_ok hplan
      · cases h
      · cases h
        exact .inr ⟨rfl, reservation, verified, now, current, version, rfl,
          requireReservation_ok.mpr hcurrent, hstale, hok, hstore⟩
      · cases h
  | takeover clientCommandID generation reason now =>
    rcases settle_error (answer_error.mp h) with hsame | ⟨_, _, hplan, _⟩
    · exact .inl hsame
    · obtain ⟨_, _, _, _, _, _, h⟩ := takeover_ok hplan
      cases h
  | abort clientCommandID generation reason now =>
    rcases settle_error (answer_error.mp h) with hsame | ⟨_, _, hplan, _⟩
    · exact .inl hsame
    · obtain ⟨_, _, _, _, _, _, h⟩ := abort_ok hplan
      cases h

variable {c : Chain}

theorem sound_of_reachable (h : Reachable (chain platform) c) : Sound platform c := by
  refine h.invariant ?_ ?_
  · rintro c ⟨version, hnew, haccepted⟩
    simp only [newStore, bind_ok] at hnew
    obtain ⟨_, _, hnew⟩ := hnew
    have hstore : c.store = ⟨version, c.initial, ∅, ∅, ∅⟩ := (Except.ok.inj hnew).symm
    constructor
    all_goals simp [Chain.Keyed, Chain.Linked, History.Linked, Store.generations,
      Store.retiredGenerations, hstore, haccepted]
  · rintro c ⟨op, outcome⟩ c' hs rfl
    exact (perform_move hs.keyed op outcome).sound hs

theorem lasting_of_run {c' : Chain} {steps : List (Op Value × Except StoreError GoString)}
    (hs : Sound platform c) (h : Run (chain platform) c steps c') :
    (∀ id receipt, c.store.receipts.lookup id = some receipt →
      c'.store.receipts.lookup id = some receipt) ∧
    ∀ id, c.store.generations id <+: c'.store.generations id := by
  refine h.monotone (I := Sound platform)
    (R := fun c c' => (∀ id receipt, c.store.receipts.lookup id = some receipt →
      c'.store.receipts.lookup id = some receipt) ∧
      ∀ id, c.store.generations id <+: c'.store.generations id) ?_ ?_ ?_ hs
  · exact fun c => ⟨fun _ _ => id, fun _ => List.prefix_rfl⟩
  · exact fun c₁ c₂ c₃ h₁ h₂ => ⟨fun id receipt h => h₂.1 id receipt (h₁.1 id receipt h),
      fun id => (h₁.2 id).trans (h₂.2 id)⟩
  · rintro c ⟨op, outcome⟩ c' hs rfl
    have hmove : Move platform c _ := perform_move hs.keyed op outcome
    exact ⟨hmove.sound hs, hmove.receipts, fun id => (hmove.generations hs id).isPrefix⟩

theorem Sound.stateRevision (hs : Sound platform c) :
    c.store.state.stateRevision.toNat =
      (c.initial.stateRevision.toNat + c.accepted.length) % 2 ^ 64 := by
  rw [← hs.linked.count_mod (f := fun state => state.stateRevision.toNat)
    fun a ha => (congrArg UInt64.toNat (hs.advance a ha).stateRevision).trans (UInt64.toNat_add _ _)]
  exact (Nat.mod_eq_of_lt c.store.state.stateRevision.toNat_lt).symm

theorem Sound.serial (hs : Sound platform c)
    (hbound : c.initial.stateRevision.toNat + c.accepted.length < 2 ^ 64) : Serial platform c where
  receipts receipt := by
    constructor
    · rintro ⟨id, hlookup, haccepted⟩
      exact (hs.recorded id receipt hlookup).2 haccepted
    · rintro ⟨a, ha, rfl⟩
      exact ⟨_, hs.kept a ha, (hs.advance a ha).receipted.disposition⟩
  distinct := by
    have hdistinct := hs.distinct
    rw [← Function.comp_def (fun receipt : Receipt => receipt.clientCommandID),
      ← List.map_map] at hdistinct
    exact hdistinct.of_map _
  matchVersion := hs.linked.count (f := fun state => state.matchVersion.toNat)
    fun a ha => (hs.advance a ha).matchVersion
  nextGlobalEventSequence := hs.linked.count (f := fun state => state.nextGlobalEventSequence.toNat)
    fun a ha => (hs.advance a ha).eventSequence
  stateRevision := by rw [hs.stateRevision, Nat.mod_eq_of_lt hbound]
  eventSequences := by
    rw [← hs.linked.positions (f := fun state => state.nextGlobalEventSequence.toNat)
      fun a ha => (hs.advance a ha).eventSequence, List.map_map]
    refine List.map_congr_left fun a ha => ?_
    rw [(hs.advance a ha).receipted.eventSequence]
    rfl
  participants p := hs.linked.tally (f := fun state => (state.participantSequence p).toNat)
    fun a ha => (hs.advance a ha).participant p
  linked := hs.linked
  prepared a ha := ⟨(hs.advance a ha).receipted, (hs.advance a ha).prepared⟩
  ticks := hs.linked.isChain fun a ha => (hs.advance a ha).tick
  keyed id receipt hlookup := (hs.recorded id receipt hlookup).1
  exclusive := hs.exclusive
  generations := hs.generations
  lasting _ _ hrun := lasting_of_run hs hrun
  unchanged _ _ _ herror := perform_error herror

theorem world_command_chain {c : Chain} (h : Reachable (chain platform) c) :
    Serial platform c ↔ c.initial.stateRevision.toNat + c.accepted.length < 2 ^ 64 := by
  have hs := sound_of_reachable h
  constructor
  · intro hserial
    rw [← hserial.stateRevision]
    exact c.store.state.stateRevision.toNat_lt
  · exact hs.serial

def sampleInitial (stateRevision : UInt64) : MatchState where
  matchID := str "match-1"
  participantRosterHash := str "roster"
  matchVersion := 1
  nextGlobalEventSequence := 1
  stateRevision
  stateSchemaID := str "state.v1"
  stateCanonicalJSON := str "\x7b\x7d"
  stateHash := hexEncode (Sha256.digest (str "\x7b\x7d"))
  tick := 0
  participantSequences := ∅

def sampleRequest (stateRevision : UInt64) : PrepareRequest GoString where
  clientCommandID := str "move-1"
  userID := str "user-1"
  participantID := str "alpha"
  participantSequence := 1
  expectedStateRevision := stateRevision
  expectedStateHash := (sampleInitial stateRevision).stateHash
  commandSchemaID := str "command.v1"
  command := str "\x7b\"move\":1\x7d"
  context :=
    { matchID := str "match-1"
      authorizationID := str "authorization-1"
      participantRosterHash := str "roster"
      matchVersion := 1
      globalEventSequence := 1
      commandIdempotencyKey := str "move-1"
      rulesetRevision := str "ruleset-1"
      contentRevision := str "content-1"
      expectedTick := 0 }

def sampleTransition (key stateValue command : GoString) : PreparedTransition where
  canonicalRequest := stateValue ++ command
  requestHash := hexEncode (Sha256.digest (stateValue ++ command))
  transitionID := str "wtx-" ++ key
  worldCommandID := str "wcmd-" ++ key
  previousStateHash := hexEncode (Sha256.digest stateValue)

def sampleCodec : Codec GoString where
  decodeCanonical raw _ := .ok raw
  encodeCanonical value := .ok value
  prepare context _ stateValue _ command :=
    .ok (sampleTransition context.commandIdempotencyKey stateValue command)
  restore _ _ := .error "canonical request is not retained"
  verify _ _ _ := .error "result is not retained"

def samplePlatform : Platform GoString := ⟨sampleCodec, Sha256.digest⟩

def sampleStart (stateRevision : UInt64) : Chain :=
  ⟨⟨str "1", sampleInitial stateRevision, ∅, ∅, ∅⟩, sampleInitial stateRevision, []⟩

def samplePrepared : PreparedTransition :=
  sampleTransition (str "move-1") (str "\x7b\x7d") (str "\x7b\"move\":1\x7d")

def sampleReservation (stateRevision : UInt64) : Reservation :=
  (sampleStart stateRevision).store.newReservation samplePlatform (sampleRequest stateRevision)
    (str "\x7b\"move\":1\x7d") samplePrepared ⟨100, 0⟩

def sampleVerified : VerifiedTransition where
  disposition := dispositionAccepted
  requestHash := samplePrepared.requestHash
  transitionID := samplePrepared.transitionID
  nextTick := some 1
  previousStateHash := some (sampleInitial 1).stateHash
  nextStateSchemaID := str "state.v1"
  nextStateCanonicalJSON := str "\x7b\"a\":1\x7d"
  nextStateHash := some (hexEncode (Sha256.digest (str "\x7b\"a\":1\x7d")))
  replayHash := none
  worldOutcomeHash := none
  worldTransitionHash := none
  errorCode := none
  retryable := none
  canonicalResultSHA256 := str "result"

def sampleCommitted (stateRevision : UInt64) : Chain :=
  ((sampleStart stateRevision).perform samplePlatform
    (.prepare (sampleRequest stateRevision) ⟨100, 0⟩) (.ok (str "2"))).perform samplePlatform
      (.commitWith (sampleReservation stateRevision) sampleVerified ⟨101, 0⟩) (.ok (str "3"))

theorem sample_reachable (stateRevision : UInt64)
    (h : validateState samplePlatform (sampleInitial stateRevision) = .ok ()) :
    Reachable (chain samplePlatform) (sampleCommitted stateRevision) := by
  refine ⟨sampleStart stateRevision, _, ⟨str "1", ?_, rfl⟩,
    ((Run.nil _).snoc (a := (_, _)) rfl).snoc (a := (_, _)) rfl⟩
  exact bind_ok.mpr ⟨(), h, rfl⟩

theorem sample_fresh {stateRevision : UInt64}
    (hidentity : Store.validateRequestIdentity (sampleRequest stateRevision) = .ok ())
    (hfence : (sampleStart stateRevision).store.validateCurrentFence
      (sampleRequest stateRevision) = .ok ()) :
    Fresh samplePlatform (sampleStart stateRevision).store (sampleRequest stateRevision)
      (str "\x7b\"move\":1\x7d") (str "\x7b\x7d") samplePrepared where
  identity := hidentity
  command := rfl
  receipt := rfl
  reservation := rfl
  fence := hfence
  state := rfl
  prepared := rfl

theorem sample_accepted (stateRevision : UInt64)
    (hidentity : Store.validateRequestIdentity (sampleRequest stateRevision) = .ok ())
    (hfence : (sampleStart stateRevision).store.validateCurrentFence
      (sampleRequest stateRevision) = .ok ()) :
    (sampleCommitted stateRevision).accepted.length = 1 ∧
      (sampleCommitted stateRevision).store.state.stateRevision = stateRevision + 1 := by
  have hprepare := perform_prepare (sample_fresh hidentity hfence)
    (by decide : Time.isZero ⟨100, 0⟩ = false ∧ 0 ≤ (⟨100, 0⟩ : Time).unix) (str "2")
  have hpending : Holds ((sampleStart stateRevision).next (str "2")
      ((sampleStart stateRevision).store.putReservation (sampleReservation stateRevision))).store
      (sampleReservation stateRevision) (sampleReservation stateRevision) :=
    ⟨Finmap.lookup_insert _, rfl, rfl, rfl, rfl, rfl⟩
  have hverified : validateVerifiedAgainstReservation sampleVerified
      (sampleReservation stateRevision) = .ok () :=
    validateVerified_ok.mpr ⟨⟨rfl, rfl⟩, fun _ h => (Option.some.inj h).symm⟩
  have hsha : hashBytes samplePlatform sampleVerified.nextStateCanonicalJSON =
      hexEncode (Sha256.digest (str "\x7b\"a\":1\x7d")) := rfl
  obtain ⟨receipt, hcommit⟩ := perform_commit
    (by decide : Time.isZero ⟨101, 0⟩ = false ∧ 0 ≤ (⟨101, 0⟩ : Time).unix) hpending rfl hverified
    (decide_eq_true rfl) rfl (rfl : sampleVerified.nextTick = some 1) rfl (by decide) (by decide)
    (by decide : (0 : Int64) ≤ 1) hsha rfl (by decide : str "3" ≠ [])
  have hcommitted : sampleCommitted stateRevision = _ := (congrArg (fun c => Chain.perform
    samplePlatform c (.commitWith (sampleReservation stateRevision) sampleVerified ⟨101, 0⟩)
      (.ok (str "3"))) hprepare).trans hcommit
  rw [hcommitted]
  exact ⟨rfl, rfl⟩

theorem world_command_chain_sample : Serial samplePlatform (sampleCommitted 1) := by
  have haccepted := sample_accepted 1 (by decide +kernel) (by decide +kernel)
  refine (world_command_chain (sample_reachable 1 (by decide +kernel))).mpr ?_
  rw [haccepted.1]
  decide

theorem world_command_chain_overflow :
    Reachable (chain samplePlatform) (sampleCommitted (-1)) ∧
      (sampleInitial (-1)).stateRevision.toNat = 2 ^ 64 - 1 ∧
      (sampleCommitted (-1)).accepted.length = 1 ∧
      (sampleCommitted (-1)).store.state.stateRevision = 0 ∧
      ¬ Serial samplePlatform (sampleCommitted (-1)) := by
  obtain ⟨hlength, hrevision⟩ :=
    sample_accepted (-1) (by decide +kernel) (by decide +kernel)
  refine ⟨sample_reachable (-1) (by decide +kernel), by decide, hlength, hrevision, ?_⟩
  intro hserial
  have htotal := hserial.stateRevision
  rw [hlength, hrevision] at htotal
  exact absurd htotal (by decide)

end WorldCommand
