import TrillionniumGame.PresenceCore.Moves

namespace PresenceCore
open Calls Checks FiniteMap Runs

namespace RouterState

variable {r r' : RouterState} {c : ConnectionId}

structure Isolated (c : ConnectionId) (r r' : RouterState) : Prop where
  connections : ∀ other, other ≠ c → r'.connections.lookup other = r.connections.lookup other
  presences : ∀ key presence, presence.connection ≠ c →
    (r'.presences.lookup key = some presence ↔ r.presences.lookup key = some presence)

theorem Isolated.refl (c : ConnectionId) (r : RouterState) : Isolated c r r :=
  ⟨fun _ _ => rfl, fun _ _ _ => Iff.rfl⟩

variable {record : ConnectionRecord}

theorem Edited.isolated {current : ConnectionRecord} (h : Edited c r r' current record) :
    Isolated c r r' := by
  rw [h.edited]
  refine ⟨fun other hother => ?_, fun _ _ _ => Iff.rfl⟩
  exact Finmap.lookup_insert_of_ne _ hother

variable {stream : StreamId} {presence : PresenceRecord}

theorem Joined.isolated (h : Joined c stream r r' record presence) : Isolated c r r' := by
  obtain ⟨-, -, -, hholder, hfresh, -, rfl⟩ := h
  refine ⟨fun _ _ => rfl, fun key found hfound => ?_⟩
  rw [RouterState.joined, lookup_insert_ite]
  split
  · next heq =>
    rw [heq, Finmap.lookup_eq_none.mpr hfresh]
    simp only [Option.some.injEq, reduceCtorEq, iff_false]
    rintro rfl
    exact hfound hholder
  · exact Iff.rfl

variable {node : NodeId} {generation : UInt64}

theorem Left.isolated (h : Left c node generation stream r r' record presence)
    (hholder : presence.connection = c) : Isolated c r r' := by
  refine ⟨fun other _ => by rw [h.left.same], fun key found hfound => ?_⟩
  rw [h.left.presences]
  split
  · next hmem =>
    rw [List.mem_singleton.mp hmem, h.held]
    simp only [reduceCtorEq, Option.some.injEq, false_iff]
    rintro rfl
    exact hfound hholder
  · exact Iff.rfl

theorem Closed.isolated (h : Closed [c] r r') : Isolated c r r' := by
  refine ⟨fun other hother => Option.ext fun record => ?_, fun key presence hpresence => ?_⟩
  · rw [h.connections, List.mem_singleton]
    exact ⟨And.left, fun hrecord => ⟨hrecord, hother⟩⟩
  · rw [h.presences, List.mem_singleton]
    exact ⟨And.left, fun hfound => ⟨hfound, hpresence⟩⟩

def LeavesForAnother (r : RouterState) : RouterCall → Prop
  | .leavePresence c node generation stream => ∃ record presence,
    r.fenced c node generation = .ok record ∧
      r.presences.lookup ⟨stream, record.user, record.session⟩ = some presence ∧
      presence.connection ≠ c
  | _ => False

theorem leave_ran (hfenced : r.fenced c node generation = .ok record)
    (hremoved : r.removePresence ⟨stream, record.user, record.session⟩ = some (presence, r')) :
    Ran (leavePresence c node generation stream) r (.ok presence) r' := by
  unfold leavePresence
  rw [ran_read_bind, ran_check_bind]
  refine ⟨record, hfenced, ran_check_bind.mpr ⟨_, fetch_ok.mpr hremoved, ?_⟩⟩
  rw [ran_write_bind, ran_pure]
  exact ⟨rfl, rfl⟩

theorem leave_after (hfenced : r.fenced c node generation = .ok record)
    (hheld : r.presences.lookup ⟨stream, record.user, record.session⟩ = some presence) :
    ((RouterCall.leavePresence c node generation stream).after r).presences.lookup
      ⟨stream, record.user, record.session⟩ = none := by
  have hran := leave_ran hfenced (removePresence_some.mpr ⟨hheld, rfl⟩)
  rw [RouterCall.after, congrArg Prod.snd hran]
  exact Finmap.lookup_erase (s := r.presences) _

variable {call : RouterCall}

theorem LeavesForAnother.intrudes (h : LeavesForAnother r call) (hfence : call.fence = some c) :
    ¬ Isolated c r (call.after r) := by
  intro hisolated
  cases call with
  | leavePresence c' node generation stream =>
    obtain rfl : c' = c := Option.some.inj hfence
    obtain ⟨record, presence, hfenced, hheld, hother⟩ := h
    have hkept := (hisolated.presences _ presence hother).mpr hheld
    rw [leave_after hfenced hheld] at hkept
    cases hkept
  | _ => exact h

theorem Moved.isolated (h : Moved r call r') (hfence : call.fence = some c)
    (hcall : ¬ LeavesForAnother r call) : Isolated c r r' := by
  cases h with
  | stayed => exact .refl c r
  | opened _ | drained _ | revoked _ => cases hfence
  | edited hfence' h =>
    cases Option.mem_unique hfence hfence'
    exact h.isolated
  | joined h =>
    cases hfence
    exact h.isolated
  | @left c' node generation stream record presence _ h =>
    obtain rfl : c' = c := Option.some.inj hfence
    refine h.isolated (by_contra fun hother => hcall ?_)
    exact ⟨record, presence, h.fenced, h.held, hother⟩
  | closed hfence' _ h =>
    rw [hfence' c hfence] at h
    exact h.isolated

end RouterState

open RouterState

theorem connections_isolated_iff : ∀ r, Reachable routing r → ∀ call c, call.fence = some c →
    (Isolated c r (call.after r) ↔ ¬ LeavesForAnother r call) := by
  intro r hreachable call c hfence
  have hmoved := (indexed_of_reachable hreachable).1.moved call
  constructor
  · intro hisolated hcall
    exact hcall.intrudes hfence hisolated
  · intro hcall
    exact hmoved.isolated hfence hcall

def sampleLeave : RouterCall :=
  .leavePresence ⟨sampleBytes 1⟩ ⟨sampleBytes 1⟩ 1 ⟨sampleBytes 9⟩

theorem connections_isolated_sample : (sampleRoom.fenced ⟨sampleBytes 1⟩ ⟨sampleBytes 1⟩ 1).isOk ∧
    Isolated ⟨sampleBytes 1⟩ sampleRoom (sampleLeave.after sampleRoom) := by
  refine ⟨rfl, (connections_isolated_iff sampleRoom sample_reachable sampleLeave ⟨sampleBytes 1⟩
    rfl).mpr ?_⟩
  rintro ⟨record, presence, hfenced, hheld, hother⟩
  cases hfenced
  cases hheld
  exact hother rfl

theorem leave_removes_presence_of_another_connection :
    ¬ ∀ r, Reachable routing r → ∀ (call : RouterCall) c, call.fence = some c →
      Isolated c r (call.after r) := by
  intro h
  have hisolated := h sampleRoom sample_reachable
    (.leavePresence ⟨sampleBytes 2⟩ ⟨sampleBytes 1⟩ 1 ⟨sampleBytes 9⟩) ⟨sampleBytes 2⟩ rfl
  have hkept := (hisolated.presences ⟨⟨sampleBytes 9⟩, ⟨sampleBytes 1⟩, ⟨sampleBytes 1⟩⟩
    ⟨⟨⟨sampleBytes 9⟩, ⟨sampleBytes 1⟩, ⟨sampleBytes 1⟩⟩, ⟨sampleBytes 1⟩, "player", "ready", false,
      true⟩ (by decide)).mpr rfl
  cases hkept

open Persistence (UserId)

namespace RouterState

variable {r r' : RouterState}

def Authorized (r : RouterState) : Prop :=
  ∀ c record, r.connections.lookup c = some record →
    r.userRevocationEpochs.lookup record.user = some record.userRevocationEpoch

def Rising (r r' : RouterState) : Prop :=
  ∀ user epoch, r.userRevocationEpochs.lookup user = some epoch →
    ∃ later, r'.userRevocationEpochs.lookup user = some later ∧ epoch ≤ later

theorem Rising.of_eq (h : r'.userRevocationEpochs = r.userRevocationEpochs) : Rising r r' :=
  fun _ epoch hepoch => ⟨epoch, h ▸ hepoch, UInt64.le_refl _⟩

theorem Rising.trans {r'' : RouterState} (h : Rising r r') (h' : Rising r' r'') : Rising r r'' := by
  intro user epoch hepoch
  obtain ⟨later, hlater, hle⟩ := h user epoch hepoch
  obtain ⟨last, hlast, hle'⟩ := h' user later hlater
  exact ⟨last, hlast, UInt64.le_trans hle hle'⟩

variable {epochs : Dict UserId UInt64} {user : UserId} {epoch : UInt64}

theorem lookup_orInsert (hcurrent : (epochs.lookup user).getD epoch = epoch) :
    (orInsert epochs user epoch).lookup user = some epoch := by
  unfold orInsert
  cases hfound : epochs.lookup user with
  | none => exact Finmap.lookup_insert _
  | some found =>
    rw [hfound] at hcurrent
    exact hfound.trans (congrArg some hcurrent)

theorem lookup_orInsert_of_some {user' : UserId} {epoch' : UInt64}
    (h : epochs.lookup user' = some epoch') :
    (orInsert epochs user epoch).lookup user' = some epoch' := by
  unfold orInsert
  cases hfound : epochs.lookup user with
  | none =>
    have hne : user' ≠ user := by
      rintro rfl
      rw [h] at hfound
      cases hfound
    exact (Finmap.lookup_insert_of_ne _ hne).trans h
  | some found => exact h

theorem Opened.authorized {request : OpenConnection} (h : Opened request r r')
    (hauthorized : r.Authorized) : r'.Authorized ∧ Rising r r' := by
  obtain ⟨-, -, hepoch, -, rfl⟩ := h
  refine ⟨fun c record hrecord => ?_, fun user epoch hfound => ?_⟩
  · rw [RouterState.opened, lookup_insert_ite] at hrecord
    split at hrecord
    · cases hrecord
      exact lookup_orInsert hepoch
    · exact lookup_orInsert_of_some (hauthorized c record hrecord)
  · exact ⟨epoch, lookup_orInsert_of_some hfound, UInt64.le_refl _⟩

theorem Kept.authorized (h : Kept r r') (hauthorized : r.Authorized) : r'.Authorized := by
  intro c record' hrecord'
  obtain ⟨record, hrecord, hidentity⟩ := h.old hrecord'
  have hepoch := hauthorized c record hrecord
  simp only [ConnectionRecord.identity, Prod.mk.injEq] at hidentity
  rw [congrArg RouterState.userRevocationEpochs h.same, ← hidentity.2.2.1, ← hidentity.2.2.2]
  exact hepoch

variable {c : ConnectionId} {record : ConnectionRecord}

theorem Indexed.mem_users (h : r.Indexed) (hrecord : r.connections.lookup c = some record) :
    c ∈ ordered (members r.users record.user) :=
  mem_ordered.mpr ((h.users.exact record.user c).mpr ⟨record, hrecord, rfl⟩)

variable {expectedEpoch newEpoch : UInt64}

theorem Revoked.authorized (h : Revoked user expectedEpoch newEpoch r r') (hindexed : r.Indexed)
    (hauthorized : r.Authorized) : r'.Authorized ∧ Rising r r' := by
  refine ⟨fun c record hrecord => ?_, fun user' epoch hepoch => ?_⟩
  · obtain ⟨hlive, hnotin⟩ := (h.closed.connections c record).mp hrecord
    have hne : record.user ≠ user := by
      rintro rfl
      exact hnotin (hindexed.mem_users hlive)
    rw [h.closed.epochs]
    exact (Finmap.lookup_insert_of_ne _ hne).trans (hauthorized c record hlive)
  · rw [h.closed.epochs, lookup_insert_ite]
    split
    · next heq =>
      have hcurrent := h.current
      rw [← heq, hepoch, Option.getD_some] at hcurrent
      exact ⟨newEpoch, rfl, UInt64.le_of_lt (hcurrent ▸ h.newer)⟩
    · exact ⟨epoch, hepoch, UInt64.le_refl _⟩

theorem Moved.authorized {call : RouterCall} (h : Moved r call r') (hindexed : r.Indexed)
    (hauthorized : r.Authorized) : r'.Authorized ∧ Rising r r' := by
  cases h with
  | stayed => exact ⟨hauthorized, .of_eq rfl⟩
  | opened h => exact h.authorized hauthorized
  | edited _ h =>
    exact ⟨h.kept.authorized hauthorized, .of_eq (by rw [h.kept.same])⟩
  | drained h => exact ⟨h.authorized hauthorized, .of_eq (by rw [h.same])⟩
  | joined h =>
    rw [h.joined]
    exact ⟨hauthorized, .of_eq rfl⟩
  | left h =>
    rw [h.left.same]
    exact ⟨hauthorized, .of_eq rfl⟩
  | closed _ _ h =>
    refine ⟨fun c record hrecord => ?_, .of_eq h.epochs⟩
    rw [h.epochs]
    exact hauthorized c record ((h.connections c record).mp hrecord).1
  | revoked h => exact h.authorized hindexed hauthorized

theorem authorized_of_reachable (h : Reachable routing r) : r.Indexed ∧ r.Authorized := by
  refine h.invariant (I := fun r => r.Indexed ∧ r.Authorized) ?_ ?_
  · rintro r ⟨limits, hnew⟩
    refine ⟨(indexed_new hnew).1, ?_⟩
    obtain ⟨_, _, hnew⟩ := bind_ok.mp hnew
    cases hnew
    exact nofun
  · rintro r call r' ⟨hindexed, hauthorized⟩ rfl
    have hmoved := hindexed.moved call
    exact ⟨hmoved.indexed hindexed, (hmoved.authorized hindexed hauthorized).1⟩

theorem rising_run {calls : List RouterCall} (hreachable : Reachable routing r)
    (hrun : Run routing r calls r') : Rising r r' := by
  refine hrun.monotone (R := Rising) (I := fun r => r.Indexed ∧ r.Authorized)
    (fun _ => .of_eq rfl) (fun _ _ _ => .trans) ?_ (authorized_of_reachable hreachable)
  rintro r call r' ⟨hindexed, hauthorized⟩ rfl
  have hmoved := hindexed.moved call
  obtain ⟨hauthorized', hrising⟩ := hmoved.authorized hindexed hauthorized
  exact ⟨⟨hmoved.indexed hindexed, hauthorized'⟩, hrising⟩

def Since (user : UserId) (epoch : UInt64) (r : RouterState) : Prop :=
  ∃ stored, r.userRevocationEpochs.lookup user = some stored ∧ epoch ≤ stored

theorem Authorized.since (h : r.Authorized) (hsince : Since user epoch r)
    (hrecord : r.connections.lookup c = some record) (huser : record.user = user) :
    epoch ≤ record.userRevocationEpoch := by
  obtain ⟨stored, hstored, hle⟩ := hsince
  have hepoch := h c record hrecord
  rw [huser, hstored] at hepoch
  exact Option.some.inj hepoch ▸ hle

theorem Indexed.recipient (h : r.Indexed) {stream : StreamId} {recipient : RouteTarget}
    (hmem : recipient ∈ r.recipients stream) : ∃ record,
      r.connections.lookup recipient.connection = some record ∧ target record = recipient := by
  simp only [recipients, List.mem_map, List.mem_filterMap] at hmem
  obtain ⟨record, ⟨presence, _, hrecord⟩, rfl⟩ := hmem
  have hnamed := h.named _ record hrecord
  refine ⟨record, ?_, rfl⟩
  rw [target, hnamed]
  exact hrecord

theorem revoked_since {closed : List CloseResult} (hindexed : r.Indexed)
    (hran : Ran (revokeUser user expectedEpoch newEpoch) r (.ok closed) r') :
    Since user newEpoch r' := by
  have hrevoked := hindexed.leaves_revokeUser user expectedEpoch newEpoch _ _ hran
  rw [ensures_ok] at hrevoked
  exact ⟨newEpoch, by rw [hrevoked.closed.epochs]; exact Finmap.lookup_insert _, UInt64.le_refl _⟩

end RouterState

open RouterState

theorem revocation_epochs_hold :
    (∀ r, Reachable routing r → ∀ c record, r.connections.lookup c = some record →
      r.userRevocationEpochs.lookup record.user = some record.userRevocationEpoch) ∧
    (∀ r calls r', Reachable routing r → Run routing r calls r' → ∀ user epoch,
      r.userRevocationEpochs.lookup user = some epoch →
      ∃ later, r'.userRevocationEpochs.lookup user = some later ∧ epoch ≤ later) ∧
    ∀ r user expectedEpoch newEpoch closed r' calls t, Reachable routing r →
      Ran (revokeUser user expectedEpoch newEpoch) r (.ok closed) r' → Run routing r' calls t →
      (∀ c record, t.connections.lookup c = some record → record.user = user →
        newEpoch ≤ record.userRevocationEpoch) ∧
      (∀ key presence, t.presences.lookup key = some presence → key.user = user →
        ∃ record, t.connections.lookup presence.connection = some record ∧ record.user = user ∧
          newEpoch ≤ record.userRevocationEpoch) ∧
      ∀ stream, ∀ recipient ∈ t.recipients stream, recipient.user = user →
        ∃ record, t.connections.lookup recipient.connection = some record ∧ record.user = user ∧
          newEpoch ≤ record.userRevocationEpoch := by
  refine ⟨fun r hreachable => (authorized_of_reachable hreachable).2,
    fun r calls r' hreachable hrun => rising_run hreachable hrun, ?_⟩
  intro r user expectedEpoch newEpoch closed r' calls t hreachable hran hrun
  have hstep : Run routing r [.revokeUser user expectedEpoch newEpoch] r' :=
    .single (congrArg Prod.snd hran).symm
  have hreachable' := hreachable.run hstep
  obtain ⟨stored, hstored, hle⟩ := revoked_since (authorized_of_reachable hreachable).1 hran
  obtain ⟨later, hlater, hle'⟩ := rising_run hreachable' hrun user stored hstored
  have hsince : Since user newEpoch t := ⟨later, hlater, UInt64.le_trans hle hle'⟩
  obtain ⟨hindexed, hauthorized⟩ := authorized_of_reachable (hreachable'.run hrun)
  refine ⟨fun c record hrecord huser => hauthorized.since hsince hrecord huser,
    fun key presence hpresence huser => ?_, fun stream recipient hmem huser => ?_⟩
  · obtain ⟨record, hrecord, howner, _⟩ := hindexed.attached key presence hpresence
    exact ⟨record, hrecord, howner.trans huser,
      hauthorized.since hsince hrecord (howner.trans huser)⟩
  · obtain ⟨record, hrecord, htarget⟩ := hindexed.recipient hmem
    have howner : record.user = user := (congrArg RouteTarget.user htarget).trans huser
    exact ⟨record, hrecord, howner, hauthorized.since hsince hrecord howner⟩

theorem revocation_epochs_hold_sample : ∀ c record,
    ((sampleOpen 3 3 2).after ((RouterCall.revokeUser ⟨sampleBytes 1⟩ 0 1).after
      sampleRoom)).connections.lookup c = some record →
      record.user = ⟨sampleBytes 1⟩ → 1 ≤ record.userRevocationEpoch :=
  (revocation_epochs_hold.2.2 sampleRoom ⟨sampleBytes 1⟩ 0 1
    [⟨⟨sampleBytes 1⟩, 1⟩, ⟨⟨sampleBytes 2⟩, 0⟩] _ [sampleOpen 3 3 2] _ sample_reachable rfl
    (.single rfl)).1

end PresenceCore
