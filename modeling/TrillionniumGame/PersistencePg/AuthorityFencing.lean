import TrillionniumGame.PersistencePg.OutboxProtocol

namespace PersistencePg
open Checks Persistence Runs Tables

section Times

variable {R : Type} {time : R → Nat} {old new last : Option R} {table : List R} {p q : R → Bool}
  {f : R → R}

def NotEarlier (time : R → Nat) (old new : Option R) : Prop :=
  ∀ row ∈ old, ∃ row' ∈ new, time row ≤ time row'

theorem NotEarlier.refl : NotEarlier time old old := fun row hrow => ⟨row, hrow, le_rfl⟩

theorem NotEarlier.trans (h : NotEarlier time old new) (h' : NotEarlier time new last) :
    NotEarlier time old last := by
  intro row hrow
  obtain ⟨row', hrow', hle⟩ := h row hrow
  obtain ⟨row'', hrow'', hle'⟩ := h' row' hrow'
  exact ⟨row'', hrow'', hle.trans hle'⟩

theorem notEarlier_cons {row : R} (hnone : q row = true → table.find? q = none) :
    NotEarlier time (table.find? q) ((row :: table).find? q) := by
  intro found hfound
  refine ⟨found, ?_, le_rfl⟩
  cases hq : q row with
  | false => exact (List.find?_cons_of_neg (by rw [hq]; exact Bool.false_ne_true)).trans hfound
  | true => cases (hnone hq).symm.trans hfound

theorem notEarlier_assign (hkeeps : ∀ row, q (f row) = q row) :
    NotEarlier time (table.find? q) ((assign p f table).find? q) ↔
      ∀ row ∈ table.find? q, p row = true → time row ≤ time (f row) := by
  rw [find?_assign hkeeps]
  constructor
  · intro h row hrow hp
    obtain ⟨row', hrow', hle⟩ := h row hrow
    obtain ⟨found, hfound, rfl⟩ := Option.map_eq_some_iff.mp hrow'
    cases Option.mem_unique hrow hfound
    rwa [if_pos hp] at hle
  · refine fun h row hrow => ⟨_, Option.map_eq_some_iff.mpr ⟨row, hrow, rfl⟩, ?_⟩
    split
    · exact h row hrow ‹_›
    · exact le_rfl

end Times

structure Database.Forward (db db' : Database) : Prop where
  heads : ∀ entity, NotEarlier HeadRow.updatedAtMs (db.head? entity) (db'.head? entity)
  leases : ∀ entity, NotEarlier LeaseRow.updatedAtMs (db.lease? entity) (db'.lease? entity)

theorem Database.Forward.refl (db : Database) : db.Forward db :=
  ⟨fun _ => .refl, fun _ => .refl⟩

theorem Database.Forward.trans (db db' db'' : Database) (h : db.Forward db')
    (h' : db'.Forward db'') : db.Forward db'' :=
  ⟨fun entity => (h.heads entity).trans (h'.heads entity),
    fun entity => (h.leases entity).trans (h'.leases entity)⟩

def Database.KeepsTime (db : Database) : DatabaseCall → Prop
  | .commitCommand request => db.receipt? request.entity request.command = none →
      ∀ head ∈ db.head? request.entity, head.revision = request.expectedRevision →
        head.authorityGeneration = request.authorityGeneration →
          head.updatedAtMs ≤ request.committedAtMs
  | .releaseAuthorityLease lease releasedAtMs => ∀ row ∈ db.lease? lease.entity,
      lease.names row = true → releasedAtMs < row.expiresAtMs → row.updatedAtMs ≤ releasedAtMs
  | _ => True

section Steps

variable {db : Database} {request : CommitRequest} {head : HeadRow} {lease : AuthorityLease}
  {entity : EntityId} {owner : NodeId} {generation nowMs expiresAtMs : Nat} {previous : LeaseRow}

theorem tables_forward {revision sequence : Nat}
    (hnone : db.receipt? request.entity request.command = none) :
    db.Forward (Commit.tables ⟨request, revision, sequence⟩ db) ↔
      db.KeepsTime (.commitCommand request) := by
  constructor
  · intro hforward _ row hrow hrevision hgeneration
    have hheads := (notEarlier_assign (by exact fun _ => rfl)).mp (hforward.heads request.entity)
    refine hheads row hrow ?_
    simp only [Bool.and_eq_true, decide_eq_true_eq]
    exact ⟨⟨(Database.head?_some hrow).2, hrevision⟩, hgeneration⟩
  · intro hkeeps
    refine ⟨fun other => (notEarlier_assign (by exact fun _ => rfl)).mpr ?_, fun _ => .refl⟩
    intro row hrow hp
    simp only [Bool.and_eq_true, decide_eq_true_eq] at hp
    obtain ⟨⟨hentity, hrevision⟩, hgeneration⟩ := hp
    obtain rfl : request.entity = other := hentity.symm.trans (Database.head?_some hrow).2
    exact hkeeps hnone row hrow hrevision hgeneration

theorem takenOver_forward (hhead : db.head? entity = some head) (hclock : head.updatedAtMs ≤ nowMs)
    (htakes : TakesOver db entity generation nowMs previous) :
    db.Forward (db.takenOver entity owner generation nowMs expiresAtMs previous) := by
  refine ⟨fun other => (notEarlier_assign (by exact fun _ => rfl)).mpr fun row hrow hp => ?_,
    fun other => (notEarlier_assign (by exact fun _ => rfl)).mpr fun row hrow hp => ?_⟩
  · simp only [Bool.and_eq_true, decide_eq_true_eq] at hp
    obtain rfl : entity = other := hp.1.symm.trans (Database.head?_some hrow).2
    exact Option.mem_unique hhead hrow ▸ hclock
  · simp only [Bool.and_eq_true, decide_eq_true_eq] at hp
    obtain rfl : entity = other := hp.1.1.symm.trans (Database.lease?_some hrow).2
    exact Option.mem_unique htakes.known hrow ▸ htakes.clock

theorem renewed_forward {row : LeaseRow} (hcurrent : db.lease? lease.entity = some row)
    (hclock : row.updatedAtMs ≤ nowMs) : db.Forward { db with
      leases := assign lease.names (.timed expiresAtMs nowMs) db.leases } := by
  refine ⟨fun _ => .refl, fun other => (notEarlier_assign (by exact fun _ => rfl)).mpr ?_⟩
  intro found hfound hp
  obtain rfl : lease.entity = other := (names_entity hp).symm.trans (Database.lease?_some hfound).2
  exact Option.mem_unique hcurrent hfound ▸ hclock

theorem released_forward :
    db.Forward { db with
      leases := assign (fun row => lease.names row && nowMs < row.expiresAtMs)
        (.timed nowMs nowMs) db.leases } ↔
      db.KeepsTime (.releaseAuthorityLease lease nowMs) := by
  constructor
  · intro hforward row hrow hnamed hexpires
    have hleases := (notEarlier_assign (by exact fun _ => rfl)).mp (hforward.leases lease.entity)
    refine hleases row hrow ?_
    rw [hnamed, Bool.true_and, decide_eq_true hexpires]
  · intro hkeeps
    refine ⟨fun _ => .refl, fun other => (notEarlier_assign (by exact fun _ => rfl)).mpr ?_⟩
    intro row hrow hp
    obtain ⟨hnamed, hexpires⟩ := (Bool.and_eq_true _ _).mp hp
    obtain rfl : lease.entity = other :=
      (names_entity hnamed).symm.trans (Database.lease?_some hrow).2
    exact hkeeps row hrow hnamed (of_decide_eq_true hexpires)

theorem performed_forward {call : DatabaseCall} {reply : DatabaseReply} {db' : Database}
    (h : Performed db call reply db') : db.Forward db' ↔ db.KeepsTime call := by
  cases h with
  | bootstrapped hfresh hpositive =>
    refine iff_of_true ⟨fun other => notEarlier_cons fun hsame => ?_, fun _ => .refl⟩ trivial
    rwa [← of_decide_eq_true hsame]
  | repeated hstored hsame =>
    exact iff_of_true (.refl _) fun hnone => by cases hstored.symm.trans hnone
  | applied hfresh happlies => exact tables_forward hfresh
  | leased hhead hsame hclock hfresh =>
    refine iff_of_true ⟨fun _ => .refl, fun other => notEarlier_cons fun hsame => ?_⟩ trivial
    rwa [← of_decide_eq_true hsame]
  | takenOver hhead hsame hclock htakes =>
    exact iff_of_true (takenOver_forward hhead hclock htakes) trivial
  | renewed hcurrent hnamed hclock hheld =>
    exact iff_of_true (renewed_forward hcurrent hclock) trivial
  | released => exact released_forward
  | claimed | completed | retried => exact iff_of_true ⟨fun _ => .refl, fun _ => .refl⟩ trivial

end Steps

def timely : System Store (DatabaseCall × Except DomainError DatabaseReply) where
  init s := s = .initial
  step s event t := s.db.KeepsTime event.1 ∧ StoreStep s event t

theorem authority_clock_forward {s t : Store}
    {events : List (DatabaseCall × Except DomainError DatabaseReply)} {db db' : Database}
    {call : DatabaseCall} {reply : DatabaseReply} (hrun : Run timely s events t)
    (hperforms : Database.perform db call = .ok (reply, db')) :
    s.db.Forward t.db ∧ (db.Forward db' ↔ db.KeepsTime call) := by
  refine ⟨?_, performed_forward (perform_ok hperforms)⟩
  refine hrun.monotone (R := fun s t => s.db.Forward t.db) (I := fun _ => True)
    (fun _ => .refl _) (fun _ _ _ => .trans _ _ _) ?_ trivial
  rintro s ⟨call, result⟩ t - ⟨hkeeps, hstep⟩
  refine ⟨trivial, ?_⟩
  cases hstep with
  | answered hperforms | lost _ hperforms =>
    exact (performed_forward (perform_ok hperforms)).mpr hkeeps
  | refused | aborted => exact .refl _

section Samples

def sampleEntity : EntityId := ⟨Vector.replicate 16 1⟩

def sampleOwner : NodeId := ⟨Vector.replicate 16 2⟩

def sampleState : Digest32 := ⟨Vector.replicate 32 3⟩

def sampleBootstrap : DatabaseCall := .bootstrapEntity sampleEntity 1 sampleState 10

def sampleAcquire : DatabaseCall := .acquireAuthorityLease sampleEntity sampleOwner 1 10 100

def sampleHeld : AuthorityLease := ⟨sampleEntity, sampleOwner, 1, 1, 100, 10⟩

def sampleCommand : CommitRequest :=
  ⟨sampleEntity, ⟨Vector.replicate 16 4⟩, sampleState, 0, 1, sampleState, 5, [], []⟩

def sampleRenew : DatabaseCall := .renewAuthorityLease sampleHeld 50 100

def sampleCommit : DatabaseCall := .commitCommand { sampleCommand with committedAtMs := 60 }

theorem authority_clock_forward_sample :
    (Store.initial.after [sampleBootstrap, sampleAcquire]).db.Forward
      (Store.initial.after [sampleBootstrap, sampleAcquire, sampleRenew, sampleCommit]).db ∧
    ((Store.initial.after [sampleBootstrap, sampleAcquire]).db.Forward
        (Store.initial.after [sampleBootstrap, sampleAcquire,
          .releaseAuthorityLease sampleHeld 20]).db ↔
      (Store.initial.after [sampleBootstrap, sampleAcquire]).db.KeepsTime
        (.releaseAuthorityLease sampleHeld 20)) := by
  have hrenewed : timely.step (Store.initial.after [sampleBootstrap, sampleAcquire])
      (sampleRenew, .ok (.lease { sampleHeld with updatedAtMs := 50 }))
      (Store.initial.after [sampleBootstrap, sampleAcquire, sampleRenew]) := ⟨trivial, .answered rfl⟩
  have hcommitted : timely.step (Store.initial.after [sampleBootstrap, sampleAcquire, sampleRenew])
      (sampleCommit, .ok (.outcome (.applied
        (Commit.receipt ⟨{ sampleCommand with committedAtMs := 60 }, 1, 0⟩))))
      (Store.initial.after [sampleBootstrap, sampleAcquire, sampleRenew, sampleCommit]) := by
    refine ⟨?_, .answered rfl⟩
    intro _ head hhead _ _
    cases hhead
    decide
  exact authority_clock_forward ((Run.single hrenewed).snoc hcommitted) rfl

theorem authority_clock_regressed :
    (∃ s t reply head head', Reachable database s ∧
      StoreStep s (.commitCommand sampleCommand, .ok reply) t ∧
      s.db.head? sampleEntity = some head ∧ t.db.head? sampleEntity = some head' ∧
      head'.updatedAtMs < head.updatedAtMs) ∧
    ∃ s t reply row row', Reachable database s ∧
      StoreStep s (.releaseAuthorityLease sampleHeld 20, .ok reply) t ∧
      s.db.lease? sampleEntity = some row ∧ t.db.lease? sampleEntity = some row' ∧
      row'.updatedAtMs < row.updatedAtMs := by
  constructor
  · exact ⟨_, _, _, _, _, reachable_after_calls [sampleBootstrap], .answered rfl, rfl, rfl,
      by decide⟩
  · exact ⟨_, _, _, _, _, reachable_after_calls [sampleBootstrap, sampleAcquire,
      sampleRenew], .answered rfl, rfl, rfl, by decide⟩

end Samples

def DatabaseCall.Outdated (row : LeaseRow) : DatabaseCall → Prop
  | .commitCommand request => request.entity = row.entityId ∧
      request.authorityGeneration < row.authorityGeneration
  | .renewAuthorityLease lease _ _ | .releaseAuthorityLease lease _ =>
      lease.entity = row.entityId ∧ (lease.authorityGeneration < row.authorityGeneration ∨
        lease.leaseGeneration < row.leaseGeneration)
  | _ => False

def DatabaseReply.duplicate : DatabaseReply → Prop
  | .outcome (.duplicate _) => True
  | _ => False

structure Store.Fenced (s : Store) : Prop where
  headed : ∀ row ∈ s.db.leases, ∃ head ∈ s.db.heads, head.entityId = row.entityId ∧
    head.authorityGeneration = row.authorityGeneration
  together : ∀ row ∈ s.db.leases, ∀ grant ∈ s.grants, grant.entity = row.entityId →
    grant.authorityGeneration + row.leaseGeneration =
      row.authorityGeneration + grant.leaseGeneration
  granted : ∀ row ∈ s.db.leases,
    ((s.grants.filter fun grant => grant.entity = row.entityId).map
      AuthorityLease.leaseGeneration) = down row.leaseGeneration
  owned : ∀ row ∈ s.db.leases, ∃ grant ∈ s.grants, grant.entity = row.entityId ∧
    grant.owner = row.ownerNode ∧ grant.authorityGeneration = row.authorityGeneration
  single : s.grants.Pairwise fun later earlier =>
    ¬ (earlier.entity = later.entity ∧ earlier.authorityGeneration = later.authorityGeneration)
  expired : ∀ entity owner generation nowMs expiresAtMs reply db,
    s.db.perform (.acquireAuthorityLease entity owner generation nowMs expiresAtMs) =
      .ok (reply, db) → ∀ row ∈ s.db.leases, row.entityId = entity → row.expiresAtMs ≤ nowMs
  outdated : ∀ t events, Run database s events t → ∀ row ∈ s.db.leases, ∀ call : DatabaseCall,
    call.Outdated row → ∀ reply db, t.db.perform call = .ok (reply, db) →
      reply.duplicate ∧ db = t.db
  mismatch : ∀ call t, ¬ StoreStep s (call, .error headGenerationMismatch) t
  revisions : ∀ entity, ((s.log.filter fun commit => commit.entity = entity).map
    Commit.revision) = down ((s.db.head? entity).elim 0 HeadRow.revision)
  blocks : ∀ entity, (s.log.filter fun commit => commit.entity = entity).Pairwise
    fun later earlier => earlier.request.authorityGeneration ≤ later.request.authorityGeneration

section Leases

variable {s t : Store} {row : LeaseRow} {call : DatabaseCall}

theorem lease_row_unique (hs : Reachable database s) {row row' : LeaseRow}
    (hrow : row ∈ s.db.leases) (hrow' : s.db.lease? row.entityId = some row') : row' = row :=
  Option.mem_unique hrow' ((reachable_sound hs).lease? hrow)

structure LeaseRow.Before (row row' : LeaseRow) : Prop where
  lease : row.leaseGeneration ≤ row'.leaseGeneration
  authority : row.authorityGeneration ≤ row'.authorityGeneration

theorem EntityHistory.Moves.lease_before {h k : EntityHistory} (hmoves : h.Moves k)
    (hrow : h.lease = some row) : ∃ row', k.lease = some row' ∧ row.Before row' := by
  cases hmoves with
  | stays | bootstrapped | applied => exact ⟨row, hrow, le_rfl, le_rfl⟩
  | leased _ _ _ hfresh => cases hfresh.symm.trans hrow
  | takenOver _ hheld hauthority hlease =>
    cases Option.mem_unique hheld hrow
    exact ⟨_, rfl, (Nat.le_succ _).trans hlease.ge, (Nat.le_succ _).trans hauthority.ge⟩
  | timed hheld =>
    cases Option.mem_unique hheld hrow
    exact ⟨_, rfl, le_rfl, le_rfl⟩

theorem step_history {event : DatabaseCall × Except DomainError DatabaseReply}
    (hstep : StoreStep s event t) (entity : EntityId) :
    (s.history entity).Moves (t.history entity) := by
  cases hstep with
  | answered hperforms | lost _ hperforms => exact performed_moves (perform_ok hperforms) entity
  | refused | aborted => exact .stays

theorem run_lease_before {events : List (DatabaseCall × Except DomainError DatabaseReply)}
    (hrun : Run database s events t) {entity : EntityId} (hrow : s.db.lease? entity = some row) :
    ∃ row', t.db.lease? entity = some row' ∧ row.Before row' := by
  refine hrun.invariant (I := fun t => ∃ row', t.db.lease? entity = some row' ∧ row.Before row')
    ?_ ⟨row, hrow, le_rfl, le_rfl⟩
  rintro t event u ⟨row', hrow', hbefore⟩ hstep
  obtain ⟨row'', hrow'', hbefore'⟩ := (step_history hstep entity).lease_before hrow'
  exact ⟨row'', hrow'', hbefore.lease.trans hbefore'.lease,
    hbefore.authority.trans hbefore'.authority⟩

theorem names_generations {lease : AuthorityLease} (h : lease.names row = true) :
    row.leaseGeneration = lease.leaseGeneration ∧
      row.authorityGeneration = lease.authorityGeneration := by
  simp only [AuthorityLease.names, Bool.and_eq_true, decide_eq_true_eq] at h
  exact ⟨h.1.2, h.2⟩

theorem outdated_refused (hs : Reachable database s) (hrow : s.db.lease? row.entityId = some row)
    {row' : LeaseRow} (hbefore : row'.Before row) (hentity : row'.entityId = row.entityId)
    (houtdated : call.Outdated row') {reply : DatabaseReply} {db : Database}
    (hperforms : s.db.perform call = .ok (reply, db)) : reply.duplicate ∧ db = s.db := by
  have hunheld : ∀ lease : AuthorityLease, lease.entity = row'.entityId →
      (lease.authorityGeneration < row'.authorityGeneration ∨
        lease.leaseGeneration < row'.leaseGeneration) →
      ∀ held ∈ s.db.leases, ¬ lease.names held = true := by
    intro lease hlease hold held hheld hnamed
    obtain ⟨hleases, hauthorities⟩ := names_generations hnamed
    obtain rfl : row = held := by
      have hsame := (names_entity hnamed).trans (hlease.trans hentity)
      exact lease_row_unique hs hheld (hsame ▸ hrow)
    have hlease := hbefore.lease
    have hauthority := hbefore.authority
    omega
  cases perform_ok hperforms with
  | repeated => exact ⟨trivial, rfl⟩
  | applied hfresh happlies =>
    have hknown := happlies.known
    rw [houtdated.1, hentity] at hknown
    have htogether := lease_generation hs hknown hrow
    have hsame := happlies.generation
    have hless := houtdated.2
    have hauthority := hbefore.authority
    omega
  | renewed hknown hnamed =>
    exact absurd hnamed (hunheld _ houtdated.1 houtdated.2 _ (Database.lease?_some hknown).1)
  | released hstored hnamed =>
    exact absurd hnamed (hunheld _ houtdated.1 houtdated.2 _ hstored)
  | bootstrapped | leased | takenOver | claimed | completed | retried => exact houtdated.elim

theorem down_nodup (n : Nat) : (down n).Nodup := by
  rw [down, List.nodup_reverse]
  exact List.nodup_range'

theorem pairwise_groups {R : Type} (key : R → EntityId) {rows : List R} {Q : R → R → Prop}
    (h : ∀ entity, (rows.filter fun row => key row = entity).Pairwise Q) :
    rows.Pairwise fun later earlier => key earlier = key later → Q later earlier := by
  induction rows with
  | nil => exact .nil
  | cons first rest ih =>
    refine List.pairwise_cons.mpr ⟨fun row hrow hsame => ?_, ih fun entity => ?_⟩
    · have hgroup := h (key first)
      rw [filter_here key rfl] at hgroup
      exact (List.pairwise_cons.mp hgroup).1 row
        (List.mem_filter.mpr ⟨hrow, decide_eq_true hsame⟩)
    · exact (h entity).sublist (List.Sublist.filter _ (List.sublist_cons_self _ _))

theorem grants_single (hs : Reachable database s) : s.grants.Pairwise fun later earlier =>
    ¬ (earlier.entity = later.entity ∧
      earlier.authorityGeneration = later.authorityGeneration) := by
  refine (pairwise_groups AuthorityLease.entity
    (Q := fun later earlier => earlier.authorityGeneration ≠ later.authorityGeneration)
    fun entity => ?_).imp fun h hsame => h hsame.1 hsame.2
  have hgoverned := history_governed hs entity
  have hapart : ((s.history entity).grants.map AuthorityLease.leaseGeneration).Nodup := by
    rw [hgoverned.leases]
    exact down_nodup _
  cases hlease : s.db.lease? entity with
  | none =>
    have hnone : (s.history entity).grants = [] := by
      have hleases := hgoverned.leases
      rw [show (s.history entity).lease = none from hlease] at hleases
      exact List.map_eq_nil_iff.mp hleases
    change (s.history entity).grants.Pairwise _
    rw [hnone]
    exact .nil
  | some row =>
    refine (List.pairwise_map.mp hapart).imp_of_mem fun hlater hearlier hne hsame => hne ?_
    have hone := hgoverned.together row hlease _ hlater
    have htwo := hgoverned.together row hlease _ hearlier
    omega

end Leases

theorem authority_fenced {s : Store} (hs : Reachable database s) : s.Fenced where
  headed row hrow := by
    obtain ⟨head, hhead, hsame⟩ :=
      (history_governed hs row.entityId).headed row ((reachable_sound hs).lease? hrow)
    exact ⟨head, (Database.head?_some hhead).1, (Database.head?_some hhead).2, hsame⟩
  together row hrow grant hgrant hentity :=
    (history_governed hs row.entityId).together row ((reachable_sound hs).lease? hrow) grant
      (List.mem_filter.mpr ⟨hgrant, decide_eq_true hentity⟩)
  granted row hrow := by
    have hleases := (history_governed hs row.entityId).leases
    rwa [show (s.history row.entityId).lease = some row from (reachable_sound hs).lease? hrow]
      at hleases
  owned row hrow := by
    obtain ⟨grant, hgrant, howner, -, hauthority⟩ :=
      (history_governed hs row.entityId).held row ((reachable_sound hs).lease? hrow)
    obtain ⟨hmem, hentity⟩ := List.mem_filter.mp hgrant
    exact ⟨grant, hmem, of_decide_eq_true hentity, howner, hauthority⟩
  single := grants_single hs
  expired entity owner generation nowMs expiresAtMs reply db hperforms row hrow hentity := by
    have hlease := (reachable_sound hs).lease? hrow
    rw [hentity] at hlease
    cases perform_ok hperforms with
    | leased _ _ _ hfresh => cases hfresh.symm.trans hlease
    | takenOver _ _ _ htakes =>
      cases Option.mem_unique htakes.known hlease
      exact htakes.expired
  outdated t events hrun row hrow call houtdated reply db hperforms := by
    obtain ⟨row', hrow', hbefore⟩ := run_lease_before hrun ((reachable_sound hs).lease? hrow)
    have hentity := (Database.lease?_some hrow').2
    exact outdated_refused (hs.run hrun) (hentity ▸ hrow') hbefore hentity.symm houtdated hperforms
  mismatch call t hstep := by
    have hplain : ∀ source, mapPostgresError source ≠ headGenerationMismatch := by
      intro source
      cases source with
      | none => decide
      | some code =>
        change classifySqlstate code ≠ _
        unfold classifySqlstate
        split <;> first | decide | (split <;> decide)
    generalize hresult : (Except.error headGenerationMismatch : Except DomainError DatabaseReply) =
      result at hstep
    cases hstep with
    | answered => cases hresult
    | refused hrefuses => exact (perform_fails hs call _ hrefuses).1 (Except.error.inj hresult).symm
    | lost | aborted => exact hplain _ (Except.error.inj hresult).symm
  revisions entity := (history_numbered hs entity).revisions
  blocks entity := (history_governed hs entity).blocks

section Samples

def sampleGoverned : EntityId := ⟨Vector.replicate 16 1⟩

def sampleCommitted : CommitRequest :=
  ⟨sampleGoverned, ⟨Vector.replicate 16 2⟩, ⟨Vector.replicate 32 3⟩, 0, 1,
    ⟨Vector.replicate 32 4⟩, 20, [], []⟩

def sampleTakeover : List DatabaseCall :=
  [.bootstrapEntity sampleGoverned 1 ⟨Vector.replicate 32 4⟩ 10,
    .acquireAuthorityLease sampleGoverned ⟨Vector.replicate 16 5⟩ 1 10 30,
    .commitCommand sampleCommitted,
    .acquireAuthorityLease sampleGoverned ⟨Vector.replicate 16 6⟩ 1 30 50]

def sampleTaken : LeaseRow := ⟨sampleGoverned, ⟨Vector.replicate 16 6⟩, 2, 2, 50, 30⟩

theorem authority_fenced_sample : (Store.initial.after sampleTakeover).Fenced :=
  authority_fenced (reachable_after_calls sampleTakeover)

theorem outdated_answered : ∃ s reply db, Reachable database s ∧ sampleTaken ∈ s.db.leases ∧
    DatabaseCall.Outdated sampleTaken (.commitCommand sampleCommitted) ∧
      s.db.perform (.commitCommand sampleCommitted) = .ok (reply, db) :=
  ⟨_, _, _, reachable_after_calls sampleTakeover, List.mem_singleton.mpr rfl,
    ⟨rfl, Nat.one_lt_two⟩, rfl⟩

end Samples

end PersistencePg
