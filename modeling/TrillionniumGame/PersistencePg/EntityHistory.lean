import TrillionniumGame.PersistencePg.DatabaseSystem

namespace PersistencePg
open Checks Persistence Runs Tables

def Commit.entity (commit : Commit) : EntityId := commit.request.entity

structure EntityHistory where
  head : Option HeadRow
  lease : Option LeaseRow
  grants : List AuthorityLease
  log : List Commit

def Store.history (s : Store) (entity : EntityId) : EntityHistory where
  head := s.db.head? entity
  lease := s.db.lease? entity
  grants := s.grants.filter fun lease => lease.entity = entity
  log := s.log.filter fun commit => commit.entity = entity

def AuthorityLease.row (lease : AuthorityLease) : LeaseRow :=
  ⟨lease.entity, lease.owner, lease.leaseGeneration, lease.authorityGeneration,
    lease.expiresAtMs, lease.updatedAtMs⟩

def HeadRow.committed (request : CommitRequest) (head : HeadRow) : HeadRow :=
  { head with
    revision := head.revision + 1
    lastEventSequence := head.lastEventSequence + request.events.length
    stateDigest := request.nextState
    updatedAtMs := request.committedAtMs }

def HeadRow.granted (lease : AuthorityLease) (head : HeadRow) : HeadRow :=
  { head with
    authorityGeneration := lease.authorityGeneration
    updatedAtMs := lease.updatedAtMs }

inductive EntityHistory.Moves (h : EntityHistory) : EntityHistory → Prop
  | stays : h.Moves h
  | bootstrapped {head : HeadRow} (fresh : h.head = none) (revision : head.revision = 0)
      (sequence : head.lastEventSequence = 0) : h.Moves { h with head := some head }
  | applied {head : HeadRow} {request : CommitRequest} (known : h.head = some head)
      (same : head.authorityGeneration = request.authorityGeneration) :
      h.Moves { h with
        head := some (head.committed request)
        log := ⟨request, head.revision + 1, head.lastEventSequence⟩ :: h.log }
  | leased {head : HeadRow} {grant : AuthorityLease} (known : h.head = some head)
      (same : head.authorityGeneration = grant.authorityGeneration)
      (first : grant.leaseGeneration = 1) (fresh : h.lease = none) :
      h.Moves { h with lease := some grant.row, grants := grant :: h.grants }
  | takenOver {head : HeadRow} {previous : LeaseRow} {grant : AuthorityLease}
      (known : h.head = some head) (held : h.lease = some previous)
      (authority : grant.authorityGeneration = previous.authorityGeneration + 1)
      (lease : grant.leaseGeneration = previous.leaseGeneration + 1)
      (expired : previous.expiresAtMs ≤ grant.updatedAtMs) :
      h.Moves { h with
        head := some (head.granted grant), lease := some grant.row, grants := grant :: h.grants }
  | timed {row : LeaseRow} {expiresAtMs updatedAtMs : Nat} (held : h.lease = some row) :
      h.Moves { h with lease := some (row.timed expiresAtMs updatedAtMs) }

section Views

variable {db db' : Database} {request : CommitRequest} {head : HeadRow} {previous : LeaseRow}
  {entity other : EntityId} {owner : NodeId} {generation nowMs expiresAtMs : Nat}

theorem Database.head?_assign {p : HeadRow → Bool} {f : HeadRow → HeadRow}
    (h : db'.heads = assign p f db.heads) (hkeeps : ∀ row, (f row).entityId = row.entityId) :
    db'.head? entity = (db.head? entity).map fun row => if p row then f row else row := by
  rw [head?, h]
  exact find?_assign fun row => by rw [hkeeps row]

theorem Database.lease?_assign {p : LeaseRow → Bool} {f : LeaseRow → LeaseRow}
    (h : db'.leases = assign p f db.leases) (hkeeps : ∀ row, (f row).entityId = row.entityId) :
    db'.lease? entity = (db.lease? entity).map fun row => if p row then f row else row := by
  rw [lease?, h]
  exact find?_assign fun row => by rw [hkeeps row]

theorem map_eq_self {R : Type} {p : R → Bool} {f : R → R} {x : Option R}
    (h : ∀ row ∈ x, p row = false) : x.map (fun row => if p row then f row else row) = x := by
  cases x with
  | none => rfl
  | some row => exact congrArg some (if_neg (by rw [h row rfl]; exact Bool.false_ne_true))

theorem Applies.head?_same (happlies : Applies db request head) :
    (Commit.tables ⟨request, head.revision + 1, head.lastEventSequence⟩ db).head? request.entity =
      some (head.committed request) := by
  refine (Database.head?_assign rfl (by exact fun _ => rfl)).trans ?_
  rw [happlies.known, Option.map_some, if_pos]
  · rfl
  · simp only [Bool.and_eq_true, decide_eq_true_eq]
    exact ⟨⟨(Database.head?_some happlies.known).2, happlies.revision⟩, happlies.generation⟩

theorem Commit.head?_other {commit : Commit} (hother : commit.request.entity ≠ other) :
    (commit.tables db).head? other = db.head? other := by
  refine (Database.head?_assign rfl (by exact fun _ => rfl)).trans (map_eq_self fun row hrow => ?_)
  rw [(Database.head?_some hrow).2, decide_eq_false hother.symm, Bool.false_and, Bool.false_and]

theorem TakesOver.head?_same (hhead : db.head? entity = some head)
    (hsame : head.authorityGeneration = generation) :
    (db.takenOver entity owner generation nowMs expiresAtMs previous).head? entity =
      some { head with authorityGeneration := generation + 1, updatedAtMs := nowMs } := by
  refine (Database.head?_assign rfl (by exact fun _ => rfl)).trans ?_
  rw [hhead, Option.map_some, if_pos]
  simp only [Bool.and_eq_true, decide_eq_true_eq]
  exact ⟨(Database.head?_some hhead).2, hsame⟩

theorem TakesOver.lease?_same (htakes : TakesOver db entity generation nowMs previous) :
    (db.takenOver entity owner generation nowMs expiresAtMs previous).lease? entity =
      some ⟨entity, owner, previous.leaseGeneration + 1, generation + 1, expiresAtMs, nowMs⟩ := by
  have hentity := (Database.lease?_some htakes.known).2
  refine (Database.lease?_assign rfl (by exact fun _ => rfl)).trans ?_
  rw [htakes.known, Option.map_some, if_pos, hentity]
  simp only [Bool.and_eq_true, decide_eq_true_eq]
  exact ⟨⟨hentity, trivial⟩, htakes.generation⟩

theorem Database.takenOver_other (db : Database) (hother : entity ≠ other) :
    (db.takenOver entity owner generation nowMs expiresAtMs previous).head? other =
        db.head? other ∧
      (db.takenOver entity owner generation nowMs expiresAtMs previous).lease? other =
        db.lease? other := by
  constructor
  · refine (Database.head?_assign rfl (by exact fun _ => rfl)).trans ?_
    refine map_eq_self fun row hrow => ?_
    rw [(Database.head?_some hrow).2, decide_eq_false hother.symm, Bool.false_and]
  · refine (Database.lease?_assign rfl (by exact fun _ => rfl)).trans ?_
    refine map_eq_self fun row hrow => ?_
    rw [(Database.lease?_some hrow).2, decide_eq_false hother.symm, Bool.false_and,
      Bool.false_and]

theorem timed_lease? (db db' : Database) {p : LeaseRow → Bool} (hleases : db'.leases =
    assign p (.timed expiresAtMs nowMs) db.leases) :
    db'.lease? entity = db.lease? entity ∨ ∃ row, db.lease? entity = some row ∧
      db'.lease? entity = some (row.timed expiresAtMs nowMs) := by
  rw [Database.lease?_assign hleases fun _ => rfl]
  cases db.lease? entity with
  | none => exact .inl rfl
  | some row =>
    cases hp : p row with
    | false => exact .inl (congrArg some (if_neg (by rw [hp]; exact Bool.false_ne_true)))
    | true => exact .inr ⟨row, rfl, congrArg some (if_pos hp)⟩

end Views

section Steps

variable {s : Store} {db : Database} {call : DatabaseCall} {reply : DatabaseReply}
  {entity : EntityId} {R : Type} (key : R → EntityId)

theorem filter_here {row : R} {rows : List R} (h : key row = entity) :
    (row :: rows).filter (fun row => key row = entity) =
      row :: rows.filter fun row => key row = entity :=
  List.filter_cons_of_pos (decide_eq_true h)

theorem filter_elsewhere {row : R} {rows : List R} (h : key row ≠ entity) :
    (row :: rows).filter (fun row => key row = entity) =
      rows.filter fun row => key row = entity :=
  List.filter_cons_of_neg (by rw [decide_eq_false h]; exact Bool.false_ne_true)

theorem find?_here {row : R} {rows : List R} (h : key row = entity) :
    (row :: rows).find? (fun row => key row = entity) = some row :=
  List.find?_cons_of_pos (decide_eq_true h)

theorem find?_elsewhere {row : R} {rows : List R} (h : key row ≠ entity) :
    (row :: rows).find? (fun row => key row = entity) =
      rows.find? fun row => key row = entity :=
  List.find?_cons_of_neg (by rw [decide_eq_false h]; exact Bool.false_ne_true)

variable {head : HeadRow}

theorem bootstrapped_moves (hfresh : s.db.head? head.entityId = none)
    (hrevision : head.revision = 0) (hsequence : head.lastEventSequence = 0) (entity : EntityId) :
    (s.history entity).Moves
      (Store.history { s with db := { s.db with heads := head :: s.db.heads } } entity) := by
  change EntityHistory.Moves _ ⟨(head :: s.db.heads).find? _, _, _, _⟩
  by_cases hentity : head.entityId = entity
  · rw [find?_here HeadRow.entityId hentity]
    exact .bootstrapped (hentity ▸ hfresh) hrevision hsequence
  · rw [find?_elsewhere HeadRow.entityId hentity]
    exact .stays

theorem applied_moves {request : CommitRequest} (happlies : Applies s.db request head)
    (entity : EntityId) :
    (s.history entity).Moves (Store.history
      { s with
        db := Commit.tables ⟨request, head.revision + 1, head.lastEventSequence⟩ s.db
        log := ⟨request, head.revision + 1, head.lastEventSequence⟩ :: s.log } entity) := by
  let commit : Commit := ⟨request, head.revision + 1, head.lastEventSequence⟩
  change EntityHistory.Moves _ ⟨(commit.tables s.db).head? entity, _, _,
    (commit :: s.log).filter _⟩
  by_cases hentity : commit.entity = entity
  · rw [filter_here Commit.entity hentity, ← hentity, Commit.entity, happlies.head?_same]
    exact .applied happlies.known happlies.generation
  · rw [Commit.head?_other hentity, filter_elsewhere Commit.entity hentity]
    exact .stays

theorem leased_moves (grant : AuthorityLease) (hhead : s.db.head? grant.entity = some head)
    (hsame : head.authorityGeneration = grant.authorityGeneration)
    (hfirst : grant.leaseGeneration = 1) (hfresh : s.db.lease? grant.entity = none)
    (entity : EntityId) :
    (s.history entity).Moves (Store.history
      { s with
        db := { s.db with leases := grant.row :: s.db.leases }
        grants := grant :: s.grants } entity) := by
  change EntityHistory.Moves _ ⟨_, (_ :: s.db.leases).find? _, (_ :: s.grants).filter _, _⟩
  by_cases hentity : grant.entity = entity
  · have hrow : grant.row.entityId = entity := hentity
    rw [find?_here LeaseRow.entityId hrow, filter_here AuthorityLease.entity hentity]
    exact .leased (hentity ▸ hhead) hsame hfirst (hentity ▸ hfresh)
  · have hrow : grant.row.entityId ≠ entity := hentity
    rw [find?_elsewhere LeaseRow.entityId hrow, filter_elsewhere AuthorityLease.entity hentity]
    exact .stays

theorem takenOver_moves {target : EntityId} {owner : NodeId} {generation nowMs expiresAtMs : Nat}
    {previous : LeaseRow} (hhead : s.db.head? target = some head)
    (hsame : head.authorityGeneration = generation)
    (htakes : TakesOver s.db target generation nowMs previous) (entity : EntityId) :
    (s.history entity).Moves (Store.history
      { s with
        db := s.db.takenOver target owner generation nowMs expiresAtMs previous
        grants := ⟨target, owner, previous.leaseGeneration + 1, generation + 1, expiresAtMs,
          nowMs⟩ :: s.grants } entity) := by
  let grant : AuthorityLease :=
    ⟨target, owner, previous.leaseGeneration + 1, generation + 1, expiresAtMs, nowMs⟩
  change EntityHistory.Moves _
    ⟨Database.head? _ _, Database.lease? _ _, (grant :: s.grants).filter _, _⟩
  by_cases hentity : grant.entity = entity
  · rw [filter_here AuthorityLease.entity hentity]
    obtain rfl : target = entity := hentity
    rw [TakesOver.head?_same hhead hsame, htakes.lease?_same]
    exact @EntityHistory.Moves.takenOver _ head previous grant hhead htakes.known
      (congrArg (· + 1) htakes.generation.symm) rfl htakes.expired
  · obtain ⟨hheads, hleases⟩ := Database.takenOver_other s.db hentity
    rw [hheads, hleases, filter_elsewhere AuthorityLease.entity hentity]
    exact .stays

theorem timed_moves {p : LeaseRow → Bool} {expiresAtMs updatedAtMs : Nat} (entity : EntityId) :
    (s.history entity).Moves (Store.history
      { s with
        db := { s.db with leases := assign p (.timed expiresAtMs updatedAtMs) s.db.leases } }
      entity) := by
  change EntityHistory.Moves _ ⟨_, Database.lease? _ _, _, _⟩
  obtain hsame | ⟨row, hrow, htimed⟩ := timed_lease? s.db
    { s.db with leases := assign p (.timed expiresAtMs updatedAtMs) s.db.leases } rfl
  · rw [hsame]
    exact .stays
  · rw [htimed]
    exact .timed hrow

theorem performed_moves (h : Performed s.db call reply db) (entity : EntityId) :
    (s.history entity).Moves ((s.record call reply db).history entity) := by
  cases h with
  | bootstrapped hfresh hpositive => exact bootstrapped_moves hfresh rfl rfl entity
  | repeated | claimed | completed | retried => exact .stays
  | applied hfresh happlies =>
    have hmoves := applied_moves happlies entity
    simpa only [Store.record, Commit.receipt, Nat.add_sub_cancel] using hmoves
  | leased hhead hsame hclock hfresh =>
    exact leased_moves ⟨_, _, 1, _, _, _⟩ hhead hsame rfl hfresh entity
  | takenOver hhead hsame hclock htakes => exact takenOver_moves hhead hsame htakes entity
  | renewed | released => exact timed_moves entity

end Steps

structure Database.Sound (db : Database) : Prop where
  heads : (db.heads.map HeadRow.entityId).Nodup
  leases : (db.leases.map LeaseRow.entityId).Nodup
  generations : ∀ head ∈ db.heads, 0 < head.authorityGeneration
  leaseGenerations : ∀ row ∈ db.leases, 0 < row.leaseGeneration ∧ 0 < row.authorityGeneration

section Sound

variable {db db' : Database} {call : DatabaseCall} {reply : DatabaseReply} {entity : EntityId}

theorem Database.head?_none : db.head? entity = none ↔ entity ∉ db.heads.map HeadRow.entityId := by
  simp only [head?, List.find?_eq_none, decide_eq_true_eq, List.mem_map, not_exists, not_and]

theorem Database.lease?_none :
    db.lease? entity = none ↔ entity ∉ db.leases.map LeaseRow.entityId := by
  simp only [lease?, List.find?_eq_none, decide_eq_true_eq, List.mem_map, not_exists, not_and]

variable {R K : Type}

theorem find?_of_nodup [DecidableEq K] {key : R → K} {rows : List R} {row : R}
    (hnodup : (rows.map key).Nodup) (hrow : row ∈ rows) :
    rows.find? (fun held => key held = key row) = some row :=
  find_unique hrow (decide_eq_true rfl) fun _ hheld hkey =>
    List.inj_on_of_nodup_map hnodup hheld hrow (of_decide_eq_true hkey)

theorem Database.Sound.head? (hsound : db.Sound) {row : HeadRow} (hrow : row ∈ db.heads) :
    db.head? row.entityId = some row :=
  find?_of_nodup hsound.heads hrow

theorem Database.Sound.lease? (hsound : db.Sound) {row : LeaseRow} (hrow : row ∈ db.leases) :
    db.lease? row.entityId = some row :=
  find?_of_nodup hsound.leases hrow

theorem forall_assign {p : R → Bool} {f : R → R} {rows : List R} {Q : R → Prop}
    (h : ∀ row ∈ rows, Q row) (hf : ∀ row ∈ rows, Q row → Q (f row)) :
    ∀ row ∈ assign p f rows, Q row := by
  intro row hrow
  obtain ⟨held, hheld, rfl⟩ := mem_assign.mp hrow
  split
  · exact hf held hheld (h held hheld)
  · exact h held hheld

theorem nodup_assign {p : R → Bool} {f : R → R} {key : R → K} {rows : List R}
    (hkeeps : ∀ row, key (f row) = key row) (h : (rows.map key).Nodup) :
    ((assign p f rows).map key).Nodup := by
  rwa [map_assign hkeeps]

theorem Database.Sound.timed (hsound : db.Sound) {p : LeaseRow → Bool}
    {expiresAtMs updatedAtMs : Nat} : Database.Sound { db with
      leases := assign p (.timed expiresAtMs updatedAtMs) db.leases } := by
  obtain ⟨heads, leases, generations, leaseGenerations⟩ := hsound
  exact ⟨heads, nodup_assign (by exact fun _ => rfl) leases, generations,
    forall_assign leaseGenerations fun _ _ => id⟩

theorem Database.Sound.performed (hsound : db.Sound) (h : Performed db call reply db') :
    db'.Sound := by
  obtain ⟨heads, leases, generations, leaseGenerations⟩ := hsound
  cases h with
  | bootstrapped hfresh hpositive =>
    refine ⟨List.nodup_cons.mpr ⟨head?_none.mp hfresh, heads⟩, leases,
      List.forall_mem_cons.mpr ⟨Nat.pos_of_ne_zero hpositive, generations⟩, leaseGenerations⟩
  | repeated | claimed | completed | retried => exact ⟨heads, leases, generations, leaseGenerations⟩
  | applied hfresh happlies =>
    exact ⟨nodup_assign (by exact fun _ => rfl) heads, leases,
      forall_assign generations fun _ _ => id, leaseGenerations⟩
  | leased hhead hsame hclock hfresh =>
    have hgeneration := generations _ (head?_some hhead).1
    rw [hsame] at hgeneration
    exact ⟨heads, List.nodup_cons.mpr ⟨lease?_none.mp hfresh, leases⟩, generations,
      List.forall_mem_cons.mpr ⟨⟨Nat.one_pos, hgeneration⟩, leaseGenerations⟩⟩
  | takenOver =>
    exact ⟨nodup_assign (by exact fun _ => rfl) heads, nodup_assign (by exact fun _ => rfl) leases,
      forall_assign generations fun _ _ _ => Nat.succ_pos _,
      forall_assign leaseGenerations fun _ _ _ => ⟨Nat.succ_pos _, Nat.succ_pos _⟩⟩
  | renewed | released => exact Database.Sound.timed ⟨heads, leases, generations, leaseGenerations⟩

theorem reachable_sound {s : Store} (hs : Reachable database s) : s.db.Sound :=
  invariant_of_performs (I := fun s => s.db.Sound)
    ⟨List.nodup_nil, List.nodup_nil, nofun, nofun⟩ (fun _ _ _ _ hsound h => hsound.performed h) hs

end Sound

def down (n : Nat) : List Nat := (List.range' 1 n).reverse

theorem down_succ (n : Nat) : down (n + 1) = (n + 1) :: down n := by
  rw [down, List.range'_1_concat, List.reverse_append, Nat.add_comm 1 n]
  rfl

theorem mem_down {m n : Nat} : m ∈ down n ↔ 0 < m ∧ m ≤ n := by
  rw [down, List.mem_reverse, List.mem_range'_1]
  omega

structure EntityHistory.Governed (h : EntityHistory) : Prop where
  headed : ∀ row ∈ h.lease, ∃ head ∈ h.head, head.authorityGeneration = row.authorityGeneration
  held : ∀ row ∈ h.lease, ∃ grant ∈ h.grants, grant.owner = row.ownerNode ∧
    grant.leaseGeneration = row.leaseGeneration ∧
      grant.authorityGeneration = row.authorityGeneration
  leases : h.grants.map AuthorityLease.leaseGeneration =
    down (h.lease.elim 0 LeaseRow.leaseGeneration)
  together : ∀ row ∈ h.lease, ∀ grant ∈ h.grants,
    grant.authorityGeneration + row.leaseGeneration =
      row.authorityGeneration + grant.leaseGeneration
  bounded : ∀ commit ∈ h.log, ∃ head ∈ h.head,
    commit.request.authorityGeneration ≤ head.authorityGeneration
  blocks : h.log.Pairwise fun later earlier =>
    earlier.request.authorityGeneration ≤ later.request.authorityGeneration

theorem EntityHistory.Governed.moves {h k : EntityHistory} (hgoverned : h.Governed)
    (hmoves : h.Moves k) : k.Governed := by
  obtain ⟨headed, held, leases, together, bounded, blocks⟩ := hgoverned
  cases hmoves with
  | stays => exact ⟨headed, held, leases, together, bounded, blocks⟩
  | bootstrapped hfresh =>
    have hnolease : h.lease = none := Option.eq_none_iff_forall_not_mem.mpr fun row hrow => by
      obtain ⟨head, hhead, -⟩ := headed row hrow
      cases hfresh.symm.trans hhead
    have hnolog : ∀ commit, commit ∉ h.log := fun commit hcommit => by
      obtain ⟨head, hhead, -⟩ := bounded commit hcommit
      cases hfresh.symm.trans hhead
    refine ⟨fun row hrow => ?_, held, leases, together,
      fun commit hcommit => absurd hcommit (hnolog commit), blocks⟩
    cases hnolease.symm.trans hrow
  | @applied head request hknown hsame =>
    have hle : ∀ commit ∈ h.log,
        commit.request.authorityGeneration ≤ head.authorityGeneration := fun commit hcommit => by
      obtain ⟨found, hfound, hle⟩ := bounded commit hcommit
      exact Option.mem_unique hknown hfound ▸ hle
    refine ⟨fun row hrow => ?_, held, leases, together, ?_, ?_⟩
    · obtain ⟨found, hfound, hgeneration⟩ := headed row hrow
      cases Option.mem_unique hknown hfound
      exact ⟨_, rfl, hgeneration⟩
    · exact List.forall_mem_cons.mpr
        ⟨⟨_, rfl, hsame.ge⟩, fun commit hcommit => ⟨_, rfl, hle commit hcommit⟩⟩
    · exact List.pairwise_cons.mpr
        ⟨fun commit hcommit => (hle commit hcommit).trans hsame.le, blocks⟩
  | @leased head grant hknown hsame hfirst hfresh =>
    have hnone : h.grants = [] := by
      rw [hfresh] at leases
      exact List.map_eq_nil_iff.mp leases
    refine ⟨fun row hrow => ?_, fun row hrow => ?_, ?_, fun row hrow => ?_, bounded, blocks⟩
    · cases hrow
      exact ⟨head, hknown, hsame⟩
    · cases hrow
      exact ⟨grant, List.mem_cons_self, rfl, rfl, rfl⟩
    · rw [hnone, Option.elim_some]
      exact (congrArg (fun n => [n]) hfirst).trans (congrArg down hfirst).symm
    · cases hrow
      rw [hnone]
      exact List.forall_mem_singleton.mpr rfl
  | @takenOver head previous grant hknown hheld hauthority hlease hexpired =>
    obtain ⟨found, hfound, hgeneration⟩ := headed previous hheld
    cases Option.mem_unique hknown hfound
    refine ⟨fun row hrow => ?_, fun row hrow => ?_, ?_, fun row hrow => ?_,
      fun commit hcommit => ?_, blocks⟩
    · cases hrow
      exact ⟨_, rfl, rfl⟩
    · cases hrow
      exact ⟨grant, List.mem_cons_self, rfl, rfl, rfl⟩
    · rw [hheld, Option.elim_some] at leases
      rw [List.map_cons, leases, Option.elim_some]
      change grant.leaseGeneration :: _ = down grant.leaseGeneration
      rw [hlease, down_succ]
    · cases hrow
      refine List.forall_mem_cons.mpr ⟨rfl, fun other hother => ?_⟩
      have hearlier := together previous hheld other hother
      change _ + grant.leaseGeneration = grant.authorityGeneration + _
      omega
    · obtain ⟨found, hfound, hle⟩ := bounded commit hcommit
      cases Option.mem_unique hknown hfound
      refine ⟨_, rfl, ?_⟩
      change _ ≤ grant.authorityGeneration
      omega
  | @timed row _ _ hheld =>
    rw [hheld] at leases
    refine ⟨fun row' hrow => ?_, fun row' hrow => ?_, leases, fun row' hrow => ?_, bounded, blocks⟩
    · cases hrow
      exact headed row hheld
    · cases hrow
      exact held row hheld
    · cases hrow
      exact together row hheld

theorem history_governed {s : Store} (hs : Reachable database s) (entity : EntityId) :
    (s.history entity).Governed := by
  refine invariant_of_performs (I := fun s => (s.history entity).Governed) ?_ ?_ hs
  · exact ⟨nofun, nofun, rfl, nofun, nofun, .nil⟩
  · exact fun s call reply db hgoverned h => hgoverned.moves (performed_moves h entity)

end PersistencePg
