import Mathlib.Data.Finset.Max
import TrillionniumGame.Foundation.Runs
import TrillionniumGame.Token.KeyEpoch

namespace Token
open Checks FiniteMap Runs Words
open Persistence (Bytes zeroBytes)

inductive KeyEpochCall where
  | initializeEpoch (epoch : KeyEpoch) (keyId : KeyId) (activatedAt : Int)
      (reply : Except KeyEpochError KeyEpochRecord)
  | rotate (nextEpoch : KeyEpoch) (nextKeyId : KeyId) (activatedAt previousRetireAfter : Int)
      (verifier : Option KeyEpochArchiveVerifier) (reply : Except KeyEpochError KeyEpochRecord)
  | installAfterRevocation (nextEpoch : KeyEpoch) (nextKeyId : KeyId) (activatedAt : Int)
      (verifier : Option KeyEpochArchiveVerifier) (reply : Except KeyEpochError KeyEpochRecord)
  | retireExpired (now : Int) (changed : Nat)
  | revoke (epoch : KeyEpoch) (revokedAt : Int) (reply : Except KeyEpochError KeyEpochRecord)
  | archiveTerminal (archiveDigest : Bytes 32) (verifier : KeyEpochArchiveVerifier)
      (reply : Except KeyEpochError KeyEpochArchiveCheckpoint)

def KeyEpochCall.issued : KeyEpochCall → Option KeyEpochRecord
  | .initializeEpoch _ _ _ (.ok record) => some record
  | .rotate _ _ _ _ _ (.ok record) => some record
  | .installAfterRevocation _ _ _ _ (.ok record) => some record
  | _ => none

def KeyEpochCall.archived : KeyEpochCall → Option KeyEpochArchiveCheckpoint
  | .archiveTerminal _ _ (.ok checkpoint) => some checkpoint
  | _ => none

def KeyEpochCall.run (call : KeyEpochCall) (r r' : KeyEpochRegistry) : Prop :=
  match call with
  | .initializeEpoch epoch keyId activatedAt reply =>
    answer (r.initializeEpoch epoch keyId activatedAt) r = (reply, r')
  | .rotate nextEpoch nextKeyId activatedAt previousRetireAfter none reply =>
    answer (r.rotate nextEpoch nextKeyId activatedAt previousRetireAfter) r = (reply, r')
  | .rotate nextEpoch nextKeyId activatedAt previousRetireAfter (some verifier) reply =>
    answer (r.rotateWithArchiveVerifier nextEpoch nextKeyId activatedAt previousRetireAfter verifier)
      r = (reply, r')
  | .installAfterRevocation nextEpoch nextKeyId activatedAt none reply =>
    answer (r.installAfterRevocation nextEpoch nextKeyId activatedAt) r = (reply, r')
  | .installAfterRevocation nextEpoch nextKeyId activatedAt (some verifier) reply =>
    answer (r.installAfterRevocationWithArchiveVerifier nextEpoch nextKeyId activatedAt verifier) r =
      (reply, r')
  | .retireExpired now changed => r.retireExpired now = (changed, r')
  | .revoke epoch revokedAt reply => answer (r.revoke epoch revokedAt) r = (reply, r')
  | .archiveTerminal archiveDigest verifier reply =>
    answer (r.archiveTerminal archiveDigest verifier) r = (reply, r')

def keyEpochRegistries : System KeyEpochRegistry KeyEpochCall where
  init r := (∃ capacity, KeyEpochRegistry.withCapacity capacity = .ok r) ∨
    ∃ capacity checkpoint verifier, KeyEpochRegistry.fromCheckpoint capacity checkpoint verifier = .ok r
  step r call r' := call.run r r'

namespace KeyEpochRegistry

variable {r r' : KeyEpochRegistry}

def expire (now : Int) (record : KeyEpochRecord) : KeyEpochRecord :=
  match record.state with
  | .verifyOnly retireAfter =>
    if retireAfter < now then { record with state := .retired retireAfter } else record
  | .active | .retired _ | .revoked _ => record

def Later (before after : Option Int) : Prop := ∀ time ∈ before, ∃ time' ∈ after, time ≤ time'

theorem Later.refl (time : Option Int) : Later time time := fun time htime => ⟨time, htime, le_rfl⟩

theorem Later.trans {a b c : Option Int} (h : Later a b) (k : Later b c) : Later a c := by
  intro time htime
  obtain ⟨time', htime', hle⟩ := h time htime
  obtain ⟨time'', htime'', hle'⟩ := k time' htime'
  exact ⟨time'', htime'', hle.trans hle'⟩

theorem later_laterOf (time : Int) (latest : Option Int) : Later latest (some (laterOf time latest)) := by
  rintro before ⟨⟩
  exact ⟨_, rfl, le_max_left _ _⟩

theorem le_laterOf (time : Int) (latest : Option Int) : time ≤ laterOf time latest := by
  cases latest with
  | none => exact le_rfl
  | some before => exact le_max_right _ _

structure Retirement (now : Int) (xs : List (KeyEpoch × KeyEpochRecord))
    (before after : Retiring) : Prop where
  others : ∀ epoch, epoch ∉ xs.map (·.1) → after.records.lookup epoch = before.records.lookup epoch
  expired : ∀ item ∈ xs, before.records.lookup item.1 = some item.2 →
    after.records.lookup item.1 = some (expire now item.2)
  later : Later before.latestTerminalTime after.latestTerminalTime
  times : ∀ item ∈ xs, ∀ retireAfter, item.2.state = .verifyOnly retireAfter → retireAfter < now →
    ∃ latest ∈ after.latestTerminalTime, retireAfter ≤ latest

theorem retireRecord_spec (now : Int) (retiring : Retiring) (item : KeyEpoch × KeyEpochRecord) :
    Retirement now [item] retiring (retireRecord now retiring item) := by
  unfold retireRecord
  cases hstate : item.2.state with
  | verifyOnly retireAfter =>
    dsimp only
    split
    · next hexpired =>
      refine ⟨fun epoch hepoch => ?_, fun other hother hlookup => ?_, later_laterOf _ _,
        fun other hother time htime _ => ?_⟩
      · exact Finmap.lookup_insert_of_ne _ (by simpa using hepoch)
      · cases List.mem_singleton.mp hother
        rw [Finmap.lookup_insert, expire, hstate]
        exact congrArg some (if_pos hexpired).symm
      · cases List.mem_singleton.mp hother
        cases KeyEpochState.verifyOnly.inj (hstate.symm.trans htime)
        exact ⟨_, rfl, le_laterOf _ _⟩
    · next hcurrent =>
      refine ⟨fun _ _ => rfl, fun other hother hlookup => ?_, Later.refl _,
        fun other hother time htime hexpired => ?_⟩
      · cases List.mem_singleton.mp hother
        rw [hlookup, expire, hstate]
        exact congrArg some (if_neg hcurrent).symm
      · cases List.mem_singleton.mp hother
        cases KeyEpochState.verifyOnly.inj (hstate.symm.trans htime)
        exact absurd hexpired hcurrent
  | active | retired | revoked =>
    refine ⟨fun _ _ => rfl, fun other hother hlookup => ?_, Later.refl _,
      fun other hother time htime _ => ?_⟩
    · cases List.mem_singleton.mp hother
      rw [hlookup, expire, hstate]
    · cases List.mem_singleton.mp hother
      rw [hstate] at htime
      cases htime

theorem retire_fold (now : Int) {xs : List (KeyEpoch × KeyEpochRecord)} (hnodup : (xs.map (·.1)).Nodup)
    (retiring : Retiring) : Retirement now xs retiring (xs.foldl (retireRecord now) retiring) := by
  induction xs generalizing retiring with
  | nil => exact ⟨fun _ _ => rfl, nofun, Later.refl _, nofun⟩
  | cons item rest ih =>
    rw [List.map_cons, List.nodup_cons] at hnodup
    have hfirst := retireRecord_spec now retiring item
    have hrest := ih hnodup.2 (retireRecord now retiring item)
    rw [List.foldl_cons]
    refine ⟨fun epoch hepoch => ?_, fun other hother hlookup => ?_, hfirst.later.trans hrest.later,
      fun other hother time htime hexpired => ?_⟩
    · rw [List.map_cons, List.mem_cons, not_or] at hepoch
      rw [hrest.others epoch hepoch.2, hfirst.others epoch (by simpa using hepoch.1)]
    · rcases List.mem_cons.mp hother with rfl | hmem
      · rw [hrest.others _ hnodup.1]
        exact hfirst.expired other List.mem_cons_self hlookup
      · refine hrest.expired other hmem ?_
        have hne : other.1 ≠ item.1 := fun heq => hnodup.1 (heq ▸ List.mem_map_of_mem hmem)
        rw [hfirst.others other.1 (by simpa using hne), hlookup]
    · rcases List.mem_cons.mp hother with rfl | hmem
      · obtain ⟨latest, hlatest, hle⟩ :=
          hfirst.times other List.mem_cons_self time htime hexpired
        obtain ⟨later, hlater, hle'⟩ := hrest.later latest hlatest
        exact ⟨later, hlater, hle.trans hle'⟩
      · exact hrest.times other hmem time htime hexpired

theorem retireExpired_spec (r : KeyEpochRegistry) (now : Int) :
    Retirement now (items r.records) ⟨r.records, r.lastLifecycleTime, 0⟩
      ((items r.records).foldl (retireRecord now) ⟨r.records, r.lastLifecycleTime, 0⟩) :=
  retire_fold now (items_keys r.records ▸ nodup_ordered _) _

theorem retireExpired_lookup (r : KeyEpochRegistry) (now : Int) (epoch : KeyEpoch) :
    (r.retireExpired now).2.records.lookup epoch = (r.records.lookup epoch).map (expire now) := by
  have hspec := r.retireExpired_spec now
  cases hlookup : r.records.lookup epoch with
  | none =>
    refine (hspec.others epoch fun hmem => ?_).trans hlookup
    rw [items_keys, mem_ordered, Finmap.mem_keys] at hmem
    exact Finmap.lookup_eq_none.mp hlookup hmem
  | some record => exact hspec.expired (epoch, record) (mem_items.mpr hlookup) hlookup

variable {record : KeyEpochRecord}

theorem mem_values : record ∈ r.values ↔ ∃ epoch, r.records.lookup epoch = some record := by
  simp only [values, List.mem_map, Prod.exists, mem_items, exists_eq_right]

structure Next (r : KeyEpochRegistry) (verifier : Option KeyEpochArchiveVerifier)
    (highest : KeyEpoch) (next : KeyEpochRecord) : Prop where
  epoch : next.epoch.get = highest.get + 1
  fresh : next.keyId ∉ r.usedKeyIds
  absent : ∀ checkpoint ∈ r.checkpoint, ∃ given ∈ verifier,
    given.keyIdIsAbsent checkpoint next.keyId = true
  later : ∃ time ∈ r.lastLifecycleTime, time < next.activatedAt
  room : r.records.keys.card < r.capacity
  active : next.state = .active

def demoted (r : KeyEpochRegistry) (current : KeyEpochRecord) (retireAfter : Int) :
    KeyEpochRegistry :=
  { r with
    records := r.records.insert current.epoch { current with state := .verifyOnly retireAfter } }

def revoked (r : KeyEpochRegistry) (epoch : KeyEpoch) (current : KeyEpochRecord) (revokedAt : Int) :
    KeyEpochRegistry :=
  { r with
    records := r.records.insert epoch { current with state := .revoked revokedAt }
    lastLifecycleTime := some (laterOf revokedAt r.lastLifecycleTime)
    active := if r.active = some epoch then none else r.active
    authorityLostEpoch := if r.active = some epoch then some epoch else r.authorityLostEpoch }

def archived (r : KeyEpochRegistry) (checkpoint : KeyEpochArchiveCheckpoint) : KeyEpochRegistry :=
  { r with
    records := checkpoint.archivedRecords.foldl (fun records record => records.erase record.epoch)
      r.records
    usedKeyIds := checkpoint.archivedRecords.foldl
      (fun usedKeyIds record => usedKeyIds.erase record.keyId) r.usedKeyIds
    checkpoint := some checkpoint
    nextArchiveSequence := r.nextArchiveSequence + 1 }

inductive Moved (r : KeyEpochRegistry) : KeyEpochCall → KeyEpochRegistry → Prop
  | quiet {call : KeyEpochCall} (hissued : call.issued = none) (harchived : call.archived = none) :
      Moved r call r
  | initialized {epoch : KeyEpoch} {keyId : KeyId} {activatedAt : Int}
      (hnew : r.highestEpoch = none ∧ r.active = none ∧ r.records.keys = ∅)
      (hroom : r.records.keys.card < r.capacity) :
      Moved r (.initializeEpoch epoch keyId activatedAt (.ok ⟨epoch, keyId, .active, activatedAt⟩))
        (r.install ⟨epoch, keyId, .active, activatedAt⟩)
  | rotated {verifier : Option KeyEpochArchiveVerifier} {retireAfter : Int}
      {current next : KeyEpochRecord} {epoch : KeyEpoch} (hactive : r.active = some epoch)
      (hcurrent : r.records.lookup epoch = some current) (hstate : current.state = .active)
      (hhighest : r.highestEpoch = some current.epoch) (hnext : r.Next verifier current.epoch next)
      (hoverlap : next.activatedAt < retireAfter) :
      Moved r (.rotate next.epoch next.keyId next.activatedAt retireAfter verifier (.ok next))
        ((r.demoted current retireAfter).install next)
  | replaced {verifier : Option KeyEpochArchiveVerifier} {next : KeyEpochRecord}
      {highest : KeyEpoch} (hactive : r.active = none) (hhighest : r.highestEpoch = some highest)
      (hlost : r.authorityLostEpoch = some highest) (hnext : r.Next verifier highest next) :
      Moved r (.installAfterRevocation next.epoch next.keyId next.activatedAt verifier (.ok next))
        (r.install next)
  | retired {now : Int} {changed : Nat} :
      Moved r (.retireExpired now changed) (r.retireExpired now).2
  | revoked {epoch : KeyEpoch} {revokedAt : Int} {current : KeyEpochRecord}
      {reply : Except KeyEpochError KeyEpochRecord}
      (hcurrent : r.records.lookup epoch = some current)
      (hlater : current.activatedAt ≤ revokedAt) (hlive : terminalTime current.state = none) :
      Moved r (.revoke epoch revokedAt reply) (r.revoked epoch current revokedAt)
  | archived {archiveDigest : Bytes 32} {verifier : KeyEpochArchiveVerifier}
      {checkpoint : KeyEpochArchiveCheckpoint}
      (hcheckpoint : r.terminalCheckpoint archiveDigest = .ok checkpoint) :
      Moved r (.archiveTerminal archiveDigest verifier (.ok checkpoint)) (r.archived checkpoint)

theorem activeRecord_ok : r.activeRecord = .ok record ↔
    ∃ epoch, r.active = some epoch ∧ r.records.lookup epoch = some record ∧ record.state = .active := by
  unfold activeRecord
  simp only [bind_ok, fetch_ok, require_ok, exists_const]
  constructor
  · rintro ⟨epoch, hactive, current, hcurrent, hstate, hresult⟩
    cases hresult
    exact ⟨epoch, hactive, hcurrent, hstate⟩
  · rintro ⟨epoch, hactive, hcurrent, hstate⟩
    exact ⟨epoch, hactive, record, hcurrent, hstate, rfl⟩

variable {nextKeyId : KeyId} {verifier : Option KeyEpochArchiveVerifier}

theorem requireAbsent_ok (h : r.requireAbsent nextKeyId verifier = .ok ()) :
    ∀ checkpoint ∈ r.checkpoint,
      ∃ given ∈ verifier, given.keyIdIsAbsent checkpoint nextKeyId = true := by
  intro checkpoint hcheckpoint
  unfold requireAbsent at h
  rw [Option.mem_def.mp hcheckpoint] at h
  simp only [bind_ok, fetch_ok, require_ok, exists_const] at h
  obtain ⟨given, hgiven, _, habsent⟩ := h
  exact ⟨given, hgiven, habsent⟩

variable {nextEpoch : KeyEpoch} {activatedAt : Int}

theorem validateNextEpoch_ok {highest : KeyEpoch} {time : Int}
    (htime : r.lastLifecycleTime = some time)
    (h : r.validateNextEpoch highest time nextEpoch nextKeyId activatedAt verifier = .ok ()) :
    r.Next verifier highest ⟨nextEpoch, nextKeyId, .active, activatedAt⟩ := by
  unfold validateNextEpoch requireCapacity at h
  simp only [bind_ok, fetch_ok, fits_some, require_ok, exists_const] at h
  obtain ⟨_, ⟨_, rfl⟩, hepoch, hfresh, _, habsent, hlater, hroom⟩ := h
  exact ⟨hepoch, hfresh, requireAbsent_ok habsent, ⟨time, htime, hlater⟩, hroom, rfl⟩

theorem moved_rotate {retireAfter : Int}
    (h : r.rotateInner nextEpoch nextKeyId activatedAt retireAfter verifier = .ok (record, r')) :
    Moved r (.rotate nextEpoch nextKeyId activatedAt retireAfter verifier (.ok record)) r' := by
  unfold rotateInner at h
  simp only [bind_ok, activeRecord_ok, fetch_ok, require_ok, exists_const] at h
  obtain ⟨current, ⟨epoch, hactive, hcurrent, hstate⟩, highest, hhighest, rfl, time, htime, _, hvalid,
    hoverlap, hresult⟩ := h
  cases hresult
  exact Moved.rotated hactive hcurrent hstate
    hhighest (validateNextEpoch_ok htime hvalid) hoverlap

theorem moved_replace
    (h : r.installAfterRevocationInner nextEpoch nextKeyId activatedAt verifier = .ok (record, r')) :
    Moved r (.installAfterRevocation nextEpoch nextKeyId activatedAt verifier (.ok record)) r' := by
  unfold installAfterRevocationInner at h
  simp only [bind_ok, fetch_ok, require_ok, exists_const] at h
  obtain ⟨hactive, highest, hhighest, hlost, time, htime, _, hvalid, hresult⟩ := h
  cases hresult
  exact Moved.replaced hactive hhighest hlost (validateNextEpoch_ok htime hvalid)

variable {epoch : KeyEpoch}

theorem moved_revoke {revokedAt : Int} (h : r.revoke epoch revokedAt = .ok (record, r')) :
    Moved r (.revoke epoch revokedAt (.ok record)) r' := by
  unfold revoke at h
  simp only [bind_ok, fetch_ok, require_ok, exists_const] at h
  obtain ⟨current, hcurrent, hlater, h⟩ := h
  cases hstate : current.state with
  | active | verifyOnly =>
    simp only [hstate] at h
    cases h
    exact .revoked hcurrent hlater (by rw [hstate]; rfl)
  | revoked =>
    simp only [hstate] at h
    cases h
    exact .quiet rfl rfl
  | retired => simp [hstate] at h

theorem archiveTerminal_ok {archiveDigest : Bytes 32} {verifier : KeyEpochArchiveVerifier}
    {checkpoint : KeyEpochArchiveCheckpoint} :
    r.archiveTerminal archiveDigest verifier = .ok (checkpoint, r') ↔
      r.terminalCheckpoint archiveDigest = .ok checkpoint ∧
      validateCheckpointShape checkpoint r.capacity = .ok () ∧
      verifier.verifyCheckpoint checkpoint = true ∧ r.nextArchiveSequence + 1 < 2 ^ 64 ∧
      r.archived checkpoint = r' := by
  unfold archiveTerminal
  simp only [bind_ok, fetch_ok, fits_some, require_ok, exists_const]
  constructor
  · rintro ⟨built, hbuilt, _, hshape, hverified, _, ⟨hfits, rfl⟩, hresult⟩
    cases hresult
    exact ⟨hbuilt, hshape, hverified, hfits, rfl⟩
  · rintro ⟨hbuilt, hshape, hverified, hfits, rfl⟩
    exact ⟨checkpoint, hbuilt, (), hshape, hverified, _, ⟨hfits, rfl⟩, rfl⟩

theorem archiveTerminal_error {archiveDigest : Bytes 32} {verifier : KeyEpochArchiveVerifier}
    {checkpoint : KeyEpochArchiveCheckpoint} {error : KeyEpochError}
    (hbuilt : r.terminalCheckpoint archiveDigest = .ok checkpoint)
    (hvalid : validateCheckpointShape checkpoint r.capacity = .ok ()) :
    r.archiveTerminal archiveDigest verifier = .error error ↔
      error = .archiveVerificationFailed ∧ verifier.verifyCheckpoint checkpoint = false ∨
      error = .archiveSequenceExhausted ∧ verifier.verifyCheckpoint checkpoint = true ∧
        2 ^ 64 ≤ r.nextArchiveSequence + 1 := by
  unfold archiveTerminal
  rw [hbuilt, ok_bind, hvalid, ok_bind]
  have hexhausted : fits 64 (r.nextArchiveSequence + 1) = none ↔
      2 ^ 64 ≤ r.nextArchiveSequence + 1 := by
    simp [fits]
  simp only [bind_error, require_error, require_ok, fetch_error, hexhausted, pure, Except.pure,
    reduceCtorEq, and_false, exists_false, or_false, exists_const, Bool.not_eq_true]
  constructor
  · rintro (⟨hrefuses, rfl⟩ | ⟨haccepts, hlast, rfl⟩)
    · exact .inl ⟨rfl, hrefuses⟩
    · exact .inr ⟨rfl, haccepts, hlast⟩
  · rintro (⟨rfl, hrefuses⟩ | ⟨rfl, haccepts, hlast⟩)
    · exact .inl ⟨hrefuses, rfl⟩
    · exact .inr ⟨haccepts, hlast, rfl⟩

theorem moved_initialize {keyId : KeyId}
    (h : r.initializeEpoch epoch keyId activatedAt = .ok (record, r')) :
    Moved r (.initializeEpoch epoch keyId activatedAt (.ok record)) r' := by
  unfold initializeEpoch requireCapacity at h
  simp only [bind_ok, require_ok, exists_const] at h
  obtain ⟨hnew, hroom, hresult⟩ := h
  cases hresult
  exact .initialized hnew hroom

theorem moved {call : KeyEpochCall} (h : keyEpochRegistries.step r call r') : Moved r call r' := by
  change call.run r r' at h
  cases call with
  | initializeEpoch epoch keyId activatedAt reply =>
    cases reply with
    | ok record => exact moved_initialize (answer_ok.mp h)
    | error error => exact (answer_error.mp h).2 ▸ .quiet rfl rfl
  | rotate nextEpoch nextKeyId activatedAt retireAfter verifier reply =>
    cases verifier <;> cases reply with
    | ok record => exact moved_rotate (answer_ok.mp h)
    | error error => exact (answer_error.mp h).2 ▸ .quiet rfl rfl
  | installAfterRevocation nextEpoch nextKeyId activatedAt verifier reply =>
    cases verifier <;> cases reply with
    | ok record => exact moved_replace (answer_ok.mp h)
    | error error => exact (answer_error.mp h).2 ▸ .quiet rfl rfl
  | retireExpired now changed =>
    obtain rfl : (r.retireExpired now).2 = r' := congrArg Prod.snd h
    exact .retired
  | revoke epoch revokedAt reply =>
    cases reply with
    | ok record => exact moved_revoke (answer_ok.mp h)
    | error error => exact (answer_error.mp h).2 ▸ .quiet rfl rfl
  | archiveTerminal archiveDigest verifier reply =>
    cases reply with
    | ok checkpoint =>
      obtain ⟨hbuilt, _, _, _, rfl⟩ := archiveTerminal_ok.mp (answer_ok.mp h)
      exact .archived hbuilt
    | error error => exact (answer_error.mp h).2 ▸ .quiet rfl rfl

end KeyEpochRegistry

namespace SeenRecords

variable {seen seen' : SeenRecords} {record : KeyEpochRecord} {message : String}

def Fresh (seen : SeenRecords) (record : KeyEpochRecord) : Prop :=
  record.epoch ∉ seen.epochs ∧ record.keyId ∉ seen.keyIds

def add (seen : SeenRecords) (record : KeyEpochRecord) : SeenRecords where
  epochs := Insert.insert record.epoch seen.epochs
  keyIds := Insert.insert record.keyId seen.keyIds
  activeRecordCount := seen.activeRecordCount + if record.state = .active then 1 else 0

theorem insert_ok (hstate : record.state ≠ .active) :
    seen.insert record message = .ok seen' ↔ seen.Fresh record ∧ seen.add record = seen' := by
  unfold insert add
  rw [if_neg hstate]
  simp only [bind_ok, require_ok, exists_const]
  constructor
  · rintro ⟨hfresh, hresult⟩
    exact ⟨hfresh, Except.ok.inj hresult⟩
  · rintro ⟨hfresh, rfl⟩
    exact ⟨hfresh, rfl⟩

theorem insert_active_ok (message : String) (hstate : record.state = .active) :
    { seen with activeRecordCount := seen.activeRecordCount + 1 }.insert record message =
      .ok seen' ↔ seen.Fresh record ∧ seen.add record = seen' := by
  unfold insert add
  rw [if_pos hstate]
  simp only [bind_ok, require_ok, exists_const]
  constructor
  · rintro ⟨hfresh, hresult⟩
    exact ⟨hfresh, Except.ok.inj hresult⟩
  · rintro ⟨hfresh, rfl⟩
    exact ⟨hfresh, rfl⟩

theorem add_fold (records : List KeyEpochRecord) (seen : SeenRecords) :
    records.foldl add seen =
      ⟨seen.epochs ∪ (records.map (·.epoch)).toFinset, seen.keyIds ∪ (records.map (·.keyId)).toFinset,
        seen.activeRecordCount + records.countP fun record => record.state = .active⟩ := by
  induction records generalizing seen with
  | nil => simp
  | cons record rest ih =>
    rw [List.foldl_cons, ih, add]
    simp only [List.map_cons, List.toFinset_cons, Finset.union_insert, Finset.insert_union,
      List.countP_cons, decide_eq_true_eq, SeenRecords.mk.injEq, true_and]
    omega

structure FreshAll (seen : SeenRecords) (records : List KeyEpochRecord) : Prop where
  epochs : (records.map (·.epoch)).Nodup
  keyIds : (records.map (·.keyId)).Nodup
  unseen : ∀ record ∈ records, seen.Fresh record

theorem freshAll_cons {rest : List KeyEpochRecord} :
    seen.FreshAll (record :: rest) ↔ seen.Fresh record ∧ (seen.add record).FreshAll rest := by
  have hstep : (∀ other ∈ rest, (seen.add record).Fresh other) ↔
      record.epoch ∉ rest.map (·.epoch) ∧ record.keyId ∉ rest.map (·.keyId) ∧
        ∀ other ∈ rest, seen.Fresh other := by
    simp only [Fresh, add, Finset.mem_insert, not_or, List.mem_map, not_exists, not_and]
    constructor
    · intro h
      exact ⟨fun other hother heq => (h other hother).1.1 heq,
        fun other hother heq => (h other hother).2.1 heq,
        fun other hother => ⟨(h other hother).1.2, (h other hother).2.2⟩⟩
    · rintro ⟨hepochs, hkeyIds, hunseen⟩ other hother
      exact ⟨⟨hepochs other hother, (hunseen other hother).1⟩, hkeyIds other hother,
        (hunseen other hother).2⟩
  constructor
  · rintro ⟨hepochs, hkeyIds, hunseen⟩
    rw [List.map_cons, List.nodup_cons] at hepochs hkeyIds
    rw [List.forall_mem_cons] at hunseen
    exact ⟨hunseen.1, hepochs.2, hkeyIds.2, hstep.mpr ⟨hepochs.1, hkeyIds.1, hunseen.2⟩⟩
  · rintro ⟨hfresh, hepochs, hkeyIds, hunseen⟩
    obtain ⟨hepoch, hkeyId, hrest⟩ := hstep.mp hunseen
    exact ⟨List.nodup_cons.mpr ⟨hepoch, hepochs⟩, List.nodup_cons.mpr ⟨hkeyId, hkeyIds⟩,
      List.forall_mem_cons.mpr ⟨hfresh, hrest⟩⟩

theorem fold_ok (count : Prop) {check : SeenRecords → KeyEpochRecord → Except KeyEpochError SeenRecords}
    {Good : KeyEpochRecord → Prop}
    (hcheck : ∀ seen record seen', (count → seen.activeRecordCount + 1 < 2 ^ 64) →
      (check seen record = .ok seen' ↔ Good record ∧ seen.Fresh record ∧ seen.add record = seen'))
    {records : List KeyEpochRecord}
    (hfits : count → seen.activeRecordCount + records.length < 2 ^ 64) :
    records.foldlM check seen = .ok seen' ↔
      (∀ record ∈ records, Good record) ∧ seen.FreshAll records ∧ records.foldl add seen = seen' := by
  induction records generalizing seen with
  | nil =>
    constructor
    · intro h
      exact ⟨nofun, ⟨List.nodup_nil, List.nodup_nil, nofun⟩, Except.ok.inj h⟩
    · rintro ⟨_, _, rfl⟩
      rfl
  | cons record rest ih =>
    rw [List.length_cons] at hfits
    have hfirst : count → seen.activeRecordCount + 1 < 2 ^ 64 := by
      intro hcount
      have hall := hfits hcount
      omega
    have hnext : count → (seen.add record).activeRecordCount + rest.length < 2 ^ 64 := by
      intro hcount
      have hall := hfits hcount
      dsimp only [add]
      split <;> omega
    rw [List.foldlM_cons, bind_ok, List.foldl_cons, List.forall_mem_cons, freshAll_cons]
    constructor
    · rintro ⟨middle, hmiddle, hrest⟩
      obtain ⟨hgood, hfresh, rfl⟩ := (hcheck seen record middle hfirst).mp hmiddle
      obtain ⟨hgoods, hfreshes, hresult⟩ := (ih hnext).mp hrest
      exact ⟨⟨hgood, hgoods⟩, ⟨hfresh, hfreshes⟩, hresult⟩
    · rintro ⟨⟨hgood, hgoods⟩, ⟨hfresh, hfreshes⟩, hresult⟩
      exact ⟨seen.add record, (hcheck _ _ _ hfirst).mpr ⟨hgood, hfresh, rfl⟩,
        (ih hnext).mpr ⟨hgoods, hfreshes, hresult⟩⟩

end SeenRecords

def KeyEpochRecord.Archived (lastLifecycleTime : Int) (record : KeyEpochRecord) : Prop :=
  ∃ time, terminalTime record.state = some time ∧ record.activatedAt ≤ time ∧
    time ≤ lastLifecycleTime

def KeyEpochRecord.Retained (record : KeyEpochRecord) : Prop :=
  terminalTime record.state = none ∧
    ∀ retireAfter, record.state = .verifyOnly retireAfter → record.activatedAt < retireAfter

theorem checkArchivedRecord_ok {lastLifecycleTime : Int} (seen : SeenRecords)
    (record : KeyEpochRecord) (seen' : SeenRecords) :
    checkArchivedRecord lastLifecycleTime seen record = .ok seen' ↔
      record.Archived lastLifecycleTime ∧ seen.Fresh record ∧ seen.add record = seen' := by
  unfold checkArchivedRecord KeyEpochRecord.Archived
  simp only [bind_ok, fetch_ok, require_ok, exists_const]
  constructor
  · rintro ⟨time, htime, hactivated, hlast, hinsert⟩
    have hstate : record.state ≠ .active := by
      intro hactive
      rw [hactive] at htime
      cases htime
    exact ⟨⟨time, htime, hactivated, hlast⟩, (SeenRecords.insert_ok hstate).mp hinsert⟩
  · rintro ⟨⟨time, htime, hactivated, hlast⟩, hseen⟩
    have hstate : record.state ≠ .active := by
      intro hactive
      rw [hactive] at htime
      cases htime
    exact ⟨time, htime, hactivated, hlast, (SeenRecords.insert_ok hstate).mpr hseen⟩

theorem checkRetainedRecord_ok (seen : SeenRecords) (record : KeyEpochRecord) (seen' : SeenRecords)
    (hfits : seen.activeRecordCount + 1 < 2 ^ 64) :
    checkRetainedRecord seen record = .ok seen' ↔
      record.Retained ∧ seen.Fresh record ∧ seen.add record = seen' := by
  unfold checkRetainedRecord KeyEpochRecord.Retained
  cases hstate : record.state with
  | active =>
    simp only [bind_ok, fetch_ok, fits_some]
    rw [← SeenRecords.insert_active_ok "duplicate retained epoch or key id" hstate]
    constructor
    · rintro ⟨count, ⟨_, rfl⟩, hinsert⟩
      exact ⟨⟨rfl, nofun⟩, hinsert⟩
    · rintro ⟨_, hinsert⟩
      exact ⟨_, ⟨hfits, rfl⟩, hinsert⟩
  | verifyOnly retireAfter =>
    have hother : record.state ≠ .active := by rw [hstate]; exact nofun
    simp only [bind_ok, require_ok, exists_const]
    rw [SeenRecords.insert_ok hother]
    constructor
    · rintro ⟨hlater, hseen⟩
      refine ⟨⟨rfl, ?_⟩, hseen⟩
      rintro _ ⟨⟩
      exact hlater
    · rintro ⟨⟨_, hlater⟩, hseen⟩
      exact ⟨hlater retireAfter rfl, hseen⟩
  | retired | revoked => simp [terminalTime]

def PredecessorNamed (sequence : Nat) (previousArchiveDigest : Option (Bytes 32)) : Prop :=
  (sequence = 1 ↔ previousArchiveDigest = none) ∧
    ∀ digest ∈ previousArchiveDigest, zeroBytes digest = false

variable {authenticated : Bool}

theorem predecessorAuthenticated_ok {sequence : Nat} {previousArchiveDigest : Option (Bytes 32)} :
    predecessorAuthenticated sequence previousArchiveDigest = .ok authenticated ↔
      PredecessorNamed sequence previousArchiveDigest ∧
        previousArchiveDigest.isSome = authenticated := by
  unfold predecessorAuthenticated PredecessorNamed
  by_cases hfirst : sequence = 1
  · cases previousArchiveDigest with
    | none | some digest => simp [hfirst]
  · cases previousArchiveDigest with
    | none => simp [hfirst]
    | some digest =>
      simp only [if_neg hfirst, bind_ok, require_ok, exists_const]
      constructor
      · rintro ⟨hnonzero, hresult⟩
        exact ⟨⟨by simp [hfirst], by simpa using hnonzero⟩, Except.ok.inj hresult⟩
      · rintro ⟨⟨_, hnonzero⟩, hresult⟩
        exact ⟨hnonzero digest rfl, congrArg _ hresult⟩

structure Shape (checkpoint : KeyEpochArchiveCheckpoint) (capacity : Nat) : Prop where
  sequence : checkpoint.sequence ≠ 0
  digest : zeroBytes checkpoint.archiveDigest = false
  archiving : checkpoint.archivedRecords ≠ []
  room : checkpoint.retainedRecords.length ≤ capacity
  archived : ∀ record ∈ checkpoint.archivedRecords, record.Archived checkpoint.lastLifecycleTime
  retained : ∀ record ∈ checkpoint.retainedRecords, record.Retained
  epochs : ((checkpoint.archivedRecords ++ checkpoint.retainedRecords).map (·.epoch)).Nodup
  keyIds : ((checkpoint.archivedRecords ++ checkpoint.retainedRecords).map (·.keyId)).Nodup
  highest : ∀ record ∈ checkpoint.archivedRecords ++ checkpoint.retainedRecords,
    record.epoch ≤ checkpoint.highestEpoch
  predecessor : PredecessorNamed checkpoint.sequence checkpoint.previousArchiveDigest
  historical : checkpoint.previousArchiveDigest = none →
    ∃ record ∈ checkpoint.archivedRecords ++ checkpoint.retainedRecords,
      record.epoch = checkpoint.highestEpoch
  activated : ∀ record ∈ checkpoint.retainedRecords ++ checkpoint.archivedRecords,
    record.activatedAt ≤ checkpoint.lastLifecycleTime
  active : ∀ active ∈ checkpoint.active, active = checkpoint.highestEpoch ∧
    checkpoint.authorityLostEpoch = none ∧
    (∃ record ∈ checkpoint.retainedRecords, record.epoch = active ∧ record.state = .active) ∧
    checkpoint.retainedRecords.countP (fun record => record.state = .active) = 1
  lost : checkpoint.active = none →
    checkpoint.authorityLostEpoch = some checkpoint.highestEpoch ∧
    ((∃ record ∈ checkpoint.archivedRecords, record.epoch = checkpoint.highestEpoch ∧
      isRevoked record.state = true) ∨ checkpoint.previousArchiveDigest.isSome = true) ∧
    checkpoint.retainedRecords.countP (fun record => record.state = .active) = 0

def SeenRecords.all (checkpoint : KeyEpochArchiveCheckpoint) : SeenRecords :=
  checkpoint.retainedRecords.foldl SeenRecords.add
    (checkpoint.archivedRecords.foldl SeenRecords.add ⟨∅, ∅, 0⟩)

variable {checkpoint : KeyEpochArchiveCheckpoint} {capacity : Nat}

theorem nodup_map_right {α β : Type} {f : α → β} {xs ys : List α} (h : ((xs ++ ys).map f).Nodup) :
    (ys.map f).Nodup := by
  rw [List.map_append] at h
  exact (List.nodup_append.mp h).2.1

theorem mem_seen_epochs {epoch : KeyEpoch} : epoch ∈ (SeenRecords.all checkpoint).epochs ↔
    ∃ record ∈ checkpoint.archivedRecords ++ checkpoint.retainedRecords, record.epoch = epoch := by
  simp only [SeenRecords.all, SeenRecords.add_fold, Finset.empty_union, Finset.mem_union,
    List.mem_toFinset, List.mem_map, List.mem_append]
  constructor
  · rintro (⟨record, hmem, heq⟩ | ⟨record, hmem, heq⟩)
    · exact ⟨record, .inl hmem, heq⟩
    · exact ⟨record, .inr hmem, heq⟩
  · rintro ⟨record, hmem | hmem, heq⟩
    · exact .inl ⟨record, hmem, heq⟩
    · exact .inr ⟨record, hmem, heq⟩

theorem seen_active (harchived : ∀ record ∈ checkpoint.archivedRecords,
      record.Archived checkpoint.lastLifecycleTime) :
    (SeenRecords.all checkpoint).activeRecordCount =
      checkpoint.retainedRecords.countP (fun record => record.state = .active) := by
  have hnone : checkpoint.archivedRecords.countP (fun record => record.state = .active) = 0 := by
    refine List.countP_eq_zero.mpr fun record hrecord hactive => ?_
    obtain ⟨time, htime, _⟩ := harchived record hrecord
    rw [of_decide_eq_true hactive] at htime
    cases htime
  simp only [SeenRecords.all, SeenRecords.add_fold, hnone, Nat.zero_add]

theorem freshAll_batches : (SeenRecords.FreshAll ⟨∅, ∅, 0⟩ checkpoint.archivedRecords ∧
    SeenRecords.FreshAll (checkpoint.archivedRecords.foldl SeenRecords.add ⟨∅, ∅, 0⟩)
      checkpoint.retainedRecords) ↔
    ((checkpoint.archivedRecords ++ checkpoint.retainedRecords).map (·.epoch)).Nodup ∧
      ((checkpoint.archivedRecords ++ checkpoint.retainedRecords).map (·.keyId)).Nodup := by
  rw [SeenRecords.add_fold, List.map_append, List.map_append, List.nodup_append, List.nodup_append]
  simp only [Finset.empty_union]
  constructor
  · rintro ⟨⟨hepochs, hkeyIds, _⟩, hepochs', hkeyIds', hunseen⟩
    refine ⟨⟨hepochs, hepochs', ?_⟩, hkeyIds, hkeyIds', ?_⟩
    · rintro epoch harchived _ hretained rfl
      obtain ⟨record, hrecord, rfl⟩ := List.mem_map.mp hretained
      exact (hunseen record hrecord).1 (List.mem_toFinset.mpr harchived)
    · rintro keyId harchived _ hretained rfl
      obtain ⟨record, hrecord, rfl⟩ := List.mem_map.mp hretained
      exact (hunseen record hrecord).2 (List.mem_toFinset.mpr harchived)
  · rintro ⟨⟨hepochs, hepochs', hacross⟩, hkeyIds, hkeyIds', hacross'⟩
    refine ⟨⟨hepochs, hkeyIds, fun record _ => ⟨Finset.notMem_empty _, Finset.notMem_empty _⟩⟩,
      hepochs', hkeyIds', fun record hrecord => ⟨fun hin => ?_, fun hin => ?_⟩⟩
    · exact hacross _ (List.mem_toFinset.mp hin) _ (List.mem_map_of_mem hrecord) rfl
    · exact hacross' _ (List.mem_toFinset.mp hin) _ (List.mem_map_of_mem hrecord) rfl

variable {seen : SeenRecords}

theorem archived_fold :
    checkpoint.archivedRecords.foldlM (checkArchivedRecord checkpoint.lastLifecycleTime) ⟨∅, ∅, 0⟩ =
        .ok seen ↔
      (∀ record ∈ checkpoint.archivedRecords, record.Archived checkpoint.lastLifecycleTime) ∧
        SeenRecords.FreshAll ⟨∅, ∅, 0⟩ checkpoint.archivedRecords ∧
        checkpoint.archivedRecords.foldl SeenRecords.add ⟨∅, ∅, 0⟩ = seen :=
  SeenRecords.fold_ok False
    (fun seen record seen' _ => checkArchivedRecord_ok seen record seen') nofun

theorem retained_fold (harchived : ∀ record ∈ checkpoint.archivedRecords,
      record.Archived checkpoint.lastLifecycleTime)
    (hfits : checkpoint.retainedRecords.length < 2 ^ 64) :
    checkpoint.retainedRecords.foldlM checkRetainedRecord
        (checkpoint.archivedRecords.foldl SeenRecords.add ⟨∅, ∅, 0⟩) = .ok seen ↔
      (∀ record ∈ checkpoint.retainedRecords, record.Retained) ∧
        SeenRecords.FreshAll (checkpoint.archivedRecords.foldl SeenRecords.add ⟨∅, ∅, 0⟩)
          checkpoint.retainedRecords ∧ SeenRecords.all checkpoint = seen := by
  refine SeenRecords.fold_ok True
    (fun seen record seen' hcount => checkRetainedRecord_ok seen record seen' (hcount trivial)) ?_
  have hnone : (checkpoint.archivedRecords.foldl SeenRecords.add ⟨∅, ∅, 0⟩).activeRecordCount = 0 := by
    rw [SeenRecords.add_fold]
    dsimp only
    rw [Nat.zero_add]
    refine List.countP_eq_zero.mpr fun record hrecord hactive => ?_
    obtain ⟨time, htime, _⟩ := harchived record hrecord
    rw [of_decide_eq_true hactive] at htime
    cases htime
  rw [hnone]
  omega

theorem checkActiveBinding_ok {count : Nat} :
    checkActiveBinding checkpoint count authenticated = .ok () ↔
    (∀ active ∈ checkpoint.active, active = checkpoint.highestEpoch ∧
      checkpoint.authorityLostEpoch = none ∧
      (∃ record ∈ checkpoint.retainedRecords, record.epoch = active ∧ record.state = .active) ∧
      count = 1) ∧
    (checkpoint.active = none →
      checkpoint.authorityLostEpoch = some checkpoint.highestEpoch ∧
      ((∃ record ∈ checkpoint.archivedRecords, record.epoch = checkpoint.highestEpoch ∧
        isRevoked record.state = true) ∨ authenticated = true) ∧ count = 0) := by
  unfold checkActiveBinding
  cases checkpoint.active with
  | none =>
    simp only [bind_ok, require_ok, exists_const]
    constructor
    · rintro ⟨hcount, hlost, hrevoked⟩
      exact ⟨nofun, fun _ => ⟨hlost, hrevoked, hcount⟩⟩
    · rintro ⟨_, hnone⟩
      obtain ⟨hlost, hrevoked, hcount⟩ := hnone trivial
      exact ⟨hcount, hlost, hrevoked⟩
  | some active =>
    simp only [bind_ok, require_ok, exists_const]
    constructor
    · rintro ⟨hcount, hhighest, hlost, hrecord⟩
      refine ⟨?_, nofun⟩
      rintro _ ⟨⟩
      exact ⟨hhighest, hlost, hrecord, hcount⟩
    · rintro ⟨hsome, _⟩
      obtain ⟨hhighest, hlost, hrecord, hcount⟩ := hsome active rfl
      exact ⟨hcount, hhighest, hlost, hrecord⟩

theorem validateCheckpointShape_ok (hcapacity : capacity < 2 ^ 64) :
    validateCheckpointShape checkpoint capacity = .ok () ↔ Shape checkpoint capacity := by
  unfold validateCheckpointShape
  simp only [bind_ok, require_ok, fetch_ok, exists_const, archived_fold,
    predecessorAuthenticated_ok, getLast_ordered, checkActiveBinding_ok]
  constructor
  · rintro ⟨hsequence, hdigest, harchiving, hroom, _, ⟨harchived, hfresh, rfl⟩, seen, hfold,
      highest, ⟨hmem, hmax⟩, hle, authenticated, ⟨hnamed, rfl⟩, hhistorical, hactivated, hbinding⟩
    obtain ⟨hretained, hfresh', rfl⟩ := (retained_fold harchived (by omega)).mp hfold
    rw [seen_active harchived] at hbinding
    have hdistinct := freshAll_batches.mp ⟨hfresh, hfresh'⟩
    refine ⟨hsequence, hdigest, harchiving, hroom, harchived, hretained, hdistinct.1, hdistinct.2, ?_,
      hnamed, ?_, hactivated, hbinding.1, hbinding.2⟩
    · intro record hrecord
      exact (hmax _ (mem_seen_epochs.mpr ⟨record, hrecord, rfl⟩)).trans hle
    · intro hnone
      obtain ⟨record, hrecord, hepoch⟩ := mem_seen_epochs.mp hmem
      refine ⟨record, hrecord, hepoch.trans (hle.eq_of_not_lt fun hlt => hhistorical ⟨hlt, ?_⟩)⟩
      rw [hnone]
      rfl
  · intro h
    have hdistinct := freshAll_batches.mpr ⟨h.epochs, h.keyIds⟩
    have hsome : (SeenRecords.all checkpoint).epochs.Nonempty := by
      obtain ⟨record, hrecord⟩ := List.exists_mem_of_ne_nil _ h.archiving
      exact ⟨record.epoch, mem_seen_epochs.mpr ⟨record, List.mem_append_left _ hrecord, rfl⟩⟩
    have hle : (SeenRecords.all checkpoint).epochs.max' hsome ≤ checkpoint.highestEpoch := by
      refine Finset.max'_le _ _ _ fun epoch hepoch => ?_
      obtain ⟨record, hrecord, rfl⟩ := mem_seen_epochs.mp hepoch
      exact h.highest record hrecord
    refine ⟨h.sequence, h.digest, h.archiving, h.room, _, ⟨h.archived, hdistinct.1, rfl⟩,
      SeenRecords.all checkpoint,
      (retained_fold h.archived (by have := h.room; omega)).mpr ⟨h.retained, hdistinct.2, rfl⟩,
      _, ⟨Finset.max'_mem _ hsome, fun _ => Finset.le_max' _ _⟩, hle, _, ⟨h.predecessor, rfl⟩, ?_,
      h.activated, ?_⟩
    · rintro ⟨hlt, hnone⟩
      obtain ⟨record, hrecord, hepoch⟩ := h.historical (Option.isNone_iff_eq_none.mp (by simpa using hnone))
      have hupper := Finset.le_max' _ _ (mem_seen_epochs.mpr ⟨record, hrecord, hepoch⟩)
      exact absurd hlt (not_lt.mpr hupper)
    · rw [seen_active h.archived]
      exact ⟨h.active, h.lost⟩

end Token
