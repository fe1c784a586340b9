import TrillionniumGame.Token.KeyEpochRestore

namespace Token
open Checks FiniteMap Runs Timelines
open Persistence (Bytes zeroBytes)

abbrev KeyEpochHistory := List (KeyEpochCall × KeyEpochRegistry)

def issuedIn (history : KeyEpochHistory) : List KeyEpochRecord :=
  history.filterMap fun entry => entry.1.issued

def archivedIn (history : KeyEpochHistory) : List KeyEpochRecord :=
  history.flatMap fun entry => (entry.1.archived.map (·.archivedRecords)).getD []

def KeyEpochCall.consulted : KeyEpochCall → Option (KeyId × KeyEpochArchiveVerifier)
  | .rotate _ nextKeyId _ _ verifier _ => verifier.map fun given => (nextKeyId, given)
  | .installAfterRevocation _ nextKeyId _ verifier _ => verifier.map fun given => (nextKeyId, given)
  | _ => none

def KeyEpochCall.Honest (history : KeyEpochHistory) (r : KeyEpochRegistry) (call : KeyEpochCall) :
    Prop :=
  ∀ keyId verifier, call.consulted = some (keyId, verifier) → ∀ checkpoint ∈ r.checkpoint,
    verifier.keyIdIsAbsent checkpoint keyId = true →
    ∀ record ∈ archivedIn history, record.keyId ≠ keyId

def keyEpochMachine : Machine KeyEpochRegistry KeyEpochCall KeyEpochArchiveCheckpoint where
  init r := ∃ capacity, KeyEpochRegistry.withCapacity capacity = .ok r
  step history r call r' := keyEpochRegistries.step r call r' ∧ call.Honest history r
  saved := KeyEpochCall.archived
  restored checkpoint r := ∃ capacity verifier,
    KeyEpochRegistry.fromCheckpoint capacity checkpoint verifier = .ok r

theorem Advanced.ended {before after : KeyEpochRecords} {epoch : KeyEpoch} {record : KeyEpochRecord}
    (h : Advanced before after)
    (hended : ∀ record, before.lookup epoch = some record → terminalTime record.state ≠ none)
    (hrecord : after.lookup epoch = some record) : terminalTime record.state ≠ none := by
  obtain ⟨old, hold⟩ := Finmap.mem_iff.mp ((h.keys epoch).mp (mem_of_lookup hrecord))
  have hterminal := hended old hold
  obtain ⟨_, _, _, hsame⟩ := h.kept epoch old record hold hrecord
  rw [hsame hterminal]
  exact hterminal

namespace KeyEpochRegistry

variable {r r' : KeyEpochRegistry} {call : KeyEpochCall} {history : KeyEpochHistory}
  {epoch : KeyEpoch} {record next : KeyEpochRecord}

def Ended (epoch : KeyEpoch) (r : KeyEpochRegistry) : Prop :=
  (∃ top ∈ r.highestEpoch, epoch ≤ top) ∧
    ∀ record, r.records.lookup epoch = some record → terminalTime record.state ≠ none

theorem Sound.ended (h : r.Sound) (hrecord : r.records.lookup epoch = some record)
    (hterminal : terminalTime record.state ≠ none) : Ended epoch r := by
  refine ⟨h.keyed.keyed epoch record hrecord ▸ (h.within epoch record hrecord).epoch,
    fun other hother => ?_⟩
  cases Option.mem_unique hrecord hother
  exact hterminal

variable {verifier : Option KeyEpochArchiveVerifier} {highest : KeyEpoch}

theorem Next.ended (hnext : r.Next verifier highest next)
    (hhighest : r.highestEpoch = some highest) (h : Ended epoch r) {s : KeyEpochRegistry}
    (hadvanced : Advanced r.records s.records) : Ended epoch (s.install next) := by
  obtain ⟨⟨top, htop, hle⟩, hterminal⟩ := h
  cases Option.mem_unique hhighest htop
  have hlt : epoch < next.epoch := hle.trans_lt hnext.later_epoch
  refine ⟨⟨_, rfl, hlt.le⟩, fun record hrecord => ?_⟩
  rw [install, Finmap.lookup_insert_of_ne _ hlt.ne] at hrecord
  exact hadvanced.ended hterminal hrecord

theorem Ended.moved (h : Ended epoch r) (hsound : r.Sound) (hmoved : Moved r call r') :
    Ended epoch r' := by
  cases hmoved with
  | quiet => exact h
  | initialized hnew =>
    obtain ⟨top, htop, _⟩ := h.1
    rw [hnew.1] at htop
    cases htop
  | rotated hactive hcurrent hstate hhighest hnext =>
    cases hsound.keyed.keyed _ _ hcurrent
    exact hnext.ended hhighest h (advanced_insert hcurrent (by rw [hstate]; rfl) _)
  | replaced _ hhighest _ hnext => exact hnext.ended hhighest h (Advanced.refl _)
  | retired => exact ⟨h.1, fun record hrecord => (advanced_retire r _).ended h.2 hrecord⟩
  | revoked hcurrent _ hlive =>
    exact ⟨h.1, fun record hrecord => (advanced_insert hcurrent hlive _).ended h.2 hrecord⟩
  | archived =>
    refine ⟨h.1, fun record hrecord => h.2 record ?_⟩
    dsimp only [KeyEpochRegistry.archived] at hrecord
    rw [lookup_foldl_erase] at hrecord
    split at hrecord
    · cases hrecord
    · exact hrecord

theorem activeSignerAt_ok {now : Int} {signed : KeyEpochRecord}
    (h : r.activeSignerAt now = .ok signed) :
    ∃ epoch, r.records.lookup epoch = some signed ∧ signed.state = .active := by
  unfold activeSignerAt at h
  simp only [bind_ok, activeRecord_ok, require_ok, exists_const] at h
  obtain ⟨_, ⟨epoch, _, hrecord, hstate⟩, _, hresult⟩ := h
  cases hresult
  exact ⟨epoch, hrecord, hstate⟩

theorem Ended.unusable (h : Ended epoch r) (hsound : r.Sound) (now : Int) (signed : KeyEpochRecord) :
    (r.activeSignerAt now = .ok signed → signed.epoch ≠ epoch) ∧
      r.verificationKey epoch now ≠ .ok signed := by
  constructor
  · rintro hsigner rfl
    obtain ⟨epoch, hrecord, hstate⟩ := activeSignerAt_ok hsigner
    cases hsound.keyed.keyed epoch signed hrecord
    have hterminal := h.2 signed hrecord
    rw [hstate] at hterminal
    exact hterminal rfl
  · intro hkey
    obtain ⟨hrecord, hlive⟩ := verificationKey_ok hkey
    exact h.2 signed hrecord hlive

structure Lived (r : KeyEpochRegistry) (history : KeyEpochHistory) : Prop where
  sound : r.Sound
  contiguous : ∃ first,
    (issuedIn history).map (·.epoch.get) = List.range' first (issuedIn history).length
  highest : r.highestEpoch = (issuedIn history).getLast?.map (·.epoch)
  increasing : (issuedIn history).Pairwise fun a b => a.activatedAt < b.activatedAt
  latest : ∀ record ∈ issuedIn history, ∃ time ∈ r.lastLifecycleTime, record.activatedAt ≤ time
  keyIds : ((issuedIn history).map (·.keyId)).Nodup
  known : ∀ record ∈ issuedIn history,
    record.keyId ∈ r.usedKeyIds ∨ ∃ gone ∈ archivedIn history, gone.keyId = record.keyId
  unarchived : r.checkpoint = none → archivedIn history = []
  ended : ∀ entry ∈ history, ∀ epoch record, entry.2.records.lookup epoch = some record →
    terminalTime record.state ≠ none → Ended epoch r
  archived : ∀ record ∈ archivedIn history, Ended record.epoch r

theorem issuedIn_snoc (history : KeyEpochHistory) (call : KeyEpochCall) (r : KeyEpochRegistry) :
    issuedIn (history ++ [(call, r)]) = issuedIn history ++ call.issued.toList := by
  rw [issuedIn, List.filterMap_append]
  cases hissued : call.issued with
  | none | some record => simp [hissued, issuedIn]

theorem archivedIn_snoc (history : KeyEpochHistory) (call : KeyEpochCall) (r : KeyEpochRegistry) :
    archivedIn (history ++ [(call, r)]) =
      archivedIn history ++ (call.archived.map (·.archivedRecords)).getD [] := by
  rw [archivedIn, List.flatMap_append, List.flatMap_singleton]
  rfl

theorem Lived.ends (h : Lived r history) (hmoved : Moved r call r') :
    ∀ entry ∈ history ++ [(call, r')], ∀ epoch record,
      entry.2.records.lookup epoch = some record → terminalTime record.state ≠ none →
        Ended epoch r' := by
  intro entry hentry epoch record hrecord hterminal
  rcases List.mem_append.mp hentry with hold | hnew
  · exact (h.ended entry hold epoch record hrecord hterminal).moved h.sound hmoved
  · cases List.mem_singleton.mp hnew
    exact (h.sound.moved hmoved).ended hrecord hterminal

theorem Lived.stays (h : Lived r history) (hmoved : Moved r call r') (hissued : call.issued = none)
    (harchived : call.archived = none) (hhighest : r'.highestEpoch = r.highestEpoch)
    (hused : r'.usedKeyIds = r.usedKeyIds) (hcheckpoint : r'.checkpoint = r.checkpoint)
    (hlater : Later r.lastLifecycleTime r'.lastLifecycleTime) :
    Lived r' (history ++ [(call, r')]) := by
  have hsound := h.sound.moved hmoved
  have hsame : issuedIn (history ++ [(call, r')]) = issuedIn history := by
    rw [issuedIn_snoc, hissued, Option.toList_none, List.append_nil]
  have hgone : archivedIn (history ++ [(call, r')]) = archivedIn history := by
    rw [archivedIn_snoc, harchived, Option.map_none, Option.getD_none, List.append_nil]
  refine ⟨hsound, hsame ▸ h.contiguous, hsame ▸ hhighest ▸ h.highest, hsame ▸ h.increasing, ?_,
    hsame ▸ h.keyIds, hsame ▸ hgone ▸ hused ▸ h.known, hgone ▸ hcheckpoint ▸ h.unarchived, h.ends hmoved, ?_⟩
  · rw [hsame]
    intro record hrecord
    obtain ⟨time, htime, hle⟩ := h.latest record hrecord
    obtain ⟨time', htime', hle'⟩ := hlater time htime
    exact ⟨time', htime', hle.trans hle'⟩
  · rw [hgone]
    exact fun record hrecord => (h.archived record hrecord).moved h.sound hmoved

theorem Lived.issues (h : Lived r history) (hmoved : Moved r call (r'.install next))
    (hissued : call.issued = some next) (harchived : call.archived = none)
    (hused : r'.usedKeyIds = r.usedKeyIds) (hcheckpoint : r'.checkpoint = r.checkpoint)
    (hfresh : next.keyId ∉ r.usedKeyIds)
    (habsent : ∀ record ∈ archivedIn history, record.keyId ≠ next.keyId)
    (hnext : ∀ highest ∈ r.highestEpoch, next.epoch.get = highest.get + 1)
    (hlater : ∀ record ∈ issuedIn history, record.activatedAt < next.activatedAt) :
    Lived (r'.install next) (history ++ [(call, r'.install next)]) := by
  have hsound := h.sound.moved hmoved
  have hsame : issuedIn (history ++ [(call, r'.install next)]) = issuedIn history ++ [next] := by
    rw [issuedIn_snoc, hissued, Option.toList_some]
  have hgone : archivedIn (history ++ [(call, r'.install next)]) = archivedIn history := by
    rw [archivedIn_snoc, harchived, Option.map_none, Option.getD_none, List.append_nil]
  refine ⟨hsound, ?_, ?_, ?_, ?_, ?_, ?_, hgone ▸ hcheckpoint ▸ h.unarchived, h.ends hmoved, ?_⟩
  · rw [hsame, List.map_append, List.map_singleton, List.length_append, List.length_singleton]
    cases hlast : (issuedIn history).getLast? with
    | none =>
      rw [List.getLast?_eq_none_iff] at hlast
      exact ⟨next.epoch.get, by rw [hlast]; rfl⟩
    | some last =>
      obtain ⟨first, hrange⟩ := h.contiguous
      obtain ⟨before, hbefore⟩ := List.getLast?_eq_some_iff.mp hlast
      have hstep := hnext last.epoch (by rw [h.highest, hlast]; rfl)
      refine ⟨first, ?_⟩
      have hend : last.epoch.get = first + before.length := by
        rw [hbefore, List.map_append, List.map_singleton, List.length_append, List.length_singleton,
          List.range'_1_concat] at hrange
        exact List.singleton_inj.mp (List.append_inj_right' hrange rfl)
      rw [hrange, List.range'_1_concat, hstep, hend, hbefore, List.length_append,
        List.length_singleton, Nat.add_assoc]
  · rw [hsame, List.getLast?_concat]
    rfl
  · rw [hsame, List.pairwise_append]
    refine ⟨h.increasing, List.pairwise_singleton _ _, fun record hrecord other hother => ?_⟩
    cases List.mem_singleton.mp hother
    exact hlater record hrecord
  · rw [hsame]
    intro record hrecord
    rcases List.mem_append.mp hrecord with hold | hnew
    · exact ⟨_, rfl, (hlater record hold).le⟩
    · cases List.mem_singleton.mp hnew
      exact ⟨_, rfl, le_rfl⟩
  · rw [hsame, List.map_append, List.map_singleton]
    refine List.nodup_append.mpr ⟨h.keyIds, List.nodup_singleton _, ?_⟩
    rintro keyId hold _ hnew rfl
    obtain ⟨record, hrecord, rfl⟩ := List.mem_map.mp hold
    have heq := List.mem_singleton.mp hnew
    rcases h.known record hrecord with hin | ⟨gone, hmem, hkeyId⟩
    · exact hfresh (heq ▸ hin)
    · exact habsent gone hmem (hkeyId.trans heq)
  · rw [hsame, hgone]
    intro record hrecord
    rcases List.mem_append.mp hrecord with hold | hnew
    · exact (h.known record hold).imp_left fun hin => Finset.mem_insert_of_mem (hused ▸ hin)
    · cases List.mem_singleton.mp hnew
      exact .inl (Finset.mem_insert_self _ _)
  · rw [hgone]
    exact fun record hrecord => (h.archived record hrecord).moved h.sound hmoved

variable {checkpoint : KeyEpochArchiveCheckpoint}

theorem Lived.archives (h : Lived r history) {archiveDigest : Bytes 32}
    (hcheckpoint : r.terminalCheckpoint archiveDigest = .ok checkpoint)
    (hissued : call.issued = none) (harchived : call.archived = some checkpoint)
    (hmoved : Moved r call (r.archived checkpoint)) :
    Lived (r.archived checkpoint) (history ++ [(call, r.archived checkpoint)]) := by
  have hsound := h.sound.moved hmoved
  have hsame : issuedIn (history ++ [(call, r.archived checkpoint)]) = issuedIn history := by
    rw [issuedIn_snoc, hissued, Option.toList_none, List.append_nil]
  have hgone : archivedIn (history ++ [(call, r.archived checkpoint)]) =
      archivedIn history ++ checkpoint.archivedRecords := by
    rw [archivedIn_snoc, harchived, Option.map_some, Option.getD_some]
  obtain ⟨_, _, highest, latest, _, _, rfl⟩ := terminalCheckpoint_ok.mp hcheckpoint
  refine ⟨hsound, hsame ▸ h.contiguous, hsame ▸ h.highest, hsame ▸ h.increasing, hsame ▸ h.latest,
    hsame ▸ h.keyIds, ?_, nofun, h.ends hmoved, ?_⟩
  · rw [hsame, hgone]
    intro record hrecord
    rcases h.known record hrecord with hin | ⟨gone, hmem, hkeyId⟩
    · by_cases hterminal : record.keyId ∈ r.terminalValues.map (·.keyId)
      · obtain ⟨gone, hmem, hkeyId⟩ := List.mem_map.mp hterminal
        exact .inr ⟨gone, List.mem_append_right _ hmem, hkeyId⟩
      · exact .inl ((mem_foldl_erase _ _ _).mpr ⟨hin, hterminal⟩)
    · exact .inr ⟨gone, List.mem_append_left _ hmem, hkeyId⟩
  · rw [hgone]
    intro record hrecord
    rcases List.mem_append.mp hrecord with hold | hnew
    · exact (h.archived record hold).moved h.sound hmoved
    · obtain ⟨⟨epoch, hlookup⟩, hterminal⟩ := mem_terminalValues.mp hnew
      cases h.sound.keyed.keyed epoch record hlookup
      exact (h.sound.ended hlookup hterminal).moved h.sound hmoved

theorem Next.follows (hnext : r.Next verifier highest next)
    (hhighest : r.highestEpoch = some highest) :
    ∀ top ∈ r.highestEpoch, next.epoch.get = top.get + 1 := by
  intro top htop
  cases Option.mem_unique hhighest htop
  exact hnext.epoch

theorem Lived.later (h : Lived r history) (hnext : r.Next verifier highest next) :
    ∀ record ∈ issuedIn history, record.activatedAt < next.activatedAt := by
  intro record hrecord
  obtain ⟨time, htime, hle⟩ := h.latest record hrecord
  obtain ⟨time', htime', hlt⟩ := hnext.later
  cases Option.mem_unique htime htime'
  exact hle.trans_lt hlt

theorem Lived.step (h : Lived r history) (hcall : keyEpochMachine.step history r call r') :
    Lived r' (history ++ [(call, r')]) ∧
      ∀ checkpoint ∈ call.archived, r' = restored r'.capacity checkpoint := by
  obtain ⟨hrun, hhonest⟩ := hcall
  have hmoved := KeyEpochRegistry.moved hrun
  have habsent : ∀ (next : KeyEpochRecord) (verifier : Option KeyEpochArchiveVerifier),
      (∀ given ∈ verifier, call.consulted = some (next.keyId, given)) →
      (∀ checkpoint ∈ r.checkpoint, ∃ given ∈ verifier,
        given.keyIdIsAbsent checkpoint next.keyId = true) →
      ∀ record ∈ archivedIn history, record.keyId ≠ next.keyId := by
    intro next verifier hconsulted hproved record hrecord
    cases hcheckpoint : r.checkpoint with
    | none =>
      rw [h.unarchived hcheckpoint] at hrecord
      cases hrecord
    | some checkpoint =>
      obtain ⟨given, hgiven, hproof⟩ := hproved checkpoint hcheckpoint
      exact hhonest _ given (hconsulted given hgiven) checkpoint hcheckpoint hproof record hrecord
  cases hmoved with
  | quiet hissued harchived =>
    refine ⟨h.stays (.quiet hissued harchived) hissued harchived rfl rfl rfl (Later.refl _), ?_⟩
    rw [harchived]
    exact nofun
  | initialized hnew hroom =>
    have hnone : issuedIn history = [] := by
      have hlast := h.highest
      rw [hnew.1, eq_comm, Option.map_eq_none_iff] at hlast
      exact List.getLast?_eq_none_iff.mp hlast
    have hunchecked : r.checkpoint = none := by
      refine Option.eq_none_iff_forall_not_mem.mpr fun checkpoint hcheckpoint => ?_
      exact (h.sound.chained.2 checkpoint hcheckpoint).2.2.2 hnew.1
    refine ⟨h.issues (.initialized hnew hroom) rfl rfl rfl rfl (fun hin => ?_) ?_ ?_ ?_, nofun⟩
    · obtain ⟨epoch, record, hrecord, _⟩ := (h.sound.keyed.used _).mp hin
      have hmem := Finmap.mem_keys.mpr (mem_of_lookup hrecord)
      rw [hnew.2.2] at hmem
      exact Finset.notMem_empty _ hmem
    · rw [h.unarchived hunchecked]
      exact nofun
    · rw [hnew.1]
      exact nofun
    · rw [hnone]
      exact nofun
  | rotated hactive hcurrent hstate hhighest hnext hoverlap =>
    refine ⟨h.issues (.rotated hactive hcurrent hstate hhighest hnext hoverlap) rfl rfl rfl rfl
      hnext.fresh (habsent _ _ (fun given hgiven => ?_) hnext.absent) (hnext.follows hhighest)
      (h.later hnext), nofun⟩
    rw [Option.mem_def.mp hgiven]
    rfl
  | replaced hactive hhighest hlost hnext =>
    refine ⟨h.issues (.replaced hactive hhighest hlost hnext) rfl rfl rfl rfl
      hnext.fresh (habsent _ _ (fun given hgiven => ?_) hnext.absent) (hnext.follows hhighest)
      (h.later hnext), nofun⟩
    rw [Option.mem_def.mp hgiven]
    rfl
  | retired => exact ⟨h.stays .retired rfl rfl rfl rfl rfl (r.retireExpired_spec _).later, nofun⟩
  | revoked hcurrent hlater hlive =>
    exact ⟨h.stays (.revoked hcurrent hlater hlive) rfl rfl rfl rfl rfl (later_laterOf _ _), nofun⟩
  | archived hcheckpoint =>
    refine ⟨h.archives hcheckpoint rfl rfl (.archived hcheckpoint), ?_⟩
    rintro _ ⟨⟩
    exact h.sound.archived_eq hcheckpoint

theorem issuedIn_nil : issuedIn [] = [] := rfl

theorem archivedIn_nil : archivedIn [] = [] := rfl

theorem lived_init (h : keyEpochMachine.init r) : Lived r [] := by
  obtain ⟨capacity, hnew⟩ := h
  have hhighest : r.highestEpoch = none := by
    obtain ⟨⟨⟩, _, hresult⟩ := bind_ok.mp hnew
    rw [← Except.ok.inj hresult]
  constructor
  case sound => exact sound_withCapacity hnew
  case contiguous => exact ⟨0, by rw [issuedIn_nil]; rfl⟩
  case highest => rw [hhighest, issuedIn_nil]; rfl
  case increasing => rw [issuedIn_nil]; exact List.Pairwise.nil
  case latest =>
    rw [issuedIn_nil]
    exact List.forall_mem_nil _
  case keyIds => rw [issuedIn_nil]; exact List.nodup_nil
  case known =>
    rw [issuedIn_nil]
    exact List.forall_mem_nil _
  case unarchived => exact fun _ => archivedIn_nil
  case ended => exact List.forall_mem_nil _
  case archived =>
    rw [archivedIn_nil]
    exact List.forall_mem_nil _

theorem Lived.restored (h : Lived r history) (hsaved : r = restored r.capacity checkpoint)
    (hrestored : keyEpochMachine.restored checkpoint r') : Lived r' history := by
  obtain ⟨capacity, verifier, hrestored⟩ := hrestored
  have hsound := sound_fromCheckpoint hrestored
  obtain ⟨_, _, _, _, rfl⟩ := fromCheckpoint_ok.mp hrestored
  rw [hsaved] at h
  exact ⟨hsound, h.contiguous, h.highest, h.increasing, h.latest, h.keyIds, h.known, h.unarchived,
    h.ended, h.archived⟩

theorem lived_timeline {T : Timeline KeyEpochRegistry KeyEpochCall KeyEpochArchiveCheckpoint}
    (h : Reachable keyEpochMachine.timelines T) : Lived T.state T.history :=
  Machine.invariant (P := fun checkpoint r => r = KeyEpochRegistry.restored r.capacity checkpoint)
    (fun _ => lived_init) (fun _ _ _ _ hlived hstep => hlived.step hstep)
    (fun _ _ _ _ hlived hsaved hrestored => hlived.restored hsaved hrestored) h

theorem key_epoch_lifecycle
    {T : Timeline KeyEpochRegistry KeyEpochCall KeyEpochArchiveCheckpoint}
    (h : Reachable keyEpochMachine.timelines T) :
    (∀ epoch record, T.state.records.lookup epoch = some record → record.state = .active →
      T.state.active = some epoch ∧ T.state.highestEpoch = some epoch) ∧
    (∃ first, (issuedIn T.history).map (·.epoch.get) =
      List.range' first (issuedIn T.history).length) ∧
    ((issuedIn T.history).Pairwise fun a b => a.activatedAt < b.activatedAt) ∧
    ((issuedIn T.history).map (·.keyId)).Nodup ∧
    ∀ epoch, ((∃ entry ∈ T.history, ∃ record, entry.2.records.lookup epoch = some record ∧
        terminalTime record.state ≠ none) ∨ ∃ record ∈ archivedIn T.history, record.epoch = epoch) →
      ∀ now signed, (T.state.activeSignerAt now = .ok signed → signed.epoch ≠ epoch) ∧
        T.state.verificationKey epoch now ≠ .ok signed := by
  have hlived := lived_timeline h
  refine ⟨fun epoch record hrecord hstate => ?_, hlived.contiguous, hlived.increasing, hlived.keyIds,
    fun epoch hended now signed => ?_⟩
  · have hactive := hlived.sound.lone epoch record hrecord hstate
    exact ⟨hactive, (hlived.sound.active epoch hactive).1⟩
  · rcases hended with ⟨entry, hentry, record, hrecord, hterminal⟩ | ⟨record, hrecord, rfl⟩
    · exact (hlived.ended entry hentry epoch record hrecord hterminal).unusable hlived.sound now signed
    · exact (hlived.archived record hrecord).unusable hlived.sound now signed

def firstCall : KeyEpochCall := .initializeEpoch firstEpoch firstKeyId 10 (.ok (firstRecord .active))

def rotateCall : KeyEpochCall :=
  .rotate secondEpoch secondKeyId 20 30 none (.ok (secondRecord .active))

def archiveCall : KeyEpochCall :=
  .archiveTerminal (Vector.replicate 32 7) acceptingVerifier (.ok rolledCheckpoint)

def revokeCall : KeyEpochCall := .revoke secondEpoch 40 (.ok (secondRecord (.revoked 40)))

def initializedTimeline : Timeline KeyEpochRegistry KeyEpochCall KeyEpochArchiveCheckpoint :=
  Timeline.acted ⟨emptyRegistry, [], []⟩ keyEpochMachine firstCall
    (emptyRegistry.install (firstRecord .active))

def retiredTimeline : Timeline KeyEpochRegistry KeyEpochCall KeyEpochArchiveCheckpoint :=
  (initializedTimeline.acted keyEpochMachine rotateCall rotatedRegistry).acted keyEpochMachine
    (.retireExpired 31 1) retiredRegistry

def archivedTimeline : Timeline KeyEpochRegistry KeyEpochCall KeyEpochArchiveCheckpoint :=
  retiredTimeline.acted keyEpochMachine archiveCall (restored 3 rolledCheckpoint)

def revokedTimeline : Timeline KeyEpochRegistry KeyEpochCall KeyEpochArchiveCheckpoint :=
  archivedTimeline.acted keyEpochMachine revokeCall
    { restored 3 rolledCheckpoint with
      active := none
      records := Finmap.singleton secondEpoch (secondRecord (.revoked 40))
      lastLifecycleTime := some 40
      authorityLostEpoch := some secondEpoch }

theorem initializedTimeline_reachable :
    Reachable keyEpochMachine.timelines initializedTimeline := by
  have hstart : keyEpochMachine.timelines.init ⟨emptyRegistry, [], []⟩ := ⟨⟨3, rfl⟩, rfl, rfl⟩
  exact (Reachable.start hstart).run (Machine.acts ⟨rfl, nofun⟩)

theorem retiredTimeline_reachable : Reachable keyEpochMachine.timelines retiredTimeline := by
  have hrotated : keyEpochMachine.step initializedTimeline.history initializedTimeline.state rotateCall
      rotatedRegistry := ⟨rfl, nofun⟩
  have hretired : rotatedRegistry.retireExpired 31 = (1, retiredRegistry) := rfl
  exact (initializedTimeline_reachable.run (Machine.acts hrotated)).run (Machine.acts ⟨hretired, nofun⟩)

theorem archivedTimeline_reachable : Reachable keyEpochMachine.timelines archivedTimeline :=
  retiredTimeline_reachable.run (Machine.acts ⟨rfl, nofun⟩)

theorem revokedTimeline_reachable : Reachable keyEpochMachine.timelines revokedTimeline :=
  archivedTimeline_reachable.run (Machine.acts ⟨rfl, nofun⟩)

theorem key_epoch_lifecycle_sample :
    revokedTimeline.state.verificationKey firstEpoch 50 ≠ .ok (firstRecord (.retired 30)) :=
  ((key_epoch_lifecycle revokedTimeline_reachable).2.2.2.2 firstEpoch
    (.inr ⟨firstRecord (.retired 30), List.mem_of_elem_eq_true rfl, rfl⟩) 50 _).2

theorem revoked_epoch_signs_again : ¬ ∀ T T' events epoch record now signed,
    Reachable keyEpochMachine.timelines T → Run keyEpochMachine.timelines T events T' →
      T.state.records.lookup epoch = some record → terminalTime record.state ≠ none →
      T'.state.activeSignerAt now = .ok signed → signed.epoch ≠ epoch := by
  intro h
  have hsave : ⟨rolledCheckpoint, restored 3 rolledCheckpoint, archivedTimeline.history⟩ ∈
      revokedTimeline.saves := List.mem_singleton.mpr rfl
  have hrestored : keyEpochMachine.restored rolledCheckpoint (restored 3 rolledCheckpoint) :=
    ⟨3, acceptingVerifier, rfl⟩
  exact h revokedTimeline (revokedTimeline.back _ _) _ secondEpoch (secondRecord (.revoked 40)) 50
    (secondRecord .active) revokedTimeline_reachable (Machine.restores hsave hrestored) rfl nofun rfl
    rfl

end KeyEpochRegistry

end Token
