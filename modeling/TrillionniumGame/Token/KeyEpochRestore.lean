import TrillionniumGame.Token.KeyEpochSound

namespace Token
open Checks FiniteMap Runs Words
open Persistence (Bytes one_positive ones_nonzero two_positive twos_nonzero zeroBytes)

namespace KeyEpochRegistry

variable {r r' : KeyEpochRegistry} {checkpoint : KeyEpochArchiveCheckpoint} {capacity : Nat}
  {epoch : KeyEpoch} {record : KeyEpochRecord} {archiveDigest : Bytes 32}

def restored (capacity : Nat) (checkpoint : KeyEpochArchiveCheckpoint) : KeyEpochRegistry where
  capacity
  active := checkpoint.active
  records := checkpoint.retainedRecords.foldl
    (fun records record => records.insert record.epoch record) ∅
  usedKeyIds := checkpoint.retainedRecords.foldl
    (fun usedKeyIds record => insert record.keyId usedKeyIds) ∅
  highestEpoch := some checkpoint.highestEpoch
  lastLifecycleTime := some checkpoint.lastLifecycleTime
  authorityLostEpoch := checkpoint.authorityLostEpoch
  checkpoint := some checkpoint
  nextArchiveSequence := checkpoint.sequence + 1

variable {verifier : KeyEpochArchiveVerifier}

theorem fromCheckpoint_ok :
    fromCheckpoint capacity checkpoint verifier = .ok r ↔
      (0 < capacity ∧ capacity ≤ maxOperationalKeyEpochs) ∧ Shape checkpoint capacity ∧
      verifier.verifyCheckpoint checkpoint = true ∧ checkpoint.sequence + 1 < 2 ^ 64 ∧
      restored capacity checkpoint = r := by
  unfold fromCheckpoint
  simp only [bind_ok, fetch_ok, fits_some, require_ok, exists_const]
  constructor
  · rintro ⟨⟨⟩, hcapacity, ⟨⟩, hshape, hverified, _, ⟨hfits, rfl⟩, hresult⟩
    have hbounds := validateCapacity_ok.mp hcapacity
    have hsmall := hbounds.2
    rw [maxOperationalKeyEpochs] at hsmall
    exact ⟨hbounds, (validateCheckpointShape_ok (by omega)).mp hshape, hverified, hfits,
      Except.ok.inj hresult⟩
  · rintro ⟨hbounds, hshape, hverified, hfits, rfl⟩
    have hsmall := hbounds.2
    rw [maxOperationalKeyEpochs] at hsmall
    exact ⟨(), validateCapacity_ok.mpr hbounds, (), (validateCheckpointShape_ok (by omega)).mpr hshape,
      hverified, _, ⟨hfits, rfl⟩, rfl⟩

theorem restored_lookup (hepochs : (checkpoint.retainedRecords.map (·.epoch)).Nodup) :
    (restored capacity checkpoint).records.lookup epoch = some record ↔
      record ∈ checkpoint.retainedRecords ∧ record.epoch = epoch := by
  constructor
  · intro hlookup
    by_cases hmem : epoch ∈ checkpoint.retainedRecords.map (·.epoch)
    · obtain ⟨other, hother, rfl⟩ := List.mem_map.mp hmem
      have hsame : (restored capacity checkpoint).records.lookup other.epoch = some other :=
        lookup_foldl_insert (g := id) hepochs hother ∅
      cases Option.mem_unique hsame hlookup
      exact ⟨hother, rfl⟩
    · have hnone : (restored capacity checkpoint).records.lookup epoch = none :=
        (lookup_foldl_insert_of_notMem (g := id) hmem ∅).trans (Finmap.lookup_empty _)
      rw [hnone] at hlookup
      cases hlookup
  · rintro ⟨hmem, rfl⟩
    exact lookup_foldl_insert (g := id) hepochs hmem ∅

theorem mem_restored_keyIds {keyId : KeyId} : keyId ∈ (restored capacity checkpoint).usedKeyIds ↔
    ∃ record ∈ checkpoint.retainedRecords, record.keyId = keyId := by
  rw [restored, mem_foldl_insert, List.mem_map]
  simp

theorem keyId_unique {records : List KeyEpochRecord} (hkeyIds : (records.map (·.keyId)).Nodup)
    {record record' : KeyEpochRecord} (hrecord : record ∈ records) (hrecord' : record' ∈ records)
    (heq : record.keyId = record'.keyId) : record = record' :=
  List.inj_on_of_nodup_map hkeyIds hrecord hrecord' heq

theorem sound_restored (hcapacity : 0 < capacity ∧ capacity ≤ maxOperationalKeyEpochs)
    (h : Shape checkpoint capacity) : (restored capacity checkpoint).Sound := by
  have hepochs : (checkpoint.retainedRecords.map (·.epoch)).Nodup := nodup_map_right h.epochs
  have hkeyIds : (checkpoint.retainedRecords.map (·.keyId)).Nodup := nodup_map_right h.keyIds
  have hroom : (restored capacity checkpoint).records.keys.card ≤ capacity := by
    have hsub : (restored capacity checkpoint).records.keys ⊆
        (checkpoint.retainedRecords.map (·.epoch)).toFinset := by
      intro epoch hepoch
      obtain ⟨record, hrecord⟩ := Finmap.mem_iff.mp (Finmap.mem_keys.mp hepoch)
      obtain ⟨hmem, rfl⟩ := (restored_lookup hepochs).mp hrecord
      exact List.mem_toFinset.mpr (List.mem_map_of_mem hmem)
    have hle := (Finset.card_le_card hsub).trans (List.toFinset_card_le _)
    rw [List.length_map] at hle
    exact hle.trans h.room
  refine ⟨hcapacity, hroom, ⟨fun epoch record hrecord => ?_, fun keyId => ?_, ?_⟩,
    fun epoch record hrecord => ?_, fun epoch hepoch => ?_, fun epoch record hrecord hstate => ?_,
    fun hactive highest hhighest => ?_, nofun, ?_⟩
  · exact ((restored_lookup hepochs).mp hrecord).2
  · rw [mem_restored_keyIds]
    constructor
    · rintro ⟨record, hrecord, rfl⟩
      exact ⟨record.epoch, record, (restored_lookup hepochs).mpr ⟨hrecord, rfl⟩, rfl⟩
    · rintro ⟨epoch, record, hrecord, rfl⟩
      exact ⟨record, ((restored_lookup hepochs).mp hrecord).1, rfl⟩
  · intro epoch epoch' record record' hrecord hrecord' heq
    obtain ⟨hmem, rfl⟩ := (restored_lookup hepochs).mp hrecord
    obtain ⟨hmem', rfl⟩ := (restored_lookup hepochs).mp hrecord'
    rw [keyId_unique hkeyIds hmem hmem' heq]
  · obtain ⟨hmem, rfl⟩ := (restored_lookup hepochs).mp hrecord
    obtain ⟨hlive, hoverlap⟩ := h.retained record hmem
    refine ⟨⟨_, rfl, h.highest record (List.mem_append_right _ hmem)⟩,
      ⟨_, rfl, h.activated record (List.mem_append_left _ hmem), fun terminal hterminal => ?_⟩, hoverlap⟩
    rw [hlive] at hterminal
    cases hterminal
  · obtain ⟨rfl, hlost, ⟨record, hrecord, hepoch, hstate⟩, _⟩ := h.active epoch hepoch
    exact ⟨rfl, hlost, record, (restored_lookup hepochs).mpr ⟨hrecord, hepoch⟩, hstate⟩
  · obtain ⟨hmem, rfl⟩ := (restored_lookup hepochs).mp hrecord
    cases hactive : checkpoint.active with
    | none =>
      have hcount := (h.lost hactive).2.2
      exact absurd (decide_eq_true hstate) (List.countP_eq_zero.mp hcount record hmem)
    | some active =>
      obtain ⟨_, _, ⟨other, hother, hepoch, hstate'⟩, hcount⟩ := h.active active hactive
      obtain ⟨lone, hlone⟩ := List.length_eq_one_iff.mp (List.countP_eq_length_filter ▸ hcount)
      have hmem' : record ∈ [lone] := hlone ▸ List.mem_filter.mpr ⟨hmem, decide_eq_true hstate⟩
      have hother' : other ∈ [lone] := hlone ▸ List.mem_filter.mpr ⟨hother, decide_eq_true hstate'⟩
      rw [List.mem_singleton.mp hmem', ← List.mem_singleton.mp hother', hepoch]
      exact hactive
  · obtain ⟨hlost, _⟩ := h.lost hactive
    cases hhighest
    exact ⟨hlost, nofun⟩
  · rintro held ⟨⟩
    exact ⟨rfl, h.sequence, h.digest, nofun⟩

theorem sound_fromCheckpoint (h : fromCheckpoint capacity checkpoint verifier = .ok r) :
    r.Sound := by
  obtain ⟨hcapacity, hshape, _, _, rfl⟩ := fromCheckpoint_ok.mp h
  exact sound_restored hcapacity hshape

def terminalValues (r : KeyEpochRegistry) : List KeyEpochRecord :=
  r.values.filter fun record => (terminalTime record.state).isSome

def liveValues (r : KeyEpochRegistry) : List KeyEpochRecord :=
  r.values.filter fun record => (terminalTime record.state).isNone

def archiving (r : KeyEpochRegistry) (archiveDigest : Bytes 32) (highestEpoch : KeyEpoch)
    (lastLifecycleTime : Int) : KeyEpochArchiveCheckpoint :=
  ⟨r.nextArchiveSequence, r.checkpoint.map (·.archiveDigest), archiveDigest, highestEpoch,
    lastLifecycleTime, r.authorityLostEpoch, r.active, r.liveValues, r.terminalValues⟩

theorem terminalCheckpoint_ok : r.terminalCheckpoint archiveDigest = .ok checkpoint ↔
    zeroBytes archiveDigest = false ∧ r.terminalValues ≠ [] ∧ ∃ highest latest,
      r.highestEpoch = some highest ∧ r.lastLifecycleTime = some latest ∧
      r.archiving archiveDigest highest latest = checkpoint := by
  unfold terminalCheckpoint
  simp only [bind_ok, fetch_ok, require_ok, exists_const]
  constructor
  · rintro ⟨hdigest, hsome, highest, hhighest, latest, hlatest, hresult⟩
    exact ⟨hdigest, hsome, highest, latest, hhighest, hlatest, Except.ok.inj hresult⟩
  · rintro ⟨hdigest, hsome, highest, latest, hhighest, hlatest, rfl⟩
    exact ⟨hdigest, hsome, highest, hhighest, latest, hlatest, rfl⟩

theorem mem_terminalValues : record ∈ r.terminalValues ↔
    (∃ epoch, r.records.lookup epoch = some record) ∧ terminalTime record.state ≠ none := by
  rw [terminalValues, List.mem_filter, mem_values, Option.isSome_iff_ne_none]

theorem mem_liveValues : record ∈ r.liveValues ↔
    (∃ epoch, r.records.lookup epoch = some record) ∧ terminalTime record.state = none := by
  rw [liveValues, List.mem_filter, mem_values, Option.isNone_iff_eq_none]

theorem values_split (r : KeyEpochRegistry) :
    (r.terminalValues ++ r.liveValues).Perm r.values := by
  have hnot : (fun record : KeyEpochRecord => (terminalTime record.state).isNone) =
      fun record => !(terminalTime record.state).isSome := by
    funext record
    cases terminalTime record.state <;> rfl
  rw [terminalValues, liveValues, hnot]
  exact List.filter_append_perm _ r.values

section

variable (h : r.Sound)
include h

theorem Sound.values_epochs : r.values.map (·.epoch) = ordered r.records.keys := by
  rw [values, List.map_map, ← items_keys]
  refine List.map_congr_left fun item hitem => ?_
  exact h.keyed.keyed item.1 item.2 (mem_items.mp hitem)

theorem Sound.values_nodup : (r.values.map (·.epoch)).Nodup :=
  h.values_epochs ▸ nodup_ordered _

theorem Sound.values_keyIds : (r.values.map (·.keyId)).Nodup := by
  refine List.Nodup.map_on (fun record hrecord record' hrecord' heq => ?_)
    (List.Nodup.of_map _ h.values_nodup)
  obtain ⟨epoch, hlookup⟩ := mem_values.mp hrecord
  obtain ⟨epoch', hlookup'⟩ := mem_values.mp hrecord'
  cases h.keyed.distinct epoch epoch' record record' hlookup hlookup' heq
  exact Option.mem_unique hlookup hlookup'

theorem Sound.values_length : r.values.length ≤ r.capacity := by
  have hlength : r.values.length = r.records.keys.card := by
    rw [← List.length_map (f := fun record : KeyEpochRecord => record.epoch), h.values_epochs,
      ← Multiset.coe_card, ordered_perm, Finset.card_val]
  exact hlength ▸ h.room

theorem Sound.shape {highest : KeyEpoch} {latest : Int} (hdigest : zeroBytes archiveDigest = false)
    (hterminal : r.terminalValues ≠ []) (hhighest : r.highestEpoch = some highest)
    (hlatest : r.lastLifecycleTime = some latest) :
    Shape (r.archiving archiveDigest highest latest) r.capacity := by
  have hwithin : ∀ epoch record, r.records.lookup epoch = some record →
      record.Within (some highest) (some latest) := by
    intro epoch record hrecord
    exact hhighest ▸ hlatest ▸ h.within epoch record hrecord
  have hvalues : ∀ record ∈ r.values, record.epoch ≤ highest ∧ record.activatedAt ≤ latest := by
    intro record hrecord
    obtain ⟨epoch, hlookup⟩ := mem_values.mp hrecord
    obtain ⟨⟨_, ⟨⟩, hepoch⟩, ⟨_, ⟨⟩, hactivated, _⟩, _⟩ := hwithin epoch record hlookup
    exact ⟨hepoch, hactivated⟩
  have hsplit := r.values_split
  have hlone : ∀ record ∈ r.liveValues, record.state = .active →
      r.active = some record.epoch ∧ r.records.lookup record.epoch = some record := by
    intro record hrecord hstate
    obtain ⟨⟨epoch, hlookup⟩, _⟩ := mem_liveValues.mp hrecord
    cases h.keyed.keyed epoch record hlookup
    exact ⟨h.lone _ record hlookup hstate, hlookup⟩
  refine ⟨?_, hdigest, hterminal, ?_, fun record hrecord => ?_, fun record hrecord => ?_, ?_, ?_,
    fun record hrecord => ?_, ?_, fun hnone => ?_, fun record hrecord => ?_, fun active hactive => ?_,
    fun hnone => ?_⟩
  · change r.nextArchiveSequence ≠ 0
    cases hcheckpoint : r.checkpoint with
    | none => rw [h.chained.1 hcheckpoint]; exact Nat.one_ne_zero
    | some held => rw [(h.chained.2 held hcheckpoint).1]; exact Nat.succ_ne_zero _
  · exact (List.length_filter_le _ _).trans h.values_length
  · obtain ⟨⟨epoch, hlookup⟩, hsome⟩ := mem_terminalValues.mp hrecord
    obtain ⟨time, htime⟩ := Option.ne_none_iff_exists'.mp hsome
    obtain ⟨_, ⟨_, ⟨⟩, _, hbounds⟩, _⟩ := hwithin epoch record hlookup
    exact ⟨time, htime, hbounds time htime⟩
  · obtain ⟨⟨epoch, hlookup⟩, hlive⟩ := mem_liveValues.mp hrecord
    exact ⟨hlive, (hwithin epoch record hlookup).overlap⟩
  · exact (hsplit.map _).nodup_iff.mpr h.values_nodup
  · exact (hsplit.map _).nodup_iff.mpr h.values_keyIds
  · exact (hvalues record (hsplit.mem_iff.mp hrecord)).1
  · change PredecessorNamed r.nextArchiveSequence (r.checkpoint.map (·.archiveDigest))
    cases hcheckpoint : r.checkpoint with
    | none =>
      rw [h.chained.1 hcheckpoint]
      exact ⟨by simp, nofun⟩
    | some held =>
      obtain ⟨hnext, hsequence, hnonzero, _⟩ := h.chained.2 held hcheckpoint
      rw [hnext]
      refine ⟨⟨fun hfirst => absurd (Nat.succ.inj hfirst) hsequence, nofun⟩, ?_⟩
      rintro _ ⟨⟩
      exact hnonzero
  · have hfirst : r.checkpoint = none := Option.map_eq_none_iff.mp hnone
    have htop : ∃ record, r.records.lookup highest = some record := by
      cases hactive : r.active with
      | none =>
        obtain ⟨record, hrecord, _⟩ := (h.lost hactive highest hhighest).2 hfirst
        exact ⟨record, hrecord⟩
      | some active =>
        obtain ⟨hsame, _, record, hrecord, _⟩ := h.active active hactive
        cases Option.mem_unique hsame hhighest
        exact ⟨record, hrecord⟩
    obtain ⟨record, hrecord⟩ := htop
    exact ⟨record, hsplit.mem_iff.mpr (mem_values.mpr ⟨highest, hrecord⟩),
      h.keyed.keyed highest record hrecord⟩
  · exact (hvalues record (hsplit.mem_iff.mp (List.perm_append_comm.mem_iff.mp hrecord))).2
  · obtain ⟨hsame, hlost, record, hrecord, hstate⟩ := h.active active hactive
    have hlive : record ∈ r.liveValues := mem_liveValues.mpr ⟨⟨active, hrecord⟩, by rw [hstate]; rfl⟩
    refine ⟨Option.mem_unique hsame hhighest, hlost,
      ⟨record, hlive, h.keyed.keyed active record hrecord, hstate⟩, ?_⟩
    have hcount : r.liveValues.countP (fun record => record.state = .active) =
        r.liveValues.count record := by
      refine List.countP_congr fun other hother => ?_
      rw [decide_eq_true_eq, beq_iff_eq]
      refine ⟨fun hstate' => ?_, fun heq => heq ▸ hstate⟩
      obtain ⟨hactive', hlookup⟩ := hlone other hother hstate'
      obtain heq : active = other.epoch := Option.mem_unique hactive hactive'
      rw [← heq, hrecord] at hlookup
      exact (Option.some.inj hlookup).symm
    have hnodup : r.liveValues.Nodup := (List.Nodup.of_map _ h.values_nodup).filter _
    exact hcount.trans (List.count_eq_one_of_mem hnodup hlive)
  · obtain ⟨hlost, hrevoked⟩ := h.lost hnone highest hhighest
    refine ⟨hlost, ?_, List.countP_eq_zero.mpr fun record hrecord hstate => ?_⟩
    · cases hcheckpoint : r.checkpoint with
      | none =>
        obtain ⟨record, hrecord, hstate⟩ := hrevoked hcheckpoint
        refine .inl ⟨record, mem_terminalValues.mpr ⟨⟨highest, hrecord⟩, ?_⟩,
          h.keyed.keyed highest record hrecord, hstate⟩
        cases hcases : record.state with
        | revoked => exact nofun
        | active | verifyOnly | retired =>
          rw [hcases] at hstate
          cases hstate
      | some held =>
        refine .inr ?_
        rw [archiving, hcheckpoint]
        rfl
    · obtain ⟨hactive, _⟩ := hlone record hrecord (of_decide_eq_true hstate)
      have hnone' : r.active = none := hnone
      rw [hnone'] at hactive
      cases hactive

theorem Sound.archived_eq (hcheckpoint : r.terminalCheckpoint archiveDigest = .ok checkpoint) :
    r.archived checkpoint = restored r.capacity checkpoint := by
  obtain ⟨hdigest, hterminal, highest, latest, hhighest, hlatest, rfl⟩ :=
    terminalCheckpoint_ok.mp hcheckpoint
  have hshape := h.shape hdigest hterminal hhighest hlatest
  have hepochs : ((r.archiving archiveDigest highest latest).retainedRecords.map (·.epoch)).Nodup := by
    have hall := hshape.epochs
    rw [List.map_append] at hall
    exact (List.nodup_append.mp hall).2.1
  have hrecords : (r.archived (r.archiving archiveDigest highest latest)).records =
      (restored r.capacity (r.archiving archiveDigest highest latest)).records := by
    refine Finmap.ext_lookup fun epoch => Option.ext fun record => ?_
    rw [restored_lookup hepochs]
    dsimp only [archived]
    rw [lookup_foldl_erase]
    split
    · next hgone =>
      obtain ⟨other, hother, rfl⟩ := List.mem_map.mp hgone
      refine ⟨nofun, fun ⟨hmem, heq⟩ => ?_⟩
      obtain ⟨⟨epoch', hlookup'⟩, hlive⟩ := mem_liveValues.mp hmem
      obtain ⟨⟨epoch, hlookup⟩, hsome⟩ := mem_terminalValues.mp hother
      cases h.keyed.keyed epoch' record hlookup'
      cases h.keyed.keyed epoch other hlookup
      rw [heq, hlookup] at hlookup'
      rw [Option.some.inj hlookup'] at hsome
      exact absurd hlive hsome
    · next hstays =>
      constructor
      · intro hlookup
        cases h.keyed.keyed epoch record hlookup
        refine ⟨mem_liveValues.mpr ⟨⟨_, hlookup⟩, ?_⟩, rfl⟩
        by_contra hsome
        exact hstays (List.mem_map_of_mem (mem_terminalValues.mpr ⟨⟨_, hlookup⟩, hsome⟩))
      · rintro ⟨hmem, rfl⟩
        obtain ⟨⟨epoch, hlookup⟩, _⟩ := mem_liveValues.mp hmem
        cases h.keyed.keyed epoch record hlookup
        exact hlookup
  have hkeyIds : (r.archived (r.archiving archiveDigest highest latest)).usedKeyIds =
      (restored r.capacity (r.archiving archiveDigest highest latest)).usedKeyIds := by
    ext keyId
    rw [mem_restored_keyIds]
    dsimp only [archived]
    rw [mem_foldl_erase, h.keyed.used, List.mem_map]
    constructor
    · rintro ⟨⟨epoch, record, hrecord, rfl⟩, hstays⟩
      refine ⟨record, mem_liveValues.mpr ⟨⟨epoch, hrecord⟩, ?_⟩, rfl⟩
      by_contra hsome
      exact hstays ⟨record, mem_terminalValues.mpr ⟨⟨epoch, hrecord⟩, hsome⟩, rfl⟩
    · rintro ⟨record, hmem, rfl⟩
      obtain ⟨⟨epoch, hlookup⟩, hlive⟩ := mem_liveValues.mp hmem
      refine ⟨⟨epoch, record, hlookup, rfl⟩, ?_⟩
      rintro ⟨other, hother, heq⟩
      obtain ⟨⟨epoch', hlookup'⟩, hsome⟩ := mem_terminalValues.mp hother
      cases h.keyed.distinct epoch' epoch other record hlookup' hlookup heq
      rw [Option.mem_unique hlookup' hlookup] at hsome
      exact hsome hlive
  unfold archived at hrecords hkeyIds ⊢
  unfold restored at hrecords hkeyIds ⊢
  dsimp only at hrecords hkeyIds
  rw [hrecords, hkeyIds, hhighest, hlatest]
  rfl

theorem Sound.archived (hcheckpoint : r.terminalCheckpoint archiveDigest = .ok checkpoint) :
    (r.archived checkpoint).Sound := by
  rw [h.archived_eq hcheckpoint]
  obtain ⟨hdigest, hterminal, highest, latest, hhighest, hlatest, rfl⟩ :=
    terminalCheckpoint_ok.mp hcheckpoint
  exact sound_restored h.capacity (h.shape hdigest hterminal hhighest hlatest)

theorem Sound.moved {call : KeyEpochCall} (hmoved : Moved r call r') : r'.Sound := by
  cases hmoved with
  | quiet => exact h
  | initialized hnew hroom => exact h.initialized rfl hnew hroom
  | rotated hactive hcurrent hstate hhighest hnext hoverlap =>
    exact h.rotated hactive hcurrent hstate hhighest hnext hoverlap
  | replaced hactive hhighest _ hnext => exact h.replaced hactive hhighest hnext
  | retired => exact h.retired _
  | revoked hcurrent hlater hlive => exact h.revoked hcurrent hlater hlive
  | archived hcheckpoint => exact h.archived hcheckpoint

end

theorem sound_of_reachable (h : Reachable keyEpochRegistries r) : r.Sound := by
  refine h.invariant (fun start hstart => ?_) fun _ _ _ hsound hstep => hsound.moved (moved hstep)
  rcases hstart with ⟨capacity, hnew⟩ | ⟨capacity, checkpoint, verifier, hrestored⟩
  · exact sound_withCapacity hnew
  · exact sound_fromCheckpoint hrestored

theorem archive_restores (h : Reachable keyEpochRegistries r)
    (hdigest : zeroBytes archiveDigest = false)
    (hterminal : r.records.lookup epoch = some record) (hstate : terminalTime record.state ≠ none) :
    ∃ checkpoint, r.terminalCheckpoint archiveDigest = .ok checkpoint ∧
      validateCheckpointShape checkpoint r.capacity = .ok () ∧
      (∀ verifier, (∃ r', r.archiveTerminal archiveDigest verifier = .ok (checkpoint, r')) ↔
        verifier.verifyCheckpoint checkpoint = true ∧ r.nextArchiveSequence + 1 < 2 ^ 64) ∧
      (∀ verifier error, r.archiveTerminal archiveDigest verifier = .error error ↔
        error = .archiveVerificationFailed ∧ verifier.verifyCheckpoint checkpoint = false ∨
        error = .archiveSequenceExhausted ∧ verifier.verifyCheckpoint checkpoint = true ∧
          2 ^ 64 ≤ r.nextArchiveSequence + 1) ∧
      ∀ verifier checkpoint' r', r.archiveTerminal archiveDigest verifier = .ok (checkpoint', r') →
        checkpoint' = checkpoint ∧
        ∀ accepting : KeyEpochArchiveVerifier, accepting.verifyCheckpoint checkpoint = true →
          fromCheckpoint r'.capacity checkpoint accepting = .ok r' := by
  have hsound := sound_of_reachable h
  have hsome : r.terminalValues ≠ [] :=
    List.ne_nil_of_mem (mem_terminalValues.mpr ⟨⟨epoch, hterminal⟩, hstate⟩)
  obtain ⟨⟨highest, hhighest, _⟩, ⟨latest, hlatest, _⟩, _⟩ := hsound.within epoch record hterminal
  have hbuilt := terminalCheckpoint_ok.mpr ⟨hdigest, hsome, highest, latest, hhighest, hlatest, rfl⟩
  have hshape := hsound.shape hdigest hsome hhighest hlatest
  have hsmall := hsound.capacity.2
  rw [maxOperationalKeyEpochs] at hsmall
  have hvalid := (validateCheckpointShape_ok (by omega)).mpr hshape
  refine ⟨_, hbuilt, hvalid, fun verifier => ⟨?_, ?_⟩, fun verifier error => ?_, ?_⟩
  · rintro ⟨r', harchive⟩
    obtain ⟨_, _, haccepts, hfits, _⟩ := archiveTerminal_ok.mp harchive
    exact ⟨haccepts, hfits⟩
  · rintro ⟨haccepts, hfits⟩
    exact ⟨_, archiveTerminal_ok.mpr ⟨hbuilt, hvalid, haccepts, hfits, rfl⟩⟩
  · exact archiveTerminal_error hbuilt hvalid
  · intro verifier checkpoint' r' harchive
    obtain ⟨hcheckpoint, _, _, hfits, rfl⟩ := archiveTerminal_ok.mp harchive
    cases Except.ok.inj (hbuilt.symm.trans hcheckpoint)
    exact ⟨rfl, fun accepting haccepts => fromCheckpoint_ok.mpr ⟨hsound.capacity, hshape, haccepts,
      hfits, (hsound.archived_eq hbuilt).symm⟩⟩

def firstEpoch : KeyEpoch := ⟨1, one_positive⟩

def secondEpoch : KeyEpoch := ⟨2, two_positive⟩

def firstKeyId : KeyId := ⟨Vector.replicate 16 1, ones_nonzero⟩

def secondKeyId : KeyId := ⟨Vector.replicate 16 2, twos_nonzero⟩

def firstRecord (state : KeyEpochState) : KeyEpochRecord := ⟨firstEpoch, firstKeyId, state, 10⟩

def secondRecord (state : KeyEpochState) : KeyEpochRecord := ⟨secondEpoch, secondKeyId, state, 20⟩

def emptyRegistry : KeyEpochRegistry := ⟨3, none, ∅, ∅, none, none, none, none, 1⟩

def rotatedRegistry : KeyEpochRegistry :=
  { capacity := 3
    active := some secondEpoch
    records := (Finmap.singleton firstEpoch (firstRecord (.verifyOnly 30))).insert secondEpoch
      (secondRecord .active)
    usedKeyIds := {secondKeyId, firstKeyId}
    highestEpoch := some secondEpoch
    lastLifecycleTime := some 20
    authorityLostEpoch := none
    checkpoint := none
    nextArchiveSequence := 1 }

def retiredRegistry : KeyEpochRegistry :=
  { rotatedRegistry with
    records := rotatedRegistry.records.insert firstEpoch (firstRecord (.retired 30))
    lastLifecycleTime := some 30 }

def rotating : List KeyEpochCall :=
  [.initializeEpoch firstEpoch firstKeyId 10 (.ok (firstRecord .active)),
    .rotate secondEpoch secondKeyId 20 30 none (.ok (secondRecord .active)),
    .retireExpired 31 1]

theorem empty_init : keyEpochRegistries.init emptyRegistry := .inl ⟨3, rfl⟩

theorem rotating_run : Run keyEpochRegistries emptyRegistry rotating retiredRegistry := by
  refine .cons (t := emptyRegistry.install (firstRecord .active)) rfl ?_
  refine .cons (t := rotatedRegistry) rfl (.single ?_)
  change rotatedRegistry.retireExpired 31 = (1, retiredRegistry)
  rfl

def acceptingVerifier : KeyEpochArchiveVerifier := ⟨fun _ => true, fun _ _ => true⟩

def rolledCheckpoint : KeyEpochArchiveCheckpoint where
  sequence := 1
  previousArchiveDigest := none
  archiveDigest := Vector.replicate 32 7
  highestEpoch := secondEpoch
  lastLifecycleTime := 30
  authorityLostEpoch := none
  active := some secondEpoch
  retainedRecords := [secondRecord .active]
  archivedRecords := [firstRecord (.retired 30)]

theorem archive_restores_sample : ∃ r',
    retiredRegistry.archiveTerminal (Vector.replicate 32 7) acceptingVerifier =
      .ok (rolledCheckpoint, r') ∧
    fromCheckpoint r'.capacity rolledCheckpoint acceptingVerifier = .ok r' := by
  obtain ⟨_, hbuilt, _, hsucceeds, _, hrestores⟩ :=
    archive_restores ⟨_, _, empty_init, rotating_run⟩
      (show zeroBytes (Vector.replicate 32 7) = false by decide)
      (show retiredRegistry.records.lookup firstEpoch = some (firstRecord (.retired 30)) from rfl)
      nofun
  have hrolled : retiredRegistry.terminalCheckpoint (Vector.replicate 32 7) =
      .ok rolledCheckpoint := rfl
  cases Except.ok.inj (hbuilt.symm.trans hrolled)
  obtain ⟨r', harchive⟩ := (hsucceeds acceptingVerifier).mpr ⟨rfl, by decide⟩
  exact ⟨r', harchive, (hrestores _ _ _ harchive).2 acceptingVerifier rfl⟩

structure Invariant (r : KeyEpochRegistry) : Prop where
  lone : ∀ epoch epoch' record record', r.records.lookup epoch = some record →
    r.records.lookup epoch' = some record' → record.state = .active → record'.state = .active →
    epoch = epoch'
  highest : ∀ epoch record, r.records.lookup epoch = some record →
    ∃ highest ∈ r.highestEpoch, record.epoch ≤ highest
  ordered : ∀ epoch epoch' record record', r.records.lookup epoch = some record →
    r.records.lookup epoch' = some record' → record.epoch < record'.epoch →
    record.activatedAt < record'.activatedAt
  lost : r.active = none → ∀ lost ∈ r.authorityLostEpoch,
    r.highestEpoch = some lost ∧ ∀ now record, r.verificationKey lost now ≠ .ok record

def Ordered (checkpoint : KeyEpochArchiveCheckpoint) : Prop :=
  ∀ record ∈ checkpoint.retainedRecords, ∀ record' ∈ checkpoint.retainedRecords,
    record.epoch < record'.epoch → record.activatedAt < record'.activatedAt

def LostIsGone (checkpoint : KeyEpochArchiveCheckpoint) : Prop :=
  checkpoint.active = none → ∀ record ∈ checkpoint.retainedRecords,
    record.epoch ≠ checkpoint.highestEpoch

theorem verificationKey_live {retireAfter : Int} (hrecord : r.records.lookup epoch = some record)
    (hstate : record.state = .verifyOnly retireAfter)
    (hoverlap : record.activatedAt < retireAfter) :
    r.verificationKey epoch record.activatedAt = .ok record := by
  unfold verificationKey
  refine bind_ok.mpr ⟨record, fetch_ok.mpr hrecord, bind_ok.mpr ⟨(), require_ok.mpr le_rfl, ?_⟩⟩
  rw [hstate]
  exact bind_ok.mpr ⟨(), require_ok.mpr hoverlap.le, rfl⟩

theorem verificationKey_ok {now : Int} (h : r.verificationKey epoch now = .ok record) :
    r.records.lookup epoch = some record ∧ terminalTime record.state = none := by
  unfold verificationKey at h
  simp only [bind_ok, fetch_ok, require_ok, exists_const] at h
  obtain ⟨found, hfound, _, h⟩ := h
  cases hstate : found.state with
  | active =>
    simp only [hstate] at h
    cases h
    exact ⟨hfound, by rw [hstate]; rfl⟩
  | verifyOnly =>
    simp only [hstate, bind_ok, require_ok, exists_const] at h
    obtain ⟨_, hresult⟩ := h
    cases hresult
    exact ⟨hfound, by rw [hstate]; rfl⟩
  | retired | revoked => simp [hstate] at h

theorem restore_sound (h : fromCheckpoint capacity checkpoint verifier = .ok r) :
    r.Invariant ↔ Ordered checkpoint ∧ LostIsGone checkpoint := by
  have hsound := sound_fromCheckpoint h
  obtain ⟨_, hshape, _, _, rfl⟩ := fromCheckpoint_ok.mp h
  have hepochs : (checkpoint.retainedRecords.map (·.epoch)).Nodup := nodup_map_right hshape.epochs
  have hlookup : ∀ record ∈ checkpoint.retainedRecords,
      (restored capacity checkpoint).records.lookup record.epoch = some record :=
    fun record hrecord => (restored_lookup hepochs).mpr ⟨hrecord, rfl⟩
  constructor
  · intro hinvariant
    refine ⟨fun record hrecord record' hrecord' hlt => ?_, fun hactive record hrecord htop => ?_⟩
    · exact hinvariant.ordered _ _ _ _ (hlookup record hrecord) (hlookup record' hrecord') hlt
    · obtain ⟨hlost, _, hcount⟩ := hshape.lost hactive
      obtain ⟨hlive, hoverlap⟩ := hshape.retained record hrecord
      cases hstate : record.state with
      | active => exact List.countP_eq_zero.mp hcount record hrecord (decide_eq_true hstate)
      | verifyOnly retireAfter =>
        have hunusable := (hinvariant.lost hactive _ hlost).2 record.activatedAt record
        exact hunusable (verificationKey_live (htop ▸ hlookup record hrecord) hstate
          (hoverlap retireAfter hstate))
      | retired | revoked =>
        rw [hstate] at hlive
        cases hlive
  · rintro ⟨hordered, hgone⟩
    refine ⟨fun epoch epoch' record record' hrecord hrecord' hstate hstate' => ?_,
      fun epoch record hrecord => (hsound.within epoch record hrecord).epoch,
      fun epoch epoch' record record' hrecord hrecord' hlt => ?_, fun hactive lost hlost => ?_⟩
    · have hsame := (hsound.lone epoch record hrecord hstate).symm.trans
        (hsound.lone epoch' record' hrecord' hstate')
      exact Option.some.inj hsame
    · exact hordered record ((restored_lookup hepochs).mp hrecord).1 record'
        ((restored_lookup hepochs).mp hrecord').1 hlt
    · have hnamed := (hshape.lost hactive).1
      obtain rfl : checkpoint.highestEpoch = lost := Option.mem_unique hnamed hlost
      refine ⟨rfl, fun now record hkey => ?_⟩
      obtain ⟨hfound, _⟩ := verificationKey_ok hkey
      obtain ⟨hmem, hepoch⟩ := (restored_lookup hepochs).mp hfound
      exact hgone hactive record hmem hepoch

theorem restore_sound_sample : (restored 3 rolledCheckpoint).Invariant :=
  (restore_sound (show fromCheckpoint 3 rolledCheckpoint acceptingVerifier = .ok _ from rfl)).mpr
    (by unfold Ordered LostIsGone; decide)

def lostCheckpoint : KeyEpochArchiveCheckpoint where
  sequence := 2
  previousArchiveDigest := some (Vector.replicate 32 6)
  archiveDigest := Vector.replicate 32 7
  highestEpoch := secondEpoch
  lastLifecycleTime := 30
  authorityLostEpoch := some secondEpoch
  active := none
  retainedRecords := [secondRecord (.verifyOnly 100)]
  archivedRecords := [firstRecord (.retired 30)]

theorem lost_epoch_still_verifies : ¬ ∀ capacity checkpoint verifier r,
    fromCheckpoint capacity checkpoint verifier = .ok r → r.Invariant := by
  intro h
  have hinvariant := h 3 lostCheckpoint acceptingVerifier _ rfl
  have hkey : (restored 3 lostCheckpoint).verificationKey secondEpoch 50 =
      .ok (secondRecord (.verifyOnly 100)) := rfl
  exact (hinvariant.lost rfl secondEpoch rfl).2 50 _ hkey

end KeyEpochRegistry

end Token
