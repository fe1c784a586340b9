import TrillionniumGame.Token.KeyEpochMoves

namespace Token
open Checks FiniteMap Runs Words
open Persistence (Bytes zeroBytes)

abbrev KeyEpochRecords := Dict KeyEpoch KeyEpochRecord

structure Keyed (records : KeyEpochRecords) (usedKeyIds : Finset KeyId) : Prop where
  keyed : ∀ epoch record, records.lookup epoch = some record → record.epoch = epoch
  used : ∀ keyId, keyId ∈ usedKeyIds ↔
    ∃ epoch record, records.lookup epoch = some record ∧ record.keyId = keyId
  distinct : ∀ epoch epoch' record record', records.lookup epoch = some record →
    records.lookup epoch' = some record' → record.keyId = record'.keyId → epoch = epoch'

structure Advanced (before after : KeyEpochRecords) : Prop where
  keys : ∀ epoch, epoch ∈ after ↔ epoch ∈ before
  kept : ∀ epoch record record', before.lookup epoch = some record →
    after.lookup epoch = some record' → record'.epoch = record.epoch ∧
      record'.keyId = record.keyId ∧ record'.activatedAt = record.activatedAt ∧
      (terminalTime record.state ≠ none → record' = record)

structure KeyEpochRecord.Within (highest : Option KeyEpoch) (latest : Option Int)
    (record : KeyEpochRecord) : Prop where
  epoch : ∃ top ∈ highest, record.epoch ≤ top
  times : ∃ time ∈ latest, record.activatedAt ≤ time ∧
    ∀ terminal, terminalTime record.state = some terminal →
      record.activatedAt ≤ terminal ∧ terminal ≤ time
  overlap : ∀ retireAfter, record.state = .verifyOnly retireAfter → record.activatedAt < retireAfter

variable {records before after : KeyEpochRecords} {usedKeyIds : Finset KeyId}
  {epoch : KeyEpoch} {record : KeyEpochRecord}

theorem Advanced.keys_eq (h : Advanced before after) : after.keys = before.keys := by
  ext epoch
  rw [Finmap.mem_keys, Finmap.mem_keys]
  exact h.keys epoch

theorem Advanced.origin (h : Advanced before after) (hlookup : after.lookup epoch = some record) :
    ∃ old, before.lookup epoch = some old ∧ record.epoch = old.epoch ∧ record.keyId = old.keyId ∧
      record.activatedAt = old.activatedAt := by
  obtain ⟨old, hold⟩ := Finmap.mem_iff.mp ((h.keys epoch).mp (mem_of_lookup hlookup))
  obtain ⟨hepoch, hkeyId, hactivated, _⟩ := h.kept epoch old record hold hlookup
  exact ⟨old, hold, hepoch, hkeyId, hactivated⟩

theorem Advanced.refl (records : KeyEpochRecords) : Advanced records records := by
  refine ⟨fun _ => Iff.rfl, fun epoch record record' hrecord hrecord' => ?_⟩
  cases Option.mem_unique hrecord hrecord'
  exact ⟨rfl, rfl, rfl, fun _ => rfl⟩

theorem advanced_insert (hrecord : records.lookup epoch = some record)
    (hlive : terminalTime record.state = none) (state : KeyEpochState) :
    Advanced records (records.insert epoch { record with state }) := by
  refine ⟨fun epoch' => ?_, fun epoch' old new hold hnew => ?_⟩
  · rw [← Finmap.mem_keys, keys_insert, Finset.insert_eq_of_mem
      (Finmap.mem_keys.mpr (mem_of_lookup hrecord)), Finmap.mem_keys]
  · rw [lookup_insert_ite] at hnew
    split at hnew
    · next heq =>
      cases hnew
      rw [heq, hrecord] at hold
      cases hold
      exact ⟨rfl, rfl, rfl, fun hterminal => absurd hlive hterminal⟩
    · cases Option.mem_unique hold hnew
      exact ⟨rfl, rfl, rfl, fun _ => rfl⟩

theorem Keyed.advanced (h : Keyed before usedKeyIds) (hadvanced : Advanced before after) :
    Keyed after usedKeyIds := by
  refine ⟨fun epoch record hrecord => ?_, fun keyId => ?_, ?_⟩
  · obtain ⟨old, hold, hepoch, _⟩ := hadvanced.origin hrecord
    rw [hepoch]
    exact h.keyed epoch old hold
  · rw [h.used]
    constructor
    · rintro ⟨epoch, old, hold, rfl⟩
      obtain ⟨record, hrecord⟩ := Finmap.mem_iff.mp ((hadvanced.keys epoch).mpr (mem_of_lookup hold))
      exact ⟨epoch, record, hrecord, (hadvanced.kept epoch old record hold hrecord).2.1⟩
    · rintro ⟨epoch, record, hrecord, rfl⟩
      obtain ⟨old, hold, _, hkeyId, _⟩ := hadvanced.origin hrecord
      exact ⟨epoch, old, hold, hkeyId.symm⟩
  · intro epoch epoch' record record' hrecord hrecord' heq
    obtain ⟨old, hold, _, hkeyId, _⟩ := hadvanced.origin hrecord
    obtain ⟨old', hold', _, hkeyId', _⟩ := hadvanced.origin hrecord'
    exact h.distinct epoch epoch' old old' hold hold' (hkeyId.symm.trans (heq.trans hkeyId'))

theorem Keyed.install (h : Keyed records usedKeyIds) (hepoch : record.epoch ∉ records)
    (hkeyId : record.keyId ∉ usedKeyIds) :
    Keyed (records.insert record.epoch record) (insert record.keyId usedKeyIds) := by
  have hnew : ∀ epoch old, records.lookup epoch = some old → old.keyId ≠ record.keyId := by
    rintro epoch old hold heq
    exact hkeyId ((h.used _).mpr ⟨epoch, old, hold, heq⟩)
  refine ⟨fun epoch other hother => ?_, fun keyId => ?_, ?_⟩
  · rw [lookup_insert_ite] at hother
    split at hother
    · next heq =>
      cases hother
      exact heq.symm
    · exact h.keyed epoch other hother
  · rw [Finset.mem_insert, h.used]
    constructor
    · rintro (rfl | ⟨epoch, old, hold, rfl⟩)
      · exact ⟨record.epoch, record, Finmap.lookup_insert records, rfl⟩
      · have hne : epoch ≠ record.epoch := by
          rintro rfl
          exact hepoch (mem_of_lookup hold)
        exact ⟨epoch, old, (Finmap.lookup_insert_of_ne records hne).trans hold, rfl⟩
    · rintro ⟨epoch, other, hother, rfl⟩
      rw [lookup_insert_ite] at hother
      split at hother
      · cases hother
        exact .inl rfl
      · exact .inr ⟨epoch, other, hother, rfl⟩
  · intro epoch epoch' first second hfirst hsecond heq
    rw [lookup_insert_ite] at hfirst hsecond
    split at hfirst
    · next hfirst' =>
      cases hfirst
      split at hsecond
      · next hsecond' => exact hfirst'.trans hsecond'.symm
      · exact absurd heq.symm (hnew epoch' second hsecond)
    · split at hsecond
      · cases hsecond
        exact absurd heq (hnew epoch first hfirst)
      · exact h.distinct epoch epoch' first second hfirst hsecond heq

theorem KeyEpochRecord.Within.mono {highest highest' : Option KeyEpoch} {latest latest' : Option Int}
    (h : record.Within highest latest) (hhighest : ∀ top ∈ highest, ∃ top' ∈ highest', top ≤ top')
    (hlatest : KeyEpochRegistry.Later latest latest') : record.Within highest' latest' := by
  obtain ⟨top, htop, hle⟩ := h.epoch
  obtain ⟨top', htop', hle'⟩ := hhighest top htop
  obtain ⟨time, htime, hactivated, hterminal⟩ := h.times
  obtain ⟨time', htime', hlater⟩ := hlatest time htime
  exact ⟨⟨top', htop', hle.trans hle'⟩, ⟨time', htime', hactivated.trans hlater,
    fun terminal hsome => ⟨(hterminal terminal hsome).1, (hterminal terminal hsome).2.trans hlater⟩⟩,
    h.overlap⟩

namespace KeyEpochRegistry

variable {r : KeyEpochRegistry}

def Chained (r : KeyEpochRegistry) : Prop :=
  (r.checkpoint = none → r.nextArchiveSequence = 1) ∧
    ∀ checkpoint ∈ r.checkpoint, r.nextArchiveSequence = checkpoint.sequence + 1 ∧
      checkpoint.sequence ≠ 0 ∧ zeroBytes checkpoint.archiveDigest = false ∧ r.highestEpoch ≠ none

structure Sound (r : KeyEpochRegistry) : Prop where
  capacity : 0 < r.capacity ∧ r.capacity ≤ maxOperationalKeyEpochs
  room : r.records.keys.card ≤ r.capacity
  keyed : Keyed r.records r.usedKeyIds
  within : ∀ epoch record, r.records.lookup epoch = some record →
    record.Within r.highestEpoch r.lastLifecycleTime
  active : ∀ epoch ∈ r.active, r.highestEpoch = some epoch ∧ r.authorityLostEpoch = none ∧
    ∃ record, r.records.lookup epoch = some record ∧ record.state = .active
  lone : ∀ epoch record, r.records.lookup epoch = some record → record.state = .active →
    r.active = some epoch
  lost : r.active = none → ∀ highest ∈ r.highestEpoch, r.authorityLostEpoch = some highest ∧
    (r.checkpoint = none → ∃ record, r.records.lookup highest = some record ∧
      isRevoked record.state = true)
  chained : r.Chained

variable {capacity : Nat}

theorem validateCapacity_ok :
    validateCapacity capacity = .ok () ↔ 0 < capacity ∧ capacity ≤ maxOperationalKeyEpochs := by
  unfold validateCapacity
  simp only [bind_ok, require_ok, exists_const, Nat.pos_iff_ne_zero]

theorem sound_withCapacity (h : withCapacity capacity = .ok r) : r.Sound := by
  obtain ⟨⟨⟩, hcapacity, hresult⟩ := bind_ok.mp h
  cases hresult
  have hnone : ∀ epoch record, (∅ : KeyEpochRecords).lookup epoch ≠ some record := by
    intro epoch record hrecord
    rw [Finmap.lookup_empty] at hrecord
    cases hrecord
  refine ⟨validateCapacity_ok.mp hcapacity, by simp, ⟨?_, fun keyId => ?_, ?_⟩, ?_, nofun, ?_,
    fun _ => nofun, ⟨fun _ => rfl, nofun⟩⟩
  · exact fun epoch record hrecord => absurd hrecord (hnone epoch record)
  · refine ⟨fun hin => absurd hin (Finset.notMem_empty _), ?_⟩
    rintro ⟨epoch, record, hrecord, _⟩
    exact absurd hrecord (hnone epoch record)
  · exact fun epoch _ record _ hrecord => absurd hrecord (hnone epoch record)
  · exact fun epoch record hrecord => absurd hrecord (hnone epoch record)
  · exact fun epoch record hrecord => absurd hrecord (hnone epoch record)

variable {next : KeyEpochRecord}

theorem sound_install (hcapacity : 0 < r.capacity ∧ r.capacity ≤ maxOperationalKeyEpochs)
    (hroom : r.records.keys.card < r.capacity) (hkeyed : Keyed r.records r.usedKeyIds)
    (hepoch : next.epoch ∉ r.records) (hkeyId : next.keyId ∉ r.usedKeyIds)
    (hwithin : ∀ epoch record, r.records.lookup epoch = some record →
      record.Within (some next.epoch) (some next.activatedAt)) (hactive : next.state = .active)
    (hnone : ∀ epoch record, r.records.lookup epoch = some record → record.state ≠ .active)
    (hchained : r.Chained) : (r.install next).Sound := by
  have hlookup : ∀ epoch record, (r.install next).records.lookup epoch = some record →
      (epoch = next.epoch ∧ record = next) ∨ r.records.lookup epoch = some record := by
    intro epoch record hrecord
    rw [install, lookup_insert_ite] at hrecord
    split at hrecord
    · next heq => exact .inl ⟨heq, (Option.some.inj hrecord).symm⟩
    · exact .inr hrecord
  refine ⟨hcapacity, ?_, hkeyed.install hepoch hkeyId, fun epoch record hrecord => ?_, ?_,
    fun epoch record hrecord hstate => ?_, nofun, hchained.1, fun checkpoint hcheckpoint => ?_⟩
  · have hcard := (keys_insert r.records next.epoch next) ▸
      Finset.card_insert_le next.epoch r.records.keys
    exact hcard.trans hroom
  · rcases hlookup epoch record hrecord with ⟨_, rfl⟩ | hold
    · refine ⟨⟨_, rfl, le_rfl⟩, ⟨_, rfl, le_rfl, fun terminal hterminal => ?_⟩, fun time htime => ?_⟩
      · rw [hactive] at hterminal
        cases hterminal
      · rw [hactive] at htime
        cases htime
    · exact hwithin epoch record hold
  · rintro epoch ⟨⟩
    exact ⟨rfl, rfl, next, Finmap.lookup_insert r.records, hactive⟩
  · rcases hlookup epoch record hrecord with ⟨rfl, _⟩ | hold
    · rfl
    · exact absurd hstate (hnone epoch record hold)
  · obtain ⟨hnext, hsequence, hdigest, _⟩ := hchained.2 checkpoint hcheckpoint
    exact ⟨hnext, hsequence, hdigest, nofun⟩

theorem Sound.initialized (h : r.Sound) (hstate : next.state = .active)
    (hnew : r.highestEpoch = none ∧ r.active = none ∧ r.records.keys = ∅)
    (hroom : r.records.keys.card < r.capacity) : (r.install next).Sound := by
  have habsent : ∀ epoch, epoch ∉ r.records := by
    intro epoch hepoch
    rw [← Finmap.mem_keys, hnew.2.2] at hepoch
    exact absurd hepoch (Finset.notMem_empty _)
  have hnone : ∀ epoch record, r.records.lookup epoch ≠ some record :=
    fun epoch record hrecord => habsent epoch (mem_of_lookup hrecord)
  refine sound_install h.capacity hroom h.keyed (habsent _) (fun hused => ?_)
    (fun epoch record hrecord => absurd hrecord (hnone epoch record)) hstate
    (fun epoch record hrecord => absurd hrecord (hnone epoch record)) h.chained
  obtain ⟨epoch, record, hrecord, _⟩ := (h.keyed.used _).mp hused
  exact hnone epoch record hrecord

variable {verifier : Option KeyEpochArchiveVerifier} {highest : KeyEpoch}

theorem Next.later_epoch (hnext : r.Next verifier highest next) : highest < next.epoch := by
  change highest.value.toNat < next.epoch.value.toNat
  have hepoch := hnext.epoch
  unfold KeyEpoch.get at hepoch
  omega

theorem Next.within {record : KeyEpochRecord} (hnext : r.Next verifier highest next)
    (hhighest : r.highestEpoch = some highest)
    (h : record.Within r.highestEpoch r.lastLifecycleTime) :
    record.Within (some next.epoch) (some next.activatedAt) := by
  obtain ⟨time, htime, hlater⟩ := hnext.later
  refine h.mono (fun top htop => ?_) fun time' htime' => ?_
  · cases Option.mem_unique hhighest htop
    exact ⟨_, rfl, hnext.later_epoch.le⟩
  · cases Option.mem_unique htime htime'
    exact ⟨_, rfl, hlater.le⟩

theorem Next.fresh_epoch (hnext : r.Next verifier highest next) (h : r.Sound)
    (hhighest : r.highestEpoch = some highest) : next.epoch ∉ r.records := by
  intro hin
  obtain ⟨record, hrecord⟩ := Finmap.mem_iff.mp hin
  obtain ⟨top, htop, hle⟩ := (h.within _ record hrecord).epoch
  rw [h.keyed.keyed _ record hrecord] at hle
  cases Option.mem_unique hhighest htop
  exact absurd hnext.later_epoch (not_lt.mpr hle)

theorem Sound.replaced (h : r.Sound) {verifier : Option KeyEpochArchiveVerifier}
    {highest : KeyEpoch} {next : KeyEpochRecord} (hactive : r.active = none)
    (hhighest : r.highestEpoch = some highest) (hnext : r.Next verifier highest next) :
    (r.install next).Sound := by
  refine sound_install h.capacity hnext.room h.keyed (hnext.fresh_epoch h hhighest) hnext.fresh
    (fun epoch record hrecord => hnext.within hhighest (h.within epoch record hrecord)) hnext.active
    (fun epoch record hrecord hstate => ?_) h.chained
  have hsome := h.lone epoch record hrecord hstate
  rw [hactive] at hsome
  cases hsome

variable {current : KeyEpochRecord}

theorem Sound.rotated (h : r.Sound) {retireAfter : Int} (hactive : r.active = some epoch)
    (hcurrent : r.records.lookup epoch = some current) (hstate : current.state = .active)
    (hhighest : r.highestEpoch = some current.epoch) (hnext : r.Next verifier current.epoch next)
    (hoverlap : next.activatedAt < retireAfter) :
    ((r.demoted current retireAfter).install next).Sound := by
  cases h.keyed.keyed epoch current hcurrent
  have hlive : terminalTime current.state = none := by rw [hstate]; rfl
  have hadvanced := advanced_insert hcurrent hlive (.verifyOnly retireAfter)
  have hkeys : (r.demoted current retireAfter).records.keys = r.records.keys := hadvanced.keys_eq
  have hwithin := h.within _ current hcurrent
  refine sound_install h.capacity (hkeys ▸ hnext.room) (h.keyed.advanced hadvanced)
    (fun hin => hnext.fresh_epoch h hhighest ((hadvanced.keys _).mp hin)) hnext.fresh
    (fun epoch record hrecord => ?_) hnext.active (fun epoch record hrecord hactive' => ?_) h.chained
  · rw [demoted, lookup_insert_ite] at hrecord
    split at hrecord
    · cases hrecord
      have hbounds := hnext.within hhighest hwithin
      refine ⟨hbounds.epoch, ?_, fun time htime => ?_⟩
      · obtain ⟨time, htime, hactivated, _⟩ := hbounds.times
        exact ⟨time, htime, hactivated, nofun⟩
      · cases KeyEpochState.verifyOnly.inj htime
        obtain ⟨time, htime, hactivated, _⟩ := hbounds.times
        cases htime
        exact hactivated.trans_lt hoverlap
    · exact hnext.within hhighest (h.within epoch record hrecord)
  · rw [demoted, lookup_insert_ite] at hrecord
    split at hrecord
    · cases hrecord
      cases hactive'
    · next hne =>
      have hsame := h.lone epoch record hrecord hactive'
      rw [hactive] at hsame
      exact hne (Option.some.inj hsame).symm

theorem expire_same (now : Int) (record : KeyEpochRecord) :
    (expire now record).epoch = record.epoch ∧ (expire now record).keyId = record.keyId ∧
      (expire now record).activatedAt = record.activatedAt ∧
      (terminalTime record.state ≠ none → expire now record = record) := by
  unfold expire
  cases hstate : record.state with
  | verifyOnly retireAfter =>
    dsimp only
    split
    · exact ⟨rfl, rfl, rfl, fun hterminal => absurd rfl hterminal⟩
    · exact ⟨rfl, rfl, rfl, fun _ => rfl⟩
  | active | retired | revoked => exact ⟨rfl, rfl, rfl, fun _ => rfl⟩

theorem expire_cases (now : Int) (record : KeyEpochRecord) : expire now record = record ∨
    ∃ retireAfter, record.state = .verifyOnly retireAfter ∧ retireAfter < now ∧
      expire now record = { record with state := .retired retireAfter } := by
  unfold expire
  cases hstate : record.state with
  | verifyOnly retireAfter =>
    dsimp only
    split
    · next hexpired => exact .inr ⟨retireAfter, rfl, hexpired, rfl⟩
    · exact .inl rfl
  | active | retired | revoked => exact .inl rfl

theorem advanced_retire (r : KeyEpochRegistry) (now : Int) :
    Advanced r.records (r.retireExpired now).2.records := by
  refine ⟨fun epoch => ?_, fun epoch record record' hrecord hrecord' => ?_⟩
  · rw [← not_iff_not, ← Finmap.lookup_eq_none, ← Finmap.lookup_eq_none, retireExpired_lookup,
      Option.map_eq_none_iff]
  · rw [retireExpired_lookup, hrecord] at hrecord'
    cases hrecord'
    exact expire_same now record

theorem Sound.retired (h : r.Sound) (now : Int) : (r.retireExpired now).2.Sound := by
  have hadvanced := advanced_retire r now
  have hspec := r.retireExpired_spec now
  have hkeys : (r.retireExpired now).2.records.keys = r.records.keys := hadvanced.keys_eq
  refine ⟨h.capacity, hkeys ▸ h.room, h.keyed.advanced hadvanced, fun epoch record hrecord => ?_,
    fun epoch hepoch => ?_, fun epoch record hrecord hstate => ?_, fun hactive highest hhighest => ?_,
    h.chained⟩
  · rw [retireExpired_lookup] at hrecord
    obtain ⟨old, hold, rfl⟩ := Option.map_eq_some_iff.mp hrecord
    have hwithin := (h.within epoch old hold).mono
      (fun top htop => ⟨top, htop, le_rfl⟩) hspec.later
    rcases expire_cases now old with hsame | ⟨retireAfter, hstate, hexpired, hretired⟩
    · rw [hsame]
      exact hwithin
    · rw [hretired]
      obtain ⟨latest, hlatest, hle⟩ := hspec.times (epoch, old) (mem_items.mpr hold) retireAfter hstate
        hexpired
      obtain ⟨time, htime, hactivated, _⟩ := hwithin.times
      cases Option.mem_unique hlatest htime
      refine ⟨hwithin.epoch, ⟨_, htime, hactivated, ?_⟩, nofun⟩
      rintro terminal ⟨⟩
      exact ⟨(hwithin.overlap retireAfter hstate).le, hle⟩
  · obtain ⟨hhighest, hlost, record, hrecord, hstate⟩ := h.active epoch hepoch
    refine ⟨hhighest, hlost, expire now record, ?_, ?_⟩
    · rw [retireExpired_lookup, hrecord]
      rfl
    · rw [expire, hstate]
      exact hstate
  · rw [retireExpired_lookup] at hrecord
    obtain ⟨old, hold, rfl⟩ := Option.map_eq_some_iff.mp hrecord
    rcases expire_cases now old with hsame | ⟨retireAfter, _, _, hretired⟩
    · rw [hsame] at hstate
      exact h.lone epoch old hold hstate
    · rw [hretired] at hstate
      cases hstate
  · obtain ⟨hlost, hrevoked⟩ := h.lost hactive highest hhighest
    refine ⟨hlost, fun hcheckpoint => ?_⟩
    obtain ⟨record, hrecord, hstate⟩ := hrevoked hcheckpoint
    refine ⟨expire now record, ?_, ?_⟩
    · rw [retireExpired_lookup, hrecord]
      rfl
    · rcases expire_cases now record with hsame | ⟨retireAfter, hverify, _, _⟩
      · rw [hsame]
        exact hstate
      · rw [hverify] at hstate
        cases hstate

theorem Sound.revoked (h : r.Sound) {revokedAt : Int}
    (hcurrent : r.records.lookup epoch = some current) (hlater : current.activatedAt ≤ revokedAt)
    (hlive : terminalTime current.state = none) : (r.revoked epoch current revokedAt).Sound := by
  have hadvanced := advanced_insert hcurrent hlive (.revoked revokedAt)
  have hkeys : (r.revoked epoch current revokedAt).records.keys = r.records.keys := hadvanced.keys_eq
  have hlookup : ∀ epoch' record,
      (r.revoked epoch current revokedAt).records.lookup epoch' = some record →
      (epoch' = epoch ∧ record = { current with state := .revoked revokedAt }) ∨
        epoch' ≠ epoch ∧ r.records.lookup epoch' = some record := by
    intro epoch' record hrecord
    rw [KeyEpochRegistry.revoked, lookup_insert_ite] at hrecord
    split at hrecord
    · next heq => exact .inl ⟨heq, (Option.some.inj hrecord).symm⟩
    · next hne => exact .inr ⟨hne, hrecord⟩
  refine ⟨h.capacity, hkeys ▸ h.room, h.keyed.advanced hadvanced, fun epoch' record hrecord => ?_,
    fun epoch' hepoch' => ?_, fun epoch' record hrecord hstate => ?_,
    fun hactive highest hhighest => ?_, h.chained⟩
  · rcases hlookup epoch' record hrecord with ⟨_, rfl⟩ | ⟨_, hold⟩
    · have hwithin := h.within epoch current hcurrent
      refine ⟨hwithin.epoch, ⟨_, rfl, ?_, ?_⟩, nofun⟩
      · exact hlater.trans (le_laterOf _ _)
      · rintro terminal ⟨⟩
        exact ⟨hlater, le_laterOf _ _⟩
    · exact (h.within epoch' record hold).mono (fun top htop => ⟨top, htop, le_rfl⟩) (later_laterOf _ _)
  · dsimp only [KeyEpochRegistry.revoked] at hepoch' ⊢
    split at hepoch'
    · cases hepoch'
    · next hne =>
      obtain ⟨hhighest, hlost, record, hrecord, hstate⟩ := h.active epoch' hepoch'
      have hother : epoch' ≠ epoch := by
        rintro rfl
        exact hne hepoch'
      rw [if_neg hne]
      exact ⟨hhighest, hlost, record, (Finmap.lookup_insert_of_ne _ hother).trans hrecord, hstate⟩
  · rcases hlookup epoch' record hrecord with ⟨_, rfl⟩ | ⟨hne, hold⟩
    · cases hstate
    · have hactive := h.lone epoch' record hold hstate
      dsimp only [KeyEpochRegistry.revoked]
      rw [if_neg fun heq => hne (Option.some.inj (hactive.symm.trans heq))]
      exact hactive
  · dsimp only [KeyEpochRegistry.revoked] at hactive hhighest ⊢
    by_cases hsigner : r.active = some epoch
    · obtain ⟨htop, _⟩ := h.active epoch hsigner
      cases Option.mem_unique htop hhighest
      rw [if_pos hsigner]
      exact ⟨rfl, fun _ => ⟨_, Finmap.lookup_insert _, rfl⟩⟩
    · rw [if_neg hsigner] at hactive ⊢
      obtain ⟨hlost, hrevoked⟩ := h.lost hactive highest hhighest
      refine ⟨hlost, fun hcheckpoint => ?_⟩
      obtain ⟨record, hrecord, hstate⟩ := hrevoked hcheckpoint
      by_cases heq : highest = epoch
      · rw [heq]
        exact ⟨_, Finmap.lookup_insert _, rfl⟩
      · exact ⟨record, (Finmap.lookup_insert_of_ne _ heq).trans hrecord, hstate⟩

end KeyEpochRegistry

end Token
