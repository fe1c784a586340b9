import TrillionniumGame.TokenLifecycle.Registry

namespace TokenLifecycle
open Checks FiniteMap Runs Words
open Token (KeyDomain)

section
theorem intervalsOverlap_iff {leftStart leftEnd rightStart rightEnd : Nat} :
    intervalsOverlap leftStart leftEnd rightStart rightEnd = true ↔
      leftStart < rightEnd ∧ rightStart < leftEnd := by
  simp [intervalsOverlap]

theorem intervalsOverlap_comm (leftStart leftEnd rightStart rightEnd : Nat) :
    intervalsOverlap leftStart leftEnd rightStart rightEnd =
      intervalsOverlap rightStart rightEnd leftStart leftEnd :=
  Bool.and_comm _ _

def EpochRecord.SigningDisjoint (record other : EpochRecord) : Prop :=
  intervalsOverlap record.window.notBeforeUnix record.window.signUntilUnix
    other.window.notBeforeUnix other.window.signUntilUnix = false

variable {record other : EpochRecord}

theorem EpochRecord.SigningDisjoint.symm (h : record.SigningDisjoint other) :
    other.SigningDisjoint record :=
  (intervalsOverlap_comm _ _ _ _).trans h

variable {atUnix : Nat}

theorem EpochRecord.signsAt_iff :
    record.signsAt atUnix = true ↔ record.isRevoked = false ∧
      record.window.notBeforeUnix ≤ atUnix ∧ atUnix < record.window.signUntilUnix := by
  simp [signsAt, EpochWindow.canSignAt_iff]

theorem EpochRecord.SigningDisjoint.not_both (h : record.SigningDisjoint other)
    (hsigns : record.signsAt atUnix = true) (hother : other.signsAt atUnix = true) : False := by
  obtain ⟨-, hstart, hend⟩ := signsAt_iff.mp hsigns
  obtain ⟨-, hstart', hend'⟩ := signsAt_iff.mp hother
  have hoverlap := intervalsOverlap_iff.mpr ⟨hstart.trans_lt hend', hstart'.trans_lt hend⟩
  rw [h] at hoverlap
  cases hoverlap

namespace KeyEpochRegistry

variable {r : KeyEpochRegistry} {domain : KeyDomain} {epoch epoch' : Nat} {record : EpochRecord}

structure Sound (r : KeyEpochRegistry) : Prop where
  revision : r.revision = r.audit.length
  bounded : r.audit.length ≤ maxLifecycleAuditEvents
  keyed : ∀ domain epoch record, r.record domain epoch = some record →
    record.window.domain = domain ∧ record.window.epoch = epoch
  issued : ∀ domain epoch record, r.record domain epoch = some record →
    ∃ highest, r.highest domain = some highest ∧ epoch ≤ highest
  disjoint : ∀ domain epoch record epoch' record', r.record domain epoch = some record →
    r.record domain epoch' = some record' → record.isRevoked = false → record'.isRevoked = false →
    epoch ≠ epoch' → record.SigningDisjoint record'

theorem sound_default : Sound default := by
  have hnone : ∀ domain epoch, default.record domain epoch = none := fun _ _ => rfl
  refine ⟨rfl, Nat.zero_le _, ?_, ?_, ?_⟩ <;> simp [hnone]

end KeyEpochRegistry

namespace Commits
open KeyEpochRegistry

variable {r r' : KeyEpochRegistry} {action : LifecycleAction} {domain : KeyDomain}
  {epoch atUnix : Nat} {kept : Option EpochRecord}
  (h : Commits r r' action domain epoch atUnix kept)
include h

theorem record_self : r'.record domain epoch = kept := by
  rw [h.record, if_pos ⟨rfl, rfl⟩]

theorem record_cases {domain' : KeyDomain} {epoch' : Nat} {record : EpochRecord}
    (hrecord : r'.record domain' epoch' = some record) :
    (domain' = domain ∧ epoch' = epoch ∧ kept = some record) ∨
      (¬ (domain' = domain ∧ epoch' = epoch) ∧ r.record domain' epoch' = some record) := by
  rw [h.record] at hrecord
  split at hrecord
  · next heq => exact .inl ⟨heq.1, heq.2, hrecord⟩
  · next hne => exact .inr ⟨hne, hrecord⟩

theorem counts (hsound : Sound r) :
    r'.revision = r'.audit.length ∧ r'.audit.length ≤ maxLifecycleAuditEvents := by
  have hroom := h.room
  rw [h.revision, h.audit, hsound.revision, List.length_append, List.length_singleton]
  exact ⟨rfl, hroom⟩

theorem sound_of_narrowed (hsound : Sound r)
    (hhighest : ∀ domain, r'.highest domain = r.highest domain) {record : EpochRecord}
    (hrecord : r.record domain epoch = some record)
    (hkept : ∀ record' ∈ kept, record'.window = record.window ∧ record'.isRevoked = true) :
    Sound r' := by
  have hback : ∀ domain' epoch' record', r'.record domain' epoch' = some record' →
      ∃ before, r.record domain' epoch' = some before ∧ before.window = record'.window ∧
        (record'.isRevoked = false → before = record') := by
    intro domain' epoch' record' hrecord'
    rcases h.record_cases hrecord' with ⟨rfl, rfl, hsome⟩ | ⟨-, hold⟩
    · obtain ⟨hwindow, hrevoked⟩ := hkept record' hsome
      exact ⟨record, hrecord, hwindow.symm, fun hlive => by rw [hrevoked] at hlive; cases hlive⟩
    · exact ⟨record', hold, rfl, fun _ => rfl⟩
  refine ⟨(h.counts hsound).1, (h.counts hsound).2, ?_, ?_, ?_⟩
  · intro domain' epoch' record' hrecord'
    obtain ⟨before, hbefore, hwindow, -⟩ := hback _ _ _ hrecord'
    exact hwindow ▸ hsound.keyed _ _ _ hbefore
  · intro domain' epoch' record' hrecord'
    obtain ⟨before, hbefore, -, -⟩ := hback _ _ _ hrecord'
    rw [hhighest]
    exact hsound.issued _ _ _ hbefore
  · intro domain' epoch₁ record₁ epoch₂ record₂ h₁ h₂ hlive₁ hlive₂ hne
    obtain ⟨before₁, hbefore₁, -, hsame₁⟩ := hback _ _ _ h₁
    obtain ⟨before₂, hbefore₂, -, hsame₂⟩ := hback _ _ _ h₂
    cases hsame₁ hlive₁
    cases hsame₂ hlive₂
    exact hsound.disjoint _ _ _ _ _ hbefore₁ hbefore₂ hlive₁ hlive₂ hne

end Commits

namespace KeyEpochRegistry

variable {r r' : KeyEpochRegistry} {domain : KeyDomain} {epoch epoch' atUnix : Nat}
  {record : EpochRecord} {call : LifecycleCall} {calls : List LifecycleCall}

theorem Sound.installed {window : EpochWindow} (hsound : Sound r)
    (hcommits : Commits r r' .installed window.domain window.epoch atUnix (some ⟨window, none⟩))
    (hgrows : ∀ previous ∈ r.highest window.domain, previous < window.epoch)
    (hdisjoint : ∀ epoch record, r.record window.domain epoch = some record →
      record.isRevoked = false → EpochRecord.SigningDisjoint ⟨window, none⟩ record)
    (hhighest : ∀ domain, r'.highest domain =
      if domain = window.domain then some window.epoch else r.highest domain) : Sound r' := by
  refine ⟨(hcommits.counts hsound).1, (hcommits.counts hsound).2, ?_, ?_, ?_⟩
  · intro domain epoch record hrecord
    rcases hcommits.record_cases hrecord with ⟨rfl, rfl, hsome⟩ | ⟨-, hold⟩
    · cases hsome
      exact ⟨rfl, rfl⟩
    · exact hsound.keyed _ _ _ hold
  · intro domain epoch record hrecord
    rw [hhighest]
    rcases hcommits.record_cases hrecord with ⟨rfl, rfl, -⟩ | ⟨-, hold⟩
    · exact ⟨window.epoch, if_pos rfl, le_rfl⟩
    · obtain ⟨highest, hprevious, hle⟩ := hsound.issued _ _ _ hold
      split
      · next hdomain =>
        exact ⟨window.epoch, rfl, hle.trans (hgrows highest (hdomain ▸ hprevious)).le⟩
      · exact ⟨highest, hprevious, hle⟩
  · intro domain epoch record epoch' record' hrecord hrecord' hlive hlive' hne
    rcases hcommits.record_cases hrecord with ⟨rfl, rfl, hsome⟩ | ⟨-, hold⟩ <;>
      rcases hcommits.record_cases hrecord' with ⟨hdomain, hepoch, hsome'⟩ | ⟨-, hold'⟩
    · exact absurd hepoch.symm hne
    · cases hsome
      exact hdisjoint _ _ hold' hlive'
    · cases hsome'
      exact (hdisjoint _ _ (hdomain ▸ hold) hlive).symm
    · exact hsound.disjoint _ _ _ _ _ hold hold' hlive hlive' hne

theorem Sound.moved (hsound : Sound r) (h : Moved r r') : Sound r' := by
  cases h with
  | installed window atUnix hcommits hnew hgrows hdisjoint hhighest =>
    exact hsound.installed hcommits hgrows hdisjoint hhighest
  | revoked domain epoch atUnix record hrecord hlive hcommits hhighest =>
    refine hcommits.sound_of_narrowed hsound hhighest hrecord fun record' hrecord' => ?_
    cases hrecord'
    exact ⟨rfl, rfl⟩
  | retired domain epoch atUnix record hrecord hover hcommits hhighest =>
    exact hcommits.sound_of_narrowed hsound hhighest hrecord nofun

theorem Sound.step (hsound : Sound r) (h : keyLifecycles.step r call r') : Sound r' := by
  rcases moved_of_step h with rfl | hmoved
  · exact hsound
  · exact hsound.moved hmoved

theorem sound (h : Reachable keyLifecycles r) : Sound r :=
  h.invariant (fun _ hinit => hinit ▸ sound_default) fun _ _ _ hsound hstep => hsound.step hstep

theorem Sound.run (hrun : Run keyLifecycles r calls r') (hsound : Sound r) : Sound r' :=
  hrun.invariant (fun _ _ _ hs hstep => hs.step hstep) hsound

def Signs (r : KeyEpochRegistry) (domain : KeyDomain) (epoch atUnix : Nat) : Prop :=
  ∃ record, r.record domain epoch = some record ∧ record.signsAt atUnix = true

theorem assertSigningAllowed_ok :
    r.assertSigningAllowed domain epoch atUnix = .ok () ↔ r.Signs domain epoch atUnix := by
  simp only [assertSigningAllowed, bind_ok, fetch_ok, require_ok, exists_const, Signs,
    EpochRecord.signsAt_iff]

theorem Sound.one_signer (hsound : Sound r) (h : r.Signs domain epoch atUnix)
    (h' : r.Signs domain epoch' atUnix) : epoch = epoch' := by
  obtain ⟨record, hrecord, hsigns⟩ := h
  obtain ⟨record', hrecord', hsigns'⟩ := h'
  by_contra hne
  exact (hsound.disjoint _ _ _ _ _ hrecord hrecord' (EpochRecord.signsAt_iff.mp hsigns).1
    (EpochRecord.signsAt_iff.mp hsigns').1 hne).not_both hsigns hsigns'

theorem nodup_entries (r : KeyEpochRegistry) (domain : KeyDomain) :
    ((r.entries domain).map Prod.fst).Nodup := by
  rw [entries]
  cases r.schedules.lookup domain with
  | none => exact List.nodup_nil
  | some schedule =>
    rw [Option.elim_some, items_keys]
    exact nodup_ordered _

def signers (r : KeyEpochRegistry) (domain : KeyDomain) (atUnix : Nat) : List (Nat × EpochRecord) :=
  (r.entries domain).filter fun entry => entry.2.signsAt atUnix

theorem mem_signers : (epoch, record) ∈ r.signers domain atUnix ↔
    r.record domain epoch = some record ∧ record.signsAt atUnix = true := by
  rw [signers, List.mem_filter, mem_entries]

theorem Sound.signers_cases (hsound : Sound r) (domain : KeyDomain) (atUnix : Nat) :
    r.signers domain atUnix = [] ∨
      ∃ epoch record, r.signers domain atUnix = [(epoch, record)] := by
  have hnodup : ((r.signers domain atUnix).map Prod.fst).Nodup :=
    (nodup_entries r domain).sublist (List.filter_sublist.map _)
  have hmem : ∀ epoch record, (epoch, record) ∈ r.signers domain atUnix →
      r.Signs domain epoch atUnix := fun epoch record h => ⟨record, mem_signers.mp h⟩
  generalize r.signers domain atUnix = found at hnodup hmem
  match found with
  | [] => exact .inl rfl
  | [(epoch, record)] => exact .inr ⟨epoch, record, rfl⟩
  | (epoch, record) :: (epoch', record') :: rest =>
    cases hsound.one_signer (hmem epoch record (by simp)) (hmem epoch' record' (by simp))
    simp at hnodup

theorem signingKey_none (h : r.signers domain atUnix = []) :
    r.signingKey domain atUnix = .error (.noSigningEpoch domain) := by
  have hrecords : ((r.entries domain).map Prod.snd).filter (·.signsAt atUnix) = [] := by
    rw [List.filter_map]
    exact congrArg (List.map Prod.snd) h
  rw [signingKey, hrecords]

theorem signingKey_one (h : r.signers domain atUnix = [(epoch, record)]) :
    r.signingKey domain atUnix = .ok record.window.key := by
  have hrecords : ((r.entries domain).map Prod.snd).filter (·.signsAt atUnix) = [record] := by
    rw [List.filter_map]
    exact congrArg (List.map Prod.snd) h
  rw [signingKey, hrecords]

theorem signingEpoch_eq (r : KeyEpochRegistry) (domain : KeyDomain) (atUnix : Nat) :
    (r.status domain atUnix).signingEpoch = (r.signers domain atUnix).head?.map Prod.fst := by
  rw [signers, List.head?_filter]
  rfl

theorem Sound.signing_views (hsound : Sound r) (domain : KeyDomain) (atUnix : Nat) :
    (r.signingKey domain atUnix = .error (.noSigningEpoch domain) ∧
        (r.status domain atUnix).signingEpoch = none ∧ ∀ epoch, ¬ r.Signs domain epoch atUnix) ∨
      ∃ epoch record, r.record domain epoch = some record ∧ record.signsAt atUnix = true ∧
        r.signingKey domain atUnix = .ok record.window.key ∧
        (r.status domain atUnix).signingEpoch = some epoch := by
  rcases hsound.signers_cases domain atUnix with hnone | ⟨epoch, record, hone⟩
  · refine .inl ⟨signingKey_none hnone, by rw [signingEpoch_eq, hnone]; rfl, ?_⟩
    rintro epoch ⟨record, hrecord⟩
    have hmem := mem_signers.mpr hrecord
    rw [hnone] at hmem
    cases hmem
  · obtain ⟨hrecord, hsigns⟩ := mem_signers.mp (hone ▸ List.mem_cons_self)
    exact .inr ⟨epoch, record, hrecord, hsigns, signingKey_one hone,
      by rw [signingEpoch_eq, hone]; rfl⟩

theorem Sound.key_domain (hsound : Sound r) (h : r.record domain epoch = some record) :
    record.window.key.domain = domain ∧ record.window.key.epoch = some epoch := by
  obtain ⟨hdomain, hepoch⟩ := hsound.keyed _ _ _ h
  exact ⟨hdomain, hepoch ▸ record.window.key_epoch⟩

end KeyEpochRegistry

end

section
namespace KeyEpochRegistry

variable {r r' : KeyEpochRegistry} {domain : KeyDomain} {epoch atUnix : Nat}
  {record : EpochRecord} {calls : List LifecycleCall}

def RevokedIn (r : KeyEpochRegistry) (domain : KeyDomain) (epoch : Nat) : Prop :=
  ∃ event ∈ r.audit, event.action = .revoked ∧ event.domain = domain ∧ event.epoch = epoch

def RetiredFrom (r : KeyEpochRegistry) (domain : KeyDomain) (epoch earliest : Nat) : Prop :=
  ∃ event ∈ r.audit, event.action = .retired ∧ event.domain = domain ∧ event.epoch = epoch ∧
    earliest ≤ event.atUnix

def Spent (r : KeyEpochRegistry) (domain : KeyDomain) (epoch : Nat) : Prop :=
  (∃ highest, r.highest domain = some highest ∧ epoch ≤ highest) ∧
    ∀ record, r.record domain epoch = some record → record.isRevoked = true

theorem Spent.moved (h : Spent r domain epoch) (hmoved : Moved r r') : Spent r' domain epoch := by
  obtain ⟨⟨highest, hhighest, hle⟩, hrevoked⟩ := h
  cases hmoved with
  | installed window atUnix hcommits hnew hgrows hdisjoint hhighest' =>
    constructor
    · rw [hhighest']
      split
      · next hdomain =>
        exact ⟨window.epoch, rfl, hle.trans (hgrows highest (hdomain ▸ hhighest)).le⟩
      · exact ⟨highest, hhighest, hle⟩
    · intro record hrecord
      rcases hcommits.record_cases hrecord with ⟨rfl, rfl, -⟩ | ⟨-, hold⟩
      · exact absurd (hgrows highest hhighest) (Nat.not_lt.mpr hle)
      · exact hrevoked record hold
  | revoked domain' epoch' atUnix record' hrecord' hlive hcommits hhighest' =>
    refine ⟨⟨highest, (hhighest' domain).trans hhighest, hle⟩, fun record hrecord => ?_⟩
    rcases hcommits.record_cases hrecord with ⟨-, -, hsome⟩ | ⟨-, hold⟩
    · rw [← Option.some.inj hsome]
      rfl
    · exact hrevoked record hold
  | retired domain' epoch' atUnix record' hrecord' hover hcommits hhighest' =>
    refine ⟨⟨highest, (hhighest' domain).trans hhighest, hle⟩, fun record hrecord => ?_⟩
    rcases hcommits.record_cases hrecord with ⟨-, -, hsome⟩ | ⟨-, hold⟩
    · cases hsome
    · exact hrevoked record hold

theorem Spent.run (hrun : Run keyLifecycles r calls r') (h : Spent r domain epoch) :
    Spent r' domain epoch := by
  refine hrun.invariant (I := fun r => Spent r domain epoch) (fun _ _ _ hs hstep => ?_) h
  rcases moved_of_step hstep with rfl | hmoved
  · exact hs
  · exact hs.moved hmoved

theorem Sound.spent_revoked (hsound : Sound r) (hrecord : r.record domain epoch = some record)
    (hrevoked : record.isRevoked = true) : Spent r domain epoch := by
  refine ⟨hsound.issued _ _ _ hrecord, fun record' hrecord' => ?_⟩
  cases Option.mem_unique hrecord hrecord'
  exact hrevoked

variable {expectedRevision : Nat} {mutation : LifecycleMutation}

theorem Sound.spent_of_revoke (hsound : Sound r)
    (h : r.revoke expectedRevision domain epoch atUnix = .ok (mutation, r')) :
    Spent r' domain epoch := by
  rcases revoke_ok h with ⟨record, hrecord, hrevoked, rfl⟩ | ⟨record, hrecord, -, hcommits, hhighest⟩
  · exact hsound.spent_revoked hrecord hrevoked
  · refine ⟨(hhighest domain).symm ▸ hsound.issued _ _ _ hrecord, fun record' hrecord' => ?_⟩
    rw [hcommits.record_self] at hrecord'
    rw [← Option.some.inj hrecord']
    rfl

theorem Sound.spent_of_retire (hsound : Sound r)
    (h : r.retire expectedRevision domain epoch atUnix = .ok (mutation, r')) :
    Spent r' domain epoch := by
  obtain ⟨record, hrecord, -, hcommits, hhighest⟩ := retire_ok h
  refine ⟨(hhighest domain).symm ▸ hsound.issued _ _ _ hrecord, fun record' hrecord' => ?_⟩
  rw [hcommits.record_self] at hrecord'
  cases hrecord'

def Kept (r : KeyEpochRegistry) (domain : KeyDomain) (epoch : Nat) (window : EpochWindow) : Prop :=
  r.record domain epoch = some ⟨window, none⟩ ∨ r.RevokedIn domain epoch ∨
    r.RetiredFrom domain epoch window.verifyUntilUnix

theorem RevokedIn.mono (h : r.RevokedIn domain epoch) (haudit : ∀ event ∈ r.audit, event ∈ r'.audit) :
    r'.RevokedIn domain epoch := by
  obtain ⟨event, hevent, hrest⟩ := h
  exact ⟨event, haudit event hevent, hrest⟩

theorem RetiredFrom.mono {earliest : Nat} (h : r.RetiredFrom domain epoch earliest)
    (haudit : ∀ event ∈ r.audit, event ∈ r'.audit) : r'.RetiredFrom domain epoch earliest := by
  obtain ⟨event, hevent, hrest⟩ := h
  exact ⟨event, haudit event hevent, hrest⟩

end KeyEpochRegistry

namespace Commits
open KeyEpochRegistry

variable {r r' : KeyEpochRegistry} {action : LifecycleAction} {domain : KeyDomain}
  {epoch atUnix : Nat} {kept : Option EpochRecord}
  (h : Commits r r' action domain epoch atUnix kept)
include h

theorem audit_mono : ∀ event ∈ r.audit, event ∈ r'.audit := by
  intro event hevent
  rw [h.audit]
  exact List.mem_append_left _ hevent

theorem audited : ⟨r.revision + 1, action, domain, epoch, atUnix⟩ ∈ r'.audit := by
  rw [h.audit]
  exact List.mem_append_right _ List.mem_cons_self

theorem record_other {domain' : KeyDomain} {epoch' : Nat}
    (hne : ¬ (domain' = domain ∧ epoch' = epoch)) :
    r'.record domain' epoch' = r.record domain' epoch' := by
  rw [h.record, if_neg hne]

end Commits

namespace KeyEpochRegistry

variable {r r' : KeyEpochRegistry} {domain : KeyDomain} {epoch atUnix : Nat}
  {record : EpochRecord} {call : LifecycleCall} {calls : List LifecycleCall} {key : KeyReference}
  {window : EpochWindow}

theorem Kept.moved (h : Kept r domain epoch window) (hmoved : Moved r r') :
    Kept r' domain epoch window := by
  rcases h with hrecord | hrevoked | hretired
  · cases hmoved with
    | installed window' atUnix hcommits hnew hgrows hdisjoint hhighest =>
      refine .inl ((hcommits.record_other ?_).trans hrecord)
      rintro ⟨rfl, rfl⟩
      rw [hnew] at hrecord
      cases hrecord
    | revoked domain' epoch' atUnix record' hrecord' hlive hcommits hhighest =>
      by_cases hsame : domain = domain' ∧ epoch = epoch'
      · exact .inr (.inl ⟨_, hcommits.audited, rfl, hsame.1.symm, hsame.2.symm⟩)
      · exact .inl ((hcommits.record_other hsame).trans hrecord)
    | retired domain' epoch' atUnix record' hrecord' hover hcommits hhighest =>
      by_cases hsame : domain = domain' ∧ epoch = epoch'
      · obtain ⟨rfl, rfl⟩ := hsame
        cases Option.mem_unique hrecord hrecord'
        have hexpired := hover.resolve_left (by simp [EpochRecord.isRevoked])
        exact .inr (.inr ⟨_, hcommits.audited, rfl, rfl, rfl, hexpired⟩)
      · exact .inl ((hcommits.record_other hsame).trans hrecord)
  · cases hmoved with
    | installed _ _ hcommits | revoked _ _ _ _ _ _ hcommits | retired _ _ _ _ _ _ hcommits =>
      exact .inr (.inl (hrevoked.mono hcommits.audit_mono))
  · cases hmoved with
    | installed _ _ hcommits | revoked _ _ _ _ _ _ hcommits | retired _ _ _ _ _ _ hcommits =>
      exact .inr (.inr (hretired.mono hcommits.audit_mono))

theorem Kept.run (hrun : Run keyLifecycles r calls r') (h : Kept r domain epoch window) :
    Kept r' domain epoch window := by
  refine hrun.invariant (I := fun r => Kept r domain epoch window) (fun _ _ _ hs hstep => ?_) h
  rcases moved_of_step hstep with rfl | hmoved
  · exact hs
  · exact hs.moved hmoved

theorem verificationKey_ok : r.verificationKey domain epoch atUnix = .ok key ↔
    ∃ record, r.record domain epoch = some record ∧ record.isRevoked = false ∧
      record.window.notBeforeUnix ≤ atUnix ∧ atUnix < record.window.verifyUntilUnix ∧
      record.window.key = key := by
  simp only [verificationKey, bind_ok, fetch_ok, require_ok, exists_const]
  constructor
  · rintro ⟨record, hrecord, hlive, hstart, hend, hkey⟩
    exact ⟨record, hrecord, hlive, hstart, hend, Except.ok.inj hkey⟩
  · rintro ⟨record, hrecord, hlive, hstart, hend, rfl⟩
    exact ⟨record, hrecord, hlive, hstart, hend, rfl⟩

structure Unusable (r : KeyEpochRegistry) (domain : KeyDomain) (epoch : Nat) : Prop where
  verification : ∀ atUnix key, r.verificationKey domain epoch atUnix ≠ .ok key
  signing : ∀ atUnix, r.assertSigningAllowed domain epoch atUnix ≠ .ok ()
  selected : ∀ atUnix key, r.signingKey domain atUnix = .ok key → key.epoch ≠ some epoch

theorem Sound.unusable (hsound : Sound r) (h : Spent r domain epoch) :
    Unusable r domain epoch := by
  have hsigns : ∀ atUnix, ¬ r.Signs domain epoch atUnix := by
    rintro atUnix ⟨record, hrecord, hsigns⟩
    have hlive := (EpochRecord.signsAt_iff.mp hsigns).1
    rw [h.2 record hrecord] at hlive
    cases hlive
  refine ⟨fun atUnix key hkey => ?_, fun atUnix hok => hsigns atUnix (assertSigningAllowed_ok.mp hok),
    fun atUnix key hkey hepoch => ?_⟩
  · obtain ⟨record, hrecord, hlive, -⟩ := verificationKey_ok.mp hkey
    rw [h.2 record hrecord] at hlive
    cases hlive
  · rcases hsound.signing_views domain atUnix with ⟨hnone, -⟩ | ⟨epoch', record, hrecord, hrecordSigns, hone, -⟩
    · rw [hnone] at hkey
      cases hkey
    · cases Except.ok.inj (hone.symm.trans hkey)
      cases Option.mem_unique (hsound.key_domain hrecord).2 hepoch
      exact hsigns atUnix ⟨record, hrecord, hrecordSigns⟩

def Faultless {α : Type} (x : Except LifecycleError α) : Prop :=
  Ensures (fun _ => True) (· ≠ .internalInvariant) x

theorem faultless_preflight (expectedRevision atUnix : Nat) :
    Faultless (r.preflightMutation expectedRevision atUnix) := by
  simp [Faultless, preflightMutation, validateRevision, validateClock, ensureAuditCapacity,
    nextRevision, ensures_bind, ensures_require, ensures_fetch]

theorem faultless_checkInstall (schedule : DomainSchedule) :
    Faultless (schedule.checkInstall window) := by
  simp only [Faultless, DomainSchedule.checkInstall, ensures_bind, ensures_require]
  cases schedule.highestEpochEver with
  | none => simp [ensures_ok]
  | some previous => simp [ensures_require]

theorem schedule_of_record (h : r.record domain epoch = some record) :
    ∃ schedule, r.schedules.lookup domain = some schedule ∧
      schedule.epochs.lookup epoch = some record := Option.bind_eq_some_iff.mp h

theorem faultless_perform (call : LifecycleCall) : Faultless (r.perform call) := by
  cases call with
  | install expectedRevision window installedAtUnix =>
    rw [perform, install, Faultless, ensures_bind]
    refine (faultless_preflight _ _).mono (fun next _ _ => ?_) fun _ => id
    rw [ensures_bind, ensures_require]
    refine ⟨fun _ => ?_, fun _ => by simp⟩
    rw [ensures_bind]
    cases r.schedules.lookup window.domain with
    | none => trivial
    | some schedule => exact (faultless_checkInstall schedule).mono (fun _ _ _ => trivial) fun _ => id
  | revoke expectedRevision domain epoch revokedAtUnix =>
    simp only [perform, revoke, Faultless, validateRevision, validateClock, ensures_bind,
      ensures_require, ensures_fetch]
    refine ⟨fun _ => ⟨fun _ => ⟨fun record hrecord => ?_, fun _ => by simp⟩, fun _ => by simp⟩,
      fun _ => by simp⟩
    obtain ⟨schedule, hschedule, hepoch⟩ := schedule_of_record hrecord
    split
    · trivial
    · simp only [ensureAuditCapacity, nextRevision, ensures_bind, ensures_require, ensures_fetch,
        hschedule, ensures_pure]
      simp [hepoch]
  | retire expectedRevision domain epoch retiredAtUnix =>
    rw [perform, retire, Faultless, ensures_bind]
    refine (faultless_preflight _ _).mono (fun next _ _ => ?_) fun _ => id
    simp only [ensures_bind, ensures_require, ensures_fetch]
    refine ⟨fun record hrecord => ⟨fun _ => ⟨fun schedule hschedule => ⟨fun _ => trivial, ?_⟩, ?_⟩,
      fun _ => by simp⟩, fun _ => by simp⟩
    · obtain ⟨found, hfound, hepoch⟩ := schedule_of_record hrecord
      cases Option.mem_unique hschedule hfound
      exact fun hmissing => absurd (mem_of_lookup hepoch) hmissing
    · intro hmissing
      obtain ⟨found, hfound, -⟩ := schedule_of_record hrecord
      rw [hmissing] at hfound
      cases hfound

structure ViewsAgree (r : KeyEpochRegistry) : Prop where
  oneSigner : ∀ domain epoch epoch' atUnix, r.assertSigningAllowed domain epoch atUnix = .ok () →
    r.assertSigningAllowed domain epoch' atUnix = .ok () → epoch = epoch'
  status : ∀ domain epoch atUnix, (r.status domain atUnix).signingEpoch = some epoch ↔
    r.assertSigningAllowed domain epoch atUnix = .ok ()
  signingKey : ∀ domain epoch atUnix,
    (∃ key, r.signingKey domain atUnix = .ok key ∧ key.epoch = some epoch) ↔
      r.assertSigningAllowed domain epoch atUnix = .ok ()
  keyed : ∀ domain atUnix key, r.signingKey domain atUnix = .ok key →
    key.domain = domain ∧ ∃ epoch, key.epoch = some epoch
  faultless : ∀ domain atUnix, r.signingKey domain atUnix ≠ .error .internalInvariant
  faultlessCalls : ∀ call, r.perform call ≠ .error .internalInvariant
  verifies : ∀ domain epoch atUnix key, r.signingKey domain atUnix = .ok key →
    key.epoch = some epoch → ∃ window : EpochWindow,
      r.record domain epoch = some ⟨window, none⟩ ∧
      window.notBeforeUnix ≤ atUnix ∧ atUnix < window.signUntilUnix ∧
      ∀ calls r', Run keyLifecycles r calls r' →
        (∀ atUnix', window.notBeforeUnix ≤ atUnix' → atUnix' < window.verifyUntilUnix →
          r'.verificationKey domain epoch atUnix' = .ok key) ∨
        r'.RevokedIn domain epoch ∨ r'.RetiredFrom domain epoch window.verifyUntilUnix
  revokedForever : ∀ expectedRevision domain epoch atUnix mutation revoked,
    r.revoke expectedRevision domain epoch atUnix = .ok (mutation, revoked) →
    ∀ calls r', Run keyLifecycles revoked calls r' → Unusable r' domain epoch
  retiredForever : ∀ expectedRevision domain epoch atUnix mutation retired,
    r.retire expectedRevision domain epoch atUnix = .ok (mutation, retired) →
    ∀ calls r', Run keyLifecycles retired calls r' → Unusable r' domain epoch
  revision : r.revision = r.audit.length

theorem Sound.status_iff (hsound : Sound r) (domain : KeyDomain) (epoch atUnix : Nat) :
    (r.status domain atUnix).signingEpoch = some epoch ↔ r.Signs domain epoch atUnix := by
  rcases hsound.signing_views domain atUnix with
    ⟨-, hstatus, hnone⟩ | ⟨epoch', record, hrecord, hsigns, -, hstatus⟩
  · rw [hstatus]
    exact ⟨nofun, fun h => absurd h (hnone epoch)⟩
  · rw [hstatus]
    constructor
    · intro h
      cases h
      exact ⟨record, hrecord, hsigns⟩
    · intro h
      rw [hsound.one_signer h ⟨record, hrecord, hsigns⟩]

theorem Sound.signingKey_ok (hsound : Sound r) : r.signingKey domain atUnix = .ok key ↔
    ∃ epoch record, r.record domain epoch = some record ∧ record.signsAt atUnix = true ∧
      record.window.key = key := by
  rcases hsound.signing_views domain atUnix with
    ⟨hkey, -, hnone⟩ | ⟨epoch, record, hrecord, hsigns, hkey, -⟩
  · rw [hkey]
    refine ⟨nofun, ?_⟩
    rintro ⟨epoch, record, hrecord, hsigns, -⟩
    exact absurd ⟨record, hrecord, hsigns⟩ (hnone epoch)
  · rw [hkey]
    constructor
    · intro h
      exact ⟨epoch, record, hrecord, hsigns, Except.ok.inj h⟩
    · rintro ⟨epoch', record', hrecord', hsigns', rfl⟩
      cases hsound.one_signer ⟨record, hrecord, hsigns⟩ ⟨record', hrecord', hsigns'⟩
      cases Option.mem_unique hrecord hrecord'
      rfl

theorem Sound.signingKey_iff (hsound : Sound r) (domain : KeyDomain) (epoch atUnix : Nat) :
    (∃ key, r.signingKey domain atUnix = .ok key ∧ key.epoch = some epoch) ↔
      r.Signs domain epoch atUnix := by
  constructor
  · rintro ⟨key, hkey, hepoch⟩
    obtain ⟨epoch', record, hrecord, hsigns, rfl⟩ := hsound.signingKey_ok.mp hkey
    cases Option.mem_unique (hsound.key_domain hrecord).2 hepoch
    exact ⟨record, hrecord, hsigns⟩
  · rintro ⟨record, hrecord, hsigns⟩
    exact ⟨record.window.key, hsound.signingKey_ok.mpr ⟨epoch, record, hrecord, hsigns, rfl⟩,
      (hsound.key_domain hrecord).2⟩

theorem Sound.verifies (hsound : Sound r) (hkey : r.signingKey domain atUnix = .ok key)
    (hepoch : key.epoch = some epoch) : ∃ window : EpochWindow,
      r.record domain epoch = some ⟨window, none⟩ ∧
      window.notBeforeUnix ≤ atUnix ∧ atUnix < window.signUntilUnix ∧
      ∀ calls r', Run keyLifecycles r calls r' →
        (∀ atUnix', window.notBeforeUnix ≤ atUnix' → atUnix' < window.verifyUntilUnix →
          r'.verificationKey domain epoch atUnix' = .ok key) ∨
        r'.RevokedIn domain epoch ∨ r'.RetiredFrom domain epoch window.verifyUntilUnix := by
  obtain ⟨epoch', ⟨window, revokedAtUnix⟩, hrecord, hsigns, rfl⟩ := hsound.signingKey_ok.mp hkey
  cases Option.mem_unique (hsound.key_domain hrecord).2 hepoch
  obtain ⟨hlive, hstart, hend⟩ := EpochRecord.signsAt_iff.mp hsigns
  obtain rfl : revokedAtUnix = none := by simpa [EpochRecord.isRevoked] using hlive
  refine ⟨window, hrecord, hstart, hend, fun calls r' hrun => ?_⟩
  rcases Kept.run hrun (.inl hrecord) with hkept | hrevoked | hretired
  · exact .inl fun atUnix' hfrom huntil =>
      verificationKey_ok.mpr ⟨_, hkept, rfl, hfrom, huntil, rfl⟩
  · exact .inr (.inl hrevoked)
  · exact .inr (.inr hretired)

theorem lifecycle_views_agree (hreach : Reachable keyLifecycles r) : ViewsAgree r := by
  have hsound := sound hreach
  have hstep : ∀ {call mutation next}, r.perform call = .ok (mutation, next) → Sound next := by
    intro call mutation next h
    rcases perform_ok h with rfl | hmoved
    · exact hsound
    · exact hsound.moved hmoved
  refine ⟨?_, ?_, ?_, ?_, ?_, ?_, ?_, ?_, ?_, hsound.revision⟩
  · intro domain epoch epoch' atUnix h h'
    exact hsound.one_signer (assertSigningAllowed_ok.mp h) (assertSigningAllowed_ok.mp h')
  · intro domain epoch atUnix
    rw [assertSigningAllowed_ok, hsound.status_iff]
  · intro domain epoch atUnix
    rw [assertSigningAllowed_ok, hsound.signingKey_iff]
  · intro domain atUnix key hkey
    obtain ⟨epoch, record, hrecord, -, rfl⟩ := hsound.signingKey_ok.mp hkey
    exact ⟨(hsound.key_domain hrecord).1, epoch, (hsound.key_domain hrecord).2⟩
  · intro domain atUnix herror
    rcases hsound.signing_views domain atUnix with ⟨hkey, -⟩ | ⟨epoch, record, -, -, hkey, -⟩ <;>
      · rw [hkey] at herror
        cases herror
  · intro call herror
    exact (faultless_perform call).of_error herror rfl
  · intro domain epoch atUnix key hkey hepoch
    exact hsound.verifies hkey hepoch
  · intro expectedRevision domain epoch atUnix mutation revoked h calls r' hrun
    have hnext : Sound revoked := hstep (show r.perform (.revoke ..) = _ from h)
    exact (hnext.run hrun).unusable ((hsound.spent_of_revoke h).run hrun)
  · intro expectedRevision domain epoch atUnix mutation retired h calls r' hrun
    have hnext : Sound retired := hstep (show r.perform (.retire ..) = _ from h)
    exact (hnext.run hrun).unusable ((hsound.spent_of_retire h).run hrun)

def sampleWindow : EpochWindow :=
  ⟨⟨.accessToken, "kms://token/access/1", some 1⟩, 10, 20, 30, rfl, by decide⟩

def sampleInstalled : KeyEpochRegistry := default.after (.install 0 sampleWindow 1)

theorem reachable_sampleInstalled : Reachable keyLifecycles sampleInstalled :=
  .run (.start rfl) (Run.single rfl)

theorem lifecycle_views_agree_sample :
    sampleInstalled.signingKey .accessToken 15 = .ok sampleWindow.key ∧
      ViewsAgree sampleInstalled :=
  ⟨by decide, lifecycle_views_agree reachable_sampleInstalled⟩

theorem signed_epoch_not_verified_at_the_end :
    Reachable keyLifecycles sampleInstalled ∧
      sampleInstalled.signingKey .accessToken 15 = .ok sampleWindow.key ∧
      sampleInstalled.verificationKey .accessToken 1 sampleWindow.verifyUntilUnix =
        .error (.epochVerificationExpired .accessToken 1) ∧
      (sampleInstalled.after (.retire 1 .accessToken 1 30)).verificationKey .accessToken 1 20 =
        .error (.epochUnknown .accessToken 1) ∧
      ∀ event ∈ (sampleInstalled.after (.retire 1 .accessToken 1 30)).audit,
        event.action ≠ .revoked :=
  ⟨reachable_sampleInstalled, by decide, by decide, by decide, by decide⟩

end KeyEpochRegistry

end

end TokenLifecycle
