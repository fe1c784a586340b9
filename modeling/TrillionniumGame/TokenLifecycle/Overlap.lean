import Mathlib.Data.Finset.Max
import TrillionniumGame.TokenLifecycle.Agreement

namespace Intervals

variable {κ : Type*} [LinearOrder κ] {windows : List (κ × κ)} {limit : ℕ}

def covers (t : κ) (window : κ × κ) : Bool := window.1 ≤ t && t < window.2

theorem covers_iff {t : κ} {window : κ × κ} :
    covers t window = true ↔ window.1 ≤ t ∧ t < window.2 := by
  simp [covers]

theorem countP_le_of_starts (h : ∀ window ∈ windows, windows.countP (covers window.1) ≤ limit)
    (t : κ) : windows.countP (covers t) ≤ limit := by
  rcases (windows.filter (covers t)).toFinset.eq_empty_or_nonempty with hnone | hsome
  · rw [List.toFinset_eq_empty_iff] at hnone
    rw [List.countP_eq_length_filter, hnone]
    exact Nat.zero_le limit
  · obtain ⟨last, hlast, hmax⟩ := Finset.exists_max_image _ Prod.fst hsome
    rw [List.mem_toFinset, List.mem_filter] at hlast
    refine (List.countP_mono_left fun window hmem hcovers => ?_).trans (h last hlast.1)
    have hstart : window.1 ≤ last.1 :=
      hmax window (List.mem_toFinset.mpr (List.mem_filter.mpr ⟨hmem, hcovers⟩))
    have hstop : last.1 < window.2 :=
      (covers_iff.mp hlast.2).1.trans_lt (covers_iff.mp hcovers).2
    exact covers_iff.mpr ⟨hstart, hstop⟩

end Intervals

namespace TokenLifecycle
open Checks FiniteMap Intervals Runs
open Token (KeyDomain)

namespace DomainSchedule

variable {schedule : DomainSchedule} {window : EpochWindow} {atUnix : Nat} {epochs : Finset Nat}

theorem card_le_countP {p : EpochRecord → Bool} (h : ∀ epoch ∈ epochs, ∃ record,
    schedule.epochs.lookup epoch = some record ∧ p record = true) :
    epochs.card ≤ schedule.values.countP p := by
  have hsubset : epochs ⊆ (((items schedule.epochs).filter (p ∘ Prod.snd)).map
      Prod.fst).toFinset := by
    intro epoch hepoch
    obtain ⟨record, hrecord, hp⟩ := h epoch hepoch
    rw [List.mem_toFinset, List.mem_map]
    exact ⟨(epoch, record), List.mem_filter.mpr ⟨mem_items.mpr hrecord, hp⟩, rfl⟩
  calc epochs.card
      ≤ (((items schedule.epochs).filter (p ∘ Prod.snd)).map Prod.fst).length :=
        (Finset.card_le_card hsubset).trans (List.toFinset_card_le _)
    _ = schedule.values.countP p := by
        rw [List.length_map, ← List.countP_eq_length_filter, values, List.countP_map]

theorem countP_windows (schedule : DomainSchedule) (window : EpochWindow) (atUnix : Nat) :
    (schedule.verificationWindows window).countP (covers atUnix) =
      schedule.values.countP (·.verifiesAt atUnix) +
        if window.canVerifyAt atUnix then 1 else 0 := by
  rw [verificationWindows, List.countP_append, List.countP_map, List.countP_filter,
    List.countP_singleton]
  refine congrArg₂ (· + ·) (List.countP_congr fun record _ => ?_) rfl
  rw [EpochRecord.verifiesAt, Function.comp_apply, Bool.and_comm]
  rfl

theorem card_lt_of_check (hcheck : schedule.verificationOverlapExceeds window = false)
    (hwindow : window.canVerifyAt atUnix = true) (h : ∀ epoch ∈ epochs, ∃ record,
      schedule.epochs.lookup epoch = some record ∧ record.verifiesAt atUnix = true) :
    epochs.card < maxVerificationEpochsAtOnce := by
  have hstarts : ∀ sample ∈ schedule.verificationWindows window,
      (schedule.verificationWindows window).countP (covers sample.1) ≤
        maxVerificationEpochsAtOnce := by
    intro sample hsample
    have hnot := List.any_eq_false.mp hcheck sample hsample
    exact Nat.le_of_not_lt (of_decide_eq_false (Bool.eq_false_iff.mpr hnot))
  have hcount := countP_le_of_starts hstarts atUnix
  rw [countP_windows, if_pos hwindow] at hcount
  exact (card_le_countP h).trans_lt hcount

theorem checkInstall_overlap (h : schedule.checkInstall window = .ok ()) :
    schedule.verificationOverlapExceeds window = false := by
  simp only [checkInstall, bind_ok, require_ok, exists_const] at h
  obtain ⟨-, -, -, -, -, hoverlap⟩ := h
  exact hoverlap

end DomainSchedule

namespace KeyEpochRegistry

variable {r r' : KeyEpochRegistry} {domain : KeyDomain} {epoch atUnix expectedRevision : Nat}
  {window : EpochWindow} {mutation : LifecycleMutation}

def Verifies (r : KeyEpochRegistry) (domain : KeyDomain) (atUnix epoch : Nat) : Prop :=
  ∃ record, r.record domain epoch = some record ∧ record.verifiesAt atUnix = true

theorem verifies_of_key {key : KeyReference}
    (h : r.verificationKey domain epoch atUnix = .ok key) : r.Verifies domain atUnix epoch := by
  simp only [verificationKey, bind_ok, fetch_ok, require_ok, exists_const] at h
  obtain ⟨record, hrecord, hlive, hstart, hstop, -⟩ := h
  refine ⟨record, hrecord, ?_⟩
  simp [EpochRecord.verifiesAt, EpochWindow.canVerifyAt, hlive, hstart, hstop]

def OverlapBounded (r : KeyEpochRegistry) : Prop :=
  ∀ domain atUnix (epochs : Finset Nat), (∀ epoch ∈ epochs, r.Verifies domain atUnix epoch) →
    epochs.card ≤ maxVerificationEpochsAtOnce

theorem OverlapBounded.shrink (h : OverlapBounded r)
    (hfewer : ∀ domain atUnix epoch, r'.Verifies domain atUnix epoch →
      r.Verifies domain atUnix epoch) : OverlapBounded r' :=
  fun domain atUnix epochs hall =>
    h domain atUnix epochs fun epoch hmem => hfewer domain atUnix epoch (hall epoch hmem)

theorem verifies_fewer {action : LifecycleAction} {now : Nat} {kept : Option EpochRecord}
    (h : Commits r r' action domain epoch now kept)
    (hkept : ∀ record ∈ kept, record.isRevoked = true) (domain' : KeyDomain) (atUnix epoch' : Nat)
    (hverifies : r'.Verifies domain' atUnix epoch') : r.Verifies domain' atUnix epoch' := by
  obtain ⟨record, hrecord, hlive⟩ := hverifies
  rw [h.record] at hrecord
  split at hrecord
  · rw [EpochRecord.verifiesAt, hkept record hrecord] at hlive
    cases hlive
  · exact ⟨record, hrecord, hlive⟩

theorem OverlapBounded.install (h : OverlapBounded r)
    (hok : r.install expectedRevision window atUnix = .ok (mutation, r')) :
    OverlapBounded r' := by
  obtain ⟨hcommits, hcheck, -⟩ := install_commits hok
  intro domain now epochs hall
  have hearlier : ∀ epoch ∈ epochs, ¬ (domain = window.domain ∧ epoch = window.epoch) →
      r.Verifies domain now epoch := by
    intro epoch hmem hother
    obtain ⟨record, hrecord, hlive⟩ := hall epoch hmem
    rw [hcommits.record, if_neg hother] at hrecord
    exact ⟨record, hrecord, hlive⟩
  by_cases hadded : domain = window.domain ∧ window.epoch ∈ epochs
  · obtain ⟨rfl, hmem⟩ := hadded
    have hbefore : ∀ epoch ∈ epochs.erase window.epoch, r.Verifies window.domain now epoch :=
      fun epoch hold => hearlier epoch (Finset.mem_of_mem_erase hold) fun hsame =>
        Finset.ne_of_mem_erase hold hsame.2
    have hwindow : window.canVerifyAt now = true := by
      obtain ⟨record, hrecord, hlive⟩ := hall window.epoch hmem
      rw [hcommits.record, if_pos ⟨rfl, rfl⟩] at hrecord
      cases hrecord
      exact hlive
    rw [← Finset.card_erase_add_one hmem]
    cases hschedule : r.schedules.lookup window.domain with
    | none =>
      have hnone : epochs.erase window.epoch = ∅ := by
        refine Finset.eq_empty_of_forall_notMem fun epoch hold => ?_
        obtain ⟨record, hrecord, -⟩ := hbefore epoch hold
        rw [KeyEpochRegistry.record, hschedule] at hrecord
        cases hrecord
      rw [hnone]
      decide
    | some schedule =>
      rw [hschedule] at hcheck
      refine DomainSchedule.card_lt_of_check (schedule.checkInstall_overlap hcheck) hwindow ?_
      intro epoch hold
      obtain ⟨record, hrecord, hlive⟩ := hbefore epoch hold
      rw [record_eq hschedule] at hrecord
      exact ⟨record, hrecord, hlive⟩
  · refine h domain now epochs fun epoch hmem => hearlier epoch hmem ?_
    rintro ⟨hdomain, rfl⟩
    exact hadded ⟨hdomain, hmem⟩

theorem OverlapBounded.perform (h : OverlapBounded r) {call : LifecycleCall}
    (hok : r.perform call = .ok (mutation, r')) : OverlapBounded r' := by
  cases call with
  | install => exact h.install hok
  | revoke =>
    rcases revoke_ok hok with ⟨-, -, -, rfl⟩ | ⟨record, -, -, hcommits, -⟩
    · exact h
    · refine h.shrink (verifies_fewer hcommits fun kept hkept => ?_)
      cases hkept
      rfl
  | retire =>
    obtain ⟨-, -, -, hcommits, -⟩ := retire_ok hok
    exact h.shrink (verifies_fewer hcommits nofun)

theorem verification_overlap_bounded (h : Reachable keyLifecycles r) (domain : KeyDomain)
    (atUnix : Nat) (epochs : Finset Nat)
    (haccepted : ∀ epoch ∈ epochs, (r.verificationKey domain epoch atUnix).isOk = true) :
    epochs.card ≤ maxVerificationEpochsAtOnce := by
  have hbounded : OverlapBounded r := by
    refine h.invariant (fun r hinit domain now epochs hall => ?_) fun r call r' hr hstep => ?_
    · cases hinit
      rw [Finset.eq_empty_of_forall_notMem fun epoch hmem => nomatch (hall epoch hmem).choose_spec.1]
      exact Nat.zero_le _
    · change r' = r.after call at hstep
      rw [after] at hstep
      split at hstep
      · next mutation next hperform => exact hstep ▸ hr.perform hperform
      · exact hstep ▸ hr
  refine hbounded domain atUnix epochs fun epoch hmem => ?_
  obtain ⟨key, hkey⟩ := ok_of_isOk (haccepted epoch hmem)
  exact verifies_of_key hkey

def successorWindow : EpochWindow :=
  ⟨⟨.accessToken, "kms://token/access/2", some 2⟩, 20, 28, 40, rfl, by decide⟩

def sampleRotated : KeyEpochRegistry := sampleInstalled.after (.install 1 successorWindow 12)

theorem verification_overlap_bounded_sample :
    sampleRotated.signingKey .accessToken 25 = .ok successorWindow.key ∧
      (∀ epoch ∈ ({1, 2} : Finset Nat),
        (sampleRotated.verificationKey .accessToken epoch 25).isOk = true) ∧
      ({1, 2} : Finset Nat).card ≤ maxVerificationEpochsAtOnce := by
  have hok : ∀ epoch ∈ ({1, 2} : Finset Nat),
      (sampleRotated.verificationKey .accessToken epoch 25).isOk = true := by decide
  have hreachable : Reachable keyLifecycles sampleRotated :=
    .run reachable_sampleInstalled (Run.single rfl)
  exact ⟨by decide, hok, verification_overlap_bounded hreachable .accessToken 25 {1, 2} hok⟩

end KeyEpochRegistry

end TokenLifecycle
