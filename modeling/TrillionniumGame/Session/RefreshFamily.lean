import Mathlib.Data.Finset.Card
import TrillionniumGame.Foundation.Checks
import TrillionniumGame.Foundation.Runs
import TrillionniumGame.Persistence.Contracts

namespace Session
open Calls Checks Persistence Runs

structure SessionFamilyId where
  bytes : Bytes 16
  deriving DecidableEq

structure RefreshTokenId where
  bytes : Bytes 16
  deriving DecidableEq

def SessionFamilyId.isZero (id : SessionFamilyId) : Bool := zeroBytes id.bytes
def RefreshTokenId.isZero (id : RefreshTokenId) : Bool := zeroBytes id.bytes

abbrev SessionGeneration := UInt64

def SessionGeneration.checkedNext (generation : SessionGeneration) :
    Except DomainError SessionGeneration :=
  if generation.toNat + 1 < 2 ^ 64 then .ok (generation + 1)
  else .error ⟨.outOfRange, "counter_overflow", .never⟩

inductive RevocationReason where
  | logout | administrator | credentialReset | refreshReplay
  deriving DecidableEq

inductive FamilyStatus where
  | active
  | revoked (reason : RevocationReason)
  deriving DecidableEq

structure RotationReceipt where
  previousGeneration : SessionGeneration
  currentGeneration : SessionGeneration
  activeToken : RefreshTokenId

structure RefreshFamily where
  familyId : SessionFamilyId
  generation : SessionGeneration
  activeToken : RefreshTokenId
  consumedTokens : Finset RefreshTokenId
  status : FamilyStatus
  deriving DecidableEq

def replayDetected : DomainError := ⟨.unauthenticated, "refresh_replay_detected", .never⟩

namespace RefreshFamily

def new (familyId : SessionFamilyId) (activeToken : RefreshTokenId) :
    Except DomainError RefreshFamily := do
  require (familyId.isZero = false ∧ activeToken.isZero = false)
    ⟨.invalidArgument, "zero_session_family_or_token", .never⟩
  return ⟨familyId, 0, activeToken, ∅, .active⟩

def requireActive (family : RefreshFamily) : Except DomainError Unit :=
  require (family.status = .active) ⟨.unauthenticated, "session_family_revoked", .never⟩

def rotate (presentedToken replacementToken : RefreshTokenId) :
    Method DomainError RefreshFamily RotationReceipt := do
  let family ← read
  check family.requireActive
  check (require (presentedToken.isZero = false ∧ replacementToken.isZero = false)
    ⟨.invalidArgument, "zero_refresh_token", .never⟩)
  if presentedToken ∈ family.consumedTokens then
    write fun family => { family with status := .revoked .refreshReplay }
    check (.error replayDetected)
  else
    check (require (presentedToken = family.activeToken)
      ⟨.unauthenticated, "refresh_token_unknown", .never⟩)
    check (require (¬ (replacementToken = family.activeToken ∨
      replacementToken ∈ family.consumedTokens))
      ⟨.alreadyExists, "replacement_refresh_token_reused", .never⟩)
    let previousGeneration := family.generation
    let currentGeneration ← check previousGeneration.checkedNext
    write fun family => { family with
      consumedTokens := insert family.activeToken family.consumedTokens
      activeToken := replacementToken
      generation := currentGeneration }
    return ⟨previousGeneration, currentGeneration, replacementToken⟩

def revoke (reason : RevocationReason) (family : RefreshFamily) : RefreshFamily :=
  { family with status := .revoked reason }

structure Rotated (family : RefreshFamily) (presented replacement : RefreshTokenId)
    (family' : RefreshFamily) : Prop where
  active : family.status = .active
  current : presented = family.activeToken
  nonzero : replacement.isZero = false
  unconsumed : presented ∉ family.consumedTokens
  fresh : replacement ≠ presented ∧ replacement ∉ family.consumedTokens
  generation : family'.generation.toNat = family.generation.toNat + 1
  moved : family' = { family with
    consumedTokens := insert presented family.consumedTokens
    activeToken := replacement
    generation := family'.generation }

variable {family family' : RefreshFamily} {presented replacement : RefreshTokenId}

theorem checkedNext_ok {generation next : SessionGeneration}
    (h : generation.checkedNext = .ok next) : next.toNat = generation.toNat + 1 := by
  unfold SessionGeneration.checkedNext at h
  split at h
  · next hfits =>
    cases h
    rw [UInt64.toNat_add, UInt64.toNat_one, Nat.mod_eq_of_lt hfits]
  · cases h

theorem rotate_ensures (family : RefreshFamily) (presented replacement : RefreshTokenId) :
    Calls.Ensures (rotate presented replacement) family
      (fun _ family' => family.Rotated presented replacement family')
      (fun error family' => family' = family ∨ family.status = .active ∧
        presented ∈ family.consumedTokens ∧ error = replayDetected ∧
        family' = family.revoke .refreshReplay) := by
  unfold rotate
  rw [Calls.ensures_bind, Calls.ensures_read, Calls.ensures_bind, Calls.ensures_check,
    requireActive, ensures_require]
  refine ⟨fun hactive => ?_, fun _ => .inl rfl⟩
  rw [Calls.ensures_bind, Calls.ensures_check, ensures_require]
  refine ⟨fun hnonzero => ?_, fun _ => .inl rfl⟩
  split
  · next hconsumed =>
    rw [Calls.ensures_bind, Calls.ensures_write, Calls.ensures_check]
    exact .inr ⟨hactive, hconsumed, rfl, rfl⟩
  · next hunconsumed =>
    rw [Calls.ensures_bind, Calls.ensures_check, ensures_require]
    refine ⟨fun hpresented => ?_, fun _ => .inl rfl⟩
    rw [Calls.ensures_bind, Calls.ensures_check, ensures_require]
    refine ⟨fun hfresh => ?_, fun _ => .inl rfl⟩
    rw [not_or, ← hpresented] at hfresh
    dsimp only
    rw [Calls.ensures_bind, Calls.ensures_check]
    cases hnext : family.generation.checkedNext with
    | error error => exact .inl rfl
    | ok next =>
      rw [ensures_ok, Calls.ensures_bind, Calls.ensures_write, Calls.ensures_pure]
      exact ⟨hactive, hpresented, hnonzero.2, hunconsumed, hfresh, checkedNext_ok hnext, by rw [hpresented]⟩

theorem rotate_replayed (hactive : family.status = .active)
    (hpresented : presented.isZero = false) (hreplacement : replacement.isZero = false)
    (hconsumed : presented ∈ family.consumedTokens) :
    rotate presented replacement family = (.error replayDetected, family.revoke .refreshReplay) := by
  unfold rotate
  simp only [bind_apply, read_apply, check_apply, requireActive, require, hactive, hpresented,
    hreplacement, hconsumed, and_self, if_true]
  rfl

end RefreshFamily

inductive RefreshCall where
  | rotate (presented replacement : RefreshTokenId) (reply : Except DomainError RotationReceipt)
  | revoke (reason : RevocationReason)

def RefreshCall.run (call : RefreshCall) (family family' : RefreshFamily) : Prop :=
  match call with
  | .rotate presented replacement reply =>
    RefreshFamily.rotate presented replacement family = (reply, family')
  | .revoke reason => family.revoke reason = family'

def refreshFamily : System RefreshFamily RefreshCall where
  init family := ∃ familyId token, RefreshFamily.new familyId token = .ok family
  step family call family' := call.run family family'

def RefreshCall.rotated : RefreshCall → Option RefreshTokenId
  | .rotate presented _ (.ok _) => some presented
  | _ => none

def rotatedTokens (calls : List RefreshCall) : List RefreshTokenId :=
  calls.filterMap RefreshCall.rotated

namespace RefreshFamily

variable {family family' start : RefreshFamily} {call : RefreshCall} {calls : List RefreshCall}

inductive Stepped (family : RefreshFamily) : RefreshCall → RefreshFamily → Prop
  | rotated {presented replacement : RefreshTokenId} {receipt : RotationReceipt}
      {family' : RefreshFamily} (h : family.Rotated presented replacement family') :
      Stepped family (.rotate presented replacement (.ok receipt)) family'
  | replayed {presented replacement : RefreshTokenId} (hactive : family.status = .active)
      (hconsumed : presented ∈ family.consumedTokens) :
      Stepped family (.rotate presented replacement (.error replayDetected))
        (family.revoke .refreshReplay)
  | refused {presented replacement : RefreshTokenId} {error : DomainError} :
      Stepped family (.rotate presented replacement (.error error)) family
  | revoked {reason : RevocationReason} : Stepped family (.revoke reason) (family.revoke reason)

theorem stepped (hstep : refreshFamily.step family call family') : Stepped family call family' := by
  cases call with
  | revoke reason =>
    obtain rfl : family.revoke reason = family' := hstep
    exact .revoked
  | rotate presented replacement reply =>
    have hensures := rotate_ensures family presented replacement reply family' hstep
    cases reply with
    | ok receipt => exact .rotated hensures
    | error error =>
      rcases hensures with rfl | ⟨hactive, hconsumed, rfl, rfl⟩
      · exact .refused
      · exact .replayed hactive hconsumed

structure Tracked (calls : List RefreshCall) (family : RefreshFamily) : Prop where
  nodup : (rotatedTokens calls).Nodup
  consumed : (rotatedTokens calls).toFinset = family.consumedTokens
  generation : family.generation.toNat = (rotatedTokens calls).length
  unconsumed : family.activeToken ∉ family.consumedTokens
  nonzero : family.activeToken.isZero = false ∧ ∀ token ∈ family.consumedTokens, token.isZero = false

theorem new_ok {familyId : SessionFamilyId} {token : RefreshTokenId}
    (h : new familyId token = .ok family) :
    token.isZero = false ∧ family = ⟨familyId, 0, token, ∅, .active⟩ := by
  obtain ⟨_, hnonzero, hfamily⟩ := bind_ok.mp h
  exact ⟨(require_ok.mp hnonzero).2, (Except.ok.inj hfamily).symm⟩

theorem tracked_start (hinit : refreshFamily.init family) : Tracked [] family := by
  obtain ⟨familyId, token, hnew⟩ := hinit
  obtain ⟨hnonzero, rfl⟩ := new_ok hnew
  exact ⟨List.nodup_nil, rfl, rfl, Finset.notMem_empty _, hnonzero, nofun⟩

theorem rotatedTokens_snoc (calls : List RefreshCall) (call : RefreshCall) :
    rotatedTokens (calls ++ [call]) = rotatedTokens calls ++ call.rotated.toList := by
  rw [rotatedTokens, List.filterMap_append, rotatedTokens]
  congr 1

theorem Tracked.same (h : Tracked calls family) (hquiet : call.rotated = none)
    (hgeneration : family'.generation = family.generation)
    (hactive : family'.activeToken = family.activeToken)
    (hconsumed : family'.consumedTokens = family.consumedTokens) :
    Tracked (calls ++ [call]) family' := by
  have hrotated : rotatedTokens (calls ++ [call]) = rotatedTokens calls := by
    rw [rotatedTokens_snoc, hquiet]
    exact List.append_nil _
  constructor
  · rw [hrotated]
    exact h.nodup
  · rw [hrotated, hconsumed]
    exact h.consumed
  · rw [hrotated, hgeneration]
    exact h.generation
  · rw [hactive, hconsumed]
    exact h.unconsumed
  · rw [hactive, hconsumed]
    exact h.nonzero

theorem Tracked.rotated (h : Tracked calls family) {presented replacement : RefreshTokenId}
    {receipt : RotationReceipt} (hrotated : family.Rotated presented replacement family') :
    Tracked (calls ++ [.rotate presented replacement (.ok receipt)]) family' := by
  have hone : rotatedTokens (calls ++ [.rotate presented replacement (.ok receipt)]) =
      rotatedTokens calls ++ [presented] := rotatedTokens_snoc calls _
  have hfresh : presented ∉ rotatedTokens calls := by
    rw [← List.mem_toFinset, h.consumed]
    exact hrotated.unconsumed
  have hconsumed : family'.consumedTokens = insert presented family.consumedTokens := by
    rw [hrotated.moved]
  have hactive : family'.activeToken = replacement := by rw [hrotated.moved]
  constructor
  · rw [hone]
    exact List.concat_eq_append ▸ h.nodup.concat hfresh
  · rw [hone, List.toFinset_append, h.consumed, hconsumed, Finset.insert_eq, Finset.union_comm]
    rfl
  · rw [hone, List.length_append, hrotated.generation, h.generation]
    rfl
  · rw [hactive, hconsumed, Finset.mem_insert, not_or]
    exact hrotated.fresh
  · rw [hactive, hconsumed]
    refine ⟨hrotated.nonzero, fun token htoken => ?_⟩
    rcases Finset.mem_insert.mp htoken with rfl | hold
    · rw [hrotated.current]
      exact h.nonzero.1
    · exact h.nonzero.2 token hold

theorem Tracked.next (h : Tracked calls family) (hstep : refreshFamily.step family call family') :
    Tracked (calls ++ [call]) family' := by
  cases stepped hstep with
  | rotated hrotated => exact h.rotated hrotated
  | replayed _ _ | refused | revoked => exact h.same rfl rfl rfl rfl

theorem tracked_run (hinit : refreshFamily.init start) (hrun : Run refreshFamily start calls family) :
    Tracked calls family := by
  induction hrun with
  | nil => exact tracked_start hinit
  | snoc _ hstep ih => exact ih.next hstep

def Follows (earlier later : RefreshFamily) : Prop :=
  (earlier.activeToken = later.activeToken ∨ earlier.activeToken ∈ later.consumedTokens) ∧
    earlier.consumedTokens ⊆ later.consumedTokens

theorem follows_refl (family : RefreshFamily) : Follows family family :=
  ⟨.inl rfl, Finset.Subset.refl _⟩

theorem follows_run (hrun : Run refreshFamily start calls family) : Follows start family := by
  induction hrun with
  | nil => exact follows_refl start
  | snoc _ hstep ih =>
    obtain ⟨hactive, hconsumed⟩ := ih
    cases stepped hstep with
    | rotated hrotated =>
      rw [hrotated.moved]
      refine ⟨.inr ?_, hconsumed.trans (Finset.subset_insert _ _)⟩
      rcases hactive with hsame | hin
      · rw [hsame, hrotated.current]
        exact Finset.mem_insert_self _ _
      · exact Finset.mem_insert_of_mem hin
    | replayed _ _ | refused | revoked => exact ⟨hactive, hconsumed⟩

structure Guarded (family : RefreshFamily) (call : RefreshCall) (family' : RefreshFamily) :
    Prop where
  revoked : family.status ≠ .active → family'.status ≠ .active ∧ call.rotated = none ∧
    family'.activeToken = family.activeToken ∧
    family'.consumedTokens = family.consumedTokens ∧ family'.generation = family.generation
  refused : ∀ presented replacement error, call = .rotate presented replacement (.error error) →
    error ≠ replayDetected → family' = family

theorem guarded (hstep : refreshFamily.step family call family') : Guarded family call family' := by
  cases stepped hstep with
  | rotated hrotated => exact ⟨fun hrevoked => absurd hrotated.active hrevoked, nofun⟩
  | replayed hactive _ =>
    refine ⟨fun hrevoked => absurd hactive hrevoked, fun _ _ error hcall hother => ?_⟩
    injection hcall with _ _ hreply
    exact absurd (Except.error.inj hreply).symm hother
  | refused => exact ⟨fun hrevoked => ⟨hrevoked, rfl, rfl, rfl, rfl⟩, fun _ _ _ _ _ => rfl⟩
  | revoked => exact ⟨fun _ => ⟨nofun, rfl, rfl, rfl, rfl⟩, nofun⟩

end RefreshFamily

open RefreshFamily

theorem refresh_replay_detection {start family : RefreshFamily} {calls : List RefreshCall}
    (hinit : refreshFamily.init start) (hrun : Run refreshFamily start calls family) :
    family.generation.toNat = family.consumedTokens.card ∧
      family.activeToken ∉ family.consumedTokens ∧ (rotatedTokens calls).Nodup ∧
      (∀ before after earlier replacement, calls = before ++ after →
        Run refreshFamily start before earlier → Run refreshFamily earlier after family →
        earlier.activeToken ≠ family.activeToken → family.status = .active →
        replacement.isZero = false →
        rotate earlier.activeToken replacement family =
          (.error replayDetected, family.revoke .refreshReplay)) ∧
      ∀ call family', refreshFamily.step family call family' → Guarded family call family' := by
  have htracked := tracked_run hinit hrun
  refine ⟨?_, htracked.unconsumed, htracked.nodup, ?_, fun call family' => guarded⟩
  · rw [htracked.generation, ← htracked.consumed, List.toFinset_card_of_nodup htracked.nodup]
  · intro before after earlier replacement _ hbefore hafter hformer hactive hreplacement
    have hnonzero := (tracked_run hinit hbefore).nonzero.1
    rcases (follows_run hafter).1 with hsame | hconsumed
    · exact absurd hsame hformer
    · exact rotate_replayed hactive hnonzero hreplacement hconsumed

def sampleToken (byte : UInt8) : RefreshTokenId := ⟨Vector.replicate 16 byte⟩

def sampleFamily : RefreshFamily := ⟨⟨Vector.replicate 16 1⟩, 0, sampleToken 2, ∅, .active⟩

def sampleRotation : RefreshCall := .rotate (sampleToken 2) (sampleToken 3) (.ok ⟨0, 1, sampleToken 3⟩)

def sampleRotated : RefreshFamily :=
  ⟨⟨Vector.replicate 16 1⟩, 1, sampleToken 3, {sampleToken 2}, .active⟩

theorem sample_init : refreshFamily.init sampleFamily :=
  ⟨⟨Vector.replicate 16 1⟩, sampleToken 2, by decide⟩

theorem sample_rotation : refreshFamily.step sampleFamily sampleRotation sampleRotated := rfl

theorem refresh_replay_detection_sample :
    rotate (sampleToken 2) (sampleToken 4) sampleRotated =
      (.error replayDetected, sampleRotated.revoke .refreshReplay) :=
  (refresh_replay_detection sample_init (.single sample_rotation)).2.2.2.1 [] [sampleRotation]
    sampleFamily (sampleToken 4) rfl (.nil _) (.single sample_rotation) (by decide) rfl (by decide)

theorem zero_replacement_hides_replay :
    ¬ ∀ start family earlier before after replacement, refreshFamily.init start →
      Run refreshFamily start before earlier → Run refreshFamily earlier after family →
      earlier.activeToken ≠ family.activeToken → family.status = .active →
      (rotate earlier.activeToken replacement family).2.status ≠ .active := by
  intro h
  refine h _ _ _ [] _ (sampleToken 0) sample_init (.nil _) (.single sample_rotation) (by decide) rfl ?_
  decide +kernel

end Session
