import TrillionniumGame.PersistencePg.Lineages

namespace PersistencePg
open Checks Persistence Session Tables

section
def Ordinary (e : DomainError) : Prop :=
  e.code ≠ .dataLoss ∧ e.reason ≠ "refresh_compare_and_swap_failed" ∧
    e.reason ≠ "refresh_family_compare_and_swap_failed"

instance (e : DomainError) : Decidable (Ordinary e) := inferInstanceAs (Decidable (_ ∧ _ ∧ _))

variable {db db' : SessionTables} {lineages : List Lineage} {L : Lineage} {t : Held}

theorem ordinary_violation (violation : Violation) : Ordinary (classifyViolation violation) := by
  cases violation <;> decide

variable {value : Nat}

theorem toI64_of_lt (h : value < 2 ^ 63) : toI64 value = .ok value := if_pos h

theorem toI64_ok {column : Int} :
    toI64 value = .ok column ↔ value < 2 ^ 63 ∧ (value : Int) = column := by
  unfold toI64
  split
  · next h => exact ⟨fun heq => ⟨h, Except.ok.inj heq⟩, fun heq => congrArg Except.ok heq.2⟩
  · next h => exact ⟨nofun, fun heq => absurd heq.1 h⟩

theorem ensures_toI64 {Q : Int → Prop} {E : DomainError → Prop} :
    Ensures Q E (toI64 value) ↔
      (value < 2 ^ 63 → Q value) ∧ (2 ^ 63 ≤ value → E counterOverflow) := by
  unfold toI64
  split
  · next h => exact ⟨fun hQ => ⟨fun _ => hQ, fun hle => absurd h hle.not_gt⟩, fun hQ => hQ.1 h⟩
  · next h => exact ⟨fun hE => ⟨fun hlt => absurd hlt h, fun _ => hE⟩, fun hE => hE.2 (not_lt.mp h)⟩

theorem ensures_insertFamily (row : FamilyRow) : Ensures
    (fun db' => db' = { db with families := row :: db.families } ∧
      ∀ held ∈ db.families, held.familyId ≠ row.familyId)
    Ordinary (db.insertFamily row) := by
  refine ensures_bind.mpr (ensures_mapError.mpr ?_)
  cases hinsert : insert trnmSessionFamilies row db.families with
  | error violation => exact ordinary_violation violation
  | ok families =>
    obtain ⟨-, hfree, rfl⟩ := insert_ok.mp hinsert
    exact ⟨rfl, fun held hheld => of_decide_eq_false (hfree held hheld)⟩

theorem ensures_insertToken (row : TokenRow) : Ensures
    (fun db' => db' = { db with tokens := row :: db.tokens } ∧
      ∀ held ∈ db.tokens, ¬ (held.tokenDigest = row.tokenDigest ∨
        held.familyId = row.familyId ∧ held.tokenId = row.tokenId))
    Ordinary (db.insertToken row) := by
  refine ensures_bind.mpr (ensures_mapError.mpr ?_)
  cases hinsert : insert trnmRefreshTokens row db.tokens with
  | error violation => exact ordinary_violation violation
  | ok tokens =>
    obtain ⟨-, hfree, rfl⟩ := insert_ok.mp hinsert
    refine ensures_bind.mpr (ensures_require.mpr ⟨fun _ => ?_, fun _ => by decide⟩)
    exact ⟨rfl, fun held hheld => of_decide_eq_false (hfree held hheld)⟩

namespace Lineage

theorem record_open (hopen : L.ending = none) :
    L.record = ⟨L.family, L.user, L.past.length, some L.last.token.id, none, L.createdAtMs,
      L.last.issuedAtMs⟩ := by
  simp [record, hopen]

theorem newest_open (hopen : L.ending = none) :
    L.newest = ⟨L.past.length, L.last.token, L.last.issuedAtMs, none⟩ := by
  simp [newest, hopen]

end Lineage

namespace Holds

variable {time : Nat} (h : Holds db lineages)
include h

section

variable (hL : L ∈ lineages) (hopen : L.ending = none)
include hL hopen

theorem consume_early (hearly : time < L.last.issuedAtMs) (guard : TokenRow → Bool)
    (consumed : TokenRow → Option Int) (hguard : guard (L.newest.row L.family) = true)
    (hconsumed : consumed (L.newest.row L.family) = some (time : Int)) :
    db.consumeActiveToken L.family L.record.activeToken guard consumed =
      .error (classifyViolation .check) := by
  rw [Lineage.record_open hopen, SessionTables.consumeActiveToken, h.updateTokens_check hL]
  · rfl
  · intro row hrow
    simp only [Bool.and_eq_true, beq_iff_eq] at hrow
    exact hrow.1
  · simpa [Held.row, Lineage.newest] using hguard
  · refine decide_eq_false ?_
    rintro ⟨-, -, -, -, -, -, hlife⟩
    simp only [hconsumed] at hlife
    simp only [Held.row, Lineage.newest, Int.ofNat_le, Option.mem_some_iff,
      exists_eq_left'] at hlife
    omega

theorem closes (e : Ending) (hlater : L.last.issuedAtMs ≤ e.endedAtMs) (guard : TokenRow → Bool)
    (consumed : TokenRow → Option Int) (hguard : guard (L.newest.row L.family) = true)
    (hconsumed : consumed (L.newest.row L.family) = some (e.endedAtMs : Int)) :
    ∃ db₁ db₂, db.consumeActiveToken L.family L.record.activeToken guard consumed = .ok db₁ ∧
      db₁.closeFamily L.family (revocationReasonCode e.reason) e.endedAtMs = .ok db₂ ∧
      Holds db₂ (PersistencePg.swap lineages (L.finish e hlater)) := by
  have hwritten : ({ L.newest.row L.family with
      state := 1
      consumedAtMs := some (e.endedAtMs : Int) } : TokenRow) =
        (L.finish e hlater).newest.row L.family := by
    simp [Held.row, Lineage.newest, Lineage.finish, Held.state]
  obtain ⟨tokens, hupdate, hown, hothers, hdigests, howned⟩ :=
    h.updateTokens hL
      (q := fun row => row.familyId == asBytes L.family.bytes &&
        row.tokenId == asBytes L.last.token.id.bytes && guard row)
      (g := fun row => { row with
        state := 1
        consumedAtMs := consumed row })
      (by
        intro row hrow
        simp only [Bool.and_eq_true, beq_iff_eq] at hrow
        exact hrow.1)
      (by simpa [Held.row, Lineage.newest] using hguard)
      (fun _ => ⟨rfl, rfl⟩)
      (by
        rw [hconsumed, hwritten, row_check]
        exact (L.finish e hlater).held_times List.mem_cons_self)
  have hfamilies := h.updateFamilies hL (L.finish e hlater) rfl tokens
    (p := fun row => row.familyId == asBytes L.family.bytes)
    (f := fun row => { row with
      activeTokenId := none
      revokedReason := some (revocationReasonCode e.reason)
      updatedAtMs := (e.endedAtMs : Int) })
    (fun row hrow => beq_iff_eq.mp hrow) (beq_iff_eq.mpr rfl)
    (by simp [Lineage.familyRow, Lineage.record, Lineage.finish])
  refine ⟨⟨db.families, tokens⟩,
    ⟨(PersistencePg.swap lineages (L.finish e hlater)).map Lineage.familyRow, tokens⟩, ?_, ?_, ?_⟩
  · rw [Lineage.record_open hopen, SessionTables.consumeActiveToken, hupdate]
    rfl
  · rw [SessionTables.closeFamily, hfamilies]
    rfl
  · refine h.swap hL rfl rfl ?_ hothers ?_ howned
    · rw [hown, hconsumed, hwritten]
      rfl
    · rw [hdigests]
      exact h.digests

theorem revokeForReplay (hlater : L.last.issuedAtMs ≤ time) :
    ∃ db', db.revokeForReplay L.record time time =
        .ok ((L.finish ⟨.refreshReplay, time⟩ hlater).record, db') ∧
      Holds db' (PersistencePg.swap lineages (L.finish ⟨.refreshReplay, time⟩ hlater)) := by
  obtain ⟨db₁, db₂, hconsume, hclose, hholds⟩ := h.closes hL hopen ⟨.refreshReplay, time⟩ hlater
    (fun _ => true) (fun row => row.consumedAtMs.or (some (time : Int))) rfl
    (by rw [Lineage.newest_open hopen]; rfl)
  refine ⟨db₂, ?_, hholds⟩
  rw [SessionTables.revokeForReplay, show L.record.family = L.family from rfl, hconsume, ok_bind,
    show (2 : Int) = revocationReasonCode .refreshReplay from rfl, hclose, ok_bind]
  simp [Lineage.record, Lineage.finish, pure, Except.pure]

theorem revokeForReplay_early (hearly : time < L.last.issuedAtMs) :
    db.revokeForReplay L.record time time = .error (classifyViolation .check) := by
  rw [SessionTables.revokeForReplay, show L.record.family = L.family from rfl,
    h.consume_early hL hopen hearly _ _ rfl (by rw [Lineage.newest_open hopen]; rfl)]
  rfl

theorem consumeAndReplace {request : RotateRefreshToken}
    (hpresented : request.presented = L.last.token)
    (hlater : L.last.issuedAtMs ≤ request.rotatedAtMs) : Ensures (fun answer => ∃ hfresh hroom,
        answer.1 = .rotated
          (L.extend ⟨request.replacement, request.rotatedAtMs⟩ hopen hlater hfresh hroom).record ∧
        Holds answer.2 (PersistencePg.swap lineages
          (L.extend ⟨request.replacement, request.rotatedAtMs⟩ hopen hlater hfresh hroom)))
      Ordinary (db.consumeAndReplace request L.record request.rotatedAtMs) := by
  rw [SessionTables.consumeAndReplace, Lineage.record_open hopen, hpresented]
  refine ensures_bind.mpr (ensures_fetch.mpr ⟨fun next hnext => ?_, fun _ => by decide⟩)
  obtain ⟨-, rfl⟩ := checkedAdd_some.mp hnext
  refine ensures_bind.mpr (ensures_toI64.mpr ⟨fun hfits => ?_, fun _ => by decide⟩)
  have hwritten : ({ L.newest.row L.family with
      state := 1
      consumedAtMs := some (request.rotatedAtMs : Int) } : TokenRow) =
        Held.row L.family ⟨L.past.length, L.last.token, L.last.issuedAtMs,
          some request.rotatedAtMs⟩ := by
    simp [Held.row, Lineage.newest, Held.state]
  obtain ⟨tokens, hupdate, hown, hothers, hdigests, howned⟩ :=
    h.updateTokens hL
      (q := fun row => row.familyId == asBytes L.family.bytes &&
        row.tokenId == asBytes L.last.token.id.bytes && row.state == 0)
      (g := fun row => { row with
        state := 1
        consumedAtMs := some (request.rotatedAtMs : Int) })
      (by
        intro row hrow
        simp only [Bool.and_eq_true, beq_iff_eq] at hrow
        exact hrow.1)
      (by simp [Held.row, Lineage.newest_open hopen, Held.state])
      (fun _ => ⟨rfl, rfl⟩)
      (by
        rw [hwritten, row_check]
        rintro time htime
        exact Option.some.inj htime ▸ hlater)
  rw [hwritten] at hown
  rw [hupdate, ok_bind]
  refine ensures_bind.mpr (ensures_require.mpr ⟨fun _ => ?_, fun hne => absurd rfl hne⟩)
  refine ensures_bind.mpr ((ensures_insertToken _).mono ?_ fun _ => id)
  rintro _ - ⟨rfl, hfree⟩
  have hexpected : toI64 L.past.length = .ok (L.past.length : Int) :=
    toI64_of_lt (Nat.lt_of_succ_lt hfits)
  rw [hexpected, ok_bind]
  have hfresh : ∀ old ∈ L.last :: L.past, old.token.id ≠ request.replacement.id := by
    intro old hold heq
    have htoken : old.token ∈ L.held.map Held.token := by
      rw [L.held_token]
      exact List.mem_map_of_mem hold
    have hrow : ∃ row ∈ tokens.filter (ownRow L.family),
        row.familyId = asBytes L.family.bytes ∧ row.tokenId = asBytes old.token.id.bytes := by
      rw [hown]
      obtain ⟨t, ht, heq⟩ := List.mem_map.mp htoken
      rw [← heq]
      rcases List.mem_cons.mp ht with rfl | hspent
      · exact ⟨_, List.mem_cons_self, rfl, rfl⟩
      · exact ⟨_, List.mem_cons_of_mem _ (List.mem_map_of_mem hspent), rfl, rfl⟩
    obtain ⟨row, hrow, hfamily, hid⟩ := hrow
    refine hfree row (List.mem_of_mem_filter hrow) (.inr ⟨hfamily, ?_⟩)
    rw [hid, heq]
  have hfamilies := h.updateFamilies hL
    (L.extend ⟨request.replacement, request.rotatedAtMs⟩ hopen hlater hfresh hfits) rfl
    (Held.row L.family ⟨L.past.length + 1, request.replacement, request.rotatedAtMs, none⟩ ::
      tokens)
    (p := fun row => row.familyId == asBytes L.family.bytes &&
      row.generation == (L.past.length : Int) && row.revokedReason == none &&
      row.activeTokenId == some (asBytes L.last.token.id.bytes))
    (f := fun row => { row with
      generation := ((L.past.length + 1 : Nat) : Int)
      activeTokenId := some (asBytes request.replacement.id.bytes)
      updatedAtMs := (request.rotatedAtMs : Int) })
    (by
      intro row hrow
      simp only [Bool.and_eq_true, beq_iff_eq] at hrow
      exact hrow.1.1.1)
    (by simp [Lineage.familyRow, Lineage.record_open hopen])
    (by simp [Lineage.familyRow, Lineage.record, Lineage.extend, hopen])
  refine ensures_bind.mpr (ensures_of_ok hfamilies ?_)
  refine ensures_bind.mpr (ensures_require.mpr ⟨fun _ => ?_, fun hne => absurd rfl hne⟩)
  refine ⟨hfresh, hfits, ?_, ?_⟩
  · simp [Lineage.record, Lineage.extend, hopen]
  · refine h.swap hL rfl rfl ?_ ?_ ?_ ?_
    · refine (filter_row_cons _ _ tokens).trans ?_
      rw [hown]
      simp [Lineage.tokenRows, Lineage.held, Lineage.newest, Lineage.extend, hopen, spent]
    · exact fun family hne => (filter_row_cons_of_ne _ hne tokens).trans (hothers family hne)
    · rw [List.map_cons, List.nodup_cons, hdigests]
      refine ⟨fun hmem => ?_, h.digests⟩
      obtain ⟨row, hrow, hdigest⟩ := List.mem_map.mp (hdigests ▸ hmem)
      exact hfree row hrow (.inl hdigest)
    · exact List.forall_mem_cons.mpr ⟨⟨L, hL, rfl⟩, howned⟩

end

theorem createSessionFamily (request : CreateSessionFamily) :
    Ensures (fun answer => ∃ L : Lineage, (∀ M ∈ lineages, M.family ≠ L.family) ∧
        L.family = request.family ∧ L.past = [] ∧ L.ending = none ∧ answer.1 = L.record ∧
        Holds answer.2 (L :: lineages))
      Ordinary (db.createSessionFamily request) := by
  refine ensures_bind.mpr (ensures_bind.mpr (ensures_require.mpr ⟨fun hnamed => ?_,
    fun _ => by decide⟩))
  refine ensures_bind.mpr (ensures_toI64.mpr ⟨fun hfits => ?_, fun _ => by decide⟩)
  change Ensures _ _ (toI64 request.issuedAtMs >>= _)
  rw [toI64_of_lt hfits, ok_bind]
  refine ensures_bind.mpr ((ensures_insertFamily _).mono ?_ fun _ => id)
  rintro _ - ⟨rfl, hfamilies⟩
  refine ensures_bind.mpr ((ensures_insertToken _).mono ?_ fun _ => id)
  rintro _ - ⟨rfl, htokens⟩
  have hnew : ∀ M ∈ lineages, M.family ≠ request.family := by
    rintro M hM heq
    have hrow : M.familyRow ∈ db.families := by
      rw [h.families]
      exact List.mem_map_of_mem hM
    exact hfamilies _ hrow (congrArg (fun family : SessionFamilyId => asBytes family.bytes) heq)
  refine ⟨⟨request.family, request.user, request.issuedAtMs, ⟨request.refresh, request.issuedAtMs⟩,
    [], none, ⟨hnamed.1, hnamed.2.1⟩, by simp, by simp, by simp, by simp,
    by simp⟩, hnew, rfl, rfl, rfl, rfl,
    ?_, ?_, ?_, ?_, ?_⟩
  · rw [List.map_cons, ← h.families]
    rfl
  · rw [List.map_cons, List.nodup_cons]
    refine ⟨fun hmem => ?_, h.distinct⟩
    obtain ⟨M, hM, heq⟩ := List.mem_map.mp hmem
    exact hnew M hM heq
  · refine List.forall_mem_cons.mpr ⟨?_, fun M hM => ?_⟩
    · refine (filter_row_cons ⟨0, request.refresh, request.issuedAtMs, none⟩ request.family
        db.tokens).trans ?_
      rw [List.filter_eq_nil_iff.mpr]
      · rfl
      · intro row hrow hown
        obtain ⟨M, hM, hfamily⟩ := h.owned row hrow
        exact hnew M hM (family_bytes_inj.mp (hfamily.symm.trans (beq_iff_eq.mp hown)))
    · exact (filter_row_cons_of_ne ⟨0, request.refresh, request.issuedAtMs, none⟩ (hnew M hM)
        db.tokens).trans (h.tokens M hM)
  · refine List.forall_mem_cons.mpr ⟨⟨_, List.mem_cons_self, rfl⟩, fun row hrow => ?_⟩
    obtain ⟨M, hM, hfamily⟩ := h.owned row hrow
    exact ⟨M, List.mem_cons_of_mem _ hM, hfamily⟩
  · rw [List.map_cons, List.nodup_cons]
    refine ⟨fun hmem => ?_, h.digests⟩
    obtain ⟨row, hrow, hdigest⟩ := List.mem_map.mp hmem
    exact htokens row hrow (.inl hdigest)

end Holds

end

section
variable {db db' : SessionTables} {lineages : List Lineage} {L : Lineage} {t : Held}
  {request : RotateRefreshToken}

def Lineage.Retries (L : Lineage) (t : Held) (request : RotateRefreshToken) : Prop :=
  request.replacement = L.last.token ∧ t.generation + 1 = L.past.length ∧
    L.last.issuedAtMs ≤ request.rotatedAtMs

instance (L : Lineage) (t : Held) (request : RotateRefreshToken) :
    Decidable (L.Retries t request) := inferInstanceAs (Decidable (_ ∧ _ ∧ _))

theorem Lineage.retry_matches (hopen : L.ending = none)
    (ht : t ∈ spent L.last.issuedAtMs L.past) :
    committedRotationRetryMatches L.record t.snapshot request.replacement.id
        ((L.held.find? fun t' => t'.token = request.replacement).map Held.snapshot)
        request.rotatedAtMs = true ↔ L.Retries t request := by
  obtain ⟨hstate, consumed, hconsumed⟩ := spent_state ht
  have hlt := spent_lt ht
  have hcounted := L.counted
  have hnext : checkedAdd t.snapshot.generation 1 = some (t.generation + 1) :=
    checkedAdd_of_lt (show t.generation + 1 < 2 ^ 64 by omega)
  have hheld : t ∈ L.held := List.mem_cons_of_mem _ ht
  unfold committedRotationRetryMatches
  rw [hnext, show t.snapshot.consumedAtMs = some consumed from hconsumed]
  cases hfound : L.held.find? fun t' => t'.token = request.replacement with
  | none =>
    refine iff_of_false (by simp) ?_
    rintro ⟨hsame, -, -⟩
    exact List.find?_eq_none.mp hfound L.newest List.mem_cons_self
      (decide_eq_true hsame.symm)
  | some found =>
    have hmem := List.mem_of_find?_eq_some hfound
    have htoken : found.token = request.replacement := by simpa using List.find?_some hfound
    rw [Option.map_some, decide_eq_true_iff, record_open hopen]
    constructor
    · rintro ⟨-, -, hactive, -, -, hretry, hgeneration, hupdated, -⟩
      have hnewest : found = L.newest := by
        refine L.held_injective hmem List.mem_cons_self ?_
        rw [htoken]
        exact (Option.some.inj hactive).symm
      refine ⟨?_, hgeneration.symm, ?_⟩
      · rw [← htoken, hnewest]
        rfl
      · exact hupdated.le.trans hretry
    · rintro ⟨hsame, hgeneration, hretry⟩
      obtain rfl : found = L.newest := by
        refine L.held_injective hmem List.mem_cons_self ?_
        rw [htoken, hsame]
        rfl
      obtain rfl : consumed = L.last.issuedAtMs :=
        Option.mem_unique hconsumed (spent_newest ht hgeneration)
      refine ⟨hstate, rfl, congrArg (fun token => some token.id) hsame.symm,
        L.held_created hheld, L.held_times hheld _ hconsumed, hretry, hgeneration.symm, rfl,
        hgeneration.symm, ?_, rfl, ?_⟩
      · simp [Held.snapshot, Held.state, Lineage.newest, hopen, tokenStateActive]
      · simp [Held.snapshot, Lineage.newest, hopen]

theorem validateRotation_ok : validateRotation request = .ok () ↔
    (request.presented.id.isZero = false ∧ request.presented.digest.isZero = false ∧
      request.replacement.id.isZero = false ∧ request.replacement.digest.isZero = false ∧
      request.presented.id ≠ request.replacement.id ∧
      request.presented.digest ≠ request.replacement.digest) ∧
    request.rotatedAtMs < 2 ^ 63 := by
  unfold validateRotation
  constructor
  · intro h
    obtain ⟨_, hvalid, h⟩ := bind_ok.mp h
    obtain ⟨_, htime, _⟩ := bind_ok.mp h
    exact ⟨require_ok.mp hvalid, (toI64_ok.mp htime).1⟩
  · rintro ⟨hvalid, htime⟩
    rw [require_of hvalid, toI64_of_lt htime]
    rfl

theorem validateRotation_error {e : DomainError} (h : validateRotation request = .error e) :
    Ordinary e := by
  have hensures : Ensures (fun _ => True) Ordinary (validateRotation request) := by
    refine ensures_bind.mpr (ensures_require.mpr ⟨fun _ => ?_, fun _ => by decide⟩)
    exact ensures_bind.mpr (ensures_toI64.mpr ⟨fun _ => trivial, fun _ => by decide⟩)
  exact hensures.of_error h

namespace Holds

theorem rotate_unknown (h : Holds db lineages) (hvalid : validateRotation request = .ok ())
    (hnone : ∀ L ∈ lineages, ∀ t ∈ L.held, t.token ≠ request.presented) :
    db.rotateRefreshToken request = .error unauthenticated := by
  have htime := (validateRotation_ok.mp hvalid).2
  rw [SessionTables.rotateRefreshToken, hvalid, ok_bind, toI64_of_lt htime, ok_bind,
    h.query_names_none hnone]
  rfl

theorem readReplacement (h : Holds db lineages) (hL : L ∈ lineages)
    (presented : RefreshTokenSnapshot) (replacement : RefreshTokenCredential) :
    db.readReplacement L.family presented replacement =
      .ok (if presented.state = tokenStateConsumed then
        (L.held.find? fun t => t.token = replacement).map Held.snapshot else none) := by
  unfold SessionTables.readReplacement
  split
  · rw [h.query_namesIn hL, ok_bind]
    refine transpose_map _ fun found hfound => ?_
    exact decodeSnapshot_row (L.held_times (List.mem_of_find?_eq_some hfound)) _ _ _ _
  · rfl

theorem rotate_eq (h : Holds db lineages) (hL : L ∈ lineages) (ht : t ∈ L.held)
    (hvalid : validateRotation request = .ok ()) (htoken : t.token = request.presented) :
    db.rotateRefreshToken request =
      if request.rotatedAtMs < t.issuedAtMs then .error (invalid "refresh_rotation_before_issue")
      else if L.ending ≠ none then .error unauthenticated
      else if t.consumedAtMs = none then db.consumeAndReplace request L.record request.rotatedAtMs
      else if L.Retries t request then .ok (.rotated L.record, db)
      else (db.revokeForReplay L.record request.rotatedAtMs request.rotatedAtMs).map
        (Prod.map .replayRevoked id) := by
  have htime := (validateRotation_ok.mp hvalid).2
  have htimes := L.held_times ht
  rw [SessionTables.rotateRefreshToken, hvalid, ok_bind, toI64_of_lt htime, ok_bind, ← htoken,
    h.query_names hL ht, ok_bind, fetch, Option.elim_some, ok_bind,
    show (t.row L.family).familyId = asBytes L.family.bytes from rfl,
    decodeSessionFamilyId_asBytes, ok_bind, h.query_own_family hL, ok_bind, fetch,
    Option.elim_some, ok_bind, h.query_namesIn hL, find_held ht, Option.map_some, ok_bind, fetch,
    Option.elim_some, ok_bind, decodeSnapshot_row htimes, ok_bind]
  by_cases hearly : request.rotatedAtMs < t.issuedAtMs
  · rw [if_pos hearly, require, if_neg (by exact not_le.mpr hearly)]
    rfl
  rw [if_neg hearly, require_of (by exact not_lt.mp hearly), ok_bind, h.readReplacement hL, ok_bind,
    decodeFamily_familyRow, ok_bind]
  by_cases hended : L.ending ≠ none
  · rw [if_pos hended, require, if_neg]
    · rfl
    · rintro ⟨hreason, -⟩
      exact hended (Option.map_eq_none_iff.mp hreason)
  have hopen := not_not.mp hended
  have hcreated : L.record.createdAtMs ≤ request.rotatedAtMs :=
    (L.held_created ht).trans (not_lt.mp hearly)
  rw [if_neg hended, require_of (by simp [Lineage.record, hopen]), ok_bind, require_of hcreated,
    ok_bind, SessionTables.settleRotation]
  rcases List.mem_cons.mp ht with rfl | hspent
  · have hstate : L.newest.snapshot.state ≠ tokenStateConsumed := by
      simp [Held.snapshot, Held.state, Lineage.newest, hopen, tokenStateConsumed]
    rw [if_neg hstate, if_neg, if_pos]
    · simp [Lineage.newest, hopen]
    · rw [← htoken]
      simp [Lineage.record, hopen, Lineage.newest, Held.snapshot]
  · obtain ⟨hstate, consumed, hconsumed⟩ := Lineage.spent_state hspent
    have hconsumedState : t.snapshot.state = tokenStateConsumed := hstate
    have hnot : ¬ t.consumedAtMs = none := by simp [hconsumed]
    rw [if_pos hconsumedState, if_pos hconsumedState, if_neg hnot]
    exact if_congr (Lineage.retry_matches hopen hspent) rfl rfl

variable {time : Nat} (h : Holds db lineages)
include h

theorem revoke_eq (hL : L ∈ lineages) {user : UserId} (reason : RevocationReason)
    (huser : user.isZero = false) : db.revokeSessionFamily L.family user reason time =
      if 2 ^ 63 ≤ time then .error counterOverflow
      else if ¬ (L.user = user ∧ L.createdAtMs ≤ time) then .error unauthenticated
      else if L.ending ≠ none then .ok (L.record, db)
      else do
        let db ← db.consumeActiveToken L.family L.record.activeToken (fun row => row.state == 0)
          fun _ => some (time : Int)
        let db ← db.closeFamily L.family (revocationReasonCode reason) time
        return ({ L.record with
          activeToken := none
          revokedReason := some reason
          updatedAtMs := time }, db) := by
  rw [SessionTables.revokeSessionFamily, require_of ⟨L.named.1, huser⟩, ok_bind, toI64]
  by_cases hlarge : 2 ^ 63 ≤ time
  · rw [if_pos hlarge, if_neg (not_lt.mpr hlarge)]
    rfl
  rw [if_neg hlarge, if_pos (not_le.mp hlarge), ok_bind, h.query_own_family hL, ok_bind, fetch,
    Option.elim_some, ok_bind, decodeFamily_familyRow, ok_bind, require]
  by_cases howner : L.user = user ∧ L.createdAtMs ≤ time
  · rw [if_pos (by exact howner), if_neg (not_not.mpr howner), ok_bind]
    refine if_congr (not_congr ?_) rfl rfl
    exact Option.map_eq_none_iff
  · rw [if_neg (by exact howner), if_pos howner]
    rfl

theorem revoke_open (hL : L ∈ lineages) (hopen : L.ending = none) (reason : RevocationReason)
    (huser : L.user.isZero = false) (hfits : time < 2 ^ 63) (hlater : L.last.issuedAtMs ≤ time) :
    ∃ db', db.revokeSessionFamily L.family L.user reason time =
        .ok ((L.finish ⟨reason, time⟩ hlater).record, db') ∧
      Holds db' (PersistencePg.swap lineages (L.finish ⟨reason, time⟩ hlater)) := by
  obtain ⟨db₁, db₂, hconsume, hclose, hholds⟩ := h.closes hL hopen ⟨reason, time⟩ hlater
    (fun row => row.state == 0) (fun _ => some (time : Int))
    (by simp [Held.row, Lineage.newest_open hopen, Held.state]) rfl
  refine ⟨db₂, ?_, hholds⟩
  have hcreated : L.createdAtMs ≤ time := (L.created L.last List.mem_cons_self).trans hlater
  rw [h.revoke_eq hL reason huser, if_neg (not_le.mpr hfits), if_neg (not_not.mpr ⟨rfl, hcreated⟩),
    if_neg (not_not.mpr hopen), hconsume, ok_bind, hclose, ok_bind]
  simp [Lineage.record, Lineage.finish, pure, Except.pure]

theorem revoke_early (hL : L ∈ lineages) (hopen : L.ending = none) (reason : RevocationReason)
    (huser : L.user.isZero = false) (hfits : time < 2 ^ 63) (hcreated : L.createdAtMs ≤ time)
    (hearly : time < L.last.issuedAtMs) :
    db.revokeSessionFamily L.family L.user reason time = .error (classifyViolation .check) := by
  rw [h.revoke_eq hL reason huser, if_neg (not_le.mpr hfits), if_neg (not_not.mpr ⟨rfl, hcreated⟩),
    if_neg (not_not.mpr hopen), h.consume_early hL hopen hearly _ _ _ rfl]
  · rfl
  · simp [Held.row, Lineage.newest_open hopen, Held.state]

theorem revoke_unknown {family : SessionFamilyId} (hnone : ∀ L ∈ lineages, L.family ≠ family)
    (user : UserId) (reason : RevocationReason) (time : Nat) :
    Ensures (fun _ => False) Ordinary (db.revokeSessionFamily family user reason time) := by
  refine ensures_bind.mpr (ensures_require.mpr ⟨fun _ => ?_, fun _ => by decide⟩)
  refine ensures_bind.mpr (ensures_toI64.mpr ⟨fun _ => ?_, fun _ => by decide⟩)
  rw [h.query_family, List.find?_eq_none.mpr fun L hL => by simpa using hnone L hL]
  exact (by decide : Ordinary unauthenticated)

end Holds

end

end PersistencePg
