import TrillionniumGame.PersistencePg.SessionMoves

namespace PersistencePg
open Checks Persistence Runs Session Tables

section
def SessionReply.record : SessionReply → SessionFamilyRecord
  | .family record => record
  | .rotation (.rotated record) => record
  | .rotation (.replayRevoked record) => record

variable {db db' : SessionTables} {lineages lineages' : List Lineage} {L L' L'' : Lineage}
  {t : Held} {request : RotateRefreshToken} {call : SessionCall} {reply : SessionReply}

inductive Moved (db : SessionTables) (lineages : List Lineage) :
    SessionCall → SessionReply → SessionTables → Prop
  | born {request : CreateSessionFamily} {L : Lineage} {db' : SessionTables} :
      (∀ M ∈ lineages, M.family ≠ L.family) → Holds db' (L :: lineages) →
      Moved db lineages (.create request) (.family L.record) db'
  | retried {request : RotateRefreshToken} {L : Lineage} {t : Held} :
      L ∈ lineages → L.ending = none → t ∈ spent L.last.issuedAtMs L.past →
      t.token = request.presented → L.Retries t request →
      Moved db lineages (.rotate request) (.rotation (.rotated L.record)) db
  | rotated {request : RotateRefreshToken} {L : Lineage} {db' : SessionTables} (hL : L ∈ lineages)
      (hopen : L.ending = none) (hpresented : request.presented = L.last.token)
      (hlater : L.last.issuedAtMs ≤ request.rotatedAtMs)
      (hfresh : ∀ old ∈ L.last :: L.past, old.token.id ≠ request.replacement.id)
      (hroom : L.past.length + 1 < 2 ^ 63) :
      Holds db' (swap lineages
        (L.extend ⟨request.replacement, request.rotatedAtMs⟩ hopen hlater hfresh hroom)) →
      Moved db lineages (.rotate request) (.rotation (.rotated
        (L.extend ⟨request.replacement, request.rotatedAtMs⟩ hopen hlater hfresh hroom).record)) db'
  | replayed {request : RotateRefreshToken} {L : Lineage} {db' : SessionTables}
      (hL : L ∈ lineages) (hopen : L.ending = none)
      (hlater : L.last.issuedAtMs ≤ request.rotatedAtMs) :
      Holds db' (swap lineages (L.finish ⟨.refreshReplay, request.rotatedAtMs⟩ hlater)) →
      Moved db lineages (.rotate request) (.rotation (.replayRevoked
        (L.finish ⟨.refreshReplay, request.rotatedAtMs⟩ hlater).record)) db'
  | revoked {L : Lineage} {reason : RevocationReason} {time : Nat} {db' : SessionTables}
      (hL : L ∈ lineages) (hopen : L.ending = none) (hlater : L.last.issuedAtMs ≤ time) :
      Holds db' (swap lineages (L.finish ⟨reason, time⟩ hlater)) →
      Moved db lineages (.revoke L.family L.user reason time)
        (.family (L.finish ⟨reason, time⟩ hlater).record) db'
  | closed {L : Lineage} {reason : RevocationReason} {time : Nat} :
      L ∈ lineages → L.ending ≠ none →
      Moved db lineages (.revoke L.family L.user reason time) (.family L.record) db

namespace Holds

variable (h : Holds db lineages)
include h

theorem rotate_moves (request : RotateRefreshToken) :
    Ensures (fun answer => Moved db lineages (.rotate request) (.rotation answer.1) answer.2)
      Ordinary (db.rotateRefreshToken request) := by
  cases hvalid : validateRotation request with
  | error e =>
    rw [SessionTables.rotateRefreshToken, hvalid]
    exact validateRotation_error hvalid
  | ok _ =>
    by_cases hknown : ∃ L ∈ lineages, ∃ t ∈ L.held, t.token = request.presented
    · obtain ⟨L, hL, t, ht, htoken⟩ := hknown
      rw [h.rotate_eq hL ht hvalid htoken]
      split
      · exact (by decide : Ordinary (invalid "refresh_rotation_before_issue"))
      · next hearly =>
        split
        · exact (by decide : Ordinary unauthenticated)
        · next hopen =>
          replace hopen := not_not.mp hopen
          rcases List.mem_cons.mp ht with rfl | hspent
          · rw [if_pos (by simp [Lineage.newest, hopen])]
            refine (h.consumeAndReplace hL hopen htoken.symm (not_lt.mp hearly)).mono ?_
              fun _ => id
            rintro ⟨outcome, db'⟩ - ⟨hfresh, hroom, rfl, hholds⟩
            exact .rotated hL hopen htoken.symm (not_lt.mp hearly) hfresh hroom hholds
          · obtain ⟨-, consumed, hconsumed⟩ := Lineage.spent_state hspent
            rw [if_neg (by rw [hconsumed]; exact Option.some_ne_none _)]
            split
            · next hretries => exact .retried hL hopen hspent htoken hretries
            · rcases Nat.lt_or_ge request.rotatedAtMs L.last.issuedAtMs with hbefore | hlater
              · rw [h.revokeForReplay_early hL hopen hbefore]
                exact ordinary_violation .check
              · obtain ⟨db', hrun, hholds⟩ := h.revokeForReplay hL hopen hlater
                rw [hrun]
                exact .replayed hL hopen hlater hholds
    · rw [h.rotate_unknown hvalid fun L hL t ht htoken => hknown ⟨L, hL, t, ht, htoken⟩]
      exact (by decide : Ordinary unauthenticated)

theorem revoke_moves (family : SessionFamilyId) (user : UserId) (reason : RevocationReason)
    (time : Nat) : Ensures (fun answer =>
        Moved db lineages (.revoke family user reason time) (.family answer.1) answer.2)
      Ordinary (db.revokeSessionFamily family user reason time) := by
  by_cases hknown : ∃ L ∈ lineages, L.family = family
  · obtain ⟨L, hL, rfl⟩ := hknown
    cases huser : user.isZero with
    | true =>
      rw [SessionTables.revokeSessionFamily, require, if_neg (by simp [huser])]
      exact (by decide : Ordinary unauthenticated)
    | false =>
      by_cases hlarge : 2 ^ 63 ≤ time
      · rw [h.revoke_eq hL reason huser, if_pos hlarge]
        exact (by decide : Ordinary counterOverflow)
      by_cases howner : L.user = user ∧ L.createdAtMs ≤ time
      · obtain ⟨rfl, hcreated⟩ := howner
        by_cases hended : L.ending ≠ none
        · rw [h.revoke_eq hL reason huser, if_neg hlarge, if_neg (not_not.mpr ⟨rfl, hcreated⟩),
            if_pos hended]
          exact .closed hL hended
        · replace hended := not_not.mp hended
          rcases Nat.lt_or_ge time L.last.issuedAtMs with hbefore | hlater
          · rw [h.revoke_early hL hended reason huser (not_le.mp hlarge) hcreated hbefore]
            exact ordinary_violation .check
          · obtain ⟨db', hrun, hholds⟩ :=
              h.revoke_open hL hended reason huser (not_le.mp hlarge) hlater
            rw [hrun]
            exact .revoked hL hended hlater hholds
      · rw [h.revoke_eq hL reason huser, if_neg hlarge, if_pos howner]
        exact (by decide : Ordinary unauthenticated)
  · exact (h.revoke_unknown (fun L hL heq => hknown ⟨L, hL, heq⟩) user reason time).mono
      (fun _ _ hfalse => hfalse.elim) fun _ => id

theorem run_moves (call : SessionCall) :
    Ensures (fun answer => Moved db lineages call answer.1 answer.2) Ordinary (call.run db) := by
  cases call with
  | create request =>
    refine ensures_map.mpr ((h.createSessionFamily request).mono ?_ fun _ => id)
    rintro ⟨record, db'⟩ - ⟨L, hnew, -, -, -, rfl, hholds⟩
    exact .born hnew hholds
  | rotate request => exact ensures_map.mpr (h.rotate_moves request)
  | revoke family user reason time => exact ensures_map.mpr (h.revoke_moves family user reason time)

theorem moved (hrun : call.run db = .ok (reply, db')) :
    Moved db lineages call reply db' := (h.run_moves call).of_ok hrun

end Holds

structure Lineage.Before (L L' : Lineage) : Prop where
  family : L'.family = L.family
  grown : L.last :: L.past <:+ L'.last :: L'.past
  ended : L.ending ≠ none → L' = L

namespace Lineage

theorem Before.refl (L : Lineage) : L.Before L := ⟨rfl, List.suffix_rfl, fun _ => rfl⟩

theorem Before.trans (h : L.Before L') (h' : L'.Before L'') : L.Before L'' where
  family := h'.family.trans h.family
  grown := h.grown.trans h'.grown
  ended hended := by
    cases h.ended hended
    exact h'.ended hended

theorem before_extend (link : Link) (hopen : L.ending = none)
    (hlater : L.last.issuedAtMs ≤ link.issuedAtMs)
    (hfresh : ∀ old ∈ L.last :: L.past, old.token.id ≠ link.token.id)
    (hroom : L.past.length + 1 < 2 ^ 63) : L.Before (L.extend link hopen hlater hfresh hroom) where
  family := rfl
  grown := List.suffix_cons link _
  ended hended := absurd hopen hended

theorem before_finish (e : Ending) (hopen : L.ending = none)
    (hlater : L.last.issuedAtMs ≤ e.endedAtMs) : L.Before (L.finish e hlater) where
  family := rfl
  grown := List.suffix_rfl
  ended hended := absurd hopen hended

theorem Before.length_le (h : L.Before L') : L.past.length ≤ L'.past.length := by
  have hle := h.grown.length_le
  rw [List.length_cons, List.length_cons] at hle
  omega

def spentOf : List Link → List Held
  | [] => []
  | newest :: past => spent newest.issuedAtMs past

theorem spentOf_suffix {links links' : List Link} (h : links <:+ links') (ht : t ∈ spentOf links) :
    t ∈ spentOf links' := by
  induction links' with
  | nil =>
    rw [List.suffix_nil.mp h] at ht
    exact ht
  | cons newest past ih =>
    rcases List.suffix_cons_iff.mp h with rfl | hpast
    · exact ht
    · have hmem := ih hpast
      cases past with
      | nil => cases hmem
      | cons link older => exact List.mem_cons_of_mem _ hmem

theorem Before.spent (h : L.Before L') (ht : t ∈ PersistencePg.spent L.last.issuedAtMs L.past) :
    t ∈ PersistencePg.spent L'.last.issuedAtMs L'.past := spentOf_suffix h.grown ht

end Lineage

theorem before_swap (hdistinct : (lineages.map Lineage.family).Nodup) (hL : L ∈ lineages)
    (h : L.Before L') : ∀ M ∈ lineages, ∃ M' ∈ swap lineages L', M.Before M' := by
  intro M hM
  by_cases heq : M.family = L.family
  · cases List.inj_on_of_nodup_map hdistinct hM hL heq
    exact ⟨L', mem_swap_self hM h.family, h⟩
  · exact ⟨M, mem_swap_of_ne hM (h.family ▸ heq), .refl M⟩

theorem Moved.holds (h : Moved db lineages call reply db') (hholds : Holds db lineages) :
    ∃ lineages', Holds db' lineages' ∧ ∀ L ∈ lineages, ∃ L' ∈ lineages', L.Before L' := by
  cases h with
  | born _ hholds' => exact ⟨_, hholds', fun M hM => ⟨M, List.mem_cons_of_mem _ hM, .refl M⟩⟩
  | retried | closed => exact ⟨lineages, hholds, fun M hM => ⟨M, hM, .refl M⟩⟩
  | rotated hL hopen _ hlater hfresh hroom hholds' =>
    exact ⟨_, hholds', before_swap hholds.distinct hL
      (Lineage.before_extend _ hopen hlater hfresh hroom)⟩
  | replayed hL hopen hlater hholds' | revoked hL hopen hlater hholds' =>
    exact ⟨_, hholds', before_swap hholds.distinct hL (Lineage.before_finish _ hopen hlater)⟩

theorem Holds.step (h : Holds db lineages) (hstep : sessionDatabase.step db call db') :
    ∃ lineages', Holds db' lineages' ∧ ∀ L ∈ lineages, ∃ L' ∈ lineages', L.Before L' := by
  rcases hstep with rfl | ⟨reply, hrun⟩
  · exact ⟨lineages, h, fun M hM => ⟨M, hM, .refl M⟩⟩
  · exact (h.moved hrun).holds h

theorem Holds.run {calls : List SessionCall} (h : Holds db lineages)
    (hrun : Run sessionDatabase db calls db') :
    ∃ lineages', Holds db' lineages' ∧ ∀ L ∈ lineages, ∃ L' ∈ lineages', L.Before L' := by
  induction hrun with
  | nil => exact ⟨lineages, h, fun M hM => ⟨M, hM, .refl M⟩⟩
  | snoc _ hstep ih =>
    obtain ⟨lineages₁, h₁, hbefore₁⟩ := ih
    obtain ⟨lineages₂, h₂, hbefore₂⟩ := h₁.step hstep
    refine ⟨lineages₂, h₂, fun L hL => ?_⟩
    obtain ⟨L₁, hL₁, hle₁⟩ := hbefore₁ L hL
    obtain ⟨L₂, hL₂, hle₂⟩ := hbefore₂ L₁ hL₁
    exact ⟨L₂, hL₂, hle₁.trans hle₂⟩

theorem holds_empty : Holds ⟨[], []⟩ [] where
  families := rfl
  distinct := List.nodup_nil
  tokens _ hL := nomatch hL
  owned _ hrow := nomatch hrow
  digests := List.nodup_nil

theorem holds_of_reachable (h : Reachable sessionDatabase db) : ∃ lineages, Holds db lineages := by
  obtain ⟨db₀, calls, rfl, hrun⟩ := h
  obtain ⟨lineages, hholds, -⟩ := holds_empty.run hrun
  exact ⟨lineages, hholds⟩

def SessionTables.after (db : SessionTables) : List SessionCall → SessionTables
  | [] => db
  | call :: rest =>
    match call.run db with
    | .ok (_, db') => db'.after rest
    | .error _ => db.after rest

theorem run_after (db : SessionTables) (calls : List SessionCall) :
    Run sessionDatabase db calls (db.after calls) := by
  induction calls generalizing db with
  | nil => exact .nil db
  | cons call rest ih =>
    unfold SessionTables.after
    split
    · next reply db' hrun => exact .cons (.inr ⟨reply, hrun⟩) (ih db')
    · exact .cons (.inl rfl) (ih db)

theorem reachable_after (calls : List SessionCall) :
    Reachable sessionDatabase (SessionTables.after ⟨[], []⟩ calls) :=
  (Reachable.start rfl).run (run_after _ calls)

def sampleToken (byte : UInt8) : RefreshTokenCredential :=
  ⟨⟨Vector.replicate 16 byte⟩, ⟨Vector.replicate 32 byte⟩⟩

def sampleFamily : SessionFamilyId := ⟨Vector.replicate 16 1⟩

def sampleUser : UserId := ⟨Vector.replicate 16 2⟩

def sampleCreate : CreateSessionFamily := ⟨sampleFamily, sampleUser, sampleToken 3, 10⟩

def sampleRotation : RotateRefreshToken := ⟨sampleToken 3, sampleToken 4, 100⟩

end

section
variable {db db' : SessionTables} {lineages : List Lineage} {L L' : Lineage} {t : Held}
  {request : RotateRefreshToken} {record : SessionFamilyRecord} {family : SessionFamilyId}

structure SessionTables.Linear (db : SessionTables) : Prop where
  active : ∀ family ∈ db.families, family.revokedReason = none → ∃ token,
    (db.tokens.filter fun row => row.familyId == family.familyId && row.state == 0) = [token] ∧
      family.activeTokenId = some token.tokenId ∧ token.generation = family.generation
  counted : ∀ family ∈ db.families, ∀ generation : Int,
    (db.tokens.countP fun row =>
      row.familyId == family.familyId && row.generation == generation) =
        if 0 ≤ generation ∧ generation ≤ family.generation then 1 else 0
  chained : ∀ token ∈ db.tokens, ∀ next ∈ db.tokens, next.familyId = token.familyId →
    next.generation = token.generation + 1 →
      token.state = 1 ∧ token.consumedAtMs = some next.issuedAtMs

theorem Lineage.familyRow_revoked (L : Lineage) :
    L.familyRow.revokedReason = none ↔ L.ending = none := by
  rw [familyRow, Option.map_eq_none_iff, record, Option.map_eq_none_iff]

namespace Holds

variable (h : Holds db lineages)
include h

theorem family_cases {row : FamilyRow} (hrow : row ∈ db.families) :
    ∃ L ∈ lineages, L.familyRow = row := by
  rw [h.families] at hrow
  exact List.mem_map.mp hrow

theorem own_tokens (hL : L ∈ lineages) (p : TokenRow → Bool) :
    (db.tokens.filter fun row => row.familyId == asBytes L.family.bytes && p row) =
      L.tokenRows.filter p := by
  rw [← h.tokens L hL, List.filter_filter]
  exact List.filter_congr fun row _ => Bool.and_comm _ _

theorem active_row (hL : L ∈ lineages) (hopen : L.ending = none) :
    (db.tokens.filter fun row => row.familyId == asBytes L.family.bytes && row.state == 0) =
      [L.newest.row L.family] := by
  rw [h.own_tokens hL fun row => row.state == 0, Lineage.tokenRows, Lineage.held, List.map_cons,
    List.filter_cons_of_pos (by simp [Held.row, Held.state, Lineage.newest, hopen]),
    List.filter_eq_nil_iff.mpr]
  intro row hrow hstate
  obtain ⟨t, ht, rfl⟩ := List.mem_map.mp hrow
  have hone : (t.row L.family).state = 1 := (Lineage.spent_state ht).1
  rw [hone] at hstate
  cases hstate

theorem linear : db.Linear where
  active row hrow hreason := by
    obtain ⟨L, hL, rfl⟩ := h.family_cases hrow
    have hopen := L.familyRow_revoked.mp hreason
    exact ⟨L.newest.row L.family, h.active_row hL hopen,
      by simp [Lineage.familyRow, Lineage.record, hopen, Held.row, Lineage.newest], rfl⟩
  counted row hrow generation := by
    obtain ⟨L, hL, rfl⟩ := h.family_cases hrow
    have hcount : (db.tokens.countP fun row =>
        row.familyId == asBytes L.family.bytes && row.generation == generation) =
          ((L.held.map Held.generation).map Nat.cast).count generation := by
      rw [List.countP_eq_length_filter, h.own_tokens hL, ← List.countP_eq_length_filter,
        Lineage.tokenRows, List.countP_map, List.map_map, List.count, List.countP_map]
      rfl
    have hnodup : ((L.held.map Held.generation).map (Nat.cast : Nat → Int)).Nodup := by
      refine List.Nodup.map (fun _ _ => Int.ofNat_inj.mp) ?_
      rw [L.held_generation]
      exact List.nodup_reverse.mpr List.nodup_range
    refine hcount.trans ?_
    rw [List.Nodup.count hnodup, L.held_generation]
    refine if_congr ?_ rfl rfl
    simp only [List.mem_map, List.mem_reverse, List.mem_range, Lineage.familyRow]
    constructor
    · rintro ⟨g, hg, rfl⟩
      omega
    · rintro ⟨hpos, hle⟩
      exact ⟨generation.toNat, by omega, by omega⟩
  chained token htoken next hnext hfamily hgeneration := by
    obtain ⟨L, hL, t, ht, rfl⟩ := h.row_cases htoken
    obtain ⟨L', hL', t', ht', rfl⟩ := h.row_cases hnext
    obtain rfl := h.unique_family hL' hL (family_bytes_inj.mp hfamily)
    have hsucc : t'.generation = t.generation + 1 := Int.ofNat_inj.mp hgeneration
    obtain ⟨hstate, hconsumed⟩ := L'.held_chained ht ht' hsucc
    exact ⟨hstate, congrArg (Option.map Nat.cast) hconsumed⟩

theorem loadSessionFamily (hfamily : family.isZero = false) : db.loadSessionFamily family =
      .ok ((lineages.find? fun L => L.family = family).map Lineage.record) := by
  rw [SessionTables.loadSessionFamily, require_of hfamily, ok_bind, h.query_family, ok_bind]
  refine transpose_map _ fun L hL => ?_
  have hfound : L.family = family := by simpa using List.find?_some hL
  rw [← hfound, decodeFamily_familyRow]

theorem verifies (family : SessionFamilyId) (user : UserId) (generation : Nat) :
    Ensures (fun record => ∃ L ∈ lineages, L.family = family ∧ record = L.record ∧
        L.past.length = generation ∧ L.ending = none)
      Ordinary (db.verifyAccessSession family user generation) := by
  refine ensures_bind.mpr (ensures_require.mpr ⟨fun hnamed => ?_, fun _ => by decide⟩)
  rw [h.loadSessionFamily hnamed.1, ok_bind]
  refine ensures_bind.mpr (ensures_fetch.mpr ⟨fun record hrecord => ?_, fun _ => by decide⟩)
  obtain ⟨L, hL, rfl⟩ := Option.map_eq_some_iff.mp hrecord
  refine ensures_bind.mpr (ensures_require.mpr ⟨fun hlive => ?_, fun _ => by decide⟩)
  obtain ⟨-, hgeneration, -, hreason⟩ := hlive
  exact ⟨L, List.mem_of_find?_eq_some hL, by simpa using List.find?_some hL, rfl, hgeneration,
    Option.map_eq_none_iff.mp hreason⟩

theorem loads (family : SessionFamilyId) :
    Ensures (fun _ => True) Ordinary (db.loadSessionFamily family) := by
  cases hfamily : family.isZero with
  | true =>
    rw [SessionTables.loadSessionFamily, require, if_neg (by simp [hfamily])]
    exact (by decide : Ordinary (invalid "invalid_session_family_id"))
  | false =>
    rw [h.loadSessionFamily hfamily]
    trivial

theorem rotation_effect (hrun : db.rotateRefreshToken request = .ok (.rotated record, db'))
    (hne : db' ≠ db) :
    ∃ L lineages', Holds db' lineages' ∧ L ∈ lineages' ∧ L.record = record ∧ L.ending = none ∧
      L.last.token = request.replacement ∧ L.last.issuedAtMs = request.rotatedAtMs ∧
      ∃ t ∈ spent L.last.issuedAtMs L.past, t.token = request.presented ∧
        t.generation + 1 = L.past.length ∧ t.issuedAtMs ≤ request.rotatedAtMs := by
  have hmoved := (h.rotate_moves request).of_ok hrun
  cases hmoved with
  | retried => exact absurd rfl hne
  | rotated hL hopen hpresented hlater hfresh hroom hholds' =>
    exact ⟨_, _, hholds', mem_swap_self hL rfl, rfl, hopen, rfl, rfl, _,
      List.mem_cons_self, hpresented.symm, rfl, hlater⟩

theorem rotates_once (hL : L ∈ lineages) (ht : t ∈ spent L.last.issuedAtMs L.past)
    (htoken : t.token = request.presented)
    (hrun : db.rotateRefreshToken request = .ok (.rotated record, db')) : db' = db := by
  have hmoved := (h.rotate_moves request).of_ok hrun
  cases hmoved with
  | retried => rfl
  | rotated hM hopen hpresented =>
    obtain ⟨rfl, rfl⟩ := h.unique_token hL hM (List.mem_cons_of_mem _ ht) List.mem_cons_self
      (htoken.trans hpresented)
    obtain ⟨-, consumed, hconsumed⟩ := Lineage.spent_state ht
    simp [Lineage.newest, hopen] at hconsumed

theorem retries (hL : L ∈ lineages) (hopen : L.ending = none)
    (ht : t ∈ spent L.last.issuedAtMs L.past) (htoken : t.token = request.presented)
    (hissued : t.issuedAtMs ≤ request.rotatedAtMs) (hretries : L.Retries t request)
    (hvalid : validateRotation request = .ok ()) :
    db.rotateRefreshToken request = .ok (.rotated L.record, db) := by
  obtain ⟨-, consumed, hconsumed⟩ := Lineage.spent_state ht
  rw [h.rotate_eq hL (List.mem_cons_of_mem _ ht) hvalid htoken, if_neg (not_lt.mpr hissued),
    if_neg (not_not.mpr hopen), if_neg (by rw [hconsumed]; exact Option.some_ne_none _),
    if_pos hretries]

end Holds

def sparing (family : SessionFamilyId) : System SessionTables SessionCall where
  init db := db = ⟨[], []⟩
  step db call db' := db' = db ∨
    ∃ reply, call.run db = .ok (reply, db') ∧ reply.record.family ≠ family

theorem Holds.spares {calls : List SessionCall} (h : Holds db lineages) (hL : L ∈ lineages)
    (hrun : Run (sparing L.family) db calls db') :
    ∃ lineages', Holds db' lineages' ∧ L ∈ lineages' := by
  induction hrun with
  | nil => exact ⟨lineages, h, hL⟩
  | snoc _ hstep ih =>
    obtain ⟨lineages₁, h₁, hL₁⟩ := ih
    rcases hstep with rfl | ⟨reply, hreply, hother⟩
    · exact ⟨lineages₁, h₁, hL₁⟩
    · cases h₁.moved hreply with
      | born _ hholds => exact ⟨_, hholds, List.mem_cons_of_mem _ hL₁⟩
      | retried | closed => exact ⟨_, h₁, hL₁⟩
      | rotated _ _ _ _ _ _ hholds | replayed _ _ _ hholds | revoked _ _ _ hholds =>
        exact ⟨_, hholds, mem_swap_of_ne hL₁ (Ne.symm hother)⟩

structure SessionTables.Lawful (db : SessionTables) : Prop where
  linear : db.Linear
  once : ∀ request record db₁, db.rotateRefreshToken request = .ok (.rotated record, db₁) →
    db₁ ≠ db → ∀ calls db₂, Run sessionDatabase db₁ calls db₂ →
      ∀ request' record' db₃, request'.presented = request.presented →
        db₂.rotateRefreshToken request' = .ok (.rotated record', db₃) → db₃ = db₂
  repeatable : ∀ request record db₁, db.rotateRefreshToken request = .ok (.rotated record, db₁) →
    db₁ ≠ db → ∀ calls db₂, Run (sparing record.family) db₁ calls db₂ →
      ∀ time, request.rotatedAtMs ≤ time → time < 2 ^ 63 →
        db₂.rotateRefreshToken { request with rotatedAtMs := time } = .ok (.rotated record, db₂)
  final : ∀ family ∈ db.families, family.revokedReason ≠ none →
    ∀ calls db', Run sessionDatabase db calls db' → family ∈ db'.families ∧
      (db'.tokens.filter fun row => row.familyId == family.familyId) =
        db.tokens.filter fun row => row.familyId == family.familyId
  superseded : ∀ family ∈ db.families, ∀ calls db', Run sessionDatabase db calls db' →
    ∀ id user (generation : Nat) record, asBytes id.bytes = family.familyId →
      (generation : Int) < family.generation →
        db'.verifyAccessSession id user generation ≠ .ok record
  undamaged : ∀ call e, SessionCall.run db call = .error e → Ordinary e
  readable : ∀ family e, db.loadSessionFamily family = .error e → Ordinary e
  verifiable : ∀ family user generation e,
    db.verifyAccessSession family user generation = .error e → Ordinary e

theorem session_families_linear (h : Reachable sessionDatabase db) : db.Lawful := by
  obtain ⟨lineages, hholds⟩ := holds_of_reachable h
  refine ⟨hholds.linear, ?_, ?_, ?_, ?_, fun call e he => (hholds.run_moves call).of_error he,
    fun family e he => (hholds.loads family).of_error he,
    fun family user generation e he => (hholds.verifies family user generation).of_error he⟩
  · intro request record db₁ hrotated hne calls db₂ hrun request' record' db₃ hsame hagain
    obtain ⟨L, lineages₁, h₁, hL, -, -, -, -, t, ht, htoken, -, -⟩ :=
      hholds.rotation_effect hrotated hne
    obtain ⟨lineages₂, h₂, hbefore⟩ := h₁.run hrun
    obtain ⟨L', hL', hle⟩ := hbefore L hL
    exact h₂.rotates_once hL' (hle.spent ht) (htoken.trans hsame.symm) hagain
  · intro request record db₁ hrotated hne calls db₂ hrun time htime hfits
    obtain ⟨L, lineages₁, h₁, hL, rfl, hopen, hreplacement, hissued, t, ht, htoken, hnewest,
      hbefore⟩ := hholds.rotation_effect hrotated hne
    obtain ⟨lineages₂, h₂, hL₂⟩ := h₁.spares hL hrun
    have hvalid : validateRotation { request with rotatedAtMs := time } = .ok () := by
      cases hvalid : validateRotation request with
      | error e =>
        rw [SessionTables.rotateRefreshToken, hvalid] at hrotated
        cases hrotated
      | ok _ => exact validateRotation_ok.mpr ⟨(validateRotation_ok.mp hvalid).1, hfits⟩
    exact h₂.retries hL₂ hopen ht htoken (hbefore.trans htime)
      ⟨hreplacement.symm, hnewest, hissued.le.trans htime⟩ hvalid
  · intro row hrow hrevoked calls db' hrun
    obtain ⟨L, hL, rfl⟩ := hholds.family_cases hrow
    obtain ⟨lineages', h', hbefore⟩ := hholds.run hrun
    obtain ⟨L', hL', hle⟩ := hbefore L hL
    obtain rfl := hle.ended fun hopen => hrevoked (L.familyRow_revoked.mpr hopen)
    refine ⟨?_, (h'.tokens L' hL').trans (hholds.tokens L' hL).symm⟩
    rw [h'.families]
    exact List.mem_map_of_mem hL'
  · intro row hrow calls db' hrun id user generation record hid hold hverified
    obtain ⟨L, hL, rfl⟩ := hholds.family_cases hrow
    obtain ⟨lineages', h', hbefore⟩ := hholds.run hrun
    obtain ⟨L', hL', hle⟩ := hbefore L hL
    obtain ⟨M, hM, hfamily, -, hgeneration, -⟩ := (h'.verifies id user generation).of_ok hverified
    have hsame : M = L' := by
      refine h'.unique_family hM hL' (hfamily.trans ?_)
      rw [hle.family]
      exact family_bytes_inj.mp hid
    rw [hsame] at hgeneration
    have hlength := hle.length_le
    simp only [Lineage.familyRow] at hold
    omega

theorem session_families_linear_sample :
    (SessionTables.after ⟨[], []⟩ [.create sampleCreate]).Lawful ∧
      ∃ record db₁,
        (SessionTables.after ⟨[], []⟩ [.create sampleCreate]).rotateRefreshToken sampleRotation =
          .ok (.rotated record, db₁) ∧
        db₁ ≠ SessionTables.after ⟨[], []⟩ [.create sampleCreate] ∧
        db₁.rotateRefreshToken { sampleRotation with rotatedAtMs := 200 } =
          .ok (.rotated record, db₁) := by
  have hlawful := session_families_linear (reachable_after [.create sampleCreate])
  have hchanged : SessionTables.after ⟨[], []⟩ [.create sampleCreate, .rotate sampleRotation] ≠
      SessionTables.after ⟨[], []⟩ [.create sampleCreate] := by decide
  exact ⟨hlawful, _, _, rfl, hchanged,
    hlawful.repeatable _ _ _ rfl hchanged [] _ (.nil _) 200 (by decide) (by decide)⟩

theorem retry_refused_beyond_bigint : ¬ ∀ db, Reachable sessionDatabase db →
    ∀ request record db₁, db.rotateRefreshToken request = .ok (.rotated record, db₁) → db₁ ≠ db →
      ∀ time, request.rotatedAtMs ≤ time → time < 2 ^ 64 →
        db₁.rotateRefreshToken { request with rotatedAtMs := time } =
          .ok (.rotated record, db₁) := by
  intro hclaim
  have hchanged : SessionTables.after ⟨[], []⟩ [.create sampleCreate, .rotate sampleRotation] ≠
      SessionTables.after ⟨[], []⟩ [.create sampleCreate] := by decide
  have hretried := hclaim _ (reachable_after [.create sampleCreate]) sampleRotation _ _ rfl hchanged
    (2 ^ 63) (by decide) (by decide)
  have hrefused : (SessionTables.after ⟨[], []⟩
      [.create sampleCreate, .rotate sampleRotation]).rotateRefreshToken
        { sampleRotation with rotatedAtMs := 2 ^ 63 } = .error counterOverflow := rfl
  cases hrefused.symm.trans hretried

end

section
variable {db db' : SessionTables} {lineages : List Lineage} {L : Lineage} {t : Held}
  {request : RotateRefreshToken} {record : SessionFamilyRecord} {family : SessionFamilyId}

def RevokedFor (db : SessionTables) (familyId : Bytea) (reason : RevocationReason) : Prop :=
  ∃ row ∈ db.families, row.familyId = familyId ∧
    row.revokedReason = some (revocationReasonCode reason)

def ExactRetry (db : SessionTables) (token : TokenRow) (request : RotateRefreshToken) : Prop :=
  ∃ next ∈ db.tokens, next.familyId = token.familyId ∧
    next.generation = token.generation + 1 ∧
      SessionTables.names request.replacement next = true

def ReplayAnswered (db : SessionTables) (token : TokenRow) (request : RotateRefreshToken) : Prop :=
  ∃ outcome db', db.rotateRefreshToken request = .ok (outcome, db') ∧
    (ExactRetry db token request ∧ db' = db ∧
        (∃ record, outcome = .rotated record ∧ asBytes record.family.bytes = token.familyId ∧
          db.loadSessionFamily record.family = .ok (some record)) ∨
      RevokedFor db' token.familyId .refreshReplay)

def ActiveBy (db : SessionTables) (familyId : Bytea) (time : Nat) : Prop :=
  ∀ active ∈ db.tokens, active.familyId = familyId → active.state = 0 →
    active.issuedAtMs ≤ time

namespace Holds

theorem activeBy_iff (h : Holds db lineages) (hL : L ∈ lineages) (hopen : L.ending = none)
    (time : Nat) : ActiveBy db (asBytes L.family.bytes) time ↔ L.last.issuedAtMs ≤ time := by
  have hstate : (L.newest.row L.family).state = 0 := by
    simp [Held.row, Held.state, Lineage.newest, hopen]
  constructor
  · intro hactive
    exact Int.ofNat_le.mp (hactive _ (h.row_mem hL List.mem_cons_self) rfl hstate)
  · intro hle active hactive hfamily hzero
    have hmem : active ∈ db.tokens.filter fun row =>
        row.familyId == asBytes L.family.bytes && row.state == 0 :=
      List.mem_filter.mpr ⟨hactive, by simp [hfamily, hzero]⟩
    rw [h.active_row hL hopen, List.mem_singleton] at hmem
    rw [hmem]
    exact Int.ofNat_le.mpr hle

theorem revokedFor_swap {reason : RevocationReason} {time : Nat} (hL : L ∈ lineages)
    (hlater : L.last.issuedAtMs ≤ time)
    (h : Holds db' (PersistencePg.swap lineages (L.finish ⟨reason, time⟩ hlater))) :
    RevokedFor db' (asBytes L.family.bytes) reason := by
  refine ⟨(L.finish ⟨reason, time⟩ hlater).familyRow, ?_, rfl, rfl⟩
  rw [h.families]
  exact List.mem_map_of_mem (mem_swap_self hL rfl)

theorem exactRetry_of_retries (h : Holds db lineages) (hL : L ∈ lineages)
    (hretries : L.Retries t request) : ExactRetry db (t.row L.family) request := by
  obtain ⟨hsame, hgeneration, -⟩ := hretries
  refine ⟨L.newest.row L.family, h.row_mem hL List.mem_cons_self, rfl, ?_, names_row.mpr hsame.symm⟩
  exact congrArg (Nat.cast : Nat → Int) hgeneration.symm

theorem replay_answered_iff (h : Holds db lineages) (hL : L ∈ lineages) (hopen : L.ending = none)
    (ht : t ∈ spent L.last.issuedAtMs L.past) (htoken : t.token = request.presented)
    (hissued : t.issuedAtMs ≤ request.rotatedAtMs) :
    ReplayAnswered db (t.row L.family) request ↔
      validateRotation request = .ok () ∧ L.last.issuedAtMs ≤ request.rotatedAtMs := by
  obtain ⟨-, consumed, hconsumed⟩ := Lineage.spent_state ht
  have hnot : ¬ t.consumedAtMs = none := by rw [hconsumed]; exact Option.some_ne_none _
  have hrotate := fun hvalid => h.rotate_eq hL (List.mem_cons_of_mem _ ht) hvalid htoken
  simp only [if_neg (not_lt.mpr hissued), if_neg (not_not.mpr hopen), if_neg hnot] at hrotate
  constructor
  · rintro ⟨outcome, db', hrun, -⟩
    cases hvalid : validateRotation request with
    | error e =>
      rw [SessionTables.rotateRefreshToken, hvalid] at hrun
      cases hrun
    | ok _ =>
      refine ⟨rfl, ?_⟩
      by_contra hearly
      rw [hrotate hvalid, if_neg fun hretries => hearly hretries.2.2,
        h.revokeForReplay_early hL hopen (not_le.mp hearly)] at hrun
      cases hrun
  · rintro ⟨hvalid, hlater⟩
    by_cases hretries : L.Retries t request
    · refine ⟨.rotated L.record, db, ?_, .inl ⟨h.exactRetry_of_retries hL hretries, rfl,
        L.record, rfl, rfl, ?_⟩⟩
      · rw [hrotate hvalid, if_pos hretries]
      · rw [show L.record.family = L.family from rfl, h.loadSessionFamily L.named.1,
          h.find_family hL]
        rfl
    · obtain ⟨db', hrun, hholds⟩ := h.revokeForReplay hL hopen hlater
      refine ⟨.replayRevoked (L.finish ⟨.refreshReplay, request.rotatedAtMs⟩ hlater).record, db',
        ?_, .inr (revokedFor_swap hL hlater hholds)⟩
      rw [hrotate hvalid, if_neg hretries, hrun]
      rfl

theorem revocation_answered_iff (h : Holds db lineages) (hL : L ∈ lineages)
    (reason : RevocationReason) {time : Nat} (hcreated : L.createdAtMs ≤ time) :
    (∃ record db', db.revokeSessionFamily L.family L.user reason time = .ok (record, db') ∧
        ∃ later, RevokedFor db' (asBytes L.family.bytes) later) ↔
      time < 2 ^ 63 ∧ (L.ending = none → L.last.issuedAtMs ≤ time) := by
  have huser := L.named.2
  constructor
  · rintro ⟨record, db', hrun, -⟩
    rcases Nat.lt_or_ge time (2 ^ 63) with hfits | hlarge
    · refine ⟨hfits, fun hopen => ?_⟩
      by_contra hearly
      rw [h.revoke_early hL hopen reason huser hfits hcreated (not_le.mp hearly)] at hrun
      cases hrun
    · rw [h.revoke_eq hL reason huser, if_pos hlarge] at hrun
      cases hrun
  · rintro ⟨hfits, hactive⟩
    by_cases hopen : L.ending = none
    · obtain ⟨db', hrun, hholds⟩ := h.revoke_open hL hopen reason huser hfits (hactive hopen)
      exact ⟨_, db', hrun, reason, revokedFor_swap hL _ hholds⟩
    · obtain ⟨e, he⟩ := Option.ne_none_iff_exists'.mp hopen
      refine ⟨L.record, db, ?_, e.reason, L.familyRow, ?_, rfl, ?_⟩
      · rw [h.revoke_eq hL reason huser, if_neg (not_le.mpr hfits),
          if_neg (not_not.mpr ⟨rfl, hcreated⟩), if_pos hopen]
      · rw [h.families]
        exact List.mem_map_of_mem hL
      · simp [Lineage.familyRow, Lineage.record, he]

end Holds

theorem replay_kills_family_iff (h : Reachable sessionDatabase db) :
    (∀ family ∈ db.families, family.revokedReason = none →
      ∀ token ∈ db.tokens, token.familyId = family.familyId → token.state = 1 →
        ∀ request, SessionTables.names request.presented token = true →
          token.issuedAtMs ≤ request.rotatedAtMs →
            (ReplayAnswered db token request ↔ validateRotation request = .ok () ∧
              ActiveBy db family.familyId request.rotatedAtMs)) ∧
    ∀ family ∈ db.families, ∀ id user, asBytes id.bytes = family.familyId →
      asBytes user.bytes = family.userId → ∀ reason (time : Nat), family.createdAtMs ≤ time →
        ((∃ record db', db.revokeSessionFamily id user reason time = .ok (record, db') ∧
            ∃ later, RevokedFor db' family.familyId later) ↔
          time < 2 ^ 63 ∧ (family.revokedReason = none → ActiveBy db family.familyId time)) := by
  obtain ⟨lineages, hholds⟩ := holds_of_reachable h
  constructor
  · intro row hrow hreason token htoken hfamily hstate request hnames hissued
    obtain ⟨L, hL, rfl⟩ := hholds.family_cases hrow
    obtain ⟨M, hM, t, ht, rfl⟩ := hholds.row_cases htoken
    obtain rfl := hholds.unique_family hM hL (family_bytes_inj.mp hfamily)
    have hopen := M.familyRow_revoked.mp hreason
    rw [hholds.replay_answered_iff hM hopen ((M.consumed_iff hopen ht).mp hstate)
      (names_row.mp hnames) (Int.ofNat_le.mp hissued)]
    exact and_congr_right' (hholds.activeBy_iff hM hopen _).symm
  · intro row hrow id user hid huser reason time hcreated
    obtain ⟨L, hL, rfl⟩ := hholds.family_cases hrow
    cases family_bytes_inj.mp hid
    have hsame : user = L.user := congrArg UserId.mk (asBytes_inj.mp huser)
    rw [hsame]
    refine (hholds.revocation_answered_iff hL reason (Int.ofNat_le.mp hcreated)).trans ?_
    refine and_congr_right' ?_
    rw [L.familyRow_revoked]
    exact forall_congr' fun hopen => (hholds.activeBy_iff hL hopen time).symm

def sampleReplay : RotateRefreshToken := ⟨sampleToken 3, sampleToken 5, 150⟩

theorem replay_kills_family_sample :
    ReplayAnswered (SessionTables.after ⟨[], []⟩ [.create sampleCreate, .rotate sampleRotation])
      (Held.row sampleFamily ⟨0, sampleToken 3, 10, some 100⟩) sampleReplay := by
  have hboth := replay_kills_family_iff
    (reachable_after [.create sampleCreate, .rotate sampleRotation])
  refine (hboth.1 ⟨asBytes sampleFamily.bytes, asBytes sampleUser.bytes, 1,
    some (asBytes (sampleToken 4).id.bytes), none, 10, 100⟩ (by decide) rfl _ (by decide) rfl rfl
    sampleReplay rfl (by decide)).mpr ⟨validateRotation_ok.mpr (by decide), ?_⟩
  intro active hactive hfamily hstate
  revert active
  decide

theorem early_replay_leaves_family_alive :
    ¬ ∀ db, Reachable sessionDatabase db → ∀ family ∈ db.families, family.revokedReason = none →
      ∀ token ∈ db.tokens, token.familyId = family.familyId → token.state = 1 →
        ∀ request, SessionTables.names request.presented token = true →
          token.issuedAtMs ≤ request.rotatedAtMs → ReplayAnswered db token request := by
  intro hclaim
  have hanswered := hclaim _ (reachable_after [.create sampleCreate, .rotate sampleRotation])
    ⟨asBytes sampleFamily.bytes, asBytes sampleUser.bytes, 1,
      some (asBytes (sampleToken 4).id.bytes), none, 10, 100⟩ (by decide) rfl
    (Held.row sampleFamily ⟨0, sampleToken 3, 10, some 100⟩) (by decide) rfl rfl
    { sampleReplay with rotatedAtMs := 50 } rfl (by decide)
  obtain ⟨outcome, db', hrun, -⟩ := hanswered
  have hfailed : (SessionTables.after ⟨[], []⟩
      [.create sampleCreate, .rotate sampleRotation]).rotateRefreshToken
        { sampleReplay with rotatedAtMs := 50 } = .error (classifyViolation .check) := rfl
  cases hfailed.symm.trans hrun

end

end PersistencePg
