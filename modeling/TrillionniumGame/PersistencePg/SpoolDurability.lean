import TrillionniumGame.PersistencePg.SpoolMoves

namespace PersistencePg
open Checks Directories Directory Persistence Programs Protocol Runs

section
def Lasts {W : Type} (A : Shared W → Prop) : Prop := ∀ s t, SpoolMoves s t → A s → A t

variable {W : Type} {sha256 : List UInt8 → Digest32} {s t : Shared W} {lease : OutboxLease}
  {file : Nat}

def Known (lease : OutboxLease) (s : Shared W) : Prop := lease.subject ∈ s.subjects

def Present (lease : OutboxLease) (s : Shared W) : Prop :=
  Known lease s ∧ s.directory.entries (finalName lease.id) ≠ none

def Synced (lease : OutboxLease) (s : Shared W) : Prop :=
  Known lease s ∧ s.directory.synced (finalName lease.id) ≠ none

def Leads (lease : OutboxLease) (file : Nat) (s : Shared W) : Prop :=
  Known lease s ∧ file < s.directory.next ∧
    (s.directory.entries (temporaryName lease) = some file ∨
      s.directory.entries (finalName lease.id) ≠ none)

structure Written (lease : OutboxLease) (file position : Nat) (s : Shared W) : Prop where
  leads : Leads lease file s
  origin : s.directory.origin file = some (temporaryName lease)
  contents : (spoolRecord lease.subject).take position <+: s.directory.contents file

def Checked (lease : OutboxLease) (s : Shared W) : Prop :=
  Present lease s ∨ ∃ file, Leads lease file s ∧
    spoolRecord lease.subject <+: s.directory.contents file

def Opened (lease : OutboxLease) (file : Nat) (s : Shared W) : Prop :=
  Present lease s ∧ file < s.directory.next ∨ Leads lease file s ∧
    spoolRecord lease.subject <+: s.directory.contents file

def Prepared (lease : OutboxLease) (s : Shared W) : Prop :=
  Present lease s ∨ ∃ file, Leads lease file s ∧
    spoolRecord lease.subject <+: s.directory.saved file

theorem lasts_known (lease : OutboxLease) : Lasts (W := W) (Known lease) :=
  fun _ _ hst hs => hst.subjects _ hs

theorem lasts_present (lease : OutboxLease) : Lasts (W := W) (Present lease) :=
  fun _ _ hst hs => ⟨lasts_known lease _ _ hst hs.1, hst.present hs.2⟩

theorem lasts_synced (lease : OutboxLease) : Lasts (W := W) (Synced lease) :=
  fun _ _ hst hs => ⟨lasts_known lease _ _ hst hs.1, hst.synced _ hs.2⟩

theorem lasts_leads (lease : OutboxLease) (file : Nat) : Lasts (W := W) (Leads lease file) := by
  intro s t hst hs
  refine ⟨lasts_known lease _ _ hst hs.1, hs.2.1.trans_le hst.next, ?_⟩
  rcases hs.2.2 with htemporary | hfinal
  · exact hst.temporaries lease file htemporary
  · exact .inr (hst.present hfinal)

theorem lasts_written (lease : OutboxLease) (file position : Nat) :
    Lasts (W := W) (Written lease file position) := fun _ _ hst hs =>
  ⟨lasts_leads lease file _ _ hst hs.leads, (hst.origins file hs.leads.2.1).trans hs.origin,
    hs.contents.trans (hst.contents file hs.leads.2.1)⟩

theorem lasts_checked (lease : OutboxLease) : Lasts (W := W) (Checked lease) := by
  rintro s t hst (hpresent | ⟨file, hleads, hcontents⟩)
  · exact .inl (lasts_present lease _ _ hst hpresent)
  · exact .inr ⟨file, lasts_leads lease file _ _ hst hleads,
      hcontents.trans (hst.contents file hleads.2.1)⟩

theorem lasts_opened (lease : OutboxLease) (file : Nat) : Lasts (W := W) (Opened lease file) := by
  rintro s t hst (⟨hpresent, hlt⟩ | ⟨hleads, hcontents⟩)
  · exact .inl ⟨lasts_present lease _ _ hst hpresent, hlt.trans_le hst.next⟩
  · exact .inr ⟨lasts_leads lease file _ _ hst hleads,
      hcontents.trans (hst.contents file hleads.2.1)⟩

theorem lasts_prepared (lease : OutboxLease) : Lasts (W := W) (Prepared lease) := by
  rintro s t hst (hpresent | ⟨file, hleads, hsaved⟩)
  · exact .inl (lasts_present lease _ _ hst hpresent)
  · exact .inr ⟨file, lasts_leads lease file _ _ hst hleads,
      hsaved.trans (hst.saved file hleads.2.1)⟩

theorem Leads.present (h : Leads lease file s)
    (hentry : s.directory.entries (temporaryName lease) ≠ some file) : Present lease s :=
  ⟨h.1, h.2.2.resolve_left hentry⟩

variable [DecidableEq W]

def FoundSynced (s : Shared W) : (c : Call) → c.Reply → Prop
  | .pathExists path, found => found = true → s.directory.synced path ≠ none
  | _, _ => True

def SyncedAnswers (sha256 : List UInt8 → Digest32) (w : W) (c : Call) (s : Shared W) (r : c.Reply)
    (t : Shared W) : Prop :=
  Answers sha256 w c s r t ∧ FoundSynced s c r

def spoolProtocol (sha256 : List UInt8 → Digest32) : Protocol W Call Call.Reply (Shared W) where
  answers := SyncedAnswers sha256
  inv := SpoolInv sha256
  moves := SpoolMoves
  rely _ := SpoolMoves
  refl _ := SpoolMoves.refl
  trans := fun _ _ _ _ => SpoolMoves.trans
  within := fun _ _ _ h => h

def Yields {ε α : Type} (sha256 : List UInt8 → Digest32) (w : W) (A : Shared W → Prop)
    (x : Worker ε α) (B : α → Shared W → Prop) : Prop :=
  Triple (spoolProtocol sha256) w A x B fun _ _ => True

variable {w : W} {ε ε' α β : Type} {A A' : Shared W → Prop} {B : α → Shared W → Prop}
  {B' : β → Shared W → Prop}

theorem Advances.keeps (h : Advances sha256 s t) : (spoolProtocol sha256).Keeps w s t :=
  ⟨h.1, h.2, fun _ _ => h.2⟩

theorem Yields.bind {x : Worker ε α} {f : α → Worker ε β} (h : Yields sha256 w A x B)
    (hf : ∀ a, Yields sha256 w (B a) (f a) B') : Yields sha256 w A (x >>= f) B' :=
  Triple.bind h hf fun _ _ _ _ _ => trivial

theorem Yields.weaken {x : Worker ε α} (h : Yields sha256 w A x B)
    (hA : ∀ s, SpoolInv sha256 s → A' s → A s) : Yields sha256 w A' x B :=
  Triple.weaken h hA (fun _ _ _ h => h) fun _ _ _ h => h

theorem Yields.pure {a : α} (hB : Lasts (B a)) (h : ∀ s, A s → B a s) :
    Yields sha256 w A (Pure.pure a : Worker ε α) B :=
  Triple.pure hB h

theorem Yields.reply {r : Except ε' α} {e : ε' → ε} (hB : ∀ a, Lasts (B a))
    (h : ∀ a, r = .ok a → ∀ s, A s → B a s) : Yields sha256 w A (Procedure.reply r e) B :=
  Triple.reply hB (fun _ _ _ _ _ => trivial) h fun _ _ _ _ => trivial

theorem Yields.throw {e : ε} : Yields sha256 w A (MonadExcept.throw e : Worker ε α) B :=
  Triple.throw (fun _ _ _ _ => trivial) fun _ _ => trivial

theorem Yields.ask {c : Call} {B : c.Reply → Shared W → Prop} (hA : Lasts A)
    (hB : ∀ r, Lasts (B r)) (h : ∀ t, SpoolInv sha256 t → A t → ∀ r u,
      SyncedAnswers sha256 w c t r u → Advances sha256 t u ∧ B r u) :
    Yields sha256 w A (PersistencePg.ask c : Worker ε c.Reply) B :=
  Triple.ask hA hB fun t ht hAt r u hanswer => by
    obtain ⟨hadvances, hr⟩ := h t ht hAt r u hanswer
    exact ⟨hadvances.keeps, hr⟩

theorem Yields.look {c : Call} {B : c.Reply → Shared W → Prop} (hA : Lasts A)
    (hB : ∀ r, Lasts (B r)) (h : ∀ t, SpoolInv sha256 t → A t → ∀ r u,
      SyncedAnswers sha256 w c t r u → u = t ∧ B r t) :
    Yields sha256 w A (PersistencePg.ask c : Worker ε c.Reply) B :=
  .ask hA hB fun t ht hAt r u hanswer => by
    obtain ⟨rfl, hr⟩ := h t ht hAt r u hanswer
    exact ⟨⟨ht, SpoolMoves.refl _⟩, hr⟩

theorem yields_verify {path : SpoolName} {expected : List UInt8} (hA : Lasts A) (hA' : Lasts A')
    (h : ∀ t, SpoolInv sha256 t → A t → t.directory.read path = some expected → A' t) :
    Yields sha256 w A (verifyExistingFile path expected) fun _ => A' := by
  have hread : ∀ r : Except FileError (List UInt8),
      Lasts fun t : Shared W => A t ∧ (r = .ok expected → A' t) :=
    fun r s t hst hs => ⟨hA s t hst hs.1, fun hr => hA' s t hst (hs.2 hr)⟩
  refine .bind (.look (B := fun _ => A) hA (fun _ => hA) fun t _ ht _ u hanswer =>
    ⟨hanswer.1.1, ht⟩) fun metadata => ?_
  refine .bind (.reply (B := fun _ => A) (fun _ => hA) fun _ _ _ hs => hs) fun isFile => ?_
  refine .bind (.reply (B := fun _ => A) (fun _ => hA) fun _ _ _ hs => hs) fun _ => ?_
  refine .bind (.look (c := .read path)
    (B := fun r t => A t ∧ (r = .ok expected → A' t)) hA hread
    fun t hinv ht r u hanswer => ⟨hanswer.1.1, ht, fun hr => ?_⟩) fun contents => ?_
  · exact h t hinv ht (hanswer.1.2 expected hr)
  refine .bind (.reply (B := fun actual t => A t ∧ (actual = expected → A' t))
    (fun _ s t hst hs => ⟨hA s t hst hs.1, fun ha => hA' s t hst (hs.2 ha)⟩)
    fun actual hactual s hs => ⟨hs.1, fun ha => hs.2 (ha ▸ hactual)⟩) fun actual => ?_
  exact .reply (fun _ => hA') fun _ hsame s hs => hs.2 (require_ok.mp hsame)

theorem yields_writeAll {position : Nat} {rest : List UInt8}
    (h : (spoolRecord lease.subject).drop position = rest) :
    Yields sha256 w (Written lease file position) (writeAll file position rest)
      fun _ => Written lease file (spoolRecord lease.subject).length := by
  induction rest generalizing position with
  | nil =>
    refine .pure (lasts_written lease file _) fun s hs => ⟨hs.leads, hs.origin, ?_⟩
    have hall := hs.contents
    rw [List.take_of_length_le (List.drop_eq_nil_iff.mp h)] at hall
    rwa [List.take_length]
  | cons byte rest ih =>
    have hnext : (spoolRecord lease.subject).drop (position + 1) = rest := by
      rw [← List.drop_drop, h]
      rfl
    have hdone : ∀ r : Except FileError Unit, Lasts fun t : Shared W =>
        r = .ok () → Written lease file (position + 1) t :=
      fun r s t hst hs hr => lasts_written lease file _ _ _ hst (hs hr)
    refine .bind (.ask (c := .write file position byte)
      (B := fun r t => r = .ok () → Written lease file (position + 1) t)
      (lasts_written lease file position) hdone ?_) fun written => ?_
    · rintro t hinv ht r u ⟨⟨d, heffect, rfl⟩, -⟩
      have howner := hinv.owner ht.leads.1 ht.leads.2.1 ht.origin (temporary_belongs lease)
      obtain ⟨hadvances, hmore⟩ := hinv.write howner ht.contents h
      have hwritten : Written lease file (position + 1) { t with
          directory := t.directory.write file position byte } :=
        ⟨lasts_leads lease file _ _ hadvances.2 ht.leads, ht.origin, hmore⟩
      cases heffect with
      | done => exact ⟨hadvances, fun _ => hwritten⟩
      | lost => exact ⟨hadvances, nofun⟩
      | failed => exact ⟨⟨hinv, SpoolMoves.refl _⟩, nofun⟩
    · exact .bind (.reply (B := fun _ => Written lease file (position + 1))
        (fun _ => lasts_written lease file _) fun _ hr _ hs => hs hr) fun _ => ih hnext

theorem yields_syncFile :
    Yields sha256 w (Opened lease file) (syncFile file) fun _ => Prepared lease := by
  have hdone : ∀ r : Except FileError Unit, Lasts fun t : Shared W =>
      r = .ok () → Prepared lease t :=
    fun r s t hst hs hr => lasts_prepared lease _ _ hst (hs hr)
  refine .bind (.ask (c := .syncAll file) (B := fun r t => r = .ok () → Prepared lease t)
    (lasts_opened lease file) hdone ?_) fun synced => ?_
  · rintro t hinv ht r u ⟨⟨d, heffect, rfl⟩, -⟩
    have hlt : file < t.directory.next := by
      rcases ht with ⟨-, hlt⟩ | ⟨hleads, -⟩
      · exact hlt
      · exact hleads.2.1
    have hadvances := hinv.syncFile hlt
    have hprepared : Prepared lease { t with directory := t.directory.syncFile file } := by
      rcases ht with ⟨hpresent, -⟩ | ⟨hleads, hcontents⟩
      · exact .inl (lasts_present lease _ _ hadvances.2 hpresent)
      · refine .inr ⟨file, lasts_leads lease file _ _ hadvances.2 hleads, ?_⟩
        exact (syncFile_same t.directory file).symm ▸ hcontents
    cases heffect with
    | done => exact ⟨hadvances, fun _ => hprepared⟩
    | lost => exact ⟨hadvances, nofun⟩
    | failed => exact ⟨⟨hinv, SpoolMoves.refl _⟩, nofun⟩
  · exact .reply (fun _ => lasts_prepared lease) fun _ hr _ hs => hs hr

theorem yields_reopenAndSync : Yields sha256 w (Checked lease)
    (reopenAndSync (temporaryName lease)) fun _ => Prepared lease := by
  have hdone : ∀ r : Except FileError Nat, Lasts fun t : Shared W =>
      ∀ file, r = .ok file → Opened lease file t :=
    fun r s t hst hs file hr => lasts_opened lease file _ _ hst (hs file hr)
  refine .bind (.look (c := .openFile (temporaryName lease))
    (B := fun r t => ∀ file, r = .ok file → Opened lease file t) (lasts_checked lease) hdone ?_)
    fun opened => ?_
  · rintro t hinv ht r u ⟨⟨rfl, hopened⟩, -⟩
    refine ⟨rfl, fun file hr => ?_⟩
    have hentry := hopened file hr
    rcases ht with hpresent | ⟨held, hleads, hcontents⟩
    · exact .inl ⟨hpresent, (hinv.entries _ _ hentry).1⟩
    · by_cases hsame : held = file
      · subst hsame
        exact .inr ⟨hleads, hcontents⟩
      · refine .inl ⟨hleads.present ?_, (hinv.entries _ _ hentry).1⟩
        rw [hentry]
        exact fun heq => hsame (Option.some.inj heq).symm
  · exact .bind (.reply (B := fun file => Opened lease file) (fun file => lasts_opened lease file)
      fun file hr _ hs => hs file hr) fun file => yields_syncFile

theorem yields_prepare : Yields sha256 w (Known lease)
    (prepareTemporaryFile (temporaryName lease) (spoolRecord lease.subject))
      fun _ => Prepared lease := by
  have hdone : ∀ r : Except FileError Nat, Lasts fun t : Shared W =>
      Known lease t ∧ ∀ file, r = .ok file → Written lease file 0 t :=
    fun r s t hst hs => ⟨lasts_known lease _ _ hst hs.1,
      fun file hr => lasts_written lease file 0 _ _ hst (hs.2 file hr)⟩
  refine .bind (.ask (c := .createNew (temporaryName lease))
    (B := fun r t => Known lease t ∧ ∀ file, r = .ok file → Written lease file 0 t)
    (lasts_known lease) hdone ?_) fun created => ?_
  · rintro t hinv ht r u ⟨⟨d, hcreates, rfl⟩, -⟩
    cases hcreates with
    | created hpresent hfree =>
      have hadvances := hinv.create ht hfree
      have hknown := lasts_known lease _ _ hadvances.2 ht
      refine ⟨hadvances, hknown, fun file hr => ?_⟩
      cases hr
      exact ⟨⟨hknown, Nat.lt_succ_self _, .inl create_entries_new⟩, create_origin_new,
        List.nil_prefix⟩
    | taken htaken | failed => exact ⟨⟨hinv, SpoolMoves.refl _⟩, ht, nofun⟩
  · match created with
    | .ok file =>
      refine .bind ((yields_writeAll rfl).weaken fun s _ hs => hs.2 file rfl) fun _ => ?_
      refine yields_syncFile.weaken fun s _ hs => .inr ⟨hs.leads, ?_⟩
      have hall := hs.contents
      rwa [List.take_length] at hall
    | .error .alreadyExists =>
      refine .bind ((yields_verify (lasts_known lease) (lasts_checked lease) ?_).weaken
        fun s _ hs => hs.1) fun _ => yields_reopenAndSync
      intro t hinv ht hread
      obtain ⟨file, hentry, hcontents⟩ := Option.map_eq_some_iff.mp hread
      exact .inr ⟨file, ⟨ht, (hinv.entries _ _ hentry).1, .inl hentry⟩,
        hcontents ▸ List.prefix_refl _⟩
    | .error .other => exact .throw

theorem yields_confirm : Yields sha256 w (Synced lease)
    (confirm (finalName lease.id) (spoolRecord lease.subject))
      fun receipt s => Synced lease s ∧ receipt = sha256 (spoolRecord lease.subject) := by
  have hlasts : ∀ P : Prop, Lasts fun t : Shared W => Synced lease t ∧ P :=
    fun P s t hst hs => ⟨lasts_synced lease _ _ hst hs.1, hs.2⟩
  refine .bind (yields_verify (lasts_synced lease) (lasts_synced lease) fun _ _ ht _ => ht)
    fun _ => ?_
  refine .bind (.look (c := .sha256Delivery (spoolRecord lease.subject))
    (B := fun digest t => Synced lease t ∧
      ∀ d, digest = some d → d = sha256 (spoolRecord lease.subject))
    (lasts_synced lease) (fun _ => hlasts _) ?_) fun digest => ?_
  · rintro t - ht r u ⟨⟨rfl, hdigest⟩, -⟩
    exact ⟨rfl, ht, hdigest⟩
  · exact .reply (fun _ => hlasts _) fun d hd s hs => ⟨hs.1, hs.2 d (fetch_ok.mp hd)⟩

theorem yields_publish : Yields sha256 w (Known lease)
    (publish (finalName lease.id) (temporaryName lease) (spoolRecord lease.subject))
      fun receipt s => Synced lease s ∧ receipt = sha256 (spoolRecord lease.subject) := by
  refine .bind yields_prepare fun _ => ?_
  have hlinked : ∀ r : Except FileError Unit, Lasts fun t : Shared W =>
      (r = .ok () ∨ r = .error .alreadyExists) → Present lease t :=
    fun r s t hst hs hr => lasts_present lease _ _ hst (hs hr)
  refine .bind (.ask (c := .hardLink (temporaryName lease) (finalName lease.id))
    (B := fun r t => (r = .ok () ∨ r = .error .alreadyExists) → Present lease t)
    (lasts_prepared lease) hlinked ?_) fun linked => ?_
  · rintro t hinv ht r u ⟨⟨d, hlinks, rfl⟩, -⟩
    have hknown : Known lease t := by
      rcases ht with hpresent | ⟨file, hleads, -⟩
      · exact hpresent.1
      · exact hleads.1
    cases hlinks with
    | @linked file hheld hfree =>
      rcases ht with hpresent | ⟨held, hleads, hsaved⟩
      · exact absurd hfree hpresent.2
      · have htemporary := hleads.2.2.resolve_right fun hne => hne hfree
        cases Option.mem_unique htemporary hheld
        have howner := hinv.entryOwner hleads.1 (temporary_belongs lease) htemporary
        have hfull := hsaved.eq_of_length_le
          (howner.saved.trans howner.contents).length_le
        have hadvances := hinv.link hleads.1 htemporary hfree hfull.symm
        refine ⟨hadvances, fun _ => ⟨lasts_known lease _ _ hadvances.2 hleads.1, ?_⟩⟩
        exact Option.ne_none_iff_exists'.mpr ⟨_, link_same⟩
    | taken htaken => exact ⟨⟨hinv, SpoolMoves.refl _⟩, fun _ => ⟨hknown, htaken⟩⟩
    | failed => exact ⟨⟨hinv, SpoolMoves.refl _⟩, by rintro (hr | hr) <;> cases hr⟩
  refine .bind (B := fun _ => Present lease) ?_ fun _ => ?_
  · match linked with
    | .ok () => exact .pure (lasts_present lease) fun s hs => hs (.inl rfl)
    | .error .alreadyExists =>
      exact (yields_verify (lasts_present lease) (lasts_present lease) fun _ _ ht _ => ht).weaken
        fun s _ hs => hs (.inr rfl)
    | .error .other => exact .throw
  refine .bind (.ask (c := .removeFile (temporaryName lease)) (B := fun _ => Present lease)
    (lasts_present lease) (fun _ => lasts_present lease) ?_) fun _ => ?_
  · rintro t hinv ht r u ⟨⟨d, heffect, rfl⟩, -⟩
    have hadvances := hinv.remove ht.2
    have hpresent := lasts_present lease _ _ hadvances.2 ht
    cases heffect with
    | done | lost => exact ⟨hadvances, hpresent⟩
    | failed => exact ⟨⟨hinv, SpoolMoves.refl _⟩, ht⟩
  have hsynced : ∀ r : Except FileError Unit, Lasts fun t : Shared W =>
      r = .ok () → Synced lease t :=
    fun r s t hst hs hr => lasts_synced lease _ _ hst (hs hr)
  refine .bind (.ask (c := .syncDirectory) (B := fun r t => r = .ok () → Synced lease t)
    (lasts_present lease) hsynced ?_) fun synced => ?_
  · rintro t hinv ht r u ⟨⟨d, heffect, rfl⟩, -⟩
    have hadvances := hinv.sync
    cases heffect with
    | done => exact ⟨hadvances, fun _ => ⟨lasts_known lease _ _ hadvances.2 ht.1, ht.2⟩⟩
    | lost => exact ⟨hadvances, nofun⟩
    | failed => exact ⟨⟨hinv, SpoolMoves.refl _⟩, nofun⟩
  exact .bind (.reply (B := fun _ => Synced lease) (fun _ => lasts_synced lease)
    fun _ hr _ hs => hs hr) fun _ => yields_confirm

end

section
variable {W : Type} [DecidableEq W] {sha256 : List UInt8 → Digest32} {w : W} {s t : Shared W}
  {lease : OutboxLease}

def Delivered (sha256 : List UInt8 → Digest32) (lease : OutboxLease) (receipt : Digest32)
    (s : Shared W) : Prop :=
  Synced lease s ∧ receipt = sha256 (spoolRecord lease.subject)

omit [DecidableEq W] in
theorem lasts_delivered (lease : OutboxLease) (receipt : Digest32) :
    Lasts (W := W) (Delivered sha256 lease receipt) :=
  fun _ _ hst hs => ⟨lasts_synced lease _ _ hst hs.1, hs.2⟩

theorem yields_deliver : Yields sha256 w (Known lease) (deliver lease)
    fun receipt => Delivered sha256 lease receipt := by
  refine .bind (.ask (c := .deliver lease) (B := fun _ => Known lease) (lasts_known lease)
    (fun _ => lasts_known lease) ?_) fun _ => ?_
  · rintro t hinv ht r u ⟨rfl, -⟩
    exact ⟨hinv.rows rfl rfl hinv.applied, ht⟩
  have hfound : ∀ found : Bool, Lasts fun t : Shared W =>
      Known lease t ∧ (found = true → Synced lease t) := fun found s t hst hs =>
    ⟨lasts_known lease _ _ hst hs.1, fun hr => lasts_synced lease _ _ hst (hs.2 hr)⟩
  refine .bind (.look (c := .pathExists (finalName lease.id))
    (B := fun found t => Known lease t ∧ (found = true → Synced lease t)) (lasts_known lease)
    hfound ?_) fun found => ?_
  · rintro t hinv ht r u ⟨⟨rfl, -⟩, hsynced⟩
    exact ⟨rfl, ht, fun hr => ⟨ht, hsynced hr⟩⟩
  cases found with
  | true => exact yields_confirm.weaken fun s _ hs => hs.2 rfl
  | false => exact yields_publish.weaken fun s _ hs => hs.1

def Anything (_ : Shared W) : Prop := True

omit [DecidableEq W] in
theorem lasts_anything : Lasts (W := W) Anything := fun _ _ _ h => h

theorem yields_now {A : Shared W → Prop} (hA : Lasts A) :
    Yields sha256 w A nowMillis fun _ => A := by
  refine .bind (.look (c := .nowMillis) (B := fun _ => A) hA (fun _ => hA)
    fun t _ ht _ u hanswer => ⟨hanswer.1, ht⟩) fun now => ?_
  exact .reply (fun _ => hA) fun _ _ _ hs => hs

theorem yields_sha256Worker {A : Shared W → Prop} (hA : Lasts A) (input : List UInt8) :
    Yields sha256 w A (sha256Worker input) fun _ => A := by
  refine .bind (.look (c := .sha256Worker input) (B := fun _ => A) hA (fun _ => hA)
    fun t _ ht _ u hanswer => ⟨hanswer.1.1, ht⟩) fun digest => ?_
  exact .reply (fun _ => hA) fun _ _ _ hs => hs

omit [DecidableEq W] in
theorem advances_rows (h : SpoolInv sha256 s) (hdirectory : t.directory = s.directory)
    {R : OutboxRow → OutboxRow → Prop} (hrows : List.Forall₂ R s.outbox t.outbox)
    (hsubject : ∀ row row', R row row' → row'.subject = row.subject)
    (happlied : ∀ row ∈ s.outbox, ∀ row', R row row' → ∀ receipt, row'.state = .applied receipt →
      row' = row ∨ s.directory.synced (finalName row.intentId) ≠ none ∧
        receipt = sha256 (spoolRecord row.subject)) : Advances sha256 s t := by
  refine h.rows hdirectory (forall₂_ids hsubject hrows) fun row' hrow' receipt hstate => ?_
  obtain ⟨row, hrow, hR⟩ := forall₂_source hrows hrow'
  have hsame := hsubject row row' hR
  have hid : row'.intentId = row.intentId := congrArg OutboxSubject.id hsame
  rcases happlied row hrow row' hR receipt hstate with rfl | ⟨hsynced, hreceipt⟩
  · exact h.applied row' hrow receipt hstate
  · rw [hid, hsame]
    exact ⟨hsynced, hreceipt⟩

theorem yields_settleDelivery (receipt : Digest32) (report : BatchReport) :
    Yields sha256 w (Delivered sha256 lease receipt) (settleDelivery lease receipt report)
      fun _ => Anything := by
  refine .bind (yields_now (lasts_delivered lease receipt)) fun completedAtMs => ?_
  refine .bind (.ask (c := .completeOutbox lease receipt completedAtMs) (B := fun _ => Anything)
    (lasts_delivered lease receipt) (fun _ => lasts_anything) ?_) fun completed => ?_
  · rintro t hinv ht r u ⟨⟨table, htransacts, rfl⟩, -⟩
    refine ⟨?_, trivial⟩
    rcases htransacts.table with rfl | ⟨a, hrun⟩
    · exact ⟨hinv, SpoolMoves.refl _⟩
    obtain ⟨table', hcomplete, hpair⟩ := map_ok.mp hrun
    cases (Prod.mk.inj hpair).2
    refine advances_rows hinv rfl (completeOutbox_ok hcomplete) (fun _ _ => Fenced.subject)
      fun row hrow row' hfenced receipt' hstate => ?_
    cases hfenced with
    | same => exact .inl rfl
    | settled _ hid _ hsettles =>
      have hone : row.subject = lease.subject :=
        subject_unique hinv.unique (List.mem_map_of_mem hrow) ht.1.1 hid
      rw [hstate] at hsettles
      cases OutboxRowState.applied.inj hsettles
      rw [hone, hid]
      exact .inr ⟨ht.1.2, ht.2⟩
  · exact .bind (.reply (B := fun _ => Anything) (fun _ => lasts_anything) fun _ _ _ hs => hs)
      fun _ => .pure lasts_anything fun _ => id

variable (config : WorkerConfig)

theorem yields_settleFailure (failure : DeliveryFailure) (report : BatchReport) :
    Yields sha256 w Anything (settleFailure config lease failure report)
      fun _ => Anything := by
  refine .bind (yields_now lasts_anything) fun retryNowMs => ?_
  refine .bind (.bind (yields_sha256Worker lasts_anything _) fun _ =>
    .pure (B := fun _ => Anything) lasts_anything fun _ => id) fun delayMs => ?_
  refine .bind (.reply (B := fun _ => Anything) (fun _ => lasts_anything) fun _ _ _ hs => hs)
    fun next => ?_
  refine .bind (yields_sha256Worker lasts_anything _) fun reason => ?_
  refine .bind (.ask (c := .retryOrDeadLetterOutbox lease retryNowMs next config.maxAttempts reason)
    (B := fun _ => Anything) lasts_anything (fun _ => lasts_anything) ?_) fun outcome => ?_
  · rintro t hinv ht r u ⟨⟨table, htransacts, rfl⟩, -⟩
    refine ⟨?_, trivial⟩
    rcases htransacts.table with rfl | ⟨a, hrun⟩
    · exact ⟨hinv, SpoolMoves.refl _⟩
    refine advances_rows hinv rfl (retryOrDeadLetterOutbox_ok hrun) (fun _ _ => Fenced.subject)
      fun row hrow row' hfenced receipt hstate => ?_
    cases hfenced with
    | same => exact .inl rfl
    | settled _ _ _ hsettles =>
      rw [hstate] at hsettles
      rcases hsettles with hsettles | hsettles <;> cases hsettles
  · exact .bind (.reply (B := fun _ => Anything) (fun _ => lasts_anything) fun _ _ _ hs => hs)
      fun _ => .pure lasts_anything fun _ => id

theorem yields_processLease (report : BatchReport) :
    Yields sha256 w (Known lease) (processLease config lease report) fun _ => Anything := by
  refine Triple.attempt yields_deliver fun delivered => ?_
  cases delivered with
  | ok receipt => exact yields_settleDelivery receipt report
  | error failure => exact yields_settleFailure config failure report

def AllKnown (leases : List OutboxLease) (s : Shared W) : Prop := ∀ lease ∈ leases, Known lease s

omit [DecidableEq W] in
theorem lasts_allKnown (leases : List OutboxLease) : Lasts (W := W) (AllKnown leases) :=
  fun _ _ hst hs lease hlease => lasts_known lease _ _ hst (hs lease hlease)

theorem yields_processLeases (leases : List OutboxLease) (report : BatchReport) :
    Yields sha256 w (AllKnown leases)
      (processLeases config leases report) fun _ => Anything := by
  induction leases generalizing report with
  | nil => exact .pure lasts_anything fun _ _ => trivial
  | cons lease rest ih =>
    have hlease : Yields sha256 w (Known lease) (processLease config lease report)
        fun _ => Anything := yields_processLease config report
    have hone := Triple.frame (P := spoolProtocol sha256) (lasts_allKnown rest) hlease
    refine Triple.bind (Triple.weaken hone (fun s _ hs => ?_) (fun _ _ _ hs => hs.2)
      fun _ _ _ _ => trivial) (fun report => ih report) fun _ _ _ _ _ => trivial
    exact ⟨hs lease List.mem_cons_self,
      fun other hother => hs other (List.mem_cons_of_mem _ hother)⟩

theorem yields_processOnceAttempt :
    Yields sha256 w Anything (processOnceAttempt config) fun _ => Anything := by
  refine .bind (yields_now lasts_anything) fun nowMs => ?_
  refine .bind (.look (c := .acquire) (B := fun _ => Anything) lasts_anything
    (fun _ => lasts_anything) fun t _ ht _ u hanswer => ⟨hanswer.1, ht⟩) fun acquired => ?_
  refine .bind (.reply (B := fun _ => Anything) (fun _ => lasts_anything) fun _ _ _ hs => hs)
    fun _ => ?_
  have hclaimed : ∀ r : Except DomainError OutboxClaimBatch, Lasts fun t : Shared W =>
      ∀ batch, r = .ok batch → AllKnown batch.leases t :=
    fun r s t hst hs batch hr => lasts_allKnown _ _ _ hst (hs batch hr)
  refine .bind (.ask (c := .claimOutboxBatch config.node nowMs config.leaseDurationMs
    config.maxAttempts config.batchSize)
    (B := fun r t => ∀ batch, r = .ok batch → AllKnown batch.leases t) lasts_anything hclaimed ?_)
    fun claimed => ?_
  · rintro t hinv - r u ⟨⟨table, htransacts, rfl⟩, -⟩
    have hmoved : ∀ {batch : OutboxClaimBatch} {table : List OutboxRow} (u : Shared W),
        claimOutboxBatch config.node nowMs config.leaseDurationMs config.maxAttempts
          config.batchSize t.outbox = .ok (batch, table) → u.directory = t.directory →
          u.outbox = table → Advances sha256 t u ∧ AllKnown batch.leases u := by
      rintro batch table u hrun hdirectory rfl
      obtain ⟨hrows, hleases⟩ := claimOutboxBatch_ok hrun hinv.unique
      have hadvances : Advances sha256 t u := by
        refine advances_rows hinv hdirectory hrows (fun _ _ => Claimed.subject)
          fun row hrow row' hR receipt hstate => ?_
        obtain ⟨held, hreaped, hleased⟩ := hR
        cases hleased with
        | same =>
          cases hreaped with
          | same => exact .inl rfl
          | dead _ _ hdead =>
            rw [hstate] at hdead
            cases hdead
        | granted _ _ hgrants =>
          have hstate' := hgrants.state
          rw [hstate] at hstate'
          cases hstate'
      exact ⟨hadvances, fun lease hlease => hadvances.2.subjects _ (hleases lease hlease)⟩
    cases htransacts with
    | @answered batch _ hrun =>
      obtain ⟨hadvances, hknown⟩ := hmoved
        (Shared.obtains { t with outbox := table } w batch) hrun rfl rfl
      refine ⟨hadvances, fun batch' hr => ?_⟩
      cases hr
      exact hknown
    | lost _ hrun => exact ⟨(hmoved { t with outbox := table } hrun rfl rfl).1, nofun⟩
    | failed => exact ⟨⟨hinv, SpoolMoves.refl _⟩, nofun⟩
  · exact .bind (.reply (B := fun batch => AllKnown batch.leases) (fun batch => lasts_allKnown _)
      fun batch hr _ hs => hs batch hr) fun batch => yields_processLeases config _ _

theorem yields_again {retry : Worker WorkerError BatchReport}
    (h : Yields sha256 w Anything retry fun _ => Anything) (outcome : Outcome) :
    Yields sha256 w Anything (again retry outcome) fun _ => Anything := by
  match outcome with
  | .ok report => exact .pure lasts_anything fun _ => id
  | .error (.domain error) =>
    rw [again]
    split
    · exact h
    · exact .throw
  | .error (.configuration _) => exact .throw
  | .error (.crypto _) => exact .throw
  | .error .io => exact .throw

theorem yields_processOnceWith (attempts : Nat) :
    Yields sha256 w Anything (processOnceWith config attempts) fun _ => Anything := by
  induction attempts with
  | zero => exact yields_processOnceAttempt config
  | succ attempts ih =>
    refine Triple.attempt (yields_processOnceAttempt config) fun outcome => ?_
    exact (yields_again ih outcome).weaken fun _ _ _ => trivial

theorem yields_startUp : Yields sha256 w Anything (startUp config) fun _ => Anything := by
  refine .bind (.bind (.ask (c := .createDirAll) (B := fun _ => Anything) lasts_anything
    (fun _ => lasts_anything) ?_) fun made => .reply (B := fun _ => Anything)
      (fun _ => lasts_anything) fun _ _ _ hs => hs) fun _ => yields_processOnceWith config _
  rintro t hinv - r u ⟨⟨d, heffect, rfl⟩, -⟩
  cases heffect with
  | done | lost => exact ⟨hinv.make, trivial⟩
  | failed => exact ⟨⟨hinv, SpoolMoves.refl _⟩, trivial⟩

variable {config : W → WorkerConfig} {a b : Outboxes W} {event : Event W} {events : List (Event W)}

def SpoolHeld (sha256 : List UInt8 → Digest32) (a : Outboxes W) : Prop :=
  World.Held (spoolProtocol sha256) (fun _ => Ends (fun _ _ => True) fun _ _ => True) a.world

theorem held_set (h : SpoolHeld sha256 a) {x : Worker WorkerError BatchReport}
    (hx : Yields sha256 w Anything x fun _ => Anything) (failures : W → Nat) :
    SpoolHeld sha256 ⟨a.world.set w (some x.run), failures⟩ := by
  refine World.Held.set h fun q hq => ?_
  cases hq
  refine (hx a.world.shared h.inv trivial).mono fun r t _ _ => ?_
  cases r with
  | ok report | error e => trivial

theorem spoolHeld_step (h : SpoolHeld sha256 a)
    (hstep : OutboxStep (SyncedAnswers sha256) config a event b) : SpoolHeld sha256 b := by
  cases hstep with
  | start _ => exact held_set h (yields_startUp _) _
  | act hacts => exact World.Held.acts h hacts
  | serve _ _ => exact held_set h (yields_processOnceWith _ _) _
  | leave _ | die => exact World.Held.set h nofun
  | powerLoss => exact ⟨h.inv.powerLoss, nofun⟩
  | insert hfresh =>
    obtain ⟨hinv, hmoves⟩ := h.inv.insert hfresh
    exact World.Held.change h hinv fun _ _ => hmoves

omit [DecidableEq W] in
theorem spoolInv_empty : SpoolInv (W := W) sha256 (Outboxes.initial true).world.shared where
  anchored := rfl
  unique := List.nodup_nil
  files _ h := absurd h (Nat.not_lt_zero _)
  entries _ _ h := nomatch h
  synced _ _ h := nomatch h
  finals _ h := nomatch h
  kept _ _ h := nomatch h
  applied _ h := nomatch h

theorem spoolHeld_run (h : Run (outboxes (SyncedAnswers sha256) config) (.initial true) events a) :
    SpoolHeld sha256 a :=
  h.invariant (fun _ _ _ => spoolHeld_step) ⟨spoolInv_empty, nofun⟩

theorem subjects_step (h : SpoolHeld sha256 a)
    (hstep : OutboxStep (SyncedAnswers sha256) config a event b) :
    ∀ subject ∈ a.world.shared.subjects, subject ∈ b.world.shared.subjects := by
  cases hstep with
  | act hacts =>
    cases hacts with
    | call hprogram hanswer =>
      exact (h.safe _ _ hprogram _ h.inv (SpoolMoves.refl _) _ _ hanswer).1.moves.subjects
  | insert _ => exact fun subject hsubject => List.mem_cons_of_mem _ hsubject
  | start _ | serve _ _ | leave _ | die | powerLoss => exact fun _ => id

def DurablySpooled (sha256 : List UInt8 → Digest32) (s : Shared W) : Prop :=
  ∀ row ∈ s.outbox, ∀ receipt, row.state = .applied receipt →
    s.directory.Durable (finalName row.intentId) (spoolRecord row.subject) ∧
      receipt = sha256 (spoolRecord row.subject)

omit [DecidableEq W] in
theorem spooled_of_inv (h : SpoolInv sha256 s) : DurablySpooled sha256 s := by
  intro row hrow receipt hstate
  obtain ⟨hsynced, hreceipt⟩ := h.applied row hrow receipt hstate
  obtain ⟨file, hfile⟩ := Option.ne_none_iff_exists'.mp hsynced
  exact ⟨durable_iff.mpr ⟨h.anchored, file, hfile, h.finals row.subject
    (List.mem_map_of_mem hrow) file (h.kept _ _ hfile)⟩, hreceipt⟩

omit [DecidableEq W] in
theorem final_bytes (h : SpoolInv sha256 s) {id : IntentId} {bytes : List UInt8}
    (hread : s.directory.read (finalName id) = some bytes) :
    ∃ subject ∈ s.subjects, subject.id = id ∧ bytes = spoolRecord subject := by
  obtain ⟨file, hentry, rfl⟩ := Option.map_eq_some_iff.mp hread
  obtain ⟨hlt, id', origin, horigin, hbelongs, hmade⟩ := h.entries _ _ hentry
  obtain ⟨subject, howner⟩ := h.files file hlt
  obtain ⟨origin', horigin', hbelongs'⟩ := howner.origin
  cases Option.mem_unique horigin horigin'
  have hid : subject.id = id := (belongs_unique hbelongs' hmade).trans
    (belongs_unique hbelongs (.inl rfl))
  subst hid
  have hfull := howner.saved
  rw [h.finals subject howner.known file hentry] at hfull
  exact ⟨subject, howner.known, rfl, (hfull.eq_of_length_le howner.contents.length_le).symm⟩

theorem applied_durably_spooled {before after : List (Event W)}
    (h : Run (outboxes (SyncedAnswers sha256) config) (.initial true) before a)
    (h' : Run (outboxes (SyncedAnswers sha256) config) a after b) :
    DurablySpooled sha256 b.world.shared ∧
      ∀ row ∈ b.world.shared.outbox, ∀ bytes,
        a.world.shared.directory.read (finalName row.intentId) = some bytes →
          bytes = spoolRecord row.subject := by
  have hstart := spoolHeld_run h
  have hend := spoolHeld_run (h.append h')
  refine ⟨spooled_of_inv hend.inv, fun row hrow bytes hread => ?_⟩
  have hkept : ∀ subject ∈ a.world.shared.subjects, subject ∈ b.world.shared.subjects :=
    h'.monotone (I := SpoolHeld sha256) (R := fun a b => ∀ subject ∈ a.world.shared.subjects,
      subject ∈ b.world.shared.subjects) (fun _ _ => id)
      (fun _ _ _ h h' subject hsubject => h' subject (h subject hsubject))
      (fun _ _ _ h hstep => ⟨spoolHeld_step h hstep, subjects_step h hstep⟩) hstart
  obtain ⟨subject, hsubject, hid, rfl⟩ := final_bytes hstart.inv hread
  have hone := subject_unique hend.inv.unique (hkept subject hsubject)
    (List.mem_map_of_mem hrow) hid
  rw [hone]

end

end PersistencePg
