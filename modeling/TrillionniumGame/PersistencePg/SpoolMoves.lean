import TrillionniumGame.PersistencePg.OutboxWorker

namespace PersistencePg
open Directories Directory Persistence Programs

section
theorem hexDigits_inj {m n : Nat} (hm : m < 256) (hn : n < 256)
    (hhigh : Nat.digitChar (m / 16) = Nat.digitChar (n / 16))
    (hlow : Nat.digitChar (m % 16) = Nat.digitChar (n % 16)) : m = n := by
  have hdigit : ∀ a < 16, ∀ b < 16, Nat.digitChar a = Nat.digitChar b → a = b := by decide
  have hhigh' := hdigit _ (by omega) _ (by omega) hhigh
  have hlow' := hdigit _ (by omega) _ (by omega) hlow
  omega

theorem encodeHex_inj {a b : List UInt8} (h : encodeHex a = encodeHex b) : a = b := by
  induction a generalizing b with
  | nil =>
    cases b with
    | nil => rfl
    | cons y b => cases h
  | cons x a ih =>
    cases b with
    | nil => cases h
    | cons y b =>
      simp only [encodeHex, List.flatMap_cons, List.cons_append, List.nil_append,
        List.cons.injEq] at h
      obtain ⟨hhigh, hlow, hrest⟩ := h
      rw [UInt8.toNat_inj.mp (hexDigits_inj x.toNat_lt y.toNat_lt hhigh hlow), ih hrest]

theorem encodeHex_length (bytes : List UInt8) : (encodeHex bytes).length = 2 * bytes.length := by
  induction bytes with
  | nil => rfl
  | cons byte rest ih =>
    rw [encodeHex, List.flatMap_cons, List.length_append, List.length_cons, ← encodeHex, ih]
    simp only [List.length_cons, List.length_nil]
    omega

variable {id id' : IntentId}

theorem idHex_inj {rest rest' : List Char}
    (h : encodeHex id.bytes.toList ++ rest = encodeHex id'.bytes.toList ++ rest') : id = id' := by
  have hlength : (encodeHex id.bytes.toList).length = (encodeHex id'.bytes.toList).length := by
    rw [encodeHex_length, encodeHex_length, Vector.length_toList, Vector.length_toList]
  have hbytes := encodeHex_inj (List.append_inj_left h hlength)
  cases id
  cases id'
  exact congrArg _ (Vector.toList_inj.mp hbytes)

def Belongs (id : IntentId) (name : SpoolName) : Prop :=
  name = finalName id ∨ ∃ lease : OutboxLease, lease.id = id ∧ name = temporaryName lease

theorem finalName_inj (h : finalName id = finalName id') : id = id' :=
  idHex_inj h

theorem final_not_temporary (id : IntentId) (lease : OutboxLease) :
    finalName id ≠ temporaryName lease := by
  have hdot : ∀ n < 16, Nat.digitChar n ≠ '.' := by decide
  have hpos : 0 < id.bytes.toList.length := by simp
  obtain ⟨byte, rest, hcons⟩ := List.exists_cons_of_length_pos hpos
  intro h
  rw [finalName, hcons, encodeHex, List.flatMap_cons] at h
  exact hdot (byte.toNat / 16) (by have := byte.toNat_lt; omega) (List.cons.inj h).1

variable {name : SpoolName}

theorem belongs_unique (h : Belongs id name) (h' : Belongs id' name) : id = id' := by
  rcases h with rfl | ⟨lease, rfl, rfl⟩
  · rcases h' with hname | ⟨lease', -, hname⟩
    · exact finalName_inj hname
    · exact absurd hname (final_not_temporary id lease')
  · rcases h' with hname | ⟨lease', rfl, hname⟩
    · exact absurd hname.symm (final_not_temporary id' lease)
    · simp only [temporaryName, List.cons_append, List.append_assoc, List.cons.injEq,
        true_and] at hname
      exact idHex_inj hname

variable {W : Type} {sha256 : List UInt8 → Digest32} {s t u : Shared W}

def Shared.subjects (s : Shared W) : List OutboxSubject := s.outbox.map OutboxRow.subject

structure SpoolFile (s : Shared W) (file : Nat) (subject : OutboxSubject) : Prop where
  known : subject ∈ s.subjects
  origin : ∃ name, s.directory.origin file = some name ∧ Belongs subject.id name
  contents : s.directory.contents file <+: spoolRecord subject
  saved : s.directory.saved file <+: s.directory.contents file

structure SpoolInv (sha256 : List UInt8 → Digest32) (s : Shared W) : Prop where
  anchored : s.directory.anchored = true
  unique : (s.outbox.map OutboxRow.intentId).Nodup
  files : ∀ file < s.directory.next, ∃ subject, SpoolFile s file subject
  entries : ∀ name file, s.directory.entries name = some file → file < s.directory.next ∧
    ∃ id origin, s.directory.origin file = some origin ∧ Belongs id name ∧ Belongs id origin
  synced : ∀ name file, s.directory.synced name = some file → file < s.directory.next ∧
    ∃ id origin, s.directory.origin file = some origin ∧ Belongs id name ∧ Belongs id origin
  finals : ∀ subject ∈ s.subjects, ∀ file,
    s.directory.entries (finalName subject.id) = some file →
      s.directory.saved file = spoolRecord subject
  kept : ∀ id file, s.directory.synced (finalName id) = some file →
    s.directory.entries (finalName id) = some file
  applied : ∀ row ∈ s.outbox, ∀ receipt, row.state = .applied receipt →
    s.directory.synced (finalName row.intentId) ≠ none ∧ receipt = sha256 (spoolRecord row.subject)

structure SpoolMoves (s t : Shared W) : Prop where
  subjects : ∀ subject ∈ s.subjects, subject ∈ t.subjects
  finals : ∀ id file, s.directory.entries (finalName id) = some file →
    t.directory.entries (finalName id) = some file
  synced : ∀ id, s.directory.synced (finalName id) ≠ none →
    t.directory.synced (finalName id) ≠ none
  temporaries : ∀ lease file, s.directory.entries (temporaryName lease) = some file →
    t.directory.entries (temporaryName lease) = some file ∨
      t.directory.entries (finalName lease.id) ≠ none
  next : s.directory.next ≤ t.directory.next
  contents : ∀ file < s.directory.next, s.directory.contents file <+: t.directory.contents file
  saved : ∀ file < s.directory.next, s.directory.saved file <+: t.directory.saved file
  origins : ∀ file < s.directory.next, t.directory.origin file = s.directory.origin file

theorem SpoolMoves.refl (s : Shared W) : SpoolMoves s s where
  subjects _ h := h
  finals _ _ h := h
  synced _ h := h
  temporaries _ _ h := .inl h
  next := le_rfl
  contents _ _ := List.prefix_refl _
  saved _ _ := List.prefix_refl _
  origins _ _ := rfl

theorem SpoolMoves.present (h : SpoolMoves s t) (hs : s.directory.entries (finalName id) ≠ none) :
    t.directory.entries (finalName id) ≠ none := by
  obtain ⟨file, hfile⟩ := Option.ne_none_iff_exists'.mp hs
  rw [h.finals id file hfile]
  exact Option.some_ne_none file

theorem SpoolMoves.trans (h : SpoolMoves s t) (h' : SpoolMoves t u) : SpoolMoves s u where
  subjects subject hs := h'.subjects subject (h.subjects subject hs)
  finals id file hs := h'.finals id file (h.finals id file hs)
  synced id hs := h'.synced id (h.synced id hs)
  temporaries lease file hs := by
    rcases h.temporaries lease file hs with htemporary | hfinal
    · exact h'.temporaries lease file htemporary
    · exact .inr (h'.present hfinal)
  next := h.next.trans h'.next
  contents file hs := (h.contents file hs).trans (h'.contents file (hs.trans_le h.next))
  saved file hs := (h.saved file hs).trans (h'.saved file (hs.trans_le h.next))
  origins file hs := (h'.origins file (hs.trans_le h.next)).trans (h.origins file hs)

def Advances (sha256 : List UInt8 → Digest32) (s t : Shared W) : Prop :=
  SpoolInv sha256 t ∧ SpoolMoves s t

variable {subject : OutboxSubject}

theorem subject_unique (h : (s.outbox.map OutboxRow.intentId).Nodup) {subject' : OutboxSubject}
    (hsubject : subject ∈ s.subjects) (hsubject' : subject' ∈ s.subjects)
    (hid : subject.id = subject'.id) : subject = subject' := by
  obtain ⟨row, hrow, rfl⟩ := List.mem_map.mp hsubject
  obtain ⟨row', hrow', rfl⟩ := List.mem_map.mp hsubject'
  rw [List.inj_on_of_nodup_map h hrow hrow' hid]

variable {file : Nat}

theorem SpoolInv.owner (h : SpoolInv sha256 s) (hsubject : subject ∈ s.subjects)
    {origin : SpoolName} (hfile : file < s.directory.next)
    (horigin : s.directory.origin file = some origin) (hbelongs : Belongs subject.id origin) :
    SpoolFile s file subject := by
  obtain ⟨owner, hfileOf⟩ := h.files file hfile
  obtain ⟨origin', horigin', hbelongs'⟩ := hfileOf.origin
  rw [horigin] at horigin'
  cases horigin'
  have hid := belongs_unique hbelongs hbelongs'
  exact subject_unique h.unique hsubject hfileOf.known hid ▸ hfileOf

theorem SpoolInv.entryOwner (h : SpoolInv sha256 s) (hsubject : subject ∈ s.subjects)
    (hname : Belongs subject.id name) (hentry : s.directory.entries name = some file) :
    SpoolFile s file subject := by
  obtain ⟨hfile, id, origin, horigin, hbelongs, hsame⟩ := h.entries name file hentry
  have hid := belongs_unique hname hbelongs
  exact h.owner hsubject hfile horigin (hid ▸ hsame)

end

section
variable {W : Type} {sha256 : List UInt8 → Digest32} {s t : Shared W} {lease : OutboxLease}
  {subject : OutboxSubject} {file : Nat}

theorem temporary_belongs (lease : OutboxLease) :
    Belongs lease.subject.id (temporaryName lease) := .inr ⟨lease, rfl, rfl⟩

variable (h : SpoolInv sha256 s)
include h

theorem SpoolInv.make : Advances sha256 s { s with directory := s.directory.make } :=
  ⟨⟨h.anchored, h.unique, fun file hfile => by
    obtain ⟨subject, hfileOf⟩ := h.files file hfile
    exact ⟨subject, hfileOf.known, hfileOf.origin, hfileOf.contents, hfileOf.saved⟩,
    h.entries, h.synced, h.finals, h.kept, h.applied⟩,
   fun _ => id, fun _ _ => id, fun _ => id, fun _ _ h => .inl h, le_rfl,
   fun _ _ => List.prefix_refl _, fun _ _ => List.prefix_refl _, fun _ _ => rfl⟩

theorem SpoolInv.create (hlease : lease.subject ∈ s.subjects)
    (hfree : s.directory.entries (temporaryName lease) = none) :
    Advances sha256 s { s with directory := s.directory.create (temporaryName lease) } := by
  have hfinal : ∀ id, (s.directory.create (temporaryName lease)).entries (finalName id) =
      s.directory.entries (finalName id) := fun id =>
    create_entries_old (final_not_temporary id lease)
  have hcontents : ∀ file < s.directory.next, (s.directory.create (temporaryName lease)).contents
      file = s.directory.contents file := fun _ => create_contents_old
  have hsaved : ∀ file < s.directory.next, (s.directory.create (temporaryName lease)).saved
      file = s.directory.saved file := fun _ => create_saved_old
  have horigin : ∀ file < s.directory.next, (s.directory.create (temporaryName lease)).origin
      file = s.directory.origin file := fun _ => create_origin_old
  refine ⟨⟨h.anchored, h.unique, ?_, ?_, ?_, ?_, ?_, h.applied⟩, fun _ => id, ?_, fun _ => id,
    ?_, Nat.le_succ _, ?_, ?_, horigin⟩
  · intro file hfile
    rcases Nat.lt_succ_iff_lt_or_eq.mp hfile with hlt | rfl
    · obtain ⟨subject, hknown, ⟨name, hname, hbelongs⟩, hprefix, hless⟩ := h.files file hlt
      refine ⟨subject, hknown, ⟨name, (horigin file hlt).trans hname, hbelongs⟩, ?_, ?_⟩
      · exact (hcontents file hlt).symm ▸ hprefix
      · exact (hsaved file hlt).symm ▸ (hcontents file hlt).symm ▸ hless
    · have hnew : (s.directory.create (temporaryName lease)).contents s.directory.next = [] :=
        create_contents_new
      have hnone : (s.directory.create (temporaryName lease)).saved s.directory.next = [] :=
        create_saved_new
      refine ⟨lease.subject, hlease, ⟨temporaryName lease, create_origin_new,
        temporary_belongs lease⟩, ?_, ?_⟩
      · exact hnew.symm ▸ List.nil_prefix
      · exact hnone.symm ▸ List.nil_prefix
  · intro name file hentry
    by_cases hname : name = temporaryName lease
    · subst hname
      cases Option.mem_unique create_entries_new hentry
      exact ⟨Nat.lt_succ_self _, lease.subject.id, _, create_origin_new, temporary_belongs lease,
        temporary_belongs lease⟩
    · obtain ⟨hlt, id, origin, hmade, hbelongs⟩ :=
        h.entries name file ((create_entries_old hname).symm.trans hentry)
      exact ⟨Nat.lt_succ_of_lt hlt, id, origin, (horigin file hlt).trans hmade, hbelongs⟩
  · intro name file hentry
    obtain ⟨hlt, id, origin, hmade, hbelongs⟩ := h.synced name file hentry
    exact ⟨Nat.lt_succ_of_lt hlt, id, origin, (horigin file hlt).trans hmade, hbelongs⟩
  · intro subject hsubject file hentry
    have hold := (hfinal subject.id).symm.trans hentry
    exact (hsaved file (h.entries _ _ hold).1).trans (h.finals subject hsubject file hold)
  · exact fun id file hsynced => (hfinal id).trans (h.kept id file hsynced)
  · exact fun id file hentry => (hfinal id).trans hentry
  · intro lease' file hentry
    have hne : temporaryName lease' ≠ temporaryName lease := by
      intro heq
      rw [heq, hfree] at hentry
      cases hentry
    exact .inl ((create_entries_old hne).trans hentry)
  · exact fun file hfile => (hcontents file hfile).symm ▸ List.prefix_refl _
  · exact fun file hfile => (hsaved file hfile).symm ▸ List.prefix_refl _

theorem SpoolInv.refill {d : Directory SpoolName UInt8}
    (hanchored : d.anchored = s.directory.anchored) (hentries : d.entries = s.directory.entries)
    (hsynced : d.synced = s.directory.synced) (horigin : d.origin = s.directory.origin)
    (hnext : d.next = s.directory.next)
    (hcontents : ∀ file < s.directory.next, s.directory.contents file <+: d.contents file)
    (hsaved : ∀ file < s.directory.next, s.directory.saved file <+: d.saved file)
    (hfiles : ∀ file subject, SpoolFile s file subject → d.contents file <+: spoolRecord subject ∧ d.saved file <+: d.contents file) :
    Advances sha256 s { s with directory := d } := by
  refine ⟨⟨hanchored.trans h.anchored, h.unique, ?_, ?_, ?_, ?_, ?_, ?_⟩, fun _ => id, ?_, ?_, ?_,
    hnext.ge, hcontents, hsaved, fun file _ => congrFun horigin file⟩
  · intro file hfile
    obtain ⟨subject, hfileOf⟩ := h.files file (hnext ▸ hfile)
    obtain ⟨hwhole, hpart⟩ := hfiles file subject hfileOf
    obtain ⟨name, hname, hbelongs⟩ := hfileOf.origin
    exact ⟨subject, hfileOf.known, ⟨name, (congrFun horigin file).trans hname, hbelongs⟩, hwhole,
      hpart⟩
  · intro name file hentry
    obtain ⟨hlt, id, origin, hmade, hbelongs⟩ :=
      h.entries name file ((congrFun hentries name).symm.trans hentry)
    exact ⟨hnext ▸ hlt, id, origin, (congrFun horigin file).trans hmade, hbelongs⟩
  · intro name file hentry
    obtain ⟨hlt, id, origin, hmade, hbelongs⟩ :=
      h.synced name file ((congrFun hsynced name).symm.trans hentry)
    exact ⟨hnext ▸ hlt, id, origin, (congrFun horigin file).trans hmade, hbelongs⟩
  · intro subject hsubject file hentry
    have hold := (congrFun hentries _).symm.trans hentry
    have hlt := (h.entries _ _ hold).1
    have hfileOf := h.entryOwner hsubject (.inl rfl) hold
    obtain ⟨hwhole, hpart⟩ := hfiles file subject hfileOf
    have hfull := hsaved file hlt
    rw [h.finals subject hsubject file hold] at hfull
    exact ((hfull.eq_of_length_le (hpart.trans hwhole).length_le)).symm
  · intro id file hentry
    exact (congrFun hentries _).trans (h.kept id file ((congrFun hsynced _).symm.trans hentry))
  · intro row hrow receipt hstate
    obtain ⟨hdurable, hreceipt⟩ := h.applied row hrow receipt hstate
    exact ⟨hsynced ▸ hdurable, hreceipt⟩
  · exact fun id file hentry => (congrFun hentries _).trans hentry
  · exact fun id hentry => hsynced ▸ hentry
  · exact fun lease file hentry => .inl ((congrFun hentries _).trans hentry)

theorem SpoolInv.write (hfile : SpoolFile s file subject) {position : Nat} {byte : UInt8}
    {rest : List UInt8}
    (hwritten : (spoolRecord subject).take position <+: s.directory.contents file)
    (hnext : (spoolRecord subject).drop position = byte :: rest) :
    Advances sha256 s { s with directory := s.directory.write file position byte } ∧
      (spoolRecord subject).take (position + 1) <+:
        (s.directory.write file position byte).contents file := by
  obtain ⟨hgrows, hwhole, hmore⟩ := overwrite_prefix hfile.contents hwritten hnext
  have hsame := write_same s.directory file position byte
  rw [← hsame] at hgrows hwhole hmore
  refine ⟨h.refill rfl rfl rfl rfl rfl ?_ (fun _ _ => List.prefix_refl _) ?_, hmore⟩
  · intro other _
    by_cases heq : other = file
    · exact heq ▸ hgrows
    · exact (write_other heq position byte).symm ▸ List.prefix_refl _
  · intro other owner howner
    by_cases heq : other = file
    · subst heq
      have hone : owner = subject := by
        obtain ⟨name, hname, hbelongs⟩ := howner.origin
        obtain ⟨name', hname', hbelongs'⟩ := hfile.origin
        rw [hname] at hname'
        cases hname'
        exact subject_unique h.unique howner.known hfile.known (belongs_unique hbelongs hbelongs')
      exact ⟨hone ▸ hwhole, howner.saved.trans hgrows⟩
    · have hother := write_other (d := s.directory) heq position byte
      rw [hother]
      exact ⟨howner.contents, howner.saved⟩

theorem SpoolInv.syncFile (hlt : file < s.directory.next) :
    Advances sha256 s { s with directory := s.directory.syncFile file } := by
  have hsaved : ∀ other owner, SpoolFile s other owner →
      s.directory.saved other <+: (s.directory.syncFile file).saved other ∧
        (s.directory.syncFile file).saved other <+: s.directory.contents other := by
    intro other owner howner
    by_cases heq : other = file
    · subst heq
      rw [syncFile_same]
      exact ⟨howner.saved, List.prefix_refl _⟩
    · rw [syncFile_other heq]
      exact ⟨List.prefix_refl _, howner.saved⟩
  refine h.refill rfl rfl rfl rfl rfl (fun _ _ => List.prefix_refl _) ?_ ?_
  · intro other hother
    obtain ⟨owner, howner⟩ := h.files other hother
    exact (hsaved other owner howner).1
  · exact fun other owner howner => ⟨howner.contents, (hsaved other owner howner).2⟩

theorem SpoolInv.link (hlease : lease.subject ∈ s.subjects)
    (hentry : s.directory.entries (temporaryName lease) = some file)
    (hfree : s.directory.entries (finalName lease.id) = none)
    (hsaved : s.directory.saved file = spoolRecord lease.subject) :
    Advances sha256 s { s with directory := s.directory.link (finalName lease.id) file } := by
  have hlinked : (s.directory.link (finalName lease.id) file).entries (finalName lease.id) =
      some file := link_same
  have hother : ∀ name, name ≠ finalName lease.id →
      (s.directory.link (finalName lease.id) file).entries name = s.directory.entries name :=
    fun _ => link_other
  have hfinal : ∀ id made, s.directory.entries (finalName id) = some made →
      finalName id ≠ finalName lease.id := by
    intro id made hmade heq
    rw [heq, hfree] at hmade
    cases hmade
  refine ⟨⟨h.anchored, h.unique, ?_, ?_, h.synced, ?_, ?_, h.applied⟩, fun _ => id, ?_,
    fun _ => id, ?_, le_rfl, fun _ _ => List.prefix_refl _, fun _ _ => List.prefix_refl _,
    fun _ _ => rfl⟩
  · intro made hmade
    obtain ⟨subject, howner⟩ := h.files made hmade
    exact ⟨subject, howner.known, howner.origin, howner.contents, howner.saved⟩
  · intro name made hmade
    by_cases heq : name = finalName lease.id
    · subst heq
      cases Option.mem_unique hlinked hmade
      obtain ⟨hlt, -⟩ := h.entries _ _ hentry
      obtain ⟨origin, horigin, hbelongs⟩ :=
        (h.entryOwner hlease (temporary_belongs lease) hentry).origin
      exact ⟨hlt, lease.subject.id, origin, horigin, .inl rfl, hbelongs⟩
    · exact h.entries name made ((hother name heq).symm.trans hmade)
  · intro subject hsubject made hmade
    by_cases heq : finalName subject.id = finalName lease.id
    · have hone : subject = lease.subject :=
        subject_unique h.unique hsubject hlease (finalName_inj heq)
      subst hone
      cases Option.mem_unique hlinked hmade
      exact hsaved
    · exact h.finals subject hsubject made ((hother _ heq).symm.trans hmade)
  · intro id made hmade
    have hkept := h.kept id made hmade
    exact (hother _ (hfinal id made hkept)).trans hkept
  · exact fun id made hmade => (hother _ (hfinal id made hmade)).trans hmade
  · exact fun lease' made hmade =>
      .inl ((hother _ (final_not_temporary lease.id lease').symm).trans hmade)

theorem SpoolInv.remove (hfinal : s.directory.entries (finalName lease.id) ≠ none) :
    Advances sha256 s { s with directory := s.directory.remove (temporaryName lease) } := by
  have hother : ∀ name, name ≠ temporaryName lease →
      (s.directory.remove (temporaryName lease)).entries name = s.directory.entries name :=
    fun _ => remove_other
  have hold : ∀ name made, (s.directory.remove (temporaryName lease)).entries name = some made →
      s.directory.entries name = some made := by
    intro name made hmade
    by_cases heq : name = temporaryName lease
    · subst heq
      rw [remove_same] at hmade
      cases hmade
    · exact (hother name heq).symm.trans hmade
  have hkept : ∀ id, (s.directory.remove (temporaryName lease)).entries (finalName id) =
      s.directory.entries (finalName id) := fun id => hother _ (final_not_temporary id lease)
  refine ⟨⟨h.anchored, h.unique, ?_, fun name made hmade => h.entries name made (hold _ _ hmade),
    h.synced, fun subject hsubject made hmade => h.finals subject hsubject made (hold _ _ hmade),
    fun id made hmade => (hkept id).trans (h.kept id made hmade), h.applied⟩, fun _ => id,
    fun id made hmade => (hkept id).trans hmade, fun _ => id, ?_, le_rfl,
    fun _ _ => List.prefix_refl _, fun _ _ => List.prefix_refl _, fun _ _ => rfl⟩
  · intro made hmade
    obtain ⟨subject, howner⟩ := h.files made hmade
    exact ⟨subject, howner.known, howner.origin, howner.contents, howner.saved⟩
  · intro lease' made hmade
    by_cases heq : temporaryName lease' = temporaryName lease
    · have hid := belongs_unique (heq ▸ temporary_belongs lease') (temporary_belongs lease)
      refine .inr ?_
      rw [hkept, show lease'.id = lease.id from hid]
      exact hfinal
    · exact .inl ((hother _ heq).trans hmade)

theorem SpoolInv.sync : Advances sha256 s { s with directory := s.directory.sync } := by
  have hkept : ∀ id, s.directory.synced (finalName id) ≠ none →
      s.directory.entries (finalName id) ≠ none := by
    intro id hsynced
    obtain ⟨file, hfile⟩ := Option.ne_none_iff_exists'.mp hsynced
    rw [h.kept id file hfile]
    exact Option.some_ne_none file
  refine ⟨⟨h.anchored, h.unique, ?_, h.entries, h.entries, h.finals, fun _ _ => id, ?_⟩,
    fun _ => id, fun _ _ => id, hkept, fun _ _ h => .inl h, le_rfl,
    fun _ _ => List.prefix_refl _, fun _ _ => List.prefix_refl _, fun _ _ => rfl⟩
  · intro made hmade
    obtain ⟨subject, howner⟩ := h.files made hmade
    exact ⟨subject, howner.known, howner.origin, howner.contents, howner.saved⟩
  · intro row hrow receipt hstate
    obtain ⟨hsynced, hreceipt⟩ := h.applied row hrow receipt hstate
    exact ⟨hkept _ hsynced, hreceipt⟩

theorem SpoolInv.rows (hdirectory : t.directory = s.directory) (hsubjects : t.subjects = s.subjects)
    (happlied : ∀ row ∈ t.outbox, ∀ receipt, row.state = .applied receipt → s.directory.synced (finalName row.intentId) ≠ none ∧ receipt = sha256 (spoolRecord row.subject)) : Advances sha256 s t := by
  have hids : ∀ s : Shared W,
      s.outbox.map OutboxRow.intentId = s.subjects.map OutboxSubject.id := fun s =>
    (List.map_map (f := OutboxRow.subject) (g := OutboxSubject.id)).symm
  have hunique : (t.outbox.map OutboxRow.intentId).Nodup := by
    rw [hids, hsubjects, ← hids]
    exact h.unique
  obtain ⟨d, outbox, obtained, tried, waiting⟩ := t
  dsimp only at hdirectory
  subst hdirectory
  refine ⟨⟨h.anchored, hunique, ?_, h.entries, h.synced, hsubjects ▸ h.finals, h.kept, happlied⟩,
    fun subject hsubject => hsubjects.symm ▸ hsubject, fun _ _ => id, fun _ => id,
    fun _ _ h => .inl h, le_rfl, fun _ _ => List.prefix_refl _,
    fun _ _ => List.prefix_refl _, fun _ _ => rfl⟩
  intro file hfile
  obtain ⟨subject, howner⟩ := h.files file hfile
  exact ⟨subject, hsubjects.symm ▸ howner.known, howner.origin, howner.contents, howner.saved⟩

theorem SpoolInv.insert {row : OutboxRow} (hfresh : row.Fresh s.outbox) :
    Advances sha256 s (s.insert row) := by
  have hnew : ∀ subject ∈ s.subjects, subject.id ≠ row.intentId := by
    intro subject hsubject
    obtain ⟨held, hheld, rfl⟩ := List.mem_map.mp hsubject
    exact hfresh.unused held hheld
  refine ⟨⟨h.anchored, ?_, ?_, h.entries, h.synced, ?_, h.kept, ?_⟩,
    fun _ hsubject => List.mem_cons_of_mem _ hsubject, fun _ _ => id, fun _ => id,
    fun _ _ h => .inl h, le_rfl, fun _ _ => List.prefix_refl _,
    fun _ _ => List.prefix_refl _, fun _ _ => rfl⟩
  · refine List.nodup_cons.mpr ⟨fun hmem => ?_, h.unique⟩
    obtain ⟨held, hheld, hid⟩ := List.mem_map.mp hmem
    exact hfresh.unused held hheld hid
  · intro file hfile
    obtain ⟨subject, howner⟩ := h.files file hfile
    exact ⟨subject, List.mem_cons_of_mem _ howner.known, howner.origin, howner.contents,
      howner.saved⟩
  · intro subject hsubject file hentry
    rcases List.mem_cons.mp hsubject with rfl | hold
    · obtain ⟨hlt, id, origin, horigin, hbelongs, hmade⟩ := h.entries _ _ hentry
      obtain ⟨owner, howner⟩ := h.files file hlt
      obtain ⟨origin', horigin', hbelongs'⟩ := howner.origin
      cases Option.mem_unique horigin horigin'
      have hid := (belongs_unique hmade hbelongs').symm.trans
        (belongs_unique hbelongs (.inl rfl))
      exact absurd hid (hnew owner howner.known)
    · exact h.finals subject hold file hentry
  · intro held hheld receipt hstate
    rcases List.mem_cons.mp hheld with rfl | hold
    · rw [hfresh.state] at hstate
      cases hstate
    · exact h.applied held hold receipt hstate

theorem SpoolInv.powerLoss : SpoolInv sha256 s.powerLoss := by
  have hentries : ∀ name, s.directory.powerLoss.entries name = s.directory.synced name :=
    fun name => if_pos h.anchored
  have hsynced : ∀ name, s.directory.powerLoss.synced name = s.directory.synced name :=
    fun name => if_pos h.anchored
  refine ⟨h.anchored, h.unique, ?_, fun name file hentry => h.synced name file
    ((hentries name).symm.trans hentry), fun name file hentry => h.synced name file
    ((hsynced name).symm.trans hentry), ?_, fun id file hentry => ?_, ?_⟩
  · intro file hfile
    obtain ⟨subject, howner⟩ := h.files file hfile
    exact ⟨subject, howner.known, howner.origin, howner.saved.trans howner.contents,
      List.prefix_refl _⟩
  · intro subject hsubject file hentry
    exact h.finals subject hsubject file (h.kept _ _ ((hentries _).symm.trans hentry))
  · exact (hentries _).trans ((hsynced _).symm.trans hentry)
  · intro row hrow receipt hstate
    obtain ⟨hdurable, hreceipt⟩ := h.applied row hrow receipt hstate
    refine ⟨?_, hreceipt⟩
    change s.directory.powerLoss.synced _ ≠ none
    rw [hsynced]
    exact hdurable

end

end PersistencePg
