import TrillionniumGame.PersistencePg.SpoolDurability

namespace PersistencePg
open Checks Directories Directory Persistence Programs Runs

section
variable {W : Type} [DecidableEq W] {w : W}
  {answers : W → (c : Call) → Shared W → c.Reply → Shared W → Prop}
  {p q : Program Call Call.Reply Outcome} {s t u : Shared W} {a : Outboxes W}

theorem run_executes (config : W → WorkerConfig) (h : Executes answers w p s q t)
    (hshared : a.world.shared = s) (hprogram : a.world.programs w = some p) :
    ∃ n, Run (outboxes answers config) a (List.replicate n (.act w))
      ⟨⟨t, Function.update a.world.programs w (some q)⟩, a.failures⟩ := by
  induction h generalizing a with
  | here =>
    refine ⟨0, ?_⟩
    rw [← hprogram, Function.update_eq_self, ← hshared]
    exact .nil a
  | @step p q s t u c next r hcall hanswer _ ih =>
    subst hshared
    rw [hcall] at hprogram
    obtain ⟨n, hrun⟩ := ih
      (a := ⟨World.set { a.world with shared := t } w (some (next r)), a.failures⟩)
      rfl (Function.update_self _ _ _)
    refine ⟨n + 1, Run.cons (.act (.call hprogram hanswer)) ?_⟩
    rwa [World.set, Function.update_idem] at hrun

theorem run_start (config : W → WorkerConfig) (hidle : a.world.programs w = none)
    (h : Executes answers w (startUp (config w)).run a.world.shared q t) :
    ∃ n, Run (outboxes answers config) a (.start w :: List.replicate n (.act w))
      ⟨⟨t, Function.update a.world.programs w (some q)⟩, Function.update a.failures w 0⟩ := by
  obtain ⟨n, hrun⟩ := run_executes config
    (a := ⟨a.world.set w (some (startUp (config w)).run), Function.update a.failures w 0⟩) h rfl
    (Function.update_self _ _ _)
  refine ⟨n, Run.cons (.start hidle) ?_⟩
  rwa [World.set, Function.update_idem] at hrun

omit [DecidableEq W] in
theorem executes_startUp {c : WorkerConfig} (hmade : answers w .createDirAll s (.ok ()) t)
    (hrest : Executes answers w (processOnce c).run t q u) :
    Executes answers w (startUp c).run s q u := by
  refine Executes.bind (a := ()) ?_ hrest
  exact Executes.ask hmade .here

omit [DecidableEq W] in
theorem executes_processOnce {c : WorkerConfig} {report : BatchReport}
    (h : Executes answers w (processOnceAttempt c).run s (.done (.ok report)) t) :
    Executes answers w (processOnce c).run s (.done (.ok report)) t :=
  Executes.attempt h .here

omit [DecidableEq W] in
theorem executes_processOnce_part {c : WorkerConfig}
    (h : Executes answers w (processOnceAttempt c).run s q t) :
    ∃ q', Executes answers w (processOnce c).run s q' t :=
  ⟨_, (h.within fun r => Program.done (Except.ok r)).within
    (ExceptT.bindCont (again (processOnceWith c 3)))⟩

omit [DecidableEq W] in
theorem executes_processLeases_part (c : WorkerConfig) {lease : OutboxLease}
    (rest : List OutboxLease) (report : BatchReport)
    {q : Program Call Call.Reply (Except DeliveryFailure Digest32)}
    (h : Executes answers w (deliver lease).run s q t) :
    ∃ q', Executes answers w (processLeases c (lease :: rest) report).run s q' t :=
  ⟨_, ((h.within fun r => Program.done (Except.ok r)).within
    (ExceptT.bindCont (settle c lease report))).within (ExceptT.bindCont (processLeases c rest))⟩

omit [DecidableEq W] in
theorem executes_processOnceAttempt {c : WorkerConfig} {now : Nat} {batch : OutboxClaimBatch}
    (hnow : answers w .nowMillis s (.ok now) s) (hacquire : answers w .acquire s (.ok ()) s)
    (hclaim : answers w
      (.claimOutboxBatch c.node now c.leaseDurationMs c.maxAttempts c.batchSize) s (.ok batch) t)
    (hrest : Executes answers w (processLeases c batch.leases
      ⟨batch.leases.length, 0, 0, batch.reapedDeadLetters⟩).run t q u) :
    Executes answers w (processOnceAttempt c).run s q u := by
  refine Executes.bind (Executes.ask hnow .here) ?_
  refine Executes.ask hacquire (Executes.reply rfl ?_)
  exact Executes.ask hclaim (Executes.reply rfl hrest)

omit [DecidableEq W] in
theorem executes_completed {c : WorkerConfig} {lease : OutboxLease} {receipt : Digest32}
    {now : Nat} {report : BatchReport}
    (hdelivered : Executes answers w (deliver lease).run s (.done (.ok receipt)) t)
    (hnow : answers w .nowMillis t (.ok now) t)
    (hcompleted : answers w (.completeOutbox lease receipt now) t (.ok ()) u) :
    Executes answers w (processLeases c [lease] report).run s
      (.done (.ok { report with completed := report.completed + 1 })) u := by
  refine Executes.bind (Executes.attempt hdelivered ?_) .here
  refine Executes.bind (Executes.ask hnow .here) ?_
  exact Executes.ask hcompleted (Executes.reply rfl .here)

end

section
variable {W : Type} [DecidableEq W] {w : W} {s : Shared W}
  {sha256 : List UInt8 → Digest32} {lease : OutboxLease}
variable (d : Directory SpoolName UInt8)

def fill (file : Nat) (bytes : List UInt8) :
    Directory SpoolName UInt8 :=
  { d with contents := Function.update d.contents file bytes }

theorem executes_writeAll {file position : Nat} {whole rest : List UInt8}
    (hrest : whole.drop position = rest)
    (hwritten : s.directory.contents file = whole.take position) :
    Executes (SyncedAnswers sha256) w (writeAll file position rest).run s (.done (.ok ()))
      { s with directory := fill s.directory file whole } := by
  induction rest generalizing s position with
  | nil =>
    rw [List.take_of_length_le (List.drop_eq_nil_iff.mp hrest)] at hwritten
    have hsame : fill s.directory file whole = s.directory := by
      rw [fill, ← hwritten, Function.update_eq_self]
    rw [hsame]
    exact .here
  | cons byte rest ih =>
    have hlength : position < whole.length := by
      have hdrop := congrArg List.length hrest
      rw [List.length_drop, List.length_cons] at hdrop
      omega
    have hnext : whole.drop (position + 1) = rest := by
      rw [← List.drop_drop, hrest]
      rfl
    have hmore : (s.directory.write file position byte).contents file =
        whole.take (position + 1) := by
      rw [write_same, hwritten, List.take_take, Nat.min_self, List.drop_take,
        Nat.sub_eq_zero_of_le (Nat.le_succ _), List.take_zero, List.take_add, hrest]
      rfl
    refine Executes.ask (c := Call.write file position byte) (r := Except.ok ())
      (t := { s with directory := s.directory.write file position byte })
      ⟨⟨_, Effect.done, rfl⟩, trivial⟩ ?_
    have hfill : fill (s.directory.write file position byte) file whole =
        fill s.directory file whole := by
      rw [fill, fill, Directory.write, Function.update_idem]
    exact .bind .here (hfill ▸ ih (s := { s with
      directory := s.directory.write file position byte }) hnext hmore)

def prepared (path : SpoolName) (bytes : List UInt8) :
    Directory SpoolName UInt8 :=
  (fill (d.create path) d.next bytes).syncFile d.next

variable {path : SpoolName}

theorem executes_prepare {bytes : List UInt8} (hpresent : s.directory.present = true)
    (hfree : s.directory.entries path = none) :
    Executes (SyncedAnswers sha256) w (prepareTemporaryFile path bytes).run s (.done (.ok ()))
      { s with directory := prepared s.directory path bytes } := by
  refine Executes.ask (c := Call.createNew path) (r := Except.ok s.directory.next)
    (t := { s with directory := s.directory.create path })
    ⟨⟨_, Creates.created hpresent hfree, rfl⟩, trivial⟩ ?_
  refine Executes.bind (executes_writeAll rfl create_contents_new) ?_
  refine Executes.ask (c := Call.syncAll s.directory.next) (r := Except.ok ())
    (t := { s with directory := prepared s.directory path bytes })
    ⟨⟨_, Effect.done, rfl⟩, trivial⟩ ?_
  exact .here

variable {record : List UInt8}

theorem executes_verifyExistingFile (hread : s.directory.read path = some record) :
    Executes (SyncedAnswers sha256) w (verifyExistingFile path record).run s
      (.done (.ok ())) s := by
  have hentry : s.directory.entries path ≠ none := fun h => by
    rw [Directory.read, h] at hread
    cases hread
  have hmetadata : SyncedAnswers sha256 w (.symlinkMetadata path) s (.ok true) s :=
    ⟨⟨rfl, fun _ h => ⟨(Except.ok.inj h).symm, hentry⟩⟩, trivial⟩
  have hcontents : SyncedAnswers sha256 w (.read path) s (.ok record) s :=
    ⟨⟨rfl, fun _ h => Except.ok.inj h ▸ hread⟩, trivial⟩
  refine Executes.ask hmetadata (Executes.reply rfl (Executes.reply rfl ?_))
  refine Executes.ask hcontents (Executes.reply rfl ?_)
  rw [require_of rfl]
  exact .here

theorem executes_confirm (hread : s.directory.read path = some record) :
    Executes (SyncedAnswers sha256) w (confirm path record).run s
      (.done (.ok (sha256 record))) s := by
  have hdigest : SyncedAnswers sha256 w (.sha256Delivery record) s (some (sha256 record)) s :=
    ⟨⟨rfl, fun _ h => (Option.some.inj h).symm⟩, trivial⟩
  exact Executes.bind (executes_verifyExistingFile hread) (Executes.ask hdigest .here)

def linked (lease : OutboxLease) : Directory SpoolName UInt8 :=
  (prepared d (temporaryName lease) (spoolRecord lease.subject)).link (finalName lease.id) d.next

def published (lease : OutboxLease) :
    Directory SpoolName UInt8 :=
  ((linked d lease).remove (temporaryName lease)).sync

structure Unspooled (d : Directory SpoolName UInt8) (lease : OutboxLease) : Prop where
  present : d.present = true
  final : d.entries (finalName lease.id) = none
  temporary : d.entries (temporaryName lease) = none

theorem read_linked (lease : OutboxLease) :
    (linked d lease).read (finalName lease.id) = some (spoolRecord lease.subject) := by
  rw [Directory.read, linked, link_same]
  exact congrArg some (Function.update_self _ _ _)

theorem read_published (lease : OutboxLease) :
    (published d lease).read (finalName lease.id) = some (spoolRecord lease.subject) := by
  have hentry := remove_other (d := linked d lease) (final_not_temporary lease.id lease)
  rw [← read_linked d lease, Directory.read, Directory.read]
  exact congrArg (Option.map (linked d lease).contents) hentry

theorem executes_link (h : Unspooled s.directory lease)
    {q : Program Call Call.Reply (Except DeliveryFailure Digest32)} {t : Shared W}
    (hrest : Executes (SyncedAnswers sha256) w (do
      settleLink (finalName lease.id) (spoolRecord lease.subject) (.ok ())
      let _ ← ask (.removeFile (temporaryName lease))
      let synced ← ask .syncDirectory
      failing "spool_directory_sync_failed" synced
      confirm (finalName lease.id) (spoolRecord lease.subject) : Worker DeliveryFailure _).run
      ({ s with directory := linked s.directory lease }.tries w lease) q t) :
    Executes (SyncedAnswers sha256) w (deliver lease).run s q t := by
  have htried : SyncedAnswers sha256 w (.deliver lease) s () (s.tries w lease) := ⟨rfl, trivial⟩
  have hmissing : SyncedAnswers sha256 w (.pathExists (finalName lease.id)) (s.tries w lease) false
      (s.tries w lease) := ⟨⟨rfl, fun h => nomatch h⟩, fun h => nomatch h⟩
  have hfree : (prepared s.directory (temporaryName lease) (spoolRecord lease.subject)).entries
      (finalName lease.id) = none :=
    (create_entries_old (final_not_temporary lease.id lease)).trans h.final
  have hlinked : SyncedAnswers sha256 w (.hardLink (temporaryName lease) (finalName lease.id))
      ({ s with
        directory := prepared s.directory (temporaryName lease) (spoolRecord lease.subject)
        }.tries w lease) (.ok ())
      ({ s with directory := linked s.directory lease }.tries w lease) :=
    ⟨⟨_, .linked create_entries_new hfree, rfl⟩, trivial⟩
  refine Executes.ask htried (Executes.ask hmissing ?_)
  exact Executes.bind (executes_prepare h.present h.temporary) (Executes.ask hlinked hrest)

theorem executes_deliver (h : Unspooled s.directory lease) :
    Executes (SyncedAnswers sha256) w (deliver lease).run s
      (.done (.ok (sha256 (spoolRecord lease.subject))))
      ({ s with directory := published s.directory lease }.tries w lease) := by
  have hremoved : SyncedAnswers sha256 w (.removeFile (temporaryName lease))
      ({ s with directory := linked s.directory lease }.tries w lease) (.ok ())
      ({ s with directory := (linked s.directory lease).remove (temporaryName lease)
        }.tries w lease) :=
    ⟨⟨_, .done, rfl⟩, trivial⟩
  have hsynced : SyncedAnswers sha256 w .syncDirectory
      ({ s with directory := (linked s.directory lease).remove (temporaryName lease)
        }.tries w lease) (.ok ())
      ({ s with directory := published s.directory lease }.tries w lease) :=
    ⟨⟨_, .done, rfl⟩, trivial⟩
  refine executes_link h (Executes.bind .here (Executes.ask hremoved (Executes.ask hsynced ?_)))
  exact Executes.reply rfl (executes_confirm (read_published s.directory lease))

theorem executes_deliver_again
    (hread : s.directory.read (finalName lease.id) = some (spoolRecord lease.subject)) :
    Executes (Answers sha256) w (deliver lease).run s
      (.done (.ok (sha256 (spoolRecord lease.subject)))) (s.tries w lease) := by
  have hentry : s.directory.entries (finalName lease.id) ≠ none := fun h => by
    rw [Directory.read, h] at hread
    cases hread
  have htried : Answers sha256 w (.deliver lease) s () (s.tries w lease) := rfl
  have hfound : Answers sha256 w (.pathExists (finalName lease.id)) (s.tries w lease) true
      (s.tries w lease) := ⟨rfl, fun _ => hentry⟩
  refine Executes.ask htried (Executes.ask hfound ?_)
  exact (executes_confirm (s := s.tries w lease) hread).mono fun _ _ _ _ h => h.1

def sampleWorker (_ : Unit) : WorkerConfig where
  node := ⟨Vector.replicate 16 5⟩
  batchSize := 1
  leaseDurationMs := 1000
  maxAttempts := 8
  maxBackoffMs := 30000
  hasNode := by decide
  batches := by decide
  durations := by decide
  attempts := by decide
  backoffs := by decide

def sampleRow : OutboxRow where
  intentId := ⟨Vector.replicate 16 1⟩
  entityId := ⟨Vector.replicate 16 2⟩
  commandId := ⟨Vector.replicate 16 3⟩
  kind := .broadcast
  payloadDigest := ⟨Vector.replicate 32 4⟩
  attempt := 0
  leaseGeneration := 0
  state := .pending
  availableAtMs := 0
  updatedAtMs := 0

def sampleLease (generation : Nat) : OutboxLease where
  id := sampleRow.intentId
  entity := sampleRow.entityId
  command := sampleRow.commandId
  kind := sampleRow.kind
  payload := sampleRow.payloadDigest
  attempt := generation
  leaseGeneration := generation
  owner := ⟨Vector.replicate 16 5⟩
  leaseExpiresAtMs := 1000 * generation

def sampleReceipt : Digest32 := ⟨#v[
  0xde, 0xb8, 0xe2, 0x66, 0x2d, 0xb5, 0x71, 0x47, 0x9b, 0xfb, 0xb0, 0xbd, 0x44, 0xda, 0x69, 0xdd,
  0x6a, 0x4c, 0x73, 0x78, 0x21, 0x36, 0xb7, 0x8d, 0x9a, 0x1f, 0xc4, 0xd7, 0x4d, 0x34, 0xf0, 0xa3]⟩

def sampleLeased (generation : Nat) : OutboxRow :=
  { sampleRow with
    attempt := generation
    leaseGeneration := generation
    state := .leased ⟨Vector.replicate 16 5⟩
    availableAtMs := 1000 * generation
    updatedAtMs := 1000 * (generation - 1) }

def sampleApplied (generation : Nat) : OutboxRow :=
  { sampleLeased generation with
    state := .applied sampleReceipt
    updatedAtMs := 1000 * (generation - 1) }

def sampleDigestOf (_ : List UInt8) : Digest32 := sampleReceipt

def sampleOpened : Shared Unit :=
  { (Outboxes.initial true).world.shared with
    directory := Directory.make (.empty true)
    outbox := [sampleRow] }

def sampleClaimed : Shared Unit :=
  { sampleOpened with outbox := [sampleLeased 1] }.obtains () ⟨[sampleLease 1], 0⟩

def sampleInserted : Outboxes Unit :=
  { Outboxes.initial true with
    world := ⟨(Outboxes.initial true).world.shared.insert sampleRow, fun _ => none⟩ }

variable {answers : Unit → (c : Call) → Shared Unit → c.Reply → Shared Unit → Prop}

theorem sample_insert (config : Unit → WorkerConfig) :
    Run (outboxes answers config) (.initial true) [.insert sampleRow] sampleInserted :=
  .single (.insert ⟨fun _ h => (List.not_mem_nil h).elim, rfl, rfl, rfl⟩)

theorem sample_pass
    (hanswers : ∀ c s r t, SyncedAnswers sampleDigestOf () c s r t → answers () c s r t)
    {q : Program Call Call.Reply Outcome} {t : Shared Unit}
    (hrest : Executes answers () (processLeases (sampleWorker ()) [sampleLease 1]
      ⟨1, 0, 0, 0⟩).run sampleClaimed q t) :
    Executes answers () (processOnceAttempt (sampleWorker ())).run sampleOpened q t := by
  have hclaimed : SyncedAnswers sampleDigestOf ()
      (.claimOutboxBatch (sampleWorker ()).node 0 1000 8 1) sampleOpened
      (.ok ⟨[sampleLease 1], 0⟩) sampleClaimed :=
    ⟨⟨[sampleLeased 1], .answered rfl, rfl⟩, trivial⟩
  exact executes_processOnceAttempt (hanswers _ _ _ _ ⟨rfl, trivial⟩)
    (hanswers _ _ _ _ ⟨rfl, trivial⟩) (hanswers _ _ _ _ hclaimed) hrest

def sampleDelivered : Shared Unit :=
  { sampleClaimed with directory := published sampleClaimed.directory (sampleLease 1) }.tries ()
    (sampleLease 1)

theorem sample_delivered : ∃ events a,
    Run (outboxes (SyncedAnswers sampleDigestOf) sampleWorker) (.initial true) events a ∧
      a.world.shared = { sampleDelivered with outbox := [sampleApplied 1] } := by
  have hdelivered : Executes (SyncedAnswers sampleDigestOf) () (deliver (sampleLease 1)).run
      sampleClaimed (.done (.ok sampleReceipt)) sampleDelivered :=
    executes_deliver ⟨rfl, rfl, rfl⟩
  have hcompleted : SyncedAnswers sampleDigestOf ()
      (.completeOutbox (sampleLease 1) sampleReceipt 0) sampleDelivered (.ok ())
      { sampleDelivered with outbox := [sampleApplied 1] } :=
    ⟨⟨[sampleApplied 1], .answered rfl, rfl⟩, trivial⟩
  have hpass := sample_pass (fun _ _ _ _ h => h)
    (executes_completed hdelivered ⟨rfl, trivial⟩ hcompleted)
  obtain ⟨events, hrun⟩ := run_start sampleWorker (a := sampleInserted) rfl
    (executes_startUp ⟨⟨_, .done, rfl⟩, trivial⟩ (executes_processOnce hpass))
  exact ⟨_, _, (sample_insert sampleWorker).append hrun, rfl⟩

theorem applied_durably_spooled_sample : ∃ events a,
    Run (outboxes (SyncedAnswers sampleDigestOf) sampleWorker) (.initial true) events a ∧
      a.world.shared.outbox = [sampleApplied 1] ∧ DurablySpooled sampleDigestOf a.world.shared := by
  obtain ⟨events, a, hrun, hshared⟩ := sample_delivered
  exact ⟨events, a, hrun, congrArg Shared.outbox hshared,
    (applied_durably_spooled hrun (.nil a)).1⟩

def sampleLinked : Shared Unit :=
  { sampleClaimed with directory := linked sampleClaimed.directory (sampleLease 1) }.tries ()
    (sampleLease 1)

def sampleReclaimed : Shared Unit :=
  { sampleLinked with
    directory := sampleLinked.directory.make
    outbox := [sampleLeased 2] }.obtains () ⟨[sampleLease 2], 0⟩

theorem sample_linked : ∃ events a,
    Run (outboxes (Answers sampleDigestOf) sampleWorker) (.initial true) events a ∧
      a.world.shared = sampleLinked := by
  have hlinked : ∃ q, Executes (SyncedAnswers sampleDigestOf) () (deliver (sampleLease 1)).run
      sampleClaimed q sampleLinked := ⟨_, executes_link ⟨rfl, rfl, rfl⟩ .here⟩
  obtain ⟨q, hdeliver⟩ := hlinked
  obtain ⟨q', hleases⟩ := executes_processLeases_part (sampleWorker ()) [] ⟨1, 0, 0, 0⟩
    (hdeliver.mono fun _ _ _ _ h => h.1)
  obtain ⟨q'', hpass⟩ := executes_processOnce_part (sample_pass (fun _ _ _ _ h => h.1) hleases)
  obtain ⟨events, hrun⟩ := run_start sampleWorker (a := sampleInserted) rfl
    (executes_startUp ⟨_, .done, rfl⟩ hpass)
  exact ⟨_, _, (sample_insert sampleWorker).append hrun, rfl⟩

theorem applied_lost_with_power : ∃ events a,
    Run (outboxes (Answers sampleDigestOf) sampleWorker) (.initial true) events a ∧
      ¬ DurablySpooled sampleDigestOf a.world.shared := by
  obtain ⟨before, a, hlinked, hshared⟩ := sample_linked
  have hclaimed : Answers sampleDigestOf () (.claimOutboxBatch (sampleWorker ()).node 1000 1000 8 1)
      { sampleLinked with directory := sampleLinked.directory.make } (.ok ⟨[sampleLease 2], 0⟩)
      sampleReclaimed := ⟨[sampleLeased 2], .answered rfl, rfl⟩
  have hdelivered : Executes (Answers sampleDigestOf) () (deliver (sampleLease 2)).run
      sampleReclaimed (.done (.ok sampleReceipt)) (sampleReclaimed.tries () (sampleLease 2)) :=
    executes_deliver_again (read_linked _ (sampleLease 1))
  have hcompleted : Answers sampleDigestOf () (.completeOutbox (sampleLease 2) sampleReceipt 1000)
      (sampleReclaimed.tries () (sampleLease 2)) (.ok ())
      { sampleReclaimed.tries () (sampleLease 2) with outbox := [sampleApplied 2] } :=
    ⟨[sampleApplied 2], .answered rfl, rfl⟩
  have hpass := executes_processOnceAttempt (c := sampleWorker ()) rfl rfl hclaimed
    (executes_completed hdelivered rfl hcompleted)
  have hmade : Answers sampleDigestOf () .createDirAll a.world.shared (.ok ())
      { sampleLinked with directory := sampleLinked.directory.make } :=
    hshared ▸ ⟨_, .done, rfl⟩
  obtain ⟨after, hrun⟩ := run_start sampleWorker (w := ())
    (a := { a with world := a.world.set () none }) ((World.set_programs none ()).trans (if_pos rfl))
    (executes_startUp hmade (executes_processOnce hpass))
  refine ⟨_, _, hlinked.append (.cons .die hrun), fun hspooled => ?_⟩
  have hdurable := (hspooled (sampleApplied 2) (List.mem_singleton.mpr rfl) sampleReceipt rfl).1
  obtain ⟨-, file, hsynced, -⟩ := durable_iff.mp hdurable
  cases hsynced

end

end PersistencePg
