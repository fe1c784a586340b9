import TrillionniumGame.Token.SignerCalls

namespace Token
open Checks FiniteMap Words Runs Timelines
open Persistence (Bytes one_positive ones_nonzero two_positive twos_nonzero zeroBytes)

abbrev SignerHistory := List (SignerCall × SignerJournal)

variable (history : SignerHistory)

def dispatchedIn : List SigningOperationHandle :=
  history.filterMap fun entry => entry.1.dispatched

def SignerJournalCheckpoint.bindings (checkpoint : SignerJournalCheckpoint) :
    List (Digest × SigningOperationHandle) :=
  checkpoint.receiptBindings.map fun binding =>
    (binding.receiptDigest, ⟨checkpoint.retiredEpoch, binding.operationId⟩)

def boundIn : List (Digest × SigningOperationHandle) :=
  history.flatMap fun entry => (entry.1.advanced.map (·.bindings)).getD []

def SignerCall.Honest (j : SignerJournal) (call : SignerCall) : Prop :=
  ∀ receipt verifier, call.consulted = some (receipt, verifier) → ∀ checkpoint ∈ j.checkpoint,
    verifier.receiptIsAbsent checkpoint receipt = true →
    ∀ binding ∈ boundIn history, binding.1 ≠ receipt

def signerMachine : Machine SignerJournal SignerCall SignerJournalCheckpoint where
  init j := ∃ activeCapacity epochCapacity, SignerJournal.withLimits activeCapacity epochCapacity = .ok j
  step history j call j' := call.run j j' ∧ call.Honest history j
  saved := SignerCall.advanced
  restored checkpoint j := ∃ activeCapacity epochCapacity verifier,
    SignerJournal.fromCheckpoint activeCapacity epochCapacity checkpoint verifier = .ok j

namespace SignerJournal

variable {j j' : SignerJournal} {call : SignerCall} {history : SignerHistory}
  {receipt : Digest} {handle handle' : SigningOperationHandle}

def operationAt (j : SignerJournal) (handle : SigningOperationHandle) :
    Option SigningOperationRecord :=
  if handle.journalEpoch = j.epoch then j.operation handle.operationId else none

def Past (j : SignerJournal) (handle : SigningOperationHandle) : Prop :=
  handle.journalEpoch.get < j.epoch.get

def Binds (j : SignerJournal) (receipt : Digest) (handle : SigningOperationHandle) : Prop :=
  (handle.journalEpoch = j.epoch ∧ j.receiptOwners.lookup receipt = some handle.operationId) ∨
    ∃ operation, j.operationAt handle = some operation ∧ operation.state.receipt = some receipt

theorem operationAt_some {operation : SigningOperationRecord} :
    j.operationAt handle = some operation ↔
      handle.journalEpoch = j.epoch ∧ j.operation handle.operationId = some operation := by
  unfold operationAt
  split
  · next heq => exact ⟨fun h => ⟨heq, h⟩, And.right⟩
  · next hne => exact iff_of_false nofun fun h => hne h.1

theorem Valid.binds (h : j.Valid) : j.Binds receipt handle ↔
    handle.journalEpoch = j.epoch ∧ j.receiptOwners.lookup receipt = some handle.operationId := by
  refine ⟨fun hbinds => ?_, Or.inl⟩
  rcases hbinds with howner | ⟨operation, hoperation, hreceipt⟩
  · exact howner
  · obtain ⟨hepoch, hfound⟩ := operationAt_some.mp hoperation
    exact ⟨hepoch, (h.receipts _ _).mpr ⟨operation, hfound, hreceipt⟩⟩

theorem Valid.binds_unique (h : j.Valid) (hbinds : j.Binds receipt handle)
    (hbinds' : j.Binds receipt handle') : handle = handle' := by
  obtain ⟨hepoch, howner⟩ := h.binds.mp hbinds
  obtain ⟨hepoch', howner'⟩ := h.binds.mp hbinds'
  have hid := Option.mem_unique howner howner'
  obtain ⟨epoch, id⟩ := handle
  obtain ⟨epoch', id'⟩ := handle'
  rw [SigningOperationHandle.mk.injEq]
  exact ⟨hepoch.trans hepoch'.symm, hid⟩

theorem terminal_of_receipt {state : SigningOperationState} (h : state.receipt = some receipt) :
    state.isTerminal = true := by
  cases state with
  | confirmed | rejected => rfl
  | prepared | dispatched | indeterminate => cases h

structure Stays (history : SignerHistory) (j : SignerJournal) (call : SignerCall)
    (j' : SignerJournal) : Prop where
  epoch : j'.epoch = j.epoch
  checkpoint : j'.checkpoint = j.checkpoint
  advanced : call.advanced = none
  settled : ∀ id operation, j.operation id = some operation → operation.state.isTerminal = true →
    j'.operation id = some operation
  dispatches : ∀ id operation, j.operation id = some operation → operation.dispatch.isSome = true →
    ∃ operation', j'.operation id = some operation' ∧ operation'.dispatch.isSome = true
  bound : ∀ id operation receipt, j'.operation id = some operation →
    operation.state.receipt = some receipt → j.receiptOwners.lookup receipt = some id ∨
      ∀ binding ∈ boundIn history, binding.1 ≠ receipt
  dispatched : ∀ handle ∈ call.dispatched, handle.journalEpoch = j.epoch ∧
    (∀ operation, j.operation handle.operationId = some operation → operation.dispatch = none) ∧
    ∃ operation', j'.operation handle.operationId = some operation' ∧
      operation'.dispatch.isSome = true

theorem Stays.same (hvalid : j.Valid) (hepoch : j'.epoch = j.epoch)
    (hcheckpoint : j'.checkpoint = j.checkpoint) (hadvanced : call.advanced = none)
    (hdispatched : call.dispatched = none) (hoperation : ∀ id, j'.operation id = j.operation id) :
    Stays history j call j' := by
  refine ⟨hepoch, hcheckpoint, hadvanced, fun id operation hfound _ => ?_,
    fun id operation hfound hdispatch => ⟨operation, ?_, hdispatch⟩,
    fun id operation receipt hfound hreceipt => .inl ?_, ?_⟩
  · rw [hoperation, hfound]
  · rw [hoperation, hfound]
  · exact (hvalid.receipts _ _).mpr ⟨operation, hoperation id ▸ hfound, hreceipt⟩
  · rw [hdispatched]
    rintro _ ⟨⟩

theorem Stays.wrote (hvalid : j.Valid) {next : SigningOperationRecord}
    (hunsettled : ∀ current, j.operation next.request.operationId = some current →
      current.state.isTerminal = false ∧
        (current.dispatch.isSome = true → next.dispatch.isSome = true))
    (hreceipt : ∀ receipt ∈ next.state.receipt, ∀ binding ∈ boundIn history, binding.1 ≠ receipt)
    (hdispatched : ∀ handle ∈ call.dispatched, handle = ⟨j.epoch, next.request.operationId⟩ ∧
      (∀ current, j.operation next.request.operationId = some current → current.dispatch = none) ∧
        next.dispatch.isSome = true)
    (hadvanced : call.advanced = none) : Stays history j call (j.write next) := by
  refine ⟨rfl, rfl, hadvanced, fun id operation hfound hterminal => ?_,
    fun id operation hfound hdispatch => ?_, fun id operation receipt hfound hown => ?_,
    fun handle hhandle => ?_⟩
  · rw [write_operation]
    split
    · next heq =>
      subst heq
      rw [(hunsettled operation hfound).1] at hterminal
      cases hterminal
    · exact hfound
  · rw [write_operation]
    split
    · next heq =>
      subst heq
      exact ⟨next, rfl, (hunsettled operation hfound).2 hdispatch⟩
    · exact ⟨operation, hfound, hdispatch⟩
  · rw [write_operation] at hfound
    split at hfound
    · cases hfound
      exact .inr (hreceipt receipt hown)
    · exact .inl ((hvalid.receipts _ _).mpr ⟨operation, hfound, hown⟩)
  · obtain ⟨rfl, hnone, hsome⟩ := hdispatched handle hhandle
    refine ⟨rfl, hnone, next, ?_, hsome⟩
    rw [write_operation, if_pos rfl]

structure LivedThrough (j : SignerJournal) (history : SignerHistory) : Prop where
  valid : j.Valid
  once : (dispatchedIn history).Nodup
  known : ∀ handle ∈ dispatchedIn history, j.Past handle ∨
    ∃ operation, j.operationAt handle = some operation ∧ operation.dispatch.isSome = true
  bound : ∀ entry ∈ history, ∀ receipt handle, entry.2.Binds receipt handle →
    j.Binds receipt handle ∨ (receipt, handle) ∈ boundIn history
  owned : ∀ receipt handle handle', (receipt, handle) ∈ boundIn history →
    j.Binds receipt handle' ∨ (receipt, handle') ∈ boundIn history → handle = handle'
  unarchived : j.checkpoint = none → boundIn history = []
  settled : ∀ entry ∈ history, ∀ handle operation, entry.2.operationAt handle = some operation →
    operation.state.isTerminal = true → j.operationAt handle = some operation ∨ j.Past handle
  unchanged : history.Pairwise fun earlier later => ∀ handle operation,
    earlier.2.operationAt handle = some operation → operation.state.isTerminal = true →
      later.2.operationAt handle = some operation ∨ later.2.Past handle

theorem dispatchedIn_snoc (history : SignerHistory) (call : SignerCall) (j : SignerJournal) :
    dispatchedIn (history ++ [(call, j)]) = dispatchedIn history ++ call.dispatched.toList := by
  rw [dispatchedIn, List.filterMap_append]
  cases hdispatched : call.dispatched with
  | none | some handle => simp [hdispatched, dispatchedIn]

theorem boundIn_snoc (history : SignerHistory) (call : SignerCall) (j : SignerJournal) :
    boundIn (history ++ [(call, j)]) =
      boundIn history ++ (call.advanced.map (·.bindings)).getD [] := by
  rw [boundIn, List.flatMap_append, List.flatMap_singleton]
  rfl

theorem LivedThrough.settles (h : LivedThrough j history) (call : SignerCall)
    (hstays : ∀ handle operation, j.operationAt handle = some operation →
      operation.state.isTerminal = true → j'.operationAt handle = some operation ∨ j'.Past handle)
    (hpast : ∀ handle, j.Past handle → j'.Past handle) :
    (∀ entry ∈ history ++ [(call, j')], ∀ handle operation,
      entry.2.operationAt handle = some operation → operation.state.isTerminal = true →
        j'.operationAt handle = some operation ∨ j'.Past handle) ∧
    (history ++ [(call, j')]).Pairwise fun earlier later => ∀ handle operation,
      earlier.2.operationAt handle = some operation → operation.state.isTerminal = true →
        later.2.operationAt handle = some operation ∨ later.2.Past handle := by
  have hearlier : ∀ entry ∈ history, ∀ handle operation,
      entry.2.operationAt handle = some operation → operation.state.isTerminal = true →
        j'.operationAt handle = some operation ∨ j'.Past handle := by
    intro entry hentry handle operation hfound hterminal
    rcases h.settled entry hentry handle operation hfound hterminal with hstill | hover
    · exact hstays handle operation hstill hterminal
    · exact .inr (hpast handle hover)
  constructor
  · intro entry hentry handle operation hfound hterminal
    rcases List.mem_append.mp hentry with hold | hnew
    · exact hearlier entry hold handle operation hfound hterminal
    · cases List.mem_singleton.mp hnew
      exact .inl hfound
  · refine List.pairwise_append.mpr ⟨h.unchanged, List.pairwise_singleton _ _, ?_⟩
    intro entry hentry other hother
    cases List.mem_singleton.mp hother
    exact hearlier entry hentry

theorem Stays.binds (h : Stays history j call j') (hvalid : j.Valid)
    (hbinds : j.Binds receipt handle) : j'.Binds receipt handle := by
  obtain ⟨hepoch, howner⟩ := hvalid.binds.mp hbinds
  obtain ⟨operation, hoperation, hreceipt⟩ := (hvalid.receipts _ _).mp howner
  have hkept := h.settled _ operation hoperation (terminal_of_receipt hreceipt)
  exact .inr ⟨operation, operationAt_some.mpr ⟨hepoch.trans h.epoch.symm, hkept⟩, hreceipt⟩

theorem LivedThrough.stays (h : LivedThrough j history) (hvalid : j'.Valid)
    (hstays : Stays history j call j') : LivedThrough j' (history ++ [(call, j')]) := by
  have hsame : boundIn (history ++ [(call, j')]) = boundIn history := by
    rw [boundIn_snoc, hstays.advanced, Option.map_none, Option.getD_none, List.append_nil]
  have hpast : ∀ handle, j.Past handle → j'.Past handle := by
    unfold Past
    rw [hstays.epoch]
    exact fun _ => id
  have hsettles := h.settles call (fun handle operation hfound hterminal => by
    obtain ⟨hepoch, hoperation⟩ := operationAt_some.mp hfound
    exact .inl (operationAt_some.mpr
      ⟨hepoch.trans hstays.epoch.symm, hstays.settled _ _ hoperation hterminal⟩)) hpast
  refine ⟨hvalid, ?_, ?_, ?_, ?_, ?_, hsettles.1, hsettles.2⟩
  · rw [dispatchedIn_snoc]
    cases hdispatched : call.dispatched with
    | none =>
      rw [Option.toList_none, List.append_nil]
      exact h.once
    | some handle =>
      obtain ⟨hepoch, hnone, _⟩ := hstays.dispatched handle hdispatched
      refine List.nodup_append.mpr ⟨h.once, List.nodup_singleton _, ?_⟩
      rintro other hother _ hnew rfl
      cases List.mem_singleton.mp hnew
      rcases h.known _ hother with hover | ⟨operation, hoperation, hsome⟩
      · rw [Past, hepoch] at hover
        exact lt_irrefl _ hover
      · rw [hnone operation (operationAt_some.mp hoperation).2] at hsome
        cases hsome
  · rw [dispatchedIn_snoc]
    intro handle hhandle
    rcases List.mem_append.mp hhandle with hold | hnew
    · rcases h.known handle hold with hover | ⟨operation, hoperation, hsome⟩
      · exact .inl (hpast handle hover)
      · obtain ⟨hepoch, hfound⟩ := operationAt_some.mp hoperation
        obtain ⟨operation', hfound', hsome'⟩ := hstays.dispatches _ operation hfound hsome
        exact .inr ⟨operation', operationAt_some.mpr ⟨hepoch.trans hstays.epoch.symm, hfound'⟩, hsome'⟩
    · obtain ⟨hepoch, _, operation', hfound', hsome'⟩ :=
        hstays.dispatched handle (Option.mem_toList.mp hnew)
      exact .inr ⟨operation', operationAt_some.mpr ⟨hepoch.trans hstays.epoch.symm, hfound'⟩, hsome'⟩
  · rw [hsame]
    intro entry hentry receipt handle hbinds
    rcases List.mem_append.mp hentry with hold | hnew
    · exact (h.bound entry hold receipt handle hbinds).imp_left (hstays.binds h.valid)
    · cases List.mem_singleton.mp hnew
      exact .inl hbinds
  · rw [hsame]
    intro receipt handle handle' hbound hother
    rcases hother with hbinds | hbound'
    · obtain ⟨hepoch, howner⟩ := hvalid.binds.mp hbinds
      obtain ⟨operation, hoperation, hreceipt⟩ := (hvalid.receipts _ _).mp howner
      rcases hstays.bound _ operation receipt hoperation hreceipt with hold | hfresh
      · exact h.owned receipt handle handle' hbound
          (.inl (h.valid.binds.mpr ⟨hepoch.trans hstays.epoch, hold⟩))
      · exact absurd rfl (hfresh _ hbound)
    · exact h.owned receipt handle handle' hbound (.inr hbound')
  · rw [hsame, hstays.checkpoint]
    exact h.unarchived

variable {checkpoint : SignerJournalCheckpoint}

theorem LivedThrough.advances (h : LivedThrough j history) {nextEpoch : SignerJournalEpoch}
    {checkpointDigest : Digest}
    (hproposed : j.proposeCheckpoint nextEpoch checkpointDigest = .ok checkpoint)
    (hadvanced : call.advanced = some checkpoint) (hdispatched : call.dispatched = none)
    (hempty : j' = restored j.activeCapacity j.epochCapacity checkpoint) :
    LivedThrough j' (history ++ [(call, j')]) := by
  obtain ⟨hshape, hretired, hactive, hnext, _, hbindings⟩ := proposeCheckpoint_ok hproposed
  have hvalid : j'.Valid := hempty ▸ Valid.restored h.valid.bounded hshape
  have hepoch : j'.epoch.get = j.epoch.get + 1 := by
    rw [hempty]
    exact (congrArg _ hactive).trans hnext
  have hover : ∀ handle, handle.journalEpoch = j.epoch → j'.Past handle := by
    intro handle hsame
    rw [Past, hsame, hepoch]
    exact Nat.lt_succ_self _
  have hpast : ∀ handle, j.Past handle → j'.Past handle := by
    intro handle hlt
    rw [Past] at hlt ⊢
    omega
  have hnone : ∀ receipt handle, ¬ j'.Binds receipt handle := by
    intro receipt handle hbinds
    obtain ⟨_, howner⟩ := hvalid.binds.mp hbinds
    obtain ⟨operation, hoperation, _⟩ := (hvalid.receipts _ _).mp howner
    rw [hempty, restored_operation] at hoperation
    cases hoperation
  have hmore : boundIn (history ++ [(call, j')]) = boundIn history ++ checkpoint.bindings := by
    rw [boundIn_snoc, hadvanced, Option.map_some, Option.getD_some]
  have hcheckpoint : ∀ receipt handle,
      (receipt, handle) ∈ checkpoint.bindings ↔ j.Binds receipt handle := by
    intro receipt handle
    rw [SignerJournalCheckpoint.bindings, hbindings, List.map_map, List.mem_map, h.valid.binds]
    constructor
    · rintro ⟨⟨receipt', id⟩, hitem, heq⟩
      cases heq
      exact ⟨hretired, mem_items.mp hitem⟩
    · rintro ⟨hsame, howner⟩
      refine ⟨(receipt, handle.operationId), mem_items.mpr howner, ?_⟩
      rw [Function.comp_apply, hretired, ← hsame]
  have hsettles := h.settles call (fun handle operation hfound _ =>
    .inr (hover handle (operationAt_some.mp hfound).1)) hpast
  refine ⟨hvalid, ?_, ?_, ?_, ?_, ?_, hsettles.1, hsettles.2⟩
  · rw [dispatchedIn_snoc, hdispatched, Option.toList_none, List.append_nil]
    exact h.once
  · rw [dispatchedIn_snoc, hdispatched, Option.toList_none, List.append_nil]
    intro handle hhandle
    rcases h.known handle hhandle with hlt | ⟨operation, hoperation, _⟩
    · exact .inl (hpast handle hlt)
    · exact .inl (hover handle (operationAt_some.mp hoperation).1)
  · rw [hmore]
    intro entry hentry receipt handle hbinds
    rcases List.mem_append.mp hentry with hold | hnew
    · rcases h.bound entry hold receipt handle hbinds with hlive | hbound
      · exact .inr (List.mem_append_right _ ((hcheckpoint _ _).mpr hlive))
      · exact .inr (List.mem_append_left _ hbound)
    · cases List.mem_singleton.mp hnew
      exact absurd hbinds (hnone receipt handle)
  · rw [hmore]
    have howned : ∀ receipt handle, (receipt, handle) ∈ boundIn history ++ checkpoint.bindings →
        (receipt, handle) ∈ boundIn history ∨ j.Binds receipt handle :=
      fun receipt handle hmem => (List.mem_append.mp hmem).imp_right (hcheckpoint _ _).mp
    intro receipt handle handle' hbound hother
    rcases hother with hbinds | hbound'
    · exact absurd hbinds (hnone receipt handle')
    · rcases howned _ _ hbound with hold | hlive
      · exact h.owned receipt handle handle' hold (howned _ _ hbound').symm
      · rcases howned _ _ hbound' with hold' | hlive'
        · exact (h.owned receipt handle' handle hold' (.inl hlive)).symm
        · exact h.valid.binds_unique hlive hlive'
  · rw [hempty]
    exact fun hcheckpoint => absurd hcheckpoint (Option.some_ne_none _)

theorem LivedThrough.step (h : LivedThrough j history)
    (hcall : signerMachine.step history j call j') :
    LivedThrough j' (history ++ [(call, j')]) ∧
      ∀ checkpoint ∈ call.advanced, j' = restored j'.activeCapacity j'.epochCapacity checkpoint := by
  obtain ⟨hrun, hhonest⟩ := hcall
  have hmoved := moved h.valid hrun
  have hvalid := h.valid.moved hmoved
  have hkeeps : call.advanced = none → ∀ checkpoint ∈ call.advanced,
      j' = restored j'.activeCapacity j'.epochCapacity checkpoint := by
    intro hnone
    rw [hnone]
    rintro _ ⟨⟩
  cases hmoved with
  | quiet hdispatched hadvanced =>
    exact ⟨h.stays hvalid (.same h.valid rfl rfl hadvanced hdispatched fun _ => rfl),
      hkeeps hadvanced⟩
  | @admitted request _ hepoch hnew =>
    have hnone : ∀ current, j.operation request.operationId ≠ some current := by
      rw [hnew]
      exact fun _ => nofun
    refine ⟨h.stays hvalid (.wrote h.valid (fun current hcurrent => absurd hcurrent (hnone current))
      (receipt_none rfl) ?_ rfl), hkeeps rfl⟩
    rintro _ ⟨⟩
  | @wrote _ current next hcurrent hrequest hlive hshape hdispatch hreceipt hadvanced =>
    have hfound := operation_record hcurrent
    have hepoch := (h.valid.operation_facts hfound).2.1
    refine ⟨h.stays hvalid (.wrote h.valid (fun other hother => ?_) (fun receipt hmem => ?_)
      (fun handle hhandle => ?_) hadvanced), hkeeps hadvanced⟩
    · cases Option.mem_unique hfound hother
      refine ⟨hlive, fun hsome => ?_⟩
      rcases hdispatch with ⟨_, hsame⟩ | ⟨_, hnone, _⟩
      · rw [hsame]
        exact hsome
      · rw [hnone] at hsome
        cases hsome
    · cases hcheckpoint : j.checkpoint with
      | none =>
        rw [h.unarchived hcheckpoint]
        exact List.forall_mem_nil _
      | some checkpoint =>
        obtain ⟨verifier, hconsulted, habsent⟩ := (hreceipt receipt hmem).2 checkpoint hcheckpoint
        exact hhonest receipt verifier hconsulted checkpoint hcheckpoint habsent
    · rcases hdispatch with ⟨hnone, _⟩ | ⟨hsome, hnew, hidentity⟩
      · rw [hnone] at hhandle
        cases hhandle
      · cases Option.mem_unique hsome hhandle
        refine ⟨?_, fun other hother => ?_, hidentity⟩
        · rw [SigningRequest.handle, hrequest, hepoch]
        · cases Option.mem_unique hfound hother
          exact hnew
  | archived hcurrent hterminal hdigest hdispatched hadvanced =>
    exact ⟨h.stays hvalid (.same h.valid rfl rfl hadvanced hdispatched fun _ =>
      archive_operation hcurrent), hkeeps hadvanced⟩
  | advanced hproposed =>
    refine ⟨h.advances hproposed rfl rfl rfl, ?_⟩
    rintro _ ⟨⟩
    rfl

variable {activeCapacity epochCapacity : Nat}

theorem validateCapacities_ok {u : Unit} :
    validateCapacities activeCapacity epochCapacity = .ok u ↔
      (activeCapacity ≠ 0 ∧ activeCapacity ≤ maxSignerJournalCapacity) ∧
      (epochCapacity ≠ 0 ∧ epochCapacity ≤ maxSignerJournalCapacity) ∧
      activeCapacity ≤ epochCapacity := by
  unfold validateCapacities validateJournalCapacity
  simp only [bind_ok, require_ok, exists_const]

theorem fromCheckpoint_ok {verifier : SignerJournalArchiveVerifier}
    (h : fromCheckpoint activeCapacity epochCapacity checkpoint verifier = .ok j) :
    epochCapacity ≤ maxSignerJournalCapacity ∧ checkpoint.validateShape epochCapacity = .ok () ∧
      j = restored activeCapacity epochCapacity checkpoint := by
  unfold fromCheckpoint at h
  simp only [bind_ok, require_ok, fetch_ok, fits_some, validateCapacities_ok, exists_const] at h
  obtain ⟨⟨_, ⟨_, hbounded⟩, _⟩, _, hshape, _, next, ⟨_, rfl⟩, _, _, hresult⟩ := h
  exact ⟨hbounded, hshape, (Except.ok.inj hresult).symm⟩

theorem livedThrough_init (h : signerMachine.init j) : LivedThrough j [] := by
  obtain ⟨activeCapacity, epochCapacity, hnew⟩ := h
  obtain ⟨_, hcapacities, hresult⟩ := bind_ok.mp hnew
  have hbounded := (validateCapacities_ok.mp hcapacities).2.1.2
  cases hresult
  have hempty : ∀ {V : Type} {value : V}, (none : Option V) ≠ some value := by simp
  have hnil : dispatchedIn [] = [] ∧ boundIn [] = [] := ⟨rfl, rfl⟩
  refine ⟨?_, ?_, ?_, List.forall_mem_nil _, ?_, fun _ => hnil.2,
    List.forall_mem_nil _, List.Pairwise.nil⟩
  · constructor
    case bounded => exact hbounded
    case active => exact Nat.zero_le _
    case occupancy => exact Nat.zero_le _
    case record => exact fun _ _ hrecord => absurd hrecord hempty
    case tombstone => exact fun _ _ htombstone => absurd htombstone hempty
    case receipts =>
      exact fun _ _ => iff_of_false hempty fun h => absurd h.choose_spec.1 hempty
    case checkpoint => rfl
  · rw [hnil.1]
    exact List.nodup_nil
  · rw [hnil.1]
    exact List.forall_mem_nil _
  · rw [hnil.2]
    exact fun _ _ _ hbound => absurd hbound List.not_mem_nil

theorem LivedThrough.restored (h : LivedThrough j history)
    (hsaved : j = restored j.activeCapacity j.epochCapacity checkpoint)
    (hrestored : signerMachine.restored checkpoint j') : LivedThrough j' history := by
  obtain ⟨activeCapacity, epochCapacity, verifier, hrestored⟩ := hrestored
  obtain ⟨hbounded, hshape, rfl⟩ := fromCheckpoint_ok hrestored
  rw [hsaved] at h
  exact ⟨.restored hbounded hshape, h.once, h.known, h.bound, h.owned, h.unarchived, h.settled,
    h.unchanged⟩

theorem livedThrough_timeline {T : Timeline SignerJournal SignerCall SignerJournalCheckpoint}
    (h : Reachable signerMachine.timelines T) : LivedThrough T.state T.history :=
  Machine.invariant
    (P := fun checkpoint j => j = SignerJournal.restored j.activeCapacity j.epochCapacity checkpoint)
    (fun _ => livedThrough_init) (fun _ _ _ _ hlived hstep => hlived.step hstep)
    (fun _ _ _ _ hlived hsaved hrestored => hlived.restored hsaved hrestored) h

theorem dispatches_once_and_never_shares_receipts
    {T : Timeline SignerJournal SignerCall SignerJournalCheckpoint}
    (h : Reachable signerMachine.timelines T) :
    (dispatchedIn T.history).Nodup ∧
    (∀ earlier ∈ T.history, ∀ later ∈ T.history, ∀ receipt handle handle',
      earlier.2.Binds receipt handle → later.2.Binds receipt handle' → handle = handle') ∧
    T.history.Pairwise fun earlier later => ∀ handle operation,
      earlier.2.operationAt handle = some operation → operation.state.isTerminal = true →
        later.2.operationAt handle = some operation ∨
          handle.journalEpoch.get < later.2.epoch.get := by
  have hlived := livedThrough_timeline h
  refine ⟨hlived.once, ?_, hlived.unchanged⟩
  intro earlier hearlier later hlater receipt handle handle' hbinds hbinds'
  rcases hlived.bound earlier hearlier receipt handle hbinds with hlive | hbound
  · rcases hlived.bound later hlater receipt handle' hbinds' with hlive' | hbound'
    · exact hlived.valid.binds_unique hlive hlive'
    · exact (hlived.owned receipt handle' handle hbound' (.inl hlive)).symm
  · exact hlived.owned receipt handle handle' hbound
      (hlived.bound later hlater receipt handle' hbinds')

def journalEpoch1 : SignerJournalEpoch := ⟨1, one_positive⟩

def journalEpoch2 : SignerJournalEpoch := ⟨2, two_positive⟩

def operationId1 : SigningOperationId := ⟨Vector.replicate 16 1, ones_nonzero⟩

def digestOf (byte : UInt8) : Digest := ⟨Vector.replicate 32 byte⟩

variable (epoch : SignerJournalEpoch)

def requestIn : SigningRequest :=
  ⟨epoch, operationId1, .accessToken, 1, digestOf 1⟩

def identityIn : SignerDispatchIdentity :=
  ⟨requestIn epoch, digestOf 2, digestOf 3, 1⟩

def preparedRecord : SigningOperationRecord :=
  ⟨requestIn epoch, none, .prepared⟩

def dispatchedRecord : SigningOperationRecord :=
  ⟨requestIn epoch, some (identityIn epoch), .dispatched⟩

def rejectedRecord : SigningOperationRecord :=
  ⟨requestIn journalEpoch1, none, .rejected (digestOf 4)⟩

def rejectedTombstone : SigningOperationTombstone :=
  ⟨requestIn journalEpoch1, none, .rejected (digestOf 4), digestOf 5⟩

def firstCheckpoint : SignerJournalCheckpoint where
  sequence := 1
  previousCheckpointDigest := none
  checkpointDigest := digestOf 6
  retiredEpoch := journalEpoch1
  activeEpoch := journalEpoch2
  tombstones := [rejectedTombstone]
  receiptBindings := []

def acceptingArchive : SignerJournalArchiveVerifier := ⟨fun _ => true, fun _ _ => true⟩

def emptyJournal : SignerJournal := ⟨2, 2, journalEpoch1, ∅, ∅, ∅, none, 1⟩

def preparedJournal (j : SignerJournal) : SignerJournal :=
  j.write (preparedRecord epoch)

def rejectedJournal : SignerJournal := (preparedJournal journalEpoch1 emptyJournal).write rejectedRecord

def firstEpochSteps : SignerHistory :=
  [(.prepare (requestIn journalEpoch1) (.ok (preparedRecord journalEpoch1)),
      preparedJournal journalEpoch1 emptyJournal),
    (.rejectBeforeDispatch (requestIn journalEpoch1).handle (digestOf 4) (.ok rejectedRecord),
      rejectedJournal),
    (.archiveTerminal (requestIn journalEpoch1).handle (digestOf 5) (.ok rejectedTombstone),
      rejectedJournal.archive rejectedRecord (digestOf 5)),
    (.advanceEpoch journalEpoch2 (digestOf 6) acceptingArchive (.ok firstCheckpoint),
      restored 2 2 firstCheckpoint)]

def secondEpochJournal : SignerJournal :=
  (preparedJournal journalEpoch2 (restored 2 2 firstCheckpoint)).write (dispatchedRecord journalEpoch2)

def secondEpochSteps : SignerHistory :=
  [(.prepare (requestIn journalEpoch2) (.ok (preparedRecord journalEpoch2)),
      preparedJournal journalEpoch2 (restored 2 2 firstCheckpoint)),
    (.dispatch (identityIn journalEpoch2) (.ok (dispatchedRecord journalEpoch2)),
      secondEpochJournal)]

def confirmedRecord : SigningOperationRecord :=
  { dispatchedRecord journalEpoch2 with
    state := .confirmed (digestOf 7) (Vector.replicate 32 8) (digestOf 9) (digestOf 10) }

def confirmedJournal : SignerJournal :=
  { secondEpochJournal.write confirmedRecord with
    receiptOwners := Finmap.singleton (digestOf 7) operationId1 }

def laterRequest : SigningRequest :=
  { requestIn journalEpoch2 with operationId := ⟨Vector.replicate 16 2, twos_nonzero⟩ }

def laterRecord : SigningOperationRecord :=
  ⟨laterRequest, some { identityIn journalEpoch2 with request := laterRequest }, .dispatched⟩

def laterSteps : SignerHistory :=
  [(.reconcile ⟨requestIn journalEpoch2, identityIn journalEpoch2, digestOf 7, Vector.replicate 32 8,
      digestOf 9, digestOf 10⟩ (fun _ => .ok ()) (some acceptingArchive) (.ok confirmedRecord),
      confirmedJournal),
    (.prepare laterRequest (.ok ⟨laterRequest, none, .prepared⟩),
      confirmedJournal.write ⟨laterRequest, none, .prepared⟩),
    (.dispatch { identityIn journalEpoch2 with request := laterRequest } (.ok laterRecord),
      (confirmedJournal.write ⟨laterRequest, none, .prepared⟩).write laterRecord)]

def startedTimeline : Timeline SignerJournal SignerCall SignerJournalCheckpoint :=
  ⟨emptyJournal, [], []⟩

def advancedTimeline : Timeline SignerJournal SignerCall SignerJournalCheckpoint :=
  startedTimeline.played signerMachine firstEpochSteps

def dispatchedTimeline : Timeline SignerJournal SignerCall SignerJournalCheckpoint :=
  advancedTimeline.played signerMachine secondEpochSteps

theorem startedTimeline_init : signerMachine.timelines.init startedTimeline :=
  ⟨⟨2, 2, rfl⟩, rfl, rfl⟩

theorem firstEpoch_plays : signerMachine.Plays [] emptyJournal firstEpochSteps :=
  ⟨⟨rfl, nofun⟩, ⟨rfl, nofun⟩, ⟨rfl, nofun⟩, ⟨rfl, nofun⟩, trivial⟩

theorem secondEpoch_plays (history : SignerHistory) :
    signerMachine.Plays history (restored 2 2 firstCheckpoint) secondEpochSteps :=
  ⟨⟨rfl, nofun⟩, ⟨rfl, nofun⟩, trivial⟩

def firstSave : Save SignerJournal SignerCall SignerJournalCheckpoint :=
  ⟨firstCheckpoint, restored 2 2 firstCheckpoint, firstEpochSteps⟩

def restoredTimeline : Timeline SignerJournal SignerCall SignerJournalCheckpoint :=
  (dispatchedTimeline.back firstSave firstSave.state).played signerMachine secondEpochSteps

theorem restored_run : Run signerMachine.timelines startedTimeline
    ((firstEpochSteps ++ secondEpochSteps).map (fun step => .act step.1) ++
      .restore firstCheckpoint :: secondEpochSteps.map fun step => .act step.1) restoredTimeline := by
  have hfirst := (Machine.plays (T := startedTimeline) firstEpoch_plays).append
    (Machine.plays (T := advancedTimeline) (secondEpoch_plays _))
  have hback : Run signerMachine.timelines dispatchedTimeline [.restore firstSave.key]
      (dispatchedTimeline.back firstSave firstSave.state) :=
    Machine.restores (List.mem_singleton.mpr rfl) ⟨2, 2, acceptingArchive, rfl⟩
  have hagain := Machine.plays (T := dispatchedTimeline.back firstSave firstSave.state)
    (secondEpoch_plays _)
  exact hfirst.append (hback.append hagain)

theorem later_plays : signerMachine.Plays restoredTimeline.history secondEpochJournal laterSteps := by
  refine ⟨⟨rfl, ?_⟩, ⟨rfl, nofun⟩, ⟨rfl, nofun⟩, trivial⟩
  intro receipt verifier _ checkpoint _ _ binding hbinding
  cases hbinding

theorem dispatches_once_and_never_shares_receipts_sample :
    dispatchedIn (restoredTimeline.played signerMachine laterSteps).history =
      [(requestIn journalEpoch2).handle, laterRequest.handle] ∧
    (dispatchedIn (restoredTimeline.played signerMachine laterSteps).history).Nodup :=
  ⟨rfl, (dispatches_once_and_never_shares_receipts ⟨_, _, startedTimeline_init,
    restored_run.append (Machine.plays later_plays)⟩).1⟩

def dispatchedBy : Event SignerCall SignerJournalCheckpoint → Option SigningOperationHandle
  | .act call => call.dispatched
  | .restore _ => none

theorem restored_operation_dispatched_again : ¬ ∀ T events T',
    signerMachine.timelines.init T → Run signerMachine.timelines T events T' →
      (events.filterMap dispatchedBy).Nodup := by
  intro h
  have honce := h _ _ _ startedTimeline_init restored_run
  exact absurd honce (by decide)

end SignerJournal

end Token
