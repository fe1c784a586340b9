import TrillionniumGame.Identity.Retirement

namespace Identity
open Checks FiniteMap Runs
open Persistence (twos_nonzero zeroBytes)

namespace IdentityRegistry

variable {r r' m : IdentityRegistry} {command : CommandId} {fingerprint : Fingerprint}
  {account : AccountId} {record record' : AccountRecord} {receipt : CommandReceipt}
  {provider : ProviderIdentity} {expectedRevision : UInt64}

theorem Indexed.settle (h : Indexed m) (haccount : receipt.account ∈ m.accounts)
    (hroom : m.receipts.keys.card < m.config.maxReceipts) : m.settle receipt =
      .ok (receipt, { m with receipts := m.receipts.insert receipt.command receipt }) :=
  bind_ok.mpr ⟨(), (h.received haccount hroom).valid, rfl⟩

inductive Stepped (r : IdentityRegistry) : IdentityRegistry → Prop
  | stayed : Stepped r r
  | received (receipt : CommandReceipt) (haccount : receipt.account ∈ r.accounts)
      (hroom : r.receipts.keys.card < r.config.maxReceipts) :
      Stepped r { r with receipts := r.receipts.insert receipt.command receipt }
  | replaced {m : IdentityRegistry} (receipt : CommandReceipt) (account : AccountId)
      (record' : AccountRecord) (hm : Replaced r m account record') (haccount : receipt.account = account)
      (hroom : r.receipts.keys.card < r.config.maxReceipts) :
      Stepped r { m with receipts := m.receipts.insert receipt.command receipt }

theorem Replaced.mem (hm : Replaced r m account record') : account ∈ m.accounts := by
  rw [hm.accounts, Finmap.mem_insert]
  exact .inl rfl

theorem Replaced.receiptRoom (hm : Replaced r m account record')
    (hroom : r.receipts.keys.card < r.config.maxReceipts) :
    m.receipts.keys.card < m.config.maxReceipts := by
  rw [hm.receipts, hm.config]
  exact hroom

theorem Indexed.stepped (h : Indexed r) (hstep : Stepped r r') : Indexed r' := by
  cases hstep with
  | stayed => exact h
  | received receipt haccount hroom => exact h.received haccount hroom
  | replaced receipt account record' hm haccount hroom =>
    exact (h.replaced hm).received (haccount ▸ hm.mem) (hm.receiptRoom hroom)

def Sure (r : IdentityRegistry) (answer : Answer) : Prop :=
  Ensures (fun result => Stepped r result.2) (· ≠ invariantError) answer

theorem sure_replay (receipt : CommandReceipt) : Sure r (pure (receipt, r)) := Stepped.stayed

theorem sure_received (h : Indexed r) (haccount : receipt.account ∈ r.accounts)
    (hroom : r.receipts.keys.card < r.config.maxReceipts) : Sure r (r.settle receipt) :=
  ensures_of_ok (h.settle haccount hroom) (.received receipt haccount hroom)

theorem sure_replaced (h : Indexed r) (hm : Replaced r m account record')
    (haccount : receipt.account = account)
    (hroom : r.receipts.keys.card < r.config.maxReceipts) : Sure r (m.settle receipt) :=
  ensures_of_ok ((h.replaced hm).settle (haccount ▸ hm.mem) (hm.receiptRoom hroom))
    (.replaced receipt account record' hm haccount hroom)

variable {outcome : ReceiptOutcome}

theorem sure_existing {f : Option CommandReceipt → Answer}
    (hsome : ∀ receipt, Sure r (f (some receipt))) (hnone : Sure r (f none)) :
    Sure r (r.existingReceipt command fingerprint outcome >>= f) := by
  rw [Sure, ensures_bind, existingReceipt]
  split
  · exact hnone
  · next receipt hfound =>
    simp only [ensures_bind, ensures_require]
    exact ⟨fun _ => ⟨fun _ => hsome receipt, fun _ => by decide⟩, fun _ => by decide⟩

variable {answer : Answer}

theorem sure_require {c : Prop} [Decidable c] {error : IdentityError} (h : c → Sure r answer)
    (herror : error ≠ invariantError) : Sure r (require c error >>= fun _ => answer) := by
  rw [Sure, ensures_bind, ensures_require]
  exact ⟨h, fun _ => herror⟩

theorem sure_capacity (h : r.receipts.keys.card < r.config.maxReceipts → Sure r answer) :
    Sure r (r.ensureReceiptCapacity >>= fun _ => answer) :=
  sure_require h nofun

variable {f : AccountRecord → Answer}

theorem sure_account (h : ∀ record, r.accounts.lookup account = some record → Sure r (f record)) :
    Sure r (r.accountWithRevision account expectedRevision >>= f) := by
  rw [Sure, ensures_bind, accountWithRevision]
  simp only [ensures_bind, ensures_fetch, ensures_require, ensures_pure]
  exact ⟨fun record hrecord => ⟨fun _ => h record hrecord, fun _ => by decide⟩, fun _ => by decide⟩

theorem sure_active
    (h : ∀ record, r.accounts.lookup account = some record → record.status = .active →
      Sure r (f record)) : Sure r (r.activeAccount account expectedRevision >>= f) := by
  rw [Sure, ensures_bind, activeAccount, accountWithRevision]
  simp only [ensures_bind, ensures_fetch, ensures_require, ensures_pure]
  exact ⟨fun record hrecord => ⟨fun _ => ⟨h record hrecord, fun _ => by decide⟩, fun _ => by decide⟩,
    fun _ => by decide⟩

theorem sure_revision {current : UInt64} {f : UInt64 → Answer} (h : ∀ next, Sure r (f next)) :
    Sure r (nextRevision current >>= f) := by
  rw [Sure, ensures_bind, nextRevision]
  split
  · exact h _
  · exact nofun

theorem sure_update {base : IdentityRegistry} {change : AccountRecord → AccountRecord}
    {f : IdentityRegistry → Answer} (hrecord : base.accounts.lookup account = some record)
    (h : Sure r (f { base with accounts := base.accounts.insert account (change record) })) :
    Sure r (base.updateAccount account change >>= f) := by
  rw [updateAccount, hrecord]
  exact h

theorem active_live (h : record.status = .active) : record.live = true :=
  live_true.mpr (by rw [h]; nofun)

section

variable (h : Indexed r)
include h

theorem createAccount_sure (username : Username) (displayName : DisplayName) :
    Sure r (r.createAccount command fingerprint account username displayName provider) := by
  refine sure_existing sure_replay (sure_capacity fun hroom => sure_require (fun haccounts => ?_) nofun)
  refine sure_require (fun hnew => sure_require (fun hprovider => ?_) nofun) nofun
  refine sure_require (fun hname => ?_) nofun
  exact sure_replaced h (h.created haccounts hnew hprovider hname) rfl hroom

theorem authenticate_sure : Sure r (r.authenticate command fingerprint provider) := by
  have hheld : ∀ {account}, r.providerOwner.lookup provider = some account →
      ∃ record, r.accounts.lookup account = some record := by
    intro account howned
    obtain ⟨record, hrecord, -⟩ := (h.providers provider account).mp howned
    exact ⟨record, hrecord⟩
  refine sure_existing (fun receipt => ?_) (sure_capacity fun hroom => ?_)
  · simp only [Sure, ensures_bind, ensures_require, ensures_fetch, ensures_pure]
    refine ⟨fun _ => ⟨fun account howned => ⟨fun _ => ⟨fun record hrecord => ⟨fun _ =>
      ⟨fun _ => .stayed, fun _ => by decide⟩, fun _ => by decide⟩, fun hmissing => ?_⟩, fun _ => by decide⟩,
      fun _ => by decide⟩, fun _ => by decide⟩
    obtain ⟨record, hrecord⟩ := hheld howned
    rw [hrecord] at hmissing
    cases hmissing
  · rw [Sure, ensures_bind, ensures_fetch]
    refine ⟨fun account howned => ?_, fun _ => by decide⟩
    obtain ⟨record, hrecord⟩ := hheld howned
    rw [hrecord]
    exact sure_require (fun _ => sure_received h (mem_of_lookup hrecord) hroom) (by decide)

theorem linkProvider_sure :
    Sure r (r.linkProvider command fingerprint account expectedRevision provider) := by
  refine sure_existing sure_replay (sure_capacity fun hroom => sure_active fun current hcurrent hactive => ?_)
  refine sure_require (fun hcard => sure_require (fun hretired => ?_) nofun) nofun
  refine sure_require (fun hfree => sure_revision fun next => sure_update hcurrent ?_) nofun
  exact sure_replaced h (h.linked hcurrent (active_live hactive) (active_live hactive) rfl rfl hcard rfl
    hretired hfree) rfl hroom

theorem unlinkProvider_sure :
    Sure r (r.unlinkProvider command fingerprint account expectedRevision provider) := by
  refine sure_existing sure_replay (sure_capacity fun hroom => sure_active fun current hcurrent hactive => ?_)
  refine sure_require (fun hin => sure_require (fun hmore => ?_) nofun) nofun
  refine sure_revision fun next => ?_
  rw [hcurrent, show fetch (some current) invariantError = .ok current from rfl, ok_bind,
    require_of hin, ok_bind]
  refine sure_update hcurrent ?_
  exact sure_replaced h (h.unlinked hcurrent (active_live hactive) (active_live hactive) rfl rfl hin
    hmore rfl) rfl hroom

theorem updateProfile_sure (username : Option Username) (displayName : Option DisplayName) :
    Sure r (r.updateProfile command fingerprint account expectedRevision username displayName) := by
  refine sure_existing sure_replay (sure_capacity fun hroom => sure_require (fun _ => ?_) nofun)
  refine sure_active fun current hcurrent hactive => sure_require (fun hfree => ?_) nofun
  refine sure_require (fun _ => sure_revision fun next => sure_update hcurrent ?_) nofun
  have hname : (if username.getD current.username = current.username then current.username
      else username.getD current.username) = username.getD current.username := by
    split
    · next heq => exact heq.symm
    · rfl
  simp only [hname]
  refine sure_replaced h (h.updated hcurrent (active_live hactive) (active_live hactive) rfl rfl ?_) rfl
    hroom
  intro hne
  cases username with
  | none => exact absurd rfl hne
  | some nextUsername => exact hfree nextUsername rfl hne

theorem setStatus_sure (target : AccountStatus) :
    Sure r (r.setStatus command fingerprint account expectedRevision target) := by
  refine sure_existing sure_replay (sure_capacity fun hroom => sure_require (fun htarget => ?_) nofun)
  refine sure_account fun current hcurrent => sure_require (fun hstatus => ?_) nofun
  refine sure_require (fun _ => sure_revision fun next => sure_update hcurrent ?_) nofun
  obtain ⟨-, hsome, hcard⟩ := h.shaped account current hcurrent
  have hlive := live_true.mpr hstatus
  have hlive' : AccountRecord.live { current with status := target, revision := next } = true :=
    live_true.mpr htarget
  exact sure_replaced h (h.replaced_live hcurrent hlive hlive' rfl hsome hcard
    (h.names_kept hcurrent hlive hlive' rfl) (h.providers_kept hcurrent hlive hlive' rfl)
    h.namesRetired h.providersRetired) rfl hroom

theorem deleteAccount_sure :
    Sure r (r.deleteAccount command fingerprint account expectedRevision) := by
  refine sure_existing sure_replay (sure_capacity fun hroom => sure_account fun current hcurrent => ?_)
  refine sure_require (fun hstatus => sure_revision fun next => sure_update hcurrent ?_) nofun
  exact sure_replaced h (h.deleted_account hcurrent (live_true.mpr hstatus) rfl rfl rfl rfl) rfl hroom

theorem serve_sure (request : IdentityRequest) : Sure r (r.serve request) := by
  cases request with
  | create => exact createAccount_sure h ..
  | authenticate => exact authenticate_sure h
  | link => exact linkProvider_sure h
  | unlink => exact unlinkProvider_sure h
  | update => exact updateProfile_sure h ..
  | setStatus => exact setStatus_sure h ..
  | delete => exact deleteAccount_sure h

theorem Indexed.after (request : IdentityRequest) : Stepped r (r.after request) := by
  have hsure := serve_sure h request
  unfold IdentityRegistry.after
  cases hserve : r.serve request with
  | error error => exact .stayed
  | ok result => exact hsure.of_ok hserve

end

theorem Indexed.step {request : IdentityRequest} (h : Indexed r)
    (hstep : identityRegistry.step r request r') : Stepped r r' := by
  obtain rfl : r.after request = r' := hstep
  exact h.after request

theorem indexed_of_reachable (h : Reachable identityRegistry r) : Indexed r := by
  refine h.invariant (fun r hinit => ?_) fun r request r' hindexed hstep => ?_
  · obtain ⟨config, rfl⟩ := hinit
    exact indexed_new config
  · exact hindexed.stepped (hindexed.step hstep)

structure Since (start r : IdentityRegistry) : Prop where
  names : start.retiredUsernames ⊆ r.retiredUsernames
  providers : start.retiredProviders ⊆ r.retiredProviders
  accounts : ∀ id record, start.accounts.lookup id = some record →
    ∃ record', r.accounts.lookup id = some record' ∧ (record.live = false → record' = record)

theorem Since.refl (r : IdentityRegistry) : Since r r :=
  ⟨Finset.Subset.refl _, Finset.Subset.refl _, fun _ record hrecord => ⟨record, hrecord, fun _ => rfl⟩⟩

theorem Since.trans {start : IdentityRegistry} (h : Since start r) (h' : Since r r') :
    Since start r' := by
  refine ⟨h.names.trans h'.names, h.providers.trans h'.providers, fun id record hrecord => ?_⟩
  obtain ⟨middle, hmiddle, hsame⟩ := h.accounts id record hrecord
  obtain ⟨last, hlast, hsame'⟩ := h'.accounts id middle hmiddle
  refine ⟨last, hlast, fun hdead => ?_⟩
  cases hsame hdead
  exact hsame' hdead

theorem Stepped.since (h : Stepped r r') : Since r r' := by
  cases h with
  | stayed => exact .refl r
  | received receipt haccount hroom => exact ⟨(Since.refl r).1, (Since.refl r).2, (Since.refl r).3⟩
  | replaced receipt account record' hm haccount hroom =>
    refine ⟨hm.namesKept, hm.providersKept, fun id record hrecord => ?_⟩
    dsimp only
    rw [hm.accounts, lookup_insert_ite]
    split
    · next heq =>
      refine ⟨record', rfl, fun hdead => ?_⟩
      rw [hm.live record (heq ▸ hrecord)] at hdead
      cases hdead
    · exact ⟨record, hrecord, fun _ => rfl⟩

theorem Indexed.run {requests : List IdentityRequest} (h : Indexed r)
    (hrun : Run identityRegistry r requests r') : Indexed r' ∧ Since r r' := by
  induction hrun with
  | nil => exact ⟨h, .refl r⟩
  | snoc _ hstep ih =>
    obtain ⟨hindexed, hsince⟩ := ih
    have hstepped := hindexed.step hstep
    exact ⟨hindexed.stepped hstepped, hsince.trans hstepped.since⟩

theorem existingReceipt_some
    (h : r.existingReceipt command fingerprint outcome = .ok (some receipt)) :
    r.receipts.lookup command = some receipt := by
  rw [existingReceipt] at h
  split at h
  · cases h
  · next found hfound =>
    simp only [bind_ok, require_ok, exists_const] at h
    obtain ⟨-, -, hresult⟩ := h
    rw [hfound, ← Option.some.inj (Except.ok.inj hresult)]

variable {username : Username}

theorem createAccount_ok {displayName : DisplayName}
    (h : r.createAccount command fingerprint account username displayName provider =
      .ok (receipt, r')) :
    (r' = r ∧ r.receipts.lookup command = some receipt) ∨
      (account ∉ r.accounts ∧ account ∈ r'.accounts) := by
  obtain ⟨existing, hexisting, h⟩ := bind_ok.mp h
  cases existing with
  | some found =>
    cases h
    exact .inl ⟨rfl, existingReceipt_some hexisting⟩
  | none =>
    simp only [bind_ok, require_ok, exists_const] at h
    obtain ⟨⟨⟩, -, -, hnew, -, -, hsettle⟩ := h
    obtain ⟨-, rfl⟩ := settle_ok hsettle
    exact .inr ⟨hnew, Finmap.mem_insert.mpr (.inl rfl)⟩

structure NameFree (r : IdentityRegistry) (username : Username) : Prop where
  unowned : ∀ id, r.usernameOwner.lookup username ≠ some id
  unheld : ∀ id record, r.accounts.lookup id = some record → record.status ≠ .deleted →
    record.username ≠ username

structure ProviderFree (r : IdentityRegistry) (provider : ProviderIdentity) : Prop where
  unowned : ∀ id, r.providerOwner.lookup provider ≠ some id
  unheld : ∀ id record, r.accounts.lookup id = some record → record.status ≠ .deleted →
    provider ∉ record.providers

theorem Indexed.nameFree (h : Indexed r) (hretired : username ∈ r.retiredUsernames) :
    NameFree r username := by
  have hnone := h.namesRetired username hretired
  refine ⟨fun id howned => ?_, fun id record hrecord hlive hname => ?_⟩
  · rw [hnone] at howned
    cases howned
  · exact h.names.free.mp hnone id ⟨record, hrecord, live_true.mpr hlive, hname.symm⟩

theorem Indexed.providerFree (h : Indexed r) (hretired : provider ∈ r.retiredProviders) :
    ProviderFree r provider := by
  have hnone := h.providersRetired provider hretired
  refine ⟨fun id howned => ?_, fun id record hrecord hlive hheld => ?_⟩
  · rw [hnone] at howned
    cases howned
  · exact h.providers.free.mp hnone id ⟨record, hrecord, live_true.mpr hlive, hheld⟩

end IdentityRegistry

open IdentityRegistry

structure Permanent (r : IdentityRegistry) : Prop where
  faultless : ∀ request, r.serve request ≠ .error invariantError
  retires : ∀ id record, r.accounts.lookup id = some record → record.status = .deleted →
    record.username ∈ r.retiredUsernames ∧ record.providers ⊆ r.retiredProviders
  names : ∀ username ∈ r.retiredUsernames, ∀ requests r', Run identityRegistry r requests r' →
    NameFree r' username
  providers : ∀ provider ∈ r.retiredProviders, ∀ requests r', Run identityRegistry r requests r' →
    ProviderFree r' provider
  deleted : ∀ id record, r.accounts.lookup id = some record → record.status = .deleted →
    ∀ requests r', Run identityRegistry r requests r' → r'.accounts.lookup id = some record
  issuedOnce : ∀ id ∈ r.accounts, ∀ requests r', Run identityRegistry r requests r' →
    ∀ command fingerprint username displayName provider receipt r'',
      r'.createAccount command fingerprint id username displayName provider = .ok (receipt, r'') →
      r'' = r' ∧ r'.receipts.lookup command = some receipt

theorem invariants_inductive_and_retirement_permanent {r : IdentityRegistry}
    (hreach : Reachable identityRegistry r) : Permanent r := by
  have h := indexed_of_reachable hreach
  refine ⟨fun request herror => (serve_sure h request).of_error herror rfl, ?_, ?_, ?_, ?_, ?_⟩
  · intro id record hrecord hstatus
    exact h.deleted id record hrecord (live_false.mpr hstatus)
  · intro username hretired requests r' hrun
    obtain ⟨h', hsince⟩ := h.run hrun
    exact h'.nameFree (hsince.names hretired)
  · intro provider hretired requests r' hrun
    obtain ⟨h', hsince⟩ := h.run hrun
    exact h'.providerFree (hsince.providers hretired)
  · intro id record hrecord hstatus requests r' hrun
    obtain ⟨record', hrecord', hsame⟩ := (h.run hrun).2.accounts id record hrecord
    rw [hrecord', hsame (live_false.mpr hstatus)]
  · intro id hid requests r' hrun command fingerprint username displayName provider receipt r'' hok
    obtain ⟨record, hrecord⟩ := Finmap.mem_iff.mp hid
    obtain ⟨record', hrecord', -⟩ := (h.run hrun).2.accounts id record hrecord
    rcases createAccount_ok hok with hreplay | ⟨hnew, -⟩
    · exact hreplay
    · exact absurd (mem_of_lookup hrecord') hnew

def sampleDelete : IdentityRequest :=
  .delete (sampleCommand 2 twos_nonzero) sampleFingerprint sampleAccount 1

def sampleDeleted : IdentityRegistry := (sampleRegistry 2 (by decide)).after sampleDelete

theorem reachable_sampleDeleted : Reachable identityRegistry sampleDeleted := by
  have hdeleted : identityRegistry.step (sampleRegistry 2 (by decide)) sampleDelete sampleDeleted := rfl
  exact (sample_reachable 2 (by decide)).run (.single hdeleted)

theorem invariants_inductive_and_retirement_permanent_sample :
    (sampleDeleted.accounts.lookup sampleAccount).map (·.status) = some .deleted ∧
      sampleProvider ∈ sampleDeleted.retiredProviders ∧ Permanent sampleDeleted :=
  ⟨by decide +kernel, by decide +kernel,
    invariants_inductive_and_retirement_permanent reachable_sampleDeleted⟩

end Identity
