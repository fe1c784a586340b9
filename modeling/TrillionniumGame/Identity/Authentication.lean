import TrillionniumGame.Foundation.Runs
import TrillionniumGame.Identity.Registry

namespace Identity
open Checks FiniteMap Runs
open Persistence (checkedAdd checkedAdd_some ones_nonzero zeroBytes)

namespace IdentityRegistry

variable {r r' : IdentityRegistry}

def Valid (r : IdentityRegistry) : Prop := r.validateInvariants = .ok ()

def held : List (AccountId × AccountRecord) → Finset ProviderIdentity
  | [] => ∅
  | (_, record) :: rest =>
    if record.status = .deleted then held rest else record.providers ∪ held rest

variable {entries : List (AccountId × AccountRecord)} {provider : ProviderIdentity}

theorem mem_held :
    provider ∈ held entries ↔ ∃ entry ∈ entries, entry.2.status ≠ .deleted ∧
      provider ∈ entry.2.providers := by
  induction entries with
  | nil => simp [held]
  | cons entry rest ih =>
    obtain ⟨id, record⟩ := entry
    rw [held]
    by_cases hdeleted : record.status = .deleted
    · simp [hdeleted, ih]
    · simp [hdeleted, ih]

def Owned (r : IdentityRegistry) (id : AccountId) (record : AccountRecord) : Prop :=
  record.status ≠ .deleted → ∀ provider ∈ record.providers,
    r.providerOwner.lookup provider = some id

variable {counts counts' : Nat × Nat}

theorem validateAccount_ok {id : AccountId} {record : AccountRecord}
    (h : r.validateAccount counts id record = .ok counts') : Owned r id record ∧
      counts'.2 = counts.2 + if record.status = .deleted then 0 else record.providers.card := by
  obtain ⟨_, _, h⟩ := bind_ok.mp h
  split at h
  · next hdeleted =>
    simp only [bind_ok] at h
    obtain ⟨_, _, _, _, hcounts⟩ := h
    cases hcounts
    exact ⟨fun hkept => absurd hdeleted hkept, by rw [if_pos hdeleted]; rfl⟩
  · next hkept =>
    simp only [bind_ok, fetch_ok, require_ok] at h
    obtain ⟨_, _, _, _, activeProviders, hproviders, _, howned, hcounts⟩ := h
    cases hcounts
    refine ⟨fun _ provider hprovider => (howned provider hprovider).1, ?_⟩
    rw [if_neg hkept]
    exact (checkedAdd_some.mp hproviders).2.symm

theorem validateAccounts_ok (hnodup : (entries.map (·.1)).Nodup)
    (h : r.validateAccounts counts entries = .ok counts') :
    (∀ entry ∈ entries, Owned r entry.1 entry.2) ∧
      counts'.2 = counts.2 + (held entries).card := by
  induction entries generalizing counts with
  | nil =>
    cases h
    exact ⟨nofun, rfl⟩
  | cons entry rest ih =>
    obtain ⟨id, record⟩ := entry
    obtain ⟨next, hfirst, hrest⟩ := bind_ok.mp h
    rw [List.map_cons, List.nodup_cons] at hnodup
    obtain ⟨hfirst, hcount⟩ := validateAccount_ok hfirst
    obtain ⟨hall, htotal⟩ := ih hnodup.2 hrest
    refine ⟨List.forall_mem_cons.mpr ⟨hfirst, hall⟩, ?_⟩
    rw [htotal, hcount, held]
    by_cases hdeleted : record.status = .deleted
    · rw [if_pos hdeleted, if_pos hdeleted, Nat.add_zero]
    · have hdisjoint : Disjoint record.providers (held rest) := by
        refine Finset.disjoint_left.mpr fun provider hprovider hheld => ?_
        obtain ⟨other, hother, hkept, hin⟩ := mem_held.mp hheld
        have howner := hfirst hdeleted provider hprovider
        rw [hall other hother hkept provider hin] at howner
        exact hnodup.1 (List.mem_map.mpr ⟨other, hother, Option.some.inj howner⟩)
      rw [if_neg hdeleted, if_neg hdeleted, Finset.card_union_of_disjoint hdisjoint, Nat.add_assoc]

theorem Valid.bound (h : r.Valid) {account : AccountId}
    (hbound : r.providerOwner.lookup provider = some account) :
    ∃ record, r.accounts.lookup account = some record ∧ record.status ≠ .deleted ∧
      provider ∈ record.providers := by
  obtain ⟨_, _, h⟩ := bind_ok.mp h
  obtain ⟨counts, haccounts, h⟩ := bind_ok.mp h
  obtain ⟨_, hcounts, _⟩ := bind_ok.mp h
  have hnodup : ((items r.accounts).map (·.1)).Nodup := by
    rw [items_keys]
    exact nodup_ordered _
  obtain ⟨hchecked, hcount⟩ := validateAccounts_ok hnodup haccounts
  have hsubset : held (items r.accounts) ⊆ r.providerOwner.keys := by
    intro other hother
    obtain ⟨entry, hentry, hkept, hin⟩ := mem_held.mp hother
    exact Finmap.mem_keys.mpr (mem_of_lookup (hchecked entry hentry hkept other hin))
  have hcard : r.providerOwner.keys.card ≤ (held (items r.accounts)).card := by
    rw [← (require_ok.mp hcounts).2, hcount, Nat.zero_add]
  have hheld : provider ∈ held (items r.accounts) := by
    rw [Finset.eq_of_subset_of_card_le hsubset hcard]
    exact Finmap.mem_keys.mpr (mem_of_lookup hbound)
  obtain ⟨⟨id, record⟩, hentry, hkept, hin⟩ := mem_held.mp hheld
  have howner := hchecked _ hentry hkept provider hin
  obtain rfl : id = account := Option.mem_unique howner hbound
  exact ⟨record, mem_items.mp hentry, hkept, hin⟩

theorem items_empty {K V : Type} [LinearOrder K] : items (∅ : Dict K V) = [] := by
  refine List.eq_nil_iff_forall_not_mem.mpr ?_
  rintro ⟨key, value⟩ hitem
  rw [mem_items, Finmap.lookup_empty] at hitem
  cases hitem

theorem valid_new (config : IdentityConfig) : (new config).Valid := by
  unfold Valid validateInvariants new
  rw [items_empty, items_empty]
  simp [validateAccounts, require, bind, Except.bind, pure, Except.pure]

theorem validateAccounts_receipts (receipts : Dict CommandId CommandReceipt) (counts : Nat × Nat)
    (entries : List (AccountId × AccountRecord)) :
    validateAccounts { r with receipts } counts entries = r.validateAccounts counts entries := by
  induction entries generalizing counts with
  | nil => rfl
  | cons entry rest ih =>
    refine congrArg (r.validateAccount counts entry.1 entry.2 >>= ·) (funext fun counts' => ?_)
    exact ih counts'

theorem Valid.received (h : r.Valid) {receipt : CommandReceipt}
    (haccount : receipt.account ∈ r.accounts)
    (hroom : r.receipts.keys.card < r.config.maxReceipts) :
    Valid { r with receipts := r.receipts.insert receipt.command receipt } := by
  obtain ⟨_, hsizes, h⟩ := bind_ok.mp h
  obtain ⟨counts, haccounts, h⟩ := bind_ok.mp h
  obtain ⟨_, hcounts, hreceipts⟩ := bind_ok.mp h
  refine bind_ok.mpr ⟨(), require_ok.mpr ⟨(require_ok.mp hsizes).1, ?_⟩,
    bind_ok.mpr ⟨counts, ?_, bind_ok.mpr ⟨(), hcounts, forM_ok.mpr ?_⟩⟩⟩
  · dsimp only
    rw [keys_insert]
    exact (Finset.card_insert_le _ _).trans hroom
  · rw [validateAccounts_receipts]
    exact haccounts
  · rintro ⟨command, received⟩ hitem
    rw [mem_items, lookup_insert_ite] at hitem
    split at hitem
    · next hsame =>
      cases hitem
      exact require_ok.mpr ⟨hsame, haccount⟩
    · exact forM_ok.mp hreceipts (command, received) (mem_items.mpr hitem)

theorem Valid.settles (h : r.Valid) (receipt : CommandReceipt)
    (haccount : receipt.account ∈ r.accounts)
    (hroom : r.receipts.keys.card < r.config.maxReceipts) :
    ∃ next, r.settle receipt = .ok (receipt, next) :=
  ⟨_, bind_ok.mpr ⟨(), h.received haccount hroom, rfl⟩⟩

def Keeps (r : IdentityRegistry) (answer : Answer) : Prop :=
  Ensures (fun result => result.2 = r ∨ result.2.Valid) (fun _ => True) answer

theorem keeps_bind {α : Type} {x : Except IdentityError α} {f : α → Answer}
    (h : ∀ a, Keeps r (f a)) : Keeps r (x >>= f) := by
  cases x with
  | error error => exact trivial
  | ok a => exact h a

theorem keeps_existing {x : Except IdentityError (Option CommandReceipt)}
    {f : Option CommandReceipt → Answer} (hsome : ∀ receipt, Keeps r (f (some receipt)))
    (hnone : Keeps r (f none)) : Keeps r (x >>= f) := by
  refine keeps_bind fun existing => ?_
  cases existing with
  | none => exact hnone
  | some receipt => exact hsome receipt

theorem keeps_pure (receipt : CommandReceipt) : Keeps r (pure (receipt, r)) := .inl rfl

theorem settle_ok {candidate : IdentityRegistry} {receipt receipt' : CommandReceipt}
    (h : candidate.settle receipt = .ok (receipt', r')) : receipt' = receipt ∧
      r' = { candidate with receipts := candidate.receipts.insert receipt.command receipt } := by
  obtain ⟨_, _, hresult⟩ := bind_ok.mp h
  cases hresult
  exact ⟨rfl, rfl⟩

theorem keeps_settle (candidate : IdentityRegistry) (receipt : CommandReceipt) :
    Keeps r (candidate.settle receipt) := by
  unfold settle
  dsimp only
  rw [Keeps, ensures_bind]
  cases hvalid : validateInvariants
    { candidate with receipts := candidate.receipts.insert receipt.command receipt } with
  | error error => exact trivial
  | ok _ => exact .inr hvalid

variable (command : CommandId) (fingerprint : Fingerprint) (account : AccountId)

theorem createAccount_keeps (username : Username) (displayName : DisplayName)
    (provider : ProviderIdentity) :
    Keeps r (r.createAccount command fingerprint account username displayName provider) := by
  refine keeps_existing keeps_pure (keeps_bind fun _ => keeps_bind fun _ => keeps_bind fun _ => ?_)
  exact keeps_bind fun _ => keeps_bind fun _ => keeps_settle _ _

theorem authenticate_keeps (provider : ProviderIdentity) :
    Keeps r (r.authenticate command fingerprint provider) := by
  refine keeps_existing (fun receipt => ?_) ?_
  · refine keeps_bind fun _ => keeps_bind fun _ => keeps_bind fun _ => keeps_bind fun _ => ?_
    exact keeps_bind fun _ => keeps_bind fun _ => keeps_pure receipt
  · refine keeps_bind fun _ => keeps_bind fun _ => keeps_bind fun _ => ?_
    exact keeps_bind fun _ => keeps_settle _ _

variable (expectedRevision : UInt64)

theorem linkProvider_keeps (provider : ProviderIdentity) :
    Keeps r (r.linkProvider command fingerprint account expectedRevision provider) := by
  refine keeps_existing keeps_pure (keeps_bind fun _ => keeps_bind fun _ => keeps_bind fun _ => ?_)
  refine keeps_bind fun _ => keeps_bind fun _ => keeps_bind fun _ => ?_
  exact keeps_bind fun _ => keeps_settle _ _

theorem unlinkProvider_keeps (provider : ProviderIdentity) :
    Keeps r (r.unlinkProvider command fingerprint account expectedRevision provider) := by
  refine keeps_existing keeps_pure (keeps_bind fun _ => keeps_bind fun _ => keeps_bind fun _ => ?_)
  refine keeps_bind fun _ => keeps_bind fun _ => ?_
  exact keeps_bind fun _ => keeps_bind fun _ => keeps_bind fun _ => keeps_settle _ _

theorem updateProfile_keeps (username : Option Username) (displayName : Option DisplayName) :
    Keeps r (r.updateProfile command fingerprint account expectedRevision username displayName) := by
  refine keeps_existing keeps_pure (keeps_bind fun _ => keeps_bind fun _ => keeps_bind fun _ => ?_)
  refine keeps_bind fun _ => keeps_bind fun _ => keeps_bind fun _ => ?_
  exact keeps_bind fun _ => keeps_settle _ _

theorem setStatus_keeps (target : AccountStatus) :
    Keeps r (r.setStatus command fingerprint account expectedRevision target) := by
  refine keeps_existing keeps_pure (keeps_bind fun _ => keeps_bind fun _ => keeps_bind fun _ => ?_)
  refine keeps_bind fun _ => keeps_bind fun _ => keeps_bind fun _ => ?_
  exact keeps_bind fun _ => keeps_settle _ _

theorem deleteAccount_keeps :
    Keeps r (r.deleteAccount command fingerprint account expectedRevision) := by
  refine keeps_existing keeps_pure (keeps_bind fun _ => keeps_bind fun _ => keeps_bind fun _ => ?_)
  exact keeps_bind fun _ => keeps_bind fun _ => keeps_settle _ _

end IdentityRegistry

inductive IdentityRequest where
  | create (command : CommandId) (fingerprint : Fingerprint) (account : AccountId)
      (username : Username) (displayName : DisplayName) (provider : ProviderIdentity)
  | authenticate (command : CommandId) (fingerprint : Fingerprint) (provider : ProviderIdentity)
  | link (command : CommandId) (fingerprint : Fingerprint) (account : AccountId)
      (expectedRevision : UInt64) (provider : ProviderIdentity)
  | unlink (command : CommandId) (fingerprint : Fingerprint) (account : AccountId)
      (expectedRevision : UInt64) (provider : ProviderIdentity)
  | update (command : CommandId) (fingerprint : Fingerprint) (account : AccountId)
      (expectedRevision : UInt64) (username : Option Username) (displayName : Option DisplayName)
  | setStatus (command : CommandId) (fingerprint : Fingerprint) (account : AccountId)
      (expectedRevision : UInt64) (target : AccountStatus)
  | delete (command : CommandId) (fingerprint : Fingerprint) (account : AccountId)
      (expectedRevision : UInt64)

namespace IdentityRegistry

variable {r : IdentityRegistry}

def serve (r : IdentityRegistry) : IdentityRequest → Answer
  | .create command fingerprint account username displayName provider =>
    r.createAccount command fingerprint account username displayName provider
  | .authenticate command fingerprint provider => r.authenticate command fingerprint provider
  | .link command fingerprint account expectedRevision provider =>
    r.linkProvider command fingerprint account expectedRevision provider
  | .unlink command fingerprint account expectedRevision provider =>
    r.unlinkProvider command fingerprint account expectedRevision provider
  | .update command fingerprint account expectedRevision username displayName =>
    r.updateProfile command fingerprint account expectedRevision username displayName
  | .setStatus command fingerprint account expectedRevision target =>
    r.setStatus command fingerprint account expectedRevision target
  | .delete command fingerprint account expectedRevision =>
    r.deleteAccount command fingerprint account expectedRevision

def after (r : IdentityRegistry) (request : IdentityRequest) : IdentityRegistry :=
  match r.serve request with
  | .ok (_, next) => next
  | .error _ => r

theorem serve_keeps (r : IdentityRegistry) (request : IdentityRequest) :
    Keeps r (r.serve request) := by
  cases request with
  | create => exact createAccount_keeps ..
  | authenticate => exact authenticate_keeps ..
  | link => exact linkProvider_keeps ..
  | unlink => exact unlinkProvider_keeps ..
  | update => exact updateProfile_keeps ..
  | setStatus => exact setStatus_keeps ..
  | delete => exact deleteAccount_keeps ..

theorem Valid.after (h : r.Valid) (request : IdentityRequest) : (r.after request).Valid := by
  have hkeeps := serve_keeps r request
  unfold IdentityRegistry.after
  cases hserve : r.serve request with
  | error error => exact h
  | ok result =>
    rcases hkeeps.of_ok hserve with hsame | hvalid
    · exact hsame ▸ h
    · exact hvalid

end IdentityRegistry

def identityRegistry : System IdentityRegistry IdentityRequest where
  init r := ∃ config, r = .new config
  step r request r' := r.after request = r'

namespace IdentityRegistry

variable {r r' : IdentityRegistry} {command : CommandId} {fingerprint : Fingerprint}
  {provider : ProviderIdentity}

theorem valid_of_reachable (h : Reachable identityRegistry r) : r.Valid := by
  refine h.invariant (fun r hinit => ?_) fun r request r' hvalid hstep => ?_
  · obtain ⟨config, rfl⟩ := hinit
    exact valid_new config
  · obtain rfl : r.after request = r' := hstep
    exact hvalid.after request

structure Speaks (r : IdentityRegistry) (provider : ProviderIdentity) (receipt : CommandReceipt)
    (record : AccountRecord) : Prop where
  bound : r.providerOwner.lookup provider = some receipt.account
  account : r.accounts.lookup receipt.account = some record
  active : record.status = .active
  revision : record.revision = receipt.revision

theorem authenticate_ok {receipt : CommandReceipt}
    (h : r.authenticate command fingerprint provider = .ok (receipt, r')) :
    (∃ record, Speaks r provider receipt record) ∧ r'.accounts = r.accounts ∧
      r'.providerOwner = r.providerOwner := by
  obtain ⟨existing, _, h⟩ := bind_ok.mp h
  cases existing with
  | some stored =>
    simp only [bind_ok, fetch_ok, require_ok] at h
    obtain ⟨_, _, account, hbound, _, rfl, record, haccount, _, hactive, _, hrevision, hresult⟩ := h
    cases hresult
    exact ⟨⟨record, hbound, haccount, hactive, hrevision⟩, rfl, rfl⟩
  | none =>
    simp only [bind_ok, fetch_ok, require_ok] at h
    obtain ⟨_, _, account, hbound, record, haccount, _, hactive, hsettle⟩ := h
    obtain ⟨rfl, rfl⟩ := settle_ok hsettle
    exact ⟨⟨record, hbound, haccount, hactive, rfl⟩, rfl, rfl⟩

theorem existingReceipt_fresh (hfresh : command ∉ r.receipts) (outcome : ReceiptOutcome) :
    r.existingReceipt command fingerprint outcome = .ok none := by
  rw [existingReceipt, Finmap.lookup_eq_none.mpr hfresh]

theorem authenticate_fresh (h : r.Valid) {account : AccountId} {record : AccountRecord}
    (hfresh : command ∉ r.receipts) (hbound : r.providerOwner.lookup provider = some account)
    (haccount : r.accounts.lookup account = some record) (hactive : record.status = .active) :
    (∃ result, r.authenticate command fingerprint provider = .ok result) ↔
      r.receipts.keys.card < r.config.maxReceipts := by
  unfold authenticate
  rw [existingReceipt_fresh hfresh]
  constructor
  · rintro ⟨result, hok⟩
    obtain ⟨existing, hnone, hok⟩ := bind_ok.mp hok
    cases hnone
    obtain ⟨_, hroom, _⟩ := bind_ok.mp hok
    exact require_ok.mp hroom
  · intro hroom
    obtain ⟨next, hsettle⟩ := h.settles
      ⟨command, fingerprint, account, record.revision, .authenticated⟩ (mem_of_lookup haccount) hroom
    refine ⟨(⟨command, fingerprint, account, record.revision, .authenticated⟩, next),
      bind_ok.mpr ⟨none, rfl, bind_ok.mpr ⟨(), require_ok.mpr hroom, ?_⟩⟩⟩
    refine bind_ok.mpr ⟨account, fetch_ok.mpr hbound, bind_ok.mpr ⟨record, ?_, ?_⟩⟩
    · exact fetch_ok.mpr haccount
    · exact bind_ok.mpr ⟨(), require_ok.mpr hactive, hsettle⟩

end IdentityRegistry

open IdentityRegistry

theorem authentication_sound_and_complete {r : IdentityRegistry}
    (h : Reachable identityRegistry r) (command : CommandId) (fingerprint : Fingerprint)
    (provider : ProviderIdentity) :
    (∀ receipt r', r.authenticate command fingerprint provider = .ok (receipt, r') →
      ∃ record, Speaks r' provider receipt record ∧ provider ∈ record.providers) ∧
    ∀ account record, command ∉ r.receipts →
      r.providerOwner.lookup provider = some account →
      r.accounts.lookup account = some record → record.status = .active →
      ((∃ result, r.authenticate command fingerprint provider = .ok result) ↔
        r.receipts.keys.card < r.config.maxReceipts) := by
  have hvalid := valid_of_reachable h
  constructor
  · intro receipt r' hok
    obtain ⟨⟨record, hspeaks⟩, haccounts, howners⟩ := authenticate_ok hok
    obtain ⟨held, hheld, _, hprovider⟩ := hvalid.bound hspeaks.bound
    obtain rfl : held = record := Option.mem_unique hheld hspeaks.account
    refine ⟨held, ⟨?_, ?_, hspeaks.active, hspeaks.revision⟩, hprovider⟩
    · rw [howners]
      exact hspeaks.bound
    · rw [haccounts]
      exact hspeaks.account
  · exact fun account record => authenticate_fresh hvalid

def sampleAccount : AccountId := ⟨Vector.replicate 16 1, ones_nonzero⟩

def sampleCommand (byte : UInt8) (h : zeroBytes (Vector.replicate 16 byte) = false) : CommandId :=
  ⟨Vector.replicate 16 byte, h⟩

def sampleFingerprint : Fingerprint := ⟨Vector.replicate 32 1, by decide⟩

def sampleProvider : ProviderIdentity := ⟨.device, "device-1", by decide +kernel⟩

def sampleConfig (receipts : Nat) (h : 0 < receipts ∧ receipts ≤ hardMaxReceipts) :
    IdentityConfig :=
  ⟨1, 1, receipts, by decide, by decide, h⟩

def sampleCreate : IdentityRequest :=
  .create (sampleCommand 1 ones_nonzero) sampleFingerprint sampleAccount
    ⟨"user-1", by decide +kernel⟩ ⟨"User 1", by decide +kernel⟩ sampleProvider

def sampleRecord : AccountRecord :=
  ⟨sampleAccount, ⟨"user-1", by decide +kernel⟩, ⟨"User 1", by decide +kernel⟩, 1, .active,
    {sampleProvider}⟩

def sampleRegistry (receipts : Nat) (h : 0 < receipts ∧ receipts ≤ hardMaxReceipts) :
    IdentityRegistry :=
  (new (sampleConfig receipts h)).after sampleCreate

theorem sample_reachable (receipts : Nat) (h : 0 < receipts ∧ receipts ≤ hardMaxReceipts) :
    Reachable identityRegistry (sampleRegistry receipts h) := by
  have hcreated : identityRegistry.step (new (sampleConfig receipts h)) sampleCreate
      (sampleRegistry receipts h) := rfl
  exact ⟨_, _, ⟨sampleConfig receipts h, rfl⟩, .single hcreated⟩

theorem authentication_sound_and_complete_sample :
    ∃ result, (sampleRegistry 2 (by decide)).authenticate (sampleCommand 2 (by decide))
      sampleFingerprint sampleProvider = .ok result :=
  ((authentication_sound_and_complete (sample_reachable 2 (by decide)) _ _ _).2 sampleAccount
    sampleRecord (by decide +kernel) (by decide +kernel) (by decide +kernel) rfl).mpr
    (by decide +kernel)

theorem fresh_authentication_without_room :
    ¬ ∀ r command fingerprint provider account record, Reachable identityRegistry r →
      command ∉ r.receipts → r.providerOwner.lookup provider = some account →
      r.accounts.lookup account = some record → record.status = .active →
      ∃ result, r.authenticate command fingerprint provider = .ok result := by
  intro h
  obtain ⟨result, hok⟩ := h (sampleRegistry 1 (by decide)) (sampleCommand 2 (by decide))
    sampleFingerprint sampleProvider sampleAccount sampleRecord (sample_reachable _ _)
    (by decide +kernel) (by decide +kernel) (by decide +kernel) rfl
  have hrefused : (sampleRegistry 1 (by decide)).authenticate (sampleCommand 2 (by decide))
      sampleFingerprint sampleProvider =
        .error ⟨.resourceExhausted, "receipt_capacity_exhausted"⟩ := rfl
  rw [hrefused] at hok
  cases hok

end Identity
