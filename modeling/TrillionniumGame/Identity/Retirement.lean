import TrillionniumGame.Identity.Authentication

namespace Identity
open Checks FiniteMap Runs
open Persistence (checkedAdd checkedAdd_of_lt checkedAdd_some zeroBytes)

def AccountRecord.live (record : AccountRecord) : Bool := record.status ≠ .deleted

def NameOf (accounts : Dict AccountId AccountRecord) (id : AccountId) (username : Username) : Prop :=
  ∃ record, accounts.lookup id = some record ∧ record.live = true ∧ username = record.username

def ProviderOf (accounts : Dict AccountId AccountRecord) (id : AccountId)
    (provider : ProviderIdentity) : Prop :=
  ∃ record, accounts.lookup id = some record ∧ record.live = true ∧ provider ∈ record.providers

namespace IdentityRegistry

variable {r : IdentityRegistry} {id : AccountId} {record : AccountRecord}

structure Indexed (r : IdentityRegistry) : Prop where
  accountRoom : r.accounts.keys.card ≤ r.config.maxAccounts
  receiptRoom : r.receipts.keys.card ≤ r.config.maxReceipts
  shaped : ∀ id record, r.accounts.lookup id = some record → record.id = id ∧
    record.providers ≠ ∅ ∧ record.providers.card ≤ r.config.maxIdentitiesPerAccount
  names : Inverse r.usernameOwner (NameOf r.accounts)
  providers : Inverse r.providerOwner (ProviderOf r.accounts)
  namesRetired : Unowned r.usernameOwner r.retiredUsernames
  providersRetired : Unowned r.providerOwner r.retiredProviders
  deleted : ∀ id record, r.accounts.lookup id = some record → record.live = false →
    record.username ∈ r.retiredUsernames ∧ record.providers ⊆ r.retiredProviders
  receipts : ∀ command receipt, r.receipts.lookup command = some receipt →
    receipt.command = command ∧ receipt.account ∈ r.accounts

theorem indexed_new (config : IdentityConfig) : Indexed (new config) := by
  refine ⟨Nat.zero_le _, Nat.zero_le _, ?_, ?_, ?_, ?_, ?_, ?_, ?_⟩ <;>
    simp [new, Inverse, Unowned, NameOf, ProviderOf]

theorem live_false : record.live = false ↔ record.status = .deleted := by
  simp [AccountRecord.live]

theorem live_true : record.live = true ↔ record.status ≠ .deleted := by
  simp [AccountRecord.live]

theorem Indexed.validateAccount (h : Indexed r) (hrecord : r.accounts.lookup id = some record)
    (counts : Nat × Nat) (hnames : counts.1 + 1 < 2 ^ 64)
    (hproviders : counts.2 + record.providers.card < 2 ^ 64) :
    r.validateAccount counts id record = .ok
      (counts.1 + record.live.toNat, counts.2 + if record.live then record.providers.card else 0) := by
  obtain ⟨hid, hsome, hcard⟩ := h.shaped id record hrecord
  rw [IdentityRegistry.validateAccount, bind_ok]
  refine ⟨(), require_ok.mpr ⟨hid.symm, hsome, hcard⟩, ?_⟩
  by_cases hlive : record.live = true
  · have hfree : ∀ {username}, r.usernameOwner.lookup username = some id →
        username ∉ r.retiredUsernames := by
      intro username howned hretired
      rw [h.namesRetired username hretired] at howned
      cases howned
    have hname := (h.names record.username id).mpr ⟨record, hrecord, hlive, rfl⟩
    rw [if_neg (live_true.mp hlive), checkedAdd_of_lt hnames, checkedAdd_of_lt hproviders, hlive]
    refine bind_ok.mpr ⟨counts.1 + 1, rfl, bind_ok.mpr ⟨(), require_ok.mpr ⟨hname, hfree hname⟩,
      bind_ok.mpr ⟨_, rfl, bind_ok.mpr ⟨(), require_ok.mpr fun provider hprovider => ?_, rfl⟩⟩⟩⟩
    have howned := (h.providers provider id).mpr ⟨record, hrecord, hlive, hprovider⟩
    refine ⟨howned, fun hretired => ?_⟩
    rw [h.providersRetired provider hretired] at howned
    cases howned
  · have hdead : record.live = false := by simpa using hlive
    obtain ⟨hname, hheld⟩ := h.deleted id record hrecord hdead
    rw [if_pos (live_false.mp hdead), hdead]
    refine bind_ok.mpr ⟨(), require_ok.mpr ⟨?_, hname⟩, bind_ok.mpr ⟨(), require_ok.mpr ?_, rfl⟩⟩
    · exact Finmap.lookup_eq_none.mp (h.namesRetired _ hname)
    · intro provider hprovider
      exact ⟨Finmap.lookup_eq_none.mp (h.providersRetired _ (hheld hprovider)), hheld hprovider⟩

def liveNames (entries : List (AccountId × AccountRecord)) : List Username :=
  (entries.filter fun entry => entry.2.live).map fun entry => entry.2.username

theorem Indexed.validateAccounts (h : Indexed r) {entries : List (AccountId × AccountRecord)}
    (hentries : ∀ entry ∈ entries, r.accounts.lookup entry.1 = some entry.2) (counts : Nat × Nat)
    (hnames : counts.1 + entries.length < 2 ^ 64)
    (hproviders : counts.2 + entries.length * r.config.maxIdentitiesPerAccount < 2 ^ 64) :
    ∃ counts', r.validateAccounts counts entries = .ok counts' ∧
      counts'.1 = counts.1 + (liveNames entries).length := by
  induction entries generalizing counts with
  | nil => exact ⟨counts, rfl, rfl⟩
  | cons entry rest ih =>
    obtain ⟨id, record⟩ := entry
    obtain ⟨hfirst, hrest⟩ := List.forall_mem_cons.mp hentries
    dsimp only at hfirst
    obtain ⟨-, -, hcard⟩ := h.shaped id record hfirst
    rw [List.length_cons] at hnames hproviders
    rw [Nat.succ_mul] at hproviders
    have hstep := h.validateAccount hfirst counts (by omega) (by omega)
    have hlive : record.live.toNat ≤ 1 := Bool.toNat_le _
    have hheld : (if record.live then record.providers.card else 0) ≤ record.providers.card := by
      split <;> omega
    obtain ⟨counts', hok, hcount⟩ := ih hrest
      (counts.1 + record.live.toNat,
        counts.2 + if record.live then record.providers.card else 0)
      (by dsimp only; omega) (by dsimp only; omega)
    refine ⟨counts', bind_ok.mpr ⟨_, hstep, hok⟩, ?_⟩
    rw [hcount, liveNames, liveNames, List.filter_cons]
    cases record.live with
    | false => simp
    | true =>
      simp only [Bool.toNat_true, if_true, List.map_cons, List.length_cons]
      omega

theorem nodup_items (r : IdentityRegistry) : ((items r.accounts).map (·.1)).Nodup := by
  rw [items_keys]
  exact nodup_ordered _

theorem Indexed.liveNames_length (h : Indexed r) :
    (liveNames (items r.accounts)).length = r.usernameOwner.keys.card := by
  have howner : ∀ entry ∈ items r.accounts, entry.2.live = true →
      r.usernameOwner.lookup entry.2.username = some entry.1 := fun entry hentry hlive =>
    (h.names _ _).mpr ⟨entry.2, mem_items.mp hentry, hlive, rfl⟩
  have hnodup : (liveNames (items r.accounts)).Nodup := by
    refine List.Nodup.map_on ?_ (((List.Nodup.of_map _ (nodup_items r)).filter _))
    rintro ⟨id, record⟩ hentry ⟨id', record'⟩ hentry' hname
    rw [List.mem_filter] at hentry hentry'
    have hid := howner _ hentry.1 hentry.2
    rw [hname, howner _ hentry'.1 hentry'.2] at hid
    obtain rfl : id' = id := Option.some.inj hid
    have hsame := mem_items.mp hentry.1
    rw [mem_items.mp hentry'.1] at hsame
    rw [Option.some.inj hsame]
  rw [← List.toFinset_card_of_nodup hnodup]
  congr 1
  ext username
  simp only [liveNames, List.mem_toFinset, List.mem_map, List.mem_filter, Finmap.mem_keys,
    Finmap.mem_iff]
  constructor
  · rintro ⟨entry, ⟨hentry, hlive⟩, rfl⟩
    exact ⟨entry.1, howner entry hentry hlive⟩
  · rintro ⟨id, howned⟩
    obtain ⟨record, hrecord, hlive, rfl⟩ := (h.names username id).mp howned
    exact ⟨(id, record), ⟨mem_items.mpr hrecord, hlive⟩, rfl⟩

theorem Indexed.held_eq (h : Indexed r) : held (items r.accounts) = r.providerOwner.keys := by
  ext provider
  rw [mem_held, Finmap.mem_keys, Finmap.mem_iff]
  constructor
  · rintro ⟨entry, hentry, hlive, hprovider⟩
    exact ⟨entry.1, (h.providers provider entry.1).mpr
      ⟨entry.2, mem_items.mp hentry, live_true.mpr hlive, hprovider⟩⟩
  · rintro ⟨id, howned⟩
    obtain ⟨record, hrecord, hlive, hprovider⟩ := (h.providers provider id).mp howned
    exact ⟨(id, record), mem_items.mpr hrecord, live_true.mp hlive, hprovider⟩

theorem Indexed.valid (h : Indexed r) : r.Valid := by
  have hlength : (items r.accounts).length = r.accounts.keys.card := by
    rw [← List.length_map Prod.fst, items_keys, ← Multiset.coe_card, ordered_perm]
    rfl
  have haccounts := h.accountRoom
  have hmax := r.config.accounts.2
  have hheld := r.config.identities.2
  rw [hardMaxAccounts] at hmax
  rw [hardMaxIdentitiesPerAccount] at hheld
  have hproduct : (items r.accounts).length * r.config.maxIdentitiesPerAccount ≤ 1000000 * 16 :=
    Nat.mul_le_mul (by omega) hheld
  obtain ⟨counts, hcounts, hnames⟩ := h.validateAccounts (fun _ hentry => mem_items.mp hentry) (0, 0)
    (by dsimp only; omega) (by dsimp only; omega)
  obtain ⟨-, hproviders⟩ := validateAccounts_ok (nodup_items r) hcounts
  refine bind_ok.mpr ⟨(), require_ok.mpr ⟨h.accountRoom, h.receiptRoom⟩, bind_ok.mpr
    ⟨counts, hcounts, bind_ok.mpr ⟨(), require_ok.mpr ⟨?_, ?_⟩, forM_ok.mpr ?_⟩⟩⟩
  · rw [hnames, h.liveNames_length, Nat.zero_add]
  · rw [hproviders, h.held_eq, Nat.zero_add]
  · rintro ⟨command, receipt⟩ hreceipt
    obtain ⟨hcommand, haccount⟩ := h.receipts _ _ (mem_items.mp hreceipt)
    exact require_ok.mpr ⟨hcommand.symm, haccount⟩

end IdentityRegistry

variable {accounts : Dict AccountId AccountRecord} {account : AccountId}
  {record record' : AccountRecord} {id : AccountId} {username : Username}

theorem nameOf_insert :
    NameOf (accounts.insert account record') id username ↔
      (id ≠ account ∧ NameOf accounts id username) ∨
        (id = account ∧ record'.live = true ∧ username = record'.username) := by
  simp only [NameOf, lookup_insert_ite]
  by_cases hid : id = account
  · simp [hid]
  · simp [hid]

variable {provider : ProviderIdentity}

theorem providerOf_insert :
    ProviderOf (accounts.insert account record') id provider ↔
      (id ≠ account ∧ ProviderOf accounts id provider) ∨
        (id = account ∧ record'.live = true ∧ provider ∈ record'.providers) := by
  simp only [ProviderOf, lookup_insert_ite]
  by_cases hid : id = account
  · simp [hid]
  · simp [hid]

theorem nameOf_iff (hrecord : accounts.lookup account = some record) (hlive : record.live = true) :
    NameOf accounts account username ↔ username = record.username := by
  simp [NameOf, hrecord, hlive]

theorem providerOf_iff (hrecord : accounts.lookup account = some record)
    (hlive : record.live = true) :
    ProviderOf accounts account provider ↔ provider ∈ record.providers := by
  simp [ProviderOf, hrecord, hlive]

theorem not_nameOf (hnew : account ∉ accounts) : ¬ NameOf accounts account username := by
  rintro ⟨record, hrecord, -⟩
  exact hnew (mem_of_lookup hrecord)

theorem not_providerOf (hnew : account ∉ accounts) : ¬ ProviderOf accounts account provider := by
  rintro ⟨record, hrecord, -⟩
  exact hnew (mem_of_lookup hrecord)

namespace IdentityRegistry

variable {r m : IdentityRegistry}

structure Replaced (r m : IdentityRegistry) (account : AccountId) (record' : AccountRecord) :
    Prop where
  config : m.config = r.config
  receipts : m.receipts = r.receipts
  accounts : m.accounts = r.accounts.insert account record'
  room : account ∈ r.accounts ∨ r.accounts.keys.card < r.config.maxAccounts
  live : ∀ record, r.accounts.lookup account = some record → record.live = true
  shaped : record'.id = account ∧ record'.providers ≠ ∅ ∧
    record'.providers.card ≤ r.config.maxIdentitiesPerAccount
  names : Inverse m.usernameOwner (NameOf m.accounts)
  providers : Inverse m.providerOwner (ProviderOf m.accounts)
  namesKept : r.retiredUsernames ⊆ m.retiredUsernames
  providersKept : r.retiredProviders ⊆ m.retiredProviders
  namesRetired : Unowned m.usernameOwner m.retiredUsernames
  providersRetired : Unowned m.providerOwner m.retiredProviders
  deleted : record'.live = false →
    record'.username ∈ m.retiredUsernames ∧ record'.providers ⊆ m.retiredProviders

theorem Indexed.replaced (h : Indexed r) (hm : Replaced r m account record') : Indexed m := by
  refine ⟨?_, ?_, ?_, hm.names, hm.providers, hm.namesRetired, hm.providersRetired, ?_, ?_⟩
  · rw [hm.accounts, hm.config, keys_insert]
    rcases hm.room with hin | hroom
    · rw [Finset.insert_eq_self.mpr (Finmap.mem_keys.mpr hin)]
      exact h.accountRoom
    · exact (Finset.card_insert_le _ _).trans hroom
  · rw [hm.receipts, hm.config]
    exact h.receiptRoom
  · intro id record hrecord
    rw [hm.accounts, lookup_insert_ite] at hrecord
    rw [hm.config]
    split at hrecord
    · next heq =>
      cases hrecord
      exact heq ▸ hm.shaped
    · exact h.shaped id record hrecord
  · intro id record hrecord hdead
    rw [hm.accounts, lookup_insert_ite] at hrecord
    split at hrecord
    · cases hrecord
      exact hm.deleted hdead
    · obtain ⟨hname, hheld⟩ := h.deleted id record hrecord hdead
      exact ⟨hm.namesKept hname, hheld.trans hm.providersKept⟩
  · intro command receipt hreceipt
    rw [hm.receipts] at hreceipt
    obtain ⟨hcommand, haccount⟩ := h.receipts command receipt hreceipt
    rw [hm.accounts, Finmap.mem_insert]
    exact ⟨hcommand, .inr haccount⟩

theorem Indexed.received (h : Indexed r) {receipt : CommandReceipt}
    (haccount : receipt.account ∈ r.accounts)
    (hroom : r.receipts.keys.card < r.config.maxReceipts) :
    Indexed { r with receipts := r.receipts.insert receipt.command receipt } := by
  refine ⟨h.accountRoom, ?_, h.shaped, h.names, h.providers, h.namesRetired, h.providersRetired,
    h.deleted, fun command found hfound => ?_⟩
  · dsimp only
    rw [keys_insert]
    exact (Finset.card_insert_le _ _).trans hroom
  · rw [lookup_insert_ite] at hfound
    split at hfound
    · next heq =>
      cases hfound
      exact ⟨heq.symm, haccount⟩
    · exact h.receipts command found hfound

section Candidates
variable {names : Dict Username AccountId} {owners : Dict ProviderIdentity AccountId}

theorem Indexed.replaced_live (h : Indexed r) (hrecord : r.accounts.lookup account = some record)
    (hlive : record.live = true) (hlive' : record'.live = true) (hid : record'.id = record.id)
    (hproviders : record'.providers ≠ ∅)
    (hcard : record'.providers.card ≤ r.config.maxIdentitiesPerAccount)
    (hnames : Inverse names (NameOf (r.accounts.insert account record')))
    (howners : Inverse owners (ProviderOf (r.accounts.insert account record')))
    (hfreeNames : Unowned names r.retiredUsernames)
    (hfreeProviders : Unowned owners r.retiredProviders) :
    Replaced r { r with
      accounts := r.accounts.insert account record'
      usernameOwner := names
      providerOwner := owners } account record' := by
  refine ⟨rfl, rfl, rfl, .inl (mem_of_lookup hrecord), ?_,
    ⟨hid.trans (h.shaped account record hrecord).1, hproviders, hcard⟩, hnames, howners,
    Finset.Subset.refl _, Finset.Subset.refl _, hfreeNames, hfreeProviders, ?_⟩
  · intro found hfound
    cases Option.mem_unique hrecord hfound
    exact hlive
  · intro hdead
    rw [hlive'] at hdead
    cases hdead

theorem Indexed.names_kept (h : Indexed r) (hrecord : r.accounts.lookup account = some record)
    (hlive : record.live = true) (hlive' : record'.live = true)
    (hname : record'.username = record.username) :
    Inverse r.usernameOwner (NameOf (r.accounts.insert account record')) := by
  refine h.names.congr fun id username => ?_
  rw [nameOf_insert, hlive', hname]
  by_cases hid : id = account
  · simp [hid, nameOf_iff hrecord hlive]
  · simp [hid]

theorem Indexed.providers_kept (h : Indexed r) (hrecord : r.accounts.lookup account = some record)
    (hlive : record.live = true) (hlive' : record'.live = true)
    (hproviders : record'.providers = record.providers) :
    Inverse r.providerOwner (ProviderOf (r.accounts.insert account record')) := by
  refine h.providers.congr fun id provider => ?_
  rw [providerOf_insert, hlive', hproviders]
  by_cases hid : id = account
  · simp [hid, providerOf_iff hrecord hlive]
  · simp [hid]

variable {provider : ProviderIdentity}

theorem Indexed.created (h : Indexed r) {username : Username} {displayName : DisplayName}
    (hroom : r.accounts.keys.card < r.config.maxAccounts) (hnew : account ∉ r.accounts)
    (hprovider : ¬ (provider ∈ r.providerOwner ∨ provider ∈ r.retiredProviders))
    (hname : ¬ (username ∈ r.usernameOwner ∨ username ∈ r.retiredUsernames)) :
    Replaced r { r with
      accounts := r.accounts.insert account ⟨account, username, displayName, 1, .active, {provider}⟩
      usernameOwner := r.usernameOwner.insert username account
      providerOwner := r.providerOwner.insert provider account }
      account ⟨account, username, displayName, 1, .active, {provider}⟩ := by
  rw [not_or] at hprovider hname
  have hlive : AccountRecord.live ⟨account, username, displayName, 1, .active, {provider}⟩ = true :=
    rfl
  refine ⟨rfl, rfl, rfl, .inr hroom, fun found hfound => absurd (mem_of_lookup hfound) hnew,
    ⟨rfl, Finset.singleton_ne_empty _, r.config.identities.1⟩, ?_, ?_, Finset.Subset.refl _,
    Finset.Subset.refl _, h.namesRetired.insert hname.2 _, h.providersRetired.insert hprovider.2 _,
    fun hdead => by rw [hlive] at hdead; cases hdead⟩
  · refine (h.names.insert (Finmap.lookup_eq_none.mpr hname.1) account).congr fun id other => ?_
    rw [nameOf_insert, hlive]
    by_cases hid : id = account
    · simp [hid, not_nameOf hnew]
    · simp [hid]
  · refine (h.providers.insert (Finmap.lookup_eq_none.mpr hprovider.1) account).congr fun id other => ?_
    rw [providerOf_insert, hlive]
    by_cases hid : id = account
    · simp [hid, not_providerOf hnew]
    · simp [hid]

theorem Indexed.linked (h : Indexed r) {provider : ProviderIdentity}
    (hrecord : r.accounts.lookup account = some record) (hlive : record.live = true)
    (hlive' : record'.live = true) (hid : record'.id = record.id)
    (hname : record'.username = record.username)
    (hcard : record.providers.card < r.config.maxIdentitiesPerAccount)
    (hheld : record'.providers = insert provider record.providers)
    (hretired : provider ∉ r.retiredProviders) (hfree : provider ∉ r.providerOwner) :
    Replaced r { r with
      accounts := r.accounts.insert account record'
      usernameOwner := r.usernameOwner
      providerOwner := r.providerOwner.insert provider account } account record' := by
  refine h.replaced_live hrecord hlive hlive' hid ?_ ?_ (h.names_kept hrecord hlive hlive' hname) ?_
    h.namesRetired (h.providersRetired.insert hretired _)
  · rw [hheld]
    exact Finset.insert_ne_empty _ _
  · rw [hheld]
    exact (Finset.card_insert_le _ _).trans hcard
  · refine (h.providers.insert (Finmap.lookup_eq_none.mpr hfree) account).congr fun id other => ?_
    rw [providerOf_insert, hlive', hheld]
    by_cases heq : id = account
    · simp [heq, providerOf_iff hrecord hlive, or_comm]
    · simp [heq]

theorem Indexed.unlinked (h : Indexed r) (hrecord : r.accounts.lookup account = some record)
    (hlive : record.live = true) (hlive' : record'.live = true) (hid : record'.id = record.id)
    (hname : record'.username = record.username) (hin : provider ∈ record.providers)
    (hmore : record.providers.card ≠ 1)
    (hheld : record'.providers = record.providers.erase provider) :
    Replaced r { r with
      accounts := r.accounts.insert account record'
      usernameOwner := r.usernameOwner
      providerOwner := r.providerOwner.erase provider } account record' := by
  have hcard := Finset.card_erase_of_mem hin
  have hpositive := Finset.card_pos.mpr ⟨provider, hin⟩
  refine h.replaced_live hrecord hlive hlive' hid ?_ ?_ (h.names_kept hrecord hlive hlive' hname) ?_
    h.namesRetired (h.providersRetired.erase _)
  · rw [hheld, Finset.nonempty_iff_ne_empty.symm, ← Finset.card_pos, hcard]
    omega
  · have hbound := (h.shaped account record hrecord).2.2
    rw [hheld, hcard]
    omega
  · refine (h.providers.erase provider).congr fun id other => ?_
    rw [providerOf_insert, hlive', hheld]
    by_cases heq : id = account
    · simp [heq, providerOf_iff hrecord hlive, and_comm]
    · have hother : ProviderOf r.accounts id other → other ≠ provider := by
        rintro hof rfl
        exact heq (h.providers.unique hof ((providerOf_iff hrecord hlive).mpr hin))
      simp only [heq, ne_eq, not_false_eq_true, true_and, false_and, or_false]
      exact ⟨fun hof => ⟨hof, hother hof⟩, fun hof => hof.1⟩

theorem Indexed.updated (h : Indexed r) (hrecord : r.accounts.lookup account = some record)
    (hlive : record.live = true) (hlive' : record'.live = true) (hid : record'.id = record.id)
    (hproviders : record'.providers = record.providers)
    (hfree : record'.username ≠ record.username →
      ¬ (record'.username ∈ r.usernameOwner ∨ record'.username ∈ r.retiredUsernames)) :
    Replaced r { r with
      accounts := r.accounts.insert account record'
      usernameOwner := if record'.username = record.username then r.usernameOwner
        else (r.usernameOwner.erase record.username).insert record'.username account
      providerOwner := r.providerOwner } account record' := by
  obtain ⟨-, hsome, hcard⟩ := h.shaped account record hrecord
  refine h.replaced_live hrecord hlive hlive' hid (hproviders ▸ hsome) (hproviders ▸ hcard) ?_
    (h.providers_kept hrecord hlive hlive' hproviders) ?_ h.providersRetired
  · split
    · next hname => exact h.names_kept hrecord hlive hlive' hname
    · next hname =>
      have hunowned := Finmap.lookup_eq_none.mpr (not_or.mp (hfree hname)).1
      have herased : (r.usernameOwner.erase record.username).lookup record'.username = none := by
        rw [lookup_erase_ite, hunowned, ite_self]
      refine ((h.names.erase record.username).insert herased account).congr fun id other => ?_
      rw [nameOf_insert, hlive']
      by_cases heq : id = account
      · simp [heq, nameOf_iff hrecord hlive]
      · have hother : NameOf r.accounts id other → other ≠ record.username := by
          rintro hof rfl
          exact heq (h.names.unique hof ((nameOf_iff hrecord hlive).mpr rfl))
        simp only [heq, ne_eq, not_false_eq_true, true_and, false_and, or_false]
        exact ⟨fun hof => ⟨hof, hother hof⟩, fun hof => hof.1⟩
  · split
    · exact h.namesRetired
    · next hname => exact (h.namesRetired.erase _).insert (not_or.mp (hfree hname)).2 _

theorem lookup_eraseOwners (owners : Dict ProviderIdentity AccountId)
    (providers : Finset ProviderIdentity) (provider : ProviderIdentity) :
    (eraseOwners owners providers).lookup provider =
      if provider ∈ providers then none else owners.lookup provider := by
  obtain ⟨providers, hnodup⟩ := providers
  induction providers using Multiset.induction_on with
  | empty => rfl
  | cons other rest ih =>
    have hrest := ih (Multiset.nodup_cons.mp hnodup).2
    simp only [eraseOwners, Multiset.foldr_cons, Finset.mem_mk] at hrest ⊢
    rw [lookup_erase_ite, hrest]
    by_cases heq : provider = other
    · simp [heq]
    · simp [heq]

theorem Indexed.deleted_account (h : Indexed r) (hrecord : r.accounts.lookup account = some record)
    (hlive : record.live = true) (hdead : record'.live = false) (hid : record'.id = record.id)
    (hname : record'.username = record.username) (hproviders : record'.providers = record.providers) :
    Replaced r { r with
      accounts := r.accounts.insert account record'
      usernameOwner := r.usernameOwner.erase record.username
      retiredUsernames := insert record.username r.retiredUsernames
      providerOwner := eraseOwners r.providerOwner record.providers
      retiredProviders := r.retiredProviders ∪ record.providers } account record' := by
  obtain ⟨hshape, hsome, hcard⟩ := h.shaped account record hrecord
  refine ⟨rfl, rfl, rfl, .inl (mem_of_lookup hrecord), ?_,
    ⟨hid.trans hshape, hproviders ▸ hsome, hproviders ▸ hcard⟩, ?_, ?_, Finset.subset_insert _ _,
    Finset.subset_union_left, ?_, ?_, ?_⟩
  · intro found hfound
    cases Option.mem_unique hrecord hfound
    exact hlive
  · refine (h.names.erase record.username).congr fun id other => ?_
    rw [nameOf_insert, hdead]
    by_cases heq : id = account
    · simp [heq, nameOf_iff hrecord hlive]
    · have hother : NameOf r.accounts id other → other ≠ record.username := by
        rintro hof rfl
        exact heq (h.names.unique hof ((nameOf_iff hrecord hlive).mpr rfl))
      simp only [heq, ne_eq, not_false_eq_true, true_and, false_and, or_false]
      exact ⟨fun hof => ⟨hof, hother hof⟩, fun hof => hof.1⟩
  · intro provider id
    dsimp only
    rw [lookup_eraseOwners, providerOf_insert, hdead]
    by_cases hin : provider ∈ record.providers
    · have hnone : id ≠ account → ¬ ProviderOf r.accounts id provider := by
        intro hne hof
        exact hne (h.providers.unique hof ((providerOf_iff hrecord hlive).mpr hin))
      simpa [hin] using hnone
    · rw [if_neg hin, h.providers provider id]
      by_cases heq : id = account
      · simp [heq, providerOf_iff hrecord hlive, hin]
      · simp [heq]
  · intro other hother
    dsimp only at hother ⊢
    rw [lookup_erase_ite]
    split
    · rfl
    · next hne => exact h.namesRetired other (Finset.mem_of_mem_insert_of_ne hother hne)
  · intro provider hprovider
    dsimp only at hprovider ⊢
    rw [lookup_eraseOwners]
    split
    · rfl
    · next hout =>
      exact h.providersRetired provider ((Finset.mem_union.mp hprovider).resolve_right hout)
  · intro _
    rw [hname, hproviders]
    exact ⟨Finset.mem_insert_self _ _, Finset.subset_union_right⟩

end Candidates

end IdentityRegistry

end Identity
