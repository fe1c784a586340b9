import TrillionniumGame.Foundation.GoJson
import TrillionniumGame.Foundation.Paging
import TrillionniumGame.Persistence.Contracts

namespace Identity
open Checks FiniteMap
open Persistence (Bytes zeroBytes checkedAdd)

def maxUsernameBytes : Nat := 128
def maxDisplayNameBytes : Nat := 256
def maxProviderIdentityBytes : Nat := 512
def hardMaxAccounts : Nat := 1000000
def hardMaxIdentitiesPerAccount : Nat := 16
def hardMaxReceipts : Nat := 4000000

structure AccountId where
  bytes : Bytes 16
  nonzero : zeroBytes bytes = false

structure CommandId where
  bytes : Bytes 16
  nonzero : zeroBytes bytes = false

structure Fingerprint where
  bytes : Bytes 32
  nonzero : zeroBytes bytes = false
  deriving DecidableEq

def byteValues {n : Nat} (bytes : Bytes n) : List Nat := bytes.toList.map (·.toNat)

theorem byteValues_inj {n : Nat} {x y : Bytes n} (h : byteValues x = byteValues y) : x = y :=
  Vector.toList_inj.mp (List.map_injective_iff.mpr (fun _ _ => UInt8.toNat_inj.mp) h)

instance : LinearOrder AccountId := LinearOrder.lift' (fun id => byteValues id.bytes) <| by
  rintro ⟨x, _⟩ ⟨y, _⟩ h
  simp only [AccountId.mk.injEq]
  exact byteValues_inj h

instance : LinearOrder CommandId := LinearOrder.lift' (fun id => byteValues id.bytes) <| by
  rintro ⟨x, _⟩ ⟨y, _⟩ h
  simp only [CommandId.mk.injEq]
  exact byteValues_inj h

inductive IdentityProvider where
  | custom | device | email | facebook | facebookInstantGame | apple | google | gameCenter | steam
  deriving DecidableEq

def isControl (c : Char) : Bool := c.toNat < 0x20 || (0x7F ≤ c.toNat && c.toNat < 0xA0)

def trim (cs : List Char) : List Char := (cs.dropWhile GoText.isSpace).rdropWhile GoText.isSpace

def trimmedText (limit : Nat) (value : String) : Bool :=
  value ≠ "" && value.utf8ByteSize ≤ limit && trim value.toList = value.toList &&
    !value.toList.any isControl

structure ProviderIdentity where
  provider : IdentityProvider
  externalId : String
  valid : trimmedText maxProviderIdentityBytes externalId = true
  deriving DecidableEq

structure Username where
  value : String
  valid : trimmedText maxUsernameBytes value = true
  deriving DecidableEq

structure DisplayName where
  value : String
  valid : (value.utf8ByteSize ≤ maxDisplayNameBytes && !value.toList.any isControl) = true
  deriving DecidableEq

inductive AccountStatus where
  | active | disabled | banned | deleted
  deriving DecidableEq

inductive IdentityErrorCode where
  | invalidArgument | unauthenticated | notFound | alreadyExists | failedPrecondition
  | permissionDenied | resourceExhausted | conflict | outOfRange
  deriving DecidableEq

structure IdentityError where
  code : IdentityErrorCode
  reason : String
  deriving DecidableEq

structure IdentityConfig where
  maxAccounts : Nat
  maxIdentitiesPerAccount : Nat
  maxReceipts : Nat
  accounts : 0 < maxAccounts ∧ maxAccounts ≤ hardMaxAccounts
  identities : 0 < maxIdentitiesPerAccount ∧ maxIdentitiesPerAccount ≤ hardMaxIdentitiesPerAccount
  receipts : 0 < maxReceipts ∧ maxReceipts ≤ hardMaxReceipts

inductive ReceiptOutcome where
  | created | authenticated | linked | unlinked | updated | statusChanged | deleted
  deriving DecidableEq

structure CommandReceipt where
  command : CommandId
  fingerprint : Fingerprint
  account : AccountId
  revision : UInt64
  outcome : ReceiptOutcome

structure AccountRecord where
  id : AccountId
  username : Username
  displayName : DisplayName
  revision : UInt64
  status : AccountStatus
  providers : Finset ProviderIdentity
  deriving DecidableEq

structure IdentityRegistry where
  config : IdentityConfig
  accounts : Dict AccountId AccountRecord
  providerOwner : Dict ProviderIdentity AccountId
  usernameOwner : Dict Username AccountId
  retiredProviders : Finset ProviderIdentity
  retiredUsernames : Finset Username
  receipts : Dict CommandId CommandReceipt

def invariantError : IdentityError := ⟨.failedPrecondition, "identity_invariant_violation"⟩

def nextRevision (current : UInt64) : Except IdentityError UInt64 :=
  if current.toNat + 1 < 2 ^ 64 then .ok (current + 1)
  else .error ⟨.outOfRange, "account_revision_overflow"⟩

abbrev Answer := Except IdentityError (CommandReceipt × IdentityRegistry)

namespace IdentityRegistry

def new (config : IdentityConfig) : IdentityRegistry := ⟨config, ∅, ∅, ∅, ∅, ∅, ∅⟩

variable (r : IdentityRegistry)

def validateAccount (counts : Nat × Nat) (id : AccountId) (record : AccountRecord) :
    Except IdentityError (Nat × Nat) := do
  require (id = record.id ∧ record.providers ≠ ∅ ∧
    record.providers.card ≤ r.config.maxIdentitiesPerAccount) invariantError
  if record.status = .deleted then
    require (record.username ∉ r.usernameOwner ∧ record.username ∈ r.retiredUsernames)
      invariantError
    require (∀ provider ∈ record.providers,
      provider ∉ r.providerOwner ∧ provider ∈ r.retiredProviders) invariantError
    return counts
  else
    let activeUsernames ← fetch (checkedAdd counts.1 1) invariantError
    require (r.usernameOwner.lookup record.username = some id ∧
      record.username ∉ r.retiredUsernames) invariantError
    let activeProviders ← fetch (checkedAdd counts.2 record.providers.card) invariantError
    require (∀ provider ∈ record.providers, r.providerOwner.lookup provider = some id ∧
      provider ∉ r.retiredProviders) invariantError
    return (activeUsernames, activeProviders)

def validateAccounts (r : IdentityRegistry) (counts : Nat × Nat) :
    List (AccountId × AccountRecord) → Except IdentityError (Nat × Nat)
  | [] => .ok counts
  | (id, record) :: rest => do
    let counts ← r.validateAccount counts id record
    r.validateAccounts counts rest

variable (command : CommandId)

def validateReceipt (receipt : CommandReceipt) : Except IdentityError Unit :=
  require (command = receipt.command ∧ receipt.account ∈ r.accounts) invariantError

def validateInvariants : Except IdentityError Unit := do
  require (r.accounts.keys.card ≤ r.config.maxAccounts ∧
    r.receipts.keys.card ≤ r.config.maxReceipts) invariantError
  let counts ← r.validateAccounts (0, 0) (items r.accounts)
  require (counts.1 = r.usernameOwner.keys.card ∧ counts.2 = r.providerOwner.keys.card)
    invariantError
  (items r.receipts).forM fun entry => r.validateReceipt entry.1 entry.2

variable (fingerprint : Fingerprint)

def existingReceipt (expectedOutcome : ReceiptOutcome) :
    Except IdentityError (Option CommandReceipt) :=
  match r.receipts.lookup command with
  | none => .ok none
  | some receipt => do
    require (receipt.fingerprint = fingerprint) ⟨.conflict, "command_fingerprint_conflict"⟩
    require (receipt.outcome = expectedOutcome) ⟨.conflict, "command_operation_conflict"⟩
    return some receipt

def ensureReceiptCapacity : Except IdentityError Unit :=
  require (r.receipts.keys.card < r.config.maxReceipts)
    ⟨.resourceExhausted, "receipt_capacity_exhausted"⟩

def accountWithRevision (account : AccountId) (expectedRevision : UInt64) :
    Except IdentityError AccountRecord := do
  let record ← fetch (r.accounts.lookup account) ⟨.notFound, "account_not_found"⟩
  require (record.revision = expectedRevision) ⟨.conflict, "account_revision_conflict"⟩
  return record

def activeAccount (account : AccountId) (expectedRevision : UInt64) :
    Except IdentityError AccountRecord := do
  let record ← r.accountWithRevision account expectedRevision
  require (record.status = .active) ⟨.permissionDenied, "account_not_active"⟩
  return record

def updateAccount (account : AccountId) (f : AccountRecord → AccountRecord) :
    Except IdentityError IdentityRegistry := do
  let record ← fetch (r.accounts.lookup account) invariantError
  return { r with accounts := r.accounts.insert account (f record) }

def settle (candidate : IdentityRegistry) (receipt : CommandReceipt) : Answer := do
  let candidate :=
    { candidate with receipts := candidate.receipts.insert receipt.command receipt }
  candidate.validateInvariants
  return (receipt, candidate)

def createAccount (account : AccountId) (username : Username) (displayName : DisplayName)
    (provider : ProviderIdentity) : Answer := do
  match ← r.existingReceipt command fingerprint .created with
  | some receipt => return (receipt, r)
  | none =>
    r.ensureReceiptCapacity
    require (r.accounts.keys.card < r.config.maxAccounts)
      ⟨.resourceExhausted, "account_capacity_exhausted"⟩
    require (account ∉ r.accounts) ⟨.alreadyExists, "account_id_exists"⟩
    require (¬ (provider ∈ r.providerOwner ∨ provider ∈ r.retiredProviders))
      ⟨.alreadyExists, "provider_identity_exists_or_retired"⟩
    require (¬ (username ∈ r.usernameOwner ∨ username ∈ r.retiredUsernames))
      ⟨.alreadyExists, "username_exists_or_retired"⟩
    let record : AccountRecord :=
      ⟨account, username, displayName, 1, .active, {provider}⟩
    settle { r with
      accounts := r.accounts.insert account record
      providerOwner := r.providerOwner.insert provider account
      usernameOwner := r.usernameOwner.insert username account }
      ⟨command, fingerprint, account, 1, .created⟩

def authenticate (provider : ProviderIdentity) : Answer := do
  match ← r.existingReceipt command fingerprint .authenticated with
  | some receipt =>
    require (receipt.outcome = .authenticated) ⟨.conflict, "command_operation_conflict"⟩
    let account ← fetch (r.providerOwner.lookup provider) ⟨.unauthenticated, "identity_unknown"⟩
    require (account = receipt.account) ⟨.unauthenticated, "identity_binding_changed"⟩
    let record ← fetch (r.accounts.lookup account) invariantError
    require (record.status = .active) ⟨.permissionDenied, "account_not_active"⟩
    require (record.revision = receipt.revision) ⟨.conflict, "authentication_state_changed"⟩
    return (receipt, r)
  | none =>
    r.ensureReceiptCapacity
    let account ← fetch (r.providerOwner.lookup provider) ⟨.unauthenticated, "identity_unknown"⟩
    let record ← fetch (r.accounts.lookup account) invariantError
    require (record.status = .active) ⟨.permissionDenied, "account_not_active"⟩
    r.settle ⟨command, fingerprint, account, record.revision, .authenticated⟩

variable (account : AccountId) (expectedRevision : UInt64)

def linkProvider (provider : ProviderIdentity) : Answer := do
  match ← r.existingReceipt command fingerprint .linked with
  | some receipt => return (receipt, r)
  | none =>
    r.ensureReceiptCapacity
    let current ← r.activeAccount account expectedRevision
    require (current.providers.card < r.config.maxIdentitiesPerAccount)
      ⟨.resourceExhausted, "provider_identity_capacity_exhausted"⟩
    require (provider ∉ r.retiredProviders) ⟨.failedPrecondition, "provider_identity_retired"⟩
    require (provider ∉ r.providerOwner) ⟨.alreadyExists, "provider_identity_exists"⟩
    let next ← nextRevision current.revision
    let candidate ← r.updateAccount account fun record =>
      { record with providers := insert provider record.providers, revision := next }
    settle { candidate with providerOwner := candidate.providerOwner.insert provider account }
      ⟨command, fingerprint, account, next, .linked⟩

def unlinkProvider (provider : ProviderIdentity) : Answer := do
  match ← r.existingReceipt command fingerprint .unlinked with
  | some receipt => return (receipt, r)
  | none =>
    r.ensureReceiptCapacity
    let current ← r.activeAccount account expectedRevision
    require (provider ∈ current.providers) ⟨.notFound, "provider_identity_not_linked"⟩
    require (current.providers.card ≠ 1)
      ⟨.failedPrecondition, "last_provider_identity_cannot_be_unlinked"⟩
    let next ← nextRevision current.revision
    let held ← fetch (r.accounts.lookup account) invariantError
    require (provider ∈ held.providers) invariantError
    let candidate ← r.updateAccount account fun record =>
      { record with providers := record.providers.erase provider, revision := next }
    settle { candidate with providerOwner := candidate.providerOwner.erase provider }
      ⟨command, fingerprint, account, next, .unlinked⟩

def updateProfile (username : Option Username) (displayName : Option DisplayName) : Answer := do
  match ← r.existingReceipt command fingerprint .updated with
  | some receipt => return (receipt, r)
  | none =>
    r.ensureReceiptCapacity
    require (¬ (username = none ∧ displayName = none)) ⟨.invalidArgument, "profile_update_empty"⟩
    let current ← r.activeAccount account expectedRevision
    require (∀ nextUsername ∈ username, nextUsername ≠ current.username →
      ¬ (nextUsername ∈ r.usernameOwner ∨ nextUsername ∈ r.retiredUsernames))
      ⟨.alreadyExists, "username_exists_or_retired"⟩
    let changesUsername := ∃ value ∈ username, value ≠ current.username
    let changesDisplay := ∃ value ∈ displayName, value ≠ current.displayName
    require (changesUsername ∨ changesDisplay) ⟨.alreadyExists, "profile_unchanged"⟩
    let next ← nextRevision current.revision
    let nextUsername := username.getD current.username
    let owners :=
      if nextUsername = current.username then r.usernameOwner
      else (r.usernameOwner.erase current.username).insert nextUsername account
    let candidate ← updateAccount { r with usernameOwner := owners } account fun record =>
      { record with
        username := if nextUsername = current.username then record.username else nextUsername
        displayName := displayName.getD record.displayName
        revision := next }
    candidate.settle ⟨command, fingerprint, account, next, .updated⟩

def setStatus (target : AccountStatus) : Answer := do
  match ← r.existingReceipt command fingerprint .statusChanged with
  | some receipt => return (receipt, r)
  | none =>
    r.ensureReceiptCapacity
    require (target ≠ .deleted) ⟨.invalidArgument, "delete_requires_delete_account"⟩
    let current ← r.accountWithRevision account expectedRevision
    require (current.status ≠ .deleted) ⟨.failedPrecondition, "account_deleted"⟩
    require (current.status ≠ target) ⟨.alreadyExists, "account_status_unchanged"⟩
    let next ← nextRevision current.revision
    let candidate ← r.updateAccount account fun record =>
      { record with status := target, revision := next }
    candidate.settle ⟨command, fingerprint, account, next, .statusChanged⟩

instance : LeftCommutative fun (provider : ProviderIdentity)
    (owners : Dict ProviderIdentity AccountId) => owners.erase provider :=
  ⟨fun _ _ _ => Finmap.erase_erase⟩

def eraseOwners (owners : Dict ProviderIdentity AccountId) (providers : Finset ProviderIdentity) :
    Dict ProviderIdentity AccountId :=
  providers.val.foldr (fun provider owners => owners.erase provider) owners

def deleteAccount (expectedRevision : UInt64) : Answer := do
  match ← r.existingReceipt command fingerprint .deleted with
  | some receipt => return (receipt, r)
  | none =>
    r.ensureReceiptCapacity
    let current ← r.accountWithRevision account expectedRevision
    require (current.status ≠ .deleted) ⟨.failedPrecondition, "account_deleted"⟩
    let next ← nextRevision current.revision
    let candidate ← updateAccount { r with
      usernameOwner := r.usernameOwner.erase current.username
      retiredUsernames := insert current.username r.retiredUsernames
      providerOwner := eraseOwners r.providerOwner current.providers
      retiredProviders := r.retiredProviders ∪ current.providers } account fun record =>
      { record with status := .deleted, revision := next }
    candidate.settle ⟨command, fingerprint, account, next, .deleted⟩

end IdentityRegistry

end Identity
