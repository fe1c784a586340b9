import TrillionniumGame.Identity.Authentication

namespace Identity
open Checks FiniteMap Runs
open IdentityRegistry

def IdentityRequest.key : IdentityRequest → CommandId × Fingerprint × ReceiptOutcome
  | .create command fingerprint .. => (command, fingerprint, .created)
  | .authenticate command fingerprint .. => (command, fingerprint, .authenticated)
  | .link command fingerprint .. => (command, fingerprint, .linked)
  | .unlink command fingerprint .. => (command, fingerprint, .unlinked)
  | .update command fingerprint .. => (command, fingerprint, .updated)
  | .setStatus command fingerprint .. => (command, fingerprint, .statusChanged)
  | .delete command fingerprint .. => (command, fingerprint, .deleted)

variable {r r' later : IdentityRegistry} {request retry : IdentityRequest}
  {receipt : CommandReceipt}

def CommandReceipt.Answers (receipt : CommandReceipt) (request : IdentityRequest) : Prop :=
  receipt.fingerprint = request.key.2.1 ∧ receipt.outcome = request.key.2.2

inductive Served (r : IdentityRegistry) (request : IdentityRequest) :
    CommandReceipt × IdentityRegistry → Prop
  | replayed {receipt : CommandReceipt} : r.receipts.lookup request.key.1 = some receipt →
      receipt.Answers request → Served r request (receipt, r)
  | logged {receipt : CommandReceipt} {r' : IdentityRegistry} : request.key.1 ∉ r.receipts →
      receipt.Answers request → r'.receipts = r.receipts.insert request.key.1 receipt →
      Served r request (receipt, r')

-- Authentication also reads the account's present state, so an exact retry can fail.
def Refusable (r : IdentityRegistry) (request : IdentityRequest) : Prop :=
  ∀ receipt ∈ r.receipts.lookup request.key.1, receipt.Answers request →
    request.key.2.2 = .authenticated

def Serves (r : IdentityRegistry) (request : IdentityRequest) : Answer → Prop :=
  Ensures (Served r request) fun _ => Refusable r request

theorem serves_bind {α : Type} {x : Except IdentityError α} {f : α → Answer}
    (hrefusable : Refusable r request) (h : ∀ a, Serves r request (f a)) :
    Serves r request (x >>= f) := by
  cases x with
  | error error => exact hrefusable
  | ok a => exact h a

theorem serves_existing {f : Option CommandReceipt → Answer}
    (hknown : ∀ receipt, r.receipts.lookup request.key.1 = some receipt →
      receipt.Answers request → Serves r request (f (some receipt)))
    (hnew : request.key.1 ∉ r.receipts → Refusable r request → Serves r request (f none)) :
    Serves r request (r.existingReceipt request.key.1 request.key.2.1 request.key.2.2 >>= f) := by
  rw [Serves, ensures_bind, existingReceipt]
  split
  · next hnone =>
    exact hnew (Finmap.lookup_eq_none.mp hnone) (by simp [Refusable, hnone])
  · next receipt hfound =>
    have hother (hne : ¬ receipt.Answers request) : Refusable r request := by
      simp [Refusable, hfound, hne]
    simp only [ensures_bind, ensures_require, ensures_pure]
    exact ⟨fun hprint => ⟨fun houtcome => hknown receipt hfound ⟨hprint, houtcome⟩,
      fun hne => hother fun h => hne h.2⟩, fun hne => hother fun h => hne h.1⟩

theorem serve_serves (r : IdentityRegistry) (request : IdentityRequest) :
    Serves r request (r.serve request) := by
  cases request with
  | create =>
    refine serves_existing (fun _ => Served.replayed) fun hnew hrefusable => ?_
    repeat refine serves_bind hrefusable fun _ => ?_
    exact Served.logged hnew ⟨rfl, rfl⟩ rfl
  | authenticate =>
    refine serves_existing (fun _ hfound hanswers => ?_) fun hnew hrefusable => ?_
    · repeat refine serves_bind (fun _ _ _ => rfl) fun _ => ?_
      exact Served.replayed hfound hanswers
    · repeat refine serves_bind hrefusable fun _ => ?_
      exact Served.logged hnew ⟨rfl, rfl⟩ rfl
  | link | unlink | update | setStatus | delete =>
    refine serves_existing (fun _ => Served.replayed) fun hnew hrefusable => ?_
    simp only [updateAccount, bind_assoc, pure_bind]
    repeat refine serves_bind hrefusable fun _ => ?_
    exact Served.logged hnew ⟨rfl, rfl⟩ rfl

theorem receipt_kept {command : CommandId} (request : IdentityRequest)
    (hfound : r.receipts.lookup command = some receipt) :
    (r.after request).receipts.lookup command = some receipt := by
  have hserves := serve_serves r request
  unfold after
  cases hserve : r.serve request with
  | error error => exact hfound
  | ok result =>
    cases hserves.of_ok hserve with
    | replayed => exact hfound
    | logged hnew _ hreceipts =>
      have hne : command ≠ request.key.1 := fun heq => hnew (heq ▸ mem_of_lookup hfound)
      dsimp only
      rw [hreceipts, Finmap.lookup_insert_of_ne _ hne, hfound]

structure Settled (r : IdentityRegistry) (receipt : CommandReceipt) (request : IdentityRequest) :
    Prop where
  answer : ∀ result, r.serve request = .ok result → result = (receipt, r) ∧ receipt.Answers request
  replay : receipt.Answers request → request.key.2.2 ≠ .authenticated →
    r.serve request = .ok (receipt, r)

theorem settled_of_found (hfound : r.receipts.lookup request.key.1 = some receipt) :
    Settled r receipt request := by
  have hserves := serve_serves r request
  have hanswer : ∀ result, r.serve request = .ok result →
      result = (receipt, r) ∧ receipt.Answers request := by
    intro result hok
    cases hserves.of_ok hok with
    | replayed hsame hanswers =>
      cases Option.mem_unique hsame hfound
      exact ⟨rfl, hanswers⟩
    | logged hnew => exact absurd (mem_of_lookup hfound) hnew
  refine ⟨hanswer, fun hanswers hother => ?_⟩
  cases hserve : r.serve request with
  | error error => exact absurd (hserves.of_error hserve receipt hfound hanswers) hother
  | ok result => rw [(hanswer result hserve).1]

theorem identity_commands_once {requests : List IdentityRequest}
    (hok : r.serve request = .ok (receipt, r')) (hrun : Run identityRegistry r' requests later) :
    receipt.Answers request ∧
      ∀ retry : IdentityRequest, retry.key.1 = request.key.1 → Settled later receipt retry := by
  have hstored : r'.receipts.lookup request.key.1 = some receipt ∧ receipt.Answers request := by
    cases (serve_serves r request).of_ok hok with
    | replayed hfound hanswers => exact ⟨hfound, hanswers⟩
    | logged _ hanswers hreceipts => exact ⟨by rw [hreceipts, Finmap.lookup_insert], hanswers⟩
  refine ⟨hstored.2, fun retry hcommand => settled_of_found (hcommand ▸ ?_)⟩
  refine hrun.invariant (I := fun r => r.receipts.lookup request.key.1 = some receipt) ?_ hstored.1
  rintro r step _ hkept rfl
  exact receipt_kept step hkept

theorem identity_commands_once_sample :
    ∃ receipt, Settled ((sampleRegistry 2 (by decide)).after sampleCreate) receipt sampleCreate := by
  have hcreated : ∃ receipt, (new (sampleConfig 2 (by decide))).serve sampleCreate =
      .ok (receipt, sampleRegistry 2 (by decide)) := ⟨_, rfl⟩
  obtain ⟨receipt, hok⟩ := hcreated
  exact ⟨receipt, (identity_commands_once hok (.single rfl)).2 sampleCreate rfl⟩

end Identity
