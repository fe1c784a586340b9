import TrillionniumGame.Runtime.WorldCommand.Serial

namespace WorldCommand
open Checks FiniteMap GoJson GoText Runs

variable {Value : Type}

structure MemoryBackend where
  payloads : Dict GoString GoString
  versions : Dict GoString Nat

def formatUint (n : Nat) : GoString := ofRunes (decimal n)

namespace MemoryBackend

variable (b : MemoryBackend)

def load (key : GoString) : GoString × GoString :=
  match b.payloads.lookup key with
  | none => ([], [])
  | some payload => (payload, formatUint ((b.versions.lookup key).getD 0))

def put (key : GoString) (next : Nat) (payload : GoString) : MemoryBackend :=
  ⟨b.payloads.insert key payload, b.versions.insert key next⟩

def compareAndSwap (key expectedVersion payload : GoString) :
    Except StoreError GoString × MemoryBackend :=
  match b.versions.lookup key with
  | none =>
    if expectedVersion ≠ [] then (.error errVersionConflict, b)
    else (.ok (formatUint 1), b.put key 1 payload)
  | some current =>
    if expectedVersion ≠ formatUint current then (.error errVersionConflict, b)
    else (.ok (formatUint (current + 1)), b.put key (current + 1) payload)

def count (key : GoString) : Nat := (b.versions.lookup key).getD 0

def version (key : GoString) : GoString :=
  ((b.versions.lookup key).map formatUint).getD []

end MemoryBackend

inductive Delivery where
  | acknowledged
  | lost (e : StoreError)
  | refused (e : StoreError)

def MemoryBackend.write (b : MemoryBackend) (delivery : Delivery)
    (key expectedVersion payload : GoString) : Except StoreError GoString × MemoryBackend :=
  match delivery with
  | .acknowledged => b.compareAndSwap key expectedVersion payload
  | .lost e =>
    let (result, b') := b.compareAndSwap key expectedVersion payload
    (match result with
      | .ok _ => .error e
      | .error conflict => .error conflict, b')
  | .refused e => (.error e, b)

def written {α : Type} : Except StoreError (Plan α) → Option Document
  | .ok (.write candidate _) => some candidate
  | .ok (.commit candidate _) => some candidate
  | _ => none

def Store.candidate (platform : Platform Value) (s : Store) : Op Value → Option Document
  | .prepare request now => written (s.prepare platform request now)
  | .beginAttempt reservation now => written (s.beginAttempt reservation now)
  | .recordFailure reservation failure now => written (s.recordFailure reservation failure now)
  | .commitWith reservation verified now => written (s.commitWith platform reservation verified now)
  | .takeover clientCommandID generation reason now =>
    written (s.takeover platform clientCommandID generation reason now)
  | .abort clientCommandID generation reason now =>
    written (s.abort clientCommandID generation reason now)

structure Node where
  key : GoString
  store : Store

structure Cluster where
  backend : MemoryBackend
  nodes : List Node
  history : GoString → List Document

inductive Action (Value : Type) where
  | create (key : GoString) (initial : MatchState) (delivery : Delivery)
  | join (key : GoString)
  | perform (index : Nat) (op : Op Value) (delivery : Delivery)

def freshDocument (initial : MatchState) : Document := ⟨snapshotSchema, initial, ∅, ∅, ∅⟩

namespace Cluster

def record (c : Cluster) (backend : MemoryBackend) (key : GoString) (document : Document) :
    GoString → List Document :=
  if backend.versions.lookup key = c.backend.versions.lookup key then c.history
  else Function.update c.history key (c.history key ++ [document])

section
variable (platform : Platform Value) (json : DocumentJson)

variable (c : Cluster)

def create (key : GoString) (initial : MatchState) (delivery : Delivery) : Cluster :=
  match validateState platform initial with
  | .error _ => c
  | .ok _ =>
    let document := freshDocument initial
    let (outcome, backend) := c.backend.write delivery key [] (json.marshal document)
    { backend
      nodes := match outcome with
        | .ok version => c.nodes ++ [⟨key, document.store version⟩]
        | .error _ => c.nodes
      history := c.record backend key document }

def join (key : GoString) : Cluster :=
  let (payload, version) := c.backend.load key
  match openStore platform json payload version with
  | .error _ => c
  | .ok store => { c with nodes := c.nodes ++ [⟨key, store⟩] }

-- A persister of `CommitWith` writes through the same compare-and-swap.
def perform (index : Nat) (op : Op Value) (delivery : Delivery) : Cluster :=
  match c.nodes[index]? with
  | none => c
  | some node =>
    match node.store.candidate platform op with
    | none =>
      let store := (node.store.perform platform op (.ok node.store.version)).2
      { c with nodes := c.nodes.set index { node with store } }
    | some document =>
      let (outcome, backend) :=
        c.backend.write delivery node.key node.store.version (json.marshal document)
      let store := (node.store.perform platform op outcome).2
      { backend
        nodes := c.nodes.set index { node with store }
        history := c.record backend node.key document }

def next : Action Value → Cluster
  | .create key initial delivery => c.create platform json key initial delivery
  | .join key => c.join platform json key
  | .perform index op delivery => c.perform platform json index op delivery

end

end Cluster

def cluster (platform : Platform Value) (json : DocumentJson) : System Cluster (Action Value) where
  init c := c = ⟨⟨∅, ∅⟩, [], fun _ => []⟩
  step c action c' := c' = c.next platform json action

-- What a store may hold in memory when the backend holds `document`: the document that was
-- written, or what decoding its bytes gives.
def Denotes (json : DocumentJson) (document memory : Document) : Prop :=
  memory = document ∨ json.decode (json.marshal document) = .ok memory

def Follows (platform : Platform Value) (json : DocumentJson) (document next : Document) : Prop :=
  ∃ s op, Denotes json document (Store.cloneDocument s) ∧ s.candidate platform op = some next

structure Sequential (platform : Platform Value) (json : DocumentJson) (documents : List Document) :
    Prop where
  first : ∀ document ∈ documents.head?, ∃ initial,
    validateState platform initial = .ok () ∧ document = freshDocument initial
  follows : documents.IsChain (Follows platform json)

def Holding (json : DocumentJson) (documents : List Document) (s : Store) : Prop :=
  ∃ n document, documents[n]? = some document ∧ s.version = formatUint (n + 1) ∧
    Denotes json document s.cloneDocument

structure Consistent (platform : Platform Value) (json : DocumentJson) (c : Cluster) : Prop where
  versions : ∀ key, c.backend.versions.lookup key =
    if c.history key = [] then none else some (c.history key).length
  payloads : ∀ key, c.backend.payloads.lookup key = (c.history key).getLast?.map json.marshal
  nodes : ∀ node ∈ c.nodes, Holding json (c.history node.key) node.store
  sequential : ∀ key, Sequential platform json (c.history key)

section
variable {platform : Platform Value} {json : DocumentJson}

theorem formatUint_inj {m n : Nat} (h : formatUint m = formatUint n) : m = n :=
  decimal_inj (ofRunes_inj h)

theorem formatUint_ne (n : Nat) : formatUint n ≠ [] := by
  intro h
  exact Nat.toDigits_ne_nil (ofRunes_inj (h.trans (rfl : [] = ofRunes [])))

variable {α : Type} {s : Store}

theorem settle_none {planned : Except StoreError (Plan α)} (h : written planned = none)
    (outcome : Except StoreError GoString) : (s.settle planned outcome).2 = s := by
  match planned, h with
  | .error _, _ => rfl
  | .ok (.done _), _ => rfl

theorem settle_failed (planned : Except StoreError (Plan α)) (e : StoreError) :
    (s.settle planned (.error e)).2 = s := by
  match planned with
  | .error _ => rfl
  | .ok (.done _) => rfl
  | .ok (.write _ _) => rfl
  | .ok (.commit _ _) => rfl

variable {document : Document} {version : GoString}

theorem settle_some {planned : Except StoreError (Plan α)} (h : written planned = some document)
    (hversion : version ≠ []) :
    (s.settle planned (.ok version)).2 = s.installDocument version document := by
  match planned, h with
  | .ok (.write candidate _), h =>
    obtain rfl : candidate = document := Option.some.inj h
    rfl
  | .ok (.commit candidate _), h =>
    obtain rfl : candidate = document := Option.some.inj h
    simp [Store.settle, hversion]

variable {op : Op Value}

theorem perform_none (h : s.candidate platform op = none) (outcome : Except StoreError GoString) :
    (s.perform platform op outcome).2 = s := by
  cases op <;> exact settle_none h outcome

theorem perform_failed (s : Store) (op : Op Value) (e : StoreError) :
    (s.perform platform op (.error e)).2 = s := by
  cases op with
  | prepare request now => exact settle_failed (s.prepare platform request now) e
  | beginAttempt reservation now => exact settle_failed (s.beginAttempt reservation now) e
  | recordFailure reservation failure now =>
    exact settle_failed (s.recordFailure reservation failure now) e
  | commitWith reservation verified now =>
    exact settle_failed (s.commitWith platform reservation verified now) e
  | takeover clientCommandID generation reason now =>
    exact settle_failed (s.takeover platform clientCommandID generation reason now) e
  | abort clientCommandID generation reason now =>
    exact settle_failed (s.abort clientCommandID generation reason now) e

theorem perform_some (h : s.candidate platform op = some document) (hversion : version ≠ []) :
    (s.perform platform op (.ok version)).2 = s.installDocument version document := by
  cases op <;> exact settle_some h hversion

theorem candidate_schema (h : s.candidate platform op = some document) :
    document.schema = snapshotSchema := by
  have hplan : ∀ {α : Type} {planned : Except StoreError (Plan α)},
      written planned = some document →
        (∃ answer, planned = .ok (.write document answer)) ∨
          ∃ answer, planned = .ok (.commit document answer) := by
    intro α planned hwritten
    match planned, hwritten with
    | .ok (.write candidate answer), hwritten =>
      obtain rfl : candidate = document := Option.some.inj hwritten
      exact .inl ⟨answer, rfl⟩
    | .ok (.commit candidate answer), hwritten =>
      obtain rfl : candidate = document := Option.some.inj hwritten
      exact .inr ⟨answer, rfl⟩
  cases op with
  | prepare request now =>
    rcases hplan h with ⟨_, hok⟩ | ⟨_, hok⟩ <;>
      obtain ⟨_, _, _, ⟨_, _, _, h⟩ | ⟨_, _, _, _, h⟩ | ⟨_, _, _, h⟩⟩ := prepare_ok hok <;>
      cases h
    rfl
  | beginAttempt reservation now =>
    rcases hplan h with ⟨_, hok⟩ | ⟨_, hok⟩ <;>
      obtain ⟨_, _, _, h⟩ := beginAttempt_ok hok <;> cases h
    rfl
  | recordFailure reservation failure now =>
    rcases hplan h with ⟨_, hok⟩ | ⟨_, hok⟩ <;>
      obtain ⟨_, _, _, _, _, _, _, _, _, _, h⟩ := recordFailure_ok hok <;> cases h
    rfl
  | commitWith reservation verified now =>
    rcases hplan h with ⟨_, hok⟩ | ⟨_, hok⟩ <;>
      obtain ⟨_, ⟨_, _, _, h⟩ | ⟨_, _, _, _, ⟨_, h⟩ | ⟨_, _, _, _, h⟩⟩⟩ := commitWith_ok hok <;>
      cases h
    · rfl
    · rfl
  | takeover clientCommandID generation reason now =>
    rcases hplan h with ⟨_, hok⟩ | ⟨_, hok⟩ <;>
      obtain ⟨_, _, _, _, _, _, h⟩ := takeover_ok hok <;> cases h
    rfl
  | abort clientCommandID generation reason now =>
    rcases hplan h with ⟨_, hok⟩ | ⟨_, hok⟩ <;>
      obtain ⟨_, _, _, _, _, _, h⟩ := abort_ok hok <;> cases h
    rfl

theorem cloneDocument_install (s : Store) (version : GoString)
    (h : document.schema = snapshotSchema) :
    (s.installDocument version document).cloneDocument = document := by
  cases document
  cases h
  rfl

theorem cloneDocument_store (document : Document) (h : document.schema = snapshotSchema) :
    (document.store version).cloneDocument = document := by
  cases document
  cases h
  rfl

theorem swap_cases (b : MemoryBackend) (key expected payload : GoString) :
    (expected ≠ b.version key ∧ b.compareAndSwap key expected payload =
        (.error errVersionConflict, b)) ∨
      (expected = b.version key ∧ b.compareAndSwap key expected payload =
        (.ok (formatUint (b.count key + 1)), b.put key (b.count key + 1) payload)) := by
  unfold MemoryBackend.compareAndSwap MemoryBackend.version MemoryBackend.count
  cases b.versions.lookup key with
  | none =>
    by_cases h : expected = []
    · exact .inr ⟨h, if_neg (not_not_intro h)⟩
    · exact .inl ⟨h, if_pos h⟩
  | some current =>
    by_cases h : expected = formatUint current
    · exact .inr ⟨h, if_neg (not_not_intro h)⟩
    · exact .inl ⟨h, if_pos h⟩

theorem write_cases (b : MemoryBackend) (delivery : Delivery) (key expected payload : GoString) :
    ((b.write delivery key expected payload).2 = b ∧
        ∃ e, (b.write delivery key expected payload).1 = .error e) ∨
      (expected = b.version key ∧
        (b.write delivery key expected payload).2 = b.put key (b.count key + 1) payload ∧
        ((b.write delivery key expected payload).1 = .ok (formatUint (b.count key + 1)) ∨
          ∃ e, (b.write delivery key expected payload).1 = .error e)) := by
  cases delivery with
  | refused e => exact .inl ⟨rfl, e, rfl⟩
  | acknowledged =>
    rcases swap_cases b key expected payload with ⟨_, h⟩ | ⟨heq, h⟩
    · exact .inl ⟨congrArg Prod.snd h, _, congrArg Prod.fst h⟩
    · exact .inr ⟨heq, congrArg Prod.snd h, .inl (congrArg Prod.fst h)⟩
  | lost e =>
    rcases swap_cases b key expected payload with ⟨_, h⟩ | ⟨heq, h⟩
    · exact .inl (by simp [MemoryBackend.write, h])
    · exact .inr ⟨heq, by simp [MemoryBackend.write, h], .inr ⟨e, by simp [MemoryBackend.write, h]⟩⟩

variable {documents : List Document}

theorem Holding.extend (h : Holding json documents s) (document : Document) :
    Holding json (documents ++ [document]) s := by
  obtain ⟨n, held, hget, hversion, hdenotes⟩ := h
  obtain ⟨hlt, _⟩ := List.getElem?_eq_some_iff.mp hget
  exact ⟨n, held, by rw [List.getElem?_append_left hlt, hget], hversion, hdenotes⟩

theorem Holding.last (hversion : s.version = formatUint (documents.length + 1))
    (hdocument : s.cloneDocument = document) : Holding json (documents ++ [document]) s :=
  ⟨documents.length, document, by simp, hversion, .inl hdocument⟩

namespace Consistent
variable {c : Cluster}

theorem count (hc : Consistent platform json c) (key : GoString) :
    c.backend.count key = (c.history key).length := by
  rw [MemoryBackend.count, hc.versions key]
  split
  · next h => rw [h]; rfl
  · rfl

variable {node : Node}

theorem current (hc : Consistent platform json c) (hnode : node ∈ c.nodes)
    (hversion : node.store.version = c.backend.version node.key) :
    ∃ document, (c.history node.key).getLast? = some document ∧
      Denotes json document node.store.cloneDocument := by
  obtain ⟨n, document, hget, hn, hdenotes⟩ := hc.nodes node hnode
  obtain ⟨hlt, _⟩ := List.getElem?_eq_some_iff.mp hget
  have hne : c.history node.key ≠ [] := List.ne_nil_of_length_pos (by omega)
  refine ⟨document, ?_, hdenotes⟩
  rw [hn, MemoryBackend.version, hc.versions, if_neg hne] at hversion
  have hlast : n = (c.history node.key).length - 1 := by
    have heq := formatUint_inj hversion
    omega
  rw [List.getLast?_eq_getElem?, ← hlast, hget]

variable {document : Document}

theorem follows (hc : Consistent platform json c) (hnode : node ∈ c.nodes)
    (hversion : node.store.version = c.backend.version node.key) {op : Op Value}
    (hcandidate : node.store.candidate platform op = some document) :
    Sequential platform json (c.history node.key ++ [document]) := by
  obtain ⟨last, hlast, hdenotes⟩ := hc.current hnode hversion
  have hsequential := hc.sequential node.key
  constructor
  · intro first hfirst
    refine hsequential.first first ?_
    rw [List.head?_append] at hfirst
    cases hhead : (c.history node.key).head? with
    | none =>
      rw [List.head?_eq_none_iff] at hhead
      simp [hhead] at hlast
    | some head => simpa [hhead] using hfirst
  · refine List.isChain_append.mpr
      ⟨hsequential.follows, List.isChain_singleton document, fun last' hlast' next hnext => ?_⟩
    obtain rfl : last = last' := Option.mem_unique hlast hlast'
    obtain rfl : document = next := Option.some.inj hnext
    exact ⟨node.store, op, hdenotes, hcandidate⟩

theorem record_same (key : GoString) (document : Document) :
    c.record c.backend key document = c.history := if_pos rfl

variable (hc : Consistent platform json c)
include hc

theorem record_put (key payload : GoString) (document : Document) :
    c.record (c.backend.put key (c.backend.count key + 1) payload) key document =
      Function.update c.history key (c.history key ++ [document]) := by
  refine if_neg ?_
  rw [MemoryBackend.put, Finmap.lookup_insert, hc.count, hc.versions]
  split
  · exact Option.some_ne_none _
  · intro h
    have heq := Option.some.inj h
    omega

theorem appended {key : GoString}
    (hsequential : Sequential platform json (c.history key ++ [document])) {nodes : List Node}
    (hnodes : ∀ node ∈ nodes, Holding json (Function.update c.history key (c.history key ++ [document]) node.key) node.store) :
    Consistent platform json
      ⟨c.backend.put key (c.backend.count key + 1) (json.marshal document), nodes,
        Function.update c.history key (c.history key ++ [document])⟩ where
  versions key' := by
    simp only [MemoryBackend.put, lookup_insert_ite]
    by_cases hkey : key' = key
    · subst hkey
      simp [hc.count]
    · rw [if_neg hkey, Function.update_of_ne hkey]
      exact hc.versions key'
  payloads key' := by
    simp only [MemoryBackend.put, lookup_insert_ite]
    by_cases hkey : key' = key
    · subst hkey
      simp
    · rw [if_neg hkey, Function.update_of_ne hkey]
      exact hc.payloads key'
  nodes := hnodes
  sequential key' := by
    change Sequential platform json
      (Function.update c.history key (c.history key ++ [document]) key')
    by_cases hkey : key' = key
    · subst hkey
      rwa [Function.update_self]
    · rw [Function.update_of_ne hkey]
      exact hc.sequential key'

theorem holding_update (key : GoString) (document : Document) (hnode : node ∈ c.nodes) :
    Holding json (Function.update c.history key (c.history key ++ [document]) node.key)
      node.store := by
  by_cases hkey : node.key = key
  · rw [← hkey, Function.update_self]
    exact (hc.nodes node hnode).extend document
  · rw [Function.update_of_ne hkey]
    exact hc.nodes node hnode

theorem perform_cases (index : Nat) (op : Op Value) (delivery : Delivery) :
    c.perform platform json index op delivery = c ∨ ∃ node document,
      c.nodes[index]? = some node ∧ node.store.candidate platform op = some document ∧
      node.store.version = c.backend.version node.key ∧ ∃ store,
        (store = node.store ∨ store =
          node.store.installDocument (formatUint (c.backend.count node.key + 1)) document) ∧
        c.perform platform json index op delivery =
          ⟨c.backend.put node.key (c.backend.count node.key + 1) (json.marshal document),
            c.nodes.set index ⟨node.key, store⟩,
            Function.update c.history node.key (c.history node.key ++ [document])⟩ := by
  cases hnode : c.nodes[index]? with
  | none => exact .inl (by simp only [Cluster.perform, hnode])
  | some node =>
    have hsame : c.nodes.set index node = c.nodes := by
      obtain ⟨hlt, heq⟩ := List.getElem?_eq_some_iff.mp hnode
      rw [← heq, List.set_getElem_self]
    cases hcandidate : node.store.candidate platform op with
    | none =>
      refine .inl ?_
      simp only [Cluster.perform, hnode, hcandidate, perform_none hcandidate, hsame]
    | some document =>
      have hwrite := write_cases c.backend delivery node.key node.store.version
        (json.marshal document)
      rcases hwrite with ⟨hbackend, e, houtcome⟩ | ⟨hversion, hbackend, houtcome⟩
      · refine .inl ?_
        simp only [Cluster.perform, hnode, hcandidate, hbackend, houtcome, perform_failed,
          record_same, hsame]
      · refine .inr ⟨node, document, rfl, hcandidate, hversion, ?_⟩
        rcases houtcome with houtcome | ⟨e, houtcome⟩
        · refine ⟨_, .inr rfl, ?_⟩
          simp only [Cluster.perform, hnode, hcandidate, hbackend, houtcome, hc.record_put,
            perform_some hcandidate (formatUint_ne _)]
        · refine ⟨_, .inl rfl, ?_⟩
          simp only [Cluster.perform, hnode, hcandidate, hbackend, houtcome, hc.record_put,
            perform_failed]

theorem performed (index : Nat) (op : Op Value) (delivery : Delivery) :
    Consistent platform json (c.perform platform json index op delivery) := by
  rcases hc.perform_cases index op delivery with hsame | ⟨node, document, hnode, hcandidate,
    hversion, store, hstore, hnext⟩
  · rwa [hsame]
  · have hmem := List.mem_of_getElem? hnode
    rw [hnext]
    refine hc.appended (hc.follows hmem hversion hcandidate) fun node' hnode' => ?_
    rcases List.mem_or_eq_of_mem_set hnode' with hold | rfl
    · exact hc.holding_update node.key document hold
    · rcases hstore with rfl | rfl
      · exact hc.holding_update node.key document hmem
      · simp only [Function.update_self]
        exact .last (by rw [← hc.count]; rfl)
          (cloneDocument_install _ _ (candidate_schema hcandidate))

theorem created (key : GoString) (initial : MatchState) (delivery : Delivery) :
    Consistent platform json (c.create platform json key initial delivery) := by
  unfold Cluster.create
  cases hstate : validateState platform initial with
  | error e => exact hc
  | ok u =>
    rcases write_cases c.backend delivery key [] (json.marshal (freshDocument initial)) with
      ⟨hbackend, e, houtcome⟩ | ⟨hversion, hbackend, houtcome⟩
    · simp only [hbackend, houtcome, record_same]
      exact hc
    · have hempty : c.history key = [] := by
        by_contra hne
        rw [MemoryBackend.version, hc.versions, if_neg hne] at hversion
        exact formatUint_ne _ hversion.symm
      have hsequential : Sequential platform json (c.history key ++ [freshDocument initial]) := by
        rw [hempty]
        refine ⟨fun document hdocument => ⟨initial, hstate, ?_⟩, List.isChain_singleton _⟩
        exact (Option.some.inj hdocument).symm
      simp only [hbackend, hc.record_put]
      refine hc.appended hsequential fun node hnode => ?_
      rcases houtcome with houtcome | ⟨e, houtcome⟩
      · simp only [houtcome, List.mem_append, List.mem_singleton] at hnode
        rcases hnode with hnode | rfl
        · exact hc.holding_update key _ hnode
        · simp only [Function.update_self]
          exact .last (by rw [← hc.count]; rfl) rfl
      · simp only [houtcome] at hnode
        exact hc.holding_update key _ hnode

theorem joined (key : GoString) : Consistent platform json (c.join platform json key) := by
  unfold Cluster.join
  cases hopen : openStore platform json (c.backend.load key).1 (c.backend.load key).2 with
  | error e => simpa only [hopen] using hc
  | ok store =>
    simp only [hopen]
    refine ⟨hc.versions, hc.payloads, fun node hnode => ?_, hc.sequential⟩
    rcases List.mem_append.mp hnode with hnode | hnode
    · exact hc.nodes node hnode
    · cases List.mem_singleton.mp hnode
      simp only [openStore, bind_ok, require_ok, liftError_ok] at hopen
      obtain ⟨_, ⟨hpayload, _⟩, document, hdecode, _, hvalid, hstore⟩ := hopen
      simp only [Document.validateLocked, bind_ok, require_ok] at hvalid
      obtain ⟨_, hschema, _⟩ := hvalid
      cases (Except.ok.inj hstore).symm
      have hpayloads := hc.payloads key
      cases hlast : (c.history key).getLast? with
      | none =>
        rw [hlast] at hpayloads
        simp [MemoryBackend.load, hpayloads] at hpayload
      | some last =>
        rw [hlast] at hpayloads
        simp only [MemoryBackend.load, hpayloads, Option.map_some] at hdecode ⊢
        have hpos : 0 < (c.history key).length := by
          rw [List.length_pos_iff]
          rintro hnil
          simp [hnil] at hlast
        have hversion : (c.backend.versions.lookup key).getD 0 = (c.history key).length - 1 + 1 := by
          rw [← MemoryBackend.count, hc.count]
          omega
        refine ⟨(c.history key).length - 1, last, ?_, congrArg formatUint hversion, .inr ?_⟩
        · rw [← List.getLast?_eq_getElem?, hlast]
        · rw [hdecode]
          exact congrArg Except.ok (cloneDocument_store document hschema).symm

end Consistent

theorem consistent_of_reachable {c : Cluster} (h : Reachable (cluster platform json) c) :
    Consistent platform json c := by
  refine h.invariant ?_ ?_
  · rintro c rfl
    exact ⟨fun _ => rfl, fun _ => rfl, by simp, fun _ => ⟨by simp, .nil⟩⟩
  · rintro c action c' hc rfl
    cases action with
    | create key initial delivery => exact hc.created key initial delivery
    | join key => exact hc.joined key
    | perform index op delivery => exact hc.performed index op delivery

structure NoLostUpdate (platform : Platform Value) (json : DocumentJson) (c : Cluster) : Prop where
  held : ∀ key, c.backend.payloads.lookup key = (c.history key).getLast?.map json.marshal
  sequential : ∀ key, Sequential platform json (c.history key)
  exact : (∀ key, ∀ document ∈ c.history key, json.decode (json.marshal document) = .ok document) →
    ∀ key, (c.history key).IsChain fun document next =>
      ∃ s op, Store.cloneDocument s = document ∧ s.candidate platform op = some next
  write : ∀ index op delivery,
    (c.perform platform json index op delivery).history = c.history ∨ ∃ node document,
      c.nodes[index]? = some node ∧ node.store.candidate platform op = some document ∧
      node.store.version = c.backend.version node.key ∧
      (c.perform platform json index op delivery).history =
        Function.update c.history node.key (c.history node.key ++ [document])
  current : ∀ node ∈ c.nodes, node.store.version = c.backend.version node.key →
    ∃ document, (c.history node.key).getLast? = some document ∧
      Denotes json document node.store.cloneDocument
  fenced : ∀ index op delivery node, c.nodes[index]? = some node →
    node.store.version ≠ c.backend.version node.key →
      c.perform platform json index op delivery = c

theorem Follows.exact {document next : Document} (h : Follows platform json document next)
    (hround : json.decode (json.marshal document) = .ok document) :
    ∃ s op, Store.cloneDocument s = document ∧ s.candidate platform op = some next := by
  obtain ⟨s, op, hdenotes | hdenotes, hcandidate⟩ := h
  · exact ⟨s, op, hdenotes, hcandidate⟩
  · exact ⟨s, op, Except.ok.inj (hdenotes.symm.trans hround), hcandidate⟩

theorem no_lost_update {c : Cluster} (h : Reachable (cluster platform json) c) :
    NoLostUpdate platform json c := by
  have hc := consistent_of_reachable h
  constructor
  case held => exact hc.payloads
  case sequential => exact hc.sequential
  case exact =>
    intro hround key
    exact (hc.sequential key).follows.imp_of_mem_imp
      fun document next hdocument _ hfollows => hfollows.exact (hround key document hdocument)
  case write =>
    intro index op delivery
    rcases hc.perform_cases index op delivery with hsame | ⟨node, document, hnode, hcandidate,
      hversion, store, _, hnext⟩
    · exact .inl (congrArg Cluster.history hsame)
    · exact .inr ⟨node, document, hnode, hcandidate, hversion, congrArg Cluster.history hnext⟩
  case current => exact fun node hnode hversion => hc.current hnode hversion
  case fenced =>
    intro index op delivery node hnode hstale
    rcases hc.perform_cases index op delivery with hsame | ⟨node', _, hnode', _, hversion, _⟩
    · exact hsame
    · obtain rfl : node = node' := Option.mem_unique hnode hnode'
      exact absurd hversion hstale

theorem run_actions (c : Cluster) (actions : List (Action Value)) :
    Run (cluster platform json) c actions (actions.foldl (Cluster.next platform json) c) := by
  induction actions generalizing c with
  | nil => exact .nil c
  | cons action rest ih => exact Run.cons rfl (ih _)

end

def sampleFirst : Document := freshDocument (sampleInitial 1)

def sampleSecond : Document := (sampleStart 1).store.putReservation (sampleReservation 1)

def sampleDocumentJson (reservations : GoString) : GoString :=
  str "\x7b\"schema\":\"trnm.nakama.world-command-store.v1\",\"state\":\x7b\"match_id\":\"matc" ++
    str "h-1\",\"participant_roster_hash\":\"roster\",\"match_version\":1,\"next_global_event_" ++
    str "sequence\":1,\"state_revision\":1,\"state_schema_id\":\"state.v1\",\"state_canonical_" ++
    str "json\":\"e30=\",\"state_hash\":\"" ++ (sampleInitial 1).stateHash ++
    str "\",\"tick\":0,\"participant_sequences\":\x7b\x7d\x7d,\"reservations\":\x7b" ++
    reservations ++ str "\x7d,\"receipts\":\x7b\x7d,\"retired\":\x7b\x7d\x7d"

def sampleFirstJson : GoString := sampleDocumentJson []

def sampleSecondJson : GoString := sampleDocumentJson <|
  str "\"move-1\":\x7b\"schema\":\"trnm.nakama.world-command-reservation.v1\",\"reservation_id" ++
    str "\":\"" ++ (sampleReservation 1).reservationID ++ str "\",\"client_command_id\":\"move" ++
    str "-1\",\"intent_fingerprint\":\"" ++ (sampleReservation 1).intentFingerprint ++
    str "\",\"generation\":1,\"state_token\":\"" ++ (sampleReservation 1).stateToken ++
    str "\",\"user_id\":\"user-1\",\"participant_id\":\"alpha\",\"participant_sequence\":1,\"c" ++
    str "ontext\":\x7b\"MatchID\":\"match-1\",\"AuthorizationID\":\"authorization-1\",\"Partic" ++
    str "ipantRosterHash\":\"roster\",\"MatchVersion\":1,\"GlobalEventSequence\":1,\"CommandId" ++
    str "empotencyKey\":\"move-1\",\"RulesetRevision\":\"ruleset-1\",\"ContentRevision\":\"con" ++
    str "tent-1\",\"ExpectedTick\":0\x7d,\"command_schema_id\":\"command.v1\",\"command_canoni" ++
    str "cal_json\":\"eyJtb3ZlIjoxfQ==\",\"transition\":\x7b\"canonical_request\":\"e317Im1vdm" ++
    str "UiOjF9\",\"request_hash\":\"" ++ samplePrepared.requestHash ++ str "\",\"transition_i" ++
    str "d\":\"wtx-move-1\",\"world_command_id\":\"wcmd-move-1\",\"previous_state_hash\":\"" ++
    (sampleInitial 1).stateHash ++ str "\"\x7d,\"fence\":\x7b\"match_version\":1,\"next_global" ++
    str "_event_sequence\":1,\"state_revision\":1,\"state_hash\":\"" ++
    (sampleInitial 1).stateHash ++ str "\",\"tick\":0,\"participant_sequence\":0\x7d,\"status" ++
    str "\":\"pending\",\"created_at_unix\":100,\"updated_at_unix\":100,\"attempts\":[]\x7d"

def sampleJson : DocumentJson where
  marshal document :=
    if document = sampleFirst then sampleFirstJson
    else if document = sampleSecond then sampleSecondJson
    else []
  decode payload :=
    if payload = sampleFirstJson then .ok sampleFirst
    else if payload = sampleSecondJson then .ok sampleSecond
    else .error "unexpected end of JSON input"

def sampleActions : List (Action GoString) :=
  [.create (str "match-1") (sampleInitial 1) (.lost (failure "connection reset")),
    .join (str "match-1"), .join (str "match-1"),
    .perform 0 (.prepare (sampleRequest 1) ⟨100, 0⟩) .acknowledged,
    .perform 1 (.prepare (sampleRequest 1) ⟨101, 0⟩) .acknowledged]

def sampleCluster : Cluster :=
  sampleActions.foldl (Cluster.next samplePlatform sampleJson) ⟨⟨∅, ∅⟩, [], fun _ => []⟩

theorem no_lost_update_sample : NoLostUpdate samplePlatform sampleJson sampleCluster ∧
    (sampleCluster.history (str "match-1")).length = 2 :=
  ⟨no_lost_update ⟨_, sampleActions, rfl, run_actions _ sampleActions⟩, by decide +kernel⟩

end WorldCommand
