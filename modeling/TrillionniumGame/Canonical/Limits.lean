import TrillionniumGame.Canonical.PrefixFree

namespace Canonical
open Checks DigestTable Framing GoText Persistence Words

structure CanonicalLimits.Words (limits : CanonicalLimits) : Prop where
  depth : limits.maxDepth < 2 ^ 64
  nodes : limits.maxNodes < 2 ^ 64
  output : limits.maxOutputBytes < 2 ^ 64
  strings : limits.maxStringBytes < 2 ^ 64
  items : limits.maxCollectionItems < 2 ^ 64

def CanonicalLimits.unlimited : CanonicalLimits :=
  ⟨2 ^ 64 - 1, 2 ^ 64 - 1, 2 ^ 64 - 1, 2 ^ 64 - 1, 2 ^ 64 - 1⟩

structure CanonicalLimits.Under (limits limits' : CanonicalLimits) : Prop where
  depth : limits.maxDepth ≤ limits'.maxDepth
  nodes : limits.maxNodes ≤ limits'.maxNodes
  output : limits.maxOutputBytes ≤ limits'.maxOutputBytes
  strings : limits.maxStringBytes ≤ limits'.maxStringBytes
  items : limits.maxCollectionItems ≤ limits'.maxCollectionItems

mutual

def CanonicalValue.nesting : CanonicalValue → Nat
  | .array values => itemsNesting values
  | .object entries => entriesNesting entries
  | _ => 0

def itemsNesting : List CanonicalValue → Nat
  | [] => 0
  | child :: rest => max (child.nesting + 1) (itemsNesting rest)

def entriesNesting : List (String × CanonicalValue) → Nat
  | [] => 0
  | (_, child) :: rest => max (child.nesting + 1) (entriesNesting rest)

end

mutual

def CanonicalValue.nodes : CanonicalValue → Nat
  | .array values => 1 + itemsNodes values
  | .object entries => 1 + entriesNodes entries
  | _ => 1

def itemsNodes : List CanonicalValue → Nat
  | [] => 0
  | child :: rest => child.nodes + itemsNodes rest

def entriesNodes : List (String × CanonicalValue) → Nat
  | [] => 0
  | (_, child) :: rest => child.nodes + entriesNodes rest

end

mutual

def CanonicalValue.Sized (limits : CanonicalLimits) : CanonicalValue → Prop
  | .string text => (str text).length ≤ limits.maxStringBytes
  | .bytes bytes => bytes.length ≤ limits.maxStringBytes
  | .array values => values.length ≤ limits.maxCollectionItems ∧ ItemsSized limits values
  | .object entries => entries.length ≤ limits.maxCollectionItems ∧ EntriesSized limits entries
  | _ => True

def ItemsSized (limits : CanonicalLimits) : List CanonicalValue → Prop
  | [] => True
  | child :: rest => child.Sized limits ∧ ItemsSized limits rest

def EntriesSized (limits : CanonicalLimits) : List (String × CanonicalValue) → Prop
  | [] => True
  | (key, child) :: rest =>
    (str key ≠ [] ∧ (str key).length ≤ limits.maxStringBytes) ∧ child.Sized limits ∧
      EntriesSized limits rest

end

section Costs
variable {limits : CanonicalLimits}

structure Encoder.Within (limits : CanonicalLimits) (floor : Nat) (encoder : Encoder) : Prop where
  same : encoder.limits = limits
  floor : floor ≤ encoder.nodes
  nodes : encoder.nodes ≤ limits.maxNodes
  output : encoder.output.length ≤ limits.maxOutputBytes

def Encoder.spend (encoder : Encoder) (nodes : Nat) (bytes : GoString) : Encoder :=
  { encoder with nodes := encoder.nodes + nodes, output := encoder.output ++ bytes }

def Costs (limits : CanonicalLimits) (floor : Nat) (write : Encoder → Except DomainError Encoder)
    (fine : Prop) (nodes : Nat) (bytes : GoString) : Prop :=
  ∀ encoder encoder', encoder.Within limits floor →
    (write encoder = .ok encoder' ↔ fine ∧ (encoder.spend nodes bytes).Within limits floor ∧
      encoder' = encoder.spend nodes bytes)

variable {floor nodes nodes' : Nat} {write write' : Encoder → Except DomainError Encoder}
  {fine fine' : Prop} {bytes bytes' : GoString} {encoder : Encoder}

theorem Encoder.Within.spent (h : encoder.Within limits floor)
    (hspend : (encoder.spend (nodes + nodes') (bytes ++ bytes')).Within limits floor) :
    (encoder.spend nodes bytes).Within limits (floor + nodes) := by
  have hnodes := hspend.nodes
  have houtput := hspend.output
  have hfloor := h.floor
  simp only [Encoder.spend, List.length_append] at hnodes houtput
  refine ⟨h.same, ?_, ?_, ?_⟩ <;> simp only [Encoder.spend, List.length_append] <;> omega

theorem spend_spend (encoder : Encoder) :
    (encoder.spend nodes bytes).spend nodes' bytes' =
      encoder.spend (nodes + nodes') (bytes ++ bytes') := by
  simp [Encoder.spend, Nat.add_assoc]

variable {floor' : Nat}

theorem Encoder.Within.lower (h : encoder.Within limits floor) (hle : floor' ≤ floor) :
    encoder.Within limits floor' :=
  ⟨h.same, hle.trans h.floor, h.nodes, h.output⟩

section

variable (h : Costs limits floor write fine nodes bytes)
include h

theorem Costs.bind (h' : Costs limits (floor + nodes) write' fine' nodes' bytes') :
    Costs limits floor (fun encoder => write encoder >>= write') (fine ∧ fine') (nodes + nodes')
      (bytes ++ bytes') := by
  intro encoder encoder' hwithin
  simp only [bind_ok]
  constructor
  · rintro ⟨next, hnext, hrest⟩
    obtain ⟨hfine, hspent, rfl⟩ := (h encoder next hwithin).mp hnext
    have hraised : (encoder.spend nodes bytes).Within limits (floor + nodes) :=
      ⟨hspent.same, Nat.add_le_add_right hwithin.floor _, hspent.nodes, hspent.output⟩
    obtain ⟨hfine', hspent', rfl⟩ := (h' _ _ hraised).mp hrest
    rw [spend_spend] at hspent' ⊢
    exact ⟨⟨hfine, hfine'⟩, hspent'.lower (Nat.le_add_right _ _), rfl⟩
  · rintro ⟨⟨hfine, hfine'⟩, hspent, rfl⟩
    have hfirst := hwithin.spent hspent
    refine ⟨_, (h encoder _ hwithin).mpr ⟨hfine, hfirst.lower (Nat.le_add_right _ _), rfl⟩, ?_⟩
    refine (h' _ _ hfirst).mpr ⟨hfine', ?_, (spend_spend encoder).symm⟩
    rw [spend_spend]
    refine ⟨hspent.same, ?_, hspent.nodes, hspent.output⟩
    have hfloor := hwithin.floor
    simp only [Encoder.spend]
    omega

theorem Costs.raise (hle : floor ≤ floor') : Costs limits floor' write fine nodes bytes := by
  intro encoder encoder' hwithin
  rw [h encoder encoder' (hwithin.lower hle)]
  have hfloor := hwithin.floor
  constructor
  · rintro ⟨hfine, hspent, hencoder⟩
    refine ⟨hfine, ⟨hspent.same, ?_, hspent.nodes, hspent.output⟩, hencoder⟩
    exact hfloor.trans (Nat.le_add_right _ _)
  · rintro ⟨hfine, hspent, hencoder⟩
    exact ⟨hfine, hspent.lower hle, hencoder⟩

theorem Costs.of_iff (hiff : fine ↔ fine') : Costs limits floor write fine' nodes bytes := by
  intro encoder encoder' hwithin
  rw [← hiff]
  exact h encoder encoder' hwithin

theorem Costs.guard (check : CanonicalLimits → Except DomainError Unit)
    (hcheck : check limits = .ok () ↔ fine') :
    Costs limits floor (fun encoder => check encoder.limits >>= fun _ => write encoder)
      (fine' ∧ fine) nodes bytes := by
  intro encoder encoder' hwithin
  simp only [bind_ok, hwithin.same]
  rw [and_assoc, ← h encoder encoder' hwithin, ← hcheck]
  constructor
  · rintro ⟨⟨⟩, hfine, hwrite⟩
    exact ⟨hfine, hwrite⟩
  · rintro ⟨hfine, hwrite⟩
    exact ⟨(), hfine, hwrite⟩

end

theorem costs_nothing : Costs limits floor .ok True 0 [] := by
  intro encoder encoder' hwithin
  have hsame : encoder.spend 0 [] = encoder := by simp [Encoder.spend]
  rw [hsame, Except.ok.injEq]
  exact ⟨fun heq => ⟨trivial, hwithin, heq.symm⟩, fun h => h.2.2.symm⟩

variable (hwords : limits.Words)
include hwords

theorem costs_extend (floor : Nat) (bytes : GoString) :
    Costs limits floor (fun encoder => encoder.extend bytes) True 0 bytes := by
  intro encoder encoder' hwithin
  have hword := hwords.output
  have hlimits := hwithin.same
  simp only [Encoder.extend, Encoder.ensureCapacity, bind_ok, fetch_ok, fits_some, require_ok,
    true_and]
  constructor
  · rintro ⟨_, ⟨_, ⟨_, rfl⟩, hroom⟩, hencoder⟩
    refine ⟨⟨hlimits, hwithin.floor, hwithin.nodes, ?_⟩, (Except.ok.inj hencoder).symm⟩
    rw [Encoder.spend, List.length_append, ← hlimits]
    exact hroom
  · rintro ⟨hspent, rfl⟩
    have hroom := hspent.output
    rw [Encoder.spend, List.length_append] at hroom
    exact ⟨(), ⟨_, ⟨by omega, rfl⟩, hlimits ▸ hroom⟩, rfl⟩

theorem costs_writeU32 (floor value : Nat) :
    Costs limits floor (fun encoder => encoder.writeU32 value) (value < 256 ^ 4) 0
      (bigEndian value 4) := by
  intro encoder encoder' hwithin
  have hextend := costs_extend hwords floor (bigEndian value 4) encoder encoder' hwithin
  simp only [Encoder.writeU32, bind_ok, fetch_ok, fits_some]
  constructor
  · rintro ⟨_, ⟨hlt, rfl⟩, hwrite⟩
    exact ⟨hlt, (hextend.mp hwrite).2⟩
  · rintro ⟨hlt, hspent⟩
    exact ⟨value, ⟨hlt, rfl⟩, hextend.mpr ⟨trivial, hspent⟩⟩

theorem costs_countNode (depth : Nat) :
    Costs limits depth (fun encoder => encoder.countNode depth) (depth ≤ limits.maxDepth) 1 [] := by
  intro encoder encoder' hwithin
  have hword := hwords.nodes
  have hlimits := hwithin.same
  simp only [Encoder.countNode, bind_ok, fetch_ok, fits_some, require_ok]
  constructor
  · rintro ⟨_, hdepth, _, ⟨_, rfl⟩, _, hroom, hencoder⟩
    rw [hlimits] at hdepth hroom
    have hsame : encoder' = encoder.spend 1 [] := by
      rw [Encoder.spend, List.append_nil]
      exact (Except.ok.inj hencoder).symm
    refine ⟨hdepth, ⟨hlimits, hwithin.floor.trans (Nat.le_succ _), hroom, ?_⟩, hsame⟩
    rw [Encoder.spend, List.append_nil]
    exact hwithin.output
  · rintro ⟨hdepth, hspent, rfl⟩
    have hroom : encoder.nodes + 1 ≤ limits.maxNodes := hspent.nodes
    refine ⟨(), hlimits ▸ hdepth, _, ⟨by omega, rfl⟩, (), hlimits ▸ hroom, ?_⟩
    rw [Encoder.spend, List.append_nil]
    rfl

theorem costs_writeBlock (floor : Nat) (tag : UInt8) (bytes : GoString) :
    Costs limits floor (fun encoder => encoder.writeBlock tag bytes) (bytes.length < 256 ^ 4) 0
      (tag :: prefixed 4 bytes) := by
  have hblock := (costs_extend hwords floor [tag]).bind
    ((costs_writeU32 hwords floor bytes.length).bind (costs_extend hwords floor bytes))
  exact hblock.of_iff (by simp)

theorem costs_openCollection (floor : Nat) (tag : UInt8) (len : Nat) :
    Costs limits floor (fun encoder => encoder.openCollection tag len)
      (len ≤ limits.maxCollectionItems ∧ len < 256 ^ 4) 0 (tag :: bigEndian len 4) := by
  have hopen := (costs_extend hwords floor [tag]).bind (costs_writeU32 hwords floor len)
  have hguard := hopen.guard (validateCollectionLen len) require_ok
  exact hguard.of_iff (by simp)

theorem costs_childDepth {depth : Nat} (write : Nat → Encoder → Except DomainError Encoder)
    (h : Costs limits (depth + 1) (write (depth + 1)) fine nodes bytes) :
    Costs limits (depth + 1) (fun encoder => do
      let childDepth ← fetch (fits 64 (depth + 1)) counterOverflow
      write childDepth encoder) fine nodes bytes := by
  intro encoder encoder' hwithin
  have hword := hwords.nodes
  have hfloor := hwithin.floor
  have hnodes := hwithin.nodes
  have hfits : fits 64 (depth + 1) = some (depth + 1) := fits_some.mpr ⟨by omega, rfl⟩
  rw [hfits, ← h encoder encoder' hwithin]
  rfl

end Costs

theorem nesting_items_le {depth bound : Nat} {values : List CanonicalValue} :
    depth + itemsNesting values ≤ bound ↔
      depth ≤ bound ∧ ∀ value ∈ values, depth + 1 + value.nesting ≤ bound := by
  induction values with
  | nil => simp [itemsNesting]
  | cons child rest ih =>
    rw [List.forall_mem_cons, itemsNesting, ← and_assoc, and_comm (a := depth ≤ bound), and_assoc,
      ← ih]
    omega

theorem nesting_entries_le {depth bound : Nat} {entries : List Entry} :
    depth + entriesNesting entries ≤ bound ↔
      depth ≤ bound ∧ ∀ entry ∈ entries, depth + 1 + entry.2.nesting ≤ bound := by
  induction entries with
  | nil => simp [entriesNesting]
  | cons entry rest ih =>
    rw [List.forall_mem_cons, entriesNesting, ← and_assoc, and_comm (a := depth ≤ bound), and_assoc,
      ← ih]
    omega

section Values
variable {limits : CanonicalLimits}

def Priced (limits : CanonicalLimits) (value : CanonicalValue) : Prop :=
  ∀ depth, Costs limits depth (fun encoder => encoder.writeValue depth value)
    (depth + value.nesting ≤ limits.maxDepth ∧ value.Sized limits ∧ value.Measured) value.nodes
    value.image

theorem costs_items {values : List CanonicalValue} (h : ∀ value ∈ values, Priced limits value)
    (depth : Nat) : Costs limits depth (fun encoder => encoder.writeItems depth values)
      ((∀ value ∈ values, depth + value.nesting ≤ limits.maxDepth) ∧ ItemsSized limits values ∧
        ItemsMeasured values) (itemsNodes values) (itemsImage values) := by
  induction values with
  | nil => exact costs_nothing.of_iff (by simp [ItemsSized, ItemsMeasured])
  | cons child rest ih =>
    have hrest := ih fun value hmem => h value (List.mem_cons_of_mem _ hmem)
    have hboth := (h child List.mem_cons_self depth).bind
      (hrest.raise (Nat.le_add_right depth child.nodes))
    refine hboth.of_iff ?_
    rw [List.forall_mem_cons, ItemsSized, ItemsMeasured]
    tauto

variable (hwords : limits.Words)
include hwords

theorem costs_entries {entries : List Entry} (h : ∀ entry ∈ entries, Priced limits entry.2)
    (depth : Nat) : Costs limits depth (fun encoder => encoder.writeEntries depth entries)
      ((∀ entry ∈ entries, depth + entry.2.nesting ≤ limits.maxDepth) ∧
        EntriesSized limits entries ∧ EntriesMeasured entries) (entriesNodes entries)
      (entriesImage entries) := by
  induction entries with
  | nil => exact costs_nothing.of_iff (by simp [EntriesSized, EntriesMeasured])
  | cons entry rest ih =>
    obtain ⟨key, child⟩ := entry
    have hrest := ih fun value hmem => h value (List.mem_cons_of_mem _ hmem)
    have hboth := (h (key, child) List.mem_cons_self depth).bind
      (hrest.raise (Nat.le_add_right depth child.nodes))
    have hall := ((costs_writeU32 hwords depth (str key).length).bind
      ((costs_extend hwords depth (str key)).bind hboth)).guard (validateKey key) require_ok
    rw [Nat.zero_add, Nat.zero_add] at hall
    rw [entriesImage, prefixed, List.append_assoc]
    refine hall.of_iff ?_
    rw [List.forall_mem_cons, EntriesSized, EntriesMeasured]
    tauto

theorem costs_node {depth nodes : Nat} {write : Encoder → Except DomainError Encoder} {fine : Prop}
    {bytes : GoString} (h : Costs limits (depth + 1) write fine nodes bytes) :
    Costs limits depth (fun encoder => encoder.countNode depth >>= write)
      (depth ≤ limits.maxDepth ∧ fine) (1 + nodes) bytes :=
  (costs_countNode hwords depth).bind h

theorem priced (value : CanonicalValue) : Priced limits value := by
  induction value using CanonicalValue.children with
  | null =>
    intro depth
    exact (costs_node hwords (costs_extend hwords (depth + 1) [tagNull])).of_iff (by
      simp [CanonicalValue.nesting, CanonicalValue.Sized, CanonicalValue.Measured])
  | bool value =>
    intro depth
    have htag := costs_extend hwords (depth + 1) [if value then tagTrue else tagFalse]
    refine (costs_node hwords htag).of_iff ?_
    simp [CanonicalValue.nesting, CanonicalValue.Sized, CanonicalValue.Measured]
  | i64 number =>
    intro depth
    refine (costs_node hwords ((costs_extend hwords (depth + 1) [tagI64]).bind
      (costs_extend hwords (depth + 1) (bigEndian number.toUInt64.toNat 8)))).of_iff ?_
    simp [CanonicalValue.nesting, CanonicalValue.Sized, CanonicalValue.Measured]
  | string text =>
    intro depth
    have hblock := (costs_writeBlock hwords (depth + 1) tagString (str text)).guard
      (validateString text) require_ok
    exact (costs_node hwords hblock).of_iff Iff.rfl
  | bytes content =>
    intro depth
    have hblock := (costs_writeBlock hwords (depth + 1) tagBytes content).guard
      (fun limits => require (content.length ≤ limits.maxStringBytes)
        (exhausted "canonical_bytes_limit_exceeded")) require_ok
    exact (costs_node hwords hblock).of_iff Iff.rfl
  | array values ih =>
    intro depth
    have hitems := costs_childDepth hwords
      (fun depth encoder => encoder.writeItems depth values) (costs_items ih (depth + 1))
    have hopened := (costs_openCollection hwords (depth + 1) tagArray values.length).bind hitems
    rw [Nat.zero_add] at hopened
    refine (costs_node hwords hopened).of_iff ?_
    rw [CanonicalValue.nesting, CanonicalValue.Sized, CanonicalValue.Measured, nesting_items_le]
    tauto
  | object entries ih =>
    intro depth
    have hentries := costs_childDepth hwords
      (fun depth encoder => encoder.writeEntries depth entries)
      (costs_entries hwords ih (depth + 1))
    have hopened := (costs_openCollection hwords (depth + 1) tagObject entries.length).bind hentries
    rw [Nat.zero_add] at hopened
    refine (costs_node hwords hopened).of_iff ?_
    rw [CanonicalValue.nesting, CanonicalValue.Sized, CanonicalValue.Measured, nesting_entries_le]
    tauto

theorem costs_writeU16 (floor value : Nat) :
    Costs limits floor (fun encoder => encoder.writeU16 value) (value < 256 ^ 2) 0
      (bigEndian value 2) := by
  intro encoder encoder' hwithin
  have hextend := costs_extend hwords floor (bigEndian value 2) encoder encoder' hwithin
  simp only [Encoder.writeU16, bind_ok, fetch_ok, fits_some]
  constructor
  · rintro ⟨_, ⟨hlt, rfl⟩, hwrite⟩
    exact ⟨hlt, (hextend.mp hwrite).2⟩
  · rintro ⟨hlt, hspent⟩
    exact ⟨value, ⟨hlt, rfl⟩, hextend.mpr ⟨trivial, hspent⟩⟩

def writeFrame (frame : CanonicalFrame) (encoder : Encoder) : Except DomainError Encoder := do
  let encoder ← encoder.extend magic
  let encoder ← encoder.writeU16 (str frame.domain).length
  let encoder ← encoder.extend (str frame.domain)
  let encoder ← encoder.writeRawU16 frame.version.major.toNat
  let encoder ← encoder.writeRawU16 frame.version.minor.toNat
  encoder.writeValue 0 frame.value

theorem costs_writeFrame (frame : CanonicalFrame) :
    Costs limits 0 (writeFrame frame) ((str frame.domain).length < 256 ^ 2 ∧
      frame.value.nesting ≤ limits.maxDepth ∧ frame.value.Sized limits ∧ frame.value.Measured)
      frame.value.nodes frame.image := by
  have hvalue := priced hwords frame.value 0
  have hminor := (costs_extend hwords 0 (bigEndian frame.version.minor.toNat 2)).bind
    hvalue
  have hmajor := (costs_extend hwords 0 (bigEndian frame.version.major.toNat 2)).bind
    hminor
  have hdomain := (costs_writeU16 hwords 0 (str frame.domain).length).bind
    ((costs_extend hwords 0 (str frame.domain)).bind hmajor)
  have hframe := (costs_extend hwords 0 magic).bind hdomain
  simp only [Nat.zero_add, true_and] at hframe
  rw [CanonicalFrame.image, prefixed, List.append_assoc]
  exact hframe

end Values

theorem encodeCanonical_eq (frame : CanonicalFrame) (limits : CanonicalLimits) :
    encodeCanonical frame limits = (do
      validateLimits limits
      let encoder ← writeFrame frame (.new limits)
      return encoder.output) := by
  simp only [encodeCanonical, writeFrame, bind_assoc]

variable {frame : CanonicalFrame} {limits : CanonicalLimits} {out : GoString}

theorem encodeCanonical_iff (hwords : limits.Words) : encodeCanonical frame limits = .ok out ↔
      validateLimits limits = .ok () ∧ frame.value.nesting ≤ limits.maxDepth ∧
        frame.value.nodes ≤ limits.maxNodes ∧ frame.value.Sized limits ∧ frame.value.Measured ∧
        out = frame.image ∧ out.length ≤ limits.maxOutputBytes := by
  have hdomain : (str frame.domain).length < 256 ^ 2 := by
    obtain ⟨_, hlength, _⟩ := bind_ok.mp frame.validDomain
    have hle := (require_ok.mp hlength).2
    rw [maxDomainBytes] at hle
    omega
  have hwithin : (Encoder.new limits).Within limits 0 := ⟨rfl, le_rfl, Nat.zero_le _, Nat.zero_le _⟩
  have hcosts := fun encoder' => costs_writeFrame hwords frame (.new limits) encoder' hwithin
  simp only [encodeCanonical_eq, bind_ok, hcosts]
  constructor
  · rintro ⟨⟨⟩, hvalid, _, ⟨⟨_, hnesting, hsized, hmeasured⟩, hspent, rfl⟩, hout⟩
    cases hout
    have hnodes : 0 + frame.value.nodes ≤ limits.maxNodes := hspent.nodes
    rw [Nat.zero_add] at hnodes
    exact ⟨hvalid, hnesting, hnodes, hsized, hmeasured, rfl, hspent.output⟩
  · rintro ⟨hvalid, hnesting, hnodes, hsized, hmeasured, rfl, hroom⟩
    refine ⟨(), hvalid, _, ⟨⟨hdomain, hnesting, hsized, hmeasured⟩, ?_, rfl⟩, rfl⟩
    refine ⟨rfl, Nat.zero_le _, ?_, hroom⟩
    rw [Encoder.spend, Encoder.new, Nat.zero_add]
    exact hnodes

variable {values : List CanonicalValue}

theorem itemsNesting_le (h : ∀ value ∈ values, value.nesting < value.nodes) :
    itemsNesting values ≤ itemsNodes values := by
  induction values with
  | nil => exact le_rfl
  | cons child rest ih =>
    have hchild := h child List.mem_cons_self
    have hrest := ih fun value hmem => h value (List.mem_cons_of_mem _ hmem)
    rw [itemsNesting, itemsNodes]
    omega

variable {entries : List Entry}

theorem entriesNesting_le (h : ∀ entry ∈ entries, entry.2.nesting < entry.2.nodes) :
    entriesNesting entries ≤ entriesNodes entries := by
  induction entries with
  | nil => exact le_rfl
  | cons entry rest ih =>
    have hchild := h entry List.mem_cons_self
    have hrest := ih fun value hmem => h value (List.mem_cons_of_mem _ hmem)
    rw [entriesNesting, entriesNodes]
    omega

theorem nesting_lt_nodes (value : CanonicalValue) : value.nesting < value.nodes := by
  induction value using CanonicalValue.children with
  | null | bool value | i64 number | string text | bytes content => exact Nat.zero_lt_one
  | array values ih =>
    have hle := itemsNesting_le ih
    rw [CanonicalValue.nesting, CanonicalValue.nodes]
    omega
  | object entries ih =>
    have hle := entriesNesting_le ih
    rw [CanonicalValue.nesting, CanonicalValue.nodes]
    omega

theorem itemsNodes_le (h : ∀ value ∈ values, value.nodes ≤ value.image.length) :
    itemsNodes values ≤ (itemsImage values).length := by
  induction values with
  | nil => exact le_rfl
  | cons child rest ih =>
    have hchild := h child List.mem_cons_self
    have hrest := ih fun value hmem => h value (List.mem_cons_of_mem _ hmem)
    rw [itemsNodes, itemsImage, List.length_append]
    omega

theorem entriesNodes_le (h : ∀ entry ∈ entries, entry.2.nodes ≤ entry.2.image.length) :
    entriesNodes entries ≤ (entriesImage entries).length := by
  induction entries with
  | nil => exact le_rfl
  | cons entry rest ih =>
    have hchild := h entry List.mem_cons_self
    have hrest := ih fun value hmem => h value (List.mem_cons_of_mem _ hmem)
    rw [entriesNodes, entriesImage, List.length_append, List.length_append]
    omega

theorem nodes_le_image (value : CanonicalValue) : value.nodes ≤ value.image.length := by
  induction value using CanonicalValue.children with
  | null | bool value => exact le_rfl
  | i64 number | string text | bytes content => exact Nat.succ_le_succ (Nat.zero_le _)
  | array values ih =>
    have hle := itemsNodes_le ih
    rw [CanonicalValue.nodes, CanonicalValue.image, List.length_cons, List.length_append]
    omega
  | object entries ih =>
    have hle := entriesNodes_le ih
    rw [CanonicalValue.nodes, CanonicalValue.image, List.length_cons, List.length_append]
    omega

theorem words_unlimited : CanonicalLimits.unlimited.Words :=
  ⟨by decide, by decide, by decide, by decide, by decide⟩

theorem CanonicalLimits.Words.under (h : limits.Words) : limits.Under .unlimited :=
  ⟨Nat.le_pred_of_lt h.depth, Nat.le_pred_of_lt h.nodes, Nat.le_pred_of_lt h.output,
    Nat.le_pred_of_lt h.strings, Nat.le_pred_of_lt h.items⟩

variable {limits' : CanonicalLimits}

theorem validateLimits_under (h : limits.Under limits') (hvalid : validateLimits limits = .ok ()) :
    validateLimits limits' = .ok () := by
  obtain ⟨hnodes, houtput, hstrings, hitems⟩ := require_ok.mp hvalid
  refine require_of ⟨?_, houtput.trans h.output, ?_, ?_⟩
  · exact (Nat.pos_of_ne_zero hnodes |>.trans_le h.nodes).ne'
  · exact (Nat.pos_of_ne_zero hstrings |>.trans_le h.strings).ne'
  · exact (Nat.pos_of_ne_zero hitems |>.trans_le h.items).ne'

theorem itemsSized_under (h : ∀ value ∈ values, value.Sized limits → value.Sized limits')
    (hsized : ItemsSized limits values) : ItemsSized limits' values := by
  induction values with
  | nil => trivial
  | cons child rest ih =>
    exact ⟨h child List.mem_cons_self hsized.1,
      ih (fun value hmem => h value (List.mem_cons_of_mem _ hmem)) hsized.2⟩

theorem entriesSized_under (hunder : limits.Under limits')
    (h : ∀ entry ∈ entries, entry.2.Sized limits → entry.2.Sized limits')
    (hsized : EntriesSized limits entries) : EntriesSized limits' entries := by
  induction entries with
  | nil => trivial
  | cons entry rest ih =>
    obtain ⟨⟨hkey, hlength⟩, hchild, hrest⟩ := hsized
    exact ⟨⟨hkey, hlength.trans hunder.strings⟩, h entry List.mem_cons_self hchild,
      ih (fun value hmem => h value (List.mem_cons_of_mem _ hmem)) hrest⟩

theorem sized_under (h : limits.Under limits') {value : CanonicalValue}
    (hsized : value.Sized limits) : value.Sized limits' := by
  induction value using CanonicalValue.children with
  | null | bool value | i64 number => trivial
  | string text | bytes content => exact hsized.trans h.strings
  | array values ih => exact ⟨hsized.1.trans h.items, itemsSized_under ih hsized.2⟩
  | object entries ih => exact ⟨hsized.1.trans h.items, entriesSized_under h ih hsized.2⟩

theorem encodeCanonical_unlimited :
    encodeCanonical frame .unlimited = .ok out ↔ frame.value.Sized .unlimited ∧
      frame.value.Measured ∧ out = frame.image ∧ out.length < 2 ^ 64 := by
  rw [encodeCanonical_iff words_unlimited]
  constructor
  · rintro ⟨_, _, _, hsized, hmeasured, hout, hroom⟩
    exact ⟨hsized, hmeasured, hout, Nat.lt_of_le_pred (by decide) hroom⟩
  · rintro ⟨hsized, hmeasured, rfl, hlength⟩
    have hnesting := nesting_lt_nodes frame.value
    have hnodes := nodes_le_image frame.value
    have himage : frame.value.image.length ≤ frame.image.length := by
      simp only [CanonicalFrame.image, List.length_append]
      omega
    have hroom := Nat.le_pred_of_lt hlength
    have hfits := (hnodes.trans himage).trans hroom
    exact ⟨rfl, hnesting.le.trans hfits, hfits, hsized, hmeasured, rfl, hroom⟩

theorem canonical_limits_exact (frame : CanonicalFrame) {limits : CanonicalLimits}
    (hwords : limits.Words) :
    (∀ out, encodeCanonical frame limits = .ok out ↔ validateLimits limits = .ok () ∧
      frame.value.nesting ≤ limits.maxDepth ∧ frame.value.nodes ≤ limits.maxNodes ∧
      frame.value.Sized limits ∧ encodeCanonical frame .unlimited = .ok out ∧
      out.length ≤ limits.maxOutputBytes) ∧
    (∀ out, encodeCanonical frame .unlimited = .ok out ↔ frame.value.Sized .unlimited ∧
      frame.value.Measured ∧ out = frame.image ∧ out.length < 2 ^ 64) ∧
    ∀ limits', limits.Under limits' → limits'.Words → ∀ out,
      encodeCanonical frame limits = .ok out → encodeCanonical frame limits' = .ok out := by
  refine ⟨fun out => ?_, fun _ => encodeCanonical_unlimited,
    fun limits' hunder hwords' out h => ?_⟩
  · rw [encodeCanonical_iff hwords, encodeCanonical_unlimited]
    constructor
    · rintro ⟨hvalid, hnesting, hnodes, hsized, hmeasured, hout, hroom⟩
      have hword := hwords.output
      exact ⟨hvalid, hnesting, hnodes, hsized,
        ⟨sized_under hwords.under hsized, hmeasured, hout, hroom.trans_lt hword⟩, hroom⟩
    · rintro ⟨hvalid, hnesting, hnodes, hsized, ⟨_, hmeasured, hout, _⟩, hroom⟩
      exact ⟨hvalid, hnesting, hnodes, hsized, hmeasured, hout, hroom⟩
  · rw [encodeCanonical_iff hwords] at h
    obtain ⟨hvalid, hnesting, hnodes, hsized, hmeasured, hout, hroom⟩ := h
    exact (encodeCanonical_iff hwords').mpr ⟨validateLimits_under hunder hvalid,
      hnesting.trans hunder.depth, hnodes.trans hunder.nodes, sized_under hunder hsized, hmeasured,
      hout, hroom.trans hunder.output⟩

theorem canonical_limits_exact_sample :
    encodeCanonical sampleFrame .unlimited = .ok sampleEncoding ∧
      sampleFrame.value.nodes ≤ 4096 := by
  have hwords : CanonicalLimits.default.Words :=
    ⟨by decide, by decide, by decide, by decide, by decide⟩
  have hencode : encodeCanonical sampleFrame .default = .ok sampleEncoding := by decide +kernel
  obtain ⟨_, _, hnodes, _, hunlimited, _⟩ :=
    ((canonical_limits_exact sampleFrame hwords).1 sampleEncoding).mp hencode
  exact ⟨hunlimited, hnodes⟩

end Canonical
