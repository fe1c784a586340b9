import Mathlib.Data.List.Lex
import Mathlib.Data.List.Sort
import TrillionniumGame.Foundation.Framing
import TrillionniumGame.Foundation.Words
import TrillionniumGame.Persistence.Contracts

namespace Canonical
open Checks DigestTable GoText Persistence Words

def magic : GoString := str "TRNMCAN1"
def maxDomainBytes : Nat := 64
def tagNull : UInt8 := 0
def tagFalse : UInt8 := 1
def tagTrue : UInt8 := 2
def tagI64 : UInt8 := 3
def tagString : UInt8 := 4
def tagBytes : UInt8 := 5
def tagArray : UInt8 := 6
def tagObject : UInt8 := 7

structure CanonicalLimits where
  maxDepth : Nat
  maxNodes : Nat
  maxOutputBytes : Nat
  maxStringBytes : Nat
  maxCollectionItems : Nat

def CanonicalLimits.default : CanonicalLimits := ⟨32, 4096, 1024 * 1024, 64 * 1024, 4096⟩

inductive CanonicalValue where
  | null
  | bool (value : Bool)
  | i64 (number : Int64)
  | string (text : String)
  | bytes (bytes : List UInt8)
  | array (values : List CanonicalValue)
  | object (entries : List (String × CanonicalValue))

abbrev Entry := String × CanonicalValue

def invalid (reason : String) : DomainError := ⟨.invalidArgument, reason, .never⟩
def exhausted (reason : String) : DomainError := ⟨.resourceExhausted, reason, .never⟩
def counterOverflow : DomainError := ⟨.outOfRange, "canonical_counter_overflow", .never⟩

def keyOrder (key : String) : List Nat := (str key).map UInt8.toNat

def sortEntries (entries : List Entry) : List Entry :=
  entries.insertionSort fun left right => keyOrder left.1 ≤ keyOrder right.1

def adjacentKeys (entries : List Entry) : List (String × String) :=
  (entries.map Prod.fst).zip (entries.map Prod.fst).tail

-- `CanonicalObject::new`: the only way to the entries of an object.
def newObject (entries : List Entry) : Except DomainError (List Entry) := do
  require (∀ pair ∈ adjacentKeys (sortEntries entries), pair.1 ≠ pair.2)
    (invalid "duplicate_canonical_object_key")
  return sortEntries entries

def CanonicalValue.ofEntries (entries : List Entry) : Except DomainError CanonicalValue :=
  (newObject entries).map .object

def asciiLower (b : UInt8) : Bool := 0x61 ≤ b.toNat && b.toNat ≤ 0x7a
def asciiUpper (b : UInt8) : Bool := 0x41 ≤ b.toNat && b.toNat ≤ 0x5a
def asciiDigit (b : UInt8) : Bool := 0x30 ≤ b.toNat && b.toNat ≤ 0x39
def asciiAlphanumeric (b : UInt8) : Bool := asciiLower b || asciiUpper b || asciiDigit b

def validateDomain (domain : String) : Except DomainError Unit := do
  let bytes := str domain
  require (bytes ≠ [] ∧ bytes.length ≤ maxDomainBytes) (invalid "invalid_canonical_domain_length")
  require ((∀ b ∈ bytes.head?, asciiAlphanumeric b = true) ∧
    (∀ b ∈ bytes.getLast?, asciiAlphanumeric b = true) ∧
    ((0x2e, 0x2e) : UInt8 × UInt8) ∉ bytes.zip bytes.tail ∧
    ∀ b ∈ bytes, asciiLower b = true ∨ asciiDigit b = true ∨ b = 0x2e ∨ b = 0x5f ∨ b = 0x2d)
    (invalid "invalid_canonical_domain")

structure ProtocolVersion where
  major : UInt16
  minor : UInt16

structure CanonicalFrame where
  domain : String
  version : ProtocolVersion
  value : CanonicalValue
  validDomain : validateDomain domain = .ok ()
  validMajor : version.major ≠ 0

def validateLimits (limits : CanonicalLimits) : Except DomainError Unit :=
  require (limits.maxNodes ≠ 0 ∧ magic.length + 8 ≤ limits.maxOutputBytes ∧
    limits.maxStringBytes ≠ 0 ∧ limits.maxCollectionItems ≠ 0) (invalid "invalid_canonical_limits")

def validateString (text : String) (limits : CanonicalLimits) : Except DomainError Unit :=
  require ((str text).length ≤ limits.maxStringBytes) (exhausted "canonical_string_limit_exceeded")

def validateKey (key : String) (limits : CanonicalLimits) : Except DomainError Unit :=
  require (str key ≠ [] ∧ (str key).length ≤ limits.maxStringBytes)
    (invalid "invalid_canonical_object_key")

def validateCollectionLen (len : Nat) (limits : CanonicalLimits) : Except DomainError Unit :=
  require (len ≤ limits.maxCollectionItems) (exhausted "canonical_collection_limit_exceeded")

structure Encoder where
  limits : CanonicalLimits
  nodes : Nat
  output : GoString

namespace Encoder

def new (limits : CanonicalLimits) : Encoder := ⟨limits, 0, []⟩

variable (encoder : Encoder)

def ensureCapacity (additional : Nat) : Except DomainError Unit := do
  let next ← fetch (fits 64 (encoder.output.length + additional)) counterOverflow
  require (next ≤ encoder.limits.maxOutputBytes) (exhausted "canonical_output_limit_exceeded")

def extend (value : GoString) : Except DomainError Encoder := do
  encoder.ensureCapacity value.length
  return { encoder with output := encoder.output ++ value }

def push (value : UInt8) : Except DomainError Encoder := encoder.extend [value]

def writeRawU16 (value : Nat) : Except DomainError Encoder :=
  encoder.extend (bigEndian value 2)

def writeU16 (value : Nat) : Except DomainError Encoder := do
  let value ← fetch (fits 16 value) (exhausted "canonical_u16_length_exceeded")
  encoder.writeRawU16 value

def writeU32 (value : Nat) : Except DomainError Encoder := do
  let value ← fetch (fits 32 value) (exhausted "canonical_u32_length_exceeded")
  encoder.extend (bigEndian value 4)

def countNode (depth : Nat) : Except DomainError Encoder := do
  require (depth ≤ encoder.limits.maxDepth) (exhausted "canonical_depth_limit_exceeded")
  let nodes ← fetch (fits 64 (encoder.nodes + 1)) counterOverflow
  require (nodes ≤ encoder.limits.maxNodes) (exhausted "canonical_node_limit_exceeded")
  return { encoder with nodes := nodes }

def writeBlock (tag : UInt8) (bytes : GoString) : Except DomainError Encoder := do
  let encoder ← encoder.push tag
  let encoder ← encoder.writeU32 bytes.length
  encoder.extend bytes

def openCollection (tag : UInt8) (len : Nat) : Except DomainError Encoder := do
  validateCollectionLen len encoder.limits
  let encoder ← encoder.push tag
  encoder.writeU32 len

mutual

def writeValue (encoder : Encoder) (depth : Nat) : CanonicalValue → Except DomainError Encoder
  | .null => do
    let encoder ← encoder.countNode depth
    encoder.push tagNull
  | .bool value => do
    let encoder ← encoder.countNode depth
    encoder.push (if value then tagTrue else tagFalse)
  | .i64 number => do
    let encoder ← encoder.countNode depth
    let encoder ← encoder.push tagI64
    encoder.extend (bigEndian number.toUInt64.toNat 8)
  | .string text => do
    let encoder ← encoder.countNode depth
    validateString text encoder.limits
    encoder.writeBlock tagString (str text)
  | .bytes bytes => do
    let encoder ← encoder.countNode depth
    require (bytes.length ≤ encoder.limits.maxStringBytes)
      (exhausted "canonical_bytes_limit_exceeded")
    encoder.writeBlock tagBytes bytes
  | .array values => do
    let encoder ← encoder.countNode depth
    let encoder ← encoder.openCollection tagArray values.length
    let childDepth ← fetch (fits 64 (depth + 1)) counterOverflow
    writeItems encoder childDepth values
  | .object entries => do
    let encoder ← encoder.countNode depth
    let encoder ← encoder.openCollection tagObject entries.length
    let childDepth ← fetch (fits 64 (depth + 1)) counterOverflow
    writeEntries encoder childDepth entries

def writeItems (encoder : Encoder) (depth : Nat) :
    List CanonicalValue → Except DomainError Encoder
  | [] => .ok encoder
  | child :: rest => do
    let encoder ← writeValue encoder depth child
    writeItems encoder depth rest

def writeEntries (encoder : Encoder) (depth : Nat) :
    List (String × CanonicalValue) → Except DomainError Encoder
  | [] => .ok encoder
  | (key, child) :: rest => do
    validateKey key encoder.limits
    let encoder ← encoder.writeU32 (str key).length
    let encoder ← encoder.extend (str key)
    let encoder ← writeValue encoder depth child
    writeEntries encoder depth rest

end

end Encoder

def encodeCanonical (frame : CanonicalFrame) (limits : CanonicalLimits) :
    Except DomainError GoString := do
  validateLimits limits
  let encoder ← (Encoder.new limits).extend magic
  let encoder ← encoder.writeU16 (str frame.domain).length
  let encoder ← encoder.extend (str frame.domain)
  let encoder ← encoder.writeRawU16 frame.version.major.toNat
  let encoder ← encoder.writeRawU16 frame.version.minor.toNat
  let encoder ← encoder.writeValue 0 frame.value
  return encoder.output

open Framing

theorem CanonicalValue.children {P : CanonicalValue → Prop} (null : P .null)
    (bool : ∀ value, P (.bool value)) (i64 : ∀ number, P (.i64 number))
    (string : ∀ text, P (.string text)) (bytes : ∀ content, P (.bytes content))
    (array : ∀ values, (∀ value ∈ values, P value) → P (.array values))
    (object : ∀ entries : List Entry, (∀ entry ∈ entries, P entry.2) → P (.object entries))
    (value : CanonicalValue) : P value :=
  @CanonicalValue.rec P (fun values => ∀ value ∈ values, P value)
    (fun entries => ∀ entry ∈ entries, P entry.2) (fun entry => P entry.2) null bool i64 string
    bytes array object (List.forall_mem_nil _) forall_cons
    (List.forall_mem_nil _) forall_cons (fun _ _ => id) value

mutual

def CanonicalValue.image : CanonicalValue → GoString
  | .null => [tagNull]
  | .bool value => [if value then tagTrue else tagFalse]
  | .i64 number => tagI64 :: bigEndian number.toUInt64.toNat 8
  | .string text => tagString :: prefixed 4 (str text)
  | .bytes bytes => tagBytes :: prefixed 4 bytes
  | .array values => tagArray :: (bigEndian values.length 4 ++ itemsImage values)
  | .object entries => tagObject :: (bigEndian entries.length 4 ++ entriesImage entries)

def itemsImage : List CanonicalValue → GoString
  | [] => []
  | child :: rest => child.image ++ itemsImage rest

def entriesImage : List (String × CanonicalValue) → GoString
  | [] => []
  | (key, child) :: rest => prefixed 4 (str key) ++ (child.image ++ entriesImage rest)

end

mutual

def CanonicalValue.Measured : CanonicalValue → Prop
  | .string text => (str text).length < 256 ^ 4
  | .bytes bytes => bytes.length < 256 ^ 4
  | .array values => values.length < 256 ^ 4 ∧ ItemsMeasured values
  | .object entries => entries.length < 256 ^ 4 ∧ EntriesMeasured entries
  | _ => True

def ItemsMeasured : List CanonicalValue → Prop
  | [] => True
  | child :: rest => child.Measured ∧ ItemsMeasured rest

def EntriesMeasured : List (String × CanonicalValue) → Prop
  | [] => True
  | (key, child) :: rest => (str key).length < 256 ^ 4 ∧ child.Measured ∧ EntriesMeasured rest

end

theorem str_inj {s t : String} (h : str s = str t) : s = t :=
  String.toByteArray_inj.mp (ByteArray.ext (Array.toList_inj.mp h))

section Writers
variable {encoder encoder' : Encoder} {depth : Nat}

theorem extend_ok {value : GoString} (h : encoder.extend value = .ok encoder') :
    encoder'.output = encoder.output ++ value := by
  obtain ⟨⟨⟩, _, h⟩ := bind_ok.mp h
  cases h
  rfl

theorem writeU16_ok {value : Nat} (hwrite : encoder.writeU16 value = .ok encoder') :
    value < 256 ^ 2 ∧ encoder'.output = encoder.output ++ bigEndian value 2 := by
  obtain ⟨found, hfound, h⟩ := bind_ok.mp hwrite
  obtain ⟨hlt, rfl⟩ := fits_some.mp (fetch_ok.mp hfound)
  exact ⟨hlt, extend_ok h⟩

theorem writeU32_ok {value : Nat} (hwrite : encoder.writeU32 value = .ok encoder') :
    value < 256 ^ 4 ∧ encoder'.output = encoder.output ++ bigEndian value 4 := by
  obtain ⟨found, hfound, h⟩ := bind_ok.mp hwrite
  obtain ⟨hlt, rfl⟩ := fits_some.mp (fetch_ok.mp hfound)
  exact ⟨hlt, extend_ok h⟩

theorem countNode_ok (h : encoder.countNode depth = .ok encoder') :
    encoder'.output = encoder.output := by
  simp only [Encoder.countNode, bind_ok] at h
  obtain ⟨_, _, _, _, _, _, h⟩ := h
  cases h
  rfl

theorem writeBlock_ok {tag : UInt8} {bytes : GoString}
    (h : encoder.writeBlock tag bytes = .ok encoder') :
    bytes.length < 256 ^ 4 ∧ encoder'.output = encoder.output ++ tag :: prefixed 4 bytes := by
  simp only [Encoder.writeBlock, bind_ok] at h
  obtain ⟨first, hpush, second, hlength, h⟩ := h
  obtain ⟨hlt, hlength⟩ := writeU32_ok hlength
  refine ⟨hlt, ?_⟩
  rw [extend_ok h, hlength, extend_ok hpush, List.append_assoc, List.append_assoc]
  rfl

theorem openCollection_ok {tag : UInt8} {len : Nat}
    (h : encoder.openCollection tag len = .ok encoder') :
    len < 256 ^ 4 ∧ encoder'.output = encoder.output ++ tag :: bigEndian len 4 := by
  simp only [Encoder.openCollection, bind_ok] at h
  obtain ⟨_, _, first, hpush, h⟩ := h
  obtain ⟨hlt, hlength⟩ := writeU32_ok h
  refine ⟨hlt, ?_⟩
  rw [hlength, extend_ok hpush, List.append_assoc]
  rfl

def Writes (value : CanonicalValue) : Prop :=
  ∀ {encoder encoder' : Encoder} {depth : Nat}, encoder.writeValue depth value = .ok encoder' →
    encoder'.output = encoder.output ++ value.image ∧ value.Measured

theorem writeItems_ok {values : List CanonicalValue} (hwrites : ∀ value ∈ values, Writes value)
    (h : encoder.writeItems depth values = .ok encoder') :
    encoder'.output = encoder.output ++ itemsImage values ∧ ItemsMeasured values := by
  induction values generalizing encoder with
  | nil =>
    cases h
    exact ⟨(List.append_nil _).symm, trivial⟩
  | cons child rest ih =>
    obtain ⟨next, hchild, hrest⟩ := bind_ok.mp h
    obtain ⟨houtput, hmeasured⟩ := hwrites child (by simp) hchild
    obtain ⟨htail, hmeasures⟩ := ih (fun value hvalue => hwrites value (by simp [hvalue])) hrest
    exact ⟨by rw [htail, houtput, List.append_assoc, itemsImage], hmeasured, hmeasures⟩

theorem writeEntries_ok {entries : List Entry} (hwrites : ∀ entry ∈ entries, Writes entry.2)
    (h : encoder.writeEntries depth entries = .ok encoder') :
    encoder'.output = encoder.output ++ entriesImage entries ∧ EntriesMeasured entries := by
  induction entries generalizing encoder with
  | nil =>
    cases h
    exact ⟨(List.append_nil _).symm, trivial⟩
  | cons entry rest ih =>
    simp only [Encoder.writeEntries, bind_ok] at h
    obtain ⟨_, _, first, hlength, second, hkey, third, hchild, hrest⟩ := h
    obtain ⟨hlt, hlength⟩ := writeU32_ok hlength
    obtain ⟨houtput, hmeasured⟩ := hwrites entry (by simp) hchild
    obtain ⟨htail, hmeasures⟩ := ih (fun value hvalue => hwrites value (by simp [hvalue])) hrest
    refine ⟨?_, hlt, hmeasured, hmeasures⟩
    rw [htail, houtput, extend_ok hkey, hlength, entriesImage, prefixed]
    simp only [List.append_assoc]

theorem writes (value : CanonicalValue) : Writes value := by
  induction value using CanonicalValue.children with
  | null | bool value =>
    intro encoder encoder' depth h
    obtain ⟨next, hnode, h⟩ := bind_ok.mp h
    exact ⟨by rw [extend_ok h, countNode_ok hnode]; rfl, trivial⟩
  | i64 number =>
    intro encoder encoder' depth h
    simp only [Encoder.writeValue, bind_ok] at h
    obtain ⟨first, hnode, second, hpush, h⟩ := h
    refine ⟨?_, trivial⟩
    rw [extend_ok h, extend_ok hpush, countNode_ok hnode, List.append_assoc]
    rfl
  | string text | bytes content =>
    intro encoder encoder' depth h
    simp only [Encoder.writeValue, bind_ok] at h
    obtain ⟨first, hnode, _, _, h⟩ := h
    obtain ⟨hlt, houtput⟩ := writeBlock_ok h
    exact ⟨by rw [houtput, countNode_ok hnode]; rfl, hlt⟩
  | array values ih =>
    intro encoder encoder' depth h
    simp only [Encoder.writeValue, bind_ok] at h
    obtain ⟨first, hnode, second, hopen, childDepth, _, h⟩ := h
    obtain ⟨hlt, hopen⟩ := openCollection_ok hopen
    obtain ⟨houtput, hmeasured⟩ := writeItems_ok (fun value hvalue => ih value hvalue) h
    refine ⟨?_, hlt, hmeasured⟩
    rw [houtput, hopen, countNode_ok hnode, List.append_assoc]
    rfl
  | object entries ih =>
    intro encoder encoder' depth h
    simp only [Encoder.writeValue, bind_ok] at h
    obtain ⟨first, hnode, second, hopen, childDepth, _, h⟩ := h
    obtain ⟨hlt, hopen⟩ := openCollection_ok hopen
    obtain ⟨houtput, hmeasured⟩ := writeEntries_ok (fun entry hentry => ih entry hentry) h
    refine ⟨?_, hlt, hmeasured⟩
    rw [houtput, hopen, countNode_ok hnode, List.append_assoc]
    rfl

end Writers

def Peels (value : CanonicalValue) : Prop :=
  ∀ {other : CanonicalValue} {r r' : GoString}, value.Measured → other.Measured →
    value.image ++ r = other.image ++ r' → value = other ∧ r = r'

variable {r r' : GoString}

theorem itemsImage_peel {values others : List CanonicalValue}
    (hpeels : ∀ value ∈ values, Peels value) (hlength : values.length = others.length)
    (hvalues : ItemsMeasured values) (hothers : ItemsMeasured others)
    (h : itemsImage values ++ r = itemsImage others ++ r') : values = others ∧ r = r' := by
  induction values generalizing others with
  | nil =>
    cases List.length_eq_zero_iff.mp hlength.symm
    exact ⟨rfl, h⟩
  | cons value rest ih =>
    cases others with
    | nil => cases hlength
    | cons other others =>
      rw [itemsImage, itemsImage, List.append_assoc, List.append_assoc] at h
      obtain ⟨rfl, htail⟩ := hpeels value (by simp) hvalues.1 hothers.1 h
      obtain ⟨rfl, hr⟩ := ih (fun value hvalue => hpeels value (by simp [hvalue]))
        (Nat.succ.inj hlength) hvalues.2 hothers.2 htail
      exact ⟨rfl, hr⟩

variable {entries others : List Entry}

theorem entriesImage_peel (hpeels : ∀ entry ∈ entries, Peels entry.2)
    (hlength : entries.length = others.length) (hentries : EntriesMeasured entries)
    (hothers : EntriesMeasured others) (h : entriesImage entries ++ r = entriesImage others ++ r') :
    entries = others ∧ r = r' := by
  induction entries generalizing others with
  | nil =>
    cases List.length_eq_zero_iff.mp hlength.symm
    exact ⟨rfl, h⟩
  | cons entry rest ih =>
    cases others with
    | nil => cases hlength
    | cons other others =>
      obtain ⟨key, value⟩ := entry
      obtain ⟨key', value'⟩ := other
      simp only [entriesImage, List.append_assoc] at h
      obtain ⟨hkey, hvalue⟩ := prefixed_peel hentries.1 hothers.1 h
      cases str_inj hkey
      obtain ⟨rfl, htail⟩ := hpeels (key, value) (by simp) hentries.2.1 hothers.2.1 hvalue
      obtain ⟨rfl, hr⟩ := ih (fun entry hentry => hpeels entry (by simp [hentry]))
        (Nat.succ.inj hlength) hentries.2.2 hothers.2.2 htail
      exact ⟨rfl, hr⟩

def CanonicalValue.tag : CanonicalValue → UInt8
  | .null => tagNull
  | .bool value => if value then tagTrue else tagFalse
  | .i64 _ => tagI64
  | .string _ => tagString
  | .bytes _ => tagBytes
  | .array _ => tagArray
  | .object _ => tagObject

theorem image_tag (value : CanonicalValue) : ∃ body, value.image = value.tag :: body := by
  cases value with
  | null | bool value | i64 number | string text | bytes content | array values | object entries =>
    exact ⟨_, rfl⟩

variable {value other : CanonicalValue}

theorem tag_of_image (h : value.image ++ r = other.image ++ r') : value.tag = other.tag := by
  obtain ⟨body, hbody⟩ := image_tag value
  obtain ⟨body', hbody'⟩ := image_tag other
  rw [hbody, hbody'] at h
  exact (List.cons.inj h).1

def CanonicalValue.Kind : CanonicalValue → CanonicalValue → Prop
  | .null, other => other = .null
  | .bool value, other => other = .bool value
  | .i64 _, other => ∃ number, other = .i64 number
  | .string _, other => ∃ text, other = .string text
  | .bytes _, other => ∃ content, other = .bytes content
  | .array _, other => ∃ values, other = .array values
  | .object _, other => ∃ entries, other = .object entries

theorem kind_of_tag (h : value.tag = other.tag) : value.Kind other := by
  rcases value with _ | ⟨_ | _⟩ | _ | _ | _ | _ | _ <;>
    rcases other with _ | ⟨_ | _⟩ | _ | _ | _ | _ | _ <;>
    simp_all [CanonicalValue.Kind, CanonicalValue.tag, tagNull, tagFalse, tagTrue, tagI64,
      tagString, tagBytes, tagArray, tagObject]

theorem peels (value : CanonicalValue) : Peels value := by
  induction value using CanonicalValue.children with
  | null | bool value =>
    intro other r r' _ _ h
    cases kind_of_tag (tag_of_image h)
    exact ⟨rfl, (List.cons.inj h).2⟩
  | i64 number =>
    intro other r r' _ _ h
    obtain ⟨number', rfl⟩ := kind_of_tag (tag_of_image h)
    have hbound : ∀ number : Int64, number.toUInt64.toNat < 256 ^ 8 := fun number =>
      number.toUInt64.toNat_lt
    obtain ⟨hnumber, hr⟩ := bigEndian_peel (hbound number) (hbound number') (List.cons.inj h).2
    have hword : number.toUInt64 = number'.toUInt64 := UInt64.toNat_inj.mp hnumber
    have hsame := congrArg UInt64.toInt64 hword
    rw [Int64.toInt64_toUInt64, Int64.toInt64_toUInt64] at hsame
    exact ⟨by rw [hsame], hr⟩
  | string text =>
    intro other r r' hvalue hother h
    obtain ⟨text', rfl⟩ := kind_of_tag (tag_of_image h)
    obtain ⟨htext, hr⟩ := prefixed_peel hvalue hother (List.cons.inj h).2
    exact ⟨by rw [str_inj htext], hr⟩
  | bytes content =>
    intro other r r' hvalue hother h
    obtain ⟨content', rfl⟩ := kind_of_tag (tag_of_image h)
    obtain ⟨rfl, hr⟩ := prefixed_peel hvalue hother (List.cons.inj h).2
    exact ⟨rfl, hr⟩
  | array values ih =>
    intro other r r' hvalue hother h
    obtain ⟨values', rfl⟩ := kind_of_tag (tag_of_image h)
    simp only [CanonicalValue.image, List.cons_append, List.append_assoc] at h
    obtain ⟨hlength, hitems⟩ := bigEndian_peel hvalue.1 hother.1 (List.cons.inj h).2
    obtain ⟨rfl, hr⟩ := itemsImage_peel (fun value hmem => ih value hmem) hlength hvalue.2 hother.2
      hitems
    exact ⟨rfl, hr⟩
  | object entries ih =>
    intro other r r' hvalue hother h
    obtain ⟨entries', rfl⟩ := kind_of_tag (tag_of_image h)
    simp only [CanonicalValue.image, List.cons_append, List.append_assoc] at h
    obtain ⟨hlength, hitems⟩ := bigEndian_peel hvalue.1 hother.1 (List.cons.inj h).2
    obtain ⟨rfl, hr⟩ := entriesImage_peel (fun entry hmem => ih entry hmem) hlength hvalue.2
      hother.2 hitems
    exact ⟨rfl, hr⟩

def CanonicalFrame.image (frame : CanonicalFrame) : GoString :=
  magic ++ (prefixed 2 (str frame.domain) ++ (bigEndian frame.version.major.toNat 2 ++
    (bigEndian frame.version.minor.toNat 2 ++ frame.value.image)))

variable {frame : CanonicalFrame} {limits : CanonicalLimits} {out : GoString}

theorem encodeCanonical_ok (h : encodeCanonical frame limits = .ok out) :
    out = frame.image ∧ (str frame.domain).length < 256 ^ 2 ∧ frame.value.Measured := by
  simp only [encodeCanonical, bind_ok] at h
  obtain ⟨_, _, first, hmagic, second, hlength, third, hdomain, fourth, hmajor, fifth, hminor,
    last, hvalue, h⟩ := h
  cases h
  obtain ⟨hlt, hlength⟩ := writeU16_ok hlength
  obtain ⟨houtput, hmeasured⟩ := writes frame.value hvalue
  refine ⟨?_, hlt, hmeasured⟩
  rw [houtput, extend_ok hminor, extend_ok hmajor, extend_ok hdomain, hlength, extend_ok hmagic,
    CanonicalFrame.image, prefixed]
  simp only [Encoder.new, List.nil_append, List.append_assoc]

theorem frame_peel {other : CanonicalFrame} {limits' : CanonicalLimits} {out' : GoString}
    (h : encodeCanonical frame limits = .ok out) (h' : encodeCanonical other limits' = .ok out')
    (hleads : out <+: out') : frame = other ∧ out = out' := by
  obtain ⟨rfl, hdomain, hmeasured⟩ := encodeCanonical_ok h
  obtain ⟨rfl, hdomain', hmeasured'⟩ := encodeCanonical_ok h'
  obtain ⟨rest, hrest⟩ := hleads
  rw [← List.append_nil other.image] at hrest
  simp only [CanonicalFrame.image, List.append_assoc] at hrest
  have hbound : ∀ number : UInt16, number.toNat < 256 ^ 2 := fun number => number.toNat_lt
  have hbody := List.append_cancel_left hrest
  obtain ⟨hname, hbody⟩ := prefixed_peel hdomain hdomain' hbody
  obtain ⟨hmajor, hbody⟩ := bigEndian_peel (hbound _) (hbound _) hbody
  obtain ⟨hminor, hbody⟩ := bigEndian_peel (hbound _) (hbound _) hbody
  obtain ⟨hvalue, -⟩ := peels frame.value hmeasured hmeasured' hbody
  have hframe : frame = other := by
    obtain ⟨domain, ⟨major, minor⟩, value, _, _⟩ := frame
    obtain ⟨domain', ⟨major', minor'⟩, value', _, _⟩ := other
    obtain rfl : domain = domain' := str_inj hname
    obtain rfl : major = major' := UInt16.toNat_inj.mp hmajor
    obtain rfl : minor = minor' := UInt16.toNat_inj.mp hminor
    obtain rfl : value = value' := hvalue
    rfl
  exact ⟨hframe, by rw [hframe]⟩

theorem keyOrder_inj {key key' : String} (h : keyOrder key = keyOrder key') : key = key' :=
  str_inj (List.map_injective_iff.mpr (fun _ _ => UInt8.toNat_inj.mp) h)

theorem sortEntries_perm (entries : List Entry) : (sortEntries entries).Perm entries :=
  List.perm_insertionSort _ entries

theorem sortEntries_sorted (entries : List Entry) :
    (sortEntries entries).Pairwise fun left right => keyOrder left.1 ≤ keyOrder right.1 := by
  have htotal : Std.Total fun left right : Entry => keyOrder left.1 ≤ keyOrder right.1 :=
    ⟨fun left right => le_total _ _⟩
  have htrans : IsTrans Entry fun left right => keyOrder left.1 ≤ keyOrder right.1 :=
    ⟨fun _ _ _ => le_trans⟩
  exact List.pairwise_insertionSort _ entries

theorem chain_of_adjacent {α : Type} {xs : List α} :
    (∀ pair ∈ xs.zip xs.tail, pair.1 ≠ pair.2) ↔ xs.IsChain (· ≠ ·) := by
  induction xs with
  | nil => simp
  | cons x rest ih =>
    cases rest with
    | nil => simp
    | cons y rest =>
      rw [List.isChain_cons_cons, ← ih, List.tail_cons, List.zip_cons_cons, List.forall_mem_cons]
      rfl

theorem nodup_of_sorted {keys : List String}
    (hsorted : keys.Pairwise fun left right => keyOrder left ≤ keyOrder right)
    (hchain : keys.IsChain (· ≠ ·)) : keys.Nodup := by
  induction keys with
  | nil => exact List.nodup_nil
  | cons first rest ih =>
    cases rest with
    | nil => exact List.nodup_singleton first
    | cons second rest =>
      rw [List.isChain_cons_cons] at hchain
      have htail := ih hsorted.of_cons hchain.2
      refine List.nodup_cons.mpr ⟨fun hmem => ?_, htail⟩
      have hfirst := (List.pairwise_cons.mp hsorted).1 second (by simp)
      have hlt : keyOrder first < keyOrder second :=
        lt_of_le_of_ne hfirst fun heq => hchain.1 (keyOrder_inj heq)
      rcases List.mem_cons.mp hmem with heq | hmem
      · exact hchain.1 heq
      · have hle := (List.pairwise_cons.mp hsorted.of_cons).1 first hmem
        exact absurd hle (not_le.mpr hlt)

theorem adjacent_iff (entries : List Entry) :
    (∀ pair ∈ adjacentKeys (sortEntries entries), pair.1 ≠ pair.2) ↔
      (entries.map Prod.fst).Nodup := by
  have hperm := (sortEntries_perm entries).map Prod.fst
  rw [← hperm.nodup_iff, adjacentKeys, chain_of_adjacent]
  constructor
  · intro hchain
    exact nodup_of_sorted (List.pairwise_map.mpr (sortEntries_sorted entries)) hchain
  · intro hnodup
    exact List.Pairwise.isChain hnodup

theorem newObject_ok {object : List Entry} :
    newObject entries = .ok object ↔ (entries.map Prod.fst).Nodup ∧ object = sortEntries entries := by
  rw [← adjacent_iff, newObject, bind_ok]
  constructor
  · rintro ⟨⟨⟩, hcheck, h⟩
    cases h
    exact ⟨require_ok.mp hcheck, rfl⟩
  · rintro ⟨hcheck, rfl⟩
    exact ⟨(), require_ok.mpr hcheck, rfl⟩

theorem sortEntries_eq (hperm : entries.Perm others) (hnodup : (entries.map Prod.fst).Nodup) :
    sortEntries entries = sortEntries others := by
  have hsorted := ((sortEntries_perm entries).trans hperm).trans (sortEntries_perm others).symm
  refine hsorted.eq_of_pairwise (fun left right hleft hright hle hge => ?_)
    (sortEntries_sorted entries) (sortEntries_sorted others)
  have hkey : left.1 = right.1 := keyOrder_inj (le_antisymm hle hge)
  have hleft' := (sortEntries_perm entries).mem_iff.mp hleft
  have hright' := hperm.mem_iff.mpr ((sortEntries_perm others).mem_iff.mp hright)
  exact List.inj_on_of_nodup_map hnodup hleft' hright' hkey

theorem newObject_perm (hperm : entries.Perm others) : newObject entries = newObject others := by
  by_cases hnodup : (entries.map Prod.fst).Nodup
  · have hnodup' := (hperm.map Prod.fst).nodup_iff.mp hnodup
    rw [newObject_ok.mpr ⟨hnodup, rfl⟩, newObject_ok.mpr ⟨hnodup', sortEntries_eq hperm hnodup⟩]
  · have hnodup' : ¬ (others.map Prod.fst).Nodup := fun h =>
      hnodup ((hperm.map Prod.fst).nodup_iff.mpr h)
    rw [← adjacent_iff] at hnodup hnodup'
    simp only [newObject, require, if_neg hnodup, if_neg hnodup']
    rfl

theorem newObject_error :
    (∃ error, newObject entries = .error error) ↔ ¬ (entries.map Prod.fst).Nodup := by
  constructor
  · rintro ⟨error, herror⟩ hnodup
    rw [newObject_ok.mpr ⟨hnodup, rfl⟩] at herror
    cases herror
  · intro hnodup
    cases hnew : newObject entries with
    | error error => exact ⟨error, rfl⟩
    | ok object => exact absurd (newObject_ok.mp hnew).1 hnodup

theorem newObject_set {object object' : List Entry} (h : newObject entries = .ok object)
    (h' : newObject others = .ok object') (hsame : ∀ entry, entry ∈ entries ↔ entry ∈ others) :
    object = object' := by
  have hnodup := (newObject_ok.mp h).1.of_map
  have hnodup' := (newObject_ok.mp h').1.of_map
  have hperm : entries.Perm others := (List.perm_ext_iff_of_nodup hnodup hnodup').mpr hsame
  rw [newObject_perm hperm, h'] at h
  exact (Except.ok.inj h).symm

theorem canonical_encoding_unambiguous {frame other : CanonicalFrame}
    {limits limits' : CanonicalLimits} {out out' : GoString}
    (h : encodeCanonical frame limits = .ok out) (h' : encodeCanonical other limits' = .ok out') :
    (out = out' → frame = other) ∧ (out <+: out' → out = out') ∧
    (∀ entries others : List Entry, entries.Perm others →
      CanonicalValue.ofEntries entries = CanonicalValue.ofEntries others) ∧
    (∀ (entries others : List Entry) (value value' : CanonicalValue),
      CanonicalValue.ofEntries entries = .ok value → CanonicalValue.ofEntries others = .ok value' →
      (∀ entry, entry ∈ entries ↔ entry ∈ others) → value = value') ∧
    (∀ entries : List Entry, (∃ error, CanonicalValue.ofEntries entries = .error error) ↔
      ¬ (entries.map Prod.fst).Nodup) := by
  refine ⟨fun heq => ?_, fun hleads => (frame_peel h h' hleads).2, fun entries others hperm => ?_,
    fun entries others value value' hvalue hvalue' hsame => ?_, fun entries => ?_⟩
  · exact (frame_peel h h' (heq ▸ List.prefix_rfl)).1
  · rw [CanonicalValue.ofEntries, CanonicalValue.ofEntries, newObject_perm hperm]
  · unfold CanonicalValue.ofEntries at hvalue hvalue'
    obtain ⟨object, hobject, rfl⟩ := map_ok.mp hvalue
    obtain ⟨object', hobject', rfl⟩ := map_ok.mp hvalue'
    rw [newObject_set hobject hobject' hsame]
  · rw [← newObject_error, CanonicalValue.ofEntries]
    cases newObject entries with
    | error error | ok object => simp [Except.map]

def sampleEntries : List Entry := [("b", .bool true), ("a", .i64 1)]

def sampleFrame : CanonicalFrame where
  domain := "match.command"
  version := ⟨1, 0⟩
  value := .object (sortEntries sampleEntries)
  validDomain := by decide +kernel
  validMajor := by decide

def sampleEncoding : GoString :=
  [0x54, 0x52, 0x4e, 0x4d, 0x43, 0x41, 0x4e, 0x31, 0x00, 0x0d, 0x6d, 0x61, 0x74, 0x63, 0x68, 0x2e,
    0x63, 0x6f, 0x6d, 0x6d, 0x61, 0x6e, 0x64, 0x00, 0x01, 0x00, 0x00, 0x07, 0x00, 0x00, 0x00, 0x02,
    0x00, 0x00, 0x00, 0x01, 0x61, 0x03, 0x00, 0x00, 0x00, 0x00, 0x00, 0x00, 0x00, 0x01, 0x00, 0x00,
    0x00, 0x01, 0x62, 0x02]

theorem canonical_encoding_unambiguous_sample :
    encodeCanonical sampleFrame .default = .ok sampleEncoding ∧
      (sampleEncoding <+: sampleEncoding → sampleEncoding = sampleEncoding) := by
  have hencode : encodeCanonical sampleFrame .default = .ok sampleEncoding := by decide +kernel
  exact ⟨hencode, (canonical_encoding_unambiguous hencode hencode).2.1⟩

end Canonical
