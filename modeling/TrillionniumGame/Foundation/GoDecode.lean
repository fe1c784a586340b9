import Mathlib.Data.List.Nodup
import TrillionniumGame.Foundation.JsonTree

namespace GoJson
open Checks GoText JsonText

abbrev Name := List Char

abbrev Member := List Piece × Tree

inductive Dest where
  | text
  | bool
  | uint (bits : Nat)
  | int (bits : Nat)
  | bytes
  | list (item : Dest)
  | pointer (target : Dest)
  | record (fields : List (Name × Dest))

abbrev Field := Name × Dest

inductive Held where
  | null
  | text (chars : List Char)
  | bool (value : Bool)
  | number (value : Int)
  | bytes (value : List UInt8)
  | list (items : List Held)
  | record (values : List (Name × Held))

mutual

def Dest.zero : Dest → Held
  | .text => .text []
  | .bool => .bool false
  | .uint _ => .number 0
  | .int _ => .number 0
  | .bytes => .null
  | .list _ => .null
  | .pointer _ => .null
  | .record fields => .record (zeroFields fields)

def zeroFields : List (Name × Dest) → List (Name × Held)
  | [] => []
  | (name, dest) :: rest => (name, dest.zero) :: zeroFields rest

end

def Dest.target : Dest → Dest
  | .pointer target => target.target
  | dest => dest

-- Two runes outside ASCII fold to a letter of it: U+017F to S and U+212A to K.
def foldRune (c : Char) : Char :=
  if c = '\u017F' then 'S' else if c = '\u212A' then 'K' else c.toUpper

def foldName (name : Name) : Name := name.map foldRune

def fieldOf (fields : List Field) (name : Name) : Option Field :=
  (fields.find? fun field => field.1 = name).or
    (fields.find? fun field => foldName field.1 = foldName name)

def Member.name (member : Member) : Name := joinPieces member.1

def parseUint (bits : Nat) (raw : List Char) : Option Nat :=
  if raw ≠ [] ∧ (∀ c ∈ raw, c.isDigit = true) ∧ Nat.ofDigitChars 10 raw 0 < 2 ^ bits then
    some (Nat.ofDigitChars 10 raw 0)
  else none

def parseInt (bits : Nat) (raw : List Char) : Option Int :=
  let digits := (takeSign ['-'] raw).2
  if digits ≠ [] ∧ (∀ c ∈ digits, c.isDigit = true) ∧
      -2 ^ (bits - 1) ≤ JsonText.parseInt raw ∧ JsonText.parseInt raw < 2 ^ (bits - 1) then
    some (JsonText.parseInt raw)
  else none

def mismatch (kind : String) : String := "json: cannot unmarshal " ++ kind ++ " into Go value"

def Held.items : Held → List Held
  | .list items => items
  | .bytes value => value.map fun byte => .number byte.toNat
  | _ => []

def Held.byte : Held → UInt8
  | .number value => UInt8.ofNat value.toNat
  | _ => 0

def Held.values (held : Held) (fields : List Field) : List (Name × Held) :=
  match held with
  | .record values => values
  | _ => zeroFields fields

def valueOf (values : List (Name × Held)) (field : Field) : Held :=
  ((values.find? fun value => value.1 = field.1).map Prod.snd).getD field.2.zero

def setValue (values : List (Name × Held)) (name : Name) (held : Held) : List (Name × Held) :=
  values.map fun value => if value.1 = name then (name, held) else value

def decodeNull (dest : Dest) (held : Held) : Held :=
  match dest with
  | .bytes => .null
  | .list _ => .null
  | .pointer _ => .null
  | _ => held

def decodeText (dest : Dest) (chars : List Char) : Except String Held :=
  match dest.target with
  | .text => .ok (.text chars)
  | .bytes => do
    let bytes ← fetch (decodeBase64 false chars) "illegal base64 data"
    return .bytes bytes
  | _ => .error (mismatch "string")

def decodeNumber (dest : Dest) (raw : List Char) : Except String Held :=
  match dest.target with
  | .uint bits => do
    let value ← fetch (parseUint bits raw) (mismatch "number")
    return .number value
  | .int bits => do
    let value ← fetch (parseInt bits raw) (mismatch "number")
    return .number value
  | _ => .error (mismatch "number")

mutual

-- What a destination holds when the value is there: what it held before stays where null meets it.
def decodeInto (dest : Dest) (held : Held) : Tree → Except String Held
  | .null => .ok (decodeNull dest held)
  | .bool value =>
    match dest.target with
    | .bool => .ok (.bool value)
    | _ => .error (mismatch "bool")
  | .text pieces => decodeText dest (joinPieces pieces)
  | .number raw => decodeNumber dest raw
  | .array items =>
    match dest.target with
    | .bytes => do
      let values ← decodeItems (.uint 8) held.items items
      return .bytes (values.map Held.byte)
    | .list item => do
      let values ← decodeItems item held.items items
      return .list values
    | _ => .error (mismatch "array")
  | .object members =>
    match dest.target with
    | .record fields => do
      let values ← decodeMembers fields (held.values fields) members
      return .record values
    | _ => .error (mismatch "object")

def decodeItems (item : Dest) (held : List Held) : List Tree → Except String (List Held)
  | [] => .ok []
  | tree :: rest => do
    let value ← decodeInto item (held.head?.getD item.zero) tree
    let values ← decodeItems item held.tail rest
    return value :: values

def decodeMembers (fields : List Field) (values : List (Name × Held)) :
    List Member → Except String (List (Name × Held))
  | [] => .ok values
  | (pieces, tree) :: rest => do
    let field ← fetch (fieldOf fields (joinPieces pieces)) "json: unknown field"
    let value ← decodeInto field.2 (valueOf values field) tree
    decodeMembers fields (setValue values field.1 value) rest

end

inductive Meets : Dest → Tree → List Field → List Member → Prop
  | here {dest : Dest} {fields : List Field} {members : List Member}
      (hdest : dest.target = .record fields) : Meets dest (.object members) fields members
  | item {dest item : Dest} {items : List Tree} {tree : Tree} {fields : List Field}
      {members : List Member} (hdest : dest.target = .list item) (hmem : tree ∈ items)
      (h : Meets item tree fields members) : Meets dest (.array items) fields members
  | member {dest : Dest} {outer fields : List Field} {all members : List Member}
      {member : Member} {field : Field} (hdest : dest.target = .record outer)
      (hmem : member ∈ all) (hfield : fieldOf outer member.name = some field)
      (h : Meets field.2 member.2 fields members) : Meets dest (.object all) fields members

variable {item : Dest} {items : List Tree} {tree : Tree}

theorem decodeItems_mem {held values : List Held} (h : decodeItems item held items = .ok values)
    (hmem : tree ∈ items) : ∃ before after, decodeInto item before tree = .ok after := by
  induction items generalizing held values with
  | nil => cases hmem
  | cons first rest ih =>
    simp only [decodeItems, bind_ok] at h
    obtain ⟨value, hvalue, others, hothers, -⟩ := h
    rcases List.mem_cons.mp hmem with rfl | hmem
    · exact ⟨_, _, hvalue⟩
    · exact ih hothers hmem

variable {fields : List Field} {members : List Member}

theorem decodeMembers_mem {values after : List (Name × Held)}
    (h : decodeMembers fields values members = .ok after) {member : Member}
    (hmem : member ∈ members) :
    ∃ field before held, fieldOf fields member.name = some field ∧
      decodeInto field.2 before member.2 = .ok held := by
  induction members generalizing values with
  | nil => cases hmem
  | cons first rest ih =>
    simp only [decodeMembers, bind_ok, fetch_ok] at h
    obtain ⟨field, hfield, value, hvalue, hrest⟩ := h
    rcases List.mem_cons.mp hmem with rfl | hmem
    · exact ⟨field, _, value, hfield, hvalue⟩
    · exact ih hrest hmem

variable {dest : Dest} {held after : Held}

theorem decodeInto_record (hdest : dest.target = .record fields)
    (h : decodeInto dest held (.object members) = .ok after) :
    ∃ values, decodeMembers fields (held.values fields) members = .ok values := by
  rw [decodeInto, hdest] at h
  obtain ⟨values, hvalues, -⟩ := bind_ok.mp h
  exact ⟨values, hvalues⟩

theorem decodeInto_list (hdest : dest.target = .list item)
    (h : decodeInto dest held (.array items) = .ok after) :
    ∃ values, decodeItems item held.items items = .ok values := by
  rw [decodeInto, hdest] at h
  obtain ⟨values, hvalues, -⟩ := bind_ok.mp h
  exact ⟨values, hvalues⟩

theorem Meets.decoded (h : Meets dest tree fields members)
    (hdecode : decodeInto dest held tree = .ok after) :
    ∃ before values, decodeMembers fields before members = .ok values := by
  induction h generalizing held after with
  | here hdest =>
    obtain ⟨values, hvalues⟩ := decodeInto_record hdest hdecode
    exact ⟨_, values, hvalues⟩
  | item hdest hmem _ ih =>
    obtain ⟨values, hvalues⟩ := decodeInto_list hdest hdecode
    obtain ⟨before, value, hvalue⟩ := decodeItems_mem hvalues hmem
    exact ih hvalue
  | member hdest hmem hfield _ ih =>
    obtain ⟨values, hvalues⟩ := decodeInto_record hdest hdecode
    obtain ⟨field, before, value, hsame, hvalue⟩ := decodeMembers_mem hvalues hmem
    rw [hfield] at hsame
    cases hsame
    exact ih hvalue

mutual

def Dest.distinct : Dest → Bool
  | .list item => item.distinct
  | .pointer target => target.distinct
  | .record fields => decide (fields.map fun field => foldName field.1).Nodup && allDistinct fields
  | _ => true

def allDistinct : List (Name × Dest) → Bool
  | [] => true
  | (_, dest) :: rest => dest.distinct && allDistinct rest

end

variable {fields : List Field} {field : Field}

theorem allDistinct_mem (h : allDistinct fields = true) (hmem : field ∈ fields) :
    field.2.distinct = true := by
  induction fields with
  | nil => cases hmem
  | cons first rest ih =>
    rw [allDistinct, Bool.and_eq_true] at h
    rcases List.mem_cons.mp hmem with rfl | hmem
    · exact h.1
    · exact ih h.2 hmem

variable {dest : Dest}

theorem Dest.distinct_target (h : dest.distinct = true) : dest.target.distinct = true := by
  fun_induction Dest.target dest with
  | case1 target ih => exact ih (by simpa only [Dest.distinct] using h)
  | case2 dest _ => exact h

variable {name : Name}

theorem fieldOf_mem (h : fieldOf fields name = some field) : field ∈ fields := by
  rcases Option.or_eq_some_iff.mp h with h | ⟨-, h⟩ <;> exact List.mem_of_find?_eq_some h

theorem foldName_fieldOf (h : fieldOf fields name = some field) :
    foldName field.1 = foldName name := by
  rcases Option.or_eq_some_iff.mp h with h | ⟨-, h⟩
  · have hname := List.find?_some h
    exact congrArg foldName (of_decide_eq_true hname)
  · have hname := List.find?_some h
    exact of_decide_eq_true hname

theorem Meets.distinct {tree : Tree} {members : List Member} (h : Meets dest tree fields members)
    (hdistinct : dest.distinct = true) : (fields.map fun field => foldName field.1).Nodup := by
  induction h with
  | here hdest =>
    have htarget := Dest.distinct_target hdistinct
    rw [hdest, Dest.distinct, Bool.and_eq_true] at htarget
    exact of_decide_eq_true htarget.1
  | item hdest _ _ ih =>
    have htarget := Dest.distinct_target hdistinct
    rw [hdest, Dest.distinct] at htarget
    exact ih htarget
  | member hdest _ hfield _ ih =>
    have htarget := Dest.distinct_target hdistinct
    rw [hdest, Dest.distinct, Bool.and_eq_true] at htarget
    exact ih (allDistinct_mem htarget.2 (fieldOf_mem hfield))

theorem fieldOf_iff {other : Name} (hdistinct : (fields.map fun field => foldName field.1).Nodup)
    (hname : fieldOf fields name = some field) {found : Field}
    (hother : fieldOf fields other = some found) :
    found = field ↔ foldName other = foldName name := by
  constructor
  · rintro rfl
    rw [← foldName_fieldOf hother, foldName_fieldOf hname]
  · intro hfold
    refine List.inj_on_of_nodup_map hdistinct (fieldOf_mem hother) (fieldOf_mem hname) ?_
    rw [foldName_fieldOf hother, foldName_fieldOf hname, hfold]

end GoJson
