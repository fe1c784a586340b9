import TrillionniumGame.Foundation.Checks
import TrillionniumGame.Foundation.GoJson

namespace JsonText
open Checks GoJson GoText

section
def isSpace (c : Char) : Bool := c = ' ' || c = '\t' || c = '\r' || c = '\n'

def skipSpace (cs : List Char) : List Char := cs.dropWhile JsonText.isSpace

inductive Piece where
  | char (c : Char)
  | unit (n : Nat)

def hexNat (c : Char) : Option Nat :=
  if '0' ≤ c ∧ c ≤ '9' then some (c.toNat - 0x30)
  else if 'a' ≤ c ∧ c ≤ 'f' then some (c.toNat - 0x57)
  else if 'A' ≤ c ∧ c ≤ 'F' then some (c.toNat - 0x37)
  else none

def hexUnit (a b c d : Char) : Option Nat := do
  return (← hexNat a) * 4096 + (← hexNat b) * 256 + (← hexNat c) * 16 + (← hexNat d)

def simpleEscape (c : Char) : Option Char :=
  if c = '"' ∨ c = '\\' ∨ c = '/' then some c
  else if c = 'b' then some '\x08'
  else if c = 'f' then some '\x0c'
  else if c = 'n' then some '\n'
  else if c = 'r' then some '\r'
  else if c = 't' then some '\t'
  else none

def Piece.before (piece : Piece) (rest : Except String (List Piece × List Char)) :
    Except String (List Piece × List Char) :=
  rest.map fun (pieces, tail) => (piece :: pieces, tail)

def scanString : List Char → Except String (List Piece × List Char)
  | [] => .error "unexpected EOF"
  | '"' :: rest => .ok ([], rest)
  | '\\' :: 'u' :: a :: b :: c :: d :: rest => do
    let n ← fetch (hexUnit a b c d) "invalid character in \\u hexadecimal character escape"
    (Piece.unit n).before (scanString rest)
  | '\\' :: e :: rest => do
    let c ← fetch (simpleEscape e) "invalid character in string escape code"
    (Piece.char c).before (scanString rest)
  | c :: rest => do
    require (0x20 ≤ c.toNat ∧ c ≠ '\\') "invalid character in string literal"
    (Piece.char c).before (scanString rest)

def highSurrogate (n : Nat) : Bool := 0xD800 ≤ n && n ≤ 0xDBFF

def lowSurrogate (n : Nat) : Bool := 0xDC00 ≤ n && n ≤ 0xDFFF

def loneUnit (n : Nat) : Char := if highSurrogate n || lowSurrogate n then runeError else Char.ofNat n

def joinPieces : List Piece → List Char
  | [] => []
  | .char c :: rest => c :: joinPieces rest
  | [.unit n] => [loneUnit n]
  | .unit n :: .char c :: rest => loneUnit n :: c :: joinPieces rest
  | .unit n :: .unit m :: rest =>
    if highSurrogate n && lowSurrogate m then
      Char.ofNat ((n - 0xD800) * 0x400 + (m - 0xDC00) + 0x10000) :: joinPieces rest
    else loneUnit n :: joinPieces (.unit m :: rest)

def takeDigits (cs : List Char) : Except String (List Char × List Char) := do
  require (cs.takeWhile Char.isDigit ≠ []) "invalid character in numeric literal"
  return (cs.takeWhile Char.isDigit, cs.dropWhile Char.isDigit)

def takeSign (signs : List Char) : List Char → List Char × List Char
  | [] => ([], [])
  | c :: rest => if c ∈ signs then ([c], rest) else ([], c :: rest)

def takeWhole : List Char → Except String (List Char × List Char)
  | '0' :: rest => .ok (['0'], rest)
  | cs => takeDigits cs

def takeFraction : List Char → Except String (List Char × List Char)
  | '.' :: rest => do
    let (digits, rest) ← takeDigits rest
    return ('.' :: digits, rest)
  | cs => .ok ([], cs)

def takeExponent : List Char → Except String (List Char × List Char)
  | [] => .ok ([], [])
  | c :: rest =>
    if c = 'e' ∨ c = 'E' then do
      let (sign, rest) := takeSign ['+', '-'] rest
      let (digits, rest) ← takeDigits rest
      return (c :: sign ++ digits, rest)
    else .ok ([], c :: rest)

def scanNumber (cs : List Char) : Except String (List Char × List Char) := do
  let (sign, cs) := takeSign ['-'] cs
  let (whole, cs) ← takeWhole cs
  let (fraction, cs) ← takeFraction cs
  let (exponent, cs) ← takeExponent cs
  return (sign ++ whole ++ fraction ++ exponent, cs)

def scanWord (word cs : List Char) : Except String (List Char) := do
  require (word <+: cs) "invalid character in literal"
  return cs.drop word.length

def parseInt : List Char → Int
  | '-' :: digits => -(Nat.ofDigitChars 10 digits 0 : Nat)
  | digits => (Nat.ofDigitChars 10 digits 0 : Nat)

def Ends (rest : List Char) : Prop := ∀ c ∈ rest.head?, c = ',' ∨ c = ']' ∨ c = '}'

theorem Ends.nil : Ends [] := by simp [Ends]

theorem Ends.cons {c : Char} {rest : List Char} (h : c = ',' ∨ c = ']' ∨ c = '}') :
    Ends (c :: rest) := by simpa [Ends] using h

variable {rest : List Char}

theorem Ends.not_digit (h : Ends rest) : ∀ c ∈ rest.head?, c.isDigit = false := by
  intro c hc
  rcases h c hc with rfl | rfl | rfl <;> decide

variable {n : Nat}

theorem decimal_head (h : 0 < n) : ∃ c tail, decimal n = c :: tail ∧ c ≠ '0' := by
  induction n using Nat.strong_induction_on with
  | _ n ih =>
    by_cases hlt : n < 10
    · refine ⟨n.digitChar, [], Nat.toDigits_of_lt_base hlt, ?_⟩
      have hall : ∀ n < 10, 0 < n → n.digitChar ≠ '0' := by decide
      exact hall n hlt h
    · obtain ⟨c, tail, hdigits, hc⟩ := ih (n / 10) (by omega) (by omega)
      refine ⟨c, tail ++ [(n % 10).digitChar], ?_, hc⟩
      rw [decimal, Nat.toDigits_of_base_le (by omega) (by omega)]
      exact congrArg (· ++ [(n % 10).digitChar]) hdigits

theorem decimal_digits (n : Nat) : ∀ c ∈ decimal n, c.isDigit = true := fun _ hc =>
  Nat.isDigit_of_mem_toDigits (by omega) (by omega) hc

theorem takeDigits_append {digits : List Char} (hne : digits ≠ [])
    (hdigits : ∀ c ∈ digits, c.isDigit = true) (hrest : Ends rest) :
    takeDigits (digits ++ rest) = .ok (digits, rest) := by
  have hstop : rest.takeWhile Char.isDigit = [] ∧ rest.dropWhile Char.isDigit = rest := by
    cases rest with
    | nil => exact ⟨rfl, rfl⟩
    | cons c tail =>
      have hc := hrest.not_digit c rfl
      exact ⟨List.takeWhile_cons_of_neg (by simp [hc]), List.dropWhile_cons_of_neg (by simp [hc])⟩
  have htake : (digits ++ rest).takeWhile Char.isDigit = digits := by
    rw [List.takeWhile_append_of_pos hdigits, hstop.1, List.append_nil]
  have hdrop : (digits ++ rest).dropWhile Char.isDigit = rest := by
    rw [List.dropWhile_append_of_pos hdigits, hstop.2]
  rw [takeDigits, htake, hdrop]
  exact bind_ok.mpr ⟨(), require_ok.mpr hne, rfl⟩

theorem takeWhole_decimal (n : Nat) (h : Ends rest) :
    takeWhole (decimal n ++ rest) = .ok (decimal n, rest) := by
  rcases Nat.eq_zero_or_pos n with rfl | hpos
  · rfl
  · obtain ⟨c, tail, hdecimal, hc⟩ := decimal_head hpos
    rw [hdecimal, List.cons_append, takeWhole, ← List.cons_append, ← hdecimal]
    · exact takeDigits_append (by simp [hdecimal]) (decimal_digits n) h
    · intro tail' hcons
      exact hc (List.cons.inj hcons).1

theorem takeFraction_ends (h : Ends rest) : takeFraction rest = .ok ([], rest) := by
  unfold takeFraction
  split
  · rcases h '.' rfl with h | h | h <;> cases h
  · rfl

theorem takeExponent_ends (h : Ends rest) : takeExponent rest = .ok ([], rest) := by
  cases rest with
  | nil => rfl
  | cons c tail =>
    refine if_neg ?_
    rcases h c rfl with rfl | rfl | rfl <;> decide

theorem takeSign_decimal (n : Nat) (rest : List Char) :
    takeSign ['-'] (decimal n ++ rest) = ([], decimal n ++ rest) := by
  obtain ⟨c, tail, hdecimal⟩ := List.exists_cons_of_ne_nil (Nat.toDigits_ne_nil (n := n) (b := 10))
  have hc := decimal_digits n c (by simp [decimal, hdecimal])
  rw [decimal, hdecimal, List.cons_append, takeSign]
  refine if_neg ?_
  rintro hmem
  rw [List.mem_singleton.mp hmem] at hc
  exact absurd hc (by decide)

theorem scanNumber_integer (value : Int) (h : Ends rest) :
    scanNumber (integer value ++ rest) = .ok (integer value, rest) := by
  cases value with
  | ofNat n =>
    simp only [scanNumber, integer, takeSign_decimal, takeWhole_decimal n h, bind_ok]
    exact ⟨_, rfl, _, takeFraction_ends h, _, takeExponent_ends h, by simp [pure, Except.pure]⟩
  | negSucc n =>
    have hsign : takeSign ['-'] (integer (.negSucc n) ++ rest) =
        (['-'], decimal (n + 1) ++ rest) := rfl
    simp only [scanNumber, hsign, takeWhole_decimal (n + 1) h, bind_ok]
    exact ⟨_, rfl, _, takeFraction_ends h, _, takeExponent_ends h,
      by simp [pure, Except.pure, integer]⟩

theorem parseInt_integer (value : Int) : parseInt (integer value) = value := by
  cases value with
  | ofNat n =>
    obtain ⟨c, tail, hdecimal⟩ := List.exists_cons_of_ne_nil (Nat.toDigits_ne_nil (n := n) (b := 10))
    have hc := decimal_digits n c (by simp [decimal, hdecimal])
    have hvalue : Nat.ofDigitChars 10 (decimal n) 0 = n := Nat.ofDigitChars_ten_toDigits
    rw [integer, parseInt, hvalue]
    · rfl
    · intro digits hcons
      rw [decimal, hdecimal] at hcons
      rw [(List.cons.inj hcons).1] at hc
      exact absurd hc (by decide)
  | negSucc n =>
    have hvalue : Nat.ofDigitChars 10 (decimal (n + 1)) 0 = n + 1 := Nat.ofDigitChars_ten_toDigits
    rw [integer, parseInt, hvalue]
    rfl

def Piece.Says (piece : Piece) (c : Char) : Prop :=
  piece = .char c ∨ ∃ n, piece = .unit n ∧ highSurrogate n = false ∧ loneUnit n = c

def Scans (text : List Char) (piece : Piece) : Prop :=
  ∀ rest pieces tail, scanString rest = .ok (pieces, tail) →
    scanString (text ++ rest) = .ok (piece :: pieces, tail)

theorem scans_char {c : Char} (hquote : c ≠ '"') (hescape : c ≠ '\\') (h : 0x20 ≤ c.toNat) :
    Scans [c] (.char c) := by
  intro rest pieces tail hrest
  rw [List.singleton_append, scanString]
  · exact bind_ok.mpr ⟨(), require_ok.mpr ⟨h, hescape⟩, by rw [hrest]; rfl⟩
  · exact hquote
  · exact fun _ _ _ _ _ heq _ => hescape heq
  · exact fun _ _ heq _ => hescape heq

theorem scans_escape {e c : Char} (he : e ≠ 'u') (h : simpleEscape e = some c) :
    Scans ['\\', e] (.char c) := by
  intro rest pieces tail hrest
  rw [List.cons_append, List.singleton_append, scanString]
  · exact bind_ok.mpr ⟨c, fetch_ok.mpr h, by rw [hrest]; rfl⟩
  · exact fun _ _ _ _ _ heq _ => he heq

theorem scans_unit {a b c d : Char} (h : hexUnit a b c d = some n) :
    Scans ['\\', 'u', a, b, c, d] (.unit n) := by
  intro rest pieces tail hrest
  simp only [List.cons_append, List.nil_append]
  rw [scanString]
  exact bind_ok.mpr ⟨n, fetch_ok.mpr h, by rw [hrest]; rfl⟩

variable {g : Char → Piece} {cs : List Char}

theorem scanString_pieces {f : Char → List Char} (h : ∀ c ∈ cs, Scans (f c) (g c))
    (rest : List Char) : scanString (cs.flatMap f ++ '"' :: rest) = .ok (cs.map g, rest) := by
  induction cs with
  | nil => rfl
  | cons c cs ih =>
    have htail := ih fun c' hc' => h c' (List.mem_cons_of_mem _ hc')
    rw [List.flatMap_cons, List.append_assoc, List.map_cons]
    exact h c (by simp) _ _ _ htail

theorem says_joinPieces (h : ∀ c ∈ cs, (g c).Says c) : joinPieces (cs.map g) = cs := by
  induction cs with
  | nil => rfl
  | cons c cs ih =>
    have htail := ih fun c' hc' => h c' (List.mem_cons_of_mem _ hc')
    rw [List.map_cons]
    rcases h c (by simp) with hg | ⟨n, hg, hhigh, hlone⟩
    · rw [hg, joinPieces, htail]
    · rw [hg]
      cases hrest : cs.map g with
      | nil =>
        rw [hrest] at htail
        rw [joinPieces, hlone, ← htail]
        rfl
      | cons piece rest =>
        rw [hrest] at htail
        cases piece with
        | char c' =>
          rw [joinPieces, hlone, ← htail, joinPieces]
        | unit m => rw [joinPieces, if_neg (by simp [hhigh]), hlone, htail]

theorem scanWord_append (word rest : List Char) : scanWord word (word ++ rest) = .ok rest := by
  refine bind_ok.mpr ⟨(), require_ok.mpr (List.prefix_append word rest), ?_⟩
  rw [List.drop_left]
  rfl

end

section
inductive Tree where
  | null
  | bool (value : Bool)
  | number (raw : List Char)
  | text (pieces : List Piece)
  | array (items : List Tree)
  | object (members : List (List Piece × Tree))

def expect (c : Char) (cs : List Char) : Except String (List Char) := do
  require ((skipSpace cs).head? = some c) "invalid character"
  return (skipSpace cs).tail

def scanName (cs : List Char) : Except String (List Piece × List Char) := do
  let rest ← expect '"' cs
  scanString rest

def scanScalar (cs : List Char) : Except String (Tree × List Char) :=
  match cs.head? with
  | some 'n' => do
    let rest ← scanWord ['n', 'u', 'l', 'l'] cs
    return (.null, rest)
  | some 't' => do
    let rest ← scanWord ['t', 'r', 'u', 'e'] cs
    return (.bool true, rest)
  | some 'f' => do
    let rest ← scanWord ['f', 'a', 'l', 's', 'e'] cs
    return (.bool false, rest)
  | some '"' => do
    let (pieces, rest) ← scanName cs
    return (.text pieces, rest)
  | _ => do
    let (raw, rest) ← scanNumber cs
    return (.number raw, rest)

def scanMore (close : Char) (cs : List Char) : Except String (Bool × List Char) :=
  match skipSpace cs with
  | [] => .error "unexpected EOF"
  | c :: rest =>
    if c = ',' then .ok (true, rest)
    else if c = close then .ok (false, rest)
    else .error "invalid character after value"

mutual

def parseTree : Nat → List Char → Except String (Tree × List Char)
  | 0, _ => .error "unexpected EOF"
  | fuel + 1, cs =>
    match skipSpace cs with
    | '{' :: rest =>
      if (skipSpace rest).head? = some '}' then .ok (.object [], (skipSpace rest).tail)
      else do
        let (members, rest) ← parseMembers fuel rest
        return (.object members, rest)
    | '[' :: rest =>
      if (skipSpace rest).head? = some ']' then .ok (.array [], (skipSpace rest).tail)
      else do
        let (items, rest) ← parseItems fuel rest
        return (.array items, rest)
    | cs => scanScalar cs

def parseItems : Nat → List Char → Except String (List Tree × List Char)
  | 0, _ => .error "unexpected EOF"
  | fuel + 1, cs => do
    let (item, rest) ← parseTree fuel cs
    let (more, rest) ← scanMore ']' rest
    if more then do
      let (items, rest) ← parseItems fuel rest
      return (item :: items, rest)
    else return ([item], rest)

def parseMembers : Nat → List Char → Except String (List (List Piece × Tree) × List Char)
  | 0, _ => .error "unexpected EOF"
  | fuel + 1, cs => do
    let (name, rest) ← scanName cs
    let rest ← expect ':' rest
    let (value, rest) ← parseTree fuel rest
    let (more, rest) ← scanMore '}' rest
    if more then do
      let (members, rest) ← parseMembers fuel rest
      return ((name, value) :: members, rest)
    else return ([(name, value)], rest)

end

def parseText (cs : List Char) : Except String Tree := do
  let (tree, rest) ← parseTree (2 * cs.length) cs
  require (skipSpace rest = []) "trailing data"
  return tree

inductive Value where
  | null
  | bool (value : Bool)
  | int (value : Int)
  | text (chars : List Char)
  | array (items : List Value)
  | object (fields : List (List Char × Value))

def escape (c : Char) : List Char :=
  if c = '"' ∨ c = '\\' then ['\\', c]
  else if c = '\x08' then ['\\', 'b']
  else if c = '\t' then ['\\', 't']
  else if c = '\n' then ['\\', 'n']
  else if c = '\x0c' then ['\\', 'f']
  else if c = '\r' then ['\\', 'r']
  else if c.toNat < 0x20 then
    ['\\', 'u', '0', '0', hexChar (c.toNat / 16), hexChar (c.toNat % 16)]
  else [c]

def piece (c : Char) : Piece :=
  if c.toNat < 0x20 ∧ c ∉ ['\x08', '\t', '\n', '\x0c', '\r'] then .unit c.toNat else .char c

def quote (cs : List Char) : List Char := '"' :: cs.flatMap escape ++ ['"']

def commas : List (List Char) → List Char
  | [] => []
  | [part] => part
  | part :: rest => part ++ ',' :: commas rest

mutual

def Value.render : Value → List Char
  | .null => ['n', 'u', 'l', 'l']
  | .bool true => ['t', 'r', 'u', 'e']
  | .bool false => ['f', 'a', 'l', 's', 'e']
  | .int value => integer value
  | .text chars => quote chars
  | .array items => '[' :: commas (renderItems items) ++ [']']
  | .object fields => '{' :: commas (renderMembers fields) ++ ['}']

def renderItems : List Value → List (List Char)
  | [] => []
  | item :: rest => item.render :: renderItems rest

def renderMembers : List (List Char × Value) → List (List Char)
  | [] => []
  | (name, value) :: rest => (quote name ++ ':' :: value.render) :: renderMembers rest

end

mutual

def Value.tree : Value → Tree
  | .null => .null
  | .bool value => .bool value
  | .int value => .number (integer value)
  | .text chars => .text (chars.map piece)
  | .array items => .array (itemTrees items)
  | .object fields => .object (memberTrees fields)

def itemTrees : List Value → List Tree
  | [] => []
  | item :: rest => item.tree :: itemTrees rest

def memberTrees : List (List Char × Value) → List (List Piece × Tree)
  | [] => []
  | (name, value) :: rest => (name.map piece, value.tree) :: memberTrees rest

end

mutual

def Value.height : Value → Nat
  | .array items => itemsHeight items
  | .object fields => fieldsHeight fields
  | _ => 0

def itemsHeight : List Value → Nat
  | [] => 0
  | item :: rest => max (item.height + 1) (itemsHeight rest)

def fieldsHeight : List (List Char × Value) → Nat
  | [] => 0
  | (_, value) :: rest => max (value.height + 1) (fieldsHeight rest)

end

def Value.container : Value → Bool
  | .array _ => true
  | .object _ => true
  | _ => false

theorem Value.children {P : Value → Prop} (leaf : ∀ v : Value, v.container = false → P v)
    (array : ∀ items, (∀ item ∈ items, P item) → P (.array items))
    (object : ∀ fields : List (List Char × Value), (∀ field ∈ fields, P field.2) →
      P (.object fields)) (v : Value) : P v :=
  @Value.rec P (fun items => ∀ item ∈ items, P item)
    (fun fields => ∀ field ∈ fields, P field.2) (fun field => P field.2)
    (leaf .null rfl) (fun value => leaf (.bool value) rfl) (fun value => leaf (.int value) rfl)
    (fun chars => leaf (.text chars) rfl) array object
    (List.forall_mem_nil _) forall_cons
    (List.forall_mem_nil _) forall_cons (fun _ _ => id) v

def Tree.container : Tree → Bool
  | .array _ => true
  | .object _ => true
  | _ => false

theorem Tree.children {P : Tree → Prop} (leaf : ∀ t : Tree, t.container = false → P t)
    (array : ∀ items, (∀ item ∈ items, P item) → P (.array items))
    (object : ∀ members : List (List Piece × Tree), (∀ member ∈ members, P member.2) →
      P (.object members)) (t : Tree) : P t :=
  @Tree.rec P (fun items => ∀ item ∈ items, P item)
    (fun members => ∀ member ∈ members, P member.2) (fun member => P member.2)
    (leaf .null rfl) (fun value => leaf (.bool value) rfl) (fun raw => leaf (.number raw) rfl)
    (fun pieces => leaf (.text pieces) rfl) array object
    (List.forall_mem_nil _) forall_cons
    (List.forall_mem_nil _) forall_cons (fun _ _ => id) t

theorem renderItems_eq (items : List Value) : renderItems items = items.map Value.render :=
  eq_map rfl (fun _ _ => rfl) items

theorem renderMembers_eq (fields : List (List Char × Value)) :
    renderMembers fields = fields.map fun field => quote field.1 ++ ':' :: field.2.render :=
  eq_map rfl (fun _ _ => rfl) fields

theorem itemTrees_eq (items : List Value) : itemTrees items = items.map Value.tree :=
  eq_map rfl (fun _ _ => rfl) items

variable {items : List Value} {n : Nat}

theorem itemsHeight_le : itemsHeight items ≤ n ↔ ∀ item ∈ items, item.height + 1 ≤ n := by
  induction items with
  | nil => simp [itemsHeight]
  | cons item rest ih => simp [itemsHeight, ih]

variable {fields : List (List Char × Value)}

theorem fieldsHeight_le : fieldsHeight fields ≤ n ↔ ∀ field ∈ fields, field.2.height + 1 ≤ n := by
  induction fields with
  | nil => simp [fieldsHeight]
  | cons field rest ih => simp [fieldsHeight, ih]

variable {depth limit : Nat}

section
variable {A : Type} {xs : List A} {height : A → Nat} {total : Nat}

theorem fits_children (hle : ∀ n, total ≤ n ↔ ∀ x ∈ xs, height x + 1 ≤ n) (hdepth : depth ≤ limit) :
    (xs.all fun x => decide (depth + (height x + 1) ≤ limit)) = decide (depth + total ≤ limit) := by
  rw [Bool.eq_iff_iff, List.all_eq_true, decide_eq_true_eq]
  constructor
  · intro h
    have hall := (hle (limit - depth)).mpr fun x hx => by
      have := of_decide_eq_true (h x hx)
      omega
    omega
  · intro h x hx
    have := (hle (limit - depth)).mp (by omega) x hx
    exact decide_eq_true (by omega)

theorem children_fit (hle : ∀ n, total ≤ n ↔ ∀ x ∈ xs, height x + 1 ≤ n)
    (hfits : depth + total ≤ limit) : ∀ x ∈ xs, depth + 1 + height x ≤ limit := by
  intro x hx
  have := (hle (limit - depth)).mp (by omega) x hx
  omega

-- The elements of a container, written one by one and put together, where only the depth can fail.
theorem joined_parts {B : Type} {text : List Char → B} {e : String} {f : A → Except String B}
    {render : A → List Char} {join : List (Except String B) → Except String B}
    (hjoin : ∀ parts : List (Bool × List Char),
      join (parts.map fun part => if part.1 then .ok (text part.2) else .error e) =
        if parts.all (·.1) then .ok (text (commas (parts.map (·.2)))) else .error e)
    (hf : ∀ x, f x = if depth + 1 + height x ≤ limit then .ok (text (render x)) else .error e)
    (hle : ∀ n, total ≤ n ↔ ∀ x ∈ xs, height x + 1 ≤ n) (hdepth : depth ≤ limit) :
    join (xs.map f) =
      if depth + total ≤ limit then .ok (text (commas (xs.map render))) else .error e := by
  have hparts : xs.map f = (xs.map fun x => (decide (depth + (height x + 1) ≤ limit), render x)).map
      fun part => if part.1 then .ok (text part.2) else .error e := by
    rw [List.map_map]
    refine List.map_congr_left fun x _ => ?_
    rw [hf, Nat.add_assoc, Nat.add_comm 1]
    simp
  rw [hparts, hjoin, List.all_map, List.map_map]
  change (if (xs.all fun x => decide (depth + (height x + 1) ≤ limit)) = true then _ else _) = _
  rw [fits_children hle hdepth]
  simp only [decide_eq_true_eq]
  rfl

end

theorem control_unit (h : n < 0x20) :
    hexUnit '0' '0' (hexChar (n / 16)) (hexChar (n % 16)) = some n ∧
      highSurrogate n = false ∧ loneUnit n = Char.ofNat n := by
  have hall : ∀ n < 0x20, hexUnit '0' '0' (hexChar (n / 16)) (hexChar (n % 16)) = some n ∧
      highSurrogate n = false ∧ loneUnit n = Char.ofNat n := by
    decide
  exact hall n h

theorem scans_piece (c : Char) : Scans (escape c) (piece c) := by
  unfold escape piece
  by_cases hq : c = '"' ∨ c = '\\'
  · rcases hq with rfl | rfl
    · exact scans_escape (by decide) (by decide)
    · exact scans_escape (by decide) (by decide)
  by_cases hs : c ∈ ['\x08', '\t', '\n', '\x0c', '\r']
  · simp only [List.mem_cons, List.not_mem_nil, or_false] at hs
    rcases hs with rfl | rfl | rfl | rfl | rfl
    · exact scans_escape (by decide) (by decide)
    · exact scans_escape (by decide) (by decide)
    · exact scans_escape (by decide) (by decide)
    · exact scans_escape (by decide) (by decide)
    · exact scans_escape (by decide) (by decide)
  have hs' := hs
  simp only [List.mem_cons, List.not_mem_nil, or_false, not_or] at hs'
  obtain ⟨hb, ht, hn, hf, hr⟩ := hs'
  rw [if_neg hq, if_neg hb, if_neg ht, if_neg hn, if_neg hf, if_neg hr]
  rw [not_or] at hq
  by_cases hc : c.toNat < 0x20
  · rw [if_pos hc, if_pos ⟨hc, hs⟩]
    exact scans_unit (control_unit hc).1
  · rw [if_neg hc, if_neg (fun h => hc h.1)]
    exact scans_char hq.1 hq.2 (by omega)

theorem says_piece (c : Char) : (piece c).Says c := by
  unfold piece
  split
  · next h =>
    obtain ⟨_, hhigh, hlone⟩ := control_unit h.1
    exact .inr ⟨c.toNat, rfl, hhigh, by rw [hlone, Char.ofNat_toNat]⟩
  · exact .inl rfl

theorem joinPieces_map (cs : List Char) : joinPieces (cs.map piece) = cs :=
  says_joinPieces fun c _ => says_piece c

variable {c : Char} {cs : List Char}

theorem skipSpace_cons (h : JsonText.isSpace c = false) :
    skipSpace (c :: cs) = c :: cs := List.dropWhile_cons_of_neg (by simp [h])

theorem expect_cons (cs : List Char) (h : JsonText.isSpace c = false) :
    expect c (c :: cs) = .ok cs := by
  rw [expect, skipSpace_cons h]
  exact bind_ok.mpr ⟨(), require_ok.mpr rfl, rfl⟩

theorem scanMore_comma (close : Char) (rest : List Char) :
    scanMore close (',' :: rest) = .ok (true, rest) := by
  rw [scanMore, skipSpace_cons (by decide)]
  rfl

theorem scanMore_close {close : Char} (h : close = ']' ∨ close = '}') (rest : List Char) :
    scanMore close (close :: rest) = .ok (false, rest) := by
  rcases h with rfl | rfl
  · rw [scanMore, skipSpace_cons (by decide)]
    rfl
  · rw [scanMore, skipSpace_cons (by decide)]
    rfl

theorem scanName_quote (cs rest : List Char) :
    scanName (quote cs ++ rest) = .ok (cs.map piece, rest) := by
  rw [quote, List.append_assoc, List.cons_append, scanName, expect_cons _ (by decide)]
  exact scanString_pieces (fun c _ => scans_piece c) rest

def OpensScalar (cs : List Char) : Prop :=
  ∃ c tail, cs = c :: tail ∧ JsonText.isSpace c = false ∧ c ∉ ['{', '[', '}', ']']

variable {fuel : Nat} {rest : List Char}

theorem parseTree_scalar {tree : Tree} (hopens : OpensScalar cs) (hfuel : 0 < fuel)
    (h : scanScalar (cs ++ rest) = .ok (tree, rest)) :
    parseTree fuel (cs ++ rest) = .ok (tree, rest) := by
  obtain ⟨c, tail, rfl, hspace, hnone⟩ := hopens
  obtain ⟨fuel, rfl⟩ : ∃ n, fuel = n + 1 := ⟨fuel - 1, by omega⟩
  simp only [List.mem_cons, List.not_mem_nil, or_false, not_or] at hnone
  rw [List.cons_append, parseTree, skipSpace_cons hspace]
  rw [← List.cons_append, ← h]
  split
  · next heq => exact absurd (List.cons.inj heq).1 hnone.1
  · next heq => exact absurd (List.cons.inj heq).1 hnone.2.1
  · rfl

theorem integer_opens (value : Int) : ∃ c tail, integer value = c :: tail ∧
    (c = '-' ∨ c.isDigit = true) := by
  have hdigits : ∀ n, ∃ c tail, decimal n = c :: tail ∧ c.isDigit = true := by
    intro n
    obtain ⟨c, tail, hcons⟩ := List.exists_cons_of_ne_nil (Nat.toDigits_ne_nil (n := n) (b := 10))
    exact ⟨c, tail, hcons, decimal_digits n c (by simp [decimal, hcons])⟩
  cases value with
  | ofNat n =>
    obtain ⟨c, tail, hcons, hc⟩ := hdigits n
    exact ⟨c, tail, hcons, .inr hc⟩
  | negSucc n => exact ⟨'-', _, rfl, .inl rfl⟩

theorem digit_cases (h : c = '-' ∨ c.isDigit = true) :
    c ∉ [' ', '\t', '\r', '\n', ']', '}', '{', '[', 'n', 't', 'f', '"'] := by
  rintro hmem
  rcases h with rfl | h
  · simp at hmem
  · simp only [List.mem_cons, List.not_mem_nil, or_false] at hmem
    rcases hmem with rfl | rfl | rfl | rfl | rfl | rfl | rfl | rfl | rfl | rfl | rfl | rfl <;>
      simp at h

theorem scanScalar_integer (value : Int) (h : Ends rest) :
    OpensScalar (integer value) ∧
      scanScalar (integer value ++ rest) = .ok (.number (integer value), rest) := by
  obtain ⟨c, tail, hcons, hc⟩ := integer_opens value
  have hcases := digit_cases hc
  simp only [List.mem_cons, List.not_mem_nil, or_false, not_or] at hcases
  obtain ⟨hspace, htab, hreturn, hline, hbracket, hbrace, hopen, hlist, hn, ht, hf, hq⟩ := hcases
  refine ⟨⟨c, tail, hcons, ?_, ?_⟩, ?_⟩
  · simp [JsonText.isSpace, hspace, htab, hreturn, hline]
  · simp [hbracket, hbrace, hopen, hlist]
  · have hhead : (integer value ++ rest).head? = some c := by rw [hcons]; rfl
    rw [scanScalar, hhead]
    split
    · next heq => exact absurd (Option.some.inj heq) hn
    · next heq => exact absurd (Option.some.inj heq) ht
    · next heq => exact absurd (Option.some.inj heq) hf
    · next heq => exact absurd (Option.some.inj heq) hq
    · exact bind_ok.mpr ⟨_, scanNumber_integer value h, rfl⟩

theorem scanScalar_render {v : Value} (hleaf : v.container = false) (h : Ends rest) :
    OpensScalar v.render ∧ scanScalar (v.render ++ rest) = .ok (v.tree, rest) := by
  cases v with
  | null =>
    refine ⟨⟨'n', _, rfl, by decide, by decide⟩, ?_⟩
    exact bind_ok.mpr ⟨_, scanWord_append ['n', 'u', 'l', 'l'] rest, rfl⟩
  | bool value =>
    cases value with
    | false =>
      refine ⟨⟨'f', _, rfl, by decide, by decide⟩, ?_⟩
      exact bind_ok.mpr ⟨_, scanWord_append ['f', 'a', 'l', 's', 'e'] rest, rfl⟩
    | true =>
      refine ⟨⟨'t', _, rfl, by decide, by decide⟩, ?_⟩
      exact bind_ok.mpr ⟨_, scanWord_append ['t', 'r', 'u', 'e'] rest, rfl⟩
  | int value => exact scanScalar_integer value h
  | text chars =>
    refine ⟨⟨'"', _, rfl, by decide, by decide⟩, ?_⟩
    exact bind_ok.mpr ⟨_, scanName_quote chars rest, rfl⟩
  | array items | object fields => cases hleaf

theorem render_opens (v : Value) : ∃ c tail, v.render = c :: tail ∧
    JsonText.isSpace c = false ∧ c ≠ ']' ∧ c ≠ '}' := by
  cases hleaf : v.container with
  | false =>
    obtain ⟨c, tail, hcons, hspace, hnone⟩ := (scanScalar_render hleaf Ends.nil).1
    simp only [List.mem_cons, List.not_mem_nil, or_false, not_or] at hnone
    exact ⟨c, tail, hcons, hspace, hnone.2.2.2, hnone.2.2.1⟩
  | true =>
    cases v with
    | array items => exact ⟨'[', _, rfl, by decide, by decide, by decide⟩
    | object fields => exact ⟨'{', _, rfl, by decide, by decide, by decide⟩
    | _ => cases hleaf

theorem commas_cons (part : List Char) {rest : List (List Char)} (h : rest ≠ []) :
    commas (part :: rest) = part ++ ',' :: commas rest := by
  obtain ⟨next, rest, rfl⟩ := List.exists_cons_of_ne_nil h
  rfl

def ReadsBack (v : Value) : Prop :=
  ∀ fuel rest, 2 * v.render.length ≤ fuel → Ends rest →
    parseTree fuel (v.render ++ rest) = .ok (v.tree, rest)

theorem parseItems_commas (hne : items ≠ []) (h : ∀ item ∈ items, ReadsBack item)
    (hfuel : 2 * (commas (items.map Value.render)).length + 1 ≤ fuel) (rest : List Char) :
    parseItems fuel (commas (items.map Value.render) ++ ']' :: rest) =
      .ok (items.map Value.tree, rest) := by
  induction items generalizing fuel with
  | nil => exact absurd rfl hne
  | cons item items ih =>
    obtain ⟨fuel, rfl⟩ : ∃ n, fuel = n + 1 := ⟨fuel - 1, by omega⟩
    rw [parseItems]
    cases items with
    | nil =>
      have hitem := h item (by simp) fuel (']' :: rest)
        (by simpa [commas] using hfuel) (.cons (by simp))
      refine bind_ok.mpr ⟨_, hitem, ?_⟩
      exact bind_ok.mpr ⟨_, scanMore_close (.inl rfl) rest, rfl⟩
    | cons next items =>
      rw [List.map_cons, commas_cons _ (by simp)] at hfuel ⊢
      simp only [List.length_append, List.length_cons] at hfuel
      rw [List.append_assoc, List.cons_append]
      refine bind_ok.mpr ⟨_, h item (by simp) fuel _ (by omega) (.cons (by simp)), ?_⟩
      refine bind_ok.mpr ⟨_, scanMore_comma ']' _, ?_⟩
      have hbound : 2 * (commas ((next :: items).map Value.render)).length + 1 ≤ fuel := by omega
      have hrest := ih (by simp) (fun item hitem => h item (List.mem_cons_of_mem _ hitem)) hbound
      exact bind_ok.mpr ⟨_, hrest, rfl⟩

theorem parseMembers_commas (hne : fields ≠ []) (h : ∀ field ∈ fields, ReadsBack field.2)
    (hfuel : 2 * (commas (renderMembers fields)).length + 1 ≤ fuel) (rest : List Char) :
    parseMembers fuel (commas (renderMembers fields) ++ '}' :: rest) =
      .ok (memberTrees fields, rest) := by
  induction fields generalizing fuel with
  | nil => exact absurd rfl hne
  | cons field fields ih =>
    obtain ⟨name, value⟩ := field
    obtain ⟨fuel, rfl⟩ : ∃ n, fuel = n + 1 := ⟨fuel - 1, by omega⟩
    have hvalue : ReadsBack value := h (name, value) (by simp)
    rw [parseMembers]
    cases fields with
    | nil =>
      simp only [renderMembers, commas, List.length_append, List.length_cons] at hfuel ⊢
      rw [List.append_assoc, List.cons_append]
      refine bind_ok.mpr ⟨_, scanName_quote name _, ?_⟩
      refine bind_ok.mpr ⟨_, expect_cons _ (by decide), ?_⟩
      refine bind_ok.mpr ⟨_, hvalue fuel ('}' :: rest) (by omega) (.cons (by simp)), ?_⟩
      exact bind_ok.mpr ⟨_, scanMore_close (.inr rfl) rest, rfl⟩
    | cons next fields =>
      rw [renderMembers, commas_cons _ (by simp [renderMembers_eq])] at hfuel ⊢
      simp only [List.length_append, List.length_cons] at hfuel
      simp only [List.append_assoc, List.cons_append]
      refine bind_ok.mpr ⟨_, scanName_quote name _, ?_⟩
      refine bind_ok.mpr ⟨_, expect_cons _ (by decide), ?_⟩
      refine bind_ok.mpr ⟨_, hvalue fuel _ (by omega) (.cons (by simp)), ?_⟩
      refine bind_ok.mpr ⟨_, scanMore_comma '}' _, ?_⟩
      have hbound : 2 * (commas (renderMembers (next :: fields))).length + 1 ≤ fuel := by omega
      have hrest := ih (by simp) (fun field hfield => h field (List.mem_cons_of_mem _ hfield))
        hbound
      exact bind_ok.mpr ⟨_, hrest, rfl⟩

theorem parseTree_render (v : Value) : ReadsBack v := by
  induction v using Value.children with
  | leaf v hleaf =>
    intro fuel rest hfuel hrest
    obtain ⟨hopens, hscan⟩ := scanScalar_render hleaf hrest
    obtain ⟨c, tail, hcons, _⟩ := id hopens
    rw [hcons, List.length_cons] at hfuel
    exact parseTree_scalar hopens (by omega) hscan
  | array items ih =>
    intro fuel rest hfuel hrest
    simp only [Value.render, renderItems_eq, List.cons_append, List.length_cons,
      List.length_append] at hfuel ⊢
    obtain ⟨fuel, rfl⟩ : ∃ n, fuel = n + 1 := ⟨fuel - 1, by omega⟩
    rw [parseTree, skipSpace_cons (by decide), Value.tree, itemTrees_eq]
    dsimp only
    cases items with
    | nil => rfl
    | cons item items =>
      obtain ⟨c, tail, hrender, hspace, hbracket, _⟩ := render_opens item
      have hhead : (skipSpace (commas ((item :: items).map Value.render) ++ [']'] ++ rest)).head? ≠
          some ']' := by
        have hopens : ∃ tail', commas ((item :: items).map Value.render) = c :: tail' := by
          cases items with
          | nil => exact ⟨tail, hrender⟩
          | cons next items =>
            rw [List.map_cons, commas_cons _ (by simp), hrender]
            exact ⟨_, rfl⟩
        obtain ⟨tail', hcommas⟩ := hopens
        rw [hcommas, List.append_assoc, List.cons_append, skipSpace_cons hspace]
        exact fun heq => hbracket (Option.some.inj heq)
      refine (if_neg hhead).trans ?_
      rw [List.append_assoc, List.singleton_append]
      exact bind_ok.mpr ⟨_, parseItems_commas (by simp) ih (by omega) rest, rfl⟩
  | object fields ih =>
    intro fuel rest hfuel hrest
    simp only [Value.render, List.cons_append, List.length_cons, List.length_append] at hfuel ⊢
    obtain ⟨fuel, rfl⟩ : ∃ n, fuel = n + 1 := ⟨fuel - 1, by omega⟩
    rw [parseTree, skipSpace_cons (by decide), Value.tree]
    dsimp only
    cases fields with
    | nil => rfl
    | cons field fields =>
      have hhead : (skipSpace (commas (renderMembers (field :: fields)) ++ ['}'] ++ rest)).head? ≠
          some '}' := by
        have hopens : ∃ tail', commas (renderMembers (field :: fields)) = '"' :: tail' := by
          cases fields with
          | nil => exact ⟨_, rfl⟩
          | cons next fields =>
            rw [renderMembers, commas_cons _ (by simp [renderMembers_eq]), quote]
            exact ⟨_, rfl⟩
        obtain ⟨tail', hcommas⟩ := hopens
        rw [hcommas, List.append_assoc, List.cons_append, skipSpace_cons (by decide)]
        exact fun heq => absurd (Option.some.inj heq) (by decide)
      refine (if_neg hhead).trans ?_
      rw [List.append_assoc, List.singleton_append]
      exact bind_ok.mpr ⟨_, parseMembers_commas (by simp) ih (by omega) rest, rfl⟩

theorem parseText_render (v : Value) : parseText v.render = .ok v.tree := by
  have hread := parseTree_render v _ [] le_rfl .nil
  rw [List.append_nil] at hread
  exact bind_ok.mpr ⟨_, hread, bind_ok.mpr ⟨(), require_ok.mpr rfl, rfl⟩⟩

end

end JsonText
