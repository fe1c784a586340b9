import Mathlib.Data.List.DropRight
import TrillionniumGame.Foundation.FiniteMap
import TrillionniumGame.Persistence.Contracts

namespace Server
open Checks FiniteMap
open Persistence (checkedAdd checkedAdd_some)

abbrev Octets := List UInt8

def ascii (text : String) : Octets := text.toList.map (UInt8.ofNat ·.toNat)

def headerTerminator : Octets := [13, 10, 13, 10]
def maxHeaderBytes : Nat := 32 * 1024
def maxHeaders : Nat := 64

structure Request where
  method : Octets
  target : Octets
  headers : Dict Octets Octets
  body : Octets

abbrev Head := Octets × Octets × Dict Octets Octets × Nat

def findHeaderEnd : Octets → Option Nat
  | [] => none
  | byte :: rest =>
    if (byte :: rest).take 4 = headerTerminator then some 0 else (findHeaderEnd rest).map (· + 1)

def splitLines : Octets → List Octets
  | [] => [[]]
  | 13 :: 10 :: rest => [] :: splitLines rest
  | byte :: rest => (splitLines rest).modifyHead (byte :: ·)

def isControl (byte : UInt8) : Bool := byte < 32 || byte = 127
def isUpper (byte : UInt8) : Bool := 65 ≤ byte && byte ≤ 90
def isDigit (byte : UInt8) : Bool := 48 ≤ byte && byte ≤ 57
def isBlank (byte : UInt8) : Bool := byte = 32 || byte = 9
def isNameByte (byte : UInt8) : Bool := 97 ≤ byte && byte ≤ 122 || isDigit byte || byte = 45
def isValueByte (byte : UInt8) : Bool := !isControl byte || byte = 9
def isTargetByte (byte : UInt8) : Bool := !isControl byte && byte ≠ 32

def lowercase (name : Octets) : Octets :=
  name.map fun byte => if isUpper byte then byte + 32 else byte

def parseHeader (headers : Dict Octets Octets) (line : Octets) :
    Except String (Dict Octets Octets) := do
  require (headers.keys.card < maxHeaders) "http_header_count_exceeded"
  require (58 ∈ line) "http_header_invalid"
  let name := line.takeWhile (· ≠ 58)
  require (name ≠ [] ∧ (lowercase name).all isNameByte) "http_header_name_invalid"
  let value := ((line.drop (name.length + 1)).dropWhile isBlank).rdropWhile isBlank
  require (value.all isValueByte) "http_header_value_invalid"
  require (lowercase name ∉ headers) "http_duplicate_header"
  return headers.insert (lowercase name) value

def parseContentLength (value : Octets) : Except String Nat := do
  require (value ≠ [] ∧ ¬ (1 < value.length ∧ value.head? = some 48) ∧ value.all isDigit)
    "http_content_length_invalid"
  let length := value.foldl (fun length byte => 10 * length + (byte.toNat - 48)) 0
  require (length < 2 ^ 64) "http_content_length_overflow"
  return length

def declaredLength (method : Octets) (headers : Dict Octets Octets) : Except String Nat :=
  match headers.lookup (ascii "content-length") with
  | some value => parseContentLength value
  | none => do
    require (method ≠ ascii "POST") "http_content_length_required"
    return 0

def parseHead (input : Octets) : Except String Head := do
  require (String.fromUTF8? ⟨input.toArray⟩).isSome "http_headers_not_utf8"
  match ((splitLines input).headD []).splitOn 32 with
  | [method, target, version] => do
    require (method ≠ [] ∧ target ≠ [] ∧ version = ascii "HTTP/1.1") "http_request_line_invalid"
    require (method.all isUpper ∧ target.head? = some 47 ∧ target.all isTargetByte)
      "http_method_or_target_invalid"
    let headers ← (splitLines input).tail.foldlM parseHeader ∅
    require (ascii "transfer-encoding" ∉ headers) "http_transfer_encoding_not_supported"
    let contentLength ← declaredLength method headers
    return (method, target, headers, contentLength)
  | _ => .error "http_request_line_invalid"

def headAt (input : Octets) (headerEnd : Nat) : Except String (Head × Nat) := do
  require (headerEnd + 4 ≤ maxHeaderBytes) "http_headers_too_large"
  let head ← parseHead (input.take headerEnd)
  let total ← fetch (checkedAdd (headerEnd + 4) head.2.2.2) "http_content_length_overflow"
  return (head, total)

def parseRequestBytes (maximum : Nat) (input : Octets) : Except String Request := do
  require (input.length ≤ maximum) "http_request_too_large"
  let headerEnd ← fetch (findHeaderEnd input) "http_request_incomplete"
  let ((method, target, headers, _), total) ← headAt input headerEnd
  require (total ≤ input.length) "http_request_incomplete"
  require (input.length = total) "http_pipelining_not_supported"
  return ⟨method, target, headers, input.drop (headerEnd + 4)⟩

-- One turn of read_request's loop, the read appended; none reads on.
def receive (maximum : Nat) (input : Octets) : Except String (Option Request) :=
  match findHeaderEnd input with
  | none => do
    require (input.length ≤ maxHeaderBytes) "http_headers_too_large"
    return none
  | some headerEnd => do
    let (_, total) ← headAt input headerEnd
    require (total ≤ maximum) "http_request_too_large"
    if input.length < total then .ok none
    else do
      require (input.length = total) "http_pipelining_not_supported"
      some <$> parseRequestBytes maximum input

-- What the stream's reads return in their order, to its end.
def readRequest (maximum : Nat) (input : Octets) :
    List Octets → Except String (Request × List Octets)
  | [] => .error "http_request_incomplete"
  | read :: later => do
    require (read ≠ []) "http_request_incomplete"
    require (input.length + read.length ≤ maximum) "http_request_too_large"
    match ← receive maximum (input ++ read) with
    | some request => return (request, later)
    | none => readRequest maximum (input ++ read) later

variable {maximum : Nat} {input more : Octets} {headerEnd : Nat} {request : Request}
  {reads later : List Octets}

theorem findHeaderEnd_le (h : findHeaderEnd input = some headerEnd) :
    headerEnd + 4 ≤ input.length := by
  induction input generalizing headerEnd with
  | nil => cases h
  | cons byte rest ih =>
    rw [findHeaderEnd] at h
    split at h
    · next hends =>
      cases h
      have hlength := (congrArg List.length hends).symm.trans List.length_take
      exact (hlength.symm ▸ Nat.min_le_right 4 _ : headerTerminator.length ≤ _)
    · obtain ⟨n, hrest, rfl⟩ := Option.map_eq_some_iff.mp h
      exact Nat.succ_le_succ (ih hrest)

theorem findHeaderEnd_append (more : Octets) (h : headerEnd + 4 ≤ input.length) :
    findHeaderEnd (input ++ more) = some headerEnd ↔ findHeaderEnd input = some headerEnd := by
  induction input generalizing headerEnd with
  | nil => cases h
  | cons byte rest ih =>
    have hends : ((byte :: rest) ++ more).take 4 = (byte :: rest).take 4 :=
      List.take_append_of_le_length ((Nat.le_add_left 4 headerEnd).trans h)
    rw [List.cons_append, findHeaderEnd, findHeaderEnd, ← List.cons_append, hends]
    split
    · rfl
    · cases headerEnd with
      | zero => simp
      | succ n =>
        have hrest : n + 4 ≤ rest.length := by
          rw [List.length_cons] at h
          omega
        simpa using ih hrest

theorem parseRequestBytes_ok (h : parseRequestBytes maximum input = .ok request) :
    input.length ≤ maximum ∧ ∃ headerEnd head, findHeaderEnd input = some headerEnd ∧
      headAt input headerEnd = .ok (head, input.length) := by
  simp only [parseRequestBytes, bind_ok, require_ok, fetch_ok] at h
  obtain ⟨_, hmaximum, headerEnd, hfound, ⟨head, total⟩, hhead, _, _, _, rfl, -⟩ := h
  exact ⟨hmaximum, headerEnd, head, hfound, hhead⟩

theorem receive_ok : receive maximum input = .ok (some request) ↔
    parseRequestBytes maximum input = .ok request := by
  rw [receive]
  constructor
  · intro h
    split at h
    · obtain ⟨_, -, h⟩ := bind_ok.mp h
      cases h
    · simp only [bind_ok] at h
      obtain ⟨_, _, _, _, h⟩ := h
      split at h
      · cases h
      · obtain ⟨_, _, h⟩ := bind_ok.mp h
        obtain ⟨found, hparsed, hfound⟩ := map_ok.mp h
        exact Option.some.inj hfound ▸ hparsed
  · intro h
    obtain ⟨hmaximum, headerEnd, head, hfound, hhead⟩ := parseRequestBytes_ok h
    rw [hfound]
    dsimp only
    rw [hhead, ok_bind]
    dsimp only
    rw [require_of hmaximum, ok_bind, if_neg (lt_irrefl _), require_of rfl, ok_bind, h]
    rfl

theorem receive_part (hmore : more ≠ [])
    (h : parseRequestBytes maximum (input ++ more) = .ok request) :
    receive maximum input = .ok none := by
  obtain ⟨hmaximum, headerEnd, head, hfound, hhead⟩ := parseRequestBytes_ok h
  have hshort : input.length < (input ++ more).length := by
    have hpos := List.length_pos_iff.mpr hmore
    rw [List.length_append]
    omega
  rw [receive]
  cases hpart : findHeaderEnd input with
  | none =>
    have hbefore : input.length < headerEnd + 4 := by
      by_contra hle
      rw [findHeaderEnd_append more (not_lt.mp hle), hpart] at hfound
      cases hfound
    obtain ⟨_, hsmall, -⟩ := bind_ok.mp hhead
    exact bind_ok.mpr ⟨(), require_of (hbefore.le.trans (require_ok.mp hsmall)), rfl⟩
  | some found =>
    have hle := findHeaderEnd_le hpart
    obtain rfl := Option.mem_unique ((findHeaderEnd_append more hle).mpr hpart) hfound
    have hsame : headAt (input ++ more) found = headAt input found := by
      rw [headAt, headAt, List.take_append_of_le_length (by omega)]
    dsimp only
    rw [← hsame, hhead, ok_bind]
    dsimp only
    rw [require_of hmaximum, ok_bind, if_pos hshort]

theorem readRequest_whole (later : List Octets) (hreads : reads ≠ [])
    (hnonempty : ∀ read ∈ reads, read ≠ [])
    (h : parseRequestBytes maximum (input ++ reads.flatten) = .ok request) :
    readRequest maximum input (reads ++ later) = .ok (request, later) := by
  induction reads generalizing input with
  | nil => exact absurd rfl hreads
  | cons read rest ih =>
    obtain ⟨hread, hrest⟩ := List.forall_mem_cons.mp hnonempty
    rw [List.flatten_cons, ← List.append_assoc] at h
    have hfits : input.length + read.length ≤ maximum := by
      have hmaximum := (parseRequestBytes_ok h).1
      rw [List.length_append, List.length_append] at hmaximum
      omega
    rw [List.cons_append, readRequest, require_of hread, ok_bind, require_of hfits, ok_bind]
    cases rest with
    | nil =>
      rw [List.flatten_nil, List.append_nil] at h
      rw [receive_ok.mpr h]
      rfl
    | cons next rest =>
      rw [receive_part (by simp [hrest]) h]
      exact ih (List.cons_ne_nil _ _) hrest h

theorem readRequest_ok (h : readRequest maximum input reads = .ok (request, later)) :
    ∃ taken, reads = taken ++ later ∧
      parseRequestBytes maximum (input ++ taken.flatten) = .ok request := by
  induction reads generalizing input with
  | nil => cases h
  | cons read rest ih =>
    simp only [readRequest, bind_ok] at h
    obtain ⟨-, -, -, -, received, hreceived, h⟩ := h
    cases received with
    | none =>
      obtain ⟨taken, rfl, hparsed⟩ := ih h
      exact ⟨read :: taken, rfl, by rwa [List.flatten_cons, ← List.append_assoc]⟩
    | some answer =>
      cases h
      exact ⟨[read], rfl, by rwa [List.flatten_singleton, ← receive_ok]⟩

structure HeadersValid (headers : Dict Octets Octets) : Prop where
  count : headers.keys.card ≤ maxHeaders
  entry : ∀ name value, headers.lookup name = some value →
    (name ≠ [] ∧ name.all isNameByte) ∧ value.all isValueByte

variable {headers headers' : Dict Octets Octets} {line : Octets} {lines : List Octets}

theorem HeadersValid.parse (h : HeadersValid headers)
    (hline : parseHeader headers line = .ok headers') : HeadersValid headers' := by
  simp only [parseHeader, bind_ok, require_ok] at hline
  obtain ⟨_, hcount, _, _, _, ⟨hnonempty, hname⟩, _, hvalue, _, hnew, hresult⟩ := hline
  cases hresult
  refine ⟨?_, fun name value hlookup => ?_⟩
  · rw [card_keys_insert hnew]
    exact hcount
  · rw [lookup_insert_ite] at hlookup
    split at hlookup
    · next heq =>
      subst heq
      cases hlookup
      exact ⟨⟨by simpa [lowercase] using hnonempty, hname⟩, hvalue⟩
    · exact h.entry name value hlookup

theorem HeadersValid.parseAll (h : HeadersValid headers)
    (hlines : lines.foldlM parseHeader headers = .ok headers') : HeadersValid headers' := by
  induction lines generalizing headers with
  | nil =>
    cases hlines
    exact h
  | cons line lines ih =>
    obtain ⟨next, hline, hlines⟩ := bind_ok.mp hlines
    exact ih (h.parse hline) hlines

structure Request.WellFormed (request : Request) : Prop where
  method : request.method ≠ [] ∧ request.method.all isUpper
  target : request.target.head? = some 47 ∧ request.target.all isTargetByte
  headers : HeadersValid request.headers
  encoding : ascii "transfer-encoding" ∉ request.headers
  body : declaredLength request.method request.headers = .ok request.body.length

theorem parseRequestBytes_wellFormed (h : parseRequestBytes maximum input = .ok request) :
    request.WellFormed := by
  simp only [parseRequestBytes, headAt, bind_ok, require_ok, fetch_ok] at h
  obtain ⟨_, _, headerEnd, _, ⟨⟨method, target, headers, length⟩, total⟩,
    ⟨_, _, head, hhead, total', htotal, hpair⟩, _, _, _, hlength, hresult⟩ := h
  cases hpair
  cases hresult
  obtain ⟨-, rfl⟩ := checkedAdd_some.mp htotal
  unfold parseHead at hhead
  obtain ⟨_, _, hhead⟩ := bind_ok.mp hhead
  split at hhead
  · simp only [bind_ok, require_ok] at hhead
    obtain ⟨_, ⟨hmethod, -⟩, _, ⟨hupper, htarget⟩, headers', hheaders, _, hencoding, declared,
      hdeclared, hresult⟩ := hhead
    cases hresult
    refine ⟨⟨hmethod, hupper⟩, htarget, HeadersValid.parseAll ⟨Nat.zero_le _, ?_⟩ hheaders,
      hencoding, ?_⟩
    · intro name value hlookup
      cases hlookup
    · rw [hdeclared, List.length_drop, hlength, Nat.add_sub_cancel_left]
  · cases hhead

theorem accepted_wellFormed (maximum : Nat) (reads : List Octets) :
    Ensures (fun result => result.1.WellFormed) (fun _ => True) (readRequest maximum [] reads) := by
  cases hread : readRequest maximum [] reads with
  | error error => exact trivial
  | ok result =>
    obtain ⟨taken, -, hparsed⟩ := readRequest_ok hread
    exact parseRequestBytes_wellFormed hparsed

theorem requests_framed (maximum : Nat) :
    (∀ input more request request', parseRequestBytes maximum input = .ok request →
      parseRequestBytes maximum (input ++ more) = .ok request' → more = []) ∧
    (∀ reads later request, (∀ read ∈ reads, read ≠ []) →
      parseRequestBytes maximum reads.flatten = .ok request →
        readRequest maximum [] (reads ++ later) = .ok (request, later)) ∧
    ∀ reads later request, readRequest maximum [] reads = .ok (request, later) →
      ∃ taken, reads = taken ++ later ∧ parseRequestBytes maximum taken.flatten = .ok request := by
  refine ⟨fun input more request request' hwhole hmore => ?_,
    fun reads later request hnonempty h => readRequest_whole later ?_ hnonempty h,
    fun reads later request => readRequest_ok⟩
  · by_contra hne
    have hpart := receive_part hne hmore
    rw [receive_ok.mpr hwhole] at hpart
    cases hpart
  · rintro rfl
    cases h

example : (readRequest 99 [] [ascii "GET / HTTP/1.1\r\n", ascii "\r\n"]).isOk := by
  decide +kernel

end Server
