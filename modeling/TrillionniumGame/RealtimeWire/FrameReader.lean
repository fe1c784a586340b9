import TrillionniumGame.RealtimeWire.Streaming

namespace RealtimeWire
open Checks Octets Streams
open Calls (Method check)
open Framing (readBigEndian)

-- What the source returns, and the branches it does not expect: two panics, and the check of the
-- consumed length, which it answers with `protocol` too.
inductive FrameReadError where
  | io | protocol | expect | unreachable | consumedLength

abbrev FrameReader := Method FrameReadError (List UInt8)

def readExact (count : Nat) : FrameReader (List UInt8) := fun input =>
  if count ≤ input.length then (.ok (input.take count), input.drop count) else (.error .io, [])

def extendedLength (indicator : UInt8) : FrameReader (List UInt8) :=
  if indicator ≤ 125 then pure []
  else if indicator = 126 then readExact 2
  else if indicator = 127 then readExact 8
  else check (.error .unreachable)

def fromBigEndian (count : Nat) (bytes : List UInt8) : Except FrameReadError Nat := do
  require (bytes.length = count) .expect
  return readBigEndian bytes 0

def payloadLength (indicator : UInt8) (extended : List UInt8) : Except FrameReadError Nat :=
  if indicator ≤ 125 then .ok indicator.toNat
  else if indicator = 126 then fromBigEndian 2 extended
  else if indicator = 127 then fromBigEndian 8 extended
  else .error .unreachable

def readClientFrameExact (maximum : Nat) : FrameReader ClientFrame := do
  let head ← readExact 2
  let indicator := head.getD 1 0 &&& 0x7f
  let extended ← extendedLength indicator
  let payload ← check (payloadLength indicator extended)
  check (require (¬ (maximum < payload ∨ maxPayloadBytes < payload)) .protocol)
  let mask := if head.getD 1 0 &&& 0x80 = 0 then 0 else 4
  let remainder ← readExact (mask + payload)
  let encoded := head ++ extended ++ remainder
  let (frame, consumed) ← check ((decodeClientFrame encoded).mapError fun _ => .protocol)
  check (require (consumed = encoded.length) .consumedLength)
  return frame

def readClientFrames (maximum : Nat) : Nat → FrameReader (List ClientFrame)
  | 0 => pure []
  | count + 1 => do
    let frame ← readClientFrameExact maximum
    let frames ← readClientFrames maximum count
    return frame :: frames

variable {input rest : List UInt8} {maximum : Nat} {frame : ClientFrame}

theorem indicator_cases (input : List UInt8) : indicatorOf input ≤ 125 ∨
    indicatorOf input = 126 ∨ indicatorOf input = 127 := by
  have hbits : (indicatorOf input).toNat = (input.getD 1 0).toNat % 128 := toNat_and_127 _
  rw [UInt8.le_iff_toNat_le, ← UInt8.toNat_inj, ← UInt8.toNat_inj]
  have h126 : UInt8.toNat 126 = 126 := rfl
  have h127 : UInt8.toNat 127 = 127 := rfl
  have h125 : UInt8.toNat 125 = 125 := rfl
  omega

theorem indicatorOf_append (more : List UInt8) (h : 2 ≤ input.length) :
    indicatorOf (input ++ more) = indicatorOf input :=
  congrArg (· &&& 0x7f) (List.getD_append _ _ _ _ h)

theorem frameBytes_append (more : List UInt8) (h : headerBytes input ≤ input.length) :
    frameBytes (input ++ more) = frameBytes input := by
  have htwo : 2 ≤ input.length := (Nat.le_add_right 2 _).trans h
  have hindicator : indicatorOf (input ++ more) = indicatorOf input :=
    indicatorOf_append more htwo
  have hsecond : (input ++ more).getD 1 0 = input.getD 1 0 := List.getD_append _ _ _ _ htwo
  rw [frameBytes, frameBytes, headerBytes, headerBytes, maskBytes, maskBytes, declaredBytes,
    declaredBytes, hindicator, hsecond, slice_append more h]

theorem decodeClientFrame_take (h : frameBytes input ≤ input.length) :
    decodeClientFrame (input.take (frameBytes input)) = decodeClientFrame input := by
  have hsplit := List.take_append_drop (frameBytes input) input
  have hlength : (input.take (frameBytes input)).length = frameBytes input :=
    List.length_take_of_le h
  rcases decodeClientFrame_extends (input.take (frameBytes input)) (input.drop (frameBytes input))
    with hopen | hsame
  · have hshort := (decodeClientFrame_framed _).of_error hopen rfl
    have hindicator := indicatorOf_append (input.drop (frameBytes input))
      (by rw [hlength, frameBytes, headerBytes]; omega : 2 ≤ (input.take _).length)
    rw [hsplit] at hindicator
    have hheader : headerBytes (input.take (frameBytes input)) ≤
        (input.take (frameBytes input)).length := by
      rw [hlength, headerBytes, ← hindicator]
      exact Nat.le_add_right _ _
    have hframe := frameBytes_append (input.drop (frameBytes input)) hheader
    rw [hsplit] at hframe
    omega
  · rw [hsplit] at hsame
    exact hsame.symm

structure Received (maximum : Nat) (input : List UInt8) (frame : ClientFrame)
    (rest : List UInt8) : Prop where
  decoded : decodeClientFrame input = .ok (frame, frameBytes input)
  available : frameBytes input ≤ input.length
  payload : frame.payload.length ≤ maximum
  rest : rest = input.drop (frameBytes input)

structure Refused (maximum : Nat) (input : List UInt8) (error : FrameReadError)
    (rest : List UInt8) : Prop where
  error : error = .io ∨ error = .protocol
  read : ∃ count ≤ 14 + maximum, count ≤ input.length ∧ rest = input.drop count
  undecoded : ∀ frame consumed, decodeClientFrame input = .ok (frame, consumed) →
    maximum < frame.payload.length

theorem ensures_readExact {count : Nat} {Q : List UInt8 → List UInt8 → Prop}
    {E : FrameReadError → List UInt8 → Prop} :
    Calls.Ensures (readExact count) input Q E ↔
      (count ≤ input.length → Q (input.take count) (input.drop count)) ∧
        (input.length < count → E .io []) := by
  rw [Calls.ensures_iff, readExact]
  split
  · next hcount => exact ⟨fun h => ⟨fun _ => h, fun hshort => by omega⟩, fun h => h.1 hcount⟩
  · next hcount => exact ⟨fun h => ⟨fun hlong => absurd hlong hcount, fun _ => h⟩,
      fun h => h.2 (Nat.lt_of_not_le hcount)⟩

theorem extendedLength_reads (input : List UInt8) :
    extendedLength (indicatorOf input) = readExact (extendedBytes (indicatorOf input)) := by
  rw [extendedLength, extendedBytes]
  split
  · rfl
  · next hsmall =>
    rcases indicator_cases input with hind | hind | hind
    · exact absurd hind hsmall
    · rw [if_pos hind, if_pos hind]
    · rw [if_neg (by rw [hind]; decide), if_pos hind, if_neg (by rw [hind]; decide)]

theorem payloadLength_declared (h : headerBytes input ≤ input.length) :
    payloadLength (indicatorOf input)
      ((input.drop 2).take (extendedBytes (indicatorOf input))) = .ok (declaredBytes input) := by
  have hlength : ((input.drop 2).take (extendedBytes (indicatorOf input))).length =
      extendedBytes (indicatorOf input) := by
    rw [headerBytes] at h
    rw [List.length_take, List.length_drop]
    omega
  rw [payloadLength, declaredBytes]
  split
  · rfl
  · next hsmall =>
    rcases indicator_cases input with hind | hind | hind
    · exact absurd hind hsmall
    · rw [if_pos hind, fromBigEndian, require_of (by rw [hlength, hind]; rfl)]
      rfl
    · rw [if_neg (by rw [hind]; decide), if_pos hind, fromBigEndian,
        require_of (by rw [hlength, hind]; rfl)]
      rfl

theorem refused_short (hlength : input.length < frameBytes input)
    (hbound : input.length ≤ 14 + maximum) : Refused maximum input .io [] where
  error := .inl rfl
  read := ⟨input.length, hbound, le_rfl, List.drop_length.symm⟩
  undecoded _ _ hdecode :=
    absurd ((decodeClientFrame_framed input).of_ok hdecode).available (Nat.not_le.mpr hlength)

theorem readClientFrameExact_ensures (maximum : Nat) (input : List UInt8) :
    Calls.Ensures (readClientFrameExact maximum) input (Received maximum input)
      (Refused maximum input) := by
  have hheader : headerBytes input = 2 + extendedBytes (indicatorOf input) := rfl
  have hbound := headerBytes_maskBytes_le input
  have hframe : frameBytes input = headerBytes input + (maskBytes input + declaredBytes input) :=
    rfl
  rw [readClientFrameExact, Calls.ensures_bind, ensures_readExact]
  refine ⟨fun htwo => ?_, fun hshort => refused_short (by omega) (by omega)⟩
  have hsecond : (input.take 2).getD 1 0 = input.getD 1 0 := by
    conv_rhs => rw [← List.take_append_drop 2 input]
    exact (List.getD_append _ _ _ _ (by rw [List.length_take]; omega)).symm
  have hindicator : input.getD 1 0 &&& 0x7f = indicatorOf input := rfl
  dsimp only
  rw [hsecond, hindicator, Calls.ensures_bind, extendedLength_reads, ensures_readExact,
    List.length_drop]
  refine ⟨fun hextended => ?_, fun hshort => refused_short (by omega) (by omega)⟩
  rw [payloadLength_declared (by omega), List.drop_drop, ← hheader, Calls.ensures_bind,
    Calls.ensures_check, ensures_ok, Calls.ensures_bind, Calls.ensures_check, ensures_require]
  refine ⟨fun hsize => ?_, fun hlarge => ⟨.inr rfl, ⟨headerBytes input, by omega, by omega, rfl⟩,
    fun frame consumed hdecode => ?_⟩⟩
  · change Calls.Ensures (readExact (maskBytes input + declaredBytes input) >>= _) _ _ _
    rw [Calls.ensures_bind, ensures_readExact, List.length_drop]
    refine ⟨fun hremainder => ?_, fun hshort => refused_short (by omega) (by omega)⟩
    have hencoded : input.take 2 ++ (input.drop 2).take (extendedBytes (indicatorOf input)) ++
        (input.drop (headerBytes input)).take (maskBytes input + declaredBytes input) =
          input.take (frameBytes input) := by
      rw [← List.take_add, ← hheader, ← List.take_add, hframe]
    rw [hencoded, List.drop_drop, ← hframe, decodeClientFrame_take (by omega), Calls.ensures_bind,
      Calls.ensures_check, ensures_mapError, List.length_take_of_le (by omega)]
    cases hdecode : decodeClientFrame input with
    | error error =>
      exact ⟨.inr rfl, ⟨frameBytes input, by omega, by omega, rfl⟩,
        fun _ _ hok => nomatch hdecode.symm.trans hok⟩
    | ok result =>
      obtain ⟨frame, consumed⟩ := result
      obtain ⟨rfl, -, hpayload, -⟩ := (decodeClientFrame_framed input).of_ok hdecode
      rw [ensures_ok, Calls.ensures_bind, Calls.ensures_check, require_of rfl]
      refine Calls.ensures_pure.mpr ⟨hdecode, by omega, ?_, rfl⟩
      rw [hpayload]
      omega
  · have hframed := (decodeClientFrame_framed input).of_ok hdecode
    have hmaximum := hframed.maximum
    rw [hframed.payload]
    omega

theorem readClientFrameExact_ok :
    readClientFrameExact maximum input = (.ok frame, rest) ↔ ∃ consumed,
      decodeClientFrame input = .ok (frame, consumed) ∧ consumed ≤ input.length ∧
        frame.payload.length ≤ maximum ∧ rest = input.drop consumed := by
  constructor
  · intro h
    have hreceived : Received maximum input frame rest :=
      readClientFrameExact_ensures maximum input _ _ h
    exact ⟨_, hreceived.decoded, hreceived.available, hreceived.payload, hreceived.rest⟩
  · rintro ⟨consumed, hdecode, -, hpayload, rfl⟩
    cases h : readClientFrameExact maximum input with
    | mk result left =>
      have hread := readClientFrameExact_ensures maximum input result left h
      cases result with
      | error error =>
        exact absurd (hread.undecoded frame consumed hdecode) (Nat.not_lt.mpr hpayload)
      | ok frame' =>
        cases hread.decoded.symm.trans hdecode
        rw [hread.rest]

theorem readClientFrames_ok (frames : List (List UInt8 × ClientFrame)) (rest : List UInt8)
    (h : ∀ frame ∈ frames, decodeClientFrame frame.1 = .ok (frame.2, frame.1.length) ∧
      frame.2.payload.length ≤ maximum) :
    readClientFrames maximum frames.length ((frames.map Prod.fst).flatten ++ rest) =
      (.ok (frames.map Prod.snd), rest) := by
  induction frames with
  | nil => rfl
  | cons frame frames ih =>
    obtain ⟨⟨hdecode, hpayload⟩, hlater⟩ := List.forall_mem_cons.mp h
    obtain ⟨encoded, frame⟩ := frame
    have hread : readClientFrameExact maximum (encoded ++ ((frames.map Prod.fst).flatten ++ rest)) =
        (.ok frame, (frames.map Prod.fst).flatten ++ rest) := by
      refine readClientFrameExact_ok.mpr ⟨_,
        decodeClientFrame_accepted hdecode _, ?_, hpayload, List.drop_left.symm⟩
      rw [List.length_append]
      exact Nat.le_add_right _ _
    rw [List.length_cons, readClientFrames, List.map_cons, List.flatten_cons, List.append_assoc,
      Calls.bind_apply, hread]
    dsimp only
    rw [Calls.bind_apply, ih hlater]
    rfl

structure ExactReader (maximum : Nat) (read : FrameReader ClientFrame) : Prop where
  decodes : ∀ input frame rest, read input = (.ok frame, rest) ↔ ∃ consumed,
    decodeClientFrame input = .ok (frame, consumed) ∧ consumed ≤ input.length ∧
      frame.payload.length ≤ maximum ∧ rest = input.drop consumed
  bounded : ∀ input result rest, read input = (result, rest) →
    ∃ count ≤ 14 + maximum, count ≤ input.length ∧ rest = input.drop count
  expected : ∀ input error rest, read input = (.error error, rest) →
    error = .io ∨ error = .protocol

theorem client_frames_read_exactly (maximum : Nat) :
    ExactReader maximum (readClientFrameExact maximum) ∧
      ∀ (frames : List (List UInt8 × ClientFrame)) (rest : List UInt8),
        (∀ frame ∈ frames, decodeClientFrame frame.1 = .ok (frame.2, frame.1.length) ∧
          frame.2.payload.length ≤ maximum) →
        readClientFrames maximum frames.length ((frames.map Prod.fst).flatten ++ rest) =
          (.ok (frames.map Prod.snd), rest) := by
  refine ⟨⟨fun input frame rest => readClientFrameExact_ok, fun input result rest h => ?_,
    fun input error rest h => ?_⟩, readClientFrames_ok⟩
  · have hread := readClientFrameExact_ensures maximum input result rest h
    cases result with
    | error error => exact hread.read
    | ok frame =>
      have hframed := (decodeClientFrame_framed input).of_ok hread.decoded
      have hpayload := hread.payload
      have hbound := headerBytes_maskBytes_le input
      rw [hframed.payload] at hpayload
      exact ⟨_, by rw [frameBytes]; omega, hread.available, hread.rest⟩
  · have hrefused : Refused maximum input error rest :=
      readClientFrameExact_ensures maximum input _ _ h
    exact hrefused.error

end RealtimeWire
