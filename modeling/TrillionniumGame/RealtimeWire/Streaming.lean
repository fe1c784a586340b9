import TrillionniumGame.RealtimeWire.Protobuf

namespace RealtimeWire
open Checks Octets Streams Words
open DigestTable (bigEndian length_bigEndian)
open Framing (readBigEndian readBigEndian_bigEndian)
open GoText (validString)

def indicatorOf (input : List UInt8) : UInt8 := input.getD 1 0 &&& 0x7f

def extendedBytes (indicator : UInt8) : Nat :=
  if indicator ≤ 125 then 0 else if indicator = 126 then 2 else 8

def headerBytes (input : List UInt8) : Nat := 2 + extendedBytes (indicatorOf input)

def maskBytes (input : List UInt8) : Nat := if input.getD 1 0 &&& 0x80 = 0 then 0 else 4

def declaredBytes (input : List UInt8) : Nat :=
  if indicatorOf input ≤ 125 then (indicatorOf input).toNat
  else readBigEndian ((input.drop 2).take (extendedBytes (indicatorOf input))) 0

def frameBytes (input : List UInt8) : Nat :=
  headerBytes input + (maskBytes input + declaredBytes input)

variable {input : List UInt8} {indicator : UInt8} {opcode : Opcode} {payload : List UInt8}

theorem extendedBytes_le (indicator : UInt8) : extendedBytes indicator ≤ 8 := by
  rw [extendedBytes]
  split
  · exact Nat.zero_le 8
  · split
    · decide
    · exact le_rfl

theorem headerBytes_maskBytes_le (input : List UInt8) :
    headerBytes input + maskBytes input ≤ 14 := by
  have hheader := extendedBytes_le (indicatorOf input)
  have hmask : maskBytes input ≤ 4 := by
    rw [maskBytes]
    split
    · decide
    · exact le_rfl
  rw [headerBytes]
  omega

theorem payloadExtent_extends (indicator : UInt8) (input more : List UInt8) :
    Extends .incomplete (payloadExtent indicator input)
      (payloadExtent indicator (input ++ more)) := by
  rw [payloadExtent, payloadExtent]
  split
  · exact extends_refl _
  · split
    · refine extends_demand more fun hlength => ?_
      rw [slice_append more hlength]
      exact extends_refl _
    · refine extends_demand more fun hlength => ?_
      rw [slice_append more hlength, List.getD_append _ _ _ _ (by omega)]
      exact extends_refl _

theorem decodeClientFrame_extends (input more : List UInt8) :
    Extends .incomplete (decodeClientFrame input) (decodeClientFrame (input ++ more)) := by
  rw [decodeClientFrame, decodeClientFrame]
  refine extends_demand more fun hlength => ?_
  rw [List.getD_append _ _ _ 0 (by omega), List.getD_append _ _ _ 1 (by omega)]
  dsimp only
  refine extends_bind (extends_refl _) fun _ _ => extends_bind (extends_refl _) fun _ _ =>
    extends_bind (extends_refl _) fun opcode _ => extends_bind (extends_refl _) fun _ _ =>
    extends_bind (payloadExtent_extends _ _ _) fun (payloadLength, headerLength) _ => ?_
  refine extends_bind (extends_refl _) fun _ _ => extends_bind (extends_refl _) fun _ _ =>
    extends_bind (extends_refl _) fun maskEnd hmask =>
    extends_bind (extends_refl _) fun frameEnd hframe => extends_demand more fun hend => ?_
  obtain ⟨-, rfl⟩ := fits_some.mp (fetch_ok.mp hmask)
  obtain ⟨-, rfl⟩ := fits_some.mp (fetch_ok.mp hframe)
  rw [slice_append more (by omega), slice_append more hend]
  exact extends_refl _

def OpenBelow (bound : Nat) (input : List UInt8) (error : FrameError) : Prop :=
  error = .incomplete → input.length < bound

theorem payloadExtent_declared (input : List UInt8) :
    Ensures (fun extent => extent = (declaredBytes input, headerBytes input))
      (OpenBelow (headerBytes input) input) (payloadExtent (indicatorOf input) input) := by
  rw [payloadExtent, declaredBytes, headerBytes, extendedBytes]
  split
  · rfl
  · split
    · simp only [ensures_bind, ensures_require, ensures_pure]
      exact ⟨fun _ => ⟨fun _ => trivial, fun _ h => by cases h⟩, fun hshort _ => by omega⟩
    · simp only [ensures_bind, ensures_require, ensures_pure]
      exact ⟨fun _ => ⟨fun _ => ⟨fun _ => trivial, fun _ h => by cases h⟩, fun _ h => by cases h⟩,
        fun hshort _ => by omega⟩

theorem parse_decided (value : UInt8) (bound : Nat) (input : List UInt8) :
    Ensures (fun _ => True) (OpenBelow bound input) (Opcode.parse value) := by
  rw [Opcode.parse]
  iterate 5 (split; · trivial)
  split
  · exact nofun
  · exact nofun

theorem close_decided (frame : ClientFrame) (bound : Nat) (input : List UInt8) :
    Ensures (fun _ => True) (OpenBelow bound input) frame.close := by
  rw [ClientFrame.close]
  split
  · trivial
  · split
    · trivial
    · intro h; cases h
    · simp only [ensures_bind, ensures_require, ensures_pure]
      exact ⟨fun _ => ⟨fun _ => trivial, fun _ h => by cases h⟩, fun _ h => by cases h⟩

structure Framed (input : List UInt8) (result : ClientFrame × Nat) : Prop where
  consumed : result.2 = frameBytes input
  available : frameBytes input ≤ input.length
  payload : result.1.payload.length = declaredBytes input
  maximum : declaredBytes input ≤ maxPayloadBytes

theorem decodeClientFrame_framed (input : List UInt8) :
    Ensures (Framed input) (OpenBelow (min (frameBytes input) (14 + maxPayloadBytes)) input)
      (decodeClientFrame input) := by
  have hbound := headerBytes_maskBytes_le input
  have hframe : frameBytes input = headerBytes input + (maskBytes input + declaredBytes input) :=
    rfl
  rw [decodeClientFrame]
  simp only [ensures_bind, ensures_require, ensures_fetch, ensures_pure]
  refine ⟨fun _ => ⟨fun _ => ⟨fun _ => ?_, fun _ h => by cases h⟩, fun _ h => by cases h⟩, fun hshort _ => ?_⟩
  · refine (parse_decided _ _ input).mono (fun opcode _ _ => ⟨fun hmask => ?_, fun _ h => by cases h⟩)
      fun _ => id
    have hmasked : maskBytes input = 4 := if_neg hmask
    refine (payloadExtent_declared input).mono (fun extent _ hextent => ?_)
      fun error hopen herror => ?_
    · cases hextent
      refine ⟨fun _ => ⟨fun hmaximum => ⟨fun maskEnd hmaskEnd => ⟨fun frameEnd hend => ?_,
        fun _ h => by cases h⟩, fun hnone _ => ?_⟩, fun _ h => by cases h⟩, fun _ h => by cases h⟩
      · obtain ⟨-, rfl⟩ := fits_some.mp hmaskEnd
        obtain ⟨-, rfl⟩ := fits_some.mp hend
        have htotal : headerBytes input + 4 + declaredBytes input = frameBytes input := by omega
        rw [htotal]
        refine ⟨fun hlength => ⟨fun _ => ?_, fun _ h => by cases h⟩, fun hshort _ => by omega⟩
        refine (close_decided _ _ input).mono (fun _ _ _ => ⟨rfl, hlength, ?_, hmaximum⟩)
          fun _ => id
        rw [List.length_mapIdx, List.length_take, List.length_drop]
        dsimp only
        omega
      · have hfits := fits_some.mpr ⟨(by omega : headerBytes input + 4 < 2 ^ 64), rfl⟩
        rw [hfits] at hnone
        cases hnone
    · have hshort := hopen herror
      omega
  · rw [headerBytes] at hframe
    omega

theorem decodeClientFrame_bound (input : List UInt8) :
    Ensures (fun _ => True) (OpenBelow (14 + maxPayloadBytes) input) (decodeClientFrame input) :=
  (decodeClientFrame_framed input).mono (fun _ _ _ => trivial) fun _ hopen herror =>
    (hopen herror).trans_le (min_le_right _ _)

def lengthBytes (length : Nat) : List UInt8 :=
  if length ≤ 125 then [UInt8.ofNat length ||| 0x80]
  else if length ≤ 65535 then 0xfe :: bigEndian length 2
  else 0xff :: bigEndian length 8

def masked (mask : Vector UInt8 4) (payload : List UInt8) : List UInt8 :=
  payload.mapIdx fun index byte => byte ^^^ mask.toList.getD (index % 4) 0

def maskedFrame (opcode : Opcode) (mask : Vector UInt8 4) (payload : List UInt8) : List UInt8 :=
  (0x80 ||| opcode.value) :: lengthBytes payload.length ++ mask.toList ++ masked mask payload

structure Acceptable (opcode : Opcode) (payload : List UInt8) : Prop where
  size : payload.length ≤ maxPayloadBytes
  control : opcode.isControl = true → payload.length ≤ 125
  text : opcode = .text → validString payload = true
  close : opcode = .close → payload = [] ∨ ∃ high low reason, payload = high :: low :: reason ∧
    validCloseCode (readBigEndian [high, low] 0) = true ∧ validString reason = true

theorem masked_masked (mask : Vector UInt8 4) (payload : List UInt8) :
    masked mask (masked mask payload) = payload := by
  rw [masked, masked, List.mapIdx_mapIdx]
  refine List.ext_getElem (List.length_mapIdx) fun index _ _ => ?_
  rw [List.getElem_mapIdx, Function.comp_apply, UInt8.xor_assoc, UInt8.xor_self, UInt8.xor_zero]

theorem length_masked (mask : Vector UInt8 4) (payload : List UInt8) :
    (masked mask payload).length = payload.length := List.length_mapIdx

theorem readBigEndian_slice (first mark : UInt8) {length count : Nat} (hlength : length < 256 ^ count)
    (rest : List UInt8) :
    readBigEndian ((([first, mark] ++ bigEndian length count ++ rest).drop 2).take count) 0 = length ∧
      2 + count ≤ ([first, mark] ++ bigEndian length count ++ rest).length := by
  have hslice := slice_middle [first, mark] (bigEndian length count) rest
  rw [length_bigEndian] at hslice
  constructor
  · refine (congrArg (readBigEndian · 0) hslice).trans ?_
    rw [readBigEndian_bigEndian, Nat.zero_mul, Nat.zero_add, Nat.mod_eq_of_lt hlength]
  · simp only [List.length_append, length_bigEndian, List.length_cons, List.length_nil]
    omega

theorem payloadExtent_lengthBytes {length : Nat} (hmaximum : length ≤ maxPayloadBytes)
    (first : UInt8) (rest : List UInt8) : ∃ second tail, lengthBytes length = second :: tail ∧ second &&& 0x80 ≠ 0 ∧
      payloadExtent (second &&& 0x7f) (first :: lengthBytes length ++ rest) =
        .ok (length, 1 + (lengthBytes length).length) := by
  by_cases hsmall : length ≤ 125
  · have hvalue : (UInt8.ofNat length).toNat = length := by
      rw [UInt8.toNat_ofNat']
      omega
    have hbits : (UInt8.ofNat length ||| 0x80) &&& 0x7f = UInt8.ofNat length :=
      or_128_and_127 (by omega)
    rw [lengthBytes, if_pos hsmall]
    refine ⟨_, _, rfl, ?_, ?_⟩
    · rw [Ne, and_128_eq_zero, toNat_or_128 (by omega)]
      omega
    · have hindicator : UInt8.ofNat length ≤ 125 := by
        rw [UInt8.le_iff_toNat_le, hvalue]
        exact hsmall
      rw [hbits, payloadExtent, if_pos hindicator, hvalue]
      rfl
  · by_cases hmedium : length ≤ 65535
    · obtain ⟨hread, hlength⟩ := readBigEndian_slice first 0xfe (by omega : length < 256 ^ 2) rest
      rw [lengthBytes, if_neg hsmall, if_pos hmedium]
      refine ⟨_, _, rfl, by decide, ?_⟩
      change payloadExtent 126 ([first, 0xfe] ++ bigEndian length 2 ++ rest) = _
      rw [payloadExtent, if_neg (by decide), if_pos rfl, require_of hlength, ok_bind, hread]
      dsimp only
      rw [require_of (by omega), ok_bind, List.length_cons, length_bigEndian]
      rfl
    · have hwide : length < 2 ^ 56 := hmaximum.trans_lt (by decide)
      obtain ⟨hread, hlength⟩ := readBigEndian_slice first 0xff (by omega : length < 256 ^ 8) rest
      have htop : ([first, 0xff] ++ bigEndian length 8 ++ rest).getD 2 0 &&& 0x80 = 0 := by
        have hhigh : UInt8.ofNat (length >>> 56) = 0 := by
          rw [Nat.shiftRight_eq_div_pow, Nat.div_eq_of_lt hwide]
          rfl
        change UInt8.ofNat (length >>> 56) &&& 0x80 = 0
        rw [hhigh]
        rfl
      rw [lengthBytes, if_neg hsmall, if_neg hmedium]
      refine ⟨_, _, rfl, by decide, ?_⟩
      change payloadExtent 127 ([first, 0xff] ++ bigEndian length 8 ++ rest) = _
      rw [payloadExtent, if_neg (by decide), if_neg (by decide), require_of hlength, ok_bind,
        require_of htop, ok_bind, hread]
      dsimp only
      rw [require_of (by omega), ok_bind, List.length_cons, length_bigEndian]
      rfl

theorem first_byte (opcode : Opcode) : (0x80 ||| opcode.value) &&& 0x70 = 0 ∧
    (0x80 ||| opcode.value) &&& 0x80 ≠ 0 ∧
    Opcode.parse ((0x80 ||| opcode.value) &&& 0x0f) = .ok opcode := by
  cases opcode with
  | text | binary | close | ping | pong => exact ⟨rfl, by decide, rfl⟩

theorem Acceptable.closes (h : Acceptable opcode payload) :
    ∃ close, ClientFrame.close ⟨opcode, payload⟩ = .ok close := by
  rw [ClientFrame.close]
  split
  · exact ⟨_, rfl⟩
  · next hclose =>
    obtain rfl | ⟨high, low, reason, rfl, hcode, hreason⟩ := h.close (not_not.mp hclose)
    · exact ⟨_, rfl⟩
    · refine ⟨some ⟨some (readBigEndian [high, low] 0), reason⟩, ?_⟩
      dsimp only
      rw [require_of hcode, ok_bind, require_of hreason]
      rfl

structure Begins (input : List UInt8) (opcode : Opcode) (mask : Vector UInt8 4)
    (payload : List UInt8) (second : UInt8) (header : Nat) : Prop where
  kind : input.getD 0 0 = 0x80 ||| opcode.value
  size : input.getD 1 0 = second
  marked : second &&& 0x80 ≠ 0
  extent : payloadExtent (second &&& 0x7f) input = .ok (payload.length, header)
  key : (input.drop header).take 4 = mask.toList
  body : (input.drop (header + 4)).take payload.length = masked mask payload
  length : header + 4 + payload.length ≤ input.length

theorem maskedFrame_begins (hmaximum : payload.length ≤ maxPayloadBytes) (opcode : Opcode)
    (mask : Vector UInt8 4) (trailing : List UInt8) :
    ∃ second header, Begins (maskedFrame opcode mask payload ++ trailing) opcode mask payload
      second header ∧ header + 4 + payload.length = (maskedFrame opcode mask payload).length := by
  obtain ⟨second, tail, hbytes, hmarked, hextent⟩ := payloadExtent_lengthBytes hmaximum
    (0x80 ||| opcode.value) (mask.toList ++ masked mask payload ++ trailing)
  have hmask := slice_middle ((0x80 ||| opcode.value) :: lengthBytes payload.length) mask.toList
    (masked mask payload ++ trailing)
  have hpayload := slice_middle
    ((0x80 ||| opcode.value) :: lengthBytes payload.length ++ mask.toList) (masked mask payload)
    trailing
  have hlength : (maskedFrame opcode mask payload).length =
      1 + (lengthBytes payload.length).length + 4 + payload.length := by
    simp only [maskedFrame, List.length_append, List.length_cons, length_masked,
      Vector.length_toList]
    omega
  have hheader : ((0x80 ||| opcode.value) :: lengthBytes payload.length).length =
      1 + (lengthBytes payload.length).length := Nat.add_comm _ 1
  rw [hheader, Vector.length_toList, ← List.append_assoc] at hmask
  rw [List.length_append, hheader, Vector.length_toList, length_masked] at hpayload
  rw [← List.append_assoc, ← List.append_assoc] at hextent
  refine ⟨second, _, ⟨rfl, ?_, hmarked, hextent, hmask, hpayload, ?_⟩, hlength.symm⟩
  · rw [maskedFrame, hbytes]
    rfl
  · rw [List.length_append, hlength]
    exact Nat.le_add_right _ _

theorem Begins.decodes {mask : Vector UInt8 4} {second : UInt8} {header : Nat}
    (h : Begins input opcode mask payload second header) (hacceptable : Acceptable opcode payload) :
    decodeClientFrame input = .ok (⟨opcode, payload⟩, header + 4 + payload.length) := by
  obtain ⟨hreserved, hfinal, hparse⟩ := first_byte opcode
  obtain ⟨close, hclose⟩ := hacceptable.closes
  have hheader : header = headerBytes input := congrArg Prod.snd
    ((payloadExtent_declared input).of_ok (by rw [indicatorOf, h.size, h.extent]))
  have hbound := headerBytes_maskBytes_le input
  have hmaximum := hacceptable.size
  have hsize : payload.length < 2 ^ 63 := hmaximum.trans_lt (by decide)
  have hlength := h.length
  have hcontrol : ¬ (opcode.isControl = true ∧ 125 < payload.length) :=
    fun hlong => absurd (hacceptable.control hlong.1) (Nat.not_le.mpr hlong.2)
  have htext : ¬ (opcode = .text ∧ validString payload = false) := by
    rintro ⟨htext, hinvalid⟩
    rw [hacceptable.text htext] at hinvalid
    cases hinvalid
  have hmaskEnd : fits 64 (header + 4) = some (header + 4) := fits_some.mpr ⟨by omega, rfl⟩
  have hframeEnd : fits 64 (header + 4 + payload.length) = some (header + 4 + payload.length) :=
    fits_some.mpr ⟨by omega, rfl⟩
  have hunmasked : (masked mask payload).mapIdx
      (fun index byte => byte ^^^ mask.toList.getD (index % 4) 0) = payload :=
    masked_masked mask payload
  rw [decodeClientFrame, require_of (by omega), ok_bind, h.kind, h.size]
  dsimp only
  rw [require_of hreserved, ok_bind, require_of hfinal, ok_bind, hparse, ok_bind,
    require_of h.marked, ok_bind, h.extent, ok_bind]
  dsimp only
  rw [require_of hcontrol, ok_bind, require_of hmaximum, ok_bind, hmaskEnd, fetch_ok.mpr rfl,
    ok_bind, hframeEnd, fetch_ok.mpr rfl, ok_bind, require_of h.length, ok_bind, h.key, h.body,
    hunmasked, require_of htext, ok_bind, hclose]
  rfl

theorem decodeClientFrame_masked (h : Acceptable opcode payload) (mask : Vector UInt8 4)
    (trailing : List UInt8) :
    decodeClientFrame (maskedFrame opcode mask payload ++ trailing) =
      .ok (⟨opcode, payload⟩, (maskedFrame opcode mask payload).length) := by
  obtain ⟨second, header, hbegins, hlength⟩ := maskedFrame_begins h.size opcode mask trailing
  rw [hbegins.decodes h, hlength]

structure StreamingDecoder (decode : List UInt8 → Except FrameError (ClientFrame × Nat)) :
    Prop where
  frames : ∀ opcode mask payload trailing, Acceptable opcode payload →
    decode (maskedFrame opcode mask payload ++ trailing) =
      .ok (⟨opcode, payload⟩, (maskedFrame opcode mask payload).length)
  accepted : ∀ input more result, decode input = .ok result → decode (input ++ more) = .ok result
  rejected : ∀ input more error, error ≠ .incomplete → decode input = .error error →
    decode (input ++ more) = .error error
  complete : ∀ input result, decode input = .ok result →
    result.2 = frameBytes input ∧ frameBytes input ≤ input.length
  unfinished : ∀ input, decode input = .error .incomplete →
    input.length < min (frameBytes input) (14 + maxPayloadBytes) ∧
      ∃ more, more ≠ [] ∧ (input ++ more).length = 14 + maxPayloadBytes ∧
        decode (input ++ more) ≠ .error .incomplete
  fed : ∀ input more, 14 + maxPayloadBytes ≤ (input ++ more).length →
    decode (input ++ more) ≠ .error .incomplete

theorem decodeClientFrame_fed {input : List UInt8} (h : 14 + maxPayloadBytes ≤ input.length) :
    decodeClientFrame input ≠ .error .incomplete := fun hopen =>
  absurd ((decodeClientFrame_bound input).of_error hopen rfl) (Nat.not_lt.mpr h)

theorem decodeClientFrame_accepted {result : ClientFrame × Nat}
    (h : decodeClientFrame input = .ok result) (more : List UInt8) :
    decodeClientFrame (input ++ more) = .ok result := by
  rcases decodeClientFrame_extends input more with hopen | hsame
  · rw [hopen] at h
    cases h
  · rw [hsame, h]

theorem client_frames_stream : StreamingDecoder decodeClientFrame where
  frames := fun _ mask _ trailing h => decodeClientFrame_masked h mask trailing
  accepted := fun _ more _ h => decodeClientFrame_accepted h more
  rejected := by
    intro input more error hdecided h
    rcases decodeClientFrame_extends input more with hopen | hsame
    · rw [hopen] at h
      exact absurd (Except.error.inj h).symm hdecided
    · rw [hsame, h]
  complete := fun input _ h =>
    ⟨((decodeClientFrame_framed input).of_ok h).consumed,
      ((decodeClientFrame_framed input).of_ok h).available⟩
  unfinished := by
    intro input h
    have hshort := (decodeClientFrame_framed input).of_error h rfl
    have hbound := hshort.trans_le (min_le_right _ _)
    have hlength : (input ++ .replicate (14 + maxPayloadBytes - input.length) 0).length =
        14 + maxPayloadBytes := by
      rw [List.length_append, List.length_replicate, Nat.add_sub_cancel' hbound.le]
    refine ⟨hshort, _, ?_, hlength, decodeClientFrame_fed hlength.ge⟩
    rw [Ne, List.replicate_eq_nil_iff]
    exact Nat.sub_ne_zero_of_lt hbound
  fed := fun _ _ h => decodeClientFrame_fed h

end RealtimeWire
