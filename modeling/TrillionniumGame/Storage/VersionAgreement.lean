import TrillionniumGame.Storage.State

namespace Storage
open Checks
open NakamaVersion (PublicStorageVersion WriteCondition)

variable {value : List UInt8} {words : List UInt32} {state : Md5State}

def Md5State.registers (state : Md5State) : Md5.Registers := ⟨state.a, state.b, state.c, state.d⟩

def roundAuxiliary (index : Nat) : Md5.Auxiliary :=
  if index < 16 then .f else if index < 32 then .g else if index < 48 then .h else .i

def roundWord (index : Nat) : Nat :=
  if index < 16 then index
  else if index < 32 then (5 * index + 1) % 16
  else if index < 48 then (3 * index + 5) % 16
  else 7 * index % 16

def roundOperation (index shift : Nat) (constant : UInt32) : Md5.Operation :=
  ⟨roundAuxiliary index, roundWord index, shift, constant⟩

theorem turn_value (b sum constant word : UInt32) (shift : Nat) :
    b + rotateLeft (sum + constant + word) shift = b + Md5.rotate (sum + word + constant) shift := by
  rw [UInt32.add_assoc, UInt32.add_comm constant word, ← UInt32.add_assoc]
  rfl

theorem majority_eq (b c d : UInt32) :
    (d &&& b) ||| (~~~d &&& c) = (b &&& d) ||| (c &&& ~~~d) := by
  rw [UInt32.and_comm d b, UInt32.and_comm (~~~d) c]

theorem md5Round_registers (index shift : Nat) (constant : UInt32) :
    (md5Round words state index shift constant).registers =
      Md5.spin words state.registers (roundOperation index shift constant) := by
  simp only [md5Round, Md5.spin, Md5.Operation.value, roundOperation, roundAuxiliary, roundWord,
    Md5State.registers]
  split_ifs with hfirst hsecond hthird
  · rw [turn_value]
    rfl
  · rw [turn_value, majority_eq]
    rfl
  · rw [turn_value]
    rfl
  · rw [turn_value]
    rfl

theorem round_eq (index : Nat) :
    NakamaVersion.round words state index = md5Round words state index
      (NakamaVersion.rotations.getD index 0) (NakamaVersion.roundConstants.getD index 0) := by
  have hfirst : index ≤ 15 ↔ index < 16 := Nat.lt_succ_iff.symm
  have hsecond : index ≤ 31 ↔ index < 32 := Nat.lt_succ_iff.symm
  have hthird : index ≤ 47 ↔ index < 48 := Nat.lt_succ_iff.symm
  simp only [NakamaVersion.round, md5Round, hfirst, hsecond, hthird]

theorem foldl_spin {α : Type} (words : List UInt32) (state : Md5State)
    (turn : Md5State → α → Md5State) (operation : α → Md5.Operation)
    (hturn : ∀ state index,
      (turn state index).registers = Md5.spin words state.registers (operation index))
    (indexes : List α) :
    (indexes.foldl turn state).registers =
      (indexes.map operation).foldl (Md5.spin words) state.registers := by
  induction indexes generalizing state with
  | nil => rfl
  | cons index rest ih => rw [List.foldl_cons, ih, hturn, List.map_cons, List.foldl_cons]

variable {block : List UInt8}

theorem md5Words_eq (hblock : block.length = 64) : md5Words block = Md5.words block := by
  rw [Md5.words, Md5.chunks, hblock, List.map_map]
  rfl

theorem md5Block_registers (hblock : block.length = 64) :
    (md5Block state block).registers = Md5.turned state.registers block := by
  have hfinal := foldl_spin (Md5.words block) state
    (fun current round => md5Round (Md5.words block) current round.2 round.1.1 round.1.2)
    (fun round => roundOperation round.2 round.1.1 round.1.2)
    (fun _ _ => by rw [md5Round_registers]) (md5Shifts.zip md5Constants).zipIdx
  have htable : ((md5Shifts.zip md5Constants).zipIdx).map
      (fun round => roundOperation round.2 round.1.1 round.1.2) = Md5.operations := by
    decide
  rw [htable] at hfinal
  rw [Md5.turned, ← hfinal, md5Block, md5Words_eq hblock]
  rfl

theorem digestBlock_registers (block : List UInt8) :
    (NakamaVersion.digestBlock state block).registers = Md5.turned state.registers block := by
  have hfinal := foldl_spin (Md5.words block) state
    (NakamaVersion.round (Md5.words block))
    (fun index => roundOperation index (NakamaVersion.rotations.getD index 0)
      (NakamaVersion.roundConstants.getD index 0))
    (fun _ _ => by rw [round_eq, md5Round_registers]) (List.range 64)
  have htable : (List.range 64).map (fun index => roundOperation index
      (NakamaVersion.rotations.getD index 0) (NakamaVersion.roundConstants.getD index 0)) =
      Md5.operations := by
    decide
  have hwords : (Md5.chunks 4 block).map littleEndian32 = Md5.words block := rfl
  rw [htable] at hfinal
  rw [Md5.turned, ← hfinal, NakamaVersion.digestBlock, hwords]
  generalize (List.range 64).foldl (NakamaVersion.round (Md5.words block)) state = final
  rfl

theorem md5Message_eq (input : List UInt8) : md5Message input = Md5.pad input := by
  have hzeros : md5Zeros (input ++ [0x80]).length = Md5.zeros input.length := by
    rw [md5Zeros, Md5.zeros, List.length_append, List.length_singleton]
    omega
  simp only [md5Message, hzeros, Md5.pad, List.append_assoc, List.cons_append]
  rfl

theorem padZeros_eq (padded : List UInt8) :
    NakamaVersion.padZeros padded = padded ++ List.replicate (md5Zeros padded.length) 0 := by
  fun_induction NakamaVersion.padZeros padded with
  | case1 padded hdone =>
    have hzeros : md5Zeros padded.length = 0 := by
      rw [md5Zeros]
      omega
    rw [hzeros, List.replicate_zero, List.append_nil]
  | case2 padded hmore ih =>
    have hzeros : md5Zeros padded.length = md5Zeros (padded ++ [0]).length + 1 := by
      rw [md5Zeros, md5Zeros, List.length_append, List.length_singleton]
      omega
    rw [ih, hzeros, List.replicate_succ, List.append_assoc, List.singleton_append]

theorem padded_eq (input : List UInt8) : NakamaVersion.padded input = Md5.pad input := by
  rw [NakamaVersion.padded, padZeros_eq, ← md5Message_eq]
  rfl

theorem foldl_turned {turn : Md5State → List UInt8 → Md5State} (state : Md5State)
    (blocks : List (List UInt8))
    (hturn : ∀ state, ∀ block ∈ blocks,
      (turn state block).registers = Md5.turned state.registers block) :
    (blocks.foldl turn state).registers = blocks.foldl Md5.turned state.registers := by
  induction blocks generalizing state with
  | nil => rfl
  | cons block rest ih =>
    rw [List.foldl_cons, List.foldl_cons, ← hturn state block List.mem_cons_self]
    exact ih _ fun state block hmem => hturn state block (List.mem_cons_of_mem _ hmem)

theorem md5Digest_eq (value : List UInt8) : md5Digest value = Md5.digest value := by
  have hfold := foldl_turned md5Initial (Md5.chunks 64 (Md5.pad value))
    fun _ _ hmem => md5Block_registers (Md5.length_of_mem_chunks hmem)
  rw [Md5.digest, Md5.digest_eq_turned, md5Digest, md5Message_eq]
  change _ = (Md5.chunks 64 (Md5.pad value)).foldl Md5.turned Md5.initial at hfold
  rw [← hfold]
  rfl

theorem md5_eq (value : List UInt8) : NakamaVersion.md5 value = Md5.digest value := by
  have hfold := foldl_turned ⟨0x67452301, 0xefcdab89, 0x98badcfe, 0x10325476⟩
    (Md5.chunks 64 (Md5.pad value)) fun _ block _ => digestBlock_registers block
  rw [Md5.digest, Md5.digest_eq_turned, NakamaVersion.md5, padded_eq]
  change _ = (Md5.chunks 64 (Md5.pad value)).foldl Md5.turned Md5.initial at hfold
  rw [← hfold]
  generalize (Md5.chunks 64 (Md5.pad value)).foldl NakamaVersion.digestBlock _ = final
  simp only [Md5State.registers, List.flatMap_cons, List.flatMap_nil, List.append_nil,
    List.append_assoc]
  rfl

theorem utf8_ofList (chars : List Char) :
    utf8 (String.ofList chars) = chars.flatMap String.utf8EncodeChar := by
  simp [utf8, List.utf8Encode]

variable {text : String}

theorem utf8_inj {text' : String} (h : utf8 text = utf8 text') : text = text' := by
  rw [utf8, utf8, Array.toList_inj] at h
  exact String.toByteArray_inj.mp (ByteArray.ext h)

theorem utf8_toHex (version : PublicStorageVersion) :
    utf8 version.toHex = version.bytes.toList.flatMap hexDigits := by
  have hdigit : ∀ byte, (PublicStorageVersion.hexChars byte).flatMap String.utf8EncodeChar =
      hexDigits byte :=
    forall_byte (by decide +kernel)
  rw [PublicStorageVersion.toHex, utf8_ofList, List.flatMap_assoc]
  exact congrArg version.bytes.toList.flatMap (funext hdigit)

theorem decodeLowerHex_some {byte digit : UInt8}
    (h : NakamaVersion.decodeLowerHex byte = some digit) :
    digit.toNat < 16 ∧ hex.getD digit.toNat 0 = byte := by
  have hall : ∀ byte, ∀ digit ∈ NakamaVersion.decodeLowerHex byte,
      digit.toNat < 16 ∧ hex.getD digit.toNat 0 = byte :=
    forall_byte (by decide +kernel)
  exact hall byte digit h

theorem hexDigits_join {high low : UInt8} (hhigh : high.toNat < 16) (hlow : low.toNat < 16) :
    hexDigits ((high <<< 4) ||| low) = [hex.getD high.toNat 0, hex.getD low.toNat 0] := by
  have hall : ∀ h < 16, ∀ l < 16, hexDigits ((UInt8.ofNat h <<< 4) ||| UInt8.ofNat l) =
      [hex.getD h 0, hex.getD l 0] := by
    decide +kernel
  have hjoin := hall _ hhigh _ hlow
  rwa [UInt8.ofNat_toNat, UInt8.ofNat_toNat] at hjoin

theorem decodePairs_hexDigits (bytes : List UInt8) :
    NakamaVersion.decodePairs (bytes.flatMap hexDigits) = .ok bytes := by
  have hpair : ∀ byte, NakamaVersion.decodePairs (hexDigits byte) = .ok [byte] :=
    forall_byte (by decide +kernel)
  induction bytes with
  | nil => rfl
  | cons byte rest ih =>
    have hbyte := hpair byte
    rw [hexDigits] at hbyte
    simp only [NakamaVersion.decodePairs, bind_ok, fetch_ok] at hbyte
    obtain ⟨high, hhigh, low, hlow, _, hnil, hresult⟩ := hbyte
    cases hnil
    rw [List.flatMap_cons, hexDigits, List.cons_append, List.cons_append, List.nil_append]
    simp only [NakamaVersion.decodePairs, bind_ok, fetch_ok]
    exact ⟨high, hhigh, low, hlow, rest, ih, by rw [(List.cons.inj (Except.ok.inj hresult)).1]; rfl⟩

variable {bytes : List UInt8}

theorem decodePairs_ok {output : List UInt8} (heven : bytes.length % 2 = 0)
    (h : NakamaVersion.decodePairs bytes = .ok output) : bytes = output.flatMap hexDigits := by
  fun_induction NakamaVersion.decodePairs bytes generalizing output with
  | case1 first second rest ih =>
    simp only [bind_ok, fetch_ok] at h
    obtain ⟨high, hhigh, low, hlow, output, hrest, hresult⟩ := h
    cases hresult
    obtain ⟨hhigh', hfirst⟩ := decodeLowerHex_some hhigh
    obtain ⟨hlow', hsecond⟩ := decodeLowerHex_some hlow
    rw [List.length_cons, List.length_cons] at heven
    rw [List.flatMap_cons, hexDigits_join hhigh' hlow', hfirst, hsecond, ← ih (by omega) hrest]
    rfl
  | case2 bytes hshort =>
    cases h
    cases bytes with
    | nil => rfl
    | cons byte rest =>
      cases rest with
      | nil => cases heven
      | cons byte' rest => exact absurd rfl (hshort byte byte' rest)

def LowerHex (byte : UInt8) : Prop := 48 ≤ byte ∧ byte ≤ 57 ∨ 97 ≤ byte ∧ byte ≤ 102

instance (byte : UInt8) : Decidable (LowerHex byte) :=
  inferInstanceAs (Decidable (48 ≤ byte ∧ byte ≤ 57 ∨ 97 ≤ byte ∧ byte ≤ 102))

theorem LowerHex.decodes {byte : UInt8} (h : LowerHex byte) :
    ∃ digit, NakamaVersion.decodeLowerHex byte = some digit := by
  rw [NakamaVersion.decodeLowerHex]
  rcases h with hdigit | hletter
  · exact ⟨_, if_pos hdigit⟩
  · split_ifs
    · exact ⟨_, rfl⟩
    · exact ⟨_, rfl⟩

theorem lowerHex_hexDigits : ∀ byte ∈ bytes.flatMap hexDigits, LowerHex byte := by
  have hall : ∀ source, ∀ byte ∈ hexDigits source, LowerHex byte :=
    forall_byte (by decide +kernel)
  intro byte hmem
  obtain ⟨source, -, hbyte⟩ := List.mem_flatMap.mp hmem
  exact hall source byte hbyte

theorem LowerHex.pairs (h : ∀ byte ∈ bytes, LowerHex byte) :
    ∃ output, NakamaVersion.decodePairs bytes = .ok output := by
  fun_induction NakamaVersion.decodePairs bytes with
  | case1 first second rest ih =>
    obtain ⟨high, hhigh⟩ := (h first (by simp)).decodes
    obtain ⟨low, hlow⟩ := (h second (by simp)).decodes
    obtain ⟨output, houtput⟩ := ih fun byte hmem => h byte (by simp [hmem])
    refine ⟨((high <<< 4) ||| low) :: output, ?_⟩
    simp only [bind_ok, fetch_ok]
    exact ⟨high, hhigh, low, hlow, output, houtput, rfl⟩
  | case2 bytes _ => exact ⟨[], rfl⟩

variable {version : ContentVersion}

theorem parse_ok :
    ContentVersion.parse text = .ok version ↔
      utf8 text = version.bytes.toList ∧ ∀ byte ∈ utf8 text, LowerHex byte := by
  rw [ContentVersion.parse]
  split
  · next h =>
    constructor
    · intro hresult
      cases hresult
      exact ⟨by simp, h.2⟩
    · rintro ⟨htext, -⟩
      congr
  · next h =>
    constructor
    · intro hresult
      cases hresult
    · rintro ⟨htext, hlower⟩
      exact absurd ⟨by rw [htext, Vector.length_toList], hlower⟩ h

theorem length_flatMap_hexDigits (bytes : List UInt8) :
    (bytes.flatMap hexDigits).length = 2 * bytes.length := by
  simp [hexDigits, Nat.mul_comm]

theorem utf8ByteSize_eq (text : String) : text.utf8ByteSize = (utf8 text).length := rfl

theorem toList_ofFn_getD (h : bytes.length = 16) :
    (Vector.ofFn fun index : Fin 16 => bytes.getD index 0).toList = bytes := by
  refine List.ext_getElem (by rw [Vector.length_toList, h]) fun index hindex hbound => ?_
  simp [List.getElem?_eq_getElem hbound]

theorem parseHex_ok {version : PublicStorageVersion} :
    PublicStorageVersion.parseHex text = .ok version ↔
      utf8 text = version.bytes.toList.flatMap hexDigits := by
  simp only [PublicStorageVersion.parseHex, bind_ok, require_ok, exists_const]
  rw [utf8ByteSize_eq]
  constructor
  · rintro ⟨hlength, output, houtput, hresult⟩
    have htext := decodePairs_ok (by omega) houtput
    have houtput' : output.length = 16 := by
      rw [htext, length_flatMap_hexDigits] at hlength
      omega
    cases hresult
    rw [htext, toList_ofFn_getD houtput']
  · intro htext
    refine ⟨by rw [htext, length_flatMap_hexDigits, Vector.length_toList],
      version.bytes.toList, by rw [htext, decodePairs_hexDigits], ?_⟩
    have hbytes : (Vector.ofFn fun index : Fin 16 => version.bytes.toList.getD index 0) =
        version.bytes :=
      Vector.toList_inj.mp (toList_ofFn_getD version.bytes.length_toList)
    exact congrArg (fun bytes => Except.ok (PublicStorageVersion.mk bytes)) hbytes

theorem asStr_iff : version.asStr = some text ↔ utf8 text = version.bytes.toList := by
  rw [ContentVersion.asStr, String.fromUTF8?]
  split
  · next hvalid =>
    rw [Option.some.injEq]
    constructor
    · rintro rfl
      rfl
    · intro htext
      refine utf8_inj ?_
      rw [htext]
      rfl
  · next hvalid =>
    constructor
    · intro h
      cases h
    · intro htext
      refine absurd ?_ hvalid
      have hbytes : (⟨version.bytes.toArray⟩ : ByteArray) = text.toByteArray := by
        refine ByteArray.ext ?_
        rw [← Array.toList_inj]
        exact htext.symm
      rw [hbytes]
      exact text.isValidUTF8

def SameVersion (version : ContentVersion) (current : PublicStorageVersion) : Prop :=
  version.asStr = some current.toHex

variable {current : PublicStorageVersion}

theorem sameVersion_iff :
    SameVersion version current ↔ version.bytes.toList = current.bytes.toList.flatMap hexDigits := by
  rw [SameVersion, asStr_iff, utf8_toHex, eq_comm]

theorem sameVersion_inj {version' : ContentVersion} {current' : PublicStorageVersion}
    (h : SameVersion version current) (h' : SameVersion version' current') :
    version = version' ↔ current = current' := by
  rw [sameVersion_iff] at h h'
  constructor
  · rintro rfl
    have hbytes := decodePairs_hexDigits current.bytes.toList
    rw [← h, h', decodePairs_hexDigits] at hbytes
    exact congrArg PublicStorageVersion.mk (Vector.toList_inj.mp (Except.ok.inj hbytes)).symm
  · rintro rfl
    exact congrArg ContentVersion.mk (Vector.toList_inj.mp (h.trans h'.symm))

theorem sameVersion_fromValue (value : List UInt8) :
    SameVersion (.fromValue value) (.fromValue value) := by
  rw [sameVersion_iff]
  change (md5Digest value).flatMap hexDigits = (NakamaVersion.md5 value).flatMap hexDigits
  rw [md5Digest_eq, md5_eq]

inductive SameState : Option StorageObject → Option PublicStorageVersion → Prop where
  | absent : SameState none none
  | present {object : StorageObject} {current : PublicStorageVersion}
      (h : SameVersion object.version current) : SameState (some object) (some current)

inductive SameCondition : VersionCheck → WriteCondition → Prop where
  | blind : SameCondition .any .blind
  | createOnly : SameCondition .mustNotExist .createOnly
  | exact {version : ContentVersion} {expected : PublicStorageVersion}
      (h : SameVersion version expected) : SameCondition (.exact version) (.exact expected)

structure VersionsAgree : Prop where
  digest : ∀ value, md5Digest value = Md5.digest value ∧ NakamaVersion.md5 value = Md5.digest value
  hex : ∀ value, (ContentVersion.fromValue value).asStr =
    some (PublicStorageVersion.fromValue value).toHex
  parse : ∀ text, (∃ version, ContentVersion.parse text = .ok version) ↔
    ∃ current, PublicStorageVersion.parseHex text = .ok current
  parsed : ∀ text version current, ContentVersion.parse text = .ok version →
    PublicStorageVersion.parseHex text = .ok current →
    version.asStr = some text ∧ current.toHex = text
  stored : ∀ object : StorageObject, object.version = .fromValue object.value →
    SameState (some object) (some (.fromValue object.value))
  conditions : ∀ condition, ∃ check, SameCondition check condition
  client : WriteCondition.parseClientVersion "" = .ok .blind ∧
    WriteCondition.parseClientVersion "*" = .ok .createOnly ∧
    ∀ text version, ContentVersion.parse text = .ok version →
      ∃ expected, WriteCondition.parseClientVersion text = .ok (.exact expected) ∧
        SameVersion version expected
  decision : ∀ existing current check condition, SameState existing current →
    SameCondition check condition →
    (validateVersionCheck existing check = .ok () ↔ condition.allows current = true)

theorem parse_iff (text : String) : (∃ version, ContentVersion.parse text = .ok version) ↔
    ∃ current, PublicStorageVersion.parseHex text = .ok current := by
  constructor
  · rintro ⟨version, hversion⟩
    obtain ⟨htext, hlower⟩ := parse_ok.mp hversion
    obtain ⟨output, houtput⟩ := LowerHex.pairs hlower
    have hpairs := decodePairs_ok (by rw [htext, Vector.length_toList]) houtput
    have hlength : output.length = 16 := by
      have hbytes := congrArg List.length (htext.symm.trans hpairs)
      rw [Vector.length_toList, length_flatMap_hexDigits] at hbytes
      omega
    exact ⟨⟨⟨output.toArray, by simpa using hlength⟩⟩, parseHex_ok.mpr hpairs⟩
  · rintro ⟨current, hcurrent⟩
    have htext := parseHex_ok.mp hcurrent
    have hlength : (utf8 text).length = 32 := by
      rw [htext, length_flatMap_hexDigits, Vector.length_toList]
    refine ⟨⟨⟨(utf8 text).toArray, by simpa using hlength⟩⟩, parse_ok.mpr ⟨rfl, ?_⟩⟩
    rw [htext]
    exact lowerHex_hexDigits

theorem parsed_same (hversion : ContentVersion.parse text = .ok version)
    (hcurrent : PublicStorageVersion.parseHex text = .ok current) :
    version.asStr = some text ∧ current.toHex = text := by
  refine ⟨asStr_iff.mpr (parse_ok.mp hversion).1, utf8_inj ?_⟩
  rw [utf8_toHex, parseHex_ok.mp hcurrent]

theorem validateVersionCheck_same {existing : Option StorageObject}
    {current : Option PublicStorageVersion} {check : VersionCheck} {condition : WriteCondition}
    (hstate : SameState existing current) (hcondition : SameCondition check condition) :
    validateVersionCheck existing check = .ok () ↔ condition.allows current = true := by
  cases hcondition with
  | blind => simp [validateVersionCheck, WriteCondition.allows]
  | createOnly =>
    cases hstate <;> simp [validateVersionCheck, WriteCondition.allows, require_ok]
  | exact hexpected =>
    cases hstate with
    | absent => simp [validateVersionCheck, WriteCondition.allows, require_ok]
    | present h =>
      simp only [validateVersionCheck, WriteCondition.allows, require_ok, Option.map_some,
        Option.some.injEq, decide_eq_true_eq]
      exact sameVersion_inj h hexpected

theorem client_exact (h : ContentVersion.parse text = .ok version) :
    ∃ expected, WriteCondition.parseClientVersion text = .ok (.exact expected) ∧
      SameVersion version expected := by
  obtain ⟨expected, hexpected⟩ := (parse_iff text).mp ⟨version, h⟩
  have hlength : (utf8 text).length = 32 := by
    rw [(parse_ok.mp h).1, Vector.length_toList]
  obtain ⟨htext, hhex⟩ := parsed_same h hexpected
  refine ⟨expected, ?_, by rw [SameVersion, htext, hhex]⟩
  rw [WriteCondition.parseClientVersion, if_neg, if_neg, hexpected]
  · rfl
  · rintro rfl
    exact absurd hlength (by decide)
  · rintro rfl
    exact absurd hlength (by decide)

theorem storage_versions_agree : VersionsAgree where
  digest value := ⟨md5Digest_eq value, md5_eq value⟩
  hex := sameVersion_fromValue
  parse := parse_iff
  parsed _ _ _ := parsed_same
  stored object h := .present (h ▸ sameVersion_fromValue object.value)
  conditions condition := by
    cases condition with
    | blind => exact ⟨.any, .blind⟩
    | createOnly => exact ⟨.mustNotExist, .createOnly⟩
    | exact expected =>
      have hparse : PublicStorageVersion.parseHex expected.toHex = .ok expected :=
        parseHex_ok.mpr (utf8_toHex expected)
      obtain ⟨version, hversion⟩ := (parse_iff expected.toHex).mpr ⟨expected, hparse⟩
      exact ⟨.exact version, .exact (parsed_same hversion hparse).1⟩
  client := ⟨by decide, by decide, fun _ _ => client_exact⟩
  decision _ _ _ _ := validateVersionCheck_same

end Storage
