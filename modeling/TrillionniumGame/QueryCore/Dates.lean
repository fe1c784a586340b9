import TrillionniumGame.Foundation.TextSizes
import TrillionniumGame.QueryCore.Parser

namespace QueryCore
open Checks GoText

def Leap (year : Nat) : Prop := 4 ∣ year ∧ (100 ∣ year → 400 ∣ year)

instance (year : Nat) : Decidable (Leap year) := inferInstanceAs (Decidable (_ ∧ _))

def monthLengths (year : Nat) : Vector Nat 12 :=
  #v[31, if Leap year then 29 else 28, 31, 30, 31, 30, 31, 31, 30, 31, 30, 31]

structure CalendarDate where
  year : Fin 10000
  month : Fin 12
  day : Fin (monthLengths year)[month]

inductive Offset where
  | utc
  | shifted (sign : UInt8) (hsign : sign = ascii '+' ∨ sign = ascii '-') (hour : Fin 24)
      (minute : Fin 60)

structure Timestamp where
  date : CalendarDate
  hour : Fin 24
  minute : Fin 60
  second : Fin 60
  fraction : List UInt8
  digits : ∀ byte ∈ fraction, isAsciiDigit byte = true
  offset : Offset

def padded : Nat → Nat → List UInt8
  | 0, _ => []
  | width + 1, n => padded width (n / 10) ++ [UInt8.ofNat (48 + n % 10)]

def Offset.bytes : Offset → List UInt8
  | utc => [ascii 'Z']
  | shifted sign _ hour minute => sign :: (padded 2 hour ++ ascii ':' :: padded 2 minute)

-- No digits stand for no fraction: a point is always followed by a digit.
def fractionBytes : List UInt8 → List UInt8
  | [] => []
  | digits => ascii '.' :: digits

def Timestamp.bytes (t : Timestamp) : List UInt8 :=
  padded 4 t.date.year ++ ascii '-' :: (padded 2 (t.date.month + 1) ++ ascii '-' ::
    (padded 2 (t.date.day + 1) ++ ascii 'T' :: (padded 2 t.hour ++ ascii ':' ::
      (padded 2 t.minute ++ ascii ':' :: (padded 2 t.second ++
        (fractionBytes t.fraction ++ t.offset.bytes))))))

def Timestamp.text (t : Timestamp) : Text := t.bytes.map fun byte => Char.ofNat byte.toNat

variable {bytes digits rest : List UInt8} {byte : UInt8} {n width start index : Nat}

theorem isLeapYear_iff (year : Nat) : isLeapYear year = true ↔ Leap year := by
  simp only [isLeapYear, Leap, Bool.and_eq_true, Bool.or_eq_true, decide_eq_true_eq]
  omega

theorem daysInMonth_eq (year : Nat) (month : Fin 12) :
    daysInMonth year (month + 1) = (monthLengths year)[month] := by
  have hleap : (if isLeapYear year then 29 else 28) = if Leap year then 29 else 28 :=
    if_congr (isLeapYear_iff year) rfl rfl
  match month with
  | 1 => exact hleap
  | 0 | 2 | 3 | 4 | 5 | 6 | 7 | 8 | 9 | 10 | 11 => rfl

def valueOf (digits : List UInt8) : Nat :=
  digits.foldl (fun value digit => value * 10 + (digit - 48).toNat) 0

theorem valueOf_snoc (digits : List UInt8) (byte : UInt8) :
    valueOf (digits ++ [byte]) = valueOf digits * 10 + (byte - 48).toNat :=
  List.foldl_append

theorem length_padded (width n : Nat) : (padded width n).length = width := by
  induction width generalizing n with
  | zero => rfl
  | succ width ih => rw [padded, List.length_append, ih, List.length_singleton]

theorem digit_place : ∀ byte, isAsciiDigit byte = true → byte.toNat < 0x80 ∧
    (byte - 48).toNat < 10 ∧ UInt8.ofNat (48 + (byte - 48).toNat) = byte :=
  forall_byte (by decide +kernel)

theorem place_digit (n : Nat) : isAsciiDigit (UInt8.ofNat (48 + n % 10)) = true ∧
    (UInt8.ofNat (48 + n % 10) - 48).toNat = n % 10 := by
  have hall : ∀ n < 10, isAsciiDigit (UInt8.ofNat (48 + n)) = true ∧
      (UInt8.ofNat (48 + n) - 48).toNat = n := by decide
  exact hall _ (Nat.mod_lt n (by decide))

theorem padded_valueOf (h : ∀ byte ∈ digits, isAsciiDigit byte = true) :
    valueOf digits < 10 ^ digits.length ∧ padded digits.length (valueOf digits) = digits := by
  induction digits using List.reverseRecOn with
  | nil => exact ⟨Nat.one_pos, rfl⟩
  | append_singleton digits byte ih =>
    obtain ⟨hlt, hpadded⟩ := ih fun byte hbyte => h byte (List.mem_append_left _ hbyte)
    obtain ⟨-, hplace, hbyte⟩ :=
      digit_place byte (h byte (List.mem_append_right _ List.mem_cons_self))
    rw [valueOf_snoc, List.length_append, List.length_singleton, Nat.pow_succ, padded]
    have hdiv : (valueOf digits * 10 + (byte - 48).toNat) / 10 = valueOf digits := by omega
    have hmod : (valueOf digits * 10 + (byte - 48).toNat) % 10 = (byte - 48).toNat := by omega
    rw [hdiv, hmod, hpadded, hbyte]
    exact ⟨by omega, rfl⟩

theorem valueOf_padded (h : n < 10 ^ width) : valueOf (padded width n) = n := by
  induction width generalizing n with
  | zero => exact (Nat.lt_one_iff.mp h).symm
  | succ width ih =>
    have hdiv : n / 10 < 10 ^ width := by
      rw [Nat.pow_succ] at h
      omega
    rw [padded, valueOf_snoc, ih hdiv, (place_digit n).2]
    omega

theorem padded_digits (width n : Nat) : ∀ byte ∈ padded width n, isAsciiDigit byte = true := by
  induction width generalizing n with
  | zero => exact fun _ => nofun
  | succ width ih =>
    intro byte hbyte
    rcases List.mem_append.mp hbyte with hbyte | hbyte
    · exact ih _ byte hbyte
    · rw [List.mem_singleton.mp hbyte]
      exact (place_digit n).1

theorem decimal_ok (start width : Nat) (hwidth : 0 < width) :
    decimal bytes start (start + width) = .ok n ↔
      n < 10 ^ width ∧ bytes.drop start = padded width n ++ bytes.drop (start + width) := by
  have hslice : (bytes.take (start + width)).drop start = (bytes.drop start).take width := by
    rw [List.drop_take, Nat.add_sub_cancel_left]
  simp only [decimal, bind_ok, require_ok, List.all_eq_true, hslice]
  constructor
  · rintro ⟨_, hroom, _, hdigits, h⟩
    cases h
    have hlength : ((bytes.drop start).take width).length = width := by
      rw [List.length_take, List.length_drop]
      omega
    obtain ⟨hlt, hpadded⟩ := padded_valueOf hdigits
    rw [hlength] at hlt hpadded
    refine ⟨hlt, ?_⟩
    change _ = padded width (valueOf ((bytes.drop start).take width)) ++ _
    rw [hpadded, ← List.drop_drop, List.take_append_drop]
  · rintro ⟨hlt, hdrop⟩
    have htake : (bytes.drop start).take width = padded width n := by
      rw [hdrop]
      exact List.take_left' (length_padded width n)
    have hlength := congrArg List.length hdrop
    rw [List.length_append, length_padded, List.length_drop, List.length_drop] at hlength
    rw [htake]
    exact ⟨(), by omega, (), padded_digits width n, congrArg Except.ok (valueOf_padded hlt)⟩

theorem byte_at : bytes[index]? = some byte ↔ bytes.drop index = byte :: bytes.drop (index + 1) := by
  constructor
  · intro h
    obtain ⟨hlt, rfl⟩ := List.getElem?_eq_some_iff.mp h
    exact List.drop_eq_getElem_cons hlt
  · intro h
    rw [← List.head?_drop, h]
    rfl

theorem skipFraction_ok (h : skipFraction bytes = .ok index) :
    ∃ digits, (∀ byte ∈ digits, isAsciiDigit byte = true) ∧
      bytes.drop 19 = fractionBytes digits ++ bytes.drop index := by
  unfold skipFraction at h
  split at h
  · next hpoint =>
    simp only [bind_ok, require_ok] at h
    obtain ⟨_, hne, h⟩ := h
    cases h
    refine ⟨(bytes.drop 20).takeWhile isAsciiDigit, fun byte => List.mem_takeWhile_imp, ?_⟩
    have hrest := List.takeWhile_append_dropWhile (p := isAsciiDigit) (l := bytes.drop 20)
    have hlength := congrArg (List.drop ((bytes.drop 20).takeWhile isAsciiDigit).length) hrest
    rw [List.drop_left, List.drop_drop] at hlength
    rw [byte_at.mp hpoint, ← hlength]
    cases hdigits : (bytes.drop 20).takeWhile isAsciiDigit with
    | nil => exact absurd (congrArg List.length hdigits) hne
    | cons digit digits =>
      rw [hdigits] at hrest
      exact congrArg (ascii '.' :: ·) hrest.symm
  · cases h
    exact ⟨[], by simp, rfl⟩

theorem skipFraction_of (hdigits : ∀ byte ∈ digits, isAsciiDigit byte = true)
    (h : bytes.drop 19 = fractionBytes digits ++ byte :: rest)
    (hbyte : isAsciiDigit byte = false ∧ byte ≠ ascii '.') :
    ∃ index, skipFraction bytes = .ok index ∧ bytes.drop index = byte :: rest := by
  cases digits with
  | nil =>
    have hpoint : ¬ bytes[19]? = some (ascii '.') := fun hpoint =>
      hbyte.2 (List.cons.inj (h.symm.trans (byte_at.mp hpoint))).1
    exact ⟨19, if_neg hpoint, h⟩
  | cons digit more =>
    have hpoint : bytes[19]? = some (ascii '.') := by
      rw [← List.head?_drop, h]
      rfl
    have hdrop : bytes.drop 20 = digit :: more ++ byte :: rest :=
      (List.cons.inj ((byte_at.mp hpoint).symm.trans h)).2
    have htake : (bytes.drop 20).takeWhile isAsciiDigit = digit :: more := by
      rw [hdrop, List.takeWhile_append_of_pos hdigits,
        List.takeWhile_cons_of_neg (by rw [hbyte.1]; decide), List.append_nil]
    refine ⟨20 + (digit :: more).length, ?_, ?_⟩
    · rw [skipFraction, if_pos hpoint, htake]
      rfl
    · rw [← List.drop_drop, hdrop, List.drop_left]

theorem Offset.head (offset : Offset) : ∃ byte rest, offset.bytes = byte :: rest ∧
    isAsciiDigit byte = false ∧ byte ≠ ascii '.' := by
  cases offset with
  | utc => exact ⟨_, _, rfl, by decide⟩
  | shifted sign hsign => exact ⟨_, _, rfl, by rcases hsign with rfl | rfl <;> decide⟩

theorem decimal_of (start width : Nat) (hwidth : 0 < width) (hlt : n < 10 ^ width)
    (h : bytes.drop start = padded width n ++ rest) :
    decimal bytes start (start + width) = .ok n ∧ bytes.drop (start + width) = rest := by
  have hrest : bytes.drop (start + width) = rest := by
    rw [← List.drop_drop, h]
    exact List.drop_left' (length_padded width n)
  exact ⟨(decimal_ok start width hwidth).mpr ⟨hlt, hrest ▸ h⟩, hrest⟩

theorem byte_of (h : bytes.drop index = byte :: rest) :
    bytes[index]? = some byte ∧ bytes.drop (index + 1) = rest := by
  have hrest : bytes.drop (index + 1) = rest := by rw [← List.drop_drop, h, List.drop_one]; rfl
  exact ⟨byte_at.mpr (hrest ▸ h), hrest⟩

theorem shifted_form {hour minute : Nat} (hcolon : bytes[index + 3]? = some (ascii ':'))
    (hend : index + 6 = bytes.length) (hhour : decimal bytes (index + 1) (index + 3) = .ok hour)
    (hminute : decimal bytes (index + 4) (index + 6) = .ok minute) :
    bytes.drop (index + 1) = padded 2 hour ++ ascii ':' :: padded 2 minute := by
  have hfirst : bytes.drop (index + 1) = padded 2 hour ++ bytes.drop (index + 3) :=
    ((decimal_ok (index + 1) 2 (by decide)).mp hhour).2
  have hlast : bytes.drop (index + 4) = padded 2 minute ++ bytes.drop (index + 6) :=
    ((decimal_ok (index + 4) 2 (by decide)).mp hminute).2
  rw [hfirst, byte_at.mp hcolon, hlast, hend, List.drop_length, List.append_nil]

theorem shifted_of {sign : UInt8} {hour minute : Nat} (hhour : hour < 24) (hminute : minute < 60)
    (h : bytes.drop index = sign :: (padded 2 hour ++ ascii ':' :: padded 2 minute)) :
    bytes[index]? = some sign ∧ index + 6 = bytes.length ∧
      bytes[index + 3]? = some (ascii ':') ∧ decimal bytes (index + 1) (index + 3) = .ok hour ∧
      decimal bytes (index + 4) (index + 6) = .ok minute := by
  obtain ⟨hsign, hfirst⟩ := byte_of h
  obtain ⟨hread, hcolon⟩ := decimal_of (index + 1) 2 (by decide) (by omega) hfirst
  obtain ⟨hcolon, hlast⟩ := byte_of hcolon
  rw [← List.append_nil (padded 2 minute)] at hlast
  have hlength := congrArg List.length h
  simp only [List.length_drop, List.length_cons, List.length_append, length_padded] at hlength
  exact ⟨hsign, by omega, hcolon, hread, (decimal_of (index + 4) 2 (by decide) (by omega) hlast).1⟩

theorem Timestamp.ascii_bytes (t : Timestamp) : ∀ byte ∈ t.bytes, byte.toNat < 0x80 := by
  have hpadded (width n : Nat) : ∀ byte ∈ padded width n, byte.toNat < 0x80 :=
    fun byte hbyte => (digit_place byte (padded_digits width n byte hbyte)).1
  have hfraction : ∀ byte ∈ fractionBytes t.fraction, byte.toNat < 0x80 := by
    have hdigits := t.digits
    cases hcase : t.fraction with
    | nil => exact fun _ => nofun
    | cons digit digits =>
      rw [hcase] at hdigits
      exact forall_cons _ _ (by decide) fun byte hbyte => (digit_place byte (hdigits byte hbyte)).1
  have hoffset : ∀ byte ∈ t.offset.bytes, byte.toNat < 0x80 := by
    cases t.offset with
    | utc => exact forall_cons _ _ (by decide) fun _ => nofun
    | shifted sign hsign hour minute =>
      refine forall_cons _ _ (by rcases hsign with rfl | rfl <;> decide) ?_
      exact List.forall_mem_append.mpr
        ⟨hpadded 2 hour, forall_cons _ _ (by decide) (hpadded 2 minute)⟩
  simp only [Timestamp.bytes, List.forall_mem_append, List.forall_mem_cons]
  exact ⟨hpadded _ _, by decide, hpadded _ _, by decide, hpadded _ _, by decide, hpadded _ _,
    by decide, hpadded _ _, by decide, hpadded _ _, hfraction, hoffset⟩

theorem Timestamp.ofRunes_text (t : Timestamp) : ofRunes t.text = t.bytes :=
  ofRunes_ascii t.ascii_bytes

variable {value : Text}

theorem form_of_accepted (h : validateRfc3339 value = .ok ()) :
    ∃ t : Timestamp, ofRunes value = t.bytes := by
  simp only [validateRfc3339, bind_ok, require_ok] at h
  obtain ⟨_, ⟨-, h4, h7, h10, h13, h16⟩, year, hyear, month, hmonth, day, hday, hour, hhour,
    minute, hminute, second, hsecond, _, hrange, index, hindex, h⟩ := h
  generalize ofRunes value = bytes at *
  obtain ⟨hyears, hyear⟩ := (decimal_ok 0 4 (by decide)).mp hyear
  have hmonth := ((decimal_ok 5 2 (by decide)).mp hmonth).2
  have hday := ((decimal_ok 8 2 (by decide)).mp hday).2
  have hhour := ((decimal_ok 11 2 (by decide)).mp hhour).2
  have hminute := ((decimal_ok 14 2 (by decide)).mp hminute).2
  have hsecond := ((decimal_ok 17 2 (by decide)).mp hsecond).2
  rw [byte_at] at h4 h7 h10 h13 h16
  obtain ⟨digits, hdigits, hfraction⟩ := skipFraction_ok hindex
  have hoffset : ∃ offset : Offset, bytes.drop index = offset.bytes := by
    split at h
    · next hutc =>
      rw [byte_at.mp hutc.1, hutc.2, List.drop_length]
      exact ⟨.utc, rfl⟩
    · simp only [bind_ok, require_ok] at h
      obtain ⟨_, ⟨hsign, hend⟩, _, hcolon, offsetHour, hread, offsetMinute, hlast, hle⟩ := h
      have hform := shifted_form hcolon hend hread hlast
      obtain ⟨sign, hsign, hbyte⟩ : ∃ sign, (sign = ascii '+' ∨ sign = ascii '-') ∧
          bytes[index]? = some sign := by
        rcases hsign with hsign | hsign
        · exact ⟨_, .inl rfl, hsign⟩
        · exact ⟨_, .inr rfl, hsign⟩
      rw [byte_at.mp hbyte, hform]
      exact ⟨.shifted sign hsign ⟨offsetHour, by omega⟩ ⟨offsetMinute, by omega⟩, rfl⟩
  obtain ⟨offset, hoffset⟩ := hoffset
  obtain ⟨hfirst, hlast, hhours, hminutes, hseconds, hnone, hdays⟩ := hrange
  obtain ⟨m, rfl⟩ := Nat.exists_eq_add_of_le' hfirst
  obtain ⟨d, rfl⟩ := Nat.exists_eq_add_of_le' (Nat.one_le_iff_ne_zero.mpr hnone)
  have hm : m < 12 := hlast
  rw [daysInMonth_eq year ⟨m, hm⟩] at hdays
  refine ⟨⟨⟨⟨year, hyears⟩, ⟨m, hm⟩, ⟨d, hdays⟩⟩, ⟨hour, by omega⟩, ⟨minute, by omega⟩,
    ⟨second, by omega⟩, digits, hdigits, offset⟩, ?_⟩
  calc bytes = bytes.drop 0 := rfl
    _ = _ := by
      rw [hyear, h4, hmonth, h7, hday, h10, hhour, h13, hminute, h16, hsecond, hfraction, hoffset]
      rfl

theorem monthLengths_le (year : Nat) (month : Fin 12) : (monthLengths year)[month] ≤ 31 := by
  rw [← daysInMonth_eq]
  unfold daysInMonth
  repeat' split
  all_goals decide

theorem accepted_of_form (t : Timestamp) (h : ofRunes value = t.bytes) :
    validateRfc3339 value = .ok () := by
  have hmonths := t.date.month.isLt
  have hdays := t.date.day.isLt.trans_le (monthLengths_le t.date.year t.date.month)
  have hhours := t.hour.isLt
  have hminutes := t.minute.isLt
  have hseconds := t.second.isLt
  have h0 : (ofRunes value).drop 0 = t.bytes := h
  obtain ⟨hyear, h4⟩ := decimal_of 0 4 (by decide) t.date.year.isLt h0
  obtain ⟨h4, h5⟩ := byte_of h4
  obtain ⟨hmonth, h7⟩ := decimal_of 5 2 (by decide) (by omega) h5
  obtain ⟨h7, h8⟩ := byte_of h7
  obtain ⟨hday, h10⟩ := decimal_of 8 2 (by decide) (by omega) h8
  obtain ⟨h10, h11⟩ := byte_of h10
  obtain ⟨hhour, h13⟩ := decimal_of 11 2 (by decide) (by omega) h11
  obtain ⟨h13, h14⟩ := byte_of h13
  obtain ⟨hminute, h16⟩ := decimal_of 14 2 (by decide) (by omega) h14
  obtain ⟨h16, h17⟩ := byte_of h16
  obtain ⟨hsecond, h19⟩ := decimal_of 17 2 (by decide) (by omega) h17
  obtain ⟨first, rest, hhead, hfirst⟩ := t.offset.head
  have hlength := congrArg List.length h19
  rw [hhead, List.length_append, List.length_cons, List.length_drop] at hlength
  obtain ⟨index, hindex, hdrop⟩ := skipFraction_of t.digits (hhead ▸ h19) hfirst
  rw [← hhead] at hdrop
  have hcalendar := daysInMonth_eq t.date.year t.date.month
  have hday' := t.date.day.isLt
  simp only [validateRfc3339, bind_ok, require_ok]
  refine ⟨(), ⟨by omega, h4, h7, h10, h13, h16⟩, _, hyear, _, hmonth, _, hday, _, hhour, _,
    hminute, _, hsecond, (), ⟨by omega, by omega, by omega, by omega, by omega, by omega, ?_⟩,
    index, hindex, ?_⟩
  · rw [hcalendar]
    exact hday'
  · cases hoffset : t.offset with
    | utc =>
      rw [hoffset] at hdrop
      obtain ⟨hutc, hend⟩ := byte_of hdrop
      have hlast := congrArg List.length hdrop
      rw [Offset.bytes, List.length_drop] at hlast
      exact if_pos ⟨hutc, by simp at hlast; omega⟩
    | shifted sign hsign hour minute =>
      rw [hoffset] at hdrop
      obtain ⟨hbyte, hend, hcolon, hread, hlast⟩ := shifted_of hour.isLt minute.isLt hdrop
      rw [hbyte, if_neg (by rcases hsign with rfl | rfl <;> simp [ascii])]
      simp only [bind_ok, require_ok]
      have hsigns : some sign = some (ascii '+') ∨ some sign = some (ascii '-') :=
        hsign.imp (congrArg some) (congrArg some)
      exact ⟨(), ⟨hsigns, hend⟩, (), hcolon, _, hread, _, hlast, by omega, by omega⟩

theorem rfc3339_exact (value : Text) :
    validateRfc3339 value = .ok () ↔ ∃ t : Timestamp, value = t.text := by
  constructor
  · intro h
    obtain ⟨t, ht⟩ := form_of_accepted h
    exact ⟨t, ofRunes_inj (ht.trans t.ofRunes_text.symm)⟩
  · rintro ⟨t, rfl⟩
    exact accepted_of_form t t.ofRunes_text

end QueryCore
