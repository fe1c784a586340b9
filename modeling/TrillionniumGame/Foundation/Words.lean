import Mathlib.Data.Nat.Bitwise

namespace Words

def fits (width value : Nat) : Option Nat := if value < 2 ^ width then some value else none

theorem fits_some {width value result : Nat} : fits width value = some result ↔
    value < 2 ^ width ∧ result = value := by
  unfold fits
  split
  · next h => simp [h, eq_comm]
  · next h => simp [h]

theorem toUInt64_lt {x : Int64} (h : 0 ≤ x) : x.toUInt64.toNat < 2 ^ 63 := by
  have hx := x.toInt_lt
  rw [Int64.toNat_toUInt64_of_le h]
  unfold Int64.toNatClampNeg
  omega

theorem toNat_succ_of_lt {x : UInt64} (h : x.toNat + 1 < 2 ^ 64) :
    (x + 1).toNat = x.toNat + 1 := by
  rw [UInt64.toNat_add]
  exact Nat.mod_eq_of_lt h

theorem toNat_succ_of_ne {x : UInt64} (h : x + 1 ≠ 0) : (x + 1).toNat = x.toNat + 1 := by
  refine toNat_succ_of_lt ?_
  have hx := x.toNat_lt
  have hne : (x + 1).toNat ≠ 0 := fun h' => h (UInt64.toNat_inj.mp h')
  rw [UInt64.toNat_add] at hne
  simp only [UInt64.reduceToNat] at hne
  omega

end Words

namespace Octets

variable {byte : UInt8}

theorem toNat_and_127 (byte : UInt8) : (byte &&& 0x7f).toNat = byte.toNat % 128 := by
  rw [UInt8.toNat_and]
  exact Nat.and_two_pow_sub_one_eq_mod byte.toNat 7

theorem and_128_eq_zero (byte : UInt8) : byte &&& 0x80 = 0 ↔ byte.toNat < 128 := by
  have hbyte := byte.toNat_lt
  have hbit : (byte &&& 0x80).toNat = (byte.toNat.testBit 7).toNat * 128 := by
    rw [UInt8.toNat_and]
    exact Nat.and_two_pow byte.toNat 7
  rw [← UInt8.toNat_inj, hbit, Nat.testBit_eq_decide_div_mod_eq, UInt8.toNat_zero]
  by_cases hhigh : byte.toNat / 2 ^ 7 % 2 = 1
  · rw [decide_eq_true hhigh, Bool.toNat_true]
    omega
  · rw [decide_eq_false hhigh, Bool.toNat_false]
    omega

theorem toNat_or_128 (h : byte.toNat < 128) : (byte ||| 0x80).toNat = byte.toNat + 128 := by
  rw [UInt8.toNat_or, Nat.or_comm, Nat.add_comm]
  exact (Nat.two_pow_add_eq_or_of_lt (i := 7) h 1).symm

theorem or_128_and_127 (h : byte.toNat < 128) : (byte ||| 0x80) &&& 0x7f = byte := by
  rw [← UInt8.toNat_inj, toNat_and_127, toNat_or_128 h]
  omega

end Octets
