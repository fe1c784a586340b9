import Mathlib.Data.List.Range
import Mathlib.Tactic.Ring

namespace Md5

structure Registers where
  a : UInt32
  b : UInt32
  c : UInt32
  d : UInt32

inductive Auxiliary where
  | f | g | h | i
  deriving DecidableEq

namespace Auxiliary

def apply : Auxiliary → UInt32 → UInt32 → UInt32 → UInt32
  | f, x, y, z => (x &&& y) ||| (~~~x &&& z)
  | g, x, y, z => (x &&& z) ||| (y &&& ~~~z)
  | h, x, y, z => x ^^^ y ^^^ z
  | i, x, y, z => y ^^^ (x ||| ~~~z)

def shifts : Auxiliary → List Nat
  | f => [7, 12, 17, 22]
  | g => [5, 9, 14, 20]
  | h => [4, 11, 16, 23]
  | i => [6, 10, 15, 21]

end Auxiliary

def rotate (word : UInt32) (shift : Nat) : UInt32 := ⟨word.toBitVec.rotateLeft shift⟩

def sines : List UInt32 :=
  [0xd76aa478, 0xe8c7b756, 0x242070db, 0xc1bdceee, 0xf57c0faf, 0x4787c62a, 0xa8304613, 0xfd469501,
  0x698098d8, 0x8b44f7af, 0xffff5bb1, 0x895cd7be, 0x6b901122, 0xfd987193, 0xa679438e, 0x49b40821,
  0xf61e2562, 0xc040b340, 0x265e5a51, 0xe9b6c7aa, 0xd62f105d, 0x02441453, 0xd8a1e681, 0xe7d3fbc8,
  0x21e1cde6, 0xc33707d6, 0xf4d50d87, 0x455a14ed, 0xa9e3e905, 0xfcefa3f8, 0x676f02d9, 0x8d2a4c8a,
  0xfffa3942, 0x8771f681, 0x6d9d6122, 0xfde5380c, 0xa4beea44, 0x4bdecfa9, 0xf6bb4b60, 0xbebfbc70,
  0x289b7ec6, 0xeaa127fa, 0xd4ef3085, 0x04881d05, 0xd9d4d039, 0xe6db99e5, 0x1fa27cf8, 0xc4ac5665,
  0xf4292244, 0x432aff97, 0xab9423a7, 0xfc93a039, 0x655b59c3, 0x8f0ccc92, 0xffeff47d, 0x85845dd1,
  0x6fa87e4f, 0xfe2ce6e0, 0xa3014314, 0x4e0811a1, 0xf7537e82, 0xbd3af235, 0x2ad7d2bb, 0xeb86d391]

structure Operation where
  auxiliary : Auxiliary
  word : Nat
  shift : Nat
  sine : UInt32
  deriving DecidableEq

def Operation.value (x : List UInt32) (operation : Operation) (a b c d : UInt32) : UInt32 :=
  b + rotate (a + operation.auxiliary.apply b c d + x.getD operation.word 0 + operation.sine)
    operation.shift

structure Line where
  auxiliary : Auxiliary
  words : Nat × Nat × Nat × Nat
  first : Nat

namespace Line

def operation (line : Line) (word place : Nat) : Operation :=
  ⟨line.auxiliary, word, line.auxiliary.shifts.getD place 0, sines.getD (line.first - 1 + place) 0⟩

def operations (line : Line) : List Operation :=
  [line.operation line.words.1 0, line.operation line.words.2.1 1,
    line.operation line.words.2.2.1 2, line.operation line.words.2.2.2 3]

def run (x : List UInt32) (registers : Registers) (line : Line) : Registers :=
  let ⟨a, b, c, d⟩ := registers
  let a := (line.operation line.words.1 0).value x a b c d
  let d := (line.operation line.words.2.1 1).value x d a b c
  let c := (line.operation line.words.2.2.1 2).value x c d a b
  let b := (line.operation line.words.2.2.2 3).value x b c d a
  ⟨a, b, c, d⟩

end Line

def rounds : List Line :=
  [⟨.f, (0, 1, 2, 3), 1⟩, ⟨.f, (4, 5, 6, 7), 5⟩, ⟨.f, (8, 9, 10, 11), 9⟩,
    ⟨.f, (12, 13, 14, 15), 13⟩,
    ⟨.g, (1, 6, 11, 0), 17⟩, ⟨.g, (5, 10, 15, 4), 21⟩, ⟨.g, (9, 14, 3, 8), 25⟩,
    ⟨.g, (13, 2, 7, 12), 29⟩,
    ⟨.h, (5, 8, 11, 14), 33⟩, ⟨.h, (1, 4, 7, 10), 37⟩, ⟨.h, (13, 0, 3, 6), 41⟩,
    ⟨.h, (9, 12, 15, 2), 45⟩,
    ⟨.i, (0, 7, 14, 5), 49⟩, ⟨.i, (12, 3, 10, 1), 53⟩, ⟨.i, (8, 15, 6, 13), 57⟩,
    ⟨.i, (4, 11, 2, 9), 61⟩]

def compress (registers : Registers) (x : List UInt32) : Registers :=
  let final := rounds.foldl (Line.run x) registers
  ⟨registers.a + final.a, registers.b + final.b, registers.c + final.c, registers.d + final.d⟩

def initial : Registers := ⟨0x67452301, 0xefcdab89, 0x98badcfe, 0x10325476⟩

def word (bytes : List UInt8) : UInt32 :=
  bytes.foldr (fun byte word => word * 256 + byte.toUInt32) 0

def lowBytes (count value : Nat) : List UInt8 :=
  (List.range count).map fun index => (value / 256 ^ index).toUInt8

def zeros (length : Nat) : Nat := (119 - length % 64) % 64

def pad (input : List UInt8) : List UInt8 :=
  input ++ 0x80 :: List.replicate (zeros input.length) 0 ++
    lowBytes 8 (input.length * 8 % 2 ^ 64)

def chunks {α : Type} (size : Nat) (xs : List α) : List (List α) :=
  (List.range (xs.length / size)).map fun index => (xs.drop (size * index)).take size

def words (bytes : List UInt8) : List UInt32 := (chunks 4 bytes).map word

def digest (input : List UInt8) : List UInt8 :=
  let final := (chunks 16 (words (pad input))).foldl compress initial
  [final.a, final.b, final.c, final.d].flatMap fun word => lowBytes 4 word.toNat

def spin (x : List UInt32) (registers : Registers) (operation : Operation) : Registers :=
  ⟨registers.d, operation.value x registers.a registers.b registers.c registers.d, registers.b,
    registers.c⟩

theorem run_eq_spin (x : List UInt32) (registers : Registers) (line : Line) :
    line.run x registers = line.operations.foldl (spin x) registers := rfl

def operations : List Operation := rounds.flatMap Line.operations

theorem compress_eq_spin (registers : Registers) (x : List UInt32) :
    rounds.foldl (Line.run x) registers = operations.foldl (spin x) registers := by
  have hlines : ∀ (lines : List Line) (registers : Registers),
      lines.foldl (Line.run x) registers =
        (lines.flatMap Line.operations).foldl (spin x) registers := by
    intro lines
    induction lines with
    | nil => intro registers; rfl
    | cons line rest ih =>
      intro registers
      rw [List.foldl_cons, List.flatMap_cons, List.foldl_append, ih, run_eq_spin]
  exact hlines rounds registers

variable {α : Type} {size : Nat}

theorem length_of_mem_chunks {xs chunk : List α} (h : chunk ∈ chunks size xs) :
    chunk.length = size := by
  obtain ⟨index, hindex, rfl⟩ := List.mem_map.mp h
  have hroom := Nat.mul_le_of_le_div _ _ _ (List.mem_range.mp hindex)
  rw [List.length_take, List.length_drop]
  rw [Nat.succ_mul, Nat.mul_comm] at hroom
  omega

theorem slice_map_range (f : Nat → α) {start count total : Nat} (h : start + count ≤ total) :
    (((List.range total).map f).drop start).take count =
      (List.range count).map fun index => f (start + index) := by
  rw [← List.map_drop, ← List.map_take, List.range_eq_range', List.drop_range',
    List.take_range'_of_length_ge (by omega), List.range'_eq_map_range, List.map_map]
  refine List.map_congr_left fun index _ => ?_
  simp only [Function.comp_apply, Nat.zero_add, Nat.mul_one]

theorem chunks_map_chunks {β : Type} (hsize : 0 < size) (count : Nat) (f : List α → β)
    (xs : List α) :
    chunks count ((chunks size xs).map f) =
      (chunks (size * count) xs).map fun chunk => (chunks size chunk).map f := by
  have hlength : ((chunks size xs).map f).length = xs.length / size := by
    rw [List.length_map, chunks, List.length_map, List.length_range]
  rw [chunks, hlength, Nat.div_div_eq_div_mul]
  conv_rhs => rw [chunks, List.map_map]
  refine List.map_congr_left fun index hindex => ?_
  have hwhole : (index + 1) * (size * count) ≤ xs.length :=
    Nat.mul_le_of_le_div _ _ _ (List.mem_range.mp hindex)
  have hroom : count * index + count ≤ xs.length / size := by
    rw [Nat.le_div_iff_mul_le hsize]
    calc (count * index + count) * size = (index + 1) * (size * count) := by ring
      _ ≤ xs.length := hwhole
  have hchunk : ((xs.drop (size * count * index)).take (size * count)).length / size = count := by
    rw [length_of_mem_chunks (List.mem_map_of_mem hindex), Nat.mul_div_cancel_left _ hsize]
  rw [chunks, List.map_map, slice_map_range _ hroom, Function.comp_apply, chunks, hchunk,
    List.map_map]
  refine List.map_congr_left fun place hplace => ?_
  have hsame : size * count * index + size * place = size * (count * index + place) := by ring
  have hfits : size ≤ size * count - size * place := by
    rw [← Nat.mul_sub]
    exact Nat.le_mul_of_pos_right _ (Nat.sub_pos_of_lt (List.mem_range.mp hplace))
  rw [Function.comp_apply, Function.comp_apply, List.drop_take, List.take_take, List.drop_drop,
    hsame, Nat.min_eq_left hfits]

def turned (registers : Registers) (block : List UInt8) : Registers :=
  let final := operations.foldl (spin (words block)) registers
  ⟨registers.a + final.a, registers.b + final.b, registers.c + final.c, registers.d + final.d⟩

theorem digest_eq_turned (input : List UInt8) :
    (chunks 16 (words (pad input))).foldl compress initial =
      (chunks 64 (pad input)).foldl turned initial := by
  have hblock : ∀ registers block,
      compress registers ((chunks 4 block).map word) = turned registers block := by
    intro registers block
    rw [compress, compress_eq_spin, turned, words]
  rw [words, chunks_map_chunks (by decide), List.foldl_map]
  simp only [hblock, Nat.reduceMul]

end Md5
