import TrillionniumGame.Foundation.Framing

namespace Sha256
open GoText

-- A match on a literal evaluates it: the kernel then carries a number, not the term it came from.
def force {α : Type} : Nat → (Nat → α) → α
  | 0, f => f 0
  | n + 1, f => f (n + 1)

def constants : List Nat :=
  [0x428a2f98, 0x71374491, 0xb5c0fbcf, 0xe9b5dba5, 0x3956c25b, 0x59f111f1, 0x923f82a4, 0xab1c5ed5,
  0xd807aa98, 0x12835b01, 0x243185be, 0x550c7dc3, 0x72be5d74, 0x80deb1fe, 0x9bdc06a7, 0xc19bf174,
  0xe49b69c1, 0xefbe4786, 0x0fc19dc6, 0x240ca1cc, 0x2de92c6f, 0x4a7484aa, 0x5cb0a9dc, 0x76f988da,
  0x983e5152, 0xa831c66d, 0xb00327c8, 0xbf597fc7, 0xc6e00bf3, 0xd5a79147, 0x06ca6351, 0x14292967,
  0x27b70a85, 0x2e1b2138, 0x4d2c6dfc, 0x53380d13, 0x650a7354, 0x766a0abb, 0x81c2c92e, 0x92722c85,
  0xa2bfe8a1, 0xa81a664b, 0xc24b8b70, 0xc76c51a3, 0xd192e819, 0xd6990624, 0xf40e3585, 0x106aa070,
  0x19a4c116, 0x1e376c08, 0x2748774c, 0x34b0bcb5, 0x391c0cb3, 0x4ed8aa4a, 0x5b9cca4f, 0x682e6ff3,
  0x748f82ee, 0x78a5636f, 0x84c87814, 0x8cc70208, 0x90befffa, 0xa4506ceb, 0xbef9a3f7, 0xc67178f2]

def initial : Nat := 0x6a09e667bb67ae853c6ef372a54ff53a510e527f9b05688c1f83d9ab5be0cd19

def modulus : Nat := 0x100000000

-- The eight words of a state and the sixteen of a window are the digits of one number.
def wordAt (words place : Nat) : Nat := words >>> place % modulus

def twice (word : Nat) : Nat := word * 0x100000001

def round (state constant word : Nat) : Nat :=
  let a := wordAt state 224
  let b := wordAt state 192
  let c := wordAt state 160
  let e := wordAt state 96
  let choice := e &&& wordAt state 64 ^^^ (0xffffffff - e) &&& wordAt state 32
  let spread := (twice e >>> 6 ^^^ twice e >>> 11 ^^^ twice e >>> 25) % modulus
  let t := wordAt state 0 + spread + choice + constant + word
  let spread := (twice a >>> 2 ^^^ twice a >>> 13 ^^^ twice a >>> 22) % modulus
  let sum := (t + spread + (a &&& b ^^^ a &&& c ^^^ b &&& c)) % modulus
  ((sum <<< 96 + state >>> 160) <<< 32 + (wordAt state 128 + t) % modulus) <<< 96 +
    state >>> 32 % 0x1000000000000000000000000

def slide (window : Nat) : Nat :=
  let x := wordAt window 32
  let y := wordAt window 448
  let next := (twice x >>> 17 ^^^ twice x >>> 19 ^^^ x >>> 10) % modulus + wordAt window 192 +
    (twice y >>> 7 ^^^ twice y >>> 18 ^^^ y >>> 3) % modulus + window >>> 480
  window <<< 32 % 2 ^ 512 + next % modulus

def rounds : List Nat → Nat → Nat → Nat
  | [], state, _ => state
  | constant :: rest, state, window =>
    force (round state constant (window >>> 480)) fun state =>
      force (slide window) fun window => rounds rest state window

def addWords (words words' : Nat) : Nat → Nat
  | 0 => 0
  | n + 1 => addWords (words >>> 32) (words' >>> 32) n <<< 32 + (words + words') % modulus

def compress (blocks : Nat) : Nat → Nat → Nat
  | 0, state => state
  | n + 1, state =>
    force (addWords state (rounds constants state (blocks >>> (512 * n) % 2 ^ 512)) 8)
      (compress blocks n)

def number : GoString → Nat → Nat
  | [], n => n
  | byte :: bytes, n => force (n * 256 + byte.toNat) (number bytes)

def sum (message : GoString) : Nat :=
  let count := (message.length + 72) / 64
  let padded := (number message 0 * 256 + 128) * 256 ^ (64 * count - message.length - 1)
  force (padded + 8 * message.length) fun blocks => compress blocks count initial

@[irreducible]
def digest (message : GoString) : Vector UInt8 32 := force (sum message) DigestTable.digest

example : sum [0x61, 0x62, 0x63] =
    0xba7816bf8f01cfea414140de5dae2223b00361a396177a9cb410ff61f20015ad := by
  decide +kernel

end Sha256
