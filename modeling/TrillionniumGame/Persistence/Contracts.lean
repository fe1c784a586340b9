import Mathlib.Algebra.Group.Nat.Defs

namespace Persistence

inductive StableCode where
  | invalidArgument | notFound | alreadyExists | permissionDenied | resourceExhausted
  | failedPrecondition | aborted | outOfRange | unimplemented | internal
  | unavailable | dataLoss | unauthenticated
  deriving DecidableEq

inductive RetryClass where
  | never | safeImmediate | safeBackoff | resyncRequired
  deriving DecidableEq

structure DomainError where
  code : StableCode
  reason : String
  retry : RetryClass
  deriving DecidableEq

abbrev Bytes (n : Nat) := Vector UInt8 n

def zeroBytes {n : Nat} (bytes : Bytes n) : Bool := bytes.toList.all (· == 0)

structure CommandId where
  bytes : Bytes 16
  deriving DecidableEq

structure Digest32 where
  bytes : Bytes 32
  deriving DecidableEq

structure EntityId where
  bytes : Bytes 16
  deriving DecidableEq

structure EventId where
  bytes : Bytes 16
  deriving DecidableEq

structure IntentId where
  bytes : Bytes 16
  deriving DecidableEq

structure NodeId where
  bytes : Bytes 16
  deriving DecidableEq

structure UserId where
  bytes : Bytes 16
  deriving DecidableEq

def CommandId.isZero (id : CommandId) : Bool := zeroBytes id.bytes
def Digest32.isZero (digest : Digest32) : Bool := zeroBytes digest.bytes
def EntityId.isZero (id : EntityId) : Bool := zeroBytes id.bytes
def EventId.isZero (id : EventId) : Bool := zeroBytes id.bytes
def IntentId.isZero (id : IntentId) : Bool := zeroBytes id.bytes
def NodeId.isZero (id : NodeId) : Bool := zeroBytes id.bytes
def UserId.isZero (id : UserId) : Bool := zeroBytes id.bytes

theorem ones_nonzero : zeroBytes (Vector.replicate 16 1) = false := by decide

theorem twos_nonzero : zeroBytes (Vector.replicate 16 2) = false := by decide

theorem threes_nonzero : zeroBytes (Vector.replicate 16 3) = false := by decide

theorem one_positive : (1 : UInt64) ≠ 0 := by decide

theorem two_positive : (2 : UInt64) ≠ 0 := by decide

def checkedAdd (a b : Nat) : Option Nat := if a + b < 2 ^ 64 then some (a + b) else none

theorem checkedAdd_some {a b c : Nat} : checkedAdd a b = some c ↔ a + b < 2 ^ 64 ∧ a + b = c := by
  unfold checkedAdd
  split
  · next h => simp only [Option.some.injEq, h, true_and]
  · next h => simp only [reduceCtorEq, h, false_and]

theorem checkedAdd_of_lt {a b : Nat} (h : a + b < 2 ^ 64) : checkedAdd a b = some (a + b) :=
  checkedAdd_some.mpr ⟨h, rfl⟩

end Persistence
