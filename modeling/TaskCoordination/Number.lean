/-!
# Bounded counts

Amounts are natural numbers, and a limit is enforced where a sum could pass it.

* `addWithin limit a b` is `a + b`, or the cause `Overflow.addition` when that exceeds `limit`.
* `sumWithin limit xs` adds up `xs` one by one.
-/

namespace TaskCoordination

/-- The largest 32-bit count. -/
abbrev word32Max : Nat := 4294967295

/-- The largest 64-bit count. -/
abbrev word64Max : Nat := 18446744073709551615

/-- The largest value of a gauge, a signed 64-bit number. -/
abbrev gaugeMax : Nat := 9223372036854775807

/-- Why a computation has no result. -/
inductive Overflow
  | addition
  deriving DecidableEq

def Overflow.message : Overflow → String
  | .addition => "attempt to add with overflow"

def addWithin (limit a b : Nat) : Except Overflow Nat :=
  if a + b ≤ limit then .ok (a + b) else .error .addition

def sumWithin (limit : Nat) (xs : List Nat) : Except Overflow Nat :=
  xs.foldlM (addWithin limit) 0

end TaskCoordination
