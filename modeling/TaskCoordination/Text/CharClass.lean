/-!
# Classes of characters

A class of characters is a list of ranges of code points, both ends included. The ranges of a class ascend and stand
apart, so that each character is listed once.
-/

namespace TaskCoordination.Text

namespace CharClass

/-- Whether the ranges begin at `start` or later, ascend, and leave a gap between any two. -/
def ascendsFrom (start : Nat) : List (Nat × Nat) → Bool
  | [] => true
  | r :: rest => start ≤ r.1 && r.1 ≤ r.2 && ascendsFrom (r.2 + 2) rest

end CharClass

structure CharClass where
  ranges : List (Nat × Nat)
  ascends : CharClass.ascendsFrom 0 ranges = true

def CharClass.contains (k : CharClass) (c : Char) : Bool :=
  k.ranges.any fun r => r.1 ≤ c.toNat && c.toNat ≤ r.2

end TaskCoordination.Text
