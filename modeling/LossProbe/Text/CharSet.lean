/-! # Sets of characters

A set of characters is given by the ranges of their numbers. -/

namespace LossProbe.Text

structure CharSet where
  /-- The first and the last number of each range. -/
  ranges : Array (Nat × Nat)

def CharSet.contains (s : CharSet) (c : Char) : Bool :=
  s.ranges.any fun r => r.1 ≤ c.toNat && c.toNat ≤ r.2

end LossProbe.Text
