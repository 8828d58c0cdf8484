import LossProbe.Binary64
import LossProbe.Decimal.Basic

/-! # A double with a fixed count of places

The exact value of the double is rounded once, a tie going to the even last digit, so the text
never carries a second rounding error. -/

namespace LossProbe.Decimal

/-- The multiple of `10 ^ -places` nearest to `units` units of a double, times `10 ^ places`. -/
def fixedScaled (places units : Nat) : Nat :=
  roundHalfEven (units * tenTo places) Binary64.unitsPerOne

/-- Write `x` with exactly `places` digits after the point. The sign is kept even where every
digit is zero. -/
def fixed (places : Nat) (x : Binary64) : List Char :=
  match x.value with
  | .nan => "NaN".toList
  | .infinite negative => if negative then "-inf".toList else "inf".toList
  | .finite negative units =>
    (if negative then ['-'] else []) ++ withPoint places (fixedScaled places units)

end LossProbe.Decimal
