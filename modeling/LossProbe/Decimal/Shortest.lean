import LossProbe.Binary64
import LossProbe.Decimal.Basic

/-! # The shortest decimal that reads back

A double is written with the fewest digits whose nearest double is that same double. Of the
grids of one, two, ... seventeen digits the first with a hit wins; of two hits on one grid the
nearer one is taken, and of two equally near ones the even one. -/

namespace LossProbe

/-- The number `coefficient * 10 ^ exponent`. -/
structure Decimal where
  coefficient : Nat
  exponent : Int
deriving DecidableEq, Repr

namespace Decimal

/-- The power of ten above the fraction bar. -/
def scaleUp (exponent : Int) : Nat := tenTo exponent.toNat

/-- The power of ten below the fraction bar. -/
def scaleDown (exponent : Int) : Nat := tenTo (-exponent).toNat

/-- The magnitude of the double nearest to a decimal. -/
def magnitude (d : Decimal) : Nat :=
  Binary64.nearest (d.coefficient * scaleUp d.exponent) (scaleDown d.exponent)

/-- Move the zeros at the end of the coefficient into the exponent. -/
def normalize (d : Decimal) : Decimal :=
  if d.coefficient ≠ 0 ∧ d.coefficient % 10 = 0 then
    normalize ⟨d.coefficient / 10, d.exponent + 1⟩
  else d
termination_by d.coefficient
decreasing_by omega

/-- The power of ten of the leading digit of `num / den`. -/
def leadingExponent (num den : Nat) : Int :=
  if den ≤ num then (width (num / den) : Int) - 1
  else -(width ((den - 1) / num) : Int)

/-- The multiple of `10 ^ exponent` that reads back as `magnitude`: the nearer neighbour of the
value if it does, else the other one. -/
def onGrid? (magnitude : Nat) (exponent : Int) : Option Decimal :=
  let num := Binary64.unitsOf magnitude * scaleDown exponent
  let den := Binary64.unitsPerOne * scaleUp exponent
  let near := roundHalfEven num den
  -- The value lies between `near` and `far`.
  let far := if near = num / den then near + 1 else near - 1
  [⟨near, exponent⟩, ⟨far, exponent⟩].find? fun d => d.magnitude = magnitude

/-- The exact value of a magnitude: a unit is `5 ^ 1074 * 10 ^ -1074`. -/
def exact (magnitude : Nat) : Decimal := ⟨Binary64.unitsOf magnitude * Nat.pow 5 1074, -1074⟩

/-- The shortest decimal that reads back as a positive magnitude. Seventeen digits are always
enough; the exact value stands in so that no proof of this is needed to write a number. -/
def shortest (magnitude : Nat) : Decimal :=
  let top := leadingExponent (Binary64.unitsOf magnitude) Binary64.unitsPerOne
  match (List.range 17).findSome? fun (n : Nat) => onGrid? magnitude (top - n) with
  | some d => d.normalize
  | none => (exact magnitude).normalize

/-- Where positional writing ends, by the power of ten of the leading digit. -/
structure Layout where
  /-- The smallest power that is still written positionally. -/
  least : Int
  /-- The greatest power that is still written positionally. -/
  greatest : Int

/-- A decimal without an exponent, always with a point and a digit on each side of it. -/
def positional (d : Decimal) : List Char :=
  let ds := digits d.coefficient
  let before := ds.length + d.exponent
  if 0 ≤ d.exponent then ds ++ List.replicate d.exponent.toNat '0' ++ ['.', '0']
  else if 0 < before then ds.take before.toNat ++ '.' :: ds.drop before.toNat
  else ['0', '.'] ++ List.replicate (-before).toNat '0' ++ ds

/-- A decimal with one digit before the point and a signed exponent. -/
def scientific (d : Decimal) : List Char :=
  let ds := digits d.coefficient
  let power := d.exponent + ds.length - 1
  ds.take 1 ++ (if ds.length ≤ 1 then [] else '.' :: ds.drop 1) ++
    'e' :: (if power < 0 then '-' else '+') :: digits power.natAbs

/-- Write a decimal as a layout says. -/
def write (layout : Layout) (d : Decimal) : List Char :=
  let power := d.exponent + (digits d.coefficient).length - 1
  if layout.least ≤ power ∧ power ≤ layout.greatest then d.positional else d.scientific

end Decimal
end LossProbe
