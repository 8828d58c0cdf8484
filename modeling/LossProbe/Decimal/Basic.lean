/-! # Decimal digits

Writing natural numbers in base ten, plainly and with a fixed count of places after the point. -/

namespace LossProbe.Decimal

/-- The decimal digits of `n`, without leading zeros. -/
def digits (n : Nat) : List Char := Nat.toDigits 10 n

/-- The decimal digits of `n`, with zeros in front up to `width` characters. -/
def paddedDigits (width n : Nat) : List Char := (digits n).leftpad width '0'

/-- Ten to a power. -/
def tenTo (power : Nat) : Nat := Nat.pow 10 power

/-- `n / 10 ^ places` written with exactly `places` digits after the point. -/
def withPoint (places n : Nat) : List Char :=
  digits (n / tenTo places) ++
    if places = 0 then [] else '.' :: paddedDigits places (n % tenTo places)

/-- The value of a decimal digit character, if it is one. -/
def digit? (c : Char) : Option Nat :=
  if '0' ≤ c ∧ c ≤ '9' then some (c.toNat - '0'.toNat) else none

/-- The value of a run of digits read after `start`. -/
def foldDigits (start : Nat) (ds : List Nat) : Nat := ds.foldl (fun n d => 10 * n + d) start

/-- The least `k` with `n < 10 ^ k`: how many digits `n` has, and none for zero. -/
def width (n : Nat) : Nat := if n = 0 then 0 else (digits n).length

end LossProbe.Decimal
