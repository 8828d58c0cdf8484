import LossProbe.Rounding

/-! # Double-precision numbers

A `Binary64` is its 64 interchange bits. Leaving the sign bit out, the bits of a finite number
are a natural number, its *magnitude*, and the values of the magnitudes grow with them. Every
finite value is a whole number of units of `2 ^ -1074`, so arithmetic is exact arithmetic on
natural numbers followed by one rounding, `nearest`. -/

namespace LossProbe

/-- A double-precision number, given by its interchange bits. -/
structure Binary64 where
  bits : UInt64
deriving DecidableEq, Repr

namespace Binary64

/-- How many units make one: the smallest positive number is one unit. -/
def unitsPerOne : Nat := 1 <<< 1074

/-- How many magnitudes share an exponent. -/
def binade : Nat := 0x10000000000000

/-- The magnitude of infinity. All larger magnitudes stand for no number. -/
def infinityMagnitude : Nat := 0x7ff * binade

/-- The sign bit, which is the highest. -/
def signBit : Nat := 0x8000000000000000

/-- The bits without the sign. -/
def magnitude (x : Binary64) : Nat := x.bits.toNat % signBit

/-- Whether the sign bit is set. -/
def isNegative (x : Binary64) : Bool := signBit ≤ x.bits.toNat

/-- The value of a magnitude, in units: in the first binade the magnitude itself, and from there
on the 53-bit significand shifted by the exponent. -/
def unitsOf (magnitude : Nat) : Nat :=
  if magnitude < binade then magnitude
  else (binade + magnitude % binade) <<< (magnitude / binade - 1)

/-- The magnitude whose value is nearest to `num / den`, a tie going to the even one, and
infinity from half a step beyond the largest number on. -/
def nearest (num den : Nat) : Nat :=
  let units := num * unitsPerOne
  let exponent := Nat.log2 (units / den) - 52
  -- A significand that is rounded up to the next power of two carries into the exponent.
  min infinityMagnitude (exponent * binade + roundHalfEven units (den <<< exponent))

/-- The number with this sign and magnitude. -/
def ofMagnitude (negative : Bool) (magnitude : Nat) : Binary64 :=
  ⟨UInt64.ofNat (if negative then signBit + magnitude else magnitude)⟩

/-- The result of an operation without a value. -/
def nan : Binary64 := ⟨0x7ff8000000000000⟩

def infinity (negative : Bool) : Binary64 := ofMagnitude negative infinityMagnitude

def zero : Binary64 := ⟨0⟩

/-- What the bits stand for. -/
inductive Value where
  | nan
  | infinite (negative : Bool)
  /-- `units` times `2 ^ -1074`. -/
  | finite (negative : Bool) (units : Nat)
deriving DecidableEq, Repr

/-- Decode the bits. -/
def value (x : Binary64) : Value :=
  if infinityMagnitude < x.magnitude then .nan
  else if x.magnitude = infinityMagnitude then .infinite x.isNegative
  else .finite x.isNegative (unitsOf x.magnitude)

def isFinite (x : Binary64) : Bool := x.magnitude < infinityMagnitude

def isInfinite (x : Binary64) : Bool := x.magnitude = infinityMagnitude

def isNaN (x : Binary64) : Bool := infinityMagnitude < x.magnitude

/-- The number nearest to `num / den` with this sign. -/
def ofQuotient (negative : Bool) (num den : Nat) : Binary64 :=
  ofMagnitude negative (nearest num den)

/-- The number nearest to a natural number. -/
def ofNat (n : Nat) : Binary64 := ofQuotient false n 1

/-- The opposite number: the sign bit is flipped, also of zero. -/
def neg (x : Binary64) : Binary64 := ofMagnitude (!x.isNegative) x.magnitude

/-- The exact sum, rounded. The sum of opposite numbers is the positive zero. -/
def add (x y : Binary64) : Binary64 :=
  match x.value, y.value with
  | .nan, _ | _, .nan => nan
  | .infinite a, .infinite b => if a = b then infinity a else nan
  | .infinite a, .finite _ _ | .finite _ _, .infinite a => infinity a
  | .finite a u, .finite b v =>
    if a = b then ofQuotient a (u + v) unitsPerOne
    else if v < u then ofQuotient a (u - v) unitsPerOne
    else ofQuotient (b && u < v) (v - u) unitsPerOne

/-- The exact product, rounded. -/
def mul (x y : Binary64) : Binary64 :=
  match x.value, y.value with
  | .nan, _ | _, .nan => nan
  | .infinite a, .infinite b => infinity (a ^^ b)
  | .infinite a, .finite b units | .finite b units, .infinite a =>
    if units = 0 then nan else infinity (a ^^ b)
  | .finite a u, .finite b v => ofQuotient (a ^^ b) (u * v) (unitsPerOne * unitsPerOne)

/-- The exact quotient, rounded. -/
def div (x y : Binary64) : Binary64 :=
  match x.value, y.value with
  | .nan, _ | _, .nan => nan
  | .infinite _, .infinite _ => nan
  | .infinite a, .finite b _ => infinity (a ^^ b)
  | .finite a _, .infinite b => ofMagnitude (a ^^ b) 0
  | .finite a u, .finite b v =>
    if v = 0 then (if u = 0 then nan else infinity (a ^^ b))
    else ofQuotient (a ^^ b) u v

instance : Add Binary64 := ⟨add⟩
instance : Mul Binary64 := ⟨mul⟩
instance : Div Binary64 := ⟨div⟩
instance : Neg Binary64 := ⟨neg⟩
instance : Inhabited Binary64 := ⟨zero⟩

end Binary64
end LossProbe
