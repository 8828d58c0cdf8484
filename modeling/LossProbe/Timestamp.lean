import LossProbe.Decimal.Basic

/-! # Points in time

A `Timestamp` counts from the beginning of 1970 and is written as a date and a time of day in
universal time. A leap second repeats the last second of its minute, with a fraction of one
second or more. -/

namespace LossProbe

structure Timestamp where
  seconds : Int
  nanos : Nat
deriving DecidableEq, Repr

namespace Timestamp

/-- The beginning of 1970. -/
def epoch : Timestamp := ⟨0, 0⟩

instance : Inhabited Timestamp := ⟨epoch⟩

/-- The first second of the earliest year that has a date. -/
def minSeconds : Int := -8334601228800

/-- The last second of the latest year that has a date. -/
def maxSeconds : Int := 8210266876799

/-- A point in time, if it has a date and its fraction belongs to a second. -/
def ofUnix? (seconds : Int) (nanos : Nat) : Option Timestamp :=
  if minSeconds ≤ seconds ∧ seconds ≤ maxSeconds ∧
      (nanos < 1000000000 ∨ (nanos < 2000000000 ∧ seconds % 60 = 59)) then
    some ⟨seconds, nanos⟩
  else none

/-- A calendar date. -/
structure Date where
  year : Int
  month : Nat
  day : Nat
deriving DecidableEq, Repr

/-- The date of a day counted from the beginning of 1970. Years are taken to begin in March, so
that a leap day is the last of its year, and four hundred of them have 146097 days. -/
def dateOfDay (day : Int) : Date :=
  let shifted := day + 719468
  let era := shifted / 146097
  let dayOfEra := (shifted % 146097).toNat
  let yearOfEra := (dayOfEra - dayOfEra / 1460 + dayOfEra / 36524 - dayOfEra / 146096) / 365
  let dayOfYear := dayOfEra - (365 * yearOfEra + yearOfEra / 4 - yearOfEra / 100)
  let fromMarch := (5 * dayOfYear + 2) / 153
  let month := if fromMarch < 10 then fromMarch + 3 else fromMarch - 9
  ⟨era * 400 + yearOfEra + (if month ≤ 2 then 1 else 0), month,
    dayOfYear - (153 * fromMarch + 2) / 5 + 1⟩

/-- A year of at most four digits is written plainly, any other one with its sign. -/
def yearChars (year : Int) : List Char :=
  if 0 ≤ year ∧ year ≤ 9999 then Decimal.paddedDigits 4 year.natAbs
  else (if year < 0 then '-' else '+') :: Decimal.paddedDigits 4 year.natAbs

/-- The fraction of a second in groups of three digits, as few as hold it. -/
def fractionChars (nanos : Nat) : List Char :=
  if nanos = 0 then []
  else if nanos % 1000000 = 0 then '.' :: Decimal.paddedDigits 3 (nanos / 1000000)
  else if nanos % 1000 = 0 then '.' :: Decimal.paddedDigits 6 (nanos / 1000)
  else '.' :: Decimal.paddedDigits 9 nanos

/-- The date and the time of day, up to the second. -/
def secondChars (t : Timestamp) : List Char :=
  let date := dateOfDay (t.seconds / 86400)
  let time := (t.seconds % 86400).toNat
  let two := Decimal.paddedDigits 2
  let second := time % 60 + t.nanos / 1000000000
  yearChars date.year ++ '-' :: two date.month ++ '-' :: two date.day ++
    'T' :: two (time / 3600) ++ ':' :: two (time / 60 % 60) ++ ':' :: two second

def chars (t : Timestamp) : List Char :=
  t.secondChars ++ fractionChars (t.nanos % 1000000000) ++ ['Z']

/-- The text with six digits of the fraction, whether or not they are zero. -/
def microChars (t : Timestamp) : List Char :=
  t.secondChars ++ '.' :: Decimal.paddedDigits 6 (t.nanos % 1000000000 / 1000) ++ ['Z']

instance : ToString Timestamp := ⟨fun t => String.ofList t.chars⟩

end Timestamp
end LossProbe
