import LossProbe.Json.Basic
import LossProbe.Json.Parsed
import LossProbe.Decimal.Basic

/-! # Number literals

A literal is split into its digits first; the digits then give the number. A number that needs
more than 64 bits, or has a fraction or an exponent, becomes a double: its leading digits, as
many as fit into 64 bits, are multiplied or divided by a power of ten. -/

namespace LossProbe.Json

/-- The parts of a number literal, digits as numbers. -/
structure Literal where
  negative : Bool
  whole : List Nat
  fraction : Option (List Nat) := none
  /-- Whether the exponent is negative, and its digits. -/
  exponent : Option (Bool × List Nat) := none
deriving DecidableEq, Repr

/-- The longest run of decimal digits at the front, and what follows it. -/
def spanDigits : List Char → List Nat × List Char
  | [] => ([], [])
  | c :: cs =>
    match Decimal.digit? c with
    | some d => (d :: (spanDigits cs).1, (spanDigits cs).2)
    | none => ([], c :: cs)

/-- Digits and what follows them make up the text. -/
theorem length_spanDigits (s : List Char) :
    (spanDigits s).1.length + (spanDigits s).2.length = s.length := by
  induction s with
  | nil => rfl
  | cons c cs ih => simp only [spanDigits]; split <;> simp_all; omega

/-- At least one digit, or the reason why there is none. -/
def digitRun : Reader (List Nat) := fun s =>
  match h : spanDigits s with
  | ([], _) => .error (.at s (if s = [] then .endInValue else .invalidNumber))
  | (d :: ds, rest) => .ok ⟨d :: ds, rest, by
      have := length_spanDigits s
      simp [h] at this
      omega⟩

/-- The digits before the point: a zero stands alone. -/
def wholePart : Reader (List Nat) := fun s =>
  match s with
  | '0' :: rest =>
    match spanDigits rest with
    | ([], _) => .ok (.ofChar '0' rest [0])
    | (_ :: _, _) => .error (.at rest .invalidNumber)
  | s => digitRun s

/-- A point and the digits after it, where there is a point. -/
def fractionPart (s : List Char) : Except Failure (Optional s (Option (List Nat))) :=
  match s with
  | '.' :: rest =>
    (digitRun rest).map fun p => ((p.map some).after '.').toOptional
  | s => .ok (.nothing s none)

/-- An exponent after its letter: whether it is negative, and its digits. -/
def signedDigits : Reader (Bool × List Nat) := fun s =>
  match s with
  | '+' :: rest => (digitRun rest).map fun p => (p.map (false, ·)).after '+'
  | '-' :: rest => (digitRun rest).map fun p => (p.map (true, ·)).after '-'
  | s => (digitRun s).map (·.map (false, ·))

/-- The exponent, where there is one. -/
def exponentPart (s : List Char) : Except Failure (Optional s (Option (Bool × List Nat))) :=
  match s with
  | [] => .ok (.nothing [] none)
  | c :: rest =>
    if c = 'e' ∨ c = 'E' then
      (signedDigits rest).map fun p => ((p.map some).after c).toOptional
    else .ok (.nothing (c :: rest) none)

/-- Whether a significand fits into 64 bits. -/
def fits (n : Nat) : Bool := n ≤ 0xffffffffffffffff

/-- Append digits to a significand up to the first that does not fit, and count the others. -/
def appendDigits (significand : Nat) : List Nat → Nat × Nat
  | [] => (significand, 0)
  | d :: ds =>
    if fits (10 * significand + d) then appendDigits (10 * significand + d) ds
    else (significand, ds.length + 1)

/-- The greatest power of ten that is a double. -/
def maxPower : Nat := 308

/-- `x * 10 ^ exponent` in steps of one double operation each. There is no result where it would
be infinite. -/
def scale (x : Binary64) (exponent : Int) : Option Binary64 :=
  if exponent ≤ maxPower then
    if 0 ≤ exponent then
      let y := x * .ofNat (Decimal.tenTo exponent.toNat)
      if y.isInfinite then none else some y
    -- Below the least power the division goes on in steps, each of which is rounded.
    else if -maxPower ≤ exponent then some (x / .ofNat (Decimal.tenTo (-exponent).toNat))
    else if x = .zero then some x
    else scale (x / .ofNat (Decimal.tenTo maxPower)) (exponent + maxPower)
  else if x = .zero then some x
  else none
termination_by (-exponent).toNat
decreasing_by simp only [maxPower] at *; omega

/-- The greatest exponent that is counted. -/
def exponentMax : Nat := 0x7fffffff

/-- The value of exponent digits, or how many digits follow the one that makes it too great. -/
def exponentValue (value : Nat) : List Nat → Except Nat Nat
  | [] => .ok value
  | d :: ds =>
    if 10 * value + d ≤ exponentMax then exponentValue (10 * value + d) ds else .error ds.length

namespace Literal

/-- A double of the given sign, or none where it would be infinite. -/
def signed (l : Literal) (x : Binary64) : Binary64 := if l.negative then -x else x

/-- The number a literal stands for, or, where it is out of range, how many digits of the
literal follow the one that shows it. -/
def number (l : Literal) : Except Nat Number :=
  let (significand, dropped) := appendDigits 0 l.whole
  let (significand, shift) :=
    match l.fraction with
    | none => (significand, (dropped : Int))
    | some ds =>
      let (significand, ignored) := appendDigits significand ds
      (significand, (dropped : Int) - (ds.length - ignored : Nat))
  let float (exponent : Int) : Except Nat Number :=
    match scale (.ofNat significand) exponent with
    | some x => .ok (.float (l.signed x))
    | none => .error 0
  match l.exponent with
  | none =>
    if l.fraction.isSome || dropped ≠ 0 then float shift
    else if !l.negative then .ok (.integer significand)
    -- Minus zero, and what is below the least integer of 64 bits, is a double.
    else if significand = 0 ∨ 0x8000000000000000 < significand then
      .ok (.float (l.signed (.ofNat significand)))
    else .ok (.integer (-significand))
  | some (negative, ds) =>
    match exponentValue 0 ds with
    | .ok n => float (if negative then shift - n else shift + n)
    | .error following =>
      -- Too great an exponent is no error where the number is zero or rounds to it.
      if significand ≠ 0 ∧ !negative then .error following
      else .ok (.float (l.signed .zero))

end Literal

/-- The literal that a text begins with, after its sign. -/
def literal (negative : Bool) : Reader Literal := fun s => do
  let whole ← wholePart s
  let fraction ← fractionPart whole.rest
  let exponent ← exponentPart fraction.rest
  return ⟨⟨negative, whole.value, fraction.value, exponent.value⟩, exponent.rest,
    Nat.lt_of_le_of_lt (Nat.le_trans exponent.notLonger fraction.notLonger) whole.shorter⟩

/-- A number, after its sign. -/
def numberAfterSign (negative : Bool) : Reader Number := fun s =>
  match literal negative s with
  | .error e => .error e
  | .ok p =>
    match p.value.number with
    | .ok n => .ok ⟨n, p.rest, p.shorter⟩
    | .error following => .error ⟨.numberOutOfRange, octetCount p.rest + following⟩

end LossProbe.Json
