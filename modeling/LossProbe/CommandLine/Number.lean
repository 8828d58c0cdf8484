import LossProbe.Decimal.Basic

/-! # Numbers as option values

A number is written with ASCII digits, perhaps behind a sign. Digits are read from the left, and
the first that is none, or that makes the number too great, decides the error. -/

namespace LossProbe.CommandLine

/-- Why a text is no number. -/
inductive NumberError where
  | empty
  | invalidDigit
  | tooLarge
  | tooSmall
deriving DecidableEq, Repr

def NumberError.message : NumberError → String
  | empty => "cannot parse integer from empty string"
  | invalidDigit => "invalid digit found in string"
  | tooLarge => "number too large to fit in target type"
  | tooSmall => "number too small to fit in target type"

/-- Go on reading digits after `n`, up to the greatest number allowed. -/
def readDigits (greatest : Nat) (overflow : NumberError) (n : Nat) :
    List Char → Except NumberError Nat
  | [] => .ok n
  | c :: cs =>
    match Decimal.digit? c with
    | none => .error .invalidDigit
    | some d =>
      if 10 * n + d ≤ greatest then readDigits greatest overflow (10 * n + d) cs
      else .error overflow

/-- At least one digit. -/
def readNumber (greatest : Nat) (overflow : NumberError) (s : List Char) : Except NumberError Nat :=
  if s = [] then .error .invalidDigit else readDigits greatest overflow 0 s

/-- The greatest number of 64 bits. -/
def maxUnsigned : Nat := 0xffffffffffffffff

/-- The greatest number of 64 bits of which one is the sign. -/
def maxSigned : Nat := 0x7fffffffffffffff

/-- A number of 64 bits without a sign bit. A plus sign may stand in front. -/
def readUnsigned (s : List Char) : Except NumberError Nat :=
  match s with
  | [] => .error .empty
  | '+' :: cs => readNumber maxUnsigned .tooLarge cs
  | cs => readNumber maxUnsigned .tooLarge cs

/-- A number of 64 bits with a sign bit. Either sign may stand in front. -/
def readSigned (s : List Char) : Except NumberError Int :=
  match s with
  | [] => .error .empty
  | '+' :: cs => (readNumber maxSigned .tooLarge cs).map Int.ofNat
  | '-' :: cs => (readNumber (maxSigned + 1) .tooSmall cs).map fun n => -(n : Int)
  | cs => (readNumber maxSigned .tooLarge cs).map Int.ofNat

end LossProbe.CommandLine
