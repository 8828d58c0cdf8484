import LossProbe.Json.Basic
import LossProbe.Decimal.Shortest

/-! # Writing JSON

Values are written without blanks. In strings only the quote, the backslash and the characters
below the blank are escaped. A double is written with the fewest digits that read back, and as
`null` where it is not a number. -/

namespace LossProbe.Json

/-- A double is positional from `0.00001` up to sixteen digits before the point. -/
def floatLayout : Decimal.Layout := ⟨-5, 15⟩

/-- A double; there is no text for one that is not finite. -/
def floatChars? (x : Binary64) : Option (List Char) :=
  if x.isFinite then
    some ((if x.isNegative then ['-'] else []) ++
      if x.magnitude = 0 then ['0', '.', '0']
      else (Decimal.shortest x.magnitude).write floatLayout)
  else none

def numberChars : Number → List Char
  | .integer n => if n < 0 then '-' :: Decimal.digits n.natAbs else Decimal.digits n.natAbs
  | .float x => (floatChars? x).getD "null".toList

/-- A character inside quotes. -/
def escaped (c : Char) : List Char :=
  match c with
  | '"' => ['\\', '"']
  | '\\' => ['\\', '\\']
  | '\x08' => ['\\', 'b']
  | '\x0c' => ['\\', 'f']
  | '\n' => ['\\', 'n']
  | '\r' => ['\\', 'r']
  | '\t' => ['\\', 't']
  | c =>
    if c.toNat < 0x20 then
      ['\\', 'u', '0', '0', Nat.digitChar (c.toNat / 16), Nat.digitChar (c.toNat % 16)]
    else [c]

def stringChars (s : String) : List Char := '"' :: s.toList.flatMap escaped ++ ['"']

mutual

def chars : Json → List Char
  | null => "null".toList
  | bool b => (if b then "true" else "false").toList
  | number n => numberChars n
  | string s => stringChars s
  | array items => '[' :: itemChars items ++ [']']
  | object members => '\x7b' :: memberChars members ++ ['\x7d']

/-- Items with commas between them. -/
def itemChars : List Json → List Char
  | [] => []
  | [v] => v.chars
  | v :: w :: more => v.chars ++ ',' :: itemChars (w :: more)

/-- Members with commas between them. -/
def memberChars : List (String × Json) → List Char
  | [] => []
  | [(name, v)] => stringChars name ++ ':' :: v.chars
  | (name, v) :: m :: more => stringChars name ++ ':' :: v.chars ++ ',' :: memberChars (m :: more)

end

/-- The value as one line of text. -/
def write (v : Json) : String := String.ofList v.chars

end LossProbe.Json
