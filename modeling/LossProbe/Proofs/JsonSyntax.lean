import Mathlib.Algebra.Order.Field.Rat
import LossProbe.Json.Number

/-!
# The syntax of JSON

Every JSON text is the spelling of a `Document`: a tree of values that keeps all that the text
says, down to the blanks, the leading zeros of an exponent and the case of a hexadecimal digit.
Nothing here knows how a text is read. The trees only have parts that the grammar allows, so a
text is JSON exactly when it is the spelling of one of them.
-/

namespace LossProbe.Json

/-! ## Blanks -/

/-- A character that means nothing between the parts of a value. -/
inductive Blank where
  | space
  | tab
  | lineFeed
  | carriageReturn

def Blank.char : Blank → Char
  | space => ' '
  | tab => '\t'
  | lineFeed => '\n'
  | carriageReturn => '\r'

abbrev Blanks := List Blank

def Blanks.chars (b : Blanks) : List Char := b.map Blank.char

/-! ## Numbers -/

def digitChar (d : Fin 10) : Char := Char.ofNat ('0'.toNat + d)

/-- One digit or more. -/
structure Digits where
  first : Fin 10
  more : List (Fin 10)

namespace Digits

def list (d : Digits) : List (Fin 10) := d.first :: d.more

def chars (d : Digits) : List Char := d.list.map digitChar

def values (d : Digits) : List Nat := d.list.map Fin.val

end Digits

/-- The digits before the point. A zero in front stands alone. -/
structure Whole extends Digits where
  alone : first = 0 → more = []

/-- The power of ten after a number. -/
structure Exponent where
  capital : Bool
  /-- The sign, where there is one: whether it is a minus. -/
  sign : Option Bool
  digits : Digits

namespace Exponent

def letter (e : Exponent) : Char := if e.capital then 'E' else 'e'

def signChars (e : Exponent) : List Char :=
  match e.sign with
  | none => []
  | some false => ['+']
  | some true => ['-']

def chars (e : Exponent) : List Char := e.letter :: (e.signChars ++ e.digits.chars)

def negative (e : Exponent) : Bool := e.sign = some true

/-- The power of ten. -/
def value (e : Exponent) : Int :=
  if e.negative then -Decimal.foldDigits 0 e.digits.values else Decimal.foldDigits 0 e.digits.values

end Exponent

/-- A number as it is written. -/
structure Numeral where
  negative : Bool
  whole : Whole
  fraction : Option Digits
  exponent : Option Exponent

namespace Numeral

def fractionChars : Option Digits → List Char
  | none => []
  | some d => '.' :: d.chars

def exponentChars : Option Exponent → List Char
  | none => []
  | some e => e.chars

/-- What follows the sign. -/
def unsignedChars (n : Numeral) : List Char :=
  n.whole.chars ++ (fractionChars n.fraction ++ exponentChars n.exponent)

def chars (n : Numeral) : List Char :=
  if n.negative then '-' :: n.unsignedChars else n.unsignedChars

/-- The digits after the point. -/
def fractionValues (n : Numeral) : List Nat := (n.fraction.map Digits.values).getD []

/-- The digits before and after the point, read as one natural number. -/
def significand (n : Numeral) : Nat :=
  Decimal.foldDigits 0 (n.whole.values ++ n.fractionValues)

/-- The power of ten that is written after the digits. -/
def power (n : Numeral) : Int := (n.exponent.map Exponent.value).getD 0

/-- The absolute value of the number that is written. -/
def magnitude (n : Numeral) : ℚ := n.significand * 10 ^ (n.power - n.fractionValues.length)

/-- How many digits the exponent is written with. -/
def exponentLength (n : Numeral) : Nat := (n.exponent.map fun e => e.digits.list.length).getD 0

/-- A number far enough from what a double can hold at most. -/
def Moderate (n : Numeral) : Prop := n.magnitude < 10 ^ 308 ∧ n.exponentLength ≤ 9

/-- A number of one digit. -/
def ofDigit (d : Fin 10) : Numeral := ⟨false, ⟨⟨d, []⟩, fun _ => rfl⟩, none, none⟩

end Numeral

/-! ## Strings -/

inductive HexDigit where
  | digit (d : Fin 10)
  /-- A digit from ten on. -/
  | letter (l : Fin 6) (capital : Bool)

namespace HexDigit

def char : HexDigit → Char
  | digit d => digitChar d
  | letter l capital => Char.ofNat ((if capital then 'A' else 'a').toNat + l)

def value : HexDigit → Nat
  | digit d => d
  | letter l _ => 10 + l

end HexDigit

/-- Four hexadecimal digits. -/
structure CodeUnit where
  a : HexDigit
  b : HexDigit
  c : HexDigit
  d : HexDigit

namespace CodeUnit

def chars (u : CodeUnit) : List Char := [u.a.char, u.b.char, u.c.char, u.d.char]

def value (u : CodeUnit) : Nat :=
  ((u.a.value * 16 + u.b.value) * 16 + u.c.value) * 16 + u.d.value

/-- The first half of a surrogate pair. -/
def Leading (u : CodeUnit) : Prop := 0xd800 ≤ u.value ∧ u.value < 0xdc00

/-- The second half of a surrogate pair. -/
def Trailing (u : CodeUnit) : Prop := 0xdc00 ≤ u.value ∧ u.value < 0xe000

instance (u : CodeUnit) : Decidable u.Leading := inferInstanceAs (Decidable (_ ∧ _))
instance (u : CodeUnit) : Decidable u.Trailing := inferInstanceAs (Decidable (_ ∧ _))

end CodeUnit

/-- An escape of one letter. -/
inductive ShortEscape where
  | quote
  | backslash
  | slash
  | backspace
  | formFeed
  | lineFeed
  | carriageReturn
  | tab

namespace ShortEscape

def letter : ShortEscape → Char
  | quote => '"'
  | backslash => '\\'
  | slash => '/'
  | backspace => 'b'
  | formFeed => 'f'
  | lineFeed => 'n'
  | carriageReturn => 'r'
  | tab => 't'

def meaning : ShortEscape → Char
  | quote => '"'
  | backslash => '\\'
  | slash => '/'
  | backspace => Char.ofNat 0x08
  | formFeed => Char.ofNat 0x0c
  | lineFeed => Char.ofNat 0x0a
  | carriageReturn => Char.ofNat 0x0d
  | tab => Char.ofNat 0x09

end ShortEscape

/-- What a string literal is made of. -/
inductive Piece where
  | plain (c : Char) (h : 0x20 ≤ c.toNat ∧ c ≠ '"' ∧ c ≠ '\\')
  | short (e : ShortEscape)
  | unicode (u : CodeUnit)

def Piece.chars : Piece → List Char
  | plain c _ => [c]
  | short e => ['\\', e.letter]
  | unicode u => '\\' :: 'u' :: u.chars

/-- A string literal, without its quotes. -/
abbrev Pieces := List Piece

namespace Pieces

def chars (ps : Pieces) : List Char := ps.flatMap Piece.chars

/-- A string literal with its quotes. -/
def quoted (ps : Pieces) : List Char := '"' :: (ps.chars ++ ['"'])

/-- The text that is written, unless half of a surrogate pair stands without the other. -/
def unescape? : Pieces → Option (List Char)
  | [] => some []
  | .plain c _ :: more => (unescape? more).map (c :: ·)
  | .short e :: more => (unescape? more).map (e.meaning :: ·)
  | .unicode u :: more =>
    if u.Trailing then none
    else if u.Leading then
      match more with
      | .unicode v :: more =>
        if v.Trailing then
          (unescape? more).map
            (Char.ofNat (0x10000 + (u.value - 0xd800) * 0x400 + (v.value - 0xdc00)) :: ·)
        else none
      | _ => none
    else (unescape? more).map (Char.ofNat u.value :: ·)

/-- Whether surrogates only stand in pairs. -/
def Paired (ps : Pieces) : Prop := (unescape? ps).isSome

instance (ps : Pieces) : Decidable ps.Paired := inferInstanceAs (Decidable (_ = true))

/-- A text without escapes, as far as it can be written so. -/
def ofPlain (text : List Char) : Pieces :=
  text.filterMap fun c =>
    if h : 0x20 ≤ c.toNat ∧ c ≠ '"' ∧ c ≠ '\\' then some (.plain c h) else none

end Pieces

/-! ## Values -/

mutual

/-- A value as it is written, without blanks around it. -/
inductive Tree where
  | null
  | bool (b : Bool)
  | number (n : Numeral)
  | string (ps : Pieces)
  | emptyArray (inside : Blanks)
  | array (items : Items)
  | emptyObject (inside : Blanks)
  | object (members : Members)

/-- What stands between the brackets of an array that is not empty. -/
inductive Items where
  | last (before : Blanks) (item : Tree) (after : Blanks)
  | more (before : Blanks) (item : Tree) (after : Blanks) (others : Items)

/-- What stands between the braces of an object that is not empty. -/
inductive Members where
  | last (before : Blanks) (name : Pieces) (afterName beforeValue : Blanks) (value : Tree)
      (after : Blanks)
  | more (before : Blanks) (name : Pieces) (afterName beforeValue : Blanks) (value : Tree)
      (after : Blanks) (others : Members)

end

mutual

def Tree.chars : Tree → List Char
  | .null => ['n', 'u', 'l', 'l']
  | .bool true => ['t', 'r', 'u', 'e']
  | .bool false => ['f', 'a', 'l', 's', 'e']
  | .number n => n.chars
  | .string ps => ps.quoted
  | .emptyArray inside => '[' :: (inside.chars ++ [']'])
  | .array items => '[' :: (items.chars ++ [']'])
  | .emptyObject inside => '\x7b' :: (inside.chars ++ ['\x7d'])
  | .object members => '\x7b' :: (members.chars ++ ['\x7d'])

def Items.chars : Items → List Char
  | .last before item after => before.chars ++ (item.chars ++ after.chars)
  | .more before item after others =>
    before.chars ++ (item.chars ++ (after.chars ++ ',' :: others.chars))

def Members.chars : Members → List Char
  | .last before name afterName beforeValue value after =>
    before.chars ++ (name.quoted ++ (afterName.chars ++ ':' :: (beforeValue.chars ++
      (value.chars ++ after.chars))))
  | .more before name afterName beforeValue value after others =>
    before.chars ++ (name.quoted ++ (afterName.chars ++ ':' :: (beforeValue.chars ++
      (value.chars ++ (after.chars ++ ',' :: others.chars)))))

end

mutual

/-- How deep arrays and objects are nested. -/
def Tree.depth : Tree → Nat
  | .null => 0
  | .bool _ => 0
  | .number _ => 0
  | .string _ => 0
  | .emptyArray _ => 1
  | .array items => items.depth + 1
  | .emptyObject _ => 1
  | .object members => members.depth + 1

def Items.depth : Items → Nat
  | .last _ item _ => item.depth
  | .more _ item _ others => max item.depth others.depth

def Members.depth : Members → Nat
  | .last _ _ _ _ value _ => value.depth
  | .more _ _ _ _ value _ others => max value.depth others.depth

end

mutual

/-- All strings in a value, names included. -/
def Tree.strings : Tree → List Pieces
  | .string ps => [ps]
  | .array items => items.strings
  | .object members => members.strings
  | _ => []

def Items.strings : Items → List Pieces
  | .last _ item _ => item.strings
  | .more _ item _ others => item.strings ++ others.strings

def Members.strings : Members → List Pieces
  | .last _ name _ _ value _ => name :: value.strings
  | .more _ name _ _ value _ others => name :: (value.strings ++ others.strings)

end

mutual

/-- All numbers in a value. -/
def Tree.numerals : Tree → List Numeral
  | .number n => [n]
  | .array items => items.numerals
  | .object members => members.numerals
  | _ => []

def Items.numerals : Items → List Numeral
  | .last _ item _ => item.numerals
  | .more _ item _ others => item.numerals ++ others.numerals

def Members.numerals : Members → List Numeral
  | .last _ _ _ _ value _ => value.numerals
  | .more _ _ _ _ value _ others => value.numerals ++ others.numerals

end

/-- Names and values, in their order. -/
def Members.list : Members → List (Pieces × Tree)
  | .last _ name _ _ value _ => [(name, value)]
  | .more _ name _ _ value _ others => (name, value) :: others.list

/-- The members of a value, if it is an object. -/
def Tree.members? : Tree → Option (List (Pieces × Tree))
  | .emptyObject _ => some []
  | .object members => some members.list
  | _ => none

/-- A whole text: a value with blanks around it. -/
structure Document where
  before : Blanks
  root : Tree
  after : Blanks

def Document.chars (d : Document) : List Char :=
  d.before.chars ++ (d.root.chars ++ d.after.chars)

end LossProbe.Json
