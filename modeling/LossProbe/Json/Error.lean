/-! # Why a text is not JSON

A reader that gives up knows the cause and how many octets it had left. Together with the whole
text the second gives the line and the column, where columns count octets. -/

namespace LossProbe.Json

/-- Why reading stopped. -/
inductive Cause where
  | endInList
  | endInObject
  | endInString
  | endInValue
  | expectedColon
  | expectedListCommaOrEnd
  | expectedObjectCommaOrEnd
  | expectedIdent
  | expectedValue
  | invalidEscape
  | invalidNumber
  | numberOutOfRange
  | keyMustBeString
  | controlCharacter
  | loneSurrogate
  | unfinishedHexEscape
  | trailingComma
  | trailingCharacters
  | nestedTooDeep
deriving DecidableEq, Repr

def Cause.message : Cause → String
  | endInList => "EOF while parsing a list"
  | endInObject => "EOF while parsing an object"
  | endInString => "EOF while parsing a string"
  | endInValue => "EOF while parsing a value"
  | expectedColon => "expected `:`"
  | expectedListCommaOrEnd => "expected `,` or `]`"
  | expectedObjectCommaOrEnd => "expected `,` or `\x7d`"
  | expectedIdent => "expected ident"
  | expectedValue => "expected value"
  | invalidEscape => "invalid escape"
  | invalidNumber => "invalid number"
  | numberOutOfRange => "number out of range"
  | keyMustBeString => "key must be a string"
  | controlCharacter => "control character (\\u0000-\\u001F) found while parsing a string"
  | loneSurrogate => "lone leading surrogate in hex escape"
  | unfinishedHexEscape => "unexpected end of hex escape"
  | trailingComma => "trailing comma"
  | trailingCharacters => "trailing characters"
  | nestedTooDeep => "recursion limit exceeded"

/-- How many octets a text has. -/
def octetCount : List Char → Nat
  | [] => 0
  | c :: cs => c.utf8Size + octetCount cs

/-- A cause, and how many octets were left when it was found. -/
structure Failure where
  cause : Cause
  unread : Nat
deriving DecidableEq, Repr

/-- Give up `ahead` octets into the rest of the text, or at its end if that is nearer. -/
def Failure.within (rest : List Char) (ahead : Nat) (cause : Cause) : Failure :=
  ⟨cause, octetCount rest - ahead⟩

/-- Give up at the character that the rest of the text begins with. -/
def Failure.at (rest : List Char) (cause : Cause) : Failure := .within rest 1 cause

/-- A place in a text. -/
structure Position where
  line : Nat
  column : Nat
deriving DecidableEq, Repr

/-- The place that the given octets lead up to. -/
def Position.after (octets : List UInt8) : Position :=
  let newline : UInt8 := 10
  ⟨octets.count newline + 1, (octets.reverse.takeWhile (· ≠ newline)).length⟩

/-- The place in `text` where so many octets are left. -/
def Position.before (text : List Char) (unread : Nat) : Position :=
  let octets := text.flatMap String.utf8EncodeChar
  .after (octets.take (octets.length - unread))

def Position.text (p : Position) : String := s!" at line {p.line} column {p.column}"

/-- The failure as it is shown for the text it was found in. -/
def Failure.message (f : Failure) (text : List Char) : String :=
  f.cause.message ++ (Position.before text f.unread).text

end LossProbe.Json
