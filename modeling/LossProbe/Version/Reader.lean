import LossProbe.Json.Reader
import LossProbe.Json.Writer
import LossProbe.Text.Quoted
import LossProbe.Version

/-! # Versions in JSON

A version is written as its name. It may also be written as an object whose only member has that
name and no value. A version can be read from a JSON value or from a text; the text is refused at
the first place that does not fit. -/

namespace LossProbe

/-- A value as messages name it. -/
def Json.description : Json → String
  | .null => "null"
  | .bool b => s!"boolean `{b}`"
  | .number (.integer n) => s!"integer `{n}`"
  | .number (.float x) => s!"floating point `{String.ofList (Json.numberChars (.float x))}`"
  | .string s => s!"string {Text.quoted s}"
  | .array _ => "sequence"
  | .object _ => "map"

namespace Version

/-- Why a value is no version. -/
inductive DecodeError where
  | unknownName (name : String)
  | wrongType (found expected : String)
  | notOneMember
deriving DecidableEq, Repr

def DecodeError.message : DecodeError → String
  | unknownName name => s!"unknown variant `{name}`, expected `v2` or `v3`"
  | wrongType found expected => s!"invalid type: {found}, expected {expected}"
  | notOneMember => "invalid value: map, expected map with a single key"

/-- The version with a name. -/
def ofName (name : String) : Except DecodeError Version :=
  if name = Version.v2.name then .ok .v2
  else if name = Version.v3.name then .ok .v3
  else .error (.unknownName name)

/-- The member of an object that has only one, repetitions aside. -/
def onlyMember? (members : List (String × Json)) : Option (String × Json) := do
  let last ← members.getLast?
  if members.all fun m => m.1 = last.1 then some last else none

/-- The version that a value stands for. -/
def ofJson : Json → Except DecodeError Version
  | .string name => ofName name
  | .object members =>
    match onlyMember? members with
    | none => .error .notOneMember
    | some (name, value) => do
      let version ← ofName name
      match value with
      | .null => return version
      | value => throw (.wrongType value.description "unit")
  | value => .error (.wrongType value.description "string or map")

/-- The JSON text of a version. -/
def toJson (v : Version) : Json := .string v.name

/-- Why a text is no version. -/
inductive ReadError where
  | malformed (f : Json.Failure)
  /-- What was read before so many octets from the end is no version. -/
  | unfit (e : DecodeError) (unread : Nat)
deriving DecidableEq, Repr

/-- The error as it is shown for the text it was found in. -/
def ReadError.message (text : List Char) : ReadError → String
  | malformed f => f.message text
  | unfit e unread => e.message ++ (Json.Position.before text unread).text

/-- The error for a value that stands where something else is expected. -/
def unexpected (expected : String) (s : List Char) : ReadError :=
  match s with
  | '[' :: _ => .unfit (.wrongType (Json.description (.array [])) expected) (Json.octetCount s)
  | '\x7b' :: _ => .unfit (.wrongType (Json.description (.object [])) expected) (Json.octetCount s)
  | s =>
    match Json.valueWith none s with
    | .error f => .malformed f
    | .ok p => .unfit (.wrongType p.value.description expected) (Json.octetCount p.rest)

/-- A name after its opening quote, and what follows it. -/
def readName (s : List Char) : Except ReadError (Version × List Char) := do
  let p ← (Json.text s).mapError .malformed
  let version ← (ofName p.value).mapError (.unfit · (Json.octetCount p.rest))
  return (version, p.rest)

/-- A missing value, and what follows it. -/
def readNoValue (s : List Char) : Except ReadError (List Char) :=
  match Json.skipBlanks s with
  | 'n' :: rest => ((Json.constant .null "ull" 'n' rest).mapError .malformed).map (·.rest)
  | s => .error (unexpected "unit" s)

/-- The end of an object with one member, and what follows it. -/
def readEnd (s : List Char) : Except ReadError (List Char) :=
  match Json.skipBlanks s with
  | [] => .error (.malformed (.at [] .endInObject))
  | '\x7d' :: rest => .ok rest
  | rest => .error (.malformed (.within rest 0 .expectedValue))

/-- A name as the only member of an object, after the opening brace, and what follows it. -/
def readMember (s : List Char) : Except ReadError (Version × List Char) :=
  match Json.skipBlanks s with
  | '"' :: rest => do
    let (version, rest) ← readName rest
    let colon ← (Json.colon rest).mapError .malformed
    return (version, ← readEnd (← readNoValue colon.rest))
  | [] => .error (.malformed (.at [] .endInObject))
  | '\x7d' :: rest => .error (.malformed (.at ('\x7d' :: rest) .expectedValue))
  | rest => .error (.malformed (.at rest .keyMustBeString))

/-- A name, alone or as the only member of an object, and what follows it. -/
def readVersion (s : List Char) : Except ReadError (Version × List Char) :=
  match Json.skipBlanks s with
  | [] => .error (.malformed (.at [] .endInValue))
  | '"' :: rest => readName rest
  | '\x7b' :: rest => readMember rest
  | rest => .error (.malformed (.at rest .expectedValue))

/-- The version that a text stands for. -/
def ofText (text : List Char) : Except ReadError Version := do
  let (version, rest) ← readVersion text
  (Json.finish rest).mapError .malformed
  return version

end Version
end LossProbe
