import LossProbe.Json.Number
import LossProbe.Json.Text

/-! # Reading JSON

`parse` reads one value, with blanks around it and between its parts, and refuses anything that
follows it. Arrays and objects may be nested in each other up to a fixed depth. -/

namespace LossProbe.Json

/-- How deep arrays and objects may be nested. -/
def maxNesting : Nat := 127

/-- A given word at the front. -/
def word (s : List Char) (w : List Char) : Except Failure (Optional s Unit) :=
  match w with
  | [] => .ok (.nothing s ())
  | c :: cs =>
    match s with
    | [] => .error (.at [] .endInValue)
    | d :: rest =>
      if d = c then
        (word rest cs).map fun p => (p.after d).toOptional
      else .error (.at (d :: rest) .expectedIdent)

/-- The rest of a word that stands for a value. -/
def constant (value : Json) (tail : String) (first : Char) (rest : List Char) :
    Except Failure (Parsed (first :: rest) Json) :=
  (word rest tail.toList).map fun p => (p.after first).map fun _ => value

/-- Further items of an array, up to its closing bracket. -/
def items (item : Reader Json) (s : List Char) : Except Failure (Parsed s (List Json)) :=
  match h : skipBlanks s with
  | [] => .error (.at [] .endInList)
  | c :: rest =>
    have hs := length_lt_of_skipBlanks h
    if c = ']' then .ok ⟨[], rest, hs⟩
    else if c = ',' then
      -- A comma announces an item, so a bracket behind it has an error of its own.
      match skipBlanks rest with
      | [] => .error (.at [] .endInValue)
      | d :: more =>
        if d = ']' then .error (.at (d :: more) .trailingComma)
        else
          match Reader.afterBlanks item rest with
          | .error e => .error e
          | .ok p =>
            let first := p.inside hs
            match items item first.rest with
            | .error e => .error e
            | .ok more => .ok ((more.map (first.value :: ·)).inside first.shorter)
    else .error (.at (c :: rest) .expectedListCommaOrEnd)
termination_by s.length
decreasing_by exact first.shorter

/-- The items of an array, after its opening bracket. -/
def arrayTail (item : Reader Json) : Reader Json := fun s =>
  match h : skipBlanks s with
  | [] => .error (.at [] .endInList)
  | c :: rest =>
    if c = ']' then .ok ⟨.array [], rest, length_lt_of_skipBlanks h⟩
    else
      match Reader.afterBlanks item s with
      | .error e => .error e
      | .ok first =>
        (items item first.rest).map fun more =>
          (more.map fun values => .array (first.value :: values)).inside first.shorter

/-- A colon. -/
def colon : Reader Unit := fun s =>
  match h : skipBlanks s with
  | [] => .error (.at [] .endInObject)
  | c :: rest =>
    if c = ':' then .ok ⟨(), rest, length_lt_of_skipBlanks h⟩
    else .error (.at (c :: rest) .expectedColon)

/-- A member of an object, after the opening quote of its name. -/
def member (item : Reader Json) : Reader (String × Json) := fun s => do
  let name ← text s
  let afterColon ← colon name.rest
  let value ← Reader.afterBlanks item afterColon.rest
  return ((value.map (name.value, ·)).inside afterColon.shorter).inside name.shorter

/-- Further members of an object, up to its closing brace. -/
def members (item : Reader Json) (s : List Char) :
    Except Failure (Parsed s (List (String × Json))) :=
  match h : skipBlanks s with
  | [] => .error (.at [] .endInObject)
  | c :: rest =>
    have hs := length_lt_of_skipBlanks h
    if c = '\x7d' then .ok ⟨[], rest, hs⟩
    else if c = ',' then
      match h : skipBlanks rest with
      | [] => .error (.at [] .endInValue)
      | d :: more =>
        have hm := length_lt_of_skipBlanks h
        if d = '"' then
          match member item more with
          | .error e => .error e
          | .ok p =>
            let first := (p.inside hm).inside hs
            match members item first.rest with
            | .error e => .error e
            | .ok more => .ok ((more.map (first.value :: ·)).inside first.shorter)
        else if d = '\x7d' then .error (.at (d :: more) .trailingComma)
        else .error (.at (d :: more) .keyMustBeString)
    else .error (.at (c :: rest) .expectedObjectCommaOrEnd)
termination_by s.length
decreasing_by exact first.shorter

/-- The members of an object, after its opening brace. -/
def objectTail (item : Reader Json) : Reader Json := fun s =>
  match h : skipBlanks s with
  | [] => .error (.at [] .endInObject)
  | c :: rest =>
    have hs := length_lt_of_skipBlanks h
    if c = '\x7d' then .ok ⟨.object [], rest, hs⟩
    else if c = '"' then
      match member item rest with
      | .error e => .error e
      | .ok p =>
        let first := p.inside hs
        (members item first.rest).map fun more =>
          (more.map fun values => .object (first.value :: values)).inside first.shorter
    else .error (.at (c :: rest) .keyMustBeString)

/-- A value that begins with the given character, where `nested` reads what an array or an object
holds and is missing where they are nested too deep. -/
def valueWith (nested : Option (Reader Json)) : Reader Json := fun s =>
  match s with
  | [] => .error (.at [] .endInValue)
  | c :: rest =>
    if c = 'n' then constant .null "ull" c rest
    else if c = 't' then constant (.bool true) "rue" c rest
    else if c = 'f' then constant (.bool false) "alse" c rest
    else if c = '-' then
      (numberAfterSign true rest).map fun p => (p.map Json.number).after c
    else if (Decimal.digit? c).isSome then
      (numberAfterSign false (c :: rest)).map (·.map Json.number)
    else if c = '"' then (text rest).map fun p => (p.map Json.string).after c
    else if c = '[' then
      match nested with
      | none => .error (.at (c :: rest) .nestedTooDeep)
      | some item => (arrayTail item rest).map (·.after c)
    else if c = '\x7b' then
      match nested with
      | none => .error (.at (c :: rest) .nestedTooDeep)
      | some item => (objectTail item rest).map (·.after c)
    else .error (.at (c :: rest) .expectedValue)

/-- A value in which arrays and objects are nested at most so deep. -/
def value : Nat → Reader Json
  | 0 => valueWith none
  | depth + 1 => valueWith (some (value depth))

/-- Nothing but blanks up to the end. -/
def finish (s : List Char) : Except Failure Unit :=
  match skipBlanks s with
  | [] => .ok ()
  | c :: rest => .error (.at (c :: rest) .trailingCharacters)

/-- The value that a whole text stands for. -/
def parseChars (s : List Char) : Except Failure Json := do
  let p ← Reader.afterBlanks (value maxNesting) s
  finish p.rest
  return p.value

end LossProbe.Json
