import LossProbe.Json.Parsed

/-! # String literals

Reading what stands between quotes. Characters below the blank must be written as escapes, and
characters beyond the first plane may be written as two escapes, a surrogate each. -/

namespace LossProbe.Json

/-- The value of a hexadecimal digit. -/
def hexDigit? (c : Char) : Option Nat :=
  let n := c.toNat
  if 48 ≤ n ∧ n ≤ 57 then some (n - 48)
  else if 97 ≤ n ∧ n ≤ 102 then some (n - 87)
  else if 65 ≤ n ∧ n ≤ 70 then some (n - 55)
  else none

/-- The value of four hexadecimal digits. -/
def hexValue? (a b c d : Char) : Option Nat := do
  return (((← hexDigit? a) * 16 + (← hexDigit? b)) * 16 + (← hexDigit? c)) * 16 + (← hexDigit? d)

/-- Four hexadecimal digits. They are taken as four octets before they are looked at. -/
def hexEscape : Reader Nat := fun s =>
  match s with
  | a :: b :: c :: d :: rest =>
    match hexValue? a b c d with
    | some n => .ok ⟨n, rest, by simp; omega⟩
    | none => .error (.within s 4 .invalidEscape)
  | s =>
    if octetCount s < 4 then .error (.within [] 0 .endInString)
    else .error (.within s 4 .invalidEscape)

def isLeadingSurrogate (n : Nat) : Bool := 0xd800 ≤ n && n ≤ 0xdbff

def isTrailingSurrogate (n : Nat) : Bool := 0xdc00 ≤ n && n ≤ 0xdfff

/-- The character that two surrogates stand for. -/
def surrogatePair (high low : Nat) : Char :=
  Char.ofNat (0x10000 + (high - 0xd800) * 0x400 + (low - 0xdc00))

/-- The second half of a surrogate pair, with the escape it is written as. -/
def trailingSurrogate (high : Nat) : Reader Char := fun s =>
  match s with
  | [] => .error (.at [] .endInString)
  | '\\' :: [] => .error (.at [] .endInString)
  | '\\' :: 'u' :: rest => do
    let p ← hexEscape rest
    if isTrailingSurrogate p.value then
      return ((p.map fun low => surrogatePair high low).after 'u').after '\\'
    else throw (.within p.rest 0 .loneSurrogate)
  | '\\' :: rest => .error (.at rest .unfinishedHexEscape)
  | s => .error (.at s .unfinishedHexEscape)

/-- A character given by its number, or by two surrogates. -/
def unicodeEscape : Reader Char := fun s => do
  let p ← hexEscape s
  if isTrailingSurrogate p.value then throw (.within p.rest 0 .loneSurrogate)
  else if isLeadingSurrogate p.value then
    let q ← trailingSurrogate p.value p.rest
    return q.inside p.shorter
  else return p.map Char.ofNat

/-- What an escape of one letter stands for. -/
def simpleEscape? : Char → Option Char
  | '"' => some '"'
  | '\\' => some '\\'
  | '/' => some '/'
  | 'b' => some '\x08'
  | 'f' => some '\x0c'
  | 'n' => some '\n'
  | 'r' => some '\r'
  | 't' => some '\t'
  | _ => none

/-- The character an escape stands for, after its backslash. -/
def escape : Reader Char := fun s =>
  match s with
  | [] => .error (.at [] .endInString)
  | 'u' :: rest => (unicodeEscape rest).map (·.after 'u')
  | c :: rest =>
    match simpleEscape? c with
    | some e => .ok (.ofChar c rest e)
    | none => .error (.at (c :: rest) .invalidEscape)

/-- The characters up to the closing quote. -/
def stringTail (s : List Char) : Except Failure (Parsed s (List Char)) :=
  match s with
  | [] => .error (.at [] .endInString)
  | c :: rest =>
    if c = '"' then .ok (.ofChar c rest [])
    else if c = '\\' then
      match escape rest with
      | .error e => .error e
      | .ok p =>
        let first := p.after c
        match stringTail first.rest with
        | .error e => .error e
        | .ok more => .ok ((more.map (first.value :: ·)).inside first.shorter)
    else if c.toNat < 0x20 then .error (.at (c :: rest) .controlCharacter)
    else
      match stringTail rest with
      | .error e => .error e
      | .ok more => .ok ((more.map (c :: ·)).after c)
termination_by s.length
decreasing_by
  · exact first.shorter
  · exact Nat.lt_succ_self _

/-- The text up to the closing quote. -/
def text : Reader String := fun s => (stringTail s).map (·.map String.ofList)

end LossProbe.Json
