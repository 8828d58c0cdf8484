/-! # UTF-8

Reading octets as text. `decode` refuses octets that are not well formed and says where;
`decodeLossy` puts a replacement character in the place of each stretch it cannot read. Both
walk the octets once, with the character they are inside as their only state. -/

namespace LossProbe.Utf8

/-- Where reading stopped: `index` octets are well formed, and the `length` octets after them
begin no character. Without a length the octets end inside a character. -/
structure DecodeError where
  index : Nat
  length : Option Nat
deriving DecidableEq, Repr

namespace DecodeError

def message (e : DecodeError) : String :=
  match e.length with
  | some n => s!"invalid utf-8 sequence of {n} bytes from index {e.index}"
  | none => s!"incomplete utf-8 byte sequence from index {e.index}"

end DecodeError

/-- A character of which the first octets were read. -/
structure Pending where
  /-- The bits of the code point read so far. -/
  code : Nat
  /-- The range of the next octet. It is narrower after some first octets, which keeps out
  overlong forms, surrogates and code points that are too great. -/
  low : UInt8
  high : UInt8
  /-- How many octets are still to come. -/
  missing : Nat
  /-- How many octets were read. -/
  length : Nat
deriving DecidableEq, Repr

/-- What an octet begins: a whole character, the first part of one, or nothing. -/
inductive Start where
  | whole (c : Char)
  | part (p : Pending)
  | nothing

def start (b : UInt8) : Start :=
  let part (mask : Nat) (low high : UInt8) (missing : Nat) : Start :=
    .part ⟨b.toNat % mask, low, high, missing, 1⟩
  if b < 0x80 then .whole (Char.ofNat b.toNat)
  else if b < 0xc2 then .nothing
  else if b < 0xe0 then part 0x20 0x80 0xbf 1
  else if b = 0xe0 then part 0x10 0xa0 0xbf 2
  else if b = 0xed then part 0x10 0x80 0x9f 2
  else if b < 0xf0 then part 0x10 0x80 0xbf 2
  else if b = 0xf0 then part 0x08 0x90 0xbf 3
  else if b < 0xf4 then part 0x08 0x80 0xbf 3
  else if b = 0xf4 then part 0x08 0x80 0x8f 3
  else .nothing

namespace Pending

/-- Whether an octet goes on with the character. -/
def accepts (p : Pending) (b : UInt8) : Bool := p.low ≤ b && b ≤ p.high

/-- Take one more octet. -/
def push (p : Pending) (b : UInt8) : Pending :=
  ⟨p.code * 0x40 + b.toNat % 0x40, 0x80, 0xbf, p.missing - 1, p.length + 1⟩

end Pending

/-- Decode from octet `index` on, inside the character `pending`. -/
def decodeFrom (index : Nat) (pending : Option Pending) :
    List UInt8 → Except DecodeError (List Char)
  | [] =>
    match pending with
    | none => .ok []
    | some _ => .error ⟨index, none⟩
  | b :: bs =>
    match pending with
    | none =>
      match start b with
      | .whole c => (decodeFrom (index + 1) none bs).map (c :: ·)
      | .part p => decodeFrom index (some p) bs
      | .nothing => .error ⟨index, some 1⟩
    | some p =>
      if p.accepts b then
        if p.missing ≤ 1 then
          (decodeFrom (index + (p.push b).length) none bs).map (Char.ofNat (p.push b).code :: ·)
        else decodeFrom index (some (p.push b)) bs
      else .error ⟨index, some p.length⟩

/-- The characters that well-formed octets stand for. -/
def decode (bs : List UInt8) : Except DecodeError (List Char) := decodeFrom 0 none bs

/-- Stands for octets that cannot be read. -/
def replacement : Char := '\ufffd'

/-- Decode without refusing anything, inside the character `pending`. -/
def decodeLossyFrom (pending : Option Pending) : List UInt8 → List Char
  | [] => if pending.isSome then [replacement] else []
  | b :: bs =>
    let begin : List Char :=
      match start b with
      | .whole c => c :: decodeLossyFrom none bs
      | .part p => decodeLossyFrom (some p) bs
      | .nothing => replacement :: decodeLossyFrom none bs
    match pending with
    | none => begin
    | some p =>
      if p.accepts b then
        if p.missing ≤ 1 then Char.ofNat (p.push b).code :: decodeLossyFrom none bs
        else decodeLossyFrom (some (p.push b)) bs
      else replacement :: begin

/-- The characters of any octets, each unreadable stretch replaced by one character. -/
def decodeLossy (bs : List UInt8) : List Char := decodeLossyFrom none bs

/-- The octets of a text. -/
def encode (s : String) : List UInt8 := s.toUTF8.toList

end LossProbe.Utf8
