import LossProbe.Decimal.Basic

/-! # Internet addresses

The two kinds of address, their order and their text. The text is the canonical one: lower case,
no leading zeros, and the first of the longest runs of at least two zero groups written `::`. -/

namespace LossProbe

/-- An internet address. -/
inductive IpAddr where
  | v4 (a b c d : UInt8)
  | v6 (groups : Vector UInt16 8)
deriving DecidableEq, Repr

namespace IpAddr

def isV6 : IpAddr → Bool
  | .v4 .. => false
  | .v6 _ => true

/-- The address read as one number. -/
def toNat : IpAddr → Nat
  | .v4 a b c d => [a, b, c, d].foldl (fun n o => n * 256 + o.toNat) 0
  | .v6 groups => groups.toList.foldl (fun n g => n * 65536 + g.toNat) 0

/-- The four-octet addresses come before the others, and each kind is in numeric order. -/
def le (x y : IpAddr) : Bool :=
  if x.isV6 = y.isV6 then x.toNat ≤ y.toNat else y.isV6

/-- Four octets with dots between them. -/
def dotted (a b c d : UInt8) : List Char :=
  ['.'].intercalate ([a, b, c, d].map fun o => Decimal.digits o.toNat)

/-- A group in lower-case hexadecimal. -/
def groupDigits (g : UInt16) : List Char := Nat.toDigits 16 g.toNat

/-- Groups with colons between them. -/
def joinGroups (gs : List UInt16) : List Char := [':'].intercalate (gs.map groupDigits)

/-- Whether the `length` groups from `start` on are there and all zero. -/
def isZeroRun (gs : List UInt16) (start length : Nat) : Bool :=
  start + length ≤ gs.length && ((gs.drop start).take length).all (· == 0)

/-- The start and length of the first of the longest runs of zero groups. -/
def longestZeroRun? (gs : List UInt16) : Option (Nat × Nat) :=
  [8, 7, 6, 5, 4, 3, 2].findSome? fun length =>
    (List.range 8).findSome? fun start =>
      if isZeroRun gs start length then some (start, length) else none

/-- The text of eight groups. An address that stands for a four-octet one keeps the dots. -/
def groupsText : List UInt16 → List Char
  | [0, 0, 0, 0, 0, 0xffff, hi, lo] =>
    "::ffff:".toList ++
      dotted (hi.toNat / 256).toUInt8 hi.toNat.toUInt8 (lo.toNat / 256).toUInt8 lo.toNat.toUInt8
  | gs =>
    match longestZeroRun? gs with
    | some (start, length) =>
      joinGroups (gs.take start) ++ ':' :: ':' :: joinGroups (gs.drop (start + length))
    | none => joinGroups gs

/-- The characters of an address. -/
def chars : IpAddr → List Char
  | .v4 a b c d => dotted a b c d
  | .v6 groups => groupsText groups.toList

instance : ToString IpAddr := ⟨fun a => String.ofList a.chars⟩

end IpAddr
end LossProbe
