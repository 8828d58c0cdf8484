import LossProbe.Net.IpAddr

/-! # Reading internet addresses

`IpAddr.parse?` accepts four decimal octets without leading zeros, or eight hexadecimal groups of
at most four digits, where one `::` may stand for at least one zero group and dotted octets for
the last two groups. Nothing may stand before or after the address. -/

namespace LossProbe.IpAddr

/-- The value of a digit in a base up to sixteen. -/
def digitValue? (base : Nat) (c : Char) : Option Nat :=
  let n := c.toNat
  let value? : Option Nat :=
    if 48 ≤ n ∧ n ≤ 57 then some (n - 48)
    else if 97 ≤ n ∧ n ≤ 102 then some (n - 87)
    else if 65 ≤ n ∧ n ≤ 70 then some (n - 55)
    else none
  value?.filter (· < base)

/-- The longest run of digits at the front, and what follows it. -/
def spanDigits (base : Nat) : List Char → List Nat × List Char
  | [] => ([], [])
  | c :: cs =>
    match digitValue? base c with
    | some d => (d :: (spanDigits base cs).1, (spanDigits base cs).2)
    | none => ([], c :: cs)

/-- A decimal octet: at most three digits, no leading zero, at most 255. -/
def octet? (s : List Char) : Option (UInt8 × List Char) :=
  let (ds, rest) := spanDigits 10 s
  let n := ds.foldl (fun n d => 10 * n + d) 0
  if ds = [] ∨ 3 < ds.length ∨ (ds.head? = some 0 ∧ 1 < ds.length) ∨ 255 < n then none
  else some (n.toUInt8, rest)

/-- A hexadecimal group: at most four digits. -/
def group? (s : List Char) : Option (UInt16 × List Char) :=
  let (ds, rest) := spanDigits 16 s
  if ds = [] ∨ 4 < ds.length then none
  else some ((ds.foldl (fun n d => 16 * n + d) 0).toUInt16, rest)

/-- A given character at the front. -/
def skip? (c : Char) : List Char → Option (List Char)
  | [] => none
  | d :: rest => if d = c then some rest else none

/-- Four octets with dots between them. -/
def dotted? (s : List Char) : Option ((UInt8 × UInt8 × UInt8 × UInt8) × List Char) := do
  let (a, s) ← octet? s
  let (b, s) ← octet? (← skip? '.' s)
  let (c, s) ← octet? (← skip? '.' s)
  let (d, s) ← octet? (← skip? '.' s)
  return ((a, b, c, d), s)

/-- Two octets as one group. -/
def pairGroup (hi lo : UInt8) : UInt16 := (hi.toNat * 256 + lo.toNat).toUInt16

/-- Groups read at the front of a text. -/
structure GroupRun where
  groups : List UInt16
  /-- Whether the last two groups were written as dotted octets. -/
  endsDotted : Bool
  rest : List Char

/-- As many groups as there are, at most `limit`. Every group but the first of a run follows a
colon, and dotted octets are tried wherever two groups may still follow. -/
def groupRun (limit : Nat) (isFirst : Bool) (s : List Char) : GroupRun :=
  match limit with
  | 0 => ⟨[], false, s⟩
  | left + 1 =>
    let body? := if isFirst then some s else skip? ':' s
    match if 1 ≤ left then body?.bind dotted? else none with
    | some ((a, b, c, d), rest) => ⟨[pairGroup a b, pairGroup c d], true, rest⟩
    | none =>
      match body?.bind group? with
      | some (g, rest) =>
        let run := groupRun left false rest
        ⟨g :: run.groups, run.endsDotted, run.rest⟩
      | none => ⟨[], false, s⟩

/-- An address of eight groups, if there are as many. -/
def ofGroups? (gs : List UInt16) : Option IpAddr :=
  if h : gs.length = 8 then some (.v6 ⟨gs.toArray, by simpa using h⟩) else none

/-- Eight groups, or fewer with one `::`. -/
def groups? (s : List Char) : Option (List UInt16 × List Char) :=
  let front := groupRun 8 true s
  if front.groups.length = 8 then some (front.groups, front.rest)
  -- Dotted octets are the end of an address, so no gap can follow them.
  else if front.endsDotted then none
  else do
    let rest ← skip? ':' front.rest
    let rest ← skip? ':' rest
    -- The gap stands for one group at least.
    let back := groupRun (7 - front.groups.length) true rest
    let missing := 8 - front.groups.length - back.groups.length
    return (front.groups ++ List.replicate missing 0 ++ back.groups, back.rest)

/-- Read an address from the characters of a text. -/
def ofChars? (s : List Char) : Option IpAddr :=
  match dotted? s with
  | some ((a, b, c, d), []) => some (.v4 a b c d)
  | _ =>
    match groups? s with
    | some (gs, []) => ofGroups? gs
    | _ => none

/-- Read an address. -/
def parse? (s : String) : Option IpAddr := ofChars? s.toList

/-- Why a text is refused. -/
def invalidMessage : String := "invalid IP address syntax"

end LossProbe.IpAddr
