import LossProbe.Binary64

/-! # JSON values

A number without fraction and exponent is an integer, as long as it fits into 64 bits; every
other number is a double. Members keep their order and their repetitions. -/

namespace LossProbe

inductive Json.Number where
  | integer (n : Int)
  | float (x : Binary64)
deriving DecidableEq, Repr

inductive Json where
  | null
  | bool (b : Bool)
  | number (n : Json.Number)
  | string (s : String)
  | array (items : List Json)
  | object (members : List (String × Json))
deriving Repr

namespace Json

instance : Inhabited Json := ⟨null⟩

/-- The value of a name: where it is repeated, the last one counts. -/
def member? (name : String) (members : List (String × Json)) : Option Json :=
  (members.reverse.find? fun m => m.1 = name).map Prod.snd

/-- The value of a name in an object. -/
def get? (name : String) : Json → Option Json
  | object members => member? name members
  | _ => none

/-- An integer that fits into 64 bits with a sign. -/
def int64? : Json → Option Int
  | number (.integer n) =>
    if -0x8000000000000000 ≤ n ∧ n < 0x8000000000000000 then some n else none
  | _ => none

/-- A natural number. -/
def nat (n : Nat) : Json := number (.integer n)

end Json
end LossProbe
