/-! # Protocol versions

Devices speak one of two versions of the probe protocol. The version fixes the port that probes
go to and the octets they carry. -/

namespace LossProbe

inductive Version where
  | v2
  | v3
deriving DecidableEq, Repr

namespace Version

/-- The version a device announces by number: `3` is the third, and every other number counts as
the second, so that a device of an unknown version is still probed. -/
def ofWire (n : Int) : Version := if n = 3 then .v3 else .v2

def name : Version → String
  | v2 => "v2"
  | v3 => "v3"

instance : ToString Version := ⟨name⟩

/-- Where probes go unless configured otherwise. -/
def probePort : Version → UInt16
  | v2 => 2335
  | v3 => 2340

/-- The octets of a probe. -/
def probePayload : Version → List UInt8
  | v2 => [0x1d]
  | v3 => [0x00, 0x00, 0x00, 0x02, 0x34, 0x83, 0x64, 0x87]

end Version
end LossProbe
