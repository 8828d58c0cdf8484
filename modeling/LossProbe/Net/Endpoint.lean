import LossProbe.Net.IpAddr

/-! # Endpoints

An address and a port of it. The port follows a colon, so an address that is written with colons
itself stands in brackets. -/

namespace LossProbe

structure Endpoint where
  ip : IpAddr
  port : UInt16
deriving DecidableEq, Repr

namespace Endpoint

def chars (e : Endpoint) : List Char :=
  (if e.ip.isV6 then '[' :: e.ip.chars ++ [']'] else e.ip.chars) ++
    ':' :: Decimal.digits e.port.toNat

instance : ToString Endpoint := ⟨fun e => String.ofList e.chars⟩

end Endpoint
end LossProbe
