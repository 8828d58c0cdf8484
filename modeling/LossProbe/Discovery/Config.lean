import LossProbe.Net.Endpoint

/-! # How devices are searched for -/

namespace LossProbe

structure DiscoveryConfig where
  /-- Where the request is sent. -/
  broadcast : IpAddr := .v4 192 168 137 255
  port : UInt16 := 2334
  /-- How long replies are collected, in milliseconds. -/
  timeoutMs : UInt64 := 3000
  /-- The request that devices answer. -/
  message : String := "Is any fourier smart server here?"
deriving DecidableEq, Repr

def DiscoveryConfig.target (c : DiscoveryConfig) : Endpoint := ⟨c.broadcast, c.port⟩

end LossProbe
