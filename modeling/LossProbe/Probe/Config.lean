import LossProbe.Version

/-! # How devices are probed -/

namespace LossProbe

structure ProbeConfig where
  /-- How long to wait for each reply, in milliseconds. -/
  receiveTimeoutMs : UInt64 := 200
  /-- A worker stops once its device was sent this many probes. -/
  maxProbes : UInt64 := 100000
  /-- How many losses in a row call for a warning. -/
  lossThreshold : UInt64 := 2
  v2Port : UInt16 := Version.v2.probePort
  v3Port : UInt16 := Version.v3.probePort
deriving DecidableEq, Repr

namespace ProbeConfig

/-- Where devices of a version are probed. -/
def portFor (c : ProbeConfig) : Version → UInt16
  | .v2 => c.v2Port
  | .v3 => c.v3Port

/-- The length of a loss streak that calls for a warning: at least one. -/
def warningStreak (c : ProbeConfig) : UInt64 := max 1 c.lossThreshold

end ProbeConfig

/-- Why a worker left its loop. -/
inductive StopReason where
  | cancelled
  | budgetExhausted
deriving DecidableEq, Repr

def StopReason.name : StopReason → String
  | cancelled => "Cancelled"
  | budgetExhausted => "BudgetExhausted"

/-- How long workers may take to stop unless told otherwise, in milliseconds. -/
def defaultShutdownTimeoutMs : UInt64 := 1000

end LossProbe
