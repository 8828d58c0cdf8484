import LossProbe.Command
import LossProbe.Simulation.MonitorRun

/-! # A command from start to end

A whole command on a simulated network, with what it did, how it ended and what became of the
devices. -/

namespace LossProbe

namespace Simulation

/-- A command that is over. -/
structure CommandRun where
  result : Except CommandError Unit
  trace : Trace
  registry : Registry
  network : Network

namespace CommandRun

/-- The registry of a run that has one. -/
def registryOf (m : Monitor) (t : Trace) : Registry :=
  match m.stage with
  | .discovering w => w.registry
  | .discovered r | .opening r => r
  | .probing p | .closing _ p => p.registry
  | .done _ => (t.reports.getLast?.map Prod.snd).getD {}

/-- Look for devices and nothing else. -/
def discover (network : Network) (c : DiscoveryConfig) (timeline : Timeline) : CommandRun :=
  let host := network.host
  let sent := host.send c.target (Utf8.encode c.message).length
  let (m, trace) := Monitor.start { discovery := c } false (host.openSocket 0) sent
  let r := MonitorRun.collect ⟨m, network, [trace]⟩ timeline
  ⟨Command.result r.state, r.trace, registryOf r.state r.trace, r.network⟩

/-- Look for devices and probe them. -/
def monitor (network : Network) (o : Monitor.Options) (timeline : Timeline)
    (interrupt : Option (IpAddr × Nat)) : CommandRun :=
  let r := MonitorRun.run network o timeline interrupt
  ⟨Command.result r.state, r.trace, registryOf r.state r.trace, r.network⟩

def run (network : Network) (c : Command) (timeline : Timeline)
    (interrupt : Option (IpAddr × Nat)) : CommandRun :=
  match c with
  | .discover d => discover network d timeline
  | .monitor o _ => monitor network o timeline interrupt

end CommandRun
end Simulation

end LossProbe
