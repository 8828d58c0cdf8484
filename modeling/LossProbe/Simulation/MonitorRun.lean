import LossProbe.Monitor
import LossProbe.Simulation.Rounds

/-! # A monitoring run from start to end

Datagrams and an interrupt come at given times after the request. Once the devices are probed, an
interrupt may come at the first quiet moment after a certain probe arrived. -/

namespace LossProbe.Simulation

/-- Something that happens while replies are collected. -/
inductive WindowEvent where
  | datagram (source : IpAddr) (octets : List UInt8)
  | interrupt

/-- Events with the times they come at, in milliseconds. -/
abbrev Timeline := List (Nat × WindowEvent)

namespace Timeline

/-- The events that come before the window closes, in order of time. -/
def within (t : Timeline) (timeoutMs : UInt64) : List WindowEvent :=
  ((t.mergeSort fun a b => a.1 ≤ b.1).filter fun e => e.1 < timeoutMs.toNat).map Prod.snd

/-- The events as discovery sees them: an interrupt ends the window, and else time does. -/
def discoveryEvents (t : Timeline) (timeoutMs : UInt64) : List Discovery.Event :=
  (t.within timeoutMs).map (fun
    | .datagram source octets => .datagram source octets .epoch
    | .interrupt => .cancelled) ++ [.timeUp]

end Timeline

/-- Discovery alone, with a registry to begin with, on a run that may be cancelled already. -/
def discover (host : Host) (c : DiscoveryConfig) (registry : Registry) (cancelled : Bool)
    (timeline : Timeline) : Discovery.Outcome :=
  Discovery.run c registry (host.openSocket 0) (host.send c.target (Utf8.encode c.message).length)
    (if cancelled then [.cancelled] else timeline.discoveryEvents c.timeoutMs)

/-- Whether an event on the way cancels discovery. -/
def interruptsDiscovery (c : DiscoveryConfig) (timeline : Timeline) : Bool :=
  (timeline.within c.timeoutMs).any fun
    | .interrupt => true
    | .datagram .. => false

namespace MonitorRun

def owner : Owner Monitor where
  pool? := Monitor.pool?
  turn m ip moment := m.step (.turn ip moment)

/-- Go on by one event. -/
def step (r : Running Monitor) (e : Monitor.Event) : Running Monitor := r.set (r.state.step e)

/-- Collect replies until the window closes. -/
def collect (r : Running Monitor) (timeline : Timeline) : Running Monitor :=
  let timeoutMs := r.state.options.discovery.timeoutMs
  let r := (timeline.within timeoutMs).foldl (fun r e =>
    match e with
    | .datagram source octets => step r (.discovery (.datagram source octets .epoch))
    | .interrupt => step (step r .interrupt) (.discovery .cancelled)) r
  step r (.discovery .timeUp)

/-- Rounds until the run begins to close. -/
def probe (interrupt : Option (IpAddr × Nat)) : Nat → Running Monitor → Running Monitor
  | 0, r => r
  | fuel + 1, r =>
    let r := step (r.quiesce owner) (.wake .cancellation)
    match r.state.stage with
    | .probing _ =>
      match interrupt with
      | some (ip, count) =>
        if r.network.arrived ip < count then probe interrupt fuel (r.timeOut owner)
        else probe none fuel (step r .interrupt)
      | none => probe none fuel (r.timeOut owner)
    | _ => r

/-- Close the pool. Without any time to stop, workers do not take another turn. -/
def close (r : Running Monitor) : Running Monitor :=
  let timeoutMs := r.state.options.shutdownTimeoutMs
  let r := step (if timeoutMs = 0 then r else r.quiesce owner) (.wake .workers)
  match r.state.stage with
  | .closing _ p =>
    if timeoutMs = 0 || timeoutMs < p.config.receiveTimeoutMs then step r .deadline
    else step ((r.timeOut owner).quiesce owner) (.wake .workers)
  | _ => r

/-- A whole run. -/
def run (network : Network) (o : Monitor.Options) (timeline : Timeline)
    (interrupt : Option (IpAddr × Nat)) : Running Monitor :=
  let host := network.host
  let sent := host.send o.discovery.target (Utf8.encode o.discovery.message).length
  let (m, trace) := Monitor.start o false (host.openSocket 0) sent
  let r := collect ⟨m, network, [trace]⟩ timeline
  let r := step (step r .proceed) (.sockets fun i => host.openSocket i)
  match r.state.pool? with
  | some p => close (probe interrupt (Running.roundLimit p) r)
  | none => r

end MonitorRun
end LossProbe.Simulation
