import LossProbe.Network.Host
import LossProbe.Network.Peer
import LossProbe.Probe.Worker

/-! # One worker and its device

A worker that runs alone on a host, against a peer that follows a script. The run may be cancelled
beforehand, or at the moment a certain probe arrives. -/

namespace LossProbe.Simulation

open Probe

structure Lone where
  host : Host
  peer : Peer
  cancelled : Bool := false
  /-- The number of the probe whose arrival cancels the run. -/
  cancelAt : Option Nat := none

namespace Lone

def send (l : Lone) (t : Target) : Except IoError Unit × Lone :=
  match l.host.send t.dest t.version.probePayload.length with
  | .error cause => (.error cause, l)
  | .ok () =>
    let peer := l.peer.accept
    (.ok (), { l with peer, cancelled := l.cancelled || l.cancelAt = some peer.arrived })

def receive (l : Lone) : Reception × Lone :=
  let (reception, peer) := l.peer.take
  (reception, { l with peer })

def surroundings : Surroundings Lone where
  isCancelled := Lone.cancelled
  send := Lone.send
  receive := Lone.receive

/-- Several probes one after the other, whether or not the run is cancelled or the budget spent.
A fault ends them. -/
def probes (c : ProbeConfig) (t : Target) (s : Stats) (l : Lone) : Nat → List (Probe.Cycle Lone)
  | 0 => []
  | count + 1 =>
    let cycle := probeOnce surroundings c t s l
    match cycle.outcome with
    | .faulted _ => [cycle]
    | _ => cycle :: probes c t cycle.stats cycle.after count

end Lone
end LossProbe.Simulation
