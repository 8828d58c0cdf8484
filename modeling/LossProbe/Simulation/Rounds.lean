import LossProbe.Network.Host
import LossProbe.Network.Peer
import LossProbe.Probe.Pool

/-! # Workers in rounds

A pool on a host, against peers that follow scripts. An answer takes no time, so a worker that has
answers runs on until it lacks one. When all running workers wait in vain, the network is quiet;
only then does time pass, and all of them time out together. -/

namespace LossProbe.Simulation

open Probe

/-- The host and the devices around a run. -/
structure Network where
  host : Host
  peers : List Peer

namespace Network

def peer? (n : Network) (ip : IpAddr) : Option Peer := n.peers.find? fun p => p.ip = ip

def setPeer (n : Network) (peer : Peer) : Network :=
  { n with peers := n.peers.map fun p => if p.ip = peer.ip then peer else p }

/-- A probe is sent. -/
def send (n : Network) (t : Target) : Except IoError Unit × Network :=
  match n.host.send t.dest t.version.probePayload.length with
  | .error cause => (.error cause, n)
  | .ok () =>
    match n.peer? t.ip with
    | some peer => (.ok (), n.setPeer peer.accept)
    | none => (.ok (), n)

/-- Take an answer, if one is there. -/
def answer? (n : Network) (ip : IpAddr) : Option Network := do
  let peer ← n.peer? ip
  if 0 < peer.queued then some (n.setPeer peer.take.2) else none

/-- How many probes a device received. -/
def arrived (n : Network) (ip : IpAddr) : Nat := ((n.peer? ip).map Peer.arrived).getD 0

/-- The turn that a worker can take without time passing: it sends, takes an answer, or reports. -/
def turn? (n : Network) (p : Pool) (w : Worker) : Option (Moment × Network) :=
  match w.phase with
  | .created | .ready =>
    if p.cancelled then some ({}, n)
    else
      let (sent, n) := n.send w.target
      some ({ sent }, n)
  | .awaiting => (n.answer? w.target.ip).map fun n => ({ received := .datagram }, n)
  | .lost => some ({}, n)
  | _ => none

end Network

/-- A run under way: its state, the network around it, and what it has done, the latest first. -/
structure Running (σ : Type) where
  state : σ
  network : Network
  past : List Trace := []

/-- How the workers of a run are moved: `pool?` is the pool it has, and `turn` gives a worker its
turn. -/
structure Owner (σ : Type) where
  pool? : σ → Option Pool
  turn : σ → IpAddr → Moment → σ × Trace

namespace Running

variable {σ : Type}

/-- What the run has done, in order. -/
def trace (r : Running σ) : Trace := r.past.reverse.flatten

/-- Put a new state, and what led to it. -/
def set (r : Running σ) (next : σ × Trace) : Running σ :=
  { r with state := next.1, past := next.2 :: r.past }

/-- What a step did comes behind what was done before. -/
theorem trace_set (r : Running σ) (next : σ × Trace) : (r.set next).trace = r.trace ++ next.2 := by
  simp [trace, set]

/-- Let one worker run on until it waits in vain or ends, for at most `fuel` turns. -/
def advance (owner : Owner σ) (ip : IpAddr) : Nat → Running σ → Running σ
  | 0, r => r
  | fuel + 1, r =>
    let next? : Option (Moment × Network) := do
      let p ← owner.pool? r.state
      let w ← p.workers.find? fun w => w.target.ip = ip
      r.network.turn? p w
    match next? with
    | none => r
    | some (moment, network) =>
      advance owner ip fuel ({ r with network }.set (owner.turn r.state ip moment))

/-- How many turns a worker can take at most: three for each probe. -/
def turnLimit (p : Pool) (ip : IpAddr) : Nat :=
  3 * (p.config.maxProbes.toNat - (((p.registry.get? ip).map (·.stats.sent.toNat)).getD 0)) + 3

/-- Let every worker run on until the network is quiet. -/
def quiesce (owner : Owner σ) (r : Running σ) : Running σ :=
  match owner.pool? r.state with
  | none => r
  | some p =>
    p.workers.foldl (fun r w => advance owner w.target.ip (turnLimit p w.target.ip) r) r

/-- Time passes: every worker that waits times out, and reports its loss at once. -/
def timeOut (owner : Owner σ) (r : Running σ) : Running σ :=
  match owner.pool? r.state with
  | none => r
  | some p =>
    (p.workers.filter fun w => w.phase = .awaiting).foldl
      (fun r w =>
        let r := r.set (owner.turn r.state w.target.ip {})
        r.set (owner.turn r.state w.target.ip {})) r

/-- How many rounds there can be at most: each ends a wait of some worker. -/
def roundLimit (p : Pool) : Nat := p.workers.foldl (fun n w => n + turnLimit p w.target.ip) 2

end Running
end LossProbe.Simulation
