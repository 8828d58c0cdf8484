import LossProbe.Simulation.Rounds

/-! # A pool from start to end

The owner of a pool waits for its workers and then closes it. The wait may be cut short: the run
can be cancelled before the pool is created, the pool can be closed before any worker begins, or
either can happen at the first quiet moment after a certain probe arrived. -/

namespace LossProbe.Simulation

open Probe

/-- What happens to a pool besides waiting for it. -/
inductive Intervention where
  | none
  /-- The run is cancelled before the pool is created. -/
  | cancelledBefore
  /-- The pool is closed before any worker begins. -/
  | closeAtOnce
  /-- At the first quiet moment after a device received so many probes, the run is cancelled, or
  the pool is closed. -/
  | afterProbe (ip : IpAddr) (count : Nat) (cancelOnly : Bool)

/-- The pool at the moments that are looked at. -/
structure PoolRun where
  started : Pool
  beforeClosing : Pool
  final : Running Pool

namespace PoolRun

def owner : Owner Pool := ⟨some, Pool.turn⟩

/-- The wait: rounds until all workers are collected or the intervention closes the pool. -/
def wait (intervention : Intervention) : Nat → Running Pool → Running Pool
  | 0, r => r
  | fuel + 1, r =>
    let r := r.quiesce owner
    let r := r.set r.state.poll
    if r.state.stage = .waited then r
    else
      match intervention with
      | .afterProbe ip count cancelOnly =>
        if r.network.arrived ip < count then wait intervention fuel (r.timeOut owner)
        else if cancelOnly then
          wait .none fuel ({ r with state := { r.state with cancelled := true } }.timeOut owner)
        else r
      | _ => wait intervention fuel (r.timeOut owner)

/-- Close the pool, with so much time for the workers that still wait. Without any time they do
not take another turn. -/
def close (timeoutMs : UInt64) (r : Running Pool) : Running Pool :=
  let r := { r with state := r.state.close }
  let r := if timeoutMs = 0 then r else r.quiesce owner
  let r := r.set r.state.poll
  if r.state.stage = .closed then r
  else if timeoutMs = 0 || timeoutMs < r.state.config.receiveTimeoutMs then r.set r.state.deadline
  else
    let r := (r.timeOut owner).quiesce owner
    r.set r.state.poll

/-- The whole life of a pool. -/
def run (network : Network) (c : ProbeConfig) (registry : Registry) (closeTimeoutMs : UInt64)
    (intervention : Intervention) : Except BindError PoolRun := do
  let cancelled := match intervention with
    | .cancelledBefore => true
    | _ => false
  let (p, trace) ← Pool.spawn c registry cancelled fun i => network.host.openSocket i
  let r : Running Pool := ⟨p, network, [trace]⟩
  let waited := match intervention with
    | .closeAtOnce => r
    | _ => wait intervention (Running.roundLimit p) r
  return ⟨p, waited.state, close closeTimeoutMs waited⟩

end PoolRun
end LossProbe.Simulation
