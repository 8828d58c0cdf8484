import LossProbe.Error
import LossProbe.Machine
import LossProbe.Probe.Worker

/-! # All workers together

A `Pool` probes every device of a registry, one worker each. The workers take their turns in any
order, and each turn touches the counters of its own device alone. Whoever owns the pool waits for
it, which collects the workers that have ended; when the last one is collected, the run counts as
cancelled. Closing the pool cancels the run and goes on collecting, up to a deadline; workers that
are not collected by then are aborted. -/

namespace LossProbe

open Probe

namespace Pool

/-- What the owner of a pool is doing. -/
inductive Stage where
  /-- Waiting for the workers to end by themselves. -/
  | waiting
  /-- The wait is over. -/
  | waited
  /-- Waiting for the workers to stop, up to the deadline. -/
  | closing
  | closed
deriving DecidableEq, Repr

/-- What can happen to a pool. -/
inductive Event where
  /-- The worker of a device takes its turn. -/
  | turn (ip : IpAddr) (m : Moment)
  /-- The run is cancelled from outside. -/
  | cancel
  /-- The owner looks which workers have ended. -/
  | poll
  /-- The owner closes the pool; a wait that is not over is given up. -/
  | close
  /-- The time for closing is over. -/
  | deadline

end Pool

structure Pool where
  config : ProbeConfig
  registry : Registry
  /-- Whether the run was cancelled. -/
  cancelled : Bool
  /-- One worker for each device, in the order of the registry. -/
  workers : List Worker
  /-- Workers that have ended and are not collected yet, in the order in which they ended. -/
  ended : List (IpAddr × End) := []
  /-- Workers that were collected, in that order. -/
  joined : List (IpAddr × End) := []
  stage : Pool.Stage := .waiting
  /-- How many workers were not collected before the deadline. -/
  aborted : Nat := 0

namespace Pool

/-- The first device for which no socket could be opened. -/
def bindError? (registry : Registry) (socket : Nat → Except IoError Unit) : Option BindError :=
  registry.toList.zipIdx.findSome? fun (d, i) =>
    match socket i with
    | .ok () => none
    | .error cause => some ⟨d.ip, cause⟩

/-- Create a pool, where `socket i` is what opening the socket of the `i`-th device came to. All
sockets are opened before any worker begins, so that a failure leaves nothing behind. -/
def spawn (c : ProbeConfig) (registry : Registry) (cancelled : Bool)
    (socket : Nat → Except IoError Unit) : Except BindError (Pool × Trace) :=
  match bindError? registry socket with
  | some e => .error e
  | none =>
    let workers := registry.toList.map fun d => { target := .ofDevice c d : Worker }
    .ok (⟨c, registry, cancelled, workers, [], [], .waiting, 0⟩,
      [.log (.poolStarted workers.length)])

/-- How many workers were not collected yet. -/
def size (p : Pool) : Nat := p.workers.length - p.joined.length

def isEmpty (p : Pool) : Bool := p.size = 0

/-- The workers that were collected after they stopped, with their reasons. -/
def stopped (p : Pool) : List (IpAddr × StopReason) :=
  p.joined.filterMap fun
    | (ip, .stopped reason) => some (ip, reason)
    | (_, .faulted _) => none

/-- How a worker ended, if it has. -/
def endOf? : Phase → Option End
  | .stopped reason => some (.stopped reason)
  | .faulted fault => some (.faulted fault)
  | _ => none

/-- What a notice of a worker shows outside, where the registry holds the counters after it. -/
def entry (ip : IpAddr) (registry : Registry) : Notice → Trace.Entry
  | .sending s => .sending s
  | .log e => .log e
  | .loss _ => .report (.lossEvent ip) registry

/-- Put a worker into a new phase. -/
def setPhase (ws : List Worker) (ip : IpAddr) (phase : Phase) : List Worker :=
  ws.map fun w => if w.target.ip = ip then { w with phase } else w

/-- The running worker of a device, and its counters. -/
def running? (p : Pool) (ip : IpAddr) : Option (Worker × Stats) := do
  let w ← p.workers.find? fun w => w.target.ip = ip
  let d ← p.registry.get? ip
  if w.phase.isRunning then some (w, d.stats) else none

/-- One turn of a worker. -/
def turn (p : Pool) (ip : IpAddr) (m : Moment) : Pool × Trace :=
  match p.running? ip with
  | none => (p, [])
  | some (w, s) =>
    let step := w.step p.config p.cancelled s m
    -- What the worker shows is written down with the counters it leaves behind.
    let registry := p.registry.updateStats ip fun _ => step.stats
    let ended :=
      match endOf? step.outcome with
      | some e => p.ended ++ [(ip, e)]
      | none => p.ended
    ({ p with registry, ended, workers := setPhase p.workers ip step.outcome },
      step.notices.map (entry ip registry))

/-- The number of a worker, for the log. -/
def taskNumber (p : Pool) (ip : IpAddr) : Nat := p.workers.findIdx (fun w => w.target.ip = ip) + 1

def joinEntry (p : Pool) : IpAddr × End → Trace.Entry
  | (ip, .stopped reason) => .log (.workerJoined ip reason)
  | (ip, .faulted fault) => .log (.workerFailed (p.taskNumber ip) fault)

/-- Collect the workers that have ended. -/
def collect (p : Pool) : Pool × Trace :=
  ({ p with ended := [], joined := p.joined ++ p.ended }, p.ended.map p.joinEntry)

/-- The last entry of a pool. -/
def closingEntry (p : Pool) : Trace.Entry := .log (.poolShutDown p.stopped.length p.aborted)

/-- Collect what has ended; with the last worker a wait is over, and closing is done. -/
def poll (p : Pool) : Pool × Trace :=
  match p.stage with
  | .waiting =>
    let (p, trace) := p.collect
    if p.isEmpty then ({ p with stage := .waited, cancelled := true }, trace) else (p, trace)
  | .closing =>
    let (p, trace) := p.collect
    if p.isEmpty then ({ p with stage := .closed }, trace ++ [p.closingEntry]) else (p, trace)
  | .waited | .closed => (p, [])

/-- Cancel the run and begin to close. -/
def close (p : Pool) : Pool :=
  match p.stage with
  | .waiting | .waited => { p with stage := .closing, cancelled := true }
  | .closing | .closed => p

/-- What a worker that is aborted still does. It is ended where it waits: for its first turn, for
its probe to be sent or for a reply. A worker that has counted a loss does not wait, so it reports
the loss, looks whether the run was cancelled and logs that it stops, as it does in any turn. -/
def owed (p : Pool) (w : Worker) : Trace :=
  match w.phase, p.registry.get? w.target.ip with
  | .lost, some d =>
    (Worker.finish p.cancelled w.target d.stats (lossNotices p.config w.target d.stats)).notices.map
      (entry w.target.ip p.registry)
  | _, _ => []

/-- Abort every worker that still runs. -/
def abortRunning (ws : List Worker) : List Worker :=
  ws.map fun w => if w.phase.isRunning then { w with phase := .aborted } else w

/-- Give up waiting for the workers that are not collected. -/
def deadline (p : Pool) : Pool × Trace :=
  match p.stage with
  | .closing =>
    let q := { p with
      stage := .closed, aborted := p.size, workers := abortRunning p.workers }
    (q, .log (.deadlineMissed q.aborted) :: p.workers.flatMap p.owed ++ [q.closingEntry])
  | _ => (p, [])

/-- Go on by one event. -/
def step (p : Pool) : Event → Pool × Trace
  | .turn ip m => p.turn ip m
  | .cancel => ({ p with cancelled := true }, [])
  | .poll => p.poll
  | .close => (p.close, [])
  | .deadline => p.deadline

/-- Go on by several events. -/
def run (p : Pool) (es : List Event) : Pool × Trace := Machine.run step p es

end Pool
end LossProbe
