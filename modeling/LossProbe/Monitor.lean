import LossProbe.Discovery.Window
import LossProbe.Probe.Pool

/-! # Monitoring

Devices are searched for, and then all of them are probed until the user interrupts the run or
every budget is spent. The last report says which of the two it was. Nobody answering is not an
error, and neither is an interrupt. -/

namespace LossProbe

namespace Monitor

structure Options where
  discovery : DiscoveryConfig := {}
  probe : ProbeConfig := {}
  /-- How long workers may take to stop, in milliseconds. -/
  shutdownTimeoutMs : UInt64 := defaultShutdownTimeoutMs
deriving DecidableEq, Repr

inductive Stage where
  | discovering (w : Discovery.Window)
  /-- The search results were reported. -/
  | discovered (registry : Registry)
  /-- There are devices, and their sockets are to be opened. -/
  | opening (registry : Registry)
  | probing (p : Pool)
  /-- The pool is being closed; the heading of the last report is decided. -/
  | closing (heading : Heading) (p : Pool)
  | done (result : Except EngineError Unit)

/-- Which of two things the run looks at first when it is woken. -/
inductive Look where
  | cancellation
  | workers
deriving DecidableEq, Repr

/-- What can happen to a run. -/
inductive Event where
  | discovery (e : Discovery.Event)
  /-- The run goes on after discovery. -/
  | proceed
  /-- The sockets for the probes are opened. -/
  | sockets (socket : Nat → Except IoError Unit)
  | turn (ip : IpAddr) (m : Probe.Moment)
  /-- The run is woken while it waits for its workers or for an interrupt, and polls both. The poll
  is one step, with both of its looks. -/
  | wake (first : Look)
  /-- The user interrupts the run. -/
  | interrupt
  /-- The time for closing is over. -/
  | deadline

end Monitor

structure Monitor where
  options : Monitor.Options
  /-- Whether the run was cancelled before there was a pool. -/
  cancelledEarly : Bool
  stage : Monitor.Stage

namespace Monitor

def isCancelled (m : Monitor) : Bool :=
  match m.stage with
  | .probing p | .closing _ p => p.cancelled
  | _ => m.cancelledEarly

/-- Begin a run with an empty registry, where opening the socket and sending the request came to
the given results. -/
def start (o : Options) (cancelled : Bool) (socket sent : Except IoError Unit) : Monitor × Trace :=
  let failed (e : DiscoveryError) : Monitor := ⟨o, cancelled, .done (.error (.discovery e))⟩
  match socket with
  | .error cause => (failed (.socket cause), [])
  | .ok () =>
    match sent with
    | .error cause =>
      (failed (.broadcast o.discovery.target cause),
        Discovery.request o.discovery sent ++ [.report .searchResults {}])
    | .ok () =>
      (⟨o, cancelled, .discovering { registry := {} }⟩, Discovery.request o.discovery sent)

/-- Go on with discovery. A run that was cancelled takes no more replies. -/
def discover (m : Monitor) (w : Discovery.Window) (e : Discovery.Event) : Monitor × Trace :=
  match e, m.cancelledEarly with
  -- Only the run itself can be cancelled, and discovery finds it so.
  | .cancelled, false => (m, [])
  | e, cancelled =>
    let (w, trace) := w.step (if cancelled then .cancelled else e)
    if w.isOpen then ({ m with stage := .discovering w }, trace)
    else
      ({ m with stage := .discovered w.registry },
        trace ++ w.summary ++ [.report .searchResults w.registry])

/-- Decide whether there is anything to probe. -/
def proceed (m : Monitor) (registry : Registry) : Monitor × Trace :=
  if m.cancelledEarly then
    ({ m with stage := .done (.ok ()) }, [.report .cancelled registry])
  else if registry.isEmpty then ({ m with stage := .done (.ok ()) }, [])
  else ({ m with stage := .opening registry }, [])

/-- Open the sockets and start the workers. -/
def openSockets (m : Monitor) (registry : Registry) (socket : Nat → Except IoError Unit) :
    Monitor × Trace :=
  match Pool.spawn m.options.probe registry m.cancelledEarly socket with
  | .error e => ({ m with stage := .done (.error (.probe e)) }, [])
  | .ok (p, trace) =>
    ({ m with stage := .probing p },
      trace ++ [.log (.measuring (registry.list .v2).length (registry.list .v3).length)])

/-- The last report, once the pool is closed. -/
def settle (m : Monitor) (heading : Heading) (p : Pool) (trace : Trace) : Monitor × Trace :=
  if p.stage = .closed then
    ({ m with stage := .done (.ok ()) },
      trace ++ (if 0 < p.aborted then [.log (.workersAborted p.aborted)] else []) ++
        [.report heading p.registry])
  else ({ m with stage := .closing heading p }, trace)

/-- Look whether the run was cancelled and whether all workers have ended, in the given order. The
first that is so decides the last report, and the pool is closed. -/
def wakeProbing (m : Monitor) (p : Pool) (first : Look) : Monitor × Trace :=
  if first = .cancellation && p.cancelled then ({ m with stage := .closing .cancelled p.close }, [])
  else
    let (q, trace) := p.poll
    -- Workers that have all ended by now count as finished, cancelled or not.
    if q.stage = .waited then ({ m with stage := .closing .finished q.close }, trace)
    else if p.cancelled then ({ m with stage := .closing .cancelled q.close }, trace)
    else ({ m with stage := .probing q }, trace)

/-- The user interrupts the run. Only the first interrupt does anything. -/
def interrupt (m : Monitor) : Monitor × Trace :=
  if m.isCancelled then (m, [])
  else
    match m.stage with
    | .done _ => (m, [])
    | .probing p => ({ m with stage := .probing { p with cancelled := true } }, [.log .interrupted])
    | .closing h p =>
      ({ m with stage := .closing h { p with cancelled := true } }, [.log .interrupted])
    | _ => ({ m with cancelledEarly := true }, [.log .interrupted])

/-- Go on by one event. An event that does not fit the stage changes nothing. -/
def step (m : Monitor) (e : Event) : Monitor × Trace :=
  match e, m.stage with
  | .interrupt, _ => m.interrupt
  | .discovery e, .discovering w => m.discover w e
  | .proceed, .discovered registry => m.proceed registry
  | .sockets socket, .opening registry => m.openSockets registry socket
  | .turn ip moment, .probing p =>
    let (p, trace) := p.turn ip moment
    ({ m with stage := .probing p }, trace)
  | .turn ip moment, .closing h p =>
    let (p, trace) := p.turn ip moment
    ({ m with stage := .closing h p }, trace)
  | .wake first, .probing p => m.wakeProbing p first
  | .wake _, .closing h p =>
    let (p, trace) := p.poll
    m.settle h p trace
  | .deadline, .closing h p =>
    let (p, trace) := p.deadline
    m.settle h p trace
  | _, _ => (m, [])

/-- Go on by several events. -/
def run (m : Monitor) (es : List Event) : Monitor × Trace := Machine.run step m es

/-- The pool of a run that has one. -/
def pool? (m : Monitor) : Option Pool :=
  match m.stage with
  | .probing p | .closing _ p => some p
  | _ => none

/-- The result of a run that is over. -/
def result? (m : Monitor) : Option (Except EngineError Unit) :=
  match m.stage with
  | .done result => some result
  | _ => none

end Monitor
end LossProbe
