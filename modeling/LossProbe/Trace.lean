import LossProbe.Log
import LossProbe.Registry

/-! # What a run does

A `Trace` lists what can be seen of a run from outside, in order: the datagrams it sends, what it
logs, and the reports it makes. A report carries the registry as it was at that moment. -/

namespace LossProbe

/-- A datagram handed to a socket, and what the system made of it. -/
structure Sending where
  dest : Endpoint
  payload : List UInt8
  result : Except IoError Unit

inductive Trace.Entry where
  | sending (s : Sending)
  | log (e : Log.Event)
  | report (heading : Heading) (registry : Registry)

abbrev Trace := List Trace.Entry

namespace Trace

/-- The datagrams sent, those that failed to go out included. -/
def sendings (t : Trace) : List Sending :=
  t.filterMap fun
    | .sending s => some s
    | _ => none

def logs (t : Trace) : List Log.Event :=
  t.filterMap fun
    | .log e => some e
    | _ => none

def reports (t : Trace) : List (Heading × Registry) :=
  t.filterMap fun
    | .report h r => some (h, r)
    | _ => none

end Trace
end LossProbe
