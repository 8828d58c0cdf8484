import LossProbe.Registry
import LossProbe.Trace

/-! # One probe

A cycle sends one probe, waits for a reply, and reports the loss if none came. Its parts are single
steps: the attempt to send, which counts whether or not it succeeds; the end of the wait, which
counts a reply or a loss; and the report. Nothing is sent again, and any datagram is a reply. -/

namespace LossProbe

namespace Probe

/-- A device as its worker knows it. -/
structure Target where
  ip : IpAddr
  version : Version
  port : UInt16
deriving DecidableEq, Repr

namespace Target

def dest (t : Target) : Endpoint := ⟨t.ip, t.port⟩

/-- The target for a device under a configuration. -/
def ofDevice (c : ProbeConfig) (d : Device) : Target := ⟨d.ip, d.version, c.portFor d.version⟩

end Target

/-- How a wait for a reply ended. -/
inductive Reception where
  | datagram
  | failed (cause : IoError)
  | timedOut
deriving DecidableEq, Repr

/-- What a worker does besides counting. -/
inductive Notice where
  | sending (s : Sending)
  | log (e : Log.Event)
  /-- A loss is reported; the counters are those after it. -/
  | loss (stats : Stats)

/-- The counters after a step, how it ended, and what was done. -/
structure Step (α : Type) where
  stats : Stats
  outcome : α
  notices : List Notice

/-- What a probe is followed by. -/
inductive AfterSend where
  | awaiting
  /-- The probe was the last one; its reply is not awaited. -/
  | budgetExhausted
  | faulted (fault : Stats.Fault)
deriving DecidableEq, Repr

/-- What a wait came to. -/
inductive AfterWait where
  | reply
  /-- No reply came. The loss is counted, but not reported yet. -/
  | lost
  | faulted (fault : Stats.Fault)
deriving DecidableEq, Repr

/-- What an attempt to send a probe shows. -/
def sendNotices (t : Target) (result : Except IoError Unit) : List Notice :=
  .sending ⟨t.dest, t.version.probePayload, result⟩ ::
    match result with
    | .ok () => []
    | .error cause => [.log (.sendFailed t.dest cause)]

/-- Send a probe, with the result the system gave. It is counted in any case. -/
def send (c : ProbeConfig) (t : Target) (s : Stats) (result : Except IoError Unit) :
    Step AfterSend :=
  let recorded := s.recordSent
  let outcome : AfterSend :=
    match recorded.fault with
    | some fault => .faulted fault
    | none => if c.maxProbes ≤ recorded.stats.sent then .budgetExhausted else .awaiting
  ⟨recorded.stats, outcome, sendNotices t result⟩

/-- Count a loss. -/
def lose (s : Stats) : Step AfterWait :=
  let recorded := s.recordTimeout
  ⟨recorded.stats, match recorded.fault with
    | some fault => .faulted fault
    | none => .lost, []⟩

/-- Count what a wait came to. -/
def settle (t : Target) (s : Stats) : Reception → Step AfterWait
  | .datagram =>
    let recorded := s.recordReply
    ⟨recorded.stats, match recorded.fault with
      | some fault => .faulted fault
      | none => .reply, []⟩
  | .failed cause =>
    let step := lose s
    { step with notices := .log (.receiveFailed t.dest cause) :: step.notices }
  | .timedOut => lose s

/-- Whether the last loss made the streak just long enough to call for a warning. -/
def isSustained (c : ProbeConfig) (s : Stats) : Bool := s.streak = c.warningStreak

/-- Report the last loss, and warn if the streak calls for it. -/
def lossNotices (c : ProbeConfig) (t : Target) (s : Stats) : List Notice :=
  .loss s :: if isSustained c s then [.log (.sustainedLoss t.ip s.streak)] else []

end Probe
end LossProbe
