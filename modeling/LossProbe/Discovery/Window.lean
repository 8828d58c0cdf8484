import LossProbe.Discovery.Config
import LossProbe.Error
import LossProbe.Machine
import LossProbe.Trace

/-! # Discovery

One request is sent, and until the window for replies closes every sender of a valid reply is
entered into the registry. The first valid reply of a sender decides its version; nothing that
arrives later changes it. -/

namespace LossProbe

namespace Discovery

/-- How much of a datagram is looked at. -/
def datagramLimit : Nat := 1024

/-- What can happen while replies are collected. -/
inductive Event where
  | datagram (source : IpAddr) (octets : List UInt8) (time : Timestamp)
  | receiveFailed (cause : IoError)
  /-- The run was cancelled. -/
  | cancelled
  /-- The time for replies is over. -/
  | timeUp

/-- The collecting of replies in its course. -/
structure Window where
  registry : Registry
  /-- How many devices were entered. -/
  added : Nat := 0
  /-- How many times receiving failed. The number has no bound: after each failure 10 ms pass before
  the next attempt, so it outgrows 32 bits only in a window that stays open for more than a year,
  and nothing but a log entry tells it. -/
  failures : Nat := 0
  isOpen : Bool := true

namespace Window

/-- Take one datagram. -/
def receive (w : Window) (source : IpAddr) (octets : List UInt8) (time : Timestamp) :
    Window × Trace :=
  let octets := octets.take datagramLimit
  match Reply.parse octets with
  | .ok version =>
    match w.registry.insert? { ip := source, version, discoveredAt := time } with
    | some registry =>
      ({ w with registry, added := w.added + 1 }, [.log (.discovered source version)])
    | none => (w, [])
  | .error e => (w, [.log (.ignoredReply source octets e)])

/-- Go on by one event. A closed window stays as it is. -/
def step (w : Window) (e : Event) : Window × Trace :=
  if w.isOpen then
    match e with
    | .datagram source octets time => w.receive source octets time
    | .receiveFailed cause =>
      ({ w with failures := w.failures + 1 },
        if w.failures = 0 then [.log (.discoveryReceiveFailed cause)] else [])
    | .cancelled => ({ w with isOpen := false }, [.log .discoveryCancelled])
    | .timeUp => ({ w with isOpen := false }, [])
  else (w, [])

/-- Go on by several events. -/
def run (w : Window) (es : List Event) : Window × Trace := Machine.run step w es

/-- What is logged once the window is closed. -/
def summary (w : Window) : Trace :=
  (if 1 < w.failures then [.log (.discoveryReceiveFailures w.failures)] else []) ++
    [.log (.discoveryFinished w.added (w.registry.list .v2).length (w.registry.list .v3).length)]

end Window

/-- Send the request. -/
def request (c : DiscoveryConfig) (result : Except IoError Unit) : Trace :=
  [.log (.broadcasting c.target c.timeoutMs),
    .sending ⟨c.target, Utf8.encode c.message, result⟩]

/-- How discovery ended: the registry as it then is, and the number of devices added or the
reason why none could be looked for. -/
structure Outcome where
  registry : Registry
  result : Except DiscoveryError Nat
  trace : Trace

/-- A whole discovery. The socket may fail to open and the request to go out; otherwise replies
are collected from what happens until the window closes. The results are reported in every case
but that of a missing socket. -/
def run (c : DiscoveryConfig) (registry : Registry) (socket sent : Except IoError Unit)
    (events : List Event) : Outcome :=
  match socket with
  | .error cause => ⟨registry, .error (.socket cause), []⟩
  | .ok () =>
    match sent with
    | .error cause =>
      ⟨registry, .error (.broadcast c.target cause),
        request c sent ++ [.report .searchResults registry]⟩
    | .ok () =>
      let (w, collected) := Window.run { registry } events
      ⟨w.registry, .ok w.added,
        request c sent ++ collected ++ w.summary ++ [.report .searchResults w.registry]⟩

end Discovery
end LossProbe
