import LossProbe.Discovery.Reply
import LossProbe.Net.Endpoint
import LossProbe.Net.IoError
import LossProbe.Probe.Config
import LossProbe.Report.Heading
import LossProbe.Stats
import LossProbe.Text.Style

/-! # The log of a run

Everything that is logged, by cause. An entry is written as its level and its message, with the
values it carries behind the message. -/

namespace LossProbe

namespace Log

inductive Level where
  | error
  | warn
  | info
  | debug
  | trace
deriving DecidableEq, Repr

namespace Level

def name : Level → String
  | error => "ERROR"
  | warn => "WARN"
  | info => "INFO"
  | debug => "DEBUG"
  | trace => "TRACE"

/-- The style of the level's name. -/
def style : Level → Text.Style
  | error => .red
  | warn => .yellow
  | info => .green
  | debug => .blue
  | trace => .purple

/-- How much is logged at a level: each level includes those before it. -/
def verbosity : Level → Nat
  | error => 1
  | warn => 2
  | info => 3
  | debug => 4
  | trace => 5

end Level

inductive Event where
  | broadcasting (dest : Endpoint) (timeoutMs : UInt64)
  | discovered (ip : IpAddr) (version : Version)
  | ignoredReply (ip : IpAddr) (payload : List UInt8) (error : Reply.Error)
  | discoveryReceiveFailed (cause : IoError)
  | discoveryReceiveFailures (count : Nat)
  | discoveryCancelled
  | discoveryFinished (added v2 v3 : Nat)
  | workerStarted (ip : IpAddr) (version : Version) (dest : Endpoint)
  | sendFailed (dest : Endpoint) (cause : IoError)
  | receiveFailed (dest : Endpoint) (cause : IoError)
  | sustainedLoss (ip : IpAddr) (streak : UInt64)
  | workerStopped (ip : IpAddr) (reason : StopReason) (sent lost : UInt64)
  | poolStarted (workers : Nat)
  | workerJoined (ip : IpAddr) (reason : StopReason)
  | workerFailed (task : Nat) (fault : Stats.Fault)
  | deadlineMissed (aborted : Nat)
  | poolShutDown (stopped aborted : Nat)
  | measuring (v2 v3 : Nat)
  | workersAborted (aborted : Nat)
  | interrupted
  | notListening (cause : IoError)
  | mutedReport (heading : Heading)
deriving DecidableEq, Repr

namespace Event

def level : Event → Level
  | broadcasting .. | discovered .. | discoveryFinished .. | workerStarted .. | workerStopped ..
  | poolStarted _ | poolShutDown .. | measuring .. | interrupted => .info
  | ignoredReply .. | discoveryReceiveFailed _ | discoveryReceiveFailures _ | discoveryCancelled
  | sendFailed .. | receiveFailed .. | workerJoined .. | mutedReport _ => .debug
  | sustainedLoss .. | workerFailed .. | deadlineMissed _ | workersAborted _ | notListening _ =>
    .warn

/-- The message and the values that follow it. -/
def parts : Event → String × List (String × String)
  | broadcasting dest timeoutMs =>
    ("broadcasting discovery request",
      [("dest", toString dest), ("timeout_ms", toString timeoutMs)])
  | discovered ip version =>
    ("discovered device", [("ip", toString ip), ("version", version.name)])
  | ignoredReply ip payload error =>
    (s!"ignoring discovery reply: {error.message}",
      [("ip", toString ip), ("payload", String.ofList (Utf8.decodeLossy payload))])
  | discoveryReceiveFailed cause => (s!"UDP receive error during discovery: {cause}", [])
  | discoveryReceiveFailures count =>
    ("discovery receive errors repeated", [("recv_errors", toString count)])
  | discoveryCancelled => ("discovery cancelled", [])
  | discoveryFinished added v2 v3 =>
    ("discovery finished", [("added", toString added), ("v2", toString v2), ("v3", toString v3)])
  | workerStarted ip version dest =>
    ("probe worker started",
      [("ip", toString ip), ("version", version.name), ("dest", toString dest)])
  | sendFailed dest cause => (s!"probe send failed: {cause}", [("dest", toString dest)])
  | receiveFailed dest cause => (s!"probe receive failed: {cause}", [("dest", toString dest)])
  | sustainedLoss ip streak =>
    (s!"sustained packet loss: {streak} consecutive probes unanswered",
      [("ip", toString ip), ("continuous", toString streak)])
  | workerStopped ip reason sent lost =>
    ("probe worker stopped",
      [("ip", toString ip), ("reason", reason.name), ("sent", toString sent),
        ("lost", toString lost)])
  | poolStarted workers => ("probe pool started", [("workers", toString workers)])
  | workerJoined ip reason =>
    ("probe worker joined", [("ip", toString ip), ("reason", reason.name)])
  | workerFailed task fault =>
    (s!"probe worker failed: task {task} panicked with message \"{fault.message}\"", [])
  | deadlineMissed aborted =>
    ("probe workers missed the shutdown deadline, aborting", [("aborted", toString aborted)])
  | poolShutDown stopped aborted =>
    ("probe pool shut down", [("stopped", toString stopped), ("aborted", toString aborted)])
  | measuring v2 v3 =>
    ("measuring packet loss, press Ctrl+C to stop", [("v2", toString v2), ("v3", toString v3)])
  | workersAborted aborted =>
    ("some probe workers had to be aborted", [("aborted", toString aborted)])
  | interrupted => ("interrupt received, stopping", [])
  | notListening cause => (s!"failed to listen for Ctrl+C: {cause}", [])
  | mutedReport heading => (toString heading, [])

/-- A value behind the message. -/
def field (colors : Bool) (name value : String) : List Char :=
  ' ' :: Text.styled colors .italic name.toList ++ Text.styled colors .dimmed ['='] ++ value.toList

/-- The message with its values behind it. -/
def chars (colors : Bool) (e : Event) : List Char :=
  e.parts.1.toList ++ e.parts.2.flatMap fun (name, value) => field colors name value

def text (e : Event) : String := String.ofList (e.chars false)

end Event
end Log
end LossProbe
