import LossProbe.Net.Endpoint
import LossProbe.Net.IoError

/-! # Errors of a run

Only opening a socket and sending the discovery request can make a run fail: a probe that cannot
be sent counts as lost. Every error has a text, the error behind it, and an exit code. -/

namespace LossProbe

inductive DiscoveryError where
  | socket (cause : IoError)
  | broadcast (dest : Endpoint) (cause : IoError)
deriving DecidableEq, Repr

namespace DiscoveryError

def cause : DiscoveryError → IoError
  | socket c | broadcast _ c => c

def message : DiscoveryError → String
  | socket c => s!"Failed to open broadcast socket: {c}"
  | broadcast dest c => s!"Failed to send discovery broadcast to {dest}: {c}"

end DiscoveryError

/-- No socket for the probes of a device. -/
structure BindError where
  ip : IpAddr
  cause : IoError
deriving DecidableEq, Repr

def BindError.message (e : BindError) : String :=
  s!"Failed to bind probe socket for {e.ip}: {e.cause}"

/-- An error of discovery or of probing. -/
inductive EngineError where
  | discovery (e : DiscoveryError)
  | probe (e : BindError)
deriving DecidableEq, Repr

namespace EngineError

def message : EngineError → String
  | discovery e => s!"Discovery error: {e.message}"
  | probe e => s!"Probe error: {e.message}"

/-- The text of the error and of each error behind it. -/
def chain (e : EngineError) : List String :=
  match e with
  | discovery d => [e.message, d.message, d.cause.message]
  | probe p => [e.message, p.message, p.cause.message]

end EngineError

/-- An error of a command. -/
inductive CommandError where
  | engine (e : EngineError)
  | noDevicesFound
deriving DecidableEq, Repr

/-- The code a process ends with. -/
def ExitCode := UInt8

namespace ExitCode

def success : ExitCode := (0 : UInt8)
def generalError : ExitCode := (1 : UInt8)
def networkError : ExitCode := (2 : UInt8)

def toNat (c : ExitCode) : Nat := UInt8.toNat c

end ExitCode

namespace CommandError

def message : CommandError → String
  | engine e => s!"Core error: {e.message}"
  | noDevicesFound => "No devices found"

def chain (e : CommandError) : List String :=
  match e with
  | engine i => e.message :: i.chain
  | noDevicesFound => [e.message]

def exitCode : CommandError → ExitCode
  | engine _ => .networkError
  | noDevicesFound => .generalError

end CommandError

/-- The code for the result of a command. -/
def ExitCode.ofResult : Except CommandError Unit → ExitCode
  | .ok () => .success
  | .error e => e.exitCode

end LossProbe
