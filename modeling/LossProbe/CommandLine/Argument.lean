import LossProbe.CommandLine.Number
import LossProbe.Discovery.Config
import LossProbe.Net.IpAddr.Parser
import LossProbe.Probe.Config

/-! # Arguments of the command line

All options and flags, with their names, the environment variables that stand in for them, and
the kind of value each takes. -/

namespace LossProbe.CommandLine

inductive Argument where
  | broadcast
  | port
  | discoveryTimeout
  | message
  | probeTimeout
  | maxProbes
  | lossThreshold
  | v2Port
  | v3Port
  | shutdownTimeout
  | quietLoss
  | json
  | verbose
  | help
  | version
deriving DecidableEq, Repr

/-- Why a text is no value of an argument. -/
inductive ValueError where
  | number (e : NumberError)
  | outOfRange (shown range : String)
  | address
deriving DecidableEq, Repr

def ValueError.message : ValueError → String
  | number e => e.message
  | outOfRange shown range => s!"{shown} is not in {range}"
  | address => IpAddr.invalidMessage

/-- A number without further bounds. -/
def readWord (s : String) : Except ValueError UInt64 :=
  match readUnsigned s.toList with
  | .ok n => .ok n.toUInt64
  | .error e => .error (.number e)

/-- A number that is not zero. -/
def readPositive (s : String) : Except ValueError UInt64 := do
  let n ← readWord s
  if n = 0 then throw (.outOfRange (toString n) "1..18446744073709551615") else return n

/-- A port. It is read as a number with a sign first, and then its range is looked at. -/
def readPort (s : String) : Except ValueError UInt16 :=
  match readSigned s.toList with
  | .ok n =>
    if 0 ≤ n ∧ n ≤ 65535 then .ok n.toNat.toUInt16
    else .error (.outOfRange (toString n) "0..=65535")
  | .error e => .error (.number e)

def readAddress (s : String) : Except ValueError IpAddr :=
  match IpAddr.parse? s with
  | some ip => .ok ip
  | none => .error .address

namespace Argument

/-- What an argument gives. Flags give nothing but their presence. -/
@[reducible] def Value : Argument → Type
  | broadcast => IpAddr
  | port | v2Port | v3Port => UInt16
  | discoveryTimeout | probeTimeout | maxProbes | lossThreshold | shutdownTimeout => UInt64
  | message => String
  | quietLoss | json | verbose | help | version => Unit

/-- Whether a value follows the name. -/
def takesValue : Argument → Bool
  | quietLoss | json | verbose | help | version => false
  | _ => true

/-- The long name, which follows two dashes. -/
def long : Argument → String
  | broadcast => "broadcast"
  | port => "port"
  | discoveryTimeout => "discovery-timeout-ms"
  | message => "message"
  | probeTimeout => "probe-timeout-ms"
  | maxProbes => "max-probes"
  | lossThreshold => "loss-threshold"
  | v2Port => "v2-port"
  | v3Port => "v3-port"
  | shutdownTimeout => "shutdown-timeout-ms"
  | quietLoss => "quiet-loss"
  | json => "json"
  | verbose => "verbose"
  | help => "help"
  | version => "version"

/-- The short name, which follows one dash. -/
def short? : Argument → Option Char
  | broadcast => some 'b'
  | quietLoss => some 'q'
  | verbose => some 'v'
  | help => some 'h'
  | version => some 'V'
  | _ => none

/-- What stands for the value in messages. -/
def placeholder : Argument → String
  | broadcast => "BROADCAST"
  | port => "PORT"
  | discoveryTimeout => "DISCOVERY_TIMEOUT_MS"
  | message => "MESSAGE"
  | probeTimeout => "PROBE_TIMEOUT_MS"
  | maxProbes => "MAX_PROBES"
  | lossThreshold => "LOSS_THRESHOLD"
  | v2Port => "V2_PORT"
  | v3Port => "V3_PORT"
  | shutdownTimeout => "SHUTDOWN_TIMEOUT_MS"
  | _ => ""

/-- The argument as messages name it. -/
def shown (a : Argument) : String :=
  if a.takesValue then s!"--{a.long} <{a.placeholder}>" else s!"--{a.long}"

/-- The variable that is read where the argument is not given. -/
def envName? : Argument → Option String
  | broadcast => some "FSA_BROADCAST"
  | port => some "FSA_DISCOVERY_PORT"
  | discoveryTimeout => some "FSA_DISCOVERY_TIMEOUT_MS"
  | probeTimeout => some "FSA_PROBE_TIMEOUT_MS"
  | maxProbes => some "FSA_MAX_PROBES"
  | _ => none

/-- Read a value. -/
def read : (a : Argument) → String → Except ValueError a.Value
  | broadcast, s => readAddress s
  | port, s | v2Port, s | v3Port, s => readPort s
  | discoveryTimeout, s | probeTimeout, s | maxProbes, s | shutdownTimeout, s => readWord s
  | lossThreshold, s => readPositive s
  | message, s => .ok s
  | quietLoss, _ | json, _ | verbose, _ | help, _ | version, _ => .ok ()

/-- The value of an argument that is given nowhere, as help shows it. -/
def default? : Argument → Option String
  | broadcast => some (toString ({} : DiscoveryConfig).broadcast)
  | port => some (toString ({} : DiscoveryConfig).port)
  | discoveryTimeout => some (toString ({} : DiscoveryConfig).timeoutMs)
  | message => some ("\"" ++ ({} : DiscoveryConfig).message ++ "\"")
  | probeTimeout => some (toString ({} : ProbeConfig).receiveTimeoutMs)
  | maxProbes => some (toString ({} : ProbeConfig).maxProbes)
  | lossThreshold => some (toString ({} : ProbeConfig).lossThreshold)
  | v2Port => some (toString ({} : ProbeConfig).v2Port)
  | v3Port => some (toString ({} : ProbeConfig).v3Port)
  | shutdownTimeout => some (toString defaultShutdownTimeoutMs)
  | _ => none

/-- What the argument is for. -/
def purpose : Argument → String
  | broadcast => "Broadcast address for the discovery request"
  | port => "Discovery UDP port"
  | discoveryTimeout => "How long to wait for discovery replies, in milliseconds"
  | message => "Discovery challenge string"
  | probeTimeout => "Wait for each probe reply, in milliseconds"
  | maxProbes => "Probes sent per device before its worker stops"
  | lossThreshold => "Consecutive losses that raise a warning"
  | v2Port => "Probe port for V2 devices"
  | v3Port => "Probe port for V3 devices"
  | shutdownTimeout => "Time granted to workers after Ctrl+C, in milliseconds"
  | quietLoss => "Do not print a report on every lost probe"
  | json => "Output reports as JSON lines"
  | verbose => "Verbose logging (overridden by RUST_LOG)"
  | help => "Print help"
  | version => "Print version"

end Argument

/-- The variables of the environment. -/
abbrev Environment := String → Option String

/-- What arguments are looked for in: the program itself, or one of its commands. -/
inductive Scope where
  | program
  | discover
  | monitor
  | helpCommand
deriving DecidableEq, Repr

namespace Scope

/-- The commands of the program. -/
def commands : List Scope := [discover, monitor, helpCommand]

/-- The word a command is called by. -/
def word : Scope → String
  | program => "fsa-probe"
  | discover => "discover"
  | monitor => "monitor"
  | helpCommand => "help"

/-- The command called by a word. -/
def command? (w : String) : Option Scope := commands.find? fun s => s.word = w

/-- The options that have a value or belong to one command, in the order in which their variables
are read. -/
def ownArguments : Scope → List Argument
  | program | helpCommand => []
  | discover => [.broadcast, .port, .discoveryTimeout, .message]
  | monitor =>
    [.broadcast, .port, .discoveryTimeout, .message, .probeTimeout, .maxProbes, .lossThreshold,
      .v2Port, .v3Port, .shutdownTimeout, .quietLoss]

/-- All arguments that can be given. -/
def arguments (s : Scope) : List Argument := s.ownArguments ++ [.json, .verbose, .help, .version]

def long? (s : Scope) (name : String) : Option Argument :=
  s.arguments.find? fun a => a.long = name

def short? (s : Scope) (name : Char) : Option Argument :=
  s.arguments.find? fun a => a.short? = some name

/-- The name and number of a version. -/
def versionText : Scope → String
  | program => "fsa-probe 0.1.0\n"
  | s => s!"fsa-probe-{s.word} 0.1.0\n"

/-- What a command is for. -/
def purpose : Scope → String
  | program => "Command-line FSA discovery and packet-loss monitor"
  | discover => "Broadcast once and list the devices that answer"
  | monitor => "Discover devices, then measure packet loss until Ctrl+C"
  | helpCommand => "Print this message or the help of the given subcommand(s)"

end Scope
end LossProbe.CommandLine
