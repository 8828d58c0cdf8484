import LossProbe.Monitor
import LossProbe.Report.Console

/-! # Commands

What the program can be asked to do. Both commands begin with discovery. The one that only looks
for devices ends there, and it is an error if there are none. -/

namespace LossProbe

/-- What the program is asked to do. -/
inductive Command where
  | discover (c : DiscoveryConfig)
  | monitor (o : Monitor.Options) (quietLoss : Bool)
deriving DecidableEq, Repr

namespace Command

/-- The settings of a command. -/
def options : Command → Monitor.Options
  | discover c => { discovery := c }
  | monitor o _ => o

/-- Whether reports of single losses are muted. -/
def quietLoss : Command → Bool
  | discover _ => false
  | monitor _ quietLoss => quietLoss

/-- The result of looking for devices, where the registry holds those that were found. -/
def discoverResult (registry : Registry) : Except CommandError Unit :=
  if registry.isEmpty then .error .noDevicesFound else .ok ()

/-- The result of a command, where a run that was not taken further than discovery only looked for
devices. -/
def result (m : Monitor) : Except CommandError Unit :=
  match m.stage with
  | .done (.error e) => .error (.engine e)
  | .discovered registry => discoverResult registry
  | _ => .ok ()

end Command

/-- A command, and how it is to be reported. -/
structure Invocation where
  json : Bool
  verbose : Bool
  command : Command
deriving DecidableEq, Repr

/-- How a command's reports are printed. -/
def Invocation.console (i : Invocation) (colors : Bool) : Console :=
  ⟨i.json, colors, i.command.quietLoss⟩

end LossProbe
