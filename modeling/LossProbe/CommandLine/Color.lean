import LossProbe.CommandLine.Argument

/-! # When colours are on

Variables of the environment turn colours on and off. Where none does, messages and reports have
colours on a terminal alone, and the log has them everywhere. -/

namespace LossProbe.CommandLine

/-- Whether a variable is set to anything but a zero. -/
def switch? (env : Environment) (name : String) : Option Bool := (env name).map fun v => v ≠ "0"

/-- Whether reports have colours. One variable forces them, any value of another forbids them, and
a third can turn them off on a terminal. -/
def reportColors (env : Environment) (isTerminal : Bool) : Bool :=
  if switch? env "CLICOLOR_FORCE" = some true then true
  else if (env "NO_COLOR").isSome then false
  else (switch? env "CLICOLOR").getD true && isTerminal

/-- Whether a variable is set to anything at all. -/
def isFilled (env : Environment) (name : String) : Bool := !((env name).getD "").isEmpty

/-- Whether help texts and error messages have colours. On a terminal they have them if its kind is
known to show them, or if they are asked for. -/
def messageColors (env : Environment) (isTerminal : Bool) : Bool :=
  if isFilled env "NO_COLOR" then false
  else if isFilled env "CLICOLOR_FORCE" then true
  else
    match switch? env "CLICOLOR" with
    | some asked => asked && isTerminal
    | none => isTerminal && ((env "TERM").any (· ≠ "dumb") || (env "CI").isSome)

/-- Whether the log has colours. -/
def logColors (env : Environment) : Bool := !isFilled env "NO_COLOR"

/-- The variables that decide on colours. -/
def colorVariables : List String := ["CLICOLOR_FORCE", "NO_COLOR", "CLICOLOR", "TERM", "CI"]

end LossProbe.CommandLine
