import LossProbe.CommandLine.Argument
import LossProbe.CommandLine.Markup

/-! # Help texts

The help of the program lists its commands and flags in columns. The help of a command gives each
option a line of its own for its purpose, its variable and its default. The texts are marked up;
who wants them plain takes the control sequences out. -/

namespace LossProbe.CommandLine

open Markup

/-- An argument as it is typed, with what stands for its value. -/
def Argument.marked (a : Argument) : List Char :=
  literal s!"--{a.long}" ++ if a.takesValue then s!" <{a.placeholder}>".toList else []

namespace Scope

/-- The words that call the program or a command. -/
def callWords : Scope → String
  | program => "fsa-probe"
  | s => s!"fsa-probe {s.word}"

/-- What may follow the words that call a command, and what must. -/
def callRest : Scope → String × String
  | program => (" [OPTIONS]", " <COMMAND>")
  | helpCommand => (" [COMMAND]...", "")
  | _ => (" [OPTIONS]", "")

/-- How a command is called, with the arguments that were given or should have been. -/
def usage (s : Scope) (used : List Argument) : List Char :=
  header "Usage:" ++ ' ' :: literal s.callWords ++
    (if used = [] then s.callRest.1.toList else used.flatMap fun a => ' ' :: a.marked) ++
    s.callRest.2.toList

end Scope

namespace Help

/-- The names of an argument, plain and marked up. The long ones stand below each other. -/
def names (a : Argument) : String × List Char :=
  match a.short? with
  | some c => (s!"  -{c}, {a.shown}", "  ".toList ++ literal s!"-{c}" ++ ", ".toList ++ a.marked)
  | none => (s!"      {a.shown}", "      ".toList ++ a.marked)

/-- The blanks that fill a plain text up. -/
def filling (width : Nat) (s : String) : List Char := List.replicate (width - s.length) ' '

/-- What an argument is for, and where its value comes from when it is not given. -/
def description (env : Environment) (a : Argument) : String :=
  let variableText :=
    match a.envName? with
    | some name => " [env: " ++ name ++ "=" ++ (env name).getD "" ++ "]"
    | none => ""
  let defaultText :=
    match a.default? with
    | some d => s!" [default: {d}]"
    | none => ""
  a.purpose ++ variableText ++ defaultText

/-- How far descriptions are indented. -/
def indent : List Char := List.replicate 10 ' '

/-- A text whose lines are all indented. -/
def indented (s : String) : List Char :=
  indent ++ s.toList.flatMap fun c => if c = '\n' then c :: indent else [c]

/-- An option of a command. -/
def optionLines (env : Environment) (a : Argument) : List Char :=
  (names a).2 ++ '\n' :: indented (description env a) ++ ['\n']

/-- A flag of the program. -/
def flagLine (a : Argument) : List Char :=
  (names a).2 ++ filling 15 (names a).1 ++ "  ".toList ++ a.purpose.toList ++ ['\n']

/-- A command of the program. -/
def commandLine (s : Scope) : List Char :=
  "  ".toList ++ literal s.word ++ filling 8 s.word ++ "  ".toList ++ s.purpose.toList ++ ['\n']

/-- The flags that every command has stand between the first options. -/
def listed : Scope → List Argument
  | .discover => [.broadcast, .json, .port, .verbose, .discoveryTimeout, .message, .help, .version]
  | .monitor =>
    [.broadcast, .json, .port, .verbose, .discoveryTimeout, .message, .probeTimeout, .maxProbes,
      .lossThreshold, .v2Port, .v3Port, .shutdownTimeout, .quietLoss, .help, .version]
  | _ => [.json, .verbose, .help, .version]

/-- Purpose and usage. -/
def opening (s : Scope) : List Char :=
  s.purpose.toList ++ '\n' :: '\n' :: s.usage [] ++ ['\n', '\n']

/-- The whole help text. -/
def text (env : Environment) : Scope → List Char
  | .program =>
    opening .program ++ header "Commands:" ++ '\n' :: Scope.commands.flatMap commandLine ++
      '\n' :: header "Options:" ++ '\n' :: (listed .program).flatMap flagLine
  | .helpCommand =>
    opening .helpCommand ++ header "Arguments:" ++
      "\n  [COMMAND]...  Print help for the subcommand(s)\n".toList
  | s => opening s ++ header "Options:" ++ '\n' :: (listed s).flatMap (optionLines env)

end Help
end LossProbe.CommandLine
