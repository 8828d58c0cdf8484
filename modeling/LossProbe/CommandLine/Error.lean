import LossProbe.CommandLine.Help
import LossProbe.CommandLine.Similar
import LossProbe.Text.Control

/-! # When no command is run

A command line can ask for help or for the version, and it can be wrong. Help and version are
printed and the program ends well; all else goes to the error output. An error says what is wrong,
what may have been meant, and how the command is called. -/

namespace LossProbe.CommandLine

inductive Error where
  | help (s : Scope)
  | version (s : Scope)
  /-- Nothing was given at all. -/
  | nothingGiven
  | missingCommand
  | unknownCommand (word : String)
  /-- Help was asked for something that a command does not have. -/
  | unknownTopic (s : Scope) (word : String)
  /-- A command stands where only values may stand. -/
  | misplacedCommand (word : String)
  /-- An argument that is no long option. -/
  | unknownArgument (s : Scope) (shown : String)
  /-- A long option, with the arguments that were given before it and the words behind it. -/
  | unknownOption (s : Scope) (name : String) (given : List Argument) (more : List String)
  /-- A flag was given a value. -/
  | unexpectedValue (s : Scope) (given : List Argument) (a : Argument) (value : String)
  | repeated (s : Scope) (a : Argument)
  | missingValue (a : Argument)
  | invalidValue (a : Argument) (value : String) (e : ValueError)
deriving DecidableEq, Repr

namespace Error

open Markup

/-- What is wrong, marked up. -/
def complaint : Error → List Char
  | missingCommand =>
    ['\''] ++ invalid Scope.program.word ++
      "' requires a subcommand but one was not provided\n  [subcommands: ".toList ++
      [',', ' '].intercalate (Scope.commands.map fun s => valid s.word) ++ [']']
  | unknownCommand word | unknownTopic _ word =>
    "unrecognized subcommand '".toList ++ invalid word ++ ['\'']
  | misplacedCommand shown | unknownArgument _ shown =>
    "unexpected argument '".toList ++ invalid shown ++ "' found".toList
  | unknownOption _ name _ _ =>
    "unexpected argument '".toList ++ invalid s!"--{name}" ++ "' found".toList
  | unexpectedValue _ _ a value =>
    "unexpected value '".toList ++ invalid value ++ "' for '".toList ++ literal a.shown ++
      "' found; no more were expected".toList
  | repeated _ a =>
    "the argument '".toList ++ invalid a.shown ++ "' cannot be used multiple times".toList
  | missingValue a =>
    "a value is required for '".toList ++ literal a.shown ++ "' but none was supplied".toList
  | invalidValue a value e =>
    "invalid value '".toList ++ invalid value ++ "' for '".toList ++ literal a.shown ++
      "': ".toList ++ e.message.toList
  | help _ | version _ | nothingGiven => []

/-- The long names of a scope. -/
def longNames (s : Scope) : List String := s.arguments.map Argument.long

/-- The argument of the scope that an unknown long name may stand for. -/
def meantArgument? (s : Scope) (name : String) : Option Argument :=
  (similarTo name (longNames s)).getLast?.bind s.long?

/-- The option of a command called later that an unknown long name may stand for. -/
def meantLater? (s : Scope) (name : String) (more : List String) : Option (Scope × String) :=
  match s with
  | .program =>
    more.findSome? fun word => do
      let c ← [Scope.discover, Scope.monitor].find? fun c => c.word = word
      return (c, ← (similarTo name (longNames c)).getLast?)
  | _ => none

/-- A line with a hint. -/
def tip (s : List Char) : List Char := "\n  ".toList ++ valid "tip:" ++ ' ' :: s

/-- Words that are like the one that is unknown. -/
def similarTip (kind : String) (words : List String) : List (List Char) :=
  let shown := [',', ' '].intercalate (words.map fun w => '\'' :: valid w ++ ['\''])
  match words with
  | [] => []
  | [_] => [tip (s!"a similar {kind} exists: ".toList ++ shown)]
  | _ => [tip (s!"some similar {kind}s exist: ".toList ++ shown)]

/-- What may have been meant. -/
def tips : Error → List (List Char)
  | unknownCommand word => similarTip "subcommand" (similarTo word (Scope.commands.map Scope.word))
  | misplacedCommand word =>
    [tip ("subcommand '".toList ++ valid word ++ "' exists; to use it, remove the '".toList ++
      invalid "--" ++ "' before it".toList)]
  | unknownOption s name _ more =>
    match meantArgument? s name with
    | some a => similarTip "argument" [s!"--{a.long}"]
    | none =>
      match meantLater? s name more with
      | some (c, option) =>
        [tip ('\'' :: valid s!"{c.word} --{option}" ++ "' exists".toList)]
      | none => []
  | _ => []

/-- An argument beside others, unless it is among them. -/
def withArgument (given : List Argument) (a : Argument) : List Argument :=
  if a ∈ given then given else given ++ [a]

/-- How the command is called, where the error shows it. -/
def usage? : Error → Option (List Char)
  | missingCommand | unknownCommand _ | misplacedCommand _ => some (Scope.program.usage [])
  | unknownTopic s _ | unknownArgument s _ | repeated s _ => some (s.usage [])
  | unknownOption s name given _ =>
    some (s.usage ((meantArgument? s name).elim given (withArgument given)))
  | unexpectedValue s given a _ => some (s.usage (withArgument given a))
  | _ => none

/-- Whether the command that the error is about has a flag for help. -/
def hasHelp : Error → Bool
  | unknownTopic .helpCommand _ => false
  | _ => true

/-- The whole text, marked up. -/
def text (env : Environment) (e : Error) : List Char :=
  match e with
  | help s => Help.text env s
  | version s => s.versionText.toList
  | nothingGiven => Help.text env .program
  | e =>
    let tips := e.tips
    error "error:" ++ ' ' :: e.complaint ++ (if tips = [] then [] else ['\n']) ++ tips.flatten ++
      e.usage?.elim [] (['\n', '\n'] ++ ·) ++
      (if e.hasHelp then
        "\n\nFor more information, try '".toList ++ literal "--help" ++ "'.\n".toList
      else ['\n'])

/-- Whether the text is what was asked for. -/
def isAnswer : Error → Bool
  | help _ | version _ => true
  | _ => false

/-- The exit code of the program. -/
def exitCode (e : Error) : Nat := if e.isAnswer then 0 else 2

/-- All that is printed. -/
def output (env : Environment) (colors : Bool) (e : Error) : String :=
  String.ofList (if colors then e.text env else Text.withoutControls (e.text env))

end Error
end LossProbe.CommandLine
