import LossProbe.Command
import LossProbe.CommandLine.Error

/-! # Reading the command line

The arguments are read from the left. A value that stands apart from its option is looked at only
when the next option or the end comes, so an unknown option behind it is complained about first.
Options that are not given are read from the environment, in the order in which the command lists
them, and have a default otherwise. -/

namespace LossProbe

namespace CommandLine

/-- The values that were given. -/
def Settings := (a : Argument) → Option a.Value

namespace Settings

def empty : Settings := fun _ => none

def has (s : Settings) (a : Argument) : Bool := (s a).isSome

def insert (s : Settings) (a : Argument) (v : a.Value) : Settings := fun b =>
  if h : a = b then some (h ▸ v) else s b

end Settings

/-- The state of reading the arguments of one scope. -/
structure Reading where
  scope : Scope
  settings : Settings := .empty
  /-- The arguments that have values, in the order in which they got them. -/
  given : List Argument := []
  /-- An option whose value, if it has come, was not looked at yet. -/
  pending : Option (Argument × Option String) := none

namespace Reading

/-- Whether the next argument can be the value of an option. -/
def wantsValue (r : Reading) : Bool :=
  match r.pending with
  | some (_, none) => true
  | _ => false

/-- Enter a value. -/
def give (r : Reading) (a : Argument) (value : String) : Except Error Reading :=
  if r.settings.has a then .error (.repeated r.scope a)
  else
    match a.read value with
    | .ok v => .ok { r with settings := r.settings.insert a v, given := r.given ++ [a] }
    | .error e => .error (.invalidValue a value e)

/-- Look at the value of the last option. -/
def resolve (r : Reading) : Except Error Reading :=
  match r.pending with
  | none => .ok r
  | some (a, none) => .error (.missingValue a)
  | some (a, some value) => { r with pending := none }.give a value

/-- An option with its value. -/
def option (r : Reading) (a : Argument) (value : String) : Except Error Reading := do
  (← r.resolve).give a value

/-- An option whose value is still to come. -/
def await (r : Reading) (a : Argument) : Except Error Reading := do
  return { (← r.resolve) with pending := some (a, none) }

/-- A flag. Help and version are answered at once. -/
def flag (r : Reading) (a : Argument) : Except Error Reading := do
  let r ← r.resolve
  match a with
  | .help => throw (.help r.scope)
  | .version => throw (.version r.scope)
  | a => r.give a ""

/-- The arguments that an error shows as given: the last one is among them if it has a value,
fitting or not, unless it was given before; then it is withdrawn. -/
def shownAsGiven (r : Reading) : List Argument :=
  match r.pending with
  | some (a, some _) => if a ∈ r.given then r.given.erase a else r.given ++ [a]
  | _ => r.given

/-- An argument after two dashes, with the value behind its equals sign, and the words that
follow. -/
def long (r : Reading) (name : String) (value? : Option String) (more : List String) :
    Except Error Reading :=
  match r.scope.long? name with
  | none => .error (.unknownOption r.scope name r.shownAsGiven more)
  | some a =>
    match a.takesValue, value? with
    | true, some value => r.option a value
    | true, none => r.await a
    | false, some value => .error (.unexpectedValue r.scope r.given a value)
    | false, none => r.flag a

/-- Arguments of one letter each, after one dash. The letters behind one that takes a value are
its value, less an equals sign between them. -/
def shorts (r : Reading) : List Char → Except Error Reading
  | [] => .ok r
  | c :: cs =>
    match r.scope.short? c with
    | none => .error (.unknownArgument r.scope s!"-{c}")
    | some a =>
      if a.takesValue then
        match cs with
        | [] => r.await a
        | '=' :: value => r.option a (String.ofList value)
        | value => r.option a (String.ofList value)
      else do (← r.flag a).shorts cs

/-- The name and the value on the two sides of the first equals sign. -/
def splitEquals (s : List Char) : String × Option String :=
  match s.dropWhile (· ≠ '=') with
  | [] => (String.ofList s, none)
  | _ :: value => (String.ofList (s.takeWhile (· ≠ '=')), some (String.ofList value))

/-- An argument that begins with a dash and has more behind it, and the words that follow. Two
dashes alone are none. -/
def dashed? (r : Reading) (s : List Char) (more : List String) : Option (Except Error Reading) :=
  match s with
  | '-' :: '-' :: name => some (r.long (splitEquals name).1 (splitEquals name).2 more)
  | '-' :: c :: cs => some (r.shorts (c :: cs))
  | _ => none

/-- Read the variables of the options that were not given. -/
def readVariables (env : Environment) (r : Reading) : List Argument → Except Error Reading
  | [] => .ok r
  | a :: more =>
    -- A variable that is set beside its option is not even looked at.
    match a.envName?.bind env with
    | some value =>
      if r.settings.has a then readVariables env r more
      else do readVariables env (← r.give a value) more
    | none => readVariables env r more

/-- The end of the arguments. -/
def finish (env : Environment) (r : Reading) : Except Error Settings := do
  return (← readVariables env (← r.resolve) r.scope.ownArguments).settings

end Reading

/-- Read the arguments of a command. It takes no values but those of its options. -/
def readCommand (env : Environment) (r : Reading) : List String → Except Error Settings
  | [] => r.finish env
  | arg :: more =>
    if arg = "--" then
      match more with
      | [] => r.finish env
      | extra :: _ => .error (.unknownArgument r.scope extra)
    else
      match r.dashed? arg.toList more with
      | some next => do readCommand env (← next) more
      | none =>
        match r.pending with
        | some (a, none) => readCommand env { r with pending := some (a, some arg) } more
        | _ => .error (.unknownArgument r.scope arg)

/-- The scope whose help is asked for by these words. -/
def helpScope (s : Scope) : List String → Except Error Scope
  | [] => .ok s
  | word :: more =>
    match s, Scope.command? word with
    | .program, some c => helpScope c more
    | _, _ => .error (.unknownTopic s word)

/-- The command that settings describe. -/
def Settings.discovery (s : Settings) : DiscoveryConfig :=
  let d : DiscoveryConfig := {}
  ⟨(s .broadcast).getD d.broadcast, (s .port).getD d.port,
    (s .discoveryTimeout).getD d.timeoutMs, (s .message).getD d.message⟩

def Settings.probe (s : Settings) : ProbeConfig :=
  let d : ProbeConfig := {}
  ⟨(s .probeTimeout).getD d.receiveTimeoutMs, (s .maxProbes).getD d.maxProbes,
    (s .lossThreshold).getD d.lossThreshold, (s .v2Port).getD d.v2Port, (s .v3Port).getD d.v3Port⟩

def Settings.monitor (s : Settings) : Monitor.Options :=
  ⟨s.discovery, s.probe, (s .shutdownTimeout).getD defaultShutdownTimeoutMs⟩

/-- What is to be done, from what was given before and behind the command. -/
def invocation (outer inner : Settings) (scope : Scope) : Invocation :=
  ⟨outer.has .json || inner.has .json, outer.has .verbose || inner.has .verbose,
    match scope with
    | .monitor => .monitor inner.monitor (inner.has .quietLoss)
    | _ => .discover inner.discovery⟩

/-- Read the arguments of the program, up to the command. -/
def readProgram (env : Environment) (r : Reading) : List String → Except Error Invocation
  | [] =>
    .error (if r.settings.has .json || r.settings.has .verbose then .missingCommand
      else .nothingGiven)
  | arg :: more =>
    match Scope.command? arg with
    | some .helpCommand => do throw (.help (← helpScope .program more))
    | some c => do
      let inner ← readCommand env { scope := c } more
      return invocation r.settings inner c
    | none =>
      if arg = "--" then
        match more with
        | [] => readProgram env r []
        | word :: _ =>
          .error (if (Scope.command? word).isSome then .misplacedCommand word
            else .unknownCommand word)
      else
        match r.dashed? arg.toList more with
        | some next => do readProgram env (← next) more
        | none => .error (.unknownCommand arg)

/-- What a command line asks for. -/
def parse (env : Environment) (args : List String) : Except Error Invocation :=
  readProgram env { scope := .program } args

end CommandLine
end LossProbe
