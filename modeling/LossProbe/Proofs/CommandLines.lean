import Mathlib.Data.List.Induction
import Mathlib.Data.List.TakeWhile
import LossProbe.CommandLine.Parser
import LossProbe.Proofs.OptionNumbers

/-!
# Command lines

Where the value of an option comes from: the option itself, or else its variable, or else its
default (`values_by_precedence`), however the options are written and in whatever order.

Reading goes from the left, and the value of the last option waits until the next word comes, so
the invariant (`Reading.Holds`) is about what a reading resolves to. Each way to write an option
keeps it (`readCommand_words`), and an induction over what is written leads to the end, where the
variables are read (`readVariables_settings`).
-/

namespace LossProbe.CommandLine

/-! ## What is written -/

/-- How a value is joined to its option. -/
inductive Joint where
  /-- The next word. -/
  | apart
  /-- Behind an equals sign. -/
  | equals
  /-- Right behind the letter. -/
  | attached
deriving DecidableEq, Repr

/-- An argument as it is written on the command line. -/
structure Written where
  argument : Argument
  value : argument.Value
  /-- Whether its letter is written, and not its long name. -/
  short : Bool := false
  joint : Joint := .apart

namespace Written

/-- The option without its value. -/
def name (w : Written) : String :=
  if w.short then String.ofList ('-' :: w.argument.short?.toList) else "--" ++ w.argument.long

/-- The words of an argument. A flag has no value to be joined. -/
def words (w : Written) : List String :=
  if w.argument.takesValue then
    match w.joint with
    | .apart => [w.name, w.argument.plain w.value]
    | .equals => [w.name ++ "=" ++ w.argument.plain w.value]
    | .attached => [w.name ++ w.argument.plain w.value]
  else [w.name]

/-- A value that is allowed, written in a way that the argument has. Only a letter has its value
attached, and a message, which may begin with a dash, stands behind an equals sign. -/
structure Proper (w : Written) : Prop where
  allows : w.argument.Allows w.value
  letter : w.short = true → w.argument.short? ≠ none
  attached : w.joint = .attached → w.short = true
  message : w.argument = .message → w.joint = .equals

end Written

/-- Arguments of a list, each at most once, in any order. -/
structure Arranged (allowed : List Argument) (ws : List Written) : Prop where
  proper : ∀ w ∈ ws, w.Proper
  allowed : ∀ w ∈ ws, w.argument ∈ allowed
  once : (ws.map Written.argument).Nodup

/-- An option that comes next was not written before. -/
theorem Arranged.not_mem {allowed : List Argument} {done ws : List Written} {w : Written}
    (h : Arranged allowed (done ++ w :: ws)) : w.argument ∉ done.map Written.argument := by
  have once := h.once
  rw [List.map_append, List.map_cons, List.nodup_append] at once
  intro hmem
  exact once.2.2 _ hmem _ List.mem_cons_self rfl

/-- The arguments that set something: all but those that are answered at once. -/
def Scope.settable (c : Scope) : List Argument := c.ownArguments ++ [.json, .verbose]

/-! ## What is meant -/

/-- The text of the variable of an argument. -/
def Environment.text? (env : Environment) (a : Argument) : Option String := a.envName?.bind env

/-- The value that the variable of an argument gives. -/
def Environment.value? (env : Environment) (a : Argument) : Option a.Value :=
  (env.text? a).bind fun t => (a.read t).toOption

namespace Argument

/-- The value of an argument that is given nowhere. -/
def standard : (a : Argument) → a.Value
  | broadcast => .v4 192 168 137 255
  | port => (2334 : UInt16)
  | discoveryTimeout => (3000 : UInt64)
  | message => "Is any fourier smart server here?"
  | probeTimeout => (200 : UInt64)
  | maxProbes => (100000 : UInt64)
  | lossThreshold => (2 : UInt64)
  | v2Port => (2335 : UInt16)
  | v3Port => (2340 : UInt16)
  | shutdownTimeout => (1000 : UInt64)
  | quietLoss | json | verbose | help | version => ()

end Argument

end LossProbe.CommandLine

namespace LossProbe.Invocation

open CommandLine

/-- The setting that an argument is for. -/
def setting (i : Invocation) : (a : Argument) → a.Value
  | .broadcast => i.command.options.discovery.broadcast
  | .port => i.command.options.discovery.port
  | .discoveryTimeout => i.command.options.discovery.timeoutMs
  | .message => i.command.options.discovery.message
  | .probeTimeout => i.command.options.probe.receiveTimeoutMs
  | .maxProbes => i.command.options.probe.maxProbes
  | .lossThreshold => i.command.options.probe.lossThreshold
  | .v2Port => i.command.options.probe.v2Port
  | .v3Port => i.command.options.probe.v3Port
  | .shutdownTimeout => i.command.options.shutdownTimeoutMs
  | .quietLoss | .json | .verbose | .help | .version => ()

end LossProbe.Invocation

namespace LossProbe.CommandLine

/-! ## Settings -/

namespace Settings

/-- What is given by arguments. -/
def ofWritten (ws : List Written) : Settings :=
  ws.foldl (fun s w => s.insert w.argument w.value) .empty

/-- An option has the value that it was given last. -/
theorem insert_self (s : Settings) (a : Argument) (v : a.Value) : s.insert a v a = some v := by
  simp [insert]

/-- Giving one option a value leaves the others as they are. -/
theorem insert_of_ne (s : Settings) {a b : Argument} (v : a.Value) (h : a ≠ b) :
    s.insert a v b = s b := by
  simp [insert, h]

/-- The last of some options is given its value after the others. -/
theorem ofWritten_append (ws : List Written) (w : Written) :
    ofWritten (ws ++ [w]) = (ofWritten ws).insert w.argument w.value := by
  simp [ofWritten]

/-- An option that is not written has no value. -/
theorem ofWritten_of_not_mem {ws : List Written} {a : Argument}
    (h : a ∉ ws.map Written.argument) : ofWritten ws a = none := by
  induction ws using List.reverseRecOn with
  | nil => rfl
  | append_singleton ws w ih =>
    simp only [List.map_append, List.mem_append, not_or, List.map_singleton,
      List.mem_singleton] at h
    rw [ofWritten_append, insert_of_ne _ _ (Ne.symm h.2), ih h.1]

/-- An option that is written once has the value it is written with. -/
theorem ofWritten_of_mem {ws : List Written} {w : Written} (hw : w ∈ ws)
    (once : (ws.map Written.argument).Nodup) : ofWritten ws w.argument = some w.value := by
  induction ws using List.reverseRecOn with
  | nil => cases hw
  | append_singleton ws last ih =>
    rw [List.map_append, List.nodup_append] at once
    rw [ofWritten_append]
    -- The last word sets another argument, or it is the word looked for.
    rcases List.mem_append.mp hw with hw | hw
    · have hne : last.argument ≠ w.argument := by
        intro heq
        exact once.2.2 _ (List.mem_map_of_mem hw) _ (List.mem_singleton_self _) heq.symm
      rw [insert_of_ne _ _ hne, ih hw once.1]
    · obtain rfl := List.mem_singleton.mp hw
      exact insert_self _ _ _

/-- Just the options that are written have values. -/
theorem has_ofWritten (ws : List Written) (a : Argument) (once : (ws.map Written.argument).Nodup) :
    (ofWritten ws).has a = decide (a ∈ ws.map Written.argument) := by
  by_cases h : a ∈ ws.map Written.argument
  · obtain ⟨w, hw, rfl⟩ := List.mem_map.mp h
    simp only [has, ofWritten_of_mem hw once, Option.isSome_some, h, decide_true]
  · simp only [has, ofWritten_of_not_mem h, Option.isSome_none, h, decide_false]

end Settings

/-! ## Readings -/

namespace Reading

/-- What a reading comes to, once its last value is looked at. -/
structure Holds (r : Reading) (c : Scope) (ws : List Written) : Prop where
  scope : r.scope = c
  resolve : ∃ given, r.resolve = .ok ⟨c, .ofWritten ws, given, none⟩

/-- A reading that has taken some options, and waits for nothing, holds them. -/
theorem holds_mk (c : Scope) (ws : List Written) (given : List Argument) :
    Holds ⟨c, .ofWritten ws, given, none⟩ c ws := ⟨rfl, given, rfl⟩

variable {r : Reading} {c : Scope} {ws : List Written} {w : Written} {text : String}

/-- A new argument is entered. -/
theorem give_eq {given : List Argument} (hread : w.argument.read text = .ok w.value)
    (hnew : w.argument ∉ ws.map Written.argument) :
    Reading.give ⟨c, .ofWritten ws, given, none⟩ w.argument text =
      .ok ⟨c, .ofWritten (ws ++ [w]), given ++ [w.argument], none⟩ := by
  have hhas : (Settings.ofWritten ws).has w.argument = false := by
    rw [Settings.has, Settings.ofWritten_of_not_mem hnew, Option.isSome_none]
  simp [Reading.give, hhas, hread, Settings.ofWritten_append]

/-- An option with its value. -/
theorem Holds.option (h : r.Holds c ws) (hread : w.argument.read text = .ok w.value)
    (hnew : w.argument ∉ ws.map Written.argument) :
    ∃ r', r.option w.argument text = .ok r' ∧ r'.Holds c (ws ++ [w]) := by
  obtain ⟨given, hresolve⟩ := h.resolve
  refine ⟨⟨c, .ofWritten (ws ++ [w]), given ++ [w.argument], none⟩, ?_, rfl, _, rfl⟩
  rw [Reading.option, hresolve]
  exact give_eq hread hnew

/-- An option whose value is the next word. -/
theorem Holds.await (h : r.Holds c ws) (hread : w.argument.read text = .ok w.value)
    (hnew : w.argument ∉ ws.map Written.argument) :
    ∃ r', r.await w.argument = .ok r' ∧ r'.pending = some (w.argument, none) ∧
      Holds { r' with pending := some (w.argument, some text) } c (ws ++ [w]) := by
  obtain ⟨given, hresolve⟩ := h.resolve
  refine ⟨⟨c, .ofWritten ws, given, some (w.argument, none)⟩, ?_, rfl, rfl, _, give_eq hread hnew⟩
  rw [Reading.await, hresolve]
  rfl

/-- A flag that is not answered at once. -/
theorem Holds.flag (h : r.Holds c ws) (hread : w.argument.read "" = .ok w.value)
    (hhelp : w.argument ≠ .help) (hversion : w.argument ≠ .version)
    (hnew : w.argument ∉ ws.map Written.argument) :
    ∃ given, r.flag w.argument = .ok ⟨c, .ofWritten (ws ++ [w]), given, none⟩ := by
  obtain ⟨given, hresolve⟩ := h.resolve
  refine ⟨given ++ [w.argument], ?_⟩
  simp only [Reading.flag, hresolve, bind, Except.bind]
  exact give_eq hread hnew

/-! ## Words -/

/-- A name without an equals sign has no value attached. -/
theorem splitEquals_of_not_mem {s : List Char} (h : '=' ∉ s) :
    splitEquals s = (String.ofList s, none) := by
  have hdrop : s.dropWhile (· ≠ '=') = [] :=
    List.dropWhile_eq_nil_iff.mpr fun c hc => by simpa using fun heq : c = '=' => h (heq ▸ hc)
  simp only [splitEquals, hdrop]

/-- The value stands behind the first equals sign. -/
theorem splitEquals_append {s : List Char} (h : '=' ∉ s) (v : List Char) :
    splitEquals (s ++ '=' :: v) = (String.ofList s, some (String.ofList v)) := by
  have hall : ∀ c ∈ s, decide (c ≠ '=') = true := fun c hc => by
    simpa using fun heq : c = '=' => h (heq ▸ hc)
  simp only [splitEquals, List.dropWhile_append_of_pos hall, List.takeWhile_append_of_pos hall]
  simp

/-- No name of an option has an equals sign in it, or is empty. -/
theorem long_ne (a : Argument) : '=' ∉ a.long.toList ∧ a.long ≠ "" := by
  cases a <;> decide

/-- The options that can be set are those of the scope, but for help and version. -/
theorem of_mem_settable {a : Argument} (h : a ∈ c.settable) :
    a ∈ c.arguments ∧ a ≠ .help ∧ a ≠ .version := by
  have hall : ∀ a ∈ c.settable, a ∈ c.arguments ∧ a ≠ .help ∧ a ≠ .version := by
    cases c <;> decide
  exact hall a h

/-- An option of the scope is found under its name. -/
theorem long?_long (h : w.argument ∈ c.arguments) : c.long? w.argument.long = some w.argument := by
  have hall : ∀ a ∈ c.arguments, c.long? a.long = some a := by cases c <;> decide
  exact hall _ h

/-- An option of the scope is found under its letter. -/
theorem short?_short (h : w.argument ∈ c.arguments) {letter : Char}
    (hletter : w.argument.short? = some letter) : c.short? letter = some w.argument := by
  have hall : ∀ a ∈ c.arguments, a.short? ≠ none → a.short?.bind c.short? = some a := by
    cases c <;> decide
  have hbind := hall _ h (by simp [hletter])
  rwa [hletter] at hbind

variable {more : List String}

/-- One dash and a letter begin a run of letters. -/
theorem dashed?_letter {letter : Char} (h : letter ≠ '-') (cs : List Char) :
    r.dashed? ('-' :: letter :: cs) more = some (r.shorts (letter :: cs)) := by
  simp [dashed?]

/-- No option has a dash for its letter. -/
theorem short?_ne_dash {a : Argument} {letter : Char} (h : a.short? = some letter) :
    letter ≠ '-' := by
  rintro rfl
  revert h
  cases a <;> decide

/-- A name by itself is a flag, or an option that waits for its value. -/
theorem dashed?_name (hscope : r.scope = c) (harg : w.argument ∈ c.arguments) (hw : w.Proper) :
    r.dashed? w.name.toList more =
      some (if w.argument.takesValue then r.await w.argument else r.flag w.argument) := by
  -- Two dashes and the name, or one dash and the letter.
  cases hshort : w.short with
  | false =>
    have hname : w.name.toList = '-' :: '-' :: w.argument.long.toList := by
      simp [Written.name, hshort]
    simp only [hname, dashed?, splitEquals_of_not_mem (long_ne w.argument).1, Reading.long, hscope,
      String.ofList_toList, long?_long harg]
    cases w.argument.takesValue <;> rfl
  | true =>
    obtain ⟨letter, hletter⟩ := Option.ne_none_iff_exists'.mp (hw.letter hshort)
    have hname : w.name.toList = ['-', letter] := by simp [Written.name, hshort, hletter]
    simp only [hname, dashed?_letter (short?_ne_dash hletter), shorts, hscope,
      short?_short harg hletter]
    cases w.argument.takesValue with
    | true => rfl
    | false => cases r.flag w.argument <;> rfl

/-- A value behind an equals sign is read with its option. -/
theorem dashed?_equals (hscope : r.scope = c) (harg : w.argument ∈ c.arguments) (hw : w.Proper)
    (htakes : w.argument.takesValue = true) (text : String) :
    r.dashed? (w.name ++ "=" ++ text).toList more = some (r.option w.argument text) := by
  -- The text is split at the equals sign of a long name, and a short one takes what is behind it.
  cases hshort : w.short with
  | false =>
    have hname : (w.name ++ "=" ++ text).toList =
        '-' :: '-' :: (w.argument.long.toList ++ '=' :: text.toList) := by
      simp [Written.name, hshort]
    simp only [hname, dashed?, splitEquals_append (long_ne w.argument).1, Reading.long, hscope,
      String.ofList_toList, long?_long harg, htakes]
  | true =>
    obtain ⟨letter, hletter⟩ := Option.ne_none_iff_exists'.mp (hw.letter hshort)
    have hname : (w.name ++ "=" ++ text).toList = '-' :: letter :: '=' :: text.toList := by
      simp [Written.name, hshort, hletter]
    simp only [hname, dashed?_letter (short?_ne_dash hletter), shorts, hscope,
      short?_short harg hletter, htakes, if_true, String.ofList_toList]

/-- So is a value right behind the letter, unless it begins with an equals sign itself. -/
theorem dashed?_attached (hscope : r.scope = c) (harg : w.argument ∈ c.arguments) (hw : w.Proper)
    (htakes : w.argument.takesValue = true) (hshort : w.short = true) {first : Char}
    (hfirst : text.toList.head? = some first) (hne : first ≠ '=') :
    r.dashed? (w.name ++ text).toList more = some (r.option w.argument text) := by
  obtain ⟨letter, hletter⟩ := Option.ne_none_iff_exists'.mp (hw.letter hshort)
  obtain ⟨rest, hrest⟩ := List.head?_eq_some_iff.mp hfirst
  have hname : (w.name ++ text).toList = '-' :: letter :: first :: rest := by
    simp [Written.name, hshort, hletter, hrest]
  have htext : String.ofList (first :: rest) = text := by rw [← hrest, String.ofList_toList]
  simp [hname, dashed?_letter (short?_ne_dash hletter), shorts, hscope,
    short?_short harg hletter, htakes, hne, htext]

/-- No word of an argument is the one that ends the options. -/
theorem name_append_ne (hw : w.Proper) (text : String) : w.name ++ text ≠ "--" := by
  intro heq
  have hchars : w.name.toList ++ text.toList = ['-', '-'] := by
    rw [← String.toList_append, heq]
    rfl
  -- A long name has letters behind its dashes, and a letter is no dash.
  cases hshort : w.short with
  | false =>
    have hlong : w.argument.long = "" ∧ text = "" := by
      simpa [Written.name, hshort] using hchars
    exact (long_ne w.argument).2 hlong.1
  | true =>
    obtain ⟨letter, hletter⟩ := Option.ne_none_iff_exists'.mp (hw.letter hshort)
    simp [Written.name, hshort, hletter, short?_ne_dash hletter] at hchars

end Reading

/-! ## Loops -/

section

open Reading

variable {env : Environment} {c : Scope} {r : Reading} {w : Written} {ws done : List Written}
  {more : List String}

/-- A word that is understood by itself is taken. -/
theorem readCommand_cons {word : String} {r' : Reading} (hne : word ≠ "--")
    (h : r.dashed? word.toList more = some (.ok r')) :
    readCommand env r (word :: more) = readCommand env r' more := by
  rw [readCommand.eq_def]
  simp only [if_neg hne, h]
  rfl

/-- The next word is the value that an option waits for. -/
theorem readCommand_value {text : String} {a : Argument} (hpending : r.pending = some (a, none))
    (hdash : text.toList.head? ≠ some '-') :
    readCommand env r (text :: more) =
      readCommand env { r with pending := some (a, some text) } more := by
  have hne : text ≠ "--" := by
    rintro rfl
    exact hdash rfl
  -- A text that starts with no dash is not looked at as an option.
  have hdashed : r.dashed? text.toList more = none := by
    unfold dashed?
    split
    next heq => simp [heq] at hdash
    next heq => simp [heq] at hdash
    next => rfl
  rw [readCommand.eq_def]
  simp only [if_neg hne, hdashed, hpending]

/-- A flag is written without a value. -/
theorem plain_of_not_takesValue {a : Argument} (h : a.takesValue = false) (v : a.Value) :
    a.plain v = "" := by
  cases a <;> first | rfl | cases h

/-- A value right behind its letter does not begin with an equals sign. -/
theorem exists_head?_plain {a : Argument} (htakes : a.takesValue = true) (hletter : a.short? ≠ none)
    (v : a.Value) : ∃ first, (a.plain v).toList.head? = some first ∧ first ≠ '=' := by
  -- Only the broadcast address has a letter and takes a value.
  cases a with
  | broadcast =>
    obtain ⟨first, rest, hchars⟩ := List.exists_cons_of_ne_nil (IpAddr.chars_ne_nil v)
    have hhead : (Argument.plain .broadcast v).toList.head? = some first := by
      simp [Argument.plain, toString, hchars]
    refine ⟨first, hhead, ?_⟩
    rintro rfl
    exact absurd (Argument.isTextChar_of_head?_plain (by decide) hhead)
      (by unfold IpAddr.IsTextChar; decide)
  | quietLoss | json | verbose | help | version => cases htakes
  | _ => exact absurd rfl hletter

/-- A flag by itself. -/
theorem dashed?_flag (more : List String) (h : r.Holds c done) (harg : w.argument ∈ c.settable)
    (hw : w.Proper) (htakes : w.argument.takesValue = false)
    (hnew : w.argument ∉ done.map Written.argument) :
    ∃ given, r.dashed? w.name.toList more =
      some (.ok ⟨c, .ofWritten (done ++ [w]), given, none⟩) := by
  obtain ⟨harg, hhelp, hversion⟩ := of_mem_settable harg
  have hread := Argument.read_plain hw.allows
  rw [plain_of_not_takesValue htakes] at hread
  obtain ⟨given, hflag⟩ := h.flag hread hhelp hversion hnew
  exact ⟨given, by rw [dashed?_name h.scope harg hw, htakes, ← hflag]; rfl⟩

/-- The words of an argument are read as this argument. -/
theorem readCommand_words (env : Environment) (more : List String) (h : r.Holds c done)
    (harg : w.argument ∈ c.settable) (hw : w.Proper)
    (hnew : w.argument ∉ done.map Written.argument) :
    ∃ r' : Reading, r'.Holds c (done ++ [w]) ∧
      readCommand env r (w.words ++ more) = readCommand env r' more := by
  have hread := Argument.read_plain hw.allows
  have hmem := (of_mem_settable harg).1
  have hname : w.name ≠ "--" := by simpa using name_append_ne hw ""
  cases htakes : w.argument.takesValue with
  | false =>
    obtain ⟨given, hdashed⟩ := dashed?_flag more h harg hw htakes hnew
    refine ⟨_, holds_mk c (done ++ [w]) given, ?_⟩
    simp only [Written.words, htakes]
    exact readCommand_cons hname hdashed
  | true =>
    cases hjoint : w.joint with
    | apart =>
      obtain ⟨r', hawait, hpending, hholds⟩ := h.await hread hnew
      have hdashed : r.dashed? w.name.toList (w.argument.plain w.value :: more) = some (.ok r') := by
        rw [dashed?_name h.scope hmem hw, htakes, ← hawait]
        rfl
      -- The value is taken for one only if no dash is in front, as there may be in a message.
      have hmessage : w.argument ≠ .message := fun heq => by simp [hw.message heq] at hjoint
      have hdash : (w.argument.plain w.value).toList.head? ≠ some '-' := fun hhead =>
        absurd (Argument.isTextChar_of_head?_plain hmessage hhead)
          (by unfold IpAddr.IsTextChar; decide)
      refine ⟨_, hholds, ?_⟩
      simp only [Written.words, htakes, hjoint, if_true, List.cons_append, List.nil_append]
      rw [readCommand_cons hname hdashed]
      exact readCommand_value hpending hdash
    | equals =>
      obtain ⟨r', hoption, hholds⟩ := h.option hread hnew
      refine ⟨r', hholds, ?_⟩
      simp only [Written.words, htakes, hjoint, if_true, List.cons_append, List.nil_append]
      refine readCommand_cons ?_ ?_
      · rw [String.append_assoc]
        exact name_append_ne hw _
      · rw [dashed?_equals h.scope hmem hw htakes, hoption]
    | attached =>
      have hshort := hw.attached hjoint
      obtain ⟨first, hfirst, hne⟩ := exists_head?_plain htakes (hw.letter hshort) w.value
      obtain ⟨r', hoption, hholds⟩ := h.option hread hnew
      refine ⟨r', hholds, ?_⟩
      simp only [Written.words, htakes, hjoint, if_true, List.cons_append, List.nil_append]
      refine readCommand_cons (name_append_ne hw _) ?_
      rw [dashed?_attached h.scope hmem hw htakes hshort hfirst hne, hoption]

/-- All arguments behind a command, up to any that follow. -/
theorem readCommand_flatMap (env : Environment) (more : List String) (h : r.Holds c done)
    (hws : Arranged c.settable (done ++ ws)) :
    ∃ r' : Reading, r'.Holds c (done ++ ws) ∧
      readCommand env r (ws.flatMap Written.words ++ more) = readCommand env r' more := by
  induction ws generalizing r done with
  | nil => exact ⟨r, by simpa using h, rfl⟩
  | cons w ws ih =>
    have hw : w ∈ done ++ w :: ws := by simp
    -- The words of `w` first, then those of the others from the reading that they lead to.
    obtain ⟨r₁, hholds, hwords⟩ :=
      readCommand_words env (ws.flatMap Written.words ++ more) h (hws.allowed w hw)
        (hws.proper w hw) hws.not_mem
    obtain ⟨r', hholds', hmore⟩ := ih hholds (by simpa using hws)
    exact ⟨r', by simpa using hholds',
      by rw [List.flatMap_cons, List.append_assoc, hwords, hmore]⟩

/-- A name is no command. -/
theorem command?_name (w : Written) : Scope.command? w.name = none := by
  have hdash : w.name.toList.head? = some '-' := by
    cases hshort : w.short <;> simp [Written.name, hshort]
  rw [Scope.command?, List.find?_eq_none]
  intro s _ hword
  rw [← of_decide_eq_true hword] at hdash
  revert hdash
  cases s <;> decide

/-- All arguments in front of a command. They are flags, so none waits for a value. -/
theorem readProgram_flatMap (env : Environment) (more : List String) (given : List Argument)
    (hws : Arranged Scope.program.settable (done ++ ws)) :
    ∃ given', readProgram env ⟨.program, .ofWritten done, given, none⟩
        (ws.flatMap Written.words ++ more) =
      readProgram env ⟨.program, .ofWritten (done ++ ws), given', none⟩ more := by
  induction ws generalizing done given with
  | nil => exact ⟨given, by simp⟩
  | cons w ws ih =>
    have hw : w ∈ done ++ w :: ws := by simp
    have harg := hws.allowed w hw
    have htakes : w.argument.takesValue = false := by
      have hall : ∀ a ∈ Scope.program.settable, a.takesValue = false := by decide
      exact hall _ harg
    have hname : w.name ≠ "--" := by simpa using name_append_ne (hws.proper w hw) ""
    obtain ⟨given₁, hdashed⟩ :=
      dashed?_flag (ws.flatMap Written.words ++ more) (holds_mk _ done given) harg
        (hws.proper w hw) htakes hws.not_mem
    have hrest : Arranged Scope.program.settable (done ++ [w] ++ ws) := by simpa using hws
    -- The rest is read with this flag among what is done.
    obtain ⟨given', hmore⟩ := ih given₁ hrest
    refine ⟨given', ?_⟩
    rw [List.append_assoc, List.singleton_append] at hmore
    rw [← hmore, List.flatMap_cons, Written.words, htakes, if_neg (by decide),
      List.singleton_append, List.cons_append, readProgram.eq_def]
    simp only [command?_name w, if_neg hname, hdashed]
    rfl

/-! ## Variables -/

/-- The variable of an argument is looked at unless the argument was given. -/
theorem readVariables_cons (env : Environment) (r : Reading) (b : Argument) (as : List Argument)
    (h : r.settings.has b = false → ∀ t, env.text? b = some t → ∃ v, b.read t = .ok v) :
    ∃ r', readVariables env r (b :: as) = readVariables env r' as ∧ ∀ a, r'.settings a =
      (r.settings a).or (if a = b then env.value? a else none) := by
  rw [readVariables]
  cases htext : env.text? b with
  | none =>
    have hbind : b.envName?.bind env = none := htext
    refine ⟨r, by rw [hbind], fun a => ?_⟩
    split
    next hab => simp [hab, Environment.value?, htext]
    next => exact Option.or_none.symm
  | some t =>
    have hbind : b.envName?.bind env = some t := htext
    simp only [hbind]
    cases hgiven : r.settings.has b with
    | true =>
      obtain ⟨v, hv⟩ := Option.isSome_iff_exists.mp hgiven
      refine ⟨r, rfl, fun a => ?_⟩
      split
      next hab => rw [hab, hv, Option.some_or]
      next => exact Option.or_none.symm
    | false =>
      -- Only here the text is read, so only here it has to be valid.
      obtain ⟨v, hv⟩ := h hgiven t htext
      have hnone : r.settings b = none := by simpa [Settings.has] using hgiven
      have hgive : r.give b t = .ok { r with
          settings := r.settings.insert b v, given := r.given ++ [b] } := by
        simp [Reading.give, hgiven, hv]
      refine ⟨_, by rw [hgive]; rfl, fun a => ?_⟩
      split
      next hab =>
        subst hab
        simp [hnone, Environment.value?, htext, hv, Settings.insert_self, Except.toOption]
      next hab => simp [Settings.insert_of_ne _ _ (Ne.symm hab)]

/-- All variables that are looked at, one after the other. -/
theorem readVariables_settings (env : Environment) (r : Reading) (as : List Argument)
    (h : ∀ a ∈ as, r.settings.has a = false → ∀ t, env.text? a = some t → ∃ v, a.read t = .ok v) :
    ∃ r', readVariables env r as = .ok r' ∧ ∀ a, r'.settings a =
      (r.settings a).or (if a ∈ as then env.value? a else none) := by
  induction as generalizing r with
  | nil => exact ⟨r, rfl, by simp⟩
  | cons b as ih =>
    obtain ⟨r₁, hfirst, hsettings₁⟩ := readVariables_cons env r b as (h b List.mem_cons_self)
    have hkept {a : Argument} (ha : r₁.settings.has a = false) : r.settings.has a = false := by
      rw [Settings.has, hsettings₁, Option.isSome_or, Bool.or_eq_false_iff] at ha
      exact ha.1
    -- The remaining variables are read with what the first one left open.
    obtain ⟨r', hread, hsettings⟩ := ih r₁ fun a ha hnot =>
      h a (List.mem_cons_of_mem b ha) (hkept hnot)
    refine ⟨r', hfirst.trans hread, fun a => ?_⟩
    rw [hsettings, hsettings₁, Option.or_assoc]
    by_cases hab : a = b
    · subst hab
      by_cases ha : a ∈ as <;> simp [ha]
    · simp [hab]

end

/-! ## The whole command line -/

section

open Reading

variable {env : Environment} {c : Scope} {after : List Written}

/-- The end of the arguments of a command. -/
theorem finish_settings {r : Reading} (h : r.Holds c after)
    (once : (after.map Written.argument).Nodup)
    (henv : ∀ a ∈ c.ownArguments, a ∉ after.map Written.argument →
      ∀ t, env.text? a = some t → ∃ v, a.read t = .ok v) :
    ∃ s, r.finish env = .ok s ∧ ∀ a, s a =
      (Settings.ofWritten after a).or (if a ∈ c.ownArguments then env.value? a else none) := by
  obtain ⟨given, hresolve⟩ := h.resolve
  -- The variables come last, and only for arguments that no word has set.
  obtain ⟨r', hread, hsettings⟩ :=
    readVariables_settings env ⟨c, .ofWritten after, given, none⟩ c.ownArguments
      fun a ha hnot => henv a ha fun hmem => by
        rw [Settings.has_ofWritten after a once, decide_eq_true hmem] at hnot
        cases hnot
  refine ⟨r'.settings, ?_, hsettings⟩
  rw [Reading.finish, hresolve, h.scope]
  simp only [bind, Except.bind, hread]
  rfl

/-- The settings of a command are its options' values, or else the defaults. -/
theorem setting_invocation (outer inner : Settings) (hc : c = .discover ∨ c = .monitor)
    {a : Argument} (ha : a ∈ c.ownArguments) :
    (invocation outer inner c).setting a = (inner a).getD a.standard := by
  rcases hc with rfl | rfl
  · cases a <;> first | rfl | simp [Scope.ownArguments] at ha
  · cases a <;> rfl

/-- The command is followed by its own arguments. -/
theorem readProgram_command (hc : c = .discover ∨ c = .monitor) (r : Reading)
    (more : List String) :
    readProgram env r (c.word :: more) = do
      let inner ← readCommand env { scope := c } more
      return invocation r.settings inner c := by
  rw [readProgram.eq_def]
  rcases hc with rfl | rfl <;> rfl

/-- What a command line comes to, however the arguments of the command were read. -/
theorem parse_of_holds (hc : c = .discover ∨ c = .monitor) {before : List Written}
    (hbefore : Arranged Scope.program.settable before) {words : List String} {r : Reading}
    (hholds : r.Holds c after) (hwords : readCommand env { scope := c } words = r.finish env)
    (once : (after.map Written.argument).Nodup)
    (henv : ∀ a ∈ c.ownArguments, a ∉ after.map Written.argument →
      ∀ t, env.text? a = some t → ∃ v, a.read t = .ok v) :
    ∃ inner, parse env (before.flatMap Written.words ++ c.word :: words) =
        .ok (invocation (.ofWritten before) inner c) ∧
      ∀ a, inner a =
        (Settings.ofWritten after a).or (if a ∈ c.ownArguments then env.value? a else none) := by
  have hfront : Arranged Scope.program.settable ([] ++ before) := hbefore
  obtain ⟨given, hprogram⟩ := readProgram_flatMap env (c.word :: words) [] hfront
  obtain ⟨inner, hfinish, hinner⟩ := finish_settings hholds once henv
  refine ⟨inner, hprogram.trans ?_, hinner⟩
  rw [readProgram_command hc, hwords, hfinish]
  rfl

/-- What a command line of arguments comes to. -/
theorem parse_words (hc : c = .discover ∨ c = .monitor) {before : List Written}
    (hbefore : Arranged Scope.program.settable before) (hafter : Arranged c.settable after)
    (henv : ∀ a ∈ c.ownArguments, a ∉ after.map Written.argument →
      ∀ t, env.text? a = some t → ∃ v, a.read t = .ok v) :
    ∃ inner, parse env (before.flatMap Written.words ++ c.word :: after.flatMap Written.words) =
        .ok (invocation (.ofWritten before) inner c) ∧
      ∀ a, inner a =
        (Settings.ofWritten after a).or (if a ∈ c.ownArguments then env.value? a else none) := by
  have hback : Arranged c.settable ([] ++ after) := hafter
  obtain ⟨r', hholds, hcommand⟩ := readCommand_flatMap env [] (holds_mk c [] []) hback
  rw [List.append_nil] at hcommand
  exact parse_of_holds hc hbefore hholds (hcommand.trans (readCommand.eq_def ..)) hafter.once henv

/-- A command line of arguments of a command is understood, and an option has the value that is
written, or else the value that its variable gives, or else its default, however the arguments are
written and arranged, and whatever the other variables hold. -/
theorem values_by_precedence (hc : c = .discover ∨ c = .monitor) {before : List Written}
    (hbefore : Arranged Scope.program.settable before) (hafter : Arranged c.settable after)
    (henv : ∀ a ∈ c.ownArguments, a ∉ after.map Written.argument →
      ∀ t, env.text? a = some t → ∃ v, a.read t = .ok v) :
    ∃ i, parse env (before.flatMap Written.words ++ c.word :: after.flatMap Written.words) = .ok i ∧
      ((∃ o q, i.command = .monitor o q) ↔ c = .monitor) ∧
      (∀ w ∈ after, i.setting w.argument = w.value) ∧
      (∀ a ∈ c.ownArguments, a ∉ after.map Written.argument →
        (∀ v, a.Allows v → env.text? a = some (a.plain v) → i.setting a = v) ∧
        (∀ t, env.text? a = some t → a.read t = .ok (i.setting a)) ∧
        (env.text? a = none → i.setting a = a.standard)) ∧
      i.command.quietLoss = decide (.quietLoss ∈ after.map Written.argument) ∧
      i.json = decide (.json ∈ (before ++ after).map Written.argument) ∧
      i.verbose = decide (.verbose ∈ (before ++ after).map Written.argument) := by
  obtain ⟨inner, hparse, hinner⟩ := parse_words hc hbefore hafter henv
  have hgiven {w : Written} (hw : w ∈ after) : inner w.argument = some w.value := by
    rw [hinner, Settings.ofWritten_of_mem hw hafter.once, Option.some_or]
  have hhas {a : Argument} (ha : a ∈ [.quietLoss, .json, .verbose]) :
      inner.has a = decide (a ∈ after.map Written.argument) := by
    have hvariable : env.value? a = none := by
      simp only [List.mem_cons, List.not_mem_nil, or_false] at ha
      rcases ha with rfl | rfl | rfl <;> rfl
    rw [← Settings.has_ofWritten after a hafter.once, Settings.has, hinner, Settings.has,
      hvariable, ite_self, Option.or_none]
  refine ⟨_, hparse, ?_, fun w hw => ?_, fun a ha hnot => ?_, ?_, ?_, ?_⟩
  · rcases hc with rfl | rfl <;> simp [invocation]
  · rcases List.mem_append.mp (hafter.allowed w hw) with hown | hflag
    · rw [setting_invocation _ _ hc hown, hgiven hw, Option.getD_some]
    · -- A flag sets nothing but itself.
      obtain ⟨a, v, _, _⟩ := w
      simp only [List.mem_cons, List.not_mem_nil, or_false] at hflag
      rcases hflag with rfl | rfl <;> rfl
  · have hsetting := setting_invocation (.ofWritten before) inner hc ha
    rw [hinner, Settings.ofWritten_of_not_mem hnot, Option.none_or, if_pos ha] at hsetting
    refine ⟨fun v hv htext => ?_, fun t htext => ?_, fun htext => ?_⟩
    · rw [hsetting, Environment.value?, htext]
      simp [Argument.read_plain hv, Except.toOption]
    · obtain ⟨v, hv⟩ := henv a ha hnot t htext
      rw [hsetting, Environment.value?, htext, hv]
      simp [hv, Except.toOption]
    · rw [hsetting, Environment.value?, htext]
      rfl
  · rcases hc with rfl | rfl
    · -- Looking for devices has no such flag.
      have hnot : Argument.quietLoss ∉ after.map Written.argument := fun hmem => by
        obtain ⟨w, hw, hargument⟩ := List.mem_map.mp hmem
        have hallowed := hafter.allowed w hw
        rw [hargument] at hallowed
        revert hallowed
        decide
      exact (decide_eq_false hnot).symm
    · exact hhas (by decide)
  · simp only [invocation, hhas (a := .json) (by decide), List.map_append, List.mem_append,
      Settings.has_ofWritten _ _ hbefore.once, Bool.decide_or]
  · simp only [invocation, hhas (a := .verbose) (by decide), List.map_append, List.mem_append,
      Settings.has_ofWritten _ _ hbefore.once, Bool.decide_or]

/-- The port is given, so its variable may hold anything. The budget comes from its variable. -/
theorem values_by_precedence_of_port :
    ∃ i, parse (fun name => if name = "FSA_DISCOVERY_PORT" then some "none" else
          if name = "FSA_MAX_PROBES" then some "007" else none)
        ["--json", "monitor", "-q", "--port=99", "-b", "10.0.0.1"] = .ok i ∧
      i.setting .port = (99 : UInt16) ∧ i.setting .maxProbes = (7 : UInt64) ∧
      i.setting .broadcast = .v4 10 0 0 1 ∧ i.setting .v2Port = (2335 : UInt16) ∧
      i.command.quietLoss = true ∧ i.json = true ∧ i.verbose = false := by
  obtain ⟨i, hparse, -, hgiven, hnot, hquiet, hjson, hverbose⟩ :=
    @values_by_precedence
      (fun name => if name = "FSA_DISCOVERY_PORT" then some "none" else
        if name = "FSA_MAX_PROBES" then some "007" else none)
      .monitor
      [⟨.quietLoss, (), true, .apart⟩, ⟨.port, (99 : UInt16), false, .equals⟩,
        ⟨.broadcast, .v4 10 0 0 1, true, .apart⟩]
      (.inr rfl)
      [⟨.json, (), false, .apart⟩]
      ⟨by simpa using ⟨trivial, by decide, by decide, by decide⟩, by decide, by decide⟩
      ⟨by simpa using ⟨⟨trivial, by decide, by decide, by decide⟩,
          ⟨trivial, by decide, by decide, by decide⟩, ⟨trivial, by decide, by decide, by decide⟩⟩,
        by decide, by decide⟩
      (fun a ha hnot t ht => by
        cases a with
        | maxProbes =>
          obtain rfl : "007" = t := Option.some.inj ht
          exact ⟨(7 : UInt64), rfl⟩
        | port => exact absurd (by decide) hnot
        | _ => cases ht)
  -- The port is written, the number of probes comes from its variable, and the rest is left to the
  -- defaults.
  refine ⟨i, ?_, hgiven ⟨.port, (99 : UInt16), false, .equals⟩ (by simp), ?_,
    hgiven ⟨.broadcast, .v4 10 0 0 1, true, .apart⟩ (by simp), ?_, hquiet, hjson, hverbose⟩
  · exact hparse
  · have hread : .ok (7 : UInt64) = Except.ok (i.setting .maxProbes) :=
      (hnot .maxProbes (by decide) (by decide)).2.1 "007" rfl
    exact (Except.ok.inj hread).symm
  · exact (hnot .v2Port (by decide) (by decide)).2.2 rfl

end

end LossProbe.CommandLine
