import Mathlib.Data.List.Forall2
import LossProbe.Command
import LossProbe.Proofs.ClockReadings

/-!
# Muted reports

A command that mutes the reports of single losses does what one does that prints them, and writes
the same, but for one log line in the place of each report that is muted
(`muting_replaces_loss_reports`). Two runs go side by side, event by event: with the same clock one
is the other with its loss reports muted (`Showing.step_muted`), and with another clock both differ
in dates alone (`Showing.Alike.step`).
-/

namespace LossProbe

/-! ## Runs that are shown -/

/-- What the clock says at each step: when its datagram came, if one did, and when what the step
did was written. -/
structure Clock where
  arrival : Nat → Timestamp
  writing : Nat → Timestamp

/-- A schedule with the times at which its datagrams come, where `first` counts its steps. -/
def Clock.dated (clock : Clock) (first : Nat) (es : List Monitor.Event) : List Monitor.Event :=
  (es.zipIdx first).map fun (e, n) => e.dated (clock.arrival n)

namespace Console

/-- What is written for a trace, each line with what it is about. -/
def lines (c : Console) (now : Timestamp) (t : Trace) : List (Trace.Entry × Output) :=
  t.filterMap fun e => (c.output? now e).map fun o => (e, o)

/-- The lines that are written are the outputs of the console. -/
theorem map_snd_lines (c : Console) (now : Timestamp) (t : Trace) :
    (c.lines now t).map Prod.snd = c.outputs now t := by
  simp [lines, outputs, List.map_filterMap, Function.comp_def]

end Console

/-- A command under way, with what it did so far and what was written about it. -/
structure Showing where
  monitor : Monitor
  steps : Nat
  trace : Trace
  written : List (Trace.Entry × Console.Output)

namespace Showing

/-- Go on by one event, and write what it led to. -/
def step (c : Console) (clock : Clock) (s : Showing) (e : Monitor.Event) : Showing :=
  let (m, t) := s.monitor.step (e.dated (clock.arrival s.steps))
  ⟨m, s.steps + 1, s.trace ++ t, s.written ++ c.lines (clock.writing s.steps) t⟩

/-- What was written. -/
def outputs (s : Showing) : List Console.Output := s.written.map Prod.snd

/-- The printed texts. -/
def printed (s : Showing) : List String := Console.printed s.outputs

/-- The log entries that were written. -/
def logged (s : Showing) : List Log.Event := Console.logged s.outputs

/-- A step writes what the console makes of its trace. -/
theorem outputs_step (c : Console) (clock : Clock) (s : Showing) (e : Monitor.Event) :
    (s.step c clock e).outputs = s.outputs ++ c.outputs (clock.writing s.steps)
      (s.monitor.step (e.dated (clock.arrival s.steps))).2 := by
  simp [outputs, step, Console.map_snd_lines]

/-- What is done is a run of the monitor by the dated schedule, whatever is written. -/
theorem foldl_step (c : Console) (clock : Clock) (s : Showing) (es : List Monitor.Event) :
    (es.foldl (step c clock) s).monitor = (s.monitor.run (clock.dated s.steps es)).1 ∧
      (es.foldl (step c clock) s).trace =
        s.trace ++ (s.monitor.run (clock.dated s.steps es)).2 := by
  induction es generalizing s with
  | nil => exact ⟨rfl, (List.append_nil _).symm⟩
  | cons e es ih =>
    obtain ⟨hmonitor, htrace⟩ := ih (s.step c clock e)
    refine ⟨hmonitor, htrace.trans ?_⟩
    simp only [step, List.append_assoc]
    rfl

end Showing

/-- Go through a command by a schedule of events, where opening the socket and sending the request
came to the given results. -/
def Invocation.showing (i : Invocation) (colors : Bool) (clock : Clock)
    (socket sent : Except IoError Unit) (es : List Monitor.Event) : Showing :=
  let (m, t) := Monitor.start i.command.options false socket sent
  es.foldl (Showing.step (i.console colors) clock)
    ⟨m, 1, t, (i.console colors).lines (clock.writing 0) t⟩

/-! ## Muting -/

/-- Whether an entry is the report of a single loss. -/
def Trace.Entry.isLossReport : Trace.Entry → Bool
  | .report h _ => h.isLossEvent
  | _ => false

namespace Console

/-- Replace the report of a single loss by a log entry. -/
def mute : Trace.Entry × Output → Trace.Entry × Output
  | (.report h r, o) => (.report h r, if h.isLossEvent then .log (.mutedReport h) else o)
  | line => line

/-- A quiet console writes what a loud one writes, with the reports of single losses muted. -/
theorem lines_quiet (json colors : Bool) (now : Timestamp) (t : Trace) :
    Console.lines ⟨json, colors, true⟩ now t =
      (Console.lines ⟨json, colors, false⟩ now t).map mute := by
  rw [lines, lines, List.map_filterMap]
  refine List.filterMap_congr fun e _ => ?_
  cases e with
  | report h r =>
    cases hloss : h.isLossEvent <;>
      simp [output?, render?, isMuted, mute, hloss, format]
  | _ => rfl

/-- What was printed about everything but single losses. -/
def printedOfOthers (lines : List (Trace.Entry × Output)) : List String :=
  printed ((lines.filter fun x => !x.1.isLossReport).map Prod.snd)

/-- What is printed after muting is what is printed about everything else. -/
theorem printed_mute (lines : List (Trace.Entry × Output)) :
    printed ((lines.map mute).map Prod.snd) = printedOfOthers lines := by
  unfold printedOfOthers
  induction lines with
  | nil => rfl
  | cons line lines ih =>
    obtain ⟨e, o⟩ := line
    have hcons (x : Output) (os : List Output) : printed (x :: os) = printed [x] ++ printed os := by
      cases x <;> rfl
    rw [List.map_cons, List.map_cons, hcons, ih]
    -- A report of a loss is printed no more, and any other line stays as it was.
    cases hloss : e.isLossReport with
    | true =>
      have hmuted : printed [(mute (e, o)).2] = [] := by
        cases e with
        | report h r => simp [mute, show h.isLossEvent = true from hloss, printed]
        | _ => cases hloss
      simp [hloss, hmuted]
    | false =>
      have hkept : (mute (e, o)).2 = o := by
        cases e with
        | report h r => simp [mute, show h.isLossEvent = false from hloss]
        | _ => rfl
      rw [hkept, List.filter_cons_of_pos (by simp [hloss]), List.map_cons, ← hcons]

end Console

namespace Showing

/-- The same with all reports of single losses muted. -/
def muted (s : Showing) : Showing := { s with written := s.written.map Console.mute }

/-- A quiet step does what a loud one does, with its reports muted. -/
theorem step_muted (json colors : Bool) (clock : Clock) (s : Showing) (e : Monitor.Event) :
    s.muted.step ⟨json, colors, true⟩ clock e = (s.step ⟨json, colors, false⟩ clock e).muted := by
  simp [step, muted, Console.lines_quiet]

end Showing

/-- A quiet run is a loud one with its loss reports muted. -/
theorem Invocation.showing_quiet (o : Monitor.Options) (json verbose colors : Bool) (clock : Clock)
    (socket sent : Except IoError Unit) (es : List Monitor.Event) :
    (Invocation.mk json verbose (.monitor o true)).showing colors clock socket sent es =
      ((Invocation.mk json verbose (.monitor o false)).showing colors clock socket sent es).muted := by
  have hrun (s : Showing) : es.foldl (Showing.step ⟨json, colors, true⟩ clock) s.muted =
      (es.foldl (Showing.step ⟨json, colors, false⟩ clock) s).muted :=
    List.foldl_hom Showing.muted (Showing.step_muted json colors clock)
  simp only [showing, console, Command.quietLoss, Command.options, Console.lines_quiet]
  exact hrun ⟨_, _, _, _⟩

/-! ## Printed reports -/

/-- These texts are the reports, each of them once and in their order. -/
abbrev Console.Prints (c : Console) (clock : Clock) (reports : List (Heading × Registry))
    (texts : List String) : Prop :=
  List.Forall₂ (fun report text =>
    ∃ n, text = c.format report.1 (.ofRegistry (clock.writing n) report.2)) reports texts

/-- A console that mutes nothing prints every report of a trace. -/
theorem Console.prints_outputs {c : Console} (loud : c.quietLoss = false) (clock : Clock) (n : Nat)
    (t : Trace) : c.Prints clock t.reports (printed (c.outputs (clock.writing n) t)) := by
  induction t with
  | nil => exact .nil
  | cons e t ih =>
    cases e with
    | sending s => exact ih
    | log e => exact ih
    | report h r =>
      -- Only a report prints a text here, and exactly one.
      have hprint : c.output? (clock.writing n) (.report h r) =
          some (.print (c.format h (.ofRegistry (clock.writing n) r))) := by
        simp [output?, render?, isMuted, loud]
      rw [outputs, List.filterMap_cons_some hprint]
      exact .cons ⟨n, rfl⟩ ih

/-- Where all reports were printed so far, those of the next step are printed after them. -/
theorem Showing.prints_step {c : Console} (loud : c.quietLoss = false) (clock : Clock)
    {s : Showing} (h : c.Prints clock s.trace.reports s.printed) (e : Monitor.Event) :
    c.Prints clock (s.step c clock e).trace.reports (s.step c clock e).printed := by
  have hnew := Console.prints_outputs loud clock s.steps
    (s.monitor.step (e.dated (clock.arrival s.steps))).2
  have hprinted : (s.step c clock e).printed = s.printed ++ Console.printed
      (c.outputs (clock.writing s.steps) (s.monitor.step (e.dated (clock.arrival s.steps))).2) := by
    rw [printed, outputs_step, Console.printed, List.filterMap_append]
    rfl
  rw [hprinted, Showing.step, Trace.reports_append]
  exact List.rel_append h hnew

/-- A command that mutes nothing prints each of its reports once. -/
theorem Invocation.prints_showing (i : Invocation) (colors : Bool)
    (loud : (i.console colors).quietLoss = false) (clock : Clock)
    (socket sent : Except IoError Unit) (es : List Monitor.Event) :
    (i.console colors).Prints clock (i.showing colors clock socket sent es).trace.reports
      (i.showing colors clock socket sent es).printed := by
  have hrun {s : Showing} (h : (i.console colors).Prints clock s.trace.reports s.printed) :
      (i.console colors).Prints clock
        (es.foldl (Showing.step (i.console colors) clock) s).trace.reports
        (es.foldl (Showing.step (i.console colors) clock) s).printed := by
    induction es generalizing s with
    | nil => exact h
    | cons e es ih => exact ih (Showing.prints_step loud clock h e)
  apply hrun
  -- The reports of the beginning are printed before the first step.
  rw [Showing.printed, Showing.outputs, Console.map_snd_lines]
  exact Console.prints_outputs loud clock 0 _

/-! ## Dates -/

/-- The same texts but for dates in quotes. -/
inductive SameButDates : List Char → List Char → Prop
  | refl (cs : List Char) : SameButDates cs cs
  | date (t t' : Timestamp) :
    SameButDates (Json.stringChars (toString t)) (Json.stringChars (toString t'))
  | append {cs cs' ds ds' : List Char} (h : SameButDates cs cs') (h' : SameButDates ds ds') :
    SameButDates (cs ++ ds) (cs' ++ ds')

/-- A character in front does not matter to dates. -/
theorem SameButDates.cons {cs ds : List Char} (c : Char) (h : SameButDates cs ds) :
    SameButDates (c :: cs) (c :: ds) :=
  .append (.refl [c]) h

namespace Json

/-- Members of the same names. -/
theorem sameButDates_memberChars {ms ms' : List (String × Json)}
    (h : List.Forall₂ (fun m m' => m.1 = m'.1 ∧ SameButDates m.2.chars m'.2.chars) ms ms') :
    SameButDates (memberChars ms) (memberChars ms') := by
  induction h with
  | nil => exact .refl _
  | @cons m m' more more' hm hmore ih =>
    obtain ⟨hname, hvalue⟩ := hm
    have hfirst : SameButDates (stringChars m.1 ++ ':' :: m.2.chars)
        (stringChars m'.1 ++ ':' :: m'.2.chars) := hname ▸ .append (.refl _) (.cons _ hvalue)
    -- A comma stands between two members and none behind the last.
    cases hmore with
    | nil => simpa only [memberChars] using hfirst
    | cons => simpa only [memberChars] using .append hfirst (.cons ',' ih)

/-- Items of the same texts. -/
theorem sameButDates_itemChars {vs vs' : List Json}
    (h : List.Forall₂ (fun v v' => SameButDates v.chars v'.chars) vs vs') :
    SameButDates (itemChars vs) (itemChars vs') := by
  induction h with
  | nil => exact .refl _
  | @cons v v' more more' hv hmore ih =>
    cases hmore with
    | nil => simpa only [itemChars] using hv
    | cons => simpa only [itemChars] using .append hv (.cons ',' ih)

end Json

/-! ## Reports without dates -/

section

variable {r r' : Registry}

/-- Registries that are the same but for dates list the same devices, one by one. -/
theorem Registry.forall₂_list (h : r.undated = r'.undated) (v : Version) :
    List.Forall₂ (fun d d' => d.undated = d'.undated) (r.list v) (r'.list v) := by
  have hmap : (r.list v).map Device.undated = (r'.list v).map Device.undated := by
    rw [← Registry.list_undated, ← Registry.list_undated, h]
  rwa [← List.forall₂_eq_eq_eq, List.forall₂_map_left_iff, List.forall₂_map_right_iff] at hmap

/-- Two tables of the same devices are the same. -/
theorem TableReport.render_eq (h : r.undated = r'.undated) (colors : Bool) (heading : Heading)
    (now now' : Timestamp) :
    render colors heading (.ofRegistry now r) = render colors heading (.ofRegistry now' r') := by
  -- A table shows no date, so both renderings are that of the undated list.
  have hundated (r : Registry) (now : Timestamp) :
      render colors heading (.ofRegistry now r) =
        render colors heading (.ofRegistry .epoch r.undated) := by
    have hsection (v : Version) (ds : List Device) :
        sectionLines colors v ((ds.map Device.undated).map Device.snapshot) =
          sectionLines colors v (ds.map Device.snapshot) := by
      simp only [sectionLines, label, grid, List.map_map, List.length_map, List.isEmpty_map]
      rfl
    simp only [render, lines, Summary.ofRegistry, Summary.isEmpty, Registry.list_undated,
      Registry.size_undated, hsection]
    rfl
  rw [hundated r, hundated r', h]

/-- A device's object tells only one date. -/
theorem JsonReport.sameButDates_device {d d' : Device} (h : d.undated = d'.undated) :
    SameButDates (device d.snapshot).chars (device d'.snapshot).chars := by
  obtain ⟨ip, version, found, stats⟩ := d
  obtain ⟨ip', version', found', stats'⟩ := d'
  obtain ⟨rfl, rfl, rfl⟩ : ip = ip' ∧ version = version' ∧ stats = stats' := by
    simpa [Device.undated] using h
  have hdate : SameButDates found.toJson.chars found'.toJson.chars := .date found found'
  -- The date of discovery is the third member, and all others are the same texts.
  refine .append (.cons _ (Json.sameButDates_memberChars ?_)) (.refl _)
  have hsame (m : String × Json) : m.1 = m.1 ∧ SameButDates m.2.chars m.2.chars := ⟨rfl, .refl _⟩
  exact .cons (hsame _) <| .cons (hsame _) <| .cons ⟨rfl, hdate⟩ <| .cons (hsame _) <|
    .cons (hsame _) <| .cons (hsame _) <| .cons (hsame _) .nil

/-- Two lines about the same devices differ in dates. -/
theorem JsonReport.sameButDates_render (h : r.undated = r'.undated) (heading : Heading)
    (now now' : Timestamp) :
    SameButDates (render heading (.ofRegistry now r)).toList
      (render heading (.ofRegistry now' r')).toList := by
  have hdevices (v : Version) :
      SameButDates (Json.array (((r.list v).map Device.snapshot).map device)).chars
        (Json.array (((r'.list v).map Device.snapshot).map device)).chars := by
    refine .append (.cons _ (Json.sameButDates_itemChars ?_)) (.refl _)
    simp only [List.forall₂_map_left_iff, List.forall₂_map_right_iff]
    exact (Registry.forall₂_list h v).imp fun d d' hd => sameButDates_device hd
  have hsize : r.size = r'.size := by rw [← r.size_undated, h, r'.size_undated]
  have hdate : SameButDates now.toJson.chars now'.toJson.chars := .date now now'
  have hsummary : SameButDates (summary (.ofRegistry now r)).chars
      (summary (.ofRegistry now' r')).chars := by
    refine .append (.cons _ (Json.sameButDates_memberChars ?_)) (.refl _)
    exact .cons ⟨rfl, by rw [Summary.ofRegistry, Summary.ofRegistry, hsize]; exact .refl _⟩ <|
      .cons ⟨rfl, hdate⟩ <| .cons ⟨rfl, hdevices .v2⟩ <| .cons ⟨rfl, hdevices .v3⟩ .nil
  -- All other members are the same in both lines.
  have hsame (m : String × Json) : m.1 = m.1 ∧ SameButDates m.2.chars m.2.chars := ⟨rfl, .refl _⟩
  simp only [render, Json.write, String.toList_ofList]
  refine .append (.cons _ (Json.sameButDates_memberChars ?_)) (.refl _)
  exact .cons (hsame _) <| .cons (hsame _) <| .cons ⟨rfl, hsummary⟩ .nil

namespace Console

/-- Lines that are the same but for dates. -/
inductive Output.Alike : Output → Output → Prop
  | log (e : Log.Event) : Alike (.log e) (.log e)
  | print {s s' : String} (h : SameButDates s.toList s'.toList) : Alike (.print s) (.print s')

/-- Two texts about the same devices differ in dates, in either format. -/
theorem format_alike (c : Console) (h : r.undated = r'.undated) (heading : Heading)
    (now now' : Timestamp) :
    SameButDates (c.format heading (.ofRegistry now r)).toList
      (c.format heading (.ofRegistry now' r')).toList := by
  unfold format
  split
  · exact JsonReport.sameButDates_render h heading now now'
  · rw [TableReport.render_eq h c.colors heading now now']
    exact .refl _

/-- About the same entry the same is written but for dates, or nothing. -/
theorem output?_alike (c : Console) (now now' : Timestamp) {e e' : Trace.Entry}
    (h : e.undated = e'.undated) :
    Option.Rel Output.Alike (c.output? now e) (c.output? now' e') := by
  cases e with
  | sending s => cases e' <;> cases h; exact .none
  | log e => cases e' <;> cases h; exact .some (.log e)
  | report heading r =>
    cases e' with
    | report heading' r' =>
      obtain ⟨rfl, hr⟩ := Trace.Entry.report.inj h
      -- Whether a report is muted is decided by its heading, which has no date.
      cases hmuted : c.isMuted heading with
      | true =>
        simp only [output?, render?, hmuted, if_true]
        exact .some (.log _)
      | false =>
        simp only [output?, render?, hmuted]
        exact .some (.print (c.format_alike hr heading now now'))
    | _ => cases h

/-- What is written about the same things. -/
theorem lines_alike (c : Console) (now now' : Timestamp) {t t' : Trace}
    (h : t.undated = t'.undated) :
    List.Forall₂ (fun x y => x.1.undated = y.1.undated ∧ x.2.Alike y.2)
      (c.lines now t) (c.lines now' t') := by
  have hentries : List.Forall₂ (fun e e' => e.undated = e'.undated) t t' := by
    rwa [Trace.undated, Trace.undated, ← List.forall₂_eq_eq_eq, List.forall₂_map_left_iff,
      List.forall₂_map_right_iff] at h
  clear h
  -- Of two entries that are the same but for dates, both are written or neither is.
  induction hentries with
  | nil => exact .nil
  | @cons e e' t t' he _ ih =>
    have hrel := c.output?_alike now now' he
    simp only [lines, List.filterMap_cons]
    cases ho : c.output? now e with
    | none =>
      cases ho' : c.output? now' e' with
      | none => exact ih
      | some o' => rw [ho, ho'] at hrel; cases hrel
    | some o =>
      cases ho' : c.output? now' e' with
      | none => rw [ho, ho'] at hrel; cases hrel
      | some o' =>
        rw [ho, ho'] at hrel
        cases hrel with
        | some halike => exact .cons ⟨he, halike⟩ ih

/-- Alike lines print texts that differ in dates, and log the same. -/
theorem printed_alike {os os' : List Output} (h : List.Forall₂ Output.Alike os os') :
    List.Forall₂ (fun s s' => SameButDates s.toList s'.toList) (printed os) (printed os') ∧
      logged os = logged os' := by
  induction h with
  | nil => exact ⟨.nil, rfl⟩
  | cons ho _ ih =>
    cases ho with
    | log e => exact ⟨ih.1, congrArg (e :: ·) ih.2⟩
    | print htext => exact ⟨.cons htext ih.1, ih.2⟩

end Console

end

namespace Showing

/-- Runs that are the same but for dates. -/
structure Alike (s s' : Showing) : Prop where
  monitor : s.monitor.undated = s'.monitor.undated
  steps : s.steps = s'.steps
  trace : s.trace.undated = s'.trace.undated
  written : List.Forall₂ (fun x y => x.1.undated = y.1.undated ∧ x.2.Alike y.2)
    s.written s'.written

/-- One event leads alike runs to alike runs, whatever the clocks say. -/
theorem Alike.step {s s' : Showing} (h : Alike s s') (c : Console) (clock clock' : Clock)
    (e : Monitor.Event) : Alike (s.step c clock e) (s'.step c clock' e) := by
  have hdated (now : Timestamp) : (e.dated now).dated .epoch = e.dated .epoch := by
    cases e with
    | discovery e => cases e <;> rfl
    | _ => rfl
  -- Both steps come to that of the event without its date.
  have hstep := s.monitor.step_undated (e.dated (clock.arrival s.steps))
  have hstep' := s'.monitor.step_undated (e.dated (clock'.arrival s'.steps))
  rw [hdated] at hstep hstep'
  rw [h.monitor, hstep'] at hstep
  have hmonitor : (s'.monitor.step (e.dated (clock'.arrival s'.steps))).1.undated =
      (s.monitor.step (e.dated (clock.arrival s.steps))).1.undated := congrArg Prod.fst hstep
  have htrace : (s'.monitor.step (e.dated (clock'.arrival s'.steps))).2.undated =
      (s.monitor.step (e.dated (clock.arrival s.steps))).2.undated := congrArg Prod.snd hstep
  exact {
    monitor := hmonitor.symm
    steps := congrArg (· + 1) h.steps
    trace := by simp only [Showing.step, Trace.undated_append, h.trace, htrace]
    written := List.rel_append h.written (c.lines_alike _ _ htrace.symm) }

end Showing

/-- With another clock, only dates differ. -/
theorem Invocation.showing_alike (i : Invocation) (colors : Bool) (clock clock' : Clock)
    (socket sent : Except IoError Unit) (es : List Monitor.Event) :
    (i.showing colors clock socket sent es).Alike (i.showing colors clock' socket sent es) := by
  have hrun {s s' : Showing} (h : s.Alike s') :
      (es.foldl (Showing.step (i.console colors) clock) s).Alike
        (es.foldl (Showing.step (i.console colors) clock') s') := by
    induction es generalizing s s' with
    | nil => exact h
    | cons e es ih => exact ih (h.step _ _ _ e)
  exact hrun ⟨rfl, rfl, rfl, Console.lines_alike _ _ _ rfl⟩

/-- The result of a command has no dates in it. -/
theorem Command.result_undated (m : Monitor) : Command.result m.undated = Command.result m := by
  obtain ⟨o, early, stage⟩ := m
  cases stage with
  | discovered r => simp [Command.result, Monitor.undated, Monitor.Stage.undated, discoverResult]
  | done result => cases result <;> rfl
  | _ => rfl

/-- Muting the reports of single losses changes nothing that is done. Without it every report is
printed once, in order. With it, by the same clock, what is written is the same but for one log
entry in the place of each report of a loss, and by another clock this is so but for dates. -/
theorem Invocation.muting_replaces_loss_reports (o : Monitor.Options) (json verbose colors : Bool)
    (clock clock' : Clock) (socket sent : Except IoError Unit) (es : List Monitor.Event) :
    let loud := (Invocation.mk json verbose (.monitor o false)).showing colors clock socket sent es
    let quiet := (Invocation.mk json verbose (.monitor o true)).showing colors clock socket sent es
    let other := (Invocation.mk json verbose (.monitor o true)).showing colors clock' socket sent es
    Console.Prints ⟨json, colors, false⟩ clock loud.trace.reports loud.printed ∧
    (quiet.monitor = loud.monitor ∧ quiet.trace = loud.trace ∧
      quiet.written = loud.written.map Console.mute ∧
      quiet.printed = Console.printedOfOthers loud.written ∧
      ∀ h, (Log.Event.mutedReport h).level = .debug) ∧
    (other.monitor.undated = loud.monitor.undated ∧ other.trace.undated = loud.trace.undated ∧
      Command.result other.monitor = Command.result loud.monitor ∧
      other.trace.sendings = loud.trace.sendings ∧ other.trace.logs = loud.trace.logs ∧
      other.trace.reports.map Prod.fst = loud.trace.reports.map Prod.fst ∧
      other.logged = quiet.logged ∧
      List.Forall₂ (fun s s' => SameButDates s.toList s'.toList) other.printed
        (Console.printedOfOthers loud.written)) := by
  intro loud quiet other
  have hprints : Console.Prints ⟨json, colors, false⟩ clock loud.trace.reports loud.printed :=
    prints_showing ⟨json, verbose, .monitor o false⟩ colors rfl clock socket sent es
  -- The quiet run is the loud one with its reports muted, and another clock changes dates alone.
  have hquiet : quiet = loud.muted := showing_quiet o json verbose colors clock socket sent es
  have hother : other.Alike quiet := showing_alike _ colors clock' clock socket sent es
  have hprinted : quiet.printed = Console.printedOfOthers loud.written := by
    rw [hquiet]
    exact Console.printed_mute loud.written
  have hmonitor : other.monitor.undated = loud.monitor.undated := by rw [hother.monitor, hquiet]; rfl
  have htrace : other.trace.undated = loud.trace.undated := by rw [hother.trace, hquiet]; rfl
  have houtputs : List.Forall₂ Console.Output.Alike other.outputs quiet.outputs := by
    rw [Showing.outputs, Showing.outputs, List.forall₂_map_left_iff, List.forall₂_map_right_iff]
    exact hother.written.imp fun _ _ h => h.2
  obtain ⟨halike, hlogged⟩ := Console.printed_alike houtputs
  refine ⟨hprints,
    ⟨by rw [hquiet]; rfl, by rw [hquiet]; rfl, by rw [hquiet]; rfl, hprinted, fun _ => rfl⟩,
    hmonitor, htrace, ?_, ?_, ?_, ?_, hlogged, ?_⟩
  · rw [← Command.result_undated, hmonitor, Command.result_undated]
  · rw [← Trace.sendings_undated, htrace, Trace.sendings_undated]
  · rw [← Trace.logs_undated, htrace, Trace.logs_undated]
  · rw [← Trace.headings_undated, htrace, Trace.headings_undated]
  · rw [← hprinted]
    exact halike

end LossProbe
