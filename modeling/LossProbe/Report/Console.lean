import LossProbe.Report.JsonLine
import LossProbe.Report.Table
import LossProbe.Trace

/-! # What a run prints

Reports go to standard output, as tables or as JSON lines. Reports of single losses can be muted;
a muted report leaves a log entry in its place and nothing else changes. -/

namespace LossProbe

structure Console where
  json : Bool := false
  colors : Bool := false
  /-- Whether reports of single losses are muted. -/
  quietLoss : Bool := false
deriving DecidableEq, Repr

namespace Console

/-- The text of a report. -/
def format (c : Console) (h : Heading) (s : Summary) : String :=
  if c.json then JsonReport.render h s else TableReport.render c.colors h s

def isMuted (c : Console) (h : Heading) : Bool := c.quietLoss && h.isLossEvent

/-- The text of a report made at the given time, unless it is muted. -/
def render? (c : Console) (now : Timestamp) (h : Heading) (r : Registry) : Option String :=
  if c.isMuted h then none else some (c.format h (.ofRegistry now r))

/-- A line that a run writes. -/
inductive Output where
  | print (text : String)
  | log (e : Log.Event)

/-- What is written for an entry of a trace, where `now` is the time it is written at. -/
def output? (c : Console) (now : Timestamp) : Trace.Entry → Option Output
  | .sending _ => none
  | .log e => some (.log e)
  | .report h r =>
    match c.render? now h r with
    | some text => some (.print text)
    | none => some (.log (.mutedReport h))

/-- What is written for a whole trace. -/
def outputs (c : Console) (now : Timestamp) (t : Trace) : List Output := t.filterMap (c.output? now)

/-- The printed texts. -/
def printed (os : List Output) : List String :=
  os.filterMap fun
    | .print text => some text
    | .log _ => none

/-- The log entries. -/
def logged (os : List Output) : List Log.Event :=
  os.filterMap fun
    | .print _ => none
    | .log e => some e

end Console
end LossProbe
