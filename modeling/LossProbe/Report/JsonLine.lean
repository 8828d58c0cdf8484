import LossProbe.Json.Writer
import LossProbe.Report.Heading
import LossProbe.Report.Summary

/-! # Reports as JSON lines

One object on one line, so that a long run can be read line by line. The members of every object
are in alphabetical order. -/

namespace LossProbe.JsonReport

def device (d : Snapshot) : Json :=
  .object [("allCnt", .nat d.stats.sent.toNat), ("continuousCnt", .nat d.stats.streak.toNat),
    ("discoveredAt", d.discoveredAt.toJson), ("ip", .string d.ip),
    ("protocolVersion", .string d.version.name), ("timeoutCnt", .nat d.stats.lost.toNat),
    ("timeoutRate", .number (.float d.stats.rate))]

def summary (s : Summary) : Json :=
  .object [("count", .nat s.count), ("generatedAt", s.generatedAt.toJson),
    ("v2", .array (s.v2.map device)), ("v3", .array (s.v3.map device))]

/-- The device that a heading names. -/
def headingDevice : Heading → Json
  | .lossEvent ip => .string (toString ip)
  | _ => .null

def report (h : Heading) (s : Summary) : Json :=
  .object [("event", .string h.name), ("ip", headingDevice h), ("report", summary s)]

/-- The report as one line. -/
def render (h : Heading) (s : Summary) : String := (report h s).write

end LossProbe.JsonReport
