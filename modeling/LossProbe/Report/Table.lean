import LossProbe.Decimal.Fixed
import LossProbe.Report.Heading
import LossProbe.Report.Summary
import LossProbe.Text.Align
import LossProbe.Text.Grid
import LossProbe.Text.Style

/-! # Reports as tables

A heading line of fixed width, then for each version that has devices a label and a grid with one
row per device. -/

namespace LossProbe.TableReport

open Text

/-- The width of a heading between its marks. -/
def headingWidth : Nat := 76

/-- The heading in the middle of a line of dashes. -/
def headingText (h : Heading) : List Char :=
  ['#', ' '] ++ center '-' headingWidth (' ' :: h.chars ++ [' ']) ++ [' ', '#']

/-- The heading line; a loss event stands out by its colour. -/
def headingLine (colors : Bool) (h : Heading) : List Char :=
  styled colors (if h.isLossEvent then .yellow else .bold) (headingText h)

def columns : List (List Char) :=
  ["IP", "Sent", "Lost", "Consecutive", "Loss /10k", "Loss %"].map String.toList

/-- The loss rate with one place. -/
def rateCell (s : Stats) : List Char := Decimal.fixed 1 s.rate

/-- The loss percentage with four places. -/
def percentCell (s : Stats) : List Char := Decimal.fixed 4 s.lossPercent ++ ['%']

/-- The row of a device. -/
def row (d : Snapshot) : List (List Char) :=
  [d.ip.toList, Decimal.digits d.stats.sent.toNat, Decimal.digits d.stats.lost.toNat,
    Decimal.digits d.stats.streak.toNat, rateCell d.stats, percentCell d.stats]

def grid (ds : List Snapshot) : Grid := ⟨columns, ds.map row⟩

/-- How many devices of a version there are. -/
def label (colors : Bool) (v : Version) (ds : List Snapshot) : List Char :=
  styled colors .bold v.name.toList ++ " (".toList ++ Decimal.digits ds.length ++
    " device(s))".toList

/-- The label and the grid of one version, nothing where it has no devices. -/
def sectionLines (colors : Bool) (v : Version) (ds : List Snapshot) : List (List Char) :=
  if ds.isEmpty then [] else label colors v ds :: (grid ds).lines

def emptyLine : List Char := "No FSA devices found, check that they are connected.".toList

def lines (colors : Bool) (h : Heading) (s : Summary) : List (List Char) :=
  headingLine colors h ::
    if s.isEmpty then [emptyLine]
    else sectionLines colors .v2 s.v2 ++ sectionLines colors .v3 s.v3

/-- The report as one text. -/
def render (colors : Bool) (h : Heading) (s : Summary) : String :=
  String.ofList (['\n'].intercalate (lines colors h s))

end LossProbe.TableReport
