import LossProbe.Text.Lines
import LossProbe.Text.Width

/-! # Text in a grid

A `Grid` is written with a frame of plain characters: a header row, a double rule under it, and
a rule between rows. Every column is as wide as its widest cell, with a blank on each side. A cell
may have several lines. -/

namespace LossProbe.Text

structure Grid where
  header : List (List Char)
  rows : List (List (List Char))

namespace Grid

/-- How many columns of the terminal a cell fills: those of its widest line. -/
def cellWidth (cell : List Char) : Nat :=
  (splitLines cell).foldl (fun w line => max w (width line)) 0

/-- Fill up to `w` columns on the right. -/
def fillRight (w : Nat) (line : List Char) : List Char :=
  line ++ List.replicate (w - width line) ' '

/-- The width of each column, from the cells of every row. -/
def widths (g : Grid) : List Nat :=
  g.rows.foldl (fun ws row => List.zipWith (fun w cell => max w (cellWidth cell)) ws row)
    (g.header.map cellWidth)

/-- One line of each cell, between bars. -/
def barLine (ws : List Nat) (cells : List (List Char)) : List Char :=
  '|' :: (List.zipWith (fun w cell => ' ' :: fillRight w cell ++ [' ', '|']) ws cells).flatten

/-- A row, with as many lines as its highest cell. -/
def rowLines (ws : List Nat) (row : List (List Char)) : List (List Char) :=
  let cells := row.map splitLines
  let height := cells.foldl (fun h cell => max h cell.length) 0
  (List.range height).map fun i => barLine ws (cells.map fun cell => cell[i]?.getD [])

/-- A rule with the given characters at its ends, along it and where it meets a column bar. -/
def rule (edge line cross : Char) (ws : List Nat) : List Char :=
  edge :: [cross].intercalate (ws.map fun w => List.replicate (w + 2) line) ++ [edge]

/-- Rows with rules between them. -/
def body (ws : List Nat) (rows : List (List (List Char))) : List (List Char) :=
  ((rows.map (rowLines ws)).intersperse [rule '|' '-' '+' ws]).flatten

/-- All lines of the grid. -/
def lines (g : Grid) : List (List Char) :=
  let ws := g.widths
  let border := rule '+' '-' '+' ws
  border :: rowLines ws g.header ++ rule '+' '=' '=' ws :: body ws g.rows ++ [border]

end Grid
end LossProbe.Text
