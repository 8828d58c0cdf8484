import Mathlib.Algebra.BigOperators.Group.List.Basic
import Mathlib.Algebra.GroupWithZero.Nat
import Mathlib.Data.List.DropRight
import Mathlib.Data.List.Forall2
import LossProbe.Text.Grid

/-!
# Reading a grid back

A grid of plain cells has one line per row, and splitting such a line at its bars gives the cells
of the row (`cellsOf_barLine`), whatever the widths of the columns are. The rows are the lines of
the grid that are no rules (`filter_isRow_lines`), so header and rows are read back from them
(`cellsOf_lines`), and all lines have the same length (`length_of_mem_lines`).
-/

namespace LossProbe.Text

/-! ## Plain cells -/

/-- The text without the blanks around it. -/
def trim (s : List Char) : List Char := (s.dropWhile (· = ' ')).rdropWhile (· = ' ')

/-- A text of basic characters without bars, and with no blanks around it. -/
structure Plain (cell : List Char) : Prop where
  basic : ∀ c ∈ cell, isBasic c = true
  bar : '|' ∉ cell
  head : cell.head? ≠ some ' '
  last : cell.getLast? ≠ some ' '

/-- A line break is no basic character. -/
theorem newline_not_mem_of_basic {s : List Char} (h : ∀ c ∈ s, isBasic c = true) : '\n' ∉ s :=
  fun hmem => absurd (h _ hmem) (by decide)

/-- What is dropped at both ends of a text ends where the text between them begins and ends. -/
theorem dropWhile_rdropWhile_append {p : Char → Bool} {front s back : List Char}
    (hfront : ∀ c ∈ front, p c = true) (hback : ∀ c ∈ back, p c = true)
    (hhead : ∀ c ∈ s.head?, p c = false) (hlast : ∀ c ∈ s.getLast?, p c = false) :
    ((front ++ s ++ back).dropWhile p).rdropWhile p = s := by
  rw [List.append_assoc, List.dropWhile_append_of_pos hfront]
  cases s with
  | nil =>
    -- With nothing in the middle, the front part takes the back part with it.
    have hnone : back.dropWhile p = [] := List.dropWhile_eq_nil_iff.mpr hback
    rw [List.nil_append, hnone, List.rdropWhile_nil]
  | cons c cs =>
    have hc : p c = false := hhead c rfl
    rw [List.cons_append, List.dropWhile_cons_of_neg (by simp [hc]), ← List.cons_append]
    -- What is at the back goes one by one, down to the last character of the text.
    induction back using List.reverseRecOn with
    | nil =>
      rw [List.append_nil, List.rdropWhile_eq_self_iff]
      intro hne
      simp [hlast _ (List.getLast?_eq_some_getLast hne)]
    | append_singleton back b ih =>
      obtain ⟨hrest, hb⟩ := List.forall_mem_append.mp hback
      rw [← List.append_assoc, List.rdropWhile_concat_pos _ _ _ (hb b List.mem_cons_self)]
      exact ih hrest

/-- Blanks around a plain cell are trimmed away. -/
theorem trim_padded {cell : List Char} (h : Plain cell) (k : Nat) :
    trim (' ' :: cell ++ List.replicate k ' ') = cell := by
  have hfront : ∀ c ∈ [' '], decide (c = ' ') = true := by simp
  have hback : ∀ c ∈ List.replicate k ' ', decide (c = ' ') = true := by simp
  -- A plain cell starts and ends with no space, so trimming stops at the cell.
  refine dropWhile_rdropWhile_append hfront hback ?_ ?_
  · intro c hc
    rw [decide_eq_false_iff_not]
    rintro rfl
    exact h.head hc
  · intro c hc
    rw [decide_eq_false_iff_not]
    rintro rfl
    exact h.last hc

namespace Grid

variable {ws : List Nat} {row : List (List Char)} {cell : List Char}

/-- A plain cell is as wide as it has characters. -/
theorem cellWidth_plain (h : Plain cell) : cellWidth cell = cell.length := by
  simp [cellWidth, splitLines_eq_singleton (newline_not_mem_of_basic h.basic),
    width_basic h.basic]

/-- A row of plain cells has one line. -/
theorem rowLines_plain (hne : row ≠ []) (h : ∀ cell ∈ row, Plain cell) :
    rowLines ws row = [barLine ws row] := by
  have hlines : row.map splitLines = row.map fun cell => [cell] :=
    List.map_congr_left fun cell hcell =>
      splitLines_eq_singleton (newline_not_mem_of_basic (h cell hcell).basic)
  have hheight (cells : List (List Char)) :
      (cells.map fun cell => [cell]).foldl (fun h cell => max h cell.length) 1 = 1 := by
    induction cells with
    | nil => rfl
    | cons cell cells ih => exact ih
  -- A row without cells would have no line at all.
  obtain ⟨cell, cells, rfl⟩ := List.exists_cons_of_ne_nil hne
  unfold rowLines
  rw [hlines]
  simp only [List.map_cons, List.foldl_cons, List.length_singleton, Nat.zero_max, hheight]
  simp [List.range_succ, Function.comp_def]

/-! ## Bars -/

/-- The cells between the bars of a line. -/
def cellsOf (line : List Char) : List (List Char) := ((line.splitOn '|').tail.dropLast).map trim

/-- Whether a line is part of a row, and no rule. -/
def isRow : List Char → Bool
  | '|' :: ' ' :: _ => true
  | _ => false

/-- A cell with the blanks around it. -/
def padded (w : Nat) (cell : List Char) : List Char := ' ' :: fillRight w cell ++ [' ']

/-- What a cell was filled up with is taken away by trimming. -/
theorem trim_padded_cell (h : Plain cell) (w : Nat) : trim (padded w cell) = cell := by
  have hblanks : padded w cell = ' ' :: cell ++ List.replicate (w - width cell + 1) ' ' := by
    simp [padded, fillRight, List.replicate_succ']
  rw [hblanks, trim_padded h]

/-- No bar stands in a cell. -/
theorem bar_not_mem_padded (h : Plain cell) (w : Nat) : '|' ∉ padded w cell := by
  simp [padded, fillRight, h.bar]

/-- A bar stands before each cell, and one at the end. -/
theorem barLine_eq (ws : List Nat) (row : List (List Char)) :
    barLine ws row = ['|'].intercalate ([] :: (List.zipWith padded ws row ++ [[]])) := by
  -- A bar before each piece in place of one between two: the empty first piece makes them agree.
  have hpieces (first : List Char) (pieces : List (List Char)) :
      ['|'].intercalate (first :: (pieces ++ [[]])) =
        first ++ '|' :: (pieces.map (· ++ ['|'])).flatten := by
    induction pieces generalizing first with
    | nil => simp [List.intercalate]
    | cons piece pieces ih =>
      rw [List.cons_append, List.intercalate_cons_cons, ih]
      simp
  rw [hpieces, barLine, List.map_zipWith]
  simp [padded]

/-- The cells of a row have no bars in them, and are found again by trimming. -/
theorem zipWith_padded (hlength : ws.length = row.length) (h : ∀ cell ∈ row, Plain cell) :
    (∀ piece ∈ List.zipWith padded ws row, '|' ∉ piece) ∧
      (List.zipWith padded ws row).map trim = row := by
  induction row generalizing ws with
  | nil => simp
  | cons cell row ih =>
    obtain ⟨w, ws, rfl⟩ := List.exists_cons_of_length_eq_add_one hlength
    obtain ⟨hcell, hrow⟩ := List.forall_mem_cons.mp h
    obtain ⟨hbar, htrim⟩ := ih (by simpa using hlength) hrow
    refine ⟨List.forall_mem_cons.mpr ⟨bar_not_mem_padded hcell w, hbar⟩, ?_⟩
    rw [List.zipWith_cons_cons, List.map_cons, trim_padded_cell hcell, htrim]

/-- The cells of a row are read back from its line. -/
theorem cellsOf_barLine (hlength : ws.length = row.length) (h : ∀ cell ∈ row, Plain cell) :
    cellsOf (barLine ws row) = row := by
  obtain ⟨hbar, htrim⟩ := zipWith_padded hlength h
  have hpieces : ∀ piece ∈ [] :: (List.zipWith padded ws row ++ [[]]), '|' ∉ piece := by
    simpa [or_imp, forall_and] using hbar
  rw [cellsOf, barLine_eq, List.splitOn_intercalate '|' hpieces (List.cons_ne_nil _ _),
    List.tail_cons, List.dropLast_concat, htrim]

/-! ## Lengths -/

/-- The length of every line over columns of these widths. -/
def lineLength (ws : List Nat) : Nat := 1 + (ws.map (· + 3)).sum

/-- Cells of a row and the columns that they fit into. -/
abbrev Fits (ws : List Nat) (row : List (List Char)) : Prop :=
  List.Forall₂ (fun w cell => Plain cell ∧ cell.length ≤ w) ws row

/-- A row is as long as the widths of its columns make it. -/
theorem length_barLine (h : Fits ws row) : (barLine ws row).length = lineLength ws := by
  rw [barLine, List.length_cons, List.length_flatten, List.map_zipWith, lineLength, Nat.add_comm]
  congr 1
  -- A cell is as wide as it is long and is filled up to its column.
  induction h with
  | nil => rfl
  | @cons w cell ws row hcell _ ih =>
    obtain ⟨hplain, hle⟩ := hcell
    rw [List.zipWith_cons_cons, List.sum_cons, List.map_cons, List.sum_cons, ih]
    simp only [fillRight, width_basic hplain.basic, List.length_cons, List.length_append,
      List.length_replicate, List.length_nil]
    omega

/-- A rule is as long as a row. -/
theorem length_rule (edge line cross : Char) (hne : ws ≠ []) :
    (rule edge line cross ws).length = lineLength ws := by
  have hinner : ∀ {ws : List Nat}, ws ≠ [] →
      ([cross].intercalate (ws.map fun w => List.replicate (w + 2) line)).length + 1 =
        (ws.map (· + 3)).sum := by
    intro ws hne
    -- Each column adds its width with two blanks, and a crossing before the next.
    induction ws with
    | nil => exact absurd rfl hne
    | cons w ws ih =>
      cases ws with
      | nil => simp [List.intercalate]
      | cons w' ws =>
        have hrest := ih (List.cons_ne_nil _ _)
        simp only [List.map_cons, List.intercalate_cons_cons, List.length_append,
          List.length_replicate, List.length_singleton, List.sum_cons] at hrest ⊢
        omega
  have hlength := hinner hne
  simp only [rule, List.length_cons, List.length_append, List.length_nil, lineLength]
  omega

/-! ## Widths -/

/-- Columns made as wide as the cells of another row need. -/
def widened (ws : List Nat) (row : List (List Char)) : List Nat :=
  List.zipWith (fun w cell => max w (cellWidth cell)) ws row

/-- Columns that are widened stay as many. -/
theorem length_widened (h : row.length = ws.length) : (widened ws row).length = ws.length := by
  simp [widened, h]

/-- Columns that are widened for a row fit it. -/
theorem fits_widened (hlength : row.length = ws.length) (h : ∀ cell ∈ row, Plain cell) :
    Fits (widened ws row) row := by
  induction row generalizing ws with
  | nil => simp [widened]
  | cons cell row ih =>
    obtain ⟨w, ws, rfl⟩ := List.exists_cons_of_length_eq_add_one hlength.symm
    obtain ⟨hcell, hrow⟩ := List.forall_mem_cons.mp h
    have hle : cell.length ≤ max w (cellWidth cell) :=
      (cellWidth_plain hcell).ge.trans (Nat.le_max_right _ _)
    exact .cons ⟨hcell, hle⟩ (ih (by simpa using hlength) hrow)

/-- What fitted before still fits. -/
theorem Fits.widened {other : List (List Char)} (h : Fits ws other)
    (hlength : row.length = ws.length) : Fits (Grid.widened ws row) other := by
  induction h generalizing row with
  | nil => simp [Grid.widened]
  | cons hcell _ ih =>
    obtain ⟨cell, row, rfl⟩ := List.exists_cons_of_length_eq_add_one hlength
    exact .cons ⟨hcell.1, Nat.le_trans hcell.2 (Nat.le_max_left _ _)⟩ (ih (by simpa using hlength))

/-- Columns that are widened for some rows fit these, and still fit what they fitted before. -/
theorem fits_foldl {rows : List (List (List Char))}
    (h : ∀ row ∈ rows, row.length = ws.length ∧ ∀ cell ∈ row, Plain cell) :
    (∀ other, Fits ws other → Fits (rows.foldl widened ws) other) ∧
      ∀ row ∈ rows, Fits (rows.foldl widened ws) row := by
  induction rows generalizing ws with
  | nil => exact ⟨fun _ hother => hother, nofun⟩
  | cons row rows ih =>
    obtain ⟨⟨hlength, hplain⟩, hrows⟩ := List.forall_mem_cons.mp h
    have hwidened := length_widened hlength
    have hrest : ∀ r ∈ rows, r.length = (widened ws row).length ∧ ∀ cell ∈ r, Plain cell := by
      rw [hwidened]
      exact hrows
    -- Columns only grow, so a row that fits now fits the widest columns too.
    obtain ⟨hkept, hnew⟩ := ih hrest
    exact ⟨fun other hother => hkept other (hother.widened hlength),
      List.forall_mem_cons.mpr ⟨hkept row (fits_widened hlength hplain), hnew⟩⟩

/-- Plain cells, and as many of them in each row as there are columns. -/
structure Regular (g : Grid) : Prop where
  header_ne : g.header ≠ []
  header : ∀ cell ∈ g.header, Plain cell
  rows : ∀ row ∈ g.rows, row.length = g.header.length ∧ ∀ cell ∈ row, Plain cell

variable {g : Grid}

/-- The columns of a regular grid fit its header. -/
theorem fits_header (h : g.Regular) : Fits g.widths g.header := by
  have hstart : Fits (g.header.map cellWidth) g.header := by
    rw [Fits, List.forall₂_map_left_iff, List.forall₂_same]
    exact fun cell hcell =>
      ⟨h.header cell hcell, (cellWidth_plain (h.header cell hcell)).ge⟩
  exact (fits_foldl (by simpa using h.rows)).1 g.header hstart

/-- The columns of a regular grid fit its rows. -/
theorem fits_row (h : g.Regular) (hrow : row ∈ g.rows) : Fits g.widths row :=
  (fits_foldl (by simpa using h.rows)).2 row hrow

/-- A regular grid has columns. -/
theorem Regular.widths_ne (h : g.Regular) : g.widths ≠ [] := by
  rw [← List.length_pos_iff, (fits_header h).length_eq, List.length_pos_iff]
  exact h.header_ne

/-! ## Lines -/

/-- A row with bars is seen as a row. -/
theorem isRow_barLine (hlength : ws.length = row.length) (hne : row ≠ []) :
    isRow (barLine ws row) = true := by
  obtain ⟨cell, row, rfl⟩ := List.exists_cons_of_ne_nil hne
  obtain ⟨w, ws, rfl⟩ := List.exists_cons_of_length_eq_add_one hlength
  rfl

/-- A rule is not seen as a row. -/
theorem isRow_rule (edge cross : Char) {line : Char} (hline : line ≠ ' ') (hne : ws ≠ []) :
    isRow (rule edge line cross ws) = false := by
  obtain ⟨w, ws, rfl⟩ := List.exists_cons_of_ne_nil hne
  -- The first column is at least one stroke wide, and a row has a space there.
  have hrule : ∃ rest, rule edge line cross (w :: ws) = edge :: line :: rest := by
    cases ws with
    | nil => exact ⟨_, by simp only [rule, List.map_cons, List.map_nil]; rfl⟩
    | cons w' ws => exact ⟨_, by simp only [rule, List.map_cons, List.intercalate_cons_cons]; rfl⟩
  obtain ⟨rest, hrest⟩ := hrule
  rw [hrest]
  unfold isRow
  split
  next heq => exact absurd (List.cons.inj (List.cons.inj heq).2).1 hline
  next => rfl

/-- What was put between some lines can be told from them by a test that only they pass. -/
theorem filter_intersperse {p : List Char → Bool} {sep : List Char} (hsep : p sep = false)
    {l : List (List Char)} (h : ∀ line ∈ l, p line = true) : (l.intersperse sep).filter p = l := by
  induction l with
  | nil => rfl
  | cons line l ih =>
    obtain ⟨hline, hl⟩ := List.forall_mem_cons.mp h
    cases l with
    | nil => simp [hline]
    | cons next l =>
      rw [List.intersperse_cons_cons, List.filter_cons_of_pos hline,
        List.filter_cons_of_neg (by simp [hsep]), ih hl]

/-- A line among others and what is put between them is one of them or what is put there. -/
theorem mem_of_mem_intersperse {sep line : List Char} {l : List (List Char)}
    (h : line ∈ l.intersperse sep) : line = sep ∨ line ∈ l := by
  induction l with
  | nil => cases h
  | cons first l ih =>
    cases l with
    | nil => exact .inr h
    | cons next l =>
      simp only [List.intersperse_cons_cons, List.mem_cons] at h ih ⊢
      grind

/-- The lines of a grid of plain cells. -/
theorem lines_eq (h : g.Regular) : g.lines =
    rule '+' '-' '+' g.widths :: barLine g.widths g.header :: rule '+' '=' '=' g.widths ::
      ((g.rows.map (barLine g.widths)).intersperse (rule '|' '-' '+' g.widths) ++
        [rule '+' '-' '+' g.widths]) := by
  have hrows : g.rows.map (rowLines g.widths) = (g.rows.map (barLine g.widths)).map ([·]) := by
    rw [List.map_map]
    refine List.map_congr_left fun row hrow => rowLines_plain ?_ (h.rows row hrow).2
    rintro rfl
    exact h.header_ne (List.eq_nil_of_length_eq_zero (h.rows [] hrow).1.symm)
  -- Every row is one line, so what stands between rows stands between lines.
  have hflatten (sep : List Char) (l : List (List Char)) :
      ((l.map ([·])).intersperse [sep]).flatten = l.intersperse sep := by
    induction l with
    | nil => rfl
    | cons line l ih =>
      cases l with
      | nil => rfl
      | cons next l => simpa [List.intersperse_cons_cons] using ih
  simp only [lines, body, rowLines_plain h.header_ne h.header, hrows, hflatten]
  rfl

/-- What rules are made of. -/
def ruleMarks : List Char := ['+', '|', '-', '=']

/-- What a line of a grid is. -/
inductive IsLine (g : Grid) : List Char → Prop
  | rule {edge line cross : Char} (hedge : edge ∈ ruleMarks) (hline : line ∈ ruleMarks)
    (hcross : cross ∈ ruleMarks) : IsLine g (Grid.rule edge line cross g.widths)
  | row {row : List (List Char)} (h : row ∈ g.header :: g.rows) : IsLine g (barLine g.widths row)

/-- Every line of a regular grid is a rule or a row of it. -/
theorem isLine_of_mem_lines (h : g.Regular) {line : List Char} (hline : line ∈ g.lines) :
    g.IsLine line := by
  rw [lines_eq h] at hline
  simp only [List.mem_cons, List.mem_append, List.not_mem_nil, or_false] at hline
  rcases hline with rfl | rfl | rfl | hline | rfl
  · exact .rule (by decide) (by decide) (by decide)
  · exact .row List.mem_cons_self
  · exact .rule (by decide) (by decide) (by decide)
  · rcases mem_of_mem_intersperse hline with rfl | hline
    · exact .rule (by decide) (by decide) (by decide)
    · obtain ⟨row, hrow, rfl⟩ := List.mem_map.mp hline
      exact .row (List.mem_cons_of_mem _ hrow)
  · exact .rule (by decide) (by decide) (by decide)

/-- The header and the rows of a regular grid are seen as rows. -/
theorem isRow_of_mem (h : g.Regular) (hrow : row ∈ g.header :: g.rows) :
    isRow (barLine g.widths row) = true := by
  have hheader := (fits_header h).length_eq
  rcases List.mem_cons.mp hrow with rfl | hrow
  · exact isRow_barLine hheader h.header_ne
  · have hlength := (fits_row h hrow).length_eq
    refine isRow_barLine hlength fun hnil => h.widths_ne ?_
    rw [← List.length_eq_zero_iff, hlength, hnil, List.length_nil]

/-- The rows are what is left of the lines when the rules are taken away. -/
theorem filter_isRow_lines (h : g.Regular) :
    g.lines.filter isRow = (g.header :: g.rows).map (barLine g.widths) := by
  have hbars : ∀ line ∈ g.rows.map (barLine g.widths), isRow line = true := by
    intro line hline
    obtain ⟨row, hrow, rfl⟩ := List.mem_map.mp hline
    exact isRow_of_mem h (List.mem_cons_of_mem _ hrow)
  have hrule (edge line cross : Char) (hline : line ≠ ' ') :
      isRow (rule edge line cross g.widths) = false := isRow_rule edge cross hline h.widths_ne
  -- From the top: a rule, the header, a rule, the rows with rules between them, a rule.
  rw [lines_eq h, List.filter_cons_of_neg (by simp [hrule '+' '-' '+' (by decide)]),
    List.filter_cons_of_pos (isRow_of_mem h List.mem_cons_self),
    List.filter_cons_of_neg (by simp [hrule '+' '=' '=' (by decide)]),
    List.filter_append, filter_intersperse (hrule '|' '-' '+' (by decide)) hbars,
    List.filter_cons_of_neg (by simp [hrule '+' '-' '+' (by decide)]), List.filter_nil,
    List.append_nil, List.map_cons]

/-- The rows are read back from the lines. -/
theorem cellsOf_lines (h : g.Regular) :
    (g.lines.filter isRow).map cellsOf = g.header :: g.rows := by
  rw [filter_isRow_lines h, List.map_map]
  refine (List.map_congr_left fun row hrow => ?_).trans (List.map_id _)
  rcases List.mem_cons.mp hrow with rfl | hrow
  · exact cellsOf_barLine (fits_header h).length_eq h.header
  · exact cellsOf_barLine (fits_row h hrow).length_eq (h.rows row hrow).2

/-- All lines are of the same length. -/
theorem length_of_mem_lines (h : g.Regular) {line : List Char} (hline : line ∈ g.lines) :
    line.length = lineLength g.widths := by
  cases isLine_of_mem_lines h hline with
  | rule => exact length_rule _ _ _ h.widths_ne
  | row hrow =>
    rcases List.mem_cons.mp hrow with rfl | hrow
    · exact length_barLine (fits_header h)
    · exact length_barLine (fits_row h hrow)

/-- A rule has no characters but the three it is made of. -/
theorem mem_of_mem_rule {edge line cross c : Char} (h : c ∈ rule edge line cross ws) :
    c ∈ [edge, line, cross] := by
  have hinner : ∀ ws : List Nat,
      c ∈ [cross].intercalate (ws.map fun w => List.replicate (w + 2) line) →
        c = line ∨ c = cross := by
    intro ws hmem
    induction ws with
    | nil => cases hmem
    | cons w ws ih =>
      -- Between two columns stands a crossing, so the last one has a case of its own.
      cases ws with
      | nil =>
        have hrun : c ∈ List.replicate (w + 2) line := by simpa [List.intercalate] using hmem
        exact .inl (List.eq_of_mem_replicate hrun)
      | cons w' ws =>
        simp only [List.map_cons, List.intercalate_cons_cons, List.mem_append,
          List.mem_singleton] at hmem ih
        rcases hmem with (hmem | rfl) | hmem
        · exact .inl (List.eq_of_mem_replicate hmem)
        · exact .inr rfl
        · exact ih hmem
  simp only [rule, List.mem_cons, List.mem_append, List.not_mem_nil, or_false] at h ⊢
  rcases h with (h | h) | h
  · exact .inl h
  · exact .inr (hinner ws h)
  · exact .inl h

/-- A row of plain cells has only basic characters. -/
theorem basic_of_mem_barLine (h : Fits ws row) : ∀ c ∈ barLine ws row, isBasic c = true := by
  refine List.forall_mem_cons.mpr ⟨by decide, ?_⟩
  induction h with
  | nil => simp
  | @cons w cell ws row hcell _ ih =>
    have hpiece : ∀ c ∈ ' ' :: fillRight w cell ++ [' ', '|'], isBasic c = true := by
      intro c hc
      simp only [fillRight, List.mem_cons, List.mem_append, List.mem_replicate,
        List.not_mem_nil, or_false] at hc
      -- A blank, the cell, what fills it up, another blank, and the bar.
      rcases hc with (rfl | hc | ⟨-, rfl⟩) | rfl | rfl
      · decide
      · exact hcell.1.basic c hc
      · decide
      · decide
      · decide
    rw [List.zipWith_cons_cons, List.flatten_cons, List.forall_mem_append]
    exact ⟨hpiece, ih⟩

/-- A line that is no row is a rule. -/
theorem mem_ruleMarks_of_mem_lines (h : g.Regular) {line : List Char} (hline : line ∈ g.lines)
    (hrow : isRow line = false) : ∀ c ∈ line, c ∈ ruleMarks := by
  cases isLine_of_mem_lines h hline with
  | rule hedge hstroke hcross =>
    intro c hc
    have hmem := mem_of_mem_rule hc
    simp only [List.mem_cons, List.not_mem_nil, or_false] at hmem
    rcases hmem with rfl | rfl | rfl
    · exact hedge
    · exact hstroke
    · exact hcross
  | row hmem =>
    rw [isRow_of_mem h hmem] at hrow
    cases hrow

/-- All lines consist of basic characters. -/
theorem basic_of_mem_lines (h : g.Regular) {line : List Char} (hline : line ∈ g.lines) :
    ∀ c ∈ line, isBasic c = true := by
  -- Rules are made of marks, and what is a row is a bar line of the header or of a row.
  cases hrow : isRow line with
  | false =>
    have hall : ruleMarks.all isBasic = true := by decide
    exact fun c hc => List.all_eq_true.mp hall c (mem_ruleMarks_of_mem_lines h hline hrow c hc)
  | true =>
    have hkept : line ∈ g.lines.filter isRow := List.mem_filter.mpr ⟨hline, hrow⟩
    rw [filter_isRow_lines h] at hkept
    obtain ⟨row, hmem, rfl⟩ := List.mem_map.mp hkept
    rcases List.mem_cons.mp hmem with rfl | hmem
    · exact basic_of_mem_barLine (fits_header h)
    · exact basic_of_mem_barLine (fits_row h hmem)

end Grid
end LossProbe.Text
