import LossProbe.Report.Table
import LossProbe.Proofs.AddressText
import LossProbe.Proofs.GridLines
import LossProbe.Proofs.RegistryHistory

/-!
# Reports as tables, read back

A table names every device once: its lines are the heading, and then for each version that has
devices a label with their number and a grid, whose rows are read back as the devices' cells in
order (`report_lists_devices`). All this rests on the cells being plain: addresses, counters and
rates are written in marks (`IsMark`), and never in bars or blanks.
-/

namespace LossProbe.TableReport

open Text

/-! ## Marks -/

/-- A basic character that is neither a bar nor a blank. -/
def IsMark (c : Char) : Prop := isBasic c = true ∧ c ≠ '|' ∧ c ≠ ' '

instance (c : Char) : Decidable (IsMark c) := inferInstanceAs (Decidable (_ ∧ _ ∧ _))

/-- A cell of marks is plain. -/
theorem plain_of_marks {cell : List Char} (h : ∀ c ∈ cell, IsMark c) : Plain cell where
  basic c hc := (h c hc).1
  bar hc := (h _ hc).2.1 rfl
  head hc := (h _ (List.mem_of_head? hc)).2.2 rfl
  last hc := (h _ (List.mem_of_getLast? hc)).2.2 rfl

/-- The characters of addresses are marks. -/
theorem isMark_of_isTextChar {c : Char} (h : IpAddr.IsTextChar c) : IsMark c := by
  rcases h with h | rfl | rfl
  · have hne : c ≠ '|' ∧ c ≠ ' ' := by
      refine ⟨?_, ?_⟩ <;> rintro rfl <;> exact absurd (by decide) h
    refine ⟨?_, hne⟩
    -- Each range of digits lies within the basic characters.
    simp only [isBasic, within, Bool.and_eq_true, decide_eq_true_eq]
    unfold IpAddr.digitValue? at h
    dsimp only at h
    split at h
    · omega
    · split at h
      · omega
      · split at h
        · omega
        · simp at h
  · decide
  · decide

/-- An address is written with marks. -/
theorem isMark_of_mem_address {ip : IpAddr} {c : Char} (h : c ∈ ip.chars) : IsMark c :=
  isMark_of_isTextChar (IpAddr.isTextChar_of_mem_chars h)

/-- A number is written with marks. -/
theorem isMark_of_mem_digits {n : Nat} {c : Char} (h : c ∈ Decimal.digits n) : IsMark c :=
  isMark_of_isTextChar (IpAddr.isTextChar_of_mem_toDigits (by decide) (by decide) h)

/-- A double with a fixed number of places is written with marks, even where it is no number. -/
theorem isMark_of_mem_fixed {places : Nat} {x : Binary64} {c : Char}
    (h : c ∈ Decimal.fixed places x) : IsMark c := by
  unfold Decimal.fixed at h
  split at h
  · have hall : ("NaN".toList.all fun c => IsMark c) = true := by decide
    exact of_decide_eq_true (List.all_eq_true.mp hall c h)
  · have hall : ("-inf".toList.all fun c => IsMark c) = true := by decide
    have hmem : c ∈ "-inf".toList := by
      split at h
      · exact h
      · exact List.mem_cons_of_mem _ h
    exact of_decide_eq_true (List.all_eq_true.mp hall c hmem)
  · -- A number may have a minus in front, and has digits before and after a point.
    rcases List.mem_append.mp h with h | h
    · split at h
      · obtain rfl := List.mem_singleton.mp h
        decide
      · cases h
    · unfold Decimal.withPoint at h
      rcases List.mem_append.mp h with h | h
      · exact isMark_of_mem_digits h
      · split at h
        · cases h
        · rcases List.mem_cons.mp h with rfl | h
          · decide
          · simp only [Decimal.paddedDigits, List.leftpad, List.mem_append,
              List.mem_replicate] at h
            rcases h with ⟨-, rfl⟩ | h
            · decide
            · exact isMark_of_mem_digits h

/-! ## Cells -/

/-- The cells that tell about a device. -/
def deviceCells (d : Device) : List (List Char) :=
  [(toString d.ip).toList, (toString d.stats.sent).toList, (toString d.stats.lost).toList,
    (toString d.stats.streak).toList, Decimal.fixed 1 d.stats.rate,
    Decimal.fixed 4 d.stats.lossPercent ++ ['%']]

/-- The names of the columns. -/
def columnNames : List String := ["IP", "Sent", "Lost", "Consecutive", "Loss /10k", "Loss %"]

/-- The row of a device has its cells. -/
theorem row_snapshot (d : Device) : row d.snapshot = deviceCells d := by
  simp [row, Device.snapshot, deviceCells, rateCell, percentCell, toString, Decimal.digits]

/-- The cells of a device are plain. -/
theorem plain_of_mem_deviceCells {d : Device} {cell : List Char} (h : cell ∈ deviceCells d) :
    Plain cell := by
  rw [← row_snapshot] at h
  refine plain_of_marks fun c hc => ?_
  simp only [row, rateCell, percentCell, List.mem_cons, List.not_mem_nil, or_false] at h
  -- The address, three counters, the rate, and the loss in percent.
  rcases h with rfl | rfl | rfl | rfl | rfl | rfl
  · have haddress : c ∈ d.ip.chars := by simpa [Device.snapshot, toString] using hc
    exact isMark_of_mem_address haddress
  · exact isMark_of_mem_digits hc
  · exact isMark_of_mem_digits hc
  · exact isMark_of_mem_digits hc
  · exact isMark_of_mem_fixed hc
  · rcases List.mem_append.mp hc with hc | hc
    · exact isMark_of_mem_fixed hc
    · obtain rfl := List.mem_singleton.mp hc
      decide

/-- The names of the columns are plain. -/
theorem plain_of_mem_columns {cell : List Char} (h : cell ∈ columns) : Plain cell := by
  have hall : ∀ cell ∈ columns, cell.all isBasic = true ∧ '|' ∉ cell ∧
      cell.head? ≠ some ' ' ∧ cell.getLast? ≠ some ' ' := by decide
  obtain ⟨hbasic, hbar, hhead, hlast⟩ := hall cell h
  exact ⟨List.all_eq_true.mp hbasic, hbar, hhead, hlast⟩

/-- The grid of some devices is regular: all its cells are plain, and each row has one for each
    column. -/
theorem regular_grid (ds : List Device) : (grid (ds.map Device.snapshot)).Regular where
  header_ne := show columns ≠ [] by decide
  header _ h := plain_of_mem_columns h
  rows r hr := by
    simp only [grid, List.map_map, List.mem_map, Function.comp_apply] at hr
    obtain ⟨d, -, rfl⟩ := hr
    exact ⟨rfl, fun cell hcell => plain_of_mem_deviceCells (row_snapshot d ▸ hcell)⟩

/-! ## Sections -/

/-- A table of these devices: a header row and then one row per device in their order, with rules
between them, and all lines of one length. -/
structure TableOf (ds : List Device) (table : List (List Char)) : Prop where
  rows : (table.filter Grid.isRow).map Grid.cellsOf =
    columnNames.map String.toList :: ds.map deviceCells
  rules : ∀ line ∈ table, Grid.isRow line = false → ∀ c ∈ line, c ∈ ['+', '|', '-', '=']
  aligned : ∃ length, ∀ line ∈ table, line.length = length

/-- What a report has for the devices of one version: nothing, or a label and a table. -/
inductive SectionOf (v : Version) : List Device → List (List Char) → Prop
  | none : SectionOf v [] []
  | table {ds : List Device} {table : List (List Char)} (hne : ds ≠ []) (h : TableOf ds table) :
    SectionOf v ds ((v.name ++ " (" ++ toString ds.length ++ " device(s))").toList :: table)

/-- The lines of the grid are a table of the devices. -/
theorem tableOf_grid (ds : List Device) : TableOf ds (grid (ds.map Device.snapshot)).lines where
  rows := by
    rw [Grid.cellsOf_lines (regular_grid ds)]
    simp only [grid, List.map_map]
    exact congrArg (columns :: ·) (List.map_congr_left fun d _ => row_snapshot d)
  rules _ hline hrow := Grid.mem_ruleMarks_of_mem_lines (regular_grid ds) hline hrow
  aligned := ⟨_, fun _ => Grid.length_of_mem_lines (regular_grid ds)⟩

/-- The lines of a section are a label and a table of its devices. -/
theorem sectionOf_sectionLines (v : Version) (ds : List Device) :
    SectionOf v ds (sectionLines false v (ds.map Device.snapshot)) := by
  unfold sectionLines
  cases ds with
  | nil => exact .none
  | cons d ds =>
    have hlabel : label false v ((d :: ds).map Device.snapshot) =
        (v.name ++ " (" ++ toString (d :: ds).length ++ " device(s))").toList := by
      simp [label, styled, Decimal.digits]
    rw [if_neg (by simp), hlabel]
    exact .table (List.cons_ne_nil d ds) (tableOf_grid (d :: ds))

/-! ## Reports -/

/-- The heading of a loss names the device that lost the probe. -/
theorem chars_lossEvent (ip : IpAddr) :
    (Heading.lossEvent ip).chars = "loss event (".toList ++ ip.chars ++ [')'] := rfl

/-- The line of a heading is one line. -/
theorem newline_not_mem_headingLine (h : Heading) : '\n' ∉ headingLine false h := by
  have hchars : '\n' ∉ h.chars := by
    -- Only an address is no fixed text, and it is made of marks.
    cases h with
    | lossEvent ip =>
      have hkind : '\n' ∉ "loss event (".toList := by decide
      have haddress : '\n' ∉ ip.chars := fun hmem =>
        absurd (isMark_of_mem_address hmem) (by decide)
      have hclose : '\n' ∉ [')'] := by decide
      rw [chars_lossEvent, List.mem_append, List.mem_append]
      exact not_or.mpr ⟨not_or.mpr ⟨hkind, haddress⟩, hclose⟩
    | searchResults => decide
    | cancelled => decide
    | finished => decide
  simp [headingLine, styled, headingText, center, hchars]

/-- Each line of a section is one line. -/
theorem newline_not_mem_sectionLines {v : Version} {ds : List Device} {line : List Char}
    (h : line ∈ sectionLines false v (ds.map Device.snapshot)) : '\n' ∉ line := by
  unfold sectionLines at h
  split at h
  · cases h
  · rcases List.mem_cons.mp h with rfl | h
    · have hdigits (n : Nat) : '\n' ∉ Decimal.digits n := fun hmem =>
        absurd (isMark_of_mem_digits hmem) (by decide)
      cases v <;> simp [label, styled, Version.name, hdigits]
    · exact newline_not_mem_of_basic (Grid.basic_of_mem_lines (regular_grid ds) h)

/-- A report is the heading, and then either says that there are no devices or has a section for
each version, the second before the third, in which each device has its row. -/
theorem report_lists_devices (r : Registry) (h : Heading) (now : Timestamp) :
    ∃ second third, (render false h (.ofRegistry now r)).toList.splitOn '\n' =
        headingLine false h :: (if r.isEmpty then [emptyLine] else second ++ third) ∧
      SectionOf .v2 (r.list .v2) second ∧ SectionOf .v3 (r.list .v3) third ∧
      (r.list .v2 ++ r.list .v3).Perm r.devices := by
  refine ⟨_, _, ?_, sectionOf_sectionLines .v2 _, sectionOf_sectionLines .v3 _, ?_⟩
  · have hempty : (Summary.ofRegistry now r).isEmpty = r.isEmpty := by
      rw [Bool.eq_iff_iff, Registry.isEmpty_iff_size]
      exact decide_eq_true_iff
    have hlines : lines false h (.ofRegistry now r) = headingLine false h ::
        (if r.isEmpty then [emptyLine] else
          sectionLines false .v2 ((r.list .v2).map Device.snapshot) ++
            sectionLines false .v3 ((r.list .v3).map Device.snapshot)) := by
      rw [lines, hempty]
      rfl
    -- No line has a break in it, so the text falls apart into just these lines.
    have hnewline : ∀ line ∈ lines false h (.ofRegistry now r), '\n' ∉ line := by
      rw [hlines]
      refine List.forall_mem_cons.mpr ⟨newline_not_mem_headingLine h, ?_⟩
      split
      · decide
      · rw [List.forall_mem_append]
        exact ⟨fun _ => newline_not_mem_sectionLines, fun _ => newline_not_mem_sectionLines⟩
    rw [render, String.toList_ofList, List.splitOn_intercalate '\n' hnewline (by simp [lines]),
      hlines]
  · have hthird : r.list .v3 = r.devices.filter fun d => !decide (d.version = .v2) :=
      List.filter_congr fun d _ => by cases d.version <;> rfl
    rw [hthird]
    exact List.filter_append_perm _ _

end LossProbe.TableReport
