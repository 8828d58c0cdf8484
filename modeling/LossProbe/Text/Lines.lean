/-! # Lines of a text

A text has one line more than it has line ends. -/

namespace LossProbe.Text

/-- The lines between the line ends of a text. -/
def splitLines : List Char → List (List Char)
  | [] => [[]]
  | c :: cs =>
    if c = '\n' then [] :: splitLines cs
    else
      match splitLines cs with
      | [] => [[c]]
      | line :: lines => (c :: line) :: lines

/-- A text without line breaks is one line. -/
theorem splitLines_eq_singleton {s : List Char} (h : '\n' ∉ s) : splitLines s = [s] := by
  induction s with
  | nil => rfl
  | cons c cs ih =>
    have hc : c ≠ '\n' := fun he => h (he ▸ List.mem_cons_self)
    simp [splitLines, hc, ih fun hn => h (List.mem_cons_of_mem c hn)]

/-- Every text has a line, if only an empty one. -/
theorem splitLines_ne_nil (s : List Char) : splitLines s ≠ [] := by
  cases s with
  | nil => simp [splitLines]
  | cons c cs =>
    rw [splitLines]
    split
    · simp
    · split <;> simp

/-- The lines of a text with line breaks between them are the text. -/
theorem intercalate_splitLines (s : List Char) : ['\n'].intercalate (splitLines s) = s := by
  induction s with
  | nil => rfl
  | cons c cs ih =>
    rw [splitLines]
    split
    · rename_i hc
      cases hl : splitLines cs with
      | nil => exact absurd hl (splitLines_ne_nil cs)
      | cons line lines => simp_all [List.intercalate, List.intersperse]
    · split
      · rename_i hl
        exact absurd hl (splitLines_ne_nil cs)
      · rename_i line lines hl
        rw [hl] at ih
        cases lines <;> simp_all [List.intercalate, List.intersperse]

end LossProbe.Text
