import LossProbe.Log
import LossProbe.Text.Align

/-! # Which log entries are written

The verbosity is set by a variable of the environment, by a level's name or number, and without
one by a flag. An entry is written on one line, with its time and its level in front. -/

namespace LossProbe.Log

/-- The most verbose level that is written, where anything is. -/
structure Filter where
  greatest : Option Level
deriving DecidableEq, Repr

namespace Filter

/-- The filter without a variable. -/
def byFlag (verbose : Bool) : Filter := ⟨some (if verbose then .debug else .info)⟩

/-- The filter that a word stands for. -/
def ofWord? (w : String) : Option Filter :=
  match w.toLower with
  | "off" | "0" => some ⟨none⟩
  | "error" | "1" | "" => some ⟨some .error⟩
  | "warn" | "2" => some ⟨some .warn⟩
  | "info" | "3" => some ⟨some .info⟩
  | "debug" | "4" => some ⟨some .debug⟩
  | "trace" | "5" => some ⟨some .trace⟩
  | _ => none

/-- The filter for a variable and a flag: a variable that can be read wins. -/
def choose (setting : Option String) (verbose : Bool) : Filter :=
  (setting.bind ofWord?).getD (byFlag verbose)

def allows (f : Filter) (e : Event) : Bool :=
  match f.greatest with
  | some level => e.level.verbosity ≤ level.verbosity
  | none => false

end Filter

/-- An entry as a line, behind the text of its time. -/
def Event.line (colors : Bool) (time : List Char) (e : Event) : String :=
  String.ofList <|
    Text.styled colors .dimmed time ++ ' ' ::
      Text.styled colors e.level.style (Text.alignRight 5 e.level.name.toList) ++ ' ' ::
        e.chars colors

end LossProbe.Log
