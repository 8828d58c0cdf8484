import LossProbe.Text.Style

/-! # Styles of messages

The styles that help texts and error messages set words off with. -/

namespace LossProbe.CommandLine.Markup

open Text

/-- The title of a part of a help text. -/
def header (s : String) : List Char := marked [.bold, .underlined] s.toList

/-- A word to be typed as it is. -/
def literal (s : String) : List Char := marked [.bold] s.toList

/-- The word that an error message begins with. -/
def error (s : String) : List Char := marked [.bold, .red] s.toList

/-- What is wrong. -/
def invalid (s : String) : List Char := marked [.yellow] s.toList

/-- What would be right. -/
def valid (s : String) : List Char := marked [.green] s.toList

end LossProbe.CommandLine.Markup
