/-! # Terminal styles

A styled text is written between the escape sequences of its styles and the one that resets the
terminal. With colours off the text is written alone. -/

namespace LossProbe.Text

inductive Style where
  | bold
  | dimmed
  | italic
  | underlined
  | red
  | green
  | yellow
  | blue
  | purple
deriving DecidableEq, Repr

/-- The parameter of the style's escape sequence. -/
def Style.code : Style → String
  | .bold => "1"
  | .dimmed => "2"
  | .italic => "3"
  | .underlined => "4"
  | .red => "31"
  | .green => "32"
  | .yellow => "33"
  | .blue => "34"
  | .purple => "35"

/-- The escape sequence of a style. -/
def Style.sequence (style : Style) : List Char := ("\x1b[" ++ style.code ++ "m").toList

/-- Write a text in several styles at once. -/
def marked (styles : List Style) (s : List Char) : List Char :=
  styles.flatMap Style.sequence ++ s ++ "\x1b[0m".toList

/-- Write a text in a style, where colours are on. -/
def styled (colors : Bool) (style : Style) (s : List Char) : List Char :=
  if colors then marked [style] s else s

end LossProbe.Text
