import LossProbe.Text.Table.Extending
import LossProbe.Text.Table.Ignorable
import LossProbe.Text.Table.Shapeless

/-! # Quoted text

A text as messages show it: in quotes, with escapes for the quote, the backslash and the
characters that would not be seen by themselves. -/

namespace LossProbe.Text

/-- Whether a character can be seen by itself. -/
def isVisible (c : Char) : Bool :=
  !(Table.shapeless.contains c || Table.extending.contains c || Table.ignorable.contains c)

/-- A character by its number. -/
def codeEscape (c : Char) : List Char :=
  '\\' :: 'u' :: '\x7b' :: Nat.toDigits 16 c.toNat ++ ['\x7d']

/-- A character inside quotes. -/
def quotedChar (c : Char) : List Char :=
  match c with
  | '"' => ['\\', '"']
  | '\\' => ['\\', '\\']
  | '\n' => ['\\', 'n']
  | '\r' => ['\\', 'r']
  | '\t' => ['\\', 't']
  | '\x00' => ['\\', '0']
  | c => if isVisible c then [c] else codeEscape c

def quoted (s : String) : String := String.ofList ('"' :: s.toList.flatMap quotedChar ++ ['"'])

end LossProbe.Text
