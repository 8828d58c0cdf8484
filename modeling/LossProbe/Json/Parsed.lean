import LossProbe.Json.Error

/-! # Readers

A reader takes something from the front of a text. What it leaves is shorter than the text, and
the result says so, which is why every loop over readers ends. -/

namespace LossProbe.Json

/-- What was read from the front of `s`, and what is left. -/
structure Parsed (s : List Char) (α : Type) where
  value : α
  rest : List Char
  shorter : rest.length < s.length

/-- What was read from the front of `s`, perhaps nothing, and what is left. -/
structure Optional (s : List Char) (α : Type) where
  value : α
  rest : List Char
  notLonger : rest.length ≤ s.length

abbrev Reader (α : Type) := (s : List Char) → Except Failure (Parsed s α)

namespace Parsed

variable {s : List Char} {α β : Type}

/-- A value read from a single character. -/
def ofChar (c : Char) (rest : List Char) (value : α) : Parsed (c :: rest) α :=
  ⟨value, rest, Nat.lt_succ_self _⟩

/-- What was read, with a character before it that belongs to it. -/
def after (c : Char) (p : Parsed s α) : Parsed (c :: s) α :=
  ⟨p.value, p.rest, Nat.lt_succ_of_lt p.shorter⟩

/-- What was read from the rest of a longer text. -/
def inside {t : List Char} (p : Parsed t α) (h : t.length < s.length) : Parsed s α :=
  ⟨p.value, p.rest, Nat.lt_trans p.shorter h⟩

def map (f : α → β) (p : Parsed s α) : Parsed s β := ⟨f p.value, p.rest, p.shorter⟩

def toOptional (p : Parsed s α) : Optional s α := ⟨p.value, p.rest, Nat.le_of_lt p.shorter⟩

end Parsed

namespace Optional

variable {s : List Char} {α : Type}

/-- Nothing was read. -/
def nothing (s : List Char) (value : α) : Optional s α := ⟨value, s, Nat.le_refl _⟩

/-- What was read, with a character before it that belongs to it. -/
def after (c : Char) (p : Optional s α) : Parsed (c :: s) α :=
  ⟨p.value, p.rest, Nat.lt_succ_of_le p.notLonger⟩

end Optional

/-- The characters that may stand between the parts of a value. -/
def isBlank (c : Char) : Bool := c = ' ' || c = '\n' || c = '\t' || c = '\r'

def skipBlanks (s : List Char) : List Char := s.dropWhile isBlank

/-- Skipping blanks does not make a text longer. -/
theorem length_skipBlanks_le (s : List Char) : (skipBlanks s).length ≤ s.length :=
  s.dropWhile_sublist isBlank |>.length_le

/-- Behind the first character that is no blank, the text is shorter. -/
theorem length_lt_of_skipBlanks {s rest : List Char} {c : Char} (h : skipBlanks s = c :: rest) :
    rest.length < s.length := by
  have := length_skipBlanks_le s
  rw [h] at this
  exact this

/-- A reader for what follows blanks. -/
def Reader.afterBlanks {α : Type} (r : Reader α) : Reader α := fun s =>
  (r (skipBlanks s)).map fun p =>
    ⟨p.value, p.rest, Nat.lt_of_lt_of_le p.shorter (length_skipBlanks_le s)⟩

end LossProbe.Json
