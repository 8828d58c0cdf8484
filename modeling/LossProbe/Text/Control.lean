/-! # Text without control sequences

A terminal takes some characters as commands: single controls, and sequences that an escape
character begins. `withoutControls` leaves what the terminal would show. Of the controls only those
that are blanks stay; inside of a short sequence they end it. -/

namespace LossProbe.Text

/-- Where a terminal is in a text. -/
inductive Mode where
  | shown
  /-- Behind an escape character. -/
  | escape
  /-- Behind an escape character and more that belongs to it. -/
  | escapeMore
  /-- In a sequence that a letter ends. -/
  | sequence
  /-- In a title, which a bell ends. -/
  | title
  /-- In a text that only another escape sequence ends. -/
  | message
deriving DecidableEq, Repr

/-- What a character does: whether it is shown, and where the terminal is behind it. -/
structure Effect where
  isShown : Bool
  mode : Mode
deriving DecidableEq, Repr

namespace Mode

/-- A control within a short sequence: a blank is shown and ends the sequence. -/
def control (m : Mode) (c : Char) : Effect :=
  if ['\t', '\n', '\x0c', '\r'].contains c then ⟨true, .shown⟩ else ⟨false, m⟩

/-- A character behind an escape character. -/
def begin (c : Char) : Mode :=
  if c = '[' then .sequence
  else if c = ']' then .title
  else if ['P', 'X', '^', '_'].contains c then .message
  else if c.toNat < 0x30 then .escapeMore
  else if c.toNat < 0x7f then .shown
  else .escape

/-- What a character does. -/
def step (m : Mode) (c : Char) : Effect :=
  if c = '\x1b' then ⟨false, .escape⟩
  else if c = '\x18' || c = '\x1a' then ⟨false, .shown⟩
  else
    match m with
    | .shown => if c.toNat < 0x20 then control .shown c else ⟨c ≠ '\x7f', .shown⟩
    | .escape => if c.toNat < 0x20 then control .escape c else ⟨false, begin c⟩
    | .escapeMore =>
      if c.toNat < 0x20 then control .escapeMore c
      else ⟨false, if 0x30 ≤ c.toNat && c.toNat < 0x7f then .shown else .escapeMore⟩
    | .sequence =>
      if c.toNat < 0x20 then control .sequence c
      else ⟨false, if 0x40 ≤ c.toNat && c.toNat < 0x7f then .shown else .sequence⟩
    | .title => ⟨false, if c = '\x07' then .shown else .title⟩
    | .message => ⟨false, .message⟩

/-- What is shown of a text. -/
def filter (m : Mode) : List Char → List Char
  | [] => []
  | c :: cs =>
    let effect := m.step c
    if effect.isShown then c :: filter effect.mode cs else filter effect.mode cs

end Mode

/-- The text that a terminal shows. -/
def withoutControls (s : List Char) : List Char := Mode.shown.filter s

end LossProbe.Text
