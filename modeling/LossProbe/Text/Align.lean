/-! # Text in columns

Padding a text to a width, counted in characters. A text that is wider stays as it is. -/

namespace LossProbe.Text

/-- Fill up to `width` on both sides; the right side gets the odd one. -/
def center (fill : Char) (width : Nat) (s : List Char) : List Char :=
  let missing := width - s.length
  List.replicate (missing / 2) fill ++ s ++ List.replicate (missing - missing / 2) fill

/-- Fill up to `width` on the left. -/
def alignRight (width : Nat) (s : List Char) : List Char := s.leftpad width ' '

/-- A text that is not too long fills the width once it is centred. -/
theorem length_center (fill : Char) (width : Nat) (s : List Char) (h : s.length ≤ width) :
    (center fill width s).length = width := by
  simp [center]
  omega

end LossProbe.Text
