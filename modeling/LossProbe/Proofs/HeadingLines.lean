import LossProbe.Proofs.TableReports

/-!
# Heading lines

Whatever a report is made for, its heading line has 80 characters, the title in the middle of
dashes, and is told apart from the line of every other heading (`heading_lines_frame_titles`). A
title fits between the marks at the ends because no address has more than 39 characters
(`IpAddr.length_chars_le`). It is read back from its line (`titleOf`) because it begins and ends
with neither a dash nor a blank, and titles are different because the texts of addresses are.
-/

namespace LossProbe.TableReport

open Text

/-! ## Titles -/

/-- What stands around a title: dashes, and a blank on either side. -/
def isFiller (c : Char) : Bool := c = '-' || c = ' '

/-- A text that has room in a heading line and can be told from what stands around it. -/
structure IsTitle (title : List Char) : Prop where
  basic : ∀ c ∈ title, isBasic c = true
  short : title.length ≤ 52
  head : ∀ c ∈ title.head?, isFiller c = false
  last : ∀ c ∈ title.getLast?, isFiller c = false

/-- The text of every heading can be told from the frame around it. -/
theorem isTitle_chars (h : Heading) : IsTitle h.chars := by
  cases h with
  | lossEvent ip =>
    rw [chars_lossEvent]
    constructor
    case basic =>
      have hkind : "loss event (".toList.all isBasic = true := by decide
      have hclose : [')'].all isBasic = true := by decide
      rw [List.forall_mem_append, List.forall_mem_append]
      exact ⟨⟨List.all_eq_true.mp hkind, fun c hc => (isMark_of_mem_address hc).1⟩,
        List.all_eq_true.mp hclose⟩
    case short =>
      -- The words before the address and the bracket behind it are 13 characters.
      have hkind : "loss event (".toList.length = 12 := rfl
      have haddress := IpAddr.length_chars_le ip
      rw [List.length_append, List.length_append, hkind, List.length_singleton]
      omega
    case head =>
      rintro c ⟨⟩
      rfl
    case last =>
      rw [List.getLast?_concat]
      rintro c ⟨⟩
      rfl
  | searchResults | cancelled | finished =>
    constructor
    case basic => exact List.all_eq_true.mp (by decide)
    case short => decide
    case head =>
      rintro c ⟨⟩
      rfl
    case last =>
      rintro c ⟨⟩
      rfl

/-- A heading begins with the first letter of its name. -/
theorem head?_chars (h : Heading) : h.chars.head? = h.name.toList.head? := by
  cases h with
  | lossEvent ip => simp [chars_lossEvent, Heading.name]
  | _ => rfl

/-- Different headings have different titles. -/
theorem chars_injective : Function.Injective Heading.chars := by
  intro h other heq
  have hfirst : h.name.toList.head? = other.name.toList.head? := by
    rw [← head?_chars, ← head?_chars, heq]
  cases h <;> cases other
  case lossEvent.lossEvent ip ip' =>
    rw [chars_lossEvent, chars_lossEvent, List.append_cancel_right_eq,
      List.append_cancel_left_eq] at heq
    exact congrArg _ (IpAddr.toString_injective (congrArg String.ofList heq))
  -- Titles of two kinds do not even have the first letter in common.
  all_goals first | rfl | simp [Heading.name] at hfirst

/-! ## Lines -/

/-- A title with a blank on either side and dashes around it, between the marks at the ends. -/
def framed (left : Nat) (title : List Char) (right : Nat) : List Char :=
  ['#', ' '] ++ (List.replicate left '-' ++ [' '] ++ title ++ ([' '] ++ List.replicate right '-')) ++
    [' ', '#']

/-- The title of a line: what is left of it without the marks at its ends, and without the dashes
    and blanks at either end then. -/
def titleOf (line : List Char) : List Char :=
  (((line.drop 2).rdrop 2).dropWhile isFiller).rdropWhile isFiller

section

variable {left right : Nat} {title : List Char}

/-- A title of basic characters is still one in its frame. -/
theorem basic_of_mem_framed (h : ∀ c ∈ title, isBasic c = true) :
    ∀ c ∈ framed left title right, isBasic c = true := by
  have hdashes (n : Nat) : ∀ c ∈ List.replicate n '-', isBasic c = true :=
    List.forall_mem_replicate.mpr (.inr (by decide))
  have hblank : ∀ c ∈ [' '], isBasic c = true := List.all_eq_true.mp (by decide)
  have hfront : ∀ c ∈ ['#', ' '], isBasic c = true := List.all_eq_true.mp (by decide)
  have hback : ∀ c ∈ [' ', '#'], isBasic c = true := List.all_eq_true.mp (by decide)
  simp only [framed, List.forall_mem_append]
  exact ⟨⟨hfront, ⟨⟨hdashes left, hblank⟩, h⟩, hblank, hdashes right⟩, hback⟩

/-- A title is read back from its line. -/
theorem titleOf_framed (h : IsTitle title) : titleOf (framed left title right) = title := by
  have hdashes (n : Nat) : ∀ c ∈ List.replicate n '-', isFiller c = true :=
    List.forall_mem_replicate.mpr (.inr rfl)
  have hblank : ∀ c ∈ [' '], isFiller c = true := List.all_eq_true.mp (by decide)
  -- The marks at both ends are dropped first, so only dashes and blanks surround the title.
  have hinner : ((framed left title right).drop 2).rdrop 2 =
      List.replicate left '-' ++ [' '] ++ title ++ ([' '] ++ List.replicate right '-') :=
    List.rdrop_append_length
  rw [titleOf, hinner]
  exact dropWhile_rdropWhile_append (List.forall_mem_append.mpr ⟨hdashes left, hblank⟩)
    (List.forall_mem_append.mpr ⟨hblank, hdashes right⟩) h.head h.last

end

/-- A line of 80 characters and as many columns, with a title in the middle of dashes. Where their
    number is odd, there is one more on the right. -/
structure Frames (title line : List Char) : Prop where
  length : line.length = 80
  width : Text.width line = 80
  centred : ∃ left right, line = framed left title right ∧ left ≤ right ∧ right ≤ left + 1
  read : titleOf line = title

/-- The line of every heading has eighty characters. -/
theorem length_headingLine (h : Heading) : (headingLine false h).length = 80 := by
  have hshort := (isTitle_chars h).short
  have hfits : (' ' :: h.chars ++ [' ']).length ≤ headingWidth := by
    simp only [headingWidth, List.length_append, List.length_cons, List.length_nil]
    omega
  rw [headingLine, styled, if_neg Bool.false_ne_true, headingText, List.length_append,
    List.length_append, length_center _ _ _ hfits]
  rfl

/-- The line of a heading is its text in a frame that has at most one more character behind it than
    before it. -/
theorem exists_framed (h : Heading) : ∃ left right,
    headingLine false h = framed left h.chars right ∧ left ≤ right ∧ right ≤ left + 1 := by
  -- The dashes that are missing are halved, and an odd one goes to the right.
  have hline (missing : Nat)
      (heq : headingWidth - (' ' :: h.chars ++ [' ']).length = missing) :
      headingLine false h = framed (missing / 2) h.chars (missing - missing / 2) := by
    rw [headingLine, styled, if_neg Bool.false_ne_true, headingText, center, heq]
    simp [framed]
  exact ⟨_, _, hline _ rfl, by omega, by omega⟩

/-- The line of every heading frames its text. -/
theorem frames_headingLine (h : Heading) : Frames h.chars (headingLine false h) := by
  have htitle := isTitle_chars h
  have hlength := length_headingLine h
  obtain ⟨left, right, hline, hle, hle'⟩ := exists_framed h
  rw [hline] at hlength ⊢
  constructor
  case length => exact hlength
  case width => rw [width_basic (basic_of_mem_framed htitle.basic), hlength]
  case centred => exact ⟨left, right, rfl, hle, hle'⟩
  case read => exact titleOf_framed htitle

/-! ## Main result -/

/-- A heading is written as its text. -/
theorem toList_toString (h : Heading) : (toString h).toList = h.chars := String.toList_ofList

/-- Every heading has a line of 80 columns, with its text in the middle of dashes and unbroken. The
    text is read back from the line, so different headings have different lines. -/
theorem heading_lines_frame_titles :
    (∀ h : Heading, Frames (toString h).toList (headingLine false h)) ∧
      Function.Injective (headingLine false) := by
  constructor
  · intro h
    rw [toList_toString]
    exact frames_headingLine h
  · intro h other heq
    apply chars_injective
    rw [← (frames_headingLine h).read, ← (frames_headingLine other).read, heq]

example : String.ofList (headingLine false (.lossEvent (.v4 10 0 0 7))) =
    "# -------------------------- loss event (10.0.0.7) --------------------------- #" := by
  decide

end LossProbe.TableReport
