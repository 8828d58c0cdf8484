import LossProbe.Json.Reader
import LossProbe.Proofs.JsonSyntax

/-!
# Reading numerals

What a reader takes from the front of a text and what it leaves is its outcome (`taken`,
`takenMaybe`); why it gives up does not matter here. The reader of number literals takes every
numeral that is not followed by a character that could belong to it (`taken_literal_chars`), and
it takes nothing but numerals (`exists_numeral`).
-/

namespace LossProbe.Json

/-! ## Outcomes -/

section Outcome

variable {s t : List Char} {α β : Type}

/-- What was read and what is left. -/
def taken : Except Failure (Parsed s α) → Option (α × List Char)
  | .ok p => some (p.value, p.rest)
  | .error _ => none

/-- What was read, perhaps nothing, and what is left. -/
def takenMaybe : Except Failure (Optional s α) → Option (α × List Char)
  | .ok p => some (p.value, p.rest)
  | .error _ => none

/-- A reader that succeeds takes its value, and leaves the rest of the text. -/
@[simp] theorem taken_ok (p : Parsed s α) : taken (.ok p) = some (p.value, p.rest) := rfl

@[simp] theorem taken_error (e : Failure) : taken (.error e : Except _ (Parsed s α)) = none := rfl

/-- A reader that may leave the text as it is takes its value too. -/
@[simp] theorem takenMaybe_ok (p : Optional s α) :
    takenMaybe (.ok p) = some (p.value, p.rest) := rfl

@[simp] theorem takenMaybe_error (e : Failure) :
    takenMaybe (.error e : Except _ (Optional s α)) = none := rfl

/-- A change of what was read that leaves the rest alone. -/
theorem taken_map {r : Except Failure (Parsed s α)} {g : Parsed s α → Parsed t β} (f : α → β)
    (hvalue : ∀ p, (g p).value = f p.value) (hrest : ∀ p, (g p).rest = p.rest) :
    taken (r.map g) = (taken r).map fun p => (f p.1, p.2) := by
  cases r with
  | error e => rfl
  | ok p => simp [Except.map, hvalue, hrest]

/-- What is taken is the same if the text began one character earlier. -/
theorem taken_map_after (c : Char) (r : Except Failure (Parsed s α)) :
    taken (r.map (·.after c)) = taken r := by
  cases r <;> rfl

/-- A value that is made of a reader's value is taken with the same rest. -/
theorem takenMaybe_map {r : Except Failure (Parsed s α)} {g : Parsed s α → Optional t β} (f : α → β)
    (hvalue : ∀ p, (g p).value = f p.value) (hrest : ∀ p, (g p).rest = p.rest) :
    takenMaybe (r.map g) = (taken r).map fun p => (f p.1, p.2) := by
  cases r with
  | error e => rfl
  | ok p => simp [Except.map, hvalue, hrest]

/-- Where what was read was changed, something was read. -/
theorem exists_of_map {x : Option (α × List Char)} {f : α → β} {v : β} {rest : List Char}
    (h : (x.map fun p => (f p.1, p.2)) = some (v, rest)) : ∃ u, x = some (u, rest) := by
  rw [Option.map_eq_some_iff] at h
  obtain ⟨⟨u, r⟩, hx, heq⟩ := h
  cases heq
  exact ⟨u, hx⟩

/-- Blanks in front of a value are not part of what is taken. -/
theorem taken_afterBlanks (r : Reader α) (s : List Char) :
    taken (r.afterBlanks s) = taken (r (skipBlanks s)) := by
  unfold Reader.afterBlanks
  cases r (skipBlanks s) <;> rfl

/-- A reader that succeeds takes something. -/
theorem length_lt_of_taken {r : Except Failure (Parsed s α)} {v : α} {rest : List Char}
    (h : taken r = some (v, rest)) : rest.length < s.length := by
  cases r with
  | error e => exact nomatch h
  | ok p =>
    cases h
    exact p.shorter

end Outcome

/-! ## Digits -/

/-- Not followed by a digit. -/
def EndsDigits (rest : List Char) : Prop := ∀ c ∈ rest.head?, Decimal.digit? c = none

/-- Not followed by a character that could belong to a number. -/
def EndsNumeral (rest : List Char) : Prop :=
  ∀ c ∈ rest.head?, Decimal.digit? c = none ∧ c ≠ '.' ∧ c ≠ 'e' ∧ c ≠ 'E'

/-- Where a number ends, its digits end. -/
theorem EndsNumeral.endsDigits {rest : List Char} (h : EndsNumeral rest) : EndsDigits rest :=
  fun c hc => (h c hc).1

theorem endsDigits_cons {c : Char} {rest : List Char} :
    EndsDigits (c :: rest) ↔ Decimal.digit? c = none := by simp [EndsDigits]

/-- Each digit is read as what it stands for. -/
@[simp] theorem digit?_digitChar (d : Fin 10) : Decimal.digit? (digitChar d) = some d.val := by
  revert d
  decide

/-- What is read as a digit is one of the ten. -/
theorem exists_digitChar {c : Char} {n : Nat} (h : Decimal.digit? c = some n) :
    ∃ d : Fin 10, c = digitChar d ∧ n = d.val := by
  unfold Decimal.digit? at h
  split at h
  · rename_i hrange
    cases h
    -- The digits stand next to each other, so a digit is its distance from zero.
    have hlow : '0'.toNat ≤ c.toNat := hrange.1
    have hhigh : c.toNat ≤ '9'.toNat := hrange.2
    refine ⟨⟨c.toNat - '0'.toNat, ?_⟩, ?_, rfl⟩
    · simp only [Char.reduceToNat] at *
      omega
    · rw [digitChar, Nat.add_sub_cancel' hlow, Char.ofNat_toNat]
  · exact nomatch h

/-- If each value is that of a digit, then a list of values is that of a list of digits. -/
theorem exists_map_of_values {δ : Type} {value? : Char → Option Nat} {char : δ → Char}
    {value : δ → Nat} (hdigit : ∀ c n, value? c = some n → ∃ d, char d = c ∧ value d = n)
    {cs : List Char} {ns : List Nat} (h : cs.map value? = ns.map some) :
    ∃ ds : List δ, ds.map char = cs ∧ ds.map value = ns := by
  induction cs generalizing ns with
  | nil =>
    obtain rfl : ns = [] := by simpa using h.symm
    exact ⟨[], rfl, rfl⟩
  | cons c cs ih =>
    match ns, h with
    | n :: ns, h =>
      obtain ⟨hc, hcs⟩ := List.cons.inj h
      obtain ⟨d, rfl, rfl⟩ := hdigit c n hc
      obtain ⟨ds, rfl, rfl⟩ := ih hcs
      exact ⟨d :: ds, rfl, rfl⟩

/-- A run of digits is taken as a whole. -/
theorem spanDigits_append {rest : List Char} (h : EndsDigits rest) (ds : List (Fin 10)) :
    spanDigits (ds.map digitChar ++ rest) = (ds.map Fin.val, rest) := by
  induction ds with
  | nil =>
    cases rest with
    | nil => rfl
    | cons c rest =>
      rw [endsDigits_cons] at h
      simp [spanDigits, h]
  | cons d ds ih => simp [spanDigits, ih]

/-- What a run of digits is taken from. -/
theorem exists_digits (s : List Char) :
    ∃ ds : List (Fin 10), (spanDigits s).1 = ds.map Fin.val ∧
      s = ds.map digitChar ++ (spanDigits s).2 ∧ EndsDigits (spanDigits s).2 := by
  -- The digits found so far go in front of those that the rest begins with.
  induction s with
  | nil => exact ⟨[], rfl, rfl, by simp [EndsDigits, spanDigits]⟩
  | cons c s ih =>
    obtain ⟨ds, hvalues, hs, hend⟩ := ih
    cases hc : Decimal.digit? c with
    | none =>
      refine ⟨[], ?_⟩
      simp [spanDigits, hc, endsDigits_cons]
    | some n =>
      obtain ⟨d, rfl, rfl⟩ := exists_digitChar hc
      refine ⟨d :: ds, ?_⟩
      simp only [spanDigits, hc, List.map_cons, List.cons_append]
      exact ⟨by rw [hvalues], by rw [← hs], hend⟩

/-- A run of digits is taken up to the first character that is no digit, and it has to have one. -/
theorem taken_digitRun (s : List Char) :
    taken (digitRun s) = if (spanDigits s).1 = [] then none else some (spanDigits s) := by
  unfold digitRun
  split
  · rename_i h
    simp [h]
  · rename_i h
    simp [h]

/-- Digits are taken whole where they end. -/
theorem taken_digitRun_chars (d : Digits) {rest : List Char} (h : EndsDigits rest) :
    taken (digitRun (d.chars ++ rest)) = some (d.values, rest) := by
  rw [taken_digitRun, Digits.chars, spanDigits_append h]
  simp [Digits.values, Digits.list]

/-- A run of digits is only taken where there are digits. -/
theorem exists_digits_of_taken {s rest : List Char} {v : List Nat}
    (h : taken (digitRun s) = some (v, rest)) : ∃ d : Digits, s = d.chars ++ rest := by
  rw [taken_digitRun] at h
  split at h
  · exact nomatch h
  · rename_i hne
    obtain ⟨ds, hvalues, hs, -⟩ := exists_digits s
    -- A run without a digit is refused, so there is a first one.
    cases ds with
    | nil => exact absurd hvalues hne
    | cons first more =>
      refine ⟨⟨first, more⟩, ?_⟩
      rw [Option.some.inj h] at hs
      exact hs

/-- Digits that are taken as a part of something more. -/
theorem exists_digits_of_map {β : Type} {f : List Nat → β} {s rest : List Char} {v : β}
    (h : ((taken (digitRun s)).map fun p => (f p.1, p.2)) = some (v, rest)) :
    ∃ d : Digits, s = d.chars ++ rest := by
  obtain ⟨ds, hrun⟩ := exists_of_map h
  exact exists_digits_of_taken hrun

/-! ## The parts of a numeral -/

/-- Only the digit zero is written as such. -/
theorem digitChar_eq_zero_iff {d : Fin 10} : digitChar d = '0' ↔ d = 0 := by
  revert d
  decide

/-- A zero in front is taken alone, and refused before another digit. -/
theorem taken_wholePart_zero (rest : List Char) :
    taken (wholePart ('0' :: rest)) =
      if (spanDigits rest).1 = [] then some ([0], rest) else none := by
  unfold wholePart
  rcases hspan : spanDigits rest with ⟨_ | ⟨d, ds⟩, more⟩
  · simp [hspan, Parsed.ofChar]
  · simp [hspan]

/-- Without a zero in front all digits are taken. -/
theorem taken_wholePart_other {s : List Char} (h : ∀ rest, s ≠ '0' :: rest) :
    taken (wholePart s) = taken (digitRun s) := by
  unfold wholePart
  split
  · exact absurd rfl (h _)
  · rfl

/-- The digits before the point are taken whole. -/
theorem taken_wholePart_chars (w : Whole) {rest : List Char} (h : EndsDigits rest) :
    taken (wholePart (w.chars ++ rest)) = some (w.values, rest) := by
  obtain ⟨⟨first, more⟩, alone⟩ := w
  by_cases hfirst : first = 0
  · -- A zero stands alone, so no digit follows that the reader would refuse.
    subst hfirst
    cases alone rfl
    have hspan := spanDigits_append h []
    rw [List.map_nil, List.nil_append] at hspan
    refine (taken_wholePart_zero rest).trans ?_
    show (if (spanDigits rest).1 = [] then some ([0], rest) else none) = _
    rw [hspan]
    rfl
  · refine (taken_wholePart_other fun _ hs => ?_).trans (taken_digitRun_chars _ h)
    exact hfirst (digitChar_eq_zero_iff.mp (List.cons.inj hs).1)

/-- Only digits that may stand before a point are taken there. -/
theorem exists_whole {s rest : List Char} {v : List Nat}
    (h : taken (wholePart s) = some (v, rest)) : ∃ w : Whole, s = w.chars ++ rest := by
  by_cases hzero : ∃ more, s = '0' :: more
  · obtain ⟨more, rfl⟩ := hzero
    rw [taken_wholePart_zero] at h
    split at h
    · cases h
      exact ⟨⟨⟨0, []⟩, fun _ => rfl⟩, rfl⟩
    · exact nomatch h
  · rw [taken_wholePart_other fun more hs => hzero ⟨more, hs⟩] at h
    obtain ⟨⟨first, more⟩, rfl⟩ := exists_digits_of_taken h
    refine ⟨⟨⟨first, more⟩, fun hfirst => ?_⟩, rfl⟩
    -- A zero in front would have been read as a number of one digit.
    subst hfirst
    exact absurd ⟨more.map digitChar ++ rest, rfl⟩ hzero

/-- Behind the point a run of digits is taken. -/
theorem takenMaybe_fractionPart_point (rest : List Char) :
    takenMaybe (fractionPart ('.' :: rest)) =
      (taken (digitRun rest)).map fun p => (some p.1, p.2) :=
  takenMaybe_map some (fun _ => rfl) (fun _ => rfl)

/-- Without a point there is no fraction, and nothing is taken. -/
theorem takenMaybe_fractionPart_nothing {s : List Char} (h : ∀ c ∈ s.head?, c ≠ '.') :
    takenMaybe (fractionPart s) = some (none, s) := by
  unfold fractionPart
  split
  · exact absurd rfl (h '.' rfl)
  · rfl

/-- A fraction, or none, is taken whole. -/
theorem takenMaybe_fractionPart_chars (f : Option Digits) {rest : List Char} (h : EndsDigits rest)
    (hpoint : ∀ c ∈ rest.head?, c ≠ '.') :
    takenMaybe (fractionPart (Numeral.fractionChars f ++ rest)) =
      some (f.map Digits.values, rest) := by
  cases f with
  | none => exact takenMaybe_fractionPart_nothing hpoint
  | some d =>
    rw [Numeral.fractionChars, List.cons_append, takenMaybe_fractionPart_point,
      taken_digitRun_chars d h]
    rfl

/-- Only a fraction is taken as one, or nothing. -/
theorem exists_fraction {s rest : List Char} {v : Option (List Nat)}
    (h : takenMaybe (fractionPart s) = some (v, rest)) :
    ∃ f : Option Digits, s = Numeral.fractionChars f ++ rest := by
  -- Whether a fraction comes is decided by the next character.
  by_cases hpoint : ∀ c ∈ s.head?, c ≠ '.'
  · rw [takenMaybe_fractionPart_nothing hpoint] at h
    cases h
    exact ⟨none, rfl⟩
  · cases s with
    | nil => simp at hpoint
    | cons c s =>
      have hc : c = '.' := by simpa using hpoint
      subst hc
      rw [takenMaybe_fractionPart_point] at h
      obtain ⟨d, rfl⟩ := exists_digits_of_map h
      exact ⟨some d, rfl⟩

/-- A plus sign counts for nothing. -/
theorem taken_signedDigits_plus (rest : List Char) :
    taken (signedDigits ('+' :: rest)) =
      (taken (digitRun rest)).map fun p => ((false, p.1), p.2) :=
  taken_map (false, ·) (fun _ => rfl) (fun _ => rfl)

/-- A minus sign makes the exponent negative. -/
theorem taken_signedDigits_minus (rest : List Char) :
    taken (signedDigits ('-' :: rest)) =
      (taken (digitRun rest)).map fun p => ((true, p.1), p.2) :=
  taken_map (true, ·) (fun _ => rfl) (fun _ => rfl)

/-- An exponent without a sign is not negative. -/
theorem taken_signedDigits_other {s : List Char} (hplus : ∀ rest, s ≠ '+' :: rest)
    (hminus : ∀ rest, s ≠ '-' :: rest) :
    taken (signedDigits s) = (taken (digitRun s)).map fun p => ((false, p.1), p.2) := by
  unfold signedDigits
  split
  · exact absurd rfl (hplus _)
  · exact absurd rfl (hminus _)
  · exact taken_map (false, ·) (fun _ => rfl) (fun _ => rfl)

/-- No digit looks like a sign. -/
theorem digitChar_ne_sign (d : Fin 10) : digitChar d ≠ '+' ∧ digitChar d ≠ '-' := by
  revert d
  decide

/-- The sign and the digits of an exponent are taken whole. -/
theorem taken_signedDigits_chars (e : Exponent) {rest : List Char} (h : EndsDigits rest) :
    taken (signedDigits (e.signChars ++ (e.digits.chars ++ rest))) =
      some ((e.negative, e.digits.values), rest) := by
  have hrun := taken_digitRun_chars e.digits h
  obtain ⟨capital, sign, digits⟩ := e
  rcases sign with _ | _ | _
  · -- Without a sign the first digit is what tells the reader that there is none.
    obtain ⟨hplus, hminus⟩ := digitChar_ne_sign digits.first
    refine (taken_signedDigits_other (fun _ hs => hplus (List.cons.inj hs).1)
      fun _ hs => hminus (List.cons.inj hs).1).trans ?_
    exact congrArg (Option.map _) hrun
  · exact (taken_signedDigits_plus _).trans (congrArg (Option.map _) hrun)
  · exact (taken_signedDigits_minus _).trans (congrArg (Option.map _) hrun)

/-- Only a sign and digits are taken for an exponent, with a letter in either case. -/
theorem exists_signedDigits {s rest : List Char} {v : Bool × List Nat}
    (h : taken (signedDigits s) = some (v, rest)) (capital : Bool) :
    ∃ e : Exponent, e.capital = capital ∧ s = e.signChars ++ (e.digits.chars ++ rest) := by
  -- Two signs and none, and each way of writing comes from one of the three.
  by_cases hplus : ∃ more, s = '+' :: more
  · obtain ⟨more, rfl⟩ := hplus
    rw [taken_signedDigits_plus] at h
    obtain ⟨d, rfl⟩ := exists_digits_of_map h
    exact ⟨⟨capital, some false, d⟩, rfl, rfl⟩
  by_cases hminus : ∃ more, s = '-' :: more
  · obtain ⟨more, rfl⟩ := hminus
    rw [taken_signedDigits_minus] at h
    obtain ⟨d, rfl⟩ := exists_digits_of_map h
    exact ⟨⟨capital, some true, d⟩, rfl, rfl⟩
  · rw [taken_signedDigits_other (fun more hs => hplus ⟨more, hs⟩) fun more hs =>
      hminus ⟨more, hs⟩] at h
    obtain ⟨d, rfl⟩ := exists_digits_of_map h
    exact ⟨⟨capital, none, d⟩, rfl, rfl⟩

/-- Behind the letter, a sign and digits are taken. -/
theorem takenMaybe_exponentPart_letter {c : Char} (h : c = 'e' ∨ c = 'E') (rest : List Char) :
    takenMaybe (exponentPart (c :: rest)) =
      (taken (signedDigits rest)).map fun p => (some p.1, p.2) := by
  rw [exponentPart, if_pos h]
  exact takenMaybe_map some (fun _ => rfl) (fun _ => rfl)

/-- Without the letter there is no exponent, and nothing is taken. -/
theorem takenMaybe_exponentPart_nothing {s : List Char} (h : ∀ c ∈ s.head?, c ≠ 'e' ∧ c ≠ 'E') :
    takenMaybe (exponentPart s) = some (none, s) := by
  cases s with
  | nil => rfl
  | cons c s =>
    have hc := h c rfl
    rw [exponentPart, if_neg (by simp [hc])]
    rfl

/-- An exponent begins with the letter in one of its two cases. -/
theorem Exponent.letter_eq (e : Exponent) : e.letter = 'e' ∨ e.letter = 'E' := by
  unfold Exponent.letter
  split
  · exact .inr rfl
  · exact .inl rfl

/-- An exponent, or none, is taken whole. -/
theorem takenMaybe_exponentPart_chars (e : Option Exponent) {rest : List Char}
    (h : EndsNumeral rest) :
    takenMaybe (exponentPart (Numeral.exponentChars e ++ rest)) =
      some (e.map fun e => (e.negative, e.digits.values), rest) := by
  cases e with
  | none => exact takenMaybe_exponentPart_nothing fun c hc => (h c hc).2.2
  | some e =>
    rw [Numeral.exponentChars, Exponent.chars, List.cons_append,
      takenMaybe_exponentPart_letter e.letter_eq, List.append_assoc,
      taken_signedDigits_chars e h.endsDigits]
    rfl

/-- Only an exponent is taken as one, or nothing. -/
theorem exists_exponent {s rest : List Char} {v : Option (Bool × List Nat)}
    (h : takenMaybe (exponentPart s) = some (v, rest)) :
    ∃ e : Option Exponent, s = Numeral.exponentChars e ++ rest := by
  by_cases hletter : ∀ c ∈ s.head?, c ≠ 'e' ∧ c ≠ 'E'
  · rw [takenMaybe_exponentPart_nothing hletter] at h
    cases h
    exact ⟨none, rfl⟩
  · cases s with
    | nil => simp at hletter
    | cons c s =>
      -- The letter tells whether the exponent is written with a capital.
      have hc : c = 'e' ∨ c = 'E' := by
        simp only [List.head?_cons, Option.mem_some_iff, forall_eq'] at hletter
        grind
      rw [takenMaybe_exponentPart_letter hc] at h
      obtain ⟨v, hsigned⟩ := exists_of_map h
      obtain ⟨e, hcapital, rfl⟩ := exists_signedDigits hsigned (decide (c = 'E'))
      refine ⟨some e, ?_⟩
      have hc : e.letter = c := by
        unfold Exponent.letter
        rw [hcapital]
        rcases hc with rfl | rfl <;> rfl
      rw [Numeral.exponentChars, Exponent.chars, hc, List.cons_append, List.append_assoc]

/-! ## The whole numeral -/

/-- A numeral, split into the values of its digits. -/
def Numeral.literal (n : Numeral) : Literal :=
  ⟨n.negative, n.whole.values, n.fraction.map Digits.values,
    n.exponent.map fun e => (e.negative, e.digits.values)⟩

/-- The parts of a number are taken one after the other. -/
theorem taken_literal (negative : Bool) (s : List Char) :
    taken (literal negative s) =
      (taken (wholePart s)).bind fun w =>
        (takenMaybe (fractionPart w.2)).bind fun f =>
          (takenMaybe (exponentPart f.2)).map fun e => (⟨negative, w.1, f.1, e.1⟩, e.2) := by
  unfold literal
  simp only [bind, Except.bind]
  -- One part after the other, and what fails ends both sides.
  cases wholePart s with
  | error e => rfl
  | ok w =>
    simp only [taken_ok, Option.bind_some]
    cases fractionPart w.rest with
    | error e => rfl
    | ok f =>
      simp only [takenMaybe_ok, Option.bind_some]
      cases exponentPart f.rest with
      | error e => rfl
      | ok e => rfl

/-- Digits end before an exponent, and no point comes there. -/
theorem endsDigits_exponentChars (e : Option Exponent) {rest : List Char} (h : EndsNumeral rest) :
    EndsDigits (Numeral.exponentChars e ++ rest) ∧
      ∀ c ∈ (Numeral.exponentChars e ++ rest).head?, c ≠ '.' := by
  cases e with
  | none => exact ⟨h.endsDigits, fun c hc => (h c hc).2.1⟩
  | some e =>
    rw [Numeral.exponentChars, Exponent.chars, List.cons_append, endsDigits_cons]
    rcases e.letter_eq with hl | hl <;> rw [hl] <;> exact ⟨by decide, by simp⟩

/-- Digits end before a fraction. -/
theorem endsDigits_fractionChars (f : Option Digits) {rest : List Char} (h : EndsDigits rest) :
    EndsDigits (Numeral.fractionChars f ++ rest) := by
  cases f with
  | none => exact h
  | some d =>
    rw [Numeral.fractionChars, List.cons_append, endsDigits_cons]
    decide

/-- A numeral is taken as a whole. -/
theorem taken_literal_chars (n : Numeral) {rest : List Char} (h : EndsNumeral rest) :
    taken (literal n.negative (n.unsignedChars ++ rest)) = some (n.literal, rest) := by
  -- Each part ends the digits before it, so the parts are taken one by one from the front.
  have hexponent := endsDigits_exponentChars n.exponent h
  have hfraction := endsDigits_fractionChars n.fraction hexponent.1
  rw [taken_literal, Numeral.unsignedChars, List.append_assoc, List.append_assoc,
    taken_wholePart_chars n.whole hfraction, Option.bind_some,
    takenMaybe_fractionPart_chars n.fraction hexponent.1 hexponent.2, Option.bind_some,
    takenMaybe_exponentPart_chars n.exponent h]
  rfl

/-- Nothing but numerals is taken. -/
theorem exists_numeral {negative : Bool} {s rest : List Char} {l : Literal}
    (h : taken (literal negative s) = some (l, rest)) :
    ∃ n : Numeral, n.negative = negative ∧ s = n.unsignedChars ++ rest := by
  rw [taken_literal, Option.bind_eq_some_iff] at h
  obtain ⟨⟨w, r⟩, hwhole, h⟩ := h
  rw [Option.bind_eq_some_iff] at h
  obtain ⟨⟨f, r'⟩, hfraction, h⟩ := h
  obtain ⟨e, hexponent⟩ := exists_of_map h
  -- Each part of the text is the spelling of one part of the numeral.
  obtain ⟨whole, rfl⟩ := exists_whole hwhole
  obtain ⟨fraction, hf⟩ := exists_fraction hfraction
  obtain ⟨exponent, he⟩ := exists_exponent hexponent
  refine ⟨⟨negative, whole, fraction, exponent⟩, rfl, ?_⟩
  dsimp only at hf he
  rw [Numeral.unsignedChars, hf, he, List.append_assoc, List.append_assoc]

/-- A number is taken where its literal is, unless no value can be made of it. -/
theorem taken_numberAfterSign (negative : Bool) (s : List Char) :
    taken (numberAfterSign negative s) =
      (taken (literal negative s)).bind fun p => p.1.number.toOption.map (·, p.2) := by
  unfold numberAfterSign
  cases literal negative s with
  | error e => rfl
  | ok p =>
    simp only [taken_ok, Option.bind_some]
    cases p.value.number <;> rfl

/-- The number that is taken for a numeral is what its literal stands for. -/
theorem taken_numberAfterSign_chars (n : Numeral) {rest : List Char} (h : EndsNumeral rest) :
    taken (numberAfterSign n.negative (n.unsignedChars ++ rest)) =
      n.literal.number.toOption.map (·, rest) := by
  rw [taken_numberAfterSign, taken_literal_chars n h]
  rfl

/-- Only a numeral is taken for a number. -/
theorem exists_numeral_of_number {negative : Bool} {s rest : List Char} {v : Number}
    (h : taken (numberAfterSign negative s) = some (v, rest)) :
    ∃ n : Numeral, n.negative = negative ∧ s = n.unsignedChars ++ rest := by
  rw [taken_numberAfterSign, Option.bind_eq_some_iff] at h
  obtain ⟨⟨l, r⟩, hliteral, h⟩ := h
  rw [Option.map_eq_some_iff] at h
  obtain ⟨n, -, heq⟩ := h
  cases heq
  exact exists_numeral hliteral

end LossProbe.Json
