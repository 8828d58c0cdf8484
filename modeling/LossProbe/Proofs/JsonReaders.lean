import LossProbe.Proofs.JsonStrings

/-!
# Readers of arrays and objects

The outcome of each reader, whatever the reader of single items is: what it takes is said by the
first character that is not blank (`taken_items`, `taken_members` and the like). A value is told
by its first character, and so is where it may end.
-/

namespace LossProbe.Json

/-! ## Blanks -/

/-- Each of the four blanks is skipped. -/
@[simp] theorem isBlank_char (b : Blank) : isBlank b.char = true := by cases b <;> rfl

/-- What is skipped is one of the four blanks. -/
theorem exists_blank {c : Char} (h : isBlank c = true) : ∃ b : Blank, c = b.char := by
  simp only [isBlank, Bool.or_eq_true, decide_eq_true_eq] at h
  rcases h with ((rfl | rfl) | rfl) | rfl
  · exact ⟨.space, rfl⟩
  · exact ⟨.lineFeed, rfl⟩
  · exact ⟨.tab, rfl⟩
  · exact ⟨.carriageReturn, rfl⟩

/-- Nothing is skipped before a character that is no blank. -/
theorem skipBlanks_cons {c : Char} (h : isBlank c = false) (s : List Char) :
    skipBlanks (c :: s) = c :: s := by
  rw [skipBlanks, List.dropWhile_cons_of_neg (by simp [h])]

/-- Blanks in front are skipped. -/
theorem skipBlanks_append (b : Blanks) (s : List Char) :
    skipBlanks (b.chars ++ s) = skipBlanks s := by
  induction b with
  | nil => rfl
  | cons b bs ih =>
    show skipBlanks (b.char :: (Blanks.chars bs ++ s)) = _
    rw [skipBlanks, List.dropWhile_cons_of_pos (isBlank_char b)]
    exact ih

/-- What is skipped at the front of a text is a run of blanks. -/
theorem exists_blanks (s : List Char) : ∃ b : Blanks, s = b.chars ++ skipBlanks s := by
  induction s with
  | nil => exact ⟨[], rfl⟩
  | cons c s ih =>
    -- The blanks end at the first character that is none.
    by_cases hc : isBlank c = true
    · obtain ⟨b, rfl⟩ := exists_blank hc
      obtain ⟨bs, hbs⟩ := ih
      refine ⟨b :: bs, ?_⟩
      rw [skipBlanks, List.dropWhile_cons_of_pos hc]
      exact congrArg (b.char :: ·) hbs
    · exact ⟨[], by rw [skipBlanks_cons (by simpa using hc)]; rfl⟩

/-- Blanks do not belong to a number. -/
theorem endsNumeral_blanks (b : Blanks) {s : List Char} (h : EndsNumeral s) :
    EndsNumeral (b.chars ++ s) := by
  cases b with
  | nil => exact h
  | cons b bs =>
    intro c hc
    cases hc
    cases b <;> decide

/-- A number ends with the text. -/
theorem endsNumeral_nil : EndsNumeral [] := fun _ hc => nomatch hc

/-- A number ends before a comma and before a closing bracket or brace. -/
theorem endsNumeral_cons {c : Char} (h : c = ',' ∨ c = ']' ∨ c = '\x7d') (s : List Char) :
    EndsNumeral (c :: s) := by
  intro d hd
  cases hd
  rcases h with rfl | rfl | rfl <;> decide

/-! ## Words -/

/-- A word that stands in front is taken. -/
theorem takenMaybe_word_append (w s : List Char) : takenMaybe (word (w ++ s) w) = some ((), s) := by
  induction w with
  | nil =>
    rw [word]
    rfl
  | cons c w ih =>
    rw [List.cons_append, word, if_pos rfl]
    cases h : word (w ++ s) w with
    | error e => rw [h] at ih; exact nomatch ih
    | ok p => rw [h] at ih; exact ih

/-- A word is only taken where it stands in front. -/
theorem eq_append_of_word {w s rest : List Char} {v : Unit}
    (h : takenMaybe (word s w) = some (v, rest)) : s = w ++ rest := by
  induction w generalizing s with
  | nil =>
    rw [word] at h
    cases h
    rfl
  | cons c w ih =>
    cases s with
    | nil => exact nomatch h
    | cons d s =>
      rw [word] at h
      split at h
      · rename_i hd
        cases hw : word s w with
        | error e => rw [hw] at h; exact nomatch h
        | ok p =>
          rw [hw] at h
          cases h
          -- What the rest of the word leaves is what the whole word leaves.
          have hs : s = w ++ p.rest := ih (by rw [hw]; rfl)
          show d :: s = c :: (w ++ p.rest)
          rw [hd, ← hs]
      · exact nomatch h

/-- The value of a word is taken where its other letters follow the first. -/
theorem taken_constant (v : Json) (tail : String) (first : Char) (rest : List Char) :
    taken (constant v tail first rest) =
      (takenMaybe (word rest tail.toList)).map fun p => (v, p.2) := by
  unfold constant
  cases word rest tail.toList <;> rfl

/-- A word is taken as the value that it stands for. -/
theorem taken_constant_append (v : Json) (tail : String) (first : Char) (rest : List Char) :
    taken (constant v tail first (tail.toList ++ rest)) = some (v, rest) := by
  rw [taken_constant, takenMaybe_word_append]
  rfl

/-! ## Arrays and objects, whatever they hold -/

/-- An item of an array and all that follow it. -/
def itemsFrom (item : Reader Json) (s : List Char) : Option (List Json × List Char) :=
  (taken (item (skipBlanks s))).bind fun p =>
    (taken (items item p.2)).map fun q => (p.1 :: q.1, q.2)

/-- A member of an object, from its opening quote on, and all that follow it. -/
def membersFrom (item : Reader Json) (s : List Char) : Option (List (String × Json) × List Char) :=
  match skipBlanks s with
  | [] => none
  | c :: rest =>
    if c = '"' then
      (taken (member item rest)).bind fun p =>
        (taken (members item p.2)).map fun q => (p.1 :: q.1, q.2)
    else none

section

variable (item : Reader Json) (s : List Char)

/-- Further items end at a bracket, or go on behind a comma that no bracket follows. -/
theorem taken_items :
    taken (items item s) =
      match skipBlanks s with
      | [] => none
      | c :: rest =>
        if c = ']' then some ([], rest)
        else if c = ',' then
          match skipBlanks rest with
          | [] => none
          | d :: _ => if d = ']' then none else itemsFrom item rest
        else none := by
  rw [items]
  split
  · rename_i hs
    rw [hs]
    rfl
  · rename_i c rest hs
    have hfirst := taken_afterBlanks item rest
    simp only [hs]
    split
    · rfl
    · split
      · cases hr : skipBlanks rest with
        | nil => rfl
        | cons d more =>
          dsimp only
          split
          · -- A comma before the closing bracket is one too many.
            rfl
          · rw [itemsFrom, ← hfirst]
            cases Reader.afterBlanks item rest with
            | error e => rfl
            | ok p =>
              dsimp only [Parsed.inside, taken_ok, Option.bind_some]
              cases items item p.rest <;> rfl
      · rfl

/-- An array ends at once, or has a first item and further ones. -/
theorem taken_arrayTail :
    taken (arrayTail item s) =
      match skipBlanks s with
      | [] => none
      | c :: rest =>
        if c = ']' then some (.array [], rest)
        else (itemsFrom item s).map fun p => (.array p.1, p.2) := by
  -- The first item may have blanks in front, which are skipped twice and counted once.
  have hfirst := taken_afterBlanks item s
  rw [arrayTail]
  split
  · rename_i hs
    rw [hs]
    rfl
  · rename_i c rest hs
    simp only [hs]
    split
    · rfl
    · rw [itemsFrom, ← hfirst]
      cases Reader.afterBlanks item s with
      | error e => rfl
      | ok p =>
        dsimp only [taken_ok, Option.bind_some]
        cases items item p.rest <;> rfl

/-- A colon is taken, with the blanks in front of it. -/
theorem taken_colon :
    taken (colon s) =
      match skipBlanks s with
      | [] => none
      | c :: rest => if c = ':' then some ((), rest) else none := by
  rw [colon]
  split
  · rename_i hs
    rw [hs]
    rfl
  · rename_i c rest hs
    simp only [hs]
    split <;> rfl

/-- A member is a name, a colon and a value. -/
theorem taken_member :
    taken (member item s) =
      (taken (text s)).bind fun name =>
        (taken (colon name.2)).bind fun afterColon =>
          (taken (item (skipBlanks afterColon.2))).map fun value =>
            ((name.1, value.1), value.2) := by
  unfold member
  simp only [bind, Except.bind]
  -- What fails first ends it all, with nothing taken.
  cases text s with
  | error e => rfl
  | ok name =>
    simp only [taken_ok, Option.bind_some]
    cases colon name.rest with
    | error e => rfl
    | ok afterColon =>
      simp only [taken_ok, Option.bind_some]
      rw [← taken_afterBlanks]
      cases Reader.afterBlanks item afterColon.rest <;> rfl

/-- Further members end at a brace, or go on behind a comma. -/
theorem taken_members :
    taken (members item s) =
      match skipBlanks s with
      | [] => none
      | c :: rest =>
        if c = '\x7d' then some ([], rest)
        else if c = ',' then membersFrom item rest
        else none := by
  -- The cases are those of the reader: the end of the text, a brace, a comma with what comes behind
  -- it, and anything else.
  rw [members]
  split
  · rename_i hs
    rw [hs]
    rfl
  · rename_i c rest hs
    simp only [hs]
    split
    · rfl
    · split
      · rw [membersFrom]
        split
        · rename_i hr
          rw [hr]
          rfl
        · rename_i d more hr
          simp only [hr]
          split
          · cases member item more with
            | error e => rfl
            | ok p =>
              dsimp only [Parsed.inside, taken_ok, Option.bind_some]
              cases members item p.rest <;> rfl
          · split <;> rfl
      · rfl

/-- An object ends at once, or has a first member and further ones. -/
theorem taken_objectTail :
    taken (objectTail item s) =
      match skipBlanks s with
      | [] => none
      | c :: rest =>
        if c = '\x7d' then some (.object [], rest)
        else (membersFrom item s).map fun p => (.object p.1, p.2) := by
  -- The cases are those of the reader: the end of the text, a brace, a quote, and anything else.
  rw [objectTail]
  split
  · rename_i hs
    rw [hs]
    rfl
  · rename_i c rest hs
    simp only [hs]
    split
    · rfl
    · simp only [membersFrom, hs]
      split
      · cases member item rest with
        | error e => rfl
        | ok p =>
          dsimp only [Parsed.inside, taken_ok, Option.bind_some]
          cases members item p.rest <;> rfl
      · rfl

/-! A text that begins as it should is read on. -/

/-- Blanks and a bracket end the items. -/
theorem taken_items_close (b : Blanks) (rest : List Char) :
    taken (items item (b.chars ++ ']' :: rest)) = some ([], rest) := by
  rw [taken_items, skipBlanks_append]
  rfl

/-- Blanks and a comma bring another item, unless a bracket comes at once. -/
theorem taken_items_comma (b : Blanks) {c : Char} {cs : List Char} (h : skipBlanks s = c :: cs)
    (hc : c ≠ ']') : taken (items item (b.chars ++ ',' :: s)) = itemsFrom item s := by
  rw [taken_items, skipBlanks_append, skipBlanks_cons (by decide)]
  dsimp only
  rw [if_neg (by decide), if_pos rfl, h]
  exact if_neg hc

/-- An array that does not end at once has items. -/
theorem taken_arrayTail_items {c : Char} {cs : List Char} (h : skipBlanks s = c :: cs)
    (hc : c ≠ ']') :
    taken (arrayTail item s) = (itemsFrom item s).map fun p => (.array p.1, p.2) := by
  rw [taken_arrayTail, h]
  exact if_neg hc

/-- Blanks and a brace end the members. -/
theorem taken_members_close (b : Blanks) (rest : List Char) :
    taken (members item (b.chars ++ '\x7d' :: rest)) = some ([], rest) := by
  rw [taken_members, skipBlanks_append]
  rfl

/-- Blanks and a comma bring another member. -/
theorem taken_members_comma (b : Blanks) :
    taken (members item (b.chars ++ ',' :: s)) = membersFrom item s := by
  rw [taken_members, skipBlanks_append]
  rfl

/-- An object that goes on with a quote has members. -/
theorem taken_objectTail_members {cs : List Char} (h : skipBlanks s = '"' :: cs) :
    taken (objectTail item s) = (membersFrom item s).map fun p => (.object p.1, p.2) := by
  rw [taken_objectTail, h]
  rfl

end

/-! ## Values by their first character -/

section

variable (nested : Option (Reader Json))

/-- A quote begins a string. -/
theorem taken_valueWith_quote (rest : List Char) :
    taken (valueWith nested ('"' :: rest)) =
      (taken (text rest)).map fun p => (.string p.1, p.2) := by
  show taken ((text rest).map fun p => (p.map Json.string).after '"') = _
  exact taken_map Json.string (fun _ => rfl) (fun _ => rfl)

/-- A minus sign begins a number. -/
theorem taken_valueWith_minus (rest : List Char) :
    taken (valueWith nested ('-' :: rest)) =
      (taken (numberAfterSign true rest)).map fun p => (.number p.1, p.2) := by
  show taken ((numberAfterSign true rest).map fun p => (p.map Json.number).after '-') = _
  exact taken_map Json.number (fun _ => rfl) (fun _ => rfl)

/-- A digit begins a number, and belongs to it. -/
theorem taken_valueWith_digit (d : Fin 10) (rest : List Char) :
    taken (valueWith nested (digitChar d :: rest)) =
      (taken (numberAfterSign false (digitChar d :: rest))).map fun p => (.number p.1, p.2) := by
  -- A digit begins no word and is no sign.
  have hne : ∀ d, digitChar d ≠ 'n' ∧ digitChar d ≠ 't' ∧ digitChar d ≠ 'f' ∧
      digitChar d ≠ '-' := by decide
  obtain ⟨hn, ht, hf, hminus⟩ := hne d
  unfold valueWith
  dsimp only
  rw [if_neg hn, if_neg ht, if_neg hf, if_neg hminus, if_pos (by simp)]
  exact taken_map Json.number (fun _ => rfl) (fun _ => rfl)

/-- A bracket begins an array, where one may still be nested. -/
theorem taken_valueWith_bracket (rest : List Char) :
    taken (valueWith nested ('[' :: rest)) =
      nested.bind fun item => taken (arrayTail item rest) := by
  cases nested with
  | none => rfl
  | some item =>
    exact taken_map_after '[' _

/-- A brace begins an object, where one may still be nested. -/
theorem taken_valueWith_brace (rest : List Char) :
    taken (valueWith nested ('\x7b' :: rest)) =
      nested.bind fun item => taken (objectTail item rest) := by
  cases nested with
  | none => rfl
  | some item =>
    exact taken_map_after '\x7b' _

/-- A numeral is taken as the number that its literal stands for. -/
theorem taken_valueWith_numeral (n : Numeral) {rest : List Char} (h : EndsNumeral rest) :
    taken (valueWith nested (n.chars ++ rest)) =
      n.literal.number.toOption.map fun x => (.number x, rest) := by
  have hnumber := taken_numberAfterSign_chars n h
  by_cases hnegative : n.negative = true
  · rw [hnegative] at hnumber
    rw [Numeral.chars, if_pos hnegative, List.cons_append, taken_valueWith_minus, hnumber,
      Option.map_map]
    rfl
  · have hpositive : n.negative = false := by simpa using hnegative
    rw [hpositive] at hnumber
    rw [Numeral.chars, if_neg hnegative]
    -- Without a sign a numeral is told by its first digit, which stays in what is read.
    have hdigit := taken_valueWith_digit nested n.whole.first
      (n.whole.more.map digitChar ++
        (Numeral.fractionChars n.fraction ++ Numeral.exponentChars n.exponent) ++ rest)
    refine hdigit.trans ?_
    show (taken (numberAfterSign false (n.unsignedChars ++ rest))).map _ = _
    rw [hnumber, Option.map_map]
    rfl

end

end LossProbe.Json
