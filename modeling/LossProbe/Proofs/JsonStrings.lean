import LossProbe.Proofs.JsonNumerals

/-!
# Reading string literals

The reader of string literals takes the pieces of a literal one by one and fails exactly where
half of a surrogate pair stands without the other (`taken_stringTail_chars`). It takes nothing but
string literals (`exists_pieces`).
-/

namespace LossProbe.Json

/-! ## Escapes -/

/-- A hexadecimal digit is read as what it stands for, in either case of its letter. -/
@[simp] theorem hexDigit?_char (d : HexDigit) : hexDigit? d.char = some d.value := by
  cases d with
  | digit d =>
    revert d
    decide
  | letter l capital =>
    revert l capital
    decide

/-- What is read as a hexadecimal digit is one of them. -/
theorem exists_hexDigit {c : Char} {n : Nat} (h : hexDigit? c = some n) :
    ∃ d : HexDigit, c = d.char := by
  unfold hexDigit? at h
  dsimp only at h
  -- Three ranges of characters: digits, small letters and capital ones.
  split at h
  · refine ⟨.digit ⟨c.toNat - 48, by omega⟩, ?_⟩
    rw [HexDigit.char, digitChar]
    show c = Char.ofNat (48 + (c.toNat - 48))
    rw [Nat.add_sub_cancel' (by omega), Char.ofNat_toNat]
  · split at h
    · refine ⟨.letter ⟨c.toNat - 97, by omega⟩ false, ?_⟩
      show c = Char.ofNat (97 + (c.toNat - 97))
      rw [Nat.add_sub_cancel' (by omega), Char.ofNat_toNat]
    · split at h
      · refine ⟨.letter ⟨c.toNat - 65, by omega⟩ true, ?_⟩
        show c = Char.ofNat (65 + (c.toNat - 65))
        rw [Nat.add_sub_cancel' (by omega), Char.ofNat_toNat]
      · cases h

/-- Each number below sixteen has a digit that is written small. -/
theorem exists_hexDigit_of_lt {n : Nat} (h : n < 16) :
    ∃ d : HexDigit, d.char = Nat.digitChar n ∧ d.value = n := by
  have hall : ∀ n : Fin 16, hexDigit? (Nat.digitChar n) = some n.val := by decide
  have hvalue := hall ⟨n, h⟩
  obtain ⟨d, hd⟩ := exists_hexDigit hvalue
  rw [hd, hexDigit?_char] at hvalue
  exact ⟨d, hd.symm, Option.some.inj hvalue⟩

/-- Four digits are read as one number, the first of them counting most. -/
theorem hexValue?_chars (u : CodeUnit) :
    hexValue? u.a.char u.b.char u.c.char u.d.char = some u.value := by
  simp [hexValue?, CodeUnit.value]

/-- Four hexadecimal digits are taken as the code unit that they spell. -/
theorem taken_hexEscape_chars (u : CodeUnit) (rest : List Char) :
    taken (hexEscape (u.chars ++ rest)) = some (u.value, rest) := by
  simp only [CodeUnit.chars, List.cons_append, List.nil_append, hexEscape, hexValue?_chars]
  rfl

/-- Only four hexadecimal digits are taken for a code unit. -/
theorem exists_codeUnit {s rest : List Char} {v : Nat} (h : taken (hexEscape s) = some (v, rest)) :
    ∃ u : CodeUnit, s = u.chars ++ rest := by
  unfold hexEscape at h
  -- Four characters have to follow, and each of them has to be a digit.
  split at h
  · split at h
    · rename_i hvalue
      cases h
      simp only [hexValue?, Option.bind_eq_bind, Option.bind_eq_some_iff] at hvalue
      obtain ⟨na, ha, nb, hb, nc, hc, nd, hd, -⟩ := hvalue
      obtain ⟨a, rfl⟩ := exists_hexDigit ha
      obtain ⟨b, rfl⟩ := exists_hexDigit hb
      obtain ⟨c, rfl⟩ := exists_hexDigit hc
      obtain ⟨d, rfl⟩ := exists_hexDigit hd
      exact ⟨⟨a, b, c, d⟩, rfl⟩
    · exact nomatch h
  · split at h <;> exact nomatch h

/-- The reader knows the second half of a pair when it sees one. -/
theorem isTrailingSurrogate_iff (u : CodeUnit) : isTrailingSurrogate u.value ↔ u.Trailing := by
  simp only [isTrailingSurrogate, Bool.and_eq_true, decide_eq_true_eq, CodeUnit.Trailing]
  omega

/-- The reader knows the first half of a pair when it sees one. -/
theorem isLeadingSurrogate_iff (u : CodeUnit) : isLeadingSurrogate u.value ↔ u.Leading := by
  simp only [isLeadingSurrogate, Bool.and_eq_true, decide_eq_true_eq, CodeUnit.Leading]
  omega

/-- Behind the first half of a pair an escape is taken if it is the second. -/
theorem taken_trailingSurrogate_unicode (high : Nat) (rest : List Char) :
    taken (trailingSurrogate high ('\\' :: 'u' :: rest)) =
      (taken (hexEscape rest)).bind fun p =>
        if isTrailingSurrogate p.1 then some (surrogatePair high p.1, p.2) else none := by
  simp only [trailingSurrogate, bind, Except.bind]
  cases hexEscape rest with
  | error e => rfl
  | ok p =>
    simp only [taken_ok, Option.bind_some]
    split
    · simp only [pure, Except.pure, taken_ok, Parsed.after, Parsed.map]
    · rfl

/-- Behind the first half of a pair nothing but an escape by digits is taken. -/
theorem taken_trailingSurrogate_other {high : Nat} {s : List Char}
    (h : ∀ rest, s ≠ '\\' :: 'u' :: rest) : taken (trailingSurrogate high s) = none := by
  unfold trailingSurrogate
  split
  · rfl
  · rfl
  · exact absurd rfl (h _)
  · rfl
  · rfl

/-- Four digits are a character, unless they are half of a pair: the second half is refused, and the
    first needs the other behind it. -/
theorem taken_unicodeEscape (s : List Char) :
    taken (unicodeEscape s) =
      (taken (hexEscape s)).bind fun p =>
        if isTrailingSurrogate p.1 then none
        else if isLeadingSurrogate p.1 then taken (trailingSurrogate p.1 p.2)
        else some (Char.ofNat p.1, p.2) := by
  simp only [unicodeEscape, bind, Except.bind]
  cases hexEscape s with
  | error e => rfl
  | ok p =>
    simp only [taken_ok, Option.bind_some]
    split
    · rfl
    · split
      · cases trailingSurrogate p.value p.rest <;> rfl
      · rfl

/-- The letter `u` begins an escape by digits. -/
theorem taken_escape_unicode (rest : List Char) :
    taken (escape ('u' :: rest)) = taken (unicodeEscape rest) := taken_map_after 'u' _

/-- An escape of one letter is taken as the character that it means. -/
theorem taken_escape_letter (e : ShortEscape) (rest : List Char) :
    taken (escape (e.letter :: rest)) = some (e.meaning, rest) := by
  cases e <;> rfl

/-- Only eight letters are escapes by themselves. -/
theorem exists_shortEscape {c d : Char} (h : simpleEscape? c = some d) :
    ∃ e : ShortEscape, c = e.letter := by
  unfold simpleEscape? at h
  split at h
  · exact ⟨.quote, rfl⟩
  · exact ⟨.backslash, rfl⟩
  · exact ⟨.slash, rfl⟩
  · exact ⟨.backspace, rfl⟩
  · exact ⟨.formFeed, rfl⟩
  · exact ⟨.lineFeed, rfl⟩
  · exact ⟨.carriageReturn, rfl⟩
  · exact ⟨.tab, rfl⟩
  · exact nomatch h

/-! ## Whole literals -/

/-- A string that has no end is not taken. -/
theorem taken_stringTail_nil : taken (stringTail []) = none := by
  rw [stringTail]
  rfl

/-- A quote ends a string. -/
theorem taken_stringTail_quote (rest : List Char) :
    taken (stringTail ('"' :: rest)) = some ([], rest) := by
  rw [stringTail]
  rfl

/-- A backslash begins an escape, and the string goes on behind it. -/
theorem taken_stringTail_escape (rest : List Char) :
    taken (stringTail ('\\' :: rest)) =
      (taken (escape rest)).bind fun p =>
        (taken (stringTail p.2)).map fun q => (p.1 :: q.1, q.2) := by
  rw [stringTail, if_neg (by decide), if_pos rfl]
  cases escape rest with
  | error e => rfl
  | ok p =>
    simp only [taken_ok, Option.bind_some]
    dsimp only [Parsed.after]
    cases stringTail p.rest <;> rfl

/-- Any other printable character stands for itself. -/
theorem taken_stringTail_plain {c : Char} (h : 0x20 ≤ c.toNat ∧ c ≠ '"' ∧ c ≠ '\\')
    (rest : List Char) :
    taken (stringTail (c :: rest)) =
      (taken (stringTail rest)).map fun q => (c :: q.1, q.2) := by
  rw [stringTail, if_neg h.2.1, if_neg h.2.2, if_neg (by omega)]
  cases stringTail rest <;> rfl

/-- A control character is refused in a string. -/
theorem taken_stringTail_control {c : Char} (h : c.toNat < 0x20) (rest : List Char) :
    taken (stringTail (c :: rest)) = none := by
  have hquote : c ≠ '"' := by rintro rfl; exact absurd h (by decide)
  have hbackslash : c ≠ '\\' := by rintro rfl; exact absurd h (by decide)
  rw [stringTail, if_neg hquote, if_neg hbackslash, if_pos h]
  rfl

/-- An escape by digits in a string is refused, waits for the other half of its pair, or stands for
    a character. -/
theorem taken_stringTail_unicode (u : CodeUnit) (s : List Char) :
    taken (stringTail ('\\' :: 'u' :: (u.chars ++ s))) =
      if u.Trailing then none
      else if u.Leading then
        (taken (trailingSurrogate u.value s)).bind fun p =>
          (taken (stringTail p.2)).map fun q => (p.1 :: q.1, q.2)
      else (taken (stringTail s)).map fun q => (Char.ofNat u.value :: q.1, q.2) := by
  rw [taken_stringTail_escape, taken_escape_unicode, taken_unicodeEscape, taken_hexEscape_chars,
    Option.bind_some]
  simp only [isTrailingSurrogate_iff, isLeadingSurrogate_iff]
  split
  · rfl
  · split <;> rfl

/-- The letter `u` is no escape by itself. -/
theorem ShortEscape.letter_ne_u (e : ShortEscape) : e.letter ≠ 'u' := by cases e <;> decide

/-- The spelling of an escape by digits comes before that of the further pieces. -/
theorem chars_unicode_append (u : CodeUnit) (more : Pieces) (s : List Char) :
    Pieces.chars (.unicode u :: more) ++ s = '\\' :: 'u' :: (u.chars ++ (more.chars ++ s)) := by
  simp [Pieces.chars, Piece.chars]

/-- Pieces are spelled one after the other. -/
theorem chars_append (ps qs : Pieces) : Pieces.chars (ps ++ qs) = ps.chars ++ qs.chars :=
  List.flatMap_append

/-- A piece that is no `\\u` escape cannot be the second half of a surrogate pair. -/
theorem taken_trailingSurrogate_chars {ps : Pieces} (h : ∀ v more, ps ≠ .unicode v :: more)
    (high : Nat) (rest : List Char) :
    taken (trailingSurrogate high (ps.chars ++ '"' :: rest)) = none := by
  apply taken_trailingSurrogate_other
  intro more heq
  -- A quote, a character that needs no backslash, or an escape by another letter comes next.
  cases ps with
  | nil => exact absurd (List.cons.inj heq).1 (by decide)
  | cons p ps =>
    cases p with
    | plain c hc => exact hc.2.2 (List.cons.inj heq).1
    | short e => exact e.letter_ne_u (List.cons.inj (List.cons.inj heq).2).1
    | unicode v => exact h v ps rfl

/-- A string literal is taken as a whole, unless half of a surrogate pair stands alone. -/
theorem taken_stringTail_chars (ps : Pieces) (rest : List Char) :
    taken (stringTail (ps.chars ++ '"' :: rest)) = ps.unescape?.map (·, rest) := by
  -- The reader branches as `unescape?` does, so each of its cases is one equation of the reader.
  fun_induction Pieces.unescape? ps with
  | case1 => exact taken_stringTail_quote rest
  | case2 c hc more ih =>
    show taken (stringTail (c :: (Pieces.chars more ++ '"' :: rest))) = _
    rw [taken_stringTail_plain hc, ih, Option.map_map, Option.map_map]
    rfl
  | case3 e more ih =>
    show taken (stringTail ('\\' :: e.letter :: (Pieces.chars more ++ '"' :: rest))) = _
    rw [taken_stringTail_escape, taken_escape_letter, Option.bind_some, ih, Option.map_map,
      Option.map_map]
    rfl
  | case4 u more htrailing =>
    rw [chars_unicode_append, taken_stringTail_unicode, if_pos htrailing]
    rfl
  -- Behind the first half of a pair only an escape of the second half goes on.
  | case5 u htrailing hleading v more hv ih =>
    rw [chars_unicode_append, taken_stringTail_unicode, if_neg htrailing, if_pos hleading,
      chars_unicode_append, taken_trailingSurrogate_unicode, taken_hexEscape_chars,
      Option.bind_some, if_pos ((isTrailingSurrogate_iff v).mpr hv), Option.bind_some, ih,
      Option.map_map, Option.map_map]
    simp only [surrogatePair, Function.comp_def]
  | case6 u htrailing hleading v more hv =>
    rw [chars_unicode_append, taken_stringTail_unicode, if_neg htrailing, if_pos hleading,
      chars_unicode_append, taken_trailingSurrogate_unicode, taken_hexEscape_chars,
      Option.bind_some, if_neg (mt (isTrailingSurrogate_iff v).mp hv)]
    rfl
  | case7 u more htrailing hleading hother =>
    rw [chars_unicode_append, taken_stringTail_unicode, if_neg htrailing, if_pos hleading,
      taken_trailingSurrogate_chars hother]
    rfl
  | case8 u more htrailing hleading ih =>
    rw [chars_unicode_append, taken_stringTail_unicode, if_neg htrailing, if_neg hleading, ih,
      Option.map_map, Option.map_map]
    rfl

/-- A string literal is taken as the text that it stands for, if there is one. -/
theorem taken_text_chars (ps : Pieces) (rest : List Char) :
    taken (text (ps.chars ++ '"' :: rest)) =
      ps.unescape?.map fun cs => (String.ofList cs, rest) := by
  rw [text, taken_map String.ofList (fun _ => rfl) (fun _ => rfl), taken_stringTail_chars,
    Option.map_map]
  rfl

/-! ## Nothing but literals -/

/-- Only escapes by digits are taken as such: one of them, or the two of a pair. -/
theorem exists_pieces_of_unicodeEscape {s rest : List Char} {c : Char}
    (h : taken (unicodeEscape s) = some (c, rest)) :
    ∃ ps : Pieces, '\\' :: 'u' :: s = ps.chars ++ rest := by
  rw [taken_unicodeEscape, Option.bind_eq_some_iff] at h
  obtain ⟨⟨n, r⟩, hhex, h⟩ := h
  obtain ⟨u, rfl⟩ := exists_codeUnit hhex
  split at h
  · exact nomatch h
  · split at h
    · -- A leading surrogate is only taken together with the trailing one behind it.
      by_cases hr : ∃ more, r = '\\' :: 'u' :: more
      · obtain ⟨more, rfl⟩ := hr
        rw [taken_trailingSurrogate_unicode, Option.bind_eq_some_iff] at h
        obtain ⟨⟨m, r'⟩, hhex', h⟩ := h
        obtain ⟨v, rfl⟩ := exists_codeUnit hhex'
        split at h
        · obtain ⟨-, rfl⟩ := Prod.mk.inj (Option.some.inj h)
          exact ⟨[.unicode u, .unicode v], by rw [chars_unicode_append, chars_unicode_append]; rfl⟩
        · exact nomatch h
      · rw [taken_trailingSurrogate_other fun more heq => hr ⟨more, heq⟩] at h
        exact nomatch h
    · cases h
      exact ⟨[.unicode u], by rw [chars_unicode_append]; rfl⟩

/-- Only escapes are taken as such. -/
theorem exists_pieces_of_escape {s rest : List Char} {c : Char}
    (h : taken (escape s) = some (c, rest)) : ∃ ps : Pieces, '\\' :: s = ps.chars ++ rest := by
  unfold escape at h
  -- The next character is missing, begins an escape by digits, or is an escape by itself.
  split at h
  · exact nomatch h
  · rw [taken_map_after] at h
    exact exists_pieces_of_unicodeEscape h
  · split at h
    · rename_i hsimple
      obtain ⟨e, rfl⟩ := exists_shortEscape hsimple
      cases h
      exact ⟨[.short e], rfl⟩
    · exact nomatch h

/-- Nothing but string literals is taken. -/
theorem exists_pieces {s rest v : List Char} (h : taken (stringTail s) = some (v, rest)) :
    ∃ ps : Pieces, s = ps.chars ++ '"' :: rest := by
  -- An escape takes up to twelve characters at once, so the induction is on the length.
  induction hn : s.length using Nat.strongRecOn generalizing s v with
  | ind n ih =>
    cases s with
    | nil =>
      rw [taken_stringTail_nil] at h
      exact nomatch h
    | cons c s =>
      rw [List.length_cons] at hn
      -- A quote ends the string, a backslash begins an escape, and anything else is plain or
      -- refused.
      by_cases hquote : c = '"'
      · subst hquote
        rw [taken_stringTail_quote] at h
        cases h
        exact ⟨[], rfl⟩
      by_cases hbackslash : c = '\\'
      · subst hbackslash
        rw [taken_stringTail_escape, Option.bind_eq_some_iff] at h
        obtain ⟨⟨d, r⟩, hescape, h⟩ := h
        obtain ⟨ds, hmore⟩ := exists_of_map h
        have hr := length_lt_of_taken hescape
        obtain ⟨ps, hps⟩ := exists_pieces_of_escape hescape
        obtain ⟨qs, rfl⟩ := ih r.length (by omega) hmore rfl
        exact ⟨ps ++ qs, by rw [hps, chars_append, List.append_assoc]⟩
      by_cases hcontrol : c.toNat < 0x20
      · rw [taken_stringTail_control hcontrol] at h
        exact nomatch h
      · have hplain : 0x20 ≤ c.toNat ∧ c ≠ '"' ∧ c ≠ '\\' :=
          ⟨by omega, hquote, hbackslash⟩
        rw [taken_stringTail_plain hplain] at h
        obtain ⟨ds, hmore⟩ := exists_of_map h
        obtain ⟨ps, rfl⟩ := ih s.length (by omega) hmore rfl
        exact ⟨.plain c hplain :: ps, rfl⟩

/-- Only a string literal is taken for a text. -/
theorem exists_pieces_of_text {s rest : List Char} {v : String}
    (h : taken (text s) = some (v, rest)) : ∃ ps : Pieces, s = ps.chars ++ '"' :: rest := by
  rw [text, taken_map String.ofList (fun _ => rfl) (fun _ => rfl)] at h
  obtain ⟨cs, htail⟩ := exists_of_map h
  exact exists_pieces htail

end LossProbe.Json
