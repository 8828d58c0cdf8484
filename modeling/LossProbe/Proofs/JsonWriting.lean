import LossProbe.Proofs.DecimalText
import LossProbe.Proofs.JsonMeaning
import LossProbe.Proofs.JsonTrees

/-!
# Written values read back

What is written for a value is the text of a tree, so it can be read. `ReadsBack` says what as:
strings come back character for character (`readsBack_string`), natural numbers of 64 bits exactly
(`readsBack_nat`), a double as a number or as nothing (`readsBack_float`), and arrays and objects
part by part (`readsBack_array`, `readsBack_object`). None of these texts has a control character,
so each value takes one line.
-/

namespace LossProbe.Json

/-! ## Texts of one line -/

/-- Whether a text is without control characters. -/
def Printable (s : List Char) : Prop := ∀ c ∈ s, 0x20 ≤ c.toNat

instance (s : List Char) : Decidable (Printable s) :=
  List.decidableBAll (fun c : Char => 0x20 ≤ c.toNat) s

/-- Two texts are printable together where both are. -/
theorem printable_append {s t : List Char} : Printable (s ++ t) ↔ Printable s ∧ Printable t :=
  List.forall_mem_append

/-- A text is printable where its first character and the rest are. -/
theorem printable_cons {c : Char} {s : List Char} :
    Printable (c :: s) ↔ 0x20 ≤ c.toNat ∧ Printable s :=
  List.forall_mem_cons

theorem printable_nil : Printable [] := nofun

/-- Digits are printable. -/
theorem Digits.printable (d : Digits) : Printable d.chars := by
  have hdigit : ∀ x, 0x20 ≤ (digitChar x).toNat := by decide
  intro c hc
  obtain ⟨x, -, rfl⟩ := List.mem_map.mp hc
  exact hdigit x

/-- The letter, the sign and the digits of an exponent are printable. -/
theorem Exponent.printable (e : Exponent) : Printable e.chars := by
  have hletter : 0x20 ≤ e.letter.toNat := by
    unfold letter
    cases e.capital <;> decide
  have hsign : Printable e.signChars := by
    unfold signChars
    split <;> decide
  exact printable_cons.mpr ⟨hletter, printable_append.mpr ⟨hsign, e.digits.printable⟩⟩

/-- However a number is written, it is printable. -/
theorem Numeral.printable (n : Numeral) : Printable n.chars := by
  have hfraction : Printable (fractionChars n.fraction) := by
    cases n.fraction with
    | none => exact printable_nil
    | some d => exact printable_cons.mpr ⟨by decide, d.printable⟩
  have hexponent : Printable (exponentChars n.exponent) := by
    cases n.exponent with
    | none => exact printable_nil
    | some e => exact e.printable
  have hunsigned : Printable n.unsignedChars :=
    printable_append.mpr ⟨n.whole.printable, printable_append.mpr ⟨hfraction, hexponent⟩⟩
  -- The sign, where there is one, stands in front of all this.
  unfold chars
  split
  · exact printable_cons.mpr ⟨by decide, hunsigned⟩
  · exact hunsigned

/-! ## Strings -/

/-- A piece that stands for this character. -/
def Piece.StandsFor (p : Piece) (c : Char) : Prop :=
  ∀ more, Pieces.unescape? (p :: more) = (Pieces.unescape? more).map (c :: ·)

/-- A control character as four hexadecimal digits. -/
theorem exists_piece_control {c : Char} (h : c.toNat < 0x20) :
    ∃ p : Piece, p.chars =
        ['\\', 'u', '0', '0', Nat.digitChar (c.toNat / 16), Nat.digitChar (c.toNat % 16)] ∧
      p.StandsFor c := by
  obtain ⟨high, hhigh, hhighValue⟩ := exists_hexDigit_of_lt (n := c.toNat / 16) (by omega)
  obtain ⟨low, hlow, hlowValue⟩ := exists_hexDigit_of_lt (n := c.toNat % 16) (by omega)
  let u : CodeUnit := ⟨.digit 0, .digit 0, high, low⟩
  have hvalue : u.value = c.toNat := by
    show ((0 * 16 + 0) * 16 + high.value) * 16 + low.value = c.toNat
    omega
  refine ⟨.unicode u, by rw [← hhigh, ← hlow]; rfl, fun more => ?_⟩
  -- No control character is half of a surrogate pair.
  have htrailing : ¬ u.Trailing := by unfold CodeUnit.Trailing; omega
  have hleading : ¬ u.Leading := by unfold CodeUnit.Leading; omega
  rw [Pieces.unescape?.eq_def]
  dsimp only
  rw [if_neg htrailing, if_neg hleading, hvalue, Char.ofNat_toNat]

/-- What is written for a character inside quotes is a piece that stands for it. -/
theorem exists_piece (c : Char) :
    ∃ p : Piece, p.chars = escaped c ∧ p.StandsFor c ∧ Printable (escaped c) := by
  have hdigit : ∀ n : Fin 16, 0x20 ≤ (Nat.digitChar n).toNat := by decide
  -- Seven characters have an escape of their own, other control characters are written by digits,
  -- and the rest as it is.
  unfold escaped
  split
  · exact ⟨.short .quote, rfl, fun _ => rfl, by decide⟩
  · exact ⟨.short .backslash, rfl, fun _ => rfl, by decide⟩
  · exact ⟨.short .backspace, rfl, fun _ => rfl, by decide⟩
  · exact ⟨.short .formFeed, rfl, fun _ => rfl, by decide⟩
  · exact ⟨.short .lineFeed, rfl, fun _ => rfl, by decide⟩
  · exact ⟨.short .carriageReturn, rfl, fun _ => rfl, by decide⟩
  · exact ⟨.short .tab, rfl, fun _ => rfl, by decide⟩
  · rename_i hquote hbackslash _ _ _ _ _
    split
    · rename_i hcontrol
      obtain ⟨p, hchars, hp⟩ := exists_piece_control hcontrol
      have hhigh := hdigit ⟨c.toNat / 16, by omega⟩
      have hlow := hdigit ⟨c.toNat % 16, by omega⟩
      refine ⟨p, hchars, hp, ?_⟩
      simp [Printable, hhigh, hlow]
    · rename_i hplain
      have hplain : 0x20 ≤ c.toNat := by omega
      exact ⟨.plain c ⟨hplain, hquote, hbackslash⟩, rfl, fun _ => rfl,
        printable_cons.mpr ⟨hplain, printable_nil⟩⟩

/-- What is written between quotes stands for the text, character for character. -/
theorem exists_pieces_escaped (s : List Char) :
    ∃ ps : Pieces, ps.chars = s.flatMap escaped ∧ ps.unescape? = some s ∧
      Printable (s.flatMap escaped) := by
  induction s with
  | nil => exact ⟨[], rfl, rfl, printable_nil⟩
  | cons c s ih =>
    obtain ⟨p, hp, hstands, hprintable⟩ := exists_piece c
    obtain ⟨ps, hps, hvalue, hrest⟩ := ih
    -- The piece of this character, then the pieces of the others.
    refine ⟨p :: ps, ?_, ?_, printable_append.mpr ⟨hprintable, hrest⟩⟩
    · show p.chars ++ Pieces.chars ps = _
      rw [hp, hps, List.flatMap_cons]
    · rw [hstands, hvalue]
      rfl

/-- Every text is written as a string literal that stands for it. -/
theorem exists_pieces_stringChars (s : String) :
    ∃ ps : Pieces, ps.quoted = stringChars s ∧ ps.unescape? = some s.toList ∧
      Printable (stringChars s) := by
  obtain ⟨ps, hchars, hvalue, hprintable⟩ := exists_pieces_escaped s.toList
  have hquote : Printable ['"'] := by decide
  refine ⟨ps, ?_, hvalue, ?_⟩
  · rw [Pieces.quoted, hchars]
    rfl
  · exact printable_append.mpr
      ⟨printable_cons.mpr ⟨by decide, hprintable⟩, hquote⟩

/-! ## Values -/

/-- Whether the text of `v` is printable, is read as `w` and is nested no deeper than `depth`. -/
def ReadsBack (depth : Nat) (v w : Json) : Prop :=
  Printable v.chars ∧ ∃ t : Tree, t.chars = v.chars ∧ t.json? = some w ∧ t.depth ≤ depth

variable {depth : Nat}

/-- The word for nothing reads back. -/
theorem readsBack_null : ReadsBack depth null null :=
  ⟨by decide, .null, rfl, rfl, Nat.zero_le _⟩

/-- A text reads back, whatever characters it has. -/
theorem readsBack_string (s : String) : ReadsBack depth (string s) (string s) := by
  obtain ⟨ps, hchars, hvalue, hprintable⟩ := exists_pieces_stringChars s
  refine ⟨hprintable, .string ps, hchars, ?_, Nat.zero_le _⟩
  rw [Tree.json?, hvalue, Option.map_some, String.ofList_toList]

/-- What is written as a numeral reads back as the number that this stands for. -/
theorem readsBack_numeral {v : Json} {x : Number} (n : Numeral) (hchars : n.chars = v.chars)
    (hnumber : n.literal.number = .ok x) : ReadsBack depth v (number x) :=
  ⟨hchars ▸ n.printable, .number n, hchars, by rw [Tree.json?, hnumber]; rfl, Nat.zero_le _⟩

/-- A natural number that fits into 64 bits reads back as itself. -/
theorem readsBack_nat {n : Nat} (h : n < 2 ^ 64) : ReadsBack depth (nat n) (nat n) := by
  obtain ⟨m, hchars, hnumber⟩ := exists_numeral_nat h
  exact readsBack_numeral m hchars hnumber

/-- A double that is finite is written as a number. -/
theorem readsBack_finite {x : Binary64} (hfinite : x.isFinite) (h : RateInRange x) :
    ∃ y, ReadsBack depth (number (.float x)) (number y) := by
  obtain ⟨n, hmoderate, hchars⟩ := exists_numeral_floatChars hfinite h
  obtain ⟨y, hy⟩ := n.exists_number hmoderate
  refine ⟨y, readsBack_numeral n ?_ hy⟩
  rw [chars, numberChars, hchars]
  rfl

/-- A double comes back as a number, or as nothing where it is not finite. -/
theorem readsBack_float {x : Binary64} (h : RateInRange x) :
    ∃ w, ReadsBack depth (number (.float x)) w ∧
      (x.isFinite = true ∧ (∃ y, w = number y) ∨ x.isFinite = false ∧ w = null) := by
  cases hfinite : x.isFinite with
  | true =>
    obtain ⟨y, hy⟩ := readsBack_finite hfinite h
    exact ⟨_, hy, .inl ⟨rfl, y, rfl⟩⟩
  | false =>
    -- What is not finite is written as `null`.
    have hchars : (number (.float x)).chars = null.chars := by
      simp [chars, numberChars, floatChars?, hfinite]
    refine ⟨null, ?_, .inr ⟨rfl, rfl⟩⟩
    obtain ⟨hprintable, t, ht, hread⟩ : ReadsBack depth null null := readsBack_null
    exact ⟨hchars ▸ hprintable, t, ht.trans hchars.symm, hread⟩

/-! ## Arrays and objects -/

/-- The items of an array, which are not empty as long as there is a first one. -/
theorem exists_items_of_readsBack {v w : Json} {vs ws : List Json} (h : ReadsBack depth v w)
    (hs : List.Forall₂ (ReadsBack depth) vs ws) :
    ∃ items : Items, items.chars = itemChars (v :: vs) ∧ items.json? = some (w :: ws) ∧
      items.depth ≤ depth ∧ Printable (itemChars (v :: vs)) := by
  -- The first item is kept apart, since a list of items is never empty.
  induction hs generalizing v w with
  | nil =>
    obtain ⟨hprintable, t, hchars, hvalue, hdepth⟩ := h
    refine ⟨.last [] t [], ?_, ?_, hdepth, hprintable⟩
    · rw [Items.chars, hchars]
      exact List.append_nil _
    · rw [Items.json?, hvalue]
      rfl
  | @cons v' w' vs ws hv' _ ih =>
    obtain ⟨hprintable, t, hchars, hvalue, hdepth⟩ := h
    obtain ⟨items, hitems, hvalues, hdepths, hrest⟩ := ih hv'
    refine ⟨.more [] t [] items, ?_, ?_, ?_, ?_⟩
    · rw [Items.chars, hchars, hitems]
      rfl
    · rw [Items.json?, hvalue, hvalues]
      rfl
    · exact Nat.max_le.mpr ⟨hdepth, hdepths⟩
    · exact printable_append.mpr ⟨hprintable, printable_cons.mpr ⟨by decide, hrest⟩⟩

/-- An array reads back where its items do, with one more level of nesting. -/
theorem readsBack_array {vs ws : List Json} (h : List.Forall₂ (ReadsBack depth) vs ws) :
    ReadsBack (depth + 1) (array vs) (array ws) := by
  have hclose : Printable [']'] := by decide
  -- An array without items is a tree of its own.
  cases h with
  | nil =>
    exact ⟨by decide, .emptyArray [], rfl, rfl, Nat.le_add_left 1 depth⟩
  | cons hv hs =>
    obtain ⟨items, hchars, hvalue, hdepth, hprintable⟩ := exists_items_of_readsBack hv hs
    refine ⟨?_, .array items, ?_, ?_, Nat.succ_le_succ hdepth⟩
    · exact printable_append.mpr ⟨printable_cons.mpr ⟨by decide, hprintable⟩, hclose⟩
    · rw [Tree.chars, chars, hchars]
      rfl
    · rw [Tree.json?, hvalue]
      rfl

/-- Whether a member reads back under its name. -/
def MemberReadsBack (depth : Nat) (m n : String × Json) : Prop :=
  m.1 = n.1 ∧ ReadsBack depth m.2 n.2

/-- A member reads back where its value does. -/
theorem ReadsBack.named {v w : Json} (h : ReadsBack depth v w) (name : String) :
    MemberReadsBack depth (name, v) (name, w) := ⟨rfl, h⟩

/-- The members of an object, which are not empty as long as there is a first one. -/
theorem exists_members_of_readsBack {m n : String × Json} {ms ns : List (String × Json)}
    (h : MemberReadsBack depth m n) (hs : List.Forall₂ (MemberReadsBack depth) ms ns) :
    ∃ members : Members, members.chars = memberChars (m :: ms) ∧
      members.json? = some (n :: ns) ∧ members.depth ≤ depth ∧
      Printable (memberChars (m :: ms)) := by
  -- The first member is kept apart, since a list of members is never empty.
  induction hs generalizing m n with
  | nil =>
    obtain ⟨name, v⟩ := m
    obtain ⟨_, w⟩ := n
    obtain ⟨rfl, hprintable, t, hchars, hvalue, hdepth⟩ := h
    obtain ⟨ps, hquoted, hname, hnamePrintable⟩ := exists_pieces_stringChars name
    refine ⟨.last [] ps [] [] t [], ?_, ?_, hdepth, ?_⟩
    · rw [Members.chars, hquoted, hchars, memberChars]
      exact congrArg (stringChars name ++ ':' :: ·) (List.append_nil _)
    · rw [Members.json?, hname, hvalue, Option.bind_some, Option.map_some, String.ofList_toList]
      rfl
    · exact printable_append.mpr ⟨hnamePrintable, printable_cons.mpr ⟨by decide, hprintable⟩⟩
  | @cons m' n' ms ns hm' _ ih =>
    obtain ⟨name, v⟩ := m
    obtain ⟨_, w⟩ := n
    obtain ⟨rfl, hprintable, t, hchars, hvalue, hdepth⟩ := h
    obtain ⟨ps, hquoted, hname, hnamePrintable⟩ := exists_pieces_stringChars name
    obtain ⟨members, hmembers, hvalues, hdepths, hrest⟩ := ih hm'
    refine ⟨.more [] ps [] [] t [] members, ?_, ?_, ?_, ?_⟩
    · rw [Members.chars, hquoted, hchars, hmembers, memberChars, List.append_assoc]
      rfl
    · rw [Members.json?, hname, hvalue, hvalues, Option.bind_some, Option.map_some,
        String.ofList_toList]
      rfl
    · exact Nat.max_le.mpr ⟨hdepth, hdepths⟩
    · refine printable_append.mpr ⟨printable_append.mpr ⟨hnamePrintable, ?_⟩, ?_⟩
      · exact printable_cons.mpr ⟨by decide, hprintable⟩
      · exact printable_cons.mpr ⟨by decide, hrest⟩

/-- An object reads back where its members do, with one more level of nesting. -/
theorem readsBack_object {ms ns : List (String × Json)}
    (h : List.Forall₂ (MemberReadsBack depth) ms ns) :
    ReadsBack (depth + 1) (object ms) (object ns) := by
  have hclose : Printable ['\x7d'] := by decide
  -- An object without members is a tree of its own.
  cases h with
  | nil =>
    exact ⟨by decide, .emptyObject [], rfl, rfl, Nat.le_add_left 1 depth⟩
  | cons hm hs =>
    obtain ⟨members, hchars, hvalue, hdepth, hprintable⟩ := exists_members_of_readsBack hm hs
    refine ⟨?_, .object members, ?_, ?_, Nat.succ_le_succ hdepth⟩
    · exact printable_append.mpr ⟨printable_cons.mpr ⟨by decide, hprintable⟩, hclose⟩
    · rw [Tree.chars, chars, hchars]
      rfl
    · rw [Tree.json?, hvalue]
      rfl

/-! ## Whole texts -/

/-- What is written is read, unless it is nested too deep. -/
theorem ReadsBack.parseChars_eq {v w : Json} (h : ReadsBack depth v w)
    (hdepth : depth ≤ maxNesting) : parseChars v.chars = .ok w := by
  obtain ⟨-, t, hchars, hvalue, ht⟩ := h
  have hread := parseChars_document ⟨[], t, []⟩
  -- The text is a document without blanks around its value.
  have htext : Document.chars ⟨[], t, []⟩ = v.chars := by
    rw [Document.chars, ← hchars]
    exact List.append_nil _
  rw [htext, if_pos (Nat.le_trans ht hdepth), hvalue] at hread
  cases hparse : parseChars v.chars with
  | error f =>
    rw [hparse] at hread
    contradiction
  | ok x =>
    rw [hparse] at hread
    exact congrArg Except.ok (Option.some.inj hread)

end LossProbe.Json
