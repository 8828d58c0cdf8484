import LossProbe.Proofs.JsonMeaning
import LossProbe.Proofs.JsonReaders

/-!
# Reading values

What a tree spells is read back as the value it stands for (`taken_value_chars`), unless arrays
and objects are nested too deep, half of a surrogate pair stands alone or a number is out of
range; then nothing is read. Whatever is read was spelled by a tree (`readsTrees_value`). For whole
texts this is `parseChars_document` and `exists_document`.
-/

namespace LossProbe.Json

/-! ## Trees are read back -/

/-- How a value begins. -/
theorem Tree.exists_cons (t : Tree) :
    ∃ c cs, t.chars = c :: cs ∧ isBlank c = false ∧ c ≠ ']' := by
  cases t with
  | number n =>
    -- A number starts with its sign or with a digit, every other value with one fixed character.
    have hdigit : ∀ d, isBlank (digitChar d) = false ∧ digitChar d ≠ ']' := by decide
    rw [Tree.chars, Numeral.chars]
    split
    · exact ⟨'-', _, rfl, by decide, by decide⟩
    · exact ⟨digitChar n.whole.first, _, rfl, hdigit _⟩
  | bool b => cases b <;> exact ⟨_, _, rfl, by decide, by decide⟩
  | _ => exact ⟨_, _, rfl, by decide, by decide⟩

/-- Of blanks before a value only the blanks are skipped, for no value begins with one. -/
theorem skipBlanks_tree (b : Blanks) (t : Tree) (s : List Char) :
    skipBlanks (b.chars ++ (t.chars ++ s)) = t.chars ++ s := by
  obtain ⟨c, cs, hchars, hblank, -⟩ := t.exists_cons
  rw [skipBlanks_append, hchars, List.cons_append, skipBlanks_cons hblank]

/-- Items do not begin with the bracket that would end the array. -/
theorem Items.exists_cons (items : Items) (s : List Char) :
    ∃ c cs, skipBlanks (items.chars ++ s) = c :: cs ∧ c ≠ ']' := by
  cases items with
  | last before item after =>
    obtain ⟨c, cs, hchars, -, hc⟩ := item.exists_cons
    rw [Items.chars, List.append_assoc, List.append_assoc, skipBlanks_tree, hchars]
    exact ⟨c, _, rfl, hc⟩
  | more before item after others =>
    obtain ⟨c, cs, hchars, -, hc⟩ := item.exists_cons
    rw [Items.chars, List.append_assoc, List.append_assoc, skipBlanks_tree, hchars]
    exact ⟨c, _, rfl, hc⟩

/-- Where arrays and objects may still be nested, the reader of what they hold. -/
def nestedReader : Nat → Option (Reader Json)
  | 0 => none
  | depth + 1 => some (value depth)

/-- A value is read with the reader of what may still be nested in it. -/
theorem value_eq (depth : Nat) : value depth = valueWith (nestedReader depth) := by
  cases depth <;> rfl

/-- Members begin with the quote of a name. -/
theorem Members.exists_cons (members : Members) (s : List Char) :
    ∃ cs, skipBlanks (members.chars ++ s) = '"' :: cs := by
  cases members <;>
  · rw [Members.chars, List.append_assoc, skipBlanks_append, Pieces.quoted, List.cons_append,
      List.cons_append, skipBlanks_cons (by decide)]
    exact ⟨_, rfl⟩

section

variable {α : Type} (next : List Char → Option (List α × List Char)) {p q : Prop} [Decidable p]
  [Decidable q] {x : Option α} {r rest : List Char}

/-- One part is read, and nothing more is there. -/
theorem bind_last (h : next r = some ([], rest)) :
    ((if p then x.map (·, r) else none).bind fun a => (next a.2).map fun b => (a.1 :: b.1, b.2)) =
      if p then (x.map ([·])).map (·, rest) else none := by
  split
  · cases x with
    | none => rfl
    | some v =>
      show (next r).map _ = _
      rw [h]
      rfl
  · rfl

/-- One part is read, and then the others. -/
theorem bind_more {y : Option (List α)} (h : next r = if q then y.map (·, rest) else none) :
    ((if p then x.map (·, r) else none).bind fun a => (next a.2).map fun b => (a.1 :: b.1, b.2)) =
      if p ∧ q then (x.bind fun v => y.map (v :: ·)).map (·, rest) else none := by
  -- What is read first may be nested too deep or stand for nothing, and then the rest does not
  -- matter.
  by_cases hp : p
  · rw [if_pos hp]
    cases x with
    | none => simp
    | some v =>
      show (next r).map _ = _
      rw [h]
      by_cases hq : q
      · rw [if_pos hq, if_pos ⟨hp, hq⟩, Option.map_map, Option.bind_some, Option.map_map]
        rfl
      · rw [if_neg hq, if_neg fun h => hq h.2]
        rfl
  · rw [if_neg hp, if_neg fun h => hp h.1]
    rfl

end

/-- Behind a quote the first member is read, and then the further ones. -/
theorem membersFrom_quoted (item : Reader Json) (b : Blanks) (name : Pieces) (s : List Char) :
    membersFrom item (b.chars ++ (name.quoted ++ s)) =
      (taken (member item (name.chars ++ '"' :: s))).bind fun p =>
        (taken (members item p.2)).map fun q => (p.1 :: q.1, q.2) := by
  rw [membersFrom, skipBlanks_append, Pieces.quoted, List.cons_append,
    skipBlanks_cons (by decide), List.append_assoc]
  rfl

/-- What a member spells is read once its value is. -/
theorem taken_member_chars {v : Tree} {depth : Nat} {s : List Char} (name : Pieces)
    {afterName beforeValue : Blanks}
    (h : taken (value depth (v.chars ++ s)) =
      if v.depth ≤ depth then v.json?.map (·, s) else none) :
    taken (member (value depth)
        (name.chars ++ '"' :: (afterName.chars ++ ':' :: (beforeValue.chars ++ (v.chars ++ s))))) =
      if v.depth ≤ depth then
        (name.unescape?.bind fun cs => v.json?.map fun v => (String.ofList cs, v)).map (·, s)
      else none := by
  rw [taken_member, taken_text_chars]
  -- The name is read before the value, so a name that stands for nothing ends it all.
  cases name.unescape? with
  | none => simp
  | some cs =>
    have hcolon : taken (colon (afterName.chars ++ ':' :: (beforeValue.chars ++ (v.chars ++ s)))) =
        some ((), beforeValue.chars ++ (v.chars ++ s)) := by
      rw [taken_colon, skipBlanks_append]
      rfl
    simp only [Option.map_some, Option.bind_some, hcolon]
    rw [skipBlanks_tree, h]
    split
    · rw [Option.map_map, Option.map_map]
      rfl
    · rfl

mutual

/-- What a tree spells is read as the value it stands for. -/
theorem taken_value_chars : ∀ (t : Tree) (depth : Nat) {rest : List Char}, EndsNumeral rest →
    taken (value depth (t.chars ++ rest)) =
      if t.depth ≤ depth then t.json?.map (·, rest) else none
  | .null, depth, rest, _ => by
    rw [value_eq, Tree.depth, if_pos (Nat.zero_le _)]
    exact taken_constant_append .null "ull" 'n' rest
  | .bool true, depth, rest, _ => by
    rw [value_eq, Tree.depth, if_pos (Nat.zero_le _)]
    exact taken_constant_append (.bool true) "rue" 't' rest
  | .bool false, depth, rest, _ => by
    rw [value_eq, Tree.depth, if_pos (Nat.zero_le _)]
    exact taken_constant_append (.bool false) "alse" 'f' rest
  | .number n, depth, rest, h => by
    rw [value_eq, Tree.depth, if_pos (Nat.zero_le _), Tree.chars, taken_valueWith_numeral _ n h,
      Tree.json?, Option.map_map]
    rfl
  | .string ps, depth, rest, _ => by
    rw [value_eq, Tree.depth, if_pos (Nat.zero_le _), Tree.chars, Pieces.quoted, List.cons_append,
      List.append_assoc, taken_valueWith_quote]
    show (taken (text (ps.chars ++ '"' :: rest))).map _ = _
    rw [taken_text_chars, Tree.json?, Option.map_map, Option.map_map]
    rfl
  | .emptyArray inside, depth, rest, _ => by
    rw [value_eq, Tree.chars, Tree.depth, List.cons_append, List.append_assoc,
      taken_valueWith_bracket]
    cases depth with
    | zero => rfl
    | succ depth =>
      rw [nestedReader, Option.bind_some, taken_arrayTail, skipBlanks_append, if_pos (by omega)]
      rfl
  | .array items, depth, rest, _ => by
    -- The items are read with one level less, and there must be one to begin with.
    rw [value_eq, Tree.chars, Tree.depth, List.cons_append, List.append_assoc,
      taken_valueWith_bracket]
    cases depth with
    | zero => rfl
    | succ depth =>
      obtain ⟨c, cs, hskip, hc⟩ := items.exists_cons (']' :: rest)
      show taken (arrayTail (value depth) (items.chars ++ ']' :: rest)) = _
      rw [taken_arrayTail_items _ _ hskip hc, itemsFrom_chars items depth rest, Tree.json?]
      simp only [Nat.add_le_add_iff_right]
      split
      · rw [Option.map_map, Option.map_map]
        rfl
      · rfl
  | .emptyObject inside, depth, rest, _ => by
    rw [value_eq, Tree.chars, Tree.depth, List.cons_append, List.append_assoc,
      taken_valueWith_brace]
    cases depth with
    | zero => rfl
    | succ depth =>
      rw [nestedReader, Option.bind_some, taken_objectTail, skipBlanks_append, if_pos (by omega)]
      rfl
  | .object members, depth, rest, _ => by
    rw [value_eq, Tree.chars, Tree.depth, List.cons_append, List.append_assoc,
      taken_valueWith_brace]
    cases depth with
    | zero => rfl
    | succ depth =>
      obtain ⟨cs, hskip⟩ := members.exists_cons ('\x7d' :: rest)
      show taken (objectTail (value depth) (members.chars ++ '\x7d' :: rest)) = _
      rw [taken_objectTail_members _ _ hskip, membersFrom_chars members depth rest, Tree.json?]
      simp only [Nat.add_le_add_iff_right]
      split
      · rw [Option.map_map, Option.map_map]
        rfl
      · rfl

/-- What items spell is read up to the closing bracket. -/
theorem itemsFrom_chars : ∀ (items : Items) (depth : Nat) (rest : List Char),
    itemsFrom (value depth) (items.chars ++ ']' :: rest) =
      if items.depth ≤ depth then items.json?.map (·, rest) else none
  | .last before item after, depth, rest => by
    -- A number in the last place must not read on into the bracket.
    have hends : EndsNumeral (after.chars ++ ']' :: rest) :=
      endsNumeral_blanks after (endsNumeral_cons (.inr (.inl rfl)) rest)
    rw [Items.chars, List.append_assoc, List.append_assoc, itemsFrom, skipBlanks_tree,
      taken_value_chars item depth hends]
    exact bind_last (fun s => taken (items (value depth) s))
      (taken_items_close (value depth) after rest)
  | .more before item after others, depth, rest => by
    have hends : EndsNumeral (after.chars ++ ',' :: (others.chars ++ ']' :: rest)) :=
      endsNumeral_blanks after (endsNumeral_cons (.inl rfl) _)
    obtain ⟨c, cs, hskip, hc⟩ := others.exists_cons (']' :: rest)
    have hmore := taken_items_comma (value depth) _ after hskip hc
    rw [itemsFrom_chars others depth rest] at hmore
    simp only [Items.chars, List.append_assoc, List.cons_append]
    rw [itemsFrom, skipBlanks_tree, taken_value_chars item depth hends, Items.depth, Items.json?]
    refine (bind_more (fun s => taken (items (value depth) s)) hmore).trans ?_
    simp only [Nat.max_le]

/-- What members spell is read up to the closing brace. -/
theorem membersFrom_chars : ∀ (members : Members) (depth : Nat) (rest : List Char),
    membersFrom (value depth) (members.chars ++ '\x7d' :: rest) =
      if members.depth ≤ depth then members.json?.map (·, rest) else none
  -- The last member ends at the brace, and any other at the comma behind it.
  | .last before name afterName beforeValue v after, depth, rest => by
    have hends : EndsNumeral (after.chars ++ '\x7d' :: rest) :=
      endsNumeral_blanks after (endsNumeral_cons (.inr (.inr rfl)) rest)
    simp only [Members.chars, List.append_assoc, List.cons_append]
    rw [membersFrom_quoted, taken_member_chars _ (taken_value_chars v depth hends)]
    exact bind_last (fun s => taken (members (value depth) s))
      (taken_members_close (value depth) after rest)
  | .more before name afterName beforeValue v after others, depth, rest => by
    have hends : EndsNumeral (after.chars ++ ',' :: (others.chars ++ '\x7d' :: rest)) :=
      endsNumeral_blanks after (endsNumeral_cons (.inl rfl) _)
    have hmore := taken_members_comma (value depth) (others.chars ++ '\x7d' :: rest) after
    rw [membersFrom_chars others depth rest] at hmore
    simp only [Members.chars, List.append_assoc, List.cons_append]
    rw [membersFrom_quoted, taken_member_chars _ (taken_value_chars v depth hends), Members.depth,
      Members.json?]
    refine (bind_more (fun s => taken (members (value depth) s)) hmore).trans ?_
    simp only [Nat.max_le]

end

/-! ## Nothing but trees is read -/

/-- Whatever the reader takes was spelled by a tree. -/
def ReadsTrees (item : Reader Json) : Prop :=
  ∀ {s rest : List Char} {v : Json}, taken (item s) = some (v, rest) →
    ∃ t : Tree, s = t.chars ++ rest

section

variable {item : Reader Json} {s rest : List Char}

/-- How the items of an array go on. -/
theorem items_cases {vs : List Json} (h : taken (items item s) = some (vs, rest)) :
    skipBlanks s = ']' :: rest ∨
      ∃ more, skipBlanks s = ',' :: more ∧ itemsFrom item more = some (vs, rest) := by
  rw [taken_items] at h
  -- Of the branches of the reader those that fail are out of the question.
  split at h
  · cases h
  · rename_i c more hs
    split at h
    · rename_i hc
      cases h
      exact .inl (by rw [hs, hc])
    · split at h
      · rename_i hc
        refine .inr ⟨more, by rw [hs, hc], ?_⟩
        split at h
        · cases h
        · split at h
          · cases h
          · exact h
      · cases h

/-- How the members of an object go on. -/
theorem members_cases {ms : List (String × Json)} (h : taken (members item s) = some (ms, rest)) :
    skipBlanks s = '\x7d' :: rest ∨
      ∃ more, skipBlanks s = ',' :: more ∧ membersFrom item more = some (ms, rest) := by
  rw [taken_members] at h
  -- Of the branches of the reader those that fail are out of the question.
  split at h
  · cases h
  · rename_i c more hs
    split at h
    · rename_i hc
      cases h
      exact .inl (by rw [hs, hc])
    · split at h
      · rename_i hc
        exact .inr ⟨more, by rw [hs, hc], h⟩
      · cases h

/-- Only blanks and a colon are taken for a colon. -/
theorem exists_colon {v : Unit} (h : taken (colon s) = some (v, rest)) :
    ∃ b : Blanks, s = b.chars ++ ':' :: rest := by
  rw [taken_colon] at h
  obtain ⟨b, hb⟩ := exists_blanks s
  -- Neither the end of the text nor another character is a colon.
  split at h
  · cases h
  · rename_i c more hs
    split at h
    · rename_i hc
      cases h
      exact ⟨b, by rw [← hc, ← hs, ← hb]⟩
    · cases h

/-- Only items and a closing bracket are taken as the rest of an array. -/
theorem exists_items (hitem : ReadsTrees item) {vs : List Json}
    (h : itemsFrom item s = some (vs, rest)) : ∃ is : Items, s = is.chars ++ ']' :: rest := by
  induction hn : s.length using Nat.strongRecOn generalizing s vs with
  | ind n ih =>
    rw [itemsFrom, Option.bind_eq_some_iff] at h
    obtain ⟨⟨v, r⟩, hfirst, h⟩ := h
    obtain ⟨vs, hmore⟩ := exists_of_map h
    obtain ⟨t, ht⟩ := hitem hfirst
    -- The blanks around the item are what was skipped before it and behind it.
    obtain ⟨before, hbefore⟩ := exists_blanks s
    obtain ⟨after, hafter⟩ := exists_blanks r
    rcases items_cases hmore with hclose | ⟨others, hcomma, hothers⟩
    · refine ⟨.last before t after, ?_⟩
      rw [Items.chars, List.append_assoc, List.append_assoc, ← hclose, ← hafter, ← ht, ← hbefore]
    · have hr := length_lt_of_taken hfirst
      have hs := length_skipBlanks_le s
      have hlength : others.length < r.length := length_lt_of_skipBlanks hcomma
      obtain ⟨is, rfl⟩ := ih others.length (by omega) hothers rfl
      refine ⟨.more before t after is, ?_⟩
      simp only [Items.chars, List.append_assoc, List.cons_append]
      rw [← hcomma, ← hafter, ← ht, ← hbefore]

/-- Only a name, a colon and a value, with blanks between them, are taken for a member. -/
theorem exists_member (hitem : ReadsTrees item) {m : String × Json}
    (h : taken (member item s) = some (m, rest)) :
    ∃ (name : Pieces) (afterName beforeValue : Blanks) (v : Tree), s = name.chars ++
      '"' :: (afterName.chars ++ ':' :: (beforeValue.chars ++ (v.chars ++ rest))) := by
  rw [taken_member, Option.bind_eq_some_iff] at h
  obtain ⟨⟨n, r⟩, hname, h⟩ := h
  rw [Option.bind_eq_some_iff] at h
  obtain ⟨⟨u, r'⟩, hcolon, h⟩ := h
  obtain ⟨v, hvalue⟩ := exists_of_map h
  -- The readers in their order, each with the text that it took.
  obtain ⟨name, rfl⟩ := exists_pieces_of_text hname
  obtain ⟨afterName, hafterName⟩ := exists_colon hcolon
  obtain ⟨beforeValue, hbeforeValue⟩ := exists_blanks r'
  obtain ⟨t, ht⟩ := hitem hvalue
  dsimp only at hafterName
  exact ⟨name, afterName, beforeValue, t, by rw [← ht, ← hbeforeValue, ← hafterName]⟩

/-- Only members and a closing brace are taken as the rest of an object. -/
theorem exists_members (hitem : ReadsTrees item) {ms : List (String × Json)}
    (h : membersFrom item s = some (ms, rest)) :
    ∃ members : Members, s = members.chars ++ '\x7d' :: rest := by
  induction hn : s.length using Nat.strongRecOn generalizing s ms with
  | ind n ih =>
    rw [membersFrom] at h
    split at h
    · exact nomatch h
    · rename_i c s' hs
      split at h
      · rename_i hc
        rw [Option.bind_eq_some_iff] at h
        obtain ⟨⟨m, r⟩, hfirst, h⟩ := h
        obtain ⟨ms, hmore⟩ := exists_of_map h
        -- As for items, but the first blanks end at the quote of the name.
        obtain ⟨name, afterName, beforeValue, v, hm⟩ := exists_member hitem hfirst
        obtain ⟨before, hbefore⟩ := exists_blanks s
        obtain ⟨after, hafter⟩ := exists_blanks r
        rcases members_cases hmore with hclose | ⟨others, hcomma, hothers⟩
        · refine ⟨.last before name afterName beforeValue v after, ?_⟩
          simp only [Members.chars, Pieces.quoted, List.append_assoc, List.cons_append,
            List.nil_append]
          rw [← hclose, ← hafter, ← hm, ← hc, ← hs, ← hbefore]
        · have hr := length_lt_of_taken hfirst
          have hs' := length_lt_of_skipBlanks hs
          have hlength : others.length < r.length := length_lt_of_skipBlanks hcomma
          obtain ⟨members, rfl⟩ := ih others.length (by omega) hothers rfl
          refine ⟨.more before name afterName beforeValue v after members, ?_⟩
          simp only [Members.chars, Pieces.quoted, List.append_assoc, List.cons_append,
            List.nil_append]
          rw [← hcomma, ← hafter, ← hm, ← hc, ← hs, ← hbefore]
      · exact nomatch h

/-- Only an array is taken for one. -/
theorem exists_array (hitem : ReadsTrees item) {v : Json}
    (h : taken (arrayTail item s) = some (v, rest)) : ∃ t : Tree, '[' :: s = t.chars ++ rest := by
  rw [taken_arrayTail] at h
  -- The blanks behind the bracket belong to the empty array, or else to the first item.
  obtain ⟨b, hb⟩ := exists_blanks s
  split at h
  · cases h
  · rename_i c more hs
    split at h
    · rename_i hc
      cases h
      refine ⟨.emptyArray b, ?_⟩
      rw [hs, hc] at hb
      rw [Tree.chars, List.cons_append, List.append_assoc, hb]
      rfl
    · obtain ⟨vs, hitems⟩ := exists_of_map h
      obtain ⟨is, rfl⟩ := exists_items hitem hitems
      exact ⟨.array is, by rw [Tree.chars, List.cons_append, List.append_assoc]; rfl⟩

/-- Only an object is taken for one. -/
theorem exists_object (hitem : ReadsTrees item) {v : Json}
    (h : taken (objectTail item s) = some (v, rest)) :
    ∃ t : Tree, '\x7b' :: s = t.chars ++ rest := by
  rw [taken_objectTail] at h
  -- The blanks behind the brace belong to the empty object, or else to the first member.
  obtain ⟨b, hb⟩ := exists_blanks s
  split at h
  · cases h
  · rename_i c more hs
    split at h
    · rename_i hc
      cases h
      refine ⟨.emptyObject b, ?_⟩
      rw [hs, hc] at hb
      rw [Tree.chars, List.cons_append, List.append_assoc, hb]
      rfl
    · obtain ⟨ms, hmembers⟩ := exists_of_map h
      obtain ⟨members, rfl⟩ := exists_members hitem hmembers
      exact ⟨.object members, by rw [Tree.chars, List.cons_append, List.append_assoc]; rfl⟩

end

/-- Only the whole word is taken for what it stands for. -/
theorem exists_constant {v w : Json} {tail : String} {first : Char} {s rest : List Char}
    (h : taken (constant v tail first s) = some (w, rest)) :
    first :: s = (first :: tail.toList) ++ rest := by
  rw [taken_constant, Option.map_eq_some_iff] at h
  obtain ⟨⟨u, r⟩, hword, heq⟩ := h
  cases heq
  rw [eq_append_of_word hword]
  rfl

/-- Where only trees are nested, only a tree is taken for a value. -/
theorem readsTrees_valueWith {nested : Option (Reader Json)}
    (h : ∀ item ∈ nested, ReadsTrees item) : ReadsTrees (valueWith nested) := by
  intro s rest v hv
  cases s with
  | nil => cases hv
  | cons c s =>
    -- The first character decides, in the order in which the reader asks for it.
    by_cases hn : c = 'n'
    · subst hn
      exact ⟨.null, exists_constant hv⟩
    by_cases ht : c = 't'
    · subst ht
      exact ⟨.bool true, exists_constant hv⟩
    by_cases hf : c = 'f'
    · subst hf
      exact ⟨.bool false, exists_constant hv⟩
    by_cases hminus : c = '-'
    · subst hminus
      rw [taken_valueWith_minus] at hv
      obtain ⟨x, hnumber⟩ := exists_of_map hv
      obtain ⟨n, hnegative, rfl⟩ := exists_numeral_of_number hnumber
      exact ⟨.number n, by rw [Tree.chars, Numeral.chars, if_pos hnegative]; rfl⟩
    cases hdigit : Decimal.digit? c with
    | some k =>
      obtain ⟨d, rfl, rfl⟩ := exists_digitChar hdigit
      rw [taken_valueWith_digit] at hv
      obtain ⟨x, hnumber⟩ := exists_of_map hv
      obtain ⟨n, hpositive, hs⟩ := exists_numeral_of_number hnumber
      exact ⟨.number n, by rw [Tree.chars, Numeral.chars, hs, if_neg (by simp [hpositive])]⟩
    | none =>
      by_cases hquote : c = '"'
      · subst hquote
        rw [taken_valueWith_quote] at hv
        obtain ⟨x, htext⟩ := exists_of_map hv
        obtain ⟨ps, rfl⟩ := exists_pieces_of_text htext
        refine ⟨.string ps, ?_⟩
        rw [Tree.chars, Pieces.quoted, List.cons_append, List.append_assoc]
        rfl
      by_cases hbracket : c = '['
      · subst hbracket
        rw [taken_valueWith_bracket, Option.bind_eq_some_iff] at hv
        obtain ⟨item, hitem, hv⟩ := hv
        exact exists_array (h item hitem) hv
      by_cases hbrace : c = '\x7b'
      · subst hbrace
        rw [taken_valueWith_brace, Option.bind_eq_some_iff] at hv
        obtain ⟨item, hitem, hv⟩ := hv
        exact exists_object (h item hitem) hv
      · -- No other character begins a value.
        unfold valueWith at hv
        dsimp only at hv
        rw [if_neg hn, if_neg ht, if_neg hf, if_neg hminus, hdigit, if_neg (by simp), if_neg hquote,
          if_neg hbracket, if_neg hbrace] at hv
        cases hv

/-- Nothing but what trees spell is read. -/
theorem readsTrees_value (depth : Nat) : ReadsTrees (value depth) := by
  -- The nested reader goes one level less deep.
  induction depth with
  | zero =>
    apply readsTrees_valueWith
    intro item hitem
    simp at hitem
  | succ depth ih =>
    apply readsTrees_valueWith
    intro item hitem
    cases hitem
    exact ih

/-! ## Whole texts -/

/-- A text is read where one value is, and nothing but blanks is left behind it. -/
theorem toOption_parseChars (s : List Char) :
    (parseChars s).toOption =
      (taken (value maxNesting (skipBlanks s))).bind fun p =>
        if skipBlanks p.2 = [] then some p.1 else none := by
  unfold parseChars
  simp only [bind, Except.bind]
  rw [← taken_afterBlanks]
  cases Reader.afterBlanks (value maxNesting) s with
  | error e => rfl
  | ok p =>
    simp only [taken_ok, Option.bind_some, finish]
    cases skipBlanks p.rest <;> rfl

/-- The text of a document stands for the value of its tree. -/
theorem parseChars_document (d : Document) :
    (parseChars d.chars).toOption = if d.root.depth ≤ maxNesting then d.root.json? else none := by
  -- At the end of a text nothing follows but blanks, which end a number too.
  have hends : EndsNumeral d.after.chars := by
    have h := endsNumeral_blanks d.after endsNumeral_nil
    rwa [List.append_nil] at h
  have hafter : skipBlanks d.after.chars = [] := by
    have h := skipBlanks_append d.after []
    rwa [List.append_nil] at h
  rw [toOption_parseChars, Document.chars, skipBlanks_tree,
    taken_value_chars d.root maxNesting hends]
  split
  · cases d.root.json? with
    | none => rfl
    | some v => exact if_pos hafter
  · rfl

/-- Whatever is read was the text of a document. -/
theorem exists_document {s : List Char} {v : Json} (h : parseChars s = .ok v) :
    ∃ d : Document, s = d.chars := by
  have hread := toOption_parseChars s
  rw [h] at hread
  obtain ⟨⟨w, r⟩, hvalue, hend⟩ := Option.bind_eq_some_iff.mp hread.symm
  obtain ⟨t, ht⟩ := readsTrees_value maxNesting hvalue
  obtain ⟨before, hbefore⟩ := exists_blanks s
  obtain ⟨after, hafter⟩ := exists_blanks r
  -- Only blanks may follow the value.
  split at hend
  · rename_i hblank
    rw [hblank, List.append_nil] at hafter
    exact ⟨⟨before, t, after⟩, by rw [Document.chars, ← hafter, ← ht, ← hbefore]⟩
  · exact nomatch hend

end LossProbe.Json
