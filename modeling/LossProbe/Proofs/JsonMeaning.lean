import Mathlib.Data.List.Forall2
import LossProbe.Proofs.JsonNumberRange

/-!
# What JSON text stands for

A tree stands for a value where surrogates only stand in pairs and no number is too great
(`Tree.isSome_json?`). The members of an object are found by their last occurrence, under the name
they have once their escapes are resolved (`member?_of_lastNamed?`), and a value is the integer
three only where it is written `3` (`Tree.int64?_eq_three_iff`).
-/

namespace LossProbe.Json

/-! ## Values of trees -/

mutual

/-- The value a tree stands for. There is none where half of a surrogate pair stands alone or a
    number is out of range. -/
def Tree.json? : Tree → Option Json
  | .null => some .null
  | .bool b => some (.bool b)
  | .number n => n.literal.number.toOption.map .number
  | .string ps => ps.unescape?.map fun cs => .string (String.ofList cs)
  | .emptyArray _ => some (.array [])
  | .array items => items.json?.map .array
  | .emptyObject _ => some (.object [])
  | .object members => members.json?.map .object

def Items.json? : Items → Option (List Json)
  | .last _ item _ => item.json?.map ([·])
  | .more _ item _ others => item.json?.bind fun v => others.json?.map (v :: ·)

def Members.json? : Members → Option (List (String × Json))
  | .last _ name _ _ value _ =>
    (name.unescape?.bind fun cs => value.json?.map fun v => (String.ofList cs, v)).map ([·])
  | .more _ name _ _ value _ others =>
    (name.unescape?.bind fun cs => value.json?.map fun v => (String.ofList cs, v)).bind fun m =>
      others.json?.map (m :: ·)

end

/-! ## Which trees stand for a value -/

/-- Whether a number is not too great to be read. -/
def Numeral.InRange (n : Numeral) : Prop := n.literal.number.toOption.isSome

/-- A moderate number is in the range of a double. -/
theorem Numeral.Moderate.inRange {n : Numeral} (h : n.Moderate) : n.InRange := by
  obtain ⟨x, hx⟩ := n.exists_number h
  rw [InRange, hx]
  rfl

/-- Two things are there together where both are. -/
theorem isSome_bind_map {α β γ : Type} (x : Option α) (y : Option β) (f : α → β → γ) :
    (x.bind fun v => y.map (f v)).isSome ↔ x.isSome ∧ y.isSome := by
  cases x <;> cases y <;> simp

mutual

/-- A tree stands for a value where surrogates only stand in pairs and no number is too great. -/
theorem Tree.isSome_json? : ∀ t : Tree, t.json?.isSome ↔
    (∀ ps ∈ t.strings, ps.Paired) ∧ ∀ n ∈ t.numerals, n.InRange
  | .null => by simp [Tree.json?, Tree.strings, Tree.numerals]
  | .bool _ => by simp [Tree.json?, Tree.strings, Tree.numerals]
  | .number n => by simp [Tree.json?, Tree.strings, Tree.numerals, Numeral.InRange]
  | .string ps => by simp [Tree.json?, Tree.strings, Tree.numerals, Pieces.Paired]
  | .emptyArray _ => by simp [Tree.json?, Tree.strings, Tree.numerals]
  | .array items => by
    rw [Tree.json?, Option.isSome_map, Tree.strings, Tree.numerals]
    exact items.isSome_json?
  | .emptyObject _ => by simp [Tree.json?, Tree.strings, Tree.numerals]
  | .object members => by
    rw [Tree.json?, Option.isSome_map, Tree.strings, Tree.numerals]
    exact members.isSome_json?

/-- Items stand for values if all their strings are paired and all their numbers are in range. -/
theorem Items.isSome_json? : ∀ items : Items, items.json?.isSome ↔
    (∀ ps ∈ items.strings, ps.Paired) ∧ ∀ n ∈ items.numerals, n.InRange
  | .last _ item _ => by
    rw [Items.json?, Option.isSome_map, Items.strings, Items.numerals]
    exact item.isSome_json?
  | .more _ item _ others => by
    rw [Items.json?, isSome_bind_map, item.isSome_json?, others.isSome_json?, Items.strings,
      Items.numerals, List.forall_mem_append, List.forall_mem_append, and_and_and_comm]

/-- Members stand for values if all their strings, names included, are paired and all their numbers
    are in range. -/
theorem Members.isSome_json? : ∀ members : Members, members.json?.isSome ↔
    (∀ ps ∈ members.strings, ps.Paired) ∧ ∀ n ∈ members.numerals, n.InRange
  | .last _ name _ _ value _ => by
    rw [Members.json?, Option.isSome_map, isSome_bind_map, value.isSome_json?, Members.strings,
      Members.numerals, List.forall_mem_cons, and_assoc]
    rfl
  | .more _ name _ _ value _ others => by
    -- The name, its value and the other members, brought into the order of the lists.
    rw [Members.json?, isSome_bind_map, isSome_bind_map, value.isSome_json?,
      others.isSome_json?, Members.strings, Members.numerals, List.forall_mem_cons,
      List.forall_mem_append, List.forall_mem_append, and_assoc, and_and_and_comm]
    simp only [and_assoc]
    rfl

end

/-! ## Members by name -/

/-- The value of the last member with a name. -/
def lastNamed? (name : List Char) : List (Pieces × Tree) → Option Tree
  | [] => none
  | m :: more => (lastNamed? name more).or (if m.1.unescape? = some name then some m.2 else none)

/-- A written member and what it stands for. -/
def MemberStandsFor (m : Pieces × Tree) (j : String × Json) : Prop :=
  m.1.unescape? = some j.1.toList ∧ m.2.json? = some j.2

/-- A member stands for the name and the value that it is read as. -/
theorem memberStandsFor_of_json? {name : Pieces} {t : Tree} {j : String × Json}
    (h : (name.unescape?.bind fun cs => t.json?.map fun v => (String.ofList cs, v)) = some j) :
    MemberStandsFor (name, t) j := by
  obtain ⟨cs, hcs, h⟩ := Option.bind_eq_some_iff.mp h
  obtain ⟨v, hv, rfl⟩ := Option.map_eq_some_iff.mp h
  exact ⟨by rw [hcs, String.toList_ofList], hv⟩

/-- Members stand for what they are read as, one by one and in their order. -/
theorem Members.standFor : ∀ (members : Members) {js : List (String × Json)},
    members.json? = some js → List.Forall₂ MemberStandsFor members.list js
  | .last _ name _ _ value _, js, h => by
    obtain ⟨j, hj, rfl⟩ := Option.map_eq_some_iff.mp h
    exact .cons (memberStandsFor_of_json? hj) .nil
  | .more _ name _ _ value _ others, js, h => by
    obtain ⟨j, hj, h⟩ := Option.bind_eq_some_iff.mp h
    obtain ⟨more, hmore, rfl⟩ := Option.map_eq_some_iff.mp h
    exact .cons (memberStandsFor_of_json? hj) (others.standFor hmore)

/-- The last member of a name counts, so the first only counts where no later one has its name. -/
theorem member?_cons (name : String) (j : String × Json) (js : List (String × Json)) :
    member? name (j :: js) = (member? name js).or (if j.1 = name then some j.2 else none) := by
  unfold member?
  rw [List.reverse_cons, List.find?_append, Option.map_or]
  congr 1
  by_cases h : j.1 = name <;> simp [h]

/-- The member that is read for a name is the last one that is written with it. -/
theorem member?_of_lastNamed? (name : String) {ms : List (Pieces × Tree)}
    {js : List (String × Json)} (h : List.Forall₂ MemberStandsFor ms js) :
    Option.Rel (fun t v => t.json? = some v) (lastNamed? name.toList ms) (member? name js) := by
  induction h with
  | nil => exact .none
  | @cons m j ms js hm _ ih =>
    -- Both sides prefer what the rest of the members say.
    have hname : m.1.unescape? = some name.toList ↔ j.1 = name := by
      rw [hm.1, Option.some_inj, String.toList_inj]
    rw [member?_cons, lastNamed?]
    cases hlast : lastNamed? name.toList ms with
    | none =>
      rw [hlast] at ih
      cases hread : member? name js with
      | none =>
        simp only [Option.none_or, hname]
        split
        · exact .some hm.2
        · exact .none
      | some v =>
        rw [hread] at ih
        exact nomatch ih
    | some t =>
      rw [hlast] at ih
      cases hread : member? name js with
      | none =>
        rw [hread] at ih
        exact nomatch ih
      | some v =>
        rw [hread] at ih
        exact ih

/-! ## The literal three -/

/-- A whole number of value three is written with one digit, for it may not begin with a zero. -/
theorem Whole.eq_three {w : Whole} (h : Decimal.foldDigits 0 w.values = 3) :
    w.first = 3 ∧ w.more = [] := by
  -- Read on from the first digit: the others can only make the number greater.
  have hdigits : ∀ d ∈ w.more.map Fin.val, d < 10 := by simp
  have hlow := (foldDigits_bounds hdigits w.first).1
  have hsplit : Decimal.foldDigits 0 w.values =
      Decimal.foldDigits w.first (w.more.map Fin.val) := by
    show Decimal.foldDigits (10 * 0 + w.first) _ = _
    rw [Nat.mul_zero, Nat.zero_add]
  rw [hsplit] at h
  cases hmore : w.more with
  | nil =>
    rw [hmore] at h
    exact ⟨Fin.ext h, rfl⟩
  | cons d ds =>
    -- The first of several digits is not zero, so they make ten at least.
    have hfirst : w.first ≠ 0 := fun hzero => by
      rw [w.alone hzero] at hmore
      exact nomatch hmore
    have hpos : 0 < (w.first : Nat) := Nat.pos_of_ne_zero fun hzero => hfirst (Fin.ext hzero)
    have hten : 10 ≤ 10 ^ (w.more.map Fin.val).length := by
      rw [hmore, List.map_cons, List.length_cons, Nat.pow_succ']
      exact Nat.le_mul_of_pos_right _ (Nat.pow_pos (by decide))
    have := Nat.mul_le_mul hpos hten
    omega

/-- A numeral that is read as the integer three is written as such. -/
theorem Numeral.integer_three {n : Numeral} (h : n.literal.number = .ok (.integer 3)) :
    n.chars = ['3'] := by
  obtain ⟨hfraction, hexponent, hdropped, hvalue⟩ := n.literal.number_integer h
  obtain ⟨hlow, hhigh, -, -⟩ := appendDigits_bounds n.whole.values_lt 0
  change (appendDigits 0 n.whole.values).2 = 0 at hdropped
  change 3 = if n.negative then -((appendDigits 0 n.whole.values).1 : Int) else
    (appendDigits 0 n.whole.values).1 at hvalue
  rw [hdropped, Nat.pow_zero, Nat.mul_one] at hlow hhigh
  cases hnegative : n.negative with
  | true =>
    -- What is read with a minus is never positive.
    rw [hnegative, if_pos rfl] at hvalue
    omega
  | false =>
    rw [hnegative, if_neg (by decide)] at hvalue
    obtain ⟨hfirst, hmore⟩ := Whole.eq_three (w := n.whole) (by omega)
    rw [Numeral.chars, hnegative, if_neg (by decide), Numeral.unsignedChars,
      Option.map_eq_none_iff.mp hfraction, Option.map_eq_none_iff.mp hexponent, Digits.chars,
      Digits.list, hfirst, hmore]
    rfl

/-- What is written as `3` is read as the integer three. -/
theorem Numeral.number_of_three {n : Numeral} (h : n.chars = ['3']) :
    n.literal.number = .ok (.integer 3) := by
  obtain ⟨negative, ⟨⟨first, more⟩, alone⟩, fraction, exponent⟩ := n
  -- Each part of the numeral has to leave room for the one digit, so there is no other.
  cases negative with
  | true => exact absurd (List.cons.inj h).1 (by decide)
  | false =>
    obtain ⟨hfirst, hrest⟩ := List.cons.inj h
    have hthree : ∀ d, digitChar d = '3' → d = 3 := by decide
    cases hthree first hfirst
    obtain ⟨hmore, hrest⟩ := List.append_eq_nil_iff.mp hrest
    obtain ⟨hfraction, hexponent⟩ := List.append_eq_nil_iff.mp hrest
    cases List.map_eq_nil_iff.mp hmore
    cases fraction with
    | some d => exact nomatch hfraction
    | none =>
      cases exponent with
      | some e => exact nomatch hexponent
      | none => rfl

/-- Only the literal `3` is read as the integer three. -/
theorem Tree.int64?_eq_three_iff {t : Tree} {v : Json} (h : t.json? = some v) :
    v.int64? = some 3 ↔ t.chars = ['3'] := by
  cases t with
  | number n =>
    obtain ⟨x, hx, rfl⟩ := Option.map_eq_some_iff.mp h
    -- Both directions speak of the number that the literal was read as.
    have hx : n.literal.number = .ok x := by
      cases hnumber : n.literal.number with
      | error e => rw [hnumber] at hx; exact nomatch hx
      | ok y => rw [hnumber] at hx; cases hx; rfl
    constructor
    · intro hthree
      apply Numeral.integer_three
      rw [hx]
      cases x with
      | float y => exact nomatch hthree
      | integer k =>
        rw [int64?] at hthree
        split at hthree
        · cases hthree
          rfl
        · exact nomatch hthree
    · intro hchars
      have hthree := Numeral.number_of_three hchars
      rw [hx] at hthree
      cases hthree
      rfl
  -- Nothing but a number is an integer, and no other value is spelled like one.
  | null => cases h; decide
  | bool b => cases b <;> cases h <;> decide
  | string ps =>
    obtain ⟨cs, -, rfl⟩ := Option.map_eq_some_iff.mp h
    exact ⟨nofun, nofun⟩
  | emptyArray inside =>
    cases h
    exact ⟨nofun, nofun⟩
  | array items =>
    obtain ⟨vs, -, rfl⟩ := Option.map_eq_some_iff.mp h
    exact ⟨nofun, nofun⟩
  | emptyObject inside =>
    cases h
    exact ⟨nofun, nofun⟩
  | object members =>
    obtain ⟨ms, -, rfl⟩ := Option.map_eq_some_iff.mp h
    exact ⟨nofun, nofun⟩

/-! ## Objects -/

/-- Objects are read as objects, member by member, and nothing else is. -/
theorem Tree.members?_of_json? {t : Tree} {v : Json} (h : t.json? = some v) :
    (t.members? = none ∧ ∀ js, v ≠ .object js) ∨
      ∃ ms js, t.members? = some ms ∧ v = .object js ∧ List.Forall₂ MemberStandsFor ms js := by
  -- Of the eight kinds of values two are objects.
  cases t with
  | null => cases h; exact .inl ⟨rfl, nofun⟩
  | bool b => cases h; exact .inl ⟨rfl, nofun⟩
  | number n =>
    obtain ⟨x, -, rfl⟩ := Option.map_eq_some_iff.mp h
    exact .inl ⟨rfl, nofun⟩
  | string ps =>
    obtain ⟨cs, -, rfl⟩ := Option.map_eq_some_iff.mp h
    exact .inl ⟨rfl, nofun⟩
  | emptyArray inside => cases h; exact .inl ⟨rfl, nofun⟩
  | array items =>
    obtain ⟨vs, -, rfl⟩ := Option.map_eq_some_iff.mp h
    exact .inl ⟨rfl, nofun⟩
  | emptyObject inside => cases h; exact .inr ⟨[], [], rfl, rfl, .nil⟩
  | object members =>
    obtain ⟨js, hjs, rfl⟩ := Option.map_eq_some_iff.mp h
    exact .inr ⟨members.list, js, rfl, rfl, members.standFor hjs⟩

end LossProbe.Json
