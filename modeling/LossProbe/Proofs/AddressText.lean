import LossProbe.Proofs.AddressSpellings

/-!
# The text of an address

The text of an address is one of its spellings (`exists_spelling`): its groups have no zeros in
front, and its gap stands for the zero groups that are left out, whichever run of them was the
longest. So an address is read back from its text (`parse?_toString`). No text has more than 39
characters (`length_chars_le`): that is eight groups of four digits with the colons between them.
-/

namespace LossProbe.IpAddr

/-! ## Groups -/

/-- The digits of a group are a way to write it. -/
theorem exists_group (v : UInt16) : ∃ g : Group, g.chars = groupDigits v ∧ g.value = v := by
  have hlt := v.toNat_lt
  obtain ⟨ds, hchars, hall, hvalue, -⟩ := exists_digitValues (by decide : 1 < 16) v.toNat
  have hdigits : (ds.map Nat.digitChar).map (digitValue? 16) = ds.map some := by
    rw [List.map_map]
    exact List.map_congr_left fun d hd => digitValue?_digitChar (hall d hd) (Nat.le_refl 16)
  obtain ⟨hs, hhex, rfl⟩ := exists_hexDigits hdigits
  have hlength : (Nat.toDigits 16 v.toNat).length = hs.length := by
    rw [hchars, List.length_map, List.length_map]
  -- A number of sixteen bits has no more than four hexadecimal digits.
  have hshort : hs.length ≤ 4 := by
    rw [← hlength]
    exact (Nat.length_toDigits_le_iff (by decide) (by decide)).mpr (by omega)
  have hne : hs ≠ [] := by
    rintro rfl
    exact Nat.toDigits_ne_nil hchars
  refine ⟨⟨hs, hne, hshort⟩, hhex.trans hchars.symm, ?_⟩
  rw [Group.value, hvalue]
  simp

/-- Numbers are written as groups that stand for them. -/
theorem exists_groups (vs : List UInt16) :
    ∃ gs : List Group, gs.map Group.chars = vs.map groupDigits ∧ gs.map Group.value = vs := by
  induction vs with
  | nil => exact ⟨[], rfl, rfl⟩
  | cons v vs ih =>
    obtain ⟨g, hchars, rfl⟩ := exists_group v
    obtain ⟨gs, hgs, rfl⟩ := ih
    exact ⟨g :: gs, by rw [List.map_cons, List.map_cons, hchars, hgs], rfl⟩

/-- Groups without octets at the end are written with colons between them. -/
theorem chars_eq_joinGroups {gs : List Group} {vs : List UInt16}
    (h : gs.map Group.chars = vs.map groupDigits) : Groups.chars ⟨gs, none⟩ = joinGroups vs := by
  rw [Groups.chars, Groups.parts, h]
  exact congrArg _ (List.append_nil _)

/-! ## Gaps -/

section

variable {gs : List UInt16}

/-- The run that is left out is one of zeros, and there are at least two. -/
theorem of_longestZeroRun? {start length : Nat} (h : longestZeroRun? gs = some (start, length)) :
    0 < length ∧ start + length ≤ gs.length ∧
      gs = gs.take start ++ List.replicate length 0 ++ gs.drop (start + length) := by
  obtain ⟨l, hl, hstart⟩ := List.exists_of_findSome?_eq_some h
  obtain ⟨i, -, hrun⟩ := List.exists_of_findSome?_eq_some hstart
  obtain ⟨hzero, heq⟩ := Option.ite_none_right_eq_some.mp hrun
  cases heq
  simp only [isZeroRun, Bool.and_eq_true, decide_eq_true_eq] at hzero
  obtain ⟨hbound, hall⟩ := hzero
  have hpos : 0 < length := by
    have hleast : ∀ l ∈ [8, 7, 6, 5, 4, 3, 2], 0 < l := by decide
    exact hleast length hl
  refine ⟨hpos, hbound, ?_⟩
  -- The run was found where all groups are zero, so it can be written as zeros.
  have hzeros : (gs.drop start).take length = List.replicate length 0 := by
    refine List.eq_replicate_iff.mpr ⟨by simp; omega, fun g hg => ?_⟩
    simpa using List.all_eq_true.mp hall g hg
  rw [← hzeros, List.append_assoc, ← List.drop_drop, List.take_append_drop,
    List.take_append_drop]

/-- Two octets make their group again. -/
theorem pairGroup_octets (g : UInt16) :
    pairGroup (g.toNat / 256).toUInt8 g.toNat.toUInt8 = g := by
  have hlt := g.toNat_lt
  apply UInt16.toNat_inj.mp
  simp [pairGroup]
  omega

/-- The text of eight groups is one of their spellings. -/
theorem exists_spelling_groups (h : gs.length = 8) :
    ∃ sp : Spelling, sp.chars = groupsText gs ∧ sp.address = ofGroups gs h := by
  unfold groupsText
  split
  · -- The last two groups keep their dots, and the gap stands for the first five.
    rename_i hi lo
    obtain ⟨g, hchars, hvalue⟩ := exists_group 0xffff
    let back : Groups := ⟨[g], some ((hi.toNat / 256).toUInt8, hi.toNat.toUInt8,
      (lo.toNat / 256).toUInt8, lo.toNat.toUInt8)⟩
    have hback : back.values = [0xffff, hi, lo] := by
      show [g.value, pairGroup _ _, pairGroup _ _] = _
      rw [hvalue, pairGroup_octets, pairGroup_octets]
    refine ⟨.gapped ⟨[], back, by simp [hback]⟩, ?_, ?_⟩
    · have hbackChars : back.chars = groupDigits 0xffff ++ ':' :: dotted (hi.toNat / 256).toUInt8
          hi.toNat.toUInt8 (lo.toNat / 256).toUInt8 lo.toNat.toUInt8 := by
        simp [back, Groups.chars, Groups.parts, List.intercalate, hchars]
      rw [Spelling.chars, Gapped.chars, hbackChars]
      rfl
    · simp only [Spelling.address, ofGroups, Gapped.values, hback]
      rfl
  · split
    -- The gap stands for the longest run of zeros.
    · rename_i start length hrun
      obtain ⟨hpos, hbound, heq⟩ := of_longestZeroRun? hrun
      obtain ⟨front, hfront, hfrontValues⟩ := exists_groups (gs.take start)
      obtain ⟨back, hback, hbackValues⟩ := exists_groups (gs.drop (start + length))
      have hfrontLength : front.length = start := by
        rw [← List.length_map Group.value, hfrontValues, List.length_take]
        omega
      have hbackGroups : Groups.values ⟨back, none⟩ = gs.drop (start + length) :=
        (List.append_nil _).trans hbackValues
      have hbackLength : (Groups.values ⟨back, none⟩).length = 8 - (start + length) := by
        rw [hbackGroups, List.length_drop, h]
      refine ⟨.gapped ⟨front, ⟨back, none⟩, by omega⟩, ?_, ?_⟩
      · rw [Spelling.chars, Gapped.chars, chars_eq_joinGroups hfront, chars_eq_joinGroups hback]
      · have hroom : front.length + (Groups.values ⟨back, none⟩).length < 8 := by omega
        have hvalues : Gapped.values ⟨front, ⟨back, none⟩, hroom⟩ = gs := by
          have hzeros : front.length + length + (Groups.values ⟨back, none⟩).length = 8 := by omega
          rw [Gapped.values_eq _ hzeros, hfrontValues, hbackGroups]
          exact heq.symm
        simp only [Spelling.address, ofGroups, hvalues]
    · obtain ⟨l, hl, hvalues⟩ := exists_groups gs
      have hwhole : Groups.values ⟨l, none⟩ = gs := (List.append_nil _).trans hvalues
      refine ⟨.whole ⟨l, none⟩ (by rw [hwhole, h]), chars_eq_joinGroups hl, ?_⟩
      simp only [Spelling.address, ofGroups, hwhole]

end

/-! ## Addresses -/

/-- The groups of an address make up the address again. -/
theorem ofGroups_toList (groups : Vector UInt16 8) (h : groups.toList.length = 8) :
    ofGroups groups.toList h = .v6 groups :=
  congrArg v6 (Vector.toArray_inj.mp (Array.toArray_toList ..))

/-- The text of an address is one of its spellings. -/
theorem exists_spelling (ip : IpAddr) : ∃ sp : Spelling, sp.chars = ip.chars ∧ sp.address = ip := by
  cases ip with
  | v4 a b c d => exact ⟨.octets a b c d, rfl, rfl⟩
  | v6 groups =>
    have hlength : groups.toList.length = 8 := by simp
    obtain ⟨sp, hchars, haddress⟩ := exists_spelling_groups hlength
    exact ⟨sp, hchars, haddress.trans (ofGroups_toList groups hlength)⟩

/-- Every address is read back from its text. -/
theorem ofChars?_chars (ip : IpAddr) : ofChars? ip.chars = some ip := by
  obtain ⟨sp, hchars, haddress⟩ := exists_spelling ip
  exact ofChars?_eq_some_iff.mpr ⟨sp, hchars.symm, haddress⟩

/-- An address is read back from its text. -/
theorem parse?_toString (ip : IpAddr) : parse? (toString ip) = some ip := by
  have htext : (toString ip).toList = ip.chars := String.toList_ofList
  rw [parse?, htext, ofChars?_chars]

/-- Different addresses have different texts. -/
theorem toString_injective : Function.Injective (toString : IpAddr → String) := by
  intro ip other h
  apply Option.some.inj
  rw [← parse?_toString ip, ← parse?_toString other, h]

/-- What the text of an address consists of: digits, colons and dots. -/
def IsTextChar (c : Char) : Prop := digitValue? 16 c ≠ none ∨ c = ':' ∨ c = '.'

/-- Digits may stand in the text of an address. -/
theorem isTextChar_of_mem_toDigits {base n : Nat} {c : Char} (hbase : 1 < base)
    (hbase' : base ≤ 16) (h : c ∈ Nat.toDigits base n) : IsTextChar c := by
  obtain ⟨ds, hchars, hall, -⟩ := exists_digitValues hbase n
  rw [hchars] at h
  obtain ⟨d, hd, rfl⟩ := List.mem_map.mp h
  have hlt := hall d hd
  exact .inl (by simp [digitValue?_digitChar (show d < 16 by omega) (Nat.le_refl 16)])

/-- Four octets are written with characters of an address. -/
theorem isTextChar_of_mem_dotted {a b c d : UInt8} {x : Char} (h : x ∈ dotted a b c d) :
    IsTextChar x := by
  have hdigits (o : UInt8) (hx : x ∈ Decimal.digits o.toNat) : IsTextChar x :=
    isTextChar_of_mem_toDigits (by decide) (by decide) hx
  simp only [dotted, List.intercalate, List.map_cons, List.map_nil, List.intersperse,
    List.flatten_cons, List.flatten_nil, List.mem_append, List.mem_singleton,
    List.append_nil] at h
  rcases h with h | h | h | h | h | h | h
  all_goals first | exact hdigits _ h | exact .inr (.inr h)

/-- Parts with colons between them are written with characters of an address if all parts are. -/
theorem isTextChar_of_mem_joined {ps : List (List Char)} {isFirst : Bool} {c : Char}
    (hps : ∀ p ∈ ps, ∀ c ∈ p, IsTextChar c) (h : c ∈ joined isFirst ps) : IsTextChar c := by
  induction ps generalizing isFirst with
  | nil => cases h
  | cons p ps ih =>
    obtain ⟨hp, hps⟩ := List.forall_mem_cons.mp hps
    rw [joined, List.mem_append, List.mem_append] at h
    -- The separator, the first piece, the pieces behind it.
    rcases h with (h | h) | h
    · right
      left
      cases isFirst with
      | false => exact List.mem_singleton.mp h
      | true => cases h
    · exact hp c h
    · exact ih hps h

/-- Groups are written with characters of an address. -/
theorem isTextChar_of_mem_groups {gs : Groups} {c : Char} (h : c ∈ gs.chars) : IsTextChar c := by
  rw [Groups.chars, intercalate_eq_joined] at h
  apply isTextChar_of_mem_joined _ h
  intro p hp x hx
  -- A group of hexadecimal digits, or the four octets at the end.
  rcases List.mem_append.mp hp with hp | hp
  · obtain ⟨g, -, rfl⟩ := List.mem_map.mp hp
    obtain ⟨d, -, rfl⟩ := List.mem_map.mp hx
    exact .inl (by simp [digitValue?_char (value_lt d)])
  · obtain ⟨⟨a, b, c, d⟩, -, rfl⟩ := List.mem_map.mp hp
    exact isTextChar_of_mem_dotted hx

/-- Every spelling of an address has only characters that stand in addresses. -/
theorem isTextChar_of_mem_spelling {sp : Spelling} {c : Char} (h : c ∈ sp.chars) :
    IsTextChar c := by
  cases sp with
  | octets => exact isTextChar_of_mem_dotted h
  | whole => exact isTextChar_of_mem_groups h
  | gapped g =>
    simp only [Spelling.chars, Gapped.chars, List.mem_append, List.mem_cons] at h
    rcases h with h | h | h | h
    · exact isTextChar_of_mem_groups h
    · exact .inr (.inl h)
    · exact .inr (.inl h)
    · exact isTextChar_of_mem_groups h

/-- The text of an address has only characters that stand in addresses. -/
theorem isTextChar_of_mem_chars {ip : IpAddr} {c : Char} (h : c ∈ ip.chars) : IsTextChar c := by
  obtain ⟨sp, hchars, -⟩ := exists_spelling ip
  rw [← hchars] at h
  exact isTextChar_of_mem_spelling h

/-- The text of an address is not empty. -/
theorem chars_ne_nil (ip : IpAddr) : ip.chars ≠ [] := by
  intro h
  have hread := ofChars?_chars ip
  rw [h] at hread
  cases hread

/-! ## Lengths -/

/-- Pieces of fewer than `limit` characters, with one character between any two. -/
theorem length_intercalate_le {sep : Char} {pieces : List (List Char)} {limit : Nat}
    (h : ∀ p ∈ pieces, p.length < limit) :
    ([sep].intercalate pieces).length ≤ limit * pieces.length - 1 := by
  induction pieces with
  | nil => exact Nat.zero_le _
  | cons p pieces ih =>
    obtain ⟨hp, hpieces⟩ := List.forall_mem_cons.mp h
    cases pieces with
    | nil =>
      rw [List.intercalate_singleton, List.length_singleton]
      omega
    | cons q pieces =>
      have hrest := ih hpieces
      -- One separator goes with each piece after the first, so a piece and its separator fit the
      -- limit.
      simp only [List.intercalate_cons_cons, List.length_append, List.length_cons,
        List.length_nil, Nat.mul_add_one] at hrest ⊢
      omega

/-- Four octets are written with no more than 15 characters. -/
theorem length_dotted_le (a b c d : UInt8) : (dotted a b c d).length ≤ 15 := by
  have hshort : ∀ p ∈ [a, b, c, d].map fun o => Decimal.digits o.toNat, p.length < 4 := by
    intro p hp
    obtain ⟨o, -, rfl⟩ := List.mem_map.mp hp
    have hlt := o.toNat_lt
    have hdigits : (Decimal.digits o.toNat).length ≤ 3 :=
      (Nat.length_toDigits_le_iff (by decide) (by decide)).mpr (by omega)
    omega
  exact length_intercalate_le hshort

/-- Each group is written with no more than four characters, and a colon before the next. -/
theorem length_joinGroups_le (gs : List UInt16) : (joinGroups gs).length ≤ 5 * gs.length - 1 := by
  have hshort : ∀ p ∈ gs.map groupDigits, p.length < 5 := by
    intro p hp
    obtain ⟨g, -, rfl⟩ := List.mem_map.mp hp
    have hlt := g.toNat_lt
    -- Sixteen bits are four digits to the base 16.
    have hdigits : (groupDigits g).length ≤ 4 :=
      (Nat.length_toDigits_le_iff (by decide) (by decide)).mpr (by omega)
    omega
  rw [← List.length_map groupDigits]
  exact length_intercalate_le hshort

/-- An address of eight groups is written with no more than 39 characters. -/
theorem length_groupsText_le {gs : List UInt16} (h : gs.length = 8) :
    (groupsText gs).length ≤ 39 := by
  unfold groupsText
  split
  · -- The part with the colons has seven characters.
    rename_i hi lo
    have hdotted := length_dotted_le (hi.toNat / 256).toUInt8 hi.toNat.toUInt8
      (lo.toNat / 256).toUInt8 lo.toNat.toUInt8
    have hmark : "::ffff:".toList.length = 7 := rfl
    rw [List.length_append, hmark]
    omega
  · split
    · -- The two colons of a gap are no more than what the groups left out would need.
      rename_i start length hrun
      obtain ⟨hpos, hbound, -⟩ := of_longestZeroRun? hrun
      have hfront := length_joinGroups_le (gs.take start)
      have hback := length_joinGroups_le (gs.drop (start + length))
      rw [List.length_take] at hfront
      rw [List.length_drop] at hback
      simp only [List.length_append, List.length_cons]
      omega
    · have hwhole := length_joinGroups_le gs
      omega

/-- The text of an address has 39 characters at most. -/
theorem length_chars_le (ip : IpAddr) : ip.chars.length ≤ 39 := by
  cases ip with
  | v4 a b c d => exact Nat.le_trans (length_dotted_le a b c d) (by decide)
  | v6 groups => exact length_groupsText_le (by simp)

end LossProbe.IpAddr
