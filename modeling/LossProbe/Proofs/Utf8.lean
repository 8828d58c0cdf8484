import LossProbe.Text.Utf8

/-!
# Well-formed octets

Octets are well formed when they spell a text, character by character. `Spelling` lists the
octets that spell one character: their ranges keep out overlong forms, surrogates and code points
that are too great. Decoding takes exactly one spelling off the front at a time
(`decodeFrom_spelling`, `exists_spelling`), so it succeeds exactly on well-formed octets and gives
back the text they spell (`decode_eq_ok_iff`).
-/

namespace LossProbe.Utf8

/-- The octets that spell a text. -/
def octetsOf (text : List Char) : List UInt8 := text.flatMap String.utf8EncodeChar

/-- Octets that spell some text. -/
def WellFormed (octets : List UInt8) : Prop := ∃ text, octetsOf text = octets

/-! ## One character -/

/-- An octet that can only go on with a character. -/
def IsTail (b : UInt8) : Prop := 0x80 ≤ b.toNat ∧ b.toNat ≤ 0xbf

/-- The octets that spell a character. -/
inductive Spelling : Char → List UInt8 → Prop where
  | one {a : UInt8} (ha : a.toNat < 0x80) : Spelling (Char.ofNat a.toNat) [a]
  | two {a b : UInt8} (ha : 0xc2 ≤ a.toNat ∧ a.toNat < 0xe0) (hb : IsTail b) :
      Spelling (Char.ofNat (a.toNat % 0x20 * 0x40 + b.toNat % 0x40)) [a, b]
  | three {a b c : UInt8} (ha : 0xe0 ≤ a.toNat ∧ a.toNat < 0xf0) (hb : IsTail b) (hc : IsTail c)
      (long : a.toNat = 0xe0 → 0xa0 ≤ b.toNat) (scalar : a.toNat = 0xed → b.toNat ≤ 0x9f) :
      Spelling (Char.ofNat ((a.toNat % 0x10 * 0x40 + b.toNat % 0x40) * 0x40 + c.toNat % 0x40))
        [a, b, c]
  | four {a b c d : UInt8} (ha : 0xf0 ≤ a.toNat ∧ a.toNat < 0xf5) (hb : IsTail b) (hc : IsTail c)
      (hd : IsTail d) (long : a.toNat = 0xf0 → 0x90 ≤ b.toNat)
      (scalar : a.toNat = 0xf4 → b.toNat ≤ 0x8f) :
      Spelling (Char.ofNat (((a.toNat % 0x08 * 0x40 + b.toNat % 0x40) * 0x40 + c.toNat % 0x40) *
        0x40 + d.toNat % 0x40)) [a, b, c, d]

/-- A number that is the code of a character is the code of the character made of it. -/
theorem toNat_val_ofNat {n : Nat} (h : n.isValidChar) : (Char.ofNat n).val.toNat = n := by
  rw [Char.ofNat, dif_pos h]
  rfl

/-- An octet is made again from its number. -/
theorem ofNat_eq {n : Nat} {b : UInt8} (h : n = b.toNat) : UInt8.ofNat n = b := by
  rw [h, UInt8.ofNat_toNat]

/-- A spelling is what the character is encoded as. -/
theorem Spelling.encode {c : Char} {octets : List UInt8} (h : Spelling c octets) :
    String.utf8EncodeChar c = octets := by
  unfold String.utf8EncodeChar
  cases h with
  | @one a ha =>
    rw [toNat_val_ofNat (.inl (by omega)), if_pos (by omega)]
    rw [UInt8.ofNat_toNat]
  | @two a b ha hb =>
    obtain ⟨hb, hb'⟩ := hb
    rw [toNat_val_ofNat (.inl (by omega)), if_neg (by omega), if_pos (by omega)]
    rw [ofNat_eq (b := a) (by omega), ofNat_eq (b := b) (by omega)]
  | @three a b c ha hb hc long scalar =>
    obtain ⟨⟨hb, hb'⟩, hc, hc'⟩ := hb, hc
    -- Here `scalar` keeps out the surrogates, and `long` what has a shorter spelling.
    have hvalid : Nat.isValidChar
        ((a.toNat % 0x10 * 0x40 + b.toNat % 0x40) * 0x40 + c.toNat % 0x40) := by
      unfold Nat.isValidChar
      omega
    rw [toNat_val_ofNat hvalid, if_neg (by omega), if_neg (by omega), if_pos (by omega)]
    rw [ofNat_eq (b := a) (by omega), ofNat_eq (b := b) (by omega),
      ofNat_eq (b := c) (by omega)]
  | @four a b c d ha hb hc hd long scalar =>
    obtain ⟨⟨hb, hb'⟩, ⟨hc, hc'⟩, hd, hd'⟩ := hb, hc, hd
    rw [toNat_val_ofNat (.inr (by omega)), if_neg (by omega), if_neg (by omega),
      if_neg (by omega)]
    rw [ofNat_eq (b := a) (by omega), ofNat_eq (b := b) (by omega),
      ofNat_eq (b := c) (by omega), ofNat_eq (b := d) (by omega)]

/-- A number that fits into an octet is kept by it. -/
theorem toNat_ofNat_of_lt {n : Nat} (h : n < 0x100) : (UInt8.ofNat n).toNat = n := by
  rw [UInt8.toNat_ofNat']
  omega

/-- Every character has a spelling. -/
theorem spelling_utf8EncodeChar (c : Char) : Spelling c (String.utf8EncodeChar c) := by
  have hvalid : c.val.toNat.isValidChar := c.valid
  have hc : Char.ofNat c.val.toNat = c := Char.ofNat_toNat c
  unfold Nat.isValidChar at hvalid
  generalize hn : c.val.toNat = n at hvalid hc
  unfold String.utf8EncodeChar
  rw [hn, ← hc]
  dsimp only
  -- One case for each length: the digits of `n` to the base 64, put together again, are `n`.
  split
  · have ha := toNat_ofNat_of_lt (n := n) (by omega)
    have h := Spelling.one (a := UInt8.ofNat n) (by omega)
    rwa [ha] at h
  · split
    · have ha := toNat_ofNat_of_lt (n := n / 64 % 0x20 + 0xc0) (by omega)
      have hb := toNat_ofNat_of_lt (n := n % 0x40 + 0x80) (by omega)
      have h := Spelling.two (a := UInt8.ofNat (n / 64 % 0x20 + 0xc0))
        (b := UInt8.ofNat (n % 0x40 + 0x80)) (by omega) ⟨by omega, by omega⟩
      have hn : (n / 64 % 0x20 + 0xc0) % 0x20 * 0x40 + (n % 0x40 + 0x80) % 0x40 = n := by omega
      rw [ha, hb, hn] at h
      exact h
    · split
      · have ha := toNat_ofNat_of_lt (n := n / 4096 % 0x10 + 0xe0) (by omega)
        have hb := toNat_ofNat_of_lt (n := n / 64 % 0x40 + 0x80) (by omega)
        have hc := toNat_ofNat_of_lt (n := n % 0x40 + 0x80) (by omega)
        have h := Spelling.three (a := UInt8.ofNat (n / 4096 % 0x10 + 0xe0))
          (b := UInt8.ofNat (n / 64 % 0x40 + 0x80)) (c := UInt8.ofNat (n % 0x40 + 0x80))
          (by omega) ⟨by omega, by omega⟩ ⟨by omega, by omega⟩ (by omega) (by omega)
        have hn : ((n / 4096 % 0x10 + 0xe0) % 0x10 * 0x40 + (n / 64 % 0x40 + 0x80) % 0x40) * 0x40 +
            (n % 0x40 + 0x80) % 0x40 = n := by omega
        rw [ha, hb, hc, hn] at h
        exact h
      · have ha := toNat_ofNat_of_lt (n := n / 262144 % 0x08 + 0xf0) (by omega)
        have hb := toNat_ofNat_of_lt (n := n / 4096 % 0x40 + 0x80) (by omega)
        have hc := toNat_ofNat_of_lt (n := n / 64 % 0x40 + 0x80) (by omega)
        have hd := toNat_ofNat_of_lt (n := n % 0x40 + 0x80) (by omega)
        have h := Spelling.four (a := UInt8.ofNat (n / 262144 % 0x08 + 0xf0))
          (b := UInt8.ofNat (n / 4096 % 0x40 + 0x80)) (c := UInt8.ofNat (n / 64 % 0x40 + 0x80))
          (d := UInt8.ofNat (n % 0x40 + 0x80)) (by omega) ⟨by omega, by omega⟩
          ⟨by omega, by omega⟩ ⟨by omega, by omega⟩ (by omega) (by omega)
        have hn : (((n / 262144 % 0x08 + 0xf0) % 0x08 * 0x40 + (n / 4096 % 0x40 + 0x80) % 0x40) *
            0x40 + (n / 64 % 0x40 + 0x80) % 0x40) * 0x40 + (n % 0x40 + 0x80) % 0x40 = n := by omega
        rw [ha, hb, hc, hd, hn] at h
        exact h

/-! ## Decoding -/

/-- An octet below `0x80` is a character of its own. -/
theorem start_one {a : UInt8} (ha : a.toNat < 0x80) : start a = .whole (Char.ofNat a.toNat) := by
  unfold start
  rw [if_pos (UInt8.lt_iff_toNat_lt.mpr ha)]

/-- An octet from `0xc2` on begins two octets, with the five bits that it carries. -/
theorem start_two {a : UInt8} (ha : 0xc2 ≤ a.toNat ∧ a.toNat < 0xe0) :
    start a = .part ⟨a.toNat % 0x20, 0x80, 0xbf, 1, 1⟩ := by
  simp only [start, UInt8.lt_iff_toNat_lt, ← UInt8.toNat_inj]
  simp
  grind

/-- An octet from `0xe0` on begins three octets, and fixes how low and how high the second may
    be. -/
theorem start_three {a : UInt8} (ha : 0xe0 ≤ a.toNat ∧ a.toNat < 0xf0) :
    start a = .part ⟨a.toNat % 0x10, if a.toNat = 0xe0 then 0xa0 else 0x80,
      if a.toNat = 0xed then 0x9f else 0xbf, 2, 1⟩ := by
  simp only [start, UInt8.lt_iff_toNat_lt, ← UInt8.toNat_inj]
  simp
  grind

/-- An octet from `0xf0` on begins four octets, and fixes how low and how high the second may be. -/
theorem start_four {a : UInt8} (ha : 0xf0 ≤ a.toNat ∧ a.toNat < 0xf5) :
    start a = .part ⟨a.toNat % 0x08, if a.toNat = 0xf0 then 0x90 else 0x80,
      if a.toNat = 0xf4 then 0x8f else 0xbf, 3, 1⟩ := by
  simp only [start, UInt8.lt_iff_toNat_lt, ← UInt8.toNat_inj]
  simp
  grind

/-- All other octets begin nothing: those that continue a character, those that would spell one too
    long, and those beyond the last. -/
theorem start_nothing {a : UInt8} (ha : 0x80 ≤ a.toNat) (ha' : a.toNat < 0xc2 ∨ 0xf5 ≤ a.toNat) :
    start a = .nothing := by
  simp only [start, UInt8.lt_iff_toNat_lt, ← UInt8.toNat_inj]
  simp
  grind

/-- The least second octet of a character, raised after some first octets. -/
theorem low_le_iff {raised : Prop} [Decidable raised] {x : UInt8} (hx : 0x80 ≤ x.toNat)
    (b : UInt8) :
    (if raised then x else 0x80).toNat ≤ b.toNat ↔
      0x80 ≤ b.toNat ∧ (raised → x.toNat ≤ b.toNat) := by
  by_cases h : raised
  · rw [if_pos h]
    exact ⟨fun hb => ⟨Nat.le_trans hx hb, fun _ => hb⟩, fun hb => hb.2 h⟩
  · rw [if_neg h]
    exact ⟨fun hb => ⟨hb, fun hr => absurd hr h⟩, fun hb => hb.1⟩

/-- The greatest second octet of a character, lowered after some first octets. -/
theorem le_high_iff {lowered : Prop} [Decidable lowered] {x : UInt8} (hx : x.toNat ≤ 0xbf)
    (b : UInt8) :
    b.toNat ≤ (if lowered then x else 0xbf).toNat ↔
      b.toNat ≤ 0xbf ∧ (lowered → b.toNat ≤ x.toNat) := by
  by_cases h : lowered
  · rw [if_pos h]
    exact ⟨fun hb => ⟨Nat.le_trans hb hx, fun _ => hb⟩, fun hb => hb.2 h⟩
  · rw [if_neg h]
    exact ⟨fun hb => ⟨hb, fun hl => absurd hl h⟩, fun hb => hb.1⟩

/-- Decoding takes the spelling of a character off the front. -/
theorem decodeFrom_spelling {c : Char} {octets : List UInt8} (h : Spelling c octets) (i : Nat)
    (more : List UInt8) :
    ∃ j, decodeFrom i none (octets ++ more) = (decodeFrom j none more).map (c :: ·) := by
  cases h with
  | one ha => exact ⟨i + 1, by simp [decodeFrom, start_one ha]⟩
  | @two a b ha hb =>
    obtain ⟨hb, hb'⟩ := hb
    refine ⟨i + 2, ?_⟩
    simp [decodeFrom, start_two ha, Pending.accepts, Pending.push, UInt8.le_iff_toNat_le, hb, hb']
  -- The second octet has a narrower range, which rules out long spellings and surrogates.
  | @three a b c ha hb hc long scalar =>
    obtain ⟨⟨hb, hb'⟩, hc, hc'⟩ := hb, hc
    refine ⟨i + 3, ?_⟩
    have hlow := (low_le_iff (x := 0xa0) (by decide) b).mpr ⟨hb, long⟩
    have hhigh := (le_high_iff (x := 0x9f) (by decide) b).mpr ⟨hb', scalar⟩
    simp [decodeFrom, start_three ha, Pending.accepts, Pending.push, UInt8.le_iff_toNat_le, hlow,
      hhigh, hc, hc']
  | @four a b c d ha hb hc hd long scalar =>
    obtain ⟨⟨hb, hb'⟩, ⟨hc, hc'⟩, hd, hd'⟩ := hb, hc, hd
    refine ⟨i + 4, ?_⟩
    have hlow := (low_le_iff (x := 0x90) (by decide) b).mpr ⟨hb, long⟩
    have hhigh := (le_high_iff (x := 0x8f) (by decide) b).mpr ⟨hb', scalar⟩
    simp [decodeFrom, start_four ha, Pending.accepts, Pending.push, UInt8.le_iff_toNat_le, hlow,
      hhigh, hc, hc', hd, hd']

/-- Inside a character the next octet must be in range. -/
theorem decodeFrom_some {i : Nat} {p : Pending} {octets : List UInt8} {text : List Char}
    (h : decodeFrom i (some p) octets = .ok text) :
    ∃ b more, octets = b :: more ∧ p.low.toNat ≤ b.toNat ∧ b.toNat ≤ p.high.toNat ∧
      (1 < p.missing → decodeFrom i (some (p.push b)) more = .ok text) := by
  cases octets with
  | nil => exact nomatch h
  | cons b more =>
    simp only [decodeFrom] at h
    -- The next octet is in the range that is expected, or the decoder fails.
    split at h
    · rename_i haccepts
      simp only [Pending.accepts, Bool.and_eq_true, decide_eq_true_eq, UInt8.le_iff_toNat_le]
        at haccepts
      refine ⟨b, more, rfl, haccepts.1, haccepts.2, fun hmissing => ?_⟩
      rw [if_neg (by omega)] at h
      exact h
    · exact nomatch h

/-- Octets that can be decoded begin with the spelling of a character. -/
theorem exists_spelling {i : Nat} {a : UInt8} {octets : List UInt8} {text : List Char}
    (h : decodeFrom i none (a :: octets) = .ok text) :
    ∃ c spelled more, Spelling c spelled ∧ a :: octets = spelled ++ more := by
  simp only [decodeFrom] at h
  -- The first octet says how many follow and bounds the second.
  by_cases hone : a.toNat < 0x80
  · exact ⟨_, _, octets, .one hone, rfl⟩
  by_cases hnothing : a.toNat < 0xc2 ∨ 0xf5 ≤ a.toNat
  · rw [start_nothing (by omega) hnothing] at h
    exact nomatch h
  by_cases htwo : a.toNat < 0xe0
  · rw [start_two ⟨by omega, htwo⟩] at h
    obtain ⟨b, more, rfl, hb, hb', -⟩ := decodeFrom_some h
    exact ⟨_, _, more, .two ⟨by omega, htwo⟩ ⟨hb, hb'⟩, rfl⟩
  by_cases hthree : a.toNat < 0xf0
  · rw [start_three ⟨by omega, hthree⟩] at h
    obtain ⟨b, more, rfl, hb, hb', h⟩ := decodeFrom_some h
    obtain ⟨c, more, rfl, hc, hc', -⟩ := decodeFrom_some (h (by simp))
    obtain ⟨hb, long⟩ := (low_le_iff (by decide) b).mp hb
    obtain ⟨hb', scalar⟩ := (le_high_iff (by decide) b).mp hb'
    exact ⟨_, _, more, .three ⟨by omega, hthree⟩ ⟨hb, hb'⟩ ⟨hc, hc'⟩ long scalar, rfl⟩
  · rw [start_four ⟨by omega, by omega⟩] at h
    obtain ⟨b, more, rfl, hb, hb', h⟩ := decodeFrom_some h
    obtain ⟨c, more, rfl, hc, hc', h⟩ := decodeFrom_some (h (by simp))
    obtain ⟨d, more, rfl, hd, hd', -⟩ := decodeFrom_some (h (by simp [Pending.push]))
    obtain ⟨hb, long⟩ := (low_le_iff (by decide) b).mp hb
    obtain ⟨hb', scalar⟩ := (le_high_iff (by decide) b).mp hb'
    exact ⟨_, _, more,
      .four ⟨by omega, by omega⟩ ⟨hb, hb'⟩ ⟨hc, hc'⟩ ⟨hd, hd'⟩ long scalar, rfl⟩

/-- What is decoded is spelled by the octets it is decoded from. -/
theorem octetsOf_of_decodeFrom {i : Nat} {octets : List UInt8} {text : List Char}
    (h : decodeFrom i none octets = .ok text) : octetsOf text = octets := by
  induction hn : octets.length using Nat.strongRecOn generalizing i octets text with
  | ind n ih =>
    cases octets with
    | nil =>
      cases h
      rfl
    | cons a octets =>
      -- One spelling is taken off the front, and the rest is shorter.
      obtain ⟨c, spelled, more, hspelled, heq⟩ := exists_spelling h
      obtain ⟨j, hj⟩ := decodeFrom_spelling hspelled i more
      rw [heq, hj] at h
      cases hmore : decodeFrom j none more with
      | error e => rw [hmore] at h; exact nomatch h
      | ok rest =>
        rw [hmore] at h
        cases h
        have hlength : more.length < n := by
          rw [← hn, heq, List.length_append]
          have : 0 < spelled.length := by cases hspelled <;> simp
          omega
        rw [heq, octetsOf, List.flatMap_cons, hspelled.encode]
        rw [← octetsOf, ih _ hlength hmore rfl]

/-- A text is decoded from the octets that spell it. -/
theorem decodeFrom_octetsOf (i : Nat) (text : List Char) :
    decodeFrom i none (octetsOf text) = .ok text := by
  induction text generalizing i with
  | nil => rfl
  | cons c text ih =>
    obtain ⟨j, hj⟩ := decodeFrom_spelling (spelling_utf8EncodeChar c) i (octetsOf text)
    rw [octetsOf, List.flatMap_cons, ← octetsOf, hj, ih]
    rfl

/-- Octets are decoded to the text they spell. -/
theorem decode_eq_ok_iff {octets : List UInt8} {text : List Char} :
    decode octets = .ok text ↔ octetsOf text = octets := by
  constructor
  · exact octetsOf_of_decodeFrom
  · rintro rfl
    exact decodeFrom_octetsOf 0 text

end LossProbe.Utf8
