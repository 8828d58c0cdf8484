import Mathlib.Algebra.Order.Ring.Abs
import LossProbe.Proofs.NearestDouble

/-!
# Nearest, and even

What rounding promises, said without rounding. A quotient goes to the nearest whole number, and to
the even one where two are equally near (`nearestWhole_roundHalfEven`). A quotient that is rounded
to a double goes to the nearest of all finite doubles, and to that with an even last bit where two
are equally near (`isNearest_of_magnitude`). Of each sign there is only one such double
(`IsNearest.unique`).
-/

namespace LossProbe

/-! ## Whole numbers -/

/-- The whole number nearest to `x`, and of two that are equally near the even one. -/
structure NearestWhole (n : ℤ) (x : ℚ) : Prop where
  nearest : ∀ k : ℤ, |(n : ℚ) - x| ≤ |(k : ℚ) - x|
  even : ∀ k : ℤ, k ≠ n → |(k : ℚ) - x| = |(n : ℚ) - x| → Even n

section

variable {n : ℤ} {x : ℚ}

/-- Half a step around a whole number, there is no other. -/
theorem half_le_of_ne (h : |(n : ℚ) - x| ≤ 1 / 2) {k : ℤ} (hk : k ≠ n) : 1 / 2 ≤ |(k : ℚ) - x| := by
  obtain ⟨hlow, hhigh⟩ := abs_le.mp h
  -- Another integer is at least one away, on either side.
  rcases lt_or_gt_of_ne hk with hlt | hgt
  · have hstep : (k : ℚ) + 1 ≤ n := by exact_mod_cast hlt
    apply le_abs.mpr
    right
    linarith
  · have hstep : (n : ℚ) + 1 ≤ k := by exact_mod_cast hgt
    apply le_abs.mpr
    left
    linarith

/-- A whole number within half a step is the nearest. Only another one that is half a step off, too,
    can be as near. -/
theorem NearestWhole.of_le_half (h : |(n : ℚ) - x| ≤ 1 / 2)
    (heven : |(n : ℚ) - x| = 1 / 2 → Even n) : NearestWhole n x where
  nearest := by
    intro k
    by_cases hk : k = n
    · rw [hk]
    · exact h.trans (half_le_of_ne h hk)
  even := by
    intro k hk heq
    have hhalf := half_le_of_ne h hk
    apply heven
    linarith

/-- So any number at least one step away is no nearer, and it is farther away if the whole number is
    odd. -/
theorem NearestWhole.le_of_one_le (h : NearestWhole n x) {z : ℚ} (hz : 1 ≤ |z - n|) :
    |(n : ℚ) - x| ≤ |z - x| ∧ (Odd n → |(n : ℚ) - x| < |z - x|) := by
  -- The next whole number on that side is no farther away than `z`.
  obtain ⟨k, hk, hle⟩ : ∃ k : ℤ, k ≠ n ∧ |(k : ℚ) - x| ≤ |z - x| := by
    rcases le_abs.mp hz with hz | hz
    · refine ⟨n + 1, by omega, ?_⟩
      have hnext := h.nearest (n + 1)
      push_cast at hnext ⊢
      rcases abs_cases ((n : ℚ) - x) <;> rcases abs_cases ((n : ℚ) + 1 - x) <;>
        rcases abs_cases (z - x) <;> linarith
    · refine ⟨n - 1, by omega, ?_⟩
      have hnext := h.nearest (n - 1)
      push_cast at hnext ⊢
      rcases abs_cases ((n : ℚ) - x) <;> rcases abs_cases ((n : ℚ) - 1 - x) <;>
        rcases abs_cases (z - x) <;> linarith
  refine ⟨(h.nearest k).trans hle, fun hodd => lt_of_lt_of_le ?_ hle⟩
  apply lt_of_le_of_ne (h.nearest k)
  intro heq
  exact (Int.not_even_iff_odd.mpr hodd) (h.even k hk heq.symm)

/-- What is nearest to a number is, negated, nearest to the negated number. -/
theorem NearestWhole.neg (h : NearestWhole n x) : NearestWhole (-n) (-x) := by
  have habs (m : ℤ) : |(m : ℚ) - -x| = |((-m : ℤ) : ℚ) - x| := by
    push_cast
    rw [sub_neg_eq_add, ← abs_neg, neg_add']
  constructor
  · intro k
    rw [habs, habs, neg_neg]
    exact h.nearest (-k)
  · intro k hk heq
    rw [habs, habs, neg_neg] at heq
    apply Even.neg
    apply h.even (-k) _ heq
    omega

end

section

variable {num den : Nat}

/-- An odd number is not rounded to from half a step away. -/
theorem even_roundHalfEven_of_tie (hden : 0 < den)
    (h : |(roundHalfEven num den : ℚ) * den - num| = den / 2) : Even (roundHalfEven num den) := by
  -- Without fractions: the rest is half of the divisor, on one side or the other.
  have htie : 2 * num = (2 * roundHalfEven num den + 1) * den ∨
      2 * num + den = 2 * roundHalfEven num den * den := by
    rcases (abs_eq (by positivity)).mp h with h | h
    · right
      have : (2 : ℚ) * num + den = 2 * roundHalfEven num den * den := by linarith
      exact_mod_cast this
    · left
      have : (2 : ℚ) * num = (2 * roundHalfEven num den + 1) * den := by linarith
      exact_mod_cast this
  have hsplit := Nat.div_add_mod num den
  have hlt := Nat.mod_lt num hden
  rw [Nat.mul_comm] at hsplit
  unfold roundHalfEven at htie ⊢
  dsimp only at htie ⊢
  split
  · rename_i hless
    rw [if_pos hless, Nat.add_mul, Nat.mul_assoc] at htie
    omega
  · rename_i hless
    split
    · rename_i hmore
      rw [if_neg hless, if_pos hmore, Nat.add_mul, Nat.mul_assoc, Nat.add_mul] at htie
      omega
    · -- Here the rounding is even by its definition.
      rw [Nat.even_iff]
      omega

/-- Rounding gives the nearest whole number, and of two nearest ones the even one. -/
theorem nearestWhole_roundHalfEven (num : Nat) (hden : 0 < den) :
    NearestWhole (roundHalfEven num den : ℕ) ((num : ℚ) / den) := by
  have hdenQ : (0 : ℚ) < den := by exact_mod_cast hden
  -- Multiplied by the divisor, the distance is one of natural numbers.
  have hscale : |(roundHalfEven num den : ℚ) * den - num| =
      |(roundHalfEven num den : ℚ) - num / den| * den := by
    calc _ = |((roundHalfEven num den : ℚ) - num / den) * den| := by
          rw [sub_mul, div_mul_cancel₀ _ hdenQ.ne']
      _ = _ := by rw [abs_mul, abs_of_pos hdenQ]
  have herror := Binary64.abs_roundHalfEven_sub_le num hden
  apply NearestWhole.of_le_half
  · push_cast
    rw [hscale] at herror
    apply le_of_mul_le_mul_right _ hdenQ
    linarith
  · intro hhalf
    push_cast at hhalf ⊢
    have heven : Even (roundHalfEven num den) := by
      apply even_roundHalfEven_of_tie hden
      rw [hscale, hhalf]
      ring
    exact_mod_cast heven

end

namespace Binary64

/-! ## Magnitudes -/

section

variable {e r m : Nat}

/-- A greater double is greater by one step at least. -/
theorem succ_mul_le_unitsOf (hr : r ≤ 2 * binade) (hnormal : 0 < e → binade ≤ r)
    (h : e * binade + r < m) : (r + 1) * 2 ^ e ≤ unitsOf m := by
  have hunits := unitsOf_strictMono.monotone (Nat.succ_le_of_lt h)
  rw [Nat.succ_eq_add_one, Nat.add_assoc] at hunits
  apply Nat.le_trans _ hunits
  by_cases hcarry : r = 2 * binade
  · -- The significand carries over, and from there on steps are twice as long.
    have hbinade : 0 < binade := by decide
    have hnext : e * binade + (r + 1) = (e + 1) * binade + (binade + 1) := by
      rw [Nat.add_mul]
      omega
    have hlong : (binade + 1) * 2 ^ (e + 1) = (2 * binade + 2) * 2 ^ e := by
      rw [Nat.pow_succ]
      ring
    rw [hnext, unitsOf_pack (by omega) (by omega), hlong, hcarry]
    apply Nat.mul_le_mul_right
    omega
  · rw [unitsOf_pack (by omega) (by omega)]

/-- A smaller double is smaller by one step at least, unless steps become shorter just there. -/
theorem unitsOf_add_le_mul (hr : r ≤ 2 * binade) (hnormal : 0 < e → binade ≤ r)
    (hshort : 0 < e → r ≠ binade) (h : m < e * binade + r) : unitsOf m + 2 ^ e ≤ r * 2 ^ e := by
  have hbinade : 0 < binade := by decide
  have hpos : 0 < r := by
    rcases Nat.eq_zero_or_pos e with rfl | he
    · omega
    · exact Nat.lt_of_lt_of_le hbinade (hnormal he)
  obtain ⟨k, rfl⟩ := Nat.exists_eq_add_one_of_ne_zero hpos.ne'
  -- The double below has the significand `r - 1` at the same exponent.
  have hle : m ≤ e * binade + k := by omega
  have hunits := unitsOf_strictMono.monotone hle
  rw [unitsOf_pack (by omega) (by omega)] at hunits
  rw [Nat.add_mul, Nat.one_mul]
  exact Nat.add_le_add_right hunits _

end

section

variable {num den m : Nat}

/-- A quotient, in steps of the last bit of its rounding. -/
def steps (num den : Nat) : ℚ :=
  ((num * unitsPerOne : ℕ) : ℚ) / ((den * 2 ^ exponentOf num den : ℕ) : ℚ)

/-- Below infinity the nearest double is put together from its exponent and its significand. -/
theorem nearest_eq_pack (finite : nearest num den < infinityMagnitude) :
    nearest num den = exponentOf num den * binade + significandOf num den := by
  rw [nearest_eq] at finite ⊢
  omega

/-- The significand is nearest to the number of steps in the quotient. -/
theorem nearestWhole_significandOf (num : Nat) (hden : 0 < den) :
    NearestWhole (significandOf num den : ℕ) (steps num den) :=
  nearestWhole_roundHalfEven _ (shifted_pos hden)

/-- Any other double is at least one step away from the rounding, or it is below a quotient that was
    rounded down. -/
theorem one_le_abs_sub_significandOf (hden : 0 < den)
    (finite : nearest num den < infinityMagnitude) (h : m ≠ nearest num den) :
    1 ≤ |(unitsOf m : ℚ) / 2 ^ exponentOf num den - significandOf num den| ∨
      (unitsOf m : ℚ) / 2 ^ exponentOf num den < significandOf num den ∧
        (significandOf num den : ℚ) ≤ steps num den := by
  have hpow : (0 : ℚ) < 2 ^ exponentOf num den := by positivity
  have hr := significandOf_le num hden
  have hnormal : 0 < exponentOf num den → binade ≤ significandOf num den :=
    binade_le_significandOf hden
  rw [nearest_eq_pack finite] at h
  rcases lt_or_gt_of_ne h with hbelow | habove
  · by_cases hshort : 0 < exponentOf num den ∧ significandOf num den = binade
    · -- Steps become shorter just here, but the quotient is not below.
      right
      obtain ⟨he, hbinade⟩ := hshort
      have hshifted := shifted_le_units hden he
      rw [← hbinade] at hshifted
      have hunits := unitsOf_strictMono hbelow
      rw [unitsOf_pack hr hnormal] at hunits
      constructor
      · rw [div_lt_iff₀ hpow]
        exact_mod_cast hunits
      · have hpos : (0 : ℚ) < ((den * 2 ^ exponentOf num den : ℕ) : ℚ) := by
          exact_mod_cast shifted_pos hden
        rw [steps, le_div_iff₀ hpos]
        exact_mod_cast hshifted
    · left
      have hunits := unitsOf_add_le_mul hr hnormal (by omega) hbelow
      have hstep : (unitsOf m : ℚ) / 2 ^ exponentOf num den + 1 ≤ significandOf num den := by
        rw [div_add_one hpow.ne', div_le_iff₀ hpow]
        exact_mod_cast hunits
      apply le_abs.mpr
      right
      linarith
  · left
    have hunits := succ_mul_le_unitsOf hr hnormal habove
    have hstep : (significandOf num den : ℚ) + 1 ≤ (unitsOf m : ℚ) / 2 ^ exponentOf num den := by
      rw [le_div_iff₀ hpow]
      exact_mod_cast hunits
    apply le_abs.mpr
    left
    linarith

/-- Of the doubles, the rounding of a quotient is the nearest to it, and any other is farther away
    if its last bit is odd. -/
theorem abs_number_nearest_sub_le_of_ne (hden : 0 < den)
    (finite : nearest num den < infinityMagnitude) (h : m ≠ nearest num den) :
    |number (nearest num den) - num / den| ≤ |number m - num / den| ∧
      (Odd (nearest num den) →
        |number (nearest num den) - num / den| < |number m - num / den|) := by
  have hdenQ : (0 : ℚ) < den := by exact_mod_cast hden
  have hone := unitsPerOne_cast_pos
  have hpow : (0 : ℚ) < 2 ^ exponentOf num den := by positivity
  -- All distances are measured in steps.
  have hscale : (0 : ℚ) < 2 ^ exponentOf num den / unitsPerOne := div_pos hpow hone
  have hdistance (k : Nat) : |number k - num / den| =
      |(unitsOf k : ℚ) / 2 ^ exponentOf num den - steps num den| *
        (2 ^ exponentOf num den / unitsPerOne) := by
    have hexact : number k - num / den =
        ((unitsOf k : ℚ) / 2 ^ exponentOf num den - steps num den) *
          (2 ^ exponentOf num den / unitsPerOne) := by
      rw [number, steps]
      push_cast
      generalize (unitsPerOne : ℚ) = one at *
      field_simp
    rw [hexact, abs_mul, abs_of_pos hscale]
  have hself :
      (unitsOf (nearest num den) : ℚ) / 2 ^ exponentOf num den = significandOf num den := by
    rw [nearest_eq_pack finite, unitsOf_pack (significandOf_le num hden)
      (binade_le_significandOf hden), div_eq_iff hpow.ne']
    push_cast
    rfl
  have hodd (hm : Odd (nearest num den)) : Odd (significandOf num den) := by
    have hbinade : Even binade := ⟨2 ^ 51, rfl⟩
    rw [nearest_eq_pack finite] at hm
    exact (Nat.odd_add'.mp hm).mpr (hbinade.mul_left _)
  rw [hdistance, hdistance, hself]
  have hwhole := nearestWhole_significandOf num hden
  rcases one_le_abs_sub_significandOf hden finite h with hstep | ⟨hbelow, hdown⟩
  · obtain ⟨hle, hlt⟩ := hwhole.le_of_one_le (by push_cast; exact hstep)
    push_cast at hle hlt
    constructor
    · exact mul_le_mul_of_nonneg_right hle hscale.le
    · intro hm
      exact mul_lt_mul_of_pos_right (hlt (by exact_mod_cast hodd hm)) hscale
  · -- The quotient lies above both, and the rounding is the higher one.
    have hlt : |(significandOf num den : ℚ) - steps num den| <
        |(unitsOf m : ℚ) / 2 ^ exponentOf num den - steps num den| := by
      rw [abs_of_nonpos (by linarith), abs_of_nonpos (by linarith)]
      linarith
    have hlt := mul_lt_mul_of_pos_right hlt hscale
    exact ⟨hlt.le, fun _ => hlt⟩

end

/-! ## Doubles -/

/-- A number with a sign in front of it. -/
def signed (negative : Bool) (q : ℚ) : ℚ := if negative then -q else q

/-- Two numbers are as far apart under the same sign. -/
theorem abs_signed_sub_signed (negative : Bool) (p q : ℚ) :
    |signed negative p - signed negative q| = |p - q| := by
  unfold signed
  split
  · rw [neg_sub_neg, abs_sub_comm]
  · rfl

/-- A sign does not change how great a number is. -/
theorem abs_signed {q : ℚ} (hq : 0 ≤ q) (negative : Bool) : |signed negative q| = q := by
  unfold signed
  split
  · rw [abs_neg, abs_of_nonneg hq]
  · exact abs_of_nonneg hq

/-- A finite double stands for the number of its magnitude, with its sign. -/
theorem toRat_of_isFinite {x : Binary64} (h : x.isFinite = true) :
    x.toRat = signed x.isNegative (number x.magnitude) := by
  rw [toRat, value_of_isFinite h, number, signed]
  cases x.isNegative <;> simp [neg_div]

/-- A double is given by its sign and its magnitude. -/
theorem eq_of_magnitude_eq {x y : Binary64} (hsign : x.isNegative = y.isNegative)
    (h : x.magnitude = y.magnitude) : x = y := by
  have hx := x.bits.toNat_lt
  have hy := y.bits.toNat_lt
  -- Sign and magnitude are all the bits there are.
  have hbits : x.bits.toNat = y.bits.toNat := by
    unfold magnitude at h
    unfold isNegative at hsign
    rw [decide_eq_decide] at hsign
    unfold signBit at *
    omega
  cases x
  cases y
  exact congrArg Binary64.mk (UInt64.toNat_inj.mp hbits)

/-- Half a step beyond the greatest number, where rounding goes to infinity. -/
def overflow : Nat := 2 ^ 1024 - 2 ^ 970

/-- Where overflow begins, rounding leads to infinity. -/
theorem infinityMagnitude_le_nearest_overflow :
    infinityMagnitude ≤ Binary64.nearest overflow 1 := by
  decide +kernel

/-- A quotient that does not round to infinity is below the point where overflow begins. -/
theorem lt_overflow {num den : Nat} (hden : 0 < den)
    (h : Binary64.nearest num den < infinityMagnitude) : (num : ℚ) / den < overflow := by
  by_contra! hle
  rw [le_div_iff₀ (by exact_mod_cast hden)] at hle
  have hmono : Binary64.nearest overflow 1 ≤ Binary64.nearest num den := by
    apply nearest_mono Nat.one_pos hden
    rw [Nat.mul_one]
    exact_mod_cast hle
  have hinfinity := infinityMagnitude_le_nearest_overflow
  omega

/-- The double nearest to `q`, with a sign in front of both. No other finite double is nearer, and
    the last bit is even if there is one that is as near. -/
structure IsNearest (x : Binary64) (negative : Bool) (q : ℚ) : Prop where
  finite : x.isFinite = true
  inRange : q < overflow
  sign : x.isNegative = negative
  nearest : ∀ y : Binary64, y.isFinite = true →
    |x.toRat - signed negative q| ≤ |y.toRat - signed negative q|
  even : ∀ y : Binary64, y.isFinite = true → y.magnitude ≠ x.magnitude →
    |y.toRat - signed negative q| = |x.toRat - signed negative q| → Even x.magnitude

/-- A finite double whose magnitude is the rounding of a quotient is the nearest to it. -/
theorem isNearest_of_magnitude {x : Binary64} (hfinite : x.isFinite = true) {num den : Nat}
    (hden : 0 < den) (h : Binary64.nearest num den = x.magnitude) :
    x.IsNearest x.isNegative (num / den) := by
  have hlt : Binary64.nearest num den < infinityMagnitude := by
    rw [h]
    exact of_decide_eq_true hfinite
  have hq : (0 : ℚ) ≤ (num : ℚ) / den := by positivity
  -- A sign does not bring a double nearer than its magnitude is.
  have hmagnitude {y : Binary64} (hy : y.isFinite = true) :
      |number y.magnitude - num / den| ≤ |y.toRat - signed x.isNegative (num / den)| := by
    have htriangle := abs_abs_sub_abs_le y.toRat (signed x.isNegative ((num : ℚ) / den))
    rwa [toRat_of_isFinite hy, abs_signed (number_nonneg _), abs_signed hq,
      ← toRat_of_isFinite hy] at htriangle
  have hself : |x.toRat - signed x.isNegative ((num : ℚ) / den)| =
      |number (Binary64.nearest num den) - num / den| := by
    rw [toRat_of_isFinite hfinite, abs_signed_sub_signed, h]
  refine ⟨hfinite, lt_overflow hden hlt, rfl, fun y hy => ?_, fun y hy hne heq => ?_⟩
  · rw [hself]
    apply le_trans _ (hmagnitude hy)
    by_cases hy' : y.magnitude = Binary64.nearest num den
    · rw [hy']
    · exact (abs_number_nearest_sub_le_of_ne hden hlt hy').1
  · rw [← h]
    by_contra hodd
    rw [Nat.not_even_iff_odd] at hodd
    have hfar := (abs_number_nearest_sub_le_of_ne hden hlt (h ▸ hne)).2 hodd
    have hle := hmagnitude hy
    rw [heq, hself] at hle
    linarith

/-- Strictly between two numbers that are equally near to a third one, all are nearer. -/
theorem abs_sub_lt_of_between {a b c q : ℚ} (hab : a < b) (hbc : b < c)
    (heq : |a - q| = |c - q|) : |b - q| < |a - q| := by
  rcases abs_cases (a - q) <;> rcases abs_cases (b - q) <;> rcases abs_cases (c - q) <;> linarith

/-- There is only one nearest double of either sign. -/
theorem IsNearest.unique {x y : Binary64} {negative : Bool} {q : ℚ} (hx : x.IsNearest negative q)
    (hy : y.IsNearest negative q) : x = y := by
  -- It is enough that neither has the smaller magnitude.
  suffices hle : ∀ {x y : Binary64}, x.IsNearest negative q → y.IsNearest negative q →
      ¬ x.magnitude < y.magnitude by
    apply eq_of_magnitude_eq (hx.sign.trans hy.sign.symm)
    exact Nat.le_antisymm (Nat.not_lt.mp (hle hy hx)) (Nat.not_lt.mp (hle hx hy))
  intro x y hx hy hlt
  have heq := le_antisymm (hx.nearest y hy.finite) (hy.nearest x hx.finite)
  have hevenX := hx.even y hy.finite hlt.ne' heq.symm
  have hevenY := hy.even x hx.finite hlt.ne heq
  -- Both last bits are even, so there is a double between the two, and it is nearer.
  have hnext : x.magnitude + 1 < y.magnitude := by
    rw [Nat.even_iff] at hevenX hevenY
    omega
  have hfinite : y.magnitude < infinityMagnitude := of_decide_eq_true hy.finite
  have hsign : x.magnitude + 1 < signBit := by
    have hinfinity : infinityMagnitude < signBit := by decide
    omega
  let z := ofMagnitude negative (x.magnitude + 1)
  have hzMagnitude : z.magnitude = x.magnitude + 1 := magnitude_ofMagnitude hsign
  have hz : z.isFinite = true := by
    rw [isFinite, hzMagnitude]
    exact decide_eq_true (by omega)
  have hdistance {w : Binary64} (hw : w.isFinite = true) (hwSign : w.isNegative = negative) :
      |w.toRat - signed negative q| = |number w.magnitude - q| := by
    rw [toRat_of_isFinite hw, hwSign, abs_signed_sub_signed]
  have hzNearer := hx.nearest z hz
  rw [hdistance hx.finite hx.sign, hdistance hz (isNegative_ofMagnitude hsign), hzMagnitude]
    at hzNearer
  rw [hdistance hx.finite hx.sign, hdistance hy.finite hy.sign] at heq
  have hbetween := abs_sub_lt_of_between (number_strictMono (Nat.lt_succ_self x.magnitude))
    (number_strictMono hnext) heq
  exact absurd hzNearer (not_le.mpr hbetween)

end Binary64
end LossProbe
