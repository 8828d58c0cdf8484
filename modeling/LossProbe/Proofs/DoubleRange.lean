import Mathlib.Tactic.Ring
import LossProbe.Binary64

/-!
# Products of doubles that stay finite

`nearest` splits a quotient into an exponent and a rounded significand of at most 53 bits
(`exists_nearest`). From this follow how far rounding can go up, and which quotients do not round
to infinity (`nearest_lt_infinity`). The product of two natural numbers that are rounded first,
and then once more, is finite as long as it stays away from the largest double by a tenth
(`isInfinite_ofNat_mul`).
-/

namespace LossProbe

/-! ## Rounding between natural numbers -/

/-- Rounding does not exceed a whole number that the quotient does not exceed. -/
theorem roundHalfEven_le {num den n : Nat} (hden : 0 < den) (h : num ≤ n * den) :
    roundHalfEven num den ≤ n := by
  have herror := (roundHalfEven_error num den hden).2
  have hle : 2 * roundHalfEven num den * den ≤ (2 * n + 1) * den := by
    calc 2 * roundHalfEven num den * den ≤ 2 * num + den := herror
      _ ≤ 2 * (n * den) + den := by omega
      _ = (2 * n + 1) * den := by rw [Nat.add_mul, Nat.mul_assoc, Nat.one_mul]
  have := Nat.le_of_mul_le_mul_right hle hden
  omega

/-- Rounding does not fall below a whole number that the quotient does not fall below. -/
theorem le_roundHalfEven {num den n : Nat} (hden : 0 < den) (h : n * den ≤ num) :
    n ≤ roundHalfEven num den := by
  have herror := (roundHalfEven_error num den hden).1
  have hle : 2 * n * den ≤ (2 * roundHalfEven num den + 1) * den := by
    calc 2 * n * den = 2 * (n * den) := Nat.mul_assoc _ _ _
      _ ≤ 2 * num := by omega
      _ ≤ (2 * roundHalfEven num den + 1) * den := herror
  have := Nat.le_of_mul_le_mul_right hle hden
  omega

namespace Binary64

/-- There are `2 ^ 1074` units to one, the unit being the least double above zero. -/
theorem unitsPerOne_eq : unitsPerOne = 2 ^ 1074 := by
  rw [unitsPerOne, Nat.one_shiftLeft]

/-- There are units to one. -/
theorem unitsPerOne_pos : 0 < unitsPerOne := by
  rw [unitsPerOne_eq]
  exact pow_pos Nat.two_pos 1074

/-- The value of an exponent and a significand, where the significand may carry over. -/
theorem unitsOf_pack {e r : Nat} (hr : r ≤ 2 * binade) (hnormal : 0 < e → binade ≤ r) :
    unitsOf (e * binade + r) = r * 2 ^ e := by
  unfold unitsOf
  by_cases hsmall : r < binade
  · have he : e = 0 := by
      by_cases he : 0 < e
      · exact absurd (hnormal he) (by omega)
      · omega
    subst he
    rw [if_pos (by omega)]
    omega
  · rw [if_neg (by omega), Nat.shiftLeft_eq]
    by_cases hcarry : r = 2 * binade
    · -- The carry makes the exponent greater by one and leaves nothing of the significand.
      have hdiv : (e * binade + r) / binade = e + 2 := by unfold binade at *; omega
      have hmod : (e * binade + r) % binade = 0 := by unfold binade at *; omega
      have hsub : e + 2 - 1 = e + 1 := rfl
      rw [hdiv, hmod, hsub, Nat.pow_succ', hcarry, Nat.add_zero, Nat.mul_left_comm, Nat.mul_assoc]
    · have hdiv : (e * binade + r) / binade = e + 1 := by unfold binade at *; omega
      have hmod : (e * binade + r) % binade = r - binade := by unfold binade at *; omega
      rw [hdiv, hmod, Nat.add_sub_cancel, Nat.add_sub_cancel' (by omega)]

section Parts

variable {num den : Nat}

/-- How far `nearest` shifts a quotient: its exponent, before a significand that is rounded up
    carries over. -/
def exponentOf (num den : Nat) : Nat := Nat.log2 (num * unitsPerOne / den) - 52

/-- The shifted quotient, rounded to at most 53 bits and a carry. -/
def significandOf (num den : Nat) : Nat :=
  roundHalfEven (num * unitsPerOne) (den * 2 ^ exponentOf num den)

/-- The nearest double is put together from its exponent and its significand, with infinity as a
    bound. -/
theorem nearest_eq (num den : Nat) : nearest num den =
    min infinityMagnitude (exponentOf num den * binade + significandOf num den) := by
  unfold nearest significandOf exponentOf
  dsimp only
  rw [Nat.shiftLeft_eq]

/-- The divisor that belongs to an exponent is not zero. -/
theorem shifted_pos (hden : 0 < den) : 0 < den * 2 ^ exponentOf num den :=
  Nat.mul_pos hden (Nat.two_pow_pos _)

/-- The exponent is great enough for the significand to fit. -/
theorem units_le_shifted (num : Nat) (hden : 0 < den) :
    num * unitsPerOne ≤ 2 * binade * (den * 2 ^ exponentOf num den) := by
  -- The exponent leaves at most 53 bits of the quotient.
  have hlt : num * unitsPerOne / den < 2 ^ (exponentOf num den + 53) :=
    Nat.lt_of_lt_of_le Nat.lt_log2_self
      (Nat.pow_le_pow_right (by decide) (by unfold exponentOf; omega))
  have h := (Nat.div_lt_iff_lt_mul hden).mp hlt
  have hbinade : binade = 2 ^ 52 := rfl
  have hsplit : 2 * binade * (den * 2 ^ exponentOf num den) =
      2 ^ (exponentOf num den + 53) * den := by
    rw [hbinade, Nat.mul_comm den, ← Nat.mul_assoc, ← Nat.pow_succ', Nat.mul_comm (2 ^ 53),
      ← Nat.pow_add]
  omega

/-- A quotient that is shifted fills all bits. -/
theorem shifted_le_units (hden : 0 < den) (h : 0 < exponentOf num den) :
    binade * (den * 2 ^ exponentOf num den) ≤ num * unitsPerOne := by
  have hlog : Nat.log2 (num * unitsPerOne / den) = exponentOf num den + 52 := by
    unfold exponentOf at h ⊢
    omega
  have hne : num * unitsPerOne / den ≠ 0 := by
    intro hzero
    rw [hzero] at hlog
    simp at hlog
  -- The exponent was taken from the number of bits of the quotient, which is no less than its
  -- highest bit.
  have hle : 2 ^ (exponentOf num den + 52) ≤ num * unitsPerOne / den := by
    rw [← hlog]
    exact Nat.log2_self_le hne
  have hunits := (Nat.le_div_iff_mul_le hden).mp hle
  have hbinade : binade = 2 ^ 52 := rfl
  have hsplit : binade * (den * 2 ^ exponentOf num den) =
      2 ^ (exponentOf num den + 52) * den := by
    rw [hbinade, Nat.mul_comm den, ← Nat.mul_assoc, Nat.mul_comm (2 ^ 52), ← Nat.pow_add]
  omega

/-- A significand has no more than 53 bits, or is the next power of two. -/
theorem significandOf_le (num : Nat) (hden : 0 < den) : significandOf num den ≤ 2 * binade :=
  roundHalfEven_le (shifted_pos hden) (units_le_shifted num hden)

/-- Above the least exponent a significand uses all of its 53 bits. -/
theorem binade_le_significandOf (hden : 0 < den) (h : 0 < exponentOf num den) :
    binade ≤ significandOf num den :=
  le_roundHalfEven (shifted_pos hden) (shifted_le_units hden h)

end Parts

/-- What `nearest` is made of: an exponent and a significand of 53 bits, which is rounded by half at
    most. -/
theorem exists_nearest (num : Nat) {den : Nat} (hden : 0 < den) :
    ∃ e r, nearest num den = min infinityMagnitude (e * binade + r) ∧ r ≤ 2 * binade ∧
      (0 < e → binade ≤ r) ∧ 2 * r * (den * 2 ^ e) ≤ 2 * (num * unitsPerOne) + den * 2 ^ e ∧
      (0 < e → binade * (den * 2 ^ e) ≤ num * unitsPerOne) :=
  ⟨exponentOf num den, significandOf num den, nearest_eq num den, significandOf_le num hden,
    binade_le_significandOf hden, (roundHalfEven_error _ _ (shifted_pos hden)).2,
    shifted_le_units hden⟩

/-- Zero is a double. -/
theorem nearest_zero {den : Nat} (h : 0 < den) : nearest 0 den = 0 := by
  have hround : roundHalfEven 0 den = 0 := by
    have := roundHalfEven_mul_right 0 den h
    rwa [Nat.zero_mul] at this
  simp [nearest, Nat.log2_zero, hround]

/-! ## Staying finite -/

/-- A quarter of the first power of two that is no double. -/
def quarter : Nat := 2 ^ 1022

/-- A quarter of the range, in units, is a power of two. -/
theorem quarter_mul_unitsPerOne {k : Nat} (h : k = 2096) : quarter * unitsPerOne = 2 ^ k := by
  have hk : 1022 + 1074 = k := h.symm
  rw [quarter, unitsPerOne_eq, ← hk]
  exact (pow_add 2 1022 1074).symm

/-- A significand and an exponent below infinity, from a bound for the quotient they round. -/
theorem pack_lt_infinity {den units e r k : Nat} (hk : k = 2096)
    (hr : r ≤ 2 * binade) (herror : 2 * r * (den * 2 ^ e) ≤ 2 * units + den * 2 ^ e)
    (hlower : 0 < e → binade * (den * 2 ^ e) ≤ units) (h : units < 3 * 2 ^ k * den) :
    e * binade + r < infinityMagnitude := by
  have hbinade : binade = 2 ^ 52 := rfl
  have hinfinity : infinityMagnitude = 2047 * binade := rfl
  by_cases he : e ≤ 2044
  · have := Nat.mul_le_mul_right binade he
    have : 0 < binade := by decide
    clear h
    omega
  -- Here the exponent is the greatest there is, and the significand must stay below its carry.
  · have hle : 2 ^ (e + 52) * den < 2 ^ (k + 2) * den := by
      calc 2 ^ (e + 52) * den = binade * (den * 2 ^ e) := by
            rw [hbinade, Nat.pow_add, Nat.mul_comm den, ← Nat.mul_assoc, Nat.mul_comm (2 ^ 52)]
        _ ≤ units := hlower (by omega)
        _ < 3 * 2 ^ k * den := h
        _ ≤ 2 ^ (k + 2) * den := by
            apply Nat.mul_le_mul_right
            rw [Nat.pow_add, Nat.mul_comm]
            exact Nat.mul_le_mul_left _ (by decide)
    have hexponent := (Nat.pow_lt_pow_iff_right (by decide)).mp (Nat.lt_of_mul_lt_mul_right hle)
    have he : e = 2045 := by omega
    have hpow : 3 * 2 ^ k * den = 3 * 2 ^ 51 * (den * 2 ^ e) := by
      have hk : k = 51 + e := by omega
      rw [hk, Nat.pow_add, Nat.mul_comm den]
      simp only [Nat.mul_assoc]
    have hlt : 2 * r * (den * 2 ^ e) < (6 * 2 ^ 51 + 1) * (den * 2 ^ e) := by
      rw [Nat.add_mul, Nat.one_mul]
      omega
    have hr := Nat.lt_of_mul_lt_mul_right hlt
    rw [he, hinfinity]
    omega

/-- A quotient below three quarters of that power does not round to infinity. -/
theorem nearest_lt_infinity {num den : Nat} (hden : 0 < den) (h : num < 3 * quarter * den) :
    nearest num den < infinityMagnitude := by
  obtain ⟨e, r, hnearest, hr, -, herror, hlower⟩ := exists_nearest num hden
  -- The exponent as a variable, or it would be computed.
  obtain ⟨k, hk⟩ : ∃ k, k = 2096 := ⟨_, rfl⟩
  have hunits : num * unitsPerOne < 3 * 2 ^ k * den := by
    calc num * unitsPerOne < 3 * quarter * den * unitsPerOne :=
          Nat.mul_lt_mul_of_pos_right h unitsPerOne_pos
      _ = 3 * (quarter * unitsPerOne) * den := by rw [Nat.mul_right_comm, Nat.mul_assoc 3]
      _ = 3 * 2 ^ k * den := by rw [quarter_mul_unitsPerOne hk]
  have := pack_lt_infinity hk hr herror hlower hunits
  omega

/-- Rounding a natural number raises it by a sixteenth at most. -/
theorem unitsOf_nearest_le {n : Nat} (h : nearest n 1 < infinityMagnitude) :
    16 * unitsOf (nearest n 1) ≤ 17 * (n * unitsPerOne) := by
  obtain ⟨e, r, hnearest, hr, hnormal, herror, hlower⟩ := exists_nearest n (Nat.one_pos)
  have hmin : nearest n 1 = e * binade + r := by omega
  rw [hmin, unitsOf_pack hr hnormal]
  rw [Nat.one_mul] at herror hlower
  have hbinade : 16 ≤ binade := by decide
  -- With an exponent the error is half of a unit of at least sixteen; without one there is none.
  by_cases he : 0 < e
  · have := Nat.le_trans (Nat.mul_le_mul_right (2 ^ e) hbinade) (hlower he)
    rw [Nat.mul_assoc] at herror
    omega
  · have he : e = 0 := by omega
    subst he
    omega

section

variable {m : Nat} {negative : Bool}

/-- The sign is stored as a bit above those of the magnitude. -/
theorem toNat_bits_ofMagnitude (h : m < signBit) :
    (ofMagnitude negative m).bits.toNat = if negative then signBit + m else m := by
  unfold signBit at h ⊢
  show (UInt64.ofNat _).toNat = _
  rw [UInt64.toNat_ofNat']
  unfold signBit
  split <;> omega

/-- The magnitude is stored as it is. -/
theorem magnitude_ofMagnitude (h : m < signBit) : (ofMagnitude negative m).magnitude = m := by
  rw [magnitude, toNat_bits_ofMagnitude h]
  split
  · rw [Nat.add_mod_left, Nat.mod_eq_of_lt h]
  · exact Nat.mod_eq_of_lt h

/-- The sign is stored as it is. -/
theorem isNegative_ofMagnitude (h : m < signBit) : (ofMagnitude negative m).isNegative = negative := by
  rw [isNegative, toNat_bits_ofMagnitude h]
  cases negative
  · exact decide_eq_false (Nat.not_le.mpr h)
  · exact decide_eq_true (Nat.le_add_right signBit m)

end

/-- No magnitude reaches up to the bit of the sign. -/
theorem nearest_lt_signBit (num den : Nat) : nearest num den < signBit := by
  have h : nearest num den ≤ infinityMagnitude := Nat.min_le_left _ _
  exact Nat.lt_of_le_of_lt h (by decide)

/-- A natural number that does not overflow is stored as the units nearest to it. -/
theorem value_ofNat {n : Nat} (h : nearest n 1 < infinityMagnitude) :
    (ofNat n).value = .finite false (unitsOf (nearest n 1)) := by
  have hsign := nearest_lt_signBit n 1
  unfold value ofNat ofQuotient
  rw [magnitude_ofMagnitude hsign, isNegative_ofMagnitude hsign, if_neg (by omega),
    if_neg (by omega)]

/-- The product of two doubles is the double nearest to the product of their values. -/
theorem mul_eq {x y : Binary64} {a b : Bool} {u v : Nat} (hx : x.value = .finite a u)
    (hy : y.value = .finite b v) :
    x * y = ofQuotient (a ^^ b) (u * v) (unitsPerOne * unitsPerOne) := by
  show mul x y = _
  unfold mul
  rw [hx, hy]

/-- Two factors that were raised by a sixteenth at most, in units. -/
theorem mul_lt_of_raised {u v m n units bound : Nat} (hunits : 0 < units)
    (hu : 16 * u ≤ 17 * (m * units)) (hv : 16 * v ≤ 17 * (n * units))
    (h : 289 * (m * n) < 768 * bound) : u * v < 3 * bound * (units * units) := by
  have hsquare : 0 < units * units := Nat.mul_pos hunits hunits
  have hbound : 768 * bound = 256 * (3 * bound) := by omega
  have hlt : 256 * (u * v) < 256 * (3 * bound * (units * units)) := by
    -- Each factor was raised by at most a sixteenth, and 17² is 289.
    calc 256 * (u * v) = 16 * u * (16 * v) := (Nat.mul_mul_mul_comm 16 u 16 v).symm
      _ ≤ 17 * (m * units) * (17 * (n * units)) := Nat.mul_le_mul hu hv
      _ = 289 * (m * units * (n * units)) := Nat.mul_mul_mul_comm 17 _ 17 _
      _ = 289 * (m * n) * (units * units) := by rw [Nat.mul_mul_mul_comm m, ← Nat.mul_assoc]
      _ < 768 * bound * (units * units) := Nat.mul_lt_mul_of_pos_right h hsquare
      _ = 256 * (3 * bound * (units * units)) := by rw [hbound, Nat.mul_assoc 256]
  exact Nat.lt_of_mul_lt_mul_left hlt

/-- The product of two natural numbers, each rounded first, is finite where it is far enough from
    the largest double. -/
theorem isInfinite_ofNat_mul {m n : Nat} (hm : m < 3 * quarter) (hn : n < 3 * quarter)
    (h : 289 * (m * n) < 768 * quarter) : (ofNat m * ofNat n).isInfinite = false := by
  -- Three roundings: each factor, which raises it a little, and then the product.
  have hfinite : ∀ k, k < 3 * quarter → nearest k 1 < infinityMagnitude := fun k hk =>
    nearest_lt_infinity Nat.one_pos (by rwa [Nat.mul_one])
  have hproduct := mul_eq (value_ofNat (hfinite m hm)) (value_ofNat (hfinite n hn))
  have hlt := mul_lt_of_raised unitsPerOne_pos (unitsOf_nearest_le (hfinite m hm))
    (unitsOf_nearest_le (hfinite n hn)) h
  have hnearest := nearest_lt_infinity (Nat.mul_pos unitsPerOne_pos unitsPerOne_pos) hlt
  rw [hproduct, Bool.xor_self, isInfinite, ofQuotient,
    magnitude_ofMagnitude (nearest_lt_signBit _ _), decide_eq_false_iff_not]
  exact Nat.ne_of_lt hnearest

end Binary64
end LossProbe
