import Mathlib.Algebra.Order.Field.Basic
import Mathlib.Data.Nat.Log
import Mathlib.Order.Monotone.Basic
import Mathlib.Tactic.FieldSimp
import Mathlib.Tactic.Linarith
import LossProbe.Proofs.DoubleRange

/-!
# The nearest double

The numbers of the magnitudes grow with them (`number_strictMono`). Rounding keeps their order
(`nearest_mono`), leaves alone what is a double already (`nearest_unitsOf`), and moves a number that
is not too small by at most the fraction `2 ^ -53` of it (`abs_number_nearest_sub_le`).
-/

namespace LossProbe

/-! ## Rounding keeps the order -/

section

variable {num den num' den' : Nat}

/-- Quotients are cut off in their order. -/
theorem floor_mono (hden : 0 < den) (hden' : 0 < den') (h : num * den' ≤ num' * den) :
    num / den ≤ num' / den' := by
  rw [Nat.le_div_iff_mul_le hden']
  refine Nat.le_of_mul_le_mul_right ?_ hden
  calc num / den * den' * den = num / den * den * den' := Nat.mul_right_comm _ _ _
    _ ≤ num * den' := Nat.mul_le_mul_right _ (Nat.div_mul_le_self _ _)
    _ ≤ num' * den := h

/-- Quotients round in their order. -/
theorem roundHalfEven_mono (hden : 0 < den) (hden' : 0 < den') (h : num * den' ≤ num' * den) :
    roundHalfEven num den ≤ roundHalfEven num' den' := by
  have hsplit := Nat.div_add_mod num den
  have hsplit' := Nat.div_add_mod num' den'
  rcases Nat.lt_or_eq_of_le (floor_mono hden hden' h) with hlt | heq
  · -- A whole number lies between them.
    have hle : roundHalfEven num den ≤ num / den + 1 :=
      roundHalfEven_le hden (Nat.mul_comm _ _ ▸ (Nat.lt_mul_div_succ num hden).le)
    have hle' : num' / den' ≤ roundHalfEven num' den' :=
      le_roundHalfEven hden' (Nat.div_mul_le_self _ _)
    omega
  · -- Only the fractions differ, and of two ties both go the same way.
    have hrest : num % den * den' ≤ num' % den' * den := by
      rw [← hsplit, ← hsplit', ← heq, Nat.add_mul, Nat.add_mul,
        Nat.mul_right_comm den, Nat.mul_right_comm den', Nat.mul_comm den den'] at h
      omega
    have habove (hhalf : den < 2 * (num % den)) : den' < 2 * (num' % den') := by
      refine Nat.lt_of_mul_lt_mul_right (a := den) ?_
      calc den' * den = den * den' := Nat.mul_comm _ _
        _ < 2 * (num % den) * den' := Nat.mul_lt_mul_of_pos_right hhalf hden'
        _ ≤ 2 * (num' % den') * den := by rw [Nat.mul_assoc, Nat.mul_assoc]; omega
    have htie (hhalf : 2 * (num % den) = den) : den' ≤ 2 * (num' % den') := by
      refine Nat.le_of_mul_le_mul_right (c := den) ?_ hden
      calc den' * den = 2 * (num % den) * den' := by rw [hhalf, Nat.mul_comm]
        _ ≤ 2 * (num' % den') * den := by rw [Nat.mul_assoc, Nat.mul_assoc]; omega
    unfold roundHalfEven
    dsimp only
    rw [← heq]
    split_ifs <;> omega

end

namespace Binary64

/-! ## The numbers of magnitudes -/

/-- A magnitude as an exponent and a significand. -/
theorem exists_pack (m : Nat) :
    ∃ e r, m = e * binade + r ∧ r < 2 * binade ∧ (0 < e → binade ≤ r) := by
  have hsplit := Nat.div_add_mod m binade
  have hlt := Nat.mod_lt m (show 0 < binade by decide)
  rw [Nat.mul_comm] at hsplit
  -- Without an exponent the number is its own significand, otherwise a leading bit is added.
  rcases Nat.eq_zero_or_pos (m / binade) with hzero | hpos
  · refine ⟨0, m, by omega, ?_, nofun⟩
    rw [hzero] at hsplit
    omega
  · obtain ⟨e, he⟩ := Nat.exists_eq_add_one_of_ne_zero hpos.ne'
    rw [he, Nat.add_mul] at hsplit
    exact ⟨e, binade + m % binade, by omega, by omega, fun _ => Nat.le_add_right _ _⟩

/-- Greater magnitudes stand for greater numbers. -/
theorem unitsOf_strictMono : StrictMono unitsOf := by
  refine strictMono_nat_of_lt_succ fun m => ?_
  obtain ⟨e, r, rfl, hr, hnormal⟩ := exists_pack m
  rw [unitsOf_pack hr.le hnormal, Nat.add_assoc,
    unitsOf_pack (Nat.succ_le_of_lt hr) fun he => Nat.le_succ_of_le (hnormal he)]
  exact Nat.mul_lt_mul_of_pos_right (Nat.lt_succ_self r) (Nat.two_pow_pos e)

/-- The number that a magnitude stands for. -/
def number (m : Nat) : ℚ := unitsOf m / unitsPerOne

/-- There are units to one, also among the rational numbers. -/
theorem unitsPerOne_cast_pos : (0 : ℚ) < unitsPerOne := by exact_mod_cast unitsPerOne_pos

/-- Of two doubles the one with the greater magnitude stands for the greater number. -/
theorem number_strictMono : StrictMono number := fun m n h => by
  have hunits : (unitsOf m : ℚ) < unitsOf n := by exact_mod_cast unitsOf_strictMono h
  exact div_lt_div_of_pos_right hunits unitsPerOne_cast_pos

@[simp] theorem unitsOf_zero : unitsOf 0 = 0 := rfl

@[simp] theorem number_zero : number 0 = 0 := by simp [number]

/-- No magnitude stands for a negative number. -/
theorem number_nonneg (m : Nat) : 0 ≤ number m := by
  rw [← number_zero]
  exact number_strictMono.monotone (Nat.zero_le m)

/-! ## Laws of rounding -/

section

variable {num den num' den' : Nat}

/-- A greater quotient has no smaller exponent. -/
theorem exponentOf_mono (hden : 0 < den) (hden' : 0 < den') (h : num * den' ≤ num' * den) :
    exponentOf num den ≤ exponentOf num' den' := by
  have hfloor : num * unitsPerOne / den ≤ num' * unitsPerOne / den' := by
    refine floor_mono hden hden' ?_
    rw [Nat.mul_right_comm, Nat.mul_right_comm num']
    exact Nat.mul_le_mul_right _ h
  have hlog := Nat.log_mono_right (b := 2) hfloor
  rw [← Nat.log2_eq_log_two, ← Nat.log2_eq_log_two] at hlog
  exact Nat.sub_le_sub_right hlog 52

/-- Rounding to doubles keeps the order. -/
theorem nearest_mono (hden : 0 < den) (hden' : 0 < den') (h : num * den' ≤ num' * den) :
    nearest num den ≤ nearest num' den' := by
  rw [nearest_eq, nearest_eq]
  refine min_le_min_left _ ?_
  rcases Nat.lt_or_eq_of_le (exponentOf_mono hden hden' h) with hlt | heq
  · -- The lower significand carries at most, and the higher one is full.
    have hle := significandOf_le num hden
    have hle' := binade_le_significandOf hden' (Nat.zero_lt_of_lt hlt)
    have hexponent := Nat.mul_le_mul_right binade (Nat.succ_le_of_lt hlt)
    rw [Nat.succ_mul] at hexponent
    omega
  · have hmono : significandOf num den ≤ significandOf num' den' := by
      unfold significandOf
      rw [← heq]
      have hpos (n : Nat) (hn : 0 < n) : 0 < n * 2 ^ exponentOf num den :=
        Nat.mul_pos hn (Nat.two_pow_pos _)
      refine roundHalfEven_mono (hpos den hden) (hpos den' hden') ?_
      calc num * unitsPerOne * (den' * 2 ^ exponentOf num den) =
            num * den' * (unitsPerOne * 2 ^ exponentOf num den) := by ring
        _ ≤ num' * den * (unitsPerOne * 2 ^ exponentOf num den) := Nat.mul_le_mul_right _ h
        _ = num' * unitsPerOne * (den * 2 ^ exponentOf num den) := by ring
    rw [heq]
    omega

/-- Equal quotients round alike. -/
theorem nearest_congr (hden : 0 < den) (hden' : 0 < den') (h : num * den' = num' * den) :
    nearest num den = nearest num' den' :=
  Nat.le_antisymm (nearest_mono hden hden' h.le) (nearest_mono hden' hden h.ge)

/-- The exponent of a double is found again. -/
theorem exponentOf_unitsOf {e r : Nat} (hr : r < 2 * binade) (hnormal : 0 < e → binade ≤ r) :
    exponentOf (unitsOf (e * binade + r)) unitsPerOne = e := by
  rw [exponentOf, Nat.mul_div_cancel _ unitsPerOne_pos, unitsOf_pack hr.le hnormal]
  have hbinade : binade = 2 ^ 52 := rfl
  rcases Nat.eq_zero_or_pos e with rfl | he
  · -- Nothing is shifted, and the significand may have fewer bits.
    rw [Nat.pow_zero, Nat.mul_one]
    by_cases hzero : r = 0
    · simp [hzero]
    · have := (Nat.log2_lt hzero).mpr (show r < 2 ^ 53 by omega)
      omega
  · have hbelow : 2 ^ (e + 52) ≤ r * 2 ^ e := by
      rw [Nat.pow_add, Nat.mul_comm]
      exact Nat.mul_le_mul_right _ (hnormal he)
    have habove : r * 2 ^ e < 2 ^ (e + 52 + 1) := by
      rw [Nat.add_assoc, Nat.pow_add, Nat.mul_comm (2 ^ e)]
      exact Nat.mul_lt_mul_of_pos_right (by omega) (Nat.two_pow_pos e)
    have hne : r * 2 ^ e ≠ 0 := (Nat.lt_of_lt_of_le (Nat.two_pow_pos _) hbelow).ne'
    have hlog : Nat.log2 (r * 2 ^ e) = e + 52 := (Nat.log2_eq_iff hne).mpr ⟨hbelow, habove⟩
    omega

/-- A double is its own rounding. -/
theorem nearest_unitsOf {m : Nat} (h : m < infinityMagnitude) :
    nearest (unitsOf m) unitsPerOne = m := by
  obtain ⟨e, r, rfl, hr, hnormal⟩ := exists_pack m
  have hunits := unitsOf_pack hr.le hnormal
  have hexponent := exponentOf_unitsOf hr hnormal
  have hsignificand : significandOf (unitsOf (e * binade + r)) unitsPerOne = r := by
    rw [significandOf, hexponent, hunits, Nat.mul_right_comm, Nat.mul_assoc]
    exact roundHalfEven_mul_right r _ (Nat.mul_pos unitsPerOne_pos (Nat.two_pow_pos e))
  rw [nearest_eq, hexponent, hsignificand]
  exact Nat.min_eq_right h.le

/-- A natural number of at most 53 bits is a double. -/
theorem exists_unitsOf_eq {n : Nat} (h : n < 2 ^ 53) :
    ∃ m < infinityMagnitude, unitsOf m = n * unitsPerOne := by
  have hbinade : binade = 2 ^ 52 := rfl
  have hinfinity : infinityMagnitude = 2047 * binade := rfl
  rcases Nat.eq_zero_or_pos n with rfl | hpos
  · exact ⟨0, by decide, by simp⟩
  · -- The number is shifted up until it fills all bits.
    have hle := Nat.log2_self_le hpos.ne'
    have hlt := Nat.lt_log2_self (n := n)
    have hlog : Nat.log2 n < 53 := (Nat.log2_lt hpos.ne').mpr h
    obtain ⟨k, hk⟩ : ∃ k, k + Nat.log2 n = 52 := ⟨52 - Nat.log2 n, by omega⟩
    obtain ⟨e, he⟩ : ∃ e, e + k = 1074 := ⟨1074 - k, by omega⟩
    have hlow : binade ≤ n * 2 ^ k := by
      rw [hbinade, ← hk, Nat.pow_add, Nat.mul_comm]
      exact Nat.mul_le_mul_right _ hle
    have hhigh : n * 2 ^ k ≤ 2 * binade := by
      have hpow : 2 * binade = 2 ^ (Nat.log2 n + 1) * 2 ^ k := by
        rw [hbinade, ← Nat.pow_add, ← Nat.pow_succ']
        congr 1
        omega
      rw [hpow]
      exact Nat.mul_le_mul_right _ hlt.le
    refine ⟨e * binade + n * 2 ^ k, ?_, ?_⟩
    · have := Nat.mul_le_mul_right binade (show e ≤ 1074 by omega)
      omega
    · rw [unitsOf_pack hhigh fun _ => hlow, unitsPerOne_eq, ← he, Nat.mul_assoc, ← Nat.pow_add,
        Nat.add_comm k]

/-- Natural numbers of up to 53 bits are doubles, so nothing is lost in rounding them. -/
theorem unitsOf_nearest_natCast {n : Nat} (h : n < 2 ^ 53) :
    nearest n 1 < infinityMagnitude ∧ unitsOf (nearest n 1) = n * unitsPerOne := by
  obtain ⟨m, hm, hunits⟩ := exists_unitsOf_eq h
  have hnearest : nearest n 1 = m := by
    rw [← nearest_unitsOf hm, hunits]
    exact nearest_congr Nat.one_pos unitsPerOne_pos (Nat.mul_one _).symm
  rw [hnearest]
  exact ⟨hm, hunits⟩

/-- A natural number of at most 53 bits is its own rounding. -/
theorem number_nearest_natCast {n : Nat} (h : n < 2 ^ 53) : number (nearest n 1) = n := by
  rw [number, (unitsOf_nearest_natCast h).2]
  push_cast
  exact mul_div_cancel_right₀ _ unitsPerOne_cast_pos.ne'

end

/-! ## The error of rounding -/

/-- The least number that has all bits of its significand. -/
def leastNormal : ℚ := binade / unitsPerOne

/-- Rounding to a whole number moves a quotient by half at most, either way. -/
theorem abs_roundHalfEven_sub_le (num : Nat) {den : Nat} (hden : 0 < den) :
    |(roundHalfEven num den : ℚ) * den - num| ≤ den / 2 := by
  obtain ⟨habove, hbelow⟩ := roundHalfEven_error num den hden
  have habove : 2 * (num : ℚ) ≤ (2 * roundHalfEven num den + 1) * den := by exact_mod_cast habove
  have hbelow : 2 * (roundHalfEven num den : ℚ) * den ≤ 2 * num + den := by exact_mod_cast hbelow
  rw [abs_le]
  constructor <;> linarith

/-- One unit of the significand is small, as the quotient fills all bits or is not shifted. -/
theorem step_le_units {num den : Nat} (hden : 0 < den) (normal : leastNormal ≤ num / den) :
    (binade : ℚ) * (den * 2 ^ exponentOf num den) ≤ num * unitsPerOne := by
  have hdenQ : (0 : ℚ) < den := by exact_mod_cast hden
  rcases Nat.eq_zero_or_pos (exponentOf num den) with hzero | hpos
  · rw [leastNormal, div_le_div_iff₀ unitsPerOne_cast_pos hdenQ] at normal
    simpa [hzero] using normal
  · exact_mod_cast shifted_le_units hden hpos

/-- The rounding of a number that is not too small is off by at most half of the last of its 53
    bits. -/
theorem abs_number_nearest_sub_le {num den : Nat} (hden : 0 < den)
    (normal : leastNormal ≤ num / den) (finite : nearest num den < infinityMagnitude) :
    |number (nearest num den) - num / den| ≤ num / den * (1 / 2 ^ 53) := by
  have hdenQ : (0 : ℚ) < den := by exact_mod_cast hden
  have hone := unitsPerOne_cast_pos
  have hpack : nearest num den = exponentOf num den * binade + significandOf num den := by
    rw [nearest_eq] at finite ⊢
    omega
  rw [number, hpack, unitsOf_pack (significandOf_le num hden) (binade_le_significandOf hden)]
  have hshifted : 0 < den * 2 ^ exponentOf num den := shifted_pos hden
  have herror := abs_roundHalfEven_sub_le (num * unitsPerOne) hshifted
  rw [← significandOf] at herror
  have hstep := step_le_units hden normal
  push_cast at herror ⊢
  -- From here on the scale and the unit are any positive numbers.
  generalize (2 : ℚ) ^ exponentOf num den = scale at *
  generalize (unitsPerOne : ℚ) = one at *
  have hbinade : (binade : ℚ) = 2 ^ 52 := by norm_num [binade]
  have hscaled : |(significandOf num den : ℚ) * scale / one - num / den| * (one * den) =
      |(significandOf num den : ℚ) * (den * scale) - num * one| := by
    have hcommon : (significandOf num den : ℚ) * (den * scale) - num * one =
        ((significandOf num den : ℚ) * scale / one - num / den) * (one * den) := by field_simp
    rw [hcommon, abs_mul, abs_of_pos (mul_pos hone hdenQ)]
  refine le_of_mul_le_mul_right ?_ (mul_pos hone hdenQ)
  rw [hscaled]
  calc _ ≤ den * scale / 2 := herror
    _ ≤ num * one * (1 / 2 ^ 53) := by
      rw [hbinade] at hstep
      linarith
    _ = num / den * (1 / 2 ^ 53) * (one * den) := by field_simp

/-- `x` is off from `y` by at most `k` times the fraction `2 ^ -53` of `y`. -/
def Near (k : ℕ) (x y : ℚ) : Prop := |x - y| ≤ y * (k / 2 ^ 53)

section

variable {x y z : ℚ} {j k : ℕ}

/-- Errors add up, with one more for their product. -/
theorem Near.trans (hxy : Near j x y) (hyz : Near k y z) (hz : 0 ≤ z) (h : j * k ≤ 2 ^ 53) :
    Near (j + k + 1) x z := by
  have hprod : (j : ℚ) * k / 2 ^ 53 ≤ 1 := by
    rw [div_le_one (by positivity)]
    exact_mod_cast h
  unfold Near at *
  -- The middle number is only slightly greater than the last one, so the first error is too.
  have hle : y ≤ z * (1 + k / 2 ^ 53) := by
    have := le_of_abs_le hyz
    linarith
  calc |x - z| ≤ |x - y| + |y - z| := abs_sub_le x y z
    _ ≤ z * (1 + k / 2 ^ 53) * (j / 2 ^ 53) + z * (k / 2 ^ 53) := by
      gcongr
      exact hxy.trans (by gcongr)
    _ = z * ((j + k + j * k / 2 ^ 53) / 2 ^ 53) := by ring
    _ ≤ z * ((j + k + 1) / 2 ^ 53) := by gcongr
    _ = z * (((j + k + 1 : ℕ) : ℚ) / 2 ^ 53) := by push_cast; rfl

/-- A factor does not change by how much, relatively, two numbers are apart. -/
theorem Near.mul_right (h : Near k x y) (hz : 0 ≤ z) : Near k (x * z) (y * z) := by
  unfold Near at *
  rw [← sub_mul, abs_mul, abs_of_nonneg hz, mul_right_comm]
  exact mul_le_mul_of_nonneg_right h hz

/-- A number that is near another is no less than half of it. -/
theorem Near.half_le (h : Near 1 x y) (hy : 0 ≤ y) : y / 2 ≤ x := by
  unfold Near at h
  have := (abs_le.mp h).1
  push_cast at this
  linarith

/-- A number that is near another is no more than twice as great. -/
theorem Near.le_double (h : Near 1 x y) (hy : 0 ≤ y) : x ≤ 2 * y := by
  unfold Near at h
  have := (abs_le.mp h).2
  push_cast at this
  linarith

/-- The error of a reciprocal. -/
theorem Near.inv (h : Near 1 x y) (hy : 0 < y) : Near 2 x⁻¹ y⁻¹ := by
  have hhalf := h.half_le hy.le
  have hx : 0 < x := by linarith
  unfold Near at *
  rw [inv_sub_inv hx.ne' hy.ne', abs_div, abs_sub_comm, abs_of_pos (mul_pos hx hy),
    div_le_iff₀ (mul_pos hx hy)]
  calc |x - y| ≤ y * ((1 : ℕ) / 2 ^ 53) := h
    _ ≤ 2 * x * (1 / 2 ^ 53) := by push_cast; gcongr; linarith
    _ = y⁻¹ * ((2 : ℕ) / 2 ^ 53) * (x * y) := by push_cast; field_simp

/-- The error of a quotient. -/
theorem Near.div {u v : ℚ} (hxy : Near 1 x y) (huv : Near 1 u v) (hy : 0 ≤ y) (hv : 0 < v) :
    Near 4 (x / u) (y / v) := by
  have hx : 0 ≤ x := le_trans (by positivity) (hxy.half_le hy)
  have hdivisor : Near 2 (x * u⁻¹) (x * v⁻¹) := by
    rw [mul_comm x, mul_comm x]
    exact (huv.inv hv).mul_right hx
  have hdividend : Near 1 (x * v⁻¹) (y * v⁻¹) := hxy.mul_right (by positivity)
  have htotal := hdivisor.trans hdividend (by positivity) (by norm_num)
  rwa [← div_eq_mul_inv, ← div_eq_mul_inv] at htotal

end

/-- A quotient that is not too small or too great is rounded with a relative error of half a
    step. -/
theorem near_nearest {num den : Nat} (hden : 0 < den) (normal : leastNormal ≤ num / den)
    (finite : nearest num den < infinityMagnitude) :
    Near 1 (number (nearest num den)) (num / den) := by
  simpa [Near] using abs_number_nearest_sub_le hden normal finite

/-- The least normal double is far below all numbers that occur here. -/
theorem leastNormal_le : leastNormal ≤ 1 / 2 ^ 100 := by
  have hpow : binade * 2 ^ 100 ≤ unitsPerOne := by
    obtain ⟨k, hk⟩ : ∃ k, k + 152 = 1074 := ⟨922, rfl⟩
    have hbinade : binade * 2 ^ 100 = 2 ^ 152 := rfl
    rw [unitsPerOne_eq, hbinade, ← hk]
    exact Nat.pow_le_pow_right (by decide) (Nat.le_add_left _ _)
  rw [leastNormal, div_le_div_iff₀ unitsPerOne_cast_pos (by positivity), one_mul]
  exact_mod_cast hpow

/-! ## Values and operations -/

/-- The number that a finite double stands for, and zero for all others. -/
def toRat (x : Binary64) : ℚ :=
  match x.value with
  | .finite negative units => (if negative then -1 else 1) * units / unitsPerOne
  | _ => 0

/-- A finite double stands for its units, with its sign. -/
theorem value_of_isFinite {x : Binary64} (h : x.isFinite = true) :
    x.value = .finite x.isNegative (unitsOf x.magnitude) := by
  have hfinite : x.magnitude < infinityMagnitude := of_decide_eq_true h
  unfold value
  rw [if_neg (by omega), if_neg (by omega)]

section

variable {num den : Nat}

/-- The magnitude of a quotient is that of the nearest double. -/
theorem magnitude_ofQuotient (negative : Bool) (num den : Nat) :
    (ofQuotient negative num den).magnitude = nearest num den :=
  magnitude_ofMagnitude (nearest_lt_signBit num den)

/-- The sign of a quotient is kept by rounding it. -/
theorem isNegative_ofQuotient (negative : Bool) (num den : Nat) :
    (ofQuotient negative num den).isNegative = negative :=
  isNegative_ofMagnitude (nearest_lt_signBit num den)

/-- A quotient that does not overflow is finite. -/
theorem isFinite_ofQuotient {negative : Bool} (h : nearest num den < infinityMagnitude) :
    (ofQuotient negative num den).isFinite = true := by
  rw [isFinite, magnitude_ofQuotient]
  exact decide_eq_true h

/-- A quotient that does not overflow stands for the units of the nearest double. -/
theorem value_ofQuotient (negative : Bool) (h : nearest num den < infinityMagnitude) :
    (ofQuotient negative num den).value = .finite negative (unitsOf (nearest num den)) := by
  rw [value_of_isFinite (isFinite_ofQuotient h), isNegative_ofQuotient, magnitude_ofQuotient]

/-- The number that a rounded quotient stands for is that of the nearest magnitude. -/
theorem toRat_ofQuotient (h : nearest num den < infinityMagnitude) :
    (ofQuotient false num den).toRat = number (nearest num den) := by
  rw [toRat, value_ofQuotient false h]
  simp [number]

end

/-- The quotient of two doubles is the double nearest to the quotient of their values. -/
theorem div_eq {x y : Binary64} {a b : Bool} {u v : Nat} (hx : x.value = .finite a u)
    (hy : y.value = .finite b v) (hv : v ≠ 0) : x / y = ofQuotient (a ^^ b) u v := by
  show div x y = _
  unfold div
  rw [hx, hy]
  exact if_neg hv

end Binary64
end LossProbe
