import LossProbe.Proofs.Counters
import LossProbe.Proofs.NearestDouble

/-!
# The rate of losses

A loss rate is made by four roundings: of both counters, of their quotient, and of its product with
the scale. None of them overflows or comes near the least normal number, so each is off by at most
the fraction `2 ^ -53`, and all of them by at most eight of these (`near_rate`). As rounding keeps
the order, the rate stays between zero and the scale and grows with the losses
(`rate_accurate`).
-/

namespace LossProbe

namespace Binary64

section

variable {m n m' : Nat}

/-- The magnitude of a quotient of two positive doubles. -/
def quotient (m n : Nat) : Nat := nearest (unitsOf m) (unitsOf n)

/-- The magnitude of a product of two positive doubles. -/
def product (m n : Nat) : Nat := nearest (unitsOf m * unitsOf n) (unitsPerOne * unitsPerOne)

/-- A magnitude above zero has units. -/
theorem unitsOf_pos (h : 0 < m) : 0 < unitsOf m := unitsOf_strictMono.lt_iff_lt.mpr h

/-- A greater dividend has no smaller rounded quotient. -/
theorem quotient_mono (hn : 0 < n) (h : m ≤ m') : quotient m n ≤ quotient m' n :=
  nearest_mono (unitsOf_pos hn) (unitsOf_pos hn)
    (Nat.mul_le_mul_right _ (unitsOf_strictMono.monotone h))

/-- A greater factor has no smaller rounded product. -/
theorem product_mono (n : Nat) (h : m ≤ m') : product m n ≤ product m' n := by
  have hpos := Nat.mul_pos unitsPerOne_pos unitsPerOne_pos
  exact nearest_mono hpos hpos
    (Nat.mul_le_mul_right _ (Nat.mul_le_mul_right _ (unitsOf_strictMono.monotone h)))

/-- A double divided by itself is one. -/
theorem quotient_self (hn : 0 < n) : quotient n n = nearest 1 1 :=
  nearest_congr (unitsOf_pos hn) Nat.one_pos (Nat.mul_comm _ _)

/-- Zero divided by a double is zero. -/
theorem quotient_zero (hn : 0 < n) : quotient 0 n = 0 := nearest_zero (unitsOf_pos hn)

/-- Zero times a double is zero. -/
theorem product_zero (n : Nat) : product 0 n = 0 := by
  rw [product, unitsOf_zero, Nat.zero_mul]
  exact nearest_zero (Nat.mul_pos unitsPerOne_pos unitsPerOne_pos)

/-- One times a double is this double. -/
theorem one_product (h : n < infinityMagnitude) : product (nearest 1 1) n = n := by
  rw [product, (unitsOf_nearest_natCast (n := 1) (by decide)).2, Nat.one_mul]
  conv_rhs => rw [← nearest_unitsOf h]
  exact nearest_congr (Nat.mul_pos unitsPerOne_pos unitsPerOne_pos) unitsPerOne_pos
    (by rw [Nat.mul_comm unitsPerOne (unitsOf n), Nat.mul_assoc])

/-- A rounded quotient is near the exact one. -/
theorem near_quotient (hn : 0 < n) (normal : leastNormal ≤ number m / number n)
    (finite : quotient m n < infinityMagnitude) :
    Near 1 (number (quotient m n)) (number m / number n) := by
  have heq : number m / number n = unitsOf m / unitsOf n :=
    div_div_div_cancel_right₀ unitsPerOne_cast_pos.ne' _ _
  rw [heq] at normal ⊢
  exact near_nearest (unitsOf_pos hn) normal finite

/-- A rounded product is near the exact one. -/
theorem near_product (normal : leastNormal ≤ number m * number n)
    (finite : product m n < infinityMagnitude) :
    Near 1 (number (product m n)) (number m * number n) := by
  have heq : number m * number n =
      ((unitsOf m * unitsOf n : ℕ) : ℚ) / ((unitsPerOne * unitsPerOne : ℕ) : ℚ) := by
    push_cast
    exact div_mul_div_comm _ _ _ _
  rw [heq] at normal ⊢
  exact near_nearest (Nat.mul_pos unitsPerOne_pos unitsPerOne_pos) normal finite

end

/-! ## Counters as doubles -/

section

variable {n : Nat}

/-- A counter of 64 bits does not overflow as a double. -/
theorem nearest_counter_lt (h : n < 2 ^ 64) : nearest n 1 < infinityMagnitude := by
  refine nearest_lt_infinity Nat.one_pos ?_
  obtain ⟨k, hk⟩ : ∃ k, k = 1022 := ⟨_, rfl⟩
  have hpow : 2 ^ 64 ≤ quarter := by
    rw [quarter, ← hk]
    exact Nat.pow_le_pow_right (by decide) (by omega)
  omega

/-- A counter above zero does not become zero as a double. -/
theorem nearest_counter_pos (h : 0 < n) : 0 < nearest n 1 := by
  have hle : nearest 1 1 ≤ nearest n 1 := nearest_mono Nat.one_pos Nat.one_pos (by omega)
  have hone : 0 < nearest 1 1 := by
    rw [← number_strictMono.lt_iff_lt, number_zero, number_nearest_natCast (by decide)]
    exact_mod_cast Nat.one_pos
  exact Nat.lt_of_lt_of_le hone hle

/-- A counter is near the double that is made of it. -/
theorem near_counter (hpos : 0 < n) (h : n < 2 ^ 64) : Near 1 (number (nearest n 1)) n := by
  have hone : (1 : ℚ) ≤ n := by exact_mod_cast hpos
  have normal : leastNormal ≤ (n : ℚ) / (1 : ℕ) := by
    have := leastNormal_le
    push_cast
    linarith
  simpa using near_nearest Nat.one_pos normal (nearest_counter_lt h)

/-- A counter that is not zero is a double of at least one. -/
theorem one_le_counter (h : 0 < n) : 1 ≤ number (nearest n 1) := by
  have hone : number (nearest 1 1) = 1 := by
    rw [number_nearest_natCast (by decide), Nat.cast_one]
  rw [← hone]
  exact number_strictMono.monotone (nearest_mono Nat.one_pos Nat.one_pos (by omega))

end

end Binary64

namespace Stats

open Binary64

/-- The scale of rates, as a magnitude. -/
def scaleMagnitude : Nat := nearest 10000 1

/-- The magnitude of the rate of the given counters. -/
def rateMagnitude (sent lost : Nat) : Nat :=
  product (quotient (nearest lost 1) (nearest sent 1)) scaleMagnitude

/-- The scale of the rate is finite. -/
theorem scaleMagnitude_lt : scaleMagnitude < infinityMagnitude :=
  (unitsOf_nearest_natCast (by decide)).1

/-- The scale of the rate is stored exactly. -/
theorem number_scaleMagnitude : number scaleMagnitude = 10000 := by
  rw [scaleMagnitude, number_nearest_natCast (by decide), Nat.cast_ofNat]

section

variable {sent lost lost' : Nat}

/-- Where no more is lost than sent, the quotient does not exceed one, rounded as it is. -/
theorem quotient_le_one (h : lost ≤ sent) (probed : 0 < sent) :
    quotient (nearest lost 1) (nearest sent 1) ≤ nearest 1 1 := by
  have hpos := nearest_counter_pos probed
  rw [← quotient_self hpos]
  exact quotient_mono hpos (nearest_mono Nat.one_pos Nat.one_pos (by omega))

/-- Where no more is lost than sent, the rate does not exceed its scale. -/
theorem rateMagnitude_le (h : lost ≤ sent) (probed : 0 < sent) :
    rateMagnitude sent lost ≤ scaleMagnitude := by
  conv_rhs => rw [← one_product scaleMagnitude_lt]
  exact product_mono _ (quotient_le_one h probed)

/-- Where all is lost, the rate is its scale. -/
theorem rateMagnitude_self (probed : 0 < sent) : rateMagnitude sent sent = scaleMagnitude := by
  rw [rateMagnitude, quotient_self (nearest_counter_pos probed), one_product scaleMagnitude_lt]

/-- Where nothing is lost, the rate is zero. -/
theorem rateMagnitude_zero (probed : 0 < sent) : rateMagnitude sent 0 = 0 := by
  rw [rateMagnitude, nearest_zero Nat.one_pos, quotient_zero (nearest_counter_pos probed), product_zero]

/-- Where more is lost, the rate is no smaller. -/
theorem rateMagnitude_mono (probed : 0 < sent) (h : lost ≤ lost') :
    rateMagnitude sent lost ≤ rateMagnitude sent lost' :=
  product_mono _ (quotient_mono (nearest_counter_pos probed)
    (nearest_mono Nat.one_pos Nat.one_pos (by omega)))

/-- The quotient of the counters, which is at least the least of them by twice the greatest. -/
theorem near_ratio (h : lost ≤ sent) (hpos : 0 < lost) (hsent : sent < 2 ^ 64) :
    Near 6 (number (quotient (nearest lost 1) (nearest sent 1))) (lost / sent) ∧
      1 / 2 ^ 66 ≤ number (quotient (nearest lost 1) (nearest sent 1)) := by
  have probed : 0 < sent := Nat.lt_of_lt_of_le hpos h
  have hsentQ : (0 : ℚ) < sent := by exact_mod_cast probed
  have hleast := leastNormal_le
  have hlost1 := one_le_counter hpos
  have hsent1 := one_le_counter probed
  have hlostNear := near_counter hpos (Nat.lt_of_le_of_lt h hsent)
  have hsentNear := near_counter probed hsent
  have hsent65 : number (nearest sent 1) ≤ 2 ^ 65 := by
    have hlt : (sent : ℚ) < 2 ^ 64 := by exact_mod_cast hsent
    have := hsentNear.le_double hsentQ.le
    linarith
  -- The quotient of the two doubles is far from underflow, so it is rounded with a small relative
  -- error.
  have hexact : 1 / 2 ^ 65 ≤ number (nearest lost 1) / number (nearest sent 1) :=
    div_le_div₀ (by linarith) hlost1 (by linarith) hsent65
  have hfinite : quotient (nearest lost 1) (nearest sent 1) < infinityMagnitude :=
    Nat.lt_of_le_of_lt (quotient_le_one h probed) (nearest_counter_lt (by decide))
  have hrounded := near_quotient (nearest_counter_pos probed) (by linarith) hfinite
  -- The errors of the two counters and of their quotient add up.
  have hcounters := hlostNear.div hsentNear (Nat.cast_nonneg lost) hsentQ
  have htotal := hrounded.trans hcounters (by positivity) (by norm_num)
  have hhalf := hrounded.half_le (by linarith)
  exact ⟨htotal, by linarith⟩

/-- All four roundings together: each adds its error, and some of their products. -/
theorem near_rate (h : lost ≤ sent) (hpos : 0 < lost) (hsent : sent < 2 ^ 64) :
    Near 8 (number (rateMagnitude sent lost)) (10000 * lost / sent) := by
  have probed : 0 < sent := Nat.lt_of_lt_of_le hpos h
  have hleast := leastNormal_le
  obtain ⟨hratio, hbound⟩ := near_ratio h hpos hsent
  have hfinite : rateMagnitude sent lost < infinityMagnitude :=
    Nat.lt_of_le_of_lt (rateMagnitude_le h probed) scaleMagnitude_lt
  -- The product with the scale rounds once more; the scale itself is exact.
  have hproduct := near_product (by rw [number_scaleMagnitude]; linarith) hfinite
  rw [number_scaleMagnitude] at hproduct
  have htotal := hproduct.trans (hratio.mul_right (by norm_num : (0 : ℚ) ≤ 10000))
    (by positivity) (by norm_num)
  have hscaled : (lost : ℚ) / sent * 10000 = 10000 * lost / sent := by ring
  rwa [hscaled] at htotal

/-- The rate is zero only where nothing is lost. -/
theorem number_rateMagnitude_eq_zero_iff (h : lost ≤ sent) (probed : 0 < sent)
    (hsent : sent < 2 ^ 64) : number (rateMagnitude sent lost) = 0 ↔ lost = 0 := by
  constructor
  · -- A rate of zero would be off by all of the exact one.
    intro hzero
    by_contra hne
    have hpos : 0 < lost := Nat.pos_of_ne_zero hne
    have hexact : (0 : ℚ) < 10000 * lost / sent := by positivity
    have hnear := near_rate h hpos hsent
    rw [Near, hzero, zero_sub, abs_neg, abs_of_pos hexact] at hnear
    push_cast at hnear
    linarith
  · rintro rfl
    rw [rateMagnitude_zero probed, number_zero]

/-- The rate is wrong by no more than a part in `2 ^ 50`. -/
theorem abs_number_rateMagnitude_sub_le (h : lost ≤ sent) (probed : 0 < sent)
    (hsent : sent < 2 ^ 64) :
    |number (rateMagnitude sent lost) - 10000 * lost / sent| ≤
      1 / 2 ^ 50 * (10000 * lost / sent) := by
  rcases Nat.eq_zero_or_pos lost with rfl | hpos
  · simp [rateMagnitude_zero probed]
  · calc _ ≤ 10000 * (lost : ℚ) / sent * ((8 : ℕ) / 2 ^ 53) := near_rate h hpos hsent
      _ = 1 / 2 ^ 50 * (10000 * lost / sent) := by push_cast; ring

end

/-- The rate of counters is made by rounding alone, without overflow. -/
theorem rateOf_eq_ofQuotient {sent lost : UInt64} (h : lost ≤ sent) (probed : sent ≠ 0) :
    rateOf sent lost = ofQuotient false
      (unitsOf (quotient (nearest lost.toNat 1) (nearest sent.toNat 1)) * unitsOf scaleMagnitude)
      (unitsPerOne * unitsPerOne) := by
  have hle : lost.toNat ≤ sent.toNat := UInt64.le_iff_toNat_le.1 h
  have hpos : 0 < sent.toNat :=
    Nat.pos_of_ne_zero fun hzero => probed (UInt64.toNat_inj.1 hzero)
  have hquotient : quotient (nearest lost.toNat 1) (nearest sent.toNat 1) < infinityMagnitude :=
    Nat.lt_of_le_of_lt (quotient_le_one hle hpos) (nearest_counter_lt (by decide))
  -- The division is finite, or the product could not be taken on its value.
  have hdiv := div_eq (value_ofNat (nearest_counter_lt lost.toNat_lt))
    (value_ofNat (nearest_counter_lt sent.toNat_lt)) (unitsOf_pos (nearest_counter_pos hpos)).ne'
  rw [rateOf, if_neg probed, hdiv]
  exact mul_eq (value_ofQuotient false hquotient) (value_ofNat scaleMagnitude_lt)

/-- The rate of two counters has the magnitude that is computed here, and no minus sign. -/
theorem magnitude_rateOf {sent lost : UInt64} (h : lost ≤ sent) (probed : sent ≠ 0) :
    (rateOf sent lost).magnitude = rateMagnitude sent.toNat lost.toNat ∧
      (rateOf sent lost).isNegative = false := by
  rw [rateOf_eq_ofQuotient h probed]
  exact ⟨magnitude_ofQuotient .., isNegative_ofQuotient ..⟩

/-- The rate of two counters is finite, and stands for the number of its magnitude. -/
theorem rateOf_eq {sent lost : UInt64} (h : lost ≤ sent) (probed : sent ≠ 0) :
    (rateOf sent lost).isFinite = true ∧
      (rateOf sent lost).toRat = number (rateMagnitude sent.toNat lost.toNat) := by
  have hle : lost.toNat ≤ sent.toNat := UInt64.le_iff_toNat_le.1 h
  have hpos : 0 < sent.toNat :=
    Nat.pos_of_ne_zero fun hzero => probed (UInt64.toNat_inj.1 hzero)
  have hfinite : rateMagnitude sent.toNat lost.toNat < infinityMagnitude :=
    Nat.lt_of_le_of_lt (rateMagnitude_le hle hpos) scaleMagnitude_lt
  rw [rateOf_eq_ofQuotient h probed]
  exact ⟨isFinite_ofQuotient hfinite, toRat_ofQuotient hfinite⟩

/-- The rate of counters that were probed at least once is a finite double from zero to the scale,
    zero exactly where nothing was lost, and the scale where all was. It is within the fraction
    `2 ^ -50` of the exact rate, and where as many were sent it does not fall when more are lost. -/
theorem rate_accurate {s : Stats} (h : s.lost ≤ s.sent) (probed : s.sent ≠ 0) :
    s.withRate.rate.isFinite = true ∧
    0 ≤ s.withRate.rate.toRat ∧ s.withRate.rate.toRat ≤ 10000 ∧
    (s.withRate.rate.toRat = 0 ↔ s.lost = 0) ∧
    (s.lost = s.sent → s.withRate.rate.toRat = 10000) ∧
    |s.withRate.rate.toRat - 10000 * s.lost.toNat / s.sent.toNat| ≤
      1 / 2 ^ 50 * (10000 * s.lost.toNat / s.sent.toNat) ∧
    ∀ t : Stats, t.sent = s.sent → t.lost ≤ s.lost →
      t.withRate.rate.toRat ≤ s.withRate.rate.toRat := by
  -- The statement is about the counters as numbers, and so are the lemmas on the rate.
  have hle : s.lost.toNat ≤ s.sent.toNat := UInt64.le_iff_toNat_le.1 h
  have hpos : 0 < s.sent.toNat :=
    Nat.pos_of_ne_zero fun hzero => probed (UInt64.toNat_inj.1 hzero)
  obtain ⟨hfinite, hnumber⟩ := rateOf_eq h probed
  have hrate : s.withRate.rate = rateOf s.sent s.lost := rfl
  rw [hrate, hnumber]
  have hsent := s.sent.toNat_lt
  refine ⟨hfinite, number_nonneg _, ?_, ?_, fun hall => ?_,
    abs_number_rateMagnitude_sub_le hle hpos hsent, ?_⟩
  · rw [← number_scaleMagnitude]
    exact number_strictMono.monotone (rateMagnitude_le hle hpos)
  · rw [number_rateMagnitude_eq_zero_iff hle hpos hsent]
    exact UInt64.toNat_inj (b := 0)
  · rw [hall, rateMagnitude_self hpos, number_scaleMagnitude]
  · intro t hsent hlost
    have hrate' : t.withRate.rate = rateOf s.sent t.lost := by rw [← hsent]; rfl
    rw [hrate', (rateOf_eq (UInt64.le_trans hlost h) probed).2]
    exact number_strictMono.monotone
      (rateMagnitude_mono hpos (UInt64.le_iff_toNat_le.1 hlost))

/-- All but one of the greatest number of probes were lost, which the double of the counters does not
show any more. -/
theorem rate_accurate_of_greatest :
    let s : Stats := { sent := counterMax, lost := counterMax - 1 }
    s.lost ≤ s.sent ∧ s.sent ≠ 0 ∧ s.withRate.rate.isFinite = true ∧
      s.withRate.rate.toRat ≠ 0 ∧ s.withRate.rate.toRat ≤ 10000 := by
  intro s
  have h : s.lost ≤ s.sent := by decide
  have probed : s.sent ≠ 0 := by decide
  obtain ⟨hfinite, -, hle, hzero, -⟩ := rate_accurate h probed
  exact ⟨h, probed, hfinite, fun hrate => absurd (hzero.1 hrate) (by decide), hle⟩

end Stats
end LossProbe
