import Mathlib.Algebra.Order.Round
import Mathlib.Data.Rat.Floor
import LossProbe.Proofs.DecimalText
import LossProbe.Proofs.LossRates
import LossProbe.Proofs.NearestEven
import LossProbe.Report.Table

/-!
# Rates in tables

A finite double with a fixed count of places is the nearest decimal with so many places, and the one
with an even last digit where two are equally near (`exists_shows_fixed`). So a rate in a table is
off by half a step of its last place, apart from the error of the rate, and for the percentage of
one more division. As rounding keeps the order, neither of them is shown greater than it can be
(`rates_shown_rounded`).
-/

namespace LossProbe

namespace Json

open Decimal (foldDigits)

/-! ## Digits with zeros in front -/

/-- What stands in front of some digits counts by the place where they begin. -/
theorem foldDigits_eq (s : Nat) (ds : List Nat) :
    foldDigits s ds = s * 10 ^ ds.length + foldDigits 0 ds := by
  induction ds generalizing s with
  | nil => simp [foldDigits]
  | cons d ds ih =>
    rw [foldDigits_cons, foldDigits_cons, ih (10 * s + d), ih (10 * 0 + d), List.length_cons,
      Nat.pow_succ]
    ring

/-- A natural number below `10 ^ width` as so many digits. -/
theorem exists_digits_padded {width n : Nat} (hwidth : width ≠ 0) (h : n < 10 ^ width) :
    ∃ d : Digits, d.chars = Decimal.paddedDigits width n ∧ d.list.length = width ∧
      foldDigits 0 d.values = n := by
  obtain ⟨w, hchars, hvalue⟩ := exists_whole_digits n
  have hlength : w.list.length = (Decimal.digits n).length := by
    rw [← hchars, Digits.chars, List.length_map]
  have hle : (Decimal.digits n).length ≤ width :=
    (Nat.length_toDigits_le_iff (by decide) (Nat.pos_of_ne_zero hwidth)).mpr h
  -- Zeros fill up the width, and in front they do not change the number.
  let zeros := width - (Decimal.digits n).length
  obtain ⟨d, hd⟩ := exists_digits_list (l := List.replicate zeros 0 ++ w.list) (by
    simp [Digits.list])
  refine ⟨d, ?_, ?_, ?_⟩
  · rw [Digits.chars, hd, List.map_append, List.map_replicate]
    show _ ++ w.chars = _
    rw [hchars]
    rfl
  · rw [hd, List.length_append, List.length_replicate, hlength]
    omega
  · have hvalues : d.values = List.replicate zeros 0 ++ w.values := by
      rw [Digits.values, hd, List.map_append, List.map_replicate]
      rfl
    rw [hvalues, foldDigits_append, foldDigits_zeros, Nat.zero_mul, hvalue]

/-! ## Numbers with a fixed count of places -/

/-- The number that is written. -/
def Numeral.value (n : Numeral) : ℚ := Binary64.signed n.negative n.magnitude

/-- A numeral with exactly so many digits after the point, which is nearest to a double. No number
    with so many places is nearer, and the last digit is even if there is one that is as near. -/
structure Numeral.ShowsFixed (n : Numeral) (places : Nat) (x : Binary64) : Prop where
  plain : n.exponent = none
  length : n.fractionValues.length = places
  sign : n.negative = x.isNegative
  nearest : ∀ k : ℤ, |n.value - x.toRat| ≤ |k / 10 ^ places - x.toRat|
  even : ∀ k : ℤ, k / 10 ^ places ≠ n.value →
    |k / 10 ^ places - x.toRat| = |n.value - x.toRat| → Even n.significand

/-- A natural number with a point among its digits. -/
theorem exists_numeral_withPoint (negative : Bool) {places : Nat} (hplaces : places ≠ 0) (m : Nat) :
    ∃ n : Numeral, n.negative = negative ∧ n.exponent = none ∧
      n.unsignedChars = Decimal.withPoint places m ∧ n.fractionValues.length = places ∧
      n.significand = m := by
  have hten : Decimal.tenTo places = 10 ^ places := rfl
  -- The digits before the point by division, those behind it as a padded remainder.
  obtain ⟨w, hwhole, hwholeValue⟩ := exists_whole_digits (m / 10 ^ places)
  obtain ⟨d, hdigits, hlength, hvalue⟩ :=
    exists_digits_padded hplaces (Nat.mod_lt m (Nat.pow_pos (by decide : 0 < 10)))
  have hvalues : d.values.length = places := by rw [Digits.values, List.length_map, hlength]
  refine ⟨⟨negative, w, some d, none⟩, rfl, rfl, ?_, hvalues, ?_⟩
  · rw [Decimal.withPoint, if_neg hplaces, hten, ← hwhole, ← hdigits]
    simp [Numeral.unsignedChars, Numeral.fractionChars, Numeral.exponentChars]
  · show foldDigits 0 (w.values ++ d.values) = m
    rw [foldDigits_append, foldDigits_eq, hwholeValue, hvalue, hvalues]
    exact Nat.div_add_mod' m _

end Json

namespace Decimal

open Binary64 Json

/-- The nearest of all fractions with this denominator, from the nearest whole number. -/
theorem nearest_fraction {n : ℤ} {x c : ℚ} (hc : 0 < c) (h : NearestWhole n (x * c)) (k : ℤ) :
    |n / c - x| ≤ |k / c - x| ∧ (k / c ≠ n / c → |k / c - x| = |n / c - x| → Even n) := by
  -- Distances between fractions are those between whole numbers, divided by `c`.
  have hscaled (j : ℤ) : |j / c - x| * c = |j - x * c| := by
    have hcommon : (j : ℚ) - x * c = (j / c - x) * c := by field_simp
    rw [hcommon, abs_mul, abs_of_pos hc]
  constructor
  · apply le_of_mul_le_mul_right _ hc
    rw [hscaled, hscaled]
    exact h.nearest k
  · intro hne heq
    apply h.even k
    · rintro rfl
      exact hne rfl
    · rw [← hscaled, ← hscaled, heq]

/-- A natural number with a sign in front. -/
def withSign (negative : Bool) (m : Nat) : ℤ := if negative then -m else m

/-- A sign is put before a number in the same way among integers and rationals. -/
theorem cast_withSign (negative : Bool) (m : Nat) :
    (withSign negative m : ℚ) = signed negative m := by
  cases negative <;> simp [withSign, signed]

/-- A sign does not change whether a number is even. -/
theorem even_withSign {negative : Bool} {m : Nat} : Even (withSign negative m) ↔ Even m := by
  cases negative <;> simp [withSign]

/-- A sign is kept by a factor. -/
theorem signed_mul (negative : Bool) (q c : ℚ) :
    signed negative q * c = signed negative (q * c) := by
  cases negative <;> simp [signed]

/-- The digits that are printed are those of the nearest multiple of the last place. -/
theorem nearestWhole_fixedScaled (negative : Bool) (places units : Nat) :
    NearestWhole (withSign negative (fixedScaled places units))
      (signed negative (units / unitsPerOne) * 10 ^ places) := by
  have hnearest := nearestWhole_roundHalfEven (units * tenTo places) unitsPerOne_pos
  have hscaled : ((units * tenTo places : ℕ) : ℚ) / unitsPerOne =
      units / unitsPerOne * 10 ^ places := by
    have hten : tenTo places = 10 ^ places := rfl
    rw [hten]
    push_cast
    ring
  rw [hscaled] at hnearest
  rw [signed_mul]
  cases negative with
  | false => exact hnearest
  | true => exact hnearest.neg

/-- What is written for a finite double with a fixed count of places. -/
theorem exists_shows_fixed {x : Binary64} (hfinite : x.isFinite = true) {places : Nat}
    (hplaces : places ≠ 0) :
    ∃ n : Numeral, n.chars = fixed places x ∧ n.ShowsFixed places x := by
  obtain ⟨n, hsign, hplain, hchars, hlength, hsignificand⟩ :=
    exists_numeral_withPoint x.isNegative hplaces (fixedScaled places (unitsOf x.magnitude))
  -- What is written is a whole number of steps of the last place.
  have hshown : n.value =
      withSign x.isNegative (fixedScaled places (unitsOf x.magnitude)) / 10 ^ places := by
    rw [cast_withSign, ← hsignificand, Numeral.value, Numeral.magnitude, hlength, hsign,
      div_eq_mul_inv, signed_mul]
    have hpower : n.power = 0 := by
      rw [Numeral.power, hplain]
      rfl
    rw [hpower, zero_sub, zpow_neg, zpow_natCast]
  have hnearest := nearest_fraction (by positivity)
    (nearestWhole_fixedScaled x.isNegative places (unitsOf x.magnitude))
  rw [← hshown, ← Binary64.number, ← toRat_of_isFinite hfinite] at hnearest
  refine ⟨n, ?_, hplain, hlength, hsign, fun k => (hnearest k).1, fun k hne heq => ?_⟩
  · rw [fixed, value_of_isFinite hfinite, Numeral.chars, hsign, hchars]
    dsimp only
    split <;> rfl
  · rw [hsignificand]
    exact even_withSign.mp ((hnearest k).2 hne heq)

end Decimal

namespace Json.Numeral.ShowsFixed

variable {n : Numeral} {places : Nat} {x : Binary64}

/-- What is shown is off by half a step of the last place. -/
theorem abs_sub_le (h : n.ShowsFixed places x) : |n.value - x.toRat| ≤ 1 / 2 / 10 ^ places := by
  apply (h.nearest (round (x.toRat * 10 ^ places))).trans
  have hround := abs_sub_round (x.toRat * 10 ^ places)
  have hpow : (0 : ℚ) < 10 ^ places := by positivity
  have hcommon : (round (x.toRat * 10 ^ places) : ℚ) / 10 ^ places - x.toRat =
      (round (x.toRat * 10 ^ places) - x.toRat * 10 ^ places) / 10 ^ places := by field_simp
  rw [hcommon, abs_div, abs_of_pos hpow, abs_sub_comm]
  gcongr

/-- What can be shown exactly is not exceeded by what is shown for a smaller number. -/
theorem le_of_toRat_le (h : n.ShowsFixed places x) (k : ℤ) (hle : x.toRat ≤ k / 10 ^ places) :
    n.value ≤ k / 10 ^ places := by
  by_contra! hlt
  have hnearest := h.nearest k
  rw [abs_of_nonneg (by linarith), abs_of_nonneg (by linarith)] at hnearest
  linarith

end Json.Numeral.ShowsFixed

namespace Stats

open Binary64

variable {s : Stats}

/-! ## Percentages -/

/-- A hundred, as a magnitude. -/
def hundredMagnitude : Nat := nearest 100 1

/-- The scale of percent is finite, and stored exactly. -/
theorem unitsOf_hundredMagnitude :
    hundredMagnitude < infinityMagnitude ∧ unitsOf hundredMagnitude = 100 * unitsPerOne :=
  unitsOf_nearest_natCast (by decide)

/-- The scale of percent is not zero. -/
theorem hundredMagnitude_pos : 0 < hundredMagnitude := nearest_counter_pos (by decide)

/-- A percentage is made by one rounding, without overflow. -/
theorem lossPercent_eq (hfinite : s.rate.isFinite = true) :
    s.lossPercent = ofQuotient s.rate.isNegative (unitsOf s.rate.magnitude)
      (unitsOf hundredMagnitude) := by
  have hdiv := div_eq (value_of_isFinite hfinite) (value_ofNat unitsOf_hundredMagnitude.1)
    (unitsOf_pos hundredMagnitude_pos).ne'
  rwa [Bool.xor_false] at hdiv

/-- A hundredth is no greater. -/
theorem quotient_hundred_le {m : Nat} (h : m < infinityMagnitude) :
    quotient m hundredMagnitude ≤ m := by
  conv_rhs => rw [← nearest_unitsOf h]
  apply nearest_mono (unitsOf_pos hundredMagnitude_pos) unitsPerOne_pos
  rw [unitsOf_hundredMagnitude.2]
  exact Nat.mul_le_mul_left _ (Nat.le_mul_of_pos_left _ (by decide))

/-- Where the rate is finite, so is the loss in percent. -/
theorem isFinite_lossPercent (hfinite : s.rate.isFinite = true) :
    s.lossPercent.isFinite = true := by
  have hlt : s.rate.magnitude < infinityMagnitude := of_decide_eq_true hfinite
  rw [lossPercent_eq hfinite]
  exact isFinite_ofQuotient (Nat.lt_of_le_of_lt (quotient_hundred_le hlt) hlt)

/-- The magnitude of the percentage of the given counters. -/
def percentMagnitude (sent lost : Nat) : Nat := quotient (rateMagnitude sent lost) hundredMagnitude

section

variable {sent lost : Nat}

/-- Where no more is lost than sent, the loss does not exceed a hundred percent. -/
theorem percentMagnitude_le (h : lost ≤ sent) (probed : 0 < sent) :
    number (percentMagnitude sent lost) ≤ 100 := by
  -- The greatest rate divided by a hundred is the double of 100, without rounding.
  have hscale : quotient scaleMagnitude hundredMagnitude = nearest 100 1 := by
    apply nearest_congr (unitsOf_pos hundredMagnitude_pos) Nat.one_pos
    rw [unitsOf_hundredMagnitude.2, scaleMagnitude,
      (unitsOf_nearest_natCast (by decide : 10000 < 2 ^ 53)).2]
    omega
  have hle := quotient_mono hundredMagnitude_pos (rateMagnitude_le h probed)
  rw [hscale] at hle
  apply (number_strictMono.monotone hle).trans
  rw [number_nearest_natCast (by decide), Nat.cast_ofNat]

/-- The error of the rate, and of one more division. -/
theorem near_percent (h : lost ≤ sent) (hpos : 0 < lost) (hsent : sent < 2 ^ 64) :
    Near 10 (number (percentMagnitude sent lost)) (100 * lost / sent) := by
  have probed : 0 < sent := Nat.lt_of_lt_of_le hpos h
  have hrate := (near_rate h hpos hsent).mul_right (by norm_num : (0 : ℚ) ≤ 1 / 100)
  have hscaled : 10000 * (lost : ℚ) / sent * (1 / 100) = 100 * lost / sent := by ring
  rw [hscaled] at hrate
  have hhundred : number hundredMagnitude = 100 := by
    rw [hundredMagnitude, number_nearest_natCast (by decide), Nat.cast_ofNat]
  -- The exact percentage is far from the least normal number, so the rounded rate is, too.
  have hexact : 1 / 2 ^ 64 ≤ 100 * (lost : ℚ) / sent := by
    have hlost : (1 : ℚ) ≤ lost := by exact_mod_cast hpos
    have hsent : (sent : ℚ) ≤ 2 ^ 64 := by exact_mod_cast hsent.le
    apply div_le_div₀ (by positivity) (by linarith) (by exact_mod_cast probed) hsent
  have hnormal : leastNormal ≤ number (rateMagnitude sent lost) / number hundredMagnitude := by
    have hleast := leastNormal_le
    have hlow := (abs_le.mp hrate).1
    push_cast at hlow
    rw [hhundred]
    linarith
  have hfinite : quotient (rateMagnitude sent lost) hundredMagnitude < infinityMagnitude := by
    have hlt := Nat.lt_of_le_of_lt (rateMagnitude_le h probed) scaleMagnitude_lt
    exact Nat.lt_of_le_of_lt (quotient_hundred_le hlt) hlt
  have hquotient := near_quotient hundredMagnitude_pos hnormal hfinite
  rw [hhundred, div_eq_mul_one_div] at hquotient
  have htotal := hquotient.trans hrate (by positivity) (by norm_num)
  exact htotal

/-- The loss in percent is wrong by no more than a part in `2 ^ 49`. -/
theorem abs_number_percentMagnitude_sub_le (h : lost ≤ sent) (probed : 0 < sent)
    (hsent : sent < 2 ^ 64) :
    |number (percentMagnitude sent lost) - 100 * lost / sent| ≤
      1 / 2 ^ 49 * (100 * lost / sent) := by
  rcases Nat.eq_zero_or_pos lost with rfl | hpos
  · simp [percentMagnitude, rateMagnitude_zero probed, quotient_zero hundredMagnitude_pos]
  · have hnear := near_percent h hpos hsent
    have hexact : 0 ≤ 100 * (lost : ℚ) / sent := by positivity
    unfold Near at hnear
    push_cast at hnear
    linarith

end

/-- The error of a rate that counts probes, as an absolute bound. -/
theorem error_le {x c : ℚ} {sent lost : Nat} (bound : Nat) (h : lost ≤ sent) (probed : 0 < sent)
    (hx : |x - bound * lost / sent| ≤ c * (bound * lost / sent)) (hbound : bound ≤ 10000)
    (hc : c ≤ 1 / 2 ^ 49) : |x - bound * lost / sent| ≤ 1 / 10 ^ 9 := by
  have hsent : (0 : ℚ) < sent := by exact_mod_cast probed
  have hlost : (lost : ℚ) ≤ sent := by exact_mod_cast h
  have hboundQ : (bound : ℚ) ≤ 10000 := by exact_mod_cast hbound
  -- The relative error becomes an absolute one by this bound.
  have hratio : (bound : ℚ) * lost / sent ≤ 10000 := by
    rw [div_le_iff₀ hsent]
    exact mul_le_mul hboundQ hlost (Nat.cast_nonneg lost) (by norm_num)
  have hnonneg : 0 ≤ (bound : ℚ) * lost / sent := by positivity
  calc _ ≤ c * (bound * lost / sent) := hx
    _ ≤ 1 / 2 ^ 49 * 10000 := mul_le_mul hc hratio hnonneg (by norm_num)
    _ ≤ 1 / 10 ^ 9 := by norm_num

/-- Rate and percentage of counters with a history. -/
theorem Counts.rate_bounds {done : List Event} (h : s.Counts done) (probed : s.sent ≠ 0) :
    s.rate.isFinite = true ∧ s.rate.toRat ≤ 10000 ∧ s.lossPercent.toRat ≤ 100 ∧
      |s.rate.toRat - 10000 * s.lost.toNat / s.sent.toNat| ≤ 1 / 10 ^ 9 ∧
      |s.lossPercent.toRat - 100 * s.lost.toNat / s.sent.toNat| ≤ 1 / 10 ^ 9 := by
  have hle : s.lost ≤ s.sent := h.ordered.lost_le_sent
  have hleNat : s.lost.toNat ≤ s.sent.toNat := UInt64.le_iff_toNat_le.1 hle
  have hpos : 0 < s.sent.toNat :=
    Nat.pos_of_ne_zero fun hzero => probed (UInt64.toNat_inj.1 hzero)
  have hsent := s.sent.toNat_lt
  obtain ⟨hfinite, hrate⟩ := rateOf_eq hle probed
  obtain ⟨hmagnitude, hsign⟩ := magnitude_rateOf hle probed
  -- The rate is kept up to date, so it is that of the counters as they are.
  rw [← h.rate] at hfinite hrate hmagnitude hsign
  have hpercent : s.lossPercent.toRat = number (percentMagnitude s.sent.toNat s.lost.toNat) := by
    have hpercentFinite := isFinite_lossPercent hfinite
    rw [toRat_of_isFinite hpercentFinite, lossPercent_eq hfinite, magnitude_ofQuotient,
      isNegative_ofQuotient, hsign, hmagnitude]
    rfl
  rw [hrate, hpercent]
  have hrateError := abs_number_rateMagnitude_sub_le hleNat hpos hsent
  have hpercentError := abs_number_percentMagnitude_sub_le hleNat hpos hsent
  refine ⟨hfinite, ?_, percentMagnitude_le hleNat hpos, ?_, ?_⟩
  · rw [← number_scaleMagnitude]
    exact number_strictMono.monotone (rateMagnitude_le hleNat hpos)
  · exact error_le 10000 hleNat hpos hrateError (by omega) (by norm_num)
  · exact error_le 100 hleNat hpos hpercentError (by omega) (by norm_num)

/-! ## Cells -/

/-- Both cells show a numeral with their number of places, rounded from the double. -/
theorem exists_shows_cells {s : Stats} (hfinite : s.rate.isFinite = true) :
    ∃ rate percent : Json.Numeral,
      rate.chars = TableReport.rateCell s ∧ rate.ShowsFixed 1 s.rate ∧
      percent.chars ++ ['%'] = TableReport.percentCell s ∧ percent.ShowsFixed 4 s.lossPercent := by
  obtain ⟨rate, hrateChars, hrate⟩ := Decimal.exists_shows_fixed hfinite Nat.one_ne_zero
  obtain ⟨percent, hpercentChars, hpercent⟩ :=
    Decimal.exists_shows_fixed (isFinite_lossPercent hfinite) (by decide : 4 ≠ 0)
  refine ⟨rate, percent, hrateChars, hrate, ?_, hpercent⟩
  rw [hpercentChars]
  rfl

/-- What is shown for a finite rate, and for its percentage, is the nearest decimal with one place
    and with four, the one with an even last digit where two are equally near. For counters that
    were probed at least once, whatever their history, both are as near to the exact ratio as half a
    step of the last place and the error of the rate allow, and never greater than what stands for
    the loss of all probes. -/
theorem rates_shown_rounded :
    (∀ s : Stats, s.rate.isFinite = true →
      s.lossPercent.isFinite = true ∧ ∃ rate percent : Json.Numeral,
        rate.chars = TableReport.rateCell s ∧ rate.ShowsFixed 1 s.rate ∧
        percent.chars ++ ['%'] = TableReport.percentCell s ∧
        percent.ShowsFixed 4 s.lossPercent) ∧
    ∀ calls s, s = updates {} calls → s.sent ≠ 0 →
      ∃ rate percent : Json.Numeral,
        rate.chars = TableReport.rateCell s ∧ percent.chars ++ ['%'] = TableReport.percentCell s ∧
        |rate.value - 10000 * s.lost.toNat / s.sent.toNat| ≤ 0.05 + 1 / 10 ^ 9 ∧
        |percent.value - 100 * s.lost.toNat / s.sent.toNat| ≤ 0.00005 + 1 / 10 ^ 9 ∧
        rate.value ≤ 10000 ∧ percent.value ≤ 100 := by
  refine ⟨fun s hfinite => ⟨isFinite_lossPercent hfinite, exists_shows_cells hfinite⟩, ?_⟩
  rintro calls s rfl probed
  -- Counters that were reached have a finite rate, which is near the exact one.
  obtain ⟨hfinite, hrateLe, hpercentLe, hrateError, hpercentError⟩ :=
    (counts_zero.updates calls).rate_bounds probed
  generalize updates {} calls = s at *
  obtain ⟨rate, percent, hrateChars, hrate, hpercentChars, hpercent⟩ := exists_shows_cells hfinite
  refine ⟨rate, percent, hrateChars, hpercentChars, ?_, ?_, ?_, ?_⟩
  · -- The error of printing and the error of the rate itself add up.
    calc _ ≤ |rate.value - s.rate.toRat| + |s.rate.toRat - _| := abs_sub_le _ _ _
      _ ≤ 1 / 2 / 10 ^ 1 + 1 / 10 ^ 9 := add_le_add hrate.abs_sub_le hrateError
      _ = 0.05 + 1 / 10 ^ 9 := by norm_num
  · calc _ ≤ |percent.value - s.lossPercent.toRat| + |s.lossPercent.toRat - _| := abs_sub_le _ _ _
      _ ≤ 1 / 2 / 10 ^ 4 + 1 / 10 ^ 9 := add_le_add hpercent.abs_sub_le hpercentError
      _ = 0.00005 + 1 / 10 ^ 9 := by norm_num
  · -- A bound with no more places than are printed is kept by rounding.
    have hle := hrate.le_of_toRat_le 100000 (by norm_num; linarith)
    norm_num at hle
    exact hle
  · have hle := hpercent.le_of_toRat_le 1000000 (by norm_num; linarith)
    norm_num at hle
    exact hle

/-- A quarter of a loss is a tie, which goes down, and one of three losses is no decimal. -/
theorem rates_shown_rounded_of_tie_and_third :
    let quarter : Stats := ⟨1, 0, 0, ⟨0x3fd0000000000000⟩⟩
    let third : Stats := updates {} [[.sent, .sent, .sent, .timeout]]
    (quarter.rate.isFinite = true ∧ ∃ rate : Json.Numeral,
      rate.chars = "0.2".toList ∧ rate.ShowsFixed 1 quarter.rate) ∧
    third.sent ≠ 0 ∧ ∃ rate percent : Json.Numeral,
      rate.chars = "3333.3".toList ∧ percent.chars ++ ['%'] = "33.3333%".toList ∧
      |rate.value - 10000 / 3| ≤ 0.05 + 1 / 10 ^ 9 ∧
      |percent.value - 100 / 3| ≤ 0.00005 + 1 / 10 ^ 9 := by
  intro quarter third
  obtain ⟨hcells, hreached⟩ := rates_shown_rounded
  -- A quarter lies between `0.2` and `0.3`, and goes to the even digit.
  have hquarter : TableReport.rateCell quarter = "0.2".toList := by decide +kernel
  have hthird : TableReport.rateCell third = "3333.3".toList := by decide +kernel
  have hpercent : TableReport.percentCell third = "33.3333%".toList := by decide +kernel
  have hfinite : quarter.rate.isFinite = true := by decide
  have probed : third.sent ≠ 0 := by decide
  obtain ⟨-, rate, -, hchars, hshows, -⟩ := hcells quarter hfinite
  obtain ⟨rate', percent', hchars', hpercentChars, herror, hpercentError, -⟩ :=
    hreached _ third rfl probed
  have hsent : third.sent.toNat = 3 := by decide
  have hlost : third.lost.toNat = 1 := by decide
  rw [hsent, hlost] at herror hpercentError
  refine ⟨⟨hfinite, rate, hchars.trans hquarter, hshows⟩, probed, rate', percent',
    hchars'.trans hthird, hpercentChars.trans hpercent, ?_, ?_⟩
  · simpa using herror
  · simpa using hpercentError

end Stats

end LossProbe
