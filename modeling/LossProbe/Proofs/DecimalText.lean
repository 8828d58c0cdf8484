import Mathlib.Tactic.FieldSimp
import Mathlib.Tactic.Linarith
import LossProbe.Json.Writer
import LossProbe.Proofs.JsonNumberRange
import LossProbe.Proofs.NearestDouble

/-!
# Decimals as texts

The digits of a natural number are a numeral without a zero in front (`exists_whole_digits`), and
whatever layout a decimal is written in, its text is a numeral of the same value
(`Decimal.exists_numeral_write`). The decimal that is searched for a double exceeds it by one step
of its grid at most (`Decimal.onGrid?_spec`), so its exponent is small enough to be written, and the
text of a double is a numeral of this decimal's value (`exists_numeral_of_isFinite`). Up to
`10 ^ 300` it is far from being out of range (`exists_numeral_floatChars`).
-/

namespace LossProbe.Json

open Decimal (foldDigits)

/-! ## Natural numbers -/

/-- Both names of a digit stand for the same character. -/
theorem digitChar_val (d : Fin 10) : Nat.digitChar d = digitChar d := by
  revert d
  decide

/-- The digits of a natural number are those of a numeral with this value. -/
theorem exists_whole_digits (n : Nat) :
    ∃ w : Whole, w.chars = Decimal.digits n ∧ foldDigits 0 w.values = n := by
  induction n using Nat.strongRecOn with
  | _ n ih =>
    by_cases hn : n < 10
    · refine ⟨⟨⟨⟨n, hn⟩, []⟩, fun _ => rfl⟩, ?_, by simp [foldDigits, Digits.values, Digits.list]⟩
      rw [Decimal.digits, Nat.toDigits_of_lt_base hn]
      exact congrArg (fun c => [c]) (digitChar_val ⟨n, hn⟩).symm
    · -- The last digit follows those of the tenth part, which is not zero.
      obtain ⟨w, hchars, hvalue⟩ := ih (n / 10) (by omega)
      let last : Fin 10 := ⟨n % 10, Nat.mod_lt n (by decide)⟩
      refine ⟨⟨⟨w.first, w.more ++ [last]⟩, fun hfirst => ?_⟩, ?_, ?_⟩
      · have hfirst : w.first = 0 := hfirst
        have hmore := w.alone hfirst
        simp [Digits.values, Digits.list, hfirst, hmore, foldDigits] at hvalue
        omega
      · have hlast := digitChar_val last
        rw [Decimal.digits, Nat.toDigits_eq_if (by decide), if_neg hn, ← Decimal.digits, ← hchars]
        simp [Digits.chars, Digits.list, ← hlast, last]
      · have hsplit : (⟨w.first, w.more ++ [last]⟩ : Digits).values = w.values ++ [n % 10] := by
          simp [Digits.values, Digits.list, last]
        rw [hsplit, foldDigits_append, hvalue]
        simp only [foldDigits, List.foldl_cons, List.foldl_nil]
        omega

/-- Digits that fit are all kept. -/
theorem appendDigits_eq {ds : List Nat} (hds : ∀ d ∈ ds, d < 10) {s : Nat}
    (h : foldDigits s ds < 2 ^ 64) : appendDigits s ds = (foldDigits s ds, 0) := by
  induction ds generalizing s with
  | nil => rfl
  | cons d ds ih =>
    obtain ⟨hd, hds⟩ := List.forall_mem_cons.mp hds
    have hle := (foldDigits_bounds hds (10 * s + d)).1
    have hpos : 0 < 10 ^ ds.length := Nat.pow_pos (by decide)
    -- What is still to come only makes the number greater, so what fits at the end fits here.
    have hfits : fits (10 * s + d) = true := by
      have := Nat.le_mul_of_pos_right (10 * s + d) hpos
      rw [foldDigits_cons] at h
      simp only [fits, decide_eq_true_eq]
      omega
    rw [appendDigits, if_pos hfits]
    exact ih hds h

/-- A natural number of 64 bits is written as a numeral that is read as this number. -/
theorem exists_numeral_nat {n : Nat} (h : n < 2 ^ 64) :
    ∃ m : Numeral, m.chars = Decimal.digits n ∧ m.literal.number = .ok (.integer n) := by
  obtain ⟨w, hchars, hvalue⟩ := exists_whole_digits n
  refine ⟨⟨false, w, none, none⟩, ?_, ?_⟩
  · rw [← hchars]
    exact List.append_nil _
  · have hkept : appendDigits 0 w.values = (n, 0) := by
      rw [appendDigits_eq w.values_lt (hvalue ▸ h), hvalue]
    simp [Numeral.literal, Literal.number, hkept]

/-- Each zero behind a number makes it ten times as great. -/
theorem foldDigits_zeros (s k : Nat) : foldDigits s (List.replicate k 0) = s * 10 ^ k := by
  induction k generalizing s with
  | zero => simp [foldDigits]
  | succ k ih =>
    rw [List.replicate_succ, foldDigits_cons, ih, Nat.pow_succ']
    ring

/-- A list of digits that is not empty. -/
theorem exists_digits_list {l : List (Fin 10)} (h : l ≠ []) : ∃ d : Digits, d.list = l := by
  obtain ⟨first, more, rfl⟩ := List.exists_cons_of_ne_nil h
  exact ⟨⟨first, more⟩, rfl⟩

end LossProbe.Json

namespace LossProbe.Decimal

open Json

/-! ## Layouts -/

/-- The number that a decimal stands for. -/
def value (d : Decimal) : ℚ := d.coefficient * 10 ^ d.exponent

/-- The power of ten of the leading digit. -/
def power (d : Decimal) : Int := d.exponent + (digits d.coefficient).length - 1

variable {d : Decimal}

/-- The digits of a coefficient that is not zero do not begin with a zero. -/
theorem exists_coefficient (h : d.coefficient ≠ 0) :
    ∃ w : Whole, w.chars = digits d.coefficient ∧ foldDigits 0 w.values = d.coefficient ∧
      w.first ≠ 0 := by
  obtain ⟨w, hchars, hvalue⟩ := exists_whole_digits d.coefficient
  refine ⟨w, hchars, hvalue, fun hfirst => h ?_⟩
  rw [← hvalue, Digits.values, Digits.list, hfirst, w.alone hfirst]
  rfl

/-- A numeral of this value, where some zeros may have been moved from the exponent to the
    digits. -/
theorem magnitude_eq_value {n : Numeral} (zeros : Nat)
    (hsignificand : n.significand = d.coefficient * 10 ^ zeros)
    (hexponent : n.power - n.fractionValues.length + zeros = d.exponent) :
    n.magnitude = d.value := by
  have hten : (10 : ℚ) ≠ 0 := by norm_num
  rw [Numeral.magnitude, value, hsignificand, ← hexponent, zpow_add₀ hten, zpow_natCast]
  push_cast
  ring

section

variable {w : Whole}

/-- Zeros between the digits and the point. -/
theorem exists_numeral_integral (hvalue : foldDigits 0 w.values = d.coefficient)
    (hfirst : w.first ≠ 0) (h : 0 ≤ d.exponent) :
    ∃ n : Numeral, n.negative = false ∧ n.exponent = none ∧
      n.unsignedChars = w.chars ++ List.replicate d.exponent.toNat '0' ++ ['.', '0'] ∧
      n.magnitude = d.value := by
  -- The zeros that the exponent stands for are written before the point, and one more behind it.
  let k := d.exponent.toNat
  let n : Numeral := ⟨false, ⟨⟨w.first, w.more ++ List.replicate k 0⟩, fun h => absurd h hfirst⟩,
    some ⟨0, []⟩, none⟩
  have hwhole : n.whole.list = w.list ++ List.replicate k 0 := rfl
  refine ⟨n, rfl, rfl, ?_, magnitude_eq_value (k + 1) ?_ ?_⟩
  · rw [Numeral.unsignedChars, Digits.chars, hwhole, List.map_append, List.map_replicate]
    rfl
  · have hvalues : foldDigits 0 (w.list.map Fin.val) = d.coefficient := hvalue
    have hfraction : n.fractionValues = List.replicate 1 0 := rfl
    rw [Numeral.significand, Digits.values, hwhole, hfraction, List.map_append,
      List.map_replicate, foldDigits_append, foldDigits_append, hvalues, Fin.val_zero,
      foldDigits_zeros, foldDigits_zeros, Nat.mul_assoc, ← Nat.pow_add]
  · have hpower : n.power = 0 := rfl
    have hfraction : n.fractionValues.length = 1 := rfl
    omega

/-- The point among the digits. -/
theorem exists_numeral_split (hvalue : foldDigits 0 w.values = d.coefficient)
    (hfirst : w.first ≠ 0) {before : Nat} (hpos : 0 < before) (hlt : before < w.list.length)
    (hexponent : (before : Int) = w.list.length + d.exponent) :
    ∃ n : Numeral, n.negative = false ∧ n.exponent = none ∧
      n.unsignedChars = w.chars.take before ++ '.' :: w.chars.drop before ∧
      n.magnitude = d.value := by
  obtain ⟨k, rfl⟩ := Nat.exists_eq_add_one_of_ne_zero hpos.ne'
  have hlength : w.list.length = w.more.length + 1 := rfl
  obtain ⟨f, hf⟩ : ∃ f : Digits, f.list = w.more.drop k :=
    exists_digits_list (by rw [ne_eq, List.drop_eq_nil_iff]; omega)
  -- The digits before the point begin with the first one, which is no zero.
  let n : Numeral := ⟨false, ⟨⟨w.first, w.more.take k⟩, fun h => absurd h hfirst⟩, some f, none⟩
  have hwhole : n.whole.list = w.list.take (k + 1) := rfl
  have hfraction : n.fractionValues = (w.list.drop (k + 1)).map Fin.val :=
    congrArg (List.map Fin.val) hf
  refine ⟨n, rfl, rfl, ?_, magnitude_eq_value 0 ?_ ?_⟩
  · have hbefore : n.whole.chars = w.chars.take (k + 1) := by
      rw [Digits.chars, Digits.chars, hwhole, List.map_take]
    have hafter : f.chars = w.chars.drop (k + 1) := by
      rw [Digits.chars, hf, List.map_drop]
      rfl
    have hchars : n.unsignedChars = n.whole.chars ++ ('.' :: f.chars ++ []) := rfl
    rw [hchars, hbefore, hafter, List.append_nil]
  · have hvalues : foldDigits 0 (w.list.map Fin.val) = d.coefficient := hvalue
    rw [Numeral.significand, Digits.values, hwhole, hfraction, ← List.map_append,
      List.take_append_drop, hvalues, Nat.pow_zero, Nat.mul_one]
  · have hpower : n.power = 0 := rfl
    rw [hfraction, hpower, List.length_map, List.length_drop]
    omega

/-- Zeros between the point and the digits. -/
theorem exists_numeral_fractional (hvalue : foldDigits 0 w.values = d.coefficient) {zeros : Nat}
    (hexponent : (zeros : Int) = -(w.list.length + d.exponent)) :
    ∃ n : Numeral, n.negative = false ∧ n.exponent = none ∧
      n.unsignedChars = ['0', '.'] ++ List.replicate zeros '0' ++ w.chars ∧
      n.magnitude = d.value := by
  -- All digits stand behind the point, after as many zeros as the exponent asks for.
  obtain ⟨f, hf⟩ : ∃ f : Digits, f.list = List.replicate zeros 0 ++ w.list :=
    exists_digits_list (by simp [Digits.list])
  let n : Numeral := ⟨false, ⟨⟨0, []⟩, fun _ => rfl⟩, some f, none⟩
  have hfraction : n.fractionValues = List.replicate zeros 0 ++ w.list.map Fin.val := by
    have hvalues : n.fractionValues = f.list.map Fin.val := rfl
    rw [hvalues, hf, List.map_append, List.map_replicate, Fin.val_zero]
  refine ⟨n, rfl, rfl, ?_, magnitude_eq_value 0 ?_ ?_⟩
  · have hfchars : f.chars = List.replicate zeros '0' ++ w.chars := by
      rw [Digits.chars, hf, List.map_append, List.map_replicate]
      rfl
    have hchars : n.unsignedChars = '0' :: '.' :: f.chars ++ [] := rfl
    rw [hchars, hfchars, List.append_nil]
    rfl
  · have hwhole : n.whole.values = [0] := rfl
    have hvalues : foldDigits 0 (w.list.map Fin.val) = d.coefficient := hvalue
    rw [Numeral.significand, hwhole, hfraction, foldDigits_append, foldDigits_append,
      foldDigits_zeros]
    simpa [foldDigits] using hvalues
  · have hpower : n.power = 0 := rfl
    rw [hfraction, hpower, List.length_append, List.length_replicate, List.length_map]
    omega

end

/-- What is written without an exponent is a numeral of this value. -/
theorem exists_numeral_positional (h : d.coefficient ≠ 0) :
    ∃ n : Numeral, n.negative = false ∧ n.exponent = none ∧ n.unsignedChars = d.positional ∧
      n.magnitude = d.value := by
  obtain ⟨w, hchars, hvalue, hfirst⟩ := exists_coefficient h
  have hlength : w.chars.length = w.list.length := List.length_map _
  unfold positional
  simp only [← hchars, hlength]
  -- Three layouts: the point behind the digits, among them, or in front of them.
  split
  · rename_i hexponent
    exact exists_numeral_integral hvalue hfirst hexponent
  split
  · apply exists_numeral_split hvalue hfirst <;> omega
  · apply exists_numeral_fractional hvalue
    omega

/-- The digits after the first one. A point is only written where there are any. -/
theorem exists_fraction (w : Whole) :
    ∃ f : Option Digits,
      Numeral.fractionChars f = (if w.chars.length ≤ 1 then [] else '.' :: w.chars.drop 1) ∧
      (f.map Digits.values).getD [] = w.more.map Fin.val := by
  cases hmore : w.more with
  | nil => exact ⟨none, by simp [Digits.chars, Digits.list, hmore, Numeral.fractionChars], rfl⟩
  | cons a as =>
    refine ⟨some ⟨a, as⟩, ?_, rfl⟩
    simp [Digits.chars, Digits.list, hmore, Numeral.fractionChars]

/-- A power of ten, which is always written with its sign. -/
theorem exists_exponent (k : Int) :
    ∃ e : Exponent, e.chars = 'e' :: (if k < 0 then '-' else '+') :: digits k.natAbs ∧
      e.value = k ∧ e.digits.list.length = (digits k.natAbs).length := by
  obtain ⟨w, hchars, hvalue⟩ := exists_whole_digits k.natAbs
  have hlength : w.list.length = (digits k.natAbs).length := by
    rw [← hchars]
    exact (List.length_map _).symm
  -- The sign is always written, and only a minus counts.
  by_cases hneg : k < 0
  · refine ⟨⟨false, some true, w.toDigits⟩, ?_, ?_, hlength⟩
    · rw [← hchars, if_pos hneg]
      rfl
    · show -(foldDigits 0 w.values : Int) = k
      omega
  · refine ⟨⟨false, some false, w.toDigits⟩, ?_, ?_, hlength⟩
    · rw [← hchars, if_neg hneg]
      rfl
    · show (foldDigits 0 w.values : Int) = k
      omega

/-- What is written with an exponent is a numeral of this value, unless the exponent has too many
    digits. -/
theorem exists_numeral_scientific (h : d.coefficient ≠ 0) (moderate : d.power.natAbs < 10 ^ 9) :
    ∃ n : Numeral, n.negative = false ∧ n.exponentLength ≤ 9 ∧ n.unsignedChars = d.scientific ∧
      n.magnitude = d.value := by
  obtain ⟨w, hchars, hvalue, hfirst⟩ := exists_coefficient h
  obtain ⟨f, hfchars, hfvalues⟩ := exists_fraction w
  obtain ⟨e, hechars, hpower, helength⟩ := exists_exponent d.power
  -- One digit stands before the point, the others behind it, and the exponent says how far it was
  -- moved.
  let n : Numeral := ⟨false, ⟨⟨w.first, []⟩, fun _ => rfl⟩, f, some e⟩
  have hfraction : n.fractionValues = w.more.map Fin.val := hfvalues
  have hpower : n.power = d.power := hpower
  refine ⟨n, rfl, ?_, ?_, magnitude_eq_value 0 ?_ ?_⟩
  · show e.digits.list.length ≤ 9
    rw [helength]
    exact (Nat.length_toDigits_le_iff (by decide) (by decide)).mpr moderate
  · have hunsigned : n.unsignedChars =
        [digitChar w.first] ++ (Numeral.fractionChars f ++ e.chars) := rfl
    rw [hunsigned, hfchars, hechars, scientific, power, ← hchars, ← List.append_assoc]
    rfl
  · rw [Numeral.significand, hfraction, Nat.pow_zero, Nat.mul_one]
    exact hvalue
  · have hlength : (digits d.coefficient).length = w.more.length + 1 := by
      rw [← hchars]
      exact List.length_map _
    rw [hfraction, hpower, power, hlength, List.length_map]
    omega

/-- Whatever the layout, the text of a decimal is a numeral of its value. -/
theorem exists_numeral_write (layout : Layout) (h : d.coefficient ≠ 0)
    (moderate : d.power.natAbs < 10 ^ 9) :
    ∃ n : Numeral, n.negative = false ∧ n.exponentLength ≤ 9 ∧ n.unsignedChars = d.write layout ∧
      n.magnitude = d.value := by
  unfold write
  dsimp only
  split
  · obtain ⟨n, hnegative, hexponent, hchars, hvalue⟩ := exists_numeral_positional h
    exact ⟨n, hnegative, by simp [Numeral.exponentLength, hexponent], hchars, hvalue⟩
  · exact exists_numeral_scientific h moderate

/-! ## Bounds -/

/-- The first digit of a decimal counts no less than its last. -/
theorem exponent_le_power (d : Decimal) : d.exponent ≤ d.power := by
  have hpos : 0 < (digits d.coefficient).length := Nat.length_toDigits_pos
  unfold power
  omega

/-- The leading digit of a decimal does not exceed it. -/
theorem power_lt (h : d.coefficient ≠ 0) {k : Nat} (hvalue : d.value < 10 ^ k) : d.power < k := by
  have hten : (1 : ℚ) < 10 := by norm_num
  obtain ⟨l, hl⟩ : ∃ l, (digits d.coefficient).length = l + 1 :=
    ⟨_, (Nat.succ_pred_eq_of_pos Nat.length_toDigits_pos).symm⟩
  -- The first digit is not zero, so the coefficient is no less than its place.
  have hleading : 10 ^ l ≤ d.coefficient := by
    rcases Nat.eq_zero_or_pos l with rfl | hpos
    · exact Nat.pos_of_ne_zero h
    · have hle := (Nat.length_toDigits_le_iff (b := 10) (n := d.coefficient) (by decide) hpos).not
      have hlength : (Nat.toDigits 10 d.coefficient).length = l + 1 := hl
      omega
  have hpower : d.power = l + d.exponent := by
    unfold power
    omega
  have hle : (10 : ℚ) ^ d.power ≤ d.value := by
    rw [hpower, zpow_add₀ (by norm_num), zpow_natCast, value]
    gcongr
    exact_mod_cast hleading
  have hlt : (10 : ℚ) ^ d.power < 10 ^ (k : Int) := by
    rw [zpow_natCast]
    exact lt_of_le_of_lt hle hvalue
  exact (zpow_lt_zpow_iff_right₀ hten).mp hlt

/-- Moving zeros into the exponent changes no value. -/
theorem normalize_spec (h : d.coefficient ≠ 0) :
    d.normalize.coefficient ≠ 0 ∧ d.normalize.value = d.value ∧
      d.exponent ≤ d.normalize.exponent := by
  fun_induction normalize d with
  | case1 d hzero ih =>
    obtain ⟨hcoefficient, hvalue, hexponent⟩ := ih (by dsimp only; omega)
    refine ⟨hcoefficient, hvalue.trans ?_, by dsimp only at hexponent; omega⟩
    -- The last digit is a zero, so the tenth part loses nothing and the exponent makes up for it.
    have htenth : d.coefficient = d.coefficient / 10 * 10 := by omega
    rw [value, value, zpow_add₀ (by norm_num)]
    conv_rhs => rw [htenth]
    push_cast
    ring
  | case2 d hlast => exact ⟨h, rfl, le_refl _⟩

/-- A number below a power of ten has no more digits than its exponent says. -/
theorem width_le {n k : Nat} (h : n < 10 ^ k) : width n ≤ k := by
  unfold width
  split
  · exact Nat.zero_le k
  · rename_i hn
    have hk : 0 < k := by
      rcases Nat.eq_zero_or_pos k with rfl | hk
      · rw [Nat.pow_zero] at h
        omega
      · exact hk
    exact (Nat.length_toDigits_le_iff (by decide) hk).mpr h

/-! ## Shortest decimals -/

section

variable {num den m k : Nat} {e : Int}

/-- The first digit of a quotient has no higher place than the power of ten that bounds it. -/
theorem leadingExponent_le (h : num ≤ 10 ^ k * den) : leadingExponent num den ≤ k := by
  unfold leadingExponent
  split
  · have hquotient : num / den < 10 ^ (k + 1) :=
      Nat.lt_of_le_of_lt (Nat.div_le_of_le_mul (Nat.mul_comm _ _ ▸ h))
        (Nat.pow_lt_pow_right (by decide) (Nat.lt_succ_self k))
    have := width_le hquotient
    omega
  · omega

/-- The first digit of a quotient is not far behind the point if the quotient is not small. -/
theorem le_leadingExponent (hden : 0 < den) (h : den ≤ 10 ^ k) :
    -(k + 1 : Int) ≤ leadingExponent num den := by
  unfold leadingExponent
  split
  · omega
  · have hquotient : (den - 1) / num < 10 ^ k :=
      Nat.lt_of_le_of_lt (Nat.div_le_self _ _) (by omega)
    have := width_le hquotient
    omega

/-- Rounding adds less than one to the whole part. -/
theorem roundHalfEven_le_succ (num den : Nat) : roundHalfEven num den ≤ num / den + 1 := by
  unfold roundHalfEven
  dsimp only
  split
  · omega
  · split <;> omega

/-- Only zero has no units. -/
theorem unitsOf_ne_zero (h : m ≠ 0) : Binary64.unitsOf m ≠ 0 := by
  unfold Binary64.unitsOf
  split
  · exact h
  · rw [Nat.shiftLeft_eq]
    exact Nat.mul_ne_zero (by unfold Binary64.binade; omega) (Nat.pow_pos (by decide)).ne'

/-- What a power of ten divides by is not zero. -/
theorem scaleDown_pos (e : Int) : 0 < scaleDown e := Nat.pow_pos (by decide)

/-- The two parts of a power of ten are its numerator and its denominator. -/
theorem scaleUp_eq (e : Int) : (scaleUp e : ℚ) = 10 ^ e * scaleDown e := by
  have hten : (10 : ℚ) ≠ 0 := by norm_num
  have hup : (scaleUp e : ℚ) = 10 ^ e.toNat := by exact_mod_cast rfl
  have hdown : (scaleDown e : ℚ) = 10 ^ (-e).toNat := by exact_mod_cast rfl
  rw [hup, hdown, ← zpow_natCast, ← zpow_natCast, ← zpow_add₀ hten]
  congr 1
  omega

/-- What is found on a grid is one of the two decimals next to the number, and not zero. -/
theorem onGrid?_coefficient (hm : m ≠ 0) (hd : onGrid? m e = some d) :
    d.exponent = e ∧ d.coefficient ≠ 0 ∧ d.coefficient ≤
      Binary64.unitsOf m * scaleDown e / (Binary64.unitsPerOne * scaleUp e) + 1 := by
  unfold onGrid? at hd
  dsimp only at hd
  generalize Binary64.unitsOf m = units at *
  generalize Binary64.unitsPerOne = one at *
  have hmagnitude : d.magnitude = m := by simpa using List.find?_some hd
  have hcoefficient : d.coefficient ≠ 0 := by
    intro h
    rw [Decimal.magnitude, h, Nat.zero_mul, Binary64.nearest_zero (scaleDown_pos _)] at hmagnitude
    exact hm hmagnitude.symm
  have hmem := List.mem_of_find?_eq_some hd
  have hnear := roundHalfEven_le_succ (units * scaleDown e) (one * scaleUp e)
  rw [List.mem_cons, List.mem_singleton] at hmem
  -- Only the nearest point of the grid and the one below it are tried.
  rcases hmem with rfl | rfl
  · exact ⟨rfl, hcoefficient, hnear⟩
  · refine ⟨rfl, hcoefficient, ?_⟩
    dsimp only
    split <;> omega

/-- What is found on a grid exceeds the number itself by one step at most. -/
theorem onGrid?_spec (hm : m ≠ 0) (hd : onGrid? m e = some d) :
    d.coefficient ≠ 0 ∧ d.exponent = e ∧
      d.value * Binary64.unitsPerOne ≤ Binary64.unitsOf m + 10 ^ e * Binary64.unitsPerOne := by
  obtain ⟨hexponent, hcoefficient, hle⟩ := onGrid?_coefficient hm hd
  generalize Binary64.unitsOf m = units at *
  generalize Binary64.unitsPerOne = one at *
  refine ⟨hcoefficient, hexponent, ?_⟩
  -- One point below the one that was found is no greater than the double.
  obtain ⟨c, hc⟩ := Nat.exists_eq_succ_of_ne_zero hcoefficient
  have hfloor : c * (one * scaleUp e) ≤ units * scaleDown e :=
    Nat.le_trans (Nat.mul_le_mul_right _ (by omega)) (Nat.div_mul_le_self _ _)
  have hscale : (0 : ℚ) < scaleDown e := by exact_mod_cast scaleDown_pos e
  have hcast : (c : ℚ) * 10 ^ e * one * scaleDown e ≤ units * scaleDown e := by
    calc (c : ℚ) * 10 ^ e * one * scaleDown e = c * (one * scaleUp e) := by
          rw [scaleUp_eq]
          ring
      _ ≤ units * scaleDown e := by exact_mod_cast hfloor
  have hstep := le_of_mul_le_mul_right hcast hscale
  calc d.value * one = c * 10 ^ e * one + 10 ^ e * one := by
        rw [value, hexponent, hc]
        push_cast
        ring
    _ ≤ units + 10 ^ e * one := by gcongr

/-- The exact decimal of a double has the value of the double, without any rounding. -/
theorem exact_spec (hm : m ≠ 0) :
    (exact m).coefficient ≠ 0 ∧ (exact m).exponent = -1074 ∧
      (exact m).value * Binary64.unitsPerOne = Binary64.unitsOf m := by
  -- The power is kept as a variable, so that nothing is computed with it.
  obtain ⟨n, hn⟩ : ∃ n : Nat, n = 1074 := ⟨_, rfl⟩
  have hexponent : -(n : Int) = -1074 := by omega
  have hexact : exact m = ⟨Binary64.unitsOf m * Nat.pow 5 n, -(n : Int)⟩ := by
    rw [exact, hexponent, hn]
  have hone : Binary64.unitsPerOne = 2 ^ n := by rw [hn, Binary64.unitsPerOne_eq]
  have hten : (10 : ℚ) ^ n = 2 ^ n * 5 ^ n := by rw [← mul_pow]; norm_num
  rw [hexact]
  refine ⟨Nat.mul_ne_zero (unitsOf_ne_zero hm) (Nat.pow_pos (by decide)).ne', hexponent, ?_⟩
  rw [hone, value, zpow_neg, zpow_natCast, hten, Nat.pow_eq]
  push_cast
  field_simp

/-- The units to one have fewer than 360 digits. -/
theorem unitsPerOne_le : Binary64.unitsPerOne ≤ 10 ^ 358 := by
  obtain ⟨k, hk⟩ : ∃ k, k = 358 := ⟨_, rfl⟩
  have hexponent : 1074 = 3 * k := by omega
  rw [Binary64.unitsPerOne_eq, hexponent, Nat.pow_mul, ← hk]
  exact Nat.pow_le_pow_left (by decide) k

/-- Whether a decimal was found or not, it is normalised. -/
theorem normalize_getD (found : Option Decimal) (d : Decimal) :
    (match found with
      | some d => d.normalize
      | none => d.normalize) = (found.getD d).normalize := by
  cases found <;> rfl

-- An equation between functions: with an argument, comparing both sides would start the search.
/-- The shortest decimal is the first that is found on a grid of at most 17 digits, or the exact
    one. -/
theorem shortest_eq : shortest = fun m => (((List.range 17).findSome? fun (n : Nat) =>
    onGrid? m (leadingExponent (Binary64.unitsOf m) Binary64.unitsPerOne - n)).getD
      (exact m)).normalize := by
  delta shortest
  funext m
  exact normalize_getD _ _

/-- The shortest decimal is found on one of the grids, or it is the exact one. -/
theorem shortest_cases (m : Nat) : ∃ d : Decimal, shortest m = d.normalize ∧
    (d = exact m ∨ ∃ n : Nat, n < 17 ∧
      onGrid? m (leadingExponent (Binary64.unitsOf m) Binary64.unitsPerOne - n) = some d) := by
  refine ⟨_, congrFun shortest_eq m, ?_⟩
  cases hfound : (List.range 17).findSome? fun (n : Nat) =>
      onGrid? m (leadingExponent (Binary64.unitsOf m) Binary64.unitsPerOne - n) with
  | none => exact .inl rfl
  | some d =>
    obtain ⟨n, hn, hgrid⟩ := List.exists_of_findSome?_eq_some hfound
    exact .inr ⟨n, List.mem_range.mp hn, hgrid⟩

/-- Two bounds in units are a bound on the values. -/
theorem le_of_units_le {v p q units one : ℚ} (hone : 0 < one) (h : v * one ≤ units + q * one)
    (hunits : units ≤ p * one) (hq : q ≤ p) : v ≤ p + p := by
  refine le_of_mul_le_mul_right ?_ hone
  rw [add_mul]
  exact h.trans (add_le_add hunits (mul_le_mul_of_nonneg_right hq hone.le))

/-- The shortest decimal of a number, with a bound on either side. -/
theorem shortest_spec (hm : m ≠ 0) (h : Binary64.unitsOf m ≤ 10 ^ k * Binary64.unitsPerOne) :
    (shortest m).coefficient ≠ 0 ∧ (shortest m).value < 10 ^ (k + 1) ∧
      -1074 ≤ (shortest m).exponent := by
  have hone : (0 : ℚ) < Binary64.unitsPerOne := by exact_mod_cast Binary64.unitsPerOne_pos
  have hunits : (Binary64.unitsOf m : ℚ) ≤ 10 ^ k * Binary64.unitsPerOne := by exact_mod_cast h
  have hpos : (0 : ℚ) < 10 ^ k := by positivity
  obtain ⟨d, hd, hfound⟩ := shortest_cases m
  -- Of the decimal as it was found, be it exact or on a grid, before zeros at its end are dropped.
  obtain ⟨hcoefficient, hvalue, hexponent⟩ : d.coefficient ≠ 0 ∧ d.value ≤ 10 ^ k + 10 ^ k ∧
      -1074 ≤ d.exponent := by
    rcases hfound with rfl | ⟨n, hn, hgrid⟩
    · obtain ⟨hcoefficient, hexponent, hvalue⟩ := exact_spec hm
      refine ⟨hcoefficient, le_of_units_le hone (q := 0) ?_ hunits hpos.le, hexponent.ge⟩
      rw [hvalue, zero_mul, add_zero]
    · obtain ⟨hcoefficient, hexponent, hvalue⟩ := onGrid?_spec hm hgrid
      have htop := leadingExponent_le h
      have hleast : -((358 : Nat) + 1 : Int) ≤
          leadingExponent (Binary64.unitsOf m) Binary64.unitsPerOne :=
        le_leadingExponent Binary64.unitsPerOne_pos unitsPerOne_le
      refine ⟨hcoefficient, le_of_units_le hone hvalue hunits ?_, by omega⟩
      rw [← zpow_natCast]
      exact zpow_le_zpow_right₀ (by norm_num) (by omega)
  obtain ⟨hnonzero, hnormal, hle⟩ := normalize_spec hcoefficient
  rw [hd, hnormal, pow_succ]
  refine ⟨hnonzero, ?_, Int.le_trans hexponent hle⟩
  linarith

end

end LossProbe.Decimal

namespace LossProbe.Json

open Decimal

/-! ## Doubles -/

/-- A double stays below `10 ^ 512`. -/
theorem unitsOf_le_of_finite {m : Nat} (h : m < Binary64.infinityMagnitude) :
    Binary64.unitsOf m ≤ 10 ^ 512 * Binary64.unitsPerOne := by
  obtain ⟨e, r, rfl, hr, hnormal⟩ := Binary64.exists_pack m
  obtain ⟨k, hk⟩ : ∃ k, k = 256 := ⟨_, rfl⟩
  have hinfinity : Binary64.infinityMagnitude = 2047 * Binary64.binade := rfl
  have hbinade : Binary64.binade = 2 ^ 52 := rfl
  -- Four bits are less than two digits, and all powers up to the greatest are a multiple of that.
  have hone : 2 ^ (4 * k + 1074) = 2 ^ (4 * k) * Binary64.unitsPerOne := by
    rw [Binary64.unitsPerOne_eq, Nat.pow_add]
  have hdigits : 2 ^ (4 * k) ≤ 10 ^ (2 * k) := by
    rw [Nat.pow_mul, Nat.pow_mul]
    exact Nat.pow_le_pow_left (by decide) k
  have hexponent : 512 = 2 * k := by omega
  have he : e ≤ 2045 := by
    rw [hinfinity, hbinade] at h
    rw [hbinade] at hnormal
    omega
  rw [Binary64.unitsOf_pack hr.le hnormal, hexponent]
  calc r * 2 ^ e ≤ 2 ^ 53 * 2 ^ e := Nat.mul_le_mul_right _ (by omega)
    _ = 2 ^ (53 + e) := (Nat.pow_add _ _ _).symm
    _ ≤ 2 ^ (4 * k + 1074) := Nat.pow_le_pow_right (by decide) (by omega)
    _ ≤ 10 ^ (2 * k) * Binary64.unitsPerOne := by
      rw [hone]
      exact Nat.mul_le_mul_right _ hdigits

/-- A finite double is written as a numeral of its sign, with the value of the shortest decimal. -/
theorem exists_numeral_of_isFinite {x : Binary64} (hfinite : x.isFinite = true) :
    ∃ n : Numeral, n.negative = x.isNegative ∧ n.exponentLength ≤ 9 ∧
      floatChars? x = some n.chars ∧
      n.magnitude = if x.magnitude = 0 then 0 else (shortest x.magnitude).value := by
  -- The sign is written in front of what is found for the magnitude.
  suffices hmagnitude : ∃ n : Numeral, n.exponentLength ≤ 9 ∧
      (n.unsignedChars = if x.magnitude = 0 then ['0', '.', '0']
        else (shortest x.magnitude).write floatLayout) ∧
      n.magnitude = if x.magnitude = 0 then 0 else (shortest x.magnitude).value by
    obtain ⟨n, hexponent, hchars, hvalue⟩ := hmagnitude
    refine ⟨{ n with negative := x.isNegative }, rfl, hexponent, ?_, hvalue⟩
    rw [floatChars?, if_pos hfinite, ← hchars, Numeral.chars]
    cases x.isNegative <;> rfl
  split
  · refine ⟨⟨false, ⟨⟨0, []⟩, fun _ => rfl⟩, some ⟨0, []⟩, none⟩, Nat.zero_le 9, rfl, ?_⟩
    rw [Numeral.magnitude]
    exact mul_eq_zero_of_left (Nat.cast_eq_zero.mpr rfl) _
  · rename_i hzero
    obtain ⟨hcoefficient, hvalue, hexponent⟩ :=
      shortest_spec hzero (unitsOf_le_of_finite (of_decide_eq_true hfinite))
    have hpower := power_lt hcoefficient hvalue
    have hleast := exponent_le_power (shortest x.magnitude)
    obtain ⟨n, -, hlength, hchars, hmagnitude⟩ :=
      exists_numeral_write floatLayout hcoefficient (by omega)
    exact ⟨n, hlength, hchars, hmagnitude⟩

/-- A double that is no greater than `10 ^ 300` either way, if it is a number at all. -/
def RateInRange (x : Binary64) : Prop :=
  x.isFinite → Binary64.unitsOf x.magnitude ≤ 10 ^ 300 * Binary64.unitsPerOne

/-- A double up to `10 ^ 300` is written as a numeral that is far from being out of range. -/
theorem exists_numeral_floatChars {x : Binary64} (hfinite : x.isFinite) (h : RateInRange x) :
    ∃ n : Numeral, n.Moderate ∧ floatChars? x = some n.chars := by
  obtain ⟨n, -, hlength, hchars, hmagnitude⟩ := exists_numeral_of_isFinite hfinite
  refine ⟨n, ⟨?_, hlength⟩, hchars⟩
  rw [hmagnitude]
  split
  · positivity
  · rename_i hzero
    obtain ⟨-, hvalue, -⟩ := shortest_spec hzero (h hfinite)
    exact lt_of_lt_of_le hvalue (pow_le_pow_right₀ (by norm_num) (by decide))

end LossProbe.Json
