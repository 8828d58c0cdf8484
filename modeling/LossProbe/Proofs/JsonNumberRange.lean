import Mathlib.Algebra.Order.Field.Power
import Mathlib.Tactic.GCongr
import Mathlib.Tactic.Positivity
import Mathlib.Tactic.Ring
import LossProbe.Proofs.DoubleRange
import LossProbe.Proofs.JsonSyntax
import LossProbe.Proofs.JsonNumerals

/-!
# Numbers in range

A literal that is written with many digits loses the last of them, and a double loses still more.
Neither raises the number by more than a sixteenth, so the number of a moderate numeral is never
out of range (`exists_number`).
-/

namespace LossProbe.Json

open Decimal (foldDigits tenTo)

/-! ## Digits that are left out -/

theorem foldDigits_cons (s d : Nat) (ds : List Nat) :
    foldDigits s (d :: ds) = foldDigits (10 * s + d) ds := rfl

/-- Digits that are read in two parts are read on from where the first part led. -/
theorem foldDigits_append (s : Nat) (xs ys : List Nat) :
    foldDigits s (xs ++ ys) = foldDigits (foldDigits s xs) ys := List.foldl_append

/-- Digits that follow others do not carry over. -/
theorem foldDigits_bounds {ds : List Nat} (hds : ∀ d ∈ ds, d < 10) (s : Nat) :
    s * 10 ^ ds.length ≤ foldDigits s ds ∧ foldDigits s ds < (s + 1) * 10 ^ ds.length := by
  induction ds generalizing s with
  | nil => simp [foldDigits]
  | cons d ds ih =>
    have hd : d < 10 := hds d (by simp)
    -- The digits behind `d` from the value that `d` leads to.
    obtain ⟨hlow, hhigh⟩ := ih (fun x hx => hds x (by simp [hx])) (10 * s + d)
    have hpow : 10 ^ (d :: ds).length = 10 * 10 ^ ds.length := Nat.pow_succ'
    rw [foldDigits_cons, hpow, ← Nat.mul_assoc, ← Nat.mul_assoc]
    constructor
    · exact Nat.le_trans (Nat.mul_le_mul_right _ (by omega)) hlow
    · exact Nat.lt_of_lt_of_le hhigh (Nat.mul_le_mul_right _ (by omega))

/-- The digits that are appended and the count of the others, which are left out only once there are
    many. -/
theorem appendDigits_bounds {ds : List Nat} (hds : ∀ d ∈ ds, d < 10) (s : Nat) :
    (appendDigits s ds).1 * 10 ^ (appendDigits s ds).2 ≤ foldDigits s ds ∧
      foldDigits s ds < ((appendDigits s ds).1 + 1) * 10 ^ (appendDigits s ds).2 ∧
      (appendDigits s ds).2 ≤ ds.length ∧
      (0 < (appendDigits s ds).2 → 16 ≤ (appendDigits s ds).1) := by
  induction ds generalizing s with
  | nil => simp [appendDigits, foldDigits]
  | cons d ds ih =>
    have hd : d < 10 := hds d (by simp)
    have hds' : ∀ x ∈ ds, x < 10 := fun x hx => hds x (by simp [hx])
    unfold appendDigits
    split
    · obtain ⟨hlow, hhigh, hlength, hmany⟩ := ih hds' (10 * s + d)
      exact ⟨hlow, hhigh, Nat.le_succ_of_le hlength, hmany⟩
    · -- Digits are only left out of a significand of nearly 64 bits.
      rename_i hfits
      have hmany : 0xffffffffffffffff < 10 * s + d := by simpa [fits] using hfits
      obtain ⟨hlow, hhigh⟩ := foldDigits_bounds hds s
      exact ⟨hlow, hhigh, Nat.le_refl _, fun _ => by omega⟩

/-- The digits that are kept, scaled by those that are left out, exceed the number that is written
    by a sixteenth at most. -/
theorem appendDigits_le {ws fs : List Nat} (hws : ∀ d ∈ ws, d < 10) (hfs : ∀ d ∈ fs, d < 10) :
    16 * ((appendDigits (appendDigits 0 ws).1 fs).1 *
        10 ^ ((appendDigits 0 ws).2 + (appendDigits (appendDigits 0 ws).1 fs).2)) ≤
      17 * foldDigits 0 (ws ++ fs) := by
  obtain ⟨hlow, hhigh, -, hmany⟩ := appendDigits_bounds hws 0
  generalize appendDigits 0 ws = p at *
  obtain ⟨hlow', -, hlength, -⟩ := appendDigits_bounds hfs p.1
  generalize appendDigits p.1 fs = q at *
  rw [foldDigits_append]
  -- Where no digit of the whole part is left out, nothing is raised at all.
  by_cases hdropped : p.2 = 0
  · rw [hdropped, Nat.pow_zero, Nat.mul_one] at hlow hhigh
    have hwhole : p.1 = foldDigits 0 ws := by omega
    rw [hdropped, Nat.zero_add, ← hwhole]
    omega
  · have hfraction := (foldDigits_bounds hfs p.1).2
    have hnumber := (foldDigits_bounds hfs (foldDigits 0 ws)).1
    have hmany := hmany (by omega)
    calc 16 * (q.1 * 10 ^ (p.2 + q.2))
        = 16 * (q.1 * 10 ^ q.2 * 10 ^ p.2) := by
          rw [Nat.pow_add, Nat.mul_comm (10 ^ p.2), Nat.mul_assoc]
      _ ≤ 16 * ((p.1 + 1) * 10 ^ fs.length * 10 ^ p.2) := by
          apply Nat.mul_le_mul_left
          exact Nat.mul_le_mul_right _ (Nat.le_trans hlow' (Nat.le_of_lt hfraction))
      _ = 16 * (p.1 + 1) * (10 ^ fs.length * 10 ^ p.2) := by simp only [Nat.mul_assoc]
      _ ≤ 17 * p.1 * (10 ^ fs.length * 10 ^ p.2) := Nat.mul_le_mul_right _ (by omega)
      _ = 17 * (p.1 * 10 ^ p.2 * 10 ^ fs.length) := by
          rw [Nat.mul_comm (10 ^ fs.length)]
          simp only [Nat.mul_assoc]
      _ ≤ 17 * (foldDigits 0 ws * 10 ^ fs.length) := by
          apply Nat.mul_le_mul_left
          exact Nat.mul_le_mul_right _ hlow
      _ ≤ 17 * foldDigits (foldDigits 0 ws) fs := Nat.mul_le_mul_left _ hnumber

/-! ## Scaling -/

/-- Dividing always gives a number. -/
theorem isSome_scale_of_neg (x : Binary64) {e : Int} (he : e < 0) : (scale x e).isSome := by
  fun_induction scale x e with
  | case1 x e _ hnonneg => omega
  | case2 x e _ hnonneg => omega
  | case3 => rfl
  | case4 => rfl
  | case5 x e hle hneg hlow hx ih => exact ih (by unfold maxPower at *; omega)
  | case6 => rfl
  | case7 x e hgreat => unfold maxPower at hgreat; omega

/-- The bound for the numbers below, in the terms of doubles. -/
theorem tenTo_lt_quarter : 289 * 17 * 10 ^ maxPower < 768 * 16 * Binary64.quarter := by
  decide +kernel

/-- Zero is stored as the double with no bit set. -/
theorem ofNat_zero : Binary64.ofNat 0 = .zero := by decide +kernel

/-- Scaling gives a number where the result is small enough. -/
theorem isSome_scale {s : Nat} {e : Int}
    (h : 0 ≤ e → 16 * (s * 10 ^ e.toNat) < 17 * 10 ^ maxPower) :
    (scale (.ofNat s) e).isSome := by
  by_cases he : e < 0
  · exact isSome_scale_of_neg _ he
  have h := h (by omega)
  have hquarter := tenTo_lt_quarter
  unfold scale
  by_cases hgreat : e ≤ maxPower
  · -- Both factors of the product are at most as great as the bound itself.
    have hpower : 10 ^ e.toNat ≤ 10 ^ maxPower := Nat.pow_le_pow_right (by decide) (by omega)
    have hone : 0 < 10 ^ e.toNat := Nat.pow_pos (by decide)
    have hs : s ≤ s * 10 ^ e.toNat := Nat.le_mul_of_pos_right s hone
    have hfinite := Binary64.isInfinite_ofNat_mul (m := s) (n := tenTo e.toNat)
      (by omega) (by show 10 ^ e.toNat < _; omega) (by show 289 * (s * 10 ^ e.toNat) < _; omega)
    rw [if_pos hgreat, if_pos (by omega)]
    dsimp only
    rw [hfinite]
    rfl
  · -- A greater power than the greatest double only goes with zero.
    have hs : s = 0 := by
      apply Decidable.byContradiction
      intro hs
      have hpower : 10 * 10 ^ maxPower ≤ 10 ^ e.toNat := by
        rw [← Nat.pow_succ']
        exact Nat.pow_le_pow_right (by decide) (by omega)
      have hle : 10 ^ e.toNat ≤ s * 10 ^ e.toNat := Nat.le_mul_of_pos_left _ (by omega)
      omega
    rw [if_neg hgreat, hs, ofNat_zero, if_pos rfl]
    rfl

/-! ## Literals -/

namespace Literal

variable (l : Literal)

/-- The significand of the digits that are kept. -/
def kept : Nat := (appendDigits (appendDigits 0 l.whole).1 (l.fraction.getD [])).1

/-- The power of ten that goes with it, without the exponent that is written. -/
def shift : Int :=
  (appendDigits 0 l.whole).2 -
    ((l.fraction.getD []).length -
      (appendDigits (appendDigits 0 l.whole).1 (l.fraction.getD [])).2 : Nat)

/-- What is kept, scaled. -/
def scaled (power : Int) : Except Nat Number :=
  (scale (.ofNat l.kept) (l.shift + power)).elim (.error 0) fun x => .ok (.float (l.signed x))

/-- A number with an exponent that can be counted is scaled by it. -/
theorem number_of_exponent {negative : Bool} {ds : List Nat} {n : Nat}
    (hexponent : l.exponent = some (negative, ds)) (hn : exponentValue 0 ds = .ok n) :
    l.number = l.scaled (if negative then -(n : Int) else n) := by
  obtain ⟨_, whole, fraction, _⟩ := l
  cases hexponent
  -- The written exponent is added to the shift, whatever its sign.
  have hshift : ∀ shift : Int, (if negative then shift - n else shift + n) =
      shift + (if negative then -(n : Int) else n) := by
    intro shift
    split <;> omega
  have hzero : ∀ k : Nat, (k : Int) - (0 - 0 : Nat) = k := by omega
  unfold number scaled
  cases fraction with
  | none =>
    simp only [hn, hshift, kept, shift, Option.getD_none, appendDigits, List.length_nil, hzero]
    cases scale _ _ <;> rfl
  | some fs =>
    simp only [hn, hshift, kept, shift, Option.getD_some]
    cases scale _ _ <;> rfl

/-- A number without an exponent is scaled by nothing, unless it is an integer that fits: then it is
    one, or a double where it is too low or a negative zero. -/
theorem number_of_no_exponent (hexponent : l.exponent = none) :
    l.number = l.scaled 0 ∨ l.fraction = none ∧ (appendDigits 0 l.whole).2 = 0 ∧
      (l.number = .ok (.integer (if l.negative then -((appendDigits 0 l.whole).1 : Int) else
        (appendDigits 0 l.whole).1)) ∨ ∃ x, l.number = .ok (.float x)) := by
  obtain ⟨negative, whole, fraction, _⟩ := l
  cases hexponent
  have hzero : ∀ k : Nat, (k : Int) - (0 - 0 : Nat) = k := by omega
  unfold number scaled
  -- Without a fraction, digits that do not fit make it no integer; with one it is none anyway.
  cases fraction with
  | none =>
    by_cases hdropped : (appendDigits 0 whole).2 = 0
    · refine .inr ⟨rfl, hdropped, ?_⟩
      simp only [hdropped]
      cases negative with
      | false => exact .inl rfl
      | true =>
        by_cases hzero : (appendDigits 0 whole).1 = 0 ∨
            0x8000000000000000 < (appendDigits 0 whole).1
        · exact .inr ⟨_, if_pos hzero⟩
        · exact .inl (if_neg hzero)
    · left
      simp only [kept, shift, Option.getD_none, appendDigits, List.length_nil, hzero, Int.add_zero]
      rw [if_pos (by simp [hdropped])]
      cases scale _ _ <;> rfl
  | some fs =>
    left
    simp only [kept, shift, Option.getD_some, Int.add_zero]
    rw [if_pos (by simp)]
    cases scale _ _ <;> rfl

/-- A number that is scaled is no integer. -/
theorem scaled_ne_integer (power k : Int) : l.scaled power ≠ .ok (.integer k) := by
  unfold scaled
  cases scale (.ofNat l.kept) (l.shift + power) <;> exact nofun

/-- A literal with an exponent is never read as an integer. -/
theorem number_ne_integer_of_exponent {e : Bool × List Nat} (hexponent : l.exponent = some e)
    (k : Int) : l.number ≠ .ok (.integer k) := by
  intro h
  -- Even an exponent that is too great to be counted leads to a double, or to none.
  cases hvalue : exponentValue 0 e.2 with
  | ok n =>
    rw [l.number_of_exponent hexponent hvalue] at h
    exact l.scaled_ne_integer _ k h
  | error following =>
    obtain ⟨_, whole, fraction, _⟩ := l
    cases hexponent
    unfold number at h
    cases fraction <;>
    · simp only [hvalue] at h
      split at h <;> exact nomatch h

/-- Only digits alone are read as an integer. -/
theorem number_integer {k : Int} (h : l.number = .ok (.integer k)) :
    l.fraction = none ∧ l.exponent = none ∧ (appendDigits 0 l.whole).2 = 0 ∧
      k = if l.negative then -((appendDigits 0 l.whole).1 : Int) else
        (appendDigits 0 l.whole).1 := by
  cases hexponent : l.exponent with
  | some e => exact absurd h (l.number_ne_integer_of_exponent hexponent k)
  | none =>
    -- Scaled, an integer, or a double for an integer that is too large.
    rcases l.number_of_no_exponent hexponent with hscaled | ⟨hfraction, hdropped, hint | ⟨x, hx⟩⟩
    · rw [hscaled] at h
      exact absurd h (l.scaled_ne_integer 0 k)
    · rw [h] at hint
      cases hint
      exact ⟨hfraction, rfl, hdropped, rfl⟩
    · rw [h] at hx
      exact nomatch hx

/-- A scaled number is read if it does not overflow. -/
theorem exists_number_of_scaled {power : Int}
    (h : (scale (.ofNat l.kept) (l.shift + power)).isSome) (hscaled : l.number = l.scaled power) :
    ∃ x, l.number = .ok x := by
  obtain ⟨y, hy⟩ := Option.isSome_iff_exists.mp h
  rw [hscaled, scaled, hy]
  exact ⟨_, rfl⟩

end Literal

/-! ## Numerals -/

/-- An exponent that stays below the greatest one is counted exactly. -/
theorem exponentValue_eq {ds : List Nat} (hds : ∀ d ∈ ds, d < 10) {s : Nat}
    (h : foldDigits s ds ≤ exponentMax) : exponentValue s ds = .ok (foldDigits s ds) := by
  induction ds generalizing s with
  | nil => rfl
  | cons d ds ih =>
    have hds' : ∀ x ∈ ds, x < 10 := fun x hx => hds x (by simp [hx])
    rw [foldDigits_cons] at h ⊢
    -- The value only grows with more digits, so the first step is below the limit too.
    have hle : 10 * s + d ≤ foldDigits (10 * s + d) ds :=
      Nat.le_trans (Nat.le_mul_of_pos_right _ (Nat.pow_pos (by decide)))
        (foldDigits_bounds hds' _).1
    rw [exponentValue, if_pos (by omega)]
    exact ih hds' h

/-- Each digit is less than ten. -/
theorem Digits.values_lt (d : Digits) : ∀ v ∈ d.values, v < 10 := by
  intro v hv
  obtain ⟨f, -, rfl⟩ := List.mem_map.mp hv
  exact f.isLt

/-- Each digit after the point is less than ten. -/
theorem Numeral.fractionValues_lt (n : Numeral) : ∀ v ∈ n.fractionValues, v < 10 := by
  unfold fractionValues
  cases n.fraction with
  | none => simp
  | some d => exact d.values_lt

/-- From the bound for the number that is written to the bound for what is kept of it. -/
theorem kept_lt {kept significand zeros places : Nat} {power : Int}
    (hkept : 16 * (kept * 10 ^ zeros) ≤ 17 * significand)
    (h : (significand : ℚ) * 10 ^ (power - places) < 10 ^ maxPower)
    (hpower : 0 ≤ zeros - places + power) :
    16 * (kept * 10 ^ (zeros - places + power).toNat) < 17 * 10 ^ maxPower := by
  have hten : (10 : ℚ) ≠ 0 := by norm_num
  -- The rest is done with rational numbers, where the power may be negative.
  have hcast : (16 : ℚ) * (kept * 10 ^ zeros) ≤ 17 * significand := by exact_mod_cast hkept
  have hsplit : (10 : ℚ) ^ (zeros - places + power).toNat = 10 ^ zeros * 10 ^ (power - places) := by
    rw [← zpow_natCast, Int.toNat_of_nonneg hpower, ← zpow_natCast, ← zpow_add₀ hten]
    congr 1
    omega
  have hlt : (16 : ℚ) * (kept * 10 ^ (zeros - places + power).toNat) < 17 * 10 ^ maxPower := by
    calc (16 : ℚ) * (kept * 10 ^ (zeros - places + power).toNat)
        = 16 * (kept * 10 ^ zeros) * 10 ^ (power - places) := by
          rw [hsplit]
          ring
      _ ≤ 17 * significand * 10 ^ (power - places) := by gcongr
      _ = 17 * (significand * 10 ^ (power - places)) := by ring
      _ < 17 * 10 ^ maxPower := by gcongr
  exact_mod_cast hlt

/-- A number below the greatest power of ten does not overflow where it is scaled. -/
theorem Numeral.isSome_scale_literal (n : Numeral) (h : n.magnitude < 10 ^ maxPower) :
    (scale (.ofNat n.literal.kept) (n.literal.shift + n.power)).isSome := by
  have hkept := appendDigits_le n.whole.values_lt n.fractionValues_lt
  have hplaces := (appendDigits_bounds n.fractionValues_lt (appendDigits 0 n.whole.values).1).2.2.1
  -- The fraction moves the point by its whole length, kept digits or not.
  have hshift : n.literal.shift =
      ((appendDigits 0 n.whole.values).2 +
        (appendDigits (appendDigits 0 n.whole.values).1 n.fractionValues).2 : Nat) -
          (n.fractionValues.length : Int) := by
    show ((appendDigits 0 n.whole.values).2 : Int) - (n.fractionValues.length -
      (appendDigits (appendDigits 0 n.whole.values).1 n.fractionValues).2 : Nat) = _
    omega
  apply isSome_scale
  rw [hshift]
  exact kept_lt hkept h

/-- The number of a moderate numeral is in range. -/
theorem Numeral.exists_number (n : Numeral) (h : n.Moderate) : ∃ x, n.literal.number = .ok x := by
  have hscale := n.isSome_scale_literal h.1
  -- Without an exponent the number may be an integer; with one it is scaled.
  cases hexponent : n.exponent with
  | none =>
    have hnone : n.literal.exponent = none := by rw [literal, hexponent]; rfl
    have hpower : n.power = 0 := by rw [power, hexponent]; rfl
    rw [hpower] at hscale
    rcases n.literal.number_of_no_exponent hnone with hscaled | ⟨-, -, hint | hfloat⟩
    · exact n.literal.exists_number_of_scaled hscale hscaled
    · exact ⟨_, hint⟩
    · obtain ⟨x, hx⟩ := hfloat
      exact ⟨_, hx⟩
  | some e =>
    have hsome : n.literal.exponent = some (e.negative, e.digits.values) := by
      rw [literal, hexponent]
      rfl
    have hpower : n.power = e.value := by rw [power, hexponent]; rfl
    have hlength : e.digits.values.length ≤ 9 := by
      have h := h.2
      rw [exponentLength, hexponent] at h
      rw [Digits.values, List.length_map]
      exact h
    -- Nine digits are always below the greatest exponent that is counted.
    have hvalue : foldDigits 0 e.digits.values ≤ exponentMax := by
      have hlt := (foldDigits_bounds e.digits.values_lt 0).2
      have hpow : 10 ^ e.digits.values.length ≤ 10 ^ 9 := Nat.pow_le_pow_right (by decide) hlength
      unfold exponentMax
      omega
    have hnumber := n.literal.number_of_exponent hsome (exponentValue_eq e.digits.values_lt hvalue)
    rw [hpower] at hscale
    exact n.literal.exists_number_of_scaled hscale hnumber

/-- A number of one digit is moderate. -/
theorem Numeral.moderate_ofDigit (d : Fin 10) : (ofDigit d).Moderate := by
  refine ⟨?_, by simp [exponentLength, ofDigit]⟩
  have hmagnitude : (ofDigit d).magnitude = d.val := by
    simp [magnitude, significand, fractionValues, power, ofDigit, Digits.values, Digits.list,
      Decimal.foldDigits]
  have hd : (d.val : ℚ) < 10 ^ 1 := by
    rw [pow_one]
    exact_mod_cast d.isLt
  rw [hmagnitude]
  exact lt_of_lt_of_le hd (pow_le_pow_right₀ (by norm_num) (by decide))

end LossProbe.Json
