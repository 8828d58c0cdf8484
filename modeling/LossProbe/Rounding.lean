/-! # Rounding a quotient to a natural number

Every inexact number of this library, binary or decimal, comes from one rule: the exact
quotient goes to the nearest natural number, and a tie goes to the even one. -/

namespace LossProbe

/-- `num / den` rounded to the nearest natural number, a tie to the even one. -/
def roundHalfEven (num den : Nat) : Nat :=
  let floor := num / den
  let rest := num % den
  if 2 * rest < den then floor
  else if den < 2 * rest then floor + 1
  else floor + floor % 2

/-- A quotient without remainder is its own rounding. -/
theorem roundHalfEven_mul_right (n den : Nat) (h : 0 < den) :
    roundHalfEven (n * den) den = n := by
  simp [roundHalfEven, Nat.mul_div_cancel _ h, h]

/-- Rounding moves the quotient by at most one half, stated without division. -/
theorem roundHalfEven_error (num den : Nat) (h : 0 < den) :
    2 * num ≤ (2 * roundHalfEven num den + 1) * den ∧
      2 * roundHalfEven num den * den ≤ 2 * num + den := by
  have hsplit := Nat.div_add_mod num den
  have hlt := Nat.mod_lt num h
  have hcomm : den * (num / den) = num / den * den := Nat.mul_comm _ _
  unfold roundHalfEven
  have hpar : num / den % 2 = 0 ∨ num / den % 2 = 1 := by omega
  dsimp only
  split
  · constructor <;> (simp only [Nat.add_mul, Nat.mul_assoc, Nat.one_mul]; omega)
  · split
    · constructor <;> (simp only [Nat.add_mul, Nat.mul_add, Nat.mul_assoc, Nat.one_mul]; omega)
    · rcases hpar with hp | hp <;> rw [hp] <;>
        constructor <;> (simp only [Nat.add_mul, Nat.mul_add, Nat.mul_assoc, Nat.one_mul]; omega)

end LossProbe
