import LossProbe.Proofs.JsonNumerals
import LossProbe.Proofs.OptionNumbers

/-!
# Which texts are numbers of options

A number of an option is one digit or more, behind a sign perhaps, and within the bounds of the
option (`NumberRule.Accepts`). Zeros in front do not matter, however many. Whichever of the two
readers an option has, it accepts exactly these texts (`Argument.read_eq_ok_iff`).
-/

namespace LossProbe.CommandLine

open Decimal (digit? foldDigits)
open Json (Digits digitChar digit?_digitChar exists_digitChar exists_map_of_values)

/-! ## Numbers as they are written -/

/-- A number with a sign perhaps. -/
structure NumberText where
  /-- The sign, where there is one: whether it is a minus. -/
  sign : Option Bool
  digits : Digits

namespace NumberText

def signChar (minus : Bool) : Char := if minus then '-' else '+'

def chars : NumberText → List Char
  | ⟨none, d⟩ => d.chars
  | ⟨some minus, d⟩ => signChar minus :: d.chars

/-- The number without its sign. -/
def magnitude (t : NumberText) : Nat := foldDigits 0 t.digits.values

def value (t : NumberText) : ℤ := if t.sign = some true then -t.magnitude else t.magnitude

end NumberText

/-- Which numbers an option has, and whether a minus may stand in front. -/
structure NumberRule where
  least : Nat
  greatest : Nat
  minus : Bool
deriving DecidableEq

/-- Whether a text stands for a number that the option has. -/
def NumberRule.Accepts (rule : NumberRule) (s : String) (n : Nat) : Prop :=
  ∃ t : NumberText, s.toList = t.chars ∧ (t.sign = some true → rule.minus = true) ∧
    t.value = n ∧ rule.least ≤ n ∧ n ≤ rule.greatest

namespace Argument

/-- The numbers of an argument, where it has numbers. -/
def numberRule? : Argument → Option NumberRule
  | port | v2Port | v3Port => some ⟨0, 2 ^ 16 - 1, true⟩
  | discoveryTimeout | probeTimeout | maxProbes | shutdownTimeout => some ⟨0, 2 ^ 64 - 1, false⟩
  | lossThreshold => some ⟨1, 2 ^ 64 - 1, false⟩
  | broadcast | message | quietLoss | json | verbose | help | version => none

/-- A value as a number. -/
def number : (a : Argument) → a.Value → Nat
  | port, n | v2Port, n | v3Port, n => UInt16.toNat n
  | discoveryTimeout, n | probeTimeout, n | maxProbes, n | lossThreshold, n | shutdownTimeout, n =>
    UInt64.toNat n
  | broadcast, _ | message, _ | quietLoss, _ | json, _ | verbose, _ | help, _ | version, _ => 0

end Argument

/-! ## Digits -/

section

variable {greatest m : Nat} {overflow : NumberError} {cs : List Char}

/-- Digits are read as their number if it is not too great, and nothing else is. -/
theorem readNumber_eq_ok_iff : readNumber greatest overflow cs = .ok m ↔
    ∃ d : Digits, cs = d.chars ∧ foldDigits 0 d.values = m ∧ m ≤ greatest := by
  unfold readNumber
  split
  · rename_i hempty
    subst hempty
    constructor
    · intro h
      cases h
    · rintro ⟨d, hd, -⟩
      cases hd
  · rename_i hne
    rw [readDigits_eq_ok_iff (Nat.zero_le _)]
    constructor
    · rintro ⟨ds, hds, hvalue, hm⟩
      have hdigit (c : Char) (n : Nat) (hc : digit? c = some n) :
          ∃ d : Fin 10, digitChar d = c ∧ d.val = n := by
        obtain ⟨d, rfl, rfl⟩ := exists_digitChar hc
        exact ⟨d, rfl, rfl⟩
      obtain ⟨l, rfl, rfl⟩ := exists_map_of_values hdigit hds
      obtain ⟨x, l, rfl⟩ := List.exists_cons_of_ne_nil fun hl : l = [] => hne (by rw [hl]; rfl)
      exact ⟨⟨x, l⟩, rfl, hvalue, hm⟩
    · rintro ⟨d, rfl, hvalue, hm⟩
      refine ⟨d.values, ?_, hvalue, hm⟩
      simp [Digits.chars, Digits.values, Function.comp_def]

/-- A number is read, and made into another, from digits that stand for a number within bounds. -/
theorem map_readNumber_eq_ok_iff {f : Nat → ℤ} {z : ℤ} :
    (readNumber greatest overflow cs).map f = .ok z ↔
      ∃ d : Digits, cs = d.chars ∧ f (foldDigits 0 d.values) = z ∧
        foldDigits 0 d.values ≤ greatest := by
  constructor
  · intro h
    cases hread : readNumber greatest overflow cs with
    | error e => simp [hread, Except.map] at h
    | ok m =>
      obtain ⟨d, hd, rfl, hm⟩ := readNumber_eq_ok_iff.mp hread
      rw [hread] at h
      exact ⟨d, hd, Except.ok.inj h, hm⟩
  · rintro ⟨d, hd, rfl, hm⟩
    rw [readNumber_eq_ok_iff.mpr ⟨d, hd, rfl, hm⟩]
    rfl

/-- Digits do not begin with a sign. -/
theorem cons_ne_chars {c : Char} (h : digit? c = none) (d : Digits) : c :: cs ≠ d.chars := by
  intro heq
  obtain ⟨hc, -⟩ := List.cons.inj heq
  rw [hc, digit?_digitChar] at h
  cases h

end

/-! ## The readers -/

section

open NumberText

variable {s cs : List Char} {P : NumberText → Prop}

/-- The first character decides which sign there is. -/
theorem exists_sign (minus : Bool) : (∃ t : NumberText, signChar minus :: cs = t.chars ∧ P t) ↔
    ∃ d : Digits, cs = d.chars ∧ P ⟨some minus, d⟩ := by
  constructor
  · rintro ⟨⟨sign, d⟩, hchars, hP⟩
    -- A text that begins with a sign has this one as its own, for no digit looks like it.
    cases sign with
    | none =>
      have hsign : digit? (signChar minus) = none := by cases minus <;> decide
      exact absurd hchars (cons_ne_chars hsign d)
    | some sign =>
      obtain ⟨hsign, hcs⟩ := List.cons.inj hchars
      obtain rfl : minus = sign := by
        revert hsign
        cases minus <;> cases sign <;> decide
      exact ⟨d, hcs, hP⟩
  · rintro ⟨d, rfl, hP⟩
    exact ⟨⟨some minus, d⟩, rfl, hP⟩

/-- Without a sign there are digits only. -/
theorem exists_plain (hplain : ∀ minus d, s = signChar minus :: d.chars → ¬ P ⟨some minus, d⟩) :
    (∃ t : NumberText, s = t.chars ∧ P t) ↔ ∃ d : Digits, s = d.chars ∧ P ⟨none, d⟩ := by
  constructor
  · rintro ⟨⟨sign, d⟩, hchars, hP⟩
    cases sign with
    | none => exact ⟨d, hchars, hP⟩
    | some minus => exact absurd hP (hplain minus d hchars)
  · rintro ⟨d, rfl, hP⟩
    exact ⟨⟨none, d⟩, rfl, hP⟩

/-- The text of a number is not empty. -/
theorem chars_ne_nil (t : NumberText) : t.chars ≠ [] := by
  obtain ⟨_ | _, d⟩ := t <;> exact List.cons_ne_nil _ _

/-- No number is written without a digit. -/
theorem not_exists_nil {P : NumberText → Prop} : ¬ ∃ t : NumberText, [] = t.chars ∧ P t := by
  rintro ⟨t, ht, -⟩
  exact chars_ne_nil t ht.symm

/-- Numbers without a sign are read from digits, which may have a plus in front. -/
theorem readUnsigned_eq_ok_iff {n : Nat} : readUnsigned s = .ok n ↔
    ∃ t : NumberText, s = t.chars ∧ t.sign ≠ some true ∧ t.magnitude = n ∧ n ≤ maxUnsigned := by
  unfold readUnsigned
  split
  · exact iff_of_false nofun not_exists_nil
  · show _ ↔ ∃ t : NumberText, signChar false :: _ = t.chars ∧ _
    rw [exists_sign, readNumber_eq_ok_iff]
    simp [magnitude]
  · rename_i hplus
    rw [exists_plain, readNumber_eq_ok_iff]
    · simp [magnitude]
    · -- A plus was looked for before, and a minus is ruled out.
      intro minus d hs hminus
      cases minus with
      | false => exact hplus _ hs
      | true => exact hminus.1 rfl

/-- A minus leaves room for one number more. -/
theorem readSigned_eq_ok_iff {z : ℤ} : readSigned s = .ok z ↔
    ∃ t : NumberText, s = t.chars ∧ t.value = z ∧ -(maxSigned + 1) ≤ z ∧ z ≤ maxSigned := by
  -- The bound of the digits is that of the number, on the side of its sign.
  have hpositive (d : Digits) : Int.ofNat (foldDigits 0 d.values) = z ∧
      foldDigits 0 d.values ≤ maxSigned ↔
        (foldDigits 0 d.values : ℤ) = z ∧ -(maxSigned + 1) ≤ z ∧ z ≤ maxSigned := by
    rw [Int.ofNat_eq_natCast]
    omega
  have hnegative (d : Digits) : -(foldDigits 0 d.values : ℤ) = z ∧
      foldDigits 0 d.values ≤ maxSigned + 1 ↔
        -(foldDigits 0 d.values : ℤ) = z ∧ -(maxSigned + 1) ≤ z ∧ z ≤ maxSigned := by
    omega
  unfold readSigned
  split
  · exact iff_of_false nofun not_exists_nil
  · show _ ↔ ∃ t : NumberText, signChar false :: _ = t.chars ∧ _
    rw [exists_sign, map_readNumber_eq_ok_iff]
    simp only [hpositive, value, magnitude, Option.some.injEq, if_false, Bool.false_eq_true]
  · show _ ↔ ∃ t : NumberText, signChar true :: _ = t.chars ∧ _
    rename_i cs
    have hmap : (readSigned ('-' :: cs)) =
        (readNumber (maxSigned + 1) .tooSmall cs).map fun n => -(Int.ofNat n) := by
      simp only [readSigned]
      cases readNumber (maxSigned + 1) .tooSmall cs <;> rfl
    refine Iff.trans (Iff.of_eq (congrArg (· = Except.ok z) hmap)) ?_
    rw [exists_sign, map_readNumber_eq_ok_iff]
    simp only [hnegative, value, magnitude, if_true, Int.ofNat_eq_natCast]
  · rename_i hplus hminus
    rw [exists_plain, map_readNumber_eq_ok_iff]
    · simp only [hpositive, value, magnitude, reduceCtorEq, if_false]
    · intro minus d hs
      cases minus with
      | false => exact absurd hs (hplus _)
      | true => exact absurd hs (hminus _)

end

/-! ## Values -/

/-- What follows can succeed only if what comes first does. -/
theorem exists_ok_of_bind {ε α β : Type} {x : Except ε α} {f : α → Except ε β} {b : β}
    (h : x >>= f = .ok b) : ∃ a, x = .ok a ∧ f a = .ok b := by
  cases x with
  | error e => cases h
  | ok a => exact ⟨a, rfl, h⟩

section

variable {s : String}

/-- Numbers of 64 bits are read by the rule with no lower bound and no minus sign. -/
theorem readWord_eq_ok_iff {n : UInt64} :
    readWord s = .ok n ↔ NumberRule.Accepts ⟨0, 2 ^ 64 - 1, false⟩ s n.toNat := by
  have hlt := n.toNat_lt
  have hword : readWord s = .ok n ↔ readUnsigned s.toList = .ok n.toNat := by
    unfold readWord
    cases hread : readUnsigned s.toList with
    | error e => simp
    | ok m =>
      obtain ⟨-, -, -, -, hm⟩ := readUnsigned_eq_ok_iff.mp hread
      have hlt : m < 2 ^ 64 := by
        unfold maxUnsigned at hm
        omega
      constructor
      · intro h
        rw [← Except.ok.inj h]
        exact congrArg _ (Nat.mod_eq_of_lt hlt).symm
      · intro h
        rw [Except.ok.inj h]
        simp
  rw [hword, readUnsigned_eq_ok_iff]
  -- Without a minus the number is what its digits say.
  apply exists_congr
  intro t
  have hvalue (h : t.sign ≠ some true) : t.value = t.magnitude := if_neg h
  have hmax : maxUnsigned = 2 ^ 64 - 1 := rfl
  constructor
  · rintro ⟨hchars, hsign, hmagnitude, -⟩
    refine ⟨hchars, fun h => absurd h hsign, ?_, Nat.zero_le _, Nat.le_pred_of_lt hlt⟩
    rw [hvalue hsign, hmagnitude]
  · rintro ⟨hchars, hsign, hnumber, -⟩
    have hsign : t.sign ≠ some true := fun h => nomatch hsign h
    rw [hvalue hsign] at hnumber
    exact ⟨hchars, hsign, by omega, by omega⟩

/-- Numbers that have to be positive are read by the same rule from one on. -/
theorem readPositive_eq_ok_iff {n : UInt64} :
    readPositive s = .ok n ↔ NumberRule.Accepts ⟨1, 2 ^ 64 - 1, false⟩ s n.toNat := by
  have hpositive : readPositive s = .ok n ↔ readWord s = .ok n ∧ n ≠ 0 := by
    unfold readPositive
    constructor
    · intro h
      obtain ⟨m, hread, hm⟩ := exists_ok_of_bind h
      split at hm
      · cases hm
      · rename_i hne
        cases hm
        exact ⟨hread, hne⟩
    · rintro ⟨hread, hne⟩
      rw [hread]
      exact if_neg hne
  -- To be positive is to be no zero, so this only raises the lower bound.
  have hzero : n ≠ 0 ↔ 1 ≤ n.toNat := by
    rw [Nat.one_le_iff_ne_zero, Ne, Ne, ← UInt64.toNat_inj]
    rfl
  rw [hpositive, readWord_eq_ok_iff, hzero]
  constructor
  · rintro ⟨⟨t, hchars, hsign, hvalue, -, hle⟩, hone⟩
    exact ⟨t, hchars, hsign, hvalue, hone, hle⟩
  · rintro ⟨t, hchars, hsign, hvalue, hone, hle⟩
    exact ⟨⟨t, hchars, hsign, hvalue, Nat.zero_le _, hle⟩, hone⟩

/-- Ports are read by the rule of 16 bits, which lets a minus stand before a zero. -/
theorem readPort_eq_ok_iff {n : UInt16} :
    readPort s = .ok n ↔ NumberRule.Accepts ⟨0, 2 ^ 16 - 1, true⟩ s n.toNat := by
  have hlt := n.toNat_lt
  have hport : readPort s = .ok n ↔ readSigned s.toList = .ok (n.toNat : ℤ) := by
    unfold readPort
    cases readSigned s.toList with
    | error e => simp
    | ok z =>
      dsimp only
      split
      · rename_i hrange
        -- Within the range of ports nothing is lost by narrowing.
        have hz : (z.toNat.toUInt16.toNat : ℤ) = z := by
          rw [show z.toNat.toUInt16.toNat = z.toNat from Nat.mod_eq_of_lt (by omega)]
          omega
        constructor
        · intro h
          rw [← Except.ok.inj h, hz]
        · intro h
          rw [Except.ok.inj h]
          simp
      · rename_i hrange
        constructor
        · intro h
          cases h
        · intro h
          have hz : z = n.toNat := Except.ok.inj h
          omega
  rw [hport, readSigned_eq_ok_iff]
  apply exists_congr
  intro t
  have hmax : maxSigned = 2 ^ 63 - 1 := rfl
  constructor
  · rintro ⟨hchars, hvalue, -⟩
    exact ⟨hchars, fun _ => rfl, hvalue, Nat.zero_le _, Nat.le_pred_of_lt hlt⟩
  · rintro ⟨hchars, -, hvalue, -⟩
    exact ⟨hchars, hvalue, by omega, by omega⟩

end

namespace Argument

variable {a : Argument} {rule : NumberRule} {s : String}

/-- An argument reads a text as a value exactly if the text stands for this number and the argument
    has it. -/
theorem read_eq_ok_iff (h : a.numberRule? = some rule) {v : a.Value} :
    a.read s = .ok v ↔ rule.Accepts s (a.number v) := by
  cases a <;> cases h
  case port | v2Port | v3Port => exact readPort_eq_ok_iff
  case lossThreshold => exact readPositive_eq_ok_iff
  all_goals exact readWord_eq_ok_iff

/-- An argument has a value for each of its numbers. -/
theorem exists_value (h : a.numberRule? = some rule) {n : Nat} (hn : n ≤ rule.greatest) :
    ∃ v : a.Value, a.number v = n := by
  cases a <;> cases h
  case port | v2Port | v3Port =>
    exact ⟨n.toUInt16, Nat.mod_eq_of_lt (Nat.lt_of_le_pred (by decide) hn)⟩
  all_goals exact ⟨n.toUInt64, Nat.mod_eq_of_lt (Nat.lt_of_le_pred (by decide) hn)⟩

end Argument

end LossProbe.CommandLine
