import LossProbe.CommandLine.Argument
import LossProbe.Proofs.AddressText

/-!
# Values of options

A run of digits is read as its number exactly if the number is not too great
(`readDigits_eq_ok_iff`), so a number in plain decimal is read back by both readers of numbers
(`readUnsigned_digits`, `readSigned_digits`). Together with the text of addresses this gives one
plain text for each value of each argument (`Argument.plain`), which the argument reads as that
value (`Argument.read_plain`).
-/

namespace LossProbe.CommandLine

open Decimal (digits digit? foldDigits)

/-! ## Runs of digits -/

/-- Digits that follow do not make a number smaller. -/
theorem le_foldDigits (n : Nat) (ds : List Nat) : n ≤ foldDigits n ds := by
  induction ds generalizing n with
  | nil => exact Nat.le_refl n
  | cons d ds ih => exact Nat.le_trans (by omega) (ih (10 * n + d))

/-- Reading goes on to the end if all is digits and the number stays small enough. -/
theorem readDigits_eq_ok_iff {greatest n m : Nat} {overflow : NumberError} {cs : List Char}
    (hn : n ≤ greatest) :
    readDigits greatest overflow n cs = .ok m ↔
      ∃ ds, cs.map digit? = ds.map some ∧ foldDigits n ds = m ∧ m ≤ greatest := by
  induction cs generalizing n with
  | nil =>
    constructor
    · intro h
      obtain rfl := Except.ok.inj h
      exact ⟨[], rfl, rfl, hn⟩
    · rintro ⟨ds, hds, rfl, -⟩
      obtain rfl : ds = [] := by simpa using hds.symm
      rfl
  | cons c cs ih =>
    constructor
    · intro h
      cases hc : digit? c with
      | none => simp [readDigits, hc] at h
      | some d =>
        simp only [readDigits, hc] at h
        split at h
        next hle =>
          obtain ⟨ds, hds, hvalue, hm⟩ := (ih hle).mp h
          exact ⟨d :: ds, by simp [hc, hds], hvalue, hm⟩
        next => cases h
    · rintro ⟨ds, hds, hvalue, hm⟩
      match ds, hds with
      | d :: ds, hds =>
        obtain ⟨hc, hds⟩ := List.cons.inj hds
        -- The number only grows by further digits, so it was not too great before them.
        have hle : 10 * n + d ≤ greatest := by
          have := le_foldDigits (10 * n + d) ds
          have hvalue : foldDigits (10 * n + d) ds = m := hvalue
          omega
        simp only [readDigits, hc, if_pos hle]
        exact (ih hle).mpr ⟨ds, hds, hvalue, hm⟩

/-! ## Plain decimal -/

/-- A digit is read as what it was written for. -/
theorem digit?_natDigitChar {d : Nat} (h : d < 10) : digit? (Nat.digitChar d) = some d := by
  have hall : ∀ d < 10, digit? (Nat.digitChar d) = some d := by decide
  exact hall d h

/-- The digits of a number, as its readers see them. -/
theorem exists_digits (n : Nat) :
    ∃ ds, (digits n).map digit? = ds.map some ∧ foldDigits 0 ds = n := by
  obtain ⟨ds, hchars, hall, hvalue, -⟩ := IpAddr.exists_digitValues (show 1 < 10 by decide) n
  refine ⟨ds, ?_, hvalue⟩
  rw [digits, hchars, List.map_map]
  exact List.map_congr_left fun d hd => digit?_natDigitChar (hall d hd)

/-- The digits of a number within bounds are read as this number. -/
theorem readNumber_digits {greatest n : Nat} (overflow : NumberError) (h : n ≤ greatest) :
    readNumber greatest overflow (digits n) = .ok n := by
  obtain ⟨ds, hds, hvalue⟩ := exists_digits n
  rw [readNumber, if_neg (show digits n ≠ [] from Nat.toDigits_ne_nil)]
  exact (readDigits_eq_ok_iff (Nat.zero_le _)).mpr ⟨ds, hds, hvalue, h⟩

/-- A number in plain decimal begins with a digit, so with no sign. -/
theorem exists_digits_eq_cons (n : Nat) : ∃ c cs, digits n = c :: cs ∧ digit? c ≠ none := by
  obtain ⟨ds, hds, -⟩ := exists_digits n
  match hchars : digits n, ds, hds with
  | [], _, _ => exact absurd hchars Nat.toDigits_ne_nil
  | c :: cs, d :: _, hds => exact ⟨c, cs, rfl, by simp [(List.cons.inj hds).1]⟩

/-- The digits of a number that fits are read as this number without a sign. -/
theorem readUnsigned_digits {n : Nat} (h : n ≤ maxUnsigned) : readUnsigned (digits n) = .ok n := by
  have hread := readNumber_digits .tooLarge h
  -- Written digits start with no sign, so none is taken off.
  obtain ⟨c, cs, hchars, hc⟩ := exists_digits_eq_cons n
  rw [hchars] at hread ⊢
  unfold readUnsigned
  split
  next heq => cases heq
  next heq =>
    cases heq
    exact absurd (by decide) hc
  next => exact hread

/-- The digits of a number that fits are read as this number where a sign is allowed. -/
theorem readSigned_digits {n : Nat} (h : n ≤ maxSigned) : readSigned (digits n) = .ok (n : Int) := by
  have hread := readNumber_digits .tooLarge h
  obtain ⟨c, cs, hchars, hc⟩ := exists_digits_eq_cons n
  rw [hchars] at hread ⊢
  -- The first character is a digit, so neither sign is found.
  unfold readSigned
  split
  next heq => cases heq
  next heq =>
    cases heq
    exact absurd (by decide) hc
  next heq =>
    cases heq
    exact absurd (by decide) hc
  next =>
    rw [hread]
    rfl

/-! ## Values -/

/-- A number of 64 bits is written by its digits. -/
theorem toList_toString_uInt64 (n : UInt64) : (toString n).toList = digits n.toNat := by
  simp [toString, digits]

/-- A number of 16 bits is written by its digits. -/
theorem toList_toString_uInt16 (n : UInt16) : (toString n).toList = digits n.toNat := by
  simp [toString, digits]

/-- A number of 64 bits is read as it is written. -/
theorem readWord_toString (n : UInt64) : readWord (toString n) = .ok n := by
  have hlt := n.toNat_lt
  have hread : readUnsigned (toString n).toList = .ok n.toNat := by
    rw [toList_toString_uInt64]
    exact readUnsigned_digits (by simp only [maxUnsigned]; omega)
  simp [readWord, hread]

/-- A positive number of 64 bits is read as it is written. -/
theorem readPositive_toString {n : UInt64} (h : n ≠ 0) : readPositive (toString n) = .ok n := by
  simp only [readPositive, readWord_toString]
  exact if_neg h

/-- A port is read as it is written. -/
theorem readPort_toString (n : UInt16) : readPort (toString n) = .ok n := by
  have hlt := n.toNat_lt
  have hread : readSigned (toString n).toList = .ok (n.toNat : Int) := by
    rw [toList_toString_uInt16]
    exact readSigned_digits (by simp only [maxSigned]; omega)
  simp only [readPort, hread]
  rw [if_pos (by omega)]
  simp

/-- An address is read as it is written. -/
theorem readAddress_toString (ip : IpAddr) : readAddress (toString ip) = .ok ip := by
  simp [readAddress, IpAddr.parse?_toString]

namespace Argument

/-- The text of a value: decimals and addresses as they are printed, a message as it is. -/
def plain : (a : Argument) → a.Value → String
  | broadcast, ip => toString ip
  | port, n | v2Port, n | v3Port, n => toString (n : UInt16)
  | discoveryTimeout, n | probeTimeout, n | maxProbes, n | lossThreshold, n | shutdownTimeout, n =>
    toString (n : UInt64)
  | message, m => m
  | quietLoss, _ | json, _ | verbose, _ | help, _ | version, _ => ""

/-- Which values an argument can have. -/
def Allows : (a : Argument) → a.Value → Prop
  | lossThreshold, n => n ≠ (0 : UInt64)
  | _, _ => True

/-- The plain text of a value is read as this value. -/
theorem read_plain {a : Argument} {v : a.Value} (h : a.Allows v) : a.read (a.plain v) = .ok v := by
  cases a with
  | broadcast => exact readAddress_toString v
  | port => exact readPort_toString v
  | v2Port => exact readPort_toString v
  | v3Port => exact readPort_toString v
  | discoveryTimeout => exact readWord_toString v
  | probeTimeout => exact readWord_toString v
  | maxProbes => exact readWord_toString v
  | shutdownTimeout => exact readWord_toString v
  | lossThreshold => exact readPositive_toString h
  | message | quietLoss | json | verbose | help | version => rfl

/-- The plain text of a value begins with a digit, a colon or a dot, but for messages, which can
be anything. -/
theorem isTextChar_of_head?_plain {a : Argument} (ha : a ≠ .message) {v : a.Value} {c : Char}
    (hc : (a.plain v).toList.head? = some c) : IpAddr.IsTextChar c := by
  have hdigits {n : Nat} (h : c ∈ digits n) : IpAddr.IsTextChar c :=
    IpAddr.isTextChar_of_mem_toDigits (by decide) (by decide) h
  have hmem := List.mem_of_head? hc
  -- The values are addresses and numbers, but for the message, which may be any text.
  cases a with
  | broadcast => exact IpAddr.isTextChar_of_mem_chars (by simpa [plain, toString] using hmem)
  | port | v2Port | v3Port =>
    simp only [plain, toList_toString_uInt16] at hmem
    exact hdigits hmem
  | discoveryTimeout | probeTimeout | maxProbes | lossThreshold | shutdownTimeout =>
    simp only [plain, toList_toString_uInt64] at hmem
    exact hdigits hmem
  | message => exact absurd rfl ha
  | quietLoss | json | verbose | help | version => simp [plain] at hmem

end Argument
end LossProbe.CommandLine
