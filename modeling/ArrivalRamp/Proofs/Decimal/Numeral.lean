import ArrivalRamp.Decimal.Natural
import Mathlib.Tactic

/-!
Numerals are read back as the numbers that they write.
-/

namespace ArrivalRamp.Decimal

theorem isDigit_of_mem_digits {value : ℕ} {digit : Char} (inside : digit ∈ digits value) :
    digit.isDigit :=
  Nat.isDigit_of_mem_toDigits (by decide) (by decide) inside

/-- The value of a numeral in decimal digits is the one that the library reads. -/
theorem ofDigits_eq (numeral : List Char) : ofDigits numeral = Nat.ofDigitChars 10 numeral 0 := by
  rfl

/-- A numeral is read as the number that it writes. -/
theorem ofDigits?_digits (value : ℕ) : ofDigits? (digits value) = some value := by
  have nonempty : digits value ≠ [] := Nat.toDigits_ne_nil
  have all : (digits value).all Char.isDigit := by
    rw [List.all_eq_true]
    intro digit inside
    exact isDigit_of_mem_digits inside
  unfold ofDigits?
  rw [ofDigits_eq, digits, Nat.ofDigitChars_ten_toDigits]
  simp_all [digits]

theorem digitValue_eq_zero_iff {digit : Char} (decimal : digit.isDigit) :
    digitValue digit = 0 ↔ digit = '0' := by
  obtain ⟨above, -⟩ := Bool.and_eq_true_iff.mp decimal
  have low : '0'.toNat ≤ digit.toNat := UInt32.le_iff_toNat_le.mp (of_decide_eq_true above)
  rw [digitValue, Nat.sub_eq_zero_iff_le, ← Char.toNat_inj]
  exact ⟨fun high => le_antisymm high low, le_of_eq⟩

/-- Only zeros write zero. -/
theorem ofDigits_eq_zero_iff {numeral : List Char} (ascii : ∀ digit ∈ numeral, digit.isDigit) :
    ofDigits numeral = 0 ↔ ∀ digit ∈ numeral, digit = '0' := by
  have folded (start : ℕ) :
      numeral.foldl (fun value digit => 10 * value + digitValue digit) start = 0 ↔
        start = 0 ∧ ∀ digit ∈ numeral, digit = '0' := by
    induction numeral generalizing start with
    | nil => simp
    | cons digit digits ih =>
        rw [List.forall_mem_cons] at ascii
        rw [List.foldl_cons, ih ascii.2, List.forall_mem_cons, ← digitValue_eq_zero_iff ascii.1,
          Nat.add_eq_zero_iff, Nat.mul_eq_zero, or_iff_right (by decide), and_assoc]
  exact (folded 0).trans (and_iff_right rfl)

end ArrivalRamp.Decimal
