import ArrivalRamp.Proofs.Decimal.Numeral

/-!
Numerals that are filled with zeros, digit by digit.
-/

namespace ArrivalRamp.Decimal

theorem digitValue_digitChar {value : ℕ} (small : value < 10) :
    digitValue value.digitChar = value := by
  unfold digitValue
  rw [Nat.toNat_digitChar_of_lt_ten small]
  exact Nat.add_sub_cancel_left 48 value

theorem isDigit_digitChar {value : ℕ} (small : value < 10) : value.digitChar.isDigit := by
  rw [Nat.isDigit_digitChar]
  exact decide_eq_true small

theorem isDigit_of_mem_padded {width value : ℕ} {digit : Char}
    (inside : digit ∈ padded width value) : digit.isDigit := by
  rcases List.mem_append.mp inside with zero | own
  · rw [List.eq_of_mem_replicate zero]
    rfl
  · exact isDigit_of_mem_digits own

/-- Zeros on the left do not count. -/
theorem ofDigits_padded (width value : ℕ) : ofDigits (padded width value) = value := by
  rw [ofDigits_eq, padded, Nat.ofDigitChars_append, Nat.ofDigitChars_replicate_zero, Nat.mul_zero]
  exact Nat.ofDigitChars_ten_toDigits

theorem le_length_padded (width value : ℕ) : width ≤ (padded width value).length := by
  unfold padded
  dsimp only
  rw [List.length_append, List.length_replicate]
  omega

theorem length_padded {width value : ℕ} (small : value < 10 ^ (width + 1)) :
    (padded (width + 1) value).length = width + 1 := by
  have fits : (digits value).length ≤ width + 1 :=
    (Nat.length_toDigits_le_iff (by decide) width.succ_pos).mpr small
  unfold padded
  dsimp only
  rw [List.length_append, List.length_replicate]
  omega

/-- The last digit of a numeral stands behind the numeral of the others. -/
theorem padded_add_two (width value : ℕ) :
    padded (width + 2) value = padded (width + 1) (value / 10) ++ [(value % 10).digitChar] := by
  unfold padded digits
  dsimp only
  rcases Nat.lt_or_ge value 10 with small | large
  · rw [Nat.toDigits_of_lt_base small, Nat.div_eq_of_lt small, Nat.mod_eq_of_lt small,
      Nat.toDigits_of_lt_base (by decide)]
    simp [List.replicate_succ']
  · rw [Nat.toDigits_of_base_le (by decide) large, List.length_append, List.length_singleton,
      show width + 2 = width + 1 + 1 from rfl, Nat.add_sub_add_right, List.append_assoc]

theorem padded_two {value : ℕ} (small : value < 100) :
    padded 2 value = [(value / 10).digitChar, (value % 10).digitChar] := by
  have first : value / 10 < 10 := by omega
  rw [padded_add_two 0 value]
  unfold padded digits
  rw [Nat.toDigits_of_lt_base first]
  rfl

/-- A numeral of four digits is that of the hundreds before that of the rest. -/
theorem padded_four {value : ℕ} (small : value < 10000) :
    padded 4 value = padded 2 (value / 100) ++ padded 2 (value % 100) := by
  have hundreds : value / 100 < 100 := by omega
  have tens : value / 10 / 10 = value / 100 := Nat.div_div_eq_div_mul value 10 10
  have third : value / 10 % 10 = value % 100 / 10 := by omega
  have last : value % 10 = value % 100 % 10 := by omega
  rw [padded_add_two 2 value, padded_add_two 1 (value / 10), tens, third, last,
    padded_two (Nat.mod_lt value (by decide)), List.append_assoc]
  rfl

end ArrivalRamp.Decimal
