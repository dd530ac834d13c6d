import ArrivalRamp.Decimal.Binary64
import Mathlib.Algebra.Order.Floor.Semifield
import Mathlib.Data.Rat.Floor
import Mathlib.Tactic

/-!
The whole number nearest to a magnitude. Of two that are equally near, it is the greater one.
-/

namespace ArrivalRamp.Binary64

theorem roundDiv_away (numerator : ℕ) {denominator : ℕ} (positive : 0 < denominator) :
    roundDiv .away numerator denominator = (2 * numerator + denominator) / (2 * denominator) := by
  have parts := Nat.div_add_mod numerator denominator
  have rest := Nat.mod_lt numerator positive
  unfold roundDiv
  dsimp only
  generalize numerator / denominator = quotient at *
  generalize numerator % denominator = remainder at *
  obtain rfl := parts
  have split : 2 * (denominator * quotient + remainder) + denominator =
      2 * remainder + denominator + 2 * denominator * quotient := by ring
  rw [split, Nat.add_mul_div_left _ _ (by omega)]
  split_ifs with below above
  · rw [Nat.div_eq_of_lt (by omega), Nat.zero_add]
  · rw [Nat.div_eq_of_lt_le (k := 1) (by omega) (by omega), Nat.add_comm]
  · rw [Nat.div_eq_of_lt_le (k := 1) (by omega) (by omega), Nat.add_comm]

/-- A magnitude is the quotient of two natural numbers. -/
theorem numerator_div_scale (significand : ℕ) (exponent : ℤ) :
    (numerator significand exponent / scale exponent : ℚ) = significand * 2 ^ exponent := by
  unfold numerator scale
  rcases le_total 0 exponent with whole | fraction
  · obtain ⟨places, rfl⟩ := Int.eq_ofNat_of_zero_le whole
    have none : (-(places : ℤ)).toNat = 0 := by omega
    rw [none]
    simp
  · obtain ⟨places, rfl⟩ : ∃ places : ℕ, exponent = -places := ⟨(-exponent).toNat, by omega⟩
    have none : (-(places : ℤ)).toNat = 0 := by omega
    rw [none, neg_neg]
    simp [div_eq_mul_inv]

/-- Rounding a magnitude adds one half and takes the whole part. -/
theorem roundMagnitude_eq (significand : ℕ) (exponent : ℤ) :
    roundMagnitude significand exponent = ⌊(significand * 2 ^ exponent + 1 / 2 : ℚ)⌋₊ := by
  have positive : 0 < scale exponent := Nat.two_pow_pos _
  have counted : (scale exponent : ℚ) ≠ 0 := by exact_mod_cast positive.ne'
  have quotient : (significand * 2 ^ exponent + 1 / 2 : ℚ) =
      (2 * numerator significand exponent + scale exponent : ℕ) / (2 * scale exponent : ℕ) := by
    rw [← numerator_div_scale]
    push_cast
    field_simp
  rw [quotient, Nat.floor_div_eq_div]
  exact roundDiv_away _ positive

end ArrivalRamp.Binary64
