import ArrivalRamp.Proofs.Binary64.Arithmetic
import ArrivalRamp.Proofs.Binary64.Spacing

/-!
Relative errors. Each rounding adds to them, and sums and products keep them.
-/

namespace ArrivalRamp.Binary64

/-- A number differs from an exact one by no more than a part of it. -/
def IsNear (part exact number : ℚ) : Prop :=
  |number - exact| ≤ part * exact

namespace IsNear

variable {part exact number otherExact other : ℚ}

theorem refl (exact : ℚ) : IsNear 0 exact exact := by
  simp [IsNear]

theorem bounds (near : IsNear part exact number) :
    exact - part * exact ≤ number ∧ number ≤ exact + part * exact := by
  obtain ⟨low, high⟩ := abs_le.mp near
  constructor <;> linarith

theorem add (near : IsNear part exact number) (otherNear : IsNear part otherExact other) :
    IsNear part (exact + otherExact) (number + other) := by
  calc |number + other - (exact + otherExact)|
      = |(number - exact) + (other - otherExact)| := by ring_nf
    _ ≤ |number - exact| + |other - otherExact| := abs_add_le _ _
    _ ≤ part * exact + part * otherExact := add_le_add near otherNear
    _ = part * (exact + otherExact) := (mul_add _ _ _).symm

theorem mul_right (near : IsNear part exact number) {factor : ℚ} (nonneg : 0 ≤ factor) :
    IsNear part (exact * factor) (number * factor) := by
  calc |number * factor - exact * factor| = |number - exact| * factor := by
        rw [← sub_mul, abs_mul, abs_of_nonneg nonneg]
    _ ≤ part * exact * factor := mul_le_mul_of_nonneg_right near nonneg
    _ = part * (exact * factor) := mul_assoc _ _ _

/-- Rounding adds two to the minus 52nd to the part, unless the exact number is very small. -/
theorem rounded (near : IsNear part exact number) (small : part ≤ 1 / 2)
    (normal : exact = 0 ∨ 1 / 2 ^ 60 ≤ exact) :
    IsNear (part + 1 / 2 ^ 52) exact (rounded number) := by
  rcases normal with rfl | large
  · have zero : number = 0 := by simpa [IsNear] using near
    simp [IsNear, zero]
  · obtain ⟨low, high⟩ := near.bounds
    have half := mul_le_mul_of_nonneg_right small (show 0 ≤ exact by linarith)
    have positive : 0 < number := by linarith
    have reached : (2 : ℚ) ^ Int.log 2 number ≤ number := by
      exact_mod_cast Int.zpow_log_le_self (b := 2) one_lt_two positive
    have log : -61 ≤ Int.log 2 number := by
      rw [← Int.zpow_le_iff_le_log one_lt_two positive]
      norm_num
      linarith
    have place : (2 : ℚ) ^ lastPlace number / 2 ≤ number / 2 ^ 53 := by
      have same : lastPlace number = Int.log 2 number - 52 := by
        unfold lastPlace
        omega
      rw [same, zpow_sub₀ two_ne_zero]
      norm_num
      linarith
    have added := nearest_sub_le number
    have lost := sub_nearest_le number
    rw [rounded_of_nonneg positive.le, IsNear, abs_le]
    constructor <;> linarith

end IsNear

/-- A quotient of counts is nothing or not very small. -/
theorem quotient_eq_zero_or_le (count : ℕ) {divisor : ℕ} (positive : 0 < divisor)
    (small : divisor ≤ 2 ^ 60) :
    (count / divisor : ℚ) = 0 ∨ (1 / 2 ^ 60 : ℚ) ≤ count / divisor := by
  rcases Nat.eq_zero_or_pos count with rfl | some
  · left
    simp
  · right
    have numerator : (1 : ℚ) ≤ count := by exact_mod_cast some
    have denominator : (divisor : ℚ) ≤ 2 ^ 60 := by exact_mod_cast small
    have divisorPositive : (0 : ℚ) < divisor := by exact_mod_cast positive
    gcongr

theorem isNear_nearest_natCast (count : ℕ) : IsNear (1 / 2 ^ 52) count (nearest count) := by
  have rounding := (IsNear.refl count).rounded (by norm_num)
    (by simpa using quotient_eq_zero_or_le count (show 0 < 1 by decide) (by decide))
  rwa [zero_add, rounded_of_nonneg (Nat.cast_nonneg _)] at rounding

end ArrivalRamp.Binary64
