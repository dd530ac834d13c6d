import ArrivalRamp.Proofs.Binary64.Spacing
import ArrivalRamp.Proofs.Tally.Percentiles

/-!
The rank of a percentage. The shares for whole percentages are not exact and neither is their
product with a number of latencies, but both errors are too small to move the next whole number, as
long as there are less than 2^40 latencies.
-/

namespace ArrivalRamp

namespace Binary64

/-- What exceeds a whole number by less than half a digit is rounded to this number at most. -/
theorem rounded_le_of_le_natCast {number : ℚ} {whole : ℕ} (nonneg : 0 ≤ number)
    (positive : 0 < whole) (fits : whole ≤ 2 ^ 53)
    (near : number ≤ whole + whole / 2 ^ 54) : rounded number ≤ whole := by
  have kept : nearest whole = whole := nearest_natCast fits
  have counted : (0 : ℚ) < whole := by exact_mod_cast positive
  rw [rounded_of_nonneg nonneg]
  rcases le_total number whole with below | above
  · exact (nearest_mono nonneg below).trans_eq kept
  · have log : (whole : ℚ) < 2 ^ (Int.log 2 (whole : ℚ) + 1) := by
      exact_mod_cast Int.lt_zpow_succ_log_self one_lt_two (whole : ℚ)
    have place : (2 : ℚ) ^ (Int.log 2 (whole : ℚ) - 52) ≤ 2 ^ lastPlace whole :=
      zpow_le_zpow_right₀ one_le_two (le_max_left _ _)
    have split : (2 : ℚ) ^ (Int.log 2 (whole : ℚ) + 1) =
        2 ^ 53 * 2 ^ (Int.log 2 (whole : ℚ) - 52) := by
      rw [← zpow_natCast, ← zpow_add₀ two_ne_zero]
      congr 1
      push_cast
      ring
    refine (nearest_eq_of_lt_half counted kept above ?_).le
    rw [split] at log
    linarith

end Binary64

namespace Histogram

open Binary64

/-- A share is that of a whole percentage, up to less than half a digit. -/
structure IsPercent (percent : ℕ) (share : Float) : Prop where
  isShare : IsShare share
  near : IsNear (1 / 2 ^ 54) (percent / 100) (rational share)

namespace IsPercent

variable {percent : ℕ} {share : Float}

theorem of_parts (significand : ℕ) (exponent : ℤ) (isShare : IsShare share)
    (parts : ofFloat share = .finite false significand exponent)
    (near : IsNear (1 / 2 ^ 54) (percent / 100) (significand * 2 ^ exponent)) :
    IsPercent percent share where
  isShare := isShare
  near := by
    rw [rational, parts, value]
    simpa using near

theorem p50 : IsPercent 50 0.5 :=
  .of_parts 4503599627370496 (-53) isShare_p50 rfl (by norm_num [IsNear, abs_le])

theorem p90 : IsPercent 90 0.9 :=
  .of_parts 8106479329266893 (-53) isShare_p90 rfl (by norm_num [IsNear, abs_le])

theorem p95 : IsPercent 95 0.95 :=
  .of_parts 8556839292003942 (-53) isShare_p95 rfl (by norm_num [IsNear, abs_le])

theorem p99 : IsPercent 99 0.99 :=
  .of_parts 8917127262193582 (-53) isShare_p99 rfl (by norm_num [IsNear, abs_le])

theorem le (isPercent : IsPercent percent share) : percent ≤ 100 := by
  have low := isPercent.near.bounds.1
  have high := isPercent.isShare.le
  have counted : (percent : ℚ) ≤ 100 := by linarith
  exact_mod_cast counted

/-- A share of a number of latencies lies between the same whole numbers as the exact one. -/
theorem rounded_mem (isPercent : IsPercent percent share) {count whole : ℕ} (positive : 0 < whole)
    (few : count < 2 ^ 40) (low : 100 * whole ≤ percent * count + 99)
    (high : percent * count ≤ 100 * whole) :
    (whole : ℚ) - 1 < rounded (rational share * count) ∧
      rounded (rational share * count) ≤ whole := by
  have counted : (count : ℚ) < 2 ^ 40 := by exact_mod_cast few
  have percentLe : (percent : ℚ) ≤ 100 := by exact_mod_cast isPercent.le
  have lowQ : (100 * whole : ℚ) ≤ percent * count + 99 := by exact_mod_cast low
  have highQ : (percent * count : ℚ) ≤ 100 * whole := by exact_mod_cast high
  have near := isPercent.near.mul_right (Nat.cast_nonneg (α := ℚ) count)
  have exact : (percent / 100 * count : ℚ) = (percent * count : ℕ) / (100 : ℕ) := by
    push_cast
    ring
  have small : (percent / 100 * count : ℚ) < 2 ^ 40 := by
    calc (percent / 100 * count : ℚ) ≤ 1 * count := by gcongr; linarith
      _ < 2 ^ 40 := by linarith
  have rounding := near.rounded (by norm_num)
    (exact ▸ quotient_eq_zero_or_le (percent * count) (show 0 < 100 by decide) (by decide))
  have step := rounding.bounds.1
  have above := near.bounds.2
  constructor
  · linarith
  · apply rounded_le_of_le_natCast (mul_nonneg isPercent.isShare.nonneg (Nat.cast_nonneg count))
      positive
    · have bound := Nat.mul_le_mul isPercent.le few.le
      omega
    · linarith

/-- The rank of a percentage is the exact one. -/
theorem rank_eq (isPercent : IsPercent percent share) {histogram : Histogram}
    (positive : 0 < percent) (some : 0 < histogram.count) (few : histogram.count < 2 ^ 40) :
    histogram.rank share = (percent * histogram.count + 99) / 100 := by
  obtain ⟨count, countEq⟩ : ∃ count, count = histogram.count := ⟨_, rfl⟩
  obtain ⟨whole, wholeEq⟩ : ∃ whole, whole = (percent * count + 99) / 100 := ⟨_, rfl⟩
  have exact : rational (Word.toFloat count) = count := by
    rw [rational_toFloat (by unfold Word.maxCount; omega), nearest_natCast (by omega)]
  have product : 0 < percent * count := Nat.mul_pos positive (countEq ▸ some)
  have wholePos : 0 < whole := by omega
  obtain ⟨low, high⟩ := isPercent.rounded_mem wholePos (countEq ▸ few) (by omega)
    (show percent * count ≤ 100 * whole by omega)
  rw [histogram.rank_eq isPercent.isShare, ← countEq, exact, ← wholeEq]
  apply le_antisymm
  · exact max_le wholePos (Nat.ceil_le.mpr high)
  · refine le_max_of_le_right ?_
    have before : whole - 1 < ⌈rounded (rational share * count)⌉₊ := by
      rw [Nat.lt_ceil, Nat.cast_sub wholePos, Nat.cast_one]
      exact low
    omega

end IsPercent

end Histogram

end ArrivalRamp
