import ArrivalRamp.Proofs.Binary64.Counts
import ArrivalRamp.Proofs.Binary64.Whole

/-!
Numbers without their fraction, as words of 32 bits.
-/

namespace ArrivalRamp.Binary64

open Float.Model

/-- A number that is not finite is not the same as one that is. -/
theorem beq_eq_false {number other : Float} (infinite : ¬number.isFinite)
    (finite : other.isFinite) : (number == other) = false := by
  change number.toModel.unpack.beq other.toModel.unpack = false
  replace infinite : ¬number.toModel.unpack.isFinite := infinite
  replace finite : other.toModel.unpack.isFinite := finite
  generalize number.toModel.unpack = parts at *
  generalize other.toModel.unpack = others at *
  cases parts with
  | infinity sign => cases sign <;> cases others <;> first | rfl | cases finite
  | notANumber => cases others <;> rfl
  | zero sign => exact absurd rfl infinite
  | finite sign significand exponent positive => exact absurd rfl infinite

theorem not_isWhole {number : Float} (infinite : ¬number.isFinite) : ¬isWhole number := by
  replace infinite : ¬number.toModel.unpack.isFinite := infinite
  unfold isWhole ofFloat
  generalize number.toModel.unpack = parts at *
  cases parts with
  | infinity sign => cases sign <;> exact Bool.false_ne_true
  | notANumber => exact Bool.false_ne_true
  | zero sign => exact absurd rfl infinite
  | finite sign significand exponent positive => exact absurd rfl infinite

/-- A magnitude is a count when nothing is left of its quotient. -/
theorem magnitude_eq_natCast_iff (significand : ℕ) (exponent : ℤ) (count : ℕ) :
    (significand * 2 ^ exponent : ℚ) = count ↔
      numerator significand exponent % scale exponent = 0 ∧
        numerator significand exponent / scale exponent = count := by
  have positive : 0 < scale exponent := Nat.two_pow_pos _
  rw [← numerator_div_scale, div_eq_iff (by exact_mod_cast positive.ne')]
  norm_cast
  constructor
  · intro same
    rw [same]
    exact ⟨Nat.mul_mod_left _ _, Nat.mul_div_cancel _ positive⟩
  · rintro ⟨whole, rfl⟩
    exact (Nat.div_mul_cancel (Nat.dvd_of_mod_eq_zero whole)).symm

/-- A number is the same as a positive count when it has no fraction and its word is the count. -/
theorem beq_toFloat_iff {number : Float} {count : ℕ} (positive : 0 < count)
    (small : count < maxWord32) :
    number == Word.toFloat count ↔ isWhole number ∧ toWord32 number = count := by
  have fits : count ≤ 2 ^ 53 := small.le.trans (by decide)
  have counted : (Word.toFloat count).isFinite := isFinite_toFloat (fits.trans (by decide))
  by_cases finite : number.isFinite
  · rw [rational_beq_iff finite counted, rational_toFloat_of_fits fits, rational, isWhole, toWord32]
    have above : (0 : ℚ) < count := by exact_mod_cast positive
    rcases ofFloat number with _ | sign | ⟨_ | _, significand, exponent⟩
    · simp [value, above.ne]
    · simp [value, above.ne]
    · simp only [value, Bool.false_eq_true, if_false, one_mul, decide_eq_true_eq]
      rw [magnitude_eq_natCast_iff]
      omega
    · have below : (0 : ℚ) ≤ significand * 2 ^ exponent := by positivity
      have negative : -(significand * 2 ^ exponent : ℚ) ≠ count := by linarith
      simp [value, positive.ne, negative]
  · simp [beq_eq_false finite counted, not_isWhole finite]

end ArrivalRamp.Binary64
