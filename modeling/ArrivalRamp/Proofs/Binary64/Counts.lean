import ArrivalRamp.Proofs.Binary64.Rounding
import ArrivalRamp.Word

/-!
The machine number of a count is the count rounded to nearest.
-/

namespace ArrivalRamp.Binary64

open Float.Model Float.Model.UnpackedFloat

@[simp]
theorem nearest_zero : nearest 0 = 0 := by
  simp [nearest, roundEven]

/-- Counts up to the power of two beyond the significands are not rounded. -/
theorem nearest_natCast {count : ℕ} (small : count ≤ 2 ^ 53) : nearest count = count := by
  rcases small.lt_or_eq with fits | rfl
  · simpa using nearest_eq_of_fits fits (show -1074 ≤ (0 : ℤ) by decide)
  · have shifted := nearest_eq_of_fits (show 2 ^ 52 < 2 ^ 53 by decide)
      (show -1074 ≤ (1 : ℤ) by decide)
    norm_num at shifted ⊢
    exact shifted

theorem nearest_natCast_mono {left right : ℕ} (ordered : left ≤ right) :
    nearest left ≤ nearest right :=
  nearest_mono left.cast_nonneg (by exact_mod_cast ordered)

/-- A count is converted by rounding. -/
theorem isRounding_ofNat (count : ℕ) :
    IsRounding .positive count (UnpackedFloat.ofNat Format.binary64 count) := by
  unfold UnpackedFloat.ofNat UnpackedFloat.ofInt UnpackedFloat.normalize
  rcases Nat.eq_zero_or_pos count with rfl | positive
  · exact ⟨rfl, by simp⟩
  · rw [compare_gt_iff_gt.mpr (by exact_mod_cast positive)]
    simpa using round_spec .positive positive 0

theorem nearest_count_lt_bound {count : ℕ} (word : count ≤ Word.maxCount) :
    nearest count < bound := by
  have top : nearest (2 ^ 64 : ℕ) = (2 ^ 64 : ℕ) := by
    have shifted := nearest_eq_of_fits (show 2 ^ 52 < 2 ^ 53 by decide)
      (show -1074 ≤ (12 : ℤ) by decide)
    norm_num at shifted ⊢
    exact shifted
  calc nearest count ≤ nearest (2 ^ 64 : ℕ) :=
        nearest_natCast_mono (word.trans (by decide))
    _ = (2 ^ 64 : ℕ) := top
    _ < bound := by
        rw [bound, Nat.cast_pow, Nat.cast_ofNat, ← zpow_natCast]
        exact zpow_lt_zpow_right₀ one_lt_two (by decide)

theorem toFloat_eq {count : ℕ} (word : count ≤ Word.maxCount) :
    Word.toFloat count =
      Float.ofModel (Float.Model.pack (UnpackedFloat.ofNat Format.binary64 count)) := by
  have same : (UInt64.ofNat count).toNat = count := by
    rw [UInt64.toNat_ofNat']
    exact Nat.mod_eq_of_lt (word.trans_lt (by decide))
  conv_rhs => rw [← same]
  rfl

theorem isFinite_toFloat {count : ℕ} (word : count ≤ Word.maxCount) :
    (Word.toFloat count).isFinite := by
  rw [toFloat_eq word]
  exact (isRounding_ofNat count).isFinite (nearest_count_lt_bound word)

/-- The machine number of a count means the count rounded to nearest. -/
theorem rational_toFloat {count : ℕ} (word : count ≤ Word.maxCount) :
    rational (Word.toFloat count) = nearest count := by
  have finite := isFinite_toFloat word
  rw [toFloat_eq word] at finite ⊢
  simpa [Sign.apply] using (isRounding_ofNat count).rational_eq finite

theorem rational_toFloat_of_fits {count : ℕ} (fits : count ≤ 2 ^ 53) :
    rational (Word.toFloat count) = count := by
  rw [rational_toFloat (fits.trans (by decide)), nearest_natCast fits]

@[simp]
theorem toFloat_zero : Word.toFloat 0 = 0.0 := by
  decide

theorem toFloat_le_toFloat {left right : ℕ} (ordered : left ≤ right)
    (word : right ≤ Word.maxCount) : Word.toFloat left ≤ Word.toFloat right := by
  have leftWord := ordered.trans word
  rw [rational_le_iff (isFinite_toFloat leftWord) (isFinite_toFloat word),
    rational_toFloat leftWord, rational_toFloat word]
  exact nearest_natCast_mono ordered

theorem toFloat_pos {count : ℕ} (positive : 0 < count) (word : count ≤ Word.maxCount) :
    0.0 < Word.toFloat count := by
  rw [rational_lt_iff isFinite_zero (isFinite_toFloat word), rational_zero, rational_toFloat word]
  have one : nearest (1 : ℕ) = (1 : ℕ) := nearest_natCast (by decide)
  calc (0 : ℚ) < (1 : ℕ) := by norm_num
    _ = nearest (1 : ℕ) := one.symm
    _ ≤ nearest count := nearest_natCast_mono positive

/-- A finite number is not below a count when the count is at most the number. -/
theorem not_lt_toFloat_iff {number : Float} (finite : number.isFinite) {count : ℕ}
    (word : count ≤ Word.maxCount) :
    ¬number < Word.toFloat count ↔ Word.toFloat count ≤ number := by
  rw [rational_lt_iff finite (isFinite_toFloat word), rational_le_iff (isFinite_toFloat word) finite,
    not_lt]

theorem low_le_lastPlace {significand : ℕ} {exponent : ℤ} (positive : 0 < significand) :
    exponent - 52 ≤ lastPlace (significand * 2 ^ exponent) := by
  rw [lastPlace_eq positive, targetExponent_eq]
  omega

theorem mul_zpow_mul_zpow (left right : ℕ) (leftExponent rightExponent : ℤ) :
    (left * 2 ^ leftExponent * (right * 2 ^ rightExponent) : ℚ) =
      (left * right : ℕ) * 2 ^ (leftExponent + rightExponent) := by
  rw [zpow_add₀ two_ne_zero, Nat.cast_mul, mul_mul_mul_comm]

/-- A product is rounded, as long as no digit stands above the last place. -/
theorem isRounding_mul (leftSign rightSign : Sign) {left right : ℕ} {leftExponent rightExponent : ℤ}
    (leftPositive : 0 < left) (rightPositive : 0 < right)
    (low : leftExponent + rightExponent ≤
      lastPlace (left * 2 ^ leftExponent * (right * 2 ^ rightExponent))) :
    IsRounding (leftSign * rightSign) (left * 2 ^ leftExponent * (right * 2 ^ rightExponent))
      (UnpackedFloat.mul Format.binary64
        (.finite leftSign left leftExponent leftPositive)
        (.finite rightSign right rightExponent rightPositive)) := by
  rw [mul_zpow_mul_zpow] at low ⊢
  exact roundWithAccuracy_spec (leftSign * rightSign) (Nat.mul_pos leftPositive rightPositive) low

/-- A count whose significand fits is converted by a product with one. -/
theorem isRounding_ofNat_mul_one {count : ℕ} (small : count < 2 ^ 53) :
    IsRounding .positive count
      (UnpackedFloat.mul Format.binary64 (UnpackedFloat.ofNat Format.binary64 count)
        (.finite .positive (2 ^ 52) (-52) (by decide))) := by
  have rounding := isRounding_ofNat count
  have exact := nearest_natCast small.le
  generalize UnpackedFloat.ofNat Format.binary64 count = parts at *
  rcases parts with _ | _ | sign | ⟨sign, significand, exponent, positive⟩
  · exact rounding.elim
  · exact rounding.elim
  · obtain ⟨rfl, same⟩ := rounding
    exact ⟨rfl, same⟩
  · obtain ⟨rfl, canonical, same⟩ := rounding
    have one : (significand * 2 ^ exponent * ((2 ^ 52 : ℕ) * 2 ^ (-52 : ℤ)) : ℚ) = count := by
      rw [same, exact]
      norm_num
    rw [← one]
    apply isRounding_mul .positive .positive
    rw [one, ← exact, ← same]
    exact low_le_lastPlace positive

/-- A count whose significand does not fit is converted from its multiple by a power of two. -/
theorem isRounding_shifted_mul_one {count shifted : ℕ} (large : 2 ^ 53 ≤ count)
    (same : shifted = count * 2 ^ 53) (positive : 0 < shifted) :
    IsRounding .positive count
      (UnpackedFloat.mul Format.binary64 (.finite .positive shifted (-53) positive)
        (.finite .positive 1 0 Nat.one_pos)) := by
  have scaled : (shifted * 2 ^ (-53 : ℤ) * ((1 : ℕ) * 2 ^ (0 : ℤ)) : ℚ) = count := by
    rw [same]
    push_cast
    norm_num [mul_assoc]
  have place := lastPlace_eq (show 0 < count by omega) 0
  rw [zpow_zero, mul_one, targetExponent_eq] at place
  rw [← scaled]
  apply isRounding_mul .positive .positive
  rw [scaled]
  omega

theorem finite_congr (sign : Sign) (exponent : ℤ) {left right : ℕ} (same : left = right)
    (leftPositive : 0 < left) (rightPositive : 0 < right) :
    UnpackedFloat.finite sign left exponent leftPositive =
      .finite sign right exponent rightPositive := by
  subst same
  rfl

/-- A natural number of any size is converted by rounding. -/
theorem exists_isRounding_ofNat (count : ℕ) :
    ∃ parts, IsRounding .positive count parts ∧
      Float.ofNat count = Float.ofModel (Float.Model.pack parts) := by
  by_cases small : count < 2 ^ 53
  · have word : count ≤ Word.maxCount := small.le.trans (by decide)
    have unpacked := unpack_pack ((isRounding_ofNat count).isPacked (nearest_count_lt_bound word))
    have product : Float.ofNat count = Word.toFloat count * 1.0 := by
      change Float.ofScientific count false 0 = _
      unfold Float.ofScientific
      rw [dif_pos ⟨small, by decide⟩]
      rfl
    refine ⟨_, isRounding_ofNat_mul_one small, ?_⟩
    rw [product, toFloat_eq word]
    change Float.ofModel (Float.Model.pack (UnpackedFloat.mul Format.binary64
      (Float.Model.pack (UnpackedFloat.ofNat Format.binary64 count)).unpack
      (.finite .positive (2 ^ 52) (-52) _))) = _
    rw [unpacked]
  · obtain ⟨shifted, shiftedEq⟩ : ∃ shifted, shifted = count <<< 53 := ⟨_, rfl⟩
    have same : shifted = count * 2 ^ 53 := shiftedEq.trans (Nat.shiftLeft_eq count 53)
    have positive : 0 < shifted := by omega
    refine ⟨_, isRounding_shifted_mul_one (not_lt.mp small) same positive, ?_⟩
    change Float.ofScientific count false 0 = _
    unfold Float.ofScientific
    rw [dif_neg (by omega)]
    change Float.ofModel (Float.Model.pack
      (UnpackedFloat.ofScientific Format.binary64 count 0)) = _
    have digits : ¬(0 : ℤ) < -((2 ^ 11 : ℤ) + count.log2) := by omega
    unfold UnpackedFloat.ofScientific
    rw [dif_neg (by omega), if_neg (by decide), if_neg digits, if_pos (by decide)]
    have parts := finite_congr .positive (-53) shiftedEq.symm (shiftedEq ▸ positive) positive
    exact congrArg (fun parts => Float.ofModel (Float.Model.pack (UnpackedFloat.mul
      Format.binary64 parts (.finite .positive 1 0 Nat.one_pos)))) parts

/-- A natural number is converted to the nearest machine number, or to an infinite one. -/
theorem rational_ofNat {count : ℕ} (finite : (Float.ofNat count).isFinite) :
    rational (Float.ofNat count) = nearest count := by
  obtain ⟨parts, rounding, converted⟩ := exists_isRounding_ofNat count
  rw [converted] at finite ⊢
  simpa [Sign.apply] using rounding.rational_eq finite

theorem isFinite_ofNat {count : ℕ} (word : count ≤ Word.maxCount) :
    (Float.ofNat count).isFinite := by
  obtain ⟨parts, rounding, converted⟩ := exists_isRounding_ofNat count
  rw [converted]
  exact rounding.isFinite (nearest_count_lt_bound word)

theorem isFinite_one : (1 : Float).isFinite := by
  decide

@[simp]
theorem rational_one : rational 1 = 1 := by
  have counted := rational_ofNat isFinite_one
  rw [nearest_natCast (by decide)] at counted
  exact counted.trans Nat.cast_one

end ArrivalRamp.Binary64
