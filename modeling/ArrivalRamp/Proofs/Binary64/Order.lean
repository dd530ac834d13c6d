import ArrivalRamp.Decimal.Binary64
import Mathlib

/-!
The order of finite binary64 numbers is the order of the rational numbers that they mean.
-/

namespace ArrivalRamp.Binary64

open Float.Model Float.Model.UnpackedFloat

/-- The rational number that a binary64 number means. What is not finite counts as zero. -/
def value : Binary64 → ℚ
  | .finite negative significand exponent =>
    (if negative then -1 else 1) * (significand * 2 ^ exponent)
  | _ => 0

/-- The rational number that a machine number means. -/
def rational (number : Float) : ℚ :=
  (ofFloat number).value

/-- The rational number that the parts of a machine number mean. -/
def partsValue : UnpackedFloat → ℚ
  | .finite sign significand exponent _ => sign.apply significand * 2 ^ exponent
  | _ => 0

theorem rational_eq (number : Float) : rational number = partsValue number.toModel.unpack := by
  unfold rational ofFloat
  rcases number.toModel.unpack with sign | _ | sign | ⟨sign, significand, exponent, positive⟩
  · cases sign <;> rfl
  · rfl
  · cases sign <;> simp [value, partsValue]
  · cases sign with
    | negative =>
        change -1 * (significand * 2 ^ exponent : ℚ) = ((-significand : ℤ) : ℚ) * 2 ^ exponent
        push_cast
        ring
    | positive =>
        change 1 * (significand * 2 ^ exponent : ℚ) = ((significand : ℤ) : ℚ) * 2 ^ exponent
        push_cast
        ring

/-- A magnitude in its canonical form has at most 53 digits, and fewer only in the last place. -/
structure Canonical (significand : ℕ) (exponent : ℤ) : Prop where
  fits : significand < 2 ^ 53
  low : -1074 ≤ exponent
  full : 2 ^ 52 ≤ significand ∨ exponent = -1074

/-- The parts are those of a machine number, which is canonical and not too great. -/
def IsPacked : UnpackedFloat → Prop
  | .finite _ significand exponent _ => Canonical significand exponent ∧ exponent ≤ 971
  | _ => True

/-- The implicit first digit stands before the stored ones. -/
theorem toNat_implicit (stored : BitVec 52) : (1#1 ++ stored).toNat = 2 ^ 52 + stored.toNat := by
  rw [BitVec.toNat_append, ← Nat.shiftLeft_add_eq_or_of_lt stored.isLt]
  rfl

theorem isPacked_unpack (number : Float.Model) : IsPacked number.unpack := by
  unfold Float.Model.unpack UnpackedFloat.unpack
  have storedBound :
      (@unpackMantissa Format.binary64 number.toBits.toBitVec).toNat < 2 ^ 52 :=
    BitVec.isLt _
  have biasedBound :
      (@unpackExponent Format.binary64 number.toBits.toBitVec).toNat < 2 ^ 11 :=
    BitVec.isLt _
  have bias : ((Format.binary64.exponentBias : ℤ) + (52 : ℕ)) = 1075 := by decide
  dsimp only at *
  split_ifs with maximal zero minimal zero
  · trivial
  · trivial
  · trivial
  · -- A number without the implicit digit stands in the last place.
    rw [minimal]
    exact ⟨⟨by omega, by decide, .inr (by decide)⟩, by decide⟩
  · have implicit :=
      toNat_implicit (@unpackMantissa Format.binary64 number.toBits.toBitVec)
    have above : (@unpackExponent Format.binary64 number.toBits.toBitVec).toNat ≠ 0 :=
      fun none => minimal (BitVec.eq_of_toNat_eq none)
    have below : (@unpackExponent Format.binary64 number.toBits.toBitVec).toNat ≠ 2047 :=
      fun all => maximal (BitVec.eq_of_toNat_eq all)
    refine ⟨⟨lt_of_eq_of_lt implicit (by omega), ?_, .inl (le_of_le_of_eq ?_ implicit.symm)⟩, ?_⟩
    · rw [bias]
      omega
    · omega
    · rw [bias]
      omega

/-- Of two canonical magnitudes, the one with the greater exponent is greater. -/
theorem Canonical.magnitude_lt {left right : ℕ} {leftExponent rightExponent : ℤ}
    (leftCanonical : Canonical left leftExponent) (rightCanonical : Canonical right rightExponent)
    (below : leftExponent < rightExponent) :
    (left * 2 ^ leftExponent : ℚ) < right * 2 ^ rightExponent := by
  have full : 2 ^ 52 ≤ right := by
    have low := leftCanonical.low
    exact rightCanonical.full.resolve_right (by omega)
  calc (left * 2 ^ leftExponent : ℚ) < 2 ^ 53 * 2 ^ leftExponent := by
        gcongr
        exact_mod_cast leftCanonical.fits
    _ = 2 ^ 52 * 2 ^ (leftExponent + 1) := by
        rw [zpow_add₀ two_ne_zero]
        ring
    _ ≤ right * 2 ^ rightExponent := by
        gcongr
        · exact_mod_cast full
        · norm_num
        · omega

/-- Canonical magnitudes compare by exponent and then by significand. -/
theorem Canonical.compare_magnitude {left right : ℕ} {leftExponent rightExponent : ℤ}
    (leftCanonical : Canonical left leftExponent)
    (rightCanonical : Canonical right rightExponent) :
    (compare leftExponent rightExponent).then (compare left right) =
      compare (left * 2 ^ leftExponent : ℚ) (right * 2 ^ rightExponent) := by
  rcases lt_trichotomy leftExponent rightExponent with below | rfl | above
  · rw [compare_lt_iff_lt.mpr below,
      compare_lt_iff_lt.mpr (leftCanonical.magnitude_lt rightCanonical below)]
    rfl
  · have place : (0 : ℚ) < 2 ^ leftExponent := by positivity
    rw [compare_eq_iff_eq.mpr rfl, Ordering.eq_then]
    rcases lt_trichotomy left right with less | rfl | more
    · rw [compare_lt_iff_lt.mpr less, eq_comm, compare_lt_iff_lt]
      gcongr
    · rw [compare_eq_iff_eq.mpr rfl, compare_eq_iff_eq.mpr rfl]
    · rw [compare_gt_iff_gt.mpr more, eq_comm, compare_gt_iff_gt]
      gcongr
  · rw [compare_gt_iff_gt.mpr above,
      compare_gt_iff_gt.mpr (rightCanonical.magnitude_lt leftCanonical above)]
    rfl

theorem partsValue_positive {significand : ℕ} {exponent : ℤ} (positive : 0 < significand) :
    partsValue (.finite .positive significand exponent positive) = significand * 2 ^ exponent := by
  change ((significand : ℤ) : ℚ) * 2 ^ exponent = _
  rw [Int.cast_natCast]

theorem partsValue_pos (exponent : ℤ) {significand : ℕ} (positive : 0 < significand) :
    0 < partsValue (.finite .positive significand exponent positive) := by
  have counted : (0 : ℚ) < significand := by exact_mod_cast positive
  rw [partsValue_positive]
  positivity

theorem partsValue_negative {significand : ℕ} {exponent : ℤ} (positive : 0 < significand) :
    partsValue (.finite .negative significand exponent positive) =
      -partsValue (.finite .positive significand exponent positive) := by
  change ((-significand : ℤ) : ℚ) * 2 ^ exponent = -(((significand : ℤ) : ℚ) * 2 ^ exponent)
  push_cast
  ring

theorem compare_neg (left right : ℚ) :
    compare (-left) (-right) = (compare left right).swap := by
  rcases lt_trichotomy left right with below | rfl | above
  · rw [compare_gt_iff_gt.mpr (neg_lt_neg below), compare_lt_iff_lt.mpr below]
    rfl
  · rw [compare_eq_iff_eq.mpr rfl, compare_eq_iff_eq.mpr rfl]
    rfl
  · rw [compare_lt_iff_lt.mpr (neg_lt_neg above), compare_gt_iff_gt.mpr above]
    rfl

/-- Finite parts compare as the rational numbers that they mean. -/
theorem compare_parts {left right : UnpackedFloat} (leftPacked : IsPacked left)
    (rightPacked : IsPacked right) (leftFinite : left.isFinite)
    (rightFinite : right.isFinite) :
    left.compare right = some (compare (partsValue left) (partsValue right)) := by
  rcases left with _ | _ | leftSign | ⟨leftSign, leftSignificand, leftExponent, leftPositive⟩
  · cases leftFinite
  · cases leftFinite
  · rcases right with _ | _ | rightSign | ⟨rightSign, rightSignificand, rightExponent, rightPositive⟩
    · cases rightFinite
    · cases rightFinite
    · exact congrArg some (compare_eq_iff_eq.mpr rfl).symm
    · have magnitude := partsValue_pos rightExponent rightPositive
      cases rightSign with
      | negative =>
          rw [partsValue_negative]
          exact congrArg some (compare_gt_iff_gt.mpr (neg_lt_zero.mpr magnitude)).symm
      | positive => exact congrArg some (compare_lt_iff_lt.mpr magnitude).symm
  · have magnitude := partsValue_pos leftExponent leftPositive
    rcases right with _ | _ | rightSign | ⟨rightSign, rightSignificand, rightExponent, rightPositive⟩
    · cases rightFinite
    · cases rightFinite
    · cases leftSign with
      | negative =>
          rw [partsValue_negative]
          exact congrArg some (compare_lt_iff_lt.mpr (neg_lt_zero.mpr magnitude)).symm
      | positive => exact congrArg some (compare_gt_iff_gt.mpr magnitude).symm
    · have compared := leftPacked.1.compare_magnitude rightPacked.1
      have rightMagnitude := partsValue_pos rightExponent rightPositive
      cases leftSign <;> cases rightSign
      · rw [partsValue_negative, partsValue_negative, compare_neg, partsValue_positive,
          partsValue_positive, ← compared]
        rfl
      · rw [partsValue_negative]
        exact congrArg some (compare_lt_iff_lt.mpr (by linarith)).symm
      · rw [partsValue_negative]
        exact congrArg some (compare_gt_iff_gt.mpr (by linarith)).symm
      · rw [partsValue_positive, partsValue_positive, ← compared]
        rfl

theorem lt_iff_parts {left right : Float} :
    left < right ↔ left.toModel.unpack.lt right.toModel.unpack = true :=
  decide_eq_true_iff

theorem le_iff_parts {left right : Float} :
    left ≤ right ↔ left.toModel.unpack.le right.toModel.unpack = true :=
  decide_eq_true_iff

/-- Finite machine numbers are in the order of the rational numbers that they mean. -/
theorem rational_lt_iff {left right : Float} (leftFinite : left.isFinite)
    (rightFinite : right.isFinite) : left < right ↔ rational left < rational right := by
  have compared := compare_parts (isPacked_unpack left.toModel) (isPacked_unpack right.toModel)
    leftFinite rightFinite
  rw [lt_iff_parts, rational_eq, rational_eq, ← compare_lt_iff_lt, UnpackedFloat.lt, compared,
    beq_iff_eq, Option.some.injEq]

theorem rational_le_iff {left right : Float} (leftFinite : left.isFinite)
    (rightFinite : right.isFinite) : left ≤ right ↔ rational left ≤ rational right := by
  have compared := compare_parts (isPacked_unpack left.toModel) (isPacked_unpack right.toModel)
    leftFinite rightFinite
  rw [le_iff_parts, rational_eq, rational_eq, ← compare_le_iff_le, UnpackedFloat.le, compared,
    Option.any_some, Ordering.isLE_iff_ne_gt]

/-- Finite machine numbers are equal when the rational numbers that they mean are. -/
theorem rational_beq_iff {left right : Float} (leftFinite : left.isFinite)
    (rightFinite : right.isFinite) : left == right ↔ rational left = rational right := by
  have compared := compare_parts (isPacked_unpack left.toModel) (isPacked_unpack right.toModel)
    leftFinite rightFinite
  change left.toModel.unpack.beq right.toModel.unpack = true ↔ _
  rw [UnpackedFloat.beq, compared, beq_iff_eq, Option.some.injEq, compare_eq_iff_eq, rational_eq,
    rational_eq]

theorem isFinite_zero : (0.0 : Float).isFinite := by
  decide

@[simp]
theorem rational_zero : rational 0.0 = 0 := by
  rw [rational_eq]
  rfl

end ArrivalRamp.Binary64
