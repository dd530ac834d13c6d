import ArrivalRamp.Proofs.Binary64.Counts

/-!
Machine arithmetic. The sum, the difference, the product and the quotient of two finite machine
numbers are the exact ones rounded to nearest.
-/

namespace ArrivalRamp.Binary64

open Float.Model Float.Model.UnpackedFloat

section SignedRounding

/-- A number of either sign rounded to nearest. -/
def rounded (number : ℚ) : ℚ :=
  if number < 0 then -nearest (-number) else nearest number

variable {number left right : ℚ}

theorem rounded_of_nonneg (nonneg : 0 ≤ number) : rounded number = nearest number :=
  if_neg (not_lt.mpr nonneg)

theorem rounded_natCast {count : ℕ} (fits : count ≤ 2 ^ 53) : rounded count = count := by
  rw [rounded_of_nonneg count.cast_nonneg, nearest_natCast fits]

@[simp]
theorem rounded_zero : rounded 0 = 0 :=
  (rounded_of_nonneg le_rfl).trans nearest_zero

@[simp]
theorem rounded_neg (number : ℚ) : rounded (-number) = -rounded number := by
  unfold rounded
  rcases lt_trichotomy number 0 with negative | rfl | positive
  · rw [if_neg (by linarith), if_pos negative, neg_neg]
  · simp
  · rw [if_pos (by linarith), if_neg (by linarith), neg_neg]

theorem rounded_nonneg (nonneg : 0 ≤ number) : 0 ≤ rounded number := by
  rw [rounded_of_nonneg nonneg]
  exact nearest_nonneg nonneg

theorem rounded_mono : Monotone rounded := by
  intro left right ordered
  rcases lt_or_ge left 0 with leftNegative | leftNonneg
  · rcases lt_or_ge right 0 with rightNegative | rightNonneg
    · rw [rounded, rounded, if_pos leftNegative, if_pos rightNegative, neg_le_neg_iff]
      exact nearest_mono (by linarith) (by linarith)
    · have magnitude := nearest_nonneg (neg_nonneg.mpr leftNegative.le)
      rw [rounded, if_pos leftNegative]
      linarith [rounded_nonneg rightNonneg]
  · rw [rounded_of_nonneg leftNonneg, rounded_of_nonneg (leftNonneg.trans ordered)]
    exact nearest_mono leftNonneg ordered

theorem rounded_two_zpow {exponent : ℤ} (low : -1074 ≤ exponent) :
    rounded (2 ^ exponent) = 2 ^ exponent := by
  have kept := nearest_eq_of_fits (show 1 < 2 ^ 53 by decide) low
  rw [Nat.cast_one, one_mul] at kept
  rw [rounded_of_nonneg (by positivity), kept]

theorem rounded_one : rounded 1 = 1 :=
  rounded_two_zpow (show -1074 ≤ (0 : ℤ) by decide)

/-- Rounding does not leave an interval whose ends it keeps. -/
theorem rounded_mem_Icc {low high : ℚ} (lowKept : rounded low = low) (highKept : rounded high = high)
    (inside : number ∈ Set.Icc low high) : rounded number ∈ Set.Icc low high :=
  ⟨lowKept.symm.trans_le (rounded_mono inside.1), (rounded_mono inside.2).trans_eq highKept⟩

theorem abs_rounded_le {limit : ℚ} (kept : rounded limit = limit) (small : |number| ≤ limit) :
    |rounded number| ≤ limit :=
  abs_le.mpr (rounded_mem_Icc (by rw [rounded_neg, kept]) kept (abs_le.mp small))

/-- Numbers up to a power of two that is finite are rounded to finite ones. -/
theorem abs_rounded_lt_bound (exponent : ℕ) (small : |number| ≤ 2 ^ exponent)
    (bounded : exponent < 1024) : |rounded number| < bound := by
  have kept := rounded_two_zpow (show -1074 ≤ (exponent : ℤ) by omega)
  rw [zpow_natCast] at kept
  calc |rounded number| ≤ 2 ^ exponent := abs_rounded_le kept small
    _ < bound := by
        rw [bound, ← zpow_natCast]
        exact zpow_lt_zpow_right₀ one_lt_two (by exact_mod_cast bounded)

theorem rounded_signed (sign : Sign) (nonneg : 0 ≤ number) :
    rounded (sign.apply 1 * number) = sign.apply 1 * nearest number := by
  cases sign <;> simp [Sign.apply, rounded_of_nonneg nonneg]

end SignedRounding

theorem partsValue_finite (sign : Sign) {significand : ℕ} (exponent : ℤ)
    (positive : 0 < significand) :
    partsValue (.finite sign significand exponent positive) =
      sign.apply 1 * (significand * 2 ^ exponent) := by
  cases sign <;> simp [partsValue, Sign.apply]

/-- The parts are those of a number rounded to nearest. The sign of a zero does not matter. -/
def IsRounded (number : ℚ) : UnpackedFloat → Prop
  | .zero _ => rounded number = 0
  | .finite sign significand exponent _ =>
    Canonical significand exponent ∧ sign.apply significand * 2 ^ exponent = rounded number
  | _ => False

variable {number : ℚ} {parts left right : UnpackedFloat}

theorem IsRounding.isRounded {sign : Sign} {magnitude : ℚ} (nonneg : 0 ≤ magnitude)
    (rounding : IsRounding sign magnitude parts) :
    IsRounded (sign.apply 1 * magnitude) parts := by
  have same := rounded_signed sign nonneg
  rcases parts with _ | _ | other | ⟨other, significand, exponent, positive⟩
  · exact rounding.elim
  · exact rounding.elim
  · rw [IsRounded, same, rounding.2, mul_zero]
  · obtain ⟨rfl, canonical, value⟩ := rounding
    refine ⟨canonical, ?_⟩
    rw [same, ← value]
    cases other <;> simp [Sign.apply]

namespace IsRounded

theorem parts_isFinite (isRounded : IsRounded number parts) : parts.isFinite := by
  rcases parts with _ | _ | _ | _
  · exact isRounded.elim
  · exact isRounded.elim
  · rfl
  · rfl

theorem partsValue_eq (isRounded : IsRounded number parts) : partsValue parts = rounded number := by
  rcases parts with _ | _ | _ | _
  · exact isRounded.elim
  · exact isRounded.elim
  · exact isRounded.symm
  · exact isRounded.2

theorem isPacked (isRounded : IsRounded number parts) (small : |rounded number| < bound) :
    IsPacked parts := by
  rcases parts with _ | _ | _ | ⟨sign, significand, exponent, positive⟩
  · trivial
  · trivial
  · trivial
  · obtain ⟨canonical, same⟩ := isRounded
    refine ⟨canonical, ?_⟩
    by_contra great
    have magnitude : |rounded number| = significand * 2 ^ exponent := by
      have nonneg : (0 : ℚ) ≤ significand * 2 ^ exponent := by positivity
      rw [← same]
      cases sign <;> simp [Sign.apply, abs_mul, abs_of_nonneg]
    rw [magnitude] at small
    exact absurd small (not_lt.mpr (canonical.bound_le (not_le.mp great)))

/-- What is rounded below the bound is finite and means the rounded number. -/
theorem rational_eq (isRounded : IsRounded number parts) (small : |rounded number| < bound) :
    (Float.ofModel (Float.Model.pack parts)).isFinite ∧
      rational (Float.ofModel (Float.Model.pack parts)) = rounded number := by
  have unpacked := unpack_pack (isRounded.isPacked small)
  constructor
  · change (Float.Model.pack parts).unpack.isFinite = true
    rw [unpacked]
    exact isRounded.parts_isFinite
  · rw [Binary64.rational_eq]
    change partsValue (Float.Model.pack parts).unpack = _
    rw [unpacked, isRounded.partsValue_eq]

/-- Packed parts are rounded already. -/
theorem of_isPacked (packed : IsPacked parts) (finite : parts.isFinite) :
    IsRounded (partsValue parts) parts := by
  rcases parts with _ | _ | sign | ⟨sign, significand, exponent, positive⟩
  · cases finite
  · cases finite
  · exact rounded_zero
  · have nonneg : (0 : ℚ) ≤ significand * 2 ^ exponent := by positivity
    refine ⟨packed.1, ?_⟩
    rw [partsValue_finite, rounded_signed sign nonneg,
      nearest_eq_of_fits packed.1.fits packed.1.low, ← partsValue_finite sign exponent positive]
    rfl

end IsRounded

section Sums

/-- A significand with its exponent decreased means the same number. -/
theorem decreaseExponent_value (sign : Sign) (significand : ℕ) {exponent target : ℤ}
    (below : target ≤ exponent) :
    (sign.apply (decreaseExponent significand exponent target).1 * 2 ^ target : ℚ) =
      sign.apply significand * 2 ^ exponent := by
  have exponentEq : exponent = ((exponent - target).toNat : ℤ) + target := by omega
  have shifted : (decreaseExponent significand exponent target).1 =
      significand * 2 ^ (exponent - target).toNat :=
    Nat.shiftLeft_eq _ _
  conv_rhs => rw [exponentEq, zpow_add₀ two_ne_zero, zpow_natCast]
  rw [shifted]
  cases sign <;> simp only [Sign.apply] <;> push_cast <;> ring

/-- A whole number of places is rounded. -/
theorem isRounded_normalize (whole exponent : ℤ) (zeroSign : Sign) :
    IsRounded (whole * 2 ^ exponent)
      (UnpackedFloat.normalize Format.binary64 whole exponent zeroSign) := by
  unfold UnpackedFloat.normalize
  rcases lt_trichotomy whole 0 with negative | rfl | positive
  · rw [compare_lt_iff_lt.mpr negative]
    have rounding := round_spec .negative (show 0 < (-whole).toNat by omega) exponent
    have same : (((-whole).toNat : ℕ) : ℚ) = -whole := by
      have magnitude : (((-whole).toNat : ℕ) : ℤ) = -whole := by omega
      exact_mod_cast magnitude
    have isRounded := rounding.isRounded (by positivity)
    rw [same] at isRounded
    simpa [Sign.apply] using isRounded
  · rw [compare_eq_iff_eq.mpr rfl, Int.cast_zero, zero_mul]
    exact rounded_zero
  · rw [compare_gt_iff_gt.mpr positive]
    have rounding := round_spec .positive (show 0 < whole.toNat by omega) exponent
    have same : ((whole.toNat : ℕ) : ℚ) = whole := by
      have magnitude : ((whole.toNat : ℕ) : ℤ) = whole := by omega
      exact_mod_cast magnitude
    have isRounded := rounding.isRounded (by positivity)
    rw [same] at isRounded
    simpa [Sign.apply] using isRounded

theorem partsValue_neg (parts : UnpackedFloat) : partsValue parts.neg = -partsValue parts := by
  rcases parts with _ | _ | _ | ⟨sign, significand, exponent, positive⟩
  · exact neg_zero.symm
  · exact neg_zero.symm
  · exact neg_zero.symm
  · cases sign with
    | negative => exact (neg_eq_iff_eq_neg.mpr (partsValue_negative positive)).symm
    | positive => exact partsValue_negative positive

/-- A difference is the sum with the negated number. -/
theorem sub_eq_add_negated (left right : UnpackedFloat) :
    UnpackedFloat.sub Format.binary64 left right =
      UnpackedFloat.add Format.binary64 left right.neg := by
  have negated (sign : Sign) (whole : ℤ) : (-sign).apply whole = -sign.apply whole := by
    cases sign
    · exact (neg_neg whole).symm
    · rfl
  cases left <;> cases right <;> try rfl
  simp only [UnpackedFloat.sub, UnpackedFloat.neg, UnpackedFloat.add, negated,
    sub_eq_add_neg]

variable (leftPacked : IsPacked left) (rightPacked : IsPacked right) (leftFinite : left.isFinite)
  (rightFinite : right.isFinite)

include leftPacked rightPacked leftFinite rightFinite

/-- The machine rounds a sum. -/
theorem isRounded_add :
    IsRounded (partsValue left + partsValue right)
      (UnpackedFloat.add Format.binary64 left right) := by
  have leftKept := IsRounded.of_isPacked leftPacked leftFinite
  have rightKept := IsRounded.of_isPacked rightPacked rightFinite
  rcases left with _ | _ | leftSign | ⟨leftSign, leftSignificand, leftExponent, leftPositive⟩
  · cases leftFinite
  · cases leftFinite
  · rcases right with _ | _ | rightSign | ⟨rightSign, rightSignificand, rightExponent, rightPositive⟩
    · cases rightFinite
    · cases rightFinite
    · have zero : rounded (0 + 0) = 0 := by simp
      cases leftSign <;> cases rightSign <;> exact zero
    · rwa [show partsValue (.zero leftSign) = 0 from rfl, zero_add]
  · rcases right with _ | _ | rightSign | ⟨rightSign, rightSignificand, rightExponent, rightPositive⟩
    · cases rightFinite
    · cases rightFinite
    · rwa [show partsValue (.zero rightSign) = 0 from rfl, add_zero]
    · have leftValue := decreaseExponent_value leftSign leftSignificand
        (min_le_left leftExponent rightExponent)
      have rightValue := decreaseExponent_value rightSign rightSignificand
        (min_le_right leftExponent rightExponent)
      rw [partsValue, partsValue, ← leftValue, ← rightValue, ← add_mul, ← Int.cast_add]
      exact isRounded_normalize _ _ _

/-- The machine rounds a difference. -/
theorem isRounded_sub :
    IsRounded (partsValue left - partsValue right)
      (UnpackedFloat.sub Format.binary64 left right) := by
  have packed : IsPacked right.neg := by
    cases right <;> exact rightPacked
  have finite : right.neg.isFinite := by
    cases right <;> exact rightFinite
  rw [sub_eq_add_negated, sub_eq_add_neg, ← partsValue_neg]
  exact isRounded_add leftPacked packed leftFinite finite

end Sums

section Products

theorem apply_mul (left right : Sign) :
    ((left * right).apply 1 : ℚ) = left.apply 1 * right.apply 1 := by
  cases left <;> cases right <;> simp only [Sign.apply] <;> norm_num

/-- No digit of a product of canonical magnitudes stands above its last place. -/
theorem Canonical.add_le_lastPlace {left right : ℕ} {leftExponent rightExponent : ℤ}
    (leftCanonical : Canonical left leftExponent) (rightCanonical : Canonical right rightExponent)
    (leftPositive : 0 < left) (rightPositive : 0 < right) :
    leftExponent + rightExponent ≤
      lastPlace (left * 2 ^ leftExponent * (right * 2 ^ rightExponent)) := by
  have positive := Nat.mul_pos leftPositive rightPositive
  rw [mul_zpow_mul_zpow, lastPlace_eq positive, targetExponent_eq]
  have leftFull := leftCanonical.full
  have rightFull := rightCanonical.full
  by_cases full : 2 ^ 52 ≤ left * right
  · have digits := (Nat.le_log2 positive.ne').mpr full
    omega
  · have leftSmall : ¬2 ^ 52 ≤ left := fun large =>
      full (large.trans (Nat.le_mul_of_pos_right _ rightPositive))
    have rightSmall : ¬2 ^ 52 ≤ right := fun large =>
      full (large.trans (Nat.le_mul_of_pos_left _ leftPositive))
    omega

/-- The machine rounds a product. -/
theorem isRounded_mul (leftPacked : IsPacked left) (rightPacked : IsPacked right)
    (leftFinite : left.isFinite) (rightFinite : right.isFinite) :
    IsRounded (partsValue left * partsValue right)
      (UnpackedFloat.mul Format.binary64 left right) := by
  rcases left with _ | _ | leftSign | ⟨leftSign, leftSignificand, leftExponent, leftPositive⟩
  · cases leftFinite
  · cases leftFinite
  · have zero : rounded (0 * partsValue right) = 0 := by simp
    cases right with
    | infinity sign => cases rightFinite
    | notANumber => cases rightFinite
    | zero sign => exact zero
    | finite sign significand exponent positive => exact zero
  rcases right with _ | _ | rightSign | ⟨rightSign, rightSignificand, rightExponent, rightPositive⟩
  · cases rightFinite
  · cases rightFinite
  · rw [show partsValue (.zero rightSign) = 0 from rfl, mul_zero]
    exact rounded_zero
  have low := leftPacked.1.add_le_lastPlace rightPacked.1 leftPositive rightPositive
  have isRounded := (isRounding_mul leftSign rightSign leftPositive rightPositive low).isRounded
    (by positivity)
  rw [partsValue_finite, partsValue_finite, mul_mul_mul_comm, ← apply_mul]
  exact isRounded

end Products

section Quotients

@[simp]
theorem mantissa_ofMantissaAndAccuracy (significand : ℕ) (accuracy : Accuracy) :
    (ExtendedMantissa.ofMantissaAndAccuracy significand accuracy).mantissa = significand := by
  cases accuracy with
  | exact => rfl
  | inexact ordering => cases ordering <;> rfl

/-- A fraction after a significand is known by its order to one half. -/
theorem Holds.inexact (significand : ℕ) {fraction : ℚ} (positive : 0 < fraction)
    (below : fraction < 1) :
    Holds (.ofMantissaAndAccuracy significand (.inexact (compare fraction (1 / 2))))
      (significand + fraction) := by
  rcases lt_trichotomy fraction (1 / 2) with less | rfl | more
  · rw [compare_lt_iff_lt.mpr less]
    constructor <;> simp only [ExtendedMantissa.ofMantissaAndAccuracy]
    · linarith
    · linarith
    · simpa using less
    · simpa [positive.ne'] using less.ne
  · rw [compare_eq_iff_eq.mpr rfl]
    constructor <;> simp only [ExtendedMantissa.ofMantissaAndAccuracy]
    · linarith
    · linarith
    · simp
    · simp
  · rw [compare_gt_iff_gt.mpr more]
    constructor <;> simp only [ExtendedMantissa.ofMantissaAndAccuracy]
    · linarith
    · linarith
    · simpa using more.le
    · simpa [positive.ne'] using more.ne'

theorem compare_fraction (numerator : ℕ) {denominator : ℕ} (positive : 0 < denominator) :
    compare (2 * numerator) denominator = compare (numerator / denominator : ℚ) (1 / 2) := by
  have counted : (0 : ℚ) < denominator := by exact_mod_cast positive
  rcases lt_trichotomy (2 * numerator) denominator with less | same | more
  · have half : (numerator / denominator : ℚ) < 1 / 2 := by
      rw [div_lt_div_iff₀ counted two_pos, one_mul, mul_comm]
      exact_mod_cast less
    rw [compare_lt_iff_lt.mpr less, compare_lt_iff_lt.mpr half]
  · have half : (numerator / denominator : ℚ) = 1 / 2 := by
      rw [div_eq_div_iff counted.ne' two_ne_zero, one_mul, mul_comm]
      exact_mod_cast same
    rw [compare_eq_iff_eq.mpr same, compare_eq_iff_eq.mpr half]
  · have half : (1 / 2 : ℚ) < numerator / denominator := by
      rw [div_lt_div_iff₀ two_pos counted, one_mul, mul_comm]
      exact_mod_cast more
    rw [compare_gt_iff_gt.mpr more, compare_gt_iff_gt.mpr half]

/-- A remainder tells what is lost when the significand is the quotient of two others. -/
theorem Holds.quotient (dividend : ℕ) {divisor : ℕ} (positive : 0 < divisor) :
    Holds (.ofMantissaAndAccuracy (dividend / divisor)
      (accuracyOfFraction (dividend % divisor) divisor)) (dividend / divisor : ℚ) := by
  have counted : (0 : ℚ) < divisor := by exact_mod_cast positive
  have number : (dividend / divisor : ℚ) =
      (dividend / divisor : ℕ) + (dividend % divisor : ℕ) / divisor := by
    rw [eq_comm, add_comm, div_add' _ _ _ counted.ne', div_left_inj' counted.ne']
    exact_mod_cast Nat.mod_add_div' dividend divisor
  have below : (dividend % divisor : ℕ) / (divisor : ℚ) < 1 := by
    rw [div_lt_one counted]
    exact_mod_cast Nat.mod_lt dividend positive
  rw [number]
  unfold accuracyOfFraction
  rcases Nat.eq_zero_or_pos (dividend % divisor) with none | some
  · rw [if_pos none, none, Nat.cast_zero, zero_div, add_zero]
    exact .exact _
  · rw [if_neg some.ne', compare_fraction _ positive]
    exact .inexact _ (by positivity) below

/-- A quotient reaches the power of two that the digits of its parts leave it. -/
theorem zpow_le_quotient {left right : ℕ} (leftPositive : 0 < left) (rightPositive : 0 < right)
    (leftExponent rightExponent : ℤ) :
    (2 : ℚ) ^ (left.log2 + leftExponent - (right.log2 + 1 + rightExponent)) ≤
      left * 2 ^ leftExponent / (right * 2 ^ rightExponent) := by
  have counted : (0 : ℚ) < right := by exact_mod_cast rightPositive
  rw [zpow_sub₀ two_ne_zero, zpow_add₀ two_ne_zero, zpow_add₀ two_ne_zero]
  gcongr
  · exact_mod_cast Nat.log2_self_le leftPositive.ne'
  · exact_mod_cast (Nat.lt_log2_self (n := right)).le

/-- The place down to which the machine divides. What is left below it is a remainder. -/
def quotientPlace (left right : ℕ) (leftExponent rightExponent : ℤ) : ℤ :=
  min (leftExponent - rightExponent)
    (max ((left.log2 : ℤ) - right.log2 + leftExponent - rightExponent - 53) (-1074))

/-- The machine divides with a remainder, after the digits down to the place are shifted in. -/
theorem divCore_eq (left right : ℕ) (leftExponent rightExponent : ℤ) {digits : ℕ}
    (shift : quotientPlace left right leftExponent rightExponent + digits =
      leftExponent - rightExponent) :
    divCore Format.binary64 left leftExponent right rightExponent =
      (left <<< digits / right, quotientPlace left right leftExponent rightExponent,
        accuracyOfFraction (left <<< digits % right) right) := by
  have bits : Format.binary64.mantissaBits = 53 := by decide
  have least : Format.binary64.minExponent = -1074 := by decide
  have target : min (leftExponent - rightExponent) (Format.binary64.targetExponent
      (totalExponent left leftExponent - totalExponent right rightExponent)) =
      quotientPlace left right leftExponent rightExponent := by
    rw [Format.targetExponent, totalExponent, totalExponent, bits, least, quotientPlace]
    omega
  have counted : (leftExponent - rightExponent -
      quotientPlace left right leftExponent rightExponent).toNat = digits := by
    omega
  simp only [divCore, target, counted]

theorem shifted_quotient (left : ℕ) {right : ℕ} (rightPositive : 0 < right) {digits : ℕ}
    {leftExponent rightExponent place : ℤ} (shift : place + digits = leftExponent - rightExponent) :
    (left * 2 ^ leftExponent / (right * 2 ^ rightExponent) : ℚ) =
      ((left <<< digits : ℕ) / right) * 2 ^ place := by
  have counted : (0 : ℚ) < right := by exact_mod_cast rightPositive
  have exponent : leftExponent = place + digits + rightExponent := by omega
  rw [Nat.shiftLeft_eq, exponent, zpow_add₀ two_ne_zero, zpow_add₀ two_ne_zero, zpow_natCast]
  push_cast
  field_simp

/-- The quotient of magnitudes has enough digits to be rounded. -/
theorem isRounding_divCore (sign : Sign) {left right : ℕ} (leftPositive : 0 < left)
    (rightPositive : 0 < right) (leftExponent rightExponent : ℤ) :
    IsRounding sign (left * 2 ^ leftExponent / (right * 2 ^ rightExponent))
      (roundWithAccuracy Format.binary64 sign
        (divCore Format.binary64 left leftExponent right rightExponent).1
        (divCore Format.binary64 left leftExponent right rightExponent).2.1
        (divCore Format.binary64 left leftExponent right rightExponent).2.2) := by
  obtain ⟨digits, shift⟩ : ∃ digits : ℕ,
      quotientPlace left right leftExponent rightExponent + digits = leftExponent - rightExponent :=
    Int.le.dest (min_le_left _ _)
  have reached := zpow_le_quotient leftPositive rightPositive leftExponent rightExponent
  have positive : 0 < left <<< digits := by
    rw [Nat.shiftLeft_eq]
    positivity
  rw [divCore_eq left right leftExponent rightExponent shift]
  rw [shifted_quotient left rightPositive shift] at reached ⊢
  generalize placeEq : quotientPlace left right leftExponent rightExponent = place at *
  unfold quotientPlace at placeEq
  generalize left <<< digits = dividend at *
  have holds := Holds.quotient dividend rightPositive
  have wholeLe := holds.whole_le
  have ltNext := holds.lt_next
  rw [mantissa_ofMantissaAndAccuracy] at wholeLe ltNext
  have whole : (0 : ℚ) < dividend / right := by positivity
  have low := le_lastPlace reached
  apply roundWithAccuracy_of_holds sign whole holds (by omega)
  rcases Nat.eq_zero_or_pos (dividend / right) with none | some
  · -- Without a whole digit, the quotient stands below all places that are kept.
    have below : (dividend / right : ℚ) * 2 ^ place < 2 ^ (place - 1 + 1) := by
      have less : (dividend / right : ℚ) < 1 := by simpa [none] using ltNext
      rw [sub_add_cancel]
      exact mul_lt_of_lt_one_left (by positivity) less
    have high := lastPlace_le (by positivity) below
    have top := (zpow_lt_zpow_iff_right₀ one_lt_two).mp (reached.trans_lt below)
    rw [none, Nat.log2_zero]
    omega
  · exact (lastPlace_whole some wholeLe ltNext place).symm

theorem apply_div (left right : Sign) :
    ((left / right).apply 1 : ℚ) = left.apply 1 / right.apply 1 := by
  have product : left / right = left * right := by cases left <;> cases right <;> rfl
  rw [product, apply_mul]
  cases left <;> cases right <;> norm_num [Sign.apply]

/-- The machine rounds a quotient by a number that is not zero. -/
theorem isRounded_div (leftFinite : left.isFinite) (rightFinite : right.isFinite)
    (nonzero : partsValue right ≠ 0) :
    IsRounded (partsValue left / partsValue right)
      (UnpackedFloat.div Format.binary64 left right) := by
  rcases right with _ | _ | rightSign | ⟨rightSign, rightSignificand, rightExponent, rightPositive⟩
  · cases rightFinite
  · cases rightFinite
  · exact absurd rfl nonzero
  rcases left with _ | _ | leftSign | ⟨leftSign, leftSignificand, leftExponent, leftPositive⟩
  · cases leftFinite
  · cases leftFinite
  · rw [show partsValue (.zero leftSign) = 0 from rfl, zero_div]
    exact rounded_zero
  have isRounded := (isRounding_divCore (leftSign / rightSign) leftPositive rightPositive
    leftExponent rightExponent).isRounded (by positivity)
  rw [partsValue_finite, partsValue_finite, mul_div_mul_comm, ← apply_div]
  exact isRounded

end Quotients

end ArrivalRamp.Binary64
