import ArrivalRamp.Proofs.Binary64.Nearest
import ArrivalRamp.Proofs.Binary64.Order

/-!
Machine rounding is rounding to nearest. A significand is shifted digit by digit while two flags
keep what was lost, and the result is packed unless it is too great.
-/

namespace ArrivalRamp.Binary64

open Float.Model Float.Model.UnpackedFloat

/-- The significand is the whole part of a number, and the flags tell whether the rest reaches one
half and whether it is neither nothing nor one half. -/
structure Holds (extended : ExtendedMantissa) (number : ℚ) : Prop where
  whole_le : (extended.mantissa : ℚ) ≤ number
  lt_next : number < extended.mantissa + 1
  round : extended.roundBit ↔ extended.mantissa + 1 / 2 ≤ number
  sticky : extended.stickyBit ↔
    number ≠ extended.mantissa ∧ number ≠ extended.mantissa + 1 / 2

namespace Holds

theorem exact (significand : ℕ) :
    Holds (.ofMantissaAndAccuracy significand .exact) significand where
  whole_le := le_rfl
  lt_next := lt_add_one _
  round := by
    simp only [ExtendedMantissa.ofMantissaAndAccuracy, Bool.false_eq_true, false_iff, not_le]
    linarith
  sticky := by simp [ExtendedMantissa.ofMantissaAndAccuracy]

/-- One of the flags is set exactly when the significand is not the whole number. -/
theorem lost_iff {extended : ExtendedMantissa} {number : ℚ} (holds : Holds extended number) :
    (extended.roundBit || extended.stickyBit) ↔ number ≠ extended.mantissa := by
  rw [Bool.or_eq_true, holds.round, holds.sticky]
  constructor
  · rintro (half | ⟨different, -⟩)
    · intro same
      linarith
    · exact different
  · intro different
    by_cases half : number = extended.mantissa + 1 / 2
    · exact .inl half.ge
    · exact .inr ⟨different, half⟩

/-- A shift by one digit halves the number. -/
theorem shiftRightOne {extended : ExtendedMantissa} {number : ℚ} (holds : Holds extended number) :
    Holds extended.shiftRightOne (number / 2) := by
  have lost := holds.lost_iff
  obtain ⟨wholeLe, ltNext, -, -⟩ := holds
  have digits : (extended.mantissa : ℚ) =
      2 * (extended.mantissa / 2 : ℕ) + (extended.mantissa % 2 : ℕ) := by
    exact_mod_cast (Nat.div_add_mod _ _).symm
  rcases Nat.mod_two_eq_zero_or_one extended.mantissa with even | odd
  · rw [even, Nat.cast_zero, add_zero] at digits
    refine ⟨?_, ?_, ?_, lost.trans ?_⟩ <;> dsimp only [ExtendedMantissa.shiftRightOne]
    · linarith
    · linarith
    · simp only [even, bne_self_eq_false, Bool.false_eq_true, false_iff, not_le]
      linarith
    · constructor
      · intro different
        exact ⟨fun same => different (by linarith), fun half => by linarith⟩
      · rintro ⟨different, -⟩ same
        exact different (by linarith)
  · rw [odd, Nat.cast_one] at digits
    refine ⟨?_, ?_, ?_, lost.trans ?_⟩ <;> dsimp only [ExtendedMantissa.shiftRightOne]
    · linarith
    · linarith
    · simp only [odd, Nat.one_ne_zero, bne_iff_ne, ne_eq, not_false_eq_true, true_iff]
      linarith
    · constructor
      · intro different
        exact ⟨fun whole => by linarith, fun half => different (by linarith)⟩
      · rintro ⟨-, different⟩ same
        exact different (by linarith)

/-- A shift by some digits divides the number by a power of two. -/
theorem shiftRight {extended : ExtendedMantissa} {number : ℚ} (holds : Holds extended number)
    (digits : ℕ) : Holds (extended >>> digits) (number / 2 ^ digits) := by
  change Holds (digits.repeat ExtendedMantissa.shiftRightOne extended) _
  induction digits with
  | zero => simpa [Nat.repeat] using holds
  | succ digits ih =>
      rw [Nat.repeat, pow_succ, ← div_div]
      exact ih.shiftRightOne

/-- The flags suffice to round the number. -/
theorem roundedMantissa {extended : ExtendedMantissa} {number : ℚ}
    (holds : Holds extended number) : (extended.roundedMantissa : ℤ) = roundEven number := by
  obtain ⟨wholeLe, ltNext, round, sticky⟩ := holds
  have floor : ⌊number⌋ = extended.mantissa := by
    rw [Int.floor_eq_iff, Int.cast_natCast]
    exact ⟨wholeLe, ltNext⟩
  have rest : Int.fract number = number - extended.mantissa := by
    rw [Int.fract, floor, Int.cast_natCast]
  obtain ⟨significand, roundBit, stickyBit⟩ := extended
  dsimp only at *
  unfold roundEven ExtendedMantissa.roundedMantissa
  rw [floor, rest]
  cases roundBit
  · have below : ¬(significand + 1 / 2 : ℚ) ≤ number := fun half =>
      Bool.false_ne_true (round.mpr half)
    rw [if_pos (by linarith)]
    cases stickyBit <;> rfl
  · have half := round.mp rfl
    rw [if_neg (by linarith)]
    cases stickyBit
    · have tie : number = significand + 1 / 2 := by
        by_contra different
        exact Bool.false_ne_true (sticky.mpr ⟨by linarith, different⟩)
      rw [if_neg (by linarith)]
      rfl
    · have above := lt_of_le_of_ne half (sticky.mp rfl).2.symm
      rw [if_pos (by linarith)]
      rfl

end Holds

/-- The last place that the machine keeps of a magnitude follows from the number of its digits. -/
theorem targetExponent_eq (significand : ℕ) (exponent : ℤ) :
    Format.binary64.targetExponent (totalExponent significand exponent) =
      max (significand.log2 + exponent - 52) (-1074) := by
  have bits : Format.binary64.mantissaBits = 53 := by decide
  have least : Format.binary64.minExponent = -1074 := by decide
  rw [Format.targetExponent, totalExponent, bits, least]
  omega

/-- The whole part of a number has its digits. -/
theorem lastPlace_whole {whole : ℚ} {significand : ℕ} (positive : 0 < significand)
    (reached : significand ≤ whole) (below : whole < significand + 1) (exponent : ℤ) :
    lastPlace (whole * 2 ^ exponent) = max (significand.log2 + exponent - 52) (-1074) := by
  have low : (2 : ℚ) ^ (significand.log2 + exponent) ≤ whole * 2 ^ exponent := by
    rw [zpow_add₀ two_ne_zero, zpow_natCast]
    gcongr
    exact le_trans (by exact_mod_cast Nat.log2_self_le positive.ne') reached
  have high : whole * 2 ^ exponent < (2 : ℚ) ^ (significand.log2 + exponent + 1) := by
    rw [add_right_comm, zpow_add₀ two_ne_zero]
    gcongr
    have digits : significand + 1 ≤ 2 ^ (significand.log2 + 1) := Nat.lt_log2_self
    exact lt_of_lt_of_le below (by exact_mod_cast digits)
  exact le_antisymm (lastPlace_le (lt_of_lt_of_le (by positivity) low) high) (le_lastPlace low)

theorem lastPlace_eq {significand : ℕ} (positive : 0 < significand) (exponent : ℤ) :
    lastPlace (significand * 2 ^ exponent) =
      Format.binary64.targetExponent (totalExponent significand exponent) := by
  rw [targetExponent_eq]
  exact lastPlace_whole positive le_rfl (lt_add_one _) exponent

theorem shiftToTargetExponent_eq (significand : ℕ) (exponent : ℤ) (accuracy : Accuracy)
    (digits : ℕ)
    (shift : (max (significand.log2 + exponent - 52) (-1074) - exponent).toNat = digits) :
    shiftToTargetExponent Format.binary64 significand exponent accuracy =
      (ExtendedMantissa.ofMantissaAndAccuracy significand accuracy >>> digits,
        exponent + digits) := by
  rw [← targetExponent_eq] at shift
  subst shift
  rfl

/-- A significand in the last place of the number that it holds, or below it, is shifted to the
last place. -/
theorem shiftToTargetExponent_spec {significand : ℕ} {exponent : ℤ} {accuracy : Accuracy}
    {number : ℚ} (holds : Holds (.ofMantissaAndAccuracy significand accuracy) number)
    (low : exponent ≤ lastPlace (number * 2 ^ exponent))
    (target : max (significand.log2 + exponent - 52) (-1074) =
      lastPlace (number * 2 ^ exponent)) :
    ∃ extended,
      shiftToTargetExponent Format.binary64 significand exponent accuracy =
        (extended, lastPlace (number * 2 ^ exponent)) ∧
      Holds extended (number * 2 ^ exponent / 2 ^ lastPlace (number * 2 ^ exponent)) := by
  obtain ⟨digits, place⟩ := Int.le.dest low
  refine ⟨ExtendedMantissa.ofMantissaAndAccuracy significand accuracy >>> digits, ?_, ?_⟩
  · rw [shiftToTargetExponent_eq significand exponent accuracy digits (by omega), place]
  · have shifted := holds.shiftRight digits
    rw [← place, zpow_add₀ two_ne_zero, zpow_natCast]
    convert shifted using 1
    have nonzero : (2 : ℚ) ^ exponent ≠ 0 := by positivity
    field_simp

/-- The parts are those of a number with a sign, rounded to nearest. -/
def IsRounding (sign : Sign) (magnitude : ℚ) : UnpackedFloat → Prop
  | .zero other => other = sign ∧ nearest magnitude = 0
  | .finite other significand exponent _ =>
    other = sign ∧ Canonical significand exponent ∧ significand * 2 ^ exponent = nearest magnitude
  | _ => False

/-- A significand that fits is not shifted. -/
theorem shiftToTargetExponent_of_fits {significand : ℕ} {exponent : ℤ}
    (fits : significand < 2 ^ 53) (low : -1074 ≤ exponent) :
    shiftToTargetExponent Format.binary64 significand exponent .exact =
      (.ofMantissaAndAccuracy significand .exact, exponent) := by
  have digits : significand.log2 < 53 := by
    by_cases zero : significand = 0
    · rw [zero]
      decide
    · exact (Nat.log2_lt zero).mpr fits
  have shifted := shiftToTargetExponent_eq significand exponent .exact 0 (by omega)
  rwa [Nat.cast_zero, add_zero] at shifted

/-- The power of two beyond the significands that fit is shifted by one digit. -/
theorem shiftToTargetExponent_two_pow {exponent : ℤ} (low : -1074 ≤ exponent) :
    shiftToTargetExponent Format.binary64 (2 ^ 53) exponent .exact =
      (.ofMantissaAndAccuracy (2 ^ 52) .exact, exponent + 1) := by
  have digits : (2 ^ 53).log2 = 53 := Nat.log2_two_pow
  exact shiftToTargetExponent_eq (2 ^ 53) exponent .exact 1 (by omega)

/-- A significand with what is known of the rest suffices to round the number that it holds. -/
theorem roundWithAccuracy_of_holds (sign : Sign) {significand : ℕ} {exponent : ℤ}
    {accuracy : Accuracy} {whole : ℚ} (positive : 0 < whole)
    (known : Holds (.ofMantissaAndAccuracy significand accuracy) whole)
    (low : exponent ≤ lastPlace (whole * 2 ^ exponent))
    (target : max (significand.log2 + exponent - 52) (-1074) = lastPlace (whole * 2 ^ exponent)) :
    IsRounding sign (whole * 2 ^ exponent)
      (roundWithAccuracy Format.binary64 sign significand exponent accuracy) := by
  have magnitude : (0 : ℚ) < whole * 2 ^ exponent := by positivity
  obtain ⟨extended, shifted, holds⟩ := shiftToTargetExponent_spec known low target
  generalize (whole * 2 ^ exponent : ℚ) = number at *
  have rounded := holds.roundedMantissa
  have value : (extended.roundedMantissa * 2 ^ lastPlace number : ℚ) = nearest number := by
    rw [nearest, ← rounded, Int.cast_natCast]
  have upper := significand_le number
  have lower := le_significand magnitude
  rw [← rounded] at upper lower
  have last : -1074 ≤ lastPlace number := le_max_right _ _
  unfold roundWithAccuracy
  rw [shifted]
  dsimp only
  generalize extended.roundedMantissa = result at *
  rcases (show result ≤ 2 ^ 53 by exact_mod_cast upper).lt_or_eq with fits | rfl
  · rw [shiftToTargetExponent_of_fits fits last]
    split_ifs with zero
    · change result = 0 at zero
      rw [zero, Nat.cast_zero, zero_mul] at value
      exact ⟨rfl, value.symm⟩
    · exact ⟨rfl, ⟨fits, last, lower.imp_left (by exact_mod_cast ·)⟩, value⟩
  · rw [shiftToTargetExponent_two_pow last]
    split_ifs with zero
    · exact absurd zero (show ¬(2 ^ 52 = 0) by decide)
    refine ⟨rfl, ⟨show 2 ^ 52 < 2 ^ 53 by decide, by omega, .inl le_rfl⟩, ?_⟩
    rw [← value]
    change ((2 ^ 52 : ℕ) : ℚ) * 2 ^ (lastPlace number + 1) = _
    rw [zpow_add₀ two_ne_zero]
    push_cast
    ring

theorem roundWithAccuracy_spec (sign : Sign) {significand : ℕ} (positive : 0 < significand)
    {exponent : ℤ} (low : exponent ≤ lastPlace (significand * 2 ^ exponent)) :
    IsRounding sign (significand * 2 ^ exponent)
      (roundWithAccuracy Format.binary64 sign significand exponent .exact) :=
  roundWithAccuracy_of_holds sign (by exact_mod_cast positive) (.exact significand) low
    ((targetExponent_eq _ _).symm.trans (lastPlace_eq positive exponent).symm)

/-- Machine rounding moves the significand to the last place and rounds it there. -/
theorem round_spec (sign : Sign) {significand : ℕ} (positive : 0 < significand) (exponent : ℤ) :
    IsRounding sign (significand * 2 ^ exponent)
      (UnpackedFloat.round Format.binary64 sign significand exponent) := by
  have target := lastPlace_eq positive exponent
  unfold UnpackedFloat.round decreaseExponent
  rw [← target]
  dsimp only
  generalize digitsEq : (exponent - lastPlace (significand * 2 ^ exponent)).toNat = digits
  have same : ((significand <<< digits : ℕ) : ℚ) * 2 ^ (exponent - digits) =
      significand * 2 ^ exponent := by
    rw [Nat.shiftLeft_eq, zpow_sub₀ two_ne_zero, zpow_natCast]
    push_cast
    field_simp
  rw [← same]
  apply roundWithAccuracy_spec
  · rw [Nat.shiftLeft_eq]
    positivity
  · rw [same]
    omega

/-- A canonical number that is not too great is found again after packing. -/
theorem unpack_pack_finite (sign : Sign) {significand : ℕ} {exponent : ℤ}
    (positive : 0 < significand) (canonical : Canonical significand exponent)
    (bounded : exponent ≤ 971) :
    (Float.Model.pack (.finite sign significand exponent positive)).unpack =
      .finite sign significand exponent positive := by
  obtain ⟨fits, low, full⟩ := canonical
  change UnpackedFloat.unpack Format.binary64
    (UnpackedFloat.pack Format.binary64 (.finite sign significand exponent positive)) = _
  have bias : (Format.binary64.exponentBias : ℤ) = 1023 := by decide
  have bits : Format.binary64.mantissaBits = 53 := by decide
  unfold UnpackedFloat.pack
  dsimp only
  rw [bias, bits, if_neg (by omega)]
  have biased : (BitVec.ofNat 11 (exponent + 1023 + (52 : ℕ)).toNat).toNat = exponent + 1075 := by
    rw [BitVec.toNat_ofNat]
    omega
  by_cases normal : significand.log2 + 1 = 53
  · have digits := (Nat.log2_eq_iff positive.ne').mp (show significand.log2 = 52 by omega)
    have stored : 2 ^ 52 + (BitVec.ofNat 52 significand).toNat = significand := by
      rw [BitVec.toNat_ofNat]
      omega
    rw [if_pos normal]
    unfold UnpackedFloat.unpack
    simp only [unpackMantissa_packComponents, unpackExponent_packComponents,
      unpackSign_packComponents, Sign.ofBitVec_toBitVec, toNat_implicit, stored]
    rw [if_neg, if_neg]
    · congr 1
      rw [bias]
      omega
    · intro zero
      rw [zero] at biased
      change (0 : ℤ) = _ at biased
      omega
    · intro all
      rw [all] at biased
      change (2047 : ℤ) = _ at biased
      omega
  · have below : significand < 2 ^ 52 := by
      have digits : significand.log2 < 53 := (Nat.log2_lt positive.ne').mpr fits
      exact (Nat.log2_lt positive.ne').mp (by omega)
    have stored : (BitVec.ofNat 52 significand).toNat = significand := by
      rw [BitVec.toNat_ofNat]
      omega
    obtain rfl := full.resolve_left (by omega)
    rw [if_neg normal]
    unfold UnpackedFloat.unpack
    simp only [unpackMantissa_packComponents, unpackExponent_packComponents,
      unpackSign_packComponents, Sign.ofBitVec_toBitVec, stored]
    rw [if_neg (by decide), if_pos trivial, dif_neg]
    · congr 1
    · intro zero
      rw [zero] at stored
      exact positive.ne stored

/-- Packed parts are found again. -/
theorem unpack_pack {parts : UnpackedFloat} (packed : IsPacked parts) :
    (Float.Model.pack parts).unpack = parts := by
  rcases parts with sign | _ | sign | ⟨sign, significand, exponent, positive⟩
  · cases sign <;> rfl
  · rfl
  · cases sign <;> rfl
  · exact unpack_pack_finite sign positive packed.1 packed.2

/-- A number that is too great is packed as an infinite one. -/
theorem unpack_pack_great (sign : Sign) {significand : ℕ} {exponent : ℤ}
    (positive : 0 < significand) (great : 971 < exponent) :
    (Float.Model.pack (.finite sign significand exponent positive)).unpack = .infinity sign := by
  change UnpackedFloat.unpack Format.binary64
    (UnpackedFloat.pack Format.binary64 (.finite sign significand exponent positive)) = _
  have bias : (Format.binary64.exponentBias : ℤ) = 1023 := by decide
  unfold UnpackedFloat.pack
  dsimp only
  rw [bias, if_pos (by omega)]
  cases sign <;> rfl

/-- The bound of the finite magnitudes. -/
def bound : ℚ := 2 ^ (1024 : ℤ)

theorem Canonical.lt_bound {significand : ℕ} {exponent : ℤ}
    (canonical : Canonical significand exponent) (bounded : exponent ≤ 971) :
    (significand * 2 ^ exponent : ℚ) < bound := by
  calc (significand * 2 ^ exponent : ℚ) < 2 ^ 53 * 2 ^ exponent := by
        gcongr
        exact_mod_cast canonical.fits
    _ ≤ 2 ^ 53 * 2 ^ (971 : ℤ) := by
        gcongr
        norm_num
    _ = bound := by
        rw [bound, ← zpow_natCast, ← zpow_add₀ two_ne_zero]
        rfl

theorem Canonical.bound_le {significand : ℕ} {exponent : ℤ}
    (canonical : Canonical significand exponent) (great : 971 < exponent) :
    bound ≤ (significand * 2 ^ exponent : ℚ) := by
  have full : 2 ^ 52 ≤ significand := canonical.full.resolve_right (by omega)
  calc bound = 2 ^ 52 * 2 ^ (972 : ℤ) := by
        rw [bound, ← zpow_natCast, ← zpow_add₀ two_ne_zero]
        rfl
    _ ≤ significand * 2 ^ exponent := by
        gcongr
        · exact_mod_cast full
        · norm_num
        · omega

namespace IsRounding

variable {sign : Sign} {magnitude : ℚ} {parts : UnpackedFloat}

theorem isPacked (rounding : IsRounding sign magnitude parts) (small : nearest magnitude < bound) :
    IsPacked parts := by
  rcases parts with _ | _ | other | ⟨other, significand, exponent, positive⟩
  · trivial
  · trivial
  · trivial
  · obtain ⟨-, canonical, same⟩ := rounding
    refine ⟨canonical, ?_⟩
    by_contra great
    have above := canonical.bound_le (not_le.mp great)
    rw [same] at above
    exact absurd small (not_lt.mpr above)

theorem parts_isFinite (rounding : IsRounding sign magnitude parts) : parts.isFinite := by
  rcases parts with _ | _ | other | ⟨other, significand, exponent, positive⟩
  · exact rounding.elim
  · exact rounding.elim
  · rfl
  · rfl

/-- What is rounded below the bound is finite. -/
theorem isFinite (rounding : IsRounding sign magnitude parts) (small : nearest magnitude < bound) :
    (Float.ofModel (Float.Model.pack parts)).isFinite := by
  change (Float.Model.pack parts).unpack.isFinite = true
  rw [unpack_pack (rounding.isPacked small)]
  exact rounding.parts_isFinite

/-- A finite result means the nearest number with its sign. -/
theorem rational_eq (rounding : IsRounding sign magnitude parts)
    (finite : (Float.ofModel (Float.Model.pack parts)).isFinite) :
    rational (Float.ofModel (Float.Model.pack parts)) = sign.apply 1 * nearest magnitude := by
  rw [Binary64.rational_eq]
  change (Float.Model.pack parts).unpack.isFinite = true at finite
  change partsValue (Float.Model.pack parts).unpack = _
  rcases parts with _ | _ | other | ⟨other, significand, exponent, positive⟩
  · exact rounding.elim
  · exact rounding.elim
  · rw [unpack_pack (show IsPacked (.zero other) from trivial), rounding.2, mul_zero]
    rfl
  · obtain ⟨rfl, canonical, same⟩ := rounding
    have bounded : exponent ≤ 971 := by
      by_contra great
      rw [unpack_pack_great other positive (not_le.mp great)] at finite
      exact Bool.false_ne_true finite
    rw [unpack_pack_finite other positive canonical bounded, ← same]
    cases other <;> simp [partsValue, Sign.apply]

end IsRounding

end ArrivalRamp.Binary64
