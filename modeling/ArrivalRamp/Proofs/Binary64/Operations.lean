import ArrivalRamp.Proofs.Binary64.Arithmetic

/-!
The operations on machine numbers. A finite result means the exact one rounded to nearest, and what
is not below zero stays so, also where it is too great to be finite.
-/

namespace ArrivalRamp.Binary64

open Float.Model Float.Model.UnpackedFloat

variable {left right : Float}

/-- Rounding keeps what a machine number means. -/
theorem rounded_rational {number : Float} (finite : number.isFinite) :
    rounded (rational number) = rational number := by
  have isRounded := IsRounded.of_isPacked (isPacked_unpack number.toModel) finite
  rw [rational_eq]
  exact isRounded.partsValue_eq.symm

/-- Every machine number that is finite lies below the bound. -/
theorem abs_rational_lt_bound {number : Float} (finite : number.isFinite) :
    |rational number| < bound := by
  have packed := isPacked_unpack number.toModel
  change number.toModel.unpack.isFinite = true at finite
  rw [rational_eq]
  generalize number.toModel.unpack = parts at *
  rcases parts with _ | _ | sign | ⟨sign, significand, exponent, positive⟩
  · cases finite
  · cases finite
  · have zero : partsValue (.zero sign) = 0 := rfl
    rw [zero, abs_zero, bound]
    positivity
  · have magnitude : (0 : ℚ) ≤ significand * 2 ^ exponent := by positivity
    have small := packed.1.lt_bound packed.2
    rw [partsValue_finite]
    cases sign <;> simpa [Sign.apply, abs_of_nonneg magnitude] using small

section Finite

variable (leftFinite : left.isFinite) (rightFinite : right.isFinite)

include leftFinite rightFinite

theorem rational_add (small : |rounded (rational left + rational right)| < bound) :
    (left + right).isFinite ∧
      rational (left + right) = rounded (rational left + rational right) := by
  rw [rational_eq left, rational_eq right] at small ⊢
  exact (isRounded_add (isPacked_unpack _) (isPacked_unpack _) leftFinite rightFinite).rational_eq
    small

theorem rational_sub (small : |rounded (rational left - rational right)| < bound) :
    (left - right).isFinite ∧
      rational (left - right) = rounded (rational left - rational right) := by
  rw [rational_eq left, rational_eq right] at small ⊢
  exact (isRounded_sub (isPacked_unpack _) (isPacked_unpack _) leftFinite rightFinite).rational_eq
    small

theorem rational_mul (small : |rounded (rational left * rational right)| < bound) :
    (left * right).isFinite ∧
      rational (left * right) = rounded (rational left * rational right) := by
  rw [rational_eq left, rational_eq right] at small ⊢
  exact (isRounded_mul (isPacked_unpack _) (isPacked_unpack _) leftFinite rightFinite).rational_eq
    small

theorem rational_div (nonzero : rational right ≠ 0)
    (small : |rounded (rational left / rational right)| < bound) :
    (left / right).isFinite ∧
      rational (left / right) = rounded (rational left / rational right) := by
  rw [rational_eq right] at nonzero
  rw [rational_eq left, rational_eq right] at small ⊢
  exact (isRounded_div leftFinite rightFinite nonzero).rational_eq small

end Finite

section Bounded

variable {exponent other : ℕ} (leftFinite : left.isFinite) (rightFinite : right.isFinite)
  (leftMem : rational left ∈ Set.Icc 0 (2 ^ exponent))

/-- What lies between zero and a power of two does so when it is rounded. -/
theorem rounded_mem_two_pow {number : ℚ} (mem : number ∈ Set.Icc 0 (2 ^ exponent)) :
    rounded number ∈ Set.Icc 0 (2 ^ exponent) := by
  have kept := rounded_two_zpow (show -1074 ≤ (exponent : ℤ) by omega)
  rw [zpow_natCast] at kept
  exact rounded_mem_Icc rounded_zero kept mem

theorem abs_rounded_lt_bound_of_mem {number : ℚ} (mem : number ∈ Set.Icc 0 (2 ^ exponent))
    (small : exponent < 1024) : |rounded number| < bound :=
  abs_rounded_lt_bound exponent ((abs_of_nonneg mem.1).trans_le mem.2) small

include leftFinite rightFinite leftMem

/-- A sum of numbers up to a power of two is not above the next one. -/
theorem add_mem_two_pow (rightMem : rational right ∈ Set.Icc 0 (2 ^ exponent))
    (small : exponent + 1 < 1024) :
    (left + right).isFinite ∧ rational (left + right) ∈ Set.Icc 0 (2 ^ (exponent + 1)) := by
  have mem : rational left + rational right ∈ Set.Icc (0 : ℚ) (2 ^ (exponent + 1)) := by
    refine ⟨add_nonneg leftMem.1 rightMem.1, ?_⟩
    rw [pow_succ, mul_two]
    exact add_le_add leftMem.2 rightMem.2
  obtain ⟨finite, same⟩ :=
    rational_add leftFinite rightFinite (abs_rounded_lt_bound_of_mem mem small)
  exact ⟨finite, same ▸ rounded_mem_two_pow mem⟩

/-- A product of numbers up to powers of two is not above the product of these. -/
theorem mul_mem_two_pow (rightMem : rational right ∈ Set.Icc 0 (2 ^ other))
    (small : exponent + other < 1024) :
    (left * right).isFinite ∧ rational (left * right) ∈ Set.Icc 0 (2 ^ (exponent + other)) := by
  have mem : rational left * rational right ∈ Set.Icc (0 : ℚ) (2 ^ (exponent + other)) := by
    refine ⟨mul_nonneg leftMem.1 rightMem.1, ?_⟩
    rw [pow_add]
    exact mul_le_mul leftMem.2 rightMem.2 rightMem.1 (by positivity)
  obtain ⟨finite, same⟩ :=
    rational_mul leftFinite rightFinite (abs_rounded_lt_bound_of_mem mem small)
  exact ⟨finite, same ▸ rounded_mem_two_pow mem⟩

/-- A quotient by a number that is not below a part of one is not above that many times the
dividend. -/
theorem div_mem_two_pow (least : 1 / 2 ^ other ≤ rational right)
    (small : exponent + other < 1024) :
    (left / right).isFinite ∧ rational (left / right) ∈ Set.Icc 0 (2 ^ (exponent + other)) := by
  have positive : 0 < rational right := lt_of_lt_of_le (by positivity) least
  have mem : rational left / rational right ∈ Set.Icc (0 : ℚ) (2 ^ (exponent + other)) := by
    refine ⟨div_nonneg leftMem.1 positive.le, ?_⟩
    calc rational left / rational right
        ≤ 2 ^ exponent / (1 / 2 ^ other) :=
          div_le_div₀ (by positivity) leftMem.2 (by positivity) least
      _ = 2 ^ (exponent + other) := by rw [div_div_eq_mul_div, div_one, pow_add]
  obtain ⟨finite, same⟩ :=
    rational_div leftFinite rightFinite positive.ne' (abs_rounded_lt_bound_of_mem mem small)
  exact ⟨finite, same ▸ rounded_mem_two_pow mem⟩

end Bounded

/-- The parts are those of a number that is not below zero. -/
def IsNonneg : UnpackedFloat → Prop
  | .infinity sign => sign = .positive
  | .notANumber => False
  | .zero _ => True
  | .finite sign _ _ _ => sign = .positive

theorem zero_le_iff {number : Float} : 0.0 ≤ number ↔ IsNonneg number.toModel.unpack := by
  rw [le_iff_parts]
  change UnpackedFloat.le (.zero .positive) number.toModel.unpack = true ↔ _
  rcases number.toModel.unpack with sign | _ | sign | ⟨sign, significand, exponent, positive⟩
  · cases sign <;> simp [UnpackedFloat.le, UnpackedFloat.compare, IsNonneg]
  · simp [UnpackedFloat.le, UnpackedFloat.compare, IsNonneg]
  · simp [UnpackedFloat.le, UnpackedFloat.compare, IsNonneg]
  · cases sign <;> simp [UnpackedFloat.le, UnpackedFloat.compare, IsNonneg]

/-- Parts that mean a number that is not negative are a zero or have the positive sign. -/
theorem eq_zero_or_positive {parts : UnpackedFloat} (finite : parts.isFinite)
    (nonnegative : 0 ≤ partsValue parts) :
    (∃ sign, parts = .zero sign) ∨
      ∃ significand exponent positive, parts = .finite .positive significand exponent positive := by
  rcases parts with _ | _ | sign | ⟨sign, significand, exponent, positive⟩
  · cases finite
  · cases finite
  · exact .inl ⟨sign, rfl⟩
  · cases sign with
    | negative =>
        have magnitude := partsValue_pos exponent positive
        rw [partsValue_negative] at nonnegative
        linarith
    | positive => exact .inr ⟨significand, exponent, positive, rfl⟩

/-- A finite number that is not below zero means one that is not negative. -/
theorem zero_le_iff_rational {number : Float} (finite : number.isFinite) :
    0.0 ≤ number ↔ 0 ≤ rational number := by
  rw [rational_le_iff isFinite_zero finite, rational_zero]

/-- What is rounded from a number that is not negative is not below zero, however great. -/
theorem IsRounded.isNonneg {number : ℚ} {parts : UnpackedFloat} (nonneg : 0 ≤ number)
    (isRounded : IsRounded number parts) : IsNonneg (Float.Model.pack parts).unpack := by
  rcases parts with _ | _ | sign | ⟨sign, significand, exponent, positive⟩
  · exact isRounded.elim
  · exact isRounded.elim
  · rw [unpack_pack (show IsPacked (.zero sign) from trivial)]
    trivial
  · obtain ⟨canonical, same⟩ := isRounded
    have positiveSign : sign = .positive := by
      cases sign with
      | positive => rfl
      | negative =>
          have counted : (0 : ℚ) < significand := by exact_mod_cast positive
          have magnitude : (0 : ℚ) < significand * 2 ^ exponent := by positivity
          have above := rounded_nonneg nonneg
          rw [← same] at above
          simp only [Sign.apply, Int.cast_neg, Int.cast_natCast] at above
          linarith
    by_cases bounded : exponent ≤ 971
    · rwa [unpack_pack_finite sign positive canonical bounded]
    · rwa [unpack_pack_great sign positive (not_le.mp bounded)]

theorem IsNonneg.partsValue_nonneg {parts : UnpackedFloat} (nonneg : IsNonneg parts) :
    0 ≤ partsValue parts := by
  rcases parts with _ | _ | _ | ⟨sign, significand, exponent, positive⟩
  · exact le_rfl
  · exact le_rfl
  · exact le_rfl
  · obtain rfl : sign = .positive := nonneg
    exact (partsValue_pos exponent positive).le

/-- A number that is not below zero is infinite where it is not finite. -/
theorem infinite_of_zero_le {number : Float} (nonneg : 0.0 ≤ number)
    (infinite : ¬number.isFinite) : number.toModel.unpack = .infinity .positive := by
  rw [zero_le_iff] at nonneg
  change ¬number.toModel.unpack.isFinite = true at infinite
  cases same : number.toModel.unpack <;> simp_all [IsNonneg, UnpackedFloat.isFinite]

/-- Every finite number is below the infinite one. -/
theorem lt_of_infinite {number great : Float} (finite : number.isFinite)
    (infinite : great.toModel.unpack = .infinity .positive) : number < great := by
  change number.toModel.unpack.isFinite = true at finite
  rw [lt_iff_parts, infinite]
  cases same : number.toModel.unpack <;>
    simp_all [UnpackedFloat.isFinite, UnpackedFloat.lt, UnpackedFloat.compare]

theorem not_lt_zero_of_zero_le {number : Float} (nonneg : 0.0 ≤ number) : ¬number < 0.0 := by
  rw [zero_le_iff] at nonneg
  rw [lt_iff_parts]
  change ¬UnpackedFloat.lt number.toModel.unpack (.zero .positive) = true
  cases same : number.toModel.unpack <;>
    simp_all [IsNonneg, UnpackedFloat.lt, UnpackedFloat.compare]

theorem isNonneg_pack_infinity : IsNonneg (Float.Model.pack (.infinity .positive)).unpack := by
  rw [unpack_pack (show IsPacked (.infinity .positive) from trivial)]
  rfl

/-- A sum of numbers that are not below zero is not below zero. -/
theorem zero_le_add (leftNonneg : 0.0 ≤ left) (rightNonneg : 0.0 ≤ right) :
    0.0 ≤ left + right := by
  rw [zero_le_iff] at leftNonneg rightNonneg ⊢
  change IsNonneg (Float.Model.pack (UnpackedFloat.add Format.binary64 left.toModel.unpack
    right.toModel.unpack)).unpack
  have leftPacked := isPacked_unpack left.toModel
  have rightPacked := isPacked_unpack right.toModel
  generalize left.toModel.unpack = leftParts at *
  generalize right.toModel.unpack = rightParts at *
  by_cases finite : leftParts.isFinite ∧ rightParts.isFinite
  · exact (isRounded_add leftPacked rightPacked finite.1 finite.2).isNonneg
      (add_nonneg leftNonneg.partsValue_nonneg rightNonneg.partsValue_nonneg)
  · have infinite : UnpackedFloat.add Format.binary64 leftParts rightParts =
        .infinity .positive := by
      cases leftParts <;> cases rightParts <;> simp_all [IsNonneg, UnpackedFloat.isFinite,
        UnpackedFloat.add]
    rw [infinite]
    exact isNonneg_pack_infinity

/-- A product of finite numbers that are not below zero is not below zero. -/
theorem zero_le_mul (leftFinite : left.isFinite) (rightFinite : right.isFinite)
    (leftNonneg : 0.0 ≤ left) (rightNonneg : 0.0 ≤ right) : 0.0 ≤ left * right := by
  rw [zero_le_iff] at leftNonneg rightNonneg ⊢
  exact (isRounded_mul (isPacked_unpack _) (isPacked_unpack _) leftFinite rightFinite).isNonneg
    (mul_nonneg leftNonneg.partsValue_nonneg rightNonneg.partsValue_nonneg)

/-- A quotient of a number that is not below zero by a positive one is not below zero. -/
theorem zero_le_div (leftNonneg : 0.0 ≤ left) (rightFinite : right.isFinite)
    (rightPositive : 0 < rational right) : 0.0 ≤ left / right := by
  rw [rational_eq] at rightPositive
  rw [zero_le_iff] at leftNonneg ⊢
  change IsNonneg (Float.Model.pack (UnpackedFloat.div Format.binary64 left.toModel.unpack
    right.toModel.unpack)).unpack
  change right.toModel.unpack.isFinite = true at rightFinite
  generalize left.toModel.unpack = leftParts at *
  generalize right.toModel.unpack = rightParts at *
  by_cases finite : leftParts.isFinite
  · exact (isRounded_div finite rightFinite rightPositive.ne').isNonneg
      (div_nonneg leftNonneg.partsValue_nonneg rightPositive.le)
  · obtain rfl : leftParts = .infinity .positive := by
      cases leftParts <;> simp_all [IsNonneg, UnpackedFloat.isFinite]
    rcases eq_zero_or_positive rightFinite rightPositive.le with
      ⟨sign, rfl⟩ | ⟨significand, exponent, positive, rfl⟩
    · exact absurd rfl rightPositive.ne
    · exact isNonneg_pack_infinity

/-- A time since a count is not negative. -/
theorem sub_toFloat_nonneg {number : Float} (finite : number.isFinite) {count : ℕ}
    (word : count ≤ Word.maxCount) (reached : Word.toFloat count ≤ number) :
    0.0 ≤ number - Word.toFloat count := by
  have countFinite := isFinite_toFloat word
  rw [rational_le_iff countFinite finite] at reached
  rw [zero_le_iff]
  rw [rational_eq, rational_eq] at reached
  exact (isRounded_sub (isPacked_unpack _) (isPacked_unpack _) finite countFinite).isNonneg
    (sub_nonneg.mpr reached)

/-- A quotient of counts whose significands fit is rounded once. -/
theorem rational_toFloat_div {count divisor : ℕ} (small : count ≤ 2 ^ 53)
    (divisorSmall : divisor ≤ 2 ^ 53) (positive : 0 < divisor) :
    (Word.toFloat count / Word.toFloat divisor).isFinite ∧
      rational (Word.toFloat count / Word.toFloat divisor) = rounded (count / divisor) := by
  have word : count ≤ Word.maxCount := small.trans (by decide)
  have divisorWord : divisor ≤ Word.maxCount := divisorSmall.trans (by decide)
  have dividendEq := rational_toFloat_of_fits small
  have divisorEq := rational_toFloat_of_fits divisorSmall
  have least : (1 : ℚ) ≤ divisor := by exact_mod_cast positive
  have most : |(count / divisor : ℚ)| ≤ 2 ^ 53 := by
    rw [abs_of_nonneg (by positivity)]
    exact (div_le_self count.cast_nonneg least).trans (by exact_mod_cast small)
  have quotient := rational_div (isFinite_toFloat word) (isFinite_toFloat divisorWord)
    (by rw [divisorEq]; positivity)
    (abs_rounded_lt_bound 53 (by rwa [dividendEq, divisorEq]) (by decide))
  rwa [dividendEq, divisorEq] at quotient

/-- Every count is converted as the word that it has room in. -/
theorem exists_word (count : ℕ) :
    ∃ word ≤ Word.maxCount, Word.toFloat count = Word.toFloat word := by
  refine ⟨count % 2 ^ 64, ?_, ?_⟩
  · unfold Word.maxCount
    omega
  · have same : UInt64.ofNat (count % 2 ^ 64) = UInt64.ofNat count := by
      apply UInt64.toNat.inj
      simp
    rw [Word.toFloat, Word.toFloat, same]

/-- Every count is converted to a finite number between zero and the number of words. -/
theorem toFloat_mem (count : ℕ) :
    (Word.toFloat count).isFinite ∧ rational (Word.toFloat count) ∈ Set.Icc 0 (2 ^ 64) := by
  obtain ⟨word, small, same⟩ := exists_word count
  rw [same]
  refine ⟨isFinite_toFloat small, ?_⟩
  have below : (word : ℚ) ≤ 2 ^ 64 := by
    have counted : word ≤ 2 ^ 64 := small.trans (by decide)
    exact_mod_cast counted
  rw [rational_toFloat small, ← rounded_of_nonneg word.cast_nonneg]
  exact rounded_mem_two_pow ⟨word.cast_nonneg, below⟩

end ArrivalRamp.Binary64
