import Mathlib.Data.Int.Log
import Mathlib.Data.Rat.Floor
import Mathlib.Tactic

/-!
Rounding of rational numbers to binary64. A number keeps 53 binary digits, and none below the
1074th place. Rounding keeps the order of numbers and changes no number that is on the grid.
-/

namespace ArrivalRamp.Binary64

/-- The whole number nearest to a rational one. Of two that are equally near, it is the even one. -/
def roundEven (number : ℚ) : ℤ :=
  if Int.fract number < 1 / 2 then ⌊number⌋
  else if 1 / 2 < Int.fract number then ⌊number⌋ + 1
  else ⌊number⌋ + ⌊number⌋ % 2

@[simp]
theorem roundEven_intCast (whole : ℤ) : roundEven whole = whole := by
  simp [roundEven]

theorem floor_le_roundEven (number : ℚ) : ⌊number⌋ ≤ roundEven number := by
  unfold roundEven
  split_ifs <;> omega

theorem roundEven_le_floor_add_one (number : ℚ) : roundEven number ≤ ⌊number⌋ + 1 := by
  unfold roundEven
  split_ifs <;> omega

theorem roundEven_mono {left right : ℚ} (ordered : left ≤ right) :
    roundEven left ≤ roundEven right := by
  rcases (Int.floor_mono ordered).lt_or_eq with below | same
  · calc roundEven left ≤ ⌊left⌋ + 1 := roundEven_le_floor_add_one left
      _ ≤ ⌊right⌋ := below
      _ ≤ roundEven right := floor_le_roundEven right
  · have fractions : Int.fract left ≤ Int.fract right := by
      unfold Int.fract
      rw [same]
      linarith
    unfold roundEven
    rw [same]
    split_ifs
    all_goals first | omega | linarith

/-- The exponent of the last place that binary64 keeps of a number. -/
def lastPlace (number : ℚ) : ℤ :=
  max (Int.log 2 number - 52) (-1074)

/-- The nearest multiple of the last place of a number that is not negative. -/
def nearest (number : ℚ) : ℚ :=
  roundEven (number / 2 ^ lastPlace number) * 2 ^ lastPlace number

theorem lastPlace_mono {left right : ℚ} (positive : 0 < left) (ordered : left ≤ right) :
    lastPlace left ≤ lastPlace right := by
  have logs := Int.log_mono_right (b := 2) positive ordered
  unfold lastPlace
  omega

/-- The last place follows from a power of two that a number reaches. -/
theorem le_lastPlace {magnitude : ℚ} {top : ℤ} (reached : 2 ^ top ≤ magnitude) :
    max (top - 52) (-1074) ≤ lastPlace magnitude := by
  have positive : 0 < magnitude := lt_of_lt_of_le (by positivity) reached
  have log : top ≤ Int.log 2 magnitude := by
    rw [← Int.zpow_le_iff_le_log one_lt_two positive]
    exact_mod_cast reached
  unfold lastPlace
  omega

/-- The last place follows from a power of two that a number stays below. -/
theorem lastPlace_le {magnitude : ℚ} (positive : 0 < magnitude) {top : ℤ}
    (below : magnitude < 2 ^ (top + 1)) : lastPlace magnitude ≤ max (top - 52) (-1074) := by
  have log : Int.log 2 magnitude < top + 1 := by
    rw [← Int.lt_zpow_iff_log_lt one_lt_two positive]
    exact_mod_cast below
  unfold lastPlace
  omega

/-- A multiple of the last place that is not below a number is not below its nearest multiple. -/
theorem nearest_le_multiple {number : ℚ} (factor : ℤ)
    (above : number ≤ factor * 2 ^ lastPlace number) :
    nearest number ≤ factor * 2 ^ lastPlace number := by
  have place : (0 : ℚ) < 2 ^ lastPlace number := by positivity
  have rounded := roundEven_mono ((div_le_iff₀ place).mpr above)
  rw [roundEven_intCast] at rounded
  unfold nearest
  gcongr

/-- A multiple of the last place that is not above a number is not above its nearest multiple. -/
theorem multiple_le_nearest {number : ℚ} (factor : ℤ)
    (below : factor * 2 ^ lastPlace number ≤ number) :
    factor * 2 ^ lastPlace number ≤ nearest number := by
  have place : (0 : ℚ) < 2 ^ lastPlace number := by positivity
  have rounded := roundEven_mono ((le_div_iff₀ place).mpr below)
  rw [roundEven_intCast] at rounded
  unfold nearest
  gcongr

/-- A multiple of a place is a multiple of every lower place. -/
theorem exists_multiple (factor : ℤ) {place higher : ℤ} (ordered : place ≤ higher) :
    ∃ multiple : ℤ, (factor : ℚ) * 2 ^ higher = multiple * 2 ^ place := by
  refine ⟨factor * 2 ^ (higher - place).toNat, ?_⟩
  have exponent : higher = ((higher - place).toNat : ℤ) + place := by omega
  conv_lhs => rw [exponent, zpow_add₀ two_ne_zero, zpow_natCast]
  push_cast
  ring

/-- Rounding changes no multiple of a place that is kept. -/
theorem nearest_eq_of_multiple (factor : ℤ) {higher : ℤ}
    (kept : lastPlace (factor * 2 ^ higher : ℚ) ≤ higher) :
    nearest (factor * 2 ^ higher) = factor * 2 ^ higher := by
  obtain ⟨multiple, same⟩ := exists_multiple factor kept
  apply le_antisymm
  · have upper := nearest_le_multiple multiple (le_of_eq same)
    rwa [← same] at upper
  · have lower := multiple_le_nearest multiple (le_of_eq same.symm)
    rwa [← same] at lower

/-- Rounding changes no number whose significand fits. -/
theorem nearest_eq_of_fits {significand : ℕ} {exponent : ℤ} (fits : significand < 2 ^ 53)
    (low : -1074 ≤ exponent) :
    nearest (significand * 2 ^ exponent) = significand * 2 ^ exponent := by
  rcases Nat.eq_zero_or_pos significand with rfl | positive
  · simp [nearest, roundEven]
  · have log : Int.log 2 ((significand : ℚ) * 2 ^ exponent) < 53 + exponent := by
      rw [← Int.lt_zpow_iff_log_lt (by norm_num) (by positivity), Nat.cast_ofNat,
        zpow_add₀ two_ne_zero]
      gcongr
      exact_mod_cast fits
    apply nearest_eq_of_multiple significand
    unfold lastPlace
    push_cast
    omega

/-- Rounding keeps the order of numbers that are not negative. -/
theorem nearest_mono {left right : ℚ} (nonnegative : 0 ≤ left) (ordered : left ≤ right) :
    nearest left ≤ nearest right := by
  rcases nonnegative.eq_or_lt with rfl | positive
  · have lower : _ ≤ nearest right := multiple_le_nearest 0 (by simpa using ordered)
    simpa [nearest, roundEven] using lower
  rcases (lastPlace_mono positive ordered).lt_or_eq with lower | same
  · -- The greater number reaches a power of two that the smaller one stays below.
    have rightPlace : lastPlace right = Int.log 2 right - 52 := by
      unfold lastPlace at *
      omega
    have logs : Int.log 2 left < Int.log 2 right := by
      unfold lastPlace at *
      omega
    have leftBelow : left ≤ 2 ^ Int.log 2 right := by
      apply le_of_lt
      rwa [← Nat.cast_ofNat, Int.lt_zpow_iff_log_lt (by norm_num) positive]
    have rightAbove : (2 : ℚ) ^ Int.log 2 right ≤ right := by
      exact_mod_cast Int.zpow_log_le_self (b := 2) (by norm_num) (positive.trans_le ordered)
    obtain ⟨leftFactor, leftSame⟩ := exists_multiple 1
      (show lastPlace left ≤ Int.log 2 right by omega)
    obtain ⟨rightFactor, rightSame⟩ :=
      exists_multiple 1 (show lastPlace right ≤ Int.log 2 right by omega)
    rw [Int.cast_one, one_mul] at leftSame rightSame
    calc nearest left ≤ leftFactor * 2 ^ lastPlace left :=
          nearest_le_multiple leftFactor (leftBelow.trans_eq leftSame)
      _ = rightFactor * 2 ^ lastPlace right := leftSame.symm.trans rightSame
      _ ≤ nearest right := multiple_le_nearest rightFactor (rightSame.symm.trans_le rightAbove)
  · unfold nearest
    rw [same]
    have rounded : roundEven (left / 2 ^ lastPlace right) ≤
        roundEven (right / 2 ^ lastPlace right) := by
      apply roundEven_mono
      gcongr
    gcongr

/-- A rounded significand has at most 53 digits, or is the power of two beyond them. -/
theorem significand_le (number : ℚ) : roundEven (number / 2 ^ lastPlace number) ≤ 2 ^ 53 := by
  have place : (0 : ℚ) < 2 ^ lastPlace number := by positivity
  have below : number ≤ 2 ^ 53 * 2 ^ lastPlace number := by
    calc number ≤ 2 ^ (Int.log 2 number + 1) := by
          exact_mod_cast (Int.lt_zpow_succ_log_self one_lt_two number).le
      _ ≤ 2 ^ (53 + lastPlace number) := by
          apply zpow_le_zpow_right₀ one_le_two
          unfold lastPlace
          omega
      _ = 2 ^ 53 * 2 ^ lastPlace number := by
          rw [zpow_add₀ two_ne_zero]
          norm_num
  rw [← div_le_iff₀ place] at below
  have rounded := roundEven_mono below
  rwa [← Int.cast_ofNat, ← Int.cast_pow, roundEven_intCast] at rounded

/-- A rounded significand has 53 digits unless it stands in the last place of all. -/
theorem le_significand {number : ℚ} (positive : 0 < number) :
    2 ^ 52 ≤ roundEven (number / 2 ^ lastPlace number) ∨ lastPlace number = -1074 := by
  by_cases last : lastPlace number = -1074
  · exact .inr last
  left
  have place : (0 : ℚ) < 2 ^ lastPlace number := by positivity
  have above : 2 ^ 52 * 2 ^ lastPlace number ≤ number := by
    calc (2 ^ 52 * 2 ^ lastPlace number : ℚ) = 2 ^ (52 + lastPlace number) := by
          rw [zpow_add₀ two_ne_zero]
          norm_num
      _ = 2 ^ Int.log 2 number := by
          congr 1
          unfold lastPlace at *
          omega
      _ ≤ number := by exact_mod_cast Int.zpow_log_le_self one_lt_two positive
  rw [← le_div_iff₀ place] at above
  have rounded := roundEven_mono above
  rwa [← Int.cast_ofNat, ← Int.cast_pow, roundEven_intCast] at rounded

theorem nearest_nonneg {number : ℚ} (nonnegative : 0 ≤ number) : 0 ≤ nearest number := by
  have ordered := nearest_mono le_rfl nonnegative
  simpa [nearest, roundEven] using ordered

end ArrivalRamp.Binary64
