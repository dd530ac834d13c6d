import ArrivalRamp.Proofs.Binary64.Counts

/-!
The spacing of machine numbers. They stand a last place apart, so that rounding moves a number by
no more than half of one.
-/

namespace ArrivalRamp.Binary64

/-- A number that rounding keeps is a multiple of its last place. -/
theorem exists_multiple_of_kept {number : ℚ} (kept : nearest number = number) :
    ∃ factor : ℤ, number = factor * 2 ^ lastPlace number :=
  ⟨_, kept.symm⟩

theorem sub_roundEven_le (number : ℚ) : number - roundEven number ≤ 1 / 2 := by
  have split := Int.floor_add_fract number
  have whole := floor_le_roundEven number
  have counted : (⌊number⌋ : ℚ) ≤ roundEven number := by exact_mod_cast whole
  by_cases half : Int.fract number ≤ 1 / 2
  · linarith
  · have up : roundEven number = ⌊number⌋ + 1 := by
      rw [roundEven, if_neg (by linarith), if_pos (by linarith)]
    have fraction := Int.fract_lt_one number
    rw [up]
    push_cast
    linarith

theorem roundEven_sub_le (number : ℚ) : roundEven number - number ≤ 1 / 2 := by
  have split := Int.floor_add_fract number
  by_cases half : Int.fract number < 1 / 2
  · have fraction := Int.fract_nonneg number
    rw [roundEven, if_pos half]
    linarith
  · have whole := roundEven_le_floor_add_one number
    have counted : (roundEven number : ℚ) ≤ ⌊number⌋ + 1 := by exact_mod_cast whole
    linarith

/-- Rounding down loses no more than half of the last place. -/
theorem sub_nearest_le (number : ℚ) : number - nearest number ≤ 2 ^ lastPlace number / 2 := by
  have place : (0 : ℚ) < 2 ^ lastPlace number := by positivity
  have lost := mul_le_mul_of_nonneg_right (sub_roundEven_le (number / 2 ^ lastPlace number))
    place.le
  rw [sub_mul, div_mul_cancel₀ _ place.ne'] at lost
  unfold nearest
  linarith

/-- Rounding up adds no more than half of the last place. -/
theorem nearest_sub_le (number : ℚ) : nearest number - number ≤ 2 ^ lastPlace number / 2 := by
  have place : (0 : ℚ) < 2 ^ lastPlace number := by positivity
  have added := mul_le_mul_of_nonneg_right (roundEven_sub_le (number / 2 ^ lastPlace number))
    place.le
  rw [sub_mul, div_mul_cancel₀ _ place.ne'] at added
  unfold nearest
  linarith

/-- Rounding adds no more than half of a place that is kept 53 digits below a bound of the number. -/
theorem nearest_le_add {number : ℚ} (nonneg : 0 ≤ number) {place : ℤ} (low : -1074 ≤ place)
    (below : number < 2 ^ (place + 53)) : nearest number ≤ number + 2 ^ place / 2 := by
  rcases nonneg.eq_or_lt with rfl | positive
  · rw [nearest_zero]
    positivity
  · have added := nearest_sub_le number
    have top : place + 53 = place + 52 + 1 := by ring
    rw [top] at below
    have last := lastPlace_le positive below
    have places : (2 : ℚ) ^ lastPlace number ≤ 2 ^ place :=
      zpow_le_zpow_right₀ one_le_two (by omega)
    linarith

/-- Rounding does not lower the last place. -/
theorem lastPlace_le_nearest {number : ℚ} (positive : 0 < number) :
    lastPlace number ≤ lastPlace (nearest number) := by
  by_cases last : lastPlace number = -1074
  · exact last.trans_le (le_max_right _ _)
  have place : lastPlace number = Int.log 2 number - 52 := by
    unfold lastPlace at *
    omega
  have reached : (2 : ℚ) ^ Int.log 2 number ≤ number := by
    exact_mod_cast Int.zpow_log_le_self (b := 2) one_lt_two positive
  have power : nearest ((2 : ℚ) ^ Int.log 2 number) = 2 ^ Int.log 2 number := by
    have low : -1074 ≤ Int.log 2 number := by
      unfold lastPlace at *
      omega
    have kept := nearest_eq_of_fits (show 1 < 2 ^ 53 by decide) low
    rwa [Nat.cast_one, one_mul] at kept
  have rounded := nearest_mono (by positivity) reached
  rw [power] at rounded
  have places := le_lastPlace rounded
  omega

/-- Less than a last place above a number that rounding keeps, the last place is the same. The next
power of two is a whole place away. -/
theorem lastPlace_eq_of_near {kept number : ℚ} (positive : 0 < kept) (isKept : nearest kept = kept)
    (above : kept ≤ number) (near : number < kept + 2 ^ lastPlace kept) :
    lastPlace number = lastPlace kept := by
  rcases (lastPlace_mono positive above).lt_or_eq with higher | same
  · exfalso
    obtain ⟨factor, multiple⟩ := exists_multiple_of_kept isKept
    have place : (0 : ℚ) < 2 ^ lastPlace kept := by positivity
    have logs : lastPlace kept ≤ Int.log 2 number := by
      unfold lastPlace at *
      omega
    have below : kept < 2 ^ Int.log 2 number := by
      rw [← Nat.cast_ofNat, Int.lt_zpow_iff_log_lt one_lt_two positive]
      unfold lastPlace at *
      omega
    have reached : (2 : ℚ) ^ Int.log 2 number ≤ number := by
      exact_mod_cast Int.zpow_log_le_self (b := 2) one_lt_two (positive.trans_le above)
    obtain ⟨power, powerEq⟩ := exists_multiple 1 logs
    rw [Int.cast_one, one_mul] at powerEq
    rw [powerEq] at below reached
    have product : (factor : ℚ) * 2 ^ lastPlace kept < power * 2 ^ lastPlace kept :=
      multiple.symm.trans_lt below
    have next : factor < power := by exact_mod_cast lt_of_mul_lt_mul_right product place.le
    have spaced : ((factor + 1 : ℤ) : ℚ) * 2 ^ lastPlace kept ≤ power * 2 ^ lastPlace kept := by
      gcongr
      omega
    push_cast at spaced
    linarith
  · exact same.symm

/-- A number less than half of a last place above one that rounding keeps is rounded to it. -/
theorem nearest_eq_of_lt_half {kept number : ℚ} (positive : 0 < kept)
    (isKept : nearest kept = kept) (above : kept ≤ number)
    (near : number < kept + 2 ^ lastPlace kept / 2) : nearest number = kept := by
  obtain ⟨factor, multiple⟩ := exists_multiple_of_kept isKept
  have place : (0 : ℚ) < 2 ^ lastPlace kept := by positivity
  have same := lastPlace_eq_of_near positive isKept above (by linarith)
  have least : (factor : ℚ) ≤ number / 2 ^ lastPlace kept := by
    rw [le_div_iff₀ place, ← multiple]
    exact above
  have half : number / 2 ^ lastPlace kept < factor + 1 / 2 := by
    rw [div_lt_iff₀ place]
    linarith
  have floor : ⌊number / 2 ^ lastPlace kept⌋ = factor := by
    rw [Int.floor_eq_iff]
    exact ⟨least, by linarith⟩
  have down : roundEven (number / 2 ^ lastPlace kept) = factor := by
    rw [roundEven, Int.fract, floor, if_pos (by linarith)]
  rw [nearest, same, down, ← multiple]

/-- Times that are measured between rounded ends are no longer than the exact ones. Here a time is
kept by rounding, the start and the stop are rounded, and the time lies before the stop. -/
theorem sub_nearest_le_length {start stop length : ℕ} {time : ℚ}
    (within : stop ≤ start + length) (kept : nearest time = time) (started : nearest start ≤ time)
    (running : time < nearest stop) : time - nearest start ≤ length := by
  by_contra exceeds
  have long : (length : ℚ) < time - nearest start := not_le.mp exceeds
  have ends : (stop : ℚ) ≤ start + length := by exact_mod_cast within
  have startNonneg := nearest_nonneg (Nat.cast_nonneg (α := ℚ) start)
  have lengthNonneg : (0 : ℚ) ≤ length := Nat.cast_nonneg length
  have positive : 0 < time := by linarith
  suffices nearest stop ≤ time from absurd running (not_lt.mpr this)
  by_cases early : (stop : ℚ) ≤ time
  · exact (nearest_mono (Nat.cast_nonneg stop) early).trans_eq kept
  · have lost := sub_nearest_le (start : ℚ)
    have later : 0 < start := by
      rw [Nat.pos_iff_ne_zero]
      rintro rfl
      simp only [Nat.cast_zero, nearest_zero] at *
      linarith
    have counted : (0 : ℚ) < start := by exact_mod_cast later
    have nearestPositive : 0 < nearest (start : ℚ) := by
      have one : nearest ((1 : ℕ) : ℚ) = (1 : ℕ) := nearest_natCast (by decide)
      have ordered := nearest_natCast_mono (show 1 ≤ start from later)
      rw [one, Nat.cast_one] at ordered
      linarith
    have places : lastPlace (start : ℚ) ≤ lastPlace time :=
      (lastPlace_le_nearest counted).trans (lastPlace_mono nearestPositive started)
    have powers : (2 : ℚ) ^ lastPlace (start : ℚ) ≤ 2 ^ lastPlace time :=
      zpow_le_zpow_right₀ one_le_two places
    exact (nearest_eq_of_lt_half positive kept (not_le.mp early).le (by linarith)).le

/-- Up to the power of two that no significand reaches, taking one away loses nothing. -/
theorem nearest_sub_one {number : ℚ} (kept : nearest number = number) (whole : 1 ≤ number)
    (small : number ≤ 2 ^ 53) : nearest (number - 1) = number - 1 := by
  rcases small.lt_or_eq with below | rfl
  · rcases whole.eq_or_lt with rfl | more
    · rw [sub_self, nearest_zero]
    obtain ⟨factor, multiple⟩ := exists_multiple_of_kept kept
    have place : lastPlace number ≤ max ((52 : ℤ) - 52) (-1074) :=
      lastPlace_le (by linarith) (by exact_mod_cast below)
    obtain ⟨one, oneEq⟩ := exists_multiple 1 (show lastPlace number ≤ 0 by omega)
    have same : number - 1 = (factor - one : ℤ) * 2 ^ lastPlace number := by
      rw [zpow_zero, mul_one, Int.cast_one] at oneEq
      push_cast
      rw [sub_mul, ← oneEq, ← multiple]
    rw [same]
    apply nearest_eq_of_multiple
    rw [← same]
    exact lastPlace_mono (by linarith) (by linarith)
  · have counted := nearest_natCast (show 2 ^ 53 - 1 ≤ 2 ^ 53 by decide)
    norm_num at counted ⊢
    exact counted

/-- From the power of two that no significand reaches, numbers are rounded to even ones. -/
theorem exists_nearest_eq_two_mul {number : ℚ} (great : 2 ^ 53 ≤ number) :
    ∃ half : ℤ, nearest number = 2 * half := by
  have place : 1 ≤ lastPlace number := by
    have reached : max ((53 : ℤ) - 52) (-1074) ≤ lastPlace number :=
      le_lastPlace (by exact_mod_cast great)
    omega
  obtain ⟨half, same⟩ := exists_multiple (roundEven (number / 2 ^ lastPlace number)) place
  rw [zpow_one] at same
  exact ⟨half, by rw [nearest, same, mul_comm]⟩

/-- Beyond that power of two, taking one away takes nothing or at least two. -/
theorem nearest_sub_one_of_great {number : ℚ} (kept : nearest number = number)
    (great : 2 ^ 53 < number) :
    2 ^ 53 ≤ nearest (number - 1) ∧
      (nearest (number - 1) = number ∨ nearest (number - 1) ≤ number - 2) := by
  have power : nearest (2 ^ 53) = 2 ^ 53 := by
    exact_mod_cast nearest_natCast (le_refl (2 ^ 53))
  obtain ⟨half, even⟩ := exists_nearest_eq_two_mul great.le
  rw [kept] at even
  have next : 2 ^ 53 + 2 ≤ number := by
    rw [even] at great ⊢
    have counted : (2 : ℤ) ^ 53 < 2 * half := by exact_mod_cast great
    have above : (2 : ℤ) ^ 53 + 2 ≤ 2 * half := by omega
    exact_mod_cast above
  obtain ⟨lower, lowerEven⟩ := exists_nearest_eq_two_mul
    (show (2 : ℚ) ^ 53 ≤ number - 1 by linarith)
  have least := nearest_mono (by positivity) (show (2 : ℚ) ^ 53 ≤ number - 1 by linarith)
  have most := nearest_mono (by linarith) (sub_le_self number zero_le_one)
  rw [power] at least
  refine ⟨least, ?_⟩
  rw [kept] at most
  rw [lowerEven, even] at most ⊢
  have ordered : 2 * lower ≤ 2 * half := by exact_mod_cast most
  rcases eq_or_lt_of_le ordered with same | below
  · left
    exact_mod_cast same
  · right
    have apart : 2 * lower ≤ 2 * half - 2 := by omega
    exact_mod_cast apart

end ArrivalRamp.Binary64
