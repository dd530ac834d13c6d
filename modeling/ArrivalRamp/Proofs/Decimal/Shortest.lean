import ArrivalRamp.Decimal.Shortest
import ArrivalRamp.Proofs.Decimal.Figures

/-!
The shortest digits of a binary64 number are digits, and there is at least one of them. So the text
of a finite number in the layout of JSON is a signed numeral with an exponent or none.
-/

namespace ArrivalRamp.Decimal

/-- No exponent, or a letter, a sign and digits. -/
inductive IsExponent : List Char → Prop
  | none : IsExponent []
  | signed {sign : Char} {figures : List Char} (signs : sign = '-' ∨ sign = '+')
      (some : figures ≠ []) (all : ∀ digit ∈ figures, digit.isDigit) :
      IsExponent ('e' :: sign :: figures)

theorem IsNumeral.digits (value : ℕ) : IsNumeral Char.isDigit (digits value) :=
  .whole Nat.toDigits_ne_nil fun _ => isDigit_of_mem_digits

theorem isSigned_integer (value : ℤ) : IsSigned Char.isDigit (integer value).toList := by
  rw [toList_integer]
  split_ifs
  · exact .negative (.digits _)
  · exact .positive (.digits _)

/-- Only zero has no digits but zeros. -/
theorem trimEnd_digits_ne_nil {value : ℕ} (positive : value ≠ 0) :
    Text.trimEnd (· == '0') (digits value) ≠ [] := by
  intro empty
  have zeros : ∀ digit ∈ digits value, digit = '0' := by
    simpa [Text.trimEnd] using empty
  have zero := (ofDigits_eq_zero_iff fun _ => isDigit_of_mem_digits).mpr zeros
  rw [ofDigits_eq, digits, Nat.ofDigitChars_ten_toDigits] at zero
  exact positive zero

namespace Shortest

open Binary64

theorem div_le_roundDiv (tie : Tie) (numerator denominator : ℕ) :
    numerator / denominator ≤ roundDiv tie numerator denominator := by
  unfold roundDiv
  dsimp only
  split_ifs
  · exact le_rfl
  · exact Nat.le_succ _
  · cases tie with
    | toEven => exact Nat.le_add_right _ _
    | away => exact Nat.le_succ _

namespace Interval

variable {range : Interval} (above : 0 < range.lower)

include above

/-- Zero does not reach an interval above it, whatever the scales of both are. -/
theorem ne_zero_of_fits {binary decimal candidate : ℕ} (positive : 0 < binary)
    (fits : (if range.closed then
      decide (range.lower * binary ≤ candidate * decimal) &&
        decide (candidate * decimal ≤ range.upper * binary)
      else decide (range.lower * binary < candidate * decimal) &&
        decide (candidate * decimal < range.upper * binary)) = true) : candidate ≠ 0 := by
  rintro rfl
  have reached := Nat.mul_pos above positive
  split_ifs at fits
  all_goals
    simp only [Bool.and_eq_true, decide_eq_true_eq] at fits
    omega

/-- A number that is found in an interval above zero is not zero. -/
theorem ne_zero_of_nearest? {tie : Tie} {grid : ℤ} {found : ℕ}
    (nearest : range.nearest? tie grid = some found) : found ≠ 0 := by
  have binary : 0 < Nat.pow 2 range.exponent.toNat * Nat.pow 10 (-grid).toNat :=
    Nat.mul_pos (Nat.pow_pos (by decide)) (Nat.pow_pos (by decide))
  unfold nearest? at nearest
  dsimp only at nearest
  split at nearest
  case h_1 below _ =>
    have low := ne_zero_of_fits above binary below
    cases nearest
    exact Nat.ne_of_gt ((Nat.pos_of_ne_zero low).trans_le (div_le_roundDiv tie _ _))
  case h_2 below _ =>
    cases nearest
    exact ne_zero_of_fits above binary below
  case h_3 =>
    cases nearest
    exact Nat.succ_ne_zero _
  case h_4 => cases nearest

end Interval

/-- A positive number has digits. -/
theorem significant_figures (tie : Tie) {significand : ℕ} (positive : significand ≠ 0)
    (exponent : ℤ) :
    (significant tie significand exponent).figures ≠ [] ∧
      ∀ digit ∈ (significant tie significand exponent).figures, digit.isDigit := by
  have above : 0 < (interval significand exponent).lower := by
    unfold interval
    dsimp only
    split_ifs <;> omega
  unfold significant
  dsimp only
  split
  case h_1 candidate grid found =>
    obtain ⟨count, -, nearest⟩ := List.exists_of_findSome?_eq_some found
    obtain ⟨same, near, rfl, -⟩ := Option.map_eq_some_iff.mp nearest
    refine ⟨trimEnd_digits_ne_nil (Interval.ne_zero_of_nearest? above near), ?_⟩
    intro digit inside
    exact isDigit_of_mem_digits ((Text.trimEnd_prefix _).subset inside)
  case h_2 => exact ⟨Nat.toDigits_ne_nil, fun _ => isDigit_of_mem_digits⟩

end Shortest

namespace Significant

variable {number : Significant}

theorem isNumeral_positional (some : number.figures ≠ [])
    (all : ∀ digit ∈ number.figures, digit.isDigit) :
    IsNumeral Char.isDigit (number.positional true) := by
  have zeros (count : ℕ) : ∀ digit ∈ List.replicate count '0', digit.isDigit := by
    intro digit inside
    rw [List.eq_of_mem_replicate inside]
    rfl
  unfold positional
  dsimp only
  rw [if_pos (rfl : true = true)]
  split_ifs with small whole
  · refine .fraction (List.cons_ne_nil '0' []) (zeros 1) ?_ ?_
    · exact List.append_ne_nil_of_right_ne_nil _ some
    · exact List.forall_mem_append.mpr ⟨zeros _, all⟩
  · refine .fraction ?_ ?_ (List.cons_ne_nil '0' []) (zeros 1)
    · exact List.append_ne_nil_of_left_ne_nil some _
    · exact List.forall_mem_append.mpr ⟨all, zeros _⟩
  · have inside : number.point.toNat < number.figures.length := by omega
    refine .fraction ?_ ?_ ?_ ?_
    · rw [Ne, List.take_eq_nil_iff]
      exact not_or.mpr ⟨by omega, some⟩
    · exact fun digit taken => all digit (List.mem_of_mem_take taken)
    · rw [Ne, List.drop_eq_nil_iff]
      omega
    · exact fun digit left => all digit (List.mem_of_mem_drop left)

/-- Scientific notation is a numeral and an exponent. -/
theorem exists_scientific (some : number.figures ≠ [])
    (all : ∀ digit ∈ number.figures, digit.isDigit) :
    ∃ mantissa exponent, IsNumeral Char.isDigit mantissa ∧ IsExponent exponent ∧
      number.scientific = mantissa ++ exponent := by
  refine ⟨_, _, ?_, ?_, rfl⟩
  · split
    case h_1 first second others same =>
      rw [same, List.forall_mem_cons] at all
      exact .fraction (List.cons_ne_nil first []) (List.forall_mem_singleton.mpr all.1)
        (List.cons_ne_nil second others) all.2
    case h_2 => exact .whole some all
  · refine .signed ?_ Nat.toDigits_ne_nil fun _ => isDigit_of_mem_digits
    split_ifs
    · exact .inl rfl
    · exact .inr rfl

end Significant

/-- The text of a number in JSON is a numeral, with a sign and an exponent or without, or that of no
value. -/
theorem Layout.exists_write_json (value : Float) :
    (∃ number exponent, IsSigned Char.isDigit number ∧ IsExponent exponent ∧
      (json.write value).toList = number ++ exponent) ∨ json.write value = "null" := by
  unfold write
  split
  case h_1 negative significand exponent decoded =>
    left
    have unsigned : ∃ number power, IsNumeral Char.isDigit number ∧ IsExponent power ∧
        (if significand = 0 then '0' :: (if json.keepsPoint then ['.', '0'] else [])
          else if json.positional (Shortest.significant json.tie significand exponent).point then
            (Shortest.significant json.tie significand exponent).positional json.keepsPoint
          else (Shortest.significant json.tie significand exponent).scientific) =
            number ++ power := by
      by_cases zero : significand = 0
      · have zeros : ∀ digit ∈ ['0'], digit.isDigit := List.forall_mem_singleton.mpr rfl
        rw [if_pos zero]
        exact ⟨_, [], .fraction (List.cons_ne_nil '0' []) zeros (List.cons_ne_nil '0' [])
          zeros, .none, rfl⟩
      obtain ⟨some, all⟩ := Shortest.significant_figures json.tie zero exponent
      rw [if_neg zero]
      split_ifs
      · exact ⟨_, [], Significant.isNumeral_positional some all, .none, (List.append_nil _).symm⟩
      · exact Significant.exists_scientific some all
    obtain ⟨number, power, numeral, exponent, same⟩ := unsigned
    rw [String.toList_ofList, same]
    cases negative with
    | false => exact ⟨number, power, .positive numeral, exponent, rfl⟩
    | true => exact ⟨'-' :: number, power, .negative numeral, exponent, rfl⟩
  case h_2 => exact .inr rfl

end ArrivalRamp.Decimal
