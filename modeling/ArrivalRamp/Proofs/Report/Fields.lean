import ArrivalRamp.Calendar.Timestamp
import ArrivalRamp.Decimal.Fixed
import ArrivalRamp.Proofs.Decimal.Padded
import ArrivalRamp.Proofs.Decimal.Reading
import ArrivalRamp.Proofs.Text.Fields

/-!
The texts of numbers and instants can be fields: a number of any size or none, and a timestamp of any
year or none.
-/

namespace ArrivalRamp

open Text

namespace Decimal

theorem isField_digits (value : ℕ) : IsField (digits value) :=
  isField_of_isDigit fun _ => isDigit_of_mem_digits

theorem isField_natural (value : ℕ) : IsField (natural value).toList := by
  rw [natural, String.toList_ofList]
  exact isField_digits value

theorem isField_padded (width value : ℕ) : IsField (padded width value) :=
  isField_of_isDigit fun _ => isDigit_of_mem_padded

theorem isField_integer (value : ℤ) : IsField (integer value).toList := by
  rw [toList_integer]
  split_ifs
  · exact (isField_digits _).cons (by decide)
  · exact isField_digits _

theorem isField_fixed (places : ℕ) (value : Float) : IsField (fixed places value).toList := by
  unfold fixed
  split
  · next negative significand exponent _ =>
    dsimp only
    rw [String.toList_ofList]
    have numeral (scaled : ℕ) := isField_padded (places + 1) scaled
    refine IsField.append (IsField.append ?sign ?whole) ?decimals
    case sign => split_ifs <;> decide
    case whole => exact fun character inside => numeral _ character (List.mem_of_mem_take inside)
    case decimals =>
      split_ifs
      · decide
      · refine IsField.cons (fun character inside => ?_) (by decide)
        exact numeral _ character (List.mem_of_mem_drop inside)
  · unfold Layout.plain
    dsimp only
    split <;> decide

end Decimal

namespace Timestamp

open Decimal

theorem isField_yearText (year : ℤ) : IsField (yearText year) := by
  unfold yearText
  split_ifs
  · exact isField_padded 4 _
  all_goals exact (isField_padded 4 _).cons (by decide)

theorem isField_dateText (date : Date) : IsField (dateText date) := by
  have pair (value : ℕ) : IsField ('-' :: padded 2 value) := (isField_padded 2 value).cons (by decide)
  exact ((isField_yearText date.year).append (pair date.month)).append (pair date.day)

theorem isField_timeText (millis : ℕ) : IsField (timeText millis) := by
  have pair (value : ℕ) : IsField (':' :: padded 2 value) := (isField_padded 2 value).cons (by decide)
  have fraction : IsField ('.' :: padded 3 (millis % 1000)) :=
    (isField_padded 3 _).cons (by decide)
  exact (((isField_padded 2 _).append (pair _)).append (pair _)).append fraction

/-- A timestamp has four digits in its year or more, or is a number. -/
theorem isField_write (instant : ℤ) : IsField (write instant).toList := by
  unfold write
  dsimp only
  split_ifs
  · rw [String.toList_ofList]
    exact ((isField_dateText _).append ((isField_timeText _).cons (by decide))).append (by decide)
  · exact isField_integer instant

end Timestamp

end ArrivalRamp
