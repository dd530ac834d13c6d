import ArrivalRamp.Duration.Token
import ArrivalRamp.Proofs.Decimal.Numeral
import ArrivalRamp.Proofs.Text.Runs

/-!
What a duration is: digits of ASCII and the letters of a unit behind them. A token is read from what
is written of it, whatever follows, as long as no `s` follows the letter of the minutes.
-/

namespace ArrivalRamp

namespace TimeUnit

variable {rest : List Char} {unit : TimeUnit}

/-- A unit is read as long as no `s` makes milliseconds of minutes. -/
theorem read_append (apart : unit = .minute → rest.head? ≠ some 's') :
    read (unit.letters ++ rest) = some (unit, rest) := by
  cases unit with
  | millisecond => rfl
  | second => rfl
  | minute =>
      cases rest with
      | nil => rfl
      | cons character rest =>
          have different : character ≠ 's' := by
            rintro rfl
            exact apart rfl rfl
          simp [letters, read, different]
  | hour => rfl

/-- No unit starts with a digit. -/
theorem letters_stops (unit : TimeUnit) (rest : List Char) :
    ∀ character ∈ (unit.letters ++ rest).head?, Text.isDecimalDigit character = false := by
  cases unit <;> · rintro _ ⟨rfl⟩; decide

theorem millis_pos (unit : TimeUnit) : 0 < unit.millis := by
  cases unit <;> decide

theorem mem_all (unit : TimeUnit) : unit ∈ all := by
  cases unit <;> decide

theorem isAlpha_of_mem_letters (unit : TimeUnit) :
    ∀ character ∈ unit.letters, character.isAlpha := by
  rw [← List.all_eq_true]
  cases unit <;> rfl

end TimeUnit

namespace DurationToken

/-- The characters of a token. -/
def write (token : DurationToken) : List Char :=
  token.magnitude ++ token.unit.letters

/-- A token has a magnitude, in digits of ASCII. -/
structure IsProper (token : DurationToken) : Prop where
  nonempty : token.magnitude ≠ []
  ascii : ∀ digit ∈ token.magnitude, digit.isDigit

/-- The milliseconds that a token stands for, whether or not a count can hold them. -/
def exactMillis (token : DurationToken) : ℕ :=
  Decimal.ofDigits token.magnitude * token.unit.millis

/-- The milliseconds that a token stands for when a count can hold its magnitude and them, and none
when it cannot. -/
def value (token : DurationToken) : ℕ :=
  if Decimal.ofDigits token.magnitude ≤ Word.maxCount ∧ token.exactMillis ≤ Word.maxCount then
    token.exactMillis
  else 0

variable {token : DurationToken} {text rest : List Char}

theorem magnitude_le_exactMillis (token : DurationToken) :
    Decimal.ofDigits token.magnitude ≤ token.exactMillis :=
  Nat.le_mul_of_pos_right _ token.unit.millis_pos

theorem value_of_le (fits : token.exactMillis ≤ Word.maxCount) : token.value = token.exactMillis :=
  if_pos ⟨token.magnitude_le_exactMillis.trans fits, fits⟩

theorem value_of_lt (great : Word.maxCount < token.exactMillis) : token.value = 0 :=
  if_neg fun fits => not_le.mpr great fits.2

/-- A magnitude in the digits of any script is read up to its unit. -/
theorem read_write_append (nonempty : token.magnitude ≠ [])
    (digits : ∀ digit ∈ token.magnitude, Text.isDecimalDigit digit)
    (apart : token.unit = .minute → rest.head? ≠ some 's') :
    read (token.write ++ rest) = some (token, rest) := by
  have stops := token.unit.letters_stops rest
  unfold read write
  dsimp only
  rw [List.append_assoc, Text.takeWhile_append_eq digits stops,
    Text.dropWhile_append_eq digits stops, TimeUnit.read_append apart]
  simp [nonempty]

namespace IsProper

variable (proper : token.IsProper)

include proper

theorem isDecimalDigit : ∀ digit ∈ token.magnitude, Text.isDecimalDigit digit :=
  fun digit inside => Text.isDecimalDigit_of_isDigit digit (proper.ascii digit inside)

theorem read_append (apart : token.unit = .minute → rest.head? ≠ some 's') :
    read (token.write ++ rest) = some (token, rest) :=
  read_write_append proper.nonempty proper.isDecimalDigit apart

theorem ofText?_write : ofText? token.write = some token := by
  have apart : token.unit = .minute → ([] : List Char).head? ≠ some 's' := by simp
  have read := proper.read_append apart
  rw [List.append_nil] at read
  unfold ofText?
  rw [read]

/-- The milliseconds of a token are those that it stands for, as far as a count can hold them. -/
theorem millis_eq : token.millis = token.value := by
  have read : Decimal.ofDigits? token.magnitude = some (Decimal.ofDigits token.magnitude) := by
    have all : token.magnitude.all Char.isDigit := List.all_eq_true.mpr proper.ascii
    simp [Decimal.ofDigits?, proper.nonempty, all]
  unfold millis
  rw [read]
  change (if token.exactMillis ≤ Word.maxCount then token.exactMillis else 0) = _
  split_ifs with fits
  · exact (value_of_le fits).symm
  · exact (value_of_lt (not_le.mp fits)).symm

/-- Only zeros stand for no time. -/
theorem exactMillis_eq_zero_iff :
    token.exactMillis = 0 ↔ ∀ digit ∈ token.magnitude, digit = '0' := by
  rw [exactMillis, Nat.mul_eq_zero, or_iff_left token.unit.millis_pos.ne',
    Decimal.ofDigits_eq_zero_iff proper.ascii]

end IsProper

/-- A token that is read is what the text starts with. -/
theorem read_eq_some (found : read text = some (token, rest)) :
    text = token.write ++ rest ∧ token.magnitude ≠ [] ∧
      ∀ digit ∈ token.magnitude, Text.isDecimalDigit digit := by
  unfold read at found
  dsimp only at found
  split_ifs at found with empty
  obtain ⟨⟨unit, others⟩, unitFound, same⟩ := Option.map_eq_some_iff.mp found
  obtain ⟨rfl, rfl⟩ := Prod.mk.inj same
  refine ⟨?_, fun none => empty (List.isEmpty_iff.mpr none), fun _ => List.mem_takeWhile_imp⟩
  unfold write
  dsimp only
  rw [List.append_assoc, ← TimeUnit.eq_append_of_read unitFound,
    List.takeWhile_append_dropWhile]

theorem ofText?_eq_some (found : ofText? text = some token) :
    text = token.write ∧ token.magnitude ≠ [] ∧
      ∀ digit ∈ token.magnitude, Text.isDecimalDigit digit := by
  unfold ofText? at found
  split at found
  · next token read =>
    obtain rfl := Option.some.inj found
    simpa using read_eq_some read
  · cases found

/-- A token that is worth something has its magnitude in digits of ASCII. -/
theorem millis_eq_zero_of_not_isProper (improper : ¬token.IsProper) : token.millis = 0 := by
  have none : Decimal.ofDigits? token.magnitude = none := by
    unfold Decimal.ofDigits?
    rw [if_neg]
    rw [Bool.and_eq_true, decide_eq_true_eq, List.all_eq_true]
    exact fun ⟨nonempty, ascii⟩ => improper ⟨nonempty, ascii⟩
  unfold millis
  rw [none]

end DurationToken

namespace Duration

/-- The text is a token, and a count can hold the milliseconds that it stands for. -/
def Spells (text : String) (millis : ℕ) : Prop :=
  ∃ token : DurationToken, token.IsProper ∧ text.toList = token.write ∧
    token.exactMillis = millis ∧ millis ≤ Word.maxCount

variable {text : String} {millis : ℕ}

theorem Spells.tokenMillis_eq (spells : Spells text millis) : tokenMillis text = millis := by
  obtain ⟨token, proper, written, rfl, fits⟩ := spells
  unfold tokenMillis
  rw [written, proper.ofText?_write]
  exact proper.millis_eq.trans (DurationToken.value_of_le fits)

/-- A text spells the milliseconds that are read from it when there are any. -/
theorem spells_tokenMillis (positive : tokenMillis text ≠ 0) : Spells text (tokenMillis text) := by
  unfold tokenMillis at positive ⊢
  cases found : DurationToken.ofText? text.toList with
  | none => exact absurd (by rw [found]) positive
  | some token =>
      rw [found] at positive
      dsimp only at positive ⊢
      have proper : token.IsProper :=
        of_not_not fun improper => positive (DurationToken.millis_eq_zero_of_not_isProper improper)
      have fits : token.exactMillis ≤ Word.maxCount := by
        refine not_lt.mp fun great => positive ?_
        rw [proper.millis_eq, DurationToken.value_of_lt great]
      refine ⟨token, proper, (DurationToken.ofText?_eq_some found).1, ?_, token.millis_le⟩
      rw [proper.millis_eq, DurationToken.value_of_le fits]

end Duration

end ArrivalRamp
