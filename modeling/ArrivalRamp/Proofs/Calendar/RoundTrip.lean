import ArrivalRamp.Proofs.Calendar.Date
import ArrivalRamp.Proofs.Calendar.Timestamp
import ArrivalRamp.Proofs.Decimal.Padded

/-!
A timestamp is read back as the instant that it writes, in each year of four digits.
-/

namespace ArrivalRamp

theorem Text.length_le_byteCount (text : List Char) : text.length ≤ byteCount text := by
  induction text with
  | nil => exact le_rfl
  | cons character rest ih =>
      rw [List.length_cons, byteCount]
      have own := character.utf8Size_pos
      omega

namespace Timestamp

open Decimal

section Parts

variable {value : ℕ} (rest : List Char)

/-- A pair of digits is read as the number that it writes. -/
theorem readPair_padded (small : value < 100) :
    readPair (padded 2 value ++ rest) = .ok (value, rest) := by
  have tens : value / 10 < 10 := by omega
  have ones : value % 10 < 10 := Nat.mod_lt value (by decide)
  rw [padded_two small]
  change (if (value / 10).digitChar.isDigit && (value % 10).digitChar.isDigit then
    Except.ok (10 * digitValue (value / 10).digitChar + digitValue (value % 10).digitChar, rest)
    else .error Flaw.invalid) = _
  rw [isDigit_digitChar tens, isDigit_digitChar ones, digitValue_digitChar tens,
    digitValue_digitChar ones, Bool.and_self, if_pos rfl, Nat.div_add_mod]

theorem readMark_of_mem {mark : Char} {marks : List Char} (known : mark ∈ marks) :
    readMark marks (mark :: rest) = .ok rest :=
  if_pos known

theorem readFraction_padded (small : value < 1000) :
    readFraction ('.' :: (padded 3 value ++ 'Z' :: rest)) = .ok (value, 'Z' :: rest) := by
  have width : (padded 3 value).length = 3 := length_padded small
  have figures : (padded 3 value ++ 'Z' :: rest).takeWhile Char.isDigit = padded 3 value := by
    rw [List.takeWhile_append_of_pos fun digit inside => isDigit_of_mem_padded inside]
    exact List.append_nil _
  have nonempty : (padded 3 value).isEmpty = false := by
    rw [List.isEmpty_eq_false_iff, ← List.length_pos_iff, width]
    decide
  have more : (padded 3 value ++ 'Z' :: rest).isEmpty = false := by simp
  rw [readFraction, figures, more, nonempty, List.take_left' width, List.drop_left,
    ofDigits_padded]
  rfl

end Parts

theorem yearText_of_mem {year : ℤ} (low : 0 ≤ year) (high : year ≤ 9999) :
    yearText year = padded 4 year.toNat := by
  unfold yearText
  rw [if_pos (by simp [low, high])]

/-- A date is read from its characters. -/
theorem readDate_dateText {date : Date} (valid : date.isValid) (low : 0 ≤ date.year)
    (high : date.year ≤ 9999) (rest : List Char) :
    readDate (dateText date ++ rest) = .ok (date, rest) := by
  obtain ⟨monthLe, dayLe⟩ := Date.le_of_isValid valid
  obtain ⟨year, month, day⟩ := date
  obtain ⟨count, rfl⟩ := Int.eq_ofNat_of_zero_le low
  dsimp only at *
  have small : count < 10000 := by omega
  have text : dateText ⟨count, month, day⟩ ++ rest = padded 2 (count / 100) ++
      (padded 2 (count % 100) ++ '-' :: (padded 2 month ++ '-' :: (padded 2 day ++ rest))) := by
    unfold dateText
    rw [yearText_of_mem low high, Int.toNat_natCast, padded_four small]
    simp only [List.append_assoc, List.cons_append]
  have same : 100 * ((count / 100 : ℕ) : ℤ) + (count % 100 : ℕ) = count := by
    omega
  rw [text]
  simp only [readDate, bind_eq_ok_iff]
  refine ⟨_, readPair_padded _ (by omega), _, readPair_padded _ (by omega), _,
    readMark_of_mem _ (by decide), _, readPair_padded _ (by omega), _,
    readMark_of_mem _ (by decide), _, readPair_padded _ (by omega), ?_⟩
  dsimp only
  rw [same, if_pos valid]
  rfl

/-- The time of a day is its hours, minutes, seconds and milliseconds. -/
theorem timeText_append (millis : ℕ) (rest : List Char) :
    timeText millis ++ rest = padded 2 (millis / 3600000) ++ ':' ::
      (padded 2 (millis / 60000 % 60) ++ ':' :: (padded 2 (millis / 1000 % 60) ++
        '.' :: (padded 3 (millis % 1000) ++ rest))) := by
  unfold timeText
  simp only [List.append_assoc, List.cons_append]

theorem byteCount_ge (date : Date) (millis : ℕ) :
    19 ≤ Text.byteCount (dateText date ++ 'T' :: (timeText millis ++ ['Z'])) := by
  have unsigned := le_length_padded 4 date.year.toNat
  have signed := le_length_padded 4 date.year.natAbs
  have month := le_length_padded 2 date.month
  have day := le_length_padded 2 date.day
  have hours := le_length_padded 2 (millis / 3600000)
  have minutes := le_length_padded 2 (millis / 60000 % 60)
  have seconds := le_length_padded 2 (millis / 1000 % 60)
  have yearLong : 4 ≤ (yearText date.year).length := by
    unfold yearText
    split
    · exact unsigned
    · exact signed.trans (Nat.le_succ _)
  refine le_trans ?_ (Text.length_le_byteCount _)
  unfold dateText timeText
  simp only [List.length_append, List.length_cons]
  omega

/-- A date and a time of day are read as their instant. -/
theorem read_dateText_timeText {date : Date} (valid : date.isValid) (low : 0 ≤ date.year)
    (high : date.year ≤ 9999) {millis : ℕ} (inside : millis < 86400000) :
    Timestamp.read (dateText date ++ 'T' :: timeText millis ++ ['Z']) =
      .ok (date.toDays * dayMillis + millis) := by
  have long := byteCount_ge date millis
  have time : ¬(24 ≤ millis / 3600000 || 60 ≤ millis / 60000 % 60 || 60 < millis / 1000 % 60) := by
    simp only [Bool.or_eq_true, decide_eq_true_eq]
    omega
  unfold Timestamp.read
  rw [List.append_assoc, List.cons_append, if_neg (not_lt.mpr long), timeText_append]
  simp only [bind_eq_ok_iff, test_eq_ok_iff]
  refine ⟨_, readDate_dateText valid low high _, _, readMark_of_mem _ (by decide), _,
    readPair_padded _ (by omega), _, readMark_of_mem _ (by decide), _,
    readPair_padded _ (by omega), _, readMark_of_mem _ (by decide), _,
    readPair_padded _ (by omega), _, readFraction_padded _ (by omega), time, _, rfl,
    by decide, by decide, ?_⟩
  have hour : (millis / 3600000 : ℕ) * 3600000 + (millis / 60000 % 60) * 60000 +
      (millis / 1000 % 60) * 1000 + millis % 1000 = millis := by
    omega
  refine congrArg Except.ok ?_
  dsimp only
  omega

section Year

variable {instant : ℤ} (low : 0 ≤ (Date.ofDays (instant / dayMillis)).year)
  (high : (Date.ofDays (instant / dayMillis)).year ≤ 9999)

include low high

/-- Each day of a year of four digits has a timestamp. -/
theorem toList_write :
    (write instant).toList = dateText (Date.ofDays (instant / dayMillis)) ++
      'T' :: timeText (instant % dayMillis).toNat ++ ['Z'] := by
  have valid := Date.isValid_ofDays (instant / dayMillis)
  have after := Date.toDays_ge valid low
  have before := Date.toDays_le valid high
  rw [Date.toDays_ofDays] at after before
  have first : firstDay ≤ -730000 := by decide
  have last : 3000000 ≤ lastDay := by decide
  unfold write
  dsimp only
  rw [if_pos (by simp; omega), String.toList_ofList]

/-- A timestamp starts with a digit, has a mark among its digits, and ends with that of its zone. -/
theorem exists_toList_write_eq :
    ∃ digit rest, (write instant).toList = digit :: rest ++ ['Z'] ∧ digit.isDigit ∧ '-' ∈ rest := by
  have long := le_length_padded 4 (Date.ofDays (instant / dayMillis)).year.toNat
  obtain ⟨digit, digits, year⟩ := List.exists_cons_of_length_pos (long.trans' (by decide : 0 < 4))
  have decimal : digit.isDigit := isDigit_of_mem_padded (year ▸ List.mem_cons_self)
  rw [toList_write low high, dateText, yearText_of_mem low high, year]
  exact ⟨digit, _, rfl, decimal, by simp⟩

/-- A timestamp of a year of four digits is read as the instant that it writes. -/
theorem read_write :
    Timestamp.read (write instant).toList = .ok instant := by
  have valid := Date.isValid_ofDays (instant / dayMillis)
  have inside : (instant % dayMillis).toNat < 86400000 := by
    unfold dayMillis
    omega
  rw [toList_write low high, read_dateText_timeText valid low high inside, Date.toDays_ofDays,
    Int.toNat_of_nonneg (Int.emod_nonneg instant (by decide)), Int.ediv_mul_add_emod]

end Year

end Timestamp

end ArrivalRamp
