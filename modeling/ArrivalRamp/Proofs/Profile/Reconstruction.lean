import ArrivalRamp.Proofs.Calendar.RoundTrip
import ArrivalRamp.Proofs.Decimal.Reading
import ArrivalRamp.Proofs.Profile.Projection

/-!
A finished run is reconstructed from its end and its length. The end may be given as a number or as
a timestamp, and the length in whole milliseconds.
-/

namespace ArrivalRamp

namespace RunStop

theorem readInstant?_of_isDigit {digit : Char} (decimal : digit.isDigit) (rest : List Char) :
    readInstant? (digit :: rest) = ((Decimal.ofDigits? (digit :: rest)).map Int.ofNat).filter
      fun instant => Word.minInstant ≤ instant && instant ≤ Word.maxInstant := by
  unfold readInstant?
  dsimp only
  split
  · next same =>
    obtain ⟨rfl, -⟩ := List.cons.inj same
    cases decimal
  · next same =>
    obtain ⟨rfl, -⟩ := List.cons.inj same
    cases decimal
  · rfl

theorem readInstant?_minus (digits : List Char) :
    readInstant? ('-' :: digits) =
      ((Decimal.ofDigits? digits).map fun magnitude => -Int.ofNat magnitude).filter
        fun instant => Word.minInstant ≤ instant && instant ≤ Word.maxInstant :=
  rfl

/-- The numeral of an instant is read back. -/
theorem readInstant?_integer {instant : ℤ} (low : Word.minInstant ≤ instant)
    (high : instant ≤ Word.maxInstant) :
    readInstant? (Decimal.integer instant).toList = some instant := by
  have inside : (Word.minInstant ≤ instant && instant ≤ Word.maxInstant) = true := by
    simp [low, high]
  rw [Decimal.toList_integer]
  split_ifs with negative
  · have magnitude : -Int.ofNat instant.natAbs = instant := by
      rw [Int.ofNat_eq_natCast]
      omega
    rw [readInstant?_minus, Decimal.ofDigits?_digits, Option.map_some, magnitude,
      Option.filter_some, if_pos inside]
  · have magnitude : Int.ofNat instant.natAbs = instant :=
      Int.natAbs_of_nonneg (not_lt.mp negative)
    obtain ⟨digit, rest, same, decimal⟩ := Decimal.exists_digits_eq_cons instant.natAbs
    rw [same, readInstant?_of_isDigit decimal, ← same, Decimal.ofDigits?_digits, Option.map_some,
      magnitude, Option.filter_some, if_pos inside]

/-- A text that starts with a digit or a minus and ends with no blank is no word. It gives the end
that it reads as, and as a timestamp only when it is no number. -/
theorem ofArgument_eq_ok {argument : String} {first : Char} {rest : List Char} {instant : ℤ}
    (text : argument.toList = first :: rest) (signed : first.isDigit ∨ first = '-')
    (last : ∀ character ∈ argument.toList.getLast?, Text.isBlank character = false)
    (read : readInstant? argument.toList = some instant ∨
      readInstant? argument.toList = none ∧ Timestamp.read argument.toList = .ok instant) :
    ofArgument argument = .ok (.instant instant) := by
  have kept : Text.isBlank first = false := by
    rcases signed with decimal | rfl
    · exact Text.isBlank_of_isDigit decimal
    · rfl
  have lower : first.toLower ≠ 'n' := by
    rcases signed with decimal | rfl
    · rw [Text.toLower_of_isDigit decimal]
      rintro rfl
      cases decimal
    · decide
  have trimmed : Text.trim Text.isBlank argument.toList = argument.toList := by
    refine Text.trim_eq_self ?_ last
    rw [text]
    rintro _ ⟨rfl⟩
    exact kept
  have word : ¬argument.toList.map Char.toLower = ['n', 'o', 'w'] := by
    rw [text, List.map_cons]
    intro same
    exact lower (List.cons.inj same).1
  unfold ofArgument
  dsimp only
  rw [trimmed, if_neg word]
  rcases read with number | ⟨none, timestamp⟩
  · rw [number]
  · rw [none, timestamp]

/-- An instant is the end that its numeral gives. -/
theorem ofArgument_integer {instant : ℤ} (low : Word.minInstant ≤ instant)
    (high : instant ≤ Word.maxInstant) :
    ofArgument (Decimal.integer instant) = .ok (.instant instant) := by
  have signed : ∀ character ∈ (Decimal.integer instant).toList,
      character.isDigit ∨ character = '-' := by
    intro character inside
    rw [Decimal.toList_integer] at inside
    split_ifs at inside
    · rcases List.mem_cons.mp inside with rfl | digit
      · exact .inr rfl
      · exact .inl (Decimal.isDigit_of_mem_digits digit)
    · exact .inl (Decimal.isDigit_of_mem_digits inside)
  have nonempty : (Decimal.integer instant).toList ≠ [] := by
    rw [Decimal.toList_integer]
    split_ifs
    · exact List.cons_ne_nil _ _
    · exact Nat.toDigits_ne_nil
  obtain ⟨first, rest, text⟩ := List.exists_cons_of_ne_nil nonempty
  refine ofArgument_eq_ok text (signed first (text ▸ List.mem_cons_self)) ?_
    (.inl (readInstant?_integer low high))
  intro character last
  rcases signed character (List.mem_of_getLast? last) with decimal | rfl
  · exact Text.isBlank_of_isDigit decimal
  · rfl

/-- An instant of a year of four digits is the end that its timestamp gives. The marks between the
digits of a timestamp keep it from being a number. -/
theorem ofArgument_write {instant : ℤ}
    (low : 0 ≤ (Date.ofDays (instant / Timestamp.dayMillis)).year)
    (high : (Date.ofDays (instant / Timestamp.dayMillis)).year ≤ 9999) :
    ofArgument (Timestamp.write instant) = .ok (.instant instant) := by
  obtain ⟨digit, rest, text, decimal, mark⟩ := Timestamp.exists_toList_write_eq low high
  refine ofArgument_eq_ok text (.inl decimal) ?_ (.inr ⟨?_, Timestamp.read_write low high⟩)
  · rw [text, List.getLast?_append]
    rintro _ ⟨rfl⟩
    rfl
  · have other : ¬(digit :: (rest ++ ['Z'])).all Char.isDigit := by
      rw [List.all_eq_true]
      intro digits
      exact absurd (digits '-' (by simp [mark])) (by decide)
    rw [text, List.cons_append, readInstant?_of_isDigit decimal, Decimal.ofDigits?]
    simp [other]

end RunStop

namespace RunWindow

open Binary64

/-- A report of whole milliseconds is the length of the window, as far as instants go back. -/
theorem ofStop_of_rational_eq {reported : Float} {millis : ℕ} (finite : reported.isFinite)
    (same : rational reported = millis) (positive : 0 < millis) (small : millis ≤ 2 ^ 53)
    (stop : ℤ) (fallback : ℕ) :
    ofStop stop (some reported) fallback = ⟨Word.clampInstant (stop - millis), stop⟩ := by
  have above : 0 < rational reported := by
    rw [same]
    exact_mod_cast positive
  have whole : ⌊(millis + 1 / 2 : ℚ)⌋₊ = millis := by
    rw [Nat.floor_eq_iff (by positivity)]
    constructor <;> linarith
  have fits : (millis : ℤ) ≤ Word.maxInstant := by
    unfold Word.maxInstant
    omega
  apply ofStop_eq
  rw [Option.bind_some, reportedMillis?_of_pos finite above, same, whole, min_eq_left fits,
    Option.getD_some]

end RunWindow

namespace Profile

open Binary64

/-- The window and the records of a finished run are found again from its end, as a number or as a
timestamp of a year of four digits, and from its length in whole milliseconds. -/
theorem project_ofStop (profile : Profile) (present : ℤ) {stop : ℤ} {millis : ℕ}
    {window : RunWindow} (low : Word.minInstant ≤ stop) (high : stop ≤ Word.maxInstant)
    (positive : 0 < millis) (small : millis ≤ 2 ^ 53)
    (reported : RunWindow.ofStop stop (some (Word.toFloat millis)) profile.total = window) :
    profile.project present (Decimal.integer stop) (some (Decimal.natural millis)) =
        .ok (window, profile.records window) ∧
      (0 ≤ (Date.ofDays (stop / Timestamp.dayMillis)).year →
        (Date.ofDays (stop / Timestamp.dayMillis)).year ≤ 9999 →
        profile.project present (Timestamp.write stop) (some (Decimal.natural millis)) =
          .ok (window, profile.records window)) := by
  have word : millis ≤ Word.maxCount := small.trans (by decide)
  have rounded : rational (Word.toFloat millis) = millis := by
    rw [rational_toFloat word, nearest_natCast small]
  obtain ⟨finite, same⟩ := Elapsed.ofArgument_natural positive small
  have read : RunWindow.ofStop stop (some (Elapsed.ofArgument (Decimal.natural millis)))
      profile.total = window := by
    rw [← reported, RunWindow.ofStop_of_rational_eq finite same positive small,
      RunWindow.ofStop_of_rational_eq (isFinite_toFloat word) rounded positive small]
  have projected : ∀ {argument}, RunStop.ofArgument argument = .ok (.instant stop) →
      profile.project present argument (some (Decimal.natural millis)) =
        .ok (window, profile.records window) := by
    intro argument accepted
    rw [project_eq profile accepted, Option.map_some, RunStop.millis, read]
  refine ⟨projected (RunStop.ofArgument_integer low high), ?_⟩
  intro unsigned fourDigits
  exact projected (RunStop.ofArgument_write unsigned fourDigits)

/-- A run that ended in the last millisecond of a leap day before 1970. -/
theorem project_ofStop_leapDay :
    (Word.minInstant ≤ -2077660800001 ∧ -2077660800001 ≤ Word.maxInstant ∧
      Timestamp.write (-2077660800001) = "1904-02-29T23:59:59.999Z" ∧
      RunWindow.ofStop (-2077660800001) (some (Word.toFloat 3500)) twoStages.total =
        ⟨-2077660803501, -2077660800001⟩) ∧
      twoStages.project 0 "-2077660800001" (some "3500") =
        .ok (⟨-2077660803501, -2077660800001⟩,
          twoStages.records ⟨-2077660803501, -2077660800001⟩) ∧
      twoStages.project 0 "1904-02-29T23:59:59.999Z" (some "3500") =
        .ok (⟨-2077660803501, -2077660800001⟩,
          twoStages.records ⟨-2077660803501, -2077660800001⟩) := by
  have low : Word.minInstant ≤ -2077660800001 := by decide
  have high : -2077660800001 ≤ Word.maxInstant := by decide
  have written : Timestamp.write (-2077660800001) = "1904-02-29T23:59:59.999Z" := by
    decide +kernel
  have reported : RunWindow.ofStop (-2077660800001) (some (Word.toFloat 3500)) twoStages.total =
      ⟨-2077660803501, -2077660800001⟩ := by
    decide +kernel
  have found := project_ofStop twoStages 0 low high (show 0 < 3500 by decide) (by decide) reported
  have timestamp := found.2 (by decide +kernel) (by decide +kernel)
  rw [written] at timestamp
  exact ⟨⟨low, high, written, reported⟩, found.1, timestamp⟩

end Profile

end ArrivalRamp
