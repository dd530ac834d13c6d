import ArrivalRamp.Json.Printer
import ArrivalRamp.Proofs.Decimal.Shortest
import ArrivalRamp.Proofs.Json.Cursor

/-!
A number is read up to its end, and its value depends neither on what follows it nor on where it
stands.
-/

namespace ArrivalRamp

theorem Decimal.IsSigned.exists_eq_cons {number : List Char}
    (signed : IsSigned Char.isDigit number) :
    ∃ first others, number = first :: others ∧ (first.isDigit ∨ first = '-') := by
  cases signed with
  | positive numeral =>
      obtain ⟨digit, others, same, decimal⟩ := numeral.exists_eq_cons
      exact ⟨digit, others, same, .inl decimal⟩
  | negative numeral => exact ⟨_, _, rfl, .inr rfl⟩

namespace Json

open Decimal

/-- What may follow a value does not go on with a numeral. -/
theorem EndsValue.stops {rest : List Char} (ends : EndsValue rest) :
    ∀ character ∈ rest.head?, character.isDigit = false ∧ character ≠ '.' := by
  have apart : ∀ character ∈ [',', ']', '\x7d'], character.isDigit = false ∧ character ≠ '.' := by
    simp
  exact fun character first => apart character (ends character first)

/-- Neither does an exponent. -/
theorem EndsValue.stops_exponent {power rest : List Char} (exponent : IsExponent power)
    (ends : EndsValue rest) :
    ∀ character ∈ (power ++ rest).head?, character.isDigit = false ∧ character ≠ '.' := by
  cases exponent with
  | none => exact ends.stops
  | signed =>
      rintro _ ⟨rfl⟩
      exact ⟨rfl, by decide⟩

/-- The value of a number as far as it is in range, with the sign and the digits of its exponent. -/
def NumberParts.scaled? (parts : NumberParts) : Option (Bool × List Char) → Option Json
  | none => parts.value?
  | some (below, figures) =>
    if (Cursor.exponentOverflow? 0 0 figures).isSome then
      if parts.isZero || below then some (.decimal (if parts.negative then -0.0 else 0.0)) else none
    else
      let power := Int.ofNat (ofDigits figures)
      value? { parts with exponent := some (if below then -power else power) }

namespace Cursor

section Parts

variable {number power rest run : List Char} {line column depth : ℕ}

/-- Digits are taken up to the first other character. -/
theorem digits_append (all : ∀ digit ∈ run, digit.isDigit)
    (stops : ∀ character ∈ rest.head?, character.isDigit = false) :
    digits ⟨run ++ rest, line, column, depth⟩ =
      (run, ⟨rest, line, column + run.length, depth⟩) := by
  unfold digits
  dsimp only
  rw [Text.takeWhile_append_eq all stops, List.drop_left]

theorem fraction_none (stops : ∀ character ∈ rest.head?, character ≠ '.') :
    fraction ⟨rest, line, column, depth⟩ = .ok (none, ⟨rest, line, column, depth⟩) := by
  unfold fraction
  split
  · next point => exact absurd rfl (stops '.' point)
  · rfl

theorem fraction_some (some : run ≠ []) (all : ∀ digit ∈ run, digit.isDigit)
    (stops : ∀ character ∈ rest.head?, character.isDigit = false) :
    fraction ⟨'.' :: (run ++ rest), line, column, depth⟩ =
      .ok (run, ⟨rest, line, column + 1 + run.length, depth⟩) := by
  have passed : advance ⟨'.' :: (run ++ rest), line, column, depth⟩ =
      ⟨run ++ rest, line, column + 1, depth⟩ := rfl
  simp [fraction, peek?, passed, digits_append all stops, some]

/-- The digits of a numeral are read into its whole part and its fraction. -/
theorem exists_digits_fraction (numeral : IsNumeral Char.isDigit number) :
    ∃ whole decimals, whole ≠ [] ∧ ∀ rest line column depth,
      (∀ character ∈ rest.head?, character.isDigit = false ∧ character ≠ '.') →
      ∃ next last, digits ⟨number ++ rest, line, column, depth⟩ = (whole, next) ∧
        next.fraction = .ok (decimals, ⟨rest, line, last, depth⟩) := by
  cases numeral with
  | whole some all =>
      refine ⟨number, none, some, fun rest line column depth stops => ?_⟩
      exact ⟨_, _, digits_append all fun character first => (stops character first).1,
        fraction_none fun character first => (stops character first).2⟩
  | @fraction whole decimals some all someDecimals allDecimals =>
      refine ⟨whole, decimals, some, fun rest line column depth stops => ?_⟩
      rw [List.append_assoc]
      exact ⟨_, _, digits_append all (by simp), fraction_some someDecimals allDecimals
        fun character first => (stops character first).1⟩

theorem exponentParts_none (ends : EndsValue rest) :
    exponentParts ⟨rest, line, column, depth⟩ = .ok (none, ⟨rest, line, column, depth⟩) := by
  unfold exponentParts
  rw [if_neg]
  intro mark
  rw [Bool.or_eq_true, decide_eq_true_eq, decide_eq_true_eq] at mark
  rcases mark with small | large
  · exact absurd (ends 'e' small) (by decide)
  · exact absurd (ends 'E' large) (by decide)

theorem exponentParts_signed {sign : Char} (signs : sign = '-' ∨ sign = '+') (some : run ≠ [])
    (all : ∀ digit ∈ run, digit.isDigit)
    (stops : ∀ character ∈ rest.head?, character.isDigit = false) :
    exponentParts ⟨'e' :: sign :: (run ++ rest), line, column, depth⟩ =
      .ok (Option.some (decide (sign = '-'), run, ⟨run ++ rest, line, column + 1 + 1, depth⟩),
        ⟨rest, line, column + 1 + 1 + run.length, depth⟩) := by
  have marked : advance ⟨'e' :: sign :: (run ++ rest), line, column, depth⟩ =
      ⟨sign :: (run ++ rest), line, column + 1, depth⟩ := rfl
  have signed : advance ⟨sign :: (run ++ rest), line, column + 1, depth⟩ =
      ⟨run ++ rest, line, column + 1 + 1, depth⟩ := by
    rcases signs with rfl | rfl <;> rfl
  simp [exponentParts, peek?, marked, signs, signed, digits_append all stops, some]

/-- The sign and the digits of an exponent are read. -/
theorem exists_exponentParts (exponent : IsExponent power) :
    ∃ marked : Option (Bool × List Char), ∀ rest line column depth, EndsValue rest →
      ∃ start last, exponentParts ⟨power ++ rest, line, column, depth⟩ =
        .ok (marked.map fun mark => (mark.1, mark.2, start), ⟨rest, line, last, depth⟩) := by
  cases exponent with
  | none =>
      refine ⟨none, fun rest line column depth ends => ?_⟩
      exact ⟨⟨rest, line, column, depth⟩, column, exponentParts_none ends⟩
  | @signed sign figures signs some all =>
      refine ⟨Option.some (decide (sign = '-'), figures), fun rest line column depth ends => ?_⟩
      exact ⟨_, _, exponentParts_signed signs some all fun character first =>
        (ends.stops character first).1⟩

end Parts

/-- A number has the value of its parts. -/
theorem yields_magnitude {cursor next afterNumeral start : Cursor} {whole rest : List Char}
    {decimals : Option (List Char)} {marked : Option (Bool × List Char)} {line column depth : ℕ}
    (negative : Bool) (some : whole ≠ [])
    (noZeros : ¬∃ second others, whole = '0' :: second :: others)
    (taken : cursor.digits = (whole, next))
    (fraction : next.fraction = .ok (decimals, afterNumeral))
    (exponent : afterNumeral.exponentParts =
      .ok (marked.map fun mark => (mark.1, mark.2, start), ⟨rest, line, column, depth⟩)) :
    Yields ((NumberParts.mk negative whole decimals none).scaled? marked) rest depth
      (cursor.magnitude negative) := by
  unfold magnitude
  simp only [taken]
  split
  · contradiction
  · exact absurd ⟨_, _, rfl⟩ noZeros
  simp only [fraction, bind, Except.bind, exponent]
  cases marked with
  | none =>
      simp only [Option.map_none, NumberParts.scaled?]
      cases NumberParts.value? ⟨negative, whole, decimals, none⟩ with
      | none => exact ⟨_, rfl⟩
      | some value => exact ⟨_, _, rfl⟩
  | some mark =>
      simp only [Option.map_some, NumberParts.scaled?]
      cases exponentOverflow? 0 0 mark.2 with
      | none =>
          simp only [Option.isSome_none, Bool.false_eq_true, if_false]
          cases NumberParts.value? ⟨negative, whole, decimals, _⟩ with
          | none => exact ⟨_, rfl⟩
          | some value => exact ⟨_, _, rfl⟩
      | some count =>
          simp only [Option.isSome_some, if_true]
          by_cases zero : (NumberParts.mk negative whole decimals none).isZero || mark.1
          · rw [if_pos zero, if_pos zero]
            exact ⟨_, _, rfl⟩
          · rw [if_neg zero, if_neg zero]
            exact ⟨_, rfl⟩

/-- After its sign, a number is read in the same way whatever follows it and wherever it stands. -/
theorem exists_magnitude {number power : List Char} (numeral : IsNumeral Char.isDigit number)
    (exponent : IsExponent power) (negative : Bool) :
    ∃ expected, ∀ rest line column depth, EndsValue rest →
      Yields expected rest depth
        (magnitude ⟨number ++ (power ++ rest), line, column, depth⟩ negative) := by
  obtain ⟨whole, decimals, some, readNumeral⟩ := exists_digits_fraction numeral
  obtain ⟨marked, readExponent⟩ := exists_exponentParts exponent
  -- A zero before another digit is refused wherever it stands.
  by_cases zeros : ∃ second others, whole = '0' :: second :: others
  · obtain ⟨second, others, rfl⟩ := zeros
    refine ⟨none, fun rest line column depth ends => ?_⟩
    obtain ⟨next, last, taken, -⟩ :=
      readNumeral (power ++ rest) line column depth (ends.stops_exponent exponent)
    unfold magnitude
    rw [taken]
    exact ⟨_, rfl⟩
  refine ⟨NumberParts.scaled? ⟨negative, whole, decimals, none⟩ marked,
    fun rest line column depth ends => ?_⟩
  obtain ⟨next, numeralEnd, taken, fraction⟩ :=
    readNumeral (power ++ rest) line column depth (ends.stops_exponent exponent)
  obtain ⟨start, last, parts⟩ := readExponent rest line numeralEnd depth ends
  exact yields_magnitude negative some zeros taken fraction parts

/-- A number is read in the same way whatever follows it and wherever it stands. -/
theorem exists_number {number power : List Char} (signed : IsSigned Char.isDigit number)
    (exponent : IsExponent power) :
    ∃ expected, ∀ rest line column depth, EndsValue rest →
      Yields expected rest depth
        (Cursor.number ⟨number ++ (power ++ rest), line, column, depth⟩) := by
  cases signed with
  | positive numeral =>
      obtain ⟨expected, read⟩ := exists_magnitude numeral exponent false
      refine ⟨expected, fun rest line column depth ends => ?_⟩
      have unsigned : peek? ⟨number ++ (power ++ rest), line, column, depth⟩ ≠ some '-' := by
        intro minus
        exact absurd (numeral.starts (power ++ rest) '-' minus) (by decide)
      unfold Cursor.number
      rw [if_neg unsigned]
      exact read rest line column depth ends
  | negative numeral =>
      obtain ⟨expected, read⟩ := exists_magnitude numeral exponent true
      exact ⟨expected, fun rest line column depth ends => read rest line (column + 1) depth ends⟩

/-- A number is read where a value is expected. -/
theorem read_value_of_number {first : Char} {rest : List Char} {line column depth : ℕ}
    (starts : first.isDigit ∨ first = '-') (steps : ℕ) :
    read (steps + 1) .value ⟨first :: rest, line, column, depth⟩ =
      Cursor.number ⟨first :: rest, line, column, depth⟩ := by
  rcases starts with digit | rfl
  · have value := startsValue_of_isDigit (.inl digit)
    have letter : ∀ other : Char, other.isDigit = false → first ≠ other := by
      rintro _ other rfl
      exact absurd digit (Bool.eq_false_iff.mp other)
    simp [read, skipBlanks_of_startsValue value, peek?, digit, letter 'n' rfl, letter 't' rfl,
      letter 'f' rfl, letter '"' rfl, letter '[' rfl, letter '\x7b' rfl]
  · rfl

/-- Where a value is expected, a number is read in the same way whatever follows it. -/
theorem exists_read_number {number power : List Char} (signed : IsSigned Char.isDigit number)
    (exponent : IsExponent power) :
    ∃ expected, number ++ power ≠ [] ∧ ∀ depth steps rest line column, EndsValue rest →
      Yields expected rest depth
        (read (steps + 1) .value ⟨number ++ power ++ rest, line, column, depth⟩) := by
  obtain ⟨expected, readNumber⟩ := exists_number signed exponent
  obtain ⟨first, others, rfl, starts⟩ := signed.exists_eq_cons
  refine ⟨expected, List.cons_ne_nil _ _, fun depth steps rest line column ends => ?_⟩
  rw [List.append_assoc, List.cons_append, read_value_of_number starts]
  exact readNumber rest line column depth ends

end Cursor

end Json

end ArrivalRamp
