import ArrivalRamp.Proofs.Decimal.Figures
import ArrivalRamp.Report.Criterion

/-!
The ways of writing a criterion: blanks between its parts, and the number of its aggregation in
brackets or joined to the word. Reading accepts what is written in one of these ways and nothing
else, and it finds the criterion that was written.
-/

namespace ArrivalRamp

/-- Blanks, of which there may be none. -/
abbrev Text.Blanks := { text : List Char // ∀ character ∈ text, Text.isBlank character }

namespace Comparison

/-- The characters of a comparison. -/
def symbol : Comparison → List Char
  | .less => ['<']
  | .lessOrEqual => ['<', '=']
  | .greater => ['>']
  | .greaterOrEqual => ['>', '=']
  | .equal => ['=', '=']

variable {rest : List Char} {comparison : Comparison}

/-- A comparison is read as long as no equals sign follows. -/
theorem read_append (different : rest.head? ≠ some '=') :
    read (comparison.symbol ++ rest) = some (comparison, rest) := by
  cases comparison <;> cases rest <;> simp_all [read, symbol]

/-- A comparison starts with one of three signs. -/
theorem symbol_starts (comparison : Comparison) (rest : List Char) :
    ∀ character ∈ (comparison.symbol ++ rest).head?,
      character = '<' ∨ character = '>' ∨ character = '=' := by
  cases comparison <;> simp [symbol]

theorem read_eq_some {text : List Char} (found : read text = some (comparison, rest)) :
    text = comparison.symbol ++ rest := by
  unfold read at found
  split at found <;> simp_all [symbol]
  all_goals obtain ⟨rfl, rfl⟩ := found; rfl

end Comparison

namespace Criterion

/-- How a number is written behind a word: joined to it, or in brackets with blanks before the
brackets and within them. -/
inductive NumberForm where
  | joined
  | bracketed (before first last : Text.Blanks)

/-- What is written of a number that there may be. -/
def NumberForm.write : NumberForm → Option (List Char) → List Char
  | _, none => []
  | joined, some number => number
  | bracketed before first last, some number =>
    before ++ '(' :: (first ++ (number ++ (last ++ [')'])))

/-- The blanks around the other parts of a criterion. -/
structure Spacing where
  start : Text.Blanks
  beforeComparison : Text.Blanks
  beforeLimit : Text.Blanks
  stop : Text.Blanks

/-- What is written of a criterion behind the word of its aggregation. -/
def writeAfter (form : NumberForm) (spacing : Spacing) (criterion : Criterion) : List Char :=
  form.write criterion.number ++ (spacing.beforeComparison ++ (criterion.comparison.symbol ++
    (spacing.beforeLimit ++ (criterion.limit ++ spacing.stop))))

/-- What is written of a criterion. -/
def write (form : NumberForm) (spacing : Spacing) (criterion : Criterion) : List Char :=
  spacing.start ++ (criterion.aggregation ++ criterion.writeAfter form spacing)

/-- The parts of a criterion are what they stand for: lower-case letters, a numeral and a limit. -/
structure IsProper (criterion : Criterion) : Prop where
  lower : ∀ character ∈ criterion.aggregation, character.isLower
  number : ∀ number ∈ criterion.number, Decimal.IsNumeral Text.isDecimalDigit number
  limit : Decimal.IsSigned Text.isDecimalDigit criterion.limit

/-- A text is one of the ways of writing a criterion. -/
def IsSpelled (criterion : Criterion) (text : List Char) : Prop :=
  (criterion.IsProper ∧ criterion.aggregation ≠ []) ∧
    ∃ form spacing, text = criterion.write form spacing

section Parts

variable {rest : List Char}

theorem skipBlanks_append (blanks : Text.Blanks)
    (stops : ∀ character ∈ rest.head?, Text.isBlank character = false) :
    skipBlanks (blanks ++ rest) = rest :=
  Text.dropWhile_append_eq blanks.2 stops

theorem skipBlanks_append_cons (blanks : Text.Blanks) {character : Char}
    (notBlank : Text.isBlank character = false) (rest : List Char) :
    skipBlanks (blanks ++ character :: rest) = character :: rest :=
  skipBlanks_append blanks (by rintro _ ⟨rfl⟩; exact notBlank)

/-- The blanks before a word are skipped, and the word stops them. -/
theorem skipBlanks_word {word : List Char} (start : Text.Blanks) (nonempty : word ≠ [])
    (lower : ∀ letter ∈ word, letter.isLower) (rest : List Char) :
    skipBlanks (start ++ (word ++ rest)) = word ++ rest := by
  apply skipBlanks_append
  obtain ⟨letter, letters, rfl⟩ := List.exists_cons_of_ne_nil nonempty
  rintro _ ⟨rfl⟩
  exact Text.isBlank_of_isLower (lower letter List.mem_cons_self)

theorem exists_skipBlanks (text : List Char) :
    ∃ blanks : Text.Blanks, text = blanks ++ skipBlanks text :=
  ⟨⟨text.takeWhile Text.isBlank, fun _ => List.mem_takeWhile_imp⟩,
    List.takeWhile_append_dropWhile.symm⟩

/-- A text does not go on with a numeral before it. -/
def StopsNumeral (rest : List Char) : Prop :=
  ∀ character ∈ rest.head?, Text.isDecimalDigit character = false ∧ character ≠ '.'

namespace StopsNumeral

theorem stops (stopsNumeral : StopsNumeral rest) :
    ∀ character ∈ rest.head?, Text.isDecimalDigit character = false :=
  fun character first => (stopsNumeral character first).1

theorem append (stopsNumeral : StopsNumeral rest) (blanks : Text.Blanks) :
    StopsNumeral (blanks ++ rest) := by
  obtain ⟨blanks, all⟩ := blanks
  cases blanks with
  | nil => exact stopsNumeral
  | cons blank others =>
      rintro _ ⟨rfl⟩
      have own := all blank List.mem_cons_self
      refine ⟨Text.isDecimalDigit_of_isBlank own, ?_⟩
      rintro rfl
      exact absurd own (by decide)

end StopsNumeral

theorem stopsNumeral_blanks (blanks : Text.Blanks) : StopsNumeral blanks := by
  have empty : StopsNumeral [] := by rintro _ ⟨⟩
  simpa using empty.append blanks

theorem stopsNumeral_symbol (comparison : Comparison) (rest : List Char) :
    StopsNumeral (comparison.symbol ++ rest) := by
  intro character first
  rcases comparison.symbol_starts rest character first with rfl | rfl | rfl <;> decide

/-- A numeral is read up to where it stops. -/
theorem readNumber_append {number : List Char}
    (numeral : Decimal.IsNumeral Text.isDecimalDigit number) (stops : StopsNumeral rest) :
    readNumber (number ++ rest) = some (number, rest) := by
  cases numeral with
  | whole some all =>
      simp only [readNumber, Text.takeWhile_append_eq all stops.stops,
        Text.dropWhile_append_eq all stops.stops, List.isEmpty_eq_false_iff.mpr some,
        Bool.false_eq_true, if_false]
      split
      · next others same => exact absurd rfl (stops '.' rfl).2
      · rfl
  | @fraction digits decimals some all someDecimals allDecimals =>
      have point : ∀ character ∈ ('.' :: (decimals ++ rest)).head?,
          Text.isDecimalDigit character = false := by
        rintro _ ⟨rfl⟩
        decide
      rw [List.append_assoc, List.cons_append]
      simp only [readNumber, Text.takeWhile_append_eq all point,
        Text.dropWhile_append_eq all point, Text.takeWhile_append_eq allDecimals stops.stops,
        Text.dropWhile_append_eq allDecimals stops.stops, List.isEmpty_eq_false_iff.mpr some,
        List.isEmpty_eq_false_iff.mpr someDecimals, Bool.false_eq_true, if_false]

theorem readNumber_eq_none (stops : StopsNumeral rest) : readNumber rest = none := by
  simp [readNumber, Text.takeWhile_eq_nil stops.stops]

/-- What is read as a numeral is one, at the start of the text. -/
theorem readNumber_eq_some {text number : List Char}
    (found : readNumber text = some (number, rest)) :
    Decimal.IsNumeral Text.isDecimalDigit number ∧ text = number ++ rest := by
  have whole := List.takeWhile_append_dropWhile (p := Text.isDecimalDigit) (l := text)
  simp only [readNumber, List.isEmpty_iff] at found
  split_ifs at found with none
  have digits : Decimal.IsNumeral Text.isDecimalDigit (text.takeWhile Text.isDecimalDigit) :=
    .whole none fun _ => List.mem_takeWhile_imp
  split at found
  · next others same =>
    rw [same] at whole found
    split_ifs at found with noFraction
    · obtain ⟨rfl, rfl⟩ := Prod.mk.inj (Option.some.inj found)
      exact ⟨digits, whole.symm⟩
    · obtain ⟨rfl, rfl⟩ := Prod.mk.inj (Option.some.inj found)
      refine ⟨.fraction none (fun _ => List.mem_takeWhile_imp) noFraction
        (fun _ => List.mem_takeWhile_imp), ?_⟩
      rw [List.append_assoc, List.cons_append, List.takeWhile_append_dropWhile, whole]
  · obtain ⟨rfl, rfl⟩ := Prod.mk.inj (Option.some.inj found)
    exact ⟨digits, whole.symm⟩

theorem readLimit_append {limit : List Char} (signed : Decimal.IsSigned Text.isDecimalDigit limit)
    (stops : StopsNumeral rest) : readLimit (limit ++ rest) = some (limit, rest) := by
  cases signed with
  | negative numeral => simp [readLimit, readNumber_append numeral stops]
  | positive numeral =>
      have read := readNumber_append numeral stops
      obtain ⟨digit, others, rfl, decimal⟩ := numeral.exists_eq_cons
      rw [List.cons_append] at read ⊢
      unfold readLimit
      split
      · next same =>
        obtain ⟨rfl, -⟩ := List.cons.inj same
        exact absurd decimal (by decide)
      · exact read

theorem readLimit_eq_some {text limit : List Char} (found : readLimit text = some (limit, rest)) :
    Decimal.IsSigned Text.isDecimalDigit limit ∧ text = limit ++ rest := by
  unfold readLimit at found
  split at found
  · obtain ⟨⟨number, others⟩, read, same⟩ := Option.map_eq_some_iff.mp found
    obtain ⟨rfl, rfl⟩ := Prod.mk.inj same
    obtain ⟨numeral, rfl⟩ := readNumber_eq_some read
    exact ⟨.negative numeral, rfl⟩
  · obtain ⟨numeral, same⟩ := readNumber_eq_some found
    exact ⟨.positive numeral, same⟩

theorem readAggregationNumber_bracketed {text inside : List Char}
    (bracket : skipBlanks text = '(' :: inside) :
    readAggregationNumber text =
      (readNumber (skipBlanks inside)).bind fun (number, rest) =>
        match skipBlanks rest with
        | ')' :: others => some (some number, others)
        | _ => none := by
  rw [readAggregationNumber, bracket]
  rfl

theorem readAggregationNumber_joined {text : List Char}
    (noBracket : (skipBlanks text).head? ≠ some '(') :
    readAggregationNumber text =
      some (match readNumber text with
        | some (number, rest) => (some number, rest)
        | none => (none, text)) := by
  rw [readAggregationNumber]
  split
  · next inside same => simp [same] at noBracket
  · cases readNumber text <;> rfl

/-- What is written of a number is read, as long as no bracket follows after blanks. -/
theorem readAggregationNumber_append (form : NumberForm) {number : Option (List Char)}
    (numeral : ∀ text ∈ number, Decimal.IsNumeral Text.isDecimalDigit text)
    (stops : StopsNumeral rest) (noBracket : (skipBlanks rest).head? ≠ some '(') :
    readAggregationNumber (form.write number ++ rest) = some (number, rest) := by
  cases number with
  | none =>
      have nothing : form.write none ++ rest = rest := by cases form <;> rfl
      rw [nothing, readAggregationNumber_joined noBracket, readNumber_eq_none stops]
  | some number =>
      replace numeral := numeral number rfl
      have notBlank (rest : List Char) : ∀ character ∈ (number ++ rest).head?,
          Text.isBlank character = false :=
        fun character first => Text.isBlank_of_isDecimalDigit (numeral.starts rest character first)
      cases form with
      | joined =>
          have notOpen : (skipBlanks (number ++ rest)).head? ≠ some '(' := by
            rw [skipBlanks, Text.trimStart, Text.dropWhile_eq_self (notBlank rest)]
            exact fun first => absurd (numeral.starts rest '(' first) (by decide)
          rw [NumberForm.write, readAggregationNumber_joined notOpen,
            readNumber_append numeral stops]
      | bracketed before first last =>
          have closingStops : StopsNumeral (')' :: rest) := by
            rintro _ ⟨rfl⟩
            decide
          have opened := skipBlanks_append_cons before (show Text.isBlank '(' = false by decide)
            (first ++ (number ++ (last ++ ')' :: rest)))
          have closed := skipBlanks_append_cons last (show Text.isBlank ')' = false by decide) rest
          have written : (NumberForm.bracketed before first last).write (some number) ++ rest =
              before ++ '(' :: (first ++ (number ++ (last ++ ')' :: rest))) := by
            simp [NumberForm.write]
          rw [written, readAggregationNumber_bracketed opened, skipBlanks_append _ (notBlank _),
            readNumber_append numeral (closingStops.append _), Option.bind_some]
          dsimp only
          rw [closed]
          rfl

theorem readAggregationNumber_eq_some {text : List Char} {number : Option (List Char)}
    (found : readAggregationNumber text = some (number, rest)) :
    (∀ numeral ∈ number, Decimal.IsNumeral Text.isDecimalDigit numeral) ∧
      ∃ form : NumberForm, text = form.write number ++ rest := by
  by_cases bracket : (skipBlanks text).head? = some '('
  · obtain ⟨inside, opened⟩ := List.head?_eq_some_iff.mp bracket
    rw [readAggregationNumber_bracketed opened] at found
    obtain ⟨⟨digits, others⟩, read, closing⟩ := Option.bind_eq_some_iff.mp found
    obtain ⟨numeral, same⟩ := readNumber_eq_some read
    dsimp only at closing
    split at closing
    · next last closed =>
      obtain ⟨rfl, rfl⟩ := Prod.mk.inj (Option.some.inj closing)
      obtain ⟨before, start⟩ := exists_skipBlanks text
      obtain ⟨first, middle⟩ := exists_skipBlanks inside
      obtain ⟨last, stop⟩ := exists_skipBlanks others
      refine ⟨by rintro _ ⟨rfl⟩; exact numeral, .bracketed before first last, ?_⟩
      rw [start, opened, middle, same, stop, closed]
      simp [NumberForm.write]
    · cases closing
  · rw [readAggregationNumber_joined bracket] at found
    have same := Option.some.inj found
    split at same
    · next digits others read =>
      obtain ⟨rfl, rfl⟩ := Prod.mk.inj same
      obtain ⟨numeral, same⟩ := readNumber_eq_some read
      exact ⟨by rintro _ ⟨rfl⟩; exact numeral, .joined, same⟩
    · obtain ⟨rfl, rfl⟩ := Prod.mk.inj same
      exact ⟨by rintro _ ⟨⟩, .joined, rfl⟩

end Parts

end Criterion

end ArrivalRamp
