import ArrivalRamp.Proofs.Report.Spelling

/-!
Reading accepts exactly the ways of writing a criterion, and it finds the criterion that was
written. What becomes of an expression therefore does not depend on how it is written.
-/

namespace ArrivalRamp

namespace Criterion

section Whole

variable {criterion : Criterion} {text : List Char}

/-- The criterion of a word and of the text behind it. -/
def readAfter (aggregation text : List Char) : Option Criterion := do
  let (number, afterNumber) ← readAggregationNumber text
  let (comparison, afterComparison) ← Comparison.read (skipBlanks afterNumber)
  let (limit, rest) ← readLimit (skipBlanks afterComparison)
  if rest.all Text.isBlank then some ⟨aggregation, number, comparison, limit⟩ else none

theorem read_eq_readAfter (text : List Char) :
    read text =
      if (skipBlanks text).takeWhile Char.isLower = [] then none
      else readAfter ((skipBlanks text).takeWhile Char.isLower)
        ((skipBlanks text).dropWhile Char.isLower) := by
  simp only [read, readAfter, List.isEmpty_iff]
  split_ifs <;> rfl

/-- What is read behind a word was written there. -/
theorem readAfter_eq_some {aggregation : List Char}
    (found : readAfter aggregation text = some criterion) (start : Text.Blanks) :
    (criterion.aggregation = aggregation ∧
      (∀ numeral ∈ criterion.number, Decimal.IsNumeral Text.isDecimalDigit numeral) ∧
      Decimal.IsSigned Text.isDecimalDigit criterion.limit) ∧
      ∃ form spacing, spacing.start = start ∧ text = criterion.writeAfter form spacing := by
  obtain ⟨⟨number, afterNumber⟩, numberRead, found⟩ := Option.bind_eq_some_iff.mp found
  obtain ⟨⟨comparison, afterComparison⟩, comparisonRead, found⟩ := Option.bind_eq_some_iff.mp found
  obtain ⟨⟨limit, rest⟩, limitRead, found⟩ := Option.bind_eq_some_iff.mp found
  dsimp only at comparisonRead limitRead found
  split_ifs at found with blank
  obtain rfl := Option.some.inj found
  obtain ⟨numeral, form, same⟩ := readAggregationNumber_eq_some numberRead
  obtain ⟨beforeComparison, numberSame⟩ := exists_skipBlanks afterNumber
  obtain ⟨beforeLimit, comparisonSame⟩ := exists_skipBlanks afterComparison
  obtain ⟨signed, limitSame⟩ := readLimit_eq_some limitRead
  refine ⟨⟨rfl, numeral, signed⟩, form,
    ⟨start, beforeComparison, beforeLimit, ⟨rest, List.all_eq_true.mp blank⟩⟩, rfl, ?_⟩
  rw [same, numberSame, Comparison.read_eq_some comparisonRead, comparisonSame, limitSame]
  rfl

/-- What is read was written. -/
theorem isSpelled_of_read (found : read text = some criterion) : criterion.IsSpelled text := by
  rw [read_eq_readAfter] at found
  split_ifs at found with nonempty
  obtain ⟨start, blanks⟩ := exists_skipBlanks text
  obtain ⟨⟨aggregation, numeral, signed⟩, form, spacing, startEq, same⟩ :=
    readAfter_eq_some found start
  refine ⟨⟨⟨?_, numeral, signed⟩, aggregation ▸ nonempty⟩, form, spacing, ?_⟩
  · rw [aggregation]
    exact fun _ => List.mem_takeWhile_imp
  · rw [write, ← same, aggregation, startEq, List.takeWhile_append_dropWhile, ← blanks]

/-- What is written behind a word holds no letter. -/
theorem isLower_of_mem_writeAfter (proper : criterion.IsProper) (form : NumberForm)
    (spacing : Spacing) :
    ∀ character ∈ criterion.writeAfter form spacing, character.isLower = false := by
  have blank (blanks : Text.Blanks) : ∀ character ∈ blanks.1, character.isLower = false :=
    fun character inside => Text.isLower_of_isBlank (blanks.2 character inside)
  have digit (digit : Char) : Text.isDecimalDigit digit → digit.isLower = false :=
    Text.isLower_of_isDecimalDigit
  have number : ∀ character ∈ form.write criterion.number, character.isLower = false := by
    cases found : criterion.number with
    | none => cases form <;> simp [NumberForm.write]
    | some number =>
        have own := (proper.number number found).forall_mem (by decide) digit
        cases form with
        | joined => exact own
        | bracketed before first last =>
            simp only [NumberForm.write, List.forall_mem_append, List.forall_mem_cons,
              List.not_mem_nil, false_implies, implies_true, and_true]
            exact ⟨blank before, by decide, blank first, own, blank last, by decide⟩
  have symbol : ∀ character ∈ criterion.comparison.symbol, character.isLower = false := by
    cases criterion.comparison <;> simp [Comparison.symbol, Char.isLower]
  simp only [writeAfter, List.forall_mem_append]
  exact ⟨number, blank _, symbol, blank _, proper.limit.forall_mem (by decide) (by decide) digit,
    blank _⟩

/-- What is written behind a word is read there. -/
theorem readAfter_writeAfter (proper : criterion.IsProper) (form : NumberForm) (spacing : Spacing) :
    readAfter criterion.aggregation (criterion.writeAfter form spacing) = some criterion := by
  obtain ⟨aggregation, number, comparison, limit⟩ := criterion
  obtain ⟨-, numeral, signed⟩ := proper
  have symbolFirst (rest : List Char) : ∀ character ∈ (comparison.symbol ++ rest).head?,
      Text.isBlank character = false ∧ character ≠ '(' := by
    intro character first
    rcases comparison.symbol_starts rest character first with rfl | rfl | rfl <;> decide
  have limitFirst : ∀ character ∈ (limit ++ spacing.stop).head?,
      Text.isBlank character = false ∧ character ≠ '=' := by
    intro character first
    rcases signed.starts _ character first with decimal | rfl
    · refine ⟨Text.isBlank_of_isDecimalDigit decimal, ?_⟩
      rintro rfl
      exact absurd decimal (by decide)
    · decide
  have beforeSymbol (rest : List Char) :
      skipBlanks (spacing.beforeComparison ++ (comparison.symbol ++ rest)) =
        comparison.symbol ++ rest :=
    skipBlanks_append _ fun character first => (symbolFirst rest character first).1
  have beforeLimit : skipBlanks (spacing.beforeLimit ++ (limit ++ spacing.stop)) =
      limit ++ spacing.stop :=
    skipBlanks_append _ fun character first => (limitFirst character first).1
  have afterNumber := readAggregationNumber_append form numeral
    ((stopsNumeral_symbol comparison (spacing.beforeLimit ++ (limit ++ spacing.stop))).append
      spacing.beforeComparison)
    (by rw [beforeSymbol]; exact fun first => (symbolFirst _ '(' first).2 rfl)
  have afterSymbol : Comparison.read (comparison.symbol ++
      (spacing.beforeLimit ++ (limit ++ spacing.stop))) =
      some (comparison, spacing.beforeLimit ++ (limit ++ spacing.stop)) := by
    have different : ∀ character ∈ (spacing.beforeLimit ++ (limit ++ spacing.stop)).head?,
        (character == '=') = false := by
      refine Text.stops_append ?_ ?_
      · intro character inside
        rw [beq_eq_false_iff_ne]
        rintro rfl
        exact absurd (spacing.beforeLimit.2 '=' inside) (by decide)
      · exact fun character first => beq_eq_false_iff_ne.mpr (limitFirst character first).2
    exact Comparison.read_append fun first => absurd (different '=' first) (by decide)
  have afterLimit := readLimit_append signed (stopsNumeral_blanks spacing.stop)
  have blank : spacing.stop.1.all Text.isBlank := List.all_eq_true.mpr spacing.stop.2
  simp only [readAfter, writeAfter, afterNumber, beforeSymbol, afterSymbol, beforeLimit, afterLimit,
    blank, Option.bind_eq_bind, Option.bind_some, if_true]

/-- What is written is read, unless the word of the aggregation is missing. -/
theorem read_write (proper : criterion.IsProper) (form : NumberForm) (spacing : Spacing) :
    read (criterion.write form spacing) =
      if criterion.aggregation = [] then none else some criterion := by
  have noLetter := isLower_of_mem_writeAfter proper form spacing
  have stops : ∀ character ∈ (criterion.writeAfter form spacing).head?, character.isLower = false :=
    fun character first => noLetter character (List.mem_of_head? first)
  rw [read_eq_readAfter]
  cases word : criterion.aggregation with
  | nil =>
      have letters : ∀ character ∈ (skipBlanks (criterion.write form spacing)).head?,
          character.isLower = false := by
        intro character first
        have inside : character ∈ criterion.write form spacing :=
          (List.dropWhile_sublist _).subset (List.mem_of_head? first)
        rw [write, word, List.nil_append, List.mem_append] at inside
        rcases inside with blank | after
        · exact Text.isLower_of_isBlank (spacing.start.2 character blank)
        · exact noLetter character after
      rw [Text.takeWhile_eq_nil letters, if_pos rfl, if_pos rfl]
  | cons letter letters =>
      have named : criterion.aggregation ≠ [] := word ▸ List.cons_ne_nil letter letters
      rw [write, skipBlanks_word spacing.start named proper.lower,
        Text.takeWhile_append_eq proper.lower stops, Text.dropWhile_append_eq proper.lower stops,
        readAfter_writeAfter proper, if_neg named, if_neg (List.cons_ne_nil letter letters)]

/-- Exactly the ways of writing a criterion are read as it. -/
theorem read_eq_some_iff : read text = some criterion ↔ criterion.IsSpelled text := by
  refine ⟨isSpelled_of_read, ?_⟩
  rintro ⟨⟨proper, word⟩, form, spacing, rfl⟩
  rw [read_write proper, if_neg word]

end Whole

end Criterion

section Outcome

variable {criterion : Criterion}

/-- What becomes of an expression is the same for every way of writing it, with blanks of any length
around its parts and with its number in brackets or joined to the word. An expression that names an
aggregation is read as it was meant. -/
theorem Report.judge_write (report : Report) (metric : String) (proper : criterion.IsProper)
    (form otherForm : Criterion.NumberForm) (spacing otherSpacing : Criterion.Spacing) :
    report.judge metric (String.ofList (criterion.write form spacing)) =
        report.judge metric (String.ofList (criterion.write otherForm otherSpacing)) ∧
      (criterion.aggregation ≠ [] →
        Criterion.read (criterion.write form spacing) = some criterion) := by
  have same := (Criterion.read_write proper form spacing).trans
    (Criterion.read_write proper otherForm otherSpacing).symm
  refine ⟨?_, fun word => by rw [Criterion.read_write proper, if_neg word]⟩
  simp only [Report.judge, String.toList_ofList, same]

/-- A limit below zero for the 95th percentile, with and without blanks and brackets. -/
theorem Report.judge_write_percentile :
    let criterion : Criterion := ⟨['p'], some ['9', '5'], .lessOrEqual, ['-', '0', '.', '5']⟩
    criterion.IsProper ∧ criterion.aggregation ≠ [] ∧
      Tally.empty.report.judge "http_req_duration" "p95<=-0.5" =
        Tally.empty.report.judge "http_req_duration" " p\t( 95 ) <=\u3000-0.5\n" ∧
      Criterion.read "p95<=-0.5".toList = some criterion := by
  intro criterion
  have numeral : Decimal.IsNumeral Text.isDecimalDigit ['9', '5'] :=
    .whole (by simp)
      (List.forall_mem_cons.mpr ⟨by decide, List.forall_mem_singleton.mpr (by decide)⟩)
  have limit : Decimal.IsSigned Text.isDecimalDigit ['-', '0', '.', '5'] :=
    .negative (@Decimal.IsNumeral.fraction _ ['0'] ['5'] (by simp)
      (List.forall_mem_singleton.mpr (by decide)) (by simp)
      (List.forall_mem_singleton.mpr (by decide)))
  have proper : criterion.IsProper :=
    ⟨by simp [criterion, Char.isLower], by simpa [criterion] using numeral, limit⟩
  have word : criterion.aggregation ≠ [] := by simp [criterion]
  let nothing : Text.Blanks := ⟨[], by simp⟩
  let space : Text.Blanks := ⟨[' '], by simp [Text.isBlank]⟩
  let tab : Text.Blanks := ⟨['\t'], by simp [Text.isBlank]⟩
  let wide : Text.Blanks := ⟨['\u3000'], by simp [Text.isBlank]⟩
  let line : Text.Blanks := ⟨['\n'], by simp [Text.isBlank]⟩
  have outcome := judge_write Tally.empty.report "http_req_duration" proper .joined
    (.bracketed tab space space) ⟨nothing, nothing, nothing, nothing⟩ ⟨space, space, wide, line⟩
  exact ⟨proper, word, outcome.1, outcome.2 word⟩

end Outcome

end ArrivalRamp
