import ArrivalRamp.Proofs.Binary64.Truncation
import ArrivalRamp.Proofs.Report.Verdicts

/-!
The number of an aggregation. A number in digits of ASCII asks for a percentile, and no other
aggregation takes one. Digits of another script are read as no number, so an aggregation that takes
none is found in spite of them.
-/

namespace ArrivalRamp

namespace Criterion

/-- What is written behind a word starts with a digit, joined to the word or in brackets. -/
inductive StartsNumber : List Char → Prop
  | joined {digit : Char} (decimal : Text.isDecimalDigit digit) (rest : List Char) :
      StartsNumber (digit :: rest)
  | bracketed {digit : Char} (decimal : Text.isDecimalDigit digit) (before first : Text.Blanks)
      (rest : List Char) : StartsNumber (before ++ '(' :: (first ++ digit :: rest))

/-- A text carries a number behind its first word. -/
def CarriesNumber (text : List Char) : Prop :=
  ∃ (start : Text.Blanks) (word behind : List Char), word ≠ [] ∧
    (∀ letter ∈ word, letter.isLower) ∧ StartsNumber behind ∧ text = start ++ (word ++ behind)

section Number

variable {text word behind : List Char} {criterion : Criterion}

/-- What stands behind the first word of a text is found. -/
theorem behind_word (start : Text.Blanks) (nonempty : word ≠ [])
    (lower : ∀ letter ∈ word, letter.isLower)
    (stops : ∀ character ∈ behind.head?, character.isLower = false) :
    (skipBlanks (start ++ (word ++ behind))).dropWhile Char.isLower = behind := by
  rw [skipBlanks_word start nonempty lower, Text.dropWhile_append_eq lower stops]

/-- A number starts with a digit or with a bracket behind blanks. -/
theorem StartsNumber.exists_skipBlanks (starts : StartsNumber behind) :
    ∃ character rest, skipBlanks behind = character :: rest ∧
      (Text.isDecimalDigit character ∨ character = '(') := by
  cases starts with
  | joined decimal rest =>
      refine ⟨_, rest, ?_, .inl decimal⟩
      exact Text.dropWhile_eq_self (by rintro _ ⟨rfl⟩; exact Text.isBlank_of_isDecimalDigit decimal)
  | bracketed decimal before first rest =>
      exact ⟨'(', _, skipBlanks_append_cons before (by decide) _, .inr rfl⟩

theorem StartsNumber.stops (starts : StartsNumber behind) :
    ∀ character ∈ behind.head?, character.isLower = false := by
  cases starts with
  | joined decimal rest =>
      rintro _ ⟨rfl⟩
      exact Text.isLower_of_isDecimalDigit decimal
  | bracketed decimal before first rest =>
      refine Text.stops_append (fun blank inside => ?_) (by rintro _ ⟨rfl⟩; decide)
      exact Text.isLower_of_isBlank (before.2 blank inside)

/-- A criterion in a text that carries a number has a number. -/
theorem exists_number_of_carriesNumber (carries : CarriesNumber text)
    (spelled : criterion.IsSpelled text) : ∃ number, criterion.number = some number := by
  obtain ⟨start, word, behind, nonempty, lower, starts, rfl⟩ := carries
  obtain ⟨⟨proper, named⟩, form, spacing, same⟩ := spelled
  have letters := isLower_of_mem_writeAfter proper form spacing
  have found := congrArg (fun text => (skipBlanks text).dropWhile Char.isLower) same
  rw [write, behind_word start nonempty lower starts.stops,
    behind_word spacing.start named proper.lower
      fun character first => letters character (List.mem_of_head? first)] at found
  obtain ⟨character, rest, skipped, digit⟩ := starts.exists_skipBlanks
  cases number : criterion.number with
  | some digits => exact ⟨digits, rfl⟩
  | none =>
      have nothing : form.write none = [] := by cases form <;> rfl
      have signFirst := criterion.comparison.symbol_starts
        (spacing.beforeLimit ++ (criterion.limit ++ spacing.stop))
      have notBlank : ∀ sign ∈ (criterion.comparison.symbol ++
          (spacing.beforeLimit ++ (criterion.limit ++ spacing.stop))).head?,
          Text.isBlank sign = false := by
        intro sign first
        rcases signFirst sign first with rfl | rfl | rfl <;> decide
      rw [found, writeAfter, number, nothing, List.nil_append,
        skipBlanks_append _ notBlank] at skipped
      rw [skipped] at signFirst
      rcases signFirst character rfl with rfl | rfl | rfl <;> exact absurd digit (by decide)

end Number

end Criterion

namespace Report

/-- A criterion asks for one of the percentiles that a report has. -/
def AsksPercentile (metric : String) (criterion : Criterion) : Prop :=
  metric = "http_req_duration" ∧ criterion.aggregation = ['p'] ∧
    ∃ number, criterion.percentile? = some number ∧
      (number == 50.0 ∨ number == 90.0 ∨ number == 95.0 ∨ number == 99.0)

/-- The number of an aggregation is not ignored. A comparison is one with a percentile, every
readable criterion that asks for a percentile makes a comparison, and in every other case the
expression is invalid. -/
structure HeedsNumber (report : Report) (metric expression : String) : Prop where
  percentile : ∀ criterion actual, report.Compares metric expression criterion actual →
    AsksPercentile metric criterion
  compares : ∀ criterion, criterion.IsSpelled expression.toList →
    Decimal.IsSigned Char.isDigit criterion.limit → AsksPercentile metric criterion →
      ∃ actual, report.Compares metric expression criterion actual
  invalid : (∀ criterion, criterion.IsSpelled expression.toList →
      Decimal.IsSigned Char.isDigit criterion.limit → ¬ AsksPercentile metric criterion) →
    ∃ reason, report.line? metric expression =
      some ("Threshold INVALID: " ++ metric ++ " '" ++ expression ++ reason)

section Heeding

variable {report : Report} {metric expression : String} {criterion : Criterion} {number : Float}

/-- A percentile is kept for four percentages. -/
theorem percentile?_eq (report : Report) (percentage : Float) :
    report.percentile? percentage =
      if percentage == 50.0 then some report.p50
      else if percentage == 90.0 then some report.p90
      else if percentage == 95.0 then some report.p95
      else if percentage == 99.0 then some report.p99
      else none := by
  have kept (count : ℕ) (positive : 0 < count) (small : count < 100) :
      percentage == Word.toFloat count ↔
        Binary64.isWhole percentage ∧ Binary64.toWord32 percentage = count :=
    Binary64.beq_toFloat_iff positive (small.trans (by decide))
  have fifty := kept 50 (by decide) (by decide)
  have ninety := kept 90 (by decide) (by decide)
  have ninetyFive := kept 95 (by decide) (by decide)
  have ninetyNine := kept 99 (by decide) (by decide)
  change percentage == 50.0 ↔ _ at fifty
  change percentage == 90.0 ↔ _ at ninety
  change percentage == 95.0 ↔ _ at ninetyFive
  change percentage == 99.0 ↔ _ at ninetyNine
  simp only [fifty, ninety, ninetyFive, ninetyNine, percentile?]
  by_cases whole : Binary64.isWhole percentage
  · simp only [whole, if_true, true_and]
    split <;> simp_all
  · simp [whole]

theorem isSome_percentile?_iff :
    (report.percentile? number).isSome ↔
      number == 50.0 ∨ number == 90.0 ∨ number == 95.0 ∨ number == 99.0 := by
  rw [percentile?_eq]
  split_ifs <;> simp_all

/-- Only percentiles have a number. -/
theorem isSome_value?_iff {word : String} :
    (report.value? metric word (some number)).isSome ↔
      metric = "http_req_duration" ∧ word = "p" ∧ (report.percentile? number).isSome := by
  unfold value?
  split <;> simp_all

/-- The number of a criterion is read when its digits are those of ASCII. -/
theorem isSome_criterion_percentile?_iff {digits : List Char} (proper : criterion.IsProper)
    (given : criterion.number = some digits) :
    criterion.percentile?.isSome ↔ ∀ digit ∈ digits, Text.IsAscii digit := by
  have numeral := proper.number digits given
  rw [Criterion.percentile?, given, Option.bind_some]
  constructor
  · intro found
    obtain ⟨number, read⟩ := Option.isSome_iff_exists.mp found
    exact Decimal.isAscii_of_readFloat read
  · intro ascii
    refine (Decimal.isSome_readFloat_iff (.positive numeral)).mpr (.positive (numeral.of_mem ?_))
    exact fun digit inside decimal => Text.isDigit_of_isAscii decimal (ascii digit inside)

theorem asksPercentile_iff :
    AsksPercentile metric criterion ↔ ∃ number, criterion.percentile? = some number ∧
      (report.value? metric (String.ofList criterion.aggregation) (some number)).isSome := by
  have word : String.ofList criterion.aggregation = "p" ↔ criterion.aggregation = ['p'] :=
    String.ofList_inj
  simp only [AsksPercentile, isSome_value?_iff, isSome_percentile?_iff, word]
  grind

/-- The number of an aggregation is ignored exactly where it is written in digits beyond ASCII and
the metric has the aggregation without a number. -/
theorem heedsNumber_iff (carries : Criterion.CarriesNumber expression.toList) :
    report.HeedsNumber metric expression ↔
      ∀ (criterion : Criterion) (digits : List Char), criterion.IsSpelled expression.toList →
        Decimal.IsSigned Char.isDigit criterion.limit → criterion.number = some digits →
          (∃ digit ∈ digits, ¬ Text.IsAscii digit) →
            report.value? metric (String.ofList criterion.aggregation) none = none := by
  constructor
  · intro heeds criterion digits spelled limit given beyond
    have unread : criterion.percentile? = none := by
      rw [← Option.not_isSome_iff_eq_none, isSome_criterion_percentile?_iff spelled.1.1 given]
      simpa using beyond
    rw [Option.eq_none_iff_forall_ne_some]
    intro actual value
    obtain ⟨-, -, number, read, -⟩ :=
      heeds.percentile criterion actual ⟨spelled, limit, unread ▸ value⟩
    rw [unread] at read
    cases read
  · intro plain
    have asks (criterion : Criterion) (actual : Float)
        (compares : report.Compares metric expression criterion actual) :
        AsksPercentile metric criterion := by
      obtain ⟨digits, given⟩ := Criterion.exists_number_of_carriesNumber carries compares.spelled
      cases read : criterion.percentile? with
      | some number =>
          rw [asksPercentile_iff]
          exact ⟨number, read, by rw [← read, compares.value]; rfl⟩
      | none =>
          have beyond := isSome_criterion_percentile?_iff compares.spelled.1.1 given
          rw [read] at beyond
          have value := compares.value
          rw [read, plain criterion digits compares.spelled compares.limit given
            (by simpa using beyond)] at value
          cases value
    refine ⟨asks, fun criterion spelled limit asked => ?_, fun silent => ?_⟩
    · obtain ⟨number, read, found⟩ := asksPercentile_iff.mp asked
      obtain ⟨actual, value⟩ := Option.isSome_iff_exists.mp found
      exact ⟨actual, spelled, limit, read ▸ value⟩
    · exact exists_line?_eq_invalid fun criterion actual compares =>
        silent criterion compares.spelled compares.limit (asks criterion actual compares)

theorem heedsNumber_percentile :
    Criterion.CarriesNumber "p( 95 ) < 500".toList ∧
      Tally.empty.report.HeedsNumber "http_req_duration" "p( 95 ) < 500" := by
  have carries : Criterion.CarriesNumber "p( 95 ) < 500".toList := by
    refine ⟨⟨[], by simp⟩, ['p'], "( 95 ) < 500".toList, by simp, by simp [Char.isLower], ?_, rfl⟩
    exact .bracketed (show Text.isDecimalDigit '9' by decide) ⟨[], by simp⟩
      ⟨[' '], by simp [Text.isBlank]⟩ "5 ) < 500".toList
  refine ⟨carries, (heedsNumber_iff carries).mpr ?_⟩
  intro criterion digits spelled _ given beyond
  have read : some ⟨['p'], some ['9', '5'], .less, ['5', '0', '0']⟩ = some criterion :=
    Criterion.read_eq_some_iff.mpr spelled
  obtain rfl := Option.some.inj read
  obtain rfl := Option.some.inj given
  simp [Text.IsAscii] at beyond

/-- An average with a number in Arabic digits is compared as if the number were not there. -/
theorem not_heedsNumber_average :
    Criterion.CarriesNumber "avg٥<100".toList ∧
      Tally.empty.report.failures [("http_req_duration", ["avg٥<100"])] = [] ∧
      ¬ Tally.empty.report.HeedsNumber "http_req_duration" "avg٥<100" := by
  refine ⟨?_, ?_, fun heeds => ?_⟩
  · exact ⟨⟨[], by simp⟩, ['a', 'v', 'g'], "٥<100".toList, by simp, by simp [Char.isLower],
      .joined (show Text.isDecimalDigit '٥' by decide) "<100".toList, rfl⟩
  · simp only [failures, List.mergeSort_singleton]
    rfl
  · have compares : Tally.empty.report.Compares "http_req_duration" "avg٥<100"
        ⟨['a', 'v', 'g'], some ['٥'], .less, ['1', '0', '0']⟩ 0.0 :=
      ⟨Criterion.read_eq_some_iff.mp rfl,
        .positive (.whole (by simp) (List.all_eq_true.mp rfl)), rfl⟩
    exact absurd (heeds.percentile _ _ compares).2.1 (by simp)

end Heeding

end Report

end ArrivalRamp
