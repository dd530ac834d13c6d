import ArrivalRamp.Command.Perform
import ArrivalRamp.Host.Machine
import ArrivalRamp.Proofs.Binary64.NotANumber
import ArrivalRamp.Proofs.Report.Grammar
import ArrivalRamp.Proofs.Text.ByteOrder

/-!
The lines about the criteria of a run. Each expression has at most one line, which depends on the
report, the metric and the expression alone, and there is no line exactly when the report meets it.
-/

namespace ArrivalRamp

/-- Nothing holds of a value that is no number. -/
theorem Comparison.holds_of_isNaN {actual : Float} (notANumber : actual.isNaN)
    (comparison : Comparison) (limit : Float) : comparison.holds actual limit = false := by
  have order := Binary64.not_lt_of_isNaN notANumber limit
  have weakOrder := Binary64.not_le_of_isNaN notANumber limit
  have distance := Binary64.isNaN_abs (Binary64.isNaN_sub notANumber limit)
  cases comparison with
  | less => exact decide_eq_false order.1
  | lessOrEqual => exact decide_eq_false weakOrder.1
  | greater => exact decide_eq_false order.2
  | greaterOrEqual => exact decide_eq_false weakOrder.2
  | equal => exact decide_eq_false (Binary64.not_lt_of_isNaN distance tolerance).1

/-- The comparison holds of a value and of the limit that is written. -/
def Criterion.HoldsOf (criterion : Criterion) (actual : Float) : Prop :=
  ∃ limit, criterion.limit? = some limit ∧ criterion.comparison.holds actual limit

namespace Report

/-- An expression compares a value of a report with a limit. It is one of the ways of writing a
criterion, the limit is written in digits of ASCII, and the report has the value. -/
structure Compares (report : Report) (metric expression : String) (criterion : Criterion)
    (actual : Float) : Prop where
  spelled : criterion.IsSpelled expression.toList
  limit : Decimal.IsSigned Char.isDigit criterion.limit
  value : report.value? metric (String.ofList criterion.aggregation) criterion.percentile? =
    some actual

/-- A report meets an expression when the comparison that it makes holds. -/
def Meets (report : Report) (metric expression : String) : Prop :=
  ∃ criterion actual, report.Compares metric expression criterion actual ∧
    criterion.HoldsOf actual

/-- The line about an expression, if there is one. -/
def line? (report : Report) (metric expression : String) : Option String :=
  (report.judge metric expression).line? metric expression

section Lines

variable {report : Report} {metric expression : String} {criterion : Criterion} {actual : Float}

theorem Compares.line?_eq (compares : report.Compares metric expression criterion actual) :
    ∃ limit, criterion.limit? = some limit ∧ report.line? metric expression =
      if criterion.comparison.holds actual limit then none
      else some ("Threshold FAILED: " ++ metric ++ " " ++ expression ++
        " (actual: " ++ Decimal.fixed 4 actual ++ ")") := by
  have read := Criterion.read_eq_some_iff.mpr compares.spelled
  have found := (Decimal.isSome_readFloat_iff compares.spelled.1.1.limit).mpr compares.limit
  obtain ⟨limit, same⟩ := Option.isSome_iff_exists.mp found
  refine ⟨limit, same, ?_⟩
  simp only [line?, judge, read, Criterion.limit?, same, compares.value]
  split_ifs <;> rfl

/-- An expression makes one comparison at most. -/
theorem Compares.meets_iff (compares : report.Compares metric expression criterion actual) :
    report.Meets metric expression ↔ criterion.HoldsOf actual := by
  refine ⟨?_, fun holds => ⟨criterion, actual, compares, holds⟩⟩
  rintro ⟨other, value, others, holds⟩
  have same := (Criterion.read_eq_some_iff.mpr others.spelled).symm.trans
    (Criterion.read_eq_some_iff.mpr compares.spelled)
  obtain rfl := Option.some.inj same
  obtain rfl := Option.some.inj (others.value.symm.trans compares.value)
  exact holds

theorem Compares.line?_eq_none_iff (compares : report.Compares metric expression criterion actual) :
    report.line? metric expression = none ↔ criterion.HoldsOf actual := by
  obtain ⟨limit, found, line⟩ := compares.line?_eq
  rw [line, Criterion.HoldsOf]
  simp [found]

/-- A comparison that does not hold has failed. -/
theorem Compares.line?_eq_failed (compares : report.Compares metric expression criterion actual)
    (apart : ¬ criterion.HoldsOf actual) :
    report.line? metric expression = some ("Threshold FAILED: " ++ metric ++ " " ++ expression ++
      " (actual: " ++ Decimal.fixed 4 actual ++ ")") := by
  obtain ⟨limit, found, line⟩ := compares.line?_eq
  rw [line, if_neg fun holds => apart ⟨limit, found, holds⟩]

/-- An expression that makes no comparison is invalid. -/
theorem exists_line?_eq_invalid
    (silent : ∀ criterion actual, ¬ report.Compares metric expression criterion actual) :
    ∃ reason, report.line? metric expression =
      some ("Threshold INVALID: " ++ metric ++ " '" ++ expression ++ reason) := by
  unfold line? judge
  split
  · exact ⟨_, rfl⟩
  · next criterion read =>
    split
    · exact ⟨_, rfl⟩
    · next limit found =>
      split
      · exact ⟨_, rfl⟩
      · next actual value =>
        have spelled := Criterion.read_eq_some_iff.mp read
        have number : (Decimal.readFloat criterion.limit).isSome := by
          rw [← Criterion.limit?, found]
          rfl
        exact absurd ⟨spelled, (Decimal.isSome_readFloat_iff spelled.1.1.limit).mp number, value⟩
          (silent criterion actual)

/-- There is no line exactly about the expressions that are met. -/
theorem line?_eq_none_iff :
    report.line? metric expression = none ↔ report.Meets metric expression := by
  by_cases speaks : ∃ criterion actual, report.Compares metric expression criterion actual
  · obtain ⟨criterion, actual, compares⟩ := speaks
    rw [compares.line?_eq_none_iff, compares.meets_iff]
  · have silent := not_exists.mp speaks
    obtain ⟨reason, line⟩ :=
      exists_line?_eq_invalid fun criterion => not_exists.mp (silent criterion)
    rw [line]
    refine ⟨nofun, ?_⟩
    rintro ⟨criterion, actual, compares, -⟩
    exact absurd ⟨actual, compares⟩ (silent criterion)

instance (report : Report) (metric expression : String) :
    Decidable (report.Meets metric expression) :=
  decidable_of_iff (report.line? metric expression = none) line?_eq_none_iff

end Lines

section Criteria

variable (report : Report) (criteria : List (String × List String))

/-- The lines stand metric by metric in the order of their names, and in the order of their
expressions. -/
theorem exists_failures_eq :
    ∃ ordered : List (String × List String), ordered.Perm criteria ∧
      ordered.Pairwise (fun first second => Text.bytes first.1 ≤ Text.bytes second.1) ∧
      report.failures criteria = ordered.flatMap fun entry =>
        entry.2.flatMap fun expression => (report.line? entry.1 expression).toList := by
  let ordered := criteria.mergeSort fun left right => left.1 ≤ right.1
  have sorted : ordered.Pairwise fun left right => decide (left.1 ≤ right.1) :=
    List.pairwise_mergeSort (fun _ _ _ => by simpa using le_trans)
      (fun _ _ => by simpa using le_total _ _) criteria
  refine ⟨ordered, List.mergeSort_perm criteria _, ?_, ?_⟩
  · exact sorted.imp fun earlier => Text.le_iff_bytes_le.mp (of_decide_eq_true earlier)
  · simp only [failures, ordered, line?, List.filterMap_eq_flatMap_toList]

/-- There are no lines exactly when every expression is met. -/
theorem failures_eq_nil_iff :
    report.failures criteria = [] ↔
      ∀ entry ∈ criteria, ∀ expression ∈ entry.2, report.Meets entry.1 expression := by
  obtain ⟨ordered, same, -, lines⟩ := report.exists_failures_eq criteria
  simp only [lines, List.flatMap_eq_nil_iff, same.mem_iff, Option.toList_eq_nil_iff,
    line?_eq_none_iff]

end Criteria

end Report

section Run

variable {Action : Type → Type} [Host Action]

/-- A run passes exactly when its report meets every expression. -/
theorem Command.performRun_eq (request : RunRequest) :
    (performRun request : ExceptT CommandFault Action Bool) = do
      let (plan, outcome) ← outcomeOf request
      present request outcome (results plan outcome)
      return decide (∀ entry ∈ plan.settings.criteria, ∀ expression ∈ entry.2,
        outcome.tally.report.Meets entry.1 expression) := by
  have passes (plan : RunPlan) (outcome : RunOutcome) : (results plan outcome).failures.isEmpty =
      decide (∀ entry ∈ plan.settings.criteria, ∀ expression ∈ entry.2,
        outcome.tally.report.Meets entry.1 expression) := by
    rw [Bool.eq_iff_iff, List.isEmpty_iff, decide_eq_true_iff]
    exact outcome.tally.report.failures_eq_nil_iff plan.settings.criteria
  unfold performRun
  simp only [passes]

/-- No expression is skipped. The lines about the criteria are those of the expressions one after
the other. An expression has no line exactly when it compares a value of the report with a limit and
the comparison holds, which it never does for a value that is no number; it is invalid when it makes
no comparison, and it has failed otherwise. There are no lines, and the run passes, exactly when
every expression is met. -/
theorem Report.failures_skip_nothing (report : Report) (criteria : List (String × List String))
    (request : RunRequest) :
    (∃ ordered : List (String × List String), ordered.Perm criteria ∧
      ordered.Pairwise (fun first second => Text.bytes first.1 ≤ Text.bytes second.1) ∧
      report.failures criteria = ordered.flatMap fun entry =>
        entry.2.flatMap fun expression => (report.line? entry.1 expression).toList) ∧
    (∀ metric expression,
      (report.line? metric expression = none ↔ report.Meets metric expression) ∧
      ((∀ criterion actual, ¬ report.Compares metric expression criterion actual) →
        ∃ reason, report.line? metric expression =
          some ("Threshold INVALID: " ++ metric ++ " '" ++ expression ++ reason)) ∧
      ∀ criterion actual, report.Compares metric expression criterion actual →
        (actual.isNaN → ¬ criterion.HoldsOf actual) ∧
        (¬ criterion.HoldsOf actual → report.line? metric expression =
          some ("Threshold FAILED: " ++ metric ++ " " ++ expression ++
            " (actual: " ++ Decimal.fixed 4 actual ++ ")"))) ∧
    (report.failures criteria = [] ↔
      ∀ entry ∈ criteria, ∀ expression ∈ entry.2, report.Meets entry.1 expression) ∧
    (Command.performRun request : ExceptT CommandFault Action Bool) = do
      let (plan, outcome) ← Command.outcomeOf request
      Command.present request outcome (Command.results plan outcome)
      return decide (∀ entry ∈ plan.settings.criteria, ∀ expression ∈ entry.2,
        outcome.tally.report.Meets entry.1 expression) := by
  refine ⟨report.exists_failures_eq criteria, fun metric expression => ?_,
    report.failures_eq_nil_iff criteria, Command.performRun_eq request⟩
  refine ⟨line?_eq_none_iff, exists_line?_eq_invalid, fun criterion actual compares => ⟨?_, ?_⟩⟩
  · rintro notANumber ⟨limit, -, holds⟩
    rw [Comparison.holds_of_isNaN notANumber] at holds
    cases holds
  · exact compares.line?_eq_failed

/-- A report on nothing, but with a latency that is no number. -/
def Report.blurred : Report :=
  { Tally.empty.report with p95 := 0.0 / 0.0 }

theorem Report.failures_skip_nothing_blurred :
    Report.blurred.line? "http_req_failed" "rate < 0.01" = none ∧
      Report.blurred.line? "http_req_duration" "p(95)<500" =
        some "Threshold FAILED: http_req_duration p(95)<500 (actual: NaN)" ∧
      ∃ reason, Report.blurred.line? "http_req_duration" "fast please" =
        some ("Threshold INVALID: " ++ "http_req_duration" ++ " '" ++ "fast please" ++ reason) := by
  obtain ⟨-, lines, -⟩ := @failures_skip_nothing (StateM Machine) _ blurred []
    ⟨"run.yaml", none, false, false, none, none⟩
  refine ⟨?_, ?_, ?_⟩
  · let criterion : Criterion := ⟨['r', 'a', 't', 'e'], none, .less, ['0', '.', '0', '1']⟩
    refine (lines _ _).1.mpr ⟨criterion, 0.0, ?_, ?_⟩
    · have limit : Decimal.IsNumeral Char.isDigit ['0', '.', '0', '1'] :=
        @Decimal.IsNumeral.fraction _ ['0'] ['0', '1'] (by simp) (List.all_eq_true.mp rfl) (by simp)
          (List.all_eq_true.mp rfl)
      exact ⟨Criterion.read_eq_some_iff.mp rfl, .positive limit, rfl⟩
    · exact ⟨_, rfl, rfl⟩
  · have compares : blurred.Compares "http_req_duration" "p(95)<500"
        ⟨['p'], some ['9', '5'], .less, ['5', '0', '0']⟩ (0.0 / 0.0) :=
      ⟨Criterion.read_eq_some_iff.mp rfl,
        .positive (.whole (by simp) (List.all_eq_true.mp rfl)), rfl⟩
    obtain ⟨blind, failed⟩ := (lines _ _).2.2 _ _ compares
    exact failed (blind rfl)
  · refine (lines _ _).2.1 fun criterion actual compares => ?_
    cases (Criterion.read_eq_some_iff.mpr compares.spelled : none = some criterion)

/-- A criterion with a limit in other digits than those of ASCII is read and its metric is supported,
and yet its line is that of an invalid one. -/
theorem Report.failures_limit_beyond_ascii :
    Criterion.read "rate<٥".toList = some ⟨['r', 'a', 't', 'e'], none, .less, ['٥']⟩ ∧
      Tally.empty.report.value? "http_req_failed" "rate" none = some 0.0 ∧
      Tally.empty.report.failures [("http_req_failed", ["rate<٥"])] =
        ["Threshold INVALID: http_req_failed 'rate<٥'"] := by
  refine ⟨rfl, rfl, ?_⟩
  simp only [failures, List.mergeSort_singleton]
  rfl

end Run

end ArrivalRamp
