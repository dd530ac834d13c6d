import ArrivalRamp.Decimal.Fixed
import ArrivalRamp.Decimal.Reader
import ArrivalRamp.Report.Basic
import ArrivalRamp.Text.Blank
import ArrivalRamp.Text.DecimalDigit

/-!
Criteria that a report has to meet, such as `p(95)<500` or `rate < 0.01`.
-/

namespace ArrivalRamp

/-- How a value is compared with a limit. -/
inductive Comparison where
  | less
  | lessOrEqual
  | greater
  | greaterOrEqual
  | equal
  deriving DecidableEq, Repr

namespace Comparison

/-- The comparison at the start of a text. -/
def read : List Char → Option (Comparison × List Char)
  | '<' :: '=' :: rest => some (.lessOrEqual, rest)
  | '>' :: '=' :: rest => some (.greaterOrEqual, rest)
  | '=' :: '=' :: rest => some (.equal, rest)
  | '<' :: rest => some (.less, rest)
  | '>' :: rest => some (.greater, rest)
  | _ => none

/-- The distance within which values are equal. -/
def tolerance : Float := Float.ofBits 0x3CB0000000000000

/-- The comparison holds. Nothing holds of a value that is no number. -/
def holds (comparison : Comparison) (actual limit : Float) : Bool :=
  match comparison with
  | .less => actual < limit
  | .lessOrEqual => actual ≤ limit
  | .greater => limit < actual
  | .greaterOrEqual => limit ≤ actual
  | .equal => (actual - limit).abs < tolerance

end Comparison

/-- A criterion as it is written: what is aggregated, a number that belongs to it, a comparison
and a limit. -/
structure Criterion where
  aggregation : List Char
  number : Option (List Char)
  comparison : Comparison
  limit : List Char
  deriving DecidableEq, Repr

namespace Criterion

/-- A text without the blanks at its start. -/
def skipBlanks (text : List Char) : List Char :=
  Text.trimStart Text.isBlank text

/-- The digits at the start of a text and a fraction after them. -/
def readNumber (text : List Char) : Option (List Char × List Char) :=
  let whole := text.takeWhile Text.isDecimalDigit
  let rest := text.dropWhile Text.isDecimalDigit
  if whole.isEmpty then none
  else match rest with
    | '.' :: others =>
      let fraction := others.takeWhile Text.isDecimalDigit
      if fraction.isEmpty then some (whole, rest)
      else some (whole ++ '.' :: fraction, others.dropWhile Text.isDecimalDigit)
    | _ => some (whole, rest)

/-- The number of an aggregation, in brackets after blanks or joined to its word. -/
def readAggregationNumber (text : List Char) : Option (Option (List Char) × List Char) :=
  match skipBlanks text with
  | '(' :: inside =>
    (readNumber (skipBlanks inside)).bind fun (number, rest) =>
      match skipBlanks rest with
      | ')' :: others => some (some number, others)
      | _ => none
  | _ =>
    match readNumber text with
    | some (number, rest) => some (some number, rest)
    | none => some (none, text)

/-- A limit, with an optional minus. -/
def readLimit (text : List Char) : Option (List Char × List Char) :=
  match text with
  | '-' :: digits => (readNumber digits).map fun (number, rest) => ('-' :: number, rest)
  | digits => readNumber digits

/-- The criterion that a text holds, with blanks between its parts. -/
def read (text : List Char) : Option Criterion := do
  let start := skipBlanks text
  let aggregation := start.takeWhile Char.isLower
  if aggregation.isEmpty then none
  let (number, afterNumber) ← readAggregationNumber (start.dropWhile Char.isLower)
  let (comparison, afterComparison) ← Comparison.read (skipBlanks afterNumber)
  let (limit, rest) ← readLimit (skipBlanks afterComparison)
  if rest.all Text.isBlank then some ⟨aggregation, number, comparison, limit⟩ else none

/-- The number of an aggregation. Digits beyond ASCII make no number. -/
def percentile? (criterion : Criterion) : Option Float :=
  criterion.number.bind Decimal.readFloat

/-- The limit. Digits beyond ASCII make no limit. -/
def limit? (criterion : Criterion) : Option Float :=
  Decimal.readFloat criterion.limit

end Criterion

namespace Report

/-- The requests whose status reports neither success nor redirection. -/
def failedRequests (report : Report) : Nat :=
  report.total -
    Ledger.total (report.statusCodes.filter fun code => 200 ≤ code.1 && code.1 < 400)

/-- The latency below which a percentage of requests lies, for the percentages that are kept. -/
def percentile? (report : Report) (percentage : Float) : Option Float :=
  if Binary64.isWhole percentage then
    match Binary64.toWord32 percentage with
    | 50 => some report.p50
    | 90 => some report.p90
    | 95 => some report.p95
    | 99 => some report.p99
    | _ => none
  else none

/-- The value of a metric under an aggregation. -/
def value? (report : Report) (metric aggregation : String) (percentile : Option Float) :
    Option Float :=
  match metric, aggregation, percentile with
  | "http_req_duration", "avg", none => some report.average
  | "http_req_duration", "min", none => some report.minimum
  | "http_req_duration", "max", none => some report.maximum
  | "http_req_duration", "med", none => some report.p50
  | "http_req_duration", "p", some percentage => report.percentile? percentage
  | "http_req_failed", "rate", none => some (share report.failedRequests report.total)
  | "check_fail_rate", "rate", none => some report.checkFailRate
  | "dropped_iterations", "count", none => some (Word.toFloat report.dropped)
  | _, _, _ => none

end Report

/-- What becomes of a criterion. -/
inductive Verdict where
  | holds
  | unreadable
  | unreadableLimit
  | unsupported
  | fails (actual : Float)

namespace Verdict

/-- The line about a criterion that does not hold. -/
def line? (metric expression : String) : Verdict → Option String
  | .holds => none
  | .unreadable => some ("Threshold INVALID: " ++ metric ++ " '" ++ expression ++
      "' (expected e.g. 'p(95)<500' or 'rate<0.01')")
  | .unreadableLimit => some ("Threshold INVALID: " ++ metric ++ " '" ++ expression ++ "'")
  | .unsupported => some ("Threshold INVALID: " ++ metric ++ " '" ++ expression ++
      "' (unsupported metric or aggregation)")
  | .fails actual => some ("Threshold FAILED: " ++ metric ++ " " ++ expression ++
      " (actual: " ++ Decimal.fixed 4 actual ++ ")")

end Verdict

namespace Report

/-- What becomes of a criterion on a metric. -/
def judge (report : Report) (metric expression : String) : Verdict :=
  match Criterion.read expression.toList with
  | none => .unreadable
  | some criterion =>
    match criterion.limit? with
    | none => .unreadableLimit
    | some limit =>
      match report.value? metric (String.ofList criterion.aggregation) criterion.percentile? with
      | none => .unsupported
      | some actual => if criterion.comparison.holds actual limit then .holds else .fails actual

/-- The lines about the criteria that a report does not meet, metric by metric in the order of
their names. -/
def failures (report : Report) (criteria : List (String × List String)) : List String :=
  (criteria.mergeSort fun left right => left.1 ≤ right.1).flatMap fun (metric, expressions) =>
    expressions.filterMap fun expression =>
      (report.judge metric expression).line? metric expression

end Report

end ArrivalRamp
