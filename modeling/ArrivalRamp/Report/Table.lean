import ArrivalRamp.Decimal.Fixed
import ArrivalRamp.Profile.StageReport
import ArrivalRamp.Report.Basic

/-!
The report of a run as a table of metrics, with the table of its stages after it.
-/

namespace ArrivalRamp.Report

/-- What a metric measures, with its value. -/
inductive MetricValue where
  | counter (count : Nat)
  | rate (share : Float)
  | gauge (millis : Float)

/-- The columns of a value. A rate has six decimals and a gauge three. -/
def MetricValue.columns : MetricValue → String
  | .counter count => "counter," ++ Decimal.natural count
  | .rate share => "rate," ++ Decimal.fixed 6 share
  | .gauge millis => "gauge," ++ Decimal.fixed 3 millis

/-- The name of a tag in the table, where it has no minus. -/
def tagName (tag : String) : String :=
  String.ofList (tag.toList.map fun character => if character = '-' then '_' else character)

/-- The metrics of one stage. -/
def stageMetrics (stage : StageSummary) : List (String × MetricValue) :=
  let name := tagName stage.tag
  [(name ++ "_count", .counter stage.total), (name ++ "_failed", .counter stage.failed),
    (name ++ "_dropped", .counter stage.dropped), (name ++ "_p95", .gauge stage.p95)]

/-- The metrics of a run in the order of the table. -/
def metrics (report : Report) : List (String × MetricValue) :=
  [("http_req_count", .counter report.total), ("http_req_failed", .counter report.failed),
    ("dropped_iterations", .counter report.dropped),
    ("check_fail_rate", .rate report.checkFailRate),
    ("http_req_duration_avg", .gauge report.average),
    ("http_req_duration_min", .gauge report.minimum),
    ("http_req_duration_max", .gauge report.maximum),
    ("http_req_duration_p50", .gauge report.p50),
    ("http_req_duration_p90", .gauge report.p90),
    ("http_req_duration_p95", .gauge report.p95),
    ("http_req_duration_p99", .gauge report.p99)] ++
  (report.statusCodes.map fun code =>
    ("http_req_status_" ++ Decimal.natural code.1, MetricValue.counter code.2)) ++
  report.stages.flatMap stageMetrics

/-- The row of a metric. -/
def metricRow (metric : String × MetricValue) : String :=
  metric.1 ++ "," ++ metric.2.columns ++ "\n"

/-- The table of metrics, an empty line, and the table of stages. -/
def table (report : Report) (records : List StageRecord) : String :=
  "metric_name,metric_type,value\n" ++ String.join (report.metrics.map metricRow) ++ "\n" ++
    StageRecord.table records

end ArrivalRamp.Report
