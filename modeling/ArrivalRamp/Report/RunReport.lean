import ArrivalRamp.Profile.StageReport
import ArrivalRamp.Report.Basic

/-!
Everything about a run in one JSON document.
-/

namespace ArrivalRamp

/-- A count of each key as a JSON object. -/
def Ledger.toJson {Key : Type} (name : Key → String) (ledger : Ledger Key Nat) : Json :=
  .object (ledger.map fun entry => (name entry.1, .integer entry.2))

/-- The report on a stage as a JSON object. -/
def StageSummary.toJson (stage : StageSummary) : Json :=
  .object
    [("stage", .text stage.tag), ("target", .text stage.target),
      ("total_requests", .integer stage.total), ("failed_requests", .integer stage.failed),
      ("dropped_iterations", .integer stage.dropped),
      ("avg_latency_ms", .decimal stage.average), ("p95_latency_ms", .decimal stage.p95),
      ("p99_latency_ms", .decimal stage.p99), ("max_latency_ms", .decimal stage.maximum)]

/-- The report of a run as a JSON object. -/
def Report.toJson (report : Report) : Json :=
  .object
    [("total_requests", .integer report.total), ("failed_requests", .integer report.failed),
      ("dropped_iterations", .integer report.dropped),
      ("avg_latency_ms", .decimal report.average), ("min_latency_ms", .decimal report.minimum),
      ("max_latency_ms", .decimal report.maximum), ("p50_latency_ms", .decimal report.p50),
      ("p90_latency_ms", .decimal report.p90), ("p95_latency_ms", .decimal report.p95),
      ("p99_latency_ms", .decimal report.p99),
      ("check_fail_rate", .decimal report.checkFailRate),
      ("status_codes", report.statusCodes.toJson Decimal.natural),
      ("errors", report.errors.toJson id),
      ("stages", .array (report.stages.map StageSummary.toJson))]

/-- A finished run: its name, window, tags, report, stages and unmet criteria. -/
structure RunReport where
  name : String
  window : RunWindow
  tags : Ledger String String
  summary : Report
  stages : List StageRecord
  failures : List String

/-- A finished run as a JSON object. -/
def RunReport.toJson (run : RunReport) : Json :=
  .object
    [("name", .text run.name),
      ("window", .object
        [("start_epoch_ms", .integer run.window.start),
          ("end_epoch_ms", .integer run.window.stop)]),
      ("start", .text (Timestamp.write run.window.start)),
      ("end", .text (Timestamp.write run.window.stop)),
      ("tags", .object (run.tags.map fun tag => (tag.1, .text tag.2))),
      ("summary", run.summary.toJson),
      ("stages", .array (run.stages.map StageRecord.toJson)),
      ("threshold_failures", .array (run.failures.map Json.text))]

end ArrivalRamp
