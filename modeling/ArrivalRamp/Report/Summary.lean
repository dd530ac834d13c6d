import ArrivalRamp.Decimal.Fixed
import ArrivalRamp.Report.Basic

/-!
The summary of a run for a reader.
-/

namespace ArrivalRamp.Report

/-- A latency with its unit. -/
def latencyText (latency : Float) : String :=
  Decimal.fixed 2 latency ++ " ms"

/-- The counts of a ledger, one a line. -/
def countLines {Key : Type} (name : Key → String) (ledger : Ledger Key Nat) : List String :=
  ledger.map fun entry => "  " ++ name entry.1 ++ ": " ++ Decimal.natural entry.2

/-- The lines on one stage. Failures and dropped arrivals show only when there are any. -/
def stageLines (stage : StageSummary) : List String :=
  ["  " ++ stage.tag,
    "    Requests: " ++ Decimal.natural stage.total,
    "    P95:      " ++ latencyText stage.p95] ++
  (if 0 < stage.failed then ["    Failed:   " ++ Decimal.natural stage.failed] else []) ++
  (if 0 < stage.dropped then ["    Dropped:  " ++ Decimal.natural stage.dropped] else [])

/-- A part of the summary under its heading, left out when it is empty. -/
def part (heading : String) (lines : List String) : List String :=
  if lines.isEmpty then [] else ["", heading ++ ":"] ++ lines

/-- The lines of the summary. -/
def summaryLines (report : Report) : List String :=
  ["", "--- Test Summary ---"] ++
  (if report.total = 0 && report.dropped = 0 then ["No metrics collected."]
  else
    ["Total Requests:     " ++ Decimal.natural report.total,
      "Failed Checks:      " ++ Decimal.natural report.failed ++ " (" ++
        Decimal.fixed 2 (report.checkFailRate * 100.0) ++ "%)",
      "Dropped Iterations: " ++ Decimal.natural report.dropped,
      "Avg Latency:        " ++ latencyText report.average,
      "Min Latency:        " ++ latencyText report.minimum,
      "Max Latency:        " ++ latencyText report.maximum,
      "P50 Latency:        " ++ latencyText report.p50,
      "P90 Latency:        " ++ latencyText report.p90,
      "P95 Latency:        " ++ latencyText report.p95,
      "P99 Latency:        " ++ latencyText report.p99] ++
    part "Status Codes" (countLines Decimal.natural report.statusCodes) ++
    part "Stages" (report.stages.flatMap stageLines) ++
    part "Errors" (countLines id report.errors)) ++
  ["--------------------", ""]

/-- The summary of a run. -/
def summary (report : Report) : String :=
  String.join (report.summaryLines.map fun line => line ++ "\n")

end ArrivalRamp.Report
