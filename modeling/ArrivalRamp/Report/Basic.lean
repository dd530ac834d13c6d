import ArrivalRamp.Tally.Basic

/-!
The report of a run: counts, latencies in milliseconds and shares.
-/

namespace ArrivalRamp

/-- The report on one stage tag. -/
structure StageSummary where
  tag : String
  target : String
  total : Nat
  failed : Nat
  dropped : Nat
  average : Float
  p95 : Float
  p99 : Float
  maximum : Float

/-- The report of a run. Status codes, errors and stages stand in their order. -/
structure Report where
  total : Nat
  failed : Nat
  dropped : Nat
  average : Float
  minimum : Float
  maximum : Float
  p50 : Float
  p90 : Float
  p95 : Float
  p99 : Float
  checkFailRate : Float
  statusCodes : Ledger Nat Nat
  errors : Ledger String Nat
  stages : List StageSummary

/-- The milliseconds of a span, scaled from its seconds. -/
def latencyMillis (span : Span) : Float :=
  span.toSeconds * 1000.0

/-- The mean of a sum of durations, or zero when there is none. -/
def meanMillis (sum : Span) (count : Nat) : Float :=
  if 0 < count then latencyMillis sum / Word.toFloat count else 0.0

/-- A part of a whole, or zero when the whole is nothing. -/
def share (part whole : Nat) : Float :=
  if 0 < whole then Word.toFloat part / Word.toFloat whole else 0.0

/-- The report on what happened under a tag. -/
def StageTally.summary (tag : String) (tally : StageTally) : StageSummary where
  tag := tag
  target := tally.target
  total := tally.total
  failed := tally.failed
  dropped := tally.dropped
  average := meanMillis tally.duration tally.total
  p95 := tally.latencies.quantileMillis 0.95
  p99 := tally.latencies.quantileMillis 0.99
  maximum := tally.latencies.maximumMillis

/-- The report on what happened. -/
def Tally.report (tally : Tally) : Report where
  total := tally.total
  failed := tally.failed
  dropped := tally.dropped
  average := meanMillis tally.duration tally.total
  minimum := tally.shortest.elim 0.0 latencyMillis
  maximum := latencyMillis tally.longest
  p50 := tally.latencies.quantileMillis 0.5
  p90 := tally.latencies.quantileMillis 0.9
  p95 := tally.latencies.quantileMillis 0.95
  p99 := tally.latencies.quantileMillis 0.99
  checkFailRate := share tally.failed tally.total
  statusCodes := tally.statusCodes
  errors := tally.errors
  stages := tally.stages.map fun stage => stage.2.summary stage.1

end ArrivalRamp
