import ArrivalRamp.Decimal.Binary64
import ArrivalRamp.Decimal.Natural
import ArrivalRamp.Text.Blank
import ArrivalRamp.Word

/-!
Spans of time in whole nanoseconds.
-/

namespace ArrivalRamp

/-- A length of time. -/
structure Span where
  nanos : Nat
  deriving DecidableEq, Repr

namespace Span

/-- The whole seconds of a span. -/
def seconds (span : Span) : Nat := span.nanos / 1000000000

/-- The nanoseconds past the whole seconds. -/
def subsecond (span : Span) : Nat := span.nanos % 1000000000

/-- A span of whole milliseconds. -/
def ofMillis (millis : Nat) : Span := ⟨millis * 1000000⟩

/-- A span of seconds and nanoseconds. -/
def ofParts (seconds nanos : Nat) : Span := ⟨seconds * 1000000000 + nanos⟩

/-- The whole milliseconds of a span. -/
def wholeMillis (span : Span) : Nat := span.nanos / 1000000

/-- The whole microseconds of a span. -/
def wholeMicros (span : Span) : Nat := span.nanos / 1000

/-- The milliseconds of a span. Seconds and their remainder are scaled apart, so that a span of
whole milliseconds has its exact number. -/
def toMillis (span : Span) : Float :=
  Word.toFloat span.seconds * 1000.0 + Word.toFloat span.subsecond / 1000000.0

/-- The seconds of a span. -/
def toSeconds (span : Span) : Float :=
  Word.toFloat span.seconds + Word.toFloat span.subsecond / 1000000000.0

/-- The span of a number of seconds, to the nearest nanosecond. A number below zero has none. -/
def ofSeconds (seconds : Float) : Span :=
  match Binary64.ofFloat seconds with
  | .finite false significand exponent =>
    ⟨Binary64.roundDiv .toEven (Binary64.numerator significand exponent * 1000000000)
      (Binary64.scale exponent)⟩
  | _ => ⟨0⟩

/-- The time from an earlier span to a later one. -/
def since (later earlier : Span) : Span := ⟨later.nanos - earlier.nanos⟩

/-- The shorter of two spans. -/
def shorter (left right : Span) : Span := ⟨min left.nanos right.nanos⟩

/-- The milliseconds that a pause takes: whole ones, at least one, and not less than the span. -/
def pauseMillis (span : Span) : Nat := max 1 ((span.nanos + 999999) / 1000000)

/-- A whole part and the decimals after it, without zeros at their end. -/
def decimals (whole fraction places : Nat) : String :=
  let figures := Text.trimEnd (· == '0') (Decimal.padded places fraction)
  Decimal.natural whole ++
    (if figures.isEmpty then "" else "." ++ String.ofList figures)

/-- A span in the greatest of seconds, milliseconds, microseconds and nanoseconds that it fills. -/
def text (span : Span) : String :=
  if 0 < span.seconds then decimals span.seconds span.subsecond 9 ++ "s"
  else if 1000000 ≤ span.nanos then
    decimals span.wholeMillis (span.nanos % 1000000) 6 ++ "ms"
  else if 1000 ≤ span.nanos then decimals span.wholeMicros (span.nanos % 1000) 3 ++ "µs"
  else Decimal.natural span.nanos ++ "ns"

end Span

end ArrivalRamp
