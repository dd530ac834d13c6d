import ArrivalRamp.Duration.Span

/-!
Pacing: arrivals are offered out of a credit, which grows with the rate and the time that passes.
-/

namespace ArrivalRamp.Pacing

/-- The credit after some time at a rate for each unit of time. -/
def accrue {Number : Type} [Add Number] [Mul Number] [Div Number]
    (credit rate gap unit : Number) : Number :=
  credit + rate * gap / unit

/-- Whole credits are spent one after another, each for an arrival. What is left shows whether the
steps were enough. -/
def spend {Number : Type} [Sub Number] [OfNat Number 1] [LE Number] [DecidableLE Number]
    (steps arrivals : Nat) (credit : Number) : Nat × Number :=
  match steps with
  | 0 => (arrivals, credit)
  | steps + 1 =>
    if 1 ≤ credit then spend steps (arrivals + 1) (credit - 1) else (arrivals, credit)

/-- The number of credits up to which taking one away is exact. -/
def greatestCredit : Nat := 0x20000000000000

/-- The longest time between two looks at the rate. -/
def longestWait : Span := .ofMillis 10

/-- The time until the next look: until the credit is whole, but no longer than the longest wait,
and not beyond the end of the profile. -/
def wait (credit rate unit : Float) (left : Span) : Span :=
  let most := (longestWait.shorter left).toSeconds
  if 0.0 < rate then
    let needed := (1.0 - credit) * unit / rate
    .ofSeconds (if needed < 0.0 then 0.0 else if most < needed then most else needed)
  else .ofSeconds most

end ArrivalRamp.Pacing
