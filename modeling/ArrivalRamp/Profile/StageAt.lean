import ArrivalRamp.Duration.Span
import ArrivalRamp.Profile.Basic

/-!
The stage that is active at an elapsed time, and the rate offered then.
-/

namespace ArrivalRamp

/-- The first index from `low` up to `high` whose entry does not hold, when the entries that hold
come first. -/
def partitionPoint (holds : Nat → Bool) (low high : Nat) : Nat :=
  if low < high then
    let middle := (low + high) / 2
    if holds middle then partitionPoint holds (middle + 1) high
    else partitionPoint holds low middle
  else low
  termination_by high - low
  decreasing_by all_goals omega

namespace Profile

/-- A stage ends at or before an elapsed time. -/
def endsBy (profile : Profile) (elapsed : Float) (index : Nat) : Bool :=
  match profile.boundaries[index]? with
  | some boundary => Word.toFloat boundary ≤ elapsed
  | none => false

/-- The stage at an elapsed time. The instant at which a stage ends belongs to the next one, so a
stage without length is never active. There is none before the start, from the end on, and at what
is no finite time. -/
def stageAt? (profile : Profile) (elapsed : Float) : Option Nat :=
  if !elapsed.isFinite || elapsed < 0.0 then none
  else
    let index := partitionPoint (profile.endsBy elapsed) 0 profile.size
    if index < profile.size then some index else none

/-- The stage at an elapsed time, found by looking at one end after another. -/
def scanStageAt? (profile : Profile) (elapsed : Float) : Option Nat :=
  if !elapsed.isFinite || elapsed < 0.0 then none
  else profile.boundaries.findIdx? fun boundary => elapsed < Word.toFloat boundary

/-- The stage after a span of time. -/
def stageAfter? (profile : Profile) (span : Span) : Option Nat :=
  profile.stageAt? span.toMillis

/-- The rate before a stage: the target of the one before it, or the rate at the start. -/
def rateBefore (profile : Profile) (startRate index : Nat) : Nat :=
  match index with
  | 0 => startRate
  | previous + 1 => (profile.target? previous).getD 0

/-- The rate on the even way from one rate to another, at an elapsed time after the start of the
way. -/
def rateBetween {Number : Type} [Add Number] [Sub Number] [Mul Number] [Div Number]
    (before target length offset elapsed : Number) : Number :=
  before + (target - before) * ((elapsed - offset) / length)

/-- The rate offered at an elapsed time. In each stage it moves evenly from the rate before the
stage to its target. -/
def rateAt? (profile : Profile) (startRate : Nat) (elapsed : Float) : Option Float := do
  let index ← profile.stageAt? elapsed
  let stage ← profile.stages[index]?
  let before := Word.toFloat (profile.rateBefore startRate index)
  let offset := Word.toFloat ((profile.startOffset? index).getD 0)
  return rateBetween before (Word.toFloat stage.target) (Word.toFloat stage.millis) offset elapsed

end Profile

end ArrivalRamp
