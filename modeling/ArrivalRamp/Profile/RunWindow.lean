import ArrivalRamp.Decimal.Binary64
import ArrivalRamp.Profile.Basic

/-!
The run on the wall clock: when it started and ended, and when each stage was due.
-/

namespace ArrivalRamp

/-- The wall-clock instants between which a run took place, in milliseconds. -/
structure RunWindow where
  start : Int
  stop : Int
  deriving DecidableEq, Repr

namespace RunWindow

/-- The whole milliseconds of a reported length, if it is finite and positive. -/
def reportedMillis? (reported : Float) : Option Int :=
  if reported.isFinite && 0.0 < reported then
    match Binary64.ofFloat reported with
    | .finite false significand exponent =>
      some (min (Binary64.roundMagnitude significand exponent) Word.maxInstant)
    | _ => none
  else none

/-- The window of a run from its end. The reported length counts, and when there is no usable one,
the given length read as a signed word. -/
def ofStop (stop : Int) (reported : Option Float) (fallback : Nat) : RunWindow :=
  let length := (reported.bind reportedMillis?).getD (Word.signed fallback)
  ⟨Word.clampInstant (stop - length), stop⟩

/-- The length of a window. -/
def length (window : RunWindow) : Int :=
  window.stop - window.start

end RunWindow

/-- The instant at which a stage is due. -/
structure StageStart where
  stage : Nat
  target : Nat
  instant : Int
  deriving DecidableEq, Repr

/-- The starts of stages with their ends, from an index on. -/
def stageStarts (runStart : Int) (index : Nat) : List (Stage × Nat) → List StageStart
  | [] => []
  | (stage, boundary) :: others =>
    ⟨index, stage.target,
      Word.clampInstant (runStart + Word.signed (boundary - stage.millis))⟩ ::
      stageStarts runStart (index + 1) others

/-- The instants at which the stages of a run are due, whether or not it lasts that long. -/
def Profile.starts (profile : Profile) (runStart : Int) : List StageStart :=
  stageStarts runStart 0 (profile.stages.toList.zip profile.boundaries.toList)

end ArrivalRamp
