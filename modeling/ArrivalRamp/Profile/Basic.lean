import ArrivalRamp.Duration.Token
import ArrivalRamp.Word

/-!
The load profile: stages one after another, and the elapsed time at which each of them ends.
-/

namespace ArrivalRamp

/-- One stage of the load: the rate at its end, and how long it lasts as a duration token. -/
structure Stage where
  target : Nat
  token : String
  deriving DecidableEq, Repr

namespace Stage

/-- The length of a stage in milliseconds. A token that is no duration has none. -/
def millis (stage : Stage) : Nat :=
  Duration.tokenMillis stage.token

theorem millis_le (stage : Stage) : stage.millis ≤ Word.maxCount :=
  Duration.tokenMillis_le stage.token

end Stage

/-- The ends of stages that follow one another from a start. -/
def boundariesFrom (start : Nat) : List Stage → List Nat
  | [] => []
  | stage :: stages =>
    let stop := Word.addCount start stage.millis
    stop :: boundariesFrom stop stages

@[simp]
theorem length_boundariesFrom (start : Nat) (stages : List Stage) :
    (boundariesFrom start stages).length = stages.length := by
  induction stages generalizing start with
  | nil => rfl
  | cons stage stages step => simp [boundariesFrom, step]

/-- Stages in their order, with the elapsed millisecond at which each of them ends. -/
structure Profile where
  stages : Array Stage
  boundaries : Array Nat
  boundaries_eq : boundaries = (boundariesFrom 0 stages.toList).toArray

namespace Profile

/-- The profile of stages in their order. -/
def ofStages (stages : List Stage) : Profile where
  stages := stages.toArray
  boundaries := (boundariesFrom 0 stages).toArray
  boundaries_eq := by simp

/-- The profile of targets and tokens in their order. -/
def ofPairs (pairs : List (Nat × String)) : Profile :=
  ofStages (pairs.map fun pair => ⟨pair.1, pair.2⟩)

/-- The number of stages. -/
def size (profile : Profile) : Nat :=
  profile.stages.size

@[simp]
theorem size_boundaries (profile : Profile) : profile.boundaries.size = profile.size := by
  rw [profile.boundaries_eq]
  simp [size]

/-- The end of a stage. -/
def boundary? (profile : Profile) (index : Nat) : Option Nat :=
  profile.boundaries[index]?

/-- The rate at the end of a stage. -/
def target? (profile : Profile) (index : Nat) : Option Nat :=
  profile.stages[index]?.map Stage.target

/-- The start of a stage, which is the end of the stage before it. -/
def startOffset? (profile : Profile) (index : Nat) : Option Nat :=
  if profile.size ≤ index then none
  else match index with
    | 0 => some 0
    | previous + 1 => profile.boundary? previous

/-- The length of the whole profile. -/
def total (profile : Profile) : Nat :=
  profile.boundaries.back?.getD 0

end Profile

end ArrivalRamp
