import ArrivalRamp.Decimal.Natural
import ArrivalRamp.Profile.StageAt

/-!
Labels that tell which stage a unit of work belongs to.
-/

namespace ArrivalRamp

/-- The label of a unit of work: its stage, the tag it is counted under, and the target as text. -/
structure StageLabel where
  stage : Option Nat
  tag : String
  target : String
  deriving DecidableEq, Repr

namespace StageLabel

/-- The text that starts every tag. -/
def tagStart : String := "rps-"

/-- The label of work outside every stage. -/
def unknown : StageLabel :=
  ⟨none, tagStart ++ "unknown", "unknown"⟩

/-- The label of work in a stage. -/
def known (index target : Nat) : StageLabel :=
  ⟨some index, tagStart ++ Decimal.natural target, Decimal.natural target⟩

/-- The label is that of work outside every stage. -/
def isUnknown (label : StageLabel) : Bool :=
  label.stage.isNone

end StageLabel

namespace Profile

/-- The label of a stage. A stage that the profile lacks is unknown. -/
def label (profile : Profile) (stage : Option Nat) : StageLabel :=
  match stage with
  | none => .unknown
  | some index =>
    match profile.target? index with
    | some target => .known index target
    | none => .unknown

/-- The label at an elapsed time. -/
def labelAt (profile : Profile) (elapsed : Float) : StageLabel :=
  profile.label (profile.stageAt? elapsed)

end Profile

/-- One iteration of one virtual user. -/
structure WorkUnit where
  user : Nat
  iteration : Nat
  deriving DecidableEq, Repr

/-- The identifier of a request: the user, its iteration and a nonce. -/
def WorkUnit.requestId (work : WorkUnit) (nonce : Nat) : String :=
  "REQ-" ++ Decimal.natural work.user ++ "-" ++ Decimal.natural work.iteration ++ "-" ++
    Decimal.natural nonce

end ArrivalRamp
