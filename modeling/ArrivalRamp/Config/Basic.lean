import ArrivalRamp.Document.Shape
import ArrivalRamp.Ledger
import ArrivalRamp.Profile.Basic

/-!
The configuration of a run, as it is written down.
-/

namespace ArrivalRamp

/-- A stage as it is configured. -/
structure ScheduleStep where
  duration : String
  target : Nat
  deriving DecidableEq, Repr

/-- A configuration. Headers, criteria and tags have one entry for each name, in any order. -/
structure Config where
  name : Option String
  baseUrl : Option String
  path : Option String
  method : Option String
  headers : Option (List (String × String))
  authToken : Option String
  appName : Option String
  env : Option String
  stages : Option (List ScheduleStep)
  startRate : Option Nat
  timeUnit : Option String
  preAllocatedUsers : Option Nat
  maxUsers : Option Nat
  stop : Option String
  timeout : Option String
  criteria : Option (List (String × List String))
  tags : Option (List (String × String))
  payload : Option Json
  strict : Option Bool

namespace Config

/-- A configuration that sets nothing. -/
def empty : Config :=
  ⟨none, none, none, none, none, none, none, none, none, none, none, none, none, none, none, none,
    none, none, none⟩

/-- The load profile of the configured stages. -/
def profile (config : Config) : Profile :=
  Profile.ofPairs ((config.stages.getD []).map fun step => (step.target, step.duration))

/-- The configuration asks for every problem to stop a run. -/
def isStrict (config : Config) : Bool :=
  config.strict.getD false

end Config

end ArrivalRamp
