import ArrivalRamp.Config.Basic
import ArrivalRamp.Duration.Setting

/-!
Problems of a configuration, and which of them stop a run.
-/

namespace ArrivalRamp

/-- A duration setting of a configuration. -/
inductive DurationSetting where
  | timeUnit
  | stop
  | timeout
  deriving DecidableEq, Repr

/-- The name of a duration setting. -/
def DurationSetting.name : DurationSetting → String
  | .timeUnit => "time_unit"
  | .stop => "stop"
  | .timeout => "timeout"

/-- A problem of a configuration. -/
inductive Problem where
  | unrecognizedDuration (stage : Nat) (token : String)
  | zeroTarget (stage : Nat)
  | noStages
  | invalidDuration (setting : DurationSetting) (value : String)
  | userBounds (preAllocated max : Nat)
  | missingBaseUrl
  deriving DecidableEq, Repr

namespace Problem

/-- The text of a problem. -/
def message : Problem → String
  | .unrecognizedDuration stage token =>
    "stage " ++ Decimal.natural stage ++ ": unrecognized duration '" ++ token ++
      "' (expected <n>ms, <n>s, <n>m or <n>h)"
  | .zeroTarget stage => "stage " ++ Decimal.natural stage ++ ": target rate is 0"
  | .noStages => "no stages configured"
  | .invalidDuration setting value =>
    setting.name ++ ": '" ++ value ++ "' is not a valid duration"
  | .userBounds preAllocated max =>
    "max_vus (" ++ Decimal.natural max ++ ") is lower than pre_allocated_vus (" ++
      Decimal.natural preAllocated ++ ")"
  | .missingBaseUrl => "base_url is not set (config or BASE_URL)"

/-- The profile still makes sense with the problem in it. -/
def isTolerated : Problem → Bool
  | .unrecognizedDuration .. | .zeroTarget .. => true
  | _ => false

/-- The problem stops a run. Without strictness a run goes on with a tolerated problem, and with
the default in place of an invalid duration. -/
def isFatal (strict : Bool) : Problem → Bool
  | .invalidDuration .. => strict
  | problem => strict || !problem.isTolerated

end Problem

/-- The token is a way to write zero: zeros before the letters at its end, which are those of a
unit. -/
def isZeroToken (token : String) : Bool :=
  let digits := Text.trimEnd Char.isAlpha token.toList
  let letters := token.toList.drop digits.length
  !digits.isEmpty && digits.all (· == '0') && TimeUnit.all.any (·.letters == letters)

/-- The problems of one stage. -/
def ScheduleStep.problems (index : Nat) (step : ScheduleStep) : List Problem :=
  (if Duration.tokenMillis step.duration = 0 && !isZeroToken step.duration then
    [.unrecognizedDuration index step.duration] else []) ++
  (if step.target = 0 then [.zeroTarget index] else [])

/-- The problems of stages from an index on. -/
def stageProblems (index : Nat) : List ScheduleStep → List Problem
  | [] => []
  | step :: steps => step.problems index ++ stageProblems (index + 1) steps

/-- The problem of a duration setting. -/
def durationProblem (setting : DurationSetting) (value : Option String) : List Problem :=
  match value with
  | some text => if (Duration.ofSetting? text).isNone then [.invalidDuration setting text] else []
  | none => []

/-- A problem with what a diagnosis says about it. -/
structure Finding where
  problem : Problem
  fatal : Bool
  deriving DecidableEq, Repr

namespace Config

/-- The problems of a configuration, in a fixed order. -/
def problems (config : Config) : List Problem :=
  (match config.stages.getD [] with
    | [] => [.noStages]
    | steps => stageProblems 0 steps) ++
  durationProblem .timeUnit config.timeUnit ++
  durationProblem .stop config.stop ++
  durationProblem .timeout config.timeout ++
  (match config.preAllocatedUsers, config.maxUsers with
    | some preAllocated, some max =>
      if max < preAllocated then [.userBounds preAllocated max] else []
    | _, _ => []) ++
  (if (config.baseUrl.getD "").isEmpty then [.missingBaseUrl] else [])

/-- The problems of a configuration with what each of them means for a run. -/
def findings (config : Config) (strict : Bool) : List Finding :=
  config.problems.map fun problem => ⟨problem, problem.isFatal (strict || config.isStrict)⟩

end Config

end ArrivalRamp
