import ArrivalRamp.Config.Problem
import ArrivalRamp.Text.Blank
import ArrivalRamp.Text.UpperCase

/-!
The settings of a run, with a default wherever the configuration leaves something out.
-/

namespace ArrivalRamp

/-- The settings of a run. Headers, criteria and tags have one entry for each name, in any
order. -/
structure RunSettings where
  name : String
  url : String
  method : String
  headers : List (String × String)
  authToken : Option String
  appName : String
  env : String
  startRate : Nat
  timeUnit : Span
  preAllocatedUsers : Nat
  maxUsers : Nat
  gracefulStop : Span
  timeout : Span
  criteria : List (String × List String)
  tags : List (String × String)
  payload : Option Json

/-- What a run warns of before it starts. -/
inductive SettingWarning where
  | problem (problem : Problem)
  | duration (unreadable : Duration.Unreadable)

/-- The text of a warning. -/
def SettingWarning.message : SettingWarning → String
  | .problem found => found.message
  | .duration unreadable => unreadable.message

/-- The problems that stop a run. -/
structure InvalidConfig where
  problems : List Problem
  deriving DecidableEq, Repr

/-- The message about the problems that stop a run, one a line. -/
def InvalidConfig.message (invalid : InvalidConfig) : String :=
  "Invalid configuration:\n  " ++
    String.intercalate "\n  " (invalid.problems.map Problem.message)

/-- A path below a base address, with one slash between them. -/
def joinUrl (base path : String) : String :=
  let trimmed := String.ofList (Text.trimEnd (· == '/') base.toList)
  if path.isEmpty || path == "/" then trimmed ++ "/"
  else if path.startsWith "/" then trimmed ++ path
  else trimmed ++ "/" ++ path

namespace DurationSetting

/-- The value of a duration setting in a configuration. -/
def value? (config : Config) : DurationSetting → Option String
  | .timeUnit => config.timeUnit
  | .stop => config.stop
  | .timeout => config.timeout

/-- The default of a duration setting. -/
def default : DurationSetting → Span
  | .timeUnit => .ofMillis 1000
  | .stop => .ofMillis 30000
  | .timeout => .ofMillis 60000

/-- The span of a duration setting, with the reason when it is the default for a text that cannot
be read. -/
def resolve (config : Config) (setting : DurationSetting) : Span × Option Duration.Unreadable :=
  match setting.value? config with
  | some text => Duration.ofSettingOr text setting.name setting.default
  | none => (setting.default, none)

end DurationSetting

namespace RunSettings

/-- The name of the tool, which stands in for a name of the test and of the application. -/
def toolName : String := "rampclock"

/-- The number of users that are made before a run. -/
def defaultPreAllocated : Nat := 10

/-- The settings of a configuration without regard to its problems. -/
def resolve (config : Config) : RunSettings :=
  let preAllocated := config.preAllocatedUsers.getD defaultPreAllocated
  { name := config.name.getD toolName
    url := joinUrl (config.baseUrl.getD "") (config.path.getD "/")
    method := Text.toUpper (config.method.getD "POST")
    headers := config.headers.getD []
    authToken := config.authToken.filter fun token => !token.isEmpty
    appName := config.appName.getD toolName
    env := config.env.getD "local"
    startRate := config.startRate.getD 0
    timeUnit := (DurationSetting.timeUnit.resolve config).1
    preAllocatedUsers := preAllocated
    maxUsers := max (max (config.maxUsers.getD (max preAllocated defaultPreAllocated))
      preAllocated) 1
    gracefulStop := (DurationSetting.stop.resolve config).1
    timeout := (DurationSetting.timeout.resolve config).1
    criteria := config.criteria.getD []
    tags := config.tags.getD []
    payload := config.payload }

/-- The warnings about a configuration: tolerated problems, then durations that fall back to their
defaults. -/
def warnings (config : Config) : List SettingWarning :=
  (config.problems.filter Problem.isTolerated).map .problem ++
    ([DurationSetting.timeUnit, .stop, .timeout].filterMap fun setting =>
      (setting.resolve config).2).map .duration

/-- The settings of a configuration and the warnings about it, unless a problem stops the run. -/
def ofConfig (config : Config) : Except InvalidConfig (RunSettings × List SettingWarning) :=
  match config.problems.filter (Problem.isFatal config.isStrict) with
  | [] => .ok (resolve config, warnings config)
  | fatal => .error ⟨fatal⟩

/-- The tags of a run: its name, application and environment, and then what is configured. -/
def runTags (settings : RunSettings) : Ledger String String :=
  Ledger.ofList
    ([("lt", settings.name), ("app", settings.appName), ("env", settings.env)] ++ settings.tags)

end RunSettings

end ArrivalRamp
