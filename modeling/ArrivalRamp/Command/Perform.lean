import ArrivalRamp.Command.Completion
import ArrivalRamp.Command.Fault
import ArrivalRamp.Command.Starter
import ArrivalRamp.Config.Schema
import ArrivalRamp.EnvFile
import ArrivalRamp.Execution.Run
import ArrivalRamp.Profile.Listing
import ArrivalRamp.Report.Criterion
import ArrivalRamp.Report.RunReport
import ArrivalRamp.Report.Summary
import ArrivalRamp.Report.Table

/-!
What the commands do on a machine.
-/

namespace ArrivalRamp

variable {Action : Type → Type} [Host Action]

/-- The texts of the variables of the machine. A value that is no text counts as none. -/
def Overrides.current : Action Overrides :=
  names.filterMapM fun name => do
    let value ← Host.variableNamed name
    return (value.bind VariableValue.text?).map fun text => (name, text)

namespace EnvFile

/-- A text can be the name or the value of a variable. -/
def isSettable (text : String) : Bool :=
  !text.toList.contains '\x00'

/-- A variable of a file is set where the machine has none of its name. One that is empty, or no
text, is there. -/
def setMissing (entry : String × String) : ExceptT CommandFault Action Unit := do
  if (← Host.variableNamed entry.1).isNone then
    if isSettable entry.1 && isSettable entry.2 then Host.setVariable entry.1 entry.2
    else throw (.unsettable entry.1)

/-- The text of the first file that can be read. -/
def firstReadable : List String → Action (Option String)
  | [] => return none
  | path :: paths => do
    match ← Host.readFile path with
    | .ok text => return some text
    | .error _ => firstReadable paths

/-- Where a file of variables may lie: beside the configuration, and in the working directory. -/
def paths (config : String) : List String :=
  [FilePath.join ((FilePath.directory? config).getD ".") Starter.variablesName,
    Starter.variablesName]

/-- The variables of the first file that can be read are set one after another. -/
def load (config : String) : ExceptT CommandFault Action Unit := do
  if let some text := ← firstReadable (paths config) then
    (read text).forM setMissing

end EnvFile

namespace Command

/-- The value of a step, or the fault that its failure leads to. -/
def orFail {Fault Value : Type} (blame : Fault → CommandFault) :
    Except Fault Value → ExceptT CommandFault Action Value
  | .ok value => return value
  | .error fault => throw (blame fault)

/-- The configuration in the file at a path. -/
def configAt (path : String) : ExceptT CommandFault Action Config := do
  orFail .load (Config.ofFile path (← Host.readFile path))

/-- The configuration of a run, with everything that stands in for parts of it. -/
def runConfig (request : RunRequest) : ExceptT CommandFault Action Config := do
  EnvFile.load request.config
  let config ← configAt request.config
  let overrides ← Overrides.current
  return ((config.override overrides).withBaseUrl request.baseUrl).withStrict request.isStrict

/-- The results of a run. -/
def results (plan : RunPlan) (outcome : RunOutcome) : RunReport :=
  let summary := outcome.tally.report
  { name := plan.settings.name
    window := outcome.window
    tags := plan.settings.runTags
    summary := summary
    stages := plan.profile.records outcome.window
    failures := summary.failures plan.settings.criteria }

/-- The text about the results of a run. -/
def resultText (outcome : RunOutcome) (results : RunReport) : String :=
  results.summary.summary ++ StageRecord.lines results.stages ++
    (if outcome.isInterrupted then
      "Run interrupted after " ++ Decimal.fixed 1 outcome.elapsed.toSeconds ++ "s\n"
    else "") ++
    String.join (results.failures.map fun failure => failure ++ "\n")

/-- A file of results is written. -/
def writeResults (path text : String) : ExceptT CommandFault Action Unit := do
  orFail (.unwritten path) (← Host.writeFile path text)

/-- The path in a wish for a table of results. -/
def tablePath? (output : String) : Option String :=
  let start := "csv=".toList
  if start.isPrefixOf output.toList then some (String.ofList (output.toList.drop start.length))
  else none

/-- The files of results that a run is asked for. -/
def exportResults (request : RunRequest) (results : RunReport) :
    ExceptT CommandFault Action Unit := do
  if let some path := request.exportPath then
    writeResults path results.toJson.pretty
  if let some output := request.output then
    match tablePath? output with
    | some path => writeResults path (results.summary.table results.stages)
    | none => Host.report ("unsupported --out '" ++ output ++ "' (expected csv=<path>)")

/-- The plan of a run and what came of it. Warnings are reported on the way. -/
def outcomeOf [UrlParser] (request : RunRequest) :
    ExceptT CommandFault Action (RunPlan × RunOutcome) := do
  let config ← runConfig request
  let (settings, warnings) ← orFail .config (RunSettings.ofConfig config)
  let plan ← orFail .template (RunPlan.ofSettings settings config.profile)
  warnings.forM fun warning => Host.report warning.message
  let outcome ← plan.run
  outcome.warnings.forM fun warning => Host.report warning.message
  return (plan, outcome)

/-- The results of a run are shown, and written to the files that are asked for. -/
def present (request : RunRequest) (outcome : RunOutcome) (results : RunReport) :
    ExceptT CommandFault Action Unit := do
  Host.print
    (if request.asJson then results.toJson.pretty ++ "\n" else resultText outcome results)
  exportResults request results

/-- A profile is run. The command passes when every criterion is met. -/
def performRun [UrlParser] (request : RunRequest) : ExceptT CommandFault Action Bool := do
  let (plan, outcome) ← outcomeOf request
  let results := results plan outcome
  present request outcome results
  return results.failures.isEmpty

/-- The stages of a finished run are found. -/
def performProject (path stop : String) (length : Option String) (asJson : Bool) :
    ExceptT CommandFault Action Unit := do
  let config ← configAt path
  let present ← Host.instant
  let (window, records) ← orFail .stop (config.profile.project present stop length)
  Host.print (window.report records asJson)

/-- A configuration is checked. -/
def performValidate (path : String) (isStrict : Bool) : ExceptT CommandFault Action Unit := do
  EnvFile.load path
  let loaded := Config.ofFile path (← Host.readFile path)
  let (text, refusal) := Config.validate path isStrict (← Overrides.current) loaded
  Host.print text
  if let some refusal := refusal then throw (.refused refusal)

/-- A file is written to start from. -/
def writeStarter (path text : String) : ExceptT CommandFault Action Unit := do
  orFail .file (← Host.writeFile path text)
  Host.print ("✓ Created " ++ path ++ "\n")

/-- The file of variables is written to start from, unless there is one. -/
def writeVariables (path : String) : ExceptT CommandFault Action Unit := do
  if ← Host.isPresent path then
    Host.print ("⚠ " ++ path ++ " already exists, leaving it alone\n")
  else writeStarter path Starter.environment

/-- A configuration is written to start from. -/
def performStarter (path : String) (withVariables : Bool) :
    ExceptT CommandFault Action Unit := do
  if ← Host.isPresent path then throw (.taken path)
  if let some directory := FilePath.directory? path then
    unless ← Host.isPresent directory do
      orFail .file (← Host.makeDirectories directory)
  writeStarter path Starter.config
  if withVariables then
    writeVariables (FilePath.join ((FilePath.directory? path).getD ".") Starter.variablesName)
  Host.print ("\nRun your test with:\n  rampclock run " ++ path ++ "\n")

/-- The schema of configurations is written. -/
def performSchema : Option String → ExceptT CommandFault Action Unit
  | some path => do
    orFail .file (← Host.writeFile path Config.Schema.toJson.pretty)
    Host.print ("JSON Schema written to " ++ Text.quoted path ++ "\n")
  | none => Host.print (Config.Schema.toJson.pretty ++ "\n")

/-- A command is performed. It tells whether it passes. -/
def perform [UrlParser] : Command → ExceptT CommandFault Action Bool
  | .run request => performRun request
  | .stages path asJson => do
    Host.print ((← configAt path).profile.listing asJson)
    return true
  | .resolve path elapsed => do
    Host.print ((← configAt path).profile.resolution (Elapsed.ofArgument elapsed))
    return true
  | .project path stop length asJson => do
    performProject path stop length asJson
    return true
  | .validate path isStrict => do
    performValidate path isStrict
    return true
  | .starter output withVariables => do
    performStarter (output.getD Starter.configName) withVariables
    return true
  | .schema output => do
    performSchema output
    return true
  | .completion shell => do
    Host.print shell.script
    return true

/-- The command of a command line is performed. -/
def execute [UrlParser] (words : List String) : Action Exit := do
  match read words with
  | .error (.help form) =>
    Host.print form.description
    return .success
  | .error .version =>
    Host.print versionLine
    return .success
  | .error (.fault fault) =>
    Host.report ("error: " ++ fault.message)
    return .usage
  | .ok command =>
    match ← (perform command).run with
    | .ok true => return .success
    | .ok false => return .failure
    | .error fault =>
      Host.report fault.report
      return fault.exit

end Command

end ArrivalRamp
