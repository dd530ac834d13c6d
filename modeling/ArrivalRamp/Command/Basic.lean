import ArrivalRamp.Command.Arguments
import ArrivalRamp.Config.Settings

/-!
The commands of the tool, and the command that a command line asks for.
-/

namespace ArrivalRamp

/-- A shell that can complete command lines. -/
inductive Shell where
  | bash
  | elvish
  | fish
  | powershell
  | zsh
  deriving DecidableEq, Repr

namespace Shell

/-- All shells in the order of their names. -/
def all : List Shell := [.bash, .elvish, .fish, .powershell, .zsh]

/-- The name of a shell. -/
def name : Shell → String
  | .bash => "bash"
  | .elvish => "elvish"
  | .fish => "fish"
  | .powershell => "powershell"
  | .zsh => "zsh"

/-- The shell of a name. -/
def ofName? (text : String) : Option Shell :=
  all.find? fun shell => shell.name = text

end Shell

/-- How a run is started and what becomes of its results. -/
structure RunRequest where
  config : String
  baseUrl : Option String
  isStrict : Bool
  asJson : Bool
  exportPath : Option String
  output : Option String
  deriving DecidableEq, Repr

/-- What the tool is asked to do. -/
inductive Command where
  | run (request : RunRequest)
  | stages (config : String) (asJson : Bool)
  | resolve (config elapsed : String)
  | project (config stop : String) (length : Option String) (asJson : Bool)
  | validate (config : String) (isStrict : Bool)
  | starter (output : Option String) (withVariables : Bool)
  | schema (output : Option String)
  | completion (shell : Shell)
  deriving DecidableEq, Repr

namespace OptionForm

/-- The option to say more in the log. -/
def verbose : OptionForm :=
  .flag "verbose" (some 'v') "Log at debug level (RUST_LOG overrides)"

/-- The option for a description. -/
def help : OptionForm :=
  ⟨"help", some 'h', .help, false, none, "Print help"⟩

/-- The option for the version. -/
def version : OptionForm :=
  ⟨"version", some 'V', .version, false, none, "Print version"⟩

/-- The option for results as JSON. -/
def json (about : String) : OptionForm :=
  .flag "json" none about

/-- The option for strictness. -/
def strict (about : String) : OptionForm :=
  .flag "strict" none about

/-- The option for a file that is written. -/
def output (about : String) : OptionForm :=
  .value "output" (some 'o') ⟨"OUTPUT", .path⟩ about

/-- The option for an elapsed time, which may be below zero. -/
def elapsed : OptionForm :=
  ⟨"elapsed", some 'e', .value ⟨"ELAPSED", .text⟩ true, true, none,
    "Elapsed time: milliseconds (\"90000\") or tokens (\"1m30s\")"⟩

/-- The option for the end of a run. -/
def stop : OptionForm :=
  ⟨"end", none, .value ⟨"END", .text⟩ false, false, some "now",
    "Run end: RFC 3339, epoch milliseconds or \"now\""⟩

/-- The option for the length of a run. -/
def length : OptionForm :=
  .value "duration" (some 'd') ⟨"DURATION", .text⟩
    "Run duration: milliseconds or tokens (default: profile total)"

end OptionForm

namespace ArgumentForm

/-- The argument for a configuration file. -/
def config (about : String) : ArgumentForm :=
  ⟨⟨"CONFIG", .path⟩, about⟩

/-- The argument for a shell. -/
def shell : ArgumentForm :=
  ⟨⟨"SHELL", .choice (Shell.all.map Shell.name)⟩, "Shell to generate completions for"⟩

end ArgumentForm

namespace CommandForm

/-- A command that has the options of every command besides its own. -/
def ofParts (name about : String) (argument : Option ArgumentForm)
    (options : List OptionForm) : CommandForm :=
  ⟨name, about, argument, options ++ [.verbose, .help]⟩

/-- The form of the command that runs a profile. -/
def run : CommandForm :=
  ofParts "run" "Run a ramp profile against the configured target"
    (some (.config "Path to the configuration file (YAML/JSON)"))
    [.value "base-url" none ⟨"BASE_URL", .text⟩ "Override the target base URL (env: BASE_URL)",
      .strict "Treat every configuration problem as fatal",
      .json "Print the final summary as JSON instead of text",
      .value "export-json" none ⟨"EXPORT_JSON", .path⟩
        "Export summary and stage starts to a JSON file",
      .value "out" none ⟨"OUT", .text⟩ "Output configuration (e.g., --out csv=results.csv)"]

/-- The form of the command that lists stages. -/
def stages : CommandForm :=
  ofParts "stages" "Show the stage table of a profile" (some (.config "")) [.json ""]

/-- The form of the command that finds the stage at an elapsed time. -/
def resolve : CommandForm :=
  ofParts "resolve" "Resolve which stage is active at an elapsed time" (some (.config ""))
    [.elapsed]

/-- The form of the command that finds the stages of a finished run. -/
def project : CommandForm :=
  ofParts "project" "Recompute stage start timestamps from a run's end time" (some (.config ""))
    [.stop, .length, .json ""]

/-- The form of the command that checks a configuration. -/
def validate : CommandForm :=
  ofParts "validate" "Check a configuration file without running it" (some (.config ""))
    [.strict ""]

/-- The form of the command that writes a configuration to start from. -/
def starter : CommandForm :=
  ofParts "init" "Write a starter ramp configuration" none
    [.output "Output file path (default: rampclock.yaml)",
      .flag "env" none "Also write a .env template next to it"]

/-- The form of the command that writes the schema of configurations. -/
def schema : CommandForm :=
  ofParts "schema" "Print the configuration JSON Schema" none [.output ""]

/-- The form of the command that writes what a shell needs to complete command lines. -/
def completion : CommandForm :=
  ofParts "completion" "Generate shell completions" (some .shell) []

/-- The form of the command that describes the others. -/
def describe : CommandForm :=
  ⟨"help", "Print this message or the help of the given subcommand(s)", none, [.verbose]⟩

/-- The form of the tool itself, before the name of a command. -/
def program : CommandForm :=
  ⟨RunSettings.toolName, "Ramping arrival-rate load runner with a stage clock", none,
    [.verbose, .help, .version]⟩

end CommandForm

namespace Command

/-- The forms of the commands, each with the command that it makes of what is given. -/
def forms : List (CommandForm × (Given → Option Command)) :=
  [(.run, fun given => given.argument.map fun config => .run
      { config
        baseUrl := given.value? "base-url"
        isStrict := given.has "strict"
        asJson := given.has "json"
        exportPath := given.value? "export-json"
        output := given.value? "out" }),
    (.stages, fun given => given.argument.map fun config => .stages config (given.has "json")),
    (.resolve, fun given => do
      return .resolve (← given.argument) (← given.value? "elapsed")),
    (.project, fun given => do
      return .project (← given.argument) (← given.value? "end") (given.value? "duration")
        (given.has "json")),
    (.validate, fun given =>
      given.argument.map fun config => .validate config (given.has "strict")),
    (.starter, fun given => some (.starter (given.value? "output") (given.has "env"))),
    (.schema, fun given => some (.schema (given.value? "output"))),
    (.completion, fun given => (given.argument.bind Shell.ofName?).map .completion)]

/-- The form of a command by its name, with what the command is. -/
def formNamed? (name : String) : Option (CommandForm × (Given → Option Command)) :=
  forms.find? fun form => form.1.name = name

/-- The description that the words after the wish for help name. -/
def describe : List String → Halt
  | [] => .help .program
  | [name] =>
    if name = CommandForm.describe.name then .help .describe
    else match formNamed? name with
      | some (form, _) => .help form
      | none => .fault (.unknownCommand name)
  | _ :: name :: _ => .fault (.unknownCommand name)

/-- The command of a name with the words after it. -/
def readNamed (name : String) (words : List String) : Except Halt Command :=
  if name = CommandForm.describe.name then .error (describe words)
  else match formNamed? name with
    | none => .error (.fault (.unknownCommand name))
    | some (form, make) =>
      match form.read words with
      | .error halt => .error halt
      | .ok given => (make given).elim (.error (.fault (.required []))) .ok

/-- The command of a command line: options of the tool, then the name of a command. -/
def readFrom (reading : Reading) : List String → Except Halt Command
  | [] => .error (.fault .commandMissing)
  | word :: words =>
    if reading.isPlain || Reading.isOption word then
      match reading.take .program word with
      | .ok next => readFrom next words
      | .error halt => .error halt
    else readNamed word words

/-- The command of a command line. -/
def read (words : List String) : Except Halt Command :=
  readFrom .start words

end Command

end ArrivalRamp
