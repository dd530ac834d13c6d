import ArrivalRamp.Command.Basic
import ArrivalRamp.Text.Column

/-!
Descriptions of the tool and its commands, and messages about faulty command lines.
-/

namespace ArrivalRamp

/-- The name of a value in a description. -/
def ValueForm.text (form : ValueForm) : String :=
  "<" ++ form.name ++ ">"

namespace OptionForm

/-- An option with the name of its value. -/
def text (option : OptionForm) : String :=
  "--" ++ option.name ++ option.value?.elim "" fun form => " " ++ form.text

/-- An option with its letter before it. -/
def label (option : OptionForm) : String :=
  option.letter.elim "    " (fun letter => "-" ++ letter.toString ++ ", ") ++ option.text

/-- The default of an option in brackets. -/
def note (option : OptionForm) : String :=
  option.default.elim "" fun value => " [default: " ++ value ++ "]"

end OptionForm

/-- The values between which an argument chooses, in brackets. -/
def ArgumentForm.note (argument : ArgumentForm) : String :=
  match argument.value.kind with
  | .choice choices => " [possible values: " ++ String.intercalate ", " choices ++ "]"
  | _ => ""

namespace CommandForm

/-- Labels in one column and what they stand for in the next, under a heading. -/
def listing (heading : String) (entries : List (String × String)) : String :=
  let width := (entries.map fun entry => entry.1.length).foldl max 0
  if entries.isEmpty then ""
  else
    "\n" ++ heading ++ ":\n" ++ String.join (entries.map fun entry =>
      "  " ++ Text.alignLeft width entry.1 ++ "  " ++ entry.2 ++ "\n")

/-- A command is the tool itself. -/
def isProgram (command : CommandForm) : Bool :=
  command.name = RunSettings.toolName

/-- The words of a command line, in their order. -/
def usage (command : CommandForm) : String :=
  String.intercalate " "
    ([RunSettings.toolName] ++ (if command.isProgram then [] else [command.name]) ++
      ["[OPTIONS]"] ++
      (command.options.filter OptionForm.isRequired).map OptionForm.text ++
      (command.argument.toList.map fun argument => argument.value.text) ++
      if command.isProgram then ["<COMMAND>"] else [])

/-- The commands of the tool with what they do. -/
def commandEntries (command : CommandForm) : List (String × String) :=
  if command.isProgram then
    (Command.forms.map Prod.fst ++ [describe]).map fun form => (form.name, form.about)
  else []

/-- The description of a command. -/
def description (command : CommandForm) : String :=
  command.about ++ "\n\nUsage: " ++ command.usage ++ "\n" ++
    listing "Commands" command.commandEntries ++
    listing "Arguments" (command.argument.toList.map fun argument =>
      (argument.value.text, argument.about ++ argument.note)) ++
    listing "Options" (command.options.map fun option =>
      (option.label, option.about ++ option.note))

end CommandForm

/-- The name and the version of the tool. -/
def versionLine : String :=
  RunSettings.toolName ++ " 0.1.0\n"

/-- The message about a faulty command line. -/
def UsageFault.message : UsageFault → String
  | .unknown word => "unexpected argument '" ++ word ++ "' found"
  | .repeated option =>
    "the argument '" ++ option.text ++ "' cannot be used multiple times"
  | .valueMissing option =>
    "a value is required for '" ++ option.text ++ "' but none was supplied"
  | .valueUnexpected option value =>
    "unexpected value '" ++ value ++ "' for '" ++ option.text ++ "' found; no more were expected"
  | .valueInvalid form value => "invalid value '" ++ value ++ "' for '" ++ form.text ++ "'"
  | .required names =>
    "the following required arguments were not provided: " ++ String.intercalate ", " names
  | .unknownCommand name => "unrecognized subcommand '" ++ name ++ "'"
  | .commandMissing =>
    "'" ++ RunSettings.toolName ++ "' requires a subcommand but one was not provided"

end ArrivalRamp
