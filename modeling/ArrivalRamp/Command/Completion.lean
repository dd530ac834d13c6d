import ArrivalRamp.Command.Help

/-!
Scripts with which shells complete command lines of the tool.
-/

namespace ArrivalRamp.Completion

/-- The forms of all commands. -/
def commands : List CommandForm :=
  Command.forms.map Prod.fst ++ [.describe]

/-- The names of all commands. -/
def names : List String :=
  commands.map CommandForm.name

/-- An option as it is typed. -/
def typed (option : OptionForm) : List String :=
  (option.letter.toList.map fun letter => "-" ++ letter.toString) ++ ["--" ++ option.name]

/-- The options of a command as they are typed. -/
def typedOptions (command : CommandForm) : List String :=
  command.options.flatMap typed

/-- A text in single quotes, in which a single quote is written as given. -/
def quotedWith (quote text : String) : String :=
  "'" ++ String.join (text.toList.map fun character =>
    if character = '\'' then quote else character.toString) ++ "'"

/-- Words with spaces between them. -/
def spaced (words : List String) : String :=
  String.intercalate " " words

/-- Lines with an end each. -/
def script (lines : List String) : String :=
  String.join (lines.map fun line => line ++ "\n")

/-- A branch for each command and one for the tool itself. -/
def branches (branch : String → CommandForm → String) : List String :=
  (commands.map fun command => branch command.name command) ++ [branch "*" .program]

/-- The script for bash. -/
def bash : String :=
  script
    (["_rampclock() \x7b",
      "    local words",
      "    case \"$\x7bCOMP_WORDS[1]\x7d\" in"] ++
    branches (fun pattern command =>
      "        " ++ pattern ++ ") words=\"" ++
        spaced ((if command.isProgram then names else []) ++ typedOptions command) ++ "\" ;;") ++
    ["    esac",
      "    COMPREPLY=($(compgen -W \"$\x7bwords\x7d\" -- \"$\x7bCOMP_WORDS[COMP_CWORD]\x7d\"))",
      "\x7d",
      "complete -F _rampclock -o bashdefault -o default rampclock"])

/-- A name with a description for zsh. -/
def zshOption (option : OptionForm) : String :=
  spaced ((typed option).map fun word => quotedWith "'\\''" (word ++ "[" ++ option.about ++ "]" ++
    option.value?.elim "" fun form => ":" ++ form.name ++ ":_default"))

/-- The script for zsh. -/
def zsh : String :=
  script
    (["#compdef rampclock",
      "_rampclock() \x7b",
      "    local -a commands",
      "    commands=("] ++
    (commands.map fun command =>
      "        " ++ quotedWith "'\\''" (command.name ++ ":" ++ command.about)) ++
    ["    )",
      "    if (( CURRENT == 2 )); then",
      "        _describe command commands",
      "    fi",
      "    case \"$words[2]\" in"] ++
    branches (fun pattern command =>
      "        " ++ pattern ++ ") _arguments " ++ spaced (command.options.map zshOption) ++
        " '*:file:_files' ;;") ++
    ["    esac",
      "\x7d",
      "compdef _rampclock rampclock"])

/-- A condition of fish with what is completed under it. -/
def fishLine (condition rest : String) : String :=
  "complete -c rampclock -n \"" ++ condition ++ "\" " ++ rest

/-- An option with a description for fish. -/
def fishOption (condition : String) (option : OptionForm) : String :=
  fishLine condition
    (String.join (option.letter.toList.map fun letter => "-s " ++ letter.toString ++ " ") ++
      "-l " ++ option.name ++ " -d " ++ quotedWith "\\'" option.about ++
      if option.value?.isSome then " -r" else "")

/-- The script for fish. -/
def fish : String :=
  script
    (CommandForm.program.options.map (fishOption "__fish_use_subcommand") ++
    (commands.map fun command =>
      fishLine "__fish_use_subcommand"
        ("-f -a " ++ command.name ++ " -d " ++ quotedWith "\\'" command.about)) ++
    commands.flatMap fun command =>
      command.options.map (fishOption ("__fish_seen_subcommand_from " ++ command.name)))

/-- Words as a list for PowerShell. -/
def powershellWords (words : List String) : String :=
  String.intercalate ", " (words.map (quotedWith "''"))

/-- The script for PowerShell. -/
def powershell : String :=
  script
    (["Register-ArgumentCompleter -Native -CommandName 'rampclock' -ScriptBlock \x7b",
      "    param($wordToComplete, $commandAst, $cursorPosition)",
      "    $words = switch ($commandAst.CommandElements[1].Value) \x7b"] ++
    (commands.map fun command =>
      "        '" ++ command.name ++ "' \x7b " ++ powershellWords (typedOptions command) ++
        " \x7d") ++
    ["        default \x7b " ++
        powershellWords (names ++ typedOptions .program) ++ " \x7d",
      "    \x7d",
      "    $words | Where-Object \x7b $_ -like \"$wordToComplete*\" \x7d",
      "\x7d"])

/-- The script for elvish. -/
def elvish : String :=
  script
    (["set edit:completion:arg-completer[rampclock] = \x7b|@words|",
      "    var options = ["] ++
    (commands.map fun command =>
      "        &" ++ command.name ++ "=[" ++ spaced (typedOptions command) ++ "]") ++
    ["    ]",
      "    if (has-key $options $words[1]) \x7b",
      "        all $options[$words[1]]",
      "    \x7d else \x7b",
      "        put " ++ spaced (names ++ typedOptions .program),
      "    \x7d",
      "\x7d"])

end ArrivalRamp.Completion

namespace ArrivalRamp

/-- The script with which a shell completes command lines. -/
def Shell.script : Shell → String
  | .bash => Completion.bash
  | .elvish => Completion.elvish
  | .fish => Completion.fish
  | .powershell => Completion.powershell
  | .zsh => Completion.zsh

end ArrivalRamp
