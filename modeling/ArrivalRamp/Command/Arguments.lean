import ArrivalRamp.Command.Form

/-!
The words of a command line, read by the form of a command. An option is a long name after two
dashes or a letter after one. Its value follows as the next word, after a sign of equality, or right
after the letter. Two dashes alone end the options.
-/

namespace ArrivalRamp

/-- What is wrong with a command line. -/
inductive UsageFault where
  | unknown (word : String)
  | repeated (option : OptionForm)
  | valueMissing (option : OptionForm)
  | valueUnexpected (option : OptionForm) (value : String)
  | valueInvalid (form : ValueForm) (value : String)
  | required (names : List String)
  | unknownCommand (name : String)
  | commandMissing
  deriving DecidableEq, Repr

/-- Why a command line gives no command to perform. -/
inductive Halt where
  | help (command : CommandForm)
  | version
  | fault (fault : UsageFault)
  deriving DecidableEq, Repr

/-- How far a command line is read: what it gives so far, the option that waits for its value, and
whether the options are over. -/
structure Reading where
  given : Given
  pending : Option OptionForm
  isPlain : Bool

namespace Reading

/-- Nothing is read yet. -/
def start : Reading := ⟨.empty, none, false⟩

/-- A word after one or two dashes is an option. -/
def isOption (word : String) : Bool :=
  match word.toList with
  | '-' :: _ :: _ => true
  | _ => false

/-- An option with a value, given for the first time. -/
def addOption (option : OptionForm) (value : String) (reading : Reading) :
    Except Halt Reading :=
  if reading.given.has option.name then .error (.fault (.repeated option))
  else
    .ok { reading with
      given := { reading.given with options := (option.name, value) :: reading.given.options }
      pending := none }

/-- An option with a value that it may have. -/
def addValue (option : OptionForm) (form : ValueForm) (value : String) (reading : Reading) :
    Except Halt Reading :=
  if form.kind.accepts value then reading.addOption option value
  else .error (.fault (.valueInvalid form value))

/-- An option with the value that is attached to it, if any. -/
def takeOption (command : CommandForm) (option : OptionForm) (attached : Option String)
    (reading : Reading) : Except Halt Reading :=
  match option.role, attached with
  | .value form _, some value => reading.addValue option form value
  | .value _ _, none => .ok { reading with pending := some option }
  | _, some value => .error (.fault (.valueUnexpected option value))
  | .flag, none => reading.addOption option ""
  | .help, none => .error (.help command)
  | .version, none => .error .version

/-- The text after the sign of equality that it starts with. -/
def withoutEquality : List Char → List Char
  | '=' :: value => value
  | value => value

/-- Letters after one dash. A value takes all that is left. -/
def takeLetters (command : CommandForm) (reading : Reading) : List Char → Except Halt Reading
  | [] => .ok reading
  | letter :: rest =>
    match command.optionLettered? letter with
    | none => .error (.fault (.unknown (String.ofList ['-', letter])))
    | some option =>
      if option.value?.isSome then
        reading.takeOption command option
          (if rest.isEmpty then none else some (String.ofList (withoutEquality rest)))
      else
        match reading.takeOption command option none with
        | .ok next => takeLetters command next rest
        | .error halt => .error halt

/-- A long name after two dashes, with a value after a sign of equality. -/
def takeName (command : CommandForm) (word : List Char) (reading : Reading) :
    Except Halt Reading :=
  let name := String.ofList (word.takeWhile (· ≠ '='))
  match command.optionNamed? name with
  | none => .error (.fault (.unknown ("--" ++ name)))
  | some option =>
    match word.dropWhile (· ≠ '=') with
    | [] => reading.takeOption command option none
    | _ :: value => reading.takeOption command option (some (String.ofList value))

/-- A word that is no option is the argument. -/
def takeArgument (command : CommandForm) (word : String) (reading : Reading) :
    Except Halt Reading :=
  match command.argument, reading.given.argument with
  | some argument, none =>
    if argument.value.kind.accepts word then
      .ok { reading with given := { reading.given with argument := some word } }
    else .error (.fault (.valueInvalid argument.value word))
  | _, _ => .error (.fault (.unknown word))

/-- A word where no option waits for its value. -/
def takeFreely (command : CommandForm) (word : String) (reading : Reading) :
    Except Halt Reading :=
  match word.toList with
  | ['-', '-'] => .ok { reading with isPlain := true }
  | '-' :: '-' :: name => reading.takeName command name
  | '-' :: letter :: letters => takeLetters command reading (letter :: letters)
  | _ => reading.takeArgument command word

/-- A word for an option that waits for its value. -/
def takePending (option : OptionForm) (word : String) (reading : Reading) : Except Halt Reading :=
  match option.role with
  | .value form isFree =>
    if isOption word && !isFree then .error (.fault (.valueMissing option))
    else reading.addValue option form word
  | _ => .error (.fault (.valueUnexpected option word))

/-- One more word. -/
def take (command : CommandForm) (reading : Reading) (word : String) : Except Halt Reading :=
  match reading.pending with
  | some option => reading.takePending option word
  | none =>
    if reading.isPlain then reading.takeArgument command word
    else reading.takeFreely command word

/-- The names of what a command needs and is not given. -/
def missing (command : CommandForm) (given : Given) : List String :=
  (command.options.filter fun option => option.isRequired && !given.has option.name).map
      (fun option => "--" ++ option.name) ++
    (if given.argument.isSome then []
    else command.argument.toList.map fun argument => argument.value.name)

/-- What is given once all words are read. -/
def finish (command : CommandForm) (reading : Reading) : Except Halt Given :=
  match reading.pending with
  | some option => .error (.fault (.valueMissing option))
  | none =>
    match missing command reading.given with
    | [] => .ok (reading.given.withDefaults command)
    | names => .error (.fault (.required names))

end Reading

/-- What the words after the name of a command give. -/
def CommandForm.read (command : CommandForm) (words : List String) : Except Halt Given := do
  (← words.foldlM (Reading.take command) Reading.start).finish command

end ArrivalRamp
