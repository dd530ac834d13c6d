/-!
The forms of commands: which options and which argument each of them has.
-/

namespace ArrivalRamp

/-- What a value on the command line may be. -/
inductive ValueKind where
  | text
  | path
  | choice (choices : List String)
  deriving DecidableEq, Repr

/-- A text may be given as a value. A path is not empty. -/
def ValueKind.accepts (text : String) : ValueKind → Bool
  | .text => true
  | .path => !text.isEmpty
  | .choice choices => choices.contains text

/-- A value on the command line, with its name in descriptions. -/
structure ValueForm where
  name : String
  kind : ValueKind
  deriving DecidableEq, Repr

/-- What an option does. A free value may look like an option itself. -/
inductive OptionRole where
  | flag
  | value (form : ValueForm) (isFree : Bool)
  | help
  | version
  deriving DecidableEq, Repr

/-- An option with its long name, its letter, and a line about it. One that must be given is
required, and one with a default is as good as given. -/
structure OptionForm where
  name : String
  letter : Option Char
  role : OptionRole
  isRequired : Bool
  default : Option String
  about : String
  deriving DecidableEq, Repr

namespace OptionForm

/-- An option that is either given or not. -/
def flag (name : String) (letter : Option Char) (about : String) : OptionForm :=
  ⟨name, letter, .flag, false, none, about⟩

/-- An option with a value, which may be left out. -/
def value (name : String) (letter : Option Char) (form : ValueForm) (about : String) :
    OptionForm :=
  ⟨name, letter, .value form false, false, none, about⟩

/-- The form of the value of an option. -/
def value? (option : OptionForm) : Option ValueForm :=
  match option.role with
  | .value form _ => some form
  | _ => none

end OptionForm

/-- The one argument of a command, with a line about it. -/
structure ArgumentForm where
  value : ValueForm
  about : String
  deriving DecidableEq, Repr

/-- A command with its name, a line about it, its argument and its options. -/
structure CommandForm where
  name : String
  about : String
  argument : Option ArgumentForm
  options : List OptionForm
  deriving DecidableEq, Repr

namespace CommandForm

/-- The option of a long name. -/
def optionNamed? (form : CommandForm) (name : String) : Option OptionForm :=
  form.options.find? fun option => option.name = name

/-- The option of a letter. -/
def optionLettered? (form : CommandForm) (letter : Char) : Option OptionForm :=
  form.options.find? fun option => option.letter = some letter

end CommandForm

/-- What a command line gives: values by the names of their options, and the argument. The value of
a flag is empty. -/
structure Given where
  options : List (String × String)
  argument : Option String
  deriving DecidableEq, Repr

namespace Given

/-- Nothing is given. -/
def empty : Given := ⟨[], none⟩

/-- The value of an option. -/
def value? (given : Given) (name : String) : Option String :=
  given.options.lookup name

/-- An option is given. -/
def has (given : Given) (name : String) : Bool :=
  (given.value? name).isSome

/-- Options that are not given have their defaults. -/
def withDefaults (command : CommandForm) (given : Given) : Given :=
  { given with
    options := given.options ++ command.options.filterMap fun option =>
      option.default.map fun value => (option.name, value) }

end Given

end ArrivalRamp
