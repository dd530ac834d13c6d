import ArrivalRamp.Files.Tree
import ArrivalRamp.Host.Basic
import ArrivalRamp.Url.Reader

/-!
A machine in memory. Its clock moves while a program pauses, and a little whenever it is read. No
request reaches anything.
-/

namespace ArrivalRamp

/-- When a program on a machine is asked to stop. -/
inductive StopSignal where
  | never
  | atLook (look : Nat)
  | after (time : Span)
  deriving DecidableEq, Repr

/-- Values of variables by their names. -/
abbrev Environment := Ledger String VariableValue

/-- A machine in memory: its files and variables, what was printed and reported, the instant at
which its clock started, the time since then, and how often a program looked for the signal to
stop. -/
structure Machine where
  files : Files
  environment : Environment
  printed : String
  reports : List String
  started : Int
  clock : Span
  signal : StopSignal
  looks : Nat

namespace Machine

/-- A machine at the start of its clock, with texts as variables. -/
def start (files : Files) (texts : List (String × String)) (signal : StopSignal) : Machine :=
  ⟨files, .ofList (texts.map fun entry => (entry.1, .text entry.2)), "", [], 0, ⟨0⟩, signal, 0⟩

/-- The time that passes while the clock is read. -/
def readingTime : Span := ⟨1000⟩

/-- The signal to stop shows. -/
def isStopped (machine : Machine) : Bool :=
  match machine.signal with
  | .never => false
  | .atLook look => look ≤ machine.looks
  | .after time => time.nanos ≤ machine.clock.nanos

/-- The files of a machine are changed if nothing goes wrong. -/
def update (change : Files → Except FileFault Files) :
    StateM Machine (Except FileFault Unit) :=
  modifyGet fun machine => match change machine.files with
    | .ok files => (.ok (), { machine with files })
    | .error fault => (.error fault, machine)

instance : Host (StateM Machine) where
  readFile path := return (← get).files.read path
  writeFile path text := update fun files => files.write path text
  isPresent path := return (← get).files.isPresent path
  makeDirectories path := update fun files => files.makeDirectories path
  variableNamed name := return (← get).environment.lookup name
  setVariable name text := modify fun machine =>
    { machine with environment := machine.environment.insert name (.text text) }
  print text := modify fun machine => { machine with printed := machine.printed ++ text }
  report text := modify fun machine => { machine with reports := text :: machine.reports }
  instant := do
    let machine ← get
    return machine.started + machine.clock.wholeMillis
  elapsed := modifyGet fun machine =>
    (machine.clock, { machine with clock := ⟨machine.clock.nanos + readingTime.nanos⟩ })
  pause span := modify fun machine =>
    { machine with clock := ⟨machine.clock.nanos + (Span.ofMillis span.pauseMillis).nanos⟩ }
  isStopped := modifyGet fun machine =>
    let looked := { machine with looks := machine.looks + 1 }
    (looked.isStopped, looked)
  parallelism := return 4
  nonce := return 100000
  send _ := return .failed .connection

end Machine

end ArrivalRamp
