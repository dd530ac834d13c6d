import ArrivalRamp.Host.Machine
import Mathlib.Tactic

/-!
What an action gives on a machine whose files are read in any way at all, so that a file may also be
missing, out of reach, or no text, and which files it asks for.
-/

namespace ArrivalRamp

/-- A machine, with the paths of the files that a program asked it for, in order. -/
structure Observed where
  machine : Machine
  asked : List String

/-- Actions on an observed machine whose files are read by a function. -/
def ReadingBy (_ : Files → String → Except FileFault String) : Type → Type :=
  StateM Observed

namespace ReadingBy

variable {read : Files → String → Except FileFault String} {First Second Fault : Type}
  {observed later : Observed}

/-- What the machine does is observed. -/
def onMachine (action : StateM Machine First) : StateM Observed First := fun observed =>
  let (value, machine) := action observed.machine
  (value, { observed with machine })

instance : Host (ReadingBy read) :=
  { (inferInstance : Monad (StateM Observed)) with
    readFile := fun path observed =>
      (read observed.machine.files path, { observed with asked := observed.asked ++ [path] })
    writeFile := fun path text => onMachine (Host.writeFile path text)
    isPresent := fun path => onMachine (Host.isPresent path)
    makeDirectories := fun path => onMachine (Host.makeDirectories path)
    variableNamed := fun name => onMachine (Host.variableNamed name)
    setVariable := fun name text => onMachine (Host.setVariable name text)
    print := fun text => onMachine (Host.print text)
    report := fun text => onMachine (Host.report text)
    instant := onMachine Host.instant
    elapsed := onMachine Host.elapsed
    pause := fun span => onMachine (Host.pause span)
    isStopped := onMachine Host.isStopped
    parallelism := onMachine Host.parallelism
    nonce := onMachine Host.nonce
    send := fun message => onMachine (Host.send message) }

instance : LawfulMonad (ReadingBy read) :=
  (inferInstance : LawfulMonad (StateM Observed))

/-- What an action gives on a machine, and the machine after it. -/
def outcome (action : ExceptT Fault (ReadingBy read) First) (observed : Observed) :
    Except Fault First × Observed :=
  (action.run : StateM Observed (Except Fault First)) observed

end ReadingBy

end ArrivalRamp
