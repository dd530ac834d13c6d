import ArrivalRamp.Command.Perform
import ArrivalRamp.Proofs.EnvFile.Characters
import ArrivalRamp.Proofs.Host.Outcome
import ArrivalRamp.Proofs.Ledger

/-!
The variables of a machine after those of a file were set, one after another, where there was none
of the name. So what is there stays, and of two variables of one name in the file the first counts.
-/

namespace ArrivalRamp

namespace Environment

/-- A variable of a file is added unless there is one of its name. -/
def addMissing (environment : Environment) (entry : String × String) : Environment :=
  if (environment.lookup entry.1).isNone then environment.insert entry.1 (.text entry.2)
  else environment

/-- The variables of a file are added one after another. -/
def addAllMissing (environment : Environment) (entries : List (String × String)) : Environment :=
  entries.foldl addMissing environment

end Environment

namespace EnvFile

open ReadingBy

variable {read : Files → String → Except FileFault String} {observed : Observed}

/-- The variables of a machine with those of a file. -/
def loaded (environment : Environment) (text? : Option String) : Environment :=
  environment.addAllMissing (text?.elim [] EnvFile.read)

end EnvFile

end ArrivalRamp
