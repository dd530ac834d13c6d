import ArrivalRamp.Decimal.Natural

/-!
Why a file cannot be read or written.
-/

namespace ArrivalRamp

/-- Why a file cannot be read or written. -/
inductive FileFault where
  | missing
  | denied
  | taken
  | notDirectory
  | isDirectory
  | notText
  | other (code : Nat) (text : String)
  deriving DecidableEq, Repr

namespace FileFault

/-- A message with the number that the system has for it. -/
def numbered (text : String) (code : Nat) : String :=
  text ++ " (os error " ++ Decimal.natural code ++ ")"

/-- The message of a fault. -/
def message : FileFault → String
  | .missing => numbered "No such file or directory" 2
  | .denied => numbered "Permission denied" 13
  | .taken => numbered "File exists" 17
  | .notDirectory => numbered "Not a directory" 20
  | .isDirectory => numbered "Is a directory" 21
  | .notText => "stream did not contain valid UTF-8"
  | .other code text => numbered text code

end FileFault

end ArrivalRamp
