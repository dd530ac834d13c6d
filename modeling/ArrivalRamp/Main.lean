import ArrivalRamp.Command.Perform
import ArrivalRamp.Url.Reader
import Std.Time.DateTime.Timestamp

/-!
The tool on a real machine. It has no network, so no request finds a connection.
-/

namespace ArrivalRamp

/-- The fault behind an error of the system. -/
def FileFault.ofError : IO.Error → FileFault
  | .noFileOrDirectory .. => .missing
  | .permissionDenied .. => .denied
  | .alreadyExists .. => .taken
  | .inappropriateType _ 20 _ => .notDirectory
  | .inappropriateType _ 21 _ => .isDirectory
  | .resourceExhausted _ code text => .other code.toNat text
  | _ => .other 5 "Input/output error"

/-- An action on files with the fault that it may end in. -/
def withFault {Value : Type} (action : IO Value) : IO (Except FileFault Value) := do
  match ← action.toBaseIO with
  | .ok value => return .ok value
  | .error error => return .error (.ofError error)

/-- The text in bytes. -/
def textOf (bytes : ByteArray) : Except FileFault String :=
  (String.fromUTF8? bytes).elim (.error .notText) .ok

/-- The variables that a program has set, by their names. -/
abbrev OwnVariables := List (String × String)

/-- The value of a variable that the program has set, or else the system. The system hands over all
values as text. -/
def variableOf (name : String) : StateT OwnVariables IO (Option VariableValue) := do
  match (← get).lookup name with
  | some text => return some (.text text)
  | none => return (← IO.getEnv name).map .text

instance : Host (StateT OwnVariables IO) where
  readFile path := do return (← withFault (IO.FS.readBinFile path)).bind textOf
  writeFile path text := withFault (IO.FS.writeFile path text)
  isPresent path := do return (← withFault (IO.FS.realPath path)).isOk
  makeDirectories path := withFault (IO.FS.createDirAll path)
  variableNamed := variableOf
  setVariable name text := modify fun own => (name, text) :: own
  print text := IO.print text
  report text := IO.eprintln text
  instant := do return (← Std.Time.Timestamp.now).toMillisecondsSinceUnixEpoch.toInt
  elapsed := do return ⟨← IO.monoNanosNow⟩
  pause span := IO.sleep span.pauseMillis.toUInt32
  isStopped := return false
  parallelism := return 4
  nonce := IO.rand 100000 999999
  send _ := return .failed .connection

end ArrivalRamp

/-- The tool performs its command line. -/
def main (words : List String) : IO UInt32 := do
  let action : StateT ArrivalRamp.OwnVariables IO ArrivalRamp.Exit :=
    ArrivalRamp.Command.execute words
  return (← action.run' []).code.toUInt32
