import ArrivalRamp.Execution.Basic
import ArrivalRamp.Files.Fault

/-!
What a program asks of the machine that it runs on.
-/

namespace ArrivalRamp

/-- The value of a variable of a machine, which need not be text. -/
inductive VariableValue where
  | text (text : String)
  | notText
  deriving DecidableEq, Repr

/-- The text of a value, if it is text. -/
def VariableValue.text? : VariableValue → Option String
  | .text value => some value
  | .notText => none

/-- A machine whose actions a program is written in: files, variables, two streams of text, a wall
clock, a clock that only goes forward, requests, and a signal to stop. -/
class Host (Action : Type → Type) extends Monad Action where
  readFile : String → Action (Except FileFault String)
  writeFile : String → String → Action (Except FileFault Unit)
  isPresent : String → Action Bool
  makeDirectories : String → Action (Except FileFault Unit)
  variableNamed : String → Action (Option VariableValue)
  setVariable : String → String → Action Unit
  print : String → Action Unit
  report : String → Action Unit
  instant : Action Int
  elapsed : Action Span
  pause : Span → Action Unit
  isStopped : Action Bool
  parallelism : Action Nat
  nonce : Action Nat
  send : Message → Action Answer

/-- Actions that may fail run on the same machine. -/
instance {Action : Type → Type} {Fault : Type} [Host Action] : Host (ExceptT Fault Action) where
  readFile path := ExceptT.lift (Host.readFile path)
  writeFile path text := ExceptT.lift (Host.writeFile path text)
  isPresent path := ExceptT.lift (Host.isPresent path)
  makeDirectories path := ExceptT.lift (Host.makeDirectories path)
  variableNamed name := ExceptT.lift (Host.variableNamed name)
  setVariable name text := ExceptT.lift (Host.setVariable name text)
  print text := ExceptT.lift (Host.print text)
  report text := ExceptT.lift (Host.report text)
  instant := ExceptT.lift Host.instant
  elapsed := ExceptT.lift Host.elapsed
  pause span := ExceptT.lift (Host.pause span)
  isStopped := ExceptT.lift Host.isStopped
  parallelism := ExceptT.lift Host.parallelism
  nonce := ExceptT.lift Host.nonce
  send message := ExceptT.lift (Host.send message)

end ArrivalRamp
