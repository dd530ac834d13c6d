import ArrivalRamp.Calendar.Timestamp
import ArrivalRamp.Duration.Elapsed
import ArrivalRamp.Json.Printer
import ArrivalRamp.Profile.Label
import ArrivalRamp.Profile.RunWindow

/-!
When each stage of a run was due, and whether the run reached it.
-/

namespace ArrivalRamp

/-- One stage of a run on the wall clock. -/
structure StageRecord where
  stage : Nat
  target : Nat
  instant : Int
  timestamp : String
  reached : Bool
  deriving DecidableEq, Repr

namespace StageRecord

/-- A stage is reached when it is due before the run ends. -/
def ofStart (stop : Int) (start : StageStart) : StageRecord where
  stage := start.stage
  target := start.target
  instant := start.instant
  timestamp := Timestamp.write start.instant
  reached := start.instant < stop

/-- The line that reports a stage. -/
def line (record : StageRecord) : String :=
  "[STAGE_START] stage_index=" ++ Decimal.natural record.stage ++
    " target_rps=" ++ Decimal.natural record.target ++
    " timestamp=" ++ record.timestamp ++
    (if record.reached then "" else " reached=false")

/-- The word for a truth value. -/
def flagText (flag : Bool) : String :=
  if flag then "true" else "false"

/-- The table row of a stage. -/
def row (record : StageRecord) : String :=
  String.intercalate ","
    [Decimal.natural record.stage, Decimal.natural record.target,
      Decimal.integer record.instant, record.timestamp, flagText record.reached] ++ "\n"

/-- The table of stages, under its header. -/
def table (records : List StageRecord) : String :=
  "stage_index,target_rps,start_epoch_ms,start_timestamp,reached\n" ++
    String.join (records.map row)

/-- The lines that report stages. -/
def lines (records : List StageRecord) : String :=
  String.join (records.map fun record => record.line ++ "\n")

/-- A stage as a JSON object. -/
def toJson (record : StageRecord) : Json :=
  .object
    [("stage_index", .integer record.stage), ("target_rps", .integer record.target),
      ("start_epoch_ms", .integer record.instant), ("timestamp", .text record.timestamp),
      ("reached", .boolean record.reached)]

end StageRecord

/-- The stages of a run in a window. -/
def Profile.records (profile : Profile) (window : RunWindow) : List StageRecord :=
  (profile.starts window.start).map (StageRecord.ofStart window.stop)

/-- The end of a run as an argument gives it. -/
inductive RunStop where
  | now
  | instant (millis : Int)

/-- An argument that gives no end of a run. -/
structure UnreadableStop where
  argument : String
  flaw : Timestamp.Flaw

/-- The message about an argument that gives no end of a run. -/
def UnreadableStop.message (problem : UnreadableStop) : String :=
  "Invalid end time '" ++ problem.argument ++ "': " ++ problem.flaw.message

namespace RunStop

/-- The signed number of a text that an instant can hold. -/
def readInstant? (text : List Char) : Option Int :=
  let value := match text with
    | '-' :: digits => (Decimal.ofDigits? digits).map fun magnitude => -Int.ofNat magnitude
    | '+' :: digits => (Decimal.ofDigits? digits).map Int.ofNat
    | digits => (Decimal.ofDigits? digits).map Int.ofNat
  value.filter fun instant => Word.minInstant ≤ instant && instant ≤ Word.maxInstant

/-- The word for the present, a number of milliseconds, or a timestamp. -/
def ofArgument (argument : String) : Except UnreadableStop RunStop :=
  let text := Text.trim Text.isBlank argument.toList
  if text.map Char.toLower = ['n', 'o', 'w'] then .ok .now
  else match readInstant? text with
    | some millis => .ok (.instant millis)
    | none =>
      match Timestamp.read text with
      | .ok millis => .ok (.instant millis)
      | .error flaw => .error ⟨String.ofList text, flaw⟩

/-- The instant of an end when the present is known. -/
def millis (present : Int) : RunStop → Int
  | .now => present
  | .instant millis => millis

end RunStop

/-- The window and the stages of a finished run, from arguments for its end and its length. -/
def Profile.project (profile : Profile) (present : Int) (stop : String)
    (length : Option String) : Except UnreadableStop (RunWindow × List StageRecord) := do
  let stop ← RunStop.ofArgument stop
  let window := RunWindow.ofStop (stop.millis present) (length.map Elapsed.ofArgument)
    profile.total
  return (window, profile.records window)

end ArrivalRamp
