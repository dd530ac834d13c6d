import ArrivalRamp.Profile.StageReport
import ArrivalRamp.Text.Column

/-!
What is shown of a profile without a run: its stages, the stage at an elapsed time, and the stages
of a run that is over.
-/

namespace ArrivalRamp

/-- One row of the listing of a profile. -/
structure StageRow where
  index : Nat
  target : Nat
  token : String
  millis : Nat
  start : Nat
  boundary : Nat
  deriving DecidableEq, Repr

namespace StageRow

/-- The rows of stages with their ends, from an index on. -/
def fromIndex (index : Nat) : List (Stage × Nat) → List StageRow
  | [] => []
  | (stage, boundary) :: others =>
    ⟨index, stage.target, stage.token, stage.millis, boundary - stage.millis, boundary⟩ ::
      fromIndex (index + 1) others

/-- A row as a JSON object. -/
def toJson (row : StageRow) : Json :=
  .object
    [("index", .integer row.index), ("target", .integer row.target),
      ("duration", .text row.token), ("duration_ms", .integer row.millis),
      ("start_ms", .integer row.start), ("boundary_ms", .integer row.boundary)]

/-- A line of the listing from the texts of its columns. -/
def line (index target token start boundary : String) : String :=
  Text.alignRight 5 index ++ "  " ++ Text.alignRight 8 target ++ "  " ++
    Text.alignRight 10 token ++ "  " ++ Text.alignRight 12 start ++ "  " ++
    Text.alignRight 12 boundary ++ "\n"

/-- The line of a row. -/
def text (row : StageRow) : String :=
  line (Decimal.natural row.index) (Decimal.natural row.target) row.token
    (Decimal.natural row.start) (Decimal.natural row.boundary)

end StageRow

namespace Profile

/-- The rows of a profile. -/
def rows (profile : Profile) : List StageRow :=
  StageRow.fromIndex 0 (profile.stages.toList.zip profile.boundaries.toList)

/-- The listing of a profile, as a table with its length or as JSON. -/
def listing (profile : Profile) (asJson : Bool) : String :=
  if asJson then (Json.array (profile.rows.map StageRow.toJson)).pretty ++ "\n"
  else
    StageRow.line "stage" "target" "duration" "start_ms" "boundary_ms" ++
      String.join (profile.rows.map StageRow.text) ++
      "total: " ++ Decimal.natural profile.total ++ " ms\n"

/-- The line about the stage at an elapsed time. -/
def resolution (profile : Profile) (elapsed : Float) : String :=
  let label := profile.labelAt elapsed
  let start := "elapsed=" ++ Decimal.Layout.plain.write elapsed ++ "ms stage_index="
  match label.stage with
  | some index =>
    start ++ Decimal.natural index ++ " tag=" ++ label.tag ++ " target_rps=" ++ label.target ++
      "\n"
  | none => start ++ "none tag=" ++ label.tag ++ "\n"

end Profile

/-- The report of the stages of a run in its window, as lines or as JSON. -/
def RunWindow.report (window : RunWindow) (records : List StageRecord) (asJson : Bool) : String :=
  if asJson then (Json.array (records.map StageRecord.toJson)).pretty ++ "\n"
  else
    "run: " ++ Timestamp.write window.start ++ " .. " ++ Timestamp.write window.stop ++ " (" ++
      Decimal.integer window.length ++ " ms)\n" ++ StageRecord.lines records

end ArrivalRamp
