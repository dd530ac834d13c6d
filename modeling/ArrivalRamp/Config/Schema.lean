import ArrivalRamp.Json.Printer

/-!
The JSON Schema of configurations.
-/

namespace ArrivalRamp.Config.Schema

/-- What the value of a field is. -/
inductive FieldKind where
  | text
  | flag
  | count (width : String)
  | texts
  | textLists
  | stages
  | any

/-- The name of the type of a field. -/
def FieldKind.typeName : FieldKind → String
  | .text => "string"
  | .flag => "boolean"
  | .count _ => "integer"
  | .stages => "array"
  | _ => "object"

/-- A schema of one type. -/
def ofType (name : String) : List (String × Json) :=
  [("type", .text name)]

/-- What a schema says beyond the type of a field. -/
def FieldKind.details : FieldKind → List (String × Json)
  | .count width => [("format", .text width), ("minimum", .decimal 0.0)]
  | .texts => [("additionalProperties", .object (ofType "string"))]
  | .textLists =>
    [("additionalProperties",
      .object (ofType "array" ++ [("items", .object (ofType "string"))]))]
  | .stages => [("items", .object [("$ref", .text "#/definitions/ScheduleStep")])]
  | _ => []

/-- The type of a field, which may be left out unless it is required. -/
def FieldKind.type (kind : FieldKind) (isRequired : Bool) : List (String × Json) :=
  match kind with
  | .any => []
  | _ =>
    if isRequired then ofType kind.typeName
    else [("type", .array [.text kind.typeName, .text "null"])]

/-- A field with a line about it. -/
structure Field where
  name : String
  kind : FieldKind
  about : String

/-- The schema of a field. -/
def Field.toJson (isRequired : Bool) (field : Field) : String × Json :=
  (field.name, .object
    ([("description", .text field.about)] ++ field.kind.type isRequired ++ field.kind.details))

/-- The fields of a configuration in the order of their names. -/
def fields : List Field :=
  [⟨"app_name", .text, "Application name sent as X-App-Name (env: APP_NAME)"⟩,
    ⟨"auth_token", .text, "Bearer token (env: AUTH_TOKEN)"⟩,
    ⟨"base_url", .text, "Base URL of the system under test (env: BASE_URL)"⟩,
    ⟨"criteria", .textLists, "Pass/Fail criteria (thresholds)"⟩,
    ⟨"env", .text, "Environment name sent as X-Env (env: ENV)"⟩,
    ⟨"headers", .texts, "Extra request headers"⟩,
    ⟨"max_vus", .count "uint", "Upper bound on virtual users"⟩,
    ⟨"method", .text, "HTTP method (default POST)"⟩,
    ⟨"name", .text, "Load test name, sent as X-LT-Name and the \x60lt\x60 tag (e.g., \"LT-002\")"⟩,
    ⟨"path", .text, "Request path appended to the base URL"⟩,
    ⟨"payload", .any,
      "Request body. A JSON object gets a unique \x60requestId\x60 field per request."⟩,
    ⟨"pre_allocated_vus", .count "uint", "Virtual users created before the run starts"⟩,
    ⟨"stages", .stages, "Ramp profile (k6: stages)"⟩,
    ⟨"start_rate", .count "uint64", "Rate before the first stage starts ramping"⟩,
    ⟨"stop", .text,
      "Graceful stop: how long in-flight requests may finish after the profile ends"⟩,
    ⟨"strict", .flag,
      "Reject unrecognized durations and other config problems instead of warning"⟩,
    ⟨"tags", .texts, "Tags added to every request metric"⟩,
    ⟨"time_unit", .text, "Time unit the stage targets are expressed in (default \"1s\")"⟩,
    ⟨"timeout", .text, "Per-request timeout"⟩]

/-- The fields of a stage in the order of their names. -/
def stageFields : List Field :=
  [⟨"duration", .text, "Stage length (e.g., \"3m\", \"90s\", \"500ms\")"⟩,
    ⟨"target", .count "uint64",
      "Target arrival rate for the stage (iterations per time unit)"⟩]

/-- The schema of a stage, whose fields are all required. -/
def stage : Json :=
  .object
    (ofType "object" ++
      [("required", .array (stageFields.map fun field => .text field.name)),
        ("properties", .object (stageFields.map (Field.toJson true)))])

/-- The schema of a configuration. -/
def toJson : Json :=
  .object
    ([("$schema", .text "http://json-schema.org/draft-07/schema#"), ("title", .text "Config")] ++
      ofType "object" ++
      [("properties", .object (fields.map (Field.toJson false))),
        ("definitions", .object [("ScheduleStep", stage)])])

end ArrivalRamp.Config.Schema
