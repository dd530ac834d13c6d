import ArrivalRamp.Decimal.Natural

/-!
The files that a new user starts from.
-/

namespace ArrivalRamp.Starter

/-- The file that the configuration is written to unless another is named. -/
def configName : String := "rampclock.yaml"

/-- The file of variables. -/
def variablesName : String := ".env"

/-- Lines with an end each. -/
def text (lines : List String) : String :=
  String.join (lines.map fun line => line ++ "\n")

/-- The stages of the profile: the targets and how long each stage lasts. -/
def stages : List (Nat × String) :=
  [(5, "3m"), (10, "1m"), (10, "2m"), (20, "1m"), (20, "2m"), (40, "1m"), (40, "2m"), (0, "30s")]

/-- The line of a stage. -/
def stageLine (stage : Nat × String) : String :=
  "  - \x7b target: " ++ Decimal.natural stage.1 ++ ", duration: " ++ stage.2 ++ " \x7d"

/-- The configuration. -/
def config : String :=
  text
    (["# rampclock configuration",
      "# Run with: rampclock run rampclock.yaml",
      "",
      "name: LT-002",
      "base_url: http://localhost:8080 # overridden by BASE_URL",
      "path: /api/v1/events",
      "method: POST",
      "app_name: my-app",
      "env: local",
      "",
      "# Ramping arrival rate: targets are iterations per time_unit",
      "start_rate: 5",
      "time_unit: 1s",
      "pre_allocated_vus: 80",
      "max_vus: 500",
      "stop: 30s",
      "timeout: 60s",
      "",
      "stages:"] ++
    stages.map stageLine ++
    ["",
      "# Request body; objects get a unique requestId per request",
      "payload:",
      "  source: rampclock",
      "",
      "# Pass/fail criteria",
      "criteria:",
      "  http_req_failed:",
      "    - rate<0.002",
      "  http_req_duration:",
      "    - p(95)<500",
      "  check_fail_rate:",
      "    - rate<0.01"])

/-- The variables. -/
def environment : String :=
  text
    ["# Loaded by rampclock run; existing environment variables win",
      "BASE_URL=http://localhost:8080",
      "AUTH_TOKEN=",
      "APP_NAME=my-app",
      "ENV=local"]

end ArrivalRamp.Starter
