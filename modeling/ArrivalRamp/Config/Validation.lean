import ArrivalRamp.Config.File
import ArrivalRamp.Config.Overrides
import ArrivalRamp.Config.Problem

/-!
What is printed about a configuration that is looked at before a run.
-/

namespace ArrivalRamp

/-- A line about a problem, with a mark for what the problem means for a run. -/
def Finding.line (finding : Finding) : String :=
  (if finding.fatal then "  ✗ " else "  ⚠ ") ++ finding.problem.message ++ "\n"

/-- Why a configuration is refused. -/
inductive Refusal where
  | load (fault : Config.LoadFault)
  | problems (count : Nat)

/-- The message of a refusal. -/
def Refusal.message : Refusal → String
  | .load fault => fault.message
  | .problems count =>
    "Config validation failed: " ++ Decimal.natural count ++ " problem(s)"

namespace Config

/-- The line about the stages of a configuration. -/
def stageLine (config : Config) : String :=
  "    stages: " ++ Decimal.natural config.profile.size ++ " stage(s), " ++
    Decimal.natural config.profile.total ++ " ms total\n"

/-- The text about a configuration that was loaded. -/
def validationText (config : Config) (strict : Bool) : String :=
  let findings := config.findings strict
  "  ✓ Configuration parsed\n" ++ config.stageLine ++ String.join (findings.map Finding.line) ++
    (if findings.any Finding.fatal then "" else "  ✓ Ready to run\n")

/-- The text about a configuration file and the reason to refuse it. -/
def validate (path : String) (strict : Bool) (overrides : Overrides) :
    Except LoadFault Config → String × Option Refusal
  | .error fault =>
    ("Validating " ++ path ++ "...\n  ✗ " ++ fault.details ++ "\n", some (.load fault))
  | .ok loaded =>
    let config := loaded.override overrides
    let fatal := (config.findings strict).filter Finding.fatal
    ("Validating " ++ path ++ "...\n" ++ config.validationText strict,
      if fatal.isEmpty then none else some (.problems fatal.length))

end Config

end ArrivalRamp
