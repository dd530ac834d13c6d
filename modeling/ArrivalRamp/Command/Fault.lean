import ArrivalRamp.Config.Validation
import ArrivalRamp.Profile.StageReport
import ArrivalRamp.Request.Template
import ArrivalRamp.Text.Quoted

/-!
Why a command fails.
-/

namespace ArrivalRamp

/-- Why a command fails. -/
inductive CommandFault where
  | load (fault : Config.LoadFault)
  | refused (refusal : Refusal)
  | config (invalid : InvalidConfig)
  | template (fault : TemplateFault)
  | stop (problem : UnreadableStop)
  | taken (path : String)
  | unwritten (path : String) (fault : FileFault)
  | file (fault : FileFault)
  | unsettable (name : String)

namespace CommandFault

/-- What went wrong. -/
def message : CommandFault → String
  | .load fault => fault.message
  | .refused refusal => refusal.message
  | .config invalid => invalid.message
  | .template fault => fault.message
  | .stop problem => problem.message
  | .taken path =>
    "File already exists: " ++ Text.quoted path ++
      ". Remove it first or choose a different output path."
  | .unwritten path _ => "Failed to write " ++ path
  | .file fault => fault.message
  | .unsettable name => "failed to set environment variable " ++ Text.quoted name

/-- The reason behind it, where there is one. -/
def reason? : CommandFault → Option String
  | .load fault => some fault.reason
  | .refused (.load fault) => some fault.reason
  | .unwritten _ fault => some fault.message
  | _ => none

/-- The report of a fault. -/
def report (fault : CommandFault) : String :=
  "Error: " ++ fault.message ++
    fault.reason?.elim "" fun reason => "\n\nCaused by:\n    " ++ reason

end CommandFault

/-- How the tool ends. -/
inductive Exit where
  | success
  | failure
  | usage
  | abort
  deriving DecidableEq, Repr

/-- The number that tells how the tool ended. -/
def Exit.code : Exit → Nat
  | .success => 0
  | .failure => 1
  | .usage => 2
  | .abort => 101

/-- The end that a fault leads to. -/
def CommandFault.exit : CommandFault → Exit
  | .unsettable _ => .abort
  | _ => .failure

end ArrivalRamp
