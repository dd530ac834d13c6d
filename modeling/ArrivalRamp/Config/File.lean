import ArrivalRamp.Config.Shape
import ArrivalRamp.Files.Fault
import ArrivalRamp.Files.Path
import ArrivalRamp.Json.Document
import ArrivalRamp.Yaml.Reader

/-!
Configuration files: JSON by the ending of their name, and otherwise YAML.
-/

namespace ArrivalRamp.Config

/-- Why a file holds no configuration. -/
inductive LoadFault where
  | unreadable (path : String) (fault : FileFault)
  | json (path : String) (fault : Json.Fault)
  | yaml (path : String) (fault : Yaml.Fault)

namespace LoadFault

/-- What went wrong, without the reason. -/
def message : LoadFault → String
  | .unreadable path _ => "Failed to read config file " ++ path
  | .json path _ => "Invalid JSON config " ++ path
  | .yaml path _ => "Invalid YAML config " ++ path

/-- The reason. -/
def reason : LoadFault → String
  | .unreadable _ fault => fault.message
  | .json _ fault => fault.message
  | .yaml _ fault => fault.message

/-- What went wrong and why. -/
def details (fault : LoadFault) : String :=
  fault.message ++ ": " ++ fault.reason

end LoadFault

/-- The configuration in the text of a file. -/
def ofText (path text : String) : Except LoadFault Config :=
  if FilePath.extension? path = some "json" then (Json.readText read text).mapError (.json path)
  else (Yaml.readText read text).mapError (.yaml path)

/-- The configuration in a file that was read. -/
def ofFile (path : String) : Except FileFault String → Except LoadFault Config
  | .ok text => ofText path text
  | .error fault => .error (.unreadable path fault)

end ArrivalRamp.Config
