import ArrivalRamp.Proofs.Config.Precedence
import ArrivalRamp.Proofs.EnvFile.Loading

/-!
The configuration that a run uses, from its option, the variables of the machine, the files of
variables and the configuration file.
-/

namespace ArrivalRamp

namespace Overrides

open ReadingBy

variable {read : Files → String → Except FileFault String} {observed : Observed}

end Overrides

namespace Command

open ReadingBy

variable {read : Files → String → Except FileFault String} {observed : Observed}

end Command

end ArrivalRamp
