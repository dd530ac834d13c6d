import ArrivalRamp.Config.Overrides
import Mathlib.Tactic

/-!
Which of an option, a variable and a configuration says what a run uses.
-/

namespace ArrivalRamp

namespace Config

end Config

end ArrivalRamp
