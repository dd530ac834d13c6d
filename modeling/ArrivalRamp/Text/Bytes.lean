/-!
The bytes of a text.
-/

namespace ArrivalRamp.Text

/-- The number of bytes of a text. -/
def byteCount : List Char → Nat
  | [] => 0
  | character :: rest => character.utf8Size + byteCount rest

end ArrivalRamp.Text
