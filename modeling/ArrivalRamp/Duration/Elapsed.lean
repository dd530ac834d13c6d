import ArrivalRamp.Decimal.Reader
import ArrivalRamp.Duration.Token
import ArrivalRamp.Text.Blank

/-!
Elapsed time in milliseconds, as a number or as a text with duration tokens.
-/

namespace ArrivalRamp.Elapsed

/-- A finite number stands for itself and any other number for the start. -/
def ofFloat (millis : Float) : Float :=
  if millis.isFinite then millis else 0.0

/-- A count of milliseconds. -/
def ofCount (millis : Nat) : Float :=
  ofFloat (Word.toFloat millis)

/-- The tokens of a text added up. -/
def ofText (text : String) : Float :=
  Word.toFloat (Duration.scanMillis text)

/-- An argument is a number of milliseconds when it reads as a number, and else a text. -/
def ofArgument (argument : String) : Float :=
  match Decimal.readFloat (Text.trim Text.isBlank argument.toList) with
  | some millis => ofFloat millis
  | none => ofText argument

end ArrivalRamp.Elapsed
