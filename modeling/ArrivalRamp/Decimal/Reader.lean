import ArrivalRamp.Decimal.Natural

/-!
Reading a decimal number as the nearest binary64 number.
-/

namespace ArrivalRamp.Decimal

/-- A decimal numeral: digits before and after a point, and an exponent of ten. -/
structure Numeral where
  whole : List Char
  fraction : List Char
  exponent : Int

namespace Numeral

/-- The nearest binary64 number. Powers of ten far above the range lead to infinity, and far below
it to zero. -/
def toFloat (numeral : Numeral) : Float :=
  let figures := numeral.whole ++ numeral.fraction
  let significand := ofDigits figures
  let power := numeral.exponent - (numeral.fraction.length : Int)
  if significand = 0 || power + (figures.length : Int) < -400 then 0.0
  else if 400 < power then 1.0 / 0.0
  else if power < 0 then Float.ofScientific significand true power.natAbs
  else Float.ofScientific significand false power.toNat

/-- The digits of an exponent after an optional sign. -/
def readExponent : List Char → Option Int
  | '+' :: digits => (ofDigits? digits).map Int.ofNat
  | '-' :: digits => (ofDigits? digits).map fun value => -Int.ofNat value
  | digits => (ofDigits? digits).map Int.ofNat

/-- Digits with at most one point among them, at least one digit, and an optional exponent. -/
def read (text : List Char) : Option Numeral :=
  let whole := text.takeWhile Char.isDigit
  let afterWhole := text.dropWhile Char.isDigit
  let tail := match afterWhole with
    | '.' :: decimals => decimals
    | others => others
  let hasPoint := afterWhole.head? == some '.'
  let fraction := if hasPoint then tail.takeWhile Char.isDigit else []
  let afterFraction := if hasPoint then tail.dropWhile Char.isDigit else tail
  if whole.isEmpty && fraction.isEmpty then none
  else match afterFraction with
    | [] => some ⟨whole, fraction, 0⟩
    | mark :: others =>
      if mark == 'e' || mark == 'E' then
        (readExponent others).map fun exponent => ⟨whole, fraction, exponent⟩
      else none

end Numeral

/-- The names of infinity and of a value that is no number, in any case. -/
def readName (text : List Char) : Option Float :=
  let name := String.ofList (text.map Char.toLower)
  if name == "inf" || name == "infinity" then some (1.0 / 0.0)
  else if name == "nan" then some (0.0 / 0.0)
  else none

/-- A magnitude: a name or a numeral. -/
def readMagnitude (text : List Char) : Option Float :=
  match readName text with
  | some value => some value
  | none => (Numeral.read text).map Numeral.toFloat

/-- A number with an optional sign. -/
def readFloat : List Char → Option Float
  | '-' :: magnitude => (readMagnitude magnitude).map fun value => -value
  | '+' :: magnitude => readMagnitude magnitude
  | magnitude => readMagnitude magnitude

end ArrivalRamp.Decimal
