/-!
Decimal numerals of natural numbers and integers.
-/

namespace ArrivalRamp.Decimal

/-- The numeral of a natural number, without leading zeros. -/
def digits (value : Nat) : List Char :=
  Nat.toDigits 10 value

/-- The value of one digit. -/
def digitValue (digit : Char) : Nat :=
  digit.toNat - '0'.toNat

/-- The value of a numeral, which may start with zeros. -/
def ofDigits (numeral : List Char) : Nat :=
  numeral.foldl (fun value digit => 10 * value + digitValue digit) 0

/-- The value of a text of one or more ASCII digits. -/
def ofDigits? (numeral : List Char) : Option Nat :=
  if numeral ≠ [] && numeral.all Char.isDigit then some (ofDigits numeral) else none

/-- The text of a natural number. -/
def natural (value : Nat) : String :=
  String.ofList (digits value)

/-- The text of an integer, with a minus before the numeral of a negative one. -/
def integer : Int → String
  | .ofNat value => natural value
  | .negSucc value => "-" ++ natural (value + 1)

/-- The numeral of a natural number, filled with zeros on the left up to a width. -/
def padded (width value : Nat) : List Char :=
  let numeral := digits value
  List.replicate (width - numeral.length) '0' ++ numeral

/-- The value of a digit in base sixteen. -/
def hexDigit? (digit : Char) : Option Nat :=
  if digit.isDigit then some (digitValue digit)
  else if 'a' ≤ digit && digit ≤ 'f' then some (digit.toNat - 'a'.toNat + 10)
  else if 'A' ≤ digit && digit ≤ 'F' then some (digit.toNat - 'A'.toNat + 10)
  else none

/-- The sixteen lower-case digits that write a word in base sixteen. -/
def hexadecimal (width value : Nat) : String :=
  let numeral := Nat.toDigits 16 value
  String.ofList (List.replicate (width - numeral.length) '0' ++ numeral)

end ArrivalRamp.Decimal
