/-!
Bytes written by sixty-four characters, three bytes by four of them.
-/

namespace ArrivalRamp.Text

/-- The characters for the values below sixty-four. -/
def base64Alphabet : List Char :=
  "ABCDEFGHIJKLMNOPQRSTUVWXYZabcdefghijklmnopqrstuvwxyz0123456789+/".toList

/-- The character for a value. -/
def base64Digit (value : Nat) : Char :=
  base64Alphabet.getD (value % 64) '='

/-- The characters for bytes. What is missing from the last three is filled with equals signs. -/
def base64 : List Nat → List Char
  | first :: second :: third :: rest =>
    let group := (first * 256 + second) * 256 + third
    [base64Digit (group / 0x40000), base64Digit (group / 0x1000), base64Digit (group / 0x40),
      base64Digit group] ++ base64 rest
  | [first, second] =>
    let group := (first * 256 + second) * 4
    [base64Digit (group / 0x1000), base64Digit (group / 0x40), base64Digit group, '=']
  | [first] =>
    let group := first * 16
    [base64Digit (group / 0x40), base64Digit group, '=', '=']
  | [] => []

/-- The bytes of a text by sixty-four characters. -/
def base64Text (text : String) : String :=
  String.ofList (base64 (text.toUTF8.toList.map UInt8.toNat))

end ArrivalRamp.Text
