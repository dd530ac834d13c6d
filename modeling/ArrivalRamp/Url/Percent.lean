/-!
Percent signs that stand, with two digits, for a byte.
-/

namespace ArrivalRamp.Url

/-- The value of a digit in base sixteen, as a byte of text. -/
def hexByte? (byte : UInt8) : Option UInt8 :=
  if 48 ≤ byte && byte ≤ 57 then some (byte - 48)
  else if 65 ≤ byte && byte ≤ 70 then some (byte - 55)
  else if 97 ≤ byte && byte ≤ 102 then some (byte - 87)
  else none

/-- The bytes that percent signs stand for. A sign without two digits stands for itself. -/
def decodeBytes : List UInt8 → List UInt8
  | 37 :: high :: low :: rest =>
    match hexByte? high, hexByte? low with
    | some first, some second => (16 * first + second) :: decodeBytes rest
    | _, _ => 37 :: decodeBytes (high :: low :: rest)
  | byte :: rest => byte :: decodeBytes rest
  | [] => []

/-- The text that a text with percent signs stands for, unless it is no text. -/
def decodeText? (text : List Char) : Option String :=
  String.fromUTF8? ⟨(decodeBytes (String.ofList text).toUTF8.toList).toArray⟩

/-- A byte by a percent sign and two upper-case digits. -/
def encodeByte (byte : UInt8) : List Char :=
  let digit (value : Nat) : Char := (Nat.digitChar value).toUpper
  ['%', digit (byte.toNat / 16), digit (byte.toNat % 16)]

/-- A text in which some characters, and all that are not ASCII or are controls, are written by
their bytes. -/
def encodeText (marked : Char → Bool) (text : List Char) : List Char :=
  text.flatMap fun character =>
    if character.toNat < 0x20 || 0x7E < character.toNat || marked character then
      (String.singleton character).toUTF8.toList.flatMap encodeByte
    else [character]

end ArrivalRamp.Url
