import ArrivalRamp.Text.Hidden

/-!
Quoted text as messages show it.
-/

namespace ArrivalRamp.Text

/-- A character inside quotes. A hidden one is written by its code point. -/
def quote (character : Char) : List Char :=
  match character with
  | '"' => ['\\', '"']
  | '\\' => ['\\', '\\']
  | '\n' => ['\\', 'n']
  | '\r' => ['\\', 'r']
  | '\t' => ['\\', 't']
  | '\x00' => ['\\', '0']
  | other =>
    if isHidden other then
      '\\' :: 'u' :: '\x7b' :: Nat.toDigits 16 other.toNat ++ ['\x7d']
    else [other]

/-- A text between quotes, in which every hidden character shows. -/
def quoted (text : String) : String :=
  String.ofList ('"' :: text.toList.flatMap quote ++ ['"'])

end ArrivalRamp.Text
