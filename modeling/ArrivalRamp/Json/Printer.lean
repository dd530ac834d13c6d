import ArrivalRamp.Decimal.Shortest
import ArrivalRamp.Json.Basic

/-!
The text of JSON values, compact or with one member or item a line.
-/

namespace ArrivalRamp.Json

/-- A character of a string: only the quote, the backslash and controls are escaped. -/
def escape (character : Char) : List Char :=
  match character with
  | '"' => ['\\', '"']
  | '\\' => ['\\', '\\']
  | '\n' => ['\\', 'n']
  | '\r' => ['\\', 'r']
  | '\t' => ['\\', 't']
  | '\x08' => ['\\', 'b']
  | '\x0c' => ['\\', 'f']
  | other =>
    if other.toNat < 32 then
      '\\' :: 'u' :: (Decimal.hexadecimal 4 other.toNat).toList
    else [other]

/-- A string between quotes. -/
def quoted (text : String) : String :=
  String.ofList ('"' :: text.toList.flatMap escape ++ ['"'])

/-- The text of a value that has no parts. -/
def scalar : Json → String
  | .boolean true => "true"
  | .boolean false => "false"
  | .integer value => Decimal.integer value
  | .decimal value => Decimal.Layout.json.write value
  | .text value => quoted value
  | _ => "null"

mutual

/-- The text of a value without any space. -/
def compact : Json → String
  | .array items => "[" ++ String.intercalate "," (compactItems items) ++ "]"
  | .object members => "\x7b" ++ String.intercalate "," (compactMembers members) ++ "\x7d"
  | value => scalar value

/-- The texts of the items of an array. -/
def compactItems : List Json → List String
  | [] => []
  | item :: items => compact item :: compactItems items

/-- The texts of the members of an object. -/
def compactMembers : List (String × Json) → List String
  | [] => []
  | (name, value) :: members => (quoted name ++ ":" ++ compact value) :: compactMembers members

end

/-- A new line with the spaces of a depth. -/
def lineBreak (depth : Nat) : String :=
  String.ofList ('\n' :: List.replicate (2 * depth) ' ')

/-- Parts between brackets, each on a line of its own. -/
def block (opening closing : String) (depth : Nat) (parts : List String) : String :=
  if parts.isEmpty then opening ++ closing
  else opening ++ lineBreak (depth + 1) ++
    String.intercalate ("," ++ lineBreak (depth + 1)) parts ++ lineBreak depth ++ closing

mutual

/-- The text of a value at a depth, with one item or member a line. -/
def prettyAt (depth : Nat) : Json → String
  | .array items => block "[" "]" depth (prettyItems (depth + 1) items)
  | .object members => block "\x7b" "\x7d" depth (prettyMembers (depth + 1) members)
  | value => scalar value

/-- The texts of the items of an array at a depth. -/
def prettyItems (depth : Nat) : List Json → List String
  | [] => []
  | item :: items => prettyAt depth item :: prettyItems depth items

/-- The texts of the members of an object at a depth. -/
def prettyMembers (depth : Nat) : List (String × Json) → List String
  | [] => []
  | (name, value) :: members =>
    (quoted name ++ ": " ++ prettyAt depth value) :: prettyMembers depth members

end

/-- The text of a value over several lines, two spaces a level. -/
def pretty (value : Json) : String :=
  prettyAt 0 value

end ArrivalRamp.Json
