/-!
The lines of a text.
-/

namespace ArrivalRamp.Text

/-- A line without a carriage return at its end. -/
def dropReturn (line : List Char) : List Char :=
  if line.getLast? = some '\r' then line.dropLast else line

/-- The lines of a text, each ended by a line feed with or without a carriage return before it.
What follows the last line feed is a line only when it is not empty. The current line is kept in
reverse. -/
def linesFrom (current : List Char) : List Char → List (List Char)
  | [] => if current.isEmpty then [] else [current.reverse]
  | '\n' :: rest => dropReturn current.reverse :: linesFrom [] rest
  | character :: rest => linesFrom (character :: current) rest

/-- The lines of a text. -/
def lines (text : String) : List (List Char) :=
  linesFrom [] text.toList

/-- A text without any repetition of a start. -/
def trimStarts (start : List Char) (text : List Char) : List Char :=
  match start, text with
  | [], text => text
  | _, [] => []
  | first :: others, character :: rest =>
    if (first :: others).isPrefixOf (character :: rest) then
      trimStarts (first :: others) (rest.drop others.length)
    else character :: rest
  termination_by text.length
  decreasing_by
    simp only [List.length_drop, List.length_cons]
    omega

end ArrivalRamp.Text
