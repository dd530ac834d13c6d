import ArrivalRamp.Text.Blank
import ArrivalRamp.Text.Lines

/-!
Files of variables: one name and value a line, comments after a hash sign.
-/

namespace ArrivalRamp.EnvFile

/-- The text before the first sign of equality and the text after it. -/
def splitPair (line : List Char) : Option (List Char × List Char) :=
  match line.dropWhile (· ≠ '=') with
  | [] => none
  | _ :: value => some (line.takeWhile (· ≠ '='), value)

/-- The name of a variable, without the word that exports it. -/
def name (text : List Char) : List Char :=
  Text.trim Text.isBlank
    (Text.trimStarts ['e', 'x', 'p', 'o', 'r', 't', ' '] (Text.trim Text.isBlank text))

/-- The value of a variable, without blanks and then without quotes around it. -/
def value (text : List Char) : List Char :=
  Text.trim (· == '\'') (Text.trim (· == '"') (Text.trim Text.isBlank text))

/-- The variable of a line. A comment has none, nor has a line without a name. -/
def readLine (line : List Char) : Option (String × String) :=
  let content := Text.trim Text.isBlank line
  if content.head? = some '#' then none
  else match splitPair content with
    | none => none
    | some (left, right) =>
      if (name left).isEmpty then none
      else some (String.ofList (name left), String.ofList (value right))

/-- The variables of a file in the order of its lines. -/
def read (contents : String) : List (String × String) :=
  (Text.lines contents).filterMap readLine

end ArrivalRamp.EnvFile
