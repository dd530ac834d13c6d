import ArrivalRamp.Decimal.Natural

/-!
YAML text from a place on, and what can be wrong in it.
-/

namespace ArrivalRamp.Yaml

/-- A place in a text. All counts start from zero and count characters. -/
structure Mark where
  index : Nat
  line : Nat
  column : Nat
  deriving DecidableEq, Repr

namespace Mark

/-- The start of a text. -/
def start : Mark := ⟨0, 0, 0⟩

/-- The mark is not in the first column of the first line. -/
def isInside (mark : Mark) : Bool :=
  mark.line ≠ 0 || mark.column ≠ 0

/-- Where a mark is, for a reader who counts from one. -/
def text (mark : Mark) : String :=
  "line " ++ Decimal.natural (mark.line + 1) ++ " column " ++ Decimal.natural (mark.column + 1)

/-- The words that place something at a mark inside a text. -/
def placement (mark : Mark) : String :=
  if mark.isInside then " at " ++ mark.text else ""

end Mark

/-- What is wrong in the form of a YAML text, and what was being read. -/
structure Flaw where
  problem : String
  mark : Mark
  context : Option (String × Mark)

/-- The message of a flaw. The place of the context shows when it is another one. -/
def Flaw.message (flaw : Flaw) : String :=
  flaw.problem ++ flaw.mark.placement ++
    match flaw.context with
    | none => ""
    | some (context, mark) =>
      ", " ++ context ++
        (if mark.line = flaw.mark.line && mark.column = flaw.mark.column then ""
        else mark.placement)

/-- What is left of a text. -/
structure Source where
  rest : List Char
  mark : Mark

/-- A line ends here. -/
def isBreak (character : Char) : Bool :=
  character = '\n' || character = '\r' || character.toNat = 0x85 || character.toNat = 0x2028 ||
    character.toNat = 0x2029

/-- A space or a tab. -/
def isBlank (character : Char) : Bool :=
  character = ' ' || character = '\t'

/-- A letter, a digit, a minus or a low line. -/
def isWordCharacter (character : Char) : Bool :=
  character.isAlphanum || character = '-' || character = '_'

/-- A character that may occur in a text. -/
def isAllowed (character : Char) : Bool :=
  let point := character.toNat
  point = 0x09 || point = 0x0A || point = 0x0D || (0x20 ≤ point && point ≤ 0x7E) ||
    point = 0x85 || (0xA0 ≤ point && point ≤ 0xFFFD) || 0x10000 ≤ point

namespace Source

/-- The start of a text. -/
def ofText (text : String) : Source :=
  ⟨text.toList, .start⟩

/-- The character at a distance. -/
def peek? (source : Source) (distance : Nat) : Option Char :=
  source.rest[distance]?

/-- A given character stands at a distance. -/
def hasAt (source : Source) (character : Char) (distance : Nat) : Bool :=
  source.peek? distance = some character

/-- A given character is next. -/
def has (source : Source) (character : Char) : Bool :=
  source.hasAt character 0

/-- One of some characters is next. -/
def hasAny (source : Source) (characters : List Char) : Bool :=
  match source.peek? 0 with
  | some character => characters.contains character
  | none => false

/-- The text is at its end. -/
def isAtEnd (source : Source) : Bool :=
  source.rest.isEmpty

/-- A line break is next. -/
def isAtBreak (source : Source) : Bool :=
  (source.peek? 0).any isBreak

/-- A space or a tab is next. -/
def isAtBlank (source : Source) : Bool :=
  (source.peek? 0).any isBlank

/-- A line break or the end is at a distance. -/
def breaksAt (source : Source) (distance : Nat) : Bool :=
  (source.peek? distance).all isBreak

/-- A blank, a line break or the end is at a distance. -/
def endsWordAt (source : Source) (distance : Nat) : Bool :=
  (source.peek? distance).all fun character => isBlank character || isBreak character

/-- The text after some characters of the same line. -/
def skip (source : Source) (count : Nat) : Source :=
  let mark := source.mark
  ⟨source.rest.drop count, { mark with index := mark.index + count, column := mark.column + count }⟩

/-- The characters of the line that pass a test, and the text after them. -/
def takeWhile (source : Source) (test : Char → Bool) : List Char × Source :=
  let taken := source.rest.takeWhile test
  (taken, source.skip taken.length)

/-- The text after the characters of the line that pass a test. -/
def skipWhile (source : Source) (test : Char → Bool) : Source :=
  (source.takeWhile test).2

/-- The line break that is next, as a scalar holds it, and the text after it. -/
def takeBreak (source : Source) : List Char × Source :=
  let mark := source.mark
  let after (count : Nat) : Source :=
    ⟨source.rest.drop count, ⟨mark.index + count, mark.line + 1, 0⟩⟩
  match source.rest with
  | '\r' :: '\n' :: _ => (['\n'], after 2)
  | character :: _ =>
    if character = '\n' || character = '\r' || character.toNat = 0x85 then (['\n'], after 1)
    else if isBreak character then ([character], after 1)
    else ([], source)
  | [] => ([], source)

/-- The text after the line break that is next. -/
def skipBreak (source : Source) : Source :=
  source.takeBreak.2

/-- The text after a comment, if one is next. -/
def skipComment (source : Source) : Source :=
  if source.has '#' then source.skipWhile fun character => !isBreak character else source

/-- A line of three marks that parts documents is next. -/
def isAtDocumentMark (source : Source) (character : Char) : Bool :=
  source.mark.column = 0 && source.hasAt character 0 && source.hasAt character 1 &&
    source.hasAt character 2 && source.endsWordAt 3

/-- A flaw at the text, found while something from an earlier mark on was being read. -/
def fail {Value : Type} (source : Source) (context : String) (start : Mark) (problem : String) :
    Except Flaw Value :=
  .error ⟨problem, source.mark, some (context, start)⟩

end Source

end ArrivalRamp.Yaml
