import ArrivalRamp.Decimal.Natural
import ArrivalRamp.Document.Mismatch
import ArrivalRamp.Json.Basic
import ArrivalRamp.Word

/-!
Reading the parts of a JSON text, with the place at which reading stops when the text is wrong.
-/

namespace ArrivalRamp.Json

/-- Why a text is no JSON value. -/
inductive Flaw where
  | endInList
  | endInObject
  | endInString
  | endInValue
  | expectedColon
  | expectedListCommaOrEnd
  | expectedObjectCommaOrEnd
  | expectedName
  | expectedValue
  | invalidEscape
  | invalidNumber
  | numberOutOfRange
  | controlInString
  | keyMustBeString
  | loneSurrogate
  | trailingComma
  | trailingCharacters
  | escapeWithoutPartner
  | tooDeep

/-- The message of a flaw. -/
def Flaw.message : Flaw → String
  | .endInList => "EOF while parsing a list"
  | .endInObject => "EOF while parsing an object"
  | .endInString => "EOF while parsing a string"
  | .endInValue => "EOF while parsing a value"
  | .expectedColon => "expected `:`"
  | .expectedListCommaOrEnd => "expected `,` or `]`"
  | .expectedObjectCommaOrEnd => "expected `,` or `\x7d`"
  | .expectedName => "expected ident"
  | .expectedValue => "expected value"
  | .invalidEscape => "invalid escape"
  | .invalidNumber => "invalid number"
  | .numberOutOfRange => "number out of range"
  | .controlInString =>
    "control character (\\u0000-\\u001F) found while parsing a string"
  | .keyMustBeString => "key must be a string"
  | .loneSurrogate => "lone leading surrogate in hex escape"
  | .trailingComma => "trailing comma"
  | .trailingCharacters => "trailing characters"
  | .escapeWithoutPartner => "unexpected end of hex escape"
  | .tooDeep => "recursion limit exceeded"

/-- A place in a text. Lines count from one, columns count the bytes since the line began. -/
structure Place where
  line : Nat
  column : Nat

/-- What is wrong in a JSON text. -/
inductive Cause where
  | flaw (flaw : Flaw)
  | mismatch (mismatch : Document.Mismatch)

/-- What is wrong in a JSON text, and where. -/
structure Fault where
  cause : Cause
  place : Place

/-- What is left of a text, where it starts, and how many brackets are open around it. -/
structure Cursor where
  rest : List Char
  line : Nat
  column : Nat
  depth : Nat

namespace Cursor

/-- The start of a text. -/
def ofText (text : String) : Cursor :=
  ⟨text.toList, 1, 0, 0⟩

/-- The place of a cursor. -/
def place (cursor : Cursor) : Place :=
  ⟨cursor.line, cursor.column⟩

/-- The place one byte further on. -/
def nextPlace (cursor : Cursor) : Place :=
  match cursor.rest with
  | [] => cursor.place
  | '\n' :: _ => ⟨cursor.line + 1, 0⟩
  | _ => ⟨cursor.line, cursor.column + 1⟩

/-- The next character. -/
def peek? (cursor : Cursor) : Option Char :=
  cursor.rest.head?

/-- The cursor after a character that is followed by the given rest. -/
def after (cursor : Cursor) (character : Char) (rest : List Char) : Cursor :=
  if character = '\n' then ⟨rest, cursor.line + 1, 0, cursor.depth⟩
  else ⟨rest, cursor.line, cursor.column + character.utf8Size, cursor.depth⟩

/-- The cursor after the next character. -/
def advance (cursor : Cursor) : Cursor :=
  match cursor.rest with
  | [] => cursor
  | character :: rest => cursor.after character rest

/-- A flaw at the cursor. -/
def fail {α : Type} (cursor : Cursor) (flaw : Flaw) : Except Fault α :=
  .error ⟨.flaw flaw, cursor.place⟩

/-- A flaw in the next byte. -/
def failNext {α : Type} (cursor : Cursor) (flaw : Flaw) : Except Fault α :=
  .error ⟨.flaw flaw, cursor.nextPlace⟩

/-- A mismatch at the cursor. -/
def mismatch {α : Type} (cursor : Cursor) (mismatch : Document.Mismatch) : Except Fault α :=
  .error ⟨.mismatch mismatch, cursor.place⟩

/-- The cursor after the blanks of the JSON grammar. -/
def skipBlanks (cursor : Cursor) : Cursor :=
  go cursor cursor.rest
where
  go (cursor : Cursor) : List Char → Cursor
    | [] => cursor
    | character :: rest =>
      if character = ' ' || character = '\n' || character = '\t' || character = '\r' then
        go (cursor.after character rest) rest
      else cursor

/-- The cursor after the letters of a name. -/
def expectLetters (cursor : Cursor) : List Char → Except Fault Cursor
  | [] => .ok cursor
  | letter :: letters =>
    match cursor.peek? with
    | none => cursor.fail .endInValue
    | some found =>
      if found = letter then cursor.advance.expectLetters letters
      else cursor.failNext .expectedName

/-- The digits at a cursor and the cursor after them. -/
def digits (cursor : Cursor) : List Char × Cursor :=
  let figures := cursor.rest.takeWhile Char.isDigit
  (figures, { cursor with
    rest := cursor.rest.drop figures.length
    column := cursor.column + figures.length })

/-- One more bracket is open. -/
def enter (cursor : Cursor) : Except Fault Cursor :=
  if cursor.depth < 127 then .ok { cursor.advance with depth := cursor.depth + 1 }
  else cursor.failNext .tooDeep

/-- One bracket less is open. -/
def leave (cursor : Cursor) : Cursor :=
  { cursor with depth := cursor.depth - 1 }

/-- The cursor after the colon of a member. -/
def colon (cursor : Cursor) : Except Fault Cursor :=
  let start := cursor.skipBlanks
  match start.peek? with
  | some ':' => .ok start.advance
  | some _ => start.failNext .expectedColon
  | none => start.failNext .endInObject

/-- The cursor after the end of an array. -/
def closeList (cursor : Cursor) : Except Fault Cursor :=
  let start := cursor.skipBlanks
  match start.peek? with
  | some ']' => .ok start.advance.leave
  | some ',' =>
    let next := start.advance.skipBlanks
    if next.peek? = some ']' then next.failNext .trailingComma
    else next.failNext .trailingCharacters
  | some _ => start.failNext .trailingCharacters
  | none => start.failNext .endInList

/-- The cursor after the end of an object. -/
def closeObject (cursor : Cursor) : Except Fault Cursor :=
  let start := cursor.skipBlanks
  match start.peek? with
  | some '\x7d' => .ok start.advance.leave
  | some ',' => start.failNext .trailingComma
  | some _ => start.failNext .trailingCharacters
  | none => start.failNext .endInObject

/-- Where the next item of an array starts, if there is one. -/
def nextItem? (cursor : Cursor) (first : Bool) : Except Fault (Option Cursor) :=
  let start := cursor.skipBlanks
  match start.peek? with
  | none => start.failNext .endInList
  | some ']' => .ok none
  | some character =>
    if first then .ok (some start)
    else if character = ',' then
      let next := start.advance.skipBlanks
      match next.peek? with
      | some ']' => next.failNext .trailingComma
      | some _ => .ok (some next)
      | none => next.failNext .endInValue
    else start.failNext .expectedListCommaOrEnd

/-- Where the next member of an object starts, if there is one. -/
def nextMember? (cursor : Cursor) (first : Bool) : Except Fault (Option Cursor) :=
  let start := cursor.skipBlanks
  match start.peek? with
  | none => start.failNext .endInObject
  | some '\x7d' => .ok none
  | some character =>
    if first then
      if character = '"' then .ok (some start) else start.failNext .keyMustBeString
    else if character = ',' then
      let next := start.advance.skipBlanks
      match next.peek? with
      | some '"' => .ok (some next)
      | some '\x7d' => next.failNext .trailingComma
      | some _ => next.failNext .keyMustBeString
      | none => next.failNext .endInValue
    else start.failNext .expectedObjectCommaOrEnd

end Cursor

end ArrivalRamp.Json
