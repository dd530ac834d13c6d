import ArrivalRamp.Decimal.Shortest
import ArrivalRamp.Document.Shape
import ArrivalRamp.Json.Reader

/-!
JSON as a document format, in its text and as a value. A text is read from left to right, so what
is wrong first in the text is what is reported.
-/

namespace ArrivalRamp.Json

/-- How messages about JSON name what it holds. -/
def wording : Document.Wording where
  nothing := "null"
  decimal := Decimal.Layout.json.write

/-- What a value without parts is. -/
def found : Json → Document.Found
  | .null => .nothing
  | .boolean value => .boolean value
  | .integer value => .integer value
  | .decimal value => .decimal value
  | .text value => .text value
  | .array _ => .sequence
  | .object _ => .mapping

/-- The mismatch of a value where a count is expected. -/
def notCount (width : String) : Json → Document.Mismatch
  | .integer value => .wrongValue (.integer value) width
  | value => .wrongKind value.found width

namespace Cursor

/-- The mismatch of the value at a cursor. A list or an object is not looked into. -/
def wrongKind {Value : Type} (cursor : Cursor) (expected : String) :
    Except Fault (Value × Cursor) :=
  let start := cursor.skipBlanks
  match start.peek? with
  | some '[' => start.mismatch (.wrongKind .sequence expected)
  | some '\x7b' => start.mismatch (.wrongKind .mapping expected)
  | _ => do
    let (value, next) ← start.value
    next.mismatch (.wrongKind value.found expected)

/-- The cursor after an object that may not be closed yet. -/
def tryCloseObject (cursor : Cursor) : Cursor :=
  let start := cursor.skipBlanks
  if start.peek? = some '\x7d' then start.advance else start

/-- The cursor after a list that may not be closed yet. -/
def tryCloseList (cursor : Cursor) : Cursor :=
  let start := cursor.skipBlanks
  match start.peek? with
  | some ']' => start.advance
  | some ',' => start.advance.skipBlanks
  | _ => start

/-- The value at a cursor starts with a character. -/
def startsWith (cursor : Cursor) (character : Char) : Bool :=
  cursor.skipBlanks.peek? = some character

end Cursor

/-- Reads from a text and moves on in it. -/
abbrev TextReader := StateT Cursor (Except Fault)

namespace TextReader

/-- The items that are left of a list. -/
def items {Value : Type} (read : TextReader Value) (steps : Nat) (first : Bool)
    (done : List Value) : TextReader (List Value) :=
  fun cursor =>
    match steps with
    | 0 => cursor.fail .endInList
    | steps + 1 => do
      match ← cursor.nextItem? first with
      | none => return (done.reverse, ← cursor.closeList)
      | some start =>
        let (item, next) ← read start
        items read steps false (item :: done) next

/-- The entries that are left of an object. -/
def entries {Value : Type} (read : TextReader Value) (steps : Nat) (first : Bool)
    (done : List (String × Value)) : TextReader (List (String × Value)) :=
  fun cursor =>
    match steps with
    | 0 => cursor.fail .endInObject
    | steps + 1 => do
      match ← cursor.nextMember? first with
      | none => return (done.reverse, ← cursor.closeObject)
      | some start =>
        let (name, afterName) ← start.string
        let (value, next) ← read (← afterName.colon)
        entries read steps false ((name, value) :: done) next

/-- The fields that are left of a record written as an object. -/
def fields {Record : Type} (shape : Document.Shape TextReader Record) (steps : Nat) (first : Bool)
    (seen : List String) (record : Record) : TextReader Record :=
  fun cursor =>
    match steps with
    | 0 => cursor.fail .endInObject
    | steps + 1 => do
      match ← cursor.nextMember? first with
      | none =>
        match shape.missing? seen with
        | some name => cursor.tryCloseObject.mismatch (.missing name)
        | none => return (record, ← cursor.closeObject)
      | some start =>
        let (name, afterName) ← start.string
        match shape.field? name with
        | none =>
          fields shape steps false seen record (← (← afterName.colon).skipValue)
        | some field =>
          if seen.contains field.name then
            afterName.tryCloseObject.mismatch (.repeated field.name)
          else
            let (record, next) ← field.read record (← afterName.colon)
            fields shape steps false (field.name :: seen) record next

/-- The fields that are left of a record written as a list. -/
def positions {Record : Type} (shape : Document.Shape TextReader Record) (index : Nat)
    (record : Record) : List (Document.Field TextReader Record) → TextReader Record
  | [] => fun cursor => do return (record, ← cursor.closeList)
  | field :: fields => fun cursor => do
    match ← cursor.nextItem? (index == 0) with
    | none => cursor.tryCloseList.mismatch (.wrongLength index shape.listDescription)
    | some start =>
      let (record, next) ← field.read record start
      positions shape (index + 1) record fields next

/-- A record, as an object or as a list of its fields. -/
def record {Record : Type} (shape : Document.Shape TextReader Record) : TextReader Record :=
  fun cursor =>
    let start := cursor.skipBlanks
    if start.startsWith '\x7b' then do
      fields shape (start.rest.length + 1) true [] shape.start (← start.enter)
    else if start.startsWith '[' then do
      positions shape 0 shape.start shape.fields (← start.enter)
    else start.wrongKind shape.title

instance : Document.Format TextReader where
  text cursor :=
    if cursor.startsWith '"' then cursor.skipBlanks.string else cursor.wrongKind "a string"
  count width cursor :=
    let start := cursor.skipBlanks
    match start.peek? with
    | some character =>
      if character = '-' || character.isDigit then do
        let (value, next) ← start.number
        match value with
        | .integer (.ofNat count) => return (count, next)
        | other => next.mismatch (notCount width other)
      else cursor.wrongKind width
    | none => cursor.wrongKind width
  flag cursor :=
    if cursor.startsWith 't' || cursor.startsWith 'f' then do
      let (value, next) ← cursor.value
      match value with
      | .boolean flag => return (flag, next)
      | other => next.mismatch (.wrongKind other.found "a boolean")
    else cursor.wrongKind "a boolean"
  json cursor := cursor.value
  optional read cursor :=
    if cursor.startsWith 'n' then do
      let (_, next) ← cursor.value
      return (none, next)
    else do
      let (value, next) ← read cursor
      return (some value, next)
  list read cursor :=
    if cursor.startsWith '[' then do
      items read (cursor.rest.length + 1) true [] (← cursor.skipBlanks.enter)
    else cursor.wrongKind "a sequence"
  dictionary read cursor :=
    if cursor.startsWith '\x7b' then do
      entries read (cursor.rest.length + 1) true [] (← cursor.skipBlanks.enter)
    else cursor.wrongKind "a map"
  record := record

end TextReader

/-- Reads a whole text. -/
def readText {Value : Type} (read : TextReader Value) (text : String) : Except Fault Value := do
  let (value, rest) ← read (Cursor.ofText text)
  rest.finish
  return value

/-- What is wrong, and where it is. -/
def Fault.message (fault : Fault) : String :=
  let cause := match fault.cause with
    | .flaw flaw => flaw.message
    | .mismatch mismatch => mismatch.message wording
  cause ++ " at line " ++ Decimal.natural fault.place.line ++ " column " ++
    Decimal.natural fault.place.column

/-- Reads from a value. -/
abbrev ValueReader := ReaderT Json (Except Document.Mismatch)

namespace ValueReader

/-- The fields of a record from the members of an object. -/
def fields {Record : Type} (shape : Document.Shape ValueReader Record) (seen : List String)
    (record : Record) : List (String × Json) → Except Document.Mismatch Record
  | [] =>
    match shape.missing? seen with
    | some name => .error (.missing name)
    | none => .ok record
  | (name, value) :: members =>
    match shape.field? name with
    | none => fields shape seen record members
    | some field =>
      if seen.contains field.name then .error (.repeated field.name)
      else do fields shape (field.name :: seen) (← field.read record value) members

/-- The fields of a record from the items of an array. -/
def positions {Record : Type} (shape : Document.Shape ValueReader Record) (index : Nat)
    (record : Record) :
    List (Document.Field ValueReader Record) → List Json → Except Document.Mismatch Record
  | [], [] => .ok record
  | [], items => .error (.wrongLength (index + items.length) "fewer elements in array")
  | _ :: _, [] => .error (.wrongLength index shape.listDescription)
  | field :: fields, item :: items => do
    positions shape (index + 1) (← field.read record item) fields items

instance : Document.Format ValueReader where
  text
    | .text characters => .ok characters
    | value => .error (.wrongKind value.found "a string")
  count width
    | .integer (.ofNat count) => .ok count
    | value => .error (notCount width value)
  flag
    | .boolean flag => .ok flag
    | value => .error (.wrongKind value.found "a boolean")
  json value := .ok value
  optional read
    | .null => .ok none
    | value => (read value).map some
  list read
    | .array items => items.mapM read
    | value => .error (.wrongKind value.found "a sequence")
  dictionary read
    | .object members => members.mapM fun member => do return (member.1, ← read member.2)
    | value => .error (.wrongKind value.found "a map")
  record shape
    | .object members => fields shape [] shape.start members
    | .array items => positions shape 0 shape.start shape.fields items
    | value => .error (.wrongKind value.found shape.title)

end ValueReader

end ArrivalRamp.Json
