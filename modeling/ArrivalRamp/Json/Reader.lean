import ArrivalRamp.Json.Number
import ArrivalRamp.Json.StringLiteral

/-!
Reading JSON values, and passing over values that do not matter.
-/

namespace ArrivalRamp.Json

namespace Cursor

/-- What a cursor is asked to read: a value, or the items or members that are left of one. -/
inductive Task where
  | value
  | items (first : Bool) (read : List Json)
  | members (first : Bool) (read : List (String × Json))

/-- Reads as a task says. Each step takes a character, so as many steps as characters are enough. -/
def read (steps : Nat) (task : Task) (cursor : Cursor) : Except Fault (Json × Cursor) :=
  match steps with
  | 0 => cursor.fail .endInValue
  | steps + 1 =>
    match task with
    | .value =>
      let start := cursor.skipBlanks
      match start.peek? with
      | none => start.failNext .endInValue
      | some 'n' => do
        return (.null, ← start.advance.expectLetters ['u', 'l', 'l'])
      | some 't' => do
        return (.boolean true, ← start.advance.expectLetters ['r', 'u', 'e'])
      | some 'f' => do
        return (.boolean false, ← start.advance.expectLetters ['a', 'l', 's', 'e'])
      | some '"' => do
        let (characters, next) ← start.string
        return (.text characters, next)
      | some '[' => do
        (← start.enter).read steps (.items true [])
      | some '\x7b' => do
        (← start.enter).read steps (.members true [])
      | some character =>
        if character = '-' || character.isDigit then start.number
        else start.failNext .expectedValue
    | .items first done => do
      match ← cursor.nextItem? first with
      | none => return (.array done.reverse, ← cursor.closeList)
      | some start =>
        let (item, next) ← start.read steps .value
        next.read steps (.items false (item :: done))
    | .members first done => do
      match ← cursor.nextMember? first with
      | none => return (Json.ofMembers done.reverse, ← cursor.closeObject)
      | some start =>
        let (name, afterName) ← start.string
        let (value, next) ← (← afterName.colon).read steps .value
        next.read steps (.members false ((name, value) :: done))

/-- The value at a cursor. -/
def value (cursor : Cursor) : Except Fault (Json × Cursor) :=
  cursor.read (2 * cursor.rest.length + 2) .value

/-- Passes over the name of a member and its colon. -/
def passName (cursor : Cursor) : Except Fault Cursor :=
  let start := cursor.skipBlanks
  match start.peek? with
  | none => start.failNext .endInObject
  | some '"' => do (← start.skipString).colon
  | some _ => start.failNext .keyMustBeString

/-- The brackets that are open while a value is passed over. -/
inductive Bracket where
  | list
  | object
  deriving DecidableEq

/-- Passes over a value, inside the brackets opened so far, at any depth. A comma must be followed
by a value or a member, and no number is out of range. -/
def pass (steps : Nat) (fresh : Bool) (opened : List Bracket) (cursor : Cursor) :
    Except Fault Cursor :=
  match steps with
  | 0 => cursor.fail .endInValue
  | steps + 1 =>
    let start := cursor.skipBlanks
    if fresh then
      match start.peek? with
      | none => start.failNext .endInValue
      | some 'n' => do
        (← start.advance.expectLetters ['u', 'l', 'l']).pass steps false opened
      | some 't' => do
        (← start.advance.expectLetters ['r', 'u', 'e']).pass steps false opened
      | some 'f' => do
        (← start.advance.expectLetters ['a', 'l', 's', 'e']).pass steps false opened
      | some '"' => do (← start.skipString).pass steps false opened
      | some '[' =>
        let inside := start.advance.skipBlanks
        match inside.peek? with
        | none => inside.failNext .endInList
        | some ']' => inside.advance.pass steps false opened
        | some _ => inside.pass steps true (.list :: opened)
      | some '\x7b' =>
        let inside := start.advance.skipBlanks
        match inside.peek? with
        | none => inside.failNext .endInObject
        | some '\x7d' => inside.advance.pass steps false opened
        | some _ => do (← inside.passName).pass steps true (.object :: opened)
      | some character =>
        if character = '-' || character.isDigit then do
          (← start.skipNumber).pass steps false opened
        else start.failNext .expectedValue
    else match opened with
      | [] => .ok cursor
      | .list :: outer =>
        match start.peek? with
        | none => start.failNext .endInList
        | some ',' => start.advance.pass steps true opened
        | some ']' => start.advance.pass steps false outer
        | some _ => start.failNext .expectedListCommaOrEnd
      | .object :: outer =>
        match start.peek? with
        | none => start.failNext .endInObject
        | some ',' => do (← start.advance.passName).pass steps true opened
        | some '\x7d' => start.advance.pass steps false outer
        | some _ => start.failNext .expectedObjectCommaOrEnd
/-- Passes over the value at a cursor. -/
def skipValue (cursor : Cursor) : Except Fault Cursor :=
  cursor.pass (2 * cursor.rest.length + 2) true []

/-- Only blanks may follow. -/
def finish (cursor : Cursor) : Except Fault Unit :=
  let last := cursor.skipBlanks
  if last.rest.isEmpty then .ok () else last.failNext .trailingCharacters

end Cursor

/-- The value that a text holds and nothing else. -/
def ofText (text : String) : Except Fault Json := do
  let (value, rest) ← (Cursor.ofText text).value
  rest.finish
  return value

end ArrivalRamp.Json
