import ArrivalRamp.Json.Cursor
import ArrivalRamp.Text.Bytes

/-!
JSON string literals. Characters beyond sixteen bits are written by two escapes, a leading and a
trailing half.
-/

namespace ArrivalRamp.Json

/-- The character of a one-letter escape. -/
def letterEscape? : Char → Option Char
  | '"' => some '"'
  | '\\' => some '\\'
  | '/' => some '/'
  | 'b' => some '\x08'
  | 'f' => some '\x0c'
  | 'n' => some '\n'
  | 'r' => some '\r'
  | 't' => some '\t'
  | _ => none

/-- The first bytes of a text, as characters. -/
def firstBytes : Nat → List Char → List Char
  | _, [] => []
  | count, character :: rest =>
    if count = 0 then [] else character :: firstBytes (count - character.utf8Size) rest

namespace Cursor

/-- The cursor at the end of the text. -/
def atEnd (cursor : Cursor) : Cursor :=
  match cursor with
  | ⟨rest, line, column, depth⟩ => rest.foldl (fun cursor character => cursor.after character [])
      ⟨[], line, column, depth⟩

/-- The four digits of an escape. -/
def hexEscape (cursor : Cursor) : Except Fault (Nat × Cursor) :=
  let head := firstBytes 4 cursor.rest
  if Text.byteCount head < 4 then cursor.atEnd.fail .endInString
  else match head.mapM Decimal.hexDigit? with
    | some [first, second, third, fourth] =>
      .ok (((first * 16 + second) * 16 + third) * 16 + fourth,
        { cursor with rest := cursor.rest.drop 4, column := cursor.column + 4 })
    | _ => .error ⟨.flaw .invalidEscape, ⟨cursor.line, cursor.column + 4⟩⟩

/-- The character of an escape by code, after its letter. -/
def codeEscape (cursor : Cursor) : Except Fault (Char × Cursor) := do
  let (code, next) ← cursor.hexEscape
  if 0xDC00 ≤ code && code ≤ 0xDFFF then next.fail .loneSurrogate
  else if code < 0xD800 || 0xDBFF < code then return (Char.ofNat code, next)
  else match next.rest with
    | [] => next.fail .endInString
    | '\\' :: 'u' :: _ => do
      let (partner, last) ← next.advance.advance.hexEscape
      if partner < 0xDC00 || 0xDFFF < partner then last.fail .loneSurrogate
      else return (Char.ofNat (0x10000 + (code - 0xD800) * 0x400 + (partner - 0xDC00)), last)
    | ['\\'] => next.advance.fail .endInString
    | '\\' :: _ => next.advance.failNext .escapeWithoutPartner
    | _ => next.failNext .escapeWithoutPartner

/-- The character of an escape, after its backslash. -/
def escape (cursor : Cursor) : Except Fault (Char × Cursor) :=
  match cursor.peek? with
  | none => cursor.fail .endInString
  | some 'u' => cursor.advance.codeEscape
  | some letter =>
    match letterEscape? letter with
    | some character => .ok (character, cursor.advance)
    | none => cursor.failNext .invalidEscape

/-- The characters of a string up to its closing quote. Each step takes a character, so as many
steps as characters are enough. -/
def characters (steps : Nat) (cursor : Cursor) (read : List Char) :
    Except Fault (List Char × Cursor) :=
  match steps with
  | 0 => cursor.fail .endInString
  | steps + 1 =>
    match cursor.peek? with
    | none => cursor.fail .endInString
    | some '"' => .ok (read.reverse, cursor.advance)
    | some '\\' =>
      match cursor.advance.escape with
      | .ok (character, next) => next.characters steps (character :: read)
      | .error fault => .error fault
    | some character =>
      if character.toNat < 32 then cursor.failNext .controlInString
      else cursor.advance.characters steps (character :: read)

/-- The string at a cursor, which stands before its opening quote. -/
def string (cursor : Cursor) : Except Fault (String × Cursor) := do
  let start := cursor.advance
  let (read, next) ← start.characters (start.rest.length + 1) []
  return (String.ofList read, next)

/-- The cursor after an escape whose character does not matter. -/
def skipEscape (cursor : Cursor) : Except Fault Cursor :=
  match cursor.peek? with
  | none => cursor.fail .endInString
  | some 'u' => (cursor.advance.hexEscape).map (·.2)
  | some letter =>
    if (letterEscape? letter).isSome then .ok cursor.advance else cursor.failNext .invalidEscape

/-- The cursor after the closing quote of a string whose characters do not matter. -/
def skipCharacters (steps : Nat) (cursor : Cursor) : Except Fault Cursor :=
  match steps with
  | 0 => cursor.fail .endInString
  | steps + 1 =>
    match cursor.peek? with
    | none => cursor.fail .endInString
    | some '"' => .ok cursor.advance
    | some '\\' =>
      match cursor.advance.skipEscape with
      | .ok next => next.skipCharacters steps
      | .error fault => .error fault
    | some character =>
      if character.toNat < 32 then cursor.fail .controlInString
      else cursor.advance.skipCharacters steps

/-- The cursor after a string whose characters do not matter. -/
def skipString (cursor : Cursor) : Except Fault Cursor :=
  cursor.advance.skipCharacters (cursor.rest.length + 1)

end Cursor

end ArrivalRamp.Json
