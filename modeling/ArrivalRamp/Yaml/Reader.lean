import ArrivalRamp.Decimal.Shortest
import ArrivalRamp.Document.Shape
import ArrivalRamp.Yaml.Plain

/-!
YAML as a document format. What is wrong comes with the path that leads to it and with the place of
the innermost node around it.
-/

namespace ArrivalRamp.Yaml

open ArrivalRamp.Document (Format Shape Field Mismatch Found Wording)

/-- How messages about YAML name what it holds. -/
def wording : Wording where
  nothing := "unit value"
  decimal value :=
    let text := Decimal.Layout.plain.write value
    if value.isFinite && !text.toList.contains '.' then text ++ ".0" else text

/-- The way from the root of a document to a node. -/
inductive Path where
  | root
  | item (parent : Path) (index : Nat)
  | member (parent : Path) (name : String)
  | unnamed (parent : Path)

namespace Path

/-- The text of a path. -/
def text : Path → String
  | .root => "."
  | .item parent index => parent.text ++ "[" ++ Decimal.natural index ++ "]"
  | .member .root name => name
  | .member parent name => parent.text ++ "." ++ name
  | .unnamed .root => "?"
  | .unnamed parent => parent.text ++ ".?"

end Path

/-- Why a text is not what it is read as. -/
inductive Fault where
  | stop (reason : Stop)
  | mismatch (cause : Mismatch) (place : Option (Path × Mark))
  | tooDeep (mark : Mark)
  | tooManyAliases
  | noValue
  | severalDocuments

/-- The message of a fault. -/
def Fault.message : Fault → String
  | .stop (.flaw flaw) => flaw.message
  | .stop (.control position) =>
    "control characters are not allowed" ++
      (if position = 0 then "" else " at position " ++ Decimal.natural position)
  | .stop (.unknownAnchor mark) => "unknown anchor" ++ mark.placement
  | .mismatch cause none => cause.message wording
  | .mismatch cause (some (path, mark)) =>
    (if path.text = "." then "" else path.text ++ ": ") ++ cause.message wording ++ mark.placement
  | .tooDeep mark => "recursion limit exceeded" ++ mark.placement
  | .tooManyAliases => "repetition limit exceeded"
  | .noValue => "EOF while parsing a value"
  | .severalDocuments =>
    "deserializing from YAML containing more than one document is not supported"

/-- What is known at a node: the document, the way to the node, and how many collections may still
be opened below it. -/
structure Place where
  document : Document
  path : Path
  depth : Nat

/-- How far a document is read, and how many aliases were followed. -/
structure Progress where
  index : Nat
  aliases : Nat

/-- Reads from a document and moves on in it. -/
abbrev NodeReader := ReaderT Place (StateT Progress (Except Fault))

namespace NodeReader

variable {Value : Type}

/-- The next part, which is not taken. -/
def peek : NodeReader (Part × Mark) := fun place progress =>
  match place.document.parts[progress.index]?, place.document.stop with
  | some part, _ => .ok (part, progress)
  | none, some reason => .error (.stop reason)
  | none, none => .error .noValue

/-- The next part is taken. -/
def drop : NodeReader Unit :=
  modify fun progress => { progress with index := progress.index + 1 }

/-- The next part. -/
def next : NodeReader (Part × Mark) := do
  let part ← peek
  drop
  return part

/-- A mismatch that has no place yet. -/
def mismatch (cause : Mismatch) : NodeReader Value :=
  throw (.mismatch cause none)

/-- A mismatch without a place happens at a mark. -/
def placed (mark : Mark) (read : NodeReader Value) : NodeReader Value := fun place progress =>
  match read place progress with
  | .error (.mismatch cause none) => .error (.mismatch cause (some (place.path, mark)))
  | result => result

/-- Reads what the alias of an anchor stands for, and goes on after the alias. In a document an
alias may be followed a hundred times for each part. -/
def follow (anchor : Nat) (read : NodeReader Value) : NodeReader Value := fun place progress =>
  let parts := place.document.parts.size
  let aliases := progress.aliases + 1
  if parts * 100 < aliases then .error .tooManyAliases
  else
    let start := (place.document.anchors.lookup anchor).getD parts
    match read place ⟨start, aliases⟩ with
    | .ok (value, after) => .ok (value, { progress with aliases := after.aliases })
    | .error fault => .error fault

/-- Reads a node that starts with the next part, or the node that an alias stands for. -/
def node (read : Part → Mark → NodeReader Value) : NodeReader Value := do
  let (part, mark) ← next
  match part with
  | .alias anchor =>
    placed mark (follow anchor do
      let (target, start) ← next
      placed start (read target start))
  | _ => placed mark (read part mark)

/-- What stands at a part. -/
def found : Part → NodeReader Found
  | .scalar tag text style =>
    match scalarValue tag text style with
    | .ok value => return value
    | .error cause => mismatch cause
  | .sequenceStart _ | .sequenceEnd => return .sequence
  | .mappingStart _ | .mappingEnd => return .mapping
  | .nothing | .alias _ => throw .noValue

/-- The mismatch of a part where something else is expected. -/
def wrongKind (part : Part) (expected : String) : NodeReader Value := do
  mismatch (.wrongKind (← found part) expected)

/-- A scalar that may hold a count or a truth value: a plain one, or a literal one whose tag says
so. -/
def holdsPlain (tagName : String) (tag : Option String) (style : ScalarStyle) : Bool :=
  style = .plain || (style = .literal && tag = some (coreTag tagName))

/-- Reads below a node. -/
def below (step : Path → Path) (read : NodeReader Value) : NodeReader Value :=
  withReader (fun place => { place with path := step place.path }) read

/-- Reads inside a collection that starts at a mark. -/
def inside (mark : Mark) (read : NodeReader Value) : NodeReader Value := fun place progress =>
  match place.depth with
  | 0 => .error (.tooDeep mark)
  | depth + 1 => read { place with depth } progress

/-- The number of steps that is enough to read every part of the document. -/
def steps : NodeReader Nat :=
  return (← read).document.parts.size + 1

/-- The items that are left of a sequence. -/
def items (read : NodeReader Value) (steps : Nat) (done : List Value) : NodeReader (List Value) :=
  match steps with
  | 0 => throw .noValue
  | steps + 1 => do
    match (← peek).1 with
    | .sequenceEnd | .nothing =>
      drop
      return done.reverse
    | _ =>
      let item ← below (.item · done.length) read
      items read steps (item :: done)

/-- The step to the value of an entry whose key starts with a part. -/
def stepTo : Part → Path → Path
  | .scalar _ name _, parent => .member parent name
  | _, parent => .unnamed parent

/-- The text of a scalar, as it is written. -/
def text (expected : String) : NodeReader String :=
  node fun part _ => match part with
    | .scalar _ text _ => return text
    | _ => wrongKind part expected

/-- The entries that are left of a mapping. -/
def entries (firstName : String) (read : NodeReader Value) (steps : Nat)
    (done : List (String × Value)) : NodeReader (List (String × Value)) :=
  match steps with
  | 0 => throw .noValue
  | steps + 1 => do
    let (part, _) ← peek
    match part with
    | .mappingEnd | .nothing =>
      drop
      return done.reverse
    | _ =>
      let name ← text (if done.isEmpty then firstName else "a string")
      let value ← below (stepTo part) read
      entries firstName read steps ((name, value) :: done)

/-- Passes over the parts of a node, inside some open collections. -/
def pass (depth : Nat) : Nat → NodeReader Unit
  | 0 => throw .noValue
  | steps + 1 => do
    let inner := match (← next).1 with
      | .sequenceStart _ | .mappingStart _ => depth + 1
      | .sequenceEnd | .mappingEnd => depth - 1
      | _ => depth
    if inner = 0 then return () else pass inner steps

/-- The record with every field in it that must be there. -/
def finish {Record : Type} (shape : Shape NodeReader Record) (seen : List String)
    (record : Record) : NodeReader Record :=
  match shape.missing? seen with
  | some name => mismatch (.missing name)
  | none => return record

/-- The fields that are left of a record. -/
def fields {Record : Type} (shape : Shape NodeReader Record) (steps : Nat) (seen : List String)
    (record : Record) : NodeReader Record :=
  match steps with
  | 0 => throw .noValue
  | steps + 1 => do
    let (part, _) ← peek
    match part with
    | .mappingEnd | .nothing =>
      let record ← finish shape seen record
      drop
      return record
    | _ =>
      let name ← text "field identifier"
      match shape.field? name with
      | none =>
        pass 0 (← NodeReader.steps)
        fields shape steps seen record
      | some field =>
        if seen.contains field.name then mismatch (.repeated field.name)
        else
          let record ← below (stepTo part) (field.read record)
          fields shape steps (field.name :: seen) record

/-- A part that stands for an empty collection. -/
def isEmpty : Part → Bool
  | .nothing => true
  | .scalar _ text style => text.isEmpty && style = .plain
  | _ => false

/-- A tag of the document itself, which names a kind of value that JSON does not have. -/
def isLocal (tag : Option String) : Bool :=
  tag.any (·.startsWith "!")

/-- The mismatch of a part that no JSON value stands for. -/
def notJson (found : Found) : NodeReader Value :=
  mismatch (.wrongKind found "any valid JSON value")

/-- The JSON value of a scalar. A decimal that is not finite becomes null. -/
def jsonOf : Found → NodeReader Json
  | .nothing => return .null
  | .boolean value => return .boolean value
  | .integer value => return .integer value
  | .decimal value => return if value.isFinite then .decimal value else .null
  | .text value => return .text value
  | .wideInteger _ => mismatch .outOfRange
  | other => notJson other

/-- The JSON value of a node, in which some collections may be opened. -/
def json (depth : Nat) : NodeReader Json :=
  node fun part mark => match part, depth with
    | .nothing, _ => return .null
    | .scalar tag _ _, _ => do
      if isLocal tag then notJson .variant else jsonOf (← found part)
    | .sequenceStart tag, depth + 1 => do
      if isLocal tag then notJson .variant
      else return .array (← items (json depth) (← steps) [])
    | .mappingStart tag, depth + 1 => do
      if isLocal tag then notJson .variant
      else return Json.ofMembers (← entries "a string key" (json depth) (← steps) [])
    | .sequenceStart tag, 0 | .mappingStart tag, 0 =>
      if isLocal tag then notJson .variant else throw (.tooDeep mark)
    | _, _ => wrongKind part "any valid JSON value"

/-- Nothing, or what can be read. -/
def optionalHere (read : NodeReader Value) : NodeReader (Option Value) := do
  let isSome ← match (← peek).1 with
    | .nothing => pure false
    | .scalar tag text style =>
      if style ≠ .plain then pure true
      else match tag with
        | none => pure !(text.isEmpty || isNull text)
        | some name =>
          if name ≠ coreTag "null" then pure true
          else if isNull text then pure false
          else mismatch (notTagged text "null")
    | _ => pure true
  if isSome then return some (← read)
  else
    drop
    return none

/-- Nothing, or what can be read, at a part or where its alias leads. -/
def optional (read : NodeReader Value) : NodeReader (Option Value) := do
  match (← peek).1 with
  | .alias anchor =>
    drop
    follow anchor (optionalHere read)
  | _ => optionalHere read

instance : Format NodeReader where
  text := text "a string"
  count width := node fun part _ => match part with
    | .scalar tag text style =>
      match if holdsPlain "int" tag style then count? text.toList else none with
      | some value => return value
      | none => wrongKind part width
    | _ => wrongKind part width
  flag := node fun part _ => match part with
    | .scalar tag text style =>
      match if holdsPlain "bool" tag style then boolean? text else none with
      | some value => return value
      | none => wrongKind part "a boolean"
    | _ => wrongKind part "a boolean"
  json := do json (← read).depth
  optional := optional
  list read := node fun part mark => match part with
    | .sequenceStart _ => do inside mark (items read (← steps) [])
    | _ => if isEmpty part then return [] else wrongKind part "a sequence"
  dictionary read := node fun part mark => match part with
    | .mappingStart _ => do inside mark (entries "a string" read (← steps) [])
    | _ => if isEmpty part then return [] else wrongKind part "a map"
  record shape := node fun part mark => match part with
    | .mappingStart _ => do inside mark (fields shape (← steps) [] shape.start)
    | _ => if isEmpty part then finish shape [] shape.start else wrongKind part shape.title

end NodeReader

/-- Reads a whole text, which must hold one document. -/
def readText {Value : Type} (read : NodeReader Value) (text : String) : Except Fault Value := do
  let document := Document.ofText text
  let (value, _) ← read ⟨document, .root, 128⟩ ⟨0, 0⟩
  match document.stop with
  | some reason => throw (.stop reason)
  | none => if document.isOnly then return value else throw .severalDocuments

end ArrivalRamp.Yaml
