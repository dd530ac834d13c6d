import ArrivalRamp.Yaml.Events

/-!
A document as a row of parts, up to its end or to the first thing that is wrong in it.
-/

namespace ArrivalRamp.Yaml

/-- A part of a document. An alias stands for the node of an anchor, which is known by a number. -/
inductive Part where
  | nothing
  | alias (anchor : Nat)
  | scalar (tag : Option String) (text : String) (style : ScalarStyle)
  | sequenceStart (tag : Option String)
  | sequenceEnd
  | mappingStart (tag : Option String)
  | mappingEnd
  deriving DecidableEq, Repr

/-- Why a document has no further part. -/
inductive Stop where
  | flaw (flaw : Flaw)
  | control (position : Nat)
  | unknownAnchor (mark : Mark)

/-- The first document of a text: its parts with their places, the part at which the node of each
anchor starts, why it stops before its end, and whether it is the only one. -/
structure Document where
  parts : Array (Part × Mark)
  anchors : List (Nat × Nat)
  stop : Option Stop
  isOnly : Bool

namespace Document

/-- A document of which something was read, and the number of each anchor by its name. -/
structure Draft where
  parts : Array (Part × Mark)
  anchors : List (Nat × Nat)
  numbers : List (String × Nat)

namespace Draft

/-- One more part. -/
def push (draft : Draft) (part : Part) (mark : Mark) : Draft :=
  { draft with parts := draft.parts.push (part, mark) }

/-- One more node. Its anchor gets as its number how many names have one, and takes over that
number and its name from any other node. -/
def pushNode (draft : Draft) (anchor : Option String) (part : Part) (mark : Mark) : Draft :=
  match anchor with
  | none => draft.push part mark
  | some name =>
    let number := draft.numbers.length
    { draft.push part mark with
      anchors := (number, draft.parts.size) :: draft.anchors
      numbers := (name, number) :: draft.numbers.filter fun entry => entry.1 != name }

/-- The document that stops here. -/
def stop (draft : Draft) (reason : Option Stop) (isOnly : Bool) : Document :=
  ⟨draft.parts, draft.anchors, reason, isOnly⟩

end Draft

/-- No further document follows. -/
def endsStream (events : Events) : Bool :=
  match events.next with
  | .ok (.streamEnd, _, _) => true
  | _ => false

/-- The parts that are left of a document. -/
def read (steps : Nat) (draft : Draft) (events : Events) : Document :=
  match steps with
  | 0 => draft.stop none true
  | steps + 1 =>
    match events.next with
    | .error flaw => draft.stop (some (.flaw flaw)) true
    | .ok (event, mark, next) =>
      match event with
      | .documentStart => read steps draft next
      | .documentEnd => draft.stop none (endsStream next)
      | .streamEnd => (draft.push .nothing mark).stop none true
      | .alias name =>
        match draft.numbers.lookup name with
        | some number => read steps (draft.push (.alias number) mark) next
        | none => draft.stop (some (.unknownAnchor mark)) true
      | .scalar anchor tag text style =>
        read steps (draft.pushNode anchor (.scalar tag text style) mark) next
      | .sequenceStart anchor tag =>
        read steps (draft.pushNode anchor (.sequenceStart tag) mark) next
      | .sequenceEnd => read steps (draft.push .sequenceEnd mark) next
      | .mappingStart anchor tag =>
        read steps (draft.pushNode anchor (.mappingStart tag) mark) next
      | .mappingEnd => read steps (draft.push .mappingEnd mark) next

/-- The position of the first character that may not occur, in bytes. -/
def controlPosition? (position : Nat) : List Char → Option Nat
  | [] => none
  | character :: rest =>
    if isAllowed character then controlPosition? (position + character.utf8Size) rest
    else some position

/-- The first document of a text. A text without any is a document of nothing. A character leads to
fewer than sixteen events, so that many steps for each are enough. -/
def ofText (text : String) : Document :=
  match controlPosition? 0 text.toList with
  | some position => ⟨#[], [], some (.control position), true⟩
  | none => read (16 * (text.length + 1)) ⟨#[], [], []⟩ (.ofText text)

end Document

end ArrivalRamp.Yaml
