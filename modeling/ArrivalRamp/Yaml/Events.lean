import ArrivalRamp.Yaml.Tokens

/-!
The events of a text: where its documents, collections and scalars start and end.
-/

namespace ArrivalRamp.Yaml

/-- What happens at a place of a text. -/
inductive Event where
  | streamEnd
  | documentStart
  | documentEnd
  | alias (name : String)
  | scalar (anchor tag : Option String) (text : String) (style : ScalarStyle)
  | sequenceStart (anchor tag : Option String)
  | sequenceEnd
  | mappingStart (anchor tag : Option String)
  | mappingEnd
  deriving DecidableEq, Repr

/-- What has to come next in a text. A pair is a mapping of one entry inside a flow sequence. -/
inductive Expected where
  | documentStart (isFirst : Bool)
  | documentContent
  | documentEnd
  | blockNode
  | blockItem
  | indentlessItem
  | blockKey
  | blockValue
  | flowItem (isFirst : Bool)
  | pairKey
  | pairValue
  | pairEnd
  | flowKey (isFirst : Bool)
  | flowValue
  | flowNoValue
  deriving DecidableEq, Repr

/-- The events of a text that are still to come: its tokens, what has to come next and after that,
where the open collections start, and the tag directives of the document. -/
structure Events where
  tokens : Tokens
  expected : Expected
  after : List Expected
  opened : List Mark
  tags : List (String × String)

/-- An event, where it happens, and the events after it. -/
abbrev NextEvent := Except Flaw (Event × Mark × Events)

namespace Events

/-- The events of a whole text. -/
def ofText (text : String) : Events :=
  ⟨.ofText text, .documentStart true, [], [], []⟩

/-- The next token. -/
def peek (events : Events) : Except Flaw (Token × Events) := do
  let (token, tokens) ← events.tokens.peek
  return (token, { events with tokens })

/-- The next token is taken. -/
def drop (events : Events) : Events :=
  { events with tokens := events.tokens.drop }

/-- The token after the next one. -/
def advance (events : Events) : Except Flaw (Token × Events) :=
  events.drop.peek

/-- Something else has to come next. -/
def expect (events : Events) (expected : Expected) : Events :=
  { events with expected }

/-- Something has to come after the next node. -/
def expectAfter (events : Events) (expected : Expected) : Events :=
  { events with after := expected :: events.after }

/-- A node has come to its end. -/
def leave (events : Events) : Events :=
  match events.after with
  | [] => events.expect .documentEnd
  | expected :: after => { events with expected, after }

/-- A collection is open. Its first token is taken. -/
def enter (events : Events) (token : Token) (expected : Expected) : Events :=
  { events.drop.expect expected with opened := token.start :: events.opened }

/-- The innermost collection ends with a token. -/
def close (events : Events) (token : Token) (event : Event) : Event × Mark × Events :=
  (event, token.start, { events.drop.leave with opened := events.opened.drop 1 })

/-- A node that is left out, at a mark. -/
def emptyNode (events : Events) (mark : Mark) (expected : Expected) : Event × Mark × Events :=
  (.scalar none none "" .plain, mark, events.expect expected)

/-- A flaw at a token of the innermost collection. -/
def failInside {Value : Type} (events : Events) (token : Token) (context problem : String) :
    Except Flaw Value :=
  .error ⟨problem, token.start, some (context, events.opened.headD token.start)⟩

/-- The anchor that may come next. -/
def takeAnchor (events : Events) (token : Token) :
    Except Flaw (Option String × Token × Events) :=
  match token.kind with
  | .anchor name => do return (some name, ← events.advance)
  | _ => .ok (none, token, events)

/-- The full name of the tag that may come next. Handles are looked up only after both the anchor
and the tag of a node are read, so the name is kept back. -/
def takeTag (events : Events) (token : Token) :
    Except Flaw (Option (String × String × Mark) × Token × Events) :=
  match token.kind with
  | .tag handle suffix => do return (some (handle, suffix, token.start), ← events.advance)
  | _ => .ok (none, token, events)

/-- The anchor and the tag of a node, in any order, and the token after them. -/
def properties (events : Events) (token : Token) :
    Except Flaw (Option String × Option (String × String × Mark) × Token × Events) := do
  let (anchor, afterAnchor) ← events.takeAnchor token
  let (tag, afterTag) ← afterAnchor.2.takeTag afterAnchor.1
  if anchor.isSome || tag.isNone then return (anchor, tag, afterTag)
  else
    let (later, last) ← afterTag.2.takeAnchor afterTag.1
    return (later, tag, last)

/-- The full name of a tag of a node that starts at a mark. -/
def resolveTag (events : Events) (start : Mark) :
    Option (String × String × Mark) → Except Flaw (Option String)
  | none => .ok none
  | some (handle, suffix, mark) =>
    if handle.isEmpty then .ok (some suffix)
    else match events.tags.lookup handle with
      | some meaning => .ok (some (meaning ++ suffix))
      | none =>
        .error ⟨"found undefined tag handle", mark, some ("while parsing a node", start)⟩

/-- A node. In a block it may be a block collection, and after a key also a sequence that is not
indented. -/
def node (events : Events) (token : Token) (isBlock allowsIndentless : Bool) : NextEvent := do
  match token.kind with
  | .alias name => return (.alias name, token.start, events.drop.leave)
  | _ =>
    let start := token.start
    let (anchor, named, content, rest) ← events.properties token
    let tag ← rest.resolveTag start named
    match content.kind, isBlock with
    | .scalar text style, _ =>
      return (.scalar anchor (tag.filter (· != "!")) text style, start, rest.drop.leave)
    | .flowSequenceStart, _ =>
      return (.sequenceStart anchor tag, start, rest.enter content (.flowItem true))
    | .flowMappingStart, _ =>
      return (.mappingStart anchor tag, start, rest.enter content (.flowKey true))
    | .blockSequenceStart, true =>
      return (.sequenceStart anchor tag, start, rest.enter content .blockItem)
    | .blockMappingStart, true =>
      return (.mappingStart anchor tag, start, rest.enter content .blockKey)
    | kind, _ =>
      if allowsIndentless && kind = .blockEntry then
        return (.sequenceStart anchor tag, start, rest.expect .indentlessItem)
      else if anchor.isSome || tag.isSome then
        return (.scalar anchor tag "" .plain, start, rest.leave)
      else
        .error ⟨"did not find expected node content", content.start,
          some (if isBlock then "while parsing a block node" else "while parsing a flow node",
            start)⟩

/-- A node of a collection, unless one of some kinds of tokens shows that it is left out. -/
def nodeUnless (events : Events) (token : Token) (absent : List TokenKind) (mark : Mark)
    (expected : Expected) (isBlock allowsIndentless : Bool) : NextEvent :=
  if absent.contains token.kind then .ok (events.emptyNode mark expected)
  else (events.expectAfter expected).node token isBlock allowsIndentless

/-- A tag directive is added, unless its handle has one. -/
def addTag (tags : List (String × String)) (handle start : String) : List (String × String) :=
  if (tags.lookup handle).isSome then tags else tags ++ [(handle, start)]

/-- The directives of a document. -/
def directives (steps : Nat) (hasVersion : Bool) (events : Events) (token : Token) :
    Except Flaw (Token × Events) :=
  match steps with
  | 0 => .ok (token, events)
  | steps + 1 =>
    match token.kind with
    | .versionDirective major minor =>
      if hasVersion then .error ⟨"found duplicate %YAML directive", token.start, none⟩
      else if major ≠ 1 || (minor ≠ 1 && minor ≠ 2) then
        .error ⟨"found incompatible YAML document", token.start, none⟩
      else do
        let (next, rest) ← events.advance
        directives steps true rest next
    | .tagDirective handle start =>
      if (events.tags.lookup handle).isSome then
        .error ⟨"found duplicate %TAG directive", token.start, none⟩
      else do
        let (next, rest) ← events.advance
        directives steps hasVersion { rest with tags := addTag rest.tags handle start } next
    | _ =>
      .ok (token, { events with
        tags := addTag (addTag events.tags "!" "!") "!!" "tag:yaml.org,2002:" })

/-- The events after the marks that end documents. -/
def skipDocumentEnds (steps : Nat) (events : Events) (token : Token) :
    Except Flaw (Token × Events) :=
  match steps with
  | 0 => .ok (token, events)
  | steps + 1 =>
    if token.kind = .documentEnd then do
      let (next, rest) ← events.advance
      skipDocumentEnds steps rest next
    else .ok (token, events)

/-- The start of a document, or the end of the text. Only the first document may start without a
mark. -/
def documentStart (events : Events) (isFirst : Bool) (given : Token) : NextEvent := do
  let steps := events.tokens.source.rest.length + events.tokens.held.length + 2
  let (token, current) ←
    if isFirst then Except.ok (given, events) else events.skipDocumentEnds steps given
  let isExplicit := match token.kind with
    | .versionDirective .. | .tagDirective .. | .documentStart => true
    | _ => false
  if token.kind = .streamEnd then return (.streamEnd, token.start, current)
  else if isFirst && !isExplicit then
    let (_, ready) ← current.directives steps false token
    return (.documentStart, token.start, (ready.expectAfter .documentEnd).expect .blockNode)
  else
    let (next, ready) ← current.directives steps false token
    if next.kind = .documentStart then
      return (.documentStart, token.start,
        (ready.drop.expectAfter .documentEnd).expect .documentContent)
    else .error ⟨"did not find expected <document start>", next.start, none⟩

/-- The content of a document whose start is marked. -/
def documentContent (events : Events) (token : Token) : NextEvent :=
  match token.kind with
  | .versionDirective .. | .tagDirective .. | .documentStart | .documentEnd | .streamEnd =>
    .ok (.scalar none none "" .plain, token.start, events.leave)
  | _ => events.node token true false

/-- The end of a document. -/
def documentEnd (events : Events) (token : Token) : Event × Mark × Events :=
  let rest := if token.kind = .documentEnd then events.drop else events
  (.documentEnd, token.start, { rest.expect (.documentStart false) with tags := [] })

/-- An item of a block sequence, or its end. -/
def blockItem (events : Events) (token : Token) : NextEvent := do
  match token.kind with
  | .blockEntry =>
    let (next, rest) ← events.advance
    rest.nodeUnless next [.blockEntry, .blockEnd] token.stop .blockItem true false
  | .blockEnd => return events.close token .sequenceEnd
  | _ =>
    events.failInside token "while parsing a block collection"
      "did not find expected '-' indicator"

/-- An item of a sequence that is not indented, or its end. -/
def indentlessItem (events : Events) (token : Token) : NextEvent := do
  match token.kind with
  | .blockEntry =>
    let (next, rest) ← events.advance
    rest.nodeUnless next [.blockEntry, .key, .value, .blockEnd] token.stop .indentlessItem true
      false
  | _ => return (.sequenceEnd, token.start, events.leave)

/-- A key of a block mapping, or its end. -/
def blockKey (events : Events) (token : Token) : NextEvent := do
  match token.kind with
  | .key =>
    let (next, rest) ← events.advance
    rest.nodeUnless next [.key, .value, .blockEnd] token.stop .blockValue true true
  | .blockEnd => return events.close token .mappingEnd
  | _ => events.failInside token "while parsing a block mapping" "did not find expected key"

/-- A value of a block mapping. -/
def blockValue (events : Events) (token : Token) : NextEvent := do
  match token.kind with
  | .value =>
    let (next, rest) ← events.advance
    rest.nodeUnless next [.key, .value, .blockEnd] token.stop .blockKey true true
  | _ => return events.emptyNode token.start .blockKey

/-- The token after the comma that parts the entries of a flow collection. -/
def flowComma (events : Events) (token : Token) (isFirst : Bool) (context problem : String) :
    Except Flaw (Token × Events) :=
  if isFirst then .ok (token, events)
  else if token.kind = .flowEntry then events.advance
  else events.failInside token context problem

/-- An item of a flow sequence, or its end. -/
def flowItem (events : Events) (given : Token) (isFirst : Bool) : NextEvent := do
  if given.kind = .flowSequenceEnd then return events.close given .sequenceEnd
  else
    let (token, rest) ← events.flowComma given isFirst "while parsing a flow sequence"
      "did not find expected ',' or ']'"
    match token.kind with
    | .key => return (.mappingStart none none, token.start, rest.drop.expect .pairKey)
    | .flowSequenceEnd => return rest.close token .sequenceEnd
    | _ => (rest.expectAfter (.flowItem false)).node token false false

/-- The key of a pair. The token that shows a key to be left out is taken. -/
def pairKey (events : Events) (token : Token) : NextEvent :=
  if [TokenKind.value, .flowEntry, .flowSequenceEnd].contains token.kind then
    .ok (events.drop.emptyNode token.stop .pairValue)
  else (events.expectAfter .pairValue).node token false false

/-- The value of a pair. -/
def pairValue (events : Events) (token : Token) : NextEvent := do
  if token.kind = .value then
    let (next, rest) ← events.advance
    rest.nodeUnless next [.flowEntry, .flowSequenceEnd] next.start .pairEnd false false
  else return events.emptyNode token.start .pairEnd

/-- A key of a flow mapping, or its end. -/
def flowKey (events : Events) (given : Token) (isFirst : Bool) : NextEvent := do
  if given.kind = .flowMappingEnd then return events.close given .mappingEnd
  else
    let (token, rest) ← events.flowComma given isFirst "while parsing a flow mapping"
      "did not find expected ',' or '\x7d'"
    match token.kind with
    | .key =>
      let (next, later) ← rest.advance
      later.nodeUnless next [.value, .flowEntry, .flowMappingEnd] next.start .flowValue false false
    | .flowMappingEnd => return rest.close token .mappingEnd
    | _ => (rest.expectAfter .flowNoValue).node token false false

/-- A value of a flow mapping. -/
def flowValue (events : Events) (token : Token) : NextEvent := do
  if token.kind = .value then
    let (next, rest) ← events.advance
    rest.nodeUnless next [.flowEntry, .flowMappingEnd] next.start (.flowKey false) false false
  else return events.emptyNode token.start (.flowKey false)

/-- The next event. -/
def next (events : Events) : NextEvent := do
  let (token, current) ← events.peek
  match events.expected with
  | .documentStart isFirst => current.documentStart isFirst token
  | .documentContent => current.documentContent token
  | .documentEnd => return current.documentEnd token
  | .blockNode => current.node token true false
  | .blockItem => current.blockItem token
  | .indentlessItem => current.indentlessItem token
  | .blockKey => current.blockKey token
  | .blockValue => current.blockValue token
  | .flowItem isFirst => current.flowItem token isFirst
  | .pairKey => current.pairKey token
  | .pairValue => current.pairValue token
  | .pairEnd => return (.mappingEnd, token.start, current.expect (.flowItem false))
  | .flowKey isFirst => current.flowKey token isFirst
  | .flowValue => current.flowValue token
  | .flowNoValue => return current.emptyNode token.start (.flowKey false)

end Events

end ArrivalRamp.Yaml
