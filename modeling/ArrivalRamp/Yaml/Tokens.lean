import ArrivalRamp.Yaml.Scalar

/-!
The tokens of a text, read only as far as they are needed. Whether a key starts at a token may show
only at a colon that comes later in the line.
-/

namespace ArrivalRamp.Yaml

/-- A token at which a key may start. It has to start one if nothing else can stand there. -/
structure PossibleKey where
  isRequired : Bool
  number : Nat
  mark : Mark

/-- The tokens of a text. Those that are read but not taken are held back. For each open bracket,
and for the blocks around them, there is a place for a possible key. Both the keys and the
indentations of the open blocks stand innermost first. -/
structure Tokens where
  source : Source
  held : List Token
  taken : Nat
  indents : List Nat
  keys : List (Option PossibleKey)
  allowsKey : Bool

namespace Tokens

/-- The tokens of a whole text. -/
def ofText (text : String) : Tokens :=
  ⟨.ofText text, [], 0, [], [none], true⟩

/-- The text is inside a bracket. -/
def isInFlow (tokens : Tokens) : Bool :=
  1 < tokens.keys.length

/-- The indentation of the innermost block. Outside of all blocks it is negative. -/
def indent (tokens : Tokens) : Int :=
  match tokens.indents with
  | [] => -1
  | column :: _ => column

/-- A flaw at the text that needs no context. -/
def fail {Value : Type} (tokens : Tokens) (problem : String) : Except Flaw Value :=
  .error ⟨problem, tokens.source.mark, none⟩

/-- One more token is held back. -/
def hold (tokens : Tokens) (token : Token) : Tokens :=
  { tokens with held := tokens.held ++ [token] }

/-- One more token, read from the text up to a source, is held back. -/
def holdRead (tokens : Tokens) (read : Token × Source) : Tokens :=
  { tokens.hold read.1 with source := read.2 }

/-- An indicator of some characters is held back as a token. -/
def holdMark (tokens : Tokens) (kind : TokenKind) (length : Nat) : Tokens :=
  tokens.holdRead ((tokens.source.skip length).tokenFrom tokens.source.mark kind)

/-- The text after blanks, comments and line breaks, and whether a key may start there. A tab may
not stand where a key may start. Each step takes a line, so as many steps as characters are
enough. -/
def skipGap (isInFlow : Bool) (steps : Nat) (allowsKey : Bool) (source : Source) :
    Bool × Source :=
  match steps with
  | 0 => (allowsKey, source)
  | steps + 1 =>
    let start := if source.mark.index = 0 && source.has '\ufeff' then source.skip 1 else source
    let next := (start.skipWhile fun character =>
      character = ' ' || (character = '\t' && (isInFlow || !allowsKey))).skipComment
    if next.isAtBreak then skipGap isInFlow steps (allowsKey || !isInFlow) next.skipBreak
    else (allowsKey, next)

/-- The tokens at the next thing that is not blank. -/
def atNext (tokens : Tokens) : Tokens :=
  let (allowsKey, source) :=
    skipGap tokens.isInFlow (tokens.source.rest.length + 1) tokens.allowsKey tokens.source
  { tokens with source, allowsKey }

/-- A possible key has become impossible: its line has ended, or it is too long. -/
def isStale (tokens : Tokens) (key : PossibleKey) : Bool :=
  let mark := tokens.source.mark
  key.mark.line < mark.line || key.mark.index + 1024 < mark.index

/-- The flaw of a required key without a colon. -/
def failKey {Value : Type} (tokens : Tokens) (key : PossibleKey) : Except Flaw Value :=
  tokens.source.fail "while scanning a simple key" key.mark "could not find expected ':'"

/-- The tokens without the keys that have become impossible. -/
def dropStaleKeys (tokens : Tokens) : Except Flaw Tokens :=
  match tokens.keys.findSome? (·.filter fun key => key.isRequired && tokens.isStale key) with
  | some key => tokens.failKey key
  | none =>
    .ok { tokens with keys := tokens.keys.map (·.filter fun key => !tokens.isStale key) }

/-- The tokens without the possible key of the innermost bracket. -/
def dropKey (tokens : Tokens) : Except Flaw Tokens :=
  match tokens.keys with
  | some key :: outer =>
    if key.isRequired then tokens.failKey key else .ok { tokens with keys := none :: outer }
  | _ => .ok tokens

/-- The next token may start a key, if one is allowed. No key is allowed right after it. -/
def saveKey (tokens : Tokens) : Except Flaw Tokens :=
  if !tokens.allowsKey then .ok tokens
  else do
    let cleared ← tokens.dropKey
    let mark := tokens.source.mark
    let isRequired := !tokens.isInFlow && tokens.indent = mark.column
    return { cleared with
      keys := some ⟨isRequired, tokens.taken + tokens.held.length, mark⟩ :: cleared.keys.drop 1
      allowsKey := false }

/-- A block starts at a token if the column is to the right of the blocks around it. -/
def openBlock (tokens : Tokens) (kind : TokenKind) (number : Nat) (mark : Mark) : Tokens :=
  if tokens.isInFlow || mark.column ≤ tokens.indent then tokens
  else { tokens with
    indents := mark.column :: tokens.indents
    held := tokens.held.insertIdx (number - tokens.taken) ⟨kind, mark, mark⟩ }

/-- A block starts at the text. -/
def openBlockHere (tokens : Tokens) (kind : TokenKind) : Tokens :=
  tokens.openBlock kind (tokens.taken + tokens.held.length) tokens.source.mark

/-- The blocks to the right of a column end. -/
def closeBlocks (tokens : Tokens) (column : Int) : Tokens :=
  if tokens.isInFlow then tokens
  else
    let closed := tokens.indents.takeWhile fun indent : Nat => column < indent
    let mark := tokens.source.mark
    { tokens with
      indents := tokens.indents.drop closed.length
      held := tokens.held ++ closed.map fun _ => ⟨.blockEnd, mark, mark⟩ }

/-- The end of the text ends its last line and all blocks. -/
def endStream (tokens : Tokens) : Except Flaw Tokens := do
  let mark := tokens.source.mark
  let last : Mark := if mark.column = 0 then mark else ⟨mark.index, mark.line + 1, 0⟩
  let ended := { tokens with source := { tokens.source with mark := last } }
  let closed ← (ended.closeBlocks (-1)).dropKey
  return { closed with allowsKey := false }.holdMark .streamEnd 0

/-- What parts documents ends all blocks. -/
def endDocument (tokens : Tokens) : Except Flaw Tokens := do
  return { ← (tokens.closeBlocks (-1)).dropKey with allowsKey := false }

/-- A directive. -/
def directive (tokens : Tokens) : Except Flaw Tokens := do
  return (← tokens.endDocument).holdRead (← tokens.source.directive)

/-- The mark at the start or the end of a document. -/
def documentMark (tokens : Tokens) (kind : TokenKind) : Except Flaw Tokens := do
  return (← tokens.endDocument).holdMark kind 3

/-- An opening bracket. -/
def openBracket (tokens : Tokens) (kind : TokenKind) : Except Flaw Tokens := do
  let saved ← tokens.saveKey
  return { saved with keys := none :: saved.keys, allowsKey := true }.holdMark kind 1

/-- A closing bracket. -/
def closeBracket (tokens : Tokens) (kind : TokenKind) : Except Flaw Tokens := do
  let cleared ← tokens.dropKey
  let outer := if cleared.isInFlow then cleared.keys.drop 1 else cleared.keys
  return { cleared with keys := outer, allowsKey := false }.holdMark kind 1

/-- A comma between brackets. -/
def flowEntry (tokens : Tokens) : Except Flaw Tokens := do
  return { ← tokens.dropKey with allowsKey := true }.holdMark .flowEntry 1

/-- The minus of an item. -/
def blockEntry (tokens : Tokens) : Except Flaw Tokens := do
  if !tokens.isInFlow && !tokens.allowsKey then
    tokens.fail "block sequence entries are not allowed in this context"
  else
    let opened ← (tokens.openBlockHere .blockSequenceStart).dropKey
    return { opened with allowsKey := true }.holdMark .blockEntry 1

/-- The question mark of a key. -/
def key (tokens : Tokens) : Except Flaw Tokens := do
  if !tokens.isInFlow && !tokens.allowsKey then
    tokens.fail "mapping keys are not allowed in this context"
  else
    let opened ← (tokens.openBlockHere .blockMappingStart).dropKey
    return { opened with allowsKey := !tokens.isInFlow }.holdMark .key 1

/-- The colon of a value. If a key may have started before, it did. -/
def value (tokens : Tokens) : Except Flaw Tokens :=
  match tokens.keys with
  | some key :: outer =>
    let keyed := { tokens with
      held := tokens.held.insertIdx (key.number - tokens.taken) ⟨.key, key.mark, key.mark⟩ }
    let opened := keyed.openBlock .blockMappingStart key.number key.mark
    .ok ({ opened with keys := none :: outer, allowsKey := false }.holdMark .value 1)
  | _ =>
    if !tokens.isInFlow && !tokens.allowsKey then
      tokens.fail "mapping values are not allowed in this context"
    else
      let opened := tokens.openBlockHere .blockMappingStart
      .ok ({ opened with allowsKey := !tokens.isInFlow }.holdMark .value 1)

/-- A block scalar. -/
def blockScalar (tokens : Tokens) (isLiteral : Bool) : Except Flaw Tokens := do
  let cleared ← tokens.dropKey
  return { cleared with allowsKey := true }.holdRead
    (← tokens.source.blockScalar isLiteral tokens.indent)

/-- A plain scalar. A key may follow it when its line has ended. -/
def plainScalar (tokens : Tokens) : Except Flaw Tokens := do
  let saved ← tokens.saveKey
  let (token, isBroken, next) ←
    tokens.source.plainScalar tokens.isInFlow (tokens.indent + 1).toNat
  return { saved with allowsKey := isBroken }.holdRead (token, next)

/-- Something that may be a key and is not plain. -/
def keyLike (tokens : Tokens) (read : Source → Except Flaw (Token × Source)) :
    Except Flaw Tokens := do
  let saved ← tokens.saveKey
  return { saved with allowsKey := false }.holdRead (← read tokens.source)

/-- A plain scalar may start at the text. -/
def startsPlain (source : Source) (isInFlow : Bool) : Bool :=
  match source.peek? 0 with
  | none => false
  | some '-' => !(source.peek? 1).any isBlank
  | some '?' | some ':' => !isInFlow && !source.endsWordAt 1
  | some character =>
    !(isBlank character || [',', '[', ']', '\x7b', '\x7d', '#', '&', '*', '!', '|', '>', '\'', '"',
      '%', '@', '\x60'].contains character)

/-- The token at the text is read. -/
def readHere (tokens : Tokens) : Except Flaw Tokens :=
  let source := tokens.source
  let isInFlow := tokens.isInFlow
  let mayStand := isInFlow || source.endsWordAt 1
  if source.isAtEnd then tokens.endStream
  else if source.mark.column = 0 && source.has '%' then tokens.directive
  else if source.isAtDocumentMark '-' then tokens.documentMark .documentStart
  else if source.isAtDocumentMark '.' then tokens.documentMark .documentEnd
  else if source.has '[' then tokens.openBracket .flowSequenceStart
  else if source.has '\x7b' then tokens.openBracket .flowMappingStart
  else if source.has ']' then tokens.closeBracket .flowSequenceEnd
  else if source.has '\x7d' then tokens.closeBracket .flowMappingEnd
  else if source.has ',' then tokens.flowEntry
  else if source.has '-' && source.endsWordAt 1 then tokens.blockEntry
  else if source.has '?' && mayStand then tokens.key
  else if source.has ':' && mayStand then tokens.value
  else if source.has '*' then tokens.keyLike (·.anchor true)
  else if source.has '&' then tokens.keyLike (·.anchor false)
  else if source.has '!' then tokens.keyLike (·.tag isInFlow)
  else if source.has '|' && !isInFlow then tokens.blockScalar true
  else if source.has '>' && !isInFlow then tokens.blockScalar false
  else if source.has '\'' then tokens.keyLike (·.quotedScalar true)
  else if source.has '"' then tokens.keyLike (·.quotedScalar false)
  else if startsPlain source isInFlow then tokens.plainScalar
  else source.fail "while scanning for the next token" source.mark
    "found character that cannot start any token"

/-- One more token is read, with the ends of the blocks before it. -/
def read (tokens : Tokens) : Except Flaw Tokens := do
  let fresh ← tokens.atNext.dropStaleKeys
  (fresh.closeBlocks fresh.source.mark.column).readHere

/-- The next token is not certain yet: there is none, or a key may start at it. -/
def isUncertain (tokens : Tokens) : Bool :=
  tokens.held.isEmpty || tokens.keys.any fun key => key.any (·.number == tokens.taken)

/-- Tokens are read until the next one is certain. -/
def settle (tokens : Tokens) : Nat → Except Flaw Tokens
  | 0 => .ok tokens
  | steps + 1 => do
    if tokens.isUncertain then (← tokens.read).settle steps else return tokens

/-- The next token, which is held back. Each reading takes a character or ends the text, so two more
than the characters are enough. -/
def peek (tokens : Tokens) : Except Flaw (Token × Tokens) := do
  let settled ← tokens.settle (tokens.source.rest.length + 2)
  match settled.held with
  | token :: _ => return (token, settled)
  | [] => return (⟨.streamEnd, settled.source.mark, settled.source.mark⟩, settled)

/-- The tokens after the next one. -/
def drop (tokens : Tokens) : Tokens :=
  { tokens with held := tokens.held.drop 1, taken := tokens.taken + 1 }

end Tokens

end ArrivalRamp.Yaml
