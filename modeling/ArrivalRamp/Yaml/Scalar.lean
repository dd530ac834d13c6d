import ArrivalRamp.Yaml.Name

/-!
Scalars in each of their styles. A line break inside a scalar that is not literal is folded: alone
it stands for a space, and of several the first one is dropped.
-/

namespace ArrivalRamp.Yaml

/-- What stands for a line break and the further ones after it. -/
def fold (first others : List Char) : List Char :=
  if first = ['\n'] then (if others.isEmpty then [' '] else others) else first ++ others

namespace Source

/-- The blanks and line breaks between two parts of a scalar, and whether a line ends in them. -/
structure Gap where
  blanks : List Char
  isBroken : Bool
  first : List Char
  others : List Char

/-- No blank and no line break. -/
def Gap.none : Gap := ⟨[], false, [], []⟩

/-- What a gap stands for. -/
def Gap.text (gap : Gap) : List Char :=
  if gap.isBroken then fold gap.first gap.others else gap.blanks

/-- The blanks and line breaks at a text. A tab may not stand where a plain scalar has to be
indented. Each step takes a character, so as many steps as characters are enough. -/
def gap (indent : Option (Nat × Mark)) (steps : Nat) (found : Gap) (source : Source) :
    Except Flaw (Gap × Source) :=
  match steps with
  | 0 => .ok (found, source)
  | steps + 1 =>
    match source.peek? 0 with
    | none => .ok (found, source)
    | some character =>
      if isBlank character then
        if !found.isBroken then
          gap indent steps { found with blanks := found.blanks ++ [character] } (source.skip 1)
        else match indent with
          | some (least, start) =>
            if source.mark.column < least && character = '\t' then
              source.fail "while scanning a plain scalar" start
                "found a tab character that violates indentation"
            else gap indent steps found (source.skip 1)
          | none => gap indent steps found (source.skip 1)
      else if isBreak character then
        let (read, next) := source.takeBreak
        if found.isBroken then gap indent steps { found with others := found.others ++ read } next
        else gap indent steps ⟨[], true, read, []⟩ next
      else .ok (found, source)

/-- The text may not go on in a plain scalar. -/
def endsPlain (source : Source) (isInFlow : Bool) : Bool :=
  (source.has ':' && source.endsWordAt 1) ||
    (isInFlow && source.hasAny [',', '[', ']', '\x7b', '\x7d'])

/-- The word of a plain scalar that is next. -/
def plainWord (isInFlow : Bool) (start : Mark) (steps : Nat) (read : List Char)
    (source : Source) : Except Flaw (List Char × Source) :=
  match steps with
  | 0 => .ok (read.reverse, source)
  | steps + 1 =>
    match source.peek? 0 with
    | none => .ok (read.reverse, source)
    | some character =>
      if isBlank character || isBreak character then .ok (read.reverse, source)
      else if isInFlow && character = ':' &&
          (source.skip 1).hasAny [',', '?', '[', ']', '\x7b', '\x7d'] then
        source.fail "while scanning a plain scalar" start "found unexpected ':'"
      else if source.endsPlain isInFlow then .ok (read.reverse, source)
      else plainWord isInFlow start steps (character :: read) (source.skip 1)

/-- The words of a plain scalar, up to a comment, a document mark, an indicator or a line that is
not indented enough. Also says where the last word ends and whether a line ends after it. -/
def plainWords (isInFlow : Bool) (indent : Nat) (start : Mark) (steps : Nat) (read : List Char)
    (found : Gap) (stop : Mark) (source : Source) :
    Except Flaw (List Char × Mark × Bool × Source) :=
  match steps with
  | 0 => .ok (read, stop, found.isBroken, source)
  | steps + 1 =>
    if source.isAtDocumentMark '-' || source.isAtDocumentMark '.' || source.has '#' then
      .ok (read, stop, found.isBroken, source)
    else do
      let (word, afterWord) ← plainWord isInFlow start (source.rest.length + 1) [] source
      let joined := if word.isEmpty then read else read ++ found.text ++ word
      let left := if word.isEmpty then found else Gap.none
      let reached := if word.isEmpty then stop else afterWord.mark
      if !(afterWord.isAtBlank || afterWord.isAtBreak) then
        return (joined, reached, left.isBroken, afterWord)
      else
        let (next, afterGap) ←
          gap (some (indent, start)) (afterWord.rest.length + 1) left afterWord
        if !isInFlow && afterGap.mark.column < indent then
          return (joined, reached, next.isBroken, afterGap)
        else plainWords isInFlow indent start steps joined next reached afterGap

/-- A plain scalar, and whether a line ends after it. -/
def plainScalar (source : Source) (isInFlow : Bool) (indent : Nat) :
    Except Flaw (Token × Bool × Source) := do
  let start := source.mark
  let (text, stop, isBroken, next) ←
    plainWords isInFlow indent start (source.rest.length + 1) [] Gap.none start source
  return (⟨.scalar (String.ofList text) .plain, start, stop⟩, isBroken, next)

/-- What a one-letter escape of a double-quoted scalar stands for. -/
def letterEscape? : Char → Option Char
  | '0' => some '\x00'
  | 'a' => some '\x07'
  | 'b' => some '\x08'
  | 't' => some '\t'
  | '\t' => some '\t'
  | 'n' => some '\n'
  | 'v' => some '\x0b'
  | 'f' => some '\x0c'
  | 'r' => some '\r'
  | 'e' => some '\x1b'
  | ' ' => some ' '
  | '"' => some '"'
  | '/' => some '/'
  | '\\' => some '\\'
  | 'N' => some (Char.ofNat 0x85)
  | '_' => some (Char.ofNat 0xA0)
  | 'L' => some (Char.ofNat 0x2028)
  | 'P' => some (Char.ofNat 0x2029)
  | _ => none

/-- The number of digits of an escape by code. -/
def codeLength? : Char → Option Nat
  | 'x' => some 2
  | 'u' => some 4
  | 'U' => some 8
  | _ => none

/-- The digits of an escape by code, as far as they are digits. -/
def codeDigits (source : Source) (value : Nat) : Nat → Option Nat
  | 0 => some value
  | count + 1 =>
    match (source.peek? 0).bind Decimal.hexDigit? with
    | some digit => codeDigits (source.skip 1) (16 * value + digit) count
    | none => none

/-- An escape of a double-quoted scalar, at its backslash. -/
def escape (source : Source) (start : Mark) : Except Flaw (Char × Source) :=
  let letter := (source.peek? 1).getD '\x01'
  match letterEscape? letter, codeLength? letter with
  | some character, _ => .ok (character, source.skip 2)
  | none, none =>
    source.fail "while parsing a quoted scalar" start "found unknown escape character"
  | none, some length =>
    let digits := source.skip 2
    match digits.codeDigits 0 length with
    | none =>
      digits.fail "while parsing a quoted scalar" start
        "did not find expected hexdecimal number"
    | some value =>
      if (0xD800 ≤ value && value ≤ 0xDFFF) || 0x10FFFF < value then
        digits.fail "while parsing a quoted scalar" start
          "found invalid Unicode character escape code"
      else .ok (Char.ofNat value, digits.skip length)

/-- The quote of a quoted scalar. -/
def quoteOf (isSingle : Bool) : Char :=
  if isSingle then '\'' else '"'

/-- The part of a quoted scalar up to a blank, a line break or the closing quote. Also says whether
it ends with an escaped line break. -/
def quotedWord (isSingle : Bool) (start : Mark) (steps : Nat) (read : List Char)
    (source : Source) : Except Flaw (List Char × Bool × Source) :=
  match steps with
  | 0 => .ok (read.reverse, false, source)
  | steps + 1 =>
    match source.peek? 0 with
    | none => .ok (read.reverse, false, source)
    | some character =>
      if isBlank character || isBreak character then .ok (read.reverse, false, source)
      else if isSingle && character = '\'' && source.hasAt '\'' 1 then
        quotedWord isSingle start steps ('\'' :: read) (source.skip 2)
      else if character = quoteOf isSingle then .ok (read.reverse, false, source)
      else if !isSingle && character = '\\' then
        if (source.peek? 1).any isBreak then
          .ok (read.reverse, true, (source.skip 1).skipBreak)
        else do
          let (escaped, next) ← source.escape start
          quotedWord isSingle start steps (escaped :: read) next
      else quotedWord isSingle start steps (character :: read) (source.skip 1)

/-- The parts of a quoted scalar up to its closing quote. -/
def quotedWords (isSingle : Bool) (start : Mark) (steps : Nat) (read : List Char)
    (source : Source) : Except Flaw (List Char × Source) :=
  match steps with
  | 0 => source.fail "while scanning a quoted scalar" start "found unexpected end of stream"
  | steps + 1 =>
    if source.isAtDocumentMark '-' || source.isAtDocumentMark '.' then
      source.fail "while scanning a quoted scalar" start "found unexpected document indicator"
    else if source.isAtEnd then
      source.fail "while scanning a quoted scalar" start "found unexpected end of stream"
    else do
      let (word, isEscaped, afterWord) ←
        quotedWord isSingle start (source.rest.length + 1) [] source
      if afterWord.has (quoteOf isSingle) then return (read ++ word, afterWord)
      else
        let (found, afterGap) ←
          gap none (afterWord.rest.length + 1) ⟨[], isEscaped, [], []⟩ afterWord
        let between := if isEscaped then found.others else found.text
        quotedWords isSingle start steps (read ++ word ++ between) afterGap

/-- A quoted scalar. -/
def quotedScalar (source : Source) (isSingle : Bool) : Except Flaw (Token × Source) := do
  let start := source.mark
  let (text, last) ←
    quotedWords isSingle start (source.rest.length + 1) [] (source.skip 1)
  return (last.skip 1).tokenFrom start
    (.scalar (String.ofList text) (if isSingle then .singleQuoted else .doubleQuoted))

/-- What becomes of the line breaks at the end of a block scalar. -/
inductive Chomping where
  | clip
  | strip
  | keep
  deriving DecidableEq

/-- The chomping that a character asks for. -/
def chomping? (source : Source) : Option Chomping :=
  if source.has '+' then some .keep else if source.has '-' then some .strip else none

/-- The header of a block scalar: how its end is chomped and how far it is indented. -/
def blockHeader (source : Source) (start : Mark) :
    Except Flaw (Chomping × Nat × Source) :=
  let digit (source : Source) : Except Flaw (Nat × Source) :=
    match source.peek? 0 with
    | some character =>
      if character = '0' then
        source.fail "while scanning a block scalar" start
          "found an indentation indicator equal to 0"
      else if character.isDigit then .ok (Decimal.digitValue character, source.skip 1)
      else .ok (0, source)
    | none => .ok (0, source)
  match source.chomping? with
  | some chomping => do
    let (increment, next) ← digit (source.skip 1)
    return (chomping, increment, next)
  | none => do
    let (increment, next) ← digit source
    match if increment = 0 then none else next.chomping? with
    | some chomping => return (chomping, increment, next.skip 1)
    | none => return (.clip, increment, next)

/-- The line breaks and the indentation before a line of a block scalar. An indentation of zero is
not known yet and becomes that of the deepest line found. -/
def blockBreaks (start : Mark) (indent : Nat) (steps deepest : Nat) (breaks : List Char)
    (stop : Mark) (source : Source) : Except Flaw (Nat × List Char × Mark × Source) :=
  match steps with
  | 0 => .ok (deepest, breaks, stop, source)
  | steps + 1 =>
    let spaces := (source.takeWhile (· == ' ')).1.length
    let next := source.skip
      (if indent = 0 then spaces else min spaces (indent - source.mark.column))
    let deeper := max deepest next.mark.column
    if (indent = 0 || next.mark.column < indent) && next.has '\t' then
      next.fail "while scanning a block scalar" start
        "found a tab character where an indentation space is expected"
    else if next.isAtBreak then
      let (read, afterBreak) := next.takeBreak
      blockBreaks start indent steps deeper (breaks ++ read) afterBreak.mark afterBreak
    else .ok (deeper, breaks, stop, next)

/-- The lines of a block scalar: its text, the line break after the last line, the further line
breaks, and where it ends. -/
def blockLines (isLiteral : Bool) (start : Mark) (indent : Nat) (steps : Nat)
    (read first others : List Char) (isIndented : Bool) (stop : Mark) (source : Source) :
    Except Flaw (List Char × List Char × List Char × Mark × Source) :=
  match steps with
  | 0 => .ok (read, first, others, stop, source)
  | steps + 1 =>
    if source.mark.column ≠ indent || source.isAtEnd then .ok (read, first, others, stop, source)
    else do
      let startsBlank := source.isAtBlank
      let joined :=
        if !isLiteral && first = ['\n'] && !isIndented && !startsBlank then
          read ++ (if others.isEmpty then [' '] else others)
        else read ++ first ++ others
      let (line, afterLine) := source.takeWhile fun character => !isBreak character
      let (lineEnd, afterBreak) := afterLine.takeBreak
      let (_, breaks, reached, next) ←
        blockBreaks start indent (afterBreak.rest.length + 1) 0 [] afterBreak.mark afterBreak
      blockLines isLiteral start indent steps (joined ++ line) lineEnd breaks startsBlank
        reached next

/-- A block scalar inside a block of a given indentation. -/
def blockScalar (source : Source) (isLiteral : Bool) (parent : Int) :
    Except Flaw (Token × Source) := do
  let start := source.mark
  let (chomping, increment, afterHeader) ← (source.skip 1).blockHeader start
  let last := (afterHeader.skipWhile isBlank).skipComment
  if !last.breaksAt 0 then
    last.fail "while scanning a block scalar" start "did not find expected comment or line break"
  else
    let body := last.skipBreak
    let given := if increment = 0 then 0 else ((max parent 0) + increment).toNat
    let (deepest, breaks, stop, lines) ←
      blockBreaks start given (body.rest.length + 1) 0 [] body.mark body
    let indent :=
      if given = 0 then max (max (deepest : Int) (parent + 1)) 1 |>.toNat else given
    let (text, first, others, reached, next) ←
      blockLines isLiteral start indent (lines.rest.length + 1) [] [] breaks false stop lines
    let tail := match chomping with
      | .strip => []
      | .clip => first
      | .keep => first ++ others
    return (⟨.scalar (String.ofList (text ++ tail)) (if isLiteral then .literal else .folded),
      start, reached⟩, next)

end Source

end ArrivalRamp.Yaml
