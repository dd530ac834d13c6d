import ArrivalRamp.Yaml.Token

/-!
Anchors, tags and directives.
-/

namespace ArrivalRamp.Yaml

namespace Source

/-- An anchor or an alias, after its mark. -/
def anchor (source : Source) (isAlias : Bool) : Except Flaw (Token × Source) :=
  let start := source.mark
  let (name, next) := (source.skip 1).takeWhile isWordCharacter
  let isEnded := next.endsWordAt 0 || next.hasAny ['?', ':', ',', ']', '\x7d', '%', '@', '\x60']
  if name.isEmpty || !isEnded then
    next.fail (if isAlias then "while scanning an alias" else "while scanning an anchor") start
      "did not find expected alphabetic or numeric character"
  else
    let text := String.ofList name
    .ok (next.tokenFrom start (if isAlias then .alias text else .anchor text))

/-- The octet of an escape in a tag. -/
def escapedOctet? (source : Source) : Option Nat := do
  let high ← Decimal.hexDigit? (← source.peek? 1)
  let low ← Decimal.hexDigit? (← source.peek? 2)
  if source.has '%' then some (16 * high + low) else none

/-- The number of octets of a character with a given first octet. -/
def octetCount (octet : Nat) : Nat :=
  if octet < 0x80 then 1
  else if 0xC0 ≤ octet && octet < 0xE0 then 2
  else if 0xE0 ≤ octet && octet < 0xF0 then 3
  else if 0xF0 ≤ octet && octet < 0xF8 then 4
  else 0

/-- The further octets of an escaped character. -/
def escapedOctets (source : Source) (context : String) (start : Mark) (value : Nat) :
    Nat → Except Flaw (Char × Source)
  | 0 => .ok (Char.ofNat value, source)
  | count + 1 =>
    match source.escapedOctet? with
    | none => source.fail context start "did not find URI escaped octet"
    | some octet =>
      if octet / 0x40 = 2 then
        (source.skip 3).escapedOctets context start (value * 0x40 + octet % 0x40) count
      else source.fail context start "found an incorrect trailing UTF-8 octet"

/-- A character of a tag that is written by the octets of its encoding. -/
def escapedCharacter (source : Source) (context : String) (start : Mark) :
    Except Flaw (Char × Source) :=
  match source.escapedOctet? with
  | none => source.fail context start "did not find URI escaped octet"
  | some octet =>
    match octetCount octet with
    | 0 => source.fail context start "found an incorrect leading UTF-8 octet"
    | 1 => .ok (Char.ofNat octet, source.skip 3)
    | count =>
      (source.skip 3).escapedOctets context start (octet % Nat.pow 2 (7 - count)) (count - 1)

/-- A character may occur in a tag. -/
def isTagCharacter (isVerbatim : Bool) (character : Char) : Bool :=
  isWordCharacter character ||
    [';', '/', '?', ':', '@', '&', '=', '+', '$', '.', '%', '!', '~', '*', '\'', '(', ')'].contains
      character ||
    (isVerbatim && [',', '[', ']'].contains character)

/-- The characters of a tag. Each step takes one, so as many steps as characters are enough. -/
def tagCharacters (isVerbatim : Bool) (context : String) (start : Mark) (steps : Nat)
    (read : List Char) (source : Source) : Except Flaw (List Char × Source) :=
  match steps with
  | 0 => .ok (read.reverse, source)
  | steps + 1 =>
    match source.peek? 0 with
    | none => .ok (read.reverse, source)
    | some character =>
      if !isTagCharacter isVerbatim character then .ok (read.reverse, source)
      else if character = '%' then do
        let (escaped, next) ← source.escapedCharacter context start
        tagCharacters isVerbatim context start steps (escaped :: read) next
      else tagCharacters isVerbatim context start steps (character :: read) (source.skip 1)

/-- The rest of a tag after a start that was already read. -/
def tagRest (source : Source) (isVerbatim isDirective : Bool) (head : List Char) (start : Mark) :
    Except Flaw (String × Source) := do
  let context := if isDirective then "while parsing a %TAG directive" else "while parsing a tag"
  let (read, next) ←
    source.tagCharacters isVerbatim context start (source.rest.length + 1) []
  if head.isEmpty && read.isEmpty then
    next.fail context start "did not find expected tag URI"
  else return (String.ofList (head.drop 1 ++ read), next)

/-- The handle of a tag: exclamation marks around a word. -/
def tagHandle (source : Source) (isDirective : Bool) (start : Mark) :
    Except Flaw (List Char × Source) :=
  if !source.has '!' then
    source.fail (if isDirective then "while scanning a tag directive" else "while scanning a tag")
      start "did not find expected '!'"
  else
    let (word, next) := (source.skip 1).takeWhile isWordCharacter
    if next.has '!' then .ok ('!' :: word ++ ['!'], next.skip 1)
    else if isDirective && !word.isEmpty then
      next.fail "while parsing a tag directive" start "did not find expected '!'"
    else .ok ('!' :: word, next)

/-- A tag, in angle brackets, with a handle, or local. -/
def tag (source : Source) (isInFlow : Bool) : Except Flaw (Token × Source) := do
  let start := source.mark
  let (handle, suffix, next) ←
    if source.hasAt '<' 1 then do
      let (suffix, next) ← (source.skip 2).tagRest true false [] start
      if next.has '>' then Except.ok ("", suffix, next.skip 1)
      else next.fail "while scanning a tag" start "did not find the expected '>'"
    else do
      let (handle, afterHandle) ← source.tagHandle false start
      if 1 < handle.length && handle.getLast? = some '!' then
        let (suffix, next) ← afterHandle.tagRest false false [] start
        Except.ok (String.ofList handle, suffix, next)
      else
        let (suffix, next) ← afterHandle.tagRest false false handle start
        if suffix.isEmpty then Except.ok ("", "!", next) else Except.ok ("!", suffix, next)
  if next.endsWordAt 0 || (isInFlow && next.has ',') then
    return next.tokenFrom start (.tag handle suffix)
  else next.fail "while scanning a tag" start "did not find expected whitespace or line break"

/-- A number of a version, of at most nine digits. -/
def versionNumber (source : Source) (start : Mark) : Except Flaw (Nat × Source) :=
  let (digits, next) := source.takeWhile Char.isDigit
  if digits.isEmpty then
    next.fail "while scanning a %YAML directive" start "did not find expected version number"
  else if 9 < digits.length then
    (source.skip 9).fail "while scanning a %YAML directive" start
      "found extremely long version number"
  else .ok (Decimal.ofDigits digits, next)

/-- What a directive of a given name says. -/
def directiveValue (source : Source) (name : String) (start : Mark) :
    Except Flaw (TokenKind × Source) := do
  if name = "YAML" then
    let (major, afterMajor) ← (source.skipWhile isBlank).versionNumber start
    if !afterMajor.has '.' then
      afterMajor.fail "while scanning a %YAML directive" start
        "did not find expected digit or '.' character"
    else
      let (minor, next) ← (afterMajor.skip 1).versionNumber start
      return (.versionDirective major minor, next)
  else if name = "TAG" then
    let (handle, afterHandle) ← (source.skipWhile isBlank).tagHandle true start
    if !afterHandle.isAtBlank then
      afterHandle.fail "while scanning a %TAG directive" start
        "did not find expected whitespace"
    else
      let (text, next) ← (afterHandle.skipWhile isBlank).tagRest true true [] start
      if !next.endsWordAt 0 then
        next.fail "while scanning a %TAG directive" start
          "did not find expected whitespace or line break"
      else return (.tagDirective (String.ofList handle) text, next)
  else source.fail "while scanning a directive" start "found unknown directive name"

/-- A directive, with the rest of its line. -/
def directive (source : Source) : Except Flaw (Token × Source) := do
  let start := source.mark
  let (name, afterName) := (source.skip 1).takeWhile isWordCharacter
  if name.isEmpty then
    afterName.fail "while scanning a directive" start "could not find expected directive name"
  else if !afterName.endsWordAt 0 then
    afterName.fail "while scanning a directive" start
      "found unexpected non-alphabetical character"
  else
    let (kind, next) ← afterName.directiveValue (String.ofList name) start
    let last := (next.skipWhile isBlank).skipComment
    if last.breaksAt 0 then
      return (⟨kind, start, next.mark⟩, last.skipBreak)
    else
      last.fail "while scanning a directive" start "did not find expected comment or line break"

end Source

end ArrivalRamp.Yaml
