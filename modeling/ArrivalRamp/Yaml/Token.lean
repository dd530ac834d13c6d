import ArrivalRamp.Yaml.Source

/-!
The tokens of a YAML text.
-/

namespace ArrivalRamp.Yaml

/-- How a scalar is written. -/
inductive ScalarStyle where
  | plain
  | singleQuoted
  | doubleQuoted
  | literal
  | folded
  deriving DecidableEq, Repr

/-- What a token is. -/
inductive TokenKind where
  | streamEnd
  | versionDirective (major minor : Nat)
  | tagDirective (handle start : String)
  | documentStart
  | documentEnd
  | blockSequenceStart
  | blockMappingStart
  | blockEnd
  | flowSequenceStart
  | flowSequenceEnd
  | flowMappingStart
  | flowMappingEnd
  | blockEntry
  | flowEntry
  | key
  | value
  | alias (name : String)
  | anchor (name : String)
  | tag (handle suffix : String)
  | scalar (text : String) (style : ScalarStyle)
  deriving DecidableEq, Repr

/-- A token between its marks. -/
structure Token where
  kind : TokenKind
  start : Mark
  stop : Mark

/-- A token that was read up to a text. -/
def Source.tokenFrom (source : Source) (start : Mark) (kind : TokenKind) : Token × Source :=
  (⟨kind, start, source.mark⟩, source)

end ArrivalRamp.Yaml
