import ArrivalRamp.Duration.Span
import ArrivalRamp.Duration.Token

/-!
Duration settings: one token each, where zero has no meaning.
-/

namespace ArrivalRamp.Duration

/-- The span of one token with blanks around it. A token worth nothing is no setting. -/
def ofSetting? (setting : String) : Option Span :=
  match tokenMillis (Text.trimBlanks setting) with
  | 0 => none
  | millis => some (Span.ofMillis millis)

/-- A setting that cannot be read, what it is for, and the default in its place. -/
structure Unreadable where
  setting : String
  context : String
  default : Span

/-- The warning about a setting that cannot be read. -/
def Unreadable.message (problem : Unreadable) : String :=
  "Invalid duration '" ++ problem.setting ++ "' for " ++ problem.context ++ ", using default " ++
    problem.default.text

/-- The span of a setting, or the default with the reason for it. -/
def ofSettingOr (setting context : String) (default : Span) : Span × Option Unreadable :=
  match ofSetting? setting with
  | some span => (span, none)
  | none => (default, some ⟨setting, context, default⟩)

end ArrivalRamp.Duration
