import ArrivalRamp.Decimal.Natural
import ArrivalRamp.Text.DecimalDigit
import ArrivalRamp.Word

/-!
Duration tokens: a magnitude with its unit, alone or among other text.
-/

namespace ArrivalRamp

/-- The units of a duration token. -/
inductive TimeUnit where
  | millisecond
  | second
  | minute
  | hour
  deriving DecidableEq, Repr

namespace TimeUnit

/-- The milliseconds in one unit. -/
def millis : TimeUnit → Nat
  | .millisecond => 1
  | .second => 1000
  | .minute => 60000
  | .hour => 3600000

/-- The letters of a unit. -/
def letters : TimeUnit → List Char
  | .millisecond => ['m', 's']
  | .second => ['s']
  | .minute => ['m']
  | .hour => ['h']

/-- Every unit. -/
def all : List TimeUnit :=
  [.millisecond, .second, .minute, .hour]

/-- The unit at the start of a text. An `m` before an `s` is no minute. -/
def read : List Char → Option (TimeUnit × List Char)
  | 'm' :: 's' :: rest => some (.millisecond, rest)
  | 's' :: rest => some (.second, rest)
  | 'm' :: rest => some (.minute, rest)
  | 'h' :: rest => some (.hour, rest)
  | _ => none

theorem eq_append_of_read {text rest : List Char} {unit : TimeUnit}
    (found : read text = some (unit, rest)) : text = unit.letters ++ rest := by
  unfold read at found
  split at found <;> simp_all [letters]
  all_goals obtain ⟨rfl, rfl⟩ := found; rfl

end TimeUnit

/-- A magnitude and its unit. -/
structure DurationToken where
  magnitude : List Char
  unit : TimeUnit

namespace DurationToken

/-- The token at the start of a text: the longest run of digits and the unit after it. -/
def read (text : List Char) : Option (DurationToken × List Char) :=
  let magnitude := text.takeWhile Text.isDecimalDigit
  if magnitude.isEmpty then none
  else (TimeUnit.read (text.dropWhile Text.isDecimalDigit)).map fun found =>
    (⟨magnitude, found.1⟩, found.2)

theorem length_lt_of_read {text rest : List Char} {token : DurationToken}
    (found : read text = some (token, rest)) : rest.length < text.length := by
  unfold read at found
  dsimp only at found
  split at found
  · contradiction
  · next nonempty =>
    obtain ⟨⟨unit, others⟩, unitFound, same⟩ := Option.map_eq_some_iff.1 found
    obtain ⟨rfl, rfl⟩ := Prod.mk.injEq .. ▸ same
    have split := congrArg List.length
      (List.takeWhile_append_dropWhile (p := Text.isDecimalDigit) (l := text))
    have after := congrArg List.length (TimeUnit.eq_append_of_read unitFound)
    have positive : 0 < (text.takeWhile Text.isDecimalDigit).length := by
      cases run : text.takeWhile Text.isDecimalDigit <;> simp_all
    simp only [List.length_append] at split after
    show others.length < text.length
    omega

/-- The milliseconds of a token. One whose magnitude is not in ASCII digits, or whose
milliseconds are more than a count can hold, is worth none. -/
def millis (token : DurationToken) : Nat :=
  match Decimal.ofDigits? token.magnitude with
  | none => 0
  | some value =>
    let total := value * token.unit.millis
    if total ≤ Word.maxCount then total else 0

theorem millis_le (token : DurationToken) : token.millis ≤ Word.maxCount := by
  unfold millis
  split
  · exact Nat.zero_le _
  · dsimp only
    split
    · assumption
    · exact Nat.zero_le _

/-- The text that is one token and nothing else. -/
def ofText? (text : List Char) : Option DurationToken :=
  match read text with
  | some (token, []) => some token
  | _ => none

/-- Every token of a text, from left to right. What is no token is passed over. -/
def scan : List Char → List DurationToken
  | [] => []
  | first :: others =>
    match _found : read (first :: others) with
    | some (token, rest) => token :: scan rest
    | none => scan others
  termination_by text => text.length
  decreasing_by
    · exact length_lt_of_read _found
    · simp

end DurationToken

namespace Duration

/-- The milliseconds of a text that is one token, and none for any other text. -/
def tokenMillis (text : String) : Nat :=
  match DurationToken.ofText? text.toList with
  | some token => token.millis
  | none => 0

theorem tokenMillis_le (text : String) : tokenMillis text ≤ Word.maxCount := by
  unfold tokenMillis
  split
  · exact DurationToken.millis_le _
  · exact Nat.zero_le _

/-- The milliseconds of all tokens in a text together. -/
def scanMillis (text : String) : Nat :=
  (DurationToken.scan text.toList).foldl (fun total token => Word.addCount total token.millis) 0

end Duration

end ArrivalRamp
