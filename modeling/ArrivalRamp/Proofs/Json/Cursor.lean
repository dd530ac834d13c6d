import ArrivalRamp.Json.Reader
import Mathlib.Tactic

/-!
What the parts of a JSON text are to a reader, wherever they stand in a text. Lines and columns are
counted for messages only, so nothing that is read depends on them.
-/

namespace ArrivalRamp.Json

/-- A value starts with this character. -/
def startsValue (character : Char) : Bool :=
  ['n', 't', 'f', '"', '[', '\x7b', '-'].contains character || character.isDigit

theorem startsValue_of_isDigit {first : Char} (starts : first.isDigit ∨ first = '-') :
    startsValue first := by
  unfold startsValue
  rcases starts with digit | rfl
  · rw [digit, Bool.or_true]
  · rfl

/-- What may follow a value: the end of the text, or what separates and closes in JSON. -/
def EndsValue (rest : List Char) : Prop :=
  ∀ character ∈ rest.head?, character ∈ [',', ']', '\x7d']

namespace Cursor

/-- A value is read up to the rest, at the depth at which reading began. Where none is expected,
reading fails. -/
def Yields {Value : Type} (expected : Option Value) (rest : List Char) (depth : ℕ)
    (result : Except Fault (Value × Cursor)) : Prop :=
  match expected with
  | some value => ∃ line column, result = .ok (value, ⟨rest, line, column, depth⟩)
  | none => ∃ fault, result = .error fault

namespace Yields

variable {Value Next : Type} {expected : Option Value} {further : Value → Option Next}
  {rest last : List Char} {depth finalDepth : ℕ} {result : Except Fault (Value × Cursor)}

/-- What is read after a value follows the value that is expected. -/
theorem bind {proceed : Value × Cursor → Except Fault (Next × Cursor)}
    (first : Yields expected rest depth result)
    (second : ∀ value line column,
      Yields (further value) last finalDepth (proceed (value, ⟨rest, line, column, depth⟩))) :
    Yields (expected.bind further) last finalDepth (result >>= proceed) := by
  cases expected with
  | none =>
      obtain ⟨fault, rfl⟩ := first
      exact ⟨fault, rfl⟩
  | some value =>
      obtain ⟨line, column, rfl⟩ := first
      exact second value line column

/-- A value that is read can be changed. -/
theorem map (read : Yields expected rest depth result) (change : Value → Next) :
    Yields (expected.map change) rest depth
      (result >>= fun found => .ok (change found.1, found.2)) := by
  cases expected with
  | none =>
      obtain ⟨fault, rfl⟩ := read
      exact ⟨fault, rfl⟩
  | some value =>
      obtain ⟨line, column, rfl⟩ := read
      exact ⟨line, column, rfl⟩

end Yields

variable {first : Char} {rest : List Char} {line column depth : ℕ}

theorem skipBlanks_of_startsValue (starts : startsValue first) :
    skipBlanks ⟨first :: rest, line, column, depth⟩ = ⟨first :: rest, line, column, depth⟩ := by
  unfold skipBlanks
  rw [skipBlanks.go, if_neg]
  intro blank
  simp only [Bool.or_eq_true, decide_eq_true_eq] at blank
  obtain ((rfl | rfl) | rfl) | rfl := blank <;> cases starts

/-- A value stands where the first item of an array is looked for. -/
theorem nextItem?_first (starts : startsValue first) :
    nextItem? ⟨first :: rest, line, column, depth⟩ true =
      .ok (some ⟨first :: rest, line, column, depth⟩) := by
  have item : first ≠ ']' := by
    rintro rfl
    cases starts
  simp [nextItem?, skipBlanks_of_startsValue starts, peek?]

/-- A value stands after the comma where the next item of an array is looked for. -/
theorem nextItem?_comma (starts : startsValue first) :
    nextItem? ⟨',' :: first :: rest, line, column, depth⟩ false =
      .ok (some ⟨first :: rest, line, column + 1, depth⟩) := by
  have passed : advance ⟨',' :: first :: rest, line, column, depth⟩ =
      ⟨first :: rest, line, column + 1, depth⟩ := rfl
  have separated : skipBlanks ⟨',' :: first :: rest, line, column, depth⟩ =
      ⟨',' :: first :: rest, line, column, depth⟩ := rfl
  have item : first ≠ ']' := by
    rintro rfl
    cases starts
  simp [nextItem?, separated, passed, skipBlanks_of_startsValue starts, peek?]

/-- What stands in brackets is read unless too many of them are open. -/
theorem yields_enter {Value : Type} {expected : Option Value} {last : List Char} {bracket : Char}
    (inLine : bracket ≠ '\n') {proceed : Cursor → Except Fault (Value × Cursor)}
    (inside : ∀ line column,
      Yields expected last depth (proceed ⟨rest, line, column, depth + 1⟩)) :
    Yields (if depth < 127 then expected else none) last depth
      (enter ⟨bracket :: rest, line, column, depth⟩ >>= proceed) := by
  have passed : advance ⟨bracket :: rest, line, column, depth⟩ =
      ⟨rest, line, column + bracket.utf8Size, depth⟩ := if_neg inLine
  unfold enter
  rw [passed]
  dsimp only
  split_ifs
  · exact inside _ _
  · exact ⟨_, rfl⟩

theorem read_list (steps : ℕ) :
    read (steps + 1) .value ⟨'[' :: rest, line, column, depth⟩ =
      enter ⟨'[' :: rest, line, column, depth⟩ >>= fun start => start.read steps (.items true []) :=
  rfl

theorem read_object (steps : ℕ) :
    read (steps + 1) .value ⟨'\x7b' :: rest, line, column, depth⟩ =
      enter ⟨'\x7b' :: rest, line, column, depth⟩ >>=
        fun start => start.read steps (.members true []) :=
  rfl

end Cursor

end ArrivalRamp.Json
