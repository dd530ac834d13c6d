import ArrivalRamp.Text.Lines
import ArrivalRamp.Text.Split
import Mathlib.Tactic

/-!
Fields of a line and lines of a text. Nothing is quoted, so they are found again as long as no field
holds the mark that stands between them.
-/

namespace ArrivalRamp.Text

section Separated

variable {separator : Char}

theorem split_eq_splitOn (separator : Char) (text : List Char) :
    split separator text = text.splitOn separator := by
  induction text with
  | nil => rfl
  | cons character rest ih =>
      unfold List.splitOn at ih ⊢
      rw [List.splitOnP_cons_eq_if_modifyHead, split, ih]
      simp only [beq_iff_eq]
      split_ifs with same
      · rfl
      · obtain ⟨part, parts, found⟩ :=
          List.exists_cons_of_ne_nil (List.splitOnP_ne_nil (· == separator) rest)
        rw [found]
        rfl

theorem split_intercalate {parts : List (List Char)} (free : ∀ part ∈ parts, separator ∉ part)
    (nonempty : parts ≠ []) : split separator ([separator].intercalate parts) = parts := by
  rw [split_eq_splitOn, List.splitOn_intercalate separator free nonempty]

theorem mem_intercalate {parts : List (List Char)} {character : Char}
    (inside : character ∈ [separator].intercalate parts) :
    character = separator ∨ ∃ part ∈ parts, character ∈ part := by
  induction parts with
  | nil => cases inside
  | cons part parts ih =>
      cases parts with
      | nil => exact .inr ⟨part, List.mem_cons_self, by simpa using inside⟩
      | cons next others =>
          rw [List.intercalate_cons_cons, List.append_assoc, List.mem_append, List.mem_append,
            List.mem_singleton] at inside
          rcases inside with own | same | later
          · exact .inr ⟨part, List.mem_cons_self, own⟩
          · exact .inl same
          · obtain same | ⟨other, otherInside, found⟩ := ih later
            · exact .inl same
            · exact .inr ⟨other, List.mem_cons_of_mem part otherInside, found⟩

end Separated

section Lines

theorem dropReturn_eq {line : List Char} (free : '\r' ∉ line) : dropReturn line = line := by
  unfold dropReturn
  rw [if_neg fun last => free (List.mem_of_getLast? last)]

theorem linesFrom_append {line : List Char} (free : '\n' ∉ line) (current rest : List Char) :
    linesFrom current (line ++ '\n' :: rest) =
      dropReturn (current.reverse ++ line) :: linesFrom [] rest := by
  induction line generalizing current with
  | nil => simp [linesFrom]
  | cons character line ih =>
      rw [List.mem_cons, not_or] at free
      rw [List.cons_append, linesFrom, ih free.2]
      · simp
      · exact fun same => free.1 same.symm

/-- What follows the last line feed is a line when there is anything. -/
theorem linesFrom_of_notMem {line : List Char} (free : '\n' ∉ line) (current : List Char) :
    linesFrom current line =
      if (current.reverse ++ line).isEmpty then [] else [current.reverse ++ line] := by
  induction line generalizing current with
  | nil => simp [linesFrom]
  | cons character line ih =>
      rw [List.mem_cons, not_or] at free
      rw [linesFrom, ih free.2]
      · simp
      · exact fun same => free.1 same.symm

/-- The lines of a text that is made of them. -/
theorem linesFrom_flatMap {lines : List (List Char)}
    (free : ∀ line ∈ lines, '\n' ∉ line ∧ '\r' ∉ line) (rest : List Char) :
    linesFrom [] (lines.flatMap (· ++ ['\n']) ++ rest) = lines ++ linesFrom [] rest := by
  induction lines with
  | nil => rfl
  | cons line lines ih =>
      rw [List.forall_mem_cons] at free
      rw [List.flatMap_cons, List.append_assoc, List.append_assoc, List.singleton_append,
        linesFrom_append free.1.1, List.reverse_nil, List.nil_append, dropReturn_eq free.1.2,
        ih free.2, List.cons_append]

end Lines

section Fields

/-- A character of a field: a letter, a digit, or one of a few marks. -/
def isFieldCharacter (character : Char) : Bool :=
  character.isAlphanum || ['+', '-', '.', ':', '=', '[', ']', '_'].contains character

/-- A text that can be a field of a line. -/
def IsField (text : List Char) : Prop :=
  ∀ character ∈ text, isFieldCharacter character

instance (text : List Char) : Decidable (IsField text) :=
  decidable_of_iff _ (List.all_eq_true (p := isFieldCharacter))

theorem IsField.append {front back : List Char} (first : IsField front) (second : IsField back) :
    IsField (front ++ back) :=
  List.forall_mem_append.mpr ⟨first, second⟩

theorem IsField.cons {rest : List Char} (field : IsField rest) {first : Char}
    (mark : isFieldCharacter first) : IsField (first :: rest) :=
  List.forall_mem_cons.mpr ⟨mark, field⟩

theorem isField_of_isDigit {text : List Char} (all : ∀ digit ∈ text, digit.isDigit) :
    IsField text := by
  intro digit inside
  simp [isFieldCharacter, Char.isAlphanum, all digit inside]

theorem IsField.notMem {text : List Char} (field : IsField text) {mark : Char}
    (outside : isFieldCharacter mark = false) : mark ∉ text := by
  intro inside
  rw [field mark inside] at outside
  cases outside

/-- The fields of a line, two or more of them. -/
structure IsRow (row : List (List Char)) : Prop where
  many : 1 < row.length
  fields : ∀ field ∈ row, IsField field

/-- The lines of rows, whose fields are separated. -/
def joined (separator : Char) (rows : List (List (List Char))) : List Char :=
  (rows.map fun row => [separator].intercalate row).flatMap (· ++ ['\n'])

theorem joined_cons (separator : Char) (row : List (List Char)) (rows : List (List (List Char))) :
    joined separator (row :: rows) =
      [separator].intercalate row ++ ['\n'] ++ joined separator rows :=
  rfl

variable {separator : Char} {rows : List (List (List Char))} (own : ∀ row ∈ rows, IsRow row)

include own

theorem linesFrom_joined (plain : separator ≠ '\n' ∧ separator ≠ '\r') (rest : List Char) :
    linesFrom [] (joined separator rows ++ rest) =
      rows.map (fun row => [separator].intercalate row) ++ linesFrom [] rest := by
  apply linesFrom_flatMap
  intro line inside
  obtain ⟨row, rowInside, rfl⟩ := List.mem_map.mp inside
  have free {mark : Char} (other : separator ≠ mark) (outside : isFieldCharacter mark = false) :
      mark ∉ [separator].intercalate row := by
    intro found
    rcases mem_intercalate found with same | ⟨field, fieldInside, found⟩
    · exact other same.symm
    · exact ((own row rowInside).fields field fieldInside).notMem outside found
  exact ⟨free plain.1 (by decide), free plain.2 (by decide)⟩

/-- The lines of rows are those of a text that ends with them. -/
theorem linesFrom_joined_end (plain : separator ≠ '\n' ∧ separator ≠ '\r') :
    linesFrom [] (joined separator rows) = rows.map fun row => [separator].intercalate row := by
  have whole := linesFrom_joined own plain []
  rwa [List.append_nil, linesFrom, List.isEmpty_nil, if_pos rfl, List.append_nil] at whole

/-- A line of two fields or more is not empty. -/
theorem nil_notMem_map_intercalate (separator : Char) :
    [] ∉ rows.map fun row => [separator].intercalate row := by
  intro inside
  obtain ⟨row, rowInside, empty⟩ := List.mem_map.mp inside
  have many := (own row rowInside).many
  match row with
  | [] => cases many
  | [field] => exact absurd many (Nat.lt_irrefl 1)
  | field :: next :: others => simp [List.intercalate_cons_cons] at empty

/-- The fields of the lines. -/
theorem map_split_intercalate (outside : isFieldCharacter separator = false) :
    (rows.map fun row => [separator].intercalate row).map (split separator) = rows := by
  rw [List.map_map]
  refine (List.map_congr_left fun row inside => ?_).trans (List.map_id rows)
  refine split_intercalate (fun field fieldInside => ?_) ?_
  · exact ((own row inside).fields field fieldInside).notMem outside
  · exact List.ne_nil_of_length_pos (Nat.lt_of_succ_lt (own row inside).many)

end Fields

end ArrivalRamp.Text
