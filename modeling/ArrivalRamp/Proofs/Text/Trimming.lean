import ArrivalRamp.Proofs.Text.Runs
import ArrivalRamp.Text.Lines

/-!
What is left of a text when characters or repeated starts are taken from its ends.
-/

namespace ArrivalRamp.Text

section Ends

variable {drops : Char → Bool} {text : List Char}

theorem trim_subset (drops : Char → Bool) (text : List Char) : trim drops text ⊆ text := by
  have ended : trim drops text <+: text.dropWhile drops := trimEnd_prefix _
  exact List.Subset.trans ended.subset (List.dropWhile_suffix drops).subset

/-- Nothing is trimmed from a text that starts and ends with characters that are kept. -/
theorem trim_eq_self (first : ∀ character ∈ text.head?, drops character = false)
    (last : ∀ character ∈ text.getLast?, drops character = false) : trim drops text = text := by
  rw [← List.head?_reverse] at last
  unfold trim trimEnd trimStart
  rw [dropWhile_eq_self first, dropWhile_eq_self last, List.reverse_reverse]

theorem trimEnd_concat (text : List Char) {character : Char} (dropped : drops character) :
    trimEnd drops (text ++ [character]) = trimEnd drops text := by
  unfold trimEnd
  rw [List.reverse_append, List.reverse_singleton, List.singleton_append,
    List.dropWhile_cons_of_pos dropped]

/-- A text is trimmed in the same way with one more dropped character at its end. -/
theorem trim_concat (text : List Char) {character : Char} (dropped : drops character) :
    trim drops (text ++ [character]) = trim drops text := by
  unfold trim trimStart
  rw [List.dropWhile_append]
  split_ifs with empty
  · rw [List.isEmpty_iff.mp empty, List.dropWhile_cons_of_pos dropped]
    rfl
  · exact trimEnd_concat _ dropped

/-- A text is trimmed up to the first character that is kept, and at its end. -/
theorem trim_append_cons {front : List Char} (dropped : ∀ character ∈ front, drops character)
    {character : Char} (kept : drops character = false) (text : List Char) :
    trim drops (front ++ character :: text) = character :: trimEnd drops text := by
  have stops : ∀ first ∈ (character :: text).head?, drops first = false := by
    rintro _ ⟨rfl⟩
    exact kept
  unfold trim trimStart
  rw [dropWhile_append_eq dropped stops]
  unfold trimEnd
  rw [List.reverse_cons, List.dropWhile_append]
  split_ifs with empty
  · rw [List.isEmpty_iff.mp empty, dropWhile_eq_self (by simpa using kept)]
    rfl
  · rw [List.reverse_append, List.reverse_singleton, List.singleton_append]

/-- Nothing is trimmed from a text between two characters that are kept. -/
theorem trim_enclosed {mark : Char} (kept : drops mark = false) (text : List Char) :
    trim drops (mark :: text ++ [mark]) = mark :: text ++ [mark] := by
  refine trim_eq_self ?_ ?_
  · rintro _ ⟨rfl⟩
    exact kept
  · rw [List.getLast?_concat]
    rintro _ ⟨rfl⟩
    exact kept

/-- A text between two dropped characters is all that is left of it, when it starts and ends with
characters that are kept. -/
theorem trim_between {mark : Char} (dropped : drops mark)
    (first : ∀ character ∈ text.head?, drops character = false)
    (last : ∀ character ∈ text.getLast?, drops character = false) :
    trim drops (mark :: text ++ [mark]) = text := by
  rw [trim_concat (mark :: text) dropped]
  have start : trim drops (mark :: text) = trim drops text := by
    unfold trim trimStart
    rw [List.dropWhile_cons_of_pos dropped]
  rw [start, trim_eq_self first last]

end Ends

section Starts

variable {start text : List Char}

/-- A text without the start loses nothing. -/
theorem trimStarts_eq_self (apart : ¬start <+: text) : trimStarts start text = text := by
  unfold trimStarts
  split
  · rfl
  · rfl
  · rw [if_neg]
    rwa [List.isPrefixOf_iff_prefix]

/-- A text loses the start that stands once before it. -/
theorem trimStarts_append (apart : ¬start <+: text) : trimStarts start (start ++ text) = text := by
  cases start with
  | nil => exact absurd List.nil_prefix apart
  | cons first others =>
      have found : (first :: others).isPrefixOf (first :: (others ++ text)) := by
        rw [List.isPrefixOf_iff_prefix]
        exact List.prefix_append (first :: others) text
      rw [List.cons_append, trimStarts, if_pos found, List.drop_left, trimStarts_eq_self apart]

end Starts

end ArrivalRamp.Text
