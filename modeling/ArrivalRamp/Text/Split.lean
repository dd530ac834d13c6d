/-!
Text between separators.
-/

namespace ArrivalRamp.Text

/-- The parts of a text between separators. There is always one. -/
def split (separator : Char) : List Char → List (List Char)
  | [] => [[]]
  | character :: rest =>
    if character = separator then [] :: split separator rest
    else match split separator rest with
      | [] => [[character]]
      | part :: parts => (character :: part) :: parts

theorem split_ne_nil (separator : Char) (text : List Char) : split separator text ≠ [] := by
  cases text with
  | nil => simp [split]
  | cons character rest =>
    unfold split
    split
    · simp
    · split <;> simp

theorem intercalate_split (separator : Char) (text : List Char) :
    [separator].intercalate (split separator text) = text := by
  induction text with
  | nil => simp [split]
  | cons character rest step =>
    have filled := split_ne_nil separator rest
    unfold split
    split
    · rename_i equal
      cases found : split separator rest with
      | nil => exact absurd found filled
      | cons part parts =>
        rw [found] at step
        simp [equal, step]
    · cases found : split separator rest with
      | nil => exact absurd found filled
      | cons part parts =>
        rw [found] at step
        cases parts with
        | nil => simp at step; simp [step]
        | cons next others => simp at step; simp [step]

end ArrivalRamp.Text
