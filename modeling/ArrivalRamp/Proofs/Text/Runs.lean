import ArrivalRamp.Text.Blank
import ArrivalRamp.Text.DecimalDigit
import Mathlib.Data.List.TakeWhile
import Mathlib.Tactic

/-!
Runs of characters of one class. A run ends where a character of another class follows, so texts
that are made of runs fall apart into them again.
-/

namespace ArrivalRamp.Text

section Runs

variable {holds : Char → Bool} {run rest : List Char}

theorem takeWhile_eq_nil (stops : ∀ character ∈ rest.head?, holds character = false) :
    rest.takeWhile holds = [] := by
  cases rest with
  | nil => rfl
  | cons character rest => simp [stops character rfl]

theorem dropWhile_eq_self (stops : ∀ character ∈ rest.head?, holds character = false) :
    rest.dropWhile holds = rest := by
  cases rest with
  | nil => rfl
  | cons character rest => simp [stops character rfl]

/-- A run is taken from the start of a text. -/
theorem takeWhile_append_eq (all : ∀ character ∈ run, holds character)
    (stops : ∀ character ∈ rest.head?, holds character = false) :
    (run ++ rest).takeWhile holds = run := by
  rw [List.takeWhile_append_of_pos all, takeWhile_eq_nil stops, List.append_nil]

/-- A run is dropped from the start of a text. -/
theorem dropWhile_append_eq (all : ∀ character ∈ run, holds character)
    (stops : ∀ character ∈ rest.head?, holds character = false) :
    (run ++ rest).dropWhile holds = rest := by
  rw [List.dropWhile_append_of_pos all, dropWhile_eq_self stops]

/-- What stands before a character is stopped by it when it is empty itself. -/
theorem stops_append {holds : Char → Bool} {front rest : List Char}
    (own : ∀ character ∈ front, holds character = false)
    (stops : ∀ character ∈ rest.head?, holds character = false) :
    ∀ character ∈ (front ++ rest).head?, holds character = false := by
  cases front with
  | nil => exact stops
  | cons first others => simpa using own first List.mem_cons_self

/-- What stays of a text before an end that is dropped. -/
theorem trimEnd_append {front back : List Char} (all : ∀ character ∈ back, holds character)
    (stops : ∀ character ∈ front.getLast?, holds character = false) :
    trimEnd holds (front ++ back) = front := by
  rw [← List.head?_reverse] at stops
  unfold trimEnd
  rw [List.reverse_append, dropWhile_append_eq (by simpa using all) stops, List.reverse_reverse]

theorem trimEnd_prefix (text : List Char) : trimEnd holds text <+: text := by
  have dropped := List.dropWhile_suffix holds (l := text.reverse)
  rw [← List.reverse_prefix, List.reverse_reverse] at dropped
  exact dropped

/-- What trimming takes from the end of a text. -/
theorem exists_trimEnd_append (holds : Char → Bool) (text : List Char) :
    ∃ back, trimEnd holds text ++ back = text ∧ ∀ character ∈ back, holds character := by
  refine ⟨(text.reverse.takeWhile holds).reverse, ?_, ?_⟩
  · rw [trimEnd, ← List.reverse_append, List.takeWhile_append_dropWhile, List.reverse_reverse]
  · intro character inside
    exact List.mem_takeWhile_imp (List.mem_reverse.mp inside)

end Runs

section Classes

/-- The runs of blanks, each from its first code point to its last. -/
def blankRuns : List (ℕ × ℕ) :=
  [(9, 13), (0x20, 0x20), (0x85, 0x85), (0xA0, 0xA0), (0x1680, 0x1680), (0x2000, 0x200A),
    (0x2028, 0x2029), (0x202F, 0x202F), (0x205F, 0x205F), (0x3000, 0x3000)]

theorem isBlank_iff {character : Char} :
    isBlank character ↔ ∃ run ∈ blankRuns, run.1 ≤ character.toNat ∧ character.toNat ≤ run.2 := by
  simp only [isBlank, blankRuns, Bool.or_eq_true, Bool.and_eq_true, decide_eq_true_eq, beq_iff_eq,
    List.mem_cons, List.not_mem_nil, or_false, exists_eq_or_imp, exists_eq_left]
  omega

theorem isDecimalDigit_iff {character : Char} :
    isDecimalDigit character ↔
      ∃ first ∈ digitZeros, first ≤ character.toNat ∧ character.toNat ≤ first + 9 := by
  simp [isDecimalDigit]

/-- No run of digits meets a run of blanks. -/
theorem digitZeros_apart : ∀ first ∈ digitZeros, ∀ run ∈ blankRuns,
    first + 9 < run.1 ∨ run.2 < first := by
  decide +kernel

theorem isBlank_of_isDecimalDigit {character : Char} (decimal : isDecimalDigit character) :
    isBlank character = false := by
  rw [isDecimalDigit_iff] at decimal
  rw [Bool.eq_false_iff]
  intro blank
  rw [isBlank_iff] at blank
  obtain ⟨first, firstInside, low, high⟩ := decimal
  obtain ⟨run, runInside, start, stop⟩ := blank
  have apart := digitZeros_apart first firstInside run runInside
  omega

theorem isDecimalDigit_of_isBlank {character : Char} (blank : isBlank character) :
    isDecimalDigit character = false := by
  rw [Bool.eq_false_iff]
  intro decimal
  rw [isBlank_of_isDecimalDigit decimal] at blank
  cases blank

theorem toNat_of_isLower {character : Char} (lower : character.isLower) :
    97 ≤ character.toNat ∧ character.toNat ≤ 122 := by
  obtain ⟨above, below⟩ := Bool.and_eq_true_iff.mp lower
  exact ⟨UInt32.le_iff_toNat_le.mp (of_decide_eq_true above),
    UInt32.le_iff_toNat_le.mp (of_decide_eq_true below)⟩

theorem isBlank_of_isLower {character : Char} (lower : character.isLower) :
    isBlank character = false := by
  have bounds := toNat_of_isLower lower
  rw [Bool.eq_false_iff]
  intro blank
  rw [isBlank_iff] at blank
  simp only [blankRuns, List.mem_cons, List.not_mem_nil, or_false, exists_eq_or_imp,
    exists_eq_left] at blank
  omega

/-- No run of digits meets the lower-case letters. -/
theorem digitZeros_apart_lower : ∀ first ∈ digitZeros, first + 9 < 97 ∨ 122 < first := by
  decide +kernel

theorem isLower_of_isDecimalDigit {character : Char} (decimal : isDecimalDigit character) :
    character.isLower = false := by
  rw [isDecimalDigit_iff] at decimal
  rw [Bool.eq_false_iff]
  intro lower
  obtain ⟨first, inside, low, high⟩ := decimal
  have bounds := toNat_of_isLower lower
  have apart := digitZeros_apart_lower first inside
  omega

theorem isLower_of_isBlank {character : Char} (blank : isBlank character) :
    character.isLower = false := by
  rw [Bool.eq_false_iff]
  intro lower
  rw [isBlank_of_isLower lower] at blank
  cases blank

end Classes

end ArrivalRamp.Text
