import ArrivalRamp.Json.Printer
import ArrivalRamp.Proofs.Json.Cursor

/-!
A string between quotes is read as the text that it was written from. Each character is read from
its own escape, so the string ends at the quote that closes it.
-/

namespace ArrivalRamp

namespace Decimal

/-- The code of a control character is written by two zeros and two digits. -/
theorem toList_hexadecimal_control : ∀ code < 32, (hexadecimal 4 code).toList =
    ['0', '0', Nat.digitChar (code / 16), Nat.digitChar (code % 16)] := by
  decide

theorem hexDigit?_digitChar : ∀ value < 16, hexDigit? (Nat.digitChar value) = some value := by
  decide

theorem utf8Size_digitChar : ∀ value < 16, (Nat.digitChar value).utf8Size = 1 := by
  decide

end Decimal

namespace Json

theorem escape_ne_nil (character : Char) : escape character ≠ [] := by
  unfold escape
  split
  case h_8 => split_ifs <;> exact List.cons_ne_nil _ _
  all_goals exact List.cons_ne_nil _ _

theorem length_le_length_escape (text : List Char) :
    text.length ≤ (text.flatMap escape).length := by
  induction text with
  | nil => exact le_rfl
  | cons character text ih =>
      have written : 0 < (escape character).length := List.length_pos_iff.mpr (escape_ne_nil _)
      rw [List.flatMap_cons, List.length_append, List.length_cons]
      omega

theorem firstBytes_zero (text : List Char) : firstBytes 0 text = [] := by
  cases text <;> rfl

namespace Cursor

variable {rest : List Char} {line column depth : ℕ}

/-- The four digits of a control character are read as its code. -/
theorem hexEscape_control {code : ℕ} (control : code < 32) :
    hexEscape ⟨(Decimal.hexadecimal 4 code).toList ++ rest, line, column, depth⟩ =
      .ok (code, ⟨rest, line, column + 4, depth⟩) := by
  have high : code / 16 < 16 := by omega
  have low : code % 16 < 16 := by omega
  have zero : ('0').utf8Size = 1 := by decide
  have none : Decimal.hexDigit? '0' = some 0 := by decide
  rw [Decimal.toList_hexadecimal_control code control]
  simp [hexEscape, firstBytes, firstBytes_zero, Text.byteCount, zero, none,
    Decimal.utf8Size_digitChar _ high, Decimal.utf8Size_digitChar _ low,
    Decimal.hexDigit?_digitChar _ high, Decimal.hexDigit?_digitChar _ low]
  omega

theorem codeEscape_control {character : Char} (control : character.toNat < 32) :
    codeEscape ⟨(Decimal.hexadecimal 4 character.toNat).toList ++ rest, line, column, depth⟩ =
      .ok (character, ⟨rest, line, column + 4, depth⟩) := by
  have notTrailing : (0xDC00 ≤ character.toNat && character.toNat ≤ 0xDFFF) = false := by
    rw [Bool.and_eq_false_imp, decide_eq_true_eq]
    omega
  have notLeading : (character.toNat < 0xD800 || 0xDBFF < character.toNat) = true := by
    rw [Bool.or_eq_true, decide_eq_true_eq]
    omega
  unfold codeEscape
  rw [hexEscape_control control]
  change (if _ then _ else if _ then _ else _) = _
  rw [notTrailing, notLeading, Char.ofNat_toNat]
  rfl

theorem characters_code (steps : ℕ) (text read : List Char) :
    characters (steps + 1) ⟨'\\' :: 'u' :: text, line, column, depth⟩ read =
      match codeEscape ⟨text, line, column + 1 + 1, depth⟩ with
      | .ok (character, next) => next.characters steps (character :: read)
      | .error fault => .error fault :=
  rfl

theorem characters_plain (steps : ℕ) {character : Char} (read : List Char)
    (quote : character ≠ '"') (backslash : character ≠ '\\') (control : ¬character.toNat < 32) :
    characters (steps + 1) ⟨character :: rest, line, column, depth⟩ read =
      characters steps ⟨rest, line, column + character.utf8Size, depth⟩ (character :: read) := by
  have inLine : character ≠ '\n' := by
    rintro rfl
    exact control (by decide)
  simp [characters, peek?, advance, after, inLine, control]

/-- A character is read from its escape in one step. -/
theorem characters_escape (steps : ℕ) (character : Char) (rest read : List Char)
    (line column depth : ℕ) :
    ∃ afterLine afterColumn,
      characters (steps + 1) ⟨Json.escape character ++ rest, line, column, depth⟩ read =
        characters steps ⟨rest, afterLine, afterColumn, depth⟩ (character :: read) := by
  unfold Json.escape
  split
  case h_8 quote backslash _ _ _ _ _ =>
    split_ifs with control
    · refine ⟨line, column + 1 + 1 + 4, ?_⟩
      rw [List.cons_append, List.cons_append, characters_code, codeEscape_control control]
    · exact ⟨_, _, characters_plain steps read quote backslash control⟩
  all_goals exact ⟨_, _, rfl⟩

/-- The characters of a text are read from their escapes, up to the quote after them. -/
theorem characters_flatMap_escape (text : List Char) {steps : ℕ} (enough : text.length < steps)
    (line column : ℕ) (read : List Char) :
    Yields (some (read.reverse ++ text)) rest depth
      (characters steps ⟨text.flatMap Json.escape ++ '"' :: rest, line, column, depth⟩ read) := by
  induction text generalizing steps line column read with
  | nil =>
      obtain ⟨steps, rfl⟩ := Nat.exists_eq_add_of_lt enough
      rw [List.append_nil]
      exact ⟨_, _, rfl⟩
  | cons character text ih =>
      obtain ⟨steps, rfl⟩ := Nat.exists_eq_add_one_of_ne_zero (Nat.ne_zero_of_lt enough)
      rw [List.flatMap_cons, List.append_assoc]
      obtain ⟨afterLine, afterColumn, next⟩ := characters_escape steps character
        (text.flatMap Json.escape ++ '"' :: rest) read line column depth
      rw [next, List.append_cons, ← List.reverse_cons]
      exact ih (Nat.lt_of_succ_lt_succ enough) afterLine afterColumn (character :: read)

/-- A string between quotes is read as the text that it was written from. -/
theorem string_quoted (rest : List Char) (text : String) (line column : ℕ) :
    Yields (some text) rest depth
      (string ⟨(quoted text).toList ++ rest, line, column, depth⟩) := by
  have written : (quoted text).toList ++ rest =
      '"' :: (text.toList.flatMap Json.escape ++ '"' :: rest) := by
    rw [quoted, String.toList_ofList, List.cons_append, List.cons_append, List.append_assoc,
      List.singleton_append]
  have enough : text.toList.length <
      (text.toList.flatMap Json.escape ++ '"' :: rest).length + 1 := by
    have short := length_le_length_escape text.toList
    rw [List.length_append]
    omega
  have read : Yields _ rest depth _ :=
    (characters_flatMap_escape text.toList enough line (column + 1) []).map String.ofList
  rw [Option.map_some, List.reverse_nil, List.nil_append, String.ofList_toList] at read
  rw [written]
  exact read

end Cursor

end Json

end ArrivalRamp
