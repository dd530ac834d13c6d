import ArrivalRamp.Proofs.Decimal.Reading
import ArrivalRamp.Proofs.Text.Runs

/-!
Numerals in digits of any script. Reading takes ASCII characters only, so a numeral is a number
exactly when its digits are those of ASCII.
-/

namespace ArrivalRamp

namespace Text

/-- A character of ASCII. -/
def IsAscii (character : Char) : Prop := character.toNat < 128

instance (character : Char) : Decidable (IsAscii character) :=
  Nat.decLt _ _

theorem isAscii_of_isDigit {digit : Char} (decimal : digit.isDigit) : IsAscii digit := by
  have bounds := toNat_of_isDigit decimal
  unfold IsAscii
  omega

/-- Only a letter of ASCII has a letter of ASCII as its lower case. -/
theorem isAscii_of_toLower {character : Char} (ascii : IsAscii character.toLower) :
    IsAscii character := by
  by_cases upper : character.val ≥ 'A'.val ∧ character.val ≤ 'Z'.val
  · have last : character.toNat ≤ 'Z'.toNat := upper.2
    have value : 'Z'.toNat = 90 := rfl
    unfold IsAscii
    omega
  · have same : character.toLower = character := dif_neg upper
    rwa [same] at ascii

/-- The digits of ASCII are the first run of digits. -/
theorem digitZeros_ascii : ∀ first ∈ digitZeros, first = 0x30 ∨ 128 ≤ first := by
  decide

theorem isDigit_of_isAscii {digit : Char} (decimal : isDecimalDigit digit) (ascii : IsAscii digit) :
    digit.isDigit := by
  obtain ⟨first, inside, low, high⟩ := isDecimalDigit_iff.mp decimal
  unfold IsAscii at ascii
  have bounds : 48 ≤ digit.toNat ∧ digit.toNat ≤ 57 := by
    rcases digitZeros_ascii first inside with rfl | above <;> omega
  simpa [Char.isDigit, UInt32.le_iff_toNat_le] using bounds

end Text

namespace Decimal

/-- Digits of a class, and a point and more digits after them or nothing. -/
inductive IsNumeral (isDigit : Char → Bool) : List Char → Prop
  | whole {digits : List Char} (some : digits ≠ []) (all : ∀ digit ∈ digits, isDigit digit) :
      IsNumeral isDigit digits
  | fraction {digits decimals : List Char} (some : digits ≠ [])
      (all : ∀ digit ∈ digits, isDigit digit) (someDecimals : decimals ≠ [])
      (allDecimals : ∀ digit ∈ decimals, isDigit digit) :
      IsNumeral isDigit (digits ++ '.' :: decimals)

namespace IsNumeral

variable {isDigit : Char → Bool} {number : List Char}

/-- A numeral starts with a digit. -/
theorem exists_eq_cons (numeral : IsNumeral isDigit number) :
    ∃ digit rest, number = digit :: rest ∧ isDigit digit := by
  cases numeral with
  | whole some all =>
      obtain ⟨digit, rest, rfl⟩ := List.exists_cons_of_ne_nil some
      exact ⟨digit, rest, rfl, all digit List.mem_cons_self⟩
  | fraction some all =>
      obtain ⟨digit, rest, rfl⟩ := List.exists_cons_of_ne_nil some
      exact ⟨digit, _, rfl, all digit List.mem_cons_self⟩

theorem starts (numeral : IsNumeral isDigit number) (rest : List Char) :
    ∀ character ∈ (number ++ rest).head?, isDigit character := by
  obtain ⟨digit, others, rfl, decimal⟩ := numeral.exists_eq_cons
  simpa using decimal

/-- A numeral in one class of digits is one in another class when its digits are in it. -/
theorem of_mem {others : Char → Bool} (numeral : IsNumeral isDigit number)
    (moved : ∀ digit ∈ number, isDigit digit → others digit) : IsNumeral others number := by
  cases numeral with
  | whole some all => exact .whole some fun digit inside => moved digit inside (all digit inside)
  | fraction some all someDecimals allDecimals =>
      rw [List.forall_mem_append, List.forall_mem_cons] at moved
      exact .fraction some (fun digit inside => moved.1 digit inside (all digit inside))
        someDecimals fun digit inside => moved.2.2 digit inside (allDecimals digit inside)

/-- The characters of a numeral are its digits and the point. -/
theorem forall_mem (numeral : IsNumeral isDigit number) {holds : Char → Prop} (point : holds '.')
    (digits : ∀ digit, isDigit digit → holds digit) : ∀ character ∈ number, holds character := by
  cases numeral with
  | whole some all => exact fun digit inside => digits digit (all digit inside)
  | fraction some all someDecimals allDecimals =>
      rw [List.forall_mem_append, List.forall_mem_cons]
      exact ⟨fun digit inside => digits digit (all digit inside), point,
        fun digit inside => digits digit (allDecimals digit inside)⟩

end IsNumeral

/-- A numeral, or a minus and a numeral. -/
inductive IsSigned (isDigit : Char → Bool) : List Char → Prop
  | positive {number : List Char} (numeral : IsNumeral isDigit number) : IsSigned isDigit number
  | negative {number : List Char} (numeral : IsNumeral isDigit number) :
      IsSigned isDigit ('-' :: number)

namespace IsSigned

variable {isDigit : Char → Bool} {number : List Char}

/-- A signed numeral starts with a digit or a minus. -/
theorem starts (signed : IsSigned isDigit number) (rest : List Char) :
    ∀ character ∈ (number ++ rest).head?, isDigit character ∨ character = '-' := by
  cases signed with
  | positive numeral => exact fun character first => .inl (numeral.starts rest character first)
  | negative numeral => simp

theorem of_mem {others : Char → Bool} (signed : IsSigned isDigit number)
    (moved : ∀ digit ∈ number, isDigit digit → others digit) : IsSigned others number := by
  cases signed with
  | positive numeral => exact .positive (numeral.of_mem moved)
  | negative numeral => exact .negative (numeral.of_mem (List.forall_mem_cons.mp moved).2)

theorem forall_mem (signed : IsSigned isDigit number) {holds : Char → Prop} (point : holds '.')
    (minus : holds '-') (digits : ∀ digit, isDigit digit → holds digit) :
    ∀ character ∈ number, holds character := by
  cases signed with
  | positive numeral => exact numeral.forall_mem point digits
  | negative numeral => exact List.forall_mem_cons.mpr ⟨minus, numeral.forall_mem point digits⟩

end IsSigned

namespace Numeral

variable {text : List Char}

/-- The numeral of digits and of the exponent behind them, or of digits alone. -/
def withPower (whole fraction rest : List Char) : Option Numeral :=
  if whole.isEmpty && fraction.isEmpty then none
  else match rest with
    | [] => some ⟨whole, fraction, 0⟩
    | mark :: others =>
      if mark == 'e' || mark == 'E' then
        (readExponent others).map fun exponent => ⟨whole, fraction, exponent⟩
      else none

theorem read_eq_of_point {decimals : List Char}
    (after : text.dropWhile Char.isDigit = '.' :: decimals) :
    read text = withPower (text.takeWhile Char.isDigit) (decimals.takeWhile Char.isDigit)
      (decimals.dropWhile Char.isDigit) := by
  unfold read
  rw [after]
  rfl

theorem read_eq_of_no_point (after : (text.dropWhile Char.isDigit).head? ≠ some '.') :
    read text = withPower (text.takeWhile Char.isDigit) [] (text.dropWhile Char.isDigit) := by
  unfold read
  cases rest : text.dropWhile Char.isDigit with
  | nil => rfl
  | cons first others =>
      rw [rest, List.head?_cons, Option.some_inj.ne] at after
      simp [withPower, after]

theorem isAscii_of_readExponent {exponent : ℤ} (found : readExponent text = some exponent) :
    ∀ character ∈ text, Text.IsAscii character := by
  have digits {text : List Char} {value : ℕ} (found : ofDigits? text = some value) :
      ∀ character ∈ text, Text.IsAscii character := by
    unfold ofDigits? at found
    split_ifs at found with digits
    rw [Bool.and_eq_true, List.all_eq_true] at digits
    exact fun character inside => Text.isAscii_of_isDigit (digits.2 character inside)
  unfold readExponent at found
  split at found
  all_goals obtain ⟨value, read, -⟩ := Option.map_eq_some_iff.mp found
  · exact List.forall_mem_cons.mpr ⟨by decide, digits read⟩
  · exact List.forall_mem_cons.mpr ⟨by decide, digits read⟩
  · exact digits read

theorem isAscii_of_withPower {whole fraction : List Char} {numeral : Numeral}
    (found : withPower whole fraction text = some numeral) :
    ∀ character ∈ text, Text.IsAscii character := by
  unfold withPower at found
  split_ifs at found
  split at found
  · simp
  · next mark others =>
    split_ifs at found with power
    obtain ⟨exponent, read, -⟩ := Option.map_eq_some_iff.mp found
    refine List.forall_mem_cons.mpr ⟨?_, isAscii_of_readExponent read⟩
    simp only [Bool.or_eq_true, beq_iff_eq] at power
    rcases power with rfl | rfl <;> decide

/-- A numeral is read from characters of ASCII. -/
theorem isAscii_of_read {numeral : Numeral} (found : read text = some numeral) :
    ∀ character ∈ text, Text.IsAscii character := by
  have digits (text : List Char) :
      ∀ character ∈ text.takeWhile Char.isDigit, Text.IsAscii character :=
    fun character inside => Text.isAscii_of_isDigit (List.mem_takeWhile_imp inside)
  rw [← List.takeWhile_append_dropWhile (p := Char.isDigit) (l := text), List.forall_mem_append]
  refine ⟨digits text, ?_⟩
  by_cases point : (text.dropWhile Char.isDigit).head? = some '.'
  · obtain ⟨decimals, after⟩ := List.head?_eq_some_iff.mp point
    rw [read_eq_of_point after] at found
    rw [after, List.forall_mem_cons, ← List.takeWhile_append_dropWhile (p := Char.isDigit)
      (l := decimals), List.forall_mem_append]
    exact ⟨by decide, digits decimals, isAscii_of_withPower found⟩
  · rw [read_eq_of_no_point point] at found
    exact isAscii_of_withPower found

/-- A numeral in digits of ASCII is read. -/
theorem exists_read_eq (numeral : IsNumeral Char.isDigit text) :
    ∃ value, read text = some value := by
  cases numeral with
  | whole some all =>
      have digits : text.takeWhile Char.isDigit = text := List.takeWhile_eq_self_iff.mpr all
      have rest : text.dropWhile Char.isDigit = [] := List.dropWhile_eq_nil_iff.mpr all
      rw [read_eq_of_no_point (by simp [rest]), digits, rest]
      exact ⟨⟨text, [], 0⟩, by simp [withPower, some]⟩
  | @fraction digits decimals some all someDecimals allDecimals =>
      have point : ∀ character ∈ ('.' :: decimals).head?, character.isDigit = false := by
        rintro _ ⟨rfl⟩
        decide
      have first : decimals.takeWhile Char.isDigit = decimals :=
        List.takeWhile_eq_self_iff.mpr allDecimals
      have rest : decimals.dropWhile Char.isDigit = [] := List.dropWhile_eq_nil_iff.mpr allDecimals
      rw [read_eq_of_point (Text.dropWhile_append_eq all point), Text.takeWhile_append_eq all point,
        first, rest]
      exact ⟨⟨digits, decimals, 0⟩, by simp [withPower, some]⟩

end Numeral

section Floats

variable {text : List Char}

theorem isAscii_of_readName {value : Float} (found : readName text = some value) :
    ∀ character ∈ text, Text.IsAscii character := by
  have lowered (name : String) (ascii : ∀ letter ∈ name.toList, Text.IsAscii letter)
      (same : (String.ofList (text.map Char.toLower) == name) = true) :
      ∀ character ∈ text, Text.IsAscii character := by
    rw [beq_iff_eq] at same
    intro character inside
    apply Text.isAscii_of_toLower
    apply ascii
    rw [← same, String.toList_ofList]
    exact List.mem_map_of_mem inside
  unfold readName at found
  dsimp only at found
  split_ifs at found with infinity nan
  · rcases Bool.or_eq_true_iff.mp infinity with short | long
    · exact lowered "inf" (by simp [Text.IsAscii]) short
    · exact lowered "infinity" (by simp [Text.IsAscii]) long
  · exact lowered "nan" (by simp [Text.IsAscii]) nan

theorem isAscii_of_readMagnitude {value : Float} (found : readMagnitude text = some value) :
    ∀ character ∈ text, Text.IsAscii character := by
  unfold readMagnitude at found
  split at found
  · next name => exact isAscii_of_readName name
  · obtain ⟨numeral, read, -⟩ := Option.map_eq_some_iff.mp found
    exact Numeral.isAscii_of_read read

/-- A number is read from characters of ASCII. -/
theorem isAscii_of_readFloat {value : Float} (found : readFloat text = some value) :
    ∀ character ∈ text, Text.IsAscii character := by
  unfold readFloat at found
  split at found
  · obtain ⟨magnitude, read, -⟩ := Option.map_eq_some_iff.mp found
    exact List.forall_mem_cons.mpr ⟨by decide, isAscii_of_readMagnitude read⟩
  · exact List.forall_mem_cons.mpr ⟨by decide, isAscii_of_readMagnitude found⟩
  · exact isAscii_of_readMagnitude found

/-- A numeral in digits of any script is a number when its digits are those of ASCII. -/
theorem isSome_readFloat_iff (signed : IsSigned Text.isDecimalDigit text) :
    (readFloat text).isSome ↔ IsSigned Char.isDigit text := by
  constructor
  · intro found
    obtain ⟨value, read⟩ := Option.isSome_iff_exists.mp found
    exact signed.of_mem fun digit inside decimal =>
      Text.isDigit_of_isAscii decimal (isAscii_of_readFloat read digit inside)
  · intro ascii
    cases ascii with
    | positive numeral =>
        obtain ⟨value, read⟩ := Numeral.exists_read_eq numeral
        obtain ⟨digit, rest, rfl, decimal⟩ := numeral.exists_eq_cons
        rw [readFloat_of_isDigit decimal, read]
        rfl
    | negative numeral =>
        obtain ⟨value, read⟩ := Numeral.exists_read_eq numeral
        obtain ⟨digit, rest, rfl, decimal⟩ := numeral.exists_eq_cons
        rw [readFloat, readMagnitude, readName_of_isDigit decimal, read]
        rfl

end Floats

end Decimal

end ArrivalRamp
