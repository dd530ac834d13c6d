import ArrivalRamp.Duration.Elapsed
import ArrivalRamp.Proofs.Binary64.Counts
import ArrivalRamp.Proofs.Decimal.Numeral
import ArrivalRamp.Proofs.Text.Trimming

/-!
The numeral of a count as an elapsed time. It is read as the machine number nearest to the count,
which is the count itself as long as its significand fits.
-/

namespace ArrivalRamp

open Binary64

namespace Text

theorem toNat_of_isDigit {digit : Char} (decimal : digit.isDigit) :
    48 ≤ digit.toNat ∧ digit.toNat ≤ 57 := by
  simpa [Char.isDigit, UInt32.le_iff_toNat_le] using decimal

theorem isBlank_of_isDigit {digit : Char} (decimal : digit.isDigit) : isBlank digit = false := by
  have bounds := toNat_of_isDigit decimal
  simp only [isBlank, Bool.or_eq_false_iff, Bool.and_eq_false_imp, decide_eq_true_eq,
    decide_eq_false_iff_not, beq_eq_false_iff_ne]
  omega

theorem toLower_of_isDigit {digit : Char} (decimal : digit.isDigit) : digit.toLower = digit := by
  have bounds := toNat_of_isDigit decimal
  refine dif_neg ?_
  rintro ⟨letter, -⟩
  have above : 'A'.toNat ≤ digit.toNat := letter
  have first : 'A'.toNat = 65 := rfl
  omega

end Text

namespace Decimal

theorem exists_digits_eq_cons (value : ℕ) :
    ∃ digit rest, digits value = digit :: rest ∧ digit.isDigit := by
  have nonempty : digits value ≠ [] := Nat.toDigits_ne_nil
  obtain ⟨digit, rest, same⟩ := List.exists_cons_of_ne_nil nonempty
  have first : digit ∈ digits value := by
    rw [same]
    exact List.mem_cons_self
  exact ⟨digit, rest, same, isDigit_of_mem_digits first⟩

theorem toList_integer (value : ℤ) :
    (integer value).toList =
      if value < 0 then '-' :: digits value.natAbs else digits value.natAbs := by
  cases value with
  | ofNat value => simp [integer, natural]
  | negSucc value => simp [integer, natural]

theorem Numeral.read_digits (value : ℕ) : read (digits value) = some ⟨digits value, [], 0⟩ := by
  have whole : (digits value).takeWhile Char.isDigit = digits value :=
    List.takeWhile_eq_self_iff.mpr fun digit inside => isDigit_of_mem_digits inside
  have none : (digits value).dropWhile Char.isDigit = [] :=
    List.dropWhile_eq_nil_iff.mpr fun digit inside => isDigit_of_mem_digits inside
  have nonempty : (digits value).isEmpty = false :=
    List.isEmpty_eq_false_iff.mpr Nat.toDigits_ne_nil
  unfold read
  rw [whole, none]
  simp [nonempty]

/-- The names of numbers start with letters. -/
theorem readName_of_isDigit {digit : Char} (decimal : digit.isDigit) (rest : List Char) :
    readName (digit :: rest) = none := by
  have other : ∀ name : String, name.toList.head? ≠ some digit →
      (String.ofList ((digit :: rest).map Char.toLower) == name) = false := by
    intro name different
    rw [beq_eq_false_iff_ne]
    rintro rfl
    apply different
    rw [String.toList_ofList, List.map_cons, Text.toLower_of_isDigit decimal, List.head?_cons]
  have letter : ∀ first : Char, first.isDigit = false → some first ≠ some digit := by
    rintro _ notDigit ⟨rfl⟩
    exact absurd decimal (Bool.eq_false_iff.mp notDigit)
  unfold readName
  dsimp only
  rw [other "inf" (letter 'i' rfl), other "infinity" (letter 'i' rfl), other "nan" (letter 'n' rfl)]
  rfl

theorem readFloat_of_isDigit {digit : Char} (decimal : digit.isDigit) (rest : List Char) :
    readFloat (digit :: rest) = (Numeral.read (digit :: rest)).map Numeral.toFloat := by
  have magnitude : readFloat (digit :: rest) = readMagnitude (digit :: rest) := by
    unfold readFloat
    split
    · next same =>
      obtain ⟨rfl, -⟩ := List.cons.inj same
      cases decimal
    · next same =>
      obtain ⟨rfl, -⟩ := List.cons.inj same
      cases decimal
    · rfl
  rw [magnitude, readMagnitude, readName_of_isDigit decimal]

theorem Numeral.toFloat_digits {value : ℕ} (positive : 0 < value) :
    toFloat ⟨digits value, [], 0⟩ = Float.ofNat value := by
  have same : ofDigits (digits value) = value := Nat.ofDigitChars_ten_toDigits
  unfold toFloat
  dsimp only
  rw [List.append_nil, same, if_neg (by simp [positive.ne']), if_neg (by decide),
    if_neg (by decide)]
  rfl

theorem readFloat_digits {value : ℕ} (positive : 0 < value) :
    readFloat (digits value) = some (Float.ofNat value) := by
  obtain ⟨digit, rest, same, decimal⟩ := exists_digits_eq_cons value
  rw [same, readFloat_of_isDigit decimal, ← same, Numeral.read_digits, Option.map_some,
    Numeral.toFloat_digits positive]

end Decimal

namespace Elapsed

/-- A count that needs no rounding is read back from its numeral. -/
theorem ofArgument_natural {count : ℕ} (positive : 0 < count) (small : count ≤ 2 ^ 53) :
    (ofArgument (Decimal.natural count)).isFinite ∧
      rational (ofArgument (Decimal.natural count)) = count := by
  have finite : (Float.ofNat count).isFinite :=
    isFinite_ofNat (small.trans (by decide))
  have trimmed : Text.trim Text.isBlank (Decimal.digits count) = Decimal.digits count := by
    have kept : ∀ digit ∈ Decimal.digits count, Text.isBlank digit = false :=
      fun digit inside => Text.isBlank_of_isDigit (Decimal.isDigit_of_mem_digits inside)
    exact Text.trim_eq_self (fun digit first => kept digit (List.mem_of_head? first))
      (fun digit last => kept digit (List.mem_of_getLast? last))
  have read : ofArgument (Decimal.natural count) = Float.ofNat count := by
    unfold ofArgument Decimal.natural
    rw [String.toList_ofList, trimmed, Decimal.readFloat_digits positive]
    exact if_pos finite
  rw [read, rational_ofNat finite, nearest_natCast small]
  exact ⟨finite, rfl⟩

end Elapsed

end ArrivalRamp
