import ArrivalRamp.Calendar.Timestamp
import Mathlib.Tactic

/-!
Timestamps are instants of the range. The year of a timestamp has no sign, so that it lies long
after the least instant.
-/

namespace ArrivalRamp

/-- A chain of steps succeeds when its first step and the steps after it do. -/
theorem bind_eq_ok_iff {Fault First Second : Type} {first : Except Fault First}
    {next : First → Except Fault Second} {result : Second} :
    first >>= next = .ok result ↔ ∃ value, first = .ok value ∧ next value = .ok result := by
  cases first <;> simp [bind, Except.bind]

/-- A test that may stop a chain of steps lets it go on when nothing is found. -/
theorem test_eq_ok_iff {Fault Unused Value : Type} {found : Prop} [Decidable found] {fault : Fault}
    {skipped : Unused → Except Fault Value} {next : Except Fault Value} {result : Value} :
    (if found then throw fault >>= skipped else next) = .ok result ↔
      ¬found ∧ next = .ok result := by
  by_cases holds : found <;> simp [holds, throw, throwThe, MonadExceptOf.throw, bind, Except.bind]

/-- No date of a year without a sign lies more than two thousand years before 1970. -/
theorem Date.toDays_ge {date : Date} (valid : date.isValid) (unsigned : 0 ≤ date.year) :
    -730000 ≤ date.toDays := by
  simp only [isValid, Bool.and_eq_true, decide_eq_true_eq] at valid
  unfold toDays
  dsimp only
  split_ifs <;> omega

namespace Timestamp

theorem readDate_spec {text rest : List Char} {date : Date}
    (read : readDate text = .ok (date, rest)) : date.isValid ∧ 0 ≤ date.year := by
  simp only [readDate, bind_eq_ok_iff] at read
  obtain ⟨_, -, _, -, _, -, _, -, _, -, _, -, found⟩ := read
  split at found
  · next valid =>
    obtain ⟨rfl, -⟩ := Prod.mk.inj (Except.ok.inj found)
    refine ⟨valid, ?_⟩
    dsimp only
    omega
  · cases found

theorem minInstant_le_of_read {text : List Char} {instant : ℤ}
    (read : Timestamp.read text = .ok instant) : Word.minInstant ≤ instant := by
  unfold Timestamp.read at read
  split at read
  · cases read
  simp only [bind_eq_ok_iff, test_eq_ok_iff] at read
  obtain ⟨⟨date, _⟩, dateRead, _, -, ⟨hour, _⟩, -, _, -, ⟨minute, _⟩, -, _, -, ⟨second, _⟩, -,
    ⟨millis, _⟩, -, -, ⟨ahead, _⟩, -, -, within, same⟩ := read
  obtain ⟨valid, unsigned⟩ := readDate_spec dateRead
  have days := Date.toDays_ge valid unsigned
  obtain rfl := Except.ok.inj same
  unfold dayMillis Word.minInstant
  dsimp only at *
  omega

end Timestamp

end ArrivalRamp
