import ArrivalRamp.Proofs.Binary64.Operations
import ArrivalRamp.Proofs.Binary64.Whole
import ArrivalRamp.Proofs.Profile.Starts

/-!
The length of a run. A usable report gives it in whole milliseconds, and it is negative only where
the length in its place does not fit in an instant.
-/

namespace ArrivalRamp.RunWindow

open Binary64

theorem reportedMillis?_nonneg {reported : Float} {millis : ℤ}
    (usable : reportedMillis? reported = some millis) : 0 ≤ millis := by
  unfold reportedMillis? at usable
  split at usable
  · split at usable
    · obtain rfl := Option.some.inj usable
      unfold Word.maxInstant
      omega
    · cases usable
  · cases usable

/-- A report is rounded to whole milliseconds, halves upward, as far as an instant can hold them. -/
theorem reportedMillis?_of_pos {reported : Float} (finite : reported.isFinite)
    (positive : 0 < rational reported) :
    reportedMillis? reported =
      some (min (⌊rational reported + 1 / 2⌋₊ : ℤ) Word.maxInstant) := by
  have above : 0.0 < reported := by
    rwa [rational_lt_iff isFinite_zero finite, rational_zero]
  rw [rational_eq] at positive ⊢
  rcases eq_zero_or_positive finite positive.le with
    ⟨sign, zero⟩ | ⟨significand, exponent, nonzero, same⟩
  · rw [zero] at positive
    exact absurd positive (lt_irrefl 0)
  · have decoded : ofFloat reported = .finite false significand exponent := by
      unfold ofFloat
      rw [same]
    rw [same, partsValue_positive, ← roundMagnitude_eq]
    unfold reportedMillis?
    simp [finite, above, decoded]

theorem reportedMillis?_of_not_pos {reported : Float} (finite : reported.isFinite)
    (notPositive : ¬0 < rational reported) : reportedMillis? reported = none := by
  have notAbove : ¬0.0 < reported := by
    rwa [rational_lt_iff isFinite_zero finite, rational_zero]
  unfold reportedMillis?
  simp [notAbove]

theorem ofStop_eq {reported : Option Float} {fallback : ℕ} {length : ℤ} (stop : ℤ)
    (same : (reported.bind reportedMillis?).getD (Word.signed fallback) = length) :
    ofStop stop reported fallback = ⟨Word.clampInstant (stop - length), stop⟩ := by
  subst same
  rfl

/-- Without a report, the length in its place counts. -/
theorem ofStop_none (stop : ℤ) (fallback : ℕ) :
    ofStop stop none fallback = ⟨Word.clampInstant (stop - Word.signed fallback), stop⟩ :=
  ofStop_eq stop (by rw [Option.bind_none, Option.getD_none])

/-- The length that a window is made of is not negative when the one in place of a report fits. -/
theorem length_nonneg {reported : Option Float} {fallback : ℕ}
    (fits : (fallback : ℤ) ≤ Word.maxInstant) :
    0 ≤ (reported.bind reportedMillis?).getD (Word.signed fallback) := by
  cases usable : reported.bind reportedMillis? with
  | none =>
      rw [Option.getD_none, Word.signed_of_le fits]
      exact fallback.cast_nonneg
  | some millis =>
      obtain ⟨number, -, rounded⟩ := Option.bind_eq_some_iff.mp usable
      exact reportedMillis?_nonneg rounded

/-- A run does not start after its end when the length in place of a report fits. -/
theorem ofStop_start_le {stop : ℤ} {reported : Option Float} {fallback : ℕ}
    (fits : (fallback : ℤ) ≤ Word.maxInstant) (low : Word.minInstant ≤ stop) :
    (ofStop stop reported fallback).start ≤ stop :=
  Word.clampInstant_le (sub_le_self stop (length_nonneg fits)) low

end ArrivalRamp.RunWindow
