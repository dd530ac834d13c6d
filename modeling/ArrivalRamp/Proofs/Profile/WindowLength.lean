import ArrivalRamp.Proofs.Profile.RunWindow

/-!
The length of a window. Whatever the end of a run is and whatever was reported of it, the length is
one that an instant can hold. It is the reported length, or the one in place of a report, as far as
instants go back from the end.
-/

namespace ArrivalRamp

namespace Word

/-- A signed word is an instant. -/
theorem signed_mem (count : ℕ) : minInstant ≤ signed count ∧ signed count ≤ maxInstant := by
  have low := Int.le_bmod (x := count) (show 0 < size by decide)
  have high := Int.bmod_lt (x := count) (show 0 < size by decide)
  unfold signed minInstant maxInstant
  unfold size at *
  omega

/-- An instant less a length that an instant can hold is off by no more than that length when it is
moved into the range. -/
theorem sub_clampInstant_mem {instant length : ℤ} (low : minInstant ≤ instant)
    (high : instant ≤ maxInstant) (lengthLow : minInstant ≤ length)
    (lengthHigh : length ≤ maxInstant) :
    minInstant ≤ instant - clampInstant (instant - length) ∧
      instant - clampInstant (instant - length) ≤ maxInstant := by
  unfold clampInstant minInstant maxInstant at *
  omega

theorem sub_clampInstant_of_nonneg {instant length : ℤ} (low : minInstant ≤ instant)
    (high : instant ≤ maxInstant) (forward : 0 ≤ length) :
    instant - clampInstant (instant - length) = min length (instant - minInstant) := by
  unfold clampInstant
  omega

end Word

namespace RunWindow

open Binary64

/-- A report tells a length when it is finite and positive. -/
def IsUsable (reported : Float) : Prop :=
  reported.isFinite ∧ 0 < rational reported

instance (reported : Float) : Decidable (IsUsable reported) :=
  inferInstanceAs (Decidable (_ ∧ _))

/-- The length that a run is taken to have: that of a usable report in the nearest whole
milliseconds, halves upward, as far as an instant can hold them, and otherwise the one in its
place. -/
def takenLength (fallback : ℕ) : Option Float → ℤ
  | none => fallback
  | some reported =>
    if IsUsable reported then min ⌊rational reported + 1 / 2⌋₊ Word.maxInstant else fallback

theorem reportedMillis?_of_not_isUsable {reported : Float} (unusable : ¬IsUsable reported) :
    reportedMillis? reported = none := by
  by_cases finite : reported.isFinite
  · exact reportedMillis?_of_not_pos finite fun positive => unusable ⟨finite, positive⟩
  · unfold reportedMillis?
    simp [finite]

/-- A window is made of the length that the run is taken to have, when there is a usable report or
the length in its place fits in an instant. -/
theorem getD_reportedMillis? {reported : Option Float} {fallback : ℕ}
    (told : (∃ millis ∈ reported, IsUsable millis) ∨ (fallback : ℤ) ≤ Word.maxInstant) :
    (reported.bind reportedMillis?).getD (Word.signed fallback) =
      takenLength fallback reported := by
  cases reported with
  | none =>
      have fits : (fallback : ℤ) ≤ Word.maxInstant := by simpa using told
      rw [Option.bind_none, Option.getD_none, Word.signed_of_le fits, takenLength]
  | some millis =>
      rw [Option.bind_some, takenLength]
      by_cases usable : IsUsable millis
      · rw [if_pos usable, reportedMillis?_of_pos usable.1 usable.2, Option.getD_some]
      · have fits : (fallback : ℤ) ≤ Word.maxInstant := by simpa [usable] using told
        rw [if_neg usable, reportedMillis?_of_not_isUsable usable, Option.getD_none,
          Word.signed_of_le fits]

theorem takenLength_nonneg (fallback : ℕ) (reported : Option Float) :
    0 ≤ takenLength fallback reported := by
  unfold takenLength Word.maxInstant
  split
  · exact fallback.cast_nonneg
  · split_ifs
    · omega
    · exact fallback.cast_nonneg

/-- The length that a window is made of is one that an instant can hold. -/
theorem getD_reportedMillis?_mem (reported : Option Float) (fallback : ℕ) :
    Word.minInstant ≤ (reported.bind reportedMillis?).getD (Word.signed fallback) ∧
      (reported.bind reportedMillis?).getD (Word.signed fallback) ≤ Word.maxInstant := by
  by_cases told : ∃ millis ∈ reported, IsUsable millis
  · obtain ⟨millis, rfl, usable⟩ := told
    rw [Option.bind_some, reportedMillis?_of_pos usable.1 usable.2, Option.getD_some]
    unfold Word.minInstant Word.maxInstant
    omega
  · have silent : reported.bind reportedMillis? = none := by
      rw [Option.bind_eq_none_iff]
      intro millis inside
      exact reportedMillis?_of_not_isUsable fun usable => told ⟨millis, inside, usable⟩
    rw [silent, Option.getD_none]
    exact Word.signed_mem fallback

/-- A window ends at its end, and its start and its length can be held by an instant. When a usable
report tells the length or the length in its place fits in an instant, the run does not start after
its end, and it lasts as long as it is taken to, or since the first instant. -/
theorem length_ofStop_mem (reported : Option Float) (fallback : ℕ) {stop : ℤ}
    (low : Word.minInstant ≤ stop) (high : stop ≤ Word.maxInstant) :
    let window := ofStop stop reported fallback
    window.stop = stop ∧
      (Word.minInstant ≤ window.start ∧ window.start ≤ Word.maxInstant) ∧
      (Word.minInstant ≤ window.length ∧ window.length ≤ Word.maxInstant) ∧
      ((∃ millis ∈ reported, IsUsable millis) ∨ (fallback : ℤ) ≤ Word.maxInstant →
        window.start ≤ stop ∧
          window.length = min (takenLength fallback reported) (stop - Word.minInstant)) := by
  intro window
  obtain ⟨lengthLow, lengthHigh⟩ := getD_reportedMillis?_mem reported fallback
  refine ⟨rfl, ⟨Word.minInstant_le_clampInstant _, Word.clampInstant_le_maxInstant _⟩,
    Word.sub_clampInstant_mem low high lengthLow lengthHigh, ?_⟩
  intro told
  have same : window = ⟨Word.clampInstant (stop - takenLength fallback reported), stop⟩ :=
    ofStop_eq stop (getD_reportedMillis? told)
  have forward := takenLength_nonneg fallback reported
  rw [same]
  exact ⟨Word.clampInstant_le (sub_le_self stop forward) low,
    Word.sub_clampInstant_of_nonneg low high forward⟩

/-- A run that is reported to have lasted longer than an instant can hold, and that ended before
1970. -/
theorem length_ofStop_mem_endless :
    (Word.minInstant ≤ -2 ∧ -2 ≤ Word.maxInstant ∧ IsUsable 1e300) ∧
      let window := ofStop (-2) (some 1e300) 5000
      window.stop = -2 ∧ window.start ≤ -2 ∧ window.length = 9223372036854775806 := by
  have low : Word.minInstant ≤ -2 := by decide
  have high : -2 ≤ Word.maxInstant := by decide
  have usable : IsUsable 1e300 := by decide +kernel
  have taken : takenLength 5000 (some 1e300) = Word.maxInstant := by decide +kernel
  obtain ⟨stop, -, -, told⟩ := length_ofStop_mem (some 1e300) 5000 low high
  obtain ⟨forward, length⟩ := told (.inl ⟨1e300, rfl, usable⟩)
  rw [taken] at length
  exact ⟨⟨low, high, usable⟩, stop, forward, length⟩

end RunWindow

end ArrivalRamp
