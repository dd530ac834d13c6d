import ArrivalRamp.Proofs.Duration.Millis
import ArrivalRamp.Proofs.Profile.Projection
import ArrivalRamp.Proofs.Profile.StageAt

/-!
The stages that were active in a run and those that its records call reached. The window of a run
has its length in the nearest whole milliseconds, so a stage that only the last half of a
millisecond belongs to is active and is not reached.
-/

namespace ArrivalRamp

/-- The length of a run in whole milliseconds: those nearest to a measured time, and the length in
its place where no time was measured. -/
def Span.lengthOr (elapsed : Span) (fallback : ℕ) : ℕ :=
  if elapsed.nanos = 0 then fallback else (elapsed.nanos + 500000) / 1000000

namespace Span

variable {elapsed : Span} {fallback : ℕ}

theorem lengthOr_of_eq_zero (none : elapsed.nanos = 0) : elapsed.lengthOr fallback = fallback :=
  if_pos none

theorem lengthOr_of_ne_zero (some : elapsed.nanos ≠ 0) :
    elapsed.lengthOr fallback = (elapsed.nanos + 500000) / 1000000 :=
  if_neg some

end Span

/-- A window takes the length of a run from its measured time, and the run starts at an instant of
the range. -/
theorem RunWindow.ofStop_toMillis {elapsed : Span} (brief : elapsed.nanos < 2 ^ 34 * 1000000)
    {fallback : ℕ} (fits : (fallback : ℤ) ≤ Word.maxInstant) (stop : ℤ) :
    ofStop stop (some elapsed.toMillis) fallback =
      ⟨Word.clampInstant (stop - elapsed.lengthOr fallback), stop⟩ := by
  have finite := (Span.rational_toMillis (Span.lt_of_short brief)).1
  have positive := Span.rational_toMillis_pos_iff brief
  apply ofStop_eq
  rw [Option.bind_some]
  by_cases none : elapsed.nanos = 0
  · rw [reportedMillis?_of_not_pos finite (mt positive.mp (by omega)), Span.lengthOr_of_eq_zero none,
      Option.getD_none, Word.signed_of_le fits]
  · rw [Span.lengthOr_of_ne_zero none,
      reportedMillis?_of_pos finite (positive.mpr (Nat.pos_of_ne_zero none)),
      Span.floor_toMillis brief, Option.getD_some]
    unfold Word.maxInstant
    omega

namespace Profile

variable (profile : Profile) {instant elapsed : Span} {stop : ℤ} {index : ℕ}

/-- A stage is active after a span that its exact ends enclose. -/
theorem stageAfter?_eq_some_iff (short : profile.total < 2 ^ 34)
    (brief : instant.nanos < 2 ^ 34 * 1000000) :
    profile.stageAfter? instant = some index ↔
      index < profile.size ∧ profile.elapsedAfter index * 1000000 ≤ instant.nanos ∧
        instant.nanos < profile.elapsedAfter (index + 1) * 1000000 := by
  have finite := (Span.rational_toMillis (Span.lt_of_short brief)).1
  unfold stageAfter?
  rw [stageAt?_eq_some_iff, and_iff_right finite]
  apply and_congr_right
  intro inside
  have starts := profile.elapsedAfter_le_total inside.le
  have ends : profile.elapsedAfter (index + 1) ≤ profile.total :=
    profile.elapsedAfter_le_total inside
  have running : instant.toMillis < Word.toFloat (profile.elapsedAfter (index + 1)) ↔
      ¬Word.toFloat (profile.elapsedAfter (index + 1)) ≤ instant.toMillis := by
    rw [← Binary64.not_lt_toFloat_iff finite (profile.elapsedAfter_le _), not_not]
  rw [running, Span.toFloat_le_toMillis_iff brief (by omega),
    Span.toFloat_le_toMillis_iff brief (by omega), not_le]

/-- The record of a stage is reached when the stage starts before the length of the run, unless the
run would have started before the range of the instants: then it starts with the range. -/
theorem reached_due_iff (fits : (profile.total : ℤ) ≤ Word.maxInstant)
    (brief : elapsed.nanos < 2 ^ 34 * 1000000) (low : Word.minInstant ≤ stop)
    (high : stop ≤ Word.maxInstant) (inside : index < profile.size) :
    ∃ record,
      (profile.records (.ofStop stop (some elapsed.toMillis) profile.total))[index]? =
          some record ∧
        record.stage = index ∧
        (record.reached ↔ profile.elapsedAfter index < elapsed.lengthOr profile.total ∧
          Word.minInstant + profile.elapsedAfter index < stop) := by
  rw [RunWindow.ofStop_toMillis brief fits]
  -- The due instant of a late stage can lie beyond the range, and it stays after the end of the run.
  obtain ⟨record, found, stage, due⟩ := profile.getElem?_records fits
    ⟨Word.clampInstant (stop - elapsed.lengthOr profile.total), stop⟩
    (Array.getElem?_eq_getElem inside)
  refine ⟨record, found, stage, ?_⟩
  rw [profile.reached_iff (List.mem_of_getElem? found), due]
  unfold Word.clampInstant
  dsimp only
  omega

/-- The record of a stage is reached when the stage starts before the length of the run. -/
theorem reached_ofStop_iff (short : profile.total < 2 ^ 34)
    (brief : elapsed.nanos < 2 ^ 34 * 1000000) (low : Word.minInstant + 2 ^ 34 ≤ stop)
    (high : stop ≤ Word.maxInstant) (inside : index < profile.size) :
    ∃ record,
      (profile.records (.ofStop stop (some elapsed.toMillis) profile.total))[index]? =
          some record ∧
        record.stage = index ∧
        (record.reached ↔ profile.elapsedAfter index < elapsed.lengthOr profile.total) := by
  have fits : (profile.total : ℤ) ≤ Word.maxInstant := by
    unfold Word.maxInstant
    omega
  obtain ⟨record, found, stage, reached⟩ :=
    profile.reached_due_iff fits brief (by omega) high inside
  have before : profile.elapsedAfter index ≤ profile.total :=
    profile.elapsedAfter_le_total inside.le
  refine ⟨record, found, stage, reached.trans (and_iff_left ?_)⟩
  omega

/-- The record of a stage that was active during a run is reached unless the run ended less than half
a millisecond after the stage started. A run that took no time has the length of its profile, so the
stage that is active then is reached. -/
theorem reached_active_iff (profile : Profile) {instant elapsed : Span} {stop : ℤ} {index : ℕ}
    (short : profile.total < 2 ^ 34) (brief : elapsed.nanos < 2 ^ 34 * 1000000)
    (within : instant.nanos ≤ elapsed.nanos) (low : Word.minInstant + 2 ^ 34 ≤ stop)
    (high : stop ≤ Word.maxInstant) (active : profile.stageAfter? instant = some index) :
    ∃ offset record, profile.startOffset? index = some offset ∧
      offset * 1000000 ≤ instant.nanos ∧
      (profile.records (.ofStop stop (some elapsed.toMillis) profile.total))[index]? =
        some record ∧
      record.stage = index ∧
      (record.reached ↔ elapsed.nanos = 0 ∨ offset * 1000000 + 500000 ≤ elapsed.nanos) := by
  obtain ⟨inside, started, running⟩ :=
    (profile.stageAfter?_eq_some_iff short (within.trans_lt brief)).mp active
  obtain ⟨record, found, stage, reached⟩ :=
    profile.reached_ofStop_iff short brief low high inside
  refine ⟨_, record, profile.startOffset?_eq inside, started, found, stage, ?_⟩
  rw [reached]
  by_cases none : elapsed.nanos = 0
  · have ends : profile.elapsedAfter (index + 1) ≤ profile.total :=
      profile.elapsedAfter_le_total inside
    rw [Span.lengthOr_of_eq_zero none]
    omega
  · rw [Span.lengthOr_of_ne_zero none]
    omega

theorem reached_active_twoStages :
    (twoStages.total < 2 ^ 34 ∧ 4500000000 < 2 ^ 34 * 1000000 ∧ 4000000000 ≤ 4500000000 ∧
      Word.minInstant + 2 ^ 34 ≤ 1767225600000 ∧ 1767225600000 ≤ Word.maxInstant ∧
      twoStages.stageAfter? ⟨4000000000⟩ = some 1) ∧
      ∃ record : StageRecord,
        (twoStages.records (.ofStop 1767225600000 (some (Span.toMillis ⟨4500000000⟩))
          twoStages.total))[1]? = some record ∧
        record.stage = 1 ∧ record.reached = true := by
  have short : twoStages.total < 2 ^ 34 := total_twoStages ▸ by decide
  have brief : (⟨4500000000⟩ : Span).nanos < 2 ^ 34 * 1000000 := by decide
  have within : (⟨4000000000⟩ : Span).nanos ≤ (⟨4500000000⟩ : Span).nanos := by decide
  have low : Word.minInstant + 2 ^ 34 ≤ 1767225600000 := by decide
  have high : 1767225600000 ≤ Word.maxInstant := by decide
  have active : twoStages.stageAfter? ⟨4000000000⟩ = some 1 := by
    rw [stageAfter?_eq_some_iff twoStages short (by decide)]
    decide
  have start : twoStages.startOffset? 1 = some 3000 := by decide
  obtain ⟨offset, record, started, -, found, stage, reached⟩ :=
    reached_active_iff twoStages short brief within low high active
  obtain rfl : 3000 = offset := Option.some.inj (start.symm.trans started)
  exact ⟨⟨short, brief, within, low, high, active⟩, record, found, stage,
    reached.mpr (.inr (by decide))⟩

/-- When a run ends a quarter of a millisecond after its second stage has started, the second stage
is active and its record is not reached. -/
theorem not_reached_twoStages :
    (twoStages.total < 2 ^ 34 ∧ 3000250000 < 2 ^ 34 * 1000000 ∧
      Word.minInstant + 2 ^ 34 ≤ 1767225600000 ∧ 1767225600000 ≤ Word.maxInstant ∧
      twoStages.stageAfter? ⟨3000250000⟩ = some 1) ∧
      ∃ record : StageRecord,
        (twoStages.records (.ofStop 1767225600000 (some (Span.toMillis ⟨3000250000⟩))
          twoStages.total))[1]? = some record ∧
        record.stage = 1 ∧ record.reached = false := by
  have short : twoStages.total < 2 ^ 34 := total_twoStages ▸ by decide
  have brief : (⟨3000250000⟩ : Span).nanos < 2 ^ 34 * 1000000 := by decide
  have low : Word.minInstant + 2 ^ 34 ≤ 1767225600000 := by decide
  have high : 1767225600000 ≤ Word.maxInstant := by decide
  have active : twoStages.stageAfter? ⟨3000250000⟩ = some 1 := by
    rw [stageAfter?_eq_some_iff twoStages short brief]
    decide
  obtain ⟨record, found, stage, reached⟩ :=
    twoStages.reached_ofStop_iff short brief low high (show 1 < twoStages.size by decide)
  refine ⟨⟨short, brief, low, high, active⟩, record, found, stage, ?_⟩
  rw [← Bool.not_eq_true, reached]
  decide

end Profile

end ArrivalRamp
