import ArrivalRamp.Profile.Listing
import ArrivalRamp.Proofs.Profile.StageAt
import ArrivalRamp.Proofs.Profile.Starts

/-!
Where a stage starts. It starts at the end of the stage before it, and the listing and the instants of
a run count back from its own end. Both give one number exactly as long as the sum of the lengths has
not stopped at the greatest count.
-/

namespace ArrivalRamp

theorem getElem?_fromIndex (first : ℕ) (pairs : List (Stage × ℕ)) (index : ℕ) :
    (StageRow.fromIndex first pairs)[index]? = pairs[index]?.map fun pair =>
      ⟨first + index, pair.1.target, pair.1.token, pair.1.millis, pair.2 - pair.1.millis,
        pair.2⟩ := by
  induction pairs generalizing first index with
  | nil => rfl
  | cons pair pairs ih =>
      cases index with
      | zero => rfl
      | succ index =>
          have position : first + (index + 1) = first + 1 + index := by omega
          rw [position]
          exact ih (first + 1) index

namespace Profile

variable (profile : Profile) {index : ℕ} {stage : Stage}

/-- The end of the stage before a stage, and the start of the profile before its first one. -/
def boundaryBefore? : ℕ → Option ℕ
  | 0 => some 0
  | previous + 1 => profile.boundary? previous

/-- A stage is placed at an elapsed time: its start and the end of the stage before it stand there,
the listing shows it there, a run is due to start it so much later than itself, and the rate moves
from there. -/
structure IsPlacedAt (index : ℕ) (stage : Stage) (offset : ℕ) : Prop where
  start : profile.startOffset? index = some offset
  follows : profile.boundaryBefore? index = some offset
  listed : profile.rows[index]?.map StageRow.start = some offset
  due : (offset : ℤ) ≤ Word.maxInstant → ∀ runStart,
    (profile.starts runStart)[index]?.map StageStart.instant =
      some (Word.clampInstant (runStart + offset))
  ramps : ∀ startRate elapsed, profile.stageAt? elapsed = some index →
    profile.rateAt? startRate elapsed =
      some (rateBetween (Word.toFloat (profile.rateBefore startRate index))
        (Word.toFloat stage.target) (Word.toFloat stage.millis) (Word.toFloat offset) elapsed)

section Found

variable (found : profile.stages[index]? = some stage)

include found

/-- The listing counts back from the end of a stage. -/
theorem getElem?_rows :
    profile.rows[index]? = some
      ⟨index, stage.target, stage.token, stage.millis,
        profile.elapsedAfter (index + 1) - stage.millis, profile.elapsedAfter (index + 1)⟩ := by
  unfold rows
  rw [getElem?_fromIndex, profile.getElem?_zip_boundaries found, Option.map_some, Nat.zero_add]

theorem boundaryBefore?_eq : profile.boundaryBefore? index = some (profile.elapsedAfter index) := by
  obtain ⟨inside, -⟩ := Array.getElem?_eq_some_iff.mp found
  cases index with
  | zero => rw [boundaryBefore?, elapsedAfter_zero]
  | succ previous =>
      have before : previous < profile.size := Nat.lt_of_succ_lt inside
      exact profile.boundary?_eq before

theorem rateAt?_eq {elapsed : Float} (active : profile.stageAt? elapsed = some index)
    (startRate : ℕ) :
    profile.rateAt? startRate elapsed =
      some (rateBetween (Word.toFloat (profile.rateBefore startRate index))
        (Word.toFloat stage.target) (Word.toFloat stage.millis)
        (Word.toFloat (profile.elapsedAfter index)) elapsed) := by
  obtain ⟨inside, -⟩ := Array.getElem?_eq_some_iff.mp found
  simp [rateAt?, active, found, profile.startOffset?_eq inside]

/-- A stage is not longer than the time until its end. -/
theorem millis_le_elapsedAfter : stage.millis ≤ profile.elapsedAfter (index + 1) := by
  have word := stage.millis_le
  rw [profile.elapsedAfter_succ found]
  unfold Word.addCount
  omega

/-- Counting back from the end of a stage finds its start as long as the sum has not stopped. -/
theorem elapsedAfter_sub_millis_eq_iff :
    profile.elapsedAfter (index + 1) - stage.millis = profile.elapsedAfter index ↔
      profile.elapsedAfter index + stage.millis ≤ Word.maxCount := by
  have word := stage.millis_le
  rw [profile.elapsedAfter_succ found]
  unfold Word.addCount
  omega

theorem isPlacedAt_elapsedAfter
    (exact : profile.elapsedAfter index + stage.millis ≤ Word.maxCount) :
    profile.IsPlacedAt index stage (profile.elapsedAfter index) := by
  obtain ⟨inside, -⟩ := Array.getElem?_eq_some_iff.mp found
  have back := (profile.elapsedAfter_sub_millis_eq_iff found).mpr exact
  refine ⟨profile.startOffset?_eq inside, profile.boundaryBefore?_eq found, ?_, ?_, ?_⟩
  · rw [profile.getElem?_rows found, Option.map_some, back]
  · intro fits runStart
    rw [profile.getElem?_starts_eq found, Option.map_some, back, Word.signed_of_le fits]
  · intro startRate elapsed active
    exact profile.rateAt?_eq found active startRate

end Found

/-- A stage starts at the end of the stage before it, and its row in the listing ends at its end and
is as long as it is. It is placed at its start exactly as long as the sum of the lengths has not
stopped at the greatest count. -/
theorem isPlacedAt_iff (profile : Profile) {index : ℕ} {stage : Stage}
    (found : profile.stages[index]? = some stage) :
    ∃ row offset, profile.rows[index]? = some row ∧ profile.boundary? index = some row.boundary ∧
      row.start + stage.millis = row.boundary ∧
      profile.startOffset? index = some offset ∧ profile.boundaryBefore? index = some offset ∧
      (profile.IsPlacedAt index stage offset ↔ offset + stage.millis ≤ Word.maxCount) := by
  obtain ⟨inside, -⟩ := Array.getElem?_eq_some_iff.mp found
  have row := profile.getElem?_rows found
  refine ⟨_, profile.elapsedAfter index, row, profile.boundary?_eq inside,
    Nat.sub_add_cancel (profile.millis_le_elapsedAfter found), profile.startOffset?_eq inside,
    profile.boundaryBefore?_eq found, ?_, profile.isPlacedAt_elapsedAfter found⟩
  intro placed
  have listed := placed.listed
  rw [row, Option.map_some, Option.some.injEq] at listed
  exact (profile.elapsedAfter_sub_millis_eq_iff found).mp listed

/-- A profile whose first stage takes all that a count can hold, and whose second stage takes a
millisecond more. -/
def fullest : Profile :=
  ofPairs [(1, "18446744073709551615ms"), (2, "1ms")]

/-- The first stage is placed at the start, and its end is the greatest count. -/
theorem isPlacedAt_fullest :
    fullest.stages[0]? = some ⟨1, "18446744073709551615ms"⟩ ∧
      fullest.boundary? 0 = some Word.maxCount ∧
      fullest.IsPlacedAt 0 ⟨1, "18446744073709551615ms"⟩ 0 := by
  have found : fullest.stages[0]? = some ⟨1, "18446744073709551615ms"⟩ := rfl
  obtain ⟨_, _, -, -, -, start, -, placed⟩ := isPlacedAt_iff fullest found
  obtain rfl : 0 = _ := Option.some.inj start
  exact ⟨found, by decide +kernel, placed.mpr (by decide +kernel)⟩

/-- The second stage starts at the end of the first one, and the listing shows it a millisecond
earlier. -/
theorem not_isPlacedAt_fullest :
    fullest.startOffset? 1 = some 18446744073709551615 ∧
      fullest.boundary? 0 = some 18446744073709551615 ∧
      fullest.rows[1]?.map StageRow.start = some 18446744073709551614 ∧
      ∀ stage offset, ¬fullest.IsPlacedAt 1 stage offset := by
  have start : fullest.startOffset? 1 = some 18446744073709551615 := by decide +kernel
  have listed : fullest.rows[1]?.map StageRow.start = some 18446744073709551614 := by
    decide +kernel
  refine ⟨start, by decide +kernel, listed, ?_⟩
  intro stage offset placed
  have late : offset = 18446744073709551615 := Option.some.inj (placed.start.symm.trans start)
  have early : offset = 18446744073709551614 := Option.some.inj (placed.listed.symm.trans listed)
  omega

end Profile

end ArrivalRamp
