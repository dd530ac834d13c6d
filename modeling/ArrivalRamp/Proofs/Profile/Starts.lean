import ArrivalRamp.Profile.RunWindow
import ArrivalRamp.Proofs.Profile.Boundaries

/-!
The instants at which the stages of a run are due. As long as the whole profile fits in an instant,
a stage is due when the stages before it have elapsed, and instants stop at the ends of their range.
-/

namespace ArrivalRamp

namespace Word

theorem clampInstant_mono : Monotone clampInstant := by
  intro left right ordered
  unfold clampInstant
  omega

theorem clampInstant_le_maxInstant (value : ℤ) : clampInstant value ≤ maxInstant := by
  unfold clampInstant minInstant maxInstant
  omega

theorem minInstant_le_clampInstant (value : ℤ) : minInstant ≤ clampInstant value :=
  le_max_left _ _

/-- No instant of the range is passed by the move of an instant outside it. -/
theorem clampInstant_le {value limit : ℤ} (below : value ≤ limit) (low : minInstant ≤ limit) :
    clampInstant value ≤ limit := by
  unfold clampInstant
  omega

theorem le_clampInstant {value limit : ℤ} (above : limit ≤ value) (high : limit ≤ maxInstant) :
    limit ≤ clampInstant value := by
  unfold clampInstant
  omega

/-- A count beyond the greatest instant is negative when it is read as a signed word. -/
theorem signed_neg {count : ℕ} (great : maxInstant < count) (word : count ≤ maxCount) :
    signed count < 0 := by
  have wrapped : signed count = count - size := by
    unfold signed maxInstant maxCount size at *
    rw [Int.bmod_def]
    omega
  rw [wrapped]
  unfold maxCount size at *
  omega

end Word

@[simp]
theorem length_stageStarts (runStart : ℤ) (first : ℕ) (pairs : List (Stage × ℕ)) :
    (stageStarts runStart first pairs).length = pairs.length := by
  induction pairs generalizing first with
  | nil => rfl
  | cons pair pairs ih => exact congrArg (· + 1) (ih (first + 1))

theorem getElem?_stageStarts (runStart : ℤ) (first : ℕ) (pairs : List (Stage × ℕ)) (index : ℕ) :
    (stageStarts runStart first pairs)[index]? = pairs[index]?.map fun pair =>
      ⟨first + index, pair.1.target,
        Word.clampInstant (runStart + Word.signed (pair.2 - pair.1.millis))⟩ := by
  induction pairs generalizing first index with
  | nil => rfl
  | cons pair pairs ih =>
      cases index with
      | zero => rfl
      | succ index =>
          have position : first + (index + 1) = first + 1 + index := by omega
          rw [position]
          exact ih (first + 1) index

namespace Profile

variable (profile : Profile) {runStart : ℤ}

/-- There is one row for each stage. -/
@[simp]
theorem length_starts : (profile.starts runStart).length = profile.size := by
  simp [starts, size]

theorem lt_size_of_getElem?_starts {index : ℕ} {row : StageStart}
    (found : (profile.starts runStart)[index]? = some row) : index < profile.size := by
  obtain ⟨inside, -⟩ := List.getElem?_eq_some_iff.mp found
  rwa [length_starts] at inside

theorem instant_mem_of_mem_starts {row : StageStart} (inside : row ∈ profile.starts runStart) :
    Word.minInstant ≤ row.instant ∧ row.instant ≤ Word.maxInstant := by
  obtain ⟨index, found⟩ := List.mem_iff_getElem?.mp inside
  unfold starts at found
  rw [getElem?_stageStarts] at found
  obtain ⟨pair, -, rfl⟩ := Option.map_eq_some_iff.mp found
  exact ⟨Word.minInstant_le_clampInstant _, Word.clampInstant_le_maxInstant _⟩

section Found

variable {index : ℕ} {stage : Stage} (found : profile.stages[index]? = some stage)

include found

/-- A stage stands beside its end. -/
theorem getElem?_zip_boundaries :
    (profile.stages.toList.zip profile.boundaries.toList)[index]? =
      some (stage, profile.elapsedAfter (index + 1)) := by
  obtain ⟨inside, -⟩ := Array.getElem?_eq_some_iff.mp found
  rw [List.getElem?_zip_eq_some]
  simp only [Array.getElem?_toList]
  exact ⟨found, profile.boundary?_eq inside⟩

/-- The instants of a run count back from the end of a stage. -/
theorem getElem?_starts_eq (runStart : ℤ) :
    (profile.starts runStart)[index]? = some
      ⟨index, stage.target, Word.clampInstant
        (runStart + Word.signed (profile.elapsedAfter (index + 1) - stage.millis))⟩ := by
  unfold starts
  rw [getElem?_stageStarts, profile.getElem?_zip_boundaries found, Option.map_some, Nat.zero_add]

end Found

section Fits

variable (fits : profile.total ≤ Word.maxInstant)

include fits

/-- The row of a stage holds the instant at which the stages before it have elapsed. -/
theorem getElem?_starts_of_fits {index : ℕ} {stage : Stage}
    (found : profile.stages[index]? = some stage) :
    (profile.starts runStart)[index]? =
      some ⟨index, stage.target, Word.clampInstant (runStart + profile.elapsedAfter index)⟩ := by
  obtain ⟨inside, -⟩ := Array.getElem?_eq_some_iff.mp found
  have before : profile.elapsedAfter index ≤ profile.total :=
    profile.elapsedAfter_le_total (Nat.le_of_lt inside)
  have unsaturated : profile.total < Word.maxCount := by
    unfold Word.maxInstant Word.maxCount at *
    omega
  rw [profile.getElem?_starts_eq found, profile.elapsedAfter_add_millis unsaturated found,
    Nat.add_sub_cancel, Word.signed_of_le (by omega)]

theorem getElem?_starts_eq_some_of_fits {index : ℕ} {row : StageStart}
    (found : (profile.starts runStart)[index]? = some row) :
    row.stage = index ∧
      row.instant = Word.clampInstant (runStart + profile.elapsedAfter index) := by
  have inside := profile.lt_size_of_getElem?_starts found
  rw [profile.getElem?_starts_of_fits fits (Array.getElem?_eq_getElem inside)] at found
  obtain rfl := Option.some.inj found
  exact ⟨rfl, rfl⟩

end Fits

end Profile

end ArrivalRamp
