import ArrivalRamp.Profile.Basic
import Mathlib.Tactic

/-!
The ends of stages are sums of their lengths, as far as a count can hold them.
-/

namespace ArrivalRamp

theorem getElem?_boundariesFrom (start : ℕ) (stages : List Stage) {index : ℕ}
    (inside : index < stages.length) :
    (boundariesFrom start stages)[index]? =
      some (Word.addCount start ((stages.take (index + 1)).map Stage.millis).sum) := by
  induction stages generalizing start index with
  | nil => exact absurd inside (Nat.not_lt_zero index)
  | cons stage stages ih =>
      cases index with
      | zero => simp [boundariesFrom]
      | succ index =>
          have rest := ih (Word.addCount start stage.millis) (Nat.lt_of_succ_lt_succ inside)
          rw [Word.addCount_addCount] at rest
          simpa [boundariesFrom] using rest

namespace Profile

variable (profile : Profile)

/-- The elapsed time after some of the first stages. -/
def elapsedAfter (count : ℕ) : ℕ :=
  Word.addCount 0 ((profile.stages.toList.take count).map Stage.millis).sum

@[simp]
theorem elapsedAfter_zero : profile.elapsedAfter 0 = 0 := by
  simp [elapsedAfter, Word.addCount]

theorem elapsedAfter_le (count : ℕ) : profile.elapsedAfter count ≤ Word.maxCount :=
  Word.addCount_le _ _

/-- One more stage adds its length. -/
theorem elapsedAfter_succ {index : ℕ} {stage : Stage} (found : profile.stages[index]? = some stage) :
    profile.elapsedAfter (index + 1) =
      Word.addCount (profile.elapsedAfter index) stage.millis := by
  obtain ⟨inside, rfl⟩ := Array.getElem?_eq_some_iff.mp found
  have inList : index < profile.stages.toList.length := inside
  unfold elapsedAfter
  rw [Word.addCount_addCount, ← List.take_concat_get' _ _ inList, List.map_append, List.sum_append]
  simp

/-- The elapsed time does not decrease from stage to stage. -/
theorem elapsedAfter_mono : Monotone profile.elapsedAfter := by
  apply monotone_nat_of_le_succ
  intro index
  cases found : profile.stages[index]? with
  | some stage =>
      rw [profile.elapsedAfter_succ found]
      have word := profile.elapsedAfter_le index
      unfold Word.addCount
      omega
  | none =>
      have outside : profile.stages.toList.length ≤ index := Array.getElem?_eq_none_iff.mp found
      unfold elapsedAfter
      rw [List.take_of_length_le outside, List.take_of_length_le (by omega)]

/-- A stage ends when it and the stages before it have elapsed. -/
theorem boundary?_eq {index : ℕ} (inside : index < profile.size) :
    profile.boundary? index = some (profile.elapsedAfter (index + 1)) := by
  unfold boundary?
  rw [profile.boundaries_eq, List.getElem?_toArray]
  exact getElem?_boundariesFrom 0 profile.stages.toList inside

theorem boundary?_eq_none {index : ℕ} (outside : ¬index < profile.size) :
    profile.boundary? index = none := by
  unfold boundary?
  rw [Array.getElem?_eq_none_iff, size_boundaries]
  omega

theorem boundary?_eq_some_iff {index boundary : ℕ} :
    profile.boundary? index = some boundary ↔
      index < profile.size ∧ profile.elapsedAfter (index + 1) = boundary := by
  by_cases inside : index < profile.size
  · rw [profile.boundary?_eq inside, Option.some.injEq]
    exact ⟨fun same => ⟨inside, same⟩, fun same => same.2⟩
  · simp [profile.boundary?_eq_none inside, inside]

/-- A search of the ends finds the first one that is wanted. -/
theorem findIdx?_boundaries_eq_some_iff {wanted : ℕ → Bool} {index : ℕ} :
    profile.boundaries.findIdx? wanted = some index ↔
      (∃ boundary, profile.boundary? index = some boundary ∧ wanted boundary) ∧
        ∀ earlier < index, ∀ boundary, profile.boundary? earlier = some boundary →
          ¬wanted boundary := by
  rw [Array.findIdx?_eq_some_iff_getElem]
  constructor
  · rintro ⟨inside, holds, before⟩
    refine ⟨⟨_, Array.getElem?_eq_getElem inside, holds⟩, ?_⟩
    intro earlier below boundary found
    obtain ⟨-, rfl⟩ := Array.getElem?_eq_some_iff.mp found
    exact before earlier below
  · rintro ⟨⟨boundary, found, holds⟩, before⟩
    obtain ⟨inside, rfl⟩ := Array.getElem?_eq_some_iff.mp found
    exact ⟨inside, holds, fun earlier below => before earlier below _ (Array.getElem?_eq_getElem _)⟩

/-- A stage starts when the stages before it have elapsed. -/
theorem startOffset?_eq {index : ℕ} (inside : index < profile.size) :
    profile.startOffset? index = some (profile.elapsedAfter index) := by
  unfold startOffset?
  rw [if_neg (not_le.mpr inside)]
  cases index with
  | zero => rw [elapsedAfter_zero]
  | succ previous => exact profile.boundary?_eq (by omega)

/-- The whole profile ends when all stages have elapsed. -/
theorem total_eq : profile.total = profile.elapsedAfter profile.size := by
  unfold total
  rw [Array.back?_eq_getElem?, size_boundaries]
  change (profile.boundary? (profile.size - 1)).getD 0 = _
  rcases Nat.eq_zero_or_pos profile.size with empty | positive
  · rw [profile.boundary?_eq_none (by omega), empty, elapsedAfter_zero]
    rfl
  · rw [profile.boundary?_eq (by omega), Nat.sub_add_cancel positive]
    rfl

theorem total_le : profile.total ≤ Word.maxCount := by
  rw [total_eq]
  exact profile.elapsedAfter_le profile.size

theorem elapsedAfter_le_total {index : ℕ} (inside : index ≤ profile.size) :
    profile.elapsedAfter index ≤ profile.total := by
  rw [total_eq]
  exact profile.elapsedAfter_mono inside

/-- A profile whose end is below the greatest count has no sum that stops there. -/
theorem elapsedAfter_add_millis (unsaturated : profile.total < Word.maxCount) {index : ℕ}
    {stage : Stage} (found : profile.stages[index]? = some stage) :
    profile.elapsedAfter (index + 1) = profile.elapsedAfter index + stage.millis := by
  obtain ⟨inside, -⟩ := Array.getElem?_eq_some_iff.mp found
  have below : profile.elapsedAfter (index + 1) ≤ profile.total :=
    profile.elapsedAfter_le_total inside
  rw [profile.elapsedAfter_succ found] at below ⊢
  unfold Word.addCount at *
  omega

end Profile

end ArrivalRamp
