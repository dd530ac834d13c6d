import ArrivalRamp.Profile.StageAt
import ArrivalRamp.Proofs.Binary64.Counts
import ArrivalRamp.Proofs.Binary64.Operations
import ArrivalRamp.Proofs.Profile.Boundaries

/-!
The stage at an elapsed time is the first one that ends later. It has a length, and it does not
start later.
-/

namespace ArrivalRamp

/-- Where the indices that hold come first, the search stops between them and the others. -/
theorem partitionPoint_spec (holds : ℕ → Bool)
    (first : ∀ earlier later, earlier ≤ later → holds later → holds earlier) (low high : ℕ)
    (ordered : low ≤ high) :
    low ≤ partitionPoint holds low high ∧ partitionPoint holds low high ≤ high ∧
      (∀ index, low ≤ index → index < partitionPoint holds low high → holds index) ∧
      (∀ index, partitionPoint holds low high ≤ index → index < high → ¬holds index) := by
  fun_induction partitionPoint holds low high with
  | case1 low high nonempty middle held ih =>
      obtain ⟨lower, upper, before, after⟩ := ih (by omega)
      refine ⟨by omega, upper, ?_, after⟩
      intro index above below
      rcases Nat.lt_or_ge middle index with right | left
      · exact before index right below
      · exact first index middle left held
  | case2 low high nonempty middle missed ih =>
      obtain ⟨lower, upper, before, after⟩ := ih (by omega)
      refine ⟨lower, by omega, before, ?_⟩
      intro index above below
      rcases Nat.lt_or_ge index middle with left | right
      · exact after index above left
      · intro held
        exact missed (first middle index right held)
  | case3 low high empty =>
      refine ⟨le_rfl, ordered, ?_, ?_⟩
      · intro index above below
        omega
      · intro index above below
        omega

namespace Profile

variable (profile : Profile) {elapsed : Float}

theorem endsBy_eq_true_iff {index : ℕ} :
    profile.endsBy elapsed index = true ↔
      index < profile.size ∧ Word.toFloat (profile.elapsedAfter (index + 1)) ≤ elapsed := by
  have found : profile.boundaries[index]? = profile.boundary? index := rfl
  unfold endsBy
  rw [found]
  by_cases inside : index < profile.size
  · simp [profile.boundary?_eq inside, inside]
  · simp [profile.boundary?_eq_none inside, inside]

/-- Once the end of some stages is reached, the end of fewer stages is. -/
theorem toFloat_elapsedAfter_le (finite : elapsed.isFinite) {earlier later : ℕ}
    (ordered : earlier ≤ later)
    (reached : Word.toFloat (profile.elapsedAfter later) ≤ elapsed) :
    Word.toFloat (profile.elapsedAfter earlier) ≤ elapsed := by
  have earlierFinite := Binary64.isFinite_toFloat (profile.elapsedAfter_le earlier)
  have laterFinite := Binary64.isFinite_toFloat (profile.elapsedAfter_le later)
  have converted := Binary64.toFloat_le_toFloat (profile.elapsedAfter_mono ordered)
    (profile.elapsedAfter_le later)
  rw [Binary64.rational_le_iff earlierFinite laterFinite] at converted
  rw [Binary64.rational_le_iff laterFinite finite] at reached
  rw [Binary64.rational_le_iff earlierFinite finite]
  exact converted.trans reached

/-- The stages that have ended come before the others. -/
theorem endsBy_of_le (finite : elapsed.isFinite) (earlier later : ℕ) (ordered : earlier ≤ later)
    (ended : profile.endsBy elapsed later) : profile.endsBy elapsed earlier := by
  rw [endsBy_eq_true_iff] at ended ⊢
  exact ⟨by omega, profile.toFloat_elapsedAfter_le finite (by omega) ended.2⟩

theorem toFloat_elapsedAfter_zero_le_iff (finite : elapsed.isFinite) :
    Word.toFloat (profile.elapsedAfter 0) ≤ elapsed ↔ ¬elapsed < 0.0 := by
  rw [elapsedAfter_zero, ← Binary64.toFloat_zero, Binary64.not_lt_toFloat_iff finite (Nat.zero_le _)]

/-- A stage is active from its start to its end, the end excluded. -/
theorem stageAt?_eq_some_iff {index : ℕ} :
    profile.stageAt? elapsed = some index ↔
      elapsed.isFinite ∧ index < profile.size ∧
        Word.toFloat (profile.elapsedAfter index) ≤ elapsed ∧
        elapsed < Word.toFloat (profile.elapsedAfter (index + 1)) := by
  by_cases finite : elapsed.isFinite
  swap
  · simp [stageAt?, finite]
  by_cases negative : elapsed < 0.0
  · simp only [stageAt?, negative, decide_true, Bool.or_true, if_true, reduceCtorEq, false_iff]
    rintro ⟨-, inside, started, running⟩
    have reached := profile.toFloat_elapsedAfter_le finite (Nat.zero_le index) started
    exact (profile.toFloat_elapsedAfter_zero_le_iff finite).mp reached negative
  obtain ⟨-, -, before, after⟩ := partitionPoint_spec (profile.endsBy elapsed)
    (profile.endsBy_of_le finite) 0 profile.size (Nat.zero_le _)
  have unfolded : profile.stageAt? elapsed =
      if partitionPoint (profile.endsBy elapsed) 0 profile.size < profile.size then
        some (partitionPoint (profile.endsBy elapsed) 0 profile.size)
      else none := by
    simp [stageAt?, finite, negative]
  rw [unfolded]
  generalize partitionPoint (profile.endsBy elapsed) 0 profile.size = point at *
  simp only [endsBy_eq_true_iff] at before after
  constructor
  · intro found
    obtain ⟨inside, same⟩ := Option.ite_none_right_eq_some.mp found
    obtain rfl := Option.some.inj same
    refine ⟨finite, inside, ?_, ?_⟩
    · cases point with
      | zero => exact (profile.toFloat_elapsedAfter_zero_le_iff finite).mpr negative
      | succ previous => exact (before previous (Nat.zero_le _) (Nat.lt_succ_self _)).2
    · by_contra ended
      rw [Binary64.not_lt_toFloat_iff finite (profile.elapsedAfter_le _)] at ended
      exact after point le_rfl inside ⟨inside, ended⟩
  · rintro ⟨-, inside, started, running⟩
    have notBefore : ¬point < index := by
      intro below
      have reached := profile.toFloat_elapsedAfter_le finite (Nat.succ_le_of_lt below) started
      exact after point le_rfl (by omega) ⟨by omega, reached⟩
    have notAfter : ¬index < point := by
      intro below
      have ended := (before index (Nat.zero_le _) below).2
      rw [← Binary64.not_lt_toFloat_iff finite (profile.elapsedAfter_le _)] at ended
      exact ended running
    obtain rfl : point = index := by omega
    rw [if_pos inside]

/-- The scan finds the first stage that ends later. -/
theorem scanStageAt?_eq_some_iff {index : ℕ} :
    profile.scanStageAt? elapsed = some index ↔
      elapsed.isFinite ∧ ¬elapsed < 0.0 ∧
        (∃ boundary, profile.boundary? index = some boundary ∧
          elapsed < Word.toFloat boundary) ∧
        ∀ earlier < index, ∀ boundary, profile.boundary? earlier = some boundary →
          ¬elapsed < Word.toFloat boundary := by
  by_cases finite : elapsed.isFinite
  swap
  · simp [scanStageAt?, finite]
  by_cases negative : elapsed < 0.0
  · simp [scanStageAt?, negative]
  have unfolded : profile.scanStageAt? elapsed =
      profile.boundaries.findIdx? fun boundary => elapsed < Word.toFloat boundary := by
    simp [scanStageAt?, finite, negative]
  rw [unfolded, findIdx?_boundaries_eq_some_iff]
  simp only [finite, negative, not_false_eq_true, true_and, decide_eq_true_eq]

/-- The search and the scan find the same stage. -/
theorem stageAt?_eq_scanStageAt? : profile.stageAt? elapsed = profile.scanStageAt? elapsed := by
  apply Option.ext
  intro index
  rw [stageAt?_eq_some_iff, scanStageAt?_eq_some_iff]
  constructor
  · rintro ⟨finite, inside, started, running⟩
    have notBefore := profile.toFloat_elapsedAfter_le finite (Nat.zero_le index) started
    refine ⟨finite, (profile.toFloat_elapsedAfter_zero_le_iff finite).mp notBefore,
      ⟨_, profile.boundary?_eq inside, running⟩, ?_⟩
    intro earlier below boundary found
    obtain ⟨-, rfl⟩ := profile.boundary?_eq_some_iff.mp found
    rw [Binary64.not_lt_toFloat_iff finite (profile.elapsedAfter_le _)]
    exact profile.toFloat_elapsedAfter_le finite below started
  · rintro ⟨finite, negative, ⟨boundary, found, running⟩, before⟩
    obtain ⟨inside, rfl⟩ := profile.boundary?_eq_some_iff.mp found
    refine ⟨finite, inside, ?_, running⟩
    cases index with
    | zero => exact (profile.toFloat_elapsedAfter_zero_le_iff finite).mpr negative
    | succ previous =>
        have ended := before previous (Nat.lt_succ_self previous) _
          (profile.boundary?_eq (by omega))
        rwa [Binary64.not_lt_toFloat_iff finite (profile.elapsedAfter_le _)] at ended

/-- No stage is active at what is no finite time, before the start, and from the last end on. -/
theorem stageAt?_eq_none_iff :
    profile.stageAt? elapsed = none ↔
      ¬elapsed.isFinite ∨ elapsed < 0.0 ∨
        ∀ index boundary, profile.boundary? index = some boundary →
          ¬elapsed < Word.toFloat boundary := by
  rw [stageAt?_eq_scanStageAt?]
  by_cases finite : elapsed.isFinite
  swap
  · simp [scanStageAt?, finite]
  by_cases negative : elapsed < 0.0
  · simp [scanStageAt?, negative]
  have unfolded : profile.scanStageAt? elapsed =
      profile.boundaries.findIdx? fun boundary => elapsed < Word.toFloat boundary := by
    simp [scanStageAt?, finite, negative]
  rw [unfolded, Array.findIdx?_eq_none_iff]
  simp only [finite, negative, not_true_eq_false, false_or, decide_eq_false_iff_not]
  constructor
  · intro none index boundary found
    exact none boundary (Array.mem_of_getElem? found)
  · intro none boundary inside
    obtain ⟨index, found⟩ := Array.mem_iff_getElem?.mp inside
    exact none index boundary found

/-- The stage at an elapsed time has a length and has started. -/
theorem exists_stage_of_stageAt? {index : ℕ} (active : profile.stageAt? elapsed = some index) :
    ∃ stage, profile.stages[index]? = some stage ∧ 0 < stage.millis ∧
      profile.startOffset? index = some (profile.elapsedAfter index) ∧
      Word.toFloat (profile.elapsedAfter index) ≤ elapsed := by
  obtain ⟨finite, inside, started, running⟩ := profile.stageAt?_eq_some_iff.mp active
  have found : profile.stages[index]? = some profile.stages[index] :=
    Array.getElem?_eq_getElem inside
  refine ⟨profile.stages[index], found, ?_, profile.startOffset?_eq inside, started⟩
  rw [Nat.pos_iff_ne_zero]
  intro zero
  have same : profile.elapsedAfter (index + 1) = profile.elapsedAfter index := by
    have word := profile.elapsedAfter_le index
    rw [profile.elapsedAfter_succ found, zero]
    exact Word.addCount_of_le word
  rw [← Binary64.not_lt_toFloat_iff finite (profile.elapsedAfter_le _), ← same] at started
  exact started running

/-- The search for the stage at an elapsed time is the scan for the first end that is later. What
it finds is a stage with a length that has started, so that the rate is a quotient by a positive
number of a time that is not negative. -/
theorem activeStage_spec (profile : Profile) (elapsed : Float) :
    profile.stageAt? elapsed = profile.scanStageAt? elapsed ∧
      (∀ index, profile.stageAt? elapsed = some index ↔
        elapsed.isFinite ∧ ¬elapsed < 0.0 ∧
          (∃ boundary, profile.boundary? index = some boundary ∧
            elapsed < Word.toFloat boundary) ∧
          ∀ earlier < index, ∀ boundary, profile.boundary? earlier = some boundary →
            ¬elapsed < Word.toFloat boundary) ∧
      (profile.stageAt? elapsed = none ↔
        ¬elapsed.isFinite ∨ elapsed < 0.0 ∨
          ∀ index boundary, profile.boundary? index = some boundary →
            ¬elapsed < Word.toFloat boundary) ∧
      ∀ index, profile.stageAt? elapsed = some index →
        ∃ stage offset, profile.stages[index]? = some stage ∧
          profile.startOffset? index = some offset ∧
          0 < stage.millis ∧ 0.0 < Word.toFloat stage.millis ∧
          Word.toFloat offset ≤ elapsed ∧ 0.0 ≤ elapsed - Word.toFloat offset ∧
          ∀ startRate, profile.rateAt? startRate elapsed =
            some (rateBetween (Word.toFloat (profile.rateBefore startRate index))
              (Word.toFloat stage.target) (Word.toFloat stage.millis) (Word.toFloat offset)
              elapsed) := by
  refine ⟨profile.stageAt?_eq_scanStageAt?, ?_, profile.stageAt?_eq_none_iff, ?_⟩
  · intro index
    rw [stageAt?_eq_scanStageAt?, scanStageAt?_eq_some_iff]
  · intro index active
    have finite := (profile.stageAt?_eq_some_iff.mp active).1
    obtain ⟨stage, found, positive, start, started⟩ := profile.exists_stage_of_stageAt? active
    have lengthPositive := Binary64.toFloat_pos positive stage.millis_le
    have since := Binary64.sub_toFloat_nonneg finite (profile.elapsedAfter_le index) started
    refine ⟨stage, profile.elapsedAfter index, found, start, positive, lengthPositive, started,
      since, ?_⟩
    intro startRate
    simp [rateAt?, active, found, start]

end Profile

end ArrivalRamp
