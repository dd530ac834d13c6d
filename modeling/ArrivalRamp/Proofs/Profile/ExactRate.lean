import ArrivalRamp.Proofs.Profile.StageAt

/-!
The offered rate over exact numbers. In each stage it moves evenly from one level to the next, so
that it inherits order and bounds from the levels at the ends of the stages.
-/

namespace ArrivalRamp.Profile

variable (profile : Profile)

section Reading

variable {Number : Type} [LE Number] [DecidableLE Number] [Add Number] [Sub Number] [Mul Number]
  [Div Number]

/-- A stage ends at or before an elapsed time, with counts read as numbers. -/
def hasEnded (ofCount : ℕ → Number) (elapsed : Number) (index : ℕ) : Bool :=
  match profile.boundaries[index]? with
  | some boundary => ofCount boundary ≤ elapsed
  | none => false

/-- The search for the first stage that ends later, with counts read as numbers. -/
def searchStage? (ofCount : ℕ → Number) (elapsed : Number) : Option ℕ :=
  let index := partitionPoint (profile.hasEnded ofCount elapsed) 0 profile.size
  if index < profile.size then some index else none

/-- The rate in a stage at an elapsed time, with counts read as numbers. -/
def rateIn? (ofCount : ℕ → Number) (startRate : ℕ) (elapsed : Number) (index : ℕ) :
    Option Number := do
  let stage ← profile.stages[index]?
  let before := ofCount (profile.rateBefore startRate index)
  let offset := ofCount ((profile.startOffset? index).getD 0)
  return rateBetween before (ofCount stage.target) (ofCount stage.millis) offset elapsed

end Reading

/-- The search at a machine number reads counts as machine numbers. -/
theorem stageAt?_eq_searchStage? (elapsed : Float) :
    profile.stageAt? elapsed =
      if !elapsed.isFinite || elapsed < 0.0 then none
      else profile.searchStage? Word.toFloat elapsed :=
  rfl

/-- The rate at a machine number reads counts as machine numbers. -/
theorem rateAt?_eq_rateIn? (startRate : ℕ) (elapsed : Float) :
    profile.rateAt? startRate elapsed =
      (profile.stageAt? elapsed).bind (profile.rateIn? Word.toFloat startRate elapsed) :=
  rfl

/-- The length of a stage in milliseconds. -/
def lengthOf (index : ℕ) : ℕ :=
  (profile.stages[index]?.map Stage.millis).getD 0

theorem elapsedAfter_succ_le (index : ℕ) :
    profile.elapsedAfter (index + 1) ≤ profile.elapsedAfter index + profile.lengthOf index := by
  cases found : profile.stages[index]? with
  | some stage =>
      rw [profile.elapsedAfter_succ found]
      simp [lengthOf, found, Word.addCount]
  | none =>
      have outside : profile.stages.toList.length ≤ index := Array.getElem?_eq_none_iff.mp found
      unfold elapsedAfter
      rw [List.take_of_length_le outside, List.take_of_length_le (by omega)]
      exact Nat.le_add_right _ _

section Exact

variable {Number : Type} [Field Number] [LinearOrder Number] [IsStrictOrderedRing Number]
  {elapsed earlier later : Number} {index : ℕ}

/-- The stage at an exact elapsed time. -/
def exactStageAt? (elapsed : Number) : Option ℕ :=
  if elapsed < 0 then none else profile.searchStage? Nat.cast elapsed

/-- The rate offered at an exact elapsed time. -/
def exactRateAt? (startRate : ℕ) (elapsed : Number) : Option Number :=
  (profile.exactStageAt? elapsed).bind (profile.rateIn? Nat.cast startRate elapsed)

/-- An exact elapsed time is in a stage, the end of the stage excluded. -/
structure IsActive (elapsed : Number) (index : ℕ) : Prop where
  inside : index < profile.size
  started : (profile.elapsedAfter index : Number) ≤ elapsed
  running : elapsed < profile.elapsedAfter (index + 1)

variable {profile}

/-- Stages follow one another in time. -/
theorem IsActive.index_le (active : profile.IsActive earlier index) {other : ℕ}
    (otherActive : profile.IsActive later other) (ordered : earlier ≤ later) : index ≤ other := by
  have between : (profile.elapsedAfter index : Number) < profile.elapsedAfter (other + 1) :=
    active.started.trans_lt (ordered.trans_lt otherActive.running)
  by_contra below
  have ends : profile.elapsedAfter (other + 1) ≤ profile.elapsedAfter index :=
    profile.elapsedAfter_mono (by omega)
  exact absurd (Nat.cast_lt.mp between) (not_lt.mpr ends)

/-- Before the end there is a stage at each elapsed time. -/
theorem exists_isActive (nonneg : 0 ≤ elapsed) (running : elapsed < profile.total) :
    ∃ index, profile.IsActive elapsed index := by
  rw [total_eq] at running
  suffices ∃ index < profile.size, (profile.elapsedAfter index : Number) ≤ elapsed ∧
      elapsed < profile.elapsedAfter (index + 1) by
    obtain ⟨index, inside, started, running⟩ := this
    exact ⟨index, inside, started, running⟩
  generalize profile.size = count at running ⊢
  induction count with
  | zero => exact absurd running (by simpa using nonneg)
  | succ count ih =>
      by_cases before : elapsed < profile.elapsedAfter count
      · obtain ⟨index, inside, enclosed⟩ := ih before
        exact ⟨index, Nat.lt_succ_of_lt inside, enclosed⟩
      · exact ⟨count, Nat.lt_succ_self count, not_lt.mp before, running⟩

omit [IsStrictOrderedRing Number] in
theorem hasEnded_eq_true_iff :
    profile.hasEnded Nat.cast elapsed index = true ↔
      index < profile.size ∧ (profile.elapsedAfter (index + 1) : Number) ≤ elapsed := by
  have found : profile.boundaries[index]? = profile.boundary? index := rfl
  unfold hasEnded
  rw [found]
  by_cases inside : index < profile.size
  · simp [profile.boundary?_eq inside, inside]
  · simp [profile.boundary?_eq_none inside, inside]

/-- The stages that have ended come before the others. -/
theorem hasEnded_of_le (before after : ℕ) (ordered : before ≤ after)
    (held : profile.hasEnded Nat.cast elapsed after) :
    profile.hasEnded Nat.cast elapsed before := by
  rw [hasEnded_eq_true_iff] at held ⊢
  have ends : profile.elapsedAfter (before + 1) ≤ profile.elapsedAfter (after + 1) :=
    profile.elapsedAfter_mono (by omega)
  exact ⟨by omega, (Nat.cast_le.mpr ends).trans held.2⟩

/-- The search finds the stage that the elapsed time is in. -/
theorem exactStageAt?_eq_some_iff :
    profile.exactStageAt? elapsed = some index ↔ profile.IsActive elapsed index := by
  by_cases negative : elapsed < 0
  · simp only [exactStageAt?, negative, if_true, reduceCtorEq, false_iff]
    intro active
    have nonneg : (0 : Number) ≤ profile.elapsedAfter index := Nat.cast_nonneg _
    exact absurd negative (not_lt.mpr (nonneg.trans active.started))
  obtain ⟨-, -, below, above⟩ := partitionPoint_spec (profile.hasEnded Nat.cast elapsed)
    hasEnded_of_le 0 profile.size (Nat.zero_le _)
  have unfolded : profile.exactStageAt? elapsed =
      if partitionPoint (profile.hasEnded Nat.cast elapsed) 0 profile.size < profile.size then
        some (partitionPoint (profile.hasEnded Nat.cast elapsed) 0 profile.size)
      else none :=
    if_neg negative
  rw [unfolded]
  generalize partitionPoint (profile.hasEnded Nat.cast elapsed) 0 profile.size = point at *
  simp only [hasEnded_eq_true_iff] at below above
  have atPoint (inside : point < profile.size) : profile.IsActive elapsed point := by
    refine ⟨inside, ?_, ?_⟩
    · cases point with
      | zero => simpa using not_lt.mp negative
      | succ previous => exact (below previous (Nat.zero_le _) (Nat.lt_succ_self _)).2
    · exact not_le.mp fun reached => above point le_rfl inside ⟨inside, reached⟩
  constructor
  · intro found
    obtain ⟨inside, same⟩ := Option.ite_none_right_eq_some.mp found
    obtain rfl := Option.some.inj same
    exact atPoint inside
  · intro active
    have inside : point < profile.size := by
      by_contra outside
      have reached := (below index (Nat.zero_le _) (active.inside.trans_le (not_lt.mp outside))).2
      exact absurd active.running (not_lt.mpr reached)
    rw [if_pos inside, le_antisymm ((atPoint inside).index_le active le_rfl)
      (active.index_le (atPoint inside) le_rfl)]

variable (profile) in
/-- The part of a stage that has passed. -/
def progress (index : ℕ) (elapsed : Number) : Number :=
  (elapsed - profile.elapsedAfter index) / profile.lengthOf index

namespace IsActive

variable (active : profile.IsActive elapsed index)

include active

theorem lengthOf_pos : (0 : Number) < profile.lengthOf index := by
  have ends : (profile.elapsedAfter (index + 1) : Number) ≤
      profile.elapsedAfter index + profile.lengthOf index := by
    exact_mod_cast profile.elapsedAfter_succ_le index
  linarith [active.started, active.running]

theorem progress_nonneg : 0 ≤ profile.progress index elapsed :=
  div_nonneg (sub_nonneg.mpr active.started) active.lengthOf_pos.le

theorem progress_le_one : profile.progress index elapsed ≤ 1 := by
  have ends : (profile.elapsedAfter (index + 1) : Number) ≤
      profile.elapsedAfter index + profile.lengthOf index := by
    exact_mod_cast profile.elapsedAfter_succ_le index
  rw [progress, div_le_one active.lengthOf_pos]
  linarith [active.running]

end IsActive

variable (profile) in
/-- What moves in each stage evenly from one of the levels to the next. -/
def levelAt (level : ℕ → Number) (elapsed : Number) : Number :=
  match profile.exactStageAt? elapsed with
  | some index => level index + (level (index + 1) - level index) * profile.progress index elapsed
  | none => 0

section Level

variable {level other : ℕ → Number}

theorem IsActive.levelAt_eq (active : profile.IsActive elapsed index) (level : ℕ → Number) :
    profile.levelAt level elapsed =
      level index + (level (index + 1) - level index) * profile.progress index elapsed := by
  rw [levelAt, exactStageAt?_eq_some_iff.mpr active]

omit [IsStrictOrderedRing Number] in
theorem levelAt_add (level other : ℕ → Number) (elapsed : Number) :
    profile.levelAt (level + other) elapsed =
      profile.levelAt level elapsed + profile.levelAt other elapsed := by
  unfold levelAt
  cases profile.exactStageAt? elapsed with
  | some index =>
      simp only [Pi.add_apply]
      ring
  | none => simp

omit [IsStrictOrderedRing Number] in
theorem levelAt_sub (level other : ℕ → Number) (elapsed : Number) :
    profile.levelAt (level - other) elapsed =
      profile.levelAt level elapsed - profile.levelAt other elapsed := by
  unfold levelAt
  cases profile.exactStageAt? elapsed with
  | some index =>
      simp only [Pi.sub_apply]
      ring
  | none => simp

/-- In a stage the level is between those at its ends. -/
theorem IsActive.levelAt_mem (active : profile.IsActive elapsed index) {low high : Number}
    (before : level index ∈ Set.Icc low high) (after : level (index + 1) ∈ Set.Icc low high) :
    profile.levelAt level elapsed ∈ Set.Icc low high := by
  have mixed := (convex_Icc low high).add_smul_sub_mem before after
    ⟨active.progress_nonneg, active.progress_le_one⟩
  rw [active.levelAt_eq]
  rwa [smul_eq_mul, mul_comm] at mixed

/-- Levels that do not fall from stage to stage do not fall in time. -/
theorem levelAt_mono (rising : Monotone level) (nonneg : 0 ≤ earlier) (ordered : earlier ≤ later)
    (running : later < profile.total) :
    profile.levelAt level earlier ≤ profile.levelAt level later := by
  obtain ⟨index, active⟩ := exists_isActive nonneg (ordered.trans_lt running)
  obtain ⟨other, otherActive⟩ := exists_isActive (nonneg.trans ordered) running
  have grows (index : ℕ) : level index ≤ level (index + 1) := rising (Nat.le_succ index)
  rcases (active.index_le otherActive ordered).eq_or_lt with rfl | below
  · rw [active.levelAt_eq, otherActive.levelAt_eq]
    unfold progress
    gcongr
    exact sub_nonneg.mpr (grows index)
  · calc profile.levelAt level earlier ≤ level (index + 1) :=
          (active.levelAt_mem ⟨le_rfl, grows index⟩ ⟨grows index, le_rfl⟩).2
      _ ≤ level other := rising below
      _ ≤ profile.levelAt level later :=
          (otherActive.levelAt_mem ⟨le_rfl, grows other⟩ ⟨grows other, le_rfl⟩).1

end Level

variable (profile) in
/-- The rates at the ends of the stages. -/
def rates (startRate index : ℕ) : Number :=
  profile.rateBefore startRate index

/-- The exact rate moves between the rates at the ends of the stages. -/
theorem IsActive.exactRateAt?_eq (active : profile.IsActive elapsed index) (startRate : ℕ) :
    profile.exactRateAt? startRate elapsed =
      some (profile.levelAt (profile.rates startRate) elapsed) := by
  have inside := active.inside
  have found : profile.stages[index]? = some profile.stages[index] :=
    Array.getElem?_eq_getElem inside
  rw [active.levelAt_eq, exactRateAt?, exactStageAt?_eq_some_iff.mpr active]
  simp [rateIn?, found, profile.startOffset?_eq active.inside, rateBetween, rates, rateBefore,
    target?, progress, lengthOf]

theorem exactRateAt?_eq_some (startRate : ℕ) (nonneg : 0 ≤ elapsed)
    (running : elapsed < profile.total) :
    profile.exactRateAt? startRate elapsed =
      some (profile.levelAt (profile.rates startRate) elapsed) := by
  obtain ⟨index, active⟩ := exists_isActive nonneg running
  exact active.exactRateAt?_eq startRate

/-- The exact rate, which is none outside of the profile. -/
theorem getD_exactRateAt? (startRate : ℕ) (elapsed : Number) :
    (profile.exactRateAt? startRate elapsed).getD 0 =
      profile.levelAt (profile.rates startRate) elapsed := by
  cases found : profile.exactStageAt? elapsed with
  | some index =>
      rw [(exactStageAt?_eq_some_iff.mp found).exactRateAt?_eq startRate, Option.getD_some]
  | none => simp [exactRateAt?, levelAt, found]

section Swings

variable {startRate : ℕ}

variable (profile startRate) in
/-- The exact rate is not negative. -/
theorem rate_nonneg (nonneg : 0 ≤ elapsed) (running : elapsed < profile.total) :
    0 ≤ profile.levelAt (profile.rates startRate) elapsed := by
  obtain ⟨index, active⟩ := exists_isActive nonneg running
  have rates (index : ℕ) : (0 : Number) ≤ profile.rates startRate index := Nat.cast_nonneg _
  exact (active.levelAt_mem ⟨rates index, le_max_left _ _⟩
    ⟨rates (index + 1), le_max_right _ _⟩).1

variable (profile startRate) in
/-- How far the rate moves in the first stages, up and down together. -/
def swings (count : ℕ) : Number :=
  ∑ index ∈ Finset.range count,
    |(profile.rates startRate (index + 1) : Number) - profile.rates startRate index|

omit [IsStrictOrderedRing Number] in
theorem swings_succ (index : ℕ) :
    (profile.swings startRate (index + 1) : Number) =
      profile.swings startRate index +
        |(profile.rates startRate (index + 1) : Number) - profile.rates startRate index| :=
  Finset.sum_range_succ _ _

variable (profile startRate) in
theorem monotone_swings : Monotone (profile.swings startRate : ℕ → Number) := by
  apply monotone_nat_of_le_succ
  intro index
  rw [swings_succ]
  exact le_add_of_nonneg_right (abs_nonneg _)

variable (profile startRate) in
/-- The swings rise at least as far as the rate falls. -/
theorem monotone_swings_add_rates :
    Monotone (profile.swings startRate + profile.rates startRate : ℕ → Number) := by
  apply monotone_nat_of_le_succ
  intro index
  have fall := neg_abs_le
    ((profile.rates startRate (index + 1) : Number) - profile.rates startRate index)
  rw [Pi.add_apply, Pi.add_apply, swings_succ]
  linarith

variable (profile startRate) in
/-- The swings rise at least as far as the rate. -/
theorem monotone_swings_sub_rates :
    Monotone (profile.swings startRate - profile.rates startRate : ℕ → Number) := by
  apply monotone_nat_of_le_succ
  intro index
  have rise := le_abs_self
    ((profile.rates startRate (index + 1) : Number) - profile.rates startRate index)
  rw [Pi.sub_apply, Pi.sub_apply, swings_succ]
  linarith

variable (profile startRate) in
/-- Between two times the rate does not change by more than the swings. -/
theorem abs_rate_sub_le (nonneg : 0 ≤ earlier) (ordered : earlier ≤ later)
    (running : later < profile.total) :
    |profile.levelAt (profile.rates startRate) later -
        profile.levelAt (profile.rates startRate) earlier| ≤
      profile.levelAt (profile.swings startRate) later -
        profile.levelAt (profile.swings startRate) earlier := by
  have added := levelAt_mono (profile.monotone_swings_add_rates startRate) nonneg ordered running
  have taken := levelAt_mono (profile.monotone_swings_sub_rates startRate) nonneg ordered running
  rw [levelAt_add, levelAt_add] at added
  rw [levelAt_sub, levelAt_sub] at taken
  rw [abs_le]
  constructor <;> linarith

variable (profile startRate) in
/-- The swings up to a time are some of those of all stages. -/
theorem swings_mem (nonneg : 0 ≤ elapsed) (running : elapsed < profile.total) :
    profile.levelAt (profile.swings startRate) elapsed ∈
      Set.Icc 0 (profile.swings startRate profile.size) := by
  obtain ⟨index, active⟩ := exists_isActive nonneg running
  have swings {count : ℕ} (inside : count ≤ profile.size) :
      (profile.swings startRate count : Number) ∈
        Set.Icc 0 (profile.swings startRate profile.size) :=
    ⟨Finset.sum_nonneg fun index _ => abs_nonneg _, profile.monotone_swings startRate inside⟩
  exact active.levelAt_mem (swings active.inside.le) (swings active.inside)

section Steady

variable (level : ∀ stage ∈ profile.stages, stage.target = startRate)

include level

omit [LinearOrder Number] [IsStrictOrderedRing Number] in
theorem rates_eq_startRate (inside : index ≤ profile.size) :
    (profile.rates startRate index : Number) = startRate := by
  cases index with
  | zero => rfl
  | succ previous =>
      have found : profile.stages[previous]? = some profile.stages[previous] :=
        Array.getElem?_eq_getElem inside
      simp [rates, rateBefore, target?, found, level _ (Array.mem_of_getElem? found)]

/-- Where every stage keeps the rate at the start, there are no swings. -/
theorem swings_eq_zero : (profile.swings startRate profile.size : Number) = 0 := by
  apply Finset.sum_eq_zero
  intro index member
  have inside := Finset.mem_range.mp member
  rw [rates_eq_startRate level inside.le, rates_eq_startRate level inside, sub_self, abs_zero]

/-- Where every stage keeps the rate at the start, it is offered at each time. -/
theorem rate_eq_startRate (nonneg : 0 ≤ elapsed) (running : elapsed < profile.total) :
    profile.levelAt (profile.rates startRate) elapsed = startRate := by
  obtain ⟨index, active⟩ := exists_isActive nonneg running
  rw [active.levelAt_eq, rates_eq_startRate level active.inside.le,
    rates_eq_startRate level active.inside, sub_self, zero_mul, add_zero]

end Steady

end Swings

end Exact

/-- In a profile of exact ends, the stage at a machine number is the one at what it means. -/
theorem stageAt?_eq_exactStageAt? (exact : profile.total ≤ 2 ^ 53) {elapsed : Float}
    (finite : elapsed.isFinite) :
    profile.stageAt? elapsed = profile.exactStageAt? (Binary64.rational elapsed) := by
  apply Option.ext
  intro index
  rw [stageAt?_eq_some_iff, exactStageAt?_eq_some_iff]
  have ends {count : ℕ} (inside : count ≤ profile.size) :
      Binary64.rational (Word.toFloat (profile.elapsedAfter count)) = profile.elapsedAfter count := by
    rw [Binary64.rational_toFloat (profile.elapsedAfter_le count),
      Binary64.nearest_natCast ((profile.elapsedAfter_le_total inside).trans exact)]
  have converted (count : ℕ) := Binary64.isFinite_toFloat (profile.elapsedAfter_le count)
  rw [Binary64.rational_le_iff (converted index) finite,
    Binary64.rational_lt_iff finite (converted (index + 1))]
  constructor
  · rintro ⟨-, inside, started, running⟩
    rw [ends inside.le] at started
    rw [ends inside] at running
    exact ⟨inside, started, running⟩
  · rintro ⟨inside, started, running⟩
    rw [ends inside.le, ends inside]
    exact ⟨finite, inside, started, running⟩

end ArrivalRamp.Profile
