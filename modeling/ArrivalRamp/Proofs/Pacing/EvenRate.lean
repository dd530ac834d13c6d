import ArrivalRamp.Proofs.Pacing.Rate

/-!
The machine rate in a stage. The difference of two rates is exact, and every other operation keeps
the order of its operands, so that the rate moves from one end to the other without leaving the way
between them and without turning back.
-/

namespace ArrivalRamp

open Binary64

/-- The difference of two counts whose significands fit is exact. -/
theorem rounded_sub_natCast {before target : ℕ} (beforeFits : before ≤ 2 ^ 53)
    (targetFits : target ≤ 2 ^ 53) : rounded (target - before : ℚ) = target - before := by
  rcases le_total before target with up | down
  · rw [← Nat.cast_sub up]
    exact rounded_natCast ((Nat.sub_le _ _).trans targetFits)
  · rw [← neg_sub, ← Nat.cast_sub down, rounded_neg,
      rounded_natCast ((Nat.sub_le _ _).trans beforeFits)]

section Way

variable {before target length offset : ℚ}

/-- At the start of the way the rate is the one before it. -/
theorem roundedRate_start (beforeKept : rounded before = before) (target length offset : ℚ) :
    roundedRate before target length offset offset = before := by
  simp [roundedRate, beforeKept]

/-- The part of the way that has passed grows with time. -/
theorem roundedPart_mono (nonneg : 0 ≤ length) (offset : ℚ) :
    Monotone fun elapsed => rounded (rounded (elapsed - offset) / length) := by
  intro elapsed later ordered
  apply rounded_mono
  apply div_le_div_of_nonneg_right _ nonneg
  exact rounded_mono (sub_le_sub_right ordered offset)

/-- On the way to a greater rate the rate does not fall. -/
theorem roundedRate_mono (up : before ≤ target) (nonneg : 0 ≤ length) :
    Monotone (roundedRate before target length offset) := by
  intro elapsed later ordered
  have way := rounded_nonneg (sub_nonneg.mpr up)
  have part := roundedPart_mono nonneg offset ordered
  have step := rounded_mono (mul_le_mul_of_nonneg_left part way)
  exact rounded_mono (add_le_add_right step before)

/-- On the way to a smaller rate the rate does not rise. -/
theorem roundedRate_anti (down : target ≤ before) (nonneg : 0 ≤ length) :
    Antitone (roundedRate before target length offset) := by
  intro elapsed later ordered
  have way : rounded (target - before) ≤ 0 := by
    simpa using rounded_mono (sub_nonpos.mpr down)
  have part := roundedPart_mono nonneg offset ordered
  have step := rounded_mono (mul_le_mul_of_nonpos_left part way)
  exact rounded_mono (add_le_add_right step before)

/-- A part of an exact way leads to a rate between its ends. -/
theorem rounded_way_mem {part : ℚ} (beforeKept : rounded before = before)
    (targetKept : rounded target = target) (wayKept : rounded (target - before) = target - before)
    (partMem : part ∈ Set.Icc 0 1) :
    rounded (before + rounded ((target - before) * part)) ∈
      Set.Icc (min before target) (max before target) := by
  obtain ⟨partNonneg, partLe⟩ := partMem
  rcases le_total before target with up | down
  · have step : rounded ((target - before) * part) ∈ Set.Icc 0 (target - before) :=
      rounded_mem_Icc rounded_zero wayKept ⟨by nlinarith, by nlinarith⟩
    rw [min_eq_left up, max_eq_right up]
    exact rounded_mem_Icc beforeKept targetKept ⟨by linarith [step.1], by linarith [step.2]⟩
  · have step : rounded ((target - before) * part) ∈ Set.Icc (target - before) 0 :=
      rounded_mem_Icc wayKept rounded_zero ⟨by nlinarith, by nlinarith⟩
    rw [min_eq_right down, max_eq_left down]
    exact rounded_mem_Icc targetKept beforeKept ⟨by linarith [step.1], by linarith [step.2]⟩

end Way

namespace Profile

variable {profile : Profile} {startRate index : ℕ} {elapsed : Float}

/-- The rate that a stage starts from: the target of the stage before it, whether or not that has a
length, or the rate at the start of the run. -/
def rateFrom? (profile : Profile) (startRate : ℕ) : ℕ → Option ℕ
  | 0 => some startRate
  | previous + 1 => profile.target? previous

theorem rateFrom?_eq (startRate : ℕ) (inside : index < profile.size) :
    profile.rateFrom? startRate index = some (profile.rateBefore startRate index) := by
  cases index with
  | zero => rfl
  | succ previous =>
      have found : profile.stages[previous]? = _ :=
        Array.getElem?_eq_getElem (Nat.lt_of_succ_lt inside)
      simp [rateFrom?, rateBefore, target?, found]

/-- The rate that a profile offers at an elapsed time in a stage. It is finite and lies between the
rate that the stage starts from and its target. At the start of the stage it is the rate that it
starts from. Later in the stage it is not smaller when the target is not, and not greater when the
target is not. -/
structure OffersEvenly (profile : Profile) (startRate index : ℕ) (elapsed : Float)
    (before target : ℕ) (rate : Float) : Prop where
  offered : profile.rateAt? startRate elapsed = some rate
  before_eq : profile.rateFrom? startRate index = some before
  target_eq : profile.target? index = some target
  finite : rate.isFinite
  least : Word.toFloat (min before target) ≤ rate
  most : rate ≤ Word.toFloat (max before target)
  start : ∀ offset, profile.startOffset? index = some offset → elapsed == Word.toFloat offset →
    rate == Word.toFloat before
  rises : before ≤ target → ∀ later laterRate, profile.stageAt? later = some index →
    elapsed ≤ later → profile.rateAt? startRate later = some laterRate → rate ≤ laterRate
  falls : target ≤ before → ∀ later laterRate, profile.stageAt? later = some index →
    elapsed ≤ later → profile.rateAt? startRate later = some laterRate → laterRate ≤ rate

section Fits

variable (startFits : startRate ≤ 2 ^ 53)
  (targetsFit : ∀ stage ∈ profile.stages, stage.target ≤ 2 ^ 53)

include startFits targetsFit

theorem rateBefore_le (inside : index < profile.size) :
    profile.rateBefore startRate index ≤ 2 ^ 53 := by
  have source := rateFrom?_eq startRate inside
  cases index with
  | zero => exact startFits
  | succ previous =>
      obtain ⟨stage, found, same⟩ := Option.map_eq_some_iff.mp source
      rw [← same]
      exact targetsFit stage (Array.mem_of_getElem? found)

/-- The rate in a stage is the one on the way between two exact rates. -/
theorem rational_rateAt? (active : profile.stageAt? elapsed = some index) {stage : Stage}
    (found : profile.stages[index]? = some stage) {rate : Float}
    (offered : profile.rateAt? startRate elapsed = some rate) :
    rate.isFinite ∧
      rational rate = roundedRate (profile.rateBefore startRate index) stage.target
        (rational (Word.toFloat stage.millis))
        (rational (Word.toFloat (profile.elapsedAfter index))) (rational elapsed) := by
  have inside := (profile.stageAt?_eq_some_iff.mp active).2.1
  obtain ⟨known, knownOffered, finite, same, -⟩ := exists_rateAt? active found startRate
  obtain rfl := Option.some.inj (offered.symm.trans knownOffered)
  rw [rational_toFloat_of_fits (rateBefore_le startFits targetsFit inside),
    rational_toFloat_of_fits (targetsFit stage (Array.mem_of_getElem? found))] at same
  exact ⟨finite, same⟩

section Offered

variable {rate : Float} (active : profile.stageAt? elapsed = some index) {stage : Stage}
  (found : profile.stages[index]? = some stage)
  (offered : profile.rateAt? startRate elapsed = some rate)

include active found offered

/-- The rate in a stage lies between the ends of the way. -/
theorem rate_between :
    Word.toFloat (min (profile.rateBefore startRate index) stage.target) ≤ rate ∧
      rate ≤ Word.toFloat (max (profile.rateBefore startRate index) stage.target) := by
  have inside := (profile.stageAt?_eq_some_iff.mp active).2.1
  have beforeFits := rateBefore_le startFits targetsFit inside
  have targetFits := targetsFit stage (Array.mem_of_getElem? found)
  have leastFits := (min_le_left _ stage.target).trans beforeFits
  have mostFits := max_le beforeFits targetFits
  obtain ⟨finite, same⟩ := rational_rateAt? startFits targetsFit active found offered
  obtain ⟨-, partEq, partMem⟩ := progress_mem active found
  rw [partEq] at partMem
  have way := rounded_sub_natCast beforeFits targetFits
  have between := rounded_way_mem (rounded_natCast beforeFits) (rounded_natCast targetFits) way
    partMem
  rw [← way] at between
  rw [rational_le_iff (isFinite_toFloat (leastFits.trans (by decide))) finite,
    rational_le_iff finite (isFinite_toFloat (mostFits.trans (by decide))),
    rational_toFloat_of_fits leastFits, rational_toFloat_of_fits mostFits, same, Nat.cast_min,
    Nat.cast_max]
  exact between

/-- The rate at the start of a stage is the one before it. -/
theorem rate_start (atStart : elapsed == Word.toFloat (profile.elapsedAfter index)) :
    rate == Word.toFloat (profile.rateBefore startRate index) := by
  obtain ⟨elapsedFinite, inside, -, -⟩ := profile.stageAt?_eq_some_iff.mp active
  have beforeFits := rateBefore_le startFits targetsFit inside
  obtain ⟨finite, same⟩ := rational_rateAt? startFits targetsFit active found offered
  rw [rational_beq_iff elapsedFinite (isFinite_toFloat (profile.elapsedAfter_le index))] at atStart
  rw [rational_beq_iff finite (isFinite_toFloat (beforeFits.trans (by decide))),
    rational_toFloat_of_fits beforeFits, same, atStart]
  exact roundedRate_start (rounded_natCast beforeFits) _ _ _

/-- Later in a stage the rate has moved towards the target, or is the same. -/
theorem rate_moves {later laterRate : Float} (activeLater : profile.stageAt? later = some index)
    (ordered : elapsed ≤ later) (laterOffered : profile.rateAt? startRate later = some laterRate) :
    (profile.rateBefore startRate index ≤ stage.target → rate ≤ laterRate) ∧
      (stage.target ≤ profile.rateBefore startRate index → laterRate ≤ rate) := by
  have lengthNonneg : 0 ≤ rational (Word.toFloat stage.millis) := (toFloat_mem _).2.1
  obtain ⟨finite, same⟩ := rational_rateAt? startFits targetsFit active found offered
  obtain ⟨laterFinite, laterSame⟩ :=
    rational_rateAt? startFits targetsFit activeLater found laterOffered
  rw [rational_le_iff (profile.stageAt?_eq_some_iff.mp active).1
    (profile.stageAt?_eq_some_iff.mp activeLater).1] at ordered
  rw [rational_le_iff finite laterFinite, rational_le_iff laterFinite finite, same, laterSame]
  exact ⟨fun up => roundedRate_mono (by exact_mod_cast up) lengthNonneg ordered,
    fun down => roundedRate_anti (by exact_mod_cast down) lengthNonneg ordered⟩

end Offered

/-- In each stage a rate is offered that lies between its ends and moves evenly. -/
theorem exists_offersEvenly (active : profile.stageAt? elapsed = some index) :
    ∃ before target rate,
      profile.OffersEvenly startRate index elapsed before target rate := by
  have inside := (profile.stageAt?_eq_some_iff.mp active).2.1
  obtain ⟨stage, found, -, startEq, -⟩ := profile.exists_stage_of_stageAt? active
  obtain ⟨rate, offered, finite, -⟩ := exists_rateAt? active found startRate
  obtain ⟨least, most⟩ := rate_between startFits targetsFit active found offered
  refine ⟨profile.rateBefore startRate index, stage.target, rate, offered,
    rateFrom?_eq startRate inside, by simp [target?, found], finite, least, most, ?_, ?_, ?_⟩
  · intro offset offsetEq atStart
    obtain rfl := Option.some.inj (startEq.symm.trans offsetEq)
    exact rate_start startFits targetsFit active found offered atStart
  · intro up later laterRate activeLater ordered laterOffered
    exact (rate_moves startFits targetsFit active found offered activeLater ordered
      laterOffered).1 up
  · intro down later laterRate activeLater ordered laterOffered
    exact (rate_moves startFits targetsFit active found offered activeLater ordered
      laterOffered).2 down

end Fits

/-- The machine rate is offered exactly while a stage is active, and it moves evenly through each
stage, as long as no rate is greater than what a significand can hold. -/
theorem rate_movesEvenly (profile : Profile) {startRate : ℕ} (startFits : startRate ≤ 2 ^ 53)
    (targetsFit : ∀ stage ∈ profile.stages, stage.target ≤ 2 ^ 53) (elapsed : Float) :
    ((profile.rateAt? startRate elapsed).isSome ↔ (profile.stageAt? elapsed).isSome) ∧
      ∀ index, profile.stageAt? elapsed = some index →
        ∃ before target rate,
          profile.OffersEvenly startRate index elapsed before target rate := by
  refine ⟨?_, fun index active => exists_offersEvenly startFits targetsFit active⟩
  cases active : profile.stageAt? elapsed with
  | none => simp [rateAt?, active]
  | some index =>
      obtain ⟨before, target, rate, even⟩ := exists_offersEvenly startFits targetsFit active
      simp [even.offered]

/-- A way up to ten, a stage without a length, and a way down from its target. -/
def upAndDown : Profile :=
  ofPairs [(10, "10s"), (50, "0s"), (20, "10s")]

/-- On the way down the rate starts from the target of the stage without a length. -/
theorem rate_movesEvenly_upAndDown :
    0 ≤ 2 ^ 53 ∧ (∀ stage ∈ upAndDown.stages, stage.target ≤ 2 ^ 53) ∧
      upAndDown.rateAt? 0 15000.0 = some 35.0 ∧
      upAndDown.OffersEvenly 0 2 15000.0 50 20 35.0 := by
  have startFits : 0 ≤ 2 ^ 53 := Nat.zero_le _
  have targetsFit : ∀ stage ∈ upAndDown.stages, stage.target ≤ 2 ^ 53 := by decide
  have active : upAndDown.stageAt? 15000.0 = some 2 := by decide +kernel
  have offered : upAndDown.rateAt? 0 15000.0 = some 35.0 := by decide +kernel
  obtain ⟨before, target, rate, even⟩ :=
    (upAndDown.rate_movesEvenly startFits targetsFit 15000.0).2 2 active
  obtain rfl : 50 = before := Option.some.inj even.before_eq
  obtain rfl : 20 = target := Option.some.inj even.target_eq
  obtain rfl := Option.some.inj (offered.symm.trans even.offered)
  exact ⟨startFits, targetsFit, offered, even⟩

end Profile

end ArrivalRamp
