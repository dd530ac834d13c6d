import ArrivalRamp.Proofs.Binary64.Operations
import ArrivalRamp.Proofs.Binary64.Spacing
import ArrivalRamp.Proofs.Profile.StageAt

/-!
The machine rate. The part of a stage that has passed is no more than all of it, so that the rate
stays between zero and what a machine number can hold.
-/

namespace ArrivalRamp

open Binary64

namespace Profile

variable {profile : Profile} {elapsed : Float} {index : ℕ} {stage : Stage}

/-- The time since the start of a stage is rounded once. It is not negative, and no longer than the
stage. -/
theorem since_mem (active : profile.stageAt? elapsed = some index)
    (found : profile.stages[index]? = some stage) :
    (elapsed - Word.toFloat (profile.elapsedAfter index)).isFinite ∧
      rational (elapsed - Word.toFloat (profile.elapsedAfter index)) =
        rounded (rational elapsed - rational (Word.toFloat (profile.elapsedAfter index))) ∧
      rational (elapsed - Word.toFloat (profile.elapsedAfter index)) ∈
        Set.Icc 0 (rational (Word.toFloat stage.millis)) := by
  obtain ⟨finite, -, started, running⟩ := profile.stageAt?_eq_some_iff.mp active
  have startWord := profile.elapsedAfter_le index
  have stopWord := profile.elapsedAfter_le (index + 1)
  have startFinite := isFinite_toFloat startWord
  rw [rational_le_iff startFinite finite, rational_toFloat startWord] at started
  rw [rational_lt_iff finite (isFinite_toFloat stopWord), rational_toFloat stopWord] at running
  have startNonneg := nearest_nonneg (Nat.cast_nonneg (α := ℚ) (profile.elapsedAfter index))
  have within : profile.elapsedAfter (index + 1) ≤ profile.elapsedAfter index + stage.millis := by
    rw [profile.elapsedAfter_succ found]
    exact min_le_left _ _
  have kept : nearest (rational elapsed) = rational elapsed := by
    rw [← rounded_of_nonneg (startNonneg.trans started), rounded_rational finite]
  have short := sub_nearest_le_length within kept started running
  have since := sub_nonneg.mpr started
  have length : (stage.millis : ℚ) ≤ 2 ^ 64 := by
    have counted : stage.millis ≤ 2 ^ 64 := stage.millis_le.trans (by decide)
    exact_mod_cast counted
  rw [← rational_toFloat startWord] at short since
  obtain ⟨sinceFinite, sinceEq⟩ := rational_sub finite startFinite
    (abs_rounded_lt_bound 64 (abs_le.mpr ⟨by linarith, by linarith⟩) (by decide))
  refine ⟨sinceFinite, sinceEq, ?_⟩
  rw [sinceEq, rational_toFloat stage.millis_le, ← rounded_of_nonneg (Nat.cast_nonneg stage.millis)]
  exact ⟨rounded_nonneg since, rounded_mono short⟩

/-- The part of a stage that has passed is rounded twice. It is not negative, and no more than all of
it. -/
theorem progress_mem (active : profile.stageAt? elapsed = some index)
    (found : profile.stages[index]? = some stage) :
    ((elapsed - Word.toFloat (profile.elapsedAfter index)) / Word.toFloat stage.millis).isFinite ∧
      rational ((elapsed - Word.toFloat (profile.elapsedAfter index)) /
          Word.toFloat stage.millis) =
        rounded (rounded (rational elapsed - rational (Word.toFloat (profile.elapsedAfter index))) /
          rational (Word.toFloat stage.millis)) ∧
      rational ((elapsed - Word.toFloat (profile.elapsedAfter index)) /
        Word.toFloat stage.millis) ∈ Set.Icc 0 1 := by
  obtain ⟨sinceFinite, sinceEq, sinceNonneg, sinceLe⟩ := since_mem active found
  obtain ⟨same, sameFound, positive, -, -⟩ := profile.exists_stage_of_stageAt? active
  obtain rfl := Option.some.inj (sameFound.symm.trans found)
  have lengthFinite := isFinite_toFloat same.millis_le
  have lengthPositive : 0 < rational (Word.toFloat same.millis) := by
    have above := toFloat_pos positive same.millis_le
    rwa [rational_lt_iff isFinite_zero lengthFinite, rational_zero] at above
  have nonneg := div_nonneg sinceNonneg lengthPositive.le
  have most := (div_le_one lengthPositive).mpr sinceLe
  obtain ⟨finite, quotientEq⟩ := rational_div sinceFinite lengthFinite lengthPositive.ne'
    (abs_rounded_lt_bound 0 (abs_le.mpr ⟨by linarith, by linarith⟩) (by decide))
  refine ⟨finite, by rw [quotientEq, sinceEq], ?_⟩
  rw [quotientEq]
  exact rounded_mem_Icc rounded_zero rounded_one ⟨nonneg, most⟩

end Profile

section Way

variable {before target way progress : Float}

theorem rounded_neg_rational {number : Float} (finite : number.isFinite) :
    rounded (-rational number) = -rational number := by
  rw [rounded_neg, rounded_rational finite]

/-- The way from one rate to another is no longer than the rates themselves. -/
theorem difference_mem (beforeFinite : before.isFinite) (targetFinite : target.isFinite)
    (beforeMem : rational before ∈ Set.Icc 0 (2 ^ 64))
    (targetMem : rational target ∈ Set.Icc 0 (2 ^ 64)) :
    (target - before).isFinite ∧
      rational (target - before) = rounded (rational target - rational before) ∧
      rational (target - before) ∈ Set.Icc (-rational before) (rational target) := by
  obtain ⟨beforeNonneg, beforeLe⟩ := beforeMem
  obtain ⟨targetNonneg, targetLe⟩ := targetMem
  obtain ⟨finite, wayEq⟩ := rational_sub targetFinite beforeFinite
    (abs_rounded_lt_bound 64 (abs_le.mpr ⟨by linarith, by linarith⟩) (by decide))
  refine ⟨finite, wayEq, ?_⟩
  rw [wayEq]
  exact rounded_mem_Icc (rounded_neg_rational beforeFinite) (rounded_rational targetFinite)
    ⟨by linarith, by linarith⟩

/-- A part of the way does not lead further than all of it. -/
theorem part_mem {low high : ℚ} (wayFinite : way.isFinite) (progressFinite : progress.isFinite)
    (lowMem : -low ∈ Set.Icc 0 (2 ^ 64)) (highMem : high ∈ Set.Icc 0 (2 ^ 64))
    (lowKept : rounded low = low) (highKept : rounded high = high)
    (wayMem : rational way ∈ Set.Icc low high) (progressMem : rational progress ∈ Set.Icc 0 1) :
    (way * progress).isFinite ∧
      rational (way * progress) = rounded (rational way * rational progress) ∧
      rational (way * progress) ∈ Set.Icc low high := by
  obtain ⟨lowNonneg, lowLe⟩ := lowMem
  obtain ⟨highNonneg, highLe⟩ := highMem
  obtain ⟨wayLow, wayHigh⟩ := wayMem
  obtain ⟨progressNonneg, progressLe⟩ := progressMem
  have partLow : low ≤ rational way * rational progress := by nlinarith
  have partHigh : rational way * rational progress ≤ high := by nlinarith
  obtain ⟨finite, partEq⟩ := rational_mul wayFinite progressFinite
    (abs_rounded_lt_bound 64 (abs_le.mpr ⟨by linarith, by linarith⟩) (by decide))
  refine ⟨finite, partEq, ?_⟩
  rw [partEq]
  exact rounded_mem_Icc lowKept highKept ⟨partLow, partHigh⟩

/-- The rate on the even way from one rate to another, with each operation rounded. -/
def roundedRate (before target length offset elapsed : ℚ) : ℚ :=
  rounded (before +
    rounded (rounded (target - before) * rounded (rounded (elapsed - offset) / length)))

/-- The way from one rate to another leads neither below zero nor beyond both of them together. -/
theorem way_mem (beforeFinite : before.isFinite) (targetFinite : target.isFinite)
    (progressFinite : progress.isFinite) (beforeMem : rational before ∈ Set.Icc 0 (2 ^ 64))
    (targetMem : rational target ∈ Set.Icc 0 (2 ^ 64))
    (progressMem : rational progress ∈ Set.Icc 0 1) :
    (before + (target - before) * progress).isFinite ∧
      rational (before + (target - before) * progress) =
        rounded (rational before +
          rounded (rounded (rational target - rational before) * rational progress)) ∧
      rational (before + (target - before) * progress) ∈ Set.Icc 0 (2 ^ 65) := by
  obtain ⟨wayFinite, wayEq, wayMem⟩ :=
    difference_mem beforeFinite targetFinite beforeMem targetMem
  obtain ⟨partFinite, partEq, partLow, partHigh⟩ := part_mem wayFinite progressFinite
    (by rwa [neg_neg]) targetMem (rounded_neg_rational beforeFinite)
    (rounded_rational targetFinite) wayMem progressMem
  obtain ⟨beforeNonneg, beforeLe⟩ := beforeMem
  obtain ⟨targetNonneg, targetLe⟩ := targetMem
  obtain ⟨finite, sumEq⟩ := rational_add beforeFinite partFinite
    (abs_rounded_lt_bound 65 (abs_le.mpr ⟨by linarith, by linarith⟩) (by decide))
  refine ⟨finite, by rw [sumEq, partEq, wayEq], ?_⟩
  rw [sumEq]
  exact rounded_mem_two_pow ⟨by linarith, by norm_num; linarith⟩

end Way

/-- In each stage a rate is offered. It lies on the way from the rate before the stage to its target,
as far as the part of the stage that has passed. -/
theorem Profile.exists_rateAt? {profile : Profile} {elapsed : Float} {index : ℕ} {stage : Stage}
    (active : profile.stageAt? elapsed = some index)
    (found : profile.stages[index]? = some stage) (startRate : ℕ) :
    ∃ rate, profile.rateAt? startRate elapsed = some rate ∧ rate.isFinite ∧
      rational rate = roundedRate (rational (Word.toFloat (profile.rateBefore startRate index)))
        (rational (Word.toFloat stage.target)) (rational (Word.toFloat stage.millis))
        (rational (Word.toFloat (profile.elapsedAfter index))) (rational elapsed) ∧
      rational rate ∈ Set.Icc 0 (2 ^ 65) := by
  obtain ⟨-, inside, -, -⟩ := profile.stageAt?_eq_some_iff.mp active
  obtain ⟨progressFinite, progressEq, progressMem⟩ := progress_mem active found
  obtain ⟨beforeFinite, beforeMem⟩ := toFloat_mem (profile.rateBefore startRate index)
  obtain ⟨targetFinite, targetMem⟩ := toFloat_mem stage.target
  have way := way_mem beforeFinite targetFinite progressFinite beforeMem targetMem progressMem
  rw [progressEq] at way
  refine ⟨_, ?_, way⟩
  simp [rateAt?, rateBetween, active, found, profile.startOffset?_eq inside]

section Offered

variable {profile : Profile} {startRate : ℕ} {elapsed rate : Float}
  (offered : profile.rateAt? startRate elapsed = some rate)

include offered

/-- The rate that is offered at a machine number is finite and not below zero, and no greater than
two rates together. -/
theorem Profile.rateAt?_mem : rate.isFinite ∧ rational rate ∈ Set.Icc 0 (2 ^ 65) := by
  obtain ⟨index, active, found⟩ := Option.bind_eq_some_iff.mp offered
  obtain ⟨stage, stageFound, -⟩ := Option.bind_eq_some_iff.mp found
  obtain ⟨same, sameOffered, finite, -, mem⟩ := exists_rateAt? active stageFound startRate
  obtain rfl := Option.some.inj (offered.symm.trans sameOffered)
  exact ⟨finite, mem⟩

theorem Profile.rateAt?_nonneg : rate.isFinite ∧ 0.0 ≤ rate := by
  obtain ⟨finite, nonneg, -⟩ := rateAt?_mem offered
  exact ⟨finite, (zero_le_iff_rational finite).mpr nonneg⟩

end Offered

end ArrivalRamp
