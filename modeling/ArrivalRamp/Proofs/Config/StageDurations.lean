import ArrivalRamp.Proofs.Config.Judgement
import ArrivalRamp.Proofs.Duration.Spelling
import ArrivalRamp.Proofs.Profile.Boundaries

/-!
The diagnosis and the profile agree on the lengths of stages. A stage is reported exactly when its
text spells no length, and the profile then gives it none.
-/

namespace ArrivalRamp

namespace Duration

variable {text : String}

/-- A text is a way to write zero when it spells no milliseconds. -/
theorem isZeroToken_iff : isZeroToken text ↔ Spells text 0 := by
  simp only [isZeroToken, Bool.and_eq_true, Bool.not_eq_true', List.isEmpty_eq_false_iff,
    List.all_eq_true, beq_iff_eq, List.any_eq_true]
  constructor
  · rintro ⟨⟨nonempty, zeros⟩, unit, -, letters⟩
    have before : Text.trimEnd Char.isAlpha text.toList <+: text.toList := Text.trimEnd_prefix _
    have parts := List.prefix_iff_eq_append.mp before
    rw [← letters] at parts
    have proper : DurationToken.IsProper ⟨Text.trimEnd Char.isAlpha text.toList, unit⟩ :=
      ⟨nonempty, fun digit inside => by rw [zeros digit inside]; rfl⟩
    exact ⟨_, proper, parts.symm, proper.exactMillis_eq_zero_iff.mpr zeros, Nat.zero_le _⟩
  · rintro ⟨token, proper, written, zero, -⟩
    have zeros : ∀ digit ∈ token.magnitude, digit = '0' := proper.exactMillis_eq_zero_iff.mp zero
    have digits : Text.trimEnd Char.isAlpha text.toList = token.magnitude := by
      rw [written]
      refine Text.trimEnd_append token.unit.isAlpha_of_mem_letters fun digit last => ?_
      rw [zeros digit (List.mem_of_getLast? last)]
      rfl
    rw [digits, written, DurationToken.write, List.drop_left]
    exact ⟨⟨proper.nonempty, zeros⟩, token.unit, token.unit.mem_all, rfl⟩

/-- A way to write zero is a token whose magnitude is made of zeros. -/
theorem isZeroToken_eq (text : String) :
    isZeroToken text =
      (DurationToken.ofText? text.toList).any fun token => token.magnitude.all (· == '0') := by
  rw [Bool.eq_iff_iff, isZeroToken_iff]
  constructor
  · rintro ⟨token, proper, written, zero, -⟩
    rw [written, proper.ofText?_write]
    simpa using proper.exactMillis_eq_zero_iff.mp zero
  · intro zero
    cases found : DurationToken.ofText? text.toList with
    | none => rw [found] at zero; cases zero
    | some token =>
        rw [found] at zero
        have zeros : ∀ digit ∈ token.magnitude, digit = '0' := by simpa using zero
        obtain ⟨written, nonempty, -⟩ := DurationToken.ofText?_eq_some found
        have proper : token.IsProper :=
          ⟨nonempty, fun digit inside => by rw [zeros digit inside]; rfl⟩
        exact ⟨token, proper, written, proper.exactMillis_eq_zero_iff.mpr zeros, Nat.zero_le _⟩

/-- A text spells no length when it is worth nothing without being a way to write zero. -/
theorem not_spells_iff :
    (∀ millis, ¬Spells text millis) ↔ tokenMillis text = 0 ∧ isZeroToken text = false := by
  rw [Bool.eq_false_iff, Ne, isZeroToken_iff]
  constructor
  · intro unspelled
    exact ⟨of_not_not fun positive => unspelled _ (spells_tokenMillis positive), unspelled 0⟩
  · rintro ⟨zero, nonzero⟩ millis spells
    rw [spells.tokenMillis_eq] at zero
    exact nonzero (zero ▸ spells)

end Duration

namespace Problem

/-- The problem is an unrecognized duration of the stage. -/
def isUnrecognizedAt (stage : ℕ) : Problem → Bool
  | .unrecognizedDuration found _ => found == stage
  | _ => false

theorem eq_of_isUnrecognizedAt {stage : ℕ} {problem : Problem}
    (found : problem.isUnrecognizedAt stage) :
    ∃ token, problem = .unrecognizedDuration stage token := by
  cases problem with
  | unrecognizedDuration own token =>
      obtain rfl := beq_iff_eq.mp found
      exact ⟨token, rfl⟩
  | _ => cases found

end Problem

namespace ScheduleStep

/-- Other stages report nothing about the duration of a stage. -/
theorem filter_problems_of_ne {step : ScheduleStep} {index stage : ℕ} (other : index ≠ stage) :
    (step.problems index).filter (Problem.isUnrecognizedAt stage) = [] := by
  rw [List.filter_eq_nil_iff]
  intro problem found
  rcases List.mem_append.mp found with duration | target
  · obtain rfl := eq_of_mem_guarded duration
    simpa [Problem.isUnrecognizedAt] using other
  · obtain rfl := eq_of_mem_guarded target
    exact Bool.false_ne_true

/-- A stage reports its duration when nothing is spelled by it. -/
theorem filter_problems (step : ScheduleStep) (index : ℕ) :
    (step.problems index).filter (Problem.isUnrecognizedAt index) =
      if Duration.tokenMillis step.duration = 0 && !isZeroToken step.duration then
        [.unrecognizedDuration index step.duration] else [] := by
  unfold ScheduleStep.problems
  rw [List.filter_append]
  split_ifs <;> simp [Problem.isUnrecognizedAt]

end ScheduleStep

theorem filter_stageProblems_of_lt {first stage : ℕ} (steps : List ScheduleStep)
    (before : stage < first) :
    (stageProblems first steps).filter (Problem.isUnrecognizedAt stage) = [] := by
  induction steps generalizing first with
  | nil => rfl
  | cons step steps ih =>
      rw [stageProblems, List.filter_append, ScheduleStep.filter_problems_of_ne before.ne',
        ih (by omega), List.append_nil]

/-- Of all stages only the stage itself reports its duration. -/
theorem filter_stageProblems {steps : List ScheduleStep} {index : ℕ} {step : ScheduleStep}
    (found : steps[index]? = some step) (first : ℕ) :
    (stageProblems first steps).filter (Problem.isUnrecognizedAt (first + index)) =
      (step.problems (first + index)).filter (Problem.isUnrecognizedAt (first + index)) := by
  induction steps generalizing first index with
  | nil => cases found
  | cons own steps ih =>
      rw [stageProblems, List.filter_append]
      cases index with
      | zero =>
          obtain rfl := Option.some.inj found
          rw [Nat.add_zero, filter_stageProblems_of_lt steps (Nat.lt_succ_self first),
            List.append_nil]
      | succ index =>
          have later := ih found (first + 1)
          rw [Nat.add_right_comm] at later
          rw [ScheduleStep.filter_problems_of_ne (by omega), List.nil_append]
          exact later

namespace Config

variable {config : Config} {steps : List ScheduleStep} {index : ℕ} {step : ScheduleStep}

/-- Of all problems only those of a stage tell of its duration. -/
theorem filter_problems (listed : config.stages = some steps) (found : steps[index]? = some step) :
    config.problems.filter (Problem.isUnrecognizedAt index) =
      if Duration.tokenMillis step.duration = 0 && !isZeroToken step.duration then
        [.unrecognizedDuration index step.duration] else [] := by
  have schedule : config.scheduleProblems = stageProblems 0 steps := by
    unfold scheduleProblems
    rw [listed, Option.getD_some]
    cases steps with
    | nil => cases found
    | cons first others => rfl
  have durations : config.durationProblems.filter (Problem.isUnrecognizedAt index) = [] := by
    rw [List.filter_eq_nil_iff]
    intro problem inside unrecognized
    obtain ⟨token, rfl⟩ := Problem.eq_of_isUnrecognizedAt unrecognized
    cases not_isTolerated_of_mem_durationProblems inside
  have limits : config.limitProblems.filter (Problem.isUnrecognizedAt index) = [] := by
    rw [List.filter_eq_nil_iff]
    intro problem inside unrecognized
    obtain ⟨token, rfl⟩ := Problem.eq_of_isUnrecognizedAt unrecognized
    have fatal : (Problem.unrecognizedDuration index token).isFatal false :=
      isFatal_of_mem_limitProblems inside
    cases fatal
  have own := filter_stageProblems found 0
  rw [Nat.zero_add] at own
  rw [problems_eq, List.filter_append, List.filter_append, durations, limits, List.append_nil,
    List.append_nil, schedule, own]
  exact step.filter_problems index

/-- A stage whose text spells some milliseconds is not reported. -/
theorem filter_problems_of_spells (listed : config.stages = some steps)
    (found : steps[index]? = some step) {millis : ℕ}
    (spells : Duration.Spells step.duration millis) :
    config.problems.filter (Problem.isUnrecognizedAt index) = [] := by
  rw [filter_problems listed found, if_neg]
  intro check
  have unspelled := Duration.not_spells_iff.mpr (show _ ∧ _ by simpa using check)
  exact unspelled millis spells

/-- A stage whose text spells none is reported once. -/
theorem filter_problems_of_not_spells (listed : config.stages = some steps)
    (found : steps[index]? = some step)
    (unspelled : ∀ millis, ¬Duration.Spells step.duration millis) :
    config.problems.filter (Problem.isUnrecognizedAt index) =
      [.unrecognizedDuration index step.duration] := by
  obtain ⟨zero, nonzero⟩ := Duration.not_spells_iff.mp unspelled
  rw [filter_problems listed found, if_pos]
  simp [zero, nonzero]

/-- The stages of the profile are the configured ones. -/
theorem getElem?_stages (listed : config.stages = some steps) (found : steps[index]? = some step) :
    config.profile.stages[index]? = some ⟨step.target, step.duration⟩ := by
  unfold profile Profile.ofPairs Profile.ofStages
  rw [listed]
  simp [found]

/-- The diagnosis reports a stage once when its text spells no milliseconds, and not at all when it
spells some. The profile gives the stage the milliseconds that its text spells, and none when it is
reported. So a stage takes no time exactly when its text is a way to write zero or it is reported. A
way to write zero, which is told by its letters and what stands before them, is a token of zeros. -/
theorem stage_reported_or_spelled (config : Config) (index : ℕ)
    (listed : config.stages = some steps) (found : steps[index]? = some step) :
    let reported := config.problems.filter (Problem.isUnrecognizedAt index)
    (reported.length = 1 ↔ ¬∃ millis, Duration.Spells step.duration millis) ∧
    (∃ stage start, config.profile.stages[index]? = some stage ∧
      config.profile.startOffset? index = some start ∧
      config.profile.boundary? index = some (Word.addCount start stage.millis) ∧
      (∀ millis, Duration.Spells step.duration millis → reported = [] ∧ stage.millis = millis) ∧
      (reported.length = 1 →
        reported = [.unrecognizedDuration index step.duration] ∧ stage.millis = 0) ∧
      (stage.millis = 0 ↔ isZeroToken step.duration ∨ reported.length = 1)) ∧
    (isZeroToken step.duration ↔ Duration.Spells step.duration 0) ∧
    isZeroToken step.duration = (DurationToken.ofText? step.duration.toList).any fun token =>
      token.magnitude.all (· == '0') := by
  intro reported
  have once_iff : reported.length = 1 ↔ ¬∃ millis, Duration.Spells step.duration millis := by
    constructor
    · rintro once ⟨millis, spells⟩
      have none : reported = [] := filter_problems_of_spells listed found spells
      rw [none] at once
      cases once
    · intro unspelled
      exact congrArg List.length
        (filter_problems_of_not_spells listed found (not_exists.mp unspelled))
  have stage := getElem?_stages listed found
  have inside : index < config.profile.size := (Array.getElem?_eq_some_iff.mp stage).1
  have boundary := config.profile.boundary?_eq inside
  rw [config.profile.elapsedAfter_succ stage] at boundary
  refine ⟨once_iff, ⟨_, _, stage, config.profile.startOffset?_eq inside, boundary, ?_, ?_, ?_⟩,
    Duration.isZeroToken_iff, Duration.isZeroToken_eq _⟩
  · intro millis spells
    exact ⟨filter_problems_of_spells listed found spells, spells.tokenMillis_eq⟩
  · intro once
    have unspelled := not_exists.mp (once_iff.mp once)
    exact ⟨filter_problems_of_not_spells listed found unspelled,
      (Duration.not_spells_iff.mp unspelled).1⟩
  · rw [once_iff, not_exists, Duration.not_spells_iff]
    constructor
    · intro zero
      cases shape : isZeroToken step.duration with
      | true => exact .inl rfl
      | false => exact .inr ⟨zero, rfl⟩
    · rintro (shape | ⟨zero, -⟩)
      · exact (Duration.isZeroToken_iff.mp shape).tokenMillis_eq
      · exact zero

/-- Stages with a text that is no length, with a way to write zero, and with five seconds. -/
def mixedStages : Config :=
  { empty with stages := some [⟨"3 minutes", 5⟩, ⟨"00m", 5⟩, ⟨"05s", 10⟩] }

theorem stage_reported_or_spelled_mixedStages :
    (¬∃ millis, Duration.Spells "3 minutes" millis) ∧
      mixedStages.problems.filter (Problem.isUnrecognizedAt 0) =
        [.unrecognizedDuration 0 "3 minutes"] ∧
      isZeroToken "00m" ∧
      mixedStages.problems.filter (Problem.isUnrecognizedAt 1) = [] ∧
      Duration.Spells "05s" 5000 ∧
      mixedStages.problems.filter (Problem.isUnrecognizedAt 2) = [] ∧
      mixedStages.profile.boundaries = #[0, 0, 5000] := by
  obtain ⟨counted, ⟨_, _, _, _, _, _, alone, _⟩, -⟩ :=
    stage_reported_or_spelled mixedStages 0 rfl rfl
  obtain ⟨-, ⟨_, _, _, _, _, zeros, _⟩, shape, -⟩ :=
    stage_reported_or_spelled mixedStages 1 rfl rfl
  obtain ⟨-, ⟨_, _, _, _, _, seconds, _⟩, -⟩ :=
    stage_reported_or_spelled mixedStages 2 rfl rfl
  have once : (mixedStages.problems.filter (Problem.isUnrecognizedAt 0)).length = 1 := by
    decide +kernel
  have zero : Duration.Spells "00m" 0 :=
    ⟨⟨['0', '0'], .minute⟩, ⟨by decide, List.all_eq_true.mp rfl⟩, rfl, rfl, by decide⟩
  have five : Duration.Spells "05s" 5000 :=
    ⟨⟨['0', '5'], .second⟩, ⟨by decide, List.all_eq_true.mp rfl⟩, rfl, rfl, by decide⟩
  exact ⟨counted.mp once, (alone once).1, shape.mpr zero, (zeros 0 zero).1, five,
    (seconds 5000 five).1, by decide +kernel⟩

end Config

end ArrivalRamp
