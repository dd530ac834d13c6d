import ArrivalRamp.Proofs.Duration.Seconds
import ArrivalRamp.Proofs.Execution.Arrivals
import ArrivalRamp.Proofs.Pacing.Credit
import ArrivalRamp.Proofs.Pacing.Rate

/-!
The credit of a run. It never falls below zero, so that whether a look spends it as it should
depends only on how far it has grown.
-/

namespace ArrivalRamp

open Binary64

theorem DurationSetting.default_least (setting : DurationSetting) :
    1000000 ≤ setting.default.nanos ∧ setting.default.seconds ≤ Word.maxCount := by
  cases setting <;> decide

/-- Every duration setting is at least a millisecond, and no longer than a count of milliseconds can
hold. -/
theorem DurationSetting.resolve_least (config : Config) (setting : DurationSetting) :
    1000000 ≤ (setting.resolve config).1.nanos ∧
      (setting.resolve config).1.seconds ≤ Word.maxCount := by
  unfold DurationSetting.resolve
  split
  case h_1 text configured =>
    unfold Duration.ofSettingOr
    split
    case h_1 span readable =>
      unfold Duration.ofSetting? at readable
      split at readable
      case h_1 => contradiction
      case h_2 nonzero =>
        obtain rfl := Option.some.inj readable
        have word := Duration.tokenMillis_le (Text.trimBlanks text)
        have some : Duration.tokenMillis (Text.trimBlanks text) ≠ 0 := nonzero
        generalize Duration.tokenMillis (Text.trimBlanks text) = millis at word some ⊢
        change 1000000 ≤ millis * 1000000 ∧ millis * 1000000 / 1000000000 ≤ Word.maxCount
        omega
    case h_2 => exact setting.default_least
  case h_2 => exact setting.default_least

namespace RunSettings

variable {config : Config} {settings : RunSettings} {warnings : List SettingWarning}
  (accepted : ofConfig config = .ok (settings, warnings))

/-- The span that settings have for a duration setting. -/
def duration (settings : RunSettings) : DurationSetting → Span
  | .timeUnit => settings.timeUnit
  | .stop => settings.gracefulStop
  | .timeout => settings.timeout

include accepted

/-- Every duration of accepted settings is at least a millisecond. -/
theorem duration_least (setting : DurationSetting) :
    1000000 ≤ (settings.duration setting).nanos ∧
      (settings.duration setting).seconds ≤ Word.maxCount := by
  unfold ofConfig at accepted
  split at accepted
  · obtain ⟨rfl, -⟩ := Prod.mk.inj (Except.ok.inj accepted)
    have least := DurationSetting.resolve_least config
    cases setting with
    | timeUnit => exact least .timeUnit
    | stop => exact least .stop
    | timeout => exact least .timeout
  · contradiction

/-- Accepted settings have a positive unit of time. -/
theorem timeUnit_pos :
    0 < settings.timeUnit.nanos ∧ settings.timeUnit.seconds ≤ Word.maxCount := by
  obtain ⟨least, word⟩ := duration_least accepted .timeUnit
  exact ⟨Nat.lt_of_lt_of_le (by decide) least, word⟩

end RunSettings

/-- The pace of a run over machine numbers: the credit at the last look, and when that was. -/
structure MachinePace where
  credit : Float
  last : Span

namespace Execution

variable {plan : RunPlan} {now : Span} {execution : Execution} {grown : Float}

def pace (execution : Execution) : MachinePace :=
  ⟨execution.credit, execution.last⟩

/-- The credit that a look at the clock finds, before the arrivals are made. There is none once the
profile has ended. -/
def grown? (plan : RunPlan) (now : Span) (execution : Execution) : Option Float :=
  (plan.profile.rateAt? plan.settings.startRate now.toMillis).map fun rate =>
    Pacing.accrue execution.credit rate (now.since execution.last).toSeconds
      plan.settings.timeUnit.toSeconds

/-- A look spends the credit that has grown. -/
theorem exists_grown {look : Look} (found : execution.watch? plan now = some look) :
    ∃ grown, execution.grown? plan now = some grown ∧
      look.execution.pace = ⟨(Pacing.spend Pacing.greatestCredit 0 grown).2, now⟩ := by
  unfold watch? at found
  obtain ⟨rate, offered, same⟩ := Option.bind_eq_some_iff.mp found
  obtain rfl := Option.some.inj same
  exact ⟨_, congrArg _ offered, rfl⟩

theorem exists_look (found : execution.grown? plan now = some grown) :
    ∃ look, execution.watch? plan now = some look ∧
      (look.arrivals, look.execution.credit) = Pacing.spend Pacing.greatestCredit 0 grown := by
  obtain ⟨rate, offered, rfl⟩ := Option.map_eq_some_iff.mp found
  exact ⟨_, Option.bind_eq_some_iff.mpr ⟨rate, offered, rfl⟩, rfl⟩

/-- A credit that is not below zero does not fall below zero when it grows. -/
theorem zero_le_grown (positive : 0 < plan.settings.timeUnit.nanos)
    (word : plan.settings.timeUnit.seconds ≤ Word.maxCount) (nonneg : 0.0 ≤ execution.credit)
    (found : execution.grown? plan now = some grown) : 0.0 ≤ grown := by
  obtain ⟨rate, offered, rfl⟩ := Option.map_eq_some_iff.mp found
  obtain ⟨rateFinite, rateNonneg⟩ := Profile.rateAt?_nonneg offered
  have gapFinite := (rational_toSeconds (now.since execution.last)).1
  have load := zero_le_mul rateFinite gapFinite rateNonneg (toSeconds_nonneg _)
  exact zero_le_add nonneg
    (zero_le_div load (rational_toSeconds _).1 (toSeconds_pos positive word))

section Unchanged

variable (execution : Execution) (plan : RunPlan) (user : ℕ)

theorem pace_begin (now : Span) : (execution.begin plan user now).pace = execution.pace := by
  unfold Execution.begin
  split <;> rfl

theorem pace_record (answer : Answer) (duration : Span) :
    (execution.record user answer duration).pace = execution.pace := by
  unfold Execution.record
  split <;> rfl

theorem pace_handBack : (execution.handBack user).pace = execution.pace := by
  unfold Execution.handBack
  split <;> rfl

end Unchanged

end Execution

namespace Progress

variable {plan : RunPlan}

section Unchanged

variable (progress : Progress)

theorem pace_offer : progress.offer.execution.pace = progress.execution.pace := by
  unfold Progress.offer
  split
  · split <;> rfl
  · rfl

theorem pace_make : progress.make.execution.pace = progress.execution.pace := by
  unfold Progress.make
  split
  · split <;> rfl
  · rfl

theorem pace_drop : (progress.drop plan).execution.pace = progress.execution.pace := by
  unfold Progress.drop
  split <;> rfl

theorem pace_interrupt : progress.interrupt.execution.pace = progress.execution.pace := by
  unfold Progress.interrupt
  split <;> rfl

end Unchanged

/-- The pace is what it was, or comes from a look that spends a credit that has grown. -/
def PaceFrom (plan : RunPlan) (progress : Progress) (pace : MachinePace) : Prop :=
  pace = progress.execution.pace ∨
    ∃ now grown, progress.execution.grown? plan now = some grown ∧
      pace = ⟨(Pacing.spend Pacing.greatestCredit 0 grown).2, now⟩

theorem paceFrom_look (progress : Progress) (now : Span) :
    progress.PaceFrom plan (progress.look plan now).execution.pace := by
  unfold Progress.look
  split
  · split
    case h_1 look found =>
      obtain ⟨grown, offered, spent⟩ := Execution.exists_grown found
      exact .inr ⟨now, grown, offered, spent⟩
    case h_2 => exact .inl rfl
  · exact .inl rfl

/-- Only a look at the clock changes the pace. -/
theorem paceFrom_step (progress : Progress) (taken : RunStep) :
    progress.PaceFrom plan (progress.step plan taken).execution.pace := by
  cases taken with
  | look now => exact progress.paceFrom_look now
  | offer => exact .inl progress.pace_offer
  | make => exact .inl progress.pace_make
  | drop => exact .inl progress.pace_drop
  | interrupt => exact .inl progress.pace_interrupt
  | begin user now => exact .inl (progress.execution.pace_begin plan user now)
  | record user answer duration =>
      exact .inl (progress.execution.pace_record user answer duration)
  | handBack user => exact .inl (progress.execution.pace_handBack user)

section Positive

variable (positive : 0 < plan.settings.timeUnit.nanos)
  (word : plan.settings.timeUnit.seconds ≤ Word.maxCount) {progress : Progress}
  (nonneg : 0.0 ≤ progress.execution.credit)

include positive word nonneg

theorem zero_le_step (taken : RunStep) : 0.0 ≤ (progress.step plan taken).execution.credit := by
  change 0.0 ≤ (progress.step plan taken).execution.pace.credit
  rcases progress.paceFrom_step taken with kept | ⟨now, grown, offered, spent⟩
  · rw [kept]
    exact nonneg
  · rw [spent]
    exact Pacing.zero_le_spend (Execution.zero_le_grown positive word nonneg offered) _ _

/-- The credit is not below zero after steps in any order. -/
theorem zero_le_steps (taken : List RunStep) :
    0.0 ≤ (progress.steps plan taken).execution.credit := by
  induction taken generalizing progress with
  | nil => exact nonneg
  | cons first taken ih => exact ih (zero_le_step positive word nonneg first)

end Positive

theorem zero_le_start {shards : ℕ} : 0.0 ≤ (start plan shards).execution.credit := by
  change (0.0 : Float) ≤ 0.0
  decide

/-- In every interleaving of a run with accepted settings, the credit that a look at the clock finds
is spent as it should be where it is not beyond the greatest credit, and nowhere else. There the
look has an arrival for each whole credit, and what is left is between zero and one. Beyond,
spending does not end, or it ends with fewer arrivals than there are whole credits. -/
theorem grown_spendsExactly_iff {config : Config} {warnings : List SettingWarning} {grown : Float}
    (plan : RunPlan) (shards : ℕ) (taken : List RunStep) (now : Span)
    (accepted : RunSettings.ofConfig config = .ok (plan.settings, warnings))
    (found : ((start plan shards).steps plan taken).execution.grown? plan now = some grown) :
    let execution := ((start plan shards).steps plan taken).execution
    (Pacing.SpendsExactly grown ↔ grown ≤ Word.toFloat Pacing.greatestCredit) ∧
      (grown ≤ Word.toFloat Pacing.greatestCredit →
        ∃ look, execution.watch? plan now = some look ∧
          look.arrivals = ⌊rational grown⌋₊ ∧
          0.0 ≤ look.execution.credit ∧ look.execution.credit < 1) ∧
      (¬grown ≤ Word.toFloat Pacing.greatestCredit → ∀ arrivals rest,
        Pacing.SpendsTo grown arrivals rest → arrivals < ⌊rational grown⌋₊) := by
  intro execution
  obtain ⟨positive, word⟩ := RunSettings.timeUnit_pos accepted
  have nonneg : 0.0 ≤ grown :=
    Execution.zero_le_grown positive word (zero_le_steps positive word zero_le_start taken) found
  refine ⟨Pacing.spendsExactly_iff nonneg, ?_, ?_⟩
  · intro small
    obtain ⟨rest, ends, restNonneg, below⟩ := (Pacing.spendsExactly_iff nonneg).mpr small
    obtain ⟨look, watched, spent⟩ := Execution.exists_look found
    rw [ends.spend_eq (Pacing.floor_le_greatestCredit nonneg small), Nat.zero_add] at spent
    obtain ⟨arrivals, left⟩ := Prod.mk.inj spent
    rw [← left] at restNonneg below
    exact ⟨look, watched, arrivals, restNonneg, below⟩
  · intro great arrivals rest ends
    exact ends.lt_floor nonneg great

/-- A first look finds seven arrivals and the half of one. -/
theorem grown_spendsExactly_oneUser :
    RunSettings.ofConfig oneUser = .ok (oneUserPlan.settings, []) ∧
      (start oneUserPlan 2).execution.grown? oneUserPlan ⟨2500000⟩ = some 7.5 ∧
      Pacing.SpendsExactly 7.5 := by
  have accepted : RunSettings.ofConfig oneUser = .ok (oneUserPlan.settings, []) := rfl
  have found : (start oneUserPlan 2).execution.grown? oneUserPlan ⟨2500000⟩ = some 7.5 := by
    decide +kernel
  have small : (7.5 : Float) ≤ Word.toFloat Pacing.greatestCredit := by decide +kernel
  have spends := grown_spendsExactly_iff oneUserPlan 2 [] ⟨2500000⟩ accepted found
  exact ⟨accepted, found, spends.1.mpr small⟩

/-- A configuration with the greatest rate for the shortest unit of time. -/
def fastest : Config :=
  { Config.empty with
    baseUrl := some "ftp://x"
    stages := some [⟨"100ms", Word.maxCount⟩]
    startRate := some Word.maxCount
    timeUnit := some "1ms"
    preAllocatedUsers := some 1
    maxUsers := some 1 }

def fastestPlan : RunPlan where
  settings := .resolve fastest
  profile := fastest.profile
  template := ⟨"POST", "ftp://x/", "rampclock", "rampclock", "local", none, [], none⟩

/-- After ten milliseconds, taking one away does not lower the credit. -/
def fastestCredit : Float :=
  184467440737095516160

/-- The greatest rate is accepted, and spending what it has grown to after ten milliseconds does not
end. -/
theorem not_spendsExactly_fastest :
    RunSettings.ofConfig fastest = .ok (fastestPlan.settings, []) ∧
      (start fastestPlan 1).execution.grown? fastestPlan ⟨10000000⟩ = some fastestCredit ∧
      (∀ arrivals rest, ¬Pacing.SpendsTo fastestCredit arrivals rest) ∧
      ¬Pacing.SpendsExactly fastestCredit := by
  have accepted : RunSettings.ofConfig fastest = .ok (fastestPlan.settings, []) := rfl
  have found : (start fastestPlan 1).execution.grown? fastestPlan ⟨10000000⟩ =
      some fastestCredit := by
    decide +kernel
  have finite : fastestCredit.isFinite := by decide +kernel
  have whole : 1 ≤ fastestCredit := by decide +kernel
  have same : fastestCredit - 1 = fastestCredit := by decide +kernel
  have stuck := (Pacing.rational_sub_one finite whole).2
  rw [same] at stuck
  have endless : ∀ arrivals rest, ¬Pacing.SpendsTo fastestCredit arrivals rest := by
    intro arrivals rest
    exact Pacing.not_spendsTo_of_stuck finite ((Pacing.one_le_iff finite).mp whole) stuck.symm
  exact ⟨accepted, found, endless, fun ⟨rest, ends, _⟩ => endless _ rest ends⟩

end Progress

end ArrivalRamp
