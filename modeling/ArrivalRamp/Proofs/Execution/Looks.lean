import ArrivalRamp.Proofs.Execution.Credit
import ArrivalRamp.Proofs.Pacing.Waiting

/-!
The looks at the clock of a run, one after another, as long as spending the credit of each of them
ends. What is left of a credit is less than one, so that the next one stays finite, and no look goes
wrong.
-/

namespace ArrivalRamp

open Binary64

namespace MachinePace

/-- The pace before the first look. -/
def start : MachinePace := ⟨0.0, ⟨0⟩⟩

/-- The credit that a look finds at a rate. -/
def grown (plan : RunPlan) (now : Span) (rate : Float) (pace : MachinePace) : Float :=
  Pacing.accrue pace.credit rate (now.since pace.last).toSeconds plan.settings.timeUnit.toSeconds

/-- A look takes place before the end of the profile, and spending the credit that it finds ends. -/
structure Looks (plan : RunPlan) (now : Span) (rate : Float) (arrivals : ℕ) (rest : Float)
    (pace : MachinePace) : Prop where
  offered : plan.profile.rateAt? plan.settings.startRate now.toMillis = some rate
  ends : Pacing.SpendsTo (pace.grown plan now rate) arrivals rest

/-- The pace after looks one after another, whatever the clock shows. -/
inductive Reached (plan : RunPlan) : MachinePace → Prop where
  | start : Reached plan start
  | look {pace : MachinePace} {now : Span} {rate rest : Float} {arrivals : ℕ}
      (reached : Reached plan pace) (looks : pace.Looks plan now rate arrivals rest) :
      Reached plan ⟨rest, now⟩

/-- The credit is finite, and between zero and one. -/
def IsFractional (pace : MachinePace) : Prop :=
  pace.credit.isFinite ∧ rational pace.credit ∈ Set.Ico 0 1

/-- A look goes well. The rate is finite and not below zero, the unit of time is positive, and the
credit grows without a quotient by zero. What is left of it is finite and between zero and one. The
seconds to the next look are a number between zero and the longest time, which comes of no quotient
by zero and of no limits out of order, and a clock can wait for them. As long as there are no more
arrivals than the greatest credit, all this is what the run finds at the look. -/
structure GoesWell (plan : RunPlan) (now : Span) (rate : Float) (arrivals : ℕ) (rest : Float)
    (pace : MachinePace) : Prop where
  rate_finite : rate.isFinite
  rate_nonneg : 0.0 ≤ rate
  unit_pos : 0.0 < plan.settings.timeUnit.toSeconds
  grows : Pacing.accrue? pace.credit rate (now.since pace.last).toSeconds
    plan.settings.timeUnit.toSeconds = some (pace.grown plan now rate)
  rest_finite : rest.isFinite
  rest_nonneg : 0.0 ≤ rest
  rest_lt : rest < 1
  waits : ∃ seconds,
    let left := (Span.ofMillis plan.profile.total).since now
    Pacing.waitSeconds? rest rate plan.settings.timeUnit.toSeconds (Pacing.mostSeconds left) =
        some seconds ∧
      ¬seconds.isNaN ∧ 0.0 ≤ seconds ∧ seconds ≤ Pacing.mostSeconds left ∧
      Span.ofSeconds? seconds =
        some (Pacing.wait rest rate plan.settings.timeUnit.toSeconds left)
  watched : arrivals ≤ Pacing.greatestCredit → ∀ execution : Execution, execution.pace = pace →
    execution.watch? plan now = some ⟨now.toMillis, arrivals,
      Pacing.wait rest rate plan.settings.timeUnit.toSeconds
        ((Span.ofMillis plan.profile.total).since now),
      { execution with credit := rest, last := now }⟩

variable {plan : RunPlan} {pace : MachinePace} {now : Span} {rate rest : Float} {arrivals : ℕ}

/-- The run finds at a look what the look is said to find, when its steps are enough. -/
theorem Looks.watch_eq (looks : pace.Looks plan now rate arrivals rest)
    (few : arrivals ≤ Pacing.greatestCredit) {execution : Execution}
    (same : execution.pace = pace) :
    execution.watch? plan now = some ⟨now.toMillis, arrivals,
      Pacing.wait rest rate plan.settings.timeUnit.toSeconds
        ((Span.ofMillis plan.profile.total).since now),
      { execution with credit := rest, last := now }⟩ := by
  subst same
  have spent : Pacing.spend Pacing.greatestCredit 0 (execution.pace.grown plan now rate) =
      (arrivals, rest) := by
    rw [looks.ends.spend_eq few, Nat.zero_add]
  simp only [grown, Execution.pace] at spent
  simp [Execution.watch?, looks.offered, spent]

section Accepted

variable {config : Config} {warnings : List SettingWarning}
  (accepted : RunSettings.ofConfig config = .ok (plan.settings, warnings))

include accepted

/-- The unit of time of accepted settings is neither very short nor beyond all bounds. -/
theorem unit_mem :
    plan.settings.timeUnit.toSeconds.isFinite ∧
      1 / 2 ^ 10 ≤ rational plan.settings.timeUnit.toSeconds ∧
      rational plan.settings.timeUnit.toSeconds ∈ Set.Icc 0 (2 ^ 65) := by
  obtain ⟨least, word⟩ := RunSettings.duration_least accepted .timeUnit
  exact ⟨(rational_toSeconds _).1, toSeconds_least least word, toSeconds_mem _⟩

/-- A credit between zero and one grows to a finite one. -/
theorem IsFractional.grown_mem (fractional : pace.IsFractional)
    (offered : plan.profile.rateAt? plan.settings.startRate now.toMillis = some rate) :
    Pacing.accrue? pace.credit rate (now.since pace.last).toSeconds
        plan.settings.timeUnit.toSeconds = some (pace.grown plan now rate) ∧
      (pace.grown plan now rate).isFinite ∧ 0 ≤ rational (pace.grown plan now rate) := by
  obtain ⟨rateFinite, rateMem⟩ := Profile.rateAt?_mem offered
  obtain ⟨unitFinite, least, -⟩ := unit_mem accepted
  exact Pacing.accrue_mem fractional.1 fractional.2 rateFinite rateMem (rational_toSeconds _).1
    (toSeconds_mem _) unitFinite least

/-- A look leaves a credit between zero and one. -/
theorem IsFractional.look (fractional : pace.IsFractional)
    (looks : pace.Looks plan now rate arrivals rest) : IsFractional ⟨rest, now⟩ := by
  obtain ⟨-, finite, nonneg⟩ := fractional.grown_mem accepted looks.offered
  exact looks.ends.rest_mem finite nonneg

/-- All looks leave a credit between zero and one. -/
theorem Reached.isFractional (reached : Reached plan pace) : pace.IsFractional := by
  induction reached with
  | start => exact ⟨isFinite_zero, by simp [MachinePace.start]⟩
  | look reached looks ih => exact ih.look accepted looks

/-- A look with a credit between zero and one goes well. -/
theorem IsFractional.goesWell (fractional : pace.IsFractional)
    (looks : pace.Looks plan now rate arrivals rest) :
    pace.GoesWell plan now rate arrivals rest := by
  obtain ⟨rateFinite, rateNonneg⟩ := Profile.rateAt?_nonneg looks.offered
  obtain ⟨unitFinite, least, unitMem⟩ := unit_mem accepted
  obtain ⟨restFinite, restMem⟩ := fractional.look accepted looks
  obtain ⟨seconds, computed, -, nonneg, limited, waited⟩ :=
    Pacing.exists_waitSeconds restFinite restMem rateFinite unitFinite unitMem
      ((Span.ofMillis plan.profile.total).since now)
  have unitPositive : 0 < rational plan.settings.timeUnit.toSeconds :=
    lt_of_lt_of_le (by positivity) least
  refine ⟨rateFinite, rateNonneg, ?_, (fractional.grown_mem accepted looks.offered).1, restFinite,
    (zero_le_iff_rational restFinite).mpr restMem.1, ?_, ⟨seconds, computed, ?_, nonneg, limited,
    waited⟩, fun few execution same => looks.watch_eq few same⟩
  · rwa [rational_lt_iff isFinite_zero unitFinite, rational_zero]
  · rw [rational_lt_iff restFinite isFinite_one, rational_one]
    exact restMem.2
  · intro none
    exact (not_le_of_isNaN none 0.0).2 nonneg

end Accepted

end MachinePace

namespace Progress

variable {plan : RunPlan} {shards : ℕ}

/-- In an interleaving of a run in which each look leaves no whole credit, the pace is one that looks
come to. -/
theorem reached_steps (taken : List RunStep)
    (ends : ∀ earlier, earlier <+: taken →
      ¬1 ≤ ((start plan shards).steps plan earlier).execution.credit) :
    MachinePace.Reached plan ((start plan shards).steps plan taken).execution.pace := by
  induction taken using List.reverseRecOn with
  | nil => exact .start
  | append_singleton taken last ih =>
      have before := ih fun earlier begins => ends earlier (begins.trans (List.prefix_append _ _))
      have spent := ends _ (List.prefix_refl _)
      have next : (start plan shards).steps plan (taken ++ [last]) =
          ((start plan shards).steps plan taken).step plan last := by
        simp [steps]
      rw [next] at spent ⊢
      generalize (start plan shards).steps plan taken = progress at *
      change ¬1 ≤ (progress.step plan last).execution.pace.credit at spent
      rcases progress.paceFrom_step last with kept | ⟨now, grown, found, same⟩
      · rw [kept]
        exact before
      · rw [same] at spent ⊢
        obtain ⟨rate, offered, rfl⟩ := Option.map_eq_some_iff.mp found
        obtain ⟨arrivals, spends, -⟩ := Pacing.exists_spendsTo spent
        exact .look before ⟨offered, spends⟩

/-- No look of a run with accepted settings goes wrong, as long as spending the credits of all looks
before it and its own ends. All durations of the settings are at least a millisecond. The pace in an
interleaving of the run is one that such looks come to, when each look leaves no whole credit. -/
theorem looks_goWell {config : Config} {warnings : List SettingWarning} (plan : RunPlan)
    (accepted : RunSettings.ofConfig config = .ok (plan.settings, warnings)) :
    (∀ setting, 1000000 ≤ (plan.settings.duration setting).nanos) ∧
      (∀ pace, MachinePace.Reached plan pace → ∀ now rate arrivals rest,
        pace.Looks plan now rate arrivals rest → pace.GoesWell plan now rate arrivals rest) ∧
      ∀ shards taken,
        (∀ earlier, earlier <+: taken →
          ¬1 ≤ ((start plan shards).steps plan earlier).execution.credit) →
        MachinePace.Reached plan ((start plan shards).steps plan taken).execution.pace := by
  refine ⟨fun setting => (RunSettings.duration_least accepted setting).1, ?_,
    fun shards taken => reached_steps taken⟩
  intro pace reached now rate arrivals rest looks
  exact (reached.isFractional accepted).goesWell accepted looks

/-- The second look finds eight arrivals, and waits for a part of a millisecond. -/
theorem looks_goWell_oneUser :
    RunSettings.ofConfig oneUser = .ok (oneUserPlan.settings, []) ∧
      MachinePace.Reached oneUserPlan ⟨0.5, ⟨2500000⟩⟩ ∧
      MachinePace.Looks oneUserPlan ⟨5000000⟩ 3000.0 8 0.0 ⟨0.5, ⟨2500000⟩⟩ ∧
      MachinePace.GoesWell oneUserPlan ⟨5000000⟩ 3000.0 8 0.0 ⟨0.5, ⟨2500000⟩⟩ := by
  have accepted : RunSettings.ofConfig oneUser = .ok (oneUserPlan.settings, []) := rfl
  have first : MachinePace.start.Looks oneUserPlan ⟨2500000⟩ 3000.0 7 0.5 :=
    ⟨by decide +kernel, Pacing.spendsTo_iff.mpr ⟨⟨7, by decide +kernel⟩, by decide +kernel⟩⟩
  have second : MachinePace.Looks oneUserPlan ⟨5000000⟩ 3000.0 8 0.0 ⟨0.5, ⟨2500000⟩⟩ :=
    ⟨by decide +kernel, Pacing.spendsTo_iff.mpr ⟨⟨8, by decide +kernel⟩, by decide +kernel⟩⟩
  have reached : MachinePace.Reached oneUserPlan ⟨0.5, ⟨2500000⟩⟩ := .look .start first
  exact ⟨accepted, reached, second,
    (looks_goWell oneUserPlan accepted).2.1 _ reached _ _ _ _ second⟩

end Progress

end ArrivalRamp
