import ArrivalRamp.Config.Overrides
import ArrivalRamp.Config.Settings
import Mathlib.Tactic

/-!
A diagnosis and a run judge a configuration alike. A run is refused for the problems that the
diagnosis calls fatal, and otherwise it warns of every problem that the diagnosis finds, in its
order.
-/

namespace ArrivalRamp

/-- The warning of a run about a problem that does not stop it. In place of an invalid duration the
run tells of the default that it takes. -/
def Problem.warning : Problem → SettingWarning
  | .invalidDuration setting value => .duration ⟨value, setting.name, setting.default⟩
  | problem => .problem problem

namespace Problem

variable {problem : Problem}

theorem warning_of_isTolerated (tolerated : problem.isTolerated) :
    problem.warning = .problem problem := by
  cases problem <;> first | rfl | cases tolerated

@[simp]
theorem isFatal_true : problem.isFatal true = true := by
  cases problem <;> rfl

end Problem

/-- A check finds no other problem than its own. -/
theorem eq_of_mem_guarded {check : Prop} [Decidable check] {problem own : Problem}
    (found : problem ∈ if check then [own] else []) : problem = own :=
  List.mem_singleton.mp (List.mem_ite_nil_right.mp found).2

/-- No problem of a stage stops a run that is not strict. -/
theorem isTolerated_of_mem_stageProblems {first : ℕ} {steps : List ScheduleStep} {problem : Problem}
    (found : problem ∈ stageProblems first steps) : problem.isTolerated := by
  induction steps generalizing first with
  | nil => cases found
  | cons step steps ih =>
      rcases List.mem_append.mp found with here | later
      · rcases List.mem_append.mp here with duration | target
        · obtain rfl := eq_of_mem_guarded duration
          rfl
        · obtain rfl := eq_of_mem_guarded target
          rfl
      · exact ih later

namespace DurationSetting

/-- The duration settings in the order in which they are looked at. -/
def all : List DurationSetting :=
  [.timeUnit, .stop, .timeout]

/-- A run tells of a default for the value that the diagnosis finds invalid, and for no other. -/
theorem unreadable_resolve (setting : DurationSetting) (config : Config) :
    (setting.resolve config).2.toList.map SettingWarning.duration =
      (durationProblem setting (setting.value? config)).map Problem.warning := by
  unfold resolve durationProblem
  cases setting.value? config with
  | none => rfl
  | some text =>
      dsimp only
      unfold Duration.ofSettingOr
      cases Duration.ofSetting? text <;> rfl

theorem not_isTolerated_of_mem {setting : DurationSetting} {value : Option String}
    {problem : Problem} (found : problem ∈ durationProblem setting value) :
    problem.isTolerated = false := by
  unfold durationProblem at found
  cases value with
  | none => cases found
  | some text =>
      obtain rfl := eq_of_mem_guarded found
      rfl

end DurationSetting

namespace Config

variable (config : Config)

/-- The problems of the stages. -/
def scheduleProblems : List Problem :=
  match config.stages.getD [] with
  | [] => [.noStages]
  | steps => stageProblems 0 steps

/-- The problems of the duration settings. -/
def durationProblems : List Problem :=
  DurationSetting.all.flatMap fun setting => durationProblem setting (setting.value? config)

/-- The problems of the number of users and of the address. -/
def limitProblems : List Problem :=
  (match config.preAllocatedUsers, config.maxUsers with
    | some preAllocated, some max =>
      if max < preAllocated then [.userBounds preAllocated max] else []
    | _, _ => []) ++
  (if (config.baseUrl.getD "").isEmpty then [.missingBaseUrl] else [])

theorem problems_eq :
    config.problems = config.scheduleProblems ++ config.durationProblems ++ config.limitProblems := by
  have durations : config.durationProblems = durationProblem .timeUnit config.timeUnit ++
      durationProblem .stop config.stop ++ durationProblem .timeout config.timeout := by
    simp [durationProblems, DurationSetting.all, DurationSetting.value?]
  rw [durations, limitProblems]
  simp only [← List.append_assoc]
  rfl

variable {config} {problem : Problem} {strict : Bool}

theorem isTolerated_of_mem_scheduleProblems (found : problem ∈ config.scheduleProblems)
    (harmless : problem.isFatal strict = false) : problem.isTolerated := by
  unfold scheduleProblems at found
  split at found
  · obtain rfl := List.mem_singleton.mp found
    cases strict <;> cases harmless
  · exact isTolerated_of_mem_stageProblems found

theorem not_isTolerated_of_mem_durationProblems (found : problem ∈ config.durationProblems) :
    problem.isTolerated = false := by
  obtain ⟨setting, -, mem⟩ := List.mem_flatMap.mp found
  exact DurationSetting.not_isTolerated_of_mem mem

/-- The problems of the number of users and of the address stop every run. -/
theorem isFatal_of_mem_limitProblems (found : problem ∈ config.limitProblems) :
    problem.isFatal strict := by
  rcases List.mem_append.mp found with bounds | address
  · split at bounds
    · obtain rfl := eq_of_mem_guarded bounds
      cases strict <;> rfl
    · cases bounds
  · obtain rfl := eq_of_mem_guarded address
    cases strict <;> rfl

end Config

namespace RunSettings

variable (config : Config)

/-- The defaults that a run takes are those for the problems of the duration settings. -/
theorem unreadables_eq :
    (([DurationSetting.timeUnit, .stop, .timeout].filterMap fun setting =>
        (setting.resolve config).2).map SettingWarning.duration) =
      config.durationProblems.map Problem.warning := by
  unfold Config.durationProblems
  rw [List.filterMap_eq_flatMap_toList, List.map_flatMap, List.map_flatMap]
  simp only [DurationSetting.unreadable_resolve]
  rfl

variable {config}

/-- A run that nothing stops warns of every problem, in the order of the diagnosis. -/
theorem warnings_eq {strict : Bool}
    (harmless : ∀ problem ∈ config.problems, problem.isFatal strict = false) :
    warnings config = config.problems.map Problem.warning := by
  -- Only the stages have tolerated problems, and nothing comes after the durations.
  have split := config.problems_eq
  have limits : config.limitProblems = [] := by
    rw [List.eq_nil_iff_forall_not_mem]
    intro problem found
    have inside : problem ∈ config.problems := split ▸ List.mem_append_right _ found
    exact Bool.false_ne_true ((harmless problem inside).symm.trans
      (Config.isFatal_of_mem_limitProblems found))
  have schedule : ∀ problem ∈ config.scheduleProblems, problem.isTolerated := by
    intro problem found
    have inside : problem ∈ config.problems :=
      split ▸ List.mem_append_left _ (List.mem_append_left _ found)
    exact Config.isTolerated_of_mem_scheduleProblems found (harmless problem inside)
  have durations : config.durationProblems.filter Problem.isTolerated = [] := by
    rw [List.filter_eq_nil_iff]
    intro problem found
    simp [Config.not_isTolerated_of_mem_durationProblems found]
  unfold warnings
  rw [split, limits, List.append_nil, List.filter_append, List.filter_eq_self.mpr schedule,
    durations, List.append_nil, unreadables_eq, List.map_append]
  congr 1
  apply List.map_congr_left
  intro problem found
  exact (Problem.warning_of_isTolerated (schedule problem found)).symm

theorem ofConfig_eq_ok_iff {settings : RunSettings} {found : List SettingWarning} :
    ofConfig config = .ok (settings, found) ↔
      (∀ problem ∈ config.problems, problem.isFatal config.isStrict = false) ∧
        resolve config = settings ∧ config.problems.map Problem.warning = found := by
  unfold ofConfig
  split
  · next none =>
    have harmless : ∀ problem ∈ config.problems, problem.isFatal config.isStrict = false := by
      simpa [List.filter_eq_nil_iff] using none
    rw [Except.ok.injEq, Prod.mk.injEq, warnings_eq harmless]
    exact (and_iff_right harmless).symm
  · next some =>
    refine iff_of_false nofun ?_
    rintro ⟨harmless, -⟩
    exact some (List.filter_eq_nil_iff.mpr fun problem inside => by simp [harmless problem inside])

theorem ofConfig_eq_error_iff {invalid : InvalidConfig} :
    ofConfig config = .error invalid ↔
      (∃ problem ∈ config.problems, problem.isFatal config.isStrict) ∧
        config.problems.filter (Problem.isFatal config.isStrict) = invalid.problems := by
  unfold ofConfig
  split
  · next none =>
    refine iff_of_false nofun ?_
    rintro ⟨⟨problem, inside, fatal⟩, -⟩
    exact List.filter_eq_nil_iff.mp none problem inside fatal
  · next some =>
    have fatal : ∃ problem ∈ config.problems, problem.isFatal config.isStrict := by
      simpa [List.filter_eq_nil_iff] using some
    rw [Except.error.injEq, and_iff_right fatal]
    exact ⟨congrArg InvalidConfig.problems, congrArg InvalidConfig.mk⟩

end RunSettings

namespace Config

variable (config : Config) (strict : Bool)

@[simp]
theorem problems_withStrict : (config.withStrict strict).problems = config.problems := by
  cases strict <;> rfl

@[simp]
theorem isStrict_withStrict :
    (config.withStrict strict).isStrict = (strict || config.isStrict) := by
  cases strict <;> rfl

/-- The fatal findings are the problems that stop a run of this strictness. -/
theorem fatal_findings :
    ((config.findings strict).filter Finding.fatal).map Finding.problem =
      (config.withStrict strict).problems.filter
        (Problem.isFatal (config.withStrict strict).isStrict) := by
  simp [findings, List.filter_map, Function.comp_def]

theorem exists_fatal_finding_iff :
    (∃ finding ∈ config.findings strict, finding.fatal) ↔
      ∃ problem ∈ (config.withStrict strict).problems,
        problem.isFatal (config.withStrict strict).isStrict := by
  simp [findings]

end Config

namespace RunSettings

/-- Strictness accepts no configuration with a problem. -/
theorem problems_eq_nil_of_strict {config : Config} {settings : RunSettings}
    {found : List SettingWarning}
    (accepted : ofConfig { config with strict := some true } = .ok (settings, found)) :
    config.problems = [] := by
  rw [List.eq_nil_iff_forall_not_mem]
  intro problem inside
  have harmless : problem.isFatal true = false :=
    (ofConfig_eq_ok_iff.mp accepted).1 problem inside
  rw [Problem.isFatal_true] at harmless
  cases harmless

/-- A run is refused exactly when the diagnosis finds something fatal, and it tells of the fatal
findings in their order. A run that is not refused gives one warning for each finding, in the same
order. A configuration that strictness accepts gives the same settings without it, and there is
nothing to warn of. -/
theorem ofConfig_judges_findings (config : Config) (strict : Bool) :
    ((∃ invalid, ofConfig (config.withStrict strict) = .error invalid) ↔
      ∃ finding ∈ config.findings strict, finding.fatal) ∧
    (∀ invalid, ofConfig (config.withStrict strict) = .error invalid →
      invalid.problems = ((config.findings strict).filter Finding.fatal).map Finding.problem ∧
        invalid.message = "Invalid configuration:\n  " ++ String.intercalate "\n  "
          (((config.findings strict).filter Finding.fatal).map (·.problem.message))) ∧
    (∀ settings found, ofConfig (config.withStrict strict) = .ok (settings, found) →
      found = (config.findings strict).map (·.problem.warning)) ∧
    ∀ settings found, ofConfig { config with strict := some true } = .ok (settings, found) →
      found = [] ∧ ∀ flag, ofConfig { config with strict := flag } = .ok (settings, []) := by
  refine ⟨?_, ?_, ?_, ?_⟩
  · simp only [ofConfig_eq_error_iff, config.exists_fatal_finding_iff]
    constructor
    · rintro ⟨invalid, fatal, -⟩
      exact fatal
    · intro fatal
      exact ⟨⟨_⟩, fatal, rfl⟩
  · intro invalid refused
    have listed := (ofConfig_eq_error_iff.mp refused).2
    rw [← config.fatal_findings strict] at listed
    refine ⟨listed.symm, ?_⟩
    unfold InvalidConfig.message
    rw [← listed, List.map_map]
    rfl
  · intro settings found accepted
    obtain ⟨-, -, warned⟩ := ofConfig_eq_ok_iff.mp accepted
    rw [← warned, config.problems_withStrict, Config.findings, List.map_map]
    rfl
  · intro settings found accepted
    have clean := problems_eq_nil_of_strict accepted
    obtain ⟨-, resolved, warned⟩ := ofConfig_eq_ok_iff.mp accepted
    have silent : config.problems.map Problem.warning = [] := by rw [clean, List.map_nil]
    refine ⟨warned.symm.trans silent, fun flag => ofConfig_eq_ok_iff.mpr ⟨?_, resolved, silent⟩⟩
    intro problem inside
    exact absurd (clean ▸ inside) List.not_mem_nil

/-- A configuration of two stages with the length of the first one and a timeout. -/
def twoSteps (length timeout : String) : Config :=
  { Config.empty with
    baseUrl := some "http://localhost:8080"
    stages := some [⟨length, 5⟩, ⟨"1m", 10⟩]
    timeout := some timeout }

theorem findings_twoSteps (strict : Bool) :
    (twoSteps "3 minutes" "soon").findings strict =
      [⟨.unrecognizedDuration 0 "3 minutes", strict⟩,
        ⟨.invalidDuration .timeout "soon", strict⟩] := by
  cases strict <;> decide +kernel

theorem problems_twoSteps : (twoSteps "3m" "5s").problems = [] := by
  decide +kernel

theorem ofConfig_judges_findings_twoSteps :
    (∃ settings, ofConfig ((twoSteps "3 minutes" "soon").withStrict false) =
      .ok (settings, [.problem (.unrecognizedDuration 0 "3 minutes"),
        .duration ⟨"soon", "timeout", .ofMillis 60000⟩])) ∧
    (∃ invalid, ofConfig ((twoSteps "3 minutes" "soon").withStrict true) = .error invalid ∧
      invalid.problems =
        [.unrecognizedDuration 0 "3 minutes", .invalidDuration .timeout "soon"]) ∧
    ∃ settings, ∀ flag, ofConfig { twoSteps "3m" "5s" with strict := flag } = .ok (settings, []) := by
  refine ⟨?_, ?_, ?_⟩
  · obtain ⟨refused, -, warned, -⟩ := ofConfig_judges_findings (twoSteps "3 minutes" "soon") false
    rw [findings_twoSteps] at refused warned
    cases judged : ofConfig ((twoSteps "3 minutes" "soon").withStrict false) with
    | error invalid => simp [judged] at refused
    | ok accepted =>
        obtain ⟨settings, found⟩ := accepted
        obtain rfl := warned settings found judged
        exact ⟨settings, rfl⟩
  · obtain ⟨refused, listed, -⟩ := ofConfig_judges_findings (twoSteps "3 minutes" "soon") true
    rw [findings_twoSteps] at refused listed
    obtain ⟨invalid, judged⟩ := refused.mpr (by simp)
    exact ⟨invalid, judged, (listed invalid judged).1⟩
  · obtain ⟨-, -, -, relaxed⟩ := ofConfig_judges_findings (twoSteps "3m" "5s") false
    have clean : ∀ problem ∈ (twoSteps "3m" "5s").problems, problem.isFatal true = false := by
      simp [problems_twoSteps]
    exact ⟨_, (relaxed _ _ (ofConfig_eq_ok_iff.mpr ⟨clean, rfl, rfl⟩)).2⟩

end RunSettings

end ArrivalRamp
