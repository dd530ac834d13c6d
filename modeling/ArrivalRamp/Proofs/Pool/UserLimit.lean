import ArrivalRamp.Proofs.Config.Judgement
import ArrivalRamp.Proofs.Pool.Sharing

/-!
The users of a run and the limit that its configuration sets for them. A run keeps to the limit when
the configuration also says how many users are made before the start. Where it leaves this number
out, the default for it counts for more than a lower limit.
-/

namespace ArrivalRamp

namespace PoolUse

variable {use : PoolUse} {limit : ℕ}

theorem IsSound.length_slots (sound : use.IsSound limit) :
    use.slots.length = use.pool.created := by
  have length := sound.users.length_eq
  rwa [List.length_map, List.length_range'] at length

/-- Only users that were made are out. -/
theorem IsSound.length_out_le (sound : use.IsSound limit) :
    use.out.length ≤ use.pool.created := by
  rw [← sound.length_slots, slots, List.length_append]
  exact Nat.le_add_left _ _

/-- In whatever order clients take their steps, no more users than a number are made, and no more
than that are out at once. -/
def StaysWithin (most preAllocated limit : ℕ) : Prop :=
  ∀ taken use, (start preAllocated limit).steps? taken = some use →
    use.pool.created ≤ most ∧ use.out.length ≤ most

theorem staysWithin_of_limit_le {most preAllocated limit : ℕ}
    (enough : (Pool.ofSize preAllocated limit).limit ≤ most) :
    StaysWithin most preAllocated limit := by
  intro taken use reached
  have sound := (isSound_start preAllocated limit).steps reached
  have created : use.pool.created ≤ most :=
    use.pool.created_le.trans (sound.limited.le.trans enough)
  exact ⟨created, sound.length_out_le.trans created⟩

end PoolUse

namespace RunSettings

variable {config : Config} {settings : RunSettings} {found : List SettingWarning} {limit : ℕ}

/-- The bounds of a configuration that is accepted are in order. -/
theorem preAllocatedUsers_le_of_ofConfig (accepted : ofConfig config = .ok (settings, found))
    {preAllocated : ℕ} (made : config.preAllocatedUsers = some preAllocated)
    (limited : config.maxUsers = some limit) : preAllocated ≤ limit := by
  by_contra above
  have problem : .userBounds preAllocated limit ∈ config.limitProblems := by
    unfold Config.limitProblems
    simp [made, limited, not_le.mp above]
  have harmless := (ofConfig_eq_ok_iff.mp accepted).1 (.userBounds preAllocated limit)
    (config.problems_eq ▸ List.mem_append_right _ problem)
  exact Bool.false_ne_true (harmless.symm.trans (Config.isFatal_of_mem_limitProblems problem))

/-- A run makes the number of users that its configuration gives, or the default, and raises a limit
that is below it. -/
theorem users_of_ofConfig (accepted : ofConfig config = .ok (settings, found))
    (limited : config.maxUsers = some limit) (positive : 1 ≤ limit) :
    settings.preAllocatedUsers = config.preAllocatedUsers.getD defaultPreAllocated ∧
      settings.maxUsers = max limit settings.preAllocatedUsers := by
  obtain ⟨-, rfl, -⟩ := ofConfig_eq_ok_iff.mp accepted
  refine ⟨rfl, ?_⟩
  unfold resolve
  dsimp only
  rw [limited, Option.getD_some]
  exact max_eq_left (positive.trans (le_max_left _ _))

/-- The users of an accepted configuration stay within the limit that it sets, in whatever order
they are taken and handed back, exactly when it gives the number of users that are made before the
start or its limit is not below the default for this number. -/
theorem staysWithin_limit_iff (accepted : ofConfig config = .ok (settings, found))
    (limited : config.maxUsers = some limit) (positive : 1 ≤ limit) :
    PoolUse.StaysWithin limit settings.preAllocatedUsers settings.maxUsers ↔
      config.preAllocatedUsers.isSome ∨ defaultPreAllocated ≤ limit := by
  obtain ⟨preAllocated, maxUsers⟩ := users_of_ofConfig accepted limited positive
  rw [maxUsers]
  cases made : config.preAllocatedUsers with
  | none =>
      rw [made, Option.getD_none] at preAllocated
      rw [preAllocated]
      constructor
      · intro within
        have created := (within [] _ rfl).1
        unfold PoolUse.start Pool.ofSize Pool.maxUsers defaultPreAllocated at created
        dsimp only at created
        unfold defaultPreAllocated
        omega
      · rintro (given | enough)
        · cases given
        · apply PoolUse.staysWithin_of_limit_le
          unfold Pool.ofSize
          dsimp only
          omega
  | some number =>
      rw [made, Option.getD_some] at preAllocated
      have ordered := preAllocatedUsers_le_of_ofConfig accepted made limited
      refine iff_of_true (PoolUse.staysWithin_of_limit_le ?_) (.inl rfl)
      rw [preAllocated]
      unfold Pool.ofSize
      dsimp only
      omega

/-- A configuration of one stage with bounds for its users. -/
def ofBounds (preAllocated : Option ℕ) (limit : ℕ) : Config :=
  { Config.empty with
    baseUrl := some "http://localhost:8080"
    stages := some [⟨"1m", 5⟩]
    preAllocatedUsers := preAllocated
    maxUsers := some limit }

theorem problems_ofBounds :
    (ofBounds (some 3) 5).problems = [] ∧ (ofBounds none 5).problems = [] := by
  decide +kernel

/-- Without problems nothing stands between a configuration and its settings. -/
theorem ofConfig_of_problems_eq_nil (clean : config.problems = []) :
    ofConfig config = .ok (resolve config, []) :=
  ofConfig_eq_ok_iff.mpr ⟨by simp [clean], rfl, by simp [clean]⟩

theorem staysWithin_limit_ofBounds :
    ofConfig (ofBounds (some 3) 5) = .ok (resolve (ofBounds (some 3) 5), []) ∧
      PoolUse.StaysWithin 5 (resolve (ofBounds (some 3) 5)).preAllocatedUsers
        (resolve (ofBounds (some 3) 5)).maxUsers := by
  have accepted := ofConfig_of_problems_eq_nil problems_ofBounds.1
  exact ⟨accepted, (staysWithin_limit_iff accepted rfl (by decide)).mpr (.inl rfl)⟩

/-- Six clients in a row have a user each, where the configuration allows five. -/
theorem not_staysWithin_limit_ofBounds :
    ∃ settings use, ofConfig (ofBounds none 5) = .ok (settings, []) ∧
      (ofBounds none 5).maxUsers = some 5 ∧
      (PoolUse.start settings.preAllocatedUsers settings.maxUsers).steps?
        ((List.range 6).map .take) = some use ∧
      use.pool.created = 10 ∧ use.held.length = 6 ∧
      ¬PoolUse.StaysWithin 5 settings.preAllocatedUsers settings.maxUsers := by
  have accepted := ofConfig_of_problems_eq_nil problems_ofBounds.2
  refine ⟨_, _, accepted, rfl, rfl, rfl, rfl, ?_⟩
  intro within
  exact absurd (within [] _ rfl).1 (by decide)

end RunSettings

end ArrivalRamp
