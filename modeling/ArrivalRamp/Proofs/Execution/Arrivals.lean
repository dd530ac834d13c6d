import ArrivalRamp.Proofs.Execution.Interleaving

/-!
No arrival is lost or counted twice, in any interleaving of a run.
-/

namespace ArrivalRamp

/-- Accepted settings do not limit the users below the number that is made at the start. -/
theorem RunSettings.preAllocatedUsers_le {config : Config} {settings : RunSettings}
    {warnings : List SettingWarning}
    (accepted : RunSettings.ofConfig config = .ok (settings, warnings)) :
    settings.preAllocatedUsers ≤ settings.maxUsers := by
  unfold RunSettings.ofConfig at accepted
  split at accepted
  · obtain ⟨rfl, -⟩ := Prod.mk.inj (Except.ok.inj accepted)
    unfold RunSettings.resolve
    dsimp only
    omega
  · contradiction

theorem Pool.limit_ofSize_le {preAllocated limit : ℕ} (ordered : preAllocated ≤ limit) :
    (Pool.ofSize preAllocated limit).limit ≤ limit := by
  unfold Pool.ofSize
  dsimp only
  omega

namespace Progress

variable {plan : RunPlan}

/-- The number of arrivals that the dispatcher turns to in a step. -/
def dispatches (progress : Progress) : RunStep → ℕ
  | .offer =>
    match progress.dispatcher with
    | .offering _ (_ + 1) => 1
    | _ => 0
  | _ => 0

/-- The number of arrivals that the dispatcher turns to in steps one after another. -/
def dispatchesOf (plan : RunPlan) (progress : Progress) : List RunStep → ℕ
  | [] => 0
  | first :: taken =>
    progress.dispatches first + dispatchesOf plan (progress.step plan first) taken

theorem arrivals_step (progress : Progress) (taken : RunStep) :
    (progress.step plan taken).execution.arrivals =
      progress.execution.arrivals + progress.dispatches taken := by
  obtain ⟨execution, dispatcher⟩ := progress
  cases taken with
  | look now =>
      change (Progress.look plan now ⟨execution, dispatcher⟩).execution.arrivals = _
      obtain ⟨credit, last, same⟩ := exists_execution_look_eq ⟨execution, dispatcher⟩ now
      rw [same]
      rfl
  | offer =>
      cases dispatcher with
      | offering elapsed due =>
          cases due with
          | zero => rfl
          | succ due =>
              change (Progress.offer ⟨execution, .offering elapsed (due + 1)⟩).execution.arrivals =
                execution.arrivals + 1
              unfold Progress.offer
              dsimp only
              split <;> rfl
      | making elapsed due => rfl
      | dropping elapsed due => rfl
      | finished => rfl
  | make =>
      change (Progress.make ⟨execution, dispatcher⟩).execution.arrivals = _
      unfold Progress.make
      split
      · split <;> rfl
      · rfl
  | drop =>
      change (Progress.drop plan ⟨execution, dispatcher⟩).execution.arrivals = _
      unfold Progress.drop
      split <;> rfl
  | interrupt =>
      change (Progress.interrupt ⟨execution, dispatcher⟩).execution.arrivals = _
      unfold Progress.interrupt
      split <;> rfl
  | begin user now =>
      change (execution.begin plan user now).arrivals = _
      unfold Execution.begin
      split <;> rfl
  | record user answer duration =>
      change (execution.record user answer duration).arrivals = _
      unfold Execution.record
      split <;> rfl
  | handBack user =>
      change (execution.handBack user).arrivals = _
      unfold Execution.handBack
      split <;> rfl

theorem arrivals_steps (progress : Progress) (taken : List RunStep) :
    (progress.steps plan taken).execution.arrivals =
      progress.execution.arrivals + progress.dispatchesOf plan taken := by
  induction taken generalizing progress with
  | nil => rfl
  | cons first taken ih =>
      change ((progress.step plan first).steps plan taken).execution.arrivals = _
      rw [ih, arrivals_step, Nat.add_assoc]
      rfl

/-- In every interleaving of a run with accepted settings, each user that was made is idle or under
way, and there are no more users than the settings allow. When the run has drained, each arrival
that the dispatcher turned to is one request or one drop in the outcome, all users are idle, and
their counters add up to the requests, as long as a word can hold them. -/
theorem arrivals_accounted {config : Config} {warnings : List SettingWarning}
    (plan : RunPlan) (shards : ℕ) (taken : List RunStep)
    (accepted : RunSettings.ofConfig config = .ok (plan.settings, warnings)) :
    let last := (start plan shards).steps plan taken
    let pool := last.execution.pool
    pool.idle.length + last.execution.inFlight.length = pool.created ∧
      pool.created ≤ plan.settings.maxUsers ∧
      (last.IsDrained → ∀ instant elapsed isInterrupted,
        let outcome := last.execution.outcome plan instant elapsed isInterrupted
        (start plan shards).dispatchesOf plan taken =
            outcome.tally.total + outcome.tally.dropped ∧
          (pool.idle.map UserSlot.user).Perm (List.range' 1 outcome.usersCreated) ∧
          (pool.idle.map UserSlot.iterations).sum ≡ outcome.tally.total [MOD Word.size] ∧
          (outcome.tally.total < Word.size →
            (pool.idle.map UserSlot.iterations).sum = outcome.tally.total)) := by
  intro last pool
  have limited := Pool.limit_ofSize_le (RunSettings.preAllocatedUsers_le accepted)
  have first : (start plan shards).IsBalanced plan.settings.maxUsers :=
    Execution.isBalanced_start plan.settings shards limited
  have balanced : last.IsBalanced plan.settings.maxUsers := first.steps taken
  have counted : last.execution.arrivals = (start plan shards).dispatchesOf plan taken :=
    (arrivals_steps (start plan shards) taken).trans (Nat.zero_add _)
  obtain ⟨users, poolLimited, arrivals, completedLe, completedModEq⟩ := balanced
  refine ⟨?_, pool.created_le.trans poolLimited, ?_⟩
  · have length := users.length_eq
    rw [List.length_map, List.length_range', Execution.slots, List.length_append,
      List.length_map] at length
    exact length
  · rintro ⟨finished, empty⟩ instant elapsed isInterrupted outcome
    have idle : last.execution.slots = pool.idle := by
      rw [Execution.slots, empty]
      exact List.append_nil _
    have none : last.execution.answered = 0 ∧ last.execution.unanswered = 0 := by
      unfold Execution.answered Execution.unanswered
      rw [empty]
      exact ⟨rfl, rfl⟩
    rw [none.2, Dispatcher.pending_of_isFinished finished] at arrivals
    rw [none.1, idle] at completedLe completedModEq
    rw [idle] at users
    refine ⟨counted.symm.trans arrivals, users, completedModEq, ?_⟩
    intro word
    exact completedModEq.eq_of_lt_of_lt (completedLe.trans_lt word) word

/-- A configuration of one user, who cannot serve what is offered. -/
def oneUser : Config :=
  { Config.empty with
    baseUrl := some "http://localhost"
    stages := some [⟨"1s", 3000⟩]
    startRate := some 3000
    preAllocatedUsers := some 1
    maxUsers := some 1 }

def oneUserPlan : RunPlan where
  settings := .resolve oneUser
  profile := oneUser.profile
  template := ⟨"POST", "http://localhost/", "rampclock", "rampclock", "local", none, [], none⟩

/-- The user is busy while two more arrivals come, and is handed back before the last look. -/
def busySteps : List RunStep :=
  [.look ⟨1000000⟩, .offer, .begin 1 ⟨1000000⟩, .offer, .make, .drop, .offer,
    .record 1 (.received 200) ⟨500000⟩, .make, .drop, .handBack 1, .look ⟨1000000000⟩]

theorem arrivals_accounted_oneUser :
    RunSettings.ofConfig oneUser = .ok (oneUserPlan.settings, []) ∧
      ((start oneUserPlan 2).steps oneUserPlan busySteps).IsDrained ∧
      3 = ((start oneUserPlan 2).steps oneUserPlan busySteps).execution.tally.merge.total +
        ((start oneUserPlan 2).steps oneUserPlan busySteps).execution.tally.merge.dropped := by
  have accepted : RunSettings.ofConfig oneUser = .ok (oneUserPlan.settings, []) := rfl
  have finished : ((start oneUserPlan 2).steps oneUserPlan busySteps).dispatcher.isFinished := by
    decide +kernel
  have empty : ((start oneUserPlan 2).steps oneUserPlan busySteps).execution.inFlight = [] := by
    decide +kernel
  have offered : (start oneUserPlan 2).dispatchesOf oneUserPlan busySteps = 3 := by
    decide +kernel
  have accounted := arrivals_accounted oneUserPlan 2 busySteps accepted
  have all := (accounted.2.2 ⟨finished, empty⟩ 0 ⟨0⟩ false).1
  rw [offered] at all
  exact ⟨accepted, ⟨finished, empty⟩, all⟩

end Progress

end ArrivalRamp
