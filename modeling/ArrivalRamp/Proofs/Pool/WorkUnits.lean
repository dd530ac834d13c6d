import ArrivalRamp.Proofs.Pool.Sharing

/-!
No unit of work is handed out twice. A user that is idle has completed every iteration that it was
ever given, and a user that is out has at most the last of them before it.
-/

namespace ArrivalRamp

open scoped List

/-- The step counts an iteration of a user. -/
def PoolStep.completes (user : ℕ) : PoolStep → Bool
  | .complete slot => slot.user = user
  | _ => false

/-- The number of iterations of a user that are counted in steps. -/
def PoolStep.completions (taken : List PoolStep) (user : ℕ) : ℕ :=
  taken.countP (PoolStep.completes user)

theorem PoolStep.completions_concat (taken : List PoolStep) (step : PoolStep) (user : ℕ) :
    completions (taken ++ [step]) user =
      completions taken user + if step.completes user then 1 else 0 := by
  rw [completions, List.countP_append, List.countP_singleton]
  rfl

namespace PoolUse

/-- The units of work that clients got, in their order. -/
def granted (use : PoolUse) : List WorkUnit :=
  use.answers.filterMap Prod.snd

/-- Counters do not run ahead of the iterations that are counted, and each unit of work that was
handed out lies behind the counter of its user, or is what the user is out for. -/
structure IsFresh (completed : ℕ → ℕ) (use : PoolUse) : Prop where
  counted : ∀ slot ∈ use.slots, slot.iterations ≤ completed slot.user
  made : ∀ work ∈ use.granted, work.user ≤ use.pool.created
  rested : ∀ slot ∈ use.pool.idle ++ use.returning, ∀ work ∈ use.granted,
    work.user = slot.user → work.iteration < slot.iterations
  running : ∀ slot ∈ use.held, ∀ work ∈ use.granted,
    work.user = slot.user → work.iteration ≤ slot.iterations
  distinct : use.granted.Nodup

variable {use next last : PoolUse} {client limit : ℕ} {slot : UserSlot} {pool : Pool}
  {taken : List PoolStep} {completed : ℕ → ℕ}

theorem isFresh_start (preAllocated limit : ℕ) :
    (start preAllocated limit).IsFresh fun _ => 0 where
  counted := by
    intro slot inside
    simp only [slots, out, start, Pool.ofSize, List.append_nil, List.mem_map] at inside
    obtain ⟨user, -, rfl⟩ := inside
    exact le_rfl
  made := by simp [granted, start]
  rested := by simp [granted, start]
  running := by simp [granted, start]
  distinct := by simp [granted, start]

theorem granted_grant : (use.grant client slot pool).granted = use.granted ++ [slot.workUnit] := by
  simp [granted, grant, List.filterMap_append]

theorem mem_granted_grant {work : WorkUnit} :
    work ∈ (use.grant client slot pool).granted ↔ work ∈ use.granted ∨ work = slot.workUnit := by
  rw [granted_grant, List.mem_append, List.mem_singleton]

theorem granted_refuse (client : ℕ) : (use.refuse client).granted = use.granted := by
  simp [granted, refuse, List.filterMap_append]

/-- A user that a client gets is no other user. -/
theorem IsSound.user_ne (sound : (use.grant client slot pool).IsSound limit) {other : UserSlot}
    (inside : other ∈ pool.idle ++ (use.held ++ use.returning)) : other.user ≠ slot.user := by
  have first : ((use.grant client slot pool).slots.map UserSlot.user).Perm
      (slot.user :: (pool.idle ++ (use.held ++ use.returning)).map UserSlot.user) :=
    List.Perm.map UserSlot.user List.perm_middle
  intro same
  have unique := (List.nodup_cons.mp (first.nodup_iff.mp sound.nodup)).1
  exact unique (same ▸ List.mem_map_of_mem inside)

namespace IsFresh

/-- More iterations may be counted. -/
theorem mono {later : ℕ → ℕ} (fresh : use.IsFresh completed)
    (ordered : ∀ user, completed user ≤ later user) : use.IsFresh later :=
  { fresh with counted := fun slot inside => (fresh.counted slot inside).trans (ordered _) }

/-- A client gets a user whose earlier units of work all lie behind its counter. -/
theorem grant (fresh : use.IsFresh completed)
    (sound : (use.grant client slot pool).IsSound limit)
    (idle : pool.idle ⊆ use.pool.idle) (created : use.pool.created ≤ pool.created)
    (low : slot.iterations ≤ completed slot.user)
    (past : ∀ work ∈ use.granted, work.user = slot.user → work.iteration < slot.iterations) :
    (use.grant client slot pool).IsFresh completed := by
  obtain ⟨counted, made, rested, running, distinct⟩ := fresh
  constructor
  case counted =>
    intro other inside
    rcases List.mem_cons.mp (List.perm_middle.mem_iff.mp inside) with rfl | isOther
    · exact low
    · apply counted
      rcases List.mem_append.mp isOther with isIdle | isOut
      · exact List.mem_append_left _ (idle isIdle)
      · exact List.mem_append_right _ isOut
  case made =>
    intro work inside
    rcases mem_granted_grant.mp inside with isPast | rfl
    · exact (made work isPast).trans created
    · refine (sound.mem_users_iff.mp (List.mem_map_of_mem ?_)).2
      exact List.mem_append_right _ List.mem_cons_self
  case rested =>
    intro other inside work isGranted same
    rcases mem_granted_grant.mp isGranted with isPast | rfl
    · apply rested other _ work isPast same
      rcases List.mem_append.mp inside with isIdle | isReturning
      · exact List.mem_append_left _ (idle isIdle)
      · exact List.mem_append_right _ isReturning
    · refine absurd same.symm (sound.user_ne ?_)
      rcases List.mem_append.mp inside with isIdle | isReturning
      · exact List.mem_append_left _ isIdle
      · exact List.mem_append_right _ (List.mem_append_right _ isReturning)
  case running =>
    intro other inside work isGranted same
    rcases List.mem_cons.mp inside with rfl | isHeld
    · rcases mem_granted_grant.mp isGranted with isPast | rfl
      · exact (past work isPast same).le
      · exact le_rfl
    · rcases mem_granted_grant.mp isGranted with isPast | rfl
      · exact running other isHeld work isPast same
      · exact absurd same.symm
          (sound.user_ne (List.mem_append_right _ (List.mem_append_left _ isHeld)))
  case distinct =>
    rw [granted_grant, List.nodup_append]
    refine ⟨distinct, List.nodup_singleton _, ?_⟩
    rintro work isPast _ isNew rfl
    obtain rfl := List.mem_singleton.mp isNew
    exact absurd (past _ isPast rfl) (lt_irrefl _)

theorem take (fresh : use.IsFresh completed) (sound : use.IsSound limit)
    (possible : use.take? client = some next) : next.IsFresh completed := by
  have after := sound.take possible
  unfold take? at possible
  split_ifs at possible
  split at possible
  case h_1 slot pool taken =>
    obtain rfl := Option.some.inj possible
    obtain ⟨created, -, idle, -⟩ := slots_grant_takeIdle client taken
    have first : slot ∈ use.pool.idle := idle ▸ List.mem_cons_self
    refine fresh.grant after ?_ created.ge ?_ ?_
    · rw [idle]
      exact List.subset_cons_self _ _
    · exact fresh.counted slot (List.mem_append_left _ first)
    · exact fresh.rested slot (List.mem_append_left _ first)
  case h_2 none =>
    obtain rfl := Option.some.inj possible
    obtain ⟨counted, made, rested, running, distinct⟩ := fresh
    exact ⟨counted, made, rested, running, distinct⟩

theorem make (fresh : use.IsFresh completed) (sound : use.IsSound limit)
    (possible : use.make? client = some next) : next.IsFresh completed := by
  have after := sound.make possible
  unfold make? at possible
  split_ifs at possible
  split at possible
  case h_1 slot pool made =>
    obtain rfl := Option.some.inj possible
    obtain ⟨rfl, created, -, idle, -⟩ := slots_grant_create client made
    refine fresh.grant after (fun _ inside => idle ▸ inside) (by omega) (Nat.zero_le _) ?_
    intro work isPast same
    have known := fresh.made work isPast
    dsimp only at same
    omega
  case h_2 none =>
    obtain rfl := Option.some.inj possible
    obtain ⟨counted, made, rested, running, distinct⟩ := fresh
    rw [← granted_refuse client] at made rested running distinct
    exact ⟨counted, made, rested, running, distinct⟩

/-- The counter of a user that completes an iteration moves past what it was out for. -/
theorem complete (fresh : use.IsFresh completed) {later : ℕ → ℕ}
    (ordered : ∀ user, completed user ≤ later user)
    (grown : completed slot.user + 1 ≤ later slot.user) (word : later slot.user < Word.size)
    (possible : use.complete? slot = some next) : next.IsFresh later := by
  obtain ⟨counted, made, rested, running, distinct⟩ := fresh
  obtain ⟨rest, before, after⟩ := exists_slots_complete possible
  have low := counted slot (before.mem_iff.mpr List.mem_cons_self)
  have counter : slot.complete.iterations = slot.iterations + 1 :=
    Nat.mod_eq_of_lt (by omega)
  have numbers : ∀ other ∈ next.slots, other.iterations ≤ later other.user := by
    intro other inside
    rcases List.mem_cons.mp (after.mem_iff.mp inside) with rfl | isOther
    · rw [counter]
      exact (Nat.succ_le_succ low).trans grown
    · exact (counted other (before.mem_iff.mpr (List.mem_cons_of_mem _ isOther))).trans (ordered _)
  unfold complete? at possible
  split_ifs at possible with held
  obtain rfl := Option.some.inj possible
  refine ⟨numbers, made, ?_, ?_, distinct⟩
  · intro other inside work isGranted same
    rcases List.mem_cons.mp (List.perm_middle.mem_iff.mp inside) with rfl | isOther
    · rw [counter]
      exact Nat.lt_succ_of_le (running slot held work isGranted same)
    · exact rested other isOther work isGranted same
  · intro other inside
    exact running other (List.mem_of_mem_erase inside)

theorem giveBack (fresh : use.IsFresh completed) (possible : use.giveBack? slot = some next) :
    next.IsFresh completed := by
  obtain ⟨counted, made, rested, running, distinct⟩ := fresh
  have same := slots_giveBack possible
  unfold giveBack? at possible
  split_ifs at possible with inside
  obtain rfl := Option.some.inj possible
  have resting : (use.pool.idle ++ [slot]) ++ use.returning.erase slot ~
      use.pool.idle ++ use.returning := by
    rw [List.append_assoc, List.singleton_append]
    exact (List.perm_cons_erase inside).symm.append_left _
  refine ⟨?_, made, ?_, running, distinct⟩
  · intro other isOther
    exact counted other (same.mem_iff.mp isOther)
  · intro other isOther
    exact rested other (resting.mem_iff.mp isOther)

/-- A step keeps the units of work fresh, as long as a word can hold the counters. -/
theorem step (fresh : use.IsFresh (PoolStep.completions taken)) (sound : use.IsSound limit)
    {step : PoolStep} (word : ∀ user, PoolStep.completions (taken ++ [step]) user < Word.size)
    (possible : use.step? step = some next) :
    next.IsFresh (PoolStep.completions (taken ++ [step])) := by
  have ordered : ∀ user,
      PoolStep.completions taken user ≤ PoolStep.completions (taken ++ [step]) user := by
    intro user
    rw [PoolStep.completions_concat]
    exact Nat.le_add_right _ _
  cases step with
  | take client => exact (fresh.take sound possible).mono ordered
  | make client => exact (fresh.make sound possible).mono ordered
  | complete slot =>
      refine fresh.complete ordered ?_ (word slot.user) possible
      simp [PoolStep.completions_concat, PoolStep.completes]
  | giveBack slot => exact (fresh.giveBack possible).mono ordered

end IsFresh

/-- In steps of any clients in any order, no unit of work is handed out twice. -/
theorem nodup_granted {preAllocated limit : ℕ}
    (reached : (start preAllocated limit).steps? taken = some use)
    (word : ∀ user, PoolStep.completions taken user < Word.size) : use.granted.Nodup := by
  suffices fresh : use.IsFresh (PoolStep.completions taken) from fresh.distinct
  have first := isSound_start preAllocated limit
  induction taken using List.reverseRecOn generalizing use with
  | nil =>
      obtain rfl := Option.some.inj reached
      exact isFresh_start preAllocated limit
  | append_singleton taken step ih =>
      obtain ⟨before, earlier, possible⟩ := exists_of_steps?_concat reached
      have smaller : ∀ user, PoolStep.completions taken user < Word.size := by
        intro user
        refine lt_of_le_of_lt ?_ (word user)
        rw [PoolStep.completions_concat]
        exact Nat.le_add_right _ _
      exact (ih earlier smaller).step (first.steps earlier) word possible

end PoolUse

end ArrivalRamp
