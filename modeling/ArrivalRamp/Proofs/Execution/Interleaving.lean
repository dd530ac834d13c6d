import ArrivalRamp.Proofs.Execution.Balance

/-!
The interleavings of a run. The dispatcher offers arrivals to the pool, and each iteration goes
through its phases on its own. What they share is read and changed in single steps, which come in
any order.
-/

namespace ArrivalRamp

/-- What the dispatcher does next at an elapsed time, with the number of arrivals that are still
due. It offers an arrival to the idle users, or looks at the clock when none is due. It makes a user
for an arrival that found none, and drops the arrival when there are as many as there may be. -/
inductive Dispatcher where
  | offering (elapsed : Float) (due : ℕ)
  | making (elapsed : Float) (due : ℕ)
  | dropping (elapsed : Float) (due : ℕ)
  | finished

namespace Dispatcher

/-- The number of arrivals that the dispatcher has counted and not settled. -/
def pending : Dispatcher → ℕ
  | .making _ _ => 1
  | .dropping _ _ => 1
  | _ => 0

/-- The dispatcher has nothing more to do. -/
def isFinished : Dispatcher → Bool
  | .finished => true
  | _ => false

theorem pending_of_isFinished {dispatcher : Dispatcher} (finished : dispatcher.isFinished) :
    dispatcher.pending = 0 := by
  cases dispatcher with
  | offering elapsed due => rfl
  | making elapsed due => cases finished
  | dropping elapsed due => cases finished
  | finished => rfl

end Dispatcher

/-- One step of the dispatcher or of an iteration. -/
inductive RunStep where
  | look (now : Span)
  | offer
  | make
  | drop
  | interrupt
  | begin (user : ℕ) (now : Span)
  | record (user : ℕ) (answer : Answer) (duration : Span)
  | handBack (user : ℕ)

/-- A run under way: the state that all share, and the dispatcher. -/
structure Progress where
  execution : Execution
  dispatcher : Dispatcher

namespace Progress

/-- The dispatcher turns to the next arrival. -/
def offer (progress : Progress) : Progress :=
  match progress.dispatcher with
  | .offering elapsed (due + 1) =>
    match progress.execution.pool.takeIdle? with
    | some (slot, pool) =>
      ⟨progress.execution.countArrival.enter slot pool, .offering elapsed due⟩
    | none => ⟨progress.execution.countArrival, .making elapsed due⟩
  | _ => progress

/-- The dispatcher makes a user for an arrival that found no idle one. -/
def make (progress : Progress) : Progress :=
  match progress.dispatcher with
  | .making elapsed due =>
    match progress.execution.pool.create? with
    | some (slot, pool) => ⟨progress.execution.enter slot pool, .offering elapsed due⟩
    | none => { progress with dispatcher := .dropping elapsed due }
  | _ => progress

/-- The dispatcher drops an arrival for which no user could be made. -/
def drop (plan : RunPlan) (progress : Progress) : Progress :=
  match progress.dispatcher with
  | .dropping elapsed due => ⟨progress.execution.drop plan elapsed, .offering elapsed due⟩
  | _ => progress

/-- The dispatcher looks at the clock when no arrival is due. -/
def look (plan : RunPlan) (now : Span) (progress : Progress) : Progress :=
  match progress.dispatcher with
  | .offering _ 0 =>
    match progress.execution.watch? plan now with
    | some look => ⟨look.execution, .offering look.elapsed look.arrivals⟩
    | none => { progress with dispatcher := .finished }
  | _ => progress

/-- The dispatcher finds that the run is to stop. -/
def interrupt (progress : Progress) : Progress :=
  match progress.dispatcher with
  | .offering _ 0 => ⟨progress.execution.interrupt, .finished⟩
  | _ => progress

/-- The progress after a step. A step that is not possible changes nothing. -/
def step (plan : RunPlan) (progress : Progress) : RunStep → Progress
  | .look now => progress.look plan now
  | .offer => progress.offer
  | .make => progress.make
  | .drop => progress.drop plan
  | .interrupt => progress.interrupt
  | .begin user now => { progress with execution := progress.execution.begin plan user now }
  | .record user answer duration =>
    { progress with execution := progress.execution.record user answer duration }
  | .handBack user => { progress with execution := progress.execution.handBack user }

/-- The progress after steps in their order. -/
def steps (plan : RunPlan) (progress : Progress) (taken : List RunStep) : Progress :=
  taken.foldl (step plan) progress

/-- A run that has not looked at the clock yet. -/
def start (plan : RunPlan) (shards : ℕ) : Progress :=
  ⟨.start plan.settings shards, .offering 0.0 0⟩

/-- The dispatcher has nothing more to do, and no iteration is under way. -/
def IsDrained (progress : Progress) : Prop :=
  progress.dispatcher.isFinished ∧ progress.execution.inFlight = []

/-- The books are balanced up to what the dispatcher has not settled. -/
def IsBalanced (limit : ℕ) (progress : Progress) : Prop :=
  progress.execution.IsBalanced limit progress.dispatcher.pending

variable {limit : ℕ} {plan : RunPlan} {progress : Progress}

/-- A look at the clock changes at most the credit and the time of the last look. -/
theorem exists_execution_look_eq (progress : Progress) (now : Span) :
    ∃ credit last, (progress.look plan now).execution = { progress.execution with credit, last } := by
  unfold Progress.look
  split
  · split
    case h_1 look found =>
      obtain ⟨rate, credit, -, -, same⟩ := Execution.exists_watch_eq found
      exact ⟨credit, now, same⟩
    case h_2 => exact ⟨_, _, rfl⟩
  · exact ⟨_, _, rfl⟩

namespace IsBalanced

theorem offer (balanced : progress.IsBalanced limit) : progress.offer.IsBalanced limit := by
  obtain ⟨execution, dispatcher⟩ := progress
  unfold Progress.offer
  split
  case h_1 elapsed due same =>
    cases same
    have counted := Execution.IsBalanced.countArrival balanced
    split
    case h_1 slot pool taken => exact counted.enter_takeIdle taken
    case h_2 none => exact counted
  case h_2 => exact balanced

theorem make (balanced : progress.IsBalanced limit) : progress.make.IsBalanced limit := by
  obtain ⟨execution, dispatcher⟩ := progress
  unfold Progress.make
  split
  case h_1 elapsed due same =>
    cases same
    split
    case h_1 slot pool made => exact Execution.IsBalanced.enter_create balanced made
    case h_2 none => exact balanced
  case h_2 => exact balanced

theorem drop (balanced : progress.IsBalanced limit) : (progress.drop plan).IsBalanced limit := by
  obtain ⟨execution, dispatcher⟩ := progress
  unfold Progress.drop
  split
  case h_1 elapsed due same =>
    cases same
    exact Execution.IsBalanced.drop balanced elapsed
  case h_2 => exact balanced

theorem look (balanced : progress.IsBalanced limit) (now : Span) :
    (progress.look plan now).IsBalanced limit := by
  obtain ⟨execution, dispatcher⟩ := progress
  unfold Progress.look
  split
  case h_1 elapsed same =>
    cases same
    split
    case h_1 look found => exact Execution.IsBalanced.watch balanced found
    case h_2 => exact balanced
  case h_2 => exact balanced

theorem interrupt (balanced : progress.IsBalanced limit) :
    progress.interrupt.IsBalanced limit := by
  obtain ⟨execution, dispatcher⟩ := progress
  unfold Progress.interrupt
  split
  case h_1 elapsed same =>
    cases same
    exact Execution.IsBalanced.interrupt balanced
  case h_2 => exact balanced

/-- Each step keeps the books balanced. -/
theorem step (balanced : progress.IsBalanced limit) (taken : RunStep) :
    (progress.step plan taken).IsBalanced limit := by
  cases taken with
  | look now => exact balanced.look now
  | offer => exact balanced.offer
  | make => exact balanced.make
  | drop => exact balanced.drop
  | interrupt => exact balanced.interrupt
  | begin user now => exact Execution.IsBalanced.begin balanced user now
  | record user answer duration => exact Execution.IsBalanced.record balanced user answer duration
  | handBack user => exact Execution.IsBalanced.handBack balanced user

/-- Steps in any order keep the books balanced. -/
theorem steps (balanced : progress.IsBalanced limit) (taken : List RunStep) :
    (progress.steps plan taken).IsBalanced limit := by
  induction taken generalizing progress with
  | nil => exact balanced
  | cons first taken ih => exact ih (balanced.step first)

end IsBalanced

section Sequential

variable (plan : RunPlan) (execution : Execution) (elapsed : Float)

/-- An arrival in one piece takes the steps of the dispatcher one after another. -/
theorem steps_arrive (due : ℕ) :
    steps plan ⟨execution, .offering elapsed (due + 1)⟩ [.offer, .make, .drop] =
      ⟨execution.arrive plan elapsed, .offering elapsed due⟩ := by
  have counted : execution.countArrival.pool = execution.pool := rfl
  cases taken : execution.pool.takeIdle? with
  | some found =>
      obtain ⟨slot, pool⟩ := found
      simp [steps, step, offer, make, drop, taken, Execution.arrive, Pool.acquire?]
  | none =>
      cases made : execution.pool.create? with
      | some found =>
          obtain ⟨slot, pool⟩ := found
          simp [steps, step, offer, make, drop, taken, made, counted, Execution.arrive,
            Pool.acquire?]
      | none =>
          simp [steps, step, offer, make, drop, taken, made, counted, Execution.arrive,
            Pool.acquire?]

theorem exists_steps_arriveTimes (due : ℕ) :
    ∃ taken, steps plan ⟨execution, .offering elapsed due⟩ taken =
      ⟨execution.arriveTimes plan elapsed due, .offering elapsed 0⟩ := by
  induction due generalizing execution with
  | zero => exact ⟨[], rfl⟩
  | succ due ih =>
      obtain ⟨taken, reached⟩ := ih (execution.arrive plan elapsed)
      refine ⟨[.offer, .make, .drop] ++ taken, ?_⟩
      rw [steps, List.foldl_append]
      change steps plan (steps plan _ [.offer, .make, .drop]) taken = _
      rw [steps_arrive, reached]
      rfl

/-- A look in one piece with the arrivals that it makes is one of the interleavings. -/
theorem exists_steps_look {now wait : Span} {next : Execution}
    (found : execution.look? plan now = some (next, wait)) :
    ∃ taken later, steps plan ⟨execution, .offering elapsed 0⟩ taken =
      ⟨next, .offering later 0⟩ := by
  obtain ⟨look, watched, same⟩ := Option.bind_eq_some_iff.mp found
  obtain ⟨rfl, rfl⟩ := Prod.mk.inj (Option.some.inj same)
  obtain ⟨taken, reached⟩ :=
    exists_steps_arriveTimes plan look.execution look.elapsed look.arrivals
  refine ⟨.look now :: taken, look.elapsed, ?_⟩
  rw [← reached]
  change steps plan (Progress.look plan now ⟨execution, .offering elapsed 0⟩) taken = _
  unfold Progress.look
  dsimp only
  rw [watched]
  rfl

/-- An iteration in one piece is one of the interleavings. -/
theorem steps_iterate (dispatcher : Dispatcher) (user : ℕ) (now : Span) (answer : Answer)
    (duration : Span) :
    steps plan ⟨execution, dispatcher⟩
        [.begin user now, .record user answer duration, .handBack user] =
      ⟨(execution.begin plan user now).finish user answer duration, dispatcher⟩ :=
  rfl

end Sequential

end Progress

end ArrivalRamp
