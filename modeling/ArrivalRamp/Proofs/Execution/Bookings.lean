import ArrivalRamp.Proofs.Execution.Interleaving
import ArrivalRamp.Proofs.Tally.Sharded

/-!
What a run books. Each drop and each request goes to the tally in a step of its own. The chronicle of
a run keeps beside them which look at the clock made the arrival.
-/

namespace ArrivalRamp

/-- An arrival that is settled, with the look at the clock that made it and with its label. A request
has the user that sent it, the time that it took, and its answer. -/
inductive Booking where
  | dropped (look : Span) (label : StageLabel)
  | request (look : Span) (label : StageLabel) (user : ℕ) (duration : Span) (answer : Answer)
  deriving DecidableEq

namespace Booking

/-- The label of a drop or of a request. -/
def label : Booking → StageLabel
  | .dropped _ label => label
  | .request _ label _ _ _ => label

/-- The arrival is dropped. -/
def isDropped : Booking → Bool
  | .dropped .. => true
  | .request .. => false

/-- The event that the tally is told, and the user whose shard is told it. A drop has no user. -/
def entry : Booking → ℕ × RunEvent
  | .dropped _ label => (0, .dropped label.tag)
  | .request _ label user duration answer =>
    (user, .request label.tag label.target duration answer.status? answer.error?)

end Booking

namespace Progress

/-- The user that the dispatcher sends off in a step. -/
def entering? (progress : Progress) : RunStep → Option ℕ
  | .offer =>
    match progress.dispatcher with
    | .offering _ (_ + 1) => progress.execution.pool.takeIdle?.map (·.1.user)
    | _ => none
  | .make =>
    match progress.dispatcher with
    | .making _ _ => progress.execution.pool.create?.map (·.1.user)
    | _ => none
  | _ => none

/-- What a step books, when the looks are known that made the iterations of the users. -/
def booking? (plan : RunPlan) (looks : ℕ → Span) (progress : Progress) : RunStep → Option Booking
  | .drop =>
    match progress.dispatcher with
    | .dropping elapsed _ => some (.dropped progress.execution.last (plan.profile.labelAt elapsed))
    | _ => none
  | .record user answer duration =>
    match progress.execution.iteration? user with
    | some ⟨_, .begun label⟩ => some (.request (looks user) label user duration answer)
    | _ => none
  | _ => none

/-- What a step books is all that it adds to the tally. -/
theorem tally_step (plan : RunPlan) (looks : ℕ → Span) (progress : Progress) (taken : RunStep) :
    (progress.step plan taken).execution.tally = progress.execution.tally.addAll
      ((progress.booking? plan looks taken).toList.map Booking.entry) := by
  obtain ⟨execution, dispatcher⟩ := progress
  cases taken with
  | look now =>
      change (Progress.look plan now ⟨execution, dispatcher⟩).execution.tally = execution.tally
      obtain ⟨credit, last, same⟩ := exists_execution_look_eq ⟨execution, dispatcher⟩ now
      rw [same]
  | offer =>
      change (Progress.offer ⟨execution, dispatcher⟩).execution.tally = execution.tally
      unfold Progress.offer
      split
      · split <;> rfl
      · rfl
  | make =>
      change (Progress.make ⟨execution, dispatcher⟩).execution.tally = execution.tally
      unfold Progress.make
      split
      · split <;> rfl
      · rfl
  | drop => cases dispatcher <;> rfl
  | interrupt =>
      change (Progress.interrupt ⟨execution, dispatcher⟩).execution.tally = execution.tally
      unfold Progress.interrupt
      split <;> rfl
  | begin user now =>
      change (execution.begin plan user now).tally = execution.tally
      unfold Execution.begin
      split <;> rfl
  | record user answer duration =>
      change (execution.record user answer duration).tally = _
      unfold Execution.record booking?
      dsimp only
      rcases execution.iteration? user with _ | ⟨slot, _ | label | _⟩ <;> rfl
  | handBack user => exact (Execution.IsBalanced.handBack_eq execution user).1

end Progress

/-- A run under way with the looks at the clock that made the iterations of its users, each the last
one of its user, and with all that it has booked. -/
structure Chronicle where
  progress : Progress
  looks : ℕ → Span
  bookings : List Booking

namespace Chronicle

/-- A user that is sent off gets the last look of the dispatcher. -/
def step (plan : RunPlan) (chronicle : Chronicle) (taken : RunStep) : Chronicle where
  progress := chronicle.progress.step plan taken
  looks :=
    match chronicle.progress.entering? taken with
    | some user => Function.update chronicle.looks user chronicle.progress.execution.last
    | none => chronicle.looks
  bookings := chronicle.bookings ++
    (chronicle.progress.booking? plan chronicle.looks taken).toList

/-- The chronicle after steps in their order. -/
def steps (plan : RunPlan) (chronicle : Chronicle) (taken : List RunStep) : Chronicle :=
  taken.foldl (step plan) chronicle

/-- Nothing is booked before a run. -/
def start (plan : RunPlan) (shards : ℕ) : Chronicle :=
  ⟨.start plan shards, fun _ => ⟨0⟩, []⟩

variable {plan : RunPlan} {chronicle : Chronicle}

/-- A chronicle goes along with a run without changing it. -/
theorem progress_steps (taken : List RunStep) :
    (chronicle.steps plan taken).progress = chronicle.progress.steps plan taken := by
  induction taken generalizing chronicle with
  | nil => rfl
  | cons first taken ih =>
      change ((chronicle.step plan first).steps plan taken).progress =
        (chronicle.step plan first).progress.steps plan taken
      exact ih

/-- The tally is that of the bookings. -/
def IsTallied (shards : ℕ) (chronicle : Chronicle) : Prop :=
  chronicle.progress.execution.tally =
    (ShardedTally.ofCount shards).addAll (chronicle.bookings.map Booking.entry)

variable {shards : ℕ}

theorem IsTallied.step (tallied : chronicle.IsTallied shards) (taken : RunStep) :
    (chronicle.step plan taken).IsTallied shards := by
  unfold IsTallied Chronicle.step
  dsimp only
  rw [Progress.tally_step plan chronicle.looks, tallied, List.map_append, ShardedTally.addAll,
    ShardedTally.addAll, ShardedTally.addAll, List.foldl_append]

theorem IsTallied.steps (tallied : chronicle.IsTallied shards) (taken : List RunStep) :
    (chronicle.steps plan taken).IsTallied shards := by
  induction taken generalizing chronicle with
  | nil => exact tallied
  | cons first taken ih => exact ih (tallied.step first)

end Chronicle

end ArrivalRamp
