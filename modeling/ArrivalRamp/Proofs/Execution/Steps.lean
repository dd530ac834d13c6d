import ArrivalRamp.Proofs.Execution.Bookings
import ArrivalRamp.Proofs.Execution.Credit

/-!
What single steps of a run change. Only a look at the clock changes the time of the dispatcher, and
only the dispatcher sends users off. All other iterations go on.
-/

namespace ArrivalRamp

/-- A look at the clock finds a stage, and the rate at which arrivals are offered in it. -/
structure RunPlan.Offers (plan : RunPlan) (look : Span) (index : ℕ) : Prop where
  rate : (plan.profile.rateAt? plan.settings.startRate look.toMillis).isSome
  stage : plan.profile.stageAt? look.toMillis = some index

theorem RunPlan.exists_offers {plan : RunPlan} {look : Span} {rate : Float}
    (offered : plan.profile.rateAt? plan.settings.startRate look.toMillis = some rate) :
    ∃ index, plan.Offers look index := by
  obtain ⟨index, active, -⟩ := Option.bind_eq_some_iff.mp offered
  exact ⟨index, by rw [offered]; rfl, active⟩

/-- The elapsed time of the dispatcher while there are arrivals that it has not settled. -/
def Dispatcher.arriving? : Dispatcher → Option Float
  | .offering elapsed (_ + 1) => some elapsed
  | .making elapsed _ => some elapsed
  | .dropping elapsed _ => some elapsed
  | _ => none

/-- What the clock shows to a step that looks at it. -/
def RunStep.reading? : RunStep → Option Span
  | .look now => some now
  | .begin _ now => some now
  | _ => none

namespace Progress

variable {limit : ℕ} {plan : RunPlan}

theorem mem_of_mem_arriving? {elapsed found : Float} {due : ℕ}
    (inside : found ∈ (Dispatcher.offering elapsed due).arriving?) : found ∈ some elapsed := by
  cases due with
  | zero => cases inside
  | succ due => exact inside

/-- The dispatcher comes to the time of a look. -/
structure LooksUp (plan : RunPlan) (now : Span) (next : Progress) : Prop where
  last : next.execution.last = now
  offers : ∃ index, plan.Offers now index
  arriving : ∀ elapsed ∈ next.dispatcher.arriving?, elapsed = now.toMillis

/-- The dispatcher stays at the time of its last look. -/
structure StaysOn (progress next : Progress) : Prop where
  last : next.execution.last = progress.execution.last
  arriving : ∀ elapsed ∈ next.dispatcher.arriving?, elapsed ∈ progress.dispatcher.arriving?

theorem StaysOn.refl (progress : Progress) : progress.StaysOn progress :=
  ⟨rfl, fun _ inside => inside⟩

theorem looksUp_or_staysOn_look (progress : Progress) (now : Span) :
    LooksUp plan now (progress.look plan now) ∨ progress.StaysOn (progress.look plan now) := by
  obtain ⟨execution, dispatcher⟩ := progress
  unfold Progress.look
  split
  case h_1 elapsed same =>
    split
    case h_1 look found =>
      obtain ⟨rate, credit, offered, elapsed, next⟩ := Execution.exists_watch_eq found
      refine .inl ⟨congrArg Execution.last next, RunPlan.exists_offers offered, fun time inside => ?_⟩
      exact (Option.mem_some_iff.mp (mem_of_mem_arriving? inside)).symm.trans elapsed
    case h_2 => exact .inr ⟨rfl, nofun⟩
  case h_2 => exact .inr (.refl _)

theorem staysOn_offer (progress : Progress) : progress.StaysOn progress.offer := by
  obtain ⟨execution, dispatcher⟩ := progress
  unfold Progress.offer
  split
  case h_1 elapsed due same =>
    cases same
    split
    case h_1 slot pool taken =>
      exact ⟨rfl, fun _ => mem_of_mem_arriving?⟩
    case h_2 => exact ⟨rfl, fun _ inside => inside⟩
  case h_2 => exact .refl _

theorem staysOn_make (progress : Progress) : progress.StaysOn progress.make := by
  obtain ⟨execution, dispatcher⟩ := progress
  unfold Progress.make
  split
  case h_1 elapsed due same =>
    cases same
    split
    case h_1 slot pool made =>
      exact ⟨rfl, fun _ => mem_of_mem_arriving?⟩
    case h_2 => exact ⟨rfl, fun _ inside => inside⟩
  case h_2 => exact .refl _

theorem staysOn_drop (progress : Progress) : progress.StaysOn (progress.drop plan) := by
  obtain ⟨execution, dispatcher⟩ := progress
  unfold Progress.drop
  split
  case h_1 elapsed due same =>
    cases same
    exact ⟨rfl, fun _ => mem_of_mem_arriving?⟩
  case h_2 => exact .refl _

theorem staysOn_interrupt (progress : Progress) : progress.StaysOn progress.interrupt := by
  obtain ⟨execution, dispatcher⟩ := progress
  unfold Progress.interrupt
  split
  · exact ⟨rfl, nofun⟩
  · exact .refl _

/-- Only a look at the clock changes the time of the dispatcher. -/
theorem looksUp_or_staysOn (plan : RunPlan) (progress : Progress) (taken : RunStep) :
    (∃ now, taken = .look now ∧ LooksUp plan now (progress.step plan taken)) ∨
      progress.StaysOn (progress.step plan taken) := by
  cases taken with
  | look now => exact (progress.looksUp_or_staysOn_look now).imp_left fun up => ⟨now, rfl, up⟩
  | offer => exact .inr progress.staysOn_offer
  | make => exact .inr progress.staysOn_make
  | drop => exact .inr progress.staysOn_drop
  | interrupt => exact .inr progress.staysOn_interrupt
  | begin user now =>
      refine .inr ⟨?_, fun _ inside => inside⟩
      exact congrArg MachinePace.last (progress.execution.pace_begin plan user now)
  | record user answer duration =>
      refine .inr ⟨?_, fun _ inside => inside⟩
      exact congrArg MachinePace.last (progress.execution.pace_record user answer duration)
  | handBack user =>
      refine .inr ⟨?_, fun _ inside => inside⟩
      exact congrArg MachinePace.last (progress.execution.pace_handBack user)

/-- An iteration goes on in a step, or begins at what the clock shows. -/
def GoesOn (plan : RunPlan) (taken : RunStep) (before after : Iteration) : Prop :=
  after.slot = before.slot ∧ (after.phase = before.phase ∨ after.phase = .recorded ∨
    ∃ user now, taken = .begin user now ∧ after.phase = .begun (Execution.labelAfter plan now))

theorem mem_inFlight_advance {execution : Execution} {user : ℕ} {phase : IterationPhase}
    {after : Iteration} (inside : after ∈ (execution.advance user phase).inFlight) :
    ∃ before ∈ execution.inFlight, after.slot = before.slot ∧
      (after.phase = before.phase ∨ after.phase = phase) := by
  obtain ⟨before, member, rfl⟩ := List.mem_map.mp inside
  refine ⟨before, member, ?_⟩
  split_ifs
  · exact ⟨rfl, .inr rfl⟩
  · exact ⟨rfl, .inl rfl⟩

/-- A user that the dispatcher sends off settles an arrival, and comes behind the others. -/
theorem exists_inFlight_eq (plan : RunPlan) {progress : Progress} {taken : RunStep} {user : ℕ}
    (entering : progress.entering? taken = some user) :
    (∃ elapsed, progress.dispatcher.arriving? = some elapsed) ∧
      ∃ slot : UserSlot, slot.user = user ∧ (progress.step plan taken).execution.inFlight =
        progress.execution.inFlight ++ [⟨slot, .arrived⟩] := by
  obtain ⟨execution, dispatcher⟩ := progress
  cases taken with
  | offer =>
      rcases dispatcher with ⟨elapsed, _ | due⟩ | ⟨elapsed, due⟩ | ⟨elapsed, due⟩ | _
      case offering.succ =>
        obtain ⟨⟨slot, pool⟩, found, rfl⟩ := Option.map_eq_some_iff.mp entering
        refine ⟨⟨elapsed, rfl⟩, slot, rfl, ?_⟩
        change (Progress.offer ⟨execution, .offering elapsed (due + 1)⟩).execution.inFlight = _
        unfold Progress.offer
        dsimp only at found ⊢
        rw [found]
        rfl
      all_goals cases entering
  | make =>
      rcases dispatcher with ⟨elapsed, due⟩ | ⟨elapsed, due⟩ | ⟨elapsed, due⟩ | _
      case making =>
        obtain ⟨⟨slot, pool⟩, found, rfl⟩ := Option.map_eq_some_iff.mp entering
        refine ⟨⟨elapsed, rfl⟩, slot, rfl, ?_⟩
        change (Progress.make ⟨execution, .making elapsed due⟩).execution.inFlight = _
        unfold Progress.make
        dsimp only at found ⊢
        rw [found]
        rfl
      all_goals cases entering
  | _ => cases entering

theorem inFlight_look (progress : Progress) (now : Span) :
    (progress.look plan now).execution.inFlight = progress.execution.inFlight := by
  obtain ⟨credit, last, same⟩ := exists_execution_look_eq progress now
  rw [same]

theorem inFlight_interrupt (progress : Progress) :
    progress.interrupt.execution.inFlight = progress.execution.inFlight := by
  unfold Progress.interrupt
  split <;> rfl

/-- An arrival that finds no idle user starts no iteration yet. -/
theorem inFlight_offer {progress : Progress} (staying : progress.entering? .offer = none) :
    progress.offer.execution.inFlight = progress.execution.inFlight := by
  obtain ⟨execution, dispatcher⟩ := progress
  rcases dispatcher with ⟨elapsed, _ | due⟩ | ⟨elapsed, due⟩ | ⟨elapsed, due⟩ | _
  case offering.succ =>
    have none := Option.map_eq_none_iff.mp staying
    unfold Progress.offer
    dsimp only at none ⊢
    rw [none]
    rfl
  all_goals rfl

/-- An arrival for which no user is made starts no iteration. -/
theorem inFlight_make {progress : Progress} (staying : progress.entering? .make = none) :
    progress.make.execution.inFlight = progress.execution.inFlight := by
  obtain ⟨execution, dispatcher⟩ := progress
  rcases dispatcher with ⟨elapsed, due⟩ | ⟨elapsed, due⟩ | ⟨elapsed, due⟩ | _
  case making =>
    have none := Option.map_eq_none_iff.mp staying
    unfold Progress.make
    dsimp only at none ⊢
    rw [none]
  all_goals rfl

/-- Where the dispatcher sends nobody off, all iterations go on. -/
theorem exists_goesOn {progress : Progress} {taken : RunStep}
    (staying : progress.entering? taken = none) {after : Iteration}
    (inside : after ∈ (progress.step plan taken).execution.inFlight) :
    ∃ before ∈ progress.execution.inFlight, GoesOn plan taken before after := by
  obtain ⟨execution, dispatcher⟩ := progress
  have kept (unchanged : (Progress.step plan ⟨execution, dispatcher⟩ taken).execution.inFlight =
      execution.inFlight) : ∃ before ∈ execution.inFlight, GoesOn plan taken before after :=
    ⟨after, unchanged ▸ inside, rfl, .inl rfl⟩
  cases taken with
  | look now => exact kept (inFlight_look _ now)
  | offer => exact kept (inFlight_offer staying)
  | make => exact kept (inFlight_make staying)
  | drop => exact kept (by cases dispatcher <;> rfl)
  | interrupt => exact kept (inFlight_interrupt _)
  | begin user now =>
      change after ∈ (execution.begin plan user now).inFlight at inside
      unfold Execution.begin at inside
      split at inside
      case h_1 slot found =>
        obtain ⟨before, member, slots, phase⟩ := mem_inFlight_advance inside
        exact ⟨before, member, slots, phase.imp_right fun begun => .inr ⟨user, now, rfl, begun⟩⟩
      case h_2 => exact ⟨after, inside, rfl, .inl rfl⟩
  | record user answer duration =>
      change after ∈ (execution.record user answer duration).inFlight at inside
      unfold Execution.record at inside
      split at inside
      case h_1 slot label found =>
        obtain ⟨before, member, slots, phase⟩ := mem_inFlight_advance inside
        exact ⟨before, member, slots, phase.imp_right .inl⟩
      case h_2 => exact ⟨after, inside, rfl, .inl rfl⟩
  | handBack user =>
      change after ∈ (execution.handBack user).inFlight at inside
      unfold Execution.handBack at inside
      split at inside
      case h_1 slot found => exact ⟨after, List.mem_of_mem_filter inside, rfl, .inl rfl⟩
      case h_2 => exact ⟨after, inside, rfl, .inl rfl⟩

/-- A user that the dispatcher sends off has just arrived, and all others are other users. -/
theorem eq_or_ne_of_entering {progress : Progress} (balanced : progress.IsBalanced limit)
    {taken : RunStep} {user : ℕ} (entering : progress.entering? taken = some user)
    {after : Iteration} (inside : after ∈ (progress.step plan taken).execution.inFlight) :
    (after.slot.user = user ∧ after.phase = .arrived) ∨
      after.slot.user ≠ user ∧ after ∈ progress.execution.inFlight := by
  have next : (progress.step plan taken).IsBalanced limit := balanced.step taken
  have distinct := Execution.IsBalanced.nodup next
  obtain ⟨-, slot, rfl, arrived⟩ := exists_inFlight_eq plan entering
  rw [arrived] at distinct inside
  rcases List.mem_append.mp inside with before | new
  · rw [List.map_append, List.nodup_append] at distinct
    refine .inr ⟨?_, before⟩
    exact distinct.2.2 _ (List.mem_map_of_mem before) _ List.mem_cons_self
  · obtain rfl := List.mem_singleton.mp new
    exact .inl ⟨rfl, rfl⟩

end Progress

end ArrivalRamp
