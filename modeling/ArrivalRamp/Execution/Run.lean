import ArrivalRamp.Host.Basic

/-!
A whole run on a machine: looks at the clock until the profile has ended or the run is stopped, and
between them the iterations that arrived.
-/

namespace ArrivalRamp.RunPlan

variable {Action : Type → Type} [Host Action]

/-- The time since an earlier reading of the clock. -/
def elapsedSince (start : Span) : Action Span := do
  return (← Host.elapsed).since start

variable [UrlParser]

/-- The answer to a planned request. One that has no form for the network fails at once. -/
def answer (plan : RequestPlan) : Action Answer :=
  match Message.ofPlan plan with
  | .ok message =>
    if message.isSendable then Host.send message else return .failed .request
  | .error _ => return .failed .request

/-- One iteration from its beginning to its end. -/
def iterate (plan : RunPlan) (start : Span) (execution : Execution) (slot : UserSlot) :
    Action Execution := do
  let now ← elapsedSince start
  let begun := execution.begin plan slot.user now
  let request := plan.template.plan (Execution.labelAfter plan now) slot.workUnit (← Host.nonce)
  let sent ← elapsedSince start
  let answer ← answer request
  return begun.finish slot.user answer ((← elapsedSince start).since sent)

/-- All iterations under way, one after another. -/
def iterateAll (plan : RunPlan) (start : Span) (execution : Execution) : Action Execution :=
  execution.inFlight.foldlM (fun execution iteration => plan.iterate start execution iteration.slot)
    execution

/-- The execution up to its end, and whether it was stopped. -/
def proceed (plan : RunPlan) (start : Span) (steps : Nat) (execution : Execution) :
    Action (Execution × Bool) := do
  match steps with
  | 0 => return (execution, false)
  | steps + 1 =>
    match execution.look? plan (← elapsedSince start) with
    | none => return (execution, false)
    | some (looked, wait) =>
      if ← Host.isStopped then
        return (← plan.iterateAll start looked.interrupt, true)
      else
        let served ← plan.iterateAll start looked
        Host.pause wait
        proceed plan start steps served

/-- A whole run. Two looks are at least a millisecond apart, so the length of the profile bounds
their number. -/
def run (plan : RunPlan) : Action RunOutcome := do
  let start ← Host.elapsed
  let first := Execution.start plan.settings (← Host.parallelism)
  let (last, isInterrupted) ← plan.proceed start (plan.profile.total + 2) first
  return last.outcome plan (← Host.instant) (← elapsedSince start) isInterrupted

end ArrivalRamp.RunPlan
