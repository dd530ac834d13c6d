import ArrivalRamp.Execution.Pacing
import ArrivalRamp.Pool
import ArrivalRamp.Profile.RunWindow
import ArrivalRamp.Request.Message
import ArrivalRamp.Tally.Basic

/-!
The execution of a run. A look at the clock makes the arrivals that are due. Each arrival takes a
free user for one iteration, or is dropped. An iteration looks at the clock itself when it begins,
and hands its user back when it ends.
-/

namespace ArrivalRamp

/-- What stays the same in a run. -/
structure RunPlan where
  settings : RunSettings
  profile : Profile
  template : RequestTemplate

/-- The plan of a run with settings and a profile. -/
def RunPlan.ofSettings [UrlParser] (settings : RunSettings) (profile : Profile) :
    Except TemplateFault RunPlan := do
  return ⟨settings, profile, ← RequestTemplate.ofSettings settings⟩

/-- Why a request brought no answer. -/
inductive SendFault where
  | timeout
  | connection
  | body
  | request
  deriving DecidableEq, Repr

/-- The text that a fault is counted under. -/
def SendFault.text : SendFault → String
  | .timeout => "request timeout"
  | .connection => "connection error"
  | .body => "body error"
  | .request => "request error"

/-- How a request ended: with a status, or without an answer. -/
inductive Answer where
  | received (status : Nat)
  | failed (fault : SendFault)
  deriving DecidableEq, Repr

namespace Answer

/-- The status of an answer. -/
def status? : Answer → Option Nat
  | .received status => some status
  | .failed _ => none

/-- The text that a failure is counted under. -/
def error? : Answer → Option String
  | .received _ => none
  | .failed fault => some fault.text

end Answer

/-- What a run warns of. -/
inductive RunWarning where
  | requestFailed
  | requestError
  | stopRequested
  deriving DecidableEq, Repr

/-- The text of a warning. -/
def RunWarning.message : RunWarning → String
  | .requestFailed => "request failed"
  | .requestError => "request error"
  | .stopRequested => "stop requested, ending ramp early"

/-- What an answer gives reason to warn of. -/
def Answer.warning? : Answer → Option RunWarning
  | .received status => if passesCheck (some status) then none else some .requestFailed
  | .failed _ => some .requestError

/-- How far an iteration under way has come. It has a label once it has looked at the clock, and
ends with an answer that is recorded before its user is handed back. -/
inductive IterationPhase where
  | arrived
  | begun (label : StageLabel)
  | recorded
  deriving DecidableEq, Repr

/-- An iteration under way. -/
structure Iteration where
  slot : UserSlot
  phase : IterationPhase
  deriving DecidableEq, Repr

/-- The state of a run: the credit at the last look, the users, what happened so far, how many
arrivals there were, the iterations under way in the order of their arrivals, and warnings. -/
structure Execution where
  credit : Float
  last : Span
  pool : Pool
  tally : ShardedTally
  arrivals : Nat
  inFlight : List Iteration
  warnings : List RunWarning

namespace Execution

/-- The state before a run, with a number of tallies kept apart. -/
def start (settings : RunSettings) (shards : Nat) : Execution where
  credit := 0.0
  last := ⟨0⟩
  pool := .ofSize settings.preAllocatedUsers settings.maxUsers
  tally := .ofCount shards
  arrivals := 0
  inFlight := []
  warnings := []

/-- One more arrival is counted. -/
def countArrival (execution : Execution) : Execution :=
  { execution with arrivals := execution.arrivals + 1 }

/-- The user of an arrival has been taken out of the pool. -/
def enter (slot : UserSlot) (pool : Pool) (execution : Execution) : Execution :=
  { execution with pool, inFlight := execution.inFlight ++ [⟨slot, .arrived⟩] }

/-- There is no user for an arrival at an elapsed time. -/
def drop (plan : RunPlan) (elapsed : Float) (execution : Execution) : Execution :=
  { execution with
    tally := execution.tally.add 0 (.dropped (plan.profile.labelAt elapsed).tag) }

/-- One arrival at an elapsed time. -/
def arrive (plan : RunPlan) (elapsed : Float) (execution : Execution) : Execution :=
  match execution.pool.acquire? with
  | some (slot, pool) => execution.countArrival.enter slot pool
  | none => execution.countArrival.drop plan elapsed

/-- A number of arrivals at an elapsed time. -/
def arriveTimes (plan : RunPlan) (elapsed : Float) : Nat → Execution → Execution
  | 0, execution => execution
  | count + 1, execution => arriveTimes plan elapsed count (execution.arrive plan elapsed)

/-- What a look at the clock finds: the elapsed time, the arrivals that are due, how long to wait for
the next look, and the state without the credit that the arrivals cost. -/
structure Look where
  elapsed : Float
  arrivals : Nat
  wait : Span
  execution : Execution

/-- A look at the clock. There is none once the profile has ended. -/
def watch? (plan : RunPlan) (now : Span) (execution : Execution) : Option Look := do
  let elapsed := now.toMillis
  let rate ← plan.profile.rateAt? plan.settings.startRate elapsed
  let unit := plan.settings.timeUnit.toSeconds
  let grown := Pacing.accrue execution.credit rate (now.since execution.last).toSeconds unit
  let (arrivals, credit) := Pacing.spend Pacing.greatestCredit 0 grown
  let left := (Span.ofMillis plan.profile.total).since now
  return ⟨elapsed, arrivals, Pacing.wait credit rate unit left, { execution with credit, last := now }⟩

/-- A look at the clock makes the arrivals that are due, and tells how long to wait for the next
look. -/
def look? (plan : RunPlan) (now : Span) (execution : Execution) : Option (Execution × Span) := do
  let look ← execution.watch? plan now
  return (look.execution.arriveTimes plan look.elapsed look.arrivals, look.wait)

/-- The label of a unit of work that begins at an instant of the run. -/
def labelAfter (plan : RunPlan) (now : Span) : StageLabel :=
  plan.profile.labelAt now.toMillis

/-- The iteration of a user, if it is under way. -/
def iteration? (user : Nat) (execution : Execution) : Option Iteration :=
  execution.inFlight.find? fun iteration => iteration.slot.user = user

/-- The iteration of a user comes to a phase. -/
def advance (user : Nat) (phase : IterationPhase) (execution : Execution) : Execution :=
  { execution with
    inFlight := execution.inFlight.map fun iteration =>
      if iteration.slot.user = user then { iteration with phase } else iteration }

/-- The iteration of a user looks at the clock and begins. -/
def begin (plan : RunPlan) (user : Nat) (now : Span) (execution : Execution) : Execution :=
  match execution.iteration? user with
  | some ⟨_, .arrived⟩ => execution.advance user (.begun (labelAfter plan now))
  | _ => execution

/-- Failures are warned of in the first iterations of each user only. -/
def warnedIterations : Nat := 10

/-- The answer to an iteration that has begun is recorded, with the time that it took. -/
def record (user : Nat) (answer : Answer) (duration : Span) (execution : Execution) : Execution :=
  match execution.iteration? user with
  | some ⟨slot, .begun label⟩ =>
    { execution.advance user .recorded with
      tally := execution.tally.add user
        (.request label.tag label.target duration answer.status? answer.error?)
      warnings := execution.warnings ++
        if slot.iterations < warnedIterations then answer.warning?.toList else [] }
  | _ => execution

/-- The user of an iteration whose answer is recorded is handed back. -/
def handBack (user : Nat) (execution : Execution) : Execution :=
  match execution.iteration? user with
  | some ⟨slot, .recorded⟩ =>
    { execution with
      pool := execution.pool.release slot
      inFlight := execution.inFlight.filter fun iteration => iteration.slot.user ≠ user }
  | _ => execution

/-- An iteration that has begun ends with an answer after some time. -/
def finish (user : Nat) (answer : Answer) (duration : Span) (execution : Execution) : Execution :=
  (execution.record user answer duration).handBack user

/-- The run is asked to stop before its end. -/
def interrupt (execution : Execution) : Execution :=
  { execution with warnings := execution.warnings ++ [.stopRequested] }

end Execution

/-- What a run comes to. -/
structure RunOutcome where
  tally : Tally
  window : RunWindow
  elapsed : Span
  isInterrupted : Bool
  usersCreated : Nat
  warnings : List RunWarning

/-- What an execution comes to when it ends at an instant after some time. -/
def Execution.outcome (plan : RunPlan) (instant : Int) (elapsed : Span) (isInterrupted : Bool)
    (execution : Execution) : RunOutcome where
  tally := execution.tally.merge
  window := .ofStop instant (some elapsed.toMillis) plan.profile.total
  elapsed := elapsed
  isInterrupted := isInterrupted
  usersCreated := execution.pool.created
  warnings := execution.warnings

end ArrivalRamp
