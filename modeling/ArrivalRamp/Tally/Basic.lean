import ArrivalRamp.Duration.Span
import ArrivalRamp.Profile.Label
import ArrivalRamp.Tally.Histogram
import ArrivalRamp.Text.Lines

/-!
The tally of a run: what happened to its requests, in all and by stage.
-/

namespace ArrivalRamp

/-- What can happen to an arrival: a request is made, or no user is free for it. -/
inductive RunEvent where
  | request (stage target : String) (duration : Span) (status : Option Nat)
      (error : Option String)
  | dropped (stage : String)
  deriving DecidableEq, Repr

/-- A status passes the check of a request when it reports success. -/
def passesCheck (status : Option Nat) : Bool :=
  match status with
  | some code => 200 ≤ code && code < 300
  | none => false

/-- One for what is counted and none for what is not. -/
def countIf (condition : Bool) : Nat :=
  if condition then 1 else 0

/-- The latency that a duration is recorded as: whole microseconds in a word, at least one. -/
def recordedLatency (duration : Span) : Nat :=
  max 1 (duration.wholeMicros % Word.size)

/-- What happened under one stage tag. -/
structure StageTally where
  target : String
  total : Nat
  failed : Nat
  dropped : Nat
  duration : Span
  latencies : Histogram
  deriving DecidableEq, Repr

namespace StageTally

/-- Nothing happened under the tag. -/
def empty (target : String) : StageTally :=
  ⟨target, 0, 0, 0, ⟨0⟩, .empty⟩

/-- One more request. -/
def addRequest (duration : Span) (status : Option Nat) (tally : StageTally) : StageTally :=
  { tally with
    total := tally.total + 1
    failed := tally.failed + countIf (!passesCheck status)
    duration := ⟨tally.duration.nanos + duration.nanos⟩
    latencies := tally.latencies.record (recordedLatency duration) }

/-- One more arrival without a free user. -/
def addDropped (tally : StageTally) : StageTally :=
  { tally with dropped := tally.dropped + 1 }

/-- What happened in both tallies, under the target of the first. -/
def absorb (tally other : StageTally) : StageTally where
  target := tally.target
  total := tally.total + other.total
  failed := tally.failed + other.failed
  dropped := tally.dropped + other.dropped
  duration := ⟨tally.duration.nanos + other.duration.nanos⟩
  latencies := tally.latencies.add other.latencies

end StageTally

/-- What happened in a run. -/
structure Tally where
  total : Nat
  failed : Nat
  dropped : Nat
  duration : Span
  shortest : Option Span
  longest : Span
  statusCodes : Ledger Nat Nat
  errors : Ledger String Nat
  latencies : Histogram
  stages : Ledger String StageTally
  deriving DecidableEq, Repr

namespace Tally

/-- Nothing happened. -/
def empty : Tally :=
  ⟨0, 0, 0, ⟨0⟩, none, ⟨0⟩, [], [], .empty, []⟩

/-- The shorter of a duration and the shortest so far. -/
def shorter (duration : Span) : Option Span → Span
  | none => duration
  | some shortest => if duration.nanos < shortest.nanos then duration else shortest

/-- The target that the tag of a dropped arrival names. -/
def targetOfTag (tag : String) : String :=
  String.ofList (Text.trimStarts StageLabel.tagStart.toList tag.toList)

/-- One more event. A tag keeps the target that it was first seen with. -/
def add (event : RunEvent) (tally : Tally) : Tally :=
  match event with
  | .request stage target duration status error =>
    { tally with
      total := tally.total + 1
      failed := tally.failed + countIf (!passesCheck status)
      duration := ⟨tally.duration.nanos + duration.nanos⟩
      shortest := some (shorter duration tally.shortest)
      longest := ⟨max tally.longest.nanos duration.nanos⟩
      statusCodes := status.elim tally.statusCodes fun code => tally.statusCodes.count code 1
      errors := error.elim tally.errors fun text => tally.errors.count text 1
      latencies := tally.latencies.record (recordedLatency duration)
      stages := tally.stages.alter stage fun found =>
        (found.getD (.empty target)).addRequest duration status }
  | .dropped stage =>
    { tally with
      dropped := tally.dropped + 1
      stages := tally.stages.alter stage fun found =>
        (found.getD (.empty (targetOfTag stage))).addDropped }

/-- The events of a list, one after another. -/
def addAll (events : List RunEvent) (tally : Tally) : Tally :=
  events.foldl (fun tally event => tally.add event) tally

/-- What happened in both tallies. -/
def absorb (tally other : Tally) : Tally where
  total := tally.total + other.total
  failed := tally.failed + other.failed
  dropped := tally.dropped + other.dropped
  duration := ⟨tally.duration.nanos + other.duration.nanos⟩
  shortest := other.shortest.elim tally.shortest fun duration =>
    some (shorter duration tally.shortest)
  longest := ⟨max tally.longest.nanos other.longest.nanos⟩
  statusCodes :=
    other.statusCodes.foldl (fun codes code => codes.count code.1 code.2) tally.statusCodes
  errors := other.errors.foldl (fun errors error => errors.count error.1 error.2) tally.errors
  latencies := tally.latencies.add other.latencies
  stages := other.stages.foldl (fun stages stage => stages.alter stage.1 fun found =>
    (found.getD (.empty stage.2.target)).absorb stage.2) tally.stages

end Tally

/-- Tallies kept apart by virtual user, so that users seldom wait for one another. -/
structure ShardedTally where
  shards : Array Tally
  nonempty : 0 < shards.size

namespace ShardedTally

/-- A number of tallies, at least one. -/
def ofCount (count : Nat) : ShardedTally where
  shards := Array.replicate (max count 1) .empty
  nonempty := by
    rw [Array.size_replicate]
    exact Nat.lt_of_lt_of_le Nat.zero_lt_one (Nat.le_max_right count 1)

/-- One more event, in the tally of a user. -/
def add (user : Nat) (event : RunEvent) (tally : ShardedTally) : ShardedTally where
  shards := tally.shards.modify (user % tally.shards.size) fun shard => shard.add event
  nonempty := by simpa using tally.nonempty

/-- All tallies together. -/
def merge (tally : ShardedTally) : Tally :=
  tally.shards.foldl (fun merged shard => merged.absorb shard) .empty

end ShardedTally

end ArrivalRamp
