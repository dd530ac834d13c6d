import ArrivalRamp.Proofs.Tally.Measure

/-!
Conservation in tallies. What is counted in all is what is counted by tag, by status code and by
latency, and it is what the events bring.
-/

namespace ArrivalRamp

namespace Tally

/-- What is kept by the events of a list holds of a tally after them. -/
theorem addAll_induction {holds : Tally → Prop} {events : List RunEvent}
    (add : ∀ event ∈ events, ∀ tally, holds tally → holds (tally.add event)) {tally : Tally}
    (own : holds tally) : holds (tally.addAll events) :=
  events.foldlRecOn _ own fun tally kept event inside => add event inside tally kept

/-- Each tag has as many latencies as requests. -/
def IsTimed (tally : Tally) : Prop :=
  ∀ stage ∈ tally.stages, stage.2.total = stage.2.latencies.count

theorem isTimed_empty : empty.IsTimed := by
  intro stage inside
  cases inside

theorem IsTimed.add {tally : Tally} (timed : tally.IsTimed) (event : RunEvent) :
    (tally.add event).IsTimed := by
  have step : ∀ stage : StageTally, stage.total = stage.latencies.count →
      (event.count stage).total = (event.count stage).latencies.count := by
    intro stage same
    cases event with
    | request _ _ duration status _ =>
        exact (congrArg (· + 1) same).trans (Histogram.count_record _ _).symm
    | dropped _ => exact same
  unfold IsTimed
  rw [stages_add]
  exact Ledger.forall_mem_alter (fun _ (stage : StageTally) => stage.total = stage.latencies.count)
    timed (step _ rfl) (fun stage same => step _ same)

theorem IsTimed.absorb {tally other : Tally} (timed : tally.IsTimed) (otherTimed : other.IsTimed) :
    (tally.absorb other).IsTimed := by
  have step : ∀ found stage : StageTally, stage.total = stage.latencies.count →
      found.total = found.latencies.count →
      (found.absorb stage).total = (found.absorb stage).latencies.count := by
    intro found stage same foundSame
    exact (congrArg₂ (· + ·) foundSame same).trans (Histogram.count_add _ _).symm
  unfold IsTimed
  rw [stages_absorb]
  exact Ledger.forall_mem_merge absorbStage
    (fun _ (stage : StageTally) => stage.total = stage.latencies.count) timed otherTimed
    (fun _ stage same => step _ stage same rfl)
    (fun _ stage found same foundSame => step found stage same foundSame)

/-- The requests take as long as their number times the shortest of them at least, and times the
longest of them at most. There is a shortest one as soon as there is a request. -/
structure IsSpanned (tally : Tally) : Prop where
  shortest_le : ∀ shortest ∈ tally.shortest,
    shortest.nanos * tally.total ≤ tally.duration.nanos
  le_longest : tally.duration.nanos ≤ tally.longest.nanos * tally.total
  shortest_eq_none_iff : tally.shortest = none ↔ tally.total = 0

theorem isSpanned_empty : empty.IsSpanned where
  shortest_le _ inside := by cases inside
  le_longest := le_rfl
  shortest_eq_none_iff := by decide

theorem shorter_le (duration : Span) (shortest : Option Span) :
    (shorter duration shortest).nanos ≤ duration.nanos := by
  cases shortest with
  | none => exact le_rfl
  | some shortest =>
      rw [shorter_eq_min]
      exact min_le_left _ _

theorem shorter_le_of_mem (duration : Span) {shortest : Option Span} {bound : Span}
    (inside : bound ∈ shortest) : (shorter duration shortest).nanos ≤ bound.nanos := by
  rw [Option.mem_def] at inside
  rw [inside, shorter_eq_min]
  exact min_le_right _ _

namespace IsSpanned

variable {tally other : Tally} (spanned : tally.IsSpanned)

include spanned

theorem mul_total_le {bound : ℕ} (low : ∀ shortest ∈ tally.shortest, bound ≤ shortest.nanos) :
    bound * tally.total ≤ tally.duration.nanos := by
  cases found : tally.shortest with
  | none =>
      rw [spanned.shortest_eq_none_iff.mp found]
      exact Nat.zero_le _
  | some shortest =>
      exact (Nat.mul_le_mul_right _ (low shortest found)).trans (spanned.shortest_le shortest found)

theorem le_mul_total {bound : ℕ} (high : tally.longest.nanos ≤ bound) :
    tally.duration.nanos ≤ bound * tally.total :=
  spanned.le_longest.trans (Nat.mul_le_mul_right _ high)

theorem add (event : RunEvent) : (tally.add event).IsSpanned := by
  cases event with
  | dropped stage => exact ⟨spanned.shortest_le, spanned.le_longest, spanned.shortest_eq_none_iff⟩
  | request stage target duration status error =>
      refine ⟨?_, ?_, by simp [Tally.add]⟩
      · rintro _ ⟨rfl⟩
        exact Nat.add_le_add
          (spanned.mul_total_le fun _ inside => shorter_le_of_mem duration inside)
          (shorter_le duration tally.shortest)
      · exact Nat.add_le_add (spanned.le_mul_total (le_max_left _ _)) (le_max_right _ _)

theorem absorb (otherSpanned : other.IsSpanned) : (tally.absorb other).IsSpanned where
  shortest_le := by
    intro bound inside
    have low : (∀ shortest ∈ tally.shortest, bound.nanos ≤ shortest.nanos) ∧
        ∀ shortest ∈ other.shortest, bound.nanos ≤ shortest.nanos := by
      unfold Tally.absorb at inside
      dsimp only at inside
      cases found : other.shortest with
      | none =>
          rw [found] at inside
          refine ⟨?_, by simp⟩
          rintro _ same
          rw [Option.mem_unique same inside]
      | some duration =>
          rw [found] at inside
          obtain rfl := Option.some.inj inside
          refine ⟨fun _ inside => shorter_le_of_mem duration inside, ?_⟩
          rintro _ ⟨rfl⟩
          exact shorter_le duration tally.shortest
    change bound.nanos * (tally.total + other.total) ≤ tally.duration.nanos + other.duration.nanos
    rw [Nat.mul_add]
    exact Nat.add_le_add (spanned.mul_total_le low.1) (otherSpanned.mul_total_le low.2)
  le_longest := by
    change tally.duration.nanos + other.duration.nanos ≤
      max tally.longest.nanos other.longest.nanos * (tally.total + other.total)
    rw [Nat.mul_add]
    exact Nat.add_le_add (spanned.le_mul_total (le_max_left _ _))
      (otherSpanned.le_mul_total (le_max_right _ _))
  shortest_eq_none_iff := by
    have own := spanned.shortest_eq_none_iff
    have others := otherSpanned.shortest_eq_none_iff
    change _ ↔ tally.total + other.total = 0
    rw [Nat.add_eq_zero_iff, ← own, ← others]
    unfold Tally.absorb
    cases other.shortest <;> simp

end IsSpanned

/-- A tally has in all what its tags, its latencies and its status codes have, and this is what the
events bring. A request that does not fail has a status code from 200 to 299. -/
structure Conserves (events : List RunEvent) (tally : Tally) : Prop where
  total : tally.total = (events.map RunEvent.requests).sum
  total_stages : tally.total = tally.stageSum StageTally.total
  total_latencies : tally.total = tally.latencies.count
  timed : tally.IsTimed
  failed : tally.failed = (events.map RunEvent.failures).sum
  failed_stages : tally.failed = tally.stageSum StageTally.failed
  failed_add_passed :
    tally.failed + tally.answers (fun code => 200 ≤ code && code ≤ 299) = tally.total
  answers_le : tally.statusCodes.total ≤ tally.total
  dropped : tally.dropped = (events.map RunEvent.drops).sum
  dropped_stages : tally.dropped = tally.stageSum StageTally.dropped
  duration : tally.duration.nanos = (events.map RunEvent.nanos).sum
  duration_stages : tally.duration.nanos = tally.stageSum fun stage => stage.duration.nanos
  spanned : tally.IsSpanned

/-- The answers with a wanted status code are the counts of the wanted codes. -/
theorem answers_eq_total (wanted : ℕ → Bool) (tally : Tally) :
    tally.answers wanted = Ledger.total (tally.statusCodes.filter fun code => wanted code.1) := by
  unfold answers Ledger.measured
  induction tally.statusCodes with
  | nil => rfl
  | cons code codes ih =>
      obtain ⟨code, amount⟩ := code
      rw [List.map_cons, List.sum_cons, ih, List.filter_cons]
      by_cases holds : wanted code <;> simp [holds]

/-- A measured tally conserves what its events bring. -/
theorem conserves_of_counts {events : List RunEvent} {tally : Tally}
    (counted : ∀ {measure gain}, Counts measure gain → measure tally = (events.map gain).sum)
    (timed : tally.IsTimed) (spanned : tally.IsSpanned) : tally.Conserves events where
  total := counted .total
  total_stages := (counted .total).trans (counted .total_stages).symm
  total_latencies := (counted .total).trans (counted .latencies).symm
  timed := timed
  failed := counted .failed
  failed_stages := (counted .failed).trans (counted .failed_stages).symm
  failed_add_passed := by
    rw [counted .failed, counted (.answers _), counted .total, ← List.sum_map_add]
    exact congrArg List.sum (List.map_congr_left fun event _ => event.failures_add_answers)
  answers_le := by
    have all : tally.answers (fun _ => true) = tally.statusCodes.total := by
      rw [answers_eq_total, List.filter_true]
    rw [← all, counted (.answers _), counted .total]
    exact List.sum_le_sum fun event _ => event.answers_le_requests _
  dropped := counted .dropped
  dropped_stages := (counted .dropped).trans (counted .dropped_stages).symm
  duration := counted .duration
  duration_stages := (counted .duration).trans (counted .duration_stages).symm
  spanned := spanned

end Tally

namespace ShardedTally

/-- What holds of the empty tally and is kept by the events of a list and by merges holds of the
merged tally. -/
theorem merge_induction {holds : Tally → Prop} {events : List (ℕ × RunEvent)}
    (empty : holds .empty)
    (add : ∀ event ∈ events, ∀ tally, holds tally → holds (tally.add event.2))
    (absorb : ∀ tally other, holds tally → holds other → holds (tally.absorb other))
    (count : ℕ) : holds ((ofCount count).addAll events).merge := by
  have start : ∀ shard ∈ (ofCount count).shards.toList, holds shard := by
    intro shard inside
    rw [ofCount, Array.toList_replicate] at inside
    rw [List.eq_of_mem_replicate inside]
    exact empty
  have shards : ∀ shard ∈ ((ofCount count).addAll events).shards.toList, holds shard :=
    events.foldlRecOn
      (motive := fun (tally : ShardedTally) => ∀ shard ∈ tally.shards.toList, holds shard)
      _ start fun tally kept event inside => tally.forall_mem_add event.1 (add event inside) kept
  rw [merge_eq]
  exact List.foldlRecOn _ _ empty fun tally kept shard inside =>
    absorb tally shard kept (shards shard inside)

/-- Events are conserved in one tally, and in the merged tallies of any number of shards. -/
theorem conserves_addAll (events : List RunEvent) (count : ℕ) (assigned : List (ℕ × RunEvent)) :
    (Tally.empty.addAll events).Conserves events ∧
      ((ofCount count).addAll assigned).merge.Conserves (assigned.map Prod.snd) := by
  constructor
  · apply Tally.conserves_of_counts
    · intro measure gain counts
      rw [counts.addAll, counts.empty, Nat.zero_add]
    · exact Tally.addAll_induction (fun event _ _ timed => timed.add event) Tally.isTimed_empty
    · exact Tally.addAll_induction (fun event _ _ spanned => spanned.add event)
        Tally.isSpanned_empty
  · apply Tally.conserves_of_counts
    · intro measure gain counts
      rw [counts.merge_addAll, merge_ofCount, counts.empty, Nat.zero_add]
    · exact merge_induction Tally.isTimed_empty (fun event _ _ timed => timed.add event.2)
        (fun _ _ timed => timed.absorb) count
    · exact merge_induction Tally.isSpanned_empty (fun event _ _ spanned => spanned.add event.2)
        (fun _ _ spanned => spanned.absorb) count

end ShardedTally

end ArrivalRamp
