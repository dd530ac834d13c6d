import ArrivalRamp.Proofs.Tally.Samples

/-!
The latencies of a tally. Its histograms stand for the latencies of its requests, in all and by tag,
in one tally as well as in merged ones.
-/

namespace ArrivalRamp

namespace RunEvent

/-- The latency of a request in whole microseconds, at least one. -/
def latency? : RunEvent → Option ℕ
  | .request _ _ duration _ _ => some (max 1 duration.wholeMicros)
  | .dropped _ => none

/-- The latencies of the requests of a list. -/
def latencies (events : List RunEvent) : List ℕ :=
  events.filterMap latency?

/-- The latencies of the requests under a tag. -/
def latenciesOf (tag : String) (events : List RunEvent) : List ℕ :=
  latencies (events.filter fun event => event.tag = tag)

/-- The latency of an event is not beyond those that have cells of their own. -/
def IsKept (event : RunEvent) : Prop :=
  ∀ latency ∈ event.latency?, latency ≤ Histogram.greatest

/-- The requests of an event in a cell. -/
def inCell (start : ℕ) : RunEvent → ℕ
  | .request _ _ duration _ _ =>
    if Histogram.cellStart (Histogram.kept (recordedLatency duration)) = start then 1 else 0
  | .dropped _ => 0

theorem kept_recordedLatency {duration : Span}
    (small : max 1 duration.wholeMicros ≤ Histogram.greatest) :
    Histogram.kept (recordedLatency duration) = max 1 duration.wholeMicros := by
  have word : duration.wholeMicros % Word.size = duration.wholeMicros := by
    apply Nat.mod_eq_of_lt
    unfold Histogram.greatest at small
    unfold Word.size
    omega
  rw [recordedLatency, word, Histogram.kept, if_pos small]

theorem sum_inCell {events : List RunEvent} (kept : ∀ event ∈ events, event.IsKept) (start : ℕ) :
    (events.map (inCell start)).sum =
      ((latencies events).map Histogram.cellStart).count start := by
  induction events with
  | nil => rfl
  | cons event events ih =>
      rw [List.forall_mem_cons] at kept
      rw [List.map_cons, List.sum_cons, ih kept.2]
      cases event with
      | dropped stage => exact Nat.zero_add _
      | request stage target duration status error =>
          have own := kept_recordedLatency (kept.1 _ rfl)
          simp [latencies, latency?, inCell, own, List.count_cons, Nat.add_comm]

theorem sum_inCell_of_tag {events : List RunEvent} (kept : ∀ event ∈ events, event.IsKept)
    (tag : String) (start : ℕ) :
    (events.map fun event => if event.tag = tag then event.inCell start else 0).sum =
      ((latenciesOf tag events).map Histogram.cellStart).count start := by
  have tagged : ∀ event ∈ events.filter fun event => event.tag = tag, event.IsKept :=
    fun event inside => kept event (List.mem_of_mem_filter inside)
  rw [latenciesOf, ← sum_inCell tagged]
  clear tagged kept
  induction events with
  | nil => rfl
  | cons event events ih =>
      rw [List.map_cons, List.sum_cons, ih, List.filter_cons]
      by_cases same : event.tag = tag <;> simp [same]

end RunEvent

namespace Tally

namespace Counts

theorem inCell (start : ℕ) :
    Counts (fun tally => tally.latencies.amount start) (RunEvent.inCell start) where
  empty := rfl
  add event tally := by
    cases event with
    | dropped stage => rfl
    | request stage target duration status error => exact Histogram.amount_record start _ _
  absorb _ _ := Histogram.amount_add start _ _

/-- A measure of the tally of a tag grows by what the events of the tag bring. -/
theorem ofTag {measure : StageTally → ℕ} {gain : RunEvent → ℕ}
    (empty : ∀ target, measure (.empty target) = 0)
    (add : ∀ event stage, measure (event.count stage) = measure stage + gain event)
    (absorb : ∀ stage other, measure (stage.absorb other) = measure stage + measure other)
    (tag : String) :
    Counts (fun tally => tally.stages.measuredAt tag measure)
      (fun event => if event.tag = tag then gain event else 0) where
  empty := rfl
  add event tally := by
    rw [stages_add]
    refine Ledger.measuredAt_alter ?_ (fun stage => add event stage) tally.stages
    rw [Option.getD_none, add, empty, Nat.zero_add]
  absorb tally other := by
    rw [stages_absorb]
    refine Ledger.measuredAt_merge absorbStage (fun stage => ?_)
      (fun stage found => absorb found stage) other.stages tally.stages
    rw [absorbStage, Option.getD_none, absorb, empty, Nat.zero_add]

theorem inCell_of_tag (tag : String) (start : ℕ) :
    Counts (fun tally => tally.stages.measuredAt tag fun stage => stage.latencies.amount start)
      (fun event => if event.tag = tag then event.inCell start else 0) := by
  refine ofTag (fun _ => rfl) (fun event stage => ?_)
    (fun _ _ => Histogram.amount_add start _ _) tag
  cases event with
  | dropped stage => rfl
  | request stage target duration status error => exact Histogram.amount_record start _ _

end Counts

/-- The tags stand in their order, and so do the cells of the latencies in all and by tag. -/
structure IsFiled (tally : Tally) : Prop where
  latencies : tally.latencies.IsFiled
  stages : tally.stages.IsSorted
  stageLatencies : ∀ stage ∈ tally.stages, stage.2.latencies.IsFiled

theorem isFiled_empty : empty.IsFiled where
  latencies := Histogram.isFiled_empty
  stages := List.Pairwise.nil
  stageLatencies stage inside := by cases inside

namespace IsFiled

variable {tally other : Tally} (filed : tally.IsFiled)

include filed

theorem add (event : RunEvent) : (tally.add event).IsFiled where
  latencies := by
    cases event with
    | dropped stage => exact filed.latencies
    | request stage target duration status error => exact filed.latencies.record _
  stages := by
    rw [stages_add]
    exact filed.stages.alter _ _
  stageLatencies := by
    have step : ∀ stage : StageTally, stage.latencies.IsFiled →
        (event.count stage).latencies.IsFiled := by
      intro stage own
      cases event with
      | dropped _ => exact own
      | request _ _ duration _ _ => exact own.record _
    rw [stages_add]
    exact Ledger.forall_mem_alter (fun _ (stage : StageTally) => stage.latencies.IsFiled)
      filed.stageLatencies (step _ Histogram.isFiled_empty) step

theorem absorb (otherFiled : other.IsFiled) : (tally.absorb other).IsFiled where
  latencies := filed.latencies.add otherFiled.latencies
  stages := filed.stages.merge absorbStage _
  stageLatencies := by
    rw [stages_absorb]
    exact Ledger.forall_mem_merge absorbStage
      (fun _ (stage : StageTally) => stage.latencies.IsFiled) filed.stageLatencies
      otherFiled.stageLatencies (fun _ _ own => Histogram.isFiled_empty.add own)
      fun _ _ _ own found => found.add own

end IsFiled

section Counted

variable {events : List RunEvent} {tally : Tally}
  (counted : ∀ {measure gain}, Counts measure gain → measure tally = (events.map gain).sum)
  (filed : tally.IsFiled) (kept : ∀ event ∈ events, event.IsKept)

include counted kept

theorem latencies_holds (filed : tally.IsFiled) :
    tally.latencies.Holds (RunEvent.latencies events) where
  filed := filed.latencies
  amount start := (counted (.inCell start)).trans (RunEvent.sum_inCell kept start)

theorem measuredAt_inCell (tag : String) (start : ℕ) :
    (tally.stages.measuredAt tag fun stage => stage.latencies.amount start) =
      ((RunEvent.latenciesOf tag events).map Histogram.cellStart).count start :=
  (counted (.inCell_of_tag tag start)).trans (RunEvent.sum_inCell_of_tag kept tag start)

theorem stage_latencies_holds (filed : tally.IsFiled) {tag : String} {stage : StageTally}
    (inside : (tag, stage) ∈ tally.stages) :
    stage.latencies.Holds (RunEvent.latenciesOf tag events) where
  filed := filed.stageLatencies _ inside
  amount start := by
    rw [← measuredAt_inCell counted kept tag start, Ledger.measuredAt_of_mem filed.stages inside]

/-- A tag with a request has a tally. -/
theorem exists_stage {tag : String} (requested : RunEvent.latenciesOf tag events ≠ []) :
    ∃ stage, (tag, stage) ∈ tally.stages := by
  obtain ⟨latency, rest, same⟩ := List.exists_cons_of_ne_nil requested
  apply Ledger.exists_mem_of_measuredAt_pos
  rw [measuredAt_inCell counted kept tag (Histogram.cellStart latency), same]
  simp

end Counted

end Tally

end ArrivalRamp
