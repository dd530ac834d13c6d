import ArrivalRamp.Proofs.Ledger
import ArrivalRamp.Proofs.Tally.Label
import Mathlib.Data.String.Basic

/-!
Events can be tallied in any order, and apart before the tallies are merged.
-/

namespace ArrivalRamp

attribute [ext] Span Histogram StageTally Tally

namespace Histogram

theorem record_comm (first second : ℕ) (histogram : Histogram) :
    (histogram.record second).record first = (histogram.record first).record second := by
  apply Histogram.ext
  exact Ledger.count_comm _ _ _ _ _

theorem add_record (latency : ℕ) (left right : Histogram) :
    left.add (right.record latency) = (left.add right).record latency := by
  apply Histogram.ext
  exact Ledger.sum_count_left _ _ _ _

theorem record_add (latency : ℕ) (left right : Histogram) :
    (left.record latency).add right = (left.add right).record latency := by
  apply Histogram.ext
  exact Ledger.sum_count _ _ _ _

end Histogram

namespace RunEvent

/-- The tag that an event is counted under. -/
def tag : RunEvent → String
  | .request stage _ _ _ _ => stage
  | .dropped stage => stage

/-- The target that an event gives to a tag that is new. -/
def target : RunEvent → String
  | .request _ target _ _ _ => target
  | .dropped stage => Tally.targetOfTag stage

/-- What an event does to the tally of its tag. -/
def count : RunEvent → StageTally → StageTally
  | .request _ _ duration status _ => StageTally.addRequest duration status
  | .dropped _ => StageTally.addDropped

/-- The texts of an event come from a label. A dropped arrival holds only the tag. -/
def IsLabelled : RunEvent → Prop
  | .request stage target _ _ _ => ∃ (profile : Profile) (index : Option ℕ),
      stage = (profile.label index).tag ∧ target = (profile.label index).target
  | .dropped stage => ∃ (profile : Profile) (index : Option ℕ), stage = (profile.label index).tag

/-- The tag of an event from a label names its target. -/
theorem IsLabelled.target_eq {event : RunEvent} (labelled : event.IsLabelled) :
    event.target = Tally.targetOfTag event.tag := by
  cases event with
  | request stage target duration status error =>
      obtain ⟨profile, index, rfl, rfl⟩ := labelled
      exact (Tally.targetOfTag_label profile index).symm
  | dropped stage => rfl

end RunEvent

namespace StageTally

@[simp]
theorem target_count (event : RunEvent) (tally : StageTally) :
    (event.count tally).target = tally.target := by
  cases event <;> rfl

/-- Two events are counted in either order. -/
theorem count_comm (first second : RunEvent) (tally : StageTally) :
    first.count (second.count tally) = second.count (first.count tally) := by
  cases first <;> cases second
  · apply StageTally.ext
    case target => rfl
    case total => rfl
    case failed => exact Nat.add_right_comm _ _ _
    case dropped => rfl
    case duration => exact Span.ext (Nat.add_right_comm _ _ _)
    case latencies => exact Histogram.record_comm _ _ _
  · rfl
  · rfl
  · rfl

/-- An event is counted before or after another tally is absorbed. -/
theorem count_absorb (event : RunEvent) (tally other : StageTally) :
    (event.count tally).absorb other = event.count (tally.absorb other) := by
  cases event
  · apply StageTally.ext
    case target => rfl
    case total => exact Nat.add_right_comm _ _ _
    case failed => exact Nat.add_right_comm _ _ _
    case dropped => rfl
    case duration => exact Span.ext (Nat.add_right_comm _ _ _)
    case latencies => exact Histogram.record_add _ _ _
  · apply StageTally.ext
    case dropped => exact Nat.add_right_comm _ _ _
    all_goals rfl

/-- An event that is absorbed is counted. -/
theorem absorb_count (event : RunEvent) (tally other : StageTally) :
    tally.absorb (event.count other) = event.count (tally.absorb other) := by
  cases event
  · apply StageTally.ext
    case target => rfl
    case total => rfl
    case failed => exact (Nat.add_assoc _ _ _).symm
    case dropped => rfl
    case duration => exact Span.ext (Nat.add_assoc _ _ _).symm
    case latencies => exact Histogram.add_record _ _ _
  · rfl

end StageTally

namespace Tally

theorem shorter_eq_min (duration shortest : Span) :
    shorter duration (some shortest) = ⟨min duration.nanos shortest.nanos⟩ := by
  change (if duration.nanos < shortest.nanos then duration else shortest) = _
  split_ifs with less
  · rw [min_eq_left less.le]
  · rw [min_eq_right (not_lt.mp less)]

theorem shorter_comm (first second : Span) (shortest : Option Span) :
    shorter first (some (shorter second shortest)) =
      shorter second (some (shorter first shortest)) := by
  cases shortest with
  | none =>
      rw [shorter_eq_min, shorter_eq_min]
      exact Span.ext (min_comm _ _)
  | some shortest =>
      simp only [shorter_eq_min]
      exact Span.ext (min_left_comm _ _ _)

theorem shorter_assoc (first second : Span) (shortest : Option Span) :
    shorter (shorter first (some second)) shortest =
      shorter first (some (shorter second shortest)) := by
  cases shortest with
  | none => rfl
  | some shortest =>
      simp only [shorter_eq_min]
      exact Span.ext (min_assoc _ _ _)

/-- Each tag has the target that it names. -/
def IsNamed (tally : Tally) : Prop :=
  ∀ stage ∈ tally.stages, stage.2.target = targetOfTag stage.1

theorem stages_add (event : RunEvent) (tally : Tally) :
    (tally.add event).stages = tally.stages.alter event.tag fun found =>
      event.count (found.getD (.empty event.target)) := by
  cases event <;> rfl

theorem isNamed_empty : empty.IsNamed := by
  intro stage inside
  cases inside

theorem IsNamed.add {event : RunEvent} {tally : Tally} (named : tally.IsNamed)
    (labelled : event.IsLabelled) : (tally.add event).IsNamed := by
  unfold IsNamed
  rw [stages_add]
  refine Ledger.forall_mem_alter (fun tag (stage : StageTally) => stage.target = targetOfTag tag)
    named ?_ ?_
  · rw [StageTally.target_count]
    exact labelled.target_eq
  · intro stage same
    rw [StageTally.target_count]
    exact same

/-- The tally of a tag is absorbed. -/
def absorbStage (stage : StageTally) (found : Option StageTally) : StageTally :=
  (found.getD (.empty stage.target)).absorb stage

theorem stages_absorb (tally other : Tally) :
    (tally.absorb other).stages = Ledger.merge absorbStage other.stages tally.stages :=
  rfl

theorem absorbStage_count_left (event : RunEvent) (stage : StageTally)
    (found : Option StageTally) :
    absorbStage (event.count stage) found = event.count (absorbStage stage found) := by
  unfold absorbStage
  rw [StageTally.absorb_count, StageTally.target_count]

/-- An event is counted before or after the tally of its tag is absorbed, when both start from the
same target. -/
theorem count_absorbStage (event : RunEvent) (stage : StageTally) (found : Option StageTally)
    (target : stage.target = event.target) :
    event.count (absorbStage stage found) =
      absorbStage stage (some (event.count (found.getD (.empty event.target)))) := by
  unfold absorbStage
  rw [Option.getD_some, StageTally.count_absorb, target]

theorem stages_add_add (first second : RunEvent) (tally : Tally) (firstLabelled : first.IsLabelled)
    (secondLabelled : second.IsLabelled) :
    ((tally.add second).add first).stages = ((tally.add first).add second).stages := by
  rw [stages_add, stages_add, stages_add, stages_add]
  apply Ledger.alter_comm
  intro same found
  rw [firstLabelled.target_eq, secondLabelled.target_eq, same]
  exact StageTally.count_comm _ _ _

/-- Two events from labels are tallied in either order. -/
theorem add_comm (first second : RunEvent) (tally : Tally) (firstLabelled : first.IsLabelled)
    (secondLabelled : second.IsLabelled) :
    (tally.add second).add first = (tally.add first).add second := by
  have stages := stages_add_add first second tally firstLabelled secondLabelled
  cases first <;> cases second
  · apply Tally.ext
    case stages => exact stages
    case failed => exact Nat.add_right_comm _ _ _
    case duration => exact Span.ext (Nat.add_right_comm _ _ _)
    case shortest => exact congrArg some (shorter_comm _ _ _)
    case longest => exact Span.ext (max_right_comm _ _ _)
    case statusCodes => exact Ledger.countOne_comm _ _ _
    case errors => exact Ledger.countOne_comm _ _ _
    case latencies => exact Histogram.record_comm _ _ _
    all_goals rfl
  all_goals
    apply Tally.ext
    case stages => exact stages
    all_goals rfl

/-- An event is tallied before or after another tally is absorbed. -/
theorem add_absorb (event : RunEvent) (tally other : Tally) (labelled : event.IsLabelled)
    (named : other.IsNamed) : (tally.add event).absorb other = (tally.absorb other).add event := by
  have stages : ((tally.add event).absorb other).stages =
      ((tally.absorb other).add event).stages := by
    rw [stages_absorb, stages_add, stages_add, stages_absorb]
    apply Ledger.merge_alter
    intro stage inside found
    exact count_absorbStage event stage found ((named _ inside).trans labelled.target_eq.symm)
  cases event
  · apply Tally.ext
    case stages => exact stages
    case total => exact Nat.add_right_comm _ _ _
    case failed => exact Nat.add_right_comm _ _ _
    case dropped => rfl
    case duration => exact Span.ext (Nat.add_right_comm _ _ _)
    case shortest =>
      cases shortestEq : other.shortest with
      | none => simp only [add, absorb, shortestEq, Option.elim_none]
      | some shortest =>
          simp only [add, absorb, shortestEq, Option.elim_some]
          exact congrArg some (shorter_comm _ _ _)
    case longest => exact Span.ext (max_right_comm _ _ _)
    case statusCodes => exact Ledger.sum_countOne _ _ _
    case errors => exact Ledger.sum_countOne _ _ _
    case latencies => exact Histogram.record_add _ _ _
  · apply Tally.ext
    case stages => exact stages
    case dropped => exact Nat.add_right_comm _ _ _
    all_goals rfl

/-- An event that is absorbed with a tally is tallied. -/
theorem absorb_add (event : RunEvent) (tally other : Tally) (labelled : event.IsLabelled)
    (named : other.IsNamed) : tally.absorb (other.add event) = (tally.absorb other).add event := by
  have stages : (tally.absorb (other.add event)).stages =
      ((tally.absorb other).add event).stages := by
    rw [stages_absorb, stages_add, stages_add, stages_absorb]
    apply Ledger.merge_alter_left
    · intro found
      rw [Option.getD_none, absorbStage_count_left]
      rfl
    · intro stage _ found
      rw [Option.getD_some, Option.getD_some, absorbStage_count_left]
    · intro stage inside found
      exact count_absorbStage event stage found ((named _ inside).trans labelled.target_eq.symm)
  cases event
  · apply Tally.ext
    case stages => exact stages
    case total => rfl
    case failed => exact (Nat.add_assoc _ _ _).symm
    case dropped => rfl
    case duration => exact Span.ext (Nat.add_assoc _ _ _).symm
    case shortest =>
      cases shortestEq : other.shortest with
      | none =>
          simp only [add, absorb, shortestEq, Option.elim_none]
          rfl
      | some shortest =>
          simp only [add, absorb, shortestEq, Option.elim_some]
          exact congrArg some (shorter_assoc _ _ _)
    case longest => exact Span.ext (max_assoc _ _ _).symm
    case statusCodes => exact Ledger.sum_countOne_left _ _ _
    case errors => exact Ledger.sum_countOne_left _ _ _
    case latencies => exact Histogram.add_record _ _ _
  · apply Tally.ext
    case stages => exact stages
    all_goals rfl

end Tally

end ArrivalRamp
