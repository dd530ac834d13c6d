import ArrivalRamp.Proofs.Tally.Conservation
import ArrivalRamp.Proofs.Tally.Requests

/-!
The tags of a tally. They are those of its events, each with the target that its events name, and a
drop is counted under its own tag.
-/

namespace ArrivalRamp.Tally

variable {events : List RunEvent}

/-- Each tag comes from an event of a list, and has the target that the event names. -/
def IsFrom (events : List RunEvent) (tally : Tally) : Prop :=
  ∀ stage ∈ tally.stages, ∃ event ∈ events, event.tag = stage.1 ∧ event.target = stage.2.target

theorem isFrom_empty : empty.IsFrom events :=
  List.forall_mem_nil _

theorem IsFrom.add {event : RunEvent} {tally : Tally} (own : tally.IsFrom events)
    (inside : event ∈ events) : (tally.add event).IsFrom events := by
  unfold IsFrom
  rw [stages_add]
  refine Ledger.forall_mem_alter
    (fun tag (stage : StageTally) => ∃ event ∈ events, event.tag = tag ∧ event.target = stage.target)
    own ⟨event, inside, rfl, ?_⟩ fun stage found => ?_
  · rw [StageTally.target_count]
    rfl
  · rw [StageTally.target_count]
    exact found

theorem isFrom_addAll (events : List RunEvent) : (empty.addAll events).IsFrom events :=
  addAll_induction (fun _ inside _ own => own.add inside) isFrom_empty

theorem happened_of_tag (tag : String) :
    Counts (fun tally => tally.stages.measuredAt tag fun stage => stage.total + stage.dropped)
      (fun event => if event.tag = tag then 1 else 0) := by
  refine .ofTag (fun _ => rfl) (fun event stage => ?_) (fun stage other => ?_) tag
  · cases event with
    | request _ _ duration status _ => exact Nat.succ_add _ _
    | dropped _ => rfl
  · exact Nat.add_add_add_comm _ _ _ _

/-- Each event has its tag in the tally, with the target that it names. -/
theorem exists_stage_of_mem (labelled : ∀ event ∈ events, event.IsLabelled) {event : RunEvent}
    (inside : event ∈ events) :
    ∃ stage, (event.tag, stage) ∈ (empty.addAll events).stages ∧ stage.target = event.target := by
  have counted := (happened_of_tag event.tag).addAll events empty
  have own : 1 ≤ (events.map fun other => if other.tag = event.tag then 1 else 0).sum :=
    List.le_sum_of_mem (List.mem_map.mpr ⟨event, inside, if_pos rfl⟩)
  have positive := (own.trans (Nat.le_add_left _ _)).trans_eq counted.symm
  obtain ⟨stage, found⟩ := Ledger.exists_mem_of_measuredAt_pos positive
  have named : (empty.addAll events).IsNamed :=
    addAll_induction (fun event inside _ named => named.add (labelled event inside)) isNamed_empty
  exact ⟨stage, found, (named _ found).trans (labelled event inside).target_eq.symm⟩

/-- The drops of a tag are the events that drop an arrival under it. -/
theorem dropped_eq_of_mem {tag : String} {stage : StageTally}
    (inside : (tag, stage) ∈ (empty.addAll events).stages) :
    stage.dropped =
      (events.map fun event => if event.tag = tag then event.drops else 0).sum := by
  have counts : Counts (fun tally => tally.stages.measuredAt tag StageTally.dropped)
      (fun event => if event.tag = tag then event.drops else 0) :=
    .ofTag (fun _ => rfl) (fun event _ => by cases event <;> rfl) (fun _ _ => rfl) tag
  have filed : (empty.addAll events).IsFiled :=
    addAll_induction (fun event _ _ filed => filed.add event) isFiled_empty
  have measured : Ledger.measuredAt tag StageTally.dropped _ = stage.dropped :=
    Ledger.measuredAt_of_mem filed.stages inside
  rw [← measured, counts.addAll, counts.empty, Nat.zero_add]

end ArrivalRamp.Tally
