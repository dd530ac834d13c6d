import ArrivalRamp.Tally.Basic
import Mathlib.Tactic

/-!
Each event is counted once in the merged tally, whichever shard it goes to.
-/

namespace ArrivalRamp

namespace Tally

variable (measure : Tally → ℕ)

theorem measure_foldl_absorb
    (absorbed : ∀ tally other, measure (tally.absorb other) = measure tally + measure other)
    (shards : List Tally) (tally : Tally) :
    measure (shards.foldl absorb tally) = measure tally + (shards.map measure).sum := by
  induction shards generalizing tally with
  | nil => rfl
  | cons shard shards ih =>
      rw [List.foldl_cons, ih, absorbed, List.map_cons, List.sum_cons, Nat.add_assoc]

theorem sum_measure_modify {event : RunEvent} {gain : ℕ}
    (added : ∀ tally, measure (tally.add event) = measure tally + gain) (shards : List Tally)
    {index : ℕ} (inside : index < shards.length) :
    ((shards.modify index fun shard => shard.add event).map measure).sum =
      (shards.map measure).sum + gain := by
  induction shards generalizing index with
  | nil => exact absurd inside (Nat.not_lt_zero index)
  | cons shard shards ih =>
      cases index with
      | zero =>
          rw [List.modify_zero_cons, List.map_cons, List.map_cons, List.sum_cons, List.sum_cons,
            added]
          omega
      | succ index =>
          have rest := ih (Nat.lt_of_succ_lt_succ inside)
          rw [List.modify_succ_cons, List.map_cons, List.map_cons, List.sum_cons, List.sum_cons,
            rest]
          omega

end Tally

namespace ShardedTally

theorem merge_eq (tally : ShardedTally) :
    tally.merge = tally.shards.toList.foldl Tally.absorb .empty := by
  rw [merge, ← Array.foldl_toList]

theorem merge_ofCount (count : ℕ) : (ofCount count).merge = .empty := by
  rw [merge_eq, ofCount, Array.toList_replicate]
  induction max count 1 with
  | zero => rfl
  | succ count ih => exact ih

variable (tally : ShardedTally) (user : ℕ)

/-- What holds of all shards still does after an event that keeps it. -/
theorem forall_mem_add {holds : Tally → Prop} {event : RunEvent}
    (added : ∀ shard, holds shard → holds (shard.add event))
    (all : ∀ shard ∈ tally.shards.toList, holds shard) :
    ∀ shard ∈ (tally.add user event).shards.toList, holds shard := by
  intro shard inside
  rw [ShardedTally.add, Array.toList_modify] at inside
  obtain ⟨index, found⟩ := List.mem_iff_getElem?.mp inside
  rw [List.getElem?_modify] at found
  obtain ⟨before, beforeFound, rfl⟩ := Option.map_eq_some_iff.mp found
  have own := all before (List.mem_of_getElem? beforeFound)
  split_ifs
  · exact added before own
  · exact own

/-- What an event adds to a measure of one tally it adds to the measure of the merged tally. -/
theorem measure_merge_add (measure : Tally → ℕ)
    (absorbed : ∀ tally other, measure (tally.absorb other) = measure tally + measure other)
    {event : RunEvent} (gain : ℕ)
    (added : ∀ tally, measure (tally.add event) = measure tally + gain) :
    measure (tally.add user event).merge = measure tally.merge + gain := by
  have inside : user % tally.shards.size < tally.shards.toList.length :=
    Nat.mod_lt user tally.nonempty
  rw [merge_eq, merge_eq, add, Array.toList_modify, Tally.measure_foldl_absorb measure absorbed,
    Tally.measure_foldl_absorb measure absorbed, Tally.sum_measure_modify measure added _ inside, Nat.add_assoc]

theorem total_merge_request (stage target : String) (duration : Span) (status : Option ℕ)
    (error : Option String) :
    (tally.add user (.request stage target duration status error)).merge.total =
      tally.merge.total + 1 :=
  tally.measure_merge_add user Tally.total (fun _ _ => rfl) 1 (fun _ => rfl)

theorem dropped_merge_request (stage target : String) (duration : Span) (status : Option ℕ)
    (error : Option String) :
    (tally.add user (.request stage target duration status error)).merge.dropped =
      tally.merge.dropped :=
  tally.measure_merge_add user Tally.dropped (fun _ _ => rfl) 0 (fun _ => rfl)

theorem total_merge_dropped (stage : String) :
    (tally.add user (.dropped stage)).merge.total = tally.merge.total :=
  tally.measure_merge_add user Tally.total (fun _ _ => rfl) 0 (fun _ => rfl)

theorem dropped_merge_dropped (stage : String) :
    (tally.add user (.dropped stage)).merge.dropped = tally.merge.dropped + 1 :=
  tally.measure_merge_add user Tally.dropped (fun _ _ => rfl) 1 (fun _ => rfl)

end ShardedTally

end ArrivalRamp
