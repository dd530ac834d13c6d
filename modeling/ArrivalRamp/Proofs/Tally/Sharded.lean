import ArrivalRamp.Proofs.Tally.Count
import ArrivalRamp.Proofs.Tally.Merge
import ArrivalRamp.Report.Basic

/-!
The report does not tell how many shards a tally has, whose events went to which of them, and in
which order the events came.
-/

namespace ArrivalRamp

namespace Tally

/-- Events from labels are tallied in any order. -/
theorem addAll_perm {events permuted : List RunEvent} (permutation : permuted.Perm events)
    (labelled : ∀ event ∈ events, event.IsLabelled) (tally : Tally) :
    tally.addAll permuted = tally.addAll events := by
  unfold addAll
  apply permutation.foldl_eq'
  intro first firstInside second secondInside tally
  have firstLabelled := labelled first (permutation.mem_iff.mp firstInside)
  have secondLabelled := labelled second (permutation.mem_iff.mp secondInside)
  exact add_comm second first tally secondLabelled firstLabelled

/-- An event is tallied before or after the tallies of a list are absorbed. -/
theorem foldl_absorb_add {event : RunEvent} (labelled : event.IsLabelled) (shards : List Tally)
    (named : ∀ shard ∈ shards, shard.IsNamed) (tally : Tally) :
    shards.foldl absorb (tally.add event) = (shards.foldl absorb tally).add event := by
  induction shards generalizing tally with
  | nil => rfl
  | cons shard shards ih =>
      rw [List.forall_mem_cons] at named
      rw [List.foldl_cons, List.foldl_cons, add_absorb event tally shard labelled named.1]
      exact ih named.2 (tally.absorb shard)

/-- It does not matter which of the tallies an event is added to. -/
theorem foldl_absorb_modify {event : RunEvent} (labelled : event.IsLabelled) (shards : List Tally)
    (named : ∀ shard ∈ shards, shard.IsNamed) {index : ℕ} (inside : index < shards.length)
    (tally : Tally) :
    (shards.modify index fun shard => shard.add event).foldl absorb tally =
      (shards.foldl absorb tally).add event := by
  induction shards generalizing index tally with
  | nil => exact absurd inside (Nat.not_lt_zero index)
  | cons shard shards ih =>
      rw [List.forall_mem_cons] at named
      cases index with
      | zero =>
          rw [List.modify_zero_cons, List.foldl_cons, List.foldl_cons,
            absorb_add event tally shard labelled named.1]
          exact foldl_absorb_add labelled shards named.2 (tally.absorb shard)
      | succ index =>
          rw [List.modify_succ_cons, List.foldl_cons, List.foldl_cons]
          exact ih named.2 (Nat.lt_of_succ_lt_succ inside) (tally.absorb shard)

end Tally

namespace ShardedTally

/-- Each tag has the target that it names, in every shard. -/
def IsNamed (tally : ShardedTally) : Prop :=
  ∀ shard ∈ tally.shards.toList, shard.IsNamed

theorem isNamed_ofCount (count : ℕ) : (ofCount count).IsNamed := by
  intro shard inside
  rw [ofCount, Array.toList_replicate] at inside
  rw [List.eq_of_mem_replicate inside]
  exact Tally.isNamed_empty

variable {event : RunEvent} {tally : ShardedTally}

theorem IsNamed.add (named : tally.IsNamed) (labelled : event.IsLabelled) (user : ℕ) :
    (tally.add user event).IsNamed :=
  tally.forall_mem_add user (fun _ shardNamed => shardNamed.add labelled) named

/-- One event of any user is one event of the merged tally. -/
theorem merge_add (named : tally.IsNamed) (labelled : event.IsLabelled) (user : ℕ) :
    (tally.add user event).merge = tally.merge.add event := by
  rw [merge_eq, merge_eq, add, Array.toList_modify]
  apply Tally.foldl_absorb_modify labelled _ named
  exact Nat.mod_lt user tally.nonempty

/-- The events of a list, each in the tally of its user. -/
def addAll (events : List (ℕ × RunEvent)) (tally : ShardedTally) : ShardedTally :=
  events.foldl (fun tally event => tally.add event.1 event.2) tally

/-- The merged tally is the one of the events without their users. -/
theorem merge_addAll (named : tally.IsNamed) (events : List (ℕ × RunEvent))
    (labelled : ∀ event ∈ events, event.2.IsLabelled) :
    (tally.addAll events).merge = tally.merge.addAll (events.map Prod.snd) := by
  induction events generalizing tally with
  | nil => rfl
  | cons event events ih =>
      rw [List.forall_mem_cons] at labelled
      have rest := ih (named.add labelled.1 event.1) labelled.2
      rw [merge_add named labelled.1 event.1] at rest
      exact rest

/-- The report on the merged tally of events with any users, in any number of shards, is the report
on one tally of the events in any order. -/
theorem report_merge_addAll (count : ℕ) (events : List (ℕ × RunEvent)) (permuted : List RunEvent)
    (labelled : ∀ event ∈ events, event.2.IsLabelled)
    (permutation : permuted.Perm (events.map Prod.snd)) :
    ((ofCount count).addAll events).merge.report = (Tally.empty.addAll permuted).report := by
  have merged := merge_addAll (isNamed_ofCount count) events labelled
  rw [merge_ofCount] at merged
  have all : ∀ event ∈ events.map Prod.snd, event.IsLabelled := by
    intro event inside
    obtain ⟨entry, entryInside, rfl⟩ := List.mem_map.mp inside
    exact labelled entry entryInside
  rw [merged, Tally.addAll_perm permutation all]

/-- A drop of one user before a request of another one, both in a stage. -/
def dropThenRequest : List (ℕ × RunEvent) :=
  let label := (Profile.ofPairs [(5, "1s")]).label (some 0)
  [(0, .dropped label.tag), (1, .request label.tag label.target ⟨2000000⟩ (some 200) none)]

theorem report_dropThenRequest :
    (∀ event ∈ dropThenRequest, event.2.IsLabelled) ∧
      (dropThenRequest.map Prod.snd).reverse.Perm (dropThenRequest.map Prod.snd) ∧
      ((ofCount 2).addAll dropThenRequest).merge.report =
        (Tally.empty.addAll (dropThenRequest.map Prod.snd).reverse).report := by
  have labelled : ∀ event ∈ dropThenRequest, event.2.IsLabelled := by
    intro event inside
    rcases List.mem_cons.mp inside with rfl | rest
    · exact ⟨_, _, rfl⟩
    · rw [List.mem_singleton.mp rest]
      exact ⟨_, _, rfl, rfl⟩
  have permutation := List.reverse_perm (dropThenRequest.map Prod.snd)
  exact ⟨labelled, permutation, report_merge_addAll 2 dropThenRequest _ labelled permutation⟩

end ShardedTally

end ArrivalRamp
