import ArrivalRamp.Profile.StageReport
import ArrivalRamp.Proofs.Calendar.Timestamp
import ArrivalRamp.Proofs.Profile.RunWindow

/-!
A finished run on the wall clock. Its stages are due one after another, none of them before the run
starts, and those that it reached come first. This holds for every end and every length of a run as
long as the profile fits in an instant, and for no longer profile.
-/

namespace ArrivalRamp

/-- An end that an argument gives is an instant of the range, as the present is. -/
theorem RunStop.minInstant_le_millis {argument : String} {stop : RunStop} {present : ℤ}
    (accepted : ofArgument argument = .ok stop) (low : Word.minInstant ≤ present) :
    Word.minInstant ≤ stop.millis present := by
  unfold ofArgument at accepted
  dsimp only at accepted
  split_ifs at accepted
  · obtain rfl := Except.ok.inj accepted
    exact low
  · split at accepted
    · next instant found =>
      obtain rfl := Except.ok.inj accepted
      have inside := (Option.filter_eq_some_iff.mp found).2
      rw [Bool.and_eq_true, decide_eq_true_eq] at inside
      exact inside.1
    · split at accepted
      · next instant read =>
        obtain rfl := Except.ok.inj accepted
        exact Timestamp.minInstant_le_of_read read
      · cases accepted

namespace Profile

variable (profile : Profile) {window : RunWindow}

/-- The window and the records of a run are in the order of time: the run does not start after its
end, and its records are those of the stages in their order, none of them due before the run starts
or before the stage in front of it. A stage that was reached has only such stages in front of it. -/
structure IsChronological (window : RunWindow) (records : List StageRecord) : Prop where
  forward : window.start ≤ window.stop
  staged : records.map StageRecord.stage = List.range profile.size
  within : ∀ record ∈ records, window.start ≤ record.instant
  ordered : records.Pairwise fun earlier later => earlier.instant ≤ later.instant
  reached : records.Pairwise fun earlier later => later.reached → earlier.reached

theorem reached_iff {record : StageRecord} (inside : record ∈ profile.records window) :
    record.reached ↔ record.instant < window.stop := by
  obtain ⟨start, -, rfl⟩ := List.mem_map.mp inside
  exact decide_eq_true_iff

section Fits

variable (fits : profile.total ≤ Word.maxInstant)

include fits

theorem getElem?_records (window : RunWindow) {index : ℕ} {stage : Stage}
    (found : profile.stages[index]? = some stage) :
    ∃ record, (profile.records window)[index]? = some record ∧ record.stage = index ∧
      record.instant = Word.clampInstant (window.start + profile.elapsedAfter index) := by
  unfold records
  rw [List.getElem?_map, profile.getElem?_starts_of_fits fits found]
  exact ⟨_, rfl, rfl, rfl⟩

/-- A record is that of the stage of its place, due when the stages before it have elapsed. -/
theorem getElem_records {index : ℕ} (inside : index < (profile.records window).length) :
    (profile.records window)[index].stage = index ∧
      (profile.records window)[index].instant =
        Word.clampInstant (window.start + profile.elapsedAfter index) := by
  unfold records at *
  rw [List.getElem_map]
  rw [List.length_map] at inside
  exact profile.getElem?_starts_eq_some_of_fits fits (List.getElem?_eq_getElem inside)

theorem stages_records :
    (profile.records window).map StageRecord.stage = List.range profile.size := by
  apply List.ext_getElem
  · simp [records]
  · intro index inside _
    rw [List.length_map] at inside
    rw [List.getElem_map, (profile.getElem_records fits inside).1, List.getElem_range]

/-- The records of a window that is no instant backward are in the order of time. -/
theorem isChronological_records (high : window.start ≤ Word.maxInstant)
    (forward : window.start ≤ window.stop) :
    profile.IsChronological window (profile.records window) := by
  have ordered : (profile.records window).Pairwise
      fun earlier later => earlier.instant ≤ later.instant := by
    rw [List.pairwise_iff_getElem]
    intro earlier later earlierInside laterInside before
    rw [(profile.getElem_records fits earlierInside).2,
      (profile.getElem_records fits laterInside).2]
    have elapsed := profile.elapsedAfter_mono before.le
    exact Word.clampInstant_mono (by omega)
  refine ⟨forward, profile.stages_records fits, ?_, ordered, ?_⟩
  · intro record inside
    obtain ⟨index, inBounds, rfl⟩ := List.mem_iff_getElem.mp inside
    rw [(profile.getElem_records fits inBounds).2]
    exact Word.le_clampInstant (by omega) high
  · apply ordered.imp_of_mem
    intro earlier later earlierInside laterInside before
    rw [profile.reached_iff earlierInside, profile.reached_iff laterInside]
    exact before.trans_lt

end Fits

/-- Beyond what fits in an instant, the length of the profile in place of a report puts the start of
a run after its end. -/
theorem lt_ofStop_start (long : Word.maxInstant < profile.total) {stop : ℤ}
    (high : stop < Word.maxInstant) : stop < (RunWindow.ofStop stop none profile.total).start := by
  have negative := Word.signed_neg long profile.total_le
  have later : stop + 1 ≤ stop - Word.signed profile.total := by omega
  rw [RunWindow.ofStop_none]
  exact Int.lt_of_add_one_le (Word.le_clampInstant later (Int.add_one_le_of_lt high))

theorem project_eq {present : ℤ} {argument : String} {stop : RunStop}
    (accepted : RunStop.ofArgument argument = .ok stop) (length : Option String) :
    profile.project present argument length =
      .ok (.ofStop (stop.millis present) (length.map Elapsed.ofArgument) profile.total,
        profile.records
          (.ofStop (stop.millis present) (length.map Elapsed.ofArgument) profile.total)) := by
  unfold project
  rw [accepted]
  rfl

/-- A profile fits in an instant exactly when the projection of a finished run is in the order of
time for every argument that gives an end, and for every argument that may give a length. -/
theorem project_isChronological_iff (profile : Profile) {present : ℤ}
    (low : Word.minInstant ≤ present) :
    profile.total ≤ Word.maxInstant ↔
      ∀ argument stop length, RunStop.ofArgument argument = .ok stop →
        ∃ window records, profile.project present argument length = .ok (window, records) ∧
          window.stop = stop.millis present ∧ profile.IsChronological window records := by
  constructor
  · intro fits argument stop length accepted
    have instant := RunStop.minInstant_le_millis accepted low
    refine ⟨_, _, profile.project_eq accepted length, rfl, ?_⟩
    exact profile.isChronological_records fits (Word.clampInstant_le_maxInstant _)
      (RunWindow.ofStop_start_le fits instant)
  · intro chronological
    by_contra long
    have accepted : RunStop.ofArgument "0" = .ok (.instant 0) := rfl
    obtain ⟨window, records, projected, -, inOrder⟩ := chronological "0" _ none accepted
    rw [profile.project_eq accepted] at projected
    obtain ⟨rfl, -⟩ := Prod.mk.inj (Except.ok.inj projected)
    have late := profile.lt_ofStop_start (not_le.mp long) (show 0 < Word.maxInstant by decide)
    exact absurd inOrder.forward (not_le.mpr late)

/-- A profile of two stages with a length. -/
def twoStages : Profile :=
  ofPairs [(5, "3s"), (10, "2s")]

theorem total_twoStages : twoStages.total = 5000 := by
  decide

theorem project_isChronological_twoStages :
    (Word.minInstant ≤ 0 ∧ (twoStages.total : ℤ) ≤ Word.maxInstant ∧
      RunStop.ofArgument "1767225840000" = .ok (.instant 1767225840000)) ∧
      ∃ window records,
        twoStages.project 0 "1767225840000" (some "3500") = .ok (window, records) ∧
          window.stop = 1767225840000 ∧ twoStages.IsChronological window records := by
  have low : Word.minInstant ≤ 0 := by decide
  have fits : (twoStages.total : ℤ) ≤ Word.maxInstant := total_twoStages ▸ by decide
  have accepted : RunStop.ofArgument "1767225840000" = .ok (.instant 1767225840000) := rfl
  exact ⟨⟨low, fits, accepted⟩,
    (project_isChronological_iff twoStages low).mp fits _ _ (some "3500") accepted⟩

/-- A profile that is longer than the greatest instant, in which the second stage starts where no
instant is. -/
def longest : Profile :=
  ofPairs [(1, "9223372036854775808ms"), (2, "1ms")]

/-- The run ends before it starts, its second stage is due before its first one and before the run
starts, and only the second one was reached. -/
theorem not_isChronological_longest :
    ∃ window records, longest.project 0 "0" none = .ok (window, records) ∧
      window = ⟨9223372036854775807, 0⟩ ∧
      records.map StageRecord.instant = [9223372036854775807, -1] ∧
      records.map StageRecord.reached = [false, true] ∧
      ¬longest.IsChronological window records := by
  have accepted : RunStop.ofArgument "0" = .ok (.instant 0) := rfl
  have backward : RunWindow.ofStop 0 none longest.total = ⟨9223372036854775807, 0⟩ := by
    decide +kernel
  have projected : longest.project 0 "0" none = _ := longest.project_eq accepted none
  refine ⟨⟨9223372036854775807, 0⟩, longest.records ⟨9223372036854775807, 0⟩, ?_, rfl,
    by decide +kernel, by decide +kernel, ?_⟩
  · rw [projected]
    exact congrArg (fun window => Except.ok (window, longest.records window)) backward
  · intro inOrder
    exact absurd inOrder.forward (by decide)

end Profile

end ArrivalRamp
