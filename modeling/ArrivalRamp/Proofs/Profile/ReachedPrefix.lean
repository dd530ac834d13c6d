import ArrivalRamp.Proofs.Profile.Reached

/-!
No record calls a stage reached that the run did not come to. The length of a run is rounded to whole
milliseconds, and the stages start at whole ones, so a stage that starts before the rounded length
starts before the exact one. The stages that were reached are the first ones of a profile.
-/

namespace ArrivalRamp

/-- Entries that are wanted only behind wanted ones come before all others. -/
theorem filter_prefix_of_pairwise {Entry : Type} {wanted : Entry → Bool} {entries : List Entry}
    (closed : entries.Pairwise fun earlier later => wanted later → wanted earlier) :
    entries.filter wanted <+: entries := by
  induction entries with
  | nil => exact List.prefix_refl _
  | cons first entries ih =>
      obtain ⟨before, rest⟩ := List.pairwise_cons.mp closed
      by_cases holds : wanted first
      · rw [List.filter_cons_of_pos holds, List.prefix_cons_inj]
        exact ih rest
      · have none : entries.filter wanted = [] := by
          rw [List.filter_eq_nil_iff]
          exact fun later inside found => holds (before later inside found)
        rw [List.filter_cons_of_neg holds, none]
        exact List.nil_prefix

namespace Profile

/-- A record of a run that took some time calls a stage reached when the stage starts half a
millisecond before the run ends, or earlier. So no record calls a stage reached that starts when the
run has ended, to the nanosecond. There is one record for each stage in their order, and those of the
reached stages come first. This holds for every end: a run that would have started before the range of
the instants starts with the range, and comes to no more stages by that. -/
theorem reached_started (profile : Profile) (elapsed : Span) {stop : ℤ}
    (fits : (profile.total : ℤ) ≤ Word.maxInstant) (positive : 0 < elapsed.nanos)
    (brief : elapsed.nanos < 2 ^ 34 * 1000000) (low : Word.minInstant ≤ stop)
    (high : stop ≤ Word.maxInstant) :
    let records := profile.records (.ofStop stop (some elapsed.toMillis) profile.total)
    (∀ index record, records[index]? = some record →
      ∃ offset, profile.startOffset? index = some offset ∧
        (record.reached → offset * 1000000 < elapsed.nanos) ∧
        (record.reached ↔ offset * 1000000 + 500000 ≤ elapsed.nanos ∧
          Word.minInstant + offset < stop)) ∧
      records.map StageRecord.stage = List.range profile.size ∧
      records.filter StageRecord.reached <+: records := by
  intro records
  have inOrder : profile.IsChronological _ records :=
    profile.isChronological_records fits (Word.clampInstant_le_maxInstant _)
      (RunWindow.ofStop_start_le fits low)
  refine ⟨?_, inOrder.staged, filter_prefix_of_pairwise inOrder.reached⟩
  intro index record found
  have inside : index < profile.size := by
    obtain ⟨below, -⟩ := List.getElem?_eq_some_iff.mp found
    rwa [← List.length_map StageRecord.stage, inOrder.staged, List.length_range] at below
  obtain ⟨other, otherFound, -, reached⟩ := profile.reached_due_iff fits brief low high inside
  obtain rfl : record = other := Option.some.inj (found.symm.trans otherFound)
  rw [Span.lengthOr_of_ne_zero positive.ne'] at reached
  refine ⟨_, profile.startOffset?_eq inside, ?_, ?_⟩
  · intro isReached
    have before := (reached.mp isReached).1
    omega
  · rw [reached]
    omega

/-- The second stage is due in the last millisecond of the run, of which seven tenths belong to it. -/
theorem reached_started_twoStages :
    ((twoStages.total : ℤ) ≤ Word.maxInstant ∧ 0 < 3000700000 ∧ 3000700000 < 2 ^ 34 * 1000000 ∧
      Word.minInstant ≤ 1767225600000 ∧ 1767225600000 ≤ Word.maxInstant) ∧
      (twoStages.records (.ofStop 1767225600000 (some (Span.toMillis ⟨3000700000⟩))
        twoStages.total))[1]? = some ⟨1, 10, 1767225599999, "2025-12-31T23:59:59.999Z", true⟩ ∧
      ∃ offset, twoStages.startOffset? 1 = some offset ∧ offset * 1000000 < 3000700000 := by
  have fits : (twoStages.total : ℤ) ≤ Word.maxInstant := total_twoStages ▸ by decide
  have low : Word.minInstant ≤ 1767225600000 := by decide
  have high : 1767225600000 ≤ Word.maxInstant := by decide
  have found : (twoStages.records (.ofStop 1767225600000 (some (Span.toMillis ⟨3000700000⟩))
      twoStages.total))[1]? =
      some ⟨1, 10, 1767225599999, "2025-12-31T23:59:59.999Z", true⟩ := by
    decide +kernel
  obtain ⟨offset, start, before, -⟩ := (reached_started twoStages ⟨3000700000⟩ fits (by decide)
    (by decide) low high).1 1 _ found
  exact ⟨⟨fits, by decide, by decide, low, high⟩, found, offset, start, before rfl⟩

end Profile

end ArrivalRamp
