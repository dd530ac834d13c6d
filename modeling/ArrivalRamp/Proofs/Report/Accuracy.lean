import ArrivalRamp.Proofs.Tally.Requests

/-!
The accuracy of the percentiles of a report. Each of them is the latency at its rank, up to the
width of a cell, and the greatest latency of a tag is exceeded by no more than that.
-/

namespace ArrivalRamp

open Binary64 Histogram

/-- A percentile in milliseconds. It stands for the latency at the rank of the percentage, which is
kept to the microsecond when it is short, and exceeded by less than a hundred and twenty-eighth of
it otherwise. -/
def IsPercentile (percent : ℕ) (latencies : List ℕ) (millis : Float) : Prop :=
  ∃ latency reported, nearestRank percent latencies = some latency ∧
    millis = Word.toFloat reported / 1000.0 ∧
    (latency < 256 → reported = latency) ∧
    (256 ≤ latency → latency ≤ reported ∧ 128 * reported < 129 * latency)

/-- The percentiles of a stage are those of its latencies and in order, and its greatest latency is
reported with the same accuracy. -/
structure StageSummary.IsAccurate (stage : StageSummary) (latencies : List ℕ) : Prop where
  p95 : IsPercentile 95 latencies stage.p95
  p99 : IsPercentile 99 latencies stage.p99
  p95_le_p99 : stage.p95 ≤ stage.p99
  p99_le_maximum : stage.p99 ≤ stage.maximum
  maximum_lt : ∀ longest, latencies.max? = some longest → 256 ≤ longest →
    rational stage.maximum < (1 + 1 / 128) * (longest / 1000)

/-- The percentiles of a report are those of the latencies of its requests and in order. Each tag
with a request has a stage, whose percentiles are those of the requests under the tag. -/
structure Report.IsAccurate (report : Report) (events : List RunEvent) : Prop where
  p50 : IsPercentile 50 (RunEvent.latencies events) report.p50
  p90 : IsPercentile 90 (RunEvent.latencies events) report.p90
  p95 : IsPercentile 95 (RunEvent.latencies events) report.p95
  p99 : IsPercentile 99 (RunEvent.latencies events) report.p99
  p50_le_p90 : report.p50 ≤ report.p90
  p90_le_p95 : report.p90 ≤ report.p95
  p95_le_p99 : report.p95 ≤ report.p99
  stages : ∀ stage ∈ report.stages, RunEvent.latenciesOf stage.tag events ≠ [] →
    stage.IsAccurate (RunEvent.latenciesOf stage.tag events)
  tags : ∀ tag, RunEvent.latenciesOf tag events ≠ [] → ∃ stage ∈ report.stages, stage.tag = tag

/-- More microseconds are no fewer milliseconds. -/
theorem toFloat_div_thousand_mono {fewer more : ℕ} (ordered : fewer ≤ more)
    (small : more ≤ 2 ^ 53) : Word.toFloat fewer / 1000.0 ≤ Word.toFloat more / 1000.0 := by
  obtain ⟨fewerFinite, fewerEq⟩ :=
    rational_toFloat_div (ordered.trans small) (show 1000 ≤ 2 ^ 53 by decide) (by decide)
  obtain ⟨moreFinite, moreEq⟩ :=
    rational_toFloat_div small (show 1000 ≤ 2 ^ 53 by decide) (by decide)
  rw [Span.toFloat_thousand, rational_le_iff fewerFinite moreFinite, fewerEq, moreEq]
  apply rounded_mono
  gcongr

namespace Histogram

/-- There are some latencies, but not too many, and none is too long. -/
structure Fits (latencies : List ℕ) : Prop where
  nonempty : latencies ≠ []
  few : latencies.length < 2 ^ 40
  kept : ∀ latency ∈ latencies, latency ≤ greatest

theorem Fits.exists_max {latencies : List ℕ} (fits : Fits latencies) :
    ∃ longest, latencies.max? = some longest :=
  Option.isSome_iff_exists.mp (List.isSome_max?_iff.mpr fits.nonempty)

theorem cellStop_cellStart_small {latency : ℕ} (kept : latency ≤ greatest) :
    cellStop (cellStart latency) ≤ 2 ^ 53 := by
  obtain ⟨short, long⟩ := cellStop_cellStart_mem latency
  unfold greatest at kept
  omega

theorem mem_of_nearestRank {percent : ℕ} {latencies : List ℕ} {latency : ℕ}
    (found : nearestRank percent latencies = some latency) : latency ∈ latencies :=
  List.mem_mergeSort.mp (List.mem_of_getElem? found)

namespace Holds

variable {histogram : Histogram} {latencies : List ℕ} (holds : histogram.Holds latencies)
  (fits : Fits latencies)

include holds fits

theorem count_pos : 0 < histogram.count := by
  rw [holds.count_eq]
  exact List.length_pos_of_ne_nil fits.nonempty

theorem quantileMillis_eq (share : Float) :
    histogram.quantileMillis share = Word.toFloat (histogram.quantile share) / 1000.0 :=
  if_neg (holds.count_pos fits).ne'

theorem maximumMillis_eq :
    histogram.maximumMillis = Word.toFloat histogram.maximum / 1000.0 :=
  if_neg (holds.count_pos fits).ne'

section Percent

variable {percent : ℕ} {share : Float} (isPercent : IsPercent percent share)
  (positive : 0 < percent)

include isPercent positive

theorem isPercentile : IsPercentile percent latencies (histogram.quantileMillis share) := by
  obtain ⟨latency, found, quantile⟩ :=
    holds.exists_quantile_eq isPercent positive fits.nonempty fits.few
  refine ⟨latency, histogram.quantile share, found, holds.quantileMillis_eq fits share, ?_⟩
  rw [quantile]
  exact cellStop_cellStart_mem latency

theorem quantile_le_maximum : histogram.quantile share ≤ histogram.maximum := by
  obtain ⟨latency, found, quantile⟩ :=
    holds.exists_quantile_eq isPercent positive fits.nonempty fits.few
  obtain ⟨longest, greatest⟩ := fits.exists_max
  rw [quantile, holds.maximum_eq greatest]
  apply cellStop_mono
  apply cellStart_mono
  exact (List.max?_eq_some_iff.mp greatest).2 latency (mem_of_nearestRank found)

end Percent

theorem maximum_small : histogram.maximum ≤ 2 ^ 53 := by
  obtain ⟨longest, greatest⟩ := fits.exists_max
  rw [holds.maximum_eq greatest]
  exact cellStop_cellStart_small (fits.kept longest (List.max?_mem greatest))

/-- No percentile exceeds the end of the last cell. -/
theorem quantileMillis_le_maximumMillis {percent : ℕ} {share : Float}
    (isPercent : IsPercent percent share) (positive : 0 < percent) :
    histogram.quantileMillis share ≤ histogram.maximumMillis := by
  rw [holds.quantileMillis_eq fits, holds.maximumMillis_eq fits]
  exact toFloat_div_thousand_mono (holds.quantile_le_maximum fits isPercent positive)
    (holds.maximum_small fits)

/-- A greater percentage has no smaller percentile. -/
theorem quantileMillis_mono {fewer more : ℕ} {fewerShare moreShare : Float}
    (isFewer : IsPercent fewer fewerShare) (isMore : IsPercent more moreShare)
    (positive : 0 < more) (ordered : fewerShare ≤ moreShare) :
    histogram.quantileMillis fewerShare ≤ histogram.quantileMillis moreShare := by
  rw [holds.quantileMillis_eq fits, holds.quantileMillis_eq fits]
  refine toFloat_div_thousand_mono ?_
    ((holds.quantile_le_maximum fits isMore positive).trans (holds.maximum_small fits))
  exact quantile_mono (holds.count_pos fits) holds.filed.sorted isFewer.isShare isMore.isShare
    ordered

/-- The end of the last cell exceeds the greatest latency by less than a hundred and twenty-eighth
of it. -/
theorem maximumMillis_lt {longest : ℕ} (greatest : latencies.max? = some longest)
    (long : 256 ≤ longest) :
    rational histogram.maximumMillis < (1 + 1 / 128) * (longest / 1000) := by
  have start := cellStart_le longest
  have cell := rounded_cellStop_le (start.trans (fits.kept longest (List.max?_mem greatest)))
  have millis := (rational_toFloat_div (holds.maximum_small fits) (show 1000 ≤ 2 ^ 53 by decide)
    (by decide)).2
  rw [holds.maximumMillis_eq fits, Span.toFloat_thousand, millis, holds.maximum_eq greatest,
    Nat.cast_ofNat]
  have startLe : (cellStart longest : ℚ) ≤ longest := by exact_mod_cast start
  have longestLe : (256 : ℚ) ≤ longest := by exact_mod_cast long
  linarith

end Holds

end Histogram

section Tallied

variable {events : List RunEvent}

theorem StageTally.isAccurate_summary {tally : StageTally} {latencies : List ℕ} (tag : String)
    (holds : tally.latencies.Holds latencies) (fits : Fits latencies) :
    (tally.summary tag).IsAccurate latencies where
  p95 := holds.isPercentile fits .p95 (by decide)
  p99 := holds.isPercentile fits .p99 (by decide)
  p95_le_p99 := holds.quantileMillis_mono fits .p95 .p99 (by decide) (by decide)
  p99_le_maximum := holds.quantileMillis_le_maximumMillis fits .p99 (by decide)
  maximum_lt _ := holds.maximumMillis_lt fits

/-- The latencies of the requests of a list are those that a report is accurate on. -/
theorem RunEvent.fits_latenciesOf {tag : String} (fits : Fits (latencies events))
    (requested : latenciesOf tag events ≠ []) : Fits (latenciesOf tag events) := by
  have part : (latenciesOf tag events).Sublist (latencies events) :=
    List.filter_sublist.filterMap latency?
  exact ⟨requested, part.length_le.trans_lt fits.few,
    fun latency inside => fits.kept latency (part.subset inside)⟩

theorem RunEvent.isKept_of_fits (fits : Fits (latencies events)) :
    ∀ event ∈ events, event.IsKept :=
  fun event inside latency found =>
    fits.kept latency (List.mem_filterMap.mpr ⟨event, inside, found⟩)

/-- The report on a measured tally is accurate on the requests of its events. -/
theorem Tally.isAccurate_of_counts {tally : Tally}
    (counted : ∀ {measure gain}, Counts measure gain → measure tally = (events.map gain).sum)
    (filed : tally.IsFiled) (fits : Fits (RunEvent.latencies events)) :
    tally.report.IsAccurate events := by
  have kept := RunEvent.isKept_of_fits fits
  have holds := latencies_holds counted kept filed
  exact {
    p50 := holds.isPercentile fits .p50 (by decide)
    p90 := holds.isPercentile fits .p90 (by decide)
    p95 := holds.isPercentile fits .p95 (by decide)
    p99 := holds.isPercentile fits .p99 (by decide)
    p50_le_p90 := holds.quantileMillis_mono fits .p50 .p90 (by decide) (by decide)
    p90_le_p95 := holds.quantileMillis_mono fits .p90 .p95 (by decide) (by decide)
    p95_le_p99 := holds.quantileMillis_mono fits .p95 .p99 (by decide) (by decide)
    stages := by
      intro stage inside requested
      obtain ⟨⟨tag, tallied⟩, stageInside, rfl⟩ := List.mem_map.mp inside
      exact StageTally.isAccurate_summary tag (stage_latencies_holds counted kept filed stageInside)
        (RunEvent.fits_latenciesOf fits requested)
    tags := by
      intro tag requested
      obtain ⟨stage, inside⟩ := exists_stage counted kept requested
      exact ⟨stage.summary tag, List.mem_map_of_mem inside, rfl⟩ }

/-- The percentiles of a report are accurate, on one tally of the events and on any number of
shards, as long as there are less than 2^40 requests and none is longer than the greatest latency
that has a cell of its own. -/
theorem ShardedTally.isAccurate_report (count : ℕ) (assigned : List (ℕ × RunEvent))
    (fits : Fits (RunEvent.latencies (assigned.map Prod.snd))) :
    (Tally.empty.addAll (assigned.map Prod.snd)).report.IsAccurate (assigned.map Prod.snd) ∧
      ((ofCount count).addAll assigned).merge.report.IsAccurate (assigned.map Prod.snd) := by
  constructor
  · refine Tally.isAccurate_of_counts (fun counts => ?_) ?_ fits
    · rw [counts.addAll, counts.empty, Nat.zero_add]
    · exact Tally.addAll_induction (fun event _ _ filed => filed.add event) Tally.isFiled_empty
  · refine Tally.isAccurate_of_counts (fun counts => ?_) ?_ fits
    · rw [counts.merge_addAll, merge_ofCount, counts.empty, Nat.zero_add]
    · exact merge_induction Tally.isFiled_empty (fun event _ _ filed => filed.add event.2)
        (fun _ _ filed => filed.absorb) count

/-- Requests of several users in two stages, the shortest in a quarter of a millisecond and the
longest in the greatest latency that has a cell of its own, and an arrival that is dropped. -/
def ShardedTally.mixed : List (ℕ × RunEvent) :=
  [(0, .request "rps-5" "5" ⟨250000⟩ (some 200) none),
    (1, .request "rps-5" "5" ⟨3141592⟩ (some 503) none), (2, .dropped "rps-10"),
    (3, .request "rps-10" "10" ⟨4294967295999⟩ none (some "timeout"))]

theorem ShardedTally.isAccurate_report_mixed :
    Fits (RunEvent.latencies (mixed.map Prod.snd)) ∧
      (Tally.empty.addAll (mixed.map Prod.snd)).report.IsAccurate (mixed.map Prod.snd) ∧
      ((ofCount 2).addAll mixed).merge.report.IsAccurate (mixed.map Prod.snd) := by
  have fits : Fits (RunEvent.latencies (mixed.map Prod.snd)) :=
    ⟨by decide, by decide, by decide⟩
  exact ⟨fits, isAccurate_report 2 mixed fits⟩

end Tallied

end ArrivalRamp
