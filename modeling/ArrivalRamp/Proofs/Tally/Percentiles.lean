import ArrivalRamp.Proofs.Tally.Conservation
import ArrivalRamp.Proofs.Tally.Histogram
import ArrivalRamp.Proofs.Tally.Latency

/-!
The latencies of a report. Percentiles come from the cells of a histogram and extremes from the
durations themselves, so that they are in order only as far as the cells are fine.
-/

namespace ArrivalRamp

open Binary64

namespace Tally

/-- A duration lies between the shortest and the longest one. -/
def Spans (tally : Tally) (duration : Span) : Prop :=
  (∃ shortest ∈ tally.shortest, shortest.nanos ≤ duration.nanos) ∧
    duration.nanos ≤ tally.longest.nanos

namespace Spans

variable {tally other : Tally} {duration : Span}

theorem add (spans : tally.Spans duration) (event : RunEvent) :
    (tally.add event).Spans duration := by
  obtain ⟨⟨shortest, found, low⟩, high⟩ := spans
  cases event with
  | dropped stage => exact ⟨⟨shortest, found, low⟩, high⟩
  | request stage target added status error =>
      exact ⟨⟨_, rfl, (shorter_le_of_mem added found).trans low⟩, high.trans (le_max_left _ _)⟩

theorem absorb_left (spans : tally.Spans duration) (other : Tally) :
    (tally.absorb other).Spans duration := by
  obtain ⟨⟨shortest, found, low⟩, high⟩ := spans
  refine ⟨?_, high.trans (le_max_left _ _)⟩
  unfold Tally.absorb
  cases other.shortest with
  | none => exact ⟨shortest, found, low⟩
  | some added => exact ⟨_, rfl, (shorter_le_of_mem added found).trans low⟩

theorem absorb_right (tally : Tally) (spans : other.Spans duration) :
    (tally.absorb other).Spans duration := by
  obtain ⟨⟨shortest, found, low⟩, high⟩ := spans
  refine ⟨?_, high.trans (le_max_right _ _)⟩
  unfold Tally.absorb
  rw [Option.mem_def] at found
  rw [found]
  exact ⟨_, rfl, (shorter_le shortest tally.shortest).trans low⟩

end Spans

theorem spans_add (tally : Tally) (stage target : String) (duration : Span) (status : Option ℕ)
    (error : Option String) :
    (tally.add (.request stage target duration status error)).Spans duration :=
  ⟨⟨_, rfl, shorter_le duration tally.shortest⟩, le_max_right _ _⟩

/-- A cell is that of a duration between the shortest and the longest one. -/
def HasCell (tally : Tally) (start : ℕ) : Prop :=
  ∃ duration, tally.Spans duration ∧
    start = Histogram.cellStart (Histogram.kept (recordedLatency duration))

/-- The cells of the latencies stand in their order, each of them that of a duration. -/
structure IsSampled (tally : Tally) : Prop where
  sorted : tally.latencies.cells.IsSorted
  sampled : ∀ cell ∈ tally.latencies.cells, tally.HasCell cell.1

theorem isSampled_empty : empty.IsSampled where
  sorted := List.Pairwise.nil
  sampled cell inside := by cases inside

namespace IsSampled

variable {tally other : Tally} (sampled : tally.IsSampled)

include sampled

theorem add (event : RunEvent) : (tally.add event).IsSampled := by
  have before : ∀ cell ∈ tally.latencies.cells, (tally.add event).HasCell cell.1 := by
    intro cell inside
    obtain ⟨duration, spans, same⟩ := sampled.sampled cell inside
    exact ⟨duration, spans.add event, same⟩
  cases event with
  | dropped stage => exact ⟨sampled.sorted, before⟩
  | request stage target duration status error =>
      refine ⟨sampled.sorted.alter _ _, ?_⟩
      exact Ledger.forall_mem_alter (fun start _ => HasCell _ start) before
        ⟨duration, tally.spans_add stage target duration status error, rfl⟩ fun _ same => same

theorem absorb (otherSampled : other.IsSampled) : (tally.absorb other).IsSampled where
  sorted := sampled.sorted.merge (fun amount found => found.getD 0 + amount) _
  sampled := by
    refine Ledger.forall_mem_merge (fun amount found => found.getD 0 + amount)
      (fun start _ => (tally.absorb other).HasCell start) ?_ ?_
      (fun _ _ same => same) (fun _ _ _ same _ => same)
    · intro cell inside
      obtain ⟨duration, spans, same⟩ := sampled.sampled cell inside
      exact ⟨duration, spans.absorb_left other, same⟩
    · intro cell inside
      obtain ⟨duration, spans, same⟩ := otherSampled.sampled cell inside
      exact ⟨duration, spans.absorb_right tally, same⟩

end IsSampled

end Tally

/-- The extremes and the percentiles of a report stand in one chain. -/
def Report.IsChain (report : Report) : Prop :=
  report.minimum ≤ report.p50 ∧ report.p50 ≤ report.p90 ∧ report.p90 ≤ report.p95 ∧
    report.p95 ≤ report.p99 ∧ report.p99 ≤ report.maximum

/-- The latencies of a report are in order: the extremes among themselves, and so the percentiles.
The greatest percentile is one microsecond, or it exceeds the greatest latency by no more than a
hundred and twenty-eighth of it. -/
structure Report.IsOrdered (report : Report) : Prop where
  minimum_le_maximum : report.minimum ≤ report.maximum
  p50_le_p90 : report.p50 ≤ report.p90
  p90_le_p95 : report.p90 ≤ report.p95
  p95_le_p99 : report.p95 ≤ report.p99
  p99_le : report.p99 ≤ 0.001 ∨ rational report.p99 ≤ 129 / 128 * rational report.maximum

theorem isShare_p50 : Histogram.IsShare 0.5 :=
  .of_le (by decide) (by decide) (by decide)

theorem isShare_p90 : Histogram.IsShare 0.9 :=
  .of_le (by decide) (by decide) (by decide)

theorem isShare_p95 : Histogram.IsShare 0.95 :=
  .of_le (by decide) (by decide) (by decide)

theorem isShare_p99 : Histogram.IsShare 0.99 :=
  .of_le (by decide) (by decide) (by decide)

theorem microsecond : (0.001 : Float) = Word.toFloat 1 / Word.toFloat 1000 := by
  decide

namespace Tally

open Histogram

section Ordered

variable {tally : Tally} (sampled : tally.IsSampled) (some : 0 < tally.latencies.count)

include sampled some

theorem exists_quantile_eq {share : Float} (isShare : IsShare share) :
    ∃ duration, tally.Spans duration ∧
      tally.latencies.quantile share = cellStop (cellStart (kept (recordedLatency duration))) := by
  obtain ⟨cell, inside, found⟩ := Histogram.exists_quantile_eq some isShare
  obtain ⟨duration, spans, same⟩ := sampled.sampled cell inside
  exact ⟨duration, spans, same ▸ found⟩

theorem quantile_le {share : Float} (isShare : IsShare share) :
    tally.latencies.quantile share ≤ 2 ^ 53 := by
  obtain ⟨duration, -, found⟩ := exists_quantile_eq sampled some isShare
  have start := (cellStart_le _).trans (kept_le_greatest (recordedLatency duration))
  have stop := cellStop_le (cellStart (kept (recordedLatency duration)))
  unfold greatest at start
  rw [found]
  omega

theorem quantileMillis_mono {fewer more : Float} (isFewer : IsShare fewer) (isMore : IsShare more)
    (ordered : fewer ≤ more) :
    tally.latencies.quantileMillis fewer ≤ tally.latencies.quantileMillis more := by
  obtain ⟨fewerFinite, fewerEq⟩ :=
    rational_quantileMillis some (quantile_le sampled some isFewer)
  obtain ⟨moreFinite, moreEq⟩ := rational_quantileMillis some (quantile_le sampled some isMore)
  have quantiles := quantile_mono some sampled.sorted isFewer isMore ordered
  rw [rational_le_iff fewerFinite moreFinite, fewerEq, moreEq]
  apply rounded_mono
  gcongr

/-- A quantile is one microsecond, or no longer than the longest duration by more than a hundred and
twenty-eighth of it. -/
theorem quantileMillis_le {share : Float} (isShare : IsShare share)
    (fits : tally.longest.seconds ≤ Word.maxCount) :
    tally.latencies.quantileMillis share ≤ 0.001 ∨
      rational (tally.latencies.quantileMillis share) ≤
        129 / 128 * rational (latencyMillis tally.longest) := by
  obtain ⟨finite, millis⟩ := rational_quantileMillis some (quantile_le sampled some isShare)
  obtain ⟨duration, ⟨-, high⟩, found⟩ := exists_quantile_eq sampled some isShare
  obtain ⟨start, startEq⟩ : ∃ start, start = cellStart (kept (recordedLatency duration)) :=
    ⟨_, rfl⟩
  have held : start ≤ greatest := startEq ▸ (cellStart_le _).trans (kept_le_greatest _)
  have recorded : start ≤ max 1 (tally.longest.nanos / 1000) := by
    calc start ≤ recordedLatency duration := startEq ▸ (cellStart_le _).trans (kept_le _)
      _ ≤ max 1 (duration.nanos / 1000) := max_le_max_left 1 (Nat.mod_le _ _)
      _ ≤ max 1 (tally.longest.nanos / 1000) := max_le_max_left 1 (Nat.div_le_div_right high)
  rw [← startEq] at found
  rw [found] at millis
  by_cases one : start ≤ 1
  · left
    obtain ⟨microFinite, micro⟩ := rational_toFloat_div (show 1 ≤ 2 ^ 53 by decide)
      (show 1000 ≤ 2 ^ 53 by decide) (by decide)
    have least : (cellStop start : ℚ) ≤ 1 := by
      have counted : cellStop start ≤ 1 := by
        have stop := cellStop_le start
        omega
      exact_mod_cast counted
    rw [microsecond, rational_le_iff finite microFinite, millis, micro, Nat.cast_one,
      Nat.cast_ofNat]
    apply rounded_mono
    gcongr
  · right
    have counted : start * 1000 ≤ tally.longest.nanos := by omega
    have exact : (start * 1000 : ℚ) ≤ tally.longest.nanos := by exact_mod_cast counted
    have low := (isNear_latencyMillis fits).bounds.1
    have top := rounded_cellStop_le held
    rw [millis]
    linarith

/-- As long as its microseconds fit in a word, the shortest duration is no longer than a quantile by
a microsecond, nor is the latency that stands for every greater one. -/
theorem min_lt_quantileMillis_add {share : Float} (isShare : IsShare share)
    (word : tally.longest.wholeMicros < Word.size) {shortest : Span}
    (least : shortest ∈ tally.shortest) :
    min (rational (latencyMillis shortest)) 3600000 <
      rational (tally.latencies.quantileMillis share) + 1 / 1000 := by
  obtain ⟨-, millis⟩ := rational_quantileMillis some (quantile_le sampled some isShare)
  obtain ⟨duration, ⟨⟨shorter, shorterFound, low⟩, high⟩, found⟩ :=
    exists_quantile_eq sampled some isShare
  obtain rfl := Option.mem_unique least shorterFound
  have stop := le_cellStop_cellStart (kept (recordedLatency duration))
  rw [← found] at stop
  rw [millis]
  by_cases small : recordedLatency duration ≤ greatest
  · have held : kept (recordedLatency duration) = recordedLatency duration := if_pos small
    have unwrapped : duration.wholeMicros % Word.size = duration.wholeMicros :=
      Nat.mod_eq_of_lt ((Nat.div_le_div_right high).trans_lt word)
    have short : shortest.nanos ≤ 1000 * recordedLatency duration + 999 := by
      unfold recordedLatency
      rw [unwrapped]
      unfold Span.wholeMicros
      omega
    have counted : (recordedLatency duration : ℚ) ≤ tally.latencies.quantile share := by
      exact_mod_cast held ▸ stop
    calc min (rational (latencyMillis shortest)) 3600000
        ≤ rational (latencyMillis shortest) := min_le_left _ _
      _ < rounded (recordedLatency duration / 1000) + 1 / 1000 :=
          latencyMillis_lt_add (small.trans_lt (by decide)) short
      _ ≤ rounded (tally.latencies.quantile share / 1000) + 1 / 1000 := by
          gcongr
          apply rounded_mono
          gcongr
  · have held : kept (recordedLatency duration) = overflow := if_neg small
    have reached : (3600000 : ℚ) ≤ rounded (tally.latencies.quantile share / 1000) := by
      have kept : nearest (3600000 : ℕ) = (3600000 : ℕ) := nearest_natCast (by decide)
      have counted : (3600000000 : ℚ) ≤ tally.latencies.quantile share := by
        exact_mod_cast held ▸ stop
      calc (3600000 : ℚ) = rounded 3600000 := by
            rw [rounded_of_nonneg (by norm_num)]
            exact_mod_cast kept.symm
        _ ≤ rounded (tally.latencies.quantile share / 1000) := by
            apply rounded_mono
            linarith
    linarith [min_le_right (rational (latencyMillis shortest)) 3600000]

/-- The report on latencies that are sampled is in order. -/
theorem isOrdered_report (long : tally.longest.nanos < 1000000000 * Word.size) :
    tally.report.IsOrdered := by
  have fits : tally.longest.seconds ≤ Word.maxCount := by
    unfold Span.seconds Word.maxCount
    unfold Word.size at long
    omega
  obtain ⟨duration, ⟨⟨shortest, least, low⟩, high⟩, -⟩ :=
    exists_quantile_eq sampled some isShare_p50
  have minimum : tally.report.minimum = latencyMillis shortest := by
    rw [Option.mem_def] at least
    unfold report
    dsimp only
    rw [least, Option.elim_some]
  exact {
    minimum_le_maximum := minimum ▸ latencyMillis_mono (low.trans high) fits
    p50_le_p90 := quantileMillis_mono sampled some isShare_p50 isShare_p90 (by decide)
    p90_le_p95 := quantileMillis_mono sampled some isShare_p90 isShare_p95 (by decide)
    p95_le_p99 := quantileMillis_mono sampled some isShare_p95 isShare_p99 (by decide)
    p99_le := quantileMillis_le sampled some isShare_p99 fits }

theorem min_lt_report_p50_add (short : tally.longest.nanos < 1000 * Word.size) :
    min (rational tally.report.minimum) 3600000 < rational tally.report.p50 + 1 / 1000 := by
  have word : tally.longest.wholeMicros < Word.size := by
    unfold Span.wholeMicros
    omega
  obtain ⟨duration, ⟨⟨shortest, least, -⟩, -⟩, -⟩ := exists_quantile_eq sampled some isShare_p50
  have bound := min_lt_quantileMillis_add sampled some isShare_p50 word least
  rw [Option.mem_def] at least
  unfold report
  dsimp only
  rwa [least]

end Ordered

section Events

/-- The longest duration is that of an event. -/
theorem longest_add_lt {tally : Tally} {event : RunEvent} {bound : ℕ} (own : event.nanos < bound)
    (before : tally.longest.nanos < bound) : (tally.add event).longest.nanos < bound := by
  cases event with
  | dropped stage => exact before
  | request stage target duration status error => exact max_lt before own

theorem longest_addAll_lt {events : List RunEvent} {bound : ℕ} (positive : 0 < bound)
    (below : ∀ event ∈ events, event.nanos < bound) :
    (empty.addAll events).longest.nanos < bound := by
  have step : ∀ event ∈ events, ∀ tally : Tally, tally.longest.nanos < bound →
      (tally.add event).longest.nanos < bound :=
    fun event inside _ => longest_add_lt (below event inside)
  exact addAll_induction step positive

theorem sum_requests_pos {events : List RunEvent}
    (requested : ∃ event ∈ events, 0 < event.requests) :
    0 < (events.map RunEvent.requests).sum := by
  obtain ⟨event, inside, positive⟩ := requested
  exact positive.trans_le (List.le_sum_of_mem (List.mem_map_of_mem inside))

/-- The latencies of a report are in order, whatever requests it is on, as long as there is one. The
least percentile is less than a microsecond below the shortest latency, unless this is longer than
the hour that stands for it. -/
theorem isOrdered_report_addAll {events : List RunEvent}
    (requested : ∃ event ∈ events, 0 < event.requests)
    (seconds : ∀ event ∈ events, event.nanos < 1000000000 * Word.size) :
    (empty.addAll events).report.IsOrdered ∧
      ((∀ event ∈ events, event.nanos < 1000 * Word.size) →
        min (rational (empty.addAll events).report.minimum) 3600000 <
          rational (empty.addAll events).report.p50 + 1 / 1000) := by
  have sampled : (empty.addAll events).IsSampled :=
    addAll_induction (fun event _ _ sampled => sampled.add event) isSampled_empty
  have some : 0 < (empty.addAll events).latencies.count := by
    rw [Counts.latencies.addAll, Counts.latencies.empty, Nat.zero_add]
    exact sum_requests_pos requested
  refine ⟨isOrdered_report sampled some (longest_addAll_lt (by decide) seconds), ?_⟩
  intro micros
  exact min_lt_report_p50_add sampled some (longest_addAll_lt (by decide) micros)

/-- A hundred requests, each a millisecond longer than the one before. -/
def evenRequests : List RunEvent :=
  (List.range 100).map fun index =>
    .request "rps-5" "5" ⟨(index + 1) * 1000000⟩ (some 200) none

theorem isOrdered_report_evenRequests :
    ((∃ event ∈ evenRequests, 0 < event.requests) ∧
      (∀ event ∈ evenRequests, event.nanos < 1000000000 * Word.size) ∧
      ∀ event ∈ evenRequests, event.nanos < 1000 * Word.size) ∧
      (empty.addAll evenRequests).report.IsOrdered ∧
      min (rational (empty.addAll evenRequests).report.minimum) 3600000 <
        rational (empty.addAll evenRequests).report.p50 + 1 / 1000 ∧
      (empty.addAll evenRequests).report.p50 < (empty.addAll evenRequests).report.p90 ∧
      (empty.addAll evenRequests).report.p90 < (empty.addAll evenRequests).report.p95 ∧
      (empty.addAll evenRequests).report.p95 < (empty.addAll evenRequests).report.p99 := by
  have requested : ∃ event ∈ evenRequests, 0 < event.requests := by decide
  have seconds : ∀ event ∈ evenRequests, event.nanos < 1000000000 * Word.size := by decide
  have micros : ∀ event ∈ evenRequests, event.nanos < 1000 * Word.size := by decide
  obtain ⟨ordered, least⟩ := isOrdered_report_addAll requested seconds
  exact ⟨⟨requested, seconds, micros⟩, ordered, least micros, by decide +kernel⟩

/-- One request of some nanoseconds. -/
def oneRequest (nanos : ℕ) : List RunEvent :=
  [.request "rps-5" "5" ⟨nanos⟩ (some 200) none]

/-- Percentiles do not always stand between the extremes. They are the greatest latencies of cells,
which may be longer than the longest latency. Cells have whole microseconds and stop at an hour, so
that a percentile may also be shorter than the shortest latency. -/
theorem not_isChain_report :
    ¬(empty.addAll (oneRequest 3000000)).report.IsChain ∧
      ¬(empty.addAll (oneRequest 1900)).report.IsChain ∧
      ¬(empty.addAll (oneRequest 5000000000000)).report.IsChain := by
  unfold Report.IsChain
  decide +kernel

end Events

end Tally

namespace ShardedTally

/-- The latencies of a report on a run are in order, in any number of shards. -/
theorem isOrdered_report_merge {events : List (ℕ × RunEvent)} (count : ℕ)
    (requested : ∃ event ∈ events.map Prod.snd, 0 < event.requests)
    (seconds : ∀ event ∈ events, event.2.nanos < 1000000000 * Word.size) :
    ((ofCount count).addAll events).merge.report.IsOrdered := by
  have sampled : ((ofCount count).addAll events).merge.IsSampled :=
    merge_induction Tally.isSampled_empty (fun event _ _ sampled => sampled.add event.2)
      (fun _ _ sampled => sampled.absorb) count
  have some : 0 < ((ofCount count).addAll events).merge.latencies.count := by
    rw [Tally.Counts.latencies.merge_addAll, merge_ofCount, Tally.Counts.latencies.empty,
      Nat.zero_add]
    exact Tally.sum_requests_pos requested
  have step : ∀ event ∈ events, ∀ tally : Tally, tally.longest.nanos < 1000000000 * Word.size →
      (tally.add event.2).longest.nanos < 1000000000 * Word.size :=
    fun event inside _ => Tally.longest_add_lt (seconds event inside)
  exact Tally.isOrdered_report sampled some
    (merge_induction (by decide) step (fun _ _ => max_lt) count)

end ShardedTally

end ArrivalRamp
