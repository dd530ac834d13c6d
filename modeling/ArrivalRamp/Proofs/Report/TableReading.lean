import ArrivalRamp.Proofs.Report.MetricRows
import ArrivalRamp.Proofs.Report.StageRows

/-!
The table of a report and the lines about its stages, read back. Nothing in them is quoted, but no
field holds a separator, no line but the one between the tables is empty, and no two metrics share a
name.
-/

namespace ArrivalRamp

open Text

namespace Report

/-- The lines before the first empty line. -/
def metricPart (text : String) : List (List Char) :=
  (lines text).takeWhile (· ≠ [])

/-- The lines after the first empty line. -/
def stagePart (text : String) : List (List Char) :=
  ((lines text).dropWhile (· ≠ [])).tail

/-- The fields of the lines before the first empty line. -/
def metricRows (text : String) : List (List (List Char)) :=
  (metricPart text).map (split ',')

/-- The fields of the lines after the first empty line. -/
def stageRows (text : String) : List (List (List Char)) :=
  (stagePart text).map (split ',')

section Parts

variable {text : String} {first second : List (List (List Char))}
  (parts : text.toList = joined ',' first ++ '\n' :: joined ',' second)
  (firstOwn : ∀ row ∈ first, IsRow row) (secondOwn : ∀ row ∈ second, IsRow row)

include parts firstOwn secondOwn

theorem lines_eq :
    lines text = first.map (fun row => [','].intercalate row) ++
      [] :: second.map fun row => [','].intercalate row := by
  unfold lines
  rw [parts, linesFrom_joined firstOwn (by decide), linesFrom,
    linesFrom_joined_end secondOwn (by decide)]
  rfl

theorem metricPart_eq : metricPart text = first.map fun row => [','].intercalate row := by
  have filled := nil_notMem_map_intercalate firstOwn ','
  unfold metricPart
  rw [lines_eq parts firstOwn secondOwn, List.takeWhile_append_of_pos]
  · simp
  · exact fun line inside => decide_eq_true fun empty => filled (empty ▸ inside)

theorem stagePart_eq : stagePart text = second.map fun row => [','].intercalate row := by
  have filled := nil_notMem_map_intercalate firstOwn ','
  unfold stagePart
  rw [lines_eq parts firstOwn secondOwn, List.dropWhile_append_of_pos]
  · simp
  · exact fun line inside => decide_eq_true fun empty => filled (empty ▸ inside)

theorem metricRows_eq : metricRows text = first := by
  rw [metricRows, metricPart_eq parts firstOwn secondOwn, map_split_intercalate firstOwn (by decide)]

theorem stageRows_eq : stageRows text = second := by
  rw [stageRows, stagePart_eq parts firstOwn secondOwn, map_split_intercalate secondOwn (by decide)]

end Parts

/-- A text gives back the counters of a report and the stages of a run. It is a table of three
columns in which no name stands twice, one empty line, and a table of five columns. -/
structure IsReadBack (report : Report) (records : List StageRecord) (text : String) : Prop where
  separated : lines text = metricPart text ++ [] :: stagePart text
  filled : [] ∉ metricPart text ++ stagePart text
  metricColumns : ∀ row ∈ metricRows text, row.length = 3
  names : ((metricRows text).map List.head?).Nodup
  counters : (metricRows text).filterMap readCounter? = report.counters
  stageColumns : ∀ row ∈ stageRows text, row.length = 5
  headed : (stageRows text).length = records.length + 1
  records : (stageRows text).tail.map StageRecord.ofRow? = records.map some

variable {report : Report} {records : List StageRecord}

theorem toList_table :
    (report.table records).toList = joined ',' (header :: report.metrics.map metricFields) ++
      '\n' :: joined ',' (StageRecord.header :: records.map StageRecord.fields) := by
  have names : "metric_name,metric_type,value\n".toList = [','].intercalate header ++ ['\n'] := by
    decide +kernel
  have blank : "\n".toList = ['\n'] := by decide
  unfold table
  rw [String.toList_append, String.toList_append, String.toList_append, names, toList_metricRows,
    blank, StageRecord.toList_table, joined_cons ',' header, List.append_assoc _ ['\n']]
  rfl

/-- A table is read back when its tags come from labels, no code or tag stands twice, and its
instants have their range. -/
theorem isReadBack_table (tags : ∀ stage ∈ report.stages, IsTag stage.tag)
    (codes : (report.statusCodes.map Prod.fst).Nodup)
    (different : (report.stages.map StageSummary.tag).Nodup)
    (stamped : ∀ record ∈ records, record.timestamp = Timestamp.write record.instant ∧
      Word.minInstant ≤ record.instant ∧ record.instant ≤ Word.maxInstant) :
    report.IsReadBack records (report.table records) := by
  have metrics : ∀ row ∈ header :: report.metrics.map metricFields, IsRow row := by
    rw [List.forall_mem_cons, List.forall_mem_map]
    exact ⟨⟨by decide, by decide⟩, fun metric inside => isRow_metricFields tags inside⟩
  have stages : ∀ row ∈ StageRecord.header :: records.map StageRecord.fields, IsRow row := by
    rw [List.forall_mem_cons, List.forall_mem_map]
    exact ⟨⟨by decide, by decide⟩, fun record inside =>
      StageRecord.isRow_fields (stamped record inside).1⟩
  have whole := lines_eq toList_table metrics stages
  have firstPart := metricPart_eq toList_table metrics stages
  have secondPart := stagePart_eq toList_table metrics stages
  have firstRows := metricRows_eq toList_table metrics stages
  have secondRows := stageRows_eq toList_table metrics stages
  constructor
  case separated => rw [whole, firstPart, secondPart]
  case filled =>
    rw [firstPart, secondPart, List.mem_append, not_or]
    exact ⟨nil_notMem_map_intercalate metrics ',', nil_notMem_map_intercalate stages ','⟩
  case metricColumns =>
    rw [firstRows, List.forall_mem_cons, List.forall_mem_map]
    exact ⟨by decide, fun metric _ => length_metricFields metric⟩
  case names =>
    have heads : (header :: report.metrics.map metricFields).map List.head? =
        ("metric_name" :: report.metrics.map Prod.fst).map fun name => some name.toList := by
      rw [List.map_cons, List.map_cons, List.map_map, List.map_map]
      rfl
    rw [firstRows, heads]
    refine (nodup_names tags codes different).map fun name other same => ?_
    exact String.toList_injective (Option.some.inj same)
  case counters =>
    rw [firstRows]
    exact filterMap_readCounter? tags
  case stageColumns =>
    rw [secondRows, List.forall_mem_cons, List.forall_mem_map]
    exact ⟨by decide, fun record _ => rfl⟩
  case headed => rw [secondRows, List.length_cons, List.length_map]
  case records =>
    rw [secondRows, List.tail_cons, List.map_map]
    refine List.map_congr_left fun record inside => ?_
    obtain ⟨-, low, high⟩ := stamped record inside
    exact StageRecord.ofRow?_fields low high

/-- A report on events from labels gives back its counters and the stages of the run. The lines about
the stages give them back too, all but the number of their instants. -/
theorem isReadBack_report {tally : Tally} (fed : tally.IsFed) (profile : Profile)
    (window : RunWindow) :
    let records := profile.records window
    tally.report.IsReadBack records (tally.report.table records) ∧
      (lines (StageRecord.lines records)).map
          (fun line => StageRecord.ofWords? (split ' ' line)) =
        records.map fun record =>
          some (record.stage, record.target, record.timestamp, record.reached) := by
  intro records
  have tags : ∀ stage ∈ tally.report.stages, IsTag stage.tag :=
    List.forall_mem_map.mpr fed.isTag
  have codes : (tally.report.statusCodes.map Prod.fst).Nodup :=
    List.pairwise_map.mpr (fed.statusCodes_isSorted.imp Nat.ne_of_lt)
  have different : (tally.report.stages.map StageSummary.tag).Nodup := by
    unfold Tally.report
    rw [List.map_map]
    exact List.pairwise_map.mpr (fed.isFiled.stages.imp fun ordered => ordered.ne)
  have stamped : ∀ record ∈ records, record.timestamp = Timestamp.write record.instant ∧
      Word.minInstant ≤ record.instant ∧ record.instant ≤ Word.maxInstant :=
    fun record inside => StageRecord.of_mem_records inside
  exact ⟨isReadBack_table tags codes different stamped,
    StageRecord.map_ofWords?_lines fun record inside => ⟨_, (stamped record inside).1⟩⟩

/-- A profile whose target falls. -/
def fallingProfile : Profile :=
  Profile.ofPairs [(10, "1m"), (5, "1s")]

/-- An answer in the first stage, a refusal outside every stage, and an arrival without a user. -/
def fallingEvents : List (ℕ × RunEvent) :=
  let inside := fallingProfile.label (some 0)
  let outside := fallingProfile.label none
  [(0, .request inside.tag inside.target ⟨2000000⟩ (some 200) none),
    (1, .request outside.tag outside.target ⟨1000000⟩ (some 503) none), (1, .dropped inside.tag)]

/-- The stages of the earliest run of all have numbers in place of timestamps. -/
theorem isReadBack_report_falling :
    let tally := ((ShardedTally.ofCount 2).addAll fallingEvents).merge
    let records := fallingProfile.records ⟨Word.minInstant, 0⟩
    tally.IsFed ∧ tally.report.IsReadBack records (tally.report.table records) ∧
      tally.report.counters =
        [(.whole "http_req_count", 2), (.whole "http_req_failed", 1),
          (.whole "dropped_iterations", 1), (.status 200, 1), (.status 503, 1),
          (.stage "rps-10" "count", 1), (.stage "rps-10" "failed", 0),
          (.stage "rps-10" "dropped", 1), (.stage "rps-unknown" "count", 1),
          (.stage "rps-unknown" "failed", 1), (.stage "rps-unknown" "dropped", 0)] ∧
      (lines (StageRecord.lines records)).map
          (fun line => StageRecord.ofWords? (split ' ' line)) =
        [some (0, 10, "-9223372036854775808", true), some (1, 5, "-9223372036854715808", true)] := by
  intro tally records
  have labelled : ∀ event ∈ fallingEvents, event.2.IsLabelled := by
    intro event inside
    fin_cases inside
    · exact ⟨_, _, rfl, rfl⟩
    · exact ⟨_, _, rfl, rfl⟩
    · exact ⟨_, _, rfl⟩
  have fed : tally.IsFed := ShardedTally.isFed_merge labelled 2
  obtain ⟨read, reported⟩ := isReadBack_report fed fallingProfile ⟨Word.minInstant, 0⟩
  exact ⟨fed, read, by decide +kernel, reported.trans (by decide +kernel)⟩

end Report

end ArrivalRamp
