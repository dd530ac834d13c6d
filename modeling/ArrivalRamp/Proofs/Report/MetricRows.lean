import ArrivalRamp.Proofs.Report.Fields
import ArrivalRamp.Proofs.Tally.Tags
import ArrivalRamp.Report.Table

/-!
The rows of metrics, read back. The name of a metric is made of words, and tells the metrics of the
whole run, of the status codes and of the stages apart.
-/

namespace ArrivalRamp

open Text

theorem IsWord.isField {word : String} (own : IsWord word) : IsField word.toList := by
  intro character inside
  simp [isFieldCharacter, own character inside]

namespace Report

/-- What the name of a metric stands for. -/
inductive MetricKey where
  | whole (name : String)
  | status (code : ℕ)
  | stage (tag measure : String)
  deriving DecidableEq

namespace MetricKey

/-- What a name stands for, from its words. -/
def ofName (name : List Char) : MetricKey :=
  match (split '_' name).map String.ofList with
  | ["http", "req", "status", code] =>
    (Decimal.ofDigits? code.toList).elim (.whole (String.ofList name)) .status
  | ["rps", word, measure] => .stage (StageLabel.tagStart ++ word) measure
  | _ => .whole (String.ofList name)

/-- The words of a name that is made of them. -/
theorem words_intercalate {words : List String} (all : ∀ word ∈ words, IsWord word)
    (nonempty : words ≠ []) :
    (split '_' (['_'].intercalate (words.map String.toList))).map String.ofList = words := by
  have single : ∀ word ∈ words.map String.toList, '_' ∉ word := by
    rw [List.forall_mem_map]
    exact fun word inside => (all word inside).notMem (by decide)
  rw [split_intercalate single (by simpa using nonempty)]
  simp

theorem ofName_status (code : ℕ) :
    ofName ("http_req_status_" ++ Decimal.natural code).toList = .status code := by
  have start : "http_req_status_".toList =
      "http".toList ++ '_' :: ("req".toList ++ '_' :: ("status".toList ++ ['_'])) := by
    decide +kernel
  have name : ("http_req_status_" ++ Decimal.natural code).toList =
      ['_'].intercalate (["http", "req", "status", Decimal.natural code].map String.toList) := by
    rw [String.toList_append, start]
    simp [-String.reduceToList, List.intercalate_cons_cons]
  have words : ∀ word ∈ ["http", "req", "status", Decimal.natural code], IsWord word := by
    simpa using ⟨by decide, by decide, by decide, isWord_natural code⟩
  unfold ofName
  rw [name, words_intercalate words (List.cons_ne_nil _ _)]
  change (Decimal.ofDigits? (Decimal.natural code).toList).elim _ _ = _
  rw [Decimal.natural, String.toList_ofList, Decimal.ofDigits?_digits]
  rfl

/-- The name of a tag in the table is two words. -/
theorem tagName_append {word : String} (own : IsWord word) :
    (tagName (StageLabel.tagStart ++ word)).toList = "rps".toList ++ '_' :: word.toList := by
  have kept : word.toList.map (fun character => if character = '-' then '_' else character) =
      word.toList := by
    refine (List.map_congr_left fun character inside => ?_).trans (List.map_id _)
    exact if_neg fun minus => own.notMem (by decide) (minus ▸ inside)
  have start : StageLabel.tagStart.toList = "rps".toList ++ ['-'] := by decide +kernel
  unfold tagName
  rw [String.toList_ofList, String.toList_append, start, List.map_append, kept]
  rfl

theorem ofName_stage {tag : String} (own : IsTag tag) {measure : String}
    (single : IsWord measure) :
    ofName (tagName tag ++ ("_" ++ measure)).toList = .stage tag measure := by
  obtain ⟨word, rfl, wordOwn⟩ := own
  have name : (tagName (StageLabel.tagStart ++ word) ++ ("_" ++ measure)).toList =
      ['_'].intercalate (["rps", word, measure].map String.toList) := by
    have mark : "_".toList = ['_'] := by decide
    rw [String.toList_append, tagName_append wordOwn, String.toList_append, mark]
    simp [-String.reduceToList, List.intercalate_cons_cons]
  have words : ∀ part ∈ ["rps", word, measure], IsWord part := by
    simpa using ⟨by decide, wordOwn, single⟩
  unfold ofName
  rw [name, words_intercalate words (List.cons_ne_nil _ _)]
  rfl

end MetricKey

/-- The number of a counter, with what its name stands for, in the fields of a row. -/
def readCounter? : List (List Char) → Option (MetricKey × ℕ)
  | [name, kind, value] =>
    if kind = "counter".toList then
      (Decimal.ofDigits? value).map fun count => (.ofName name, count)
    else none
  | _ => none

/-- The counters of a stage. -/
def stageCounters (stage : StageSummary) : List (MetricKey × ℕ) :=
  [(.stage stage.tag "count", stage.total), (.stage stage.tag "failed", stage.failed),
    (.stage stage.tag "dropped", stage.dropped)]

/-- All counters of a report. -/
def counters (report : Report) : List (MetricKey × ℕ) :=
  [(.whole "http_req_count", report.total), (.whole "http_req_failed", report.failed),
    (.whole "dropped_iterations", report.dropped)] ++
  (report.statusCodes.map fun code => (MetricKey.status code.1, code.2)) ++
  report.stages.flatMap stageCounters

/-- The names of the columns. -/
def header : List (List Char) :=
  ["metric_name", "metric_type", "value"].map String.toList

/-- The fields after the name of a metric. -/
def MetricValue.fields : MetricValue → List (List Char)
  | .counter count => ["counter".toList, Decimal.digits count]
  | .rate share => ["rate".toList, (Decimal.fixed 6 share).toList]
  | .gauge millis => ["gauge".toList, (Decimal.fixed 3 millis).toList]

/-- The fields of a row. -/
def metricFields (metric : String × MetricValue) : List (List Char) :=
  metric.1.toList :: metric.2.fields

theorem length_metricFields (metric : String × MetricValue) : (metricFields metric).length = 3 := by
  obtain ⟨name, value⟩ := metric
  cases value <;> rfl

theorem readCounter?_counter (name : String) (count : ℕ) :
    readCounter? (metricFields (name, .counter count)) = some (.ofName name.toList, count) := by
  simp [readCounter?, metricFields, MetricValue.fields, Decimal.ofDigits?_digits]

theorem readCounter?_rate (name : String) (share : Float) :
    readCounter? (metricFields (name, .rate share)) = none := by
  simp [readCounter?, metricFields, MetricValue.fields]

theorem readCounter?_gauge (name : String) (millis : Float) :
    readCounter? (metricFields (name, .gauge millis)) = none := by
  simp [readCounter?, metricFields, MetricValue.fields]

theorem toList_columns (value : MetricValue) :
    value.columns.toList = [','].intercalate value.fields := by
  have counter : "counter,".toList = "counter".toList ++ [','] := by decide
  have rate : "rate,".toList = "rate".toList ++ [','] := by decide
  have gauge : "gauge,".toList = "gauge".toList ++ [','] := by decide
  cases value <;>
    simp [-String.reduceToList, MetricValue.columns, MetricValue.fields, counter, rate, gauge,
      Decimal.natural, List.intercalate_cons_cons]

theorem toList_metricRow (metric : String × MetricValue) :
    (metricRow metric).toList = [','].intercalate (metricFields metric) ++ ['\n'] := by
  have fields : metric.2.fields ≠ [] := by
    cases metric.2 <;> exact List.cons_ne_nil _ _
  obtain ⟨kind, others, same⟩ := List.exists_cons_of_ne_nil fields
  rw [metricFields, same, List.intercalate_cons_cons, ← same, ← toList_columns]
  simp [metricRow]

theorem toList_metricRows (metrics : List (String × MetricValue)) :
    (String.join (metrics.map metricRow)).toList = joined ',' (metrics.map metricFields) := by
  rw [String.toList_join, joined, List.map_map, List.flatMap_map, List.flatMap_map]
  exact List.flatMap_congr fun metric _ => toList_metricRow metric

section Names

/-- The names of the column of names and of the metrics of the whole run. -/
def wholeNames : List String :=
  ["metric_name", "http_req_count", "http_req_failed", "dropped_iterations", "check_fail_rate",
    "http_req_duration_avg", "http_req_duration_min", "http_req_duration_max",
    "http_req_duration_p50", "http_req_duration_p90", "http_req_duration_p95",
    "http_req_duration_p99"]

/-- What is measured of each stage. -/
def measures : List String := ["count", "failed", "dropped", "p95"]

theorem map_ofName_wholeNames :
    wholeNames.map (fun name => MetricKey.ofName name.toList) = wholeNames.map .whole := by
  decide +kernel

variable (report : Report)

theorem names_metrics :
    "metric_name" :: report.metrics.map Prod.fst =
      wholeNames ++ (report.statusCodes.map fun code =>
        "http_req_status_" ++ Decimal.natural code.1) ++
      report.stages.flatMap fun stage =>
        measures.map fun measure => tagName stage.tag ++ ("_" ++ measure) := by
  simp [metrics, wholeNames, measures, stageMetrics, List.map_flatMap]

variable {report} (tags : ∀ stage ∈ report.stages, IsTag stage.tag)

include tags

theorem isField_of_mem_names {name : String}
    (inside : name ∈ "metric_name" :: report.metrics.map Prod.fst) : IsField name.toList := by
  rw [names_metrics, List.mem_append, List.mem_append] at inside
  rcases inside with (whole | status) | staged
  · revert whole name
    decide
  · obtain ⟨code, -, rfl⟩ := List.mem_map.mp status
    rw [String.toList_append]
    exact IsField.append (by decide) (Decimal.isField_natural code.1)
  · obtain ⟨stage, stageInside, measured⟩ := List.mem_flatMap.mp staged
    obtain ⟨measure, known, rfl⟩ := List.mem_map.mp measured
    obtain ⟨word, same, own⟩ := tags stage stageInside
    have single : ∀ measure ∈ measures, IsWord measure := by decide
    have start : IsField "rps".toList := by decide
    rw [same, String.toList_append, MetricKey.tagName_append own, String.toList_append]
    exact (start.append (own.isField.cons (by decide))).append
      (IsField.append (by decide) (single measure known).isField)

/-- The names tell what they stand for. -/
theorem map_ofName_names :
    ("metric_name" :: report.metrics.map Prod.fst).map (fun name => MetricKey.ofName name.toList) =
      wholeNames.map MetricKey.whole ++ (report.statusCodes.map fun code => MetricKey.status code.1) ++
      report.stages.flatMap fun stage => measures.map (MetricKey.stage stage.tag) := by
  have statuses : (report.statusCodes.map fun code =>
      "http_req_status_" ++ Decimal.natural code.1).map (fun name => MetricKey.ofName name.toList) =
      report.statusCodes.map fun code => MetricKey.status code.1 := by
    rw [List.map_map]
    refine List.map_congr_left fun code _ => ?_
    rw [Function.comp_apply, MetricKey.ofName_status]
  have stages : (report.stages.flatMap fun stage =>
        measures.map fun measure => tagName stage.tag ++ ("_" ++ measure)).map
        (fun name => MetricKey.ofName name.toList) =
      report.stages.flatMap fun stage => measures.map (MetricKey.stage stage.tag) := by
    rw [List.map_flatMap]
    refine List.flatMap_congr fun stage inside => ?_
    rw [List.map_map]
    refine List.map_congr_left fun measure known => ?_
    have single : ∀ measure ∈ measures, IsWord measure := by decide
    rw [Function.comp_apply, MetricKey.ofName_stage (tags stage inside) (single measure known)]
  rw [names_metrics, List.map_append, List.map_append, map_ofName_wholeNames, statuses, stages]

omit tags in
theorem nodup_stageKeys (different : (report.stages.map StageSummary.tag).Nodup) :
    (report.stages.flatMap fun stage => measures.map (MetricKey.stage stage.tag)).Nodup := by
  have single : measures.Nodup := by decide
  have own : ((report.stages.map StageSummary.tag).flatMap fun tag =>
      measures.map (MetricKey.stage tag)).Nodup := by
    refine List.nodup_flatMap.mpr ⟨fun tag _ => ?_, different.imp fun apart key first second => ?_⟩
    · exact single.map fun _ _ same => (MetricKey.stage.inj same).2
    · obtain ⟨measure, -, rfl⟩ := List.mem_map.mp first
      obtain ⟨other, -, same⟩ := List.mem_map.mp second
      exact apart (MetricKey.stage.inj same).1.symm
  rwa [List.flatMap_map] at own

/-- No name stands for two metrics. -/
theorem nodup_names (codes : (report.statusCodes.map Prod.fst).Nodup)
    (different : (report.stages.map StageSummary.tag).Nodup) :
    ("metric_name" :: report.metrics.map Prod.fst).Nodup := by
  have whole : (wholeNames.map MetricKey.whole).Nodup := by decide
  have statuses : (report.statusCodes.map fun code => MetricKey.status code.1).Nodup := by
    have own := codes.map (f := MetricKey.status) fun _ _ same => MetricKey.status.inj same
    rwa [List.map_map] at own
  apply List.Nodup.of_map fun name => MetricKey.ofName name.toList
  rw [map_ofName_names tags, List.nodup_append', List.nodup_append']
  refine ⟨⟨whole, statuses, fun key first second => ?_⟩, nodup_stageKeys different,
    fun key first second => ?_⟩
  · obtain ⟨name, -, rfl⟩ := List.mem_map.mp first
    obtain ⟨code, -, same⟩ := List.mem_map.mp second
    cases same
  · obtain ⟨stage, -, measured⟩ := List.mem_flatMap.mp second
    obtain ⟨measure, -, rfl⟩ := List.mem_map.mp measured
    rcases List.mem_append.mp first with named | counted
    · obtain ⟨name, -, same⟩ := List.mem_map.mp named
      cases same
    · obtain ⟨code, -, same⟩ := List.mem_map.mp counted
      cases same

theorem isRow_metricFields {metric : String × MetricValue} (inside : metric ∈ report.metrics) :
    IsRow (metricFields metric) where
  many := by simp [length_metricFields]
  fields := by
    have name := isField_of_mem_names tags
      (List.mem_cons_of_mem "metric_name" (List.mem_map_of_mem inside))
    have value : ∀ field ∈ metric.2.fields, IsField field := by
      cases metric.2 with
      | counter count =>
          simpa [MetricValue.fields] using ⟨by decide, Decimal.isField_digits count⟩
      | rate share => simpa [MetricValue.fields] using ⟨by decide, Decimal.isField_fixed 6 share⟩
      | gauge millis =>
          simpa [MetricValue.fields] using ⟨by decide, Decimal.isField_fixed 3 millis⟩
    exact List.forall_mem_cons.mpr ⟨name, value⟩

theorem filterMap_stageMetrics {stage : StageSummary} (inside : stage ∈ report.stages) :
    (stageMetrics stage).filterMap (readCounter? ∘ metricFields) = stageCounters stage := by
  have named (measure name : String) (joined : "_" ++ measure = name)
      (single : IsWord measure) :
      MetricKey.ofName (tagName stage.tag ++ name).toList = .stage stage.tag measure := by
    subst joined
    exact MetricKey.ofName_stage (tags stage inside) single
  have total := named "count" "_count" (by simp) (by decide)
  have failed := named "failed" "_failed" (by simp) (by decide)
  have dropped := named "dropped" "_dropped" (by simp) (by decide)
  simp [-String.toList_append, stageMetrics, stageCounters, readCounter?_counter,
    readCounter?_gauge, total, failed, dropped]

/-- The rows give back all counters. -/
theorem filterMap_readCounter? :
    (report.metrics.map metricFields).filterMap readCounter? = report.counters := by
  have statuses : (report.statusCodes.map fun code =>
      ("http_req_status_" ++ Decimal.natural code.1, MetricValue.counter code.2)).filterMap
        (readCounter? ∘ metricFields) =
      report.statusCodes.map fun code => (.status code.1, code.2) := by
    rw [List.filterMap_map, ← List.filterMap_eq_map]
    refine List.filterMap_congr fun code _ => ?_
    exact (readCounter?_counter _ _).trans (by rw [MetricKey.ofName_status]; rfl)
  have stages : (report.stages.flatMap stageMetrics).filterMap (readCounter? ∘ metricFields) =
      report.stages.flatMap stageCounters := by
    rw [List.filterMap_flatMap]
    exact List.flatMap_congr fun stage inside => filterMap_stageMetrics tags inside
  have total : MetricKey.ofName "http_req_count".toList = .whole "http_req_count" := by
    decide +kernel
  have failed : MetricKey.ofName "http_req_failed".toList = .whole "http_req_failed" := by
    decide +kernel
  have dropped : MetricKey.ofName "dropped_iterations".toList = .whole "dropped_iterations" := by
    decide +kernel
  rw [List.filterMap_map, metrics, List.filterMap_append, List.filterMap_append, statuses, stages,
    counters]
  simp [-String.reduceToList, readCounter?_counter, readCounter?_rate, readCounter?_gauge, total,
    failed, dropped]

end Names

end Report

end ArrivalRamp
