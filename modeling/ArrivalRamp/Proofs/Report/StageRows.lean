import ArrivalRamp.Proofs.Profile.Starts
import ArrivalRamp.Proofs.Profile.Reconstruction
import ArrivalRamp.Proofs.Report.Fields

/-!
The rows and the lines that report stages, read back.
-/

namespace ArrivalRamp.StageRecord

open Text

/-- The word for a truth value, read. -/
def readFlag? (text : List Char) : Option Bool :=
  if text = ['t', 'r', 'u', 'e'] then some true
  else if text = ['f', 'a', 'l', 's', 'e'] then some false
  else none

/-- The stage of a table row. -/
def ofRow? : List (List Char) → Option StageRecord
  | [stage, target, instant, timestamp, reached] => do
    let stage ← Decimal.ofDigits? stage
    let target ← Decimal.ofDigits? target
    let instant ← RunStop.readInstant? instant
    let reached ← readFlag? reached
    return ⟨stage, target, instant, String.ofList timestamp, reached⟩
  | _ => none

/-- A name and its value as one word. -/
def named (name : String) (value : List Char) : List Char :=
  (name.toList ++ ['=']) ++ value

/-- The value in a word that starts with a name. -/
def valueOf? (name : String) (word : List Char) : Option (List Char) :=
  (name.toList ++ ['=']).isPrefixOf? word

theorem valueOf?_named (name : String) (value : List Char) :
    valueOf? name (named name value) = some value :=
  List.isPrefixOf?_eq_some_iff_append_eq.mpr rfl

/-- The stage, the target, the timestamp and the flag in the words of a line. -/
def ofWords? : List (List Char) → Option (ℕ × ℕ × String × Bool)
  | mark :: stage :: target :: timestamp :: flags => do
    if mark ≠ "[STAGE_START]".toList then none
    let stage ← (valueOf? "stage_index" stage).bind Decimal.ofDigits?
    let target ← (valueOf? "target_rps" target).bind Decimal.ofDigits?
    let timestamp ← valueOf? "timestamp" timestamp
    let reached ← match flags with
      | [] => some true
      | [flag] => (valueOf? "reached" flag).bind readFlag?
      | _ => none
    return (stage, target, String.ofList timestamp, reached)
  | _ => none

section Table

/-- The names of the columns. -/
def header : List (List Char) :=
  ["stage_index", "target_rps", "start_epoch_ms", "start_timestamp", "reached"].map String.toList

/-- The fields of a row. -/
def fields (record : StageRecord) : List (List Char) :=
  [Decimal.digits record.stage, Decimal.digits record.target,
    (Decimal.integer record.instant).toList, record.timestamp.toList,
    (flagText record.reached).toList]

theorem toList_row (record : StageRecord) :
    record.row.toList = [','].intercalate record.fields ++ ['\n'] := by
  rw [row, String.toList_append, String.toList_intercalate]
  simp only [List.map_cons, List.map_nil, Decimal.natural, String.toList_ofList, fields]
  rfl

theorem toList_table (records : List StageRecord) :
    (table records).toList = joined ',' (header :: records.map fields) := by
  have names : "stage_index,target_rps,start_epoch_ms,start_timestamp,reached\n".toList =
      [','].intercalate header ++ ['\n'] := by
    decide +kernel
  have rows : (records.map row).flatMap String.toList = joined ',' (records.map fields) := by
    rw [joined, List.map_map, List.flatMap_map, List.flatMap_map]
    exact List.flatMap_congr fun record _ => record.toList_row
  unfold table
  rw [String.toList_append, String.toList_join, rows, joined_cons, names]

/-- The fields of a row stay apart when its timestamp is that of an instant. -/
theorem isRow_fields {record : StageRecord} {instant : ℤ}
    (stamped : record.timestamp = Timestamp.write instant) : IsRow record.fields where
  many := by simp [fields]
  fields := by
    have flag : IsField (flagText record.reached).toList := by
      cases record.reached <;> decide
    simpa [fields, stamped, Decimal.isField_digits, Decimal.isField_integer] using
      ⟨Timestamp.isField_write instant, flag⟩

theorem ofRow?_fields {record : StageRecord} (low : Word.minInstant ≤ record.instant)
    (high : record.instant ≤ Word.maxInstant) : ofRow? record.fields = some record := by
  have flag : readFlag? (flagText record.reached).toList = some record.reached := by
    cases record.reached <;> decide
  simp [ofRow?, fields, Decimal.ofDigits?_digits, RunStop.readInstant?_integer low high, flag]

end Table

section Lines

/-- The words of a line. The last one is left out when the stage is reached. -/
def words (record : StageRecord) : List (List Char) :=
  ["[STAGE_START]".toList, named "stage_index" (Decimal.digits record.stage),
    named "target_rps" (Decimal.digits record.target),
    named "timestamp" record.timestamp.toList] ++
    if record.reached then [] else [named "reached" (flagText false).toList]

theorem toList_line (record : StageRecord) :
    record.line.toList = [' '].intercalate record.words := by
  have stage : "[STAGE_START] stage_index=".toList =
      "[STAGE_START]".toList ++ ' ' :: ("stage_index".toList ++ ['=']) := by
    decide +kernel
  have target : " target_rps=".toList = ' ' :: ("target_rps".toList ++ ['=']) := by decide +kernel
  have timestamp : " timestamp=".toList = ' ' :: ("timestamp".toList ++ ['=']) := by decide +kernel
  have flag : " reached=false".toList = ' ' :: named "reached" (flagText false).toList := by
    decide +kernel
  unfold line words
  cases record.reached <;>
    simp only [String.toList_append, stage, target, timestamp, flag, Decimal.natural,
      String.toList_ofList, named, List.cons_append, List.nil_append, List.intercalate_cons_cons,
      List.intercalate_singleton, List.append_assoc, String.toList_empty, List.append_nil,
      if_true, if_false, Bool.false_eq_true]

theorem toList_lines (records : List StageRecord) :
    (lines records).toList = joined ' ' (records.map words) := by
  rw [lines, String.toList_join, List.flatMap_map, joined, List.map_map, List.flatMap_map]
  refine List.flatMap_congr fun record _ => ?_
  rw [String.toList_append, toList_line]
  rfl

theorem isRow_words {record : StageRecord} {instant : ℤ}
    (stamped : record.timestamp = Timestamp.write instant) : IsRow record.words where
  many := by simp [words]
  fields := by
    have valued (name : String) (start : IsField (name.toList ++ ['='])) {value : List Char}
        (field : IsField value) : IsField (named name value) :=
      start.append field
    have stage := valued "stage_index" (by decide) (Decimal.isField_digits record.stage)
    have target := valued "target_rps" (by decide) (Decimal.isField_digits record.target)
    have timestamp := valued "timestamp" (by decide) (Timestamp.isField_write instant)
    have flags : ∀ word ∈ if record.reached then [] else [named "reached" (flagText false).toList],
        IsField word := by
      cases record.reached <;> decide
    unfold words
    rw [stamped, List.forall_mem_append]
    exact ⟨by simpa using ⟨by decide, stage, target, timestamp⟩, flags⟩

theorem ofWords?_words (record : StageRecord) :
    ofWords? record.words =
      some (record.stage, record.target, record.timestamp, record.reached) := by
  have flag : readFlag? (flagText false).toList = some false := by decide
  unfold words ofWords?
  cases record.reached <;> simp [valueOf?_named, Decimal.ofDigits?_digits, flag]

/-- The lines give back what they report. -/
theorem map_ofWords?_lines {records : List StageRecord}
    (stamped : ∀ record ∈ records, ∃ instant, record.timestamp = Timestamp.write instant) :
    (Text.lines (lines records)).map (fun line => ofWords? (split ' ' line)) =
      records.map fun record =>
        some (record.stage, record.target, record.timestamp, record.reached) := by
  have rows : ∀ row ∈ records.map words, IsRow row := by
    rw [List.forall_mem_map]
    intro record inside
    obtain ⟨instant, own⟩ := stamped record inside
    exact isRow_words own
  have split : (Text.lines (lines records)).map (split ' ') = records.map words := by
    unfold Text.lines
    rw [toList_lines, linesFrom_joined_end rows (by decide),
      map_split_intercalate rows (by decide)]
  have read := congrArg (List.map ofWords?) split
  rw [List.map_map, List.map_map] at read
  exact read.trans (List.map_congr_left fun record _ => record.ofWords?_words)

end Lines

theorem of_mem_records {profile : Profile} {window : RunWindow} {record : StageRecord}
    (inside : record ∈ profile.records window) :
    record.timestamp = Timestamp.write record.instant ∧
      Word.minInstant ≤ record.instant ∧ record.instant ≤ Word.maxInstant := by
  obtain ⟨start, startInside, rfl⟩ := List.mem_map.mp inside
  exact ⟨rfl, profile.instant_mem_of_mem_starts startInside⟩

end ArrivalRamp.StageRecord
