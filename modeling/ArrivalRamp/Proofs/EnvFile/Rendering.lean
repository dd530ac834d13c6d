import ArrivalRamp.EnvFile
import ArrivalRamp.Proofs.Text.Fields
import ArrivalRamp.Proofs.Text.Trimming

/-!
Files of variables as they are written: each variable on a line of its own, its value between
quotes, and lines without a variable anywhere between them. The variables that are read from such a
file are those that are written in it.
-/

namespace ArrivalRamp.EnvFile

open Text

/-- A quote around a value. -/
inductive Quote where
  | single
  | double

namespace Quote

/-- The character of a quote. -/
def mark : Quote → Char
  | .single => '\''
  | .double => '"'

/-- The character is a quote of either kind. -/
def isMark (character : Char) : Bool :=
  character = '\'' || character = '"'

end Quote

/-- How a line ends. -/
inductive LineEnd where
  | feed
  | returnFeed

/-- The characters at the end of a line. -/
def LineEnd.characters : LineEnd → List Char
  | .feed => ['\n']
  | .returnFeed => ['\r', '\n']

/-- The word that exports a variable, and the space behind it. -/
def exportWord : List Char :=
  ['e', 'x', 'p', 'o', 'r', 't', ' ']

/-- A name that can be told from the rest of its line. -/
structure IsName (name : List Char) : Prop where
  nonempty : name ≠ []
  onOneLine : '\n' ∉ name
  free : '=' ∉ name
  first : ∀ character ∈ name.head?, isBlank character = false
  last : ∀ character ∈ name.getLast?, isBlank character = false
  noComment : name.head? ≠ some '#'
  noExport : ¬exportWord <+: name

/-- A value that can be told from the quotes around it. Blanks at its ends belong to it. -/
structure IsValue (value : List Char) : Prop where
  onOneLine : '\n' ∉ value
  first : ∀ character ∈ value.head?, Quote.isMark character = false
  last : ∀ character ∈ value.getLast?, Quote.isMark character = false

/-- A line without a variable: it is blank, it is a comment, or nothing in it is a sign of
equality. -/
structure IsSilent (line : List Char) : Prop where
  onOneLine : '\n' ∉ line
  kind : (∀ character ∈ line, isBlank character) ∨
    (∃ blanks comment, line = blanks ++ '#' :: comment ∧ ∀ blank ∈ blanks, isBlank blank) ∨
    '=' ∉ line

/-- The line of a variable. -/
def writeLine (exported : Bool) (quote : Quote) (name value : List Char) : List Char :=
  (if exported then exportWord else []) ++ name ++ '=' :: (quote.mark :: value ++ [quote.mark])

/-- A text is written from variables in their order. What follows the last end of a line holds no
variable. -/
inductive Renders : List (String × String) → List Char → Prop where
  | finish {line : List Char} (silent : IsSilent line) : Renders [] line
  | skip {entries : List (String × String)} {line rest : List Char} (silent : IsSilent line)
      (ending : LineEnd) (others : Renders entries rest) :
      Renders entries (line ++ ending.characters ++ rest)
  | assign {entries : List (String × String)} {rest : List Char} (name value : String)
      (exported : Bool) (quote : Quote) (ending : LineEnd) (others : Renders entries rest) :
      Renders ((name, value) :: entries)
        (writeLine exported quote name.toList value.toList ++ ending.characters ++ rest)

section Lines

variable {line : List Char}

theorem trim_dropReturn (line : List Char) : trim isBlank (dropReturn line) = trim isBlank line := by
  unfold dropReturn
  split_ifs with last
  · obtain ⟨front, rfl⟩ := List.getLast?_eq_some_iff.mp last
    rw [List.dropLast_concat, trim_concat front (by decide)]
  · rfl

/-- A carriage return at the end of a line counts for nothing. -/
theorem readLine_dropReturn (line : List Char) : readLine (dropReturn line) = readLine line := by
  unfold readLine
  rw [trim_dropReturn]

theorem readLine_concat_return (line : List Char) : readLine (line ++ ['\r']) = readLine line := by
  unfold readLine
  rw [trim_concat line (by decide)]

/-- A line is read whichever way it ends, and the lines behind it are read after it. -/
theorem filterMap_readLine_linesFrom (oneLine : '\n' ∉ line) (ending : LineEnd) (rest : List Char) :
    (linesFrom [] (line ++ ending.characters ++ rest)).filterMap readLine =
      (readLine line).toList ++ (linesFrom [] rest).filterMap readLine := by
  have ended : ∃ first, linesFrom [] (line ++ ending.characters ++ rest) =
      first :: linesFrom [] rest ∧ readLine first = readLine line := by
    rw [List.append_assoc]
    cases ending with
    | feed =>
        exact ⟨dropReturn line, linesFrom_append oneLine [] rest, readLine_dropReturn line⟩
    | returnFeed =>
        have whole : '\n' ∉ line ++ ['\r'] := by simpa using oneLine
        refine ⟨dropReturn (line ++ ['\r']), ?_, ?_⟩
        · simpa [LineEnd.characters] using linesFrom_append whole [] rest
        · rw [readLine_dropReturn, readLine_concat_return]
  obtain ⟨first, lines, same⟩ := ended
  rw [lines, ← same]
  cases found : readLine first with
  | none => rw [List.filterMap_cons_none found, Option.toList_none, List.nil_append]
  | some entry => rw [List.filterMap_cons_some found, Option.toList_some, List.singleton_append]

end Lines

theorem splitPair_eq_none {line : List Char} (free : '=' ∉ line) : splitPair line = none := by
  have dropped : line.dropWhile (· ≠ '=') = [] :=
    List.dropWhile_eq_nil_iff.mpr fun character inside =>
      decide_eq_true fun same => free (same ▸ inside)
  unfold splitPair
  rw [dropped]

theorem splitPair_append {front : List Char} (free : '=' ∉ front) (rest : List Char) :
    splitPair (front ++ '=' :: rest) = some (front, rest) := by
  have kept : ∀ character ∈ front, decide (character ≠ '=') = true :=
    fun character inside => decide_eq_true fun same => free (same ▸ inside)
  have stops : ∀ character ∈ ('=' :: rest).head?, decide (character ≠ '=') = false := by simp
  unfold splitPair
  rw [dropWhile_append_eq kept stops, takeWhile_append_eq kept stops]

/-- Nothing is read from a line without a variable. -/
theorem IsSilent.readLine_eq {line : List Char} (silent : IsSilent line) : readLine line = none := by
  unfold readLine
  dsimp only
  rcases silent.kind with blank | ⟨blanks, comment, rfl, blank⟩ | free
  · have empty : trim isBlank line = [] := by
      unfold trim trimStart
      rw [List.dropWhile_eq_nil_iff.mpr blank]
      rfl
    rw [empty]
    rfl
  · have started : (trim isBlank (blanks ++ '#' :: comment)).head? = some '#' := by
      rw [trim_append_cons blank (by decide)]
      rfl
    rw [if_pos started]
  · have kept : '=' ∉ trim isBlank line := fun inside => free (trim_subset isBlank line inside)
    rw [splitPair_eq_none kept]
    split_ifs <;> rfl

section Written

variable {text : List Char}

/-- A name is read with the word that exports it and without. -/
theorem IsName.name_eq (named : IsName text) (exported : Bool) :
    name ((if exported then exportWord else []) ++ text) = text := by
  have own : trim isBlank text = text := trim_eq_self named.first named.last
  unfold name
  cases exported with
  | false =>
      change trim isBlank (trimStarts exportWord (trim isBlank text)) = text
      rw [own, trimStarts_eq_self named.noExport, own]
  | true =>
      have whole : trim isBlank (exportWord ++ text) = exportWord ++ text := by
        refine trim_eq_self ?_ ?_
        · rintro _ ⟨rfl⟩
          decide
        · rw [List.getLast?_append_of_ne_nil _ named.nonempty]
          exact named.last
      change trim isBlank (trimStarts exportWord (trim isBlank (exportWord ++ text))) = text
      rw [whole, trimStarts_append named.noExport, own]

/-- A value is read from between its quotes. -/
theorem IsValue.value_eq (valued : IsValue text) (quote : Quote) :
    value (quote.mark :: text ++ [quote.mark]) = text := by
  have mark {character : Char} (other : Quote.isMark character = false) :
      (character == '\'') = false ∧ (character == '"') = false := by
    simpa [Quote.isMark] using other
  have single : ∀ character ∈ text.head?, (character == '\'') = false :=
    fun character first => (mark (valued.first character first)).1
  have singleEnd : ∀ character ∈ text.getLast?, (character == '\'') = false :=
    fun character last => (mark (valued.last character last)).1
  have double : ∀ character ∈ text.head?, (character == '"') = false :=
    fun character first => (mark (valued.first character first)).2
  have doubleEnd : ∀ character ∈ text.getLast?, (character == '"') = false :=
    fun character last => (mark (valued.last character last)).2
  unfold value
  cases quote with
  | single =>
      change trim (· == '\'') (trim (· == '"') (trim isBlank ('\'' :: text ++ ['\'']))) = text
      rw [trim_enclosed (by decide), trim_enclosed (by decide),
        trim_between (by decide) single singleEnd]
  | double =>
      change trim (· == '\'') (trim (· == '"') (trim isBlank ('"' :: text ++ ['"']))) = text
      rw [trim_enclosed (by decide), trim_between (by decide) double doubleEnd,
        trim_eq_self single singleEnd]

/-- Neither is a line with a name a comment, nor does it start with a blank. -/
theorem IsName.starts (named : IsName text) (exported : Bool) (rest : List Char) :
    ∀ character ∈ ((if exported then exportWord else []) ++ text ++ rest).head?,
      isBlank character = false ∧ character ≠ '#' := by
  cases exported with
  | false =>
      obtain ⟨first, others, rfl⟩ := List.exists_cons_of_ne_nil named.nonempty
      rintro _ ⟨rfl⟩
      exact ⟨named.first first rfl, fun same => named.noComment (congrArg some same)⟩
  | true =>
      rintro _ ⟨rfl⟩
      decide

theorem readLine_writeLine {name value : String} (named : IsName name.toList)
    (valued : IsValue value.toList) (exported : Bool) (quote : Quote) :
    readLine (writeLine exported quote name.toList value.toList) = some (name, value) := by
  have starts := named.starts exported ('=' :: (quote.mark :: value.toList ++ [quote.mark]))
  have whole : trim isBlank (writeLine exported quote name.toList value.toList) =
      writeLine exported quote name.toList value.toList := by
    refine trim_eq_self (fun character first => (starts character first).1) ?_
    have closed : (writeLine exported quote name.toList value.toList).getLast? =
        some quote.mark := by
      unfold writeLine
      rw [← List.cons_append, ← List.append_assoc, List.getLast?_concat]
    rw [closed]
    rintro _ ⟨rfl⟩
    cases quote <;> decide
  have noComment : (writeLine exported quote name.toList value.toList).head? ≠ some '#' :=
    fun comment => (starts '#' comment).2 rfl
  have free : '=' ∉ (if exported then exportWord else []) ++ name.toList := by
    rw [List.mem_append, not_or]
    exact ⟨by cases exported <;> decide, named.free⟩
  have filled : name.toList.isEmpty = false := List.isEmpty_eq_false_iff.mpr named.nonempty
  unfold readLine
  dsimp only
  rw [whole, if_neg noComment, writeLine, splitPair_append free]
  dsimp only
  rw [named.name_eq, valued.value_eq, filled, if_neg Bool.false_ne_true, String.ofList_toList,
    String.ofList_toList]

theorem notMem_writeLine {name value : String} (named : IsName name.toList)
    (valued : IsValue value.toList) (exported : Bool) (quote : Quote) :
    '\n' ∉ writeLine exported quote name.toList value.toList := by
  have word : '\n' ∉ (if exported then exportWord else []) := by cases exported <;> decide
  have mark : '\n' ≠ quote.mark := by cases quote <;> decide
  simp [writeLine, word, mark, named.onOneLine, valued.onOneLine]

end Written

/-- The variables that are read from a text are those that it is written from, in their order, each
as often as it is written. -/
theorem read_of_renders {entries : List (String × String)} {text : String}
    (proper : ∀ entry ∈ entries, IsName entry.1.toList ∧ IsValue entry.2.toList)
    (rendered : Renders entries text.toList) : read text = entries := by
  unfold read lines
  generalize text.toList = characters at rendered
  induction rendered with
  | finish silent =>
      rw [linesFrom_of_notMem silent.onOneLine]
      split_ifs
      · rfl
      · exact List.filterMap_cons_none silent.readLine_eq
  | skip silent ending _ ih =>
      rw [filterMap_readLine_linesFrom silent.onOneLine, silent.readLine_eq, ih proper]
      rfl
  | assign name value exported quote ending _ ih =>
      rw [List.forall_mem_cons] at proper
      obtain ⟨⟨named, valued⟩, others⟩ := proper
      rw [filterMap_readLine_linesFrom (notMem_writeLine named valued exported quote),
        readLine_writeLine named valued, ih others]
      rfl

/-- A file in which one variable is set twice, between lines that set none. -/
def exampleFile : String :=
  "# KEY=0\r\n\nexport KEY=\" a=b#\r\"\r\nno sign\nKEY='c\"d'\nexport=''\n #"

/-- The variables of the file. -/
def exampleEntries : List (String × String) :=
  [("KEY", " a=b#\r"), ("KEY", "c\"d"), ("export", "")]

theorem read_of_renders_exampleFile :
    (∀ entry ∈ exampleEntries, IsName entry.1.toList ∧ IsValue entry.2.toList) ∧
      Renders exampleEntries exampleFile.toList ∧ read exampleFile = exampleEntries := by
  have key : IsName "KEY".toList := by
    refine ⟨by decide, by decide, by decide, ?_, ?_, by decide, by decide⟩
    all_goals rintro _ ⟨rfl⟩
    all_goals rfl
  have word : IsName "export".toList := by
    refine ⟨by decide, by decide, by decide, ?_, ?_, by decide, by decide⟩
    all_goals rintro _ ⟨rfl⟩
    all_goals rfl
  have proper : ∀ entry ∈ exampleEntries, IsName entry.1.toList ∧ IsValue entry.2.toList := by
    intro entry inside
    fin_cases inside
    · refine ⟨key, by decide, ?_, ?_⟩
      all_goals rintro _ ⟨rfl⟩
      all_goals rfl
    · refine ⟨key, by decide, ?_, ?_⟩
      all_goals rintro _ ⟨rfl⟩
      all_goals rfl
    · exact ⟨word, by decide, nofun, nofun⟩
  have comment : IsSilent "# KEY=0".toList :=
    ⟨by decide, .inr (.inl ⟨[], _, rfl, List.forall_mem_nil _⟩)⟩
  have empty : IsSilent [] := ⟨by decide, .inl (List.forall_mem_nil _)⟩
  have unsigned : IsSilent "no sign".toList := ⟨by decide, .inr (.inr (by decide))⟩
  have last : IsSilent " #".toList :=
    ⟨by decide, .inr (.inl ⟨[' '], _, rfl, List.forall_mem_singleton.mpr rfl⟩)⟩
  have rendered := Renders.skip comment .returnFeed <| .skip empty .feed <|
    .assign "KEY" " a=b#\r" true .double .returnFeed <| .skip unsigned .feed <|
    .assign "KEY" "c\"d" false .single .feed <| .assign "export" "" false .single .feed <|
    .finish last
  have whole : Renders exampleEntries exampleFile.toList := rendered
  exact ⟨proper, whole, read_of_renders proper whole⟩

end ArrivalRamp.EnvFile
