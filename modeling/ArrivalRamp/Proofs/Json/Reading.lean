import ArrivalRamp.Proofs.Json.Number
import ArrivalRamp.Proofs.Json.StringLiteral

/-!
What reading makes of the compact text of a value. A value without parts is read wherever its text
stands as it is read alone, and an array or an object is read from what is read of its parts.
-/

namespace ArrivalRamp.Json

mutual

/-- What is read from the text of a value inside so many brackets. An array or an object inside too
many brackets is not read, and the members of an object are put in the order of their names. -/
def reread? (depth : ℕ) : Json → Option Json
  | .array items => if depth < 127 then (rereadItems? (depth + 1) items).map .array else none
  | .object members =>
    if depth < 127 then (rereadMembers? (depth + 1) members).map ofMembers else none
  | value => (ofText (scalar value)).toOption

/-- What is read from the texts of items inside so many brackets. -/
def rereadItems? (depth : ℕ) : List Json → Option (List Json)
  | [] => some []
  | item :: items =>
    (reread? depth item).bind fun item => (rereadItems? depth items).map (item :: ·)

/-- What is read from the texts of members inside so many brackets. -/
def rereadMembers? (depth : ℕ) : List (String × Json) → Option (List (String × Json))
  | [] => some []
  | (name, value) :: members =>
    (reread? depth value).bind fun value => (rereadMembers? depth members).map ((name, value) :: ·)

end

/-- Reading a value from its text ends where the text does, whatever comes next, and gives the same
wherever the text stands. Two steps for each character are enough. -/
def IsReread (value : Json) : Prop :=
  ∀ depth steps rest line column, 2 * value.compact.toList.length ≤ steps → EndsValue rest →
    Cursor.Yields (value.reread? depth) rest depth
      (Cursor.read steps .value ⟨value.compact.toList ++ rest, line, column, depth⟩)

/-- A text is read as a value that stands in it and nothing else. -/
theorem toOption_ofText {text : String} {expected : Option Json}
    (read : Cursor.Yields expected [] 0 (Cursor.ofText text).value) :
    (ofText text).toOption = expected := by
  unfold ofText
  cases expected with
  | none =>
      obtain ⟨fault, failed⟩ := read
      rw [failed]
      rfl
  | some value =>
      obtain ⟨line, column, found⟩ := read
      rw [found]
      rfl

section Scalars

/-- A text that is read in the same way wherever it stands is read so when it stands alone. -/
theorem isReread_of_forall {value : Json} (expected : Option Json)
    (plain : ∀ depth, value.reread? depth = (ofText (scalar value)).toOption)
    (written : value.compact = scalar value) (nonempty : (scalar value).toList ≠ [])
    (read : ∀ depth steps rest line column, EndsValue rest →
      Cursor.Yields expected rest depth
        (Cursor.read (steps + 1) .value ⟨(scalar value).toList ++ rest, line, column, depth⟩)) :
    value.IsReread := by
  have alone : (ofText (scalar value)).toOption = expected := by
    apply toOption_ofText
    have start := read 0 (2 * (scalar value).toList.length + 1) [] 1 0 (by simp [EndsValue])
    rw [List.append_nil] at start
    exact start
  intro depth steps rest line column enough ends
  rw [written] at enough ⊢
  rw [plain, alone]
  have positive := List.length_pos_iff.mpr nonempty
  have some : steps ≠ 0 := by omega
  obtain ⟨steps, rfl⟩ := Nat.exists_eq_add_one_of_ne_zero some
  exact read depth steps rest line column ends

theorem isReread_null : IsReread .null :=
  isReread_of_forall (some .null) (fun _ => rfl) rfl (by decide)
    fun _ _ _ _ _ _ => ⟨_, _, rfl⟩

theorem isReread_boolean (value : Bool) : IsReread (.boolean value) := by
  refine isReread_of_forall (some (.boolean value)) (fun _ => rfl) rfl ?_ ?_
  all_goals cases value
  · decide
  · decide
  · exact fun _ _ _ _ _ _ => ⟨_, _, rfl⟩
  · exact fun _ _ _ _ _ _ => ⟨_, _, rfl⟩

theorem exists_toList_quoted (text : String) : ∃ others, (quoted text).toList = '"' :: others :=
  ⟨_, String.toList_ofList⟩

theorem yields_text (value : String) (depth steps : ℕ) (rest : List Char) (line column : ℕ) :
    Cursor.Yields (some (.text value)) rest depth
      (Cursor.read (steps + 1) .value ⟨(quoted value).toList ++ rest, line, column, depth⟩) := by
  obtain ⟨others, quote⟩ := exists_toList_quoted value
  have read : Cursor.Yields _ rest depth _ :=
    (Cursor.string_quoted rest value line column).map Json.text
  rw [quote] at read ⊢
  exact read

/-- A text is read as itself inside any brackets. -/
theorem reread?_text (depth : ℕ) (value : String) :
    reread? depth (.text value) = some (.text value) := by
  apply toOption_ofText
  have read := yields_text value 0 (2 * (quoted value).toList.length + 1) [] 1 0
  rw [List.append_nil] at read
  exact read

theorem isReread_text (value : String) : IsReread (.text value) := by
  obtain ⟨others, quote⟩ := exists_toList_quoted value
  have written : scalar (.text value) = quoted value := rfl
  refine isReread_of_forall (some (.text value)) (fun _ => rfl) rfl ?_ ?_
  · rw [written, quote]
    exact List.cons_ne_nil _ _
  · rw [written]
    exact fun depth steps rest line column _ => yields_text value depth steps rest line column

theorem isReread_integer (value : ℤ) : IsReread (.integer value) := by
  obtain ⟨expected, nonempty, read⟩ :=
    Cursor.exists_read_number (Decimal.isSigned_integer value) .none
  rw [List.append_nil] at nonempty read
  exact isReread_of_forall expected (fun _ => rfl) rfl nonempty read

theorem isReread_decimal (value : Float) : IsReread (.decimal value) := by
  rcases Decimal.Layout.exists_write_json value with ⟨number, power, signed, exponent, same⟩ | same
  · obtain ⟨expected, nonempty, read⟩ := Cursor.exists_read_number signed exponent
    rw [← same] at nonempty read
    exact isReread_of_forall expected (fun _ => rfl) rfl nonempty read
  · have written : scalar (.decimal value) = "null" := same
    refine isReread_of_forall (some .null) (fun _ => rfl) rfl ?_ ?_
    · rw [written]
      decide
    · rw [written]
      exact fun _ _ _ _ _ _ => ⟨_, _, rfl⟩

end Scalars

section Starts

theorem startsValue_of_isSigned {text number power : List Char}
    (signed : Decimal.IsSigned Char.isDigit number) (same : text = number ++ power) :
    ∃ first others, text = first :: others ∧ startsValue first := by
  obtain ⟨first, others, rfl, starts⟩ := signed.exists_eq_cons
  exact ⟨first, others ++ power, same, startsValue_of_isDigit starts⟩

theorem toList_compact_array (items : List Json) : (compact (.array items)).toList =
    '[' :: ((String.intercalate "," (compactItems items)).toList ++ [']']) := by
  rw [compact, String.toList_append, String.toList_append, List.append_assoc]
  rfl

theorem toList_compact_object (members : List (String × Json)) :
    (compact (.object members)).toList =
      '\x7b' :: ((String.intercalate "," (compactMembers members)).toList ++ ['\x7d']) := by
  rw [compact, String.toList_append, String.toList_append, List.append_assoc]
  rfl

/-- The text of a value starts with a character that only values start with. -/
theorem exists_compact_eq_cons (value : Json) :
    ∃ first others, value.compact.toList = first :: others ∧ startsValue first := by
  cases value with
  | null => exact ⟨'n', _, rfl, rfl⟩
  | boolean value =>
      cases value with
      | true => exact ⟨'t', _, rfl, rfl⟩
      | false => exact ⟨'f', _, rfl, rfl⟩
  | integer value =>
      exact startsValue_of_isSigned (Decimal.isSigned_integer value) (List.append_nil _).symm
  | decimal value =>
      rcases Decimal.Layout.exists_write_json value with ⟨number, power, signed, -, same⟩ | same
      · exact startsValue_of_isSigned signed same
      · have written : compact (.decimal value) = "null" := same
        exact ⟨'n', ['u', 'l', 'l'], by rw [written]; rfl, rfl⟩
  | text value =>
      obtain ⟨others, quote⟩ := exists_toList_quoted value
      exact ⟨'"', others, quote, rfl⟩
  | array items => exact ⟨'[', _, toList_compact_array items, rfl⟩
  | object members => exact ⟨'\x7b', _, toList_compact_object members, rfl⟩

end Starts

/-- Parts with a comma before each. -/
def separated (parts : List String) : List Char :=
  parts.flatMap fun part => ',' :: part.toList

theorem toList_intercalate_cons (part : String) (parts : List String) :
    (String.intercalate "," (part :: parts)).toList = part.toList ++ separated parts := by
  have comma : ",".toList = [','] := by decide
  induction parts generalizing part with
  | nil => simp [separated]
  | cons second parts ih =>
      rw [String.intercalate_cons_of_ne_nil (List.cons_ne_nil _ _), String.toList_append,
        String.toList_append, ih, comma, List.append_assoc]
      rfl

theorem endsValue_separated (parts : List String) {closing : Char}
    (closes : closing ∈ [',', ']', '\x7d']) (rest : List Char) :
    EndsValue (separated parts ++ closing :: rest) := by
  cases parts with
  | nil =>
      rintro _ ⟨rfl⟩
      exact closes
  | cons part parts =>
      rintro _ ⟨rfl⟩
      exact List.mem_cons_self

/-- A value stands where the first item of an array is looked for. -/
theorem nextItem?_compact (value : Json) (tail : List Char) (line column depth : ℕ) :
    Cursor.nextItem? ⟨value.compact.toList ++ tail, line, column, depth⟩ true =
      .ok (some ⟨value.compact.toList ++ tail, line, column, depth⟩) := by
  obtain ⟨first, others, start, starts⟩ := exists_compact_eq_cons value
  rw [start]
  exact Cursor.nextItem?_first starts

/-- A value stands after the comma where the next item of an array is looked for. -/
theorem nextItem?_comma_compact (value : Json) (tail : List Char) (line column depth : ℕ) :
    Cursor.nextItem? ⟨',' :: (value.compact.toList ++ tail), line, column, depth⟩ false =
      .ok (some ⟨value.compact.toList ++ tail, line, column + 1, depth⟩) := by
  obtain ⟨first, others, start, starts⟩ := exists_compact_eq_cons value
  rw [start]
  exact Cursor.nextItem?_comma starts

section Items

variable {item : Json} {items : List Json} {rest : List Char} {depth steps line column : ℕ}

/-- An item is read, and then those that are left. -/
theorem yields_item (reread : item.IsReread) {cursor : Cursor} {first : Bool} {done : List Json}
    (next : cursor.nextItem? first = .ok (some
      ⟨item.compact.toList ++ (separated (compactItems items) ++ ']' :: rest), line, column,
        depth + 1⟩))
    (enough : 2 * item.compact.toList.length ≤ steps)
    (others : ∀ value line column, Cursor.Yields
      ((rereadItems? (depth + 1) items).map fun read => .array ((value :: done).reverse ++ read))
      rest depth (Cursor.read steps (.items false (value :: done))
        ⟨separated (compactItems items) ++ ']' :: rest, line, column, depth + 1⟩)) :
    Cursor.Yields
      ((rereadItems? (depth + 1) (item :: items)).map fun read => .array (done.reverse ++ read))
      rest depth (cursor.read (steps + 1) (.items first done)) := by
  have ends := endsValue_separated (compactItems items) (by simp : ']' ∈ [',', ']', '\x7d']) rest
  rw [rereadItems?, Option.map_bind, Cursor.read, next]
  refine (reread (depth + 1) steps _ line column enough ends).bind fun value line column => ?_
  simpa [Function.comp_def] using others value line column

/-- The items that are left are read up to the bracket after them. -/
theorem yields_items (all : ∀ item ∈ items, item.IsReread)
    (enough : 2 * (separated (compactItems items)).length < steps) (line column : ℕ)
    (done : List Json) :
    Cursor.Yields
      ((rereadItems? (depth + 1) items).map fun read => .array (done.reverse ++ read)) rest depth
      (Cursor.read steps (.items false done)
        ⟨separated (compactItems items) ++ ']' :: rest, line, column, depth + 1⟩) := by
  induction items generalizing steps line column done with
  | nil =>
      obtain ⟨steps, rfl⟩ := Nat.exists_eq_add_one_of_ne_zero (Nat.ne_zero_of_lt enough)
      rw [rereadItems?, Option.map_some, List.append_nil]
      exact ⟨_, _, rfl⟩
  | cons item items ih =>
      obtain ⟨steps, rfl⟩ := Nat.exists_eq_add_one_of_ne_zero (Nat.ne_zero_of_lt enough)
      obtain ⟨reread, others⟩ := List.forall_mem_cons.mp all
      have written : separated (compactItems (item :: items)) =
          ',' :: (item.compact.toList ++ separated (compactItems items)) := rfl
      rw [written, List.length_cons, List.length_append] at enough
      rw [written, List.cons_append, List.append_assoc]
      exact yields_item reread (nextItem?_comma_compact item _ line column _) (by omega)
        fun value line column => ih others (by omega) line column (value :: done)

/-- An array is read when its items are. -/
theorem isReread_array (all : ∀ item ∈ items, item.IsReread) : IsReread (.array items) := by
  intro depth steps rest line column enough ends
  rw [toList_compact_array, List.length_cons, List.length_append, List.length_singleton] at enough
  obtain ⟨steps, rfl⟩ := Nat.exists_eq_add_one_of_ne_zero (n := steps) (by omega)
  rw [toList_compact_array, List.cons_append, List.append_assoc, List.singleton_append, reread?,
    Cursor.read_list]
  refine Cursor.yields_enter (by decide) fun line column => ?_
  obtain ⟨steps, rfl⟩ := Nat.exists_eq_add_one_of_ne_zero (n := steps) (by omega)
  cases items with
  | nil => exact ⟨_, _, rfl⟩
  | cons item items =>
      obtain ⟨reread, others⟩ := List.forall_mem_cons.mp all
      rw [compactItems, toList_intercalate_cons, List.length_append] at enough
      rw [compactItems, toList_intercalate_cons, List.append_assoc]
      change Cursor.Yields ((rereadItems? (depth + 1) (item :: items)).map
        fun read => array (List.reverse [] ++ read)) rest depth _
      exact yields_item reread (nextItem?_compact item _ line column _) (by omega)
        fun value line column => yields_items others (by omega) line column [value]

end Items

section Members

theorem toList_member_append (name : String) (value : Json) (tail : List Char) :
    (quoted name ++ ":" ++ value.compact).toList ++ tail =
      (quoted name).toList ++ ':' :: (value.compact.toList ++ tail) := by
  have colon : ":".toList = [':'] := by decide
  rw [String.toList_append, String.toList_append, colon]
  simp

theorem length_member (name : String) (value : Json) :
    (quoted name ++ ":" ++ value.compact).toList.length =
      (quoted name).toList.length + 1 + value.compact.toList.length := by
  have colon : ":".toList = [':'] := by decide
  rw [String.toList_append, String.toList_append, colon, List.length_append, List.length_append,
    List.length_singleton]

/-- A name stands where the first member of an object is looked for. -/
theorem nextMember?_quoted (name : String) (tail : List Char) (line column depth : ℕ) :
    Cursor.nextMember? ⟨(quoted name).toList ++ tail, line, column, depth⟩ true =
      .ok (some ⟨(quoted name).toList ++ tail, line, column, depth⟩) := by
  obtain ⟨others, quote⟩ := exists_toList_quoted name
  rw [quote]
  rfl

/-- A name stands after the comma where the next member of an object is looked for. -/
theorem nextMember?_comma_quoted (name : String) (tail : List Char) (line column depth : ℕ) :
    Cursor.nextMember? ⟨',' :: ((quoted name).toList ++ tail), line, column, depth⟩ false =
      .ok (some ⟨(quoted name).toList ++ tail, line, column + 1, depth⟩) := by
  obtain ⟨others, quote⟩ := exists_toList_quoted name
  rw [quote]
  rfl

variable {name : String} {value : Json} {members : List (String × Json)} {rest : List Char}
  {depth steps line column : ℕ}

/-- A member is read, and then those that are left. -/
theorem yields_member (reread : value.IsReread) {cursor : Cursor} {first : Bool}
    {done : List (String × Json)}
    (next : cursor.nextMember? first = .ok (some
      ⟨(quoted name).toList ++ ':' :: (value.compact.toList ++
        (separated (compactMembers members) ++ '\x7d' :: rest)), line, column, depth + 1⟩))
    (enough : 2 * value.compact.toList.length ≤ steps)
    (others : ∀ found line column, Cursor.Yields
      ((rereadMembers? (depth + 1) members).map
        fun read => ofMembers (((name, found) :: done).reverse ++ read))
      rest depth (Cursor.read steps (.members false ((name, found) :: done))
        ⟨separated (compactMembers members) ++ '\x7d' :: rest, line, column, depth + 1⟩)) :
    Cursor.Yields
      ((rereadMembers? (depth + 1) ((name, value) :: members)).map
        fun read => ofMembers (done.reverse ++ read))
      rest depth (cursor.read (steps + 1) (.members first done)) := by
  have ends := endsValue_separated (compactMembers members)
    (by simp : '\x7d' ∈ [',', ']', '\x7d']) rest
  have string : Cursor.Yields (some name) _ (depth + 1) _ :=
    Cursor.string_quoted (':' :: (value.compact.toList ++
      (separated (compactMembers members) ++ '\x7d' :: rest))) name line column
  obtain ⟨nameLine, nameColumn, string⟩ := string
  rw [rereadMembers?, Option.map_bind, Cursor.read, next]
  dsimp only [bind, Except.bind]
  rw [string]
  have read := reread (depth + 1) steps _ nameLine (nameColumn + 1) enough ends
  refine read.bind fun found line column => ?_
  simpa [Function.comp_def] using others found line column

/-- The members that are left are read up to the bracket after them. -/
theorem yields_members (all : ∀ member ∈ members, member.2.IsReread)
    (enough : 2 * (separated (compactMembers members)).length < steps) (line column : ℕ)
    (done : List (String × Json)) :
    Cursor.Yields
      ((rereadMembers? (depth + 1) members).map fun read => ofMembers (done.reverse ++ read)) rest
      depth (Cursor.read steps (.members false done)
        ⟨separated (compactMembers members) ++ '\x7d' :: rest, line, column, depth + 1⟩) := by
  induction members generalizing steps line column done with
  | nil =>
      obtain ⟨steps, rfl⟩ := Nat.exists_eq_add_one_of_ne_zero (Nat.ne_zero_of_lt enough)
      rw [rereadMembers?, Option.map_some, List.append_nil]
      exact ⟨_, _, rfl⟩
  | cons member members ih =>
      obtain ⟨name, value⟩ := member
      obtain ⟨steps, rfl⟩ := Nat.exists_eq_add_one_of_ne_zero (Nat.ne_zero_of_lt enough)
      obtain ⟨(reread : value.IsReread), others⟩ := List.forall_mem_cons.mp all
      have written : separated (compactMembers ((name, value) :: members)) =
          ',' :: ((quoted name ++ ":" ++ value.compact).toList ++
            separated (compactMembers members)) := rfl
      rw [written, List.length_cons, List.length_append, length_member] at enough
      rw [written, List.cons_append, List.append_assoc, toList_member_append]
      exact yields_member reread (nextMember?_comma_quoted name _ line column _) (by omega)
        fun found line column => ih others (by omega) line column ((name, found) :: done)

/-- An object is read when its members are. -/
theorem isReread_object (all : ∀ member ∈ members, member.2.IsReread) :
    IsReread (.object members) := by
  intro depth steps rest line column enough ends
  rw [toList_compact_object, List.length_cons, List.length_append, List.length_singleton] at enough
  obtain ⟨steps, rfl⟩ := Nat.exists_eq_add_one_of_ne_zero (n := steps) (by omega)
  rw [toList_compact_object, List.cons_append, List.append_assoc, List.singleton_append, reread?,
    Cursor.read_object]
  refine Cursor.yields_enter (by decide) fun line column => ?_
  obtain ⟨steps, rfl⟩ := Nat.exists_eq_add_one_of_ne_zero (n := steps) (by omega)
  cases members with
  | nil => exact ⟨_, _, rfl⟩
  | cons member members =>
      obtain ⟨name, value⟩ := member
      obtain ⟨(reread : value.IsReread), others⟩ := List.forall_mem_cons.mp all
      rw [compactMembers, toList_intercalate_cons, List.length_append, length_member] at enough
      rw [compactMembers, toList_intercalate_cons, List.append_assoc, toList_member_append]
      change Cursor.Yields ((rereadMembers? (depth + 1) ((name, value) :: members)).map
        fun read => ofMembers (List.reverse [] ++ read)) rest depth _
      exact yields_member reread (nextMember?_quoted name _ line column _) (by omega)
        fun found line column => yields_members others (by omega) line column [(name, found)]

end Members

/-- Every value is read in the same way wherever its text stands. -/
theorem isReread (value : Json) : value.IsReread := by
  match value with
  | .null => exact isReread_null
  | .boolean value => exact isReread_boolean value
  | .integer value => exact isReread_integer value
  | .decimal value => exact isReread_decimal value
  | .text value => exact isReread_text value
  | .array items => exact isReread_array fun item inside => isReread item
  | .object members => exact isReread_object fun member inside => isReread member.2
termination_by sizeOf value
decreasing_by
  · have smaller := List.sizeOf_lt_of_mem inside
    rw [array.sizeOf_spec]
    omega
  · have smaller := List.sizeOf_lt_of_mem inside
    obtain ⟨name, value⟩ := member
    rw [Prod.mk.sizeOf_spec] at smaller
    rw [object.sizeOf_spec]
    dsimp only
    omega

/-- What is read from the text of a value is what is read of it outside of all brackets. -/
theorem toOption_ofText_compact (value : Json) :
    (ofText value.compact).toOption = value.reread? 0 := by
  apply toOption_ofText
  have read := isReread value 0 (2 * value.compact.toList.length + 2) [] 1 0 (by omega)
    (by simp [EndsValue])
  rw [List.append_nil] at read
  exact read

/-- The text of a value is read as what is read of the value. -/
theorem ofText_compact_eq_ok_iff {value read : Json} :
    ofText value.compact = .ok read ↔ value.reread? 0 = some read := by
  rw [← toOption_ofText_compact]
  cases ofText value.compact with
  | ok found => simp [Except.toOption]
  | error fault => simp [Except.toOption]

end ArrivalRamp.Json
