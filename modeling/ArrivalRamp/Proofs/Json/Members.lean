import ArrivalRamp.Proofs.Json.Reading
import ArrivalRamp.Proofs.Ledger

/-!
The members of an object are a ledger of values by their names. An object that is read back from its
text is read back with one more text among its members, too.
-/

namespace ArrivalRamp.Json

variable {name : String} {value : Json} {members : List (String × Json)}

theorem insertMember_eq_insert (name : String) (value : Json) (members : List (String × Json)) :
    insertMember name value members = Ledger.insert name value members := by
  induction members with
  | nil => rfl
  | cons member members ih =>
      unfold Ledger.insert at ih ⊢
      rw [insertMember, Ledger.alter, ih]

theorem ofMembers_eq_ofList (members : List (String × Json)) :
    ofMembers members = .object (Ledger.ofList members) := by
  unfold ofMembers Ledger.ofList
  simp only [insertMember_eq_insert]

theorem isSorted_insertMember (sorted : Ledger.IsSorted members) (name : String) (value : Json) :
    Ledger.IsSorted (insertMember name value members) := by
  rw [insertMember_eq_insert]
  exact sorted.alter name _

/-- A member that is put in is the only one that changes. -/
theorem lookup_insertMember_of_ne {other : String} (different : other ≠ name) (value : Json)
    (members : List (String × Json)) :
    (insertMember name value members).lookup other = members.lookup other := by
  have apart : (other == name) = false := by simpa using different
  induction members with
  | nil => simp [insertMember, List.lookup_cons, apart]
  | cons member members ih =>
      obtain ⟨found, held⟩ := member
      unfold insertMember
      split_ifs with before same
      · rw [List.lookup_cons, apart]
      · subst same
        rw [List.lookup_cons, List.lookup_cons, apart]
      · rw [List.lookup_cons, List.lookup_cons, ih]

section Reading

variable {depth : ℕ} {read : List (String × Json)}

/-- The names of members are read as they are. -/
theorem map_fst_of_rereadMembers? (found : rereadMembers? depth members = some read) :
    read.map Prod.fst = members.map Prod.fst := by
  induction members generalizing read with
  | nil =>
      cases found
      rfl
  | cons member members ih =>
      obtain ⟨name, value⟩ := member
      obtain ⟨first, -, rest⟩ := Option.bind_eq_some_iff.mp found
      obtain ⟨others, later, rfl⟩ := Option.map_eq_some_iff.mp rest
      rw [List.map_cons, List.map_cons, ih later]

/-- Members are read back exactly when their values are. -/
theorem rereadMembers?_eq_self_iff : rereadMembers? depth members = some members ↔
    ∀ member ∈ members, reread? depth member.2 = some member.2 := by
  induction members with
  | nil => simp [rereadMembers?]
  | cons member members ih =>
      obtain ⟨name, value⟩ := member
      rw [List.forall_mem_cons, ← ih]
      simp [rereadMembers?, Option.bind_eq_some_iff, Option.map_eq_some_iff]

/-- An object is read back exactly when its members stand in the order of their names and their
values are read back inside it. -/
theorem reread?_object_eq_self_iff : reread? 0 (.object members) = some (.object members) ↔
    Ledger.IsSorted members ∧ ∀ member ∈ members, reread? 1 member.2 = some member.2 := by
  rw [reread?, if_pos (by decide), Option.map_eq_some_iff, ← rereadMembers?_eq_self_iff]
  constructor
  · rintro ⟨read, found, same⟩
    rw [ofMembers_eq_ofList, object.injEq] at same
    have sorted : Ledger.IsSorted members := same ▸ Ledger.isSorted_ofList read
    have sortedRead : Ledger.IsSorted read := by
      have names : (members.map Prod.fst).Pairwise (· < ·) := List.pairwise_map.mpr sorted
      rw [← map_fst_of_rereadMembers? found] at names
      exact List.pairwise_map.mp names
    rw [Ledger.ofList_eq_self sortedRead] at same
    exact ⟨sorted, same ▸ found⟩
  · rintro ⟨sorted, found⟩
    exact ⟨members, found, by rw [ofMembers_eq_ofList, Ledger.ofList_eq_self sorted]⟩

/-- The members of an object that is read back stand in the order of their names. -/
theorem isSorted_of_ofText (readable : ofText (compact (.object members)) = .ok (.object members)) :
    Ledger.IsSorted members :=
  (reread?_object_eq_self_iff.mp (ofText_compact_eq_ok_iff.mp readable)).1

/-- An object that is read back from its text is read back with one more text among its members. -/
theorem ofText_insertMember (readable : ofText (compact (.object members)) = .ok (.object members))
    (name text : String) :
    ofText (compact (.object (insertMember name (.text text) members))) =
      .ok (.object (insertMember name (.text text) members)) := by
  rw [ofText_compact_eq_ok_iff, reread?_object_eq_self_iff] at readable ⊢
  obtain ⟨sorted, found⟩ := readable
  refine ⟨isSorted_insertMember sorted name (.text text), ?_⟩
  rw [insertMember_eq_insert]
  exact Ledger.forall_mem_alter (fun _ value => reread? 1 value = some value) found
    (reread?_text 1 text) fun _ _ => reread?_text 1 text

end Reading

end ArrivalRamp.Json
