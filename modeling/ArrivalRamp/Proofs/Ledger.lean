import ArrivalRamp.Ledger
import Mathlib.Tactic
import Mathlib.Order.Defs.Unbundled

/-!
Changes of ledgers commute, and so do the merges of ledgers that change one entry after another.
-/

namespace ArrivalRamp.Ledger

variable {Key Entry : Type} [LT Key] [IsStrictTotalOrder Key (· < ·)] {key other : Key}

theorem not_lt_of_lt (ordered : key < other) : ¬other < key :=
  fun reversed => irrefl_of (· < ·) key (trans_of (· < ·) ordered reversed)

theorem ne_of_lt (ordered : key < other) : key ≠ other := by
  rintro rfl
  exact irrefl_of (· < ·) key ordered

variable [DecidableLT Key] [DecidableEq Key]

omit [IsStrictTotalOrder Key (· < ·)] in
theorem alter_of_lt (change : Option Entry → Entry) {found : Key} (entry : Entry)
    (entries : Ledger Key Entry) (below : key < found) :
    alter key change ((found, entry) :: entries) =
      (key, change none) :: (found, entry) :: entries := by
  rw [alter, if_pos below]

theorem alter_self (change : Option Entry → Entry) (key : Key) (entry : Entry)
    (entries : Ledger Key Entry) :
    alter key change ((key, entry) :: entries) = (key, change (some entry)) :: entries := by
  rw [alter, if_neg (irrefl_of (· < ·) key), if_pos rfl]

theorem alter_of_gt (change : Option Entry → Entry) {found : Key} (entry : Entry)
    (entries : Ledger Key Entry) (above : found < key) :
    alter key change ((found, entry) :: entries) = (found, entry) :: alter key change entries := by
  rw [alter, if_neg (not_lt_of_lt above), if_neg (ne_of_lt above).symm]

omit [LT Key] [IsStrictTotalOrder Key (· < ·)] [DecidableLT Key] in
theorem lookup_cons [BEq Key] [LawfulBEq Key] (first : Key × Entry) (ledger : Ledger Key Entry)
    (key : Key) :
    List.lookup key (first :: ledger) =
      if key = first.1 then some first.2 else ledger.lookup key := by
  split_ifs with same
  · rw [same, List.lookup_cons_self]
  · rw [List.lookup_cons, beq_false_of_ne same]

/-- Two changes of one key are one change. -/
theorem alter_alter (first second : Option Entry → Entry) (key : Key)
    (ledger : Ledger Key Entry) :
    (ledger.alter key first).alter key second =
      ledger.alter key fun found => second (some (first found)) := by
  induction ledger with
  | nil => rw [alter, alter, alter_self]
  | cons entry entries ih =>
      obtain ⟨found, entry⟩ := entry
      rcases trichotomous_of (· < ·) key found with below | rfl | above
      · rw [alter_of_lt _ _ _ below, alter_of_lt _ _ _ below, alter_self]
      · rw [alter_self, alter_self, alter_self]
      · rw [alter_of_gt _ _ _ above, alter_of_gt _ _ _ above, alter_of_gt _ _ _ above, ih]

/-- A change of a key before another one does not notice a change of the other. -/
theorem alter_comm_of_lt (first second : Option Entry → Entry) (ordered : key < other)
    (ledger : Ledger Key Entry) :
    (ledger.alter other second).alter key first = (ledger.alter key first).alter other second := by
  induction ledger with
  | nil => rw [alter, alter, alter_of_lt _ _ _ ordered, alter_of_gt _ _ _ ordered, alter]
  | cons entry entries ih =>
      obtain ⟨found, entry⟩ := entry
      rcases trichotomous_of (· < ·) key found with below | rfl | above
      · rw [alter_of_lt first _ _ below, alter_of_gt second _ _ ordered]
        rcases trichotomous_of (· < ·) other found with otherBelow | rfl | otherAbove
        · rw [alter_of_lt second _ _ otherBelow, alter_of_lt first _ _ ordered]
        · rw [alter_self, alter_of_lt first _ _ ordered]
        · rw [alter_of_gt second _ _ otherAbove, alter_of_lt first _ _ below]
      · rw [alter_self, alter_of_gt second _ _ ordered, alter_of_gt second _ _ ordered, alter_self]
      · have otherAbove := trans_of (· < ·) above ordered
        rw [alter_of_gt first _ _ above, alter_of_gt second _ _ otherAbove,
          alter_of_gt second _ _ otherAbove, alter_of_gt first _ _ above, ih]

/-- Two changes commute when they do so on the entry that they share. -/
theorem alter_comm (first second : Option Entry → Entry)
    (shared : key = other → ∀ found, first (some (second found)) = second (some (first found)))
    (ledger : Ledger Key Entry) :
    (ledger.alter other second).alter key first = (ledger.alter key first).alter other second := by
  rcases trichotomous_of (· < ·) key other with below | rfl | above
  · exact alter_comm_of_lt first second below ledger
  · rw [alter_alter, alter_alter]
    exact congrArg (alter key · ledger) (funext (shared rfl))
  · exact (alter_comm_of_lt second first above ledger).symm

/-- Entries of different keys are put in one by one in any order. -/
theorem foldl_insert_perm {entries others : List (Key × Entry)} (same : entries.Perm others)
    (unique : (entries.map Prod.fst).Nodup) (ledger : Ledger Key Entry) :
    entries.foldl (fun ledger entry => ledger.insert entry.1 entry.2) ledger =
      others.foldl (fun ledger entry => ledger.insert entry.1 entry.2) ledger := by
  refine same.foldl_eq' (fun first firstInside second secondInside ledger => ?_) ledger
  apply alter_comm
  intro sameKey _
  rw [List.inj_on_of_nodup_map unique secondInside firstInside sameKey]

omit [IsStrictTotalOrder Key (· < ·)] in
/-- What holds of all entries still does after a change that makes it hold. -/
theorem forall_mem_alter (holds : Key → Entry → Prop) {change : Option Entry → Entry}
    {ledger : Ledger Key Entry} (all : ∀ entry ∈ ledger, holds entry.1 entry.2)
    (made : holds key (change none))
    (changed : ∀ entry, holds key entry → holds key (change (some entry))) :
    ∀ entry ∈ ledger.alter key change, holds entry.1 entry.2 := by
  induction ledger with
  | nil =>
      intro entry inside
      rw [alter, List.mem_singleton] at inside
      rwa [inside]
  | cons first entries ih =>
      obtain ⟨found, value⟩ := first
      rw [List.forall_mem_cons] at all
      obtain ⟨firstHolds, restHold⟩ := all
      unfold alter
      split_ifs with below same
      · exact List.forall_mem_cons.mpr ⟨made, List.forall_mem_cons.mpr ⟨firstHolds, restHold⟩⟩
      · subst same
        exact List.forall_mem_cons.mpr ⟨changed value firstHolds, restHold⟩
      · exact List.forall_mem_cons.mpr ⟨firstHolds, ih restHold⟩

/-- The entries of a ledger change another one, each at its key. -/
def merge (combine : Entry → Option Entry → Entry) (entries ledger : Ledger Key Entry) :
    Ledger Key Entry :=
  entries.foldl (fun merged entry => merged.alter entry.1 (combine entry.2)) ledger

variable (combine : Entry → Option Entry → Entry)

/-- A change commutes with a merge when it does so with each entry of its key. -/
theorem merge_alter (change : Option Entry → Entry) (entries ledger : Ledger Key Entry)
    (shared : ∀ entry, (key, entry) ∈ entries → ∀ found,
      change (some (combine entry found)) = combine entry (some (change found))) :
    merge combine entries (ledger.alter key change) =
      (merge combine entries ledger).alter key change := by
  induction entries generalizing ledger with
  | nil => rfl
  | cons first entries ih =>
      obtain ⟨found, value⟩ := first
      change merge combine entries ((ledger.alter key change).alter found (combine value)) =
        (merge combine entries (ledger.alter found (combine value))).alter key change
      rw [← alter_comm change (combine value), ih]
      · exact fun entry inside => shared entry (List.mem_cons_of_mem _ inside)
      · rintro rfl
        exact shared value List.mem_cons_self

/-- A change of the entries that are merged is a change of the result, when both changes agree with
the way in which entries are combined. -/
theorem merge_alter_left (inner outer : Option Entry → Entry) (entries ledger : Ledger Key Entry)
    (made : ∀ found, combine (inner none) found = outer found)
    (changed : ∀ entry, (key, entry) ∈ entries → ∀ found,
      combine (inner (some entry)) found = outer (some (combine entry found)))
    (shared : ∀ entry, (key, entry) ∈ entries → ∀ found,
      outer (some (combine entry found)) = combine entry (some (outer found))) :
    merge combine (entries.alter key inner) ledger =
      (merge combine entries ledger).alter key outer := by
  induction entries generalizing ledger with
  | nil =>
      change ledger.alter key (combine (inner none)) = ledger.alter key outer
      rw [funext made]
  | cons first entries ih =>
      obtain ⟨found, value⟩ := first
      have rest : ∀ entry, (key, entry) ∈ entries → (key, entry) ∈ (found, value) :: entries :=
        fun entry inside => List.mem_cons_of_mem _ inside
      rcases trichotomous_of (· < ·) key found with below | rfl | above
      · rw [alter_of_lt _ _ _ below]
        change merge combine ((found, value) :: entries)
          (ledger.alter key (combine (inner none))) = _
        rw [funext made, merge_alter combine outer _ _ shared]
      · rw [alter_self]
        change merge combine entries (ledger.alter key (combine (inner (some value)))) =
          (merge combine entries (ledger.alter key (combine value))).alter key outer
        rw [← merge_alter combine outer _ _ fun entry inside => shared entry (rest entry inside),
          alter_alter, funext (changed value List.mem_cons_self)]
      · rw [alter_of_gt _ _ _ above]
        change merge combine (alter key inner entries) (ledger.alter found (combine value)) =
          (merge combine entries (ledger.alter found (combine value))).alter key outer
        exact ih _ (fun entry inside => changed entry (rest entry inside))
          (fun entry inside => shared entry (rest entry inside))

/-- The entries stand in the order of their keys. -/
def IsSorted (ledger : Ledger Key Entry) : Prop :=
  ledger.Pairwise fun earlier later => earlier.1 < later.1

theorem IsSorted.alter {ledger : Ledger Key Entry} (sorted : ledger.IsSorted) (key : Key)
    (change : Option Entry → Entry) : (ledger.alter key change).IsSorted := by
  induction ledger with
  | nil => exact List.pairwise_singleton _ _
  | cons first entries ih =>
      obtain ⟨found, value⟩ := first
      obtain ⟨above, rest⟩ := List.pairwise_cons.mp sorted
      rcases trichotomous_of (· < ·) key found with below | rfl | after
      · rw [alter_of_lt _ _ _ below]
        refine List.pairwise_cons.mpr ⟨?_, sorted⟩
        exact List.forall_mem_cons.mpr
          ⟨below, fun entry inside => trans_of (· < ·) below (above entry inside)⟩
      · rw [alter_self]
        exact List.pairwise_cons.mpr ⟨above, rest⟩
      · rw [alter_of_gt _ _ _ after]
        refine List.pairwise_cons.mpr ⟨?_, ih rest⟩
        exact forall_mem_alter (fun key _ => found < key) above after fun _ _ => after

theorem IsSorted.merge {ledger : Ledger Key Entry} (sorted : ledger.IsSorted)
    (entries : Ledger Key Entry) : (merge combine entries ledger).IsSorted :=
  entries.foldlRecOn _ sorted fun _ kept entry _ => kept.alter entry.1 (combine entry.2)

theorem isSorted_ofList (entries : List (Key × Entry)) : (ofList entries).IsSorted :=
  entries.foldlRecOn _ List.Pairwise.nil fun _ kept entry _ => kept.alter entry.1 _

omit [IsStrictTotalOrder Key (· < ·)] in
/-- A change of a key that is missing adds an entry. -/
theorem alter_perm {ledger : Ledger Key Entry} (absent : key ∉ ledger.map Prod.fst)
    (change : Option Entry → Entry) :
    (ledger.alter key change).Perm ((key, change none) :: ledger) := by
  induction ledger with
  | nil => exact List.Perm.refl _
  | cons first entries ih =>
      obtain ⟨found, entry⟩ := first
      rw [List.map_cons, List.mem_cons, not_or] at absent
      unfold alter
      split_ifs with below same
      · exact List.Perm.refl _
      · exact absurd same absent.1
      · exact ((ih absent.2).cons _).trans (List.Perm.swap _ _ _)

omit [IsStrictTotalOrder Key (· < ·)] in
theorem foldl_insert_perm_append {entries : List (Key × Entry)} (ledger : Ledger Key Entry)
    (unique : ((entries ++ ledger).map Prod.fst).Nodup) :
    (entries.foldl (fun ledger entry => ledger.insert entry.1 entry.2) ledger).Perm
      (entries ++ ledger) := by
  induction entries generalizing ledger with
  | nil => exact List.Perm.refl _
  | cons first entries ih =>
      have absent : first.1 ∉ ledger.map Prod.fst := by
        rw [List.cons_append, List.map_cons, List.nodup_cons, List.map_append, List.mem_append,
          not_or] at unique
        exact unique.1.2
      have moved : (entries ++ ledger.insert first.1 first.2).Perm (first :: (entries ++ ledger)) :=
        ((alter_perm absent _).append_left entries).trans List.perm_middle
      exact (ih _ ((moved.map Prod.fst).nodup_iff.mpr unique)).trans moved

omit [IsStrictTotalOrder Key (· < ·)] in
/-- Entries of different keys are all in the ledger that they make. -/
theorem ofList_perm {entries : List (Key × Entry)} (unique : (entries.map Prod.fst).Nodup) :
    (ofList entries).Perm entries := by
  have put : (ofList entries).Perm (entries ++ []) :=
    foldl_insert_perm_append [] (by rwa [List.append_nil])
  rwa [List.append_nil] at put

/-- Entries in the order of their keys are the ledger that they make. -/
theorem ofList_eq_self {entries : List (Key × Entry)} (sorted : IsSorted entries) :
    ofList entries = entries := by
  have unique : (entries.map Prod.fst).Nodup :=
    List.pairwise_map.mpr (sorted.imp fun ordered => ne_of_lt ordered)
  refine List.Perm.eq_of_pairwise (fun _ _ _ _ low high => ?_) (isSorted_ofList entries) sorted
    (ofList_perm unique)
  exact absurd high (not_lt_of_lt low)

section Measured

omit [IsStrictTotalOrder Key (· < ·)]

/-- What the entries of a ledger measure together. -/
def measured (measure : Key → Entry → ℕ) (ledger : Ledger Key Entry) : ℕ :=
  (ledger.map fun entry => measure entry.1 entry.2).sum

variable (measure : Key → Entry → ℕ)

/-- A change adds to a ledger what it adds to the entry of its key. -/
theorem measured_alter {key : Key} {change : Option Entry → Entry} {gain : ℕ}
    (made : measure key (change none) = gain)
    (changed : ∀ entry, measure key (change (some entry)) = measure key entry + gain)
    (ledger : Ledger Key Entry) :
    measured measure (ledger.alter key change) = measured measure ledger + gain := by
  induction ledger with
  | nil => simp [measured, alter, made]
  | cons first entries ih =>
      obtain ⟨found, value⟩ := first
      unfold measured at ih ⊢
      unfold alter
      split_ifs with below same
      · simp only [List.map_cons, List.sum_cons, made]
        omega
      · subst same
        simp only [List.map_cons, List.sum_cons, changed]
        omega
      · simp only [List.map_cons, List.sum_cons, ih]
        omega

/-- A merge adds what is merged. -/
theorem measured_merge (made : ∀ key value, measure key (combine value none) = measure key value)
    (changed : ∀ key value found,
      measure key (combine value (some found)) = measure key found + measure key value)
    (entries ledger : Ledger Key Entry) :
    measured measure (merge combine entries ledger) =
      measured measure ledger + measured measure entries := by
  induction entries generalizing ledger with
  | nil => rfl
  | cons first entries ih =>
      obtain ⟨key, value⟩ := first
      have rest := ih (ledger.alter key (combine value))
      rw [measured_alter measure (made key value) (changed key value)] at rest
      exact rest.trans (Nat.add_assoc _ _ _)

/-- What the entries of one key measure. -/
def measuredAt (key : Key) (measure : Entry → ℕ) (ledger : Ledger Key Entry) : ℕ :=
  ledger.measured fun found entry => if found = key then measure entry else 0

section MeasuredAt

variable {key : Key} {measure : Entry → ℕ}

omit [LT Key] [DecidableLT Key]

theorem measuredAt_cons (first : Key × Entry) (entries : Ledger Key Entry) :
    measuredAt key measure (first :: entries) =
      (if first.1 = key then measure first.2 else 0) + measuredAt key measure entries :=
  rfl

theorem measuredAt_eq_zero {ledger : Ledger Key Entry} (absent : ∀ entry ∈ ledger, entry.1 ≠ key) :
    ledger.measuredAt key measure = 0 := by
  induction ledger with
  | nil => rfl
  | cons first entries ih =>
      rw [List.forall_mem_cons] at absent
      rw [measuredAt_cons, if_neg absent.1, ih absent.2]

theorem exists_mem_of_measuredAt_pos {ledger : Ledger Key Entry}
    (positive : 0 < ledger.measuredAt key measure) : ∃ entry, (key, entry) ∈ ledger := by
  by_contra absent
  rw [measuredAt_eq_zero] at positive
  · exact absurd positive (Nat.lt_irrefl 0)
  · rintro ⟨_, entry⟩ inside rfl
    exact absent ⟨entry, inside⟩

/-- The entries of a key measure what its only entry does. -/
theorem measuredAt_of_mem [LT Key] [IsStrictTotalOrder Key (· < ·)] {ledger : Ledger Key Entry}
    (sorted : ledger.IsSorted) {entry : Entry} (inside : (key, entry) ∈ ledger) :
    ledger.measuredAt key measure = measure entry := by
  induction ledger with
  | nil => cases inside
  | cons first entries ih =>
      obtain ⟨above, rest⟩ := List.pairwise_cons.mp sorted
      rw [measuredAt_cons]
      rcases List.mem_cons.mp inside with rfl | later
      · rw [if_pos rfl, measuredAt_eq_zero fun other inside => (ne_of_lt (above other inside)).symm,
          Nat.add_zero]
      · rw [if_neg (ne_of_lt (above _ later)), ih rest later, Nat.zero_add]

end MeasuredAt

/-- A change adds to the entries of its key what it adds to one of them. -/
theorem measuredAt_alter {key altered : Key} {measure : Entry → ℕ} {change : Option Entry → Entry}
    {gain : ℕ} (made : measure (change none) = gain)
    (changed : ∀ entry, measure (change (some entry)) = measure entry + gain)
    (ledger : Ledger Key Entry) :
    (ledger.alter altered change).measuredAt key measure =
      ledger.measuredAt key measure + if altered = key then gain else 0 := by
  apply measured_alter
  · rw [made]
  · intro entry
    rw [changed]
    split_ifs <;> rfl

theorem measuredAt_merge {key : Key} {measure : Entry → ℕ}
    (made : ∀ value, measure (combine value none) = measure value)
    (changed : ∀ value found,
      measure (combine value (some found)) = measure found + measure value)
    (entries ledger : Ledger Key Entry) :
    (merge combine entries ledger).measuredAt key measure =
      ledger.measuredAt key measure + entries.measuredAt key measure := by
  apply measured_merge
  · intro found value
    rw [made]
  · intro found value entry
    rw [changed]
    split_ifs <;> rfl

/-- What holds of the entries of two ledgers holds of their merge, when it does of entries that are
combined. -/
theorem forall_mem_merge (holds : Key → Entry → Prop) {entries ledger : Ledger Key Entry}
    (all : ∀ entry ∈ ledger, holds entry.1 entry.2)
    (merged : ∀ entry ∈ entries, holds entry.1 entry.2)
    (made : ∀ key value, holds key value → holds key (combine value none))
    (changed : ∀ key value found, holds key value → holds key found →
      holds key (combine value (some found))) :
    ∀ entry ∈ merge combine entries ledger, holds entry.1 entry.2 := by
  induction entries generalizing ledger with
  | nil => exact all
  | cons first entries ih =>
      rw [List.forall_mem_cons] at merged
      refine ih (forall_mem_alter holds all (made _ _ merged.1) ?_) merged.2
      exact fun found => changed _ _ found merged.1

end Measured

/-- Counts of two keys grow in either order. -/
theorem count_comm (left right : Key) (leftAmount rightAmount : ℕ) (ledger : Ledger Key ℕ) :
    (ledger.count right rightAmount).count left leftAmount =
      (ledger.count left leftAmount).count right rightAmount := by
  apply alter_comm
  intro _ found
  simp only [Option.getD_some]
  omega

/-- The counts of both ledgers together. -/
def sum (entries ledger : Ledger Key ℕ) : Ledger Key ℕ :=
  entries.foldl (fun counts entry => counts.count entry.1 entry.2) ledger

/-- Counts grow before or after the counts of another ledger are added to them. -/
theorem sum_count (key : Key) (amount : ℕ) (entries ledger : Ledger Key ℕ) :
    sum entries (ledger.count key amount) = (sum entries ledger).count key amount := by
  apply merge_alter fun value found => found.getD 0 + value
  intro value _ found
  simp only [Option.getD_some]
  omega

/-- A count that grows before it is added to another one grows the sum. -/
theorem sum_count_left (key : Key) (amount : ℕ) (entries ledger : Ledger Key ℕ) :
    sum (entries.count key amount) ledger = (sum entries ledger).count key amount := by
  apply merge_alter_left fun value found => found.getD 0 + value
  · intro found
    simp only [Option.getD_none]
    omega
  · intro value _ found
    simp only [Option.getD_some]
    omega
  · intro value _ found
    simp only [Option.getD_some]
    omega

/-- The count of a key grows by one, if there is a key. -/
def countOne (key : Option Key) (ledger : Ledger Key ℕ) : Ledger Key ℕ :=
  key.elim ledger fun key => ledger.count key 1

theorem countOne_comm (first second : Option Key) (ledger : Ledger Key ℕ) :
    countOne first (countOne second ledger) = countOne second (countOne first ledger) := by
  cases first with
  | none => rfl
  | some first =>
      cases second with
      | none => rfl
      | some second => exact count_comm first second 1 1 ledger

theorem sum_countOne (key : Option Key) (entries ledger : Ledger Key ℕ) :
    sum entries (countOne key ledger) = countOne key (sum entries ledger) := by
  cases key with
  | none => rfl
  | some key => exact sum_count key 1 entries ledger

theorem sum_countOne_left (key : Option Key) (entries ledger : Ledger Key ℕ) :
    sum (countOne key entries) ledger = countOne key (sum entries ledger) := by
  cases key with
  | none => rfl
  | some key => exact sum_count_left key 1 entries ledger

end ArrivalRamp.Ledger
