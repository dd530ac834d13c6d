/-!
Ledgers: entries in the order of their keys, at most one for each key.
-/

namespace ArrivalRamp

/-- Entries in the order of their keys. -/
abbrev Ledger (Key Entry : Type) := List (Key × Entry)

namespace Ledger

variable {Key Entry : Type} [LT Key] [DecidableLT Key] [DecidableEq Key]

/-- The entry of a key is changed, or made at its place when there is none. -/
def alter (key : Key) (change : Option Entry → Entry) : Ledger Key Entry → Ledger Key Entry
  | [] => [(key, change none)]
  | (found, entry) :: entries =>
    if key < found then (key, change none) :: (found, entry) :: entries
    else if key = found then (key, change (some entry)) :: entries
    else (found, entry) :: alter key change entries

/-- The entry of a key is replaced. -/
def insert (key : Key) (entry : Entry) (ledger : Ledger Key Entry) : Ledger Key Entry :=
  ledger.alter key fun _ => entry

/-- A count of a key grows by an amount. -/
def count (key : Key) (amount : Nat) (ledger : Ledger Key Nat) : Ledger Key Nat :=
  ledger.alter key fun found => found.getD 0 + amount

/-- The entries of a list, of which the last of one key counts. -/
def ofList (entries : List (Key × Entry)) : Ledger Key Entry :=
  entries.foldl (fun ledger entry => ledger.insert entry.1 entry.2) []

/-- The sum of all counts. -/
def total (ledger : Ledger Key Nat) : Nat :=
  ledger.foldr (fun entry sum => entry.2 + sum) 0

omit [LT Key] [DecidableLT Key] [DecidableEq Key] in
@[simp]
theorem total_cons (key : Key) (amount : Nat) (ledger : Ledger Key Nat) :
    total ((key, amount) :: ledger) = amount + total ledger := by
  simp [total]

@[simp]
theorem total_count (key : Key) (amount : Nat) (ledger : Ledger Key Nat) :
    (ledger.count key amount).total = ledger.total + amount := by
  induction ledger with
  | nil => simp [count, alter, total]
  | cons entry entries step =>
    obtain ⟨found, value⟩ := entry
    unfold count alter
    split
    · simp [Nat.add_comm]
    · split
      · simp; omega
      · have inner := step
        unfold count at inner
        simp [inner]; omega

end Ledger

end ArrivalRamp
