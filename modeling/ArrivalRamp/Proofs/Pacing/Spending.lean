import ArrivalRamp.Execution.Pacing
import Mathlib.Tactic

/-!
Spending a credit: how the loop that makes the arrivals comes to its end.
-/

namespace ArrivalRamp.Pacing

section Loop

variable {Number : Type} [Sub Number] [OfNat Number 1] [LE Number] [DecidableLE Number]

/-- Spending a credit ends: whole credits are spent for a number of arrivals, and no whole one is
left. -/
inductive SpendsTo : Number → ℕ → Number → Prop where
  | rest {credit : Number} (spent : ¬1 ≤ credit) : SpendsTo credit 0 credit
  | arrival {credit rest : Number} {arrivals : ℕ} (whole : 1 ≤ credit)
    (later : SpendsTo (credit - 1) arrivals rest) : SpendsTo credit (arrivals + 1) rest

variable {credit rest : Number} {steps before arrivals : ℕ}

theorem spend_of_spent (spent : ¬1 ≤ credit) (steps : ℕ) :
    spend steps before credit = (before, credit) := by
  cases steps with
  | zero => rfl
  | succ steps => exact if_neg spent

theorem spend_succ (whole : 1 ≤ credit) :
    spend (steps + 1) before credit = spend steps (before + 1) (credit - 1) :=
  if_pos whole

/-- Where spending ends, all further steps change nothing. -/
theorem SpendsTo.spend_eq (ends : SpendsTo credit arrivals rest) (enough : arrivals ≤ steps) :
    spend steps before credit = (before + arrivals, rest) := by
  induction ends generalizing steps before with
  | rest spent => exact spend_of_spent spent steps
  | arrival whole later ih =>
      obtain ⟨fewer, rfl⟩ := Nat.exists_eq_add_of_le enough
      rw [Nat.add_right_comm, spend_succ whole, ih (Nat.le_add_right _ _), Nat.add_assoc,
        Nat.add_comm 1]

/-- Spending ends in one way. -/
theorem SpendsTo.unique {others : ℕ} {other : Number} (ends : SpendsTo credit arrivals rest)
    (otherEnds : SpendsTo credit others other) : others = arrivals ∧ other = rest := by
  have first : spend (max arrivals others) 0 credit = (0 + arrivals, rest) :=
    ends.spend_eq (Nat.le_max_left _ _)
  have second : spend (max arrivals others) 0 credit = (0 + others, other) :=
    otherEnds.spend_eq (Nat.le_max_right _ _)
  simpa using second.symm.trans first

omit [DecidableLE Number] in
theorem SpendsTo.spent (ends : SpendsTo credit arrivals rest) : ¬1 ≤ rest := by
  induction ends with
  | rest spent => exact spent
  | arrival whole later ih => exact ih

/-- Steps that leave no whole credit have come to the end. -/
theorem exists_spendsTo (spent : ¬1 ≤ (spend steps before credit).2) :
    ∃ arrivals, SpendsTo credit arrivals (spend steps before credit).2 ∧
      (spend steps before credit).1 = before + arrivals := by
  induction steps generalizing before credit with
  | zero => exact ⟨0, .rest spent, rfl⟩
  | succ steps ih =>
      by_cases whole : 1 ≤ credit
      · rw [spend_succ whole] at spent ⊢
        obtain ⟨later, ends, counted⟩ := ih spent
        exact ⟨later + 1, .arrival whole ends, by omega⟩
      · rw [spend_of_spent whole]
        exact ⟨0, .rest whole, rfl⟩

/-- Spending ends where some number of steps leaves no whole credit. -/
theorem spendsTo_iff :
    SpendsTo credit arrivals rest ↔
      (∃ steps, spend steps 0 credit = (arrivals, rest)) ∧ ¬1 ≤ rest := by
  constructor
  · intro ends
    exact ⟨⟨arrivals, by rw [ends.spend_eq le_rfl, Nat.zero_add]⟩, ends.spent⟩
  · rintro ⟨⟨steps, counted⟩, spent⟩
    have left : ¬1 ≤ (spend steps 0 credit).2 := by rwa [counted]
    obtain ⟨made, ends, same⟩ := exists_spendsTo left
    rw [counted] at ends same
    obtain rfl : arrivals = made := by simpa using same
    exact ends

end Loop

section Exact

variable {Number : Type} [Field Number] [LinearOrder Number] [IsStrictOrderedRing Number]
  [FloorSemiring Number]

/-- An exact credit makes as many arrivals as it has whole credits. -/
theorem spendsTo_floor (credit : Number) :
    SpendsTo credit ⌊credit⌋₊ (credit - ⌊credit⌋₊) := by
  induction floorEq : ⌊credit⌋₊ generalizing credit with
  | zero =>
      rw [Nat.cast_zero, sub_zero]
      exact .rest (not_le.mpr (Nat.floor_eq_zero.mp floorEq))
  | succ whole ih =>
      have least : 1 ≤ credit := Nat.one_le_floor_iff credit |>.mp (by omega)
      have later := ih (credit - 1) (by rw [Nat.floor_sub_one, floorEq]; rfl)
      rw [sub_sub, add_comm, ← Nat.cast_succ] at later
      exact .arrival least later

end Exact

end ArrivalRamp.Pacing
