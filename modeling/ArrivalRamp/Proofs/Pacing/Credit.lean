import ArrivalRamp.Proofs.Binary64.Operations
import ArrivalRamp.Proofs.Binary64.Spacing
import ArrivalRamp.Proofs.Pacing.Spending

/-!
Spending a machine credit. Up to the greatest credit, taking one away is exact. Beyond it, taking
one away takes nothing or at least two.
-/

namespace ArrivalRamp.Pacing

open Binary64 Float.Model Float.Model.UnpackedFloat

/-- Spending a machine credit ends, makes an arrival for each whole credit, and leaves a rest
between zero and one. -/
def SpendsExactly (credit : Float) : Prop :=
  ∃ rest, SpendsTo credit ⌊rational credit⌋₊ rest ∧ 0.0 ≤ rest ∧ rest < 1

section Finite

variable {credit : Float} (finite : credit.isFinite)

include finite

theorem one_le_iff : 1 ≤ credit ↔ 1 ≤ rational credit := by
  rw [rational_le_iff isFinite_one finite, rational_one]

/-- Taking one away from a whole credit is rounded. -/
theorem rational_sub_one (whole : 1 ≤ credit) :
    (credit - 1).isFinite ∧ rational (credit - 1) = nearest (rational credit - 1) := by
  have least := (one_le_iff finite).mp whole
  have nonneg : 0 ≤ rational credit - 1 := by linarith
  have above : rounded (rational credit - 1) ≤ rational credit :=
    (rounded_mono (by linarith)).trans_eq (rounded_rational finite)
  have small : |rounded (rational credit - 1)| < bound := by
    rw [abs_of_nonneg (rounded_nonneg nonneg)]
    exact above.trans_lt ((le_abs_self _).trans_lt (abs_rational_lt_bound finite))
  have taken := rational_sub finite isFinite_one (by rwa [rational_one])
  rwa [rational_one, rounded_of_nonneg nonneg] at taken

theorem nearest_rational (nonneg : 0 ≤ rational credit) :
    nearest (rational credit) = rational credit := by
  rw [← rounded_of_nonneg nonneg, rounded_rational finite]

end Finite

/-- Up to the greatest credit, spending ends with as many arrivals as there are whole credits. -/
theorem exists_spendsTo_floor {credit : Float} (finite : credit.isFinite)
    (nonneg : 0 ≤ rational credit) (small : rational credit ≤ 2 ^ 53) :
    ∃ rest, SpendsTo credit ⌊rational credit⌋₊ rest ∧ rest.isFinite ∧
      rational rest ∈ Set.Ico 0 1 := by
  induction floorEq : ⌊rational credit⌋₊ generalizing credit with
  | zero =>
      have below : rational credit < 1 := Nat.floor_eq_zero.mp floorEq
      refine ⟨credit, .rest ?_, finite, nonneg, below⟩
      rw [one_le_iff finite]
      exact not_le.mpr below
  | succ whole ih =>
      have least : 1 ≤ rational credit := (Nat.one_le_floor_iff _).mp (by omega)
      have large := (one_le_iff finite).mpr least
      obtain ⟨takenFinite, taken⟩ := rational_sub_one finite large
      rw [nearest_sub_one (nearest_rational finite nonneg) least small] at taken
      obtain ⟨rest, ends, kept⟩ := ih takenFinite (by linarith) (by linarith)
        (by rw [taken, Nat.floor_sub_one, floorEq]; rfl)
      exact ⟨rest, .arrival large ends, kept⟩

/-- A credit that does not fall when one is taken away is never spent. -/
theorem not_spendsTo_of_stuck {credit rest : Float} {arrivals : ℕ} (finite : credit.isFinite)
    (whole : 1 ≤ rational credit) (stuck : nearest (rational credit - 1) = rational credit) :
    ¬SpendsTo credit arrivals rest := by
  intro ends
  induction ends with
  | rest spent => exact spent ((one_le_iff finite).mpr whole)
  | arrival large later ih =>
      obtain ⟨takenFinite, taken⟩ := rational_sub_one finite large
      rw [stuck] at taken
      exact ih takenFinite (taken ▸ whole) (taken ▸ stuck)

/-- Spending makes no more arrivals than there are whole credits, and fewer beyond the greatest
credit. -/
theorem SpendsTo.arrivals_le {credit rest : Float} {arrivals : ℕ} (finite : credit.isFinite)
    (nonneg : 0 ≤ rational credit) (ends : SpendsTo credit arrivals rest) :
    arrivals ≤ ⌊rational credit⌋₊ ∧
      (2 ^ 53 < rational credit → arrivals < ⌊rational credit⌋₊) := by
  induction ends with
  | rest spent =>
      refine ⟨Nat.zero_le _, fun great => ?_⟩
      exact Nat.floor_pos.mpr (by linarith)
  | @arrival credit rest arrivals large later ih =>
      have least := (one_le_iff finite).mp large
      have kept := nearest_rational finite nonneg
      obtain ⟨takenFinite, taken⟩ := rational_sub_one finite large
      by_cases great : 2 ^ 53 < rational credit
      · obtain ⟨reached, same | below⟩ := nearest_sub_one_of_great kept great
        · exact absurd (.arrival large later) (not_spendsTo_of_stuck finite least same)
        · have fewer := (ih takenFinite (by rw [taken]; linarith)).1
          rw [taken] at fewer
          have lost : ⌊nearest (rational credit - 1)⌋₊ + 2 ≤ ⌊rational credit⌋₊ := by
            rw [← Nat.floor_add_ofNat (by linarith)]
            exact Nat.floor_le_floor (by linarith)
          omega
      · have fewer := (ih takenFinite (by rw [taken]; exact nearest_nonneg (by linarith))).1
        rw [taken, nearest_sub_one kept least (not_lt.mp great), Nat.floor_sub_one] at fewer
        have whole := Nat.one_le_floor_iff _ |>.mpr least
        exact ⟨by omega, fun exceeds => absurd exceeds great⟩

/-- What spending leaves of a finite credit is between zero and one, however many arrivals it
makes. -/
theorem SpendsTo.rest_mem {credit rest : Float} {arrivals : ℕ} (finite : credit.isFinite)
    (nonneg : 0 ≤ rational credit) (ends : SpendsTo credit arrivals rest) :
    rest.isFinite ∧ rational rest ∈ Set.Ico 0 1 := by
  induction ends with
  | rest spent =>
      rw [one_le_iff finite, not_le] at spent
      exact ⟨finite, nonneg, spent⟩
  | arrival large later ih =>
      have least := (one_le_iff finite).mp large
      obtain ⟨takenFinite, taken⟩ := rational_sub_one finite large
      exact ih takenFinite (by rw [taken]; exact nearest_nonneg (by linarith))

section Infinite

variable {credit : Float}

/-- An infinite credit stays infinite when one is taken away. -/
theorem infinite_sub_one (infinite : credit.toModel.unpack = .infinity .positive) :
    (credit - 1).toModel.unpack = .infinity .positive := by
  change (Float.Model.pack (UnpackedFloat.sub Format.binary64 credit.toModel.unpack
    (1 : Float).toModel.unpack)).unpack = _
  rw [infinite]
  rfl

theorem one_le_of_infinite (infinite : credit.toModel.unpack = .infinity .positive) :
    1 ≤ credit := by
  rw [le_iff_parts, infinite]
  rfl

/-- An infinite credit is never spent. -/
theorem not_spendsTo_of_infinite {rest : Float} {arrivals : ℕ}
    (infinite : credit.toModel.unpack = .infinity .positive) : ¬SpendsTo credit arrivals rest := by
  intro ends
  induction ends with
  | rest spent => exact spent (one_le_of_infinite infinite)
  | arrival large later ih => exact ih (infinite_sub_one infinite)

end Infinite

theorem rational_greatestCredit : rational (Word.toFloat greatestCredit) = 2 ^ 53 := by
  rw [rational_toFloat_of_fits (show greatestCredit ≤ 2 ^ 53 by decide)]
  norm_num [greatestCredit]

section Greatest

variable {credit : Float} (nonneg : 0.0 ≤ credit)

include nonneg

theorem isFinite_of_le_greatestCredit (small : credit ≤ Word.toFloat greatestCredit) :
    credit.isFinite := by
  by_contra infinite
  rw [le_iff_parts, infinite_of_zero_le nonneg infinite] at small
  exact absurd small (by decide)

theorem le_greatestCredit_iff :
    credit ≤ Word.toFloat greatestCredit ↔ credit.isFinite ∧ rational credit ≤ 2 ^ 53 := by
  have bounded : (Word.toFloat greatestCredit).isFinite := isFinite_toFloat (by decide)
  constructor
  · intro small
    have finite := isFinite_of_le_greatestCredit nonneg small
    rw [rational_le_iff finite bounded, rational_greatestCredit] at small
    exact ⟨finite, small⟩
  · rintro ⟨finite, small⟩
    rwa [rational_le_iff finite bounded, rational_greatestCredit]

/-- Beyond the greatest credit, spending does not end with an arrival for each whole credit. -/
theorem SpendsTo.lt_floor {rest : Float} {arrivals : ℕ} (ends : SpendsTo credit arrivals rest)
    (great : ¬credit ≤ Word.toFloat greatestCredit) : arrivals < ⌊rational credit⌋₊ := by
  by_cases finite : credit.isFinite
  · rw [le_greatestCredit_iff nonneg, not_and, not_le] at great
    exact (ends.arrivals_le finite ((zero_le_iff_rational finite).mp nonneg)).2 (great finite)
  · exact absurd ends (not_spendsTo_of_infinite (infinite_of_zero_le nonneg finite))

/-- A credit is spent as it should be where it is not beyond the greatest credit, and nowhere
else. -/
theorem spendsExactly_iff : SpendsExactly credit ↔ credit ≤ Word.toFloat greatestCredit := by
  constructor
  · rintro ⟨rest, ends, -⟩
    by_contra great
    exact lt_irrefl _ (ends.lt_floor nonneg great)
  · intro small
    obtain ⟨finite, limited⟩ := (le_greatestCredit_iff nonneg).mp small
    obtain ⟨rest, ends, restFinite, restNonneg, below⟩ :=
      exists_spendsTo_floor finite ((zero_le_iff_rational finite).mp nonneg) limited
    refine ⟨rest, ends, (zero_le_iff_rational restFinite).mpr restNonneg, ?_⟩
    rwa [rational_lt_iff restFinite isFinite_one, rational_one]

theorem floor_le_greatestCredit (small : credit ≤ Word.toFloat greatestCredit) :
    ⌊rational credit⌋₊ ≤ greatestCredit := by
  have limited := ((le_greatestCredit_iff nonneg).mp small).2
  apply Nat.floor_le_of_le
  norm_num [greatestCredit] at limited ⊢
  exact limited

end Greatest

theorem zero_le_sub_one {credit : Float} (nonneg : 0.0 ≤ credit) (whole : 1 ≤ credit) :
    0.0 ≤ credit - 1 := by
  by_cases finite : credit.isFinite
  · have least := (one_le_iff finite).mp whole
    obtain ⟨takenFinite, taken⟩ := rational_sub_one finite whole
    rw [zero_le_iff_rational takenFinite, taken]
    exact nearest_nonneg (by linarith)
  · rw [zero_le_iff, infinite_sub_one (infinite_of_zero_le nonneg finite)]
    rfl

/-- Spending never leaves a credit below zero, wherever it stops. -/
theorem zero_le_spend {credit : Float} (nonneg : 0.0 ≤ credit) (steps before : ℕ) :
    0.0 ≤ (spend steps before credit).2 := by
  induction steps generalizing before credit with
  | zero => exact nonneg
  | succ steps ih =>
      by_cases whole : 1 ≤ credit
      · rw [spend_succ whole]
        exact ih (zero_le_sub_one nonneg whole) _
      · rw [spend_of_spent whole]
        exact nonneg

end ArrivalRamp.Pacing
