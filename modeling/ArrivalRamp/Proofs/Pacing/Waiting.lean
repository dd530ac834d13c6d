import ArrivalRamp.Proofs.Binary64.NotANumber
import ArrivalRamp.Proofs.Duration.Seconds
import ArrivalRamp.Proofs.Pacing.Credit

/-!
Operations of the pacing that can go wrong: a quotient by zero, a number moved between two others
that are out of order, and a span of a number of seconds that no clock can wait for. None of them
does as long as the credit is between zero and one, the rate is finite and not below zero, and the
unit of time is at least a millisecond.
-/

namespace ArrivalRamp

open Binary64

namespace Span

/-- The span of a number of seconds, unless that is below zero, is no number, or is more than a
count of seconds can hold. -/
def ofSeconds? (seconds : Float) : Option Span :=
  if 0.0 ≤ seconds ∧ seconds < 18446744073709551616.0 then some (.ofSeconds seconds) else none

/-- Up to two seconds there is a span. -/
theorem ofSeconds?_of_le_two {seconds : Float} (finite : seconds.isFinite)
    (nonneg : 0.0 ≤ seconds) (short : rational seconds ≤ 2) :
    ofSeconds? seconds = some (.ofSeconds seconds) := by
  have greatest : (18446744073709551616.0 : Float) = Word.toFloat Word.maxCount := by decide
  have above := nearest_natCast_mono (show 3 ≤ Word.maxCount by decide)
  rw [nearest_natCast (by decide), Nat.cast_ofNat] at above
  have below : seconds < 18446744073709551616.0 := by
    rw [greatest, rational_lt_iff finite (isFinite_toFloat le_rfl), rational_toFloat le_rfl]
    linarith
  exact if_pos ⟨nonneg, below⟩

end Span

namespace Pacing

/-- A quotient, unless it is one by zero. -/
def quotient? (dividend divisor : Float) : Option Float :=
  if divisor == 0.0 then none else some (dividend / divisor)

/-- A number moved between two others, unless these are out of order. -/
def between? (least most number : Float) : Option Float :=
  if least ≤ most then
    some (if number < least then least else if most < number then most else number)
  else none

/-- The credit after some time at a rate, with the quotient checked. -/
def accrue? (credit rate gap unit : Float) : Option Float :=
  (quotient? (rate * gap) unit).map (credit + ·)

/-- The seconds to the next look, with each operation checked. -/
def waitSeconds? (credit rate unit most : Float) : Option Float :=
  if 0.0 < rate then
    (quotient? ((1.0 - credit) * unit) rate).bind (between? 0.0 most)
  else some most

/-- The longest time to the next look when some time is left. -/
def mostSeconds (left : Span) : Float :=
  (longestWait.shorter left).toSeconds

theorem quotient?_of_pos {dividend divisor : Float} (finite : divisor.isFinite)
    (positive : 0 < rational divisor) :
    quotient? dividend divisor = some (dividend / divisor) := by
  apply if_neg
  rw [rational_beq_iff finite isFinite_zero, rational_zero]
  exact positive.ne'

/-- A number that is not below zero is moved between zero and a finite one. -/
theorem exists_between {most number : Float} (mostFinite : most.isFinite)
    (mostNonneg : 0.0 ≤ most) (nonneg : 0.0 ≤ number) :
    ∃ moved, between? 0.0 most number = some moved ∧ moved.isFinite ∧ 0.0 ≤ moved ∧
      moved ≤ most ∧
      moved = if number < 0.0 then 0.0 else if most < number then most else number := by
  refine ⟨_, if_pos mostNonneg, ?_⟩
  rw [if_neg (not_lt_zero_of_zero_le nonneg)]
  by_cases above : most < number
  · rw [if_pos above]
    exact ⟨mostFinite, mostNonneg, (rational_le_iff mostFinite mostFinite).mpr le_rfl, rfl⟩
  · have finite : number.isFinite := by
      by_contra infinite
      exact above (lt_of_infinite mostFinite (infinite_of_zero_le nonneg infinite))
    rw [if_neg above]
    rw [rational_lt_iff mostFinite finite, not_lt] at above
    exact ⟨finite, nonneg, (rational_le_iff finite mostFinite).mpr above, rfl⟩

/-- The longest time to the next look is finite, not below zero and not above one second. -/
theorem mostSeconds_mem (left : Span) :
    (mostSeconds left).isFinite ∧ rational (mostSeconds left) ∈ Set.Icc 0 1 := by
  have short : (longestWait.shorter left).seconds < 1 := by
    unfold Span.seconds Span.shorter longestWait Span.ofMillis
    dsimp only
    omega
  have most := toSeconds_le_nearest short (by decide)
  rw [nearest_natCast (by decide), Nat.cast_one] at most
  exact ⟨(rational_toSeconds _).1, (toSeconds_mem _).1, most⟩

section Wait

variable {credit rate unit : Float} (creditFinite : credit.isFinite)
  (creditMem : rational credit ∈ Set.Ico 0 1) (rateFinite : rate.isFinite)

include creditFinite creditMem rateFinite

/-- What is missing to a whole credit is not below zero. -/
theorem zero_le_needed (ratePositive : 0.0 < rate) (unitFinite : unit.isFinite)
    (unitMem : rational unit ∈ Set.Icc 0 (2 ^ 65)) : 0.0 ≤ (1.0 - credit) * unit / rate := by
  have one : (1.0 : Float) = 1 := by decide
  have missing : 1 - rational credit ∈ Set.Icc (0 : ℚ) (2 ^ 0) :=
    ⟨by linarith [creditMem.2], by linarith [creditMem.1]⟩
  obtain ⟨missingFinite, missingEq⟩ := rational_sub isFinite_one creditFinite
    (by rw [rational_one]; exact abs_rounded_lt_bound_of_mem missing (by decide))
  have missingMem := rounded_mem_two_pow missing
  rw [rational_one] at missingEq
  rw [← missingEq] at missingMem
  obtain ⟨productFinite, productMem⟩ :=
    mul_mem_two_pow missingFinite unitFinite missingMem unitMem (by decide)
  rw [rational_lt_iff isFinite_zero rateFinite, rational_zero] at ratePositive
  rw [one]
  exact zero_le_div ((zero_le_iff_rational productFinite).mpr productMem.1) rateFinite ratePositive

/-- The seconds to the next look are those of the wait. All operations on the way to them have a
result, which is finite and between zero and the longest time, and a span of which there is. -/
theorem exists_waitSeconds (unitFinite : unit.isFinite)
    (unitMem : rational unit ∈ Set.Icc 0 (2 ^ 65)) (left : Span) :
    ∃ seconds, waitSeconds? credit rate unit (mostSeconds left) = some seconds ∧
      seconds.isFinite ∧ 0.0 ≤ seconds ∧ seconds ≤ mostSeconds left ∧
      Span.ofSeconds? seconds = some (wait credit rate unit left) := by
  obtain ⟨mostFinite, mostMem⟩ := mostSeconds_mem left
  have mostNonneg := (zero_le_iff_rational mostFinite).mpr mostMem.1
  have short : ∀ seconds : Float, seconds.isFinite → seconds ≤ mostSeconds left →
      rational seconds ≤ 2 := by
    intro seconds finite limited
    rw [rational_le_iff finite mostFinite] at limited
    linarith [mostMem.2]
  unfold waitSeconds? wait
  by_cases ratePositive : 0.0 < rate
  · have needed :=
      zero_le_needed creditFinite creditMem rateFinite ratePositive unitFinite unitMem
    obtain ⟨seconds, moved, finite, nonneg, limited, same⟩ :=
      exists_between mostFinite mostNonneg needed
    have divisor := (rational_lt_iff isFinite_zero rateFinite).mp ratePositive
    rw [rational_zero] at divisor
    refine ⟨seconds, ?_, finite, nonneg, limited, ?_⟩
    · rw [if_pos ratePositive, quotient?_of_pos rateFinite divisor, Option.bind_some, moved]
    · rw [Span.ofSeconds?_of_le_two finite nonneg (short seconds finite limited), same,
        if_pos ratePositive]
      rfl
  · have limited := (rational_le_iff mostFinite mostFinite).mpr le_rfl
    refine ⟨mostSeconds left, if_neg ratePositive, mostFinite, mostNonneg, limited, ?_⟩
    rw [Span.ofSeconds?_of_le_two mostFinite mostNonneg (short _ mostFinite limited),
      if_neg ratePositive]
    rfl

/-- A credit below one grows to a finite one. -/
theorem accrue_mem {gap : Float} (rateMem : rational rate ∈ Set.Icc 0 (2 ^ 65))
    (gapFinite : gap.isFinite) (gapMem : rational gap ∈ Set.Icc 0 (2 ^ 65))
    (unitFinite : unit.isFinite) (least : 1 / 2 ^ 10 ≤ rational unit) :
    accrue? credit rate gap unit = some (accrue credit rate gap unit) ∧
      (accrue credit rate gap unit).isFinite ∧ 0 ≤ rational (accrue credit rate gap unit) := by
  have positive : 0 < rational unit := lt_of_lt_of_le (by positivity) least
  obtain ⟨loadFinite, loadMem⟩ :=
    mul_mem_two_pow rateFinite gapFinite rateMem gapMem (by decide)
  obtain ⟨grownFinite, grownMem⟩ :=
    div_mem_two_pow loadFinite unitFinite loadMem least (by decide)
  have small : rational credit ∈ Set.Icc 0 (2 ^ (65 + 65 + 10)) :=
    ⟨creditMem.1, creditMem.2.le.trans (one_le_pow₀ one_le_two)⟩
  obtain ⟨sumFinite, sumMem⟩ :=
    add_mem_two_pow creditFinite grownFinite small grownMem (by decide)
  refine ⟨?_, sumFinite, sumMem.1⟩
  rw [accrue?, quotient?_of_pos unitFinite positive]
  rfl

end Wait

end Pacing

end ArrivalRamp
