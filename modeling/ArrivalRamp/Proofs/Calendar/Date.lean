import ArrivalRamp.Calendar.Date
import Mathlib.Tactic

/-!
Days and dates correspond. A day counted from the start of 1970 falls into a year that counts from
March, and from there into a month. Its date exists, and it has the day for its count.
-/

namespace ArrivalRamp.Date

theorem daysIn_le (year : ℤ) (month : ℕ) : daysIn year month ≤ 31 := by
  unfold daysIn
  split
  · split_ifs <;> decide
  all_goals decide

theorem toDays_le {date : Date} (valid : date.isValid) (early : date.year ≤ 9999) :
    date.toDays ≤ 3000000 := by
  simp only [isValid, Bool.and_eq_true, decide_eq_true_eq] at valid
  have days := daysIn_le date.year date.month
  unfold toDays
  dsimp only
  split_ifs <;> omega

theorem le_of_isValid {date : Date} (valid : date.isValid) :
    date.month ≤ 12 ∧ date.day ≤ 31 := by
  simp only [isValid, Bool.and_eq_true, decide_eq_true_eq] at valid
  exact ⟨valid.1.1.2, valid.2.trans (daysIn_le date.year date.month)⟩

/-- The date of a day in a year that counts from March. -/
def ofMarch (year dayOfYear : ℤ) : Date :=
  let monthFromMarch := (5 * dayOfYear + 2) / 153
  let day := dayOfYear - (153 * monthFromMarch + 2) / 5 + 1
  let month := if monthFromMarch < 10 then monthFromMarch + 3 else monthFromMarch - 9
  ⟨if month ≤ 2 then year + 1 else year, month.toNat, day.toNat⟩

section March

variable {dayOfYear : ℤ} (year : ℤ) (low : 0 ≤ dayOfYear) (high : dayOfYear ≤ 365)

include low high

/-- The day of the year is the day of a month after the days before this month. January and February
are the last months of the year before. -/
theorem exists_ofMarch_eq :
    ∃ month day : ℕ, month ≤ 11 ∧ 1 ≤ day ∧ dayOfYear = (153 * month + 2) / 5 + day - 1 ∧
      dayOfYear < (153 * (month + 1) + 2) / 5 ∧
      ofMarch year dayOfYear =
        if month < 10 then ⟨year, month + 3, day⟩ else ⟨year + 1, month - 9, day⟩ := by
  obtain ⟨month, monthEq⟩ : ∃ month : ℕ, month = (5 * dayOfYear + 2) / 153 :=
    ⟨((5 * dayOfYear + 2) / 153).toNat, by omega⟩
  refine ⟨month, (dayOfYear - (153 * month + 2) / 5 + 1).toNat, by omega, by omega, by omega,
    by omega, ?_⟩
  unfold ofMarch
  rw [← monthEq]
  split_ifs <;> simp <;> omega

theorem toDays_ofMarch :
    (ofMarch year dayOfYear).toDays = year / 400 * 146097 +
      (year % 400 * 365 + year % 400 / 4 - year % 400 / 100 + dayOfYear) - 719468 := by
  obtain ⟨month, day, -, -, sum, -, same⟩ := exists_ofMarch_eq year low high
  rw [same]
  unfold toDays
  by_cases spring : month < 10
  · have late : ¬month + 3 ≤ 2 := by omega
    have shifted : ((month + 3 : ℕ) : ℤ) - 3 = month := by omega
    simp only [if_pos spring, if_neg late, shifted, sum]
  · have early : month - 9 ≤ 2 := by omega
    have shifted : ((month - 9 : ℕ) : ℤ) + 9 = month := by omega
    simp only [if_neg spring, if_pos early, shifted, sum, add_sub_cancel_right]

/-- A date exists when the last day of its year is a leap day. -/
theorem isValid_ofMarch (leap : dayOfYear = 365 → isLeap (year + 1)) :
    (ofMarch year dayOfYear).isValid := by
  obtain ⟨month, day, monthLe, dayPos, sum, below, same⟩ := exists_ofMarch_eq year low high
  have february : month = 11 → day ≤ daysIn (year + 1) 2 := by
    rintro rfl
    change day ≤ if isLeap (year + 1) then 29 else 28
    split_ifs with long
    · omega
    · have short : dayOfYear ≠ 365 := fun last => long (leap last)
      omega
  rw [same]
  unfold isValid
  interval_cases month
  case «11» => simpa [dayPos] using february rfl
  all_goals
    simp [daysIn]
    omega

end March

/-- A day of an era has a century, a cycle of four years in the century, a year in the cycle and a
day in the year. The last year of a cycle is a day longer, unless it ends a century before the last
one. -/
theorem exists_cycles {dayOfEra : ℤ} (low : 0 ≤ dayOfEra) (high : dayOfEra < 146097) :
    ∃ century cycle year day : ℤ, (0 ≤ century ∧ century ≤ 3) ∧ (0 ≤ cycle ∧ cycle ≤ 24) ∧
      (0 ≤ year ∧ year ≤ 3) ∧ (0 ≤ day ∧ day ≤ 365) ∧
      (day = 365 → year = 3 ∧ (cycle = 24 → century = 3)) ∧
      dayOfEra = 36524 * century + 1461 * cycle + 365 * year + day := by
  obtain ⟨century, centuryEq⟩ : ∃ century, century = min (dayOfEra / 36524) 3 := ⟨_, rfl⟩
  obtain ⟨cycle, cycleEq⟩ : ∃ cycle, cycle = (dayOfEra - 36524 * century) / 1461 := ⟨_, rfl⟩
  obtain ⟨rest, restEq⟩ : ∃ rest, rest = (dayOfEra - 36524 * century) % 1461 := ⟨_, rfl⟩
  refine ⟨century, cycle, min (rest / 365) 3, rest - 365 * min (rest / 365) 3, ?_⟩
  omega

/-- Without the leap days before it, a day of an era lies in the year that its cycles give. -/
theorem yearOfEra_eq {century cycle year day dayOfEra : ℤ}
    (centuryMem : 0 ≤ century ∧ century ≤ 3) (cycleMem : 0 ≤ cycle ∧ cycle ≤ 24)
    (yearMem : 0 ≤ year ∧ year ≤ 3) (dayMem : 0 ≤ day ∧ day ≤ 365)
    (leap : day = 365 → year = 3 ∧ (cycle = 24 → century = 3))
    (sum : dayOfEra = 36524 * century + 1461 * cycle + 365 * year + day) :
    (dayOfEra - dayOfEra / 1460 + dayOfEra / 36524 - dayOfEra / 146096) / 365 =
      100 * century + 4 * cycle + year := by
  -- Only the last day of the era stands beyond its four centuries.
  have eras : dayOfEra / 146096 = if day = 365 ∧ cycle = 24 then 1 else 0 := by
    split_ifs <;> omega
  have centuries : dayOfEra / 36524 = century + if day = 365 ∧ cycle = 24 then 1 else 0 := by
    split_ifs <;> omega
  have cycles : dayOfEra / 1460 = 25 * century + cycle +
      if 1460 ≤ 24 * century + cycle + 365 * year + day then 1 else 0 := by
    split_ifs <;> omega
  rw [eras, centuries, cycles]
  split_ifs <;> omega

/-- The leap years before a year of an era, and the era of a year. -/
theorem leapYears_eq {century cycle year yearOfEra : ℤ} (centuryMem : 0 ≤ century ∧ century ≤ 3)
    (cycleMem : 0 ≤ cycle ∧ cycle ≤ 24) (yearMem : 0 ≤ year ∧ year ≤ 3)
    (sum : yearOfEra = 100 * century + 4 * cycle + year) (era : ℤ) :
    yearOfEra / 4 = 25 * century + cycle ∧ yearOfEra / 100 = century ∧
      (yearOfEra + era * 400) / 400 = era ∧ (yearOfEra + era * 400) % 400 = yearOfEra := by
  omega

/-- The year after a cycle is a leap year, unless it begins a century that begins no era. -/
theorem isLeap_of_cycle {century cycle : ℤ} (cycleMem : 0 ≤ cycle ∧ cycle ≤ 24)
    (ends : cycle = 24 → century = 3) (era : ℤ) :
    isLeap (100 * century + 4 * cycle + 3 + era * 400 + 1) := by
  simp only [isLeap, Bool.and_eq_true, Bool.or_eq_true, decide_eq_true_eq]
  by_cases last : cycle = 24
  · have first := ends last
    subst last first
    omega
  · omega

/-- A day falls into a year that counts from March. -/
theorem exists_ofDays_eq (days : ℤ) :
    ∃ year dayOfYear, 0 ≤ dayOfYear ∧ dayOfYear ≤ 365 ∧ (dayOfYear = 365 → isLeap (year + 1)) ∧
      ofDays days = ofMarch year dayOfYear ∧
      days = year / 400 * 146097 +
        (year % 400 * 365 + year % 400 / 4 - year % 400 / 100 + dayOfYear) - 719468 := by
  obtain ⟨era, eraEq⟩ : ∃ era, era = (days + 719468) / 146097 := ⟨_, rfl⟩
  obtain ⟨dayOfEra, dayOfEraEq⟩ : ∃ day, day = (days + 719468) % 146097 := ⟨_, rfl⟩
  obtain ⟨century, cycle, year, day, centuryMem, cycleMem, yearMem, dayMem, leap, sum⟩ :=
    exists_cycles (show 0 ≤ dayOfEra by omega) (show dayOfEra < 146097 by omega)
  obtain ⟨yearOfEra, yearOfEraEq⟩ : ∃ yearOfEra, yearOfEra = 100 * century + 4 * cycle + year :=
    ⟨_, rfl⟩
  obtain ⟨quarter, hundredth, whole, rest⟩ :=
    leapYears_eq centuryMem cycleMem yearMem yearOfEraEq era
  refine ⟨yearOfEra + era * 400, day, dayMem.1, dayMem.2, ?_, ?_, ?_⟩
  · intro last
    obtain ⟨rfl, ends⟩ := leap last
    rw [yearOfEraEq]
    exact isLeap_of_cycle cycleMem ends era
  · have found := yearOfEra_eq centuryMem cycleMem yearMem dayMem leap sum
    have dayOfYear : dayOfEra - (365 * yearOfEra + yearOfEra / 4 - yearOfEra / 100) = day := by
      rw [quarter, hundredth, sum, yearOfEraEq]
      ring
    unfold ofDays ofMarch
    dsimp only
    rw [← eraEq, ← dayOfEraEq, found, ← yearOfEraEq, dayOfYear]
  · have parts := Int.mul_ediv_add_emod (days + 719468) 146097
    rw [← eraEq, ← dayOfEraEq] at parts
    rw [whole, rest, quarter, hundredth]
    linarith

/-- The date of a day is that of the day. -/
theorem toDays_ofDays (days : ℤ) : (ofDays days).toDays = days := by
  obtain ⟨year, dayOfYear, low, high, -, same, sum⟩ := exists_ofDays_eq days
  rw [same, toDays_ofMarch year low high]
  exact sum.symm

/-- The date of a day exists. -/
theorem isValid_ofDays (days : ℤ) : (ofDays days).isValid := by
  obtain ⟨year, dayOfYear, low, high, leap, same, -⟩ := exists_ofDays_eq days
  rw [same]
  exact isValid_ofMarch year low high leap

end ArrivalRamp.Date
