import ArrivalRamp.Proofs.Pacing.Spending
import ArrivalRamp.Proofs.Profile.ExactRate

/-!
The offered load over exact numbers. However the looks at the clock fall, the arrivals follow the
area under the offered rate.
-/

namespace ArrivalRamp

open MeasureTheory

namespace Profile

variable {profile : Profile}

section Rationals

variable {elapsed : ℚ}

/-- Rational times are in the same stages as real ones. -/
theorem isActive_ratCast {index : ℕ} :
    profile.IsActive (elapsed : ℝ) index ↔ profile.IsActive elapsed index := by
  constructor
  · rintro ⟨inside, started, running⟩
    exact ⟨inside, by exact_mod_cast started, by exact_mod_cast running⟩
  · rintro ⟨inside, started, running⟩
    exact ⟨inside, by exact_mod_cast started, by exact_mod_cast running⟩

/-- The rate at a rational time is the one at the real time. -/
theorem rate_ratCast (startRate : ℕ) (nonneg : 0 ≤ elapsed) (running : elapsed < profile.total) :
    ((profile.levelAt (profile.rates startRate) elapsed : ℚ) : ℝ) =
      profile.levelAt (profile.rates startRate) (elapsed : ℝ) := by
  obtain ⟨index, active⟩ := exists_isActive nonneg running
  rw [active.levelAt_eq, (isActive_ratCast.mpr active).levelAt_eq]
  unfold rates progress
  push_cast
  rfl

end Rationals

section Area

variable (startRate : ℕ) {earlier later : ℝ} (nonneg : 0 ≤ earlier) (ordered : earlier ≤ later)
  (running : later < profile.total)

include nonneg ordered running

/-- What rises with time is integrable. -/
theorem intervalIntegrable_levelAt {level : ℕ → ℝ} (rising : Monotone level) :
    IntervalIntegrable (profile.levelAt level) volume earlier later := by
  apply MonotoneOn.intervalIntegrable
  rw [Set.uIcc_of_le ordered]
  intro left leftWithin right rightWithin before
  exact levelAt_mono rising (nonneg.trans leftWithin.1) before (rightWithin.2.trans_lt running)

/-- The rate is a difference of levels that rise, so that there is an area under it. -/
theorem intervalIntegrable_rate :
    IntervalIntegrable (profile.levelAt (profile.rates startRate)) volume earlier later := by
  have sum := intervalIntegrable_levelAt nonneg ordered running
    (profile.monotone_swings_add_rates startRate)
  have swings := intervalIntegrable_levelAt nonneg ordered running
    (profile.monotone_swings startRate)
  refine (sum.sub swings).congr ?_
  intro elapsed within
  simp [levelAt_add]

/-- The rate at the end of some time, kept up for all of it, misses the area by no more than the
swings in that time. -/
theorem abs_rate_mul_sub_area_le :
    |profile.levelAt (profile.rates startRate) later * (later - earlier) -
        ∫ elapsed in earlier..later, profile.levelAt (profile.rates startRate) elapsed| ≤
      (profile.levelAt (profile.swings startRate) later -
        profile.levelAt (profile.swings startRate) earlier) * (later - earlier) := by
  have constant : (∫ _ in earlier..later, profile.levelAt (profile.rates startRate) later) =
      profile.levelAt (profile.rates startRate) later * (later - earlier) := by
    rw [intervalIntegral.integral_const, smul_eq_mul, mul_comm]
  rw [← constant, ← intervalIntegral.integral_sub intervalIntegrable_const
    (intervalIntegrable_rate startRate nonneg ordered running)]
  have bounded := intervalIntegral.norm_integral_le_of_norm_le_const
    (a := earlier) (b := later)
    (f := fun elapsed => profile.levelAt (profile.rates startRate) later -
      profile.levelAt (profile.rates startRate) elapsed)
    (C := profile.levelAt (profile.swings startRate) later -
      profile.levelAt (profile.swings startRate) earlier) ?_
  · rwa [Real.norm_eq_abs, abs_of_nonneg (sub_nonneg.mpr ordered)] at bounded
  · intro elapsed within
    rw [Set.uIoc_of_le ordered] at within
    have swung := profile.abs_rate_sub_le startRate (nonneg.trans within.1.le) within.2 running
    have risen := levelAt_mono (profile.monotone_swings startRate) nonneg within.1.le
      (within.2.trans_lt running)
    rw [Real.norm_eq_abs]
    linarith

end Area

end Profile

/-- The pace of a run over exact numbers: the credit at the last look, when that was in
milliseconds, and how many arrivals there were. -/
structure Pace where
  credit : ℚ
  last : ℚ
  arrivals : ℕ

namespace Pace

/-- The pace before the first look. -/
def start : Pace := ⟨0, 0, 0⟩

/-- The seconds of a number of milliseconds. -/
def seconds (millis : ℚ) : ℚ := millis / 1000

/-- A look at the clock lets the credit grow, and makes arrivals until no whole credit is left.
There is none once the profile has ended. -/
inductive Looks (profile : Profile) (startRate : ℕ) (unit : ℚ) (pace : Pace) (now : ℚ) :
    Pace → Prop where
  | look {rate credit : ℚ} {arrivals : ℕ} (offered : profile.exactRateAt? startRate now = some rate)
    (spent : Pacing.SpendsTo
      (Pacing.accrue pace.credit rate (seconds (now - pace.last)) (seconds unit)) arrivals credit) :
    Looks profile startRate unit pace now ⟨credit, now, pace.arrivals + arrivals⟩

/-- Looks at the clock one after another. -/
inductive Reaches (profile : Profile) (startRate : ℕ) (unit : ℚ) : Pace → List ℚ → Pace → Prop where
  | done {pace : Pace} : Reaches profile startRate unit pace [] pace
  | look {pace next last : Pace} {now : ℚ} {instants : List ℚ}
    (first : Looks profile startRate unit pace now next)
    (rest : Reaches profile startRate unit next instants last) :
    Reaches profile startRate unit pace (now :: instants) last

/-- Of two looks the second does not come before the first, nor later than a gap allows. -/
def IsSpaced (gap before after : ℚ) : Prop :=
  before ≤ after ∧ after - before ≤ gap

theorem le_getLastD {gap first : ℚ} {later : List ℚ}
    (spaced : (first :: later).IsChain (IsSpaced gap)) : first ≤ later.getLastD first := by
  induction later generalizing first with
  | nil => exact le_rfl
  | cons second later ih =>
      obtain ⟨near, rest⟩ := List.isChain_cons_cons.mp spaced
      rw [List.getLastD_cons]
      exact near.1.trans (ih rest)

section Looks

variable {profile : Profile} {startRate : ℕ} {unit gap : ℚ} {pace next : Pace} {now : ℚ}

theorem Looks.unique {other : Pace} (looked : Looks profile startRate unit pace now next)
    (otherLooked : Looks profile startRate unit pace now other) : other = next := by
  cases looked with
  | look offered spent =>
    cases otherLooked with
    | look otherOffered otherSpent =>
      obtain rfl := Option.some.inj (offered.symm.trans otherOffered)
      obtain ⟨rfl, rfl⟩ := spent.unique otherSpent
      rfl

/-- Looks lead to one pace. -/
theorem Reaches.unique {last other : Pace} {instants : List ℚ}
    (reached : Reaches profile startRate unit pace instants last)
    (otherReached : Reaches profile startRate unit pace instants other) : other = last := by
  induction reached with
  | done =>
      cases otherReached
      rfl
  | look first rest ih =>
      cases otherReached with
      | look otherFirst otherRest =>
        obtain rfl := first.unique otherFirst
        exact ih otherRest

/-- The pace follows the profile: the arrivals and what is left of the credit differ from the area
under the rate no more than the swings so far and the longest gap allow. -/
structure Follows (profile : Profile) (startRate : ℕ) (unit gap : ℚ) (pace : Pace) : Prop where
  started : 0 ≤ pace.last
  running : pace.last < profile.total
  nonneg : 0 ≤ pace.credit
  below : pace.credit < 1
  near : |(pace.arrivals + pace.credit) * unit -
      ∫ elapsed in (0 : ℝ)..pace.last, profile.levelAt (profile.rates startRate) elapsed| ≤
    gap * profile.levelAt (profile.swings startRate) (pace.last : ℝ)

/-- A look adds the rate over the time since the last look, and turns the whole credits into
arrivals. -/
theorem exists_looks (startRate : ℕ) (positive : 0 < unit) (nonneg : 0 ≤ pace.credit)
    (started : 0 ≤ pace.last) (later : pace.last ≤ now) (running : now < profile.total) :
    ∃ next, Looks profile startRate unit pace now next ∧ next.last = now ∧
      0 ≤ next.credit ∧ next.credit < 1 ∧
      (next.arrivals + next.credit) * unit = (pace.arrivals + pace.credit) * unit +
        profile.levelAt (profile.rates startRate) now * (now - pace.last) := by
  have rated := profile.rate_nonneg startRate (started.trans later) running
  have offered := Profile.exactRateAt?_eq_some startRate (started.trans later) running
  generalize profile.levelAt (profile.rates startRate) now = rate at rated offered ⊢
  obtain ⟨grown, grownEq⟩ : ∃ grown, grown = Pacing.accrue pace.credit rate
      (seconds (now - pace.last)) (seconds unit) := ⟨_, rfl⟩
  have scaled : grown * unit = pace.credit * unit + rate * (now - pace.last) := by
    rw [grownEq, Pacing.accrue, seconds, seconds]
    field_simp
  have grownNonneg : 0 ≤ grown := by
    have product : 0 ≤ grown * unit := by
      rw [scaled]
      have since := sub_nonneg.mpr later
      positivity
    exact nonneg_of_mul_nonneg_left product positive
  have spent : Pacing.SpendsTo (Pacing.accrue pace.credit rate (seconds (now - pace.last))
      (seconds unit)) ⌊grown⌋₊ (grown - ⌊grown⌋₊) := by
    rw [← grownEq]
    exact Pacing.spendsTo_floor grown
  refine ⟨⟨grown - ⌊grown⌋₊, now, pace.arrivals + ⌊grown⌋₊⟩, .look offered spent, rfl, ?_, ?_, ?_⟩
  · exact sub_nonneg.mpr (Nat.floor_le grownNonneg)
  · linarith [Nat.lt_floor_add_one grown]
  · push_cast
    linear_combination scaled

theorem start_follows (startRate : ℕ) (unit : ℚ) (nonneg : 0 ≤ gap) (running : 0 < profile.total) :
    start.Follows profile startRate unit gap where
  started := le_rfl
  running := Nat.cast_pos.mpr running
  nonneg := le_rfl
  below := zero_lt_one
  near := by
    have swings := (profile.swings_mem startRate (le_refl (0 : ℝ))
      (by exact_mod_cast running)).1
    simpa [start] using mul_nonneg (by exact_mod_cast nonneg) swings

/-- Each look that comes no later than the longest gap allows keeps the pace. -/
theorem Follows.look (follows : pace.Follows profile startRate unit gap) (positive : 0 < unit)
    (later : pace.last ≤ now) (soon : now - pace.last ≤ gap) (running : now < profile.total) :
    ∃ next, Looks profile startRate unit pace now next ∧ next.last = now ∧
      next.Follows profile startRate unit gap := by
  obtain ⟨next, looked, same, nonneg, below, accrued⟩ :=
    exists_looks startRate positive follows.nonneg follows.started later running
  refine ⟨next, looked, same, same ▸ follows.started.trans later, same ▸ running, nonneg, below,
    ?_⟩
  have realStarted : (0 : ℝ) ≤ pace.last := by exact_mod_cast follows.started
  have realLater : (pace.last : ℝ) ≤ now := by exact_mod_cast later
  have realSoon : (now - pace.last : ℝ) ≤ gap := by exact_mod_cast soon
  have realRunning : (now : ℝ) < profile.total := by exact_mod_cast running
  have realAccrued : (next.arrivals + next.credit : ℝ) * unit =
      (pace.arrivals + pace.credit) * unit +
        profile.levelAt (profile.rates startRate) (now : ℝ) * (now - pace.last) := by
    rw [← Profile.rate_ratCast startRate (follows.started.trans later) running]
    exact_mod_cast accrued
  have split := intervalIntegral.integral_add_adjacent_intervals
    (Profile.intervalIntegrable_rate startRate le_rfl realStarted
      (realLater.trans_lt realRunning))
    (Profile.intervalIntegrable_rate startRate realStarted realLater realRunning)
  have missed := Profile.abs_rate_mul_sub_area_le startRate realStarted realLater
    realRunning
  have risen := Profile.levelAt_mono (profile.monotone_swings startRate) realStarted realLater
    realRunning
  have spread := mul_le_mul_of_nonneg_left realSoon (sub_nonneg.mpr risen)
  have near := follows.near
  rw [same, realAccrued, ← split]
  rw [abs_le] at missed near ⊢
  constructor <;> linarith

/-- Looks that are no further apart than the longest gap keep the pace. -/
theorem Follows.looks (follows : pace.Follows profile startRate unit gap) (positive : 0 < unit)
    {instants : List ℚ} (spaced : (pace.last :: instants).IsChain (IsSpaced gap))
    (running : instants.getLastD pace.last < profile.total) :
    ∃ next, Reaches profile startRate unit pace instants next ∧
      next.last = instants.getLastD pace.last ∧ next.Follows profile startRate unit gap := by
  induction instants generalizing pace with
  | nil => exact ⟨pace, .done, rfl, follows⟩
  | cons now instants ih =>
      obtain ⟨⟨later, soon⟩, rest⟩ := List.isChain_cons_cons.mp spaced
      rw [List.getLastD_cons] at running ⊢
      obtain ⟨looked, look, rfl, kept⟩ :=
        follows.look positive later soon ((le_getLastD rest).trans_lt running)
      obtain ⟨next, looks, last, keeps⟩ := ih kept rest running
      exact ⟨next, .look look looks, last, keeps⟩

section End

variable (follows : pace.Follows profile startRate unit gap) (positive : 0 < unit)
  (nonneg : 0 ≤ gap)

include follows nonneg

theorem Follows.near_area :
    |(pace.arrivals + pace.credit) * unit -
        ∫ elapsed in (0 : ℝ)..pace.last, profile.levelAt (profile.rates startRate) elapsed| ≤
      gap * profile.swings startRate profile.size := by
  have started : (0 : ℝ) ≤ pace.last := by exact_mod_cast follows.started
  have running : (pace.last : ℝ) < profile.total := by exact_mod_cast follows.running
  have wide : (0 : ℝ) ≤ gap := by exact_mod_cast nonneg
  exact follows.near.trans
    (mul_le_mul_of_nonneg_left (profile.swings_mem startRate started running).2 wide)

include positive

theorem Follows.abs_arrivals_sub_area_lt :
    |(pace.arrivals : ℝ) - 1 / unit *
        ∫ elapsed in (0 : ℝ)..pace.last, profile.levelAt (profile.rates startRate) elapsed| <
      1 + gap * profile.swings startRate profile.size / unit := by
  have near := follows.near_area nonneg
  generalize (∫ elapsed in (0 : ℝ)..pace.last, profile.levelAt (profile.rates startRate) elapsed) =
    area at *
  have realPositive : (0 : ℝ) < unit := by exact_mod_cast positive
  have creditNonneg : (0 : ℝ) ≤ pace.credit := by exact_mod_cast follows.nonneg
  have creditBelow : (pace.credit : ℝ) < 1 := by exact_mod_cast follows.below
  have scaled : |pace.arrivals + pace.credit - 1 / unit * area| ≤
      gap * profile.swings startRate profile.size / unit := by
    have same : (pace.arrivals + pace.credit - 1 / unit * area : ℝ) =
        ((pace.arrivals + pace.credit) * unit - area) / unit := by
      field_simp
    rw [same, abs_div, abs_of_pos realPositive]
    gcongr
  rw [abs_le] at scaled
  rw [abs_lt]
  constructor <;> linarith

/-- A rate that never changes makes exactly the arrivals that the time asks for. -/
theorem Follows.arrivals_eq_floor (level : ∀ stage ∈ profile.stages, stage.target = startRate) :
    pace.arrivals = ⌊startRate * pace.last / unit⌋₊ := by
  have near := follows.near_area nonneg
  have started : (0 : ℝ) ≤ pace.last := by exact_mod_cast follows.started
  have running : (pace.last : ℝ) < profile.total := by exact_mod_cast follows.running
  have offered : (∫ elapsed in (0 : ℝ)..pace.last,
      profile.levelAt (profile.rates startRate) elapsed) = startRate * pace.last := by
    have steady : Set.EqOn (profile.levelAt (profile.rates startRate)) (fun _ => (startRate : ℝ))
        (Set.uIcc 0 pace.last) := by
      intro elapsed within
      rw [Set.uIcc_of_le started] at within
      exact Profile.rate_eq_startRate level within.1 (within.2.trans_lt running)
    rw [intervalIntegral.integral_congr steady, intervalIntegral.integral_const, smul_eq_mul,
      sub_zero, mul_comm]
  rw [offered, Profile.swings_eq_zero level, mul_zero] at near
  have exact : (pace.arrivals + pace.credit) * unit = startRate * pace.last := by
    have real := sub_eq_zero.mp (abs_nonpos_iff.mp near)
    exact_mod_cast real
  rw [← exact, mul_div_assoc, div_self positive.ne', mul_one, add_comm,
    Nat.floor_add_natCast follows.nonneg, Nat.floor_eq_zero.mpr follows.below, zero_add]

end End

end Looks

/-- However the looks at the clock fall, they lead to one pace, whose arrivals differ from the area
under the offered rate by less than one and the swings of the rate over the longest gap. The offered
rate moves in each stage evenly between the rates at its ends. A rate that never changes makes
exactly the arrivals that the time asks for. -/
theorem arrivals_near_area (profile : Profile) (startRate : ℕ) {unit gap : ℚ} (positive : 0 < unit)
    (nonneg : 0 ≤ gap) (later : List ℚ) (spaced : (0 :: later).IsChain (IsSpaced gap))
    (running : later.getLastD 0 < profile.total) :
    (∀ elapsed : ℝ, (profile.exactRateAt? startRate elapsed).getD 0 =
      profile.levelAt (profile.rates startRate) elapsed) ∧
    ∃ pace, (∀ other, Reaches profile startRate unit start (0 :: later) other ↔ other = pace) ∧
      |(pace.arrivals : ℝ) - 1 / unit *
          ∫ elapsed in (0 : ℝ)..(later.getLastD 0 : ℚ),
            profile.levelAt (profile.rates startRate) elapsed| <
        1 + gap * profile.swings startRate profile.size / unit ∧
      ((∀ stage ∈ profile.stages, stage.target = startRate) →
        pace.arrivals = ⌊startRate * later.getLastD 0 / unit⌋₊) := by
  have begun : 0 ≤ later.getLastD 0 := le_getLastD spaced
  have lasting : 0 < profile.total := by exact_mod_cast begun.trans_lt running
  have chain : (start.last :: 0 :: later).IsChain (IsSpaced gap) :=
    List.isChain_cons_cons.mpr ⟨⟨le_rfl, by simpa [start]⟩, spaced⟩
  obtain ⟨pace, reached, last, follows⟩ :=
    (start_follows startRate unit nonneg lasting).looks positive chain
      (by rwa [List.getLastD_cons])
  rw [List.getLastD_cons] at last
  rw [← last]
  refine ⟨Profile.getD_exactRateAt? startRate, pace, fun other => ⟨reached.unique, ?_⟩,
    follows.abs_arrivals_sub_area_lt positive nonneg, follows.arrivals_eq_floor positive nonneg⟩
  rintro rfl
  exact reached

/-- A profile whose rate rises, jumps and falls. -/
def jumping : Profile :=
  .ofPairs [(10, "1s"), (50, "0s"), (20, "1s")]

theorem total_jumping : jumping.total = 2000 := by
  decide

theorem arrivals_near_area_jumping :
    ((0 : ℚ) < 1000 ∧ (0 : ℚ) ≤ 600 ∧ [0, 500, 1100, 1500].IsChain (IsSpaced 600) ∧
      [500, 1100, 1500].getLastD (0 : ℚ) < jumping.total) ∧
      ∃ pace, Reaches jumping 0 1000 start [0, 500, 1100, 1500] pace ∧
        |(pace.arrivals : ℝ) - 1 / (1000 : ℚ) *
            ∫ elapsed in (0 : ℝ)..(1500 : ℚ), jumping.levelAt (jumping.rates 0) elapsed| <
          1 + (600 : ℚ) * jumping.swings 0 jumping.size / (1000 : ℚ) := by
  have positive : (0 : ℚ) < 1000 := by norm_num
  have nonneg : (0 : ℚ) ≤ 600 := by norm_num
  have spaced : [0, 500, 1100, 1500].IsChain (IsSpaced 600) := by
    simp only [List.isChain_cons_cons, IsSpaced]
    norm_num
  have running : [500, 1100, 1500].getLastD (0 : ℚ) < jumping.total := by
    rw [total_jumping]
    norm_num
  obtain ⟨-, pace, reached, near, -⟩ :=
    arrivals_near_area jumping 0 positive nonneg [500, 1100, 1500] spaced running
  exact ⟨⟨positive, nonneg, spaced, running⟩, pace, (reached pace).mpr rfl, near⟩

end Pace

end ArrivalRamp
