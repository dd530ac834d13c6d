import ArrivalRamp.Proofs.Profile.StageAt
import ArrivalRamp.Proofs.Profile.Starts

/-!
The stage at an elapsed time and the starts of the stages on the wall clock describe one timeline.
-/

namespace ArrivalRamp

namespace Binary64

/-- Up to the power of two beyond the significands, counts compare as machine numbers. -/
theorem ofNat_lt_toFloat_iff {elapsed count : ℕ} (finite : (Float.ofNat elapsed).isFinite)
    (small : count ≤ 2 ^ 53) : Float.ofNat elapsed < Word.toFloat count ↔ elapsed < count := by
  have word : count ≤ Word.maxCount := small.trans (by decide)
  rw [rational_lt_iff finite (isFinite_toFloat word), rational_ofNat finite, rational_toFloat word,
    nearest_natCast small]
  constructor
  · intro below
    by_contra above
    have rounded := nearest_natCast_mono (not_lt.mp above)
    rw [nearest_natCast small] at rounded
    exact absurd below (not_lt.mpr rounded)
  · intro below
    rw [nearest_natCast (below.le.trans small)]
    exact_mod_cast below

end Binary64

namespace Profile

variable (profile : Profile) {runStart : ℤ}

/-- A stage is due at an instant: it has started by then, and its length has not passed since. -/
def IsDue (runStart : ℤ) (index : ℕ) (instant : ℤ) : Prop :=
  ∃ row stage, (profile.starts runStart)[index]? = some row ∧
    profile.stages[index]? = some stage ∧
    row.instant ≤ instant ∧ instant < row.instant + stage.millis

/-- At each time before the end, the ends of the stages enclose the time once. -/
theorem exists_enclosing {elapsed : ℕ} (running : elapsed < profile.total) :
    ∃ index < profile.size,
      profile.elapsedAfter index ≤ elapsed ∧ elapsed < profile.elapsedAfter (index + 1) := by
  rw [total_eq] at running
  generalize profile.size = count at running ⊢
  induction count with
  | zero => exact absurd running (by simp)
  | succ count ih =>
      by_cases earlier : elapsed < profile.elapsedAfter count
      · obtain ⟨index, inside, enclosed⟩ := ih earlier
        exact ⟨index, Nat.lt_succ_of_lt inside, enclosed⟩
      · exact ⟨count, Nat.lt_succ_self count, not_lt.mp earlier, running⟩

theorem enclosing_unique {elapsed index other : ℕ}
    (started : profile.elapsedAfter index ≤ elapsed)
    (running : elapsed < profile.elapsedAfter (index + 1))
    (otherStarted : profile.elapsedAfter other ≤ elapsed)
    (otherRunning : elapsed < profile.elapsedAfter (other + 1)) : other = index := by
  rcases lt_trichotomy other index with below | same | above
  · have ends : profile.elapsedAfter (other + 1) ≤ profile.elapsedAfter index :=
      profile.elapsedAfter_mono below
    omega
  · exact same
  · have ends : profile.elapsedAfter (index + 1) ≤ profile.elapsedAfter other :=
      profile.elapsedAfter_mono above
    omega

/-- In a profile of exact ends, a whole millisecond is searched as the count that it is. -/
theorem stageAt?_ofNat_eq_some_iff (exact : profile.total ≤ 2 ^ 53) {elapsed index : ℕ} :
    profile.stageAt? (Float.ofNat elapsed) = some index ↔
      index < profile.size ∧
        profile.elapsedAfter index ≤ elapsed ∧ elapsed < profile.elapsedAfter (index + 1) := by
  rw [stageAt?_eq_some_iff]
  constructor
  · rintro ⟨finite, inside, started, running⟩
    have starts := (profile.elapsedAfter_le_total inside.le).trans exact
    have ends := (profile.elapsedAfter_le_total (Nat.succ_le_of_lt inside)).trans exact
    rw [← Binary64.not_lt_toFloat_iff finite (profile.elapsedAfter_le _),
      Binary64.ofNat_lt_toFloat_iff finite starts, not_lt] at started
    rw [Binary64.ofNat_lt_toFloat_iff finite ends] at running
    exact ⟨inside, started, running⟩
  · rintro ⟨inside, started, running⟩
    have starts := (profile.elapsedAfter_le_total inside.le).trans exact
    have ends := (profile.elapsedAfter_le_total (Nat.succ_le_of_lt inside)).trans exact
    have finite : (Float.ofNat elapsed).isFinite :=
      Binary64.isFinite_ofNat (running.le.trans (profile.elapsedAfter_le _))
    rw [← Binary64.not_lt_toFloat_iff finite (profile.elapsedAfter_le _),
      Binary64.ofNat_lt_toFloat_iff finite starts, Binary64.ofNat_lt_toFloat_iff finite ends,
      not_lt]
    exact ⟨finite, inside, started, running⟩

section WallClock

variable (exact : profile.total ≤ 2 ^ 53) (low : Word.minInstant ≤ runStart)
  (high : runStart + profile.total ≤ Word.maxInstant)

include exact

theorem unsaturated_of_exact : profile.total < Word.maxCount :=
  exact.trans_lt (by decide)

include low high

/-- The row of a stage holds the instant at which the stages before it have elapsed. -/
theorem getElem?_starts {index : ℕ} {stage : Stage}
    (found : profile.stages[index]? = some stage) :
    (profile.starts runStart)[index]? =
      some ⟨index, stage.target, runStart + profile.elapsedAfter index⟩ := by
  obtain ⟨inside, -⟩ := Array.getElem?_eq_some_iff.mp found
  have before : profile.elapsedAfter index ≤ profile.total :=
    profile.elapsedAfter_le_total (Nat.le_of_lt inside)
  have fits : (profile.total : ℤ) ≤ Word.maxInstant := by
    unfold Word.maxInstant
    omega
  rw [profile.getElem?_starts_of_fits fits found,
    Word.clampInstant_of_mem (by omega) (by omega)]

theorem getElem?_starts_eq_some {index : ℕ} {row : StageStart}
    (found : (profile.starts runStart)[index]? = some row) :
    index < profile.size ∧ row.instant = runStart + profile.elapsedAfter index := by
  have inside := profile.lt_size_of_getElem?_starts found
  rw [profile.getElem?_starts exact low high (Array.getElem?_eq_getElem inside)] at found
  obtain rfl := Option.some.inj found
  exact ⟨inside, rfl⟩

/-- The interval of a stage on the wall clock is the one between the ends of the stages. -/
theorem isDue_iff {index elapsed : ℕ} :
    profile.IsDue runStart index (runStart + elapsed) ↔
      index < profile.size ∧
        profile.elapsedAfter index ≤ elapsed ∧ elapsed < profile.elapsedAfter (index + 1) := by
  unfold IsDue
  constructor
  · rintro ⟨row, stage, rowFound, found, started, running⟩
    obtain ⟨inside, instant⟩ := profile.getElem?_starts_eq_some exact low high rowFound
    have ends := profile.elapsedAfter_add_millis (profile.unsaturated_of_exact exact) found
    exact ⟨inside, by omega, by omega⟩
  · rintro ⟨inside, started, running⟩
    have found : profile.stages[index]? = some profile.stages[index] :=
      Array.getElem?_eq_getElem inside
    have ends := profile.elapsedAfter_add_millis (profile.unsaturated_of_exact exact) found
    refine ⟨_, _, profile.getElem?_starts exact low high found, found, ?_, ?_⟩
    · dsimp only
      omega
    · dsimp only
      omega

end WallClock

/-- At each whole millisecond of a run, the search finds the only stage whose interval on the wall
clock contains the instant, which is also the last one that has started by then. From the end of the
profile on it finds none, and no interval contains the instant. -/
theorem activeStage_iff_isDue (profile : Profile) (runStart : ℤ) (elapsed : ℕ)
    (exact : profile.total ≤ 2 ^ 53) (low : Word.minInstant ≤ runStart)
    (high : runStart + profile.total ≤ Word.maxInstant) :
    (elapsed < profile.total →
      ∃ index, profile.stageAt? (Float.ofNat elapsed) = some index ∧
        (∀ other, profile.IsDue runStart other (runStart + elapsed) ↔ other = index) ∧
        (∃ row, (profile.starts runStart)[index]? = some row ∧
          row.instant ≤ runStart + elapsed) ∧
        ∀ later > index, ∀ row, (profile.starts runStart)[later]? = some row →
          runStart + elapsed < row.instant) ∧
    (profile.total ≤ elapsed →
      profile.stageAt? (Float.ofNat elapsed) = none ∧
        ∀ index, ¬profile.IsDue runStart index (runStart + elapsed)) := by
  constructor
  · intro before
    obtain ⟨index, inside, started, running⟩ := profile.exists_enclosing before
    refine ⟨index, (profile.stageAt?_ofNat_eq_some_iff exact).mpr ⟨inside, started, running⟩,
      ?_, ?_, ?_⟩
    · intro other
      rw [profile.isDue_iff exact low high]
      constructor
      · rintro ⟨-, otherStarted, otherRunning⟩
        exact profile.enclosing_unique started running otherStarted otherRunning
      · rintro rfl
        exact ⟨inside, started, running⟩
    · refine ⟨_, profile.getElem?_starts exact low high (Array.getElem?_eq_getElem inside), ?_⟩
      dsimp only
      omega
    · intro later after row found
      obtain ⟨-, instant⟩ := profile.getElem?_starts_eq_some exact low high found
      have ends : profile.elapsedAfter (index + 1) ≤ profile.elapsedAfter later :=
        profile.elapsedAfter_mono after
      omega
  · intro past
    have none : ∀ index, ¬(index < profile.size ∧ profile.elapsedAfter index ≤ elapsed ∧
        elapsed < profile.elapsedAfter (index + 1)) := by
      rintro index ⟨inside, -, running⟩
      have ends : profile.elapsedAfter (index + 1) ≤ profile.total :=
        profile.elapsedAfter_le_total inside
      omega
    constructor
    · rw [Option.eq_none_iff_forall_ne_some]
      intro index found
      exact none index ((profile.stageAt?_ofNat_eq_some_iff exact).mp found)
    · intro index
      rw [profile.isDue_iff exact low high]
      exact none index

/-- A profile with a stage without length, whose row shares its start with the next one. -/
def sharedStart : Profile :=
  ofPairs [(5, "3s"), (10, "0s"), (10, "2s")]

theorem total_sharedStart : sharedStart.total = 5000 := by
  decide

theorem activeStage_sharedStart :
    (sharedStart.total ≤ 2 ^ 53 ∧ Word.minInstant ≤ 1000 ∧
      1000 + (sharedStart.total : ℤ) ≤ Word.maxInstant ∧ 3000 < sharedStart.total) ∧
      ∃ index, sharedStart.stageAt? (Float.ofNat 3000) = some index ∧
        ∀ other, sharedStart.IsDue 1000 other (1000 + (3000 : ℕ)) ↔ other = index := by
  have exact : sharedStart.total ≤ 2 ^ 53 := total_sharedStart ▸ by decide
  have low : Word.minInstant ≤ 1000 := by decide
  have high : 1000 + (sharedStart.total : ℤ) ≤ Word.maxInstant := total_sharedStart ▸ by decide
  have running : 3000 < sharedStart.total := total_sharedStart ▸ by decide
  obtain ⟨index, active, due, -⟩ :=
    (activeStage_iff_isDue sharedStart 1000 3000 exact low high).1 running
  exact ⟨⟨exact, low, high, running⟩, index, active, due⟩

end Profile

end ArrivalRamp
