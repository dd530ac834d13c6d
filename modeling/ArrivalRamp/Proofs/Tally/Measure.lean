import ArrivalRamp.Proofs.Tally.Sharded

/-!
What a tally measures. Each event brings its own share of a measure, in one tally as well as in
merged ones, so that two measures are equal when all events bring the same to both.
-/

namespace ArrivalRamp

namespace RunEvent

/-- The requests of an event. -/
def requests : RunEvent → ℕ
  | .request .. => 1
  | .dropped _ => 0

/-- The requests of an event that fail their check. -/
def failures : RunEvent → ℕ
  | .request _ _ _ status _ => countIf (!passesCheck status)
  | .dropped _ => 0

/-- The dropped arrivals of an event. -/
def drops : RunEvent → ℕ
  | .request .. => 0
  | .dropped _ => 1

/-- The nanoseconds that the request of an event takes. -/
def nanos : RunEvent → ℕ
  | .request _ _ duration _ _ => duration.nanos
  | .dropped _ => 0

/-- The answers of an event with a wanted status code. -/
def answers (wanted : ℕ → Bool) : RunEvent → ℕ
  | .request _ _ _ (some code) _ => countIf (wanted code)
  | _ => 0

/-- A request fails its check or is answered with a status code from 200 to 299. -/
theorem failures_add_answers (event : RunEvent) :
    event.failures + event.answers (fun code => 200 ≤ code && code ≤ 299) = event.requests := by
  cases event with
  | dropped stage => rfl
  | request stage target duration status error =>
      cases status with
      | none => rfl
      | some code =>
          have upTo : decide (code < 300) = decide (code ≤ 299) :=
            decide_eq_decide.mpr Nat.lt_succ_iff
          unfold failures answers requests passesCheck
          dsimp only
          rw [upTo]
          cases decide (200 ≤ code) && decide (code ≤ 299) <;> rfl

theorem answers_le_requests (wanted : ℕ → Bool) (event : RunEvent) :
    event.answers wanted ≤ event.requests := by
  cases event with
  | dropped stage => exact le_rfl
  | request stage target duration status error =>
      cases status with
      | none => exact Nat.zero_le 1
      | some code =>
          unfold answers requests countIf
          dsimp only
          split_ifs <;> decide

end RunEvent

namespace Tally

/-- What the tallies of all tags measure together. -/
def stageSum (measure : StageTally → ℕ) (tally : Tally) : ℕ :=
  tally.stages.measured fun _ stage => measure stage

/-- The answers with a wanted status code. -/
def answers (wanted : ℕ → Bool) (tally : Tally) : ℕ :=
  tally.statusCodes.measured fun code amount => if wanted code then amount else 0

/-- A measure of a tally grows by what each event brings, and merged tallies have the sum of their
measures. -/
structure Counts (measure : Tally → ℕ) (gain : RunEvent → ℕ) : Prop where
  empty : measure .empty = 0
  add : ∀ event tally, measure (tally.add event) = measure tally + gain event
  absorb : ∀ tally other, measure (tally.absorb other) = measure tally + measure other

namespace Counts

theorem total : Counts Tally.total RunEvent.requests where
  empty := rfl
  add event tally := by cases event <;> rfl
  absorb _ _ := rfl

theorem failed : Counts Tally.failed RunEvent.failures where
  empty := rfl
  add event tally := by cases event <;> rfl
  absorb _ _ := rfl

theorem dropped : Counts Tally.dropped RunEvent.drops where
  empty := rfl
  add event tally := by cases event <;> rfl
  absorb _ _ := rfl

theorem duration : Counts (fun tally => tally.duration.nanos) RunEvent.nanos where
  empty := rfl
  add event tally := by cases event <;> rfl
  absorb _ _ := rfl

theorem latencies : Counts (fun tally => tally.latencies.count) RunEvent.requests where
  empty := rfl
  add event tally := by
    cases event
    · exact Histogram.count_record _ _
    · rfl
  absorb _ _ := Histogram.count_add _ _

/-- A measure of the tallies of tags is a measure of the tally. -/
theorem stageSum {measure : StageTally → ℕ} {gain : RunEvent → ℕ}
    (empty : ∀ target, measure (.empty target) = 0)
    (add : ∀ event stage, measure (event.count stage) = measure stage + gain event)
    (absorb : ∀ stage other, measure (stage.absorb other) = measure stage + measure other) :
    Counts (Tally.stageSum measure) gain where
  empty := rfl
  add event tally := by
    unfold Tally.stageSum
    rw [stages_add]
    apply Ledger.measured_alter
    · rw [Option.getD_none, add, empty, Nat.zero_add]
    · exact fun stage => add event stage
  absorb tally other := by
    unfold Tally.stageSum
    rw [stages_absorb]
    apply Ledger.measured_merge absorbStage
    · intro _ stage
      rw [absorbStage, Option.getD_none, absorb, empty, Nat.zero_add]
    · exact fun _ stage found => absorb found stage

theorem total_stages : Counts (Tally.stageSum StageTally.total) RunEvent.requests :=
  stageSum (fun _ => rfl) (fun event _ => by cases event <;> rfl) (fun _ _ => rfl)

theorem failed_stages : Counts (Tally.stageSum StageTally.failed) RunEvent.failures :=
  stageSum (fun _ => rfl) (fun event _ => by cases event <;> rfl) (fun _ _ => rfl)

theorem dropped_stages : Counts (Tally.stageSum StageTally.dropped) RunEvent.drops :=
  stageSum (fun _ => rfl) (fun event _ => by cases event <;> rfl) (fun _ _ => rfl)

theorem duration_stages :
    Counts (Tally.stageSum fun stage => stage.duration.nanos) RunEvent.nanos :=
  stageSum (fun _ => rfl) (fun event _ => by cases event <;> rfl) (fun _ _ => rfl)

theorem answers (wanted : ℕ → Bool) : Counts (Tally.answers wanted) (RunEvent.answers wanted) where
  empty := rfl
  add event tally := by
    cases event with
    | dropped stage => rfl
    | request stage target duration status error =>
        cases status with
        | none => rfl
        | some code =>
            apply Ledger.measured_alter
            · simp [RunEvent.answers, countIf]
            · intro amount
              simp only [RunEvent.answers, countIf, Option.getD_some]
              split_ifs <;> rfl
  absorb tally other := by
    apply Ledger.measured_merge fun amount found => found.getD 0 + amount
    · simp
    · intro code amount found
      simp only [Option.getD_some]
      split_ifs <;> rfl

variable {measure : Tally → ℕ} {gain : RunEvent → ℕ}

theorem addAll (counts : Counts measure gain) (events : List RunEvent) (tally : Tally) :
    measure (tally.addAll events) = measure tally + (events.map gain).sum := by
  induction events generalizing tally with
  | nil => rfl
  | cons event events ih =>
      change measure ((tally.add event).addAll events) = _
      rw [ih, counts.add, List.map_cons, List.sum_cons, Nat.add_assoc]

theorem merge_addAll (counts : Counts measure gain) (events : List (ℕ × RunEvent))
    (tally : ShardedTally) :
    measure (tally.addAll events).merge =
      measure tally.merge + ((events.map Prod.snd).map gain).sum := by
  induction events generalizing tally with
  | nil => rfl
  | cons event events ih =>
      change measure ((tally.add event.1 event.2).addAll events).merge = _
      rw [ih, tally.measure_merge_add event.1 measure counts.absorb _ (counts.add event.2),
        List.map_cons, List.map_cons, List.sum_cons, Nat.add_assoc]

end Counts

end Tally

end ArrivalRamp
