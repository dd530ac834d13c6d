import ArrivalRamp.Proofs.Duration.Millis
import ArrivalRamp.Proofs.Execution.Arrivals
import ArrivalRamp.Proofs.Execution.Steps
import ArrivalRamp.Proofs.Profile.StageAt
import ArrivalRamp.Proofs.Tally.Stages

/-!
The labels of a run go along with the clock. A drop has the label of the stage that the look found
which made the arrival. A request has the label of that stage or of a later one, or none when the
profile has ended before the iteration looks at the clock itself.
-/

namespace ArrivalRamp

namespace Profile

variable {profile : Profile} {index : ℕ} {label : StageLabel}

/-- The label is the one of a stage, which has a length. -/
def Labels (profile : Profile) (index : ℕ) (label : StageLabel) : Prop :=
  ∃ stage, profile.stages[index]? = some stage ∧ 0 < stage.millis ∧
    label = .known index stage.target

/-- The label is the one of a stage or of a later one, or of no stage. -/
def LabelsFrom (profile : Profile) (index : ℕ) (label : StageLabel) : Prop :=
  label = .unknown ∨ ∃ later, index ≤ later ∧ profile.Labels later label

/-- The label is what the profile makes of its stage. -/
theorem Labels.eq_label (labels : profile.Labels index label) :
    label = profile.label (some index) := by
  obtain ⟨stage, found, -, rfl⟩ := labels
  simp [Profile.label, target?, found]

/-- No target is written like the tag of no stage. -/
theorem Labels.tag_ne (labels : profile.Labels index label) : label.tag ≠ StageLabel.unknown.tag := by
  obtain ⟨stage, -, -, rfl⟩ := labels
  intro same
  have written := congrArg String.toList same
  unfold StageLabel.known StageLabel.unknown at written
  rw [String.toList_append, String.toList_append] at written
  have digits : (Decimal.natural stage.target).toList = "unknown".toList :=
    List.append_cancel_left written
  have inside : 'u' ∈ Decimal.digits stage.target := by
    rw [Decimal.natural, String.toList_ofList] at digits
    rw [digits]
    decide
  exact absurd (Decimal.isDigit_of_mem_digits inside) (by decide)

/-- The label at an elapsed time is the one of the stage then. -/
theorem labels_labelAt {elapsed : Float} (active : profile.stageAt? elapsed = some index) :
    profile.Labels index (profile.labelAt elapsed) := by
  obtain ⟨stage, found, positive, -⟩ := profile.exists_stage_of_stageAt? active
  refine ⟨stage, found, positive, ?_⟩
  simp [labelAt, Profile.label, target?, active, found]

/-- The stage at a later time is not an earlier one. -/
theorem stageAt?_mono {look now : Span} {next : ℕ} (ordered : look.nanos ≤ now.nanos)
    (below : now.nanos < 2 ^ 53 * 1000000)
    (active : profile.stageAt? look.toMillis = some index)
    (later : profile.stageAt? now.toMillis = some next) : index ≤ next := by
  obtain ⟨finite, -, started, -⟩ := profile.stageAt?_eq_some_iff.mp active
  obtain ⟨nowFinite, -, -, running⟩ := profile.stageAt?_eq_some_iff.mp later
  by_contra before
  have ended := profile.toFloat_elapsedAfter_le finite (not_le.mp before) started
  have endFinite := Binary64.isFinite_toFloat (profile.elapsedAfter_le (next + 1))
  rw [Binary64.rational_le_iff endFinite finite] at ended
  rw [Binary64.rational_lt_iff nowFinite endFinite] at running
  exact absurd (ended.trans (Span.toMillis_mono below ordered)) (not_le.mpr running)

/-- The label at a later time is the one of the stage or of a later one, or of no stage. -/
theorem labelsFrom_labelAt {look now : Span} (ordered : look.nanos ≤ now.nanos)
    (below : now.nanos < 2 ^ 53 * 1000000)
    (active : profile.stageAt? look.toMillis = some index) :
    profile.LabelsFrom index (profile.labelAt now.toMillis) := by
  cases later : profile.stageAt? now.toMillis with
  | none => exact .inl (by rw [labelAt, later]; rfl)
  | some next => exact .inr ⟨next, stageAt?_mono ordered below active later, labels_labelAt later⟩

end Profile

/-- A drop has the label of the stage that its look found, and a request the one of this stage or of
a later one, or of no stage. -/
def Booking.IsTimely (plan : RunPlan) : Booking → Prop
  | .dropped look label => ∃ index, plan.Offers look index ∧ plan.profile.Labels index label
  | .request look label _ _ _ =>
    ∃ index, plan.Offers look index ∧ plan.profile.LabelsFrom index label

namespace Booking

variable {plan : RunPlan} {booking : Booking}

theorem tag_entry (booking : Booking) : booking.entry.2.tag = booking.label.tag := by
  cases booking <;> rfl

/-- The label of what is booked is the one of a stage, or of none. -/
theorem IsTimely.unknown_or_labels (timely : booking.IsTimely plan) :
    booking.label = .unknown ∨ ∃ index, plan.profile.Labels index booking.label := by
  cases booking with
  | dropped look label =>
      obtain ⟨index, -, labels⟩ := timely
      exact .inr ⟨index, labels⟩
  | request look label user duration answer =>
      obtain ⟨-, -, unknown | ⟨later, -, labels⟩⟩ := timely
      · exact .inl unknown
      · exact .inr ⟨later, labels⟩

theorem IsTimely.exists_label (timely : booking.IsTimely plan) :
    ∃ stage, booking.label = plan.profile.label stage := by
  rcases timely.unknown_or_labels with unknown | ⟨index, labels⟩
  · exact ⟨none, unknown⟩
  · exact ⟨some index, labels.eq_label⟩

theorem IsTimely.isLabelled (timely : booking.IsTimely plan) : booking.entry.2.IsLabelled := by
  obtain ⟨stage, same⟩ := timely.exists_label
  cases booking with
  | dropped look label => exact ⟨plan.profile, stage, congrArg StageLabel.tag same⟩
  | request look label user duration answer =>
      exact ⟨plan.profile, stage, congrArg StageLabel.tag same, congrArg StageLabel.target same⟩

/-- The tally finds the target of a label, also where it is told the tag alone. -/
theorem IsTimely.target_entry (timely : booking.IsTimely plan) :
    booking.entry.2.target = booking.label.target := by
  obtain ⟨stage, same⟩ := timely.exists_label
  rw [timely.isLabelled.target_eq, tag_entry, same, Tally.targetOfTag_label]

/-- No drop is counted outside the stages. -/
theorem IsTimely.tag_ne_of_isDropped (timely : booking.IsTimely plan) (dropped : booking.isDropped) :
    booking.label.tag ≠ StageLabel.unknown.tag := by
  cases booking with
  | dropped look label =>
      obtain ⟨index, -, labels⟩ := timely
      exact labels.tag_ne
  | request look label user duration answer => cases dropped

theorem sum_drops (bookings : List Booking) (tag : String) :
    (bookings.map fun booking =>
        if booking.entry.2.tag = tag then booking.entry.2.drops else 0).sum =
      bookings.countP fun booking => booking.isDropped && booking.label.tag = tag := by
  induction bookings with
  | nil => rfl
  | cons booking bookings ih =>
      rw [List.map_cons, List.sum_cons, ih, List.countP_cons, tag_entry]
      by_cases same : booking.label.tag = tag
      · cases booking <;> simp [same, isDropped, entry, RunEvent.drops, Nat.add_comm]
      · simp [same]

section Rows

variable {bookings : List Booking} (timely : ∀ booking ∈ bookings, booking.IsTimely plan)

/-- The rows of the report on what is booked, one for each tag. -/
def rows (bookings : List Booking) : List StageSummary :=
  (Tally.empty.addAll (bookings.map fun booking => booking.entry.2)).report.stages

theorem dropped_eq_of_mem_rows {row : StageSummary} (inside : row ∈ rows bookings) :
    row.dropped = bookings.countP fun booking =>
      booking.isDropped && booking.label.tag = row.tag := by
  obtain ⟨⟨tag, stage⟩, member, rfl⟩ := List.mem_map.mp inside
  have counted := Tally.dropped_eq_of_mem member
  rw [List.map_map] at counted
  exact counted.trans (sum_drops bookings tag)

include timely

/-- A row has the tag and the target of a label. -/
theorem exists_booking_of_mem_rows {row : StageSummary} (inside : row ∈ rows bookings) :
    ∃ booking ∈ bookings, booking.label.tag = row.tag ∧ booking.label.target = row.target := by
  obtain ⟨stage, member, rfl⟩ := List.mem_map.mp inside
  obtain ⟨event, eventInside, tag, target⟩ := Tally.isFrom_addAll _ stage member
  obtain ⟨booking, booked, rfl⟩ := List.mem_map.mp eventInside
  rw [tag_entry] at tag
  rw [(timely booking booked).target_entry] at target
  exact ⟨booking, booked, tag, target⟩

/-- What is booked is in the row with the tag and the target of its label. -/
theorem exists_row {booking : Booking} (booked : booking ∈ bookings) :
    ∃ row ∈ rows bookings, row.tag = booking.label.tag ∧ row.target = booking.label.target := by
  have labelled : ∀ event ∈ bookings.map (fun booking => booking.entry.2), event.IsLabelled :=
    List.forall_mem_map.mpr fun booking booked => (timely booking booked).isLabelled
  obtain ⟨stage, member, target⟩ :=
    Tally.exists_stage_of_mem labelled (List.mem_map_of_mem booked)
  rw [tag_entry] at member
  rw [(timely booking booked).target_entry] at target
  exact ⟨_, List.mem_map_of_mem member, rfl, target⟩

/-- A row is the one of a stage with a length, or the one of no stage, which has no drops. -/
theorem row_eq {row : StageSummary} (inside : row ∈ rows bookings) :
    row.tag = "rps-unknown" ∧ row.target = "unknown" ∧ row.dropped = 0 ∨
      ∃ stage ∈ plan.profile.stages, 0 < stage.millis ∧
        row.tag = "rps-" ++ Decimal.natural stage.target ∧
        row.target = Decimal.natural stage.target := by
  obtain ⟨booking, booked, tag, target⟩ := exists_booking_of_mem_rows timely inside
  rcases (timely booking booked).unknown_or_labels with unknown | ⟨index, stage, found, positive, same⟩
  · rw [unknown] at tag target
    refine .inl ⟨tag.symm, target.symm, ?_⟩
    rw [dropped_eq_of_mem_rows inside, List.countP_eq_zero]
    intro other otherBooked counted
    rw [Bool.and_eq_true, decide_eq_true_eq, ← tag] at counted
    exact (timely other otherBooked).tag_ne_of_isDropped counted.1 counted.2
  · rw [same] at tag target
    exact .inr ⟨stage, Array.mem_of_getElem? found, positive, tag.symm, target.symm⟩

end Rows

end Booking

/-- The clock does not go back from step to step, and it stays below the milliseconds that are
exact. -/
structure RunStep.IsClocked (taken : List RunStep) : Prop where
  ordered : (taken.filterMap RunStep.reading?).Pairwise fun earlier later =>
    earlier.nanos ≤ later.nanos
  below : ∀ now ∈ taken.filterMap RunStep.reading?, now.nanos < 2 ^ 53 * 1000000

/-- An iteration has a look that made it and took place before now. A label that the iteration has is
the one of the stage that the look found, or of a later one, or of no stage. -/
structure Iteration.IsTimely (plan : RunPlan) (now look : Span) (iteration : Iteration) : Prop where
  look_le : look.nanos ≤ now.nanos
  labels : ∃ index, plan.Offers look index ∧
    ∀ label, iteration.phase = .begun label → plan.profile.LabelsFrom index label

/-- An iteration goes on with a label that goes along with the clock. -/
theorem Iteration.IsTimely.goesOn {plan : RunPlan} {earlier now look : Span} {taken : RunStep}
    {before after : Iteration} (timely : before.IsTimely plan earlier look)
    (ordered : earlier.nanos ≤ now.nanos) (below : now.nanos < 2 ^ 53 * 1000000)
    (shown : ∀ reading ∈ taken.reading?, reading = now)
    (continues : Progress.GoesOn plan taken before after) : after.IsTimely plan now look := by
  obtain ⟨lookLe, index, offers, labels⟩ := timely
  refine ⟨lookLe.trans ordered, index, offers, fun label begun => ?_⟩
  obtain ⟨-, kept | recorded | ⟨user, reading, rfl, begins⟩⟩ := continues
  · exact labels label (kept ▸ begun)
  · rw [recorded] at begun
    cases begun
  · obtain rfl := shown reading rfl
    rw [begins] at begun
    obtain rfl := IterationPhase.begun.inj begun
    exact Profile.labelsFrom_labelAt (lookLe.trans ordered) below offers.stage

namespace Chronicle

/-- All looks of a chronicle took place before now. Arrivals that are not settled have come at the
last look, and all others are booked or under way with labels that go along with the clock. -/
structure IsTimely (plan : RunPlan) (now : Span) (chronicle : Chronicle) : Prop where
  last_le : chronicle.progress.execution.last.nanos ≤ now.nanos
  arriving : ∀ elapsed ∈ chronicle.progress.dispatcher.arriving?,
    elapsed = chronicle.progress.execution.last.toMillis ∧
      ∃ index, plan.Offers chronicle.progress.execution.last index
  inFlight : ∀ iteration ∈ chronicle.progress.execution.inFlight,
    iteration.IsTimely plan now (chronicle.looks iteration.slot.user)
  bookings : ∀ booking ∈ chronicle.bookings, booking.IsTimely plan

variable {plan : RunPlan} {chronicle : Chronicle} {limit : ℕ}

theorem isTimely_start (plan : RunPlan) (shards : ℕ) : (start plan shards).IsTimely plan ⟨0⟩ where
  last_le := le_rfl
  arriving := nofun
  inFlight := nofun
  bookings := nofun

namespace IsTimely

variable {earlier now : Span} {taken : RunStep}

/-- What a step books has a label that goes along with the clock. -/
theorem bookings_step (timely : chronicle.IsTimely plan earlier) :
    ∀ booking ∈ (chronicle.step plan taken).bookings, booking.IsTimely plan := by
  intro booking inside
  rcases List.mem_append.mp inside with before | new
  · exact timely.bookings booking before
  have booked := Option.mem_toList.mp new
  obtain ⟨⟨execution, dispatcher⟩, looks, bookings⟩ := chronicle
  cases taken with
  | drop =>
      cases dispatcher with
      | dropping elapsed due =>
          obtain rfl := Option.some.inj booked
          obtain ⟨same, index, offers⟩ := timely.arriving elapsed rfl
          have labels := Profile.labels_labelAt offers.stage
          rw [← same] at labels
          exact ⟨index, offers, labels⟩
      | _ => cases booked
  | record user answer duration =>
      unfold Progress.booking? at booked
      dsimp only at booked
      split at booked
      case h_1 slot label found =>
        obtain rfl := Option.some.inj booked
        have same : slot.user = user :=
          of_decide_eq_true (List.find?_eq_some_iff_append.mp found).1
        obtain ⟨-, index, offers, labels⟩ := timely.inFlight _ (List.mem_of_find?_eq_some found)
        rw [same] at offers
        exact ⟨index, offers, labels label rfl⟩
      case h_2 => cases booked
  | _ => cases booked

/-- Each step goes along with the clock. -/
theorem step (timely : chronicle.IsTimely plan earlier)
    (balanced : chronicle.progress.IsBalanced limit) (ordered : earlier.nanos ≤ now.nanos)
    (below : now.nanos < 2 ^ 53 * 1000000) (shown : ∀ reading ∈ taken.reading?, reading = now) :
    (chronicle.step plan taken).IsTimely plan now where
  last_le := by
    change (chronicle.progress.step plan taken).execution.last.nanos ≤ now.nanos
    rcases chronicle.progress.looksUp_or_staysOn plan taken with ⟨reading, rfl, up⟩ | stays
    · rw [up.last, shown reading rfl]
    · rw [stays.last]
      exact timely.last_le.trans ordered
  arriving := by
    change ∀ elapsed ∈ (chronicle.progress.step plan taken).dispatcher.arriving?,
      elapsed = (chronicle.progress.step plan taken).execution.last.toMillis ∧
        ∃ index, plan.Offers (chronicle.progress.step plan taken).execution.last index
    intro elapsed inside
    rcases chronicle.progress.looksUp_or_staysOn plan taken with ⟨reading, rfl, up⟩ | stays
    · rw [up.last]
      exact ⟨up.arriving elapsed inside, up.offers⟩
    · rw [stays.last]
      exact timely.arriving elapsed (stays.arriving elapsed inside)
  inFlight := by
    intro after inside
    unfold Chronicle.step
    dsimp only
    -- The looks change for the user alone that is sent off, and nobody else has this user.
    cases entering : chronicle.progress.entering? taken with
    | none =>
        obtain ⟨before, member, continues⟩ := Progress.exists_goesOn entering inside
        rw [continues.1]
        exact (timely.inFlight before member).goesOn ordered below shown continues
    | some user =>
        rcases Progress.eq_or_ne_of_entering balanced entering inside with new | ⟨other, member⟩
        · obtain ⟨⟨elapsed, pending⟩, -⟩ := Progress.exists_inFlight_eq plan entering
          obtain ⟨-, index, offers⟩ := timely.arriving elapsed pending
          dsimp only
          rw [new.1, Function.update_self]
          refine ⟨timely.last_le.trans ordered, index, offers, fun label begun => ?_⟩
          rw [new.2] at begun
          cases begun
        · dsimp only
          rw [Function.update_of_ne other]
          exact (timely.inFlight after member).goesOn ordered below shown ⟨rfl, .inl rfl⟩
  bookings := timely.bookings_step

/-- A run goes along with a clock that does not go back and stays in bounds. -/
theorem steps (timely : chronicle.IsTimely plan earlier)
    (balanced : chronicle.progress.IsBalanced limit) (below : earlier.nanos < 2 ^ 53 * 1000000)
    {taken : List RunStep} (clocked : RunStep.IsClocked taken)
    (later : ∀ now ∈ taken.filterMap RunStep.reading?, earlier.nanos ≤ now.nanos) :
    ∃ now, (chronicle.steps plan taken).IsTimely plan now := by
  -- What the clock showed last bounds all looks so far.
  induction taken generalizing chronicle earlier with
  | nil => exact ⟨earlier, timely⟩
  | cons first taken ih =>
      obtain ⟨ordered, bounded⟩ := clocked
      have next : (chronicle.step plan first).progress.IsBalanced limit := balanced.step first
      cases reading : first.reading? with
      | none =>
          rw [List.filterMap_cons_none reading] at ordered bounded later
          have kept : (chronicle.step plan first).IsTimely plan earlier :=
            timely.step balanced le_rfl below (by simp [reading])
          exact ih kept next below ⟨ordered, bounded⟩ later
      | some now =>
          rw [List.filterMap_cons_some reading] at ordered bounded later
          obtain ⟨after, ordered⟩ := List.pairwise_cons.mp ordered
          rw [List.forall_mem_cons] at bounded later
          have kept : (chronicle.step plan first).IsTimely plan now :=
            timely.step balanced later.1 bounded.1 (by simp [reading])
          exact ih kept next bounded.1 ⟨ordered, bounded.2⟩ after

end IsTimely

/-- In every interleaving of a run whose clock does not go back, the labels follow the clock. A drop
is counted under the tag of the stage that its look found, and never outside the stages. A request,
also one that is under way, has the label of the stage that its look found, or of a later one, or of
no stage. The report has the tags of stages with a length and that of no stage, each with the target
of its labels, whether a drop or a request came first, and the drops that were made under it. -/
theorem labels_followClock (plan : RunPlan) (shards : ℕ) (taken : List RunStep)
    (clocked : RunStep.IsClocked taken) :
    let last := (start plan shards).steps plan taken
    last.progress = (Progress.start plan shards).steps plan taken ∧
      last.progress.execution.tally =
        (ShardedTally.ofCount shards).addAll (last.bookings.map Booking.entry) ∧
      (∀ booking ∈ last.bookings, booking.IsTimely plan) ∧
      (∀ iteration ∈ last.progress.execution.inFlight, ∃ index,
        plan.Offers (last.looks iteration.slot.user) index ∧
          ∀ label, iteration.phase = .begun label → plan.profile.LabelsFrom index label) ∧
      ∀ instant elapsed isInterrupted,
        let rows :=
          (last.progress.execution.outcome plan instant elapsed isInterrupted).tally.report.stages
        (∀ row ∈ rows,
          (row.tag = "rps-unknown" ∧ row.target = "unknown" ∧ row.dropped = 0 ∨
            ∃ stage ∈ plan.profile.stages, 0 < stage.millis ∧
              row.tag = "rps-" ++ Decimal.natural stage.target ∧
              row.target = Decimal.natural stage.target) ∧
          row.dropped = last.bookings.countP fun booking =>
            booking.isDropped && booking.label.tag = row.tag) ∧
        ∀ booking ∈ last.bookings,
          ∃ row ∈ rows, row.tag = booking.label.tag ∧ row.target = booking.label.target := by
  intro last
  have same : last.progress = (Progress.start plan shards).steps plan taken := progress_steps taken
  have first : (start plan shards).IsTallied shards := rfl
  have tallied : last.IsTallied shards := first.steps taken
  obtain ⟨now, timely⟩ : ∃ now, last.IsTimely plan now :=
    (isTimely_start plan shards).steps (Execution.isBalanced_start plan.settings shards le_rfl)
      (by decide) clocked fun _ _ => Nat.zero_le _
  have labelled : ∀ entry ∈ last.bookings.map Booking.entry, entry.2.IsLabelled :=
    List.forall_mem_map.mpr fun booking booked => (timely.bookings booking booked).isLabelled
  have merged : last.progress.execution.tally.merge.report.stages = Booking.rows last.bookings := by
    rw [tallied, ShardedTally.merge_addAll (ShardedTally.isNamed_ofCount shards) _ labelled,
      ShardedTally.merge_ofCount, List.map_map]
    rfl
  refine ⟨same, tallied, timely.bookings,
    fun iteration inside => (timely.inFlight iteration inside).labels,
    fun instant elapsed isInterrupted => ?_⟩
  intro rows
  have listed : rows = Booking.rows last.bookings := merged
  rw [listed]
  exact ⟨fun row inside => ⟨Booking.row_eq timely.bookings inside,
    Booking.dropped_eq_of_mem_rows inside⟩, fun booking => Booking.exists_row timely.bookings⟩

/-- A configuration of one user and two stages. -/
def twoStages : Config :=
  { Config.empty with
    baseUrl := some "http://localhost"
    stages := some [⟨"2ms", 3000⟩, ⟨"2ms", 2000⟩]
    startRate := some 3000
    preAllocatedUsers := some 1
    maxUsers := some 1 }

def twoStagesPlan : RunPlan where
  settings := .resolve twoStages
  profile := twoStages.profile
  template := ⟨"POST", "http://localhost/", "rampclock", "rampclock", "local", none, [], none⟩

/-- Of three arrivals in the first stage the first one takes the user, who begins in the second stage,
and the others are dropped. So is an arrival in the second stage. -/
def slowSteps : List RunStep :=
  [.look ⟨1000000⟩, .offer, .offer, .make, .drop, .offer, .make, .drop, .look ⟨3000000⟩, .offer,
    .begin 1 ⟨3000000⟩, .make, .drop, .record 1 (.received 200) ⟨500000⟩]

theorem labels_followClock_twoStages :
    RunStep.IsClocked slowSteps ∧
      Booking.request ⟨1000000⟩ (.known 1 2000) 1 ⟨500000⟩ (.received 200) ∈
        ((start twoStagesPlan 2).steps twoStagesPlan slowSteps).bookings ∧
      (Booking.request ⟨1000000⟩ (.known 1 2000) 1 ⟨500000⟩ (.received 200)).IsTimely
        twoStagesPlan ∧
      let rows := (((Progress.start twoStagesPlan 2).steps twoStagesPlan
        slowSteps).execution.outcome twoStagesPlan 0 ⟨0⟩ false).tally.report.stages
      (∃ row ∈ rows, row.tag = "rps-3000" ∧ row.target = "3000" ∧ row.dropped = 2) ∧
        ∃ row ∈ rows, row.tag = "rps-2000" ∧ row.target = "2000" ∧ row.dropped = 1 := by
  have clocked : RunStep.IsClocked slowSteps := ⟨by decide, by decide⟩
  obtain ⟨same, -, timely, -, report⟩ := labels_followClock twoStagesPlan 2 slowSteps clocked
  obtain ⟨rows, found⟩ := report 0 ⟨0⟩ false
  have bookings : ((start twoStagesPlan 2).steps twoStagesPlan slowSteps).bookings =
      [.dropped ⟨1000000⟩ (.known 0 3000), .dropped ⟨1000000⟩ (.known 0 3000),
        .dropped ⟨3000000⟩ (.known 1 2000),
        .request ⟨1000000⟩ (.known 1 2000) 1 ⟨500000⟩ (.received 200)] := by
    decide +kernel
  rw [← same]
  rw [bookings] at timely found rows ⊢
  refine ⟨clocked, by simp, timely _ (by simp), ?_, ?_⟩
  · obtain ⟨row, inside, tag, target⟩ := found (.dropped ⟨1000000⟩ (.known 0 3000)) (by simp)
    refine ⟨row, inside, tag, target, ?_⟩
    rw [(rows row inside).2, tag]
    decide
  · obtain ⟨row, inside, tag, target⟩ := found (.dropped ⟨3000000⟩ (.known 1 2000)) (by simp)
    refine ⟨row, inside, tag, target, ?_⟩
    rw [(rows row inside).2, tag]
    decide

end Chronicle

end ArrivalRamp
