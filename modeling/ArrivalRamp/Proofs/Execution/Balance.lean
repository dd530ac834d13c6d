import ArrivalRamp.Execution.Basic
import ArrivalRamp.Proofs.Tally.Count
import Mathlib.Data.List.Range

/-!
The books of a run: every arrival is a request, a drop, or under way, and every user is idle or
under way.
-/

namespace ArrivalRamp

/-- The answer of an iteration is in the tally. -/
def Iteration.isRecorded (iteration : Iteration) : Bool :=
  iteration.phase = .recorded

namespace Execution

/-- All users, the idle ones first. -/
def slots (execution : Execution) : List UserSlot :=
  execution.pool.idle ++ execution.inFlight.map Iteration.slot

/-- The number of iterations under way whose answer is in the tally. -/
def answered (execution : Execution) : ℕ :=
  execution.inFlight.countP Iteration.isRecorded

/-- The number of iterations under way whose answer is not in the tally yet. -/
def unanswered (execution : Execution) : ℕ :=
  execution.inFlight.countP fun iteration => !iteration.isRecorded

/-- The sum of the iteration counters of users. -/
def iterations (slots : List UserSlot) : ℕ :=
  (slots.map UserSlot.iterations).sum

/-- The books are balanced, with a number of arrivals that have no user yet and are not dropped
yet. A counter is a word, so that the sum of the counters is determined up to whole words. -/
structure IsBalanced (limit pending : ℕ) (execution : Execution) : Prop where
  users : (execution.slots.map UserSlot.user).Perm (List.range' 1 execution.pool.created)
  limited : execution.pool.limit ≤ limit
  arrivals : execution.arrivals =
    execution.tally.merge.total + execution.tally.merge.dropped + execution.unanswered + pending
  completed_le :
    iterations execution.slots + execution.answered ≤ execution.tally.merge.total
  completed_modEq :
    iterations execution.slots + execution.answered ≡ execution.tally.merge.total [MOD Word.size]

variable {limit pending : ℕ} {execution : Execution} {plan : RunPlan} {slot : UserSlot}
  {pool : Pool} {user : ℕ} {iteration : Iteration}

theorem iterations_perm {left right : List UserSlot} (permutation : left.Perm right) :
    iterations left = iterations right :=
  (permutation.map UserSlot.iterations).sum_nat

theorem iterations_cons (slot : UserSlot) (slots : List UserSlot) :
    iterations (slot :: slots) = slot.iterations + iterations slots :=
  rfl

/-- Before a run there are only idle users, and none has completed an iteration. -/
theorem isBalanced_start (settings : RunSettings) (shards : ℕ)
    (limited : (start settings shards).pool.limit ≤ limit) :
    (start settings shards).IsBalanced limit 0 := by
  have merged : (start settings shards).tally.merge = .empty := ShardedTally.merge_ofCount shards
  have none : iterations (start settings shards).slots = 0 := by
    unfold iterations slots start Pool.ofSize
    simp [Function.comp_def]
  constructor
  case users =>
    unfold slots start Pool.ofSize
    simp [Function.comp_def]
  case limited => exact limited
  case arrivals =>
    rw [merged]
    rfl
  case completed_le =>
    rw [merged, none]
    exact le_rfl
  case completed_modEq =>
    rw [merged, none]
    exact Nat.ModEq.refl _

theorem answered_enter : (execution.enter slot pool).answered = execution.answered := by
  unfold answered enter
  rw [List.countP_append]
  rfl

theorem unanswered_enter : (execution.enter slot pool).unanswered = execution.unanswered + 1 := by
  unfold unanswered enter
  rw [List.countP_append]
  rfl

/-- A user that was idle is still one of the users when its iteration is under way. -/
theorem slots_enter_takeIdle (taken : execution.pool.takeIdle? = some (slot, pool)) :
    pool.created = execution.pool.created ∧ pool.limit = execution.pool.limit ∧
      (execution.enter slot pool).slots.Perm execution.slots := by
  unfold Pool.takeIdle? at taken
  cases idle : execution.pool.idle with
  | nil => simp [idle] at taken
  | cons first others =>
      rw [idle] at taken
      obtain ⟨rfl, rfl⟩ := Prod.mk.inj (Option.some.inj taken)
      refine ⟨rfl, rfl, ?_⟩
      unfold slots enter
      rw [idle, List.map_append, ← List.append_assoc]
      exact List.perm_append_singleton _ _

/-- A user that is made has the next number. -/
theorem slots_enter_create (made : execution.pool.create? = some (slot, pool)) :
    slot = ⟨execution.pool.created + 1, 0⟩ ∧ pool.created = execution.pool.created + 1 ∧
      pool.limit = execution.pool.limit ∧
      (execution.enter slot pool).slots.Perm (slot :: execution.slots) := by
  unfold Pool.create? at made
  split_ifs at made with below
  obtain ⟨rfl, rfl⟩ := Prod.mk.inj (Option.some.inj made)
  refine ⟨rfl, rfl, rfl, ?_⟩
  unfold slots enter
  rw [List.map_append, ← List.append_assoc]
  exact List.perm_append_singleton _ _

/-- The phase of an iteration does not change its user. -/
theorem slots_advance (execution : Execution) (user : ℕ) (phase : IterationPhase) :
    (execution.advance user phase).slots = execution.slots := by
  unfold slots advance
  rw [List.map_map]
  congr 2
  funext iteration
  change (if iteration.slot.user = user then { iteration with phase } else iteration).slot = _
  split_ifs <;> rfl

/-- A look at the clock finds a rate. It changes the credit and the time of the last look, and nothing
else. -/
theorem exists_watch_eq {now : Span} {look : Look} (found : execution.watch? plan now = some look) :
    ∃ rate credit, plan.profile.rateAt? plan.settings.startRate now.toMillis = some rate ∧
      look.elapsed = now.toMillis ∧ look.execution = { execution with credit, last := now } := by
  obtain ⟨rate, offered, same⟩ := Option.bind_eq_some_iff.mp found
  obtain rfl := Option.some.inj same
  exact ⟨rate, _, offered, rfl, rfl⟩

namespace IsBalanced

theorem nodup (balanced : execution.IsBalanced limit pending) :
    (execution.inFlight.map fun iteration => iteration.slot.user).Nodup := by
  have all := balanced.users.nodup_iff.mpr List.nodup_range'
  rw [slots, List.map_append, List.map_map] at all
  exact all.of_append_right

/-- The iteration of a user is the only one of the user. -/
theorem exists_split (balanced : execution.IsBalanced limit pending)
    (found : execution.iteration? user = some iteration) :
    iteration.slot.user = user ∧ ∃ before after,
      execution.inFlight = before ++ iteration :: after ∧
        ∀ other ∈ before ++ after, other.slot.user ≠ user := by
  obtain ⟨same, before, after, split, earlier⟩ := List.find?_eq_some_iff_append.mp found
  have same : iteration.slot.user = user := of_decide_eq_true same
  refine ⟨same, before, after, split, ?_⟩
  intro other inside
  rcases List.mem_append.mp inside with isBefore | isAfter
  · simpa using earlier other isBefore
  · have distinct := balanced.nodup
    rw [split, List.map_append, List.map_cons] at distinct
    have unique := (List.nodup_cons.mp distinct.of_append_right).1
    rintro rfl
    exact unique (same ▸ List.mem_map_of_mem isAfter)

/-- Only the iteration of the user comes to another phase. -/
theorem inFlight_advance (balanced : execution.IsBalanced limit pending)
    (found : execution.iteration? user = some iteration) (phase : IterationPhase) :
    ∃ before after, execution.inFlight = before ++ iteration :: after ∧
      (execution.advance user phase).inFlight = before ++ { iteration with phase } :: after := by
  obtain ⟨same, before, after, split, others⟩ := balanced.exists_split found
  have kept : ∀ iterations : List Iteration, (∀ other ∈ iterations, other.slot.user ≠ user) →
      iterations.map (fun iteration =>
        if iteration.slot.user = user then { iteration with phase } else iteration) =
        iterations := by
    intro iterations different
    conv_rhs => rw [← List.map_id iterations]
    apply List.map_congr_left
    intro other inside
    exact if_neg (different other inside)
  refine ⟨before, after, split, ?_⟩
  unfold advance
  rw [split, List.map_append, List.map_cons, if_pos same,
    kept before fun other inside => others other (List.mem_append_left _ inside),
    kept after fun other inside => others other (List.mem_append_right _ inside)]

/-- An iteration that comes to a phase is counted in it, and not in the phase before. -/
theorem countP_advance (balanced : execution.IsBalanced limit pending)
    (found : execution.iteration? user = some iteration) (phase : IterationPhase)
    (holds : Iteration → Bool) :
    (execution.advance user phase).inFlight.countP holds + countIf (holds iteration) =
      execution.inFlight.countP holds + countIf (holds { iteration with phase }) := by
  obtain ⟨before, after, split, advanced⟩ := balanced.inFlight_advance found phase
  unfold countIf
  rw [split, advanced, List.countP_append, List.countP_append, List.countP_cons, List.countP_cons]
  omega

theorem countArrival (balanced : execution.IsBalanced limit pending) :
    execution.countArrival.IsBalanced limit (pending + 1) := by
  obtain ⟨users, limited, arrivals, completedLe, completedModEq⟩ := balanced
  refine ⟨users, limited, ?_, completedLe, completedModEq⟩
  change execution.arrivals + 1 = _
  rw [arrivals]
  rfl

/-- A look at the clock changes nothing that is booked. -/
theorem watch (balanced : execution.IsBalanced limit pending) {now : Span} {look : Look}
    (found : execution.watch? plan now = some look) : look.execution.IsBalanced limit pending := by
  obtain ⟨rate, credit, -, -, same⟩ := exists_watch_eq found
  rw [same]
  obtain ⟨users, limited, arrivals, completedLe, completedModEq⟩ := balanced
  exact ⟨users, limited, arrivals, completedLe, completedModEq⟩

theorem interrupt (balanced : execution.IsBalanced limit pending) :
    execution.interrupt.IsBalanced limit pending := by
  obtain ⟨users, limited, arrivals, completedLe, completedModEq⟩ := balanced
  exact ⟨users, limited, arrivals, completedLe, completedModEq⟩

/-- An arrival is settled by a user that is or becomes one of all users. -/
theorem enter (balanced : execution.IsBalanced limit (pending + 1))
    (users : ((execution.enter slot pool).slots.map UserSlot.user).Perm
      (List.range' 1 pool.created))
    (limited : pool.limit ≤ limit)
    (counted : iterations (execution.enter slot pool).slots = iterations execution.slots) :
    (execution.enter slot pool).IsBalanced limit pending := by
  obtain ⟨-, -, arrivals, completedLe, completedModEq⟩ := balanced
  constructor
  case users => exact users
  case limited => exact limited
  case arrivals =>
    rw [unanswered_enter]
    change execution.arrivals = execution.tally.merge.total + execution.tally.merge.dropped + _ + _
    omega
  case completed_le =>
    rw [counted, answered_enter]
    exact completedLe
  case completed_modEq =>
    rw [counted, answered_enter]
    exact completedModEq

/-- An idle user begins an iteration. -/
theorem enter_takeIdle (balanced : execution.IsBalanced limit (pending + 1))
    (taken : execution.pool.takeIdle? = some (slot, pool)) :
    (execution.enter slot pool).IsBalanced limit pending := by
  obtain ⟨created, kept, permutation⟩ := slots_enter_takeIdle taken
  apply balanced.enter
  · rw [created]
    exact (permutation.map _).trans balanced.users
  · exact kept.trans_le balanced.limited
  · exact iterations_perm permutation

/-- A new user begins an iteration. -/
theorem enter_create (balanced : execution.IsBalanced limit (pending + 1))
    (made : execution.pool.create? = some (slot, pool)) :
    (execution.enter slot pool).IsBalanced limit pending := by
  obtain ⟨rfl, created, kept, permutation⟩ := slots_enter_create made
  apply balanced.enter
  · rw [created, List.range'_concat]
    refine (permutation.map UserSlot.user).trans ?_
    rw [List.map_cons, Nat.one_mul, Nat.add_comm 1]
    exact (balanced.users.cons _).trans (List.perm_append_singleton _ _).symm
  · exact kept.trans_le balanced.limited
  · rw [iterations_perm permutation, iterations_cons, Nat.zero_add]

/-- An arrival without a user is dropped. -/
theorem drop (balanced : execution.IsBalanced limit (pending + 1)) (elapsed : Float) :
    (execution.drop plan elapsed).IsBalanced limit pending := by
  obtain ⟨users, limited, arrivals, completedLe, completedModEq⟩ := balanced
  have total : (execution.drop plan elapsed).tally.merge.total = execution.tally.merge.total :=
    ShardedTally.total_merge_dropped _ _ _
  have dropped : (execution.drop plan elapsed).tally.merge.dropped =
      execution.tally.merge.dropped + 1 :=
    ShardedTally.dropped_merge_dropped _ _ _
  constructor
  case users => exact users
  case limited => exact limited
  case arrivals =>
    rw [total, dropped]
    change execution.arrivals = _ + execution.unanswered + _
    omega
  case completed_le =>
    rw [total]
    exact completedLe
  case completed_modEq =>
    rw [total]
    exact completedModEq

/-- An iteration that looks at the clock is still under way. -/
theorem begin (balanced : execution.IsBalanced limit pending) (user : ℕ) (now : Span) :
    (execution.begin plan user now).IsBalanced limit pending := by
  unfold Execution.begin
  split
  case h_1 slot found =>
    have answered : (execution.advance user (.begun (labelAfter plan now))).answered =
        execution.answered :=
      balanced.countP_advance found _ Iteration.isRecorded
    have unanswered : (execution.advance user (.begun (labelAfter plan now))).unanswered + 1 =
        execution.unanswered + 1 :=
      balanced.countP_advance found _ fun iteration => !iteration.isRecorded
    obtain ⟨users, limited, arrivals, completedLe, completedModEq⟩ := balanced
    constructor
    case users =>
      rw [slots_advance]
      exact users
    case limited => exact limited
    case arrivals =>
      change execution.arrivals = execution.tally.merge.total + execution.tally.merge.dropped +
        _ + _
      omega
    case completed_le =>
      rw [slots_advance, answered]
      exact completedLe
    case completed_modEq =>
      rw [slots_advance, answered]
      exact completedModEq
  case h_2 => exact balanced

/-- An answer that is recorded is one more request in the tally. -/
theorem record (balanced : execution.IsBalanced limit pending) (user : ℕ) (answer : Answer)
    (duration : Span) : (execution.record user answer duration).IsBalanced limit pending := by
  unfold Execution.record
  split
  case h_1 slot label found =>
    have answered : (execution.advance user .recorded).answered = execution.answered + 1 :=
      balanced.countP_advance found .recorded Iteration.isRecorded
    have unanswered : (execution.advance user .recorded).unanswered + 1 = execution.unanswered :=
      balanced.countP_advance found .recorded fun iteration => !iteration.isRecorded
    obtain ⟨users, limited, arrivals, completedLe, completedModEq⟩ := balanced
    have total := execution.tally.total_merge_request user label.tag label.target duration
      answer.status? answer.error?
    have dropped := execution.tally.dropped_merge_request user label.tag label.target duration
      answer.status? answer.error?
    have slots := execution.slots_advance user .recorded
    constructor
    case users =>
      change ((execution.advance user .recorded).slots.map UserSlot.user).Perm _
      rw [slots]
      exact users
    case limited => exact limited
    case arrivals =>
      rw [total, dropped]
      change execution.arrivals = _ + (execution.advance user .recorded).unanswered + _
      omega
    case completed_le =>
      rw [total]
      change iterations (execution.advance user .recorded).slots +
        (execution.advance user .recorded).answered ≤ _
      rw [slots]
      omega
    case completed_modEq =>
      rw [total]
      change iterations (execution.advance user .recorded).slots +
        (execution.advance user .recorded).answered ≡ _ [MOD Word.size]
      rw [slots, answered, ← Nat.add_assoc]
      exact completedModEq.add_right 1
  case h_2 => exact balanced

theorem filter_inFlight (balanced : execution.IsBalanced limit pending)
    (found : execution.iteration? user = some iteration) :
    ∃ before after, execution.inFlight = before ++ iteration :: after ∧
      (execution.inFlight.filter fun iteration => iteration.slot.user ≠ user) =
        before ++ after := by
  obtain ⟨same, before, after, split, others⟩ := balanced.exists_split found
  have kept : ∀ iterations : List Iteration, (∀ other ∈ iterations, other.slot.user ≠ user) →
      iterations.filter (fun iteration => iteration.slot.user ≠ user) = iterations := by
    intro iterations different
    rw [List.filter_eq_self]
    intro other inside
    exact decide_eq_true (different other inside)
  refine ⟨before, after, split, ?_⟩
  rw [split, List.filter_append, List.filter_cons_of_neg (by simpa using same),
    kept before fun other inside => others other (List.mem_append_left _ inside),
    kept after fun other inside => others other (List.mem_append_right _ inside)]

/-- The user of an iteration whose answer is recorded changes its counter and becomes idle, and all
others stay as they are. -/
theorem exists_handBack (balanced : execution.IsBalanced limit pending)
    (found : execution.iteration? user = some ⟨slot, .recorded⟩) :
    ∃ rest, execution.slots.Perm (slot :: rest) ∧
      (execution.handBack user).slots.Perm (slot.complete :: rest) ∧
      execution.answered = (execution.handBack user).answered + 1 ∧
      execution.unanswered = (execution.handBack user).unanswered := by
  obtain ⟨before, after, split, filtered⟩ := balanced.filter_inFlight found
  have released : (execution.handBack user).inFlight = before ++ after := by
    unfold Execution.handBack
    rw [found]
    exact filtered
  have idle : (execution.handBack user).pool.idle = execution.pool.idle ++ [slot.complete] := by
    unfold Execution.handBack
    rw [found]
    rfl
  refine ⟨execution.pool.idle ++ (before ++ after).map Iteration.slot, ?_, ?_, ?_, ?_⟩
  · rw [slots, split, List.map_append, List.map_append, List.map_cons, ← List.append_assoc,
      ← List.append_assoc]
    exact List.perm_middle
  · rw [slots, released, idle, List.append_assoc]
    exact List.perm_middle
  · rw [answered, answered, split, released, List.countP_append, List.countP_cons,
      List.countP_append]
    simp only [Iteration.isRecorded, decide_true, if_true]
    omega
  · rw [unanswered, unanswered, split, released, List.countP_append, List.countP_cons,
      List.countP_append]
    simp only [Iteration.isRecorded, decide_true, Bool.not_true, Bool.false_eq_true, if_false]
    omega

/-- What is handed back changes neither the tally nor the number of users. -/
theorem handBack_eq (execution : Execution) (user : ℕ) :
    (execution.handBack user).tally = execution.tally ∧
      (execution.handBack user).arrivals = execution.arrivals ∧
      (execution.handBack user).pool.created = execution.pool.created ∧
      (execution.handBack user).pool.limit = execution.pool.limit := by
  unfold Execution.handBack
  split
  · exact ⟨rfl, rfl, rfl, rfl⟩
  · exact ⟨rfl, rfl, rfl, rfl⟩

/-- A user that is handed back has completed one more iteration. -/
theorem handBack (balanced : execution.IsBalanced limit pending) (user : ℕ) :
    (execution.handBack user).IsBalanced limit pending := by
  by_cases recorded : ∃ slot, execution.iteration? user = some ⟨slot, .recorded⟩
  · obtain ⟨slot, found⟩ := recorded
    obtain ⟨rest, earlier, later, answered, unanswered⟩ := balanced.exists_handBack found
    obtain ⟨users, limited, arrivals, completedLe, completedModEq⟩ := balanced
    obtain ⟨tally, counted, created, kept⟩ := handBack_eq execution user
    rw [iterations_perm earlier, iterations_cons, answered] at completedLe completedModEq
    constructor
    case users =>
      rw [created]
      exact ((later.map UserSlot.user).trans (earlier.map UserSlot.user).symm).trans users
    case limited => exact kept.trans_le limited
    case arrivals => rw [tally, counted, arrivals, unanswered]
    case completed_le =>
      have counter : slot.complete.iterations ≤ slot.iterations + 1 := Nat.mod_le _ _
      rw [tally, iterations_perm later, iterations_cons]
      omega
    case completed_modEq =>
      have counter : slot.complete.iterations ≡ slot.iterations + 1 [MOD Word.size] :=
        Nat.mod_modEq _ _
      rw [tally, iterations_perm later, iterations_cons]
      refine ((counter.add_right _).add_right _).trans ?_
      convert completedModEq using 1
      omega
  · have unchanged : execution.handBack user = execution := by
      unfold Execution.handBack
      split
      case h_1 slot found => exact absurd ⟨slot, found⟩ recorded
      case h_2 => rfl
    rw [unchanged]
    exact balanced

end IsBalanced

end Execution

end ArrivalRamp
