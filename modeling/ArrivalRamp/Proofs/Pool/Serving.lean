import ArrivalRamp.Pool
import Mathlib.Data.List.Range
import Mathlib.Tactic

/-!
Users taken one after another while none is handed back. The users that were made at the start come
first, then new ones up to the limit, and each has the next number. The number of users that are
made at the start is taken modulo the size of a 32-bit word, so a greater one is not cut to the
greatest number of users as the limit is.
-/

namespace ArrivalRamp.Pool

/-- Users of consecutive numbers who have not run yet. -/
def freshUsers (first count : ℕ) : List UserSlot :=
  (List.range' first count).map fun user => ⟨user, 0⟩

theorem freshUsers_succ (first count : ℕ) :
    freshUsers first (count + 1) = ⟨first, 0⟩ :: freshUsers (first + 1) count := by
  rw [freshUsers, List.range'_succ, List.map_cons]
  rfl

/-- Users that are taken one after another, as many as are asked for, and the pool after them. -/
def acquireTimes? : ℕ → Pool → Option (List UserSlot × Pool)
  | 0, pool => some ([], pool)
  | count + 1, pool => do
    let (slot, next) ← pool.acquire?
    let (slots, last) ← acquireTimes? count next
    return (slot :: slots, last)

/-- A pool that started with users of its own has given out the first ones. -/
structure HasGiven (made most given : ℕ) (pool : Pool) : Prop where
  idle : pool.idle = freshUsers (given + 1) (made - given)
  created : pool.created = max made given
  limit : pool.limit = most

namespace HasGiven

variable {made most given : ℕ} {pool : Pool} (state : pool.HasGiven made most given)

include state

/-- The next user is idle, or it is made. -/
theorem exists_acquire (more : given < most) :
    ∃ next, pool.acquire? = some (⟨given + 1, 0⟩, next) ∧ next.HasGiven made most (given + 1) := by
  obtain ⟨idle, created, limit⟩ := state
  unfold acquire? takeIdle?
  rcases Nat.lt_or_ge given made with left | spent
  · have counted : made - given = made - (given + 1) + 1 := by omega
    rw [counted, freshUsers_succ] at idle
    rw [idle]
    refine ⟨_, rfl, rfl, ?_, limit⟩
    change pool.created = _
    omega
  · obtain rfl : given = pool.created := by omega
    have below : pool.created < pool.limit := by omega
    have none : made - pool.created = 0 := by omega
    have later : made - (pool.created + 1) = 0 := by omega
    rw [none] at idle
    rw [idle]
    unfold create?
    rw [dif_pos below]
    refine ⟨_, rfl, ?_, ?_, limit⟩
    · rw [later]
      exact idle
    · change pool.created + 1 = max made (pool.created + 1)
      omega

/-- There is no further user beyond the limit. -/
theorem acquire_eq_none (full : most ≤ given) : pool.acquire? = none := by
  obtain ⟨idle, created, limit⟩ := state
  have bounded := pool.created_le
  have none : made - given = 0 := by omega
  rw [none] at idle
  unfold acquire? takeIdle?
  rw [idle]
  unfold create?
  exact dif_neg (by omega)

/-- Users come in the order of their numbers up to the limit. -/
theorem exists_acquireTimes {count : ℕ} (enough : given + count ≤ most) :
    ∃ last, pool.acquireTimes? count = some (freshUsers (given + 1) count, last) ∧
      last.HasGiven made most (given + count) := by
  induction count generalizing given pool with
  | zero => exact ⟨pool, rfl, state⟩
  | succ count ih =>
      obtain ⟨next, taken, after⟩ := state.exists_acquire (by omega)
      obtain ⟨last, rest, finished⟩ := ih after (by omega)
      refine ⟨last, ?_, ?_⟩
      · rw [acquireTimes?, taken, freshUsers_succ]
        simp [rest]
      · rwa [Nat.add_right_comm] at finished

/-- No more users can be taken than the limit allows. -/
theorem acquireTimes_eq_none {count : ℕ} (many : most < given + count) :
    pool.acquireTimes? count = none := by
  induction count generalizing given pool with
  | zero =>
      have created := state.created
      have bounded := pool.created_le
      have limit := state.limit
      omega
  | succ count ih =>
      rcases Nat.lt_or_ge given most with more | full
      · obtain ⟨next, taken, after⟩ := state.exists_acquire more
        rw [acquireTimes?, taken]
        simp [ih after (by omega)]
      · rw [acquireTimes?, state.acquire_eq_none full]
        rfl

end HasGiven

/-- A pool starts with users who are all idle. It gives out users in the order of their numbers,
makes one only when no other is left, and ends after a number of them. -/
structure Serves (made most : ℕ) (pool : Pool) : Prop where
  created : pool.created = made
  idle : pool.idle = freshUsers 1 made
  granted : ∀ count ≤ most, ∃ last,
    pool.acquireTimes? count = some (freshUsers 1 count, last) ∧ last.created = max made count
  refused : ∀ count, most < count → pool.acquireTimes? count = none

theorem HasGiven.serves {made most : ℕ} {pool : Pool} (state : pool.HasGiven made most 0) :
    pool.Serves made most where
  created := state.created.trans (max_eq_left (Nat.zero_le made))
  idle := state.idle
  granted := by
    intro count enough
    have within : 0 + count ≤ most := by omega
    obtain ⟨last, taken, after⟩ := state.exists_acquireTimes within
    refine ⟨last, taken, ?_⟩
    rw [after.created, Nat.zero_add]
  refused count many := state.acquireTimes_eq_none (by omega)

/-- A pool starts with the users that it is asked for, modulo the size of a 32-bit word, and ends at
the greater of its two sizes or at the greatest number of users. The users at its start are those
that it is asked for, or the greatest number of them, exactly when the word can hold the number or
happens to be the greatest. -/
theorem serves_ofSize_iff (preAllocated limit : ℕ) :
    (ofSize preAllocated limit).Serves (preAllocated % 0x100000000)
        (min (max preAllocated limit) maxUsers) ∧
      ((ofSize preAllocated limit).Serves (min preAllocated maxUsers)
          (min (max preAllocated limit) maxUsers) ↔
        preAllocated ≤ maxUsers ∨ preAllocated % 0x100000000 = maxUsers) := by
  have made : (ofSize preAllocated limit).created = preAllocated % 0x100000000 := by
    change min (preAllocated % 0x100000000) (min (max limit preAllocated) maxUsers) = _
    unfold maxUsers
    omega
  have serves : (ofSize preAllocated limit).Serves (preAllocated % 0x100000000)
      (min (max preAllocated limit) maxUsers) := by
    apply HasGiven.serves
    constructor
    case idle => exact congrArg (freshUsers 1) made
    case created => exact made.trans (max_eq_left (Nat.zero_le _)).symm
    case limit =>
      change min (max limit preAllocated) maxUsers = _
      rw [max_comm]
  refine ⟨serves, ?_⟩
  constructor
  · intro asked
    have same := made.symm.trans asked.created
    unfold maxUsers at same ⊢
    omega
  · intro fits
    have same : min preAllocated maxUsers = preAllocated % 0x100000000 := by
      unfold maxUsers at fits ⊢
      omega
    rwa [same]

/-- A pool that is asked for one user more than a word can hold starts with none. -/
theorem not_serves_ofSize_wordSize :
    (ofSize 0x100000000 1).created = 0 ∧
      ¬(ofSize 0x100000000 1).Serves (min 0x100000000 maxUsers)
        (min (max 0x100000000 1) maxUsers) := by
  refine ⟨by decide, ?_⟩
  intro serves
  exact absurd serves.created (by decide)

end ArrivalRamp.Pool
