import ArrivalRamp.Pool
import Mathlib.Data.List.Range
import Mathlib.Tactic

/-!
A pool that clients share. A client that wants a user takes an idle one, and makes one in a second
step when it found none. A user comes back in two steps as well. The steps of all clients come in
any order.
-/

namespace ArrivalRamp

open scoped List

/-- One step of a client that wants a user, or of whoever has one. Its iteration is counted before
it is idle again. -/
inductive PoolStep where
  | take (client : ℕ)
  | make (client : ℕ)
  | complete (slot : UserSlot)
  | giveBack (slot : UserSlot)
  deriving DecidableEq

namespace PoolStep

/-- The client that wants a user in a step. -/
def client? : PoolStep → Option ℕ
  | .take client => some client
  | .make client => some client
  | _ => none

/-- No client but one wants a user in any of the steps. -/
def IsLone (client : ℕ) (taken : List PoolStep) : Prop :=
  ∀ step ∈ taken, ∀ other, step.client? = some other → other = client

end PoolStep

/-- A pool in use: the users that are held for an iteration, those whose iteration is counted and
who are not idle yet, the clients that found no idle user and have not tried to make one, and what
the clients got so far. -/
structure PoolUse where
  pool : Pool
  held : List UserSlot
  returning : List UserSlot
  seekers : List ℕ
  answers : List (ℕ × Option WorkUnit)

namespace PoolUse

/-- A pool that nobody has used yet. -/
def start (preAllocated limit : ℕ) : PoolUse :=
  ⟨.ofSize preAllocated limit, [], [], [], []⟩

/-- The users that are not idle. -/
def out (use : PoolUse) : List UserSlot :=
  use.held ++ use.returning

/-- All users, the idle ones first. -/
def slots (use : PoolUse) : List UserSlot :=
  use.pool.idle ++ use.out

/-- A client gets a user. -/
def grant (client : ℕ) (slot : UserSlot) (pool : Pool) (use : PoolUse) : PoolUse :=
  { use with
    pool
    held := slot :: use.held
    seekers := use.seekers.erase client
    answers := use.answers ++ [(client, some slot.workUnit)] }

/-- A client gets no user. -/
def refuse (client : ℕ) (use : PoolUse) : PoolUse :=
  { use with
    seekers := use.seekers.erase client
    answers := use.answers ++ [(client, none)] }

/-- A client looks for an idle user. -/
def take? (client : ℕ) (use : PoolUse) : Option PoolUse :=
  if client ∈ use.seekers then none
  else match use.pool.takeIdle? with
    | some (slot, pool) => some (use.grant client slot pool)
    | none => some { use with seekers := client :: use.seekers }

/-- A client that found no idle user makes one, as far as the limit allows. -/
def make? (client : ℕ) (use : PoolUse) : Option PoolUse :=
  if client ∈ use.seekers then
    match use.pool.create? with
    | some (slot, pool) => some (use.grant client slot pool)
    | none => some (use.refuse client)
  else none

/-- The iteration of a user that is held is counted. -/
def complete? (slot : UserSlot) (use : PoolUse) : Option PoolUse :=
  if slot ∈ use.held then
    some { use with
      held := use.held.erase slot
      returning := slot.complete :: use.returning }
  else none

/-- A user whose iteration is counted becomes idle. -/
def giveBack? (slot : UserSlot) (use : PoolUse) : Option PoolUse :=
  if slot ∈ use.returning then
    some { use with
      pool := use.pool.giveBack slot
      returning := use.returning.erase slot }
  else none

/-- The use after a step, if the step is possible. -/
def step? (use : PoolUse) : PoolStep → Option PoolUse
  | .take client => use.take? client
  | .make client => use.make? client
  | .complete slot => use.complete? slot
  | .giveBack slot => use.giveBack? slot

/-- The use after steps in their order, if all of them are possible. -/
def steps? (use : PoolUse) (taken : List PoolStep) : Option PoolUse :=
  taken.foldlM step? use

variable {use next last : PoolUse} {client limit : ℕ} {slot : UserSlot} {taken : List PoolStep}

theorem steps?_concat (use : PoolUse) (taken : List PoolStep) (step : PoolStep) :
    use.steps? (taken ++ [step]) = (use.steps? taken).bind fun reached => reached.step? step := by
  unfold steps?
  rw [List.foldlM_append]
  simp

/-- The steps before the last one lead to a use in which the last one is possible. -/
theorem exists_of_steps?_concat {step : PoolStep}
    (reached : use.steps? (taken ++ [step]) = some last) :
    ∃ before, use.steps? taken = some before ∧ before.step? step = some last := by
  rw [steps?_concat] at reached
  exact Option.bind_eq_some_iff.mp reached

section Whole

/-- A client that gets a user or none in one piece takes one step, or two of them. -/
theorem exists_steps?_acquire (free : client ∉ use.seekers) :
    ∃ taken ∈ [[.take client], [.take client, .make client]],
      use.steps? taken = some (match use.pool.acquire? with
        | some (slot, pool) => use.grant client slot pool
        | none => use.refuse client) := by
  have unchanged : use.seekers.erase client = use.seekers := List.erase_of_not_mem free
  cases taken : use.pool.takeIdle? with
  | some found =>
      refine ⟨[.take client], by simp, ?_⟩
      simp [steps?, step?, take?, free, taken, Pool.acquire?]
  | none =>
      refine ⟨[.take client, .make client], by simp, ?_⟩
      cases made : use.pool.create? with
      | some found =>
          simp [steps?, step?, take?, make?, free, taken, made, Pool.acquire?, grant, unchanged]
      | none =>
          simp [steps?, step?, take?, make?, free, taken, made, Pool.acquire?, refuse, unchanged]

/-- A user that is handed back in one piece takes two steps. -/
theorem steps?_release (inside : slot ∈ use.held) :
    use.steps? [.complete slot, .giveBack slot.complete] =
      some { use with pool := use.pool.release slot, held := use.held.erase slot } := by
  simp [steps?, step?, complete?, giveBack?, inside, Pool.release]

end Whole

/-- Each user that was made is idle or out, the limit is the one of the start, and a client asks for
one user at a time. -/
structure IsSound (limit : ℕ) (use : PoolUse) : Prop where
  users : use.slots.map UserSlot.user ~ List.range' 1 use.pool.created
  limited : use.pool.limit = limit
  seekers : use.seekers.Nodup

theorem isSound_start (preAllocated limit : ℕ) :
    (start preAllocated limit).IsSound (Pool.ofSize preAllocated limit).limit where
  users := by
    unfold slots out start Pool.ofSize
    simp [Function.comp_def]
  limited := rfl
  seekers := List.nodup_nil

/-- A user that was idle is out. -/
theorem slots_grant_takeIdle (client : ℕ) {pool : Pool}
    (taken : use.pool.takeIdle? = some (slot, pool)) :
    pool.created = use.pool.created ∧ pool.limit = use.pool.limit ∧
      use.pool.idle = slot :: pool.idle ∧ (use.grant client slot pool).slots ~ use.slots := by
  unfold Pool.takeIdle? at taken
  cases idle : use.pool.idle with
  | nil => simp [idle] at taken
  | cons first others =>
      rw [idle] at taken
      obtain ⟨rfl, rfl⟩ := Prod.mk.inj (Option.some.inj taken)
      refine ⟨rfl, rfl, rfl, ?_⟩
      unfold slots
      rw [idle]
      exact List.perm_middle

/-- A user that is made has the next number, and it is out. -/
theorem slots_grant_create (client : ℕ) {pool : Pool}
    (made : use.pool.create? = some (slot, pool)) :
    slot = ⟨use.pool.created + 1, 0⟩ ∧ pool.created = use.pool.created + 1 ∧
      pool.limit = use.pool.limit ∧ pool.idle = use.pool.idle ∧
      (use.grant client slot pool).slots ~ slot :: use.slots := by
  unfold Pool.create? at made
  split_ifs at made with below
  obtain ⟨rfl, rfl⟩ := Prod.mk.inj (Option.some.inj made)
  exact ⟨rfl, rfl, rfl, rfl, List.perm_middle⟩

/-- A user whose iteration is counted changes its counter, and all others stay as they are. -/
theorem exists_slots_complete (possible : use.complete? slot = some next) :
    ∃ rest, use.slots ~ slot :: rest ∧ next.slots ~ slot.complete :: rest := by
  unfold complete? at possible
  split_ifs at possible with inside
  obtain rfl := Option.some.inj possible
  refine ⟨use.pool.idle ++ (use.held.erase slot ++ use.returning), ?_, ?_⟩
  · calc use.pool.idle ++ (use.held ++ use.returning)
      _ ~ use.pool.idle ++ (slot :: (use.held.erase slot ++ use.returning)) :=
          ((List.perm_cons_erase inside).append_right _).append_left _
      _ ~ slot :: (use.pool.idle ++ (use.held.erase slot ++ use.returning)) := List.perm_middle
  · calc use.pool.idle ++ (use.held.erase slot ++ slot.complete :: use.returning)
      _ ~ use.pool.idle ++ (slot.complete :: (use.held.erase slot ++ use.returning)) :=
          List.perm_middle.append_left _
      _ ~ slot.complete :: (use.pool.idle ++ (use.held.erase slot ++ use.returning)) :=
          List.perm_middle

/-- A user that becomes idle is no longer out. -/
theorem slots_giveBack (possible : use.giveBack? slot = some next) : next.slots ~ use.slots := by
  unfold giveBack? at possible
  split_ifs at possible with inside
  obtain rfl := Option.some.inj possible
  calc (use.pool.idle ++ [slot]) ++ (use.held ++ use.returning.erase slot)
    _ = use.pool.idle ++ (slot :: (use.held ++ use.returning.erase slot)) := by simp
    _ ~ use.pool.idle ++ (use.held ++ slot :: use.returning.erase slot) :=
        List.perm_middle.symm.append_left _
    _ ~ use.pool.idle ++ (use.held ++ use.returning) :=
        ((List.perm_cons_erase inside).symm.append_left _).append_left _

/-- A pool makes no user exactly when there are as many as there may be. -/
theorem created_eq_limit_of_create? {pool : Pool} (none : pool.create? = none) :
    pool.created = pool.limit := by
  unfold Pool.create? at none
  split_ifs at none with below
  exact le_antisymm pool.created_le (not_lt.mp below)

namespace IsSound

variable (sound : use.IsSound limit)

include sound

/-- The users are the numbers from one on. -/
theorem nodup : (use.slots.map UserSlot.user).Nodup :=
  sound.users.nodup_iff.mpr List.nodup_range'

theorem mem_users_iff {user : ℕ} :
    user ∈ use.slots.map UserSlot.user ↔ 1 ≤ user ∧ user ≤ use.pool.created := by
  rw [sound.users.mem_iff, List.mem_range'_1]
  omega

theorem take (possible : use.take? client = some next) : next.IsSound limit := by
  obtain ⟨users, limited, seekers⟩ := sound
  unfold take? at possible
  split_ifs at possible with seeking
  split at possible
  case h_1 slot pool taken =>
    obtain rfl := Option.some.inj possible
    obtain ⟨created, kept, -, permutation⟩ := slots_grant_takeIdle client taken
    constructor
    case users =>
      change _ ~ List.range' 1 pool.created
      rw [created]
      exact (permutation.map UserSlot.user).trans users
    case limited => exact kept.trans limited
    case seekers => exact seekers.erase client
  case h_2 none =>
    obtain rfl := Option.some.inj possible
    exact ⟨users, limited, List.nodup_cons.mpr ⟨seeking, seekers⟩⟩

theorem make (possible : use.make? client = some next) : next.IsSound limit := by
  obtain ⟨users, limited, seekers⟩ := sound
  unfold make? at possible
  split_ifs at possible with seeking
  split at possible
  case h_1 slot pool made =>
    obtain rfl := Option.some.inj possible
    obtain ⟨rfl, created, kept, -, permutation⟩ := slots_grant_create client made
    constructor
    case users =>
      change _ ~ List.range' 1 pool.created
      rw [created, List.range'_concat]
      refine (permutation.map UserSlot.user).trans ?_
      rw [List.map_cons, Nat.one_mul, Nat.add_comm 1]
      exact (users.cons _).trans (List.perm_append_singleton _ _).symm
    case limited => exact kept.trans limited
    case seekers => exact seekers.erase client
  case h_2 none =>
    obtain rfl := Option.some.inj possible
    exact ⟨users, limited, seekers.erase client⟩

theorem complete (possible : use.complete? slot = some next) : next.IsSound limit := by
  obtain ⟨users, limited, seekers⟩ := sound
  obtain ⟨rest, earlier, later⟩ := exists_slots_complete possible
  have same : next.slots.map UserSlot.user ~ use.slots.map UserSlot.user :=
    (later.map UserSlot.user).trans (earlier.map UserSlot.user).symm
  unfold complete? at possible
  split_ifs at possible
  obtain rfl := Option.some.inj possible
  exact ⟨same.trans users, limited, seekers⟩

theorem giveBack (possible : use.giveBack? slot = some next) : next.IsSound limit := by
  obtain ⟨users, limited, seekers⟩ := sound
  have same := (slots_giveBack possible).map UserSlot.user
  unfold giveBack? at possible
  split_ifs at possible
  obtain rfl := Option.some.inj possible
  exact ⟨same.trans users, limited, seekers⟩

/-- Each step that is possible keeps the pool sound. -/
theorem step {step : PoolStep} (possible : use.step? step = some next) : next.IsSound limit := by
  cases step with
  | take client => exact sound.take possible
  | make client => exact sound.make possible
  | complete slot => exact sound.complete possible
  | giveBack slot => exact sound.giveBack possible

/-- Steps of any clients in any order keep the pool sound. -/
theorem steps (reached : use.steps? taken = some last) : last.IsSound limit := by
  induction taken using List.reverseRecOn generalizing last with
  | nil =>
      obtain rfl := Option.some.inj reached
      exact sound
  | append_singleton taken step ih =>
      obtain ⟨before, earlier, possible⟩ := exists_of_steps?_concat reached
      exact (ih earlier).step possible

end IsSound

/-- Only the second step of a request can leave a client without a user. Then there are as many
users as there may be. -/
theorem eq_make_of_refused {step : PoolStep} (possible : use.step? step = some next)
    (refused : next.answers = use.answers ++ [(client, none)]) :
    step = .make client ∧ client ∈ use.seekers ∧ use.pool.created = use.pool.limit := by
  cases step with
  | take other =>
      change use.take? other = some next at possible
      unfold take? at possible
      split_ifs at possible
      split at possible <;> obtain rfl := Option.some.inj possible <;> simp [grant] at refused
  | make other =>
      change use.make? other = some next at possible
      unfold make? at possible
      split_ifs at possible with seeking
      split at possible
      case h_1 slot pool made =>
        obtain rfl := Option.some.inj possible
        simp [grant] at refused
      case h_2 none =>
        obtain rfl := Option.some.inj possible
        obtain rfl : other = client := by simpa [refuse] using refused
        exact ⟨rfl, seeking, created_eq_limit_of_create? none⟩
  | complete slot =>
      change use.complete? slot = some next at possible
      unfold complete? at possible
      split_ifs at possible
      obtain rfl := Option.some.inj possible
      simp at refused
  | giveBack slot =>
      change use.giveBack? slot = some next at possible
      unfold giveBack? at possible
      split_ifs at possible
      obtain rfl := Option.some.inj possible
      simp at refused

/-- What is out comes back without a change to who asks for a user and to the number of users. -/
theorem seekers_eq_of_client? {step : PoolStep} (possible : use.step? step = some next)
    (back : step.client? = none) :
    next.seekers = use.seekers ∧ next.pool.created = use.pool.created := by
  cases step with
  | take client => cases back
  | make client => cases back
  | complete slot =>
      change use.complete? slot = some next at possible
      unfold complete? at possible
      split_ifs at possible
      obtain rfl := Option.some.inj possible
      exact ⟨rfl, rfl⟩
  | giveBack slot =>
      change use.giveBack? slot = some next at possible
      unfold giveBack? at possible
      split_ifs at possible
      obtain rfl := Option.some.inj possible
      exact ⟨rfl, rfl⟩

/-- A client that seeks after its own step has just found no idle user. -/
theorem IsSound.idle_eq_nil {step : PoolStep} (sound : use.IsSound limit)
    (possible : use.step? step = some next) (own : step.client? = some client)
    (seeking : client ∈ next.seekers) : step = .take client ∧ next.pool.idle = [] := by
  cases step with
  | take other =>
      obtain rfl := Option.some.inj own
      change use.take? other = some next at possible
      unfold take? at possible
      split_ifs at possible with earlier
      split at possible
      case h_1 slot pool taken =>
        obtain rfl := Option.some.inj possible
        exact absurd (List.mem_of_mem_erase seeking) earlier
      case h_2 none =>
        obtain rfl := Option.some.inj possible
        unfold Pool.takeIdle? at none
        split at none
        case h_1 idle => exact ⟨rfl, idle⟩
        case h_2 => cases none
  | make other =>
      obtain rfl := Option.some.inj own
      change use.make? other = some next at possible
      unfold make? at possible
      split_ifs at possible
      split at possible <;> obtain rfl := Option.some.inj possible
      · exact absurd seeking sound.seekers.not_mem_erase
      · exact absurd seeking sound.seekers.not_mem_erase
  | complete slot => cases own
  | giveBack slot => cases own

/-- While a lone client is between its two steps, users only come back. Its first step found no idle
user, and no user has been made since. -/
theorem IsSound.exists_take {first : PoolUse} (sound : first.IsSound limit)
    (free : first.seekers = []) (lone : PoolStep.IsLone client taken)
    (reached : first.steps? taken = some last) (seeking : client ∈ last.seekers) :
    ∃ earlier later moment, taken = earlier ++ .take client :: later ∧
      (∀ step ∈ later, step.client? = none) ∧
      first.steps? (earlier ++ [.take client]) = some moment ∧
      moment.pool.idle = [] ∧ moment.pool.created = last.pool.created := by
  induction taken using List.reverseRecOn generalizing last with
  | nil =>
      obtain rfl := Option.some.inj reached
      simp [free] at seeking
  | append_singleton taken step ih =>
      obtain ⟨before, start, possible⟩ := exists_of_steps?_concat reached
      cases own : step.client? with
      | some other =>
          obtain rfl := lone step (by simp) other own
          obtain ⟨rfl, idle⟩ := (sound.steps start).idle_eq_nil possible own seeking
          exact ⟨taken, [], last, rfl, by simp, reached, idle, rfl⟩
      | none =>
          obtain ⟨seekers, created⟩ := seekers_eq_of_client? possible own
          obtain ⟨earlier, later, moment, rfl, back, found, idle, kept⟩ :=
            ih (fun step inside => lone step (List.mem_append_left _ inside)) start
              (seekers ▸ seeking)
          refine ⟨earlier, later ++ [step], moment, by simp, ?_, found, idle, kept.trans created.symm⟩
          intro other inside
          rcases List.mem_append.mp inside with isEarlier | isLast
          · exact back other isEarlier
          · obtain rfl := List.mem_singleton.mp isLast
            exact own

/-- After steps of any clients in any order, the users that are idle or out are the numbers from one
to the number of users made, each of them once, and there are no more of them than the pool allows.
When one client alone asks for users, it is left without one only if, at its look for an idle user,
there were as many users as the pool allows and all of them were out. -/
theorem users_idle_or_out (preAllocated limit : ℕ) (taken : List PoolStep) (use : PoolUse)
    (reached : (start preAllocated limit).steps? taken = some use) :
    (use.slots.map UserSlot.user).Nodup ∧
      (∀ user, user ∈ use.slots.map UserSlot.user ↔ 1 ≤ user ∧ user ≤ use.pool.created) ∧
      use.pool.created ≤ (Pool.ofSize preAllocated limit).limit ∧
      ∀ client, PoolStep.IsLone client taken → ∀ step refused,
        use.step? step = some refused → refused.answers = use.answers ++ [(client, none)] →
        ∃ earlier later moment, taken = earlier ++ .take client :: later ∧
          (∀ step ∈ later, step.client? = none) ∧
          (start preAllocated limit).steps? (earlier ++ [.take client]) = some moment ∧
          moment.pool.created = (Pool.ofSize preAllocated limit).limit ∧
          moment.pool.idle = [] ∧
          ∀ user, 1 ≤ user → user ≤ (Pool.ofSize preAllocated limit).limit →
            user ∈ moment.out.map UserSlot.user := by
  have first := isSound_start preAllocated limit
  have sound := first.steps reached
  refine ⟨sound.nodup, fun user => sound.mem_users_iff, ?_, ?_⟩
  · rw [← sound.limited]
    exact use.pool.created_le
  · intro client lone step refused possible left
    obtain ⟨rfl, seeking, full⟩ := eq_make_of_refused possible left
    obtain ⟨earlier, later, moment, split, back, found, idle, created⟩ :=
      first.exists_take rfl lone reached seeking
    have all : moment.pool.created = (Pool.ofSize preAllocated limit).limit := by
      rw [created, full, sound.limited]
    refine ⟨earlier, later, moment, split, back, found, all, idle, ?_⟩
    intro user low high
    have inside := (first.steps found).mem_users_iff.mpr ⟨low, all ▸ high⟩
    rwa [slots, idle, List.nil_append] at inside

/-- The only user comes back just after a second look for an idle user. -/
def lateReturn : List PoolStep :=
  [.take 7, .make 7, .take 7, .complete ⟨1, 0⟩, .giveBack ⟨1, 1⟩]

theorem users_idle_or_out_lateReturn :
    ∃ use refused, (start 0 1).steps? lateReturn = some use ∧
      PoolStep.IsLone 7 lateReturn ∧ use.step? (.make 7) = some refused ∧
      refused.answers = use.answers ++ [(7, none)] ∧
      (use.slots.map UserSlot.user).Nodup ∧
      ∃ earlier moment, (start 0 1).steps? (earlier ++ [.take 7]) = some moment ∧
        moment.pool.idle = [] ∧ 1 ∈ moment.out.map UserSlot.user := by
  have reached : (start 0 1).steps? lateReturn =
      some ⟨⟨[⟨1, 1⟩], 1, 1, le_rfl⟩, [], [], [7], [(7, some ⟨1, 0⟩)]⟩ := rfl
  have lone : PoolStep.IsLone 7 lateReturn := by
    unfold PoolStep.IsLone lateReturn
    decide
  obtain ⟨distinct, -, -, refusals⟩ := users_idle_or_out 0 1 lateReturn _ reached
  obtain ⟨earlier, later, moment, -, -, found, -, idle, all⟩ :=
    refusals 7 lone (.make 7) _ rfl rfl
  exact ⟨_, _, reached, lone, rfl, rfl, distinct, earlier, moment, found, idle,
    all 1 le_rfl (by decide)⟩

end PoolUse

end ArrivalRamp
