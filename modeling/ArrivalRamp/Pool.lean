import ArrivalRamp.Profile.Label

/-!
The pool of virtual users. Some users exist from the start and others are made on demand, up to a
limit. A user is taken out for one iteration and handed back after it.
-/

namespace ArrivalRamp

/-- A virtual user with the number of iterations it has completed. -/
structure UserSlot where
  user : Nat
  iterations : Nat
  deriving DecidableEq, Repr

namespace UserSlot

/-- The iteration that a user is about to run. -/
def workUnit (slot : UserSlot) : WorkUnit :=
  ⟨slot.user, slot.iterations⟩

/-- The user after one more iteration. Its counter is a word. -/
def complete (slot : UserSlot) : UserSlot :=
  { slot with iterations := (slot.iterations + 1) % Word.size }

end UserSlot

/-- The idle users in the order in which they were handed back, the number of users made so far,
and how many there may be. -/
structure Pool where
  idle : List UserSlot
  created : Nat
  limit : Nat
  created_le : created ≤ limit

namespace Pool

/-- The greatest number of users. -/
def maxUsers : Nat := 0xFFFFFFFF

/-- A pool with users made before the start. The limit is raised to their number, and a number of
users is a 32-bit word. -/
def ofSize (preAllocated limit : Nat) : Pool :=
  let bound := min (max limit preAllocated) maxUsers
  let made := min (preAllocated % 0x100000000) bound
  { idle := (List.range' 1 made).map fun user => ⟨user, 0⟩
    created := made
    limit := bound
    created_le := Nat.min_le_right _ _ }

/-- The user that has been idle the longest. -/
def takeIdle? (pool : Pool) : Option (UserSlot × Pool) :=
  match pool.idle with
  | [] => none
  | slot :: others => some (slot, { pool with idle := others })

/-- A new user, as long as the limit allows one. -/
def create? (pool : Pool) : Option (UserSlot × Pool) :=
  if below : pool.created < pool.limit then
    some (⟨pool.created + 1, 0⟩, { pool with created := pool.created + 1, created_le := below })
  else none

/-- An idle user, or else a new one. There is none when all users are busy. -/
def acquire? (pool : Pool) : Option (UserSlot × Pool) :=
  match pool.takeIdle? with
  | some taken => some taken
  | none => pool.create?

/-- A user handed back behind the idle ones. -/
def giveBack (slot : UserSlot) (pool : Pool) : Pool :=
  { pool with idle := pool.idle ++ [slot] }

/-- A user handed back after its iteration. -/
def release (slot : UserSlot) (pool : Pool) : Pool :=
  pool.giveBack slot.complete

end Pool

end ArrivalRamp
